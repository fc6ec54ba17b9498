import Clawhip.Gjc.Control

/-!
# Resumed calls

What a resumed call of `mutate` does to its plane, case by case. A call writes under its own key only,
except that a terminal receipt makes room where the registry is full; a write that fails leaves the
registry as it was, but not always the file.
-/

namespace Clawhip

open List Option OrdMap

namespace Gjc

/-! ## Receipts that go forward -/

/-- A receipt is the same one as before, with the same status or a later one. -/
structure CommandReceipt.LeadsTo (receipt later : CommandReceipt) : Prop where
  command_id : later.command_id = receipt.command_id
  session_id : later.session_id = receipt.session_id
  kind : later.kind = receipt.kind
  status : later.status = receipt.status ∨ receipt.status.canTransitionTo later.status = true

/-- What a status goes to by two transitions it goes to by one. -/
theorem CommandStatus.canTransitionTo_trans {a b c : CommandStatus} (hab : a.canTransitionTo b = true)
    (hbc : b.canTransitionTo c = true) : a.canTransitionTo c = true := by
  revert hab hbc
  revert a b c
  intro a b c
  cases a
  all_goals
    cases b
    all_goals
      cases c
      all_goals decide

theorem CommandReceipt.LeadsTo.refl (receipt : CommandReceipt) : receipt.LeadsTo receipt := ⟨rfl, rfl, rfl, .inl rfl⟩

theorem CommandReceipt.LeadsTo.trans {a b c : CommandReceipt} (hab : a.LeadsTo b)
    (hbc : b.LeadsTo c) : a.LeadsTo c := by
  refine ⟨hbc.command_id.trans hab.command_id, hbc.session_id.trans hab.session_id, hbc.kind.trans hab.kind, ?_⟩
  rcases hab.status with hsame | hab'
  · rw [← hsame]
    exact hbc.status
  · rcases hbc.status with hsame | hbc'
    · rw [hsame]
      exact .inr hab'
    · exact .inr (CommandStatus.canTransitionTo_trans hab' hbc')

/-! ## Writes -/

/-- A receipt that may be evicted: it is terminal, and the registry is full. -/
def Receipts.MayEvict (registry : Receipts) (key : String) : Prop :=
  MAX_COMMAND_RECEIPTS ≤ registry.length ∧ ∃ receipt, registry.get key = some receipt ∧ receipt.status.isTerminal = true

/-- A plane writes a receipt under a key. If that works, it is in the registry and in the file; if it
does not, the registry is as it was, and the file is too unless it was replaced before the failure. -/
structure PlaneState.Wrote (format : ReceiptFormat) (disk : JournalDisk)
    (plane plane' : PlaneState) (key : String) (receipt : CommandReceipt) (candidate : Receipts)
    (ok : Bool) : Prop where
  own : candidate.get key = some receipt
  others : ∀ other ≠ key, candidate.get other = plane.registry.get other ∨
    plane.registry.get key = none ∧ plane.registry.MayEvict other ∧ candidate.get other = none
  nodup : plane.registry.keys.Nodup → candidate.keys.Nodup
  journal : plane'.journal = plane.journal
  valid : ok = true → persistComplaint format disk candidate = none
  done : ok = true → plane'.registry = candidate ∧ plane'.file = candidate
  undone : ok = false → (∀ other, plane'.registry.get other = plane.registry.get other) ∧
    (plane.registry.keys.Nodup → plane'.registry.keys.Nodup) ∧
      (plane'.file = plane.file ∨ disk.fails .syncDirectory = true ∧ plane'.file = candidate)

/-- What the file holds after a write, and what was answered. -/
theorem persistReceipts_cases (format : ReceiptFormat) (disk : JournalDisk) (file registry : Receipts) :
    persistComplaint format disk registry = none ∧ persistReceipts format disk file registry = (registry, .ok ()) ∨
      ∃ error, persistReceipts format disk file registry = (file, .error error) ∨ disk.fails .syncDirectory = true ∧
          persistReceipts format disk file registry = (registry, .error error) := by
  unfold persistReceipts
  cases persistComplaint format disk registry with
  | some reason => exact .inr ⟨_, .inl rfl⟩
  | none =>
    split_ifs with hwrite hreplace hsync
    · exact .inr ⟨_, .inl rfl⟩
    · exact .inr ⟨_, .inl rfl⟩
    · exact .inr ⟨_, .inr ⟨hsync, rfl⟩⟩
    · exact .inl ⟨rfl, rfl⟩

variable {receipt : CommandReceipt} {key : String}

/-- A candidate is written, with a rollback that is the registry as it was. -/
theorem PlaneState.persisting_wrote (format : ReceiptFormat) (plane : PlaneState)
    (disk : JournalDisk) {candidate rollback : Receipts}
    (own : candidate.get key = some receipt) (others : ∀ other ≠ key, candidate.get other = plane.registry.get other ∨
      plane.registry.get key = none ∧ plane.registry.MayEvict other ∧ candidate.get other = none)
    (nodup : plane.registry.keys.Nodup → candidate.keys.Nodup)
    (rolled : ∀ other, rollback.get other = plane.registry.get other)
    (nodup' : plane.registry.keys.Nodup → rollback.keys.Nodup) :
    ∃ plane', (plane.persisting format disk candidate rollback = (plane', .ok ()) ∧
        plane.Wrote format disk plane' key receipt candidate true) ∨
      ∃ error, plane.persisting format disk candidate rollback = (plane', .error error) ∧
        plane.Wrote format disk plane' key receipt candidate false := by
  unfold persisting
  rcases persistReceipts_cases format disk plane.file candidate with
    ⟨hvalid, hwritten⟩ | ⟨error, hwritten | ⟨hsync, hwritten⟩⟩
  · rw [hwritten]
    exact ⟨_, .inl ⟨rfl, own, others, nodup, rfl, fun _ => hvalid, fun _ => ⟨rfl, rfl⟩,
      fun hok => Bool.noConfusion hok⟩⟩
  · rw [hwritten]
    exact ⟨_, .inr ⟨error, rfl, own, others, nodup, rfl, fun hok => Bool.noConfusion hok,
      fun hok => Bool.noConfusion hok, fun _ => ⟨rolled, nodup', .inl rfl⟩⟩⟩
  · rw [hwritten]
    exact ⟨_, .inr ⟨error, rfl, own, others, nodup, rfl, fun hok => Bool.noConfusion hok,
      fun hok => Bool.noConfusion hok, fun _ => ⟨rolled, nodup', .inr ⟨hsync, rfl⟩⟩⟩⟩

/-! ## Resumption -/

/-- What a resumed call does: its plane, its stage and the request that it hands over. -/
inductive Resumed (format : ReceiptFormat) (plane : PlaneState) (command : Command)
    (meets : Meets) :
    Stage → PlaneState → Stage → Option Command → Prop
  /-- The journal is loaded, if it was not. -/
  | enters {stage : Stage} (hstage : stage = .checking ∨ ∃ error, stage = .returned (.error error))
      (hloaded : stage = .checking → (plane.journal.ensureLoaded plane.registry).2 = .ok ()) :
      Resumed format plane command meets .entering
        { plane with
          journal := (plane.journal.ensureLoaded plane.registry).1.1
          registry := (plane.journal.ensureLoaded plane.registry).1.2 } stage none
  /-- The key is in the registry. -/
  | replays {stage : Stage} {existing : CommandReceipt} (hstage : stage = .checking ∨ stage = .reserving)
      (hexisting : plane.registry.get command.key = some existing) :
      Resumed format plane command meets stage plane (.returned (command.answerOf existing)) none
  /-- The call fails, and leaves a receipt as it is. -/
  | fails {stage : Stage} {error : ControlError} (hstage : stage ≠ .entering) :
      Resumed format plane command meets stage plane (.returned (.error error)) none
  | checks (hnone : plane.registry.get command.key = none) :
      Resumed format plane command meets .checking plane .resolving none
  | resolves : Resumed format plane command meets .resolving plane .reserving none
  /-- The receipt is reserved. -/
  | reserves {plane' : PlaneState} {candidate : Receipts}
      (hnone : plane.registry.get command.key = none)
      (hwrote : plane.Wrote format meets.disk plane' command.key command.receipt candidate true) :
      Resumed format plane command meets .reserving plane' .dispatching none
  | refuses {plane' : PlaneState} {candidate : Receipts} {error : ControlError}
      (hnone : plane.registry.get command.key = none)
      (hwrote : plane.Wrote format meets.disk plane' command.key command.receipt candidate false) :
      Resumed format plane command meets .reserving plane' (.returned (.error error)) none
  | sends : Resumed format plane command meets .dispatching plane .exchanging (some command)
  | accepts {turn_id : Option String} {outcome : Option PublicOutcome} {reply : Json}
      (hmeets : meets.reply = .ok reply)
      (hreply : PlaneState.readReply format command reply = .ok (turn_id, outcome)) :
      Resumed format plane command meets .exchanging plane (.acking turn_id outcome) none
  /-- The receipt is acked or given its outcome. -/
  | updates {stage stage' : Stage} {plane' : PlaneState} {candidate : Receipts}
      {previous receipt : CommandReceipt} (hprevious : plane.registry.get command.key = some previous)
      (hleads : previous.LeadsTo receipt)
      (hwrote : plane.Wrote format meets.disk plane' command.key receipt candidate true)
      (hstage : (∃ turn_id outcome, stage = .acking turn_id outcome ∧ receipt.status = .acked ∧
          (outcome = none ∧ stage' = .returned (.ok receipt) ∨ (∃ error, stage' = .returned (.error error)) ∨
            ∃ final terminal, outcome = some final ∧ terminal.isTerminal = true ∧
              stage' = .finishing terminal final receipt)) ∨
        ∃ terminal outcome acked, stage = .finishing terminal outcome acked ∧
          receipt.status = terminal ∧ stage' = .returned (.ok receipt)) :
      Resumed format plane command meets stage plane' stage' none
  | reverts {stage : Stage} {plane' : PlaneState} {candidate : Receipts}
      {previous receipt : CommandReceipt} {error : ControlError}
      (hprevious : plane.registry.get command.key = some previous)
      (hleads : previous.LeadsTo receipt)
      (hwrote : plane.Wrote format meets.disk plane' command.key receipt candidate false)
      (hstage : (∃ turn_id outcome, stage = .acking turn_id outcome) ∨
        ∃ terminal outcome acked, stage = .finishing terminal outcome acked) :
      Resumed format plane command meets stage plane' (.returned (.error error)) none
  /-- The receipt takes no outcome any more. -/
  | keeps {terminal : CommandStatus} {outcome : PublicOutcome} {acked : CommandReceipt}
      (hkept : ∀ entry, plane.registry.get command.key = some entry →
        entry.status.canTransitionTo terminal = false) :
      Resumed format plane command meets (.finishing terminal outcome acked) plane (.returned (.ok acked))
        none
  | rests {result : Except ControlError CommandReceipt} :
      Resumed format plane command meets (.returned result) plane (.returned result) none

namespace PlaneState

variable {format : ReceiptFormat} {plane : PlaneState} {command : Command}

/-- The receipt that makes room may be evicted. -/
theorem mayEvict_of_evictable {registry : Receipts} {evicts key : String}
    (hnodup : registry.keys.Nodup) (hfull : MAX_COMMAND_RECEIPTS ≤ registry.length)
    (h : evictable registry evicts = some (key, receipt)) :
    registry.get key = some receipt ∧ registry.MayEvict key := by
  suffices hreceipt : registry.get key = some receipt ∧ receipt.status.isTerminal = true from
    ⟨hreceipt.1, hfull, receipt, hreceipt⟩
  unfold evictable at h
  split at h
  · next found hfound =>
    cases h
    exact filter_eq_some_iff.mp hfound
  · exact ⟨get_of_mem hnodup (mem_of_find?_eq_some h), by simpa using find?_some h⟩

theorem reserve_resumed (hnodup : plane.registry.keys.Nodup) (command : Command) (meets : Meets) :
    Resumed format plane command meets .reserving (plane.reserve format command meets).1
      (plane.reserve format command meets).2 none := by
  unfold reserve Command.replayed
  cases hexisting : plane.registry.get command.key with
  | some existing => exact .replays (.inr rfl) hexisting
  | none =>
    dsimp only [map_none]
    split_ifs with hfull
    · cases hevictable : evictable plane.registry meets.evicts with
      | none => exact .fails (by nofun)
      | some entry =>
        obtain ⟨key, evicted⟩ := entry
        obtain ⟨hevicted, hmay⟩ := mayEvict_of_evictable hnodup hfull hevictable
        dsimp only
        set candidate := insert (plane.registry.erase key) command.key command.receipt
        have hrolled : ∀ other, (insert (candidate.erase command.key) key evicted).get other =
            plane.registry.get other := by
          intro other
          rw [get_insert, erase_insert, get_erase, get_erase]
          split_ifs with hother hown
          · rw [hother, hevicted]
          · rw [hown, hexisting]
          · rfl
        obtain ⟨plane', ⟨hwritten, hwrote⟩ | ⟨error, hwritten, hwrote⟩⟩ := persisting_wrote format plane meets.disk
            (get_insert_self _ command.key command.receipt)
            (fun other hother => by
              rw [get_insert_ne _ _ hother, get_erase]
              split_ifs with hkey
              · exact .inr ⟨hexisting, hkey ▸ hmay, rfl⟩
              · exact .inl rfl)
            (fun hnodup => nodup_insert (nodup_erase hnodup key) _ _) hrolled
            (fun hnodup => nodup_insert (nodup_erase (nodup_insert (nodup_erase hnodup key) _ _) _) _ _)
        all_goals rw [hwritten]
        · exact .reserves hexisting hwrote
        · exact .refuses hexisting hwrote
    · -- There is room.
      set candidate := insert plane.registry command.key command.receipt
      have hrolled : candidate.erase command.key = plane.registry := by rw [erase_insert, erase_get_none hexisting]
      obtain ⟨plane', ⟨hwritten, hwrote⟩ | ⟨error, hwritten, hwrote⟩⟩ := persisting_wrote format plane meets.disk
          (get_insert_self plane.registry command.key command.receipt)
          (fun other hother => .inl (get_insert_ne _ _ hother))
          (fun hnodup => nodup_insert hnodup _ _) (fun other => by rw [hrolled])
          (fun hnodup => hrolled.symm ▸ hnodup)
      all_goals rw [hwritten]
      · exact .reserves hexisting hwrote
      · exact .refuses hexisting hwrote

/-- A receipt in the registry is replaced, and put back where the write fails. -/
theorem replacing_wrote (format : ReceiptFormat) (plane : PlaneState) (disk : JournalDisk)
    {previous : CommandReceipt} (receipt : CommandReceipt) (hprevious : plane.registry.get key = some previous) :
    ∃ plane' candidate, (plane.persisting format disk (insert plane.registry key receipt)
          (insert (insert plane.registry key receipt) key previous) = (plane', .ok ()) ∧
        plane.Wrote format disk plane' key receipt candidate true) ∨
      ∃ error, plane.persisting format disk (insert plane.registry key receipt)
          (insert (insert plane.registry key receipt) key previous) = (plane', .error error) ∧
        plane.Wrote format disk plane' key receipt candidate false := by
  have hrolled : insert (insert plane.registry key receipt) key previous = plane.registry := by
    rw [insert_insert, insert_get hprevious]
  obtain ⟨plane', hwritten⟩ := persisting_wrote format plane disk (get_insert_self plane.registry key receipt)
    (fun other hother => .inl (get_insert_ne _ _ hother))
    (fun hnodup => nodup_insert hnodup _ _) (fun other => by rw [hrolled])
    (fun hnodup => hrolled.symm ▸ hnodup)
  exact ⟨plane', _, hwritten⟩

theorem terminal_of_terminalStatus {outcome : PublicOutcome} {terminal : CommandStatus}
    (h : terminalStatus outcome = some terminal) : terminal.isTerminal = true := by
  obtain ⟨status, -, h⟩ := bind_eq_some_iff.mp h
  split_ifs at h
  all_goals
    cases h
    rfl

variable (command : Command) (meets : Meets)

theorem acknowledge_resumed (turn_id : Option String)
    (outcome : Option PublicOutcome) : Resumed format plane command meets (.acking turn_id outcome)
      (plane.acknowledge format command meets turn_id outcome).1
      (plane.acknowledge format command meets turn_id outcome).2 none := by
  unfold acknowledge
  cases hprevious : plane.registry.get command.key with
  | none => exact .fails (by nofun)
  | some previous =>
    dsimp only
    by_cases hacks : previous.status.canTransitionTo .acked = true
    · rw [hacks, if_neg (by decide)]
      set acked : CommandReceipt :=
        { previous with status := .acked, turn_id := turn_id.or previous.turn_id } with hacked
      have hleads : previous.LeadsTo acked := ⟨rfl, rfl, rfl, .inr hacks⟩
      obtain ⟨plane', candidate, ⟨hwritten, hwrote⟩ | ⟨error, hwritten, hwrote⟩⟩ :=
        replacing_wrote format plane meets.disk acked hprevious
      · rw [hwritten]
        refine .updates hprevious hleads hwrote (.inl ⟨turn_id, outcome, rfl, rfl, ?_⟩)
        cases outcome with
        | none => exact .inl ⟨rfl, rfl⟩
        | some outcome =>
          dsimp only
          cases hterminal : terminalStatus outcome with
          | none => exact .inr (.inl ⟨_, rfl⟩)
          | some terminal => exact .inr (.inr ⟨outcome, terminal, rfl, terminal_of_terminalStatus hterminal, rfl⟩)
      · rw [hwritten]
        exact .reverts hprevious hleads hwrote (.inl ⟨turn_id, outcome, rfl⟩)
    · rw [Bool.eq_false_iff.mpr hacks]
      exact .fails (by nofun)

/-- The outcome of a command. -/
theorem finish_resumed (terminal : CommandStatus) (outcome : PublicOutcome) (acked : CommandReceipt) :
    Resumed format plane command meets (.finishing terminal outcome acked)
      (plane.finish format command meets terminal outcome acked).1
      (plane.finish format command meets terminal outcome acked).2 none := by
  unfold finish
  cases hfiltered : (plane.registry.get command.key).filter fun entry => entry.status.canTransitionTo terminal with
  | none =>
    refine .keeps fun entry hentry => ?_
    rw [hentry, filter_some] at hfiltered
    exact Bool.eq_false_iff.mpr fun hgoes => by simp [hgoes] at hfiltered
  | some previous =>
    obtain ⟨hprevious, hgoes⟩ := filter_eq_some_iff.mp hfiltered
    set finished : CommandReceipt := { previous with status := terminal, outcome := some outcome } with hfinished
    have hleads : previous.LeadsTo finished := ⟨rfl, rfl, rfl, .inr hgoes⟩
    obtain ⟨plane', candidate, ⟨hwritten, hwrote⟩ | ⟨error, hwritten, hwrote⟩⟩ :=
      replacing_wrote format plane meets.disk finished hprevious
    · dsimp only
      rw [hwritten]
      exact .updates hprevious hleads hwrote (.inr ⟨terminal, outcome, acked, rfl, rfl, rfl⟩)
    · dsimp only
      rw [hwritten]
      exact .reverts hprevious hleads hwrote (.inr ⟨terminal, outcome, acked, rfl⟩)

/-- Every resumed call does one of these things. -/
theorem resume_resumed (format : ReceiptFormat) (hnodup : plane.registry.keys.Nodup)
    (command : Command) (meets : Meets) (stage : Stage) :
    Resumed format plane command meets stage (plane.resume format command meets stage).1
      (plane.resume format command meets stage).2.1 (plane.resume format command meets stage).2.2 := by
  cases stage with
  | entering =>
    refine .enters ?_ ?_
    · dsimp only [resume]
      split
      · exact .inl rfl
      · exact .inr ⟨_, rfl⟩
    · dsimp only [resume]
      intro hchecking
      cases hloaded : (plane.journal.ensureLoaded plane.registry).2 with
      | ok => rfl
      | error error =>
        rw [hloaded] at hchecking
        cases hchecking
  | checking =>
    dsimp only [resume]
    unfold Command.replayed
    cases hexisting : plane.registry.get command.key with
    | none => exact .checks hexisting
    | some existing => exact .replays (.inl rfl) hexisting
  | resolving =>
    dsimp only [resume]
    split
    · exact .resolves
    · exact .fails (by nofun)
  | reserving => exact reserve_resumed hnodup command meets
  | dispatching =>
    dsimp only [resume]
    split
    · exact .sends
    · exact .fails (by nofun)
  | exchanging =>
    dsimp only [resume]
    split
    · next turn_id outcome hreply =>
      obtain ⟨reply, hmeets, hreply⟩ := bind_eq_ok.mp hreply
      obtain ⟨_, -, hreply⟩ := bind_eq_ok.mp hreply
      exact .accepts hmeets hreply
    · exact .fails (by nofun)
  | acking turn_id outcome => exact acknowledge_resumed command meets turn_id outcome
  | finishing terminal outcome acked => exact finish_resumed command meets terminal outcome acked
  | returned result => exact .rests

end PlaneState

/-! ## Loading -/

/-- What is known of a plane at all times: a registry that is not loaded is empty, and what waits to be
merged is what the file holds. -/
structure PlaneState.Orderly (plane : PlaneState) : Prop where
  registry_nodup : plane.registry.keys.Nodup
  file_nodup : plane.file.keys.Nodup
  unloaded : plane.journal.loaded = false → plane.registry = []
  settled : plane.journal.loaded = true → plane.journal.pending = none
  pending : ∀ receipts, plane.journal.pending = some (.ok receipts) → receipts = plane.file

/-- The journal of a plane is loaded, or nothing happens to the registry. -/
structure PlaneState.Loads (plane plane' : PlaneState) : Prop where
  file : plane'.file = plane.file
  registry : plane'.registry = plane.registry ∧ plane'.journal.loaded = plane.journal.loaded ∨
    plane.journal.loaded = false ∧ plane'.journal.loaded = true ∧
      ∀ key, plane'.registry.get key = plane.file.get key

namespace PlaneState

variable {format : ReceiptFormat} {plane plane' : PlaneState}

/-- A registry that is empty is filled with what the file holds. -/
theorem get_merged {file merged : Receipts} (hnodup : file.keys.Nodup)
    (h : mergeLoadedReceipts [] file = .ok merged) : merged.keys.Nodup ∧ ∀ key, merged.get key = file.get key := by
  unfold mergeLoadedReceipts at h
  dsimp only at h
  split_ifs at h
  cases h
  have hempty : (keys ([] : Receipts)).Nodup := nodup_nil
  refine ⟨nodup_fill hempty _, fun key => ?_⟩
  rw [get_fill [] (keys_map_values file some ▸ hnodup), get_map_values]
  cases file.get key
  all_goals rfl

variable {journal : ReceiptJournal}

/-- Where nothing was merged, the registry stays empty. -/
theorem Orderly.unmerged (h : plane.Orderly) (hloaded : plane.journal.loaded = false) (hjournal : journal.loaded = false)
    (hpending : ∀ receipts, journal.pending = some (.ok receipts) → receipts = plane.file) :
    ({ plane with journal := journal } : PlaneState).Orderly ∧ plane.Loads { plane with journal := journal } := by
  refine ⟨⟨h.registry_nodup, h.file_nodup, fun _ => h.unloaded hloaded, fun hnot => ?_, hpending⟩,
    rfl, .inl ⟨rfl, hjournal.trans hloaded.symm⟩⟩
  exact absurd (hjournal.symm.trans hnot) (by decide)

/-- What was read of the file is merged into the registry. -/
theorem Orderly.merged (h : plane.Orderly) (hloaded : plane.journal.loaded = false) :
    ({ plane with
        journal := (ReceiptJournal.merge plane.file plane.registry).1
        registry := (ReceiptJournal.merge plane.file plane.registry).2 } : PlaneState).Orderly ∧
      plane.Loads { plane with
        journal := (ReceiptJournal.merge plane.file plane.registry).1
        registry := (ReceiptJournal.merge plane.file plane.registry).2 } := by
  have hempty := h.unloaded hloaded
  unfold ReceiptJournal.merge
  cases hmerged : mergeLoadedReceipts plane.registry plane.file with
  | error error => exact h.unmerged hloaded rfl fun receipts hreceipts => by cases hreceipts
  | ok merged =>
    rw [hempty] at hmerged
    obtain ⟨hnodup, hget⟩ := get_merged h.file_nodup hmerged
    refine ⟨⟨hnodup, h.file_nodup, fun hnot => ?_, fun _ => rfl, fun receipts hreceipts => ?_⟩, rfl,
      .inr ⟨hloaded, rfl, hget⟩⟩
    · cases hnot
    · cases hreceipts

/-- The journal of a plane is loaded. -/
theorem Orderly.enters (h : plane.Orderly) :
    ({ plane with
        journal := (plane.journal.ensureLoaded plane.registry).1.1
        registry := (plane.journal.ensureLoaded plane.registry).1.2 } : PlaneState).Orderly ∧
      plane.Loads { plane with
        journal := (plane.journal.ensureLoaded plane.registry).1.1
        registry := (plane.journal.ensureLoaded plane.registry).1.2 } := by
  unfold ReceiptJournal.ensureLoaded
  by_cases hready : (plane.journal.error.isSome || plane.journal.loaded) = true
  · rw [if_pos hready]
    exact ⟨h, rfl, .inl ⟨rfl, rfl⟩⟩
  · have hloaded : plane.journal.loaded = false := by
      rw [Bool.or_eq_true, not_or] at hready
      exact Bool.eq_false_iff.mpr hready.2
    rw [if_neg hready]
    rcases hpending : plane.journal.pending with _ | error | receipts
    · exact ⟨h, rfl, .inl ⟨rfl, rfl⟩⟩
    · exact h.unmerged hloaded rfl fun receipts hreceipts => by cases hreceipts
    · obtain rfl := h.pending receipts hpending
      exact h.merged hloaded

theorem loaded_of_ensureLoaded {registry : Receipts}
    (h : (journal.ensureLoaded registry).2 = .ok ()) : (journal.ensureLoaded registry).1.1.loaded = true := by
  unfold ReceiptJournal.ensureLoaded at h ⊢
  by_cases hready : (journal.error.isSome || journal.loaded) = true
  · rw [if_pos hready] at h ⊢
    cases herror : journal.error with
    | none => simpa [herror] using hready
    | some error =>
      simp only [herror] at h
      cases h
  · rw [if_neg hready] at h ⊢
    rcases hpending : journal.pending with _ | error | receipts
    · rw [hpending] at h
      cases h
    · rw [hpending] at h
      cases h
    · rw [hpending] at h
      unfold ReceiptJournal.merge at h ⊢
      dsimp only at h ⊢
      cases hmerged : mergeLoadedReceipts registry receipts with
      | error error =>
        rw [hmerged] at h
        cases h
      | ok merged => rfl

/-- A write leaves a plane orderly. -/
theorem Wrote.orderly {disk : JournalDisk} {candidate : Receipts} {ok : Bool}
    (h : plane.Wrote format disk plane' key receipt candidate ok) (horderly : plane.Orderly)
    (hloaded : plane.journal.loaded = true) : plane'.Orderly := by
  have hpending := horderly.settled hloaded
  have hnodup : plane'.registry.keys.Nodup ∧ plane'.file.keys.Nodup := by
    have hcandidate := h.nodup horderly.registry_nodup
    cases ok with
    | true =>
      obtain ⟨hregistry, hfile⟩ := h.done rfl
      exact ⟨hregistry ▸ hcandidate, hfile ▸ hcandidate⟩
    | false =>
      obtain ⟨-, hnodup, hfile | ⟨-, hfile⟩⟩ := h.undone rfl
      · exact ⟨hnodup horderly.registry_nodup, hfile ▸ horderly.file_nodup⟩
      · exact ⟨hnodup horderly.registry_nodup, hfile ▸ hcandidate⟩
  refine ⟨hnodup.1, hnodup.2, fun hnot => ?_, fun _ => h.journal ▸ hpending, fun receipts hsome => ?_⟩
  · exact absurd (hloaded.symm.trans (h.journal ▸ hnot)) (by decide)
  · rw [h.journal, hpending] at hsome
    cases hsome

end PlaneState

/-- A process starts with the file that it finds. -/
theorem Process.start_orderly (format : ReceiptFormat) {file : Receipts} (hnodup : file.keys.Nodup)
    (complaint : Option String) (locked : Bool) : (start format file complaint locked).plane.Orderly ∧
      (start format file complaint locked).plane.file = file ∧
      ((start format file complaint locked).plane.journal.loaded = true →
        ∀ key, (start format file complaint locked).plane.registry.get key = file.get key) := by
  have hread : ∀ receipts, loadReceiptJournal format complaint file = .ok receipts → receipts = file := by
    intro receipts hreceipts
    unfold loadReceiptJournal at hreceipts
    split at hreceipts
    · cases hreceipts
    · split_ifs at hreceipts
      split at hreceipts
      · cases hreceipts
      · exact (Except.ok.inj hreceipts).symm
  unfold start
  generalize loadReceiptJournal format complaint file = answer at hread
  -- The plane as it is before the file is merged.
  have horderly : (PlaneState.mk [] { pending := some answer } file).Orderly :=
    ⟨nodup_nil, hnodup, fun _ => rfl, (fun h => by cases h),
      fun receipts hreceipts => hread receipts (some.inj hreceipts)⟩
  cases answer with
  | error error =>
    have herror : ∀ receipts : Receipts, (ReceiptJournal.mk none false (some error)).pending = some (.ok receipts) →
          receipts = file := fun receipts hreceipts => by cases hreceipts
    obtain ⟨horderly', -⟩ := horderly.unmerged rfl rfl herror
    exact ⟨horderly', rfl, fun hloaded => absurd hloaded Bool.false_ne_true⟩
  | ok receipts =>
    obtain rfl := hread receipts rfl
    cases locked with
    | true => exact ⟨horderly, rfl, fun hloaded => absurd hloaded Bool.false_ne_true⟩
    | false =>
      obtain ⟨horderly', -, hregistry⟩ := horderly.merged rfl
      refine ⟨horderly', rfl, fun hloaded => ?_⟩
      rcases hregistry with ⟨-, hsame⟩ | ⟨-, -, hget⟩
      · exact absurd (hsame.symm.trans hloaded) Bool.false_ne_true
      · exact hget

end Gjc

end Clawhip
