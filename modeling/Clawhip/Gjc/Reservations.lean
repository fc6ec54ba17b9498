import Clawhip.Gjc.Resumption
import Mathlib.Data.List.Nodup
import Mathlib.Data.List.Perm.Subperm

/-!
# Reservations

A process with one plane hands at most one request to the transport for every idempotency key, over all
interleavings of its calls, failures of the disk and restarts. The invariant ties the registry, the
file and the calls together: what the registry holds the file holds too, in the same status or a later
one, and every call past its reservation has its receipt in the registry.
-/

namespace Clawhip.Gjc

open List Machine

/-! ## What receipts hold -/

/-- The receipts hold a receipt under a key, or one that it leads to. -/
def Receipts.Holds (receipts : Receipts) (key : String) (receipt : CommandReceipt) : Prop :=
  ∃ held, receipts.get key = some held ∧ receipt.LeadsTo held

variable {key : String} {receipt : CommandReceipt} {receipts : Receipts}

theorem Receipts.Holds.of_get (h : receipts.get key = some receipt) :
    receipts.Holds key receipt := ⟨receipt, h, .refl receipt⟩

theorem Receipts.Holds.from {earlier : CommandReceipt} (hleads : earlier.LeadsTo receipt)
    (h : receipts.Holds key receipt) : receipts.Holds key earlier := by
  obtain ⟨held, hheld, hleads'⟩ := h
  exact ⟨held, hheld, hleads.trans hleads'⟩

/-- The keys of receipts are some of a list of keys. -/
def Receipts.Within (receipts : Receipts) (keys : List String) : Prop :=
  ∀ key, (receipts.get key).isSome = true → key ∈ keys

/-- Receipts with some of the keys of a list are no more than the list. -/
theorem Receipts.Within.length_lt {keys : List String} (hnodup : receipts.keys.Nodup)
    (h : receipts.Within keys) (hkey : key ∈ keys) (hnone : receipts.get key = none) :
    receipts.length < keys.length := by
  have hcons : (key :: receipts.keys).Nodup := nodup_cons.mpr ⟨OrdMap.get_eq_none_iff.mp hnone, hnodup⟩
  have hsub : key :: receipts.keys ⊆ keys := by
    intro other hother
    rcases mem_cons.mp hother with rfl | hother
    · exact hkey
    · refine h other (Option.isSome_iff_ne_none.mpr fun hnone => ?_)
      exact OrdMap.get_eq_none_iff.mp hnone hother
  have hle := (subperm_of_subset hcons hsub).length_le
  rw [length_cons, OrdMap.keys, length_map] at hle
  exact hle

/-! ## Planes -/

/-- What is known of a plane at all times, where there are no more keys than a list names. -/
structure PlaneState.Sound (plane : PlaneState) (keys : List String) : Prop extends plane.Orderly where
  registry_within : plane.registry.Within keys
  file_within : plane.file.Within keys
  covered : ∀ key receipt, plane.registry.get key = some receipt → plane.file.Holds key receipt

/-- One plane goes on from another: what its registry held it still holds, and where the registry was
loaded it holds what the file held. -/
structure PlaneState.GoesOn (plane plane' : PlaneState) : Prop where
  loaded : plane.journal.loaded = true → plane'.journal.loaded = true
  holds : ∀ key receipt, plane.registry.get key = some receipt → plane'.registry.Holds key receipt
  gains : plane.journal.loaded = false → plane'.file = plane.file ∧
    (plane'.journal.loaded = true → ∀ key, plane'.registry.get key = plane.file.get key)

namespace PlaneState

variable {format : ReceiptFormat} {disk : JournalDisk} {plane plane' : PlaneState} {key : String}
  {receipt : CommandReceipt} {candidate : Receipts} {ok : Bool} {keys : List String}

section

variable (h : plane.Wrote format disk plane' key receipt candidate ok)
include h

section

variable (hroom : plane.registry.get key = none → plane.registry.length < MAX_COMMAND_RECEIPTS)
include hroom

variable {other : String}

/-- Where there is room nothing is evicted. -/
theorem Wrote.others_eq (hother : other ≠ key) : candidate.get other = plane.registry.get other := by
  refine (h.others other hother).resolve_right fun ⟨hnone, hevicted, _⟩ => ?_
  have hlt := hroom hnone
  have hfull := hevicted.1
  omega

/-- What a written registry holds. -/
theorem Wrote.candidate_holds (hleads : ∀ previous, plane.registry.get key = some previous → previous.LeadsTo receipt)
    {held : CommandReceipt} (hheld : plane.registry.get other = some held) : candidate.Holds other held := by
  by_cases hother : other = key
  · subst hother
    exact ⟨receipt, h.own, hleads held hheld⟩
  · exact .of_get ((h.others_eq hroom hother).trans hheld)

/-- A plane that was loaded goes on when it writes. -/
theorem Wrote.goesOn (hloaded : plane.journal.loaded = true)
    (hleads : ∀ previous, plane.registry.get key = some previous → previous.LeadsTo receipt) : plane.GoesOn plane' := by
  refine ⟨fun _ => h.journal ▸ hloaded, fun other held hheld => ?_,
    fun hnot => absurd (hloaded.symm.trans hnot) (by decide)⟩
  cases ok with
  | true =>
    rw [(h.done rfl).1]
    exact h.candidate_holds hroom hleads hheld
  | false => exact .of_get (((h.undone rfl).1 other).trans hheld)

end

end

/-- A key of a list has room in a registry with keys of that list. -/
theorem Sound.room (hsound : plane.Sound keys) (hfew : keys.length ≤ MAX_COMMAND_RECEIPTS) (hkey : key ∈ keys)
    (hnone : plane.registry.get key = none) : plane.registry.length < MAX_COMMAND_RECEIPTS :=
  lt_of_lt_of_le (hsound.registry_within.length_lt hsound.registry_nodup hkey hnone) hfew

section

variable (h : plane.Wrote format disk plane' key receipt candidate ok)
include h

theorem Wrote.candidate_within
    (hsound : plane.Sound keys) (hfew : keys.length ≤ MAX_COMMAND_RECEIPTS) (hkey : key ∈ keys) :
    candidate.Within keys := by
  intro other hsome
  by_cases hother : other = key
  · exact hother ▸ hkey
  · rw [h.others_eq (hsound.room hfew hkey) hother] at hsome
    exact hsound.registry_within other hsome

/-- A write keeps a plane sound, and the plane goes on. -/
theorem Wrote.sound (hsound : plane.Sound keys)
    (hfew : keys.length ≤ MAX_COMMAND_RECEIPTS) (hkey : key ∈ keys) (hloaded : plane.journal.loaded = true)
    (hleads : ∀ previous, plane.registry.get key = some previous → previous.LeadsTo receipt) :
    plane'.Sound keys ∧ plane.GoesOn plane' := by
  have hroom := hsound.room hfew hkey
  have hwithin := h.candidate_within hsound hfew hkey
  refine ⟨⟨h.orderly hsound.toOrderly hloaded, ?_, ?_, ?_⟩, h.goesOn hroom hloaded hleads⟩
  · cases ok with
    | true => exact (h.done rfl).1 ▸ hwithin
    | false =>
      intro other hsome
      rw [(h.undone rfl).1] at hsome
      exact hsound.registry_within other hsome
  · cases ok with
    | true => exact (h.done rfl).2 ▸ hwithin
    | false =>
      rcases (h.undone rfl).2.2 with hfile | ⟨-, hfile⟩
      · exact hfile ▸ hsound.file_within
      · exact hfile ▸ hwithin
  · cases ok with
    | true =>
      obtain ⟨hregistry, hfile⟩ := h.done rfl
      rw [hregistry, hfile]
      exact fun _ _ => .of_get
    | false =>
      obtain ⟨hregistry, -, hfile⟩ := h.undone rfl
      intro other held hheld
      rw [hregistry] at hheld
      rcases hfile with hfile | ⟨-, hfile⟩
      · rw [hfile]
        exact hsound.covered other held hheld
      · rw [hfile]
        exact h.candidate_holds hroom hleads hheld

end

theorem GoesOn.refl (plane : PlaneState) : plane.GoesOn plane := by
  refine ⟨id, fun _ _ => .of_get, fun hunloaded => ⟨rfl, fun hloaded => ?_⟩⟩
  exact absurd (hunloaded.symm.trans hloaded) (by decide)

/-- A plane goes on when its journal is loaded. -/
theorem Loads.goesOn (h : plane.Loads plane') (horderly : plane.Orderly) : plane.GoesOn plane' := by
  rcases h.registry with ⟨hregistry, hloaded⟩ | ⟨hunloaded, hloaded, hget⟩
  · refine ⟨fun hnow => hloaded.trans hnow, fun _ _ hreceipt => .of_get (hregistry ▸ hreceipt),
      fun hnot => ⟨h.file, fun hnow => ?_⟩⟩
    exact absurd (hnot.symm.trans (hloaded.symm.trans hnow)) (by decide)
  · refine ⟨fun _ => hloaded, fun _ _ hreceipt => ?_, fun _ => ⟨h.file, fun _ => hget⟩⟩
    rw [horderly.unloaded hunloaded] at hreceipt
    cases hreceipt

/-- Loading keeps a plane sound. -/
theorem Loads.sound (h : plane.Loads plane') (hsound : plane.Sound keys) (horderly : plane'.Orderly) :
    plane'.Sound keys := by
  refine ⟨horderly, ?_, h.file ▸ hsound.file_within, ?_⟩
  · intro key hsome
    rcases h.registry with ⟨hregistry, -⟩ | ⟨-, -, hget⟩
    · exact hsound.registry_within key (hregistry ▸ hsome)
    · exact hsound.file_within key (hget key ▸ hsome)
  · intro key receipt hreceipt
    rw [h.file]
    rcases h.registry with ⟨hregistry, -⟩ | ⟨-, -, hget⟩
    · exact hsound.covered key receipt (hregistry ▸ hreceipt)
    · exact .of_get ((hget key).symm.trans hreceipt)

end PlaneState

/-! ## Stages -/

/-- The call is past the loading of the journal, and did not fail. -/
def Stage.begun : Stage → Bool
  | entering | returned (.error _) => false
  | _ => true

/-- The call has reserved its key, or returned a receipt. -/
def Stage.bound : Stage → Bool
  | dispatching | exchanging | acking _ _ | finishing _ _ _ | returned (.ok _) => true
  | _ => false

/-- The request of the call is about to be handed over. -/
def Stage.ready : Stage → Bool
  | dispatching => true
  | _ => false

/-- A receipt is one of a command: for its session, and of its kind. -/
def Command.Owns (command : Command) (receipt : CommandReceipt) : Prop :=
  receipt.session_id = command.envelope.session ∧ receipt.kind = command.kind.asStr

variable {command : Command}

/-- A command's receipts go on to be its receipts. -/
theorem Command.Owns.leadsTo {later : CommandReceipt} (h : command.Owns receipt)
    (hleads : receipt.LeadsTo later) : command.Owns later :=
  ⟨hleads.session_id.trans h.1, hleads.kind.trans h.2⟩

theorem Command.owns_of_answerOf {existing : CommandReceipt}
    (h : command.answerOf existing = .ok receipt) : command.Owns existing := by
  unfold answerOf at h
  split_ifs at h with hother
  obtain ⟨hsession, hkind⟩ := not_or.mp hother
  exact ⟨not_not.mp hsession, not_not.mp hkind⟩

/-! ## Steps -/

section

variable {format : ReceiptFormat} {keys : List String}

/-- What a resumed call makes of its plane and of its own stage. -/
structure Resumed.Kept (plane : PlaneState) (command : Command) (stage : Stage) (plane' : PlaneState)
    (stage' : Stage) (handed : Option Command) (keys : List String) : Prop where
  sound : plane'.Sound keys
  goesOn : plane.GoesOn plane'
  begun : stage'.begun = true → plane'.journal.loaded = true
  bound : stage'.bound = true →
    ∃ receipt, plane'.registry.get command.key = some receipt ∧ command.Owns receipt ∧
      (stage'.ready = true → receipt.command_id = command.command_id)
  ready : stage'.ready = true → plane.journal.loaded = true ∧ plane.registry.get command.key = none
  handed : ∀ other, handed = some other → other = command ∧ stage = .dispatching ∧
    stage' = .exchanging ∧ plane' = plane

/-- A resumed call keeps its plane sound. -/
theorem Resumed.kept {plane plane' : PlaneState} {meets : Meets} {stage stage' : Stage}
    {handed : Option Command} (h : Resumed format plane command meets stage plane' stage' handed)
    (hsound : plane.Sound keys) (hfew : keys.length ≤ MAX_COMMAND_RECEIPTS)
    (hkey : command.key ∈ keys) (hbegun : stage.begun = true → plane.journal.loaded = true)
    (hbound : stage.bound = true → ∃ receipt, plane.registry.get command.key = some receipt ∧ command.Owns receipt) :
    Kept plane command stage plane' stage' handed keys := by
  cases h with
  | enters hstage hloaded =>
    obtain ⟨horderly, hloads⟩ := hsound.toOrderly.enters
    refine ⟨hloads.sound hsound horderly, hloads.goesOn hsound.toOrderly, fun hbegun' => ?_, fun hbound' => ?_, fun hready => ?_, by nofun⟩
    · rcases hstage with hchecking | ⟨error, rfl⟩
      · exact PlaneState.loaded_of_ensureLoaded (hloaded hchecking)
      · cases hbegun'
    · rcases hstage with rfl | ⟨error, rfl⟩
      all_goals cases hbound'
    · rcases hstage with rfl | ⟨error, rfl⟩
      all_goals cases hready
  | replays hstage hexisting =>
    have hloaded : plane.journal.loaded = true := by
      rcases hstage with rfl | rfl
      all_goals exact hbegun rfl
    refine ⟨hsound, .refl plane, fun _ => hloaded, fun hbound' => ?_, by nofun, by nofun⟩
    rename_i existing
    cases hanswer : command.answerOf existing with
    | error error =>
      rw [hanswer] at hbound'
      cases hbound'
    | ok receipt => exact ⟨existing, hexisting, Command.owns_of_answerOf hanswer, by nofun⟩
  | fails hstage => exact ⟨hsound, .refl plane, by nofun, by nofun, by nofun, by nofun⟩
  | checks hnone => exact ⟨hsound, .refl plane, fun _ => hbegun rfl, by nofun, by nofun, by nofun⟩
  | resolves => exact ⟨hsound, .refl plane, fun _ => hbegun rfl, by nofun, by nofun, by nofun⟩
  | reserves hnone hwrote =>
    obtain ⟨hsound', hgoes⟩ := hwrote.sound hsound hfew hkey (hbegun rfl) fun previous hprevious => by
      cases hnone.symm.trans hprevious
    refine ⟨hsound', hgoes, fun _ => hgoes.loaded (hbegun rfl), fun _ => ?_, fun _ => ⟨hbegun rfl, hnone⟩, by nofun⟩
    exact ⟨command.receipt, (hwrote.done rfl).1 ▸ hwrote.own, ⟨rfl, rfl⟩, fun _ => rfl⟩
  | refuses hnone hwrote =>
    obtain ⟨hsound', hgoes⟩ := hwrote.sound hsound hfew hkey (hbegun rfl) fun previous hprevious => by
      cases hnone.symm.trans hprevious
    exact ⟨hsound', hgoes, by nofun, by nofun, by nofun, by nofun⟩
  | sends =>
    obtain ⟨receipt, hreceipt, howns⟩ := hbound rfl
    refine ⟨hsound, .refl plane, fun _ => hbegun rfl, fun _ => ⟨receipt, hreceipt, howns, by nofun⟩, by nofun, ?_⟩
    rintro other ⟨⟩
    exact ⟨rfl, rfl, rfl, rfl⟩
  | accepts hmeets hreply | keeps hkept =>
    obtain ⟨receipt, hreceipt, howns⟩ := hbound rfl
    exact ⟨hsound, .refl plane, fun _ => hbegun rfl, fun _ => ⟨receipt, hreceipt, howns, by nofun⟩, by nofun, by nofun⟩
  | updates hprevious hleads hwrote hstage =>
    have hwas : stage.begun = true ∧ stage.bound = true ∧ stage'.ready = false := by
      rcases hstage with ⟨_, _, rfl, -, ⟨-, rfl⟩ | ⟨_, rfl⟩ | ⟨_, _, -, -, rfl⟩⟩ | ⟨_, _, _, rfl, -, rfl⟩
      all_goals exact ⟨rfl, rfl, rfl⟩
    have hloaded := hbegun hwas.1
    obtain ⟨hsound', hgoes⟩ := hwrote.sound hsound hfew hkey hloaded fun previous' hprevious' => by
      cases hprevious.symm.trans hprevious'
      exact hleads
    refine ⟨hsound', hgoes, fun _ => hgoes.loaded hloaded, fun _ => ?_, fun hready => ?_, by nofun⟩
    · obtain ⟨existing, hexisting, howns⟩ := hbound hwas.2.1
      cases hprevious.symm.trans hexisting
      refine ⟨_, (hwrote.done rfl).1 ▸ hwrote.own, howns.leadsTo hleads, fun hready => ?_⟩
      exact absurd (hwas.2.2.symm.trans hready) (by decide)
    · exact absurd (hwas.2.2.symm.trans hready) (by decide)
  | reverts hprevious hleads hwrote hstage =>
    have hwas : stage.begun = true := by
      rcases hstage with ⟨_, _, rfl⟩ | ⟨_, _, _, rfl⟩
      all_goals rfl
    obtain ⟨hsound', hgoes⟩ := hwrote.sound hsound hfew hkey (hbegun hwas) fun previous' hprevious' => by
        cases hprevious.symm.trans hprevious'
        exact hleads
    exact ⟨hsound', hgoes, by nofun, by nofun, by nofun, by nofun⟩
  | rests =>
    refine ⟨hsound, .refl plane, hbegun, fun hreturned => ?_, by nofun, by nofun⟩
    obtain ⟨receipt, hreceipt, howns⟩ := hbound hreturned
    exact ⟨receipt, hreceipt, howns, by nofun⟩

namespace Process

/-- What is known of a process that handed over the requests of some keys. -/
structure Sound (process : Process) (keys handed : List String) : Prop where
  plane : process.plane.Sound keys
  named : ∀ call ∈ process.calls, call.1.key ∈ keys
  begun : ∀ call ∈ process.calls, call.2.begun = true → process.plane.journal.loaded = true
  bound : ∀ call ∈ process.calls, call.2.bound = true →
    ∃ receipt, process.plane.registry.get call.1.key = some receipt ∧ call.1.Owns receipt ∧
      (call.2.ready = true → receipt.command_id = call.1.command_id)
  ready : ∀ (i j : ℕ) (first second : Command × Stage), process.calls[i]? = some first →
    process.calls[j]? = some second → first.2.ready = true → second.2.ready = true →
      first.1.key = second.1.key → i = j
  unsent : ∀ call ∈ process.calls, call.2.ready = true → call.1.key ∉ handed
  sent : ∀ key ∈ handed, (process.plane.file.get key).isSome = true ∧
    (process.plane.journal.loaded = true → (process.plane.registry.get key).isSome = true)

variable {α : Type} {l : List α} {a b : α}

/-- An entry of a list in which one is replaced. -/
theorem getElem?_set_cases {i j : ℕ} (h : (l.set i a)[j]? = some b) : i = j ∧ b = a ∨ i ≠ j ∧ l[j]? = some b := by
  rw [getElem?_set] at h
  split_ifs at h with hindex
  · exact .inl ⟨hindex, (Option.some.inj h).symm⟩
  · exact .inr ⟨hindex, h⟩

theorem mem_set_cases {i : ℕ} (h : b ∈ l.set i a) : b = a ∨ ∃ j, i ≠ j ∧ l[j]? = some b := by
  obtain ⟨j, hj⟩ := getElem?_of_mem h
  rcases getElem?_set_cases hj with ⟨-, hnew⟩ | ⟨hne, hold⟩
  · exact .inl hnew
  · exact .inr ⟨j, hne, hold⟩

variable {key : String} {plane plane' : PlaneState} {process : Process} {receipt : CommandReceipt}
  {inputs : List ProcessInput}

/-- A key whose request was handed over stays in the file and in the registry. -/
theorem sent_goesOn (hsound : plane'.Sound keys) (hgoes : plane.GoesOn plane')
    (hfile : (plane.file.get key).isSome = true)
    (hregistry : plane.journal.loaded = true → (plane.registry.get key).isSome = true) :
    (plane'.file.get key).isSome = true ∧ (plane'.journal.loaded = true → (plane'.registry.get key).isSome = true) := by
  cases hloaded : plane.journal.loaded with
  | true =>
    obtain ⟨receipt, hreceipt⟩ := Option.isSome_iff_exists.mp (hregistry hloaded)
    obtain ⟨held, hheld, -⟩ := hgoes.holds key receipt hreceipt
    obtain ⟨stored, hstored, -⟩ := hsound.covered key held hheld
    exact ⟨hstored ▸ rfl, fun _ => hheld ▸ rfl⟩
  | false =>
    obtain ⟨hsame, hgains⟩ := hgoes.gains hloaded
    exact ⟨hsame ▸ hfile, fun hloaded' => hgains hloaded' key ▸ hfile⟩

/-- A resumed call keeps the process sound. -/
theorem Sound.resume {handed : List String} (h : process.Sound keys handed)
    (hfew : keys.length ≤ MAX_COMMAND_RECEIPTS) (index : ℕ) (meets : Meets) :
    (step format process (.resume index meets)).1.Sound keys
        (handed ++ ((step format process (.resume index meets)).2.handed.map Command.key).toList) ∧
      process.plane.GoesOn (step format process (.resume index meets)).1.plane := by
  dsimp only [step]
  cases hcall : process.calls[index]? with
  | none =>
    refine ⟨?_, .refl _⟩
    dsimp only [Option.map_none, Option.toList_none]
    rwa [append_nil]
  | some call =>
    obtain ⟨command, stage⟩ := call
    have hmem : (command, stage) ∈ process.calls := mem_of_getElem? hcall
    have hkept := (PlaneState.resume_resumed format h.plane.registry_nodup command meets
      stage).kept h.plane hfew (h.named _ hmem) (h.begun _ hmem) fun hbound => by
        obtain ⟨receipt, hreceipt, howns, -⟩ := h.bound _ hmem hbound
        exact ⟨receipt, hreceipt, howns⟩
    dsimp only
    set resumed := process.plane.resume format command meets stage with hresumed
    refine ⟨⟨hkept.sound, ?_, ?_, ?_, ?_, ?_, ?_⟩, hkept.goesOn⟩
    · intro call hcall'
      rcases mem_set_cases hcall' with rfl | ⟨j, -, hold⟩
      · exact h.named (command, stage) hmem
      · exact h.named _ (mem_of_getElem? hold)
    · intro call hcall' hbegun
      rcases mem_set_cases hcall' with rfl | ⟨j, -, hold⟩
      · exact hkept.begun hbegun
      · exact hkept.goesOn.loaded (h.begun _ (mem_of_getElem? hold) hbegun)
    · intro call hcall' hbound
      rcases mem_set_cases hcall' with rfl | ⟨j, -, hold⟩
      · exact hkept.bound hbound
      · obtain ⟨receipt, hreceipt, howns, hown⟩ := h.bound _ (mem_of_getElem? hold) hbound
        obtain ⟨held, hheld, hleads⟩ := hkept.goesOn.holds _ _ hreceipt
        exact ⟨held, hheld, howns.leadsTo hleads, fun hready => hleads.command_id.trans (hown hready)⟩
    · -- A call gets ready only while no other one has its key.
      have hother {j : ℕ} {call : Command × Stage} (hold : process.calls[j]? = some call)
          (hready : call.2.ready = true) (hready' : resumed.2.1.ready = true) :
          call.1.key ≠ command.key := by
        intro hkey
        obtain ⟨receipt, hreceipt, -⟩ := h.bound _ (mem_of_getElem? hold) (by
          revert hready
          cases call.2
          all_goals simp [Stage.ready, Stage.bound])
        rw [hkey, (hkept.ready hready').2] at hreceipt
        cases hreceipt
      intro i j first second hi hj hready hready' hkey
      rcases getElem?_set_cases hi with ⟨rfl, rfl⟩ | ⟨hne, hold⟩
      · rcases getElem?_set_cases hj with ⟨rfl, -⟩ | ⟨hne', hold'⟩
        · rfl
        · exact absurd hkey.symm (hother hold' hready' hready)
      · rcases getElem?_set_cases hj with ⟨rfl, rfl⟩ | ⟨hne', hold'⟩
        · exact absurd hkey (hother hold hready hready')
        · exact h.ready i j first second hold hold' hready hready' hkey
    · intro call hcall' hready hsent
      rcases mem_append.mp hsent with hsent | hsent
      · rcases mem_set_cases hcall' with rfl | ⟨j, -, hold⟩
        · obtain ⟨hloaded, hnone⟩ := hkept.ready hready
          have hsome := (h.sent _ hsent).2 hloaded
          rw [hnone] at hsome
          cases hsome
        · exact h.unsent _ (mem_of_getElem? hold) hready hsent
      · rw [Option.mem_toList, Option.map_eq_some_iff] at hsent
        obtain ⟨other, hother, hkey⟩ := hsent
        obtain ⟨rfl, rfl, hstage, -⟩ := hkept.handed other hother
        rcases mem_set_cases hcall' with rfl | ⟨j, hne, hold⟩
        · rw [hstage] at hready
          cases hready
        · exact hne (h.ready index j _ _ hcall hold rfl hready hkey)
    · intro key hsent
      rcases mem_append.mp hsent with hsent | hsent
      · obtain ⟨hfile, hregistry⟩ := h.sent key hsent
        exact sent_goesOn hkept.sound hkept.goesOn hfile hregistry
      · rw [Option.mem_toList, Option.map_eq_some_iff] at hsent
        obtain ⟨other, hother, rfl⟩ := hsent
        obtain ⟨rfl, rfl, -, hplane⟩ := hkept.handed other hother
        obtain ⟨receipt, hreceipt, -⟩ := h.bound _ hmem rfl
        obtain ⟨stored, hstored, -⟩ := h.plane.covered _ _ hreceipt
        rw [hplane]
        exact ⟨hstored ▸ rfl, fun _ => hreceipt ▸ rfl⟩

/-- A process starts with the file that it finds. -/
theorem start_sound (format : ReceiptFormat) {file : Receipts}
    (hnodup : file.keys.Nodup) (hwithin : file.Within keys) (complaint : Option String) (locked : Bool) :
    (start format file complaint locked).plane.Sound keys ∧ (start format file complaint locked).plane.file = file ∧
      ((start format file complaint locked).plane.journal.loaded = true →
        ∀ key, (start format file complaint locked).plane.registry.get key = file.get key) := by
  obtain ⟨horderly, hfile, hget⟩ := start_orderly format hnodup complaint locked
  have hregistry {key : String} {receipt : CommandReceipt}
      (hreceipt : (start format file complaint locked).plane.registry.get key = some receipt) :
      file.get key = some receipt := by
    by_cases hloaded : (start format file complaint locked).plane.journal.loaded = true
    · exact (hget hloaded key).symm.trans hreceipt
    · rw [horderly.unloaded (Bool.eq_false_iff.mpr hloaded)] at hreceipt
      cases hreceipt
  refine ⟨⟨horderly, fun key hsome => ?_, hfile.symm ▸ hwithin, fun key receipt hreceipt => ?_⟩, hfile, hget⟩
  · obtain ⟨receipt, hreceipt⟩ := Option.isSome_iff_exists.mp hsome
    exact hwithin key (hregistry hreceipt ▸ rfl)
  · rw [hfile]
    exact .of_get (hregistry hreceipt)

/-- What a step of the process keeps of what was handed over. -/
theorem Sound.step {handed : List String} (h : process.Sound keys handed)
    (hfew : keys.length ≤ MAX_COMMAND_RECEIPTS) (input : ProcessInput)
    (hkeys : ∀ command, input = .call command → command.key ∈ keys) : (step format process input).1.Sound keys
      (handed ++ ((step format process input).2.handed.map Command.key).toList) := by
  cases input with
  | call command =>
    have hcases {call : Command × Stage} (hcall : call ∈ process.calls ++ [(command, .entering)]) :
        call ∈ process.calls ∨ call = (command, .entering) := by
      simpa using hcall
    have hready {j : ℕ} {call : Command × Stage}
        (hcall : (process.calls ++ [(command, Stage.entering)])[j]? = some call)
        (hready : call.2.ready = true) : process.calls[j]? = some call := by
      rw [getElem?_append] at hcall
      split_ifs at hcall
      · exact hcall
      · rw [mem_singleton.mp (mem_of_getElem? hcall)] at hready
        cases hready
    show Sound ⟨process.plane, process.calls ++ [(command, .entering)]⟩ keys (handed ++ [])
    rw [append_nil]
    refine ⟨h.plane, ?_, ?_, ?_, ?_, ?_, h.sent⟩
    · intro call hcall
      rcases hcases hcall with hold | rfl
      · exact h.named call hold
      · exact hkeys command rfl
    · intro call hcall hbegun
      rcases hcases hcall with hold | rfl
      · exact h.begun call hold hbegun
      · cases hbegun
    · intro call hcall hbound
      rcases hcases hcall with hold | rfl
      · exact h.bound call hold hbound
      · cases hbound
    · intro i j first second hi hj hfirst hsecond hkey
      exact h.ready i j first second (hready hi hfirst) (hready hj hsecond) hfirst hsecond hkey
    · intro call hcall hready
      rcases hcases hcall with hold | rfl
      · exact h.unsent call hold hready
      · cases hready
  | resume index meets => exact (h.resume hfew index meets).1
  | restart complaint locked =>
    obtain ⟨hsound, hfile, hloaded⟩ := start_sound format h.plane.file_nodup h.plane.file_within complaint locked
    show Sound (start format process.plane.file complaint locked) keys (handed ++ [])
    rw [append_nil]
    have hcalls : (start format process.plane.file complaint locked).calls = [] := rfl
    have hnone {call : Command × Stage}
        (hcall : call ∈ (start format process.plane.file complaint locked).calls) : False := by
      rw [hcalls] at hcall
      exact not_mem_nil hcall
    refine ⟨hsound, fun _ hcall => (hnone hcall).elim, fun _ hcall => (hnone hcall).elim,
      fun _ hcall => (hnone hcall).elim, fun _ _ _ _ hcall => (hnone (mem_of_getElem? hcall)).elim,
      fun _ hcall => (hnone hcall).elim, fun key hsent => ?_⟩
    rw [hfile]
    refine ⟨(h.sent key hsent).1, fun hnow => ?_⟩
    rw [hloaded hnow]
    exact (h.sent key hsent).1

/-! ## Runs -/

/-- The plane holds a receipt: its file does, and its registry does if it is loaded. -/
def Tracks (plane : PlaneState) (key : String) (receipt : CommandReceipt) : Prop :=
  plane.file.Holds key receipt ∧ (plane.journal.loaded = true → plane.registry.Holds key receipt)

/-- What a plane holds it holds when it goes on. -/
theorem Tracks.goesOn (h : Tracks plane key receipt) (hsound : plane'.Sound keys)
    (hgoes : plane.GoesOn plane') : Tracks plane' key receipt := by
  cases hloaded : plane.journal.loaded with
  | true =>
    obtain ⟨held, hheld, hleads⟩ := h.2 hloaded
    have hregistry := (hgoes.holds key held hheld).from hleads
    obtain ⟨later, hlater, hleads'⟩ := hregistry
    exact ⟨(hsound.covered key later hlater).from hleads', fun _ => ⟨later, hlater, hleads'⟩⟩
  | false =>
    obtain ⟨hfile, hgains⟩ := hgoes.gains hloaded
    obtain ⟨held, hheld, hleads⟩ := h.1
    exact ⟨⟨held, hfile ▸ hheld, hleads⟩, fun hnow => ⟨held, (hgains hnow key).trans hheld, hleads⟩⟩

theorem Sound.tracks {handed : List String} (h : process.Sound keys handed)
    (hfew : keys.length ≤ MAX_COMMAND_RECEIPTS) (input : ProcessInput) (htracks : Tracks process.plane key receipt) :
    Tracks (Process.step format process input).1.plane key receipt := by
  cases input with
  | call command => exact htracks
  | resume index meets =>
    obtain ⟨hsound, hgoes⟩ := h.resume hfew index meets
    exact htracks.goesOn hsound.plane hgoes
  | restart complaint locked =>
    obtain ⟨-, hfile, hloaded⟩ := start_sound format h.plane.file_nodup h.plane.file_within complaint locked
    obtain ⟨held, hheld, hleads⟩ := htracks.1
    exact ⟨⟨held, hfile ▸ hheld, hleads⟩, fun hnow => ⟨held, (hloaded hnow key).trans hheld, hleads⟩⟩

/-- The keys whose requests were handed over, in order. -/
def handedKeys (progress : List Progress) : List String := progress.filterMap fun step => step.handed.map Command.key

theorem handedKeys_concat (progress : List Progress) (step : Progress) :
    handedKeys (progress ++ [step]) = handedKeys progress ++ (step.handed.map Command.key).toList := by
  obtain ⟨handed, answered⟩ := step
  unfold handedKeys
  rw [filterMap_append]
  cases handed
  all_goals rfl

/-- The calls of a run have some of the keys of a list. -/
def Named (keys : List String) (inputs : List ProcessInput) : Prop :=
  ∀ command, ProcessInput.call command ∈ inputs → command.key ∈ keys

theorem Named.left {pre post : List ProcessInput} (h : Named keys (pre ++ post)) :
    Named keys pre := fun command hcommand => h command (mem_append_left post hcommand)

/-- A process is sound after every run. -/
theorem run_sound (format : ReceiptFormat) (h : process.Sound keys [])
    (hfew : keys.length ≤ MAX_COMMAND_RECEIPTS) (hnamed : Named keys inputs) :
    ((machine format).run process inputs).Sound keys (handedKeys ((machine format).outputs process inputs)) := by
  induction inputs using reverseRecOn with
  | nil => exact h
  | append_singleton inputs input ih =>
    have hbefore := ih hnamed.left
    rw [run_concat, outputs_concat, handedKeys_concat]
    exact hbefore.step hfew input fun command hcommand => hnamed command (by simp [hcommand])

/-- A request is handed over for the first time, and its reservation is in the file. -/
theorem Sound.handed {handed : List String} (h : process.Sound keys handed)
    (hfew : keys.length ≤ MAX_COMMAND_RECEIPTS) {input : ProcessInput}
    (hhanded : (Process.step format process input).2.handed = some command) :
    command.key ∉ handed ∧ ∃ receipt, process.plane.file.get command.key = some receipt ∧
      command.Owns receipt ∧ receipt.command_id = command.command_id := by
  cases input with
  | call command | restart complaint locked => cases hhanded
  | resume index meets =>
    dsimp only [Process.step] at hhanded
    cases hcall : process.calls[index]? with
    | none =>
      rw [hcall] at hhanded
      cases hhanded
    | some call =>
      obtain ⟨resumed, stage⟩ := call
      rw [hcall] at hhanded
      have hmem : (resumed, stage) ∈ process.calls := mem_of_getElem? hcall
      have hkept := (PlaneState.resume_resumed format h.plane.registry_nodup resumed meets
        stage).kept h.plane hfew (h.named _ hmem) (h.begun _ hmem) fun hbound => by
          obtain ⟨receipt, hreceipt, howns, -⟩ := h.bound _ hmem hbound
          exact ⟨receipt, hreceipt, howns⟩
      obtain ⟨rfl, rfl, -, -⟩ := hkept.handed command hhanded
      obtain ⟨receipt, hreceipt, howns, hown⟩ := h.bound _ hmem rfl
      obtain ⟨stored, hstored, hleads⟩ := h.plane.covered _ _ hreceipt
      exact ⟨h.unsent _ hmem rfl, stored, hstored, howns.leadsTo hleads, hleads.command_id.trans (hown rfl)⟩

/-- At most one request is handed over for a key along a run, and none before its reservation is in
the file. A receipt that the registry holds stays there with its session and kind, is refused for
every other session and kind, and only goes forward. -/
structure DispatchedOnce (format : ReceiptFormat) (process : Process) (inputs : List ProcessInput) :
    Prop where
  once : ∀ key, (handedKeys ((machine format).outputs process inputs)).count key ≤ 1
  durable : ∀ pre input post command, inputs = pre ++ input :: post →
    (step format ((machine format).run process pre) input).2.handed = some command →
    ∃ receipt, ((machine format).run process pre).plane.file.get command.key = some receipt ∧
      command.Owns receipt ∧ receipt.command_id = command.command_id
  kept : ∀ pre mid post key receipt, inputs = pre ++ mid ++ post →
    ((machine format).run process pre).plane.registry.get key = some receipt →
    ((machine format).run process (pre ++ mid)).plane.journal.loaded = true →
    ∃ later, ((machine format).run process (pre ++ mid)).plane.registry.get key = some later ∧
      receipt.LeadsTo later
  refused : ∀ pre mid post key receipt, inputs = pre ++ mid ++ post →
    ((machine format).run process pre).plane.registry.get key = some receipt →
    ∀ call ∈ ((machine format).run process (pre ++ mid)).calls, call.1.key = key →
      ¬ call.1.Owns receipt → call.2.bound = false

/-- No key's request is handed over twice. -/
theorem run_handed_nodup (h : process.Sound keys []) (hfew : keys.length ≤ MAX_COMMAND_RECEIPTS)
    (hnamed : Named keys inputs) : (handedKeys ((machine format).outputs process inputs)).Nodup := by
  induction inputs using reverseRecOn with
  | nil => exact nodup_nil
  | append_singleton inputs input ih =>
    have hbefore := ih hnamed.left
    have hsound := run_sound format h hfew hnamed.left
    rw [outputs_concat, handedKeys_concat]
    cases hhanded : ((machine format).step ((machine format).run process inputs) input).2.handed with
    | none => simpa using hbefore
    | some command =>
      have hnew := (hsound.handed hfew hhanded).1
      refine nodup_append'.mpr ⟨hbefore, nodup_singleton _, ?_⟩
      simpa using hnew

/-- What the registry holds at some time the plane holds from then on. -/
theorem Sound.run_tracks {handed : List String} (h : process.Sound keys handed)
    (hfew : keys.length ≤ MAX_COMMAND_RECEIPTS) (hnamed : Named keys inputs)
    (htracks : Tracks process.plane key receipt) : Tracks ((machine format).run process inputs).plane key receipt := by
  induction inputs generalizing process handed with
  | nil => exact htracks
  | cons input inputs ih =>
    rw [run_cons]
    refine ih (h.step hfew input fun command hcommand => hnamed command (by simp [hcommand]))
      (fun command hcommand => hnamed command (mem_cons_of_mem _ hcommand)) ?_
    exact h.tracks hfew input htracks

end Process

/-- A process with one plane dispatches every key at most once, whatever its calls meet and however
often it starts again, as long as there are no more keys than receipts that a registry may have. -/
theorem dispatched_once (format : ReceiptFormat) (keys : List String) {file : Receipts} (hnodup : file.keys.Nodup)
    (hfile : file.Within keys) (hfew : keys.length ≤ MAX_COMMAND_RECEIPTS)
    (complaint : Option String) (locked : Bool) {inputs : List ProcessInput}
    (hnamed : Process.Named keys inputs) :
    Process.DispatchedOnce format (Process.start format file complaint locked) inputs := by
  set process := Process.start format file complaint locked with hprocess
  have hplane := (Process.start_sound format hnodup hfile complaint locked).1
  have hsound : process.Sound keys [] := by
    have hnone {call : Command × Stage} (hcall : call ∈ process.calls) : False := by
      rw [show process.calls = [] from rfl] at hcall
      exact not_mem_nil hcall
    exact ⟨hplane, fun _ hcall => (hnone hcall).elim, fun _ hcall => (hnone hcall).elim,
      fun _ hcall => (hnone hcall).elim, fun _ _ _ _ hcall => (hnone (mem_of_getElem? hcall)).elim,
      fun _ _ _ => not_mem_nil, fun _ hsent => absurd hsent not_mem_nil⟩
  have hrun {pre post : List ProcessInput} (hinputs : inputs = pre ++ post) :
      ((Process.machine format).run process pre).Sound keys
        (Process.handedKeys ((Process.machine format).outputs process pre)) :=
    Process.run_sound format hsound hfew (hinputs ▸ hnamed).left
  have htracks {pre mid post : List ProcessInput} {key : String} {receipt : CommandReceipt}
      (hinputs : inputs = pre ++ mid ++ post)
      (hreceipt : ((Process.machine format).run process pre).plane.registry.get key = some receipt) :
      Process.Tracks ((Process.machine format).run process (pre ++ mid)).plane key receipt := by
    rw [append_assoc] at hinputs
    have hbefore := hrun hinputs
    rw [run_append]
    refine hbefore.run_tracks hfew (fun command hcommand => hnamed command ?_)
      ⟨hbefore.plane.covered _ _ hreceipt, fun _ => .of_get hreceipt⟩
    rw [hinputs]
    exact mem_append_right _ (mem_append_left _ hcommand)
  refine ⟨fun key => ?_, ?_, ?_, ?_⟩
  · exact nodup_iff_count_le_one.mp (Process.run_handed_nodup hsound hfew hnamed) key
  · rintro pre input post command rfl hhanded
    exact ((hrun rfl).handed hfew hhanded).2
  · intro pre mid post key receipt hinputs hreceipt hloaded
    exact (htracks hinputs hreceipt).2 hloaded
  · intro pre mid post key receipt hinputs hreceipt call hcall hkey hother
    by_contra hbound
    have hafter := hrun hinputs
    obtain ⟨own, hown, howns, -⟩ := hafter.bound call hcall (by simpa using hbound)
    have hloaded : ((Process.machine format).run process (pre ++ mid)).plane.journal.loaded = true := by
      by_contra hnot
      rw [hafter.plane.unloaded (by simpa using hnot)] at hown
      cases hown
    obtain ⟨held, hheld, hleads⟩ := (htracks hinputs hreceipt).2 hloaded
    rw [← hkey, hown] at hheld
    cases hheld
    exact hother ⟨hleads.session_id.symm.trans howns.1, hleads.kind.symm.trans howns.2⟩

end

namespace Sample

/-- Times and sizes of the receipts here. -/
def receiptFormat : ReceiptFormat :=
  ⟨fun text => if text = "2026-08-23T12:00:00Z" then some text else none, fun _ => 300, fun _ => 400⟩

/-- A prompt for the session `s`. -/
def prompt (command_id : String) : Command :=
  ⟨⟨"s", none, "key-0001", 10000⟩, .prompt, command_id, "2026-08-23T12:00:00Z"⟩

/-- A peer that answers with this value, and a disk on which everything works. -/
def meeting (reply : Json) : Meets := ⟨.ok (), .ok (), .ok (), .ok reply, ⟨none, fun _ => false⟩, ""⟩

/-- The peer accepts and tells nothing else. -/
def accepted : Json := .ofFields [("accepted", .bool true), ("session_id", .string "s")]

/-- A call is resumed until it is answered. -/
def exchange (index : ℕ) (reply : Json) : List ProcessInput := List.replicate 7 (.resume index (meeting reply))

/-- Two calls race for one key, and the process starts again. -/
theorem raced_key_dispatched_once : Process.DispatchedOnce receiptFormat
    (Process.start receiptFormat [] none false)
    ([.call (prompt "gjc-cmd-1"), .call (prompt "gjc-cmd-2")] ++ exchange 1 accepted ++
      exchange 0 accepted ++ [.restart none false, .call (prompt "gjc-cmd-3")] ++ exchange 0 accepted) := by
  have hempty : (OrdMap.keys ([] : Receipts)).Nodup := nodup_nil
  refine dispatched_once receiptFormat ["key-0001"] hempty (fun key hkey => by cases hkey)
    (by decide) none false fun command hcommand => ?_
  simp only [exchange, mem_append, mem_cons, mem_replicate, not_mem_nil,
    or_false, ProcessInput.call.injEq, reduceCtorEq, and_false, false_or, or_assoc] at hcommand
  rcases hcommand with rfl | rfl | rfl
  all_goals decide

end Sample

end Clawhip.Gjc
