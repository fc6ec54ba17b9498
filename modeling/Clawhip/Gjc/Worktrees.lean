import Clawhip.Gjc.Reservations

/-!
# Planes of several worktrees

A daemon with planes that are made by `scoped_to_worktree` and share one registry. Every plane has a
journal of its own, and every worktree a file; a write stores the whole registry in the file of the plane
that acts. As long as no other file and no journal that waits to be merged holds a copy of a receipt that
changes, all copies are current, and every journal can be merged.
-/

namespace Clawhip

open List Option OrdMap Machine

namespace Gjc

/-! ## Daemons -/

/-- A plane made for a worktree. -/
structure ScopedPlane where
  worktree : String
  journal : ReceiptJournal

/-- The registry, the journals' files by worktree, the planes, and the calls by plane. -/
structure Daemon where
  registry : Receipts := []
  files : OrdMap String Receipts := []
  planes : List ScopedPlane := []
  calls : List (ℕ × Command × Stage) := []

/-- What happens to a daemon. -/
inductive DaemonInput where
  /-- `ReceiptJournal::for_worktree`; what it says of the file, if it cannot read it. -/
  | scope (worktree : String) (complaint : Option String)
  /-- `ReceiptJournal::initialize`, when the registry is locked by somebody else or not. -/
  | mergeEarly (plane : ℕ) (locked : Bool)
  | call (plane : ℕ) (command : Command)
  | resume (index : ℕ) (meets : Meets)
  /-- `command_receipt`. -/
  | receipt (plane : ℕ) (key : String)
  | restart

namespace Daemon

variable (format : ReceiptFormat) (daemon : Daemon)

/-- The receipts in the file of a worktree. A file that is not there holds none. -/
def file (worktree : String) : Receipts := (daemon.files.get worktree).getD []

/-- What a plane works on. -/
def stateOf (plane : ScopedPlane) : PlaneState := ⟨daemon.registry, plane.journal, daemon.file plane.worktree⟩

/-- The daemon after a plane has worked. -/
def working (index : ℕ) (plane : ScopedPlane) (state : PlaneState) : Daemon :=
  { daemon with
    registry := state.registry
    files := OrdMap.insert daemon.files plane.worktree state.file
    planes := daemon.planes.set index { plane with journal := state.journal } }

/-- `ensure_receipt_journal` of a plane, and what `command_receipt` answers after it. -/
def commandReceipt (plane : ScopedPlane) (key : String) :
    PlaneState × Except ControlError CommandReceipt :=
  let loaded := plane.journal.ensureLoaded daemon.registry
  ({ daemon.stateOf plane with journal := loaded.1.1, registry := loaded.1.2 }, match loaded.2 with
    | .error error => .error error
    | .ok () => match loaded.1.2.get key with
      | some receipt => .ok receipt
      | none => .error (.sessionNotFound key))

/-- One step of a daemon. A receipt that is asked for is answered. -/
def step : DaemonInput → Daemon × Option (Except ControlError CommandReceipt)
  | .scope worktree complaint =>
    ({ daemon with planes := daemon.planes ++ [⟨worktree,
        { pending := some (loadReceiptJournal format complaint (daemon.file worktree)) }⟩] }, none)
  | .mergeEarly index locked => match daemon.planes[index]? with
    | none => (daemon, none)
    | some plane =>
      let merged := plane.journal.mergeEarly locked daemon.registry
      (daemon.working index plane { daemon.stateOf plane with journal := merged.1, registry := merged.2 }, none)
  | .call index command => ({ daemon with calls := daemon.calls ++ [(index, command, .entering)] }, none)
  | .resume index meets => match daemon.calls[index]? with
    | none => (daemon, none)
    | some (owner, command, stage) => match daemon.planes[owner]? with
      | none => (daemon, none)
      | some plane =>
        let resumed := (daemon.stateOf plane).resume format command meets stage
        ({ daemon.working owner plane resumed.1 with
          calls := daemon.calls.set index (owner, command, resumed.2.1) }, none)
  | .receipt index key => match daemon.planes[index]? with
    | none => (daemon, none)
    | some plane =>
      let answered := daemon.commandReceipt plane key
      (daemon.working index plane answered.1, some answered.2)
  | .restart => ({ files := daemon.files }, none)

def machine : Machine Daemon DaemonInput (Option (Except ControlError CommandReceipt)) := ⟨step format⟩

/-- The receipt that the registry last held under a key, after a run of a daemon from nothing. -/
def current (inputs : List DaemonInput) (key : String) : Option CommandReceipt :=
  (inputs.inits.filterMap fun pre => ((machine format).run {} pre).registry.get key).getLast?

/-! ## Conditions -/

/-- The files can be read, and a write that replaces its file does not fail after that. -/
def Persists : DaemonInput → Prop
  | .scope _ complaint => complaint = none
  | .resume _ meets => meets.disk.fails .syncDirectory = false
  | _ => True

/-- The call is about to reserve its key, or to change its receipt. -/
def changes (command : Command) : Stage → Bool
  | .reserving => (daemon.registry.get command.key).isNone
  | .acking _ _ | .finishing _ _ _ => true
  | _ => false

/-- No file of another worktree holds a receipt under the key, and no journal that was read and is not
yet merged does. -/
def Alone (worktree key : String) : Prop :=
  (∀ other ≠ worktree, (daemon.file other).get key = none) ∧
    ∀ plane ∈ daemon.planes, ∀ receipts, plane.journal.pending = some (.ok receipts) → receipts.get key = none

/-- A call that is about to change a receipt is alone with it. -/
def Undisturbed : DaemonInput → Prop
  | .resume index _ => ∀ owner command stage plane,
      daemon.calls[index]? = some (owner, command, stage) → daemon.planes[owner]? = some plane →
        daemon.changes command stage = true → daemon.Alone plane.worktree command.key
  | _ => True

/-- The keys of all calls are some of a list of keys. -/
def Named (keys : List String) (inputs : List DaemonInput) : Prop :=
  ∀ index command, DaemonInput.call index command ∈ inputs → command.key ∈ keys

/-! ## What is claimed -/

/-- A journal can be merged: the live receipts stay, and what comes to them is current. -/
structure Merges (seen : String → Option CommandReceipt) (plane : ScopedPlane) : Prop where
  error : plane.journal.error = none
  loads : (plane.journal.ensureLoaded daemon.registry).2 = .ok ()
  live : ∀ key receipt, daemon.registry.get key = some receipt →
    (plane.journal.ensureLoaded daemon.registry).1.2.get key = some receipt
  added : ∀ key receipt, daemon.registry.get key = none →
    (plane.journal.ensureLoaded daemon.registry).1.2.get key = some receipt → seen key = some receipt

/-- In every state of a run from nothing, every journal is merged or can be. -/
def JournalsAgree (inputs : List DaemonInput) : Prop :=
  ∀ pre post, inputs = pre ++ post → ∀ plane ∈ ((machine format).run {} pre).planes,
    ((machine format).run {} pre).Merges (current format pre) plane

end Daemon

/-! ## Current copies -/

/-- Receipts with keys of a list, all of them as they were seen last. -/
structure Receipts.Current (receipts : Receipts) (keys : List String)
    (seen : String → Option CommandReceipt) : Prop where
  nodup : receipts.keys.Nodup
  within : receipts.Within keys
  seen : ∀ key receipt, receipts.get key = some receipt → seen key = some receipt

namespace Receipts.Current

variable {registry receipts : Receipts} {keys : List String} {seen seen' : String → Option CommandReceipt}

theorem nil (keys : List String) (seen : String → Option CommandReceipt) : Receipts.Current [] keys seen := by
  refine ⟨nodup_nil, fun key hkey => ?_, fun key receipt hreceipt => ?_⟩
  · cases hkey
  · cases hreceipt

/-- What else was seen does not matter. -/
theorem reseen (h : receipts.Current keys seen)
    (hsame : ∀ key, receipts.get key ≠ none → seen' key = seen key) : receipts.Current keys seen' := by
  refine ⟨h.nodup, h.within, fun key receipt hreceipt => ?_⟩
  rw [hsame key (by rw [hreceipt]; exact some_ne_none receipt)]
  exact h.seen key receipt hreceipt

section

variable (h : registry.Current keys seen)
include h

/-- Current receipts are seen again. -/
theorem or_seen (key : String) : (registry.get key).or (seen key) = seen key := by
  cases hreceipt : registry.get key with
  | none => rfl
  | some receipt => exact (h.seen key receipt hreceipt).symm

/-- Two maps of current receipts never need more room than all keys. -/
theorem length_le (h' : receipts.Current keys seen) : receipts.length ≤ keys.length ∧
      registry.length + (receipts.keys.filter fun key => (registry.get key).isNone).length ≤ keys.length := by
  have hmem {held : Receipts} (hheld : held.Current keys seen) : held.keys ⊆ keys := by
    intro key hkey
    refine hheld.within key (isSome_iff_ne_none.mpr fun hnone => ?_)
    exact get_eq_none_iff.mp hnone hkey
  have hle := (subperm_of_subset h'.nodup (hmem h')).length_le
  have hboth : (registry.keys ++ receipts.keys.filter fun key => (registry.get key).isNone).Nodup := by
    refine h.nodup.append (h'.nodup.filter _) fun key hkey hadded => ?_
    have hnone := (mem_filter.mp hadded).2
    exact get_eq_none_iff.mp (isNone_iff_eq_none.mp hnone) hkey
  have hle' := (subperm_of_subset hboth (append_subset.mpr
    ⟨hmem h, fun key hkey => hmem h' (mem_filter.mp hkey).1⟩)).length_le
  rw [length_append] at hle'
  simp only [OrdMap.keys, length_map] at hle hle' ⊢
  exact ⟨hle, hle'⟩

theorem merge (h' : receipts.Current keys seen) (hfew : keys.length ≤ MAX_COMMAND_RECEIPTS) :
    ∃ merged, mergeLoadedReceipts registry receipts = .ok merged ∧ merged.Current keys seen ∧
      ∀ key receipt, registry.get key = some receipt → merged.get key = some receipt := by
  obtain ⟨hreceipts, hadditions⟩ := h.length_le h'
  have hagree : (receipts.any fun entry => (registry.get entry.1).any fun existing =>
      decide (existing ≠ entry.2)) = false := by
    refine any_eq_false.mpr fun entry hentry => ?_
    cases hexisting : registry.get entry.1 with
    | none => exact Bool.false_ne_true
    | some existing =>
      have hown := h'.seen entry.1 entry.2 (get_of_mem h'.nodup hentry)
      have hlive := h.seen entry.1 existing hexisting
      rw [hown] at hlive
      cases hlive
      simp
  have hget (key : String) : get (registry.fill
      (receipts.map fun entry => (entry.1, some entry.2))) key = (registry.get key).or (receipts.get key) := by
    rw [get_fill registry (keys_map_values receipts some ▸ h'.nodup), get_map_values]
    cases registry.get key
    all_goals
      cases receipts.get key
      all_goals rfl
  refine ⟨registry.fill (receipts.map fun entry => (entry.1, some entry.2)), ?_,
    ⟨nodup_fill h.nodup _, fun key hkey => ?_, fun key receipt hreceipt => ?_⟩, fun key receipt hreceipt => ?_⟩
  · unfold mergeLoadedReceipts
    rw [if_neg (by omega), hagree, if_neg Bool.false_ne_true]
  · rw [hget, isSome_or, Bool.or_eq_true] at hkey
    exact hkey.elim (h.within key) (h'.within key)
  · rw [hget, or_eq_some_iff] at hreceipt
    rcases hreceipt with hlive | ⟨-, hadded⟩
    · exact h.seen key receipt hlive
    · exact h'.seen key receipt hadded
  · rw [hget, hreceipt, some_or]

end

end Receipts.Current

/-! ## Journals -/

/-- A journal is merged, or holds what it is to merge. -/
structure ReceiptJournal.Ready (journal : ReceiptJournal) (keys : List String)
    (seen : String → Option CommandReceipt) : Prop where
  error : journal.error = none
  waits : journal.loaded = false → journal.pending ≠ none
  pending : ∀ answer, journal.pending = some answer →
    ∃ receipts, answer = .ok receipts ∧ receipts.Current keys seen

namespace ReceiptJournal

variable {journal : ReceiptJournal} {registry receipts : Receipts} {keys : List String}
  {seen seen' : String → Option CommandReceipt}

/-- What comes of a registry when current receipts are merged into it. -/
structure Joined (registry registry' : Receipts) (journal' : ReceiptJournal) (keys : List String)
    (seen : String → Option CommandReceipt) : Prop where
  journal : journal'.Ready keys seen
  current : registry'.Current keys seen
  live : ∀ key receipt, registry.get key = some receipt → registry'.get key = some receipt

/-- Nothing is merged. -/
theorem Ready.joined (h : journal.Ready keys seen) (hregistry : registry.Current keys seen) :
    Joined registry registry journal keys seen :=
  ⟨h, hregistry, fun _ _ hreceipt => hreceipt⟩

theorem merge_joined (hregistry : registry.Current keys seen) (hreceipts : receipts.Current keys seen)
    (hfew : keys.length ≤ MAX_COMMAND_RECEIPTS) :
    Joined registry (merge receipts registry).2 (merge receipts registry).1 keys seen ∧
      (merge receipts registry).1.error = none := by
  obtain ⟨merged, hmerged, hcurrent, hlive⟩ := hregistry.merge hreceipts hfew
  unfold merge
  rw [hmerged]
  have hjournal : ReceiptJournal.Ready { pending := none, loaded := true } keys seen :=
    ⟨rfl, fun hnot => Bool.noConfusion hnot, fun answer hanswer => by cases hanswer⟩
  exact ⟨⟨hjournal, hcurrent, hlive⟩, rfl⟩

section

variable (h : journal.Ready keys seen)
include h

theorem Ready.mergeEarly (hregistry : registry.Current keys seen)
    (hfew : keys.length ≤ MAX_COMMAND_RECEIPTS) (locked : Bool) :
    Joined registry (journal.mergeEarly locked registry).2 (journal.mergeEarly locked registry).1 keys seen := by
  unfold ReceiptJournal.mergeEarly
  by_cases hready : (journal.loaded || journal.error.isSome) = true
  · rw [if_pos hready]
    exact h.joined hregistry
  · rw [if_neg hready]
    cases hpending : journal.pending with
    | none => exact h.joined hregistry
    | some answer =>
      obtain ⟨receipts, rfl, hreceipts⟩ := h.pending answer hpending
      cases locked with
      | true => exact h.joined hregistry
      | false => exact (merge_joined hregistry hreceipts hfew).1

/-- A journal that is ready can be loaded. -/
theorem Ready.ensureLoaded (hregistry : registry.Current keys seen) (hfew : keys.length ≤ MAX_COMMAND_RECEIPTS) :
    Joined registry (journal.ensureLoaded registry).1.2 (journal.ensureLoaded registry).1.1 keys seen ∧
      (journal.ensureLoaded registry).2 = .ok () := by
  unfold ReceiptJournal.ensureLoaded
  by_cases hready : (journal.error.isSome || journal.loaded) = true
  · rw [if_pos hready]
    refine ⟨h.joined hregistry, ?_⟩
    dsimp only
    rw [h.error]
  · rw [if_neg hready]
    have hloaded : journal.loaded = false := by
      rw [Bool.or_eq_true, not_or] at hready
      exact Bool.eq_false_iff.mpr hready.2
    cases hpending : journal.pending with
    | none => exact absurd hpending (h.waits hloaded)
    | some answer =>
      obtain ⟨receipts, rfl, hreceipts⟩ := h.pending answer hpending
      obtain ⟨hjoined, herror⟩ := merge_joined hregistry hreceipts hfew
      refine ⟨hjoined, ?_⟩
      dsimp only
      rw [herror]

/-- What else was seen than the receipts of a journal does not matter. -/
theorem Ready.reseen (hsame : ∀ receipts, journal.pending = some (.ok receipts) → ∀ key, receipts.get key ≠ none →
      seen' key = seen key) : journal.Ready keys seen' := by
  refine ⟨h.error, h.waits, fun answer hanswer => ?_⟩
  obtain ⟨receipts, rfl, hreceipts⟩ := h.pending answer hanswer
  exact ⟨receipts, rfl, hreceipts.reseen (hsame receipts hanswer)⟩

end

end ReceiptJournal

/-! ## Daemons that agree -/

/-- Everything that a daemon holds is current: its registry, its files, and what its journals are to
merge. -/
structure Daemon.Agrees (format : ReceiptFormat) (daemon : Daemon) (keys : List String)
    (seen : String → Option CommandReceipt) : Prop where
  registry : daemon.registry.Current keys seen
  file : ∀ worktree, (daemon.file worktree).Current keys seen
  readable : ∀ worktree, loadReceiptJournal format none (daemon.file worktree) = .ok (daemon.file worktree)
  plane : ∀ plane ∈ daemon.planes, plane.journal.Ready keys seen

namespace Daemon

variable {format : ReceiptFormat} {daemon : Daemon} {keys : List String}
  {seen seen' : String → Option CommandReceipt} {plane : ScopedPlane} {state : PlaneState} {input : DaemonInput}

/-- A daemon agrees after a plane has worked, if what the plane made of things is current, and what it
left alone still is. -/
theorem working_agrees {index : ℕ} (registry : state.registry.Current keys seen)
    (file : ∀ worktree, ((daemon.working index plane state).file worktree).Current keys seen)
    (readable : ∀ worktree, loadReceiptJournal format none ((daemon.working index plane state).file worktree) =
        .ok ((daemon.working index plane state).file worktree)) (journal : state.journal.Ready keys seen)
    (planes : ∀ other ∈ daemon.planes, other.journal.Ready keys seen) :
    (daemon.working index plane state).Agrees format keys seen := by
  refine ⟨registry, file, readable, fun other hother => ?_⟩
  rcases mem_or_eq_of_mem_set hother with hother | rfl
  · exact planes other hother
  · exact journal

variable (index : ℕ)

theorem file_working (plane : ScopedPlane) (state : PlaneState) (worktree : String) :
    (daemon.working index plane state).file worktree =
      if worktree = plane.worktree then state.file else daemon.file worktree := by
  unfold file working
  rw [get_insert]
  split_ifs
  all_goals rfl

/-- A plane that leaves its file alone leaves all files alone. -/
theorem file_working_self {index : ℕ} (hfile : state.file = daemon.file plane.worktree) (worktree : String) :
    (daemon.working index plane state).file worktree = daemon.file worktree := by
  rw [file_working]
  split_ifs with hown
  · rw [hfile, hown]
  · rfl

/-- A journal is merged. -/
theorem Agrees.joins (h : daemon.Agrees format keys seen) (index : ℕ) (plane : ScopedPlane)
    (hfile : state.file = daemon.file plane.worktree)
    (hjoined : ReceiptJournal.Joined daemon.registry state.registry state.journal keys seen) :
    (daemon.working index plane state).Agrees format keys seen := by
  refine working_agrees hjoined.current (fun worktree => ?_) (fun worktree => ?_) hjoined.journal h.plane
  · rw [file_working_self hfile]
    exact h.file worktree
  · rw [file_working_self hfile]
    exact h.readable worktree

variable {disk : JournalDisk}

/-- Receipts that could be written can be read again. -/
theorem loadReceiptJournal_of_persistComplaint {receipts : Receipts}
    (h : persistComplaint format disk receipts = none) : loadReceiptJournal format none receipts = .ok receipts := by
  obtain ⟨hreceipts, hrest⟩ := or_eq_none_iff.mp h
  split_ifs at hrest with hfew
  unfold loadReceiptJournal
  rw [if_neg hfew, hreceipts]

section

variable (h : daemon.Agrees format keys seen)
include h

/-- A plane writes a receipt that no other copy is kept of. -/
theorem Agrees.writes (hfew : keys.length ≤ MAX_COMMAND_RECEIPTS)
    (index : ℕ) {plane : ScopedPlane} (hplane : plane ∈ daemon.planes)
    (hdisk : disk.fails .syncDirectory = false) {state : PlaneState} {key : String} {receipt : CommandReceipt}
    {candidate : Receipts} {ok : Bool} (hkey : key ∈ keys) (halone : daemon.Alone plane.worktree key)
    (hwrote : (daemon.stateOf plane).Wrote format disk state key receipt candidate ok) :
    (daemon.working index plane state).Agrees format keys fun key => (state.registry.get key).or (seen key) := by
  have hjournal : state.journal = plane.journal := hwrote.journal
  have hroom (hnone : daemon.registry.get key = none) : daemon.registry.length < MAX_COMMAND_RECEIPTS :=
    lt_of_lt_of_le (h.registry.within.length_lt h.registry.nodup hkey hnone) hfew
  cases ok with
  | false =>
    -- The registry is as it was, and so is the file.
    obtain ⟨hget, hnodup, hfile⟩ := hwrote.undone rfl
    have hfile : state.file = daemon.file plane.worktree :=
      hfile.resolve_right fun hsync => absurd (hdisk.symm.trans hsync.1) (by decide)
    have hsame : (fun key => (state.registry.get key).or (seen key)) = seen := by
      funext other
      rw [hget]
      exact h.registry.or_seen other
    rw [hsame]
    refine h.joins index plane hfile ⟨hjournal ▸ h.plane plane hplane, ?_, fun other held hheld => ?_⟩
    · refine ⟨hnodup h.registry.nodup, fun other hother => ?_, fun other held hheld => ?_⟩
      · rw [hget] at hother
        exact h.registry.within other hother
      · rw [hget] at hheld
        exact h.registry.seen other held hheld
    · rw [hget]
      exact hheld
  | true =>
    obtain ⟨hregistry, hfile⟩ := hwrote.done rfl
    have hothers {other : String} (hother : other ≠ key) :
        candidate.get other = daemon.registry.get other := hwrote.others_eq hroom hother
    -- Only what is seen under the key changes.
    have hsame {other : String} (hother : other ≠ key) : (state.registry.get other).or (seen other) = seen other := by
      rw [hregistry, hothers hother]
      exact h.registry.or_seen other
    have hcandidate : candidate.Current keys fun key => (state.registry.get key).or (seen key) := by
      refine ⟨hwrote.nodup h.registry.nodup, fun other hother => ?_, fun other held hheld => ?_⟩
      · by_cases hown : other = key
        · exact hown ▸ hkey
        · rw [hothers hown] at hother
          exact h.registry.within other hother
      · rw [hregistry, hheld, some_or]
    have hpending {other : ScopedPlane} (hother : other ∈ daemon.planes) :
        other.journal.Ready keys fun key => (state.registry.get key).or (seen key) := by
      refine (h.plane other hother).reseen fun receipts hreceipts held hheld => hsame ?_
      rintro rfl
      exact hheld (halone.2 other hother receipts hreceipts)
    refine working_agrees (hregistry ▸ hcandidate) (fun worktree => ?_) (fun worktree => ?_)
      (hjournal ▸ hpending hplane) fun other => hpending
    · rw [file_working]
      split_ifs with hown
      · exact hfile ▸ hcandidate
      · refine (h.file worktree).reseen fun held hheld => hsame ?_
        rintro rfl
        exact hheld (halone.1 worktree hown)
    · rw [file_working]
      split_ifs with hown
      · rw [hfile]
        exact loadReceiptJournal_of_persistComplaint (hwrote.valid rfl)
      · exact h.readable worktree

/-- A plane whose call changes nothing, and what is seen after it. -/
theorem Agrees.stays (hplane : plane ∈ daemon.planes) :
    (daemon.working index plane (daemon.stateOf plane)).Agrees format keys
      fun key => ((daemon.stateOf plane).registry.get key).or (seen key) := by
  have hsame : (fun key => ((daemon.stateOf plane).registry.get key).or (seen key)) = seen := funext h.registry.or_seen
  rw [hsame]
  exact h.joins index plane rfl ((h.plane plane hplane).joined h.registry)

/-- A journal is merged, and nothing else is seen. -/
theorem Agrees.joins_seen (plane : ScopedPlane) (hfile : state.file = daemon.file plane.worktree)
    (hjoined : ReceiptJournal.Joined daemon.registry state.registry state.journal keys seen) :
    (daemon.working index plane state).Agrees format keys fun key => (state.registry.get key).or (seen key) := by
  have hsame : (fun key => (state.registry.get key).or (seen key)) = seen := funext hjoined.current.or_seen
  rw [hsame]
  exact h.joins index plane hfile hjoined

/-- A resumed call that is undisturbed keeps a daemon in agreement. -/
theorem Agrees.resumes (hfew : keys.length ≤ MAX_COMMAND_RECEIPTS)
    (index : ℕ) (hplane : plane ∈ daemon.planes) {command : Command} (hkey : command.key ∈ keys)
    {meets : Meets} (hdisk : meets.disk.fails .syncDirectory = false) {stage : Stage}
    (halone : daemon.changes command stage = true → daemon.Alone plane.worktree command.key) :
    (daemon.working index plane ((daemon.stateOf plane).resume format command meets stage).1).Agrees
      format keys fun key =>
        (((daemon.stateOf plane).resume format command meets stage).1.registry.get key).or (seen key) := by
  have hnodup : (daemon.stateOf plane).registry.keys.Nodup := h.registry.nodup
  have hresumed := PlaneState.resume_resumed format hnodup command meets stage
  revert hresumed
  generalize (daemon.stateOf plane).resume format command meets stage = resumed
  obtain ⟨state, stage', handed⟩ := resumed
  intro hresumed
  cases hresumed with
  | enters => exact h.joins_seen index plane rfl ((h.plane plane hplane).ensureLoaded h.registry hfew).1
  | reserves hnone hwrote | refuses hnone hwrote =>
    have hchanges : daemon.changes command .reserving = true := isNone_iff_eq_none.mpr hnone
    exact h.writes hfew index hplane hdisk hkey (halone hchanges) hwrote
  | updates hprevious hleads hwrote hstage =>
    have hchanges : daemon.changes command stage = true := by
      rcases hstage with ⟨_, _, rfl, -⟩ | ⟨_, _, _, rfl, -⟩
      all_goals rfl
    exact h.writes hfew index hplane hdisk hkey (halone hchanges) hwrote
  | reverts hprevious hleads hwrote hstage =>
    have hchanges : daemon.changes command stage = true := by
      rcases hstage with ⟨_, _, rfl⟩ | ⟨_, _, _, rfl⟩
      all_goals rfl
    exact h.writes hfew index hplane hdisk hkey (halone hchanges) hwrote
  | replays | fails | checks | resolves | sends | accepts | keeps | rests => exact h.stays index hplane

end

def CallsNamed (daemon : Daemon) (keys : List String) : Prop := ∀ call ∈ daemon.calls, call.2.1.key ∈ keys

/-- One step keeps a daemon in agreement. -/
theorem step_agrees (h : daemon.Agrees format keys seen) (hfew : keys.length ≤ MAX_COMMAND_RECEIPTS)
    (hcalls : daemon.CallsNamed keys) (hpersists : Persists input) (halone : daemon.Undisturbed input) :
    (daemon.step format input).1.Agrees format keys
      fun key => ((daemon.step format input).1.registry.get key).or (seen key) := by
  have hrests : daemon.Agrees format keys fun key => (daemon.registry.get key).or (seen key) := by
    have hsame : (fun key => (daemon.registry.get key).or (seen key)) = seen := funext h.registry.or_seen
    rw [hsame]
    exact h
  cases input with
  | scope worktree complaint =>
    obtain rfl : complaint = none := hpersists
    refine ⟨hrests.registry, hrests.file, hrests.readable, fun plane hplane => ?_⟩
    rcases mem_append.mp hplane with hplane | hplane
    · exact hrests.plane plane hplane
    · obtain rfl := mem_singleton.mp hplane
      refine ⟨rfl, fun _ hnone => some_ne_none _ hnone, fun answer hanswer => ?_⟩
      cases hanswer
      exact ⟨_, h.readable worktree, hrests.file worktree⟩
  | mergeEarly index locked =>
    unfold step
    dsimp only
    cases hplane : daemon.planes[index]? with
    | none => exact hrests
    | some plane =>
      have hmem := mem_of_getElem? hplane
      exact h.joins_seen index plane rfl ((h.plane plane hmem).mergeEarly h.registry hfew locked)
  | call index command => exact ⟨hrests.registry, hrests.file, hrests.readable, hrests.plane⟩
  | resume index meets =>
    unfold step
    dsimp only
    cases hcall : daemon.calls[index]? with
    | none => exact hrests
    | some call =>
      obtain ⟨owner, command, stage⟩ := call
      dsimp only
      cases hplane : daemon.planes[owner]? with
      | none => exact hrests
      | some plane =>
        have hresumes := h.resumes hfew owner (mem_of_getElem? hplane)
          (hcalls _ (mem_of_getElem? hcall)) hpersists (halone owner command stage plane hcall hplane)
        exact ⟨hresumes.registry, hresumes.file, hresumes.readable, hresumes.plane⟩
  | receipt index key =>
    unfold step
    dsimp only
    cases hplane : daemon.planes[index]? with
    | none => exact hrests
    | some plane =>
      have hmem := mem_of_getElem? hplane
      exact h.joins_seen index plane rfl ((h.plane plane hmem).ensureLoaded h.registry hfew).1
  | restart =>
    refine ⟨.nil keys _, h.file, h.readable, fun plane hplane => ?_⟩
    cases hplane

/-- What is seen last after one more input. -/
theorem current_concat (inputs : List DaemonInput) (input : DaemonInput) :
    current format (inputs ++ [input]) = fun key =>
      (((machine format).run {} (inputs ++ [input])).registry.get key).or (current format inputs key) := by
  funext key
  unfold current
  rw [inits_append, filterMap_append, getLast?_append]
  congr 1
  have hlast : (([input] : List DaemonInput).inits.tail.map fun mid => inputs ++ mid) = [inputs ++ [input]] := rfl
  rw [hlast, filterMap_cons, filterMap_nil]
  cases ((machine format).run {} (inputs ++ [input])).registry.get key
  all_goals rfl

/-- The calls after a step are the calls before it and a new one. -/
theorem step_callsNamed (hcalls : daemon.CallsNamed keys) (hnamed : Named keys [input]) :
    (daemon.step format input).1.CallsNamed keys := by
  cases input with
  | scope worktree complaint => exact hcalls
  | mergeEarly index locked | receipt index key =>
    unfold step
    dsimp only
    split
    all_goals exact hcalls
  | call index command =>
    intro call hcall
    rcases mem_append.mp hcall with hcall | hcall
    · exact hcalls call hcall
    · obtain rfl := mem_singleton.mp hcall
      exact hnamed index command mem_cons_self
  | resume index meets =>
    unfold step
    dsimp only
    split
    · exact hcalls
    · next owner command stage hget =>
      split
      · exact hcalls
      · intro call hcall
        rcases mem_or_eq_of_mem_set hcall with hcall | rfl
        · exact hcalls call hcall
        · have hkey := hcalls _ (mem_of_getElem? hget)
          exact hkey
  | restart =>
    intro call hcall
    cases hcall

/-- A run in which calls are undisturbed keeps a daemon in agreement. -/
theorem run_agrees (hfew : keys.length ≤ MAX_COMMAND_RECEIPTS) {inputs : List DaemonInput}
    (hnamed : Named keys inputs) (hpersists : ∀ input ∈ inputs, Persists input)
    (halone : (machine format).Along Undisturbed {} inputs) :
    ((machine format).run {} inputs).Agrees format keys (current format inputs) ∧
      ((machine format).run {} inputs).CallsNamed keys := by
  induction inputs using reverseRecOn with
  | nil =>
    refine ⟨⟨.nil keys _, fun worktree => .nil keys _, fun worktree => rfl, fun plane hplane => ?_⟩,
      fun call hcall => ?_⟩
    · cases hplane
    · cases hcall
  | append_singleton inputs input ih =>
    rw [along_concat] at halone
    obtain ⟨hagrees, hcalls⟩ := ih (fun index command hcommand => hnamed index command (mem_append_left _ hcommand))
      (fun input hinput => hpersists input (mem_append_left _ hinput)) halone.1
    have hinput : input ∈ inputs ++ [input] := mem_append_right _ mem_cons_self
    rw [current_concat, run_concat]
    refine ⟨step_agrees hagrees hfew hcalls (hpersists input hinput) halone.2,
      step_callsNamed hcalls fun index command hcommand => hnamed index command (mem_append_right _ hcommand)⟩

/-- Where everything agrees, every journal is merged or can be. -/
theorem Agrees.merges (h : daemon.Agrees format keys seen) (hfew : keys.length ≤ MAX_COMMAND_RECEIPTS)
    (hplane : plane ∈ daemon.planes) : daemon.Merges seen plane := by
  have hready := h.plane plane hplane
  obtain ⟨hjoined, hloads⟩ := hready.ensureLoaded h.registry hfew
  exact ⟨hready.error, hloads, hjoined.live, fun key receipt _ => hjoined.current.seen key receipt⟩

end Daemon

/-! ## Agreement -/

/-- The journals of the worktrees never contradict each other in a run in which every call that is about
to change a receipt is alone with it: no journal of another worktree holds a copy. -/
theorem journals_agree (format : ReceiptFormat) (keys : List String)
    (hfew : keys.length ≤ MAX_COMMAND_RECEIPTS) {inputs : List DaemonInput}
    (hnamed : Daemon.Named keys inputs) (hpersists : ∀ input ∈ inputs, Daemon.Persists input)
    (halone : (Daemon.machine format).Along Daemon.Undisturbed {} inputs) :
    Daemon.JournalsAgree format inputs := by
  rintro pre post rfl plane hplane
  rw [along_append] at halone
  have hagrees := (Daemon.run_agrees hfew
    (fun index command hcommand => hnamed index command (mem_append_left _ hcommand))
    (fun input hinput => hpersists input (mem_append_left _ hinput)) halone.1).1
  exact hagrees.merges hfew hplane

/-! ## Checking a run -/

/-- No copy is kept of what a call is about to change. -/
def Daemon.undisturbed (daemon : Daemon) : DaemonInput → Bool
  | .resume index _ => match daemon.calls[index]? with
    | none => true
    | some (owner, command, stage) => match daemon.planes[owner]? with
      | none => true
      | some plane => !daemon.changes command stage ||
          (daemon.files.all fun entry =>
              decide (entry.1 = plane.worktree) || (entry.2.get command.key).isNone) &&
            daemon.planes.all fun other => match other.journal.pending with
              | some (.ok receipts) => (receipts.get command.key).isNone
              | _ => true
  | _ => true

theorem Daemon.undisturbed_of_check {daemon : Daemon} {input : DaemonInput}
    (h : daemon.undisturbed input = true) : daemon.Undisturbed input := by
  cases input with
  | resume index meets =>
    intro owner command stage plane hcall hplane hchanges
    unfold undisturbed at h
    dsimp only at h
    rw [hcall] at h
    dsimp only at h
    rw [hplane] at h
    dsimp only at h
    rw [hchanges, Bool.not_true, Bool.false_or, Bool.and_eq_true, List.all_eq_true, List.all_eq_true] at h
    obtain ⟨hfiles, hplanes⟩ := h
    refine ⟨fun worktree hother => ?_, fun other hmem receipts hreceipts => ?_⟩
    · unfold file
      cases hfile : daemon.files.get worktree with
      | none => rfl
      | some receipts =>
        have hentry := hfiles _ (mem_of_get hfile)
        rw [Bool.or_eq_true, decide_eq_true_eq] at hentry
        exact isNone_iff_eq_none.mp (hentry.resolve_left hother)
    · have hnone := hplanes other hmem
      rw [hreceipts] at hnone
      exact isNone_iff_eq_none.mp hnone
  | _ => exact trivial

namespace Sample

/-- A call is resumed as often as it takes, up to a given number of times. -/
def resumed (index times : ℕ) : List DaemonInput := List.replicate times (.resume index (meeting accepted))

/-- A prompt for the session of another worktree. -/
def otherPrompt : Command := ⟨⟨"t", none, "key-0002", 10000⟩, .prompt, "gjc-cmd-9", "2026-08-23T12:00:00Z"⟩

/-- A command of one worktree is in flight while another worktree writes its journal; the other journal
is then read again. -/
def overlapping : List DaemonInput :=
  [.scope "/a" none, .mergeEarly 0 false, .scope "/b" none, .mergeEarly 1 false,
    .call 0 (prompt "gjc-cmd-1"), .call 1 otherPrompt] ++ resumed 0 4 ++ resumed 1 4 ++ resumed 0 3 ++
      [.scope "/b" none]

/-- The same commands one after the other. -/
def inTurn : List DaemonInput :=
  [.scope "/a" none, .mergeEarly 0 false, .call 0 (prompt "gjc-cmd-1")] ++ resumed 0 7 ++
    [.scope "/b" none, .mergeEarly 1 false]

variable {inputs : List DaemonInput}

theorem named_of_commands (h : (inputs.all fun input => match input with
      | .call _ command => decide (command.key ∈ ["key-0001", "key-0002"])
      | _ => true) = true) : Daemon.Named ["key-0001", "key-0002"] inputs := by
  intro index command hcommand
  exact of_decide_eq_true (all_eq_true.mp h _ hcommand)

theorem persists_of_disks (h : (inputs.all fun input => match input with
      | .scope _ complaint => complaint.isNone
      | .resume _ meets => !meets.disk.fails .syncDirectory
      | _ => true) = true) : ∀ input ∈ inputs, Daemon.Persists input := by
  intro input hinput
  have hworks := all_eq_true.mp h input hinput
  cases input with
  | scope worktree complaint => exact isNone_iff_eq_none.mp hworks
  | resume index meets => exact (Bool.not_eq_true' _).mp hworks
  | _ => trivial

/-- A journal that was written while a command of another worktree was in flight cannot be merged when
it is read again. -/
theorem overlapping_journals_conflict :
    ¬ ∀ (keys : List String), keys.length ≤ MAX_COMMAND_RECEIPTS → ∀ inputs : List DaemonInput,
      Daemon.Named keys inputs → (∀ input ∈ inputs, Daemon.Persists input) →
        Daemon.JournalsAgree receiptFormat inputs := by
  intro hclaim
  have hagree := hclaim ["key-0001", "key-0002"] (by decide) overlapping
    (named_of_commands (by decide)) (persists_of_disks (by decide)) overlapping []
    (append_nil _).symm
  have hconflict : (((Daemon.machine receiptFormat).run {} overlapping).planes.all fun plane =>
      ((plane.journal.ensureLoaded
        ((Daemon.machine receiptFormat).run {} overlapping).registry).2).isOk) = false := by
    decide +kernel
  refine absurd (List.all_eq_true.mpr fun plane hplane => ?_) (Bool.eq_false_iff.mp hconflict)
  rw [(hagree plane hplane).loads]
  rfl

theorem commands_in_turn_agree : Daemon.JournalsAgree receiptFormat inTurn :=
  journals_agree receiptFormat ["key-0001", "key-0002"] (by decide) (named_of_commands (by decide))
    (persists_of_disks (by decide))
    (along_of_check _ (fun _ _ => Daemon.undisturbed_of_check) (by decide +kernel))

end Sample

end Gjc

end Clawhip
