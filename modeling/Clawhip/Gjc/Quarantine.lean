import Clawhip.Gjc.LaneFailures
import Clawhip.Gjc.LaneFile

/-!
# Quarantine

What becomes of a file that `GjcLaneStore::open` rejected. The store that stands in for it has no lanes
and gets none, so every operation on a lane is refused; the notes of the audit trail are not, and they
write the file.
-/

namespace Clawhip.Gjc

open LaneStore

/-- A call that only adds to the audit trail. -/
def Call.isNote : Call → Bool
  | noteRestart => true
  | noteRevisionConflict .. => true
  | _ => false

/-- Persisting gets as far as the renaming: what comes before it works, and it works itself. -/
def Surroundings.renames (around : Surroundings) (paths : StatePath) : Bool :=
  paths.steps.all fun step => decide (step = .syncDir) || !around.fails step

/-- A store without lanes that stands in for a file that was rejected. -/
structure LaneStore.Quarantined (store : LaneStore) : Prop where
  status : ∃ error, store.status = .ignoredInvalid error
  lanes : store.state.lanes = []
  aliases : store.state.lane_id_aliases = []
  schema : store.state.schema = GJC_LANE_STATE_SCHEMA

/-! ## Opening -/

section

variable {α : Type} {codec : FileCodec α} {x : Libraries} {gjc_lane_id : String → String}
  {paths : StatePath} {around : Surroundings} {content : Option α}

/-- A store without lanes has nothing to migrate. -/
theorem openAt_empty {status : LaneStoreStatus} (h : loadState codec around content = ({}, status)) :
    openAt codec x gjc_lane_id paths around content = .ok ⟨paths, {}, status, none⟩ := by
  unfold openAt
  simp only [h]
  rfl

/-- A file is rejected, or it is a valid state that the store starts with. -/
theorem loadState_cases (codec : FileCodec α) (around : Surroundings) (content : α) :
    (∃ error, loadState codec around (some content) = ({}, .ignoredInvalid error)) ∨
      ∃ parsed, codec.read content = .ok parsed ∧
        loadState codec around (some content) = (parsed, .loaded parsed.lanes.length) := by
  cases hread : codec.read content with
  | error error =>
    refine .inl ⟨error, ?_⟩
    simp only [loadState, hread]
  | ok parsed =>
    by_cases hschema : parsed.schema = GJC_LANE_STATE_SCHEMA
    · cases hcomplaint : parsed.complaint codec.text around with
      | some complaint =>
        refine .inl ⟨complaint, ?_⟩
        simp only [loadState, hread, hschema, ne_eq, not_true_eq_false, if_false, hcomplaint]
      | none =>
        refine .inr ⟨parsed, rfl, ?_⟩
        simp only [loadState, hread, hschema, ne_eq, not_true_eq_false, if_false, hcomplaint]
    · refine .inl ⟨"unsupported lane-state schema " ++ codec.text (.string parsed.schema), ?_⟩
      simp only [loadState, hread, ne_eq, hschema, not_false_eq_true, if_true]

variable {store : LaneStore}

/-- A store says how its file was loaded. -/
theorem openAt_status (h : openAt codec x gjc_lane_id paths around content = .ok store) :
    store.status = (loadState codec around content).2 := by
  obtain ⟨⟨state, lane_ids_migrated⟩, -, h⟩ := bind_eq_ok.mp h
  dsimp only at h
  split_ifs at h
  · cases hpersisted : (persist _ around).2 with
    | error error =>
      rw [hpersisted] at h
      cases h
    | ok _ =>
      rw [hpersisted] at h
      cases h
      exact persist_status _ around
  · cases h
    rfl

/-- The store that stands in for a rejected file. -/
theorem openAt_rejected {content : α} {error : String}
    (h : openAt codec x gjc_lane_id paths around (some content) = .ok store)
    (hrejected : store.status = .ignoredInvalid error) : store = ⟨paths, {}, .ignoredInvalid error, none⟩ := by
  have hstatus := (openAt_status h).symm.trans hrejected
  rcases loadState_cases codec around content with ⟨error', hload⟩ | ⟨parsed, -, hload⟩
  · rw [openAt_empty hload] at h
    rw [hload] at hstatus
    cases hstatus
    exact (Except.ok.inj h).symm
  · rw [hload] at hstatus
    cases hstatus

/-- A state without lanes is loaded from the file that it was written to. -/
theorem status_of_write {state : StateFile} (hround : codec.read (codec.write state) = .ok state)
    (hschema : state.schema = GJC_LANE_STATE_SCHEMA) (hlanes : state.lanes = []) :
    (loadState codec around (some (codec.write state))).2 = .loaded 0 := by
  have hcomplaint : state.complaint codec.text around = none := by
    unfold StateFile.complaint
    rw [hlanes]
    rfl
  simp only [loadState, hround, hschema, ne_eq, not_true_eq_false, if_false, hcomplaint, hlanes, List.length_nil]

end

/-! ## Calls -/

section

variable (gjc_lane_id : String → String) {store : LaneStore} {call : Call}

/-- A quarantined store refuses every call but the notes. -/
theorem LaneStore.Quarantined.wants_error (h : store.Quarantined) (around : Surroundings)
    (hcall : call.isNote = false) : ∃ error, call.wants gjc_lane_id store around = .error error := by
  obtain ⟨error, hstatus⟩ := h.status
  have hnone (lane_id : String) : store.state.lanes.get (store.state.canonicalLaneId lane_id) = none := by
    rw [h.lanes]
    rfl
  cases call with
  | registerLane request now =>
    refine ⟨.quarantined, ?_⟩
    simp only [Call.wants, registerChange, hstatus]
    rfl
  | mutate lane_id expected_revision now apply =>
    refine ⟨.laneNotFound lane_id, ?_⟩
    simp only [Call.wants, mutateChange, StateFile.recordAt, hnone]
    rfl
  | acknowledgePendingAlert lane_id expected_revision event_id now =>
    refine ⟨.laneNotFound lane_id, ?_⟩
    simp only [Call.wants, acknowledgeChange, StateFile.recordAt, hnone]
    rfl
  | updatePendingAlertDelivery lane_id event_id destination next_state =>
    by_cases hdestination : invalidDestination destination = true
    · refine ⟨.invalidDestination, ?_⟩
      simp only [Call.wants, deliveryChange, hdestination, if_true]
      rfl
    · refine ⟨.laneNotFound lane_id, ?_⟩
      simp only [Call.wants, deliveryChange, hdestination, hnone]
      rfl
  | noteRestart | noteRevisionConflict lane_id expected_revision now => cases hcall

/-- A note wants the same state with one more entry in the audit trail. -/
theorem Call.wants_note (store : LaneStore) (around : Surroundings) (hcall : call.isNote = true) :
    ∃ entry answer, call.wants gjc_lane_id store around = .ok (.write (store.state.pushAudit entry) answer) := by
  cases call with
  | noteRestart | noteRevisionConflict lane_id expected_revision now => exact ⟨_, _, rfl⟩
  | _ => cases hcall

/-- The first failing step comes after the renaming exactly if persisting gets that far. -/
theorem renames_iff (around : Surroundings) (paths : StatePath) :
    around.renames paths = true ↔ ∀ step, paths.steps.find? around.fails = some step → step = .syncDir := by
  unfold Surroundings.renames StatePath.steps
  cases hparent : paths.parent.isSome
  all_goals
    cases hserialize : around.fails .serialize
    all_goals cases hwrite : around.fails .write
    all_goals cases hsync : around.fails .sync
    all_goals cases hrename : around.fails .rename
    all_goals cases hcreate : around.fails .createDir
    all_goals cases hdir : around.fails .syncDir
  all_goals simp [List.find?, hserialize, hwrite, hsync, hrename, hcreate, hdir]

/-- Persisting replaces the file exactly if it gets as far as the renaming. -/
theorem persist_file (store : LaneStore) (around : Surroundings) : (store.persist around).1.file =
      if around.renames store.paths then some (store.persist around).1.state else store.file := by
  have hiff := renames_iff around store.paths
  unfold persist
  cases hfind : store.paths.steps.find? around.fails with
  | none =>
    rw [hfind] at hiff
    rw [if_pos (hiff.mpr fun step h => nomatch h)]
  | some step =>
    rw [hfind] at hiff
    by_cases hdir : step = .syncDir
    · rw [if_pos (hiff.mpr fun step' h => (Option.some.inj h).symm.trans hdir), hdir]
    · rw [if_neg fun h => hdir (hiff.mp h step rfl)]
      cases step
      all_goals first | rfl | exact absurd rfl hdir

/-- What a call on a quarantined store does to the file. -/
theorem LaneStore.Quarantined.perform (h : store.Quarantined) (around : Surroundings) (call : Call) :
    (store.perform gjc_lane_id around call).1.Quarantined ∧
      (store.perform gjc_lane_id around call).1.paths = store.paths ∧
      (store.perform gjc_lane_id around call).1.file = if call.isNote && around.renames store.paths then
          some (store.perform gjc_lane_id around call).1.state else store.file := by
  rw [perform_eq]
  cases hcall : call.isNote with
  | false =>
    obtain ⟨error, hwants⟩ := h.wants_error gjc_lane_id around hcall
    rw [hwants]
    exact ⟨h, rfl, rfl⟩
  | true =>
    obtain ⟨entry, answer, hwants⟩ := Call.wants_note gjc_lane_id store around hcall
    rw [hwants, Bool.true_and]
    set noted : LaneStore := { store with state := store.state.pushAudit entry } with hnoted
    obtain ⟨hpaths, hlanes, haliases, hschema⟩ := persist_kept noted around
    obtain ⟨error, hstatus⟩ := h.status
    refine ⟨⟨⟨error, (persist_status noted around).trans hstatus⟩, ?_, ?_, ?_⟩, hpaths, ?_⟩
    · exact hlanes.trans h.lanes
    · exact haliases.trans h.aliases
    · exact hschema.trans h.schema
    · exact persist_file noted around

end

/-! ## Runs -/

/-- Every note of the calls ends before the renaming. -/
def NotesFail (paths : StatePath) (inputs : List (Call × Surroundings)) : Prop :=
  ∀ input ∈ inputs, input.1.isNote = true → input.2.renames paths = false

section

variable {α : Type} {codec : FileCodec α} (gjc_lane_id : String → String) {store : LaneStore}

/-- A quarantined store stays quarantined. -/
theorem run_quarantined (h : store.Quarantined) (inputs : List (Call × Surroundings)) :
    ((laneMachine gjc_lane_id).run store inputs).Quarantined ∧
      ((laneMachine gjc_lane_id).run store inputs).paths = store.paths := by
  refine (laneMachine gjc_lane_id).run_invariant'
    (fun store' => store'.Quarantined ∧ store'.paths = store.paths) ?_ ⟨h, rfl⟩ inputs
  intro store' input ⟨hquarantined, hpaths⟩
  obtain ⟨hquarantined', hpaths', -⟩ := hquarantined.perform gjc_lane_id input.2 input.1
  exact ⟨hquarantined', hpaths'.trans hpaths⟩

/-- Where every note fails before the renaming, the file is not written. -/
theorem run_file_of_notesFail (h : store.Quarantined) (hfile : store.file = none)
    {inputs : List (Call × Surroundings)} (hfail : NotesFail store.paths inputs) :
    ((laneMachine gjc_lane_id).run store inputs).file = none := by
  induction inputs using List.reverseRecOn with
  | nil => exact hfile
  | append_singleton inputs input ih =>
    have hbefore := ih fun input hinput => hfail input (List.mem_append_left _ hinput)
    obtain ⟨hquarantined, hpaths⟩ := run_quarantined gjc_lane_id h inputs
    obtain ⟨-, -, hwritten⟩ := hquarantined.perform gjc_lane_id input.2 input.1
    rw [Machine.run_concat]
    refine hwritten.trans ?_
    rw [hpaths]
    cases hnote : input.1.isNote with
    | false => exact hbefore
    | true =>
      rw [hfail input (by simp) hnote]
      exact hbefore

/-- A file that was rejected keeps its contents, through any calls, exactly if every note among them
fails before the renaming. -/
theorem rejected_file_kept_iff (x : Libraries) (paths : StatePath) (around : Surroundings)
    (hround : ∀ state, codec.read (codec.write state) = .ok state) {content : α} {store : LaneStore}
    {error : String} (hopen : openAt codec x gjc_lane_id paths around (some content) = .ok store)
    (hrejected : store.status = .ignoredInvalid error) (inputs : List (Call × Surroundings)) :
    (∀ pre, pre <+: inputs → ((laneMachine gjc_lane_id).run store pre).onDisk codec content = content) ↔
      NotesFail paths inputs := by
  have hstatus := (openAt_status hopen).symm.trans hrejected
  obtain rfl := openAt_rejected hopen hrejected
  set store : LaneStore := ⟨paths, {}, .ignoredInvalid error, none⟩ with hstore
  have hquarantined : store.Quarantined := ⟨⟨error, rfl⟩, rfl, rfl, rfl⟩
  constructor
  · intro hkept input hinput hnote
    -- The first write would put a file there that opens.
    by_contra hrenames
    obtain ⟨pre, post, rfl⟩ := List.append_of_mem hinput
    obtain ⟨hbefore, hpaths⟩ := run_quarantined gjc_lane_id hquarantined pre
    obtain ⟨hafter, -, hwritten⟩ := hbefore.perform gjc_lane_id input.2 input.1
    have hdisk := hkept (pre ++ [input]) ⟨post, by simp⟩
    rw [Machine.run_concat] at hdisk
    rw [hnote, hpaths, Bool.true_and, if_pos (by simpa using hrenames)] at hwritten
    unfold onDisk at hdisk
    have hcontent : codec.write _ = content :=
      (congrArg (fun file : Option StateFile => (file.map codec.write).getD content) hwritten).symm.trans hdisk
    have hloaded : (loadState codec around (some (codec.write _))).2 = .loaded 0 :=
      status_of_write (hround _) hafter.schema hafter.lanes
    rw [hcontent, hstatus] at hloaded
    cases hloaded
  · rintro hfail pre ⟨post, rfl⟩
    have hfile := run_file_of_notesFail gjc_lane_id hquarantined rfl
      fun input hinput => hfail input (List.mem_append_left _ hinput)
    unfold onDisk
    rw [hfile]
    rfl

end

namespace Sample

/-- A codec in which a state is its own file, next to files that cannot be read. -/
def stateCodec : FileCodec (Option StateFile) where
  read content := match content with
    | some state => .ok state
    | none => .error "expected value at line 1 column 1"
  write := some
  text _ := ""

/-- A file that cannot be read stays as it is when the note of the restart cannot be written. -/
theorem failed_note_keeps_rejected_file : ((laneMachine laneId).run ⟨emptyStore.paths, {}, .ignoredInvalid
      "expected value at line 1 column 1", none⟩ [(.noteRestart, failingAt [.write])]).onDisk
        stateCodec none = none :=
  (rejected_file_kept_iff laneId libraries emptyStore.paths (failingAt []) (fun _ => rfl) rfl rfl
    [(.noteRestart, failingAt [.write])]).mpr (by simp [NotesFail]; decide) _ (List.prefix_refl _)

/-- The note of the restart, on the daemon's way up, overwrites the file that was rejected. -/
theorem restart_note_overwrites_rejected_file :
    ¬ ∀ (content : Option StateFile) (store : LaneStore) (error : String),
      openAt stateCodec libraries laneId emptyStore.paths (failingAt []) (some content) =
        .ok store → store.status = .ignoredInvalid error →
      ∀ inputs, ((laneMachine laneId).run store inputs).onDisk stateCodec content = content := by
  intro h
  have hkept := h none _ _ rfl rfl [(.noteRestart, failingAt [])]
  cases hkept

end Sample

end Clawhip.Gjc
