import Clawhip.Gjc.LaneStore
import Clawhip.Lib.Refusal

/-!
# Failures of the lane store

Which failures of a store's operations its readers can see. The store is run as a machine whose inputs
are calls, each with what it meets outside the store. An operation replaces the state before it
persists it and does not put the old state back, so a failure is seen exactly if the operation got as
far as persisting a change.
-/

namespace Clawhip.Gjc

/-! ## Calls -/

/-- A call of an operation that changes the store. -/
inductive Call where
  | registerLane (request : RegistrationRequest) (now : String)
  | mutate (lane_id : String) (expected_revision : ℕ) (now : String) (apply : Closure Unit)
  | acknowledgePendingAlert (lane_id : String) (expected_revision : ℕ) (event_id now : String)
  | updatePendingAlertDelivery (lane_id event_id destination : String) (next_state : DeliveryState)
  | noteRestart
  | noteRevisionConflict (lane_id : String) (expected_revision : ℕ) (now : String)

section

variable (gjc_lane_id : String → String)

/-- Make a call; the answer is the record that the operation returns, if it returns one. -/
def LaneStore.perform (store : LaneStore) (around : Surroundings) :
    Call → LaneStore × Except LaneError (Option LaneRecord)
  | .registerLane request now =>
    let answer := store.registerLane around gjc_lane_id request now
    (answer.1, answer.2.map some)
  | .mutate lane_id expected_revision now apply =>
    let answer := store.mutate around lane_id expected_revision now apply
    (answer.1, answer.2.map fun result => some result.1)
  | .acknowledgePendingAlert lane_id expected_revision event_id now =>
    let answer := store.acknowledgePendingAlert around lane_id expected_revision event_id now
    (answer.1, answer.2.map some)
  | .updatePendingAlertDelivery lane_id event_id destination next_state =>
    let answer := store.updatePendingAlertDelivery around lane_id event_id destination next_state
    (answer.1, answer.2.map fun _ => none)
  | .noteRestart =>
    let answer := store.noteRestart around
    (answer.1, answer.2.map fun _ => none)
  | .noteRevisionConflict lane_id expected_revision now =>
    (store.noteRevisionConflict around lane_id expected_revision now, .ok none)

/-- What a call wants of the store, once it has made its checks. -/
def Call.wants (store : LaneStore) (around : Surroundings) :
    Call → Except LaneError (Change (Option LaneRecord))
  | .registerLane request now =>
    (registerChange gjc_lane_id store.status store.state around request now).map (Change.map some)
  | .mutate lane_id expected_revision now apply =>
    (mutateChange store.state lane_id expected_revision now apply).map
      (Change.map fun result => some result.1)
  | .acknowledgePendingAlert lane_id expected_revision event_id now =>
    (acknowledgeChange store.state lane_id expected_revision event_id now).map (Change.map some)
  | .updatePendingAlertDelivery lane_id event_id destination next_state =>
    (deliveryChange store.state around lane_id event_id destination next_state).map
      (Change.map fun _ => none)
  | .noteRestart => .ok ((noteRestartChange store.state around).map fun _ => none)
  | .noteRevisionConflict lane_id expected_revision now =>
    .ok ((noteConflictChange store.state lane_id expected_revision now).map fun _ => none)

/-- The store as a machine that is given calls. -/
def laneMachine :
    Machine LaneStore (Call × Surroundings) (Except LaneError (Option LaneRecord)) where
  step store input := store.perform gjc_lane_id input.2 input.1

end

/-- A call says whether it was persisted. -/
def Call.reports : Call → Bool
  | noteRevisionConflict .. => false
  | _ => true

/-- A call returned an error. -/
def refused : Except LaneError (Option LaneRecord) → Bool
  | .error _ => true
  | .ok _ => false

/-! ## What readers see -/

/-- What the readers of a store see of it. -/
structure Memory where
  lanes : OrdMap String LaneRecord
  lane_id_aliases : OrdMap String String
  audit : List AuditEntry
  audit_entries_dropped : ℕ

/-- What the readers of a state see. -/
def StateFile.memory (state : StateFile) : Memory :=
  ⟨state.lanes, state.lane_id_aliases, state.audit, state.audit_entries_dropped⟩

/-- What the readers of a store see. -/
def LaneStore.memory (store : LaneStore) : Memory := store.state.memory

/-- An answer rejects the revision that the caller read. -/
def IsConflict {α : Type} (answer : Except LaneError α) : Prop :=
  ∃ expected current, answer = .error (.revisionConflict expected current)

section

variable (gjc_lane_id : String → String)

/-- A call gets as far as persisting something that readers see, and persisting fails. -/
def WriteFails (store : LaneStore) (input : Call × Surroundings) : Prop :=
  input.1.reports = true ∧ (∃ step ∈ store.paths.steps, input.2.fails step = true) ∧
    ∃ state answer, input.1.wants gjc_lane_id store input.2 = .ok (.write state answer) ∧ state.memory ≠ store.memory

/-- The failures of a run are not seen: a call that returns an error leaves everything as it was, what
is seen is at all times what the last successful call left behind, and a revision that was read before
a failure is still good after it. -/
structure FailuresUnseen (store : LaneStore) (inputs : List (Call × Surroundings)) : Prop where
  kept : ∀ pre input post, inputs = pre ++ input :: post → let before := (laneMachine gjc_lane_id).run store pre
    let after := (laneMachine gjc_lane_id).step before input
    refused after.2 = true → after.1.memory = before.memory
  seen : ∀ pre, pre <+: inputs → ((laneMachine gjc_lane_id).run store pre).memory =
    (laneMachine gjc_lane_id).settled refused LaneStore.memory store pre
  retried : ∀ pre input post, inputs = pre ++ input :: post →
    let before := (laneMachine gjc_lane_id).run store pre
    let after := (laneMachine gjc_lane_id).step before input
    refused after.2 = true → ∀ lane_id record, before.state.record lane_id = some record →
      ∀ (around : Surroundings) (now : String), (∀ {β : Type} (apply : Closure β),
          ¬ IsConflict (after.1.mutate around lane_id record.revision now apply).2) ∧
        ∀ event_id, ¬ IsConflict (after.1.acknowledgePendingAlert around lane_id record.revision event_id now).2

end

/-! ## One call -/

namespace LaneStore

variable {α β : Type} (store : LaneStore) (around : Surroundings)

/-- Persisting changes nothing that readers see. -/
theorem persist_memory : (store.persist around).1.memory = store.memory := by
  unfold persist
  split
  all_goals rfl

/-- Persisting fails if one of its steps does. -/
theorem persist_ok_iff : (store.persist around).2 = .ok () ↔ ∀ step ∈ store.paths.steps, around.fails step = false := by
  unfold persist
  split
  · next hnone =>
    simp only [true_iff]
    intro step hstep
    exact Bool.eq_false_iff.mpr (List.find?_eq_none.mp hnone step hstep)
  all_goals
    next hsome =>
      constructor
      · intro h
        cases h
      · intro hall
        have hfails := hall _ (List.mem_of_find?_eq_some hsome)
        rw [List.find?_some hsome] at hfails
        cases hfails

/-- Another answer of the same change comes with the same store. -/
theorem commit_map (f : α → β)
    (change : Except LaneError (Change α)) : store.commit around (change.map (Change.map f)) =
      ((store.commit around change).1, (store.commit around change).2.map f) := by
  rcases change with error | answer | ⟨state, answer⟩
  · rfl
  · rfl
  · show ((persist _ around).1, (persist _ around).2.map fun _ => f answer) =
      ((persist _ around).1, ((persist _ around).2.map fun _ => answer).map f)
    cases (persist { store with state := state } around).2
    all_goals rfl

variable (gjc_lane_id : String → String) (store : LaneStore)

/-- A call does what it wants; only a note of a conflict does not say how it went. -/
theorem perform_eq (around : Surroundings) (call : Call) :
    store.perform gjc_lane_id around call = ((store.commit around (call.wants gjc_lane_id store around)).1,
        if call.reports then (store.commit around (call.wants gjc_lane_id store around)).2 else .ok none) := by
  cases call with
  | registerLane request now => exact (commit_map store around some _).symm
  | mutate lane_id expected_revision now apply => exact (commit_map store around _ _).symm
  | acknowledgePendingAlert lane_id expected_revision event_id now => exact (commit_map store around some _).symm
  | updatePendingAlertDelivery lane_id event_id destination next_state => exact (commit_map store around _ _).symm
  | noteRestart => exact (commit_map store around (fun _ => none) (.ok _)).symm
  | noteRevisionConflict lane_id expected_revision now => rfl

/-- A call that returns an error changes what readers see exactly if persisting its change failed. -/
theorem unseen_iff (input : Call × Surroundings) :
    (laneMachine gjc_lane_id).Unseen refused memory store input ↔ ¬ WriteFails gjc_lane_id store input := by
  obtain ⟨call, around⟩ := input
  show (refused (store.perform gjc_lane_id around call).2 = true →
    (store.perform gjc_lane_id around call).1.memory = store.memory) ↔ _
  rw [perform_eq]
  unfold WriteFails
  by_cases hreports : call.reports = true
  swap
  · -- What is not reported is no refusal.
    simp [hreports, refused]
  rw [if_pos hreports]
  cases hwants : call.wants gjc_lane_id store around with
  | error error => simp [commit]
  | ok change =>
    cases change with
    | keep answer => simp [commit]
    | write state answer =>
      have hmemory : (store.commit around (.ok (.write state answer))).1.memory = state.memory :=
        persist_memory { store with state := state } around
      have hrefused : refused (store.commit around (.ok (.write state answer))).2 = true ↔
          ∃ step ∈ store.paths.steps, around.fails step = true := by
        have hok := persist_ok_iff { store with state := state } around
        show refused ((persist { store with state := state } around).2.map fun _ => answer) = true ↔ _
        cases hpersisted : (persist { store with state := state } around).2 with
        | ok _ =>
          rw [hpersisted] at hok
          have hall := hok.mp rfl
          simp only [Except.map, refused, Bool.false_eq_true, false_iff]
          rintro ⟨step, hstep, hfails⟩
          rw [hall step hstep] at hfails
          cases hfails
        | error error =>
          rw [hpersisted] at hok
          have hnot : ¬ ∀ step ∈ store.paths.steps, around.fails step = false := fun hall => by cases hok.mpr hall
          simp only [Except.map, refused, true_iff]
          push Not at hnot
          obtain ⟨step, hstep, hfails⟩ := hnot
          exact ⟨step, hstep, by simpa using hfails⟩
      rw [hmemory, hrefused]
      constructor
      · rintro h ⟨-, hfails, state', answer', hwrite, hchanged⟩
        cases hwrite
        exact hchanged (h hfails)
      · intro h hfails
        by_contra hchanged
        exact h ⟨hreports, hfails, state, answer, rfl, hchanged⟩

end LaneStore

/-! ## Retries -/

variable {lane_id : String} {record : LaneRecord} {store : LaneStore}

theorem recordAt_of_record {state : StateFile} (h : state.record lane_id = some record) :
    state.recordAt lane_id record.revision = .ok record := by
  unfold StateFile.recordAt
  unfold StateFile.record at h
  rw [h]
  simp

/-- An operation that persists gives no other error than its own and those of persisting. -/
theorem not_isConflict_commit {α : Type} {around : Surroundings} {change : Except LaneError (Change α)}
    (h : ¬ IsConflict change) : ¬ IsConflict (store.commit around change).2 := by
  rintro ⟨expected, current, hanswer⟩
  rcases change with error | answer | ⟨state, answer⟩
  · exact h ⟨expected, current, by rw [← Except.error.inj hanswer]⟩
  · cases hanswer
  · have hpersist : ((LaneStore.persist { store with state := state } around).2.map
        fun _ => answer) = .error (.revisionConflict expected current) := hanswer
    unfold LaneStore.persist at hpersist
    split at hpersist
    all_goals cases hpersist

/-- A record that is the current one of its lane is not rejected by a mutation. -/
theorem not_isConflict_mutate (h : store.state.record lane_id = some record) (around : Surroundings)
    (now : String) {β : Type} (apply : Closure β) :
    ¬ IsConflict (store.mutate around lane_id record.revision now apply).2 := by
  refine not_isConflict_commit ?_
  rintro ⟨expected, current, hchange⟩
  unfold mutateChange at hchange
  rw [recordAt_of_record h] at hchange
  dsimp only [bind, Except.bind] at hchange
  cases happly : apply record with
  | error reason =>
    rw [happly] at hchange
    cases hchange
  | ok applied =>
    rw [happly] at hchange
    dsimp only [Except.mapError, LaneRecord.bumped] at hchange
    split_ifs at hchange
    all_goals cases hchange

/-- A record that is the current one of its lane is not rejected by an acknowledgement. -/
theorem not_isConflict_acknowledge (h : store.state.record lane_id = some record) (around : Surroundings)
    (event_id now : String) :
    ¬ IsConflict (store.acknowledgePendingAlert around lane_id record.revision event_id now).2 := by
  refine not_isConflict_commit ?_
  rintro ⟨expected, current, hchange⟩
  unfold acknowledgeChange at hchange
  rw [recordAt_of_record h] at hchange
  dsimp only [bind, Except.bind, LaneRecord.bumped] at hchange
  split_ifs at hchange
  all_goals cases hchange

/-! ## Runs -/

/-- Readers of a lane store never see a failed call, in a run from any state, exactly if no call of
the run fails to persist a change. -/
theorem failures_unseen_iff (gjc_lane_id : String → String) (store : LaneStore)
    (inputs : List (Call × Surroundings)) : FailuresUnseen gjc_lane_id store inputs ↔
      (laneMachine gjc_lane_id).Along (fun store input => ¬ WriteFails gjc_lane_id store input)
        store inputs := by
  rw [← Machine.along_congr _ (LaneStore.unseen_iff gjc_lane_id) store inputs]
  constructor
  · intro h
    exact (Machine.along_unseen_iff _ refused LaneStore.memory store inputs).mpr h.seen
  · intro h
    have hkept := (Machine.along_iff _ _ store inputs).mp h
    refine ⟨hkept, (Machine.along_unseen_iff _ _ _ store inputs).mp h, ?_⟩
    intro pre input post hsplit before after hrefused lane_id record hrecord around now
    -- The lanes and the aliases are those from before the failure.
    have hmemory : after.1.memory = before.memory := hkept pre input post hsplit hrefused
    have hsame : after.1.state.record lane_id = some record := by
      have hlanes : after.1.state.lanes = before.state.lanes := congrArg Memory.lanes hmemory
      have haliases : after.1.state.lane_id_aliases = before.state.lane_id_aliases :=
        congrArg Memory.lane_id_aliases hmemory
      rw [← hrecord]
      unfold StateFile.record StateFile.canonicalLaneId
      rw [hlanes, haliases]
    exact ⟨fun apply => not_isConflict_mutate hsame around now apply,
      fun event_id => not_isConflict_acknowledge hsame around event_id now⟩

namespace Sample

/-- The identifier of the lane of the session `s`. -/
def laneId (session_id : String) : String :=
  if session_id = "s" then "gjc-043a718774c572bd8a25adbeb1bfcd5c" else "gjc-" ++ session_id

/-- A store that found no file. -/
def emptyStore : LaneStore where
  paths := ⟨"/var/lib/clawhip/gjc-lanes.json", some "/var/lib/clawhip", "/var/lib/clawhip/gjc-lanes.json.tmp"⟩
  state := {}
  status := .missing
  file := none

/-- A call that meets no failure but that of the given steps. -/
def failingAt (steps : List PersistStep) : Surroundings where
  fails step := decide (step ∈ steps)
  gitBranch _ := none
  isCanonical _ := true
  clock := "2026-08-23T12:00:00Z"

/-- The session `s` is registered, and a mutation of its lane cannot be written. -/
def failedMutation : List (Call × Surroundings) :=
  [(.registerLane ⟨"s", none, none, none, none⟩ "2026-08-23T12:00:00Z", failingAt []),
    (.mutate (laneId "s") 1 "2026-08-23T12:00:01Z"
      (fun record => .ok (multiAudit { record with polling_suspended := true } [])), failingAt [.write])]

/-- The mutation returns an error and its change is seen all the same. -/
theorem failed_mutation_is_seen : ¬ FailuresUnseen laneId emptyStore failedMutation := by
  intro h
  have hkept := h.kept [failedMutation[0]] failedMutation[1] [] rfl rfl
  have hrevision := congrArg (fun memory => memory.lanes.values.map LaneRecord.revision) hkept
  revert hrevision
  decide

end Sample

end Clawhip.Gjc
