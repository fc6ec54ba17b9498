import Clawhip.Gjc.Episodes
import Clawhip.Gjc.Reconciler

/-!
# One lane

The operations of the lane store as they meet the record of one lane: an operation is refused and
changes nothing, or it replaces the record. Persisting works here.
-/

namespace Clawhip.Gjc

open StateFile

/-! ## One lane among others -/

/-- The store has some other lanes, and one lane with this record. -/
structure LaneStore.Watches (store : LaneStore) (others : OrdMap String LaneRecord)
    (lane_id : String) (record : LaneRecord) : Prop where
  lanes : store.state.lanes = others.insert lane_id record
  own : record.lane_id = lane_id
  canonical : store.state.canonicalLaneId lane_id = lane_id
  session : validId record.sdk_session_id = true
  bounded : record.endpoint_episode ≤ U64_MAX

/-- Every step of `persist_locked` works. -/
def Surroundings.Works (around : Surroundings) : Prop := ∀ step, around.fails step = false

/-- The record with the next revision. -/
def LaneRecord.next (record : LaneRecord) (now : String) : LaneRecord :=
  { record with revision := record.revision + 1, updated_at := now }

theorem LaneRecord.keepsEpisode_next (record : LaneRecord) (now : String) : record.KeepsEpisode (record.next now) :=
  .of_eq rfl rfl rfl rfl rfl

theorem LaneRecord.bumped_eq (record : LaneRecord) (now : String) : record.bumped now =
      if record.revision < U64_MAX then .ok (record.next now) else .error .revisionOverflow := rfl

namespace LaneStore

variable {store : LaneStore} {around : Surroundings} {others : OrdMap String LaneRecord}
  {lane_id now : String} {record : LaneRecord}

/-- What is persisted is the state that was asked for. -/
theorem commit_write {α : Type} (hworks : around.Works) (store : LaneStore) (state : StateFile) (answer : α) :
    ∃ store' : LaneStore, store.commit around (.ok (.write state answer)) = (store', .ok answer) ∧
      store'.state.lanes = state.lanes ∧ store'.state.lane_id_aliases = state.lane_id_aliases := by
  have hnone : store.paths.steps.find? around.fails = none := by
    rw [List.find?_eq_none]
    intro step _
    rw [hworks step]
    exact Bool.false_ne_true
  unfold commit persist
  dsimp only
  rw [hnone]
  exact ⟨_, rfl, rfl, rfl⟩

section

variable (h : store.Watches others lane_id record)
include h

theorem Watches.get : store.state.lanes.get (store.state.canonicalLaneId lane_id) = some record := by
  rw [h.canonical, h.lanes, OrdMap.get_insert_self]

/-- A store whose lane has another record now. -/
theorem Watches.write {store' : LaneStore} {state : StateFile}
    {record' : LaneRecord} (hlanes : state.lanes = store.state.lanes)
    (haliases : state.lane_id_aliases = store.state.lane_id_aliases)
    (hlanes' : store'.state.lanes = (state.withRecord lane_id record').lanes)
    (haliases' : store'.state.lane_id_aliases = state.lane_id_aliases)
    (hown : record'.lane_id = record.lane_id) (hsession : record'.sdk_session_id = record.sdk_session_id)
    (hbounded : record'.endpoint_episode ≤ U64_MAX) : store'.Watches others lane_id record' := by
  refine ⟨?_, hown.trans h.own, ?_, ?_, hbounded⟩
  · rw [hlanes']
    unfold withRecord
    rw [hlanes, h.lanes, OrdMap.insert_insert]
  · unfold canonicalLaneId
    rw [haliases', haliases]
    exact h.canonical
  · rw [hsession]
    exact h.session

section

variable (hworks : around.Works)
include hworks

/-- A mutation is refused and changes nothing, or replaces the lane's record. It is not refused where
the record is the one that the caller read and the closure accepts it. -/
theorem Watches.mutate_cases {β : Type}
    (expected_revision : ℕ) (now : String) {apply : Closure β} (hstays : apply.Stays) :
    (∃ error, store.mutate around lane_id expected_revision now apply = (store, .error error) ∧
      ¬ (record.revision = expected_revision ∧ record.revision < U64_MAX ∧ ∃ applied, apply record = .ok applied)) ∨
    ∃ store' record' audit answer, apply record = .ok (record', audit, answer) ∧
      store.mutate around lane_id expected_revision now apply = (store', .ok (record'.next now, answer)) ∧
      store'.Watches others lane_id (record'.next now) := by
  unfold mutate mutateChange recordAt
  rw [h.get]
  dsimp only
  by_cases hrevision : record.revision = expected_revision
  · rw [if_pos hrevision]
    cases happly : apply record with
    | error reason =>
      refine .inl ⟨.rejected reason, ?_, ?_⟩
      · simp [happly, Except.mapError, commit, bind, Except.bind]
      · rintro ⟨-, -, applied, happlied⟩
        cases happlied
    | ok applied =>
      obtain ⟨record', audit, answer⟩ := applied
      have hsame := hstays happly
      by_cases hoverflow : record.revision < U64_MAX
      · obtain ⟨store', hcommit, hlanes, haliases⟩ := commit_write hworks store
          ((store.state.pushAll lane_id now audit).withRecord lane_id (record'.next now))
          (record'.next now, answer)
        obtain ⟨hpushed, hpushed'⟩ := pushAll_lanes store.state lane_id now audit
        refine .inr ⟨store', record', audit, answer, rfl, ?_, ?_⟩
        · rw [← hcommit]
          simp [happly, Except.mapError, LaneRecord.bumped_eq, hsame.revision, hoverflow, h.canonical,
            bind, Except.bind]
        · exact h.write hpushed hpushed' hlanes haliases hsame.lane_id hsame.session (hsame.bounded h.bounded)
      · refine .inl ⟨.revisionOverflow, ?_, fun hok => hoverflow hok.2.1⟩
        simp [happly, Except.mapError, LaneRecord.bumped_eq, hsame.revision, hoverflow, commit, bind, Except.bind]
  · rw [if_neg hrevision]
    exact .inl ⟨.revisionConflict expected_revision record.revision, rfl, fun hok => hrevision hok.1⟩

/-- An alert that is acknowledged leaves the lane's record, if that is the one that the caller read. -/
theorem Watches.acknowledge_cases (expected_revision : ℕ) (event_id now : String) :
    (∃ error, store.acknowledgePendingAlert around lane_id expected_revision event_id now = (store, .error error) ∧
      (record.revision ≠ expected_revision → error = .revisionConflict expected_revision record.revision)) ∨
    ∃ store' record', store.acknowledgePendingAlert around lane_id expected_revision event_id now =
        (store', .ok record') ∧ store'.Watches others lane_id record' ∧ record.KeepsEpisode record' := by
  unfold acknowledgePendingAlert acknowledgeChange recordAt
  rw [h.get]
  dsimp only
  by_cases hrevision : record.revision = expected_revision
  · rw [if_pos hrevision]
    simp only [bind, Except.bind]
    split_ifs with hlength
    · exact .inr ⟨store, record, rfl, h, .refl record⟩
    · set retained := { record with
        pending_alerts := record.pending_alerts.filter fun alert => decide (alert.event_id ≠ event_id) } with hretained
      rw [LaneRecord.bumped_eq]
      by_cases hoverflow : record.revision < U64_MAX
      · obtain ⟨store', hcommit, hlanes, haliases⟩ := commit_write hworks store
          (store.state.withRecord lane_id (retained.next now)) (retained.next now)
        rw [if_pos hoverflow, h.canonical]
        exact .inr ⟨store', retained.next now, hcommit,
          h.write rfl rfl hlanes haliases rfl rfl h.bounded, .of_eq rfl rfl rfl rfl rfl⟩
      · rw [if_neg hoverflow]
        exact .inl ⟨.revisionOverflow, rfl, fun hne => absurd hrevision hne⟩
  · rw [if_neg hrevision]
    exact .inl ⟨_, rfl, fun _ => rfl⟩

/-- What the dispatcher records keeps the episode, and counts the revision up if it changes anything. -/
theorem Watches.deliver (event_id destination : String) (next_state : DeliveryState) :
    ∃ record', (store.updatePendingAlertDelivery around lane_id event_id destination
        next_state).1.Watches others lane_id record' ∧
      record.KeepsEpisode record' ∧ (record' = record ∨ record.revision < record'.revision) := by
  unfold updatePendingAlertDelivery
  rcases deliveryChange_cases store.state around lane_id event_id destination next_state with
    ⟨error, hchange⟩ | hchange | ⟨found, updated, hfound, hupdated, hchange⟩
  · rw [hchange]
    exact ⟨record, h, .refl record, .inl rfl⟩
  · rw [hchange]
    exact ⟨record, h, .refl record, .inl rfl⟩
  · obtain rfl : record = found := Option.some.inj (h.get.symm.trans hfound)
    rw [LaneRecord.bumped_eq] at hupdated
    split_ifs at hupdated
    cases hupdated
    rw [hchange, h.canonical]
    set delivered := record.delivered event_id destination next_state around.clock with hdelivered
    obtain ⟨store', hcommit, hlanes, haliases⟩ := commit_write hworks store
      (store.state.withRecord lane_id (delivered.next around.clock)) true
    rw [hcommit]
    exact ⟨delivered.next around.clock, h.write rfl rfl hlanes haliases rfl rfl h.bounded,
      .of_eq rfl rfl rfl rfl rfl, .inr (Nat.lt_succ_self _)⟩

theorem Watches.noteRevisionConflict (expected_revision : ℕ) (now : String) :
    (store.noteRevisionConflict around lane_id expected_revision now).Watches others lane_id record := by
  unfold LaneStore.noteRevisionConflict noteConflictChange
  obtain ⟨store', hcommit, hlanes, haliases⟩ := commit_write hworks store
    (store.state.pushAudit ⟨now, lane_id, .reconcileSkippedRevisionConflict,
      "expected revision " ++ toString expected_revision ++ " moved during reconcile; retry next poll"⟩) ()
  rw [hcommit]
  refine ⟨hlanes.trans h.lanes, h.own, ?_, h.session, h.bounded⟩
  unfold canonicalLaneId
  rw [haliases]
  exact h.canonical

end

theorem Watches.record_eq : store.state.record lane_id = some record := h.get

end

end LaneStore

end Clawhip.Gjc
