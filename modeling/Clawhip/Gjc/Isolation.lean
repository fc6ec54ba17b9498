import Clawhip.Gjc.Outages

/-!
# Isolation of lanes

A pass over many lanes. Processing one lane leaves all other lanes as they are, so a pass goes on over
all lanes unless it ends with an error, and it ends with an error exactly if an update that is not made
for an observation is refused by its lane: an outage that finds no room for its alert, or a revision
that cannot be counted up.
-/

namespace Clawhip.Gjc

open List OrdMap LaneStore LaneRecord TerminalDisposition

/-! ## Aliases -/

namespace LaneStore

variable (store : LaneStore) (around : Surroundings)

def SameAliases (store' : LaneStore) : Prop := store'.state.lane_id_aliases = store.state.lane_id_aliases

theorem commit_sameAliases {α : Type} {change : Except LaneError (Change α)}
    (h : ∀ state answer, change = .ok (.write state answer) → state.lane_id_aliases = store.state.lane_id_aliases) :
    store.SameAliases (store.commit around change).1 := by
  rcases change with error | answer | ⟨state, answer⟩
  · rfl
  · rfl
  · have hkept := (persist_kept { store with state := state } around).2.2.1
    exact hkept.trans (h state answer rfl)

variable (lane_id : String) (expected_revision : ℕ) (now : String)

theorem mutate_sameAliases {β : Type} (apply : Closure β) :
    store.SameAliases (store.mutate around lane_id expected_revision now apply).1 := by
  refine commit_sameAliases store around fun state answer hchange => ?_
  obtain ⟨record, -, hchange⟩ := bind_eq_ok.mp hchange
  obtain ⟨applied, -, hchange⟩ := bind_eq_ok.mp hchange
  obtain ⟨updated, -, hchange⟩ := bind_eq_ok.mp hchange
  cases hchange
  exact (StateFile.pushAll_lanes store.state _ now applied.2.1).2

theorem acknowledge_sameAliases (event_id now : String) : store.SameAliases
      (store.acknowledgePendingAlert around lane_id expected_revision event_id now).1 := by
  refine commit_sameAliases store around fun state answer hchange => ?_
  obtain ⟨record, -, hchange⟩ := bind_eq_ok.mp hchange
  dsimp only at hchange
  split_ifs at hchange
  · cases hchange
  · obtain ⟨updated, -, hchange⟩ := bind_eq_ok.mp hchange
    cases hchange
    rfl

theorem deliver_sameAliases (event_id destination : String) (next_state : DeliveryState) : store.SameAliases
      (store.updatePendingAlertDelivery around lane_id event_id destination next_state).1 := by
  refine commit_sameAliases store around fun state answer hchange => ?_
  rcases deliveryChange_cases store.state around lane_id event_id destination next_state with
    ⟨error, h⟩ | h | ⟨record, updated, -, -, h⟩
  · cases h.symm.trans hchange
  · cases h.symm.trans hchange
  · cases h.symm.trans hchange
    rfl

theorem noteRevisionConflict_sameAliases :
    store.SameAliases (store.noteRevisionConflict around lane_id expected_revision now) := by
  refine commit_sameAliases store around fun state answer hchange => ?_
  cases hchange
  rfl

end LaneStore

namespace Replay

variable (x : Libraries) (around : Surroundings) (replay : Replay) (now : String) (send : Send) (alert : PendingAlert)

theorem deliver_sameAliases : replay.store.SameAliases (replay.deliver around now send alert).1.store := by
  have hdelivered (deliveries : List (String × DeliveryState)) (store : LaneStore) :
      store.SameAliases (deliveries.foldl (fun store delivery =>
        (store.updatePendingAlertDelivery around replay.current.lane_id alert.event_id delivery.1
          delivery.2).1) store) := by
    induction deliveries generalizing store with
    | nil => rfl
    | cons delivery deliveries ih => exact (ih _).trans (LaneStore.deliver_sameAliases ..)
  unfold deliver
  dsimp only
  split_ifs
  · exact hdelivered send.deliveries replay.store
  · have hacknowledged := (acknowledge_sameAliases _ around replay.current.lane_id
      replay.current.revision alert.event_id now).trans (hdelivered send.deliveries replay.store)
    split
    · exact hacknowledged
    · split_ifs
      · exact (acknowledge_sameAliases ..).trans hacknowledged
      · exact hacknowledged

theorem revalidate_sameAliases : replay.store.SameAliases (replay.revalidate x around now send alert).1.store := by
  have hdecided (replay : Replay) (authoritative : Observation) : replay.store.SameAliases
      (replay.decided around now alert authoritative).1.store := by
    unfold decided
    split
    · rfl
    · rfl
    · have hsuppressed := mutate_sameAliases replay.store around replay.current.lane_id replay.current.revision now
        (suppressHistoricalFailureAlert alert authoritative)
      dsimp only
      split
      all_goals exact hsuppressed
  unfold revalidate
  cases send.answer with
  | error error => rfl
  | ok observation =>
    set authoritative := observation.sanitizeSelection
    dsimp only
    have happlied := mutate_sameAliases replay.store around
      replay.current.lane_id replay.current.revision now (applyObservation x authoritative now)
    by_cases hrevision : replay.current.sdk_revision < authoritative.revision
    · rw [if_pos hrevision]
      cases hanswer : (replay.store.mutate around replay.current.lane_id replay.current.revision now
          (applyObservation x authoritative now)).2 with
      | error error => exact happlied
      | ok updated => exact (hdecided _ authoritative).trans happlied
    · rw [if_neg hrevision]
      exact hdecided _ authoritative

theorem sendOne_sameAliases : replay.store.SameAliases (replay.sendOne x around now send alert).1.store := by
  have hnoted := mutate_sameAliases replay.store around
    replay.current.lane_id replay.current.revision now (notePendingAlertAttempt alert.event_id)
  unfold sendOne
  dsimp only
  split
  · exact hnoted
  · split_ifs
    · split
      · exact ((deliver_sameAliases around _ now send alert).trans
          (revalidate_sameAliases x around _ now send alert)).trans hnoted
      · exact (revalidate_sameAliases x around _ now send alert).trans hnoted
    · exact (deliver_sameAliases around _ now send alert).trans hnoted

/-- A replay changes no alias. -/
theorem run_sameAliases (sends : List Send) : replay.store.SameAliases (replay.run x around now sends).store := by
  induction sends generalizing replay with
  | nil => rfl
  | cons send sends ih =>
    unfold run
    split
    · rfl
    · next alert _ =>
      have hsent := sendOne_sameAliases x around replay now send alert
      dsimp only
      split
      · exact hsent
      · exact (ih _).trans hsent

end Replay

variable (x : Libraries) (reason now : String) (policy : PollingPolicy)

theorem LaneStore.react_sameAliases (input : PassInput) (store : LaneStore)
    (snapshot : LaneRecord) (answer : Answer) : store.SameAliases (store.react x policy input snapshot answer).1 := by
  unfold react
  split
  · split_ifs
    · rfl
    · exact mutate_sameAliases ..
  · split_ifs
    all_goals exact mutate_sameAliases ..
  · exact mutate_sameAliases ..
  · exact mutate_sameAliases ..
  · exact mutate_sameAliases ..
  · rfl
  · split_ifs
    · rfl
    · exact mutate_sameAliases ..

namespace Pass

variable (x : Libraries) (input : PassInput) (pass : Pass) (record : LaneRecord)

theorem failOrSkip_sameAliases (lane_id : String) (expected_revision : ℕ) (error : LaneError) :
    pass.store.SameAliases (pass.failOrSkip input lane_id expected_revision error).store := by
  unfold failOrSkip
  split_ifs
  · exact noteRevisionConflict_sameAliases ..
  · rfl

theorem replay_sameAliases (sends : List Send) : pass.store.SameAliases (pass.replay x input record sends).1.store :=
  Replay.run_sameAliases x input.around _ input.now sends

theorem reconcilePr_sameAliases (resolved : Option (Option PrState)) :
    pass.store.SameAliases (pass.reconcilePr input record resolved).store := by
  unfold reconcilePr
  split
  · next _ _ binding resolved hbinding =>
    have hreconciled := mutate_sameAliases pass.store input.around
      record.lane_id record.revision input.now (reconcilePrBinding resolved input.now)
    dsimp only
    split
    · exact hreconciled
    · split_ifs
      · exact (noteRevisionConflict_sameAliases ..).trans hreconciled
      · exact hreconciled
  · rfl

theorem follow_sameAliases (pass : Pass) (lane : LaneInput) (snapshot : LaneRecord) (reaction : Reaction) :
    pass.store.SameAliases (pass.follow x policy input lane snapshot reaction).store := by
  cases reaction with
  | retained => rfl
  | applied record applied =>
    have hreplayed := replay_sameAliases x input pass.retain record lane.after
    dsimp only [follow]
    split
    · exact hreplayed
    · exact (reconcilePr_sameAliases ..).trans hreplayed
  | refused error =>
    dsimp only [follow]
    split_ifs
    · exact noteRevisionConflict_sameAliases ..
    · rfl
  | watchRemoved record => rfl
  | notRemoved error =>
    dsimp only [follow]
    split_ifs
    · exact noteRevisionConflict_sameAliases ..
    · rfl
    · rfl
  | runtimeGone record => exact replay_sameAliases x input (pass.count _) record lane.after
  | rotated record => rfl
  | terminalUnavailable record detail =>
    have hreplayed := replay_sameAliases x input pass record lane.after
    dsimp only [follow]
    split_ifs
    · exact hreplayed
    · have hremoved := (mutate_sameAliases _ input.around snapshot.lane_id
        (pass.replay x input record lane.after).2.revision input.now
        (removeGhostWatch ("terminal watch exceeded ghost grace after " ++
          toString (snapshot.consecutive_unavailable_polls + 1) ++ " unavailable polls: " ++ detail)
            input.now)).trans hreplayed
      split
      · exact hremoved
      · exact (failOrSkip_sameAliases ..).trans hremoved
    · exact hreplayed
  | unavailable record suspended | staged record => exact replay_sameAliases x input pass record lane.after
  | notStaged error =>
    dsimp only [follow]
    split_ifs
    all_goals exact failOrSkip_sameAliases ..
  | failed error => exact failOrSkip_sameAliases ..

/-- A pass changes no alias at a lane. -/
theorem reconcileLane_sameAliases (parseTime : String → Option ℤ)
    (policy : PollingPolicy) (pass : Pass) (initial : LaneRecord) :
    pass.store.SameAliases (pass.reconcileLane x parseTime policy input initial).store := by
  unfold reconcileLane
  split
  · rfl
  dsimp only
  set replayed := Replay.run x input.around input.now { store := pass.store, current := initial }
    (input.lanes initial.lane_id).before
  have hreplayed : pass.store.SameAliases replayed.store :=
    Replay.run_sameAliases x input.around { store := pass.store, current := initial } input.now _
  split_ifs
  · have hremoved := (mutate_sameAliases replayed.store input.around
      replayed.current.lane_id replayed.current.revision input.now
      (removeGhostWatch "retired watch cleanup" input.now)).trans hreplayed
    split
    all_goals exact hremoved
  · exact hreplayed
  · exact hreplayed
  all_goals
    exact (follow_sameAliases ..).trans ((react_sameAliases ..).trans hreplayed)

end Pass

/-! ## Refusals -/

/-- The identity of the alert that an outage stages now. -/
def LaneRecord.outageId (x : Libraries) (record : LaneRecord) (reason now : String) : String :=
  let opened := { record with endpoint_episode := min (record.endpoint_episode + 1) U64_MAX }
  (opened.outageContext x reason now).endpointEventId x ⟨.failed, some reason⟩
    (max (min (opened.endpoint_episode + 1) U64_MAX) 1)

/-- The lane has no room for the alert of an outage that was not alerted yet. -/
def LaneRecord.Full (x : Libraries) (record : LaneRecord) (reason now : String) : Prop :=
  record.endpoint_alerted = false ∧ MAX_PENDING_ALERTS ≤ record.pending_alerts.length ∧
    ∀ alert ∈ record.pending_alerts, alert.event_id ≠ record.outageId x reason now

variable {record : LaneRecord}

/-- An outage is noted unless there is no room for its alert. -/
theorem alertOutage_cases (hid : validId record.sdk_session_id = true) :
    record.Full x reason now ∧ record.alertOutage x reason now = .error "gjc pending alert queue is full" ∨
      ¬ record.Full x reason now ∧ ∃ record', record.alertOutage x reason now = .ok record' := by
  by_cases halerted : record.endpoint_alerted = true
  · refine .inr ⟨fun hfull => ?_, record, alertOutage_alerted x reason now halerted⟩
    exact absurd (hfull.1.symm.trans halerted) Bool.false_ne_true
  set opened := { record with endpoint_episode := min (record.endpoint_episode + 1) U64_MAX } with hopened
  set event := opened.outageEvent x reason now with hevent
  set alert : PendingAlert := ⟨record.outageId x reason now, event.kind, event.payload, now, 0, none, []⟩ with halert
  have hpending : pendingFromEvent event now = .ok alert := by
    refine bind_eq_ok.mpr ⟨record.outageId x reason now, ?_, bind_eq_ok.mpr ⟨none, rfl, rfl⟩⟩
    have hevent_id : textOf event.payload "event_id" = some (record.outageId x reason now) :=
      endpointFailedEvent_id x _ _ _
    rw [hevent_id]
    rfl
  have hstage : opened.stage [event] now = opened.queue alert := by
    unfold stage
    rw [foldlM_cons]
    cases hqueued : opened.queue alert
    all_goals simp only [hpending, foldlM_nil, hqueued, bind, Except.bind, pure, Except.pure]
  have hevents : bridgeAlerts x none (opened.failedEndpoint reason now) now = .ok [event] :=
    bridgeAlerts_failedEndpoint x reason now hid
  have hfull : record.Full x reason now ↔ opened.queue alert = .error "gjc pending alert queue is full" := by
    unfold queue
    by_cases hknown : (opened.pending_alerts.any fun existing => decide (existing.event_id = alert.event_id)) = true
    · rw [if_pos hknown]
      refine ⟨fun hfull => ?_, fun h => by cases h⟩
      obtain ⟨existing, hmem, hsame⟩ := any_eq_true.mp hknown
      exact absurd (of_decide_eq_true hsame) (hfull.2.2 existing hmem)
    · rw [if_neg hknown]
      by_cases hlength : MAX_PENDING_ALERTS ≤ opened.pending_alerts.length
      · rw [if_pos hlength]
        refine ⟨fun _ => rfl, fun _ => ⟨Bool.eq_false_iff.mpr halerted, hlength, ?_⟩⟩
        intro existing hmem hsame
        exact hknown (any_eq_true.mpr ⟨existing, hmem, decide_eq_true hsame⟩)
      · rw [if_neg hlength]
        exact ⟨fun hfull => absurd hfull.2.1 hlength, fun h => by cases h⟩
  have hrefuses (reason : String) (h : opened.queue alert = .error reason) :
      reason = "gjc pending alert queue is full" := by
    unfold queue at h
    split_ifs at h
    exact (Except.error.inj h).symm
  unfold alertOutage
  rw [if_neg halerted]
  cases hqueued : opened.queue alert with
  | error reason =>
    obtain rfl := hrefuses reason hqueued
    refine .inl ⟨hfull.mpr hqueued, ?_⟩
    exact bind_eq_error.mpr (.inr ⟨_, hevents, bind_eq_error.mpr (.inl (hstage.trans hqueued))⟩)
  | ok staged =>
    refine .inr ⟨fun h => ?_, _, bind_eq_ok.mpr ⟨_, hevents, bind_eq_ok.mpr ⟨staged, hstage.trans hqueued, rfl⟩⟩⟩
    cases (hfull.mp h).symm.trans hqueued

/-- The lane's revision cannot be counted up. -/
def LaneRecord.Spent (record : LaneRecord) : Prop := U64_MAX ≤ record.revision

/-- The watch of the lane cannot be removed: it was already, or the lane is not terminal, or alerts
are pending, or the revision cannot be counted up. -/
def LaneRecord.Stuck (record : LaneRecord) : Prop :=
  record.watch_removed_at.isSome = true ∨ record.terminal_disposition = none ∨ record.pending_alerts ≠ [] ∨ record.Spent

section

variable {store : LaneStore} {around : Surroundings} {others : OrdMap String LaneRecord}
  {lane_id now : String} {record : LaneRecord}

/-- A mutation of the record that the caller read is refused if the closure refuses it, or the revision
cannot be counted up. -/
theorem LaneStore.Watches.mutate_own {β : Type} (h : store.Watches others lane_id record)
    (hworks : around.Works) (now : String) {apply : Closure β} (hstays : apply.Stays) :
    (∃ reason, apply record = .error reason ∧
      store.mutate around lane_id record.revision now apply = (store, .error (.rejected reason))) ∨
    ((∃ applied, apply record = .ok applied) ∧ record.Spent ∧
      store.mutate around lane_id record.revision now apply = (store, .error .revisionOverflow)) ∨
    ∃ store' record' audit answer, apply record = .ok (record', audit, answer) ∧ ¬ record.Spent ∧
      store.mutate around lane_id record.revision now apply = (store', .ok (record'.next now, answer)) ∧
      store'.Watches others lane_id (record'.next now) := by
  have hat : store.state.recordAt lane_id record.revision = .ok record := by
    unfold StateFile.recordAt
    rw [h.get]
    dsimp only
    rw [if_pos rfl]
  cases happly : apply record with
  | error reason =>
    refine .inl ⟨reason, rfl, ?_⟩
    unfold mutate mutateChange
    rw [hat]
    simp only [bind, Except.bind, happly, Except.mapError]
    rfl
  | ok applied =>
    obtain ⟨record', audit, answer⟩ := applied
    have hsame := hstays happly
    by_cases hspent : record.Spent
    · refine .inr (.inl ⟨⟨_, rfl⟩, hspent, ?_⟩)
      have hbumped : record'.bumped now = .error .revisionOverflow := by
        unfold bumped
        rw [hsame.revision, if_neg (not_lt.mpr hspent)]
      unfold mutate mutateChange
      rw [hat]
      simp only [bind, Except.bind, happly, Except.mapError, hbumped]
      rfl
    · refine .inr (.inr ?_)
      rcases h.mutate_cases hworks record.revision now hstays with
        ⟨error, -, hrefused⟩ | ⟨store', written, audit', answer', happly', hmutate, hwatches⟩
      · exact absurd ⟨rfl, not_le.mp hspent, _, happly⟩ hrefused
      · cases happly.symm.trans happly'
        exact ⟨store', record', audit, answer, rfl, hspent, hmutate, hwatches⟩

end

variable {error : LaneError}

/-- None of these errors is taken for a revision conflict. -/
theorem not_isRevisionConflict (h : error = .revisionOverflow ∨ ∃ reason ∈ ["gjc pending alert queue is full",
      "lane already carries a terminal disposition", "ghost watch already removed",
      "only terminal lanes qualify for ghost watch removal",
      "pending alerts must be acknowledged before ghost removal"], error = .rejected reason) :
    error.isRevisionConflict = false := by
  rcases h with rfl | ⟨reason, hreason, rfl⟩
  · decide +kernel
  · revert hreason
    revert reason
    decide +kernel

/-- A watch is removed if it is there, its lane is terminal and no alert is pending. -/
theorem removeGhostWatch_cases (record : LaneRecord) :
    ((record.watch_removed_at.isSome = true ∨ record.terminal_disposition = none ∨
        record.pending_alerts ≠ []) ∧ ∃ complaint ∈ ["gjc pending alert queue is full",
        "lane already carries a terminal disposition", "ghost watch already removed",
        "only terminal lanes qualify for ghost watch removal",
        "pending alerts must be acknowledged before ghost removal"],
        removeGhostWatch reason now record = .error complaint) ∨
    (¬ (record.watch_removed_at.isSome = true ∨ record.terminal_disposition = none ∨
        record.pending_alerts ≠ []) ∧ ∃ applied, removeGhostWatch reason now record = .ok applied) := by
  unfold removeGhostWatch
  by_cases hremoved : record.watch_removed_at.isSome = true
  · rw [if_pos hremoved]
    exact .inl ⟨.inl hremoved, _, by simp, rfl⟩
  · rw [if_neg hremoved]
    cases hterminal : record.terminal_disposition with
    | none => exact .inl ⟨.inr (.inl rfl), _, by simp, rfl⟩
    | some disposition =>
      cases hpending : record.pending_alerts with
      | nil =>
        refine .inr ⟨?_, _, rfl⟩
        rintro (h | h | h)
        · exact hremoved h
        · cases h
        · exact h rfl
      | cons alert alerts => exact .inl ⟨.inr (.inr (cons_ne_nil _ _)), _, by simp, rfl⟩

/-- An outage is noted unless there is no room for its alert. -/
theorem markUnavailable_cases (suspend_after : ℕ) (now : String) (hid : validId record.sdk_session_id = true) :
    record.Full x reason now ∧ markUnavailable x reason suspend_after now record =
        .error "gjc pending alert queue is full" ∨ ¬ record.Full x reason now ∧
        ∃ applied, markUnavailable x reason suspend_after now record = .ok applied := by
  -- Counting the poll changes nothing that the alert is made from.
  have hmissing : (record.missing now).Full x reason now ↔ record.Full x reason now := Iff.rfl
  have hsession : validId (record.missing now).sdk_session_id = true := hid
  rcases alertOutage_cases x reason now hsession with
    ⟨hfull, houtage⟩ | ⟨hroom, record', houtage⟩
  · exact .inl ⟨hmissing.mp hfull, bind_eq_error.mpr (.inl houtage)⟩
  · exact .inr ⟨fun hfull => hroom (hmissing.mpr hfull), _, bind_eq_ok.mpr ⟨record', houtage, rfl⟩⟩

theorem enqueueEndpointFailure_cases (hid : validId record.sdk_session_id = true) :
    record.Full x reason now ∧ enqueueEndpointFailure x reason now record = .error "gjc pending alert queue is full" ∨
      ¬ record.Full x reason now ∧ ∃ applied, enqueueEndpointFailure x reason now record = .ok applied := by
  rcases alertOutage_cases x reason now hid with ⟨hfull, houtage⟩ | ⟨hroom, record', houtage⟩
  · exact .inl ⟨hfull, bind_eq_error.mpr (.inl houtage)⟩
  · exact .inr ⟨hroom, _, bind_eq_ok.mpr ⟨record', houtage, rfl⟩⟩

/-! ## Lanes that end a pass -/

section

variable (x : Libraries) (parseTime : String → Option ℤ) (policy : PollingPolicy)
  (input : PassInput)

/-- The replay with which a pass begins at a lane. -/
def Pass.visit (pass : Pass) (initial : LaneRecord) : Replay :=
  Replay.run x input.around input.now { store := pass.store, current := initial }
    (input.lanes initial.lane_id).before

/-- A lane that is asked about: it is not a retired one without alerts, and neither suspension nor
backoff defers it. -/
def LaneRecord.due (snapshot : LaneRecord) : Bool :=
  !(decide ((snapshot.terminal_disposition.map TerminalDisposition.kind) = some .retired) &&
      snapshot.pending_alerts.isEmpty) &&
    !(snapshot.polling_suspended && suspensionDefers parseTime policy input snapshot) &&
    !backoffDefers parseTime policy input snapshot

/-- The record of a terminal lane after an outage was noted and its alerts were replayed. -/
def LaneStore.outlasted (store : LaneStore) (snapshot : LaneRecord) (reason : String)
    (sends : List Send) : Option LaneRecord :=
  match store.mutate input.around snapshot.lane_id snapshot.revision input.now
      (markUnavailable x reason U32_MAX input.now) with
  | (store, .ok (record, _)) => some (Replay.run x input.around input.now
      { store := store, current := record } sends).current
  | (_, .error _) => none

/-- An update that an answer asks for is refused by the lane, and ends the pass. -/
def LaneStore.Refuses (store : LaneStore) (snapshot : LaneRecord) (sends : List Send) :
    Answer → Prop
  | .ok _ | .error (.invalidState _) => False
  | .error (.sessionNotFound _) =>
    if snapshot.terminal_disposition.isSome then snapshot.pending_alerts = [] ∧ snapshot.Stuck
    else snapshot.Spent
  | .error (.staleEndpointGeneration _) => snapshot.Spent
  | .error (.endpointUnavailable reason) | .error (.timeout reason) =>
    snapshot.Full x reason input.now ∨ snapshot.Spent ∨ snapshot.terminal_disposition.isSome = true ∧
        policy.ghost_grace_polls ≤ snapshot.consecutive_unavailable_polls + 1 ∧
          ∃ last, store.outlasted x input snapshot reason sends = some last ∧ last.pending_alerts = [] ∧ last.Stuck
  | .error (.ambiguous reason) => reason ≠ "multiple ready workflow gates" ∧
      (snapshot.Full x reason input.now ∨ snapshot.Spent)

/-- A pass ends at a lane: it is due, and refuses what the answer asks for. -/
def Pass.EndsAt (pass : Pass) (initial : LaneRecord) : Prop :=
  (pass.visit x input initial).current.due parseTime policy input = true ∧
    (pass.visit x input initial).store.Refuses x policy input (pass.visit x input initial).current
      (input.lanes initial.lane_id).after
      (answerFor (input.lanes initial.lane_id) (pass.visit x input initial).revalidated)

end

namespace Pass

section

variable {x : Libraries} {parseTime : String → Option ℤ} {policy : PollingPolicy}
  {input : PassInput} {pass : Pass} {others : OrdMap String LaneRecord} {lane_id : String}
  {record snapshot : LaneRecord} {lane : LaneInput}

theorem failOrSkip_failed_iff (hfailed : pass.failed = none) (lane_id : String)
    (expected_revision : ℕ) (error : LaneError) :
    (pass.failOrSkip input lane_id expected_revision error).failed = none ↔ error.isRevisionConflict = true := by
  unfold failOrSkip
  split_ifs with hconflict
  · exact ⟨fun _ => hconflict, fun _ => hfailed⟩
  · exact ⟨fun h => h.elim, fun h => absurd h hconflict⟩

theorem reconcilePr_failed (pass : Pass) (record : LaneRecord) (resolved : Option (Option PrState)) :
    (pass.reconcilePr input record resolved).failed = pass.failed := by
  unfold reconcilePr
  split
  · dsimp only
    split
    · rfl
    · split_ifs
      all_goals rfl
  · rfl

/-- After its grace a terminal lane ends the pass where no alert holds its watch and the watch cannot
be removed all the same. -/
theorem terminalUnavailable_failed_iff (h : pass.store.Watches others snapshot.lane_id record)
    (hworks : input.around.Works) (hfailed : pass.failed = none) (detail : String) :
    (pass.follow x policy input lane snapshot (.terminalUnavailable record detail)).failed = none ↔
      ¬ (policy.ghost_grace_polls ≤ snapshot.consecutive_unavailable_polls + 1 ∧
        (pass.replay x input record lane.after).2.pending_alerts = [] ∧
          (pass.replay x input record lane.after).2.Stuck) := by
  obtain ⟨consults, hreplay⟩ := replay_goes (x := x) h hworks lane.after
  have hwatches := hreplay.watches
  set replayed := pass.replay x input record lane.after with hreplayed
  have hrest : replayed.1.failed = none := hfailed
  dsimp only [follow]
  rw [← hreplayed]
  by_cases hgrace : policy.ghost_grace_polls ≤ snapshot.consecutive_unavailable_polls + 1
  swap
  · rw [if_neg hgrace]
    exact ⟨fun _ hstuck => hgrace hstuck.1, fun _ => hrest⟩
  rw [if_pos hgrace]
  by_cases hpending : replayed.2.pending_alerts = []
  swap
  · have hsome : (!replayed.2.pending_alerts.isEmpty) = true := by simpa using hpending
    rw [if_pos hsome]
    exact ⟨fun _ hstuck => hpending hstuck.2.1, fun _ => hrest⟩
  have hnone : ¬ (!replayed.2.pending_alerts.isEmpty) = true := by simp [hpending]
  rw [if_neg hnone]
  generalize "terminal watch exceeded ghost grace after " ++
    toString (snapshot.consecutive_unavailable_polls + 1) ++ " unavailable polls: " ++ detail = text
  have hcases := removeGhostWatch_cases text input.now replayed.2
  have hremoves := hwatches.mutate_own hworks input.now
    (Closure.Bookkeeps.stays (removeGhostWatch_bookkeeps text input.now))
  rcases hremoves with ⟨reason, happly, hmutate⟩ | ⟨happly, hspent, hmutate⟩ |
    ⟨store', record', audit, answer, happly, hfresh, hmutate, -⟩
  · rw [hmutate]
    rw [failOrSkip_failed_iff hrest]
    rcases hcases with ⟨hstuck, complaint, hcomplaint, hrefused⟩ | ⟨-, applied, happlied⟩
    · cases happly.symm.trans hrefused
      have hno := not_isRevisionConflict (.inr ⟨_, hcomplaint, rfl⟩)
      refine ⟨fun hconflict => absurd (hno.symm.trans hconflict) Bool.false_ne_true, fun hnot => ?_⟩
      exact absurd ⟨hgrace, hpending, hstuck.imp_right (.imp_right .inl)⟩ hnot
    · cases happly.symm.trans happlied
  · rw [hmutate]
    rw [failOrSkip_failed_iff hrest]
    have hno := not_isRevisionConflict (.inl (Eq.refl LaneError.revisionOverflow))
    refine ⟨fun hconflict => absurd (hno.symm.trans hconflict) Bool.false_ne_true, fun hnot => ?_⟩
    exact absurd ⟨hgrace, hpending, .inr (.inr (.inr hspent))⟩ hnot
  · rw [hmutate]
    refine ⟨fun _ hstuck => ?_, fun _ => hrest⟩
    rcases hcases with ⟨-, complaint, -, hrefused⟩ | ⟨hfree, -⟩
    · cases happly.symm.trans hrefused
    · rcases hstuck.2.2 with hremoved | hlive | halerts | hspent
      · exact hfree (.inl hremoved)
      · exact hfree (.inr (.inl hlive))
      · exact halerts hpending
      · exact hfresh hspent

/-- An update that is refused for one of the known reasons ends the pass. -/
theorem failOrSkip_fails (input : PassInput) (hfailed : pass.failed = none) (lane_id : String) (expected_revision : ℕ)
    (hknown : error = .revisionOverflow ∨ error = .rejected "gjc pending alert queue is full" ∨
        error = .rejected "lane already carries a terminal disposition") :
    (pass.failOrSkip input lane_id expected_revision error).failed ≠ none := by
  rw [Ne, failOrSkip_failed_iff hfailed]
  have hno : error.isRevisionConflict = false := by
    refine not_isRevisionConflict ?_
    rcases hknown with rfl | rfl | rfl
    · exact .inl rfl
    · exact .inr ⟨_, by simp, rfl⟩
    · exact .inr ⟨_, by simp, rfl⟩
  exact fun hconflict => absurd (hno.symm.trans hconflict) Bool.false_ne_true

variable {store : LaneStore} {noted : Pass}

theorem react_unavailable {reason : String} {answer : Answer}
    (hanswer : answer = .error (.endpointUnavailable reason) ∨ answer = .error (.timeout reason)) :
    store.react x policy input snapshot answer =
      ((store.mutate input.around snapshot.lane_id snapshot.revision input.now
        (markUnavailable x reason (if snapshot.terminal_disposition.isSome then U32_MAX
          else policy.max_consecutive_attempts) input.now)).1,
        match (store.mutate input.around snapshot.lane_id snapshot.revision input.now
          (markUnavailable x reason (if snapshot.terminal_disposition.isSome then U32_MAX
            else policy.max_consecutive_attempts) input.now)).2 with
        | .ok (record, suspended) =>
          if snapshot.terminal_disposition.isSome then .terminalUnavailable record reason
          else .unavailable record suspended
        | .error error => .failed error) := by
  rcases hanswer with rfl | rfl
  all_goals rfl

/-- What follows when the endpoint gave no answer. -/
theorem unavailable_failed_iff (h : store.Watches others snapshot.lane_id snapshot)
    (hworks : input.around.Works) (reason : String) (answer : Answer)
    (hanswer : answer = .error (.endpointUnavailable reason) ∨ answer = .error (.timeout reason))
    (hstore : noted.store = (store.react x policy input snapshot answer).1) (hnoted : noted.failed = none) :
    (noted.follow x policy input lane snapshot (store.react x policy input snapshot answer).2).failed = none ↔
      ¬ store.Refuses x policy input snapshot lane.after answer := by
  have hrefuses : store.Refuses x policy input snapshot lane.after answer ↔
      snapshot.Full x reason input.now ∨ snapshot.Spent ∨ snapshot.terminal_disposition.isSome = true ∧
          policy.ghost_grace_polls ≤ snapshot.consecutive_unavailable_polls + 1 ∧
            ∃ last, store.outlasted x input snapshot reason lane.after = some last ∧
              last.pending_alerts = [] ∧ last.Stuck := by
    rcases hanswer with rfl | rfl
    all_goals exact Iff.rfl
  rw [hrefuses]
  rw [react_unavailable hanswer] at hstore ⊢
  set suspend_after := if snapshot.terminal_disposition.isSome then U32_MAX
    else policy.max_consecutive_attempts with hsuspend
  have hstays : (markUnavailable x reason suspend_after input.now).Stays :=
    (markUnavailable_alarms x reason suspend_after input.now).stays
  have hcases := markUnavailable_cases x reason suspend_after input.now h.session
  rcases h.mutate_own hworks input.now hstays with ⟨error, happly, hmutate⟩ |
    ⟨happly, hspent, hmutate⟩ | ⟨store', record', audit, suspended, happly, hfresh, hmutate, hwatches⟩
  · rw [hmutate]
    rcases hcases with ⟨hfull, hrefused⟩ | ⟨-, applied, happlied⟩
    · cases happly.symm.trans hrefused
      exact ⟨fun hnone => absurd hnone (failOrSkip_fails input hnoted _ _ (.inr (.inl rfl))),
        fun hnot => absurd (.inl hfull) hnot⟩
    · cases happly.symm.trans happlied
  · rw [hmutate]
    exact ⟨fun hnone => absurd hnone (failOrSkip_fails input hnoted _ _ (.inl rfl)),
      fun hnot => absurd (.inr (.inl hspent)) hnot⟩
  · have hroom : ¬ snapshot.Full x reason input.now := by
      rcases hcases with ⟨-, hrefused⟩ | ⟨hroom, -⟩
      · cases happly.symm.trans hrefused
      · exact hroom
    rw [hmutate] at hstore ⊢
    dsimp only at hstore ⊢
    by_cases hterminal : snapshot.terminal_disposition.isSome = true
    · rw [if_pos hterminal]
      have houtlasted : store.outlasted x input snapshot reason lane.after =
          some (noted.replay x input (record'.next input.now) lane.after).2 := by
        unfold outlasted replay
        rw [if_pos hterminal] at hsuspend
        rw [hsuspend] at hmutate
        rw [hmutate, hstore]
      rw [terminalUnavailable_failed_iff (hstore ▸ hwatches) hworks hnoted]
      constructor
      · rintro hfree (hfull | hspent | ⟨-, hgrace, last, hlast, hpending, hstuck⟩)
        · exact hroom hfull
        · exact hfresh hspent
        · cases houtlasted.symm.trans hlast
          exact hfree ⟨hgrace, hpending, hstuck⟩
      · rintro hfree ⟨hgrace, hpending, hstuck⟩
        exact hfree (.inr (.inr ⟨hterminal, hgrace, _, houtlasted, hpending, hstuck⟩))
    · rw [if_neg hterminal]
      refine ⟨fun _ hrefused => ?_, fun _ => hnoted⟩
      rcases hrefused with hfull | hspent | hlast
      · exact hroom hfull
      · exact hfresh hspent
      · exact hterminal hlast.1

/-- A pass ends after an answer exactly if the lane refuses what it asks for. -/
theorem follow_failed_iff (h : store.Watches others snapshot.lane_id snapshot) (hworks : input.around.Works)
    (answer : Answer) (hstore : noted.store = (store.react x policy input snapshot answer).1)
    (hnoted : noted.failed = none) : (noted.follow x policy input lane snapshot
        (store.react x policy input snapshot answer).2).failed = none ↔
      ¬ store.Refuses x policy input snapshot lane.after answer := by
  cases answer with
  | ok observation =>
    refine ⟨fun _ hrefused => hrefused, fun _ => ?_⟩
    dsimp only [react]
    split
    · exact hnoted
    · split
      · dsimp only [follow]
        split
        · exact hnoted
        · exact (reconcilePr_failed ..).trans hnoted
      · dsimp only [follow]
        split
        all_goals exact hnoted
  | error error =>
    cases error with
    | endpointUnavailable reason => exact unavailable_failed_iff h hworks reason _ (.inl rfl) hstore hnoted
    | timeout reason => exact unavailable_failed_iff h hworks reason _ (.inr rfl) hstore hnoted
    | invalidState detail => exact ⟨fun _ hrefused => hrefused, fun _ => hnoted⟩
    | sessionNotFound detail =>
      unfold Refuses
      dsimp only [react]
      by_cases hterminal : snapshot.terminal_disposition.isSome = true
      · rw [if_pos hterminal, if_pos hterminal]
        generalize "terminal session absent from control plane: " ++ detail = text
        have hcases := removeGhostWatch_cases text input.now snapshot
        have hpending : (!snapshot.pending_alerts.isEmpty) = true ↔ snapshot.pending_alerts ≠ [] := by simp
        have hrefused {error : LaneError} (herror : error.isRevisionConflict = false) :
            (noted.follow x policy input lane snapshot (.notRemoved error)).failed = none ↔
              snapshot.pending_alerts ≠ [] := by
          dsimp only [follow]
          rw [herror, if_neg Bool.false_ne_true]
          split_ifs with halerts
          · exact ⟨fun _ => hpending.mp halerts, fun _ => hnoted⟩
          · exact ⟨fun hnone => hnone.elim, fun hne => absurd (hpending.mpr hne) halerts⟩
        rcases h.mutate_own hworks input.now (Closure.Bookkeeps.stays (removeGhostWatch_bookkeeps text input.now)) with
          ⟨error, happly, hmutate⟩ | ⟨happly, hspent, hmutate⟩ |
            ⟨store', record', audit, answer, happly, hfresh, hmutate, -⟩
        · rw [hmutate]
          rcases hcases with ⟨hstuck, complaint, hcomplaint, hcomplains⟩ | ⟨-, applied, happlied⟩
          · cases happly.symm.trans hcomplains
            rw [hrefused (not_isRevisionConflict (.inr ⟨_, hcomplaint, rfl⟩))]
            refine ⟨fun hne hrefused => hne hrefused.1, fun hnot hempty => ?_⟩
            exact hnot ⟨hempty, hstuck.imp_right (.imp_right .inl)⟩
          · cases happly.symm.trans happlied
        · rw [hmutate, hrefused (not_isRevisionConflict (.inl rfl))]
          refine ⟨fun hne hrefused => hne hrefused.1, fun hnot hempty => ?_⟩
          exact hnot ⟨hempty, .inr (.inr (.inr hspent))⟩
        · rw [hmutate]
          refine ⟨fun _ hrefused => ?_, fun _ => hnoted⟩
          rcases hcases with ⟨-, complaint, -, hcomplains⟩ | ⟨hfree, -⟩
          · cases happly.symm.trans hcomplains
          · rcases hrefused.2 with hremoved | hlive | halerts | hspent
            · exact hfree (.inl hremoved)
            · exact hfree (.inr (.inl hlive))
            · exact halerts hrefused.1
            · exact hfresh hspent
      · rw [if_neg hterminal, if_neg hterminal]
        have hstays : Closure.Stays (markRuntimeGone detail input.now) := fun happly => (markRuntimeGone_spec happly).1
        rcases h.mutate_own hworks input.now hstays with
          ⟨error, happly, hmutate⟩ | ⟨happly, hspent, hmutate⟩ |
            ⟨store', record', audit, answer, happly, hfresh, hmutate, -⟩
        · unfold markRuntimeGone at happly
          rw [if_neg hterminal] at happly
          cases happly
        · rw [hmutate]
          exact ⟨fun hnone => absurd hnone (failOrSkip_fails input hnoted _ _ (.inl rfl)),
            fun hnot => absurd hspent hnot⟩
        · rw [hmutate]
          exact ⟨fun _ => hfresh, fun _ => hnoted⟩
    | staleEndpointGeneration observed =>
      dsimp only [react]
      have hstays : Closure.Stays (noteEndpointRotation observed) := fun happly => (noteEndpointRotation_spec happly).1
      rcases h.mutate_own hworks input.now hstays with
        ⟨error, happly, hmutate⟩ | ⟨happly, hspent, hmutate⟩ |
          ⟨store', record', audit, answer, happly, hfresh, hmutate, -⟩
      · obtain ⟨applied, audit, happlied⟩ := noteEndpointRotation_isOk observed snapshot
        cases happly.symm.trans happlied
      · rw [hmutate]
        exact ⟨fun hnone => absurd hnone (failOrSkip_fails input hnoted _ _ (.inl rfl)), fun hnot => absurd hspent hnot⟩
      · rw [hmutate]
        exact ⟨fun _ => hfresh, fun _ => hnoted⟩
    | ambiguous reason =>
      dsimp only [react]
      by_cases hgates : reason = "multiple ready workflow gates"
      · rw [if_pos hgates]
        exact ⟨fun _ hrefused => hrefused.1 hgates, fun _ => hnoted⟩
      · rw [if_neg hgates]
        have hcases := enqueueEndpointFailure_cases x reason input.now h.session
        have hends {error : LaneError} (herror : error = .revisionOverflow ∨
            error = .rejected "gjc pending alert queue is full" ∨
              error = .rejected "lane already carries a terminal disposition") :
            (noted.follow x policy input lane snapshot (.notStaged error)).failed ≠ none := by
          have hfails := failOrSkip_fails input hnoted snapshot.lane_id snapshot.revision herror
          dsimp only [follow]
          rw [if_pos (Option.isSome_iff_ne_none.mpr hfails)]
          exact hfails
        rcases h.mutate_own hworks input.now (enqueueEndpointFailure_alarms x reason input.now).stays with
          ⟨error, happly, hmutate⟩ | ⟨happly, hspent, hmutate⟩ |
            ⟨store', record', audit, answer, happly, hfresh, hmutate, -⟩
        · rw [hmutate]
          rcases hcases with ⟨hfull, hrefused⟩ | ⟨-, applied, happlied⟩
          · cases happly.symm.trans hrefused
            exact ⟨fun hnone => absurd hnone (hends (.inr (.inl rfl))), fun hnot => absurd ⟨hgates, .inl hfull⟩ hnot⟩
          · cases happly.symm.trans happlied
        · rw [hmutate]
          exact ⟨fun hnone => absurd hnone (hends (.inl rfl)), fun hnot => absurd ⟨hgates, .inr hspent⟩ hnot⟩
        · rw [hmutate]
          refine ⟨fun _ hrefused => ?_, fun _ => hnoted⟩
          rcases hcases with ⟨-, hrefuses⟩ | ⟨hroom, -⟩
          · cases happly.symm.trans hrefuses
          · exact hrefused.2.elim hroom hfresh

/-- The pass ends at a lane exactly if the lane is due and refuses what the answer asks for. -/
theorem reconcileLane_failed_iff (h : pass.store.Watches others lane_id record)
    (hworks : input.around.Works) (hfailed : pass.failed = none) :
    (pass.reconcileLane x parseTime policy input record).failed = none ↔
      ¬ pass.EndsAt x parseTime policy input record := by
  obtain rfl := h.own
  have hstart : ({ store := pass.store, current := record } : Replay).store.Watches others record.lane_id record := h
  obtain ⟨consults, hrun⟩ := Replay.run_goes x input.now hworks (input.lanes record.lane_id).before hstart
  have hwatches : (pass.visit x input record).store.Watches others record.lane_id
    (pass.visit x input record).current := hrun.watches
  have hvisit : Replay.run x input.around input.now { store := pass.store, current := record }
      (input.lanes record.lane_id).before = pass.visit x input record := rfl
  unfold reconcileLane EndsAt
  rw [if_neg (by rw [hfailed]; exact Bool.false_ne_true)]
  dsimp only
  rw [hvisit]
  set replayed := pass.visit x input record with hreplayed
  have hown : replayed.current.lane_id = record.lane_id := hwatches.own
  unfold due
  by_cases hretired : (replayed.current.terminal_disposition.map kind) =
      some .retired ∧ replayed.current.pending_alerts.isEmpty = true
  · rw [if_pos hretired, hretired.2, decide_eq_true hretired.1]
    refine ⟨fun _ hends => Bool.false_ne_true hends.1, fun _ => ?_⟩
    split
    all_goals exact hfailed
  rw [if_neg hretired]
  have hkept : (!(decide ((replayed.current.terminal_disposition.map kind) =
      some .retired) && replayed.current.pending_alerts.isEmpty)) = true := by
    rw [Bool.not_eq_true', Bool.and_eq_false_iff]
    by_cases hkind : (replayed.current.terminal_disposition.map kind) = some .retired
    · exact .inr (Bool.eq_false_iff.mpr fun hempty => hretired ⟨hkind, hempty⟩)
    · exact .inl (decide_eq_false hkind)
  rw [hkept, Bool.true_and]
  by_cases hsuspended : (replayed.current.polling_suspended &&
      suspensionDefers parseTime policy input replayed.current) = true
  · rw [if_pos hsuspended, hsuspended]
    exact ⟨fun _ hends => Bool.false_ne_true hends.1, fun _ => hfailed⟩
  rw [if_neg hsuspended, Bool.eq_false_iff.mpr hsuspended, Bool.not_false, Bool.true_and]
  by_cases hbackoff : backoffDefers parseTime policy input replayed.current = true
  · rw [if_pos hbackoff, hbackoff]
    exact ⟨fun _ hends => Bool.false_ne_true hends.1, fun _ => hfailed⟩
  rw [if_neg hbackoff, Bool.eq_false_iff.mpr hbackoff, Bool.not_false]
  have hsnapshot : replayed.store.Watches others replayed.current.lane_id replayed.current := by
    rw [hown]
    exact hwatches
  refine Iff.trans (follow_failed_iff hsnapshot hworks _ ?_ ?_) ?_
  · rfl
  · exact hfailed
  exact ⟨fun hrefuses hends => hrefuses hends.2, fun hends hrefuses => hends ⟨rfl, hrefuses⟩⟩

end

end Pass

/-! ## Queries -/

/-- The observation that a replay came by is the answer to a query for the lane that it noted. -/
def Replay.Notes (replay : Replay) (lane_id : String) : Prop :=
  ∀ observation, replay.revalidated = some observation → ∃ consult ∈ replay.consults,
    consult.answer = .ok observation ∧ consult.before.lane_id = lane_id

namespace Replay

variable (x : Libraries) (around : Surroundings) (now : String) {others : OrdMap String LaneRecord}
  {lane_id : String} {replay replay' : Replay}

theorem Notes.of_eq (h : replay.Notes lane_id) (hrevalidated : replay'.revalidated = replay.revalidated)
    (hconsults : replay'.consults = replay.consults) : replay'.Notes lane_id := by
  intro observation hsome
  rw [hconsults]
  exact h observation (hrevalidated ▸ hsome)

theorem deliver_notes (h : replay.Notes lane_id) (send : Send) (alert : PendingAlert) :
    (replay.deliver around now send alert).1.Notes lane_id := by
  unfold deliver
  dsimp only
  split_ifs
  · exact h.of_eq rfl rfl
  · split
    · exact h.of_eq rfl rfl
    · split_ifs
      all_goals exact h.of_eq rfl rfl

theorem decided_notes (h : replay.Notes lane_id) (alert : PendingAlert) (authoritative : Observation) :
    (replay.decided around now alert authoritative).1.Notes lane_id := by
  unfold decided
  split
  · exact h
  · exact h
  · dsimp only
    split
    all_goals exact h.of_eq rfl rfl

/-- What a replay noted last is an answer for the lane at hand. -/
theorem notes_noted (hown : replay.current.lane_id = lane_id) (store : LaneStore) (after : LaneRecord)
    (observation : Observation) : (mk store after (some observation)
      (replay.consults ++ [⟨true, now, .ok observation, replay.current, after⟩])).Notes lane_id := by
  rintro other ⟨⟩
  exact ⟨_, mem_append_right _ mem_cons_self, rfl, hown⟩

theorem revalidate_notes (h : replay.Notes lane_id) (hown : replay.current.lane_id = lane_id) (send : Send)
    (alert : PendingAlert) : (replay.revalidate x around now send alert).1.Notes lane_id := by
  unfold revalidate
  cases send.answer with
  | error error =>
    intro observation hsome
    obtain ⟨consult, hmem, hconsult⟩ := h observation hsome
    exact ⟨consult, mem_append_left _ hmem, hconsult⟩
  | ok observation =>
    set authoritative := observation.sanitizeSelection
    dsimp only
    by_cases hrevision : replay.current.sdk_revision < authoritative.revision
    · rw [if_pos hrevision]
      cases hanswer : (replay.store.mutate around replay.current.lane_id replay.current.revision now
          (applyObservation x authoritative now)).2 with
      | error error => exact notes_noted now hown _ _ authoritative
      | ok updated => exact decided_notes around now (notes_noted now hown _ _ authoritative) alert authoritative
    · rw [if_neg hrevision]
      exact decided_notes around now (notes_noted now hown _ _ authoritative) alert authoritative

theorem sendOne_notes (h : replay.Notes lane_id)
    (hwatches : replay.store.Watches others lane_id replay.current) (hworks : around.Works) (send : Send)
    (alert : PendingAlert) : (replay.sendOne x around now send alert).1.Notes lane_id := by
  obtain rfl := hwatches.own
  obtain ⟨record, hmutated, -⟩ := mutate_bookkeeps hwatches hworks replay.current.revision now
    (notePendingAlertAttempt_bookkeeps alert.event_id)
  unfold sendOne
  dsimp only
  cases hanswer : (replay.store.mutate around replay.current.lane_id replay.current.revision now
      (notePendingAlertAttempt alert.event_id)).2 with
  | error error => exact h.of_eq rfl rfl
  | ok updated =>
    obtain rfl := hmutated.answered updated hanswer
    dsimp only
    have hown := hmutated.watches.own
    have hattempt : Replay.Notes { replay with
        store := (replay.store.mutate around replay.current.lane_id replay.current.revision now
          (notePendingAlertAttempt alert.event_id)).1
        current := updated.1 } replay.current.lane_id := h.of_eq rfl rfl
    split_ifs
    · have hchecked := revalidate_notes x around now hattempt hown send alert
      split
      · exact deliver_notes around now hchecked send alert
      · exact hchecked
    · exact deliver_notes around now hattempt send alert

/-- A replay notes every query that it learns from. -/
theorem run_notes (h : replay.Notes lane_id) (hwatches : replay.store.Watches others lane_id replay.current)
    (hworks : around.Works) (sends : List Send) : (replay.run x around now sends).Notes lane_id := by
  induction sends generalizing replay with
  | nil => exact h
  | cons send sends ih =>
    unfold run
    split
    · exact h
    · next alert _ =>
      have hsent := sendOne_notes x around now h hwatches hworks send alert
      obtain ⟨consults, hgoes⟩ := sendOne_goes (x := x) now hwatches hworks send alert
      dsimp only
      split
      · exact hsent
      · exact ih hsent hgoes.watches

end Replay

/-! ## Stores of many lanes -/

/-- How a store keeps its lanes: every lane once, under its own identifier, which is no alias; its
session has a valid identifier, and its count of episodes is a `u64`. -/
structure LaneStore.WellKept (store : LaneStore) : Prop where
  nodup : store.state.lanes.keys.Nodup
  lane : ∀ lane_id record, (lane_id, record) ∈ store.state.lanes → record.lane_id = lane_id ∧
    store.state.canonicalLaneId lane_id = lane_id ∧ validId record.sdk_session_id = true ∧
      record.endpoint_episode ≤ U64_MAX

/-- The store has this record for its lane, among its other lanes. -/
def LaneStore.Has (store : LaneStore) (record : LaneRecord) : Prop :=
  store.Watches store.state.lanes record.lane_id record

namespace LaneStore

variable {store : LaneStore} {record : LaneRecord}

theorem WellKept.has (h : store.WellKept) (hrecord : record ∈ store.watches) : store.Has record := by
  obtain ⟨⟨lane_id, record⟩, hmem, rfl⟩ := mem_map.mp (mem_of_mem_filter hrecord)
  obtain ⟨hown, hcanonical, hsession, hbounded⟩ := h.lane lane_id record hmem
  subst hown
  exact ⟨(insert_get (get_of_mem h.nodup hmem)).symm, rfl, hcanonical, hsession, hbounded⟩

theorem WellKept.nodup_watches (h : store.WellKept) : (store.watches.map lane_id).Nodup := by
  have hids : store.state.lanes.values.map lane_id = store.state.lanes.keys := by
    unfold values OrdMap.keys
    rw [map_map]
    exact map_congr_left fun lane hlane => (h.lane lane.1 lane.2 hlane).1
  have hall : (store.state.lanes.values.map lane_id).Nodup := hids ▸ h.nodup
  exact hall.sublist (filter_sublist.map lane_id)

theorem Has.get (h : store.Has record) : store.state.lanes.get record.lane_id = some record := by
  have hget := Watches.get h
  rwa [h.canonical] at hget

end LaneStore

namespace Pass

section

variable (x : Libraries) (parseTime : String → Option ℤ) (policy : PollingPolicy)
  (input : PassInput) {pass : Pass} {record other : LaneRecord}

/-- What the pass does at one lane leaves the other lanes as they are. -/
theorem reconcileLane_has (hworks : input.around.Works) (h : pass.store.Has record)
    (hother : pass.store.Has other) (hne : other.lane_id ≠ record.lane_id) :
    (pass.reconcileLane x parseTime policy input record).store.Has other := by
  obtain ⟨record', consults, hgoes⟩ := reconcileLane_goes (x := x) h hworks parseTime policy
  have hlanes := hgoes.watches.lanes
  have hget : (pass.reconcileLane x parseTime policy input record).store.state.lanes.get
      other.lane_id = some other := by
    rw [hlanes, get_insert_ne _ _ hne]
    exact hother.get
  have haliases := reconcileLane_sameAliases x input parseTime policy pass record
  refine ⟨(insert_get hget).symm, rfl, ?_, hother.session, hother.bounded⟩
  unfold StateFile.canonicalLaneId
  rw [haliases]
  exact hother.canonical

/-- A pass over some lanes. -/
abbrev across (pass : Pass) (records : List LaneRecord) : Pass :=
  records.foldl (fun pass record => pass.reconcileLane x parseTime policy input record) pass

theorem over_append (pass : Pass) (records others : List LaneRecord) :
    pass.across x parseTime policy input (records ++ others) =
      (pass.across x parseTime policy input records).across x parseTime policy input others :=
  foldl_append

/-- A pass that has ended does nothing more. -/
theorem over_ended (records : List LaneRecord) (hfailed : pass.failed ≠ none) :
    pass.across x parseTime policy input records = pass := by
  have hrests (record : LaneRecord) : pass.reconcileLane x parseTime policy input record = pass := by
    unfold reconcileLane
    rw [if_pos (Option.isSome_iff_ne_none.mpr hfailed)]
  induction records with
  | nil => rfl
  | cons record records ih =>
    rw [across, foldl_cons, hrests]
    exact ih

variable {records : List LaneRecord}

/-- Lanes that are still to come are as they were. -/
theorem over_has (hworks : input.around.Works)
    (hrecords : ∀ record ∈ records, pass.store.Has record) (hother : pass.store.Has other)
    (hnodup : ((records ++ [other]).map lane_id).Nodup) :
    (pass.across x parseTime policy input records).store.Has other := by
  induction records generalizing pass with
  | nil => exact hother
  | cons record records ih =>
    rw [cons_append, map_cons, nodup_cons, map_append, mem_append] at hnodup
    have hne : other.lane_id ≠ record.lane_id := by
      intro hsame
      exact hnodup.1 (.inr (by rw [map_singleton, mem_singleton, hsame]))
    have hrecord := hrecords record mem_cons_self
    rw [← map_append] at hnodup
    refine ih (fun later hlater => ?_) (reconcileLane_has x parseTime policy input hworks hrecord hother hne) hnodup.2
    refine reconcileLane_has x parseTime policy input hworks hrecord
      (hrecords later (mem_cons_of_mem _ hlater)) fun hsame => hnodup.1 (.inl ?_)
    rw [← hsame]
    exact mem_map_of_mem hlater

/-- A pass keeps the consults that it noted. -/
theorem over_consults (hworks : input.around.Works)
    (hrecords : ∀ record ∈ records, pass.store.Has record) (hnodup : (records.map lane_id).Nodup) :
    pass.consults ⊆ (pass.across x parseTime policy input records).consults := by
  induction records generalizing pass with
  | nil => exact Subset.refl _
  | cons record records ih =>
    have hrecord := hrecords record mem_cons_self
    obtain ⟨record', consults, hgoes⟩ := reconcileLane_goes (x := x) hrecord hworks parseTime policy
    rw [map_cons, nodup_cons] at hnodup
    have hrest := ih (fun later hlater => reconcileLane_has x parseTime policy input hworks hrecord
      (hrecords later (mem_cons_of_mem _ hlater)) fun hsame => hnodup.1 (by
        rw [← hsame]
        exact mem_map_of_mem hlater)) hnodup.2
    refine Subset.trans ?_ hrest
    rw [hgoes.appended]
    exact subset_append_left _ _

/-- What makes a lane due. -/
theorem due_iff {snapshot : LaneRecord} : snapshot.due parseTime policy input = true ↔
    ¬ ((snapshot.terminal_disposition.map kind) = some .retired ∧ snapshot.pending_alerts.isEmpty = true) ∧
      ¬ (snapshot.polling_suspended && suspensionDefers parseTime policy input snapshot) = true ∧
        ¬ backoffDefers parseTime policy input snapshot = true := by
  unfold due
  rw [Bool.and_eq_true, Bool.and_eq_true, Bool.not_eq_true', Bool.not_eq_true', Bool.not_eq_true',
    ← Bool.not_eq_true, ← Bool.not_eq_true, ← Bool.not_eq_true, and_assoc, Bool.and_eq_true, decide_eq_true_eq]

/-- A lane that is due is asked about. -/
theorem reconcileLane_asks (hworks : input.around.Works) (h : pass.store.Has record) (hfailed : pass.failed = none)
    (hdue : (pass.visit x input record).current.due parseTime policy input = true) :
    ∃ consult ∈ (pass.reconcileLane x parseTime policy input record).consults,
      consult.before.lane_id = record.lane_id ∧ consult.answer =
        answerFor (input.lanes record.lane_id) (pass.visit x input record).revalidated := by
  have hstart : ({ store := pass.store, current := record } : Replay).store.Watches
    pass.store.state.lanes record.lane_id record := h
  obtain ⟨consults, hrun⟩ := Replay.run_goes x input.now hworks (input.lanes record.lane_id).before hstart
  have hwatches : (pass.visit x input record).store.Watches pass.store.state.lanes record.lane_id
    (pass.visit x input record).current := hrun.watches
  have hnotes : (pass.visit x input record).Notes record.lane_id :=
    Replay.run_notes x input.around input.now (fun _ hsome => by cases hsome) hstart hworks _
  have hvisit : Replay.run x input.around input.now { store := pass.store, current := record }
      (input.lanes record.lane_id).before = pass.visit x input record := rfl
  obtain ⟨hretired, hsuspended, hbackoff⟩ := (due_iff parseTime policy input).mp hdue
  unfold reconcileLane
  rw [if_neg (by rw [hfailed]; exact Bool.false_ne_true)]
  dsimp only
  rw [hvisit, if_neg hretired, if_neg hsuspended, if_neg hbackoff]
  set replayed := pass.visit x input record with hreplayed
  set answer := answerFor (input.lanes record.lane_id) replayed.revalidated with hanswer
  have hown : replayed.current.lane_id = record.lane_id := hwatches.own
  obtain ⟨after, hreacted, -⟩ := react_spec x policy hwatches hworks answer
  have hfollowed {noted : Pass}
      (hnoted : noted.store = (replayed.store.react x policy input replayed.current answer).1) :
      noted.consults ⊆ (noted.follow x policy input (input.lanes record.lane_id) replayed.current
        (replayed.store.react x policy input replayed.current answer).2).consults := by
    obtain ⟨record', more, hmore⟩ := follow_goes policy (hnoted ▸ hreacted.watches) hworks
      (input.lanes record.lane_id) hown _ hreacted.answered
    rw [hmore.appended]
    exact subset_append_left _ _
  suffices hasked : ∃ consult ∈ pass.consults ++ replayed.consults ++
      (if replayed.revalidated.isSome then [] else [Consult.mk false input.now answer replayed.current
        (((replayed.store.react x policy input replayed.current answer).1.state.record
          replayed.current.lane_id).getD replayed.current)]),
      consult.before.lane_id = record.lane_id ∧ consult.answer = answer by
    obtain ⟨consult, hmem, hconsult⟩ := hasked
    exact ⟨consult, hfollowed rfl hmem, hconsult⟩
  cases hrevalidated : replayed.revalidated with
  | some observation =>
    obtain ⟨consult, hmem, hconsult, hlane⟩ := hnotes observation hrevalidated
    refine ⟨consult, mem_append_left _ (mem_append_right _ hmem), hlane, ?_⟩
    rw [hconsult, hanswer, hrevalidated]
    rfl
  | none => exact ⟨_, mem_append_right _ mem_cons_self, hown, rfl⟩

end

end Pass

/-! ## Isolation -/

/-- A pass goes over all lanes: it ends well, and every lane that is due is asked about. -/
def LanesIsolated (x : Libraries) (parseTime : String → Option ℤ) (policy : PollingPolicy)
    (input : PassInput) (store : LaneStore) : Prop :=
  (pollOnce x parseTime policy input store).failed = none ∧ ∀ pre record post, store.watches = pre ++ record :: post →
      let visit := ((({ store := store } : Pass).across x parseTime policy input pre).visit x input record)
      visit.current.due parseTime policy input = true → ∃ consult ∈ (pollOnce x parseTime policy input store).consults,
          consult.before.lane_id = record.lane_id ∧
            consult.answer = Pass.answerFor (input.lanes record.lane_id) visit.revalidated

/-- A pass is isolated exactly if it does not end at any lane that it comes to. -/
theorem lanes_isolated_iff (x : Libraries) (parseTime : String → Option ℤ) {policy : PollingPolicy}
    (hpolicy : policy.complaint = none) {input : PassInput} (hworks : input.around.Works)
    {store : LaneStore} (hkept : store.WellKept) :
    LanesIsolated x parseTime policy input store ↔ ∀ pre record post, store.watches = pre ++ record :: post →
        ¬ (({ store := store } : Pass).across x parseTime policy input pre).EndsAt x parseTime policy input
          record := by
  have hpoll : pollOnce x parseTime policy input store =
      ({ store := store } : Pass).across x parseTime policy input store.watches := by
    unfold pollOnce
    rw [hpolicy]
  -- Lanes that are still to come are as they were.
  have hhas {pre rest : List LaneRecord} {record : LaneRecord}
      (hsplit : store.watches = pre ++ rest) (hmem : record ∈ rest) :
      (({ store := store } : Pass).across x parseTime policy input pre).store.Has record := by
    have hsub : (pre ++ [record]).Sublist store.watches :=
      hsplit ▸ (Sublist.refl pre).append (singleton_sublist.mpr hmem)
    refine Pass.over_has x parseTime policy input hworks (fun earlier hearlier => ?_) ?_
      (hkept.nodup_watches.sublist (hsub.map LaneRecord.lane_id))
    · exact hkept.has (hsplit ▸ mem_append_left _ hearlier)
    · exact hkept.has (hsplit ▸ mem_append_right _ hmem)
  have hover {pre : List LaneRecord} {record : LaneRecord} {post : List LaneRecord}
      (hsplit : store.watches = pre ++ record :: post) :
      pollOnce x parseTime policy input store =
        ((({ store := store } : Pass).across x parseTime policy input pre).reconcileLane x parseTime policy
          input record).across x parseTime policy input post := by
    rw [hpoll, hsplit, Pass.over_append]
    rfl
  constructor
  · rintro ⟨hends, -⟩ pre record post hsplit hrefused
    have hgoes : (({ store := store } : Pass).across x parseTime policy input pre).failed = none := by
      by_contra hfailed
      rw [hpoll, hsplit, Pass.over_append, Pass.over_ended x parseTime policy input _ hfailed] at hends
      exact hfailed hends
    have hfailed := mt (Pass.reconcileLane_failed_iff (hhas hsplit mem_cons_self) hworks hgoes).mp
      (not_not.mpr hrefused)
    rw [hover hsplit, Pass.over_ended x parseTime policy input post hfailed] at hends
    exact hfailed hends
  · intro hgoes
    -- The pass has not ended before any lane, by induction on the lanes before it.
    have hopen : ∀ pre, pre <+: store.watches →
        (({ store := store } : Pass).across x parseTime policy input pre).failed = none := by
      intro pre
      induction pre using List.reverseRecOn with
      | nil => exact fun _ => rfl
      | append_singleton pre record ih =>
        rintro ⟨post, hsplit⟩
        have hsplit' : store.watches = pre ++ record :: post := by
          rw [← hsplit, append_assoc, singleton_append]
        have hbefore := ih ⟨record :: post, hsplit'.symm⟩
        rw [Pass.over_append]
        exact (Pass.reconcileLane_failed_iff (hhas hsplit' mem_cons_self) hworks hbefore).mpr
          (hgoes pre record post hsplit')
    refine ⟨hpoll ▸ hopen store.watches (prefix_refl _), ?_⟩
    intro pre record post hsplit visit hdue
    obtain ⟨consult, hmem, hconsult⟩ := Pass.reconcileLane_asks x parseTime policy input hworks
      (hhas hsplit mem_cons_self) (hopen pre ⟨record :: post, hsplit.symm⟩) hdue
    refine ⟨consult, ?_, hconsult⟩
    rw [hover hsplit]
    -- What is noted stays noted.
    have hsplit' : store.watches = (pre ++ [record]) ++ post := by
      rw [hsplit, append_assoc, singleton_append]
    have hnodup := hkept.nodup_watches
    rw [hsplit', map_append] at hnodup
    have hlater : ∀ later ∈ post, ((({ store := store } : Pass).across x parseTime policy input
        pre).reconcileLane x parseTime policy input record).store.Has later := by
      intro later hlater
      have hstays := hhas hsplit' hlater
      rwa [Pass.over_append] at hstays
    exact Pass.over_consults x parseTime policy input hworks hlater
      (nodup_append.mp hnodup).2.1 hmem

namespace Sample

/-- An alert that waits for delivery. -/
def waitingAlert (index : ℕ) : PendingAlert :=
  ⟨"event-" ++ toString index, "workflow.gate", .object [], "2026-08-23T12:00:00Z", 0, none, []⟩

/-- The sessions `s` and `t` are watched, and the alerts of `s` fill its queue. -/
def crowdedStore : LaneStore :=
  let first := (emptyStore.registerLane (failingAt []) laneId ⟨"s", none, none, none, none⟩
    "2026-08-23T12:00:00Z").1
  let second := (first.registerLane (failingAt []) laneId ⟨"t", none, none, none, none⟩
    "2026-08-23T12:00:00Z").1
  { second with state := { second.state with
      lanes := second.state.lanes.map fun lane => if lane.1 = laneId "s" then
        (lane.1, { lane.2 with pending_alerts := (List.range 64).map waitingAlert }) else lane } }

theorem crowdedStore_wellKept : crowdedStore.WellKept := by
  have hnodup : crowdedStore.state.lanes.keys.Nodup := by decide +kernel
  have hlanes : crowdedStore.state.lanes.all fun lane => decide (lane.2.lane_id = lane.1) &&
      decide (crowdedStore.state.canonicalLaneId lane.1 = lane.1) &&
        validId lane.2.sdk_session_id && decide (lane.2.endpoint_episode ≤ U64_MAX) := by
    decide +kernel
  refine ⟨hnodup, fun lane_id record hlane => ?_⟩
  have hkept := all_eq_true.mp hlanes (lane_id, record) hlane
  simp only [Bool.and_eq_true, decide_eq_true_eq] at hkept
  exact ⟨hkept.1.1.1, hkept.1.1.2, hkept.1.2, hkept.2⟩

/-- An outage of the lane whose queue is full keeps the other lane from being asked about. -/
theorem full_queue_ends_pass : ¬ ∀ (input : PassInput) (store : LaneStore), input.around.Works →
    store.WellKept → LanesIsolated libraries parseTime {} input store := by
  intro hclaim
  have hisolated := hclaim (passWith 10 "2026-08-23T12:10:00Z" (.error (.timeout "no answer")))
    crowdedStore (fun _ => rfl) crowdedStore_wellKept
  have hfailed : ((pollOnce libraries parseTime {}
      (passWith 10 "2026-08-23T12:10:00Z" (.error (.timeout "no answer"))) crowdedStore).failed).isNone =
        false := by decide +kernel
  rw [hisolated.1] at hfailed
  cases hfailed

/-- Observations are asked for at all lanes, full or not. -/
theorem observed_lanes_isolated : LanesIsolated libraries parseTime {}
    (passWith 10 "2026-08-23T12:10:00Z" (.ok (observed 1 .running .live))) crowdedStore := by
  refine (lanes_isolated_iff libraries parseTime rfl (fun _ => rfl) crowdedStore_wellKept).mpr ?_
  rintro pre record post - ⟨-, hrefuses⟩
  revert hrefuses
  unfold Pass.answerFor
  split
  · exact id
  · exact id

end Sample

end Clawhip.Gjc
