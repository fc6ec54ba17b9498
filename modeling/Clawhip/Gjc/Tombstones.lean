import Clawhip.Gjc.Episodes
import Clawhip.Gjc.LaneFailures
import Clawhip.Gjc.LaneOps

/-!
# Tombstones

A lane whose watch was removed is a tombstone: the reconciler does not visit it any more. The watch of a
lane is removed only when the lane is terminal and has no alerts, but the operations that stage alerts
do not ask whether the lane is a tombstone. `tombstones_quiet` says what keeps tombstones quiet all the
same.
-/

namespace Clawhip.Gjc

open Option OrdMap Machine LaneRecord

/-! ## Operations -/

/-- An operation on a lane that goes through `mutate`. -/
inductive LaneOp where
  | applyObservation (observation : Observation)
  | stageBridgeFailure (failure : IncomingEvent)
  | markUnavailable (reason : String) (suspend_after : ℕ)
  | enqueueEndpointFailure (reason : String)
  | markRuntimeGone (evidence : String)
  | removeGhostWatch (reason : String)
  | reclaimTombstone (endpoint_generation : ℕ) (worktree : Option String)
  | retireLane (reason : String)
  | noteEndpointRotation (endpoint_generation : ℕ)
  | setSdkRevisionIf (expected_sdk_revision new_sdk_revision : ℕ)
  | resumeSuspended
  | claimOwnership (owner_id : String)
  | reconcilePrBinding (resolved : Option PrState)
  | notePendingAlertAttempt (event_id : String)
  | suppressHistoricalFailureAlert (alert : PendingAlert) (current : Observation)

/-- A closure whose answer is not looked at. -/
def Closure.forget {β : Type} (apply : Closure β) : Closure Unit := fun record =>
  (apply record).map fun applied => (applied.1, applied.2.1, ())

/-- What an operation does to the record. -/
def LaneOp.closure (x : Libraries) (now : String) : LaneOp → Closure Unit
  | applyObservation observation => (Gjc.applyObservation x observation now).forget
  | stageBridgeFailure failure => (Gjc.stageBridgeFailure x failure now).forget
  | markUnavailable reason suspend_after =>
    (Gjc.markUnavailable x reason suspend_after now).forget
  | enqueueEndpointFailure reason => Gjc.enqueueEndpointFailure x reason now
  | markRuntimeGone evidence => Gjc.markRuntimeGone evidence now
  | removeGhostWatch reason => Gjc.removeGhostWatch reason now
  | reclaimTombstone endpoint_generation worktree =>
    Gjc.reclaimTombstone endpoint_generation worktree
  | retireLane reason => Gjc.retireLane reason now
  | noteEndpointRotation endpoint_generation => Gjc.noteEndpointRotation endpoint_generation
  | setSdkRevisionIf expected_sdk_revision new_sdk_revision =>
    Gjc.setSdkRevisionIf expected_sdk_revision new_sdk_revision
  | resumeSuspended => Gjc.resumeSuspended
  | claimOwnership owner_id => Gjc.claimOwnership owner_id now
  | reconcilePrBinding resolved => (Gjc.reconcilePrBinding resolved now).forget
  | notePendingAlertAttempt event_id => Gjc.notePendingAlertAttempt event_id
  | suppressHistoricalFailureAlert alert current =>
    Gjc.suppressHistoricalFailureAlert alert current

/-- An operation of the store, made with the current revision of its lane. -/
inductive StoreOp where
  | registerLane (request : RegistrationRequest)
  | onLane (lane_id : String) (op : LaneOp)
  | acknowledgePendingAlert (lane_id event_id : String)
  | updatePendingAlertDelivery (lane_id event_id destination : String) (next_state : DeliveryState)

/-- The revision that a caller reads before its call. -/
def LaneStore.currentRevision (store : LaneStore) (lane_id : String) : ℕ :=
  ((store.state.record lane_id).map LaneRecord.revision).getD 0

/-- What an operation is called with besides its arguments. -/
structure OpInput where
  op : StoreOp
  now : String
  around : Surroundings

/-- Make a call of an operation. -/
def LaneStore.operate (x : Libraries) (gjc_lane_id : String → String) (store : LaneStore)
    (input : OpInput) : LaneStore :=
  match input.op with
  | .registerLane request => (store.registerLane input.around gjc_lane_id request input.now).1
  | .onLane lane_id op => (store.mutate input.around lane_id (store.currentRevision lane_id)
      input.now (op.closure x input.now)).1
  | .acknowledgePendingAlert lane_id event_id => (store.acknowledgePendingAlert input.around lane_id
      (store.currentRevision lane_id) event_id input.now).1
  | .updatePendingAlertDelivery lane_id event_id destination next_state =>
    (store.updatePendingAlertDelivery input.around lane_id event_id destination next_state).1

/-- The store as a machine that is given operations. -/
def operations (x : Libraries) (gjc_lane_id : String → String) :
    Machine LaneStore OpInput Unit where
  step store input := (store.operate x gjc_lane_id input, ())

/-! ## Quiet tombstones -/

def LanePhase.isTerminal : LanePhase → Bool
  | complete | failed | retired => true
  | _ => false

/-- A lane that is a tombstone is terminal and has no alerts. -/
structure LaneRecord.Rests (record : LaneRecord) : Prop where
  terminal : record.watch_removed_at.isSome = true → record.terminal_disposition.isSome = true
  alerts : record.watch_removed_at.isSome = true → record.pending_alerts = []
  phase : record.watch_removed_at.isSome = true → record.phase.any LanePhase.isTerminal = true

/-- Every lane of the store that is a tombstone is quiet. -/
def LaneStore.Rests (store : LaneStore) : Prop := ∀ lane ∈ store.state.lanes, lane.2.Rests

/-- An observation shows no failed turn, no stall and no gate that the lane does not know. -/
def Observation.ShowsNothingNew (observation : Observation) (record : LaneRecord) (now : String) :
    Prop :=
  observation.newFailedTurn record = false ∧
    observation.stalls record (observationSnapshot record (some record) observation now none) = false ∧
    observation.newGateEpisode record = false

/-- An operation that may be made on a tombstone. -/
def LaneOp.Spares (op : LaneOp) (record : LaneRecord) (now : String) : Prop :=
  match op with
  | .markUnavailable .. => False
  | .enqueueEndpointFailure _ => record.endpoint_alerted = true
  | .applyObservation observation => observation.sanitizeSelection.ShowsNothingNew record now
  | .stageBridgeFailure failure => ∀ session_id turn_id revision,
      textOf failure.payload "session_id" = some session_id → textOf failure.payload "turn_id" = some turn_id →
      (failure.payload.get "sdk_revision").bind Json.asU64 = some revision →
      (bridgeFailureObservation failure record session_id turn_id
        revision).sanitizeSelection.ShowsNothingNew record now
  | _ => True

/-- A call spares the tombstones: it is not one that would stage an alert on a tombstone or take it for
a watched lane. -/
def SparesTombstones (store : LaneStore) (input : OpInput) : Prop :=
  match input.op with
  | .onLane lane_id op => ∀ record, store.state.record lane_id = some record →
      record.watch_removed_at.isSome = true → op.Spares record input.now
  | _ => True

/-- A tombstone is claimed back. -/
def StoreOp.reclaims : StoreOp → Bool
  | onLane _ (.reclaimTombstone ..) => true
  | _ => false

/-! ## One update -/

/-- What an update leaves of a record as far as tombstones are concerned: the terminal disposition
stays, and a record that rests goes on to rest. -/
structure LaneRecord.LeftAlone (record record' : LaneRecord) : Prop where
  terminal : record.terminal_disposition.isSome = true →
    record'.terminal_disposition = record.terminal_disposition
  rests : record.Rests → record'.Rests

variable {record record' : LaneRecord} {now reason : String} {observation : Observation} {x : Libraries}
  {audit : List (AuditKind × String)} {answer : Unit}

/-- An update that keeps the watch, the disposition and the phase, and stages nothing. -/
theorem LaneRecord.LeftAlone.of_eq (watch : record'.watch_removed_at = record.watch_removed_at)
    (terminal : record'.terminal_disposition = record.terminal_disposition)
    (phase : record'.phase = record.phase) (alerts : record.pending_alerts = [] → record'.pending_alerts = []) :
    record.LeftAlone record' := by
  refine ⟨fun _ => terminal, fun hrests => ⟨?_, ?_, ?_⟩⟩
  · rw [watch, terminal]
    exact hrests.terminal
  · rw [watch]
    exact fun hwatch => alerts (hrests.alerts hwatch)
  · rw [watch, phase]
    exact hrests.phase

/-- An update of a lane that is watched, and that stays watched. -/
theorem LaneRecord.LeftAlone.of_watched (watch : record'.watch_removed_at = record.watch_removed_at)
    (watched : record.watch_removed_at.isSome = false) (terminal : record.terminal_disposition.isSome = true →
      record'.terminal_disposition = record.terminal_disposition) : record.LeftAlone record' := by
  have hnot : record'.watch_removed_at.isSome ≠ true := by
    rw [watch, watched]
    exact Bool.false_ne_true
  exact ⟨terminal, fun _ => ⟨fun h => absurd h hnot, fun h => absurd h hnot, fun h => absurd h hnot⟩⟩

/-- Nothing is staged for an observation that shows nothing new on a terminal lane. -/
theorem stageAlerts_nothing {before : LaneRecord} (hterminal : before.terminal_disposition.isSome = true)
    (hnothing : observation.ShowsNothingNew before now) : observation.stageAlerts x before record now = .ok record := by
  obtain ⟨hfailed, hstalls, hgate⟩ := hnothing
  have hset : observation.terminalSet before = none := by
    unfold Observation.terminalSet
    rw [if_neg (by simpa [isSome_iff_ne_none] using hterminal)]
  have hstalls' : observation.stalls before
      (observationSnapshot record (some before) observation now none) = false := hstalls
  unfold Observation.stageAlerts
  simp only [hset, hfailed, hstalls', hgate, isSome_none, Bool.or_self, Bool.false_eq_true, if_false]
  rfl

/-- An observation keeps the watch and the disposition; on a tombstone it must show nothing new. -/
theorem applyObservation_leftAlone {answer : ApplyOutcome}
    (h : applyObservation x observation now record = .ok (record', audit, answer))
    (hspares : record.watch_removed_at.isSome = true →
      observation.sanitizeSelection.ShowsNothingNew record now) : record.LeftAlone record' := by
  obtain ⟨_, -, h⟩ := bind_eq_ok.mp h
  obtain ⟨last_gate, -, h⟩ := bind_eq_ok.mp h
  obtain ⟨staged, hstaged, h⟩ := bind_eq_ok.mp h
  obtain rfl : staged = record' := congrArg Prod.fst (Except.ok.inj h)
  set evidence := observation.sanitizeSelection.evidence record last_gate now with hevidence
  have hsame : evidence.OnlyAlerts staged := Observation.stageAlerts_ok hstaged
  have hwatch : staged.watch_removed_at = record.watch_removed_at := by
    rw [hsame]
    rfl
  have hterminal (hset : record.terminal_disposition.isSome = true) :
      staged.terminal_disposition = record.terminal_disposition := by
    rw [hsame]
    rw [hevidence]
    unfold Observation.evidence Observation.terminalSet
    rw [if_neg (by simpa [isSome_iff_ne_none] using hset)]
  cases hremoved : record.watch_removed_at.isSome with
  | false => exact .of_watched hwatch hremoved hterminal
  | true =>
    refine ⟨hterminal, fun hrests => ?_⟩
    have hset := hrests.terminal hremoved
    rw [stageAlerts_nothing hset (hspares hremoved)] at hstaged
    obtain rfl : evidence = staged := Except.ok.inj hstaged
    refine ⟨fun _ => ?_, fun _ => hrests.alerts hremoved, fun _ => ?_⟩
    · rw [hterminal hset]
      exact hset
    · have hphase : evidence.phase = some .retired := by
        rw [hevidence]
        unfold Observation.evidence classifyLane
        dsimp only
        rw [if_pos hremoved]
      rw [hphase]
      rfl

variable {β : Type}

/-- The closure of an operation, but for its answer. -/
theorem Closure.forget_ok {apply : Closure β} (h : apply.forget record = .ok (record', audit, answer)) :
    ∃ answer, apply record = .ok (record', audit, answer) := by
  unfold forget at h
  cases happly : apply record with
  | error reason =>
    rw [happly] at h
    cases h
  | ok applied =>
    rw [happly] at h
    cases h
    exact ⟨applied.2.2, rfl⟩

/-- A record after an outage was noted; only a lane that is watched may get an alert. -/
theorem alertOutage_leftAlone (h : record.alertOutage x reason now = .ok record')
    (hspares : record.watch_removed_at.isSome = true → record.endpoint_alerted = true) : record.LeftAlone record' := by
  obtain ⟨heq, -⟩ := alertOutage_ok h
  cases hremoved : record.watch_removed_at.isSome with
  | false => exact .of_watched (by rw [heq]) hremoved fun _ => by rw [heq]
  | true =>
    rw [alertOutage_alerted x reason now (hspares hremoved)] at h
    cases h
    exact .of_eq rfl rfl rfl id

variable {α : Type}

theorem required_ok {error : String} {found : Option α} {value : α}
    (h : required error found = .ok value) : found = some value := by
  cases found with
  | none => cases h
  | some found => rw [Except.ok.inj h]

/-- A failure of the bridge is applied as the observation that it stands for. -/
theorem stageBridgeFailure_ok {failure : IncomingEvent}
    {applied : LaneRecord × List (AuditKind × String) × ApplyOutcome}
    (h : stageBridgeFailure x failure now record = .ok applied) :
    ∃ session_id turn_id revision, textOf failure.payload "session_id" = some session_id ∧
      textOf failure.payload "turn_id" = some turn_id ∧
      (failure.payload.get "sdk_revision").bind Json.asU64 = some revision ∧
      applyObservation x (bridgeFailureObservation failure record session_id turn_id revision) now
        record = .ok applied := by
  unfold stageBridgeFailure at h
  split at h
  · cases h
  · obtain ⟨session_id, hsession, h⟩ := bind_eq_ok.mp h
    obtain ⟨turn_id, hturn, h⟩ := bind_eq_ok.mp h
    obtain ⟨revision, hrevision, h⟩ := bind_eq_ok.mp h
    exact ⟨session_id, turn_id, revision, required_ok hsession, required_ok hturn, required_ok hrevision, h⟩

/-- A watch is removed only where the lane is terminal and has no alerts. -/
theorem removeGhostWatch_leftAlone (h : removeGhostWatch reason now record = .ok (record', audit, answer)) :
    record.LeftAlone record' := by
  unfold removeGhostWatch multiAudit at h
  cases hterminal : record.terminal_disposition with
  | none =>
    rw [hterminal] at h
    split_ifs at h
  | some disposition =>
    rw [hterminal] at h
    split_ifs at h with hremoved halerts
    cases h
    refine ⟨fun _ => hterminal.symm, fun _ => ⟨fun _ => rfl, fun _ => by simpa using halerts, fun _ => ?_⟩⟩
    cases disposition.kind
    all_goals rfl

/-- A lane that is retired keeps the disposition that it has. -/
theorem retireLane_leftAlone (h : retireLane reason now record = .ok (record', audit, answer)) :
    record.LeftAlone record' := by
  cases h
  have hkept (hset : record.terminal_disposition.isSome = true) : record.retired reason now = record := by
    unfold retired
    rw [if_neg (by simpa [isSome_iff_ne_none] using hset)]
  cases hremoved : record.watch_removed_at.isSome with
  | false =>
    refine .of_watched ?_ hremoved fun hset => by rw [hkept hset]
    unfold retired
    split_ifs
    all_goals rfl
  | true =>
    refine ⟨fun hset => by rw [hkept hset], fun hrests => ?_⟩
    rw [hkept (hrests.terminal hremoved)]
    refine ⟨fun _ => hrests.terminal hremoved, fun _ => hrests.alerts hremoved, fun _ => ?_⟩
    unfold classifyLane
    rw [if_pos hremoved]
    rfl

/-- An update leaves a tombstone alone that its operation spares, unless it claims it back. -/
theorem LaneOp.leftAlone {op : LaneOp} (h : op.closure x now record = .ok (record', audit, answer))
    (hspares : record.watch_removed_at.isSome = true → op.Spares record now)
    (hreclaims : ∀ endpoint_generation worktree,
      op ≠ .reclaimTombstone endpoint_generation worktree) : record.LeftAlone record' := by
  cases op with
  | applyObservation observation =>
    obtain ⟨answer, h⟩ := Closure.forget_ok h
    exact applyObservation_leftAlone h hspares
  | stageBridgeFailure failure =>
    obtain ⟨answer, h⟩ := Closure.forget_ok h
    obtain ⟨session_id, turn_id, revision, hsession, hturn, hrevision, happlied⟩ := stageBridgeFailure_ok h
    exact applyObservation_leftAlone happlied fun hremoved =>
      hspares hremoved session_id turn_id revision hsession hturn hrevision
  | markUnavailable reason suspend_after =>
    obtain ⟨answer, h⟩ := Closure.forget_ok h
    obtain ⟨applied, happlied, h⟩ := bind_eq_ok.mp h
    obtain ⟨heq, -⟩ := alertOutage_ok happlied
    cases h
    cases hremoved : record.watch_removed_at.isSome with
    | false => exact .of_watched (by rw [heq]) hremoved fun _ => by rw [heq]
    | true => exact absurd (hspares hremoved) id
  | enqueueEndpointFailure reason =>
    obtain ⟨applied, happlied, h⟩ := bind_eq_ok.mp h
    cases h
    exact alertOutage_leftAlone happlied hspares
  | markRuntimeGone evidence =>
    change Gjc.markRuntimeGone evidence now record = _ at h
    unfold Gjc.markRuntimeGone multiAudit at h
    split_ifs at h with hterminal
    cases h
    -- A lane without a disposition is no tombstone.
    refine ⟨fun hset => absurd hset hterminal, fun hrests => ?_⟩
    exact ⟨fun hwatch => absurd (hrests.terminal hwatch) hterminal,
      fun hwatch => absurd (hrests.terminal hwatch) hterminal, fun hwatch => absurd (hrests.terminal hwatch) hterminal⟩
  | removeGhostWatch reason => exact removeGhostWatch_leftAlone h
  | reclaimTombstone endpoint_generation worktree => exact absurd rfl (hreclaims endpoint_generation worktree)
  | retireLane reason => exact retireLane_leftAlone h
  | noteEndpointRotation endpoint_generation =>
    change Gjc.noteEndpointRotation endpoint_generation record = _ at h
    unfold Gjc.noteEndpointRotation multiAudit at h
    split_ifs at h
    all_goals
      cases h
      exact .of_eq rfl rfl rfl id
  | setSdkRevisionIf expected_sdk_revision new_sdk_revision =>
    change Gjc.setSdkRevisionIf expected_sdk_revision new_sdk_revision record = _ at h
    unfold Gjc.setSdkRevisionIf multiAudit at h
    split_ifs at h
    cases h
    exact .of_eq rfl rfl rfl id
  | resumeSuspended =>
    cases h
    exact .of_eq rfl rfl rfl id
  | claimOwnership owner_id =>
    change Gjc.claimOwnership owner_id now record = _ at h
    unfold Gjc.claimOwnership multiAudit at h
    split_ifs at h
    cases h
    exact .of_eq rfl rfl rfl id
  | reconcilePrBinding resolved =>
    obtain ⟨answer, h⟩ := Closure.forget_ok h
    unfold Gjc.reconcilePrBinding at h
    dsimp only at h
    split at h
    · cases h
    · split at h
      all_goals
        split_ifs at h
        all_goals
          cases h
          exact .of_eq rfl rfl rfl id
  | notePendingAlertAttempt event_id =>
    change Gjc.notePendingAlertAttempt event_id record = _ at h
    unfold Gjc.notePendingAlertAttempt multiAudit at h
    split_ifs at h
    cases h
    exact .of_eq rfl rfl rfl fun halerts => by rw [halerts]; rfl
  | suppressHistoricalFailureAlert alert current =>
    change Gjc.suppressHistoricalFailureAlert alert current record = _ at h
    unfold Gjc.suppressHistoricalFailureAlert multiAudit at h
    dsimp only at h
    split_ifs at h
    all_goals
      cases h
      exact .of_eq rfl rfl rfl fun halerts => by simp [halerts]

/-- A tombstone that is claimed back is none any more. -/
theorem reclaimTombstone_rests {endpoint_generation : ℕ} {worktree : Option String}
    (h : reclaimTombstone endpoint_generation worktree record = .ok (record', audit, answer)) : record'.Rests := by
  unfold reclaimTombstone multiAudit at h
  split_ifs at h
  cases h
  exact ⟨nofun, nofun, nofun⟩

/-! ## One operation -/

/-- How an operation makes the record of a lane from the one before: by its closure, or by a change of the
lane's alerts. -/
inductive Makes (x : Libraries) (now : String) (store : LaneStore) (lane_id : String)
    (record applied : LaneRecord) : StoreOp → Prop
  | closure {named : String} {op : LaneOp} {audit : List (AuditKind × String)}
      (hnamed : store.state.canonicalLaneId named = lane_id)
      (happly : op.closure x now record = .ok (applied, audit, ())) :
      Makes x now store lane_id record applied (.onLane named op)
  | acknowledge {named event_id : String}
      (happlied : applied = { record with
        pending_alerts := record.pending_alerts.filter fun alert =>
          decide (alert.event_id ≠ event_id) }) :
      Makes x now store lane_id record applied (.acknowledgePendingAlert named event_id)
  | deliver {named event_id destination : String} {next_state : DeliveryState} {clock : String}
      (happlied : applied = record.delivered event_id destination next_state clock) :
      Makes x now store lane_id record applied
        (.updatePendingAlertDelivery named event_id destination next_state)

/-- What an operation does to the lanes: nothing, or it registers a lane, or one of them gets another
record with the next revision. -/
inductive Operated (x : Libraries) (gjc_lane_id : String → String) (store store' : LaneStore)
    (input : OpInput) : Prop where
  | nothing (lanes : store'.state.lanes = store.state.lanes)
  | registers (request : RegistrationRequest) (hop : input.op = .registerLane request)
      (fresh : store.state.lanes.get (gjc_lane_id request.sdk_session_id) = none)
      (lanes : store'.state.lanes = store.state.lanes.insert (gjc_lane_id request.sdk_session_id)
        (request.newRecord input.around (gjc_lane_id request.sdk_session_id) input.now))
  | updates {lane_id : String} {record applied updated : LaneRecord} {clock : String}
      (hget : store.state.lanes.get lane_id = some record)
      (makes : Makes x input.now store lane_id record applied input.op)
      (hupdated : applied.bumped clock = .ok updated)
      (lanes : store'.state.lanes = store.state.lanes.insert lane_id updated)

/-- What an operation does to the lanes: nothing, or one of them gets another record, which rests if
tombstones are spared and has the disposition that it had. -/
inductive Touches (store store' : LaneStore) (spares : Prop) (reclaims : Bool) : Prop where
  | nothing (lanes : store'.state.lanes = store.state.lanes)
  | lane (lane_id : String) (record' : LaneRecord)
      (lanes : store'.state.lanes = store.state.lanes.insert lane_id record')
      (rests : spares → store.Rests → record'.Rests)
      (settled : spares → reclaims = false → ∀ record, store.state.lanes.get lane_id = some record →
        record.terminal_disposition.isSome = true → record'.terminal_disposition = record.terminal_disposition)

variable {lane_id : String} {store : LaneStore}

theorem LaneStore.Rests.get (h : store.Rests) (hget : store.state.lanes.get lane_id = some record) : record.Rests :=
  h (lane_id, record) (mem_of_get hget)

/-- A record with the next revision rests as before. -/
theorem LaneRecord.LeftAlone.bumped {applied updated : LaneRecord}
    (hbumped : applied.bumped now = .ok updated) (h : record.LeftAlone applied) : record.LeftAlone updated := by
  unfold LaneRecord.bumped at hbumped
  split_ifs at hbumped
  cases hbumped
  exact ⟨h.terminal, fun hrests => ⟨(h.rests hrests).terminal, (h.rests hrests).alerts, (h.rests hrests).phase⟩⟩

variable {reclaims : Bool} {spares : Prop}

/-- A lane whose record is left alone. -/
theorem Touches.of_leftAlone {store store' : LaneStore} (hget : store.state.lanes.get lane_id = some record)
    (hlanes : store'.state.lanes = store.state.lanes.insert lane_id record')
    (hleft : spares → record.LeftAlone record') : Touches store store' spares reclaims := by
  refine .lane lane_id record' hlanes (fun hs hr => (hleft hs).rests (hr.get hget)) ?_
  intro hs _ found hfound hset
  rw [hget] at hfound
  cases hfound
  exact (hleft hs).terminal hset

namespace LaneStore

variable (x : Libraries) (gjc_lane_id : String → String) {store : LaneStore} (store : LaneStore) (around : Surroundings)

/-- What is committed are the lanes that were asked for. -/
theorem commit_lanes (state : StateFile) (answer : α) :
    (store.commit around (.ok (.write state answer))).1.state.lanes = state.lanes :=
  (persist_kept { store with state := state } around).2.1

/-- The record that a mutation is about. -/
theorem recordAt_ok {state : StateFile} {expected_revision : ℕ}
    {record : LaneRecord} (h : state.recordAt lane_id expected_revision = .ok record) :
    state.lanes.get (state.canonicalLaneId lane_id) = some record := by
  unfold StateFile.recordAt at h
  cases hget : state.lanes.get (state.canonicalLaneId lane_id) with
  | none =>
    rw [hget] at h
    cases h
  | some found =>
    rw [hget] at h
    dsimp only at h
    split_ifs at h
    cases h
    rfl

/-- A mutation does nothing to the lanes, or replaces one of them by what its closure makes of it. -/
theorem mutate_touches (lane_id : String) (expected_revision : ℕ) (now : String) (apply : Closure β) :
    (store.mutate around lane_id expected_revision now apply).1.state.lanes = store.state.lanes ∨
      ∃ record applied audit answer updated, store.state.record lane_id = some record ∧
        apply record = .ok (applied, audit, answer) ∧ applied.bumped now = .ok updated ∧
        (store.mutate around lane_id expected_revision now apply).1.state.lanes =
          store.state.lanes.insert (store.state.canonicalLaneId lane_id) updated := by
  unfold mutate
  cases hchange : mutateChange store.state lane_id expected_revision now apply with
  | error error => exact .inl rfl
  | ok change =>
    obtain ⟨record, hrecord, hchange⟩ := bind_eq_ok.mp hchange
    obtain ⟨⟨applied, audit, answer⟩, happlied, hchange⟩ := bind_eq_ok.mp hchange
    obtain ⟨updated, hupdated, hchange⟩ := bind_eq_ok.mp hchange
    cases hchange
    have happly : apply record = .ok (applied, audit, answer) := by
      cases hresult : apply record with
      | error reason =>
        rw [hresult] at happlied
        cases happlied
      | ok result =>
        rw [hresult] at happlied
        exact congrArg Except.ok (Except.ok.inj happlied)
    refine .inr ⟨record, applied, audit, answer, updated, recordAt_ok hrecord, happly, hupdated, ?_⟩
    rw [commit_lanes]
    unfold StateFile.withRecord
    rw [(StateFile.pushAll_lanes ..).1]

/-- A call does nothing to the lanes, or registers one or replaces one of them. -/
theorem operate_cases (x : Libraries) (gjc_lane_id : String → String) (store : LaneStore)
    (input : OpInput) : Operated x gjc_lane_id store (store.operate x gjc_lane_id input) input := by
  obtain ⟨op, now, around⟩ := input
  cases op with
  | registerLane request =>
    show Operated x gjc_lane_id store (store.registerLane around gjc_lane_id request now).1 _
    unfold registerLane
    cases hchange : registerChange gjc_lane_id store.status store.state around request now with
    | error error => exact .nothing rfl
    | ok change =>
      unfold registerChange at hchange
      split at hchange
      · cases hchange
      · cases hchange
      · dsimp only at hchange
        cases hget : store.state.lanes.get (gjc_lane_id request.sdk_session_id) with
        | some existing =>
          rw [hget] at hchange
          cases hchange
        | none =>
          rw [hget] at hchange
          cases hchange
          exact .registers request rfl hget (commit_lanes store around _ _)
  | onLane lane_id op =>
    show Operated x gjc_lane_id store (store.mutate around lane_id (store.currentRevision lane_id)
      now (op.closure x now)).1 _
    rcases mutate_touches store around lane_id (store.currentRevision lane_id) now
      (op.closure x now) with hnothing | ⟨record, applied, audit, answer, updated, hrecord, happly, hupdated, hlanes⟩
    · exact .nothing hnothing
    · exact .updates hrecord (.closure rfl happly) hupdated hlanes
  | acknowledgePendingAlert lane_id event_id =>
    show Operated x gjc_lane_id store (store.acknowledgePendingAlert around lane_id
      (store.currentRevision lane_id) event_id now).1 _
    unfold acknowledgePendingAlert
    cases hchange : acknowledgeChange store.state lane_id (store.currentRevision lane_id) event_id now with
    | error error => exact .nothing rfl
    | ok change =>
      obtain ⟨record, hrecord, hchange⟩ := bind_eq_ok.mp hchange
      dsimp only at hchange
      split at hchange
      · cases hchange
        exact .nothing rfl
      · obtain ⟨updated, hupdated, hchange⟩ := bind_eq_ok.mp hchange
        cases hchange
        exact .updates (recordAt_ok hrecord) (.acknowledge rfl) hupdated (commit_lanes store around _ _)
  | updatePendingAlertDelivery lane_id event_id destination next_state =>
    show Operated x gjc_lane_id store (store.updatePendingAlertDelivery around lane_id event_id
      destination next_state).1 _
    unfold updatePendingAlertDelivery
    rcases deliveryChange_cases store.state around lane_id event_id destination next_state with
      ⟨error, hchange⟩ | hchange | ⟨record, updated, hrecord, hupdated, hchange⟩
    · rw [hchange]
      exact .nothing rfl
    · rw [hchange]
      exact .nothing rfl
    · rw [hchange]
      exact .updates hrecord (.deliver rfl) hupdated (commit_lanes store around _ _)

/-- A call does nothing to the lanes, or replaces one of them. -/
theorem operate_touches (input : OpInput) :
    Touches store (store.operate x gjc_lane_id input) (SparesTombstones store input) input.op.reclaims := by
  cases store.operate_cases x gjc_lane_id input with
  | nothing lanes => exact .nothing lanes
  | registers request hop fresh lanes =>
    refine .lane _ _ lanes (fun _ _ => ⟨nofun, nofun, nofun⟩) ?_
    intro _ _ record hrecord
    rw [fresh] at hrecord
    cases hrecord
  | @updates lane_id record applied updated clock hget makes hupdated lanes =>
    obtain ⟨op, now, around⟩ := input
    cases makes with
    | @closure named op audit hnamed happly =>
      cases hreclaims : (StoreOp.onLane named op).reclaims with
      | false =>
        refine .of_leftAlone hget lanes fun hspares => ?_
        have hrecord : store.state.record named = some record := by
          unfold StateFile.record
          rw [hnamed, hget]
        refine .bumped hupdated (LaneOp.leftAlone happly (hspares record hrecord) ?_)
        rintro endpoint_generation worktree rfl
        cases hreclaims
      | true =>
        cases op with
        | reclaimTombstone endpoint_generation worktree =>
          have hrests := reclaimTombstone_rests happly
          have hleft := LeftAlone.bumped hupdated (.of_eq rfl rfl rfl id)
          exact .lane _ _ lanes (fun _ _ => hleft.rests hrests) nofun
        | _ => cases hreclaims
    | acknowledge happlied =>
      refine .of_leftAlone hget lanes fun _ => .bumped hupdated ?_
      rw [happlied]
      exact .of_eq rfl rfl rfl fun halerts => by simp [halerts]
    | deliver happlied =>
      refine .of_leftAlone hget lanes fun _ => .bumped hupdated ?_
      rw [happlied]
      refine .of_eq rfl rfl rfl fun halerts => ?_
      unfold LaneRecord.delivered
      rw [halerts]
      rfl

end LaneStore

/-! ## Runs -/

section

variable (x : Libraries) (gjc_lane_id : String → String)

/-- Tombstones stay quiet along a run: at all times they are terminal and have no alerts, and the
disposition of a lane changes only when a tombstone is claimed back. -/
structure TombstonesQuiet (store : LaneStore) (inputs : List OpInput) : Prop where
  rests : ∀ pre, pre <+: inputs → ((operations x gjc_lane_id).run store pre).Rests
  settled : ∀ pre input post, inputs = pre ++ input :: post → input.op.reclaims = false → ∀ lane_id record,
      ((operations x gjc_lane_id).run store pre).state.lanes.get lane_id = some record →
      record.terminal_disposition.isSome = true →
      ∃ record', ((operations x gjc_lane_id).run store (pre ++ [input])).state.lanes.get lane_id =
          some record' ∧
        record'.terminal_disposition = record.terminal_disposition

variable {x gjc_lane_id}

variable {store' : LaneStore}

/-- A call that spares the tombstones lets every tombstone rest. -/
theorem Touches.rests
    (h : Touches store store' spares reclaims) (hspares : spares) (hrests : store.Rests) : store'.Rests := by
  intro lane hlane
  cases h with
  | nothing hlanes => exact hrests lane (hlanes ▸ hlane)
  | lane lane_id record' hlanes hrecord' _ =>
    rw [hlanes] at hlane
    rcases mem_insert hlane with rfl | hold
    · exact hrecord' hspares hrests
    · exact hrests lane hold

/-- A call that spares the tombstones and claims none back keeps every disposition. -/
theorem Touches.terminal (h : Touches store store' spares reclaims) (hspares : spares) (hreclaims : reclaims = false)
    {record : LaneRecord} (hget : store.state.lanes.get lane_id = some record)
    (hset : record.terminal_disposition.isSome = true) : ∃ record', store'.state.lanes.get lane_id = some record' ∧
      record'.terminal_disposition = record.terminal_disposition := by
  cases h with
  | nothing hlanes => exact ⟨record, hlanes ▸ hget, rfl⟩
  | lane touched record' hlanes _ hsettled =>
    rw [hlanes, get_insert]
    split_ifs with hlane
    · rw [hlane] at hget
      exact ⟨record', rfl, hsettled hspares hreclaims record hget hset⟩
    · exact ⟨record, hget, rfl⟩

/-- In a run that spares the tombstones they stay quiet. -/
theorem tombstones_quiet {store : LaneStore} (hrests : store.Rests) {inputs : List OpInput}
    (hspares : (operations x gjc_lane_id).Along SparesTombstones store inputs) :
    TombstonesQuiet x gjc_lane_id store inputs := by
  refine ⟨?_, ?_⟩
  · rintro pre ⟨post, rfl⟩
    refine (operations x gjc_lane_id).run_invariant LaneStore.Rests ?_ hrests
      ((along_append _ _ _ _ _).mp hspares).1
    exact fun store input hrests hspares =>
      (LaneStore.operate_touches x gjc_lane_id store input).rests hspares hrests
  · rintro pre input post rfl hreclaims lane_id record hget hset
    rw [run_concat]
    have hstep := ((along_append _ _ _ _ _).mp hspares).2.1
    exact (LaneStore.operate_touches x gjc_lane_id _ input).terminal hstep hreclaims hget hset

end

namespace Sample

/-- A call that meets no failure. -/
def call (op : StoreOp) : OpInput := ⟨op, "2026-08-23T12:00:00Z", failingAt []⟩

/-- A call of an operation on the lane of the session `s`. -/
def onLane (op : LaneOp) : OpInput := call (.onLane (laneId "s") op)

/-- The session `s` is registered and ends, and its watch is removed. -/
def removed : List OpInput :=
  [call (.registerLane ⟨"s", none, none, none, none⟩),
    onLane (.applyObservation (observed 1 .complete .complete)), onLane (.removeGhostWatch "ended")]

/-- A failure of the turn `u` that the bridge found in the session `s`. -/
def bridgeFailure : IncomingEvent :=
  finishEvent "session.failed" (insertFields [] [text "session_id" "s", text "turn_id" "u",
    count "sdk_revision" 2])

/-- The tombstone is told the next revision and another endpoint, and rests. -/
theorem rotated_tombstone_rests : TombstonesQuiet libraries laneId emptyStore
    (removed ++ [onLane (.setSdkRevisionIf 1 2), onLane (.noteEndpointRotation 7)]) := by
  refine tombstones_quiet (by intro lane hlane; cases hlane) ?_
  refine ⟨trivial, ?_, ?_, ?_, ?_, trivial⟩
  · intro record hrecord hremoved
    have hwatched : (((operations libraries laneId).run emptyStore
        (removed.take 1)).state.record (laneId "s")).all fun record =>
          record.watch_removed_at.isNone := by decide +kernel
    rw [show ((operations libraries laneId).run emptyStore (removed.take 1)).state.record
      (laneId "s") = some record from hrecord] at hwatched
    simp [isSome_iff_ne_none] at hremoved hwatched
    exact absurd hwatched hremoved
  all_goals exact fun _ _ _ => trivial

/-- A failure that the bridge finds is staged on the tombstone. -/
theorem failure_is_staged_on_tombstone : ¬ TombstonesQuiet libraries laneId emptyStore
    (removed ++ [onLane (.stageBridgeFailure bridgeFailure)]) := by
  intro h
  have hrests := h.rests _ (List.prefix_refl _)
  have hstaged : ((operations libraries laneId).run emptyStore
      (removed ++ [onLane (.stageBridgeFailure bridgeFailure)])).state.lanes.any fun lane =>
        lane.2.watch_removed_at.isSome && !lane.2.pending_alerts.isEmpty := by decide +kernel
  obtain ⟨lane, hlane, hboth⟩ := List.any_eq_true.mp hstaged
  obtain ⟨hremoved, halerts⟩ := (Bool.and_eq_true _ _).mp hboth
  rw [(hrests lane hlane).alerts hremoved] at halerts
  cases halerts

end Sample

end Clawhip.Gjc
