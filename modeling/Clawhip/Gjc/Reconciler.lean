import Clawhip.Gjc.Observation

/-!
# The reconciler

`GjcReconciler::poll_once` of `src/gjc_lane.rs`. A pass goes over the lanes that are watched; for each
it first replays the pending alerts, then acts on one answer of the control plane, and then replays
again. What the pass meets outside (answers, room in the event queue, what the dispatcher does with an
alert, the clock) is its input. `Consult` notes every answer of the control plane with the lane's
record before and after the reconciler acted on it.
-/

namespace Clawhip.Gjc

/-! ## Answers -/

/-- `GjcSdkQueryError`. -/
inductive QueryError where
  | endpointUnavailable (detail : String)
  | timeout (detail : String)
  | sessionNotFound (detail : String)
  | staleEndpointGeneration (observed : ℕ)
  | ambiguous (detail : String)
  | invalidState (detail : String)

/-- What the control plane answers to a query. -/
abbrev Answer := Except QueryError Observation

inductive FailureAlertAuthority where
  | current
  | superseded
  | unknown

/-- A turn that is running or waits for input. -/
def TurnState.runs (state : TurnState) : Bool := decide (state = .running) || decide (state = .awaitingInput)

def failureAlertAuthority (alert : PendingAlert) (current : Observation) : FailureAlertAuthority :=
  match alert.turn_failure with
  | none =>
    if current.prompt_accepted && current.turn_state.runs then .superseded else .unknown
  | some causality =>
    match current.turn_id with
    | none => .unknown
    | some current_turn_id =>
      let turn_matches := decide (causality.turn_id = current_turn_id)
      let command_conflicts := match causality.command_id, current.command_id with
        | some alert, some current => decide (alert ≠ current)
        | _, _ => false
      let other := !turn_matches || command_conflicts
      if current.turn_state = .failed ∧ causality.sdk_revision ≤ current.revision ∧ !other then
        .current
      else if causality.sdk_revision < current.revision ∧
          (current.prompt_accepted && current.turn_state.runs && other ||
            decide (current.turn_state = .failed) && other) then
        .superseded
      else .unknown

/-- An answer of the control plane, with the lane's record before and after it was acted on. -/
structure Consult where
  /-- The query was made for the replay of an alert. -/
  revalidation : Bool
  now : String
  answer : Answer
  before : LaneRecord
  after : LaneRecord

/-! ## Replaying alerts -/

/-- What happens to one alert that the event queue takes. -/
structure Send where
  /-- The answer to the query, which is made for a failure only. -/
  answer : Answer
  /-- What the dispatcher records while the reconciler waits. -/
  deliveries : List (String × DeliveryState)
  /-- The alert is accepted within the timeout. -/
  accepted : Bool

/-- The replay of a lane's alerts under way. -/
structure Replay where
  store : LaneStore
  current : LaneRecord
  revalidated : Option Observation := none
  consults : List Consult := []

/-- How a replay goes on with an alert. -/
inductive Verdict where
  | deliver
  | next
  | stop

/-- An error whose text says that the revision is not the current one. -/
def LaneError.isRevisionConflict (error : LaneError) : Bool := Text.contains error.message "revision conflict"

namespace Replay

variable (x : Libraries) (around : Surroundings) (now : String)

/-- The lane's record in the store, or the one at hand. -/
def refreshed (replay : Replay) : Replay :=
  { replay with current := (replay.store.state.record replay.current.lane_id).getD replay.current }

/-- A failure is checked against the present state of its session before it is sent. -/
def revalidate (replay : Replay) (send : Send) (alert : PendingAlert) : Replay × Verdict :=
  let before := replay.current
  match send.answer with
  | .error error =>
    ({ replay with consults := replay.consults ++ [⟨true, now, .error error, before, before⟩] }, .stop)
  | .ok observation =>
    let authoritative := observation.sanitizeSelection
    let replay := { replay with revalidated := some authoritative }
    let consulted (replay : Replay) : Replay :=
      { replay with
        consults := replay.consults ++ [⟨true, now, .ok authoritative, before, replay.current⟩] }
    let applied : LaneStore × Option LaneRecord :=
      if before.sdk_revision < authoritative.revision then
        let answer := replay.store.mutate around before.lane_id before.revision now
          (applyObservation x authoritative now)
        (answer.1, answer.2.toOption.map Prod.fst)
      else (replay.store, some before)
    match applied with
    | (store, none) => (consulted { replay with store := store }, .stop)
    | (store, some current) =>
      let replay := consulted { replay with store := store, current := current }
      match failureAlertAuthority alert authoritative with
      | .current => (replay, .deliver)
      | .unknown => (replay, .stop)
      | .superseded =>
        let answer := replay.store.mutate around current.lane_id current.revision now
          (suppressHistoricalFailureAlert alert authoritative)
        match answer.2 with
        | .ok updated => ({ replay with store := answer.1, current := updated.1 }, .next)
        | .error _ => ({ replay with store := answer.1 }.refreshed, .next)

/-- An alert is sent and, once it is accepted, acknowledged. -/
def deliver (replay : Replay) (send : Send) (alert : PendingAlert) : Replay × Verdict :=
  let store := send.deliveries.foldl (fun store delivery =>
    (store.updatePendingAlertDelivery around replay.current.lane_id alert.event_id delivery.1
      delivery.2).1) replay.store
  let replay := { replay with store := store }
  if !send.accepted then (replay.refreshed, .stop)
  else
    let answer := replay.store.acknowledgePendingAlert around replay.current.lane_id
      replay.current.revision alert.event_id now
    match answer.2 with
    | .ok updated => ({ replay with store := answer.1, current := updated }, .next)
    | .error error =>
      let replay := { replay with store := answer.1 }
      if error.isRevisionConflict then
        let latest := replay.refreshed.current
        let answer := replay.store.acknowledgePendingAlert around latest.lane_id latest.revision
          alert.event_id now
        ({ replay with store := answer.1, current := (answer.2.toOption).getD latest }, .next)
      else (replay, .stop)

/-- One turn of the loop of `replay_pending_alerts`, for the first pending alert. -/
def sendOne (replay : Replay) (send : Send) (alert : PendingAlert) : Replay × Verdict :=
  let answer := replay.store.mutate around replay.current.lane_id replay.current.revision now
    (notePendingAlertAttempt alert.event_id)
  match answer.2 with
  | .error _ => ({ replay with store := answer.1 }, .stop)
  | .ok updated =>
    let replay := { replay with store := answer.1, current := updated.1 }
    let checked := if alert.kind = "session.failed" then replay.revalidate x around now send alert
      else (replay, .deliver)
    match checked.2 with
    | .deliver => checked.1.deliver around now send alert
    | _ => checked

/-- `replay_pending_alerts`, for as many alerts as the event queue has room for in time. -/
def run (replay : Replay) : List Send → Replay
  | [] => replay
  | send :: sends =>
    match replay.current.pending_alerts.head? with
    | none => replay
    | some alert =>
      let sent := replay.sendOne x around now send alert
      match sent.2 with
      | .stop => sent.1
      | _ => run sent.1 sends

end Replay

/-! ## Policy -/

/-- `GjcPollingPolicy`. -/
structure PollingPolicy where
  poll_interval_secs : ℕ := 30
  initial_backoff_ms : ℕ := 500
  max_backoff_ms : ℕ := 30000
  max_consecutive_attempts : ℕ := 8
  ghost_grace_polls : ℕ := 3

def backoffDelayMs (initial_ms max_ms consecutive_failures : ℕ) : ℕ :=
  let initial := max initial_ms 1
  min (min (initial * 2 ^ min consecutive_failures 16) U64_MAX) (max max_ms initial)

/-- `GjcPollingPolicy::validate`: the complaint, if there is one. -/
def PollingPolicy.complaint (policy : PollingPolicy) : Option String :=
  if policy.poll_interval_secs = 0 then some "gjc lanes poll interval must be positive"
  else if policy.initial_backoff_ms = 0 then some "gjc lanes initial backoff must be positive"
  else if policy.max_backoff_ms < policy.initial_backoff_ms then
    some "gjc lanes max backoff must not be smaller than initial backoff"
  else if policy.max_consecutive_attempts = 0 then
    some "gjc lanes attempt budget must be positive"
  else if policy.ghost_grace_polls = 0 then some "gjc lanes ghost grace must be positive"
  else none

/-! ## Passes -/

/-- What a pass meets at one lane. -/
structure LaneInput where
  /-- The alerts sent before the query. -/
  before : List Send
  answer : Answer
  /-- The alerts sent after the answer was acted on. -/
  after : List Send
  /-- What the resolver of pull requests gives, if there is one and it gives something. -/
  resolved : Option (Option PrState)

/-- What a pass meets. -/
structure PassInput where
  now : String
  now_nanos : ℤ
  around : Surroundings
  lanes : String → LaneInput

/-- `GjcReconcileOutcome`. -/
structure ReconcileOutcome where
  examined : ℕ := 0
  retained : ℕ := 0
  ghost_watches_removed : ℕ := 0
  terminal_set : ℕ := 0
  runtime_gone : ℕ := 0
  evidence_invalidations : ℕ := 0
  suspended : ℕ := 0
  skipped_conflicts : ℕ := 0

/-- A pass under way. -/
structure Pass where
  store : LaneStore
  outcome : ReconcileOutcome := {}
  consults : List Consult := []
  /-- The error that the pass ended with. -/
  failed : Option LaneError := none

/-- What the reconciler did first with an answer. -/
inductive Reaction where
  | retained
  | applied (record : LaneRecord) (outcome : ApplyOutcome)
  | refused (error : LaneError)
  | watchRemoved (record : LaneRecord)
  | notRemoved (error : LaneError)
  | runtimeGone (record : LaneRecord)
  | rotated (record : LaneRecord)
  | terminalUnavailable (record : LaneRecord) (detail : String)
  | unavailable (record : LaneRecord) (suspended : Bool)
  | staged (record : LaneRecord)
  | notStaged (error : LaneError)
  | failed (error : LaneError)

section

variable (x : Libraries) (parseTime : String → Option ℤ) (policy : PollingPolicy)
  (input : PassInput)

/-- `backoff_defers`; `parseTime` reads a time as nanoseconds. -/
def backoffDefers (record : LaneRecord) : Bool :=
  (record.last_query_at.bind parseTime).any fun parsed =>
    decide (max ((input.now_nanos - parsed).tdiv 1000000) 0 <
      backoffDelayMs policy.initial_backoff_ms policy.max_backoff_ms record.consecutive_unavailable_polls)

def suspensionDefers (record : LaneRecord) : Bool :=
  (record.last_query_at.bind parseTime).any fun parsed =>
    decide ((input.now_nanos - parsed).tdiv 1000000000 < min (policy.poll_interval_secs * 60) U64_MAX)

/-- What the reconciler does first with an answer. -/
def LaneStore.react (store : LaneStore) (snapshot : LaneRecord) : Answer → LaneStore × Reaction
  | .ok observation =>
    if observation.revision ≤ snapshot.sdk_revision then (store, .retained)
    else
      let answer := store.mutate input.around snapshot.lane_id snapshot.revision input.now
        (applyObservation x observation input.now)
      (answer.1, match answer.2 with
        | .ok (record, outcome) => .applied record outcome
        | .error error => .refused error)
  | .error (.sessionNotFound detail) =>
    if snapshot.terminal_disposition.isSome then
      let answer := store.mutate input.around snapshot.lane_id snapshot.revision input.now
        (removeGhostWatch ("terminal session absent from control plane: " ++ detail) input.now)
      (answer.1, match answer.2 with
        | .ok (record, _) => .watchRemoved record
        | .error error => .notRemoved error)
    else
      let answer := store.mutate input.around snapshot.lane_id snapshot.revision input.now
        (markRuntimeGone detail input.now)
      (answer.1, match answer.2 with
        | .ok (record, _) => .runtimeGone record
        | .error error => .failed error)
  | .error (.staleEndpointGeneration observed) =>
    let answer := store.mutate input.around snapshot.lane_id snapshot.revision input.now
      (noteEndpointRotation observed)
    (answer.1, match answer.2 with
      | .ok (record, _) => .rotated record
      | .error error => .failed error)
  | .error (.endpointUnavailable detail) | .error (.timeout detail) =>
    let terminal := snapshot.terminal_disposition.isSome
    let answer := store.mutate input.around snapshot.lane_id snapshot.revision input.now
      (markUnavailable x detail (if terminal then U32_MAX else policy.max_consecutive_attempts)
        input.now)
    (answer.1, match answer.2 with
      | .ok (record, suspended) =>
        if terminal then .terminalUnavailable record detail else .unavailable record suspended
      | .error error => .failed error)
  | .error (.invalidState _) => (store, .retained)
  | .error (.ambiguous detail) =>
    if detail = "multiple ready workflow gates" then (store, .retained)
    else
      let answer := store.mutate input.around snapshot.lane_id snapshot.revision input.now
        (enqueueEndpointFailure x detail input.now)
      (answer.1, match answer.2 with
        | .ok (record, _) => .staged record
        | .error error => .notStaged error)

namespace Pass

variable (pass : Pass)

/-- Count something. -/
def count (f : ReconcileOutcome → ReconcileOutcome) : Pass := { pass with outcome := f pass.outcome }

/-- The lane is kept as it is. -/
def retain : Pass := pass.count fun outcome => { outcome with retained := outcome.retained + 1 }

/-- Another writer was faster. -/
def skip (lane_id : String) (expected_revision : ℕ) : Pass :=
  { pass with
    outcome := { pass.outcome with skipped_conflicts := pass.outcome.skipped_conflicts + 1 }
    store := pass.store.noteRevisionConflict input.around lane_id expected_revision input.now }

/-- An error ends the pass, unless another writer was faster. -/
def failOrSkip (lane_id : String) (expected_revision : ℕ) (error : LaneError) : Pass :=
  if error.isRevisionConflict then pass.skip input lane_id expected_revision
  else { pass with failed := some error }

/-- The alerts of a lane are replayed. -/
def replay (record : LaneRecord) (sends : List Send) : Pass × LaneRecord :=
  let replayed := Replay.run x input.around input.now { store := pass.store, current := record } sends
  ({ pass with store := replayed.store, consults := pass.consults ++ replayed.consults }, replayed.current)

def reconcilePr (record : LaneRecord) (resolved : Option (Option PrState)) : Pass :=
  match record.pr, resolved with
  | some _, some resolved =>
    let answer := pass.store.mutate input.around record.lane_id record.revision input.now
      (reconcilePrBinding resolved input.now)
    let pass := { pass with store := answer.1 }
    match answer.2 with
    | .ok (_, invalidated) => pass.count fun outcome =>
        { outcome with
          evidence_invalidations := outcome.evidence_invalidations + if invalidated then 1 else 0 }
    | .error error =>
      if error.isRevisionConflict then pass.skip input record.lane_id record.revision else pass
  | _, _ => pass

/-- What follows the first thing done with an answer. -/
def follow (lane : LaneInput) (snapshot : LaneRecord) : Reaction → Pass
  | .retained => pass.retain
  | .applied record applied =>
    let replayed := pass.retain.replay x input record lane.after
    if applied.terminal_set.isSome then
      replayed.1.count fun outcome => { outcome with terminal_set := outcome.terminal_set + 1 }
    else
      (replayed.1.count fun outcome => { outcome with
        evidence_invalidations :=
          outcome.evidence_invalidations + if applied.evidence_invalidated then 1 else 0
        }).reconcilePr input replayed.2 lane.resolved
  | .refused error =>
    if error.isRevisionConflict then pass.skip input snapshot.lane_id snapshot.revision
    else pass.retain
  | .watchRemoved _ => pass.count fun outcome =>
      { outcome with ghost_watches_removed := outcome.ghost_watches_removed + 1 }
  | .notRemoved error =>
    if error.isRevisionConflict then pass.skip input snapshot.lane_id snapshot.revision
    else if !snapshot.pending_alerts.isEmpty then pass.retain
    else { pass with failed := some error }
  | .runtimeGone record =>
    ((pass.count fun outcome => { outcome with
      runtime_gone := outcome.runtime_gone + 1
      terminal_set := outcome.terminal_set + 1
      evidence_invalidations := outcome.evidence_invalidations + 1 }).replay x input record lane.after).1
  | .rotated _ => pass.count fun outcome =>
      { outcome with evidence_invalidations := outcome.evidence_invalidations + 1 }
  | .terminalUnavailable record detail =>
    let misses := snapshot.consecutive_unavailable_polls + 1
    let replayed := pass.replay x input record lane.after
    if policy.ghost_grace_polls ≤ misses then
      if !replayed.2.pending_alerts.isEmpty then replayed.1.retain
      else
        let answer := replayed.1.store.mutate input.around snapshot.lane_id replayed.2.revision
          input.now (removeGhostWatch ("terminal watch exceeded ghost grace after " ++
            toString misses ++ " unavailable polls: " ++ detail) input.now)
        let pass := { replayed.1 with store := answer.1 }
        match answer.2 with
        | .ok _ => pass.count fun outcome =>
            { outcome with ghost_watches_removed := outcome.ghost_watches_removed + 1 }
        | .error error => pass.failOrSkip input snapshot.lane_id replayed.2.revision error
    else replayed.1.retain
  | .unavailable record suspended =>
    (pass.replay x input record lane.after).1.count fun outcome => { outcome with
      suspended := outcome.suspended + if suspended then 1 else 0
      retained := outcome.retained + 1 }
  | .staged record => (pass.replay x input record lane.after).1.retain
  | .notStaged error =>
    let pass := pass.failOrSkip input snapshot.lane_id snapshot.revision error
    if pass.failed.isSome then pass else pass.retain
  | .failed error => pass.failOrSkip input snapshot.lane_id snapshot.revision error

/-- The answer that a pass acts on: the one of the replay, if it asked. -/
def answerFor (lane : LaneInput) (revalidated : Option Observation) : Answer :=
  match revalidated with
  | some observation => .ok observation
  | none => lane.answer

/-- The body of the loop of `poll_once`. -/
def reconcileLane (initial : LaneRecord) : Pass :=
  if pass.failed.isSome then pass
  else
    let lane := input.lanes initial.lane_id
    let replayed := Replay.run x input.around input.now { store := pass.store, current := initial }
      lane.before
    let snapshot := replayed.current
    let pass := { pass with
      store := replayed.store, consults := pass.consults ++ replayed.consults }
    if (snapshot.terminal_disposition.map TerminalDisposition.kind) = some .retired ∧
        snapshot.pending_alerts.isEmpty then
      let answer := pass.store.mutate input.around snapshot.lane_id snapshot.revision input.now
        (removeGhostWatch "retired watch cleanup" input.now)
      let pass := { pass with store := answer.1 }
      match answer.2 with
      | .ok _ => pass.count fun outcome =>
          { outcome with ghost_watches_removed := outcome.ghost_watches_removed + 1 }
      | .error _ => pass
    else if snapshot.polling_suspended && suspensionDefers parseTime policy input snapshot then pass
    else if backoffDefers parseTime policy input snapshot then pass.retain
    else
      let pass := pass.count fun outcome => { outcome with examined := outcome.examined + 1 }
      let answer := answerFor lane replayed.revalidated
      let reacted := pass.store.react x policy input snapshot answer
      let after := (reacted.1.state.record snapshot.lane_id).getD snapshot
      let pass := { pass with
        store := reacted.1
        -- An answer of the replay is noted there.
        consults := pass.consults ++ if replayed.revalidated.isSome then []
          else [Consult.mk false input.now answer snapshot after] }
      pass.follow x policy input lane snapshot reacted.2

end Pass

/-- `GjcLaneStore::snapshot_watches` without the lanes whose watch was removed. -/
def LaneStore.watches (store : LaneStore) : List LaneRecord :=
  store.state.lanes.values.filter fun record => record.watch_removed_at.isNone

/-- `GjcReconciler::poll_once`. -/
def pollOnce (store : LaneStore) : Pass :=
  match policy.complaint with
  | some complaint => { store := store, failed := some (.rejected complaint) }
  | none => store.watches.foldl (fun pass record =>
      pass.reconcileLane x parseTime policy input record) { store := store }

end

end Clawhip.Gjc
