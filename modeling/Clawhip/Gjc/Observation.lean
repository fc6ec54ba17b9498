import Clawhip.Gjc.LaneStore

/-!
# Observations

What `src/gjc_lane.rs` makes of an answer of the control plane. An observation that passes its checks
replaces a lane's evidence and stages the alerts that it gives rise to, in the same mutation; an outage
stages one alert for its episode. Every operation is a closure for `mutate`.
-/

namespace Clawhip.Gjc

/-! ## Texts -/

/-- The names that `{:?}` prints. -/
def TurnState.debug : TurnState → String
  | idle => "Idle"
  | running => "Running"
  | awaitingInput => "AwaitingInput"
  | complete => "Complete"
  | failed => "Failed"
  | aborted => "Aborted"

def GateState.debug : GateState → String
  | closed => "Closed"
  | ready => "Ready"
  | answered => "Answered"

def SessionDisposition.debug : SessionDisposition → String
  | live => "Live"
  | complete => "Complete"
  | failed => "Failed"
  | retired => "Retired"

def TerminalKind.debug : TerminalKind → String
  | complete => "Complete"
  | failed => "Failed"
  | retired => "Retired"

/-- The `{:?}` of an optional value. -/
def debugOption (value : Option String) : String := (value.map fun value => "Some(" ++ value ++ ")").getD "None"

def boundedText (value : String) : String := String.ofList (value.toList.take MAX_EVIDENCE_LEN)

def publicSelectionLabel (value : String) : String :=
  let bounded := String.ofList
    (Text.strip Text.isWhitespace ((collapse false value.toList).take MAX_EVIDENCE_LEN))
  if hasSecretMarker (Text.toAsciiLowercase bounded) then "details-redacted" else bounded

/-- `sanitize_observation_selection`. -/
def Observation.sanitizeSelection (observation : Observation) : Observation :=
  { observation with
    model := observation.model.map publicSelectionLabel
    profile := observation.profile.map publicSelectionLabel }

/-! ## Alerts -/

/-- The kinds of events that are staged as alerts. -/
def ALERT_KINDS : List String :=
  ["session.failed", "session.stalled", "session.endpoint-failed", "workflow.gate", "workflow.question"]

/-- `bridge_alerts`: what a fresh bridge, shown the earlier state if there is one, announces. -/
def bridgeAlerts (x : Libraries) (previous : Option Snapshot) (snapshot : Snapshot) (now : String) :
    Except String (List IncomingEvent) := do
  let bridge ← match previous with
    | none => .ok ({} : GjcEventBridge)
    | some previous =>
      let shown := ({} : GjcEventBridge).observe x previous now
      (shown.2.map fun _ => shown.1).mapError ("build prior sdk alert state: " ++ ·)
  let outcome ← (bridge.observe x snapshot now).2.mapError ("build sdk alert: " ++ ·)
  .ok (outcome.events.filter fun event => decide (event.kind ∈ ALERT_KINDS))

/-- `payload[key].as_str()`. -/
def textOf (payload : Json) (key : String) : Option String := (payload.get key).bind Json.asStr

/-- The value, or this error. -/
def required {α : Type} (error : String) : Option α → Except String α
  | some value => .ok value
  | none => .error error

/-- An identifier that passes its check, or this error. -/
def requireId (error : String) (value : String) : Except String Unit :=
  if validId value then .ok () else .error error

def turnFailureCausality (event : IncomingEvent) : Except String (Option TurnFailureCausality) :=
  if event.kind ≠ "session.failed" then .ok none
  else do
    let session_id ← required "gjc turn failure missing session identity"
      (textOf event.payload "session_id")
    let turn_id ← required "gjc turn failure missing turn identity" (textOf event.payload "turn_id")
    requireId "gjc turn failure session identity malformed" session_id
    requireId "gjc turn failure turn identity malformed" turn_id
    let command_id := textOf event.payload "command_id"
    match command_id with
    | some command_id => requireId "gjc turn failure command identity malformed" command_id
    | none => .ok ()
    let sdk_revision ← required "gjc turn failure missing sdk revision"
      ((event.payload.get "sdk_revision").bind Json.asU64)
    .ok (some ⟨session_id, sdk_revision, turn_id, command_id, (textOf event.payload "model").map boundedText,
      (textOf event.payload "profile").map boundedText⟩)

def pendingFromEvent (event : IncomingEvent) (now : String) : Except String PendingAlert := do
  let event_id ← required "gjc alert missing deterministic event id" (textOf event.payload "event_id")
  let turn_failure ← turnFailureCausality event
  .ok ⟨event_id, event.kind, event.payload, now, 0, turn_failure, []⟩

/-- `queue_pending_alert`. -/
def LaneRecord.queue (record : LaneRecord) (alert : PendingAlert) : Except String LaneRecord :=
  if record.pending_alerts.any fun existing => decide (existing.event_id = alert.event_id) then
    .ok record
  else if MAX_PENDING_ALERTS ≤ record.pending_alerts.length then
    .error "gjc pending alert queue is full"
  else .ok { record with pending_alerts := record.pending_alerts ++ [alert] }

/-- Stage the alerts of some events, one after the other. -/
def LaneRecord.stage (record : LaneRecord) (events : List IncomingEvent) (now : String) :
    Except String LaneRecord :=
  events.foldlM (fun record event => do record.queue (← pendingFromEvent event now)) record

/-! ## Classification -/

/-- `terminal_kind_from_disposition`. -/
def SessionDisposition.terminalKind : SessionDisposition → Option TerminalKind
  | live => none
  | complete => some .complete
  | failed => some .failed
  | retired => some .retired

def TerminalKind.phase : TerminalKind → LanePhase
  | complete => .complete
  | failed => .failed
  | retired => .retired

def classifyLane (record : LaneRecord) (observation : Option Observation) : LanePhase :=
  if record.watch_removed_at.isSome then .retired
  else match record.terminal_disposition, observation with
    | some disposition, _ => disposition.kind.phase
    | none, none => record.phase.getD .unavailable
    | none, some observation =>
      if observation.session_id ≠ record.sdk_session_id then .runtimeGone
      else match observation.disposition with
        | .retired => .retired
        | .failed => .failed
        | .complete => .complete
        | .live =>
          if observation.gate_state = some .ready ∨
              observation.turn_state = .awaitingInput ∧ observation.prompt_accepted = true then
            .blocked
          else if observation.turn_state = .running ∧ observation.prompt_accepted = true then .active
          else .idle

/-! ## Snapshots of a lane -/

/-- What the turn of an observation looks like to the bridge. -/
def Observation.turnPhase (observation : Observation) : TurnPhase :=
  match observation.turn_state with
  | .running => if observation.prompt_accepted then .active else .idle
  | .awaitingInput => .waitingInput
  | .complete => .complete
  | .failed => .failed
  | .idle => .idle
  | .aborted => .aborted

def observationSnapshot (record : LaneRecord) (previous : Option LaneRecord)
    (observation : Observation) (now : String) (endpoint : Option Endpoint) : Snapshot :=
  let turn_id := observation.turn_id.or
    (previous.bind fun record => record.last_turn.bind TurnSnapshot.turn_id)
  { Snapshot.bare observation.session_id observation.revision with
    endpoint_episode := record.endpoint_episode
    turn := turn_id.map fun id =>
      ⟨id, observation.turnPhase, observation.prompt_accepted, 0, observation.error_summary⟩
    prompt := observation.command_id.map fun command_id =>
      ⟨command_id, if observation.turn_state = .running ∨ observation.turn_state = .awaitingInput then
        .progressing else .accepted⟩
    gate := observation.gate_id.map fun gate_id =>
      ⟨gate_id, observation.gate_kind.getD .workflow, observation.gate_revision,
        if observation.gate_state = some .ready then .opened else .resolved, observation.gate_title,
        observation.gate_workflow_id, observation.gate_title, observation.gate_options⟩
    model := observation.model
    profile := observation.profile
    endpoint := endpoint
    repo_name := record.pr.map PrBinding.repo
    repo_path := record.worktree
    worktree_path := record.worktree
    branch := record.branch
    observed_at := some now
    summary := observation.error_summary }

def LaneRecord.failedEndpoint (record : LaneRecord) (reason now : String) : Snapshot :=
  { Snapshot.bare record.sdk_session_id record.sdk_revision with
    endpoint_episode := record.endpoint_episode
    endpoint := some ⟨.failed, some reason⟩
    repo_name := record.pr.map PrBinding.repo
    worktree_path := record.worktree
    branch := record.branch
    observed_at := some now }

/-! ## Outages -/

/-- An outage that was not alerted yet opens the next episode and stages its alert. -/
def LaneRecord.alertOutage (record : LaneRecord) (x : Libraries) (reason now : String) :
    Except String LaneRecord :=
  if record.endpoint_alerted then .ok record
  else do
    let record := { record with endpoint_episode := min (record.endpoint_episode + 1) U64_MAX }
    let events ← bridgeAlerts x none (record.failedEndpoint reason now) now
    let record ← record.stage events now
    .ok { record with endpoint_alerted := true }

/-- `GjcLaneStore::mark_unavailable`; it tells whether polling is suspended from now on. -/
def markUnavailable (x : Libraries) (reason : String) (suspend_after : ℕ) (now : String) :
    Closure Bool := fun before => do
  let polls := min (before.consecutive_unavailable_polls + 1) U32_MAX
  let record ← { before with
    phase := some .unavailable
    last_query_at := some now
    consecutive_unavailable_polls := polls }.alertOutage x reason now
  let newly_suspended := !record.polling_suspended && decide (suspend_after ≤ polls)
  .ok ({ record with polling_suspended := record.polling_suspended || newly_suspended },
    (if before.phase ≠ some .unavailable then [(.phaseChanged, "-> unavailable")] else []) ++
    (if newly_suspended then [(.pollingSuspended, "attempt budget exhausted after " ++
      toString polls ++ " consecutive unavailable polls")] else []) ++
    [(.observationApplied, "unavailable (attempt " ++ toString polls ++
      "): sdk endpoint unavailable")], newly_suspended)

/-- `GjcLaneStore::enqueue_endpoint_failure`. -/
def enqueueEndpointFailure (x : Libraries) (reason now : String) : Closure Unit := fun record => do
  .ok (multiAudit (← record.alertOutage x reason now) [])

/-- `GjcLaneStore::note_endpoint_rotation`. -/
def noteEndpointRotation (endpoint_generation : ℕ) : Closure Unit := fun record =>
  if endpoint_generation = record.endpoint_generation then .ok (multiAudit record [])
  else .ok (multiAudit
    { record with
      endpoint_generation := endpoint_generation
      endpoint_episode := min (record.endpoint_episode + 1) U64_MAX
      endpoint_alerted := false
      review_evidence_valid := false
      owner_evidence_valid := false }
    [(.evidenceInvalidated, "endpoint generation changed; awaiting authoritative query")])

/-! ## Observations -/

/-- `GjcApplyOutcome`. -/
structure ApplyOutcome where
  phase_changed : Option LanePhase
  terminal_set : Option TerminalKind
  evidence_invalidated : Bool

/-- The checks of an observation against the lane that it is for. -/
def Observation.check (observation : Observation) (record : LaneRecord) : Except String Unit := do
  if observation.session_id ≠ record.sdk_session_id then
    .error "sdk observation session identity mismatch"
  if observation.turn_id.any fun turn_id => !validId turn_id then
    .error "sdk observation turn identity malformed"
  if observation.command_id.any fun command_id => !validId command_id then
    .error "sdk observation command identity malformed"
  if observation.worktree.any fun observed => record.worktree.any fun enrolled =>
      decide (observed ≠ enrolled) then
    .error "sdk observation worktree identity mismatch"
  if observation.revision < record.sdk_revision then .error "stale sdk observation revision"
  if observation.disposition = .complete ∧ observation.turn_state ≠ .complete ∨
      observation.disposition = .failed ∧ observation.turn_state ≠ .failed then
    .error "sdk observation disposition conflicts with turn state"
  if observation.gate_state.isSome then
    if (observation.gate_id.all fun gate_id => !validId gate_id) ∨ observation.gate_revision = 0 then
      .error "gate observation lacks canonical identity or revision"
  else if observation.gate_id.isSome ∨ observation.gate_revision ≠ 0 then
    .error "gate observation has identity without state"

/-- The gate of a lane after an observation. -/
def Observation.gateAfter (observation : Observation) (last_gate : Option GateSnapshot)
    (now : String) : Except String (Option GateSnapshot) :=
  match observation.gate_state with
  | some gate_state =>
    let updated : GateSnapshot := ⟨gate_state, observation.gate_id, observation.gate_revision, now⟩
    match last_gate with
    | none => .ok (some updated)
    | some previous =>
      if previous.gate_id ≠ observation.gate_id then .ok (some updated)
      else if observation.gate_revision < previous.revision then .ok (some previous)
      else if observation.gate_revision = previous.revision then
        if previous.state = gate_state then .ok (some previous)
        else if previous.state = .ready ∧ gate_state = .answered then .ok (some updated)
        else .error "conflicting equal gate revision"
      else .ok (some updated)
  | none =>
    .ok (last_gate.map fun gate => if observation.gate_section_present ∧ gate.state = .ready ∧
          (observation.gate_id = none ∨ gate.gate_id = observation.gate_id) then
        { gate with state := .answered, observed_at := now }
      else gate)

/-- An observation from another endpoint generation invalidates evidence that is still valid. -/
def Observation.invalidates (observation : Observation) (record : LaneRecord) : Bool :=
  decide (observation.endpoint_generation ≠ record.endpoint_generation) &&
    (record.review_evidence_valid || record.owner_evidence_valid)

/-- The terminal disposition that an observation sets. -/
def Observation.terminalSet (observation : Observation) (record : LaneRecord) :
    Option TerminalKind :=
  if record.terminal_disposition.isNone then observation.disposition.terminalKind else none

/-- A lane's ownership ends with the session. -/
def LaneOwnership.released (ownership : LaneOwnership) : LaneOwnership :=
  if ownership.state = .claimed then { ownership with state := .relinquished } else ownership

/-- A lane's evidence after an observation, before alerts are staged. -/
def Observation.evidence (observation : Observation) (record : LaneRecord)
    (last_gate : Option GateSnapshot) (now : String) : LaneRecord :=
  let invalidates := observation.invalidates record
  let terminal_set := observation.terminalSet record
  let record := { record with
    review_evidence_valid := record.review_evidence_valid && !invalidates
    owner_evidence_valid := record.owner_evidence_valid && !invalidates
    evidence_revision := record.evidence_revision + if invalidates then 1 else 0
    sdk_revision := observation.revision
    endpoint_generation := observation.endpoint_generation
    endpoint_alerted := false
    consecutive_unavailable_polls := 0
    last_query_at := some now
    branch := if observation.branch_observed then observation.branch else record.branch
    polling_suspended := false
    last_turn := some ⟨observation.turn_state, observation.turn_id, observation.command_id,
      observation.prompt_accepted, observation.model, observation.profile, now⟩
    last_gate := last_gate
    terminal_disposition := match terminal_set with
      | some kind => some ⟨kind, now, "sdk disposition " ++ observation.disposition.debug⟩
      | none => record.terminal_disposition
    ownership := if terminal_set.isSome then record.ownership.released else record.ownership }
  { record with phase := some (classifyLane record (some observation)) }

/-- What an observation enters in the audit trail. -/
def Observation.auditEntries (observation : Observation) (before after : LaneRecord) :
    List (AuditKind × String) :=
  let phaseText (phase : Option LanePhase) := (phase.map LanePhase.asStr).getD "unset"
  (if observation.invalidates before then
    [(.evidenceInvalidated, "endpoint generation " ++ toString before.endpoint_generation ++ " -> " ++
      toString observation.endpoint_generation ++ "; stale review/owner evidence invalidated")]
  else []) ++ (if before.polling_suspended then [(.pollingResumed, "authoritative observation received")]
  else []) ++ (if before.phase ≠ after.phase then
    [(.phaseChanged, phaseText before.phase ++ " -> " ++ phaseText after.phase)]
  else []) ++ (if (observation.terminalSet before).isSome then
    [(.terminalDispositionSet, debugOption ((observation.terminalSet before).map TerminalKind.debug) ++
        " from sdk evidence (revision " ++ toString observation.revision ++ ")")]
  else []) ++ [(.observationApplied, "sdk revision " ++ toString observation.revision ++ " generation " ++
    toString observation.endpoint_generation ++ " turn " ++ observation.turn_state.debug ++ " gate " ++
    debugOption (observation.gate_state.map GateState.debug) ++ " disposition " ++
    observation.disposition.debug)]

/-- An accepted turn that the lane did not know to be failed. -/
def Observation.newFailedTurn (observation : Observation) (before : LaneRecord) : Bool :=
  observation.prompt_accepted && decide (observation.turn_state = .failed) &&
    before.last_turn.all fun turn =>
      decide (turn.state ≠ .failed) || decide (turn.turn_id ≠ observation.turn_id)

/-- A failure is marked as one of the current session. -/
def markAuthority (event : IncomingEvent) : IncomingEvent :=
  if event.kind = "session.failed" then
    match event.payload with
    | .object fields => { event with
        payload := .object (OrdMap.insert fields "authority_scope" (.string "current-session")) }
    | _ => event
  else event

/-- The lane's turn was running and is now idle or aborted. -/
def Observation.stalls (observation : Observation) (before : LaneRecord) (current : Snapshot) :
    Bool :=
  let previous_turn_id := before.last_turn.bind TurnSnapshot.turn_id
  let previous_turn_active := before.last_turn.any fun turn =>
    turn.prompt_accepted && decide (turn.state = .running ∨ turn.state = .awaitingInput)
  let same_turn := match previous_turn_id, observation.turn_id with
    | some left, some right => decide (left = right)
    | _, _ => decide (previous_turn_id = current.turn.map Turn.id)
  previous_turn_active && same_turn &&
    decide (observation.turn_state = .idle ∨ observation.turn_state = .aborted)

/-- The observation that a lane's earlier evidence stands for. -/
def LaneRecord.earlier (before : LaneRecord) : Observation where
  session_id := before.sdk_session_id
  worktree := before.worktree
  branch := before.branch
  branch_observed := false
  endpoint_generation := before.endpoint_generation
  revision := before.sdk_revision
  turn_state := (before.last_turn.map TurnSnapshot.state).getD .running
  turn_id := before.last_turn.bind TurnSnapshot.turn_id
  command_id := before.last_turn.bind TurnSnapshot.command_id
  prompt_accepted := true
  model := before.last_turn.bind TurnSnapshot.model
  profile := before.last_turn.bind TurnSnapshot.profile
  gate_revision := (before.last_gate.map GateSnapshot.revision).getD 0
  gate_state := before.last_gate.map GateSnapshot.state
  gate_section_present := true
  gate_id := before.last_gate.bind GateSnapshot.gate_id
  gate_kind := none
  gate_workflow_id := none
  gate_title := none
  gate_options := []
  disposition := .live
  error_summary := none

/-- A gate is ready that the lane did not know, or a later revision of it. -/
def Observation.newGateEpisode (observation : Observation) (before : LaneRecord) : Bool :=
  decide (observation.gate_state = some .ready) &&
    before.last_gate.all fun previous => decide (previous.gate_id ≠ observation.gate_id) ||
      decide (previous.revision < observation.gate_revision)

/-- The alerts that an observation gives rise to, staged. -/
def Observation.stageAlerts (x : Libraries) (observation : Observation) (before record : LaneRecord)
    (now : String) : Except String LaneRecord := do
  let current := observationSnapshot record (some before) observation now none
  let record ←
    if (observation.terminalSet before).isSome || observation.newFailedTurn before then do
      record.stage ((← bridgeAlerts x none current now).map markAuthority) now
    else .ok record
  let record ←
    if observation.stalls before current then do
      let previous := observationSnapshot before none before.earlier now none
      record.stage (← bridgeAlerts x (some previous) current now) now
    else .ok record
  if observation.newGateEpisode before then do
    record.stage (← bridgeAlerts x none current now) now
  else .ok record

/-- `GjcLaneStore::apply_observation`. -/
def applyObservation (x : Libraries) (observation : Observation) (now : String) :
    Closure ApplyOutcome := fun before => do
  let observation := observation.sanitizeSelection
  observation.check before
  let last_gate ← observation.gateAfter before.last_gate now
  let evidence := observation.evidence before last_gate now
  let record ← observation.stageAlerts x before evidence now
  .ok (record, observation.auditEntries before evidence,
    ⟨if evidence.phase ≠ before.phase then evidence.phase else none,
      observation.terminalSet before, observation.invalidates before⟩)

/-! ## Endings -/

/-- `GjcLaneStore::mark_runtime_gone`. -/
def markRuntimeGone (evidence now : String) : Closure Unit := fun record =>
  if record.terminal_disposition.isSome then .error "lane already carries a terminal disposition"
  else .ok (multiAudit
    { record with
      phase := some .runtimeGone
      review_evidence_valid := false
      owner_evidence_valid := false
      evidence_revision := record.evidence_revision + 1
      consecutive_unavailable_polls := 0
      last_query_at := some now
      terminal_disposition := some ⟨.retired, now, "runtime gone: " ++ boundedText evidence⟩
      ownership := record.ownership.released } [(.phaseChanged, "runtime-gone"),
      (.terminalDispositionSet, "retired after authoritative session-not-found"),
      (.evidenceInvalidated, "review/owner evidence invalidated by runtime-gone")])

/-- `GjcLaneStore::remove_ghost_watch`. -/
def removeGhostWatch (reason now : String) : Closure Unit := fun record =>
  if record.watch_removed_at.isSome then .error "ghost watch already removed"
  else match record.terminal_disposition with
    | none => .error "only terminal lanes qualify for ghost watch removal"
    | some disposition =>
      if !record.pending_alerts.isEmpty then
        .error "pending alerts must be acknowledged before ghost removal"
      else .ok (multiAudit { record with watch_removed_at := some now, phase := some disposition.kind.phase }
        [(.ghostWatchRemoved, boundedText reason)])

/-- `GjcPrState`. -/
structure PrState where
  head_sha : String
  base_branch : String

/-- `GjcLaneStore::reconcile_pr_binding`; it tells whether evidence was invalidated. -/
def reconcilePrBinding (resolved : Option PrState) (now : String) : Closure Bool := fun record =>
  match record.pr with
  | none => .error "lane has no PR binding"
  | some binding =>
    let valid := record.review_evidence_valid || record.owner_evidence_valid
    let invalidated := { record with
      review_evidence_valid := false
      owner_evidence_valid := false
      evidence_revision := record.evidence_revision + if valid then 1 else 0 }
    match resolved with
    | none =>
      if valid then .ok (invalidated, [(.evidenceInvalidated, "pr " ++ binding.repo ++ "/" ++
        toString binding.number ++ " unresolved; stale evidence invalidated")], true)
      else .ok (record, [], false)
    | some state =>
      let head_sha := Text.toAsciiLowercase state.head_sha
      let head_changed := decide (head_sha ≠ binding.head_sha)
      let base_changed := decide (state.base_branch ≠ binding.base_branch)
      if !head_changed && !base_changed then .ok (record, [], false)
      else .ok ({ invalidated with
          pr := some ⟨binding.repo, binding.number, head_sha, state.base_branch, now⟩ },
        (if head_changed then [(.prHeadChanged, binding.head_sha ++ " -> " ++ head_sha)] else []) ++
        (if base_changed then
          [(.prBaseChanged, binding.base_branch ++ " -> " ++ state.base_branch)] else []) ++
        (if valid then
          [(.evidenceInvalidated, "review/owner evidence invalidated by PR movement")] else []),
        valid)

/-! ## Bookkeeping of alerts -/

/-- `GjcLaneStore::note_pending_alert_attempt`. -/
def notePendingAlertAttempt (event_id : String) : Closure Unit := fun record =>
  if record.pending_alerts.any fun alert => decide (alert.event_id = event_id) then
    .ok (multiAudit { record with
      pending_alerts := updateAlert (fun alert => { alert with
        attempts := min (alert.attempts + 1) U32_MAX }) event_id record.pending_alerts } [])
  else .error ("pending alert not found: " ++ event_id)

def boundedIdentity (value : Option String) : String :=
  ((value.map fun value => String.ofList ((value.toList.filter fun c => !isBlank c).take 128)).filter
    fun value => !value.isEmpty).getD "unknown"

/-- `GjcLaneStore::suppress_historical_failure_alert`. -/
def suppressHistoricalFailureAlert (alert : PendingAlert) (current : Observation) : Closure Unit :=
  fun record =>
    let retained := record.pending_alerts.filter fun pending =>
      decide (pending.event_id ≠ alert.event_id)
    if retained.length = record.pending_alerts.length then .ok (multiAudit record [])
    else
      let causality := alert.turn_failure
      .ok (multiAudit { record with pending_alerts := retained }
        [(.historicalFailureSuppressed, "historical failure suppressed: command=" ++
          boundedIdentity (causality.bind TurnFailureCausality.command_id) ++ " turn=" ++
          boundedIdentity (causality.map TurnFailureCausality.turn_id) ++ " model=" ++
          boundedIdentity (causality.bind TurnFailureCausality.model) ++ " profile=" ++
          boundedIdentity (causality.bind TurnFailureCausality.profile) ++ " current_command=" ++
          boundedIdentity current.command_id ++ " current_turn=" ++ boundedIdentity current.turn_id ++
          " current_model=" ++ boundedIdentity current.model ++ " current_profile=" ++
          boundedIdentity current.profile ++ " current_state=" ++ current.turn_state.debug)])

namespace Sample

/-- An observation of the session `s`, which shows the turn `t`. -/
def observed (revision : ℕ) (turn_state : TurnState) (disposition : SessionDisposition) :
    Observation where
  session_id := "s"
  worktree := none
  branch := none
  branch_observed := false
  endpoint_generation := 0
  revision := revision
  turn_state := turn_state
  turn_id := some "t"
  command_id := none
  prompt_accepted := true
  model := none
  profile := none
  gate_state := none
  gate_section_present := false
  gate_id := none
  gate_revision := 0
  gate_kind := none
  gate_workflow_id := none
  gate_title := none
  gate_options := []
  disposition := disposition
  error_summary := none

end Sample

end Clawhip.Gjc
