import Clawhip.Gjc.Observation

/-!
# Other operations on lanes

The operations of `GjcLaneStore` that the reconciler and the daemon's handlers call besides those of an
observation: the watermark of the session query, failures of the bridge, tombstones that are claimed
back, and what an operator does.
-/

namespace Clawhip.Gjc

/-! ## Closures -/

/-- The update of `GjcLaneStore::set_sdk_revision_if`. -/
def setSdkRevisionIf (expected_sdk_revision new_sdk_revision : ℕ) : Closure Unit := fun record =>
  if record.sdk_revision ≠ expected_sdk_revision ∨ new_sdk_revision ≤ record.sdk_revision then
    .error "sdk revision watermark conflict"
  else .ok (multiAudit { record with sdk_revision := new_sdk_revision } [])

/-- The update of `GjcLaneStore::resume_suspended`, for one lane. -/
def resumeSuspended : Closure Unit := fun record =>
  .ok (multiAudit { record with polling_suspended := false, consecutive_unavailable_polls := 0 }
    [(.pollingResumed, "manual force-resume")])

/-- `GjcLaneStore::claim_ownership`. -/
def claimOwnership (owner_id now : String) : Closure Unit := fun record =>
  if record.terminal_disposition.isSome then .error "terminal lane cannot reclaim ownership"
  else if record.watch_removed_at.isSome then .error "tombstoned lane cannot claim ownership"
  else if !validOwnerId owner_id then .error "invalid owner id"
  else .ok (multiAudit
    { record with
      ownership := ⟨.claimed, some owner_id, some now, record.ownership.generation + 1⟩ }
    [(.ownershipChanged, "ownership claimed")])

/-- `GjcLaneStore::reclaim_tombstone`. -/
def reclaimTombstone (endpoint_generation : ℕ) (worktree : Option String) : Closure Unit :=
  fun record =>
    if record.watch_removed_at.isNone then .error "lane is not a removed tombstone"
    else .ok (multiAudit
      { record with
        watch_removed_at := none
        terminal_disposition := none
        phase := none
        worktree := worktree
        branch := none
        pr := none
        endpoint_generation := endpoint_generation
        endpoint_episode := 0
        sdk_revision := 0
        last_turn := none
        last_gate := none
        evidence_revision := 0
        review_evidence_valid := true
        owner_evidence_valid := true
        ownership := {}
        consecutive_unavailable_polls := 0
        endpoint_alerted := false }
      [(.laneRegistered, "removed tombstone reclaimed for native session re-enrollment")])

/-- The record of a lane that an operator retires, but for its phase. -/
def LaneRecord.retired (record : LaneRecord) (reason now : String) : LaneRecord :=
  if record.terminal_disposition.isNone then
    { record with
      terminal_disposition := some ⟨.retired, now, "manual retirement: " ++ boundedText reason⟩
      ownership := record.ownership.released }
  else record

/-- `GjcLaneStore::retire_lane`. -/
def retireLane (reason now : String) : Closure Unit := fun record =>
  let record := record.retired reason now
  .ok (multiAudit { record with phase := some (classifyLane record none) }
    [(.terminalDispositionSet, "manually retired (" ++ boundedText reason ++ ")"), (.phaseChanged, "retired")])

/-! ## Failures of the bridge -/

/-- The observation that a failure of the bridge stands for. -/
def bridgeFailureObservation (failure : IncomingEvent) (record : LaneRecord)
    (session_id turn_id : String) (revision : ℕ) : Observation where
  session_id := session_id
  worktree := record.worktree
  branch := record.branch
  branch_observed := false
  endpoint_generation := record.endpoint_generation
  revision := revision
  turn_state := .failed
  turn_id := some turn_id
  command_id := textOf failure.payload "command_id"
  prompt_accepted := true
  model := textOf failure.payload "model"
  profile := textOf failure.payload "profile"
  gate_state := none
  gate_section_present := false
  gate_id := none
  gate_revision := 0
  gate_kind := none
  gate_workflow_id := none
  gate_title := none
  gate_options := []
  disposition := .live
  error_summary := (textOf failure.payload "error_message").or (textOf failure.payload "summary")

/-- The closure of `GjcLaneStore::stage_bridge_failure`, once the lane's record was read. -/
def stageBridgeFailure (x : Libraries) (failure : IncomingEvent) (now : String) :
    Closure ApplyOutcome := fun record => do
  if failure.kind ≠ "session.failed" then
    .error "bridge failure event kind is not session.failed"
  let session_id ← required "bridge failure lacks session identity"
    (textOf failure.payload "session_id")
  let turn_id ← required "bridge failure lacks turn identity" (textOf failure.payload "turn_id")
  let revision ← required "bridge failure lacks sdk revision"
    ((failure.payload.get "sdk_revision").bind Json.asU64)
  applyObservation x (bridgeFailureObservation failure record session_id turn_id revision) now record

end Clawhip.Gjc
