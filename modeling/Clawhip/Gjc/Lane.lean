import Clawhip.Gjc.Bridge

/-!
# Lanes

The durable records of `src/gjc_lane.rs`: a lane watches one session of the SDK, and its record holds
the evidence seen last, the ownership of the lane and the alerts that wait for delivery. `StateFile`
is everything a lane store keeps, in memory as in its file.
-/

namespace Clawhip.Gjc

def GJC_LANE_STATE_SCHEMA : String := "clawhip.gjc-lane-state.v1"
def MAX_AUDIT_ENTRIES : ℕ := 512
def MAX_PENDING_ALERTS : ℕ := 64
def MAX_PENDING_ALERT_DELIVERIES : ℕ := 64
def MAX_SESSION_LEN : ℕ := 128
def MAX_WORKTREE_LEN : ℕ := 4096
def MAX_OWNER_LEN : ℕ := 64
def MAX_EVIDENCE_LEN : ℕ := 400

/-- The largest `u32`. -/
def U32_MAX : ℕ := 2 ^ 32 - 1

/-! ## Evidence -/

/-- `GjcLanePhase`. -/
inductive LanePhase where
  | unavailable
  | idle
  | active
  | blocked
  | complete
  | failed
  | retired
  | runtimeGone
deriving DecidableEq

/-- `GjcLanePhase::as_str`. -/
def LanePhase.asStr : LanePhase → String
  | unavailable => "unavailable"
  | idle => "idle"
  | active => "active"
  | blocked => "blocked"
  | complete => "complete"
  | failed => "failed"
  | retired => "retired"
  | runtimeGone => "runtime-gone"

/-- `GjcTurnState`. -/
inductive TurnState where
  | idle
  | running
  | awaitingInput
  | complete
  | failed
  | aborted
deriving DecidableEq

/-- `GjcGateState`. -/
inductive GateState where
  | closed
  | ready
  | answered
deriving DecidableEq

/-- `GjcSessionDisposition`. -/
inductive SessionDisposition where
  | live
  | complete
  | failed
  | retired
deriving DecidableEq

/-- `GjcSdkObservation`: what the control plane says about a session. -/
structure Observation where
  session_id : String
  worktree : Option String
  branch : Option String
  branch_observed : Bool
  endpoint_generation : ℕ
  revision : ℕ
  turn_state : TurnState
  turn_id : Option String
  command_id : Option String
  prompt_accepted : Bool
  model : Option String
  profile : Option String
  gate_state : Option GateState
  gate_section_present : Bool
  gate_id : Option String
  gate_revision : ℕ
  gate_kind : Option GateKind
  gate_workflow_id : Option String
  gate_title : Option String
  gate_options : List String
  disposition : SessionDisposition
  error_summary : Option String

/-- `GjcTurnSnapshot`. -/
structure TurnSnapshot where
  state : TurnState
  turn_id : Option String
  command_id : Option String
  prompt_accepted : Bool
  model : Option String
  profile : Option String
  observed_at : String

/-- `GjcGateSnapshot`. -/
structure GateSnapshot where
  state : GateState
  gate_id : Option String
  revision : ℕ
  observed_at : String

/-! ## Records -/

/-- `GjcOwnershipState`. -/
inductive OwnershipState where
  | unclaimed
  | claimed
  | relinquished
deriving DecidableEq

/-- `GjcLaneOwnership`. -/
structure LaneOwnership where
  state : OwnershipState := .unclaimed
  owner_id : Option String := none
  claimed_at : Option String := none
  generation : ℕ := 0

/-- `GjcTerminalKind`. -/
inductive TerminalKind where
  | complete
  | failed
  | retired
deriving DecidableEq

/-- `GjcTerminalDisposition`. -/
structure TerminalDisposition where
  kind : TerminalKind
  observed_at : String
  evidence : String

/-- `GjcPrBinding`. -/
structure PrBinding where
  repo : String
  number : ℕ
  head_sha : String
  base_branch : String
  bound_at : String

/-- `GjcTurnFailureCausality`. -/
structure TurnFailureCausality where
  session_id : String
  sdk_revision : ℕ
  turn_id : String
  command_id : Option String
  model : Option String
  profile : Option String

/-- `GjcPendingAlertDeliveryState`. -/
inductive DeliveryState where
  | claimed
  | delivered
  | failed
deriving DecidableEq

/-- `GjcPendingAlertDelivery`. -/
structure PendingAlertDelivery where
  state : DeliveryState
  attempts : ℕ
  updated_at : String

/-- `GjcPendingAlert`: an alert that is kept until it is acknowledged, with what became of it at each
destination. -/
structure PendingAlert where
  event_id : String
  kind : String
  payload : Json
  queued_at : String
  attempts : ℕ
  turn_failure : Option TurnFailureCausality
  deliveries : OrdMap String PendingAlertDelivery

/-- `GjcPendingAlert::incoming_event`. -/
def PendingAlert.incomingEvent (alert : PendingAlert) : IncomingEvent where
  kind := alert.kind
  channel := none
  mention := none
  format := none
  template := none
  payload := alert.payload

/-- `GjcLaneRecord`. -/
structure LaneRecord where
  lane_id : String
  sdk_session_id : String
  worktree : Option String
  branch : Option String
  endpoint_generation : ℕ
  endpoint_episode : ℕ
  endpoint_alerted : Bool
  revision : ℕ
  sdk_revision : ℕ
  last_turn : Option TurnSnapshot
  last_gate : Option GateSnapshot
  ownership : LaneOwnership
  terminal_disposition : Option TerminalDisposition
  phase : Option LanePhase
  pr : Option PrBinding
  evidence_revision : ℕ
  review_evidence_valid : Bool
  owner_evidence_valid : Bool
  consecutive_unavailable_polls : ℕ
  polling_suspended : Bool
  last_query_at : Option String
  watch_removed_at : Option String
  registered_at : String
  updated_at : String
  pending_alerts : List PendingAlert

/-- `GjcAuditKind`. -/
inductive AuditKind where
  | laneRegistered
  | ownershipChanged
  | observationApplied
  | phaseChanged
  | terminalDispositionSet
  | ghostWatchRemoved
  | evidenceInvalidated
  | prHeadChanged
  | prBaseChanged
  | restartReconciled
  | reconcileSkippedRevisionConflict
  | pollingSuspended
  | pollingResumed
  | historicalFailureSuppressed

/-- `GjcReconcileAuditEntry`. -/
structure AuditEntry where
  at_ : String
  lane_id : String
  kind : AuditKind
  detail : String

/-! ## The state of a store -/

/-- `GjcLaneStateFile`. -/
structure StateFile where
  schema : String := GJC_LANE_STATE_SCHEMA
  generation : ℕ := 0
  lanes : OrdMap String LaneRecord := []
  lane_id_aliases : OrdMap String String := []
  audit : List AuditEntry := []
  audit_entries_dropped : ℕ := 0

namespace StateFile

/-- `GjcLaneStateFile::push_audit`. -/
def pushAudit (state : StateFile) (entry : AuditEntry) : StateFile :=
  let overflow := if MAX_AUDIT_ENTRIES ≤ state.audit.length then
    state.audit.length + 1 - MAX_AUDIT_ENTRIES else 0
  { state with
    audit := state.audit.drop overflow ++ [entry]
    audit_entries_dropped := state.audit_entries_dropped + overflow }

def canonicalLaneId (state : StateFile) (lane_id : String) : String := (state.lane_id_aliases.get lane_id).getD lane_id

/-- `GjcLaneStore::record`. -/
def record (state : StateFile) (lane_id : String) : Option LaneRecord := state.lanes.get (state.canonicalLaneId lane_id)

end StateFile

end Clawhip.Gjc
