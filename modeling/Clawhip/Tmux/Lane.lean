import Mathlib.Data.List.Basic
import Mathlib.Algebra.Group.Nat.Defs

/-!
# Lanes of tmux sessions

The lane evidence of `src/source/tmux.rs`, what its validators admit, and what is shown of a lane.
-/

namespace Clawhip.Tmux

/-- `u64::MAX`. -/
def U64_MAX : ℕ := 2 ^ 64 - 1

/-- `saturating_add(1)` on `u64`. -/
def saturatingSucc (n : ℕ) : ℕ := min (n + 1) U64_MAX

/-! ## Evidence -/

inductive WorkerEffectKind where
  | CommandSubmission
  | SessionCreation
deriving DecidableEq

inductive LaneLaunchState where
  | Ready
  | Claimed
  | IdentityVerified
  | Launched
  | NoWorkerEffect
  | CommandSubmitAmbiguous
  | SessionCreationAmbiguous
deriving DecidableEq

inductive LaneWorkflow where
  | Active
  | NeedsReview
  | NeedsQa
  | PrOpen
  | AwaitingCi
  | AwaitingHuman
  | Retired
deriving DecidableEq

inductive LaneVisibility where
  | Unverified
  | Visible
  | Unreachable
  | DeliveryFailed
deriving DecidableEq

/-- The first 96 characters of a text. -/
def bounded (value : String) : String := String.ofList (value.toList.take 96)

/-- A reason, cut by `BoundedReason::new` or as it was read. -/
structure BoundedReason where
  asStr : String
deriving DecidableEq

/-- A category, cut by `BoundedCategory::new` or as it was read. -/
structure BoundedCategory where
  asStr : String
deriving DecidableEq

def BoundedReason.new (value : String) : BoundedReason := ⟨bounded value⟩

def BoundedCategory.new (value : String) : BoundedCategory := ⟨bounded value⟩

structure LaneVerification where
  checked_at : String
  outcome : String
  reason : Option BoundedReason
deriving DecidableEq

structure LaneEvidence where
  lane_version : ℕ := 1
  generation_id : String
  kickoff_operation_id : String
  launch_operation_id : String
  executor_id : String
  worker_effect_kind : WorkerEffectKind
  launch_state : LaneLaunchState := .Ready
  workflow : LaneWorkflow := .Active
  revision : ℕ := 0
  quiesced : Bool := false
  thread_id : Option String := none
  kickoff_message_id : Option String := none
  kickoff_delivered_at : Option String := none
  visibility : Option LaneVisibility := none
  verification : Option LaneVerification := none
  last_failure : Option BoundedCategory := none
  latest_update_message_id : Option String := none
  latest_update_kind : Option String := none
  latest_update_delivered_at : Option String := none
  delivery_retry_count : ℕ := 0
  delivery_disposition : Option String := none
deriving DecidableEq

/-! ## Requests -/

structure LaneEvidenceMutation where
  session : String
  expected_revision : ℕ
  generation_id : String
  launch_operation_id : String
  launch_state : LaneLaunchState
  failure_category : Option BoundedCategory := none
  executor_id : String
  worker_effect_kind : WorkerEffectKind

structure LaneVerificationMutation where
  session : String
  expected_revision : ℕ
  checked_at : String
  outcome : String
  reason : Option BoundedReason := none
  visibility : LaneVisibility
  generation_id : String

structure LaneDeliveryMutation where
  session : String
  expected_revision : ℕ
  workflow : Option LaneWorkflow := none
  message_id : Option String := none
  kind : Option String := none
  delivered_at : Option String := none
  visibility : LaneVisibility
  error_category : Option BoundedCategory := none
  disposition : Option String := none
  generation_id : String
  initial_kickoff : Bool := false
  kickoff_operation_id : Option String := none

structure LaneWorkflowMutation where
  session : String
  generation_id : String
  expected_revision : ℕ
  workflow : LaneWorkflow
  quiesced : Bool := false

structure LaneRetirementMutation where
  session : String
  generation_id : String
  expected_revision : ℕ

/-! ## Validators -/

/-- A letter or digit of ASCII, `-` or `_`. -/
def isIdChar (c : Char) : Bool := c.isAlphanum || c == '-' || c == '_'

/-- A text of ASCII characters only. -/
def isAscii (value : String) : Bool := value.toList.all fun c => decide (c.toNat < 128)

def validId (value : String) : Bool :=
  !value.isEmpty && decide (value.utf8ByteSize ≤ 64) && isAscii value && value.toList.all isIdChar

def validDiscordId (value : String) : Bool :=
  decide (1 ≤ value.utf8ByteSize) && decide (value.utf8ByteSize ≤ 20) &&
    value.toList.all Char.isDigit

def validSession (value : String) : Bool :=
  decide (1 ≤ value.utf8ByteSize) && decide (value.utf8ByteSize ≤ 128) && value.toList.all isIdChar

def validText (value : String) : Bool := !value.isEmpty && decide (value.utf8ByteSize ≤ 64) && isAscii value

/-- The error categories that go with a disposition. -/
def LaneDeliveryMutation.errorOk (input : LaneDeliveryMutation) : Bool :=
  match input.disposition, input.error_category with
  | some disposition, none => disposition == "accepted"
  | some disposition, some category =>
    disposition == "definitive-failure" &&
        ["payload-too-large", "bad-request", "unauthorized", "forbidden", "not-found",
          "rate-limited", "archived-or-not-writable", "transport"].contains category.asStr ||
      disposition == "ambiguous-acceptance" &&
        ["timeout", "transport", "malformed-success", "empty-message-id",
          "missing-message-id"].contains category.asStr
  | none, _ => false

/-- The receipt that goes with a disposition. -/
def LaneDeliveryMutation.dispositionOk (input : LaneDeliveryMutation) : Bool :=
  if input.disposition = some "accepted" then
    input.message_id.isSome && input.delivered_at.isSome && input.visibility == .Visible &&
      input.error_category.isNone
  else if input.disposition = some "definitive-failure" then
    input.message_id.isNone && input.delivered_at.isNone && input.visibility == .DeliveryFailed &&
      input.error_category.isSome
  else if input.disposition = some "ambiguous-acceptance" then
    input.message_id.isNone && input.delivered_at.isNone && input.visibility == .Unverified &&
      input.error_category.isSome
  else false

def validDelivery (input : LaneDeliveryMutation) : Bool :=
  input.message_id.all validDiscordId && input.delivered_at.all validText &&
    (input.kind.all fun kind => ["kickoff", "progress", "blocked", "pr-open", "handoff"].contains kind) &&
    input.errorOk && input.dispositionOk

/-- The reasons that Discord gives. -/
def discordError (reason : String) : Bool :=
  ["payload-too-large", "bad-request", "unauthorized", "forbidden", "not-found", "rate-limited",
    "archived-or-not-writable", "timeout", "transport", "malformed-success", "empty-message-id",
    "missing-message-id"].contains reason

/-- The reasons that go with an outcome. -/
def outcomeOk (outcome : String) (reason : Option String) : Bool :=
  if outcome = "kickoff-visible" then reason.isNone
  else if outcome = "kickoff-missing" then reason == some "kickoff-missing"
  else if outcome = "message-observed-unverified" then reason == some "kickoff-receipt-missing"
  else if outcome = "unverified" then
    reason.any fun reason =>
      reason == "thread-target-missing" || reason == "no-message-observed" || discordError reason
  else if outcome = "unreachable" then
    reason.any fun reason => reason == "unreachable" || discordError reason
  else false

def validVerification (input : LaneVerificationMutation) : Bool :=
  let reason := input.reason.map BoundedReason.asStr
  validText input.checked_at &&
    (reason.all fun reason => discordError reason ||
      ["thread-target-missing", "kickoff-missing", "kickoff-receipt-missing", "no-message-observed",
        "unreachable"].contains reason) &&
    outcomeOk input.outcome reason

def terminalCategoryIsValid (kind : WorkerEffectKind) (state : LaneLaunchState)
    (category : Option BoundedCategory) : Bool :=
  match kind, state, category with
  | _, .Ready, none | _, .Claimed, none | _, .IdentityVerified, none | _, .Launched, none => true
  | .CommandSubmission, .NoWorkerEffect, some category => category.asStr == "session-create-failed"
  | .CommandSubmission, .CommandSubmitAmbiguous, some category =>
    ["submission-attempt-error", "submitted-marker-set-failed", "submitted-marker-read-failed",
      "submitted-marker-missing", "submitted-marker-mismatch"].contains category.asStr
  | _, .SessionCreationAmbiguous, some category =>
    ["identity-marker-set-failed", "identity-marker-read-failed", "identity-marker-mismatch",
      "r1-to-r2-persistence-failed-after-create", "owner-aborted-before-r2"].contains category.asStr
  | _, _, _ => false

/-- The launch states that `update_lane_evidence` lets a lane pass to. -/
def launchTransition (state next : LaneLaunchState) : Bool :=
  state == next ||
    match state, next with
    | .Claimed, .IdentityVerified | .IdentityVerified, .Launched => true
    | .Claimed, .NoWorkerEffect | .Claimed, .CommandSubmitAmbiguous
    | .Claimed, .SessionCreationAmbiguous => true
    | .IdentityVerified, .NoWorkerEffect | .IdentityVerified, .CommandSubmitAmbiguous
    | .IdentityVerified, .SessionCreationAmbiguous => true
    | _, _ => false

/-! ## Snapshots -/

structure LaneSnapshot where
  session : String
  generation_id : String
  kickoff_operation_id : String
  launch_operation_id : String
  executor_id : String
  worker_effect_kind : WorkerEffectKind
  durable_launch_state : LaneLaunchState
  derived_status : Option String
  observation_reason : Option BoundedReason
  worker_started : Option Bool
  evidence_commit : Bool
  repair_needed : Bool
  healthy : Bool
  exit_category : Option BoundedCategory
  workflow : LaneWorkflow
  visibility : Option LaneVisibility
  revision : ℕ
  kickoff_message_id : Option String
  kickoff_delivered_at : Option String
  latest_update_message_id : Option String
  latest_update_kind : Option String
  latest_update_delivered_at : Option String

/-- The fields of a snapshot that follow from the launch state: `derived_status`,
`observation_reason`, `worker_started`, `evidence_commit`, `repair_needed`, `healthy` and
`exit_category`. -/
def LaneEvidence.derived (lane : LaneEvidence) (runtime_live : Option Bool) :
    Option String × Option BoundedReason × Option Bool × Bool × Bool × Bool ×
      Option BoundedCategory :=
  let failure (default : String) := lane.last_failure.getD (.new default)
  match lane.launch_state with
  | .Launched =>
    let healthy := lane.workflow == .Active && runtime_live == some true &&
      lane.visibility == some .Visible
    let status := match runtime_live, lane.workflow with
      | some false, .Active => some "tmux-missing"
      | some false, .NeedsReview | some false, .NeedsQa | some false, .PrOpen
      | some false, .AwaitingCi | some false, .AwaitingHuman => some "workflow-handoff"
      | _, _ => none
    (status, none, some true, true, false, healthy, none)
  | .CommandSubmitAmbiguous =>
    let category := failure "submission-attempt-error"
    (some "command-submit-ambiguous-blocked", some (.new category.asStr), none, true, false, false,
      some category)
  | .SessionCreationAmbiguous =>
    let category := failure "owner-aborted-before-r2"
    (some "session-creation-ambiguous-blocked", some (.new category.asStr), none, true, false, false,
      some category)
  | .IdentityVerified =>
    let reason := failure "session-liveness-unavailable"
    let status :=
      if reason.asStr = "identity-mismatch" then "identity-conflict"
      else if lane.worker_effect_kind = .CommandSubmission then "launch-commit-ambiguous"
      else "session-creation-effect-uncommitted"
    (some status, some (.new reason.asStr), none, false, true, false, some reason)
  | .NoWorkerEffect =>
    let category := failure "launch-failed-no-worker-effect"
    (some "launch-failed-no-worker-effect", some (.new category.asStr), none, true, false, false, some category)
  | .Ready =>
    match lane.last_failure with
    | some category =>
      let status :=
        if lane.delivery_disposition = some "ambiguous-acceptance" then "kickoff-ambiguous"
        else if lane.delivery_disposition = some "definitive-failure" then "kickoff-failed"
        else "pending"
      (some status, some (.new category.asStr), none, true, true, false, some category)
    | none => (some "pending", none, none, false, true, false, none)
  | .Claimed =>
    let status :=
      if lane.worker_effect_kind = .CommandSubmission then "command-execution-claim-stranded"
      else "session-creation-effect-uncommitted"
    (some status, none, none, false, true, false, none)

def laneSnapshot (session : String) (lane : LaneEvidence) (runtime_live : Option Bool) :
    LaneSnapshot :=
  let (derived_status, observation_reason, worker_started, evidence_commit, repair_needed, healthy,
    exit_category) := lane.derived runtime_live
  { session, generation_id := lane.generation_id
    kickoff_operation_id := lane.kickoff_operation_id
    launch_operation_id := lane.launch_operation_id
    executor_id := lane.executor_id, worker_effect_kind := lane.worker_effect_kind
    durable_launch_state := lane.launch_state, derived_status, observation_reason, worker_started
    evidence_commit, repair_needed, healthy, exit_category, workflow := lane.workflow
    visibility := lane.visibility, revision := lane.revision
    kickoff_message_id := lane.kickoff_message_id
    kickoff_delivered_at := lane.kickoff_delivered_at
    latest_update_message_id := lane.latest_update_message_id
    latest_update_kind := lane.latest_update_kind
    latest_update_delivered_at := lane.latest_update_delivered_at }

structure LaneDetail where
  snapshot : LaneSnapshot
  thread_id : Option String
  kickoff_message_id : Option String
  kickoff_delivered_at : Option String
  verification : Option LaneVerification
  latest_update_message_id : Option String
  latest_update_kind : Option String
  latest_update_delivered_at : Option String
  last_error : Option BoundedCategory
  quiesced : Bool

def laneDetail (session : String) (lane : LaneEvidence) (runtime_live : Option Bool) : LaneDetail where
  snapshot := laneSnapshot session lane runtime_live
  thread_id := lane.thread_id
  kickoff_message_id := lane.kickoff_message_id
  kickoff_delivered_at := lane.kickoff_delivered_at
  verification := lane.verification
  latest_update_message_id := lane.latest_update_message_id
  latest_update_kind := lane.latest_update_kind
  latest_update_delivered_at := lane.latest_update_delivered_at
  last_error := lane.last_failure
  quiesced := lane.quiesced

end Clawhip.Tmux
