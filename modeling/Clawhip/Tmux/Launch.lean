import Clawhip.Lib.Program
import Clawhip.Tmux.Daemon

/-!
# Launches of lanes

`launch_lane_session` and `finalize_existing_lane` of `src/tmux_wrapper.rs`, as programs that ask the daemon
and tmux, and the world that answers any number of them. What happens to a request or a command, and where a
wrapper stops, is decided by the moves.
-/

namespace Clawhip.Tmux

def LANE_GENERATION_OPTION : String := "@clawhip_lane_generation"

def LANE_LAUNCH_OPERATION_OPTION : String := "@clawhip_lane_launch_operation"

def LANE_COMMAND_SUBMITTED_OPTION : String := "@clawhip_lane_command_submitted"

inductive DiscordLaneDisposition where
  | DefinitiveFailure
  | AmbiguousAcceptance

/-- `DiscordLaneError`, with the text of its category. -/
structure DiscordLaneError where
  category : String
  disposition : DiscordLaneDisposition

inductive MarkerSetOutcome where
  | Confirmed
  | PossiblyExecuted
  | PreExecutionFailure
deriving DecidableEq

inductive MarkerRead where
  | Exact (value : String)
  | Missing
  | Unreadable
deriving DecidableEq

inductive IdentityProof where
  | Exact
  | SetFailed
  | ReadFailed
  | Mismatch

inductive LaneInspection where
  | Exact
  | CommandTerminal (category : String)
  | Observed (reason : String) (identity_conflict : Bool)

inductive DetachedSessionOutcome where
  | Created
  | DefinitiveFailure
  | PossiblyExecuted
  | PreExecutionFailure

/-- `TmuxNewArgs`, as far as a launch reads it, with the registration and the command that are made of it,
and the identifiers that are drawn for a new lane. -/
structure TmuxNewArgs where
  session : String
  thread : Option String
  kickoff : Option String := none
  attach : Bool := false
  registration : RegisteredTmuxSession
  command_to_send : Option String
  generation_id : String
  kickoff_operation_id : String
  launch_operation_id : String
  executor_id : String

def laneEffectKind (args : TmuxNewArgs) : WorkerEffectKind :=
  if args.command_to_send.isNone then .SessionCreation else .CommandSubmission

def newLaneEvidence (args : TmuxNewArgs) : LaneEvidence where
  generation_id := args.generation_id
  kickoff_operation_id := args.kickoff_operation_id
  launch_operation_id := args.launch_operation_id
  executor_id := args.executor_id
  worker_effect_kind := laneEffectKind args
  thread_id := args.thread
  visibility := some .Unverified

def validateLaneArgs (args : TmuxNewArgs) : Except String Unit := do
  let some thread := args.thread | throw "lane launch requires a thread"
  if (Text.trim thread).isEmpty then throw "lane thread must not be empty"
  if args.kickoff.any fun message => decide (2000 < message.toList.length) then
    throw "lane kickoff exceeds 2000 Unicode scalars"

/-! ## Requests -/

/-- What a wrapper asks of the daemon, of Discord and of tmux, for its session. A marker is read, and a command
sent, for the lane that the wrapper has in hand. -/
inductive LaunchRequest where
  | laneDetail
  | registerLane (input : LaneRegistrationInput)
  | claimLane (generation_id executor_id : String) (expected_revision : ℕ)
  | recordLaneDelivery (input : LaneDeliveryMutation)
  | updateLaneEvidence (input : LaneEvidenceMutation)
  | sendThread (message : String)
  | newSession
  | sessionExists
  | setLaneMarker (option value : String)
  | readLaneMarker (option : String) (lane : LaneSnapshot)
  | submitCommand (command : String) (lane : LaneSnapshot)

/-- What is answered to a request. -/
def LaunchRequest.Reply : LaunchRequest → Type
  | .laneDetail => Except String LaneDetail
  | .registerLane _ => Except String LaneDetail
  | .claimLane .. => Except String LaneSnapshot
  | .recordLaneDelivery _ => Except String LaneSnapshot
  | .updateLaneEvidence _ => Except String LaneSnapshot
  | .sendThread _ => Except DiscordLaneError (String × String)
  | .newSession => DetachedSessionOutcome
  | .sessionExists => Except String Bool
  | .setLaneMarker .. => MarkerSetOutcome
  | .readLaneMarker .. => MarkerRead
  | .submitCommand .. => Except String Unit

abbrev Launch := Prog LaunchRequest.Reply

namespace Launch

def laneDetail : Launch (Except String LaneDetail) := Prog.request LaunchRequest.laneDetail

def registerLane (input : LaneRegistrationInput) : Launch (Except String LaneDetail) :=
  Prog.request (LaunchRequest.registerLane input)

def claimLane (generation_id executor_id : String) (expected_revision : ℕ) :
    Launch (Except String LaneSnapshot) :=
  Prog.request (LaunchRequest.claimLane generation_id executor_id expected_revision)

def recordLaneDelivery (input : LaneDeliveryMutation) : Launch (Except String LaneSnapshot) :=
  Prog.request (LaunchRequest.recordLaneDelivery input)

def updateLaneEvidence (input : LaneEvidenceMutation) : Launch (Except String LaneSnapshot) :=
  Prog.request (LaunchRequest.updateLaneEvidence input)

/-- `send_thread_with_receipt`: the identifier and the time of the message. -/
def sendThread (message : String) : Launch (Except DiscordLaneError (String × String)) :=
  Prog.request (LaunchRequest.sendThread message)

/-- `create_detached_lane_session`. -/
def newSession : Launch DetachedSessionOutcome := Prog.request LaunchRequest.newSession

def sessionExists : Launch (Except String Bool) := Prog.request LaunchRequest.sessionExists

def setLaneMarker (option value : String) : Launch MarkerSetOutcome :=
  Prog.request (LaunchRequest.setLaneMarker option value)

def readLaneMarker (option : String) (lane : LaneSnapshot) : Launch MarkerRead :=
  Prog.request (LaunchRequest.readLaneMarker option lane)

/-- `submit_lane_command_once`. -/
def submitCommand (command : String) (lane : LaneSnapshot) : Launch (Except String Unit) :=
  Prog.request (LaunchRequest.submitCommand command lane)

end Launch

/-! ## Lost responses -/

/-- A lane that was registered with some identifiers. -/
def LaneSnapshot.identifies (snapshot : LaneSnapshot) (lane : LaneEvidence) : Bool :=
  snapshot.generation_id == lane.generation_id &&
    snapshot.kickoff_operation_id == lane.kickoff_operation_id &&
    snapshot.launch_operation_id == lane.launch_operation_id &&
    snapshot.executor_id == lane.executor_id &&
    snapshot.worker_effect_kind == lane.worker_effect_kind

def claimResponseLossMatches (detail : LaneDetail) (lane : LaneEvidence) (expected_revision : ℕ) : Bool :=
  detail.snapshot.identifies lane && detail.thread_id == lane.thread_id &&
    detail.snapshot.durable_launch_state == .Claimed &&
    detail.snapshot.revision == saturatingSucc expected_revision

def registerResponseLossMatches (detail : LaneDetail) (lane : LaneEvidence) : Bool :=
  detail.snapshot.identifies lane && detail.thread_id == lane.thread_id &&
    detail.snapshot.durable_launch_state == .Ready && detail.snapshot.revision == 0 &&
    detail.snapshot.workflow == .Active && detail.snapshot.visibility == some .Unverified &&
    detail.snapshot.kickoff_message_id.isNone && detail.snapshot.kickoff_delivered_at.isNone &&
    detail.snapshot.latest_update_message_id.isNone && detail.snapshot.latest_update_kind.isNone &&
    detail.snapshot.latest_update_delivered_at.isNone && detail.last_error.isNone && !detail.quiesced

def kickoffReceiptResponseLossMatches (detail : LaneDetail) (snapshot : LaneSnapshot)
    (message_id delivered_at : Option String) (visibility : LaneVisibility) (category : Option String)
    (disposition : String) : Bool :=
  detail.snapshot.generation_id == snapshot.generation_id &&
    detail.snapshot.kickoff_operation_id == snapshot.kickoff_operation_id &&
    detail.snapshot.revision == saturatingSucc snapshot.revision &&
    detail.kickoff_message_id == message_id && detail.kickoff_delivered_at == delivered_at &&
    detail.snapshot.visibility == some visibility &&
    detail.last_error.map BoundedCategory.asStr == category &&
    detail.snapshot.exit_category.map BoundedCategory.asStr == category &&
    match category with
    | none => disposition == "accepted"
    | some category =>
      (disposition == "ambiguous-acceptance" && detail.snapshot.derived_status == some "kickoff-ambiguous" ||
        disposition == "definitive-failure" && detail.snapshot.derived_status == some "kickoff-failed") &&
        detail.snapshot.observation_reason.any fun reason => reason.asStr == category

def committedTransitionMatches (expected : LaneSnapshot) (expected_state : LaneLaunchState)
    (expected_category : Option String) (actual : LaneSnapshot) : Bool :=
  actual.generation_id == expected.generation_id &&
    actual.launch_operation_id == expected.launch_operation_id &&
    actual.executor_id == expected.executor_id &&
    actual.worker_effect_kind == expected.worker_effect_kind &&
    actual.revision == saturatingSucc expected.revision &&
    actual.durable_launch_state == expected_state &&
    expected_category.all fun category =>
      (actual.exit_category.any fun actual => actual.asStr == category) ||
        actual.observation_reason.any fun actual => actual.asStr == category

/-! ## Steps of a launch -/

def transitionLane (snapshot : LaneSnapshot) (launch_state : LaneLaunchState)
    (failure_category : Option String) : Launch (Except String LaneSnapshot) := do
  match ← Launch.updateLaneEvidence
    { session := snapshot.session
      expected_revision := snapshot.revision
      generation_id := snapshot.generation_id
      launch_operation_id := snapshot.launch_operation_id
      launch_state := launch_state
      failure_category := failure_category.map BoundedCategory.new
      executor_id := snapshot.executor_id
      worker_effect_kind := snapshot.worker_effect_kind } with
  | .ok committed => return .ok committed
  | .error error =>
    match ← Launch.laneDetail with
    | .ok detail =>
      if committedTransitionMatches snapshot launch_state failure_category detail.snapshot then
        return .ok detail.snapshot
      else return .error error
    | .error _ => return .error error

/-- A transition that ends a launch with an error. -/
def abandonLane (snapshot : LaneSnapshot) (launch_state : LaneLaunchState) (category error : String) :
    Launch (Except String Unit) := do
  match ← transitionLane snapshot launch_state (some category) with
  | .ok _ => return .error error
  | .error error => return .error error

/-- A transition that ends a launch. -/
def confirmLane (snapshot : LaneSnapshot) : Launch (Except String Unit) := do
  match ← transitionLane snapshot .Launched none with
  | .ok _ => return .ok ()
  | .error error => return .error error

def classifySubmittedValue (value : Option String) (launch_operation_id : String) : LaneInspection :=
  match (value.map Text.trim).filter fun value => !value.isEmpty with
  | some value =>
    if value = launch_operation_id then .Exact else .Observed "submitted-marker-mismatch" false
  | none => .Observed "submitted-marker-missing" false

/-- What `inspect_lane_markers` makes of the last marker. -/
def inspectSubmitted (snapshot : LaneSnapshot) : MarkerRead → LaneInspection
  | .Exact value =>
    match classifySubmittedValue (some value) snapshot.launch_operation_id with
    | .Observed "submitted-marker-mismatch" conflict =>
      if snapshot.worker_effect_kind = .CommandSubmission then
        .CommandTerminal "submitted-marker-mismatch"
      else .Observed "submitted-marker-mismatch" conflict
    | inspection => inspection
  | .Unreadable =>
    if snapshot.worker_effect_kind = .CommandSubmission then
      .CommandTerminal "submitted-marker-read-failed"
    else .Observed "submitted-marker-unreadable" false
  | .Missing =>
    if snapshot.worker_effect_kind = .CommandSubmission then .CommandTerminal "submitted-marker-missing"
    else .Observed "submitted-marker-missing" false

def inspectLaneMarkers (snapshot : LaneSnapshot) : Launch LaneInspection := do
  match ← Launch.sessionExists with
  | .error _ => return .Observed "session-liveness-unavailable" false
  | .ok false => return .Observed "session-missing" false
  | .ok true =>
    match ← Launch.readLaneMarker LANE_GENERATION_OPTION snapshot with
    | .Unreadable => return .Observed "identity-unreadable" false
    | .Missing => return .Observed "identity-mismatch" true
    | .Exact value =>
      if value ≠ snapshot.generation_id then return .Observed "identity-mismatch" true
      else
        match ← Launch.readLaneMarker LANE_LAUNCH_OPERATION_OPTION snapshot with
        | .Unreadable => return .Observed "identity-unreadable" false
        | .Missing => return .Observed "identity-mismatch" true
        | .Exact value =>
          if value ≠ snapshot.launch_operation_id then return .Observed "identity-mismatch" true
          else
            return inspectSubmitted snapshot
              (← Launch.readLaneMarker LANE_COMMAND_SUBMITTED_OPTION snapshot)

def finalizeExistingLane (args : TmuxNewArgs) : Launch (Except String Unit) := do
  match ← Launch.laneDetail with
  | .error error => return .error error
  | .ok detail =>
    let snapshot := detail.snapshot
    let retained : Except String Unit :=
      if snapshot.worker_started = some true then .ok ()
      else .error "lane launch is retained without a confirmed worker"
    if snapshot.durable_launch_state ≠ .IdentityVerified then
      if snapshot.durable_launch_state = .Launched ∧ args.attach = true then
        match ← inspectLaneMarkers snapshot with
        | .Exact => return retained
        | _ => return .error "retained lane ownership proof is not exact"
      else return retained
    else
      match ← inspectLaneMarkers snapshot with
      | .Exact => confirmLane snapshot
      | .CommandTerminal category =>
        abandonLane snapshot .CommandSubmitAmbiguous category
          "lane command submission proof is not exact"
      | .Observed _ _ => return .error "lane worker proof is not exact"

/-- One marker of `write_lane_identity_markers`: it is set and read back. -/
def proveLaneMarker (snapshot : LaneSnapshot) (option value : String) : Launch IdentityProof := do
  if (← Launch.setLaneMarker option value) = .PreExecutionFailure then return .SetFailed
  else
    match ← Launch.readLaneMarker option snapshot with
    | .Unreadable => return .ReadFailed
    | .Missing => return .Mismatch
    | .Exact read => return if read = value then .Exact else .Mismatch

def writeLaneIdentityMarkers (snapshot : LaneSnapshot) : Launch IdentityProof := do
  match ← proveLaneMarker snapshot LANE_GENERATION_OPTION snapshot.generation_id with
  | .Exact => proveLaneMarker snapshot LANE_LAUNCH_OPERATION_OPTION snapshot.launch_operation_id
  | proof => return proof

/-- The category of a failed `IdentityProof`. -/
def IdentityProof.category : IdentityProof → Option String
  | .Exact => none
  | .SetFailed => some "identity-marker-set-failed"
  | .ReadFailed => some "identity-marker-read-failed"
  | .Mismatch => some "identity-marker-mismatch"

def commandMarkerTerminal (snapshot : LaneSnapshot) (category : String) : Launch (Except String Unit) :=
  abandonLane snapshot .CommandSubmitAmbiguous category "lane command submission proof is not exact"

def finalizeCommandOwner (args : TmuxNewArgs) (snapshot : LaneSnapshot) :
    Launch (Except String Unit) := do
  match ← Launch.submitCommand (args.command_to_send.getD "") snapshot with
  | .error _ =>
    abandonLane snapshot .CommandSubmitAmbiguous "submission-attempt-error"
      "lane command submission outcome is ambiguous"
  | .ok () =>
    let set_result ← Launch.setLaneMarker
      LANE_COMMAND_SUBMITTED_OPTION snapshot.launch_operation_id
    if set_result = .PreExecutionFailure then
      abandonLane snapshot .CommandSubmitAmbiguous "submitted-marker-set-failed"
        "lane command submission marker failed"
    else
      match ← Launch.readLaneMarker LANE_COMMAND_SUBMITTED_OPTION snapshot with
      | .Exact value =>
        if value = snapshot.launch_operation_id then confirmLane snapshot
        else commandMarkerTerminal snapshot "submitted-marker-mismatch"
      | .Unreadable => commandMarkerTerminal snapshot "submitted-marker-read-failed"
      | .Missing => commandMarkerTerminal snapshot "submitted-marker-missing"

def finalizeSessionCreationOwner (snapshot : LaneSnapshot) : Launch (Except String Unit) := do
  let uncommitted : Except String Unit := .error "lane session creation proof is not exact"
  let set_result ← Launch.setLaneMarker
    LANE_COMMAND_SUBMITTED_OPTION snapshot.launch_operation_id
  if set_result = .PreExecutionFailure then return uncommitted
  else
    match ← Launch.readLaneMarker LANE_COMMAND_SUBMITTED_OPTION snapshot with
    | .Exact value =>
      if value = snapshot.launch_operation_id then confirmLane snapshot else return uncommitted
    | _ => return uncommitted

/-! ## The launch -/

def deliveryFailureVisibility : DiscordLaneDisposition → LaneVisibility
  | .DefinitiveFailure => .DeliveryFailed
  | .AmbiguousAcceptance => .Unverified

def DiscordLaneDisposition.name : DiscordLaneDisposition → String
  | .DefinitiveFailure => "definitive-failure"
  | .AmbiguousAcceptance => "ambiguous-acceptance"

/-- `record_lane_delivery` of a kickoff, or the lane that shows that it was recorded. -/
def recordKickoff (mutation : LaneDeliveryMutation) (matches_detail : LaneDetail → Bool) :
    Launch (Except String LaneSnapshot) := do
  match ← Launch.recordLaneDelivery mutation with
  | .ok next => return .ok next
  | .error error =>
    match ← Launch.laneDetail with
    | .ok detail => return if matches_detail detail then .ok detail.snapshot else .error error
    | .error _ => return .error error

def deliverKickoff (snapshot : LaneSnapshot) (message : String) : Launch (Except String LaneSnapshot) := do
  match ← Launch.sendThread message with
  | .ok (message_id, delivered_at) =>
    recordKickoff
      { session := snapshot.session
        expected_revision := snapshot.revision
        message_id := some message_id
        kind := some "kickoff"
        delivered_at := some delivered_at
        visibility := .Visible
        disposition := some "accepted"
        generation_id := snapshot.generation_id
        initial_kickoff := true
        kickoff_operation_id := some snapshot.kickoff_operation_id }
      fun detail => kickoffReceiptResponseLossMatches detail snapshot (some message_id)
        (some delivered_at) .Visible none "accepted"
  | .error error =>
    let visibility := deliveryFailureVisibility error.disposition
    let persisted ← recordKickoff
      { session := snapshot.session
        expected_revision := snapshot.revision
        kind := some "kickoff"
        visibility := visibility
        error_category := some (.new error.category)
        disposition := some error.disposition.name
        generation_id := snapshot.generation_id
        initial_kickoff := true
        kickoff_operation_id := some snapshot.kickoff_operation_id }
      fun detail => kickoffReceiptResponseLossMatches detail snapshot none none visibility
        (some (bounded error.category)) error.disposition.name
    match persisted with
    | .ok _ => return .error "lane kickoff delivery was not confirmed"
    | .error error => return .error error

/-- The input that a launch registers its lane with. -/
def TmuxNewArgs.laneRegistrationInput (args : TmuxNewArgs) : LaneRegistrationInput where
  registration := args.registration
  generation_id := args.generation_id
  kickoff_operation_id := args.kickoff_operation_id
  launch_operation_id := args.launch_operation_id
  executor_id := args.executor_id
  worker_effect_kind := laneEffectKind args
  thread_id := args.thread
  expect_absent_or_retired := true

def registerNewLane (args : TmuxNewArgs) : Launch (Except String LaneSnapshot) := do
  match ← Launch.registerLane args.laneRegistrationInput with
  | .ok detail => return .ok detail.snapshot
  | .error error =>
    match ← Launch.laneDetail with
    | .ok detail =>
      return if registerResponseLossMatches detail (newLaneEvidence args) then .ok detail.snapshot
        else .error error
    | .error _ => return .error error

/-- The lane of a launch, claimed. -/
def claimNewLane (args : TmuxNewArgs) (snapshot : LaneSnapshot) :
    Launch (Except String LaneSnapshot) := do
  match ← Launch.claimLane args.generation_id args.executor_id snapshot.revision with
  | .ok claimed => return .ok claimed
  | .error error =>
    match ← Launch.laneDetail with
    | .ok detail =>
      return if claimResponseLossMatches detail (newLaneEvidence args) snapshot.revision then
          .ok detail.snapshot
        else .error error
    | .error _ => return .error error

/-- The launch state and the category of a session that was definitely not created. -/
def sessionCreateFailed (snapshot : LaneSnapshot) : LaneLaunchState × String :=
  if snapshot.worker_effect_kind = .CommandSubmission then (.NoWorkerEffect, "session-create-failed")
  else (.SessionCreationAmbiguous, "owner-aborted-before-r2")

/-- A lane whose identity markers are proved, with the error of a launch that could not commit that. -/
def verifyNewLane (args : TmuxNewArgs) (snapshot : LaneSnapshot) :
    Launch (Except String LaneSnapshot) := do
  match ← transitionLane snapshot .IdentityVerified none with
  | .ok committed => return .ok committed
  | .error _ =>
    match ← Launch.laneDetail with
    | .error _ => return .error "lane r1-to-r2 persistence outcome is unavailable"
    | .ok detail =>
      if committedTransitionMatches snapshot .IdentityVerified none detail.snapshot then
        return .ok detail.snapshot
      else if detail.snapshot.generation_id = snapshot.generation_id ∧
          detail.snapshot.kickoff_operation_id = snapshot.kickoff_operation_id ∧
          detail.snapshot.launch_operation_id = snapshot.launch_operation_id ∧
          detail.snapshot.executor_id = snapshot.executor_id ∧
          detail.snapshot.worker_effect_kind = snapshot.worker_effect_kind ∧
          detail.thread_id = args.thread ∧ detail.snapshot.durable_launch_state = .Claimed ∧
          detail.snapshot.revision = snapshot.revision then
        match ← transitionLane detail.snapshot .SessionCreationAmbiguous
          (some "r1-to-r2-persistence-failed-after-create") with
        | .ok _ => return .error "lane r1-to-r2 persistence failed after session creation"
        | .error error => return .error error
      else return .error "lane r1-to-r2 persistence outcome is unavailable"

def launchClaimed (args : TmuxNewArgs) (snapshot : LaneSnapshot) : Launch (Except String Unit) := do
  match ← Launch.newSession with
  | .PreExecutionFailure | .DefinitiveFailure =>
    abandonLane snapshot (sessionCreateFailed snapshot).1 (sessionCreateFailed snapshot).2
      "lane tmux session creation failed"
  | .PossiblyExecuted =>
    abandonLane snapshot .SessionCreationAmbiguous "owner-aborted-before-r2"
      "lane tmux session creation outcome is ambiguous"
  | .Created =>
    match (← writeLaneIdentityMarkers snapshot).category with
    | some category =>
      abandonLane snapshot .SessionCreationAmbiguous category "lane tmux identity marker proof failed"
    | none =>
      match ← verifyNewLane args snapshot with
      | .error error => return .error error
      | .ok snapshot =>
        if snapshot.durable_launch_state = .Launched then return .ok ()
        else
          match snapshot.worker_effect_kind with
          | .SessionCreation => finalizeSessionCreationOwner snapshot
          | .CommandSubmission => finalizeCommandOwner args snapshot

def launchLaneSession (args : TmuxNewArgs) : Launch (Except String Unit) := do
  match validateLaneArgs args with
  | .error error => return .error error
  | .ok () =>
    match (← Launch.laneDetail).toOption.filter fun detail =>
      detail.snapshot.workflow != .Retired with
    | some detail =>
      if args.thread ≠ detail.thread_id then
        return .error "lane thread target conflicts with retained lane"
      else finalizeExistingLane args
    | none =>
      match ← registerNewLane args with
      | .error error => return .error error
      | .ok snapshot =>
        let kicked_off ← match args.kickoff with
          | none => pure (Except.ok snapshot)
          | some kickoff => deliverKickoff snapshot kickoff
        match kicked_off with
        | .error error => return .error error
        | .ok snapshot =>
          match ← claimNewLane args snapshot with
          | .error error => return .error error
          | .ok snapshot =>
            if snapshot.durable_launch_state ≠ .Claimed then finalizeExistingLane args
            else launchClaimed args snapshot

end Clawhip.Tmux
