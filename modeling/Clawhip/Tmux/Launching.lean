import Clawhip.Tmux.Evidence
import Clawhip.Tmux.Launch

/-!
# Concurrent launches

Any number of wrappers launch a lane for one session: the daemon's lane and its tmux session are what they
share. A session that has been created keeps its options, and no second one of its name is created.
-/

namespace Clawhip.Tmux

/-! ## The shared world -/

/-- What can be seen of the wrappers: who does it comes first. A lane is committed with the submitted marker
that the session has then. -/
inductive LaunchEntry (ι : Type) where
  | registered (who : ι) (generation_id : String)
  | created (who : ι)
  | sent (who : ι) (generation_id : String)
  | committed (who : ι) (lane : LaneEvidence) (marker : Option String)
  | read (who : ι) (value : MarkerRead)
  | ended (who : ι)
deriving DecidableEq

def LaunchEntry.who {ι : Type} : LaunchEntry ι → ι
  | .registered who _ | .created who | .sent who _ | .committed who _ _ | .read who _ | .ended who => who

/-- The daemon's registry, the session, and what has happened, the latest first. -/
structure LaunchWorld (ι α : Type) where
  store : Store α := {}
  /-- The options of the session, once it is there. -/
  tmux : Option (OrdMap String String) := none
  log : List (LaunchEntry ι) := []

/-- How far a request to the daemon gets. -/
inductive Delivery where
  | answered
  | unanswered
  | undelivered

/-- What becomes of a tmux command; one whose result is lost may have had its effect. -/
inductive CommandRun where
  | notSpawned
  | succeeded
  | failed
  | lost (effect : Bool)
deriving DecidableEq

/-- What a move decides: what becomes of the request or the command, whether the daemon can write its file,
the generation that it mints, and what Discord answers. -/
structure LaunchChoice where
  delivery : Delivery := .answered
  written : Except String Unit := .ok ()
  generation : ℕ := 1
  command : CommandRun := .succeeded
  message : Except DiscordLaneError (String × String) := .ok ("1", "now")

def normalizeLaneMarker (value : String) : String := Text.trim value

namespace LaunchWorld

variable {ι α : Type}

/-- The value of an option of the session. -/
def marker (world : LaunchWorld ι α) (option : String) : Option String := world.tmux.bind (·.get option)

/-- `read_lane_marker`. -/
def readMarker (world : LaunchWorld ι α) (option : String) (run : CommandRun) : MarkerRead :=
  if run = .succeeded ∧ world.tmux.isSome = true then
    match (world.marker option).map normalizeLaneMarker with
    | none => .Missing
    | some value => if value.isEmpty then .Missing else .Exact value
  else .Unreadable

def note (world : LaunchWorld ι α) (entry : LaunchEntry ι) : LaunchWorld ι α := { world with log := entry :: world.log }

/-- The registry after a request, with a note of the lane that it wrote. -/
def hold (session : String) (world : LaunchWorld ι α) (store : Store α)
    (entry : LaneEvidence → Option (LaunchEntry ι)) : LaunchWorld ι α :=
  { world with
    store
    log :=
      if store.registry.lane session = world.store.registry.lane session then world.log
      else ((store.registry.lane session).bind entry).toList ++ world.log }

/-- A request to the daemon: it may be lost, or its response. -/
def request {β : Type} (session : String) (world : LaunchWorld ι α) (delivery : Delivery)
    (served : Except String β × Store α) (entry : LaneEvidence → Option (LaunchEntry ι)) :
    LaunchWorld ι α × Except String β :=
  match delivery with
  | .answered => (world.hold session served.2 entry, served.1)
  | .unanswered => (world.hold session served.2 entry, .error "the response was lost")
  | .undelivered => (world, .error "the request was lost")

/-- The snapshot that a call answers. -/
def snapshotOf : Answer → Except String LaneSnapshot
  | .snapshot answer => answer
  | _ => .error "no snapshot"

/-- A request about the lane. -/
def ask (codec : RegistryCodec α) (session : String) (world : LaunchWorld ι α) (delivery : Delivery)
    (call : Call) (entry : LaneEvidence → Option (LaunchEntry ι)) :
    LaunchWorld ι α × Except String LaneSnapshot :=
  let (answer, store) := call.on codec 0 world.store
  world.request session delivery (snapshotOf answer, store) entry

/-- `new-session`. -/
def createSession (who : ι) (world : LaunchWorld ι α) (run : CommandRun) :
    LaunchWorld ι α × DetachedSessionOutcome :=
  let created := { world with tmux := some [] }.note (.created who)
  match run, world.tmux with
  | .notSpawned, _ => (world, .PreExecutionFailure)
  | .succeeded, none => (created, .Created)
  | .lost true, none => (created, .PossiblyExecuted)
  | .lost _, _ => (world, .PossiblyExecuted)
  | _, _ => (world, .DefinitiveFailure)

/-- `set-option`. -/
def setMarker (world : LaunchWorld ι α) (option value : String) (run : CommandRun) :
    LaunchWorld ι α × MarkerSetOutcome :=
  let set := { world with tmux := world.tmux.map (·.insert option value) }
  match run with
  | .notSpawned => (world, .PreExecutionFailure)
  | .succeeded => (set, if world.tmux.isSome then .Confirmed else .PossiblyExecuted)
  | .lost true => (set, .PossiblyExecuted)
  | .lost false | .failed => (world, .PossiblyExecuted)

/-- How the world answers a wrapper. -/
def serve (codec : RegistryCodec α) (session : String) (who : ι) (request : LaunchRequest)
    (choice : LaunchChoice) (world : LaunchWorld ι α) : LaunchWorld ι α × request.Reply :=
  match request with
  | .laneDetail =>
    world.request session choice.delivery
      (laneDetailForSession world.store.registry session, world.store) fun _ => none
  | .registerLane input =>
    world.request session choice.delivery
      (world.store.registerLaneRegistration codec choice.written choice.generation id input)
      fun lane => some (.registered who lane.generation_id)
  | .claimLane generation_id executor_id expected_revision =>
    world.ask codec session choice.delivery
      (.claim world.store.registry session generation_id executor_id expected_revision choice.written)
      fun _ => none
  | .recordLaneDelivery input =>
    world.ask codec session choice.delivery
      (.recordDelivery world.store.registry input choice.written) fun _ => none
  | .updateLaneEvidence input =>
    world.ask codec session choice.delivery
      (.updateEvidence world.store.registry input choice.written)
      fun lane => some (.committed who lane (world.marker LANE_COMMAND_SUBMITTED_OPTION))
  | .sendThread _ => (world, choice.message)
  | .newSession => world.createSession who choice.command
  | .sessionExists =>
    (world, if choice.command = .succeeded then .ok world.tmux.isSome
      else .error "tmux has-session failed")
  | .setLaneMarker option value => world.setMarker option value choice.command
  | .readLaneMarker option _ =>
    let value := world.readMarker option choice.command
    (if option = LANE_COMMAND_SUBMITTED_OPTION then world.note (.read who value) else world, value)
  | .submitCommand _ lane =>
    (world.note (.sent who lane.generation_id),
      if choice.command = .succeeded then .ok () else .error "tmux send-keys failed")

/-- The operations of others on the lane: they do not launch it. -/
def others : Call → Bool
  | .recordVerification .. | .recordDelivery .. | .retire .. | .updateWorkflow .. => true
  | _ => false

end LaunchWorld

/-- The wrappers of a session: every one draws its own generation. -/
structure Launches (ι : Type) (session : String) where
  args : ι → TmuxNewArgs
  session_eq : ∀ who, (args who).registration.session = session
  fresh : ∀ who other, (args who).generation_id = (args other).generation_id → who = other

section System

variable {ι α : Type} (codec : RegistryCodec α) (session : String)

/-- The world that the wrappers of a session share, with what others do to its lane. -/
def launchShared : Shared ι LaunchRequest.Reply (LaunchWorld ι α) LaunchChoice Call where
  serve := LaunchWorld.serve codec session
  halt who world := world.note (.ended who)
  disturb call world :=
    if LaunchWorld.others call then { world with store := (call.on codec 0 world.store).2 } else world

/-- All wrappers, before their first step. -/
def Launches.start (launches : Launches ι session) :
    Threads ι LaunchRequest.Reply (LaunchWorld ι α) where
  programs who := (launchLaneSession (launches.args who)).bind fun _ => .pure ()
  world := {}

end System

/-! ## What a launch promises -/

variable {ι α : Type}

/-- What has to come before an entry: a command is sent once for a generation, by the wrapper that registered
it, after its identity was verified; and a lane is launched only with its own submitted marker. -/
def LaunchEntry.Justified (older : List (LaunchEntry ι)) : LaunchEntry ι → Prop
  | .sent who generation_id =>
    .registered who generation_id ∈ older ∧ (∃ committer lane marker, .committed committer lane marker ∈ older ∧
        lane.generation_id = generation_id ∧ lane.launch_state = .IdentityVerified) ∧
      ∀ other, .sent other generation_id ∉ older
  | .committed _ lane marker =>
    lane.launch_state = .Launched → marker.map normalizeLaneMarker = some lane.launch_operation_id
  | _ => True

/-- Every entry of a log is justified. -/
def Justified : List (LaunchEntry ι) → Prop
  | [] => True
  | entry :: older => entry.Justified older ∧ Justified older

/-- A generation whose marker its owner read back is not committed as ambiguous. -/
def Unambiguous {session : String} (launches : Launches ι session) (log : List (LaunchEntry ι)) : Prop :=
  ∀ who, .read who (.Exact (launches.args who).launch_operation_id) ∈ log →
    ∀ committer lane marker, .committed committer lane marker ∈ log →
      lane.generation_id = (launches.args who).generation_id → lane.launch_state ≠ .CommandSubmitAmbiguous

/-- A second wrapper that reads the submitted marker of a verified command lane finds that of the lane, or the
owner has ended without it. -/
def CarefulRead {session : String} (launches : Launches ι session) (who : ι) (request : LaunchRequest)
    (choice : LaunchChoice) (world : LaunchWorld ι α) : Prop :=
  match request with
  | .readLaneMarker option lane =>
    option = LANE_COMMAND_SUBMITTED_OPTION → lane.durable_launch_state = .IdentityVerified →
      lane.worker_effect_kind = .CommandSubmission → lane.generation_id ≠ (launches.args who).generation_id →
      world.readMarker option choice.command = .Exact lane.launch_operation_id ∨
        (world.marker option).map normalizeLaneMarker ≠ some lane.launch_operation_id ∧
          ∀ owner, (launches.args owner).generation_id = lane.generation_id → .ended owner ∈ world.log
  | _ => True

end Clawhip.Tmux
