import Clawhip.Gjc.Receipts
import Clawhip.Lib.Machine

/-!
# The control plane

`GjcControlPlane::mutate` of `src/gjc/control.rs`. A call is resumed at the points where it awaits
something; what it meets there (a transport or none, the lease, the reply of the peer, the disk) is
an input. A process is a plane with its calls, and can be started again at any time.
-/

namespace Clawhip.Gjc

/-! ## Calls -/

structure ControlRequestEnvelope where
  session : String
  expected_session : Option String
  idempotency_key : String
  timeout_ms : ℕ
deriving DecidableEq

/-- `ControlRequestEnvelope::MAX_TIMEOUT_MS`. -/
def MAX_TIMEOUT_MS : ℕ := 60000

/-- A call of `mutate`, with the id and the time that it draws for its receipt. -/
structure Command where
  envelope : ControlRequestEnvelope
  kind : CommandKind
  command_id : String
  created_at : String
deriving DecidableEq

namespace Command

variable (command : Command)

def key : String := command.envelope.idempotency_key

/-- The receipt of a command that is reserved. -/
def receipt : CommandReceipt where
  schema := GJC_CONTROL_SCHEMA
  command_id := command.command_id
  idempotency_key := command.key
  kind := command.kind.asStr
  session_id := command.envelope.session
  status := .accepted
  turn_id := none
  outcome := none
  created_at := command.created_at

/-- `ControlRequestEnvelope::validate` and the check of the expected session. -/
def check : Except ControlError Unit :=
  if command.envelope.timeout_ms = 0 ∨ MAX_TIMEOUT_MS < command.envelope.timeout_ms then
    .error (.invalidRequest "timeout_ms" ("must be 1..=" ++ toString MAX_TIMEOUT_MS))
  else if command.envelope.expected_session.any fun expected =>
      decide (expected ≠ command.envelope.session) then
    .error (.sessionMismatch command.envelope.session)
  else .ok ()

/-- What a receipt with the command's key answers to it. -/
def answerOf (existing : CommandReceipt) : Except ControlError CommandReceipt :=
  if existing.session_id ≠ command.envelope.session ∨ existing.kind ≠ command.kind.asStr then
    .error (.invalidRequest "idempotency_key" "key is bound to another session or command kind")
  else if existing.status.isTerminal then .ok existing
  else .error (.invalidRequest "idempotency_key" "command is already in flight")

/-- The answer to a command whose key is in the registry. -/
def replayed (registry : Receipts) : Option (Except ControlError CommandReceipt) :=
  (registry.get command.key).map command.answerOf

end Command

/-- Where a call is. -/
inductive Stage where
  | entering
  | checking
  | resolving
  | reserving
  | dispatching
  | exchanging
  /-- The peer accepted; the receipt is to be acked. -/
  | acking (turn_id : Option String) (outcome : Option PublicOutcome)
  /-- The receipt was acked, and is to be given the outcome. -/
  | finishing (terminal : CommandStatus) (outcome : PublicOutcome) (acked : CommandReceipt)
  | returned (result : Except ControlError CommandReceipt)

/-- What a call meets where it is resumed. -/
structure Meets where
  /-- What `capabilities().require(..)` gives. -/
  capabilities : Except ControlError Unit
  /-- What `resolve_transport` gives. -/
  transport : Except ControlError Unit
  /-- What `validate_mutation_lease` gives. -/
  lease : Except ControlError Unit
  /-- What `round_trip` gives. -/
  reply : Except ControlError Json
  disk : JournalDisk
  /-- The receipt that is found first when one is to be evicted. -/
  evicts : String

/-- What a plane works on: the registry, its journal, and the receipts in the journal's file. -/
structure PlaneState where
  registry : Receipts
  journal : ReceiptJournal
  file : Receipts

namespace PlaneState

variable (format : ReceiptFormat) (plane : PlaneState)

/-- A registry is written; it is the one in use if that works, and otherwise another one is. -/
def persisting (disk : JournalDisk) (candidate rollback : Receipts) :
    PlaneState × Except ControlError Unit :=
  let written := persistReceipts format disk plane.file candidate
  ({ plane with
    registry := match written.2 with
      | .ok () => candidate
      | .error _ => rollback
    file := written.1 }, written.2)

/-- The receipt that makes room, if there is one that may. -/
def evictable (registry : Receipts) (evicts : String) : Option (String × CommandReceipt) :=
  match (registry.get evicts).filter fun receipt => receipt.status.isTerminal with
  | some receipt => some (evicts, receipt)
  | none => registry.find? fun entry => entry.2.status.isTerminal

/-- The part of `mutate` under the first write lock. -/
def reserve (command : Command) (meets : Meets) : PlaneState × Stage :=
  match command.replayed plane.registry with
  | some result => (plane, .returned result)
  | none =>
    let reserved (written : PlaneState × Except ControlError Unit) : PlaneState × Stage :=
      (written.1, match written.2 with
        | .ok () => .dispatching
        | .error error => .returned (.error error))
    if MAX_COMMAND_RECEIPTS ≤ plane.registry.length then
      match evictable plane.registry meets.evicts with
      | none => (plane, .returned (.error (.invalidRequest "idempotency_key"
          "command receipt capacity is exhausted by active commands")))
      | some (key, evicted) =>
        let candidate := OrdMap.insert (plane.registry.erase key) command.key command.receipt
        reserved (plane.persisting format meets.disk candidate
          (OrdMap.insert (candidate.erase command.key) key evicted))
    else
      let candidate := OrdMap.insert plane.registry command.key command.receipt
      reserved (plane.persisting format meets.disk candidate (candidate.erase command.key))

/-- The status that an outcome gives its receipt. -/
def terminalStatus (outcome : PublicOutcome) : Option CommandStatus :=
  (parsePromptStatus outcome.status).bind fun status =>
    if status.isTerminal then
      some (if status = .succeeded then .completed else .failed)
    else none

/-- The part of `mutate` under the second write lock, and the check of the outcome after it. -/
def acknowledge (command : Command) (meets : Meets) (turn_id : Option String)
    (outcome : Option PublicOutcome) : PlaneState × Stage :=
  match plane.registry.get command.key with
  | none => (plane, .returned (.error (.invalidRequest "idempotency_key"
      "command registry entry vanished mid-flight")))
  | some previous =>
    if !previous.status.canTransitionTo .acked then
      (plane, .returned (.error (.ambiguousAck command.kind.asStr)))
    else
      let acked := { previous with status := .acked, turn_id := turn_id.or previous.turn_id }
      let candidate := OrdMap.insert plane.registry command.key acked
      let written := plane.persisting format meets.disk candidate
        (OrdMap.insert candidate command.key previous)
      (written.1, match written.2 with
        | .error error => .returned (.error error)
        | .ok () => match outcome with
          | none => .returned (.ok acked)
          | some outcome => match terminalStatus outcome with
            | some terminal => .finishing terminal outcome acked
            | none => .returned (.error (.invalidPeerReply command.kind.asStr
                "peer ack carried no terminal outcome status")))

/-- The part of `mutate` under the third write lock. -/
def finish (command : Command) (meets : Meets) (terminal : CommandStatus)
    (outcome : PublicOutcome) (acked : CommandReceipt) : PlaneState × Stage :=
  match (plane.registry.get command.key).filter fun entry =>
      entry.status.canTransitionTo terminal with
  | none => (plane, .returned (.ok acked))
  | some previous =>
    let finished := { previous with status := terminal, outcome := some outcome }
    let candidate := OrdMap.insert plane.registry command.key finished
    let written := plane.persisting format meets.disk candidate
      (OrdMap.insert candidate command.key previous)
    (written.1, match written.2 with
      | .error error => .returned (.error error)
      | .ok () => .returned (.ok finished))

/-- What is read off a reply: the command's turn and its outcome, if the peer accepted it. -/
def readReply (command : Command) (reply : Json) :
    Except ControlError (Option String × Option PublicOutcome) :=
  if (((reply.get "accepted").bind Json.asBool).getD false) = false then
    .error (.ambiguousAck command.kind.asStr)
  else match (reply.get "session_id").bind Json.asStr with
    | none => .error (.ambiguousAck command.kind.asStr)
    | some echoed =>
      if echoed ≠ command.envelope.session then
        .error (.sessionMismatch command.envelope.session)
      else .ok ((reply.get "turn_id").bind Json.asStr,
        (reply.get "outcome").map (publicOutcome format.canonicalTime))

/-- A call is resumed. The last part of the answer is the command whose request is handed to the
transport. -/
def resume (command : Command) (meets : Meets) : Stage → PlaneState × Stage × Option Command
  | .entering =>
    let loaded := plane.journal.ensureLoaded plane.registry
    ({ plane with journal := loaded.1.1, registry := loaded.1.2 },
      match loaded.2 >>= fun _ => command.check with
      | .ok () => .checking
      | .error error => .returned (.error error), none)
  | .checking =>
    (plane, match command.replayed plane.registry with
      | some result => .returned result
      | none => .resolving, none)
  | .resolving =>
    (plane, match (do
        meets.capabilities
        meets.transport
        if !validId command.command_id then
          .error (ControlError.invalidRequest "command_id" "must be 1..=128 bytes")) with
      | .ok () => .reserving
      | .error error => .returned (.error error), none)
  | .reserving =>
    let reserved := plane.reserve format command meets
    (reserved.1, reserved.2, none)
  | .dispatching =>
    match meets.lease with
    | .ok () => (plane, .exchanging, some command)
    | .error error => (plane, .returned (.error error), none)
  | .exchanging =>
    (plane, match (do
        let reply ← meets.reply
        meets.lease
        readReply format command reply) with
      | .ok (turn_id, outcome) => .acking turn_id outcome
      | .error error => .returned (.error error), none)
  | .acking turn_id outcome =>
    let acked := plane.acknowledge format command meets turn_id outcome
    (acked.1, acked.2, none)
  | .finishing terminal outcome acked =>
    let finished := plane.finish format command meets terminal outcome acked
    (finished.1, finished.2, none)
  | .returned result => (plane, .returned result, none)

end PlaneState

/-! ## Processes -/

/-- A process with one plane and the calls made so far. -/
structure Process where
  plane : PlaneState
  calls : List (Command × Stage)

/-- What happens to a process. -/
inductive ProcessInput where
  | call (command : Command)
  | resume (index : ℕ) (meets : Meets)
  /-- The process starts again; what it says of the journal's file, if it cannot read it, and whether
  the registry is locked when the plane is made. -/
  | restart (complaint : Option String) (locked : Bool)

/-- What a step does outside. -/
structure Progress where
  /-- The request that was handed to the transport. -/
  handed : Option Command := none
  /-- The command that was answered with a receipt after its exchange. -/
  answered : Option (Command × CommandReceipt) := none

/-- The receipt that a call returned. -/
def Stage.receipt? : Stage → Option CommandReceipt
  | returned (.ok receipt) => some receipt
  | _ => none

/-- The command went out to its peer. -/
def Stage.exchanged : Stage → Bool
  | acking _ _ | finishing _ _ _ => true
  | _ => false

namespace Process

variable (format : ReceiptFormat)

/-- A process starts with what the journal's file holds. -/
def start (file : Receipts) (complaint : Option String) (locked : Bool) : Process :=
  let journal : ReceiptJournal := { pending := some (loadReceiptJournal format complaint file) }
  let merged := journal.mergeEarly locked []
  ⟨⟨merged.2, merged.1, file⟩, []⟩

def step (process : Process) : ProcessInput → Process × Progress
  | .call command => ({ process with calls := process.calls ++ [(command, .entering)] }, {})
  | .resume index meets =>
    match process.calls[index]? with
    | none => (process, {})
    | some (command, stage) =>
      let resumed := process.plane.resume format command meets stage
      (⟨resumed.1, process.calls.set index (command, resumed.2.1)⟩,
        { handed := resumed.2.2
          answered := if stage.exchanged then resumed.2.1.receipt?.map fun receipt => (command, receipt)
            else none })
  | .restart complaint locked => (start format process.plane.file complaint locked, {})

/-- A process with one plane, as a machine. -/
def machine : Machine Process ProcessInput Progress := ⟨step format⟩

end Process

end Clawhip.Gjc
