import Clawhip.Gjc.Snapshot
import Clawhip.Json
import Clawhip.Lib.Outcome

/-!
# Command receipts

The receipts of `src/gjc/model.rs` and the receipt journal of `src/gjc/control.rs`: a registry of
receipts by idempotency key that the planes of a daemon share, and for each worktree a file to which
a plane writes the whole registry. Times and the sizes of what is serialized are parameters.
-/

namespace Clawhip.Gjc

/-! ## Commands -/

/-- `GjcCommandKind`. -/
inductive CommandKind where
  | prompt
  | steer
  | abortAndPrompt
  | workflowGateAnswer
  | askAnswer
  | modelSelection
deriving DecidableEq

/-- `GjcCommandKind::as_str`. -/
def CommandKind.asStr : CommandKind → String
  | prompt => "prompt"
  | steer => "steer"
  | abortAndPrompt => "abort_and_prompt"
  | workflowGateAnswer => "workflow_gate_answer"
  | askAnswer => "ask_answer"
  | modelSelection => "model_selection"

/-- `GjcCommandStatus`. -/
inductive CommandStatus where
  | accepted
  | acked
  | completed
  | failed
deriving DecidableEq

namespace CommandStatus

/-- `GjcCommandStatus::is_terminal`. -/
def isTerminal (status : CommandStatus) : Bool := decide (status = completed) || decide (status = failed)

/-- `GjcCommandStatus::can_transition_to`. -/
def canTransitionTo : CommandStatus → CommandStatus → Bool
  | accepted, acked | accepted, completed | accepted, failed
  | acked, acked | acked, completed | acked, failed => true
  | _, _ => false

end CommandStatus

inductive GjcPromptStatus where
  | queued
  | running
  | succeeded
  | failed
  | aborted
deriving DecidableEq

def GjcPromptStatus.isTerminal (status : GjcPromptStatus) : Bool :=
  decide (status = succeeded) || decide (status = failed)

def parsePromptStatus (raw : String) : Option GjcPromptStatus :=
  if raw = "queued" then some .queued
  else if raw = "running" then some .running
  else if raw = "succeeded" then some .succeeded
  else if raw = "failed" then some .failed
  else if raw = "aborted" then some .aborted
  else none

/-- The errors of the control plane, `GjcError`. -/
inductive ControlError where
  | transportUnavailable
  | timeout (method : String)
  | ambiguousAck (method : String)
  | invalidPeerReply (method reason : String)
  | missingCapability (capability : String)
  | staleEndpoint (capability : String)
  | sessionMismatch (expected : String)
  | sessionNotFound (session_id : String)
  | invalidRequest (field reason : String)

def receiptJournalError (reason : String) : ControlError := .invalidRequest "receipt_journal" reason

/-! ## Outcomes -/

/-- What `public_outcome` keeps of an outcome. -/
structure PublicOutcome where
  status : String
  turn_id : Option String := none
  finished_at : Option String := none
  summary : Option String := none
deriving DecidableEq

/-- The outcome as the value that is stored. -/
def PublicOutcome.toJson (outcome : PublicOutcome) : Json :=
  let field (name : String) (value : Option String) : List (String × Json) :=
    value.toList.map fun text => (name, .string text)
  .ofFields ([("status", .string outcome.status)] ++ field "turn_id" outcome.turn_id ++
    field "finished_at" outcome.finished_at ++ field "summary" outcome.summary)

/-- An ASCII letter or digit. -/
def isAsciiAlphanumeric (c : Char) : Bool := c.isAlphanum

/-- The words that a summary must not contain. -/
def summarySecrets : List String :=
  ["token", "secret", "password", "api_key", "api-key", "private_key", "authorization", "apikey",
    "credential", "passwd", "auth:", "auth=", "bearer", "://"]

/-- A summary with nothing that looks like a secret. -/
def safeSummary (summary : String) : Bool :=
  let lower := Text.toAsciiLowercase summary
  let compact := String.ofList (lower.toList.filter isAsciiAlphanumeric)
  decide (summary.utf8ByteSize ≤ 128) &&
    (summarySecrets.all fun secret => !Text.contains lower secret) &&
    !Text.contains compact "privatekey" && summary.toList.all fun c => decide (c.toNat < 128)

/-- `public_outcome`; `canonicalTime` reads a time and writes it again. -/
def publicOutcome (canonicalTime : String → Option String) (value : Json) : PublicOutcome :=
  if !value.isObject then { status := "unknown", summary := some "details redacted" }
  else
    { status := (((value.get "status").bind Json.asStr).filter fun status =>
        decide (status ∈ ["queued", "running", "succeeded", "failed", "aborted"])).getD "unknown"
      turn_id := ((value.get "turn_id").bind Json.asStr).filter fun text =>
        decide (text.utf8ByteSize ≤ 128) && !text.isEmpty &&
          text.toList.all fun c => isAsciiAlphanumeric c || c == '-' || c == '_'
      finished_at := ((value.get "finished_at").bind Json.asStr).bind canonicalTime
      summary := ((value.get "summary").bind Json.asStr).map fun summary =>
        if safeSummary summary then String.ofList (summary.toList.filter fun c => !isControl c)
        else "details redacted" }

/-! ## Receipts -/

def GJC_CONTROL_SCHEMA : String := "gjc-control/1"

def MAX_COMMAND_RECEIPTS : ℕ := 4096

def MAX_RECEIPT_BYTES : ℕ := 16 * 1024

def MAX_RECEIPT_JOURNAL_BYTES : ℕ := 4 * 1024 * 1024

structure CommandReceipt where
  schema : String
  command_id : String
  idempotency_key : String
  kind : String
  session_id : String
  status : CommandStatus
  turn_id : Option String
  outcome : Option PublicOutcome
  created_at : String
deriving DecidableEq

/-- Receipts by idempotency key. -/
abbrev Receipts := OrdMap String CommandReceipt

/-- How times and receipts are written. -/
structure ReceiptFormat where
  /-- The canonical text of a time, if the text is a time. -/
  canonicalTime : String → Option String
  receiptBytes : CommandReceipt → ℕ
  journalBytes : Receipts → ℕ

/-- The checks of `IdempotencyKey::new`. -/
def validKey (raw : String) : Bool :=
  decide (8 ≤ raw.utf8ByteSize) && decide (raw.utf8ByteSize ≤ 128) &&
    raw.toList.all fun c => !isBlank c

section

variable (format : ReceiptFormat)

/-- `validate_loaded_receipt`: the complaint, if there is one. -/
def receiptComplaint (key : String) (receipt : CommandReceipt) : Option String :=
  if !validKey key then some "receipt idempotency key is invalid"
  else if receipt.schema ≠ GJC_CONTROL_SCHEMA ∨ receipt.idempotency_key ≠ key then
    some "receipt identity is invalid"
  else if !validId receipt.command_id then some "receipt command id is invalid"
  else if !validId receipt.session_id then some "receipt session id is invalid"
  else if receipt.kind ∉ ["prompt", "steer", "abort_and_prompt", "workflow_gate_answer",
      "ask_answer", "model_selection"] then some "receipt command kind is invalid"
  else if receipt.turn_id.any fun turn_id => !validId turn_id then
    some "receipt turn id is invalid"
  else if (format.canonicalTime receipt.created_at).isNone then
    some "receipt timestamp is invalid"
  else if receipt.status.isTerminal ≠ receipt.outcome.isSome then
    some "receipt outcome state is invalid"
  else if receipt.outcome.any fun outcome =>
      decide (publicOutcome format.canonicalTime outcome.toJson ≠ outcome) then
    some "receipt outcome is not public-safe"
  else if MAX_RECEIPT_BYTES < format.receiptBytes receipt then some "receipt exceeds size limit"
  else none

/-- The first complaint about the receipts of a journal. -/
def receiptsComplaint (receipts : Receipts) : Option String :=
  receipts.findSome? fun entry => receiptComplaint format entry.1 entry.2

/-! ## The journal -/

/-- The steps of `ReceiptJournal::persist` that touch the disk. -/
inductive JournalStep where
  | write
  | replace
  | syncDirectory

/-- What a write of the journal meets on the disk. -/
structure JournalDisk where
  /-- What `validate_state_directory` complains about. -/
  directory : Option String
  fails : JournalStep → Bool

/-- What keeps a journal from being written, before anything is written. -/
def persistComplaint (disk : JournalDisk) (registry : Receipts) : Option String :=
  (receiptsComplaint format registry).or <|
    if MAX_COMMAND_RECEIPTS < registry.length then some "receipt journal exceeds capacity"
    else if MAX_RECEIPT_JOURNAL_BYTES < format.journalBytes registry then
      some "receipt journal exceeds size limit"
    else disk.directory

/-- `ReceiptJournal::persist`: the receipts in the file afterwards, and the answer. -/
def persistReceipts (disk : JournalDisk) (file registry : Receipts) :
    Receipts × Except ControlError Unit :=
  match persistComplaint format disk registry with
  | some reason => (file, .error (receiptJournalError reason))
  | none =>
    if disk.fails .write then (file, .error (receiptJournalError "receipt journal write failed"))
    else if disk.fails .replace then
      (file, .error (receiptJournalError "receipt journal replace failed"))
    else if disk.fails .syncDirectory then
      (registry, .error (receiptJournalError "receipt journal directory sync failed"))
    else (registry, .ok ())

/-- `load_receipt_journal`; `complaint` is what it says of the directory or of the file, if the file
cannot be read. A file that is not there holds no receipts. -/
def loadReceiptJournal (complaint : Option String) (file : Receipts) :
    Except ControlError Receipts :=
  match complaint with
  | some reason => .error (receiptJournalError reason)
  | none =>
    if MAX_COMMAND_RECEIPTS < file.length then
      .error (receiptJournalError "receipt journal exceeds capacity")
    else match receiptsComplaint format file with
      | some reason => .error (receiptJournalError reason)
      | none => .ok file

end

def mergeLoadedReceipts (registry receipts : Receipts) : Except ControlError Receipts :=
  let additions := receipts.keys.filter fun key => (registry.get key).isNone
  if MAX_COMMAND_RECEIPTS < receipts.length ∨ MAX_COMMAND_RECEIPTS < registry.length + additions.length then
    .error (receiptJournalError "receipt journal exceeds capacity")
  else if receipts.any fun entry => (registry.get entry.1).any fun existing =>
      decide (existing ≠ entry.2) then
    .error (receiptJournalError "receipt journal conflicts with live state")
  else .ok (registry.fill (receipts.map fun entry => (entry.1, some entry.2)))

/-- `ReceiptJournalState`. -/
structure ReceiptJournal where
  pending : Option (Except ControlError Receipts)
  loaded : Bool := false
  error : Option ControlError := none

namespace ReceiptJournal

/-- The receipts that were read are merged into the registry. -/
def merge (receipts registry : Receipts) : ReceiptJournal × Receipts :=
  match mergeLoadedReceipts registry receipts with
  | .error error => ({ pending := none, error := some error }, registry)
  | .ok registry => ({ pending := none, loaded := true }, registry)

/-- `ReceiptJournal::initialize`, when the registry is locked by somebody else or not. -/
def mergeEarly (journal : ReceiptJournal) (locked : Bool) (registry : Receipts) :
    ReceiptJournal × Receipts :=
  if journal.loaded || journal.error.isSome then (journal, registry)
  else match journal.pending with
    | none => (journal, registry)
    | some (.error error) => ({ pending := none, error := some error }, registry)
    | some (.ok receipts) => if locked then (journal, registry) else merge receipts registry

def ensureLoaded (journal : ReceiptJournal) (registry : Receipts) :
    (ReceiptJournal × Receipts) × Except ControlError Unit :=
  let answer (merged : ReceiptJournal × Receipts) :=
    (merged, match merged.1.error with
      | some error => Except.error error
      | none => .ok ())
  if journal.error.isSome || journal.loaded then answer (journal, registry)
  else match journal.pending with
    -- The source panics here; what is read stays pending until it is merged.
    | none => ((journal, registry), .error (receiptJournalError
        "receipt journal initialization state must be present"))
    | some (.error error) => answer ({ pending := none, error := some error }, registry)
    | some (.ok receipts) => answer (merge receipts registry)

end ReceiptJournal

end Clawhip.Gjc
