import Clawhip.Events.Event
import Clawhip.Lib.Text

/-!
# Event normalization

`normalize_event` of `src/events.rs`: the canonical kind of an event, and the metadata that its
payload lacks. Every metadatum has a chain of fields that it is read from, and is written under its
own name unless the payload has that name already. `Stamp` is what normalization takes from outside:
a fresh identifier and the time.
-/

namespace Clawhip

namespace Normalize

/-- What one normalization draws: a fresh identifier and the time. -/
structure Stamp where
  uuid : String
  now : String

/-! ## Reading a payload -/

/-- The first pointer at which a value reads as something. -/
def firstWith {α : Type} (read : Json → Option α) (payload : Json) (pointers : List (List String)) :
    Option α :=
  pointers.findSome? fun pointer => (payload.pointer pointer).bind read

/-- A value that reads as a nonblank text, trimmed. -/
def text (value : Json) : Option String := Text.nonblank value.asStr

def firstString : Json → List (List String) → Option String := firstWith text

def firstU64 : Json → List (List String) → Option ℕ := firstWith Json.asU64

/-- A value that reads as a flag. -/
def boolish : Json → Option Bool
  | .bool value => some value
  | .number value => value.asU64.map fun number => number != 0
  | .string value =>
    match Text.toAsciiLowercase (Text.trim value) with
    | "1" | "true" | "yes" | "attached" => some true
    | "0" | "false" | "no" | "detached" => some false
    | _ => none
  | _ => none

def firstBoolish : Json → List (List String) → Option Bool := firstWith boolish

/-- A value that reads as a count. -/
def u64ish : Json → Option ℕ
  | .number value => value.asU64
  | .string value => Text.parseU64 (Text.trim value)
  | _ => none

def firstU64ish : Json → List (List String) → Option ℕ := firstWith u64ish

/-! ## The canonical kind -/

def mapNativeSignal (raw : String) : Option String :=
  let dashed := (Text.trim raw).toList.map fun c => if c = '_' then '-' else c
  match Text.toAsciiLowercase (String.ofList dashed) with
  | "session-start" | "started" | "session.started" => some "session.started"
  | "session-idle" | "blocked" | "session.blocked" | "session.idle" | "question.requested" =>
    some "session.blocked"
  | "session-end" | "finished" | "session.finished" => some "session.finished"
  | "failed" | "session.failed" | "tool.failed" | "pull-request.failed" => some "session.failed"
  | "retry-needed" | "session.retry-needed" => some "session.retry-needed"
  | "pr-created" | "session.pr-created" | "pull-request.created" => some "session.pr-created"
  | "test-started" | "session.test-started" | "test.started" => some "session.test-started"
  | "test-finished" | "session.test-finished" | "test.finished" => some "session.test-finished"
  | "test-failed" | "session.test-failed" | "test.failed" => some "session.test-failed"
  | "handoff-needed" | "session.handoff-needed" => some "session.handoff-needed"
  | "stop" | "stopped" | "session.stopped" => some "session.stopped"
  | "userpromptsubmit" | "user-prompt-submit" | "user-prompt-submitted" | "prompt-submitted"
  | "prompt.submitted" | "session.prompt-submitted" => some "session.prompt-submitted"
  | "prompt-delivered" | "session.prompt-delivered" | "first-prompt-delivered" =>
    some "session.prompt-delivered"
  | "prompt-delivery-failed" | "session.prompt-delivery-failed"
  | "first-prompt-delivery-failed" => some "session.prompt-delivery-failed"
  | _ => none

/-- The route key that the kind is read from. -/
def signalRouteKey (payload : Json) : Option String :=
  firstString payload [["signal", "routeKey"], ["route_key"], ["context", "route_key"]]

/-- The normalized event that the kind is read from. -/
def signalEvent (payload : Json) : Option String :=
  firstString payload [["context", "normalized_event"], ["normalized_event"]]

def nativeContractKind (kind : String) (payload : Json) : Option String :=
  (((signalRouteKey payload).bind mapNativeSignal).or
    ((signalEvent payload).bind mapNativeSignal)).or (mapNativeSignal kind)

def canonicalEventKind (kind : String) (payload : Json) : String :=
  match kind with
  | "github.notification" | "github.pr-commented" | "github.pr-review-commented"
  | "github.pr-reviewed" => kind
  | "issue-opened" => "github.issue-opened"
  | "git.pr-status-changed" => "github.pr-status-changed"
  | other => (nativeContractKind other payload).getD other

def eventStatusFromKind (kind : String) : Option String :=
  match kind with
  | "agent.started" | "session.started" => some "started"
  | "agent.blocked" | "session.blocked" => some "blocked"
  | "agent.finished" | "session.finished" => some "finished"
  | "agent.failed" | "session.failed" => some "failed"
  | "session.retry-needed" => some "retry-needed"
  | "session.pr-created" => some "pr-created"
  | "session.test-started" => some "test-started"
  | "session.test-finished" => some "test-finished"
  | "session.test-failed" => some "test-failed"
  | "session.handoff-needed" => some "handoff-needed"
  | "session.prompt-submitted" => some "prompt-submitted"
  | "session.prompt-delivered" => some "prompt-delivered"
  | "session.prompt-delivery-failed" => some "prompt-delivery-failed"
  | "session.stopped" => some "stopped"
  | _ => none

/-! ## Numbers and names inside texts -/

def extractNumberAfter (text marker : String) : Option ℕ :=
  (Text.after (Text.toAsciiLowercase text) (Text.toAsciiLowercase marker)).bind fun rest =>
    Text.digitsToU64 (rest.takeWhile Char.isDigit)

def extractIssueNumber (text : String) : Option ℕ :=
  ["issue-", "issue/", "issue#", "#"].findSome? (extractNumberAfter text)

def extractPrNumberFromUrl (url : String) : Option ℕ :=
  ((Text.split url "/pull/")[1]?.bind fun tail => (Text.split tail "/").head?).bind Text.parseU64

/-- `Path::file_name` of a Unix path. -/
def fileName (path : String) : Option String :=
  match ((Text.split path "/").filter fun part => part != "" && part != ".").getLast? with
  | some ".." => none
  | part => part

def inferTestRunner (command : String) : Option String :=
  let command := Text.toAsciiLowercase command
  if Text.contains command "cargo test" then some "cargo-test"
  else if Text.contains command "pytest" then some "pytest"
  else if Text.contains command "vitest" then some "vitest"
  else if Text.contains command "jest" then some "jest"
  else if Text.contains command "go test" then some "go-test"
  else if Text.contains command "npm test" || Text.contains command "pnpm test" ||
      Text.contains command "yarn test" || Text.contains command "bun test" then
    some "package-test"
  else none

/-! ## The metadata of a payload -/

section Metadata

variable (payload : Json)

def inferTool : Option String :=
  (firstString payload [["tool"]]).or <|
    match Text.toAsciiLowercase (Text.trim ((firstString payload [["agent_name"]]).getD "")) with
    | "omc" | "openclaw" => some "omc"
    | "omx" => some "omx"
    | _ =>
      if (payload.pointer ["signal", "routeKey"]).isSome then some "omc"
      else if (payload.pointer ["context", "normalized_event"]).isSome then some "omx"
      else none

def sessionName : Option String :=
  firstString payload [["session_name"], ["context", "session_name"], ["session"], ["tmuxSession"],
    ["tmux_session"], ["context", "tmuxSession"], ["context", "tmux_session"], ["session_id"],
    ["sessionId"], ["context", "session_id"], ["context", "sessionId"]]

def sessionId : Option String :=
  firstString payload [["session_id"], ["sessionId"], ["context", "session_id"],
    ["context", "sessionId"], ["sessionId"], ["session_name"], ["context", "session_name"]]

def project : Option String :=
  firstString payload [["project"], ["projectName"], ["project_name"], ["context", "project"],
    ["context", "projectName"], ["context", "project_name"]]

def repoName : Option String :=
  (firstString payload [["repo_name"], ["context", "repo_name"], ["projectName"],
    ["context", "projectName"]]).or <|
  (firstString payload [["repo_path"], ["context", "repo_path"]]).bind fileName

def repoPath : Option String :=
  firstString payload [["repo_path"], ["context", "repo_path"], ["projectPath"], ["context", "projectPath"]]

def worktreePath : Option String :=
  firstString payload [["worktree_path"], ["context", "worktree_path"], ["projectPath"],
    ["context", "projectPath"]]

def branch : Option String := firstString payload [["branch"], ["context", "branch"]]

def command : Option String := firstString payload [["command"], ["context", "command"], ["signal", "command"]]

def toolName : Option String := firstString payload [["tool_name"], ["context", "tool_name"], ["signal", "toolName"]]

def testRunner : Option String :=
  (firstString payload [["test_runner"], ["signal", "testRunner"]]).or <| (command payload).bind inferTestRunner

def elapsedSecs : Option ℕ := firstU64 payload [["elapsed_secs"], ["context", "elapsed_secs"]]

/-- The status that the payload says. -/
def saidStatus : Option String := firstString payload [["status"], ["context", "status"], ["signal", "phase"]]

def status (canonical_kind : String) : Option String := (saidStatus payload).or (eventStatusFromKind canonical_kind)

def summary : Option String :=
  firstString payload [["summary"], ["signal", "summary"], ["reason"], ["context", "summary"],
    ["context", "contextSummary"], ["context", "reason"], ["context", "question"]]

def errorMessage (canonical_kind : String) : Option String :=
  (firstString payload [["error_message"], ["error_summary"], ["context", "error_summary"],
    ["context", "error_message"]]).or <|
  if Text.endsWith canonical_kind ".failed" then summary payload else none

def eventTimestamp : Option String := firstString payload [["event_timestamp"], ["timestamp"]]

def priorGeneratedEventId : Option String := firstString payload [["_clawhip_generated_event_id"]]

def suppliedEventId : Option String := firstString payload [["event_id"]]

def eventIdGenerated : Bool :=
  (suppliedEventId payload).isNone || suppliedEventId payload == priorGeneratedEventId payload

def eventId (stamp : Stamp) : String := (suppliedEventId payload).getD stamp.uuid

def correlationId (stamp : Stamp) : String :=
  ((firstString payload [["correlation_id"]]).or <|
    [sessionId payload, sessionName payload, project payload, repoName payload].findSome?
      fun value => value.filter fun value => !(Text.trim value).isEmpty).getD (eventId payload stamp)

def routeKey : Option String := firstString payload [["route_key"], ["signal", "routeKey"], ["context", "route_key"]]

def source : Option String := firstString payload [["source"]]

def tmuxSession : Option String :=
  firstString payload [["tmux_session"], ["tmuxSession"], ["context", "tmux_session"],
    ["context", "tmuxSession"], ["tmux", "session"], ["context", "tmux", "session"],
    ["payload", "tmux_session"], ["payload", "tmuxSession"], ["payload", "tmux", "session"]]

def tmuxWindow : Option String :=
  firstString payload [["tmux_window"], ["tmuxWindow"], ["context", "tmux_window"],
    ["context", "tmuxWindow"], ["tmux", "window"], ["context", "tmux", "window"],
    ["payload", "tmux_window"], ["payload", "tmuxWindow"], ["payload", "tmux", "window"]]

def tmuxPane : Option String :=
  firstString payload [["tmux_pane"], ["tmuxPane"], ["context", "tmux_pane"],
    ["context", "tmuxPane"], ["tmux", "pane"], ["context", "tmux", "pane"],
    ["payload", "tmux_pane"], ["payload", "tmuxPane"], ["payload", "tmux", "pane"]]

def tmuxPaneTty : Option String :=
  firstString payload [["tmux_pane_tty"], ["tmuxPaneTty"], ["context", "tmux_pane_tty"],
    ["context", "tmuxPaneTty"], ["tmux", "pane_tty"], ["tmux", "paneTty"],
    ["context", "tmux", "pane_tty"], ["context", "tmux", "paneTty"], ["payload", "tmux_pane_tty"],
    ["payload", "tmuxPaneTty"], ["payload", "tmux", "pane_tty"], ["payload", "tmux", "paneTty"]]

def tmuxAttached : Option Bool :=
  firstBoolish payload [["tmux_attached"], ["tmuxAttached"], ["context", "tmux_attached"],
    ["context", "tmuxAttached"], ["tmux", "attached"], ["context", "tmux", "attached"],
    ["payload", "tmux_attached"], ["payload", "tmuxAttached"], ["payload", "tmux", "attached"]]

def tmuxClientCount : Option ℕ :=
  firstU64ish payload [["tmux_client_count"], ["tmuxClientCount"], ["context", "tmux_client_count"],
    ["context", "tmuxClientCount"], ["tmux", "client_count"], ["tmux", "clientCount"],
    ["context", "tmux", "client_count"], ["context", "tmux", "clientCount"],
    ["payload", "tmux_client_count"], ["payload", "tmuxClientCount"],
    ["payload", "tmux", "client_count"], ["payload", "tmux", "clientCount"]]

/-- The texts that an issue number is looked for in. -/
def issueTexts : List (Option String) := [sessionName payload, branch payload, worktreePath payload, command payload]

def prUrl : Option String :=
  (firstString payload [["pr_url"], ["context", "pr_url"], ["signal", "prUrl"]]).or <|
    (summary payload).filter fun value => (extractPrNumberFromUrl value).isSome

def prNumber : Option ℕ :=
  (firstU64 payload [["pr_number"], ["context", "pr_number"]]).or <| (prUrl payload).bind extractPrNumberFromUrl

def issueNumber : Option ℕ :=
  ((firstU64 payload [["issue_number"], ["context", "issue_number"]]).or <|
    (issueTexts payload).findSome? fun text => text.bind extractIssueNumber).or (prNumber payload)

end Metadata

/-! ## Writing a payload -/

/-- A text to write, if there is one. -/
def str (value : Option String) : Option Json := value.map .string

/-- A number to write, if there is one. -/
def num (value : Option ℕ) : Option Json := value.map Json.ofNat

/-- What is written before the generated identifier is marked. -/
def headFields (stamp : Stamp) (payload : Json) (raw_kind canonical_kind : String) :
    OrdMap String (Option Json) :=
  [("raw_event", if raw_kind ≠ canonical_kind then some (.string raw_kind) else none),
    ("contract_event", some (.string canonical_kind)), ("tool", str (inferTool payload)),
    ("event_id", some (.string (eventId payload stamp)))]

/-- What is written next. -/
def stampFields (stamp : Stamp) (payload : Json) : OrdMap String (Option Json) :=
  [("correlation_id", some (.string (correlationId payload stamp))),
    ("first_seen_at", some (.string stamp.now))]

/-- What is written last. -/
def tailFields (payload : Json) (canonical_kind : String) : OrdMap String (Option Json) :=
  [("session_name", str (sessionName payload)), ("session_id", str (sessionId payload)),
    ("project", str (project payload)), ("repo_name", str (repoName payload)),
    ("repo_path", str (repoPath payload)), ("worktree_path", str (worktreePath payload)),
    ("branch", str (branch payload)), ("issue_number", num (issueNumber payload)),
    ("pr_number", num (prNumber payload)), ("pr_url", str (prUrl payload)),
    ("command", str (command payload)), ("tool_name", str (toolName payload)),
    ("test_runner", str (testRunner payload)), ("elapsed_secs", num (elapsedSecs payload)),
    ("status", str (status payload canonical_kind)),
    ("normalized_event", str (status payload canonical_kind)), ("summary", str (summary payload)),
    ("error_message", str (errorMessage payload canonical_kind)),
    ("event_timestamp", str (eventTimestamp payload)), ("route_key", str (routeKey payload)),
    ("source", str (source payload)), ("tmux_session", str (tmuxSession payload)),
    ("tmux_window", str (tmuxWindow payload)), ("tmux_pane", str (tmuxPane payload)),
    ("tmux_pane_tty", str (tmuxPaneTty payload)), ("tmux_attached", (tmuxAttached payload).map .bool),
    ("tmux_client_count", num (tmuxClientCount payload))]

/-- The mark of a generated identifier is set, or removed where the identifier was supplied. -/
def markGenerated (stamp : Stamp) (payload : Json) (object : OrdMap String Json) :
    OrdMap String Json :=
  if eventIdGenerated payload then
    object.insert "_clawhip_generated_event_id" (.string (eventId payload stamp))
  else object.erase "_clawhip_generated_event_id"

/-- The agent of an agent or session event is its tool, if nothing else is said. -/
def agentName (object : OrdMap String Json) (canonical_kind : String) : Option String :=
  if Text.startsWith canonical_kind "agent." || Text.startsWith canonical_kind "session." then
    (object.get "tool").bind text
  else none

/-- `normalize_native_metadata`, on the fields of a payload. -/
def normalizeNativeMetadata (stamp : Stamp) (object : OrdMap String Json)
    (raw_kind canonical_kind : String) : OrdMap String Json :=
  let payload := Json.object object
  let object := object.fill (headFields stamp payload raw_kind canonical_kind)
  let object := markGenerated stamp payload object
  let object := object.fill (stampFields stamp payload)
  let object := object.insertMissing "agent_name" (str (agentName object canonical_kind))
  object.fill (tailFields payload canonical_kind)

/-- The fields of a payload; a payload that is no object becomes the only field of one. -/
def payloadFields : Json → OrdMap String Json
  | .object fields => fields
  | value => [("value", value)]

end Normalize

def normalizeEvent (stamp : Normalize.Stamp) (event : IncomingEvent) : IncomingEvent :=
  let object := Normalize.payloadFields event.payload
  let canonical_kind := Normalize.canonicalEventKind event.kind (.object object)
  { event with
    kind := canonical_kind
    payload := .object (Normalize.normalizeNativeMetadata stamp object event.kind canonical_kind) }

end Clawhip
