import Clawhip.Cron.Schedule
import Clawhip.Events.Normalize
import Clawhip.Http.Redaction

/-!
# Native hooks

`incoming_event_from_native_hook_json` of `src/native_hooks.rs`: the payload that an agent's hook
sends becomes an event. Each field of the event has a chain of pointers that it is read from; a
request of a question tool is recognised on the way, and such an event carries a copy of the payload
that is built from a few fields only. `Surroundings` is what the function asks the disk and `git`.
-/

namespace Clawhip.Hooks

open Normalize (firstString firstBoolish firstU64ish fileName)

/-- What is found around a directory: `infer_repo_root` and `load_project_metadata_file`. -/
structure Surroundings where
  inferRepoRoot : String → Option String
  loadProjectMetadataFile : String → Option Json

/-! ## Event names -/

def mapSharedEvent (value : String) : Option String :=
  match Text.toAsciiLowercase (Text.trim value) with
  | "sessionstart" | "session-start" | "session.started" | "started" => some "session.started"
  | "pretooluse" | "pre-tool-use" => some "tool.pre"
  | "posttooluse" | "post-tool-use" => some "tool.post"
  | "userpromptsubmit" | "user-prompt-submit" | "prompt-submitted" | "session.prompt-submitted" =>
    some "session.prompt-submitted"
  | "stop" | "sessionstop" | "session-stopped" => some "session.stopped"
  | _ => none

def normalizedEventLabel (kind : String) : String :=
  match kind with
  | "session.started" => "started"
  | "tool.pre" => "pre-tool-use"
  | "tool.post" => "post-tool-use"
  | "question.requested" => "question.requested"
  | "session.prompt-submitted" => "prompt-submitted"
  | "session.stopped" => "stop"
  | other => other

/-! ## Reading a payload -/

section Reading

variable (payload : Json)

def provider : String :=
  (firstString payload [["provider"], ["source", "provider"], ["context", "provider"]]).getD
    "unknown"

def eventName : Option String := firstString payload [["event_name"], ["event"], ["hook_event_name"], ["hookEventName"]]

def directory : Option String :=
  firstString payload [["directory"], ["cwd"], ["context", "directory"], ["context", "cwd"],
    ["source", "directory"], ["projectPath"], ["context", "projectPath"], ["repo_path"], ["worktree_path"]]

def worktreePath : Option String :=
  (firstString payload [["worktree_path"], ["context", "worktree_path"]]).or (directory payload)

def explicitNormalizationOutcome : Option String :=
  firstString payload [["normalization_outcome"], ["context", "normalization_outcome"],
    ["event_payload", "normalization_outcome"], ["payload", "normalization_outcome"]]

def repoPath (around : Surroundings) : Option String :=
  (firstString payload [["repo_path"], ["context", "repo_path"]]).or
    ((worktreePath payload).bind around.inferRepoRoot)

def normalizationOutcome (around : Surroundings) : Option String :=
  (explicitNormalizationOutcome payload).or
    (if (repoPath payload around).isNone then some "non_git" else none)

/-- `load_effective_project_metadata`, with the roots that its caller gives it. -/
def projectMetadata (around : Surroundings) : Option Json :=
  ((payload.get "project_metadata").or ((repoPath payload around).bind around.loadProjectMetadataFile)).or
    (((worktreePath payload).or (directory payload)).bind around.loadProjectMetadataFile)

def payloadRepoName : Option String :=
  firstString payload [["repo_name"], ["context", "repo_name"], ["project"], ["project_name"], ["projectName"]]

def projectMetadataString (metadata : Option Json) (keys : List String) : Option String :=
  metadata.bind fun metadata => firstString metadata (keys.map fun key => [key])

def pathBasename (path : String) : Option String := Text.nonblank (fileName path)

def canonicalizeRepoName (payload_repo_name canonical_repo_name repo_path worktree_path :
    Option String) : Option String :=
  match payload_repo_name with
  | some name =>
    if ((repo_path.bind pathBasename).any fun repo_name => repo_name != name) ∧
        worktree_path.bind pathBasename = some name then
      canonical_repo_name.or (some name)
    else some name
  | none => canonical_repo_name

def canonicalRepoName (around : Surroundings) : Option String :=
  (projectMetadataString (projectMetadata payload around) ["repo_name", "repo", "name"]).or
    (((repoPath payload around).or (worktreePath payload)).bind pathBasename)

def repoName (around : Surroundings) : Option String :=
  canonicalizeRepoName (payloadRepoName payload) (canonicalRepoName payload around)
    (repoPath payload around) (worktreePath payload)

def projectName (around : Surroundings) : Option String :=
  (firstString payload [["project"], ["project_name"], ["projectName"], ["context", "project"],
    ["context", "project_name"], ["context", "projectName"]]).or
    (projectMetadataString (projectMetadata payload around) ["name", "project_name"])

def projectId (around : Surroundings) : Option String :=
  (firstString payload [["project_id"], ["projectId"], ["context", "project_id"], ["context", "projectId"]]).or
    (projectMetadataString (projectMetadata payload around) ["id", "project_id"])

def source : String :=
  (firstString payload [["source"], ["source", "name"], ["context", "source"],
    ["agent_name"]]).getD (provider payload)

def sessionId : Option String :=
  firstString payload [["session_id"], ["sessionId"], ["context", "session_id"],
    ["context", "sessionId"], ["event_payload", "session_id"], ["event_payload", "sessionId"]]

def turnId : Option String := firstString payload [["turn_id"], ["turnId"], ["context", "turn_id"]]

def transcriptPath : Option String :=
  firstString payload [["transcript_path"], ["transcriptPath"], ["context", "transcript_path"],
    ["context", "transcriptPath"]]

def model : Option String := firstString payload [["model"], ["context", "model"]]

/-- The pointers that a tool's name is read from. -/
def toolNamePointers : List (List String) :=
  [["tool_name"], ["toolName"], ["context", "tool_name"], ["event_payload", "tool_name"],
    ["event_payload", "toolName"]]

def toolName : Option String := firstString payload toolNamePointers

def eventPayload : Json := ((payload.get "event_payload").or (payload.get "payload")).getD (.object [])

def tmuxSession : Option String :=
  firstString payload [["tmux_session"], ["tmuxSession"], ["context", "tmux_session"],
    ["context", "tmuxSession"], ["event_payload", "tmux_session"], ["event_payload", "tmuxSession"],
    ["event_payload", "tmux", "session"]]

def tmuxWindow : Option String :=
  firstString payload [["tmux_window"], ["tmuxWindow"], ["context", "tmux_window"],
    ["context", "tmuxWindow"], ["event_payload", "tmux_window"], ["event_payload", "tmuxWindow"],
    ["event_payload", "tmux", "window"]]

def tmuxPane : Option String :=
  firstString payload [["tmux_pane"], ["tmuxPane"], ["context", "tmux_pane"],
    ["context", "tmuxPane"], ["event_payload", "tmux_pane"], ["event_payload", "tmuxPane"],
    ["event_payload", "tmux", "pane"]]

def tmuxPaneTty : Option String :=
  firstString payload [["tmux_pane_tty"], ["tmuxPaneTty"], ["context", "tmux_pane_tty"],
    ["context", "tmuxPaneTty"], ["event_payload", "tmux_pane_tty"],
    ["event_payload", "tmuxPaneTty"], ["event_payload", "tmux", "pane_tty"],
    ["event_payload", "tmux", "paneTty"]]

def tmuxAttached : Option Bool :=
  firstBoolish payload [["tmux_attached"], ["tmuxAttached"], ["context", "tmux_attached"],
    ["context", "tmuxAttached"], ["event_payload", "tmux_attached"],
    ["event_payload", "tmuxAttached"], ["event_payload", "tmux", "attached"]]

def tmuxClientCount : Option ℕ :=
  firstU64ish payload [["tmux_client_count"], ["tmuxClientCount"],
    ["context", "tmux_client_count"], ["context", "tmuxClientCount"],
    ["event_payload", "tmux_client_count"], ["event_payload", "tmuxClientCount"],
    ["event_payload", "tmux", "client_count"], ["event_payload", "tmux", "clientCount"]]

def augmentation : Option Json := (payload.get "augmentation").or (payload.pointer ["event_payload", "augmentation"])

def stopContext : Option Json := (payload.get "stop_context").or (payload.pointer ["event_payload", "stop_context"])

end Reading

/-! ## Question requests -/

structure QuestionRequest where
  source : String
  summary : String

def isQuestionToolName (tool_name : String) : Bool :=
  ["ask", "askuser", "askuserquestion", "askquestion", "userquestion"].contains <|
    String.ofList ((tool_name.toList.filter Char.isAlphanum).map Char.toLower)

def publicSafeSummary (value : String) (max_chars : ℕ) : String :=
  let spaced := String.ofList (value.toList.map fun c => if Http.isControl c then ' ' else c)
  let collapsed := " ".intercalate (Cron.splitWhitespace spaced)
  String.ofList (Http.truncateChars collapsed.toList max_chars)

/-- The pointers that a question's text is read from. -/
def questionPointers : List (List String) :=
  [["tool_input", "question"], ["tool_input", "prompt"], ["tool_input", "message"],
    ["tool_input", "query"], ["tool_input", "input"],
    ["event_payload", "tool_input", "question"], ["event_payload", "tool_input", "prompt"],
    ["event_payload", "tool_input", "message"], ["event_payload", "tool_input", "query"],
    ["event_payload", "tool_input", "input"],
    ["payload", "tool_input", "question"], ["payload", "tool_input", "prompt"],
    ["payload", "tool_input", "message"], ["payload", "tool_input", "query"],
    ["payload", "tool_input", "input"],
    ["event_payload", "question"], ["event_payload", "prompt"], ["event_payload", "message"],
    ["payload", "question"], ["payload", "prompt"], ["payload", "message"]]

/-- The public summary of the question's text, unless it is empty. -/
def publicQuestion (payload : Json) : Option String :=
  ((firstString payload questionPointers).map fun value => publicSafeSummary value 160).filter
    fun value => !value.isEmpty

/-- The name of a tool event as `detect_question_request` compares it. -/
def detectedEvent (event_name : String) : String :=
  String.ofList ((Text.toAsciiLowercase (Text.trim event_name)).toList.filter fun c => c != '-')

def detectQuestionRequest (event_name : String) (tool_name : Option String) (payload : Json) :
    Option QuestionRequest :=
  let event := detectedEvent event_name
  if event ≠ "pretooluse" ∧ event ≠ "posttooluse" then none
  else tool_name.bind fun tool_name =>
    if isQuestionToolName tool_name then
      some {
        source := "ask-tool"
        summary := (publicQuestion payload).getD
          ("operator question requested via " ++ tool_name) }
    else none

/-- A text of the event under a key, where there is one. -/
def put (fields : OrdMap String Json) (key : String) (value : Option Json) : OrdMap String Json :=
  match value with
  | some value => fields.insert key value
  | none => fields

def copySafePayloadString (safe : OrdMap String Json) (payload : Json) (key : String)
    (pointers : List (List String)) : OrdMap String Json :=
  put safe key ((firstString payload pointers).map fun value => .string (publicSafeSummary value 160))

/-- The fields that `safe_question_payload` copies, and the pointers of each. -/
def safePayloadFields : List (String × List (List String)) :=
  [("provider", [["provider"]]), ("source", [["source"]]),
    ("event_name", [["event_name"], ["event"], ["hook_event_name"], ["hookEventName"]]),
    ("tool_name", [["tool_name"], ["toolName"], ["event_payload", "tool_name"], ["event_payload", "toolName"]]),
    ("session_id", [["session_id"], ["sessionId"], ["event_payload", "session_id"],
      ["event_payload", "sessionId"]]),
    ("turn_id", [["turn_id"], ["turnId"]]), ("repo_path", [["repo_path"], ["context", "repo_path"]]),
    ("worktree_path", [["worktree_path"], ["context", "worktree_path"]]),
    ("repo_name", [["repo_name"], ["context", "repo_name"]]),
    ("project", [["project"], ["project_name"], ["projectName"]]), ("directory", [["directory"], ["cwd"]]),
    ("model", [["model"], ["context", "model"]])]

def safeQuestionPayload (payload : Json) (request : QuestionRequest) : Json :=
  let safe := safePayloadFields.foldl
    (fun safe field => copySafePayloadString safe payload field.1 field.2) []
  let safe := OrdMap.insert safe "question_summary" (.string request.summary)
  let safe := OrdMap.insert safe "question_source" (.string request.source)
  let safe := OrdMap.insert safe "redacted" (.bool true)
  .object (OrdMap.insertMissing safe "redaction_reason" (some (.string "question request payload omitted")))

/-! ## Augmentation and stop context -/

def mergeObjectLike (payload : OrdMap String Json) (key : String) (incoming : Json) :
    OrdMap String Json :=
  match payload.get key, incoming with
  | some (.object existing), .object incoming =>
    payload.insert key <| .object <| incoming.foldl
      (fun (existing : OrdMap String Json) field => existing.insertMissing field.1 (some field.2)) existing
  | none, incoming => payload.insert key incoming
  | _, _ => payload

def mergeArrayLike (payload : OrdMap String Json) (key : String) (incoming : Json) :
    OrdMap String Json :=
  match payload.get key, incoming with
  | some (.array existing), .array incoming => payload.insert key (.array (existing ++ incoming))
  | none, .array incoming => payload.insert key (.array incoming)
  | _, _ => payload

/-- A part of the augmentation is merged into the event's fields, where it is there. -/
def mergePart (merge : OrdMap String Json → String → Json → OrdMap String Json) (key : String)
    (part : Option Json) (payload : OrdMap String Json) : OrdMap String Json :=
  match part with
  | some part => merge payload key part
  | none => payload

def applyAugmentation (payload : OrdMap String Json) (augmentation : Option Json) :
    OrdMap String Json :=
  match augmentation with
  | some (.object fields) =>
    let given := Json.object fields
    let payload := match Text.nonblank ((given.get "summary").bind Json.asStr) with
      | some summary => payload.insertMissing "summary" (some (.string summary))
      | none => payload
    let payload := mergePart mergeObjectLike "additional_context" (given.get "additional_context")
      payload
    let payload := mergePart mergeArrayLike "recent_context" (given.get "recent_context") payload
    let payload := mergePart mergeObjectLike "frontmatter" (given.get "frontmatter") payload
    let payload := mergePart mergeObjectLike "message" (given.get "message") payload
    let payload := mergePart mergeObjectLike "message_context" (given.get "context") payload
    payload.insert "augmentation" given
  | _ => payload

def applyStopContext (payload : OrdMap String Json) (stop_context : Option Json) :
    OrdMap String Json :=
  match stop_context with
  | some (.object fields) =>
    let given := Json.object fields
    let said (key : String) : Option Json :=
      (Text.nonblank ((given.get key).bind Json.asStr)).map .string
    let payload := payload.insertMissing "summary" (said "last_prompt_summary")
    let payload := put payload "last_prompt_summary" (said "last_prompt_summary")
    let payload := put payload "last_prompt_at" (said "last_prompt_at")
    let payload := put payload "last_turn_id" (said "last_turn_id")
    payload.insert "stop_context" given
  | _ => payload

/-! ## The event -/

def texted (value : Option String) : Option Json := value.map .string

/-- The fields that are written first. -/
def headFields (payload : Json) (event_name kind : String) : List (String × Option Json) :=
  [("provider", some (.string (provider payload))), ("source", some (.string (source payload))),
    ("tool", some (.string (provider payload))), ("agent_name", some (.string (provider payload))),
    ("event_name", some (.string event_name)), ("hook_event_name", some (.string event_name)),
    ("normalized_event", some (.string (normalizedEventLabel kind)))]

/-- The copies of the payload: redacted ones for a question request. -/
def payloadFields (payload : Json) (request : Option QuestionRequest) :
    List (String × Option Json) :=
  match request with
  | some request =>
    [("event_payload", some (safeQuestionPayload (eventPayload payload) request)),
      ("payload", some (safeQuestionPayload payload request)),
      ("route_key", some (.string "question.requested")), ("question", some (.string request.summary)),
      ("question_summary", some (.string request.summary)), ("summary", some (.string request.summary)),
      ("question_source", some (.string request.source))]
  | none => [("event_payload", some (eventPayload payload)), ("payload", some payload)]

/-- The fields that are written where the payload has them. -/
def readFields (around : Surroundings) (payload : Json) : List (String × Option Json) :=
  [("directory", texted (directory payload)), ("worktree_path", texted (worktreePath payload)),
    ("repo_path", texted (repoPath payload around)),
    ("normalization_outcome", texted (normalizationOutcome payload around)),
    ("repo_name", texted (repoName payload around)), ("project", texted (projectName payload around)),
    ("project_name", texted (projectName payload around)), ("project_id", texted (projectId payload around)),
    ("project_metadata", projectMetadata payload around), ("session_id", texted (sessionId payload)),
    ("turn_id", texted (turnId payload)), ("transcript_path", texted (transcriptPath payload)),
    ("model", texted (model payload)), ("tool_name", texted (toolName payload)),
    ("tmux_session", texted (tmuxSession payload)), ("tmux_window", texted (tmuxWindow payload)),
    ("tmux_pane", texted (tmuxPane payload)), ("tmux_pane_tty", texted (tmuxPaneTty payload)),
    ("tmux_attached", (tmuxAttached payload).map .bool),
    ("tmux_client_count", (tmuxClientCount payload).map Json.ofNat)]

/-- The fields are written one after the other. -/
def write (fields : List (String × Option Json)) : OrdMap String Json :=
  fields.foldl (fun written field => put written field.1 field.2) []

def incomingEventFromNativeHookJson (around : Surroundings) (payload : Json) :
    Except String IncomingEvent :=
  match eventName payload with
  | none => .error "missing native hook event name"
  | some event_name =>
    match mapSharedEvent event_name with
    | none => .error ("unsupported native hook event '" ++ event_name ++ "'")
    | some shared_kind =>
      let question_request := detectQuestionRequest event_name (toolName payload) payload
      let canonical_kind := if question_request.isSome then "question.requested" else shared_kind
      let normalized := write (headFields payload event_name canonical_kind ++
        payloadFields payload question_request ++ readFields around payload)
      let normalized := applyAugmentation normalized (augmentation payload)
      let normalized := applyStopContext normalized (stopContext payload)
      .ok {
        kind := canonical_kind
        channel := none
        mention := none
        format := none
        template := none
        payload := .object normalized }

end Clawhip.Hooks
