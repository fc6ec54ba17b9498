import Clawhip.Events.Event
import Clawhip.Gjc.Snapshot

/-!
# The events of the bridge

The builders of `src/gjc_sdk_events.rs`. An event's payload is built by inserting fields one after
the other; every event has the fields of `baseObject`, among them an identity that is a hash of what
the event is about.
-/

namespace Clawhip.Gjc

open OrdMap

/-- What the bridge takes from libraries. -/
structure Libraries where
  /-- A time that parses as RFC 3339, formatted again. -/
  reformatRfc3339 : String → Option String
  /-- `fnv1a64` of a text's bytes. -/
  hash : String → ℕ

/-- The libraries with the program's own hash. -/
def Libraries.ofReformat (reformatRfc3339 : String → Option String) : Libraries := ⟨reformatRfc3339, Text.fnv1a64⟩

def BRIDGE_SOURCE : String := "gjc-sdk"
def BRIDGE_TOOL : String := "gjc"

/-- The name of a gate's kind. -/
def GateKind.asStr : GateKind → String
  | ask => "ask"
  | workflow => "workflow"

/-- The name of an endpoint's health. -/
def EndpointHealth.asStr : EndpointHealth → String
  | ok => "ok"
  | degraded => "degraded"
  | failed => "failed"

/-! ## Payloads -/

/-- A field to insert, if it has a value. -/
abbrev Field := String × Option Json

/-- Insert fields one after the other. -/
def insertFields (object : OrdMap String Json) (fields : List Field) : OrdMap String Json :=
  fields.foldl (fun object field => match field.2 with
    | some value => object.insert field.1 value
    | none => object) object

def text (key value : String) : Field := (key, some (.string value))

/-- A text as a field, unless it is missing. -/
def textIfSome (key : String) (value : Option String) : Field := (key, value.map .string)

/-- A text as a field, unless it is missing or empty. -/
def textIfAny (key : String) (value : Option String) : Field :=
  textIfSome key (value.filter fun value => !value.isEmpty)

def count (key : String) (n : ℕ) : Field := (key, some (Json.ofNat n))

def finishEvent (kind : String) (object : OrdMap String Json) : IncomingEvent where
  kind := kind
  channel := none
  mention := none
  format := none
  template := none
  payload := .object object

/-! ## Builders -/

structure SnapshotContext where
  session_id : String
  snapshot : Snapshot
  timestamp : String

/-- `SnapshotContext::new`; `now` is the time for a snapshot that says none. -/
def SnapshotContext.new (x : Libraries) (session_id : String) (snapshot : Snapshot) (now : String) :
    SnapshotContext where
  session_id := session_id
  snapshot := snapshot
  timestamp := (snapshot.observed_at.bind fun value => x.reformatRfc3339 (Text.trim value)).getD now

/-- A selection that a session shows, if it shows one. -/
def shownSelection (value : Option String) : Option String := (value.map sanitize).filter fun value => !value.isEmpty

namespace SnapshotContext

variable (x : Libraries) (context : SnapshotContext)

/-- The identifier of the snapshot's turn, or nothing. -/
def turnId : String := (context.snapshot.turn.map fun turn => sanitize turn.id).getD ""

/-- The identifier of the snapshot's prompt, or nothing. -/
def commandId : String := (context.snapshot.prompt.map fun prompt => sanitize prompt.command_id).getD ""

/-- What an event is about, which its identity is made from. -/
def identity (kind : String) (identity_parts : List String) : String :=
  let gate_component := (context.snapshot.gate.map fun gate =>
    sanitize gate.id ++ "|" ++ toString gate.revision).getD ""
  let routing_identity := "|".intercalate <| [context.snapshot.repo_name,
    context.snapshot.repo_path, context.snapshot.worktree_path, context.snapshot.branch].map
      fun value => sanitize (value.getD "")
  "|".intercalate [kind, context.session_id, context.turnId, gate_component, routing_identity,
    "|".intercalate identity_parts]

/-- The identifier of an event. -/
def eventId (kind : String) (identity_parts : List String) : String :=
  "gjc-" ++ Text.replace kind "." "-" ++ "-" ++ Text.hex16 (x.hash (context.identity kind identity_parts))

/-- The fields of `base_object`. -/
def baseFields (kind status : String) (identity_parts : List String) : List Field :=
  let event_id := context.eventId x kind identity_parts
  [text "tool" BRIDGE_TOOL, text "provider" BRIDGE_TOOL, text "source" BRIDGE_SOURCE,
    text "agent_name" BRIDGE_TOOL, textIfAny "status" (some status),
    text "session_id" context.session_id, count "sdk_revision" context.snapshot.revision,
    textIfAny "repo_name" (context.snapshot.repo_name.map sanitize),
    textIfAny "repo_path" (context.snapshot.repo_path.map sanitize),
    textIfAny "worktree_path" (context.snapshot.worktree_path.map sanitize),
    textIfAny "branch" (context.snapshot.branch.map sanitize),
    text "event_timestamp" context.timestamp, textIfAny "turn_id" (some context.turnId),
    textIfAny "command_id" (some context.commandId), textIfAny "model" (context.snapshot.model.map publicText),
    textIfAny "profile" (context.snapshot.profile.map publicText),
    text "event_id" event_id, text "correlation_id" ("gjc-" ++ context.session_id),
    text "idempotency_key" event_id]

def baseObject (kind status : String) (identity_parts : List String) : OrdMap String Json :=
  insertFields [] (context.baseFields x kind status identity_parts)

/-- `lifecycle_event`; `insert_summary` is its summary field. -/
def lifecycleEvent (kind status : String) (attempt : ℕ) (summary error_message : Option String)
    (identity_parts : List String) (extra_fields : List Field) : IncomingEvent :=
  let event_identity := (if 0 < attempt then [toString attempt] else []) ++ identity_parts
  let object := context.baseObject x kind status event_identity
  finishEvent kind <| insertFields object <| (if 0 < attempt then [count "attempt" attempt] else []) ++
      [textIfAny "summary" (summary.map publicText), textIfSome "error_message" error_message] ++ extra_fields

/-- What a gate event says about the gate in one object. -/
def question (gate : Gate) (summary : String) : Json :=
  Json.ofFields [("id", .string (sanitize gate.id)), ("kind", .string gate.kind.asStr),
    ("revision", Json.ofNat gate.revision), ("summary", .string summary),
    ("workflow_id", Json.ofOption gate.workflow_id), ("title", Json.ofOption gate.title),
    ("options", .array (gate.options.map fun option => .string (publicText option)))]

def gateSummary (gate : Gate) : String :=
  ((gate.summary.map publicText).filter fun value => !value.isEmpty).getD <| match gate.kind with
    | .ask => "operator input requested"
    | .workflow => "workflow gate requires approval"

def gateEvent (kind : String) (gate : Gate) : IncomingEvent :=
  let summary := gateSummary gate
  finishEvent kind <| insertFields (context.baseObject x kind "" [])
    [("question", some (question gate summary)), text "question_id" (sanitize gate.id),
      text "question_summary" summary, text "gate_kind" gate.kind.asStr,
      count "gate_revision" gate.revision, textIfAny "turn_id" (some context.turnId),
      textIfAny "command_id" (some context.commandId), text "summary" summary]

def endpointFailedEvent (endpoint : Endpoint) (endpoint_episode : ℕ) : IncomingEvent :=
  let endpoint_episode := max (max endpoint_episode context.snapshot.endpoint_episode) 1
  let health := endpoint.health.asStr
  let detail := (endpoint.detail.map publicEndpointDetail).getD "sdk endpoint unavailable"
  let object := context.baseObject x "session.endpoint-failed" "endpoint-failed"
    [health, "episode-" ++ toString endpoint_episode]
  finishEvent "session.endpoint-failed" <| insertFields object
    [text "endpoint_health" health, text "error_message" detail,
      text "summary" ("endpoint " ++ health ++ ": " ++ detail)]

/-- What a change of a selection says. -/
def selectionChange (name : String) (tracked current : Option String) : List String :=
  if current != tracked then
    [name ++ " " ++ tracked.getD "unset" ++ " -> " ++ current.getD "unset"]
  else []

/-- `model_change_event`: the event if there is one, and the model and profile tracked from now on. -/
def modelChangeEvent (tracked_model tracked_profile : Option String) :
    Option IncomingEvent × Option String × Option String :=
  let model := shownSelection context.snapshot.model
  let profile := shownSelection context.snapshot.profile
  if tracked_model.isNone && tracked_profile.isNone then (none, model, profile)
  else if model == tracked_model && profile == tracked_profile then
    (none, tracked_model, tracked_profile)
  else
    let parts := selectionChange "model" tracked_model model ++
      selectionChange "profile" tracked_profile profile
    let object := context.baseObject x "session.model-changed" "model-changed"
      [tracked_model.getD "unset", model.getD "unset", tracked_profile.getD "unset", profile.getD "unset"]
    let event := finishEvent "session.model-changed" <| insertFields object
      [textIfSome "model" model, textIfSome "profile" profile, text "summary" (", ".intercalate parts)]
    (some event, model, profile)

end SnapshotContext

/-! ## Reading payloads -/

variable (object : OrdMap String Json)

/-- A field reads back the last value that was inserted for it. -/
theorem get_insertFields (fields : List Field) (key : String) : get (insertFields object fields) key =
      ((fields.reverse.find? fun field => decide (field.1 = key) && field.2.isSome).elim
        (get object key) Prod.snd) := by
  induction fields generalizing object with
  | nil => rfl
  | cons field fields ih =>
    obtain ⟨name, value⟩ := field
    rw [List.reverse_cons, List.find?_append]
    show get (insertFields _ fields) key = _
    rw [ih]
    cases hfind : fields.reverse.find? fun field => decide (field.1 = key) && field.2.isSome with
    | some found => rfl
    | none =>
      cases value with
      | none => simp
      | some value =>
        by_cases hname : name = key
        · subst hname
          simp
        · simp [hname, get_insert_ne _ _ (Ne.symm hname)]

/-- Fields under other names leave a field as it is. -/
theorem get_insertFields_of_ne {fields : List Field} {key : String}
    (h : ∀ field ∈ fields, field.1 ≠ key) : get (insertFields object fields) key = get object key := by
  have hnone : (fields.reverse.find? fun field => decide (field.1 = key) && field.2.isSome) = none := by
    rw [List.find?_eq_none]
    intro field hfield
    simp [h field (List.mem_reverse.mp hfield)]
  rw [get_insertFields, hnone]
  rfl

namespace SnapshotContext

variable (x : Libraries) (context : SnapshotContext) (kind status : String)

/-- Every event of a snapshot that shows a turn names the turn. -/
theorem baseObject_turnId (parts : List String) (h : context.turnId ≠ "") :
    get (context.baseObject x kind status parts) "turn_id" = some (.string context.turnId) := by
  unfold baseObject baseFields
  rw [get_insertFields]
  simp [text, textIfAny, textIfSome, count, h]

/-- A lifecycle event of a snapshot that shows a turn names the turn. -/
theorem lifecycleEvent_turnId (attempt : ℕ)
    (summary error_message : Option String) (parts : List String) {extra : List Field}
    (hextra : ∀ field ∈ extra, field.1 ≠ "turn_id") (h : context.turnId ≠ "") :
    (context.lifecycleEvent x kind status attempt summary error_message parts extra).payload.get
      "turn_id" = some (.string context.turnId) := by
  show get (insertFields _ _) "turn_id" = _
  rw [get_insertFields_of_ne]
  · exact context.baseObject_turnId x _ _ _ h
  · intro field hfield
    simp only [List.mem_append, List.mem_cons, List.not_mem_nil, or_false] at hfield
    rcases hfield with (hfield | rfl | rfl) | hfield
    · split_ifs at hfield
      · rw [List.mem_singleton.mp hfield]
        simp [count]
      · exact absurd hfield List.not_mem_nil
    · simp [textIfAny, textIfSome]
    · simp [textIfSome]
    · exact hextra field hfield

end SnapshotContext

end Clawhip.Gjc
