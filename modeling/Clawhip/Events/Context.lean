import Clawhip.Events.Event
import Clawhip.Lib.Text

/-!
# The template context of an event

`IncomingEvent::template_context` of `src/events.rs`: the event's own fields, every leaf of its
payload under its dotted path, and the aliases.
-/

namespace Clawhip

mutual

/-- `flatten_json`: the leaves of a value under their dotted paths. -/
def flattenJson (path : String) (out : OrdMap String String) : Json → OrdMap String String
  | .object fields => flattenFields path out fields
  | .array items => out.insert path (Json.array items).toText
  | .string value => out.insert path value
  | .bool value => out.insert path (toString value)
  | .number value => out.insert path value.toText
  | .null => out.insert path "null"

/-- The fields of an object, one after the other. -/
def flattenFields (path : String) (out : OrdMap String String) :
    List (String × Json) → OrdMap String String
  | [] => out
  | (key, value) :: fields =>
    let next := if path.isEmpty then key else path ++ "." ++ key
    flattenFields path (flattenJson next out value) fields

end

/-- The value of a key, or `value` where there is none. -/
def orInsert (context : OrdMap String String) (key value : String) : OrdMap String String :=
  if (context.get key).isSome then context else context.insert key value

def insertContextAliasPair (context : OrdMap String String) (primary alias_key : String) :
    OrdMap String String :=
  match context.get primary, context.get alias_key with
  | some primary_value, none => context.insert alias_key primary_value
  | none, some alias_value => context.insert primary alias_value
  | _, _ => context

/-- `context.insert(key, canonical_kind)`, which keeps a value that it replaces under `payload_key`. -/
def insertKeepingPayload (context : OrdMap String String) (key payload_key canonical_kind : String) :
    OrdMap String String :=
  let inserted := context.insert key canonical_kind
  match context.get key with
  | some payload_value => orInsert inserted payload_key payload_value
  | none => inserted

def insertContextAliases (context : OrdMap String String) (canonical_kind : String) :
    OrdMap String String :=
  let context := insertKeepingPayload context "event" "payload_event" canonical_kind
  let context :=
    insertKeepingPayload context "contract_event" "payload_contract_event" canonical_kind
  let context := context.insert "kind" canonical_kind
  let context := insertContextAliasPair context "repo" "repo_name"
  let context := insertContextAliasPair context "session" "session_name"
  let context := insertContextAliasPair context "channel" "channel_hint"
  orInsert context "route_key" canonical_kind

def IncomingEvent.templateContext (event : IncomingEvent) : OrdMap String String :=
  let context : OrdMap String String := []
  let context := match Text.nonblank event.channel with
    | some channel => (context.insert "channel" channel).insert "channel_hint" channel
    | none => context
  let context := match Text.nonblank event.mention with
    | some mention => context.insert "mention" mention
    | none => context
  let context := match event.format with
    | some format => context.insert "format" format.asStr
    | none => context
  let context := match Text.nonblank event.template with
    | some template => context.insert "template" template
    | none => context
  let context := flattenJson "" context event.payload
  insertContextAliases context event.canonicalKind

end Clawhip
