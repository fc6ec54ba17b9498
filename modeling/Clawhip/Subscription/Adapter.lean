import Clawhip.Events.Constructors

/-!
# What a subscription's adapter says

`adapter_event` of `src/source/subscription.rs`, the gate for what an adapter prints, and
`IncomingEvent::subscription` of `src/events.rs`, the event that is made of what passes it. The parser of the
printed text and the identifiers and times of an event come from outside.
-/

namespace Clawhip

/-- What `IncomingEvent::subscription` draws: two fresh identifiers and the time. -/
structure SubscriptionDraw where
  event_id : String
  correlation_id : String
  first_seen_at : String
  received_at : String

namespace IncomingEvent

/-- What `IncomingEvent::subscription` writes after the routing fields. -/
def subscriptionFields (draw : SubscriptionDraw) (kind name : String) : OrdMap String (Option String) :=
  [("event_id", some draw.event_id), ("correlation_id", some draw.correlation_id),
    ("first_seen_at", some draw.first_seen_at), ("contract_event", some kind),
    ("subscription_name", some name), ("subscription_transport", some "websocket"),
    ("subscription_received_at", some draw.received_at)]

def subscription (draw : SubscriptionDraw) (kind : String) (payload : Json) (routing : RoutingMetadata)
    (name : String) : IncomingEvent :=
  let event : IncomingEvent :=
    { kind, channel := none, mention := none, format := none, template := none, payload }
  (subscriptionFields draw kind name).foldl (fun event field => event.setField field.1 field.2)
    (event.withRoutingMetadata routing)

end IncomingEvent

namespace Subscription

def SENSITIVE_KEYS : List String :=
  ["token", "secret", "password", "passwd", "authorization", "cookie", "credential", "credentials",
    "api_key", "apikey", "access_token", "refresh_token", "private_key", "client_secret", "endpoint",
    "url", "uri", "webhook"]

def RESERVED_KEYS : List String :=
  ["channel", "mention", "format", "template", "type", "kind", "event", "event_id", "correlation_id",
    "first_seen_at", "raw_event", "contract_event", "event_timestamp", "timestamp", "observed_at",
    "created_at", "tool", "project", "repo", "repo_name", "repo_path", "worktree", "worktree_path",
    "directory", "session", "session_name", "session_id", "branch", "provider", "source",
    "subscription_name", "subscription_transport", "subscription_received_at", "ingress_source",
    "_clawhip", "clawhip", "routing", "metadata"]

/-- The words of a part of a key without separators: a capital letter starts a new one. -/
def camelWords : List Char → List Char → List String
  | current, [] => if current.isEmpty then [] else [String.ofList current]
  | current, c :: cs =>
    if c.isUpper && !current.isEmpty then String.ofList current :: camelWords [c.toLower] cs
    else camelWords (current ++ [c.toLower]) cs

/-- The components of a key in `forbidden_key`. -/
def keyComponents (key : String) : List String := (key.toList.splitOnP fun c => !c.isAlphanum).flatMap (camelWords [])

def forbiddenKey (key : String) : Bool :=
  let components := keyComponents key
  let canonical := String.intercalate "_" components
  SENSITIVE_KEYS.contains canonical || RESERVED_KEYS.contains canonical ||
    components.any fun component =>
      SENSITIVE_KEYS.contains component || RESERVED_KEYS.contains component

mutual

def jsonDepth : Json → ℕ
  | .array items => 1 + itemsDepth items
  | .object fields => 1 + fieldsDepth fields
  | _ => 0

/-- The depth of the deepest item. -/
def itemsDepth : List Json → ℕ
  | [] => 0
  | item :: items => max (jsonDepth item) (itemsDepth items)

/-- The depth of the deepest field. -/
def fieldsDepth : List (String × Json) → ℕ
  | [] => 0
  | (_, value) :: fields => max (jsonDepth value) (fieldsDepth fields)

end

mutual

def safePayload : Json → Bool
  | .object fields => decide (fields.length ≤ 32) && safeFields fields
  | .array items => safeItems items
  | _ => true

/-- No field has a forbidden key or an unsafe value. -/
def safeFields : List (String × Json) → Bool
  | [] => true
  | (key, value) :: fields => (!forbiddenKey key && safePayload value) && safeFields fields

/-- No item is unsafe. -/
def safeItems : List Json → Bool
  | [] => true
  | item :: items => safePayload item && safeItems items

end

/-- The loop of `valid_event_kind`. -/
def validKindFrom : Bool → List Char → Bool
  | last_separator, [] => !last_separator
  | last_separator, c :: cs =>
    if !(c.isLower || c.isDigit) && c != '.' && c != '-' then false
    else if c == '.' || c == '-' then !last_separator && validKindFrom true cs
    else validKindFrom false cs

def validEventKind (kind : String) : Bool :=
  if kind.isEmpty || decide (96 < kind.utf8ByteSize) || Text.contains kind "://" ||
      Text.contains kind "@" then false
  else validKindFrom true kind.toList && kind.toList.head?.any Char.isLower

structure RestrictedAdapterEvent where
  kind : String
  payload : Json

/-- What is read of `SubscriptionConfig`. -/
structure SubscriptionConfig where
  name : String
  /-- `adapter.max_stdout_bytes`. -/
  max_stdout_bytes : ℕ
  routing : RoutingMetadata

/-- `adapter_event`; `deserialize` reads a whole text as a `RestrictedAdapterEvent`. -/
def adapterEvent (deserialize : List UInt8 → Option RestrictedAdapterEvent) (stdout : List UInt8)
    (config : SubscriptionConfig) : Except String IncomingEvent :=
  if stdout.isEmpty || decide (config.max_stdout_bytes < stdout.length) then
    .error "adapter_invalid_output"
  else match deserialize stdout with
    | none => .error "adapter_invalid_output"
    | some output =>
      if !validEventKind output.kind || !output.payload.isObject ||
          decide (8 < jsonDepth output.payload) || !safePayload output.payload then
        .error "adapter_reserved_field"
      else .ok {
        kind := output.kind
        channel := none
        mention := none
        format := none
        template := none
        payload := output.payload }

/-- What the worker sends for an event of its adapter, as it is dispatched. -/
def dispatched (config : SubscriptionConfig) (draw : SubscriptionDraw) (stamp : Normalize.Stamp)
    (event : IncomingEvent) : IncomingEvent :=
  normalizeEvent stamp
    (IncomingEvent.subscription draw event.kind event.payload config.routing config.name)

end Subscription

end Clawhip
