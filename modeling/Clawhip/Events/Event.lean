import Clawhip.Json

/-!
# Events and deliveries

The records that the dispatcher passes around: `IncomingEvent` of `src/events.rs` with its canonical
kind, and `ResolvedDelivery` of `src/router.rs` with its sink target.
-/

namespace Clawhip

/-- How a message is laid out. -/
inductive MessageFormat where
  | compact
  | alert
  | inline
  | raw
deriving DecidableEq

def MessageFormat.asStr : MessageFormat → String
  | compact => "compact"
  | alert => "alert"
  | inline => "inline"
  | raw => "raw"

/-- An event as it enters the dispatcher. -/
structure IncomingEvent where
  kind : String
  channel : Option String
  mention : Option String
  format : Option MessageFormat
  template : Option String
  payload : Json

namespace IncomingEvent

/-- `IncomingEvent::canonical_kind`: the aliases of the event kinds. -/
def canonicalKind (e : IncomingEvent) : String :=
  match e.kind with
  | "issue-opened" => "github.issue-opened"
  | "discord.message_create" => "discord.message-create"
  | "discord.message.created" => "discord.message-create"
  | "discord.message-create" => "discord.message-create"
  | "git.pr-status-changed" => "github.pr-status-changed"
  | "session-start" => "session.started"
  | "started" => "session.started"
  | "session-idle" => "session.blocked"
  | "blocked" => "session.blocked"
  | "session-end" => "session.finished"
  | "finished" => "session.finished"
  | "failed" => "session.failed"
  | "retry-needed" => "session.retry-needed"
  | "pr-created" => "session.pr-created"
  | "test-started" => "session.test-started"
  | "test-finished" => "session.test-finished"
  | "test-failed" => "session.test-failed"
  | "handoff-needed" => "session.handoff-needed"
  | "prompt-submitted" => "session.prompt-submitted"
  | "prompt-delivered" => "session.prompt-delivered"
  | "prompt-delivery-failed" => "session.prompt-delivery-failed"
  | "stopped" => "session.stopped"
  | other => other

end IncomingEvent

/-- Where a sink sends. -/
inductive SinkTarget where
  | discordChannel (channel : String)
  | discordThread (thread : String)
  | discordWebhook (webhook : String)
  | slackWebhook (webhook : String)
  | httpEndpoint (endpoint : String)
  | localFile (path : String)
deriving DecidableEq

/-- Whether a route matched, the default channel was used, or neither. -/
inductive RouteTraceResult where
  | matched
  | fallback
  | none

/-- How a delivery came about. -/
structure RouteTrace where
  result : RouteTraceResult
  matched_route_index : Option ℕ
  event_pattern : Option String
  filter_keys : List String
  target : String

/-- One delivery that the router resolved for an event. -/
structure ResolvedDelivery where
  sink : String
  target : SinkTarget
  format : MessageFormat
  mention : Option String
  template : Option String
  allow_dynamic_tokens : Bool
  trace : RouteTrace

end Clawhip
