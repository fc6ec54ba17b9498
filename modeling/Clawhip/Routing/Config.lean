import Clawhip.Events.Context

/-!
# Routes and their targets

What the router reads of the configuration (`RouteRule`, `DefaultsConfig`, `HttpConfig` of
`src/config.rs`), the part of `AppConfig::validate` that is about it, and `Router::target_for`:
where an event goes by a route, or by none.
-/

namespace Clawhip.Router

/-- What the router reads of `reqwest::Url`. -/
structure Url where
  scheme : String
  username : String
  password : Option String
  host_str : Option String
  port : Option ℕ
  fragment : Option String

/-- What the program takes from libraries about addresses and the printing of texts. -/
structure Libraries where
  /-- `reqwest::Url::parse`. -/
  parseUrl : String → Option Url
  /-- The text is an `IpAddr` of the loopback. -/
  isLoopback : String → Bool
  /-- A text as `{:?}` prints it. -/
  debug : String → String

/-! ## Routes -/

structure DefaultsConfig where
  channel : Option String
  format : MessageFormat

structure HttpConfig where
  endpoint : Option String
  hmac_secret_env : Option String

/-- `GajaeRouteAction`, of which only the subcommand is checked. -/
structure GajaeRouteAction where
  subcommand : String
deriving DecidableEq

structure RouteRule where
  event : String
  filter : OrdMap String String
  sink : String
  channel : Option String
  thread : Option String
  webhook : Option String
  slack_webhook : Option String
  local_path : Option String
  mention : Option String
  allow_dynamic_tokens : Bool
  format : Option MessageFormat
  template : Option String
  gajae : Option GajaeRouteAction
deriving DecidableEq

/-- What the router reads of `AppConfig`. -/
structure AppConfig where
  defaults : DefaultsConfig
  http : HttpConfig
  routes : List RouteRule

def defaultSinkName : String := "discord"

namespace HttpConfig

/-- `HttpConfig::endpoint`. -/
def endpointText (http : HttpConfig) : Option String := Text.nonblank http.endpoint

def hmacSecretEnv (http : HttpConfig) : Option String := Text.nonblank http.hmac_secret_env

def isEmpty (http : HttpConfig) : Bool := http.endpointText.isNone && http.hmacSecretEnv.isNone

end HttpConfig

namespace RouteRule

def slackWebhookTarget (route : RouteRule) : Option String :=
  (Text.nonblank route.slack_webhook).or
    (if Text.trim route.sink == "slack" then Text.nonblank route.webhook else none)

def effectiveSink (route : RouteRule) : String :=
  let sink := Text.trim route.sink
  if route.slackWebhookTarget.isSome && (sink.isEmpty || sink == "discord") then "slack"
  else if sink.isEmpty then "discord"
  else sink

/-- A field that counts for one sink only. -/
def targetOf (route : RouteRule) (sink : String) (field : Option String) : Option String :=
  if route.effectiveSink == sink then Text.nonblank field else none

def discordWebhookTarget (route : RouteRule) : Option String := route.targetOf "discord" route.webhook

def discordThreadTarget (route : RouteRule) : Option String := route.targetOf "discord" route.thread

def localFileTarget (route : RouteRule) : Option String := route.targetOf "localfile" route.local_path

end RouteRule

/-! ## Checking the configuration -/

/-- How many of some conditions hold. -/
def countTrue (conditions : List Bool) : ℕ := conditions.count true

/-- What a message about a route starts with. -/
def routeLabel (index : ℕ) (route : RouteRule) : String :=
  "route #" ++ toString (index + 1) ++ " (" ++ route.event ++ ")"

/-- The check of one route in `AppConfig::validate`. -/
def RouteRule.validate (index : ℕ) (route : RouteRule) : Except String Unit :=
  let sink := route.effectiveSink
  let has_channel := (Text.nonblank route.channel).isSome
  let has_thread_field := (Text.nonblank route.thread).isSome
  let has_thread := route.discordThreadTarget.isSome
  let has_discord_webhook := route.discordWebhookTarget.isSome
  let has_slack_webhook := route.slackWebhookTarget.isSome
  let has_webhook_field := (Text.nonblank route.webhook).isSome
  let has_slack_webhook_field := (Text.nonblank route.slack_webhook).isSome
  let has_local_path := (Text.nonblank route.local_path).isSome
  if route.gajae.any fun gajae => (Text.trim gajae.subcommand).isEmpty then
    .error (routeLabel index route ++ " GAJAE handler must set subcommand")
  else if (Text.trim route.sink).isEmpty && !has_slack_webhook then
    .error (routeLabel index route ++ " must set a sink")
  else if !(["discord", "slack", "http", "localfile"].contains sink) then
    .error (routeLabel index route ++ " uses unsupported sink '" ++ sink ++ "'")
  else match sink with
    | "discord" =>
      if 1 < countTrue [has_channel, has_thread, has_discord_webhook] then
        .error (routeLabel index route ++ " must set only one Discord target: channel, thread, or webhook")
      else .ok ()
    | "slack" =>
      if has_channel then
        .error (routeLabel index route ++ " cannot set channel when sink = \"slack\"")
      else if has_webhook_field && has_slack_webhook_field then
        .error (routeLabel index route ++ " cannot set both webhook and slack_webhook for Slack delivery")
      else if !has_slack_webhook then
        .error (routeLabel index route ++ " must set webhook or slack_webhook when sink = \"slack\"")
      else .ok ()
    | "localfile" =>
      if has_channel || has_discord_webhook || has_slack_webhook then
        .error (routeLabel index route ++ " cannot set channel/webhook fields when sink = \"localfile\"")
      else if route.localFileTarget.isNone then
        .error (routeLabel index route ++ " must set local_path when sink = \"localfile\"")
      else .ok ()
    | _ =>
      if has_channel || has_thread_field || has_webhook_field || has_slack_webhook_field ||
          has_local_path then
        .error (routeLabel index route ++ " cannot set channel/thread/webhook/local_path fields when sink = \"http\"")
      else .ok ()

def validEnvVarName (name : String) : Bool :=
  match name.toList with
  | [] => false
  | c :: cs => (c == '_' || c.isAlpha) && cs.all fun c => c == '_' || c.isAlphanum

section Validate

variable (lib : Libraries)

def urlHostIsLoopback (url : Url) : Bool :=
  url.host_str.any fun host =>
    let lower := Text.toAsciiLowercase host
    lower == "localhost" || lower == "localhost." ||
      lib.isLoopback (String.ofList (Text.strip (fun c => c == '[' || c == ']') host.toList))

def validateHttpEndpoint (endpoint : String) : Except String Unit :=
  match lib.parseUrl endpoint with
  | none => .error "providers.http.endpoint must be an absolute http:// or https:// URL"
  | some url =>
    if !url.username.isEmpty || url.password.isSome then
      .error "providers.http.endpoint must not contain credentials"
    else if url.fragment.isSome then
      .error "providers.http.endpoint must not contain a fragment"
    else if url.host_str.isNone then .error "providers.http.endpoint must include a host"
    else if url.scheme == "https" then .ok ()
    else if url.scheme == "http" then
      if urlHostIsLoopback lib url then .ok ()
      else .error "plain HTTP providers.http.endpoint must use a loopback host"
    else .error "providers.http.endpoint must use http:// or https://"

namespace AppConfig

def hasHttpRoutes (config : AppConfig) : Bool := config.routes.any fun route => route.effectiveSink == "http"

/-- The check of the HTTP sink in `AppConfig::validate`. -/
def validateHttp (config : AppConfig) : Except String Unit :=
  if config.hasHttpRoutes || !config.http.isEmpty then
    match config.http.endpointText with
    | none => .error "providers.http.endpoint is required when the HTTP sink is configured"
    | some endpoint => do
      validateHttpEndpoint lib endpoint
      match config.http.hmacSecretEnv with
      | none => .error "providers.http.hmac_secret_env is required when the HTTP sink is configured"
      | some secret_env =>
        if validEnvVarName secret_env then .ok ()
        else .error "providers.http.hmac_secret_env must be a valid environment variable name"
  else .ok ()

/-- The checks of `AppConfig::validate` that are about what the router reads. -/
def validate (config : AppConfig) : Except String Unit := do
  config.validateHttp lib
  config.routes.zipIdx.forM fun (route, index) => route.validate index

end AppConfig

end Validate

/-! ## Targets -/

def targetFor (config : AppConfig) (event : IncomingEvent) (route : Option RouteRule)
    (sink : String) : Except String SinkTarget :=
  let missing (what : String) : Except String SinkTarget :=
    .error ("no " ++ what ++ " configured for event " ++ event.canonicalKind)
  match sink with
  | "discord" =>
    match route.bind RouteRule.discordWebhookTarget with
    | some webhook => .ok (.discordWebhook webhook)
    | none =>
      -- The channel of a custom event comes before the route's.
      match if event.canonicalKind == "custom" then event.channel else none with
      | some channel => .ok (.discordChannel channel)
      | none =>
        match route.bind RouteRule.discordThreadTarget with
        | some thread => .ok (.discordThread thread)
        | none =>
          match ((route.bind RouteRule.channel).or event.channel).or config.defaults.channel with
          | some channel => .ok (.discordChannel channel)
          | none => missing "channel or thread"
  | "slack" =>
    match route.bind RouteRule.slackWebhookTarget with
    | some webhook => .ok (.slackWebhook webhook)
    | none => missing "Slack webhook"
  | "http" =>
    match config.http.endpointText with
    | some endpoint => .ok (.httpEndpoint endpoint)
    | none => missing "HTTP endpoint"
  | "localfile" =>
    match route.bind RouteRule.localFileTarget with
    | some path => .ok (.localFile path)
    | none => missing "local_path"
  | other => .error ("unsupported sink '" ++ other ++ "' for event " ++ event.canonicalKind)

/-- An event has somewhere to go by a route. -/
def hasTarget (config : AppConfig) (event : IncomingEvent) (route : RouteRule) : Bool :=
  match route.effectiveSink with
  | "discord" =>
    route.discordWebhookTarget.isSome || route.discordThreadTarget.isSome ||
      route.channel.isSome || event.channel.isSome || config.defaults.channel.isSome
  | "slack" => route.slackWebhookTarget.isSome
  | "http" => config.http.endpointText.isSome
  | "localfile" => route.localFileTarget.isSome
  | _ => false

end Clawhip.Router
