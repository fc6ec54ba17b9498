import Clawhip.Events.Event
import Clawhip.Lib.Codec
import Clawhip.Lib.Text

/-!
# The sections of the configuration

`AppConfig` of `src/config.rs` with everything under it, as `serde` reads and writes it: each record
with its defaults and, as a codec, the names, aliases and skip rules of its fields. The default of a
field that is missing is not always its value in the default of its record.
-/

namespace Clawhip.ConfigText

open Codec (string bool list texts record)
open Fieldset (required defaulted maybe skipped)

/-- `u64` and `usize`. -/
abbrev u64 : Codec ℕ := Codec.count (2 ^ 64)

abbrev u32 : Codec ℕ := Codec.count (2 ^ 32)

abbrev u16 : Codec ℕ := Codec.count (2 ^ 16)

/-- The label of a message format. -/
def parseFormat : String → Option MessageFormat
  | "compact" => some .compact
  | "alert" => some .alert
  | "inline" => some .inline
  | "raw" => some .raw
  | _ => none

variable (format : MessageFormat)

theorem parseFormat_asStr : parseFormat format.asStr = some format := by
  cases format <;> rfl

def messageFormat : Codec MessageFormat := Codec.named _ _ parseFormat_asStr

instance : Codec.Exact messageFormat := inferInstanceAs (Codec.Exact (Codec.named _ _ _))

abbrev i64 : Codec ℤ := Codec.signed

/-- A path; only paths that are texts are read. -/
abbrev pathBuf : Codec String := string

def isFalse (value : Bool) : Bool := !value

/-! ## Subscriptions -/

structure SubscriptionPredicateConfig where
  pointer : String
  equals : String

def SubscriptionPredicateConfig.codec : Codec SubscriptionPredicateConfig :=
  record (((required "pointer" string).and (required "equals" string)).iso
    { toFun c := (c.pointer, c.equals)
      invFun p := ⟨p.1, p.2⟩ }) true

structure SubscriptionFilterConfig where
  discriminator_pointer : String
  discriminator_equals : String
  predicates : List SubscriptionPredicateConfig

def SubscriptionFilterConfig.codec : Codec SubscriptionFilterConfig :=
  record (((required "discriminator_pointer" string).and <| (required "discriminator_equals" string).and <|
      defaulted "predicates" [] (list SubscriptionPredicateConfig.codec)).iso
    { toFun c := (c.discriminator_pointer, c.discriminator_equals, c.predicates)
      invFun p := ⟨p.1, p.2.1, p.2.2⟩ }) true

structure SubscriptionAdapterConfig where
  program : String
  args : List String
  timeout_ms : ℕ
  max_stdin_bytes : ℕ
  max_stdout_bytes : ℕ
  max_stderr_bytes : ℕ

def SubscriptionAdapterConfig.codec : Codec SubscriptionAdapterConfig :=
  record (((required "program" string).and <| (defaulted "args" [] (list string)).and <|
      (defaulted "timeout_ms" 5000 u64).and <| (defaulted "max_stdin_bytes" 16384 u64).and <|
      (defaulted "max_stdout_bytes" 16384 u64).and <| defaulted "max_stderr_bytes" 4096 u64).iso
    { toFun c := (c.program, c.args, c.timeout_ms, c.max_stdin_bytes, c.max_stdout_bytes, c.max_stderr_bytes)
      invFun p := ⟨p.1, p.2.1, p.2.2.1, p.2.2.2.1, p.2.2.2.2.1, p.2.2.2.2.2⟩ }) true

structure SubscriptionReconnectConfig where
  initial_delay_ms : ℕ
  max_delay_ms : ℕ
  max_attempts : ℕ

def SubscriptionReconnectConfig.default : SubscriptionReconnectConfig := ⟨250, 5000, 5⟩

def SubscriptionReconnectConfig.codec : Codec SubscriptionReconnectConfig :=
  record (((defaulted "initial_delay_ms" 250 u64).and <| (defaulted "max_delay_ms" 5000 u64).and <|
      defaulted "max_attempts" 5 u64).iso
    { toFun c := (c.initial_delay_ms, c.max_delay_ms, c.max_attempts)
      invFun p := ⟨p.1, p.2.1, p.2.2⟩ }) true

structure SubscriptionRoutingConfig where
  tool : Option String
  project : Option String
  repo_name : Option String
  repo_path : Option String
  worktree_path : Option String
  session_id : Option String
  branch : Option String

def SubscriptionRoutingConfig.default : SubscriptionRoutingConfig := ⟨none, none, none, none, none, none, none⟩

def SubscriptionRoutingConfig.codec : Codec SubscriptionRoutingConfig :=
  record (((maybe "tool" [] string).and <| (maybe "project" [] string).and <|
      (maybe "repo_name" [] string).and <| (maybe "repo_path" [] string).and <|
      (maybe "worktree_path" [] string).and <| (maybe "session_id" [] string).and <|
      maybe "branch" [] string).iso
    { toFun c := (c.tool, c.project, c.repo_name, c.repo_path, c.worktree_path, c.session_id, c.branch)
      invFun p := ⟨p.1, p.2.1, p.2.2.1, p.2.2.2.1, p.2.2.2.2.1, p.2.2.2.2.2.1, p.2.2.2.2.2.2⟩ }) true

structure SubscriptionConfig where
  name : String
  enabled : Bool
  setup_owned : Bool
  kind : String
  endpoint_env : String
  max_frame_bytes : ℕ
  max_json_depth : ℕ
  filter : SubscriptionFilterConfig
  projection : OrdMap String String
  adapter : SubscriptionAdapterConfig
  reconnect : SubscriptionReconnectConfig
  routing : SubscriptionRoutingConfig

theorem fits_reconnect : SubscriptionReconnectConfig.codec.fits SubscriptionReconnectConfig.default :=
  ⟨⟨by decide, by decide⟩, ⟨by decide, by decide⟩, ⟨by decide, by decide⟩⟩

/-- Nothing is to be known of a field that is not there. -/
theorem fits_none {α : Type} (c : Codec α) : ∀ b ∈ (none : Option α), c.fits b := fun _ h => by cases h

theorem fits_routing : SubscriptionRoutingConfig.codec.fits SubscriptionRoutingConfig.default :=
  ⟨fits_none _, fits_none _, fits_none _, fits_none _, fits_none _, fits_none _, fits_none _⟩

def SubscriptionConfig.codec : Codec SubscriptionConfig :=
  record (((required "name" string).and <| (defaulted "enabled" false bool).and <|
      (skipped "setup_owned" false isFalse bool).and <| (required "kind" string).and <|
      (required "endpoint_env" string).and <| (defaulted "max_frame_bytes" 65536 u64).and <|
      (defaulted "max_json_depth" 16 u64).and <| (required "filter" SubscriptionFilterConfig.codec).and <|
      (required "projection" texts).and <| (required "adapter" SubscriptionAdapterConfig.codec).and <|
      (defaulted "reconnect" .default SubscriptionReconnectConfig.codec fits_reconnect).and <|
      defaulted "routing" .default SubscriptionRoutingConfig.codec fits_routing).iso
    { toFun c := (c.name, c.enabled, c.setup_owned, c.kind, c.endpoint_env, c.max_frame_bytes,
        c.max_json_depth, c.filter, c.projection, c.adapter, c.reconnect, c.routing)
      invFun p := ⟨p.1, p.2.1, p.2.2.1, p.2.2.2.1, p.2.2.2.2.1, p.2.2.2.2.2.1, p.2.2.2.2.2.2.1,
        p.2.2.2.2.2.2.2.1, p.2.2.2.2.2.2.2.2.1, p.2.2.2.2.2.2.2.2.2.1, p.2.2.2.2.2.2.2.2.2.2.1,
        p.2.2.2.2.2.2.2.2.2.2.2⟩ }) true

instance : Codec.Exact SubscriptionPredicateConfig.codec := by
  unfold SubscriptionPredicateConfig.codec
  infer_instance

instance : Codec.Exact SubscriptionFilterConfig.codec := by
  unfold SubscriptionFilterConfig.codec
  infer_instance

instance : Codec.Exact SubscriptionAdapterConfig.codec := by
  unfold SubscriptionAdapterConfig.codec
  infer_instance

instance : Codec.Exact SubscriptionReconnectConfig.codec := by
  unfold SubscriptionReconnectConfig.codec
  infer_instance

instance : Codec.Exact SubscriptionRoutingConfig.codec := by
  unfold SubscriptionRoutingConfig.codec
  infer_instance

/-- A flag that is left out where it is not set. -/
instance (name : String) (h : bool.fits false) :
    Fieldset.Exact (skipped name false isFalse bool h) :=
  Fieldset.skipped_exact fun b hb => by simpa [isFalse] using hb

instance : Codec.Exact SubscriptionConfig.codec := by
  unfold SubscriptionConfig.codec
  infer_instance

/-! ## The ledger, handlers, providers and the daemon -/

structure GjcConfig where
  enabled : Bool

def GjcConfig.isEmpty (c : GjcConfig) : Bool := !c.enabled

def GjcConfig.codec : Codec GjcConfig :=
  record ((defaulted "enabled" false bool).iso
    { toFun c := c.enabled
      invFun p := ⟨p⟩ }) true

instance : Codec.Exact GjcConfig.codec := by
  unfold GjcConfig.codec
  infer_instance

structure LedgerConfig where
  enabled : Bool
  path : Option String
  raw_retention_days : ℕ
  summary_retention_days : ℕ
  compaction_interval_secs : ℕ
  max_records : ℕ
  max_record_bytes : ℕ
  max_keywords : ℕ
  max_keyword_bytes : ℕ
  max_query_results : ℕ
  max_records_per_compaction : ℕ
deriving DecidableEq

def LedgerConfig.default : LedgerConfig := ⟨false, none, 7, 90, 3600, 100000, 8192, 16, 48, 200, 5000⟩

def LedgerConfig.isEmpty (c : LedgerConfig) : Bool := !c.enabled && c.path.isNone && c == .default

def LedgerConfig.codec : Codec LedgerConfig :=
  record (((defaulted "enabled" false bool).and <| (maybe "path" [] pathBuf).and <|
      (defaulted "raw_retention_days" 7 u64).and <| (defaulted "summary_retention_days" 90 u64).and <|
      (defaulted "compaction_interval_secs" 3600 u64).and <| (defaulted "max_records" 100000 u64).and <|
      (defaulted "max_record_bytes" 8192 u64).and <| (defaulted "max_keywords" 16 u64).and <|
      (defaulted "max_keyword_bytes" 48 u64).and <| (defaulted "max_query_results" 200 u64).and <|
      defaulted "max_records_per_compaction" 5000 u64).iso
    { toFun c := (c.enabled, c.path, c.raw_retention_days, c.summary_retention_days,
        c.compaction_interval_secs, c.max_records, c.max_record_bytes, c.max_keywords,
        c.max_keyword_bytes, c.max_query_results, c.max_records_per_compaction)
      invFun p := ⟨p.1, p.2.1, p.2.2.1, p.2.2.2.1, p.2.2.2.2.1, p.2.2.2.2.2.1, p.2.2.2.2.2.2.1,
        p.2.2.2.2.2.2.2.1, p.2.2.2.2.2.2.2.2.1, p.2.2.2.2.2.2.2.2.2.1, p.2.2.2.2.2.2.2.2.2.2⟩ }) true

instance : Codec.Exact LedgerConfig.codec := by
  unfold LedgerConfig.codec
  infer_instance

structure GajaeConfig where
  handlers_enabled : Bool
  handler_timeout_ms : ℕ
  handler_max_output_bytes : ℕ
  hold_target_channel : Option String

def GajaeConfig.default : GajaeConfig := ⟨false, 5000, 16384, none⟩

def GajaeConfig.isEmpty (c : GajaeConfig) : Bool :=
  !c.handlers_enabled && c.handler_timeout_ms == 5000 && c.handler_max_output_bytes == 16384 &&
    c.hold_target_channel.isNone

def GajaeConfig.codec : Codec GajaeConfig :=
  record (((defaulted "handlers_enabled" false bool).and <| (defaulted "handler_timeout_ms" 5000 u64).and <|
      (defaulted "handler_max_output_bytes" 16384 u64).and <| maybe "hold_target_channel" [] string).iso
    { toFun c := (c.handlers_enabled, c.handler_timeout_ms, c.handler_max_output_bytes, c.hold_target_channel)
      invFun p := ⟨p.1, p.2.1, p.2.2.1, p.2.2.2⟩ }) false

instance : Codec.Exact GajaeConfig.codec := by
  unfold GajaeConfig.codec
  infer_instance

structure DiscordConfig where
  bot_token : Option String
  legacy_default_channel : Option String
  expected_bot_id : Option String

def DiscordConfig.default : DiscordConfig := ⟨none, none, none⟩

def DiscordConfig.isEmpty (c : DiscordConfig) : Bool :=
  c.bot_token.isNone && c.legacy_default_channel.isNone && c.expected_bot_id.isNone

def DiscordConfig.codec : Codec DiscordConfig :=
  record (((maybe "bot_token" ["token"] string).and <|
      (maybe "legacy_default_channel" ["default_channel"] string).and <|
      maybe "expected_bot_id" ["bot_id"] string).iso
    { toFun c := (c.bot_token, c.legacy_default_channel, c.expected_bot_id)
      invFun p := ⟨p.1, p.2.1, p.2.2⟩ }) false

instance : Codec.Exact DiscordConfig.codec := by
  unfold DiscordConfig.codec
  infer_instance

structure SlackConfig where

def SlackConfig.isEmpty (_ : SlackConfig) : Bool := true

def SlackConfig.codec : Codec SlackConfig :=
  record (Fieldset.nothing.iso
    { toFun _ := ()
      invFun _ := ⟨⟩ }) false

instance : Codec.Exact SlackConfig.codec := by
  unfold SlackConfig.codec
  infer_instance

structure GitHubConfig where
  webhook_secret_env : Option String

def GitHubConfig.default : GitHubConfig := ⟨none⟩

def GitHubConfig.isEmpty (c : GitHubConfig) : Bool := c.webhook_secret_env.isNone

def GitHubConfig.codec : Codec GitHubConfig :=
  record ((maybe "webhook_secret_env" [] string).iso
    { toFun c := c.webhook_secret_env
      invFun p := ⟨p⟩ }) false

instance : Codec.Exact GitHubConfig.codec := by
  unfold GitHubConfig.codec
  infer_instance

structure HttpConfig where
  endpoint : Option String
  hmac_secret_env : Option String

def HttpConfig.default : HttpConfig := ⟨none, none⟩

/-- `HttpConfig::is_empty`: the texts are trimmed before they are looked at. -/
def HttpConfig.isEmpty (c : HttpConfig) : Bool :=
  (Text.nonblank c.endpoint).isNone && (Text.nonblank c.hmac_secret_env).isNone

def HttpConfig.codec : Codec HttpConfig :=
  record (((maybe "endpoint" [] string).and <| maybe "hmac_secret_env" ["secret_env"] string).iso
    { toFun c := (c.endpoint, c.hmac_secret_env)
      invFun p := ⟨p.1, p.2⟩ }) false

instance : Codec.Exact HttpConfig.codec := by
  unfold HttpConfig.codec
  infer_instance

structure ProvidersConfig where
  discord : DiscordConfig
  slack : SlackConfig
  http : HttpConfig
  github : GitHubConfig

def ProvidersConfig.default : ProvidersConfig := ⟨.default, ⟨⟩, .default, .default⟩

def ProvidersConfig.isEmpty (c : ProvidersConfig) : Bool :=
  c.discord.isEmpty && c.slack.isEmpty && c.http.isEmpty && c.github.isEmpty

theorem fits_discord : DiscordConfig.codec.fits .default := ⟨fits_none _, fits_none _, fits_none _⟩

theorem fits_slack : SlackConfig.codec.fits ⟨⟩ := trivial

theorem fits_http : HttpConfig.codec.fits .default := ⟨fits_none _, fits_none _⟩

theorem fits_github : GitHubConfig.codec.fits .default := fits_none string

def ProvidersConfig.codec : Codec ProvidersConfig :=
  record (((defaulted "discord" .default DiscordConfig.codec fits_discord).and <|
      (defaulted "slack" ⟨⟩ SlackConfig.codec fits_slack).and <|
      (skipped "http" .default HttpConfig.isEmpty HttpConfig.codec fits_http).and <|
      skipped "github" .default GitHubConfig.isEmpty GitHubConfig.codec fits_github).iso
    { toFun c := (c.discord, c.slack, c.http, c.github)
      invFun p := ⟨p.1, p.2.1, p.2.2.1, p.2.2.2⟩ }) false

structure DaemonConfig where
  bind_host : String
  port : ℕ
  base_url : String

def DaemonConfig.default : DaemonConfig := ⟨"0.0.0.0", 25294, "http://127.0.0.1:25294"⟩

def DaemonConfig.codec : Codec DaemonConfig :=
  record (((defaulted "bind_host" "0.0.0.0" string).and <| (defaulted "port" 25294 u16).and <|
      defaulted "base_url" "http://127.0.0.1:25294" string).iso
    { toFun c := (c.bind_host, c.port, c.base_url)
      invFun p := ⟨p.1, p.2.1, p.2.2⟩ }) false

instance : Codec.Exact DaemonConfig.codec := by
  unfold DaemonConfig.codec
  infer_instance

structure DispatchConfig where
  ci_batch_window_secs : ℕ
  routine_batch_window_secs : ℕ

def DispatchConfig.default : DispatchConfig := ⟨30, 5⟩

def DispatchConfig.codec : Codec DispatchConfig :=
  record (((defaulted "ci_batch_window_secs" 30 u64).and <| defaulted "routine_batch_window_secs" 5 u64).iso
    { toFun c := (c.ci_batch_window_secs, c.routine_batch_window_secs)
      invFun p := ⟨p.1, p.2⟩ }) false

instance : Codec.Exact DispatchConfig.codec := by
  unfold DispatchConfig.codec
  infer_instance

theorem messageFormat_fits : messageFormat.fits format := trivial

structure DefaultsConfig where
  channel : Option String
  channel_name : Option String
  format : MessageFormat

def DefaultsConfig.default : DefaultsConfig := ⟨none, none, .compact⟩

def DefaultsConfig.codec : Codec DefaultsConfig :=
  record (((maybe "channel" [] string).and <| (maybe "channel_name" [] string).and <|
      defaulted "format" .compact messageFormat (messageFormat_fits _)).iso
    { toFun c := (c.channel, c.channel_name, c.format)
      invFun p := ⟨p.1, p.2.1, p.2.2⟩ }) false

instance : Codec.Exact DefaultsConfig.codec := by
  unfold DefaultsConfig.codec
  infer_instance

/-! ## Routes -/

structure GajaeRouteAction where
  subcommand : String
  args : List String
  requires_approval : Bool

def GajaeRouteAction.codec : Codec GajaeRouteAction :=
  record (((required "subcommand" string).and <| (defaulted "args" [] (list string)).and <|
      defaulted "requires_approval" false bool).iso
    { toFun c := (c.subcommand, c.args, c.requires_approval)
      invFun p := ⟨p.1, p.2.1, p.2.2⟩ }) false

instance : Codec.Exact GajaeRouteAction.codec := by
  unfold GajaeRouteAction.codec
  infer_instance

structure RouteRule where
  event : String
  filter : OrdMap String String
  sink : String
  channel : Option String
  thread : Option String
  channel_name : Option String
  webhook : Option String
  slack_webhook : Option String
  local_path : Option String
  mention : Option String
  allow_dynamic_tokens : Bool
  format : Option MessageFormat
  template : Option String
  gajae : Option GajaeRouteAction

def RouteRule.codec : Codec RouteRule :=
  record (((required "event" string).and <| (defaulted "filter" [] texts).and <|
      (defaulted "sink" "discord" string).and <| (maybe "channel" [] string).and <|
      (maybe "thread" [] string).and <| (maybe "channel_name" [] string).and <|
      (maybe "webhook" [] string).and <| (maybe "slack_webhook" [] string).and <|
      (maybe "local_path" [] string).and <| (maybe "mention" [] string).and <|
      (defaulted "allow_dynamic_tokens" false bool).and <| (maybe "format" [] messageFormat).and <|
      (maybe "template" [] string).and <| maybe "gajae" [] GajaeRouteAction.codec).iso
    { toFun c := (c.event, c.filter, c.sink, c.channel, c.thread, c.channel_name, c.webhook,
        c.slack_webhook, c.local_path, c.mention, c.allow_dynamic_tokens, c.format, c.template, c.gajae)
      invFun p := ⟨p.1, p.2.1, p.2.2.1, p.2.2.2.1, p.2.2.2.2.1, p.2.2.2.2.2.1, p.2.2.2.2.2.2.1,
        p.2.2.2.2.2.2.2.1, p.2.2.2.2.2.2.2.2.1, p.2.2.2.2.2.2.2.2.2.1, p.2.2.2.2.2.2.2.2.2.2.1,
        p.2.2.2.2.2.2.2.2.2.2.2.1, p.2.2.2.2.2.2.2.2.2.2.2.2.1, p.2.2.2.2.2.2.2.2.2.2.2.2.2⟩ }) false

instance : Codec.Exact RouteRule.codec := by
  unfold RouteRule.codec
  infer_instance

/-! ## Monitors -/

structure GitRepoMonitor where
  path : String
  name : Option String
  remote : String
  github_repo : Option String
  emit_commits : Bool
  emit_branch_changes : Bool
  emit_issue_opened : Bool
  emit_pr_status : Bool
  emit_pr_activity : Bool
  channel : Option String
  channel_name : Option String
  setup_owned : Bool
  mention : Option String
  format : Option MessageFormat

def GitRepoMonitor.codec : Codec GitRepoMonitor :=
  record (((required "path" string).and <| (maybe "name" [] string).and <|
      (defaulted "remote" "origin" string).and <| (maybe "github_repo" [] string).and <|
      (defaulted "emit_commits" true bool).and <| (defaulted "emit_branch_changes" true bool).and <|
      (defaulted "emit_issue_opened" true bool).and <| (defaulted "emit_pr_status" false bool).and <|
      (defaulted "emit_pr_activity" false bool).and <| (maybe "channel" [] string).and <|
      (maybe "channel_name" [] string).and <| (skipped "setup_owned" false isFalse bool).and <|
      (maybe "mention" [] string).and <| maybe "format" [] messageFormat).iso
    { toFun c := (c.path, c.name, c.remote, c.github_repo, c.emit_commits, c.emit_branch_changes,
        c.emit_issue_opened, c.emit_pr_status, c.emit_pr_activity, c.channel, c.channel_name,
        c.setup_owned, c.mention, c.format)
      invFun p := ⟨p.1, p.2.1, p.2.2.1, p.2.2.2.1, p.2.2.2.2.1, p.2.2.2.2.2.1, p.2.2.2.2.2.2.1,
        p.2.2.2.2.2.2.2.1, p.2.2.2.2.2.2.2.2.1, p.2.2.2.2.2.2.2.2.2.1, p.2.2.2.2.2.2.2.2.2.2.1,
        p.2.2.2.2.2.2.2.2.2.2.2.1, p.2.2.2.2.2.2.2.2.2.2.2.2.1, p.2.2.2.2.2.2.2.2.2.2.2.2.2⟩ }) false

instance : Codec.Exact GitRepoMonitor.codec := by
  unfold GitRepoMonitor.codec
  infer_instance

structure GitMonitorConfig where
  repos : List GitRepoMonitor

def GitMonitorConfig.codec : Codec GitMonitorConfig :=
  record ((defaulted "repos" [] (list GitRepoMonitor.codec)).iso
    { toFun c := c.repos
      invFun p := ⟨p⟩ }) false

instance : Codec.Exact GitMonitorConfig.codec := by
  unfold GitMonitorConfig.codec
  infer_instance

structure TmuxSessionMonitor where
  session : String
  keywords : List String
  keyword_window_secs : ℕ
  stale_minutes : ℕ
  channel : Option String
  channel_name : Option String
  mention : Option String
  format : Option MessageFormat

def TmuxSessionMonitor.codec : Codec TmuxSessionMonitor :=
  record (((required "session" string).and <| (defaulted "keywords" [] (list string)).and <|
      (defaulted "keyword_window_secs" 30 u64).and <| (defaulted "stale_minutes" 10 u64).and <|
      (maybe "channel" [] string).and <| (maybe "channel_name" [] string).and <|
      (maybe "mention" [] string).and <| maybe "format" [] messageFormat).iso
    { toFun c := (c.session, c.keywords, c.keyword_window_secs, c.stale_minutes, c.channel,
        c.channel_name, c.mention, c.format)
      invFun p := ⟨p.1, p.2.1, p.2.2.1, p.2.2.2.1, p.2.2.2.2.1, p.2.2.2.2.2.1, p.2.2.2.2.2.2.1,
        p.2.2.2.2.2.2.2⟩ }) false

instance : Codec.Exact TmuxSessionMonitor.codec := by
  unfold TmuxSessionMonitor.codec
  infer_instance

structure TmuxMonitorConfig where
  sessions : List TmuxSessionMonitor

def TmuxMonitorConfig.codec : Codec TmuxMonitorConfig :=
  record ((defaulted "sessions" [] (list TmuxSessionMonitor.codec)).iso
    { toFun c := c.sessions
      invFun p := ⟨p⟩ }) false

instance : Codec.Exact TmuxMonitorConfig.codec := by
  unfold TmuxMonitorConfig.codec
  infer_instance

def defaultWorkspaceWatchDirs : List String := [".omx/state", ".omc/state"]

theorem texts_list_fits (items : List String) : (list string).fits items := fun _ _ => trivial

structure WorkspaceMonitor where
  path : String
  watch_dirs : List String
  discover_worktrees : Bool
  channel : Option String
  mention : Option String
  format : Option MessageFormat
  events : List String
  poll_interval_secs : Option ℕ
  debounce_ms : ℕ

def WorkspaceMonitor.codec : Codec WorkspaceMonitor :=
  record (((required "path" string).and <|
      (defaulted "watch_dirs" defaultWorkspaceWatchDirs (list string) (texts_list_fits _)).and <|
      (defaulted "discover_worktrees" false bool).and <| (maybe "channel" [] string).and <|
      (maybe "mention" [] string).and <| (maybe "format" [] messageFormat).and <|
      (defaulted "events" [] (list string)).and <| (maybe "poll_interval_secs" [] u64).and <|
      defaulted "debounce_ms" 2000 u64).iso
    { toFun c := (c.path, c.watch_dirs, c.discover_worktrees, c.channel, c.mention, c.format,
        c.events, c.poll_interval_secs, c.debounce_ms)
      invFun p := ⟨p.1, p.2.1, p.2.2.1, p.2.2.2.1, p.2.2.2.2.1, p.2.2.2.2.2.1, p.2.2.2.2.2.2.1,
        p.2.2.2.2.2.2.2.1, p.2.2.2.2.2.2.2.2⟩ }) false

instance : Codec.Exact WorkspaceMonitor.codec := by
  unfold WorkspaceMonitor.codec
  infer_instance

structure GitHubStatusMonitorConfig where
  enabled : Bool
  api_base : String
  components : List String
  poll_interval_secs : ℕ
  channel : Option String
  channel_name : Option String
  mention : Option String
  format : Option MessageFormat

def GitHubStatusMonitorConfig.default : GitHubStatusMonitorConfig :=
  ⟨false, "https://www.githubstatus.com/api/v2", ["Actions"], 60, none, none, none, none⟩

def GitHubStatusMonitorConfig.isDefault (c : GitHubStatusMonitorConfig) : Bool :=
  !c.enabled && c.api_base == "https://www.githubstatus.com/api/v2" &&
    c.components == ["Actions"] && c.poll_interval_secs == 60 && c.channel.isNone &&
    c.channel_name.isNone && c.mention.isNone && c.format.isNone

def GitHubStatusMonitorConfig.codec : Codec GitHubStatusMonitorConfig :=
  record (((defaulted "enabled" false bool).and <|
      (defaulted "api_base" "https://www.githubstatus.com/api/v2" string).and <|
      (defaulted "components" ["Actions"] (list string) (texts_list_fits _)).and <|
      (defaulted "poll_interval_secs" 60 u64).and <| (maybe "channel" [] string).and <|
      (maybe "channel_name" [] string).and <| (maybe "mention" [] string).and <|
      maybe "format" [] messageFormat).iso
    { toFun c := (c.enabled, c.api_base, c.components, c.poll_interval_secs, c.channel,
        c.channel_name, c.mention, c.format)
      invFun p := ⟨p.1, p.2.1, p.2.2.1, p.2.2.2.1, p.2.2.2.2.1, p.2.2.2.2.2.1, p.2.2.2.2.2.2.1,
        p.2.2.2.2.2.2.2⟩ }) false

instance : Codec.Exact GitHubStatusMonitorConfig.codec := by
  unfold GitHubStatusMonitorConfig.codec
  infer_instance

structure GitHubNotificationsMonitorConfig where
  enabled : Bool
  poll_interval_secs : ℕ
  reasons : List String
  participating : Bool
  repos : List String
  channel : Option String
  channel_name : Option String
  mention : Option String
  format : Option MessageFormat
deriving DecidableEq

def GitHubNotificationsMonitorConfig.default : GitHubNotificationsMonitorConfig :=
  ⟨false, 60, [], false, [], none, none, none, none⟩

def GitHubNotificationsMonitorConfig.isDefault (c : GitHubNotificationsMonitorConfig) : Bool := c == .default

def GitHubNotificationsMonitorConfig.codec : Codec GitHubNotificationsMonitorConfig :=
  record (((defaulted "enabled" false bool).and <| (defaulted "poll_interval_secs" 60 u64).and <|
      (defaulted "reasons" [] (list string)).and <| (defaulted "participating" false bool).and <|
      (defaulted "repos" [] (list string)).and <| (maybe "channel" [] string).and <|
      (maybe "channel_name" [] string).and <| (maybe "mention" [] string).and <|
      maybe "format" [] messageFormat).iso
    { toFun c := (c.enabled, c.poll_interval_secs, c.reasons, c.participating, c.repos, c.channel,
        c.channel_name, c.mention, c.format)
      invFun p := ⟨p.1, p.2.1, p.2.2.1, p.2.2.2.1, p.2.2.2.2.1, p.2.2.2.2.2.1, p.2.2.2.2.2.2.1,
        p.2.2.2.2.2.2.2.1, p.2.2.2.2.2.2.2.2⟩ }) false

instance : Codec.Exact GitHubNotificationsMonitorConfig.codec := by
  unfold GitHubNotificationsMonitorConfig.codec
  infer_instance

structure MonitorConfig where
  poll_interval_secs : ℕ
  github_token : Option String
  github_api_base : String
  git : GitMonitorConfig
  tmux : TmuxMonitorConfig
  workspace : List WorkspaceMonitor
  github_status : GitHubStatusMonitorConfig
  github_notifications : GitHubNotificationsMonitorConfig

def MonitorConfig.default : MonitorConfig := ⟨5, none, "https://api.github.com", ⟨[]⟩, ⟨[]⟩, [], .default, .default⟩

theorem fits_git : GitMonitorConfig.codec.fits ⟨[]⟩ := Codec.nil_fits _

theorem fits_tmux : TmuxMonitorConfig.codec.fits ⟨[]⟩ := Codec.nil_fits _

theorem fits_githubStatus : GitHubStatusMonitorConfig.codec.fits .default :=
  ⟨trivial, trivial, texts_list_fits _, ⟨by decide, by decide⟩, fits_none _, fits_none _, fits_none _, fits_none _⟩

theorem fits_githubNotifications : GitHubNotificationsMonitorConfig.codec.fits .default :=
  ⟨trivial, ⟨by decide, by decide⟩, texts_list_fits _, trivial, texts_list_fits _, fits_none _,
    fits_none _, fits_none _, fits_none _⟩

def MonitorConfig.codec : Codec MonitorConfig :=
  record (((defaulted "poll_interval_secs" 5 u64).and <| (maybe "github_token" [] string).and <|
      (defaulted "github_api_base" "https://api.github.com" string).and <|
      (defaulted "git" ⟨[]⟩ GitMonitorConfig.codec fits_git).and <|
      (defaulted "tmux" ⟨[]⟩ TmuxMonitorConfig.codec fits_tmux).and <|
      (defaulted "workspace" [] (list WorkspaceMonitor.codec)).and <|
      (skipped "github_status" .default GitHubStatusMonitorConfig.isDefault
        GitHubStatusMonitorConfig.codec fits_githubStatus).and <|
      skipped "github_notifications" .default GitHubNotificationsMonitorConfig.isDefault
        GitHubNotificationsMonitorConfig.codec fits_githubNotifications).iso
    { toFun c := (c.poll_interval_secs, c.github_token, c.github_api_base, c.git, c.tmux,
        c.workspace, c.github_status, c.github_notifications)
      invFun p := ⟨p.1, p.2.1, p.2.2.1, p.2.2.2.1, p.2.2.2.2.1, p.2.2.2.2.2.1, p.2.2.2.2.2.2.1,
        p.2.2.2.2.2.2.2⟩ }) false

/-! ## The watch and cron -/

structure DiscordWatchChannel where
  id : String
  name : String
deriving DecidableEq

def DiscordWatchChannel.codec : Codec DiscordWatchChannel :=
  record (((required "id" string).and <| required "name" string).iso
    { toFun c := (c.id, c.name)
      invFun p := ⟨p.1, p.2⟩ }) false

instance : Codec.Exact DiscordWatchChannel.codec := by
  unfold DiscordWatchChannel.codec
  infer_instance

/-- `default_discord_watch_doctrine_template`. -/
def defaultDoctrineTemplate : String :=
  "UltraWorkers: <#\x7bchannel_id\x7d> / \x7bchannel_name\x7d 스윕하라. 기존 크론 독트린 기준으로 최근 메시지를 읽고 " ++
    "필요한 답변/액션만 수행하라."

structure DiscordWatchConfig where
  enabled : Bool
  watched_channels : List DiscordWatchChannel
  banned_channel_ids : List String
  banned_channel_names : List String
  gaebal_gajae_user_id : String
  owner_user_ids : List String
  nudge_target_channel_id : Option String
  pending_mentions_threshold : ℕ
  direct_mention_persist_ms : ℤ
  channel_message_threshold : ℕ
  global_cooldown_ms : ℤ
  channel_cooldown_ms : ℤ
  doctrine_template : String
  state_file : Option String
  intent_file : Option String

def DiscordWatchConfig.default : DiscordWatchConfig :=
  ⟨false, [], [], ["omo", "omo-help"], "", [], none, 5, 180000, 100, 300000, 300000,
    defaultDoctrineTemplate, none, none⟩

def DiscordWatchConfig.isEmpty (c : DiscordWatchConfig) : Bool :=
  !c.enabled && c.watched_channels == [] && c.banned_channel_ids.isEmpty &&
    c.banned_channel_names == ["omo", "omo-help"] && c.gaebal_gajae_user_id == "" &&
    c.owner_user_ids.isEmpty && c.nudge_target_channel_id == none &&
    c.pending_mentions_threshold == 5 && c.direct_mention_persist_ms == 180000 &&
    c.channel_message_threshold == 100 && c.global_cooldown_ms == 300000 &&
    c.channel_cooldown_ms == 300000 && c.doctrine_template == defaultDoctrineTemplate &&
    c.state_file.isNone && c.intent_file.isNone

def DiscordWatchConfig.codec : Codec DiscordWatchConfig :=
  record (((defaulted "enabled" false bool).and <|
      (defaulted "watched_channels" [] (list DiscordWatchChannel.codec)).and <|
      (defaulted "banned_channel_ids" [] (list string)).and <|
      (defaulted "banned_channel_names" ["omo", "omo-help"] (list string) (texts_list_fits _)).and <|
      (defaulted "gaebal_gajae_user_id" "" string).and <| (defaulted "owner_user_ids" [] (list string)).and <|
      (maybe "nudge_target_channel_id" [] string).and <| (defaulted "pending_mentions_threshold" 5 u64).and <|
      (defaulted "direct_mention_persist_ms" 180000 i64).and <|
      (defaulted "channel_message_threshold" 100 u64).and <|
      (defaulted "global_cooldown_ms" 300000 i64).and <| (defaulted "channel_cooldown_ms" 300000 i64).and <|
      (defaulted "doctrine_template" defaultDoctrineTemplate string).and <|
      (maybe "state_file" [] pathBuf).and <| maybe "intent_file" [] pathBuf).iso
    { toFun c := (c.enabled, c.watched_channels, c.banned_channel_ids, c.banned_channel_names,
        c.gaebal_gajae_user_id, c.owner_user_ids, c.nudge_target_channel_id,
        c.pending_mentions_threshold, c.direct_mention_persist_ms, c.channel_message_threshold,
        c.global_cooldown_ms, c.channel_cooldown_ms, c.doctrine_template, c.state_file, c.intent_file)
      invFun p := ⟨p.1, p.2.1, p.2.2.1, p.2.2.2.1, p.2.2.2.2.1, p.2.2.2.2.2.1, p.2.2.2.2.2.2.1,
        p.2.2.2.2.2.2.2.1, p.2.2.2.2.2.2.2.2.1, p.2.2.2.2.2.2.2.2.2.1, p.2.2.2.2.2.2.2.2.2.2.1,
        p.2.2.2.2.2.2.2.2.2.2.2.1, p.2.2.2.2.2.2.2.2.2.2.2.2.1, p.2.2.2.2.2.2.2.2.2.2.2.2.2.1,
        p.2.2.2.2.2.2.2.2.2.2.2.2.2.2⟩ }) false

instance : Codec.Exact DiscordWatchConfig.codec := by
  unfold DiscordWatchConfig.codec
  infer_instance

inductive CronJobKind where
  | customMessage (message : String)

/-- The fields of a kind, among those of its job. -/
def CronJobKind.fields : Fieldset CronJobKind :=
  ((Fieldset.tag "kind" "custom-message").and (required "message" string)).iso
    { toFun kind := match kind with
        | .customMessage message => ((), message)
      invFun p := .customMessage p.2
      left_inv kind := by cases kind; rfl
      right_inv _ := rfl }

instance : Fieldset.Exact CronJobKind.fields := by
  unfold CronJobKind.fields
  infer_instance

structure CronJob where
  id : String
  schedule : String
  timezone : String
  enabled : Bool
  channel : Option String
  mention : Option String
  format : Option MessageFormat
  state_file : Option String
  zero_backlog_suppression_ttl_secs : ℕ
  kind : CronJobKind

def CronJob.codec : Codec CronJob :=
  record (((required "id" string).and <| (required "schedule" string).and <|
      (defaulted "timezone" "UTC" string).and <| (defaulted "enabled" true bool).and <|
      (maybe "channel" [] string).and <| (maybe "mention" [] string).and <|
      (maybe "format" [] messageFormat).and <| (maybe "state_file" [] pathBuf).and <|
      (defaulted "zero_backlog_suppression_ttl_secs" 3600 u64).and <| CronJobKind.fields).iso
    { toFun c := (c.id, c.schedule, c.timezone, c.enabled, c.channel, c.mention, c.format,
        c.state_file, c.zero_backlog_suppression_ttl_secs, c.kind)
      invFun p := ⟨p.1, p.2.1, p.2.2.1, p.2.2.2.1, p.2.2.2.2.1, p.2.2.2.2.2.1, p.2.2.2.2.2.2.1,
        p.2.2.2.2.2.2.2.1, p.2.2.2.2.2.2.2.2.1, p.2.2.2.2.2.2.2.2.2⟩ }) false

instance : Codec.Exact CronJob.codec := by
  unfold CronJob.codec
  infer_instance

structure CronConfig where
  poll_interval_secs : ℕ
  jobs : List CronJob

def CronConfig.default : CronConfig := ⟨30, []⟩

def CronConfig.isEmpty (c : CronConfig) : Bool := c.jobs.isEmpty

def CronConfig.codec : Codec CronConfig :=
  record (((defaulted "poll_interval_secs" 30 u64).and <| defaulted "jobs" [] (list CronJob.codec)).iso
    { toFun c := (c.poll_interval_secs, c.jobs)
      invFun p := ⟨p.1, p.2⟩ }) false

instance : Codec.Exact CronConfig.codec := by
  unfold CronConfig.codec
  infer_instance

/-! ## Updates and lanes -/

structure UpdateConfig where
  enabled : Bool
  channel : Option String
  check_interval_secs : ℕ
  auto_restart : Bool
  repo_root : Option String

/-- The derived default: it does not take the default of the interval. -/
def UpdateConfig.default : UpdateConfig := ⟨false, none, 0, false, none⟩

def UpdateConfig.isEmpty (c : UpdateConfig) : Bool := !c.enabled && c.channel.isNone && c.repo_root.isNone

def UpdateConfig.codec : Codec UpdateConfig :=
  record (((defaulted "enabled" false bool).and <| (maybe "channel" [] string).and <|
      (defaulted "check_interval_secs" 3600 u64).and <| (defaulted "auto_restart" false bool).and <|
      maybe "repo_root" [] string).iso
    { toFun c := (c.enabled, c.channel, c.check_interval_secs, c.auto_restart, c.repo_root)
      invFun p := ⟨p.1, p.2.1, p.2.2.1, p.2.2.2.1, p.2.2.2.2⟩ }) false

instance : Codec.Exact UpdateConfig.codec := by
  unfold UpdateConfig.codec
  infer_instance

structure GjcLanesPrConfig where
  repo : Option String
  token_env : Option String
  api_base : String

/-- The derived default: it does not take the default of the base. -/
def GjcLanesPrConfig.default : GjcLanesPrConfig := ⟨none, none, ""⟩

def GjcLanesPrConfig.isEmpty (c : GjcLanesPrConfig) : Bool :=
  c.repo.isNone && c.token_env.isNone && c.api_base == "https://api.github.com"

def GjcLanesPrConfig.codec : Codec GjcLanesPrConfig :=
  record (((maybe "repo" [] string).and <| (maybe "token_env" [] string).and <|
      defaulted "api_base" "https://api.github.com" string).iso
    { toFun c := (c.repo, c.token_env, c.api_base)
      invFun p := ⟨p.1, p.2.1, p.2.2⟩ }) true

instance : Codec.Exact GjcLanesPrConfig.codec := by
  unfold GjcLanesPrConfig.codec
  infer_instance

structure GjcLanesConfig where
  enabled : Bool
  poll_interval_secs : ℕ
  initial_backoff_ms : ℕ
  max_backoff_ms : ℕ
  max_consecutive_attempts : ℕ
  ghost_grace_polls : ℕ
  state_path : Option String
  discovery_worktrees : List String
  pr : GjcLanesPrConfig

def GjcLanesConfig.default : GjcLanesConfig := ⟨false, 30, 500, 30000, 8, 3, none, [], .default⟩

def GjcLanesConfig.isEmpty (c : GjcLanesConfig) : Bool :=
  !c.enabled && c.state_path.isNone && c.discovery_worktrees.isEmpty && c.pr.isEmpty

theorem fits_pr : GjcLanesPrConfig.codec.fits .default := ⟨fits_none _, fits_none _, trivial⟩

/-- A list that is left out where it is empty. -/
instance {α : Type} (name : String) (c : Codec α) (h : (list c).fits []) [Codec.Exact c] :
    Fieldset.Exact (skipped name [] List.isEmpty (list c) h) :=
  Fieldset.skipped_exact fun _ => List.isEmpty_iff.mp

def GjcLanesConfig.codec : Codec GjcLanesConfig :=
  record (((skipped "enabled" false isFalse bool).and <| (defaulted "poll_interval_secs" 30 u64).and <|
      (defaulted "initial_backoff_ms" 500 u64).and <| (defaulted "max_backoff_ms" 30000 u64).and <|
      (defaulted "max_consecutive_attempts" 8 u32).and <| (defaulted "ghost_grace_polls" 3 u32).and <|
      (maybe "state_path" [] pathBuf).and <|
      (skipped "discovery_worktrees" [] List.isEmpty (list pathBuf)).and <|
      defaulted "pr" .default GjcLanesPrConfig.codec fits_pr).iso
    { toFun c := (c.enabled, c.poll_interval_secs, c.initial_backoff_ms, c.max_backoff_ms,
        c.max_consecutive_attempts, c.ghost_grace_polls, c.state_path, c.discovery_worktrees, c.pr)
      invFun p := ⟨p.1, p.2.1, p.2.2.1, p.2.2.2.1, p.2.2.2.2.1, p.2.2.2.2.2.1, p.2.2.2.2.2.2.1,
        p.2.2.2.2.2.2.2.1, p.2.2.2.2.2.2.2.2⟩ }) true

instance : Codec.Exact GjcLanesConfig.codec := by
  unfold GjcLanesConfig.codec
  infer_instance


/-! ## The whole configuration -/

theorem fits_providers : ProvidersConfig.codec.fits .default := ⟨fits_discord, fits_slack, fits_http, fits_github⟩

theorem fits_dispatch : DispatchConfig.codec.fits .default := ⟨⟨by decide, by decide⟩, ⟨by decide, by decide⟩⟩

theorem fits_daemon : DaemonConfig.codec.fits .default := ⟨trivial, ⟨by decide, by decide⟩, trivial⟩

theorem fits_defaults : DefaultsConfig.codec.fits .default := ⟨fits_none _, fits_none _, trivial⟩

theorem fits_monitors : MonitorConfig.codec.fits .default :=
  ⟨⟨by decide, by decide⟩, fits_none _, trivial, fits_git, fits_tmux, Codec.nil_fits _,
    fits_githubStatus, fits_githubNotifications⟩

theorem fits_cron : CronConfig.codec.fits .default := ⟨⟨by decide, by decide⟩, Codec.nil_fits _⟩

theorem fits_discordWatch : DiscordWatchConfig.codec.fits .default :=
  ⟨trivial, Codec.nil_fits _, texts_list_fits _, texts_list_fits _, trivial, texts_list_fits _,
    fits_none _, ⟨by decide, by decide⟩, ⟨by decide, by decide⟩, ⟨by decide, by decide⟩,
    ⟨by decide, by decide⟩, ⟨by decide, by decide⟩, trivial, fits_none _, fits_none _⟩

theorem fits_update : UpdateConfig.codec.fits .default :=
  ⟨trivial, fits_none _, ⟨by decide, by decide⟩, trivial, fits_none _⟩

theorem fits_gajae : GajaeConfig.codec.fits .default :=
  ⟨trivial, ⟨by decide, by decide⟩, ⟨by decide, by decide⟩, fits_none _⟩

theorem fits_ledger : LedgerConfig.codec.fits .default :=
  ⟨trivial, fits_none _, ⟨by decide, by decide⟩, ⟨by decide, by decide⟩, ⟨by decide, by decide⟩,
    ⟨by decide, by decide⟩, ⟨by decide, by decide⟩, ⟨by decide, by decide⟩,
    ⟨by decide, by decide⟩, ⟨by decide, by decide⟩, ⟨by decide, by decide⟩⟩

theorem fits_gjcLanes : GjcLanesConfig.codec.fits .default :=
  ⟨trivial, ⟨by decide, by decide⟩, ⟨by decide, by decide⟩, ⟨by decide, by decide⟩,
    ⟨by decide, by decide⟩, ⟨by decide, by decide⟩, fits_none _, texts_list_fits _, fits_pr⟩

theorem fits_gjc : GjcConfig.codec.fits ⟨false⟩ := trivial

/-- The sections of the configuration file. -/
structure Sections where
  discord : DiscordConfig
  providers : ProvidersConfig
  dispatch : DispatchConfig
  daemon : DaemonConfig
  defaults : DefaultsConfig
  routes : List RouteRule
  monitors : MonitorConfig
  cron : CronConfig
  discord_watch : DiscordWatchConfig
  update : UpdateConfig
  gajae : GajaeConfig
  subscriptions : List SubscriptionConfig
  ledger : LedgerConfig
  gjc_lanes : GjcLanesConfig
  gjc : GjcConfig

def Sections.codec : Codec Sections :=
  record (((skipped "discord" .default DiscordConfig.isEmpty DiscordConfig.codec fits_discord).and <|
      (skipped "providers" .default ProvidersConfig.isEmpty ProvidersConfig.codec fits_providers).and <|
      (defaulted "dispatch" .default DispatchConfig.codec fits_dispatch).and <|
      (defaulted "daemon" .default DaemonConfig.codec fits_daemon).and <|
      (defaulted "defaults" .default DefaultsConfig.codec fits_defaults).and <|
      (defaulted "routes" [] (list RouteRule.codec)).and <|
      (defaulted "monitors" .default MonitorConfig.codec fits_monitors).and <|
      (skipped "cron" .default CronConfig.isEmpty CronConfig.codec fits_cron).and <|
      (skipped "discord_watch" .default DiscordWatchConfig.isEmpty DiscordWatchConfig.codec
        fits_discordWatch).and <|
      (skipped "update" .default UpdateConfig.isEmpty UpdateConfig.codec fits_update).and <|
      (skipped "gajae" .default GajaeConfig.isEmpty GajaeConfig.codec fits_gajae).and <|
      (skipped "subscriptions" [] List.isEmpty (list SubscriptionConfig.codec)).and <|
      (skipped "ledger" .default LedgerConfig.isEmpty LedgerConfig.codec fits_ledger).and <|
      (skipped "gjc_lanes" .default GjcLanesConfig.isEmpty GjcLanesConfig.codec fits_gjcLanes).and <|
      skipped "gjc" ⟨false⟩ GjcConfig.isEmpty GjcConfig.codec fits_gjc).iso
    { toFun c := (c.discord, c.providers, c.dispatch, c.daemon, c.defaults, c.routes, c.monitors,
        c.cron, c.discord_watch, c.update, c.gajae, c.subscriptions, c.ledger, c.gjc_lanes, c.gjc)
      invFun p := ⟨p.1, p.2.1, p.2.2.1, p.2.2.2.1, p.2.2.2.2.1, p.2.2.2.2.2.1, p.2.2.2.2.2.2.1,
        p.2.2.2.2.2.2.2.1, p.2.2.2.2.2.2.2.2.1, p.2.2.2.2.2.2.2.2.2.1, p.2.2.2.2.2.2.2.2.2.2.1,
        p.2.2.2.2.2.2.2.2.2.2.2.1, p.2.2.2.2.2.2.2.2.2.2.2.2.1, p.2.2.2.2.2.2.2.2.2.2.2.2.2.1,
        p.2.2.2.2.2.2.2.2.2.2.2.2.2.2⟩ }) false

/-- `AppConfig`: the sections, and what is not in the file. -/
structure AppConfig extends Sections where
  config_path : String
  managed_repo_root : Option String

end Clawhip.ConfigText
