import Clawhip.ConfigText.Sections

/-!
# Loading and saving the configuration

`load_or_default_without_managed` and `to_pretty_toml` of `src/config.rs`: a text is parsed and
read, the settings of the legacy `[discord]` section are moved, and the texts in it are trimmed. The
parser and the printer of the language are a `Crate`.
-/

namespace Clawhip.ConfigText

/-- The `toml` crate: a text is parsed to a tree with integers of 64 bits and tables without
duplicates, and a tree that was printed is parsed to itself. -/
structure Crate where
  parse : String → Option Toml
  print : Toml → Option String
  parse_fits : ∀ text v, parse text = some v → v.Fits
  parse_print : ∀ v text, print v = some text → parse text = some v

/-! ## Normalization -/

/-- `normalize_text` and `normalize_secret`. -/
abbrev normalizeText : Option String → Option String := Text.nonblank

/-- The texts of a list that are not blank, trimmed. -/
def normalizeTexts (items : List String) : List String := items.filterMap fun item => normalizeText (some item)

/-- A banned channel's name. -/
def normalizeBannedName (name : String) : Option String :=
  normalizeText <| some <| Text.toAsciiLowercase <| String.ofList (name.toList.dropWhile fun c => c == '#')

def normalizeGajae (gajae : GajaeRouteAction) : GajaeRouteAction :=
  { gajae with
    subcommand := (normalizeText (some gajae.subcommand)).getD ""
    args := normalizeTexts gajae.args }

def normalizeRoute (route : RouteRule) : RouteRule :=
  { route with
    sink := (normalizeText (some route.sink)).getD "discord"
    channel := normalizeText route.channel
    channel_name := normalizeText route.channel_name
    webhook := normalizeText route.webhook
    slack_webhook := normalizeText route.slack_webhook
    local_path := normalizeText route.local_path
    mention := normalizeText route.mention
    template := normalizeText route.template
    gajae := route.gajae.map normalizeGajae }

def normalizeRepo (repo : GitRepoMonitor) : GitRepoMonitor :=
  { repo with
    channel := normalizeText repo.channel
    channel_name := normalizeText repo.channel_name
    mention := normalizeText repo.mention
    name := normalizeText repo.name
    github_repo := normalizeText repo.github_repo }

def normalizeSession (session : TmuxSessionMonitor) : TmuxSessionMonitor :=
  { session with
    channel := normalizeText session.channel
    channel_name := normalizeText session.channel_name
    mention := normalizeText session.mention }

/-- The directories that a workspace watches: the default ones if none is left. -/
def normalizeWatchDirs (dirs : List String) : List String :=
  if (normalizeTexts dirs).isEmpty then defaultWorkspaceWatchDirs else normalizeTexts dirs

def normalizeWorkspace (workspace : WorkspaceMonitor) : WorkspaceMonitor :=
  { workspace with
    path := (normalizeText (some workspace.path)).getD ""
    channel := normalizeText workspace.channel
    mention := normalizeText workspace.mention
    watch_dirs := normalizeWatchDirs workspace.watch_dirs
    events := normalizeTexts workspace.events
    debounce_ms := max workspace.debounce_ms 1
    poll_interval_secs := workspace.poll_interval_secs.map fun secs => max secs 1 }

def normalizeKind : CronJobKind → CronJobKind
  | .customMessage message => .customMessage ((normalizeText (some message)).getD "")

def normalizeJob (job : CronJob) : CronJob :=
  { job with
    id := (normalizeText (some job.id)).getD ""
    schedule := (normalizeText (some job.schedule)).getD ""
    timezone := (normalizeText (some job.timezone)).getD "UTC"
    channel := normalizeText job.channel
    mention := normalizeText job.mention
    kind := normalizeKind job.kind }

def normalizeDiscord (discord : DiscordConfig) : DiscordConfig :=
  { bot_token := normalizeText discord.bot_token
    legacy_default_channel := normalizeText discord.legacy_default_channel
    expected_bot_id := normalizeText discord.expected_bot_id }

def normalizeProviders (providers : ProvidersConfig) : ProvidersConfig :=
  { providers with
    discord := normalizeDiscord providers.discord
    http := {
      endpoint := normalizeText providers.http.endpoint
      hmac_secret_env := normalizeText providers.http.hmac_secret_env } }

def normalizeMonitors (monitors : MonitorConfig) : MonitorConfig :=
  { monitors with
    github_token := normalizeText monitors.github_token
    git := ⟨monitors.git.repos.map normalizeRepo⟩
    tmux := ⟨monitors.tmux.sessions.map normalizeSession⟩
    workspace := monitors.workspace.map normalizeWorkspace }

def normalizeWatch (watch : DiscordWatchConfig) : DiscordWatchConfig :=
  { watch with
    gaebal_gajae_user_id := (normalizeText (some watch.gaebal_gajae_user_id)).getD ""
    owner_user_ids := normalizeTexts watch.owner_user_ids
    banned_channel_ids := normalizeTexts watch.banned_channel_ids
    banned_channel_names := watch.banned_channel_names.filterMap normalizeBannedName }

/-- `AppConfig::normalize`. -/
def normalize (s : Sections) : Sections :=
  { s with
    discord := normalizeDiscord s.discord
    providers := normalizeProviders s.providers
    defaults := { s.defaults with channel := normalizeText s.defaults.channel }
    routes := s.routes.map normalizeRoute
    monitors := normalizeMonitors s.monitors
    discord_watch := normalizeWatch s.discord_watch
    cron := { s.cron with jobs := s.cron.jobs.map normalizeJob } }

/-! ## The legacy section -/

/-- `merge_legacy_discord_field`: the provider's value, unless the two are in conflict. -/
def mergeLegacyDiscordField (legacy provider : Option String) : Option (Option String) :=
  match normalizeText legacy, normalizeText provider with
  | some legacy, some provider_value =>
    if legacy ≠ provider_value then none else some (some provider_value)
  | some legacy, none => some (some legacy)
  | none, some provider_value => some (some provider_value)
  | none, none => some none

/-- A tree is a table that has a key. -/
def hasKey (raw_toml : Toml) (key : String) : Bool :=
  match raw_toml with
  | .table fields => (OrdMap.get fields key).isSome
  | _ => false

/-- The provider's settings once the legacy ones are merged into them. -/
def mergedDiscord (legacy provider : DiscordConfig) : Option DiscordConfig := do
  let bot_token ← mergeLegacyDiscordField legacy.bot_token provider.bot_token
  let legacy_default_channel ←
    mergeLegacyDiscordField legacy.legacy_default_channel provider.legacy_default_channel
  let expected_bot_id ← mergeLegacyDiscordField legacy.expected_bot_id provider.expected_bot_id
  some ⟨bot_token, legacy_default_channel, expected_bot_id⟩

def mergeLegacyDiscord (raw_toml : Toml) (s : Sections) : Option Sections :=
  (if hasKey raw_toml "discord" then mergedDiscord s.discord s.providers.discord
    else some s.providers.discord).map fun discord =>
      { s with providers := { s.providers with discord := discord }, discord := .default }

def discordDefaultChannel (s : Sections) : Option String :=
  (normalizeText s.providers.discord.legacy_default_channel).or
    (normalizeText s.discord.legacy_default_channel)

/-- The channel of the defaults, where it is missing. -/
def fillDefaultChannel (s : Sections) : Sections :=
  if s.defaults.channel.isNone then
    { s with defaults := { s.defaults with channel := discordDefaultChannel s } }
  else s

/-! ## The file -/

/-- What `load_or_default` makes of a tree. -/
def readSections (raw_toml : Toml) : Option Sections :=
  (Sections.codec.decode raw_toml).bind fun s =>
    (mergeLegacyDiscord raw_toml s).map fun s => fillDefaultChannel (normalize s)

/-- `load_or_default_without_managed` of a file that is there. -/
def loadOrDefaultWithoutManaged (crate : Crate) (path text : String) : Option AppConfig :=
  (crate.parse text).bind fun raw_toml =>
    (readSections raw_toml).map fun s =>
      { s with config_path := path, managed_repo_root := none }

def AppConfig.toPrettyToml (crate : Crate) (c : AppConfig) : Option String :=
  crate.print (Sections.codec.encode c.toSections)

end Clawhip.ConfigText
