import Clawhip.Routing.Audit

/-!
# Configurations without a bot token

`AppConfig::validate` of `src/config.rs` refuses a configuration without a bot token that can need one.
It takes any pattern that trims to `*` for one that catches every event, and `glob_match` trims nothing:
`needs_no_token_iff` says which events come to a channel of Discord all the same.
-/

namespace Clawhip.Router

/-- What `AppConfig::validate` reads of `AppConfig` about the token, beside the entries. -/
structure TokenConfig extends EmittingConfig where
  /-- `providers.discord.bot_token`. -/
  bot_token : Option String := none
  /-- `discord.bot_token`. -/
  legacy_bot_token : Option String := none
  discord_watch_enabled : Bool := false

def DISCORD_TOKEN_ENV_VARS : List String := ["DISCORD_TOKEN", "CLAWHIP_DISCORD_BOT_TOKEN"]

/-- `discord_token_from_env_with`. -/
def discordTokenFromEnv (getEnv : String → Option String) : Option String :=
  DISCORD_TOKEN_ENV_VARS.findSome? fun name => Text.nonblank (getEnv name)

def RouteRule.hasAnyWebhookTarget (route : RouteRule) : Bool :=
  route.discordWebhookTarget.isSome || route.slackWebhookTarget.isSome || route.effectiveSink == "http"

/-- A channel that is named, and not blank. -/
def isNamed (channel : Option String) : Bool := (Text.nonblank channel).isSome

namespace TokenConfig

variable (getEnv : String → Option String) (config : TokenConfig)

/-- `AppConfig::effective_token_with`. -/
def effectiveToken : Option String :=
  ((discordTokenFromEnv getEnv).or (Text.nonblank config.bot_token)).or
    (Text.nonblank config.legacy_bot_token)

/-- `AppConfig::has_localfile_routes`. -/
def hasLocalfileRoutes : Bool :=
  config.routes.any fun route => route.effectiveSink == "localfile" && route.localFileTarget.isSome

/-- `AppConfig::default_channel_can_fallback_to_discord`. -/
def defaultChannelCanFallbackToDiscord : Bool :=
  isNamed config.defaults.channel &&
    !config.routes.any fun route => Text.trim route.event == "*" && List.isEmpty route.filter

/-- `AppConfig::has_discord_delivery_requiring_bot_token`. -/
def hasDiscordDeliveryRequiringBotToken : Bool :=
  (config.github_notifications.enabled && isNamed config.github_notifications.channel) ||
  config.defaultChannelCanFallbackToDiscord ||
  (config.routes.any fun route => route.effectiveSink == "discord" && route.discordWebhookTarget.isNone) ||
  (config.git_repos.any fun repo => isNamed repo.channel) ||
  (config.tmux_sessions.any fun session => isNamed session.channel) ||
  (config.workspaces.any fun workspace => isNamed workspace.channel) ||
  (config.cron_jobs.any fun job => isNamed job.channel) ||
  (config.github_status.enabled && isNamed config.github_status.channel)

/-- The check of the token in `AppConfig::validate`. -/
def validateToken : Except String Unit :=
  if (config.effectiveToken getEnv).isSome then .ok ()
  else if config.hasDiscordDeliveryRequiringBotToken then
    .error ("missing Discord bot token for configured Discord channel delivery; configure " ++
      "[providers.discord].token (or legacy [discord].token), use route webhooks, or remove Discord " ++
      "channel routes")
  else if !config.routes.any RouteRule.hasAnyWebhookTarget && !config.hasLocalfileRoutes &&
      !config.discord_watch_enabled then
    .error ("missing delivery config: configure [providers.discord].token (or legacy [discord].token), " ++
      "at least one Discord/Slack/HTTP webhook route, or a localfile route")
  else .ok ()

/-- The checks of `AppConfig::validate` that are about the router and the token. -/
def validate (lib : Libraries) : Except String Unit := do
  config.toAppConfig.validate lib
  config.validateToken getEnv

end TokenConfig

/-- A target that only a bot can send to. -/
def NeedsToken : SinkTarget → Prop
  | .discordChannel _ | .discordThread _ => True
  | _ => False

/-- No delivery of an event needs a bot token. -/
def NeedsNoToken (lib : Libraries) (config : AppConfig) (event : IncomingEvent) : Prop :=
  ∀ deliveries, resolve lib config event = .ok deliveries → ∀ delivery ∈ deliveries, ¬ NeedsToken delivery.target

section

variable {lib : Libraries} {getEnv : String → Option String} {config : TokenConfig} {app : AppConfig}
  {event : IncomingEvent} {route : Option RouteRule} {target : SinkTarget}

/-- Such a target is that of a route to Discord without a webhook, or of none. -/
theorem direct_of_needsToken (h : targetFor app event route (sinkOf route) = .ok target)
    (hneeds : NeedsToken target) : Direct route := by
  cases target with
  | discordChannel channel => exact (targetFor_channel_iff.mp h).1
  | discordThread thread =>
    unfold targetFor at h
    split at h
    · rename_i hsink
      refine ⟨hsink, ?_⟩
      cases hwebhook : route.bind RouteRule.discordWebhookTarget with
      | none => rfl
      | some webhook => simp [hwebhook] at h
    · split at h <;> cases h
    · split at h <;> cases h
    · split at h <;> cases h
    · cases h
  | _ => cases hneeds

/-- By no route, an event goes to its own channel or to the default one. -/
theorem targetFor_none : targetFor app event none (sinkOf none) = .ok target ↔
    ∃ channel, event.channel.or app.defaults.channel = some channel ∧ target = .discordChannel channel := by
  by_cases hcustom : event.canonicalKind = "custom"
  all_goals
    unfold targetFor sinkOf defaultSinkName
    cases event.channel <;> cases app.defaults.channel <;> simp [hcustom, @eq_comm _ _ target]

/-- Without a token, a validated route to Discord has a webhook. -/
theorem not_direct (hvalid : config.validate getEnv lib = .ok ())
    (hnone : config.effectiveToken getEnv = none) {rule : RouteRule} (hrule : rule ∈ config.routes) :
    ¬ Direct (some rule) := by
  rintro ⟨hsink, hwebhook⟩
  obtain ⟨_, -, htoken⟩ := bind_eq_ok.mp hvalid
  have hneeds : config.hasDiscordDeliveryRequiringBotToken = true := by
    have hroute : (config.routes.any fun route =>
        route.effectiveSink == "discord" && route.discordWebhookTarget.isNone) = true :=
      List.any_eq_true.mpr ⟨rule, hrule, by simp [show rule.effectiveSink = "discord" from hsink,
        show rule.discordWebhookTarget = none from hwebhook]⟩
    simp [TokenConfig.hasDiscordDeliveryRequiringBotToken, hroute]
  simp [TokenConfig.validateToken, hnone, hneeds] at htoken

/-- Without a route, an event with a channel to go to comes to Discord. -/
theorem not_needsNoToken {channel : String} (hmatched : matchedRoutes app event = [])
    (hevent : isSubscriptionEvent event = false)
    (hchannel : event.channel.or app.defaults.channel = some channel) : ¬ NeedsNoToken lib app event := by
  intro h
  have hused : usedRoutes app event = [none] := by
    unfold usedRoutes
    rw [hmatched, hevent]
    rfl
  have htarget := targetFor_none.mpr ⟨channel, hchannel, rfl⟩
  obtain ⟨deliveries, hresolve⟩ := resolve_of_targets lib (hused ▸ List.cons_ne_nil _ _)
    fun route hroute => ⟨_, List.mem_singleton.mp (hused ▸ hroute) ▸ htarget⟩
  obtain ⟨delivery, hdelivery, htold⟩ := exists_of_mem_left (targets_of_resolve hresolve)
    (hused ▸ List.mem_singleton_self none)
  refine h deliveries hresolve delivery hdelivery ?_
  rw [← Except.ok.inj (htarget.symm.trans htold)]
  trivial

/-- Without a token, an event comes to a channel of Discord if and only if it matches no route, and it or
the configuration names a channel, be it a blank one. -/
theorem needs_no_token_iff (hvalid : config.validate getEnv lib = .ok ())
    (hnone : config.effectiveToken getEnv = none) : NeedsNoToken lib config.toAppConfig event ↔
      (matchedRoutes config.toAppConfig event = [] → isSubscriptionEvent event = false →
        event.channel = none ∧ config.defaults.channel = none) := by
  constructor
  · intro h hmatched hevent
    by_contra hchannel
    rw [← Option.or_eq_none_iff] at hchannel
    obtain ⟨channel, hchannel⟩ := Option.ne_none_iff_exists'.mp hchannel
    exact not_needsNoToken hmatched hevent hchannel h
  · intro h deliveries hresolve delivery hdelivery hneeds
    obtain ⟨route, hroute, htarget⟩ :=
      exists_of_mem_left (targets_of_resolve hresolve).flip hdelivery
    have hdirect := direct_of_needsToken htarget hneeds
    cases route with
    | some rule => exact not_direct hvalid hnone (mem_routes_of_used hroute) hdirect
    | none =>
      unfold usedRoutes at hroute
      dsimp only at hroute
      split_ifs at hroute with hmatched hevent
      · cases hroute
      · obtain ⟨channel, hchannel, -⟩ := targetFor_none.mp htarget
        obtain ⟨hown, hdefault⟩ := h (List.isEmpty_iff.mp hmatched) (Bool.eq_false_iff.mpr hevent)
        rw [hown, hdefault] at hchannel
        cases hchannel
      · simp at hroute

end

namespace Sample

def toWebhook : RouteRule := { toOps with channel := none, webhook := some "https://discord.test/w" }

/-- A route for a pattern, a default channel, and no token. -/
def hooked (pattern : String) : TokenConfig where
  defaults := ⟨some "general", .compact⟩
  http := ⟨none, none⟩
  routes := [{ toWebhook with event := pattern }]

theorem commits_need_no_token : NeedsNoToken libraries (hooked "*").toAppConfig commit := by
  have hmatched : ({ toWebhook with event := "*" }, 0) ∈ matchedRoutes (hooked "*").toAppConfig commit :=
    mem_matchedRoutes.mpr ⟨List.mem_singleton_self _, rfl, fun h => absurd h.1 (by decide)⟩
  have hvalid : (hooked "*").validate (fun _ => none) libraries = .ok () := by decide +kernel
  refine (needs_no_token_iff hvalid (by decide +kernel)).mpr fun hnone => ?_
  rw [hnone] at hmatched
  cases hmatched

/-- The pattern trims to `*`, and a commit does not match it. -/
theorem commit_needs_a_token :
    ¬ ∀ (config : TokenConfig) (event : IncomingEvent), FromEntry config.toEmittingConfig event →
      config.validate (fun _ => none) libraries = .ok () → config.effectiveToken (fun _ => none) = none →
      NeedsNoToken libraries config.toAppConfig event := by
  intro hall
  have hmatched : matchedRoutes (hooked " *").toAppConfig commit = [] := by
    refine List.eq_nil_iff_forall_not_mem.mpr fun placed hplaced => ?_
    obtain ⟨hmem, hmatches, -⟩ := mem_matchedRoutes.mp hplaced
    rw [List.mem_singleton.mp hmem] at hmatches
    exact absurd hmatches (by decide +kernel)
  exact not_needsNoToken hmatched (by decide +kernel) rfl
    (hall (hooked " *") commit nofun (by decide +kernel) (by decide +kernel))

end Sample

end Clawhip.Router
