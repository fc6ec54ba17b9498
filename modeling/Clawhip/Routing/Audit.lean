import Clawhip.Cron.Scheduler
import Clawhip.Git.Poll
import Clawhip.Platform.Status
import Clawhip.Tmux.Registry
import Clawhip.Workspace.Diff

/-!
# The audit of the channels

`collect_bindings` of `src/binding_verify.rs` walks the configuration for the channels that it names, and
`verify` of `src/gateway_allowlist.rs` checks each of them. Set against where `Router::resolve` sends the
events that the entries of the configuration produce, the walk leaves out the cron jobs and the target of the
holds.
-/

namespace Clawhip.Router

open List Option

/-! ## The configuration -/

/-- What is audited of the monitor of GitHub notifications. -/
structure GitHubNotificationsMonitorConfig where
  enabled : Bool := false
  channel : Option String := none

/-- The entries of `AppConfig` that produce events, beside what the router reads of it. -/
structure EmittingConfig extends AppConfig where
  git_repos : List Git.GitRepoMonitor := []
  tmux_sessions : List Tmux.TmuxSessionMonitor := []
  workspaces : List Workspace.WorkspaceMonitor := []
  github_status : Platform.GitHubStatusMonitorConfig := {}
  github_notifications : GitHubNotificationsMonitorConfig := {}
  cron_jobs : List Cron.CronJob := []
  hold_target_channel : Option String := none

def EmittingConfig.gajaeHoldTarget (config : EmittingConfig) (repo : String) : Option String :=
  let named := config.routes.filter fun route =>
    route.event == "gajae.release.hold" || route.event == "gajae.merge.hold" ||
      route.event == "gajae.*"
  let found := named.find? fun route =>
    List.isEmpty route.filter || ((route.filter.get "repo").or (route.filter.get "repo_name")).any
      fun expected => globMatch expected repo
  (found.bind fun route => route.channel.or route.thread).or config.hold_target_channel

/-! ## The walk -/

inductive BindingSource where
  | DefaultChannel
  | Route (index : ℕ)
  | GitMonitor (index : ℕ)
  | TmuxMonitor (index : ℕ)
  | WorkspaceMonitor (index : ℕ)
  | GitHubStatusMonitor
  | GitHubNotificationsMonitor

structure ChannelBinding where
  channel_id : String
  source : BindingSource
  label : String

/-- The binding of a channel that is not empty. -/
def bindingOf (channel : Option String) (source : BindingSource) (label : String) :
    Option ChannelBinding :=
  (channel.filter fun channel => !channel.isEmpty).map fun channel_id =>
    { channel_id, source, label }

/-- How a route is called in its binding. -/
def RouteRule.bindingLabel (route : RouteRule) : String :=
  if List.isEmpty route.filter then "event=" ++ route.event
  else
    let filters := List.map (fun (key, value) => key ++ "=" ++ value) route.filter
    "event=" ++ route.event ++ " filter=\x7b" ++ ", ".intercalate filters ++ "\x7d"

def collectBindings (config : EmittingConfig) : List ChannelBinding :=
  (bindingOf config.defaults.channel .DefaultChannel "default channel").toList ++
  config.routes.zipIdx.filterMap (fun (route, index) =>
    bindingOf (if route.effectiveSink == "discord" then route.channel else none) (.Route index)
      route.bindingLabel) ++
  config.git_repos.zipIdx.filterMap (fun (repo, index) =>
    bindingOf repo.channel (.GitMonitor index) (repo.name.getD ("git:" ++ repo.path))) ++
  config.tmux_sessions.zipIdx.filterMap (fun (session, index) =>
    bindingOf session.channel (.TmuxMonitor index) ("tmux:" ++ session.session)) ++
  config.workspaces.zipIdx.filterMap (fun (workspace, index) =>
    bindingOf workspace.channel (.WorkspaceMonitor index) ("workspace:" ++ workspace.path)) ++
  (bindingOf (if config.github_status.enabled then config.github_status.channel else none)
    .GitHubStatusMonitor "github_status").toList ++
  (bindingOf (if config.github_notifications.enabled then config.github_notifications.channel else none)
    .GitHubNotificationsMonitor "github_notifications").toList

structure GatewayAllowlistVerdict where
  channel_id : String
  source : BindingSource
  label : String
  allowed : Bool

/-- `verify`, against the channels that the gateway allows. -/
def verify (config : EmittingConfig) (allowed_channels : List String) :
    List GatewayAllowlistVerdict :=
  (collectBindings config).map fun binding =>
    { channel_id := binding.channel_id
      source := binding.source
      label := binding.label
      allowed := allowed_channels.contains binding.channel_id }

/-- `GatewayAllowlistReport::all_ok`. -/
def allOk (verdicts : List GatewayAllowlistVerdict) : Bool := verdicts.all GatewayAllowlistVerdict.allowed

/-! ## Where a channel is named -/

/-- The configuration names the channel where the walk looks. -/
inductive Named (config : EmittingConfig) (channel : String) : Prop where
  | default (h : config.defaults.channel = some channel)
  | route (route : RouteRule) (hmem : route ∈ config.routes)
      (hsink : route.effectiveSink = "discord") (h : route.channel = some channel)
  | git (repo : Git.GitRepoMonitor) (hmem : repo ∈ config.git_repos) (h : repo.channel = some channel)
  | tmux (session : Tmux.TmuxSessionMonitor) (hmem : session ∈ config.tmux_sessions)
      (h : session.channel = some channel)
  | workspace (workspace : Workspace.WorkspaceMonitor) (hmem : workspace ∈ config.workspaces)
      (h : workspace.channel = some channel)
  | github_status (henabled : config.github_status.enabled = true)
      (h : config.github_status.channel = some channel)
  | github_notifications (henabled : config.github_notifications.enabled = true)
      (h : config.github_notifications.channel = some channel)

/-- A channel that an event has from an entry where the walk does not look. -/
inductive Unwalked (config : EmittingConfig) (channel : String) : Prop where
  | cron (job : Cron.CronJob) (hmem : job ∈ config.cron_jobs) (h : job.channel = some channel)
  | hold (repo : String) (h : config.gajaeHoldTarget repo = some channel)

/-- An event has no channel, or that of the entry that produced it. -/
def FromEntry (config : EmittingConfig) (event : IncomingEvent) : Prop :=
  ∀ channel, event.channel = some channel → (∃ repo ∈ config.git_repos, repo.channel = some channel) ∨
    (∃ session ∈ config.tmux_sessions, session.channel = some channel) ∨
    (∃ workspace ∈ config.workspaces, workspace.channel = some channel) ∨
    (config.github_status.enabled = true ∧ config.github_status.channel = some channel) ∨
    (config.github_notifications.enabled = true ∧ config.github_notifications.channel = some channel) ∨
    Unwalked config channel

variable {config : EmittingConfig} {event : IncomingEvent} {channel : String} {app : AppConfig}
  {source : BindingSource} {label : String}

theorem mem_bindingOf {named : Option String} :
    (∃ binding, bindingOf named source label = some binding ∧ binding.channel_id = channel) ↔
      named = some channel ∧ channel ≠ "" := by
  unfold bindingOf
  cases named with
  | none => simp
  | some text =>
    by_cases hempty : text.isEmpty = true
    · simp only [filter_some, hempty, Bool.not_true, Bool.false_eq_true, if_false, map_none,
        reduceCtorEq, false_and, exists_false, some.injEq, false_iff, not_and, ne_eq, not_not]
      rintro rfl
      exact String.isEmpty_iff.mp hempty
    · simp only [filter_some, hempty, Bool.not_false, if_true, map_some, some.injEq]
      constructor
      · rintro ⟨binding, rfl, rfl⟩
        exact ⟨rfl, fun h => hempty (String.isEmpty_iff.mpr h)⟩
      · rintro ⟨rfl, -⟩
        exact ⟨_, rfl, rfl⟩

/-- Of the entries of a list, those that name the channel. -/
theorem mem_filterMap_bindingOf {ε : Type} {entries : List ε} {named : ε → Option String}
    {source : ℕ → BindingSource} {label : ε → String} : channel ∈ (entries.zipIdx.filterMap fun (entry, index) =>
        bindingOf (named entry) (source index) (label entry)).map ChannelBinding.channel_id ↔
      channel ≠ "" ∧ ∃ entry ∈ entries, named entry = some channel := by
  rw [List.mem_map]
  constructor
  · rintro ⟨binding, hmem, hchannel⟩
    obtain ⟨⟨entry, index⟩, hentry, hbinding⟩ := mem_filterMap.mp hmem
    obtain ⟨hnamed, hne⟩ := mem_bindingOf.mp ⟨binding, hbinding, hchannel⟩
    exact ⟨hne, entry, fst_mem_of_mem_zipIdx hentry, hnamed⟩
  · rintro ⟨hne, entry, hentry, hnamed⟩
    obtain ⟨index, hlt, rfl⟩ := getElem_of_mem hentry
    have hindex : (entries[index], index) ∈ entries.zipIdx := mk_mem_zipIdx_iff_getElem?.mpr (getElem?_eq_getElem hlt)
    obtain ⟨binding, hbinding, hchannel⟩ :=
      @mem_bindingOf channel (source index) (label entries[index]) _ |>.mpr ⟨hnamed, hne⟩
    exact ⟨binding, mem_filterMap.mpr ⟨_, hindex, hbinding⟩, hchannel⟩

theorem mem_toList_bindingOf {named : Option String} :
    channel ∈ (bindingOf named source label).toList.map ChannelBinding.channel_id ↔
      channel ≠ "" ∧ named = some channel := by
  rw [List.mem_map]
  simp only [mem_toList]
  exact mem_bindingOf.trans and_comm

/-- The walk finds the channels that the configuration names where it looks. -/
theorem mem_collectBindings : channel ∈ (collectBindings config).map ChannelBinding.channel_id ↔
      channel ≠ "" ∧ Named config channel := by
  have hwhen {condition : Bool} {named : Option String} :
      (if condition then named else none) = some channel ↔ condition = true ∧ named = some channel := by
    cases condition <;> simp
  have hroutes := @mem_filterMap_bindingOf channel _ config.routes
    (fun route => if route.effectiveSink == "discord" then route.channel else none) .Route
    RouteRule.bindingLabel
  have hgit := @mem_filterMap_bindingOf channel _ config.git_repos Git.GitRepoMonitor.channel
    .GitMonitor fun repo => repo.name.getD ("git:" ++ repo.path)
  have htmux := @mem_filterMap_bindingOf channel _ config.tmux_sessions
    Tmux.TmuxSessionMonitor.channel .TmuxMonitor fun session => "tmux:" ++ session.session
  have hworkspaces := @mem_filterMap_bindingOf channel _ config.workspaces
    Workspace.WorkspaceMonitor.channel .WorkspaceMonitor fun workspace => "workspace:" ++ workspace.path
  unfold collectBindings
  simp only [map_append, mem_append]
  rw [hroutes, hgit, htmux, hworkspaces, mem_toList_bindingOf, mem_toList_bindingOf, mem_toList_bindingOf]
  simp only [hwhen, ← and_or_left]
  refine and_congr_right fun _ => ⟨?_, fun h => ?_⟩
  · rintro ((((((h | ⟨route, hmem, hsink, h⟩) | ⟨repo, hmem, h⟩) | ⟨session, hmem, h⟩) |
      ⟨workspace, hmem, h⟩) | ⟨henabled, h⟩) | ⟨henabled, h⟩)
    · exact .default h
    · exact .route route hmem (beq_iff_eq.mp hsink) h
    · exact .git repo hmem h
    · exact .tmux session hmem h
    · exact .workspace workspace hmem h
    · exact .github_status henabled h
    · exact .github_notifications henabled h
  · cases h with
    | default h => exact .inl (.inl (.inl (.inl (.inl (.inl h)))))
    | route route hmem hsink h => exact .inl (.inl (.inl (.inl (.inl (.inr ⟨route, hmem, beq_iff_eq.mpr hsink, h⟩)))))
    | git repo hmem h => exact .inl (.inl (.inl (.inl (.inr ⟨repo, hmem, h⟩))))
    | tmux session hmem h => exact .inl (.inl (.inl (.inr ⟨session, hmem, h⟩)))
    | workspace workspace hmem h => exact .inl (.inl (.inr ⟨workspace, hmem, h⟩))
    | github_status henabled h => exact .inl (.inr ⟨henabled, h⟩)
    | github_notifications henabled h => exact .inr ⟨henabled, h⟩

/-! ## The routes that an event takes -/

/-- The routes that `resolve` goes over: where none matches it goes by none. -/
def usedRoutes (config : AppConfig) (event : IncomingEvent) : List (Option RouteRule) :=
  let matched := matchedRoutes config event
  if matched.isEmpty then if isSubscriptionEvent event then [] else [none]
  else matched.map fun placed => some placed.1

/-- The sink of a route, or of none. -/
def sinkOf (route : Option RouteRule) : String := (route.map RouteRule.effectiveSink).getD defaultSinkName

/-- What a route gives of the target: a channel goes to Discord and to no webhook. -/
def Direct (route : Option RouteRule) : Prop :=
  sinkOf route = "discord" ∧ route.bind RouteRule.discordWebhookTarget = none

/-- The channel of an event is taken before that of a route. -/
def Overrides (event : IncomingEvent) : Prop := event.canonicalKind = "custom" ∧ event.channel.isSome = true

/-- No channel that a route takes is one that the walk leaves out. -/
structure RouteAudited (config : EmittingConfig) (event : IncomingEvent) (route : Option RouteRule) :
    Prop where
  of_event : (Overrides event ∨ route.bind RouteRule.discordThreadTarget = none ∧
      route.bind RouteRule.channel = none) →
    ∀ channel, event.channel = some channel → channel ≠ "" ∧ (Unwalked config channel → Named config channel)
  of_route : ¬ Overrides event → route.bind RouteRule.discordThreadTarget = none →
    route.bind RouteRule.channel ≠ some ""
  of_default : ¬ Overrides event → route.bind RouteRule.discordThreadTarget = none →
    route.bind RouteRule.channel = none → event.channel = none → config.defaults.channel ≠ some ""

/-- Some route has nowhere to go, so that nothing is delivered. -/
def Undelivered (config : AppConfig) (event : IncomingEvent) : Prop :=
  ∃ route ∈ usedRoutes config event, (targetFor config event route (sinkOf route)).isOk = false

/-- Every channel that an event is delivered to is one that the walk finds, and that is allowed when all
that it finds is. -/
structure Covered (lib : Libraries) (config : EmittingConfig) (event : IncomingEvent) : Prop where
  listed : ∀ deliveries, resolve lib config.toAppConfig event = .ok deliveries →
    ∀ delivery ∈ deliveries, ∀ channel, delivery.target = .discordChannel channel →
      channel ∈ (collectBindings config).map ChannelBinding.channel_id
  allowed : ∀ allowed_channels, allOk (verify config allowed_channels) = true →
    ∀ deliveries, resolve lib config.toAppConfig event = .ok deliveries →
    ∀ delivery ∈ deliveries, ∀ channel, delivery.target = .discordChannel channel → channel ∈ allowed_channels

variable {lib : Libraries} {route : Option RouteRule}

/-! ## What is resolved -/

/-- A delivery goes where its route says. -/
theorem target_resolveDelivery {index : Option ℕ} {delivery : ResolvedDelivery}
    (h : resolveDelivery lib app event route index = .ok delivery) :
    targetFor app event route (sinkOf route) = .ok delivery.target := by
  obtain ⟨target, htarget, hrest⟩ := bind_eq_ok.mp h
  rw [← Except.ok.inj hrest]
  exact htarget

variable (lib) in
theorem exists_resolveDelivery {target : SinkTarget}
    (h : targetFor app event route (sinkOf route) = .ok target) (index : Option ℕ) :
    ∃ delivery, resolveDelivery lib app event route index = .ok delivery :=
  ⟨_, bind_eq_ok.mpr ⟨target, h, rfl⟩⟩

/-- The deliveries of an event are those of the routes that it takes. -/
theorem targets_of_resolve {deliveries : List ResolvedDelivery} (h : resolve lib app event = .ok deliveries) :
    List.Forall₂ (fun route delivery => targetFor app event route (sinkOf route) = .ok delivery.target)
      (usedRoutes app event) deliveries := by
  unfold resolve at h
  unfold usedRoutes
  simp only at h ⊢
  cases hmatched : (matchedRoutes app event).isEmpty with
  | true =>
    rw [hmatched] at h
    cases hsubscription : isSubscriptionEvent event with
    | true =>
      rw [hsubscription] at h
      cases h
    | false =>
      rw [hsubscription] at h
      obtain ⟨delivery, hdelivery, hrest⟩ := bind_eq_ok.mp h
      rw [← Except.ok.inj hrest]
      exact .cons (target_resolveDelivery hdelivery) .nil
  | false =>
    rw [hmatched] at h
    have hall := mapM_eq_ok.mp h
    rw [if_neg Bool.false_ne_true, forall₂_map_left_iff]
    exact hall.imp fun _ _ hdelivery => target_resolveDelivery hdelivery

variable (lib) in
/-- Where every route that an event takes has a target, it is delivered. -/
theorem resolve_of_targets (hused : usedRoutes app event ≠ [])
    (h : ∀ route ∈ usedRoutes app event, ∃ target, targetFor app event route (sinkOf route) = .ok target) :
    ∃ deliveries, resolve lib app event = .ok deliveries := by
  unfold resolve
  unfold usedRoutes at hused h
  simp only at hused h ⊢
  cases hmatched : (matchedRoutes app event).isEmpty with
  | true =>
    rw [hmatched] at hused h
    cases hsubscription : isSubscriptionEvent event with
    | true =>
      rw [hsubscription] at hused
      exact absurd rfl hused
    | false =>
      rw [hsubscription] at h
      obtain ⟨target, htarget⟩ := h none (mem_singleton.mpr rfl)
      obtain ⟨delivery, hdelivery⟩ := exists_resolveDelivery lib htarget none
      exact ⟨[delivery], bind_eq_ok.mpr ⟨delivery, hdelivery, rfl⟩⟩
  | false =>
    rw [hmatched, if_neg Bool.false_ne_true] at h
    rw [if_neg Bool.false_ne_true]
    generalize matchedRoutes app event = matched at h
    induction matched with
    | nil => exact ⟨[], rfl⟩
    | cons placed matched ih =>
      obtain ⟨target, htarget⟩ := h (some placed.1) mem_cons_self
      rw [mapM_cons]
      refine exists_bind_ok (Classical.choose_spec (exists_resolveDelivery lib htarget _)) ?_
      exact exists_bind_ok (Classical.choose_spec (ih fun route hroute => h route (mem_cons_of_mem _ hroute))) ⟨_, rfl⟩

/-- When a route takes an event to a channel. -/
theorem targetFor_channel_iff : targetFor app event route (sinkOf route) = .ok (.discordChannel channel) ↔
      Direct route ∧ ((Overrides event ∧ event.channel = some channel) ∨
        (¬ Overrides event ∧ route.bind RouteRule.discordThreadTarget = none ∧
          ((route.bind RouteRule.channel).or event.channel).or app.defaults.channel = some channel)) := by
  unfold targetFor Direct Overrides
  split
  · rename_i hsink
    cases hwebhook : route.bind RouteRule.discordWebhookTarget with
    | some webhook => simp
    | none =>
      by_cases hcustom : event.canonicalKind = "custom"
      · cases hchannel : event.channel with
        | some own => simp [hsink, hcustom]
        | none =>
          cases hthread : route.bind RouteRule.discordThreadTarget with
          | some thread => simp [hcustom]
          | none => cases route.bind RouteRule.channel <;> cases app.defaults.channel <;> simp [hsink, hcustom]
      · cases hthread : route.bind RouteRule.discordThreadTarget with
        | some thread => simp [hcustom]
        | none =>
          cases route.bind RouteRule.channel <;> cases event.channel <;>
            cases app.defaults.channel <;> simp [hsink, hcustom]
  · rename_i hsink
    cases route.bind RouteRule.slackWebhookTarget <;> simp [hsink]
  · rename_i hsink
    cases app.http.endpointText <;> simp [hsink]
  · rename_i hsink
    cases route.bind RouteRule.localFileTarget <;> simp [hsink]
  · rename_i hsink _ _ _
    exact ⟨fun h => (nomatch h), fun h => (hsink h.1.1).elim⟩

theorem mem_routes_of_used {rule : RouteRule} (h : some rule ∈ usedRoutes app event) : rule ∈ app.routes := by
  unfold usedRoutes at h
  simp only at h
  split_ifs at h
  · cases h
  · cases mem_singleton.mp h
  · obtain ⟨placed, hplaced, hrule⟩ := mem_map.mp h
    obtain rfl := some.inj hrule
    exact fst_mem_of_mem_zipIdx (mem_matchedRoutes.mp hplaced).1

/-- The channel that an event has from an entry is named where the walk looks, or unwalked. -/
theorem FromEntry.named_or (h : FromEntry config event) (hchannel : event.channel = some channel) :
    Named config channel ∨ Unwalked config channel := by
  rcases h channel hchannel with ⟨repo, hmem, h⟩ | ⟨session, hmem, h⟩ | ⟨workspace, hmem, h⟩ |
    ⟨henabled, h⟩ | ⟨henabled, h⟩ | hunwalked
  · exact .inl (.git repo hmem h)
  · exact .inl (.tmux session hmem h)
  · exact .inl (.workspace workspace hmem h)
  · exact .inl (.github_status henabled h)
  · exact .inl (.github_notifications henabled h)
  · exact .inr hunwalked

/-- A route takes an event to channels that the walk finds only, if and only if it is audited. -/
theorem route_audited_iff (hentry : FromEntry config event) (hused : route ∈ usedRoutes config.toAppConfig event) :
    (∀ channel, targetFor config.toAppConfig event route (sinkOf route) = .ok (.discordChannel channel) →
        channel ≠ "" ∧ Named config channel) ↔ (Direct route → RouteAudited config event route) := by
  constructor
  · intro h hdirect
    refine ⟨fun htakes own hown => ?_, fun hnot hthread hempty => ?_, fun hnot hthread hnone hevent hempty => ?_⟩
    · have htarget : targetFor config.toAppConfig event route (sinkOf route) = .ok (.discordChannel own) := by
        refine targetFor_channel_iff.mpr ⟨hdirect, ?_⟩
        by_cases hover : Overrides event
        · exact .inl ⟨hover, hown⟩
        · obtain ⟨hthread, hnone⟩ := htakes.resolve_left hover
          exact .inr ⟨hover, hthread, by rw [hnone, hown]; rfl⟩
      obtain ⟨hne, hnamed⟩ := h own htarget
      exact ⟨hne, fun _ => hnamed⟩
    · refine (h "" (targetFor_channel_iff.mpr ⟨hdirect, .inr ⟨hnot, hthread, ?_⟩⟩)).1 rfl
      rw [hempty]
      rfl
    · refine (h "" (targetFor_channel_iff.mpr ⟨hdirect, .inr ⟨hnot, hthread, ?_⟩⟩)).1 rfl
      rw [hnone, hevent, hempty]
      rfl
  · intro haudited channel htarget
    obtain ⟨hdirect, htakes⟩ := targetFor_channel_iff.mp htarget
    have haudited := haudited hdirect
    have hown (hevent : event.channel = some channel)
        (h : channel ≠ "" ∧ (Unwalked config channel → Named config channel)) :
        channel ≠ "" ∧ Named config channel :=
      ⟨h.1, (hentry.named_or hevent).elim id h.2⟩
    rcases htakes with ⟨hover, hevent⟩ | ⟨hnot, hthread, hchannel⟩
    · exact hown hevent (haudited.of_event (.inl hover) channel hevent)
    · cases hroute : route.bind RouteRule.channel with
      | some own =>
        rw [hroute, some_or, some_or] at hchannel
        obtain rfl := some.inj hchannel
        refine ⟨fun hempty => haudited.of_route hnot hthread (hempty ▸ hroute), ?_⟩
        obtain ⟨rule, rfl, hrule⟩ := bind_eq_some_iff.mp hroute
        exact .route rule (mem_routes_of_used hused) hdirect.1 hrule
      | none =>
        rw [hroute, none_or] at hchannel
        cases hevent : event.channel with
        | some own =>
          rw [hevent, some_or] at hchannel
          rw [hchannel] at hevent
          exact hown hevent (haudited.of_event (.inr ⟨hthread, hroute⟩) channel hevent)
        | none =>
          rw [hevent, none_or] at hchannel
          exact ⟨fun hempty => haudited.of_default hnot hthread hroute hevent (hempty ▸ hchannel), .default hchannel⟩

/-- Where the walk finds a channel and all that it finds is allowed, the channel is. -/
theorem mem_of_allOk {allowed_channels : List String} (hok : allOk (verify config allowed_channels) = true)
    (h : channel ∈ (collectBindings config).map ChannelBinding.channel_id) : channel ∈ allowed_channels := by
  obtain ⟨binding, hmem, rfl⟩ := mem_map.mp h
  have hverdict := all_eq_true.mp hok _ (mem_map.mpr ⟨binding, hmem, rfl⟩)
  exact contains_iff_mem.mp hverdict

/-- The audit covers the channels that an event is delivered to, if and only if nothing is delivered, or no
route that it takes on to a channel takes the empty text, or the channel of a cron job or a hold that is named
nowhere else. -/
theorem audit_covers_iff (lib : Libraries) (config : EmittingConfig) (event : IncomingEvent)
    (hentry : FromEntry config event) : Covered lib config event ↔ Undelivered config.toAppConfig event ∨
        ∀ route ∈ usedRoutes config.toAppConfig event, Direct route → RouteAudited config event route := by
  constructor
  · intro hcovered
    by_cases hundelivered : Undelivered config.toAppConfig event
    · exact .inl hundelivered
    refine .inr fun route hroute => (route_audited_iff hentry hroute).mp fun channel htarget => ?_
    have htargets : ∀ route ∈ usedRoutes config.toAppConfig event,
        ∃ target, targetFor config.toAppConfig event route (sinkOf route) = .ok target := by
      intro route hroute
      cases htarget : targetFor config.toAppConfig event route (sinkOf route) with
      | ok target => exact ⟨target, rfl⟩
      | error error => exact absurd ⟨route, hroute, by rw [htarget]; rfl⟩ hundelivered
    obtain ⟨deliveries, hresolve⟩ :=
      resolve_of_targets lib (ne_nil_of_mem hroute) htargets
    obtain ⟨delivery, hdelivery, htold⟩ :=
      exists_of_mem_left (targets_of_resolve hresolve) hroute
    rw [htarget] at htold
    exact mem_collectBindings.mp (hcovered.listed deliveries hresolve delivery hdelivery channel
      (Except.ok.inj htold).symm)
  · intro haudited
    have hlisted : ∀ deliveries, resolve lib config.toAppConfig event = .ok deliveries →
        ∀ delivery ∈ deliveries, ∀ channel, delivery.target = .discordChannel channel →
          channel ∈ (collectBindings config).map ChannelBinding.channel_id := by
      intro deliveries hresolve delivery hdelivery channel hchannel
      have htargets := targets_of_resolve hresolve
      rcases haudited with ⟨route, hroute, hnone⟩ | haudited
      · obtain ⟨delivery', -, htold⟩ := exists_of_mem_left htargets hroute
        rw [htold] at hnone
        cases hnone
      · obtain ⟨route, hroute, htold⟩ := exists_of_mem_left htargets.flip hdelivery
        rw [hchannel] at htold
        exact mem_collectBindings.mpr
          ((route_audited_iff hentry hroute).mpr (haudited route hroute) channel htold)
    exact ⟨hlisted, fun allowed_channels hok deliveries hresolve delivery hdelivery channel hchannel =>
      mem_of_allOk hok (hlisted deliveries hresolve delivery hdelivery channel hchannel)⟩

/-! ## A cron job with a channel of its own -/

namespace Sample

/-- No routes, and no default channel. -/
def noRoutes : AppConfig := ⟨⟨none, .compact⟩, ⟨none, none⟩, []⟩

theorem used_noRoutes {event : IncomingEvent} (h : isSubscriptionEvent event = false) :
    usedRoutes noRoutes event = [none] := by
  have hmatched : matchedRoutes noRoutes event = [] :=
    eq_nil_iff_forall_not_mem.mpr fun _ hplaced => nomatch (mem_matchedRoutes.mp hplaced).1
  unfold usedRoutes
  rw [hmatched, h]
  rfl

/-- A job that writes to its own channel. -/
def reminder : Cron.CronJob :=
  { id := "reminder", schedule := "0 9 * * *", channel := some "ops", message := "stand up" }

/-- The one entry of the configuration is the job. -/
def reminding : EmittingConfig := { noRoutes with cron_jobs := [reminder] }

def reminded : IncomingEvent := Cron.buildJobEvent "u1" reminder none

/-- The walk does not find the channel of the job. -/
theorem cron_channel_is_not_listed :
    ¬ ∀ (config : EmittingConfig) (event : IncomingEvent), FromEntry config event →
      Covered libraries config event := by
  intro hall
  have hentry : FromEntry reminding reminded := fun channel hchannel =>
    .inr (.inr (.inr (.inr (.inr (.cron reminder (mem_singleton.mpr rfl) hchannel)))))
  have hlisted := (hall reminding reminded hentry).listed
  have hempty : collectBindings reminding = [] := rfl
  have hused : usedRoutes reminding.toAppConfig reminded = [none] := used_noRoutes (by decide +kernel)
  have htarget : targetFor reminding.toAppConfig reminded none (sinkOf none) =
      .ok (.discordChannel "ops") := rfl
  obtain ⟨deliveries, hresolve⟩ := resolve_of_targets libraries
    (show usedRoutes reminding.toAppConfig reminded ≠ [] by rw [hused]; exact cons_ne_nil _ _)
    fun route hroute => by
      rw [hused] at hroute
      rw [mem_singleton.mp hroute]
      exact ⟨_, htarget⟩
  obtain ⟨delivery, hdelivery, htold⟩ := exists_of_mem_left (targets_of_resolve hresolve)
    (show none ∈ usedRoutes reminding.toAppConfig reminded by rw [hused]; exact mem_singleton.mpr rfl)
  rw [htarget] at htold
  have hmem := hlisted deliveries hresolve delivery hdelivery "ops" (Except.ok.inj htold).symm
  rw [hempty] at hmem
  cases hmem

/-- A repository that is watched, with a channel of its own. -/
def watching : EmittingConfig := { noRoutes with git_repos := [{ path := "/srv/clawhip", channel := some "ops" }] }

/-- The walk finds the channel of the repository. -/
theorem git_channel_is_listed : Covered libraries watching { commit with channel := some "ops" } := by
  refine (audit_covers_iff libraries watching { commit with channel := some "ops" }
    fun channel hchannel => .inl ⟨_, mem_singleton.mpr rfl, hchannel⟩).mpr
    (.inr fun route hroute _ => ?_)
  have hused : usedRoutes watching.toAppConfig { commit with channel := some "ops" } = [none] :=
    used_noRoutes (by decide +kernel)
  rw [hused] at hroute
  have hnone : route = none := mem_singleton.mp hroute
  subst hnone
  refine ⟨fun _ channel hchannel => ?_, fun _ _ h => (nomatch h), fun _ _ _ h => (nomatch h)⟩
  obtain rfl := some.inj hchannel
  exact ⟨by decide, fun _ => .git _ (mem_singleton.mpr rfl) rfl⟩

end Sample

end Clawhip.Router
