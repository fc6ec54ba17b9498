import Clawhip.ConfigText.Load
import Mathlib.Algebra.GroupWithZero.Nat

/-!
# Normal forms

What a codec of the configuration reads back of what it wrote, and what a second normalization does:
every text is trimmed already, so that only a banned name that still starts with a number sign can
change, and of the sections that a predicate leaves out three come back as another value.
-/

namespace Clawhip.ConfigText

open List Option ProvidersConfig Text GitHubNotificationsMonitorConfig DiscordConfig

open Codec (string list)
open Fieldset (required defaulted maybe skipped)

/-! ## What comes back -/

variable {α : Type} {items names : List String} {name : String}

@[simp] theorem kept_eq (c : Codec α) [h : Codec.Exact c] (a : α) : c.kept a = a := h.kept_eq a

/-- A section that is left out only where it holds its default comes back. -/
theorem ite_kept {c : Codec α} [Codec.Exact c] {skip : Bool} {default a : α} (h : skip = true → a = default) :
    (if skip = true then default else c.kept a) = a := by
  split
  · exact (h ‹_›).symm
  · exact kept_eq c a

theorem DiscordConfig.default_of_isEmpty {c : DiscordConfig} (h : c.isEmpty = true) : c = .default := by
  obtain ⟨bot_token, legacy_default_channel, expected_bot_id⟩ := c
  simp_all [isEmpty, default]

theorem GitHubConfig.default_of_isEmpty {c : GitHubConfig} (h : c.isEmpty = true) : c = .default := by
  obtain ⟨webhook_secret_env⟩ := c
  simp_all [isEmpty, default]

theorem GitHubStatusMonitorConfig.default_of_isDefault {c : GitHubStatusMonitorConfig}
    (h : c.isDefault = true) : c = .default := by
  obtain ⟨enabled, api_base, components, poll_interval_secs, channel, channel_name, mention, format⟩ := c
  simp_all [isDefault, default]

theorem GitHubNotificationsMonitorConfig.default_of_isDefault {c : GitHubNotificationsMonitorConfig}
    (h : c.isDefault = true) : c = .default := beq_iff_eq.mp h

theorem DiscordWatchConfig.default_of_isEmpty {c : DiscordWatchConfig} (h : c.isEmpty = true) : c = .default := by
  obtain ⟨enabled, watched_channels, banned_channel_ids, banned_channel_names,
    gaebal_gajae_user_id, owner_user_ids, nudge_target_channel_id, pending_mentions_threshold,
    direct_mention_persist_ms, channel_message_threshold, global_cooldown_ms, channel_cooldown_ms,
    doctrine_template, state_file, intent_file⟩ := c
  simp_all [isEmpty, default]

theorem GajaeConfig.default_of_isEmpty {c : GajaeConfig} (h : c.isEmpty = true) : c = .default := by
  obtain ⟨handlers_enabled, handler_timeout_ms, handler_max_output_bytes, hold_target_channel⟩ := c
  simp_all [isEmpty, default]

theorem LedgerConfig.default_of_isEmpty {c : LedgerConfig} (h : c.isEmpty = true) :
    c = .default := beq_iff_eq.mp (Bool.and_eq_true_iff.mp h).2

theorem GjcConfig.default_of_isEmpty {c : GjcConfig} (h : c.isEmpty = true) : c = ⟨false⟩ := by
  obtain ⟨enabled⟩ := c
  simp_all [isEmpty]

variable {c : ProvidersConfig}

/-- The providers come back where no text of the HTTP section is blank. -/
theorem kept_providers (h : c.http.isEmpty = true → c.http = .default) : codec.kept c = c := by
  have hkept : codec.kept c = ⟨codec.kept c.discord, SlackConfig.codec.kept c.slack,
        if c.http.isEmpty = true then .default else HttpConfig.codec.kept c.http,
        if c.github.isEmpty = true then .default else GitHubConfig.codec.kept c.github⟩ := rfl
  rw [hkept, ite_kept h, ite_kept GitHubConfig.default_of_isEmpty, kept_eq, kept_eq]

theorem providers_default_of_isEmpty (h : c.isEmpty = true)
    (hhttp : c.http.isEmpty = true → c.http = .default) : c = .default := by
  obtain ⟨⟨⟨hdiscord, -⟩, hempty⟩, hgithub⟩ :
      ((c.discord.isEmpty = true ∧ c.slack.isEmpty = true) ∧ c.http.isEmpty = true) ∧
        c.github.isEmpty = true := by simpa [ProvidersConfig.isEmpty] using h
  calc c = ⟨c.discord, c.slack, c.http, c.github⟩ := rfl
    _ = ⟨.default, c.slack, .default, .default⟩ := by
      rw [default_of_isEmpty hdiscord, hhttp hempty, GitHubConfig.default_of_isEmpty hgithub]

theorem kept_monitors (c : MonitorConfig) : MonitorConfig.codec.kept c = c := by
  have hkept : MonitorConfig.codec.kept c =
      ⟨u64.kept c.poll_interval_secs, c.github_token.map string.kept, string.kept c.github_api_base,
        GitMonitorConfig.codec.kept c.git, TmuxMonitorConfig.codec.kept c.tmux,
        (list WorkspaceMonitor.codec).kept c.workspace, if c.github_status.isDefault = true then .default
          else GitHubStatusMonitorConfig.codec.kept c.github_status,
        if c.github_notifications.isDefault = true then .default
          else codec.kept c.github_notifications⟩ := rfl
  have htoken : c.github_token.map string.kept = c.github_token := by
    cases c.github_token <;> rfl
  rw [hkept, htoken, ite_kept GitHubStatusMonitorConfig.default_of_isDefault, ite_kept default_of_isDefault]
  simp only [kept_eq]

instance : Codec.Exact MonitorConfig.codec := ⟨kept_monitors⟩

/-- What comes back of the sections: three of them are lost where their predicate says that they are
empty, whatever they hold. -/
theorem kept_sections {s : Sections} (h : s.providers.http.isEmpty = true → s.providers.http = .default) :
    Sections.codec.kept s =
      { s with
        cron := if s.cron.isEmpty = true then .default else s.cron
        update := if s.update.isEmpty = true then .default else s.update
        gjc_lanes := if s.gjc_lanes.isEmpty = true then .default else s.gjc_lanes } := by
  have hkept : Sections.codec.kept s = {
      discord := if s.discord.isEmpty = true then .default else codec.kept s.discord
      providers := if s.providers.isEmpty = true then .default
        else codec.kept s.providers
      dispatch := DispatchConfig.codec.kept s.dispatch
      daemon := DaemonConfig.codec.kept s.daemon
      defaults := DefaultsConfig.codec.kept s.defaults
      routes := (list RouteRule.codec).kept s.routes
      monitors := MonitorConfig.codec.kept s.monitors
      cron := if s.cron.isEmpty = true then .default else CronConfig.codec.kept s.cron
      discord_watch := if s.discord_watch.isEmpty = true then .default
        else DiscordWatchConfig.codec.kept s.discord_watch
      update := if s.update.isEmpty = true then .default else UpdateConfig.codec.kept s.update
      gajae := if s.gajae.isEmpty = true then .default else GajaeConfig.codec.kept s.gajae
      subscriptions := if s.subscriptions.isEmpty = true then []
        else (list SubscriptionConfig.codec).kept s.subscriptions
      ledger := if s.ledger.isEmpty = true then .default else LedgerConfig.codec.kept s.ledger
      gjc_lanes := if s.gjc_lanes.isEmpty = true then .default
        else GjcLanesConfig.codec.kept s.gjc_lanes
      gjc := if s.gjc.isEmpty = true then ⟨false⟩ else GjcConfig.codec.kept s.gjc } := rfl
  have hproviders : (if s.providers.isEmpty = true then .default
      else codec.kept s.providers) = s.providers := by
    split
    · exact (providers_default_of_isEmpty ‹_› h).symm
    · exact kept_providers h
  -- the predicates of the other sections hold of their defaults only
  rw [hkept, hproviders, ite_kept default_of_isEmpty,
    ite_kept DiscordWatchConfig.default_of_isEmpty, ite_kept GajaeConfig.default_of_isEmpty,
    ite_kept isEmpty_iff.mp, ite_kept LedgerConfig.default_of_isEmpty, ite_kept GjcConfig.default_of_isEmpty]
  simp only [kept_eq]


/-! ## Normal forms -/

@[simp] theorem normalizeText_normalizeText (value : Option String) :
    normalizeText (normalizeText value) = normalizeText value := by
  cases h : normalizeText value with
  | none => rfl
  | some text => exact nonblank_nonblank h

/-- A trimmed text with a default is trimmed, if the default is. -/
theorem normalizeText_getD {default : String} (value : String)
    (h : (normalizeText (some default)).getD default = default) :
    (normalizeText (some ((normalizeText (some value)).getD default))).getD default =
      (normalizeText (some value)).getD default := by
  cases hvalue : normalizeText (some value) with
  | none => exact h
  | some text => rw [getD_some, normalizeText, nonblank_nonblank hvalue, getD_some]

theorem normalizeText_of_mem {item : String} (h : item ∈ normalizeTexts items) :
    normalizeText (some item) = some item := by
  obtain ⟨raw, -, hraw⟩ := mem_filterMap.mp h
  exact nonblank_nonblank hraw

theorem filterMap_eq_self {f : String → Option String} (h : ∀ item ∈ items, f item = some item) :
    items.filterMap f = items := by
  induction items with
  | nil => rfl
  | cons item items ih =>
    rw [filterMap_cons, h item mem_cons_self]
    exact congrArg _ (ih fun other hother => h other (mem_cons_of_mem _ hother))

@[simp] theorem normalizeTexts_normalizeTexts (items : List String) :
    normalizeTexts (normalizeTexts items) = normalizeTexts items :=
  filterMap_eq_self fun _ => normalizeText_of_mem

theorem normalizeWatchDirs_normalizeWatchDirs (dirs : List String) :
    normalizeWatchDirs (normalizeWatchDirs dirs) = normalizeWatchDirs dirs := by
  have hdefault : normalizeTexts defaultWorkspaceWatchDirs = defaultWorkspaceWatchDirs := by decide
  unfold normalizeWatchDirs
  by_cases hempty : (normalizeTexts dirs).isEmpty = true
  · rw [if_pos hempty, hdefault]
    rfl
  · rw [if_neg hempty, normalizeTexts_normalizeTexts, if_neg hempty]

theorem map_map_eq {f : α → α} (h : ∀ a, f (f a) = f a) (items : List α) : (items.map f).map f = items.map f := by
  rw [List.map_map]
  exact map_congr_left fun a _ => h a

theorem normalizeGajae_normalizeGajae (gajae : GajaeRouteAction) :
    normalizeGajae (normalizeGajae gajae) = normalizeGajae gajae := by
  simp [normalizeGajae, normalizeText_getD _ (show _ = "" by decide)]

theorem normalizeRoute_normalizeRoute (route : RouteRule) :
    normalizeRoute (normalizeRoute route) = normalizeRoute route := by
  have hgajae : (route.gajae.map normalizeGajae).map normalizeGajae = route.gajae.map normalizeGajae := by
    cases route.gajae with
    | none => rfl
    | some gajae => exact congrArg some (normalizeGajae_normalizeGajae gajae)
  simp only [normalizeRoute, normalizeText_normalizeText, hgajae, normalizeText_getD _ (show _ = "discord" by decide)]

theorem normalizeRepo_normalizeRepo (repo : GitRepoMonitor) :
    normalizeRepo (normalizeRepo repo) = normalizeRepo repo := by
  simp only [normalizeRepo, normalizeText_normalizeText]

theorem normalizeSession_normalizeSession (session : TmuxSessionMonitor) :
    normalizeSession (normalizeSession session) = normalizeSession session := by
  simp only [normalizeSession, normalizeText_normalizeText]

theorem normalizeWorkspace_normalizeWorkspace (workspace : WorkspaceMonitor) :
    normalizeWorkspace (normalizeWorkspace workspace) = normalizeWorkspace workspace := by
  have hpoll : (workspace.poll_interval_secs.map fun secs => max secs 1).map
      (fun secs => max secs 1) = workspace.poll_interval_secs.map fun secs => max secs 1 := by
    cases workspace.poll_interval_secs <;> simp
  have hdebounce : max (max workspace.debounce_ms 1) 1 = max workspace.debounce_ms 1 := by omega
  simp only [normalizeWorkspace, normalizeText_normalizeText, normalizeTexts_normalizeTexts,
    normalizeWatchDirs_normalizeWatchDirs, hpoll, hdebounce, normalizeText_getD _ (show _ = "" by decide)]

theorem normalizeJob_normalizeJob (job : CronJob) : normalizeJob (normalizeJob job) = normalizeJob job := by
  have hkind : normalizeKind (normalizeKind job.kind) = normalizeKind job.kind := by
    cases job.kind with
    | customMessage message => simp only [normalizeKind, normalizeText_getD _ (show _ = "" by decide)]
  simp only [normalizeJob, normalizeText_normalizeText, hkind,
    normalizeText_getD _ (show _ = "" by decide), normalizeText_getD _ (show _ = "UTC" by decide)]

theorem normalizeProviders_normalizeProviders (providers : ProvidersConfig) :
    normalizeProviders (normalizeProviders providers) = normalizeProviders providers := by
  simp only [normalizeProviders, normalizeDiscord, normalizeText_normalizeText]

theorem normalizeMonitors_normalizeMonitors (monitors : MonitorConfig) :
    normalizeMonitors (normalizeMonitors monitors) = normalizeMonitors monitors := by
  simp only [normalizeMonitors, normalizeText_normalizeText,
    map_map_eq normalizeRepo_normalizeRepo, map_map_eq normalizeSession_normalizeSession,
    map_map_eq normalizeWorkspace_normalizeWorkspace]

/-- The banned names are all that a second normalization of the watch can change. -/
theorem normalizeWatch_normalizeWatch (watch : DiscordWatchConfig) : normalizeWatch (normalizeWatch watch) =
      { normalizeWatch watch with
        banned_channel_names := (normalizeWatch watch).banned_channel_names.filterMap normalizeBannedName } := by
  simp only [normalizeWatch, normalizeTexts_normalizeTexts, normalizeText_getD _ (show _ = "" by decide)]

/-! ## Banned names -/

theorem length_strip_le (p : α → Bool) (l : List α) : (strip p l).length ≤ l.length := by
  unfold strip
  have hleft := (dropWhile_suffix (l := l) p).length_le
  have hright := (dropWhile_suffix (l := (l.dropWhile p).reverse) p).length_le
  rw [length_reverse] at hright ⊢
  omega

variable {after : String}

/-- What a banned name becomes: its characters without the number signs, in lower case, stripped. -/
theorem toList_normalizeBannedName (h : normalizeBannedName name = some after) :
    after.toList = strip isWhitespace ((name.toList.dropWhile fun c => c == '#').map Char.toLower) := by
  unfold normalizeBannedName normalizeText nonblank at h
  obtain ⟨hmap, -⟩ := filter_eq_some_iff.mp h
  rw [map_some] at hmap
  rw [← some.inj hmap, trim, String.toList_ofList, toAsciiLowercase, String.toList_ofList, String.toList_ofList]

theorem length_normalizeBannedName (h : normalizeBannedName name = some after) :
    after.toList.length ≤ name.toList.length ∧
      (name.toList.head? = some '#' → after.toList.length < name.toList.length) := by
  have hstrip := length_strip_le isWhitespace ((name.toList.dropWhile fun c => c == '#').map Char.toLower)
  rw [← toList_normalizeBannedName h, length_map] at hstrip
  constructor
  · exact hstrip.trans (dropWhile_suffix _).length_le
  · intro hhead
    cases hname : name.toList with
    | nil => simp [hname] at hhead
    | cons c rest =>
      obtain rfl : c = '#' := by simpa [hname] using hhead
      rw [hname, dropWhile_cons_of_pos (by decide)] at hstrip
      have hrest := (dropWhile_suffix (l := rest) fun c => c == '#').length_le
      rw [length_cons]
      omega

def characters (names : List String) : ℕ := (names.map fun name => name.toList.length).sum

theorem characters_filterMap_le (names : List String) :
    characters (names.filterMap normalizeBannedName) ≤ characters names := by
  induction names with
  | nil => exact le_refl _
  | cons name names ih =>
    unfold characters at ih ⊢
    rw [map_cons, sum_cons]
    cases hname : normalizeBannedName name with
    | none =>
      rw [filterMap_cons_none hname]
      omega
    | some after =>
      rw [filterMap_cons_some hname, map_cons, sum_cons]
      have hle := (length_normalizeBannedName hname).1
      omega

/-- A name that starts with a number sign loses a character. -/
theorem characters_filterMap_lt (hmem : name ∈ names) (hhead : name.toList.head? = some '#') :
    characters (names.filterMap normalizeBannedName) < characters names := by
  obtain ⟨before, later, rfl⟩ := append_of_mem hmem
  have hbefore := characters_filterMap_le before
  have hlater := characters_filterMap_le later
  have hpos : 0 < name.toList.length := by
    cases hname : name.toList with
    | nil => simp [hname] at hhead
    | cons c rest => exact Nat.succ_pos _
  unfold characters at hbefore hlater ⊢
  rw [filterMap_append, map_append, map_append, sum_append, sum_append, map_cons, sum_cons]
  cases hname : normalizeBannedName name with
  | none =>
    rw [filterMap_cons_none hname]
    omega
  | some after =>
    rw [filterMap_cons_some hname, map_cons, sum_cons]
    have hlt := (length_normalizeBannedName hname).2 hhead
    omega

theorem normalizeBannedName_eq_self {raw : String} (h : normalizeBannedName raw = some name)
    (hhead : name.toList.head? ≠ some '#') : normalizeBannedName name = some name := by
  have hkept : name.toList.dropWhile (fun c => c == '#') = name.toList := dropWhile_eq_self fun c hc => by
      by_contra hsign
      exact hhead (by simpa [mem_def.mp hc] using hsign)
  -- every character of a normalized name is in lower case
  have hlower : name.toList.map Char.toLower = name.toList := by
    rw [toList_normalizeBannedName h]
    refine (map_congr_left fun c hc => ?_).trans (map_id _)
    have hdropped := (dropWhile_suffix _).subset (mem_reverse.mp hc)
    obtain ⟨d, -, rfl⟩ := mem_map.mp ((dropWhile_suffix _).subset (mem_reverse.mp hdropped))
    exact toLower_toLower d
  unfold normalizeBannedName toAsciiLowercase
  rw [hkept, String.ofList_toList, hlower, String.ofList_toList]
  exact nonblank_nonblank h

/-- Names that have been normalized stay as they are exactly when none of them still starts with a
number sign. -/
theorem bannedNames_eq_iff (h : ∀ name ∈ names, ∃ raw, normalizeBannedName raw = some name) :
    names.filterMap normalizeBannedName = names ↔ ∀ name ∈ names, name.toList.head? ≠ some '#' := by
  constructor
  · intro heq name hmem hhead
    have hlt := characters_filterMap_lt hmem hhead
    rw [heq] at hlt
    exact lt_irrefl _ hlt
  · intro hheads
    refine filterMap_eq_self fun name hmem => ?_
    obtain ⟨raw, hraw⟩ := h name hmem
    exact normalizeBannedName_eq_self hraw (hheads name hmem)

end Clawhip.ConfigText
