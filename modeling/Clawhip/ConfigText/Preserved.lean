import Clawhip.ConfigFile.Save
import Clawhip.ConfigText.Normal

/-!
# What a saved configuration keeps

A configuration that was loaded is written and loaded again. `Settled` is what loading establishes,
`returned` what a settled configuration comes back as, and `KeepsAll` says when that is the
configuration itself. A save that finds its text in the file already puts nothing into the
directories.
-/

namespace Clawhip.ConfigText

open List Option Sections

open Codec (string list)

/-! ## Loaded configurations -/

/-- What holds of the sections of every configuration that was loaded. -/
structure Settled (s : Sections) : Prop where
  discord : s.discord = .default
  providers : normalizeProviders s.providers = s.providers
  channel : normalizeText s.defaults.channel = s.defaults.channel
  routes : s.routes.map normalizeRoute = s.routes
  monitors : normalizeMonitors s.monitors = s.monitors
  watch : normalizeWatch s.discord_watch =
    { s.discord_watch with
      banned_channel_names :=
        s.discord_watch.banned_channel_names.filterMap normalizeBannedName }
  jobs : s.cron.jobs.map normalizeJob = s.cron.jobs
  filled : s.defaults.channel = none → discordDefaultChannel s = none
  names : ∀ name ∈ s.discord_watch.banned_channel_names, ∃ raw, normalizeBannedName raw = some name
  fits : Sections.codec.fits s

/-! ### What is known of the numbers and maps -/

/-- Nothing is to be known of a text that may be missing. -/
theorem fits_texts (value : Option String) : ∀ b ∈ value, string.fits b := fun _ _ => trivial

theorem fits_format (value : Option MessageFormat) : ∀ b ∈ value, messageFormat.fits b := fun _ _ => trivial

theorem fits_discord_all (c : DiscordConfig) : DiscordConfig.codec.fits c := ⟨fits_texts _, fits_texts _, fits_texts _⟩

theorem fits_providers_all (c : ProvidersConfig) : ProvidersConfig.codec.fits c :=
  ⟨fits_discord_all _, trivial, ⟨fits_texts _, fits_texts _⟩, fits_texts c.github.webhook_secret_env⟩

theorem fits_defaults_all (c : DefaultsConfig) : DefaultsConfig.codec.fits c := ⟨fits_texts _, fits_texts _, trivial⟩

theorem fits_normalizeRoute {route : RouteRule} (h : RouteRule.codec.fits route) :
    RouteRule.codec.fits (normalizeRoute route) :=
  ⟨trivial, h.2.1, trivial, fits_texts _, fits_texts _, fits_texts _, fits_texts _, fits_texts _,
    fits_texts _, fits_texts _, trivial, fits_format _, fits_texts _, fun _ _ => ⟨trivial, texts_list_fits _, trivial⟩⟩

theorem fits_repo_all (c : GitRepoMonitor) : GitRepoMonitor.codec.fits c :=
  ⟨trivial, fits_texts _, trivial, fits_texts _, trivial, trivial, trivial, trivial, trivial,
    fits_texts _, fits_texts _, trivial, fits_texts _, fits_format _⟩

theorem fits_normalizeSession {session : TmuxSessionMonitor} (h : TmuxSessionMonitor.codec.fits session) :
    TmuxSessionMonitor.codec.fits (normalizeSession session) :=
  ⟨trivial, texts_list_fits _, h.2.2.1, h.2.2.2.1, fits_texts _, fits_texts _, fits_texts _, fits_format _⟩

theorem fits_normalizeWorkspace {workspace : WorkspaceMonitor} (h : WorkspaceMonitor.codec.fits workspace) :
    WorkspaceMonitor.codec.fits (normalizeWorkspace workspace) := by
  obtain ⟨-, -, -, -, -, -, -, hpoll, hdebounce⟩ := h
  have hmax : ∀ n : ℕ, u64.fits n → u64.fits (max n 1) := fun n hn => ⟨max_lt hn.1 (by decide), max_lt hn.2 (by decide)⟩
  have hnext : ∀ secs ∈ workspace.poll_interval_secs.map fun secs => max secs 1, u64.fits secs := by
    intro secs hsecs
    obtain ⟨before, hbefore, rfl⟩ := mem_map.mp hsecs
    exact hmax before (hpoll before hbefore)
  exact ⟨trivial, texts_list_fits _, trivial, fits_texts _, fits_texts _, fits_format _,
    texts_list_fits _, hnext, hmax _ hdebounce⟩

theorem fits_normalizeMonitors {monitors : MonitorConfig} (h : MonitorConfig.codec.fits monitors) :
    MonitorConfig.codec.fits (normalizeMonitors monitors) := by
  obtain ⟨hpoll, -, -, -, htmux, hworkspace, hstatus, hnotifications⟩ := h
  refine ⟨hpoll, fits_texts _, trivial, fun repo _ => fits_repo_all repo, ?_, ?_, hstatus, hnotifications⟩
  · intro session hsession
    obtain ⟨before, hbefore, rfl⟩ := mem_map.mp hsession
    exact fits_normalizeSession (htmux before hbefore)
  · intro workspace hmem
    obtain ⟨before, hbefore, rfl⟩ := mem_map.mp hmem
    exact fits_normalizeWorkspace (hworkspace before hbefore)

theorem fits_normalizeWatch {watch : DiscordWatchConfig} (h : DiscordWatchConfig.codec.fits watch) :
    DiscordWatchConfig.codec.fits (normalizeWatch watch) := by
  obtain ⟨-, hchannels, -, -, -, -, -, hpending, hpersist, hmessages, hglobal, hchannel, -, -, -⟩ := h
  exact ⟨trivial, hchannels, texts_list_fits _, texts_list_fits _, trivial, texts_list_fits _,
    fits_texts _, hpending, hpersist, hmessages, hglobal, hchannel, trivial, fits_texts _, fits_texts _⟩

theorem fits_normalizeJob {job : CronJob} (h : CronJob.codec.fits job) : CronJob.codec.fits (normalizeJob job) := by
  obtain ⟨-, -, -, -, -, -, -, -, httl, -⟩ := h
  exact ⟨trivial, trivial, trivial, trivial, fits_texts _, fits_texts _, fits_format _,
    fits_texts _, httl, trivial, trivial⟩

variable {s : Sections}

theorem fits_normalize (h : codec.fits s) : codec.fits (normalize s) := by
  obtain ⟨-, -, hdispatch, hdaemon, -, hroutes, hmonitors, hcron, hwatch, hupdate, hgajae,
    hsubscriptions, hledger, hlanes, hgjc⟩ := h
  refine ⟨fits_discord_all _, fits_providers_all _, hdispatch, hdaemon, fits_defaults_all _, ?_,
    fits_normalizeMonitors hmonitors, ⟨hcron.1, ?_⟩, fits_normalizeWatch hwatch, hupdate, hgajae,
    hsubscriptions, hledger, hlanes, hgjc⟩
  · intro route hroute
    obtain ⟨before, hbefore, rfl⟩ := mem_map.mp hroute
    exact fits_normalizeRoute (hroutes before hbefore)
  · intro job hjob
    obtain ⟨before, hbefore, rfl⟩ := mem_map.mp hjob
    exact fits_normalizeJob (hcron.2 before hbefore)

/-! ### Every loaded configuration is settled -/

theorem normalizeText_discordDefaultChannel (s : Sections) :
    normalizeText (discordDefaultChannel s) = discordDefaultChannel s := by
  unfold discordDefaultChannel
  cases hprovider : normalizeText s.providers.discord.legacy_default_channel with
  | none => rw [none_or, normalizeText_normalizeText]
  | some channel => exact Text.nonblank_nonblank hprovider

/-- Normalization and the default channel settle what the merge gives. -/
theorem settled_fillDefaultChannel {m : Sections} (hdiscord : m.discord = .default)
    (hfits : codec.fits m) : Settled (fillDefaultChannel (normalize m)) := by
  have hlegacy : (normalize m).discord = .default := by
    show normalizeDiscord m.discord = .default
    rw [hdiscord]
    rfl
  have hjobs : ((m.cron.jobs.map normalizeJob).map normalizeJob) = m.cron.jobs.map normalizeJob :=
    map_map_eq normalizeJob_normalizeJob _
  have hroutes : ((m.routes.map normalizeRoute).map normalizeRoute) = m.routes.map normalizeRoute :=
    map_map_eq normalizeRoute_normalizeRoute _
  have hnames : ∀ name ∈ m.discord_watch.banned_channel_names.filterMap normalizeBannedName,
      ∃ raw, normalizeBannedName raw = some name := by
    intro name hname
    obtain ⟨raw, -, hraw⟩ := mem_filterMap.mp hname
    exact ⟨raw, hraw⟩
  have hnormal := fits_normalize hfits
  unfold fillDefaultChannel
  -- the default channel is filled in where there is none, and kept otherwise
  split
  · exact {
      discord := hlegacy
      providers := normalizeProviders_normalizeProviders _
      channel := normalizeText_discordDefaultChannel _
      routes := hroutes
      monitors := normalizeMonitors_normalizeMonitors _
      watch := normalizeWatch_normalizeWatch _
      jobs := hjobs
      filled := fun h => h
      names := hnames
      fits := ⟨hnormal.1, hnormal.2.1, hnormal.2.2.1, hnormal.2.2.2.1, fits_defaults_all _, hnormal.2.2.2.2.2⟩ }
  · exact {
      discord := hlegacy
      providers := normalizeProviders_normalizeProviders _
      channel := normalizeText_normalizeText _
      routes := hroutes
      monitors := normalizeMonitors_normalizeMonitors _
      watch := normalizeWatch_normalizeWatch _
      jobs := hjobs
      filled := fun h => absurd (isNone_iff_eq_none.mpr h) ‹_›
      names := hnames
      fits := hnormal }

variable {raw_toml : Toml}

theorem settled_of_read (hfits : raw_toml.Fits) (h : readSections raw_toml = some s) : Settled s := by
  obtain ⟨read, hread, h⟩ := bind_eq_some_iff.mp h
  obtain ⟨merged, hmerged, rfl⟩ := map_eq_some_iff.mp h
  obtain ⟨discord, -, rfl⟩ := map_eq_some_iff.mp hmerged
  have hfits := codec.fits_of_decode raw_toml read hfits hread
  exact settled_fillDefaultChannel rfl ⟨fits_discord, fits_providers_all _, hfits.2.2⟩

/-! ## What comes back of a loaded configuration -/

/-- What a saved configuration comes back as. -/
def returned (s : Sections) : Sections :=
  { s with
    cron := if s.cron.isEmpty = true then .default else s.cron
    update := if s.update.isEmpty = true then .default else s.update
    gjc_lanes := if s.gjc_lanes.isEmpty = true then .default else s.gjc_lanes
    discord_watch := { s.discord_watch with
      banned_channel_names := s.discord_watch.banned_channel_names.filterMap normalizeBannedName } }

theorem mergeLegacyDiscordField_self {value : Option String} (h : normalizeText value = value) :
    mergeLegacyDiscordField none value = some value := by
  have hnone : normalizeText none = none := rfl
  unfold mergeLegacyDiscordField
  rw [h, hnone]
  cases value <;> rfl

/-- Without a legacy section there is nothing to move. -/
theorem mergeLegacyDiscord_self (raw_toml : Toml) (hdiscord : s.discord = .default)
    (hproviders : normalizeProviders s.providers = s.providers) : mergeLegacyDiscord raw_toml s = some s := by
  have htexts : normalizeDiscord s.providers.discord = s.providers.discord :=
    congrArg ProvidersConfig.discord hproviders
  have hmerged : mergedDiscord s.discord s.providers.discord = some s.providers.discord := by
    rw [hdiscord]
    unfold mergedDiscord DiscordConfig.default
    rw [mergeLegacyDiscordField_self (congrArg DiscordConfig.bot_token htexts),
      mergeLegacyDiscordField_self (congrArg DiscordConfig.legacy_default_channel htexts),
      mergeLegacyDiscordField_self (congrArg DiscordConfig.expected_bot_id htexts)]
    rfl
  unfold mergeLegacyDiscord
  rw [hmerged, ite_self, map_some, ← hdiscord]

theorem Settled.http (h : Settled s) (hempty : s.providers.http.isEmpty = true) : s.providers.http = .default := by
  have hnormal : HttpConfig.mk (normalizeText s.providers.http.endpoint)
      (normalizeText s.providers.http.hmac_secret_env) = s.providers.http :=
    congrArg ProvidersConfig.http h.providers
  obtain ⟨hendpoint, hsecret⟩ := Bool.and_eq_true_iff.mp hempty
  have hnone : normalizeText s.providers.http.endpoint = none ∧ normalizeText s.providers.http.hmac_secret_env = none :=
    ⟨isNone_iff_eq_none.mp hendpoint, isNone_iff_eq_none.mp hsecret⟩
  rw [← hnormal, hnone.1, hnone.2]
  rfl

/-- A second normalization changes the banned names at most. -/
theorem Settled.normalize_kept (h : Settled s) :
    normalize { s with
      cron := if s.cron.isEmpty = true then .default else s.cron
      update := if s.update.isEmpty = true then .default else s.update
      gjc_lanes := if s.gjc_lanes.isEmpty = true then .default else s.gjc_lanes } = returned s := by
  have hdiscord : normalizeDiscord s.discord = s.discord := by
    rw [h.discord]
    rfl
  have hdefaults : { s.defaults with channel := normalizeText s.defaults.channel } = s.defaults := by
    rw [h.channel]
  have hcron : ∀ empty : Bool,
      { (if empty = true then CronConfig.default else s.cron) with
        jobs := (if empty = true then CronConfig.default else s.cron).jobs.map normalizeJob } =
      if empty = true then CronConfig.default else s.cron := by
    intro empty
    cases empty with
    | true => rfl
    | false => exact congrArg (CronConfig.mk s.cron.poll_interval_secs) h.jobs
  simp only [normalize, returned, hdiscord, hdefaults, h.providers, h.routes, h.monitors, h.watch, hcron]

theorem Settled.fillDefaultChannel_returned (h : Settled s) : fillDefaultChannel (returned s) = returned s := by
  unfold fillDefaultChannel
  split
  · have hnone : s.defaults.channel = none := isNone_iff_eq_none.mp ‹_›
    have hchannel : discordDefaultChannel (returned s) = (returned s).defaults.channel :=
      (h.filled hnone).trans hnone.symm
    rw [hchannel]
  · rfl

/-- A loaded configuration comes back as `returned` says. -/
theorem Settled.reads (h : Settled s) : readSections (codec.encode s) = some (returned s) := by
  have hdecode := codec.decode_encode s h.fits
  rw [kept_sections h.http] at hdecode
  have hmerge := fun cron update gjc_lanes => mergeLegacyDiscord_self (codec.encode s)
    (s := { s with cron := cron, update := update, gjc_lanes := gjc_lanes }) h.discord h.providers
  unfold readSections
  rw [hdecode, bind_some, hmerge, map_some, h.normalize_kept, h.fillDefaultChannel_returned]

/-- A configuration of which no section is lost: the interval of a cron section without jobs is the
default one, an update section without a channel and a checkout, and not enabled, is the derived
default, the lanes section is not empty, and no banned name starts with a number sign. -/
structure KeepsAll (s : Sections) : Prop where
  cron : s.cron.isEmpty = true → s.cron.poll_interval_secs = 30
  update : s.update.isEmpty = true → s.update.check_interval_secs = 0 ∧ s.update.auto_restart = false
  gjc_lanes : s.gjc_lanes.isEmpty = false
  banned : ∀ name ∈ s.discord_watch.banned_channel_names, name.toList.head? ≠ some '#'

theorem cron_default_iff {cron : CronConfig} (h : cron.isEmpty = true) :
    CronConfig.default = cron ↔ cron.poll_interval_secs = 30 := by
  obtain ⟨poll_interval_secs, jobs⟩ := cron
  have hjobs : jobs = [] := isEmpty_iff.mp h
  simp [CronConfig.default, hjobs, eq_comm]

theorem update_default_iff {update : UpdateConfig} (h : update.isEmpty = true) :
    UpdateConfig.default = update ↔ update.check_interval_secs = 0 ∧ update.auto_restart = false := by
  obtain ⟨enabled, channel, check_interval_secs, auto_restart, repo_root⟩ := update
  obtain ⟨⟨henabled, hchannel⟩, hroot⟩ : (enabled = false ∧ channel = none) ∧ repo_root = none := by
    simpa [UpdateConfig.isEmpty] using h
  simp [UpdateConfig.default, henabled, hchannel, hroot, eq_comm]

/-- The default lanes section is not empty: its base is the derived default, which is no base. -/
theorem ite_lanes_iff {lanes : GjcLanesConfig} :
    (if lanes.isEmpty = true then .default else lanes) = lanes ↔ lanes.isEmpty = false := by
  cases hempty : lanes.isEmpty with
  | false => simp
  | true =>
    have hdefault : GjcLanesConfig.default.isEmpty = false := by decide
    rw [if_pos rfl]
    constructor
    · intro heq
      rw [← heq, hdefault] at hempty
      cases hempty
    · intro h
      cases h

theorem ite_default_iff {α : Type} {skip : Bool} {default a : α} {P : Prop}
    (h : skip = true → (default = a ↔ P)) : (if skip = true then default else a) = a ↔ (skip = true → P) := by
  cases skip with
  | false => simp
  | true => simpa using h rfl

theorem Settled.returned_eq_iff (h : Settled s) : returned s = s ↔ KeepsAll s := by
  have hcron := @ite_default_iff _ s.cron.isEmpty _ _ _ cron_default_iff
  have hupdate := @ite_default_iff _ s.update.isEmpty _ _ _ update_default_iff
  constructor
  · intro heq
    exact {
      cron := hcron.mp (congrArg cron heq)
      update := hupdate.mp (congrArg update heq)
      gjc_lanes := ite_lanes_iff.mp (congrArg gjc_lanes heq)
      banned := (bannedNames_eq_iff h.names).mp (congrArg (fun s => s.discord_watch.banned_channel_names) heq) }
  · intro hkeeps
    have hnames := (bannedNames_eq_iff h.names).mpr hkeeps.banned
    unfold returned
    rw [hcron.mpr hkeeps.cron, hupdate.mpr hkeeps.update, ite_lanes_iff.mpr hkeeps.gjc_lanes, hnames]

/-! ## The second save -/

section SecondSave

open ConfigFile

def bytesOf (text : String) : Bytes := text.toUTF8.toList

/-- A request that puts something into the directories. -/
def writes : Request → Bool
  | .createBackup _ | .writeBackup _ _ | .createTemp | .writeTemp _ | .rename => true
  | _ => false

/-- The file that is read, if it can be read, holds some bytes. -/
def holds (bytes : Bytes) : (request : Request) → request.Reply → Prop
  | .readActive, reply => ∀ active, (show Option ActiveConfigState from reply) = some active →
      active.map File.bytes = some bytes
  | _, _ => True

variable (files : ConfigFile.Library) (call : Call)

/-- The programs that put nothing into the directories while the file holds the new bytes. -/
abbrev Quiet {β : Type} (program : Save β) : Prop :=
  program.Within (holds call.new_bytes) fun request => writes request = false

theorem quiet_check {β : Type} {next : Bool → Save β} (h : ∀ ok, Quiet call (next ok)) :
    Quiet call (Save.check >>= next) := ⟨rfl, fun ok _ => h ok⟩

variable (is_protected : List FileIdentity)

theorem quiet_cleanupGo (keep_from : ℕ) (candidates : List (BackupCandidate × ℕ)) :
    Quiet call (cleanupGo call is_protected keep_from candidates) := by
  induction candidates with
  | nil => trivial
  | cons candidate candidates ih =>
    unfold cleanupGo
    split
    · refine quiet_check call fun ok => ?_
      cases ok with
      | false => trivial
      | true =>
        refine ⟨rfl, fun deleted _ => ?_⟩
        cases deleted with
        | false => trivial
        | true => exact ih
    · exact ih

theorem quiet_cleanupConfigBackups : Quiet call (cleanupConfigBackups call is_protected) := by
  refine quiet_check call fun ok => ?_
  cases ok with
  | false => trivial
  | true =>
    refine ⟨rfl, fun candidates _ => ?_⟩
    cases (show Option (List BackupCandidate) from candidates) with
    | none => trivial
    | some candidates => exact quiet_cleanupGo call _ _ _

/-- A save that finds the file current puts nothing into the directories, no backup either. -/
theorem quiet_saveWithBackup : Quiet call (saveWithBackup files call) := by
  refine quiet_check call fun ok => ?_
  cases ok with
  | false => trivial
  | true =>
    refine ⟨rfl, fun reply hreply => ?_⟩
    cases hactive : (show Option ActiveConfigState from reply) with
    | none =>
      obtain rfl := hactive
      trivial
    | some active =>
      have hcurrent : active.map File.bytes = some call.new_bytes := hreply active hactive
      obtain rfl := hactive
      show Quiet call (if active.map File.bytes = some call.new_bytes then _ else _)
      rw [if_pos hcurrent]
      refine quiet_check call fun ok => ?_
      cases ok with
      | false => trivial
      | true => exact quiet_cleanupConfigBackups call _
end SecondSave

/-! ## Saving a loaded configuration -/

/-- The printer prints a tree that the language can say. -/
def Crate.Prints (crate : Crate) (v : Toml) : Prop := v.Fits → (crate.print v).isSome

/-- Saving a configuration preserves it: what is written is loaded as the same configuration, and a
second save finds its file current and puts nothing into the directories. -/
def Preserved (crate : Crate) (path : String) (c : AppConfig) : Prop :=
  ∃ text c', c.toPrettyToml crate = some text ∧ loadOrDefaultWithoutManaged crate path text = some c' ∧ c' = c ∧
      ∀ again, c'.toPrettyToml crate = some again → again = text ∧
        ∀ (files : ConfigFile.Library) (call : ConfigFile.Call), call.new_bytes = bytesOf again →
          (ConfigFile.saveWithBackup files call).Within (holds (bytesOf text))
            fun request => writes request = false

/-- A loaded configuration is preserved exactly when it comes back as it is. -/
theorem preserved_iff_returned {crate : Crate} {path text : String} {c : AppConfig}
    (hload : loadOrDefaultWithoutManaged crate path text = some c)
    (hprints : crate.Prints (codec.encode c.toSections)) :
    Preserved crate path c ↔ returned c.toSections = c.toSections := by
  obtain ⟨raw_toml, hparse, hload⟩ := bind_eq_some_iff.mp hload
  obtain ⟨s, hread, rfl⟩ := map_eq_some_iff.mp hload
  have hsettled : Settled s := settled_of_read (crate.parse_fits text raw_toml hparse) hread
  obtain ⟨saved, hsaved⟩ := isSome_iff_exists.mp (hprints (codec.fits_encode s hsettled.fits))
  have hagain : loadOrDefaultWithoutManaged crate path saved =
      some { returned s with config_path := path, managed_repo_root := none } := by
    unfold loadOrDefaultWithoutManaged
    rw [crate.parse_print _ _ hsaved, bind_some, hsettled.reads, map_some]
  constructor
  · rintro ⟨text', c', htext', hc', rfl, -⟩
    obtain rfl : saved = text' := some.inj (hsaved.symm.trans htext')
    exact congrArg AppConfig.toSections (some.inj (hagain.symm.trans hc'))
  · intro hreturned
    rw [hreturned] at hagain
    refine ⟨saved, _, hsaved, hagain, rfl, fun again hsecond => ?_⟩
    obtain rfl : saved = again := some.inj (hsaved.symm.trans hsecond)
    exact ⟨rfl, fun files call hcall => hcall ▸ quiet_saveWithBackup files call⟩

/-- A configuration that was loaded is preserved by saving it exactly when no section of it is
lost. -/
theorem saving_preserves_iff (crate : Crate) (path text : String) (c : AppConfig)
    (hload : loadOrDefaultWithoutManaged crate path text = some c)
    (hprints : crate.Prints (Sections.codec.encode c.toSections)) :
    Preserved crate path c ↔ KeepsAll c.toSections := by
  obtain ⟨raw_toml, hparse, hconfig⟩ := bind_eq_some_iff.mp hload
  obtain ⟨s, hread, rfl⟩ := map_eq_some_iff.mp hconfig
  have hsettled : Settled s := settled_of_read (crate.parse_fits text raw_toml hparse) hread
  exact (preserved_iff_returned hload hprints).trans hsettled.returned_eq_iff


namespace Sample

open Classical in
/-- A crate that knows two files: one of the user's, and one that it prints itself. -/
noncomputable def crate (text saved : String) (raw_toml : Toml) (s : Sections)
    (hraw : raw_toml.Fits) (hs : Sections.codec.fits s) : Crate where
  parse file :=
    if file = saved then some (Sections.codec.encode s)
    else if file = text then some raw_toml else none
  print v := if v = Sections.codec.encode s then some saved else none
  parse_fits file v h := by
    split at h
    · exact Option.some.inj h ▸ Sections.codec.fits_encode s hs
    · split at h
      · exact Option.some.inj h ▸ hraw
      · cases h
  parse_print v file h := by
    split at h
    · obtain rfl := Option.some.inj h
      rw [if_pos rfl, ‹v = _›]
    · cases h

/-- The sections of an empty file. -/
def plain : Sections :=
  ⟨.default, .default, .default, .default, .default, [], .default, .default, .default, .default,
    .default, [], .default, .default, ⟨false⟩⟩

/-- A cron section that sets its interval only. -/
def impatient : Sections := { plain with cron := ⟨5, []⟩ }

/-- What is printed for both of them. -/
def saved : String :=
  "routes = []\n\n[dispatch]\nci_batch_window_secs = 30\nroutine_batch_window_secs = 5\n\n" ++
    "[daemon]\nbind_host = \"0.0.0.0\"\nport = 25294\nbase_url = \"http://127.0.0.1:25294\"\n\n" ++
    "[defaults]\nformat = \"compact\"\n\n[monitors]\npoll_interval_secs = 5\n" ++
    "github_api_base = \"https://api.github.com\"\nworkspace = []\n\n[monitors.git]\n" ++
    "repos = []\n\n[monitors.tmux]\nsessions = []\n\n[gjc_lanes]\npoll_interval_secs = 30\n" ++
    "initial_backoff_ms = 500\nmax_backoff_ms = 30000\nmax_consecutive_attempts = 8\n" ++
    "ghost_grace_polls = 3\n\n[gjc_lanes.pr]\napi_base = \"\"\n"

def impatientText : String := "[cron]\npoll_interval_secs = 5\n"

def impatientToml : Toml := .table [("cron", .table [("poll_interval_secs", .integer 5)])]

theorem fits_empty : (Toml.table []).Fits := .table Pairwise.nil (forall_mem_nil _)

theorem fits_impatientToml : impatientToml.Fits := by
  refine .table (pairwise_singleton _ _) fun field hfield => ?_
  obtain rfl := mem_singleton.mp hfield
  refine .table (pairwise_singleton _ _) fun field hfield => ?_
  obtain rfl := mem_singleton.mp hfield
  exact .integer (by decide) (by decide)

theorem normalize_watch : normalizeWatch .default = .default := by
  have hnames : ["omo", "omo-help"].filterMap normalizeBannedName = ["omo", "omo-help"] := by decide
  have hid : (normalizeText (some "")).getD "" = "" := by decide
  unfold normalizeWatch DiscordWatchConfig.default
  rfl

theorem normalize_plain (cron : CronConfig) (h : cron.jobs = []) :
    normalize { plain with cron := cron } = { plain with cron := cron } := by
  obtain ⟨poll_interval_secs, jobs⟩ := cron
  obtain rfl := h
  unfold normalize plain
  rw [normalize_watch]
  rfl

theorem read_empty : readSections (.table []) = some plain := by
  have hdecode : codec.decode (.table []) = some plain := rfl
  unfold readSections
  rw [hdecode, bind_some, mergeLegacyDiscord_self _ rfl rfl, map_some,
    show normalize plain = plain from normalize_plain .default rfl]
  rfl

theorem read_impatientToml : readSections impatientToml = some impatient := by
  have hdecode : codec.decode impatientToml = some impatient := rfl
  unfold readSections
  rw [hdecode, bind_some, mergeLegacyDiscord_self _ rfl rfl, map_some,
    show normalize impatient = impatient from normalize_plain ⟨5, []⟩ rfl]
  rfl

/-- The crate for one of the files. -/
noncomputable def crateFor (text : String) {raw_toml : Toml} {s : Sections} (hraw : raw_toml.Fits)
    (hread : readSections raw_toml = some s) : Crate :=
  crate text saved raw_toml s hraw (settled_of_read hraw hread).fits

variable {text : String} {s : Sections} (hraw : raw_toml.Fits) (hread : readSections raw_toml = some s)

theorem loads (htext : text ≠ saved) : loadOrDefaultWithoutManaged (crateFor text hraw hread) "config.toml" text =
      some { s with config_path := "config.toml", managed_repo_root := none } := by
  have hparse : (crateFor text hraw hread).parse text = some raw_toml := by
    show (if text = saved then _ else if text = text then some raw_toml else none) = some raw_toml
    rw [if_neg htext, if_pos rfl]
  unfold loadOrDefaultWithoutManaged
  rw [hparse, bind_some, hread, map_some]

theorem prints : (crateFor text hraw hread).Prints (codec.encode s) := fun _ => by
  have hprint : (crateFor text hraw hread).print (codec.encode s) = some saved := if_pos rfl
  rw [hprint]
  rfl

/-- The configuration of an empty file is preserved. -/
theorem empty_file_is_preserved : Preserved (crateFor "" fits_empty read_empty) "config.toml"
      { plain with config_path := "config.toml", managed_repo_root := none } :=
  (saving_preserves_iff _ "config.toml" "" _ (loads fits_empty read_empty (by decide))
    (prints fits_empty read_empty)).mpr
    { cron := fun _ => rfl
      update := fun _ => ⟨rfl, rfl⟩
      gjc_lanes := by decide
      banned := by decide }

/-- A configuration that is not preserved: an interval of a cron section without jobs is lost. -/
theorem interval_without_jobs_is_lost :
    loadOrDefaultWithoutManaged (crateFor impatientText fits_impatientToml read_impatientToml)
        "config.toml" impatientText =
      some { impatient with config_path := "config.toml", managed_repo_root := none } ∧
    ¬ Preserved (crateFor impatientText fits_impatientToml read_impatientToml) "config.toml"
      { impatient with config_path := "config.toml", managed_repo_root := none } := by
  have hload := loads fits_impatientToml read_impatientToml (show impatientText ≠ saved by decide)
  refine ⟨hload, fun hpreserved => ?_⟩
  have hreturned : returned impatient = impatient :=
    (preserved_iff_returned hload (prints fits_impatientToml read_impatientToml)).mp hpreserved
  have hpoll : (returned impatient).cron.poll_interval_secs = 30 := rfl
  rw [hreturned] at hpoll
  exact absurd hpoll (by decide)

end Sample

end Clawhip.ConfigText
