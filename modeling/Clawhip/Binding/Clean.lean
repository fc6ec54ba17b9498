import Mathlib.Data.List.Pairwise
import Clawhip.Binding.Drift

/-!
# What a clean audit says

The audit reports positions, groups and labels; that it reports nothing is `Clean`, which is about the routes
and the monitors alone and does not depend on their order (`auditRouteMonitorDrift_eq_nil`, `Clean.perm`).
-/

namespace Clawhip.Binding

open List

/-- The routes that setup owns. -/
def setupRoutes (config : Config) : List BoundRoute := config.routes.filter isSetupRepoRoute

/-- A route and a monitor belong together. -/
structure Agrees (disk : Disk) (route : BoundRoute) (monitor : GitRepoMonitor) : Prop where
  channel : route.channel = monitor.channel
  channel_name : route.channel_name = monitor.channel_name
  worktree : disk.isWorktree monitor.path = true

/-- Every route of setup has its one monitor, which agrees with it, and every monitor its one route. -/
structure Clean (disk : Disk) (config : Config) : Prop where
  routes_once : ((setupRoutes config).map repoOf).Nodup
  monitored : ∀ route ∈ setupRoutes config,
    ∃ monitor ∈ config.repos, setupMonitorRepoIdentity monitor = some (repoOf route)
  agreed : ∀ route ∈ setupRoutes config, ∀ monitor ∈ config.repos,
    setupMonitorRepoIdentity monitor = some (repoOf route) → Agrees disk route monitor
  unshared : ∀ route ∈ setupRoutes config, ∀ monitor ∈ config.repos,
    setupMonitorRepoIdentity monitor = none → route.channel ≠ monitor.channel
  monitors_once : (config.repos.filterMap setupMonitorRepoIdentity).Nodup
  routed : ∀ monitor ∈ config.repos, ∀ repo, setupMonitorRepoIdentity monitor = some repo →
    ∃ route ∈ setupRoutes config, repoOf route = repo
  unopposed : ∀ route ∈ config.routes, isManualRepoRoute route = true →
    ∀ setup ∈ setupRoutes config, repoOf setup ≠ repoOf route

variable {disk : Disk} {config config' : Config}

/-! ## The order does not matter -/

variable {route : BoundRoute} {monitor : SetupMonitor} {routes : List SetupRoute} {setup : SetupRoute}

theorem mem_setupRoutes : route ∈ setupRoutes config ↔ route ∈ config.routes ∧ isSetupRepoRoute route = true :=
  mem_filter

theorem Clean.perm (hroutes : config.routes.Perm config'.routes) (hrepos : config.repos.Perm config'.repos)
    (h : Clean disk config) : Clean disk config' := by
  have hsetup : (setupRoutes config).Perm (setupRoutes config') := hroutes.filter _
  constructor
  · exact (hsetup.map repoOf).nodup_iff.mp h.routes_once
  · intro route hroute
    obtain ⟨monitor, hmonitor, hrepo⟩ := h.monitored route (hsetup.mem_iff.mpr hroute)
    exact ⟨monitor, hrepos.mem_iff.mp hmonitor, hrepo⟩
  · intro route hroute monitor hmonitor
    exact h.agreed route (hsetup.mem_iff.mpr hroute) monitor (hrepos.mem_iff.mpr hmonitor)
  · intro route hroute monitor hmonitor
    exact h.unshared route (hsetup.mem_iff.mpr hroute) monitor (hrepos.mem_iff.mpr hmonitor)
  · exact (hrepos.filterMap _).nodup_iff.mp h.monitors_once
  · intro monitor hmonitor repo hrepo
    obtain ⟨route, hroute, heq⟩ := h.routed monitor (hrepos.mem_iff.mpr hmonitor) repo hrepo
    exact ⟨route, hsetup.mem_iff.mp hroute, heq⟩
  · intro route hroute hmanual setup hsetup'
    exact h.unopposed route (hroutes.mem_iff.mpr hroute) hmanual setup (hsetup.mem_iff.mpr hsetup')

theorem clean_iff_of_perm (hroutes : config.routes.Perm config'.routes)
    (hrepos : config.repos.Perm config'.repos) : Clean disk config ↔ Clean disk config' :=
  ⟨Clean.perm hroutes hrepos, Clean.perm hroutes.symm hrepos.symm⟩

/-- Two monitors of a repository are one. -/
theorem Clean.monitor_unique (h : Clean disk config) {first second : GitRepoMonitor} {repo : String}
    (hfirst : first ∈ config.repos) (hsecond : second ∈ config.repos)
    (hrepo : setupMonitorRepoIdentity first = some repo)
    (hrepo' : setupMonitorRepoIdentity second = some repo) : first = second := by
  by_contra hne
  have hpairwise := pairwise_filterMap.mp h.monitors_once
  have hsymm : Std.Symm fun a b : GitRepoMonitor => ∀ repo, setupMonitorRepoIdentity a = some repo →
      ∀ repo', setupMonitorRepoIdentity b = some repo' → repo ≠ repo' :=
    ⟨fun a b hab repo hb repo' ha heq => hab repo' ha repo hb heq.symm⟩
  exact hpairwise.forall hfirst hsecond hne repo hrepo repo hrepo' rfl

/-- Two setup routes of a repository are one. -/
theorem Clean.route_unique (h : Clean disk config) {first second : BoundRoute}
    (hfirst : first ∈ setupRoutes config) (hsecond : second ∈ setupRoutes config)
    (heq : repoOf first = repoOf second) : first = second :=
  inj_on_of_nodup_map h.routes_once hfirst hsecond heq

/-! ## The findings -/

theorem findingIf_eq_nil {found : Bool} {finding : BindingDriftFinding} :
    findingIf found finding = [] ↔ found = false := by
  cases found <;> simp [findingIf]

theorem pairFindings_eq_nil {route : SetupRoute} :
    pairFindings disk route monitor = [] ↔ route.channel = monitor.channel ∧
      route.channel_name = monitor.channel_name ∧ disk.isWorktree monitor.path = true := by
  unfold pairFindings Disk.isWorktree
  cases disk.pathExists monitor.path <;> simp [findingIf_eq_nil]

theorem identityFindings_eq_nil : identityFindings disk routes monitor = [] ↔
      ∀ repo, monitor.repo = some repo → ∃ route ∈ routes, route.repo = repo := by
  unfold identityFindings
  cases monitor.repo with
  | none => simp
  | some repo => simp [findingIf_eq_nil]

theorem manualFindings_eq_nil {placed : BoundRoute × ℕ} : manualFindings routes placed = [] ↔
      (isManualRepoRoute placed.1 = true → ∀ route ∈ routes, route.repo ≠ repoOf placed.1) := by
  unfold manualFindings
  rw [findingIf_eq_nil]
  cases isManualRepoRoute placed.1 <;> simp

/-! ## Routes and monitors of the audit -/

/-- What is asked of all items does not depend on their positions. -/
theorem forall_zipIdx {α : Type} {items : List α} {p : α → Prop} :
    (∀ placed ∈ items.zipIdx, p placed.1) ↔ ∀ item ∈ items, p item := by
  rw [← forall_mem_map (f := Prod.fst) (P := p), zipIdx_map_fst]

/-- A setup route of the audit has the channel of the first route of its repository. -/
theorem exists_route_of_mem (h : setup ∈ setupRepoRoutes config) :
    ∃ route ∈ setupRoutes config, setup.repo = repoOf route ∧ setup.channel = route.channel ∧
      setup.channel_name = route.channel_name ∧
      setup.indices.length = ((setupRoutes config).map repoOf).count (repoOf route) := by
  obtain ⟨⟨repo, group⟩, hgroup, rfl⟩ := mem_map.mp h
  have hne := groupBy_ne_nil hgroup
  obtain ⟨-, hitems⟩ := mem_groupBy.mp hgroup
  obtain ⟨first, rest, rfl⟩ := exists_cons_of_ne_nil hne
  have hmem : first ∈ first :: rest := mem_cons_self
  have hitems' : first :: rest = _ := hitems
  rw [hitems'] at hmem
  have hfirst := mem_filter.mp hmem
  have hsetup := mem_filter.mp hfirst.1
  have hrepo : repoOf first.1 = repo := by simpa using hfirst.2
  refine ⟨first.1, mem_setupRoutes.mpr ⟨?_, hsetup.2⟩, hrepo.symm, rfl, rfl, ?_⟩
  · rw [← zipIdx_map_fst 0 config.routes]
    exact mem_map_of_mem hsetup.1
  · have hplaced : setupRoutes config =
        (config.routes.zipIdx.filter fun placed => isSetupRepoRoute placed.1).map Prod.fst := by
      unfold setupRoutes
      conv_lhs => rw [← zipIdx_map_fst 0 config.routes, filter_map]
      rfl
    rw [hplaced, map_map, count_eq_countP, countP_map, hrepo, length_map]
    have hlen := congrArg length hitems
    rw [hlen, ← countP_eq_length_filter]
    exact countP_congr fun placed _ => by simp

/-- Every route of setup has its entry in the audit. -/
theorem exists_setup_of_mem (h : route ∈ setupRoutes config) :
    ∃ setup ∈ setupRepoRoutes config, setup.repo = repoOf route := by
  obtain ⟨hroute, hsetup⟩ := mem_setupRoutes.mp h
  rw [← zipIdx_map_fst 0 config.routes] at hroute
  obtain ⟨placed, hplaced, rfl⟩ := mem_map.mp hroute
  have hmem : placed ∈ config.routes.zipIdx.filter fun placed => isSetupRepoRoute placed.1 :=
    mem_filter.mpr ⟨hplaced, hsetup⟩
  have hkey := mem_map_of_mem (f := fun placed : BoundRoute × ℕ => repoOf placed.1) hmem
  let group : String × List (BoundRoute × ℕ) := (repoOf placed.1,
    (config.routes.zipIdx.filter fun placed => isSetupRepoRoute placed.1).filter fun other =>
      repoOf other.1 = repoOf placed.1)
  have hgroup : group ∈ groupBy (fun a b => decide (a ≤ b)) (fun placed : BoundRoute × ℕ => repoOf placed.1)
      (config.routes.zipIdx.filter fun placed => isSetupRepoRoute placed.1) :=
    mem_groupBy.mpr ⟨hkey, rfl⟩
  exact ⟨_, mem_map_of_mem hgroup, rfl⟩

/-- What is asked of every monitor of the audit, without its position, is asked of every monitor of the
configuration. -/
theorem forall_setupMonitor {p : Option String → String → Option String → Option String → Prop} :
    (∀ monitor ∈ setupGitMonitors config, p monitor.repo monitor.path monitor.channel monitor.channel_name) ↔
      ∀ monitor ∈ config.repos,
        p (setupMonitorRepoIdentity monitor) monitor.path monitor.channel monitor.channel_name := by
  unfold setupGitMonitors
  rw [forall_mem_map]
  exact forall_zipIdx (p := fun monitor =>
    p (setupMonitorRepoIdentity monitor) monitor.path monitor.channel monitor.channel_name)

theorem exists_setupMonitor {repo : Option String} : (∃ monitor ∈ setupGitMonitors config, monitor.repo = repo) ↔
      ∃ monitor ∈ config.repos, setupMonitorRepoIdentity monitor = repo := by
  have hnone : (∀ monitor ∈ setupGitMonitors config, monitor.repo ≠ repo) ↔ _ :=
    forall_setupMonitor (p := fun found _ _ _ => found ≠ repo)
  rw [← not_iff_not, not_exists, not_exists]
  simp only [not_and]
  exact hnone

/-- No monitor is a duplicate if and only if no two have one identity. -/
theorem duplicateFindings_eq_nil_iff : (∀ monitor ∈ setupGitMonitors config, duplicateFindings disk monitor = []) ↔
      (config.repos.filterMap setupMonitorRepoIdentity).Nodup := by
  have hcount : ∀ repo, (config.repos.filterMap setupMonitorRepoIdentity).count repo =
      (config.repos.filter fun other => setupMonitorRepoIdentity other == some repo).length := by
    intro repo
    rw [← countP_eq_length_filter]
    induction config.repos with
    | nil => rfl
    | cons monitor repos ih =>
      rw [filterMap_cons, countP_cons]
      cases hrepo : setupMonitorRepoIdentity monitor with
      | none => simpa using ih
      | some repo' => simp [count_cons, ih]
  have hlocal : (∀ monitor ∈ setupGitMonitors config, duplicateFindings disk monitor = []) ↔
      ∀ monitor ∈ config.repos, (setupMonitorRepoIdentity monitor).isSome = true → (config.repos.filter fun other =>
          setupMonitorRepoIdentity other == setupMonitorRepoIdentity monitor).length ≤ 1 := by
    unfold setupGitMonitors
    rw [forall_mem_map, ← forall_zipIdx (p := fun monitor : GitRepoMonitor => _ → _ ≤ 1)]
    refine forall₂_congr fun placed _ => ?_
    unfold duplicateFindings setupMonitor
    rw [findingIf_eq_nil]
    cases hsome : (setupMonitorRepoIdentity placed.1).isSome <;> simp [hsome]
  rw [hlocal, nodup_iff_count_le_one]
  constructor
  · intro h repo
    rcases Nat.eq_zero_or_pos ((config.repos.filterMap setupMonitorRepoIdentity).count repo) with hzero | hpos
    · omega
    · obtain ⟨monitor, hmonitor, hrepo⟩ := mem_filterMap.mp (count_pos_iff.mp hpos)
      rw [hcount, ← hrepo]
      exact h monitor hmonitor (by rw [hrepo]; rfl)
  · intro h monitor _ hsome
    obtain ⟨repo, hrepo⟩ := Option.isSome_iff_exists.mp hsome
    rw [hrepo, ← hcount]
    exact h repo

/-! ## The audit -/

/-- No route of setup is a duplicate if and only if no two have one repository. -/
theorem routes_once_iff :
    (∀ setup ∈ setupRepoRoutes config, setup.indices.length ≤ 1) ↔ ((setupRoutes config).map repoOf).Nodup := by
  rw [nodup_iff_count_le_one]
  constructor
  · intro h repo
    rcases Nat.eq_zero_or_pos (((setupRoutes config).map repoOf).count repo) with hzero | hpos
    · omega
    · obtain ⟨route, hroute, rfl⟩ := mem_map.mp (count_pos_iff.mp hpos)
      obtain ⟨setup, hsetup, hrepo⟩ := exists_setup_of_mem hroute
      obtain ⟨first, -, hfirst, -, -, hlen⟩ := exists_route_of_mem hsetup
      rw [← hrepo, hfirst, ← hlen]
      exact h setup hsetup
  · intro h setup hsetup
    obtain ⟨first, -, -, -, -, hlen⟩ := exists_route_of_mem hsetup
    rw [hlen]
    exact h _

/-- Where no two routes of setup have one repository, what is asked of the repository, the channel and the hint
of every entry is asked of those of every route. -/
theorem forall_setupRoute (honce : ((setupRoutes config).map repoOf).Nodup)
    {p : String → Option String → Option String → Prop} :
    (∀ setup ∈ setupRepoRoutes config, p setup.repo setup.channel setup.channel_name) ↔
      ∀ route ∈ setupRoutes config, p (repoOf route) route.channel route.channel_name := by
  constructor
  · intro h route hroute
    obtain ⟨setup, hsetup, hrepo⟩ := exists_setup_of_mem hroute
    obtain ⟨first, hfirst, hrepo', hchannel, hname, -⟩ := exists_route_of_mem hsetup
    have hsame : first = route := inj_on_of_nodup_map honce hfirst hroute (hrepo'.symm.trans hrepo)
    have hp := h setup hsetup
    rwa [hrepo', hchannel, hname, hsame] at hp
  · intro h setup hsetup
    obtain ⟨first, hfirst, hrepo, hchannel, hname, -⟩ := exists_route_of_mem hsetup
    rw [hrepo, hchannel, hname]
    exact h first hfirst

theorem channel_isSome_of_setup {named : String → Bool} (h : hasSetupShape named route = true) :
    route.channel.isSome = true := by
  unfold hasSetupShape isFilled at h
  cases hchannel : route.channel with
  | none => simp [hchannel] at h
  | some channel => rfl

/-- What is not found of a route. -/
theorem routeFindings_eq_nil : routeFindings disk (setupGitMonitors config) setup = [] ↔ setup.indices.length ≤ 1 ∧
      (∃ monitor ∈ config.repos, setupMonitorRepoIdentity monitor = some setup.repo) ∧
      (∀ monitor ∈ config.repos, setupMonitorRepoIdentity monitor = some setup.repo →
        setup.channel = monitor.channel ∧ setup.channel_name = monitor.channel_name ∧
          disk.isWorktree monitor.path = true) ∧ ∀ monitor ∈ config.repos, setupMonitorRepoIdentity monitor = none →
        ¬ (setup.channel.isSome = true ∧ setup.channel = monitor.channel) := by
  rw [← exists_setupMonitor, ← forall_setupMonitor (p := fun repo path channel channel_name => repo = some setup.repo →
      setup.channel = channel ∧ setup.channel_name = channel_name ∧ disk.isWorktree path = true),
    ← forall_setupMonitor (p := fun repo _ channel _ => repo = none →
      ¬ (setup.channel.isSome = true ∧ setup.channel = channel))]
  unfold routeFindings
  rw [append_eq_nil_iff, append_eq_nil_iff, append_eq_nil_iff, findingIf_eq_nil,
    findingIf_eq_nil, flatMap_eq_nil_iff, flatMap_eq_nil_iff, and_assoc, and_assoc]
  refine and_congr (by simp) (and_congr ?_ (and_congr ?_ ?_))
  · rw [isEmpty_eq_false_iff_exists_mem]
    simp [mem_filter]
  · simp [mem_filter, pairFindings_eq_nil]
  · simp [mem_filter, findingIf_eq_nil]

/-- The audit reports nothing if and only if the configuration is clean. -/
theorem auditRouteMonitorDrift_eq_nil : auditRouteMonitorDrift disk config = [] ↔ Clean disk config := by
  unfold auditRouteMonitorDrift
  rw [append_eq_nil_iff, append_eq_nil_iff, append_eq_nil_iff, flatMap_eq_nil_iff,
    flatMap_eq_nil_iff, flatMap_eq_nil_iff, flatMap_eq_nil_iff, duplicateFindings_eq_nil_iff]
  simp only [routeFindings_eq_nil, identityFindings_eq_nil, manualFindings_eq_nil]
  rw [forall_setupMonitor (p := fun repo _ _ _ => ∀ name, repo = some name →
      ∃ route ∈ setupRepoRoutes config, route.repo = name),
    forall_zipIdx (p := fun route => isManualRepoRoute route = true →
      ∀ setup ∈ setupRepoRoutes config, setup.repo ≠ repoOf route)]
  constructor
  · rintro ⟨⟨⟨hroutes, hmonitors⟩, hrouted⟩, hunopposed⟩
    have honce := routes_once_iff.mp fun setup hsetup => (hroutes setup hsetup).1
    -- as no two routes share a repository, each setup route stands for one route
    constructor
    · exact honce
    · exact (forall_setupRoute honce (p := fun repo _ _ => ∃ monitor ∈ config.repos,
        setupMonitorRepoIdentity monitor = some repo)).mp fun setup hsetup => (hroutes setup hsetup).2.1
    · intro route hroute monitor hmonitor hrepo
      have hagreed := (forall_setupRoute honce (p := fun repo channel channel_name =>
        ∀ monitor ∈ config.repos, setupMonitorRepoIdentity monitor = some repo →
          channel = monitor.channel ∧ channel_name = monitor.channel_name ∧
            disk.isWorktree monitor.path = true)).mp fun setup hsetup => (hroutes setup hsetup).2.2.1
      obtain ⟨hchannel, hname, hpath⟩ := hagreed route hroute monitor hmonitor hrepo
      exact ⟨hchannel, hname, hpath⟩
    · intro route hroute monitor hmonitor hrepo hchannel
      have hunshared := (forall_setupRoute honce (p := fun _ channel _ =>
        ∀ monitor ∈ config.repos, setupMonitorRepoIdentity monitor = none →
          ¬ (channel.isSome = true ∧ channel = monitor.channel))).mp
        fun setup hsetup => (hroutes setup hsetup).2.2.2
      exact hunshared route hroute monitor hmonitor hrepo
        ⟨channel_isSome_of_setup (mem_setupRoutes.mp hroute).2, hchannel⟩
    · exact hmonitors
    · intro monitor hmonitor repo hrepo
      obtain ⟨setup, hsetup, heq⟩ := hrouted monitor hmonitor repo hrepo
      obtain ⟨route, hroute, hrepo', -⟩ := exists_route_of_mem hsetup
      exact ⟨route, hroute, hrepo'.symm.trans heq⟩
    · intro route hroute hmanual setup hsetup heq
      obtain ⟨entry, hentry, hrepo⟩ := exists_setup_of_mem hsetup
      exact hunopposed route hroute hmanual entry hentry (hrepo.trans heq)
  · intro h
    refine ⟨⟨⟨fun setup hsetup => ?_, h.monitors_once⟩, fun monitor hmonitor repo hrepo => ?_⟩,
      fun route hroute hmanual setup hsetup heq => ?_⟩
    · -- a setup route has the fields of a route of its repository
      obtain ⟨route, hroute, hrepo, hchannel, hname, -⟩ := exists_route_of_mem hsetup
      refine ⟨routes_once_iff.mpr h.routes_once setup hsetup, hrepo ▸ h.monitored route hroute, ?_, ?_⟩
      · intro monitor hmonitor hmine
        have hagrees := h.agreed route hroute monitor hmonitor (hrepo ▸ hmine)
        exact ⟨hchannel.trans hagrees.channel, hname.trans hagrees.channel_name, hagrees.worktree⟩
      · intro monitor hmonitor hnone hshared
        exact h.unshared route hroute monitor hmonitor hnone (hchannel.symm.trans hshared.2)
    · obtain ⟨route, hroute, heq⟩ := h.routed monitor hmonitor repo hrepo
      obtain ⟨entry, hentry, hrepo'⟩ := exists_setup_of_mem hroute
      exact ⟨entry, hentry, hrepo'.trans heq⟩
    · obtain ⟨first, hfirst, hrepo, -⟩ := exists_route_of_mem hsetup
      exact h.unopposed route hroute hmanual first hfirst (hrepo.symm.trans heq)

end Clawhip.Binding
