import Clawhip.Binding.Clean

/-!
# What a binding keeps

A binding that is refused writes nothing, and one that is accepted can be written again without a change. It
keeps the audit clean if and only if the monitor that it writes is counted for its own repository and was not
counted for another one (`lawful_iff`): without a hint of the channel's name it is counted for none, and a bare
name takes the monitor of every repository of that name.
-/

namespace Clawhip.Binding

open List Option Router.RouteRule Text

/-! ## Requests -/

/-- The arguments are trimmed, and there where they are required. -/
structure Request.Normal (r : Request) : Prop where
  repo : Text.nonblank (some r.repo) = some r.repo
  channel_id : Text.nonblank (some r.channel_id) = some r.channel_id
  channel_name : Text.nonblank r.channel_name = r.channel_name
  checkout_path : Text.nonblank (some r.checkout_path) = some r.checkout_path

theorem required_ok {what value out : String} (h : required what value = .ok out) : nonblank (some out) = some out := by
  unfold required at h
  cases hvalue : nonblank (some value) with
  | none =>
    rw [hvalue] at h
    exact absurd h (by simp)
  | some trimmed =>
    rw [hvalue] at h
    have heq : trimmed = out := Except.ok.inj h
    exact heq ▸ nonblank_nonblank hvalue

variable {r : Request}

theorem request_normal {repo channel_id : String} {channel_name : Option String} {checkout_path : String}
    (h : request repo channel_id channel_name checkout_path = .ok r) : r.Normal := by
  unfold request at h
  cases hrepo : required "repo name" repo with
  | error e => simp [hrepo, bind, Except.bind] at h
  | ok repo' =>
    cases hchannel : required "channel id" channel_id with
    | error e => simp [hrepo, hchannel, bind, Except.bind] at h
    | ok channel_id' =>
      cases hpath : required "checkout path" checkout_path with
      | error e => simp [hrepo, hchannel, hpath, bind, Except.bind] at h
      | ok checkout_path' =>
        simp only [hrepo, hchannel, hpath, bind, Except.bind, pure, Except.pure] at h
        rw [← Except.ok.inj h]
        refine ⟨required_ok hrepo, required_ok hchannel, ?_, required_ok hpath⟩
        cases hname : nonblank channel_name with
        | none => rfl
        | some name => exact nonblank_nonblank hname

variable {s : String}

theorem trim_of_nonblank (h : nonblank (some s) = some s) : trim s = s ∧ (trim s).isEmpty = false := by
  obtain ⟨hmap, hne⟩ := filter_eq_some_iff.mp h
  have htrim : trim s = s := by simpa using hmap
  exact ⟨htrim, by rw [htrim]; simpa using hne⟩

theorem isFilled_of_nonblank (h : nonblank (some s) = some s) : isFilled (some s) = true := by
  unfold isFilled
  rw [any_some, (trim_of_nonblank h).2]
  rfl

/-! ## The shape of setup -/

/-- What `hasSetupShape` asks of a route. -/
structure SetupShape (named : String → Bool) (route : BoundRoute) : Prop where
  event : route.event = "*"
  sink : Text.trim route.sink = "discord"
  effective : route.effectiveSink = "discord"
  single : List.length route.filter = 1
  repo : (route.filter.get "repo").any named = true
  channel : isFilled route.channel = true
  thread : route.thread = none
  webhook : route.webhook = none
  slack_webhook : route.slack_webhook = none
  local_path : route.local_path = none
  mention : route.mention = none
  template : route.template = none
  gajae : route.gajae = none
  fixed : route.allow_dynamic_tokens = false
  format : route.format = none

variable {route : BoundRoute}

theorem hasSetupShape_iff {named : String → Bool} : hasSetupShape named route = true ↔ SetupShape named route := by
  unfold hasSetupShape
  simp only [Bool.and_eq_true, beq_iff_eq, Bool.not_eq_true', isNone_iff_eq_none]
  constructor
  · rintro ⟨⟨⟨⟨⟨⟨⟨⟨⟨⟨⟨⟨⟨⟨h₁, h₂⟩, h₃⟩, h₄⟩, h₅⟩, h₆⟩, h₇⟩, h₈⟩, h₉⟩, h₁₀⟩, h₁₁⟩, h₁₂⟩, h₁₃⟩, h₁₄⟩, h₁₅⟩
    exact ⟨h₁, h₂, h₃, h₄, h₅, h₆, h₇, h₈, h₉, h₁₀, h₁₁, h₁₂, h₁₃, h₁₄, h₁₅⟩
  · rintro ⟨h₁, h₂, h₃, h₄, h₅, h₆, h₇, h₈, h₉, h₁₀, h₁₁, h₁₂, h₁₃, h₁₄, h₁₅⟩
    exact ⟨⟨⟨⟨⟨⟨⟨⟨⟨⟨⟨⟨⟨⟨h₁, h₂⟩, h₃⟩, h₄⟩, h₅⟩, h₆⟩, h₇⟩, h₈⟩, h₉⟩, h₁₀⟩, h₁₁⟩, h₁₂⟩, h₁₃⟩, h₁₄⟩, h₁₅⟩

/-! ## What is written -/

/-- A route that is written for the request. -/
structure Request.IsRoute (r : Request) (route : BoundRoute) : Prop where
  shape : isRepoBindingRoute r.repo route = true
  channel : route.channel = some r.channel_id
  channel_name : route.channel_name = r.channel_name

/-- A monitor that is written for the request. -/
structure Request.IsMonitor (r : Request) (monitor : GitRepoMonitor) : Prop where
  path : monitor.path = r.checkout_path
  name : monitor.name = some r.monitorName
  github_repo : monitor.github_repo = r.githubRepo
  channel : monitor.channel = some r.channel_id
  channel_name : monitor.channel_name = r.channel_name
  setup_owned : monitor.setup_owned = true

/-- The repository that the audit counts the monitor of the request for. -/
def Request.identity (r : Request) : Option String :=
  if r.channel_name.isNone then none
  else if isOwnerRepo r.repo then some r.repo
  else Text.nonblank (some r.monitorName)

section Written

variable {r : Request} {config : Config} (hr : r.Normal)
include hr

/-- A route of the binding is a setup route of the repository. -/
theorem isRepoBindingRoute_iff :
    isRepoBindingRoute r.repo route = true ↔ isSetupRepoRoute route = true ∧ repoOf route = r.repo := by
  have hne := (trim_of_nonblank hr.repo).2
  unfold isRepoBindingRoute isSetupRepoRoute repoOf
  rw [hasSetupShape_iff, hasSetupShape_iff]
  constructor
  · intro h
    obtain ⟨repo, hget, hrepo⟩ := (any_eq_true _ _).mp h.repo
    have heq : repo = r.repo := by simpa using hrepo
    refine ⟨{ h with repo := ?_ }, by rw [hget]; exact heq⟩
    rw [hget, any_some, heq, hne]
    rfl
  · rintro ⟨h, heq⟩
    obtain ⟨repo, hget, -⟩ := (any_eq_true _ _).mp h.repo
    rw [hget, getD_some] at heq
    refine { h with repo := ?_ }
    rw [hget, any_some, heq]
    exact beq_self_eq_true _

/-- The route of the request is matched again. -/
theorem isRoute_rebindRoute (h : isRepoBindingRoute r.repo route = true) : r.IsRoute (r.rebindRoute route) := by
  have hshape := hasSetupShape_iff.mp h
  -- the sink does not depend on what is rewritten
  have hsink : (r.rebindRoute route).effectiveSink = route.effectiveSink := by
    have hslack : (r.rebindRoute route).slackWebhookTarget = route.slackWebhookTarget := by
      simp [slackWebhookTarget, Request.rebindRoute, hshape.sink]
    unfold effectiveSink
    rw [hslack]
    rfl
  refine ⟨hasSetupShape_iff.mpr ?_, rfl, rfl⟩
  exact { hshape with
    effective := hsink.trans hshape.effective
    channel := isFilled_of_nonblank hr.channel_id
    thread := rfl
    webhook := rfl }

theorem isRoute_newRoute : r.IsRoute r.newRoute := by
  have htrim : trim "discord" = "discord" := by decide
  have hsink : r.newRoute.effectiveSink = "discord" := by
    simp [effectiveSink, slackWebhookTarget, Request.newRoute, Router.defaultSinkName, htrim, nonblank]
  refine ⟨hasSetupShape_iff.mpr ?_, rfl, rfl⟩
  constructor
  case sink => exact htrim
  case effective => exact hsink
  case repo => exact beq_self_eq_true r.repo
  case channel => exact isFilled_of_nonblank hr.channel_id
  all_goals rfl

/-- The route that is written is the request's. -/
theorem isRoute_written (config : Config) :
    r.IsRoute (written (isRepoBindingRoute r.repo) r.rebindRoute r.newRoute config.routes) :=
  written_holds (fun _ h => isRoute_rebindRoute hr h) (isRoute_newRoute hr)

omit hr in
/-- The monitor that is written is the request's. -/
theorem isMonitor_written (config : Config) :
    r.IsMonitor (written r.matchesMonitor r.rebindMonitor r.newMonitor config.repos) :=
  written_holds (fun _ _ => ⟨rfl, rfl, rfl, rfl, rfl, rfl⟩) ⟨rfl, rfl, rfl, rfl, rfl, rfl⟩

variable {monitor : GitRepoMonitor}

/-- The monitor of the request is matched by its path. -/
theorem Request.IsMonitor.matches (h : r.IsMonitor monitor) : r.matchesMonitor monitor = true := by
  unfold matchesMonitor
  rw [h.path, (trim_of_nonblank hr.checkout_path).1, beq_self_eq_true, Bool.true_or, Bool.true_or]

/-- The audit counts the monitor of the request for the request's identity. -/
theorem Request.IsMonitor.identity (h : r.IsMonitor monitor) : setupMonitorRepoIdentity monitor = r.identity := by
  unfold setupMonitorRepoIdentity Request.identity
  rw [h.setup_owned, h.channel, isFilled_of_nonblank hr.channel_id, h.channel_name]
  cases hname : r.channel_name with
  | none => rfl
  | some name =>
    have hfilled : isFilled (some name) = true := isFilled_of_nonblank (hname ▸ hr.channel_name)
    rw [hfilled]
    simp only [Bool.not_true, Bool.or_self, Bool.false_eq_true, if_false, isNone_some]
    unfold monitorRepoIdentity
    rw [h.github_repo, h.name]
    have hnone : nonblank none = none := rfl
    unfold githubRepo
    by_cases howner : isOwnerRepo r.repo = true
    · rw [if_pos howner, if_pos howner, hr.repo, some_or]
    · rw [if_neg howner, if_neg howner, hnone, none_or]

end Written

/-! ## What is checked -/

/-- What is checked before a binding is written. -/
structure Request.Accepts (r : Request) (config : Config) : Prop where
  route_once : (config.routes.filter (isRepoBindingRoute r.repo)).length ≤ 1
  no_manual_route : config.routes.any r.isManualRoute = false
  no_manual_monitor : config.repos.any r.isManualMonitor = false
  owned : ∀ monitor ∈ config.repos, r.matchesMonitor monitor = true → monitor.setup_owned = true
  monitor_once : (config.repos.filter r.matchesMonitor).length ≤ 1

variable {config : Config}

theorem check_eq_ok : r.check config = .ok () ↔ r.Accepts config := by
  have howned : (config.repos.filter r.matchesMonitor).find? (fun monitor => !monitor.setup_owned) = none ↔
      ∀ monitor ∈ config.repos, r.matchesMonitor monitor = true → monitor.setup_owned = true := by
    rw [find?_eq_none]
    simp only [mem_filter, Bool.not_eq_true', Bool.not_eq_false, and_imp]
  unfold Request.check
  constructor
  · intro h
    split_ifs at h with hroute hmanual hmonitor honce
    · split at h <;> exact absurd h (by simp)
    · split at h
      · exact absurd h (by simp)
      · rename_i hfind
        exact ⟨not_lt.mp hroute, Bool.eq_false_of_not_eq_true hmanual, Bool.eq_false_of_not_eq_true hmonitor,
          howned.mp hfind, not_lt.mp honce⟩
  · intro h
    rw [if_neg (not_lt.mpr h.route_once), if_neg (ne_true_of_eq_false h.no_manual_route),
      if_neg (ne_true_of_eq_false h.no_manual_monitor), howned.mpr h.owned]
    exact if_neg (not_lt.mpr h.monitor_once)

section Writing

variable {r : Request} {config : Config} (hr : r.Normal) (haccepts : r.Accepts config)
include haccepts

/-- The routes that are left, beside the one that is written. -/
theorem routes_write_perm :
    (r.write config).routes.Perm (written (isRepoBindingRoute r.repo) r.rebindRoute r.newRoute config.routes ::
      config.routes.filter fun route => !isRepoBindingRoute r.repo route) :=
  upsert_perm haccepts.route_once

/-- The monitors that are left, beside the one that is written. -/
theorem repos_write_perm :
    (r.write config).repos.Perm (written r.matchesMonitor r.rebindMonitor r.newMonitor config.repos ::
      config.repos.filter fun monitor => !r.matchesMonitor monitor) :=
  upsert_perm haccepts.monitor_once

include hr

/-- A binding that was written is accepted again. -/
theorem Request.Accepts.write : r.Accepts (r.write config) := by
  have hroute := isRoute_written hr config
  have hmonitor := isMonitor_written (r := r) config
  have hroutes := routes_write_perm haccepts
  have hrepos := repos_write_perm haccepts
  -- each condition holds of the entry that is written and of those that are left
  constructor
  · rw [(hroutes.filter _).length_eq, filter_cons_of_pos hroute.shape, List.filter_filter]
    simp
  · rw [hroutes.any_eq, any_cons]
    have hown : r.isManualRoute (written (isRepoBindingRoute r.repo) r.rebindRoute r.newRoute config.routes) =
        false := by
      unfold isManualRoute
      rw [hroute.shape]
      rfl
    rw [hown, Bool.false_or, List.any_eq_false]
    intro route hmem
    exact any_eq_false.mp haccepts.no_manual_route route (mem_filter.mp hmem).1
  · rw [hrepos.any_eq, any_cons]
    have hown : r.isManualMonitor (written r.matchesMonitor r.rebindMonitor r.newMonitor config.repos) = false := by
      unfold isManualMonitor
      rw [hmonitor.name]
      simp
    rw [hown, Bool.false_or, List.any_eq_false]
    intro monitor hmem
    exact any_eq_false.mp haccepts.no_manual_monitor monitor (mem_filter.mp hmem).1
  · intro monitor hmem hmatches
    rcases mem_cons.mp (hrepos.mem_iff.mp hmem) with rfl | hkept
    · exact hmonitor.setup_owned
    · exact absurd hmatches (by simpa using (mem_filter.mp hkept).2)
  · rw [(hrepos.filter _).length_eq, filter_cons_of_pos (hmonitor.matches hr), List.filter_filter]
    simp

omit haccepts in
/-- Writing a binding again changes nothing. -/
theorem write_write : r.write (r.write config) = r.write config := by
  have hroutes : upsert (isRepoBindingRoute r.repo) r.rebindRoute r.newRoute (r.write config).routes =
      (r.write config).routes :=
    upsert_upsert (fun _ h => (isRoute_rebindRoute hr h).shape) (isRoute_newRoute hr).shape (fun _ => rfl) rfl
  have hrepos : upsert r.matchesMonitor r.rebindMonitor r.newMonitor (r.write config).repos =
      (r.write config).repos := by
    have hown : ∀ monitor, r.IsMonitor monitor → r.matchesMonitor monitor = true := fun _ h => h.matches hr
    exact upsert_upsert (fun _ _ => hown _ ⟨rfl, rfl, rfl, rfl, rfl, rfl⟩)
      (hown _ ⟨rfl, rfl, rfl, rfl, rfl, rfl⟩) (fun _ => rfl) rfl
  unfold Request.write at hroutes hrepos ⊢
  rw [hroutes, hrepos]

end Writing

/-! ## The audit after a binding -/

/-- When a binding keeps a clean configuration clean. -/
structure Request.BindsWell (r : Request) (disk : Disk) (config : Config) : Prop where
  worktree : disk.isWorktree r.checkout_path = true
  /-- No other monitor has the channel and no repository of its own. -/
  unshared : ∀ monitor ∈ config.repos, r.matchesMonitor monitor = false →
    setupMonitorRepoIdentity monitor = none → monitor.channel ≠ some r.channel_id
  /-- The monitor is counted for the repository, no other one is, and it was not counted for another
  repository; or it is and was counted for another repository that is bound to the same channel, and
  there is another monitor of the repository with this channel. -/
  counted :
    (r.identity = some r.repo ∧
      ∀ monitor ∈ config.repos, (r.matchesMonitor monitor = false → setupMonitorRepoIdentity monitor ≠ some r.repo) ∧
        (r.matchesMonitor monitor = true →
          setupMonitorRepoIdentity monitor = none ∨ setupMonitorRepoIdentity monitor = some r.repo)) ∨
    ∃ other ≠ r.repo, r.identity = some other ∧
      (∃ monitor ∈ config.repos, r.matchesMonitor monitor = true ∧ setupMonitorRepoIdentity monitor = some other) ∧
      (∃ route ∈ setupRoutes config, repoOf route = other ∧ route.channel = some r.channel_id ∧
        route.channel_name = r.channel_name) ∧
      ∃ monitor ∈ config.repos, r.matchesMonitor monitor = false ∧
        setupMonitorRepoIdentity monitor = some r.repo ∧ monitor.channel = some r.channel_id ∧
        monitor.channel_name = r.channel_name

section Auditing

variable {r : Request} {disk : Disk} {config : Config} (hr : r.Normal) (haccepts : r.Accepts config)

/-- The configuration with a route and a monitor for the request, in some order. -/
def Request.rewritten (r : Request) (config : Config) (route : BoundRoute) (monitor : GitRepoMonitor) : Config where
  routes := route :: config.routes.filter fun route => !isRepoBindingRoute r.repo route
  repos := monitor :: config.repos.filter fun monitor => !r.matchesMonitor monitor

variable {route : BoundRoute} {monitor : GitRepoMonitor} (hroute : r.IsRoute route)
  (hmonitor : r.IsMonitor monitor)

include hr hroute in
/-- The setup routes after the binding. -/
theorem setupRoutes_rewritten : setupRoutes (r.rewritten config route monitor) =
      route :: (setupRoutes config).filter fun other => repoOf other != r.repo := by
  have hsetup := (isRepoBindingRoute_iff hr).mp hroute.shape
  unfold setupRoutes Request.rewritten
  rw [filter_cons_of_pos hsetup.1, List.filter_filter, List.filter_filter]
  congr 1
  refine filter_congr fun other _ => ?_
  have hother : isRepoBindingRoute r.repo other = true ↔ _ := isRepoBindingRoute_iff hr
  cases hshape : isSetupRepoRoute other with
  | false => rw [Bool.false_and, Bool.and_false]
  | true =>
    rw [hshape] at hother
    rw [Bool.true_and, Bool.and_true, bne, Bool.eq_iff_iff]
    simp only [Bool.not_eq_true', ← Bool.not_eq_true, hother, true_and, beq_iff_eq]

variable (hclean : Clean disk config)
include hr haccepts hroute hmonitor hclean

omit haccepts in
/-- A configuration that is clean after the binding had what the binding needs. -/
theorem bindsWell_of_clean (h : Clean disk (r.rewritten config route monitor)) : r.BindsWell disk config := by
  have hsetup := (isRepoBindingRoute_iff hr).mp hroute.shape
  have hidentity := hmonitor.identity hr
  have hroutes : setupRoutes (r.rewritten config route monitor) = _ := setupRoutes_rewritten hr hroute
  have hrouteMem : route ∈ setupRoutes (r.rewritten config route monitor) := by
    rw [hroutes]
    exact mem_cons_self
  have hmonitorMem : monitor ∈ (r.rewritten config route monitor).repos := mem_cons_self
  have hkept : ∀ other ∈ config.repos, r.matchesMonitor other = false →
      other ∈ (r.rewritten config route monitor).repos := fun other hother hnot =>
    mem_cons_of_mem _ (mem_filter.mpr ⟨hother, by rw [hnot]; rfl⟩)
  -- the monitor shares the route's channel, so it must be counted for a repository
  have hsome : ∃ other, r.identity = some other := by
    refine ne_none_iff_exists'.mp fun hnone => ?_
    exact h.unshared route hrouteMem monitor hmonitorMem (hidentity.trans hnone)
      (hroute.channel.trans hmonitor.channel.symm)
  obtain ⟨other, hother⟩ := hsome
  obtain ⟨owner, howner, howns⟩ := h.routed monitor hmonitorMem other (hidentity.trans hother)
  have hagrees := h.agreed owner howner monitor hmonitorMem (by rw [hidentity, hother, howns])
  refine ⟨hmonitor.path ▸ hagrees.worktree, ?_, ?_⟩
  · intro bystander hbystander hnot hnone hshared
    exact h.unshared route hrouteMem bystander (hkept bystander hbystander hnot) hnone
      (hroute.channel.trans hshared.symm)
  -- no other monitor is counted for the repository of the one that is written
  have honly : ∀ bystander ∈ config.repos, r.matchesMonitor bystander = false →
      setupMonitorRepoIdentity bystander ≠ some other := by
    intro bystander hbystander hnot hcounted
    have hsame := h.monitor_unique (hkept bystander hbystander hnot) hmonitorMem hcounted (hidentity.trans hother)
    rw [hsame, hmonitor.matches hr] at hnot
    cases hnot
  by_cases heq : other = r.repo
  · subst heq
    refine .inl ⟨hother, fun found hfound => ⟨honly found hfound, fun hmatches => ?_⟩⟩
    rw [or_iff_not_imp_left]
    intro hcounted
    obtain ⟨name, hname⟩ := ne_none_iff_exists'.mp hcounted
    by_contra hne
    have hnameNe : name ≠ r.repo := fun hsame => hne (hsame ▸ hname)
    -- the repository that it was counted for is left without a monitor
    obtain ⟨lost, hlost, hlostRepo⟩ := hclean.routed found hfound name hname
    have hlostMem : lost ∈ setupRoutes (r.rewritten config route monitor) := by
      rw [hroutes]
      exact mem_cons_of_mem _ (mem_filter.mpr ⟨hlost, by rw [hlostRepo]; simpa using hnameNe⟩)
    obtain ⟨replacement, hreplacement, hcount⟩ := h.monitored lost hlostMem
    rw [hlostRepo] at hcount
    rcases mem_cons.mp hreplacement with rfl | hold
    · rw [hidentity, hother] at hcount
      exact hnameNe (some.inj hcount).symm
    · obtain ⟨holdMem, hnot⟩ := mem_filter.mp hold
      rw [hclean.monitor_unique holdMem hfound hcount hname, hmatches] at hnot
      cases hnot
  · have hownerOld : owner ∈ setupRoutes config := by
      rw [hroutes] at howner
      rcases mem_cons.mp howner with rfl | hold
      · exact absurd (howns.symm.trans hsetup.2) heq
      · exact (mem_filter.mp hold).1
    refine .inr ⟨other, heq, hother, ?_, ?_, ?_⟩
    · obtain ⟨found, hfound, hcount⟩ := hclean.monitored owner hownerOld
      rw [howns] at hcount
      refine ⟨found, hfound, ?_, hcount⟩
      by_contra hnot
      exact honly found hfound (Bool.eq_false_of_not_eq_true hnot) hcount
    · exact ⟨owner, hownerOld, howns, hagrees.channel.trans hmonitor.channel,
        hagrees.channel_name.trans hmonitor.channel_name⟩
    · obtain ⟨found, hfound, hcount⟩ := h.monitored route hrouteMem
      have hfoundAgrees := h.agreed route hrouteMem found hfound hcount
      rw [hsetup.2] at hcount
      rcases mem_cons.mp hfound with rfl | hold
      · rw [hidentity, hother] at hcount
        exact absurd (some.inj hcount) heq
      · obtain ⟨holdMem, hnot⟩ := mem_filter.mp hold
        exact ⟨found, holdMem, by simpa using hnot, hcount, hfoundAgrees.channel.symm.trans hroute.channel,
          hfoundAgrees.channel_name.symm.trans hroute.channel_name⟩

omit hr haccepts hroute hmonitor hclean in
/-- A manual route of the repository is refused. -/
theorem isManualRoute_of_repo {other : BoundRoute} (hmanual : isManualRepoRoute other = true)
    (hrepo : repoOf other = r.repo) (hown : isRepoBindingRoute r.repo other = false) :
    r.isManualRoute other = true := by
  unfold isManualRepoRoute at hmanual
  simp only [Bool.and_eq_true] at hmanual
  obtain ⟨⟨⟨⟨⟨-, hevent⟩, hsink⟩, -⟩, hsingle⟩, hget⟩ := hmanual
  obtain ⟨repo, hget⟩ := isSome_iff_exists.mp hget
  unfold repoOf at hrepo
  rw [hget, getD_some] at hrepo
  unfold Request.isManualRoute
  rw [hown, hevent, hsink, hsingle, hget, hrepo]
  simp

omit hr hroute hmonitor in
/-- What the request needs of the routes and the monitors, whichever repository its monitor is counted for. -/
theorem counted_cases (hwell : r.BindsWell disk config) (hroute : r.IsRoute route)
    (hrepo : repoOf route = r.repo) (hidentity : setupMonitorRepoIdentity monitor = r.identity)
    (hroutes : setupRoutes (r.rewritten config route monitor) =
      route :: (setupRoutes config).filter fun other => repoOf other != r.repo) : ∃ other, r.identity = some other ∧
      (∃ owner ∈ setupRoutes (r.rewritten config route monitor), repoOf owner = other ∧
        owner.channel = some r.channel_id ∧ owner.channel_name = r.channel_name) ∧
      (∀ bystander ∈ config.repos, r.matchesMonitor bystander = false →
        setupMonitorRepoIdentity bystander ≠ some other) ∧
      (∀ bystander ∈ config.repos, r.matchesMonitor bystander = false →
        setupMonitorRepoIdentity bystander = some r.repo →
          bystander.channel = some r.channel_id ∧ bystander.channel_name = r.channel_name) ∧
      ∀ kept ∈ setupRoutes (r.rewritten config route monitor), ∃ found ∈ (r.rewritten config route monitor).repos,
          setupMonitorRepoIdentity found = some (repoOf kept) := by
  have hmonitorMem : monitor ∈ (r.rewritten config route monitor).repos := mem_cons_self
  have hstays : ∀ found ∈ config.repos, r.matchesMonitor found = false →
      found ∈ (r.rewritten config route monitor).repos := fun found hfound hnot =>
    mem_cons_of_mem _ (mem_filter.mpr ⟨hfound, by rw [hnot]; rfl⟩)
  rcases hwell.counted with ⟨hown, hothers⟩ | ⟨other, hne, hother, ⟨taken, htaken, hmatches, hcount⟩,
    ⟨owner, howner, howns, hchannel, hname⟩, ⟨left, hleft, hnot, hleftCount, hleftChannel, hleftName⟩⟩
  · refine ⟨r.repo, hown, ?_, fun found hfound => (hothers found hfound).1, ?_, ?_⟩
    · exact ⟨route, hroutes ▸ mem_cons_self, hrepo, hroute.channel, hroute.channel_name⟩
    · exact fun found hfound hnot hcount => absurd hcount ((hothers found hfound).1 hnot)
    · intro kept hkept
      rw [hroutes] at hkept
      rcases mem_cons.mp hkept with rfl | hold
      · exact ⟨monitor, hmonitorMem, by rw [hidentity, hown, hrepo]⟩
      · obtain ⟨hkeptOld, hne⟩ := mem_filter.mp hold
        obtain ⟨found, hfound, hcount⟩ := hclean.monitored kept hkeptOld
        refine ⟨found, hstays found hfound ?_, hcount⟩
        by_contra hmatches
        rcases (hothers found hfound).2 (by simpa using hmatches) with hnone | hsome
        · rw [hnone] at hcount
          cases hcount
        · rw [hcount] at hsome
          simp [some.inj hsome] at hne
  · refine ⟨other, hother, ?_, ?_, ?_, ?_⟩
    · refine ⟨owner, ?_, howns, hchannel, hname⟩
      rw [hroutes]
      exact mem_cons_of_mem _ (mem_filter.mpr ⟨howner, by rw [howns]; simpa using hne⟩)
    · intro found hfound hfoundNot hfoundCount
      rw [hclean.monitor_unique hfound htaken hfoundCount hcount, hmatches] at hfoundNot
      cases hfoundNot
    · intro found hfound _ hfoundCount
      rw [hclean.monitor_unique hfound hleft hfoundCount hleftCount]
      exact ⟨hleftChannel, hleftName⟩
    · intro kept hkept
      rw [hroutes] at hkept
      rcases mem_cons.mp hkept with rfl | hold
      · exact ⟨left, hstays left hleft hnot, by rw [hleftCount, hrepo]⟩
      · obtain ⟨found, hfound, hfoundCount⟩ := hclean.monitored kept (mem_filter.mp hold).1
        cases hfoundMatches : r.matchesMonitor found with
        | false => exact ⟨found, hstays found hfound hfoundMatches, hfoundCount⟩
        | true =>
          -- the monitor that was taken is the only one that is matched
          have hsame : found = taken := by
            exact eq_of_length_le_one haccepts.monitor_once (mem_filter.mpr ⟨hfound, hfoundMatches⟩)
              (mem_filter.mpr ⟨htaken, hmatches⟩)
          rw [hsame, hcount] at hfoundCount
          exact ⟨monitor, hmonitorMem, by rw [hidentity, hother, some.inj hfoundCount]⟩

/-- A configuration that has what the binding needs is clean after it. -/
theorem clean_of_bindsWell (hwell : r.BindsWell disk config) : Clean disk (r.rewritten config route monitor) := by
  have hsetup := (isRepoBindingRoute_iff hr).mp hroute.shape
  have hidentity := hmonitor.identity hr
  have hroutes : setupRoutes (r.rewritten config route monitor) = _ := setupRoutes_rewritten hr hroute
  obtain ⟨other, hother, ⟨owner, howner, howns, hchannel, hname⟩, honly, hagree, hkept⟩ :=
    counted_cases haccepts hclean hwell hroute hsetup.2 hidentity hroutes
  have hcount : setupMonitorRepoIdentity monitor = some other := hidentity.trans hother
  -- a route or a monitor of the new configuration is the one that is written, or an old one
  have hroutesCases : ∀ kept ∈ setupRoutes (r.rewritten config route monitor),
      kept = route ∨ kept ∈ setupRoutes config ∧ repoOf kept ≠ r.repo := by
    intro kept hmem
    rw [hroutes] at hmem
    exact (mem_cons.mp hmem).imp_right fun hold => by simpa using mem_filter.mp hold
  have hreposCases : ∀ found ∈ (r.rewritten config route monitor).repos,
      found = monitor ∨ found ∈ config.repos ∧ r.matchesMonitor found = false := by
    intro found hmem
    exact (mem_cons.mp hmem).imp_right fun hold => by simpa using mem_filter.mp hold
  constructor
  case routes_once =>
    rw [hroutes, map_cons, nodup_cons]
    refine ⟨?_, hclean.routes_once.sublist (filter_sublist.map repoOf)⟩
    rw [hsetup.2, List.mem_map]
    rintro ⟨kept, hmem, hrepo⟩
    simpa [hrepo] using (mem_filter.mp hmem).2
  case monitored => exact hkept
  case agreed =>
    intro kept hmem found hfound hcounted
    rcases hroutesCases kept hmem with rfl | ⟨hold, hne⟩
    · rcases hreposCases found hfound with rfl | ⟨hfoundOld, hnot⟩
      · exact ⟨hroute.channel.trans hmonitor.channel.symm,
          hroute.channel_name.trans hmonitor.channel_name.symm, hmonitor.path ▸ hwell.worktree⟩
      · rw [hsetup.2] at hcounted
        obtain ⟨hfoundChannel, hfoundName⟩ := hagree found hfoundOld hnot hcounted
        obtain ⟨before, hbefore, hrepo⟩ := hclean.routed found hfoundOld r.repo hcounted
        exact ⟨hroute.channel.trans hfoundChannel.symm, hroute.channel_name.trans hfoundName.symm,
          (hclean.agreed before hbefore found hfoundOld (hrepo ▸ hcounted)).worktree⟩
    · rcases hreposCases found hfound with rfl | ⟨hfoundOld, -⟩
      · rw [hcount] at hcounted
        have hsame : kept = owner := by
          rcases hroutesCases owner howner with rfl | ⟨hownerOld, -⟩
          · exact absurd ((some.inj hcounted).symm.trans (howns.symm.trans hsetup.2)) hne
          · exact hclean.route_unique hold hownerOld ((some.inj hcounted).symm.trans howns.symm)
        rw [hsame]
        exact ⟨hchannel.trans hmonitor.channel.symm, hname.trans hmonitor.channel_name.symm,
          hmonitor.path ▸ hwell.worktree⟩
      · exact hclean.agreed kept hold found hfoundOld hcounted
  case unshared =>
    intro kept hmem found hfound hnone
    rcases hreposCases found hfound with rfl | ⟨hfoundOld, hnot⟩
    · rw [hcount] at hnone
      cases hnone
    · rcases hroutesCases kept hmem with rfl | ⟨hold, -⟩
      · rw [hroute.channel]
        exact fun hshared => hwell.unshared found hfoundOld hnot hnone hshared.symm
      · exact hclean.unshared kept hold found hfoundOld hnone
  case monitors_once =>
    unfold Request.rewritten
    rw [filterMap_cons_some hcount, nodup_cons]
    refine ⟨?_, hclean.monitors_once.sublist (filter_sublist.filterMap _)⟩
    rw [mem_filterMap]
    rintro ⟨found, hfound, hfoundCount⟩
    obtain ⟨hfoundOld, hnot⟩ := mem_filter.mp hfound
    exact honly found hfoundOld (by simpa using hnot) hfoundCount
  case routed =>
    intro found hfound repo hcounted
    rcases hreposCases found hfound with rfl | ⟨hfoundOld, -⟩
    · rw [hcount] at hcounted
      exact ⟨owner, howner, howns.trans (some.inj hcounted)⟩
    · obtain ⟨before, hbefore, hrepo⟩ := hclean.routed found hfoundOld repo hcounted
      rw [hroutes]
      by_cases hsame : repo = r.repo
      · exact ⟨route, mem_cons_self, hsetup.2.trans hsame.symm⟩
      · exact ⟨before, mem_cons_of_mem _ (mem_filter.mpr ⟨hbefore, by rw [hrepo]; simpa using hsame⟩), hrepo⟩
  case unopposed =>
    intro opposed hopposed hmanual kept hmem hrepo
    rcases mem_cons.mp hopposed with rfl | hopposedOld
    · unfold isManualRepoRoute at hmanual
      rw [hsetup.1] at hmanual
      cases hmanual
    · obtain ⟨hopposedMem, hnot⟩ := mem_filter.mp hopposedOld
      rcases hroutesCases kept hmem with rfl | ⟨hold, -⟩
      · have hrefused := isManualRoute_of_repo hmanual (hrepo.symm.trans hsetup.2) (by simpa using hnot)
        exact ne_true_of_eq_false haccepts.no_manual_route (any_eq_true.mpr ⟨opposed, hopposedMem, hrefused⟩)
      · exact hclean.unopposed opposed hopposedMem hmanual kept hold hrepo

end Auditing

/-- A binding that is accepted keeps a clean configuration clean if and only if it has what it needs. -/
theorem clean_write_iff {disk : Disk} (hr : r.Normal) (haccepts : r.Accepts config) (hclean : Clean disk config) :
    Clean disk (r.write config) ↔ r.BindsWell disk config := by
  have hroute := isRoute_written hr config
  have hmonitor := isMonitor_written (r := r) config
  have hperm : Clean disk (r.write config) ↔ Clean disk (r.rewritten config _ _) :=
    clean_iff_of_perm (routes_write_perm haccepts) (repos_write_perm haccepts)
  rw [hperm]
  exact ⟨bindsWell_of_clean hr hroute hmonitor hclean, clean_of_bindsWell hr haccepts hroute hmonitor hclean⟩

/-! ## The law -/

/-- What a binding is for: it changes nothing when it fails, and nothing when it is repeated, and keeps the audit
clean on a checkout that is a worktree. -/
structure Lawful (disk : Disk) (config : Config) (repo channel_id : String) (channel_name : Option String)
    (checkout_path : String) : Prop where
  atomic : ∀ e, (applyRepoChannelBinding config repo channel_id channel_name checkout_path).1 = .error e →
    (applyRepoChannelBinding config repo channel_id channel_name checkout_path).2 = config
  idempotent : (applyRepoChannelBinding config repo channel_id channel_name checkout_path).1 = .ok () →
    applyRepoChannelBinding (applyRepoChannelBinding config repo channel_id channel_name checkout_path).2
        repo channel_id channel_name checkout_path =
      (.ok (), (applyRepoChannelBinding config repo channel_id channel_name checkout_path).2)
  clean : (applyRepoChannelBinding config repo channel_id channel_name checkout_path).1 = .ok () →
    disk.isWorktree checkout_path = true → auditRouteMonitorDrift disk config = [] → auditRouteMonitorDrift disk
        (applyRepoChannelBinding config repo channel_id channel_name checkout_path).2 = []

section Law

variable {config : Config} {repo channel_id : String} {channel_name : Option String}
  {checkout_path : String} {r : Request}

/-- A binding that is accepted is written. -/
theorem apply_of_accepts (hrequest : request repo channel_id channel_name checkout_path = .ok r)
    (haccepts : r.Accepts config) :
    applyRepoChannelBinding config repo channel_id channel_name checkout_path = (.ok (), r.write config) := by
  unfold applyRepoChannelBinding
  simp only [hrequest, check_eq_ok.mpr haccepts]

/-- A binding that is not accepted changes nothing. -/
theorem apply_of_refused (h : ∀ r, request repo channel_id channel_name checkout_path = .ok r → ¬ r.Accepts config) :
    ∃ e, applyRepoChannelBinding config repo channel_id channel_name checkout_path = (.error e, config) := by
  unfold applyRepoChannelBinding
  cases hrequest : request repo channel_id channel_name checkout_path with
  | error e => exact ⟨e, rfl⟩
  | ok r =>
    cases hcheck : r.check config with
    | error e => exact ⟨e, by simp only [hcheck]⟩
    | ok _ => exact absurd (check_eq_ok.mp hcheck) (h r hrequest)

end Law

/-- A binding is lawful if and only if, where it is accepted in a clean configuration, its monitor is counted for
its repository, and was not counted for another one. -/
theorem lawful_iff (disk : Disk) (config : Config) (repo channel_id : String) (channel_name : Option String)
    (checkout_path : String) : Lawful disk config repo channel_id channel_name checkout_path ↔
      ∀ r, request repo channel_id channel_name checkout_path = .ok r → r.Accepts config →
        disk.isWorktree checkout_path = true → Clean disk config → r.BindsWell disk config := by
  by_cases haccepted : ∃ r, request repo channel_id channel_name checkout_path = .ok r ∧ r.Accepts config
  · obtain ⟨r, hrequest, haccepts⟩ := haccepted
    have hr := request_normal hrequest
    have happly := apply_of_accepts hrequest haccepts
    -- the same binding once more is accepted, and writes what is there
    have hagain := apply_of_accepts hrequest (haccepts.write hr)
    rw [write_write hr] at hagain
    constructor
    · intro h r' hrequest' haccepts' hworktree hclean
      have hsame : r' = r := Except.ok.inj (hrequest'.symm.trans hrequest)
      subst hsame
      have hafter := h.clean (by rw [happly]) hworktree (auditRouteMonitorDrift_eq_nil.mpr hclean)
      rw [happly, auditRouteMonitorDrift_eq_nil] at hafter
      exact (clean_write_iff hr haccepts hclean).mp hafter
    · intro h
      refine ⟨fun e herror => ?_, fun _ => ?_, fun _ hworktree hclean => ?_⟩
      · rw [happly] at herror
        cases herror
      · rw [happly]
        exact hagain
      · rw [auditRouteMonitorDrift_eq_nil] at hclean
        rw [happly, auditRouteMonitorDrift_eq_nil]
        exact (clean_write_iff hr haccepts hclean).mpr (h r hrequest haccepts hworktree hclean)
  · have hrefused : ∀ r, request repo channel_id channel_name checkout_path = .ok r → ¬ r.Accepts config :=
      fun r hrequest haccepts => haccepted ⟨r, hrequest, haccepts⟩
    obtain ⟨e, happly⟩ := apply_of_refused hrefused
    constructor
    · exact fun _ r hrequest haccepts => absurd ⟨r, hrequest, haccepts⟩ haccepted
    · intro _
      refine ⟨fun _ _ => by rw [happly], fun hok => ?_, fun hok => ?_⟩
      · rw [happly] at hok
        cases hok
      · rw [happly] at hok
        cases hok

namespace Sample

/-- A disk on which every path is a worktree. -/
def disk : Disk where
  pathExists _ := true
  join path _ := path
  parent _ := none
  fileName _ := none

/-- A repository with an owner is bound. -/
def bound : Config := (applyRepoChannelBinding ⟨[], []⟩ "acme/clawhip" "111" (some "alpha") "/work/acme").2

example : auditRouteMonitorDrift disk bound = [] := by decide +kernel

/-- The route of the repository with an owner. -/
def acmeRoute : BoundRoute := Request.newRoute ⟨"acme/clawhip", "111", some "alpha", "/work/acme"⟩

/-- A bare name takes the monitor of the repository with an owner, whose route is left without one. -/
theorem bare_name_takes_the_monitor : ¬ Lawful disk bound "clawhip" "222" (some "beta") "/work/clawhip" := by
  intro h
  have hclean := auditRouteMonitorDrift_eq_nil.mp
    (h.clean (by decide +kernel) (by decide +kernel) (by decide +kernel))
  have hroute : acmeRoute ∈ setupRoutes
      (applyRepoChannelBinding bound "clawhip" "222" (some "beta") "/work/clawhip").2 := by decide +kernel
  have hleft : ∀ monitor ∈ (applyRepoChannelBinding bound "clawhip" "222" (some "beta") "/work/clawhip").2.repos,
      setupMonitorRepoIdentity monitor ≠ some (repoOf acmeRoute) := by decide +kernel
  obtain ⟨monitor, hmonitor, hcounted⟩ := hclean.monitored acmeRoute hroute
  exact hleft monitor hmonitor hcounted

/-- A binding without a hint is never counted. -/
example : ((auditRouteMonitorDrift disk
      (applyRepoChannelBinding ⟨[], []⟩ "clawhip" "111" none "/work/clawhip").2).map
    fun finding => finding.code) = ["missing_git_monitor", "manual_monitor_conflict"] := by decide +kernel

end Sample

end Clawhip.Binding
