import Clawhip.Routing.Config
import Clawhip.Lib.Grouping
import Clawhip.Lib.Upsert

/-!
# Binding repositories to channels

`AppConfig::apply_repo_channel_binding` of `src/config.rs` writes the route and the git monitor of a repository;
`audit_route_monitor_drift` of `src/binding_verify.rs` looks whether the routes and the monitors of the
configuration belong together. Of the configuration the routes and the git monitors are kept, and of the file
system whether a path exists.
-/

namespace Clawhip.Binding

/-- `RouteRule`, with the hint of its channel's name. -/
structure BoundRoute extends Router.RouteRule where
  channel_name : Option String
deriving DecidableEq

structure GitRepoMonitor where
  path : String
  name : Option String
  remote : String := "origin"
  github_repo : Option String
  emit_commits : Bool := true
  emit_branch_changes : Bool := true
  emit_issue_opened : Bool := true
  emit_pr_status : Bool := false
  emit_pr_activity : Bool := false
  channel : Option String
  channel_name : Option String
  setup_owned : Bool
  mention : Option String := none
  format : Option MessageFormat := none
deriving DecidableEq

/-- What a binding reads and writes of `AppConfig`. -/
structure Config where
  routes : List BoundRoute
  repos : List GitRepoMonitor

/-- A text that is there and not blank. -/
def isFilled (value : Option String) : Bool := value.any fun value => !(Text.trim value).isEmpty

/-! ## Routes that setup owns -/

/-- The shape of a route that setup writes, for a repository that is named so. -/
def hasSetupShape (named : String → Bool) (route : BoundRoute) : Bool :=
  route.event == "*" && Text.trim route.sink == "discord" && route.effectiveSink == "discord" &&
    List.length route.filter == 1 && (route.filter.get "repo").any named && isFilled route.channel &&
    route.thread.isNone && route.webhook.isNone && route.slack_webhook.isNone &&
    route.local_path.isNone && route.mention.isNone && route.template.isNone && route.gajae.isNone &&
    !route.allow_dynamic_tokens && route.format.isNone

def isRepoBindingRoute (repo : String) : BoundRoute → Bool := hasSetupShape fun value => value == repo

def isSetupRepoRoute : BoundRoute → Bool := hasSetupShape fun value => !(Text.trim value).isEmpty

def repoOf (route : BoundRoute) : String := (route.filter.get "repo").getD ""

/-! ## Writing a binding -/

def isOwnerRepo (repo : String) : Bool :=
  match Text.split repo "/" with
  | [owner, name] => !owner.isEmpty && !name.isEmpty
  | _ => false

/-- The arguments of a binding once they are normalized. -/
structure Request where
  repo : String
  channel_id : String
  channel_name : Option String
  checkout_path : String

/-- A text that a binding requires. -/
def required (what value : String) : Except String String :=
  match Text.nonblank (some value) with
  | some value => .ok value
  | none => .error ("repo binding requires a non-empty " ++ what)

/-- The normalization of the arguments. -/
def request (repo channel_id : String) (channel_name : Option String) (checkout_path : String) :
    Except String Request := do
  let repo ← required "repo name" repo
  let channel_id ← required "channel id" channel_id
  let checkout_path ← required "checkout path" checkout_path
  return { repo, channel_id, channel_name := Text.nonblank channel_name, checkout_path }

namespace Request

variable (r : Request)

/-- The name of the monitor: the last component of the repository. -/
def monitorName : String := (Text.split r.repo "/").getLastD r.repo

/-- The repository of the monitor, if it has an owner. -/
def githubRepo : Option String := if isOwnerRepo r.repo then some r.repo else none

/-- A wildcard route on the repository that setup did not write. -/
def isManualRoute (route : BoundRoute) : Bool :=
  !isRepoBindingRoute r.repo route && route.event == "*" && route.effectiveSink == "discord" &&
    List.length route.filter == 1 && route.filter.get "repo" == some r.repo

/-- A monitor of the channel alone, under another name. -/
def isManualMonitor (monitor : GitRepoMonitor) : Bool :=
  monitor.channel == some r.channel_id && monitor.github_repo.isNone &&
    monitor.name != some r.monitorName

/-- The monitor is matched by its path, its repository or its name. -/
def matchesMonitor (monitor : GitRepoMonitor) : Bool :=
  Text.trim monitor.path == r.checkout_path ||
    r.githubRepo.any (fun repo => monitor.github_repo == some repo) ||
    (monitor.name == some r.monitorName && r.githubRepo.all fun repo =>
      monitor.github_repo.all fun existing => (Text.trim existing).isEmpty || existing == repo)

/-- What is said of a matched monitor that setup does not own. -/
def unowned (monitor : GitRepoMonitor) : String :=
  if monitor.channel == some r.channel_id && monitor.github_repo.isNone then "manual_monitor_conflict"
  else "git monitor conflict for repo '" ++ r.repo ++ "'; existing monitor is not setup-owned"

/-- What is checked before anything is written. -/
def check (config : Config) : Except String Unit :=
  if 1 < (config.routes.filter (isRepoBindingRoute r.repo)).length then
    .error ("multiple setup-owned routes found for repo '" ++ r.repo ++
      "'; clean up duplicates before updating binding")
  else if config.routes.any r.isManualRoute then
    .error ("manual_route_conflict for repo '" ++ r.repo ++ "'")
  else if config.repos.any r.isManualMonitor then .error "manual_monitor_conflict"
  else match (config.repos.filter r.matchesMonitor).find? fun monitor => !monitor.setup_owned with
    | some monitor => .error (r.unowned monitor)
    | none =>
      if 1 < (config.repos.filter r.matchesMonitor).length then
        .error ("multiple setup-owned git monitors found for repo '" ++ r.repo ++
          "'; clean up duplicates before updating binding")
      else .ok ()

/-- The route of the binding where there was one. -/
def rebindRoute (route : BoundRoute) : BoundRoute :=
  { route with
    channel := some r.channel_id
    thread := none
    channel_name := r.channel_name
    webhook := none }

/-- The route of the binding where there was none. -/
def newRoute : BoundRoute where
  event := "*"
  filter := [("repo", r.repo)]
  sink := Router.defaultSinkName
  channel := some r.channel_id
  thread := none
  channel_name := r.channel_name
  webhook := none
  slack_webhook := none
  local_path := none
  mention := none
  allow_dynamic_tokens := false
  format := none
  template := none
  gajae := none

/-- The monitor of the binding where there was one. -/
def rebindMonitor (monitor : GitRepoMonitor) : GitRepoMonitor :=
  { monitor with
    path := r.checkout_path
    name := some r.monitorName
    github_repo := r.githubRepo
    channel := some r.channel_id
    channel_name := r.channel_name
    setup_owned := true }

/-- The monitor of the binding where there was none. -/
def newMonitor : GitRepoMonitor where
  path := r.checkout_path
  name := some r.monitorName
  github_repo := r.githubRepo
  channel := some r.channel_id
  channel_name := r.channel_name
  setup_owned := true

/-- The configuration with the binding. -/
def write (config : Config) : Config where
  routes := upsert (isRepoBindingRoute r.repo) r.rebindRoute r.newRoute config.routes
  repos := upsert r.matchesMonitor r.rebindMonitor r.newMonitor config.repos

end Request

/-- `AppConfig::apply_repo_channel_binding`, with the configuration that it leaves. -/
def applyRepoChannelBinding (config : Config) (repo channel_id : String) (channel_name : Option String)
    (checkout_path : String) : Except String Unit × Config :=
  match request repo channel_id channel_name checkout_path with
  | .error e => (.error e, config)
  | .ok r =>
    match r.check config with
    | .error e => (.error e, config)
    | .ok () => (.ok (), r.write config)

/-! ## Auditing -/

/-- What the audit reads of the file system. -/
structure Disk where
  /-- `Path::exists`. -/
  pathExists : String → Bool
  /-- `Path::join`. -/
  join : String → String → String
  /-- `Path::parent`. -/
  parent : String → Option String
  /-- `Path::file_name`. -/
  fileName : String → Option String

def Disk.looksLikeGitWorktree (disk : Disk) (path : String) : Bool :=
  disk.pathExists (disk.join path ".git") ||
    (disk.parent path).any fun parent => disk.pathExists (disk.join parent ".git")

/-- The path is an existing git worktree. -/
def Disk.isWorktree (disk : Disk) (path : String) : Bool := disk.pathExists path && disk.looksLikeGitWorktree path

def stableHash32 (value : String) : UInt32 :=
  value.toUTF8.toList.foldl (fun hash byte => (hash ^^^ byte.toUInt32) * 0x01000193) 0x811c9dc5

/-- Eight hexadecimal digits. -/
def hex8 (n : ℕ) : String :=
  let digits := Nat.toDigits 16 n
  String.ofList (List.replicate (8 - digits.length) '0' ++ digits)

def Disk.checkoutLabel (disk : Disk) (path : String) : String :=
  (disk.fileName path).getD "checkout" ++ "#" ++ hex8 (stableHash32 path).toNat

/-- `BindingDriftFinding`; its severity is always an error. -/
structure BindingDriftFinding where
  code : String
  repo : String
  route_indices : List ℕ := []
  monitor_indices : List ℕ := []
  route_channel_id : Option String := none
  monitor_channel_id : Option String := none
  route_channel_name : Option String := none
  monitor_channel_name : Option String := none
  checkout_label : Option String := none
  message : String

structure SetupRoute where
  repo : String
  indices : List ℕ
  channel : Option String
  channel_name : Option String

structure SetupMonitor where
  repo : Option String
  index : ℕ
  indices_len : ℕ
  path : String
  channel : Option String
  channel_name : Option String

/-- `setup_repo_routes`: the routes of each repository, with the channel of the first one. -/
def setupRepoRoutes (config : Config) : List SetupRoute :=
  let setup := config.routes.zipIdx.filter fun placed => isSetupRepoRoute placed.1
  (groupBy (fun a b => decide (a ≤ b)) (fun placed => repoOf placed.1) setup).map fun group =>
    { repo := group.1
      indices := group.2.map Prod.snd
      channel := group.2.head?.bind fun placed => placed.1.channel
      channel_name := group.2.head?.bind fun placed => placed.1.channel_name }

def monitorRepoIdentity (monitor : GitRepoMonitor) : Option String :=
  (Text.nonblank monitor.github_repo).or (Text.nonblank monitor.name)

def setupMonitorRepoIdentity (monitor : GitRepoMonitor) : Option String :=
  if !monitor.setup_owned then none
  else if !isFilled monitor.channel || !isFilled monitor.channel_name then none
  else monitorRepoIdentity monitor

/-- A monitor of the configuration, with the number of those that have its identity. -/
def setupMonitor (config : Config) (placed : GitRepoMonitor × ℕ) : SetupMonitor :=
  let repo := setupMonitorRepoIdentity placed.1
  { repo
    index := placed.2
    indices_len := if repo.isSome then
      (config.repos.filter fun other => setupMonitorRepoIdentity other == repo).length else 1
    path := placed.1.path
    channel := placed.1.channel
    channel_name := placed.1.channel_name }

def setupGitMonitors (config : Config) : List SetupMonitor := config.repos.zipIdx.map (setupMonitor config)

section Audit

variable (disk : Disk)

/-- A finding about a route. -/
def routeFinding (route : SetupRoute) (code message : String) : BindingDriftFinding where
  code := code
  repo := route.repo
  route_indices := route.indices
  route_channel_id := route.channel
  route_channel_name := route.channel_name
  message := message

/-- A finding about a route and a monitor. -/
def pairFinding (route : SetupRoute) (monitor : SetupMonitor) (code message : String) :
    BindingDriftFinding :=
  { routeFinding route code message with
    monitor_indices := [monitor.index]
    monitor_channel_id := monitor.channel
    monitor_channel_name := monitor.channel_name
    checkout_label := some (disk.checkoutLabel monitor.path) }

/-- A finding about a monitor. -/
def monitorFinding (monitor : SetupMonitor) (code repo message : String) : BindingDriftFinding where
  code := code
  repo := repo
  monitor_indices := [monitor.index]
  monitor_channel_id := monitor.channel
  monitor_channel_name := monitor.channel_name
  checkout_label := some (disk.checkoutLabel monitor.path)
  message := message

/-- A finding, if there is something to find. -/
def findingIf (found : Bool) (finding : BindingDriftFinding) : List BindingDriftFinding :=
  if found then [finding] else []

/-- What is found between a route and a monitor of its repository. -/
def pairFindings (route : SetupRoute) (monitor : SetupMonitor) : List BindingDriftFinding :=
  findingIf (route.channel != monitor.channel) (pairFinding disk route monitor "channel_mismatch"
    ("repo '" ++ route.repo ++ "' route and git monitor target different channels")) ++
  findingIf (route.channel_name != monitor.channel_name)
    (pairFinding disk route monitor "channel_name_mismatch"
      ("repo '" ++ route.repo ++ "' route and git monitor have different channel_name hints")) ++
  (if !disk.pathExists monitor.path then
    [pairFinding disk route monitor "checkout_missing"
      ("repo '" ++ route.repo ++ "' git monitor checkout is missing")]
  else findingIf (!disk.looksLikeGitWorktree monitor.path)
    (pairFinding disk route monitor "checkout_not_git_worktree"
      ("repo '" ++ route.repo ++ "' git monitor checkout is not a git worktree")))

/-- What is found of a route. -/
def routeFindings (monitors : List SetupMonitor) (route : SetupRoute) : List BindingDriftFinding :=
  let matching := monitors.filter fun monitor => monitor.repo == some route.repo
  findingIf (decide (1 < route.indices.length)) (routeFinding route "duplicate_setup_route"
    ("repo '" ++ route.repo ++ "' has multiple setup-owned routes")) ++
  findingIf matching.isEmpty (routeFinding route "missing_git_monitor"
    ("repo '" ++ route.repo ++ "' has a setup-owned route but no setup-owned git monitor")) ++
  matching.flatMap (pairFindings disk route) ++
  (monitors.filter fun monitor => monitor.repo.isNone).flatMap fun monitor =>
    findingIf (route.channel.isSome && route.channel == monitor.channel)
      (pairFinding disk route monitor "manual_monitor_conflict"
        ("repo '" ++ route.repo ++ "' route shares a channel with a manual channel-only git monitor"))

/-- What is found of a monitor. -/
def duplicateFindings (monitor : SetupMonitor) : List BindingDriftFinding :=
  findingIf (decide (1 < monitor.indices_len)) (monitorFinding disk monitor "duplicate_setup_monitor"
    (monitor.repo.getD "<manual>") "multiple setup-owned git monitors share the same repo identity")

/-- What is found of a monitor's repository. -/
def identityFindings (routes : List SetupRoute) (monitor : SetupMonitor) : List BindingDriftFinding :=
  match monitor.repo with
  | none => []
  | some repo => findingIf (!routes.any fun route => route.repo == repo)
      (monitorFinding disk monitor "repo_identity_mismatch" repo
        ("git monitor repo '" ++ repo ++ "' has no matching setup-owned route"))

/-- A wildcard route of a repository that setup did not write. -/
def isManualRepoRoute (route : BoundRoute) : Bool :=
  !isSetupRepoRoute route && route.event == "*" && route.effectiveSink == "discord" &&
    route.channel.isSome && List.length route.filter == 1 && (route.filter.get "repo").isSome

/-- What is found of a route that setup did not write. -/
def manualFindings (routes : List SetupRoute) (placed : BoundRoute × ℕ) : List BindingDriftFinding :=
  findingIf (isManualRepoRoute placed.1 && routes.any fun route => route.repo == repoOf placed.1)
    { code := "manual_route_conflict"
      repo := repoOf placed.1
      route_indices := [placed.2]
      route_channel_id := placed.1.channel
      route_channel_name := placed.1.channel_name
      message := "repo '" ++ repoOf placed.1 ++ "' has a manual wildcard Discord route" }

/-- `audit_route_monitor_drift`: the findings; the audit is well if there are none. -/
def auditRouteMonitorDrift (config : Config) : List BindingDriftFinding :=
  let routes := setupRepoRoutes config
  let monitors := setupGitMonitors config
  routes.flatMap (routeFindings disk monitors) ++ monitors.flatMap (duplicateFindings disk) ++
    monitors.flatMap (identityFindings disk routes) ++ config.routes.zipIdx.flatMap (manualFindings routes)

end Audit

end Clawhip.Binding
