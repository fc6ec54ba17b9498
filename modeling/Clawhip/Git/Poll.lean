import Clawhip.Events.Constructors
import Clawhip.Git.Monitor
import Clawhip.Lib.Deduplication
import Clawhip.Lib.Lines
import Clawhip.Lib.Machine

/-!
# Polls of git repositories

`poll_git_at` of `src/source/git.rs`: every repository is asked for its worktrees, and every worktree
for its branch and its head. What the commands answer and the identities of the paths are inputs.
-/

namespace Clawhip.Git

/-- What `poll_git_at` uses of a `GitRepoMonitor`. -/
structure GitRepoMonitor where
  path : String
  name : Option String := none
  emit_commits : Bool := true
  emit_branch_changes : Bool := true
  channel : Option String := none
  mention : Option String := none
  format : Option MessageFormat := none

structure MonitoredGitPath where
  state_key : String
  repo_path : String
  worktree_path : String
  origin : GitMonitorOrigin

structure CommitEntry where
  sha : String
  summary : String
deriving DecidableEq

structure GitSnapshot where
  repo_name : String
  repo_path : String
  worktree_path : String
  branch : String
  head : String
  commits : List CommitEntry

/-! ## Answers -/

/-- The identity of a path when it is registered, when it is asked whether to skip it, and when a
failure is recorded. -/
structure Readings where
  registered : GitPathIdentity := {}
  probed : GitPathIdentity := {}
  failed : GitPathIdentity := {}

/-- What a poll finds at a worktree: the output of every command, or its error. -/
structure PathAnswers where
  identity : Readings := {}
  head : Except String String
  branch : Except String String
  summary : Except String String
  log : String → String → Except String String

/-- What a poll finds at a repository; `pathsMatch` says which other paths are the path of the
repository. -/
structure RepoAnswers where
  identity : Readings := {}
  worktrees : Except String String
  pathsMatch : String → Bool
  paths : String → PathAnswers

/-- A poll: the time, and what it finds at every repository of the configuration. -/
structure GitPoll where
  now : ℕ
  repos : ℕ → RepoAnswers

def runCommand (answer : Except String String) : Except String String := answer.map Text.trim

/-! ## Keys -/

def discoveryStateKey (repo : GitRepoMonitor) : String := "discovery::" ++ repo.path

def repoStatePrefix (repo : GitRepoMonitor) : String := "path::" ++ repo.path ++ "::"

def RepoAnswers.monitorOrigin (answers : RepoAnswers) (repo : GitRepoMonitor) (worktree_path : String) :
    GitMonitorOrigin :=
  if repo.path == worktree_path || answers.pathsMatch worktree_path then .declarative else .dynamic

def RepoAnswers.monitoredStateKey (answers : RepoAnswers) (repo : GitRepoMonitor)
    (worktree_path : String) : String :=
  if answers.monitorOrigin repo worktree_path = .declarative then discoveryStateKey repo
  else repoStatePrefix repo ++ worktree_path

/-! ## Discovery -/

def parseWorktreeList (output : String) : List String :=
  ((Text.lines output).filterMap fun line => (Text.afterStart line "worktree ").map Text.trim).filter
    fun path => !path.isEmpty

def RepoAnswers.monitored (answers : RepoAnswers) (repo : GitRepoMonitor) (worktree_path : String) :
    MonitoredGitPath where
  state_key := answers.monitoredStateKey repo worktree_path
  repo_path := repo.path
  worktree_path := worktree_path
  origin := answers.monitorOrigin repo worktree_path

/-- The paths that `discover_monitored_git_paths` finds. -/
def RepoAnswers.discovered (answers : RepoAnswers) (repo : GitRepoMonitor) :
    Except String (List String) := do
  let output ← runCommand answers.worktrees
  let found := firsts id (parseWorktreeList output)
  return if found.isEmpty then [repo.path] else found

/-! ## Snapshots -/

/-- `Path::file_name`. -/
def fileName (path : String) : Option String :=
  ((Text.split path "/").filter fun part => !(part.isEmpty || part == ".")).getLast?.filter (· != "..")

def repoDisplayName (repo : GitRepoMonitor) : String := repo.name.getD ((fileName repo.path).getD repo.path)

/-- `snapshot_git_worktree`, without the address of the remote. -/
def snapshotGitWorktree (repo : GitRepoMonitor) (answers : PathAnswers) (worktree_path : String) :
    Except String GitSnapshot := do
  let head ← runCommand answers.head
  let branch ← runCommand answers.branch
  let summary ← runCommand answers.summary
  return {
    repo_name := repoDisplayName repo, repo_path := repo.path, worktree_path, branch, head,
    commits := [{ sha := head, summary }] }

/-- The commits of an output of `git log`. -/
def parseCommits (output : String) : List CommitEntry :=
  (Text.lines output).filterMap fun line =>
    (Text.splitOnce line '\x1f').map fun (sha, summary) => { sha, summary }

def listNewCommitsForPath (answers : PathAnswers) (old new : String) : Except String (List CommitEntry) :=
  (runCommand (answers.log old new)).map parseCommits

/-- The commits that are announced for a new head. -/
def newCommits (answers : PathAnswers) (previous : GitRepoState) (snapshot : GitSnapshot) :
    List CommitEntry :=
  match listNewCommitsForPath answers previous.head snapshot.head with
  | .ok (entry :: entries) => entry :: entries
  | _ => snapshot.commits

/-- What every event about a worktree is decorated with. -/
def decorate (repo : GitRepoMonitor) (snapshot : GitSnapshot) (event : IncomingEvent) : IncomingEvent :=
  { event.withRepoContext (some snapshot.repo_path) (some snapshot.worktree_path) with
    mention := repo.mention
    format := repo.format }

def snapshotEvents (repo : GitRepoMonitor) (answers : PathAnswers) (previous : Option GitRepoState)
    (snapshot : GitSnapshot) : List IncomingEvent :=
  match previous with
  | none => []
  | some previous =>
    (if repo.emit_branch_changes && previous.branch != snapshot.branch then
      [decorate repo snapshot <| .gitBranchChanged repo.channel snapshot.repo_name previous.branch
        snapshot.branch]
    else []) ++ if repo.emit_commits && previous.head != snapshot.head then
      (IncomingEvent.gitCommitEvents repo.channel snapshot.repo_name snapshot.branch
        ((newCommits answers previous snapshot).map fun commit => (commit.sha, commit.summary))).map
          (decorate repo snapshot)
    else []

/-! ## Polls -/

/-- A snapshot that was taken in a poll, and the events that were sent for it. -/
structure Visit where
  place : ℕ
  path : String
  snapshot : Except String GitSnapshot
  events : List IncomingEvent

/-- How far a poll has come. -/
structure PollProgress where
  state : OrdMap String GitMonitorState
  active : List String := []
  visits : List Visit := []

/-- One worktree of a poll: its monitor, and the snapshot if there is one. -/
def watchPath (poll_interval now : ℕ) (repo : GitRepoMonitor) (answers : PathAnswers)
    (origin : GitMonitorOrigin) (worktree_path : String) (monitor : GitMonitorState) :
    GitMonitorState × Option (Except String GitSnapshot × List IncomingEvent) :=
  let monitor := reconcileMonitorRegistration monitor origin answers.identity.registered
  match shouldSkipFailedMonitor monitor answers.identity.probed now with
  | (true, monitor) => (monitor, none)
  | (false, monitor) =>
    match snapshotGitWorktree repo answers worktree_path with
    | .ok snapshot =>
      let monitor := clearMonitorFailure monitor .snapshot
      ({ monitor with repo := some { branch := snapshot.branch, head := snapshot.head } },
        some (.ok snapshot, snapshotEvents repo answers monitor.repo snapshot))
    | .error message =>
      (recordMonitorFailure monitor {
        origin, expected_identity := answers.identity.registered,
        current_identity := answers.identity.failed, operation := .snapshot, message, now, poll_interval },
        some (.error message, []))

/-- One worktree of `poll_git_at`. -/
def pollPath (poll_interval now : ℕ) (repo : GitRepoMonitor) (place : ℕ) (answers : RepoAnswers)
    (progress : PollProgress) (worktree_path : String) : PollProgress :=
  let monitored := answers.monitored repo worktree_path
  let watched := watchPath poll_interval now repo (answers.paths worktree_path) monitored.origin
    worktree_path ((progress.state.get monitored.state_key).getD {})
  { state := progress.state.insert monitored.state_key watched.1
    active := monitored.state_key :: progress.active
    visits := progress.visits ++ (watched.2.map fun (snapshot, events) =>
      { place, path := worktree_path, snapshot, events }).toList }

def preserveRepoMonitorKeys (repo : GitRepoMonitor) (progress : PollProgress) : PollProgress :=
  { progress with
    active := progress.state.keys.filter (Text.startsWith · (repoStatePrefix repo)) ++ progress.active }

/-- What the discovery of worktrees comes to. -/
inductive Discovery where
  | skipped
  | failed
  | found (paths : List String)

/-- The discovery of the worktrees of a repository, and its monitor. -/
def discover (poll_interval now : ℕ) (repo : GitRepoMonitor) (answers : RepoAnswers)
    (monitor : GitMonitorState) : GitMonitorState × Discovery :=
  let monitor := reconcileMonitorRegistration monitor .declarative answers.identity.registered
  match shouldSkipFailedMonitor monitor answers.identity.probed now with
  | (true, monitor) => (monitor, .skipped)
  | (false, monitor) =>
    match answers.discovered repo with
    | .ok paths => (clearMonitorFailure monitor .discovery, .found paths)
    | .error message =>
      (recordMonitorFailure monitor {
        origin := .declarative, expected_identity := answers.identity.registered,
        current_identity := answers.identity.failed, operation := .discovery, message, now, poll_interval },
        .failed)

/-- One repository of `poll_git_at`. -/
def pollRepo (poll_interval : ℕ) (poll : GitPoll) (progress : PollProgress)
    (entry : GitRepoMonitor × ℕ) : PollProgress :=
  let (repo, place) := entry
  let answers := poll.repos place
  let discovery_key := discoveryStateKey repo
  let (monitor, discovery) := discover poll_interval poll.now repo answers
    ((progress.state.get discovery_key).getD {})
  let progress := { progress with
    state := progress.state.insert discovery_key monitor
    active := discovery_key :: progress.active }
  match discovery with
  | .skipped | .failed => preserveRepoMonitorKeys repo progress
  | .found paths => paths.foldl (pollPath poll_interval poll.now repo place answers) progress

/-- What `poll_git_at` uses of the configuration of the monitors. -/
structure Monitors where
  poll_interval_secs : ℕ
  repos : List GitRepoMonitor

/-- `poll_git_at`: the monitors afterwards, and the snapshots that were taken. -/
def Monitors.pollGitAt (config : Monitors) (state : OrdMap String GitMonitorState) (poll : GitPoll) :
    OrdMap String GitMonitorState × List Visit :=
  let poll_interval := max config.poll_interval_secs 1
  let progress := config.repos.zipIdx.foldl (pollRepo poll_interval poll) { state }
  (progress.state.filter fun entry => progress.active.contains entry.1, progress.visits)

def Monitors.machine (config : Monitors) : Machine (OrdMap String GitMonitorState) GitPoll (List Visit) where
  step := config.pollGitAt

@[simp] theorem Monitors.machine_step (config : Monitors) (state : OrdMap String GitMonitorState)
    (poll : GitPoll) : config.machine.step state poll = config.pollGitAt state poll := rfl

end Clawhip.Git
