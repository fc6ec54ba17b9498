import Clawhip.Lib.Text

/-!
# Monitors of git paths

What `src/source/git.rs` keeps for a path that it polls, and what registrations, failures and successes
do to it. Instants and durations are in nanoseconds.
-/

namespace Clawhip.Git

def INVALID_FAILURE_THRESHOLD : ℕ := 3
def MAX_FAILURE_ATTEMPTS : ℕ := 32
def SUPPRESSED_SUMMARY_INTERVAL : ℕ := 10

/-- `Duration::from_secs`. -/
def fromSecs (secs : ℕ) : ℕ := secs * 10 ^ 9

def QUARANTINE_PROBE_INTERVAL : ℕ := fromSecs (15 * 60)

structure GitRepoState where
  branch : String
  head : String

inductive GitMonitorOperation where
  | discovery
  | snapshot
deriving DecidableEq

inductive GitMonitorLifecycle where
  | active
  | degraded
  | quarantined
  | retired
deriving DecidableEq

inductive GitMonitorOrigin where
  | declarative
  | dynamic
deriving DecidableEq

structure FileIdentity where
  is_dir : Bool
  is_file : Bool
  len : ℕ
  modified : Option ℕ
  created : Option ℕ
  device : ℕ
  inode : ℕ
deriving DecidableEq

structure GitPathIdentity where
  root : Option FileIdentity := none
  git_marker : Option FileIdentity := none
deriving DecidableEq

inductive GitMonitorFailureClass where
  | missing
  | notGit
  | gitdirBroken
  | unknown
deriving DecidableEq

def GitMonitorFailureClass.isPermanentlyInvalid : GitMonitorFailureClass → Bool
  | missing | notGit | gitdirBroken => true
  | unknown => false

structure GitMonitorFailureState where
  classification : GitMonitorFailureClass
  operation : GitMonitorOperation
  message : String
  attempts : ℕ
  suppressed_polls : ℕ
  next_retry_at : ℕ

structure GitMonitorState where
  repo : Option GitRepoState := none
  failure : Option GitMonitorFailureState := none
  origin : Option GitMonitorOrigin := none
  identity : Option GitPathIdentity := none
  lifecycle : GitMonitorLifecycle := .active

/-! ## Registrations -/

def reconcileMonitorRegistration (state : GitMonitorState) (origin : GitMonitorOrigin)
    (identity : GitPathIdentity) : GitMonitorState :=
  let changed := state.origin.any (· != origin) || state.identity.any (· != identity)
  if state.origin.isNone || changed then
    { repo := none, failure := none, origin := origin, identity := identity, lifecycle := .active }
  else state

/-- The polls that a failure suppressed; the count starts again after a summary. -/
def GitMonitorFailureState.suppress (failure : GitMonitorFailureState) : GitMonitorFailureState :=
  let suppressed_polls := min (failure.suppressed_polls + 1) SUPPRESSED_SUMMARY_INTERVAL
  { failure with
    suppressed_polls :=
      if suppressed_polls = SUPPRESSED_SUMMARY_INTERVAL then 0 else suppressed_polls }

/-- `should_skip_failed_monitor`; `current_identity` is the identity of the path. -/
def shouldSkipFailedMonitor (state : GitMonitorState) (current_identity : GitPathIdentity) (now : ℕ) :
    Bool × GitMonitorState :=
  if state.identity ≠ some current_identity then
    let origin := state.origin.getD .declarative
    (false, reconcileMonitorRegistration state origin current_identity)
  else if state.lifecycle = .retired then (true, state)
  else
    match state.failure with
    | none => (false, state)
    | some failure =>
      if now < failure.next_retry_at then (true, { state with failure := some failure.suppress })
      else (false, state)

/-! ## Failures -/

def clearMonitorFailure (state : GitMonitorState) (operation : GitMonitorOperation) : GitMonitorState :=
  if state.failure.any (·.operation ≠ operation) then state
  else { state with failure := none, lifecycle := .active }

def classifyGitMonitorFailure (message : String) : GitMonitorFailureClass :=
  let lowered := Text.toAsciiLowercase message
  if Text.contains lowered "no such file or directory" || Text.contains lowered "path not found" then
    .missing
  else if Text.contains lowered "not a git repository" &&
      (Text.contains lowered ".git/worktrees" || Text.contains lowered "gitdir") then .gitdirBroken
  else if Text.contains lowered "not a git repository" then .notGit
  else .unknown

/-- `git_monitor_backoff`; `poll_interval` is in seconds. -/
def gitMonitorBackoff (attempts poll_interval : ℕ) : ℕ :=
  let multiplier := 2 ^ min attempts 6
  let capped := min (poll_interval * multiplier) 300
  fromSecs (max capped 1)

/-- `MonitorFailureInput`, and the identity of the path when the failure is recorded. -/
structure MonitorFailureInput where
  origin : GitMonitorOrigin
  expected_identity : GitPathIdentity
  current_identity : GitPathIdentity
  operation : GitMonitorOperation
  message : String
  now : ℕ
  poll_interval : ℕ

/-- The attempts up to a failure. -/
def failureAttempts (state : GitMonitorState) (classification : GitMonitorFailureClass)
    (operation : GitMonitorOperation) : ℕ :=
  let attempts :=
    match state.failure with
    | some previous =>
      if previous.classification = classification ∧ previous.operation = operation then
        previous.attempts + 1
      else 1
    | none => 1
  min attempts MAX_FAILURE_ATTEMPTS

/-- What becomes of a path that failed. -/
def failureLifecycle (origin : GitMonitorOrigin) (classification : GitMonitorFailureClass)
    (attempts : ℕ) : GitMonitorLifecycle :=
  if classification.isPermanentlyInvalid && decide (INVALID_FAILURE_THRESHOLD ≤ attempts) then
    match origin with
    | .declarative => .quarantined
    | .dynamic => .retired
  else .degraded

def recordMonitorFailure (state : GitMonitorState) (input : MonitorFailureInput) : GitMonitorState :=
  if input.current_identity ≠ input.expected_identity then
    reconcileMonitorRegistration state input.origin input.current_identity
  else
    let classification := classifyGitMonitorFailure input.message
    let attempts := failureAttempts state classification input.operation
    let lifecycle := failureLifecycle input.origin classification attempts
    let next_retry :=
      match lifecycle with
      | .quarantined => QUARANTINE_PROBE_INTERVAL
      | .retired => 0
      | _ => gitMonitorBackoff attempts input.poll_interval
    { state with
      origin := input.origin
      identity := input.current_identity
      lifecycle := lifecycle
      failure := some {
        classification, operation := input.operation, message := input.message, attempts,
        suppressed_polls := 0, next_retry_at := input.now + next_retry } }

end Clawhip.Git
