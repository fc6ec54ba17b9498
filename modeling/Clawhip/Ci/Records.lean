import Clawhip.Events.Event
import Clawhip.Lib.Text

/-!
# CI runs and deliveries

The records that the CI outbox of `src/source/github.rs` keeps of runs and deliveries, and the tests by
which it takes two of them to be the same. An identity is a text: `run:` or `check:` with a number, or
the pull request, commit and workflow.
-/

namespace Clawhip.Ci

def CI_PAGE_SIZE : ℕ := 100
def MAX_CI_PAGES : ℕ := 5
def MAX_BASELINE_RUNS_PER_REPO : ℕ := CI_PAGE_SIZE * MAX_CI_PAGES
def MAX_CURRENT_WINDOW_IDS_PER_SCOPE : ℕ := (CI_PAGE_SIZE * MAX_CI_PAGES) * (CI_PAGE_SIZE * MAX_CI_PAGES + 1) * 2
def MAX_PENDING_SEND_ATTEMPTS : ℕ := 3
def PENDING_RETRY_BACKOFF_SECS : ℕ := 3600
def ACK_RETENTION_SECS : ℕ := 7 * 24 * 3600
def MAX_DEAD_LETTER : ℕ := 64

/-! ## Identities -/

def pendingCheckIdentities (identities : List String) : List String :=
  identities.filter fun identity => Text.startsWith identity "check:"

def pendingRunIdentities (identities : List String) : List String :=
  identities.filter fun identity => Text.startsWith identity "run:"

def runAttemptOrOne (attempt : ℕ) : ℕ := max attempt 1

def runIdentity (runId : String) (attempt : ℕ) : String :=
  let attempt := runAttemptOrOne attempt
  if attempt = 1 then "run:" ++ runId else "run:" ++ runId ++ ":" ++ toString attempt

/-- Two lists of identities share one. -/
def shareIdentity (left right : List String) : Bool := left.any fun identity => right.contains identity

/-- The identities of `extra` that are not among `identities` are added to them. -/
def addIdentities (identities extra : List String) : List String :=
  extra.foldl (fun ids identity => if ids.contains identity then ids else ids ++ [identity]) identities

/-! ## Snapshots -/

structure GitHubCISnapshot where
  pr_number : Option ℕ
  workflow : String
  status : String
  conclusion : Option String
  sha : String
  url : String
  branch : Option String
  run_id : Option String
  run_attempt : ℕ
  check_run_id : Option String
  created_at : Option String
  run_job_count : ℕ
  run_all_terminal : Bool

namespace GitHubCISnapshot

def fallbackIdentity (ci : GitHubCISnapshot) : String :=
  (ci.pr_number.map toString).getD "none" ++ ":" ++ ci.sha ++ ":" ++ ci.workflow

def runAttempt (ci : GitHubCISnapshot) : ℕ := runAttemptOrOne ci.run_attempt

def uniqueIdentities (ci : GitHubCISnapshot) : List String :=
  (ci.run_id.map fun runId => runIdentity runId ci.runAttempt).toList ++
    (ci.check_run_id.map fun checkRunId => "check:" ++ checkRunId).toList

def identities (ci : GitHubCISnapshot) : List String := ci.uniqueIdentities ++ [ci.fallbackIdentity]

def dedupeKey (ci : GitHubCISnapshot) : String :=
  match ci.check_run_id, ci.run_id with
  | some checkRunId, _ => "check:" ++ checkRunId
  | none, some runId => "run:" ++ runId ++ ":" ++ toString ci.runAttempt ++ ":" ++ ci.workflow
  | none, none => ci.fallbackIdentity

def isTerminal (ci : GitHubCISnapshot) : Bool := ci.status == "completed" && ci.run_all_terminal

end GitHubCISnapshot

/-! ## Terminal runs -/

structure TerminalRunRecord where
  identities : List String
  run_id : Option String
  run_attempt : ℕ
  workflow : String
  conclusion : Option String
  created_at : Option String

namespace TerminalRunRecord

def fromSnapshot (ci : GitHubCISnapshot) : TerminalRunRecord where
  identities := ci.identities
  run_id := ci.run_id
  run_attempt := ci.runAttempt
  workflow := ci.workflow
  conclusion := ci.conclusion
  created_at := ci.created_at

def uniqueIdentities (record : TerminalRunRecord) : List String :=
  record.identities.filter fun identity =>
    Text.startsWith identity "run:" || Text.startsWith identity "check:"

def matchesSnapshot (record : TerminalRunRecord) (ci : GitHubCISnapshot) : Bool :=
  let snapIds := ci.uniqueIdentities
  let recChecks := pendingCheckIdentities record.identities
  let snapChecks := pendingCheckIdentities snapIds
  if !recChecks.isEmpty && !snapChecks.isEmpty then
    shareIdentity recChecks snapChecks && runAttemptOrOne record.run_attempt == ci.runAttempt &&
      record.conclusion == ci.conclusion
  else if !snapChecks.isEmpty || !recChecks.isEmpty then false
  else
    shareIdentity snapIds record.identities && runAttemptOrOne record.run_attempt == ci.runAttempt &&
      record.conclusion == ci.conclusion

def mergeSnapshot (record : TerminalRunRecord) (ci : GitHubCISnapshot) : TerminalRunRecord :=
  { record with
    identities := addIdentities record.identities ci.identities
    run_id := record.run_id.or ci.run_id
    created_at := record.created_at.or ci.created_at }

/-- The key by which records are evicted, the smallest first. -/
def evictionKey (record : TerminalRunRecord) : ℕ × String × ℕ × String :=
  (if record.created_at.isSome then 1 else 0, record.created_at.getD "",
    (record.run_id.bind Text.parseU64).getD (2 ^ 64 - 1), record.identities.head?.getD "")

end TerminalRunRecord

def terminalRecordsSameRun (left right : TerminalRunRecord) : Bool :=
  let leftChecks := pendingCheckIdentities left.identities
  let rightChecks := pendingCheckIdentities right.identities
  if !leftChecks.isEmpty && !rightChecks.isEmpty then
    shareIdentity leftChecks rightChecks &&
      runAttemptOrOne left.run_attempt == runAttemptOrOne right.run_attempt &&
      left.conclusion == right.conclusion
  else
    let leftUnique := left.uniqueIdentities
    let rightUnique := right.uniqueIdentities
    if !leftUnique.isEmpty && !rightUnique.isEmpty then
      shareIdentity leftUnique rightUnique &&
        runAttemptOrOne left.run_attempt == runAttemptOrOne right.run_attempt &&
        left.conclusion == right.conclusion
    else shareIdentity left.identities right.identities

/-! ## Deliveries -/

structure PendingCiDelivery where
  identities : List String
  kind : String
  repo_name : String
  pr_number : Option ℕ
  workflow : String
  status : String
  conclusion : Option String
  sha : String
  url : String
  branch : Option String
  run_id : Option String
  run_attempt : ℕ
  run_job_count : ℕ
  run_all_terminal : Bool
  channel : Option String
  mention : Option String
  format : Option MessageFormat
  template : Option String
  send_attempts : ℕ
  last_sent_unix : Option ℕ
  delivery_id : String

structure AckedDelivery where
  identities : List String
  kind : String
  conclusion : Option String
  run_id : Option String
  run_attempt : ℕ
  workflow : String
  sha : String
  pr_number : Option ℕ
  repo_name : String
  acked_unix : ℕ

namespace AckedDelivery

def fromPending (pending : PendingCiDelivery) (now : ℕ) : AckedDelivery where
  identities := pending.identities
  kind := pending.kind
  conclusion := pending.conclusion
  run_id := pending.run_id
  run_attempt := runAttemptOrOne pending.run_attempt
  workflow := pending.workflow
  sha := pending.sha
  pr_number := pending.pr_number
  repo_name := pending.repo_name
  acked_unix := now

def matchesPending (acked : AckedDelivery) (pending : PendingCiDelivery) : Bool :=
  let selfChecks := pendingCheckIdentities acked.identities
  let pendingChecks := pendingCheckIdentities pending.identities
  let selfHasRun := acked.run_id.isSome
  let pendingHasRun := pending.run_id.isSome
  let sameAttempt := runAttemptOrOne acked.run_attempt == runAttemptOrOne pending.run_attempt
  if acked.repo_name != pending.repo_name then false
  else if acked.kind != pending.kind || acked.conclusion != pending.conclusion then false
  else if !selfChecks.isEmpty && !pendingChecks.isEmpty then
    if !shareIdentity selfChecks pendingChecks then false
    else if selfHasRun && pendingHasRun then acked.run_id == pending.run_id && sameAttempt
    else sameAttempt && (!selfHasRun || !pendingHasRun || acked.run_id == pending.run_id)
  else if selfHasRun && pendingHasRun then
    acked.run_id == pending.run_id && sameAttempt && acked.workflow == pending.workflow
  else
    let checkToFallback :=
      (!selfChecks.isEmpty && pendingChecks.isEmpty && !pendingHasRun) ||
        (!pendingChecks.isEmpty && selfChecks.isEmpty && !selfHasRun)
    if !checkToFallback &&
        (selfHasRun || pendingHasRun || !selfChecks.isEmpty || !pendingChecks.isEmpty) then false
    else
      acked.sha == pending.sha && acked.workflow == pending.workflow &&
        acked.pr_number == pending.pr_number && sameAttempt

def mergeAliases (acked : AckedDelivery) (pending : PendingCiDelivery) : AckedDelivery :=
  { acked with
    identities := addIdentities acked.identities pending.identities
    run_id := acked.run_id.or pending.run_id
    run_attempt :=
      if acked.run_id.isNone && pending.run_id.isSome then runAttemptOrOne pending.run_attempt
      else acked.run_attempt
    sha := if acked.sha.isEmpty then pending.sha else acked.sha }

end AckedDelivery

namespace PendingCiDelivery

def fallbackMatches (left right : PendingCiDelivery) : Bool :=
  left.sha == right.sha && left.workflow == right.workflow && left.pr_number == right.pr_number &&
    runAttemptOrOne left.run_attempt == runAttemptOrOne right.run_attempt

def sameEvent (left right : PendingCiDelivery) : Bool :=
  let selfChecks := pendingCheckIdentities left.identities
  let otherChecks := pendingCheckIdentities right.identities
  let sameAttempt := runAttemptOrOne left.run_attempt == runAttemptOrOne right.run_attempt
  if left.kind != right.kind || left.conclusion != right.conclusion then false
  else if !selfChecks.isEmpty && !otherChecks.isEmpty then
    if !shareIdentity selfChecks otherChecks then false
    else if left.run_id.isSome && right.run_id.isSome then left.run_id == right.run_id && sameAttempt
    else sameAttempt && (left.run_id.isNone || right.run_id.isNone || left.run_id == right.run_id)
  else if !selfChecks.isEmpty then
    (pendingRunIdentities right.identities).isEmpty && fallbackMatches left right
  else if !otherChecks.isEmpty then
    (pendingRunIdentities left.identities).isEmpty && fallbackMatches left right
  else if left.run_id.isSome && right.run_id.isSome then
    left.run_id == right.run_id && sameAttempt && left.workflow == right.workflow
  else fallbackMatches left right

end PendingCiDelivery

def mergePendingRetryState (dest source : PendingCiDelivery) : PendingCiDelivery :=
  { dest with
    send_attempts := max dest.send_attempts source.send_attempts
    last_sent_unix :=
      match dest.last_sent_unix, source.last_sent_unix with
      | some left, some right => some (max left right)
      | some value, none => some value
      | none, some value => some value
      | none, none => none }

end Clawhip.Ci
