import Clawhip.Ci.Records
import Clawhip.Lib.Absorb

/-!
# Baselines and their merges

The CI baseline of a repository, as `src/source/github.rs` keeps it in memory and in its file, and the
operations on it: the windows of current runs, the cap on terminal runs, `merge_repo_baseline`, the
compaction of acknowledgements, loading and committing. A queue is a list with its oldest entry first.
-/

namespace Clawhip.Ci

structure RepoCIBaseline where
  terminal_runs : List TerminalRunRecord := []
  pending : List PendingCiDelivery := []
  acked : List AckedDelivery := []
  dead_letter : List PendingCiDelivery := []
  epoch : ℕ := 0
  min_writer_epoch : ℕ := 0
  ci_established : Bool := false
  current_window_ids : List String := []
  current_window_ids_by_scope : OrdMap String (List String) := []
  current_window_generations : OrdMap String ℕ := []
  window_generation : ℕ := 0

abbrev CIBaseline := OrdMap String RepoCIBaseline

/-- `u64::saturating_add(1)`. -/
def saturatingSucc (n : ℕ) : ℕ := min (n + 1) (2 ^ 64 - 1)

/-- Drop the oldest entries of a queue beyond a length. -/
def keepLast {α : Type} (n : ℕ) (l : List α) : List α := l.drop (l.length - n)

/-! ## Windows -/

/-- `canonical_window_identities`: each identity once, where it comes first. -/
def canonicalWindowIdentities (ids : List String) : List String := addIdentities [] ids

def canonicalizeCurrentWindowIdsFrom (ids : List String) : List String :=
  keepLast MAX_CURRENT_WINDOW_IDS_PER_SCOPE (canonicalWindowIdentities ids)

def canonicalizeLoadedWindow (repo : RepoCIBaseline) : RepoCIBaseline :=
  let repo :=
    if repo.current_window_ids_by_scope.isEmpty && !repo.current_window_ids.isEmpty then
      { repo with
        current_window_ids_by_scope := [("legacy", repo.current_window_ids)]
        current_window_generations :=
          repo.current_window_generations.insert "legacy" repo.window_generation }
    else repo
  let scopes : OrdMap String (List String) :=
    repo.current_window_ids_by_scope.map fun (scope, ids) =>
      (scope, canonicalizeCurrentWindowIdsFrom ids)
  { repo with
    current_window_ids_by_scope := scopes
    current_window_ids := canonicalWindowIdentities (scopes.flatMap Prod.snd)
    current_window_generations := repo.current_window_generations.filter fun entry => (scopes.get entry.1).isSome }

/-! ## The cap -/

/-- The order of the keys by which records are evicted. -/
def evictionLe (left right : ℕ × String × ℕ × String) : Bool :=
  decide (left.1 < right.1) || (left.1 == right.1 && (decide (left.2.1 < right.2.1) || (left.2.1 == right.2.1 &&
      (decide (left.2.2.1 < right.2.2.1) || (left.2.2.1 == right.2.2.1 && decide (left.2.2.2 ≤ right.2.2.2))))))

/-- Drop the first `excess` records that are not protected. -/
def evict (keepIds : List String) : ℕ → List TerminalRunRecord → List TerminalRunRecord
  | _, [] => []
  | 0, records => records
  | excess + 1, record :: records =>
    if shareIdentity record.uniqueIdentities keepIds then record :: evict keepIds (excess + 1) records
    else evict keepIds excess records

/-- `cap_repo_baseline_keeping_ids` on the terminal runs. -/
def capTerminalRuns (keepIds : List String) (records : List TerminalRunRecord) :
    List TerminalRunRecord :=
  if records.length ≤ MAX_BASELINE_RUNS_PER_REPO then records
  else
    evict keepIds (records.length - MAX_BASELINE_RUNS_PER_REPO)
      (records.mergeSort fun left right => evictionLe left.evictionKey right.evictionKey)

/-! ## Acknowledgements and the outbox -/

def pendingIsAcked (acked : List AckedDelivery) (delivery : PendingCiDelivery) : Bool :=
  acked.any fun item => item.matchesPending delivery

/-- A dead letter of the delivery's repository is the same event. -/
def isDeadLetter (deadLetter : List PendingCiDelivery) (delivery : PendingCiDelivery) : Bool :=
  deadLetter.any fun dead => dead.sameEvent delivery && dead.repo_name == delivery.repo_name

/-- The entries that stay pending beside acknowledgements and dead letters. -/
def retainPending (repo : RepoCIBaseline) : List PendingCiDelivery :=
  repo.pending.filter fun pending =>
    !pendingIsAcked repo.acked pending && !isDeadLetter repo.dead_letter pending

def recordAcked (now : ℕ) (repo : RepoCIBaseline) (delivery : PendingCiDelivery) : RepoCIBaseline :=
  { repo with
    acked := absorb (·.matchesPending delivery) (·.mergeAliases delivery)
      (AckedDelivery.fromPending delivery now) repo.acked }

def compactAcked (now : ℕ) (repo : RepoCIBaseline) : RepoCIBaseline :=
  let acked := repo.acked.filter fun item => now - item.acked_unix < ACK_RETENTION_SECS
  { repo with
    acked := acked
    min_writer_epoch :=
      if acked.length < repo.acked.length then max repo.min_writer_epoch repo.epoch
      else repo.min_writer_epoch }

def normalizeRepoOutbox (repo : RepoCIBaseline) : RepoCIBaseline :=
  let repo := { repo with dead_letter := keepLast MAX_DEAD_LETTER repo.dead_letter }
  { repo with pending := retainPending repo }

/-! ## Merging -/

/-- A writer fenced by `min_writer_epoch`. -/
def isStale (dest source : RepoCIBaseline) : Bool :=
  decide (0 < dest.min_writer_epoch) && decide (source.epoch ≤ dest.min_writer_epoch)

/-- One scope of the source's windows. -/
def mergeWindow (stale : Bool) (source dest : RepoCIBaseline) (window : String × List String) :
    RepoCIBaseline :=
  let (scope, ids) := window
  let sourceGeneration :=
    (source.current_window_generations.get scope).getD source.window_generation
  let destGeneration := (dest.current_window_generations.get scope).getD dest.window_generation
  if stale || sourceGeneration ≤ destGeneration then
    if (dest.current_window_ids_by_scope.get scope).isSome then dest
    else
      { dest with
        current_window_ids_by_scope := dest.current_window_ids_by_scope.insert scope ids }
  else
    { dest with
      current_window_ids_by_scope := dest.current_window_ids_by_scope.insert scope ids
      current_window_generations := dest.current_window_generations.insert scope sourceGeneration }

/-- The windows that a source brings. -/
def sourceWindows (source : RepoCIBaseline) : OrdMap String (List String) :=
  if source.current_window_ids_by_scope.isEmpty && !source.current_window_ids.isEmpty then
    [("legacy", source.current_window_ids)]
  else source.current_window_ids_by_scope

def mergeWindows (dest source : RepoCIBaseline) : RepoCIBaseline :=
  let merged := (sourceWindows source).foldl (mergeWindow (isStale dest source) source)
    (canonicalizeLoadedWindow dest)
  canonicalizeLoadedWindow
    { merged with window_generation := max merged.window_generation source.window_generation }

/-- What an existing record takes from the same run's record. -/
def mergeRecord (existing record : TerminalRunRecord) : TerminalRunRecord :=
  { existing with
    identities := addIdentities existing.identities record.identities
    run_id := existing.run_id.or record.run_id
    created_at := existing.created_at.or record.created_at }

/-- One terminal run of the source. -/
def mergeTerminalRun (records : List TerminalRunRecord) (record : TerminalRunRecord) :
    List TerminalRunRecord :=
  absorb (terminalRecordsSameRun · record) (mergeRecord · record) record records

/-- The terminal runs of a merge, before the cap. -/
def mergeTerminalRuns (dest source : List TerminalRunRecord) : List TerminalRunRecord :=
  source.foldl mergeTerminalRun dest

/-- The test by which `merge_repo_baseline` takes two acknowledgements to be the same. -/
def sameAck (candidate acked : AckedDelivery) : Bool :=
  candidate.repo_name == acked.repo_name && candidate.kind == acked.kind &&
    candidate.conclusion == acked.conclusion &&
    runAttemptOrOne candidate.run_attempt == runAttemptOrOne acked.run_attempt &&
    (shareIdentity (pendingCheckIdentities candidate.identities) (pendingCheckIdentities acked.identities) ||
      (candidate.run_id.isSome && candidate.run_id == acked.run_id && candidate.workflow == acked.workflow))

/-- One acknowledgement of the source. -/
def mergeAck (ackeds : List AckedDelivery) (acked : AckedDelivery) : List AckedDelivery :=
  absorb (sameAck · acked)
    (fun existing => { existing with
      identities := addIdentities existing.identities acked.identities }) acked ackeds

/-- One dead letter of the source. -/
def mergeDeadLetter (deadLetter : List PendingCiDelivery) (dead : PendingCiDelivery) :
    List PendingCiDelivery :=
  if deadLetter.any (·.sameEvent dead) then deadLetter else deadLetter ++ [dead]

/-- One pending entry of the source. -/
def mergePending (stale : Bool) (acked : List AckedDelivery) (deadLetter : List PendingCiDelivery)
    (pending : List PendingCiDelivery) (delivery : PendingCiDelivery) : List PendingCiDelivery :=
  if stale || pendingIsAcked acked delivery || isDeadLetter deadLetter delivery then pending
  else absorb (·.sameEvent delivery) (mergePendingRetryState · delivery) delivery pending

def mergeRepoBaseline (dest source : RepoCIBaseline) : RepoCIBaseline :=
  let stale := isStale dest source
  let dest := mergeWindows dest source
  let dest := { dest with
    terminal_runs := capTerminalRuns dest.current_window_ids
      (mergeTerminalRuns dest.terminal_runs source.terminal_runs)
    epoch := max dest.epoch source.epoch
    min_writer_epoch := max dest.min_writer_epoch source.min_writer_epoch
    ci_established := dest.ci_established || source.ci_established
    acked := source.acked.foldl mergeAck dest.acked
    dead_letter := keepLast MAX_DEAD_LETTER (source.dead_letter.foldl mergeDeadLetter dest.dead_letter) }
  let dest := { dest with
    pending := source.pending.foldl (mergePending stale dest.acked dest.dead_letter) dest.pending }
  { dest with pending := retainPending dest }

def mergeCiBaseline (dest source : CIBaseline) : CIBaseline :=
  source.foldl (fun dest (key, repo) => dest.insert key (mergeRepoBaseline ((dest.get key).getD {}) repo)) dest

/-! ## The file -/

/-- What `load_ci_baseline` makes of a repository it reads. -/
def loadRepo (repo : RepoCIBaseline) : RepoCIBaseline := normalizeRepoOutbox (canonicalizeLoadedWindow repo)

/-- What `commit_ci_baseline` makes of a repository after the merge. -/
def commitRepo (now : ℕ) (repo : RepoCIBaseline) : RepoCIBaseline :=
  normalizeRepoOutbox (compactAcked now { repo with epoch := saturatingSucc repo.epoch })

/-- `load_ci_baseline` of the text that a file holds; an unreadable file gives an empty baseline. -/
def loadCiBaseline (disk : CIBaseline) : CIBaseline := disk.map fun (key, repo) => (key, loadRepo repo)

/-- `commit_ci_baseline`: the baseline that is written, and returned. -/
def commitCiBaseline (now : ℕ) (disk localBaseline : CIBaseline) : CIBaseline :=
  (mergeCiBaseline (loadCiBaseline disk) localBaseline).map fun (key, repo) =>
    (key, commitRepo now repo)

/-! ## Keys -/

def canonicalizeGithubRepo (raw : String) : Option String :=
  let trimmed := (Text.trim raw).toList
  match trimmed.dropWhile (· ≠ '/') with
  | [] => none
  | _ :: rest =>
    let owner := Text.trim (String.ofList (trimmed.takeWhile (· ≠ '/')))
    let name := Text.trim (String.ofList rest)
    if owner.isEmpty || name.isEmpty || Text.contains name "/" then none
    else some (Text.toAsciiLowercase owner ++ "/" ++ Text.toAsciiLowercase name)

/-- The keys of a baseline that spell a repository's key in another way. -/
def otherSpellings (repoKey : String) (baseline : CIBaseline) : List String :=
  match Text.afterStart repoKey "repo:" with
  | none => []
  | some canonical =>
    (OrdMap.keys baseline).filter fun key =>
      key != repoKey && (Text.afterStart key "repo:").bind canonicalizeGithubRepo == some canonical

/-- Remove a key, and add what it held to what was removed before. -/
def takeKey (taken : CIBaseline × List RepoCIBaseline) (key : String) :
    CIBaseline × List RepoCIBaseline :=
  (OrdMap.erase taken.1 key, taken.2 ++ (OrdMap.get taken.1 key).toList)

/-- `CIBaseline::repo_baseline_mut`: what the older keys of a repository hold is moved to its key. -/
def repoBaselineMut (repoKey repoPath : String) (baseline : CIBaseline) : CIBaseline :=
  let pathKeys := if "path:" ++ repoPath ≠ repoKey then [repoPath, "path:" ++ repoPath] else [repoPath]
  let byPath := pathKeys.foldl takeKey (baseline, [])
  let (baseline, inherited) := (otherSpellings repoKey byPath.1).foldl takeKey byPath
  OrdMap.insert baseline repoKey
    (inherited.foldl mergeRepoBaseline ((OrdMap.get baseline repoKey).getD {}))

end Clawhip.Ci
