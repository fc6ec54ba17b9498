import Clawhip.Ci.Merging
import Mathlib.Logic.Relation

/-!
# Suppressed runs

What becomes of a terminal run that the baseline of `src/source/github.rs` has recorded. A record stands
for a snapshot if it shares a check identity with it, or if neither has one and they share a run
identity. A merge keeps every record's snapshots unless a record is absorbed by one that stands for
another kind of snapshots (`Fits`); recording, loading and committing keep them, and so does every run
of these (`suppression_kept`).
-/

namespace Clawhip.Ci

open List TerminalRunRecord Text

/-! ## Recording -/

/-- `repo_ci_baseline_is_suppressed` of a baseline that is there. -/
def isSuppressed (records : List TerminalRunRecord) (ci : GitHubCISnapshot) : Bool := records.any (·.matchesSnapshot ci)

/-- One terminal snapshot of `record_terminal_runs_filtered`. -/
def recordSnapshot (records : List TerminalRunRecord) (ci : GitHubCISnapshot) :
    List TerminalRunRecord :=
  absorb (·.matchesSnapshot ci) (·.mergeSnapshot ci) (TerminalRunRecord.fromSnapshot ci) records

/-- The terminal snapshots that are recorded, oldest first. -/
def incomingRuns (current : List GitHubCISnapshot) (included : GitHubCISnapshot → Bool) :
    List GitHubCISnapshot :=
  (current.filter fun ci => ci.isTerminal && included ci).mergeSort fun left right =>
    evictionLe (TerminalRunRecord.fromSnapshot left).evictionKey
      (TerminalRunRecord.fromSnapshot right).evictionKey

/-- `record_terminal_runs_filtered` at the baseline of the repository. `generation` is the window's
generation, taken from the clock where the source passes 0. -/
def recordTerminalRunsFiltered (windowScope : String) (current : List GitHubCISnapshot)
    (generation : ℕ) (windowComplete : Bool) (included : GitHubCISnapshot → Bool)
    (repo : RepoCIBaseline) : RepoCIBaseline :=
  let incoming := incomingRuns current included
  let repo := { repo with terminal_runs := incoming.foldl recordSnapshot repo.terminal_runs }
  let existingGeneration := (repo.current_window_generations.get windowScope).getD 0
  let repo :=
    if windowComplete && existingGeneration ≤ generation then
      { repo with
        window_generation := max repo.window_generation generation
        current_window_ids_by_scope := repo.current_window_ids_by_scope.insert windowScope
          (canonicalizeCurrentWindowIdsFrom (incoming.flatMap (·.uniqueIdentities)))
        current_window_generations :=
          repo.current_window_generations.insert windowScope generation }
    else repo
  let repo := canonicalizeLoadedWindow repo
  let keepIds := repo.current_window_ids ++ (if windowComplete then [] else incoming.flatMap (·.uniqueIdentities))
  { repo with terminal_runs := capTerminalRuns keepIds repo.terminal_runs }

/-- What `collect_ci_events` reports of a snapshot: `old` is the snapshot of the same run that the last
poll saw. -/
def isReported (old : Option GitHubCISnapshot) (established : Bool) (records : List TerminalRunRecord)
    (ci : GitHubCISnapshot) : Bool :=
  match old with
  | some old =>
    if ci.isTerminal then !old.isTerminal || old.conclusion != ci.conclusion
    else if ci.status != "completed" then
      old.status != ci.status || old.conclusion != ci.conclusion
    else false
  | none =>
    if ci.status != "completed" then true
    else if ci.isTerminal then established && !isSuppressed records ci
    else false

/-! ## Lists of identities -/

variable {extra ids : List String} {identity : String} {ci ci' : GitHubCISnapshot}
  {record : TerminalRunRecord} {dest source repo repo' : RepoCIBaseline} {records : List TerminalRunRecord}
  {current : List GitHubCISnapshot} {included : GitHubCISnapshot → Bool}

theorem mem_addIdentities : identity ∈ addIdentities ids extra ↔ identity ∈ ids ∨ identity ∈ extra := by
  unfold addIdentities
  induction extra generalizing ids with
  | nil => simp
  | cons e extra ih =>
    rw [foldl_cons, ih, mem_cons]
    by_cases he : ids.contains e = true
    · rw [if_pos he]
      have hmem : e ∈ ids := contains_iff_mem.mp he
      constructor
      · rintro (h | h)
        · exact .inl h
        · exact .inr (.inr h)
      · rintro (h | rfl | h)
        · exact .inl h
        · exact .inl hmem
        · exact .inr h
    · rw [if_neg he, mem_append, mem_singleton, or_assoc]

theorem shareIdentity_iff {left right : List String} :
    shareIdentity left right = true ↔ ∃ identity, identity ∈ left ∧ identity ∈ right := by
  simp [shareIdentity]

theorem mem_pendingCheckIdentities : identity ∈ pendingCheckIdentities ids ↔
      identity ∈ ids ∧ startsWith identity "check:" = true := mem_filter

/-- Whether a record stands for check runs. -/
def hasChecks (identities : List String) : Prop := ∃ identity ∈ identities, Text.startsWith identity "check:" = true

instance (identities : List String) : Decidable (hasChecks identities) :=
  inferInstanceAs (Decidable (∃ identity ∈ identities, Text.startsWith identity "check:" = true))

theorem isEmpty_pendingCheckIdentities (ids : List String) :
    (pendingCheckIdentities ids).isEmpty = false ↔ hasChecks ids := by
  rw [isEmpty_eq_false_iff_exists_mem]
  simp only [mem_pendingCheckIdentities]
  rfl

theorem hasChecks_addIdentities : hasChecks (addIdentities ids extra) ↔ hasChecks ids ∨ hasChecks extra := by
  unfold hasChecks
  simp only [mem_addIdentities, or_and_right, exists_or]

/-- The snapshots that a record stands for. -/
theorem matchesSnapshot_iff : record.matchesSnapshot ci = true ↔
      (∃ identity, identity ∈ record.identities ∧ identity ∈ ci.uniqueIdentities ∧
        (hasChecks record.identities → startsWith identity "check:" = true)) ∧
      (hasChecks record.identities ↔ hasChecks ci.uniqueIdentities) ∧
      runAttemptOrOne record.run_attempt = ci.runAttempt ∧ record.conclusion = ci.conclusion := by
  unfold matchesSnapshot
  dsimp only
  have hrec := isEmpty_pendingCheckIdentities record.identities
  have hsnap := isEmpty_pendingCheckIdentities ci.uniqueIdentities
  by_cases hr : hasChecks record.identities
  · by_cases hs : hasChecks ci.uniqueIdentities
    · rw [hrec.mpr hr, hsnap.mpr hs, Bool.not_false, Bool.and_self, if_pos rfl]
      simp only [Bool.and_eq_true, beq_iff_eq, shareIdentity_iff, mem_pendingCheckIdentities]
      constructor
      · rintro ⟨⟨⟨identity, ⟨hin, hcheck⟩, hin', -⟩, hattempt⟩, hconclusion⟩
        exact ⟨⟨identity, hin, hin', fun _ => hcheck⟩, iff_of_true hr hs, hattempt, hconclusion⟩
      · rintro ⟨⟨identity, hin, hin', hcheck⟩, -, hattempt, hconclusion⟩
        exact ⟨⟨⟨identity, ⟨hin, hcheck hr⟩, hin', hcheck hr⟩, hattempt⟩, hconclusion⟩
    · have hempty : (pendingCheckIdentities ci.uniqueIdentities).isEmpty = true := by
        rw [← Bool.not_eq_false, hsnap]
        exact hs
      rw [hrec.mpr hr, hempty]
      simp [hr, hs]
  · have hempty : (pendingCheckIdentities record.identities).isEmpty = true := by
      rw [← Bool.not_eq_false, hrec]
      exact hr
    by_cases hs : hasChecks ci.uniqueIdentities
    · rw [hempty, hsnap.mpr hs]
      simp [hr, hs]
    · have hempty' : (pendingCheckIdentities ci.uniqueIdentities).isEmpty = true := by
        rw [← Bool.not_eq_false, hsnap]
        exact hs
      rw [hempty, hempty']
      simp only [Bool.not_true, Bool.and_self, Bool.or_self, Bool.false_eq_true, if_false,
        Bool.and_eq_true, beq_iff_eq, shareIdentity_iff, hr, hs, false_imp_iff, and_true, true_and]
      constructor
      · rintro ⟨⟨⟨identity, hin', hin⟩, hattempt⟩, hconclusion⟩
        exact ⟨⟨identity, hin, hin'⟩, hattempt, hconclusion⟩
      · rintro ⟨⟨identity, hin, hin'⟩, hattempt, hconclusion⟩
        exact ⟨⟨⟨identity, hin', hin⟩, hattempt⟩, hconclusion⟩

/-! ## Identities of snapshots -/

theorem startsWith_append (start rest : String) : startsWith (start ++ rest) start = true := by
  unfold startsWith
  rw [String.toList_append, isPrefixOf_iff_prefix]
  exact prefix_append _ _

/-- What starts with a text starts with its first character. -/
theorem head?_of_startsWith {text start : String} {c : Char} (hstart : start.toList.head? = some c)
    (h : startsWith text start = true) : text.toList.head? = some c := by
  obtain ⟨rest, hrest⟩ := isPrefixOf_iff_prefix.mp h
  rw [← hrest, head?_append, hstart]
  rfl

variable (runId : String) (attempt : ℕ)

theorem runIdentity_eq : ∃ rest, runIdentity runId attempt = "run:" ++ rest := by
  unfold runIdentity
  dsimp only
  split
  · exact ⟨runId, rfl⟩
  · exact ⟨runId ++ ":" ++ toString (runAttemptOrOne attempt), by simp [String.append_assoc]⟩

theorem head?_runIdentity : (runIdentity runId attempt).toList.head? = some 'r' := by
  obtain ⟨rest, hrest⟩ := runIdentity_eq runId attempt
  rw [hrest]
  exact head?_of_startsWith rfl (startsWith_append "run:" rest)

theorem not_check_runIdentity : ¬ startsWith (runIdentity runId attempt) "check:" = true := by
  intro h
  have hhead := head?_of_startsWith (c := 'c') rfl h
  rw [head?_runIdentity] at hhead
  cases hhead

/-- The fallback identity starts with a digit or with `none`. -/
theorem head?_fallbackIdentity (ci : GitHubCISnapshot) :
    ∃ c, ci.fallbackIdentity.toList.head? = some c ∧ (c.isDigit = true ∨ c = 'n') := by
  unfold GitHubCISnapshot.fallbackIdentity
  cases ci.pr_number with
  | none =>
    refine ⟨'n', ?_, .inr rfl⟩
    simp
  | some n =>
    obtain ⟨c, cs, hdigits⟩ := exists_cons_of_ne_nil (Nat.toDigits_ne_nil (n := n) (b := 10))
    refine ⟨c, ?_, .inl (Nat.isDigit_of_mem_toDigits (b := 10) (n := n) (by decide) (by decide) ?_)⟩
    · simp [hdigits]
    · exact hdigits ▸ mem_cons_self

theorem not_unique_fallbackIdentity (ci : GitHubCISnapshot) :
    ¬ startsWith ci.fallbackIdentity "check:" = true ∧ ¬ startsWith ci.fallbackIdentity "run:" = true := by
  obtain ⟨c, hhead, hc⟩ := head?_fallbackIdentity ci
  constructor
  · intro h
    rw [head?_of_startsWith (c := 'c') rfl h] at hhead
    cases hhead
    rcases hc with hc | hc
    · exact absurd hc (by decide)
    · exact absurd hc (by decide)
  · intro h
    rw [head?_of_startsWith (c := 'r') rfl h] at hhead
    cases hhead
    rcases hc with hc | hc
    · exact absurd hc (by decide)
    · exact absurd hc (by decide)

theorem mem_uniqueIdentities : identity ∈ ci.uniqueIdentities ↔
      (∃ runId, ci.run_id = some runId ∧ identity = runIdentity runId ci.runAttempt) ∨
      ∃ checkRunId, ci.check_run_id = some checkRunId ∧ identity = "check:" ++ checkRunId := by
  unfold GitHubCISnapshot.uniqueIdentities
  cases ci.run_id <;> cases ci.check_run_id <;> simp

/-- Every identity of a snapshot other than the fallback names a run or a check run. -/
theorem startsWith_of_mem_uniqueIdentities (h : identity ∈ ci.uniqueIdentities) :
    (startsWith identity "run:" || startsWith identity "check:") = true := by
  rcases mem_uniqueIdentities.mp h with ⟨runId, -, rfl⟩ | ⟨checkRunId, -, rfl⟩
  · obtain ⟨rest, hrest⟩ := runIdentity_eq runId ci.runAttempt
    rw [hrest, startsWith_append, Bool.true_or]
  · rw [startsWith_append, Bool.or_true]

theorem hasChecks_uniqueIdentities : hasChecks ci.uniqueIdentities ↔ ci.check_run_id.isSome = true := by
  constructor
  · rintro ⟨identity, hmem, hcheck⟩
    rcases mem_uniqueIdentities.mp hmem with ⟨runId, -, rfl⟩ | ⟨checkRunId, hsome, -⟩
    · exact absurd hcheck (not_check_runIdentity _ _)
    · rw [hsome]
      rfl
  · intro hsome
    obtain ⟨checkRunId, hcheck⟩ := Option.isSome_iff_exists.mp hsome
    exact ⟨"check:" ++ checkRunId, mem_uniqueIdentities.mpr (.inr ⟨checkRunId, hcheck, rfl⟩), startsWith_append _ _⟩

theorem hasChecks_identities : hasChecks ci.identities ↔ hasChecks ci.uniqueIdentities := by
  unfold hasChecks GitHubCISnapshot.identities
  simp only [mem_append, mem_singleton, or_and_right, exists_or, exists_eq_left,
    (not_unique_fallbackIdentity ci).1, Bool.false_eq_true, or_false]

theorem mem_record_uniqueIdentities : identity ∈ record.uniqueIdentities ↔ identity ∈ record.identities ∧
      (startsWith identity "run:" || startsWith identity "check:") = true :=
  mem_filter

/-! ## Records that take in others -/

theorem runAttemptOrOne_runAttemptOrOne (n : ℕ) : runAttemptOrOne (runAttemptOrOne n) = runAttemptOrOne n := by
  unfold runAttemptOrOne
  omega

/-- A record that takes in a snapshot it stands for keeps its snapshots, and gets those of the new
one. -/
theorem matches_mergeSnapshot (hrecord : record.matchesSnapshot ci = true)
    (h : record.matchesSnapshot ci' = true ∨ (fromSnapshot ci).matchesSnapshot ci' = true) :
    (record.mergeSnapshot ci).matchesSnapshot ci' = true := by
  obtain ⟨-, hchecks, hattempt, hconclusion⟩ := matchesSnapshot_iff.mp hrecord
  have hmerged : hasChecks (record.mergeSnapshot ci).identities ↔ hasChecks record.identities := by
    rw [mergeSnapshot, hasChecks_addIdentities, hasChecks_identities, ← hchecks, or_self]
  rw [matchesSnapshot_iff, hmerged]
  rcases h with h | h
  · obtain ⟨⟨identity, hin, hin', hcheck⟩, hchecks', hattempt', hconclusion'⟩ := matchesSnapshot_iff.mp h
    exact ⟨⟨identity, mem_addIdentities.mpr (.inl hin), hin', hcheck⟩, hchecks', hattempt', hconclusion'⟩
  · obtain ⟨⟨identity, hin, hin', hcheck⟩, hchecks', hattempt', hconclusion'⟩ := matchesSnapshot_iff.mp h
    have hfrom : hasChecks (fromSnapshot ci).identities ↔ hasChecks record.identities := by
      rw [hchecks]
      exact hasChecks_identities
    rw [hfrom] at hcheck hchecks'
    refine ⟨⟨identity, mem_addIdentities.mpr (.inr hin), hin', hcheck⟩, hchecks', ?_, ?_⟩
    · rw [← hattempt', fromSnapshot]
      exact hattempt.trans (runAttemptOrOne_runAttemptOrOne _).symm
    · exact hconclusion.trans hconclusion'

/-- A record that is absorbed stands for snapshots of the same kind as the one that absorbs it: both
for check runs or neither, or one of them for none; and if the one that absorbs names no run, the
attempt and the conclusion are the same. -/
def Fits (existing record : TerminalRunRecord) : Prop :=
  record.uniqueIdentities = [] ∨ (existing.uniqueIdentities = [] ∧
      runAttemptOrOne existing.run_attempt = runAttemptOrOne record.run_attempt ∧
      existing.conclusion = record.conclusion) ∨
    (existing.uniqueIdentities ≠ [] ∧ (hasChecks existing.identities ↔ hasChecks record.identities))

instance (existing record : TerminalRunRecord) : Decidable (Fits existing record) :=
  inferInstanceAs (Decidable (_ ∨ _ ∨ _))

theorem uniqueIdentities_ne_nil (h : record.matchesSnapshot ci = true) : record.uniqueIdentities ≠ [] := by
  obtain ⟨⟨identity, hin, hin', -⟩, -⟩ := matchesSnapshot_iff.mp h
  exact ne_nil_of_mem (mem_record_uniqueIdentities.mpr ⟨hin, startsWith_of_mem_uniqueIdentities hin'⟩)

theorem not_hasChecks_of_nil (h : record.uniqueIdentities = []) : ¬ hasChecks record.identities := by
  rintro ⟨identity, hin, hcheck⟩
  have hmem := mem_record_uniqueIdentities.mpr ⟨hin, by rw [hcheck, Bool.or_true]⟩
  rw [h] at hmem
  cases hmem

/-- Two records of the same run that both name runs have the same attempt and conclusion. -/
theorem same_attempt_of_sameRun {left right : TerminalRunRecord}
    (h : terminalRecordsSameRun left right = true) (hleft : left.uniqueIdentities ≠ [])
    (hright : right.uniqueIdentities ≠ []) :
    runAttemptOrOne left.run_attempt = runAttemptOrOne right.run_attempt ∧ left.conclusion = right.conclusion := by
  unfold terminalRecordsSameRun at h
  dsimp only at h
  split at h
  · simp only [Bool.and_eq_true, beq_iff_eq] at h
    exact ⟨h.1.2, h.2⟩
  · rw [if_pos (by simp [hleft, hright])] at h
    simp only [Bool.and_eq_true, beq_iff_eq] at h
    exact ⟨h.1.2, h.2⟩

/-- A record that absorbs a fitting one keeps its snapshots, and gets those of the other. -/
theorem matches_mergeRecord {existing : TerminalRunRecord}
    (hsame : terminalRecordsSameRun existing record = true) (hfits : Fits existing record)
    (h : existing.matchesSnapshot ci = true ∨ record.matchesSnapshot ci = true) :
    (mergeRecord existing record).matchesSnapshot ci = true := by
  have hmerged : hasChecks (mergeRecord existing record).identities ↔
      hasChecks existing.identities ∨ hasChecks record.identities := hasChecks_addIdentities
  rw [matchesSnapshot_iff, hmerged]
  rcases h with h | h
  · have hne := uniqueIdentities_ne_nil h
    obtain ⟨⟨identity, hin, hin', hcheck⟩, hchecks, hattempt, hconclusion⟩ := matchesSnapshot_iff.mp h
    have hor : hasChecks existing.identities ∨ hasChecks record.identities ↔ hasChecks existing.identities := by
      rcases hfits with hnil | ⟨hnil, -⟩ | ⟨-, hiff⟩
      · exact or_iff_left (not_hasChecks_of_nil hnil)
      · exact absurd hnil hne
      · rw [← hiff, or_self]
    rw [hor]
    exact ⟨⟨identity, mem_addIdentities.mpr (.inl hin), hin', hcheck⟩, hchecks, hattempt, hconclusion⟩
  · have hne := uniqueIdentities_ne_nil h
    obtain ⟨⟨identity, hin, hin', hcheck⟩, hchecks, hattempt, hconclusion⟩ := matchesSnapshot_iff.mp h
    have hor : (hasChecks existing.identities ∨ hasChecks record.identities ↔ hasChecks record.identities) ∧
        runAttemptOrOne existing.run_attempt = runAttemptOrOne record.run_attempt ∧
        existing.conclusion = record.conclusion := by
      rcases hfits with hnil | ⟨hnil, hsame'⟩ | ⟨hne', hiff⟩
      · exact absurd hnil hne
      · exact ⟨or_iff_right (not_hasChecks_of_nil hnil), hsame'⟩
      · exact ⟨by rw [hiff, or_self], same_attempt_of_sameRun hsame hne' hne⟩
    rw [hor.1]
    exact ⟨⟨identity, mem_addIdentities.mpr (.inr hin), hin', hcheck⟩, hchecks,
      hor.2.1.trans hattempt, hor.2.2.trans hconclusion⟩

/-! ## Merges -/

/-- No record of the source is absorbed by one that it does not fit, where each is compared with what
the ones before it have made of the records. -/
def MergesClean : List TerminalRunRecord → List TerminalRunRecord → Prop
  | _, [] => True
  | records, record :: source =>
    (∀ existing ∈ records.find? (terminalRecordsSameRun · record), Fits existing record) ∧
      MergesClean (mergeTerminalRun records record) source

instance decidableMergesClean : ∀ records source, Decidable (MergesClean records source)
  | _, [] => isTrue trivial
  | records, record :: source =>
    have := decidableMergesClean (mergeTerminalRun records record) source
    inferInstanceAs (Decidable (_ ∧ _))

/-- A clean merge of records keeps every suppressed run. -/
theorem isSuppressed_mergeTerminalRuns {dest source : List TerminalRunRecord}
    (hclean : MergesClean dest source) (h : isSuppressed dest ci = true ∨ isSuppressed source ci = true) :
    isSuppressed (mergeTerminalRuns dest source) ci = true := by
  induction source generalizing dest with
  | nil =>
    rcases h with h | h
    · exact h
    · cases h
  | cons record source ih =>
    refine ih hclean.2 ?_
    have hstep : dest.any (·.matchesSnapshot ci) = true ∨ record.matchesSnapshot ci = true →
        isSuppressed (mergeTerminalRun dest record) ci = true := by
      refine any_absorb fun existing hfind hmatches => ?_
      have hsame := find?_some hfind
      exact matches_mergeRecord hsame (hclean.1 existing hfind) hmatches
    rcases h with h | h
    · exact .inl (hstep (.inl h))
    · rw [isSuppressed, any_cons, Bool.or_eq_true] at h
      rcases h with h | h
      · exact .inl (hstep (.inr h))
      · exact .inr h

theorem canonicalizeLoadedWindow_terminal_runs (repo : RepoCIBaseline) :
    (canonicalizeLoadedWindow repo).terminal_runs = repo.terminal_runs := by
  unfold canonicalizeLoadedWindow
  split
  · rfl
  · rfl

theorem mergeWindows_terminal_runs (dest source : RepoCIBaseline) :
    (mergeWindows dest source).terminal_runs = dest.terminal_runs := by
  have hwindow : ∀ stale windows repo,
      (foldl (mergeWindow stale source) repo windows).terminal_runs = repo.terminal_runs := by
    intro stale windows
    induction windows with
    | nil => exact fun _ => rfl
    | cons window windows ih =>
      intro repo
      rw [foldl_cons, ih]
      unfold mergeWindow
      dsimp only
      split
      · split
        · rfl
        · rfl
      · rfl
  unfold mergeWindows
  rw [canonicalizeLoadedWindow_terminal_runs]
  exact (hwindow _ _ _).trans (canonicalizeLoadedWindow_terminal_runs dest)

/-- The terminal runs of a merge that stays within the cap. -/
theorem mergeRepoBaseline_terminal_runs
    (hcap : (mergeTerminalRuns dest.terminal_runs source.terminal_runs).length ≤ MAX_BASELINE_RUNS_PER_REPO) :
    (mergeRepoBaseline dest source).terminal_runs = mergeTerminalRuns dest.terminal_runs source.terminal_runs := by
  unfold mergeRepoBaseline
  dsimp only
  rw [mergeWindows_terminal_runs, capTerminalRuns, if_pos hcap]

/-- A clean merge within the cap keeps every suppressed run. -/
theorem isSuppressed_mergeRepoBaseline (hclean : MergesClean dest.terminal_runs source.terminal_runs)
    (hcap : (mergeTerminalRuns dest.terminal_runs source.terminal_runs).length ≤ MAX_BASELINE_RUNS_PER_REPO)
    (h : isSuppressed dest.terminal_runs ci = true ∨ isSuppressed source.terminal_runs ci = true) :
    isSuppressed (mergeRepoBaseline dest source).terminal_runs ci = true := by
  rw [mergeRepoBaseline_terminal_runs hcap]
  exact isSuppressed_mergeTerminalRuns hclean h

/-! ## Recording -/

theorem isSuppressed_recordSnapshot (h : isSuppressed records ci' = true ∨
      (fromSnapshot ci).matchesSnapshot ci' = true) : isSuppressed (recordSnapshot records ci) ci' = true := by
  refine any_absorb (fun existing hfind hmatches => ?_) h
  have hexisting := find?_some hfind
  exact matches_mergeSnapshot hexisting hmatches

/-- Recording keeps the suppressed runs, and adds those of the new snapshots. -/
theorem isSuppressed_recordSnapshots {incoming : List GitHubCISnapshot} (h : isSuppressed records ci' = true ∨
      ∃ ci ∈ incoming, (fromSnapshot ci).matchesSnapshot ci' = true) :
    isSuppressed (incoming.foldl recordSnapshot records) ci' = true := by
  induction incoming generalizing records with
  | nil =>
    rcases h with h | ⟨ci, hci, -⟩
    · exact h
    · cases hci
  | cons ci incoming ih =>
    rw [foldl_cons]
    rcases h with h | ⟨ci₀, hci, hmatches⟩
    · exact ih (.inl (isSuppressed_recordSnapshot (.inl h)))
    · rcases mem_cons.mp hci with rfl | hci
      · exact ih (.inl (isSuppressed_recordSnapshot (.inr hmatches)))
      · exact ih (.inr ⟨ci₀, hci, hmatches⟩)

/-- The terminal runs after a recording that stays within the cap. -/
theorem recordTerminalRunsFiltered_terminal_runs {windowScope : String} {generation : ℕ} {windowComplete : Bool}
    (hcap : ((incomingRuns current included).foldl recordSnapshot repo.terminal_runs).length ≤
      MAX_BASELINE_RUNS_PER_REPO) :
    (recordTerminalRunsFiltered windowScope current generation windowComplete included repo).terminal_runs =
      (incomingRuns current included).foldl recordSnapshot repo.terminal_runs := by
  unfold recordTerminalRunsFiltered
  dsimp only
  rw [canonicalizeLoadedWindow_terminal_runs]
  split
  · rw [capTerminalRuns, if_pos hcap]
  · rw [capTerminalRuns, if_pos hcap]

/-! ## Runs -/

/-- The snapshot `ci'` shows the run of `ci` in the same way: as the same check run, or both times as a
run without check runs; and with the same attempt and conclusion. -/
def ShowsSameRun (ci ci' : GitHubCISnapshot) : Prop :=
  ((∃ checkRunId, ci.check_run_id = some checkRunId ∧ ci'.check_run_id = some checkRunId) ∨
    (ci.check_run_id = none ∧ ci'.check_run_id = none ∧ ∃ runId, ci.run_id = some runId ∧ ci'.run_id = some runId)) ∧
  ci.runAttempt = ci'.runAttempt ∧ ci.conclusion = ci'.conclusion

/-- What can become of the baseline of a repository: another poll records runs in it, it is merged
with another one in either direction (a commit into the file, or an older key moved), committed, loaded,
or changed in its outbox only. -/
inductive Step (repo : RepoCIBaseline) : RepoCIBaseline → Prop
  | recorded (windowScope : String) (current : List GitHubCISnapshot) (generation : ℕ)
      (windowComplete : Bool) (included : GitHubCISnapshot → Bool) :
      ((incomingRuns current included).foldl recordSnapshot repo.terminal_runs).length ≤
        MAX_BASELINE_RUNS_PER_REPO →
      Step repo (recordTerminalRunsFiltered windowScope current generation windowComplete included repo)
  | mergedInto (dest : RepoCIBaseline) :
      MergesClean dest.terminal_runs repo.terminal_runs →
      (mergeTerminalRuns dest.terminal_runs repo.terminal_runs).length ≤ MAX_BASELINE_RUNS_PER_REPO →
      Step repo (mergeRepoBaseline dest repo)
  | took (source : RepoCIBaseline) :
      MergesClean repo.terminal_runs source.terminal_runs →
      (mergeTerminalRuns repo.terminal_runs source.terminal_runs).length ≤ MAX_BASELINE_RUNS_PER_REPO →
      Step repo (mergeRepoBaseline repo source)
  | committed (now : ℕ) : Step repo (commitRepo now repo)
  | loaded : Step repo (loadRepo repo)
  | outbox (repo' : RepoCIBaseline) : repo'.terminal_runs = repo.terminal_runs → Step repo repo'

/-- Every step keeps every suppressed run. -/
theorem Step.isSuppressed (h : Step repo repo') (hci : isSuppressed repo.terminal_runs ci = true) :
    isSuppressed repo'.terminal_runs ci = true := by
  cases h with
  | recorded windowScope current generation windowComplete included hcap =>
    rw [recordTerminalRunsFiltered_terminal_runs hcap]
    exact isSuppressed_recordSnapshots (.inl hci)
  | mergedInto dest hclean hcap => exact isSuppressed_mergeRepoBaseline hclean hcap (.inr hci)
  | took source hclean hcap => exact isSuppressed_mergeRepoBaseline hclean hcap (.inl hci)
  | committed now => exact hci
  | loaded =>
    have hruns : (loadRepo repo).terminal_runs = repo.terminal_runs := canonicalizeLoadedWindow_terminal_runs repo
    rw [hruns]
    exact hci
  | outbox repo' hruns =>
    rw [hruns]
    exact hci

theorem isSuppressed_of_run (h : Relation.ReflTransGen Step repo repo')
    (hci : isSuppressed repo.terminal_runs ci = true) : isSuppressed repo'.terminal_runs ci = true := by
  induction h with
  | refl => exact hci
  | tail _ hstep ih => exact hstep.isSuppressed ih

/-- A suppressed run is not reported as a fresh result. -/
theorem not_isReported (hterminal : ci.isTerminal = true) (h : isSuppressed records ci = true)
    (established : Bool) : isReported none established records ci = false := by
  have hcompleted : ci.status = "completed" := by
    exact eq_of_beq (Bool.and_eq_true _ _ ▸ hterminal).1
  unfold isReported
  simp [hcompleted, hterminal, h]

theorem runIdentity_inj {runId runId' : String} {attempt : ℕ}
    (h : runIdentity runId attempt = runIdentity runId' attempt) : runId = runId' := by
  unfold runIdentity at h
  dsimp only at h
  have hlist := congrArg String.toList h
  split at hlist
  · simp only [String.toList_append] at hlist
    exact String.toList_inj.mp (append_cancel_left hlist)
  · simp only [String.toList_append] at hlist
    have hleft := append_cancel_right (append_cancel_right hlist)
    exact String.toList_inj.mp (append_cancel_left hleft)

/-- A fresh record stands for the snapshots that show its run in the same way. -/
theorem matches_fromSnapshot_iff : (fromSnapshot ci).matchesSnapshot ci' = true ↔ ShowsSameRun ci ci' := by
  have hattempts : runAttemptOrOne (fromSnapshot ci).run_attempt = ci.runAttempt := runAttemptOrOne_runAttemptOrOne _
  have hchecks : hasChecks (fromSnapshot ci).identities ↔
      ci.check_run_id.isSome = true := hasChecks_identities.trans hasChecks_uniqueIdentities
  rw [matchesSnapshot_iff, hattempts, hchecks, hasChecks_uniqueIdentities]
  constructor
  · rintro ⟨⟨identity, hin, hin', hcheck⟩, hiff, hattempt, hconclusion⟩
    refine ⟨?_, hattempt, hconclusion⟩
    -- The fallback identity is shared with no snapshot.
    have hunique : identity ∈ ci.uniqueIdentities := by
      rcases mem_append.mp hin with hin | hin
      · exact hin
      · rw [mem_singleton.mp hin] at hin'
        have hstarts := startsWith_of_mem_uniqueIdentities hin'
        obtain ⟨hcheck', hrun'⟩ := not_unique_fallbackIdentity ci
        rw [Bool.eq_false_iff.mpr hcheck', Bool.eq_false_iff.mpr hrun'] at hstarts
        cases hstarts
    rcases mem_uniqueIdentities.mp hunique with ⟨runId, hrun, rfl⟩ | ⟨checkRunId, hsome, rfl⟩
    · have hnone : ci.check_run_id = none := by
        cases hci : ci.check_run_id with
        | none => rfl
        | some checkRunId => exact absurd (hcheck (by rw [hci]; rfl)) (not_check_runIdentity _ _)
      have hnone' : ci'.check_run_id = none := by
        cases hci : ci'.check_run_id with
        | none => rfl
        | some checkRunId =>
          rw [hnone, hci] at hiff
          exact absurd (hiff.mpr rfl) (by simp)
      rcases mem_uniqueIdentities.mp hin' with ⟨runId', hrun', heq⟩ | ⟨checkRunId, hsome, -⟩
      · rw [hattempt] at heq
        rw [runIdentity_inj heq] at hrun
        exact .inr ⟨hnone, hnone', runId', hrun, hrun'⟩
      · rw [hnone'] at hsome
        cases hsome
    · rcases mem_uniqueIdentities.mp hin' with ⟨runId', -, heq⟩ | ⟨checkRunId', hsome', heq⟩
      · exact absurd (heq ▸ startsWith_append "check:" checkRunId) (not_check_runIdentity _ _)
      · have hsame : checkRunId = checkRunId' := by
          have hlist := congrArg String.toList heq
          simp only [String.toList_append] at hlist
          exact String.toList_inj.mp (append_cancel_left hlist)
        rw [hsame] at hsome
        exact .inl ⟨checkRunId', hsome, hsome'⟩
  · rintro ⟨⟨checkRunId, hsome, hsome'⟩ | ⟨hnone, hnone', runId, hrun, hrun'⟩, hattempt, hconclusion⟩
    · refine ⟨⟨"check:" ++ checkRunId, ?_, ?_, fun _ => startsWith_append _ _⟩, ?_, hattempt, hconclusion⟩
      · exact mem_append_left _ (mem_uniqueIdentities.mpr (.inr ⟨checkRunId, hsome, rfl⟩))
      · exact mem_uniqueIdentities.mpr (.inr ⟨checkRunId, hsome', rfl⟩)
      · rw [hsome, hsome']
    · refine ⟨⟨runIdentity runId ci.runAttempt, ?_, ?_, fun hcheck => ?_⟩, ?_, hattempt, hconclusion⟩
      · exact mem_append_left _ (mem_uniqueIdentities.mpr (.inl ⟨runId, hrun, rfl⟩))
      · exact mem_uniqueIdentities.mpr (.inl ⟨runId, hrun', by rw [hattempt]⟩)
      · rw [hnone] at hcheck
        cases hcheck
      · rw [hnone, hnone']

theorem mem_incomingRuns : ci ∈ incomingRuns current included ↔
      ci ∈ current ∧ ci.isTerminal = true ∧ included ci = true := by
  unfold incomingRuns
  rw [mem_mergeSort, mem_filter, Bool.and_eq_true]

/-- Merging keeps every suppressed run where no record absorbs one that it does not fit, and so does
every run of recordings, merges, commits and loads. A run that is recorded is then not reported again
as a fresh result, as long as it is shown in the same way; and a fresh record stands for no other
snapshots. -/
theorem suppression_kept (ci : GitHubCISnapshot) :
    (∀ (dest source : RepoCIBaseline), MergesClean dest.terminal_runs source.terminal_runs →
      (mergeTerminalRuns dest.terminal_runs source.terminal_runs).length ≤ MAX_BASELINE_RUNS_PER_REPO →
      isSuppressed dest.terminal_runs ci = true ∨ isSuppressed source.terminal_runs ci = true →
        isSuppressed (mergeRepoBaseline dest source).terminal_runs ci = true) ∧
    (∀ (repo : RepoCIBaseline) (windowScope : String) (current : List GitHubCISnapshot)
      (generation : ℕ) (windowComplete : Bool) (included : GitHubCISnapshot → Bool),
      ((incomingRuns current included).foldl recordSnapshot repo.terminal_runs).length ≤
        MAX_BASELINE_RUNS_PER_REPO → ∀ repo', Relation.ReflTransGen Step
          (recordTerminalRunsFiltered windowScope current generation windowComplete included repo) repo' →
        ci ∈ current → ci.isTerminal = true → included ci = true →
          ∀ ci', ci'.isTerminal = true → ShowsSameRun ci ci' → ∀ established,
            isReported none established repo'.terminal_runs ci' = false) ∧
    ∀ ci', (fromSnapshot ci).matchesSnapshot ci' = true ↔ ShowsSameRun ci ci' := by
  refine ⟨fun dest source hclean hcap h => isSuppressed_mergeRepoBaseline hclean hcap h, ?_,
    fun ci' => matches_fromSnapshot_iff⟩
  intro repo windowScope current generation windowComplete included hcap repo' hrun hci hterminal
    hincluded ci' hterminal' hshows established
  refine not_isReported hterminal' (isSuppressed_of_run hrun ?_) established
  rw [recordTerminalRunsFiltered_terminal_runs hcap]
  exact isSuppressed_recordSnapshots
    (.inr ⟨ci, mem_incomingRuns.mpr ⟨hci, hterminal, hincluded⟩, matches_fromSnapshot_iff.mpr hshows⟩)

namespace Sample

/-- Run 1 of a workflow, as a push shows it. -/
def pushRun : GitHubCISnapshot where
  pr_number := none
  workflow := "ci"
  status := "completed"
  conclusion := some "success"
  sha := "abc"
  url := "u"
  branch := some "main"
  run_id := some "1"
  run_attempt := 1
  check_run_id := none
  created_at := none
  run_job_count := 1
  run_all_terminal := true

/-- A check run of run 1, as a pull request shows it. -/
def checkRun : GitHubCISnapshot := { pushRun with pr_number := some 7, check_run_id := some "5" }

/-- A baseline that has recorded a snapshot. -/
def recorded (ci : GitHubCISnapshot) : RepoCIBaseline :=
  recordTerminalRunsFiltered "main" [ci] 1 true (fun _ => true) {}

/-- The two records are merged into one that stands for the check run only, so that the push run is
forgotten and reported again. -/
theorem push_run_forgotten : isSuppressed (recorded pushRun).terminal_runs pushRun = true ∧
    ((recorded pushRun).terminal_runs ++ (recorded checkRun).terminal_runs).length ≤
      MAX_BASELINE_RUNS_PER_REPO ∧
    isSuppressed (mergeRepoBaseline (recorded pushRun) (recorded checkRun)).terminal_runs pushRun = false ∧
    isReported none true (mergeRepoBaseline (recorded pushRun) (recorded checkRun)).terminal_runs
      pushRun = true := by
  decide +kernel

/-- Two baselines that have recorded the same push run are merged cleanly, and the run is not reported
after the merge is committed. -/
theorem push_run_kept :
    isSuppressed (mergeRepoBaseline (recorded pushRun) (recorded pushRun)).terminal_runs pushRun = true ∧
      isReported none true
        (commitRepo 0 (mergeRepoBaseline (recorded pushRun) (recorded pushRun))).terminal_runs
        pushRun = false := by
  have hclean : MergesClean (recorded pushRun).terminal_runs (recorded pushRun).terminal_runs := by
    decide +kernel
  have hcap : (mergeTerminalRuns (recorded pushRun).terminal_runs
      (recorded pushRun).terminal_runs).length ≤ MAX_BASELINE_RUNS_PER_REPO := by decide +kernel
  have hrun : Relation.ReflTransGen Step (recorded pushRun)
      (commitRepo 0 (mergeRepoBaseline (recorded pushRun) (recorded pushRun))) :=
    .tail (.single (.took _ hclean hcap)) (.committed 0)
  have hterminal : pushRun.isTerminal = true := by decide
  have hshows : ShowsSameRun pushRun pushRun :=
    ⟨.inr ⟨rfl, rfl, "1", rfl, rfl⟩, rfl, rfl⟩
  exact ⟨(suppression_kept pushRun).1 _ _ hclean hcap (.inl (by decide +kernel)),
    (suppression_kept pushRun).2.1 {} "main" [pushRun] 1 true (fun _ => true) (by decide +kernel) _ hrun
      mem_cons_self hterminal rfl pushRun hterminal hshows true⟩

end Sample

end Clawhip.Ci
