import Clawhip.Git.Siblings
import Mathlib.Tactic.IntervalCases

/-!
# Announced commits

A worktree moves forward along a linear history, and every poll announces what is new since the last one
that saw it: `announced_of_readable`. The baseline moves with every snapshot, so the log of the new
commits has to be read in the same poll.
-/

namespace Clawhip.Git

open List Option OrdMap IncomingEvent Text

/-! ## Entries of events -/

/-- The commit that an object is about. -/
def commitEntry (item : Json) : Option CommitEntry := do
  let sha ← (← item.get "commit").asStr
  let summary ← (← item.get "summary").asStr
  return { sha, summary }

/-- The commits that an event announces. -/
def entriesOf (event : IncomingEvent) : List CommitEntry :=
  if event.kind = "git.commit" then
    match event.payload.get "commits" with
    | some (.array items) => items.filterMap commitEntry
    | _ => (commitEntry event.payload).toList
  else []

/-- The decorations of an event say nothing about its commits. -/
theorem entriesOf_decorate (repo : GitRepoMonitor) (snapshot : GitSnapshot) (event : IncomingEvent) :
    entriesOf (decorate repo snapshot event) = entriesOf event := by
  unfold entriesOf commitEntry decorate
  rw [withRepoContext_kind, withRepoContext_get _ _ _ (by decide) (by decide),
    withRepoContext_get _ _ _ (by decide) (by decide), withRepoContext_get _ _ _ (by decide) (by decide)]

variable (commit : CommitEntry)

theorem commitEntry_commitItem : commitEntry (commitItem (commit.sha, commit.summary)) = some commit := by
  simp [commitEntry, commitItem, Json.ofFields, Json.get, get_insert, Json.asStr]

/-- The events about some commits announce them. -/
theorem entriesOf_gitCommitEvents (channel : Option String) (repo branch : String)
    (commits : List CommitEntry) : (gitCommitEvents channel repo branch
      (commits.map fun commit => (commit.sha, commit.summary))).flatMap entriesOf = commits := by
  match commits with
  | [] => rfl
  | [commit] =>
    simp only [map_cons, map_nil, gitCommitEvents, flatMap_cons, flatMap_nil, append_nil]
    unfold entriesOf commitEntry gitCommit
    rw [withFields_get (by simp [OrdMap.keys]), withFields_get (by simp [OrdMap.keys]), withFields_get (by simp [OrdMap.keys])]
    simp [withFields, get_cons, str, Json.asStr]
  | commit :: next :: commits =>
    have hitems : (((commit :: next :: commits).map fun commit => (commit.sha, commit.summary)).map
        commitItem).filterMap commitEntry = commit :: next :: commits := by
      rw [List.map_map, filterMap_map]
      exact (filterMap_congr fun commit _ => commitEntry_commitItem commit).trans filterMap_some
    simp only [map_cons, gitCommitEvents, flatMap_cons, flatMap_nil, append_nil] at hitems ⊢
    unfold entriesOf
    rw [withFields_get (by simp [OrdMap.keys])]
    simpa [withFields, get_cons] using hitems

/-! ## Logs -/

/-- An object name: hexadecimal digits. -/
def ObjectName (sha : String) : Prop := sha.toList ≠ [] ∧ ∀ c ∈ sha.toList, c.isDigit ∨ c.toNat ∈ List.range' 97 6

/-- The line of a commit in a log. -/
def CommitEntry.line (commit : CommitEntry) : String := commit.sha ++ '\x1f'.toString ++ commit.summary

/-- The output of `git log --pretty=%H%x1f%s`. -/
def logOutput (commits : List CommitEntry) : String :=
  String.ofList (commits.flatMap fun commit => commit.line.toList ++ ['\n'])

/-- What `git log` says of a commit: an object name, and a subject on one line. -/
structure CommitEntry.Printed (commit : CommitEntry) : Prop where
  sha : ObjectName commit.sha
  summary : '\n' ∉ commit.summary.toList

/-- The lines of a log keep their ends: the last subject does not end in white space, and no other one in
a carriage return. -/
structure Readable (commits : List CommitEntry) : Prop where
  inner : ∀ commit ∈ commits.dropLast, commit.summary.toList.getLast? ≠ some '\r'
  last : ∀ commit ∈ commits.getLast?, ∀ c ∈ commit.summary.toList.getLast?, Text.isWhitespace c = false

variable {sha : String}

theorem ObjectName.isWhitespace (h : ObjectName sha) {c : Char} (hc : c ∈ sha.toList) :
    Text.isWhitespace c = false ∧ c ≠ '\n' ∧ c ≠ '\x1f' := by
  have hrange : 48 ≤ c.toNat ∧ c.toNat ≤ 57 ∨ 97 ≤ c.toNat ∧ c.toNat < 103 := by
    rcases h.2 c hc with hdigit | hletter
    · simp only [Char.isDigit, Bool.and_eq_true, decide_eq_true_eq, ge_iff_le] at hdigit
      exact .inl ⟨UInt32.le_iff_toNat_le.mp hdigit.1, UInt32.le_iff_toNat_le.mp hdigit.2⟩
    · simp only [mem_range'_1] at hletter
      omega
  refine ⟨?_, ?_, ?_⟩
  · simp only [Text.isWhitespace, Bool.or_eq_false_iff, Bool.and_eq_false_iff, decide_eq_false_iff_not,
      beq_eq_false_iff_ne]
    omega
  · rintro rfl
    revert hrange
    decide
  · rintro rfl
    revert hrange
    decide

theorem CommitEntry.line_toList : commit.line.toList = commit.sha.toList ++ '\x1f' :: commit.summary.toList := by
  unfold line
  simp [Char.toString]

variable {commit : CommitEntry} {answers : PathAnswers} {repo : GitRepoMonitor} {snapshot : GitSnapshot}
  {history : List CommitEntry} {m n : ℕ} {previous : GitRepoState}

theorem CommitEntry.Printed.newline (h : commit.Printed) : '\n' ∉ commit.line.toList := by
  rw [commit.line_toList]
  intro hmem
  rcases mem_append.mp hmem with hsha | hrest
  · exact (h.sha.isWhitespace hsha).2.1 rfl
  · rcases mem_cons.mp hrest with heq | hsummary
    · exact absurd heq (by decide)
    · exact h.summary hsummary

theorem CommitEntry.line_getLast? :
    commit.line.toList.getLast? = some (commit.summary.toList.getLast?.getD '\x1f') := by
  rw [commit.line_toList, getLast?_append, getLast?_cons]
  rfl

theorem CommitEntry.Printed.splitOnce (h : commit.Printed) :
    splitOnce commit.line '\x1f' = some (commit.sha, commit.summary) :=
  splitOnce_append (fun hmem => (h.sha.isWhitespace hmem).2.2 rfl) _

theorem CommitEntry.Printed.head? (h : commit.Printed) (rest : List Char) :
    ∀ c ∈ (commit.line.toList ++ rest).head?, isWhitespace c = false := by
  intro c hc
  obtain ⟨first, sha, hsha⟩ := exists_cons_of_ne_nil h.sha.1
  rw [commit.line_toList, hsha] at hc
  obtain rfl : first = c := by simpa using hc
  exact (h.sha.isWhitespace (hsha ▸ mem_cons_self)).1

/-- Trimming takes only the last line feed from a log. -/
theorem trim_logOutput {init : List CommitEntry} {last : CommitEntry}
    (hprinted : ∀ commit ∈ init ++ [last], commit.Printed) (hreadable : Readable (init ++ [last])) :
    (trim (logOutput (init ++ [last]))).toList =
      ((init.map fun commit => commit.line.toList).flatMap fun line => line ++ ['\n']) ++ last.line.toList := by
  have hbody : (logOutput (init ++ [last])).toList =
      (((init.map fun commit => commit.line.toList).flatMap fun line => line ++ ['\n']) ++
        last.line.toList) ++ ['\n'] := by
    simp [logOutput, flatMap_map]
  have hlast : isWhitespace (last.summary.toList.getLast?.getD '\x1f') = false := by
    cases hsummary : last.summary.toList.getLast? with
    | none => decide +kernel
    | some c => exact hreadable.last last (by simp) c hsummary
  unfold trim
  rw [String.toList_ofList, hbody]
  refine strip_append (by decide) ?_ ?_
  · -- A log begins with an object name.
    cases init with
    | nil => simpa using (hprinted last (by simp)).head? []
    | cons first init =>
      rw [map_cons, flatMap_cons, append_assoc, append_assoc]
      exact (hprinted first (by simp)).head? _
  · rw [getLast?_append, last.line_getLast?]
    rintro c hc
    obtain rfl : last.summary.toList.getLast?.getD '\x1f' = c := by simpa using hc
    exact hlast

/-- The commits of a log are read back from its output. -/
theorem parseCommits_logOutput {commits : List CommitEntry} (hprinted : ∀ commit ∈ commits, commit.Printed)
    (hreadable : Readable commits) : parseCommits (trim (logOutput commits)) = commits := by
  rcases eq_nil_or_concat' commits with rfl | ⟨init, last, rfl⟩
  · decide +kernel
  · have hlines : lines (trim (logOutput (init ++ [last]))) = (init ++ [last]).map CommitEntry.line := by
      unfold lines
      rw [trim_logOutput hprinted hreadable, linesGo_lines]
      · simp
      · intro line hline
        have hline : line ∈ (init ++ [last]).map fun commit => commit.line.toList := by
          rw [map_append]
          exact hline
        obtain ⟨commit, hmem, rfl⟩ := mem_map.mp hline
        exact (hprinted commit hmem).newline
      · intro line hline hreturn
        obtain ⟨commit, hmem, rfl⟩ := mem_map.mp hline
        have hinner := hreadable.inner commit (by simpa using hmem)
        rw [commit.line_getLast?] at hreturn
        cases hsummary : commit.summary.toList.getLast? with
        | none =>
          rw [hsummary] at hreturn
          cases hreturn
        | some c =>
          rw [hsummary] at hreturn hinner
          exact hinner hreturn
      · rw [last.line_toList]
        simp
    unfold parseCommits
    rw [hlines, filterMap_map]
    refine (filterMap_congr fun commit hmem => ?_).trans filterMap_some
    show (splitOnce commit.line '\x1f').map _ = _
    rw [(hprinted commit hmem).splitOnce]
    rfl

/-! ## Monitors under an unchanged identity -/

section

variable {origin : GitMonitorOrigin} {identity : GitPathIdentity}

/-- A monitor that is registered under an origin and an identity. -/
def Known (origin : GitMonitorOrigin) (identity : GitPathIdentity) (monitor : GitMonitorState) : Prop :=
  monitor.origin = some origin ∧ monitor.identity = some identity

/-- A monitor that is registered or new. -/
def KnownOrNew (origin : GitMonitorOrigin) (identity : GitPathIdentity) (monitor : GitMonitorState) :
    Prop :=
  Known origin identity monitor ∨ monitor.origin = none ∧ monitor.repo = none

variable {monitor : GitMonitorState}

theorem reconcile_known (h : KnownOrNew origin identity monitor) :
    Known origin identity (reconcileMonitorRegistration monitor origin identity) ∧
      (reconcileMonitorRegistration monitor origin identity).repo = monitor.repo := by
  unfold reconcileMonitorRegistration
  rcases h with ⟨horigin, hidentity⟩ | ⟨horigin, hrepo⟩
  · have hsame : (monitor.origin.isNone || (monitor.origin.any (· != origin) ||
        monitor.identity.any (· != identity))) = false := by
      simp [horigin, hidentity]
    simp only [hsame, Bool.false_eq_true, if_false]
    exact ⟨⟨horigin, hidentity⟩, trivial⟩
  · simp only [horigin, isNone_none, Bool.true_or, if_true]
    exact ⟨⟨rfl, rfl⟩, hrepo.symm⟩

theorem shouldSkip_known (h : Known origin identity monitor) (now : ℕ) :
    Known origin identity (shouldSkipFailedMonitor monitor identity now).2 ∧
      (shouldSkipFailedMonitor monitor identity now).2.repo = monitor.repo := by
  unfold shouldSkipFailedMonitor
  rw [if_neg (not_not_intro h.2)]
  split_ifs
  · exact ⟨h, rfl⟩
  · cases monitor.failure with
    | none => exact ⟨h, rfl⟩
    | some failure =>
      simp only
      split_ifs
      · exact ⟨h, rfl⟩
      · exact ⟨h, rfl⟩

theorem clear_known (h : Known origin identity monitor) (operation : GitMonitorOperation) :
    Known origin identity (clearMonitorFailure monitor operation) ∧
      (clearMonitorFailure monitor operation).repo = monitor.repo := by
  unfold clearMonitorFailure
  split_ifs
  · exact ⟨h, rfl⟩
  · exact ⟨h, rfl⟩

theorem record_known (monitor : GitMonitorState) {input : MonitorFailureInput}
    (horigin : input.origin = origin) (hexpected : input.expected_identity = identity)
    (hcurrent : input.current_identity = identity) : Known origin identity (recordMonitorFailure monitor input) ∧
      (recordMonitorFailure monitor input).repo = monitor.repo := by
  unfold recordMonitorFailure
  rw [if_neg (not_not_intro (hcurrent.trans hexpected.symm))]
  exact ⟨⟨congrArg some horigin, congrArg some hcurrent⟩, rfl⟩

/-- The three readings of an identity that does not change. -/
def Readings.unchanged (identity : GitPathIdentity) : Readings := ⟨identity, identity, identity⟩

variable (poll_interval now : ℕ)

/-- The discovery keeps the baseline of the root. -/
theorem discover_known (repo : GitRepoMonitor) {answers : RepoAnswers}
    (hidentity : answers.identity = Readings.unchanged identity) (h : KnownOrNew .declarative identity monitor) :
    Known .declarative identity (discover poll_interval now repo answers monitor).1 ∧
      (discover poll_interval now repo answers monitor).1.repo = monitor.repo := by
  obtain ⟨hknown, hrepo⟩ := reconcile_known h
  obtain ⟨hknown', hrepo'⟩ := shouldSkip_known hknown now
  unfold discover
  rw [hidentity]
  simp only [Readings.unchanged]
  generalize shouldSkipFailedMonitor (reconcileMonitorRegistration monitor .declarative identity)
    identity now = skipped at hknown' hrepo' ⊢
  obtain ⟨skip, monitor'⟩ := skipped
  cases skip with
  | true => exact ⟨hknown', hrepo'.trans hrepo⟩
  | false =>
    cases answers.discovered repo with
    | ok paths =>
      obtain ⟨hclear, hcleared⟩ := clear_known hknown' .discovery
      exact ⟨hclear, hcleared.trans (hrepo'.trans hrepo)⟩
    | error message =>
      have hrecord (input : MonitorFailureInput) (horigin : input.origin = .declarative)
          (hexpected : input.expected_identity = identity) (hcurrent : input.current_identity = identity) :=
        record_known monitor' horigin hexpected hcurrent
      exact ⟨(hrecord _ rfl rfl rfl).1, (hrecord _ rfl rfl rfl).2.trans (hrepo'.trans hrepo)⟩

/-- What a worktree comes to in a poll: it is not looked at, its snapshot fails, or it is seen. -/
inductive Seen (repo : GitRepoMonitor) (answers : PathAnswers) (path : String) (before : Option GitRepoState) :
    Option GitRepoState → Option (Except String GitSnapshot × List IncomingEvent) → Prop
  | not : Seen repo answers path before before none
  | failed (message : String) : Seen repo answers path before before (some (.error message, []))
  | seen {snapshot : GitSnapshot} (h : snapshotGitWorktree repo answers path = .ok snapshot) :
    Seen repo answers path before (some { branch := snapshot.branch, head := snapshot.head })
      (some (.ok snapshot, snapshotEvents repo answers before snapshot))

theorem watchPath_seen (repo : GitRepoMonitor) (path : String) {answers : PathAnswers}
    (hidentity : answers.identity = Readings.unchanged identity) (h : KnownOrNew origin identity monitor) :
    Known origin identity (watchPath poll_interval now repo answers origin path monitor).1 ∧
      Seen repo answers path monitor.repo (watchPath poll_interval now repo answers origin path monitor).1.repo
        (watchPath poll_interval now repo answers origin path monitor).2 := by
  obtain ⟨hknown, hrepo⟩ := reconcile_known h
  obtain ⟨hknown', hrepo'⟩ := shouldSkip_known hknown now
  unfold watchPath
  rw [hidentity]
  simp only [Readings.unchanged]
  generalize shouldSkipFailedMonitor (reconcileMonitorRegistration monitor origin identity) identity
    now = skipped at hknown' hrepo' ⊢
  obtain ⟨skip, monitor'⟩ := skipped
  have hbefore : monitor'.repo = monitor.repo := hrepo'.trans hrepo
  cases skip with
  | true =>
    refine ⟨hknown', ?_⟩
    simp only [hbefore]
    exact .not
  | false =>
    cases hsnapshot : snapshotGitWorktree repo answers path with
    | ok snapshot =>
      obtain ⟨hclear, hcleared⟩ := clear_known hknown' .snapshot
      refine ⟨hclear, ?_⟩
      simp only [hcleared, hbefore]
      exact .seen hsnapshot
    | error message =>
      have hrecord (input : MonitorFailureInput) (horigin : input.origin = origin)
          (hexpected : input.expected_identity = identity) (hcurrent : input.current_identity = identity) :=
        record_known monitor' horigin hexpected hcurrent
      refine ⟨(hrecord _ rfl rfl rfl).1, ?_⟩
      rw [(hrecord _ rfl rfl rfl).2, hbefore]
      exact .failed message

end

/-! ## One poll -/

/-- Some of the commits of a history: those after a position, up to another. -/
def slice (history : List CommitEntry) (m n : ℕ) : List CommitEntry := (history.drop (m + 1)).take (n - m)

/-- The commands of a worktree answer for a position of its history, or fail. -/
structure AnswersAt (history : List CommitEntry) (n : ℕ) (answers : PathAnswers) : Prop where
  head : ∀ commit, history[n]? = some commit → ∀ output, answers.head = .ok output → output = commit.sha ++ "\n"
  summary : ∀ commit, history[n]? = some commit → ∀ output, answers.summary = .ok output →
    output = commit.summary ++ "\n"
  log : ∀ m old new, m ≤ n → history[m]? = some old → history[n]? = some new →
    ∀ output, answers.log old.sha new.sha = .ok output → output = logOutput (slice history m n)

/-- A poll at a position of the history of a worktree, whose path keeps its origin and its identity. -/
structure StandsAt (repo : GitRepoMonitor) (place : ℕ) (path : String) (origin : GitMonitorOrigin)
    (identity : GitPathIdentity) (history : List CommitEntry) (poll : GitPoll) (n : ℕ) : Prop where
  position : n < history.length
  same : (poll.repos place).monitorOrigin repo path = origin
  alone : origin = .declarative → ∀ paths, (poll.repos place).discovered repo = .ok paths →
    ∀ path' ∈ paths, path' ≠ path → (poll.repos place).monitorOrigin repo path' = .dynamic
  listed : ∀ paths, (poll.repos place).discovered repo = .ok paths → path ∈ paths
  readings : ((poll.repos place).paths path).identity = Readings.unchanged identity
  root : origin = .declarative → (poll.repos place).identity = Readings.unchanged identity
  answers : AnswersAt history n ((poll.repos place).paths path)

/-- The monitor of a worktree. -/
def monitorOf (repo : GitRepoMonitor) (path : String) (origin : GitMonitorOrigin)
    (state : OrdMap String GitMonitorState) : GitMonitorState :=
  (state.get (ownKey repo path origin)).getD {}

section

variable {config : Monitors} {repo : GitRepoMonitor} {place : ℕ} {path : String}
  {origin : GitMonitorOrigin} {identity : GitPathIdentity} {history : List CommitEntry}

theorem kept_watch (poll_interval now : ℕ) (answers : PathAnswers) (focus : Focus) :
    (focus.watch poll_interval now repo place answers origin path).kept =
      some (watchPath poll_interval now repo answers origin path (focus.monitor.getD {})).1 := rfl

/-- Whatever the discovery and the other worktrees come to, the baseline of a worktree changes only when
the worktree is seen. -/
theorem pollGitAt_seen (hrepo : (repo, place) ∈ config.repos.zipIdx)
    (hapart : Apart config repo place (ownKey repo path origin)) {state : OrdMap String GitMonitorState}
    {poll : GitPoll} {n : ℕ} (hstands : StandsAt repo place path origin identity history poll n)
    (hknown : KnownOrNew origin identity (monitorOf repo path origin state)) :
    ∃ watched, visitsOf place path (config.pollGitAt state poll).2 = snapshotVisits place path watched ∧
      Seen repo ((poll.repos place).paths path) path (monitorOf repo path origin state).repo
        (monitorOf repo path origin (config.pollGitAt state poll).1).repo watched ∧
      KnownOrNew origin identity (monitorOf repo path origin (config.pollGitAt state poll).1) := by
  obtain ⟨progress, hfocus, hroot, hkept, hvisits⟩ := pollGitAt_focus hrepo hapart path state poll
  have hafter : monitorOf repo path origin (config.pollGitAt state poll).1 =
      (((pollRepo (max config.poll_interval_secs 1) poll progress (repo, place)).focus
        (ownKey repo path origin) place path).kept).getD {} := 
    congrArg (fun monitor : Option GitMonitorState => monitor.getD {}) hkept
  rw [hafter, hvisits]
  unfold monitorOf at hknown ⊢
  cases origin with
  | dynamic =>
    unfold ownKey at hfocus hknown ⊢
    rw [pollRepo_dynamic hstands.same, hfocus]
    cases hdiscovery : (discover (max config.poll_interval_secs 1) poll.now repo (poll.repos place)
        ((progress.state.get (discoveryStateKey repo)).getD {})).2 with
    | found paths =>
      have hlisted := hstands.listed paths (discovered_of_found hdiscovery)
      unfold Focus.ofDiscovery
      simp only [hlisted, if_true, kept_watch, getD_some]
      obtain ⟨hknown', hseen⟩ := watchPath_seen (max config.poll_interval_secs 1) poll.now
        repo path hstands.readings hknown
      exact ⟨_, rfl, hseen, .inl hknown'⟩
    | skipped | failed =>
      have hsame (monitor : Option GitMonitorState) : (Focus.kept
          { monitor, active := false || monitor.isSome, visits := [] }).getD {} = monitor.getD {} := by
        cases monitor <;> rfl
      refine ⟨none, rfl, ?_, ?_⟩
      · unfold Focus.ofDiscovery
        simp only [hsame]
        exact .not
      · unfold Focus.ofDiscovery
        simp only [hsame]
        exact hknown
  | declarative =>
    unfold ownKey at hfocus hknown ⊢
    rw [pollRepo_declarative hstands.same (hstands.alone rfl), hfocus, hroot]
    obtain ⟨hfound, hrepo'⟩ := discover_known (max config.poll_interval_secs 1) poll.now repo (hstands.root rfl) hknown
    cases hdiscovery : (discover (max config.poll_interval_secs 1) poll.now repo (poll.repos place)
        ((state.get (discoveryStateKey repo)).getD {})).2 with
    | found paths =>
      have hlisted := hstands.listed paths (discovered_of_found hdiscovery)
      unfold Focus.ofDiscovery Focus.discovered
      simp only [hlisted, if_true, kept_watch, getD_some]
      obtain ⟨hknown', hseen⟩ := watchPath_seen (max config.poll_interval_secs 1) poll.now
        repo path hstands.readings (.inl hfound)
      rw [hrepo'] at hseen
      exact ⟨_, rfl, hseen, .inl hknown'⟩
    | skipped | failed =>
      refine ⟨none, rfl, ?_, .inl hfound⟩
      show Seen _ _ _ _ (discover _ _ _ _ _).1.repo none
      rw [hrepo']
      exact .not

end

/-! ## What a snapshot announces -/

/-- A text without white space around it. -/
def Stripped (value : String) : Prop :=
  (∀ c ∈ value.toList.head?, Text.isWhitespace c = false) ∧ ∀ c ∈ value.toList.getLast?, Text.isWhitespace c = false

theorem trim_line {value : String} (h : Stripped value) : trim (value ++ "\n") = value := by
  have hchars : (value ++ "\n").toList = value.toList ++ ['\n'] := by simp
  unfold trim
  rw [hchars, strip_append (by decide) h.1 h.2, String.ofList_toList]

theorem ObjectName.stripped (h : ObjectName sha) : Stripped sha :=
  ⟨fun _ hc => (h.isWhitespace (mem_of_head? hc)).1, fun _ hc => (h.isWhitespace (mem_of_getLast? hc)).1⟩

variable {path : String}

/-- The commands that a snapshot was taken from. -/
theorem snapshot_of_ok (h : snapshotGitWorktree repo answers path = .ok snapshot) :
    ∃ head summary, answers.head = .ok head ∧ answers.summary = .ok summary ∧ snapshot.head = trim head ∧
      snapshot.commits = [{ sha := trim head, summary := trim summary }] := by
  unfold snapshotGitWorktree runCommand at h
  cases hhead : answers.head with
  | error e =>
    rw [hhead] at h
    cases h
  | ok head =>
    cases hbranch : answers.branch with
    | error e =>
      rw [hhead, hbranch] at h
      cases h
    | ok branch =>
      cases hsummary : answers.summary with
      | error e =>
        rw [hhead, hbranch, hsummary] at h
        cases h
      | ok summary =>
        rw [hhead, hbranch, hsummary] at h
        cases h
        exact ⟨head, summary, rfl, rfl, rfl, rfl⟩

/-- A snapshot announces the new commits if the head is new, and nothing otherwise. -/
theorem entriesOf_snapshotEvents (hemit : repo.emit_commits = true) (answers : PathAnswers)
    (previous : GitRepoState) (snapshot : GitSnapshot) :
    (snapshotEvents repo answers (some previous) snapshot).flatMap entriesOf =
      if previous.head = snapshot.head then [] else newCommits answers previous snapshot := by
  have hbranch : (if (repo.emit_branch_changes && previous.branch != snapshot.branch) = true then
      [decorate repo snapshot <| .gitBranchChanged repo.channel snapshot.repo_name previous.branch
        snapshot.branch] else []).flatMap entriesOf = [] := by
    split_ifs
    · rw [flatMap_cons, flatMap_nil, append_nil, entriesOf_decorate]
      rfl
    · rfl
  unfold snapshotEvents
  simp only [flatMap_append, hbranch, nil_append, hemit, Bool.true_and, bne_iff_ne, ne_eq, ite_not]
  split_ifs with hhead
  · rfl
  · rw [flatMap_map]
    simp only [entriesOf_decorate]
    exact entriesOf_gitCommitEvents _ _ _ _

/-- A history that is linear: every commit is printed in its own name. -/
structure Linear (history : List CommitEntry) : Prop where
  printed : ∀ commit ∈ history, commit.Printed
  distinct : (history.map CommitEntry.sha).Nodup

/-- The new commits of a poll are read: their log is there and its lines keep their ends, or there is only
one of them and its subject is stripped. -/
def Announces (repo : GitRepoMonitor) (place : ℕ) (path : String) (origin : GitMonitorOrigin)
    (history : List CommitEntry) (state : OrdMap String GitMonitorState) (input : GitPoll × ℕ) : Prop :=
  ∀ baseline m old new, (monitorOf repo path origin state).repo = some baseline →
    history[m]? = some old → baseline.head = old.sha → history[input.2]? = some new → m < input.2 →
    (∃ snapshot, snapshotGitWorktree repo ((input.1.repos place).paths path) path = .ok snapshot) →
    match ((input.1.repos place).paths path).log old.sha new.sha with
    | .ok _ => Readable (slice history m input.2)
    | .error _ => input.2 = m + 1 ∧ Stripped new.summary

theorem mem_slice (h : commit ∈ slice history m n) : commit ∈ history := mem_of_mem_drop (mem_of_mem_take h)

theorem slice_append {k : ℕ} (hm : m ≤ n) (hn : n ≤ k) :
    slice history m n ++ slice history n k = slice history m k := by
  unfold slice
  have hk : k - m = (n - m) + (k - n) := by omega
  have hdrop : history.drop (n + 1) = (history.drop (m + 1)).drop (n - m) := by
    rw [drop_drop]
    congr 1
    omega
  rw [hk, take_add, hdrop]

theorem slice_self (history : List CommitEntry) (m : ℕ) : slice history m m = [] := by
  unfold slice
  rw [Nat.sub_self, take_zero]

theorem slice_succ (h : history[m + 1]? = some commit) : slice history m (m + 1) = [commit] := by
  unfold slice
  obtain ⟨hlt, hget⟩ := List.getElem?_eq_some_iff.mp h
  rw [Nat.add_sub_cancel_left, drop_eq_getElem_cons hlt, hget]
  rfl

theorem slice_ne_nil (hlt : m < n) (hn : n < history.length) : slice history m n ≠ [] := by
  unfold slice
  rw [Ne, ← length_eq_zero_iff, length_take, length_drop]
  omega

theorem newCommits_of_ok {entries : List CommitEntry}
    (h : listNewCommitsForPath answers previous.head snapshot.head = .ok entries) (hne : entries ≠ []) :
    newCommits answers previous snapshot = entries := by
  unfold newCommits
  rw [h]
  cases entries with
  | nil => exact absurd rfl hne
  | cons entry entries => rfl

theorem newCommits_of_error {e : String} (h : listNewCommitsForPath answers previous.head snapshot.head = .error e) :
    newCommits answers previous snapshot = snapshot.commits := by
  unfold newCommits
  rw [h]

variable {old new : CommitEntry}

/-- The new commits of a poll that reads them. -/
theorem newCommits_eq (hlinear : Linear history) (hanswers : AnswersAt history n answers)
    (hold : history[m]? = some old) (hnew : history[n]? = some new) (hlt : m < n)
    (hprevious : previous.head = old.sha) (hsnapshot : snapshotGitWorktree repo answers path = .ok snapshot)
    (hread : match answers.log old.sha new.sha with
      | .ok _ => Readable (slice history m n)
      | .error _ => n = m + 1 ∧ Stripped new.summary) :
    newCommits answers previous snapshot = slice history m n := by
  obtain ⟨head, summary, hhead, hsummary, hshead, hcommits⟩ := snapshot_of_ok hsnapshot
  have hprinted := hlinear.printed new (mem_of_getElem? hnew)
  have hsha : trim head = new.sha := by
    rw [hanswers.head new hnew head hhead]
    exact trim_line hprinted.sha.stripped
  cases hlog : answers.log old.sha new.sha with
  | ok output =>
    rw [hlog] at hread
    have hparsed : parseCommits (trim output) = slice history m n := by
      rw [hanswers.log m old new (Nat.le_of_lt hlt) hold hnew output hlog]
      exact parseCommits_logOutput (fun commit hmem => hlinear.printed commit (mem_slice hmem)) hread
    have hlist : listNewCommitsForPath answers previous.head snapshot.head = .ok (slice history m n) := by
      unfold listNewCommitsForPath
      rw [hprevious, hshead, hsha, hlog, ← hparsed]
      rfl
    exact newCommits_of_ok hlist (slice_ne_nil hlt (List.getElem?_eq_some_iff.mp hnew).1)
  | error e =>
    rw [hlog] at hread
    obtain ⟨rfl, hstripped⟩ := hread
    have hlist : listNewCommitsForPath answers previous.head snapshot.head = .error e := by
      unfold listNewCommitsForPath
      rw [hprevious, hshead, hsha, hlog]
      rfl
    rw [newCommits_of_error hlist, hcommits, hsha, hanswers.summary new hnew summary hsummary,
      trim_line hstripped, slice_succ hnew]

/-! ## Runs -/

/-- The polls of a configuration, each at a position of a history. -/
def Monitors.historyMachine (config : Monitors) :
    Machine (OrdMap String GitMonitorState) (GitPoll × ℕ) (List Visit) where
  step state input := config.pollGitAt state input.1

/-- The commits that are announced for a worktree. -/
def announced (place : ℕ) (path : String) (outputs : List (List Visit)) : List CommitEntry :=
  (outputs.flatMap (visitsOf place path)).flatMap fun visit => visit.events.flatMap entriesOf

/-- The positions at which a worktree was seen. -/
def observed (place : ℕ) (path : String) (run : List (GitPoll × ℕ)) (outputs : List (List Visit)) : List ℕ :=
  (run.zip outputs).filterMap fun (input, visits) =>
    if (visitsOf place path visits).any (·.snapshot.isOk) then some input.2 else none

/-- The commits after the first observed position, or after a baseline, up to the last one. -/
def spanFrom (history : List CommitEntry) : Option ℕ → List ℕ → List CommitEntry
  | some m, positions => slice history m (positions.getLastD m)
  | none, [] => []
  | none, first :: rest => slice history first (rest.getLastD first)

/-- A run along a linear history. -/
structure Scenario (repo : GitRepoMonitor) (place : ℕ) (path : String) (origin : GitMonitorOrigin)
    (identity : GitPathIdentity) (history : List CommitEntry) (run : List (GitPoll × ℕ)) : Prop where
  linear : Linear history
  stands : ∀ input ∈ run, StandsAt repo place path origin identity history input.1 input.2
  forward : (run.map Prod.snd).Pairwise (· ≤ ·)

/-- The baseline of a worktree is a position of its history. -/
def BaselineAt (history : List CommitEntry) (baseline : Option GitRepoState) : Option ℕ → Prop
  | none => baseline = none
  | some m => ∃ state commit, baseline = some state ∧ history[m]? = some commit ∧ state.head = commit.sha

section

variable {config : Monitors} {repo : GitRepoMonitor} {place : ℕ} {path : String}
  {origin : GitMonitorOrigin} {identity : GitPathIdentity} {history : List CommitEntry}

theorem announced_cons (visits : List Visit) (outputs : List (List Visit)) :
    announced place path (visits :: outputs) = announced place path [visits] ++ announced place path outputs := by
  simp [announced]

variable {visits : List Visit} {watched : Option (Except String GitSnapshot × List IncomingEvent)}
  {outputs : List (List Visit)} {run : List (GitPoll × ℕ)} {n : ℕ} {state : OrdMap String GitMonitorState}

section

variable (h : visitsOf place path visits = snapshotVisits place path watched)
include h

theorem announced_of_visits :
    announced place path [visits] = (watched.map fun watched => watched.2.flatMap entriesOf).getD [] := by
  unfold announced snapshotVisits at *
  cases watched <;> simp [h]

theorem observed_of_visits {input : GitPoll × ℕ} : observed place path (input :: run) (visits :: outputs) =
      (if watched.any (·.1.isOk) then [input.2] else []) ++ observed place path run outputs := by
  unfold observed snapshotVisits at *
  rw [zip_cons_cons, filterMap_cons]
  cases watched with
  | none => simp [h]
  | some watched => cases hok : watched.1.isOk <;> simp [h, hok]

end

theorem mem_observed (h : n ∈ observed place path run outputs) : n ∈ run.map Prod.snd := by
  obtain ⟨⟨input, visits⟩, hmem, hif⟩ := mem_filterMap.mp h
  simp only at hif
  split_ifs at hif
  cases hif
  exact mem_map_of_mem (of_mem_zip hmem).1

theorem le_getLastD {positions : List ℕ} (h : ∀ k ∈ positions, n ≤ k) : n ≤ positions.getLastD n := by
  cases positions with
  | nil => exact Nat.le_refl n
  | cons first rest =>
    rw [getLastD_cons, ← getLast_eq_getLastD (cons_ne_nil first rest)]
    exact h _ (getLast_mem _)

theorem sha_ne {m : ℕ} (hlinear : Linear history) (hold : history[m]? = some old)
    (hnew : history[n]? = some new) (hne : m ≠ n) : old.sha ≠ new.sha := by
  intro heq
  have hm : (history.map CommitEntry.sha)[m]? = some old.sha := by rw [getElem?_map, hold]; rfl
  have hn : (history.map CommitEntry.sha)[n]? = some old.sha := by
    rw [getElem?_map, hnew, heq]
    rfl
  obtain ⟨hlt, -⟩ := List.getElem?_eq_some_iff.mp hm
  exact hne ((getElem?_inj hlt hlinear.distinct).mp (hm.trans hn.symm))

variable {b : Option ℕ}

/-- A worktree that is seen announces what is new since its baseline. -/
theorem announced_seen (hlinear : Linear history) (hemit : repo.emit_commits = true) {poll : GitPoll}
    (hanswers : AnswersAt history n ((poll.repos place).paths path))
    (hbaseline : BaselineAt history (monitorOf repo path origin state).repo b) (hbefore : ∀ m ∈ b, m ≤ n)
    (hguard : Announces repo place path origin history state (poll, n)) {new : CommitEntry}
    (hnew : history[n]? = some new) {snapshot : GitSnapshot}
    (hsnapshot : snapshotGitWorktree repo ((poll.repos place).paths path) path = .ok snapshot) :
    (snapshotEvents repo ((poll.repos place).paths path) (monitorOf repo path origin state).repo
      snapshot).flatMap entriesOf = (b.map fun m => slice history m n).getD [] := by
  cases b with
  | none =>
    rw [show (monitorOf repo path origin state).repo = none from hbaseline]
    rfl
  | some m =>
    obtain ⟨previous, old, hrepo, hold, hhead⟩ := hbaseline
    obtain ⟨head, -, hok, -, hshead, -⟩ := snapshot_of_ok hsnapshot
    have hsha : snapshot.head = new.sha := by
      rw [hshead, hanswers.head new hnew head hok]
      exact trim_line (hlinear.printed new (mem_of_getElem? hnew)).sha.stripped
    rw [hrepo, entriesOf_snapshotEvents hemit, hhead, hsha, map_some, getD_some]
    rcases Nat.lt_or_eq_of_le (hbefore m rfl) with hlt | rfl
    · rw [if_neg (sha_ne hlinear hold hnew (Nat.ne_of_lt hlt))]
      exact newCommits_eq hlinear hanswers hold hnew hlt hhead hsnapshot
        (hguard previous m old new hrepo hold hhead hnew hlt ⟨snapshot, hsnapshot⟩)
    · rw [hold] at hnew
      cases hnew
      rw [if_pos rfl, slice_self]

/-- From a baseline on, a run announces what lies between the baseline and the last position at which the
worktree was seen. -/
theorem announced_run (hrepo : (repo, place) ∈ config.repos.zipIdx)
    (hapart : Apart config repo place (ownKey repo path origin)) (hemit : repo.emit_commits = true)
    (hlinear : Linear history)
    (hstands : ∀ input ∈ run, StandsAt repo place path origin identity history input.1 input.2)
    (hforward : (run.map Prod.snd).Pairwise (· ≤ ·))
    (hknown : KnownOrNew origin identity (monitorOf repo path origin state))
    (hbaseline : BaselineAt history (monitorOf repo path origin state).repo b)
    (hbefore : ∀ m ∈ b, ∀ n ∈ run.map Prod.snd, m ≤ n)
    (hguard : config.historyMachine.Along (Announces repo place path origin history) state run) :
    announced place path (config.historyMachine.outputs state run) =
      spanFrom history b (observed place path run (config.historyMachine.outputs state run)) := by
  induction run generalizing state b with
  | nil =>
    cases b with
    | none => rfl
    | some m => exact (slice_self history m).symm
  | cons input run ih =>
    obtain ⟨poll, n⟩ := input
    have hinput := hstands _ mem_cons_self
    rw [map_cons, pairwise_cons] at hforward
    obtain ⟨watched, hvisits, hseen, hknown'⟩ : ∃ watched,
        visitsOf place path (config.pollGitAt state poll).2 = snapshotVisits place path watched ∧
        Seen repo ((poll.repos place).paths path) path (monitorOf repo path origin state).repo
          (monitorOf repo path origin (config.pollGitAt state poll).1).repo watched ∧
        KnownOrNew origin identity (monitorOf repo path origin (config.pollGitAt state poll).1) :=
      pollGitAt_seen hrepo hapart hinput hknown
    have hrest (b' : Option ℕ)
        (hbaseline' : BaselineAt history (monitorOf repo path origin (config.pollGitAt state poll).1).repo b')
        (hbefore' : ∀ m ∈ b', ∀ k ∈ run.map Prod.snd, m ≤ k) :=
      ih (fun i hi => hstands i (mem_cons_of_mem _ hi)) hforward.2 hknown' hbaseline' hbefore' hguard.2
    have hlater : ∀ m ∈ b, ∀ k ∈ run.map Prod.snd, m ≤ k := fun m hm k hk => hbefore m hm k (mem_cons_of_mem _ hk)
    have hstep : config.historyMachine.step state (poll, n) = config.pollGitAt state poll := rfl
    rw [Machine.outputs_cons, announced_cons, hstep, announced_of_visits hvisits, observed_of_visits hvisits]
    generalize (monitorOf repo path origin (config.pollGitAt state poll).1).repo = after at hseen hrest
    cases hseen with
    | not | failed message => exact hrest b hbaseline hlater
    | seen hsnapshot =>
      obtain ⟨new, hnew⟩ : ∃ new, history[n]? = some new := ⟨_, getElem?_eq_getElem hinput.position⟩
      obtain ⟨head, -, hok, -, hshead, -⟩ := snapshot_of_ok hsnapshot
      have hsha : trim head = new.sha := by
        rw [hinput.answers.head new hnew head hok]
        exact trim_line (hlinear.printed new (mem_of_getElem? hnew)).sha.stripped
      -- The head of the snapshot is the new baseline.
      have hnext := hrest (some n) ⟨_, new, rfl, hnew, hshead.trans hsha⟩ fun m hm k hk => by
        cases hm
        exact hforward.1 k hk
      have hnow := announced_seen hlinear hemit hinput.answers hbaseline
        (fun m hm => hbefore m hm n mem_cons_self) hguard.1 hnew hsnapshot
      have hlast : n ≤ (observed place path run
          (config.historyMachine.outputs (config.pollGitAt state poll).1 run)).getLastD n :=
        le_getLastD fun k hk => hforward.1 k (mem_observed hk)
      rw [hnext, map_some, getD_some]
      rw [hnow]
      cases b with
      | none => rfl
      | some m =>
        have hmn : m ≤ n := hbefore m rfl n mem_cons_self
        show slice history m n ++ slice history n _ = slice history m ((n :: _).getLastD m)
        rw [getLastD_cons]
        exact slice_append hmn hlast

/-- A run announces every commit after the first position at which the worktree was seen, up to the last
one, once and in order, if it reads the new commits of every poll. -/
theorem announced_of_readable (config : Monitors) (repo : GitRepoMonitor) (place : ℕ) (path : String)
    (origin : GitMonitorOrigin) (identity : GitPathIdentity) (history : List CommitEntry)
    (run : List (GitPoll × ℕ)) (hrepo : (repo, place) ∈ config.repos.zipIdx)
    (hscenario : Scenario repo place path origin identity history run)
    (hapart : Apart config repo place (ownKey repo path origin)) (hemit : repo.emit_commits = true)
    (hguard : config.historyMachine.Along (Announces repo place path origin history) [] run) :
    announced place path (config.historyMachine.outputs [] run) =
      spanFrom history none (observed place path run (config.historyMachine.outputs [] run)) :=
  announced_run hrepo hapart hemit hscenario.linear hscenario.stands hscenario.forward
    (.inr ⟨rfl, rfl⟩) rfl (fun _ hm => nomatch hm) hguard

end

namespace Sample

/-- A history of three commits. -/
def threeCommits : List CommitEntry :=
  [{ sha := "a1", summary := "one" }, { sha := "b2", summary := "two" }, { sha := "c3", summary := "three" }]

/-- The position of an object name. -/
def positionOf (sha : String) : ℕ := (threeCommits.map CommitEntry.sha).idxOf sha

/-- A repository that is polled at a position of its history; `reads` says whether its log answers. -/
def rootAt (secs n : ℕ) (reads : Bool) : GitPoll where
  now := fromSecs secs
  repos _ := {
    worktrees := .ok "worktree /r\n"
    pathsMatch := fun _ => false
    paths := fun _ => {
      head := .ok ((threeCommits.map CommitEntry.sha).getD n "" ++ "\n")
      branch := .ok "main"
      summary := .ok ((threeCommits.map CommitEntry.summary).getD n "" ++ "\n")
      log := fun old new =>
        if reads then .ok (logOutput (slice threeCommits (positionOf old) (positionOf new)))
        else .error "fatal: unable to read tree" } }

/-- Two commits are made between two polls. -/
def twoAhead (reads : Bool) : List (GitPoll × ℕ) := [(rootAt 0 0 reads, 0), (rootAt 5 2 reads, 2)]

theorem objectName_of {digits : List Char} (h : sha.toList = digits) (hne : digits ≠ [])
    (hall : digits.all fun c => c.isDigit || (range' 97 6).contains c.toNat) : ObjectName sha := by
  rw [ObjectName, h]
  refine ⟨hne, fun c hc => ?_⟩
  have hdigit := all_eq_true.mp hall c hc
  simpa using hdigit

theorem linear_threeCommits : Linear threeCommits where
  printed := by
    have hprinted (commit : CommitEntry) (hname : ObjectName commit.sha)
        (hline : (commit.summary.toList.contains '\n') = false) : commit.Printed :=
      ⟨hname, by simpa using hline⟩
    simp only [threeCommits, forall_mem_cons]
    refine ⟨hprinted _ ?_ (by decide), hprinted _ ?_ (by decide), hprinted _ ?_ (by decide), by simp⟩
    · exact objectName_of (rfl : _ = ['a', '1']) (by simp) (by decide)
    · exact objectName_of (rfl : _ = ['b', '2']) (by simp) (by decide)
    · exact objectName_of (rfl : _ = ['c', '3']) (by simp) (by decide)
  distinct := by decide +kernel

theorem readable_slice {m : ℕ} (h : m < 2) : Readable (slice threeCommits m 2) := by
  have hlast : (slice threeCommits m 2).getLast? = some { sha := "c3", summary := "three" } := by
    interval_cases m <;> rfl
  refine ⟨?_, ?_⟩
  · interval_cases m <;> decide +kernel
  · intro commit hcommit c hc
    rw [hlast] at hcommit
    obtain rfl := some.inj hcommit
    have hc : some 'e' = some c := hc
    obtain rfl := some.inj hc
    decide

theorem positionOf_eq {m : ℕ} {commit : CommitEntry} (h : threeCommits[m]? = some commit) :
    positionOf commit.sha = m := by
  obtain ⟨hlt, rfl⟩ := List.getElem?_eq_some_iff.mp h
  have hnames : ∀ i : Fin threeCommits.length, positionOf (threeCommits.get i).sha = i.val := by decide +kernel
  exact hnames ⟨m, hlt⟩

theorem answersAt_rootAt (secs n : ℕ) (reads : Bool) (path : String) :
    AnswersAt threeCommits n (((rootAt secs n reads).repos 0).paths path) where
  head := by
    rintro commit hcommit output ⟨⟩
    simp [getD_eq_getElem?_getD, hcommit]
  summary := by
    rintro commit hcommit output ⟨⟩
    simp [getD_eq_getElem?_getD, hcommit]
  log := by
    intro m old new _ hold hnew output houtput
    have hlog : (if reads then
        (.ok (logOutput (slice threeCommits (positionOf old.sha) (positionOf new.sha))) : Except String String)
        else .error "fatal: unable to read tree") = .ok output := houtput
    split_ifs at hlog
    cases hlog
    rw [positionOf_eq hold, positionOf_eq hnew]

theorem standsAt_rootAt (secs : ℕ) {n : ℕ} (h : n < 3) (reads : Bool) :
    StandsAt monitored 0 "/r" .declarative {} threeCommits (rootAt secs n reads) n := by
  have hdiscovered : ((rootAt secs n reads).repos 0).discovered monitored = .ok ["/r"] := by
    show ((runCommand (.ok "worktree /r\n")).bind fun output =>
      Except.ok (if (firsts id (parseWorktreeList output)).isEmpty then ["/r"]
        else firsts id (parseWorktreeList output))) = .ok ["/r"]
    decide +kernel
  refine ⟨h, rfl, fun _ paths hpaths path' hmem hne => ?_, fun paths hpaths => ?_, rfl, fun _ => rfl,
    answersAt_rootAt secs n reads _⟩
  · rw [hdiscovered] at hpaths
    cases hpaths
    exact absurd (mem_singleton.mp hmem) hne
  · rw [hdiscovered] at hpaths
    cases hpaths
    exact mem_cons_self

theorem scenario_twoAhead (reads : Bool) : Scenario monitored 0 "/r" .declarative {} threeCommits (twoAhead reads) where
  linear := linear_threeCommits
  stands := by
    intro input hinput
    simp only [twoAhead, mem_cons, not_mem_nil, or_false] at hinput
    rcases hinput with rfl | rfl
    · exact standsAt_rootAt 0 (by decide) reads
    · exact standsAt_rootAt 5 (by decide) reads
  forward := by
    show [0, 2].Pairwise (· ≤ ·)
    decide

/-- A log that is not read loses a commit. -/
theorem failing_log_loses_commit : Scenario monitored 0 "/r" .declarative {} threeCommits (twoAhead false) ∧
      announced 0 "/r" (oneRepo.historyMachine.outputs [] (twoAhead false)) ≠
        spanFrom threeCommits none (observed 0 "/r" (twoAhead false)
          (oneRepo.historyMachine.outputs [] (twoAhead false))) := by
  refine ⟨scenario_twoAhead false, ?_⟩
  decide +kernel

theorem log_announces_commits : announced 0 "/r" (oneRepo.historyMachine.outputs [] (twoAhead true)) =
      spanFrom threeCommits none (observed 0 "/r" (twoAhead true)
        (oneRepo.historyMachine.outputs [] (twoAhead true))) := by
  refine announced_of_readable oneRepo monitored 0 "/r" .declarative {} threeCommits (twoAhead true)
    mem_cons_self (scenario_twoAhead true) ?_ rfl ⟨?_, ?_, trivial⟩
  · intro entry hentry hplace
    have hentry : entry = (monitored, 0) := mem_singleton.mp hentry
    exact absurd (congrArg Prod.snd hentry) hplace
  · -- Nothing has been seen before the first poll.
    intro baseline m old new hbaseline
    cases hbaseline
  · intro baseline m old new _ _ _ _ hlt _
    exact readable_slice hlt

end Sample

end Clawhip.Git
