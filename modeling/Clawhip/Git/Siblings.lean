import Clawhip.Git.Poll
import Mathlib.Data.List.Nodup

/-!
# Worktrees and their siblings

What a poll does to one worktree. Every worktree has a monitor of its own, but the root of a repository
shares one with the discovery of the worktrees; `isolated_of_unheld` says that a worktree is polled for
its own sake as long as no failure of the root holds the discovery back.
-/

namespace Clawhip.Git

open List Option OrdMap PollProgress RepoAnswers

/-! ## One key of a poll -/

/-- The snapshots of one worktree. -/
def visitsOf (place : ℕ) (path : String) (visits : List Visit) : List Visit :=
  visits.filter fun visit => visit.place == place && visit.path == path

/-- What a poll has done to one key and to one worktree. -/
structure Focus where
  monitor : Option GitMonitorState
  active : Bool
  visits : List Visit

def PollProgress.focus (key : String) (place : ℕ) (path : String) (progress : PollProgress) : Focus where
  monitor := progress.state.get key
  active := progress.active.contains key
  visits := visitsOf place path progress.visits

section

variable (poll_interval : ℕ) (poll : GitPoll) (repo : GitRepoMonitor) (key : String) (place : ℕ)
  (path : String)

theorem visitsOf_append (visits visits' : List Visit) :
    visitsOf place path (visits ++ visits') = visitsOf place path visits ++ visitsOf place path visits' :=
  filter_append ..

theorem visitsOf_eq_nil {visits : List Visit}
    (h : ∀ visit ∈ visits, ¬ (visit.place = place ∧ visit.path = path)) : visitsOf place path visits = [] := by
  refine filter_eq_nil_iff.mpr fun visit hmem heq => h visit hmem ?_
  simpa only [Bool.and_eq_true, beq_iff_eq] using heq

variable {answers : RepoAnswers} {now place' : ℕ} {paths : List String}

/-- A worktree leaves the keys and the snapshots of the others alone. -/
theorem pollPath_other {path' : String} (hkey : answers.monitoredStateKey repo path' ≠ key)
    (hvisit : ¬ (place' = place ∧ path' = path)) (progress : PollProgress) :
    (pollPath poll_interval now repo place' answers progress path').focus key place path =
      progress.focus key place path := by
  unfold pollPath focus
  simp only [monitored, Focus.mk.injEq]
  refine ⟨get_insert_ne _ _ (Ne.symm hkey), ?_, ?_⟩
  · rw [contains_cons, beq_false_of_ne (Ne.symm hkey), Bool.false_or]
  · rw [visitsOf_append]
    refine (congrArg _ (visitsOf_eq_nil _ _ fun visit hmem => ?_)).trans (append_nil _)
    obtain ⟨watched, -, rfl⟩ := map_eq_some_iff.mp (mem_toList.mp hmem)
    exact hvisit

theorem pollPaths_other (hother : ∀ path' ∈ paths, answers.monitoredStateKey repo path' ≠ key ∧
      ¬ (place' = place ∧ path' = path)) (progress : PollProgress) :
    (paths.foldl (pollPath poll_interval now repo place' answers) progress).focus key place path =
      progress.focus key place path := by
  induction paths generalizing progress with
  | nil => rfl
  | cons path' paths ih =>
    obtain ⟨hkey, hvisit⟩ := hother path' mem_cons_self
    rw [foldl_cons, ih fun p hp => hother p (mem_cons_of_mem _ hp), pollPath_other _ _ _ _ _ hkey hvisit]

/-- Where the keys of a repository begin. -/
theorem monitoredStateKey_cases (answers : RepoAnswers) (worktree_path : String) :
    answers.monitoredStateKey repo worktree_path = discoveryStateKey repo ∨
      answers.monitoredStateKey repo worktree_path = repoStatePrefix repo ++ worktree_path := by
  unfold monitoredStateKey
  split_ifs
  · exact .inl rfl
  · exact .inr rfl

theorem startsWith_append (start rest : String) : Text.startsWith (start ++ rest) start = true := by
  unfold Text.startsWith
  rw [List.isPrefixOf_iff_prefix, String.toList_append]
  exact prefix_append _ _

/-- The key is none of a repository. -/
structure Foreign (repo : GitRepoMonitor) (key : String) : Prop where
  discovery : discoveryStateKey repo ≠ key
  paths : Text.startsWith key (repoStatePrefix repo) = false

theorem Foreign.ne {repo : GitRepoMonitor} {key : String} (h : Foreign repo key) (answers : RepoAnswers)
    (worktree_path : String) : answers.monitoredStateKey repo worktree_path ≠ key := by
  intro heq
  rcases monitoredStateKey_cases repo answers worktree_path with hkey | hkey
  · exact h.discovery (hkey.symm.trans heq)
  · have hstarts := h.paths
    rw [← heq, hkey, startsWith_append] at hstarts
    cases hstarts

theorem preserve_other {repo : GitRepoMonitor}
    (h : Text.startsWith key (repoStatePrefix repo) = false) (progress : PollProgress) :
    (preserveRepoMonitorKeys repo progress).focus key place path = progress.focus key place path := by
  unfold preserveRepoMonitorKeys focus
  have hnot : (progress.state.keys.filter (Text.startsWith · (repoStatePrefix repo))).contains key = false := by
    rw [contains_eq_mem, decide_eq_false_iff_not, mem_filter]
    rintro ⟨-, hstarts⟩
    rw [h] at hstarts
    cases hstarts
  rw [contains_append, hnot, Bool.false_or]

/-- A repository leaves foreign keys alone. -/
theorem pollRepo_other (hplace : place' ≠ place) (hforeign : Foreign repo key) (progress : PollProgress) :
    (pollRepo poll_interval poll progress (repo, place')).focus key place path = progress.focus key place path := by
  have hstart (monitor : GitMonitorState) :
      ({ progress with
        state := progress.state.insert (discoveryStateKey repo) monitor
        active := discoveryStateKey repo :: progress.active } : PollProgress).focus key place path =
      progress.focus key place path := by
    unfold focus
    simp only [Focus.mk.injEq, and_true]
    refine ⟨get_insert_ne _ _ (Ne.symm hforeign.discovery), ?_⟩
    rw [contains_cons, beq_false_of_ne (Ne.symm hforeign.discovery), Bool.false_or]
  unfold pollRepo
  simp only
  split
  · rw [preserve_other _ _ _ hforeign.paths, hstart]
  · rw [preserve_other _ _ _ hforeign.paths, hstart]
  · rw [pollPaths_other _ _ _ _ _ fun path' _ => ⟨hforeign.ne _ _, fun h => hplace h.1⟩, hstart]

/-- The snapshot of a worktree, if there is one. -/
def snapshotVisits (watched : Option (Except String GitSnapshot × List IncomingEvent)) : List Visit :=
  (watched.map fun (snapshot, events) => { place, path, snapshot, events }).toList

theorem visitsOf_snapshotVisits (watched : Option (Except String GitSnapshot × List IncomingEvent)) :
    visitsOf place path (snapshotVisits place path watched) = snapshotVisits place path watched := by
  refine filter_eq_self.mpr fun visit hmem => ?_
  obtain ⟨_, -, rfl⟩ := map_eq_some_iff.mp (mem_toList.mp hmem)
  simp

/-- What a worktree does to its own key. -/
def Focus.watch (poll_interval now : ℕ) (repo : GitRepoMonitor) (place : ℕ) (answers : PathAnswers)
    (origin : GitMonitorOrigin) (path : String) (focus : Focus) : Focus :=
  let watched := watchPath poll_interval now repo answers origin path (focus.monitor.getD {})
  { monitor := some watched.1
    active := true
    visits := focus.visits ++ snapshotVisits place path watched.2 }

theorem pollPath_own (hkey : answers.monitoredStateKey repo path = key) (progress : PollProgress) :
    (pollPath poll_interval now repo place answers progress path).focus key place path =
      (progress.focus key place path).watch poll_interval now repo place (answers.paths path)
        (answers.monitorOrigin repo path) path := by
  unfold pollPath focus Focus.watch
  simp only [monitored, hkey, Focus.mk.injEq]
  refine ⟨get_insert_self _ _ _, by simp, ?_⟩
  rw [visitsOf_append]
  exact congrArg _ (visitsOf_snapshotVisits _ _ _)

/-- The worktrees of a repository do to a key what its own worktree does. -/
theorem pollPaths_focus (hnodup : paths.Nodup) (hkey : answers.monitoredStateKey repo path = key)
    (hother : ∀ path' ∈ paths, path' ≠ path → answers.monitoredStateKey repo path' ≠ key) (progress : PollProgress) :
    (paths.foldl (pollPath poll_interval now repo place answers) progress).focus key place path = if path ∈ paths then
        (progress.focus key place path).watch poll_interval now repo place (answers.paths path)
          (answers.monitorOrigin repo path) path else progress.focus key place path := by
  have haside {paths' : List String} (hsub : ∀ p ∈ paths', p ∈ paths) (hnot : path ∉ paths') :
      ∀ p ∈ paths', answers.monitoredStateKey repo p ≠ key ∧ ¬ (place = place ∧ p = path) := by
    intro p hp
    have hne : p ≠ path := fun heq => hnot (heq ▸ hp)
    exact ⟨hother p (hsub p hp) hne, fun h => hne h.2⟩
  split_ifs with hmem
  · obtain ⟨before, after, rfl⟩ := append_of_mem hmem
    obtain ⟨-, hnodup', hdisjoint⟩ := nodup_append.mp hnodup
    have hbefore : path ∉ before := fun h => hdisjoint path h path mem_cons_self rfl
    have hafter : path ∉ after := (nodup_cons.mp hnodup').1
    rw [foldl_append, foldl_cons, pollPaths_other _ _ _ _ _ (haside (by simp +contextual) hafter),
      pollPath_own _ _ _ _ _ hkey, pollPaths_other _ _ _ _ _ (haside (by simp +contextual) hbefore)]
  · exact pollPaths_other _ _ _ _ _ (haside (fun _ h => h) hmem) progress

end

/-! ## The own repository -/

/-- What the repository of a worktree does to the key of the worktree after its discovery. -/
def Focus.ofDiscovery (poll_interval now : ℕ) (repo : GitRepoMonitor) (place : ℕ) (answers : PathAnswers)
    (origin : GitMonitorOrigin) (path : String) (discovery : Discovery) (focus : Focus) : Focus :=
  match discovery with
  | .skipped | .failed => { focus with active := focus.active || focus.monitor.isSome }
  | .found paths =>
    if path ∈ paths then focus.watch poll_interval now repo place answers origin path else focus

variable {answers : RepoAnswers} {paths : List String} {repo : GitRepoMonitor} {monitor : GitMonitorState}
  {poll_interval place : ℕ} {path : String} {config : Monitors} {origin : GitMonitorOrigin}
  {state : OrdMap String GitMonitorState} {identity : GitPathIdentity}

theorem discovered_nodup (h : answers.discovered repo = .ok paths) : paths.Nodup := by
  unfold discovered at h
  cases houtput : runCommand answers.worktrees with
  | error e =>
    rw [houtput] at h
    cases h
  | ok output =>
    rw [houtput] at h
    simp only [bind, Except.bind, pure, Except.pure, Except.ok.injEq] at h
    subst h
    split_ifs
    · exact nodup_singleton _
    · exact pairwise_firstsAfter [] (parseWorktreeList output)

variable {now : ℕ}

/-- What the discovery finds is what the command answered. -/
theorem discovered_of_found (h : (discover poll_interval now repo answers monitor).2 = .found paths) :
    answers.discovered repo = .ok paths := by
  unfold discover at h
  simp only at h
  split at h
  · cases h
  · split at h
    · rename_i hdiscovered
      cases h
      exact hdiscovered
    · cases h

/-- What the discovery does to the monitor of the root. -/
def Focus.discovered (poll_interval now : ℕ) (repo : GitRepoMonitor) (answers : RepoAnswers)
    (focus : Focus) : Focus :=
  { focus with
    monitor := some (discover poll_interval now repo answers (focus.monitor.getD {})).1
    active := true }

variable {key : String}

theorem preserve_focus (place : ℕ) (path : String)
    (h : Text.startsWith key (repoStatePrefix repo) = true) (progress : PollProgress) :
    (preserveRepoMonitorKeys repo progress).focus key place path =
      { progress.focus key place path with
        active := (progress.focus key place path).active ||
          (progress.focus key place path).monitor.isSome } := by
  unfold preserveRepoMonitorKeys focus
  have hkeys : (progress.state.keys.filter (Text.startsWith · (repoStatePrefix repo))).contains key =
      (progress.state.get key).isSome := by
    rw [Bool.eq_iff_iff, contains_iff_mem, mem_filter, h, isSome_iff_ne_none, Ne, get_eq_none_iff]
    simp
  rw [contains_append, hkeys, Bool.or_comm]

theorem discoveryStateKey_ne (repo repo' : GitRepoMonitor) (rest : String) :
    discoveryStateKey repo ≠ repoStatePrefix repo' ++ rest := by
  intro heq
  have hchars := congrArg (fun s => s.toList.head?) heq
  simp [discoveryStateKey, repoStatePrefix] at hchars

theorem startsWith_discoveryStateKey (repo repo' : GitRepoMonitor) :
    Text.startsWith (discoveryStateKey repo) (repoStatePrefix repo') = false := by
  unfold Text.startsWith
  rw [Bool.eq_false_iff, Ne, isPrefixOf_iff_prefix]
  rintro ⟨rest, heq⟩
  have hchars := congrArg head? heq
  simp [discoveryStateKey, repoStatePrefix] at hchars

theorem repoStatePrefix_inj {path' : String}
    (h : repoStatePrefix repo ++ path = repoStatePrefix repo ++ path') : path = path' := by
  have hchars := congrArg String.toList h
  rw [String.toList_append, String.toList_append] at hchars
  exact String.toList_inj.mp (append_cancel_left hchars)

section

variable {poll_interval : ℕ} {poll : GitPoll} {repo : GitRepoMonitor} {place : ℕ} {path : String}

/-- A poll of the own repository, for a worktree that is not the root. -/
theorem pollRepo_dynamic (horigin : (poll.repos place).monitorOrigin repo path = .dynamic) (progress : PollProgress) :
    (pollRepo poll_interval poll progress (repo, place)).focus (repoStatePrefix repo ++ path) place path =
      (progress.focus (repoStatePrefix repo ++ path) place path).ofDiscovery poll_interval poll.now repo
        place ((poll.repos place).paths path) .dynamic path (discover poll_interval poll.now repo (poll.repos place)
          ((progress.state.get (discoveryStateKey repo)).getD {})).2 := by
  have hne : discoveryStateKey repo ≠ repoStatePrefix repo ++ path := discoveryStateKey_ne _ _ _
  have hkey : (poll.repos place).monitoredStateKey repo path = repoStatePrefix repo ++ path := by
    unfold monitoredStateKey
    rw [horigin, if_neg (by decide)]
  have hstart (monitor : GitMonitorState) :
      ({ progress with
        state := progress.state.insert (discoveryStateKey repo) monitor
        active := discoveryStateKey repo :: progress.active } : PollProgress).focus
          (repoStatePrefix repo ++ path) place path =
      progress.focus (repoStatePrefix repo ++ path) place path := by
    unfold focus
    simp only [Focus.mk.injEq, and_true]
    refine ⟨get_insert_ne _ _ (Ne.symm hne), ?_⟩
    rw [contains_cons, beq_false_of_ne (Ne.symm hne), Bool.false_or]
  unfold pollRepo Focus.ofDiscovery
  cases hdiscover : discover poll_interval poll.now repo (poll.repos place)
      ((progress.state.get (discoveryStateKey repo)).getD {}) with
  | mk monitor discovery =>
    simp only [hdiscover]
    cases discovery with
    | skipped | failed => rw [preserve_focus _ _ (startsWith_append _ _), hstart]
    | found paths =>
      have hfound : (poll.repos place).discovered repo = .ok paths := discovered_of_found (congrArg Prod.snd hdiscover)
      rw [pollPaths_focus _ _ _ _ _ (discovered_nodup hfound) hkey _, hstart, horigin]
      intro path' _ hpath' heq
      rcases monitoredStateKey_cases repo (poll.repos place) path' with hroot | hdynamic
      · exact hne (hroot.symm.trans heq)
      · exact hpath' (repoStatePrefix_inj (hdynamic.symm.trans heq))

/-- A poll of the own repository, for the root. -/
theorem pollRepo_declarative (horigin : (poll.repos place).monitorOrigin repo path = .declarative)
    (halone : ∀ paths, (poll.repos place).discovered repo = .ok paths → ∀ path' ∈ paths, path' ≠ path →
      (poll.repos place).monitorOrigin repo path' = .dynamic) (progress : PollProgress) :
    (pollRepo poll_interval poll progress (repo, place)).focus (discoveryStateKey repo) place path =
      ((progress.focus (discoveryStateKey repo) place path).discovered poll_interval poll.now repo
        (poll.repos place)).ofDiscovery poll_interval poll.now repo place
        ((poll.repos place).paths path) .declarative path (discover poll_interval poll.now repo (poll.repos place)
          ((progress.state.get (discoveryStateKey repo)).getD {})).2 := by
  have hkey : (poll.repos place).monitoredStateKey repo path = discoveryStateKey repo := by
    unfold monitoredStateKey
    rw [horigin, if_pos rfl]
  have hstart : ({ progress with
        state := progress.state.insert (discoveryStateKey repo) (discover poll_interval poll.now repo (poll.repos place)
            ((progress.state.get (discoveryStateKey repo)).getD {})).1
        active := discoveryStateKey repo :: progress.active } : PollProgress).focus
          (discoveryStateKey repo) place path =
      (progress.focus (discoveryStateKey repo) place path).discovered poll_interval poll.now repo
        (poll.repos place) := by
    unfold focus Focus.discovered
    simp only [Focus.mk.injEq, and_true]
    exact ⟨get_insert_self _ _ _, by simp⟩
  unfold pollRepo Focus.ofDiscovery
  cases hdiscover : discover poll_interval poll.now repo (poll.repos place)
      ((progress.state.get (discoveryStateKey repo)).getD {}) with
  | mk monitor discovery =>
    rw [hdiscover] at hstart
    simp only [hdiscover]
    cases discovery with
    | skipped | failed => exact (preserve_other _ _ _ (startsWith_discoveryStateKey _ _) _).trans hstart
    | found paths =>
      have hfound : (poll.repos place).discovered repo = .ok paths := discovered_of_found (congrArg Prod.snd hdiscover)
      rw [pollPaths_focus _ _ _ _ _ (discovered_nodup hfound) hkey _, hstart, horigin]
      intro path' hmem hpath' heq
      have hdynamic := halone paths hfound path' hmem hpath'
      unfold monitoredStateKey at heq
      rw [hdynamic, if_neg (by decide)] at heq
      exact discoveryStateKey_ne _ _ _ heq.symm

end

/-! ## Whole polls -/

/-- No other repository of a configuration shares a key with a worktree or with the discovery of its
repository. -/
def Apart (config : Monitors) (repo : GitRepoMonitor) (place : ℕ) (key : String) : Prop :=
  ∀ entry ∈ config.repos.zipIdx, entry.2 ≠ place → Foreign entry.1 key ∧ Foreign entry.1 (discoveryStateKey repo)

/-- What is left of a key after a poll. -/
def Focus.kept (focus : Focus) : Option GitMonitorState := if focus.active then focus.monitor else none

/-- A poll does to the key of a worktree what its own repository does to it. -/
theorem pollGitAt_focus (hrepo : (repo, place) ∈ config.repos.zipIdx)
    (hapart : Apart config repo place key) (path : String) (state : OrdMap String GitMonitorState)
    (poll : GitPoll) : ∃ progress : PollProgress,
      progress.focus key place path = { monitor := state.get key, active := false, visits := [] } ∧
      progress.state.get (discoveryStateKey repo) = state.get (discoveryStateKey repo) ∧
      (config.pollGitAt state poll).1.get key =
        ((pollRepo (max config.poll_interval_secs 1) poll progress (repo, place)).focus key place path).kept ∧
      visitsOf place path (config.pollGitAt state poll).2 =
        ((pollRepo (max config.poll_interval_secs 1) poll progress (repo, place)).focus key place path).visits := by
  obtain ⟨before, after, hsplit⟩ := append_of_mem hrepo
  have hplaces : (config.repos.zipIdx.map Prod.snd).Nodup := by
    rw [zipIdx_map_snd]
    exact nodup_range' _
  rw [hsplit, map_append, map_cons] at hplaces
  obtain ⟨-, hplaces', hdisjoint⟩ := nodup_append.mp hplaces
  have hbefore : ∀ entry ∈ before, entry.2 ≠ place := fun entry hentry heq =>
    hdisjoint entry.2 (mem_map_of_mem hentry) place mem_cons_self heq
  have hafter : ∀ entry ∈ after, entry.2 ≠ place := fun entry hentry heq =>
    (nodup_cons.mp hplaces').1 (mem_map.mpr ⟨entry, hentry, heq⟩)
  have hmem {entry : GitRepoMonitor × ℕ} (h : entry ∈ before ∨ entry ∈ after) : entry ∈ config.repos.zipIdx := by
    rw [hsplit]
    rcases h with h | h <;> simp [h]
  have hothers (key' : String) (entries : List (GitRepoMonitor × ℕ))
      (hentries : ∀ entry ∈ entries, entry.2 ≠ place ∧ Foreign entry.1 key') (progress : PollProgress) :
      (entries.foldl (pollRepo (max config.poll_interval_secs 1) poll) progress).focus key' place path =
        progress.focus key' place path := by
    induction entries generalizing progress with
    | nil => rfl
    | cons entry entries ih =>
      obtain ⟨hplace, hforeign⟩ := hentries entry mem_cons_self
      rw [foldl_cons, ih fun e he => hentries e (mem_cons_of_mem _ he)]
      exact pollRepo_other _ _ _ _ _ _ hplace hforeign progress
  -- What comes after the own repository leaves the key as it is.
  have hfinal : (config.repos.zipIdx.foldl (pollRepo (max config.poll_interval_secs 1) poll)
      { state }).focus key place path = (pollRepo (max config.poll_interval_secs 1) poll
        (before.foldl (pollRepo (max config.poll_interval_secs 1) poll) { state })
        (repo, place)).focus key place path := by
    rw [hsplit, foldl_append, foldl_cons]
    exact hothers key after (fun entry hentry =>
      ⟨hafter entry hentry, (hapart entry (hmem (.inr hentry)) (hafter entry hentry)).1⟩) _
  refine ⟨before.foldl (pollRepo (max config.poll_interval_secs 1) poll) { state }, ?_, ?_, ?_, ?_⟩
  · rw [hothers key before fun entry hentry =>
      ⟨hbefore entry hentry, (hapart entry (hmem (.inl hentry)) (hbefore entry hentry)).1⟩]
    rfl
  · have hfocus := hothers (discoveryStateKey repo) before (fun entry hentry =>
      ⟨hbefore entry hentry, (hapart entry (hmem (.inl hentry)) (hbefore entry hentry)).2⟩) { state }
    exact congrArg Focus.monitor hfocus
  · rw [← hfinal]
    exact get_filter_key _ _ _
  · rw [← hfinal]
    rfl

/-! ## What concerns one worktree -/

/-- What a poll finds that concerns one worktree; the identity that the discovery reads is the worktree's
own if it is the root. -/
structure OwnAnswers where
  now : ℕ
  origin : GitMonitorOrigin
  listed : Bool
  answers : PathAnswers
  identity : Readings

def ownAnswers (repo : GitRepoMonitor) (place : ℕ) (path : String) (poll : GitPoll) : OwnAnswers where
  now := poll.now
  origin := (poll.repos place).monitorOrigin repo path
  listed :=
    match (poll.repos place).discovered repo with
    | .ok paths => decide (path ∈ paths)
    | .error _ => false
  answers := (poll.repos place).paths path
  identity :=
    if (poll.repos place).monitorOrigin repo path = .declarative then (poll.repos place).identity else {}

/-- The key of a worktree. -/
def ownKey (repo : GitRepoMonitor) (path : String) : GitMonitorOrigin → String
  | .declarative => discoveryStateKey repo
  | .dynamic => repoStatePrefix repo ++ path

/-- The identity that a poll reads first of a worktree. -/
def OwnAnswers.reading (own : OwnAnswers) : GitPathIdentity :=
  match own.origin with
  | .declarative => own.identity.registered
  | .dynamic => own.answers.identity.registered

/-- A worktree on its own, once it is looked for. -/
def watchOwn (poll_interval : ℕ) (repo : GitRepoMonitor) (place : ℕ) (path : String) (own : OwnAnswers)
    (focus : Focus) : Focus :=
  if own.listed then focus.watch poll_interval own.now repo place own.answers own.origin path else focus

/-- A worktree on its own. -/
def ownPoll (poll_interval : ℕ) (repo : GitRepoMonitor) (place : ℕ) (path : String) (own : OwnAnswers)
    (monitor : Option GitMonitorState) : Focus :=
  match own.origin with
  | .dynamic =>
    watchOwn poll_interval repo place path own { monitor, active := false, visits := [] }
  | .declarative =>
    let registered :=
      reconcileMonitorRegistration (monitor.getD {}) .declarative own.identity.registered
    match shouldSkipFailedMonitor registered own.identity.probed own.now with
    | (true, monitor) => { monitor := some monitor, active := true, visits := [] }
    | (false, monitor) =>
      watchOwn poll_interval repo place path own
        { monitor := some (clearMonitorFailure monitor .discovery), active := true, visits := [] }

/-- A failure in the monitor of the root holds the discovery back. -/
def held (repo : GitRepoMonitor) (place : ℕ) (state : OrdMap String GitMonitorState) (poll : GitPoll) :
    Bool :=
  (shouldSkipFailedMonitor
    (reconcileMonitorRegistration ((state.get (discoveryStateKey repo)).getD {}) .declarative
      (poll.repos place).identity.registered) (poll.repos place).identity.probed poll.now).1

/-- The worktree is the root, and the only one, or no failure of the root holds the discovery back. -/
structure Unheld (repo : GitRepoMonitor) (place : ℕ) (path : String) (origin : GitMonitorOrigin)
    (state : OrdMap String GitMonitorState) (poll : GitPoll) : Prop where
  same : (poll.repos place).monitorOrigin repo path = origin
  alone : origin = .declarative → ∀ paths, (poll.repos place).discovered repo = .ok paths →
    ∀ path' ∈ paths, path' ≠ path → (poll.repos place).monitorOrigin repo path' = .dynamic
  unheld : origin = .dynamic → held repo place state poll = false

theorem discover_of_ok (hdiscovered : answers.discovered repo = .ok paths) (monitor : GitMonitorState) :
    discover poll_interval now repo answers monitor = match shouldSkipFailedMonitor
        (reconcileMonitorRegistration monitor .declarative answers.identity.registered) answers.identity.probed now with
      | (true, monitor) => (monitor, .skipped)
      | (false, monitor) => (clearMonitorFailure monitor .discovery, .found paths) := by
  unfold discover
  generalize answers.discovered repo = found at hdiscovered
  subst hdiscovered
  rfl

/-- A poll does to a worktree what the worktree does on its own. -/
theorem pollGitAt_own (hrepo : (repo, place) ∈ config.repos.zipIdx)
    (hapart : Apart config repo place (ownKey repo path origin)) {poll : GitPoll}
    (hunheld : Unheld repo place path origin state poll)
    (hdiscovered : (poll.repos place).discovered repo = .ok paths) :
    let focus := ownPoll (max config.poll_interval_secs 1) repo place path
      (ownAnswers repo place path poll) (state.get (ownKey repo path origin))
    (config.pollGitAt state poll).1.get (ownKey repo path origin) = focus.kept ∧
      visitsOf place path (config.pollGitAt state poll).2 = focus.visits := by
  obtain ⟨progress, hfocus, hroot, hkept, hvisits⟩ := pollGitAt_focus hrepo hapart path state poll
  have horigin := hunheld.same
  suffices h : (pollRepo (max config.poll_interval_secs 1) poll progress (repo, place)).focus
      (ownKey repo path origin) place path = ownPoll (max config.poll_interval_secs 1) repo place path
        (ownAnswers repo place path poll) (state.get (ownKey repo path origin)) by
    rw [h] at hkept hvisits
    exact ⟨hkept, hvisits⟩
  have hlisted : (ownAnswers repo place path poll).listed = decide (path ∈ paths) := by
    simp only [ownAnswers, hdiscovered]
  cases origin with
  | dynamic =>
    have hheld := hunheld.unheld rfl
    unfold held at hheld
    have hfound : (discover (max config.poll_interval_secs 1) poll.now repo (poll.repos place)
        ((progress.state.get (discoveryStateKey repo)).getD {})).2 = .found paths := by
      rw [hroot, discover_of_ok hdiscovered]
      split
      · rename_i hskip
        rw [hskip] at hheld
        cases hheld
      · rfl
    have hown : (ownAnswers repo place path poll).origin = .dynamic := horigin
    unfold ownKey at hfocus ⊢
    rw [pollRepo_dynamic horigin, hfound, hfocus]
    unfold ownPoll Focus.ofDiscovery watchOwn
    rw [hown, hlisted]
    simp only [decide_eq_true_eq]
    rfl
  | declarative =>
    have hown : (ownAnswers repo place path poll).origin = .declarative := horigin
    have hidentity : (ownAnswers repo place path poll).identity = (poll.repos place).identity := by
      unfold ownAnswers
      rw [if_pos horigin]
    unfold ownKey at hfocus ⊢
    rw [pollRepo_declarative horigin (hunheld.alone rfl), hroot, hfocus]
    unfold ownPoll Focus.ofDiscovery Focus.discovered watchOwn
    rw [hown, hlisted, hidentity]
    simp only [discover_of_ok hdiscovered]
    have hnow : (ownAnswers repo place path poll).now = poll.now := rfl
    rw [hnow]
    cases hskip : shouldSkipFailedMonitor
        (reconcileMonitorRegistration ((state.get (discoveryStateKey repo)).getD {}) .declarative
          (poll.repos place).identity.registered) (poll.repos place).identity.probed poll.now with
    | mk skip monitor =>
      cases skip with
      | true => rfl
      | false =>
        simp only [decide_eq_true_eq]
        rfl

/-! ## Changed identities -/

/-- A monitor that nothing holds back. -/
def Fresh (monitor : GitMonitorState) : Prop := monitor.failure = none ∧ monitor.lifecycle = .active

theorem fresh_reconcile (h : Fresh monitor) (origin : GitMonitorOrigin) (identity : GitPathIdentity) :
    Fresh (reconcileMonitorRegistration monitor origin identity) := by
  unfold reconcileMonitorRegistration
  simp only
  split_ifs
  · exact ⟨rfl, rfl⟩
  · exact h

/-- A changed identity makes a monitor fresh, whatever became of it before. -/
theorem fresh_of_changed {identity' : GitPathIdentity} (h : monitor.identity = some identity)
    (hne : identity ≠ identity') (origin : GitMonitorOrigin) :
    Fresh (reconcileMonitorRegistration monitor origin identity') := by
  unfold reconcileMonitorRegistration
  have hchanged : monitor.identity.any (· != identity') = true := by
    rw [h]
    simpa using hne
  simp only [hchanged, Bool.or_true, if_true]
  exact ⟨rfl, rfl⟩

theorem shouldSkip_of_fresh (h : Fresh monitor) (identity : GitPathIdentity) (now : ℕ) :
    (shouldSkipFailedMonitor monitor identity now).1 = false ∧
      Fresh (shouldSkipFailedMonitor monitor identity now).2 := by
  unfold shouldSkipFailedMonitor
  split_ifs with hidentity hretired
  · exact ⟨rfl, fresh_reconcile h _ _⟩
  · rw [h.2] at hretired
    cases hretired
  · rw [h.1]
    exact ⟨rfl, h⟩

theorem fresh_clear (h : Fresh monitor) (operation : GitMonitorOperation) :
    Fresh (clearMonitorFailure monitor operation) := by
  unfold clearMonitorFailure
  split_ifs
  · exact h
  · exact ⟨rfl, rfl⟩

variable {answers : PathAnswers}

/-- A monitor that nothing holds back is polled. -/
theorem watchPath_of_fresh (poll_interval now : ℕ) (repo : GitRepoMonitor)
    (path : String) (h : Fresh (reconcileMonitorRegistration monitor origin answers.identity.registered)) :
    (watchPath poll_interval now repo answers origin path monitor).2.isSome = true := by
  obtain ⟨hgo, -⟩ := shouldSkip_of_fresh h answers.identity.probed now
  unfold watchPath
  simp only
  split
  · rename_i hskip
    rw [hskip] at hgo
    cases hgo
  · split <;> rfl

theorem visits_of_watch {focus : Focus}
    (h : Fresh (reconcileMonitorRegistration (focus.monitor.getD {}) origin answers.identity.registered)) :
    (focus.watch poll_interval now repo place answers origin path).visits ≠ [] := by
  obtain ⟨watched, hwatched⟩ := isSome_iff_exists.mp (watchPath_of_fresh poll_interval now repo path h)
  unfold Focus.watch snapshotVisits
  simp [hwatched]

/-- A worktree whose identity changed is polled. -/
theorem ownPoll_of_changed {own : OwnAnswers} (hlisted : own.listed = true)
    (hidentity : monitor.identity = some identity) (hne : identity ≠ own.reading) :
    (ownPoll poll_interval repo place path own (some monitor)).visits ≠ [] := by
  unfold OwnAnswers.reading at hne
  unfold ownPoll watchOwn
  cases horigin : own.origin with
  | dynamic =>
    rw [horigin] at hne
    simp only [hlisted, if_true]
    exact visits_of_watch (fresh_of_changed hidentity hne _)
  | declarative =>
    rw [horigin] at hne
    have hfresh := fresh_of_changed hidentity hne .declarative
    obtain ⟨hgo, hfresh'⟩ := shouldSkip_of_fresh hfresh own.identity.probed own.now
    simp only [hlisted, if_true, getD_some]
    split
    · rename_i hskip
      rw [hskip] at hgo
      cases hgo
    · rename_i hskip
      rw [hskip] at hfresh'
      exact visits_of_watch (fresh_reconcile (fresh_clear hfresh' _) _ _)

/-! ## Runs -/

/-- The snapshots of a worktree, poll by poll. -/
def viewOf (config : Monitors) (place : ℕ) (path : String) (polls : List GitPoll) : List (List Visit) :=
  (config.machine.outputs [] polls).map (visitsOf place path)

/-- The discovery of the worktrees of a repository succeeds in every poll. -/
def DiscoverySucceeds (repo : GitRepoMonitor) (place : ℕ) (polls : List GitPoll) : Prop :=
  ∀ poll ∈ polls, ∃ paths, (poll.repos place).discovered repo = .ok paths

/-- What a poll finds of a worktree is not what was registered. -/
def Changed (repo : GitRepoMonitor) (place : ℕ) (path : String) (state : OrdMap String GitMonitorState)
    (poll : GitPoll) : Prop :=
  ∃ monitor identity, state.get (ownKey repo path ((poll.repos place).monitorOrigin repo path)) = some monitor ∧
      monitor.identity = some identity ∧ identity ≠ (ownAnswers repo place path poll).reading

/-- Two runs in which a worktree finds the same show the same of it, and it is polled again when its
identity changes. -/
structure Isolated (config : Monitors) (repo : GitRepoMonitor) (place : ℕ) (path : String)
    (polls polls' : List GitPoll) : Prop where
  own : DiscoverySucceeds repo place polls → DiscoverySucceeds repo place polls' →
    polls.map (ownAnswers repo place path) = polls'.map (ownAnswers repo place path) →
    viewOf config place path polls = viewOf config place path polls'
  resumes : DiscoverySucceeds repo place polls → ∀ before poll after, polls = before ++ poll :: after →
    (ownAnswers repo place path poll).listed = true →
    Changed repo place path (config.machine.run [] before) poll →
    visitsOf place path (config.pollGitAt (config.machine.run [] before) poll).2 ≠ []

theorem views_of_own (hrepo : (repo, place) ∈ config.repos.zipIdx)
    (hapart : Apart config repo place (ownKey repo path origin)) {polls polls' : List GitPoll}
    {state' : OrdMap String GitMonitorState}
    (hunheld : config.machine.Along (Unheld repo place path origin) state polls)
    (hunheld' : config.machine.Along (Unheld repo place path origin) state' polls')
    (hdiscovery : DiscoverySucceeds repo place polls) (hdiscovery' : DiscoverySucceeds repo place polls')
    (hown : polls.map (ownAnswers repo place path) = polls'.map (ownAnswers repo place path))
    (hstate : state.get (ownKey repo path origin) = state'.get (ownKey repo path origin)) :
    (config.machine.outputs state polls).map (visitsOf place path) =
      (config.machine.outputs state' polls').map (visitsOf place path) := by
  induction polls generalizing polls' state state' with
  | nil =>
    rw [map_nil, eq_comm, map_eq_nil_iff] at hown
    rw [hown]
    rfl
  | cons poll polls ih =>
    cases polls' with
    | nil => cases hown
    | cons poll' polls' =>
      rw [map_cons, map_cons, cons.injEq] at hown
      obtain ⟨hpoll, hown⟩ := hown
      obtain ⟨paths, hpaths⟩ := hdiscovery poll mem_cons_self
      obtain ⟨paths', hpaths'⟩ := hdiscovery' poll' mem_cons_self
      obtain ⟨hkept, hvisits⟩ := pollGitAt_own hrepo hapart hunheld.1 hpaths
      obtain ⟨hkept', hvisits'⟩ := pollGitAt_own hrepo hapart hunheld'.1 hpaths'
      rw [hpoll, hstate] at hkept hvisits
      have hrest := ih hunheld.2 hunheld'.2 (fun p hp => hdiscovery p (mem_cons_of_mem _ hp))
        (fun p hp => hdiscovery' p (mem_cons_of_mem _ hp)) hown (hkept.trans hkept'.symm)
      simp only [Machine.outputs_cons, map_cons, Monitors.machine_step] at hrest ⊢
      rw [hrest, hvisits, hvisits']

/-- A worktree is polled for its own sake in runs in which no failure of the root holds the discovery
back. -/
theorem isolated_of_unheld (config : Monitors) (repo : GitRepoMonitor) (place : ℕ) (path : String)
    (origin : GitMonitorOrigin) (polls polls' : List GitPoll) (hrepo : (repo, place) ∈ config.repos.zipIdx)
    (hapart : Apart config repo place (ownKey repo path origin))
    (hunheld : config.machine.Along (Unheld repo place path origin) [] polls)
    (hunheld' : config.machine.Along (Unheld repo place path origin) [] polls') :
    Isolated config repo place path polls polls' where
  own := fun hdiscovery hdiscovery' hown =>
    views_of_own hrepo hapart hunheld hunheld' hdiscovery hdiscovery' hown rfl
  resumes := by
    rintro hdiscovery before poll after rfl hlisted ⟨monitor, identity, hmonitor, hidentity, hne⟩
    obtain ⟨paths, hpaths⟩ := hdiscovery poll (by simp)
    rw [Machine.along_append] at hunheld
    have hpoll := hunheld.2.1
    obtain ⟨-, hvisits⟩ := pollGitAt_own hrepo hapart hpoll hpaths
    rw [hpoll.same] at hmonitor
    rw [hvisits, hmonitor]
    exact ownPoll_of_changed hlisted hidentity hne

namespace Sample

/-- A repository with one linked worktree. -/
def monitored : GitRepoMonitor where
  path := "/r"

def oneRepo : Monitors where
  poll_interval_secs := 5
  repos := [monitored]

def pathAt (head : Except String String) : PathAnswers where
  head := head
  branch := .ok "main"
  summary := .ok "summary"
  log _ _ := .error "bad revision"

/-- A poll at a second; `root` is what the root answers, and `head` the head of the worktree. -/
def pollAt (secs : ℕ) (root : Except String String) (head : String) : GitPoll where
  now := fromSecs secs
  repos _ := {
    worktrees := .ok "worktree /r\n\nworktree /w\n"
    pathsMatch := fun _ => false
    paths := fun path => if path = "/r" then pathAt root else pathAt (.ok head) }

/-- The worktree moves to a new head while the root does not answer. -/
def failingRoot : List GitPoll :=
  [pollAt 0 (.ok "r1") "w1", pollAt 5 (.error "index.lock exists") "w1",
    pollAt 10 (.error "index.lock exists") "w2"]

/-- The same with a root that answers. -/
def healthyRoot : List GitPoll := [pollAt 0 (.ok "r1") "w1", pollAt 5 (.ok "r1") "w1", pollAt 10 (.ok "r2") "w2"]

theorem discovered_pollAt (secs : ℕ) (root : Except String String) (head : String) :
    ((pollAt secs root head).repos 0).discovered monitored = .ok ["/r", "/w"] := by
  show ((runCommand (.ok "worktree /r\n\nworktree /w\n")).bind fun output =>
    Except.ok (if (firsts id (parseWorktreeList output)).isEmpty then ["/r"]
      else firsts id (parseWorktreeList output))) = .ok ["/r", "/w"]
  decide +kernel

/-- A root that fails keeps its linked worktree from being polled. -/
theorem failing_root_silences : ¬ Isolated oneRepo monitored 0 "/w" failingRoot healthyRoot := by
  intro h
  have hdiscovery : ∀ polls, (∀ poll ∈ polls, ∃ secs root head, poll = pollAt secs root head) →
      DiscoverySucceeds monitored 0 polls := by
    intro polls hpolls poll hpoll
    obtain ⟨secs, root, head, rfl⟩ := hpolls poll hpoll
    exact ⟨_, discovered_pollAt secs root head⟩
  have hview := h.own (hdiscovery _ (by simp [failingRoot])) (hdiscovery _ (by simp [healthyRoot])) rfl
  have hcounts := congrArg (List.map List.length) hview
  have hfailing : (viewOf oneRepo 0 "/w" failingRoot).map List.length = [1, 1, 0] := by decide +kernel
  have hhealthy : (viewOf oneRepo 0 "/w" healthyRoot).map List.length = [1, 1, 1] := by decide +kernel
  rw [hfailing, hhealthy] at hcounts
  cases hcounts

/-- A root that moves does not change what is seen of its worktree. -/
theorem moving_root_isolates :
    Isolated oneRepo monitored 0 "/w" [pollAt 0 (.ok "r1") "w1", pollAt 5 (.ok "r2") "w2"]
      [pollAt 0 (.ok "r1") "w1", pollAt 5 (.ok "r1") "w2"] := by
  have hunheld (state : OrdMap String GitMonitorState) (poll : GitPoll)
      (hsame : (poll.repos 0).monitorOrigin monitored "/w" = .dynamic)
      (hheld : held monitored 0 state poll = false) : Unheld monitored 0 "/w" .dynamic state poll :=
    ⟨hsame, fun h => (nomatch h), fun _ => hheld⟩
  refine isolated_of_unheld oneRepo monitored 0 "/w" .dynamic _ _ mem_cons_self ?_
    ⟨hunheld _ _ ?_ ?_, hunheld _ _ ?_ ?_, trivial⟩ ⟨hunheld _ _ ?_ ?_, hunheld _ _ ?_ ?_, trivial⟩
  · intro entry hentry hplace
    have hentry : entry = (monitored, 0) := mem_singleton.mp hentry
    exact absurd (congrArg Prod.snd hentry) hplace
  all_goals decide +kernel

end Sample

end Clawhip.Git
