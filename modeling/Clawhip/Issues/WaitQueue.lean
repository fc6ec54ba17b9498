import Clawhip.Issues.CommentLives

/-!
# The queue of waiting comments

What one pass over a repository's comments keeps. The invariant is about the comments that wait, which
a loop has in its hands in part: the queue agrees with the log, a lookup that failed is counted once
for a comment, and what a comment still has to be counted for is bounded by what the pass owes it.
-/

namespace Clawhip.Issues

open List Option OrdMap PendingPRComment

/-- The pull requests that were asked for. -/
def lookedUp (log : List Effect) : List ℕ :=
  log.filterMap fun
    | .lookup number _ => some number
    | _ => none

/-- The failed lookups of a pull request since a comment was accepted, so far. -/
def failedStep (key : Bool × ℕ) (number : ℕ) (count : ℕ) : Effect → ℕ
  | .accepted comment => if comment.key = key then 0 else count
  | .lookup other .failed => if other = number then count + 1 else count
  | _ => count

/-- The failed lookups of a pull request since a comment was accepted. -/
def failedSince (key : Bool × ℕ) (number : ℕ) (log : List Effect) : ℕ := log.foldl (failedStep key number) 0

/-- A comment comes from one that waited at the start or was accepted, and its attempts grew at most by
one, for a failed lookup of its pull request. -/
def Grown (start : List PendingPRComment) (log : List Effect) (comment : PendingPRComment) : Prop :=
  ∃ origin, (origin ∈ start ∨ Effect.accepted origin ∈ log) ∧ origin.asAccepted = comment.asAccepted ∧
    (comment.attempts = origin.attempts ∨
      comment.attempts = origin.attempts + 1 ∧ Effect.lookup comment.number .failed ∈ log)

/-! ## What a lookup leaves alone -/

/-- Two states have the same receipts and the same queue. -/
structure PRActivityState.Alike (state state' : PRActivityState) : Prop where
  ids : state'.ids = state.ids
  pending : state'.pending_comments = state.pending_comments

/-- A pass looked up a pull request, or did not. -/
structure Pass.Looked (pass : Pass) (number : ℕ) (pass' : Pass) : Prop where
  alike : pass.state.Alike pass'.state
  counted : pass'.counted = pass.counted
  tables : (pass'.attempted = pass.attempted ∧ pass'.log = pass.log) ∨
    ∃ outcome, pass.attempted.get number = none ∧ pass.attempted.length < MAX_PR_METADATA_LOOKUPS ∧
      pass'.attempted = pass.attempted.insert number outcome ∧ pass'.log = pass.log ++ [.lookup number outcome]

section

variable (source : Source) (input : ActivityPoll)

theorem cachePrMetadata_alike (state : PRActivityState) (number : ℕ) (metadata : Option PRActivityMetadata) :
    state.Alike (cachePrMetadata state number metadata) := by
  unfold cachePrMetadata
  dsimp only
  split_ifs
  all_goals exact ⟨rfl, rfl⟩

theorem knownPrMetadata_alike (number : ℕ) (state : PRActivityState) :
    state.Alike (knownPrMetadata input number state).2 := by
  unfold knownPrMetadata
  split
  · exact cachePrMetadata_alike state number _
  · exact ⟨rfl, rfl⟩

/-- What is known stays known. -/
theorem knownPrMetadata_again (number : ℕ) (state : PRActivityState)
    (h : (knownPrMetadata input number state).1.isSome = true) :
    (knownPrMetadata input number (knownPrMetadata input number state).2).1.isSome = true := by
  unfold knownPrMetadata at h ⊢
  cases hpr : ((input.prs.get number).or (input.scan.bind fun prs => prs.get number)).filter
      fun pr => decide (pr.author ≠ "") with
  | some pr => rfl
  | none =>
    rw [hpr] at h
    exact h

variable (pass : Pass)

theorem known_looked (number : ℕ) : pass.Looked number (pass.known input number).2 :=
  ⟨knownPrMetadata_alike input number pass.state, rfl, .inl ⟨rfl, rfl⟩⟩

theorem resolve_looked {pass : Pass} {number : ℕ} (hnone : pass.attempted.get number = none)
    (hlength : pass.attempted.length < MAX_PR_METADATA_LOOKUPS) : pass.Looked number (pass.resolve input number) := by
  refine ⟨?_, rfl, .inr ⟨(input.answer number).outcome, hnone, hlength, rfl, rfl⟩⟩
  unfold Pass.resolve
  dsimp only [Pass.note]
  split
  · exact cachePrMetadata_alike pass.state number _
  · exact ⟨rfl, rfl⟩

/-- The lookup of a turn of the loop. -/
theorem lookUp_looked (number : ℕ) : pass.Looked number (pass.lookUp input number) := by
  have hknown := known_looked input pass number
  unfold Pass.lookUp
  dsimp only
  split_ifs with hlook
  -- A request was made, after the cache may have been filled.
  · simp only [Bool.and_eq_true, decide_eq_true_eq, isNone_iff_eq_none] at hlook
    have hresolve := resolve_looked input hlook.1.2 hlook.2
    refine ⟨⟨hresolve.alike.ids.trans hknown.alike.ids,
      hresolve.alike.pending.trans hknown.alike.pending⟩, hresolve.counted, hresolve.tables⟩
  · exact hknown

/-- What is not known after the turn's lookup was looked up in this poll, or there is no budget. -/
theorem lookUp_spent (number : ℕ) (h : ((pass.lookUp input number).known input number).1 = none) :
    number ∈ (pass.lookUp input number).attempted.keys ∨
      MAX_PR_METADATA_LOOKUPS ≤ (pass.lookUp input number).attempted.length := by
  have hkeys {attempted : OrdMap ℕ MetadataLookup} (h : (attempted.get number).isNone = false) :
      number ∈ attempted.keys := by
    by_contra hnot
    rw [get_eq_none_iff.mpr hnot] at h
    cases h
  unfold Pass.lookUp at h ⊢
  dsimp only at h ⊢
  split_ifs at h ⊢ with hlook
  · refine .inl (hkeys ?_)
    show (get (pass.attempted.insert number _) number).isNone = false
    rw [get_insert_self]
    rfl
  · have hnone : (pass.known input number).1.isNone = true := by
      rw [isNone_iff_eq_none]
      by_contra hsome
      have hagain := knownPrMetadata_again input number pass.state (isSome_iff_ne_none.mpr hsome)
      rw [show (knownPrMetadata input number (knownPrMetadata input number pass.state).2).1 = none from h] at hagain
      cases hagain
    -- Nothing is known and no request was made: there is an attempt, or no budget.
    rw [hnone, Bool.true_and, Bool.and_eq_true, not_and_or] at hlook
    rcases hlook with hattempted | hlength
    · exact .inl (hkeys (Bool.eq_false_iff.mpr hattempted))
    · exact .inr (by simpa using hlength)

end

variable (state : PRActivityState) (inline : Bool) (ids : List ℕ)

@[simp] theorem ids_withIds : (state.withIds inline ids).ids = Function.update state.ids inline ids := by
  funext other
  unfold PRActivityState.withIds PRActivityState.ids
  cases inline <;> cases other <;> simp [Function.update]

@[simp] theorem pending_withIds : (state.withIds inline ids).pending_comments = state.pending_comments := by
  unfold PRActivityState.withIds
  split_ifs
  all_goals rfl

/-! ## Counting -/

variable {key : Bool × ℕ} {number : ℕ} {log : List Effect} (key : Bool × ℕ)

theorem failedSince_concat (number : ℕ) (log : List Effect) (effect : Effect) :
    failedSince key number (log ++ [effect]) = failedStep key number (failedSince key number log) effect := by
  unfold failedSince
  rw [foldl_append]
  rfl

theorem failedStep_failed (number count other : ℕ) :
    failedStep key number count (.lookup other .failed) = if other = number then count + 1 else count := rfl

theorem lookedUp_concat (log : List Effect) (effect : Effect) :
    lookedUp (log ++ [effect]) = lookedUp log ++ lookedUp [effect] := filterMap_append

theorem Grown.mono {start : List PendingPRComment} {comment : PendingPRComment} {log' : List Effect}
    (h : Grown start log comment) (hlog : ∀ effect ∈ log, effect ∈ log') : Grown start log' comment := by
  obtain ⟨origin, horigin, hsame, hattempts⟩ := h
  exact ⟨origin, horigin.imp_right (hlog _), hsame, hattempts.imp_right fun h => ⟨h.1, hlog _ h.2⟩⟩

/-! ## What a pass keeps -/

/-- A failed lookup that is not counted yet. -/
def Pass.owes (pass : Pass) (comment : PendingPRComment) : ℕ :=
  if pass.attempted.get comment.number = some .failed ∧ comment.key ∉ pass.counted then 1 else 0

/-- A pass with these comments waiting, in a poll that began with others after a log. -/
structure Pass.Sound (past : List Effect) (start : List PendingPRComment) (numberOf : Bool × ℕ → ℕ)
    (waiting : List PendingPRComment) (pass : Pass) : Prop where
  tracked : Tracked (waiting.map PendingPRComment.asAccepted) pass.state.ids (past ++ pass.log)
  short : waiting.length ≤ MAX_PENDING_PR_COMMENTS
  queued : ∀ length, Effect.queued length ∈ pass.log → length ≤ MAX_PENDING_PR_COMMENTS
  keys : pass.attempted.keys.Nodup
  budget : pass.attempted.length ≤ MAX_PR_METADATA_LOOKUPS
  looked : (lookedUp pass.log).Perm pass.attempted.keys
  failed : ∀ number, pass.attempted.get number = some .failed → Effect.lookup number .failed ∈ pass.log
  numbers : ∀ comment ∈ waiting, comment.number = numberOf comment.key
  counted : ∀ key ∈ pass.counted, pass.attempted.get (numberOf key) = some .failed
  grown : ∀ comment ∈ waiting, ∃ origin, (origin ∈ start ∨ Effect.accepted origin ∈ pass.log) ∧
    origin.asAccepted = comment.asAccepted ∧ (comment.attempts = origin.attempts ∨
      comment.attempts = origin.attempts + 1 ∧ comment.key ∈ pass.counted)
  spent : ∀ comment event, Effect.emitted comment event ∈ pass.log → Grown start pass.log comment
  due : ∀ comment ∈ waiting, failedSince comment.key comment.number (past ++ pass.log) ≤
    comment.attempts + pass.owes comment

/-- A comment that a drain retains. -/
structure Pass.Settled (pass : Pass) (comment : PendingPRComment) : Prop where
  counted : pass.attempted.get comment.number = some .failed → comment.key ∈ pass.counted
  spent : comment.number ∈ pass.attempted.keys ∨ MAX_PR_METADATA_LOOKUPS ≤ pass.attempted.length
  attempts : comment.attempts < MAX_METADATA_ATTEMPTS

section

variable {past : List Effect} {start waiting waiting' : List PendingPRComment}
  {numberOf : Bool × ℕ → ℕ} {pass pass' : Pass} {comment : PendingPRComment} {key : Bool × ℕ}
  {number : ℕ}

theorem Pass.Sound.perm (h : pass.Sound past start numberOf waiting) (hperm : waiting.Perm waiting') :
    pass.Sound past start numberOf waiting' :=
  { h with
    tracked := h.tracked.perm (hperm.map _)
    short := hperm.length_eq ▸ h.short
    numbers := fun comment hmem => h.numbers comment (hperm.mem_iff.mpr hmem)
    grown := fun comment hmem => h.grown comment (hperm.mem_iff.mpr hmem)
    due := fun comment hmem => h.due comment (hperm.mem_iff.mpr hmem) }

theorem map_key_asAccepted (waiting : List PendingPRComment) :
    (waiting.map asAccepted).map PendingPRComment.key = waiting.map PendingPRComment.key := by
  rw [List.map_map]
  rfl

section

variable (h : pass.Sound past start numberOf waiting)
include h

theorem Pass.Sound.nodup : (waiting.map PendingPRComment.key).Nodup := map_key_asAccepted waiting ▸ h.tracked.keys

/-- What a comment that waits owes to the poll. -/
theorem Pass.Sound.grown_of_mem (hmem : comment ∈ waiting) : Grown start pass.log comment := by
  obtain ⟨origin, horigin, hsame, hattempts⟩ := h.grown comment hmem
  refine ⟨origin, horigin, hsame, hattempts.imp_right fun hmore => ⟨hmore.1, ?_⟩⟩
  refine h.failed _ ?_
  rw [h.numbers comment hmem]
  exact h.counted _ hmore.2

/-- A pass is as sound as another one with the same receipts, tables and log. -/
theorem Pass.Sound.congr (hids : pass'.state.ids = pass.state.ids) (hcounted : pass'.counted = pass.counted)
    (hattempted : pass'.attempted = pass.attempted) (hlog : pass'.log = pass.log) :
    pass'.Sound past start numberOf waiting := by
  obtain ⟨htracked, hshort, hqueued, hkeys, hbudget, hlooked, hfailed, hnumbers, hcount, hgrown, hspent, hdue⟩ := h
  unfold owes at hdue
  rw [← hlog, ← hids] at htracked
  rw [← hlog] at hqueued hlooked hfailed hspent hdue hgrown
  rw [← hattempted] at hkeys hbudget hlooked hfailed hcount hdue
  rw [← hcounted] at hcount hgrown hdue
  exact ⟨htracked, hshort, hqueued, hkeys, hbudget, hlooked, hfailed, hnumbers, hcount, hgrown, hspent, hdue⟩

end

/-- One more lookup is a new entry of the table. -/
theorem insert_perm_of_none {attempted : OrdMap ℕ MetadataLookup} (hkeys : attempted.keys.Nodup)
    (hnone : attempted.get number = none) (outcome : MetadataLookup) :
    (attempted.insert number outcome).Perm ((number, outcome) :: attempted) := by
  have hperm := insert_perm hkeys number outcome
  rwa [erase_get_none hnone] at hperm

/-- A lookup of a turn keeps a pass sound. -/
theorem Pass.Sound.lookup (h : pass.Sound past start numberOf waiting)
    (hlooked : pass.Looked number pass') : pass'.Sound past start numberOf waiting := by
  obtain ⟨halike, hcounted, ⟨hattempted, hlog⟩ | ⟨outcome, hnone, hlength, hattempted, hlog⟩⟩ := hlooked
  · exact h.congr halike.ids hcounted hattempted hlog
  · have hperm := insert_perm_of_none h.keys hnone outcome
    have hmono : ∀ effect ∈ pass.log, effect ∈ pass'.log := by
      intro effect heffect
      rw [hlog]
      exact mem_append_left _ heffect
    -- The number was not looked up before, so no entry of the table is overwritten.
    have hold {other : ℕ} {old : MetadataLookup} (hget : pass.attempted.get other = some old) :
        pass'.attempted.get other = some old := by
      rw [hattempted, get_insert_ne]
      · exact hget
      · rintro rfl
        rw [hnone] at hget
        cases hget
    have hpast : past ++ pass'.log = (past ++ pass.log) ++ [.lookup number outcome] := by rw [hlog, append_assoc]
    refine ⟨?_, h.short, ?_, ?_, ?_, ?_, ?_, h.numbers, ?_, ?_, ?_, ?_⟩
    · rw [hpast, halike.ids]
      exact h.tracked.skip _ fun _ _ => rfl
    · intro length hmem
      rw [hlog] at hmem
      rcases mem_append.mp hmem with hmem | hmem
      · exact h.queued length hmem
      · cases mem_singleton.mp hmem
    · rw [hattempted]
      exact nodup_insert h.keys number outcome
    · rw [hattempted, hperm.length_eq, length_cons]
      exact hlength
    · rw [hlog, lookedUp_concat, hattempted]
      refine (perm_append_comm.trans ?_).trans (hperm.map Prod.fst).symm
      exact h.looked.cons number
    · intro other hget
      rw [hlog]
      rw [hattempted, get_insert] at hget
      split_ifs at hget with hsame
      · obtain rfl : outcome = .failed := some.inj hget
        rw [hsame]
        exact mem_append_right _ (mem_singleton_self _)
      · exact mem_append_left _ (h.failed other hget)
    · intro key hkey
      rw [hcounted] at hkey
      exact hold (h.counted key hkey)
    · intro comment hmem
      obtain ⟨origin, horigin, hsame, hattempts⟩ := h.grown comment hmem
      rw [hcounted]
      exact ⟨origin, horigin.imp_right (hmono _), hsame, hattempts⟩
    · intro comment event hmem
      rw [hlog] at hmem
      rcases mem_append.mp hmem with hmem | hmem
      · exact (h.spent comment event hmem).mono hmono
      · cases mem_singleton.mp hmem
    · intro comment hmem
      have hdue := h.due comment hmem
      rw [hpast, failedSince_concat]
      unfold owes at hdue ⊢
      rw [hcounted, hattempted, get_insert]
      -- A failure of this lookup is owed from now on, and counted when the comment's turn comes.
      by_cases hsame : comment.number = number
      · rw [if_pos hsame]
        rw [hsame, hnone, if_neg fun h => nomatch h.1] at hdue
        have hfresh : comment.key ∉ pass.counted := by
          intro hkey
          have hget := h.counted _ hkey
          rw [← h.numbers comment hmem, hsame, hnone] at hget
          cases hget
        rw [hsame]
        cases outcome with
        | failed =>
          rw [if_pos ⟨rfl, hfresh⟩]
          rw [failedStep_failed, if_pos rfl]
          omega
        | resolved | backoff => exact hdue.trans (Nat.le_add_right _ _)
      · rw [if_neg hsame]
        cases outcome with
        | failed =>
          rw [failedStep_failed, if_neg fun h => hsame h.symm]
          exact hdue
        | resolved | backoff => exact hdue

/-- A lookup settles nothing anew, and unsettles nothing. -/
theorem Pass.Settled.lookup (h : pass.Settled comment) (hkeys : pass.attempted.keys.Nodup)
    (hlooked : pass.Looked number pass') : pass'.Settled comment := by
  obtain ⟨halike, hcounted, ⟨hattempted, hlog⟩ | ⟨outcome, hnone, hlength, hattempted, hlog⟩⟩ := hlooked
  · obtain ⟨hcount, hspent, hattempts⟩ := h
    rw [← hattempted] at hcount hspent
    rw [← hcounted] at hcount
    exact ⟨hcount, hspent, hattempts⟩
  · have hmem : comment.number ∈ pass.attempted.keys := h.spent.resolve_right (by omega)
    have hne : comment.number ≠ number := by
      intro hsame
      exact get_eq_none_iff.mp hnone (hsame ▸ hmem)
    refine ⟨?_, .inl ?_, h.attempts⟩
    · rw [hattempted, get_insert_ne _ _ hne, hcounted]
      exact h.counted
    · rw [hattempted]
      exact ((insert_perm_of_none hkeys hnone outcome).map Prod.fst).mem_iff.mpr (mem_cons_of_mem _ hmem)

theorem count_asAccepted (pass : Pass) (comment : PendingPRComment) :
    (pass.count comment).1.asAccepted = comment.asAccepted := by
  unfold Pass.count
  split_ifs
  all_goals rfl

/-- A failed lookup is counted. -/
theorem Pass.Sound.count (h : pass.Sound past start numberOf (comment :: waiting)) :
    (pass.count comment).2.Sound past start numberOf ((pass.count comment).1 :: waiting) := by
  obtain ⟨hkey, -⟩ := nodup_cons.mp h.nodup
  unfold Pass.count
  split_ifs with hcount
  · obtain ⟨hfailed, hfresh⟩ := hcount
    have hnumber : comment.number = numberOf comment.key := h.numbers comment mem_cons_self
    refine ⟨h.tracked, h.short, h.queued, h.keys, h.budget, h.looked, h.failed, ?_, ?_, ?_, h.spent, ?_⟩
    · intro other hother
      rcases mem_cons.mp hother with rfl | hother
      · exact hnumber
      · exact h.numbers other (mem_cons_of_mem _ hother)
    · intro key hmem
      rcases mem_cons.mp hmem with rfl | hmem
      · rw [← hnumber]
        exact hfailed
      · exact h.counted key hmem
    · intro other hother
      rcases mem_cons.mp hother with rfl | hother
      · obtain ⟨origin, horigin, hsame, hattempts⟩ := h.grown comment mem_cons_self
        have hbefore : comment.attempts = origin.attempts := hattempts.resolve_right fun hmore => hfresh hmore.2
        exact ⟨origin, horigin, hsame, .inr ⟨congrArg (· + 1) hbefore, mem_cons_self⟩⟩
      · obtain ⟨origin, horigin, hsame, hattempts⟩ := h.grown other (mem_cons_of_mem _ hother)
        exact ⟨origin, horigin, hsame, hattempts.imp_right fun hmore => ⟨hmore.1, mem_cons_of_mem _ hmore.2⟩⟩
    · intro other hother
      rcases mem_cons.mp hother with rfl | hother
      · have hdue := h.due comment mem_cons_self
        unfold owes at hdue ⊢
        rw [if_pos ⟨hfailed, hfresh⟩] at hdue
        rw [if_neg fun h => h.2 mem_cons_self]
        exact hdue
      · have hdue := h.due other (mem_cons_of_mem _ hother)
        have hne : other.key ≠ comment.key := fun hsame => hkey (hsame ▸ List.mem_map_of_mem hother)
        unfold owes at hdue ⊢
        simp only [mem_cons, hne, false_or]
        exact hdue
  · exact h

/-- After it is counted, a failed lookup is among those that are. -/
theorem count_counted (pass : Pass) (comment : PendingPRComment)
    (h : (pass.count comment).2.attempted.get (pass.count comment).1.number = some .failed) :
    (pass.count comment).1.key ∈ (pass.count comment).2.counted := by
  unfold Pass.count at h ⊢
  split_ifs at h ⊢ with hcount
  · exact mem_cons_self
  · by_contra hnot
    exact hcount ⟨h, hnot⟩

/-- The log goes on without a lookup. What waits then waited before, or is accepted. -/
theorem Pass.Sound.extend (h : pass.Sound past start numberOf waiting) (extra : List Effect)
    (hcounted : pass'.counted = pass.counted) (hattempted : pass'.attempted = pass.attempted)
    (hlog : pass'.log = pass.log ++ extra) (hextra : lookedUp extra = [])
    (hqueued : ∀ length, Effect.queued length ∈ extra → length ≤ MAX_PENDING_PR_COMMENTS)
    (hspent : ∀ comment event, Effect.emitted comment event ∈ extra → Grown start (pass.log ++ extra) comment)
    (htracked : Tracked (waiting'.map asAccepted) pass'.state.ids ((past ++ pass.log) ++ extra))
    (hshort : waiting'.length ≤ MAX_PENDING_PR_COMMENTS) (hwaiting : ∀ comment ∈ waiting', comment ∈ waiting ∨
      comment.number = numberOf comment.key ∧ Effect.accepted comment ∈ extra)
    (hdue : ∀ comment ∈ waiting', failedSince comment.key comment.number ((past ++ pass.log) ++ extra) ≤
      comment.attempts + pass.owes comment) : pass'.Sound past start numberOf waiting' := by
  have hmono : ∀ effect ∈ pass.log, effect ∈ pass'.log := fun effect heffect => hlog ▸ mem_append_left _ heffect
  have hlookedUp : lookedUp pass'.log = lookedUp pass.log := by
    rw [hlog]
    unfold lookedUp at hextra ⊢
    rw [filterMap_append, hextra, append_nil]
  refine ⟨?_, hshort, ?_, ?_, ?_, ?_, ?_, ?_, ?_, ?_, ?_, ?_⟩
  · rw [hlog, ← append_assoc]
    exact htracked
  · intro length hmem
    rw [hlog] at hmem
    exact (mem_append.mp hmem).elim (h.queued length) (hqueued length)
  · exact hattempted ▸ h.keys
  · exact hattempted ▸ h.budget
  · rw [hlookedUp, hattempted]
    exact h.looked
  · intro number hget
    exact hmono _ (h.failed number (hattempted ▸ hget))
  · intro comment hmem
    exact (hwaiting comment hmem).elim (h.numbers comment) And.left
  · intro key hkey
    rw [hattempted]
    exact h.counted key (hcounted ▸ hkey)
  · intro comment hmem
    rw [hcounted]
    rcases hwaiting comment hmem with hmem | ⟨-, haccepted⟩
    · obtain ⟨origin, horigin, hsame, hattempts⟩ := h.grown comment hmem
      exact ⟨origin, horigin.imp_right (hmono _), hsame, hattempts⟩
    · exact ⟨comment, .inr (hlog ▸ mem_append_right _ haccepted), rfl, .inl rfl⟩
  · intro comment event hmem
    rw [hlog] at hmem
    rcases mem_append.mp hmem with hmem | hmem
    · exact (h.spent comment event hmem).mono hmono
    · exact hlog ▸ hspent comment event hmem
  · intro comment hmem
    have howes : pass'.owes comment = pass.owes comment := by
      unfold owes
      rw [hattempted, hcounted]
    rw [howes, hlog, ← append_assoc]
    exact hdue comment hmem

theorem Pass.Sound.emit (h : pass.Sound past start numberOf (comment :: waiting)) (source : Source)
    (metadata : Option PRActivityMetadata) :
    ((pass.emit source comment metadata).refresh comment.key).Sound past start numberOf waiting := by
  refine h.extend [.emitted comment (pendingCommentEvent source comment metadata),
    .receipt comment.key] rfl rfl (append_assoc _ _ _) rfl (by simp) ?_ ?_
    ((Nat.le_succ _).trans h.short) (fun other hother => .inl (mem_cons_of_mem _ hother)) ?_
  · intro other event hmem
    obtain ⟨rfl, -⟩ : other = comment ∧ event = _ := by simpa using hmem
    exact (h.grown_of_mem mem_cons_self).mono fun effect => mem_append_left _
  · have htracked := h.tracked.emit (pendingCommentEvent source comment metadata)
    rw [append_assoc] at htracked
    refine Eq.subst (motive := fun ids => Tracked _ ids _) ?_ htracked
    exact (ids_withIds pass.state comment.key.1 _).symm
  · intro other hother
    have hsince : failedSince other.key other.number ((past ++ pass.log) ++
        [.emitted comment (pendingCommentEvent source comment metadata), .receipt comment.key]) =
          failedSince other.key other.number (past ++ pass.log) := by
      unfold failedSince
      rw [foldl_append]
      rfl
    rw [hsince]
    exact h.due other (mem_cons_of_mem _ hother)

/-- A comment without a receipt gets one. -/
theorem Pass.Sound.remember (h : pass.Sound past start numberOf waiting)
    (hids : key.2 ∉ pass.state.ids key.1) : (pass.remember key).Sound past start numberOf waiting := by
  unfold Pass.remember
  rw [if_neg hids]
  refine h.extend [.receipt key] rfl rfl rfl rfl (by simp) (by simp) ?_ h.short (fun _ hmem => .inl hmem) ?_
  · refine Eq.subst (motive := fun ids => Tracked _ ids _) ?_ (h.tracked.receipt hids)
    exact (ids_withIds pass.state key.1 _).symm
  · intro other hother
    rw [failedSince_concat]
    exact h.due other hother

/-- The failed lookups since a comment was accepted are those of a comment that waits. -/
theorem failedSince_accepted (hne : comment.key ≠ key) (log extra : List Effect)
    (hextra : ∀ count, extra.foldl (failedStep key number) count = count) :
    failedSince key number (log ++ .accepted comment :: extra) = failedSince key number log := by
  unfold failedSince
  rw [foldl_append, foldl_cons, hextra]
  exact if_neg hne

/-- A comment that is accepted is emitted at once. -/
theorem Pass.Sound.acceptNow (h : pass.Sound past start numberOf waiting) (source : Source)
    (metadata : Option PRActivityMetadata) (hkey : comment.key ∉ waiting.map PendingPRComment.key)
    (hids : comment.key.2 ∉ pass.state.ids comment.key.1) (hattempts : comment.attempts = 0) :
    (((pass.note (.accepted comment)).emit source comment metadata).remember comment.key).Sound past
      start numberOf waiting := by
  have hfresh : comment.asAccepted = comment := by
    unfold asAccepted
    rw [← hattempts]
  have hids' : comment.key.2 ∉
      (Pass.emit source (pass.note (.accepted comment)) comment metadata).state.ids comment.key.1 := hids
  unfold Pass.remember
  rw [if_neg hids']
  refine h.extend [.accepted comment,
    .emitted comment (pendingCommentEvent source comment metadata), .receipt comment.key] rfl rfl
    ?_ rfl (by simp) ?_ ?_ h.short (fun _ hmem => .inl hmem) ?_
  · simp only [note, Pass.emit, append_assoc, cons_append, nil_append]
  · intro other event hmem
    obtain ⟨rfl, -⟩ : other = comment ∧ event = _ := by simpa using hmem
    exact ⟨other, .inr (by simp), rfl, .inl rfl⟩
  · have hkey' := (map_key_asAccepted waiting).symm ▸ hkey
    have haccepted := h.tracked.accept hkey' hids
    have hperm : (waiting.map asAccepted ++ [comment]).Perm (comment.asAccepted :: waiting.map asAccepted) := by
      rw [hfresh]
      exact perm_append_singleton _ _
    have htracked := (haccepted.perm hperm).emit (pendingCommentEvent source comment metadata)
    rw [Recent.renew_of_notMem hids] at htracked
    simp only [append_assoc, cons_append, nil_append] at htracked ⊢
    refine Eq.subst (motive := fun ids => Tracked _ ids _) ?_ htracked
    exact (ids_withIds pass.state comment.key.1 _).symm
  · intro other hother
    rw [failedSince_accepted (fun hsame => hkey (hsame ▸ mem_map_of_mem hother)) _ _ fun _ => rfl]
    exact h.due other hother

/-- A comment that is accepted joins the queue. -/
theorem Pass.Sound.push (h : pass.Sound past start numberOf pass.state.pending_comments)
    (hroom : pass.state.pending_comments.length < MAX_PENDING_PR_COMMENTS)
    (hkey : comment.key ∉ pass.state.pending_comments.map PendingPRComment.key)
    (hids : comment.key.2 ∉ pass.state.ids comment.key.1)
    (hnumber : comment.number = numberOf comment.key) (hattempts : comment.attempts = 0) :
    ((pass.note (.accepted comment)).push comment).Sound past start numberOf
      (pass.state.pending_comments ++ [comment]) := by
  have hfresh : comment.asAccepted = comment := by
    unfold asAccepted
    rw [← hattempts]
  have hlength : (pass.state.pending_comments ++ [comment]).length ≤ MAX_PENDING_PR_COMMENTS := by
    rw [length_append, length_singleton]
    exact hroom
  refine h.extend [.accepted comment, .queued (pass.state.pending_comments.length + 1)] rfl
    rfl (append_assoc _ _ _) rfl ?_ (by simp) ?_ hlength ?_ ?_
  · intro length hmem
    obtain rfl : length = pass.state.pending_comments.length + 1 := by simpa using hmem
    exact hroom
  · have hkey' := (map_key_asAccepted pass.state.pending_comments).symm ▸ hkey
    have haccepted := h.tracked.accept hkey' hids
    have htracked := haccepted.skip (.queued (pass.state.pending_comments.length + 1)) fun _ _ => rfl
    rw [append_assoc] at htracked
    rw [map_append, map_singleton, hfresh]
    exact htracked
  · intro other hother
    rcases mem_append.mp hother with hother | hother
    · exact .inl hother
    · obtain rfl := mem_singleton.mp hother
      exact .inr ⟨hnumber, mem_cons_self⟩
  · intro other hother
    rcases mem_append.mp hother with hother | hother
    · rw [failedSince_accepted (fun hsame => hkey (hsame ▸ mem_map_of_mem hother)) _ _ fun _ => rfl]
      exact h.due other hother
    · obtain rfl := mem_singleton.mp hother
      have hzero : failedSince other.key other.number ((past ++ pass.log) ++
          [.accepted other, .queued (pass.state.pending_comments.length + 1)]) = 0 := by
        unfold failedSince
        rw [foldl_append]
        exact if_pos rfl
      rw [hzero]
      exact Nat.zero_le _

end

end Clawhip.Issues
