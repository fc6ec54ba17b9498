import Clawhip.Issues.WaitQueue

/-!
# Polls of comments

What the polls of a repository's comments do to the queue: it stays short, every comment leaves it by
being emitted, and the lookups of a poll and the attempts of a comment are bounded.
`comments_are_kept` says so for every run whose passes are stored. A pass that fails after it emitted a
comment leaves the comment in the queue.
-/

namespace Clawhip.Issues

open List Option PendingPRComment

/-! ## Drains -/

section

variable (source : Source) (input : ActivityPoll) {past : List Effect}
  {start waiting : List PendingPRComment} {numberOf : Bool × ℕ → ℕ} {pass : Pass}
  {comment other : PendingPRComment}

theorem Pass.Settled.count (h : pass.Settled other) (comment : PendingPRComment) :
    (pass.count comment).2.Settled other := by
  unfold Pass.count
  split_ifs
  · exact ⟨fun hfailed => mem_cons_of_mem _ (h.counted hfailed), h.spent, h.attempts⟩
  · exact h

theorem Pass.drainOne_eq (pass : Pass) (comment : PendingPRComment) : pass.drainOne source input comment =
      match ((pass.lookUp input comment.number).known input comment.number).1 with
      | some metadata =>
        ((((pass.lookUp input comment.number).known input comment.number).2.emit source comment
          metadata).refresh comment.key, none)
      | none =>
        let counted := ((pass.lookUp input comment.number).known input comment.number).2.count comment
        if MAX_METADATA_ATTEMPTS ≤ counted.1.attempts then
          ((counted.2.emit source counted.1 none).refresh counted.1.key, none)
        else (counted.2, some counted.1) := rfl

/-- One turn of the loop of a drain. -/
theorem Pass.Sound.drainOne (h : pass.Sound past start numberOf (comment :: waiting)) :
    (pass.drainOne source input comment).1.Sound past start numberOf
        ((pass.drainOne source input comment).2.toList ++ waiting) ∧
      (∀ kept ∈ (pass.drainOne source input comment).2, (pass.drainOne source input comment).1.Settled kept) ∧
      ∀ other, pass.Settled other → (pass.drainOne source input comment).1.Settled other := by
  have hlookUp := lookUp_looked input pass comment.number
  have hknown := known_looked input (pass.lookUp input comment.number) comment.number
  set known := (pass.lookUp input comment.number).known input comment.number with hdef
  have hspent := lookUp_spent input pass comment.number
  have hlooked := h.lookup hlookUp
  have hsound := hlooked.lookup hknown
  have hsettled : ∀ other, pass.Settled other → known.2.Settled other :=
    fun other hother => (hother.lookup h.keys hlookUp).lookup hlooked.keys hknown
  rw [drainOne_eq, ← hdef]
  cases hmetadata : known.1 with
  | some metadata =>
    refine ⟨hsound.emit source metadata, nofun, fun other hother => ?_⟩
    exact ⟨(hsettled other hother).counted, (hsettled other hother).spent, hother.attempts⟩
  | none =>
    have hcount := hsound.count
    dsimp only
    split_ifs with hcap
    · refine ⟨hcount.emit source none, nofun, fun other hother => ?_⟩
      have hother' := (hsettled other hother).count comment
      exact ⟨hother'.counted, hother'.spent, hother.attempts⟩
    · refine ⟨hcount, ?_, fun other hother => (hsettled other hother).count comment⟩
      rintro kept ⟨⟩
      refine ⟨count_counted _ comment, ?_, by omega⟩
      have hnumber : (known.2.count comment).1.number = comment.number := by
        have hsame := congrArg number (count_asAccepted known.2 comment)
        exact hsame
      have hattempted : (known.2.count comment).2.attempted = (pass.lookUp input comment.number).attempted := by
        unfold Pass.count
        split_ifs
        all_goals rfl
      rw [hnumber, hattempted]
      exact hspent hmetadata

theorem Pass.Sound.drainLoop (queue retained : List PendingPRComment)
    (h : pass.Sound past start numberOf (retained ++ queue)) (hretained : ∀ comment ∈ retained, pass.Settled comment) :
    (drainLoop source input queue retained pass).1.Sound past start numberOf
        (drainLoop source input queue retained pass).2 ∧ ∀ comment ∈ (drainLoop source input queue retained pass).2,
        (drainLoop source input queue retained pass).1.Settled comment := by
  induction queue generalizing retained pass with
  | nil =>
    rw [append_nil] at h
    exact ⟨h, hretained⟩
  | cons comment queue ih =>
    obtain ⟨hsound, hkept, hsettled⟩ := (h.perm perm_middle).drainOne source input
    -- What the turn retained moves behind what was retained before.
    refine ih _ (hsound.perm ?_) ?_
    · rw [← append_assoc]
      exact perm_append_comm.append_right queue
    · intro other hother
      rcases mem_append.mp hother with hother | hother
      · exact hsettled other (hretained other hother)
      · exact hkept other (mem_toList.mp hother)

/-- A drain keeps a pass sound, and settles what it retains. -/
theorem Pass.Sound.drain (h : pass.Sound past start numberOf pass.state.pending_comments) :
    (pass.drain source input).Sound past start numberOf (pass.drain source input).state.pending_comments ∧
      ∀ comment ∈ (pass.drain source input).state.pending_comments, (pass.drain source input).Settled comment := by
  obtain ⟨hsound, hsettled⟩ := drainLoop source input pass.state.pending_comments [] h (by simp)
  refine ⟨hsound.congr rfl rfl rfl rfl, fun comment hmem => ?_⟩
  obtain ⟨hcounted, hspent, hattempts⟩ := hsettled comment hmem
  exact ⟨hcounted, hspent, hattempts⟩

/-! ## Feeds -/

/-- After it made room, the queue is not full, and nothing has a receipt that did not wait or have
one. -/
theorem Pass.Sound.makeRoom (h : pass.Sound past start numberOf pass.state.pending_comments) :
    (pass.makeRoom source input).Sound past start numberOf (pass.makeRoom source input).state.pending_comments ∧
      (pass.makeRoom source input).state.pending_comments.length < MAX_PENDING_PR_COMMENTS ∧
      (pass.makeRoom source input).state.pending_comments ⊆ pass.state.pending_comments ∧
      ∀ key : Bool × ℕ, key.2 ∈ (pass.makeRoom source input).state.ids key.1 → key.2 ∈ pass.state.ids key.1 ∨
          key ∈ pass.state.pending_comments.map PendingPRComment.key := by
  unfold Pass.makeRoom
  cases hqueue : pass.state.pending_comments with
  | nil =>
    rw [hqueue] at h
    rw [hqueue]
    exact ⟨h, by decide, Subset.refl _, fun key hmem => .inl hmem⟩
  | cons oldest queue =>
    rw [hqueue] at h
    dsimp only
    split_ifs with hfull
    -- The oldest is out of the queue, but still waits until it is sent.
    · have hpopped : Pass.Sound past start numberOf (oldest :: queue)
          { pass with state := { pass.state with pending_comments := queue } } :=
        h.congr rfl rfl rfl rfl
      have hknown := known_looked input
        { pass with state := { pass.state with pending_comments := queue } } oldest.number
      set known := known input { pass with state := { pass.state with pending_comments := queue } } oldest.number
      have hemit := (hpopped.lookup hknown).emit source known.1.join
      have hpending : ((known.2.emit source oldest known.1.join).refresh oldest.key).state.pending_comments = queue :=
        (pending_withIds _ _ _).trans hknown.alike.pending
      refine ⟨?_, ?_, ?_, fun key hmem => ?_⟩
      · rw [hpending]
        exact hemit
      · rw [hpending, ← hfull]
        exact Nat.lt_succ_self _
      · rw [hpending]
        exact subset_cons_self _ _
      · have hids : ((known.2.emit source oldest known.1.join).refresh oldest.key).state.ids =
            Function.update pass.state.ids oldest.key.1
              (Recent.renew MAX_EMITTED_COMMENT_IDS (pass.state.ids oldest.key.1) oldest.key.2) := by
          refine (ids_withIds _ _ _).trans ?_
          show Function.update known.2.state.ids _ (Recent.renew _ (known.2.state.ids _) _) = _
          rw [hknown.alike.ids]
          rfl
        rw [hids] at hmem
        -- Only the oldest comment's id is new in its feed; the other feed is not touched.
        by_cases hfeed : key.1 = oldest.key.1
        · rw [hfeed, Function.update_self] at hmem
          rcases Recent.mem_renew hmem with hmem | hsame
          · exact .inl (hfeed ▸ hmem)
          · exact .inr (mem_cons.mpr (.inl (Prod.ext hfeed hsame)))
        · rw [Function.update_of_ne hfeed] at hmem
          exact .inl hmem
    · rw [hqueue]
      exact ⟨h, lt_of_le_of_ne h.short hfull, Subset.refl _, fun key hmem => .inl hmem⟩

theorem Pass.accept_eq (pass : Pass) (comment : PendingPRComment) :
    pass.accept source input comment = match (pass.known input comment.number).1 with
      | some metadata => ((pass.known input comment.number).2.note (.accepted comment)).emit source comment metadata
      | none =>
        (((pass.known input comment.number).2.makeRoom source input).note (.accepted comment)).push comment := rfl

section

variable (h : pass.Sound past start numberOf pass.state.pending_comments)
include h

/-- A comment of a feed is accepted and remembered. -/
theorem Pass.Sound.accept (hkey : comment.key ∉ pass.state.pending_comments.map key)
    (hids : comment.key.2 ∉ pass.state.ids comment.key.1)
    (hnumber : comment.number = numberOf comment.key) (hattempts : comment.attempts = 0) :
    ((pass.accept source input comment).remember comment.key).Sound past start numberOf
      ((pass.accept source input comment).remember comment.key).state.pending_comments := by
  have hpending (pass : Pass) (key : Bool × ℕ) :
      (pass.remember key).state.pending_comments = pass.state.pending_comments := by
    unfold Pass.remember
    split_ifs
    · rfl
    · exact pending_withIds _ _ _
  rw [hpending]
  have hlook := known_looked input pass comment.number
  have hknown := h.lookup hlook
  rw [← hlook.alike.pending] at hknown hkey
  rw [← hlook.alike.ids] at hids
  rw [accept_eq]
  cases (pass.known input comment.number).1 with
  | some metadata => exact hknown.acceptNow source metadata hkey hids hattempts
  | none =>
    obtain ⟨hsound, hroom, hsubset, hids'⟩ := hknown.makeRoom source input
    have hkey' : comment.key ∉ ((pass.known input comment.number).2.makeRoom source
        input).state.pending_comments.map key :=
      fun hmem => hkey (map_subset _ hsubset hmem)
    have hnew : comment.key.2 ∉ ((pass.known input comment.number).2.makeRoom source input).state.ids comment.key.1 :=
      fun hmem => (hids' comment.key hmem).elim hids hkey
    exact (hsound.push hroom hkey' hnew hnumber hattempts).remember hnew

/-- A turn of a feed. -/
theorem Pass.Sound.feed
    {lower : Option String} {key : Bool × ℕ} {created_at : String} {accepted : Option PendingPRComment}
    (haccepted : ∀ comment ∈ accepted, comment.key = key ∧ comment.number = numberOf key ∧ comment.attempts = 0) :
    (pass.feed source input lower key created_at accepted).Sound past start numberOf
      (pass.feed source input lower key created_at accepted).state.pending_comments := by
  unfold Pass.feed
  split_ifs with hold
  · exact h
  obtain ⟨hids, hkey⟩ := not_or.mp hold
  cases lower with
  | none =>
    have hpending : (pass.remember key).state.pending_comments = pass.state.pending_comments := by
      unfold Pass.remember
      rw [if_neg hids]
      exact pending_withIds _ _ _
    rw [hpending]
    exact h.remember hids
  | some lower =>
    dsimp only
    split_ifs
    · exact h
    cases accepted with
    | none => exact h
    | some comment =>
      obtain ⟨rfl, hnumber, hattempts⟩ := haccepted comment rfl
      exact h.accept source input hkey hids hnumber hattempts

end

end

/-! ## Polls -/

/-- The comments of a poll belong to the pull requests that a table says. -/
structure ActivityPoll.Belongs (numberOf : Bool × ℕ → ℕ) (input : ActivityPoll) : Prop where
  conversation : ∀ fetched ∈ input.conversation, ∀ comment ∈ fetched.comments,
    ∀ number ∈ comment.number, number = numberOf (false, comment.id)
  review : ∀ fetched ∈ input.review, ∀ comment ∈ fetched.comments,
    ∀ number ∈ comment.number, number = numberOf (true, comment.id)

/-- A pass is stored: no request for a commented issue fails, and nothing later on. -/
structure ActivityPoll.Stored (source : Source) (input : ActivityPoll) : Prop where
  interrupted : input.interrupted = false
  requests : source.repo.emit_issue_opened = true → ∀ fetched ∈ input.conversation,
    ∀ comment ∈ fetched.comments, comment.number = none → comment.request_fails = false

section

variable {source : Source} {input : ActivityPoll} {past : List Effect}
  {start : List PendingPRComment} {numberOf : Bool × ℕ → ℕ} {pass : Pass}

/-- A poll that is not watching comments leaves the queue and the tables alone. -/
structure Pass.Untouched (pass pass' : Pass) : Prop where
  state : pass.state.Alike pass'.state
  attempted : pass'.attempted = pass.attempted
  counted : pass'.counted = pass.counted
  log : pass'.log = pass.log

theorem Pass.Settled.untouched {pass' : Pass} {comment : PendingPRComment} (h : pass.Settled comment)
    (huntouched : pass.Untouched pass') : pass'.Settled comment := by
  obtain ⟨hcounted, hspent, hattempts⟩ := h
  rw [← huntouched.attempted, ← huntouched.counted] at hcounted
  rw [← huntouched.attempted] at hspent
  exact ⟨hcounted, hspent, hattempts⟩

/-- The turns over the conversation feed. -/
theorem Pass.Sound.conversationLoop (source : Source) (input : ActivityPoll) (lower : Option String)
    {comments : List GitHubComment} (h : pass.Sound past start numberOf pass.state.pending_comments)
    (hnumbers : ∀ comment ∈ comments, ∀ number ∈ comment.number, number = numberOf (false, comment.id))
    (hrequests : source.repo.emit_issue_opened = true → ∀ comment ∈ comments,
      comment.number = none → comment.request_fails = false) :
    ∃ pass', comments.foldlM (conversationOne source input lower) pass = .ok pass' ∧
      pass'.Sound past start numberOf pass'.state.pending_comments ∧
      (source.repo.emit_pr_activity = false → pass.Untouched pass') := by
  induction comments generalizing pass with
  | nil => exact ⟨pass, rfl, h, fun _ => ⟨⟨rfl, rfl⟩, rfl, rfl, rfl⟩⟩
  | cons comment comments ih =>
    obtain ⟨hnumber, hnumbers⟩ := forall_mem_cons.mp hnumbers
    have hone : ∃ pass', conversationOne source input lower pass comment = .ok pass' ∧
        pass'.Sound past start numberOf pass'.state.pending_comments ∧
        (source.repo.emit_pr_activity = false → pass' = pass) := by
      unfold conversationOne
      cases hpr : comment.number with
      | none =>
        refine ⟨pass, if_neg fun hfails => ?_, h, fun _ => rfl⟩
        obtain ⟨hissues, hfails⟩ := Bool.and_eq_true_iff.mp hfails
        rw [hrequests hissues comment mem_cons_self hpr] at hfails
        cases hfails
      | some number =>
        cases hwatch : source.repo.emit_pr_activity with
        | false => exact ⟨pass, if_neg Bool.false_ne_true, h, fun _ => rfl⟩
        | true =>
          refine ⟨_, if_pos rfl, h.feed source input ?_, nofun⟩
          rintro accepted ⟨⟩
          exact ⟨rfl, hnumber number hpr, rfl⟩
    obtain ⟨pass', heq, hsound, hsame⟩ := hone
    obtain ⟨final, hfinal, hsound', hsame'⟩ := ih hsound hnumbers
      fun hissues other hother => hrequests hissues other (mem_cons_of_mem _ hother)
    refine ⟨final, ?_, hsound', fun hwatch => hsame hwatch ▸ hsame' hwatch⟩
    rw [foldlM_cons, heq]
    exact hfinal

/-- The conversation feed keeps a pass sound. -/
theorem Pass.Sound.conversation (h : pass.Sound past start numberOf pass.state.pending_comments)
    (hbelongs : input.Belongs numberOf) (hstored : input.Stored source) :
    ∃ pass', pass.conversation source input = .ok pass' ∧ pass'.Sound past start numberOf pass'.state.pending_comments ∧
      (source.repo.emit_pr_activity = false → pass.Untouched pass') := by
  unfold Pass.conversation
  cases hfetched : input.conversation with
  | none => exact ⟨pass, rfl, h, fun _ => ⟨⟨rfl, rfl⟩, rfl, rfl, rfl⟩⟩
  | some fetched =>
    obtain ⟨final, hfinal, hsound, hsame⟩ := h.conversationLoop source input
      (if source.repo.emit_pr_activity then pass.state.pr_comment_lower
        else pass.state.issue_comment_lower)
      (hbelongs.conversation fetched hfetched) fun hissues => hstored.requests hissues fetched hfetched
    dsimp only
    rw [hfinal]
    refine ⟨_, rfl, ?_, fun hwatch => ?_⟩
    · cases source.repo.emit_pr_activity
      all_goals exact hsound.congr rfl rfl rfl rfl
    · obtain ⟨⟨hids, hpending⟩, hattempted, hcounted, hlog⟩ := hsame hwatch
      rw [hwatch]
      exact ⟨⟨hids, hpending⟩, hattempted, hcounted, hlog⟩

/-- The feed of inline comments keeps a pass sound. -/
theorem Pass.Sound.review (source : Source) (h : pass.Sound past start numberOf pass.state.pending_comments)
    (hbelongs : input.Belongs numberOf) : (pass.review source input).Sound past start numberOf
      (pass.review source input).state.pending_comments := by
  have hloop (lower : Option String) (comments : List GitHubReviewComment)
      (hnumbers : ∀ comment ∈ comments, ∀ number ∈ comment.number, number = numberOf (true, comment.id)) (pass : Pass)
      (h : pass.Sound past start numberOf pass.state.pending_comments) :
      (comments.foldl (reviewOne source input lower) pass).Sound past start numberOf
        (comments.foldl (reviewOne source input lower) pass).state.pending_comments := by
    induction comments generalizing pass with
    | nil => exact h
    | cons comment comments ih =>
      obtain ⟨hnumber, hnumbers⟩ := forall_mem_cons.mp hnumbers
      refine ih hnumbers _ (h.feed source input ?_)
      intro accepted haccepted
      obtain ⟨number, hpr, rfl⟩ := map_eq_some_iff.mp haccepted
      exact ⟨rfl, hnumber number hpr, rfl⟩
  unfold Pass.review
  cases hfetched : input.review with
  | none => exact h
  | some fetched =>
    have hsound := hloop pass.state.review_comment_lower fetched.comments (hbelongs.review fetched hfetched) pass h
    exact hsound.congr rfl rfl rfl rfl

theorem refreshTitles_alike (input : ActivityPoll) (state : PRActivityState) :
    state.Alike (refreshTitles input state) := by
  unfold refreshTitles
  induction input.prs generalizing state with
  | nil => exact ⟨rfl, rfl⟩
  | cons entry prs ih =>
    rw [foldl_cons]
    split_ifs
    · have hcached := cachePrMetadata_alike state entry.1 (some ⟨entry.2.title, entry.2.author⟩)
      have hrest := ih (cachePrMetadata state entry.1 (some ⟨entry.2.title, entry.2.author⟩))
      exact ⟨hrest.ids.trans hcached.ids, hrest.pending.trans hcached.pending⟩
    · exact ih state

/-- What holds between polls, after a log. -/
structure PRActivityState.Kept (numberOf : Bool × ℕ → ℕ) (log : List Effect) (state : PRActivityState) :
    Prop where
  tracked : Tracked (state.pending_comments.map PendingPRComment.asAccepted) state.ids log
  short : state.pending_comments.length ≤ MAX_PENDING_PR_COMMENTS
  numbers : ∀ comment ∈ state.pending_comments, comment.number = numberOf comment.key
  due : ∀ comment ∈ state.pending_comments, failedSince comment.key comment.number log ≤ comment.attempts
  attempts : ∀ comment ∈ state.pending_comments, comment.attempts < MAX_METADATA_ATTEMPTS

/-- A pass begins soundly. -/
theorem PRActivityState.Kept.sound {state state' : PRActivityState} (h : state.Kept numberOf past)
    (halike : state.Alike state') :
    Pass.Sound past state.pending_comments numberOf state'.pending_comments { state := state' } := by
  rw [halike.pending]
  refine ⟨?_, h.short, nofun, nodup_nil, Nat.zero_le _, Perm.nil, nofun, h.numbers, nofun,
    fun comment hmem => ⟨comment, .inl hmem, rfl, .inl rfl⟩, nofun, ?_⟩
  · rw [append_nil, halike.ids]
    exact h.tracked
  · intro comment hmem
    rw [append_nil]
    exact (h.due comment hmem).trans (Nat.le_add_right _ _)

/-- What settled is kept for the next poll. -/
theorem Pass.Sound.kept (h : pass.Sound past start numberOf pass.state.pending_comments)
    (hsettled : ∀ comment ∈ pass.state.pending_comments, pass.Settled comment) :
    pass.state.Kept numberOf (past ++ pass.log) := by
  refine ⟨h.tracked, h.short, h.numbers, fun comment hmem => ?_, fun comment hmem => (hsettled comment hmem).attempts⟩
  have hdue := h.due comment hmem
  unfold owes at hdue
  rwa [if_neg fun howes => howes.2 ((hsettled comment hmem).counted howes.1)] at hdue

/-- A poll whose pass is stored. -/
theorem pollPrActivity_sound {state : PRActivityState} (h : state.Kept numberOf past)
    (hbelongs : input.Belongs numberOf) (hstored : input.Stored source) :
    ∃ pass, pollPrActivity source input state = .ok pass ∧
      pass.Sound past state.pending_comments numberOf pass.state.pending_comments ∧
      pass.state.Kept numberOf (past ++ pass.log) := by
  unfold pollPrActivity
  dsimp only
  by_cases hidle : ((!source.repo.emit_pr_activity && !source.repo.emit_issue_opened) || !source.client) = true
  · rw [if_pos hidle]
    refine ⟨_, rfl, h.sound ⟨rfl, rfl⟩, ?_⟩
    rw [append_nil]
    exact h
  · rw [if_neg hidle]
    have hbegin : Pass.Sound past state.pending_comments numberOf
        (Pass.state { state := refreshTitles input state }).pending_comments
        { state := refreshTitles input state } := h.sound (refreshTitles_alike input state)
    obtain ⟨hdrained, hsettled⟩ := hbegin.drain source input
    obtain ⟨pass, heq, hsound, huntouched⟩ := hdrained.conversation hbelongs hstored
    rw [heq]
    cases hwatch : source.repo.emit_pr_activity with
    | true =>
      obtain ⟨hfinal, hsettled'⟩ := (hsound.review source hbelongs).drain source input
      exact ⟨_, rfl, hfinal, hfinal.kept hsettled'⟩
    | false =>
      have hsame := huntouched hwatch
      refine ⟨pass, rfl, hsound, hsound.kept fun comment hmem => ?_⟩
      rw [hsame.state.pending] at hmem
      exact (hsettled comment hmem).untouched hsame

end

/-! ## Runs -/

/-- What one poll does to a queue. -/
structure PollKeeps (start : List PendingPRComment) (log : List Effect)
    (final : List PendingPRComment) : Prop where
  short : final.length ≤ MAX_PENDING_PR_COMMENTS
  queued : ∀ length, Effect.queued length ∈ log → length ≤ MAX_PENDING_PR_COMMENTS
  lookups : (lookedUp log).length ≤ MAX_PR_METADATA_LOOKUPS
  once : (lookedUp log).Nodup
  grown : ∀ comment, (comment ∈ final ∨ ∃ event, Effect.emitted comment event ∈ log) → Grown start log comment

/-- What a run does to comments: in every poll the queue stays short, the lookups are few, and the
attempts grow for a reason; every accepted comment waits or was emitted once; and none waits that ten
lookups failed for. -/
structure CommentsKept (source : Source) (inputs : List ActivityPoll) : Prop where
  polls : ∀ before input after, inputs = before ++ input :: after →
    PollKeeps ((activityPoller source).run {} before).pending_comments
      ((activityPoller source).step ((activityPoller source).run {} before) input).2
      ((activityPoller source).step ((activityPoller source).run {} before) input).1.pending_comments
  lives : ∀ key, ∃ life, lifeOf key ((activityPoller source).outputs {} inputs).flatten = some life ∧
    ((∃ comment, life = .waiting comment) ↔
      key ∈ ((activityPoller source).run {} inputs).pending_comments.map PendingPRComment.key)
  timely : ∀ comment ∈ ((activityPoller source).run {} inputs).pending_comments,
    failedSince comment.key comment.number ((activityPoller source).outputs {} inputs).flatten <
      MAX_METADATA_ATTEMPTS

section

variable {source : Source} {numberOf : Bool × ℕ → ℕ} {inputs : List ActivityPoll}

/-- A comment waits exactly if its life says so. -/
theorem Tracked.waiting_iff {queue : List PendingPRComment} {ids : Bool → List ℕ} {log : List Effect}
    (h : Tracked queue ids log) (key : Bool × ℕ) : ∃ life, lifeOf key log = some life ∧
      ((∃ comment, life = .waiting comment) ↔ key ∈ queue.map PendingPRComment.key) := by
  obtain ⟨life, hlife, hfits⟩ := h.lives key
  refine ⟨life, hlife, ?_⟩
  cases life with
  | idle => exact iff_of_false (by rintro ⟨comment, ⟨⟩⟩) hfits
  | sent receipts => exact iff_of_false (by rintro ⟨comment, ⟨⟩⟩) hfits.1
  | waiting comment => exact iff_of_true ⟨comment, rfl⟩ (mem_map.mpr ⟨comment, hfits⟩)

/-- A stored poll keeps what holds between polls. -/
theorem step_kept {state : PRActivityState} {past : List Effect} {input : ActivityPoll}
    (h : state.Kept numberOf past) (hbelongs : input.Belongs numberOf) (hstored : input.Stored source) :
    ((activityPoller source).step state input).1.Kept numberOf (past ++ ((activityPoller source).step state input).2) ∧
      PollKeeps state.pending_comments ((activityPoller source).step state input).2
        ((activityPoller source).step state input).1.pending_comments := by
  obtain ⟨pass, heq, hsound, hkept⟩ := pollPrActivity_sound h hbelongs hstored
  have hstep : (activityPoller source).step state input = (pass.state, pass.log) := by
    unfold activityPoller
    dsimp only
    rw [heq, hstored.interrupted]
    rfl
  rw [hstep]
  refine ⟨hkept, hsound.short, hsound.queued, ?_, ?_, ?_⟩
  · rw [hsound.looked.length_eq]
    exact (length_map _).trans_le hsound.budget
  · exact hsound.looked.nodup_iff.mpr hsound.keys
  · rintro comment (hmem | ⟨event, hmem⟩)
    · exact hsound.grown_of_mem hmem
    · exact hsound.spent comment event hmem

theorem run_kept (hinputs : ∀ input ∈ inputs, input.Belongs numberOf ∧ input.Stored source) :
    ((activityPoller source).run {} inputs).Kept numberOf ((activityPoller source).outputs {} inputs).flatten := by
  induction inputs using reverseRecOn with
  | nil =>
    have hids : PRActivityState.ids {} = fun _ => [] := by
      funext inline
      unfold PRActivityState.ids
      split_ifs
      all_goals rfl
    exact ⟨hids ▸ tracked_nil, Nat.zero_le _, nofun, nofun, nofun⟩
  | append_singleton inputs input ih =>
    obtain ⟨hbelongs, hstored⟩ := hinputs input (by simp)
    have hbefore := ih fun other hother => hinputs other (mem_append_left _ hother)
    rw [Machine.run_concat, Machine.outputs_concat, flatten_append, flatten_singleton]
    exact (step_kept hbefore hbelongs hstored).1

/-- Where comments keep to their pull requests and every pass is stored, the queue neither loses nor
repeats comments. -/
theorem comments_are_kept (source : Source) (numberOf : Bool × ℕ → ℕ) (inputs : List ActivityPoll)
    (hinputs : ∀ input ∈ inputs, input.Belongs numberOf ∧ input.Stored source) :
    CommentsKept source inputs := by
  have hkept := run_kept hinputs
  refine ⟨?_, fun key => ?_, fun comment hmem => ?_⟩
  · rintro before input after rfl
    obtain ⟨hbelongs, hstored⟩ := hinputs input (by simp)
    have hbefore : ((activityPoller source).run {} before).Kept numberOf
        ((activityPoller source).outputs {} before).flatten :=
      run_kept fun other hother => hinputs other (mem_append_left _ hother)
    exact (step_kept hbefore hbelongs hstored).2
  · have hwaiting := hkept.tracked.waiting_iff key
    rwa [map_key_asAccepted] at hwaiting
  · exact (hkept.due comment hmem).trans_lt (hkept.attempts comment hmem)

end

namespace Sample

/-- A repository whose issues and comments are watched. -/
def commentSource : Source where
  repo := { path := "/repo", name := none, github_repo := some "org/repo", channel := none,
            channel_name := none, setup_owned := false, emit_pr_activity := true }
  repo_name := "repo"
  client := true
  keyOf page := toString page

/-- A comment on a pull request. -/
def prComment : GitHubComment where
  id := 7
  created_at := "2026-01-02T00:00:00Z"
  updated_at := "2026-01-02T00:00:00Z"
  user := some "dev"
  html_url := "https://github.com/org/repo/pull/5#issuecomment-7"
  number := some 5

/-- A comment on an issue that is not in the window, and the request for it fails. -/
def issueComment : GitHubComment where
  id := 8
  created_at := "2026-01-03T00:00:00Z"
  updated_at := "2026-01-03T00:00:00Z"
  user := some "dev"
  html_url := "https://github.com/org/repo/issues/2#issuecomment-8"
  number := none
  request_fails := true

/-- A poll with these comments and this answer about pull requests. -/
def commentPoll (comments : List GitHubComment) (answer : LookupAnswer) : ActivityPoll where
  prs := []
  scan := none
  answer _ := answer
  conversation := some ⟨comments, true, some "2026-01-01T00:00:00Z"⟩
  review := none
  cutoff := "2026-01-01T00:00:00Z"

/-- The comment waits for its metadata. -/
def waitingRun : List ActivityPoll := [commentPoll [] .error, commentPoll [prComment] .error]

/-- The comment is emitted in a poll that fails at the comment on an issue, and again in the next one. -/
def lostRun : List ActivityPoll :=
  waitingRun ++ [commentPoll [issueComment] (.found none), commentPoll [] (.found none)]

theorem waiting_comment_is_kept : CommentsKept commentSource waitingRun := by
  refine comments_are_kept commentSource (fun _ => 5) waitingRun fun input hinput => ?_
  rcases mem_pair.mp hinput with rfl | rfl
  · refine ⟨⟨?_, nofun⟩, rfl, ?_⟩
    · rintro _ ⟨⟩ comment hcomment
      cases hcomment
    · rintro - _ ⟨⟩ comment hcomment
      cases hcomment
  · refine ⟨⟨?_, nofun⟩, rfl, ?_⟩
    · rintro _ ⟨⟩ comment hcomment number hnumber
      rw [mem_singleton.mp hcomment] at hnumber
      exact (some.inj hnumber).symm
    · rintro - _ ⟨⟩ comment hcomment hnumber
      rw [mem_singleton.mp hcomment] at hnumber
      cases hnumber

/-- A comment is emitted twice. -/
theorem lost_state_repeats_comment : ¬ CommentsKept commentSource lostRun := by
  intro h
  obtain ⟨life, hlife, -⟩ := h.lives (false, 7)
  have hnone : (lifeOf (false, 7) ((activityPoller commentSource).outputs {} lostRun).flatten).isSome =
      false := by decide +kernel
  rw [hlife] at hnone
  cases hnone

end Sample

end Clawhip.Issues
