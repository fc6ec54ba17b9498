import Clawhip.Issues.PendingComments

/-!
# Lives of comments

What the log of a run says about one comment: it is accepted, it waits, and it is emitted once. A comment
that was emitted is accepted again only after its feed has seen as many others as it remembers ids.
`Tracked` says that a queue and the ids of the feeds agree with the log.
-/

namespace Clawhip.Issues

open List

/-- Where a comment stands. -/
inductive Life where
  | idle
  /-- It waits, and was accepted so. -/
  | waiting (comment : PendingPRComment)
  /-- It was emitted, and its feed gave so many receipts to others since then. -/
  | sent (receipts : ℕ)

/-- What an effect means for the comment of a key, unless it must not happen. -/
def Life.step (key : Bool × ℕ) (life : Life) : Effect → Option Life
  | .accepted comment =>
    if comment.key = key then
      match life with
      | .waiting _ => none
      | .sent receipts =>
        if receipts < MAX_EMITTED_COMMENT_IDS then none else some (.waiting comment)
      | .idle => some (.waiting comment)
    else some life
  | .emitted comment _ =>
    if comment.key = key then
      match life with
      | .waiting accepted => if accepted = comment.asAccepted then some (.sent 0) else none
      | _ => none
    else some life
  | .receipt other =>
    match life with
    | .sent receipts =>
      if other.1 = key.1 ∧ other.2 ≠ key.2 then some (.sent (receipts + 1)) else some life
    | _ => some life
  | _ => some life

/-- Where a comment stands after a log, if everything in it may happen. -/
def lifeOf (key : Bool × ℕ) (log : List Effect) : Option Life := log.foldlM (Life.step key) .idle

/-- A life agrees with a queue and the ids of the feeds. -/
def Life.Fits (queue : List PendingPRComment) (ids : Bool → List ℕ) (key : Bool × ℕ) : Life → Prop
  | .idle => key ∉ queue.map PendingPRComment.key
  | .waiting comment => comment ∈ queue ∧ comment.key = key
  | .sent receipts => key ∉ queue.map PendingPRComment.key ∧
      (receipts < MAX_EMITTED_COMMENT_IDS → Recent.IsRecent (ids key.1) key.2 receipts)

/-- A queue, as its comments were accepted, and the ids of the feeds agree with a log. -/
structure Tracked (queue : List PendingPRComment) (ids : Bool → List ℕ) (log : List Effect) : Prop where
  keys : (queue.map PendingPRComment.key).Nodup
  nodup : ∀ inline, (ids inline).Nodup
  lives : ∀ key, ∃ life, lifeOf key log = some life ∧ life.Fits queue ids key

variable {queue queue' : List PendingPRComment} {ids : Bool → List ℕ} {log : List Effect}
  {comment : PendingPRComment} {key : Bool × ℕ}

theorem lifeOf_concat (key : Bool × ℕ) (log : List Effect) (effect : Effect) :
    lifeOf key (log ++ [effect]) = (lifeOf key log).bind fun life => life.step key effect := by
  unfold lifeOf
  rw [foldlM_append]
  simp

theorem tracked_nil : Tracked [] (fun _ => []) [] := ⟨nodup_nil, fun _ => nodup_nil, fun _ => ⟨.idle, rfl, not_mem_nil⟩⟩

/-- The order of the queue does not matter. -/
theorem Tracked.perm (h : Tracked queue ids log) (hperm : queue.Perm queue') : Tracked queue' ids log := by
  refine ⟨(hperm.map _).nodup_iff.mp h.keys, h.nodup, fun key => ?_⟩
  obtain ⟨life, hlife, hfits⟩ := h.lives key
  refine ⟨life, hlife, ?_⟩
  have hkeys : key ∈ queue.map PendingPRComment.key ↔ key ∈ queue'.map PendingPRComment.key := (hperm.map _).mem_iff
  cases life with
  | idle => exact mt hkeys.mpr hfits
  | waiting comment => exact ⟨hperm.mem_iff.mp hfits.1, hfits.2⟩
  | sent receipts => exact ⟨mt hkeys.mpr hfits.1, hfits.2⟩

/-- An effect that no life depends on. -/
theorem Tracked.skip (h : Tracked queue ids log) (effect : Effect)
    (heffect : ∀ key life, Life.step key life effect = some life) : Tracked queue ids (log ++ [effect]) := by
  refine ⟨h.keys, h.nodup, fun key => ?_⟩
  obtain ⟨life, hlife, hfits⟩ := h.lives key
  refine ⟨life, ?_, hfits⟩
  rw [lifeOf_concat, hlife]
  exact heffect key life

/-- A comment that does not wait and has no receipt is accepted. -/
theorem Tracked.accept (h : Tracked queue ids log) (hkey : comment.key ∉ queue.map PendingPRComment.key)
    (hids : comment.key.2 ∉ ids comment.key.1) : Tracked (queue ++ [comment]) ids (log ++ [.accepted comment]) := by
  have hmap : (queue ++ [comment]).map PendingPRComment.key =
      queue.map PendingPRComment.key ++ [comment.key] := map_append
  refine ⟨?_, h.nodup, fun key => ?_⟩
  · rw [hmap, nodup_append]
    refine ⟨h.keys, nodup_singleton _, ?_⟩
    rintro other hother _ hlast rfl
    exact hkey (mem_singleton.mp hlast ▸ hother)
  · obtain ⟨life, hlife, hfits⟩ := h.lives key
    rw [lifeOf_concat, hlife]
    by_cases hsame : comment.key = key
    · subst hsame
      refine ⟨.waiting comment, ?_, mem_append_right _ (mem_singleton_self _), rfl⟩
      rw [Option.bind_some]
      unfold Life.step
      dsimp only
      rw [if_pos rfl]
      cases life with
      | idle => rfl
      | waiting other => exact absurd (mem_map.mpr ⟨other, hfits.1, hfits.2⟩) hkey
      | sent receipts =>
        dsimp only
        rw [if_neg fun hfew => hids (hfits.2 hfew).mem]
    · refine ⟨life, if_neg hsame, ?_⟩
      have hnot (hnot : key ∉ queue.map PendingPRComment.key) :
          key ∉ (queue ++ [comment]).map PendingPRComment.key := by
        rw [hmap, mem_append, mem_singleton]
        rintro (hmem | rfl)
        · exact hnot hmem
        · exact hsame rfl
      cases life with
      | idle => exact hnot hfits
      | waiting other => exact ⟨mem_append_left _ hfits.1, hfits.2⟩
      | sent receipts => exact ⟨hnot hfits.1, hfits.2⟩

/-- The lives of others after a receipt. -/
theorem fits_receipt {life : Life} {other : Bool × ℕ} {newer : List ℕ} (hne : other ≠ key)
    (hfits : life.Fits queue ids key) (hnewer : other.1 = key.1 → ∀ count, Recent.IsRecent (ids key.1) key.2 count →
      count + 1 < MAX_EMITTED_COMMENT_IDS → Recent.IsRecent newer key.2 (count + 1)) :
    ∃ life', Life.step key life (.receipt other) = some life' ∧
      life'.Fits queue (Function.update ids other.1 newer) key := by
  cases life with
  | idle => exact ⟨.idle, rfl, hfits⟩
  | waiting comment => exact ⟨.waiting comment, rfl, hfits⟩
  | sent receipts =>
    by_cases hfeed : other.1 = key.1
    · have hid : other.2 ≠ key.2 := fun hid => hne (Prod.ext hfeed hid)
      refine ⟨.sent (receipts + 1), if_pos ⟨hfeed, hid⟩, hfits.1, fun hfew => ?_⟩
      rw [← hfeed, Function.update_self]
      exact hnewer hfeed receipts (hfits.2 (by omega)) hfew
    · refine ⟨.sent receipts, if_neg fun h => hfeed h.1, hfits.1, fun hfew => ?_⟩
      rw [Function.update_of_ne fun h => hfeed h.symm]
      exact hfits.2 hfew

/-- A comment that waits is emitted, and its receipt is renewed. -/
theorem Tracked.emit (h : Tracked (comment.asAccepted :: queue) ids log) (event : IncomingEvent) :
    Tracked queue (Function.update ids comment.key.1
        (Recent.renew MAX_EMITTED_COMMENT_IDS (ids comment.key.1) comment.key.2))
      ((log ++ [.emitted comment event]) ++ [.receipt comment.key]) := by
  obtain ⟨hnot, hnodup⟩ := nodup_cons.mp h.keys
  refine ⟨hnodup, fun inline => ?_, fun key => ?_⟩
  · by_cases hinline : inline = comment.key.1
    · rw [hinline, Function.update_self]
      exact Recent.nodup_renew (h.nodup _)
    · rw [Function.update_of_ne hinline]
      exact h.nodup inline
  · obtain ⟨life, hlife, hfits⟩ := h.lives key
    rw [lifeOf_concat, lifeOf_concat, hlife]
    by_cases hsame : comment.key = key
    · subst hsame
      refine ⟨.sent 0, ?_, hnot, fun _ => ?_⟩
      · cases life with
        | idle => exact absurd mem_cons_self hfits
        | sent receipts => exact absurd mem_cons_self hfits.1
        | waiting accepted =>
          have haccepted : accepted = comment.asAccepted := by
            rcases mem_cons.mp hfits.1 with hsame | hmem
            · exact hsame
            · exact absurd (mem_map.mpr ⟨accepted, hmem, hfits.2⟩) hnot
          show (Life.step _ (.waiting accepted) (.emitted comment event)).bind _ = _
          unfold Life.step
          dsimp only
          rw [if_pos rfl, if_pos haccepted]
          exact if_neg fun h => h.2 rfl
      · have hupdate := Function.update_self comment.key.1
          (Recent.renew MAX_EMITTED_COMMENT_IDS (ids comment.key.1) comment.key.2) ids
        rw [hupdate]
        exact Recent.isRecent_renew (by decide) (h.nodup _)
    · have hstep : (some life).bind (fun life => life.step key (.emitted comment event)) = some life := if_neg hsame
      rw [hstep]
      have hfits' : life.Fits queue ids key := by
        cases life with
        | idle => exact fun hmem => hfits (mem_cons_of_mem _ hmem)
        | sent receipts => exact ⟨fun hmem => hfits.1 (mem_cons_of_mem _ hmem), hfits.2⟩
        | waiting accepted =>
          refine ⟨?_, hfits.2⟩
          rcases mem_cons.mp hfits.1 with rfl | hmem
          · exact absurd hfits.2 hsame
          · exact hmem
      refine fits_receipt hsame hfits' fun hfeed count hrecent hcount => ?_
      rw [hfeed]
      exact hrecent.renew (fun hid => hsame (Prod.ext hfeed hid)) hcount

/-- A comment that has no receipt gets one. -/
theorem Tracked.receipt (h : Tracked queue ids log) (hids : key.2 ∉ ids key.1) : Tracked queue
      (Function.update ids key.1 (Recent.remember MAX_EMITTED_COMMENT_IDS (ids key.1) key.2))
      (log ++ [.receipt key]) := by
  refine ⟨h.keys, fun inline => ?_, fun other => ?_⟩
  · by_cases hinline : inline = key.1
    · rw [hinline, Function.update_self]
      exact Recent.nodup_remember (h.nodup _)
    · rw [Function.update_of_ne hinline]
      exact h.nodup inline
  · obtain ⟨life, hlife, hfits⟩ := h.lives other
    rw [lifeOf_concat, hlife]
    by_cases hsame : key = other
    · subst hsame
      refine ⟨life, ?_, ?_⟩
      · cases life with
        | idle => rfl
        | waiting comment => rfl
        | sent receipts => exact if_neg fun h => h.2 rfl
      · cases life with
        | idle | waiting comment => exact hfits
        | sent receipts => exact ⟨hfits.1, fun hfew => absurd (hfits.2 hfew).mem hids⟩
    · refine fits_receipt hsame hfits fun hfeed count hrecent hcount => ?_
      rw [hfeed]
      exact hrecent.remember hcount

end Clawhip.Issues
