import Clawhip.Notifications.Fetch

/-!
# Polls of a pinned second

What a poll does while a second is pinned: the pages of the range above it are received from the
newest on, at least one request enumerates the pinned second, and the cursor of the range moves down,
ends or is dropped.
-/

namespace Clawhip.Notifications

open List Option

/-! ## Least times -/

/-- The least time of some threads is one of theirs, and no other is below it. -/
structure LeastIn (least : ℤ) (threads : List Thread) : Prop where
  mem : ∃ thread ∈ threads, thread.updated = least
  le : ∀ thread ∈ threads, least ≤ thread.updated

theorem leastOf_append (so_far : Option ℤ) (threads later : List Thread) :
    leastOf so_far (threads ++ later) = leastOf (leastOf so_far threads) later := by
  unfold leastOf
  rw [foldl_append]

theorem leastOf_some (threads : List Thread) (least : ℤ) :
    ∃ result, leastOf (some least) threads = some result ∧ result ≤ least ∧
      (∀ thread ∈ threads, result ≤ thread.updated) ∧
        (result = least ∨ ∃ thread ∈ threads, thread.updated = result) := by
  induction threads generalizing least with
  | nil => exact ⟨least, rfl, le_refl _, by simp, .inl rfl⟩
  | cons thread threads ih =>
    obtain ⟨result, hresult, hle, hall, hmem⟩ := ih (min least thread.updated)
    refine ⟨result, hresult, hle.trans (min_le_left _ _), ?_, ?_⟩
    · intro other hother
      rcases mem_cons.mp hother with rfl | hother
      · exact hle.trans (min_le_right _ _)
      · exact hall other hother
    · rcases hmem with rfl | ⟨other, hother, rfl⟩
      · rcases min_choice least thread.updated with h | h
        · exact .inl h
        · exact .inr ⟨thread, mem_cons_self, h.symm⟩
      · exact .inr ⟨other, mem_cons_of_mem _ hother, rfl⟩

variable {threads : List Thread}

theorem leastIn_leastOf (h : threads ≠ []) : ∃ least, leastOf none threads = some least ∧ LeastIn least threads := by
  cases threads with
  | nil => exact absurd rfl h
  | cons thread threads =>
    obtain ⟨result, hresult, hle, hall, hmem⟩ := leastOf_some threads thread.updated
    refine ⟨result, hresult, ?_, ?_⟩
    · rcases hmem with rfl | ⟨other, hother, rfl⟩
      · exact ⟨thread, mem_cons_self, rfl⟩
      · exact ⟨other, mem_cons_of_mem _ hother, rfl⟩
    · intro other hother
      rcases mem_cons.mp hother with rfl | hother
      · exact hle
      · exact hall other hother

theorem leastOf_isSome {so_far : Option ℤ} (h : so_far.isSome ∨ threads ≠ []) : (leastOf so_far threads).isSome := by
  cases so_far with
  | some least =>
    obtain ⟨result, hresult, -⟩ := leastOf_some threads least
    rw [hresult]
    rfl
  | none =>
    obtain ⟨least, hleast, -⟩ := leastIn_leastOf (h.resolve_left (by simp))
    rw [hleast]
    rfl

/-! ## The pages of a range -/

/-- A page of fifty. -/
def pageOf (found : List Thread) (page : ℕ) : List Thread := (found.drop ((page - 1) * 50)).take 50

theorem take_append_pageOf (found : List Thread) (k : ℕ) :
    found.take (k * 50) ++ pageOf found (k + 1) = found.take ((k + 1) * 50) := by
  unfold pageOf
  rw [Nat.add_sub_cancel, Nat.succ_mul, take_add]

variable {found : List Thread}

theorem pageOf_ne_nil {page : ℕ} (h : page * 50 < found.length) : pageOf found page ≠ [] := by
  intro hnil
  have hlength := congrArg length hnil
  unfold pageOf at hlength
  rw [length_take, length_drop, length_nil] at hlength
  omega

/-! ## Passes over the pinned second -/

structure HasPinned (state : MonitorState) (cursor : CatchUp) : Prop where
  catch_up : state.catch_up = some cursor
  tied : cursor.tied = true

/-- A request for a page of the pinned second. -/
def onPinned (cursor : CatchUp) (page : ℕ) : Request := ⟨page, some (cursor.before - 2), some cursor.before, none⟩

/-- A request that enumerates the pinned second. -/
def enumerates (cursor : CatchUp) (request : Request) : Prop :=
  request.since = some (cursor.before - 2) ∧ request.before = some cursor.before

/-- How a poll of a pinned second ends: these threads are received, the second is enumerated, and
while it stays pinned the range above has this cursor. -/
def EndsWell (cursor : CatchUp) (date : ℤ) (received : List Thread) (newer_before : Option ℤ)
    (outcome : Pass) : Prop :=
  ∃ result requests final, outcome = .done (some result) requests ∧
    received ⊆ result.threads ∧ result.date = some date ∧ result.catch_up = some final ∧
    (final.tied = true → final.before = cursor.before ∧ final.newer_before = newer_before) ∧
    (∃ request ∈ requests, enumerates cursor request) ∧ requests.length ≤ MAX_PAGES

/-- A scan whose remaining passes enumerate the pinned second. -/
structure Enumerating (cursor : CatchUp) (date : ℤ) (received : List Thread)
    (newer_before : Option ℤ) (left : ℕ) (scan : Scan) : Prop where
  catch_up : scan.catch_up = some { cursor with newer_before := newer_before }
  newer : scan.newer_done = true ∨ left ≤ 1
  requests : scan.requests.length + left = MAX_PAGES
  left_lt : left < MAX_PAGES
  received : received ⊆ scan.threads
  date : scan.date = some date
  asked : left = 0 → scan.oldest.isSome ∧ ∃ request ∈ scan.requests, enumerates cursor request

section Pinned

variable {inbox : Inbox} {date : ℤ} {last_modified : Option ℤ} {state : MonitorState}
  {cursor : CatchUp} {received : List Thread} {newer_before : Option ℤ} {left : ℕ} {scan : Scan}

section

variable (h : HasPinned state cursor)
include h

theorem HasPinned.pinned : pinned state = true := by
  simp [Notifications.pinned, h.catch_up, h.tied]

theorem HasPinned.newerBefore : newerBefore state = cursor.newer_before := by
  simp [Notifications.newerBefore, h.catch_up]

theorem HasPinned.freshHead (index : ℕ) : freshHead state index = (index == 0) := by
  simp [Notifications.freshHead, h.catch_up]

theorem requestOf_of_enumerating (hs : Enumerating cursor date received newer_before (left + 1) scan) :
    newerRange state (MAX_PAGES - (left + 1)) scan = false ∧ freshHead state (MAX_PAGES - (left + 1)) = false ∧
        requestOf state (MAX_PAGES - (left + 1)) scan = onPinned cursor scan.page := by
  have hlt := hs.left_lt
  have hindex : (MAX_PAGES - (left + 1) == 0) = false := by grind
  have hnewer : newerRange state (MAX_PAGES - (left + 1)) scan = false := by
    unfold newerRange
    rw [h.freshHead, hindex]
    rcases hs.newer with hdone | hleft
    · simp [hdone]
    · have : left = 0 := by omega
      subst this
      simp [MAX_PAGES]
  refine ⟨hnewer, by rw [h.freshHead, hindex], ?_⟩
  simp [requestOf, requestPage, lowerOf, beforeOf, ifModifiedSince, onPinned, hnewer, h.freshHead,
    hindex, h.pinned, hs.catch_up]

end

/-- What there is of the pinned second. -/
def pinnedFound (inbox : Inbox) (cursor : CatchUp) : List Thread :=
  inbox.between (some (cursor.before - 2)) (some cursor.before)

/-- A scan with one more page of the pinned second. -/
def withPinnedPage (inbox : Inbox) (cursor : CatchUp) (scan : Scan) : Scan :=
  let threads := pageOf (pinnedFound inbox cursor) scan.page
  { scan with
    threads := scan.threads ++ threads
    requests := scan.requests ++ [onPinned cursor scan.page]
    oldest := leastOf scan.oldest threads
    newest := greatestOf scan.newest threads }

/-- A pass over the pinned second: it goes on with the next page, or the second ends. -/
theorem pass_of_enumerating (inbox : Inbox) (last_modified : Option ℤ) (h : HasPinned state cursor)
    (hs : Enumerating cursor date received newer_before (left + 1) scan) :
    pass state (inbox.answer date last_modified) (MAX_PAGES - (left + 1)) scan =
      if scan.page * 50 < (pinnedFound inbox cursor).length then
        .next { withPinnedPage inbox cursor scan with page := scan.page + 1 }
      else endPass state (withPinnedPage inbox cursor scan) := by
  obtain ⟨hnewer, hfresh, hrequest⟩ := requestOf_of_enumerating h hs
  have hindex : MAX_PAGES - (left + 1) ≠ 0 := by
    have hlt := hs.left_lt
    omega
  have hfound : inbox.between (onPinned cursor scan.page).since (onPinned cursor scan.page).before =
      pinnedFound inbox cursor := rfl
  have hnumber : (onPinned cursor scan.page).page = scan.page := rfl
  have hpage : ¬ scan.page + 1 ≤ scan.page := by omega
  simp only [pass, hrequest, Inbox.answer, hnewer, hfresh, hindex, hfound, hnumber,
    if_false, Bool.false_eq_true, Bool.not_false, Bool.and_self, if_true]
  by_cases hmore : scan.page * 50 < (pinnedFound inbox cursor).length
  · rw [if_pos hmore, if_pos hmore]
    simp only [hpage, if_false]
    rfl
  · rw [if_neg hmore, if_neg hmore]
    rfl

/-- The pages are used up: the second stays pinned, at the page that is next. -/
theorem capped_of_enumerating (h : HasPinned state cursor) (hs : Enumerating cursor date received newer_before 0 scan) :
    EndsWell cursor date received newer_before (capped state scan) := by
  obtain ⟨hsome, request, hrequest, hasked⟩ := hs.asked rfl
  obtain ⟨oldest, holdest⟩ := isSome_iff_exists.mp hsome
  have hrequests := hs.requests
  let final : CatchUp := { cursor with newer_before := newer_before, page := scan.page }
  refine ⟨⟨scan.threads, scan.date, scan.last_modified, state.watermark, some final⟩,
    scan.requests, final, ?_, hs.received, hs.date, rfl, fun _ => ⟨rfl, rfl⟩, ⟨request, hrequest, hasked⟩, by omega⟩
  simp only [capped, holdest, hs.catch_up, h.tied, if_true, final]

/-- The second ends: it stays pinned at its first page, or a poll that began there has all of it. -/
theorem endPass_of_enumerating (inbox : Inbox) (h : HasPinned state cursor)
    (hs : Enumerating cursor date received newer_before (left + 1) scan) :
    EndsWell cursor date received newer_before (endPass state (withPinnedPage inbox cursor scan)) := by
  have hrequests := hs.requests
  have hcatch : (withPinnedPage inbox cursor scan).catch_up =
      some { cursor with newer_before := newer_before } := hs.catch_up
  simp only [endPass, hcatch, filter, h.tied, if_true]
  refine ⟨_, _, _, rfl, subset_append_of_subset_left _ hs.received, hs.date, rfl, ?_,
    ⟨onPinned cursor scan.page, by simp [withPinnedPage], rfl, rfl⟩, ?_⟩
  · intro htied
    by_cases hone : cursor.page = 1
    · simp [hone] at htied
    · simp [hone]
  · simp only [withPinnedPage, length_append, length_singleton]
    omega

/-- What is left of a poll that enumerates the pinned second. -/
theorem loop_of_enumerating (h : HasPinned state cursor)
    (hs : Enumerating cursor date received newer_before left scan) :
    EndsWell cursor date received newer_before (loop state (inbox.answer date last_modified) left scan) := by
  induction left generalizing scan with
  | zero => exact capped_of_enumerating h hs
  | succ left ih =>
    have hrequests := hs.requests
    have hlt := hs.left_lt
    have hpass := pass_of_enumerating inbox last_modified h hs
    by_cases hmore : scan.page * 50 < (pinnedFound inbox cursor).length
    · rw [if_pos hmore] at hpass
      rw [loop, hpass]
      -- the page is not empty, so that its least time is there should the passes end here
      have hsome : (leastOf scan.oldest (pageOf (pinnedFound inbox cursor) scan.page)).isSome :=
        leastOf_isSome (.inr (pageOf_ne_nil hmore))
      refine ih ⟨hs.catch_up, hs.newer.imp id fun hle => by omega, ?_, by omega,
        subset_append_of_subset_left _ hs.received, hs.date,
        fun _ => ⟨hsome, onPinned cursor scan.page, by simp [withPinnedPage], rfl, rfl⟩⟩
      simp only [withPinnedPage, length_append, length_singleton]
      omega
    · rw [if_neg hmore] at hpass
      rw [loop, hpass]
      have hends := endPass_of_enumerating inbox h hs
      obtain ⟨result, requests, final, houtcome, hwell⟩ := hends
      rw [houtcome]
      exact ⟨result, requests, final, rfl, hwell⟩

/-! ## Passes over the range above -/

/-- What a poll looks for above the pinned second. -/
def newerFound (inbox : Inbox) (cursor : CatchUp) : List Thread :=
  inbox.between (some (cursor.before - 1)) cursor.newer_before

/-- The cursor of the range above, after so many pages of it. -/
def newerEnd (state : MonitorState) (found : List Thread) (pages : ℕ) : Option ℤ :=
  if pages * 50 < found.length then (leastOf none (found.take (pages * 50))).bind (newerCursor state)
  else none

/-- A scan that has so many pages of the range above. -/
structure Newer (inbox : Inbox) (state : MonitorState) (cursor : CatchUp) (date : ℤ) (pages left : ℕ)
    (scan : Scan) : Prop where
  catch_up : scan.catch_up = some cursor
  page : scan.newer_page = pages + 1
  done : scan.newer_done = false
  oldest : scan.newer_oldest = leastOf none ((newerFound inbox cursor).take (pages * 50))
  received : (newerFound inbox cursor).take (pages * 50) ⊆ scan.threads
  requests : scan.requests.length + left = MAX_PAGES
  date : left < MAX_PAGES → scan.date = some date
  head : left = MAX_PAGES → cursor.newer_before = none ∧ pages = 0

variable {pages : ℕ}

theorem requestOf_of_newer (h : HasPinned state cursor) (hs : Newer inbox state cursor date pages (left + 2) scan) :
    newerRange state (MAX_PAGES - (left + 2)) scan = true ∧ requestOf state (MAX_PAGES - (left + 2)) scan =
        ⟨pages + 1, some (cursor.before - 1), cursor.newer_before, none⟩ := by
  have hrequests := hs.requests
  have hnewer : newerRange state (MAX_PAGES - (left + 2)) scan = true := by
    unfold newerRange
    rw [h.freshHead, h.newerBefore, h.pinned, hs.done]
    by_cases hhead : left + 2 = MAX_PAGES
    · simp [hhead, (hs.head hhead).1]
    · have : (MAX_PAGES - (left + 2) == 0) = false := by
        grind
      simp only [this, Bool.false_eq_true, if_false]
      grind
  refine ⟨hnewer, ?_⟩
  have hpage : requestPage state (MAX_PAGES - (left + 2)) scan = pages + 1 := by
    unfold requestPage
    rw [h.freshHead, hnewer, hs.page]
    by_cases hhead : left + 2 = MAX_PAGES
    · simp [hhead, (hs.head hhead).2]
    · have : (MAX_PAGES - (left + 2) == 0) = false := by
        grind
      simp [this]
  simp [requestOf, hpage, lowerOf, beforeOf, ifModifiedSince, hnewer, h.freshHead, h.newerBefore, h.pinned, hs.catch_up]

/-- A pass over the range above: its page is received. -/
theorem pass_of_newer (last_modified : Option ℤ) (h : HasPinned state cursor)
    (hs : Newer inbox state cursor date pages (left + 2) scan) :
    ∃ after, pass state (inbox.answer date last_modified) (MAX_PAGES - (left + 2)) scan =
        newerPass state (MAX_PAGES - (left + 2)) (pages + 1)
          (if (pages + 1) * 50 < (newerFound inbox cursor).length then some (pages + 2) else none) after ∧
      Newer inbox state cursor date (pages + 1) (left + 1) { after with newer_page := pages + 2 } := by
  obtain ⟨hnewer, hrequest⟩ := requestOf_of_newer h hs
  have hrequests := hs.requests
  have hdate : (if MAX_PAGES - (left + 2) = 0 then some date else scan.date) = some date := by
    by_cases hhead : MAX_PAGES - (left + 2) = 0
    · rw [if_pos hhead]
    · rw [if_neg hhead, hs.date (by omega)]
  let index := MAX_PAGES - (left + 2)
  let threads := pageOf (newerFound inbox cursor) (pages + 1)
  refine ⟨{ scan with
    threads := scan.threads ++ threads
    requests := scan.requests ++ [⟨pages + 1, some (cursor.before - 1), cursor.newer_before, none⟩]
    date := if index = 0 then some date else scan.date
    last_modified := if index = 0 then last_modified else scan.last_modified
    newer_oldest := leastOf scan.newer_oldest threads }, ?_,
    ⟨hs.catch_up, rfl, hs.done, ?_, ?_, ?_, fun _ => hdate, fun hhead => by omega⟩⟩
  · simp only [pass, hrequest, Inbox.answer, hnewer, if_true, Bool.not_true, Bool.false_and,
      Bool.false_eq_true, if_false]
    rfl
  · rw [← take_append_pageOf, leastOf_append, ← hs.oldest]
  · rw [← take_append_pageOf]
    exact append_subset.mpr ⟨subset_append_of_subset_left _ hs.received, subset_append_right _ _⟩
  · simp only [length_append, length_singleton]
    omega

variable {pages budget : ℕ} {after : Scan}

/-- The range above has ended: what is left enumerates the pinned second. -/
theorem Newer.enumerating
    (hs : Newer inbox state cursor date (pages + 1) (left + 1) { after with newer_page := pages + 2 })
    (hend : (newerFound inbox cursor).length ≤ (pages + 1) * 50) (hbudget : pages + 1 ≤ budget)
    (hlt : left + 1 < MAX_PAGES) : Enumerating cursor date ((newerFound inbox cursor).take (budget * 50))
      (newerEnd state (newerFound inbox cursor) budget) (left + 1)
      { after with
        newer_done := true
        catch_up := after.catch_up.map fun cursor => { cursor with newer_before := none } } := by
  have hall : (newerFound inbox cursor).length ≤ budget * 50 := hend.trans (Nat.mul_le_mul_right _ hbudget)
  have htake : (newerFound inbox cursor).take (budget * 50) = (newerFound inbox cursor).take ((pages + 1) * 50) := by
    rw [take_of_length_le hall, take_of_length_le hend]
  have hnone : newerEnd state (newerFound inbox cursor) budget = none := by
    unfold newerEnd
    rw [if_neg (Nat.not_lt.mpr hall)]
  have hcatch : after.catch_up = some cursor := hs.catch_up
  have hreceived : (newerFound inbox cursor).take (budget * 50) ⊆ after.threads := by
    rw [htake]
    exact hs.received
  refine ⟨?_, .inl rfl, hs.requests, hlt, hreceived, hs.date hlt, nofun⟩
  simp only [hcatch, hnone, map_some]

theorem exists_leastOf_take {count : ℕ} (h : 0 < count) (hmore : count < found.length) :
    ∃ least, leastOf none (found.take count) = some least ∧ LeastIn least (found.take count) := by
  refine leastIn_leastOf fun hnil => ?_
  have hlength := congrArg length hnil
  rw [length_take, length_nil] at hlength
  omega

/-- The budget of the range above is used. -/
theorem Newer.enumerating_used {least : ℤ}
    (hs : Newer inbox state cursor date (pages + 1) 1 { after with newer_page := pages + 2 })
    (hmore : (pages + 1) * 50 < (newerFound inbox cursor).length)
    (hleast : leastOf none ((newerFound inbox cursor).take ((pages + 1) * 50)) = some least) :
    Enumerating cursor date ((newerFound inbox cursor).take ((pages + 1) * 50))
      (newerEnd state (newerFound inbox cursor) (pages + 1)) 1
      { after with
        newer_page := pages + 2
        catch_up := some { cursor with newer_before := newerCursor state least } } := by
  have hend : newerEnd state (newerFound inbox cursor) (pages + 1) = newerCursor state least := by
    unfold newerEnd
    rw [if_pos hmore, hleast]
    rfl
  have hlt : 1 < MAX_PAGES := by decide
  refine ⟨?_, .inr (Nat.le_refl 1), hs.requests, hlt, hs.received, hs.date hlt, nofun⟩
  rw [hend]

/-- What is left of a poll that has so many pages of the range above. -/
theorem loop_of_newer (h : HasPinned state cursor)
    (hs : Newer inbox state cursor date pages (left + 2) scan) (hbudget : pages + left + 1 = budget) :
    EndsWell cursor date ((newerFound inbox cursor).take (budget * 50))
      (newerEnd state (newerFound inbox cursor) budget)
      (loop state (inbox.answer date last_modified) (left + 2) scan) := by
  induction left generalizing pages scan with
  | zero =>
    obtain ⟨after, hpass, hafter⟩ := pass_of_newer last_modified h hs
    by_cases hmore : (pages + 1) * 50 < (newerFound inbox cursor).length
    · -- the last page of the budget
      obtain ⟨least, hleast, -⟩ := exists_leastOf_take (Nat.mul_pos (Nat.succ_pos pages) (by decide)) hmore
      have holdest : after.newer_oldest = some least := hafter.oldest.trans hleast
      have hcatch : after.catch_up = some cursor := hafter.catch_up
      have hstep : pass state (inbox.answer date last_modified) (MAX_PAGES - (0 + 2)) scan =
          .next { after with
            newer_page := pages + 2
            catch_up := some { cursor with newer_before := newerCursor state least } } := by
        rw [hpass, if_pos hmore]
        simp [newerPass, holdest, hcatch]
      rw [Nat.add_zero] at hbudget
      subst hbudget
      rw [loop, hstep]
      exact loop_of_enumerating h (hafter.enumerating_used hmore hleast)
    · have hstep : pass state (inbox.answer date last_modified) (MAX_PAGES - (0 + 2)) scan =
          .next { after with
            newer_done := true
            catch_up := after.catch_up.map fun cursor => { cursor with newer_before := none } } := by
        rw [hpass, if_neg hmore, newerPass]
      rw [loop, hstep]
      exact loop_of_enumerating h (hafter.enumerating (Nat.not_lt.mp hmore) (by omega) (by decide))
  | succ left ih =>
    obtain ⟨after, hpass, hafter⟩ := pass_of_newer last_modified h hs
    have hrequests := hs.requests
    by_cases hmore : (pages + 1) * 50 < (newerFound inbox cursor).length
    · have hstep : pass state (inbox.answer date last_modified) (MAX_PAGES - (left + 1 + 2)) scan =
          .next { after with newer_page := pages + 2 } := by
        have hlast : MAX_PAGES - (left + 1 + 2) ≠ MAX_PAGES - 2 := by omega
        rw [hpass, if_pos hmore]
        simp [newerPass, hlast]
      rw [loop, hstep]
      exact ih hafter (by omega)
    · have hstep : pass state (inbox.answer date last_modified) (MAX_PAGES - (left + 1 + 2)) scan =
          .next { after with
            newer_done := true
            catch_up := after.catch_up.map fun cursor => { cursor with newer_before := none } } := by
        rw [hpass, if_neg hmore, newerPass]
      rw [loop, hstep]
      exact loop_of_enumerating h (hafter.enumerating (Nat.not_lt.mp hmore) (by omega) (by omega))

/-! ## A poll -/

/-- The pages of a poll for the range above: the head is one of them where no cursor is saved. -/
def newerBudget (cursor : CatchUp) : ℕ := if cursor.newer_before.isNone then 4 else 3

theorem newer_start (h : HasPinned state cursor) (hnewer : cursor.newer_before = none) :
    Newer inbox state cursor date 0 (3 + 2) (startScan state) where
  catch_up := h.catch_up
  page := rfl
  done := rfl
  oldest := by simp [startScan, leastOf]
  received := by simp
  requests := rfl
  date := fun hlt => absurd hlt (by decide)
  head := fun _ => ⟨hnewer, rfl⟩

/-- A poll with a saved cursor fetches the head first. -/
theorem pass_head (inbox : Inbox) (date : ℤ) (last_modified : Option ℤ) (h : HasPinned state cursor)
    (hnewer : cursor.newer_before.isSome) :
    ∃ after, pass state (inbox.answer date last_modified) (MAX_PAGES - (4 + 1)) (startScan state) =
        .next after ∧ Newer inbox state cursor date 0 (2 + 2) after := by
  have hisNone : cursor.newer_before.isNone = false := by simpa using hnewer
  have hfresh : freshHead state 0 = true := by simp [h.freshHead]
  have hrange : newerRange state 0 (startScan state) = false := by
    unfold newerRange
    rw [hfresh, h.newerBefore, hisNone]
    simp
  let request := requestOf state 0 (startScan state)
  let found := inbox.between request.since request.before
  let threads := (found.drop ((request.page - 1) * 50)).take 50
  refine ⟨{ startScan state with
    threads := (startScan state).threads ++ threads
    requests := (startScan state).requests ++ [request]
    date := some date
    last_modified := last_modified }, ?_,
    ⟨h.catch_up, rfl, rfl, by simp [startScan, leastOf], by simp, rfl, fun _ => rfl, fun hlt => absurd hlt (by decide)⟩⟩
  show pass state (inbox.answer date last_modified) 0 (startScan state) = _
  simp only [pass, Inbox.answer, hrange, hfresh, Bool.not_true, Bool.and_false, Bool.false_eq_true, if_false, if_true]
  rfl

theorem fetchThreads_of_pinned (inbox : Inbox) (date : ℤ) (last_modified : Option ℤ) (h : HasPinned state cursor) :
    EndsWell cursor date ((newerFound inbox cursor).take (newerBudget cursor * 50))
      (newerEnd state (newerFound inbox cursor) (newerBudget cursor))
      (fetchThreads state (inbox.answer date last_modified)) := by
  unfold fetchThreads newerBudget
  cases hnewer : cursor.newer_before with
  | none => exact loop_of_newer h (newer_start h hnewer) rfl
  | some before =>
    obtain ⟨after, hpass, hafter⟩ := pass_head inbox date last_modified h (by rw [hnewer]; rfl)
    have hstep : loop state (inbox.answer date last_modified) MAX_PAGES (startScan state) =
        loop state (inbox.answer date last_modified) (2 + 2) after := by
      show loop state (inbox.answer date last_modified) (4 + 1) (startScan state) = _
      rw [loop, hpass]
    rw [hstep]
    exact loop_of_newer h hafter rfl

structure PinnedPoll (inbox : Inbox) (state : MonitorState) (cursor : CatchUp) (polled : Polled) :
    Prop where
  received : (newerFound inbox cursor).take (newerBudget cursor * 50) ⊆ polled.threads
  enumerated : ∃ request ∈ polled.requests, enumerates cursor request
  requests : polled.requests.length ≤ MAX_PAGES
  newer : ∀ final, HasPinned polled.state final → final.before = cursor.before ∧
    final.newer_before = newerEnd state (newerFound inbox cursor) (newerBudget cursor)

theorem pollOnce_of_pinned (inbox : Inbox) (date : ℤ) (last_modified : Option ℤ) (h : HasPinned state cursor) :
    ∃ polled, pollOnce state (inbox.answer date last_modified) = some polled ∧
      PinnedPoll inbox state cursor polled := by
  obtain ⟨result, requests, final, houtcome, hreceived, hdate, hcatch, htied, hasked, hlength⟩ :=
    fetchThreads_of_pinned inbox date last_modified h
  let after : MonitorState := {
    cutoff := some (state.cutoff.getD date)
    watermark := result.watermark
    catch_up := result.catch_up
    last_modified := if result.catch_up.isSome then none else result.last_modified }
  refine ⟨⟨after, result.threads, requests⟩, ?_, ⟨hreceived, hasked, hlength, fun other hother => ?_⟩⟩
  · simp only [pollOnce, houtcome, hdate, map_some, after]
  · have hsame : final = other := some.inj (hcatch.symm.trans hother.catch_up)
    subst hsame
    exact htied hother.tied

end Pinned

end Clawhip.Notifications
