import Clawhip.Notifications.Pinned

/-!
# The range above a pinned second drains

Polls of a frozen inbox while a second stays pinned. Where every second above it has fewer than a
hundred and fifty threads, a saved cursor moves down at each poll until its range has ended, and the
scan from the head after that leaves nothing above its own cursor: so every thread above the pinned
second is received.
-/

namespace Clawhip.Notifications

open List Option

variable {inbox : Inbox} {state : MonitorState} {cursor : CatchUp}

/-! ## Runs -/

/-- Polls of one inbox, at these headers. -/
def pollAll (inbox : Inbox) : MonitorState → List (ℤ × Option ℤ) → Option (List Polled)
  | _, [] => some []
  | state, (date, last_modified) :: headers => do
    let polled ← pollOnce state (inbox.answer date last_modified)
    let later ← pollAll inbox polled.state headers
    some (polled :: later)

/-- The state after a run. -/
def lastState : MonitorState → List Polled → MonitorState
  | state, [] => state
  | _, polled :: later => lastState polled.state later

/-- The second stays pinned in a run. -/
def StaysPinned (run : List Polled) : Prop := ∀ polled ∈ run, pinned polled.state = true

def Received (run : List Polled) (thread : Thread) : Prop := ∃ polled ∈ run, thread ∈ polled.threads

variable {headers : List (ℤ × Option ℤ)} {last_modified : Option ℤ} {run : List Polled} {date : ℤ}

theorem pollAll_cons (h : pollAll inbox state ((date, last_modified) :: headers) = some run) :
    ∃ polled later, pollOnce state (inbox.answer date last_modified) = some polled ∧
      pollAll inbox polled.state headers = some later ∧ run = polled :: later := by
  obtain ⟨polled, hpolled, h⟩ := bind_eq_some_iff.mp h
  obtain ⟨later, hlater, h⟩ := bind_eq_some_iff.mp h
  exact ⟨polled, later, hpolled, hlater, (some.inj h).symm⟩

theorem exists_hasPinned (h : pinned state = true) : ∃ cursor, HasPinned state cursor := by
  unfold pinned at h
  cases hcatch : state.catch_up with
  | none => simp [hcatch] at h
  | some cursor => exact ⟨cursor, hcatch, by simpa [hcatch] using h⟩

/-! ## The range above -/

def Inbox.atSecond (inbox : Inbox) (second : ℤ) : List Thread :=
  inbox.threads.filter fun thread => decide (thread.updated = second)

variable {thread : Thread}

theorem mem_newerFound : thread ∈ newerFound inbox cursor ↔ thread ∈ inbox.threads ∧
      cursor.before - 1 < thread.updated ∧ ∀ before ∈ cursor.newer_before, thread.updated < before := by
  cases h : cursor.newer_before <;> simp [newerFound, Inbox.between, h]

theorem newerFound_newest_first : (newerFound inbox cursor).Pairwise fun a b => b.updated ≤ a.updated :=
  inbox.newest_first.filter _

variable {count : ℕ}

/-- What is above the least of the first threads is one of them. -/
theorem mem_take_of_least_lt {found : List Thread} {least : ℤ}
    (hsorted : found.Pairwise fun a b => b.updated ≤ a.updated) (hleast : LeastIn least (found.take count))
    (hmem : thread ∈ found) (h : least < thread.updated) : thread ∈ found.take count := by
  rw [← take_append_drop count found] at hmem hsorted
  rcases mem_append.mp hmem with htake | hdrop
  · exact htake
  · obtain ⟨lowest, hlowest, rfl⟩ := hleast.mem
    have hle := (pairwise_append.mp hsorted).2.2 lowest hlowest thread hdrop
    exact absurd h (Int.not_lt.mpr hle)

/-- Fewer than the budget at each second: the threads of a full budget are not of one second. -/
theorem least_lt_of_full {least before : ℤ}
    (hseconds : ∀ second, cursor.before - 1 < second → (inbox.atSecond second).length < count)
    (hnewer : cursor.newer_before = some before) (hmore : count < (newerFound inbox cursor).length)
    (hleast : LeastIn least ((newerFound inbox cursor).take count)) : least + 1 < before := by
  obtain ⟨lowest, hlowest, hlow⟩ := hleast.mem
  have hrange := mem_newerFound.mp (mem_of_mem_take hlowest)
  have hbelow : lowest.updated < before := hrange.2.2 before hnewer
  by_contra hstall
  -- then all of them are of the last second below the cursor
  have hsecond : ∀ thread ∈ (newerFound inbox cursor).take count, thread.updated = before - 1 := by
    intro thread hthread
    have hle := hleast.le thread hthread
    have hlt := (mem_newerFound.mp (mem_of_mem_take hthread)).2.2 before hnewer
    omega
  have hsublist : ((newerFound inbox cursor).take count).Sublist (inbox.atSecond (before - 1)) := by
    have hfilter : ((newerFound inbox cursor).take count).filter
        (fun thread => decide (thread.updated = before - 1)) = (newerFound inbox cursor).take count :=
      filter_eq_self.mpr fun thread hthread => decide_eq_true (hsecond thread hthread)
    rw [← hfilter]
    exact ((take_sublist _ _).trans filter_sublist).filter _
  have hlength := hsublist.length_le
  have hfew := hseconds (before - 1) (by omega)
  rw [length_take] at hlength
  omega

/-! ## Draining -/

/-- The first poll of a run that stays pinned. -/
theorem pinned_cons (h : HasPinned state cursor)
    (hrun : pollAll inbox state ((date, last_modified) :: headers) = some run) (hstays : StaysPinned run) :
    ∃ polled later final, run = polled :: later ∧ PinnedPoll inbox state cursor polled ∧
      HasPinned polled.state final ∧ pollAll inbox polled.state headers = some later ∧ StaysPinned later := by
  obtain ⟨polled, later, hpolled, hlater, rfl⟩ := pollAll_cons hrun
  obtain ⟨same, hsame, hspec⟩ := pollOnce_of_pinned inbox date last_modified h
  obtain rfl : polled = same := some.inj (hpolled.symm.trans hsame)
  obtain ⟨final, hfinal⟩ := exists_hasPinned (hstays polled mem_cons_self)
  exact ⟨polled, later, final, rfl, hspec, hfinal, hlater, fun other hother => hstays other (mem_cons_of_mem _ hother)⟩

/-- A saved cursor ends, and what was below it is received by then. -/
theorem exists_drained (left : ℕ) (h : HasPinned state cursor) {before : ℤ}
    (hnewer : cursor.newer_before = some before) (hleft : (before - cursor.before).toNat ≤ left)
    (hseconds : ∀ second, cursor.before - 1 < second → (inbox.atSecond second).length < 150)
    (hlong : left < headers.length) (hrun : pollAll inbox state headers = some run) (hstays : StaysPinned run) :
    ∃ first later after final rest, run = first ++ later ∧ HasPinned after final ∧
      final.before = cursor.before ∧ final.newer_before = none ∧
        pollAll inbox after rest = some later ∧ headers.length ≤ rest.length + left + 1 ∧
          ∀ thread ∈ newerFound inbox cursor, Received first thread := by
  induction left using Nat.strong_induction_on generalizing state cursor before headers run with
  | _ left ih =>
    cases headers with
    | nil => exact absurd hlong (Nat.not_lt_zero _)
    | cons header headers =>
      obtain ⟨date, last_modified⟩ := header
      obtain ⟨polled, later, final, rfl, hspec, hfinal, hlater, hpinned⟩ := pinned_cons h hrun hstays
      obtain ⟨hbefore, hend⟩ := hspec.newer final hfinal
      have hbudget : newerBudget cursor = 3 := by simp [newerBudget, hnewer]
      have hreceived := hspec.received
      rw [hbudget] at hend hreceived
      by_cases hmore : 3 * 50 < (newerFound inbox cursor).length
      · -- the cursor moves down
        obtain ⟨least, hsome, hleast⟩ := exists_leastOf_take (by decide) hmore
        have hlt : least + 1 < before := least_lt_of_full hseconds hnewer hmore hleast
        have hmoved : final.newer_before = some (least + 1) := by
          simp [hend, newerEnd, hmore, hsome, newerCursor, h.newerBefore, hnewer, hlt]
        obtain ⟨lowest, hlowest, hlow⟩ := hleast.mem
        have hrange := (mem_newerFound.mp (mem_of_mem_take hlowest)).2.1
        rw [length_cons] at hlong
        obtain ⟨first, later', after, last, rest, rfl, hafter, hsame, hnone, hrest, hlength, hall⟩ :=
          ih (left - 1) (by omega) hfinal hmoved (by omega) (by rwa [hbefore]) (by omega) hlater hpinned
        refine ⟨polled :: first, later', after, last, rest, rfl, hafter, hsame.trans hbefore, hnone,
          hrest, by rw [length_cons]; omega, fun thread hthread => ?_⟩
        by_cases hupper : least < thread.updated
        · exact ⟨polled, mem_cons_self, hreceived (mem_take_of_least_lt newerFound_newest_first hleast hthread hupper)⟩
        · obtain ⟨hmem, hlower, -⟩ := mem_newerFound.mp hthread
          have hbelow : thread ∈ newerFound inbox final := by
            refine mem_newerFound.mpr ⟨hmem, by rwa [hbefore], fun bound hbound => ?_⟩
            obtain rfl : least + 1 = bound := some.inj (hmoved.symm.trans hbound)
            omega
          obtain ⟨other, hother, hthread⟩ := hall thread hbelow
          exact ⟨other, mem_cons_of_mem _ hother, hthread⟩
      · -- the range ends
        have hnone : final.newer_before = none := by rw [hend, newerEnd, if_neg hmore]
        refine ⟨[polled], later, polled.state, final, headers, rfl, hfinal, hbefore, hnone, hlater,
          by rw [length_cons]; omega, fun thread hthread => ?_⟩
        refine ⟨polled, mem_cons_self, hreceived ?_⟩
        rwa [take_of_length_le (Nat.not_lt.mp hmore)]

/-- From the head, everything above the pinned second is received. -/
theorem exists_received_from_head (inbox : Inbox) (before : ℤ)
    (hseconds : ∀ second, before - 1 < second → (inbox.atSecond second).length < 150) :
    ∃ polls, ∀ state cursor, HasPinned state cursor → cursor.before = before →
      cursor.newer_before = none → ∀ headers run, polls ≤ headers.length →
        pollAll inbox state headers = some run → StaysPinned run →
          ∀ thread ∈ inbox.threads, before - 1 < thread.updated → Received run thread := by
  let found := inbox.between (some (before - 1)) none
  -- one poll from the head, and those that its cursor takes to end
  refine ⟨((leastOf none (found.take (4 * 50))).elim 0 fun least => (least + 1 - before).toNat) + 2, ?_⟩
  rintro state cursor h rfl hnone headers run hlong hrun hstays thread hthread hlower
  have hfound : newerFound inbox cursor = found := by rw [newerFound, hnone]
  have hbudget : newerBudget cursor = 4 := by simp [newerBudget, hnone]
  have hmem : thread ∈ found := by
    rw [← hfound]
    exact mem_newerFound.mpr ⟨hthread, hlower, by simp [hnone]⟩
  cases headers with
  | nil => exact absurd hlong (by simp)
  | cons header headers =>
    obtain ⟨polled, later, final, rfl, hspec, hfinal, hlater, hpinned⟩ := pinned_cons h hrun hstays
    obtain ⟨hbefore, hend⟩ := hspec.newer final hfinal
    have hreceived := hspec.received
    rw [hfound, hbudget] at hend hreceived
    by_cases hmore : 4 * 50 < found.length
    · obtain ⟨least, hsome, hleast⟩ := exists_leastOf_take (by decide) hmore
      by_cases hupper : least < thread.updated
      · exact ⟨polled, mem_cons_self, hreceived (mem_take_of_least_lt (inbox.newest_first.filter _) hleast hmem hupper)⟩
      · have hmoved : final.newer_before = some (least + 1) := by
          simp [hend, newerEnd, hmore, hsome, newerCursor, h.newerBefore, hnone]
        have hlong' : (least + 1 - cursor.before).toNat + 2 ≤ headers.length + 1 := by simpa [hsome] using hlong
        obtain ⟨first, later', -, -, -, rfl, -, -, -, -, -, hall⟩ :=
          exists_drained (least + 1 - cursor.before).toNat hfinal hmoved (by rw [hbefore])
            (by rwa [hbefore]) (by omega) hlater hpinned
        have hbelow : thread ∈ newerFound inbox final := by
          refine mem_newerFound.mpr ⟨hthread, by rwa [hbefore], fun bound hbound => ?_⟩
          obtain rfl : least + 1 = bound := some.inj (hmoved.symm.trans hbound)
          omega
        obtain ⟨other, hother, hthread⟩ := hall thread hbelow
        exact ⟨other, mem_cons_of_mem _ (mem_append_left _ hother), hthread⟩
    · rw [take_of_length_le (Nat.not_lt.mp hmore)] at hreceived
      exact ⟨polled, mem_cons_self, hreceived hmem⟩

theorem exists_received (h : HasPinned state cursor)
    (hseconds : ∀ second, cursor.before - 1 < second → (inbox.atSecond second).length < 150) :
    ∃ polls, ∀ headers run, polls ≤ headers.length → pollAll inbox state headers = some run →
      StaysPinned run → ∀ thread ∈ inbox.threads, cursor.before - 1 < thread.updated → Received run thread := by
  obtain ⟨polls, hpolls⟩ := exists_received_from_head inbox cursor.before hseconds
  cases hnewer : cursor.newer_before with
  | none => exact ⟨polls, hpolls state cursor h rfl hnewer⟩
  | some before =>
    let left := (before - cursor.before).toNat
    refine ⟨polls + left + 1, fun headers run hlong hrun hstays thread hthread hlower => ?_⟩
    obtain ⟨first, later, after, final, rest, rfl, hafter, hsame, hnone, hrest, hlength, -⟩ :=
      exists_drained left h hnewer (Nat.le_refl _) hseconds (by omega) hrun hstays
    have hpinned : StaysPinned later := fun polled hpolled => hstays polled (mem_append_right _ hpolled)
    obtain ⟨polled, hpolled, hmem⟩ :=
      hpolls after final hafter hsame hnone rest later (by omega) hrest hpinned thread hthread hlower
    exact ⟨polled, mem_append_right _ hpolled, hmem⟩

/-- A run that stays pinned keeps the pinned second. -/
theorem lastState_pinned (h : HasPinned state cursor) (hrun : pollAll inbox state headers = some run)
    (hstays : StaysPinned run) : ∃ final, HasPinned (lastState state run) final ∧ final.before = cursor.before := by
  induction headers generalizing state cursor run with
  | nil =>
    obtain rfl : [] = run := some.inj hrun
    exact ⟨cursor, h, rfl⟩
  | cons header headers ih =>
    obtain ⟨polled, later, final, rfl, hspec, hfinal, hlater, hpinned⟩ := pinned_cons h hrun hstays
    obtain ⟨last, hlast, hbefore⟩ := ih hfinal hlater hpinned
    exact ⟨last, hlast, hbefore.trans (hspec.newer final hfinal).1⟩

/-! ## Pinned seconds -/

/-- A request on the pinned second: strictly after the second before it, strictly before the next. -/
def OnSecond (second : ℤ) (request : Request) : Prop :=
  request.since = some (second - 1) ∧ request.before = some (second + 1)

/-- Polls of a frozen inbox from any state with a pinned second, each second above it of fewer than
a hundred and fifty threads: while it stays pinned every poll succeeds and asks for it, and after
finitely many polls every thread above it is received. -/
theorem newer_range_drains (h : HasPinned state cursor) {second : ℤ} (hsecond : second = cursor.before - 1)
    (hfew : ∀ newer, second < newer → (inbox.atSecond newer).length < 150) :
    (∀ headers run, pollAll inbox state headers = some run → StaysPinned run → ∀ date last_modified, ∃ polled,
        pollOnce (lastState state run) (inbox.answer date last_modified) = some polled ∧
          (∃ request ∈ polled.requests, OnSecond second request) ∧ polled.requests.length ≤ MAX_PAGES) ∧
    ∃ polls, ∀ headers run, polls ≤ headers.length → pollAll inbox state headers = some run →
      StaysPinned run → ∀ thread ∈ inbox.threads, second < thread.updated → Received run thread := by
  subst hsecond
  refine ⟨fun headers run hrun hstays date last_modified => ?_, exists_received h hfew⟩
  obtain ⟨final, hfinal, hbefore⟩ := lastState_pinned h hrun hstays
  obtain ⟨polled, hpolled, hspec⟩ := pollOnce_of_pinned inbox date last_modified hfinal
  obtain ⟨request, hrequest, hsince, hasked⟩ := hspec.enumerated
  refine ⟨polled, hpolled, ⟨request, hrequest, ?_, ?_⟩, hspec.requests⟩
  · rw [hsince, hbefore]
    congr 1
    omega
  · rw [hasked, hbefore, Int.sub_add_cancel]

/-! ## Seconds of a hundred and fifty -/

/-- What polls reach from the start, of any inboxes. -/
inductive Reachable : MonitorState → Prop
  | start : Reachable {}
  | poll {state : MonitorState} (inbox : Inbox) (date : ℤ) (last_modified : Option ℤ)
      {polled : Polled} : Reachable state →
        pollOnce state (inbox.answer date last_modified) = some polled → Reachable polled.state

variable {state : MonitorState}

theorem pollAll_append {before after : List (ℤ × Option ℤ)}
    {first later : List Polled} (hfirst : pollAll inbox state before = some first)
    (hlater : pollAll inbox (lastState state first) after = some later) :
    pollAll inbox state (before ++ after) = some (first ++ later) := by
  induction before generalizing state first with
  | nil =>
    obtain rfl : [] = first := some.inj hfirst
    exact hlater
  | cons header before ih =>
    obtain ⟨polled, rest, hpolled, hrest, rfl⟩ := pollAll_cons hfirst
    simp only [cons_append, pollAll, hpolled, ih hrest hlater, bind_eq_bind, bind_some]

/-- Polls that come back to their state go on for ever. -/
theorem pollAll_cycle (hrun : pollAll inbox state headers = some run) (hback : lastState state run = state)
    (n : ℕ) : pollAll inbox state (replicate n headers).flatten = some (replicate n run).flatten := by
  induction n with
  | zero => rfl
  | succ n ih =>
    rw [replicate_succ, replicate_succ, flatten_cons, flatten_cons]
    exact pollAll_append hrun (by rwa [hback])

namespace Sample

/-- So many threads of a second. -/
def threadsAt (second : ℤ × ℕ) : List Thread :=
  (List.range second.2).map fun id =>
    ⟨toString second.1 ++ "-" ++ toString id, "subscribed", "o/r", second.1⟩

def inboxOf (seconds : List (ℤ × ℕ)) (h : seconds.Pairwise fun a b => b.1 ≤ a.1) : Inbox where
  threads := seconds.flatMap threadsAt
  newest_first := by
    refine List.pairwise_flatMap.mpr ⟨fun second _ => ?_, h.imp fun {a b} hle => ?_⟩
    · refine List.pairwise_iff_forall_sublist.mpr fun {a b} hsub => ?_
      have hsame : ∀ thread ∈ threadsAt second, thread.updated = second.1 := by
        simp [threadsAt]
      rw [hsame a (hsub.subset (by simp)), hsame b (hsub.subset (by simp))]
    · intro x hx y hy
      obtain ⟨_, -, rfl⟩ := List.mem_map.mp hx
      obtain ⟨_, -, rfl⟩ := List.mem_map.mp hy
      exact hle

theorem atSecond_le {seconds : List (ℤ × ℕ)} {h : seconds.Pairwise fun a b => b.1 ≤ a.1} {limit : ℕ}
    (hlimit : ∀ second ∈ seconds, ((inboxOf seconds h).atSecond second.1).length ≤ limit)
    (newer : ℤ) : ((inboxOf seconds h).atSecond newer).length ≤ limit := by
  cases hfound : (inboxOf seconds h).atSecond newer with
  | nil => exact Nat.zero_le _
  | cons thread _ =>
    have hmem : thread ∈ (inboxOf seconds h).atSecond newer := by
      rw [hfound]
      exact mem_cons_self
    obtain ⟨hthread, hnewer⟩ := mem_filter.mp hmem
    obtain ⟨second, hsecond, hthread⟩ := mem_flatMap.mp hthread
    obtain ⟨_, -, rfl⟩ := mem_map.mp hthread
    have hle := hlimit second hsecond
    obtain rfl : second.1 = newer := of_decide_eq_true hnewer
    rwa [hfound] at hle

/-- The state after polls of some inboxes, a poll each. -/
def after : List (Inbox × ℤ) → MonitorState → MonitorState
  | [], state => state
  | (inbox, date) :: polls, state =>
    after polls (((pollOnce state (inbox.answer date none)).map Polled.state).getD state)

theorem reachable_after (polls : List (Inbox × ℤ)) (h : Reachable state) : Reachable (after polls state) := by
  induction polls generalizing state with
  | nil => exact h
  | cons poll polls ih =>
    refine ih ?_
    cases hpoll : pollOnce state (poll.1.answer poll.2 none) with
    | none => exact h
    | some polled => exact h.poll poll.1 poll.2 none hpoll

/-- More threads at a second than a poll has pages for. -/
def oversized : Inbox := inboxOf [(1000, 451)] (by decide)

/-- A second of a hundred and fifty threads, with one thread between it and the pinned second. -/
def nested : Inbox := inboxOf [(1003, 60), (1002, 150), (1001, 1), (1000, 101)] (by decide)

def stalledCursor : CatchUp := ⟨some 1000, 1001, 1000, true, 2, none⟩

/-- The second 1000 is pinned, and two polls of the range above are behind. -/
def stalled : MonitorState := ⟨some 1000, none, some stalledCursor, none⟩

theorem reachable_stalled : Reachable stalled := by
  have hafter : after [(oversized, 1000), (oversized, 1060), (nested, 1120), (nested, 1120)] {} =
      stalled := by decide +kernel
  rw [← hafter]
  exact reachable_after _ .start

def quiet : Inbox := inboxOf [(1000, 1)] (by decide)

def burst : Inbox := inboxOf [(5000, 1), (3000, 450)] (by decide)

/-- Threads that show late, of seconds in between. -/
def late : Inbox := inboxOf [(5000, 1), (3004, 115), (3003, 115), (3002, 115), (3001, 115), (3000, 10)] (by decide)

def lateCursor : CatchUp := ⟨some 1000, 3001, 5000, true, 5, none⟩

def pinnedLate : MonitorState := ⟨some 1000, some 1000, some lateCursor, none⟩

theorem reachable_pinnedLate : Reachable pinnedLate := by
  have hafter : after [(quiet, 1000), (burst, 5000), (burst, 5060)] {} = pinnedLate := by decide +kernel
  rw [← hafter]
  exact reachable_after _ .start

/-- The state after so many polls, where none of them has a thread of a second. -/
def misses (inbox : Inbox) (second : ℤ) (polls : ℕ) (state : MonitorState) : Option MonitorState :=
  (pollAll inbox state (List.replicate polls (9000, none))).bind fun run =>
    if run.all (fun polled => polled.threads.all fun thread => decide (thread.updated ≠ second)) then
      some (lastState state run)
    else none

/-- The second stays pinned through so many polls. -/
def stays (inbox : Inbox) (polls : ℕ) (state : MonitorState) : Bool :=
  (pollAll inbox state (List.replicate polls (9000, none))).all fun run =>
    run.all fun polled => pinned polled.state

variable {inbox : Inbox} {second : ℤ}

theorem exists_run_of_misses {polls : ℕ} {state final : MonitorState}
    (h : misses inbox second polls state = some final) :
    ∃ run, pollAll inbox state (replicate polls (9000, none)) = some run ∧
      lastState state run = final ∧ (stays inbox polls state = true → StaysPinned run) ∧
        ∀ thread, thread.updated = second → ¬ Received run thread := by
  obtain ⟨run, hrun, hmisses⟩ := bind_eq_some_iff.mp h
  obtain ⟨hall, hfinal⟩ := ite_none_right_eq_some.mp hmisses
  refine ⟨run, hrun, some.inj hfinal, fun hstays polled hpolled => ?_, ?_⟩
  · rw [stays, hrun] at hstays
    exact all_eq_true.mp hstays polled hpolled
  · rintro thread hsecond ⟨polled, hpolled, hthread⟩
    have hthreads := all_eq_true.mp hall polled hpolled
    exact of_decide_eq_true (all_eq_true.mp hthreads thread hthread) hsecond

/-- Polls that miss a second until they repeat miss it for ever. -/
theorem misses_forever {start cycle : ℕ} {state settled : MonitorState}
    (hstart : misses inbox second start state = some settled)
    (hcycle : misses inbox second (cycle + 1) settled = some settled) (polls : ℕ) :
    ∃ headers run, polls ≤ headers.length ∧ pollAll inbox state headers = some run ∧
      (stays inbox start state = true → stays inbox (cycle + 1) settled = true → StaysPinned run) ∧
      ∀ thread, thread.updated = second → ¬ Received run thread := by
  obtain ⟨first, hfirst, hlast, hstays, hmissed⟩ := exists_run_of_misses hstart
  obtain ⟨run, hrun, hback, hstays', hmissed'⟩ := exists_run_of_misses hcycle
  have hforever := pollAll_cycle hrun hback polls
  rw [← hlast] at hforever
  -- every poll of the run is one of the start or one of the cycle
  have hcases : ∀ polled ∈ first ++ (replicate polls run).flatten, polled ∈ first ∨ polled ∈ run := by
    intro polled hpolled
    refine (mem_append.mp hpolled).imp id fun hpolled => ?_
    obtain ⟨same, hsame, hpolled⟩ := mem_flatten.mp hpolled
    rwa [eq_of_mem_replicate hsame] at hpolled
  refine ⟨_, _, ?_, pollAll_append hfirst hforever, fun h h' polled hpolled => ?_, ?_⟩
  · have hle : polls ≤ polls * (cycle + 1) := Nat.le_mul_of_pos_right _ (Nat.succ_pos _)
    simp only [length_append, length_flatten, map_replicate, length_replicate, sum_replicate_nat]
    omega
  · rcases hcases polled hpolled with hpolled | hpolled
    · exact hstays h polled hpolled
    · exact hstays' h' polled hpolled
  · rintro thread hsecond ⟨polled, hpolled, hthread⟩
    rcases hcases polled hpolled with hpolled | hpolled
    · exact hmissed thread hsecond ⟨polled, hpolled, hthread⟩
    · exact hmissed' thread hsecond ⟨polled, hpolled, hthread⟩

/-- A second of a hundred and fifty threads stalls the range above a second that stays pinned; and
where the pinned second fits before the range above has ended, late threads of that range are lost,
of however small seconds. -/
theorem nested_second_stalls :
    (Reachable stalled ∧ HasPinned stalled stalledCursor ∧ (∀ newer, (nested.atSecond newer).length ≤ 150) ∧
      ∃ thread ∈ nested.threads, stalledCursor.before - 1 < thread.updated ∧
        ∀ polls, ∃ headers run, polls ≤ headers.length ∧
          pollAll nested stalled headers = some run ∧ StaysPinned run ∧ ¬ Received run thread) ∧
    (Reachable pinnedLate ∧ HasPinned pinnedLate lateCursor ∧ (∀ newer, (late.atSecond newer).length < 150) ∧
      ∃ thread ∈ late.threads, lateCursor.before - 1 < thread.updated ∧
        ∀ polls, ∃ headers run, polls ≤ headers.length ∧
          pollAll late pinnedLate headers = some run ∧ ¬ Received run thread) := by
  have hcycle : misses nested 1001 6 stalled = some stalled := by decide +kernel
  have hpinned : stays nested 6 stalled = true := by decide +kernel
  have hsettles : misses late 3001 3 pinnedLate = some ⟨some 1000, some 5000, none, none⟩ := by
    decide +kernel
  have hsettled : misses late 3001 1 ⟨some 1000, some 5000, none, none⟩ =
      some ⟨some 1000, some 5000, none, none⟩ := by decide +kernel
  constructor
  · refine ⟨reachable_stalled, ⟨rfl, rfl⟩, atSecond_le (by decide +kernel),
      ⟨"1001-0", "subscribed", "o/r", 1001⟩, by decide +kernel, by decide, fun polls => ?_⟩
    have hnow : misses nested 1001 0 stalled = some stalled := rfl
    obtain ⟨headers, run, hlong, hrun, hstays, hmissed⟩ := misses_forever hnow hcycle polls
    exact ⟨headers, run, hlong, hrun, hstays rfl hpinned, hmissed _ rfl⟩
  · refine ⟨reachable_pinnedLate, ⟨rfl, rfl⟩, fun newer => ?_,
      ⟨"3001-0", "subscribed", "o/r", 3001⟩, by decide +kernel, by decide, fun polls => ?_⟩
    · have hle : (late.atSecond newer).length ≤ 115 := atSecond_le (by decide +kernel) newer
      omega
    · obtain ⟨headers, run, hlong, hrun, -, hmissed⟩ := misses_forever hsettles hsettled polls
      exact ⟨headers, run, hlong, hrun, hmissed _ rfl⟩

/-- Seconds of fewer threads, too many together for one poll. -/
def crowded : Inbox := inboxOf [(1003, 140), (1002, 140), (1001, 140), (1000, 101)] (by decide)

/-- Four hundred and twenty threads above a pinned second are received. -/
theorem crowded_is_drained :
    ∃ polls, ∀ headers run, polls ≤ headers.length → pollAll crowded stalled headers = some run →
      StaysPinned run → ∀ thread ∈ crowded.threads, 1000 < thread.updated → Received run thread := by
  have hpinned : HasPinned stalled stalledCursor := ⟨rfl, rfl⟩
  have hfew : ∀ newer, 1000 < newer → (crowded.atSecond newer).length < 150 := by
    intro newer _
    have hle : (crowded.atSecond newer).length ≤ 140 := atSecond_le (by decide +kernel) newer
    omega
  exact (newer_range_drains hpinned rfl hfew).2

end Sample

end Clawhip.Notifications
