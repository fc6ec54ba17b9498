import Clawhip.Tmux.Polling

/-!
# The cadence of stale alerts

Both monitors of `src/source/tmux.rs` visit a pane with `visitPane`, as long as they keep its state. When
these visits alert that the pane is stale depends on two times in that state (`keeps_cadence`); the
configured time must not wrap around (`minutes_wrap_around`).
-/

namespace Clawhip.Tmux

open List Option Machine

/-- A visit of a pane: the time, and what it shows. -/
structure PaneLook where
  now : ℕ
  pane : TmuxPaneSnapshot

/-- `poll_tmux` or `monitor_registered_session` for a registration; they differ in the session that is
written down for a pane that changed. -/
structure PaneMonitor where
  scanner : Scanner
  registration : RegisteredTmuxSession
  session : TmuxPaneSnapshot → TmuxPaneState → String

namespace PaneMonitor

section

variable (monitor : PaneMonitor) (before : List (Option PaneLook)) (look : PaneLook)

def visit (state : Option TmuxPaneState) : PaneVisit :=
  visitPane monitor.scanner monitor.registration look.now look.pane (monitor.session look.pane) state

/-- The visits of a pane; its state is dropped in between if the pane or its session is gone. -/
def machine : Machine (Option TmuxPaneState) (Option PaneLook) (List IncomingEvent) where
  step
    | _, none => (none, [])
    | state, some look => (some (monitor.visit look state).state, (monitor.visit look state).events)

/-- The state of a pane after visits. -/
def state : Option TmuxPaneState := monitor.machine.run none before

/-- A visit behind others alerts. -/
def Alerts : Prop := (monitor.machine.step (monitor.state before) (some look)).2 ≠ []

/-- The configured time, in nanoseconds. -/
def staleTime : ℕ := monitor.registration.stale_minutes * 60 * 10 ^ 9

/-- A pane shows the same at a visit and since another one. -/
def Unchanged (front : List (Option PaneLook)) (first : PaneLook) (rest : List PaneLook) : Prop :=
  before = front ++ some first :: rest.map some ∧ ∀ other ∈ first :: rest, other.pane.content = look.pane.content

/-- Alerts come only for a live pane that is unchanged for the configured time, as far apart, and
whenever they are due. -/
structure Cadence : Prop where
  only : monitor.Alerts before look → 0 < monitor.registration.stale_minutes ∧
    look.pane.pane_dead = false ∧ ∃ front first rest, Unchanged before look front first rest ∧
      monitor.staleTime ≤ look.now - first.now
  apart : ∀ front first rest, Unchanged before look front first rest →
    monitor.Alerts front first → monitor.Alerts before look → monitor.staleTime ≤ look.now - first.now
  due : ∀ front first rest, Unchanged before look front first rest →
    0 < monitor.registration.stale_minutes → look.pane.pane_dead = false →
    monitor.staleTime ≤ look.now - first.now → (∀ start other later, rest = start ++ other :: later →
      ¬ monitor.Alerts (front ++ some first :: start.map some) other) → monitor.Alerts before look

/-- A visit behind others at no later time, whose content has a hash of its own among theirs. -/
structure Steady : Prop where
  times : (before ++ [some look]).Pairwise fun a b => ∀ earlier ∈ a, ∀ later ∈ b, earlier.now ≤ later.now
  hashes : ∀ other, some other ∈ before →
    monitor.scanner.contentHash other.pane.content = monitor.scanner.contentHash look.pane.content →
      other.pane.content = look.pane.content

/-- A visit of a pane with some state is due to alert, if the pane shows the same as before. -/
def Due (known : TmuxPaneState) : Prop :=
  0 < monitor.registration.stale_minutes ∧ look.pane.pane_dead = false ∧
    monitor.staleTime ≤ look.now - known.last_change ∧
    ∀ previous ∈ known.last_stale_notification, monitor.staleTime ≤ look.now - previous

/-- What a visit makes of a pane that changed, or shows the same. -/
inductive Visited (state : Option TmuxPaneState) (visit : PaneVisit) : Prop
  | changed (h : ∀ known ∈ state, known.content_hash ≠ monitor.scanner.contentHash look.pane.content)
    (hevents : visit.events = []) (hchange : visit.state.last_change = look.now)
    (hstale : visit.state.last_stale_notification = none)
  | same (known : TmuxPaneState) (hstate : state = some known)
    (h : known.content_hash = monitor.scanner.contentHash look.pane.content)
    (hchange : visit.state.last_change = known.last_change)
    (halert : visit.events = [] ∧ ¬ monitor.Due look known ∧
        visit.state.last_stale_notification = known.last_stale_notification ∨
      visit.events ≠ [] ∧ monitor.Due look known ∧ visit.state.last_stale_notification = some look.now)

/-- What is known of a pane that shows the same since a visit. -/
structure Since (front : List (Option PaneLook)) (first : PaneLook) (rest : List PaneLook)
    (known : TmuxPaneState) : Prop where
  state : monitor.state (front ++ some first :: rest.map some) = some known
  hash : known.content_hash = monitor.scanner.contentHash first.pane.content
  change : known.last_change ≤ first.now
  stale : (∀ previous ∈ known.last_stale_notification, previous ≤ first.now) ∧
      (monitor.Alerts front first → known.last_stale_notification = some first.now) ∨
    ∃ start other later, rest = start ++ other :: later ∧
      monitor.Alerts (front ++ some first :: start.map some) other ∧
      known.last_stale_notification = some other.now

end

/-! ## Visits -/

variable {monitor : PaneMonitor} {look : PaneLook} {state : Option TmuxPaneState} {known : TmuxPaneState}
  (scanner : Scanner) (registration : RegisteredTmuxSession)

/-- One pane of `poll_tmux` is a step. -/
theorem step_pollPane (name : String) (progress : TmuxProgress) (look : PaneLook) :
    (pollPane scanner name registration progress (look.pane, look.now)).state.panes.get (paneKey look.pane) =
      ((machine ⟨scanner, registration, fun _ => (·.session)⟩).step
        (progress.state.panes.get (paneKey look.pane)) (some look)).1 :=
  OrdMap.get_insert_self _ _ _

/-- One pane of `monitor_registered_session` is a step. -/
theorem step_monitorPane (progress : SessionProgress) (look : PaneLook) :
    (monitorPane scanner registration look.now progress look.pane).state.panes.get look.pane.pane_id =
      ((machine ⟨scanner, registration, fun pane _ => pane.session⟩).step
        (progress.state.panes.get look.pane.pane_id) (some look)).1 :=
  OrdMap.get_insert_self _ _ _

theorem isDue_iff {now after : ℕ} : known.isDue now after = true ↔ after ≤ now - known.last_change ∧
    ∀ previous ∈ known.last_stale_notification, after ≤ now - previous := by
  unfold TmuxPaneState.isDue
  cases known.last_stale_notification
  all_goals simp

theorem hash_visit : (monitor.visit look state).state.content_hash = monitor.scanner.contentHash look.pane.content := by
  unfold visit
  cases state with
  | none => rfl
  | some known =>
    unfold visitPane
    dsimp only
    split_ifs with hsame
    · rfl
    · exact not_not.mp hsame
    · exact not_not.mp hsame

section

variable (hwrap : monitor.registration.stale_minutes * 60 < 2 ^ 64)

include hwrap

theorem shouldEmitStale_iff : shouldEmitStale { known with pane_dead := look.pane.pane_dead } look.now
    monitor.registration.stale_minutes = true ↔ monitor.Due look known := by
  have htime : staleAfter monitor.registration.stale_minutes = monitor.staleTime := by
    rw [staleAfter, Nat.mod_eq_of_lt hwrap, staleTime]
  unfold shouldEmitStale
  rw [htime]
  split_ifs with hnever
  · refine iff_of_false not_false ?_
    rintro ⟨hpos, hdead, -⟩
    rcases hnever with hzero | hdead'
    · omega
    · exact absurd hdead' (by simp [hdead])
  · rw [not_or, Bool.not_eq_true] at hnever
    exact ⟨fun h => ⟨Nat.pos_of_ne_zero hnever.1, hnever.2, isDue_iff.mp h⟩, fun h => isDue_iff.mpr h.2.2⟩

theorem visited_visit (look : PaneLook) (state : Option TmuxPaneState) :
    monitor.Visited look state (monitor.visit look state) := by
  unfold visit
  cases state with
  | none => exact .changed nofun rfl rfl rfl
  | some known =>
    unfold visitPane
    dsimp only
    split_ifs with hsame hdue
    · exact .changed (fun _ h => some.inj h ▸ hsame) rfl rfl rfl
    · exact .same known rfl (not_not.mp hsame) rfl (.inr ⟨cons_ne_nil _ _, (shouldEmitStale_iff hwrap).mp hdue, rfl⟩)
    · exact .same known rfl (not_not.mp hsame) rfl (.inl ⟨rfl, fun h => hdue ((shouldEmitStale_iff hwrap).mpr h), rfl⟩)

/-! ## Runs -/

variable {before front : List (Option PaneLook)} {first : PaneLook} {rest : List PaneLook}

/-- The state of a pane is of the visits since one at which it changed. -/
theorem exists_change (hrun : monitor.state before = some known) :
    ∃ front first rest, before = front ++ some first :: rest.map some ∧
      (∀ other ∈ first :: rest, monitor.scanner.contentHash other.pane.content = known.content_hash) ∧
      known.last_change = first.now ∧
      ∀ previous ∈ known.last_stale_notification, ∃ other ∈ rest, other.now = previous := by
  -- The last visit drops the state, is the change itself, or keeps its time.
  induction before using reverseRecOn generalizing known with
  | nil => cases hrun
  | append_singleton before last ih =>
    unfold state at hrun
    rw [run_concat] at hrun
    cases last with
    | none => cases hrun
    | some last =>
      obtain rfl := some.inj hrun
      rcases visited_visit hwrap last (monitor.state before) with
        ⟨-, -, hchange, hstale⟩ | ⟨known, hknown, hsame, hchange, halert⟩
      · exact ⟨before, last, [], rfl, forall_mem_singleton.mpr hash_visit.symm, hchange, hstale ▸ nofun⟩
      · obtain ⟨front, first, rest, hbefore, hall, hfirst, hstale⟩ := ih hknown
        refine ⟨front, first, rest ++ [last], by simp [hbefore], ?_, hchange.trans hfirst, ?_⟩
        · rw [← cons_append, forall_mem_append]
          exact ⟨fun other hother => (hall other hother).trans (hsame.trans hash_visit.symm),
            forall_mem_singleton.mpr hash_visit.symm⟩
        · intro previous hprevious
          rcases halert with ⟨-, -, hkept⟩ | ⟨-, -, hset⟩
          · obtain ⟨other, hother, hnow⟩ := hstale previous (hkept ▸ hprevious)
            exact ⟨other, mem_append_left _ hother, hnow⟩
          · exact ⟨last, mem_append_right _ (mem_singleton_self _), some.inj (hset ▸ hprevious)⟩

theorem alerts_iff : monitor.Alerts before look ↔ ∃ known, monitor.state before = some known ∧
    known.content_hash = monitor.scanner.contentHash look.pane.content ∧ monitor.Due look known := by
  rcases visited_visit hwrap look (monitor.state before) with
    ⟨h, hevents, -, -⟩ | ⟨known, hknown, hsame, -, ⟨hevents, hdue, -⟩ | ⟨hevents, hdue, -⟩⟩
  · exact iff_of_false (not_not_intro hevents) fun ⟨known, hknown, hsame, _⟩ => h known hknown hsame
  · refine iff_of_false (not_not_intro hevents) fun ⟨other, hother, _, hagain⟩ => hdue ?_
    exact some.inj (hknown.symm.trans hother) ▸ hagain
  · exact iff_of_true hevents ⟨known, hknown, hsame, hdue⟩

/-- The visits of a pane that shows the same since one of them. -/
theorem exists_since (hsame : ∀ other ∈ rest,
      monitor.scanner.contentHash other.pane.content = monitor.scanner.contentHash first.pane.content)
    (htimes : ∀ other, some other ∈ front → other.now ≤ first.now) : ∃ known, monitor.Since front first rest known := by
  induction rest using reverseRecOn with
  | nil =>
    have hrun := run_concat monitor.machine none front (some first)
    rcases visited_visit hwrap first (monitor.state front) with
      ⟨-, hevents, hchange, hstale⟩ | ⟨known, hknown, -, hchange, halert⟩
    · exact ⟨_, hrun, hash_visit, hchange.le, .inl ⟨hstale ▸ nofun, fun h => absurd hevents h⟩⟩
    -- The pane showed the same even before, so both times are of visits no later than this one.
    · obtain ⟨_, changed, rest, rfl, -, hfirst, hprevious⟩ := exists_change hwrap hknown
      refine ⟨_, hrun, hash_visit, ?_, .inl ?_⟩
      · exact (hchange.trans hfirst).le.trans (htimes changed (by simp))
      · rcases halert with ⟨hevents, -, hkept⟩ | ⟨-, -, hset⟩
        · refine ⟨fun previous h => ?_, fun h => absurd hevents h⟩
          obtain ⟨other, hother, rfl⟩ := hprevious previous (hkept ▸ h)
          exact htimes other (by simp [hother])
        · exact ⟨fun previous h => (some.inj (hset ▸ h)).ge, fun _ => hset⟩
  | append_singleton rest last ih =>
    obtain ⟨known, hknown, hhash, hchange, hstale⟩ := ih fun other h => hsame other (mem_append_left _ h)
    have hlast := hsame last (mem_append_right _ (mem_singleton_self _))
    have hlist : front ++ some first :: (rest ++ [last]).map some =
        (front ++ some first :: rest.map some) ++ [some last] := by simp
    have hrun := hlist ▸ run_concat monitor.machine none (front ++ some first :: rest.map some) (some last)
    rcases visited_visit hwrap last (monitor.state (front ++ some first :: rest.map some))
      with ⟨h, -, -, -⟩ | ⟨other, hother, -, hkeeps, halert⟩
    · exact absurd (hhash.trans hlast.symm) (h known hknown)
    · obtain rfl := some.inj (hknown.symm.trans hother)
      refine ⟨_, hrun, hash_visit.trans hlast, hkeeps.le.trans hchange, ?_⟩
      rcases halert with ⟨-, -, hkept⟩ | ⟨hevents, -, hset⟩
      · refine hstale.imp (fun h => hkept ▸ h) fun ⟨start, other, later, hrest, h⟩ => ?_
        exact ⟨start, other, later ++ [last], by rw [hrest]; simp, hkept ▸ h⟩
      · exact .inr ⟨rest, last, [], rfl, hevents, hset⟩

end

/-- As long as the configured time does not wrap around, the alerts of a pane keep the cadence. -/
theorem keeps_cadence {before : List (Option PaneLook)}
    (hwrap : monitor.registration.stale_minutes * 60 < 2 ^ 64) (hsteady : monitor.Steady before look) :
    monitor.Cadence before look := by
  have hsince {front : List (Option PaneLook)} {first : PaneLook} {rest : List PaneLook}
      (h : Unchanged before look front first rest) :
      (∀ other ∈ rest, first.now ≤ other.now) ∧ ∃ known, monitor.Since front first rest known := by
    obtain ⟨rfl, hsame⟩ := h
    have htimes := hsteady.times
    rw [append_assoc, pairwise_append, cons_append, pairwise_cons] at htimes
    obtain ⟨-, ⟨hlater, -⟩, hearlier⟩ := htimes
    refine ⟨fun other h => hlater (some other) (by simp [h]) first rfl other rfl, exists_since hwrap ?_ ?_⟩
    · intro other h
      rw [hsame other (mem_cons_of_mem _ h), hsame first mem_cons_self]
    · exact fun other h => hearlier (some other) h _ mem_cons_self other rfl first rfl
  constructor
  · intro halert
    obtain ⟨known, hknown, hhash, hpos, halive, hchange, -⟩ := (alerts_iff hwrap).mp halert
    obtain ⟨front, first, rest, rfl, hall, hfirst, -⟩ := exists_change hwrap hknown
    refine ⟨hpos, halive, front, first, rest, ⟨rfl, fun other hother => ?_⟩, hfirst ▸ hchange⟩
    refine hsteady.hashes other ?_ ((hall other hother).trans hhash)
    exact mem_append_right _ (List.mem_map_of_mem hother)
  · intro front first rest hsame hfirst halert
    obtain ⟨hlater, known, hknown⟩ := hsince hsame
    obtain ⟨other, hother, -, -, -, -, hdue⟩ := (alerts_iff hwrap).mp halert
    obtain rfl := some.inj (hknown.state.symm.trans (hsame.1 ▸ hother))
    rcases hknown.stale with ⟨-, hset⟩ | ⟨start, other, later, rfl, -, hset⟩
    · exact hdue _ (hset hfirst)
    · have hle := hlater other (by simp)
      exact (hdue _ hset).trans (Nat.sub_le_sub_left hle _)
  -- Nothing alerted since, so the last alert is no later than the visit that counts.
  · intro front first rest hsame hpos halive htime hquiet
    obtain ⟨-, known, hknown⟩ := hsince hsame
    refine (alerts_iff hwrap).mpr ⟨known, hsame.1 ▸ hknown.state,
      hknown.hash.trans (congrArg _ (hsame.2 first mem_cons_self)), hpos, halive, ?_, ?_⟩
    · exact htime.trans (Nat.sub_le_sub_left hknown.change _)
    · intro previous hprevious
      rcases hknown.stale with ⟨hle, -⟩ | ⟨start, other, later, hrest, halert, -⟩
      · exact htime.trans (Nat.sub_le_sub_left (hle previous hprevious) _)
      · exact absurd halert (hquiet start other later hrest)

end PaneMonitor

namespace Sample

/-- A monitor with a configured time. -/
def patient (minutes : ℕ) : PaneMonitor :=
  ⟨⟨fun _ => 0, fun _ _ _ _ => []⟩, { session := "work", stale_minutes := minutes, registered_at := "" },
    fun _ => (·.session)⟩

/-- A pane that shows nothing. -/
def blank (now : ℕ) : PaneLook := ⟨now, ⟨"%1", "work", "pane", "", false⟩⟩

theorem steady_blank (minutes now : ℕ) : (patient minutes).Steady [some (blank 0)] (blank now) where
  times := by simp [blank]
  hashes := fun other h _ => by
    obtain rfl := some.inj (mem_singleton.mp h)
    rfl

/-- After a minute, a pane that shows nothing is stale. -/
theorem minute_keeps_cadence : (patient 1).Cadence [some (blank 0)] (blank (60 * 10 ^ 9)) :=
  PaneMonitor.keeps_cadence (by decide) (steady_blank 1 _)

/-- A time that wraps around to nothing. -/
theorem minutes_wrap_around : ¬ ∀ (monitor : PaneMonitor) (before : List (Option PaneLook)) (look : PaneLook),
    monitor.Steady before look → monitor.Cadence before look := by
  intro h
  have halerts : (patient (2 ^ 62)).Alerts [some (blank 0)] (blank 1) := by
    simp [PaneMonitor.Alerts, PaneMonitor.state, PaneMonitor.machine, PaneMonitor.visit, visitPane, patient,
      blank, shouldEmitStale, PaneMonitor.isDue_iff, staleAfter, TmuxPaneSnapshot.first]
  obtain ⟨-, -, front, first, rest, -, htime⟩ := (h (patient (2 ^ 62)) _ _ (steady_blank _ 1)).only halerts
  rw [show (patient (2 ^ 62)).staleTime = 2 ^ 62 * 60 * 10 ^ 9 from rfl] at htime
  have hnow : (blank 1).now = 1 := rfl
  omega

end Sample

end Clawhip.Tmux
