import Clawhip.Tmux.Delivery

/-!
# Failing polls

A session that does not answer in a poll is not visited, but the poll ends by keeping only the panes that it
visited: `invisible_of_unnoticed`. The baselines of a failing session are lost, and so is the output that
comes before the next ones.
-/

namespace Clawhip.Tmux

open List

/-- A session whose probe, or whose snapshot, fails. -/
def SessionProbe.failing (probe : SessionProbe) : Bool :=
  match probe.present, probe.panes with
  | .error _, _ => true
  | .ok false, _ => false
  | .ok true, .ok _ => false
  | .ok true, .error _ => !probe.registration.active_wrapper_monitor

/-- The sessions that fail in a poll. -/
def TmuxPoll.failing (poll : TmuxPoll) : List String := (poll.sessions.filter fun entry => entry.2.failing).map Prod.fst

section Polls

variable (scanner : Scanner)

/-- A poll that does not visit the sessions that fail, and leaves what it knows of them as it is. -/
def pollAround (state : TmuxMonitorState) (poll : TmuxPoll) : TmuxMonitorState × TmuxTrace :=
  let progress := (poll.sessions.filter fun entry => !entry.2.failing).foldl
    (pollSession scanner poll.definitive_no_server) { state }
  ({ panes := progress.state.panes.filter fun entry =>
       progress.active_panes.contains entry.1 || poll.failing.contains entry.2.session
     pending_keyword_hits := progress.state.pending_keyword_hits.filter fun entry =>
       (poll.sessions.map Prod.fst).contains entry.1 }, progress.trace)

/-- The polls that do not visit the sessions that fail, as a machine. -/
def aroundMachine : Machine TmuxMonitorState TmuxPoll TmuxTrace where
  step := pollAround scanner

/-- Nothing is known of the sessions that fail that the poll would drop or flush: no baselines, and, where
the snapshot fails, no window that is due. -/
structure Unnoticed (state : TmuxMonitorState) (poll : TmuxPoll) : Prop where
  baselines : ∀ entry ∈ state.panes, entry.2.session ∉ poll.failing
  windows : ∀ entry ∈ poll.sessions, entry.2.failing = true → entry.2.present = .ok true →
    ∀ pending, state.pending_keyword_hits.get entry.1 = some pending →
      pending.readyToFlush entry.2.now entry.2.registration.keywordWindow = false

variable {scanner}

/-! ## What fails -/

variable {registration : RegisteredTmuxSession} {progress : TmuxProgress} {session : String} {now : ℕ}

theorem flushPendingKeywordHits_of_not_due {pending : Option PendingKeywordHits}
    (h : ∀ p, pending = some p → p.readyToFlush now registration.keywordWindow = false) :
    flushPendingKeywordHits pending registration session now = (pending, []) := by
  unfold flushPendingKeywordHits
  cases pending with
  | none => rfl
  | some pending => simp only [h pending rfl, Bool.false_eq_true, if_false]

theorem flush_of_not_due (h : ∀ pending, progress.state.pending_keyword_hits.get session = some pending →
      pending.readyToFlush now registration.keywordWindow = false) :
    progress.flush session registration now = progress := by
  have hflush : flushSessionPendingKeywordHits progress.state.pending_keyword_hits session registration
      now = (progress.state.pending_keyword_hits, []) := by
    unfold flushSessionPendingKeywordHits
    rw [flushPendingKeywordHits_of_not_due h]
    simp only
    split
    · rename_i hnone
      rw [OrdMap.erase_get_none (Option.isNone_iff_eq_none.mp hnone)]
    · rfl
  unfold TmuxProgress.flush
  rw [hflush]
  simp only [map_nil, append_nil]

/-- A session that fails changes nothing while its window is not due. -/
theorem pollSession_of_failing {definitive_no_server : Bool} {entry : String × SessionProbe}
    (hfailing : entry.2.failing = true) (h : entry.2.present = .ok true → ∀ pending,
      progress.state.pending_keyword_hits.get entry.1 = some pending →
        pending.readyToFlush entry.2.now entry.2.registration.keywordWindow = false) :
    pollSession scanner definitive_no_server progress entry = progress := by
  unfold pollSession
  unfold SessionProbe.failing at hfailing
  cases hpresent : entry.2.present with
  | error message => rfl
  | ok present =>
    rw [hpresent] at hfailing
    cases present with
    | false => cases hfailing
    | true =>
      unfold pollPresent
      cases hpanes : entry.2.panes with
      | ok panes =>
        rw [hpanes] at hfailing
        cases hfailing
      | error message =>
        rw [hpanes] at hfailing
        have hwrapper : ¬ entry.2.registration.active_wrapper_monitor = true := by simpa using hfailing
        rw [if_neg hwrapper]
        exact flush_of_not_due (h hpresent)

/-- The sessions that fail can be left out of a poll. -/
theorem foldl_pollSession_filter (definitive_no_server : Bool) {entries : OrdMap String SessionProbe}
    (hdistinct : entries.keys.Nodup)
    (h : ∀ entry ∈ entries, entry.2.failing = true → entry.2.present = .ok true → ∀ pending,
      progress.state.pending_keyword_hits.get entry.1 = some pending →
        pending.readyToFlush entry.2.now entry.2.registration.keywordWindow = false) :
    entries.foldl (pollSession scanner definitive_no_server) progress =
      (entries.filter fun entry => !entry.2.failing).foldl (pollSession scanner definitive_no_server) progress := by
  induction entries generalizing progress with
  | nil => rfl
  | cons entry entries ih =>
    obtain ⟨hentry, hdistinct⟩ := nodup_cons.mp hdistinct
    have hrest := fun next hnext => h next (mem_cons_of_mem _ hnext)
    rw [foldl_cons, filter_cons]
    cases hfailing : entry.2.failing with
    | true =>
      rw [pollSession_of_failing hfailing (h entry mem_cons_self hfailing)]
      exact ih hdistinct hrest
    | false =>
      refine ih hdistinct fun next hnext hnextfailing hpresent pending hpending => ?_
      -- The session that is visited leaves the windows of the others as they are.
      have hne : entry.1 ≠ next.1 := fun heq => hentry (heq ▸ mem_map_of_mem hnext)
      have hview : (([entry]).foldl (pollSession scanner definitive_no_server) progress).view next.1 =
          progress.view next.1 :=
        foldl_pollSession_view_ne scanner definitive_no_server (by simpa using Ne.symm hne) progress
      have hsame : (pollSession scanner definitive_no_server progress entry).state.pending_keyword_hits.get next.1 =
            progress.state.pending_keyword_hits.get next.1 := congrArg SessionView.pending hview
      exact hrest next hnext hnextfailing hpresent pending (hsame ▸ hpending)

/-! ## What is kept -/

/-- Every pane that is kept of some sessions is one that has been visited. -/
def Visited (names : List String) (progress : TmuxProgress) : Prop :=
  ∀ entry ∈ progress.state.panes, entry.1 ∈ progress.active_panes ∨ entry.2.session ∉ names

variable {names : List String}

section

variable (h : Visited names progress)
include h

variable (session : String) (registration : RegisteredTmuxSession)

theorem visited_pollPane (entry : TmuxPaneSnapshot × ℕ) :
    Visited names (pollPane scanner session registration progress entry) := by
  intro pane hpane
  rcases OrdMap.mem_insert hpane with rfl | hpane
  · exact .inl mem_cons_self
  · exact (h pane hpane).imp_left (mem_cons_of_mem _)

theorem visited_foldl_pollPane (panes : List (TmuxPaneSnapshot × ℕ)) :
    Visited names (panes.foldl (pollPane scanner session registration) progress) := by
  induction panes generalizing progress with
  | nil => exact h
  | cons entry panes ih => exact ih (visited_pollPane h session registration entry)

theorem visited_pollSession (definitive_no_server : Bool) (entry : String × SessionProbe) :
    Visited names (pollSession scanner definitive_no_server progress entry) := by
  unfold pollSession
  split
  · have hforget : Visited names { progress with state := progress.state.forget entry.1 } :=
      fun pane hpane => h pane (mem_of_mem_filter hpane)
    unfold TmuxProgress.absent
    split
    · exact hforget
    · split <;> exact hforget
  · exact h
  · unfold pollPresent
    split
    · exact h
    · have hflush : Visited names (progress.flush entry.1 entry.2.registration entry.2.now) := h
      split
      · exact visited_foldl_pollPane hflush _ _ _
      · exact hflush

theorem visited_foldl_pollSession (definitive_no_server : Bool) (entries : List (String × SessionProbe)) :
    Visited names (entries.foldl (pollSession scanner definitive_no_server) progress) := by
  induction entries generalizing progress with
  | nil => exact h
  | cons entry entries ih => exact ih (visited_pollSession h definitive_no_server entry)

end

theorem pollTmux_eq_pollAround {state : TmuxMonitorState} {poll : TmuxPoll}
    (h : Unnoticed state poll) : pollTmux scanner state poll = pollAround scanner state poll := by
  have hfold : poll.sessions.foldl (pollSession scanner poll.definitive_no_server) { state } =
      (poll.sessions.filter fun entry => !entry.2.failing).foldl
        (pollSession scanner poll.definitive_no_server) { state } :=
    foldl_pollSession_filter poll.definitive_no_server poll.distinct h.windows
  have hvisited : Visited poll.failing
      (poll.sessions.foldl (pollSession scanner poll.definitive_no_server) { state }) :=
    visited_foldl_pollSession (fun entry hentry => .inr (h.baselines entry hentry)) _ _
  have hpanes : ∀ progress : TmuxProgress, Visited poll.failing progress →
      progress.state.panes.filter (fun entry => progress.active_panes.contains entry.1) =
        progress.state.panes.filter fun entry =>
          progress.active_panes.contains entry.1 || poll.failing.contains entry.2.session := by
    intro progress hkept
    refine filter_congr fun entry hentry => ?_
    rcases hkept entry hentry with hactive | hsession
    · simp [hactive]
    · simp [hsession]
  unfold pollTmux pollAround
  rw [hfold] at hvisited ⊢
  simp only
  rw [hpanes _ hvisited]

variable (scanner) in
/-- Where nothing that it would drop is known of the sessions that fail, a failure is invisible: the events
are those of the polls that do not visit these sessions. -/
theorem invisible_of_unnoticed (polls : List TmuxPoll) (h : (pollMachine scanner).Along Unnoticed {} polls) :
    ((pollMachine scanner).outputs {} polls).map TmuxTrace.events =
      ((aroundMachine scanner).outputs {} polls).map TmuxTrace.events := by
  suffices hruns : ∀ state : TmuxMonitorState, (pollMachine scanner).Along Unnoticed state polls →
      (pollMachine scanner).outputs state polls = (aroundMachine scanner).outputs state polls by
    rw [hruns {} h]
  clear h
  induction polls with
  | nil => intro _ _; rfl
  | cons poll polls ih =>
    intro state h
    have hstep : (pollMachine scanner).step state poll = (aroundMachine scanner).step state poll :=
      pollTmux_eq_pollAround h.1
    rw [Machine.outputs_cons, Machine.outputs_cons, ← hstep, ih _ h.2]

end Polls

namespace Sample

/-- A poll in which the probe of the session fails. -/
def failingPoll (secs : ℕ) : TmuxPoll where
  sessions := [("work",
    { registration := watched
      now := secs * 10 ^ 9
      present := .error "tmux has-session failed without diagnostics"
      panes := .ok [] })]
  distinct := by simp [OrdMap.keys]

/-- One probe fails between two contents. -/
def failsBetween : List TmuxPoll :=
  [pollWith 0 [livePane "ready"], failingPoll 1, pollWith 2 [livePane "ready\nerror: failed"],
    pollWith 40 [livePane "ready\nerror: failed"]]

/-- A probe fails before anything has been seen. -/
def failsFirst : List TmuxPoll :=
  [failingPoll 0, pollWith 1 [livePane "ready"], pollWith 2 [livePane "ready\nerror: failed"],
    pollWith 40 [livePane "ready\nerror: failed"]]

/-- One failed probe loses what is written around it. -/
theorem failed_probe_loses_hit : ((pollMachine scanner).outputs {} failsBetween).map TmuxTrace.events ≠
      ((aroundMachine scanner).outputs {} failsBetween).map TmuxTrace.events := by
  intro h
  have hlengths := congrArg (List.map List.length) h
  revert hlengths
  decide +kernel

theorem unnoticed_pollWith (secs : ℕ) (panes : List TmuxPaneSnapshot) (state : TmuxMonitorState) :
    Unnoticed state (pollWith secs panes) where
  baselines _ _ hmem := not_mem_nil hmem
  windows entry hentry hfailing := by
    obtain rfl := mem_singleton.mp hentry
    exact absurd hfailing Bool.false_ne_true

theorem first_failure_is_invisible : ((pollMachine scanner).outputs {} failsFirst).map TmuxTrace.events =
      ((aroundMachine scanner).outputs {} failsFirst).map TmuxTrace.events := by
  refine invisible_of_unnoticed scanner failsFirst ⟨⟨?_, ?_⟩, unnoticed_pollWith .., unnoticed_pollWith ..,
    unnoticed_pollWith .., trivial⟩
  · exact fun entry hentry => nomatch hentry
  · rintro entry hentry - hpresent
    obtain rfl := mem_singleton.mp hentry
    cases hpresent

end Sample

end Clawhip.Tmux
