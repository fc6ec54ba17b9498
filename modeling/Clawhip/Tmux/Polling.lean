import Clawhip.Tmux.Keywords
import Clawhip.Lib.Lines

/-!
# Polls of tmux sessions

`poll_tmux` of `src/source/tmux.rs`, and `monitor_registered_session`, which a wrapper runs for its own
session. What the commands answer, the registrations and the readings of the clock are inputs.
-/

namespace Clawhip.Tmux

structure TmuxPaneState where
  session : String
  pane_name : String
  snapshot : String
  content_hash : ℕ
  last_change : ℕ
  last_stale_notification : Option ℕ := none
  pane_dead : Bool

structure TmuxPaneSnapshot where
  pane_id : String
  session : String
  pane_name : String
  content : String
  pane_dead : Bool

/-- How contents are compared: `content_hash`, and `collect_keyword_hits_with_provenance`. -/
structure Scanner where
  contentHash : String → ℕ
  collect : String → String → List String → KeywordMatchProvenance → List KeywordHit

def lastNonemptyLine (content : String) : String :=
  Text.trim (((Text.lines content).reverse.find? fun line => !(Text.trim line).isEmpty).getD "<no output>")

/-- The time of `should_emit_stale`, in nanoseconds; the product of minutes and seconds wraps around. -/
def staleAfter (stale_minutes : ℕ) : ℕ := stale_minutes * 60 % 2 ^ 64 * 10 ^ 9

/-- A pane is unchanged for some time, and there was no alert for as long. -/
def TmuxPaneState.isDue (pane : TmuxPaneState) (now stale_after : ℕ) : Bool :=
  decide (stale_after ≤ now - pane.last_change) &&
    (pane.last_stale_notification.map fun previous => decide (stale_after ≤ now - previous)).getD true

def shouldEmitStale (pane : TmuxPaneState) (now stale_minutes : ℕ) : Bool :=
  if stale_minutes = 0 ∨ pane.pane_dead = true then false
  else pane.isDue now (staleAfter stale_minutes)

/-! ## One pane -/

variable (scanner : Scanner)

/-- A pane that is seen for the first time. -/
def TmuxPaneSnapshot.first (pane : TmuxPaneSnapshot) (now : ℕ) : TmuxPaneState where
  session := pane.session
  pane_name := pane.pane_name
  snapshot := pane.content
  content_hash := scanner.contentHash pane.content
  last_change := now
  pane_dead := pane.pane_dead

/-- The hits of a pane whose content changed. -/
def TmuxPaneSnapshot.hits (pane : TmuxPaneSnapshot) (registration : RegisteredTmuxSession)
    (existing : TmuxPaneState) : List KeywordHit :=
  if pane.pane_dead then []
  else
    scanner.collect existing.snapshot pane.content registration.keywords
      { pane_id := pane.pane_id, pane_name := pane.pane_name, cursor := none }

/-- What is collected of a pane in a poll. -/
structure PaneReport where
  now : ℕ
  pane_dead : Bool
  hits : List KeywordHit

/-- What a poll makes of a pane: its state, its hits, and a stale event. -/
structure PaneVisit where
  state : TmuxPaneState
  hits : List KeywordHit := []
  events : List IncomingEvent := []

/-- What was collected of a pane, in a report. -/
def PaneVisit.report (visit : PaneVisit) (now : ℕ) (pane : TmuxPaneSnapshot) : PaneReport where
  now := now
  pane_dead := pane.pane_dead
  hits := visit.hits

/-- The state of a pane and what it gives rise to; `session` is the session that it is written down for
when its content changed. -/
def visitPane (registration : RegisteredTmuxSession) (now : ℕ) (pane : TmuxPaneSnapshot)
    (session : TmuxPaneState → String) : Option TmuxPaneState → PaneVisit
  | none => { state := pane.first scanner now }
  | some existing =>
    let existing := { existing with pane_dead := pane.pane_dead }
    let hash := scanner.contentHash pane.content
    if existing.content_hash ≠ hash then
      { state := { existing with
          session := session existing
          pane_name := pane.pane_name
          snapshot := pane.content
          content_hash := hash
          last_change := now
          last_stale_notification := none }
        hits := pane.hits scanner registration existing }
    else if shouldEmitStale existing now registration.stale_minutes then
      { state := { existing with last_stale_notification := some now }
        events := [tmuxStaleEvent registration existing.session existing.pane_name
          (lastNonemptyLine pane.content)] }
    else { state := existing }

/-! ## poll_tmux -/

structure TmuxMonitorState where
  panes : OrdMap String TmuxPaneState := []
  pending_keyword_hits : OrdMap String PendingKeywordHits := []

/-- What a poll finds at a session: the registration, the time, whether the session is there, and its
panes, each with the time at which it is looked at. -/
structure SessionProbe where
  registration : RegisteredTmuxSession
  now : ℕ
  present : Except String Bool
  panes : Except String (List (TmuxPaneSnapshot × ℕ))

/-- A poll: the monitored sessions, each of them once, and whether there is definitely no server. -/
structure TmuxPoll where
  definitive_no_server : Bool := false
  sessions : OrdMap String SessionProbe
  distinct : sessions.keys.Nodup := by decide

/-- What can be seen of a poll: the events, and what was collected of the panes, each with the session that
was visited. -/
structure TmuxTrace where
  events : List (String × IncomingEvent) := []
  reports : List (String × PaneReport) := []

/-- How far a poll has come. -/
structure TmuxProgress where
  state : TmuxMonitorState
  active_panes : List String := []
  sessions_to_unregister : List String := []
  dynamic_prune_candidates : List AbsentRegistrationCandidate := []
  trace : TmuxTrace := {}

def paneKey (pane : TmuxPaneSnapshot) : String := pane.session ++ "::" ++ pane.pane_id

/-- A session that is gone. -/
def TmuxMonitorState.forget (state : TmuxMonitorState) (session_name : String) : TmuxMonitorState where
  panes := state.panes.filter fun entry => entry.2.session != session_name
  pending_keyword_hits := state.pending_keyword_hits.erase session_name

/-- The pending hits of a session are flushed. -/
def TmuxProgress.flush (progress : TmuxProgress) (session_name : String)
    (registration : RegisteredTmuxSession) (now : ℕ) : TmuxProgress :=
  let (pending, events) := flushSessionPendingKeywordHits progress.state.pending_keyword_hits
    session_name registration now
  { progress with
    state.pending_keyword_hits := pending
    trace.events := progress.trace.events ++ events.map (session_name, ·) }

/-- One pane of `poll_tmux`. -/
def pollPane (session_name : String) (registration : RegisteredTmuxSession) (progress : TmuxProgress)
    (entry : TmuxPaneSnapshot × ℕ) : TmuxProgress :=
  let (pane, now) := entry
  let pane_key := paneKey pane
  let pending :=
    if pane.pane_dead then progress.state.pending_keyword_hits.erase session_name
    else progress.state.pending_keyword_hits
  let visit := visitPane scanner registration now pane (·.session) (progress.state.panes.get pane_key)
  { progress with
    active_panes := pane_key :: progress.active_panes
    state.panes := progress.state.panes.insert pane_key visit.state
    state.pending_keyword_hits := pushSessionPendingKeywordHits pending session_name now visit.hits
    trace.events := progress.trace.events ++ visit.events.map (session_name, ·)
    trace.reports := progress.trace.reports ++ [(session_name, visit.report now pane)] }

/-- A registration that stays while there is no server. -/
def preservesRegistration (registration : RegisteredTmuxSession) : Bool :=
  registration.registration_source == .ConfigMonitor ||
    registration.lane.any fun lane => lane.workflow != .Retired || !lane.quiesced

def TmuxProgress.absent (progress : TmuxProgress) (definitive_no_server : Bool) (session_name : String)
    (registration : RegisteredTmuxSession) : TmuxProgress :=
  let forgotten := { progress with state := progress.state.forget session_name }
  if definitive_no_server && preservesRegistration registration then forgotten
  else if registrationIsReconcilable registration then
    { forgotten with
      dynamic_prune_candidates := progress.dynamic_prune_candidates ++
        [{ session := session_name
           registration_generation := registration.registration_generation }] }
  else
    { forgotten with
      sessions_to_unregister := progress.sessions_to_unregister ++ [session_name] }

def pollPresent (progress : TmuxProgress) (session_name : String) (probe : SessionProbe) : TmuxProgress :=
  if probe.registration.active_wrapper_monitor then
    { progress with
      state.pending_keyword_hits := progress.state.pending_keyword_hits.erase session_name }
  else
    let progress := progress.flush session_name probe.registration probe.now
    match probe.panes with
    | .ok panes => panes.foldl (pollPane scanner session_name probe.registration) progress
    | .error _ => progress

/-- One session of `poll_tmux`. -/
def pollSession (definitive_no_server : Bool) (progress : TmuxProgress)
    (entry : String × SessionProbe) : TmuxProgress :=
  match entry.2.present with
  | .ok false => progress.absent definitive_no_server entry.1 entry.2.registration
  | .error _ => progress
  | .ok true => pollPresent scanner progress entry.1 entry.2

/-- `poll_tmux`: the monitors afterwards, and what can be seen of the poll. -/
def pollTmux (state : TmuxMonitorState) (poll : TmuxPoll) : TmuxMonitorState × TmuxTrace :=
  let progress := poll.sessions.foldl (pollSession scanner poll.definitive_no_server) { state }
  ({ panes := progress.state.panes.filter fun entry => progress.active_panes.contains entry.1
     pending_keyword_hits := progress.state.pending_keyword_hits.filter fun entry =>
       (poll.sessions.map Prod.fst).contains entry.1 }, progress.trace)

def pollMachine : Machine TmuxMonitorState TmuxPoll TmuxTrace where
  step := pollTmux scanner

/-! ## monitor_registered_session -/

structure SessionMonitorState where
  panes : OrdMap String TmuxPaneState := []
  pending_keyword_hits : Option PendingKeywordHits := none

/-- How far a round has come. -/
structure SessionProgress where
  state : SessionMonitorState
  active_panes : List String := []
  events : List IncomingEvent := []
  reports : List PaneReport := []

/-- One pane of `monitor_registered_session`. -/
def monitorPane (registration : RegisteredTmuxSession) (now : ℕ) (progress : SessionProgress)
    (pane : TmuxPaneSnapshot) : SessionProgress :=
  let pending := if pane.pane_dead then none else progress.state.pending_keyword_hits
  let visit := visitPane scanner registration now pane (fun _ => pane.session)
    (progress.state.panes.get pane.pane_id)
  { active_panes := pane.pane_id :: progress.active_panes
    state.panes := progress.state.panes.insert pane.pane_id visit.state
    state.pending_keyword_hits := pushPendingKeywordHits pending now visit.hits
    events := progress.events ++ visit.events
    reports := progress.reports ++ [visit.report now pane] }

end Clawhip.Tmux
