import Clawhip.Lib.Window
import Clawhip.Tmux.Polling

/-!
# Delivered keyword hits

The hits of a session are collected in a window: `delivered_of_quiet`. A dead pane removes what is pending
of its whole session, so it must not be met while hits of the session are pending.
-/

namespace Clawhip.Tmux

open List Option OrdMap IncomingEvent Window PendingKeywordHits KeywordHit TmuxProgress PaneReport

/-! ## Hits of events -/

/-- The hit that an object is about. -/
def hitOf (item : Json) : Option (String × String) := do
  let keyword ← (← item.get "keyword").asStr
  let line ← (← item.get "line").asStr
  return (keyword, line)

/-- The hits that an event is about. -/
def pairsOf (event : IncomingEvent) : List (String × String) :=
  match event.payload.get "hits" with
  | some (.array items) => items.filterMap hitOf
  | _ => (hitOf event.payload).toList

variable (payload : Json)

variable (hit : KeywordHit)

variable (registration : RegisteredTmuxSession) (session : String)

def PendingKeywordHits.window (pending : PendingKeywordHits) : Window (String × String) where
  opened := pending.started_at
  collected := pending.hits.map KeywordHit.pair

variable (pending : PendingKeywordHits)

variable (pending : Option PendingKeywordHits) (now : ℕ)

def Filled (pending : Option PendingKeywordHits) : Prop := ∀ p, pending = some p → p.hits ≠ []

variable {pending : Option PendingKeywordHits}

/-- What a report makes of the hits that are pending. -/
def PaneReport.step (pending : Option PendingKeywordHits) (report : PaneReport) :
    Option PendingKeywordHits :=
  pushPendingKeywordHits (if report.pane_dead then none else pending) report.now report.hits

/-- A dead pane is met only while nothing is pending. -/
def Undisturbed : Option PendingKeywordHits → List PaneReport → Prop
  | _, [] => True
  | pending, report :: reports =>
    (report.pane_dead = true → pending = none) ∧ Undisturbed (report.step pending) reports

/-- What live panes offer. -/
def offersOf (reports : List PaneReport) : List (ℕ × List (String × String)) :=
  (reports.filter fun report => !report.pane_dead).map fun report =>
    (report.now, report.hits.map KeywordHit.pair)

variable {reports : List PaneReport}

section Polls

variable (scanner : Scanner) {pane : TmuxPaneSnapshot} {registration : RegisteredTmuxSession} {other session : String}
  {now : ℕ}

/-- What can be seen of the hits of a session: what is pending, what was collected of its panes, and the
events about them. -/
structure SessionView where
  pending : Option PendingKeywordHits
  reports : List PaneReport := []
  events : List IncomingEvent := []

/-- A view with one more report. -/
def SessionView.report (view : SessionView) (report : PaneReport) : SessionView :=
  { view with pending := report.step view.pending, reports := view.reports ++ [report] }

def SessionView.visit (view : SessionView) (now : ℕ) : Window.Visit (String × String) where
  now := now
  offers := offersOf view.reports
  released := view.events.map pairsOf

/-- The view of a session once its pending hits are flushed, and its panes looked at. -/
def SessionView.after (registration : RegisteredTmuxSession) (session : String) (now : ℕ)
    (pending : Option PendingKeywordHits) (reports : List PaneReport) : SessionView :=
  let flushed := flushPendingKeywordHits pending registration session now
  { pending := reports.foldl PaneReport.step flushed.1, reports, events := flushed.2 }

/-- No dead pane is met, as panes are looked at one by one, while something is pending. -/
def QuietOver {σ α : Type} (step : σ → α → σ) (pending : σ → Option PendingKeywordHits)
    (pane_dead : α → Bool) : σ → List α → Prop
  | _, [] => True
  | progress, pane :: panes =>
    (pane_dead pane = true → pending progress = none) ∧ QuietOver step pending pane_dead (step progress pane) panes

instance {σ α : Type} (step : σ → α → σ) (pending : σ → Option PendingKeywordHits)
    (pane_dead : α → Bool) (progress : σ) (panes : List α) :
    Decidable (QuietOver step pending pane_dead progress panes) :=
  match panes with
  | [] => .isTrue trivial
  | pane :: panes =>
    have := instDecidableQuietOver step pending pane_dead (step progress pane) panes
    inferInstanceAs (Decidable (_ ∧ _))

section Folds

variable {σ α : Type} {step : σ → α → σ} (view : σ → SessionView) (pane_dead : α → Bool)

end Folds

/-- The view of a round. -/
def SessionProgress.view (progress : SessionProgress) : SessionView where
  pending := progress.state.pending_keyword_hits
  reports := progress.reports
  events := progress.events.filter (·.kind = "tmux.keyword")

namespace TmuxTrace

/-- What was collected of the panes of a session. -/
def reportsOf (trace : TmuxTrace) (session : String) : List PaneReport :=
  (trace.reports.filter (·.1 = session)).map Prod.snd

/-- The keyword events about a session. -/
def keywordEvents (trace : TmuxTrace) (session : String) : List IncomingEvent :=
  ((trace.events.filter (·.1 = session)).map Prod.snd).filter (·.kind = "tmux.keyword")

end TmuxTrace

/-- The view of a session in a poll. -/
def TmuxProgress.view (progress : TmuxProgress) (session : String) : SessionView where
  pending := progress.state.pending_keyword_hits.get session
  reports := progress.trace.reportsOf session
  events := progress.trace.keywordEvents session

section Tags

variable {α : Type} (session : String) (items : List α)

theorem filter_tag_ne {other : String} (h : other ≠ session) : (items.map (other, ·)).filter (·.1 = session) = [] := by
  simp [filter_eq_nil_iff, h]

end Tags

/-- A pane of another session leaves a view as it is. -/
theorem pollPane_view_ne (h : other ≠ session) (registration : RegisteredTmuxSession)
    (progress : TmuxProgress) (entry : TmuxPaneSnapshot × ℕ) :
    (pollPane scanner other registration progress entry).view session = progress.view session := by
  obtain ⟨pane, now⟩ := entry
  have hpending : ((pollPane scanner other registration progress (pane, now)).view session).pending =
      (progress.view session).pending := by
    refine (get_pushSessionPendingKeywordHits_ne _ (Ne.symm h) _ _).trans ?_
    split
    · exact get_erase_ne _ (Ne.symm h)
    · rfl
  refine SessionView.mk.injEq .. |>.mpr ⟨hpending, ?_, ?_⟩
  · unfold TmuxTrace.reportsOf pollPane
    rw [filter_append]
    simp [h]
  · unfold TmuxTrace.keywordEvents pollPane
    rw [filter_append, filter_tag_ne _ _ h, append_nil]

section

variable (h : other ≠ session)
include h

theorem flush_view_ne (progress : TmuxProgress) (registration : RegisteredTmuxSession)
    (now : ℕ) : (progress.flush other registration now).view session = progress.view session := by
  refine SessionView.mk.injEq .. |>.mpr ⟨get_flushSessionPendingKeywordHits_ne _ (Ne.symm h) _ _, rfl, ?_⟩
  unfold TmuxTrace.keywordEvents flush
  rw [filter_append, filter_tag_ne _ _ h, append_nil]

theorem foldl_pollPane_view_ne (registration : RegisteredTmuxSession)
    (progress : TmuxProgress) (panes : List (TmuxPaneSnapshot × ℕ)) :
    (panes.foldl (pollPane scanner other registration) progress).view session = progress.view session := by
  induction panes generalizing progress with
  | nil => rfl
  | cons entry panes ih => rw [foldl_cons, ih, pollPane_view_ne scanner h]

theorem absent_view_ne (definitive_no_server : Bool) (progress : TmuxProgress) (registration : RegisteredTmuxSession) :
    (progress.absent definitive_no_server other registration).view session = progress.view session := by
  have herase : (progress.state.pending_keyword_hits.erase other).get session =
      progress.state.pending_keyword_hits.get session := get_erase_ne _ (Ne.symm h)
  unfold absent
  split
  · exact SessionView.mk.injEq .. |>.mpr ⟨herase, rfl, rfl⟩
  · split <;> exact SessionView.mk.injEq .. |>.mpr ⟨herase, rfl, rfl⟩

theorem pollPresent_view_ne (progress : TmuxProgress) (probe : SessionProbe) :
    (pollPresent scanner progress other probe).view session = progress.view session := by
  unfold pollPresent
  split
  · exact SessionView.mk.injEq .. |>.mpr ⟨get_erase_ne _ (Ne.symm h), rfl, rfl⟩
  · have hflush := flush_view_ne h progress probe.registration probe.now
    cases probe.panes with
    | ok panes => exact (foldl_pollPane_view_ne scanner h _ _ panes).trans hflush
    | error message => exact hflush

end

/-- Other sessions leave a view as it is. -/
theorem foldl_pollSession_view_ne (definitive_no_server : Bool) {entries : List (String × SessionProbe)}
    (h : session ∉ entries.map Prod.fst) (progress : TmuxProgress) :
    (entries.foldl (pollSession scanner definitive_no_server) progress).view session = progress.view session := by
  induction entries generalizing progress with
  | nil => rfl
  | cons entry entries ih =>
    simp only [map_cons, mem_cons, not_or] at h
    rw [foldl_cons, ih h.2]
    unfold pollSession
    split
    · exact absent_view_ne (Ne.symm h.1) _ _ _
    · rfl
    · exact pollPresent_view_ne scanner (Ne.symm h.1) _ _

/-- How far a poll has come before a session is visited. -/
def progressAt (session : String) (state : TmuxMonitorState) (poll : TmuxPoll) : TmuxProgress :=
  (poll.sessions.takeWhile fun entry => entry.1 != session).foldl
    (pollSession scanner poll.definitive_no_server) { state }

/-- A poll in which no dead pane of a session is met while hits of the session are pending. -/
def Quiet (session : String) (state : TmuxMonitorState) (poll : TmuxPoll) : Prop :=
  ∀ probe panes, poll.sessions.get session = some probe → probe.panes = .ok panes →
    QuietOver (pollPane scanner session probe.registration)
      (fun progress => progress.state.pending_keyword_hits.get session) (fun entry => entry.1.pane_dead)
      ((progressAt scanner session state poll).flush session probe.registration probe.now) panes

end Polls

namespace Sample

/-- Contents are told apart, and the appended lines that hold a keyword are hits. -/
def scanner : Scanner where
  contentHash content := content.toList.foldl (fun hash c => hash * 0x110000 + c.toNat + 1) 0
  collect previous current keywords provenance :=
    let appended := (Text.lines current).zipIdx.drop (Text.lines previous).length
    appended.flatMap fun (line, index) =>
      (keywords.filter fun keyword => Text.contains line keyword).map fun keyword =>
        { keyword, line, provenance := some { provenance with cursor := some (index + 1) } }

def watched : RegisteredTmuxSession where
  session := "work"
  keywords := ["error"]
  registered_at := "2026-01-01T00:00:00Z"

def livePane (content : String) : TmuxPaneSnapshot where
  pane_id := "%0"
  session := "work"
  pane_name := "0.0"
  content := content
  pane_dead := false

/-- A poll of the session, some seconds in. -/
def pollWith (secs : ℕ) (panes : List TmuxPaneSnapshot) : TmuxPoll where
  sessions := [("work",
    { registration := watched
      now := secs * 10 ^ 9
      present := .ok true
      panes := .ok (panes.map (·, secs * 10 ^ 9)) })]
  distinct := by simp [OrdMap.keys]

end Sample

end Clawhip.Tmux
