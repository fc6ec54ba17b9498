import Clawhip.Gjc.Restart
import Clawhip.Lib.LastKey

/-!
# Repeated alerts

Of the gates of a session a bridge remembers the last one, and of an outage of its endpoint that it was
alerted and how the endpoint was last. So a gate that comes back after another one is announced again,
and so is an endpoint that fails after it was degraded, even if its failure was announced before.
`alerts_once_iff` says for which sequences of snapshots every alert is given once.
-/

namespace Clawhip.Gjc

open List Option KeyReport Gate

open SessionTrack

/-! ## What is shown -/

/-- A gate as a report about its identifier. -/
def Gate.report (gate : Gate) : KeyReport String ℕ := ⟨gate.id, gate.revision, decide (gate.status = .opened)⟩

/-- The gate that a snapshot reports, if it is read. -/
def shownGate (input : Input) : Option (KeyReport String ℕ) :=
  if input.1.Fits then input.1.gate.map Gate.report else none

/-- The health of the endpoint that a snapshot reports, if it is read. -/
def shownHealth (input : Input) : Option EndpointHealth :=
  if input.1.Fits then input.1.endpoint.map fun endpoint => endpoint.health else none

/-- The gates that are reported, in order. -/
def shownGates (fed : List Input) : List (KeyReport String ℕ) := fed.filterMap shownGate

/-- The healths that are reported, in order. -/
def shownHealths (fed : List Input) : List EndpointHealth := fed.filterMap shownHealth

/-- The healths reported since the last good one, the last one first. -/
def sinceOk (healths : List EndpointHealth) : List EndpointHealth :=
  healths.reverse.takeWhile fun health => decide (health ≠ .ok)

/-- The snapshots are of one session, and their revisions rise. -/
structure Sequence (session_id : String) (fed : List Input) : Prop where
  session : ∀ input ∈ fed, input.1.session_id = session_id
  rising : fed.Pairwise fun a b => a.1.revision < b.1.revision

/-! ## Alerts -/

section Alerts

variable (x : Libraries)

/-- The alerts about a gate that a bridge gives for a snapshot after others. -/
def gateAlerts (before : List Input) (input : Input) : List IncomingEvent :=
  (announcedBy x (bridgeAfter x before) input).filter fun event => decide (event.kind ∈ GATE_KINDS)

/-- The alerts about the endpoint that a bridge gives for a snapshot after others. -/
def endpointAlerts (before : List Input) (input : Input) : List IncomingEvent :=
  (announcedBy x (bridgeAfter x before) input).filter fun event =>
    decide (event.kind = "session.endpoint-failed")

/-- A gate was announced or resolved at a revision. -/
def GateSettled (fed : List Input) (id : String) (revision : ℕ) : Prop :=
  ∃ before input after gate, fed = before ++ input :: after ∧ input.1.Fits ∧
    gate ∈ input.1.gate ∧ gate.id = id ∧ gate.revision = revision ∧
    (gate.status = .resolved ∨ gateAlerts x before input ≠ [])

/-- A snapshot gives one alert about its gate at most, and only for a revision above those at which
the gate was announced or resolved. -/
def GatesOnce (fed : List Input) : Prop :=
  ∀ before input after, fed = before ++ input :: after → (gateAlerts x before input).length ≤ 1 ∧
      (gateAlerts x before input ≠ [] → ∃ gate ∈ input.1.gate,
        ∀ revision, GateSettled x before gate.id revision → revision < gate.revision)

/-- A snapshot gives one alert about the endpoint at most, and none for a health that was announced
since the endpoint was last reported to be well. -/
def EndpointsOnce (fed : List Input) : Prop :=
  ∀ before input after, fed = before ++ input :: after → (endpointAlerts x before input).length ≤ 1 ∧
      (endpointAlerts x before input ≠ [] → ∃ health ∈ shownHealth input,
        ∀ earlier previous between, before = earlier ++ previous :: between →
          endpointAlerts x earlier previous ≠ [] → shownHealth previous = some health →
            ∃ good ∈ between, shownHealth good = some .ok)

end Alerts

/-- An open gate is reported at a revision above all earlier ones of it, or no higher than it was
reported since another gate was. -/
def GatesClimb (fed : List Input) : Prop :=
  ∀ before input after, fed = before ++ input :: after → ∀ report ∈ shownGate input, report.opens = true →
      (∀ earlier ∈ shownGates before, earlier.key = report.key → earlier.rank < report.rank) ∨
        ∃ earlier ∈ KeyReport.since report.key (shownGates before), report.rank ≤ earlier.rank

/-- An endpoint that fails right after it was degraded has not failed before since it was well. -/
def NoRelapse (fed : List Input) : Prop :=
  ∀ before input after, fed = before ++ input :: after → shownHealth input = some .failed →
    ∀ rest, sinceOk (shownHealths before) = .degraded :: rest → .failed ∉ rest

/-! ## Sections -/

section Sections

variable {x : Libraries} {context : SnapshotContext} {track : SessionTrack}

/-- What a track says of the gate and of the endpoint. -/
def SessionTrack.watched (track : SessionTrack) :
    Option (String × ℕ) × Option EndpointHealth × Bool :=
  (track.gate_episode, track.endpoint_health, track.endpoint_alerted)

theorem observeTurn_watched : (observeTurn x context track).1.watched = track.watched := by
  unfold observeTurn
  cases context.snapshot.turn with
  | none => rfl
  | some turn =>
    have honTurn (turn_id : String) : (track.onTurn turn_id).watched = track.watched := by
      unfold onTurn
      split_ifs
      all_goals rfl
    show (observePhase x context turn _).1.watched = track.watched
    rw [← honTurn (sanitize turn.id)]
    unfold observePhase
    cases turn.state
    all_goals rfl

theorem observeAbsentTurn_watched : (observeAbsentTurn x context track).1.watched = track.watched := by
  unfold observeAbsentTurn
  split_ifs
  · cases track.in_flight_turn with
    | none => rfl
    | some turn_id =>
      dsimp only
      split_ifs
      all_goals rfl
  · rfl

theorem observePrompt_watched : (observePrompt x context track).1.watched = track.watched := by
  unfold observePrompt
  cases context.snapshot.prompt with
  | none => rfl
  | some prompt =>
    dsimp only
    split_ifs
    all_goals rfl

/-- An open gate starts an episode if its report passes what is tracked. -/
theorem newEpisode_iff (track : SessionTrack) (gate : Gate) :
    track.newEpisode gate = true ↔ gate.report.Passes track.gate_episode := by
  unfold newEpisode KeyReport.Passes report
  cases track.gate_episode with
  | none => simp
  | some tracked =>
    simp only [all_some, decide_eq_true_eq, mem_some_iff, forall_eq']
    exact imp_iff_not_or.symm

variable {gate : Gate}

theorem follow_of_passes (h : gate.report.Passes track.gate_episode) :
    follow track.gate_episode gate.report = some (gate.id, gate.revision) := by
  unfold follow
  cases htracked : track.gate_episode with
  | none => rfl
  | some tracked =>
    by_cases hid : gate.id = tracked.1
    · have hlt : tracked.2 < gate.revision := h tracked htracked hid
      simp [report, hid, max_eq_right hlt.le]
    · simp [report, hid]

/-- A gate that is tracked at a revision that is not lower stays tracked there. -/
theorem follow_of_not_higher {tracked : String × ℕ}
    (htracked : track.gate_episode = some tracked) (hid : gate.id = tracked.1) (hle : gate.revision ≤ tracked.2) :
    follow track.gate_episode gate.report = track.gate_episode := by
  simp [follow, report, htracked, hid, max_eq_left hle]

variable (x : Libraries) (context : SnapshotContext)

/-- The gate's section follows the reported gate, and announces it if it opens and passes. -/
theorem observeGate_spec (track : SessionTrack) :
    (observeGate x context track).1.watched = (context.snapshot.gate.elim track.gate_episode fun gate =>
            follow track.gate_episode gate.report, track.watched.2) ∧ (observeGate x context track).2.length ≤ 1 ∧
      ((observeGate x context track).2 ≠ [] ↔ ∃ gate ∈ context.snapshot.gate,
        gate.status = .opened ∧ gate.report.Passes track.gate_episode) := by
  unfold observeGate
  cases hgate : context.snapshot.gate with
  | none => exact ⟨rfl, Nat.zero_le _, by simp⟩
  | some gate =>
    have hnew := newEpisode_iff track gate
    cases hstatus : gate.status with
    | opened =>
      by_cases hepisode : track.newEpisode gate = true
      · simp only [hstatus, hepisode, if_true]
        refine ⟨?_, le_rfl, by simp [hstatus, hnew.mp hepisode]⟩
        rw [elim_some, follow_of_passes (hnew.mp hepisode)]
        rfl
      · simp only [hstatus, hepisode]
        refine ⟨?_, Nat.zero_le _, by simp [← hnew, hepisode]⟩
        rw [hnew] at hepisode
        unfold KeyReport.Passes at hepisode
        push Not at hepisode
        obtain ⟨tracked, htracked, hid, hle⟩ := hepisode
        rw [elim_some, follow_of_not_higher htracked hid hle]
        rfl
    | resolved =>
      by_cases hnewer : (track.gate_episode.all fun tracked =>
          decide (gate.id ≠ tracked.1 ∨ tracked.2 ≤ gate.revision)) = true
      · simp only [hstatus, hnewer, if_true]
        refine ⟨?_, Nat.zero_le _, by simp [hstatus]⟩
        unfold follow watched
        cases htracked : track.gate_episode with
        | none => rfl
        | some tracked =>
          rw [htracked, all_some, decide_eq_true_eq] at hnewer
          by_cases hid : gate.id = tracked.1
          · have hle := hnewer.resolve_left (not_not.mpr hid)
            simp [report, hid, max_eq_right hle]
          · simp [report, hid]
      · simp only [hstatus, hnewer]
        refine ⟨?_, Nat.zero_le _, by simp [hstatus]⟩
        cases htracked : track.gate_episode with
        | none => simp [htracked] at hnewer
        | some tracked =>
          rw [htracked, all_some, decide_eq_true_eq, not_or, not_not, not_le] at hnewer
          rw [elim_some, ← htracked, follow_of_not_higher htracked hnewer.1 hnewer.2.le]
          rfl

/-- What is known of the endpoint after a report about it. -/
def noted (health : EndpointHealth) : Option EndpointHealth × Bool := (some health, decide (health ≠ .ok))

/-- A report about the endpoint is announced: the endpoint is not well, and the outage was not alerted
or gets worse. -/
def Alarming (known : Option EndpointHealth × Bool) (health : EndpointHealth) : Prop :=
  health ≠ .ok ∧ (known.2 = false ∨ known.1 = some .degraded ∧ health = .failed)

/-- The endpoint's section notes the reported health, and announces it if it is alarming. -/
theorem observeEndpoint_spec (track : SessionTrack) : (observeEndpoint x context track).1.watched =
        (track.gate_episode, context.snapshot.endpoint.elim track.watched.2 fun endpoint =>
          noted endpoint.health) ∧ (observeEndpoint x context track).2.length ≤ 1 ∧
      ((observeEndpoint x context track).2 ≠ [] ↔ ∃ endpoint ∈ context.snapshot.endpoint,
        Alarming track.watched.2 endpoint.health) := by
  unfold observeEndpoint
  cases hendpoint : context.snapshot.endpoint with
  | none => exact ⟨rfl, Nat.zero_le _, by simp⟩
  | some endpoint =>
    by_cases hok : endpoint.health = .ok
    · simp [hok, watched, noted, Alarming]
    · cases halerted : track.endpoint_alerted with
      | false => simp [hok, halerted, watched, noted, Alarming]
      | true =>
        by_cases hworse : track.endpoint_health = some .degraded ∧ endpoint.health = .failed
        · simp [halerted, hworse.1, hworse.2, watched, noted, Alarming]
        · have hescalated : (decide (track.endpoint_health = some .degraded) &&
              decide (endpoint.health = .failed)) = false := by
            rw [← Bool.decide_and, decide_eq_false_iff_not]
            exact hworse
          simp [hok, halerted, hworse, watched, noted, Alarming]

end Sections

/-! ## Snapshots -/

section Snapshots

variable {x : Libraries} {context : SnapshotContext} {track : SessionTrack} {event : IncomingEvent}

/-- The kinds of a turn's section, of the others before the gate's and of the model's. -/
def QUIET_KINDS : List String :=
  ["session.retry-needed", "session.started", "session.finished", "session.failed",
    "session.stalled", "session.prompt-submitted", "session.model-changed"]

theorem quiet_of_mem_turn (h : event ∈ (observeTurn x context track).2) : event.kind ∈ QUIET_KINDS := by
  cases hturn : context.snapshot.turn with
  | none =>
    unfold observeTurn at h
    rw [hturn] at h
    exact absurd h not_mem_nil
  | some turn =>
    cases turnNotice_of_mem hturn h with
    | retry hkind | stalled hkind => simp [hkind, QUIET_KINDS]
    | started _ _ hnotice =>
      have hkind : event.kind = "session.started" := congrArg Prod.fst hnotice
      simp [hkind, QUIET_KINDS]
    | ended _ _ hnotice =>
      have hkind : event.kind = (endShown turn).1 := congrArg Prod.fst hnotice
      rw [hkind]
      unfold endShown
      split_ifs
      all_goals simp [QUIET_KINDS]

/-- The announcements of a snapshot: those of the gate's section, those of the endpoint's, and others of
other kinds. -/
theorem observeSections_announces (x : Libraries) (context : SnapshotContext) (track : SessionTrack) :
    ∃ track' track'' quiet quiet', track'.watched = track.watched ∧
      track''.watched = (observeGate x context track').1.watched ∧
      (observeSections x context track).1.watched = (observeEndpoint x context track'').1.watched ∧
      (observeSections x context track).2 = quiet ++ ((observeGate x context track').2 ++
        (quiet' ++ (observeEndpoint x context track'').2)) ∧
      (∀ event ∈ quiet, event.kind ∈ QUIET_KINDS) ∧ ∀ event ∈ quiet', event.kind ∈ QUIET_KINDS := by
  set turned := observeTurn x context track with hturned
  set cleared := observeAbsentTurn x context turned.1 with hcleared
  set prompted := observePrompt x context cleared.1 with hprompted
  set gated := observeGate x context prompted.1 with hgated
  set modelled := observeModel x context gated.1 with hmodelled
  refine ⟨prompted.1, modelled.1, turned.2 ++ (cleared.2 ++ prompted.2), modelled.2, ?_, rfl, rfl, ?_, ?_, ?_⟩
  · rw [hprompted, observePrompt_watched, hcleared, observeAbsentTurn_watched, hturned, observeTurn_watched]
  · simp only [append_assoc]
    rfl
  · intro event hmem
    rcases mem_append.mp hmem with hmem | hmem
    · exact quiet_of_mem_turn hmem
    · rcases mem_append.mp hmem with hmem | hmem
      · rw [kind_of_mem_absentTurn hmem]
        simp [QUIET_KINDS]
      · rw [kind_of_mem_prompt hmem]
        simp [QUIET_KINDS]
  · intro event hmem
    rw [kind_of_mem_model hmem]
    simp [QUIET_KINDS]

theorem kind_of_mem_gate (h : event ∈ (observeGate x context track).2) : event.kind ∈ GATE_KINDS := by
  obtain ⟨gate, -, -, -, hnotice⟩ := gateNotice_of_mem h
  rw [show event.kind = gateEventKind gate.kind from congrArg Prod.fst hnotice]
  exact gateEventKind_mem gate.kind

theorem quiet_kinds : ∀ kind ∈ QUIET_KINDS, kind ∉ GATE_KINDS ∧ kind ≠ "session.endpoint-failed" := by
  decide

theorem gate_kinds : ∀ kind ∈ GATE_KINDS, kind ≠ "session.endpoint-failed" := by
  decide

/-- What a snapshot does to what is watched, and which alerts it gives. -/
theorem observeSections_alerts (x : Libraries) (context : SnapshotContext) (track : SessionTrack) :
    (observeSections x context track).1.watched = (context.snapshot.gate.elim track.watched.1 fun gate =>
            follow track.watched.1 gate.report, context.snapshot.endpoint.elim track.watched.2 fun endpoint =>
            noted endpoint.health) ∧ (((observeSections x context track).2.filter fun event =>
          decide (event.kind ∈ GATE_KINDS)).length ≤ 1 ∧ (((observeSections x context track).2.filter fun event =>
            decide (event.kind ∈ GATE_KINDS)) ≠ [] ↔
          ∃ gate ∈ context.snapshot.gate, gate.status = .opened ∧ gate.report.Passes track.watched.1)) ∧
      ((observeSections x context track).2.filter fun event =>
          decide (event.kind = "session.endpoint-failed")).length ≤ 1 ∧
        (((observeSections x context track).2.filter fun event =>
            decide (event.kind = "session.endpoint-failed")) ≠ [] ↔
          ∃ endpoint ∈ context.snapshot.endpoint, Alarming track.watched.2 endpoint.health) := by
  obtain ⟨track', track'', quiet, quiet', hbefore, hbetween, hafter, hevents, hquiet, hquiet'⟩ :=
    observeSections_announces x context track
  obtain ⟨hgate, hgate', hgate''⟩ := observeGate_spec x context track'
  obtain ⟨hendpoint, hendpoint', hendpoint''⟩ := observeEndpoint_spec x context track''
  have hepisode : track'.gate_episode = track.watched.1 := congrArg Prod.fst hbefore
  have hepisode' : track''.gate_episode = (observeGate x context track').1.watched.1 := congrArg Prod.fst hbetween
  rw [hbetween, hgate, hbefore] at hendpoint hendpoint''
  rw [hepisode', hgate, hepisode] at hendpoint
  rw [hepisode] at hgate''
  have hnone {p : IncomingEvent → Prop} [DecidablePred p] {events : List IncomingEvent}
      (h : ∀ event ∈ events, ¬ p event) : events.filter (fun event => decide (p event)) = [] :=
    filter_eq_nil_iff.mpr (by simpa using h)
  refine ⟨by rw [hafter, hendpoint], ?_, ?_⟩
  · have hkept : (observeSections x context track).2.filter
        (fun event => decide (event.kind ∈ GATE_KINDS)) = (observeGate x context track').2 := by
      have hall : (observeGate x context track').2.filter
          (fun event => decide (event.kind ∈ GATE_KINDS)) = (observeGate x context track').2 :=
        filter_eq_self.mpr fun event hmem => decide_eq_true (kind_of_mem_gate hmem)
      rw [hevents, filter_append, filter_append, filter_append, hall,
        hnone fun event hmem => (quiet_kinds _ (hquiet event hmem)).1,
        hnone fun event hmem => (quiet_kinds _ (hquiet' event hmem)).1, hnone fun event hmem hgate =>
          gate_kinds _ hgate (kind_of_mem_endpoint hmem), nil_append, nil_append, append_nil]
    rw [hkept]
    exact ⟨hgate', hgate''⟩
  · have hkept : (observeSections x context track).2.filter
        (fun event => decide (event.kind = "session.endpoint-failed")) = (observeEndpoint x context track'').2 := by
      have hall : (observeEndpoint x context track'').2.filter
          (fun event => decide (event.kind = "session.endpoint-failed")) = (observeEndpoint x context track'').2 :=
        filter_eq_self.mpr fun event hmem => decide_eq_true (kind_of_mem_endpoint hmem)
      rw [hevents, filter_append, filter_append, filter_append, hall,
        hnone fun event hmem => (quiet_kinds _ (hquiet event hmem)).2,
        hnone fun event hmem => (quiet_kinds _ (hquiet' event hmem)).2,
        hnone fun event hmem => gate_kinds _ (kind_of_mem_gate hmem), nil_append, nil_append, nil_append]
    rw [hkept]
    exact ⟨hendpoint', hendpoint''⟩

end Snapshots

/-! ## Runs -/

theorem filterMap_split {α β : Type*} {f : α → Option β} {l : List α} {before after : List β}
    {b : β} (h : l.filterMap f = before ++ b :: after) :
    ∃ before' a after', l = before' ++ a :: after' ∧ before'.filterMap f = before ∧
      f a = some b ∧ after'.filterMap f = after := by
  obtain ⟨front, rest, rfl, hfront, hrest⟩ := filterMap_eq_append_iff.mp h
  obtain ⟨skipped, a, after', rfl, hskipped, ha, hafter⟩ := filterMap_eq_cons_iff.mp hrest
  refine ⟨front ++ skipped, a, after', by rw [append_assoc], ?_, ha, hafter⟩
  rw [filterMap_append, hfront, filterMap_eq_nil_iff.mpr hskipped, append_nil]

section Runs

variable {x : Libraries} {session_id : String} {fed : List Input} {input : Input}

theorem Sequence.append_left {fed' : List Input} (h : Sequence session_id (fed ++ fed')) : Sequence session_id fed :=
  ⟨fun input hmem => h.session input (mem_append_left _ hmem), (pairwise_append.mp h.rising).1⟩

theorem shownGates_concat : shownGates (fed ++ [input]) = shownGates fed ++ (shownGate input).toList := by
  unfold shownGates
  rw [filterMap_append]
  cases hshown : shownGate input with
  | none | some report => simp [hshown]

theorem shownHealths_concat : shownHealths (fed ++ [input]) = shownHealths fed ++ (shownHealth input).toList := by
  unfold shownHealths
  rw [filterMap_append]
  cases hshown : shownHealth input with
  | none | some health => simp [hshown]

/-- What the reports so far say about the endpoint: its last health, and whether it was not well. -/
def knownHealth (healths : List EndpointHealth) : Option EndpointHealth × Bool :=
  (healths.getLast?, !(sinceOk healths).isEmpty)

variable (healths : List EndpointHealth) (health : EndpointHealth)

theorem knownHealth_concat : knownHealth (healths ++ [health]) = noted health := by
  unfold knownHealth noted sinceOk
  by_cases hok : health = .ok
  · simp [hok]
  · simp [hok]

/-- A report about the endpoint is announced after others if it is the first since the endpoint was
well, or says that the endpoint failed after it was degraded. -/
theorem alarming_iff : Alarming (knownHealth healths) health ↔ health ≠ .ok ∧ (sinceOk healths = [] ∨
      health = .failed ∧ ∃ rest, sinceOk healths = .degraded :: rest) := by
  unfold Alarming knownHealth sinceOk
  induction healths using reverseRecOn with
  | nil => simp
  | append_singleton healths last ih =>
    by_cases hok : last = .ok
    · simp [hok]
    · simp [hok, and_comm]

/-- What the track of a session says after a run. -/
structure Watches (track : SessionTrack) (fed : List Input) : Prop where
  watched : track.watched = ((shownGates fed).foldl KeyReport.follow none, knownHealth (shownHealths fed))
  revision : ∀ previous ∈ track.last_revision, ∃ input ∈ fed, input.1.revision = previous

/-- The track of a session follows what the snapshots show, and a snapshot gives its alerts
accordingly. -/
theorem watches_concat (hsequence : Sequence session_id (fed ++ [input]))
    (h : Watches ((bridgeAfter x fed).trackOf (sanitize session_id)) fed) :
    Watches ((bridgeAfter x (fed ++ [input])).trackOf (sanitize session_id)) (fed ++ [input]) ∧
      ((gateAlerts x fed input).length ≤ 1 ∧ (gateAlerts x fed input ≠ [] ↔
        ∃ report ∈ shownGate input, KeyReport.Announced (shownGates fed) report)) ∧
      (endpointAlerts x fed input).length ≤ 1 ∧ (endpointAlerts x fed input ≠ [] ↔
        ∃ health ∈ shownHealth input, Alarming (knownHealth (shownHealths fed)) health) := by
  have hsession : sessionOf input = sanitize session_id := congrArg sanitize (hsequence.session input (by simp))
  obtain ⟨-, -, hbelow⟩ := pairwise_append.mp hsequence.rising
  set bridge := bridgeAfter x fed with hbridge
  set track := bridge.trackOf (sanitize session_id) with htrack
  unfold gateAlerts endpointAlerts announcedBy
  rw [bridgeAfter_concat, ← hbridge]
  by_cases hfits : input.1.Fits
  · have hread : input.1.Read (bridge.trackOf (sessionOf input)) := by
      refine ⟨hfits, fun previous hlast => ?_⟩
      rw [hsession] at hlast
      obtain ⟨earlier, hmem, rfl⟩ := h.revision previous hlast
      exact hbelow earlier hmem input (mem_singleton_self input)
    obtain ⟨hafter, hannounced⟩ := observe_read x bridge hread
    rw [hsession, ← htrack] at hafter hannounced
    obtain ⟨hwatched, ⟨hone, hgate⟩, hone', hendpoint⟩ := observeSections_alerts x (contextOf x input) track
    have hgate_shown : shownGate input = input.1.gate.map report := if_pos hfits
    have hhealth_shown : shownHealth input = input.1.endpoint.map fun endpoint => endpoint.health := if_pos hfits
    have hsnapshot : (contextOf x input).snapshot = input.1 := rfl
    rw [hsnapshot] at hwatched hgate hendpoint
    rw [hannounced, hafter]
    refine ⟨⟨?_, ?_⟩, ⟨hone, hgate.trans ?_⟩, hone', hendpoint.trans ?_⟩
    · show (observeSections x (contextOf x input) track).1.watched = _
      rw [hwatched, h.watched, shownGates_concat, shownHealths_concat, hgate_shown, hhealth_shown]
      refine Prod.ext ?_ ?_
      · cases input.1.gate with
        | none => simp
        | some gate => simp
      · cases input.1.endpoint with
        | none => simp
        | some endpoint => simp [knownHealth_concat]
    · rintro previous hlast
      exact ⟨input, by simp, some.inj hlast⟩
    · rw [hgate_shown, h.watched]
      cases input.1.gate with
      | none => simp
      | some gate =>
        simp only [mem_some_iff, exists_eq_left', map_some, passes_iff, KeyReport.Announced]
        simp [report]
    · rw [hhealth_shown, h.watched]
      cases input.1.endpoint with
      | none => simp
      | some endpoint => simp
  · have hread : ¬ input.1.Read (bridge.trackOf (sessionOf input)) := fun hread => hfits hread.1
    obtain ⟨hafter, hannounced⟩ := observe_not_read x bridge hread (sanitize session_id)
    have hgate_shown : shownGate input = none := if_neg hfits
    have hhealth_shown : shownHealth input = none := if_neg hfits
    rw [hafter, hannounced]
    rw [hgate_shown, hhealth_shown]
    refine ⟨⟨?_, fun previous hlast => ?_⟩, by simp, by simp⟩
    · rw [shownGates_concat, shownHealths_concat, hgate_shown, hhealth_shown]
      simpa using h.watched
    obtain ⟨earlier, hmem, hrevision⟩ := h.revision previous hlast
    exact ⟨earlier, mem_append_left _ hmem, hrevision⟩

/-- The track of a session follows what the snapshots of a run show. -/
theorem watches_run (hsequence : Sequence session_id fed) :
    Watches ((bridgeAfter x fed).trackOf (sanitize session_id)) fed := by
  induction fed using reverseRecOn with
  | nil => exact ⟨rfl, fun previous hlast => nomatch hlast⟩
  | append_singleton fed input ih => exact (watches_concat hsequence (ih hsequence.append_left)).1

/-- When alerts are given in a run. -/
theorem alerts_spec {after : List Input} (hsequence : Sequence session_id (fed ++ input :: after)) :
    ((gateAlerts x fed input).length ≤ 1 ∧ (gateAlerts x fed input ≠ [] ↔
        ∃ report ∈ shownGate input, KeyReport.Announced (shownGates fed) report)) ∧
      (endpointAlerts x fed input).length ≤ 1 ∧ (endpointAlerts x fed input ≠ [] ↔
        ∃ health ∈ shownHealth input, Alarming (knownHealth (shownHealths fed)) health) := by
  have hconcat : Sequence session_id (fed ++ [input]) := by
    rw [append_cons] at hsequence
    exact hsequence.append_left
  exact (watches_concat hconcat (watches_run hconcat.append_left)).2

/-! ## Gates -/

/-- A gate is settled in a run as its reports settle it. -/
theorem gateSettled_iff (hsequence : Sequence session_id fed) (id : String) (revision : ℕ) :
    GateSettled x fed id revision ↔ KeyReport.Settled (shownGates fed) id revision := by
  constructor
  · rintro ⟨before, input, after, gate, rfl, hfits, hgate, rfl, rfl, hsettled⟩
    have hshown : shownGate input = some gate.report := by
      unfold shownGate
      rw [if_pos hfits, hgate]
      rfl
    refine ⟨shownGates before, gate.report, shownGates after, ?_, rfl, rfl, ?_⟩
    · unfold shownGates
      rw [filterMap_append, filterMap_cons_some hshown]
    · refine hsettled.imp (fun hresolved => by simp [report, hresolved]) fun halerts => ?_
      obtain ⟨report, hreport, hannounced⟩ := (alerts_spec hsequence).1.2.mp halerts
      rw [hshown] at hreport
      cases hreport
      exact hannounced
  · rintro ⟨before, report, after, heq, rfl, rfl, hsettled⟩
    obtain ⟨before', input, after', rfl, rfl, hshown, -⟩ := filterMap_split heq
    have halerts := (alerts_spec (x := x) hsequence).1.2
    unfold shownGate at hshown
    split_ifs at hshown with hfits
    obtain ⟨gate, hgate, rfl⟩ := map_eq_some_iff.mp hshown
    refine ⟨before', input, after', gate, rfl, hfits, hgate, rfl, rfl, ?_⟩
    refine hsettled.imp (fun hclosed => ?_) fun hannounced => halerts.mpr ⟨gate.report, ?_, hannounced⟩
    · cases hstatus : gate.status with
      | opened => simp [report, hstatus] at hclosed
      | resolved => rfl
    · unfold shownGate
      rw [if_pos hfits, hgate]
      rfl

/-- Alerts about gates are given once if and only if open gates climb. -/
theorem gatesOnce_iff (hsequence : Sequence session_id fed) : GatesOnce x fed ↔ GatesClimb fed := by
  refine forall_congr' fun before => forall_congr' fun input => forall_congr' fun after => forall_congr' fun heq => ?_
  subst heq
  obtain ⟨hone, halerts⟩ := (alerts_spec (x := x) hsequence).1
  rw [halerts, and_iff_right hone]
  cases hshown : shownGate input with
  | none => simp
  | some report =>
    have hgate : ∃ gate ∈ input.1.gate, report = gate.report := by
      unfold shownGate at hshown
      split_ifs at hshown
      obtain ⟨gate, hgate, heq⟩ := map_eq_some_iff.mp hshown
      exact ⟨gate, hgate, heq.symm⟩
    obtain ⟨gate, hgate, rfl⟩ := hgate
    rw [mem_def] at hgate
    simp only [mem_some_iff, exists_eq_left', forall_eq', hgate]
    rw [← rises_iff]
    refine imp_congr_right fun _ => forall_congr' fun revision => imp_congr_left ?_
    exact gateSettled_iff hsequence.append_left gate.id revision

/-! ## The endpoint -/

/-- A health that is reported now was announced since the endpoint was well. -/
def Repeated (healths : List EndpointHealth) (health : EndpointHealth) : Prop :=
  ∃ earlier between, healths = earlier ++ health :: between ∧ Alarming (knownHealth earlier) health ∧ .ok ∉ between

theorem sinceOk_append {healths between : List EndpointHealth} (h : .ok ∉ between) :
    sinceOk (healths ++ between) = between.reverse ++ sinceOk healths := by
  unfold sinceOk
  rw [reverse_append, takeWhile_append_of_pos]
  intro health hmem
  simp only [ne_eq, decide_eq_true_eq]
  rintro rfl
  exact h (mem_reverse.mp hmem)

/-- The reports split where the endpoint was last well. -/
theorem sinceOk_split :
    ∃ old, healths = old ++ (sinceOk healths).reverse ∧ sinceOk old = [] ∧ .ok ∉ (sinceOk healths).reverse := by
  refine ⟨(healths.reverse.dropWhile fun health => decide (health ≠ .ok)).reverse, ?_, ?_, ?_⟩
  · unfold sinceOk
    rw [← reverse_append, takeWhile_append_dropWhile, reverse_reverse]
  · unfold sinceOk
    rw [reverse_reverse]
    cases hrest : healths.reverse.dropWhile fun health => decide (health ≠ .ok) with
    | nil => rfl
    | cons health rest =>
      have hne : (healths.reverse.dropWhile fun health => decide (health ≠ .ok)) ≠ [] := by
        rw [hrest]
        exact cons_ne_nil _ _
      have hhead := head_dropWhile_not _ hne
      simp only [hrest, head_cons] at hhead
      rw [takeWhile_cons_of_neg (by simpa using hhead)]
  · intro hmem
    have hnot := mem_takeWhile_imp (mem_reverse.mp hmem)
    simp at hnot

/-- An announced health is not a repeated one if and only if the endpoint, when it fails right after it
was degraded, has not failed before since it was well. -/
theorem repeated_iff : (Alarming (knownHealth healths) health → ¬ Repeated healths health) ↔
      (health = .failed → ∀ rest, sinceOk healths = .degraded :: rest → .failed ∉ rest) := by
  constructor
  · rintro honce rfl rest hsince hmem
    refine honce ((alarming_iff healths .failed).mpr ⟨by decide, .inr ⟨rfl, rest, hsince⟩⟩) ?_
    -- The first failure since the endpoint was well comes first or after a degradation.
    obtain ⟨old, hsplit, hold, hnone⟩ := sinceOk_split healths
    have hfailed : .failed ∈ (sinceOk healths).reverse := by
      rw [hsince]
      simp [hmem]
    obtain ⟨front, between, heq, hfirst⟩ := eq_append_cons_of_mem hfailed
    rw [heq] at hsplit hnone
    refine ⟨old ++ front, between, by rw [append_assoc]; exact hsplit, ?_, fun hok => ?_⟩
    · rw [alarming_iff, sinceOk_append fun hok => hnone (by simp [hok]), hold, append_nil]
      refine ⟨by decide, ?_⟩
      induction front using reverseRecOn with
      | nil => exact .inl rfl
      | append_singleton front last _ =>
        refine .inr ⟨rfl, front.reverse, ?_⟩
        rw [reverse_append]
        cases last with
        | ok => exact absurd hnone (by simp)
        | degraded => rfl
        | failed => exact absurd hfirst (by simp)
    · exact hnone (by simp [hok])
  · rintro hfirst halarming ⟨earlier, between, rfl, -, hbetween⟩
    have hsince : sinceOk (earlier ++ health :: between) = between.reverse ++ sinceOk (earlier ++ [health]) := by
      rw [append_cons, sinceOk_append hbetween]
    obtain ⟨hne, halarming⟩ := (alarming_iff _ _).mp halarming
    have hhead : sinceOk (earlier ++ [health]) = health :: sinceOk earlier := by
      have hsingle : sinceOk (earlier ++ [health]) = [health].reverse ++ sinceOk earlier :=
        sinceOk_append (by simpa using Ne.symm hne)
      simpa using hsingle
    rw [hsince, hhead] at halarming hfirst
    rcases halarming with hnil | ⟨rfl, rest, hrest⟩
    · simp at hnil
    · refine hfirst rfl rest hrest ?_
      have hmem : EndpointHealth.failed ∈ EndpointHealth.degraded :: rest := by
        rw [← hrest]
        simp
      simpa using hmem

/-- An alert about the endpoint was repeated in a run as its reports say. -/
theorem repeated_run_iff (hsequence : Sequence session_id fed) (health : EndpointHealth) :
    Repeated (shownHealths fed) health ↔ ∃ earlier previous between, fed = earlier ++ previous :: between ∧
        endpointAlerts x earlier previous ≠ [] ∧ shownHealth previous = some health ∧
        ∀ good ∈ between, shownHealth good ≠ some .ok := by
  constructor
  · rintro ⟨earlier, between, heq, halarming, hbetween⟩
    obtain ⟨earlier', previous, between', rfl, rfl, hshown, rfl⟩ := filterMap_split heq
    refine ⟨earlier', previous, between', rfl, ?_, hshown, fun good hmem hgood => ?_⟩
    · exact (alerts_spec hsequence).2.2.mpr ⟨health, hshown, halarming⟩
    · exact hbetween (mem_filterMap.mpr ⟨good, hmem, hgood⟩)
  · rintro ⟨earlier, previous, between, rfl, halerts, hshown, hbetween⟩
    refine ⟨shownHealths earlier, shownHealths between, ?_, ?_, fun hok => ?_⟩
    · unfold shownHealths
      rw [filterMap_append, filterMap_cons_some hshown]
    · obtain ⟨health', hhealth', halarming⟩ := (alerts_spec hsequence).2.2.mp halerts
      rw [hshown] at hhealth'
      cases hhealth'
      exact halarming
    · obtain ⟨good, hmem, hgood⟩ := mem_filterMap.mp hok
      exact hbetween good hmem hgood

/-- Alerts about the endpoint are given once if and only if a failure after a degradation is the first
one since the endpoint was well. -/
theorem endpointsOnce_iff (hsequence : Sequence session_id fed) : EndpointsOnce x fed ↔ NoRelapse fed := by
  refine forall_congr' fun before => forall_congr' fun input => forall_congr' fun after => forall_congr' fun heq => ?_
  subst heq
  obtain ⟨hone, halerts⟩ := (alerts_spec (x := x) hsequence).2
  rw [halerts, and_iff_right hone]
  cases hshown : shownHealth input with
  | none => simp
  | some health =>
    simp only [mem_some_iff, exists_eq_left', some.injEq]
    rw [← repeated_iff, repeated_run_iff (x := x) hsequence.append_left]
    refine imp_congr_right fun _ => ?_
    push Not
    rfl

end Runs

/-! ## Both -/

/-- Alerts are given once: gates for every revision of theirs, the endpoint for every health of an
episode. -/
def AlertsOnce (x : Libraries) (fed : List Input) : Prop := GatesOnce x fed ∧ EndpointsOnce x fed

/-- For a sequence of snapshots of one session with rising revisions, every alert is given once if and
only if open gates climb and the endpoint does not relapse. -/
theorem alerts_once_iff (x : Libraries) (session_id : String) (fed : List Input)
    (hsequence : Sequence session_id fed) : AlertsOnce x fed ↔ GatesClimb fed ∧ NoRelapse fed :=
  and_congr (gatesOnce_iff hsequence) (endpointsOnce_iff hsequence)

namespace Sample

/-- A snapshot of an open gate. -/
def gateShown (revision : ℕ) (id : String) (gate_revision : ℕ) : Input :=
  ({ Snapshot.bare "s" revision with
      gate := some ⟨id, .ask, gate_revision, .opened, none, none, none, []⟩ }, "2026-08-23T12:00:00Z")

/-- A snapshot of the endpoint. -/
def endpointShown (revision : ℕ) (health : EndpointHealth) : Input :=
  ({ Snapshot.bare "s" revision with endpoint := some ⟨health, none⟩ }, "2026-08-23T12:00:00Z")

/-- A gate that is opened again at a higher revision. -/
def gateReopened : List Input := [gateShown 1 "g1" 1, gateShown 2 "g1" 2]

theorem reopened_gate_is_announced_once : Sequence "s" gateReopened ∧ AlertsOnce libraries gateReopened := by
  have hsequence : Sequence "s" gateReopened :=
    ⟨by simp [gateReopened, gateShown, Snapshot.bare], by simp [gateReopened, gateShown, Snapshot.bare]⟩
  refine ⟨hsequence, (alerts_once_iff libraries "s" gateReopened hsequence).mpr ⟨?_, ?_⟩⟩
  · rintro (_ | ⟨first, _ | ⟨second, before⟩⟩) input after heq report hreport hopens
    · exact .inl fun earlier hmem => absurd hmem not_mem_nil
    · obtain ⟨rfl, rfl, rfl⟩ : first = gateShown 1 "g1" 1 ∧ input = gateShown 2 "g1" 2 ∧ after = [] := by
        simpa [gateReopened, eq_comm] using heq
      obtain rfl : ⟨"g1", 2, true⟩ = report := some.inj hreport
      refine .inl fun earlier hmem _ => ?_
      obtain rfl : earlier = ⟨"g1", 1, true⟩ := mem_singleton.mp hmem
      exact Nat.one_lt_two
    · simp [gateReopened] at heq
  · rintro before input after heq hfailed
    have hmem : input ∈ gateReopened := by
      rw [heq]
      simp
    have hnone : ∀ input ∈ gateReopened, shownHealth input = none := by decide
    rw [hnone input hmem] at hfailed
    cases hfailed

/-- A gate that comes back at the same revision after another one. -/
def gatesAlternating : List Input := [gateShown 1 "g1" 1, gateShown 2 "g2" 1, gateShown 3 "g1" 1]

/-- An endpoint that fails, is degraded and fails again. -/
def endpointRelapsing : List Input := [endpointShown 1 .failed, endpointShown 2 .degraded, endpointShown 3 .failed]

/-- A gate and an endpoint are announced twice. -/
theorem alternating_gates_repeat : Sequence "s" gatesAlternating ∧ ¬ GatesOnce libraries gatesAlternating ∧
      Sequence "s" endpointRelapsing ∧ ¬ EndpointsOnce libraries endpointRelapsing := by
  have hgates : Sequence "s" gatesAlternating :=
    ⟨by simp [gatesAlternating, gateShown, Snapshot.bare], by simp [gatesAlternating, gateShown, Snapshot.bare]⟩
  have hendpoint : Sequence "s" endpointRelapsing :=
    ⟨by simp [endpointRelapsing, endpointShown, Snapshot.bare],
      by simp [endpointRelapsing, endpointShown, Snapshot.bare]⟩
  refine ⟨hgates, fun honce => ?_, hendpoint, fun honce => ?_⟩
  · have hclimbs := (gatesOnce_iff hgates).mp honce [gateShown 1 "g1" 1, gateShown 2 "g2" 1]
      (gateShown 3 "g1" 1) [] rfl ⟨"g1", 1, true⟩ rfl rfl
    have hgates : shownGates [gateShown 1 "g1" 1, gateShown 2 "g2" 1] =
      [⟨"g1", 1, true⟩, ⟨"g2", 1, true⟩] := rfl
    rw [hgates] at hclimbs
    rcases hclimbs with hall | ⟨earlier, hmem, -⟩
    · exact absurd (hall ⟨"g1", 1, true⟩ mem_cons_self rfl) (Nat.lt_irrefl 1)
    · exact absurd hmem not_mem_nil
  · have hfirst := (endpointsOnce_iff hendpoint).mp honce
      [endpointShown 1 .failed, endpointShown 2 .degraded] (endpointShown 3 .failed) [] rfl rfl
      [.failed] rfl
    exact hfirst mem_cons_self

end Sample

end Clawhip.Gjc
