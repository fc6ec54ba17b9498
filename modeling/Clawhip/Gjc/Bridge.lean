import Clawhip.Gjc.BridgeEvents
import Clawhip.Lib.Machine

/-!
# The bridge

`GjcEventBridge` of `src/gjc_sdk_events.rs`: a track for every session, and `observe`, which reduces a
snapshot to the events that it gives rise to. A snapshot is read section by section, each of which
updates the track and may announce something.
-/

namespace Clawhip.Gjc

/-- The largest `u64`. -/
def U64_MAX : ℕ := 2 ^ 64 - 1

structure SessionTrack where
  last_revision : Option ℕ := none
  turn_id : Option String := none
  attempts : ℕ := 0
  terminal_emitted_turn : Option String := none
  prompt_command : Option String := none
  prompt_turn_id : Option String := none
  last_prompt_command : Option String := none
  gate_episode : Option (String × ℕ) := none
  model : Option String := none
  profile : Option String := none
  endpoint_health : Option EndpointHealth := none
  endpoint_alerted : Bool := false
  endpoint_episode : ℕ := 0
  session_started_emitted : Bool := false
  in_flight_turn : Option String := none
  unexpected_idle_emitted_turn : Option String := none

structure BridgeOutcome where
  events : List IncomingEvent := []
  duplicate : Bool := false
  stale : Bool := false

structure BridgeStats where
  snapshots : ℕ := 0
  duplicates : ℕ := 0
  stale : ℕ := 0
  emitted : ℕ := 0

structure GjcEventBridge where
  sessions : OrdMap String SessionTrack := []
  stats : BridgeStats := {}

/-! ## Sections -/

/-- What a section of a snapshot does: the track after it, and what it announces. -/
abbrev Reading := SessionTrack → SessionTrack × List IncomingEvent

/-- Read two sections one after the other. -/
def Reading.andThen (first second : Reading) : Reading := fun track =>
  let read := first track
  let read' := second read.1
  (read'.1, read.2 ++ read'.2)

namespace SessionTrack

/-- A turn other than the one shown last starts afresh. -/
def onTurn (track : SessionTrack) (turn_id : String) : SessionTrack :=
  if track.turn_id = some turn_id then track
  else { track with
    turn_id := some turn_id
    attempts := 0
    terminal_emitted_turn := none
    prompt_command := none }

@[simp] theorem onTurn_in_flight_turn (track : SessionTrack) (turn_id : String) :
    (track.onTurn turn_id).in_flight_turn = track.in_flight_turn := by
  unfold onTurn
  split_ifs
  all_goals rfl

@[simp] theorem onTurn_unexpected_idle_emitted_turn (track : SessionTrack) (turn_id : String) :
    (track.onTurn turn_id).unexpected_idle_emitted_turn = track.unexpected_idle_emitted_turn := by
  unfold onTurn
  split_ifs
  all_goals rfl

/-- A turn's prompt is accepted: the turn says so, or a prompt was announced for it. -/
def promptAccepted (track : SessionTrack) (turn : Turn) : Bool := turn.prompt_accepted || track.prompt_command.isSome

variable (x : Libraries) (context : SnapshotContext)

/-- An accepted turn that counts more attempts than before needed a retry. -/
def observeAttempt (turn : Turn) : Reading := fun track =>
  ({ track with attempts := max track.attempts turn.attempt },
    if track.promptAccepted turn && decide (track.attempts < turn.attempt) then
      [context.lifecycleEvent x "session.retry-needed" "retry-needed" turn.attempt
        (some ("retry attempt " ++ toString turn.attempt)) none [] [count "attempt" turn.attempt]]
    else [])

/-- An active turn is in flight if its prompt is accepted; the first one starts the session. -/
def observeActive (turn : Turn) : Reading := fun track =>
  let accepted := track.promptAccepted turn
  let starts := accepted && !track.session_started_emitted
  ({ track with
      in_flight_turn := if accepted then some (sanitize turn.id) else none
      unexpected_idle_emitted_turn := none
      session_started_emitted := track.session_started_emitted || starts },
    if starts then
      [context.lifecycleEvent x "session.started" "started" 0 context.snapshot.summary none [] []]
    else [])

/-- Why a turn failed. -/
def failureReason (snapshot : Snapshot) (turn : Turn) : String :=
  (((turn.error_summary <|> snapshot.summary).map publicFailureSummary).filter
    fun value => !value.isEmpty).getD "provider turn failed"

/-- A terminal turn is to be announced: it is accepted and was not announced before. -/
def announcesEnd (track : SessionTrack) (turn : Turn) : Bool :=
  track.promptAccepted turn && decide (track.terminal_emitted_turn ≠ some (sanitize turn.id))

/-- An accepted turn that is complete or failed is announced once. -/
def observeTerminal (turn : Turn) (failed : Bool) : Reading := fun track =>
  let error := if failed then some (failureReason context.snapshot turn) else none
  let command_fields := (track.prompt_command.map fun command_id => text "command_id" command_id)
  ({ track with
      terminal_emitted_turn :=
        if track.announcesEnd turn then some (sanitize turn.id) else track.terminal_emitted_turn
      in_flight_turn := none },
    if track.announcesEnd turn then
      [context.lifecycleEvent x (if failed then "session.failed" else "session.finished")
        (if failed then "failed" else "finished") 0
        (if failed then error else context.snapshot.summary) error
        [if failed then "failed" else "complete"] command_fields.toList]
    else [])

/-- Why a turn in flight stalled. -/
def stallReason (turn : Turn) : String :=
  if turn.state = .aborted then "accepted turn was aborted without a successful terminal receipt"
  else (turn.error_summary.map publicFailureSummary).getD
    "accepted turn became idle without a terminal receipt"

/-- A turn is to be announced as stalled: it is in flight and was not announced before. -/
def announcesStall (track : SessionTrack) (turn : Turn) : Bool :=
  decide (track.in_flight_turn = some (sanitize turn.id)) &&
    decide (track.unexpected_idle_emitted_turn ≠ some (sanitize turn.id))

/-- A turn in flight that is idle or aborted stalled. -/
def observeIdle (turn : Turn) : Reading := fun track =>
  ({ track with
      unexpected_idle_emitted_turn :=
        if track.announcesStall turn then some (sanitize turn.id)
        else track.unexpected_idle_emitted_turn
      in_flight_turn := none },
    if track.announcesStall turn then
      [context.lifecycleEvent x "session.stalled" "unexpected-idle" 0 (some (stallReason turn))
        (some (stallReason turn)) ["unexpected-idle"] []]
    else [])

/-- A waiting turn is in flight if its prompt is accepted and no other turn is. -/
def observeWaiting (turn : Turn) : Reading := fun track =>
  ({ track with
      in_flight_turn :=
        if track.promptAccepted turn && track.in_flight_turn.isNone then some (sanitize turn.id)
        else track.in_flight_turn }, [])

def observePhase (turn : Turn) : Reading :=
  match turn.state with
  | .active => observeActive x context turn
  | .complete => observeTerminal x context turn false
  | .failed => observeTerminal x context turn true
  | .idle => observeIdle x context turn
  | .aborted => observeIdle x context turn
  | .waitingInput => observeWaiting turn

/-- The turn that a snapshot shows. -/
def observeTurn : Reading := fun track =>
  match context.snapshot.turn with
  | none => (track, [])
  | some turn =>
    (observeAttempt x context turn).andThen (observePhase x context turn)
      (track.onTurn (sanitize turn.id))

/-- The notice that a turn in flight is gone. -/
def disappearedEvent (turn_id : String) : IncomingEvent :=
  let message := "accepted turn disappeared without a terminal receipt"
  context.lifecycleEvent x "session.stalled" "unexpected-idle" 0 (some message) (some message)
    [turn_id, "unexpected-idle"] []

/-- A turn in flight that the snapshot shows to be gone. -/
def observeAbsentTurn : Reading := fun track =>
  if context.snapshot.turn_present && context.snapshot.turn.isNone then
    match track.in_flight_turn with
    | none => (track, [])
    | some turn_id =>
      if track.unexpected_idle_emitted_turn ≠ some turn_id then
        ({ track with in_flight_turn := none, unexpected_idle_emitted_turn := some turn_id },
          [disappearedEvent x context turn_id])
      else ({ track with in_flight_turn := none }, [])
  else (track, [])

/-- A prompt was accepted for a turn that can run it. -/
def submits (snapshot : Snapshot) (prompt : Prompt) (track : SessionTrack) : Bool :=
  let command_id := sanitize prompt.command_id
  let current_turn_id := snapshot.turn.map fun turn => turn.id
  !command_id.isEmpty && decide (prompt.status = .accepted) &&
    (snapshot.turn.any fun turn => decide (turn.state = .active ∨ turn.state = .waitingInput)) &&
    (decide (track.last_prompt_command ≠ some command_id) || decide (track.prompt_turn_id = current_turn_id)) &&
    decide (track.prompt_command ≠ some command_id)

/-- The prompt that a snapshot shows. -/
def observePrompt : Reading := fun track =>
  match context.snapshot.prompt with
  | none => (track, [])
  | some prompt =>
    if submits context.snapshot prompt track then
      let command_id := sanitize prompt.command_id
      ({ track with
          prompt_command := some command_id
          prompt_turn_id := context.snapshot.turn.map fun turn => turn.id
          last_prompt_command := some command_id },
        [context.lifecycleEvent x "session.prompt-submitted" "prompt-submitted" 0
          context.snapshot.summary none [command_id] [text "command_id" command_id]])
    else (track, [])

/-- The kind of a gate's notice. -/
def gateEventKind : GateKind → String
  | .ask => "workflow.question"
  | .workflow => "workflow.gate"

/-- An open gate starts an episode: it is another gate than the tracked one, or a later revision. -/
def newEpisode (track : SessionTrack) (gate : Gate) : Bool :=
  track.gate_episode.all fun tracked => gate.id ≠ tracked.1 ∨ tracked.2 < gate.revision

/-- The gate that a snapshot shows. -/
def observeGate : Reading := fun track =>
  match context.snapshot.gate with
  | none => (track, [])
  | some gate =>
    match gate.status with
    | .opened =>
      if track.newEpisode gate then
        ({ track with gate_episode := some (gate.id, gate.revision) },
          [context.gateEvent x (gateEventKind gate.kind) gate])
      else (track, [])
    | .resolved =>
      if track.gate_episode.all fun tracked => gate.id ≠ tracked.1 ∨ tracked.2 ≤ gate.revision then
        ({ track with gate_episode := some (gate.id, gate.revision) }, [])
      else (track, [])

/-- The model and the profile that a snapshot shows. -/
def observeModel : Reading := fun track =>
  let change := context.modelChangeEvent x track.model track.profile
  ({ track with model := change.2.1, profile := change.2.2 }, change.1.toList)

/-- The endpoint that a snapshot shows. -/
def observeEndpoint : Reading := fun track =>
  match context.snapshot.endpoint with
  | none => (track, [])
  | some endpoint =>
    let episode := max track.endpoint_episode context.snapshot.endpoint_episode
    if endpoint.health = .ok then
      ({ track with
          endpoint_alerted := false, endpoint_episode := episode, endpoint_health := some .ok }, [])
    else
      let escalated := decide (track.endpoint_health = some .degraded) &&
        decide (endpoint.health = .failed)
      if !track.endpoint_alerted || escalated then
        let fresh := !track.endpoint_alerted &&
          (track.endpoint_health.isNone || decide (track.endpoint_health = some .ok))
        let episode := if fresh then max (min (episode + 1) U64_MAX) 1 else episode
        ({ track with
            endpoint_alerted := true
            endpoint_episode := episode
            endpoint_health := some endpoint.health }, [context.endpointFailedEvent x endpoint episode])
      else ({ track with endpoint_episode := episode, endpoint_health := some endpoint.health }, [])

/-- Everything that a new snapshot shows. -/
def observeSections : Reading :=
  (observeTurn x context).andThen <| (observeAbsentTurn x context).andThen <|
    (observePrompt x context).andThen <| (observeGate x context).andThen <|
    (observeModel x context).andThen (observeEndpoint x context)

end SessionTrack

/-! ## Observing -/

/-- The checks that `observe` makes before it looks at the session's track. -/
def Snapshot.check (snapshot : Snapshot) : Except String Unit :=
  match snapshot.mapping_error with
  | some error => .error error
  | none =>
    if !validId snapshot.session_id then .error "gjc_bridge_invalid_session_id"
    else if snapshot.gate.any fun gate => !validId gate.id then
      .error "gjc_bridge_invalid_gate_id"
    else if snapshot.gate.any fun gate => decide (gate.revision = 0) then
      .error "gjc_bridge_invalid_gate_revision"
    else if snapshot.prompt.any fun prompt => !validId prompt.command_id then
      .error "gjc_bridge_invalid_prompt_id"
    else .ok ()

/-- The check of the turn, which comes after the revision. -/
def Snapshot.turnFits (snapshot : Snapshot) : Bool := snapshot.turn.all fun turn => validId turn.id

namespace GjcEventBridge

variable (x : Libraries)

/-- The track of a session; a session not seen before starts with an empty one. -/
def trackOf (bridge : GjcEventBridge) (session_id : String) : SessionTrack := (bridge.sessions.get session_id).getD {}

/-- `GjcEventBridge::observe` at the time `now`. -/
def observe (bridge : GjcEventBridge) (snapshot : Snapshot) (now : String) :
    GjcEventBridge × Except String BridgeOutcome :=
  let bridge := { bridge with
    stats := { bridge.stats with snapshots := bridge.stats.snapshots + 1 } }
  match snapshot.check with
  | .error error => (bridge, .error error)
  | .ok () =>
    let session_id := sanitize snapshot.session_id
    let track := bridge.trackOf session_id
    -- `or_default` keeps an empty track even when the snapshot is refused afterwards.
    let bridge := { bridge with sessions := bridge.sessions.insert session_id track }
    if track.last_revision.any fun previous => decide (snapshot.revision < previous) then
      ({ bridge with stats := { bridge.stats with stale := bridge.stats.stale + 1 } }, .ok { stale := true })
    else if track.last_revision = some snapshot.revision then
      ({ bridge with stats := { bridge.stats with duplicates := bridge.stats.duplicates + 1 } },
        .ok { duplicate := true })
    else if !snapshot.turnFits then (bridge, .error "gjc_bridge_invalid_turn_id")
    else
      let context := SnapshotContext.new x session_id snapshot now
      let read := track.observeSections x context
      let track := { read.1 with last_revision := some snapshot.revision }
      ({ sessions := bridge.sessions.insert session_id track
         stats := { bridge.stats with emitted := bridge.stats.emitted + read.2.length } },
        .ok { events := read.2 })

end GjcEventBridge

/-! ## One snapshot -/

/-- A snapshot and the time at which it is fed. -/
abbrev Input := Snapshot × String

/-- What an answer announces. -/
def announced : Except String BridgeOutcome → List IncomingEvent
  | .ok outcome => outcome.events
  | .error _ => []

/-- What a bridge announces when it is fed a snapshot. -/
def announcedBy (x : Libraries) (bridge : GjcEventBridge) (input : Input) : List IncomingEvent :=
  announced (bridge.observe x input.1 input.2).2

/-- A snapshot that passes every check. -/
def Snapshot.Fits (snapshot : Snapshot) : Prop := snapshot.check = .ok () ∧ snapshot.turnFits = true

/-- A snapshot that is read: it fits and its revision is above the one of the track. -/
def Snapshot.Read (snapshot : Snapshot) (track : SessionTrack) : Prop :=
  snapshot.Fits ∧ ∀ previous ∈ track.last_revision, previous < snapshot.revision

/-- The context in which a snapshot is read. -/
def contextOf (x : Libraries) (input : Input) : SnapshotContext :=
  SnapshotContext.new x (sanitize input.1.session_id) input.1 input.2

/-- The session that a snapshot is about. -/
def sessionOf (input : Input) : String := sanitize input.1.session_id

/-- A snapshot that is read updates its session's track section by section. -/
theorem observe_read (x : Libraries) (bridge : GjcEventBridge) {input : Input}
    (h : input.1.Read (bridge.trackOf (sessionOf input))) :
    (bridge.observe x input.1 input.2).1.trackOf (sessionOf input) =
        { ((bridge.trackOf (sessionOf input)).observeSections x (contextOf x input)).1 with
          last_revision := some input.1.revision } ∧
      announced (bridge.observe x input.1 input.2).2 =
        ((bridge.trackOf (sessionOf input)).observeSections x (contextOf x input)).2 := by
  obtain ⟨⟨hcheck, hturn⟩, hrevision⟩ := h
  set track := bridge.trackOf (sessionOf input) with htrack
  have hstale : (track.last_revision.any fun previous => decide (input.1.revision < previous)) = false := by
    cases hlast : track.last_revision with
    | none => rfl
    | some previous =>
      have hlt := hrevision previous (by rw [hlast]; rfl)
      simp only [Option.any_some, decide_eq_false_iff_not, not_lt]
      omega
  have hduplicate : track.last_revision ≠ some input.1.revision := by
    intro hlast
    have hlt := hrevision input.1.revision (by rw [hlast]; rfl)
    omega
  have hobserve : bridge.observe x input.1 input.2 =
      ({ sessions := (bridge.sessions.insert (sessionOf input) track).insert (sessionOf input)
           { (track.observeSections x (contextOf x input)).1 with
             last_revision := some input.1.revision }
         stats := { bridge.stats with
           snapshots := bridge.stats.snapshots + 1
           emitted := bridge.stats.emitted + (track.observeSections x (contextOf x input)).2.length } },
        .ok { events := (track.observeSections x (contextOf x input)).2 }) := by
    have htrack' : ({ bridge with stats := { bridge.stats with
        snapshots := bridge.stats.snapshots + 1 } } : GjcEventBridge).trackOf
          (sanitize input.1.session_id) = track := rfl
    unfold GjcEventBridge.observe
    simp only [hcheck, htrack', hstale, hduplicate, hturn, Bool.false_eq_true, if_false, Bool.not_true]
    rfl
  rw [hobserve]
  refine ⟨?_, rfl⟩
  unfold GjcEventBridge.trackOf
  rw [OrdMap.get_insert_self]
  rfl

/-- A snapshot that is not read announces nothing and leaves every track as it is. -/
theorem observe_not_read (x : Libraries) (bridge : GjcEventBridge) {input : Input}
    (h : ¬ input.1.Read (bridge.trackOf (sessionOf input))) (session_id : String) :
    (bridge.observe x input.1 input.2).1.trackOf session_id = bridge.trackOf session_id ∧
      announced (bridge.observe x input.1 input.2).2 = [] := by
  -- An empty track that `or_default` adds reads like a missing one.
  have hentry (stats : BridgeStats) : (GjcEventBridge.mk (bridge.sessions.insert (sessionOf input)
      (bridge.trackOf (sessionOf input))) stats).trackOf session_id = bridge.trackOf session_id := by
    unfold GjcEventBridge.trackOf
    by_cases hsession : session_id = sessionOf input
    · rw [hsession, OrdMap.get_insert_self]
      rfl
    · rw [OrdMap.get_insert_ne _ _ hsession]
  unfold GjcEventBridge.observe
  cases hcheck : input.1.check with
  | error error => exact ⟨rfl, rfl⟩
  | ok _ =>
    dsimp only
    split_ifs with hstale hduplicate hturn
    · exact ⟨hentry _, rfl⟩
    · exact ⟨hentry _, rfl⟩
    · exact ⟨hentry _, rfl⟩
    · refine absurd ⟨⟨hcheck, by simpa using hturn⟩, fun previous hlast => ?_⟩ h
      have hlast : (bridge.trackOf (sessionOf input)).last_revision = some previous := hlast
      have hge : ¬ input.1.revision < previous := fun hlt => hstale <| by
        show ((bridge.trackOf (sessionOf input)).last_revision.any fun previous =>
          decide (input.1.revision < previous)) = true
        rw [hlast]
        simpa using hlt
      have hne : previous ≠ input.1.revision := fun heq => hduplicate (by rw [← heq]; exact hlast)
      omega

/-! ## Runs -/

/-- The bridge as a machine that is fed snapshots. -/
def bridgeMachine (x : Libraries) : Machine GjcEventBridge Input (Except String BridgeOutcome) where
  step bridge input := bridge.observe x input.1 input.2

/-- The bridge after a run from the empty one. -/
def bridgeAfter (x : Libraries) (fed : List Input) : GjcEventBridge := (bridgeMachine x).run {} fed

namespace Sample

/-- The libraries of the samples, which know how to write one time. -/
def libraries : Libraries := .ofReformat fun value => if value = "2026-08-23T12:00:00Z" then some value else none

/-- A snapshot of one turn. -/
def turnShown (revision : ℕ) (state : TurnPhase) (prompt_accepted : Bool) : Input :=
  ({ Snapshot.bare "s" revision with
      turn := some ⟨"t", state, prompt_accepted, 0, none⟩
      turn_present := true }, "2026-08-23T12:00:00Z")

/-- The same with an accepted prompt next to the turn. -/
def promptShown (revision : ℕ) (state : TurnPhase) : Input :=
  ({ (turnShown revision state false).1 with prompt := some ⟨"c", .accepted⟩ }, "2026-08-23T12:00:00Z")

end Sample

end Clawhip.Gjc
