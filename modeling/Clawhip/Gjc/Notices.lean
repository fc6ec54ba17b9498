import Clawhip.Gjc.Bridge

/-!
# The notices of a snapshot

An event of the bridge is known downstream by its kind and its key, a hash of its identity. This file
says which key each builder gives, and which section of a snapshot an event comes from.
-/

namespace Clawhip.Gjc

open List Option

open SessionTrack

/-! ## Keys -/

/-- The key by which a consumer knows an event. -/
def idempotencyKey (event : IncomingEvent) : Option String := (event.payload.get "idempotency_key").bind Json.asStr

namespace SnapshotContext

variable (x : Libraries) (context : SnapshotContext)

/-- An event that inserts no other key after the base fields has the key of its identity. -/
theorem idempotencyKey_finishEvent (kind kind' status : String) (parts : List String)
    {fields : List Field} (h : ∀ field ∈ fields, field.1 ≠ "idempotency_key") :
    idempotencyKey (finishEvent kind' (insertFields (context.baseObject x kind status parts) fields)) =
        some (context.eventId x kind parts) := by
  have hbase : OrdMap.get (context.baseObject x kind status parts) "idempotency_key" =
      some (.string (context.eventId x kind parts)) := by
    unfold baseObject baseFields
    rw [get_insertFields]
    simp [text, textIfAny, textIfSome, count]
  show (OrdMap.get (insertFields _ fields) "idempotency_key").bind Json.asStr = _
  rw [get_insertFields_of_ne _ h, hbase]
  rfl

theorem idempotencyKey_lifecycleEvent (kind status : String) (attempt : ℕ)
    (summary error_message : Option String) (parts : List String) {extra : List Field}
    (hextra : ∀ field ∈ extra, field.1 ≠ "idempotency_key") :
    idempotencyKey (context.lifecycleEvent x kind status attempt summary error_message parts extra) =
      some (context.eventId x kind ((if 0 < attempt then [toString attempt] else []) ++ parts)) := by
  refine context.idempotencyKey_finishEvent x _ _ _ _ fun field hfield => ?_
  simp only [mem_append, mem_cons, not_mem_nil, or_false] at hfield
  rcases hfield with (hfield | rfl | rfl) | hfield
  · split_ifs at hfield
    · rw [mem_singleton.mp hfield]
      simp [count]
    · exact absurd hfield not_mem_nil
  · simp [textIfAny, textIfSome]
  · simp [textIfSome]
  · exact hextra field hfield

theorem idempotencyKey_gateEvent (kind : String) (gate : Gate) :
    idempotencyKey (context.gateEvent x kind gate) = some (context.eventId x kind []) := by
  refine context.idempotencyKey_finishEvent x _ _ _ _ ?_
  simp [text, textIfAny, textIfSome, count]

end SnapshotContext

section Notice

variable {x : Libraries} {context : SnapshotContext}

def notice (event : IncomingEvent) : String × Option String := (event.kind, idempotencyKey event)

/-- The kind and the key that a notice shown by a snapshot has. -/
def shownKey (x : Libraries) (context : SnapshotContext) (shown : String × List String) :
    String × Option String :=
  (shown.1, some (context.eventId x shown.1 shown.2))

theorem notice_lifecycleEvent (kind status : String) (attempt : ℕ) (summary error_message : Option String)
    (parts : List String) {extra : List Field} (hextra : ∀ field ∈ extra, field.1 ≠ "idempotency_key") :
    notice (context.lifecycleEvent x kind status attempt summary error_message parts extra) =
      shownKey x context (kind, (if 0 < attempt then [toString attempt] else []) ++ parts) :=
  Prod.ext rfl (context.idempotencyKey_lifecycleEvent x _ _ _ _ _ _ hextra)

end Notice

/-! ## Which section announces what -/

/-- The kinds of notice that a turn's end gives rise to. -/
def TERMINAL_KINDS : List String := ["session.finished", "session.failed"]

/-- The kinds of notice that a gate gives rise to. -/
def GATE_KINDS : List String := ["workflow.question", "workflow.gate"]

/-- What is said of a turn that is complete or failed. -/
def endShown (turn : Turn) : String × List String :=
  if turn.state = .failed then ("session.failed", ["failed"]) else ("session.finished", ["complete"])

section Kinds

variable {x : Libraries} {context : SnapshotContext} {track : SessionTrack} {event : IncomingEvent}

/-- What an event of a turn's section is about. -/
inductive TurnNotice (x : Libraries) (context : SnapshotContext) (track : SessionTrack) (turn : Turn)
    (event : IncomingEvent) : Prop where
  /-- A retry. -/
  | retry (hkind : event.kind = "session.retry-needed")
  /-- The start of the session, at its first accepted active turn. -/
  | started (hfirst : track.session_started_emitted = false)
      (hmarked : (observeTurn x context track).1.session_started_emitted = true)
      (hnotice : notice event = shownKey x context ("session.started", []))
  /-- The end of the turn. -/
  | ended (hstate : turn.state = .complete ∨ turn.state = .failed)
      (hannounces : (track.onTurn (sanitize turn.id)).announcesEnd turn = true)
      (hnotice : notice event = shownKey x context (endShown turn))
  /-- A stall. -/
  | stalled (hkind : event.kind = "session.stalled")

@[simp] theorem onTurn_session_started_emitted (turn_id : String) :
    (track.onTurn turn_id).session_started_emitted = track.session_started_emitted := by
  unfold onTurn
  split_ifs
  all_goals rfl

theorem turnNotice_of_mem {turn : Turn} (hturn : context.snapshot.turn = some turn)
    (h : event ∈ (observeTurn x context track).2) : TurnNotice x context track turn event := by
  have hsection : observeTurn x context track = (observeAttempt x context turn).andThen
      (observePhase x context turn) (track.onTurn (sanitize turn.id)) := by
    unfold observeTurn
    rw [hturn]
  rw [hsection] at h
  rcases mem_append.mp h with h | h
  · unfold observeAttempt at h
    split_ifs at h
    · rw [mem_singleton.mp h]
      exact .retry rfl
    · exact absurd h not_mem_nil
  · have hended (failed : Bool) (hstate : turn.state = if failed then .failed else .complete)
        (h : event ∈ (observeTerminal x context turn failed
          (observeAttempt x context turn (track.onTurn (sanitize turn.id))).1).2) :
        TurnNotice x context track turn event := by
      unfold observeTerminal at h
      dsimp only at h
      by_cases hannounces : announcesEnd (observeAttempt x context turn (track.onTurn (sanitize turn.id))).1 turn = true
      · rw [if_pos hannounces] at h
        rw [mem_singleton.mp h]
        refine .ended ?_ hannounces ?_
        · cases failed
          · exact .inl hstate
          · exact .inr hstate
        · have hfields : ∀ field ∈ ((observeAttempt x context turn (track.onTurn
              (sanitize turn.id))).1.prompt_command.map fun command_id =>
                text "command_id" command_id).toList, field.1 ≠ "idempotency_key" := by
            intro field hfield
            obtain ⟨_, -, rfl⟩ := map_eq_some_iff.mp (mem_toList.mp hfield)
            simp [text]
          unfold endShown
          cases failed
          · rw [hstate]
            exact notice_lifecycleEvent _ _ _ _ _ _ hfields
          · rw [hstate]
            exact notice_lifecycleEvent _ _ _ _ _ _ hfields
      · rw [if_neg hannounces] at h
        exact absurd h not_mem_nil
    have hidle (h : event ∈ (observeIdle x context turn
        (observeAttempt x context turn (track.onTurn (sanitize turn.id))).1).2) :
        TurnNotice x context track turn event := by
      unfold observeIdle at h
      split_ifs at h
      · rw [mem_singleton.mp h]
        exact .stalled rfl
      · exact absurd h not_mem_nil
    unfold observePhase at h
    cases hstate : turn.state with
    | idle | aborted => rw [hstate] at h; exact hidle h
    | complete => rw [hstate] at h; exact hended false hstate h
    | failed => rw [hstate] at h; exact hended true hstate h
    | waitingInput =>
      rw [hstate] at h
      exact absurd h not_mem_nil
    | active =>
      rw [hstate] at h
      unfold observeActive at h
      dsimp only at h
      split_ifs at h with hstarts
      · rw [mem_singleton.mp h]
        refine .started ?_ ?_ (notice_lifecycleEvent _ _ _ _ _ _ fun _ h => absurd h not_mem_nil)
        · simp only [Bool.and_eq_true, Bool.not_eq_true'] at hstarts
          exact (onTurn_session_started_emitted _).symm.trans hstarts.2
        · rw [hsection]
          unfold Reading.andThen observePhase
          rw [hstate]
          exact Bool.or_eq_true_iff.mpr (.inr hstarts)
      · exact absurd h not_mem_nil

/-- An event of the gate's section is about an open gate that starts an episode. -/
theorem gateNotice_of_mem (h : event ∈ (observeGate x context track).2) :
    ∃ gate ∈ context.snapshot.gate, gate.status = .opened ∧ track.newEpisode gate = true ∧
      notice event = shownKey x context (gateEventKind gate.kind, []) := by
  unfold observeGate at h
  cases hgate : context.snapshot.gate with
  | none =>
    rw [hgate] at h
    exact absurd h not_mem_nil
  | some gate =>
    rw [hgate] at h
    dsimp only at h
    refine ⟨gate, rfl, ?_⟩
    cases hstatus : gate.status with
    | opened =>
      rw [hstatus] at h
      dsimp only at h
      split_ifs at h with hepisode
      · rw [mem_singleton.mp h]
        exact ⟨rfl, hepisode, Prod.ext rfl (context.idempotencyKey_gateEvent x _ gate)⟩
      · exact absurd h not_mem_nil
    | resolved =>
      rw [hstatus] at h
      dsimp only at h
      split_ifs at h
      · exact absurd h not_mem_nil
      · exact absurd h not_mem_nil

/-- The kind of the notice of an open gate. -/
theorem gateEventKind_mem (gate_kind : GateKind) : gateEventKind gate_kind ∈ GATE_KINDS := by
  cases gate_kind
  · exact mem_cons_self
  · exact mem_cons_of_mem _ mem_cons_self

theorem kind_of_mem_absentTurn (h : event ∈ (observeAbsentTurn x context track).2) :
    event.kind = "session.stalled" := by
  unfold observeAbsentTurn at h
  split_ifs at h
  · cases hflight : track.in_flight_turn with
    | none =>
      rw [hflight] at h
      exact absurd h not_mem_nil
    | some turn_id =>
      rw [hflight] at h
      dsimp only at h
      split_ifs at h
      · rw [mem_singleton.mp h]
        rfl
      · exact absurd h not_mem_nil
  · exact absurd h not_mem_nil

theorem kind_of_mem_prompt (h : event ∈ (observePrompt x context track).2) :
    event.kind = "session.prompt-submitted" := by
  unfold observePrompt at h
  cases hprompt : context.snapshot.prompt with
  | none =>
    rw [hprompt] at h
    exact absurd h not_mem_nil
  | some prompt =>
    rw [hprompt] at h
    dsimp only at h
    split_ifs at h
    · rw [mem_singleton.mp h]
      rfl
    · exact absurd h not_mem_nil

theorem kind_of_mem_model (h : event ∈ (observeModel x context track).2) : event.kind = "session.model-changed" := by
  have h := mem_toList.mp h
  unfold SnapshotContext.modelChangeEvent at h
  dsimp only at h
  split_ifs at h
  rw [← some.inj h]
  rfl

theorem kind_of_mem_endpoint (h : event ∈ (observeEndpoint x context track).2) :
    event.kind = "session.endpoint-failed" := by
  unfold observeEndpoint at h
  cases hendpoint : context.snapshot.endpoint with
  | none =>
    rw [hendpoint] at h
    exact absurd h not_mem_nil
  | some endpoint =>
    rw [hendpoint] at h
    dsimp only at h
    split_ifs at h
    all_goals first
      | exact absurd h not_mem_nil
      | rw [mem_singleton.mp h]
        rfl

/-! ## A whole snapshot -/

section

variable (h : event ∈ (observeSections x context track).2)
include h

end

end Kinds

end Clawhip.Gjc
