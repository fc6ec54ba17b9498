import Clawhip.Gjc.Bridge

/-!
# How accepted turns end

Whether a turn whose prompt was accepted is announced when it ends. The bridge keeps no record of
accepted turns: a turn's acceptance survives in `in_flight_turn`, which an idle, aborted or absent
turn is compared with, and in `prompt_command`, which a terminal turn falls back on. `Caught` says
what these have to be when a turn ends; `ends_announced` is the law for the runs that meet it.
-/

namespace Clawhip.Gjc

open List Option

open SessionTrack

variable (x : Libraries)

/-! ## The law -/

/-- The kinds of event that say how a turn ended. -/
def END_KINDS : List String := ["session.finished", "session.failed", "session.stalled"]

/-- An event says how a turn ended: it names the turn, or it is the notice that the turn is gone. -/
def EndNotice (context : SnapshotContext) (turn_id : String) (event : IncomingEvent) : Prop :=
  event.kind ∈ END_KINDS ∧ (event.payload.get "turn_id" = some (.string turn_id) ∨
    event = disappearedEvent x context turn_id)

/-- A turn's prompt is accepted: its snapshot says so, or its prompt is announced as submitted. -/
def AcceptedBy (turn_id : String) (bridge : GjcEventBridge) (input : Input) : Prop :=
  (∃ turn ∈ input.1.turn, turn.id = turn_id ∧ turn.prompt_accepted = true) ∨
    ∃ event ∈ announcedBy x bridge input, event.kind = "session.prompt-submitted" ∧
      event.payload.get "turn_id" = some (.string turn_id)

/-- An announcement says how a turn ended. -/
def EndAnnouncedBy (turn_id : String) (bridge : GjcEventBridge) (input : Input) : Prop :=
  ∃ event ∈ announcedBy x bridge input, EndNotice x (contextOf x input) turn_id event

/-- A turn's prompt was accepted during a run. -/
def Accepted (fed : List Input) (turn_id : String) : Prop := (bridgeMachine x).Sometime (AcceptedBy x turn_id) {} fed

/-- How a turn ended was announced during a run. -/
def EndAnnounced (fed : List Input) (turn_id : String) : Prop :=
  (bridgeMachine x).Sometime (EndAnnouncedBy x turn_id) {} fed

def TurnPhase.isEnd : TurnPhase → Bool
  | complete | failed | idle | aborted => true
  | active | waitingInput => false

/-- A snapshot shows a turn at its end, another turn in its place, or explicitly no turn. -/
def Ends (snapshot : Snapshot) (turn_id : String) : Prop :=
  match snapshot.turn with
  | none => snapshot.turn_present = true
  | some turn => turn.id = turn_id → turn.state.isEnd = true

/-- What the track of the session has to hold for a turn's end to be noticed. -/
def Caught (track : SessionTrack) (snapshot : Snapshot) (turn_id : String) : Prop :=
  snapshot.Fits ∧ match snapshot.turn with
    | none => track.in_flight_turn = some turn_id
    | some turn => turn.id = turn_id ∧ match turn.state with
      | .complete | .failed => turn.prompt_accepted = true ∨
          (track.turn_id = some turn_id ∧ track.prompt_command.isSome = true)
      | _ => track.in_flight_turn = some turn_id

/-! ## Sections -/

/-- A track marks a turn's end as announced. -/
def Marks (track : SessionTrack) (turn_id : String) : Prop :=
  track.terminal_emitted_turn = some turn_id ∨ track.unexpected_idle_emitted_turn = some turn_id

/-- A section that marks an end only together with its notice. -/
def Honest (context : SnapshotContext) (reading : Reading) : Prop :=
  ∀ track turn_id, Marks (reading track).1 turn_id → Marks track turn_id ∨
    ∃ event ∈ (reading track).2, EndNotice x context turn_id event

variable {x} {context : SnapshotContext}

theorem Honest.andThen {first second : Reading} (h : Honest x context first)
    (h' : Honest x context second) : Honest x context (first.andThen second) := by
  intro track turn_id hmarks
  rcases h' _ _ hmarks with hmarks | ⟨event, hmem, hnotice⟩
  · rcases h _ _ hmarks with hmarks | ⟨event, hmem, hnotice⟩
    · exact .inl hmarks
    · exact .inr ⟨event, mem_append_left _ hmem, hnotice⟩
  · exact .inr ⟨event, mem_append_right _ hmem, hnotice⟩

/-- A section that leaves both marks alone. -/
theorem honest_of_same {reading : Reading}
    (hterminal : ∀ track, (reading track).1.terminal_emitted_turn = track.terminal_emitted_turn)
    (hidle : ∀ track, (reading track).1.unexpected_idle_emitted_turn =
      track.unexpected_idle_emitted_turn) : Honest x context reading := by
  intro track turn_id hmarks
  unfold Marks at hmarks
  rw [hterminal, hidle] at hmarks
  exact .inl hmarks

/-- An event of the turn that the snapshot shows, of a kind that says how it ended. -/
theorem endNotice_lifecycle {kind : String} (hkind : kind ∈ END_KINDS) (status : String) (attempt : ℕ)
    (summary error_message : Option String) (parts : List String) {extra : List Field}
    (hextra : ∀ field ∈ extra, field.1 ≠ "turn_id") (h : context.turnId ≠ "") : EndNotice x context context.turnId
      (context.lifecycleEvent x kind status attempt summary error_message parts extra) :=
  ⟨hkind, .inl (context.lifecycleEvent_turnId x _ _ _ _ _ _ hextra h)⟩

variable {track : SessionTrack} {turn : Turn} (failed : Bool)

/-- A terminal turn that is to be announced is announced. -/
theorem endNotice_of_terminal (hturn : context.turnId = sanitize turn.id)
    (h : context.turnId ≠ "") (hannounces : track.announcesEnd turn = true) :
    ∃ event ∈ (observeTerminal x context turn failed track).2, EndNotice x context (sanitize turn.id) event := by
  unfold observeTerminal
  simp only [hannounces, if_true]
  refine ⟨_, mem_singleton_self _, hturn ▸ endNotice_lifecycle ?_ _ _ _ _ _ ?_ h⟩
  · cases failed
    · exact mem_cons_self
    · exact mem_cons_of_mem _ mem_cons_self
  · intro field hfield
    obtain ⟨command_id, -, rfl⟩ := map_eq_some_iff.mp (mem_toList.mp hfield)
    simp [text]

/-- A turn that is to be announced as stalled is announced. -/
theorem endNotice_of_idle (hturn : context.turnId = sanitize turn.id) (h : context.turnId ≠ "")
    (hannounces : track.announcesStall turn = true) :
    ∃ event ∈ (observeIdle x context turn track).2, EndNotice x context (sanitize turn.id) event := by
  unfold observeIdle
  simp only [hannounces, if_true]
  refine ⟨_, mem_singleton_self _, hturn ▸ endNotice_lifecycle ?_ _ _ _ _ _ ?_ h⟩
  · simp [END_KINDS]
  · exact fun field hfield => absurd hfield not_mem_nil

theorem honest_terminal (hturn : context.turnId = sanitize turn.id) (h : context.turnId ≠ "") : Honest x context (observeTerminal x context turn failed) := by
  intro track turn_id hmarks
  unfold Marks observeTerminal at hmarks
  dsimp only at hmarks
  split_ifs at hmarks with hannounces
  · obtain ⟨event, hmem, hnotice⟩ := endNotice_of_terminal (x := x) failed hturn h hannounces
    rcases hmarks with hterminal | hidle
    · exact .inr ⟨event, hmem, some.inj hterminal ▸ hnotice⟩
    · exact .inl (.inr hidle)
  · exact .inl hmarks

theorem honest_idle (hturn : context.turnId = sanitize turn.id) (h : context.turnId ≠ "") :
    Honest x context (observeIdle x context turn) := by
  intro track turn_id hmarks
  unfold Marks observeIdle at hmarks
  split_ifs at hmarks with hannounces
  · obtain ⟨event, hmem, hnotice⟩ := endNotice_of_idle (x := x) hturn h hannounces
    rcases hmarks with hterminal | hidle
    · exact .inl (.inl hterminal)
    · exact .inr ⟨event, hmem, some.inj hidle ▸ hnotice⟩
  · exact .inl hmarks

/-- An active turn forgets the mark of a stalled one. -/
theorem honest_active (turn : Turn) : Honest x context (observeActive x context turn) := by
  intro track turn_id hmarks
  rcases hmarks with hterminal | hidle
  · exact .inl (.inl hterminal)
  · exact absurd hidle (by simp [observeActive])

theorem honest_phase (hturn : context.turnId = sanitize turn.id) (h : context.turnId ≠ "") :
    Honest x context (observePhase x context turn) := by
  unfold observePhase
  cases turn.state with
  | idle | aborted => exact honest_idle hturn h
  | active => exact honest_active turn
  | waitingInput => exact honest_of_same (fun _ => rfl) (fun _ => rfl)
  | complete => exact honest_terminal false hturn h
  | failed => exact honest_terminal true hturn h

/-- The turn of a snapshot whose turn has an identifier. -/
theorem honest_turn (h : ∀ turn ∈ context.snapshot.turn, sanitize turn.id ≠ "") :
    Honest x context (observeTurn x context) := by
  intro track turn_id hmarks
  unfold observeTurn at hmarks ⊢
  cases hsnapshot : context.snapshot.turn with
  | none =>
    rw [hsnapshot] at hmarks
    exact .inl hmarks
  | some turn =>
    rw [hsnapshot] at hmarks
    have hturn : context.turnId = sanitize turn.id := by
      unfold SnapshotContext.turnId
      rw [hsnapshot]
      rfl
    have hid : context.turnId ≠ "" := by
      rw [hturn]
      exact h turn hsnapshot
    have hsection : Honest x context ((observeAttempt x context turn).andThen (observePhase x context turn)) :=
      (honest_of_same (fun _ => rfl) (fun _ => rfl)).andThen (honest_phase hturn hid)
    rcases hsection _ _ hmarks with hmarks | hnotice
    · refine .inl ?_
      unfold onTurn Marks at hmarks
      split_ifs at hmarks with hsame
      · exact hmarks
      · rcases hmarks with hterminal | hidle
        · exact absurd hterminal (by simp)
        · exact .inr hidle
    · exact .inr hnotice

/-- The notice that a turn is gone. -/
theorem endNotice_disappeared (turn_id : String) : EndNotice x context turn_id (disappearedEvent x context turn_id) :=
  ⟨by simp [END_KINDS, disappearedEvent, SnapshotContext.lifecycleEvent, finishEvent], .inr rfl⟩

theorem honest_absentTurn : Honest x context (observeAbsentTurn x context) := by
  intro track turn_id hmarks
  unfold observeAbsentTurn at hmarks ⊢
  split_ifs at hmarks ⊢ with habsent
  · cases hflight : track.in_flight_turn with
    | none =>
      rw [hflight] at hmarks
      exact .inl hmarks
    | some flight =>
      rw [hflight] at hmarks
      dsimp only at hmarks ⊢
      split_ifs at hmarks ⊢ with hunmarked
      · rcases hmarks with hterminal | hidle
        · exact .inl (.inl hterminal)
        · rw [some.injEq] at hidle
          exact .inr ⟨_, mem_singleton_self _, hidle ▸ endNotice_disappeared flight⟩
      · exact .inl hmarks
  · exact .inl hmarks

theorem honest_prompt : Honest x context (observePrompt x context) := by
  apply honest_of_same
  all_goals
    intro track
    unfold observePrompt
    repeat' split
    all_goals rfl

theorem honest_gate : Honest x context (observeGate x context) := by
  apply honest_of_same
  all_goals
    intro track
    unfold observeGate
    repeat' split
    all_goals rfl

theorem honest_endpoint : Honest x context (observeEndpoint x context) := by
  apply honest_of_same
  all_goals
    intro track
    unfold observeEndpoint
    cases context.snapshot.endpoint with
    | none => rfl
    | some endpoint =>
      dsimp only
      split_ifs
      all_goals rfl

/-- A whole snapshot marks an end only together with its notice. -/
theorem honest_sections (h : ∀ turn ∈ context.snapshot.turn, sanitize turn.id ≠ "") :
    Honest x context fun track => track.observeSections x context :=
  (honest_turn h).andThen <| honest_absentTurn.andThen <| honest_prompt.andThen <|
    honest_gate.andThen <| (honest_of_same (fun _ => rfl) (fun _ => rfl)).andThen honest_endpoint

/-! ## The end of a turn -/

variable {input : Input}

/-- A turn's end that is caught and was not announced before is announced. -/
theorem endNotice_of_caught {turn_id : String} (hcaught : Caught track input.1 turn_id)
    (hends : Ends input.1 turn_id) (hmarks : ¬ Marks track turn_id) :
    ∃ event ∈ (track.observeSections x (contextOf x input)).2, EndNotice x (contextOf x input) turn_id event := by
  obtain ⟨⟨-, hfits⟩, hcaught⟩ := hcaught
  unfold Ends at hends
  have hsnapshot : (contextOf x input).snapshot = input.1 := rfl
  cases hturn : input.1.turn with
  | none =>
    -- No turn is shown: the turn in flight is the one that is gone.
    rw [hturn] at hcaught hends
    have hunmarked : track.unexpected_idle_emitted_turn ≠ some turn_id := fun hidle => hmarks (.inr hidle)
    have hsame : observeTurn x (contextOf x input) track = (track, []) := by
      unfold observeTurn
      rw [hsnapshot, hturn]
    refine ⟨disappearedEvent x (contextOf x input) turn_id, ?_, endNotice_disappeared turn_id⟩
    refine mem_append_right _ (mem_append_left _ ?_)
    rw [hsame]
    unfold observeAbsentTurn
    rw [hsnapshot, hturn, hends, hcaught]
    simp [hunmarked]
  | some turn =>
    rw [hturn] at hcaught hends
    obtain ⟨rfl, hcaught⟩ := hcaught
    have hend := hends rfl
    -- The identifier is not empty, and sanitizing does not change it.
    have hvalid : validId turn.id = true := by
      unfold Snapshot.turnFits at hfits
      rw [hturn] at hfits
      exact hfits
    have hid : sanitize turn.id = turn.id := sanitize_of_validId hvalid
    have hnonempty : turn.id ≠ "" := by
      rintro hempty
      rw [hempty] at hvalid
      exact absurd hvalid (by decide)
    have hshown : (contextOf x input).turnId = sanitize turn.id := by
      unfold SnapshotContext.turnId
      rw [hsnapshot, hturn]
      rfl
    have hshown' : (contextOf x input).turnId ≠ "" := by rw [hshown, hid]; exact hnonempty
    have hphase : ∃ event ∈ (observePhase x (contextOf x input) turn
        (observeAttempt x (contextOf x input) turn (track.onTurn (sanitize turn.id))).1).2,
        EndNotice x (contextOf x input) (sanitize turn.id) event := by
      have hterminal (hcaught : turn.prompt_accepted = true ∨
          (track.turn_id = some turn.id ∧ track.prompt_command.isSome = true)) :
          (track.onTurn (sanitize turn.id)).announcesEnd turn = true := by
        unfold announcesEnd promptAccepted onTurn
        rw [hid]
        by_cases hsame : track.turn_id = some turn.id
        · have hunmarked : track.terminal_emitted_turn ≠ some turn.id := fun h => hmarks (.inl h)
          simpa [hsame, hunmarked] using hcaught
        · simpa [hsame] using hcaught
      have hidle (hcaught : track.in_flight_turn = some turn.id) :
          (track.onTurn (sanitize turn.id)).announcesStall turn = true := by
        have hunmarked : track.unexpected_idle_emitted_turn ≠ some turn.id := fun h => hmarks (.inr h)
        unfold announcesStall
        rw [onTurn_in_flight_turn, onTurn_unexpected_idle_emitted_turn, hid]
        simp [hcaught, hunmarked]
      unfold observePhase
      cases hstate : turn.state with
      | idle | aborted => exact endNotice_of_idle hshown hshown' (hidle (by rwa [hstate] at hcaught))
      | active | waitingInput =>
        rw [hstate] at hend
        exact absurd hend (by decide)
      | complete => exact endNotice_of_terminal false hshown hshown' (hterminal (by rwa [hstate] at hcaught))
      | failed => exact endNotice_of_terminal true hshown hshown' (hterminal (by rwa [hstate] at hcaught))
    obtain ⟨event, hmem, hnotice⟩ := hphase
    refine ⟨event, mem_append_left _ ?_, hid ▸ hnotice⟩
    unfold observeTurn
    rw [hsnapshot, hturn]
    exact mem_append_right _ hmem

/-! ## Runs -/

variable {session_id : String} {fed : List Input}

/-- What a run's track has seen and marked comes from the run. -/
structure Follows (x : Libraries) (track : SessionTrack) (fed : List Input) : Prop where
  /-- The revision is one that was fed. -/
  revision : ∀ revision ∈ track.last_revision, revision ∈ fed.map fun input => input.1.revision
  /-- Every end marked as announced was announced. -/
  marks : ∀ turn_id, Marks track turn_id → EndAnnounced x fed turn_id

/-- A snapshot keeps the track of a run in step with the run. -/
theorem follows_concat (hsession : sessionOf input = session_id)
    (h : Follows x ((bridgeAfter x fed).trackOf session_id) fed) :
    Follows x ((bridgeAfter x (fed ++ [input])).trackOf session_id) (fed ++ [input]) := by
  have hafter : bridgeAfter x (fed ++ [input]) = ((bridgeAfter x fed).observe x input.1 input.2).1 :=
    (bridgeMachine x).run_concat {} fed input
  have hearlier {turn_id : String} (hend : EndAnnounced x fed turn_id) : EndAnnounced x (fed ++ [input]) turn_id :=
    ((bridgeMachine x).sometime_concat _ _ _ _).mpr (.inl hend)
  rw [hafter]
  subst hsession
  by_cases hread : input.1.Read ((bridgeAfter x fed).trackOf (sessionOf input))
  · obtain ⟨htrack, hannounced⟩ := observe_read x (bridgeAfter x fed) hread
    rw [htrack]
    constructor
    · intro revision hrevision
      rw [← some.inj hrevision]
      simp
    · intro turn_id hmarks
      have hid : ∀ turn ∈ (contextOf x input).snapshot.turn, sanitize turn.id ≠ "" := by
        intro turn hturn
        have hvalid : validId turn.id = true := by
          have hfits := hread.1.2
          unfold Snapshot.turnFits at hfits
          rw [show input.1.turn = some turn from hturn] at hfits
          exact hfits
        rw [sanitize_of_validId hvalid]
        rintro hempty
        rw [hempty] at hvalid
        exact absurd hvalid (by decide)
      rcases honest_sections hid _ turn_id hmarks with hmarks | ⟨event, hmem, hnotice⟩
      · exact hearlier (h.marks turn_id hmarks)
      · refine ((bridgeMachine x).sometime_concat _ _ _ _).mpr (.inr ⟨event, ?_, hnotice⟩)
        show event ∈ announced ((bridgeAfter x fed).observe x input.1 input.2).2
        rw [hannounced]
        exact hmem
  · rw [(observe_not_read x _ hread _).1]
    constructor
    · intro revision hrevision
      rw [map_append]
      exact mem_append_left _ (h.revision revision hrevision)
    · exact fun turn_id hmarks => hearlier (h.marks turn_id hmarks)

/-- The track of a run of one session follows the run. -/
theorem follows_run (hsession : ∀ input ∈ fed, sessionOf input = session_id) :
    Follows x ((bridgeAfter x fed).trackOf session_id) fed := by
  induction fed using reverseRecOn with
  | nil => exact ⟨fun _ h => (nomatch h), fun _ h => by rcases h with h | h <;> exact nomatch h⟩
  | append_singleton fed input ih =>
    have hfed := ih fun input hinput => hsession input (mem_append_left _ hinput)
    exact follows_concat (hsession input (by simp)) hfed

/-- In every run of one session with increasing revisions, in which every accepted turn that ends
without having been announced is caught at its end, every accepted turn that ends is announced by
then. -/
theorem ends_announced (x : Libraries) (session_id : String) (fed : List Input)
    (hsession : ∀ input ∈ fed, input.1.session_id = session_id)
    (hrevisions : (fed.map fun input => input.1.revision).Pairwise (· < ·))
    (hcaught : ∀ before input, before ++ [input] <+: fed → ∀ turn_id, Accepted x before turn_id →
      Ends input.1 turn_id → ¬ EndAnnounced x before turn_id →
        Caught ((bridgeAfter x before).trackOf (sanitize session_id)) input.1 turn_id) :
    ∀ before input, before ++ [input] <+: fed → ∀ turn_id, Accepted x before turn_id →
      Ends input.1 turn_id → EndAnnounced x (before ++ [input]) turn_id := by
  intro before input hinitial turn_id haccepted hends
  refine ((bridgeMachine x).sometime_concat _ _ _ _).mpr ?_
  by_cases hbefore : EndAnnounced x before turn_id
  · exact .inl hbefore
  refine .inr ?_
  have hcaught := hcaught before input hinitial turn_id haccepted hends hbefore
  have hsessionOf : ∀ other ∈ before ++ [input], sessionOf other = sanitize session_id :=
    fun other hother => congrArg sanitize (hsession other (hinitial.subset hother))
  have hfollows := follows_run (x := x) fun other hother =>
    hsessionOf other (mem_append_left _ hother)
  have hlast := hsessionOf input (by simp)
  have hread : input.1.Read ((bridgeAfter x before).trackOf (sessionOf input)) := by
    refine ⟨hcaught.1, fun previous hprevious => ?_⟩
    rw [hlast] at hprevious
    have hmem := hfollows.revision previous hprevious
    have hpairwise := hrevisions.sublist (hinitial.sublist.map _)
    rw [map_append, pairwise_append] at hpairwise
    exact hpairwise.2.2 previous hmem _ (by simp)
  obtain ⟨event, hmem, hnotice⟩ := endNotice_of_caught (x := x) hcaught hends fun hmarks =>
    hbefore (hfollows.marks turn_id hmarks)
  refine ⟨event, ?_, hnotice⟩
  show event ∈ announced ((bridgeAfter x before).observe x input.1 input.2).2
  rw [(observe_read x _ hread).2, hlast]
  exact hmem

namespace Sample

/-- A turn with an accepted prompt starts the session and is in flight; its end is caught. -/
theorem accepted_turn_in_flight : (announcedBy libraries {} (turnShown 1 .active true)).map (fun event => event.kind) =
        ["session.started"] ∧ (turnShown 2 .idle false).1.check.isOk ∧ (turnShown 2 .idle false).1.turnFits ∧
      ((bridgeAfter libraries [turnShown 1 .active true]).trackOf (sanitize "s")).in_flight_turn = some "t" := by
  decide +kernel

theorem in_flight_turn_goes_idle :
    EndAnnounced libraries [turnShown 1 .active true, turnShown 2 .idle false] "t" := by
  obtain ⟨hkinds, hcheck, hfits, hflight⟩ := accepted_turn_in_flight
  refine ends_announced libraries "s" [turnShown 1 .active true, turnShown 2 .idle false] ?_ ?_ ?_
    [turnShown 1 .active true] (turnShown 2 .idle false) (prefix_refl _) "t"
    (.inl (.inl ⟨_, rfl, rfl, rfl⟩)) fun _ => rfl
  · intro input hinput
    rcases mem_pair.mp hinput with rfl | rfl
    · rfl
    · rfl
  · simp [turnShown, Snapshot.bare]
  · intro before input hinitial turn_id haccepted hends _
    have hcases : before = [] ∨ (before = [turnShown 1 .active true] ∧ input = turnShown 2 .idle false) := by
      rcases before with _ | ⟨first, _ | ⟨second, rest⟩⟩
      · exact .inl rfl
      · simp only [cons_prefix_cons, prefix_nil, and_true, cons_append, nil_append] at hinitial
        exact .inr ⟨by rw [hinitial.1], hinitial.2⟩
      · exact absurd hinitial.length_le (by simp)
    rcases hcases with rfl | ⟨rfl, rfl⟩
    · exact absurd haccepted ((bridgeMachine libraries).sometime_nil _ _)
    · have ht : turn_id = "t" := by
        rcases haccepted with (⟨turn, hturn, rfl, -⟩ | ⟨event, hevent, hkind, -⟩) | hnever
        · rw [← some.inj hturn]
        · have hmem := List.mem_map.mpr ⟨event, hevent, hkind⟩
          rw [hkinds] at hmem
          exact absurd hmem (by decide)
        · exact hnever.elim
      subst ht
      refine ⟨⟨?_, hfits⟩, rfl, hflight⟩
      cases h : (turnShown 2 .idle false).1.check with
      | ok _ => rfl
      | error _ =>
        rw [h] at hcheck
        exact absurd hcheck Bool.false_ne_true

/-- A prompt that is submitted for an active turn without `prompt_accepted` leaves no turn in
flight, and nothing is said when the turn is idle next. -/
theorem submitted_turn_not_in_flight : (announcedBy libraries {} (promptShown 1 .active)).map (fun event =>
        (event.kind, (event.payload.get "turn_id").bind Json.asStr)) = [("session.prompt-submitted", some "t")] ∧
      (announcedBy libraries (bridgeAfter libraries [promptShown 1 .active]) (turnShown 2 .idle false)).isEmpty := by
  decide +kernel

theorem submitted_turn_goes_idle_silently :
    Accepted libraries [promptShown 1 .active] "t" ∧ Ends (turnShown 2 .idle false).1 "t" ∧
      ¬ EndAnnounced libraries [promptShown 1 .active, turnShown 2 .idle false] "t" := by
  obtain ⟨hsubmitted, hsilent⟩ := submitted_turn_not_in_flight
  refine ⟨.inl (.inr ?_), fun _ => rfl, ?_⟩
  · obtain ⟨event, hevent, heq⟩ := exists_of_mem_map (hsubmitted ▸ mem_cons_self)
    simp only [Prod.mk.injEq] at heq
    refine ⟨event, hevent, heq.1, ?_⟩
    cases hid : event.payload.get "turn_id" with
    | none =>
      rw [hid] at heq
      exact absurd heq.2 (by decide)
    | some value =>
      rw [hid] at heq
      cases value with
      | string id => rw [← some.inj heq.2]
      | _ => exact absurd heq.2 (by simp [Json.asStr])
  · rintro (⟨event, hevent, hkind, -⟩ | ⟨event, hevent, -⟩ | hnever)
    · have hmem := List.mem_map_of_mem (f := fun event : IncomingEvent =>
        (event.kind, (event.payload.get "turn_id").bind Json.asStr)) hevent
      rw [hsubmitted, mem_singleton] at hmem
      rw [(Prod.mk.inj hmem).1] at hkind
      exact absurd hkind (by decide)
    · have hnone := List.isEmpty_iff.mp hsilent
      exact not_mem_nil (hnone ▸ hevent)
    · exact hnever

end Sample

end Clawhip.Gjc
