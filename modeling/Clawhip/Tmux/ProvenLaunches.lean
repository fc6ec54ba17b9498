import Clawhip.Tmux.LaunchRules

/-!
# Proven launches

Every step of a launch keeps to the contract; so whatever the wrappers do, and wherever they stop, a command
is sent once, by its owner, after its identity was verified, and a lane is launched with its own marker. A
generation whose marker its owner has read back is not given up as ambiguous if second wrappers read with
care.
-/

namespace Clawhip.Tmux

open List Option Contract Ok

variable {ι α : Type} {codec : RegistryCodec α} {session : String} {launches : Launches ι session}
  {careful : Prop} {who : ι} {mine mine' : LaunchEntry ι → Prop} {facts : List (LaunchEntry ι)}
  {world : LaunchWorld ι α}

/-! ## Stages -/

variable (launches) in
/-- What a wrapper may have written before it reads its own marker back or gives the command up. -/
def Sending (who : ι) : LaunchEntry ι → Prop
  | .ended _ => False
  | .read _ value => value ≠ .Exact (launches.args who).launch_operation_id
  | .committed _ lane _ => lane.launch_state ≠ .CommandSubmitAmbiguous
  | _ => True

variable (launches) in
/-- The same, before it has sent its command. -/
def Unsent (who : ι) (entry : LaunchEntry ι) : Prop :=
  Sending launches who entry ∧ ∀ sender generation_id, entry ≠ .sent sender generation_id

/-- What a wrapper may have written while it is running. -/
def Running (entry : LaunchEntry ι) : Prop := ∀ who, entry ≠ .ended who

variable {entry : LaunchEntry ι} {state : LaneLaunchState} {category : Option String}
  {post : Except String LaneSnapshot → LaunchWorld ι α → Prop} {snapshot : LaneSnapshot} {reply : MarkerRead}
  {args : TmuxNewArgs}

theorem Sending.running (h : Sending launches who entry) : Running entry := by
  rintro other rfl
  exact h

theorem Unsent.sending (h : Unsent launches who entry) : Sending launches who entry := h.1

/-- A commit that does not give the command up. -/
theorem Unsent.of_committed {lane : LaneEvidence} {marker : Option String} (hlane : lane.launch_state = state)
    (hstate : state ≠ .CommandSubmitAmbiguous) : Unsent launches who (.committed who lane marker) :=
  ⟨fun hambiguous => hstate (hlane.symm.trans hambiguous), nofun⟩

/-! ## Transitions -/

/-- A transition, with the lane that it shows. -/
theorem ok_transitionLane (hknows : Knows who mine facts world) (hrunning : ¬ mine (.ended who))
    (hsession : snapshot.session = session)
    (hmay : MayCommit launches careful who snapshot.generation_id snapshot.launch_operation_id state
      world) (hmono : ∀ entry, mine entry → mine' entry)
    (hcommit : ∀ lane marker, lane.launch_state = state → mine' (.committed who lane marker))
    (hpost : Answers who mine' facts (fun later committed => Seen launches later.log committed ∧
        committed.generation_id = snapshot.generation_id ∧ committed.durable_launch_state = state) post) :
    (launchContract codec launches careful).Ok who (transitionLane snapshot state category) post world := by
  refine bind (ok_updateLaneEvidence hknows hrunning hsession hmay hmono hcommit fun later reply hlater hreply => ?_)
  cases reply with
  | ok committed => exact hpost later _ hlater fun value hvalue => by cases hvalue; exact hreply _ rfl
  | error error =>
    -- The response was lost, or the update was refused.
    refine bind (ok_laneDetail hlater fun last detail hlast hdetail => ?_)
    cases detail with
    | error _ => exact hpost last _ hlast fun value hvalue => nomatch hvalue
    | ok detail =>
      simp only
      split
      · rename_i hmatches
        simp only [committedTransitionMatches, Bool.and_eq_true, beq_iff_eq] at hmatches
        refine hpost last _ hlast fun value hvalue => ?_
        cases hvalue
        exact ⟨hdetail _ rfl, hmatches.1.1.1.1.1.1, hmatches.1.2⟩
      · exact hpost last _ hlast fun value hvalue => nomatch hvalue

section

variable (hknows : Knows who Running facts world)
include hknows

section

variable (hsession : snapshot.session = session)
include hsession

/-- A transition with which a launch ends. -/
theorem ok_transition_end
    (hmay : MayCommit launches careful who snapshot.generation_id snapshot.launch_operation_id state
      world) (hpost : ∀ later reply, post reply later) :
    (launchContract codec launches careful).Ok who (transitionLane snapshot state category) post world :=
  ok_transitionLane hknows (fun hended => hended who rfl) hsession hmay (fun _ h => h)
    (fun _ _ _ => nofun) fun later reply _ _ => hpost later reply

theorem ok_abandonLane {category error : String} {post : Except String Unit → LaunchWorld ι α → Prop}
    (hmay : MayCommit launches careful who snapshot.generation_id snapshot.launch_operation_id state
      world) (hpost : ∀ later reply, post reply later) :
    (launchContract codec launches careful).Ok who (abandonLane snapshot state category error) post world := by
  refine bind (ok_transition_end hknows hsession hmay fun later reply => ?_)
  cases reply with
  | ok committed | error error => exact hpost later _

theorem ok_confirmLane {post : Except String Unit → LaunchWorld ι α → Prop}
    (hmarker : world.submitted.map normalizeLaneMarker = some snapshot.launch_operation_id)
    (hpost : ∀ later reply, post reply later) :
    (launchContract codec launches careful).Ok who (confirmLane snapshot) post world := by
  have hmay : MayCommit launches careful who snapshot.generation_id snapshot.launch_operation_id
      .Launched world := ⟨fun _ => hmarker, fun _ hstate => nomatch hstate⟩
  refine bind (ok_transition_end hknows hsession hmay fun later reply => ?_)
  cases reply with
  | ok committed | error error => exact hpost later _

end

end

/-! ## Second wrappers -/

/-- What a marker that was read exactly is classified as. -/
theorem classifySubmittedValue_cases (value launch_operation_id : String) :
    (classifySubmittedValue (some value) launch_operation_id = .Exact ∧
        Text.trim value = launch_operation_id) ∨ (classifySubmittedValue (some value) launch_operation_id =
          .Observed "submitted-marker-mismatch" false ∧ Text.trim value ≠ launch_operation_id) ∨
      classifySubmittedValue (some value) launch_operation_id = .Observed "submitted-marker-missing" false := by
  unfold classifySubmittedValue
  simp only [map_some, filter_some]
  by_cases hempty : (!(Text.trim value).isEmpty) = true
  · simp only [if_pos hempty]
    by_cases hsame : Text.trim value = launch_operation_id
    · exact .inl ⟨if_pos hsame, hsame⟩
    · exact .inr (.inl ⟨if_neg hsame, hsame⟩)
  · simp only [if_neg hempty]
    exact .inr (.inr trivial)

/-- A lane is proved by its own marker. -/
theorem inspectSubmitted_exact (h : inspectSubmitted snapshot reply = .Exact) :
    ∃ value, reply = .Exact value ∧ Text.trim value = snapshot.launch_operation_id := by
  cases reply with
  | Exact value =>
    simp only [inspectSubmitted] at h
    rcases classifySubmittedValue_cases value snapshot.launch_operation_id with
      ⟨-, hsame⟩ | ⟨hmismatch, -⟩ | hmissing
    · exact ⟨value, rfl, hsame⟩
    · simp only [hmismatch] at h
      split at h <;> cases h
    · simp only [hmissing] at h
      cases h
  | Missing | Unreadable =>
    simp only [inspectSubmitted] at h
    split at h <;> cases h

/-- A lane that is found ambiguous is one with a command, and the marker was not its own. -/
theorem inspectSubmitted_terminal {category : String}
    (hnormal : ∀ value, reply = .Exact value → Text.trim value = value)
    (h : inspectSubmitted snapshot reply = .CommandTerminal category) :
    snapshot.worker_effect_kind = .CommandSubmission ∧ reply ≠ .Exact snapshot.launch_operation_id := by
  cases reply with
  | Exact value =>
    simp only [inspectSubmitted] at h
    rcases classifySubmittedValue_cases value snapshot.launch_operation_id with
      ⟨hexact, -⟩ | ⟨hmismatch, hother⟩ | hmissing
    · simp only [hexact] at h
      cases h
    · simp only [hmismatch] at h
      split at h
      · rename_i hkind
        refine ⟨hkind, fun hsame => hother ?_⟩
        rw [hnormal value rfl]
        exact MarkerRead.Exact.inj hsame
      · cases h
    · simp only [hmissing] at h
      cases h
  | Missing | Unreadable =>
    simp only [inspectSubmitted] at h
    split at h
    · exact ⟨‹_›, nofun⟩
    · cases h

/-- A marker that was read is trimmed. -/
theorem trim_of_marker {value : String}
    (h : world.submitted.map normalizeLaneMarker = some value) : Text.trim value = value := by
  obtain ⟨written, -, rfl⟩ := map_eq_some_iff.mp h
  exact Text.trim_trim written

/-- A generation is not spoiled by a wrapper that did not read its own marker back, if it is its own or was
read with care. -/
theorem LaunchInv.unspoiled (hinv : LaunchInv launches careful world) (hcareful : careful)
    (hseen : Seen launches world.log snapshot) (hunread : snapshot.generation_id = (launches.args who).generation_id →
      .read who (.Exact (launches.args who).launch_operation_id) ∉ world.log)
    (hcare : snapshot.generation_id ≠ (launches.args who).generation_id →
      world.submitted.map normalizeLaneMarker ≠ some snapshot.launch_operation_id ∧
        ∀ owner, (launches.args owner).generation_id = snapshot.generation_id →
          .ended owner ∈ world.log) : Unspoiled launches world.log who snapshot.generation_id := by
  intro owner howner
  by_cases hself : owner = who
  · subst hself
    exact ⟨hunread howner.symm, .inl rfl⟩
  · have hother : snapshot.generation_id ≠ (launches.args who).generation_id := fun hsame =>
      hself (launches.fresh owner who (howner.trans hsame))
    obtain ⟨hmarker, hended⟩ := hcare hother
    refine ⟨fun hread => hmarker ?_, .inr (hended owner howner)⟩
    -- Had the owner read its marker back, it would still be there.
    rw [hinv.reads hcareful owner hread, (hseen.owner howner).1]

/-- What a wrapper knows when it has looked at the markers of a lane. -/
structure Inspected (launches : Launches ι session) (careful : Prop) (who : ι) (snapshot : LaneSnapshot)
    (inspection : LaneInspection) (world : LaunchWorld ι α) : Prop where
  exact : inspection = .Exact → world.submitted.map normalizeLaneMarker = some snapshot.launch_operation_id
  terminal : careful → snapshot.durable_launch_state = .IdentityVerified →
    ∀ category, inspection = .CommandTerminal category → Unspoiled launches world.log who snapshot.generation_id

theorem Inspected.observed {reason : String} {conflict : Bool} :
    Inspected launches careful who snapshot (.Observed reason conflict) world :=
  ⟨nofun, fun _ _ _ h => nomatch h⟩

theorem Knows.unsent_running (h : Knows who (Unsent launches who) facts world) : Knows who Running facts world :=
  h.mono fun _ hunsent => hunsent.sending.running

/-- A wrapper that has sent nothing looks at the markers of a lane. -/
theorem ok_inspectLaneMarkers {post : LaneInspection → LaunchWorld ι α → Prop}
    (hknows : Knows who (Unsent launches who) facts world) (hseen : Seen launches world.log snapshot)
    (hpost : ∀ later inspection, Knows who Running world.log later →
      Inspected launches careful who snapshot inspection later → post inspection later) :
    (launchContract codec launches careful).Ok who (inspectLaneMarkers snapshot) post world := by
  have hobserved (reason : String) (conflict : Bool) (later : LaunchWorld ι α)
      (hlater : Knows who (Unsent launches who) world.log later) :
      post (.Observed reason conflict) later :=
    hpost later _ hlater.unsent_running .observed
  refine bind (ok_sessionExists hknows.all fun later reply hlater => ?_)
  rcases reply with error | _ | _
  · exact hobserved _ _ later hlater
  · exact hobserved _ _ later hlater
  refine bind (ok_readLaneMarker (by decide) hlater fun later reply hlater => ?_)
  cases reply with
  | Unreadable | Missing => exact hobserved _ _ later hlater
  | Exact value =>
    simp only
    split
    · exact hobserved _ _ later hlater
    refine bind (ok_readLaneMarker (by decide) hlater fun later reply hlater => ?_)
    cases reply with
    | Unreadable | Missing => exact hobserved _ _ later hlater
    | Exact value =>
      simp only
      split
      · exact hobserved _ _ later hlater
      refine bind (ok_readSubmitted hlater (fun h => h.1) (fun _ _ h => h.1)
        fun later reply hinv hlater hexact hcare => ?_)
      have hrunning : Knows who Running world.log later := by
        refine hlater.mono fun entry hentry => ?_
        rcases hentry with hunsent | rfl
        · exact hunsent.sending.running
        · nofun
      refine hpost later _ hrunning ⟨fun hproved => ?_, fun hcareful hstate category hterminal => ?_⟩
      · obtain ⟨value, rfl, hsame⟩ := inspectSubmitted_exact hproved
        rw [← hsame, trim_of_marker (hexact value rfl), hexact value rfl]
      · obtain ⟨hkind, hother⟩ := inspectSubmitted_terminal
          (fun value hvalue => trim_of_marker (hexact value hvalue)) hterminal
        have hseen := hseen.mono hlater.facts
        refine hinv.unspoiled hcareful hseen (fun hown hread => ?_) fun hforeign => ?_
        · -- An exact read of its own would be this one.
          rcases hlater.own _ hread rfl with hunsent | hthis
          · exact hunsent.1 rfl
          · rw [← (hseen.owner hown.symm).1] at hthis
            exact hother (LaunchEntry.read.inj hthis).2.symm
        · exact (hcare hcareful hstate hkind hforeign).resolve_left hother

/-- A wrapper that finds a lane finishes it, or leaves it. -/
theorem ok_finalizeExistingLane {post : Except String Unit → LaunchWorld ι α → Prop}
    (hknows : Knows who (Unsent launches who) facts world) (hpost : ∀ later reply, post reply later) :
    (launchContract codec launches careful).Ok who (finalizeExistingLane args) post world := by
  refine bind (ok_laneDetail hknows fun later reply hlater hreply => ?_)
  cases reply with
  | error error => exact hpost later _
  | ok detail =>
    have hseen := hreply detail rfl
    simp only
    by_cases hverified : detail.snapshot.durable_launch_state ≠ .IdentityVerified
    · rw [if_pos hverified]
      split
      · -- An attached wrapper looks at the markers, and commits nothing.
        refine bind (ok_inspectLaneMarkers hlater hseen fun later inspection _ _ => ?_)
        cases inspection <;> exact hpost later _
      · exact hpost later _
    · rw [if_neg hverified]
      refine bind (ok_inspectLaneMarkers hlater hseen fun later inspection hlater hinspected => ?_)
      cases inspection with
      | Exact => exact ok_confirmLane hlater hseen.session_eq (hinspected.exact rfl) hpost
      | CommandTerminal category =>
        refine ok_abandonLane hlater hseen.session_eq ⟨fun hstate => (nomatch hstate), ?_⟩ hpost
        exact fun hcareful _ => hinspected.terminal hcareful (not_not.mp hverified) category rfl
      | Observed reason conflict => exact hpost later _

/-! ## Owners -/

/-- The owner of a snapshot knows what it needs of it. -/
structure Owned (launches : Launches ι session) (who : ι) (snapshot : LaneSnapshot) : Prop where
  session_eq : snapshot.session = session
  generation_id : snapshot.generation_id = (launches.args who).generation_id
  launch_operation_id : snapshot.launch_operation_id = (launches.args who).launch_operation_id

theorem Seen.owned {log : List (LaunchEntry ι)} (h : Seen launches log snapshot)
    (hown : snapshot.generation_id = (launches.args who).generation_id) : Owned launches who snapshot :=
  ⟨h.session_eq, hown, (h.owner hown.symm).1⟩

/-- The owner gives its command up when it has not read its marker back. -/
theorem Owned.mayGiveUp (h : Owned launches who snapshot) (hknows : Knows who mine facts world)
    (hunread : ¬ mine (.read who (.Exact (launches.args who).launch_operation_id))) :
    MayCommit launches careful who snapshot.generation_id snapshot.launch_operation_id
      .CommandSubmitAmbiguous world := by
  refine ⟨fun hstate => (nomatch hstate), fun _ _ owner howner => ?_⟩
  obtain rfl := launches.fresh owner who (howner.trans h.generation_id)
  exact ⟨fun hread => hunread (hknows.own _ hread rfl), .inl rfl⟩

/-- One identity marker is set and read back. -/
theorem ok_proveLaneMarker {option value : String} (hoption : option ≠ LANE_COMMAND_SUBMITTED_OPTION)
    {post : IdentityProof → LaunchWorld ι α → Prop} (hknows : Knows who mine facts world)
    (hpost : ∀ later reply, Knows who mine facts later → post reply later) :
    (launchContract codec launches careful).Ok who (proveLaneMarker snapshot option value) post world := by
  refine bind (ok_setLaneMarker hknows (fun hsame => absurd hsame hoption) fun later reply hlater => ?_)
  split
  · exact hpost later _ hlater
  · refine bind (ok_readLaneMarker hoption hlater fun last read hlast => ?_)
    cases read <;> exact hpost last _ hlast

theorem ok_writeLaneIdentityMarkers {post : IdentityProof → LaunchWorld ι α → Prop}
    (hknows : Knows who mine facts world) (hpost : ∀ later reply, Knows who mine facts later → post reply later) :
    (launchContract codec launches careful).Ok who (writeLaneIdentityMarkers snapshot) post world := by
  refine bind (ok_proveLaneMarker (by decide) hknows fun later proof hlater => ?_)
  cases proof with
  | Exact => exact ok_proveLaneMarker (by decide) hlater hpost
  | SetFailed | ReadFailed | Mismatch => exact hpost later _ hlater

/-- The owner sends its command, and proves that it did. -/
theorem ok_finalizeCommandOwner {post : Except String Unit → LaunchWorld ι α → Prop}
    (hknows : Knows who (Unsent launches who) facts world) (howned : Owned launches who snapshot)
    (hregistered : .registered who snapshot.generation_id ∈ facts) (hcreated : .created who ∈ facts)
    (hverified : VerifiedIn world.log snapshot.generation_id) (hpost : ∀ later reply, post reply later) :
    (launchContract codec launches careful).Ok who (finalizeCommandOwner args snapshot) post world := by
  have hsending : ¬ Sending launches who (.read who (.Exact (launches.args who).launch_operation_id)) := fun h => h rfl
  refine bind (ok_submitCommand (Sending launches who) hknows (fun h => h.1)
    (fun h => h.2 _ _ rfl) hregistered hverified (fun _ h => h.sending) trivial fun later reply hlater => ?_)
  cases reply with
  | error error =>
    exact ok_abandonLane (hlater.mono fun _ h => h.running) howned.session_eq (howned.mayGiveUp hlater hsending) hpost
  | ok =>
    refine bind (ok_setLaneMarker hlater (fun _ => ⟨hcreated, howned.launch_operation_id⟩) fun later reply hlater => ?_)
    split
    · exact ok_abandonLane (hlater.mono fun _ h => h.running) howned.session_eq (howned.mayGiveUp hlater hsending) hpost
    refine bind (ok_readSubmitted hlater (fun h => h) (fun _ _ h => h) fun later reply hinv hlater hexact _ => ?_)
    have hrunning : Knows who Running facts later := by
      refine hlater.mono fun entry hentry => ?_
      rcases hentry with hsending | rfl
      · exact hsending.running
      · nofun
    -- The command is given up if another value was read, or none.
    have hgiveUp (category : String) (hother : reply ≠ .Exact snapshot.launch_operation_id) :
        (launchContract codec launches careful).Ok who (commandMarkerTerminal snapshot category) post
          later := by
      refine ok_abandonLane hrunning howned.session_eq (howned.mayGiveUp hlater fun hread => ?_) hpost
      rcases hread with hread | hread
      · exact hsending hread
      · rw [← howned.launch_operation_id] at hread
        exact hother (LaunchEntry.read.inj hread).2.symm
    cases reply with
    | Exact value =>
      simp only
      split
      · rename_i hsame
        subst hsame
        exact ok_confirmLane hrunning howned.session_eq (hexact _ rfl) hpost
      · rename_i hother
        exact hgiveUp _ fun hsame => hother (MarkerRead.Exact.inj hsame)
    | Unreadable | Missing => exact hgiveUp _ nofun

/-- The owner of a session without a command proves that it created the session. -/
theorem ok_finalizeSessionCreationOwner {post : Except String Unit → LaunchWorld ι α → Prop}
    (hknows : Knows who (Unsent launches who) facts world) (howned : Owned launches who snapshot)
    (hcreated : .created who ∈ facts) (hpost : ∀ later reply, post reply later) :
    (launchContract codec launches careful).Ok who (finalizeSessionCreationOwner snapshot) post world := by
  refine bind (ok_setLaneMarker hknows (fun _ => ⟨hcreated, howned.launch_operation_id⟩) fun later reply hlater => ?_)
  split
  · exact hpost later _
  refine bind (ok_readSubmitted hlater (fun h => h.1) (fun _ _ h => h.1) fun later reply hinv hlater hexact _ => ?_)
  have hrunning : Knows who Running facts later := by
    refine hlater.mono fun entry hentry => ?_
    rcases hentry with hunsent | rfl
    · exact hunsent.sending.running
    · nofun
  cases reply with
  | Exact value =>
    simp only
    split
    · rename_i hsame
      subst hsame
      exact ok_confirmLane hrunning howned.session_eq (hexact _ rfl) hpost
    · exact hpost later _
  | Unreadable | Missing => exact hpost later _

/-! ## The launch -/

/-- What a snapshot is of which the wrapper is the owner. -/
def OwnSeen (launches : Launches ι session) (who : ι) (later : LaunchWorld ι α)
    (snapshot : LaneSnapshot) : Prop :=
  Seen launches later.log snapshot ∧ snapshot.generation_id = (launches.args who).generation_id

/-- The lane is registered, or was when the response was lost. -/
theorem ok_registerNewLane (hknows : Knows who (Unsent launches who) facts world)
    (hpost : Answers who (Unsent launches who) facts (OwnSeen launches who) post) :
    (launchContract codec launches careful).Ok who (registerNewLane (launches.args who)) post world := by
  refine bind (ok_registerLane hknows (fun h => h.1) ⟨trivial, nofun⟩ fun later reply hlater hreply => ?_)
  cases reply with
  | ok detail => exact hpost later _ hlater fun value hvalue => by cases hvalue; exact hreply _ rfl
  | error error =>
    refine bind (ok_laneDetail hlater fun last detail hlast hdetail => ?_)
    cases detail with
    | error _ => exact hpost last _ hlast fun value hvalue => nomatch hvalue
    | ok detail =>
      refine hpost last _ hlast fun value hvalue => ?_
      split at hvalue
      · rename_i hmatches
        cases hvalue
        simp only [registerResponseLossMatches, LaneSnapshot.identifies, Bool.and_eq_true, beq_iff_eq] at hmatches
        exact ⟨hdetail _ rfl, hmatches.1.1.1.1.1.1.1.1.1.1.1.1.1.1.1.1⟩
      · cases hvalue

/-- The delivery of the kickoff is recorded, or was when the response was lost. -/
theorem ok_recordKickoff {mutation : LaneDeliveryMutation} {matches_detail : LaneDetail → Bool}
    (hknows : Knows who (Unsent launches who) facts world) (hsession : mutation.session = session)
    (hgeneration : mutation.generation_id = (launches.args who).generation_id)
    (hmatches : ∀ detail, matches_detail detail = true →
      detail.snapshot.generation_id = (launches.args who).generation_id)
    (hpost : Answers who (Unsent launches who) facts (OwnSeen launches who) post) :
    (launchContract codec launches careful).Ok who (recordKickoff mutation matches_detail) post world := by
  refine bind (ok_recordLaneDelivery hknows (fun h => h.1) hsession fun later reply hlater hreply => ?_)
  cases reply with
  | ok snapshot =>
    refine hpost later _ hlater fun value hvalue => ?_
    cases hvalue
    exact ⟨(hreply _ rfl).1, (hreply _ rfl).2.trans hgeneration⟩
  | error error =>
    refine bind (ok_laneDetail hlater fun last detail hlast hdetail => ?_)
    cases detail with
    | error _ => exact hpost last _ hlast fun value hvalue => nomatch hvalue
    | ok detail =>
      refine hpost last _ hlast fun value hvalue => ?_
      split at hvalue
      · rename_i hsame
        cases hvalue
        exact ⟨hdetail _ rfl, hmatches detail hsame⟩
      · cases hvalue

theorem kickoffReceiptResponseLossMatches_generation {detail : LaneDetail}
    {message_id delivered_at : Option String} {visibility : LaneVisibility} {disposition : String}
    (h : kickoffReceiptResponseLossMatches detail snapshot message_id delivered_at visibility category
      disposition = true) : detail.snapshot.generation_id = snapshot.generation_id := by
  unfold kickoffReceiptResponseLossMatches at h
  simp only [Bool.and_eq_true, beq_iff_eq] at h
  exact h.1.1.1.1.1.1.1.1

section

variable (hknows : Knows who (Unsent launches who) facts world)
include hknows

theorem ok_deliverKickoff {message : String} (howned : Owned launches who snapshot)
    (hpost : Answers who (Unsent launches who) facts (OwnSeen launches who) post) :
    (launchContract codec launches careful).Ok who (deliverKickoff snapshot message) post world := by
  refine bind (ok_sendThread hknows fun later reply hlater => ?_)
  cases reply with
  | ok receipt =>
    exact ok_recordKickoff hlater howned.session_eq howned.generation_id (fun detail hmatches =>
      (kickoffReceiptResponseLossMatches_generation hmatches).trans howned.generation_id) hpost
  | error error =>
    refine bind (ok_recordKickoff hlater howned.session_eq howned.generation_id (fun detail hmatches =>
        (kickoffReceiptResponseLossMatches_generation hmatches).trans howned.generation_id)
      fun last persisted hlast _ => ?_)
    cases persisted <;> exact hpost last _ hlast fun value hvalue => nomatch hvalue

/-- The lane is claimed, or was when the response was lost. -/
theorem ok_claimNewLane (hpost : Answers who (Unsent launches who) facts (OwnSeen launches who) post) :
    (launchContract codec launches careful).Ok who (claimNewLane (launches.args who) snapshot) post world := by
  refine bind (ok_claimLane hknows (fun h => h.1) fun later reply hlater hreply => ?_)
  cases reply with
  | ok claimed => exact hpost later _ hlater fun value hvalue => by cases hvalue; exact hreply _ rfl
  | error error =>
    refine bind (ok_laneDetail hlater fun last detail hlast hdetail => ?_)
    cases detail with
    | error _ => exact hpost last _ hlast fun value hvalue => nomatch hvalue
    | ok detail =>
      refine hpost last _ hlast fun value hvalue => ?_
      split at hvalue
      · rename_i hmatches
        cases hvalue
        simp only [claimResponseLossMatches, LaneSnapshot.identifies, Bool.and_eq_true, beq_iff_eq] at hmatches
        exact ⟨hdetail _ rfl, hmatches.1.1.1.1.1.1.1⟩
      · cases hvalue

/-- The verified identity is committed, and the lane that shows it is that of the wrapper. -/
theorem ok_verifyNewLane (howned : Owned launches who snapshot) (hpost : Answers who (Unsent launches who) facts
      (fun later committed => OwnSeen launches who later committed ∧
        committed.durable_launch_state = .IdentityVerified) post) :
    (launchContract codec launches careful).Ok who (verifyNewLane args snapshot) post world := by
  have hfailed (error : String) (later : LaunchWorld ι α)
      (hlater : Knows who (Unsent launches who) facts later) : post (.error error) later :=
    hpost later _ hlater fun value hvalue => nomatch hvalue
  refine bind (ok_transitionLane hknows (fun h => h.1) howned.session_eq
    (.of_other nofun nofun) (fun _ h => h) (fun _ _ hlane => .of_committed hlane nofun)
    fun later reply hlater hreply => ?_)
  cases reply with
  | ok committed =>
    refine hpost later _ hlater fun value hvalue => ?_
    cases hvalue
    obtain ⟨hseen, hgeneration, hstate⟩ := hreply _ rfl
    exact ⟨⟨hseen, hgeneration.trans howned.generation_id⟩, hstate⟩
  | error error =>
    refine bind (ok_laneDetail hlater fun later detail hlater hdetail => ?_)
    cases detail with
    | error _ => exact hfailed _ later hlater
    | ok detail =>
      simp only
      split
      · rename_i hmatches
        simp only [committedTransitionMatches, Bool.and_eq_true, beq_iff_eq] at hmatches
        refine hpost later _ hlater fun value hvalue => ?_
        cases hvalue
        exact ⟨⟨hdetail _ rfl, hmatches.1.1.1.1.1.1.trans howned.generation_id⟩, hmatches.1.2⟩
      split
      · -- The session was created, but the proof could not be committed.
        refine bind (ok_transitionLane hlater (fun h => h.1) (hdetail _ rfl).session_eq
          (.of_other nofun nofun) (fun _ h => h) (fun _ _ hlane => .of_committed hlane nofun)
          fun last reply hlast _ => ?_)
        cases reply <;> exact hfailed _ last hlast
      · exact hfailed _ later hlater

/-- The owner of a claimed lane creates its session. -/
theorem ok_launchClaimed {post : Except String Unit → LaunchWorld ι α → Prop} (howned : Owned launches who snapshot)
    (hpost : ∀ later reply, post reply later) :
    (launchContract codec launches careful).Ok who (launchClaimed args snapshot) post world := by
  refine bind (ok_newSession hknows (fun h => h.1) ⟨trivial, nofun⟩ fun later reply hlater hcreated => ?_)
  have habandon (state : LaneLaunchState) (category error : String) {facts : List (LaunchEntry ι)}
      {later : LaunchWorld ι α} (hlater : Knows who (Unsent launches who) facts later)
      (hlaunched : state ≠ .Launched) (hambiguous : state ≠ .CommandSubmitAmbiguous) :
      (launchContract codec launches careful).Ok who (abandonLane snapshot state category error) post later :=
    ok_abandonLane hlater.unsent_running howned.session_eq (.of_other hlaunched hambiguous) hpost
  have hfailed : (sessionCreateFailed snapshot).1 ≠ .Launched ∧
      (sessionCreateFailed snapshot).1 ≠ .CommandSubmitAmbiguous := by
    unfold sessionCreateFailed
    split <;> exact ⟨nofun, nofun⟩
  cases reply with
  | PreExecutionFailure | DefinitiveFailure => exact habandon _ _ _ hlater hfailed.1 hfailed.2
  | PossiblyExecuted => exact habandon _ _ _ hlater nofun nofun
  | Created =>
    refine bind (ok_writeLaneIdentityMarkers (hcreated rfl) fun later proof hlater => ?_)
    cases hproof : proof.category with
    | some category => exact habandon _ _ _ hlater nofun nofun
    | none =>
      refine bind (ok_verifyNewLane hlater howned fun later reply hlater hreply => ?_)
      cases reply with
      | error error => exact hpost later _
      | ok committed =>
        obtain ⟨⟨hseen, hgeneration⟩, hstate⟩ := hreply _ rfl
        have howned := hseen.owned hgeneration
        simp only
        split
        · exact hpost later _
        -- What has happened so far is known: the lane was registered, and the session created.
        have hall := hlater.all
        have hfact := hlater.facts _ mem_cons_self
        cases committed.worker_effect_kind with
        | SessionCreation => exact ok_finalizeSessionCreationOwner hall howned hfact hpost
        | CommandSubmission =>
          exact ok_finalizeCommandOwner hall howned (hseen.owner hgeneration.symm).2 hfact (hseen.verified hstate) hpost

end

/-- What comes after the kickoff of a new lane. -/
theorem ok_kickedOff {post : Except String Unit → LaunchWorld ι α → Prop}
    (hpost : ∀ later reply, post reply later) : Answers who (Unsent launches who) facts (OwnSeen launches who)
    fun kicked_off later => (launchContract codec launches careful).Ok who (match kicked_off with
        | .error error => pure (.error error)
        | .ok snapshot => do
          match ← claimNewLane (launches.args who) snapshot with
          | .error error => return .error error
          | .ok snapshot =>
            if snapshot.durable_launch_state ≠ .Claimed then
              finalizeExistingLane (launches.args who)
            else launchClaimed (launches.args who) snapshot) post later := by
  intro later reply hlater hreply
  cases reply with
  | error error => exact hpost later _
  | ok snapshot =>
    refine bind (ok_claimNewLane hlater fun later reply hlater hreply => ?_)
    cases reply with
    | error error => exact hpost later _
    | ok claimed =>
      obtain ⟨hseen, hgeneration⟩ := hreply _ rfl
      simp only
      split
      · exact ok_finalizeExistingLane hlater hpost
      · exact ok_launchClaimed hlater (hseen.owned hgeneration) hpost

/-- Every step of a launch keeps to the contract. -/
theorem ok_launchLaneSession (hknows : Knows who (Unsent launches who) facts world)
    {post : Except String Unit → LaunchWorld ι α → Prop} (hpost : ∀ later reply, post reply later) :
    (launchContract codec launches careful).Ok who (launchLaneSession (launches.args who)) post world := by
  unfold launchLaneSession
  cases validateLaneArgs (launches.args who) with
  | error error => exact hpost world _
  | ok =>
    refine bind (ok_laneDetail hknows fun later reply hlater _ => ?_)
    cases reply.toOption.filter fun detail => detail.snapshot.workflow != .Retired with
    | some detail =>
      simp only
      split
      · exact hpost later _
      · exact ok_finalizeExistingLane hlater hpost
    | none =>
      refine bind (ok_registerNewLane hlater fun later reply hlater hreply => ?_)
      cases reply with
      | error error => exact hpost later _
      | ok snapshot =>
        obtain ⟨hseen, hgeneration⟩ := hreply _ rfl
        cases (launches.args who).kickoff with
        | none =>
          have hsnapshot : ∀ value, Except.ok snapshot = (.ok value : Except String LaneSnapshot) →
              OwnSeen launches who later value := fun value hvalue => by
            cases hvalue
            exact ⟨hseen, hgeneration⟩
          exact ok_kickedOff hpost later _ hlater hsnapshot
        | some kickoff => exact bind (ok_deliverKickoff hlater (hseen.owned hgeneration) (ok_kickedOff hpost))

/-! ## Runs -/

/-- Before the first step, no wrapper has written anything. -/
theorem launches_hold (launches : Launches ι session) (careful : Prop) :
    (launchContract codec launches careful).Holds (launches.start : Threads ι _ (LaunchWorld ι α)) where
  inv :=
    { registered := fun _ _ hmem => absurd hmem not_mem_nil
      lanes := fun _ hlane => nomatch hlane
      verified := fun _ hlane => nomatch hlane
      created := fun _ hmem => absurd hmem not_mem_nil
      commits := fun _ _ _ hmem => absurd hmem not_mem_nil
      justified := trivial
      reads := fun _ _ hmem => absurd hmem not_mem_nil
      spoils := fun _ _ _ _ hmem => absurd hmem not_mem_nil }
  ok who := by
    have hknows : Knows who (Unsent launches who) [] ({} : LaunchWorld ι α) :=
      ⟨fun _ hmem => absurd hmem not_mem_nil, fun _ hmem => absurd hmem not_mem_nil⟩
    exact bind (ok_launchLaneSession hknows fun _ _ => trivial)

/-- A generation whose marker was read back was not given up. -/
theorem LaunchInv.unambiguous (h : LaunchInv launches True world) : Unambiguous launches world.log := by
  intro who hread committer lane marker hcommit hown hambiguous
  exact (h.spoils trivial committer lane marker hcommit hambiguous who hown.symm).1 hread

/-- In every interleaving of launches, a command is sent once, by the wrapper that registered it, after its
identity was verified, and a lane is launched with its own marker; and where second wrappers read with care,
a generation whose owner read its marker back is not given up as ambiguous. -/
theorem proven_launches [DecidableEq ι] (codec : RegistryCodec α) (launches : Launches ι session)
    (moves : List (Move ι LaunchChoice Call)) :
    Justified ((launchShared codec session).machine.run launches.start moves).world.log ∧
      ((launchShared codec session).machine.Along
          (fun threads => threads.Admits (CarefulRead launches)) launches.start moves → Unambiguous launches
          ((launchShared codec session).machine.run launches.start moves).world.log) := by
  constructor
  · have hadmits : (launchShared codec session).machine.Along
        (fun threads => threads.Admits (launchContract codec launches False).allowed) launches.start
        moves := by
      refine Machine.along_of_forall _ (fun threads move => ?_) _ moves
      cases move with
      | run who choice =>
        simp only [Threads.Admits]
        cases threads.programs who with
        | pure value => trivial
        | ask request next => exact fun hcareful => hcareful.elim
      | stop who => trivial
      | disturb event => trivial
    exact ((launches_hold launches False).run hadmits).inv.justified
  · intro hcareful
    have hadmits : (launchShared codec session).machine.Along
        (fun threads => threads.Admits (launchContract codec launches True).allowed) launches.start
        moves := by
      refine Machine.Along.mono _ (fun threads move hmove => ?_) hcareful
      cases move with
      | run who choice =>
        simp only [Threads.Admits] at hmove ⊢
        cases hprogram : threads.programs who with
        | pure value => trivial
        | ask request next =>
          rw [hprogram] at hmove
          exact fun _ => hmove
      | stop who => trivial
      | disturb event => trivial
    exact ((launches_hold launches True).run hadmits).inv.unambiguous

namespace Sample

/-- Two wrappers that launch the same lane. -/
def launchArgs (name : String) : TmuxNewArgs where
  session := "issue-7"
  thread := some "1200"
  registration := registration
  command_to_send := some "codex"
  generation_id := "gen-" ++ name
  kickoff_operation_id := "kickoff-" ++ name
  launch_operation_id := "launch-" ++ name
  executor_id := "executor-" ++ name

def twoLaunches : Launches (Fin 2) "issue-7" where
  args who := launchArgs (if who = 0 then "1" else "2")
  session_eq _ := rfl
  fresh := by decide

/-- A wrapper goes on for some steps, and everything succeeds. -/
def goes (who : Fin 2) (steps : ℕ) : List (Move (Fin 2) LaunchChoice Call) := List.replicate steps (.run who {})

/-- The owner has verified its identity, and a second wrapper looks for its marker before it is set. -/
def overtaken : List (Move (Fin 2) LaunchChoice Call) := goes 0 9 ++ goes 1 7 ++ goes 0 3

/-- The same, where the second wrapper comes later. -/
def followed : List (Move (Fin 2) LaunchChoice Call) := goes 0 12 ++ goes 1 7 ++ goes 0 1

def launchLog (moves : List (Move (Fin 2) LaunchChoice Call)) : List (LaunchEntry (Fin 2)) :=
  ((launchShared plainCodec "issue-7").machine.run twoLaunches.start moves).world.log

/-- The commits of an ambiguous submission of a generation. -/
def givesUp (generation_id : String) : LaunchEntry (Fin 2) → Bool
  | .committed _ lane _ =>
    lane.generation_id == generation_id && lane.launch_state == .CommandSubmitAmbiguous
  | _ => false

/-- The owner reads its marker back, and its launch is given up all the same. -/
theorem second_wrapper_spoils :
    ∃ moves : List (Move (Fin 2) LaunchChoice Call), ¬ Unambiguous twoLaunches (launchLog moves) := by
  refine ⟨overtaken, fun h => ?_⟩
  have hread : .read 0 (.Exact "launch-1") ∈ launchLog overtaken := by decide +kernel
  have hgivesUp : (launchLog overtaken).any (givesUp "gen-1") = true := by decide +kernel
  obtain ⟨entry, hentry, hgives⟩ := List.any_eq_true.mp hgivesUp
  cases entry with
  | committed committer lane marker =>
    simp only [givesUp, Bool.and_eq_true, beq_iff_eq] at hgives
    exact h 0 hread committer lane marker hentry hgives.1 hgives.2
  | _ => cases hgives

/-- A second wrapper reads with care if it finds the marker of the lane. -/
def readsCarefully (threads : Threads (Fin 2) LaunchRequest.Reply (LaunchWorld (Fin 2) α)) :
    Move (Fin 2) LaunchChoice Call → Bool
  | .run who choice =>
    match threads.programs who with
    | .ask (.readLaneMarker option lane) _ =>
      lane.generation_id == (twoLaunches.args who).generation_id ||
        option != LANE_COMMAND_SUBMITTED_OPTION ||
        threads.world.readMarker option choice.command == .Exact lane.launch_operation_id
    | _ => true
  | _ => true

theorem admits_of_readsCarefully {threads : Threads (Fin 2) LaunchRequest.Reply (LaunchWorld (Fin 2) α)}
    {move : Move (Fin 2) LaunchChoice Call} (h : readsCarefully threads move = true) :
    threads.Admits (CarefulRead twoLaunches) move := by
  cases move with
  | run who choice =>
    simp only [Threads.Admits]
    simp only [readsCarefully] at h
    cases hprogram : threads.programs who with
    | pure value => trivial
    | ask request next =>
      rw [hprogram] at h
      cases request with
      | readLaneMarker option lane =>
        simp only [Bool.or_eq_true, bne_iff_ne, beq_iff_eq] at h
        intro hoption _ _ hother
        rcases h with (hown | hidentity) | hread
        · exact absurd hown hother
        · exact absurd hoption hidentity
        · exact .inl hread
      | _ => trivial
  | stop who => trivial
  | disturb event => trivial

/-- The second wrapper comes when the marker is set: it finishes the launch. -/
theorem followed_launch_is_proved :
    Unambiguous twoLaunches (launchLog followed) ∧ .read 0 (.Exact "launch-1") ∈ launchLog followed := by
  have hcareful : (launchShared plainCodec "issue-7").machine.alongCheck readsCarefully
      twoLaunches.start followed = true := by decide +kernel
  exact ⟨(proven_launches plainCodec twoLaunches followed).2
    (Machine.along_of_check _ (fun _ _ => admits_of_readsCarefully) hcareful), by decide +kernel⟩

end Sample

end Clawhip.Tmux
