import Clawhip.Tmux.Ownership

/-!
# Rules of launch requests

What each request of a wrapper keeps, and what the wrapper knows when it is answered.
-/

namespace Clawhip.Tmux

open List Option LaunchWorld Launch

variable {ι α : Type} {codec : RegistryCodec α} {session : String} {launches : Launches ι session}
  {careful : Prop} {who : ι} {mine mine' : LaunchEntry ι → Prop} {facts : List (LaunchEntry ι)}
  {world : LaunchWorld ι α}

/-! ## Snapshots -/

variable (launches) in
/-- A snapshot of a lane that a wrapper registered. -/
def Seen (log : List (LaunchEntry ι)) (snapshot : LaneSnapshot) : Prop :=
  ∃ lane, snapshot = laneSnapshot session lane none ∧ OwnedIn launches log lane ∧
    (lane.launch_state = .IdentityVerified → VerifiedIn log lane.generation_id)

variable {log : List (LaunchEntry ι)} {snapshot : LaneSnapshot} {lane : LaneEvidence} {detail : LaneDetail}
  {registry : Registry} {option generation_id value launch_operation_id : String}
  {post : Except String LaneSnapshot → LaunchWorld ι α → Prop} {later : LaunchWorld ι α}
  {state : LaneLaunchState} {input : LaneEvidenceMutation}

section

variable (h : Seen launches log snapshot)
include h

theorem Seen.mono {later : List (LaunchEntry ι)}
    (hlog : ∀ entry ∈ log, entry ∈ later) : Seen launches later snapshot := by
  obtain ⟨lane, rfl, howned, hverified⟩ := h
  exact ⟨lane, rfl, howned.mono hlog, fun hstate => (hverified hstate).mono hlog⟩

theorem Seen.session_eq : snapshot.session = session := by
  obtain ⟨lane, rfl, -⟩ := h
  rfl

/-- The owner of a generation that was seen has registered it, with its own launch operation. -/
theorem Seen.owner {owner : ι} (howner : (launches.args owner).generation_id = snapshot.generation_id) :
    snapshot.launch_operation_id = (launches.args owner).launch_operation_id ∧
      .registered owner snapshot.generation_id ∈ log := by
  obtain ⟨lane, rfl, ⟨registrant, hregistered, howns⟩, -⟩ := h
  obtain rfl : registrant = owner := launches.fresh registrant owner (howns.generation_id.symm.trans howner.symm)
  exact ⟨howns.launch_operation_id, hregistered⟩

theorem Seen.verified
    (hstate : snapshot.durable_launch_state = .IdentityVerified) : VerifiedIn log snapshot.generation_id := by
  obtain ⟨lane, rfl, -, hverified⟩ := h
  exact hverified hstate

end

theorem LaunchInv.seen (h : LaunchInv launches careful world) (hlane : world.store.registry.lane session = some lane) :
    Seen launches world.log (laneSnapshot session lane none) :=
  ⟨lane, rfl, h.lanes lane hlane, h.verified lane hlane⟩

/-- The lane that the daemon answers in detail. -/
theorem laneDetailForSession_ok (h : laneDetailForSession registry session = .ok detail) :
    ∃ lane, registry.lane session = some lane ∧ detail = laneDetail session lane none := by
  unfold laneDetailForSession at h
  cases hget : OrdMap.get registry session with
  | none =>
    rw [hget] at h
    cases h
  | some registration =>
    simp only [hget] at h
    cases hlane : registration.lane with
    | none =>
      rw [hlane] at h
      cases h
    | some lane =>
      rw [hlane] at h
      exact ⟨lane, Registry.lane_eq_some.mpr ⟨registration, hget, hlane⟩, (Except.ok.inj h).symm⟩

/-! ## Requests to the daemon -/

variable (session) in
/-- What the log becomes when a request is held. -/
theorem hold_log (world : LaunchWorld ι α) (store : Store α) (entry : LaneEvidence → Option (LaunchEntry ι)) :
    (world.hold session store entry).log = world.log ∨ ∃ lane, store.registry.lane session = some lane ∧
        store.registry.lane session ≠ world.store.registry.lane session ∧
        (world.hold session store entry).log = (entry lane).toList ++ world.log := by
  by_cases hsame : store.registry.lane session = world.store.registry.lane session
  · exact .inl (if_pos hsame)
  · have hlog : (world.hold session store entry).log =
        ((store.registry.lane session).bind entry).toList ++ world.log := if_neg hsame
    cases hlane : store.registry.lane session with
    | none => exact .inl (by rw [hlog, hlane]; rfl)
    | some lane => exact .inr ⟨lane, rfl, hlane ▸ hsame, by rw [hlog, hlane]; rfl⟩

/-- What a wrapper knows when its request was held. -/
theorem Knows.hold (h : Knows who mine facts world) (hmono : ∀ entry, mine entry → mine' entry)
    {store : Store α} {entry : LaneEvidence → Option (LaunchEntry ι)}
    (hentry : ∀ lane e, store.registry.lane session = some lane →
      store.registry.lane session ≠ world.store.registry.lane session → entry lane = some e → mine' e) :
    Knows who mine' facts (world.hold session store entry) := by
  rcases hold_log session world store entry with hlog | ⟨lane, hlane, hnew, hlog⟩
  · exact ⟨fun e he hwho => hmono e (h.own e (hlog ▸ he) hwho), fun e he => hlog ▸ h.facts e he⟩
  · refine ⟨fun e he hwho => ?_, fun e he => ?_⟩
    · rw [hlog, mem_append, mem_toList] at he
      rcases he with he | he
      · exact hentry lane e hlane hnew he
      · exact hmono e (h.own e he hwho)
    · rw [hlog]
      exact mem_append_right _ (h.facts e he)

/-- What is kept of the world while a wrapper is served, and what the wrapper knows then. -/
structure Serves (launches : Launches ι session) (careful : Prop) (who : ι)
    (mine : LaunchEntry ι → Prop) (facts : List (LaunchEntry ι)) (world later : LaunchWorld ι α) :
    Prop where
  inv : LaunchInv launches careful later
  others : ∀ other, other ≠ who → LaunchRely other world later
  knows : Knows who mine facts later

/-- A request about the lane. -/
theorem ask_serves (hinv : LaunchInv launches careful world) (hknows : Knows who mine facts world)
    (hmono : ∀ entry, mine entry → mine' entry) (hrunning : ¬ mine (.ended who)) (call : Call)
    {request : LaneRequest} (hrequest : call.request = some request)
    (hseen : request.seen = world.store.registry) (hsession : request.session = session)
    (entry : LaneEvidence → Option (LaunchEntry ι))
    (hentry : ∀ lane mutated, world.store.registry.lane session = some lane →
      request.mutate lane = .ok mutated → lane.Grows mutated → (∀ e, entry mutated.revised = some e →
          e.who = who ∧ Notable launches careful world e ∧ mine' e) ∧ (mutated.launch_state = .IdentityVerified →
          VerifiedIn ((entry mutated.revised).toList ++ world.log) mutated.generation_id)) (delivery : Delivery) :
    Serves launches careful who mine' facts world (world.ask codec session delivery call entry).1 ∧
      ∀ snapshot, (world.ask codec session delivery call entry).2 = .ok snapshot →
        Seen launches (world.ask codec session delivery call entry).1.log snapshot ∧
          ∃ lane, snapshot = laneSnapshot session lane none ∧ (request.look lane = .ok true ∨
            ∃ held mutated, request.mutate held = .ok mutated ∧ lane = mutated.revised) := by
  have hheld : Serves launches careful who mine' facts world
      (world.hold session (call.on codec 0 world.store).2 entry) := by
    rcases call_lane codec session hrequest world.store with
      hsame | ⟨lane, mutated, hlane, hadmitted, hmutate, hgrows, hnext⟩
    · obtain ⟨hkept, hothers⟩ := hinv.hold (hknows.running hrunning) entry (.inl hsame)
      exact ⟨hkept, hothers, hknows.hold hmono fun _ _ _ hnew _ => absurd hsame hnew⟩
    · obtain ⟨hwritten, hverified⟩ := hentry lane mutated hlane hmutate hgrows
      have howned := (hinv.lanes lane hlane).of_grows hgrows
      obtain ⟨hkept, hothers⟩ := hinv.hold (hknows.running hrunning) entry
        (.inr ⟨_, hnext, fun e he => ⟨(hwritten e he).1, (hwritten e he).2.1⟩,
          howned.mono fun _ => mem_append_right _, hverified⟩)
      refine ⟨hkept, hothers, hknows.hold hmono fun lane' e hlane' _ he => ?_⟩
      obtain rfl := some.inj (hnext.symm.trans hlane')
      exact (hwritten e he).2.2
  rcases request_cases session world delivery
    (snapshotOf (call.on codec 0 world.store).1, (call.on codec 0 world.store).2) entry with
    ⟨hworld, hfailed⟩ | ⟨hworld, hserved⟩
  · have hasked : (world.ask codec session delivery call entry).1 = world := hworld
    rw [hasked]
    exact ⟨⟨hinv, fun other _ => .refl other world, hknows.mono hmono⟩,
      fun snapshot hok => absurd hok (hfailed snapshot)⟩
  · have hasked : (world.ask codec session delivery call entry).1 =
        world.hold session (call.on codec 0 world.store).2 entry := hworld
    rw [hasked]
    refine ⟨hheld, fun snapshot hok => ?_⟩
    obtain ⟨lane, hlane, rfl, hshown⟩ := call_snapshot hrequest hseen (hserved snapshot hok)
    rw [hsession] at hlane ⊢
    exact ⟨hheld.inv.seen hlane, lane, rfl, hshown⟩

/-! ## The rules -/

/-- What goes on after a request: whatever is answered, it is good if it came out well. -/
def Answers {β : Type} (who : ι) (mine : LaunchEntry ι → Prop) (facts : List (LaunchEntry ι))
    (good : LaunchWorld ι α → β → Prop) (post : Except String β → LaunchWorld ι α → Prop) : Prop :=
  ∀ later reply, Knows who mine facts later → (∀ value, reply = .ok value → good later value) → post reply later

/-- A request that changes nothing. -/
theorem ok_silent {request : LaunchRequest} {post : request.Reply → LaunchWorld ι α → Prop}
    (hsilent : ∀ choice (later : LaunchWorld ι α),
      (serve codec session who request choice later).1 = later) (hknows : Knows who mine facts world)
    (hpost : ∀ choice later, LaunchInv launches careful later → Knows who mine facts later →
      post (serve codec session who request choice later).2 later) :
    (launchContract codec launches careful).Ok who (Prog.request request) post world := by
  intro later hrely hinv choice _
  have hworld : ((launchShared codec session).serve who request choice later).1 = later := hsilent choice later
  have hlater := hknows.stable hrely
  simp only [hworld]
  exact ⟨hinv, fun other _ => .refl other later, hpost choice later hinv hlater⟩

section

variable (hknows : Knows who mine facts world)
include hknows

theorem ok_laneDetail {post : Except String LaneDetail → LaunchWorld ι α → Prop}
    (hpost : Answers who mine facts (fun later detail => Seen launches later.log detail.snapshot) post) :
    (launchContract codec launches careful).Ok who Launch.laneDetail post world := by
  have hcases (choice : LaunchChoice) (later : LaunchWorld ι α) := request_cases session later choice.delivery
      (laneDetailForSession later.store.registry session, later.store) (fun _ => none)
  refine ok_silent (fun choice later => ?_) hknows fun choice later hinv hlater => ?_
  · rcases hcases choice later with ⟨hworld, -⟩ | ⟨hworld, -⟩
    · exact hworld
    · exact hworld.trans (hold_self later _)
  · refine hpost later _ hlater fun detail hok => ?_
    rcases hcases choice later with ⟨-, hfailed⟩ | ⟨-, hserved⟩
    · exact absurd hok (hfailed detail)
    · obtain ⟨lane, hlane, rfl⟩ := laneDetailForSession_ok (hserved detail hok)
      exact hinv.seen hlane

theorem ok_sendThread {message : String} {post : Except DiscordLaneError (String × String) → LaunchWorld ι α → Prop}
    (hpost : ∀ later reply, Knows who mine facts later → post reply later) :
    (launchContract codec launches careful).Ok who (sendThread message) post world :=
  ok_silent (fun _ _ => rfl) hknows fun _ later _ hlater => hpost later _ hlater

theorem ok_sessionExists {post : Except String Bool → LaunchWorld ι α → Prop}
    (hpost : ∀ later reply, Knows who mine facts later → post reply later) :
    (launchContract codec launches careful).Ok who sessionExists post world :=
  ok_silent (fun _ _ => rfl) hknows fun _ later _ hlater => hpost later _ hlater

end

/-- The identity markers are read. -/
theorem ok_readLaneMarker (hoption : option ≠ LANE_COMMAND_SUBMITTED_OPTION)
    {post : MarkerRead → LaunchWorld ι α → Prop} (hknows : Knows who mine facts world)
    (hpost : ∀ later reply, Knows who mine facts later → post reply later) :
    (launchContract codec launches careful).Ok who (readLaneMarker option snapshot) post world :=
  ok_silent (fun _ _ => if_neg hoption) hknows fun _ later _ hlater => hpost later _ hlater

/-- A registration that is answered without being recorded shows a lane of its own generation. -/
theorem LaneRegistrationInput.answer_ok {input : LaneRegistrationInput} {generation : ℕ}
    (h : input.answer generation registry = some (.ok detail)) :
    ∃ lane, registry.lane input.registration.session = some lane ∧
      detail = laneDetail input.registration.session lane none ∧ lane.generation_id = input.generation_id := by
  unfold answer at h
  split at h
  · cases h
  split at h
  · cases h
  cases hget : OrdMap.get registry input.registration.session with
  | none =>
    rw [hget] at h
    cases h
  | some existing =>
    simp only [hget] at h
    cases hlane : existing.lane with
    | none =>
      rw [hlane] at h
      cases h
    | some lane =>
      simp only [hlane] at h
      by_cases hsame : (input.repeats lane && { existing with lane := none } == input.public generation) = true
      · rw [if_pos hsame] at h
        simp only [repeats, Bool.and_eq_true, beq_iff_eq] at hsame
        exact ⟨lane, Registry.lane_eq_some.mpr ⟨existing, hget, hlane⟩, by cases h; rfl, hsame.1.1.1.1.1.1.2⟩
      · rw [if_neg hsame] at h
        split at h <;> cases h

variable (codec) in
/-- A registration leaves the lane, or records a new one. -/
theorem register_cases (store : Store α) (written : Except String Unit) (generation : ℕ)
    (input : LaneRegistrationInput) : ((store.registerLaneRegistration codec written generation id input).2 = store ∧
        ∀ detail, (store.registerLaneRegistration codec written generation id input).1 = .ok detail →
          ∃ lane, store.registry.lane input.registration.session = some lane ∧
            detail = laneDetail input.registration.session lane none ∧ lane.generation_id = input.generation_id) ∨
      (store.registerLaneRegistration codec written generation id input).2.registry.lane
          input.registration.session = some input.lane ∧
        ∀ detail, (store.registerLaneRegistration codec written generation id input).1 = .ok detail →
          detail = laneDetail input.registration.session input.lane none := by
  unfold Store.registerLaneRegistration
  cases hanswer : input.answer generation store.registry with
  | some answer =>
    refine .inl ⟨rfl, fun detail hok => ?_⟩
    have hok : answer = .ok detail := hok
    subst hok
    exact input.answer_ok hanswer
  | none =>
    simp only
    cases hwritten : written with
    | error e =>
      rw [store.swap_error rfl]
      exact .inl ⟨rfl, fun _ hok => nomatch hok⟩
    | ok =>
      rw [store.swap_ok rfl]
      refine .inr ⟨Registry.lane_insert_self, fun detail hok => ?_⟩
      obtain ⟨lane, hlane, rfl⟩ := laneDetailForSession_ok hok
      obtain rfl := some.inj (hlane.symm.trans Registry.lane_insert_self)
      rfl

section

variable (hknows : Knows who mine facts world)
include hknows

/-- A lane is registered: it is that of the wrapper. -/
theorem ok_registerLane {post : Except String LaneDetail → LaunchWorld ι α → Prop} (hrunning : ¬ mine (.ended who))
    (hmine : mine (.registered who (launches.args who).generation_id)) (hpost : Answers who mine facts
      (fun later detail => Seen launches later.log detail.snapshot ∧
        detail.snapshot.generation_id = (launches.args who).generation_id) post) :
    (launchContract codec launches careful).Ok who
      (registerLane (launches.args who).laneRegistrationInput) post world := by
  intro later hrely hinv choice _
  have hlater := hknows.stable hrely
  have hregistered := register_cases codec later.store choice.written choice.generation
    (launches.args who).laneRegistrationInput
  rw [show (launches.args who).laneRegistrationInput.registration.session = session from
    launches.session_eq who] at hregistered
  have hserve : (launchShared codec session).serve who
      (.registerLane (launches.args who).laneRegistrationInput) choice later = later.request session choice.delivery
        (later.store.registerLaneRegistration codec choice.written choice.generation id
          (launches.args who).laneRegistrationInput)
        fun lane => some (.registered who lane.generation_id) := rfl
  simp only [hserve]
  generalize later.store.registerLaneRegistration codec choice.written choice.generation id
    (launches.args who).laneRegistrationInput = served at hregistered ⊢
  rcases request_cases session later choice.delivery served (fun lane => some (.registered who lane.generation_id)) with
    ⟨hworld, hfailed⟩ | ⟨hworld, hserved⟩
  · rw [hworld]
    exact ⟨hinv, fun other _ => .refl other later, hpost later _ hlater fun detail hok => absurd hok (hfailed detail)⟩
  rw [hworld]
  rcases hregistered with ⟨hstore, hshown⟩ | ⟨hlane, hshown⟩
  · -- The lane was there already.
    rw [hstore, hold_self]
    refine ⟨hinv, fun other _ => .refl other later, hpost later _ hlater fun detail hok => ?_⟩
    obtain ⟨lane, hlane, rfl, hgeneration⟩ := hshown detail (hserved detail hok)
    exact ⟨hinv.seen hlane, hgeneration⟩
  · have hnotable : Notable launches careful later (.registered who (launches.args who).generation_id) :=
      { justified := trivial
        registered := fun _ _ hentry => by cases hentry; rfl
        created := fun _ hentry => nomatch hentry
        commits := fun _ _ _ hentry => nomatch hentry
        reads := fun _ _ hentry => nomatch hentry
        spoils := fun _ _ _ _ hentry _ => nomatch hentry }
    obtain ⟨hkept, hothers⟩ := hinv.hold (hlater.running hrunning)
      (fun lane => some (.registered who lane.generation_id))
      (.inr ⟨_, hlane, fun e he => by cases he; exact ⟨rfl, hnotable⟩,
        ⟨who, mem_cons_self, rfl, rfl⟩, fun hstate => nomatch hstate⟩)
    have hknown : Knows who mine facts (later.hold session served.2
        fun lane => some (.registered who lane.generation_id)) := by
      refine hlater.hold (fun _ h => h) fun lane e hlane' _ he => ?_
      obtain rfl := some.inj (hlane.symm.trans hlane')
      cases he
      exact hmine
    refine ⟨hkept, hothers, hpost _ _ hknown fun detail hok => ?_⟩
    obtain rfl := hshown detail (hserved detail hok)
    exact ⟨hkept.seen hlane, rfl⟩

theorem ok_claimLane (hrunning : ¬ mine (.ended who))
    {executor_id : String} {expected_revision : ℕ} (hpost : Answers who mine facts
      (fun later snapshot => Seen launches later.log snapshot ∧
        snapshot.generation_id = generation_id) post) : (launchContract codec launches careful).Ok who
      (claimLane generation_id executor_id expected_revision) post world := by
  intro later hrely hinv choice _
  obtain ⟨hserves, hreply⟩ := ask_serves hinv (hknows.stable hrely) (fun _ h => h) hrunning
    (.claim later.store.registry session generation_id executor_id expected_revision
      choice.written) rfl rfl rfl (fun _ => none)
    (fun lane mutated _ hmutate _ => by
      obtain ⟨-, -, -, rfl⟩ := claimMutate_spec hmutate
      exact ⟨fun _ hnone => (nomatch hnone), fun hstate => nomatch hstate⟩) choice.delivery
  refine ⟨hserves.inv, hserves.others, hpost _ _ hserves.knows fun snapshot hok => ?_⟩
  obtain ⟨hseen, lane, rfl, hlook | ⟨held, mutated, hmutate, rfl⟩⟩ := hreply snapshot hok
  · simp only at hlook
    split_ifs at hlook
    simp only [Except.ok.injEq, Bool.and_eq_true, beq_iff_eq] at hlook
    exact ⟨hseen, hlook.1.1.2⟩
  · obtain ⟨hgeneration, -, -, rfl⟩ := claimMutate_spec hmutate
    exact ⟨hseen, hgeneration⟩

/-- The delivery of the kickoff is recorded. -/
theorem ok_recordLaneDelivery (hrunning : ¬ mine (.ended who))
    {input : LaneDeliveryMutation} (hsession : input.session = session) (hpost : Answers who mine facts
      (fun later snapshot => Seen launches later.log snapshot ∧ snapshot.generation_id = input.generation_id) post) :
    (launchContract codec launches careful).Ok who (recordLaneDelivery input) post world := by
  intro later hrely hinv choice _
  obtain ⟨hserves, hreply⟩ := ask_serves hinv (hknows.stable hrely) (fun _ h => h) hrunning
    (.recordDelivery later.store.registry input choice.written) rfl rfl hsession
    (fun _ => none)
    (fun lane mutated hlane hmutate hgrows => by
      refine ⟨fun _ hnone => (nomatch hnone), fun hstate => ?_⟩
      have hwas : lane.launch_state = .IdentityVerified :=
        (others_launch (.recordDelivery later.store.registry input choice.written) rfl rfl hmutate).symm.trans hstate
      have hverified := hinv.verified lane hlane hwas
      rwa [← hgrows.identity.generation_id] at hverified) choice.delivery
  refine ⟨hserves.inv, hserves.others, hpost _ _ hserves.knows fun snapshot hok => ?_⟩
  obtain ⟨hseen, lane, rfl, hlook | ⟨held, mutated, hmutate, rfl⟩⟩ := hreply snapshot hok
  · have hrepeats : input.repeats lane = true := Except.ok.inj hlook
    unfold LaneDeliveryMutation.repeats at hrepeats
    split at hrepeats
    · simp only [Bool.and_eq_true, beq_iff_eq] at hrepeats
      exact ⟨hseen, hrepeats.1.1.1.1.1.1.1.1.1.2⟩
    · simp only [Bool.and_eq_true, beq_iff_eq] at hrepeats
      exact ⟨hseen, hrepeats.1.1.1.1.1.1.1.2⟩
  · obtain ⟨haccepts, rfl⟩ := input.mutate_ok hmutate
    obtain ⟨-, -, -, hidentity⟩ := input.delivered_spec held
    exact ⟨hseen, hidentity.generation_id.trans haccepts.1⟩

end

/-! ## Commits -/

/-- A wrapper may commit a launch state of a generation: `Launched` only with its submitted marker, and an
ambiguous submission only if nobody can prove the launch any more. -/
structure MayCommit (launches : Launches ι session) (careful : Prop) (who : ι)
    (generation_id launch_operation_id : String) (state : LaneLaunchState) (world : LaunchWorld ι α) :
    Prop where
  launched : state = .Launched → world.submitted.map normalizeLaneMarker = some launch_operation_id
  ambiguous : careful → state = .CommandSubmitAmbiguous → Unspoiled launches world.log who generation_id

theorem Unspoiled.stable (h : Unspoiled launches world.log who generation_id)
    (hrely : LaunchRely who world later) : Unspoiled launches later.log who generation_id := by
  intro owner howner
  obtain ⟨hunread, hended⟩ := h owner howner
  refine ⟨fun hread => hunread ?_, hended.imp_right (hrely.log _)⟩
  -- A new entry of the owner would be one of the wrapper, or of one that has ended.
  rcases hended with rfl | hended
  · exact hrely.own _ hread rfl
  · exact hrely.ended owner hended _ hread rfl

theorem LaunchRely.marker (h : LaunchRely who world later)
    (hvalue : world.submitted.map normalizeLaneMarker = some value) :
    later.submitted.map normalizeLaneMarker = some value := by
  obtain ⟨written, hwritten, rfl⟩ := map_eq_some_iff.mp hvalue
  rw [h.submitted written hwritten]
  rfl

theorem MayCommit.stable (h : MayCommit launches careful who generation_id launch_operation_id state world)
    (hrely : LaunchRely who world later) :
    MayCommit launches careful who generation_id launch_operation_id state later where
  launched hstate := hrely.marker (h.launched hstate)
  ambiguous hcareful hstate := (h.ambiguous hcareful hstate).stable hrely

/-- A state that is neither is committed without more. -/
theorem MayCommit.of_other (hlaunched : state ≠ .Launched) (hambiguous : state ≠ .CommandSubmitAmbiguous) :
    MayCommit launches careful who generation_id launch_operation_id state world :=
  ⟨fun h => absurd h hlaunched, fun _ h => absurd h hambiguous⟩

/-- An update is made of the lane that it names. -/
theorem LaneEvidenceMutation.mutate_identity {mutated : LaneEvidence} (h : input.mutate lane = .ok mutated) :
    lane.generation_id = input.generation_id ∧ lane.launch_operation_id = input.launch_operation_id := by
  unfold mutate at h
  split_ifs at h with hconflict
  simp only [ne_eq, not_or, not_not] at hconflict
  exact ⟨hconflict.1, hconflict.2.1⟩

/-- The lane that an update shows. -/
theorem LaneEvidenceMutation.shown (h : input.repeats lane = true ∨
      ∃ held mutated, input.mutate held = .ok mutated ∧ lane = mutated.revised) :
    lane.generation_id = input.generation_id ∧ lane.launch_state = input.launch_state := by
  rcases h with hrepeats | ⟨held, mutated, hmutate, rfl⟩
  · simp only [repeats, Bool.and_eq_true, beq_iff_eq] at hrepeats
    exact ⟨hrepeats.1.1.1.1.1.2, hrepeats.1.2⟩
  · obtain ⟨rfl, -⟩ := input.mutate_spec hmutate
    exact ⟨(mutate_identity hmutate).1, rfl⟩

/-- A launch state is committed. -/
theorem ok_updateLaneEvidence (hknows : Knows who mine facts world) (hrunning : ¬ mine (.ended who))
    (hsession : input.session = session)
    (hmay : MayCommit launches careful who input.generation_id input.launch_operation_id
      input.launch_state world) (hmono : ∀ entry, mine entry → mine' entry)
    (hcommit : ∀ lane marker, lane.launch_state = input.launch_state →
      mine' (.committed who lane marker)) (hpost : Answers who mine' facts
      (fun later snapshot => Seen launches later.log snapshot ∧ snapshot.generation_id = input.generation_id ∧
        snapshot.durable_launch_state = input.launch_state) post) :
    (launchContract codec launches careful).Ok who (updateLaneEvidence input) post world := by
  intro later hrely hinv choice _
  have hmay := hmay.stable hrely
  obtain ⟨hserves, hreply⟩ := ask_serves hinv (hknows.stable hrely) hmono hrunning
    (.updateEvidence later.store.registry input choice.written) rfl rfl hsession
    (fun lane => some (.committed who lane (later.marker LANE_COMMAND_SUBMITTED_OPTION)))
    (fun lane mutated hlane hmutate hgrows => by
      have hstate : mutated.revised.launch_state = input.launch_state := by
        obtain ⟨rfl, -⟩ := input.mutate_spec hmutate
        rfl
      have howned := (hinv.lanes lane hlane).of_grows hgrows
      obtain ⟨hgeneration, hoperation⟩ : mutated.revised.generation_id = input.generation_id ∧
            mutated.revised.launch_operation_id = input.launch_operation_id := by
        obtain ⟨hgeneration, hoperation⟩ := input.mutate_identity hmutate
        exact ⟨hgrows.identity.generation_id.trans hgeneration, hgrows.identity.launch_operation_id.trans hoperation⟩
      refine ⟨fun e he => ?_, fun hverified => ?_⟩
      · cases he
        refine ⟨rfl, ?_, hcommit _ _ hstate⟩
        exact
          { justified := fun hlaunched => by
              rw [hoperation]
              exact hmay.launched (hstate.symm.trans hlaunched)
            registered := fun _ _ hentry => nomatch hentry
            created := fun _ hentry => nomatch hentry
            commits := fun _ _ _ hentry => by cases hentry; exact howned
            reads := fun _ _ hentry => nomatch hentry
            spoils := fun hcareful _ _ _ hentry hambiguous => by
              cases hentry
              rw [hgeneration]
              exact hmay.ambiguous hcareful (hstate.symm.trans hambiguous) }
      · exact ⟨who, mutated.revised, _, mem_cons_self, rfl, hverified⟩) choice.delivery
  refine ⟨hserves.inv, hserves.others, hpost _ _ hserves.knows fun snapshot hok => ?_⟩
  obtain ⟨hseen, lane, rfl, hshown⟩ := hreply snapshot hok
  exact ⟨hseen, input.shown (hshown.imp_left Except.ok.inj)⟩

/-! ## Requests to tmux -/

variable (mine') in
/-- A wrapper writes an entry of its own. -/
theorem LaunchInv.serves_note (hinv : LaunchInv launches careful world) (hknows : Knows who mine facts world)
    (hrunning : ¬ mine (.ended who)) {entry : LaunchEntry ι} (hwho : entry.who = who)
    (hnotable : Notable launches careful world entry) (hmono : ∀ entry, mine entry → mine' entry)
    (hmine : mine' entry) : Serves launches careful who mine' (entry :: facts) world (world.note entry) :=
  ⟨hinv.note hnotable, fun _ hne => .of_note hne (hknows.running hrunning) hwho, hknows.of_note hmono hmine⟩

/-- A command that was sent is one of the wrapper that registered it. -/
theorem Justified.sent (h : Justified log) {sender : ι} (hsent : .sent sender generation_id ∈ log) :
    .registered sender generation_id ∈ log := by
  induction log with
  | nil => exact absurd hsent not_mem_nil
  | cons entry older ih =>
    obtain ⟨hentry, holder⟩ := h
    rcases mem_cons.mp hsent with rfl | hsent
    · exact mem_cons_of_mem _ hentry.1
    · exact mem_cons_of_mem _ (ih holder hsent)

variable (mine') in
/-- The command is sent: it has not been yet. -/
theorem ok_submitCommand {command : String} {post : Except String Unit → LaunchWorld ι α → Prop}
    (hknows : Knows who mine facts world) (hrunning : ¬ mine (.ended who))
    (hunsent : ¬ mine (.sent who snapshot.generation_id)) (hregistered : .registered who snapshot.generation_id ∈ facts)
    (hverified : VerifiedIn world.log snapshot.generation_id) (hmono : ∀ entry, mine entry → mine' entry)
    (hmine : mine' (.sent who snapshot.generation_id))
    (hpost : ∀ later reply, Knows who mine' facts later → post reply later) :
    (launchContract codec launches careful).Ok who (Launch.submitCommand command snapshot) post world := by
  intro later hrely hinv choice _
  have hlater := hknows.stable hrely
  have hfact := hlater.facts _ hregistered
  have hnotable : Notable launches careful later (.sent who snapshot.generation_id) :=
    { justified := by
        refine ⟨hfact, hverified.mono hrely.log, fun other hsent => hunsent ?_⟩
        -- Only the owner of the generation sends its command.
        have hother := hinv.registered other _ (hinv.justified.sent hsent)
        have hself := hinv.registered who _ hfact
        obtain rfl := launches.fresh other who (hother.symm.trans hself)
        exact hlater.own _ hsent rfl
      registered := fun _ _ hentry => nomatch hentry
      created := fun _ hentry => nomatch hentry
      commits := fun _ _ _ hentry => nomatch hentry
      reads := fun _ _ hentry => nomatch hentry
      spoils := fun _ _ _ _ hentry _ => nomatch hentry }
  have hserves := hinv.serves_note mine' hlater hrunning rfl hnotable hmono hmine
  exact ⟨hserves.inv, hserves.others, hpost _ _ hserves.knows.tail⟩

/-- The session is created, if it is not there. -/
theorem ok_newSession {post : DetachedSessionOutcome → LaunchWorld ι α → Prop}
    (hknows : Knows who mine facts world) (hrunning : ¬ mine (.ended who)) (hmine : mine (.created who))
    (hpost : ∀ later reply, Knows who mine facts later →
      (reply = .Created → Knows who mine (.created who :: facts) later) → post reply later) :
    (launchContract codec launches careful).Ok who newSession post world := by
  intro later hrely hinv choice _
  have hlater := hknows.stable hrely
  have hserve : (launchShared codec session).serve who .newSession choice later =
    later.createSession who choice.command := rfl
  simp only [hserve]
  cases htmux : later.tmux with
  | some options =>
    -- No second session of the name is created.
    have hsame : (later.createSession who choice.command).1 = later ∧
        (later.createSession who choice.command).2 ≠ .Created := by
      unfold createSession
      rw [htmux]
      rcases choice.command with _ | _ | _ | (_ | _) <;> exact ⟨rfl, nofun⟩
    rw [hsame.1]
    exact ⟨hinv, fun other _ => .refl other later, hpost later _ hlater fun hcreated => absurd hcreated hsame.2⟩
  | none =>
    have hnone : later.submitted = none := by
      unfold submitted marker
      rw [htmux]
      rfl
    have hempty : ∀ other, .created other ∉ later.log := fun other hmem => by
      have hsome := (hinv.created other hmem).2.1
      rw [htmux] at hsome
      cases hsome
    -- The session is empty at first, and then the creation is noted.
    have hsubmitted : ∀ value, later.submitted = some value →
        { later with tmux := some [] }.submitted = some value := fun value hvalue => by
      rw [hnone] at hvalue
      cases hvalue
    have hopen : LaunchInv launches careful { later with tmux := some [] } :=
      hinv.with_tmux hsubmitted fun other hmem => absurd hmem (hempty other)
    have hopened : LaunchRely who later { later with tmux := some [] } := .of_tmux who later hsubmitted
    have hnotable : Notable launches careful { later with tmux := some [] } (.created who) :=
      { justified := trivial
        registered := fun _ _ hentry => nomatch hentry
        created := fun _ hentry => by
          cases hentry
          exact ⟨hempty, rfl, fun _ hvalue => nomatch hvalue⟩
        commits := fun _ _ _ hentry => nomatch hentry
        reads := fun _ _ hentry => nomatch hentry
        spoils := fun _ _ _ _ hentry _ => nomatch hentry }
    have hserves := hopen.serves_note _ (hlater.stable hopened) hrunning rfl hnotable (fun _ h => h) hmine
    set created := ({ later with tmux := some [] } : LaunchWorld ι α).note (.created who)
    have hcases : (later.createSession who choice.command).1 = later ∧
          (later.createSession who choice.command).2 ≠ .Created ∨
        (later.createSession who choice.command).1 = created := by
      unfold createSession
      rw [htmux]
      rcases choice.command with _ | _ | _ | (_ | _)
      · exact .inl ⟨rfl, nofun⟩
      · exact .inr rfl
      · exact .inl ⟨rfl, nofun⟩
      · exact .inl ⟨rfl, nofun⟩
      · exact .inr rfl
    rcases hcases with ⟨hsame, hfailed⟩ | hsame
    · rw [hsame]
      exact ⟨hinv, fun other _ => .refl other later, hpost later _ hlater fun hcreated => absurd hcreated hfailed⟩
    · rw [hsame]
      exact ⟨hserves.inv, fun other hne => (LaunchRely.of_tmux other later hsubmitted).trans
        (hserves.others other hne), hpost _ _ hserves.knows.tail fun _ => hserves.knows⟩

/-- The world with an option of the session set. -/
def LaunchWorld.withMarker (world : LaunchWorld ι α) (option value : String) : LaunchWorld ι α :=
  { world with tmux := world.tmux.map fun options => OrdMap.insert options option value }

/-- What the submitted marker is when an option was set. -/
theorem LaunchWorld.submitted_withMarker (world : LaunchWorld ι α) (option value : String) :
    (world.withMarker option value).submitted =
      if option = LANE_COMMAND_SUBMITTED_OPTION then world.tmux.map fun _ => value else world.submitted := by
  unfold withMarker submitted marker
  cases world.tmux with
  | none => simp
  | some options =>
    by_cases hoption : option = LANE_COMMAND_SUBMITTED_OPTION
    · rw [if_pos hoption, ← hoption]
      exact OrdMap.get_insert_self options option value
    · rw [if_neg hoption]
      exact OrdMap.get_insert_ne options value (Ne.symm hoption)

theorem LaunchWorld.setMarker_cases (world : LaunchWorld ι α) (option value : String) (run : CommandRun) :
    (world.setMarker option value run).1 = world ∨
      (world.setMarker option value run).1 = world.withMarker option value := by
  rcases run with _ | _ | _ | (_ | _)
  · exact .inl rfl
  · exact .inr rfl
  · exact .inl rfl
  · exact .inl rfl
  · exact .inr rfl

/-- A marker is set; the submitted marker only by the wrapper that created the session. -/
theorem ok_setLaneMarker {post : MarkerSetOutcome → LaunchWorld ι α → Prop}
    (hknows : Knows who mine facts world) (hvalue : option = LANE_COMMAND_SUBMITTED_OPTION →
      .created who ∈ facts ∧ value = (launches.args who).launch_operation_id)
    (hpost : ∀ later reply, Knows who mine facts later → post reply later) :
    (launchContract codec launches careful).Ok who (setLaneMarker option value) post world := by
  intro later hrely hinv choice _
  have hlater := hknows.stable hrely
  have hserve : (launchShared codec session).serve who (.setLaneMarker option value) choice later =
    later.setMarker option value choice.command := rfl
  simp only [hserve]
  have hset := later.submitted_withMarker option value
  have hkeeps : ∀ written, later.submitted = some written →
      (later.withMarker option value).submitted = some written := by
    intro written hwritten
    rw [hset]
    split
    · rename_i hoption
      -- The creator of the session has set the same value.
      obtain ⟨hcreated, rfl⟩ := hvalue hoption
      obtain ⟨-, hthere, hown⟩ := hinv.created who (hlater.facts _ hcreated)
      obtain ⟨options, htmux⟩ := isSome_iff_exists.mp hthere
      rw [htmux, hown written hwritten]
      rfl
    · exact hwritten
  have hserves : Serves launches careful who mine facts later (later.withMarker option value) := by
    refine ⟨hinv.with_tmux hkeeps fun creator hcreator => ?_,
      fun other _ => .of_tmux other later hkeeps, hlater.stable (.of_tmux who later hkeeps)⟩
    obtain ⟨-, hthere, hown⟩ := hinv.created creator hcreator
    refine ⟨by rw [isSome_map]; exact hthere, fun written hwritten => ?_⟩
    have hwritten := hset.symm.trans hwritten
    split at hwritten
    · rename_i hoption
      obtain ⟨hcreated, rfl⟩ := hvalue hoption
      obtain ⟨_, -, rfl⟩ := map_eq_some_iff.mp hwritten
      rw [(hinv.created who (hlater.facts _ hcreated)).1 creator hcreator]
    · exact hown written hwritten
  rcases later.setMarker_cases option value choice.command with hsame | hsame
  · rw [hsame]
    exact ⟨hinv, fun other _ => .refl other later, hpost later _ hlater⟩
  · rw [hsame]
    exact ⟨hserves.inv, hserves.others, hpost _ _ hserves.knows⟩

/-- A marker that was read is that of the session. -/
theorem LaunchWorld.readMarker_exact {run : CommandRun} (h : world.readMarker option run = .Exact value) :
    (world.marker option).map normalizeLaneMarker = some value := by
  unfold readMarker at h
  split at h
  · cases hmarker : (world.marker option).map normalizeLaneMarker with
    | none =>
      rw [hmarker] at h
      cases h
    | some written =>
      simp only [hmarker] at h
      split at h
      · cases h
      · rw [MarkerRead.Exact.inj h]
  · cases h

/-- What a second wrapper knows of a generation when it has read the marker with care. -/
def ReadWithCare (launches : Launches ι session) (who : ι) (snapshot : LaneSnapshot)
    (reply : MarkerRead) (world : LaunchWorld ι α) : Prop :=
  snapshot.durable_launch_state = .IdentityVerified → snapshot.worker_effect_kind = .CommandSubmission →
    snapshot.generation_id ≠ (launches.args who).generation_id → reply = .Exact snapshot.launch_operation_id ∨
      world.submitted.map normalizeLaneMarker ≠ some snapshot.launch_operation_id ∧
        ∀ owner, (launches.args owner).generation_id = snapshot.generation_id → .ended owner ∈ world.log

/-- The submitted marker is read, by a wrapper that has not committed an ambiguous submission. -/
theorem ok_readSubmitted {post : MarkerRead → LaunchWorld ι α → Prop} (hknows : Knows who mine facts world)
    (hrunning : ¬ mine (.ended who)) (hcommits : ∀ lane marker, mine (.committed who lane marker) →
      lane.launch_state ≠ .CommandSubmitAmbiguous) (hpost : ∀ later reply, LaunchInv launches careful later →
      Knows who (fun entry => mine entry ∨ entry = .read who reply) facts later →
      (∀ value, reply = .Exact value → later.submitted.map normalizeLaneMarker = some value) →
      (careful → ReadWithCare launches who snapshot reply later) → post reply later) :
    (launchContract codec launches careful).Ok who
      (readLaneMarker LANE_COMMAND_SUBMITTED_OPTION snapshot) post world := by
  intro later hrely hinv choice hallowed
  have hlater := hknows.stable hrely
  have hserve : (launchShared codec session).serve who
      (.readLaneMarker LANE_COMMAND_SUBMITTED_OPTION snapshot) choice later =
      (later.note (.read who (later.readMarker LANE_COMMAND_SUBMITTED_OPTION choice.command)),
        later.readMarker LANE_COMMAND_SUBMITTED_OPTION choice.command) := by
    change (if _ then _ else _, _) = _
    rw [if_pos rfl]
    rfl
  simp only [hserve]
  have hexact : ∀ value, later.readMarker LANE_COMMAND_SUBMITTED_OPTION choice.command = .Exact value →
      later.submitted.map normalizeLaneMarker = some value :=
    fun value hvalue => readMarker_exact hvalue
  have hcare : careful → ReadWithCare launches who snapshot
      (later.readMarker LANE_COMMAND_SUBMITTED_OPTION choice.command) later :=
    fun hcareful => hallowed hcareful rfl
  generalize later.readMarker LANE_COMMAND_SUBMITTED_OPTION choice.command = reply at hexact hcare ⊢
  have hnotable : Notable launches careful later (.read who reply) :=
    { justified := trivial
      registered := fun _ _ hentry => nomatch hentry
      created := fun _ hentry => nomatch hentry
      commits := fun _ _ _ hentry => nomatch hentry
      reads := fun hcareful reader hentry => by
        cases hentry
        refine ⟨hexact _ rfl, fun committer lane marker hcommit hambiguous howned => ?_⟩
        -- It was committed by the wrapper itself, or when that had ended.
        obtain ⟨-, hself | hended⟩ := hinv.spoils hcareful committer lane marker hcommit hambiguous who howned.symm
        · subst hself
          exact hcommits lane marker (hlater.own _ hcommit rfl) hambiguous
        · exact hlater.running hrunning hended
      spoils := fun _ _ _ _ hentry _ => nomatch hentry }
  have hserves := hinv.serves_note (fun entry => mine entry ∨ entry = .read who reply) hlater
    hrunning rfl hnotable (fun _ h => .inl h) (.inr rfl)
  refine ⟨hserves.inv, hserves.others, hpost _ _ hserves.inv hserves.knows.tail hexact
    fun hcareful hstate hkind hother => ?_⟩
  rcases hcare hcareful hstate hkind hother with hread | ⟨hmarker, hended⟩
  · exact .inl hread
  · exact .inr ⟨hmarker, fun owner howner => mem_cons_of_mem _ (hended owner howner)⟩

end Clawhip.Tmux
