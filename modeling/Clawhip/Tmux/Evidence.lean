import Mathlib.Logic.Relation
import Clawhip.Tmux.Requests

/-!
# Launch evidence

Between two registrations of a session, the evidence of its lane only grows: what the lane was
registered with stays, every request that is recorded raises the revision by one, the launch state moves
forward, and the kickoff is recorded at most once.
-/

namespace Clawhip.Tmux

open Machine

variable {α : Type} {codec : RegistryCodec α}

/-! ## Launch states -/

/-- The terminal failures of a launch. -/
def LaneLaunchState.Failed : LaneLaunchState → Prop
  | .NoWorkerEffect | .CommandSubmitAmbiguous | .SessionCreationAmbiguous => True
  | _ => False

inductive LaunchMove : LaneLaunchState → LaneLaunchState → Prop
  | claim : LaunchMove .Ready .Claimed
  | verify : LaunchMove .Claimed .IdentityVerified
  | launch : LaunchMove .IdentityVerified .Launched
  | fail {state failure : LaneLaunchState} (hstate : state = .Claimed ∨ state = .IdentityVerified)
      (hfailure : failure.Failed) : LaunchMove state failure

variable {next state : LaneLaunchState} {lane' lane'' mutated : LaneEvidence} {input : LaneDeliveryMutation}
  {executor_id generation_id session : String} {call : Call} {daemon : Daemon α}

theorem launchMove_of_transition (h : launchTransition state next = true) : next = state ∨ LaunchMove state next := by
  cases state <;> cases next <;> first
    | exact .inl rfl
    | exact .inr .verify
    | exact .inr .launch
    | exact .inr (.fail (.inl rfl) trivial)
    | exact .inr (.fail (.inr rfl) trivial)
    | cases h

/-- No launch moves on from `Launched` or a terminal failure. -/
theorem LaunchMove.not_final (h : LaunchMove state next) : ¬ (state = .Launched ∨ state.Failed) := by
  rintro (rfl | hfailed)
  · cases h with
    | fail hstate hfailure => rcases hstate with hstate | hstate <;> cases hstate
  · cases h with
    | claim | verify | launch => exact hfailed
    | fail hstate hfailure =>
      rcases hstate with rfl | rfl
      · exact hfailed
      · exact hfailed

/-- The states that a launch comes to. -/
abbrev LaunchPath : LaneLaunchState → LaneLaunchState → Prop := Relation.ReflTransGen LaunchMove

theorem LaunchPath.of_final (h : LaunchPath state next) (hfinal : state = .Launched ∨ state.Failed) : next = state := by
  rcases Relation.ReflTransGen.cases_head h with rfl | ⟨mid, hmove, -⟩
  · rfl
  · exact absurd hfinal hmove.not_final

/-! ## Kickoffs -/

/-- A kickoff that is recorded is one that was delivered or failed. -/
def LaneEvidence.KickoffRecorded (lane : LaneEvidence) : Prop :=
  lane.delivery_disposition = none → lane.kickoff_message_id = none ∧ lane.kickoff_delivered_at = none

/-- The kickoff of a lane is still that of an earlier one, if that had one. -/
structure LaneEvidence.KeepsKickoff (lane lane' : LaneEvidence) : Prop where
  kickoff_message_id : lane.kickoff_message_id ≠ none → lane'.kickoff_message_id = lane.kickoff_message_id
  kickoff_delivered_at : lane.kickoff_delivered_at ≠ none →
    lane'.kickoff_delivered_at = lane.kickoff_delivered_at

theorem LaneEvidence.KeepsKickoff.of_eq {lane : LaneEvidence} (hid : lane'.kickoff_message_id = lane.kickoff_message_id)
    (hat : lane'.kickoff_delivered_at = lane.kickoff_delivered_at) : lane.KeepsKickoff lane' :=
  ⟨fun _ => hid, fun _ => hat⟩

theorem LaneEvidence.KeepsKickoff.trans {lane : LaneEvidence} (h : lane.KeepsKickoff lane')
    (h' : lane'.KeepsKickoff lane'') : lane.KeepsKickoff lane'' where
  kickoff_message_id hset := by
    have hsame := h.kickoff_message_id hset
    rw [h'.kickoff_message_id (hsame ▸ hset), hsame]
  kickoff_delivered_at hset := by
    have hsame := h.kickoff_delivered_at hset
    rw [h'.kickoff_delivered_at (hsame ▸ hset), hsame]

theorem LaneDeliveryMutation.disposition_ne_none (h : input.valid = true) : input.disposition ≠ none := by
  intro hnone
  simp only [valid, validDelivery, Bool.and_eq_true] at h
  have herror := h.1.1.1.2
  unfold errorOk at herror
  rw [hnone] at herror
  cases herror

/-! ## One request -/

/-- What a recorded request may make of a lane, apart from its revision. -/
structure LaneEvidence.Grows (lane mutated : LaneEvidence) : Prop where
  identity : lane.SameIdentity mutated
  revision : mutated.revision = lane.revision
  launch : mutated.launch_state = lane.launch_state ∨ LaunchMove lane.launch_state mutated.launch_state
  kickoff : lane.KickoffRecorded → lane.KeepsKickoff mutated ∧ mutated.KickoffRecorded

/-- A mutation that leaves the kickoff and the disposition alone. -/
theorem LaneEvidence.Grows.of_launch {lane : LaneEvidence} (hidentity : lane.SameIdentity mutated)
    (hrevision : mutated.revision = lane.revision) (hlaunch : mutated.launch_state = lane.launch_state ∨
      LaunchMove lane.launch_state mutated.launch_state) (hid : mutated.kickoff_message_id = lane.kickoff_message_id)
    (hat : mutated.kickoff_delivered_at = lane.kickoff_delivered_at)
    (hdisposition : mutated.delivery_disposition = lane.delivery_disposition) : lane.Grows mutated := by
  refine ⟨hidentity, hrevision, hlaunch, fun hrecorded => ⟨.of_eq hid hat, fun hnone => ?_⟩⟩
  rw [hid, hat]
  exact hrecorded (hdisposition ▸ hnone)

theorem LaneVerificationMutation.grows {input : LaneVerificationMutation} {lane : LaneEvidence}
    (h : input.mutate lane = .ok mutated) : lane.Grows mutated := by
  have hidentity := (input.mutate_ok h).2.2
  unfold mutate at h
  split_ifs at h
  cases h
  exact .of_launch hidentity rfl (.inl rfl) rfl rfl rfl

theorem LaneWorkflowMutation.grows {input : LaneWorkflowMutation} {lane : LaneEvidence}
    (h : input.mutate lane = .ok mutated) : lane.Grows mutated := by
  have hidentity := (input.mutate_ok h).2.2
  unfold mutate at h
  split_ifs at h
  cases h
  exact .of_launch hidentity rfl (.inl rfl) rfl rfl rfl

theorem LaneRetirementMutation.grows {input : LaneRetirementMutation} {lane : LaneEvidence}
    (h : input.mutate lane = .ok mutated) : lane.Grows mutated := by
  have hidentity := (input.mutate_ok h).2.2
  unfold mutate at h
  split_ifs at h
  · cases h
    exact .of_launch hidentity rfl (.inl rfl) rfl rfl rfl
  · cases h
    exact .of_launch hidentity rfl (.inl rfl) rfl rfl rfl

/-- What an evidence update makes of a lane. -/
theorem LaneEvidenceMutation.mutate_spec {input : LaneEvidenceMutation} {lane : LaneEvidence}
    (h : input.mutate lane = .ok mutated) :
    mutated = { lane with
        launch_state := input.launch_state, last_failure := input.failure_category } ∧
      terminalCategoryIsValid lane.worker_effect_kind input.launch_state input.failure_category = true ∧
      launchTransition lane.launch_state input.launch_state = true := by
  unfold mutate at h
  split_ifs at h with hconflict hcategory htransition
  exact ⟨(Except.ok.inj h).symm, by simpa using hcategory, by simpa using htransition⟩

theorem LaneEvidenceMutation.grows {input : LaneEvidenceMutation} {lane : LaneEvidence}
    (h : input.mutate lane = .ok mutated) : lane.Grows mutated := by
  have hidentity := (input.mutate_ok h).2.2
  obtain ⟨rfl, -, htransition⟩ := input.mutate_spec h
  exact .of_launch hidentity rfl (launchMove_of_transition htransition) rfl rfl rfl

theorem claimMutate_grows {lane : LaneEvidence} (h : claimMutate generation_id executor_id lane = .ok mutated) : lane.Grows mutated := by
  have hidentity := (claimMutate_ok h).2.2
  obtain ⟨-, -, ⟨-, hstate⟩, rfl⟩ := claimMutate_spec h
  refine .of_launch hidentity rfl ?_ rfl rfl rfl
  rcases hstate with hready | hclaimed
  · exact .inr (hready ▸ .claim)
  · exact .inl hclaimed.symm

/-- A kickoff is recorded of a lane that has none. -/
theorem LaneDeliveryMutation.grows {lane : LaneEvidence} (hvalid : input.valid = true)
    (h : input.mutate lane = .ok mutated) : lane.Grows mutated := by
  obtain ⟨haccepts, rfl⟩ := input.mutate_ok h
  obtain ⟨-, -, hrevision, hidentity⟩ := input.delivered_spec lane
  have hdisposition : (input.delivered lane).delivery_disposition = input.disposition := by
    unfold delivered
    split_ifs <;> rfl
  have hlaunch : (input.delivered lane).launch_state = lane.launch_state := by
    unfold delivered
    split_ifs <;> rfl
  refine ⟨hidentity, hrevision, .inl hlaunch, fun hrecorded => ⟨?_, fun hnone => ?_⟩⟩
  · by_cases hinitial : input.initial_kickoff = true
    · have hkicks := haccepts.2.2 hinitial
      simp only [kicksOff, Bool.and_eq_true, Option.isNone_iff_eq_none] at hkicks
      obtain ⟨hid, hat⟩ := hrecorded hkicks.2
      -- The lane has no kickoff yet.
      exact ⟨fun hset => absurd hid hset, fun hset => absurd hat hset⟩
    · have hsame : (input.delivered lane).kickoff_message_id = lane.kickoff_message_id ∧
          (input.delivered lane).kickoff_delivered_at = lane.kickoff_delivered_at := by
        unfold delivered
        rw [if_neg hinitial]
        exact ⟨rfl, rfl⟩
      exact .of_eq hsame.1 hsame.2
  · exact absurd (hdisposition.symm.trans hnone) (disposition_ne_none hvalid)

/-- What a request that is recorded makes of its lane. -/
theorem Call.grows {request : LaneRequest} (h : call.request = some request)
    (hadmitted : request.admitted = true) {lane : LaneEvidence} (hmutate : request.mutate lane = .ok mutated) : lane.Grows mutated := by
  cases call with
  | recordVerification seen input written | retire seen observed input written => cases h; exact input.grows hmutate
  | recordDelivery seen input written => cases h; exact input.grows hadmitted hmutate
  | claim seen session generation_id executor_id expected_revision written => cases h; exact claimMutate_grows hmutate
  | updateEvidence seen input written | updateWorkflow seen input written => cases h; exact input.grows hmutate
  | _ => cases h

/-! ## Runs -/

/-- What the lane of a session may have become after a while. -/
structure LaneEvidence.Later (lane lane' : LaneEvidence) : Prop where
  identity : lane.SameIdentity lane'
  revision : lane.revision ≤ lane'.revision
  launch : LaunchPath lane.launch_state lane'.launch_state
  kickoff : lane.KickoffRecorded → lane.KeepsKickoff lane' ∧ lane'.KickoffRecorded

theorem LaneEvidence.SameIdentity.trans {lane : LaneEvidence} (h : lane.SameIdentity lane')
    (h' : lane'.SameIdentity lane'') : lane.SameIdentity lane'' :=
  ⟨h'.1.trans h.1, h'.2.trans h.2, h'.3.trans h.3, h'.4.trans h.4, h'.5.trans h.5, h'.6.trans h.6⟩

theorem LaneEvidence.Later.refl (lane : LaneEvidence) : lane.Later lane :=
  ⟨⟨rfl, rfl, rfl, rfl, rfl, rfl⟩, le_rfl, .refl, fun h => ⟨.of_eq rfl rfl, h⟩⟩

theorem LaneEvidence.Later.trans {lane : LaneEvidence} (h : lane.Later lane') (h' : lane'.Later lane'') :
    lane.Later lane'' where
  identity := h.identity.trans h'.identity
  revision := h.revision.trans h'.revision
  launch := h.launch.trans h'.launch
  kickoff hrecorded := by
    obtain ⟨hkeeps, hrecorded⟩ := h.kickoff hrecorded
    obtain ⟨hkeeps', hrecorded⟩ := h'.kickoff hrecorded
    exact ⟨hkeeps.trans hkeeps', hrecorded⟩

/-- A lane with its next revision is a later one. -/
theorem LaneEvidence.Grows.later {lane : LaneEvidence} (h : lane.Grows mutated) : lane.Later mutated.revised where
  identity := ⟨h.identity.1, h.identity.2, h.identity.3, h.identity.4, h.identity.5, h.identity.6⟩
  revision := by
    have hrevision := h.revision
    simp only [revised]
    omega
  launch := by
    rcases h.launch with hsame | hmove
    · exact hsame ▸ .refl
    · exact .single hmove
  kickoff hrecorded := by
    obtain ⟨⟨hid, hat⟩, hrecorded⟩ := h.kickoff hrecorded
    exact ⟨⟨hid, hat⟩, hrecorded⟩

/-- A call that does not register the session leaves its lane, or records a request of it. -/
theorem Daemon.step_grows (hformed : daemon.store.registry.WellFormed) (hbetween : ¬ daemon.Registers session call)
    (hlane : (daemon.step codec call).1.store.registry.lane session = some lane') :
    ∃ lane, daemon.store.registry.lane session = some lane ∧
      (lane' = lane ∨ ∃ request mutated, call.request = some request ∧ request.session = session ∧
        request.Records daemon.store.registry lane mutated ∧ lane' = mutated.revised) := by
  rcases daemon.step_lane hformed hlane with
    hsame | ⟨input, hsession, hregisters, -⟩ | ⟨request, lane, mutated, hrequest, hsession, hrecords, hnew⟩
  · exact ⟨lane', hsame, .inl rfl⟩
  · exact absurd ⟨input, hsession, hregisters⟩ hbetween
  · exact ⟨lane, hsession ▸ hrecords.held, .inr ⟨request, mutated, hrequest, hsession, hrecords, hnew⟩⟩

/-- What a call that does not register the session makes of its lane. -/
theorem Daemon.step_later (hformed : daemon.store.registry.WellFormed) (hbetween : ¬ daemon.Registers session call)
    (hlane : (daemon.step codec call).1.store.registry.lane session = some lane') :
    ∃ lane, daemon.store.registry.lane session = some lane ∧ lane.Later lane' := by
  obtain ⟨lane, hold, rfl | ⟨request, mutated, hrequest, -, hrecords, rfl⟩⟩ := daemon.step_grows hformed hbetween hlane
  · exact ⟨lane', hold, .refl lane'⟩
  · exact ⟨lane, hold, (Call.grows hrequest hrecords.admitted hrecords.mutate).later⟩

variable (codec) in
theorem Daemon.run_wellFormed {start : Daemon α} (hformed : start.store.registry.WellFormed)
    (calls : List Call) : ((daemonMachine codec).run start calls).store.registry.WellFormed :=
  run_invariant' (daemonMachine codec) (fun daemon => daemon.store.registry.WellFormed)
    (fun _ call h => step_wellFormed codec h call) hformed calls

/-- From its start on, a daemon has one registration of a session, and no lane that is a configured monitor's. -/
theorem Daemon.started_wellFormed (file : Option α) (calls : List Call) :
    ((daemonMachine codec).run (start codec file) calls).store.registry.WellFormed :=
  run_wellFormed codec (start_wellFormed codec file) calls

/-- A lane at the end of a run in which the session is not registered is a later form of the lane that
was there before. -/
theorem Daemon.run_later {start : Daemon α} (hformed : start.store.registry.WellFormed) {calls : List Call}
    (hbetween : (daemonMachine codec).Along (fun daemon call => ¬ daemon.Registers session call) start
      calls) (hlane : ((daemonMachine codec).run start calls).store.registry.lane session = some lane') :
    ∃ lane, start.store.registry.lane session = some lane ∧ lane.Later lane' := by
  induction calls using List.reverseRecOn generalizing lane' with
  | nil => exact ⟨lane', hlane, .refl lane'⟩
  | append_singleton calls call ih =>
    obtain ⟨hbefore, hcall⟩ := (along_concat ..).mp hbetween
    rw [run_concat] at hlane
    obtain ⟨mid, hmid, hlater⟩ := step_later (run_wellFormed codec hformed calls) hcall hlane
    obtain ⟨lane, hold, hearlier⟩ := ih hbefore hmid
    exact ⟨lane, hold, hearlier.trans hlater⟩

variable (codec) in
/-- The lane of a session after a run. -/
def laneAfter (start : Daemon α) (session : String) (calls : List Call) : Option LaneEvidence :=
  ((daemonMachine codec).run start calls).store.registry.lane session

/-- The launch evidence of a session is monotone in a run from a daemon that has just registered a lane
for it. -/
structure LaunchMonotone (codec : RegistryCodec α) (start : Daemon α) (input : LaneRegistrationInput)
    (calls : List Call) : Prop where
  /-- What the lane was registered with stays. -/
  identity : ∀ pre post lane, calls = pre ++ post →
    laneAfter codec start input.registration.session pre = some lane → input.lane.SameIdentity lane
  /-- A request that comes out well and is not a repeated one raises the revision by one. -/
  counted : ∀ pre call post request, calls = pre ++ call :: post → call.request = some request →
    request.session = input.registration.session → ¬ request.Repeated →
    ∀ snapshot, (((daemonMachine codec).run start pre).step codec call).2 = .snapshot (.ok snapshot) →
      ∃ lane lane', laneAfter codec start input.registration.session pre = some lane ∧
        laneAfter codec start input.registration.session (pre ++ [call]) = some lane' ∧
        lane.revision = request.expected_revision ∧ lane'.revision = lane.revision + 1
  /-- A request with another revision than the lane's changes nothing, nor does one that fails or is a
  repeated one. -/
  stale : ∀ pre call post request, calls = pre ++ call :: post → call.request = some request →
    request.session = input.registration.session →
    (∀ lane, laneAfter codec start input.registration.session pre = some lane →
      lane.revision ≠ request.expected_revision) ∨ request.Repeated ∨
      (((daemonMachine codec).run start pre).step codec call).2.isErr = true →
    (((daemonMachine codec).run start pre).step codec call).1.store =
      ((daemonMachine codec).run start pre).store
  /-- A call moves the launch state by one move, if at all. -/
  moves : ∀ pre call post lane lane', calls = pre ++ call :: post →
    laneAfter codec start input.registration.session pre = some lane →
    laneAfter codec start input.registration.session (pre ++ [call]) = some lane' →
      lane'.launch_state = lane.launch_state ∨ LaunchMove lane.launch_state lane'.launch_state
  /-- A launch that has ended stays as it is. -/
  ended : ∀ pre mid post lane lane', calls = pre ++ mid ++ post →
    laneAfter codec start input.registration.session pre = some lane →
    laneAfter codec start input.registration.session (pre ++ mid) = some lane' →
    lane.launch_state = .Launched ∨ lane.launch_state.Failed → lane'.launch_state = lane.launch_state
  /-- The kickoff is set once. -/
  kickoff : ∀ pre mid post lane lane', calls = pre ++ mid ++ post →
    laneAfter codec start input.registration.session pre = some lane →
    laneAfter codec start input.registration.session (pre ++ mid) = some lane' → lane.KeepsKickoff lane'
  /-- Only the executor of the lane claims it, if the claim looked at the registry in this run. -/
  claimed : ∀ pre early later generation_id executor_id expected_revision written post,
    calls = pre ++ .claim ((daemonMachine codec).run start early).store.registry
      input.registration.session generation_id executor_id expected_revision written :: post →
    pre = early ++ later → ∀ snapshot, (((daemonMachine codec).run start pre).step codec
        (.claim ((daemonMachine codec).run start early).store.registry input.registration.session
          generation_id executor_id expected_revision written)).2 = .snapshot (.ok snapshot) →
      executor_id = input.executor_id

/-- A lane that is registered is there afterwards. -/
theorem Daemon.RegistersLane.lane {input : LaneRegistrationInput} (h : daemon.RegistersLane input call) :
    (daemon.step codec call).1.store.registry.lane input.registration.session = some input.lane := by
  obtain ⟨minted, later, generation, rfl, hminted, hanswer⟩ := h
  unfold step
  simp only [Call.place, hminted, Call.on, Store.registerLaneRegistration, hanswer, daemon.store.swap_ok rfl]
  exact Registry.lane_insert_self

theorem LaneRegistrationInput.lane_kickoffRecorded (input : LaneRegistrationInput) :
    input.lane.KickoffRecorded := fun _ => ⟨rfl, rfl⟩

/-- The launch evidence of a lane is monotone from its registration to the next one. -/
theorem launch_monotone (file : Option α) (before : List Call) {input : LaneRegistrationInput} {first : Call}
    (hfirst : ((daemonMachine codec).run (Daemon.start codec file) before).RegistersLane input first)
    {calls : List Call} (hbetween : (daemonMachine codec).Along
      (fun daemon call => ¬ daemon.Registers input.registration.session call)
      ((daemonMachine codec).run (Daemon.start codec file) (before ++ [first])) calls) :
    LaunchMonotone codec ((daemonMachine codec).run (Daemon.start codec file) (before ++ [first])) input
      calls := by
  have hformed := Daemon.run_wellFormed codec (Daemon.start_wellFormed codec file) (before ++ [first])
  have hfresh : ((daemonMachine codec).run (Daemon.start codec file)
      (before ++ [first])).store.registry.lane input.registration.session = some input.lane := by
    rw [run_concat]
    exact hfirst.lane
  generalize (daemonMachine codec).run (Daemon.start codec file) (before ++ [first]) = start at *
  have hlater (pre post : List Call) (hsplit : calls = pre ++ post) (lane : LaneEvidence)
      (hlane : laneAfter codec start input.registration.session pre = some lane) : input.lane.Later lane := by
    rw [hsplit, along_append] at hbetween
    obtain ⟨lane₀, hlane₀, hlater⟩ := Daemon.run_later hformed hbetween.1 hlane
    cases hfresh.symm.trans hlane₀
    exact hlater
  have hkept (pre mid post : List Call) (hsplit : calls = pre ++ mid ++ post) (lane lane' : LaneEvidence)
      (hlane : laneAfter codec start input.registration.session pre = some lane)
      (hlane' : laneAfter codec start input.registration.session (pre ++ mid) = some lane') : lane.Later lane' := by
    rw [hsplit, List.append_assoc, along_append, along_append] at hbetween
    unfold laneAfter at hlane hlane'
    rw [run_append] at hlane'
    obtain ⟨lane₀, hlane₀, hlater⟩ :=
      Daemon.run_later (Daemon.run_wellFormed codec hformed pre) hbetween.2.1 hlane'
    cases hlane.symm.trans hlane₀
    exact hlater
  refine
    { identity := fun pre post lane hsplit hlane => (hlater pre post hsplit lane hlane).identity
      counted := ?_
      stale := ?_
      moves := ?_
      ended := fun pre mid post lane lane' hsplit hlane hlane' hfinal =>
        (hkept pre mid post hsplit lane lane' hlane hlane').launch.of_final hfinal
      kickoff := fun pre mid post lane lane' hsplit hlane hlane' => ?_
      claimed := ?_ }
  · intro pre call post request hsplit hrequest hsession hrepeated snapshot hok
    obtain ⟨answer, hanswer, hanswered⟩ :=
      (((daemonMachine codec).run start pre).step_asks codec hrequest).answered
    cases hok.symm.trans hanswer
    unfold laneAfter
    rw [run_concat, daemonMachine_step]
    generalize (((daemonMachine codec).run start pre).step codec call).1.store = after at *
    cases hanswered with
    | repeated hseen hlook => exact absurd ⟨_, hseen, hlook⟩ hrepeated
    | recorded hget hrecords =>
      have hgrows := Call.grows hrequest hrecords.admitted hrecords.mutate
      rw [← hsession]
      exact ⟨_, _, hrecords.held, Registry.lane_insert_self, hrecords.revision,
        congrArg (· + 1) hgrows.revision⟩
  · intro pre call post request hsplit hrequest hsession hstale
    obtain ⟨answer, hanswer, hanswered⟩ :=
      (((daemonMachine codec).run start pre).step_asks codec hrequest).answered
    have herr : (((daemonMachine codec).run start pre).step codec call).2 = .snapshot answer := hanswer
    rw [herr] at hstale
    generalize (((daemonMachine codec).run start pre).step codec call).1.store = after at *
    cases hanswered with
    | refused e => rfl
    | repeated hseen hlook => rfl
    | recorded hget hrecords =>
      rcases hstale with hrevision | ⟨shown, hseen, hlook⟩ | herr
      · exact absurd hrecords.revision (hrevision _ (hsession ▸ hrecords.held))
      · obtain ⟨shown', hseen', hlook'⟩ := hrecords.passes
        cases hseen.symm.trans hseen'
        cases hlook.symm.trans hlook'
      · cases herr
  · intro pre call post lane lane' hsplit hlane hlane'
    rw [hsplit, along_append, along_cons] at hbetween
    unfold laneAfter at hlane hlane'
    rw [run_concat] at hlane'
    obtain ⟨lane₀, hlane₀, rfl | ⟨request, mutated, hrequest, -, hrecords, rfl⟩⟩ :=
      Daemon.step_grows (Daemon.run_wellFormed codec hformed pre) hbetween.2.1 hlane'
    · cases hlane.symm.trans hlane₀
      exact .inl rfl
    · cases hlane.symm.trans hlane₀
      exact (Call.grows hrequest hrecords.admitted hrecords.mutate).launch
  · have hrecorded := (hlater pre (mid ++ post) (by rw [hsplit, List.append_assoc]) lane hlane).kickoff
      input.lane_kickoffRecorded
    exact ((hkept pre mid post hsplit lane lane' hlane hlane').kickoff hrecorded.2).1
  · intro pre early later generation_id executor_id expected_revision written post hsplit hpre
    have hidentity {part rest : List Call} {lane : LaneEvidence} (hpart : calls = part ++ rest)
        (hlane : laneAfter codec start input.registration.session part = some lane) :
        lane.executor_id = input.executor_id := (hlater part rest hpart lane hlane).identity.executor_id
    intro snapshot hok
    obtain ⟨answer, hanswer, hanswered⟩ :=
      (((daemonMachine codec).run start pre).step_asks codec (rfl : (Call.claim _ _ _ _ _ _).request =
        some _)).answered
    cases hok.symm.trans hanswer
    generalize (((daemonMachine codec).run start pre).step codec _).1.store = after at *
    cases hanswered with
    | repeated hseen hlook =>
      rename_i shown
      -- The lane that was seen is that of an earlier part of the run.
      have hearly := hsplit
      rw [hpre, List.append_assoc] at hearly
      have hshown := hidentity hearly hseen
      simp only at hlook
      split_ifs at hlook
      simp only [Except.ok.injEq, Bool.and_eq_true, beq_iff_eq] at hlook
      exact hlook.1.2.symm.trans hshown
    | recorded hget hrecords =>
      obtain ⟨-, hexecutor, -⟩ := claimMutate_spec hrecords.mutate
      exact hexecutor.symm.trans (hidentity hsplit hrecords.held)

namespace Sample

/-- The claim of the lane, by an executor that has just looked at it. -/
def claimCall (executor_id : String) : Call := .claim lanes "issue-7" "gen-1" executor_id 0 (.ok ())

theorem claim_not_registers {daemon : Daemon α} {session executor_id : String} :
    ¬ daemon.Registers session (claimCall executor_id) := by
  rintro ⟨_, _, _, _, _, h, -⟩
  cases h

/-- A lane is registered, and claimed twice. -/
theorem claims_monotone : LaunchMonotone plainCodec
    ((daemonMachine plainCodec).run (Daemon.start plainCodec none)
      ([.mint] ++ [.registerLane 0 laneInput id (.ok ())]))
    laneInput [claimCall "executor-2", claimCall "executor-1"] :=
  launch_monotone none [.mint] ⟨0, id, 1, rfl, by decide, by decide +kernel⟩
    ⟨claim_not_registers, claim_not_registers, trivial⟩

end Sample

end Clawhip.Tmux
