import Clawhip.Tmux.Evidence

/-!
# Requests that are sent again

A client that lost the answer to a lane request sends the request again. The daemon recognises it by
comparing the request with the lane. `lost_responses_iff` says which requests are answered as they were
before: a registration is compared with the generation that has just been minted, an initial kickoff with
a workflow is not compared at all, and the operation of a kickoff is not compared in other deliveries.
-/

namespace Clawhip.Tmux

open List Option Registry LaneDeliveryMutation Except OrdMap

variable {α : Type} {codec : RegistryCodec α}

/-! ## Requests -/

/-- The session that a lane request is about. -/
def Call.session : Call → Option String
  | .registerLane _ input _ _ => some input.registration.session
  | call => call.request.map LaneRequest.session

/-- The same request, whatever happens around it. -/
def Call.SameRequest : Call → Call → Prop
  | .registerLane _ input _ _, .registerLane _ input' _ _ => input' = input
  | .recordVerification _ input _, .recordVerification _ input' _ => input' = input
  | .recordDelivery _ input _, .recordDelivery _ input' _ => input' = input
  | .retire _ _ input _, .retire _ _ input' _ => input' = input
  | .claim _ session generation_id executor_id expected_revision _,
    .claim _ session' generation_id' executor_id' expected_revision' _ =>
    session' = session ∧ generation_id' = generation_id ∧ executor_id' = executor_id ∧
      expected_revision' = expected_revision
  | .updateEvidence _ input _, .updateEvidence _ input' _ => input' = input
  | .updateWorkflow _ input _, .updateWorkflow _ input' _ => input' = input
  | _, _ => False

/-- A call that is a request for a session. -/
def Call.AsksFor (call : Call) (session : String) : Prop :=
  match call with
  | .registerRuntime _ registration _ => registration.session = session
  | .remove sessions _ => session ∈ sessions
  | call => call.session = some session

/-- No other request for the session is under way: a call that looks at the lane before the lock sees
the lane that it meets there, and a registration reads back the lane that it has registered. -/
def Call.Undisturbed (call : Call) (registry : Registry) : Prop :=
  (∀ request, call.request = some request → request.seen.lane request.session = registry.lane request.session) ∧
  ∀ minted input later written, call = .registerLane minted input later written →
    ∀ next : Registry, (later next).lane input.registration.session = next.lane input.registration.session

/-- The revision that an answer shows, if it is no error. -/
def Answer.revision : Answer → Option ℕ
  | .detail (.ok found) => some found.snapshot.revision
  | .snapshot (.ok shown) => some shown.revision
  | _ => none

/-- The record of a session contains the facts that a request carries. -/
def Call.FactsIn (call : Call) (record : RegisteredTmuxSession) (lane : LaneEvidence) : Prop :=
  match call with
  | .registerLane _ input _ _ =>
    { record with lane := none } = input.public record.registration_generation ∧
      lane.generation_id = input.generation_id ∧ lane.kickoff_operation_id = input.kickoff_operation_id ∧
      lane.launch_operation_id = input.launch_operation_id ∧ lane.executor_id = input.executor_id ∧
      lane.worker_effect_kind = input.worker_effect_kind ∧ lane.thread_id = input.thread_id
  | .recordVerification _ input _ =>
    lane.generation_id = input.generation_id ∧ lane.visibility = some input.visibility ∧ lane.verification = some
        { checked_at := input.checked_at, outcome := input.outcome, reason := input.reason }
  | .recordDelivery _ input _ =>
    lane.generation_id = input.generation_id ∧ lane.visibility = some input.visibility ∧
      lane.last_failure = input.error_category ∧ lane.delivery_disposition = input.disposition ∧
      (∀ workflow, input.workflow = some workflow → lane.workflow = workflow) ∧
      (∀ operation, input.kickoff_operation_id = some operation → lane.kickoff_operation_id = operation) ∧
      if input.initial_kickoff then
        input.kind = some "kickoff" ∧ lane.kickoff_message_id = input.message_id ∧
          lane.kickoff_delivered_at = input.delivered_at
      else
        lane.latest_update_kind = input.kind ∧ lane.latest_update_message_id = input.message_id ∧
          lane.latest_update_delivered_at = input.delivered_at
  | .retire _ _ input _ =>
    lane.generation_id = input.generation_id ∧ lane.workflow = .Retired ∧ lane.quiesced = true
  | .claim _ _ generation_id executor_id _ _ =>
    lane.generation_id = generation_id ∧ lane.executor_id = executor_id ∧ lane.launch_state = .Claimed
  | .updateEvidence _ input _ =>
    lane.generation_id = input.generation_id ∧
      lane.launch_operation_id = input.launch_operation_id ∧ lane.executor_id = input.executor_id ∧
      lane.worker_effect_kind = input.worker_effect_kind ∧ lane.launch_state = input.launch_state ∧
      lane.last_failure = input.failure_category
  | .updateWorkflow _ input _ =>
    lane.generation_id = input.generation_id ∧ lane.workflow = input.workflow ∧ lane.quiesced = input.quiesced
  | _ => True

/-- The call is answered as a repeated one, from the lane of a record. -/
def Daemon.Replays (daemon : Daemon α) (call : Call) (record : RegisteredTmuxSession)
    (lane : LaneEvidence) : Prop :=
  match call with
  | .registerLane minted input _ _ =>
    ∃ generation, daemon.minted[minted]? = some generation ∧
      OrdMap.get daemon.store.registry input.registration.session = some record ∧ record.lane = some lane ∧
      input.answer generation daemon.store.registry = some (.ok (laneDetail input.registration.session lane none))
  | call => ∃ request, call.request = some request ∧
      OrdMap.get request.seen request.session = some record ∧ record.lane = some lane ∧
      request.look lane = .ok true

/-! ## Looks -/

/-- When a lane answers a verification as a repeated one. -/
theorem LaneVerificationMutation.repeats_iff (input : LaneVerificationMutation) (lane : LaneEvidence) :
    input.repeats lane = true ↔ lane.revision = saturatingSucc input.expected_revision ∧
      lane.generation_id = input.generation_id ∧ lane.visibility = some input.visibility ∧ lane.verification = some
        { checked_at := input.checked_at, outcome := input.outcome, reason := input.reason } := by
  simp only [repeats, Bool.and_eq_true, beq_iff_eq, Option.any_eq_true, and_assoc]
  refine and_congr_right fun _ => and_congr_right fun _ => and_congr_right fun _ => ⟨?_, ?_⟩
  · rintro ⟨value, hvalue, hat, houtcome, hreason⟩
    rw [hvalue, ← hat, ← houtcome, ← hreason]
  · exact fun hvalue => ⟨_, hvalue, rfl, rfl, rfl⟩

/-- When a lane answers an initial kickoff as a repeated one. -/
theorem LaneDeliveryMutation.repeats_kickoff_iff {input : LaneDeliveryMutation}
    (hinitial : input.initial_kickoff = true) (lane : LaneEvidence) :
    input.repeats lane = true ↔ lane.revision = saturatingSucc input.expected_revision ∧
      lane.generation_id = input.generation_id ∧ lane.launch_state = .Ready ∧
      input.kind = some "kickoff" ∧ input.kickoff_operation_id = some lane.kickoff_operation_id ∧
      lane.kickoff_message_id = input.message_id ∧ lane.kickoff_delivered_at = input.delivered_at ∧
      lane.last_failure = input.error_category ∧ lane.delivery_disposition = input.disposition ∧
      lane.visibility = some input.visibility ∧ input.workflow = none := by
  unfold repeats
  simp only [hinitial, if_true, Bool.and_eq_true, beq_iff_eq, isNone_iff_eq_none, and_assoc]

/-- When a lane answers an update as a repeated one. -/
theorem LaneDeliveryMutation.repeats_update_iff {input : LaneDeliveryMutation}
    (hinitial : input.initial_kickoff = false) (lane : LaneEvidence) :
    input.repeats lane = true ↔ lane.revision = saturatingSucc input.expected_revision ∧
      lane.generation_id = input.generation_id ∧
      lane.latest_update_message_id = input.message_id ∧ lane.latest_update_kind = input.kind ∧
      lane.latest_update_delivered_at = input.delivered_at ∧
      lane.visibility = some input.visibility ∧ lane.last_failure = input.error_category ∧
      lane.delivery_disposition = input.disposition ∧
      ∀ workflow, input.workflow = some workflow → lane.workflow = workflow := by
  unfold repeats
  simp only [hinitial, Bool.false_eq_true, if_false, Bool.and_eq_true, beq_iff_eq, Option.all_eq_true, and_assoc]

/-- When a lane answers a retirement as a repeated one. -/
theorem LaneRetirementMutation.repeats_iff (input : LaneRetirementMutation) (lane : LaneEvidence) :
    input.repeats lane = true ↔ lane.revision = saturatingSucc input.expected_revision ∧
      lane.generation_id = input.generation_id ∧ lane.workflow = .Retired ∧ lane.quiesced = true := by
  simp only [repeats, Bool.and_eq_true, beq_iff_eq, and_assoc]

/-- When a lane answers an evidence update as a repeated one. -/
theorem LaneEvidenceMutation.repeats_iff (input : LaneEvidenceMutation) (lane : LaneEvidence) :
    input.repeats lane = true ↔ (lane.revision = input.expected_revision ∨
        lane.revision = saturatingSucc input.expected_revision) ∧ lane.generation_id = input.generation_id ∧
      lane.launch_operation_id = input.launch_operation_id ∧ lane.executor_id = input.executor_id ∧
      lane.worker_effect_kind = input.worker_effect_kind ∧ lane.launch_state = input.launch_state ∧
      lane.last_failure = input.failure_category := by
  simp only [repeats, Bool.and_eq_true, Bool.or_eq_true, beq_iff_eq, and_assoc]

/-- When a lane answers a workflow as a repeated one. -/
theorem LaneWorkflowMutation.repeats_iff (input : LaneWorkflowMutation) (lane : LaneEvidence) :
    input.repeats lane = true ↔ lane.revision = saturatingSucc input.expected_revision ∧
      lane.generation_id = input.generation_id ∧ lane.workflow = input.workflow ∧ lane.quiesced = input.quiesced := by
  simp only [repeats, Bool.and_eq_true, beq_iff_eq, and_assoc]

variable {written : Except String Unit} {call : Call} {lane : LaneEvidence} {registry : Registry}
  {daemon : Daemon α} {between : List Call} {record : RegisteredTmuxSession} {input : LaneRegistrationInput}

/-- When a lane answers a claim as a repeated one. -/
theorem claim_look_iff {seen : Registry} {session generation_id executor_id : String} {expected_revision : ℕ}
    {request : LaneRequest} (h : (Call.claim seen session generation_id executor_id expected_revision written).request =
      some request) (lane : LaneEvidence) : request.look lane = .ok true ↔ lane.workflow ≠ .Retired ∧
      lane.revision = saturatingSucc expected_revision ∧ lane.generation_id = generation_id ∧
      lane.executor_id = executor_id ∧ lane.launch_state = .Claimed := by
  cases h
  by_cases hretired : lane.workflow = .Retired
  · simp only [if_pos hretired]
    exact ⟨fun h => (nomatch h), fun h => absurd hretired h.1⟩
  · simp only [if_neg hretired, ok.injEq, Bool.and_eq_true, beq_iff_eq, and_assoc]
    exact (and_iff_right hretired).symm

/-- A lane that answers a request as a repeated one contains its facts, but for the operation of a
kickoff, which only an initial kickoff is compared with. -/
theorem Call.facts_of_look {request : LaneRequest} (h : call.request = some request)
    (record : RegisteredTmuxSession) (hlook : request.look lane = .ok true) :
    call.FactsIn record lane ↔ ∀ seen input written, call = .recordDelivery seen input written →
      input.initial_kickoff = false → ∀ operation, input.kickoff_operation_id = some operation →
        lane.kickoff_operation_id = operation := by
  cases call with
  | recordDelivery seen input written =>
    cases h
    have hrepeats : input.repeats lane = true := ok.inj hlook
    cases hinitial : input.initial_kickoff with
    | true =>
      obtain ⟨-, hgeneration, -, hkind, hoperation, hid, hat, hlast, hdisposition, hvisible, hworkflow⟩ :=
        (repeats_kickoff_iff hinitial lane).mp hrepeats
      refine ⟨fun _ _ input' _ heq hother => ?_, fun _ => ?_⟩
      · cases heq
        rw [hinitial] at hother
        cases hother
      · refine ⟨hgeneration, hvisible, hlast, hdisposition, fun _ hsome => ?_, fun _ hsome => ?_, ?_⟩
        · rw [hworkflow] at hsome
          cases hsome
        · exact some.inj (hoperation.symm.trans hsome)
        · rw [if_pos hinitial]
          exact ⟨hkind, hid, hat⟩
    | false =>
      obtain ⟨-, hgeneration, hid, hkind, hat, hvisible, hlast, hdisposition, hworkflow⟩ :=
        (repeats_update_iff hinitial lane).mp hrepeats
      constructor
      · intro hfacts _ _ _ heq _
        cases heq
        exact hfacts.2.2.2.2.2.1
      · intro hoperation
        refine ⟨hgeneration, hvisible, hlast, hdisposition, hworkflow, hoperation _ _ _ rfl hinitial, ?_⟩
        rw [hinitial]
        exact ⟨hkind, hid, hat⟩
  | recordVerification seen input written | retire seen observed input written =>
    cases h
    obtain ⟨-, hfacts⟩ := (input.repeats_iff lane).mp (ok.inj hlook)
    exact ⟨fun _ _ _ _ heq => (nomatch heq), fun _ => hfacts⟩
  | claim seen session generation_id executor_id expected_revision written =>
    obtain ⟨-, -, hfacts⟩ := (claim_look_iff h lane).mp hlook
    exact ⟨fun _ _ _ _ heq => (nomatch heq), fun _ => hfacts⟩
  | updateEvidence seen input written | updateWorkflow seen input written =>
    cases h
    obtain ⟨-, hfacts⟩ := (input.repeats_iff lane).mp (ok.inj hlook)
    exact ⟨fun _ _ _ _ heq => (nomatch heq), fun _ => hfacts⟩
  | _ => cases h

/-- The request is an initial kickoff that carries a workflow. -/
def Call.KicksOffWorkflow (call : Call) : Prop :=
  match call with
  | .recordDelivery _ input _ => input.initial_kickoff = true ∧ input.workflow ≠ none
  | _ => False

/-- An initial kickoff that carries a workflow is never answered as a repeated one. -/
theorem Call.KicksOffWorkflow.not_look (h : call.KicksOffWorkflow) {request : LaneRequest}
    (hrequest : call.request = some request) (lane : LaneEvidence) : request.look lane ≠ .ok true := by
  intro hlook
  cases call with
  | recordDelivery seen input written =>
    cases hrequest
    obtain ⟨-, -, -, -, -, -, -, -, -, -, hworkflow⟩ := (repeats_kickoff_iff h.1 lane).mp (ok.inj hlook)
    exact h.2 hworkflow
  | _ => exact h

/-- A lane that a delivery was recorded of answers it as a repeated one, unless it is an initial kickoff
that carries a workflow. -/
theorem LaneDeliveryMutation.repeats_delivered {input : LaneDeliveryMutation} (haccepts : input.Accepts lane)
    (hworkflow : ¬ (input.initial_kickoff = true ∧ input.workflow ≠ none))
    (hrevision : (input.delivered lane).revised.revision = saturatingSucc input.expected_revision) :
    input.repeats (input.delivered lane).revised = true := by
  obtain ⟨hgeneration, -, hkicks⟩ := haccepts
  cases hinitial : input.initial_kickoff with
  | true =>
    have hkicks := hkicks hinitial
    simp only [kicksOff, Bool.and_eq_true, beq_iff_eq] at hkicks
    obtain ⟨⟨⟨⟨hkind, hoperation⟩, hready⟩, -⟩, -⟩ := hkicks
    have hnone : input.workflow = none := by
      by_contra hsome
      exact hworkflow ⟨hinitial, hsome⟩
    refine (repeats_kickoff_iff hinitial _).mpr ⟨hrevision, ?_⟩
    unfold delivered
    rw [if_pos hinitial]
    exact ⟨hgeneration, hready, hkind, hoperation, rfl, rfl, rfl, rfl, rfl, hnone⟩
  | false =>
    have hother : ¬ input.initial_kickoff = true := by rw [hinitial]; exact Bool.false_ne_true
    refine (repeats_update_iff hinitial _).mpr ⟨hrevision, ?_⟩
    unfold delivered
    rw [if_neg hother]
    refine ⟨hgeneration, rfl, rfl, rfl, rfl, rfl, rfl, fun workflow hsome => ?_⟩
    exact congrArg (getD · lane.workflow) hsome

/-- A lane that a request was recorded of answers it as a repeated one, unless it is an initial kickoff
that carries a workflow. -/
theorem Call.look_revised {request : LaneRequest} (h : call.request = some request)
    (hexpected : request.expected_revision ≤ U64_MAX) {mutated : LaneEvidence}
    (hrecords : request.Records registry lane mutated) (hworkflow : ¬ call.KicksOffWorkflow) :
    request.look mutated.revised = .ok true := by
  have hgrows := grows h hrecords.admitted hrecords.mutate
  have hrevision : mutated.revised.revision = saturatingSucc request.expected_revision := by
    have hroom := hrecords.room
    have hsame := hgrows.revision.trans hrecords.revision
    simp only [LaneEvidence.revised, saturatingSucc]
    omega
  have hmutate := hrecords.mutate
  cases call with
  | recordVerification seen input written | updateWorkflow seen input written =>
    cases h
    refine congrArg ok ((input.repeats_iff _).mpr ⟨hrevision, ?_⟩)
    simp only [LaneVerificationMutation.mutate, LaneWorkflowMutation.mutate] at hmutate
    split_ifs at hmutate with hguard
    cases hmutate
    simp only [ne_eq, not_or, not_not] at hguard
    exact ⟨hguard.1, rfl, rfl⟩
  | recordDelivery seen input written =>
    cases h
    obtain ⟨haccepts, rfl⟩ := input.mutate_ok hmutate
    exact congrArg ok (repeats_delivered haccepts hworkflow hrevision)
  | retire seen observed input written =>
    cases h
    refine congrArg ok ((input.repeats_iff _).mpr ⟨hrevision, ?_⟩)
    obtain ⟨hretired, hquiesced, hidentity⟩ := input.mutate_ok hmutate
    refine ⟨?_, hretired, hquiesced⟩
    simp only [LaneRetirementMutation.mutate] at hmutate
    split_ifs at hmutate with hguard
    · exact hidentity.generation_id.trans (not_not.mp hguard)
    · exact hidentity.generation_id.trans (not_not.mp hguard)
  | claim seen session generation_id executor_id expected_revision written =>
    refine (claim_look_iff h _).mpr ?_
    cases h
    obtain ⟨hgeneration, hexecutor, ⟨hretired, -⟩, rfl⟩ := claimMutate_spec hmutate
    exact ⟨hretired, hrevision, hgeneration, hexecutor, rfl⟩
  | updateEvidence seen input written =>
    cases h
    refine congrArg ok ((input.repeats_iff _).mpr ⟨.inr hrevision, ?_⟩)
    simp only [LaneEvidenceMutation.mutate] at hmutate
    split_ifs at hmutate with hguard
    cases hmutate
    simp only [ne_eq, not_or, not_not] at hguard
    exact ⟨hguard.1, hguard.2.1, hguard.2.2.1, hguard.2.2.2.1, rfl, rfl⟩
  | _ => cases h

variable {again : Call}

/-- The same request looks at the lane in the same way. -/
theorem Call.SameRequest.request (h : call.SameRequest again) {request : LaneRequest}
    (hrequest : call.request = some request) :
    ∃ request', again.request = some request' ∧ request'.session = request.session ∧
      request'.expected_revision = request.expected_revision ∧ request'.look = request.look ∧
      again.prechecked = call.prechecked ∧ ∀ record lane, again.FactsIn record lane ↔ call.FactsIn record lane := by
  unfold SameRequest at h
  split at h
  case h_1 => cases hrequest
  case h_8 => exact h.elim
  case h_5 =>
    obtain ⟨rfl, rfl, rfl, rfl⟩ := h
    cases hrequest
    exact ⟨_, rfl, rfl, rfl, rfl, rfl, fun _ _ => Iff.rfl⟩
  all_goals
    subst h
    cases hrequest
    exact ⟨_, rfl, rfl, rfl, rfl, rfl, fun _ _ => Iff.rfl⟩

/-! ## The first answer -/

variable {revision : ℕ}

/-- A lane request that came out well left a lane that answers it as a repeated one, unless it is an
initial kickoff that carries a workflow; that one leaves a lane of another revision than the expected
one. -/
theorem Daemon.first_answer {request : LaneRequest} (h : call.request = some request)
    (hexpected : request.expected_revision ≤ U64_MAX) (hundisturbed : call.Undisturbed daemon.store.registry)
    (hok : (daemon.step codec call).2.revision = some revision) : call.prechecked = true ∧ ∃ lane,
      (daemon.step codec call).1.store.registry.lane request.session = some lane ∧ lane.revision = revision ∧
      (request.look lane = .ok true ∨ call.KicksOffWorkflow ∧ lane.revision ≠ request.expected_revision) := by
  have hchecked : call.prechecked = true := by
    rcases call.on_looks codec h 0 daemon.store with ⟨-, -, e, he⟩ | ⟨hchecked, -⟩
    · rw [daemon.step_request h, he] at hok
      cases hok
    · exact hchecked
  refine ⟨hchecked, ?_⟩
  obtain ⟨answer, hanswer, hanswered⟩ := (daemon.step_asks codec h).answered
  replace hanswer : (daemon.step codec call).2 = .snapshot answer := hanswer
  rw [hanswer] at hok
  generalize (daemon.step codec call).1.store = after at *
  cases hanswered with
  | refused e => cases hok
  | repeated hseen hlook =>
    rename_i shown
    exact ⟨shown, (hundisturbed.1 request h).symm.trans hseen, some.inj hok, .inl hlook⟩
  | recorded hget hrecords =>
    rename_i registration lane mutated
    refine ⟨mutated.revised, lane_insert_self, some.inj hok, ?_⟩
    by_cases hworkflow : call.KicksOffWorkflow
    · refine .inr ⟨hworkflow, ?_⟩
      have hgrows := Call.grows h hrecords.admitted hrecords.mutate
      have hsame := hgrows.revision.trans hrecords.revision
      simp only [LaneEvidence.revised]
      omega
    · exact .inl (Call.look_revised h hexpected hrecords hworkflow)

variable (codec) in
/-- A lane that answers a request as a repeated one answers it so when it is sent. -/
theorem Daemon.again_answer {request : LaneRequest} (h : call.request = some request)
    (hchecked : call.prechecked = true) (hundisturbed : call.Undisturbed daemon.store.registry)
    (hlane : daemon.store.registry.lane request.session = some lane) (hlook : request.look lane = .ok true) :
    (daemon.step codec call).2.revision = some lane.revision ∧ (daemon.step codec call).1.store = daemon.store := by
  have hseen := (hundisturbed.1 request h).trans hlane
  rcases call.on_looks codec h 0 daemon.store with ⟨hrefused, -⟩ | ⟨-, next, -, hon⟩
  · rw [hchecked] at hrefused
    cases hrefused
  · rw [daemon.step_request h, hon]
    unfold Store.answering
    simp only [hseen, LaneRequest.answer, hlook, Except.map, if_true, and_true]
    rfl

variable (codec) in
/-- A lane request that meets a lane which does not answer it as a repeated one, and whose revision is
another one, does not come out well; nor does one that meets no lane. -/
theorem Daemon.again_fails {request : LaneRequest} (h : call.request = some request)
    (hundisturbed : call.Undisturbed daemon.store.registry)
    (hlane : ∀ lane, daemon.store.registry.lane request.session = some lane →
      request.look lane ≠ .ok true ∧ lane.revision ≠ request.expected_revision) :
    (daemon.step codec call).2.revision = none := by
  obtain ⟨answer, hanswer, hanswered⟩ := (daemon.step_asks codec h).answered
  replace hanswer : (daemon.step codec call).2 = .snapshot answer := hanswer
  rw [hanswer]
  generalize (daemon.step codec call).1.store = after at *
  cases hanswered with
  | refused e => rfl
  | repeated hseen hlook => exact absurd hlook (hlane _ ((hundisturbed.1 request h).symm.trans hseen)).1
  | recorded hget hrecords => exact absurd hrecords.revision (hlane _ hrecords.held).2

/-! ## Calls in between -/

variable {session : String}

/-- A call that is no request for a session registers no lane for it, and is not recorded of its lane. -/
theorem Call.not_registers (h : ¬ call.AsksFor session) (daemon : Daemon α) : ¬ daemon.Registers session call := by
  rintro ⟨input, hsession, minted, later, generation, rfl, -⟩
  exact h (congrArg some hsession)

theorem Call.request_ne (h : ¬ call.AsksFor session) {request : LaneRequest}
    (hrequest : call.request = some request) : request.session ≠ session := by
  intro hsession
  cases call with
  | recordVerification seen input written | recordDelivery seen input written =>
    cases hrequest; exact h (congrArg some hsession)
  | retire seen observed input written | updateEvidence seen input written =>
    cases hrequest; exact h (congrArg some hsession)
  | claim seen session generation_id executor_id expected_revision written =>
    cases hrequest; exact h (congrArg some hsession)
  | updateWorkflow seen input written => cases hrequest; exact h (congrArg some hsession)
  | _ => cases hrequest

variable (codec) in
/-- A call that is no request for a session leaves its lane as it is, or takes it out. -/
theorem Daemon.lane_of_others (hformed : daemon.store.registry.WellFormed) {session : String}
    (hother : ∀ call ∈ between, ¬ call.AsksFor session)
    (hlane : ((daemonMachine codec).run daemon between).store.registry.lane session = some lane) :
    daemon.store.registry.lane session = some lane := by
  induction between generalizing daemon with
  | nil => exact hlane
  | cons call between ih =>
    have hcall := hother call mem_cons_self
    have hmid := ih (step_wellFormed codec hformed call) (fun c hc => hother c (mem_cons_of_mem _ hc)) hlane
    obtain ⟨before, hbefore, rfl | ⟨request, mutated, hrequest, hsession, -⟩⟩ :=
      step_grows hformed (Call.not_registers hcall daemon) hmid
    · exact hbefore
    · exact absurd hsession (Call.request_ne hcall hrequest)

variable (codec) in
/-- A registration whose lane is not retired stays as it is while there is no request for it. -/
theorem Daemon.record_of_others (hformed : daemon.store.registry.WellFormed) {session : String}
    (hother : ∀ call ∈ between, ¬ call.AsksFor session)
    (hget : OrdMap.get daemon.store.registry session = some record) (hlane : record.lane = some lane)
    (hactive : lane.workflow ≠ .Retired) :
    OrdMap.get ((daemonMachine codec).run daemon between).store.registry session = some record := by
  induction between generalizing daemon with
  | nil => exact hget
  | cons call between ih =>
    refine ih (step_wellFormed codec hformed call) (fun c hc => hother c (mem_cons_of_mem _ hc)) ?_
    obtain ⟨generation, houtcome⟩ := daemon.step_outcome codec call
    obtain ⟨lane', hkept, -⟩ := houtcome.keeps hformed hget hlane hactive
    have hone : ∀ c ∈ [call], ¬ c.AsksFor session := fun c hc => hother c (mem_cons.mpr (.inl (mem_singleton.mp hc)))
    have hsame := lane_of_others codec hformed hone (lane_eq_some.mpr ⟨_, hkept, rfl⟩)
    cases (lane_eq_some.mpr ⟨record, hget, hlane⟩).symm.trans hsame
    rw [← hlane] at hkept
    exact hkept

/-! ## Registrations -/

theorem LaneRegistrationInput.answer_ok_iff (input : LaneRegistrationInput) (generation : ℕ)
    (registry : Registry) (detail : LaneDetail) : input.answer generation registry = some (.ok detail) ↔
      input.valid = true ∧ input.registration.lane = none ∧
        ∃ record lane, get registry input.registration.session = some record ∧
          record.lane = some lane ∧ input.repeats lane = true ∧ { record with lane := none } = input.public generation ∧
          detail = laneDetail input.registration.session lane none := by
  unfold answer
  cases hvalid : input.valid with
  | false => simp
  | true =>
    cases hnone : input.registration.lane with
    | some lane => simp
    | none =>
      cases hget : get registry input.registration.session with
      | none => simp
      | some record =>
        cases hlane : record.lane with
        | none => simp [hlane]
        | some lane =>
          simp only [Bool.not_true, Bool.false_eq_true, if_false, isSome_none, hlane]
          by_cases hsame : (input.repeats lane && { record with lane := none } == input.public generation) = true
          · rw [if_pos hsame]
            simp only [Bool.and_eq_true, beq_iff_eq] at hsame
            constructor
            · intro h
              exact ⟨trivial, trivial, record, lane, rfl, hlane, hsame.1, hsame.2, (ok.inj (some.inj h)).symm⟩
            · rintro ⟨-, -, record', lane', hrecord, hlane', -, -, rfl⟩
              cases hrecord
              cases hlane.symm.trans hlane'
              rfl
          · rw [if_neg hsame]
            constructor
            · intro h
              split_ifs at h
              cases h
            · rintro ⟨-, -, record', lane', hrecord, hlane', hrepeats, hpublic, -⟩
              cases hrecord
              cases hlane.symm.trans hlane'
              exact absurd (Bool.and_eq_true_iff.mpr ⟨hrepeats, beq_iff_eq.mpr hpublic⟩) hsame

/-- The record that a registration leaves, or finds. -/
structure LaneRegistrationInput.Recorded (input : LaneRegistrationInput)
    (record : RegisteredTmuxSession) (lane : LaneEvidence) : Prop where
  valid : input.valid = true
  plain : input.registration.lane = none
  held : record.lane = some lane
  repeated : input.repeats lane = true
  same : { record with lane := none } = input.public record.registration_generation

/-- The record of a registration contains its facts. -/
theorem LaneRegistrationInput.Recorded.facts (h : input.Recorded record lane) (minted : ℕ)
    (later : Registry → Registry) (written : Except String Unit) :
    (Call.registerLane minted input later written).FactsIn record lane := by
  have hrepeats := h.repeated
  simp only [repeats, Bool.and_eq_true, beq_iff_eq] at hrepeats
  obtain ⟨⟨⟨⟨⟨⟨-, hgeneration⟩, hkickoff⟩, hlaunch⟩, hexecutor⟩, hkind⟩, hthread⟩ := hrepeats
  exact ⟨h.same, hgeneration, hkickoff, hlaunch, hexecutor, hkind, hthread⟩

/-- A lane that a registration is answered from is fresh. -/
theorem LaneRegistrationInput.Recorded.fresh (h : input.Recorded record lane) :
    lane.revision = 0 ∧ lane.workflow = .Active := by
  have hrepeats := h.repeated
  simp only [repeats, Bool.and_eq_true, beq_iff_eq] at hrepeats
  obtain ⟨⟨⟨⟨⟨⟨⟨⟨-, hrevision⟩, hworkflow⟩, -⟩, -⟩, -⟩, -⟩, -⟩, -⟩ := hrepeats
  exact ⟨hrevision, hworkflow⟩

/-- A registration is answered from its record exactly with the generation of the record. -/
theorem LaneRegistrationInput.answer_recorded_iff (input : LaneRegistrationInput) (generation : ℕ)
    (registry : Registry) (detail : LaneDetail) : input.answer generation registry = some (.ok detail) ↔
      ∃ record lane, get registry input.registration.session = some record ∧
        input.Recorded record lane ∧ record.registration_generation = generation ∧
        detail = laneDetail input.registration.session lane none := by
  rw [answer_ok_iff]
  constructor
  · rintro ⟨hvalid, hplain, record, lane, hget, hlane, hrepeats, hpublic, hdetail⟩
    have hgeneration : record.registration_generation = generation :=
      congrArg RegisteredTmuxSession.registration_generation hpublic
    exact ⟨record, lane, hget, ⟨hvalid, hplain, hlane, hrepeats, hgeneration ▸ hpublic⟩, hgeneration, hdetail⟩
  · rintro ⟨record, lane, hget, ⟨hvalid, hplain, hlane, hrepeats, hpublic⟩, rfl, hdetail⟩
    exact ⟨hvalid, hplain, record, lane, hget, hlane, hrepeats, hpublic, hdetail⟩

theorem RegisteredTmuxSession.without_lane (registration : RegisteredTmuxSession)
    (h : registration.lane = none) (lane : Option LaneEvidence) :
    { { registration with lane := lane } with lane := none } = registration := by
  cases registration
  cases h
  rfl

/-- A registration that is stored is recorded. -/
theorem LaneRegistrationInput.recorded_of_answer {generation : ℕ} (h : input.answer generation registry = none) :
    input.Recorded { input.public generation with lane := some input.lane } input.lane := by
  unfold answer at h
  split_ifs at h with hvalid hplain
  refine ⟨by simpa using hvalid, by simpa using hplain, rfl, ?_, ?_⟩
  · simp [repeats, lane]
  · have hnone : input.registration.lane = none := by simpa using hplain
    exact (input.public generation).without_lane hnone _

variable {minted : ℕ}

/-- A registration that came out well left a record of it. -/
theorem Daemon.first_registration {later : Registry → Registry}
    (hundisturbed : (Call.registerLane minted input later written).Undisturbed daemon.store.registry)
    (hok : (daemon.step codec (.registerLane minted input later written)).2.revision = some revision) :
    revision = 0 ∧ ∃ record lane, get (daemon.step codec (.registerLane minted input later written)).1.store.registry
        input.registration.session = some record ∧ input.Recorded record lane := by
  unfold step at hok ⊢
  cases hminted : daemon.minted[minted]? with
  | none =>
    simp only [Call.place, hminted] at hok
    cases hok
  | some generation =>
    simp only [Call.place, hminted, Call.on, Store.registerLaneRegistration] at hok ⊢
    cases hanswer : input.answer generation daemon.store.registry with
    | some answer =>
      simp only [hanswer] at hok ⊢
      cases answer with
      | error e => cases hok
      | ok detail =>
        obtain ⟨record, lane, hget, hrecorded, -, rfl⟩ := (input.answer_recorded_iff _ _ _).mp hanswer
        exact ⟨(some.inj hok).symm.trans hrecorded.fresh.1, record, lane, hget, hrecorded⟩
    | none =>
      simp only [hanswer] at hok ⊢
      cases hwritten : written with
      | error e =>
        rw [hwritten] at hok
        cases hok
      | ok _ =>
        simp only [daemon.store.swap_ok hwritten] at hok
        have hback := hundisturbed.2 minted input later written rfl (insert daemon.store.registry
          input.registration.session { input.public generation with lane := some input.lane })
        rw [lane_insert_self] at hback
        obtain ⟨record, hrecord, hlane⟩ := lane_eq_some.mp hback
        simp only [laneDetailForSession, hrecord, hlane] at hok
        refine ⟨(some.inj hok).symm, _, _, get_insert_self _ _ _, LaneRegistrationInput.recorded_of_answer hanswer⟩

variable (codec) in
/-- A registration that is sent again is answered from its record exactly with the generation of the
record. -/
theorem Daemon.again_registration (minted : ℕ) (later : Registry → Registry) (written : Except String Unit)
    (hget : OrdMap.get daemon.store.registry input.registration.session = some record)
    (hrecorded : input.Recorded record lane) :
    ((daemon.step codec (.registerLane minted input later written)).2.revision = some 0 ∧
        (daemon.step codec (.registerLane minted input later written)).1.store = daemon.store) ↔
      daemon.minted[minted]? = some record.registration_generation := by
  have hactive : (lane.workflow != .Retired) = true := by rw [hrecorded.fresh.2]; rfl
  unfold step
  cases hminted : daemon.minted[minted]? with
  | none =>
    simp only [Call.place, hminted]
    exact ⟨(fun h => by cases h.1), fun h => by cases h⟩
  | some generation =>
    simp only [Call.place, hminted, Call.on, Store.registerLaneRegistration]
    by_cases hsame : record.registration_generation = generation
    · have hanswer := (input.answer_recorded_iff generation daemon.store.registry _).mpr
        ⟨record, lane, hget, hrecorded, hsame, rfl⟩
      simp only [hanswer]
      refine ⟨fun _ => congrArg some hsame.symm, fun _ => ⟨?_, trivial⟩⟩
      exact congrArg some hrecorded.fresh.1
    · -- The lane is there, and the registration is not the same.
      have hanswer : input.answer generation daemon.store.registry =
          some (.error "lane registration conflicts with existing session") := by
        have hdiffer : ¬ (input.repeats lane && { record with lane := none } == input.public generation) = true := by
          intro h
          simp only [Bool.and_eq_true, beq_iff_eq] at h
          exact hsame (congrArg RegisteredTmuxSession.registration_generation h.2)
        unfold LaneRegistrationInput.answer
        simp only [hrecorded.valid, hrecorded.plain, hget, hrecorded.held, hactive, Bool.not_true,
          Bool.false_eq_true, if_false, isSome_none, if_neg hdiffer, if_true]
      simp only [hanswer]
      exact ⟨(fun h => by cases h.1), fun h => absurd (some.inj h).symm hsame⟩

/-! ## Lost responses -/

/-- A request that came out well in one state is sent again in a later one: it shows the same revision
and changes nothing, and where it is answered as a repeated one, the record contains its facts. -/
structure ReplaySafe (codec : RegistryCodec α) (daemon later : Daemon α) (call again : Call)
    (revision : ℕ) : Prop where
  answer : (later.step codec again).2.revision = some revision
  unchanged : (later.step codec again).1.store = later.store
  facts : ∀ record lane, daemon.Replays call record lane → call.FactsIn record lane
  facts_again : ∀ record lane, later.Replays again record lane → again.FactsIn record lane

/-- What it takes for a request to be sent again safely: its session still has a lane, an initial kickoff
carries no workflow, a delivery names no other kickoff than the lane's, and a registration gets the
generation of the record. -/
structure Replayable (later : Daemon α) (session : String) (call again : Call) : Prop where
  kept : later.store.registry.lane session ≠ none
  no_workflow : ¬ call.KicksOffWorkflow
  operation : ∀ seen input written lane operation, call = .recordDelivery seen input written →
    later.store.registry.lane session = some lane → input.kickoff_operation_id = some operation →
    lane.kickoff_operation_id = operation
  generation : ∀ minted input read written record, again = .registerLane minted input read written →
    OrdMap.get later.store.registry session = some record →
    later.minted[minted]? = some record.registration_generation

/-- A registration that is answered from its record finds its facts there. -/
theorem Daemon.Replays.registration_facts {read : Registry → Registry}
    (h : daemon.Replays (.registerLane minted input read written) record lane) :
    (Call.registerLane minted input read written).FactsIn record lane := by
  obtain ⟨generation, -, hget, hlane, hanswer⟩ := h
  obtain ⟨record', lane', hget', hrecorded, -, -⟩ := (input.answer_recorded_iff _ _ _).mp hanswer
  cases hget.symm.trans hget'
  cases hlane.symm.trans hrecorded.held
  exact hrecorded.facts minted read written

/-- When a lane request that came out well is sent again safely. -/
theorem replaySafe_request_iff {later : Daemon α} (hformed : daemon.store.registry.WellFormed)
    (hsame : call.SameRequest again) {request : LaneRequest} (hrequest : call.request = some request)
    (hexpected : request.expected_revision ≤ U64_MAX) (hundisturbed : call.Undisturbed daemon.store.registry)
    (hok : (daemon.step codec call).2.revision = some revision)
    (hlater : ∀ lane, later.store.registry.lane request.session = some lane →
      (daemon.step codec call).1.store.registry.lane request.session = some lane)
    (hundisturbed' : again.Undisturbed later.store.registry) :
    ReplaySafe codec daemon later call again revision ↔ Replayable later request.session call again := by
  obtain ⟨request', hagain, hsession, hexpected', hlook, hchecked', hfacts⟩ := hsame.request hrequest
  obtain ⟨hchecked, lane, hlane, hrevision, hcase⟩ := daemon.first_answer hrequest hexpected hundisturbed hok
  have hkept {lane' : LaneEvidence} (h : later.store.registry.lane request.session = some lane') :
      lane' = lane := some.inj ((hlater lane' h).symm.trans hlane)
  constructor
  · intro hsafe
    have hsome : later.store.registry.lane request.session = some lane := by
      cases hnone : later.store.registry.lane request.session with
      | some lane' => rw [hkept hnone]
      | none =>
        have hfails := later.again_fails codec hagain hundisturbed' fun lane' h => by
          rw [hsession, hnone] at h
          cases h
        cases hsafe.answer.symm.trans hfails
    have hlooks : request.look lane = .ok true ∧ ¬ call.KicksOffWorkflow := by
      rcases hcase with hlooks | ⟨hworkflow, hne⟩
      · exact ⟨hlooks, fun hworkflow => hworkflow.not_look hrequest lane hlooks⟩
      · have hfails := later.again_fails codec hagain hundisturbed' fun lane' h => by
          rw [hsession] at h
          rw [hkept h, hlook, hexpected']
          exact ⟨hworkflow.not_look hrequest lane, hne⟩
        cases hsafe.answer.symm.trans hfails
    refine ⟨(fun hnone => by rw [hsome] at hnone; cases hnone), hlooks.2, ?_, ?_⟩
    · intro seen input written lane' operation hcall hlane' hoperation
      rw [hkept hlane']
      have hseen := hundisturbed'.1 request' hagain
      rw [hsession, hsome, ← hsession] at hseen
      obtain ⟨record, hget, hheld⟩ := lane_eq_some.mp hseen
      have hreplays : later.Replays again record lane := by
        cases again with
        | registerLane minted input read written => cases hagain
        | _ => exact ⟨request', hagain, hget, hheld, by rw [hlook]; exact hlooks.1⟩
      have hcontains := (hfacts record lane).mp (hsafe.facts_again record lane hreplays)
      rw [hcall] at hcontains
      exact hcontains.2.2.2.2.2.1 operation hoperation
    · intro minted input read written record hcall
      rw [hcall] at hagain
      cases hagain
  · intro hreplayable
    obtain ⟨lane', hsome⟩ := ne_none_iff_exists'.mp hreplayable.kept
    cases hkept hsome
    have hlooks : request.look lane = .ok true := by
      rcases hcase with hlooks | ⟨hworkflow, -⟩
      · exact hlooks
      · exact absurd hworkflow hreplayable.no_workflow
    obtain ⟨hanswer, hunchanged⟩ := later.again_answer codec hagain (hchecked'.trans hchecked)
      hundisturbed' (hsession ▸ hsome) (hlook ▸ hlooks)
    have hoperation : ∀ seen input written, call = .recordDelivery seen input written →
        ∀ operation, input.kickoff_operation_id = some operation → lane.kickoff_operation_id = operation :=
      fun seen input written hcall operation h => hreplayable.operation seen input written lane operation hcall hsome h
    refine ⟨hrevision ▸ hanswer, hunchanged, fun record shown hreplays => ?_, fun record shown hreplays => ?_⟩
    · obtain ⟨request₀, hrequest₀, hget, hheld, hlook₀⟩ : ∃ request, call.request = some request ∧
          get request.seen request.session = some record ∧ record.lane = some shown ∧
          request.look shown = .ok true := by
        cases call with
        | registerLane minted input read written => cases hrequest
        | _ => exact hreplays
      cases hrequest.symm.trans hrequest₀
      refine (Call.facts_of_look hrequest record hlook₀).mpr fun seen input written hcall _ operation h => ?_
      have hnot : ¬ daemon.Registers request.session call := by
        rintro ⟨_, _, _, _, _, rfl, -⟩
        cases hrequest
      obtain ⟨before, hbefore, hlater⟩ := daemon.step_later hformed hnot hlane
      have hshown := (hundisturbed.1 request hrequest).symm.trans (lane_eq_some.mpr ⟨record, hget, hheld⟩)
      cases hbefore.symm.trans hshown
      rw [← hlater.identity.kickoff_operation_id]
      exact hoperation seen input written hcall operation h
    · obtain ⟨request₀, hrequest₀, hget, hheld, hlook₀⟩ : ∃ request, again.request = some request ∧
          get request.seen request.session = some record ∧ record.lane = some shown ∧
          request.look shown = .ok true := by
        cases again with
        | registerLane minted input read written => cases hagain
        | _ => exact hreplays
      cases hagain.symm.trans hrequest₀
      have hshown := (hundisturbed'.1 request' hagain).symm.trans (lane_eq_some.mpr ⟨record, hget, hheld⟩)
      rw [hsession] at hshown
      cases hsome.symm.trans hshown
      rw [hlook] at hlook₀
      exact (hfacts record lane).mpr ((Call.facts_of_look hrequest record hlook₀).mpr
        fun seen input written hcall _ => hoperation seen input written hcall)

/-- A lane request that came out well is sent again safely, while there is no other request for its
session, exactly if it is replayable. -/
theorem lost_responses_iff (file : Option α) (before : List Call) {call again : Call}
    (hsame : call.SameRequest again) {session : String} (hsession : call.session = some session)
    (hexpected : ∀ request, call.request = some request → request.expected_revision ≤ U64_MAX)
    (hundisturbed : call.Undisturbed
      ((daemonMachine codec).run (Daemon.start codec file) before).store.registry) {revision : ℕ}
    (hok : (((daemonMachine codec).run (Daemon.start codec file) before).step codec call).2.revision =
      some revision) {between : List Call} (hother : ∀ other ∈ between, ¬ other.AsksFor session)
    (hundisturbed' : again.Undisturbed
      ((daemonMachine codec).run (Daemon.start codec file) (before ++ call :: between)).store.registry) :
    ReplaySafe codec ((daemonMachine codec).run (Daemon.start codec file) before)
        ((daemonMachine codec).run (Daemon.start codec file) (before ++ call :: between)) call again revision ↔
      Replayable ((daemonMachine codec).run (Daemon.start codec file) (before ++ call :: between)) session
        call again := by
  have hformed := Daemon.run_wellFormed codec (Daemon.start_wellFormed codec file) before
  rw [Machine.run_append, Machine.run_cons] at hundisturbed' ⊢
  generalize (daemonMachine codec).run (Daemon.start codec file) before = daemon at *
  have hstep := Daemon.step_wellFormed codec hformed call
  cases hrequest : call.request with
  | some request =>
    have hname : request.session = session := by
      cases call with
      | registerLane minted input read written => cases hrequest
      | _ => exact some.inj ((congrArg (Option.map LaneRequest.session) hrequest).symm.trans hsession)
    subst hname
    exact replaySafe_request_iff hformed hsame hrequest (hexpected request hrequest) hundisturbed hok
      (fun lane hlane => Daemon.lane_of_others codec hstep hother hlane) hundisturbed'
  | none =>
    cases call with
    | registerLane minted input read written =>
      cases again with
      | registerLane minted' input' read' written' =>
        obtain rfl : input' = input := hsame
        cases hsession
        obtain ⟨rfl, record, lane, hget, hrecorded⟩ := daemon.first_registration hundisturbed hok
        have hactive : lane.workflow ≠ .Retired := by rw [hrecorded.fresh.2]; exact fun h => nomatch h
        have hlater := Daemon.record_of_others codec hstep hother hget hrecorded.held hactive
        have hagain := Daemon.again_registration codec minted' read' written' hlater hrecorded
        constructor
        · intro hsafe
          refine ⟨fun hnone => ?_, id, (fun _ _ _ _ _ hcall => nomatch hcall), ?_⟩
          · cases hnone.symm.trans (lane_eq_some.mpr ⟨record, hlater, hrecorded.held⟩)
          · intro _ _ _ _ record' hcall hget'
            cases hcall
            cases hlater.symm.trans hget'
            exact hagain.mp ⟨hsafe.answer, hsafe.unchanged⟩
        · intro hreplayable
          obtain ⟨hanswer, hunchanged⟩ :=
            hagain.mpr (hreplayable.generation _ _ _ _ record rfl hlater)
          exact ⟨hanswer, hunchanged, fun _ _ h => h.registration_facts, fun _ _ h => h.registration_facts⟩
      | _ => exact hsame.elim
    | mint | registerRuntime minted registration written | remove sessions written => cases hsession
    | prune candidates written | sync monitors now available_sessions => cases hsession
    | _ => cases hrequest

namespace Sample

/-- The registration of the lane. -/
def registerCall : Call := .registerLane 0 laneInput id (.ok ())

def claimedLanes : Registry :=
  [("issue-7", { laneInput.public 1 with
    lane := some { laneInput.lane with launch_state := .Claimed, revision := 1 } })]

def claimAgain : Call := .claim claimedLanes "issue-7" "gen-1" "executor-1" 0 (.ok ())

/-- A claim is sent again. -/
theorem claim_replayed : ReplaySafe plainCodec
    ((daemonMachine plainCodec).run (Daemon.start plainCodec none) [.mint, registerCall])
    ((daemonMachine plainCodec).run (Daemon.start plainCodec none)
      ([.mint, registerCall] ++ claimCall "executor-1" :: [])) (claimCall "executor-1") claimAgain 1 := by
  have hsame : (claimCall "executor-1").SameRequest claimAgain := ⟨rfl, rfl, rfl, rfl⟩
  have hother : ∀ other ∈ ([] : List Call), ¬ other.AsksFor "issue-7" := fun _ h => nomatch h
  refine (lost_responses_iff none [.mint, registerCall] hsame rfl ?_ ⟨?_, ?_⟩ (by decide +kernel) hother
    ⟨?_, ?_⟩).mpr ⟨?_, id, ?_, ?_⟩
  · intro request hrequest
    cases hrequest
    exact Nat.zero_le _
  · intro request hrequest
    cases hrequest
    decide +kernel
  · intro _ _ _ _ h
    cases h
  · intro request hrequest
    cases hrequest
    decide +kernel
  · intro _ _ _ _ h
    cases h
  · decide +kernel
  · intro _ _ _ _ _ h
    cases h
  · intro _ _ _ _ _ h
    cases h

/-- A registration that is sent again is refused: its generation is another one. -/
theorem registration_not_replayed :
    (((daemonMachine plainCodec).run (Daemon.start plainCodec none) [.mint]).step plainCodec
        registerCall).2.revision = some 0 ∧ ¬ ReplaySafe plainCodec
        ((daemonMachine plainCodec).run (Daemon.start plainCodec none) [.mint])
        ((daemonMachine plainCodec).run (Daemon.start plainCodec none) ([.mint] ++ registerCall :: [.mint]))
        registerCall registerCall 0 := by
  refine ⟨by decide +kernel, fun h => ?_⟩
  have hfails : (((daemonMachine plainCodec).run (Daemon.start plainCodec none)
      ([.mint] ++ registerCall :: [.mint])).step plainCodec registerCall).2.revision = none := by
    decide +kernel
  cases h.answer.symm.trans hfails

end Sample

end Clawhip.Tmux
