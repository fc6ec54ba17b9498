import Clawhip.Tmux.Generations

/-!
# Requests about a lane

The six operations on a lane answer in the same way: the lane that is seen before the lock may answer
the request as a repeated one, or refuse it; behind the lock the request is recorded of the lane if its
revision is the expected one. The lemmas say this once for all six, and what becomes of a lane in one
call.
-/

namespace Clawhip.Tmux

variable {α : Type} {codec : RegistryCodec α}

/-! ## Requests -/

/-- A request about the lane of a session. -/
structure LaneRequest where
  session : String
  expected_revision : ℕ
  /-- The registry before the lock. -/
  seen : Registry
  /-- The answer of the file system to the save. -/
  written : Except String Unit
  /-- The checks of the input. -/
  admitted : Bool
  /-- What the lane before the lock says: whether the request is a repeated one. -/
  look : LaneEvidence → Except String Bool
  mutate : LaneEvidence → Except String LaneEvidence

/-- The request of a call, if it is about a lane. -/
def Call.request : Call → Option LaneRequest
  | .recordVerification seen input written => some
    { session := input.session, expected_revision := input.expected_revision, seen, written
      admitted := validVerification input && validId input.generation_id
      look := fun lane => .ok (input.repeats lane)
      mutate := input.mutate }
  | .recordDelivery seen input written => some
    { session := input.session, expected_revision := input.expected_revision, seen, written
      admitted := input.valid
      look := fun lane => .ok (input.repeats lane)
      mutate := input.mutate }
  | .retire seen observed input written => some
    { session := input.session, expected_revision := input.expected_revision, seen, written
      admitted := validId input.generation_id && observed.toOption == some false
      look := fun lane => .ok (input.repeats lane)
      mutate := input.mutate }
  | .claim seen session generation_id executor_id expected_revision written => some
    { session, expected_revision, seen, written
      admitted := validId generation_id && validId executor_id
      look := fun lane =>
        if lane.workflow = .Retired then .error "lane claim conflicts with retired workflow"
        else .ok (lane.revision == saturatingSucc expected_revision &&
          lane.generation_id == generation_id && lane.executor_id == executor_id &&
          lane.launch_state == .Claimed)
      mutate := claimMutate generation_id executor_id }
  | .updateEvidence seen input written => some
    { session := input.session, expected_revision := input.expected_revision, seen, written
      admitted := validId input.generation_id && validId input.launch_operation_id &&
        validId input.executor_id
      look := fun lane => .ok (input.repeats lane)
      mutate := input.mutate }
  | .updateWorkflow seen input written => some
    { session := input.session, expected_revision := input.expected_revision, seen, written
      admitted := validId input.generation_id
      look := fun lane => .ok (input.repeats lane)
      mutate := input.mutate }
  | _ => none

/-- A lane with the revision that follows. -/
def LaneEvidence.revised (lane : LaneEvidence) : LaneEvidence := { lane with revision := lane.revision + 1 }

/-- The request is recorded of a lane of the registry: the lane that was seen lets it pass, and the lane
behind the lock is mutated. -/
structure LaneRequest.Records (request : LaneRequest) (registry : Registry)
    (lane mutated : LaneEvidence) : Prop where
  admitted : request.admitted = true
  written : request.written = .ok ()
  passes : ∃ shown, request.seen.lane request.session = some shown ∧ request.look shown = .ok false
  held : registry.lane request.session = some lane
  revision : lane.revision = request.expected_revision
  mutate : request.mutate lane = .ok mutated
  room : mutated.revision ≠ U64_MAX

/-- The request is answered as a repeated one. -/
def LaneRequest.Repeated (request : LaneRequest) : Prop :=
  ∃ shown, request.seen.lane request.session = some shown ∧ request.look shown = .ok true

/-- What a request comes to. -/
inductive LaneRequest.Answered (codec : RegistryCodec α) (request : LaneRequest) (store : Store α) :
    Except String LaneSnapshot × Store α → Prop
  | refused (e : String) : Answered codec request store (.error e, store)
  | repeated {shown : LaneEvidence} (hseen : request.seen.lane request.session = some shown)
      (hlook : request.look shown = .ok true) :
      Answered codec request store (.ok (laneSnapshot request.session shown none), store)
  | recorded {registration : RegisteredTmuxSession} {lane mutated : LaneEvidence}
      (hget : OrdMap.get store.registry request.session = some registration)
      (hrecords : request.Records store.registry lane mutated) :
      Answered codec request store
        (.ok (laneSnapshot request.session mutated.revised none),
          .holding codec (OrdMap.insert store.registry request.session
            { registration with lane := some mutated.revised }))

/-- What the lane before the lock answers to a request. -/
def LaneRequest.answer (request : LaneRequest) (lane : LaneEvidence) :
    Except String (Option LaneSnapshot) :=
  (request.look lane).map fun same =>
    if same then some (laneSnapshot request.session lane none) else none

variable (codec) in
/-- A request that is admitted looks at the lane and then goes to the lock. -/
def LaneRequest.on (request : LaneRequest) (store : Store α) : Except String LaneSnapshot × Store α :=
  store.answering request.seen request.session request.answer
    (store.mutateLane codec request.written request.session request.expected_revision request.mutate)

variable {store : Store α} {call : Call} {lane lane' : LaneEvidence} {session : String} {request : LaneRequest}

/-- What `mutate_lane` comes to for a request that passed. -/
theorem LaneRequest.answered_of_mutateLane (hadmitted : request.admitted = true)
    (hpasses : ∃ shown, request.seen.lane request.session = some shown ∧ request.look shown = .ok false) :
    request.Answered codec store (store.mutateLane codec request.written request.session
      request.expected_revision request.mutate) := by
  rcases store.mutateLane_cases codec request.written request.session request.expected_revision
    request.mutate with ⟨e, he⟩ | ⟨registration, lane, mutated, hget, hlane, hrevision, hwritten, hmutate, hroom, hok⟩
  · rw [he]
    exact .refused e
  · rw [hok]
    exact .recorded hget ⟨hadmitted, hwritten, hpasses, Registry.lane_eq_some.mpr ⟨_, hget, hlane⟩,
      hrevision, hmutate, hroom⟩

/-- What a request comes to that looks at the lane and goes on with `next` if it is let pass. -/
theorem LaneRequest.answered_of_answering {next : Except String LaneSnapshot × Store α}
    (hnext : (∃ shown, request.seen.lane request.session = some shown ∧
      request.look shown = .ok false) → request.Answered codec store next) : request.Answered codec store
      (store.answering request.seen request.session request.answer next) := by
  unfold Store.answering
  cases hseen : request.seen.lane request.session with
  | none => exact .refused _
  | some shown =>
    simp only [answer]
    cases hlook : request.look shown with
    | error e => exact .refused e
    | ok same =>
      cases same with
      | true => exact .repeated hseen hlook
      | false => exact hnext ⟨shown, hseen, hlook⟩

/-- A request that is admitted comes to an answer of its lane. -/
theorem LaneRequest.on_answered (hadmitted : request.admitted = true)
    (store : Store α) : request.Answered codec store (request.on codec store) :=
  answered_of_answering fun hpasses => answered_of_mutateLane hadmitted hpasses

/-- A request that is not admitted is refused, before the lane is looked at or after. -/
theorem LaneRequest.answered_of_refused (request : LaneRequest) (e : String) : request.Answered codec store
      (store.answering request.seen request.session request.answer (.error e, store)) :=
  answered_of_answering fun _ => .refused e

/-- A call comes to what its request comes to. -/
structure Call.Asks (codec : RegistryCodec α) (request : LaneRequest) (store : Store α)
    (result : Answer × Store α) : Prop where
  answered : ∃ answer, result.1 = .snapshot answer ∧ request.Answered codec store (answer, result.2)
  admitted : request.admitted = true →
    result = (.snapshot (request.on codec store).1, (request.on codec store).2)

theorem Call.Asks.of_on (hadmitted : request.admitted = true) :
    Call.Asks codec request store (.snapshot (request.on codec store).1, (request.on codec store).2) :=
  ⟨⟨_, rfl, request.on_answered hadmitted store⟩, fun _ => rfl⟩

/-- The look of a claim, as the lane before the lock answers it. -/
theorem claim_answer (session generation_id executor_id : String) (expected_revision : ℕ) : (fun lane : LaneEvidence =>
      if lane.workflow = .Retired then
        (.error "lane claim conflicts with retired workflow" : Except String (Option LaneSnapshot))
      else recognised session lane
        (lane.revision == saturatingSucc expected_revision && lane.generation_id == generation_id &&
          lane.executor_id == executor_id && lane.launch_state == .Claimed)) =
      fun lane => Except.map (fun same => if same then some (laneSnapshot session lane none) else none)
        (if lane.workflow = .Retired then .error "lane claim conflicts with retired workflow"
        else .ok (lane.revision == saturatingSucc expected_revision &&
          lane.generation_id == generation_id && lane.executor_id == executor_id &&
          lane.launch_state == .Claimed)) := by
  funext lane
  split_ifs
  · rfl
  · rfl

/-- The checks of a call that come before the lane is looked at. -/
def Call.prechecked : Call → Bool
  | .recordDelivery _ input _ => input.valid
  | .retire _ _ input _ => validId input.generation_id
  | .claim _ _ generation_id executor_id _ _ => validId generation_id && validId executor_id
  | .updateEvidence _ input _ =>
    validId input.generation_id && validId input.launch_operation_id && validId input.executor_id
  | .updateWorkflow _ input _ => validId input.generation_id
  | _ => true

/-- What a request goes on with behind the lock: it is recorded, or refused if it is not admitted. -/
structure LaneRequest.GoesOn (codec : RegistryCodec α) (request : LaneRequest) (store : Store α)
    (next : Except String LaneSnapshot × Store α) : Prop where
  admitted : request.admitted = true → next = store.mutateLane codec request.written request.session
    request.expected_revision request.mutate
  refused : request.admitted = false → ∃ e, next = (.error e, store)

theorem LaneRequest.GoesOn.of_admitted (h : request.admitted = true) :
    request.GoesOn codec store (store.mutateLane codec request.written request.session
      request.expected_revision request.mutate) :=
  ⟨fun _ => rfl, fun hrefused => by rw [h] at hrefused; cases hrefused⟩

variable (codec) in
/-- A call that is about a lane looks at the lane and goes on, unless its checks fail. -/
theorem Call.on_looks {request : LaneRequest} (h : call.request = some request) (generation : ℕ)
    (store : Store α) : (call.prechecked = false ∧ request.admitted = false ∧
      ∃ e, call.on codec generation store = (.snapshot (.error e), store)) ∨
      call.prechecked = true ∧ ∃ next, request.GoesOn codec store next ∧ call.on codec generation store =
          (.snapshot (store.answering request.seen request.session request.answer next).1,
            (store.answering request.seen request.session request.answer next).2) := by
  cases hchecked : call.prechecked with
  | true =>
    refine .inr ⟨rfl, ?_⟩
    cases call with
    | recordVerification seen input written =>
      cases h
      refine ⟨_, ⟨fun hadmitted => ?_, fun hrefused => ?_⟩, rfl⟩
      · have hvalid : (!validVerification input || !validId input.generation_id) = false := by
          rw [← Bool.not_and]
          exact congrArg not hadmitted
        rw [hvalid]
        rfl
      · have hvalid : (!validVerification input || !validId input.generation_id) = true := by
          rw [← Bool.not_and]
          exact congrArg not hrefused
        exact ⟨_, by rw [if_pos hvalid]⟩
    | recordDelivery seen input written =>
      cases h
      have hvalid : input.valid = true := hchecked
      simp only [on, Store.recordLaneDelivery, hvalid, Bool.not_true, Bool.false_eq_true, if_false]
      exact ⟨_, .of_admitted rfl, rfl⟩
    | retire seen observed input written =>
      cases h
      have hvalid : validId input.generation_id = true := hchecked
      simp only [on, Store.retireLaneIfAbsent, hvalid, Bool.not_true, Bool.false_eq_true, if_false]
      refine ⟨_, ⟨fun hadmitted => ?_, fun hrefused => ?_⟩, rfl⟩
      · rcases observed with _ | _ | _
        · cases hadmitted
        · rfl
        · cases hadmitted
      · rcases observed with _ | _ | _
        · exact ⟨_, rfl⟩
        · cases hrefused
        · exact ⟨_, rfl⟩
    | claim seen session generation_id executor_id expected_revision written =>
      cases h
      simp only [prechecked, Bool.and_eq_true] at hchecked
      simp only [on, Store.claimLane, hchecked.1, hchecked.2, Bool.not_true, Bool.or_self,
        Bool.false_eq_true, if_false, claim_answer]
      exact ⟨_, .of_admitted rfl, rfl⟩
    | updateEvidence seen input written =>
      cases h
      simp only [prechecked, Bool.and_eq_true] at hchecked
      simp only [on, Store.updateLaneEvidence, hchecked.1, hchecked.2, Bool.not_true, Bool.or_self,
        Bool.false_eq_true, if_false]
      exact ⟨_, .of_admitted rfl, rfl⟩
    | updateWorkflow seen input written =>
      cases h
      have hvalid : validId input.generation_id = true := hchecked
      simp only [on, Store.updateLaneWorkflow, hvalid, Bool.not_true, Bool.false_eq_true, if_false]
      exact ⟨_, .of_admitted rfl, rfl⟩
    | _ => cases h
  | false =>
    refine .inl ⟨rfl, ?_⟩
    cases call with
    | recordVerification seen input written => cases hchecked
    | recordDelivery seen input written =>
      cases h
      have hvalid : input.valid = false := hchecked
      simp only [on, Store.recordLaneDelivery, hvalid, Bool.not_false, if_true]
      exact ⟨trivial, _, rfl⟩
    | retire seen observed input written =>
      cases h
      have hvalid : validId input.generation_id = false := hchecked
      simp only [on, Store.retireLaneIfAbsent, hvalid, Bool.not_false, if_true, Bool.false_and]
      exact ⟨trivial, _, rfl⟩
    | claim seen session generation_id executor_id expected_revision written =>
      cases h
      have hinvalid : (!validId generation_id || !validId executor_id) = true := by
        rw [← Bool.not_and]
        exact congrArg not hchecked
      simp only [on, Store.claimLane, hinvalid, if_true]
      exact ⟨hchecked, _, rfl⟩
    | updateEvidence seen input written =>
      cases h
      have hinvalid : (!validId input.generation_id || !validId input.launch_operation_id ||
          !validId input.executor_id) = true := by
        rw [← Bool.not_and, ← Bool.not_and]
        exact congrArg not hchecked
      simp only [on, Store.updateLaneEvidence, hinvalid, if_true]
      exact ⟨hchecked, _, rfl⟩
    | updateWorkflow seen input written =>
      cases h
      have hvalid : validId input.generation_id = false := hchecked
      simp only [on, Store.updateLaneWorkflow, hvalid, Bool.not_false, if_true]
      exact ⟨trivial, _, rfl⟩
    | _ => cases h

/-- A call that is about a lane comes to what its request comes to. -/
theorem Call.asks (h : call.request = some request) (generation : ℕ) (store : Store α) :
    Call.Asks codec request store (call.on codec generation store) := by
  rcases call.on_looks codec h generation store with
    ⟨-, hrefused, e, he⟩ | ⟨-, next, hnext, hon⟩
  · rw [he]
    exact ⟨⟨_, rfl, .refused e⟩, fun h => by rw [hrefused] at h; cases h⟩
  · rw [hon]
    cases hadmitted : request.admitted with
    | true =>
      rw [hnext.admitted hadmitted]
      exact .of_on hadmitted
    | false =>
      obtain ⟨e, rfl⟩ := hnext.refused hadmitted
      exact ⟨⟨_, rfl, request.answered_of_refused e⟩, fun h => by rw [hadmitted] at h; cases h⟩

variable (codec) in
/-- A request that can be recorded is recorded. -/
theorem LaneRequest.Records.on_eq {request : LaneRequest} {mutated : LaneEvidence}
    (h : request.Records store.registry lane mutated) :
    ∃ registration, OrdMap.get store.registry request.session = some registration ∧
      request.on codec store = (.ok (laneSnapshot request.session mutated.revised none),
        .holding codec (OrdMap.insert store.registry request.session
          { registration with lane := some mutated.revised })) := by
  obtain ⟨registration, hget, hlane⟩ := Registry.lane_eq_some.mp h.held
  obtain ⟨shown, hseen, hlook⟩ := h.passes
  refine ⟨registration, hget, ?_⟩
  unfold on Store.answering Store.mutateLane
  simp only [hseen, answer, hlook, hget, hlane, h.revision, h.mutate, Except.map, ne_eq,
    not_true_eq_false, Bool.false_eq_true, if_false, if_neg h.room, store.swap_ok h.written]
  rfl

theorem Call.mutates_request (h : call.Mutates session lane lane') :
    ∃ request, call.request = some request ∧ request.session = session ∧ request.mutate lane = .ok lane' := by
  cases call with
  | recordVerification seen input written | recordDelivery seen input written => exact ⟨_, rfl, h.1.symm, h.2⟩
  | retire seen observed input written => exact ⟨_, rfl, h.1.symm, h.2.2⟩
  | claim seen claimed generation_id executor_id expected_revision written => exact ⟨_, rfl, h.1.symm, h.2⟩
  | updateEvidence seen input written | updateWorkflow seen input written => exact ⟨_, rfl, h.1.symm, h.2⟩
  | _ => exact h.elim

/-! ## Lanes in one call -/

def Daemon.RegistersLane (daemon : Daemon α) (input : LaneRegistrationInput) (call : Call) : Prop :=
  ∃ minted later generation, call = .registerLane minted input later (.ok ()) ∧
    daemon.minted[minted]? = some generation ∧ input.answer generation daemon.store.registry = none

/-- The call registers a lane for the session. -/
def Daemon.Registers (daemon : Daemon α) (session : String) (call : Call) : Prop :=
  ∃ input : LaneRegistrationInput, input.registration.session = session ∧ daemon.RegistersLane input call

/-- A call of a daemon that is about a lane. -/
theorem Daemon.step_request (daemon : Daemon α) (h : call.request = some request) :
    daemon.step codec call = ({ daemon with store := (call.on codec 0 daemon.store).2 },
      (call.on codec 0 daemon.store).1) := by
  cases call with
  | mint => cases h
  | registerRuntime minted registration written => cases h
  | registerLane minted input later written => cases h
  | _ => rfl

variable (codec) in
/-- A call of a daemon that is about a lane comes to what its request comes to. -/
theorem Daemon.step_asks (daemon : Daemon α) {request : LaneRequest} (h : call.request = some request) :
    Call.Asks codec request daemon.store ((daemon.step codec call).2, (daemon.step codec call).1.store) := by
  rw [daemon.step_request h]
  exact call.asks h 0 daemon.store

variable (codec) in
/-- What a daemon does at a call: nothing, or what the call does with the generation that it uses. -/
theorem Daemon.step_cases (daemon : Daemon α) (call : Call) : (daemon.step codec call).1.store = daemon.store ∨
      ∃ generation, (∀ place, call.place = some place → daemon.minted[place]? = some generation) ∧
        ((daemon.step codec call).2, (daemon.step codec call).1.store) = call.on codec generation daemon.store := by
  unfold step
  split
  · exact .inl rfl
  · cases hplace : call.place with
    | none => exact .inr ⟨0, (fun _ h => nomatch h), rfl⟩
    | some place =>
      cases hminted : daemon.minted[place]? with
      | none => exact .inl (by simp only [hminted])
      | some generation => exact .inr ⟨generation, fun _ h => Option.some.inj h ▸ hminted, by simp only [hminted]⟩

theorem Registry.lane_insert_ne {registry : Registry} {name : String} {registration : RegisteredTmuxSession}
    (h : session ≠ name) : Registry.lane (OrdMap.insert registry name registration) session = registry.lane session :=
  congrArg (Option.bind · RegisteredTmuxSession.lane) (OrdMap.get_insert_ne _ _ h)

/-- Where the lane of a session comes from in a call of a daemon: it was there, it is registered, or a
request is recorded of it. -/
theorem Daemon.step_lane {daemon : Daemon α} (hformed : daemon.store.registry.WellFormed)
    (hlane : (daemon.step codec call).1.store.registry.lane session = some lane) :
    daemon.store.registry.lane session = some lane ∨
      (∃ input : LaneRegistrationInput, input.registration.session = session ∧
        daemon.RegistersLane input call ∧ lane = input.lane) ∨
      ∃ request before mutated, call.request = some request ∧ request.session = session ∧
        request.Records daemon.store.registry before mutated ∧ lane = mutated.revised := by
  cases hrequest : call.request with
  | some request =>
    obtain ⟨answer, -, hanswered⟩ := (daemon.step_asks codec hrequest).answered
    generalize (daemon.step codec call).1.store = after at *
    cases hanswered with
    | refused e | repeated hseen hlook => exact .inl hlane
    | recorded hget hrecords =>
      by_cases hsession : session = request.session
      · subst hsession
        have hnew := Registry.lane_insert_self.symm.trans hlane
        exact .inr (.inr ⟨request, _, _, rfl, rfl, hrecords, (Option.some.inj hnew).symm⟩)
      · exact .inl ((Registry.lane_insert_ne hsession).symm.trans hlane)
  | none =>
    rcases daemon.step_cases codec call with hsame | ⟨generation, hplace, hon⟩
    · exact .inl (hsame ▸ hlane)
    have hafter : (daemon.step codec call).1.store = (call.on codec generation daemon.store).2 := congrArg Prod.snd hon
    rw [hafter] at hlane
    rcases (call.outcome codec generation daemon.store).lane_cases hformed hlane with
      hsame | ⟨minted, input, later, hcall, hsession, hanswer, hnew⟩ | ⟨_, _, _, hmutates, _⟩
    · exact .inl hsame
    · subst hcall
      exact .inr (.inl ⟨input, hsession.symm, ⟨minted, later, generation, rfl, hplace minted rfl, hanswer⟩, hnew⟩)
    · obtain ⟨request, hsome, -⟩ := Call.mutates_request hmutates
      cases hrequest.symm.trans hsome

variable (codec) in
/-- A registry that is loaded is well formed. -/
theorem Daemon.start_wellFormed (file : Option α) : (Daemon.start codec file).store.registry.WellFormed := by
  have hall (entries : OrdMap String StoredRegistryValue) (loading : Loading)
      (h : loading.registry.WellFormed) : (entries.foldl Loading.insert loading).registry.WellFormed := by
    induction entries generalizing loading with
    | nil => exact h
    | cons entry entries ih => exact ih _ (h.insert fun hsource => absurd hsource entry.2.registration_source_ne)
  exact hall _ _ ⟨List.nodup_nil, fun _ _ h => nomatch h⟩

variable (codec) in
/-- A call leaves the registry of a daemon well formed. -/
theorem Daemon.step_wellFormed {daemon : Daemon α} (hformed : daemon.store.registry.WellFormed)
    (call : Call) : (daemon.step codec call).1.store.registry.WellFormed := by
  obtain ⟨generation, houtcome⟩ := daemon.step_outcome codec call
  exact houtcome.wellFormed hformed

end Clawhip.Tmux
