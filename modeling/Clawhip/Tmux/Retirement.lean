import Clawhip.Lib.Refusal
import Clawhip.Tmux.Daemon

/-!
# Retirement of lanes

A retired lane may be replaced, overwritten and removed. `retire_lane_if_absent` retires a lane when its
session has been observed to be absent, and `update_lane_workflow` refuses to; `record_lane_delivery`
takes any workflow of its input. `retired_by_absence_iff` says that the lanes of a run are retired by
absence alone exactly if no delivery of the run retires a lane.
-/

namespace Clawhip.Tmux

open List Option OrdMap Machine Registry

variable {α : Type} {codec : RegistryCodec α}

/-! ## Mutations -/

/-- The evidence that a lane is registered with. -/
structure LaneEvidence.SameIdentity (lane lane' : LaneEvidence) : Prop where
  generation_id : lane'.generation_id = lane.generation_id
  kickoff_operation_id : lane'.kickoff_operation_id = lane.kickoff_operation_id
  launch_operation_id : lane'.launch_operation_id = lane.launch_operation_id
  executor_id : lane'.executor_id = lane.executor_id
  worker_effect_kind : lane'.worker_effect_kind = lane.worker_effect_kind
  thread_id : lane'.thread_id = lane.thread_id

variable {lane lane' : LaneEvidence} {input : LaneDeliveryMutation} {call : Call} {session : String}
  {registry : Registry} {generation : ℕ} {result : Answer × Store α} {store : Store α} {calls : List Call}
  {start : Daemon α}

theorem LaneVerificationMutation.mutate_ok {input : LaneVerificationMutation} (h : input.mutate lane = .ok lane') :
    lane.workflow ≠ .Retired ∧ lane'.workflow = lane.workflow ∧ lane.SameIdentity lane' := by
  unfold mutate at h
  split_ifs at h with hretired
  cases h
  exact ⟨fun hworkflow => hretired (.inr hworkflow), rfl, ⟨rfl, rfl, rfl, rfl, rfl, rfl⟩⟩

theorem LaneWorkflowMutation.mutate_ok {input : LaneWorkflowMutation} (h : input.mutate lane = .ok lane') :
    lane.workflow ≠ .Retired ∧ lane'.workflow ≠ .Retired ∧ lane.SameIdentity lane' := by
  unfold mutate at h
  split_ifs at h with hretired hasks
  cases h
  exact ⟨fun hworkflow => hretired (.inr hworkflow), hasks, ⟨rfl, rfl, rfl, rfl, rfl, rfl⟩⟩

theorem LaneEvidenceMutation.mutate_ok {input : LaneEvidenceMutation} (h : input.mutate lane = .ok lane') :
    lane.workflow ≠ .Retired ∧ lane'.workflow = lane.workflow ∧ lane.SameIdentity lane' := by
  unfold mutate at h
  split_ifs at h with hretired
  cases h
  refine ⟨fun hworkflow => hretired ?_, rfl, ⟨rfl, rfl, rfl, rfl, rfl, rfl⟩⟩
  exact .inr (.inr (.inr (.inr hworkflow)))

variable {generation_id executor_id : String}

/-- What a claim makes of a lane: only its executor claims it. -/
theorem claimMutate_spec (h : claimMutate generation_id executor_id lane = .ok lane') :
    lane.generation_id = generation_id ∧ lane.executor_id = executor_id ∧
      (lane.workflow ≠ .Retired ∧ (lane.launch_state = .Ready ∨ lane.launch_state = .Claimed)) ∧
      lane' = { lane with launch_state := .Claimed } := by
  unfold claimMutate at h
  by_cases hidentity : lane.generation_id ≠ generation_id ∨ lane.executor_id ≠ executor_id
  · rw [if_pos hidentity] at h
    cases h
  rw [if_neg hidentity] at h
  simp only [ne_eq, not_or, not_not] at hidentity
  by_cases hretired : lane.workflow = .Retired
  · rw [if_pos hretired] at h
    cases h
  rw [if_neg hretired] at h
  by_cases hready : lane.launch_state = .Ready
  · simp only [if_pos hready] at h
    cases h
    exact ⟨hidentity.1, hidentity.2, ⟨hretired, .inl hready⟩, rfl⟩
  · simp only [if_neg hready] at h
    by_cases hclaimed : lane.launch_state = .Claimed
    · rw [if_neg (not_not_intro hclaimed)] at h
      cases h
      exact ⟨hidentity.1, hidentity.2, ⟨hretired, .inr hclaimed⟩, by rw [← hclaimed]⟩
    · rw [if_pos hclaimed] at h
      cases h

theorem claimMutate_ok (h : claimMutate generation_id executor_id lane = .ok lane') :
    lane.workflow ≠ .Retired ∧ lane'.workflow = lane.workflow ∧ lane.SameIdentity lane' := by
  obtain ⟨-, -, ⟨hretired, -⟩, rfl⟩ := claimMutate_spec h
  exact ⟨hretired, rfl, ⟨rfl, rfl, rfl, rfl, rfl, rfl⟩⟩

theorem LaneRetirementMutation.mutate_ok {input : LaneRetirementMutation} (h : input.mutate lane = .ok lane') :
    lane'.workflow = .Retired ∧ lane'.quiesced = true ∧ lane.SameIdentity lane' := by
  unfold mutate at h
  split_ifs at h with hgeneration hdone
  · cases h
    exact ⟨hdone.1, hdone.2, ⟨rfl, rfl, rfl, rfl, rfl, rfl⟩⟩
  · cases h
    exact ⟨rfl, rfl, ⟨rfl, rfl, rfl, rfl, rfl, rfl⟩⟩

/-- What `record_lane_delivery` makes of a lane that it accepts. -/
def LaneDeliveryMutation.delivered (input : LaneDeliveryMutation) (lane : LaneEvidence) :
    LaneEvidence :=
  let lane := { lane with
    workflow := input.workflow.getD lane.workflow
    visibility := some input.visibility
    last_failure := input.error_category
    delivery_disposition := input.disposition
    delivery_retry_count := min (lane.delivery_retry_count + 1) (2 ^ 32 - 1) }
  if input.initial_kickoff then
    { lane with kickoff_message_id := input.message_id, kickoff_delivered_at := input.delivered_at }
  else
    { lane with
      latest_update_message_id := input.message_id
      latest_update_kind := input.kind
      latest_update_delivered_at := input.delivered_at }

/-- A lane that `record_lane_delivery` accepts. -/
def LaneDeliveryMutation.Accepts (input : LaneDeliveryMutation) (lane : LaneEvidence) : Prop :=
  lane.generation_id = input.generation_id ∧ (lane.workflow = .Retired → input.workflow = some .Retired) ∧
    (input.initial_kickoff = true → input.kicksOff lane = true)

/-- `record_lane_delivery` accepts a lane, or refuses it. -/
theorem LaneDeliveryMutation.mutate_cases (input : LaneDeliveryMutation) (lane : LaneEvidence) :
    input.Accepts lane ∧ input.mutate lane = .ok (input.delivered lane) ∨
      ¬ input.Accepts lane ∧ ∃ e, input.mutate lane = .error e := by
  unfold mutate
  by_cases hconflict : lane.generation_id ≠ input.generation_id ∨
      lane.workflow = .Retired ∧ input.workflow ≠ some .Retired
  · refine .inr ⟨fun haccepts => ?_, _, by rw [if_pos hconflict]; rfl⟩
    rcases hconflict with hgeneration | ⟨hretired, hasks⟩
    · exact hgeneration haccepts.1
    · exact hasks (haccepts.2.1 hretired)
  rw [if_neg hconflict]
  have hgeneration : lane.generation_id = input.generation_id := by
    by_contra hne
    exact hconflict (.inl hne)
  have hretired : lane.workflow = .Retired → input.workflow = some .Retired := by
    intro hretired
    by_contra hne
    exact hconflict (.inr ⟨hretired, hne⟩)
  have hsame : input.kicksOff { lane with workflow := input.workflow.getD lane.workflow } = input.kicksOff lane := rfl
  unfold delivered
  simp only [hsame]
  by_cases hinitial : input.initial_kickoff = true
  · simp only [if_pos hinitial]
    by_cases hkicks : input.kicksOff lane = true
    · refine .inl ⟨⟨hgeneration, hretired, fun _ => hkicks⟩, ?_⟩
      simp only [hkicks, Bool.not_true]
      rfl
    · refine .inr ⟨fun haccepts => hkicks (haccepts.2.2 hinitial), "initial kickoff fact conflict", ?_⟩
      simp only [hkicks, Bool.not_false]
      rfl
  · simp only [if_neg hinitial]
    exact .inl ⟨⟨hgeneration, hretired, fun h => absurd h hinitial⟩, rfl⟩

/-- `record_lane_delivery` sets the workflow that it is told, and leaves the rest of the lane's state. -/
theorem LaneDeliveryMutation.delivered_spec (input : LaneDeliveryMutation) (lane : LaneEvidence) :
    (input.delivered lane).workflow = input.workflow.getD lane.workflow ∧
      (input.delivered lane).quiesced = lane.quiesced ∧
      (input.delivered lane).revision = lane.revision ∧ lane.SameIdentity (input.delivered lane) := by
  unfold delivered
  split_ifs
  · exact ⟨rfl, rfl, rfl, ⟨rfl, rfl, rfl, rfl, rfl, rfl⟩⟩
  · exact ⟨rfl, rfl, rfl, ⟨rfl, rfl, rfl, rfl, rfl, rfl⟩⟩

theorem LaneDeliveryMutation.mutate_ok (h : input.mutate lane = .ok lane') :
    input.Accepts lane ∧ lane' = input.delivered lane := by
  rcases input.mutate_cases lane with ⟨haccepts, hok⟩ | ⟨-, e, he⟩
  · exact ⟨haccepts, Except.ok.inj (h.symm.trans hok)⟩
  · rw [he] at h
    cases h

/-- A mutation keeps the evidence that the lane was registered with. -/
theorem Call.Mutates.sameIdentity (h : call.Mutates session lane lane') : lane.SameIdentity lane' := by
  cases call with
  | recordVerification seen input written | updateEvidence seen input written => exact (input.mutate_ok h.2).2.2
  | recordDelivery seen input written =>
    rw [(input.mutate_ok h.2).2]
    exact (input.delivered_spec lane).2.2.2
  | retire seen observed input written => exact (input.mutate_ok h.2.2).2.2
  | claim seen claimed generation_id executor_id expected_revision written => exact (claimMutate_ok h.2).2.2
  | updateWorkflow seen input written => exact (input.mutate_ok h.2).2.2
  | mint | registerRuntime minted registration written | registerLane minted input later written => exact h.elim
  | remove sessions written | prune candidates written | sync monitors now available_sessions => exact h.elim

/-- A mutation that leaves a lane retired is a retirement, or a delivery. -/
theorem Call.Mutates.retired_cases (h : call.Mutates session lane lane') (hretired : lane'.workflow = .Retired) :
    (∃ seen input written, call = .retire seen (.ok false) input written ∧
        session = input.session ∧ lane'.quiesced = true) ∨
      ∃ seen input written, call = .recordDelivery seen input written ∧ session = input.session ∧
        lane'.quiesced = lane.quiesced := by
  cases call with
  | recordVerification seen input written | updateEvidence seen input written =>
    obtain ⟨hne, heq, -⟩ := input.mutate_ok h.2
    exact absurd (heq.symm.trans hretired) hne
  | recordDelivery seen input written =>
    refine .inr ⟨seen, input, written, rfl, h.1, ?_⟩
    rw [(input.mutate_ok h.2).2]
    exact (input.delivered_spec lane).2.1
  | retire seen observed input written =>
    obtain ⟨hsession, rfl, hmutate⟩ := h
    exact .inl ⟨seen, input, written, rfl, hsession, (input.mutate_ok hmutate).2.1⟩
  | claim seen claimed generation_id executor_id expected_revision written =>
    obtain ⟨hne, heq, -⟩ := claimMutate_ok h.2
    exact absurd (heq.symm.trans hretired) hne
  | updateWorkflow seen input written => exact absurd hretired (input.mutate_ok h.2).2.1
  | mint | registerRuntime minted registration written | registerLane minted input later written => exact h.elim
  | remove sessions written | prune candidates written | sync monitors now available_sessions => exact h.elim

/-! ## Lanes through a call -/

theorem Registry.WellFormed.insert (h : registry.WellFormed) {registration : RegisteredTmuxSession}
    (hnew : registration.registration_source = .ConfigMonitor → registration.lane = none) :
    WellFormed (insert registry session registration) where
  nodup := nodup_insert h.nodup _ _
  durable := by
    intro name existing hget
    rw [get_insert] at hget
    split_ifs at hget with hname
    · rwa [← some.inj hget]
    · exact h.durable name existing hget

theorem normalizeRuntimeRegistrationSource_ne (source : RegistrationSource) :
    normalizeRuntimeRegistrationSource source ≠ .ConfigMonitor := by
  cases source <;> decide

/-- A lane is registered for a session without a lane, or with a retired one. -/
theorem LaneRegistrationInput.free_of_answer (input : LaneRegistrationInput)
    (h : input.answer generation registry = none) : registry.Free input.registration.session := by
  intro lane hlane
  obtain ⟨existing, hget, hlane⟩ := lane_eq_some.mp hlane
  unfold answer at h
  split_ifs at h
  rw [hget] at h
  simp only [hlane] at h
  split_ifs at h with hrepeats hretired
  simpa using hretired

/-- What is stored over a well-formed registry is well formed. -/
theorem Writes.wellFormed {next : Registry} (h : Writes registry generation call next)
    (hformed : registry.WellFormed) : next.WellFormed := by
  have taken {κ : Type} (session : κ → String) (removable : κ → RegisteredTmuxSession → Bool)
      (keys : List κ) : (registry.takeOut session removable keys).1.WellFormed := by
    refine ⟨nodup_takeOut keys hformed.nodup, fun name registration hget => ?_⟩
    rcases registry.get_takeOut session removable keys name with
      hsame | ⟨_, _, _, hnone, _⟩
    · exact hformed.durable name registration (hsame ▸ hget)
    · rw [hnone] at hget
      cases hget
  cases h with
  | registerRuntime minted new hfree => exact hformed.insert fun _ => rfl
  | registerLane minted input later hanswer =>
    exact hformed.insert fun hsource => absurd hsource (normalizeRuntimeRegistrationSource_ne _)
  | remove sessions | prune candidates => exact taken _ _ _
  | mutate hget hlane hmutates =>
    refine hformed.insert fun hsource => ?_
    have hnone := hformed.durable _ _ hget hsource
    rw [hlane] at hnone
    cases hnone

section

variable (h : Outcome codec store generation call result)
include h

section

variable (hformed : store.registry.WellFormed)
include hformed

/-- A call leaves the registry well formed. -/
theorem Outcome.wellFormed : result.2.registry.WellFormed := by
  cases h with
  | same answer => exact hformed
  | writes hwrites herr => exact hwrites.wellFormed hformed
  | sync hcall =>
    refine ⟨nodup_foldl_mergeConfig _ (nodup_filter hformed.nodup _), ?_⟩
    intro name registration hget hsource
    rcases get_mergeActiveConfigRegistrations hformed (activeConfig_fromConfig _ _ _ _) name with
      hsame | ⟨_, _, _, _, hnone⟩ | ⟨new, hnew, hfrom, -⟩
    · exact hformed.durable name registration (hsame ▸ hget) hsource
    · cases hnone.symm.trans hget
    · cases hnew.symm.trans hget
      exact hfrom.lane

/-- Where a registration comes from: it was there, it is registered, its lane is mutated, or it is configured. -/
theorem Outcome.get_cases (hget : get result.2.registry session = some registration) :
    get store.registry session = some registration ∨
      (∃ minted new, call = .registerRuntime minted new (.ok ()) ∧ session = new.session ∧
        store.registry.Free new.session ∧ registration = new.decoded.registered generation) ∨
      (∃ minted input later, call = .registerLane minted input later (.ok ()) ∧
        session = input.registration.session ∧ input.answer generation store.registry = none ∧
        registration = { input.public generation with lane := some input.lane }) ∨
      (∃ existing before mutated, get store.registry session = some existing ∧
        existing.lane = some before ∧ call.Mutates session before mutated ∧
        registration = { existing with lane := some { mutated with revision := mutated.revision + 1 } }) ∨
      registration.FromConfig := by
  have inserted {name : String} {new : RegisteredTmuxSession}
      (hget : get (insert store.registry name new) session = some registration) :
      get store.registry session = some registration ∨ session = name ∧ registration = new := by
    rw [get_insert] at hget
    split_ifs at hget with hname
    · exact .inr ⟨hname, (some.inj hget).symm⟩
    · exact .inl hget
  have taken {κ : Type} {name : κ → String} {removable : κ → RegisteredTmuxSession → Bool}
      {keys : List κ} (hget : get (store.registry.takeOut name removable keys).1 session =
        some registration) : get store.registry session = some registration := by
    rcases store.registry.get_takeOut name removable keys session with hsame | ⟨_, _, _, hnone, _⟩
    · exact hsame ▸ hget
    · cases hnone.symm.trans hget
  cases h with
  | same answer => exact .inl hget
  | writes hwrites herr =>
    cases hwrites with
    | registerRuntime minted new hfree =>
      exact (inserted hget).imp_right fun ⟨hname, hnew⟩ => .inl ⟨minted, new, rfl, hname, hfree, hnew⟩
    | registerLane minted input later hanswer =>
      exact (inserted hget).imp_right fun ⟨hname, hnew⟩ => .inr (.inl ⟨minted, input, later, rfl, hname, hanswer, hnew⟩)
    | remove sessions | prune candidates => exact .inl (taken hget)
    | mutate hbefore hlane hmutates =>
      rcases inserted hget with hold | ⟨rfl, hnew⟩
      · exact .inl hold
      · exact .inr (.inr (.inr (.inl ⟨_, _, _, hbefore, hlane, hmutates, hnew⟩)))
  | sync hcall =>
    rcases get_mergeActiveConfigRegistrations hformed (activeConfig_fromConfig _ _ _ _) session with
      hsame | ⟨_, _, _, _, hnone⟩ | ⟨new, hnew, hfrom, -⟩
    · exact .inl (hsame ▸ hget)
    · cases hnone.symm.trans hget
    · cases hnew.symm.trans hget
      exact .inr (.inr (.inr (.inr hfrom)))

/-- Where a lane comes from: it was there, it is registered, or it is mutated. -/
theorem Outcome.lane_cases (hlane : result.2.registry.lane session = some lane) :
    store.registry.lane session = some lane ∨ (∃ minted input later, call = .registerLane minted input later (.ok ()) ∧
        session = input.registration.session ∧ input.answer generation store.registry = none ∧ lane = input.lane) ∨
      ∃ before mutated, store.registry.lane session = some before ∧ call.Mutates session before mutated ∧
        lane = { mutated with revision := mutated.revision + 1 } := by
  obtain ⟨registration, hget, hof⟩ := lane_eq_some.mp hlane
  rcases h.get_cases hformed hget with hold | ⟨_, _, -, -, -, rfl⟩ |
    ⟨minted, input, later, hcall, hname, hanswer, rfl⟩ | ⟨_, _, _, hbefore, hlane₀, hmutates, rfl⟩ | hfrom
  · exact .inl (lane_eq_some.mpr ⟨registration, hold, hof⟩)
  · cases hof
  · exact .inr (.inl ⟨minted, input, later, hcall, hname, hanswer, (some.inj hof).symm⟩)
  · exact .inr (.inr ⟨_, _, lane_eq_some.mpr ⟨_, hbefore, hlane₀⟩, hmutates, (some.inj hof).symm⟩)
  · cases hfrom.lane.symm.trans hof

/-- A lane that is not retired stays in its registration. -/
theorem Outcome.keeps {registration : RegisteredTmuxSession} (hget : get store.registry session = some registration)
    (hlane : registration.lane = some lane) (hactive : lane.workflow ≠ .Retired) :
    ∃ lane', get result.2.registry session =
        some { registration with lane := some lane' } ∧ lane.SameIdentity lane' := by
  have hself : ({ registration with lane := some lane } : RegisteredTmuxSession) = registration := by rw [← hlane]
  have same (h : get result.2.registry session = get store.registry session) : ∃ lane', get result.2.registry session =
        some { registration with lane := some lane' } ∧ lane.SameIdentity lane' :=
    ⟨lane, by rw [h, hget, hself], ⟨rfl, rfl, rfl, rfl, rfl, rfl⟩⟩
  have hof : store.registry.lane session = some lane := lane_eq_some.mpr ⟨registration, hget, hlane⟩
  have held {name : String} {new : RegisteredTmuxSession} (hname : session ≠ name) :
      get (insert store.registry name new) session = get store.registry session := get_insert_ne _ _ hname
  cases h with
  | same answer => exact same rfl
  | writes hwrites herr =>
    cases hwrites with
    | registerRuntime minted new hfree =>
      by_cases hname : session = new.session
      · exact absurd (hfree lane (hname ▸ hof)) hactive
      · exact same (held hname)
    | registerLane minted input later hanswer =>
      by_cases hname : session = input.registration.session
      · exact absurd (input.free_of_answer hanswer lane (hname ▸ hof)) hactive
      · exact same (held hname)
    | remove sessions =>
      rcases store.registry.get_takeOut id (fun _ registration => registration.removable) sessions session with
        hsame | ⟨_, _, _, _, taken, htaken, hremovable⟩
      · exact same hsame
      · cases hget.symm.trans htaken
        simp only [RegisteredTmuxSession.removable, hlane, any_some, Bool.or_eq_true,
          Bool.and_eq_true, beq_iff_eq] at hremovable
        rcases hremovable with hsource | ⟨hretired, -⟩
        · cases hlane.symm.trans (hformed.durable session registration hget hsource)
        · exact absurd hretired hactive
    | prune candidates =>
      rcases store.registry.get_takeOut AbsentRegistrationCandidate.session
        AbsentRegistrationCandidate.matches candidates session with
        hsame | ⟨_, _, _, _, taken, htaken, hremovable⟩
      · exact same hsame
      · cases hget.symm.trans htaken
        simp only [AbsentRegistrationCandidate.matches, registrationIsReconcilable, hlane,
          all_some, Bool.and_eq_true, beq_iff_eq] at hremovable
        exact absurd hremovable.2.2.1 hactive
    | mutate hbefore hlane₀ hmutates =>
      rename_i name existing before mutated
      by_cases hname : session = name
      · subst hname
        cases hget.symm.trans hbefore
        cases hlane.symm.trans hlane₀
        obtain ⟨h₁, h₂, h₃, h₄, h₅, h₆⟩ := hmutates.sameIdentity
        exact ⟨_, get_insert_self _ _ _, ⟨h₁, h₂, h₃, h₄, h₅, h₆⟩⟩
      · exact same (held hname)
  | sync hcall =>
    rcases get_mergeActiveConfigRegistrations hformed (activeConfig_fromConfig _ _ _ _) session with
      hsame | ⟨existing, hexisting, hsource, _, _⟩ | ⟨_, _, _, _, hold⟩
    · exact same hsame
    · cases hget.symm.trans hexisting
      cases hlane.symm.trans (hformed.durable session registration hget hsource)
    · exact absurd ((hold registration hget).2 lane hlane) hactive

end

end

/-! ## Deliveries that retire -/

/-- The lane of a session is retired. -/
def Registry.RetiredAt (registry : Registry) (session : String) : Prop :=
  ∃ lane, registry.lane session = some lane ∧ lane.workflow = .Retired

/-- A delivery asks for `Retired`, is not one that was recorded before, and meets a lane of its
generation and revision that has another workflow. -/
def LaneDeliveryMutation.Retires (input : LaneDeliveryMutation) (seen registry : Registry)
    (written : Except String Unit) : Prop :=
  input.workflow = some .Retired ∧ input.valid = true ∧ written = .ok () ∧
    (∃ lane, seen.lane input.session = some lane ∧ input.repeats lane = false) ∧
    ∃ lane, registry.lane input.session = some lane ∧ lane.workflow ≠ .Retired ∧
      lane.revision = input.expected_revision ∧ lane.revision ≠ U64_MAX ∧ input.Accepts lane

variable (codec) in
/-- A delivery that the lock lets pass is recorded, or changes nothing. -/
theorem Store.recordLaneDelivery_cases (store : Store α) (written : Except String Unit)
    (seen : Registry) (input : LaneDeliveryMutation) :
    (store.recordLaneDelivery codec written seen input).2 = store ∨ input.valid = true ∧
        (∃ lane, seen.lane input.session = some lane ∧ input.repeats lane = false) ∧
        store.recordLaneDelivery codec written seen input =
          store.mutateLane codec written input.session input.expected_revision input.mutate := by
  unfold recordLaneDelivery
  by_cases hvalid : input.valid = true
  · simp only [hvalid, Bool.not_true, Bool.false_eq_true, if_false]
    unfold answering
    cases seen.lane input.session with
    | none => exact .inl rfl
    | some lane =>
      by_cases hrepeats : input.repeats lane = true
      · exact .inl (by simp only [recognised, if_pos hrepeats])
      · exact .inr ⟨trivial, ⟨lane, rfl, by simpa using hrepeats⟩, by simp only [recognised, if_neg hrepeats]⟩
  · simp only [hvalid]
    exact .inl rfl

/-- A delivery that may retire a lane goes to the lock. -/
theorem Store.recordLaneDelivery_goes (store : Store α) {written : Except String Unit} {seen : Registry}
    (hvalid : input.valid = true) (hseen : seen.lane input.session = some lane)
    (hrepeats : input.repeats lane = false) : store.recordLaneDelivery codec written seen input =
      store.mutateLane codec written input.session input.expected_revision input.mutate := by
  unfold recordLaneDelivery answering
  simp only [hvalid, hseen, recognised, hrepeats, Bool.not_true, Bool.false_eq_true, if_false]

theorem Registry.lane_insert_self {registration : RegisteredTmuxSession} :
    Registry.lane (insert registry session registration) session = registration.lane := by
  unfold Registry.lane
  rw [get_insert_self]
  rfl

variable (codec) in
/-- When a delivery retires the lane of its session. -/
theorem Store.recordLaneDelivery_retires_iff (store : Store α) (written : Except String Unit)
    (seen : Registry) (input : LaneDeliveryMutation) : ¬ store.registry.RetiredAt input.session ∧
        (store.recordLaneDelivery codec written seen input).2.registry.RetiredAt input.session ↔
      input.Retires seen store.registry written := by
  constructor
  · rintro ⟨hbefore, lane', hlane', hretired⟩
    rcases store.recordLaneDelivery_cases codec written seen input with
      hsame | ⟨hvalid, hseen, hgoes⟩
    · exact absurd ⟨lane', hsame ▸ hlane', hretired⟩ hbefore
    rcases store.mutateLane_cases codec written input.session input.expected_revision
      input.mutate with ⟨e, he⟩ | ⟨registration, lane, mutated, hget, hlane, hrevision, hwritten, hmutate, hmax, hok⟩
    · rw [hgoes, he] at hlane'
      exact absurd ⟨lane', hlane', hretired⟩ hbefore
    obtain ⟨haccepts, rfl⟩ := input.mutate_ok hmutate
    obtain ⟨hworkflow, -, hsame, -⟩ := input.delivered_spec lane
    rw [hgoes, hok] at hlane'
    have hlane' : _ = some lane' := lane_insert_self.symm.trans hlane'
    rw [← some.inj hlane'] at hretired
    have hwas : store.registry.lane input.session = some lane := lane_eq_some.mpr ⟨registration, hget, hlane⟩
    have hother : lane.workflow ≠ .Retired := fun h => hbefore ⟨lane, hwas, h⟩
    have hasks : input.workflow = some .Retired := by
      have hretired : input.workflow.getD lane.workflow = .Retired := hworkflow.symm.trans hretired
      cases hinput : input.workflow with
      | none =>
        rw [hinput] at hretired
        exact absurd hretired hother
      | some workflow =>
        rw [hinput] at hretired
        exact congrArg some hretired
    exact ⟨hasks, hvalid, hwritten, hseen, lane, hwas, hother, hrevision, hsame ▸ hmax, haccepts⟩
  · rintro ⟨hasks, hvalid, hwritten, ⟨shown, hseen, hrepeats⟩, lane, hwas, hother, hrevision, hmax, haccepts⟩
    obtain ⟨registration, hget, hlane⟩ := lane_eq_some.mp hwas
    obtain ⟨hworkflow, -, hsame, -⟩ := input.delivered_spec lane
    refine ⟨fun ⟨before, hbefore, hretired⟩ => ?_, ?_⟩
    · cases hwas.symm.trans hbefore
      exact hother hretired
    rw [store.recordLaneDelivery_goes hvalid hseen hrepeats]
    have hmutate : input.mutate lane = .ok (input.delivered lane) := by
      rcases input.mutate_cases lane with ⟨-, hok⟩ | ⟨hrefuses, -⟩
      · exact hok
      · exact absurd haccepts hrefuses
    have hgoes : store.mutateLane codec written input.session input.expected_revision input.mutate =
        (.ok (laneSnapshot input.session
            { input.delivered lane with revision := (input.delivered lane).revision + 1 } none),
          .holding codec (OrdMap.insert store.registry input.session { registration with
            lane := some { input.delivered lane with
              revision := (input.delivered lane).revision + 1 } })) := by
      unfold mutateLane
      simp only [hget, hlane, hrevision, hmutate, ne_eq, not_true_eq_false, if_false]
      rw [hsame, if_neg hmax, store.swap_ok hwritten]
    rw [hgoes]
    refine ⟨_, lane_insert_self, ?_⟩
    exact hworkflow.trans (by rw [hasks]; rfl)

/-! ## Runs -/

/-- The call is a delivery that retires a lane. -/
def Daemon.RetiresByDelivery (daemon : Daemon α) : Call → Prop
  | .recordDelivery seen input written => input.Retires seen daemon.store.registry written
  | _ => False

variable (codec) in
/-- The lane of a session was retired in the run by a call of `retire_lane_if_absent` that had observed
the session to be absent, and it has been retired ever since. -/
def RetiredByAbsence (start : Daemon α) (calls : List Call) (session : String) : Prop :=
  ∃ pre seen input written post,
    calls = pre ++ .retire seen (.ok false) input written :: post ∧ input.session = session ∧
      ¬ ((daemonMachine codec).run start pre).store.registry.RetiredAt session ∧
      ∀ mid rest, post = mid ++ rest → ((daemonMachine codec).run start
          (pre ++ .retire seen (.ok false) input written :: mid)).store.registry.RetiredAt session

variable (codec) in
/-- After the run, retired lanes are quiesced and were retired by absence, and no further call takes any
other lane out of its registration. -/
structure OnlyByAbsence (start : Daemon α) (calls : List Call) : Prop where
  retired : ∀ session lane, ((daemonMachine codec).run start calls).store.registry.lane session = some lane →
      lane.workflow = .Retired → lane.quiesced = true ∧ RetiredByAbsence codec start calls session
  kept : ∀ call session registration lane,
    OrdMap.get ((daemonMachine codec).run start calls).store.registry session = some registration →
      registration.lane = some lane →
      (∃ lane', OrdMap.get ((daemonMachine codec).run start (calls ++ [call])).store.registry session =
        some { registration with lane := some lane' } ∧ lane.SameIdentity lane') ∨
      lane.quiesced = true ∧ RetiredByAbsence codec start calls session

/-- A lane that was retired by absence and is still retired was retired by absence. -/
theorem RetiredByAbsence.concat (h : RetiredByAbsence codec start calls session)
    (hretired : ((daemonMachine codec).run start (calls ++ [call])).store.registry.RetiredAt session) :
    RetiredByAbsence codec start (calls ++ [call]) session := by
  obtain ⟨pre, seen, input, written, post, rfl, hsession, hbefore, hsince⟩ := h
  refine ⟨pre, seen, input, written, post ++ [call], by simp, hsession, hbefore, ?_⟩
  intro mid rest hsplit
  rcases eq_nil_or_concat rest with rfl | ⟨rest, last, rfl⟩
  · rw [append_nil] at hsplit
    rw [← hsplit]
    simpa using hretired
  · rw [concat_eq_append, ← append_assoc] at hsplit
    exact hsince mid rest (append_inj' hsplit rfl).1

/-- A run after which retired lanes are quiesced and retired by absence, and the registry is well
formed. -/
structure Retiring (codec : RegistryCodec α) (start : Daemon α) (calls : List Call) : Prop where
  formed : ((daemonMachine codec).run start calls).store.registry.WellFormed
  retired : ∀ session lane, ((daemonMachine codec).run start calls).store.registry.lane session = some lane →
      lane.workflow = .Retired → lane.quiesced = true ∧ RetiredByAbsence codec start calls session

/-- A call that does not retire by delivery leaves retired lanes quiesced and retired by absence. -/
theorem Retiring.concat (h : Retiring codec start calls)
    (hcall : ¬ ((daemonMachine codec).run start calls).RetiresByDelivery call) :
    Retiring codec start (calls ++ [call]) := by
  obtain ⟨generation, houtcome⟩ := ((daemonMachine codec).run start calls).step_outcome codec call
  have hrun := (daemonMachine codec).run_concat start calls call
  refine ⟨by rw [hrun]; exact houtcome.wellFormed h.formed, fun session lane hlane hretired => ?_⟩
  have hafter : ((daemonMachine codec).run start (calls ++ [call])).store.registry.RetiredAt session :=
    ⟨lane, hlane, hretired⟩
  rw [hrun] at hlane
  rcases houtcome.lane_cases h.formed hlane with
    hsame | ⟨_, input, _, _, _, _, rfl⟩ | ⟨before, mutated, hbefore, hmutates, rfl⟩
  · obtain ⟨hquiesced, habsence⟩ := h.retired session lane hsame hretired
    exact ⟨hquiesced, habsence.concat hafter⟩
  · cases hretired
  by_cases hwas : before.workflow = .Retired
  · obtain ⟨hquiesced, habsence⟩ := h.retired session before hbefore hwas
    refine ⟨?_, habsence.concat hafter⟩
    rcases hmutates.retired_cases hretired with ⟨_, _, _, _, _, hdone⟩ | ⟨_, _, _, _, _, hsame⟩
    · exact hdone
    · exact hsame.trans hquiesced
  have hother : ¬ ((daemonMachine codec).run start calls).store.registry.RetiredAt session := by
    rintro ⟨lane, hlane, hretired⟩
    cases hbefore.symm.trans hlane
    exact hwas hretired
  rcases hmutates.retired_cases hretired with ⟨seen, input, written, rfl, rfl, hquiesced⟩ |
    ⟨seen, input, written, rfl, rfl, -⟩
  · refine ⟨hquiesced, calls, seen, input, written, [], rfl, rfl, hother, ?_⟩
    intro mid rest hsplit
    obtain ⟨rfl, -⟩ := append_eq_nil_iff.mp hsplit.symm
    exact hafter
  · refine absurd ?_ hcall
    rw [hrun] at hafter
    exact (Store.recordLaneDelivery_retires_iff codec _ written seen input).mp ⟨hother, hafter⟩

/-- A lane is retired only by absence, whatever the next call, if retired lanes are. -/
theorem Retiring.onlyByAbsence (h : Retiring codec start calls) : OnlyByAbsence codec start calls where
  retired := h.retired
  kept := by
    intro call session registration lane hget hlane
    by_cases hretired : lane.workflow = .Retired
    · exact .inr (h.retired session lane (lane_eq_some.mpr ⟨registration, hget, hlane⟩) hretired)
    · obtain ⟨generation, houtcome⟩ := ((daemonMachine codec).run start calls).step_outcome codec call
      rw [run_concat]
      exact .inl (houtcome.keeps h.formed hget hlane hretired)

/-- Lanes are retired by absence all along a run exactly if no delivery of the run retires a lane. -/
theorem retired_by_absence_iff {start : Daemon α} (hformed : start.store.registry.WellFormed)
    (hstart : ∀ session, ¬ start.store.registry.RetiredAt session) (calls : List Call) :
    (∀ pre post, calls = pre ++ post → OnlyByAbsence codec start pre) ↔
      (daemonMachine codec).Along (fun daemon call => ¬ daemon.RetiresByDelivery call) start calls := by
  constructor
  · intro h
    rw [along_iff]
    rintro pre call post rfl hcall
    cases call with
    | recordDelivery seen input written =>
      obtain ⟨hbefore, hafter⟩ := (Store.recordLaneDelivery_retires_iff codec _ written seen input).mpr hcall
      obtain ⟨lane, hlane, hretired⟩ := hafter
      have hrun : ((daemonMachine codec).run start
          (pre ++ [.recordDelivery seen input written])).store.registry.lane input.session = some lane := by
        rw [run_concat]
        exact hlane
      obtain ⟨-, pre', seen', input', written', post', hsplit, hsession, -, hsince⟩ :=
        (h (pre ++ [.recordDelivery seen input written]) post (by simp)).retired _ _ hrun hretired
      -- The retirement is before the delivery, and the lane was not retired in between.
      rcases eq_nil_or_concat post' with rfl | ⟨mid, last, rfl⟩
      · have hlast := (append_inj' hsplit rfl).2
        cases hlast
      · have hconcat : pre ++ [Call.recordDelivery seen input written] =
            (pre' ++ .retire seen' (.ok false) input' written' :: mid) ++ [last] := by
          rw [hsplit, concat_eq_append, append_assoc, cons_append]
        have hpre : pre = pre' ++ .retire seen' (.ok false) input' written' :: mid :=
          (append_inj' hconcat rfl).1
        have hstill := hsince mid [last] (concat_eq_append ..)
        rw [← hpre] at hstill
        exact hbefore hstill
    | _ => exact hcall
  · intro halong pre post hsplit
    have hretiring : Retiring codec start pre := by
      rw [hsplit, along_append] at halong
      obtain ⟨hpre, -⟩ := halong
      clear hsplit
      induction pre using List.reverseRecOn with
      | nil =>
        exact ⟨hformed, fun session lane hlane hretired => absurd ⟨lane, hlane, hretired⟩ (hstart session)⟩
      | append_singleton pre call ih =>
        obtain ⟨hbefore, hcall⟩ := (along_concat ..).mp hpre
        exact (ih hbefore).concat hcall
    exact hretiring.onlyByAbsence

namespace Sample

def registration : RegisteredTmuxSession where
  session := "issue-7"
  registered_at := "2026-04-02T00:00:00Z"

def laneInput : LaneRegistrationInput where
  registration := registration
  generation_id := "gen-1"
  kickoff_operation_id := "kickoff-1"
  launch_operation_id := "launch-1"
  executor_id := "executor-1"
  worker_effect_kind := .CommandSubmission
  expect_absent_or_retired := true

def lanes : Registry := [("issue-7", { laneInput.public 1 with lane := some laneInput.lane })]

def handoff (workflow : LaneWorkflow) : LaneDeliveryMutation where
  session := "issue-7"
  expected_revision := 0
  workflow := some workflow
  message_id := some "1200"
  kind := some "handoff"
  delivered_at := some "2026-04-02T00:10:00Z"
  visibility := .Visible
  disposition := some "accepted"
  generation_id := "gen-1"

/-- A daemon in which a lane is registered. -/
def withLane : Daemon (OrdMap String StoredRegistryValue) where
  next_generation := 2
  store := .holding plainCodec lanes

theorem withLane_wellFormed : withLane.store.registry.WellFormed where
  nodup := by decide
  durable := by
    intro session registration hget hsource
    rcases mem_singleton.mp (mem_of_get hget) with heq
    cases heq
    cases hsource

theorem withLane_unretired (session : String) : ¬ withLane.store.registry.RetiredAt session := by
  rintro ⟨lane, hlane, hretired⟩
  obtain ⟨registration, hget, hlane⟩ := lane_eq_some.mp hlane
  cases mem_singleton.mp (mem_of_get hget)
  cases hlane
  cases hretired

/-- A handoff leaves the lane to be retired by absence. -/
theorem handoff_then_retirement : OnlyByAbsence plainCodec withLane
    [.recordDelivery lanes (handoff .AwaitingHuman) (.ok ()),
      .retire lanes (.ok false) { session := "issue-7", generation_id := "gen-1", expected_revision := 1 }
        (.ok ())] := by
  refine (retired_by_absence_iff withLane_wellFormed withLane_unretired _).mpr ?_ _ [] rfl
  refine ⟨?_, id, trivial⟩
  rintro ⟨hasks, -⟩
  cases hasks

/-- A delivery that says so retires a lane whose session nobody has looked at. -/
theorem delivery_retires : ¬ OnlyByAbsence plainCodec withLane
    [.recordDelivery lanes (handoff .Retired) (.ok ())] := by
  intro h
  have hlane : ((daemonMachine plainCodec).run withLane
      [.recordDelivery lanes (handoff .Retired) (.ok ())]).store.registry.lane "issue-7" =
      some { (handoff .Retired).delivered laneInput.lane with revision := 1 } := by
    decide +kernel
  have hquiesced := (h.retired "issue-7" _ hlane rfl).1
  cases hquiesced

end Sample

end Clawhip.Tmux
