import Clawhip.Gjc.Observation
import Clawhip.Lib.Trail

/-!
# Episodes of an endpoint

A lane's record says whether the present outage of its endpoint was alerted, and counts the outages in
`endpoint_episode`. This module reads back what every operation of the lane store does to these
fields. Delivering and acknowledging alerts keeps them; an outage opens an episode and stages its
alert, once; an observation closes the episode.
-/

namespace Clawhip.Gjc

open LaneRecord

/-! ## What is kept -/

/-- The same lane, at the same revision; its count of episodes stays a `u64`. -/
structure LaneRecord.SameLane (record record' : LaneRecord) : Prop where
  lane_id : record'.lane_id = record.lane_id
  session : record'.sdk_session_id = record.sdk_session_id
  revision : record'.revision = record.revision
  bounded : record.endpoint_episode ≤ U64_MAX → record'.endpoint_episode ≤ U64_MAX

/-- The endpoint is in order, as far as the record says. -/
structure LaneRecord.Quiet (record : LaneRecord) : Prop where
  alerted : record.endpoint_alerted = false
  polls : record.consecutive_unavailable_polls = 0
  suspended : record.polling_suspended = false
  phase : record.phase ≠ some .unavailable

/-- The episode goes on as it was. -/
structure LaneRecord.KeepsEpisode (record record' : LaneRecord) : Prop where
  alerted : record'.endpoint_alerted = record.endpoint_alerted
  episode : record'.endpoint_episode = record.endpoint_episode
  quiet : record.Quiet → record'.Quiet

namespace LaneRecord

variable (record : LaneRecord)

theorem SameLane.refl : record.SameLane record := ⟨rfl, rfl, rfl, id⟩

theorem KeepsEpisode.refl : record.KeepsEpisode record := ⟨rfl, rfl, id⟩

theorem KeepsEpisode.trans {a b c : LaneRecord} (hab : a.KeepsEpisode b) (hbc : b.KeepsEpisode c) : a.KeepsEpisode c :=
  ⟨hbc.alerted.trans hab.alerted, hbc.episode.trans hab.episode, hbc.quiet ∘ hab.quiet⟩

/-- A record whose fields about the endpoint are the same keeps its episode. -/
theorem KeepsEpisode.of_eq {record record' : LaneRecord} (alerted : record'.endpoint_alerted = record.endpoint_alerted)
    (episode : record'.endpoint_episode = record.endpoint_episode)
    (polls : record'.consecutive_unavailable_polls = record.consecutive_unavailable_polls)
    (suspended : record'.polling_suspended = record.polling_suspended)
    (phase : record'.phase = record.phase) : record.KeepsEpisode record' := by
  refine ⟨alerted, episode, fun hquiet => ⟨?_, ?_, ?_, ?_⟩⟩
  · exact alerted.trans hquiet.alerted
  · exact polls.trans hquiet.polls
  · exact suspended.trans hquiet.suspended
  · rw [phase]
    exact hquiet.phase

end LaneRecord

/-- The records that a closure makes are for the same lane. -/
def Closure.Stays {β : Type} (apply : Closure β) : Prop :=
  ∀ {record record' audit answer}, apply record = .ok (record', audit, answer) → record.SameLane record'

/-- The records that a closure makes are for the same lane and keep the episode. -/
def Closure.Bookkeeps {β : Type} (apply : Closure β) : Prop :=
  ∀ {record record' audit answer}, apply record = .ok (record', audit, answer) →
    record.SameLane record' ∧ record.KeepsEpisode record'

theorem Closure.Bookkeeps.stays {β : Type} {apply : Closure β} (h : apply.Bookkeeps) :
    apply.Stays := fun happly => (h happly).1

/-! ## Bookkeeping -/

theorem notePendingAlertAttempt_bookkeeps (event_id : String) : (notePendingAlertAttempt event_id).Bookkeeps := by
  intro record record' audit answer h
  unfold notePendingAlertAttempt multiAudit at h
  split_ifs at h
  cases h
  exact ⟨⟨rfl, rfl, rfl, id⟩, .of_eq rfl rfl rfl rfl rfl⟩

theorem suppressHistoricalFailureAlert_bookkeeps (alert : PendingAlert) (current : Observation) :
    (suppressHistoricalFailureAlert alert current).Bookkeeps := by
  intro record record' audit answer h
  unfold suppressHistoricalFailureAlert multiAudit at h
  dsimp only at h
  split_ifs at h
  all_goals
    cases h
    exact ⟨⟨rfl, rfl, rfl, id⟩, .of_eq rfl rfl rfl rfl rfl⟩

theorem reconcilePrBinding_bookkeeps (resolved : Option PrState) (now : String) :
    (reconcilePrBinding resolved now).Bookkeeps := by
  intro record record' audit answer h
  unfold reconcilePrBinding at h
  dsimp only at h
  split at h
  · cases h
  · split at h
    all_goals
      split_ifs at h
      all_goals
        cases h
        exact ⟨⟨rfl, rfl, rfl, id⟩, .of_eq rfl rfl rfl rfl rfl⟩

theorem TerminalKind.phase_ne_unavailable (kind : TerminalKind) : kind.phase ≠ .unavailable := by
  cases kind
  all_goals decide

/-- A watch that is removed leaves a terminal phase behind. -/
theorem removeGhostWatch_bookkeeps (reason now : String) : (removeGhostWatch reason now).Bookkeeps := by
  intro record record' audit answer h
  unfold removeGhostWatch multiAudit at h
  cases hterminal : record.terminal_disposition with
  | none =>
    rw [hterminal] at h
    split_ifs at h
  | some disposition =>
    rw [hterminal] at h
    split_ifs at h
    cases h
    refine ⟨⟨rfl, rfl, rfl, id⟩, ⟨rfl, rfl, fun hquiet => ?_⟩⟩
    refine ⟨hquiet.alerted, hquiet.polls, hquiet.suspended, fun hphase => ?_⟩
    exact disposition.kind.phase_ne_unavailable (Option.some.inj hphase)

variable {audit : List (AuditKind × String)} {now : String} {record record' : LaneRecord} {x : Libraries}
  {observation : Observation} {answer : Unit}

/-- A session that is gone leaves the flag and the count as they are. -/
theorem markRuntimeGone_spec {evidence : String}
    (h : markRuntimeGone evidence now record = .ok (record', audit, answer)) :
    record.SameLane record' ∧ record'.endpoint_alerted = record.endpoint_alerted ∧
      record'.endpoint_episode = record.endpoint_episode := by
  unfold markRuntimeGone multiAudit at h
  split_ifs at h
  cases h
  exact ⟨⟨rfl, rfl, rfl, id⟩, rfl, rfl⟩

/-! ## Rotations -/

/-- A rotation leaves a cleared flag cleared, and clears it when the endpoint is another one. -/
theorem noteEndpointRotation_spec {endpoint_generation : ℕ}
    (h : noteEndpointRotation endpoint_generation record = .ok (record', audit, answer)) :
    record.SameLane record' ∧ (record.endpoint_alerted = false ∨ endpoint_generation ≠ record.endpoint_generation →
        record'.endpoint_alerted = false) ∧
      (record.endpoint_episode ≤ U64_MAX → record.endpoint_episode ≤ record'.endpoint_episode) := by
  unfold noteEndpointRotation multiAudit at h
  split_ifs at h with hsame
  · cases h
    refine ⟨.refl _, ?_, fun _ => le_rfl⟩
    rintro (hcleared | hother)
    · exact hcleared
    · exact absurd hsame hother
  · cases h
    refine ⟨⟨rfl, rfl, rfl, fun _ => min_le_right _ _⟩, fun _ => rfl, fun hle => ?_⟩
    exact le_min (Nat.le_succ _) hle

/-- A rotation is never refused. -/
theorem noteEndpointRotation_isOk (endpoint_generation : ℕ) (record : LaneRecord) :
    ∃ record' audit, noteEndpointRotation endpoint_generation record = .ok (record', audit, ()) := by
  unfold noteEndpointRotation multiAudit
  split_ifs
  all_goals exact ⟨_, _, rfl⟩

/-! ## Staging -/

/-- The records differ in their alerts at most. -/
def LaneRecord.OnlyAlerts (record record' : LaneRecord) : Prop :=
  record' = { record with pending_alerts := record'.pending_alerts }

theorem LaneRecord.OnlyAlerts.trans {a b c : LaneRecord} (hab : a.OnlyAlerts b)
    (hbc : b.OnlyAlerts c) : a.OnlyAlerts c := by
  unfold OnlyAlerts at hab hbc ⊢
  rw [hbc, hab]

theorem LaneRecord.queue_ok {alert : PendingAlert} (h : record.queue alert = .ok record') :
    record.OnlyAlerts record' := by
  unfold LaneRecord.queue at h
  split_ifs at h
  all_goals
    cases h
    rfl

/-- Staging alerts changes nothing else. -/
theorem LaneRecord.stage_ok {events : List IncomingEvent} (h : record.stage events now = .ok record') :
    record.OnlyAlerts record' := by
  unfold stage at h
  induction events generalizing record with
  | nil =>
    cases h
    rfl
  | cons event events ih =>
    rw [List.foldlM_cons] at h
    obtain ⟨queued, hqueued, h⟩ := bind_eq_ok.mp h
    obtain ⟨alert, -, hqueue⟩ := bind_eq_ok.mp hqueued
    exact (queue_ok hqueue).trans (ih h)

/-! ## Outages -/

/-- The context of the snapshot of an outage. -/
def LaneRecord.outageContext (x : Libraries) (record : LaneRecord) (reason now : String) :
    SnapshotContext :=
  SnapshotContext.new x (sanitize record.sdk_session_id) (record.failedEndpoint reason now) now

/-- The event of an outage; a fresh bridge counts the episode up once more. -/
def LaneRecord.outageEvent (x : Libraries) (record : LaneRecord) (reason now : String) :
    IncomingEvent :=
  (record.outageContext x reason now).endpointFailedEvent x ⟨.failed, some reason⟩
    (max (min (record.endpoint_episode + 1) U64_MAX) 1)

theorem observe_failedEndpoint (x : Libraries) (reason now : String) (hid : validId record.sdk_session_id = true) :
    (({} : GjcEventBridge).observe x (record.failedEndpoint reason now) now).2 =
      .ok { events := [record.outageEvent x reason now] } := by
  have hcheck : (record.failedEndpoint reason now).check = .ok () := by
    unfold Snapshot.check failedEndpoint Snapshot.bare
    simp [hid]
  have hepisode : max 0 record.endpoint_episode = record.endpoint_episode := Nat.zero_max _
  unfold outageEvent
  rw [← hepisode]
  unfold GjcEventBridge.observe
  simp only [hcheck]
  rfl

theorem bridgeAlerts_failedEndpoint (x : Libraries) (reason now : String) (hid : validId record.sdk_session_id = true) :
    bridgeAlerts x none (record.failedEndpoint reason now) now = .ok [record.outageEvent x reason now] := by
  refine bind_eq_ok.mpr ⟨{}, rfl, bind_eq_ok.mpr ⟨{ events := [record.outageEvent x reason now] }, ?_, rfl⟩⟩
  rw [observe_failedEndpoint x reason now hid]
  rfl

/-- Every event carries its identifier. -/
theorem baseObject_eventId (x : Libraries) (context : SnapshotContext) (kind status : String)
    (parts : List String) : OrdMap.get (context.baseObject x kind status parts) "event_id" =
      some (.string (context.eventId x kind parts)) := by
  unfold SnapshotContext.baseObject SnapshotContext.baseFields
  rw [get_insertFields]
  simp [text, textIfAny, textIfSome, count]

/-- The identity of an event about an endpoint. -/
def SnapshotContext.endpointEventId (x : Libraries) (context : SnapshotContext)
    (endpoint : Endpoint) (endpoint_episode : ℕ) : String :=
  context.eventId x "session.endpoint-failed" [endpoint.health.asStr, "episode-" ++
    toString (max (max endpoint_episode context.snapshot.endpoint_episode) 1)]

theorem endpointFailedEvent_id (x : Libraries) (context : SnapshotContext)
    (endpoint : Endpoint) (endpoint_episode : ℕ) :
    textOf (context.endpointFailedEvent x endpoint endpoint_episode).payload "event_id" =
      some (context.endpointEventId x endpoint endpoint_episode) := by
  show (OrdMap.get (insertFields _ _) "event_id").bind Json.asStr = _
  rw [get_insertFields_of_ne _ (by simp [text])]
  rw [baseObject_eventId]
  rfl
/-- The identity of the alert that the next outage stages. -/
def LaneRecord.nextOutageId (x : Libraries) (record : LaneRecord) (reason now : String) : String :=
  let record := { record with endpoint_episode := record.endpoint_episode + 1 }
  (record.outageContext x reason now).endpointEventId x ⟨.failed, some reason⟩
    (max (min (record.endpoint_episode + 1) U64_MAX) 1)

/-- There is room for the alert of an outage, and the counters can go on. -/
structure LaneRecord.HasRoom (x : Libraries) (record : LaneRecord) (reason now : String) : Prop where
  room : record.pending_alerts.length < MAX_PENDING_ALERTS
  fresh : ∀ alert ∈ record.pending_alerts, alert.event_id ≠ record.nextOutageId x reason now
  episode : record.endpoint_episode < U64_MAX
  revision : record.revision < U64_MAX

/-- An outage that was alerted is not alerted again. -/
theorem alertOutage_alerted (x : Libraries) (reason now : String) (h : record.endpoint_alerted = true) :
    record.alertOutage x reason now = .ok record := by
  unfold alertOutage
  rw [if_pos h]

variable {reason : String}

/-- An outage changes the episode, the flag and the alerts at most. -/
theorem alertOutage_ok (h : record.alertOutage x reason now = .ok record') :
    record' = { record with
        endpoint_episode := record'.endpoint_episode
        endpoint_alerted := record'.endpoint_alerted
        pending_alerts := record'.pending_alerts } ∧
      (record.endpoint_episode ≤ U64_MAX → record'.endpoint_episode ≤ U64_MAX) := by
  unfold alertOutage at h
  split_ifs at h
  · cases h
    exact ⟨rfl, id⟩
  · obtain ⟨events, -, h⟩ := bind_eq_ok.mp h
    obtain ⟨staged, hstaged, h⟩ := bind_eq_ok.mp h
    cases h
    have hsame := stage_ok hstaged
    rw [hsame]
    exact ⟨rfl, fun _ => min_le_right _ _⟩

/-- The first outage of an episode stages one alert, if there is room for it. -/
theorem alertOutage_opens (x : Libraries) (hroom : record.HasRoom x reason now)
    (hcleared : record.endpoint_alerted = false) (hid : validId record.sdk_session_id = true) :
    ∃ alert : PendingAlert, alert.kind = "session.endpoint-failed" ∧
      record.alertOutage x reason now = .ok { record with
        endpoint_episode := record.endpoint_episode + 1
        endpoint_alerted := true
        pending_alerts := record.pending_alerts ++ [alert] } := by
  have hepisode : min (record.endpoint_episode + 1) U64_MAX = record.endpoint_episode + 1 := min_eq_left hroom.episode
  set opened := { record with endpoint_episode := record.endpoint_episode + 1 } with hopened
  set event := opened.outageEvent x reason now with hevent
  have hpending : pendingFromEvent event now =
      .ok ⟨record.nextOutageId x reason now, event.kind, event.payload, now, 0, none, []⟩ := by
    refine bind_eq_ok.mpr ⟨record.nextOutageId x reason now, ?_, bind_eq_ok.mpr ⟨none, rfl, rfl⟩⟩
    have hevent_id : textOf event.payload "event_id" = some (record.nextOutageId x reason now) :=
      endpointFailedEvent_id x _ _ _
    rw [hevent_id]
    rfl
  set alert : PendingAlert :=
    ⟨record.nextOutageId x reason now, event.kind, event.payload, now, 0, none, []⟩ with halert
  have hqueue : opened.queue alert = .ok { opened with pending_alerts := record.pending_alerts ++ [alert] } := by
    have hfresh : (opened.pending_alerts.any fun existing => decide (existing.event_id = alert.event_id)) = false := by
      rw [List.any_eq_false]
      intro existing hmem
      simpa using hroom.fresh existing hmem
    have hlength : ¬ MAX_PENDING_ALERTS ≤ opened.pending_alerts.length := not_le.mpr hroom.room
    unfold LaneRecord.queue
    rw [hfresh, if_neg Bool.false_ne_true, if_neg hlength]
  refine ⟨alert, rfl, ?_⟩
  unfold alertOutage
  rw [if_neg (by rw [hcleared]; exact Bool.false_ne_true), hepisode]
  refine bind_eq_ok.mpr ⟨[event], bridgeAlerts_failedEndpoint x reason now hid, ?_⟩
  refine bind_eq_ok.mpr ⟨{ opened with pending_alerts := record.pending_alerts ++ [alert] }, ?_, rfl⟩
  unfold stage
  rw [List.foldlM_cons]
  refine bind_eq_ok.mpr ⟨_, bind_eq_ok.mpr ⟨alert, hpending, hqueue⟩, rfl⟩

/-- What a closure that notes an outage does to the episode. -/
structure Closure.Alarms {β : Type} (x : Libraries) (reason now : String) (apply : Closure β) :
    Prop where
  stays : apply.Stays
  continues : ∀ {record record' audit answer}, apply record = .ok (record', audit, answer) →
    record.endpoint_alerted = true → record'.endpoint_alerted = true ∧
      record'.endpoint_episode = record.endpoint_episode ∧ record'.pending_alerts = record.pending_alerts
  opens : ∀ {record : LaneRecord}, record.endpoint_alerted = false →
    validId record.sdk_session_id = true → record.HasRoom x reason now →
    ∃ record' audit answer alert, apply record = .ok (record', audit, answer) ∧
      record'.endpoint_alerted = true ∧ record'.endpoint_episode = record.endpoint_episode + 1 ∧
      record'.pending_alerts = record.pending_alerts ++ [alert] ∧
      alert.kind = "session.endpoint-failed" ∧ record'.revision = record.revision

theorem enqueueEndpointFailure_alarms (x : Libraries) (reason now : String) :
    (enqueueEndpointFailure x reason now).Alarms x reason now := by
  refine ⟨?_, ?_, ?_⟩
  · intro record record' audit answer h
    obtain ⟨applied, happlied, h⟩ := bind_eq_ok.mp h
    cases h
    obtain ⟨heq, hbounded⟩ := alertOutage_ok happlied
    exact ⟨by rw [heq], by rw [heq], by rw [heq], hbounded⟩
  · intro record record' audit answer h halerted
    obtain ⟨applied, happlied, h⟩ := bind_eq_ok.mp h
    rw [alertOutage_alerted x reason now halerted] at happlied
    cases happlied
    cases h
    exact ⟨halerted, rfl, rfl⟩
  · intro record hcleared hid hroom
    obtain ⟨alert, hkind, hopens⟩ := alertOutage_opens x hroom hcleared hid
    exact ⟨_, _, _, alert, bind_eq_ok.mpr ⟨_, hopens, rfl⟩, rfl, rfl, rfl, hkind, rfl⟩

/-- A record that counts one more poll without an answer. -/
def LaneRecord.missing (record : LaneRecord) (now : String) : LaneRecord :=
  { record with
    phase := some .unavailable
    last_query_at := some now
    consecutive_unavailable_polls := min (record.consecutive_unavailable_polls + 1) U32_MAX }

theorem markUnavailable_alarms (x : Libraries) (reason : String) (suspend_after : ℕ)
    (now : String) : (markUnavailable x reason suspend_after now).Alarms x reason now := by
  refine ⟨?_, ?_, ?_⟩
  · intro record record' audit answer h
    obtain ⟨applied, happlied, h⟩ := bind_eq_ok.mp h
    cases h
    obtain ⟨heq, hbounded⟩ := alertOutage_ok happlied
    exact ⟨by rw [heq], by rw [heq], by rw [heq], hbounded⟩
  · intro record record' audit answer h halerted
    obtain ⟨applied, happlied, h⟩ := bind_eq_ok.mp h
    have hcontinues : (record.missing now).alertOutage x reason now = .ok (record.missing now) :=
      alertOutage_alerted x reason now halerted
    obtain rfl : record.missing now = applied := Except.ok.inj (hcontinues.symm.trans happlied)
    cases h
    exact ⟨halerted, rfl, rfl⟩
  · intro record hcleared hid hroom
    -- Counting the poll changes nothing that the alert is made from.
    have hmissing : (record.missing now).HasRoom x reason now :=
      ⟨hroom.room, hroom.fresh, hroom.episode, hroom.revision⟩
    obtain ⟨alert, hkind, hopens⟩ := alertOutage_opens x hmissing hcleared hid
    exact ⟨_, _, _, alert, bind_eq_ok.mpr ⟨_, hopens, rfl⟩, rfl, rfl, rfl, hkind, rfl⟩

/-! ## Observations -/

theorem classifyLane_ne_unavailable (record : LaneRecord) (observation : Observation) :
    classifyLane record (some observation) ≠ .unavailable := by
  unfold classifyLane
  cases record.terminal_disposition with
  | some disposition =>
    split_ifs
    · decide
    · exact disposition.kind.phase_ne_unavailable
  | none =>
    dsimp only
    cases observation.disposition
    all_goals
      split_ifs
    all_goals decide

/-- An observation that a lane takes: it passes the checks, and there is room for its alerts. -/
structure Observation.Accepted (x : Libraries) (observation : Observation) (record : LaneRecord)
    (now : String) : Prop where
  checked : observation.sanitizeSelection.check record = .ok ()
  gate : (observation.sanitizeSelection.gateAfter record.last_gate now).toOption.isSome = true
  staged : ∀ last_gate, observation.sanitizeSelection.gateAfter record.last_gate now =
    .ok last_gate → (observation.sanitizeSelection.stageAlerts x record
      (observation.sanitizeSelection.evidence record last_gate now) now).toOption.isSome = true
  revision : record.revision < U64_MAX

/-- An accepted observation is applied. -/
theorem applyObservation_isOk (h : observation.Accepted x record now) :
    ∃ applied, applyObservation x observation now record = .ok applied := by
  obtain ⟨last_gate, hgate⟩ := exists_of_toOption h.gate
  obtain ⟨staged, hstaged⟩ := exists_of_toOption (h.staged last_gate hgate)
  refine exists_bind_ok h.checked (exists_bind_ok hgate ?_)
  exact exists_bind_ok hstaged ⟨_, rfl⟩

theorem Observation.stageAlerts_ok {before : LaneRecord}
    (h : observation.stageAlerts x before record now = .ok record') : record.OnlyAlerts record' := by
  unfold Observation.stageAlerts at h
  -- The alert of a gate is staged last, that of a stalled turn before it.
  have hgate {current : Snapshot} {staged : LaneRecord} (h : (if observation.newGateEpisode before then do
          staged.stage (← bridgeAlerts x none current now) now
        else .ok staged) = Except.ok record') : staged.OnlyAlerts record' := by
    split_ifs at h
    · obtain ⟨events, -, h⟩ := bind_eq_ok.mp h
      exact stage_ok h
    · cases h
      rfl
  have hstall {current previous : Snapshot} {failed : LaneRecord} (h : (do
        let staged ← if observation.stalls before current then do
            failed.stage (← bridgeAlerts x (some previous) current now) now
          else .ok failed
        if observation.newGateEpisode before then do
          staged.stage (← bridgeAlerts x none current now) now
        else .ok staged) = Except.ok record') : failed.OnlyAlerts record' := by
    dsimp only at h
    split at h
    · obtain ⟨events, -, h⟩ := bind_eq_ok.mp h
      obtain ⟨stalled, hstalled, h⟩ := bind_eq_ok.mp h
      exact (stage_ok hstalled).trans (hgate h)
    · exact hgate h
  dsimp only at h
  split at h
  · obtain ⟨events, -, h⟩ := bind_eq_ok.mp h
    obtain ⟨failed, hfailed, h⟩ := bind_eq_ok.mp h
    exact (stage_ok hfailed).trans (hstall h)
  · exact hstall h

/-- An observation that is applied ends the outage and keeps the count of episodes. -/
theorem applyObservation_spec {answer : ApplyOutcome}
    (h : applyObservation x observation now record = .ok (record', audit, answer)) :
    record.SameLane record' ∧ record'.Quiet ∧ record'.endpoint_episode = record.endpoint_episode := by
  obtain ⟨_, -, h⟩ := bind_eq_ok.mp h
  obtain ⟨last_gate, -, h⟩ := bind_eq_ok.mp h
  obtain ⟨staged, hstaged, h⟩ := bind_eq_ok.mp h
  cases h
  have hsame := Observation.stageAlerts_ok hstaged
  rw [hsame]
  refine ⟨⟨rfl, rfl, rfl, id⟩, ⟨rfl, rfl, rfl, ?_⟩, rfl⟩
  intro hphase
  exact classifyLane_ne_unavailable _ _ (Option.some.inj hphase)

end Clawhip.Gjc
