import Clawhip.Gjc.LaneFailures
import Clawhip.Gjc.OneLane

/-!
# Outages

What passes of the reconciler over one lane announce of the outages of its endpoint. The answers of the
control plane, with the lane's record before and after each, make a trail on which `endpoint_alerted`
is an alarm; what a pass does besides acting on an answer keeps the episode.
-/

namespace Clawhip.Gjc

open List Option LaneStore

/-! ## Consults -/

/-- The endpoint gave no usable answer. -/
def QueryError.isOutage : QueryError → Bool
  | endpointUnavailable _ | timeout _ | ambiguous _ => true
  | _ => false

/-- The control plane did not answer a query for the session's state. -/
def Consult.isOutage (consult : Consult) : Bool :=
  match consult.answer with
  | .ok _ => false
  | .error error => error.isOutage

/-- The alerts about the endpoint that were staged for an answer. -/
def Consult.staged (consult : Consult) : List PendingAlert :=
  (consult.after.pending_alerts.drop consult.before.pending_alerts.length).filter fun alert =>
    decide (alert.kind = "session.endpoint-failed")

/-- Consults, connected through the lane's record. -/
def consultTrail : Trail LaneRecord Consult where
  before := Consult.before
  after := Consult.after
  Keeps := LaneRecord.KeepsEpisode
  refl := .refl
  trans := .trans

/-- The flag `endpoint_alerted` and the count of episodes. -/
def outageAlarm : consultTrail.Alarm where
  raised := LaneRecord.endpoint_alerted
  number := LaneRecord.endpoint_episode
  Bad consult := consult.isOutage = true
  announced consult := consult.staged.length
  keeps_raised h := h.alerted
  keeps_number h := h.episode

/-- The outages that the answers show are announced, once for each, and a successful answer ends an
outage. `record` is the lane's record in the end. -/
structure OutagesAnnounced (consults : List Consult) (record : LaneRecord) : Prop where
  once : ∀ pre outage post, consults = pre ++ outage ++ post → outage ≠ [] →
    (∀ consult ∈ outage, consult.isOutage = true) → (∀ consult ∈ pre.getLast?, consult.isOutage = false) →
    (∀ consult ∈ post.head?, consult.isOutage = false) →
    (outage.map fun consult => consult.staged.length).sum = 1
  recovered : ∀ consult ∈ consults, ∀ observation, consult.answer = .ok observation → consult.after.Quiet
  rests : ∀ pre consult, consults = pre ++ [consult] →
    ∀ observation, consult.answer = .ok observation → record.Quiet
  larger : ∀ pre earlier between later post,
    consults = pre ++ earlier :: between ++ later :: post → earlier.isOutage = true →
    later.isOutage = true → later.staged ≠ [] → earlier.after.endpoint_episode < later.after.endpoint_episode

/-- The episode is closed, or an outage has room for its alert. -/
def LaneRecord.TakesOutage (x : Libraries) (record : LaneRecord) (revalidation : Bool)
    (reason now : String) : Prop :=
  record.endpoint_alerted = true ∨ revalidation = false ∧ record.HasRoom x reason now

/-- An answer that the reconciler takes as it should: a successful one finds the endpoint in order, or
has a new revision and is accepted; an outage was alerted, or has room for its alert; any other error
finds no open episode, or is a rotation to another endpoint. -/
def Consult.Fits (x : Libraries) (consult : Consult) : Prop :=
  match consult.answer with
  | .ok observation => consult.before.Quiet ∨ consult.before.sdk_revision < observation.revision ∧
        observation.Accepted x consult.before consult.now
  | .error (.endpointUnavailable reason) | .error (.timeout reason) =>
    consult.before.TakesOutage x consult.revalidation reason consult.now
  | .error (.ambiguous reason) =>
    if reason = "multiple ready workflow gates" then consult.before.endpoint_alerted = true
    else consult.before.TakesOutage x consult.revalidation reason consult.now
  | .error (.staleEndpointGeneration observed) => consult.before.endpoint_alerted = false ∨
      consult.revalidation = false ∧ observed ≠ consult.before.endpoint_generation ∧ consult.before.revision < U64_MAX
  | .error _ => consult.before.endpoint_alerted = false

/-- An answer that was acted on as it should be. -/
structure Consult.Told (consult : Consult) : Prop where
  lawful : outageAlarm.Lawful consult
  quiet : ∀ observation, consult.answer = .ok observation → consult.after.Quiet

namespace Consult

variable {consult : Consult}

theorem Told.of_success {observation : Observation} (hanswer : consult.answer = .ok observation)
    (hquiet : consult.after.Quiet)
    (hepisode : consult.before.endpoint_episode ≤ consult.after.endpoint_episode) : consult.Told := by
  have hgood : ¬ outageAlarm.Bad consult := by
    show ¬ consult.isOutage = true
    unfold isOutage
    rw [hanswer]
    exact Bool.false_ne_true
  exact ⟨⟨fun hbad => absurd hbad hgood, fun hbad => absurd hbad hgood, fun _ => hquiet.alerted,
    hepisode⟩, fun _ _ => hquiet⟩

variable {error : QueryError}

section

variable (hanswer : consult.answer = .error error)
include hanswer

theorem Told.of_error (herror : error.isOutage = false) (hcleared : consult.after.endpoint_alerted = false)
    (hepisode : consult.before.endpoint_episode ≤ consult.after.endpoint_episode) : consult.Told := by
  have hgood : ¬ outageAlarm.Bad consult := by
    show ¬ consult.isOutage = true
    unfold isOutage
    rw [hanswer]
    exact Bool.eq_false_iff.mp herror
  refine ⟨⟨fun hbad => absurd hbad hgood, fun hbad => absurd hbad hgood, fun _ => hcleared,
    hepisode⟩, fun observation hok => ?_⟩
  rw [hanswer] at hok
  cases hok

/-- An outage that goes on. -/
theorem Told.of_alerted (herror : error.isOutage = true)
    (hbefore : consult.before.endpoint_alerted = true) (hafter : consult.after.endpoint_alerted = true)
    (hepisode : consult.after.endpoint_episode = consult.before.endpoint_episode)
    (halerts : consult.after.pending_alerts = consult.before.pending_alerts) : consult.Told := by
  have hbad : outageAlarm.Bad consult := by
    show consult.isOutage = true
    unfold isOutage
    rw [hanswer]
    exact herror
  have hstaged : consult.staged.length = 0 := by
    unfold staged
    rw [halerts, drop_length]
    rfl
  refine ⟨⟨fun _ hcleared => ?_, fun _ _ => ⟨hafter, hstaged⟩, fun hgood => absurd hbad hgood,
    Nat.le_of_eq hepisode.symm⟩, fun observation hok => ?_⟩
  · exact absurd (hbefore.symm.trans hcleared) (by decide)
  · rw [hanswer] at hok
    cases hok

/-- An outage that begins. -/
theorem Told.of_opened {alert : PendingAlert}
    (herror : error.isOutage = true) (hbefore : consult.before.endpoint_alerted = false)
    (hafter : consult.after.endpoint_alerted = true)
    (hepisode : consult.after.endpoint_episode = consult.before.endpoint_episode + 1)
    (halerts : consult.after.pending_alerts = consult.before.pending_alerts ++ [alert])
    (hkind : alert.kind = "session.endpoint-failed") : consult.Told := by
  have hbad : outageAlarm.Bad consult := by
    show consult.isOutage = true
    unfold isOutage
    rw [hanswer]
    exact herror
  have hstaged : consult.staged.length = 1 := by
    unfold staged
    rw [halerts, drop_left]
    simp [hkind]
  have hlt : consult.before.endpoint_episode < consult.after.endpoint_episode := by omega
  refine ⟨⟨fun _ _ => ⟨hafter, hstaged, hlt⟩, fun _ halerted => ?_, fun hgood => absurd hbad hgood,
    hlt.le⟩, fun observation hok => ?_⟩
  · exact absurd (hbefore.symm.trans halerted) Bool.false_ne_true
  · rw [hanswer] at hok
    cases hok

end

end Consult

/-! ## Courses -/

/-- Consults lead from one record of the lane to another; where each of them fits, they are told and
nothing else changes the episode. -/
def Course (x : Libraries) (record : LaneRecord) (consults : List Consult) (record' : LaneRecord) :
    Prop :=
  (∀ consult ∈ consults, consult.Fits x) →
    consultTrail.Linked record consults record' ∧ ∀ consult ∈ consults, consult.Told

variable {record : LaneRecord} {x : Libraries}

theorem Course.of_keeps {record' : LaneRecord} (h : record.KeepsEpisode record') : Course x record [] record' :=
  fun _ => ⟨h, fun _ hmem => absurd hmem not_mem_nil⟩

variable {first second : List Consult}

theorem Course.append {a b c : LaneRecord} (hfirst : Course x a first b)
    (hsecond : Course x b second c) : Course x a (first ++ second) c := by
  intro hfits
  obtain ⟨hlinked, htold⟩ := hfirst fun consult h => hfits consult (mem_append_left _ h)
  obtain ⟨hlinked', htold'⟩ := hsecond fun consult h => hfits consult (mem_append_right _ h)
  refine ⟨hlinked.append hlinked', fun consult hconsult => ?_⟩
  rcases mem_append.mp hconsult with h | h
  · exact htold consult h
  · exact htold' consult h

theorem Course.single (consult : Consult) (h : consult.Fits x → consult.Told) :
    Course x consult.before [consult] consult.after := by
  intro hfits
  refine ⟨⟨.refl _, .refl _⟩, fun other hother => ?_⟩
  obtain rfl := mem_singleton.mp hother
  exact h (hfits _ mem_cons_self)

/-! ## Acting on an answer -/

section

variable {x : Libraries} {input : PassInput} {others : OrdMap String LaneRecord}
  {lane_id now : String} {store : LaneStore} {record : LaneRecord} {around : Surroundings}

/-- What a mutation made of a lane: the store, the record in it, and the record of the answer, if there
was no error. -/
structure Mutated {β : Type} (others : OrdMap String LaneRecord) (lane_id : String)
    (record : LaneRecord) (answer : LaneStore × Except LaneError (LaneRecord × β))
    (after : LaneRecord) : Prop where
  watches : answer.1.Watches others lane_id after
  answered : ∀ result, answer.2 = .ok result → result.1 = after
  refused : ∀ error, answer.2 = .error error → after = record

variable {β : Type} {after : LaneRecord} {answer : LaneStore × Except LaneError (LaneRecord × β)}

theorem Mutated.of_error {error : LaneError}
    (hanswer : answer = (store, .error error)) (h : store.Watches others lane_id record) :
    Mutated others lane_id record answer record := by
  subst hanswer
  refine ⟨h, fun result hresult => ?_, fun _ _ => rfl⟩
  cases hresult

theorem Mutated.of_ok {result : β}
    (hanswer : answer = (store, .ok (after, result))) (h : store.Watches others lane_id after) :
    Mutated others lane_id record answer after := by
  subst hanswer
  refine ⟨h, fun result hresult => ?_, fun error herror => ?_⟩
  · cases hresult
    rfl
  · cases herror

variable {apply : Closure β}

/-- A mutation by which an outage is noted. -/
theorem mutate_outage (h : store.Watches others lane_id record) (hworks : around.Works) {reason : String}
    (halarms : apply.Alarms x reason now) : ∃ after, Mutated others lane_id record
        (store.mutate around lane_id record.revision now apply) after ∧
      ∀ error : QueryError, error.isOutage = true → record.TakesOutage x false reason now →
        (Consult.mk false now (.error error) record after).Told := by
  rcases h.mutate_cases hworks record.revision now halarms.stays with
    ⟨error, hmutate, hrefused⟩ | ⟨store', record', audit, answer, happly, hmutate, hwatches⟩
  · refine ⟨record, .of_error hmutate h, ?_⟩
    rintro error' herror (halerted | ⟨-, hroom⟩)
    · exact .of_alerted rfl herror halerted halerted rfl rfl
    · cases hcleared : record.endpoint_alerted with
      | true => exact .of_alerted rfl herror hcleared hcleared rfl rfl
      | false =>
        obtain ⟨record', audit, answer, alert, happly, -⟩ := halarms.opens hcleared h.session hroom
        exact absurd ⟨rfl, hroom.revision, _, happly⟩ hrefused
  · refine ⟨record'.next now, .of_ok hmutate hwatches, fun error herror htakes => ?_⟩
    cases hraised : record.endpoint_alerted with
    | true =>
      obtain ⟨hafter, hepisode, halerts⟩ := halarms.continues happly hraised
      exact .of_alerted rfl herror hraised hafter hepisode halerts
    | false =>
      rcases htakes with halerted | ⟨-, hroom⟩
      · exact absurd (hraised.symm.trans halerted) Bool.false_ne_true
      · obtain ⟨opened, audit', answer', alert, hopens, hafter, hepisode, halerts, hkind, -⟩ :=
          halarms.opens hraised h.session hroom
        cases happly.symm.trans hopens
        exact .of_opened rfl herror hraised hafter hepisode halerts hkind

/-- A mutation that keeps the episode. -/
theorem mutate_bookkeeps (h : store.Watches others lane_id record) (hworks : around.Works)
    (expected_revision : ℕ) (now : String) (hkeeps : apply.Bookkeeps) :
    ∃ after, Mutated others lane_id record (store.mutate around lane_id expected_revision now apply) after ∧
      record.KeepsEpisode after := by
  rcases h.mutate_cases hworks expected_revision now hkeeps.stays with
    ⟨error, hmutate, -⟩ | ⟨store', record', audit, answer, happly, hmutate, hwatches⟩
  · exact ⟨record, .of_error hmutate h, .refl record⟩
  · refine ⟨record'.next now, .of_ok hmutate hwatches, (hkeeps happly).2.trans (record'.keepsEpisode_next now)⟩

variable (x : Libraries) (now : String)

theorem mutate_observation
    (h : store.Watches others lane_id record) (hworks : around.Works) (observation : Observation) :
    ∃ after, Mutated others lane_id record (store.mutate around lane_id record.revision now
        (applyObservation x observation now)) after ∧
      after.endpoint_episode = record.endpoint_episode ∧ (after = record ∨ after.Quiet) ∧
      (observation.Accepted x record now → after.Quiet) := by
  have hstays : (applyObservation x observation now).Stays := fun h => (applyObservation_spec h).1
  rcases h.mutate_cases hworks record.revision now hstays with
    ⟨error, hmutate, hrefused⟩ | ⟨store', record', audit, answer, happly, hmutate, hwatches⟩
  · refine ⟨record, .of_error hmutate h, rfl, .inl rfl, ?_⟩
    intro haccepted
    exact absurd ⟨rfl, haccepted.revision, applyObservation_isOk haccepted⟩ hrefused
  · obtain ⟨-, hquiet, hepisode⟩ := applyObservation_spec happly
    have hquiet' := (record'.keepsEpisode_next now).quiet hquiet
    refine ⟨record'.next now, .of_ok hmutate hwatches, hepisode, .inr hquiet', fun _ => hquiet'⟩

/-- A mutation by which the end of a session is noted. -/
theorem mutate_gone (h : store.Watches others lane_id record) (hworks : around.Works)
    (evidence : String) : ∃ after, Mutated others lane_id record
        (store.mutate around lane_id record.revision now (markRuntimeGone evidence now)) after ∧
      after.endpoint_alerted = record.endpoint_alerted ∧ after.endpoint_episode = record.endpoint_episode := by
  have hstays : (markRuntimeGone evidence now).Stays := fun h => (markRuntimeGone_spec h).1
  rcases h.mutate_cases hworks record.revision now hstays with
    ⟨error, hmutate, -⟩ | ⟨store', record', audit, answer, happly, hmutate, hwatches⟩
  · exact ⟨record, .of_error hmutate h, rfl, rfl⟩
  · obtain ⟨-, halerted, hepisode⟩ := markRuntimeGone_spec happly
    exact ⟨record'.next now, .of_ok hmutate hwatches, halerted, hepisode⟩

/-- A mutation by which a rotation is noted. -/
theorem mutate_rotation (h : store.Watches others lane_id record) (hworks : around.Works)
    (observed : ℕ) : ∃ after, Mutated others lane_id record
        (store.mutate around lane_id record.revision now (noteEndpointRotation observed)) after ∧
      (record.endpoint_alerted = false ∨ observed ≠ record.endpoint_generation ∧ record.revision < U64_MAX →
        after.endpoint_alerted = false) ∧ record.endpoint_episode ≤ after.endpoint_episode := by
  have hstays : (noteEndpointRotation observed).Stays := fun h => (noteEndpointRotation_spec h).1
  rcases h.mutate_cases hworks record.revision now hstays with
    ⟨error, hmutate, hrefused⟩ | ⟨store', record', audit, answer, happly, hmutate, hwatches⟩
  · refine ⟨record, .of_error hmutate h, ?_, le_rfl⟩
    rintro (hcleared | ⟨-, hrevision⟩)
    · exact hcleared
    · obtain ⟨record', audit, happly⟩ := noteEndpointRotation_isOk observed record
      exact absurd ⟨rfl, hrevision, _, happly⟩ hrefused
  · obtain ⟨-, hcleared, hepisode⟩ := noteEndpointRotation_spec happly
    exact ⟨record'.next now, .of_ok hmutate hwatches,
      fun hfits => hcleared (hfits.imp_right fun hother => hother.1), hepisode h.bounded⟩

/-- The record that comes with a reaction. -/
def Reaction.record? : Reaction → Option LaneRecord
  | applied record _ => some record
  | watchRemoved record => some record
  | runtimeGone record => some record
  | rotated record => some record
  | terminalUnavailable record _ => some record
  | unavailable record _ => some record
  | staged record => some record
  | _ => none

/-- What the reconciler made of an answer: the store, the lane's record in it, and the one that comes
with the reaction. -/
structure Reacted (others : OrdMap String LaneRecord) (lane_id : String)
    (reacted : LaneStore × Reaction) (after : LaneRecord) : Prop where
  watches : reacted.1.Watches others lane_id after
  answered : ∀ record, reacted.2.record? = some record → record = after

/-- A reaction that comes with the answer of a mutation. -/
theorem Mutated.reacted {reaction : Reaction} (h : Mutated others lane_id record answer after)
    (hok : ∀ result, answer.2 = .ok result → reaction.record? = some result.1)
    (herror : ∀ error, answer.2 = .error error → reaction.record? = none) :
    Reacted others lane_id (answer.1, reaction) after := by
  refine ⟨h.watches, fun record hrecord => ?_⟩
  cases hanswer : answer.2 with
  | error error =>
    rw [herror error hanswer] at hrecord
    cases hrecord
  | ok result =>
    rw [hok result hanswer] at hrecord
    exact (some.inj hrecord).symm.trans (h.answered result hanswer)

/-- Nothing was done. -/
theorem Reacted.retained (h : store.Watches others lane_id record) :
    Reacted others lane_id (store, .retained) record := by
  refine ⟨h, fun record' hrecord' => ?_⟩
  cases hrecord'

/-- Acting on an answer replaces the lane's record at most; an answer that fits is told. -/
theorem react_spec (policy : PollingPolicy) (h : store.Watches others lane_id record)
    (hworks : input.around.Works) (answer : Answer) :
    ∃ after, Reacted others lane_id (store.react x policy input record answer) after ∧
      ((Consult.mk false input.now answer record after).Fits x →
        (Consult.mk false input.now answer record after).Told) := by
  obtain rfl := h.own
  cases answer with
  | ok observation =>
    dsimp only [react]
    by_cases hrevision : observation.revision ≤ record.sdk_revision
    · rw [if_pos hrevision]
      refine ⟨record, .retained h, fun hfits => ?_⟩
      rcases hfits with hquiet | ⟨hlt, -⟩
      · exact .of_success rfl hquiet le_rfl
      · exact absurd hlt (not_lt.mpr hrevision)
    · rw [if_neg hrevision]
      obtain ⟨after, hmutated, hepisode, hafter, haccepts⟩ := mutate_observation x input.now h hworks observation
      refine ⟨after, hmutated.reacted (fun _ hresult => by rw [hresult]; rfl)
        fun _ herror => by rw [herror]; rfl, fun hfits => ?_⟩
      refine .of_success rfl ?_ (Nat.le_of_eq hepisode.symm)
      rcases hfits with hquiet | ⟨-, haccepted⟩
      · rcases hafter with rfl | hafter
        · exact hquiet
        · exact hafter
      · exact haccepts haccepted
  | error error =>
    cases error with
    | endpointUnavailable reason | timeout reason =>
      obtain ⟨after, hmutated, htold⟩ := mutate_outage h hworks (markUnavailable_alarms x reason
        (if record.terminal_disposition.isSome then U32_MAX else policy.max_consecutive_attempts)
          input.now)
      refine ⟨after, hmutated.reacted (fun result hresult => ?_) fun _ herror => by rw [herror]; rfl, htold _ rfl⟩
      rw [hresult]
      split_ifs
      all_goals rfl
    | sessionNotFound detail =>
      dsimp only [react]
      by_cases hterminal : record.terminal_disposition.isSome = true
      · rw [if_pos hterminal]
        obtain ⟨after, hmutated, hkeeps⟩ := mutate_bookkeeps h hworks record.revision input.now
          (removeGhostWatch_bookkeeps ("terminal session absent from control plane: " ++ detail) input.now)
        refine ⟨after, hmutated.reacted (fun _ hresult => by rw [hresult]; rfl)
          fun _ herror => by rw [herror]; rfl, fun hcleared => ?_⟩
        exact .of_error rfl rfl (hkeeps.alerted.trans hcleared) (Nat.le_of_eq hkeeps.episode.symm)
      · rw [if_neg hterminal]
        obtain ⟨after, hmutated, halerted, hepisode⟩ := mutate_gone input.now h hworks detail
        refine ⟨after, hmutated.reacted (fun _ hresult => by rw [hresult]; rfl)
          fun _ herror => by rw [herror]; rfl, fun hcleared => ?_⟩
        exact .of_error rfl rfl (halerted.trans hcleared) (Nat.le_of_eq hepisode.symm)
    | staleEndpointGeneration observed =>
      obtain ⟨after, hmutated, hafter, hepisode⟩ := mutate_rotation input.now h hworks observed
      refine ⟨after, hmutated.reacted (fun _ hresult => by rw [hresult]; rfl)
        fun _ herror => by rw [herror]; rfl, fun hfits => ?_⟩
      refine .of_error rfl rfl (hafter ?_) hepisode
      exact hfits.imp_right fun hother => hother.2
    | ambiguous reason =>
      dsimp only [react]
      by_cases hgates : reason = "multiple ready workflow gates"
      · rw [if_pos hgates]
        refine ⟨record, .retained h, fun hfits => ?_⟩
        have halerted : record.endpoint_alerted = true := by simpa only [Consult.Fits, if_pos hgates] using hfits
        exact .of_alerted rfl rfl halerted halerted rfl rfl
      · rw [if_neg hgates]
        obtain ⟨after, hmutated, htold⟩ := mutate_outage h hworks (enqueueEndpointFailure_alarms x reason input.now)
        refine ⟨after, hmutated.reacted (fun _ hresult => by rw [hresult]; rfl)
        fun _ herror => by rw [herror]; rfl, fun hfits => ?_⟩
        refine htold _ rfl ?_
        simpa only [Consult.Fits, if_neg hgates] using hfits
    | invalidState detail => exact ⟨record, .retained h, fun hcleared => .of_error rfl rfl hcleared le_rfl⟩

end

/-! ## Replays -/

/-- A replay goes on from one state to another and notes these consults. -/
structure Replay.Goes (x : Libraries) (others : OrdMap String LaneRecord) (lane_id : String)
    (replay replay' : Replay) (consults : List Consult) : Prop where
  appended : replay'.consults = replay.consults ++ consults
  watches : replay'.store.Watches others lane_id replay'.current
  course : Course x replay.current consults replay'.current
  noted : replay'.revalidated.isSome = true → replay.revalidated.isSome = true ∨ consults ≠ []
  cleared : (∀ consult ∈ consults, consult.Fits x) →
    (replay.revalidated.isSome = true → replay.current.endpoint_alerted = false) →
    replay'.revalidated.isSome = true → replay'.current.endpoint_alerted = false

namespace Replay

variable {x : Libraries} {others : OrdMap String LaneRecord} {lane_id now : String}
  {around : Surroundings} {replay replay' replay'' : Replay}

theorem Goes.trans (hfirst : Goes x others lane_id replay replay' first)
    (hsecond : Goes x others lane_id replay' replay'' second) :
    Goes x others lane_id replay replay'' (first ++ second) := by
  refine ⟨?_, hsecond.watches, hfirst.course.append hsecond.course, fun hsome => ?_, fun hfits hcleared => ?_⟩
  · rw [hsecond.appended, hfirst.appended, append_assoc]
  · rcases hsecond.noted hsome with hsome' | hne
    · exact (hfirst.noted hsome').imp_right fun hne => append_ne_nil_of_left_ne_nil hne _
    · exact .inr (append_ne_nil_of_right_ne_nil _ hne)
  · refine hsecond.cleared (fun consult h => hfits consult (mem_append_right _ h)) ?_
    exact hfirst.cleared (fun consult h => hfits consult (mem_append_left _ h)) hcleared

/-- Bookkeeping asks nothing and keeps the episode. -/
theorem Goes.of_keeps (hconsults : replay'.consults = replay.consults)
    (hrevalidated : replay'.revalidated = replay.revalidated)
    (hwatches : replay'.store.Watches others lane_id replay'.current)
    (hkeeps : replay.current.KeepsEpisode replay'.current) : Goes x others lane_id replay replay' [] := by
  refine ⟨hconsults.trans (append_nil _).symm, hwatches, .of_keeps hkeeps, fun hsome => ?_, fun _ hcleared hsome => ?_⟩
  · exact .inl (hrevalidated ▸ hsome)
  · exact hkeeps.alerted.trans (hcleared (hrevalidated ▸ hsome))

variable {record : LaneRecord}

/-- The record at hand is the one in the store again. -/
theorem refreshed_of_watches (h : replay.store.Watches others lane_id record)
    (hlane : replay.current.lane_id = lane_id) : replay.refreshed = { replay with current := record } := by
  unfold refreshed
  rw [hlane, h.record_eq]
  rfl

variable {store : LaneStore}

/-- What the dispatcher records for an alert keeps the episode. -/
theorem deliveries_spec (h : store.Watches others lane_id record) (hworks : around.Works)
    (event_id : String) (deliveries : List (String × DeliveryState)) :
    ∃ record', (deliveries.foldl (fun store delivery => (store.updatePendingAlertDelivery around
          lane_id event_id delivery.1 delivery.2).1) store).Watches others lane_id record' ∧
      record.KeepsEpisode record' ∧ (record' = record ∨ record.revision < record'.revision) := by
  induction deliveries generalizing store record with
  | nil => exact ⟨record, h, .refl record, .inl rfl⟩
  | cons delivery deliveries ih =>
    obtain ⟨first, hfirst, hkeeps, hrevision⟩ := h.deliver hworks event_id delivery.1 delivery.2
    obtain ⟨last, hlast, hkeeps', hrevision'⟩ := ih hfirst
    refine ⟨last, hlast, hkeeps.trans hkeeps', ?_⟩
    rcases hrevision with rfl | hlt
    · exact hrevision'
    · rcases hrevision' with rfl | hlt'
      · exact .inr hlt
      · exact .inr (hlt.trans hlt')

/-- What a text contains, a longer one contains. -/
theorem contains_append {s pattern : String} (t : String) (h : Text.contains s pattern = true) :
    Text.contains (s ++ t) pattern = true := by
  rw [contains_iff] at h ⊢
  rw [String.toList_append]
  exact h.trans (prefix_append _ _).isInfix

/-- The text of a revision conflict is recognized. -/
theorem isRevisionConflict_revisionConflict (expected current : ℕ) :
    (LaneError.revisionConflict expected current).isRevisionConflict = true := by
  have hstart : Text.contains "lane revision conflict: expected " "revision conflict" = true := by decide +kernel
  exact contains_append _ (contains_append _ (contains_append _ hstart))

/-- Sending an alert keeps the episode. -/
theorem deliver_goes (h : replay.store.Watches others lane_id replay.current)
    (hworks : around.Works) (send : Send) (alert : PendingAlert) :
    Goes x others lane_id replay (replay.deliver around now send alert).1 [] := by
  obtain rfl := h.own
  obtain ⟨record, hwatches, hkeeps, hrevision⟩ := deliveries_spec h hworks alert.event_id send.deliveries
  unfold deliver
  set store := send.deliveries.foldl (fun store delivery => (store.updatePendingAlertDelivery around
    replay.current.lane_id alert.event_id delivery.1 delivery.2).1) replay.store with hstore
  set delivered : Replay := { replay with store := store } with hdelivered
  have hrefreshed : delivered.refreshed = { delivered with current := record } := refreshed_of_watches hwatches rfl
  by_cases haccepted : send.accepted = true
  · rw [haccepted, if_neg (by decide)]
    rcases hwatches.acknowledge_cases hworks replay.current.revision alert.event_id now with
      ⟨error, hack, hconflict⟩ | ⟨store', record', hack, hwatches', hkeeps'⟩
    · rw [hack]
      dsimp only
      by_cases hmoved : error.isRevisionConflict = true
      · -- The dispatcher moved the revision on: the alert is acknowledged at the present one.
        rw [if_pos hmoved, hrefreshed]
        rw [hwatches.own]
        rcases hwatches.acknowledge_cases hworks record.revision alert.event_id now with
          ⟨error', hack', -⟩ | ⟨store', record', hack', hwatches', hkeeps'⟩
        · rw [hack']
          exact .of_keeps rfl rfl hwatches hkeeps
        · rw [hack']
          exact .of_keeps rfl rfl hwatches' (hkeeps.trans hkeeps')
      · rw [if_neg hmoved]
        have hsame : record = replay.current := by
          refine hrevision.resolve_right fun hlt => hmoved ?_
          rw [hconflict (by omega)]
          exact isRevisionConflict_revisionConflict _ _
        rw [hsame] at hwatches
        exact .of_keeps rfl rfl hwatches (.refl _)
    · rw [hack]
      exact .of_keeps rfl rfl hwatches' (hkeeps.trans hkeeps')
  · rw [if_pos (by simpa using haccepted), hrefreshed]
    exact .of_keeps rfl rfl hwatches hkeeps

/-- An error to the query of a replay is not acted on. -/
theorem told_of_error {error : QueryError} (hfits : (Consult.mk true now (.error error) record record).Fits x) :
    (Consult.mk true now (.error error) record record).Told := by
  have htakes {reason : String} (h : record.TakesOutage x true reason now) :
      record.endpoint_alerted = true := h.resolve_right fun hroom => Bool.noConfusion hroom.1
  cases error with
  | endpointUnavailable reason | timeout reason => exact .of_alerted rfl rfl (htakes hfits) (htakes hfits) rfl rfl
  | ambiguous reason =>
    have halerted : record.endpoint_alerted = true := by
      unfold Consult.Fits at hfits
      dsimp only at hfits
      split_ifs at hfits
      · exact hfits
      · exact htakes hfits
    exact .of_alerted rfl rfl halerted halerted rfl rfl
  | sessionNotFound detail | invalidState detail => exact .of_error rfl rfl hfits le_rfl
  | staleEndpointGeneration observed =>
    exact .of_error rfl rfl (hfits.resolve_right fun hother => Bool.noConfusion hother.1) le_rfl

/-- An answer to the query of a replay is noted. -/
theorem noted_goes {after : LaneRecord} {observation : Observation} (hwatches : store.Watches others lane_id after)
    (hquiet : (Consult.mk true now (.ok observation) replay.current after).Fits x → after.Quiet)
    (hepisode : after.endpoint_episode = replay.current.endpoint_episode) : Goes x others lane_id replay
      ⟨store, after, some observation, replay.consults ++ [⟨true, now, .ok observation, replay.current, after⟩]⟩
      [⟨true, now, .ok observation, replay.current, after⟩] := by
  refine ⟨rfl, hwatches, ?_, fun _ => .inr (cons_ne_nil _ _), fun hfits _ _ => ?_⟩
  · exact Course.single ⟨true, now, .ok observation, replay.current, after⟩
      fun hfits => .of_success rfl (hquiet hfits) (Nat.le_of_eq hepisode.symm)
  · exact (hquiet (hfits _ mem_cons_self)).alerted

/-- What the replay does with an alert once it knows the state of the session. -/
def decided (replay : Replay) (around : Surroundings) (now : String) (alert : PendingAlert)
    (authoritative : Observation) : Replay × Verdict :=
  match failureAlertAuthority alert authoritative with
  | .current => (replay, .deliver)
  | .unknown => (replay, .stop)
  | .superseded =>
    let answer := replay.store.mutate around replay.current.lane_id replay.current.revision now
      (suppressHistoricalFailureAlert alert authoritative)
    match answer.2 with
    | .ok updated => ({ replay with store := answer.1, current := updated.1 }, .next)
    | .error _ => ({ replay with store := answer.1 }.refreshed, .next)

/-- An alert that is superseded is dropped. -/
theorem decided_goes (h : replay.store.Watches others lane_id replay.current)
    (hworks : around.Works) (alert : PendingAlert) (authoritative : Observation) :
    Goes x others lane_id replay (replay.decided around now alert authoritative).1 [] := by
  obtain rfl := h.own
  obtain ⟨record, hmutated, hkeeps⟩ := mutate_bookkeeps h hworks replay.current.revision now
    (suppressHistoricalFailureAlert_bookkeeps alert authoritative)
  have hwatches := hmutated.watches
  unfold decided
  cases failureAlertAuthority alert authoritative with
  | current | unknown => exact .of_keeps rfl rfl h (.refl _)
  | superseded =>
    dsimp only
    cases hanswer : (replay.store.mutate around replay.current.lane_id replay.current.revision now
        (suppressHistoricalFailureAlert alert authoritative)).2 with
    | ok updated =>
      obtain rfl := hmutated.answered updated hanswer
      exact .of_keeps rfl rfl hwatches hkeeps
    | error error =>
      rw [refreshed_of_watches hwatches rfl]
      exact .of_keeps rfl rfl hwatches hkeeps

variable (now : String)

/-- A failure's session is asked about, and the answer is acted on. -/
theorem revalidate_goes (h : replay.store.Watches others lane_id replay.current)
    (hworks : around.Works) (send : Send) (alert : PendingAlert) :
    ∃ consults, Goes x others lane_id replay (replay.revalidate x around now send alert).1 consults := by
  obtain rfl := h.own
  unfold revalidate
  cases send.answer with
  | error error =>
    refine ⟨[⟨true, now, .error error, replay.current, replay.current⟩], rfl, h, ?_, .inl, fun _ hcleared => hcleared⟩
    exact Course.single ⟨true, now, .error error, replay.current, replay.current⟩ told_of_error
  | ok observation =>
    set authoritative := observation.sanitizeSelection with hauthoritative
    dsimp only
    by_cases hrevision : replay.current.sdk_revision < authoritative.revision
    · rw [if_pos hrevision]
      obtain ⟨after, hmutated, hepisode, hafter, haccepts⟩ := mutate_observation x now h hworks authoritative
      have hwatches := hmutated.watches
      have hquiet : (Consult.mk true now (.ok authoritative) replay.current after).Fits x → after.Quiet := by
        rintro (hquiet | ⟨-, haccepted⟩)
        · rcases hafter with rfl | hafter
          · exact hquiet
          · exact hafter
        · exact haccepts haccepted
      have hnoted := noted_goes hwatches hquiet hepisode
      cases hanswer : (replay.store.mutate around replay.current.lane_id replay.current.revision now
          (applyObservation x authoritative now)).2 with
      | error error =>
        obtain rfl := hmutated.refused error hanswer
        exact ⟨_, hnoted⟩
      | ok updated =>
        obtain rfl := hmutated.answered updated hanswer
        exact ⟨_, hnoted.trans (decided_goes hnoted.watches hworks alert authoritative)⟩
    · rw [if_neg hrevision]
      have hquiet : (Consult.mk true now (.ok authoritative) replay.current replay.current).Fits x →
          replay.current.Quiet := fun hfits => hfits.resolve_right fun hnew => hrevision hnew.1
      have hnoted := noted_goes h hquiet rfl
      exact ⟨_, hnoted.trans (decided_goes hnoted.watches hworks alert authoritative)⟩

/-- One alert is sent. -/
theorem sendOne_goes (h : replay.store.Watches others lane_id replay.current)
    (hworks : around.Works) (send : Send) (alert : PendingAlert) :
    ∃ consults, Goes x others lane_id replay (replay.sendOne x around now send alert).1 consults := by
  obtain rfl := h.own
  obtain ⟨record, hmutated, hkeeps⟩ := mutate_bookkeeps h hworks replay.current.revision now
    (notePendingAlertAttempt_bookkeeps alert.event_id)
  have hwatches := hmutated.watches
  unfold sendOne
  dsimp only
  cases hanswer : (replay.store.mutate around replay.current.lane_id replay.current.revision now
      (notePendingAlertAttempt alert.event_id)).2 with
  | error error =>
    rw [hmutated.refused error hanswer] at hwatches
    exact ⟨[], .of_keeps rfl rfl hwatches (.refl _)⟩
  | ok updated =>
    obtain rfl := hmutated.answered updated hanswer
    dsimp only
    set attempted : Replay := { replay with
      store := (replay.store.mutate around replay.current.lane_id replay.current.revision now
        (notePendingAlertAttempt alert.event_id)).1
      current := updated.1 } with hattempted
    have hattempt : Goes x others replay.current.lane_id replay attempted [] := .of_keeps rfl rfl hwatches hkeeps
    have hsend {checked : Replay} {consults : List Consult}
        (hchecked : Goes x others replay.current.lane_id replay checked consults) :
        ∃ consults, Goes x others replay.current.lane_id replay (checked.deliver around now send alert).1 consults :=
      ⟨consults ++ [], hchecked.trans (deliver_goes hchecked.watches hworks send alert)⟩
    split_ifs
    · obtain ⟨consults, hchecked⟩ := revalidate_goes (x := x) now hattempt.watches hworks send alert
      split
      · exact hsend (hattempt.trans hchecked)
      · exact ⟨[] ++ consults, hattempt.trans hchecked⟩
    · exact hsend hattempt

/-- A lane's alerts are replayed. -/
theorem run_goes (x : Libraries) (now : String) (hworks : around.Works) (sends : List Send)
    {replay : Replay} (h : replay.store.Watches others lane_id replay.current) :
    ∃ consults, Goes x others lane_id replay (replay.run x around now sends) consults := by
  induction sends generalizing replay with
  | nil => exact ⟨[], .of_keeps rfl rfl h (.refl _)⟩
  | cons send sends ih =>
    unfold run
    cases hhead : replay.current.pending_alerts.head? with
    | none => exact ⟨[], .of_keeps rfl rfl h (.refl _)⟩
    | some alert =>
      dsimp only
      obtain ⟨first, hfirst⟩ := sendOne_goes (x := x) now h hworks send alert
      split
      · exact ⟨first, hfirst⟩
      · obtain ⟨rest, hrest⟩ := ih hfirst.watches
        exact ⟨first ++ rest, hfirst.trans hrest⟩

end Replay

/-! ## Passes -/

/-- A pass goes on from one record of the lane to another and notes these consults. -/
structure Pass.Goes (x : Libraries) (others : OrdMap String LaneRecord) (lane_id : String)
    (pass : Pass) (record : LaneRecord) (pass' : Pass) (record' : LaneRecord)
    (consults : List Consult) : Prop where
  appended : pass'.consults = pass.consults ++ consults
  watches : pass'.store.Watches others lane_id record'
  course : Course x record consults record'

namespace Pass

variable {x : Libraries} {input : PassInput} {others : OrdMap String LaneRecord}
  {lane_id : String} {pass pass' pass'' : Pass}
  {record record' record'' : LaneRecord}

theorem Goes.trans (hfirst : Goes x others lane_id pass record pass' record' first)
    (hsecond : Goes x others lane_id pass' record' pass'' record'' second) :
    Goes x others lane_id pass record pass'' record'' (first ++ second) := by
  refine ⟨?_, hsecond.watches, hfirst.course.append hsecond.course⟩
  rw [hsecond.appended, hfirst.appended, append_assoc]

/-- A part of a pass that asks nothing and keeps the episode. -/
theorem Goes.of_keeps (hconsults : pass'.consults = pass.consults)
    (hwatches : pass'.store.Watches others lane_id record') (hkeeps : record.KeepsEpisode record') :
    Goes x others lane_id pass record pass' record' [] :=
  ⟨hconsults.trans (append_nil _).symm, hwatches, .of_keeps hkeeps⟩

section

variable (h : pass.store.Watches others lane_id record)
include h

section

variable (hworks : input.around.Works)
include hworks

variable (expected_revision : ℕ)

theorem skip_goes : Goes x others lane_id pass record (pass.skip input lane_id expected_revision) record [] :=
  .of_keeps rfl (h.noteRevisionConflict hworks expected_revision input.now) (.refl _)

theorem failOrSkip_goes (error : LaneError) :
    Goes x others lane_id pass record (pass.failOrSkip input lane_id expected_revision error) record [] := by
  unfold failOrSkip
  split_ifs
  · exact skip_goes h hworks expected_revision
  · exact .of_keeps rfl h (.refl _)

theorem replay_goes (sends : List Send) :
    ∃ consults, Goes x others lane_id pass record (pass.replay x input record sends).1
      (pass.replay x input record sends).2 consults := by
  have hstart : ({ store := pass.store, current := record } : Replay).store.Watches others lane_id
    record := h
  obtain ⟨consults, hgoes⟩ := Replay.run_goes x input.now hworks sends hstart
  refine ⟨consults, ?_, hgoes.watches, hgoes.course⟩
  show pass.consults ++ _ = _
  rw [hgoes.appended]
  rfl

theorem reconcilePr_goes (resolved : Option (Option PrState)) :
    ∃ record', Goes x others lane_id pass record (pass.reconcilePr input record resolved) record' [] := by
  obtain rfl := h.own
  unfold reconcilePr
  split
  · next _ _ binding resolved hbinding =>
    obtain ⟨after, hmutated, hkeeps⟩ := mutate_bookkeeps h hworks record.revision input.now
      (reconcilePrBinding_bookkeeps resolved input.now)
    refine ⟨after, ?_⟩
    dsimp only
    split
    · exact .of_keeps rfl hmutated.watches hkeeps
    · split_ifs
      · exact .of_keeps rfl (hmutated.watches.noteRevisionConflict hworks _ _) hkeeps
      · exact .of_keeps rfl hmutated.watches hkeeps
  · exact ⟨record, .of_keeps rfl h (.refl _)⟩

end

end

/-- The end of a part of a pass only counts something. -/
theorem Goes.counted {consults : List Consult} (h : Goes x others lane_id pass record pass' record' consults)
    (f : ReconcileOutcome → ReconcileOutcome) : Goes x others lane_id pass record (pass'.count f) record' consults :=
  ⟨h.appended, h.watches, h.course⟩

/-- What follows the first thing done with an answer asks for the state of failures only. -/
theorem follow_goes (policy : PollingPolicy) (h : pass.store.Watches others lane_id record) (hworks : input.around.Works)
    (lane : LaneInput) {snapshot : LaneRecord} (hlane : snapshot.lane_id = lane_id) (reaction : Reaction)
    (hreaction : ∀ record', reaction.record? = some record' → record' = record) :
    ∃ record' consults, Goes x others lane_id pass record
      (pass.follow x policy input lane snapshot reaction) record' consults := by
  subst hlane
  have hsame : Goes x others snapshot.lane_id pass record pass record [] := .of_keeps rfl h (.refl _)
  have hskip := skip_goes (x := x) h hworks snapshot.revision
  have hfail (error : LaneError) := failOrSkip_goes (x := x) h hworks snapshot.revision error
  obtain ⟨consults, hreplay⟩ := replay_goes (x := x) h hworks lane.after
  cases reaction with
  | retained =>
    dsimp only [follow, retain]
    exact ⟨_, _, hsame.counted _⟩
  | applied applied outcome =>
    obtain rfl := hreaction applied rfl
    dsimp only [follow, retain]
    have hretained := hsame.counted fun outcome => { outcome with retained := outcome.retained + 1 }
    obtain ⟨consults, hreplay⟩ := replay_goes (x := x) hretained.watches hworks lane.after
    have happlied := hretained.trans hreplay
    split
    · exact ⟨_, _, happlied.counted _⟩
    · have hcounted := happlied.counted fun counted => { counted with
        evidence_invalidations := counted.evidence_invalidations + if outcome.evidence_invalidated then 1 else 0 }
      obtain ⟨record', hpr⟩ := reconcilePr_goes (x := x) hcounted.watches hworks lane.resolved
      exact ⟨record', _, hcounted.trans hpr⟩
  | refused error =>
    dsimp only [follow, retain]
    split_ifs
    · exact ⟨_, _, hskip⟩
    · exact ⟨_, _, hsame.counted _⟩
  | watchRemoved removed | rotated rotated =>
    dsimp only [follow]
    exact ⟨_, _, hsame.counted _⟩
  | notRemoved error =>
    dsimp only [follow, retain]
    split_ifs
    · exact ⟨_, _, hskip⟩
    · exact ⟨_, _, hsame.counted _⟩
    · exact ⟨_, _, .of_keeps rfl h (.refl _)⟩
  | runtimeGone gone =>
    obtain rfl := hreaction gone rfl
    have hcounted := hsame.counted fun outcome => { outcome with
      runtime_gone := outcome.runtime_gone + 1
      terminal_set := outcome.terminal_set + 1
      evidence_invalidations := outcome.evidence_invalidations + 1 }
    obtain ⟨consults, hreplay⟩ := replay_goes (x := x) hcounted.watches hworks lane.after
    exact ⟨_, _, hcounted.trans hreplay⟩
  | terminalUnavailable unavailable detail =>
    obtain rfl := hreaction unavailable rfl
    dsimp only [follow, retain]
    split_ifs
    · exact ⟨_, _, hreplay.counted _⟩
    · -- The watch is removed once the grace is over.
      generalize "terminal watch exceeded ghost grace after " ++
        toString (snapshot.consecutive_unavailable_polls + 1) ++ " unavailable polls: " ++ detail = text
      set replayed := pass.replay x input unavailable lane.after with hreplayed
      obtain ⟨after, hmutated, hkeeps⟩ := mutate_bookkeeps hreplay.watches hworks replayed.2.revision input.now
        (removeGhostWatch_bookkeeps text input.now)
      set answer := replayed.1.store.mutate input.around snapshot.lane_id replayed.2.revision
        input.now (removeGhostWatch text input.now) with hanswer
      have hremoved : Goes x others snapshot.lane_id replayed.1 replayed.2
          { replayed.1 with store := answer.1 } after [] := .of_keeps rfl hmutated.watches hkeeps
      split
      · exact ⟨_, _, (hreplay.trans hremoved).counted _⟩
      · exact ⟨_, _, (hreplay.trans hremoved).trans (failOrSkip_goes hremoved.watches hworks _ _)⟩
    · exact ⟨_, _, hreplay.counted _⟩
  | unavailable unavailable suspended =>
    obtain rfl := hreaction unavailable rfl
    dsimp only [follow]
    exact ⟨_, _, hreplay.counted _⟩
  | staged staged =>
    obtain rfl := hreaction staged rfl
    dsimp only [follow, retain]
    exact ⟨_, _, hreplay.counted _⟩
  | notStaged error =>
    dsimp only [follow, retain]
    split_ifs
    · exact ⟨_, _, hfail error⟩
    · exact ⟨_, _, (hfail error).counted _⟩
  | failed error => exact ⟨_, _, hfail error⟩

/-- Acting once more on a good answer keeps the episode of a lane that is in none. -/
theorem react_keeps (x : Libraries) (policy : PollingPolicy) {store : LaneStore}
    (h : store.Watches others lane_id record) (hworks : input.around.Works) (observation : Observation) :
    ∃ after, Reacted others lane_id (store.react x policy input record (.ok observation)) after ∧
      (record.endpoint_alerted = false → record.KeepsEpisode after) := by
  obtain rfl := h.own
  dsimp only [react]
  by_cases hrevision : observation.revision ≤ record.sdk_revision
  · rw [if_pos hrevision]
    exact ⟨record, .retained h, fun _ => .refl record⟩
  · rw [if_neg hrevision]
    obtain ⟨after, hmutated, hepisode, hafter, -⟩ := mutate_observation x input.now h hworks observation
    refine ⟨after, hmutated.reacted (fun _ hresult => by rw [hresult]; rfl)
      fun _ herror => by rw [herror]; rfl, fun hcleared => ?_⟩
    rcases hafter with rfl | hquiet
    · exact .refl after
    · exact ⟨hquiet.alerted.trans hcleared.symm, hepisode, fun _ => hquiet⟩

/-- The pass visits a lane. -/
theorem reconcileLane_goes (h : pass.store.Watches others lane_id record)
    (hworks : input.around.Works) (parseTime : String → Option ℤ) (policy : PollingPolicy) :
    ∃ record' consults, Goes x others lane_id pass record
      (pass.reconcileLane x parseTime policy input record) record' consults := by
  unfold reconcileLane
  split
  · exact ⟨record, [], .of_keeps rfl h (.refl _)⟩
  dsimp only
  set lane := input.lanes record.lane_id with hlane
  have hstart : ({ store := pass.store, current := record } : Replay).store.Watches others lane_id
    record := h
  obtain ⟨consults, hrun⟩ := Replay.run_goes x input.now hworks lane.before hstart
  set replayed := Replay.run x input.around input.now { store := pass.store, current := record }
    lane.before with hreplayed
  set asked : Pass := { pass with
    store := replayed.store, consults := pass.consults ++ replayed.consults } with hasked
  have hgoes : Goes x others lane_id pass record asked replayed.current consults := by
    refine ⟨?_, hrun.watches, hrun.course⟩
    show pass.consults ++ replayed.consults = _
    rw [hrun.appended]
    rfl
  have hown : replayed.current.lane_id = lane_id := hrun.watches.own
  have hfollow {noted : Pass} {after : LaneRecord} {reaction : Reaction} (consults' : List Consult)
      (hnoted : Goes x others lane_id pass record noted after consults')
      (hreaction : ∀ record', reaction.record? = some record' → record' = after) :
      ∃ record' consults, Goes x others lane_id pass record
        (noted.follow x policy input lane replayed.current reaction) record' consults := by
    obtain ⟨record', more, hmore⟩ := follow_goes policy hnoted.watches hworks lane hown reaction hreaction
    exact ⟨record', consults' ++ more, hnoted.trans hmore⟩
  split_ifs with hretired hsuspended hbackoff
  · -- A retired lane without alerts is cleaned up.
    obtain ⟨after, hmutated, hkeeps⟩ := mutate_bookkeeps hrun.watches hworks replayed.current.revision input.now
      (removeGhostWatch_bookkeeps "retired watch cleanup" input.now)
    rw [hown]
    set answer := asked.store.mutate input.around lane_id replayed.current.revision input.now
      (removeGhostWatch "retired watch cleanup" input.now) with hanswer
    have hremoved : Goes x others lane_id asked replayed.current { asked with store := answer.1 }
        after [] := .of_keeps rfl hmutated.watches hkeeps
    split
    · exact ⟨_, _, (hgoes.trans hremoved).counted _⟩
    · exact ⟨_, _, hgoes.trans hremoved⟩
  · exact ⟨_, _, hgoes⟩
  · exact ⟨_, _, hgoes.counted _⟩
  · -- The answer of the replay was noted there already.
    obtain ⟨observation, hobservation⟩ := isSome_iff_exists.mp ‹_›
    obtain ⟨after, hreacted, hkeeps⟩ := react_keeps x policy hrun.watches hworks observation
    rw [hobservation]
    have hcourse : Course x record consults after := by
      intro hfits
      obtain ⟨hlinked, htold⟩ := hrun.course hfits
      have hcleared := hrun.cleared hfits (fun hsome => absurd hsome Bool.false_ne_true) ‹_›
      exact ⟨hlinked.then_keeps (hkeeps hcleared), htold⟩
    refine hfollow consults ⟨?_, hreacted.watches, hcourse⟩ hreacted.answered
    exact (append_nil _).trans hgoes.appended
  · have hnone : replayed.revalidated = none := not_isSome_iff_eq_none.mp ‹_›
    rw [hnone]
    obtain ⟨after, hreacted, htold⟩ := react_spec x policy hrun.watches hworks lane.answer
    have hrecord : (((replayed.store.react x policy input replayed.current lane.answer).1.state.record
        replayed.current.lane_id).getD replayed.current) = after := by
      rw [hown, hreacted.watches.record_eq]
      rfl
    refine hfollow (consults ++ [⟨false, input.now, lane.answer, replayed.current, after⟩]) ⟨?_, hreacted.watches,
        hrun.course.append (Course.single ⟨false, _, _, replayed.current, after⟩ htold)⟩ hreacted.answered
    show (pass.consults ++ replayed.consults) ++ [Consult.mk false input.now lane.answer
      replayed.current (((replayed.store.react x policy input replayed.current
        lane.answer).1.state.record replayed.current.lane_id).getD replayed.current)] = _
    rw [hrecord, hrun.appended]
    simp

end Pass

/-! ## Passes one after another -/

section

variable (x : Libraries) (parseTime : String → Option ℤ) (policy : PollingPolicy)

/-- Passes over a store, one after the other; each tells its consults. -/
def passes : Machine LaneStore PassInput (List Consult) where
  step store input :=
    let pass := pollOnce x parseTime policy input store
    (pass.store, pass.consults)

variable {lane_id : String} {store : LaneStore} {record : LaneRecord}

/-- A pass over a store with one lane visits that lane at most. -/
theorem pollOnce_goes (h : store.Watches [] lane_id record) {input : PassInput} (hworks : input.around.Works) :
    ∃ record' consults, Pass.Goes x [] lane_id { store := store } record
      (pollOnce x parseTime policy input store) record' consults := by
  have hstart : ({ store := store } : Pass).store.Watches [] lane_id record := h
  unfold pollOnce
  cases policy.complaint with
  | some complaint => exact ⟨record, [], .of_keeps rfl hstart (.refl _)⟩
  | none =>
    have hvalues : store.state.lanes.values = [record] := by
      rw [h.lanes]
      rfl
    unfold watches
    rw [hvalues]
    by_cases hwatched : record.watch_removed_at.isNone = true
    · rw [filter_cons, if_pos hwatched]
      exact Pass.reconcileLane_goes hstart hworks parseTime policy
    · rw [filter_cons, if_neg hwatched]
      exact ⟨record, [], .of_keeps rfl hstart (.refl _)⟩

/-- The consults of many passes are a course. -/
theorem passes_course (h : store.Watches [] lane_id record) {inputs : List PassInput}
    (hworks : ∀ input ∈ inputs, input.around.Works) :
    ∃ last, ((passes x parseTime policy).run store inputs).Watches [] lane_id last ∧
      Course x record ((passes x parseTime policy).outputs store inputs).flatten last := by
  induction inputs generalizing store record with
  | nil => exact ⟨record, h, .of_keeps (.refl _)⟩
  | cons input inputs ih =>
    obtain ⟨record', consults, hgoes⟩ := pollOnce_goes x parseTime policy h (hworks input mem_cons_self)
    obtain ⟨last, hlast, hcourse⟩ := ih hgoes.watches fun later hlater => hworks later (mem_cons_of_mem _ hlater)
    refine ⟨last, hlast, ?_⟩
    have hconsults : (pollOnce x parseTime policy input store).consults = consults := hgoes.appended
    rw [Machine.outputs_cons, flatten_cons]
    exact (hconsults ▸ hgoes.course).append hcourse

end

theorem OutagesAnnounced.of_told {last : LaneRecord} {consults : List Consult}
    (hlinked : consultTrail.Linked record consults last) (htold : ∀ consult ∈ consults, consult.Told)
    (hcleared : record.endpoint_alerted = false) : OutagesAnnounced consults last := by
  have hlawful : ∀ consult ∈ consults, outageAlarm.Lawful consult :=
    fun consult hconsult => (htold consult hconsult).lawful
  refine ⟨?_, fun consult hconsult => (htold consult hconsult).quiet, ?_, ?_⟩
  · rintro pre outage post rfl hne houtage hbefore -
    refine Trail.Alarm.once hlinked hlawful hcleared (fun consult hlast hbad => ?_) hne houtage
    exact Bool.false_ne_true ((hbefore consult hlast).symm.trans hbad)
  · rintro pre consult rfl observation hanswer
    have hquiet := (htold consult (by simp)).quiet observation hanswer
    exact hlinked.keeps_last.quiet hquiet
  · rintro pre earlier between later post rfl - hlater hstaged
    exact Trail.Alarm.number_lt hlinked hlawful hlater fun hnone => hstaged (eq_nil_of_length_eq_zero hnone)

/-- Where every answer fits, the passes over one lane announce its outages. -/
theorem outages_announced {x : Libraries} {parseTime : String → Option ℤ} {policy : PollingPolicy}
    {lane_id : String} {store : LaneStore} {record : LaneRecord}
    (h : store.Watches [] lane_id record) (hcleared : record.endpoint_alerted = false)
    {inputs : List PassInput} (hworks : ∀ input ∈ inputs, input.around.Works)
    (hfits : ∀ consult ∈ ((passes x parseTime policy).outputs store inputs).flatten, consult.Fits x) :
    ∃ last, ((passes x parseTime policy).run store inputs).Watches [] lane_id last ∧
      OutagesAnnounced ((passes x parseTime policy).outputs store inputs).flatten last := by
  obtain ⟨last, hlast, hcourse⟩ := passes_course x parseTime policy h hworks
  obtain ⟨hlinked, htold⟩ := hcourse hfits
  exact ⟨last, hlast, .of_told hlinked htold hcleared⟩

namespace Sample

/-- The session `s` was registered, and an observation of it was applied. -/
def observedStore : LaneStore :=
  let registered := (emptyStore.registerLane (failingAt []) laneId ⟨"s", none, none, none, none⟩
    "2026-08-23T12:00:00Z").1
  (registered.mutate (failingAt []) (laneId "s") 1 "2026-08-23T12:00:00Z"
    (applyObservation libraries (observed 1 .running .live) "2026-08-23T12:00:00Z")).1

/-- The time at some minutes after twelve, in nanoseconds. -/
def parseTime (text : String) : Option ℤ :=
  if text = "2026-08-23T12:00:00Z" then some 0
  else if text = "2026-08-23T12:10:00Z" then some 600000000000
  else if text = "2026-08-23T12:20:00Z" then some 1200000000000
  else none

/-- A pass that gets an answer, so many minutes after twelve. -/
def passWith (minutes : ℤ) (now : String) (answer : Answer) : PassInput :=
  ⟨now, minutes * 60000000000, failingAt [], fun _ => ⟨[], answer, [], none⟩⟩

/-- The endpoint is gone for one pass, and back in the next. The session has not moved. -/
def quietRecovery : List PassInput :=
  [passWith 10 "2026-08-23T12:10:00Z" (.error (.timeout "no answer")),
    passWith 20 "2026-08-23T12:20:00Z" (.ok (observed 1 .running .live))]

/-- The endpoint is there for one pass, and gone in the next. -/
def outage : List PassInput :=
  [passWith 10 "2026-08-23T12:10:00Z" (.ok (observed 1 .running .live)),
    passWith 20 "2026-08-23T12:20:00Z" (.error (.timeout "no answer"))]

/-- What the control plane answered to the passes. -/
def consultsOf (inputs : List PassInput) : List Consult :=
  ((passes libraries parseTime {}).outputs observedStore inputs).flatten

/-- The store watches the session `s` alone, and its endpoint is in order. -/
theorem observedStore_watches :
    ∃ record, observedStore.Watches [] (laneId "s") record ∧ record.endpoint_alerted = false := by
  have hlanes : observedStore.state.lanes.all fun lane =>
      lane.1 = laneId "s" && lane.2.lane_id = laneId "s" && validId lane.2.sdk_session_id &&
        decide (lane.2.endpoint_episode ≤ U64_MAX) && !lane.2.endpoint_alerted := by
    decide +kernel
  have hshape : observedStore.state.lanes.length = 1 ∧
      observedStore.state.canonicalLaneId (laneId "s") = laneId "s" := by decide +kernel
  obtain ⟨⟨lane_id, record⟩, hlane⟩ := length_eq_one_iff.mp hshape.1
  rw [hlane] at hlanes
  simp only [all_cons, all_nil, Bool.and_true, Bool.and_eq_true, decide_eq_true_eq, Bool.not_eq_true'] at hlanes
  obtain ⟨⟨⟨⟨rfl, hown⟩, hsession⟩, hbounded⟩, hcleared⟩ := hlanes
  exact ⟨record, ⟨hlane, hown, hshape.2, hsession, hbounded⟩, hcleared⟩

/-- An outage after a good answer is announced. -/
theorem outage_announced : ∃ last,
    ((passes libraries parseTime {}).run observedStore outage).Watches [] (laneId "s") last ∧
      OutagesAnnounced (consultsOf outage) last := by
  obtain ⟨record, hwatches, hcleared⟩ := observedStore_watches
  refine outages_announced hwatches hcleared (fun input hinput step => ?_) fun consult hconsult => ?_
  · simp only [outage, mem_cons, not_mem_nil, or_false] at hinput
    rcases hinput with rfl | rfl
    all_goals rfl
  · have hall : (consultsOf outage).all fun consult => match consult.answer with
        | .ok _ => !consult.before.endpoint_alerted && !consult.before.polling_suspended &&
          decide (consult.before.consecutive_unavailable_polls = 0) &&
            decide (consult.before.phase ≠ some .unavailable)
        | .error (.timeout _) => !consult.revalidation && consult.before.pending_alerts.isEmpty &&
          decide (consult.before.endpoint_episode < U64_MAX) &&
            decide (consult.before.revision < U64_MAX)
        | .error _ => false := by decide +kernel
    have hfits := List.all_eq_true.mp hall consult hconsult
    unfold Consult.Fits
    split at hfits
    · next hanswer =>
      rw [hanswer]
      simp only [Bool.and_eq_true, decide_eq_true_eq, Bool.not_eq_true'] at hfits
      exact .inl ⟨hfits.1.1.1, hfits.1.2, hfits.1.1.2, hfits.2⟩
    · next hanswer =>
      rw [hanswer]
      simp only [Bool.and_eq_true, decide_eq_true_eq, Bool.not_eq_true', List.isEmpty_iff] at hfits
      obtain ⟨⟨⟨hown, halerts⟩, hepisode⟩, hrevision⟩ := hfits
      refine .inr ⟨hown, ?_, ?_, hepisode, hrevision⟩
      · rw [halerts]
        decide
      · rw [halerts]
        exact fun alert halert => absurd halert not_mem_nil
    · exact absurd hfits Bool.false_ne_true

/-- After an answer with the known revision the lane is still in its outage. -/
theorem quiet_recovery_is_missed : ¬ ∃ last,
    ((passes libraries parseTime {}).run observedStore quietRecovery).Watches [] (laneId "s") last ∧
      OutagesAnnounced (consultsOf quietRecovery) last := by
  rintro ⟨last, -, hannounced⟩
  have hmissed : (consultsOf quietRecovery).any fun consult =>
      consult.answer.toOption.isSome && consult.after.endpoint_alerted := by decide +kernel
  obtain ⟨consult, hconsult, hboth⟩ := List.any_eq_true.mp hmissed
  obtain ⟨hok, halerted⟩ := (Bool.and_eq_true _ _).mp hboth
  obtain ⟨observation, hanswer⟩ := exists_of_toOption hok
  have hquiet := hannounced.recovered consult hconsult observation hanswer
  exact Bool.false_ne_true (hquiet.alerted.symm.trans halerted)

end Sample

end Clawhip.Gjc
