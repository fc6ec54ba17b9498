import Clawhip.Tmux.Evidence

/-!
# Failure categories

A lane whose launch failed carries the category of the failure, and a lane that is ready may show a
failed kickoff. Deliveries write the same fields: `categories_kept_iff` says which of them, and which
evidence updates, make a lane lose its category or show a kickoff as failed that was not.
-/

namespace Clawhip.Tmux

open List Option Machine

variable {α : Type} {codec : RegistryCodec α}

/-! ## Categories -/

/-- The launch of the lane failed, with a category of its failure. -/
structure LaneEvidence.Committed (lane : LaneEvidence) (category : BoundedCategory) : Prop where
  failed : lane.launch_state.Failed
  last_failure : lane.last_failure = some category
  valid : terminalCategoryIsValid lane.worker_effect_kind lane.launch_state (some category) = true

def failureCategories : List String :=
  ["session-create-failed", "submission-attempt-error", "submitted-marker-set-failed",
    "submitted-marker-read-failed", "submitted-marker-missing", "submitted-marker-mismatch",
    "identity-marker-set-failed", "identity-marker-read-failed", "identity-marker-mismatch",
    "r1-to-r2-persistence-failed-after-create", "owner-aborted-before-r2"]

variable {category : BoundedCategory} {kind : WorkerEffectKind} {state : LaneLaunchState}
  {lane mutated : LaneEvidence} {call : Call} {request : LaneRequest} {calls : List Call}

section

variable (h : terminalCategoryIsValid kind state (some category) = true)
include h

theorem mem_failureCategories : category.asStr ∈ failureCategories := by
  generalize hsome : some category = carried at h
  unfold terminalCategoryIsValid at h
  split at h <;> cases hsome
  · rw [beq_iff_eq.mp h]
    decide
  · have hmem : category.asStr ∈ (failureCategories.take 6).drop 1 := contains_iff_mem.mp h
    exact mem_of_mem_take (mem_of_mem_drop hmem)
  · have hmem : category.asStr ∈ failureCategories.drop 6 := contains_iff_mem.mp h
    exact mem_of_mem_drop hmem
  · cases h

/-- A category of a failure is short enough to be a reason. -/
theorem bounded_of_valid : bounded category.asStr = category.asStr := by
  have hall : ∀ text ∈ failureCategories, bounded text = text := by decide +kernel
  exact hall _ (mem_failureCategories h)

end

/-- The snapshots of a lane show the category of its failure. -/
theorem LaneEvidence.Committed.snapshot (h : lane.Committed category) (session : String)
    (runtime_live : Option Bool) : (laneSnapshot session lane runtime_live).exit_category = some category ∧
      (laneSnapshot session lane runtime_live).observation_reason = some ⟨category.asStr⟩ := by
  obtain ⟨hfailed, hlast, hvalid⟩ := h
  have hreason : BoundedReason.new category.asStr = ⟨category.asStr⟩ :=
    congrArg BoundedReason.mk (bounded_of_valid hvalid)
  unfold laneSnapshot derived
  cases hstate : lane.launch_state with
  | NoWorkerEffect | CommandSubmitAmbiguous | SessionCreationAmbiguous =>
    simp only [hlast, getD_some, hreason, and_self]
  | _ =>
    rw [hstate] at hfailed
    exact hfailed.elim

/-- The snapshots of a lane show its kickoff as failed, or as ambiguous. -/
def LaneEvidence.ShowsFailedKickoff (lane : LaneEvidence) (session : String) : Prop :=
  ∃ runtime_live, (laneSnapshot session lane runtime_live).derived_status = some "kickoff-failed" ∨
    (laneSnapshot session lane runtime_live).derived_status = some "kickoff-ambiguous"

theorem LaneEvidence.showsFailedKickoff_iff (hready : lane.launch_state = .Ready) (session : String) :
    lane.ShowsFailedKickoff session ↔ lane.last_failure ≠ none ∧
      (lane.delivery_disposition = some "ambiguous-acceptance" ∨
        lane.delivery_disposition = some "definitive-failure") := by
  unfold ShowsFailedKickoff laneSnapshot derived
  simp only [hready]
  cases lane.last_failure with
  | none => simp
  | some category =>
    by_cases hambiguous : lane.delivery_disposition = some "ambiguous-acceptance"
    · simp [hambiguous]
    · by_cases hfailure : lane.delivery_disposition = some "definitive-failure"
      · simp [hfailure]
      · simp [hambiguous, hfailure]

/-- A delivery that carries an error category failed, or is ambiguous. -/
theorem LaneDeliveryMutation.failed_of_error {input : LaneDeliveryMutation}
    (hvalid : input.valid = true) (herror : input.error_category ≠ none) :
    input.disposition = some "ambiguous-acceptance" ∨ input.disposition = some "definitive-failure" := by
  simp only [valid, validDelivery, Bool.and_eq_true] at hvalid
  have hok := hvalid.1.1.1.2
  obtain ⟨category, hcategory⟩ := ne_none_iff_exists'.mp herror
  unfold errorOk at hok
  cases hdisposition : input.disposition with
  | none =>
    rw [hdisposition] at hok
    cases hok
  | some disposition =>
    simp only [hdisposition, hcategory, Bool.or_eq_true, Bool.and_eq_true, beq_iff_eq] at hok
    rcases hok with ⟨rfl, -⟩ | ⟨rfl, -⟩
    · exact .inr rfl
    · exact .inl rfl

/-! ## One request -/

theorem LaneDeliveryMutation.delivered_report (input : LaneDeliveryMutation) (lane : LaneEvidence) :
    (input.delivered lane).last_failure = input.error_category ∧
      (input.delivered lane).delivery_disposition = input.disposition ∧
      (input.delivered lane).launch_state = lane.launch_state := by
  unfold delivered
  split_ifs
  · exact ⟨rfl, rfl, rfl⟩
  · exact ⟨rfl, rfl, rfl⟩

/-- A request that is recorded is a delivery, or an evidence update, or leaves the reports of a lane
alone; then it claims the lane if it moves its launch. -/
inductive Reports (lane mutated : LaneEvidence) : Call → Prop
  | delivery {seen : Registry} {input : LaneDeliveryMutation} {written : Except String Unit}
      (hvalid : input.valid = true) (hmutated : mutated = input.delivered lane) :
      Reports lane mutated (.recordDelivery seen input written)
  | evidence {seen : Registry} {input : LaneEvidenceMutation} {written : Except String Unit}
      (hmutated : mutated = { lane with
        launch_state := input.launch_state, last_failure := input.failure_category })
      (hcategory : terminalCategoryIsValid lane.worker_effect_kind input.launch_state
        input.failure_category = true)
      (htransition : launchTransition lane.launch_state input.launch_state = true) :
      Reports lane mutated (.updateEvidence seen input written)
  | other {call : Call} (hlast : mutated.last_failure = lane.last_failure)
      (hdisposition : mutated.delivery_disposition = lane.delivery_disposition)
      (hlaunch : mutated.launch_state = lane.launch_state ∨
        ¬ lane.launch_state.Failed ∧ mutated.launch_state = .Claimed) :
      Reports lane mutated call

/-- What a request that is recorded reports. -/
theorem Call.reports (h : call.request = some request) (hadmitted : request.admitted = true)
    (hmutate : request.mutate lane = .ok mutated) : Reports lane mutated call := by
  cases call with
  | recordVerification seen input written =>
    cases h
    simp only [LaneVerificationMutation.mutate] at hmutate
    split_ifs at hmutate
    cases hmutate
    exact .other rfl rfl (.inl rfl)
  | recordDelivery seen input written =>
    cases h
    exact .delivery hadmitted (input.mutate_ok hmutate).2
  | retire seen observed input written =>
    cases h
    simp only [LaneRetirementMutation.mutate] at hmutate
    split_ifs at hmutate
    · cases hmutate
      exact .other rfl rfl (.inl rfl)
    · cases hmutate
      exact .other rfl rfl (.inl rfl)
  | claim seen session generation_id executor_id expected_revision written =>
    cases h
    obtain ⟨-, -, ⟨-, hstate⟩, rfl⟩ := claimMutate_spec hmutate
    refine .other rfl rfl (.inr ⟨?_, rfl⟩)
    rcases hstate with hstate | hstate
    · rw [hstate]; exact id
    · rw [hstate]; exact id
  | updateEvidence seen input written =>
    cases h
    obtain ⟨rfl, hcategory, htransition⟩ := input.mutate_spec hmutate
    exact .evidence rfl hcategory htransition
  | updateWorkflow seen input written =>
    cases h
    simp only [LaneWorkflowMutation.mutate] at hmutate
    split_ifs at hmutate
    cases hmutate
    exact .other rfl rfl (.inl rfl)
  | _ => cases h

/-! ## Runs -/

variable (codec) in
/-- The kickoff of a session was recorded in the run, and it had failed. -/
def KickoffFailed (start : Daemon α) (session : String) (calls : List Call) : Prop :=
  ∃ early seen input written later request lane mutated, calls = early ++ .recordDelivery seen input written :: later ∧
      (Call.recordDelivery seen input written).request = some request ∧ input.session = session ∧
      request.Records ((daemonMachine codec).run start early).store.registry lane mutated ∧
      input.initial_kickoff = true ∧ input.error_category ≠ none

/-- In a run from a daemon that has just registered a lane, a failed launch keeps its category, and a
lane that is ready shows a failed kickoff only if its kickoff failed. -/
structure CategoriesKept (codec : RegistryCodec α) (start : Daemon α) (input : LaneRegistrationInput)
    (calls : List Call) : Prop where
  kept : ∀ pre mid post lane lane' category, calls = pre ++ mid ++ post →
    laneAfter codec start input.registration.session pre = some lane → lane.Committed category →
    laneAfter codec start input.registration.session (pre ++ mid) = some lane' →
      lane'.last_failure = some category ∧ ∀ runtime_live,
        (laneSnapshot input.registration.session lane' runtime_live).exit_category = some category ∧
          (laneSnapshot input.registration.session lane' runtime_live).observation_reason =
            some ⟨category.asStr⟩
  kickoff : ∀ pre post lane, calls = pre ++ post →
    laneAfter codec start input.registration.session pre = some lane → lane.launch_state = .Ready →
    lane.ShowsFailedKickoff input.registration.session →
      KickoffFailed codec start input.registration.session pre

/-- The call reports something else than the category of a failed launch. -/
def LaneEvidence.LosesCategory (lane : LaneEvidence) (call : Call) : Prop :=
  ∃ category, lane.Committed category ∧ match call with
    | .recordDelivery _ input _ => input.error_category ≠ some category
    | .updateEvidence _ input _ => input.failure_category ≠ some category
    | _ => False

/-- The call reports a failed update of a lane that is ready. -/
def LaneEvidence.FailsUpdate (lane : LaneEvidence) (call : Call) : Prop :=
  lane.launch_state = .Ready ∧ match call with
    | .recordDelivery _ input _ => input.initial_kickoff = false ∧ input.error_category ≠ none
    | _ => False

variable (codec) in
/-- The call is recorded of the lane of the session, and it loses the category of a failed launch, or
it is a failed update of a lane that is ready and whose kickoff did not fail. -/
def Spoils (start : Daemon α) (session : String) (calls : List Call) (call : Call) : Prop :=
  ∃ request lane mutated, call.request = some request ∧ request.session = session ∧
    request.Records ((daemonMachine codec).run start calls).store.registry lane mutated ∧
    (lane.LosesCategory call ∨ lane.FailsUpdate call ∧ ¬ KickoffFailed codec start session calls)

theorem KickoffFailed.append {start : Daemon α} {session : String}
    (h : KickoffFailed codec start session calls) (more : List Call) :
    KickoffFailed codec start session (calls ++ more) := by
  obtain ⟨early, seen, input, written, later, request, lane, mutated, rfl, hrest⟩ := h
  exact ⟨early, seen, input, written, later ++ more, request, lane, mutated, by simp, hrest⟩

/-- What happens to a committed failure in a call that does not spoil it. -/
theorem LaneEvidence.Committed.step (h : lane.Committed category) (hreports : Reports lane mutated call)
    (hgrows : lane.Grows mutated) (hkeeps : ¬ lane.LosesCategory call) : mutated.revised.Committed category := by
  have hlaunch : mutated.launch_state = lane.launch_state := by
    rcases hgrows.launch with hsame | hmove
    · exact hsame
    · exact absurd (.inr h.failed) hmove.not_final
  have hlast : mutated.last_failure = some category := by
    cases hreports with
    | delivery hvalid hmutated =>
      rename_i seen input written
      have herror : input.error_category = some category := by
        by_contra hother
        exact hkeeps ⟨category, h, hother⟩
      rw [hmutated, (input.delivered_report lane).1, herror]
    | evidence hmutated hcategory htransition =>
      rename_i seen input written
      have hcategory : input.failure_category = some category := by
        by_contra hother
        exact hkeeps ⟨category, h, hother⟩
      rw [hmutated, hcategory]
    | other hlast hdisposition hlaunch => rw [hlast, h.last_failure]
  have hfailed := h.failed
  have hvalid := h.valid
  rw [← hlaunch] at hfailed hvalid
  rw [← hgrows.identity.worker_effect_kind] at hvalid
  exact ⟨hfailed, hlast, hvalid⟩

variable {start : Daemon α} {session : String}

/-- A committed failure stays in a run in which no call spoils it. -/
theorem committed_of_unspoiled (hformed : start.store.registry.WellFormed) {pre mid : List Call}
    (hbetween : (daemonMachine codec).Along (fun daemon call => ¬ daemon.Registers session call) start
      (pre ++ mid)) (hunspoiled : ∀ early call later, pre ++ mid = early ++ call :: later →
      ¬ Spoils codec start session early call) {lane' : LaneEvidence}
    (hlane : laneAfter codec start session pre = some lane) (hcommitted : lane.Committed category)
    (hlane' : laneAfter codec start session (pre ++ mid) = some lane') : lane'.Committed category := by
  induction mid using reverseRecOn generalizing lane' with
  | nil =>
    rw [append_nil] at hlane'
    cases hlane.symm.trans hlane'
    exact hcommitted
  | append_singleton mid call ih =>
    rw [← append_assoc] at hbetween hlane' hunspoiled
    obtain ⟨hbefore, hcall⟩ := (along_concat ..).mp hbetween
    unfold laneAfter at hlane'
    rw [run_concat] at hlane'
    have hearlier (early : List Call) (c : Call) (later : List Call)
        (hsplit : pre ++ mid = early ++ c :: later) : ¬ Spoils codec start session early c :=
      hunspoiled early c (later ++ [call]) (by rw [hsplit]; simp)
    obtain ⟨before, hold, hnew⟩ := Daemon.step_grows (Daemon.run_wellFormed codec hformed _) hcall hlane'
    have hcommitted := ih hbefore hearlier hold
    rcases hnew with rfl | ⟨request, mutated, hrequest, hsession, hrecords, rfl⟩
    · exact hcommitted
    · refine hcommitted.step (Call.reports hrequest hrecords.admitted hrecords.mutate)
        (Call.grows hrequest hrecords.admitted hrecords.mutate) fun hloses => ?_
      exact hunspoiled (pre ++ mid) call [] rfl ⟨request, before, mutated, hrequest, hsession, hrecords, .inl hloses⟩

/-- A lane that is ready and shows a failed kickoff had one, in a run in which no call spoils it. -/
theorem kickoffFailed_of_unspoiled (hformed : start.store.registry.WellFormed)
    (hfresh : ∀ lane, start.store.registry.lane session = some lane → lane.last_failure = none)
    (hbetween : (daemonMachine codec).Along (fun daemon call => ¬ daemon.Registers session call) start
      calls) (hunspoiled : ∀ early call later, calls = early ++ call :: later →
      ¬ Spoils codec start session early call) (hlane : laneAfter codec start session calls = some lane)
    (hready : lane.launch_state = .Ready) (hlast : lane.last_failure ≠ none) :
    KickoffFailed codec start session calls := by
  induction calls using reverseRecOn generalizing lane with
  | nil => exact absurd (hfresh lane hlane) hlast
  | append_singleton calls call ih =>
    obtain ⟨hbefore, hcall⟩ := (along_concat ..).mp hbetween
    unfold laneAfter at hlane
    rw [run_concat] at hlane
    have hearlier (early : List Call) (c : Call) (later : List Call)
        (hsplit : calls = early ++ c :: later) : ¬ Spoils codec start session early c :=
      hunspoiled early c (later ++ [call]) (by rw [hsplit]; simp)
    obtain ⟨before, hold, hnew⟩ := Daemon.step_grows (Daemon.run_wellFormed codec hformed _) hcall hlane
    have ih {lane : LaneEvidence} (hlane : laneAfter codec start session calls = some lane)
        (hready : lane.launch_state = .Ready) (hlast : lane.last_failure ≠ none) :
        KickoffFailed codec start session (calls ++ [call]) :=
      (ih hbefore hearlier hlane hready hlast).append [call]
    rcases hnew with rfl | ⟨request, mutated, hrequest, hsession, hrecords, rfl⟩
    · exact ih hold hready hlast
    have hready : mutated.launch_state = .Ready := hready
    have hlast : mutated.last_failure ≠ none := hlast
    cases Call.reports hrequest hrecords.admitted hrecords.mutate with
    | delivery hvalid hmutated =>
      rename_i seen input written
      obtain ⟨herror, -, hlaunch⟩ := input.delivered_report before
      rw [hmutated] at hready hlast
      rw [herror] at hlast
      rw [hlaunch] at hready
      cases hinitial : input.initial_kickoff with
      | true =>
        cases hrequest
        exact ⟨calls, seen, input, written, [], _, before, mutated, rfl, rfl, hsession, hrecords, hinitial, hlast⟩
      | false =>
        by_contra hnot
        refine hunspoiled calls _ [] rfl ⟨request, before, mutated, hrequest, hsession, hrecords,
          .inr ⟨⟨hready, hinitial, hlast⟩, fun hfailed => hnot (hfailed.append _)⟩⟩
    | evidence hmutated hcategory htransition =>
      rename_i seen input written
      rw [hmutated] at hready hlast
      -- A lane that is ready carries no category of an evidence update.
      have hready : input.launch_state = .Ready := hready
      have hlast : input.failure_category ≠ none := hlast
      obtain ⟨category, hsome⟩ := ne_none_iff_exists'.mp hlast
      rw [hready, hsome] at hcategory
      cases hkind : before.worker_effect_kind <;> rw [hkind] at hcategory <;> cases hcategory
    | other hsame hdisposition hlaunch =>
      rcases hlaunch with hlaunch | ⟨-, hclaimed⟩
      · exact ih hold (hlaunch ▸ hready) (hsame ▸ hlast)
      · cases hclaimed.symm.trans hready

theorem laneAfter_of_records (hrequest : call.request = some request) (hsession : request.session = session)
    (hrecords : request.Records ((daemonMachine codec).run start calls).store.registry lane mutated) :
    laneAfter codec start session (calls ++ [call]) = some mutated.revised := by
  have hasks := ((daemonMachine codec).run start calls).step_asks codec hrequest
  have hstore := congrArg Prod.snd (hasks.admitted hrecords.admitted)
  obtain ⟨registration, -, hon⟩ := hrecords.on_eq codec
  rw [hon] at hstore
  have hregistry := congrArg Store.registry hstore
  unfold laneAfter
  rw [run_concat, daemonMachine_step]
  rw [show (((daemonMachine codec).run start calls).step codec call).1.store.registry = _ from hregistry, ← hsession]
  exact Registry.lane_insert_self

/-- A call that spoils the lane of a session leaves no run that keeps the categories. -/
theorem not_kept_of_spoils {input : LaneRegistrationInput} {pre : List Call} {post : List Call}
    (hspoils : Spoils codec start input.registration.session pre call) :
    ¬ CategoriesKept codec start input (pre ++ call :: post) := by
  intro hkept
  obtain ⟨request, lane, mutated, hrequest, hsession, hrecords, hspoils⟩ := hspoils
  have hlane : laneAfter codec start input.registration.session pre = some lane := hsession ▸ hrecords.held
  have hafter := laneAfter_of_records hrequest hsession hrecords
  rcases hspoils with ⟨category, hcommitted, hother⟩ | ⟨⟨hready, hfails⟩, hnot⟩
  · obtain ⟨hlast, -⟩ := hkept.kept pre [call] post lane _ category (by simp) hlane hcommitted hafter
    have hlast : mutated.last_failure = some category := hlast
    cases call with
    | recordDelivery seen delivery written =>
      cases hrequest
      rw [(delivery.mutate_ok hrecords.mutate).2, (delivery.delivered_report lane).1] at hlast
      exact hother hlast
    | updateEvidence seen evidence written =>
      cases hrequest
      rw [(evidence.mutate_spec hrecords.mutate).1] at hlast
      exact hother hlast
    | _ => exact hother
  · cases call with
    | recordDelivery seen delivery written =>
      cases hrequest
      obtain ⟨hinitial, herror⟩ := hfails
      obtain ⟨hlast, hdisposition, hlaunch⟩ := delivery.delivered_report lane
      rw [(delivery.mutate_ok hrecords.mutate).2] at hafter
      have hready : (delivery.delivered lane).revised.launch_state = .Ready := hlaunch.trans hready
      have hshows : (delivery.delivered lane).revised.ShowsFailedKickoff input.registration.session := by
        refine (LaneEvidence.showsFailedKickoff_iff hready _).mpr ⟨?_, ?_⟩
        · exact fun hnone => herror (hlast.symm.trans hnone)
        · have hfailed := delivery.failed_of_error hrecords.admitted herror
          rw [← hdisposition] at hfailed
          exact hfailed
      obtain ⟨early, seen', delivery', written', later, request', before, mutated', hsplit, hrequest',
        hsession', hrecords', hinitial', herror'⟩ :=
        hkept.kickoff (pre ++ [_]) post _ (by simp) hafter hready hshows
      rcases eq_nil_or_concat later with rfl | ⟨later, last, rfl⟩
      · cases (append_inj' hsplit rfl).2
        rw [hinitial] at hinitial'
        cases hinitial'
      · rw [concat_eq_append, ← cons_append, ← append_assoc] at hsplit
        exact hnot ⟨early, seen', delivery', written', later, request', before, mutated',
          (append_inj' hsplit rfl).1, hrequest', hsession', hrecords', hinitial', herror'⟩
    | _ => exact hfails

/-- Failed launches keep their categories, and lanes that are ready show only failed kickoffs that they
had, exactly in the runs in which no delivery and no evidence update spoils them. -/
theorem categories_kept_iff (file : Option α) (before : List Call) {input : LaneRegistrationInput}
    {first : Call}
    (hfirst : ((daemonMachine codec).run (Daemon.start codec file) before).RegistersLane input first)
    {calls : List Call} (hbetween : (daemonMachine codec).Along
      (fun daemon call => ¬ daemon.Registers input.registration.session call)
      ((daemonMachine codec).run (Daemon.start codec file) (before ++ [first])) calls) :
    CategoriesKept codec ((daemonMachine codec).run (Daemon.start codec file) (before ++ [first])) input
        calls ↔ ∀ pre call post, calls = pre ++ call :: post →
        ¬ Spoils codec ((daemonMachine codec).run (Daemon.start codec file) (before ++ [first]))
          input.registration.session pre call := by
  have hformed := Daemon.run_wellFormed codec (Daemon.start_wellFormed codec file) (before ++ [first])
  have hfresh : ((daemonMachine codec).run (Daemon.start codec file)
      (before ++ [first])).store.registry.lane input.registration.session = some input.lane := by
    rw [run_concat]
    exact hfirst.lane
  generalize (daemonMachine codec).run (Daemon.start codec file) (before ++ [first]) = start at *
  constructor
  · rintro hkept pre call post rfl hspoils
    exact not_kept_of_spoils hspoils hkept
  · intro hunspoiled
    refine ⟨?_, ?_⟩
    · rintro pre mid post lane lane' category rfl hlane hcommitted hlane'
      rw [along_append] at hbetween
      have hstays := committed_of_unspoiled hformed hbetween.1 (fun early call later hsplit =>
        hunspoiled early call (later ++ post) (by rw [hsplit]; simp)) hlane hcommitted hlane'
      exact ⟨hstays.last_failure, hstays.snapshot _⟩
    · rintro pre post lane rfl hlane hready hshows
      rw [along_append] at hbetween
      have hlast := ((LaneEvidence.showsFailedKickoff_iff hready _).mp hshows).1
      refine kickoffFailed_of_unspoiled hformed (fun lane hlane => ?_) hbetween.1
        (fun early call later hsplit => hunspoiled early call (later ++ post) (by rw [hsplit]; simp)) hlane
        hready hlast
      cases hfresh.symm.trans hlane
      rfl

namespace Sample

/-- A launch that had no effect. -/
def failedLaunch : LaneEvidenceMutation where
  session := "issue-7"
  expected_revision := 1
  generation_id := "gen-1"
  launch_operation_id := "launch-1"
  launch_state := .NoWorkerEffect
  failure_category := some ⟨"session-create-failed"⟩
  executor_id := "executor-1"
  worker_effect_kind := .CommandSubmission

def failingLaunch : List Call := [claimCall "executor-1", .updateEvidence lanes failedLaunch (.ok ())]

/-- A daemon that has just registered a lane. -/
def registered : Daemon (OrdMap String StoredRegistryValue) :=
  (daemonMachine plainCodec).run (Daemon.start plainCodec none)
    ([.mint] ++ [.registerLane 0 laneInput id (.ok ())])

/-- A launch that fails keeps its category. -/
theorem failing_launch_kept : CategoriesKept plainCodec registered laneInput failingLaunch := by
  have hbetween : (daemonMachine plainCodec).Along
      (fun daemon call => ¬ daemon.Registers laneInput.registration.session call) registered
      failingLaunch := by
    refine ⟨claim_not_registers, ?_, trivial⟩
    rintro ⟨_, _, _, _, _, h, -⟩
    cases h
  refine (categories_kept_iff none [.mint] ⟨0, id, 1, rfl, by decide, by decide +kernel⟩ hbetween).mpr ?_
  rintro pre call post hsplit ⟨request, lane, mutated, hrequest, -, hrecords, hspoils⟩
  rcases pre with _ | ⟨_, _ | ⟨_, pre⟩⟩
  · cases hsplit
    rcases hspoils with ⟨_, _, h⟩ | ⟨⟨_, h⟩, _⟩
    · exact h
    · exact h
  · cases hsplit
    cases hrequest
    have hclaimed : (((daemonMachine plainCodec).run registered
        [claimCall "executor-1"]).store.registry.lane "issue-7").map LaneEvidence.launch_state =
        some .Claimed := by decide +kernel
    have hstate : lane.launch_state = .Claimed :=
      some.inj ((congrArg (Option.map LaneEvidence.launch_state) hrecords.held).symm.trans hclaimed)
    rcases hspoils with ⟨_, hcommitted, _⟩ | ⟨⟨_, h⟩, _⟩
    · have hfailed := hcommitted.failed
      rw [hstate] at hfailed
      exact hfailed
    · exact h
  · simp [failingLaunch] at hsplit

/-- The delivery of an update, after a launch has failed. -/
def lateUpdate : LaneDeliveryMutation := { handoff .AwaitingHuman with expected_revision := 2, kind := some "progress" }

/-- An update that is delivered after a launch has failed takes the category away. -/
theorem update_loses_category : ¬ CategoriesKept plainCodec registered laneInput
    (failingLaunch ++ [.recordDelivery lanes lateUpdate (.ok ())]) := by
  intro h
  have hlane : laneAfter plainCodec registered "issue-7" failingLaunch =
      some { laneInput.lane with
        launch_state := .NoWorkerEffect, revision := 2
        last_failure := some ⟨"session-create-failed"⟩ } := by decide +kernel
  have hlane' : laneAfter plainCodec registered "issue-7"
      (failingLaunch ++ [.recordDelivery lanes lateUpdate (.ok ())]) =
      some (lateUpdate.delivered { laneInput.lane with
        launch_state := .NoWorkerEffect, revision := 3
        last_failure := some ⟨"session-create-failed"⟩ }) := by decide +kernel
  have hcommitted : LaneEvidence.Committed { laneInput.lane with
      launch_state := .NoWorkerEffect, revision := 2
      last_failure := some ⟨"session-create-failed"⟩ } ⟨"session-create-failed"⟩ :=
    ⟨trivial, rfl, by decide⟩
  obtain ⟨hlast, -⟩ := h.kept failingLaunch [_] [] _ _ _ rfl hlane hcommitted hlane'
  cases hlast

end Sample

end Clawhip.Tmux
