import Clawhip.Gjc.Tombstones

/-!
# Evidence

A lane's record says whether the evidence of a review and of an owner still holds, and counts in
`evidence_revision` how often evidence was lost. `evidence_visible_iff` says when a loss shows in the
count: always, but for the rotation of an endpoint, which clears the flags and does not count.
-/

namespace Clawhip.Gjc

open Option OrdMap

/-! ## Records -/

/-- Evidence that is lost shows in the count. -/
structure LaneRecord.ShowsLoss (record record' : LaneRecord) : Prop where
  review : record.review_evidence_valid = true → record'.review_evidence_valid = false →
    record.evidence_revision < record'.evidence_revision
  owner : record.owner_evidence_valid = true → record'.owner_evidence_valid = false →
    record.evidence_revision < record'.evidence_revision

/-- The count does not go down, and evidence that was lost stays so. -/
structure LaneRecord.RegainsNothing (record record' : LaneRecord) : Prop where
  revision : record.evidence_revision ≤ record'.evidence_revision
  review : record.review_evidence_valid = false → record'.review_evidence_valid = false
  owner : record.owner_evidence_valid = false → record'.owner_evidence_valid = false

/-- What an update that is no rotation and no new start does to the evidence: nothing, or it invalidates
it and counts that once. -/
inductive LaneRecord.CountsLoss (record record' : LaneRecord) : Prop where
  | keeps (revision : record'.evidence_revision = record.evidence_revision)
      (review : record'.review_evidence_valid = record.review_evidence_valid)
      (owner : record'.owner_evidence_valid = record.owner_evidence_valid)
  | loses (revision : record'.evidence_revision = record.evidence_revision + 1)
      (review : record'.review_evidence_valid = false)
      (owner : record'.owner_evidence_valid = false)

namespace LaneRecord

variable {record record' : LaneRecord}

section

variable (h : record.CountsLoss record')
include h

theorem CountsLoss.showsLoss : record.ShowsLoss record' := by
  cases h with
  | keeps revision review owner =>
    refine ⟨fun hvalid hlost => ?_, fun hvalid hlost => ?_⟩
    · rw [review, hvalid] at hlost
      cases hlost
    · rw [owner, hvalid] at hlost
      cases hlost
  | loses revision review owner =>
    rw [Nat.add_one] at revision
    exact ⟨fun _ _ => revision ▸ Nat.lt_succ_self _, fun _ _ => revision ▸ Nat.lt_succ_self _⟩

theorem CountsLoss.regainsNothing : record.RegainsNothing record' := by
  cases h with
  | keeps revision review owner => exact ⟨revision.ge, fun hlost => review.trans hlost, fun hlost => owner.trans hlost⟩
  | loses revision review owner => exact ⟨by rw [revision]; exact Nat.le_succ _, fun _ => review, fun _ => owner⟩

theorem CountsLoss.revision_le : record'.evidence_revision ≤ record.evidence_revision + 1 := by
  cases h with
  | keeps revision => exact revision.le.trans (Nat.le_succ _)
  | loses revision => exact revision.le

end

/-- Evidence that is cleared, and counted if there was some. -/
theorem CountsLoss.of_cleared (review : record'.review_evidence_valid = false)
    (owner : record'.owner_evidence_valid = false) (revision : record'.evidence_revision = record.evidence_revision +
      if record.review_evidence_valid || record.owner_evidence_valid then 1 else 0) : record.CountsLoss record' := by
  cases hvalid : record.review_evidence_valid || record.owner_evidence_valid with
  | true =>
    rw [hvalid] at revision
    exact .loses revision review owner
  | false =>
    obtain ⟨hreview, howner⟩ := Bool.or_eq_false_iff.mp hvalid
    rw [hvalid] at revision
    exact .keeps revision (review.trans hreview.symm) (owner.trans howner.symm)

end LaneRecord

/-! ## Operations -/

section Operations

variable {x : Libraries} {now : String} {record record' : LaneRecord}
  {audit : List (AuditKind × String)}

theorem applyObservation_countsLoss {observation : Observation} {answer : ApplyOutcome}
    (h : applyObservation x observation now record = .ok (record', audit, answer)) :
    record.CountsLoss record' ∧ record'.revision = record.revision := by
  obtain ⟨_, -, h⟩ := bind_eq_ok.mp h
  obtain ⟨last_gate, -, h⟩ := bind_eq_ok.mp h
  obtain ⟨staged, hstaged, h⟩ := bind_eq_ok.mp h
  obtain rfl : staged = record' := congrArg Prod.fst (Except.ok.inj h)
  have hsame : (observation.sanitizeSelection.evidence record last_gate now).OnlyAlerts staged :=
    Observation.stageAlerts_ok hstaged
  rw [hsame]
  unfold Observation.evidence
  cases hinvalidates : observation.sanitizeSelection.invalidates record with
  | false => exact ⟨.keeps rfl (Bool.and_true _) (Bool.and_true _), rfl⟩
  | true => exact ⟨.loses rfl (Bool.and_false _) (Bool.and_false _), rfl⟩

theorem reconcilePrBinding_countsLoss {resolved : Option PrState} {answer : Bool}
    (h : reconcilePrBinding resolved now record = .ok (record', audit, answer)) :
    record.CountsLoss record' ∧ record'.revision = record.revision := by
  unfold reconcilePrBinding at h
  split at h
  · cases h
  · split at h
    · by_cases hvalid : (record.review_evidence_valid || record.owner_evidence_valid) = true
      · rw [if_pos hvalid] at h
        cases h
        exact ⟨.of_cleared rfl rfl rfl, rfl⟩
      · rw [if_neg hvalid] at h
        cases h
        exact ⟨.keeps rfl rfl rfl, rfl⟩
    · rename_i binding _ _ state
      by_cases hsame : (!decide (Text.toAsciiLowercase state.head_sha ≠ binding.head_sha) &&
          !decide (state.base_branch ≠ binding.base_branch)) = true
      · rw [if_pos hsame] at h
        cases h
        exact ⟨.keeps rfl rfl rfl, rfl⟩
      · rw [if_neg hsame] at h
        cases h
        exact ⟨.of_cleared rfl rfl rfl, rfl⟩

/-- An operation that neither rotates the endpoint nor claims a tombstone back counts what it
invalidates. -/
theorem LaneOp.countsLoss {op : LaneOp} (h : op.closure x now record = .ok (record', audit, ()))
    (hrotates : ∀ endpoint_generation, op ≠ .noteEndpointRotation endpoint_generation)
    (hreclaims : ∀ endpoint_generation worktree, op ≠ .reclaimTombstone endpoint_generation worktree) :
    record.CountsLoss record' ∧ record'.revision = record.revision := by
  cases op with
  | applyObservation observation =>
    obtain ⟨answer, h⟩ := Closure.forget_ok h
    exact applyObservation_countsLoss h
  | stageBridgeFailure failure =>
    obtain ⟨answer, h⟩ := Closure.forget_ok h
    obtain ⟨session_id, turn_id, revision, -, -, -, happlied⟩ := stageBridgeFailure_ok h
    exact applyObservation_countsLoss happlied
  | markUnavailable reason suspend_after =>
    obtain ⟨answer, h⟩ := Closure.forget_ok h
    obtain ⟨applied, happlied, h⟩ := bind_eq_ok.mp h
    obtain ⟨heq, -⟩ := alertOutage_ok happlied
    cases h
    rw [heq]
    exact ⟨.keeps rfl rfl rfl, rfl⟩
  | enqueueEndpointFailure reason =>
    obtain ⟨applied, happlied, h⟩ := bind_eq_ok.mp h
    obtain ⟨heq, -⟩ := alertOutage_ok happlied
    cases h
    rw [heq]
    exact ⟨.keeps rfl rfl rfl, rfl⟩
  | markRuntimeGone evidence =>
    change Gjc.markRuntimeGone evidence now record = _ at h
    unfold Gjc.markRuntimeGone multiAudit at h
    split_ifs at h
    cases h
    exact ⟨.loses rfl rfl rfl, rfl⟩
  | removeGhostWatch reason =>
    change Gjc.removeGhostWatch reason now record = _ at h
    unfold Gjc.removeGhostWatch multiAudit at h
    cases hterminal : record.terminal_disposition with
    | none =>
      rw [hterminal] at h
      split_ifs at h
    | some disposition =>
      rw [hterminal] at h
      split_ifs at h
      cases h
      exact ⟨.keeps rfl rfl rfl, rfl⟩
  | reclaimTombstone endpoint_generation worktree => exact absurd rfl (hreclaims endpoint_generation worktree)
  | retireLane reason =>
    cases h
    unfold LaneRecord.retired
    split_ifs
    all_goals exact ⟨.keeps rfl rfl rfl, rfl⟩
  | noteEndpointRotation endpoint_generation => exact absurd rfl (hrotates endpoint_generation)
  | setSdkRevisionIf expected_sdk_revision new_sdk_revision =>
    change Gjc.setSdkRevisionIf expected_sdk_revision new_sdk_revision record = _ at h
    unfold Gjc.setSdkRevisionIf multiAudit at h
    split_ifs at h
    cases h
    exact ⟨.keeps rfl rfl rfl, rfl⟩
  | resumeSuspended =>
    cases h
    exact ⟨.keeps rfl rfl rfl, rfl⟩
  | claimOwnership owner_id =>
    change Gjc.claimOwnership owner_id now record = _ at h
    unfold Gjc.claimOwnership multiAudit at h
    split_ifs at h
    cases h
    exact ⟨.keeps rfl rfl rfl, rfl⟩
  | reconcilePrBinding resolved =>
    obtain ⟨answer, h⟩ := Closure.forget_ok h
    exact reconcilePrBinding_countsLoss h
  | notePendingAlertAttempt event_id =>
    change Gjc.notePendingAlertAttempt event_id record = _ at h
    unfold Gjc.notePendingAlertAttempt multiAudit at h
    split_ifs at h
    cases h
    exact ⟨.keeps rfl rfl rfl, rfl⟩
  | suppressHistoricalFailureAlert alert current =>
    change Gjc.suppressHistoricalFailureAlert alert current record = _ at h
    unfold Gjc.suppressHistoricalFailureAlert multiAudit at h
    dsimp only at h
    split_ifs at h
    all_goals
      cases h
      exact ⟨.keeps rfl rfl rfl, rfl⟩

variable {endpoint_generation : ℕ} {answer : Unit}

/-- A rotation regains nothing; it shows what it loses only where it loses nothing. -/
theorem noteEndpointRotation_evidence
    (h : noteEndpointRotation endpoint_generation record = .ok (record', audit, answer)) :
    record.RegainsNothing record' ∧ record'.revision = record.revision ∧
      record'.evidence_revision = record.evidence_revision ∧
      (record.ShowsLoss record' ↔ ¬ (endpoint_generation ≠ record.endpoint_generation ∧
        (record.review_evidence_valid = true ∨ record.owner_evidence_valid = true))) := by
  unfold noteEndpointRotation multiAudit at h
  split_ifs at h with hsame
  · cases h
    refine ⟨⟨le_rfl, id, id⟩, rfl, rfl, fun _ hrotated => hrotated.1 hsame, fun _ => ?_⟩
    exact LaneRecord.CountsLoss.showsLoss (.keeps rfl rfl rfl)
  · cases h
    refine ⟨⟨le_rfl, fun _ => rfl, fun _ => rfl⟩, rfl, rfl, fun hshows hrotated => ?_, fun hnone => ?_⟩
    · rcases hrotated.2 with hreview | howner
      · exact absurd (hshows.review hreview rfl) (lt_irrefl _)
      · exact absurd (hshows.owner howner rfl) (lt_irrefl _)
    · refine ⟨fun hvalid _ => ?_, fun hvalid _ => ?_⟩
      · exact absurd ⟨hsame, .inl hvalid⟩ hnone
      · exact absurd ⟨hsame, .inr hvalid⟩ hnone

/-- A tombstone that is claimed back starts with evidence that holds. -/
theorem reclaimTombstone_evidence {worktree : Option String}
    (h : reclaimTombstone endpoint_generation worktree record = .ok (record', audit, answer)) :
    record.ShowsLoss record' ∧ record'.revision = record.revision ∧ record'.evidence_revision = 0 := by
  unfold reclaimTombstone multiAudit at h
  split_ifs at h
  cases h
  exact ⟨⟨nofun, nofun⟩, rfl, rfl⟩

end Operations

/-! ## Steps -/

/-- A call claims back the tombstone of a lane. -/
def LaneStore.Reclaims (store : LaneStore) (input : OpInput) (lane_id : String) : Prop :=
  ∃ named endpoint_generation worktree, input.op = .onLane named (.reclaimTombstone endpoint_generation worktree) ∧
      store.state.canonicalLaneId named = lane_id

/-- A call shows the loss of evidence in the count of the lane, and regains no evidence of a lane
that it does not claim back. -/
def EvidenceVisible (x : Libraries) (gjc_lane_id : String → String) (store : LaneStore)
    (input : OpInput) : Prop :=
  ∀ lane_id record record', store.state.lanes.get lane_id = some record →
    (store.operate x gjc_lane_id input).state.lanes.get lane_id = some record' → record.ShowsLoss record' ∧
      (¬ store.Reclaims input lane_id → record.RegainsNothing record')

/-- A call tells a lane of another endpoint while some of its evidence still holds. -/
def RotatesValid (store : LaneStore) (input : OpInput) : Prop :=
  ∃ named endpoint_generation record, input.op = .onLane named (.noteEndpointRotation endpoint_generation) ∧
      store.state.record named = some record ∧ record.revision < U64_MAX ∧
      endpoint_generation ≠ record.endpoint_generation ∧
      (record.review_evidence_valid = true ∨ record.owner_evidence_valid = true)

section Steps

variable {x : Libraries} {gjc_lane_id : String → String} {store : LaneStore} {input : OpInput} {now : String}

/-- Counting up the revision changes nothing about the evidence. -/
theorem LaneRecord.bumped_evidence {record updated : LaneRecord}
    (h : record.bumped now = .ok updated) : record.revision < U64_MAX ∧ updated.revision = record.revision + 1 ∧
      updated.evidence_revision = record.evidence_revision ∧
      updated.review_evidence_valid = record.review_evidence_valid ∧
      updated.owner_evidence_valid = record.owner_evidence_valid := by
  unfold bumped at h
  split_ifs at h with hlt
  cases h
  exact ⟨hlt, rfl, rfl, rfl, rfl⟩

/-- What an operation does to the evidence of the lane that it is about. -/
structure Makes.Evidence (store : LaneStore) (input : OpInput) (lane_id : String)
    (record applied : LaneRecord) : Prop where
  shows : record.revision < U64_MAX → (record.ShowsLoss applied ↔ ¬ RotatesValid store input)
  regains : ¬ store.Reclaims input lane_id → record.RegainsNothing applied
  counted : applied.evidence_revision ≤ record.evidence_revision + 1
  revision : applied.revision = record.revision

theorem Makes.evidence {lane_id : String} {record applied : LaneRecord} {op : StoreOp}
    (around : Surroundings) (h : Makes x now store lane_id record applied op)
    (hget : store.state.lanes.get lane_id = some record) :
    Makes.Evidence store ⟨op, now, around⟩ lane_id record applied := by
  have hcounts (h : record.CountsLoss applied) (hrevision : applied.revision = record.revision)
      (hrotates : ¬ RotatesValid store ⟨op, now, around⟩) :
      Makes.Evidence store ⟨op, now, around⟩ lane_id record applied :=
    ⟨fun _ => iff_of_true h.showsLoss hrotates, fun _ => h.regainsNothing, h.revision_le, hrevision⟩
  cases h with
  | acknowledge happlied | deliver happlied =>
    rw [happlied] at hcounts ⊢
    exact hcounts (.keeps rfl rfl rfl) rfl (by rintro ⟨_, _, _, hop, -⟩; cases hop)
  | @closure named op audit hnamed happly =>
    have hrecord : store.state.record named = some record := by
      unfold StateFile.record
      rw [hnamed, hget]
    cases op with
    | noteEndpointRotation endpoint_generation =>
      obtain ⟨hregains, hrevision, hevidence, hshows⟩ := noteEndpointRotation_evidence happly
      refine ⟨fun hlt => hshows.trans (not_congr ⟨fun hrotates => ?_, ?_⟩), fun _ => hregains,
        hevidence.le.trans (Nat.le_succ _), hrevision⟩
      · exact ⟨named, endpoint_generation, record, rfl, hrecord, hlt, hrotates⟩
      · rintro ⟨_, _, found, hop, hfound, -, hrotates⟩
        cases hop
        rw [hrecord] at hfound
        cases hfound
        exact hrotates
    | reclaimTombstone endpoint_generation worktree =>
      obtain ⟨hshows, hrevision, hzero⟩ := reclaimTombstone_evidence happly
      refine ⟨fun _ => iff_of_true hshows ?_, fun hnot => ?_, hzero.le.trans (Nat.zero_le _), hrevision⟩
      · rintro ⟨_, _, _, hop, -⟩
        cases hop
      · exact absurd ⟨named, endpoint_generation, worktree, rfl, hnamed⟩ hnot
    | _ =>
      obtain ⟨hcountsLoss, hrevision⟩ := LaneOp.countsLoss happly nofun nofun
      refine hcounts hcountsLoss hrevision ?_
      rintro ⟨_, _, _, hop, -⟩
      cases hop

/-- A rotation that is told of is written. -/
theorem operate_rotates (x : Libraries) (gjc_lane_id : String → String) {named : String}
    (endpoint_generation : ℕ) {record : LaneRecord} (now : String) (around : Surroundings)
    (hrecord : store.state.record named = some record) (hrevision : record.revision < U64_MAX) :
    ∃ applied audit updated, noteEndpointRotation endpoint_generation record =
        .ok (applied, audit, ()) ∧ applied.bumped now = .ok updated ∧ (store.operate x gjc_lane_id
        ⟨.onLane named (.noteEndpointRotation endpoint_generation), now, around⟩).state.lanes =
          store.state.lanes.insert (store.state.canonicalLaneId named) updated := by
  obtain ⟨applied, audit, happlied⟩ := noteEndpointRotation_isOk endpoint_generation record
  have hsame := (noteEndpointRotation_spec happlied).1.revision
  have hupdated : applied.bumped now = .ok { applied with revision := applied.revision + 1, updated_at := now } := by
    unfold LaneRecord.bumped
    rw [if_pos (by rw [hsame]; exact hrevision)]
  refine ⟨applied, audit, _, happlied, hupdated, ?_⟩
  have hat : store.state.recordAt named (store.currentRevision named) = .ok record := by
    have hget : store.state.lanes.get (store.state.canonicalLaneId named) = some record := hrecord
    unfold StateFile.recordAt LaneStore.currentRevision
    rw [hget, hrecord]
    exact if_pos rfl
  show (store.mutate around named (store.currentRevision named) now
    (noteEndpointRotation endpoint_generation)).1.state.lanes = _
  have hchange : mutateChange store.state named (store.currentRevision named) now
      (noteEndpointRotation endpoint_generation) =
        .ok (.write ((store.state.pushAll (store.state.canonicalLaneId named) now audit).withRecord
          (store.state.canonicalLaneId named) { applied with revision := applied.revision + 1, updated_at := now })
          ({ applied with revision := applied.revision + 1, updated_at := now }, ())) := by
    refine bind_eq_ok.mpr ⟨record, hat, bind_eq_ok.mpr ⟨(applied, audit, ()), ?_, bind_eq_ok.mpr ⟨_, hupdated, rfl⟩⟩⟩
    rw [happlied]
    rfl
  unfold LaneStore.mutate
  rw [hchange, LaneStore.commit_lanes]
  unfold StateFile.withRecord
  rw [(StateFile.pushAll_lanes ..).1]

/-- A call keeps evidence visible if and only if it is no rotation of a lane with evidence. -/
theorem evidenceVisible_iff : EvidenceVisible x gjc_lane_id store input ↔ ¬ RotatesValid store input := by
  constructor
  · rintro hvisible ⟨named, endpoint_generation, record, hop, hrecord, hrevision, hother, hvalid⟩
    obtain ⟨op, now, around⟩ := input
    obtain rfl : op = .onLane named (.noteEndpointRotation endpoint_generation) := hop
    obtain ⟨applied, audit, updated, happlied, hupdated, hlanes⟩ := operate_rotates x
      gjc_lane_id endpoint_generation now around hrecord hrevision
    obtain ⟨-, -, hkept, hreview, howner⟩ := LaneRecord.bumped_evidence hupdated
    obtain ⟨hshows, -⟩ := hvisible (store.state.canonicalLaneId named) record updated hrecord
      (by rw [hlanes, get_insert_self])
    refine (noteEndpointRotation_evidence happlied).2.2.2.mp ⟨?_, ?_⟩ ⟨hother, hvalid⟩
    · rw [← hreview, ← hkept]
      exact hshows.review
    · rw [← howner, ← hkept]
      exact hshows.owner
  · intro hrotates lane_id record record' hget hget'
    have hunchanged (hsame : record' = record) : record.ShowsLoss record' ∧
        (¬ store.Reclaims input lane_id → record.RegainsNothing record') := by
      have hkept : record.CountsLoss record' := by
        rw [hsame]
        exact .keeps rfl rfl rfl
      exact ⟨hkept.showsLoss, fun _ => hkept.regainsNothing⟩
    cases store.operate_cases x gjc_lane_id input with
    | nothing lanes =>
      rw [lanes, hget] at hget'
      exact hunchanged (some.inj hget').symm
    | registers request hop fresh lanes =>
      rw [lanes, get_insert_ne, hget] at hget'
      · exact hunchanged (some.inj hget').symm
      · rintro rfl
        rw [fresh] at hget
        cases hget
    | @updates changed before applied updated clock hbefore makes hupdated lanes =>
      rw [lanes] at hget'
      by_cases hlane : lane_id = changed
      · subst hlane
        rw [hget] at hbefore
        cases hbefore
        rw [get_insert_self] at hget'
        obtain rfl := some.inj hget'
        obtain ⟨hlt, -, hkept, hreview, howner⟩ := LaneRecord.bumped_evidence hupdated
        have hevidence := makes.evidence input.around hget
        have hshows := (hevidence.shows (hevidence.revision ▸ hlt)).mpr hrotates
        refine ⟨⟨?_, ?_⟩, fun hreclaims => ⟨?_, ?_, ?_⟩⟩
        · rw [hreview, hkept]
          exact hshows.review
        · rw [howner, hkept]
          exact hshows.owner
        · rw [hkept]
          exact (hevidence.regains hreclaims).revision
        · rw [hreview]
          exact (hevidence.regains hreclaims).review
        · rw [howner]
          exact (hevidence.regains hreclaims).owner
      · rw [get_insert_ne _ _ hlane, hget] at hget'
        exact hunchanged (some.inj hget').symm

/-- The counts of every lane are in bounds: it lost its evidence no more often than it was updated. -/
def LaneStore.Counted (store : LaneStore) : Prop :=
  ∀ lane ∈ store.state.lanes, lane.2.evidence_revision ≤ lane.2.revision ∧ lane.2.revision ≤ U64_MAX

/-- A call keeps the counts in bounds. -/
theorem operate_counted (h : store.Counted) : (store.operate x gjc_lane_id input).Counted := by
  cases store.operate_cases x gjc_lane_id input with
  | nothing lanes =>
    unfold LaneStore.Counted
    rw [lanes]
    exact h
  | registers request hop fresh lanes =>
    intro lane hlane
    rw [lanes] at hlane
    rcases mem_insert hlane with rfl | hlane
    · exact ⟨le_rfl, show 1 ≤ U64_MAX by decide⟩
    · exact h lane hlane
  | @updates lane_id record applied updated clock hget makes hupdated lanes =>
    intro lane hlane
    rw [lanes] at hlane
    rcases mem_insert hlane with rfl | hlane
    · obtain ⟨hlt, hrevision, hkept, -⟩ := LaneRecord.bumped_evidence hupdated
      have hevidence := makes.evidence input.around hget
      obtain ⟨hle, -⟩ := h _ (mem_of_get hget)
      rw [hkept, hrevision]
      refine ⟨hevidence.counted.trans (Nat.succ_le_succ ?_), hlt⟩
      rw [hevidence.revision]
      exact hle
    · exact h lane hlane

end Steps

/-! ## Runs -/

/-- Along a run of operations, every call keeps evidence visible if and only if no call tells a lane of
another endpoint while some of its evidence holds; the counts stay in bounds. -/
theorem evidence_visible_iff (x : Libraries) (gjc_lane_id : String → String) (store : LaneStore)
    (hcounted : store.Counted) (inputs : List OpInput) :
    ((operations x gjc_lane_id).Along (EvidenceVisible x gjc_lane_id) store inputs ↔
        (operations x gjc_lane_id).Along (fun store input => ¬ RotatesValid store input) store inputs) ∧
      ((operations x gjc_lane_id).run store inputs).Counted := by
  refine ⟨⟨fun h => h.mono _ fun _ _ => evidenceVisible_iff.mp, fun h => h.mono _ fun _ _ =>
    evidenceVisible_iff.mpr⟩, ?_⟩
  exact (operations x gjc_lane_id).run_invariant' LaneStore.Counted
    (fun store input hcounted => operate_counted hcounted) hcounted inputs

namespace Sample

/-- The session `s` is registered, and an observation of another endpoint loses its evidence. -/
def observedElsewhere : List OpInput :=
  [call (.registerLane ⟨"s", none, none, none, none⟩),
    onLane (.applyObservation { observed 1 .running .live with endpoint_generation := 7 })]

theorem observed_loss_is_visible :
    (operations libraries laneId).Along (EvidenceVisible libraries laneId) emptyStore observedElsewhere := by
  have hcounted : emptyStore.Counted := by
    intro lane hlane
    cases hlane
  refine (evidence_visible_iff libraries laneId emptyStore hcounted observedElsewhere).1.mpr ?_
  refine ⟨?_, ?_, trivial⟩
  · rintro ⟨_, _, _, hop, -⟩
    cases hop
  · rintro ⟨_, _, _, hop, -⟩
    cases hop

/-- The session `s` is registered, and its endpoint rotates. -/
def rotated : List OpInput := [call (.registerLane ⟨"s", none, none, none, none⟩), onLane (.noteEndpointRotation 7)]

/-- The rotation loses the evidence, and the count stays. -/
theorem rotation_loses_unseen :
    ¬ (operations libraries laneId).Along (EvidenceVisible libraries laneId) emptyStore rotated := by
  rintro ⟨-, hvisible, -⟩
  have hrecord : ((operations libraries laneId).run emptyStore (rotated.take 1)).state.record
      (laneId "s") = some (RegistrationRequest.newRecord ⟨"s", none, none, none, none⟩
        (failingAt []) (laneId "s") "2026-08-23T12:00:00Z") := by
    rfl
  exact evidenceVisible_iff.mp hvisible
    ⟨laneId "s", 7, _, rfl, hrecord, show 1 < U64_MAX by decide, show 7 ≠ 0 by decide, .inl rfl⟩

end Sample

end Clawhip.Gjc
