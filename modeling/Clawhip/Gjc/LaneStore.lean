import Clawhip.Gjc.Lane
import Clawhip.Lib.Outcome

/-!
# The lane store

`GjcLaneStore` of `src/gjc_lane.rs`. An operation checks its arguments against the state, works out
the state that it wants, makes it the store's and then persists it. `Change` is the outcome of the
part before the store is touched, and `LaneStore.commit` is the part after it.
-/

namespace Clawhip.Gjc

/-! ## Errors -/

/-- The steps of `persist_locked`. -/
inductive PersistStep where
  | createDir
  | serialize
  | write
  | sync
  | rename
  | syncDir
deriving DecidableEq

/-- The errors of the store's operations. -/
inductive LaneError where
  | quarantined
  | invalidRegistration (reason : String)
  | registrationConflict (lane_id : String) (tombstoned : Bool)
  | laneNotFound (lane_id : String)
  | revisionConflict (expected current : ℕ)
  | revisionOverflow
  | rejected (reason : String)
  | invalidDestination
  | alertNotFound (event_id : String)
  | deliveriesFull
  | notPersisted (step : PersistStep) (place : String)

/-- What a failed step of `persist_locked` says about the path it failed at. -/
def PersistStep.message (place : String) : PersistStep → String
  | createDir => "failed to create " ++ place
  | serialize => "serialize lane state"
  | write => "failed to write " ++ place
  | sync => "failed to sync " ++ place
  | rename => "failed to persist " ++ place
  | syncDir => "failed to sync " ++ place

/-- The text of an error. -/
def LaneError.message : LaneError → String
  | quarantined => "lane store is quarantined after invalid persisted state"
  | invalidRegistration reason => reason
  | registrationConflict lane_id tombstoned => "lane registration conflict: " ++ lane_id ++
      if tombstoned then "; watch previously tombstoned" else ""
  | laneNotFound lane_id => "lane not found: " ++ lane_id
  | revisionConflict expected current => "lane revision conflict: expected " ++ toString expected ++
      ", current " ++ toString current
  | revisionOverflow => "revision overflow"
  | rejected reason => reason
  | invalidDestination => "invalid pending alert destination"
  | alertNotFound event_id => "pending alert not found: " ++ event_id
  | deliveriesFull => "pending alert delivery map is full"
  | notPersisted step place => step.message place

/-! ## The store -/

/-- The paths that a store writes to. -/
structure StatePath where
  path : String
  parent : Option String
  tmp_path : String

/-- Where a step of `persist_locked` works. -/
def StatePath.placeOf (paths : StatePath) : PersistStep → String
  | .createDir => paths.parent.getD ""
  | .serialize => ""
  | .write => paths.tmp_path
  | .sync => paths.tmp_path
  | .rename => paths.path
  | .syncDir => paths.parent.getD ""

/-- The steps of `persist_locked` in order; a path without a parent has no directory to work on. -/
def StatePath.steps (paths : StatePath) : List PersistStep :=
  (if paths.parent.isSome then [.createDir] else []) ++ [.serialize, .write, .sync, .rename] ++
    if paths.parent.isSome then [.syncDir] else []

/-- `GjcLaneStoreStatus`. -/
inductive LaneStoreStatus where
  | missing
  | loaded (lanes : ℕ)
  | ignoredInvalid (error : String)

/-- `GjcLaneStore`, with the state that its file holds. -/
structure LaneStore where
  paths : StatePath
  state : StateFile
  status : LaneStoreStatus
  file : Option StateFile

/-- What one call meets outside the store. -/
structure Surroundings where
  /-- A step of `persist_locked` fails. -/
  fails : PersistStep → Bool
  /-- `current_git_branch`, where it gives a branch. -/
  gitBranch : String → Option String
  /-- An absolute path is its own canonical form, or has none. -/
  isCanonical : String → Bool
  /-- `now_rfc3339`. -/
  clock : String

namespace LaneStore

/-- `GjcLaneStore::persist_locked`: the first step that fails ends it. The file has changed once the
renaming is done. -/
def persist (store : LaneStore) (around : Surroundings) : LaneStore × Except LaneError Unit :=
  let state := { store.state with generation := (store.state.generation + 1) % 2 ^ 64 }
  match store.paths.steps.find? around.fails with
  | none => ({ store with state := state, file := some state }, .ok ())
  | some .syncDir => ({ store with state := state, file := some state },
      .error (.notPersisted .syncDir (store.paths.placeOf .syncDir)))
  | some step => ({ store with state := state }, .error (.notPersisted step (store.paths.placeOf step)))

variable (store : LaneStore) (around : Surroundings)

theorem persist_status : (store.persist around).1.status = store.status := by
  unfold persist
  split
  all_goals rfl

theorem persist_kept :
    (store.persist around).1.paths = store.paths ∧ (store.persist around).1.state.lanes = store.state.lanes ∧
      (store.persist around).1.state.lane_id_aliases = store.state.lane_id_aliases ∧
      (store.persist around).1.state.schema = store.state.schema := by
  unfold persist
  split
  all_goals exact ⟨rfl, rfl, rfl, rfl⟩

end LaneStore

/-- What an operation wants: to leave the state as it is, or to replace it; with its answer. -/
inductive Change (α : Type) where
  | keep (answer : α)
  | write (state : StateFile) (answer : α)

/-- The same change with another answer. -/
def Change.map {α β : Type} (f : α → β) : Change α → Change β
  | keep answer => keep (f answer)
  | write state answer => write state (f answer)

/-- Do what an operation wants: the state is replaced first, and persisted then. -/
def LaneStore.commit {α : Type} (store : LaneStore) (around : Surroundings) :
    Except LaneError (Change α) → LaneStore × Except LaneError α
  | .error error => (store, .error error)
  | .ok (.keep answer) => (store, .ok answer)
  | .ok (.write state answer) =>
    let persisted := { store with state := state }.persist around
    (persisted.1, persisted.2.map fun _ => answer)

/-! ## Registration -/

/-- `GjcPrBindingInput`. -/
structure PrBindingInput where
  repo : String
  number : ℕ
  head_sha : String
  base_branch : String

/-- `GjcLaneRegistrationRequest`. -/
structure RegistrationRequest where
  sdk_session_id : String
  worktree : Option String
  endpoint_generation : Option ℕ
  owner_id : Option String
  pr : Option PrBindingInput

/-- `valid_id`. -/
def validOwnerId (value : String) : Bool :=
  !value.isEmpty && decide (value.utf8ByteSize ≤ MAX_OWNER_LEN) &&
    value.toList.all fun c => c.isAlphanum || c == '-' || c == '_'

def validSessionId (value : String) : Bool := decide (value.utf8ByteSize ≤ MAX_SESSION_LEN) && validId value

def validWorktree (around : Surroundings) (value : String) : Bool :=
  !value.isEmpty && decide (value.utf8ByteSize ≤ MAX_WORKTREE_LEN) &&
    !(value.toList.any isControl) && Text.startsWith value "/" &&
    !((value.toList.splitOn '/').any fun component => component == ['.', '.']) &&
    around.isCanonical value

def validHexSha (value : String) : Bool :=
  decide (7 ≤ value.utf8ByteSize ∧ value.utf8ByteSize ≤ 64) &&
    value.toList.all fun c => c.isDigit || ('a' ≤ c && c ≤ 'f') || ('A' ≤ c && c ≤ 'F')

/-- `validate_registration`: the first complaint, if there is one. -/
def registrationComplaint (around : Surroundings) (request : RegistrationRequest) :
    Option String :=
  if !validSessionId request.sdk_session_id then some "invalid sdk session id"
  else if request.worktree.any fun worktree => !validWorktree around worktree then
    some "invalid worktree path"
  else if request.owner_id.any fun owner_id => !validOwnerId owner_id then some "invalid owner id"
  else request.pr.bind fun pr =>
    if pr.repo.isEmpty || !Text.contains pr.repo "/" then some "invalid PR repo binding"
    else if pr.number = 0 then some "invalid PR number"
    else if !validHexSha pr.head_sha then some "invalid PR head sha"
    else if pr.base_branch.isEmpty || decide (128 < pr.base_branch.utf8ByteSize) ||
        pr.base_branch.toList.any isControl then
      some "invalid PR base branch"
    else none

/-- The record of a lane that was just registered. -/
def RegistrationRequest.newRecord (request : RegistrationRequest) (around : Surroundings)
    (lane_id now : String) : LaneRecord where
  lane_id := lane_id
  sdk_session_id := request.sdk_session_id
  worktree := request.worktree
  branch := request.worktree.bind around.gitBranch
  endpoint_generation := request.endpoint_generation.getD 0
  endpoint_episode := 0
  endpoint_alerted := false
  revision := 1
  sdk_revision := 0
  last_turn := none
  last_gate := none
  ownership := match request.owner_id with
    | some owner_id => ⟨.claimed, some owner_id, some now, 1⟩
    | none => {}
  terminal_disposition := none
  phase := none
  pr := request.pr.map fun pr =>
    ⟨pr.repo, pr.number, Text.toAsciiLowercase pr.head_sha, pr.base_branch, now⟩
  evidence_revision := 1
  review_evidence_valid := true
  owner_evidence_valid := true
  consecutive_unavailable_polls := 0
  polling_suspended := false
  last_query_at := none
  watch_removed_at := none
  registered_at := now
  updated_at := now
  pending_alerts := []

/-- What registering a lane enters in the audit trail. -/
def RegistrationRequest.auditEntry (request : RegistrationRequest) (lane_id now : String) :
    AuditEntry :=
  ⟨now, lane_id, .laneRegistered, "session " ++ request.sdk_session_id ++ " registered" ++
    (request.owner_id.map fun owner => " owned by " ++ owner).getD ""⟩

/-- `GjcLaneStore::register_lane`; `gjc_lane_id` is the lane's identifier for a session. -/
def registerChange (gjc_lane_id : String → String) (status : LaneStoreStatus) (state : StateFile)
    (around : Surroundings) (request : RegistrationRequest) (now : String) :
    Except LaneError (Change LaneRecord) :=
  match status, registrationComplaint around request with
  | .ignoredInvalid _, _ => .error .quarantined
  | _, some reason => .error (.invalidRegistration reason)
  | _, none =>
    let lane_id := gjc_lane_id request.sdk_session_id
    match state.lanes.get lane_id with
    | some existing =>
      .error (.registrationConflict lane_id existing.watch_removed_at.isSome)
    | none =>
      let record := request.newRecord around lane_id now
      let state := state.pushAudit (request.auditEntry lane_id now)
      .ok (.write { state with lanes := state.lanes.insert lane_id record } record)

/-! ## Mutation -/

/-- What a closure makes of a record: the record, the entries for the audit trail, and what it leaves
in the variables of its caller. -/
abbrev Closure (β : Type) := LaneRecord → Except String (LaneRecord × List (AuditKind × String) × β)

/-- `multi_audit`, from a closure that leaves nothing in its caller. -/
def multiAudit (record : LaneRecord) (audit : List (AuditKind × String)) :
    LaneRecord × List (AuditKind × String) × Unit := (record, audit, ())

/-- The record of a lane, if it still has the revision that the caller read. -/
def StateFile.recordAt (state : StateFile) (lane_id : String) (expected_revision : ℕ) :
    Except LaneError LaneRecord :=
  match state.lanes.get (state.canonicalLaneId lane_id) with
  | none => .error (.laneNotFound lane_id)
  | some record =>
    if record.revision = expected_revision then .ok record
    else .error (.revisionConflict expected_revision record.revision)

/-- A record with the next revision. -/
def LaneRecord.bumped (record : LaneRecord) (now : String) : Except LaneError LaneRecord :=
  if record.revision < U64_MAX then
    .ok { record with revision := record.revision + 1, updated_at := now }
  else .error .revisionOverflow

/-- The entries of a mutation are added one after the other. -/
def StateFile.pushAll (state : StateFile) (lane_id now : String)
    (audit : List (AuditKind × String)) : StateFile :=
  audit.foldl (fun state entry => state.pushAudit ⟨now, lane_id, entry.1, entry.2⟩) state

variable (state : StateFile)

/-- Entries in the audit trail change no lane. -/
theorem StateFile.pushAll_lanes (lane_id now : String) (audit : List (AuditKind × String)) :
    (state.pushAll lane_id now audit).lanes = state.lanes ∧
      (state.pushAll lane_id now audit).lane_id_aliases = state.lane_id_aliases := by
  induction audit generalizing state with
  | nil => exact ⟨rfl, rfl⟩
  | cons entry audit ih => exact ih (state.pushAudit ⟨now, lane_id, entry.1, entry.2⟩)

def StateFile.withRecord (state : StateFile) (lane_id : String) (record : LaneRecord) : StateFile :=
  { state with lanes := state.lanes.insert lane_id record }

/-- `GjcLaneStore::mutate`. -/
def mutateChange {β : Type} (state : StateFile) (lane_id : String) (expected_revision : ℕ)
    (now : String) (apply : Closure β) : Except LaneError (Change (LaneRecord × β)) := do
  let canonical_id := state.canonicalLaneId lane_id
  let record ← state.recordAt lane_id expected_revision
  let applied ← (apply record).mapError .rejected
  let updated ← applied.1.bumped now
  .ok (.write ((state.pushAll canonical_id now applied.2.1).withRecord canonical_id updated)
    (updated, applied.2.2))

/-! ## Alerts -/

/-- `GjcLaneStore::acknowledge_pending_alert`. -/
def acknowledgeChange (state : StateFile) (lane_id : String) (expected_revision : ℕ)
    (event_id now : String) : Except LaneError (Change LaneRecord) := do
  let canonical_id := state.canonicalLaneId lane_id
  let record ← state.recordAt lane_id expected_revision
  let retained := record.pending_alerts.filter fun alert => decide (alert.event_id ≠ event_id)
  if retained.length = record.pending_alerts.length then .ok (.keep record)
  else
    let updated ← { record with pending_alerts := retained }.bumped now
    .ok (.write (state.withRecord canonical_id updated) updated)

/-- A destination that the store refuses. -/
def invalidDestination (destination : String) : Bool :=
  destination.isEmpty || decide (512 < destination.utf8ByteSize) || destination.toList.any isControl

/-- A delivery that is in this state needs no update to `next_state`. -/
def DeliveryState.settles (current next_state : DeliveryState) : Bool :=
  decide (current = .delivered) || (decide (current = .claimed) && decide (next_state = .claimed))

/-- An alert after the update of one of its deliveries. -/
def PendingAlert.deliver (alert : PendingAlert) (destination : String) (next_state : DeliveryState)
    (clock : String) : PendingAlert :=
  let attempts := ((alert.deliveries.get destination).map fun delivery => delivery.attempts).getD 0
  let attempts := min (attempts + if next_state = .claimed then 1 else 0) U32_MAX
  { alert with
    deliveries := alert.deliveries.insert destination ⟨next_state, attempts, clock⟩ }

/-- Change the first alert with this identifier. -/
def updateAlert (f : PendingAlert → PendingAlert) (event_id : String) :
    List PendingAlert → List PendingAlert
  | [] => []
  | alert :: alerts =>
    if alert.event_id = event_id then f alert :: alerts
    else alert :: updateAlert f event_id alerts

/-- `GjcLaneStore::update_pending_alert_delivery`. -/
def deliveryChange (state : StateFile) (around : Surroundings) (lane_id event_id destination : String)
    (next_state : DeliveryState) : Except LaneError (Change Bool) :=
  if invalidDestination destination then .error .invalidDestination
  else
    let canonical_id := state.canonicalLaneId lane_id
    match state.lanes.get canonical_id with
    | none => .error (.laneNotFound lane_id)
    | some record =>
      match record.pending_alerts.find? fun alert => decide (alert.event_id = event_id) with
      | none => .error (.alertNotFound event_id)
      | some alert =>
        let existing := alert.deliveries.get destination
        if existing.any fun delivery => delivery.state.settles next_state then .ok (.keep true)
        else if existing.isNone && decide (MAX_PENDING_ALERT_DELIVERIES ≤ alert.deliveries.length)
        then .error .deliveriesFull
        else do
          let updated ← { record with
            pending_alerts := updateAlert (fun alert =>
              alert.deliver destination next_state around.clock) event_id
                record.pending_alerts }.bumped around.clock
          .ok (.write (state.withRecord canonical_id updated) true)

/-- The record after the update of a delivery, but for its revision. -/
def LaneRecord.delivered (record : LaneRecord) (event_id destination : String)
    (next_state : DeliveryState) (clock : String) : LaneRecord :=
  { record with
    pending_alerts := updateAlert (fun alert => alert.deliver destination next_state clock) event_id
      record.pending_alerts }

/-- The update of a delivery is refused, or not needed, or changes the alerts of the lane. -/
theorem deliveryChange_cases (around : Surroundings)
    (lane_id event_id destination : String) (next_state : DeliveryState) :
    (∃ error, deliveryChange state around lane_id event_id destination next_state = .error error) ∨
    deliveryChange state around lane_id event_id destination next_state = .ok (.keep true) ∨
    ∃ record updated, state.record lane_id = some record ∧
      (record.delivered event_id destination next_state around.clock).bumped around.clock = .ok updated ∧
      deliveryChange state around lane_id event_id destination next_state =
        .ok (.write (state.withRecord (state.canonicalLaneId lane_id) updated) true) := by
  unfold deliveryChange
  by_cases hdestination : invalidDestination destination = true
  · rw [if_pos hdestination]
    exact .inl ⟨_, rfl⟩
  rw [if_neg hdestination]
  dsimp only
  unfold StateFile.record
  cases hget : state.lanes.get (state.canonicalLaneId lane_id) with
  | none => exact .inl ⟨_, rfl⟩
  | some record =>
    dsimp only
    cases record.pending_alerts.find? fun alert => decide (alert.event_id = event_id) with
    | none => exact .inl ⟨_, rfl⟩
    | some alert =>
      dsimp only
      split_ifs
      · exact .inr (.inl rfl)
      · exact .inl ⟨_, rfl⟩
      · have hfold : { record with
            pending_alerts := updateAlert (fun alert => alert.deliver destination next_state around.clock) event_id
                record.pending_alerts } =
              record.delivered event_id destination next_state around.clock := rfl
        rw [hfold]
        cases hbumped : (record.delivered event_id destination next_state around.clock).bumped around.clock with
        | error error => exact .inl ⟨error, rfl⟩
        | ok updated => exact .inr (.inr ⟨record, updated, rfl, hbumped, rfl⟩)

/-! ## Notes -/

/-- `GjcLaneStore::note_restart`. -/
def noteRestartChange (state : StateFile) (around : Surroundings) : Change Unit :=
  .write (state.pushAudit ⟨around.clock, "*", .restartReconciled,
    "durable lane state reloaded after daemon restart"⟩) ()

/-- `GjcLaneStore::note_revision_conflict`. -/
def noteConflictChange (state : StateFile) (lane_id : String) (expected_revision : ℕ)
    (now : String) : Change Unit :=
  .write (state.pushAudit ⟨now, lane_id, .reconcileSkippedRevisionConflict,
    "expected revision " ++ toString expected_revision ++ " moved during reconcile; retry next poll"⟩) ()

/-! ## Operations -/

namespace LaneStore

variable (store : LaneStore) (around : Surroundings)

/-- `GjcLaneStore::register_lane`. -/
def registerLane (gjc_lane_id : String → String) (request : RegistrationRequest) (now : String) :
    LaneStore × Except LaneError LaneRecord :=
  store.commit around (registerChange gjc_lane_id store.status store.state around request now)

/-- `GjcLaneStore::mutate`. -/
def mutate {β : Type} (lane_id : String) (expected_revision : ℕ) (now : String)
    (apply : Closure β) : LaneStore × Except LaneError (LaneRecord × β) :=
  store.commit around (mutateChange store.state lane_id expected_revision now apply)

/-- `GjcLaneStore::acknowledge_pending_alert`. -/
def acknowledgePendingAlert (lane_id : String) (expected_revision : ℕ) (event_id now : String) :
    LaneStore × Except LaneError LaneRecord :=
  store.commit around (acknowledgeChange store.state lane_id expected_revision event_id now)

/-- `GjcLaneStore::update_pending_alert_delivery`. -/
def updatePendingAlertDelivery (lane_id event_id destination : String)
    (next_state : DeliveryState) : LaneStore × Except LaneError Bool :=
  store.commit around (deliveryChange store.state around lane_id event_id destination next_state)

/-- `GjcLaneStore::note_restart`. -/
def noteRestart : LaneStore × Except LaneError Unit := store.commit around (.ok (noteRestartChange store.state around))

/-- `GjcLaneStore::note_revision_conflict`, which does not say whether it was persisted. -/
def noteRevisionConflict (lane_id : String) (expected_revision : ℕ) (now : String) : LaneStore :=
  (store.commit around (.ok (noteConflictChange store.state lane_id expected_revision now))).1

end LaneStore

end Clawhip.Gjc
