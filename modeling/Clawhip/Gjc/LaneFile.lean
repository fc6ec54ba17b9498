import Clawhip.Gjc.Observation

/-!
# Lane-state files

`GjcLaneStore::open` of `src/gjc_lane.rs`: a file that is there is read, checked by
`validate_loaded_state` and migrated. A file that does not pass is ignored, and the store starts empty
and quarantined.
-/

namespace Clawhip.Gjc

def MAX_LANES : ℕ := 1024

/-- What `serde_json` makes of lane-state files `α`. -/
structure FileCodec (α : Type) where
  /-- `from_slice`. -/
  read : α → Except String StateFile
  /-- `to_vec_pretty`. -/
  write : StateFile → α
  /-- The text of a value. -/
  text : Json → String

/-! ## Validation -/

/-- An alert whose identifier, payload or deliveries are out of bounds. -/
def PendingAlert.outOfBounds (text : Json → String) (alert : PendingAlert) : Bool :=
  alert.event_id.isEmpty || decide (256 < alert.event_id.utf8ByteSize) ||
    alert.event_id.toList.any isControl || decide (64 * 1024 < (text alert.payload).utf8ByteSize) ||
    decide (MAX_PENDING_ALERT_DELIVERIES < alert.deliveries.length)

/-- What `validate_loaded_state` says about the causality of a failure. -/
def TurnFailureCausality.complaint (causality : TurnFailureCausality) : Option String :=
  if !validId causality.session_id then some "lane-state contains invalid failure session identity"
  else if !validId causality.turn_id then some "lane-state contains invalid failure turn identity"
  else if causality.command_id.any fun command_id => !validId command_id then
    some "lane-state contains invalid failure command identity"
  else if (causality.model.any fun value => decide (boundedText value ≠ value)) ||
      causality.profile.any fun value => decide (boundedText value ≠ value) then
    some "lane-state contains invalid failure causality"
  else none

/-- What `validate_loaded_state` says about an alert. -/
def PendingAlert.complaint (text : Json → String) (alert : PendingAlert) : Option String :=
  if alert.outOfBounds text then some "lane-state contains an invalid pending alert"
  else if alert.deliveries.keys.any invalidDestination then
    some "lane-state contains an invalid pending alert destination"
  else alert.turn_failure.bind TurnFailureCausality.complaint

/-- A gate without a valid identity and a revision. -/
def GateSnapshot.malformed (gate : GateSnapshot) : Bool :=
  (gate.gate_id.all fun gate_id => !validId gate_id) || decide (gate.revision = 0)

/-- What `validate_loaded_state` says about a lane. -/
def LaneRecord.complaint (text : Json → String) (around : Surroundings) (lane_id : String)
    (record : LaneRecord) : Option String :=
  if !validSessionId record.sdk_session_id || lane_id.isEmpty ||
      decide (MAX_SESSION_LEN < lane_id.utf8ByteSize) || lane_id.toList.any isControl then
    some "lane-state contains an invalid lane identity"
  else if record.worktree.any fun worktree => !validWorktree around worktree then
    some "lane-state contains an invalid worktree"
  else if record.last_gate.any GateSnapshot.malformed then
    some "lane-state contains an invalid gate identity"
  else if MAX_PENDING_ALERTS < record.pending_alerts.length then
    some "lane-state contains too many pending alerts"
  else record.pending_alerts.findSome? (PendingAlert.complaint text)

/-- `validate_loaded_state`: the complaint, if there is one. -/
def StateFile.complaint (text : Json → String) (around : Surroundings) (state : StateFile) :
    Option String :=
  if MAX_LANES < state.lanes.length then some "lane-state contains too many lanes"
  else state.lanes.findSome? fun lane => lane.2.complaint text around lane.1

/-! ## Migration -/

/-- An alias that names a lane, is its own target, or leads to another alias or nowhere. -/
def StateFile.aliasComplaint (state : StateFile) (entry : String × String) : Option String :=
  if entry.1 = entry.2 || (state.lanes.get entry.1).isSome then
    some "lane id migration alias collides with canonical lane"
  else if (state.lane_id_aliases.get entry.2).isSome then
    some "lane id migration alias chain is not supported"
  else if (state.lanes.get entry.2).isNone then
    some "lane id migration alias target is missing"
  else none

/-- The lanes that are migrated, the aliases, and whether something changed. -/
structure Migration where
  lanes : OrdMap String LaneRecord
  lane_id_aliases : OrdMap String String
  migrated : Bool

/-- The body of the loop of `migrate_lane_ids`. -/
def Migration.add (gjc_lane_id : String → String) (canonical_ids : List String)
    (migration : Migration) (lane : String × LaneRecord) : Except String Migration :=
  let new_id := gjc_lane_id lane.2.sdk_session_id
  if lane.1 ≠ new_id ∧ lane.1 ∈ canonical_ids then
    .error "lane id migration alias collision for canonical lane"
  else
    let changed := decide (lane.1 ≠ new_id) || decide (lane.2.lane_id ≠ new_id)
    if (migration.lanes.get new_id).isSome then
      .error "lane id migration collision for session identity"
    else .ok
      { lanes := migration.lanes.insert new_id
          (if changed then { lane.2 with lane_id := new_id } else lane.2)
        lane_id_aliases := if lane.1 ≠ new_id then migration.lane_id_aliases.insert lane.1 new_id
          else migration.lane_id_aliases
        migrated := migration.migrated || changed }

/-- `migrate_lane_ids`: every lane gets the identifier of its session, and its old one as an alias. -/
def migrateLaneIds (gjc_lane_id : String → String) (state : StateFile) :
    Except String (StateFile × Bool) :=
  match state.lane_id_aliases.findSome? state.aliasComplaint with
  | some complaint => .error complaint
  | none => do
    let canonical_ids := state.lanes.values.map fun record => gjc_lane_id record.sdk_session_id
    let migration ← state.lanes.foldlM (Migration.add gjc_lane_id canonical_ids)
      ⟨[], state.lane_id_aliases, false⟩
    let migrated := { state with
      lanes := migration.lanes, lane_id_aliases := migration.lane_id_aliases }
    if migration.lane_id_aliases.values.any fun target =>
        (migration.lane_id_aliases.get target).isSome then
      .error "lane id migration alias chain is not supported"
    else if migration.lane_id_aliases.values.any fun target =>
        (migration.lanes.get target).isNone then
      .error "lane id migration alias target is missing"
    else .ok (migrated, migration.migrated)

/-- The causality of the failure that a lane's last turn shows. -/
def LaneRecord.currentCausality (record : LaneRecord) : Option TurnFailureCausality :=
  (record.last_turn.filter fun turn => decide (turn.state = .failed)).bind fun turn =>
    turn.turn_id.map fun turn_id => ⟨record.sdk_session_id, record.sdk_revision, turn_id,
      turn.command_id, turn.model, turn.profile⟩

/-- The snapshot of a failed turn, as it was before snapshots had the path of the repository. -/
def LaneRecord.legacySnapshot (record : LaneRecord) (turn : TurnSnapshot) (turn_id : String) :
    Snapshot :=
  { Snapshot.bare record.sdk_session_id record.sdk_revision with
    turn := some ⟨turn_id, .failed, true, 0, none⟩
    prompt := turn.command_id.map fun command_id => ⟨command_id, .accepted⟩
    model := turn.model
    profile := turn.profile
    repo_name := record.pr.map PrBinding.repo
    worktree_path := record.worktree
    branch := record.branch }

/-- The identity of the failure that a snapshot shows. -/
def failureEventId (x : Libraries) (snapshot : Snapshot) (now : String) : Option String :=
  ((bridgeAlerts x none snapshot now).toOption.bind fun events =>
    events.find? fun event => decide (event.kind = "session.failed")).bind fun event =>
      textOf event.payload "event_id"

def currentFailureEventIds (x : Libraries) (record : LaneRecord) (now : String) : List String :=
  match record.last_turn.filter fun turn => decide (turn.state = .failed) with
  | none => []
  | some turn =>
    match turn.turn_id with
    | none => []
    | some turn_id =>
      let legacy := record.legacySnapshot turn turn_id
      [failureEventId x legacy now, failureEventId x { legacy with repo_path := record.worktree } now].filterMap id

/-- A failure without a causality. -/
def PendingAlert.isLegacy (alert : PendingAlert) : Bool :=
  decide (alert.kind = "session.failed") && alert.turn_failure.isNone

/-- What becomes of an alert in the migration: it is dropped, or kept with what is known of its
failure. -/
def PendingAlert.migrate (record : LaneRecord) (current_event_ids : List String)
    (alert : PendingAlert) : Option PendingAlert × Bool :=
  if !alert.isLegacy then (some alert, false)
  else if alert.event_id ∉ current_event_ids then (none, true)
  -- A failure that is current has a failed turn with an identifier behind it.
  else match record.currentCausality with
    | some causality => (some { alert with turn_failure := some causality }, true)
    | none => (some alert, false)

/-- What the migration enters in the audit trail for an alert that it drops. -/
def LaneRecord.droppedEntry (record : LaneRecord) (alert : PendingAlert) : AuditEntry :=
  ⟨record.updated_at, record.lane_id, .historicalFailureSuppressed,
    "legacy historical failure suppressed during causality migration: event=" ++
      boundedIdentity (some alert.event_id)⟩

/-- A lane after the migration, the entries for the audit trail, and whether something changed. -/
def LaneRecord.migrate (x : Libraries) (now : String) (record : LaneRecord) :
    LaneRecord × List AuditEntry × Bool :=
  let ids := currentFailureEventIds x record now
  let results := record.pending_alerts.map (PendingAlert.migrate record ids)
  ({ record with pending_alerts := results.filterMap Prod.fst },
    (record.pending_alerts.filter fun alert => (alert.migrate record ids).1.isNone).map
      record.droppedEntry, results.any Prod.snd)

def migrateFailureCausality (x : Libraries) (now : String) (state : StateFile) :
    StateFile × Bool :=
  let results := state.lanes.map fun lane => (lane.1, lane.2.migrate x now)
  let state := { state with lanes := results.map fun result => (result.1, result.2.1) }
  ((results.flatMap fun result => result.2.2.1).foldl StateFile.pushAudit state, results.any fun result => result.2.2.2)

/-! ## Opening -/

/-- The state that a store starts with, and how it says that it got it. -/
def loadState {α : Type} (codec : FileCodec α) (around : Surroundings) :
    Option α → StateFile × LaneStoreStatus
  | none => ({}, .missing)
  | some content =>
    match codec.read content with
    | .error error => ({}, .ignoredInvalid error)
    | .ok parsed =>
      if parsed.schema ≠ GJC_LANE_STATE_SCHEMA then
        ({}, .ignoredInvalid ("unsupported lane-state schema " ++ codec.text (.string parsed.schema)))
      else match parsed.complaint codec.text around with
        | some complaint => ({}, .ignoredInvalid complaint)
        | none => (parsed, .loaded parsed.lanes.length)

/-- `GjcLaneStore::open`, for what is at the path; the store has not written its file yet. -/
def LaneStore.openAt {α : Type} (codec : FileCodec α) (x : Libraries)
    (gjc_lane_id : String → String) (paths : StatePath) (around : Surroundings)
    (content : Option α) : Except LaneError LaneStore := do
  let loaded := loadState codec around content
  let (state, lane_ids_migrated) ← (migrateLaneIds gjc_lane_id loaded.1).mapError .rejected
  let (state, failures_migrated) := migrateFailureCausality x around.clock state
  let store : LaneStore := ⟨paths, state, loaded.2, none⟩
  if lane_ids_migrated || failures_migrated then
    let persisted := store.persist around
    persisted.2.map fun _ => persisted.1
  else .ok store

/-- What is at the path of a store that was opened on this content. -/
def LaneStore.onDisk {α : Type} (codec : FileCodec α) (content : α) (store : LaneStore) : α :=
  (store.file.map codec.write).getD content

end Clawhip.Gjc
