import Clawhip.Events.Constructors
import Clawhip.Lib.Machine
import Clawhip.Routing.Explain
import Clawhip.Tmux.Lane

/-!
# The registry of tmux sessions

The registrations of `src/source/tmux.rs`, their durable file, and the operations that write them.
An operation works on a copy of the registry, stores it with `save_durable_tmux_registry`, and only
then puts it in the registry's place; the configured monitors are merged into the registry itself.
-/

namespace Clawhip.Tmux

inductive RegistrationSource where
  | CliWatch
  | CliNew
  | ConfigMonitor
deriving DecidableEq

def RegistrationSource.asStr : RegistrationSource → String
  | .CliWatch => "cli-watch"
  | .CliNew => "cli-new"
  | .ConfigMonitor => "config-monitor"

structure ParentProcessInfo where
  pid : ℕ
  name : Option String
deriving DecidableEq

structure RegisteredTmuxSession where
  session : String
  channel : Option String := none
  mention : Option String := none
  routing : RoutingMetadata := ⟨none, none, none, none, none, none, none⟩
  keywords : List String := []
  keyword_window_secs : ℕ := 30
  stale_minutes : ℕ := 10
  format : Option MessageFormat := none
  registered_at : String
  registration_source : RegistrationSource := .ConfigMonitor
  parent_process : Option ParentProcessInfo := none
  registration_generation : ℕ := 0
  active_wrapper_monitor : Bool := false
  lane : Option LaneEvidence := none
deriving DecidableEq

structure StoredTmuxRegistration where
  registration : RegisteredTmuxSession
  lane : Option LaneEvidence

inductive StoredRegistryValue where
  | Wrapped (stored : StoredTmuxRegistration)
  | Legacy (registration : RegisteredTmuxSession)

abbrev Registry := OrdMap String RegisteredTmuxSession

def Registry.lane (registry : Registry) (session : String) : Option LaneEvidence :=
  (OrdMap.get registry session).bind RegisteredTmuxSession.lane

def normalizeRuntimeRegistrationSource : RegistrationSource → RegistrationSource
  | .ConfigMonitor => .CliWatch
  | source => source

/-! ## The durable file -/

/-- A registration that `durable_runtime_entries` keeps. -/
def RegisteredTmuxSession.durable (registration : RegisteredTmuxSession) : Bool :=
  registration.registration_source != .ConfigMonitor

/-- The stored form of a registration. -/
def RegisteredTmuxSession.stored (registration : RegisteredTmuxSession) : StoredTmuxRegistration where
  registration := registration
  lane := registration.lane

def durableRuntimeEntries (registry : Registry) : OrdMap String StoredTmuxRegistration :=
  (registry.filter fun entry => entry.2.durable).map fun entry => (entry.1, entry.2.stored)

/-- A stored registration without the field that is marked `serde(skip)`. -/
def StoredTmuxRegistration.skipped (stored : StoredTmuxRegistration) : StoredTmuxRegistration :=
  { stored with registration := { stored.registration with lane := none } }

/-- What `serde_json` makes of registry files `α`. -/
structure RegistryCodec (α : Type) where
  /-- `from_slice`. -/
  read : α → Except String (OrdMap String StoredRegistryValue)
  /-- `to_vec_pretty`. -/
  write : OrdMap String StoredTmuxRegistration → α

/-- What the registry relies on: a file holds every session once, and what is written is read back,
apart from the fields that are skipped. -/
structure RegistryCodec.Lawful {α : Type} (codec : RegistryCodec α) : Prop where
  nodup : ∀ content entries, codec.read content = .ok entries → (OrdMap.keys entries).Nodup
  round_trip : ∀ entries, (OrdMap.keys entries).Nodup → codec.read (codec.write entries) =
    .ok (entries.map fun entry => (entry.1, .Wrapped entry.2.skipped))

/-- The registry and its file. -/
structure Store (α : Type) where
  registry : Registry := []
  file : Option α := none

variable {α : Type}

/-- `save_durable_tmux_registry`, when the file system answers `written`: the rename comes last. -/
def saveDurableTmuxRegistry (codec : RegistryCodec α) (written : Except String Unit)
    (registry : Registry) : Except String (α × ℕ) := do
  let durable := durableRuntimeEntries registry
  written
  return (codec.write durable, durable.length)

/-- Store a new registry, and put it in the place of the old one. -/
def Store.swap {β : Type} (store : Store α) (codec : RegistryCodec α) (written : Except String Unit)
    (next : Registry) (answer : ℕ → β) : Except String β × Store α :=
  match saveDurableTmuxRegistry codec written next with
  | .error e => (.error e, store)
  | .ok (file, durable_count) => (.ok (answer durable_count), { registry := next, file := some file })

/-! ## Loading -/

/-- `mint_registration_generation`: the generation, and the next one. -/
def mintRegistrationGeneration (next_generation : ℕ) : ℕ × ℕ := (next_generation, (next_generation + 1) % 2 ^ 64)

def advanceRegistrationGenerationAbove (loaded next_generation : ℕ) : ℕ :=
  if loaded ≤ next_generation then next_generation else loaded + 1

/-- The registration that is restored from a stored one, apart from its generation. -/
def StoredRegistryValue.registration : StoredRegistryValue → RegisteredTmuxSession
  | .Wrapped stored =>
    { stored.registration with
      lane := stored.lane
      registration_source :=
        normalizeRuntimeRegistrationSource stored.registration.registration_source }
  | .Legacy registration =>
    { registration with
      registration_source := normalizeRuntimeRegistrationSource registration.registration_source }

/-- What a load has so far: the allocator, the largest generation, and the registry. -/
structure Loading where
  next_generation : ℕ
  max_loaded_generation : ℕ := 0
  registry : Registry := []

/-- One entry of `load_tmux_registry_state`. -/
def Loading.insert (loading : Loading) (entry : String × StoredRegistryValue) : Loading :=
  let registration := entry.2.registration
  let (generation, next_generation) :=
    if registration.registration_generation = 0 then
      mintRegistrationGeneration loading.next_generation
    else (registration.registration_generation, loading.next_generation)
  { next_generation
    max_loaded_generation := max loading.max_loaded_generation generation
    registry := OrdMap.insert loading.registry entry.1
      { registration with registration_generation := generation } }

/-- The entries that `load_tmux_registry_state` finds in a file; none if there is no file or it does
not decode. -/
def loadedEntries (codec : RegistryCodec α) (file : Option α) : OrdMap String StoredRegistryValue :=
  match file.map codec.read with
  | some (.ok loaded) => loaded
  | _ => []

/-- `load_tmux_registry_state` into an empty registry: the allocator and the registry. -/
def loadTmuxRegistryState (codec : RegistryCodec α) (next_generation : ℕ) (file : Option α) :
    ℕ × Registry :=
  let loading := (loadedEntries codec file).foldl Loading.insert { next_generation }
  (advanceRegistrationGenerationAbove loading.max_loaded_generation loading.next_generation, loading.registry)

/-! ## Registrations -/

/-- `register_runtime_tmux_registration`, with the generation that was minted before the lock. -/
def Store.registerRuntimeTmuxRegistration (store : Store α) (codec : RegistryCodec α)
    (written : Except String Unit) (generation : ℕ) (registration : RegisteredTmuxSession) :
    Except String ℕ × Store α :=
  let registration := { registration with
    registration_source := normalizeRuntimeRegistrationSource registration.registration_source
    registration_generation := generation }
  if (store.registry.lane registration.session).any fun lane => lane.workflow != .Retired then
    (.error "lane session is retained until explicit quiesced retirement", store)
  else
    store.swap codec written (OrdMap.insert store.registry registration.session registration) id

/-- A registration that `remove_tmux_registrations` removes. -/
def RegisteredTmuxSession.removable (registration : RegisteredTmuxSession) : Bool :=
  registration.registration_source == .ConfigMonitor ||
    registration.lane.any fun lane => lane.workflow == .Retired && lane.quiesced

/-- A registration that `registration_is_reconcilable` holds of. -/
def registrationIsReconcilable (registration : RegisteredTmuxSession) : Bool :=
  registration.registration_source != .ConfigMonitor &&
    registration.lane.all fun lane => lane.workflow == .Retired && lane.quiesced

/-- The registry without the sessions of a list whose registrations meet a condition, and the
registrations that were taken out, in order. -/
def Registry.takeOut {κ : Type} (session : κ → String) (removable : κ → RegisteredTmuxSession → Bool) :
    List κ → Registry → Registry × List RegisteredTmuxSession
  | [], registry => (registry, [])
  | key :: keys, registry =>
    match OrdMap.get registry (session key) with
    | none => takeOut session removable keys registry
    | some registration =>
      if removable key registration then
        let (next, removed) := takeOut session removable keys (OrdMap.erase registry (session key))
        (next, registration :: removed)
      else takeOut session removable keys registry

def Store.removeTmuxRegistrations (store : Store α) (codec : RegistryCodec α)
    (written : Except String Unit) (sessions : List String) : Except String ℕ × Store α :=
  let (next, removed) :=
    store.registry.takeOut id (fun _ registration => registration.removable) sessions
  if removed.isEmpty then (.ok 0, store)
  else store.swap codec written next fun _ => removed.length

structure AbsentRegistrationCandidate where
  session : String
  registration_generation : ℕ

/-- A registration that is pruned for a candidate. -/
def AbsentRegistrationCandidate.matches (candidate : AbsentRegistrationCandidate)
    (registration : RegisteredTmuxSession) : Bool :=
  registration.registration_generation == candidate.registration_generation &&
    registrationIsReconcilable registration

/-- `prune_absent_dynamic_registrations_with_reason`; the registrations that were removed are those
of its tombstones. -/
def Store.pruneAbsentDynamicRegistrations (store : Store α) (codec : RegistryCodec α)
    (written : Except String Unit) (candidates : List AbsentRegistrationCandidate) :
    Except String (List RegisteredTmuxSession) × Store α :=
  let (next, removed) := store.registry.takeOut AbsentRegistrationCandidate.session
    AbsentRegistrationCandidate.matches candidates
  if removed.isEmpty then (.ok [], store)
  else store.swap codec written next fun _ => removed

/-- The candidates of a registry whose sessions are not available, as `reconcile_restored_tmux_registry`
and `list_active_tmux_registrations` collect them. -/
def absentCandidates (registry : Registry) (available_sessions : List String) :
    List AbsentRegistrationCandidate :=
  (registry.filter fun entry =>
    !available_sessions.contains entry.1 && registrationIsReconcilable entry.2).map fun entry =>
      { session := entry.1, registration_generation := entry.2.registration_generation }

/-! ## Lanes -/

structure LaneRegistrationInput where
  registration : RegisteredTmuxSession
  generation_id : String
  kickoff_operation_id : String
  launch_operation_id : String
  executor_id : String
  worker_effect_kind : WorkerEffectKind
  thread_id : Option String := none
  expect_absent_or_retired : Bool

def laneDetailForSession (registry : Registry) (session : String) : Except String LaneDetail :=
  match OrdMap.get registry session with
  | none => .error "lane session not found"
  | some registration =>
    match registration.lane with
    | none => .error "session has no lane evidence"
    | some lane => .ok (laneDetail session lane none)

/-- The inputs that `register_lane_registration` accepts. -/
def LaneRegistrationInput.valid (input : LaneRegistrationInput) : Bool :=
  input.expect_absent_or_retired && validSession input.registration.session &&
    validId input.generation_id && validId input.kickoff_operation_id &&
    validId input.launch_operation_id && validId input.executor_id &&
    input.thread_id.all validDiscordId

/-- A fresh lane that was registered with the same input. -/
def LaneRegistrationInput.repeats (input : LaneRegistrationInput) (lane : LaneEvidence) : Bool :=
  lane.launch_state == .Ready && lane.revision == 0 && lane.workflow == .Active &&
    lane.generation_id == input.generation_id &&
    lane.kickoff_operation_id == input.kickoff_operation_id &&
    lane.launch_operation_id == input.launch_operation_id &&
    lane.executor_id == input.executor_id &&
    lane.worker_effect_kind == input.worker_effect_kind && lane.thread_id == input.thread_id

/-- The evidence of a new lane. -/
def LaneRegistrationInput.lane (input : LaneRegistrationInput) : LaneEvidence where
  generation_id := input.generation_id
  kickoff_operation_id := input.kickoff_operation_id
  launch_operation_id := input.launch_operation_id
  executor_id := input.executor_id
  worker_effect_kind := input.worker_effect_kind
  thread_id := input.thread_id
  visibility := some .Unverified

/-- The registration of `register_lane_registration`, before it has a lane. -/
def LaneRegistrationInput.public (input : LaneRegistrationInput) (generation : ℕ) :
    RegisteredTmuxSession :=
  { input.registration with
    registration_source := normalizeRuntimeRegistrationSource input.registration.registration_source
    registration_generation := generation }

/-- What `register_lane_registration` answers without registering anything, if it does. -/
def LaneRegistrationInput.answer (input : LaneRegistrationInput) (generation : ℕ)
    (registry : Registry) : Option (Except String LaneDetail) :=
  if !input.valid then some (.error "invalid lane registration input")
  else if input.registration.lane.isSome then
    some (.error "lane registration input must not contain evidence")
  else
    match OrdMap.get registry input.registration.session with
    | none => none
    | some existing =>
      match existing.lane with
      | none => some (.error "lane registration conflicts with existing session")
      | some lane =>
        if input.repeats lane && { existing with lane := none } == input.public generation then
          some (.ok (laneDetail input.registration.session lane none))
        else if lane.workflow != .Retired then
          some (.error "lane registration conflicts with existing session")
        else none

/-- `register_lane_registration`, with the generation that was minted before the lock; `later` is what
became of the registry when the lane is read back, after the lock has been given back. -/
def Store.registerLaneRegistration (store : Store α) (codec : RegistryCodec α)
    (written : Except String Unit) (generation : ℕ) (later : Registry → Registry)
    (input : LaneRegistrationInput) : Except String LaneDetail × Store α :=
  match input.answer generation store.registry with
  | some answer => (answer, store)
  | none =>
    let next := OrdMap.insert store.registry input.registration.session
      { input.public generation with lane := some input.lane }
    match store.swap codec written next fun _ => () with
    | (.error e, store) => (.error e, store)
    | (.ok (), store) => (laneDetailForSession (later next) input.registration.session, store)

def Store.mutateLane (store : Store α) (codec : RegistryCodec α) (written : Except String Unit)
    (session : String) (expected_revision : ℕ)
    (mutate : LaneEvidence → Except String LaneEvidence) : Except String LaneSnapshot × Store α :=
  match OrdMap.get store.registry session with
  | none => (.error "lane session not found", store)
  | some registration =>
    match registration.lane with
    | none => (.error "session has no lane evidence", store)
    | some lane =>
      if lane.revision ≠ expected_revision then (.error "lane revision conflict", store)
      else
        match mutate lane with
        | .error e => (.error e, store)
        | .ok lane =>
          if lane.revision = U64_MAX then (.error "lane revision exhausted", store)
          else
            let lane := { lane with revision := lane.revision + 1 }
            store.swap codec written
              (OrdMap.insert store.registry session { registration with lane := some lane })
              fun _ => laneSnapshot session lane none

/-- Answer from the lane that was seen before the lock if it says so, and else go on. -/
def Store.answering (store : Store α) (seen : Registry) (session : String)
    (answer : LaneEvidence → Except String (Option LaneSnapshot))
    (next : Except String LaneSnapshot × Store α) : Except String LaneSnapshot × Store α :=
  match seen.lane session with
  | none => (.error "lane session not found", store)
  | some lane =>
    match answer lane with
    | .error e => (.error e, store)
    | .ok (some snapshot) => (.ok snapshot, store)
    | .ok none => next

/-- The snapshot of a lane if a check recognises it as the outcome of the same call. -/
def recognised (session : String) (lane : LaneEvidence) (same : Bool) :
    Except String (Option LaneSnapshot) :=
  .ok (if same then some (laneSnapshot session lane none) else none)

/-- The mutation of `record_lane_verification`. -/
def LaneVerificationMutation.mutate (input : LaneVerificationMutation) (lane : LaneEvidence) :
    Except String LaneEvidence :=
  if lane.generation_id ≠ input.generation_id ∨ lane.workflow = .Retired then
    .error "lane generation conflict or retired"
  else
    .ok { lane with
      verification := some
        { checked_at := input.checked_at, outcome := input.outcome, reason := input.reason }
      visibility := some input.visibility }

/-- A lane that the same verification was recorded of. -/
def LaneVerificationMutation.repeats (input : LaneVerificationMutation) (lane : LaneEvidence) : Bool :=
  lane.revision == saturatingSucc input.expected_revision &&
    lane.generation_id == input.generation_id && lane.visibility == some input.visibility &&
    lane.verification.any fun value => value.checked_at == input.checked_at &&
      value.outcome == input.outcome && value.reason == input.reason

/-- `record_lane_verification`; `seen` is the registry before the lock. -/
def Store.recordLaneVerification (store : Store α) (codec : RegistryCodec α)
    (written : Except String Unit) (seen : Registry) (input : LaneVerificationMutation) :
    Except String LaneSnapshot × Store α :=
  store.answering seen input.session
    (fun lane => recognised input.session lane (input.repeats lane))
    (if !validVerification input || !validId input.generation_id then
      (.error "invalid lane verification input", store)
    else store.mutateLane codec written input.session input.expected_revision input.mutate)

/-- The inputs that `record_lane_delivery` accepts. -/
def LaneDeliveryMutation.valid (input : LaneDeliveryMutation) : Bool :=
  validDelivery input && validId input.generation_id &&
    (!input.initial_kickoff || input.kickoff_operation_id.any validId)

/-- A lane that the same delivery was recorded of. -/
def LaneDeliveryMutation.repeats (input : LaneDeliveryMutation) (lane : LaneEvidence) : Bool :=
  if input.initial_kickoff then
    lane.revision == saturatingSucc input.expected_revision &&
      lane.generation_id == input.generation_id && lane.launch_state == .Ready &&
      input.kind == some "kickoff" && input.kickoff_operation_id == some lane.kickoff_operation_id &&
      lane.kickoff_message_id == input.message_id &&
      lane.kickoff_delivered_at == input.delivered_at &&
      lane.last_failure == input.error_category &&
      lane.delivery_disposition == input.disposition &&
      lane.visibility == some input.visibility && input.workflow.isNone
  else
    lane.revision == saturatingSucc input.expected_revision &&
      lane.generation_id == input.generation_id &&
      lane.latest_update_message_id == input.message_id && lane.latest_update_kind == input.kind &&
      lane.latest_update_delivered_at == input.delivered_at &&
      lane.visibility == some input.visibility && lane.last_failure == input.error_category &&
      lane.delivery_disposition == input.disposition &&
      input.workflow.all fun workflow => lane.workflow == workflow

/-- A lane whose kickoff can be recorded. -/
def LaneDeliveryMutation.kicksOff (input : LaneDeliveryMutation) (lane : LaneEvidence) : Bool :=
  input.kind == some "kickoff" && input.kickoff_operation_id == some lane.kickoff_operation_id &&
    lane.launch_state == .Ready && lane.kickoff_message_id.isNone && lane.delivery_disposition.isNone

/-- The mutation of `record_lane_delivery`. -/
def LaneDeliveryMutation.mutate (input : LaneDeliveryMutation) (lane : LaneEvidence) :
    Except String LaneEvidence := do
  if lane.generation_id ≠ input.generation_id ∨ lane.workflow = .Retired ∧ input.workflow ≠ some .Retired then
    throw "lane generation conflict or retired"
  let lane := { lane with workflow := input.workflow.getD lane.workflow }
  let lane ←
    if input.initial_kickoff then
      if !input.kicksOff lane then throw "initial kickoff fact conflict"
      else pure { lane with
        kickoff_message_id := input.message_id, kickoff_delivered_at := input.delivered_at }
    else pure { lane with
      latest_update_message_id := input.message_id
      latest_update_kind := input.kind
      latest_update_delivered_at := input.delivered_at }
  return { lane with
    visibility := some input.visibility
    last_failure := input.error_category
    delivery_disposition := input.disposition
    delivery_retry_count := min (lane.delivery_retry_count + 1) (2 ^ 32 - 1) }

/-- `record_lane_delivery`; `seen` is the registry before the lock. -/
def Store.recordLaneDelivery (store : Store α) (codec : RegistryCodec α)
    (written : Except String Unit) (seen : Registry) (input : LaneDeliveryMutation) :
    Except String LaneSnapshot × Store α :=
  if !input.valid then (.error "invalid lane delivery input", store)
  else
    store.answering seen input.session
      (fun lane => recognised input.session lane (input.repeats lane))
      (store.mutateLane codec written input.session input.expected_revision input.mutate)

/-- The mutation of `retire_lane_if_absent`. -/
def LaneRetirementMutation.mutate (input : LaneRetirementMutation) (lane : LaneEvidence) :
    Except String LaneEvidence :=
  if lane.generation_id ≠ input.generation_id then .error "lane generation conflict"
  else if lane.workflow = .Retired ∧ lane.quiesced then .ok lane
  else .ok { lane with workflow := .Retired, quiesced := true }

/-- A lane that the same call retired. -/
def LaneRetirementMutation.repeats (input : LaneRetirementMutation) (lane : LaneEvidence) : Bool :=
  lane.revision == saturatingSucc input.expected_revision &&
    lane.generation_id == input.generation_id && lane.workflow == .Retired && lane.quiesced

/-- `retire_lane_if_absent`; `seen` is the registry before the lock, and `observed` what
`session_exists` says of the session. -/
def Store.retireLaneIfAbsent (store : Store α) (codec : RegistryCodec α)
    (written : Except String Unit) (seen : Registry) (observed : Except String Bool)
    (input : LaneRetirementMutation) : Except String LaneSnapshot × Store α :=
  if !validId input.generation_id then (.error "invalid lane retirement generation", store)
  else
    store.answering seen input.session
      (fun lane => recognised input.session lane (input.repeats lane))
      (match observed with
      | .error e => (.error e, store)
      | .ok true => (.error "lane runtime remains active", store)
      | .ok false =>
        store.mutateLane codec written input.session input.expected_revision input.mutate)

/-- The mutation of `claim_lane`. -/
def claimMutate (generation_id executor_id : String) (lane : LaneEvidence) :
    Except String LaneEvidence := do
  if lane.generation_id ≠ generation_id ∨ lane.executor_id ≠ executor_id then
    throw "lane claim identity conflict"
  if lane.workflow = .Retired then throw "lane claim conflicts with retired workflow"
  let lane :=
    if lane.launch_state = .Ready then { lane with launch_state := .Claimed } else lane
  if lane.launch_state ≠ .Claimed then throw "lane claim conflicts with durable state"
  return lane

/-- `claim_lane`; `seen` is the registry before the lock. -/
def Store.claimLane (store : Store α) (codec : RegistryCodec α) (written : Except String Unit)
    (seen : Registry) (session generation_id executor_id : String) (expected_revision : ℕ) :
    Except String LaneSnapshot × Store α :=
  if !validId generation_id || !validId executor_id then
    (.error "invalid lane claim identity", store)
  else
    store.answering seen session
      (fun lane => if lane.workflow = .Retired then .error "lane claim conflicts with retired workflow"
        else recognised session lane
          (lane.revision == saturatingSucc expected_revision && lane.generation_id == generation_id &&
            lane.executor_id == executor_id && lane.launch_state == .Claimed))
      (store.mutateLane codec written session expected_revision (claimMutate generation_id executor_id))

/-- The mutation of `update_lane_evidence`. -/
def LaneEvidenceMutation.mutate (input : LaneEvidenceMutation) (lane : LaneEvidence) :
    Except String LaneEvidence :=
  if lane.generation_id ≠ input.generation_id ∨ lane.launch_operation_id ≠ input.launch_operation_id ∨
      lane.executor_id ≠ input.executor_id ∨
      lane.worker_effect_kind ≠ input.worker_effect_kind ∨ lane.workflow = .Retired then
    .error "lane immutable identity conflict or retired"
  else if !terminalCategoryIsValid lane.worker_effect_kind input.launch_state
      input.failure_category then
    .error "invalid terminal category for worker effect kind"
  else if !launchTransition lane.launch_state input.launch_state then
    .error "invalid lane launch transition"
  else .ok { lane with launch_state := input.launch_state, last_failure := input.failure_category }

/-- A lane that already shows the evidence. -/
def LaneEvidenceMutation.repeats (input : LaneEvidenceMutation) (lane : LaneEvidence) : Bool :=
  (lane.revision == input.expected_revision || lane.revision == saturatingSucc input.expected_revision) &&
    lane.generation_id == input.generation_id &&
    lane.launch_operation_id == input.launch_operation_id &&
    lane.executor_id == input.executor_id &&
    lane.worker_effect_kind == input.worker_effect_kind &&
    lane.launch_state == input.launch_state && lane.last_failure == input.failure_category

/-- `update_lane_evidence`; `seen` is the registry before the lock. -/
def Store.updateLaneEvidence (store : Store α) (codec : RegistryCodec α)
    (written : Except String Unit) (seen : Registry) (input : LaneEvidenceMutation) :
    Except String LaneSnapshot × Store α :=
  if !validId input.generation_id || !validId input.launch_operation_id ||
      !validId input.executor_id then
    (.error "invalid lane evidence identity", store)
  else
    store.answering seen input.session
      (fun lane => recognised input.session lane (input.repeats lane))
      (store.mutateLane codec written input.session input.expected_revision input.mutate)

/-- The mutation of `update_lane_workflow`. -/
def LaneWorkflowMutation.mutate (input : LaneWorkflowMutation) (lane : LaneEvidence) :
    Except String LaneEvidence :=
  if lane.generation_id ≠ input.generation_id ∨ lane.workflow = .Retired then
    .error "lane generation conflict or retired"
  else if input.workflow = .Retired then .error "use daemon retirement endpoint"
  else .ok { lane with workflow := input.workflow, quiesced := input.quiesced }

/-- A lane that the same call moved on. -/
def LaneWorkflowMutation.repeats (input : LaneWorkflowMutation) (lane : LaneEvidence) : Bool :=
  lane.revision == saturatingSucc input.expected_revision &&
    lane.generation_id == input.generation_id && lane.workflow == input.workflow &&
    lane.quiesced == input.quiesced

/-- `update_lane_workflow`; `seen` is the registry before the lock. -/
def Store.updateLaneWorkflow (store : Store α) (codec : RegistryCodec α)
    (written : Except String Unit) (seen : Registry) (input : LaneWorkflowMutation) :
    Except String LaneSnapshot × Store α :=
  if !validId input.generation_id then (.error "invalid lane workflow generation", store)
  else
    store.answering seen input.session
      (fun lane => recognised input.session lane (input.repeats lane))
      (store.mutateLane codec written input.session input.expected_revision input.mutate)

/-! ## Configured monitors -/

structure TmuxSessionMonitor where
  session : String
  keywords : List String := []
  keyword_window_secs : ℕ := 30
  stale_minutes : ℕ := 10
  channel : Option String := none
  mention : Option String := none
  format : Option MessageFormat := none

/-- `RegisteredTmuxSession::from`, at the time `now`. -/
def TmuxSessionMonitor.registration (now : String) (value : TmuxSessionMonitor) :
    RegisteredTmuxSession where
  session := value.session
  channel := value.channel
  mention := value.mention
  keywords := value.keywords
  keyword_window_secs := value.keyword_window_secs
  stale_minutes := value.stale_minutes
  format := value.format
  registered_at := now

def isSessionPattern (session : String) : Bool := session.toList.contains '*'

structure MonitorSpecificity where
  exact_match : Bool
  literal_chars : ℕ
  wildcard_count : ℕ

def MonitorSpecificity.forPattern (pattern : String) : MonitorSpecificity where
  exact_match := !isSessionPattern pattern
  literal_chars := (pattern.toList.filter (· != '*')).length
  wildcard_count := (pattern.toList.filter (· == '*')).length

def MonitorSpecificity.outranks (self other : MonitorSpecificity) : Bool :=
  if self.exact_match ≠ other.exact_match then self.exact_match
  else if self.literal_chars ≠ other.literal_chars then
    decide (other.literal_chars < self.literal_chars)
  else decide (self.wildcard_count < other.wildcard_count)

def insertResolvedSession (resolved : OrdMap String (MonitorSpecificity × RegisteredTmuxSession))
    (session : String) (specificity : MonitorSpecificity) (registration : RegisteredTmuxSession) :
    OrdMap String (MonitorSpecificity × RegisteredTmuxSession) :=
  match resolved.get session with
  | some (existing_specificity, _) =>
    if !specificity.outranks existing_specificity then resolved
    else resolved.insert session (specificity, registration)
  | none => resolved.insert session (specificity, registration)

/-- One registration of `resolve_monitored_sessions`. -/
def resolveRegistration (available_sessions : List String)
    (resolved : OrdMap String (MonitorSpecificity × RegisteredTmuxSession))
    (registration : RegisteredTmuxSession) :
    OrdMap String (MonitorSpecificity × RegisteredTmuxSession) :=
  let specificity := MonitorSpecificity.forPattern registration.session
  let matched_sessions :=
    available_sessions.filter fun session => Router.globMatch registration.session session
  if matched_sessions.isEmpty then
    if isSessionPattern registration.session then resolved
    else insertResolvedSession resolved registration.session specificity registration
  else
    matched_sessions.foldl (fun resolved session =>
      insertResolvedSession resolved session specificity { registration with session := session })
      resolved

def resolveMonitoredSessions (configured_sessions : List RegisteredTmuxSession)
    (available_sessions : List String) : Registry :=
  (configured_sessions.foldl (resolveRegistration available_sessions) []).map
    fun entry => (entry.1, entry.2.2)

/-- A registration with the time and the parent of the one in its place. -/
def RegisteredTmuxSession.keeping (registration existing : RegisteredTmuxSession) :
    RegisteredTmuxSession :=
  { registration with
    registered_at := existing.registered_at, parent_process := existing.parent_process }

/-- One session of `merge_active_config_registrations`. -/
def Registry.mergeConfig (registry : Registry) (entry : String × RegisteredTmuxSession) : Registry :=
  match OrdMap.get registry entry.1 with
  | none => OrdMap.insert registry entry.1 entry.2
  | some existing =>
    if existing.active_wrapper_monitor then registry
    else if existing.lane.any fun lane => lane.workflow != .Retired then registry
    else if existing.registration_source = .ConfigMonitor then
      OrdMap.insert registry entry.1 (entry.2.keeping existing)
    else OrdMap.insert registry entry.1 entry.2

def mergeActiveConfigRegistrations (registry active_config : Registry) : Registry :=
  active_config.foldl Registry.mergeConfig (registry.filter fun entry =>
    entry.2.active_wrapper_monitor || entry.2.registration_source != .ConfigMonitor ||
      (OrdMap.get active_config entry.1).isSome)

/-- The configured registrations of the sessions that are available. -/
def activeConfig (monitors : List TmuxSessionMonitor) (now : String)
    (available_sessions : List String) (existing_registry : Registry) : Registry :=
  ((resolveMonitoredSessions (monitors.map (·.registration now)) available_sessions).filter
    fun entry => available_sessions.contains entry.1).map fun entry =>
      match (OrdMap.get existing_registry entry.1).filter fun existing =>
        !existing.active_wrapper_monitor && existing.registration_source == .ConfigMonitor with
      | some existing => (entry.1, entry.2.keeping existing)
      | none => entry

/-- `sync_active_config_registrations`: the file is left alone. -/
def Store.syncActiveConfigRegistrations (store : Store α) (monitors : List TmuxSessionMonitor)
    (now : String) (available_sessions : List String) : Store α :=
  { store with
    registry := mergeActiveConfigRegistrations store.registry
      (activeConfig monitors now available_sessions store.registry) }

end Clawhip.Tmux
