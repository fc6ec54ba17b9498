import Clawhip.Tmux.Registry

/-!
# Runs of a daemon over the tmux registry

The operations of the registry, in the order in which they get its lock. A call mints its generation
before it waits for the lock, and reads the registry without the lock before and after. The lemmas say
what one call can do to the registry and to its file.
-/

namespace Clawhip.Tmux

open List Option OrdMap RegisteredTmuxSession OrdMap

/-! ## Calls -/

/-- What happens to a daemon: a call mints a generation, or gets the lock. `written` is the answer of
the file system to the save, `seen` the registry that the call read before, and `later` what becomes of
the registry before the call reads it again. -/
inductive Call where
  | mint
  /-- `register_runtime_tmux_registration`, with one of the generations that wait to be used. -/
  | registerRuntime (minted : ℕ) (registration : RegisteredTmuxSession) (written : Except String Unit)
  | registerLane (minted : ℕ) (input : LaneRegistrationInput) (later : Registry → Registry)
      (written : Except String Unit)
  | remove (sessions : List String) (written : Except String Unit)
  | prune (candidates : List AbsentRegistrationCandidate) (written : Except String Unit)
  | recordVerification (seen : Registry) (input : LaneVerificationMutation)
      (written : Except String Unit)
  | recordDelivery (seen : Registry) (input : LaneDeliveryMutation) (written : Except String Unit)
  | retire (seen : Registry) (observed : Except String Bool) (input : LaneRetirementMutation)
      (written : Except String Unit)
  | claim (seen : Registry) (session generation_id executor_id : String) (expected_revision : ℕ)
      (written : Except String Unit)
  | updateEvidence (seen : Registry) (input : LaneEvidenceMutation) (written : Except String Unit)
  | updateWorkflow (seen : Registry) (input : LaneWorkflowMutation) (written : Except String Unit)
  /-- `sync_active_config_registrations`. -/
  | sync (monitors : List TmuxSessionMonitor) (now : String) (available_sessions : List String)

/-- The answer to a call. -/
inductive Answer where
  | minted (generation : ℕ)
  | count (answer : Except String ℕ)
  | removed (answer : Except String (List RegisteredTmuxSession))
  | detail (answer : Except String LaneDetail)
  | snapshot (answer : Except String LaneSnapshot)
  | synced
  /-- There is no generation that waits to be used at this place: no call is there. -/
  | nobody

/-- An answer that is an error. -/
def Answer.isErr : Answer → Bool
  | .count answer => !answer.isOk
  | .removed answer => !answer.isOk
  | .detail answer => !answer.isOk
  | .snapshot answer => !answer.isOk
  | .minted _ | .synced | .nobody => false

/-- The allocator, the generations of the calls that wait for the lock, and the registry with its
file. -/
structure Daemon (α : Type) where
  next_generation : ℕ := 1
  minted : List ℕ := []
  store : Store α := {}

variable {α : Type} (codec : RegistryCodec α)

def Daemon.start (file : Option α) : Daemon α :=
  let (next_generation, registry) := loadTmuxRegistryState codec 1 file
  { next_generation, store := { registry, file } }

/-- A registration as a request carries it: the lane is skipped. -/
def RegisteredTmuxSession.decoded (registration : RegisteredTmuxSession) : RegisteredTmuxSession :=
  { registration with lane := none }

/-- The registry and its file after a call that uses `generation` if it registers anything. -/
def Call.on (call : Call) (generation : ℕ) (store : Store α) : Answer × Store α :=
  match call with
  | .mint => (.minted generation, store)
  | .registerRuntime _ registration written =>
    let (answer, store) :=
      store.registerRuntimeTmuxRegistration codec written generation registration.decoded
    (.count answer, store)
  | .registerLane _ input later written =>
    let (answer, store) := store.registerLaneRegistration codec written generation later input
    (.detail answer, store)
  | .remove sessions written =>
    let (answer, store) := store.removeTmuxRegistrations codec written sessions
    (.count answer, store)
  | .prune candidates written =>
    let (answer, store) := store.pruneAbsentDynamicRegistrations codec written candidates
    (.removed answer, store)
  | .recordVerification seen input written =>
    let (answer, store) := store.recordLaneVerification codec written seen input
    (.snapshot answer, store)
  | .recordDelivery seen input written =>
    let (answer, store) := store.recordLaneDelivery codec written seen input
    (.snapshot answer, store)
  | .retire seen observed input written =>
    let (answer, store) := store.retireLaneIfAbsent codec written seen observed input
    (.snapshot answer, store)
  | .claim seen session generation_id executor_id expected_revision written =>
    let (answer, store) :=
      store.claimLane codec written seen session generation_id executor_id expected_revision
    (.snapshot answer, store)
  | .updateEvidence seen input written =>
    let (answer, store) := store.updateLaneEvidence codec written seen input
    (.snapshot answer, store)
  | .updateWorkflow seen input written =>
    let (answer, store) := store.updateLaneWorkflow codec written seen input
    (.snapshot answer, store)
  | .sync monitors now available_sessions =>
    (.synced, store.syncActiveConfigRegistrations monitors now available_sessions)

/-- The place of the generation that a call uses. -/
def Call.place : Call → Option ℕ
  | .registerRuntime minted _ _ => some minted
  | .registerLane minted _ _ _ => some minted
  | _ => none

def Daemon.step (daemon : Daemon α) (call : Call) : Daemon α × Answer :=
  match call with
  | .mint =>
    let (generation, next_generation) := mintRegistrationGeneration daemon.next_generation
    ({ daemon with next_generation, minted := daemon.minted ++ [generation] }, .minted generation)
  | call =>
    match call.place with
    | none =>
      let (answer, store) := call.on codec 0 daemon.store
      ({ daemon with store }, answer)
    | some place =>
      match daemon.minted[place]? with
      | none => (daemon, .nobody)
      | some generation =>
        let (answer, store) := call.on codec generation daemon.store
        ({ daemon with minted := daemon.minted.eraseIdx place, store }, answer)

def daemonMachine : Machine (Daemon α) Call Answer where
  step daemon call := daemon.step codec call

@[simp] theorem daemonMachine_step (daemon : Daemon α) (call : Call) :
    (daemonMachine codec).step daemon call = daemon.step codec call := rfl

/-! ## What a call does -/

def Store.holding (next : Registry) : Store α where
  registry := next
  file := some (codec.write (durableRuntimeEntries next))

variable {codec}

variable {written : Except String Unit} {β : Type} {registry active_config : Registry} {session : String}
  {registration : RegisteredTmuxSession}
  {resolved : OrdMap String (MonitorSpecificity × RegisteredTmuxSession)} {call : Call} {generation : ℕ}
  {store : Store α}

theorem Store.swap_error (store : Store α) {e : String} (hwritten : written = .error e) (next : Registry)
    (answer : ℕ → β) : store.swap codec written next answer = (.error e, store) := by
  subst hwritten
  rfl

theorem Store.swap_ok (store : Store α) (hwritten : written = .ok ()) (next : Registry) (answer : ℕ → β) :
    store.swap codec written next answer = (.ok (answer (durableRuntimeEntries next).length), .holding codec next) := by
  subst hwritten
  rfl

/-- The mutation of a lane that a call is about, if it is about one. -/
def Call.Mutates : Call → String → LaneEvidence → LaneEvidence → Prop
  | .recordVerification _ input _, session, lane, lane' =>
    session = input.session ∧ input.mutate lane = .ok lane'
  | .recordDelivery _ input _, session, lane, lane' =>
    session = input.session ∧ input.mutate lane = .ok lane'
  | .retire _ observed input _, session, lane, lane' =>
    session = input.session ∧ observed = .ok false ∧ input.mutate lane = .ok lane'
  | .claim _ claimed generation_id executor_id _ _, session, lane, lane' =>
    session = claimed ∧ claimMutate generation_id executor_id lane = .ok lane'
  | .updateEvidence _ input _, session, lane, lane' =>
    session = input.session ∧ input.mutate lane = .ok lane'
  | .updateWorkflow _ input _, session, lane, lane' =>
    session = input.session ∧ input.mutate lane = .ok lane'
  | _, _, _, _ => False

/-- A session without a lane, or with a retired one. -/
def Registry.Free (registry : Registry) (session : String) : Prop :=
  ∀ lane, registry.lane session = some lane → lane.workflow = .Retired

/-- The registration that `register_runtime_tmux_registration` puts into the registry. -/
def RegisteredTmuxSession.registered (registration : RegisteredTmuxSession) (generation : ℕ) :
    RegisteredTmuxSession :=
  { registration with
    registration_source := normalizeRuntimeRegistrationSource registration.registration_source
    registration_generation := generation }

/-- The registries that a call can store over a registry. -/
inductive Writes (registry : Registry) (generation : ℕ) : Call → Registry → Prop
  | registerRuntime (minted : ℕ) (registration : RegisteredTmuxSession)
      (hfree : registry.Free registration.session) :
      Writes registry generation (.registerRuntime minted registration (.ok ()))
        (OrdMap.insert registry registration.session (registration.decoded.registered generation))
  | registerLane (minted : ℕ) (input : LaneRegistrationInput) (later : Registry → Registry)
      (hanswer : input.answer generation registry = none) :
      Writes registry generation (.registerLane minted input later (.ok ()))
        (OrdMap.insert registry input.registration.session
          { input.public generation with lane := some input.lane })
  | remove (sessions : List String) :
      Writes registry generation (.remove sessions (.ok ()))
        (registry.takeOut id (fun _ registration => registration.removable) sessions).1
  | prune (candidates : List AbsentRegistrationCandidate) :
      Writes registry generation (.prune candidates (.ok ()))
        (registry.takeOut AbsentRegistrationCandidate.session AbsentRegistrationCandidate.matches candidates).1
  | mutate {call : Call} {session : String} {registration : RegisteredTmuxSession}
      {lane lane' : LaneEvidence} (hget : OrdMap.get registry session = some registration)
      (hlane : registration.lane = some lane) (hmutates : call.Mutates session lane lane') :
      Writes registry generation call
        (OrdMap.insert registry session
          { registration with lane := some { lane' with revision := lane'.revision + 1 } })

variable (codec) in
/-- A lane that passes its mutation is stored, or nothing changes. -/
theorem Store.mutateLane_cases (store : Store α) (written : Except String Unit) (session : String)
    (expected_revision : ℕ) (mutate : LaneEvidence → Except String LaneEvidence) :
    (∃ e, store.mutateLane codec written session expected_revision mutate = (.error e, store)) ∨
      ∃ registration lane lane', OrdMap.get store.registry session = some registration ∧
        registration.lane = some lane ∧ lane.revision = expected_revision ∧ written = .ok () ∧
        mutate lane = .ok lane' ∧ lane'.revision ≠ U64_MAX ∧
        store.mutateLane codec written session expected_revision mutate =
          (.ok (laneSnapshot session { lane' with revision := lane'.revision + 1 } none),
            .holding codec (OrdMap.insert store.registry session
              { registration with lane := some { lane' with revision := lane'.revision + 1 } })) := by
  unfold mutateLane
  cases hget : OrdMap.get store.registry session with
  | none => exact .inl ⟨_, rfl⟩
  | some registration =>
    cases hlane : registration.lane with
    | none => exact .inl ⟨"session has no lane evidence", by simp only [hlane]⟩
    | some lane =>
      simp only [hlane]
      by_cases hrevision : lane.revision = expected_revision
      · rw [if_neg (not_not_intro hrevision)]
        cases hmutate : mutate lane with
        | error e => exact .inl ⟨e, rfl⟩
        | ok lane' =>
          simp only
          by_cases hmax : lane'.revision = U64_MAX
          · exact .inl ⟨_, by rw [if_pos hmax]⟩
          · rw [if_neg hmax]
            cases hwritten : written with
            | error e => exact .inl ⟨e, store.swap_error rfl _ _⟩
            | ok _ =>
              exact .inr ⟨registration, lane, lane', rfl, hlane, hrevision, rfl, hmutate, hmax, store.swap_ok rfl _ _⟩
      · exact .inl ⟨_, by rw [if_pos hrevision]⟩

/-- The lane of a session that `takeOut` leaves. -/
theorem Registry.lane_eq_some {lane : LaneEvidence} :
    registry.lane session = some lane ↔ ∃ registration, get registry session = some registration ∧
        registration.lane = some lane :=
  bind_eq_some_iff

/-- A call that looks before the lock answers from what it sees, or goes on. -/
theorem Store.answering_cases (store : Store α) (seen : Registry) (session : String)
    (answer : LaneEvidence → Except String (Option LaneSnapshot))
    (next : Except String LaneSnapshot × Store α) : (store.answering seen session answer next).2 = store ∨
      store.answering seen session answer next = next := by
  unfold answering
  cases seen.lane session with
  | none => exact .inl rfl
  | some lane =>
    cases hanswer : answer lane with
    | error e => exact .inl (by simp only [hanswer])
    | ok snapshot =>
      cases snapshot with
      | none => exact .inr (by simp only [hanswer])
      | some snapshot => exact .inl (by simp only [hanswer])

/-! ## Entries -/

variable {κ : Type}

/-- A session is taken out for a key that removes it, or it is left as it is. -/
theorem Registry.get_takeOut (session : κ → String)
    (removable : κ → RegisteredTmuxSession → Bool) (keys : List κ) (registry : Registry) (name : String) :
    get (registry.takeOut session removable keys).1 name = get registry name ∨
      ∃ key ∈ keys, session key = name ∧ get (registry.takeOut session removable keys).1 name = none ∧
        ∃ registration, get registry name = some registration ∧ removable key registration = true := by
  induction keys generalizing registry with
  | nil => exact .inl rfl
  | cons key keys ih =>
    unfold takeOut
    cases hget : get registry (session key) with
    | none => exact (ih registry).imp_right fun ⟨key', hkey', hrest⟩ => ⟨key', mem_cons_of_mem key hkey', hrest⟩
    | some registration =>
      by_cases hremovable : removable key registration = true
      · simp only [if_pos hremovable]
        by_cases hname : name = session key
        · subst hname
          refine .inr ⟨key, mem_cons_self, rfl, ?_, registration, hget, hremovable⟩
          rcases ih (erase registry (session key)) with h | ⟨_, _, _, h, _⟩
          · rw [h, get_erase_self]
          · exact h
        · have hsame := get_erase_ne registry hname
          rcases ih (erase registry (session key)) with h | ⟨key', hkey', hsession, h, hold⟩
          · exact .inl (h.trans hsame)
          · exact .inr ⟨key', mem_cons_of_mem _ hkey', hsession, h, by rwa [hsame] at hold⟩
      · simp only [if_neg hremovable]
        exact (ih registry).imp_right fun ⟨key', hkey', hrest⟩ => ⟨key', mem_cons_of_mem key hkey', hrest⟩

theorem Registry.nodup_takeOut {session : κ → String}
    {removable : κ → RegisteredTmuxSession → Bool} (keys : List κ) (h : OrdMap.keys registry |>.Nodup) :
    (OrdMap.keys (registry.takeOut session removable keys).1).Nodup := by
  induction keys generalizing registry with
  | nil => exact h
  | cons key keys ih =>
    unfold takeOut
    cases get registry (session key) with
    | none => exact ih h
    | some registration =>
      simp only
      split_ifs
      · exact ih (nodup_erase h _)
      · exact ih h

/-- A registration that `RegisteredTmuxSession::from` made of a configured monitor. -/
structure RegisteredTmuxSession.FromConfig (registration : RegisteredTmuxSession) : Prop where
  lane : registration.lane = none
  source : registration.registration_source = .ConfigMonitor
  generation : registration.registration_generation = 0
  wrapper : registration.active_wrapper_monitor = false

theorem RegisteredTmuxSession.FromConfig.keeping (h : registration.FromConfig) (existing : RegisteredTmuxSession) :
    (registration.keeping existing).FromConfig := ⟨h.lane, h.source, h.generation, h.wrapper⟩

theorem insertResolvedSession_fromConfig {specificity : MonitorSpecificity}
    (h : All (fun entry => entry.2.FromConfig) resolved) (hnew : registration.FromConfig) :
    All (fun entry => entry.2.FromConfig) (insertResolvedSession resolved session specificity registration) := by
  unfold insertResolvedSession
  split
  · split_ifs
    · exact h
    · exact h.insert hnew
  · exact h.insert hnew

/-- What is resolved of a registration that comes from the configuration. -/
theorem resolveRegistration_fromConfig (available_sessions : List String)
    (h : All (fun entry => entry.2.FromConfig) resolved) (hnew : registration.FromConfig) :
    All (fun entry => entry.2.FromConfig) (resolveRegistration available_sessions resolved registration) := by
  unfold resolveRegistration
  simp only
  split_ifs
  · exact h
  · exact insertResolvedSession_fromConfig h hnew
  · generalize available_sessions.filter _ = sessions
    induction sessions generalizing resolved with
    | nil => exact h
    | cons session sessions ih =>
      exact ih (insertResolvedSession_fromConfig h ⟨hnew.lane, hnew.source, hnew.generation, hnew.wrapper⟩)

/-- What is resolved of configured monitors comes from the configuration. -/
theorem resolveMonitoredSessions_fromConfig {configured_sessions : List RegisteredTmuxSession}
    (h : ∀ registration ∈ configured_sessions, registration.FromConfig) (available_sessions : List String) :
    All FromConfig (resolveMonitoredSessions configured_sessions available_sessions) := by
  have hall (resolved : OrdMap String (MonitorSpecificity × RegisteredTmuxSession))
      (hresolved : All (fun entry => entry.2.FromConfig) resolved) :
      All (fun entry => entry.2.FromConfig)
        (configured_sessions.foldl (resolveRegistration available_sessions) resolved) := by
    induction configured_sessions generalizing resolved with
    | nil => exact hresolved
    | cons registration configured_sessions ih =>
      exact ih (fun r hr => h r (mem_cons_of_mem _ hr)) _
        (resolveRegistration_fromConfig available_sessions hresolved (h _ mem_cons_self))
  have hnil : All (fun entry : MonitorSpecificity × RegisteredTmuxSession =>
      entry.2.FromConfig) ([] : OrdMap String (MonitorSpecificity × RegisteredTmuxSession)) := by
    intro _ hnone
    cases hnone
  have hresolved := hall [] hnil
  unfold resolveMonitoredSessions
  generalize configured_sessions.foldl (resolveRegistration available_sessions) [] = resolved at *
  intro entry hentry
  obtain ⟨found, hfound, rfl⟩ := mem_map.mp hentry
  exact hresolved found hfound

/-- The active configured registrations come from the configuration. -/
theorem activeConfig_fromConfig (monitors : List TmuxSessionMonitor) (now : String)
    (available_sessions : List String) (existing_registry : Registry) : All FromConfig
      (activeConfig monitors now available_sessions existing_registry) := by
  intro entry hentry
  obtain ⟨resolved, hresolved, rfl⟩ := mem_map.mp hentry
  have hconfig : resolved.2.FromConfig := by
    refine resolveMonitoredSessions_fromConfig (fun registration hregistration => ?_) _ resolved
      (mem_of_mem_filter hresolved)
    obtain ⟨monitor, -, rfl⟩ := mem_map.mp hregistration
    exact ⟨rfl, rfl, rfl, rfl⟩
  split
  · exact hconfig.keeping _
  · exact hconfig

/-- A registration that `merge_active_config_registrations` may replace. -/
def RegisteredTmuxSession.Replaceable (registration : RegisteredTmuxSession) : Prop :=
  registration.active_wrapper_monitor = false ∧ ∀ lane, registration.lane = some lane → lane.workflow = .Retired

/-- A configured session takes the place of a registration that may be replaced, or nothing happens. -/
theorem Registry.mergeConfig_cases (registry : Registry) (entry : String × RegisteredTmuxSession) :
    registry.mergeConfig entry = registry ∨
      ∃ registration, (registration = entry.2 ∨ ∃ existing, registration = entry.2.keeping existing) ∧
        registry.mergeConfig entry = insert registry entry.1 registration ∧
        ∀ existing, get registry entry.1 = some existing → existing.Replaceable := by
  unfold mergeConfig
  cases hget : get registry entry.1 with
  | none => exact .inr ⟨entry.2, .inl rfl, rfl, fun _ h => by cases h⟩
  | some existing =>
    simp only
    split_ifs with hwrapper hlane hsource
    · exact .inl rfl
    · exact .inl rfl
    all_goals
      have hreplaceable : existing.Replaceable := ⟨by simpa using hwrapper, fun lane heq => by simpa [heq] using hlane⟩
    · exact .inr ⟨_, .inr ⟨existing, rfl⟩, rfl, fun _ h => some.inj h ▸ hreplaceable⟩
    · exact .inr ⟨_, .inl rfl, rfl, fun _ h => some.inj h ▸ hreplaceable⟩

/-- Every session has one registration, and no lane is a configured monitor's. -/
structure Registry.WellFormed (registry : Registry) : Prop where
  nodup : (OrdMap.keys registry).Nodup
  durable : ∀ session registration, OrdMap.get registry session = some registration →
    registration.registration_source = .ConfigMonitor → registration.lane = none

/-- What the configured monitors make of a session. -/
theorem Registry.get_foldl_mergeConfig (hconfig : All FromConfig active_config) (registry : Registry) (name : String) :
    get (active_config.foldl mergeConfig registry) name = get registry name ∨
      ∃ registration, get (active_config.foldl mergeConfig registry) name = some registration ∧
          registration.FromConfig ∧ (get active_config name).isSome = true ∧
          ∀ existing, get registry name = some existing → existing.Replaceable := by
  induction active_config generalizing registry with
  | nil => exact .inl rfl
  | cons entry active_config ih =>
    have hrest : All FromConfig active_config := fun e he => hconfig e (mem_cons_of_mem _ he)
    have hsome (h : (get active_config name).isSome = true) : (get (entry :: active_config) name).isSome = true := by
      rw [get_cons]
      split_ifs
      · rfl
      · exact h
    rw [foldl_cons]
    rcases registry.mergeConfig_cases entry with hsame | ⟨registration, hregistration, hmerge, hold⟩
    · rw [hsame]
      exact (ih hrest registry).imp_right fun ⟨_, h, hnew, hin, hold⟩ => ⟨_, h, hnew, hsome hin, hold⟩
    have hnew : registration.FromConfig := by
      rcases hregistration with rfl | ⟨existing, rfl⟩
      · exact hconfig entry mem_cons_self
      · exact (hconfig entry mem_cons_self).keeping existing
    by_cases hname : name = entry.1
    · subst hname
      have hin : (get (entry :: active_config) entry.1).isSome = true := by
        rw [get_cons, if_pos rfl]
        rfl
      have hget : get (registry.mergeConfig entry) entry.1 = some registration := by rw [hmerge, get_insert_self]
      rcases ih hrest (registry.mergeConfig entry) with h | ⟨last, h, hlast, -, -⟩
      · exact .inr ⟨registration, h.trans hget, hnew, hin, hold⟩
      · exact .inr ⟨last, h, hlast, hin, hold⟩
    · have hlater := ih hrest (registry.mergeConfig entry)
      rw [show get (registry.mergeConfig entry) name = get registry name by
        rw [hmerge, get_insert_ne _ _ hname]] at hlater
      exact hlater.imp_right fun ⟨_, h, hnew, hin, hold⟩ => ⟨_, h, hnew, hsome hin, hold⟩

/-- A configured session takes the place of a registration that may be replaced. -/
theorem Registry.foldl_mergeConfig_replaces (hconfig : All FromConfig active_config) {name : String}
    {existing : RegisteredTmuxSession} (hget : get registry name = some existing)
    (hreplaceable : existing.Replaceable) (hin : (get active_config name).isSome = true) :
    ∃ registration, get (active_config.foldl mergeConfig registry) name = some registration ∧
        registration.FromConfig := by
  induction active_config generalizing registry with
  | nil => cases hin
  | cons entry active_config ih =>
    have hrest : All FromConfig active_config := fun e he => hconfig e (mem_cons_of_mem _ he)
    rw [foldl_cons]
    by_cases hname : name = entry.1
    · subst hname
      have hmerge : ∃ registration, get (registry.mergeConfig entry) entry.1 =
          some registration ∧ registration.FromConfig := by
        have hnew := hconfig entry mem_cons_self
        have hlane : ¬ (existing.lane.any fun lane => lane.workflow != .Retired) = true := by
          cases heq : existing.lane with
          | none => simp
          | some lane => simp [hreplaceable.2 lane heq]
        unfold mergeConfig
        simp only [hget, hreplaceable.1, Bool.false_eq_true, if_false, if_neg hlane]
        split_ifs
        · exact ⟨_, get_insert_self _ _ _, hnew.keeping existing⟩
        · exact ⟨_, get_insert_self _ _ _, hnew⟩
      obtain ⟨registration, hmerge, hnew⟩ := hmerge
      rcases get_foldl_mergeConfig hrest (registry.mergeConfig entry) entry.1 with
        hsame | ⟨last, hlast, hfrom, -, -⟩
      · exact ⟨registration, hsame.trans hmerge, hnew⟩
      · exact ⟨last, hlast, hfrom⟩
    · rw [get_cons, if_neg hname] at hin
      refine ih hrest ?_ hin
      rcases registry.mergeConfig_cases entry with hsame | ⟨registration, -, hmerge, -⟩
      · rw [hsame, hget]
      · rw [hmerge, get_insert_ne _ _ hname, hget]

theorem Registry.nodup_foldl_mergeConfig (active_config : Registry) (h : (keys registry).Nodup) :
    (keys (active_config.foldl mergeConfig registry)).Nodup := by
  induction active_config generalizing registry with
  | nil => exact h
  | cons entry active_config ih =>
    refine ih ?_
    rcases registry.mergeConfig_cases entry with hsame | ⟨registration, -, hmerge, -⟩
    · rwa [hsame]
    · rw [hmerge]
      exact nodup_insert h _ _

/-- What a reconciliation with the configured monitors makes of a session: nothing, or it drops a
configured registration, or it puts one in the place of a registration that may be replaced. -/
theorem get_mergeActiveConfigRegistrations (hformed : registry.WellFormed)
    (hconfig : All FromConfig active_config) (name : String) :
    get (mergeActiveConfigRegistrations registry active_config) name = get registry name ∨
      (∃ existing, get registry name = some existing ∧
        existing.registration_source = .ConfigMonitor ∧ existing.active_wrapper_monitor = false ∧
        get (mergeActiveConfigRegistrations registry active_config) name = none) ∨
      ∃ registration, get (mergeActiveConfigRegistrations registry active_config) name =
            some registration ∧ registration.FromConfig ∧ (get active_config name).isSome = true ∧
          ∀ existing, get registry name = some existing → existing.Replaceable := by
  unfold mergeActiveConfigRegistrations
  generalize hretain : (fun entry : String × RegisteredTmuxSession =>
    entry.2.active_wrapper_monitor || entry.2.registration_source != .ConfigMonitor ||
      (get active_config entry.1).isSome) = retain
  have hfilter := get_filter hformed.nodup retain name
  have hmerge := Registry.get_foldl_mergeConfig hconfig (registry.filter retain) name
  cases hget : get registry name with
  | none =>
    rw [hget] at hfilter
    rw [hfilter] at hmerge
    rcases hmerge with h | ⟨registration, h, hnew, hin, -⟩
    · exact .inl h
    · exact .inr (.inr ⟨registration, h, hnew, hin, fun _ hnone => by cases hnone⟩)
  | some existing =>
    rw [hget, filter_some] at hfilter
    by_cases hkept : retain (name, existing) = true
    · rw [if_pos hkept] at hfilter
      rw [hfilter] at hmerge
      rcases hmerge with h | ⟨registration, h, hnew, hin, hold⟩
      · exact .inl h
      · exact .inr (.inr ⟨registration, h, hnew, hin, hold⟩)
    · rw [if_neg hkept] at hfilter
      rw [hfilter] at hmerge
      rw [← hretain] at hkept
      simp only [Bool.or_eq_true, bne_iff_ne, ne_eq, not_or, not_not, Bool.not_eq_true] at hkept
      obtain ⟨⟨hwrapper, hsource⟩, -⟩ := hkept
      rcases hmerge with h | ⟨registration, h, hnew, hin, -⟩
      · exact .inr (.inl ⟨existing, rfl, hsource, hwrapper, h⟩)
      · have hlane : existing.lane = none := hformed.durable name existing hget hsource
        refine .inr (.inr ⟨registration, h, hnew, hin, fun _ heq => some.inj heq ▸ ⟨hwrapper, ?_⟩⟩)
        simp [hlane]

/-- A registration that reads its lane back finds it unless somebody else took it away meanwhile. -/
def Call.ReadsBack (call : Call) (next : Registry) : Prop :=
  ∀ minted input later written, call = .registerLane minted input later written →
    (later next).lane input.registration.session ≠ none

theorem laneDetailForSession_isOk (h : registry.lane session ≠ none) :
    (laneDetailForSession registry session).isOk = true := by
  obtain ⟨lane, hlane⟩ := ne_none_iff_exists'.mp h
  obtain ⟨registration, hget, hlane⟩ := Registry.lane_eq_some.mp hlane
  unfold laneDetailForSession
  rw [hget]
  simp only [hlane]
  rfl

/-- What may come of a call: the registry and its file stay as they are, or a new registry is stored
and taken over; only the configured monitors go into the registry alone. -/
inductive Outcome (codec : RegistryCodec α) (store : Store α) (generation : ℕ) (call : Call) :
    Answer × Store α → Prop
  | same (answer : Answer) : Outcome codec store generation call (answer, store)
  | writes {answer : Answer} {next : Registry} (hwrites : Writes store.registry generation call next)
      (herr : answer.isErr = true → ¬ call.ReadsBack next) :
      Outcome codec store generation call (answer, .holding codec next)
  | sync {monitors : List TmuxSessionMonitor} {now : String} {available_sessions : List String}
      (hcall : call = .sync monitors now available_sessions) :
      Outcome codec store generation call
        (.synced, store.syncActiveConfigRegistrations monitors now available_sessions)

/-- What comes of a lane mutation that gets the lock. -/
theorem Outcome.of_mutate {expected_revision : ℕ} {mutate : LaneEvidence → Except String LaneEvidence}
    (hmutates : ∀ lane lane', mutate lane = .ok lane' → call.Mutates session lane lane') :
    Outcome codec store generation call (.snapshot (store.mutateLane codec written session expected_revision mutate).1,
        (store.mutateLane codec written session expected_revision mutate).2) := by
  rcases store.mutateLane_cases codec written session expected_revision mutate with
    ⟨e, he⟩ | ⟨registration, lane, lane', hget, hlane, -, -, hmutate, -, hok⟩
  · rw [he]
    exact .same _
  · rw [hok]
    exact .writes (.mutate hget hlane (hmutates lane lane' hmutate)) fun h => by cases h

/-- What comes of a lane mutation that looks before the lock. -/
theorem Outcome.of_answering {seen : Registry} {answer : LaneEvidence → Except String (Option LaneSnapshot)}
    {next : Except String LaneSnapshot × Store α}
    (hnext : Outcome codec store generation call (.snapshot next.1, next.2)) :
    Outcome codec store generation call (.snapshot (store.answering seen session answer next).1,
        (store.answering seen session answer next).2) := by
  rcases store.answering_cases seen session answer next with hsame | hgoes
  · rw [hsame]
    exact .same _
  · rwa [hgoes]

/-- What comes of a call that stores a registry. -/
theorem Outcome.of_swap {next : Registry} {answer : ℕ → β} {wrap : Except String β → Answer}
    (hwrites : written = .ok () → Writes store.registry generation call next)
    (hwrap : ∀ b, (wrap (.ok b)).isErr = false) : Outcome codec store generation call
      (wrap (store.swap codec written next answer).1, (store.swap codec written next answer).2) := by
  cases hwritten : written with
  | error e =>
    rw [store.swap_error rfl]
    exact .same _
  | ok _ =>
    rw [store.swap_ok rfl]
    exact .writes (hwrites hwritten) (by simp [hwrap])

variable (codec) in
/-- What comes of a call. -/
theorem Call.outcome (call : Call) (generation : ℕ) (store : Store α) :
    Outcome codec store generation call (call.on codec generation store) := by
  cases call with
  | mint => exact .same _
  | registerRuntime minted registration written =>
    simp only [on, Store.registerRuntimeTmuxRegistration]
    split_ifs with hretained
    · exact .same _
    · refine .of_swap (fun hwritten => hwritten ▸ .registerRuntime _ _ fun lane hlane => ?_) fun _ => rfl
      have hretained : ¬ (lane.workflow != .Retired) = true := by simpa [decoded, hlane] using hretained
      simpa using hretained
  | registerLane minted input later written =>
    simp only [on, Store.registerLaneRegistration]
    cases hanswer : input.answer generation store.registry with
    | some answer => exact .same _
    | none =>
      cases hwritten : written with
      | error e =>
        simp only [store.swap_error rfl]
        exact .same _
      | ok _ =>
        simp only [store.swap_ok rfl]
        refine .writes (.registerLane _ _ _ hanswer) fun herr hback => ?_
        have hok := laneDetailForSession_isOk (hback _ _ _ _ rfl)
        simp [Answer.isErr, hok] at herr
  | remove sessions written =>
    simp only [on, Store.removeTmuxRegistrations]
    split_ifs
    · exact .same _
    · exact .of_swap (fun hwritten => hwritten ▸ .remove _) fun _ => rfl
  | prune candidates written =>
    simp only [on, Store.pruneAbsentDynamicRegistrations]
    split_ifs
    · exact .same _
    · exact .of_swap (fun hwritten => hwritten ▸ .prune _) fun _ => rfl
  | recordVerification seen input written =>
    refine .of_answering ?_
    split_ifs
    · exact .same _
    · exact .of_mutate fun lane lane' h => ⟨rfl, h⟩
  | recordDelivery seen input written =>
    simp only [on, Store.recordLaneDelivery]
    split_ifs
    · exact .same _
    · exact .of_answering (.of_mutate fun lane lane' h => ⟨rfl, h⟩)
  | retire seen observed input written =>
    simp only [on, Store.retireLaneIfAbsent]
    split_ifs
    · exact .same _
    · refine .of_answering ?_
      match observed with
      | .error e | .ok true => exact .same _
      | .ok false => exact .of_mutate fun lane lane' h => ⟨rfl, rfl, h⟩
  | claim seen session generation_id executor_id expected_revision written =>
    simp only [on, Store.claimLane]
    split_ifs
    · exact .same _
    · exact .of_answering (.of_mutate fun lane lane' h => ⟨rfl, h⟩)
  | updateEvidence seen input written =>
    simp only [on, Store.updateLaneEvidence]
    split_ifs
    · exact .same _
    · exact .of_answering (.of_mutate fun lane lane' h => ⟨rfl, h⟩)
  | updateWorkflow seen input written =>
    simp only [on, Store.updateLaneWorkflow]
    split_ifs
    · exact .same _
    · exact .of_answering (.of_mutate fun lane lane' h => ⟨rfl, h⟩)
  | sync monitors now available_sessions => exact .sync rfl

variable (codec) in
/-- What comes of a call of a daemon. -/
theorem Daemon.step_outcome (daemon : Daemon α) (call : Call) : ∃ generation, Outcome codec daemon.store generation call
      ((daemon.step codec call).2, (daemon.step codec call).1.store) := by
  unfold step
  split
  · exact ⟨0, .same _⟩
  · cases call.place with
    | none => exact ⟨0, call.outcome codec 0 daemon.store⟩
    | some place =>
      cases hminted : daemon.minted[place]? with
      | none => exact ⟨0, by simp only [hminted]; exact .same _⟩
      | some generation => exact ⟨generation, by simp only [hminted]; exact call.outcome codec generation daemon.store⟩

namespace Sample

/-- A codec that keeps the entries as they are. -/
def plainCodec : RegistryCodec (OrdMap String StoredRegistryValue) where
  read entries :=
    if (OrdMap.keys entries).Nodup then .ok entries else .error "duplicate session"
  write entries := entries.map fun entry => (entry.1, .Wrapped entry.2.skipped)

theorem plainCodec_lawful : plainCodec.Lawful where
  nodup := by
    intro content entries h
    unfold plainCodec at h
    simp only at h
    split_ifs at h with hnodup
    rwa [← Except.ok.inj h]
  round_trip := by
    intro entries hnodup
    unfold plainCodec
    have hkeys : keys (entries.map fun entry =>
        (entry.1, StoredRegistryValue.Wrapped entry.2.skipped)) = keys entries := by
      simp [OrdMap.keys]
    simp only [hkeys, if_pos hnodup]

end Sample

end Clawhip.Tmux
