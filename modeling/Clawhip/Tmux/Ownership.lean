import Clawhip.Tmux.Launching

/-!
# Ownership of a launch

What every step of a launch keeps, and what the wrappers rely on of each other: the owner of a generation is
the only one that sends its command and sets the submitted marker. From it, `proven_launches`: a second
wrapper spoils a launch only if it looks for the marker before the owner has set it, or cannot read it.
-/

namespace Clawhip.Tmux

open List Option LaunchWorld

variable {ι α : Type} {codec : RegistryCodec α} {session : String} (launches : Launches ι session)

/-! ## The invariant -/

/-- A lane with the identifiers of a wrapper. -/
structure TmuxNewArgs.Owns (args : TmuxNewArgs) (lane : LaneEvidence) : Prop where
  generation_id : lane.generation_id = args.generation_id
  launch_operation_id : lane.launch_operation_id = args.launch_operation_id

/-- The identity of a generation was verified. -/
def VerifiedIn (log : List (LaunchEntry ι)) (generation_id : String) : Prop :=
  ∃ committer lane marker, .committed committer lane marker ∈ log ∧
    lane.generation_id = generation_id ∧ lane.launch_state = .IdentityVerified

/-- A lane is that of a wrapper that registered it. -/
def OwnedIn (log : List (LaunchEntry ι)) (lane : LaneEvidence) : Prop :=
  ∃ owner, .registered owner lane.generation_id ∈ log ∧ (launches.args owner).Owns lane

/-- The submitted marker that its owner sets. -/
def LaunchWorld.submitted (world : LaunchWorld ι α) : Option String := world.marker LANE_COMMAND_SUBMITTED_OPTION

/-- Nobody but its owner can have spoiled a generation while the owner is running. -/
def Unspoiled (log : List (LaunchEntry ι)) (committer : ι) (generation_id : String) : Prop :=
  ∀ owner, (launches.args owner).generation_id = generation_id →
    .read owner (.Exact (launches.args owner).launch_operation_id) ∉ log ∧ (committer = owner ∨ .ended owner ∈ log)

structure LaunchInv (careful : Prop) (world : LaunchWorld ι α) : Prop where
  registered : ∀ who generation_id, .registered who generation_id ∈ world.log →
    generation_id = (launches.args who).generation_id
  lanes : ∀ lane, world.store.registry.lane session = some lane → OwnedIn launches world.log lane
  verified : ∀ lane, world.store.registry.lane session = some lane →
    lane.launch_state = .IdentityVerified → VerifiedIn world.log lane.generation_id
  created : ∀ who, .created who ∈ world.log →
    (∀ other, .created other ∈ world.log → other = who) ∧ world.tmux.isSome = true ∧
      ∀ value, world.submitted = some value → value = (launches.args who).launch_operation_id
  commits : ∀ committer lane marker, .committed committer lane marker ∈ world.log →
    OwnedIn launches world.log lane
  justified : Justified world.log
  reads : careful → ∀ who, .read who (.Exact (launches.args who).launch_operation_id) ∈ world.log →
    world.submitted.map normalizeLaneMarker = some (launches.args who).launch_operation_id
  spoils : careful → ∀ committer lane marker, .committed committer lane marker ∈ world.log →
    lane.launch_state = .CommandSubmitAmbiguous → Unspoiled launches world.log committer lane.generation_id

/-- What a wrapper relies on: the others write only their own entries, one that has ended writes none, and the
submitted marker stays. -/
structure LaunchRely (who : ι) (world later : LaunchWorld ι α) : Prop where
  log : ∀ entry ∈ world.log, entry ∈ later.log
  own : ∀ entry ∈ later.log, entry.who = who → entry ∈ world.log
  ended : ∀ other, .ended other ∈ world.log → ∀ entry ∈ later.log, entry.who = other → entry ∈ world.log
  submitted : ∀ value, world.submitted = some value → later.submitted = some value

variable (who : ι)

theorem LaunchRely.refl (world : LaunchWorld ι α) : LaunchRely who world world where
  log _ h := h
  own _ h _ := h
  ended _ _ _ h _ := h
  submitted _ h := h

theorem LaunchRely.trans {who : ι} {first second third : LaunchWorld ι α}
    (h : LaunchRely who first second) (h' : LaunchRely who second third) : LaunchRely who first third where
  log entry hentry := h'.log entry (h.log entry hentry)
  own entry hentry hwho := h.own entry (h'.own entry hentry hwho) hwho
  ended other hended entry hentry hother :=
    h.ended other hended entry (h'.ended other (h.log _ hended) entry hentry hother) hother
  submitted value hvalue := h'.submitted value (h.submitted value hvalue)

/-! ## Notes -/

variable {entry : LaunchEntry ι} {world : LaunchWorld ι α} {later log : List (LaunchEntry ι)}
  {lane mutated : LaneEvidence} {careful : Prop} {store : Store α} {tmux : Option (OrdMap String String)}
  {call : Call} {request : LaneRequest} {mine' : LaunchEntry ι → Prop}

/-- What others see of a wrapper that writes an entry while it is running. -/
theorem LaunchRely.of_note {who other : ι} (hne : other ≠ who) (hrunning : .ended who ∉ world.log)
    (hwho : entry.who = who) : LaunchRely other world (world.note entry) where
  log _ h := mem_cons_of_mem _ h
  own e he heq := by
    rcases mem_cons.mp he with rfl | he
    · exact absurd (heq.symm.trans hwho) hne
    · exact he
  ended ended hended e he heq := by
    rcases mem_cons.mp he with rfl | he
    · have hsame : ended = who := heq.symm.trans hwho
      exact absurd (hsame ▸ hended) hrunning
    · exact he
  submitted _ h := h

/-- Nothing that is relied on is in the registry. -/
theorem LaunchRely.of_store (world : LaunchWorld ι α) (store : Store α) : LaunchRely who world { world with store } :=
  ⟨fun _ h => h, fun _ h _ => h, fun _ _ _ h _ => h, fun _ h => h⟩

theorem VerifiedIn.mono {generation_id : String} (h : VerifiedIn log generation_id)
    (hlog : ∀ entry ∈ log, entry ∈ later) : VerifiedIn later generation_id := by
  obtain ⟨committer, lane, marker, hmem, hrest⟩ := h
  exact ⟨committer, lane, marker, hlog _ hmem, hrest⟩

variable {launches}

theorem OwnedIn.mono (h : OwnedIn launches log lane) (hlog : ∀ entry ∈ log, entry ∈ later) :
    OwnedIn launches later lane := by
  obtain ⟨owner, hmem, howns⟩ := h
  exact ⟨owner, hlog _ hmem, howns⟩

/-- What is said of an entry when it is written. -/
structure Notable (launches : Launches ι session) (careful : Prop) (world : LaunchWorld ι α)
    (entry : LaunchEntry ι) : Prop where
  justified : entry.Justified world.log
  registered : ∀ who generation_id, entry = .registered who generation_id →
    generation_id = (launches.args who).generation_id
  created : ∀ who, entry = .created who → (∀ other, .created other ∉ world.log) ∧ world.tmux.isSome = true ∧
      ∀ value, world.submitted = some value → value = (launches.args who).launch_operation_id
  commits : ∀ committer lane marker, entry = .committed committer lane marker → OwnedIn launches world.log lane
  reads : careful → ∀ who, entry = .read who (.Exact (launches.args who).launch_operation_id) →
    world.submitted.map normalizeLaneMarker = some (launches.args who).launch_operation_id ∧
      ∀ committer lane marker, .committed committer lane marker ∈ world.log →
        lane.launch_state = .CommandSubmitAmbiguous → lane.generation_id ≠ (launches.args who).generation_id
  spoils : careful → ∀ committer lane marker, entry = .committed committer lane marker →
    lane.launch_state = .CommandSubmitAmbiguous → Unspoiled launches world.log committer lane.generation_id

section

variable (h : LaunchInv launches careful world)
include h

/-- The invariant of a world with one entry more. -/
theorem LaunchInv.note (hentry : Notable launches careful world entry) : LaunchInv launches careful (world.note entry) where
  registered who generation_id hmem := by
    rcases mem_cons.mp hmem with heq | hmem
    · exact hentry.registered who generation_id heq.symm
    · exact h.registered who generation_id hmem
  lanes lane hlane := (h.lanes lane hlane).mono fun _ => mem_cons_of_mem _
  verified lane hlane hstate := (h.verified lane hlane hstate).mono fun _ => mem_cons_of_mem _
  created who hwho := by
    rcases mem_cons.mp hwho with heq | hwho
    · obtain ⟨hfirst, hrest⟩ := hentry.created who heq.symm
      refine ⟨fun other hother => ?_, hrest⟩
      rcases mem_cons.mp hother with heq' | hother
      · exact LaunchEntry.created.inj (heq'.trans heq.symm)
      · exact absurd hother (hfirst other)
    · obtain ⟨honly, hrest⟩ := h.created who hwho
      refine ⟨fun other hother => ?_, hrest⟩
      rcases mem_cons.mp hother with heq | hother
      · exact absurd hwho ((hentry.created other heq.symm).1 who)
      · exact honly other hother
  commits committer lane marker hmem := by
    refine OwnedIn.mono ?_ fun _ => mem_cons_of_mem entry
    rcases mem_cons.mp hmem with heq | hmem
    · exact hentry.commits committer lane marker heq.symm
    · exact h.commits committer lane marker hmem
  justified := ⟨hentry.justified, h.justified⟩
  reads hcareful who hmem := by
    rcases mem_cons.mp hmem with heq | hmem
    · exact (hentry.reads hcareful who heq.symm).1
    · exact h.reads hcareful who hmem
  spoils hcareful committer lane marker hmem hstate owner howner := by
    have hunspoiled : Unspoiled launches world.log committer lane.generation_id := by
      rcases mem_cons.mp hmem with heq | hmem
      · exact hentry.spoils hcareful committer lane marker heq.symm hstate
      · exact h.spoils hcareful committer lane marker hmem hstate
    obtain ⟨hunread, hwho⟩ := hunspoiled owner howner
    refine ⟨fun hread => ?_, hwho.imp_right (mem_cons_of_mem _)⟩
    rcases mem_cons.mp hread with heq | hread
    · rcases mem_cons.mp hmem with hcommit | hmem
      · -- One entry is not both a read and a commit.
        exact nomatch heq.trans hcommit.symm
      · exact (hentry.reads hcareful owner heq.symm).2 committer lane marker hmem hstate howner.symm
    · exact hunread hread

/-- The invariant of another registry. -/
theorem LaunchInv.with_store
    (hlanes : ∀ lane, store.registry.lane session = some lane → OwnedIn launches world.log lane ∧
      (lane.launch_state = .IdentityVerified → VerifiedIn world.log lane.generation_id)) :
    LaunchInv launches careful { world with store } where
  registered := h.registered
  lanes lane hlane := (hlanes lane hlane).1
  verified lane hlane hstate := (hlanes lane hlane).2 hstate
  created := h.created
  commits := h.commits
  justified := h.justified
  reads := h.reads
  spoils := h.spoils

/-- The invariant of another session. -/
theorem LaunchInv.with_tmux
    (hsubmitted : ∀ value, world.submitted = some value → { world with tmux }.submitted = some value)
    (hcreated : ∀ who, .created who ∈ world.log → tmux.isSome = true ∧
      ∀ value, { world with tmux }.submitted = some value → value = (launches.args who).launch_operation_id) :
    LaunchInv launches careful { world with tmux } where
  registered := h.registered
  lanes := h.lanes
  verified := h.verified
  created who hwho := ⟨(h.created who hwho).1, hcreated who hwho⟩
  commits := h.commits
  justified := h.justified
  reads hcareful who hread := by
    obtain ⟨value, hvalue, hnormal⟩ := map_eq_some_iff.mp (h.reads hcareful who hread)
    rw [hsubmitted value hvalue, ← hnormal]
    rfl
  spoils := h.spoils

end

/-- What others see of another session: its submitted marker stays. -/
theorem LaunchRely.of_tmux (world : LaunchWorld ι α) (hsubmitted : ∀ value, world.submitted = some value →
      { world with tmux }.submitted = some value) : LaunchRely who world { world with tmux } :=
  ⟨fun _ h => h, fun _ h _ => h, fun _ _ _ h _ => h, hsubmitted⟩

/-! ## Calls -/

variable (codec session) in
/-- What a call about a lane does to the lane of a session. -/
theorem call_lane (hrequest : call.request = some request) (store : Store α) :
    (call.on codec 0 store).2.registry.lane session = store.registry.lane session ∨
      ∃ lane mutated, store.registry.lane session = some lane ∧ request.admitted = true ∧
        request.mutate lane = .ok mutated ∧ lane.Grows mutated ∧
        (call.on codec 0 store).2.registry.lane session = some mutated.revised := by
  have hasks : Call.Asks codec request store (call.on codec 0 store) := call.asks hrequest 0 store
  obtain ⟨answer, -, hanswered⟩ := hasks.answered
  generalize (call.on codec 0 store).2 = later at hanswered
  cases hanswered with
  | refused | repeated => exact .inl rfl
  | recorded hget hrecords =>
    by_cases hsession : session = request.session
    · subst hsession
      exact .inr ⟨_, _, hrecords.held, hrecords.admitted, hrecords.mutate,
        call.grows hrequest hrecords.admitted hrecords.mutate, Registry.lane_insert_self⟩
    · exact .inl (Registry.lane_insert_ne hsession)

/-- A snapshot that a call answers, which saw the registry as it is, shows the lane as it is then: a repeated
request's, or the one that was recorded. -/
theorem call_snapshot (hrequest : call.request = some request) (hseen : request.seen = store.registry)
    {snapshot : LaneSnapshot} (h : snapshotOf (call.on codec 0 store).1 = .ok snapshot) :
    ∃ lane, (call.on codec 0 store).2.registry.lane request.session = some lane ∧
      snapshot = laneSnapshot request.session lane none ∧ (request.look lane = .ok true ∨
        ∃ held mutated, request.mutate held = .ok mutated ∧ lane = mutated.revised) := by
  have hasks : Call.Asks codec request store (call.on codec 0 store) := call.asks hrequest 0 store
  obtain ⟨answer, hanswer, hanswered⟩ := hasks.answered
  rw [hanswer] at h
  have h : answer = .ok snapshot := h
  generalize (call.on codec 0 store).2 = later at hanswered
  subst h
  cases hanswered with
  | repeated hshown hlook => exact ⟨_, hseen ▸ hshown, rfl, .inl hlook⟩
  | recorded hget hrecords => exact ⟨_, Registry.lane_insert_self, rfl, .inr ⟨_, _, hrecords.mutate, rfl⟩⟩

/-- The operations of others keep the launch state. -/
theorem others_launch (call : Call) (hothers : others call = true)
    (hrequest : call.request = some request) (hmutate : request.mutate lane = .ok mutated) :
    mutated.launch_state = lane.launch_state := by
  cases call with
  | recordVerification seen input written =>
    cases hrequest
    simp only [LaneVerificationMutation.mutate] at hmutate
    split_ifs at hmutate
    cases hmutate
    rfl
  | recordDelivery seen input written =>
    cases hrequest
    obtain ⟨-, rfl⟩ := input.mutate_ok hmutate
    unfold LaneDeliveryMutation.delivered
    split_ifs <;> rfl
  | retire seen observed input written =>
    cases hrequest
    simp only [LaneRetirementMutation.mutate] at hmutate
    split_ifs at hmutate
    · cases hmutate
      rfl
    · cases hmutate
      rfl
  | updateWorkflow seen input written =>
    cases hrequest
    simp only [LaneWorkflowMutation.mutate] at hmutate
    split_ifs at hmutate
    cases hmutate
    rfl
  | _ => cases hothers

theorem others_request (hothers : others call = true) : ∃ request, call.request = some request := by
  cases call with
  | recordVerification | recordDelivery | retire | updateWorkflow => exact ⟨_, rfl⟩
  | _ => cases hothers

theorem OwnedIn.of_grows (h : OwnedIn launches log lane) (hgrows : lane.Grows mutated) :
    OwnedIn launches log mutated.revised := by
  obtain ⟨owner, hmem, howns⟩ := h
  have hgeneration : mutated.revised.generation_id = lane.generation_id := hgrows.identity.generation_id
  refine ⟨owner, hgeneration ▸ hmem, hgeneration.trans howns.generation_id, ?_⟩
  exact hgrows.identity.launch_operation_id.trans howns.launch_operation_id

/-- What others see of a wrapper that ends. -/
theorem LaunchRely.of_ended {who other : ι} (hne : other ≠ who) (world : LaunchWorld ι α) :
    LaunchRely other world (world.note (.ended who)) where
  log _ h := mem_cons_of_mem _ h
  own e he heq := by
    rcases mem_cons.mp he with rfl | he
    · exact absurd heq.symm hne
    · exact he
  ended ended hended e he heq := by
    rcases mem_cons.mp he with rfl | he
    · have hsame : who = ended := heq
      exact hsame ▸ hended
    · exact he
  submitted _ h := h

theorem LaunchInv.ended (h : LaunchInv launches careful world) (who : ι) :
    LaunchInv launches careful (world.note (.ended who)) :=
  h.note
    { justified := trivial
      created := fun _ hentry => nomatch hentry
      commits := fun _ _ _ hentry => nomatch hentry
      reads := fun _ _ hentry => nomatch hentry
      spoils := fun _ _ _ _ hentry _ => nomatch hentry
      registered := fun _ _ hentry => nomatch hentry }

theorem LaunchInv.disturbed (h : LaunchInv launches careful world) (hothers : others call = true) :
    LaunchInv launches careful { world with store := (call.on codec 0 world.store).2 } := by
  obtain ⟨request, hrequest⟩ := others_request hothers
  refine h.with_store fun later hlater => ?_
  rcases call_lane codec session hrequest world.store with
    hsame | ⟨lane, mutated, hlane, -, hmutate, hgrows, hnext⟩
  · rw [hsame] at hlater
    exact ⟨h.lanes later hlater, h.verified later hlater⟩
  · rw [hnext] at hlater
    obtain rfl := some.inj hlater
    refine ⟨(h.lanes lane hlane).of_grows hgrows, fun hstate => ?_⟩
    have hwas : lane.launch_state = .IdentityVerified := (others_launch _ hothers hrequest hmutate).symm.trans hstate
    have hverified := h.verified lane hlane hwas
    rwa [← hgrows.identity.generation_id] at hverified

variable (launches codec) in
/-- What the wrappers keep to; `careful` says whether second wrappers read with care. -/
def launchContract (careful : Prop) : Contract (launchShared codec session : Shared ι _ _ _ _) where
  inv := LaunchInv launches careful
  rely := LaunchRely
  allowed who request choice world := careful → CarefulRead launches who request choice world
  refl := LaunchRely.refl
  trans _ _ _ _ h h' := h.trans h'
  halt who world h := ⟨h.ended who, fun _ hne => .of_ended hne world⟩
  disturb call world h := by
    simp only [launchShared]
    split
    · rename_i hothers
      exact ⟨h.disturbed hothers, fun other => .of_store other world _⟩
    · exact ⟨h, fun other => .refl other world⟩

/-! ## What a wrapper knows -/

/-- What a wrapper knows while it is running: which entries it has written at most, and some that are
there. -/
structure Knows (who : ι) (mine : LaunchEntry ι → Prop) (facts : List (LaunchEntry ι))
    (world : LaunchWorld ι α) : Prop where
  own : ∀ entry ∈ world.log, entry.who = who → mine entry
  facts : ∀ entry ∈ facts, entry ∈ world.log

variable {who : ι} {mine : LaunchEntry ι → Prop} {facts : List (LaunchEntry ι)}

section

variable (h : Knows who mine facts world)
include h

theorem Knows.stable {later : LaunchWorld ι α} (hrely : LaunchRely who world later) : Knows who mine facts later where
  own entry hentry hwho := h.own entry (hrely.own entry hentry hwho) hwho
  facts entry hentry := hrely.log entry (h.facts entry hentry)

theorem Knows.running (hmine : ¬ mine (.ended who)) : .ended who ∉ world.log := fun hended => hmine (h.own _ hended rfl)

theorem Knows.of_note (hmono : ∀ entry, mine entry → mine' entry)
    (hentry : mine' entry) : Knows who mine' (entry :: facts) (world.note entry) where
  own e he hwho := by
    rcases mem_cons.mp he with rfl | he
    · exact hentry
    · exact hmono e (h.own e he hwho)
  facts e he := by
    rcases mem_cons.mp he with rfl | he
    · exact mem_cons_self
    · exact mem_cons_of_mem _ (h.facts e he)

theorem Knows.mono (hmono : ∀ entry, mine entry → mine' entry) : Knows who mine' facts world :=
  ⟨fun entry hentry hwho => hmono entry (h.own entry hentry hwho), h.facts⟩

/-- All that has happened so far is there. -/
theorem Knows.all : Knows who mine world.log world := ⟨h.own, fun _ h => h⟩

end

theorem Knows.tail {fact : LaunchEntry ι} (h : Knows who mine (fact :: facts) world) : Knows who mine facts world :=
  ⟨h.own, fun entry hentry => h.facts entry (mem_cons_of_mem _ hentry)⟩

/-! ## Requests to the daemon -/

theorem hold_self (world : LaunchWorld ι α) (entry : LaneEvidence → Option (LaunchEntry ι)) :
    world.hold session world.store entry = world := by
  unfold hold
  rw [if_pos rfl]

variable (session) in
/-- A request is served or lost; what it answers is what was served. -/
theorem request_cases {β : Type} (world : LaunchWorld ι α) (delivery : Delivery)
    (served : Except String β × Store α) (entry : LaneEvidence → Option (LaunchEntry ι)) :
    ((world.request session delivery served entry).1 = world ∧
        ∀ reply, (world.request session delivery served entry).2 ≠ .ok reply) ∨
      (world.request session delivery served entry).1 = world.hold session served.2 entry ∧
        ∀ reply, (world.request session delivery served entry).2 = .ok reply → served.1 = .ok reply := by
  cases delivery with
  | answered => exact .inr ⟨rfl, fun _ h => h⟩
  | unanswered => exact .inr ⟨rfl, nofun⟩
  | undelivered => exact .inl ⟨rfl, nofun⟩

/-- The world after a request that may have written the lane. -/
theorem LaunchInv.hold (h : LaunchInv launches careful world) (hrunning : .ended who ∉ world.log)
    (entry : LaneEvidence → Option (LaunchEntry ι))
    (hwrites : store.registry.lane session = world.store.registry.lane session ∨
      ∃ lane, store.registry.lane session = some lane ∧
        (∀ e, entry lane = some e → e.who = who ∧ Notable launches careful world e) ∧
        OwnedIn launches ((entry lane).toList ++ world.log) lane ∧ (lane.launch_state = .IdentityVerified →
          VerifiedIn ((entry lane).toList ++ world.log) lane.generation_id)) :
    LaunchInv launches careful (world.hold session store entry) ∧
      ∀ other, other ≠ who → LaunchRely other world (world.hold session store entry) := by
  by_cases hsame : store.registry.lane session = world.store.registry.lane session
  · have hheld : world.hold session store entry = { world with store } := by
      unfold LaunchWorld.hold
      rw [if_pos hsame]
    rw [hheld]
    refine ⟨h.with_store fun lane hlane => ?_, fun other _ => .of_store other world store⟩
    rw [hsame] at hlane
    exact ⟨h.lanes lane hlane, h.verified lane hlane⟩
  · obtain ⟨lane, hlane, hentry, howned, hverified⟩ := hwrites.resolve_left hsame
    have hheld : world.hold session store entry = { world with store, log := (entry lane).toList ++ world.log } := by
      unfold LaunchWorld.hold
      rw [if_neg hsame, hlane]
      rfl
    have hlanes : ∀ later, store.registry.lane session = some later →
        OwnedIn launches ((entry lane).toList ++ world.log) later ∧ (later.launch_state = .IdentityVerified →
            VerifiedIn ((entry lane).toList ++ world.log) later.generation_id) := by
      intro later hlater
      obtain rfl := some.inj (hlane.symm.trans hlater)
      exact ⟨howned, hverified⟩
    rw [hheld]
    cases he : entry lane with
    | none =>
      rw [he] at hlanes
      exact ⟨h.with_store hlanes, fun other _ => .of_store other world store⟩
    | some e =>
      rw [he] at hlanes
      obtain ⟨hwho, hnotable⟩ := hentry e he
      -- The entry is written first, and then the registry.
      refine ⟨(h.note hnotable).with_store hlanes, fun other hne => ?_⟩
      exact (LaunchRely.of_note hne hrunning hwho).trans (.of_store other (world.note e) store)

end Clawhip.Tmux
