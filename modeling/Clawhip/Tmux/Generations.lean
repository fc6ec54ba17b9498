import Mathlib.Data.List.Nodup
import Mathlib.Data.List.Perm.Subperm
import Mathlib.Data.List.Range
import Clawhip.Tmux.Retirement

/-!
# Registration generations

A prune names a registration by its session and its generation. Generations are read from the file,
minted anew for entries without one, and minted for every registration. The allocator is moved past the
largest generation of the file, but not when it stands on that very generation, and the generations that
are minted during the load are not compared with those of the file. `generations_identify_iff` says for
which files a generation names one registration in every run.
-/

namespace Clawhip.Tmux

open List Option OrdMap

variable {α : Type} {codec : RegistryCodec α}

/-! ## Registrations of a run -/

/-- The session that a call registers, if it registers one. -/
def Call.registered (call : Call) (generation : ℕ) (registry : Registry) : Option String :=
  match call with
  | .registerRuntime _ registration (.ok ()) =>
    if (registry.lane registration.session).any fun lane => lane.workflow != .Retired then none
    else some registration.session
  | .registerLane _ input _ (.ok ()) =>
    if (input.answer generation registry).isSome then none else some input.registration.session
  | _ => none

/-- The registration that a daemon makes at a call: its session and its generation. -/
def Daemon.registers (daemon : Daemon α) (call : Call) : List (String × ℕ) :=
  match call.place.bind (daemon.minted[·]?) with
  | none => []
  | some generation =>
    ((call.registered generation daemon.store.registry).map fun session => (session, generation)).toList

variable (codec) in
/-- The registrations of a run, in order. -/
def registrations : Daemon α → List Call → List (String × ℕ)
  | _, [] => []
  | daemon, call :: calls =>
    daemon.registers call ++ registrations (daemon.step codec call).1 calls

theorem registrations_append (daemon : Daemon α) (calls later : List Call) :
    registrations codec daemon (calls ++ later) = registrations codec daemon calls ++
      registrations codec ((daemonMachine codec).run daemon calls) later := by
  induction calls generalizing daemon with
  | nil => rfl
  | cons first calls ih =>
    simp only [cons_append, registrations, ih, Machine.run_cons, append_assoc]
    rfl

/-- The generations that a run mints. -/
def mints (calls : List Call) : ℕ := calls.countP fun call => match call with
  | .mint => true
  | _ => false

/-- A session has a registration of its own, with a generation. -/
def Registry.Holds (registry : Registry) (session : String) (generation : ℕ) : Prop :=
  ∃ registration, OrdMap.get registry session = some registration ∧
    registration.registration_source ≠ .ConfigMonitor ∧ registration.registration_generation = generation

/-- A candidate was taken from a registry. -/
def AbsentRegistrationCandidate.From (candidate : AbsentRegistrationCandidate) (registry : Registry) :
    Prop :=
  ∃ registration, OrdMap.get registry candidate.session = some registration ∧
    registrationIsReconcilable registration = true ∧
    registration.registration_generation = candidate.registration_generation

theorem AbsentRegistrationCandidate.From.holds {candidate : AbsentRegistrationCandidate} {registry : Registry}
    (h : candidate.From registry) : registry.Holds candidate.session candidate.registration_generation := by
  obtain ⟨registration, hget, hreconcilable, hgeneration⟩ := h
  refine ⟨registration, hget, ?_, hgeneration⟩
  simp only [registrationIsReconcilable, Bool.and_eq_true, bne_iff_ne, ne_eq] at hreconcilable
  exact hreconcilable.1

variable (codec) in
/-- Throughout a run, a generation names one registration: two registrations that are found with it, at
the same time or one later than the other, are of one session, which is not registered in between. A
candidate is ignored once its session has been registered again. -/
structure GenerationsIdentify (start : Daemon α) (calls : List Call) : Prop where
  same : ∀ pre mid post, calls = pre ++ mid ++ post → ∀ session later generation,
    ((daemonMachine codec).run start pre).store.registry.Holds session generation →
    ((daemonMachine codec).run start (pre ++ mid)).store.registry.Holds later generation →
      session = later ∧ ∀ generation',
        (session, generation') ∉ registrations codec ((daemonMachine codec).run start pre) mid
  ignored : ∀ pre mid post, calls = pre ++ mid ++ post → ∀ candidate : AbsentRegistrationCandidate,
    candidate.From ((daemonMachine codec).run start pre).store.registry →
    (∃ generation, (candidate.session, generation) ∈
      registrations codec ((daemonMachine codec).run start pre) mid) →
    ∀ registration, OrdMap.get ((daemonMachine codec).run start (pre ++ mid)).store.registry
      candidate.session = some registration → candidate.matches registration = false

/-! ## What a call registers -/

variable {made : List (String × ℕ)} {session : String} {daemon : Daemon α} {call : Call} {generation : ℕ}

variable (codec) in
/-- A call that registers a session inserts a registration with its generation. -/
theorem Call.on_registered {store : Store α} (h : call.registered generation store.registry = some session) :
    ∃ registration : RegisteredTmuxSession, registration.registration_generation = generation ∧
      registration.registration_source ≠ .ConfigMonitor ∧ (call.on codec generation store).2.registry =
        OrdMap.insert store.registry session registration := by
  unfold registered at h
  split at h
  · rename_i minted registration
    split_ifs at h with hretained
    cases h
    refine ⟨registration.decoded.registered generation, rfl, normalizeRuntimeRegistrationSource_ne _, ?_⟩
    simp only [on, Store.registerRuntimeTmuxRegistration]
    have hfree : ¬ ((store.registry.lane registration.decoded.session).any fun lane =>
      lane.workflow != .Retired) = true := hretained
    rw [if_neg hfree, store.swap_ok rfl]
    rfl
  · rename_i minted input later
    split_ifs at h with hanswer
    cases h
    refine ⟨{ input.public generation with lane := some input.lane }, rfl, normalizeRuntimeRegistrationSource_ne _, ?_⟩
    have hnone : input.answer generation store.registry = none := by simpa using hanswer
    simp only [on, Store.registerLaneRegistration, hnone, store.swap_ok rfl]
    rfl
  · cases h

variable {found : ℕ}

/-- What is found after a call was there before, or the call registers it. -/
theorem Outcome.holds_cases {store : Store α} {result : Answer × Store α}
    (h : Outcome codec store generation call result) (hformed : store.registry.WellFormed)
    (hfound : result.2.registry.Holds session found) : store.registry.Holds session found ∨
      call.registered generation store.registry = some session ∧ found = generation := by
  obtain ⟨registration, hget, hsource, hgeneration⟩ := hfound
  rcases h.get_cases hformed hget with hold | ⟨_, new, rfl, rfl, hfree, rfl⟩ |
    ⟨_, input, _, rfl, rfl, hanswer, rfl⟩ | ⟨existing, _, _, hbefore, -, -, rfl⟩ | hfrom
  · exact .inl ⟨registration, hold, hsource, hgeneration⟩
  · refine .inr ⟨?_, hgeneration.symm⟩
    have hnone : ¬ ((store.registry.lane new.session).any fun lane => lane.workflow != .Retired) = true := by
      cases hlane : store.registry.lane new.session with
      | none => simp
      | some lane => simp [hfree lane hlane]
    simp only [Call.registered, if_neg hnone]
  · exact .inr ⟨by simp [Call.registered, hanswer], hgeneration.symm⟩
  · exact .inl ⟨existing, hbefore, hsource, hgeneration⟩
  · exact absurd hfrom.source hsource

/-! ## The allocator -/

/-- A registration is the last one of its session. -/
def LastOf (made : List (String × ℕ)) (session : String) (generation : ℕ) : Prop :=
  ∃ before after, made = before ++ (session, generation) :: after ∧ ∀ generation', (session, generation') ∉ after

theorem LastOf.mem (h : LastOf made session generation) : (session, generation) ∈ made := by
  obtain ⟨before, after, rfl, -⟩ := h
  simp

/-- What the allocator and the registry are like after the registrations `made`: no generation was used
twice, all are below the next one, and what is found in the registry is the last of its session. -/
structure Daemon.Allocates (daemon : Daemon α) (made : List (String × ℕ)) : Prop where
  formed : daemon.store.registry.WellFormed
  nodup : (made.map Prod.snd ++ daemon.minted).Nodup
  below : ∀ generation ∈ made.map Prod.snd ++ daemon.minted, generation < daemon.next_generation
  last : ∀ session generation, daemon.store.registry.Holds session generation → LastOf made session generation

variable {made later : List (String × ℕ)}

/-- Registrations of other sessions leave the last one of a session. -/
theorem LastOf.append (h : LastOf made session generation) (hlater : ∀ generation', (session, generation') ∉ later) :
    LastOf (made ++ later) session generation := by
  obtain ⟨before, after, rfl, hafter⟩ := h
  refine ⟨before, after ++ later, by simp, fun generation' hmem => ?_⟩
  rcases mem_append.mp hmem with hmem | hmem
  · exact hafter generation' hmem
  · exact hlater generation' hmem

/-- Only a call with a generation of its own registers a session. -/
theorem Call.registered_of_place (h : call.place = none) (generation : ℕ)
    (registry : Registry) : call.registered generation registry = none := by
  cases call with
  | registerRuntime minted registration written => cases h
  | registerLane minted input later written => cases h
  | _ => rfl

/-- A call that uses `generation` leaves the last registrations of the sessions in the registry. -/
theorem Daemon.Allocates.last_on (h : daemon.Allocates made) (call : Call) (generation : ℕ)
    (hfound : (call.on codec generation daemon.store).2.registry.Holds session found) :
    LastOf (made ++ ((call.registered generation daemon.store.registry).map fun session =>
      (session, generation)).toList) session found := by
  have hcases := (call.outcome codec generation daemon.store).holds_cases h.formed hfound
  cases hregistered : call.registered generation daemon.store.registry with
  | none =>
    rw [hregistered] at hcases
    rcases hcases with hold | ⟨hnone, -⟩
    · simpa using h.last session found hold
    · cases hnone
  | some name =>
    obtain ⟨registration, hgeneration, -, hinsert⟩ := Call.on_registered codec hregistered
    simp only [map_some, toList_some]
    by_cases hname : session = name
    · -- The registration of this session is the one that was just made.
      obtain ⟨new, hget, -, hnew⟩ := hfound
      rw [hinsert, hname, get_insert_self] at hget
      have heq : found = generation := by rw [← hnew, ← hgeneration, some.inj hget]
      exact ⟨made, [], by rw [hname, heq], fun _ hmem => by cases hmem⟩
    · rcases hcases with hold | ⟨hsome, -⟩
      · refine (h.last session found hold).append fun generation' hmem => hname ?_
        exact congrArg Prod.fst (mem_singleton.mp hmem)
      · rw [hregistered] at hsome
        exact absurd (some.inj hsome).symm hname

variable (codec) in
/-- One call keeps what the allocator promises, as long as it does not wrap around. -/
theorem Daemon.Allocates.step (h : daemon.Allocates made)
    (call : Call) (hroom : call = .mint → daemon.next_generation + 1 < 2 ^ 64) :
    (daemon.step codec call).1.Allocates (made ++ daemon.registers call) := by
  have hformed : (daemon.step codec call).1.store.registry.WellFormed := by
    obtain ⟨generation, houtcome⟩ := daemon.step_outcome codec call
    exact houtcome.wellFormed h.formed
  cases hplace : call.place with
  | none =>
    have hregisters : daemon.registers call = [] := by simp [registers, hplace]
    rw [hregisters, append_nil]
    by_cases hmint : call = .mint
    · subst hmint
      have hnext : (daemon.next_generation + 1) % 2 ^ 64 = daemon.next_generation + 1 := Nat.mod_eq_of_lt (hroom rfl)
      have hfresh : daemon.next_generation ∉ made.map Prod.snd ++ daemon.minted :=
        fun hmem => absurd (h.below _ hmem) (lt_irrefl _)
      refine ⟨hformed, ?_, fun generation hmem => ?_, h.last⟩
      · simp only [Daemon.step, mintRegistrationGeneration]
        rw [← append_assoc]
        exact nodup_append.mpr ⟨h.nodup, nodup_singleton _, fun a ha b hb heq =>
          hfresh (by rwa [← mem_singleton.mp hb, ← heq])⟩
      · simp only [Daemon.step, mintRegistrationGeneration, hnext] at hmem ⊢
        rw [← append_assoc] at hmem
        rcases mem_append.mp hmem with hold | hnew
        · exact (h.below generation hold).trans (Nat.lt_succ_self _)
        · rw [mem_singleton.mp hnew]
          exact Nat.lt_succ_self _
    · have hstep : (daemon.step codec call).1 = { daemon with store := (call.on codec 0 daemon.store).2 } := by
        unfold Daemon.step
        split
        · exact absurd rfl hmint
        · simp only [hplace]
      rw [hstep] at hformed ⊢
      refine ⟨hformed, h.nodup, h.below, fun session generation hfound => ?_⟩
      have hlast := h.last_on call 0 hfound
      simpa [Call.registered_of_place hplace] using hlast
  | some place =>
    have hmint : call ≠ .mint := by
      rintro rfl
      cases hplace
    cases hminted : daemon.minted[place]? with
    | none =>
      have hregisters : daemon.registers call = [] := by simp [registers, hplace, hminted]
      have hstep : (daemon.step codec call).1 = daemon := by
        unfold Daemon.step
        split
        · exact absurd rfl hmint
        · simp only [hplace, hminted]
      rw [hregisters, append_nil, hstep]
      exact h
    | some generation =>
      have hregisters : daemon.registers call = ((call.registered generation daemon.store.registry).map fun session =>
            (session, generation)).toList := by
        simp [registers, hplace, hminted]
      have hstep : (daemon.step codec call).1 =
          { daemon with
            minted := daemon.minted.eraseIdx place
            store := (call.on codec generation daemon.store).2 } := by
        unfold Daemon.step
        split
        · exact absurd rfl hmint
        · simp only [hplace, hminted]
      rw [hstep] at hformed ⊢
      -- The generation goes from the calls that wait to the registrations, or is lost.
      obtain ⟨hlt, hgeneration⟩ := List.getElem?_eq_some_iff.mp hminted
      have hperm : (generation :: daemon.minted.eraseIdx place).Perm daemon.minted := by
        rw [← hgeneration]
        exact getElem_cons_eraseIdx_perm hlt
      have hsub : ((made ++ daemon.registers call).map Prod.snd ++ daemon.minted.eraseIdx place).Subperm
          (made.map Prod.snd ++ daemon.minted) := by
        rw [map_append, append_assoc, subperm_append_left]
        refine Subperm.trans ?_ hperm.subperm
        rw [hregisters]
        cases call.registered generation daemon.store.registry with
        | none => exact (sublist_cons_self _ _).subperm
        | some session => exact Subperm.refl _
      have hnodup : ((made ++ daemon.registers call).map Prod.snd ++ daemon.minted.eraseIdx place).Nodup := by
        obtain ⟨used, hused, hsublist⟩ := hsub
        exact hused.nodup_iff.mp (hsublist.nodup h.nodup)
      refine ⟨hformed, hnodup, fun found hmem => h.below found (hsub.subset hmem), ?_⟩
      intro session found hfound
      rw [hregisters]
      exact h.last_on call generation hfound

/-! ## Runs -/

variable (codec) in
/-- A call mints a generation, or leaves the allocator alone. -/
theorem Daemon.step_next (daemon : Daemon α) (call : Call) (hroom : daemon.next_generation + mints [call] < 2 ^ 64) :
    (daemon.step codec call).1.next_generation = daemon.next_generation + mints [call] := by
  by_cases hmint : call = .mint
  · subst hmint
    exact Nat.mod_eq_of_lt hroom
  · have hnone : mints [call] = 0 := by
      cases call with
      | mint => exact absurd rfl hmint
      | _ => rfl
    rw [hnone, Nat.add_zero]
    unfold Daemon.step
    split
    · exact absurd rfl hmint
    · cases call.place with
      | none => rfl
      | some place =>
        cases hminted : daemon.minted[place]? with
        | none | some generation => simp only [hminted]

theorem mints_append (calls later : List Call) : mints (calls ++ later) = mints calls + mints later := countP_append

variable (codec) in
/-- A run keeps what the allocator promises, as long as it does not wrap around. -/
theorem Daemon.Allocates.run {start : Daemon α} (h : start.Allocates made)
    (calls : List Call) (hroom : start.next_generation + mints calls < 2 ^ 64) :
    ((daemonMachine codec).run start calls).Allocates (made ++ registrations codec start calls) := by
  induction calls generalizing start made with
  | nil => simpa [registrations] using h
  | cons call calls ih =>
    rw [← singleton_append, mints_append] at hroom
    have hnext := start.step_next codec call (by omega)
    have hstep := h.step codec call (by rintro rfl; simp [mints] at hroom; omega)
    have hrun := ih hstep (by rw [hnext]; omega)
    rw [append_assoc] at hrun
    exact hrun

/-- The last registration of a session, if it is not among the later ones, comes before them all. -/
theorem LastOf.not_mem_later (h : LastOf (made ++ later) session generation) (hmade : (session, generation) ∉ later)
    (generation' : ℕ) : (session, generation') ∉ later := by
  obtain ⟨before, after, hsplit, hafter⟩ := h
  rcases append_eq_append_iff.mp hsplit with ⟨rest, -, hlater⟩ | ⟨rest, -, hlater⟩
  · exact absurd (by rw [hlater]; simp) hmade
  · cases rest with
    | nil =>
      rw [nil_append] at hlater
      exact absurd (by rw [← hlater]; simp) hmade
    | cons entry rest =>
      obtain ⟨-, rfl⟩ := cons.inj hlater
      exact fun hmem => hafter generation' (mem_append_right _ hmem)

/-- A generation names one registration in every run from a state in which the allocator keeps its
promise. -/
theorem Daemon.Allocates.identify {start : Daemon α} (h : start.Allocates made)
    {calls : List Call} (hroom : start.next_generation + mints calls < 2 ^ 64) :
    GenerationsIdentify codec start calls := by
  have hsame : ∀ pre mid post, calls = pre ++ mid ++ post → ∀ session later generation,
      ((daemonMachine codec).run start pre).store.registry.Holds session generation →
      ((daemonMachine codec).run start (pre ++ mid)).store.registry.Holds later generation →
        session = later ∧ ∀ generation',
          (session, generation') ∉ registrations codec ((daemonMachine codec).run start pre) mid := by
    rintro pre mid post rfl session later generation hfound hlater
    rw [mints_append, mints_append] at hroom
    have hpre := h.run codec pre (by omega)
    have hmid := h.run codec (pre ++ mid) (by rw [mints_append]; omega)
    rw [registrations_append, ← append_assoc] at hmid
    have hmem := (hpre.last session generation hfound).mem
    have hlast := hmid.last later generation hlater
    have hnodup : ((made ++ registrations codec start pre ++
        registrations codec ((daemonMachine codec).run start pre) mid).map Prod.snd).Nodup :=
      (nodup_append.mp hmid.nodup).1
    have heq : (session, generation) = (later, generation) :=
      inj_on_of_nodup_map hnodup (mem_append_left _ hmem) hlast.mem rfl
    obtain rfl : session = later := congrArg Prod.fst heq
    refine ⟨rfl, hlast.not_mem_later fun hagain => ?_⟩
    rw [map_append] at hnodup
    exact (nodup_append.mp hnodup).2.2 _ (mem_map_of_mem hmem) _ (mem_map_of_mem hagain) rfl
  refine ⟨hsame, fun pre mid post hsplit candidate hfrom hagain registration hget => ?_⟩
  by_contra hmatches
  obtain ⟨generation, hagain⟩ := hagain
  simp only [AbsentRegistrationCandidate.matches, Bool.not_eq_false, Bool.and_eq_true, beq_iff_eq] at hmatches
  have hthen := hfrom.holds
  have hnow : ((daemonMachine codec).run start (pre ++ mid)).store.registry.Holds candidate.session
      candidate.registration_generation :=
    AbsentRegistrationCandidate.From.holds ⟨registration, hget, hmatches.2, hmatches.1⟩
  exact (hsame pre mid post hsplit _ _ _ hthen hnow).2 generation hagain

/-! ## Loading -/

/-- The generations of the entries of a file; `0` where there is none. -/
def storedGenerations (entries : OrdMap String StoredRegistryValue) : List ℕ :=
  entries.map fun entry => entry.2.registration.registration_generation

/-- The generations of a file are distinct, above those that the load mints for the entries without
one, and not just the one after those. -/
def ClashFree (entries : OrdMap String StoredRegistryValue) : Prop :=
  let missing := (storedGenerations entries).count 0
  let present := (storedGenerations entries).filter (· ≠ 0)
  present.Nodup ∧ (∀ generation ∈ present, missing < generation) ∧ present ≠ [missing + 1]

instance (entries : OrdMap String StoredRegistryValue) : Decidable (ClashFree entries) :=
  inferInstanceAs (Decidable (_ ∧ (∀ generation ∈ _, _) ∧ _ ≠ _))

/-- The sessions of a file with the generations that the load gives them. -/
def assigned : ℕ → OrdMap String StoredRegistryValue → List (String × ℕ)
  | _, [] => []
  | next_generation, (session, value) :: entries =>
    if value.registration.registration_generation = 0 then
      (session, next_generation) :: assigned (next_generation + 1) entries
    else (session, value.registration.registration_generation) :: assigned next_generation entries

variable (entries : OrdMap String StoredRegistryValue) (next_generation : ℕ)

/-- The generations that a load gives are those that it mints, from the next one on, and those that the
file has. -/
theorem assigned_perm : ((assigned next_generation entries).map Prod.snd).Perm
      (range' next_generation ((storedGenerations entries).count 0) ++ (storedGenerations entries).filter (· ≠ 0)) := by
  induction entries generalizing next_generation with
  | nil => simp [assigned, storedGenerations]
  | cons entry entries ih =>
    obtain ⟨session, value⟩ := entry
    have hcons : storedGenerations ((session, value) :: entries) =
        value.registration.registration_generation :: storedGenerations entries := rfl
    rw [hcons, assigned]
    split_ifs with hnone
    · rw [hnone, count_cons_self, range'_succ, filter_cons_of_neg (by simp)]
      exact (ih (next_generation + 1)).cons _
    · rw [count_cons_of_ne hnone, filter_cons_of_pos (by simpa using hnone)]
      exact ((ih next_generation).cons _).trans perm_middle.symm

theorem keys_assigned : (assigned next_generation entries).map Prod.fst = keys entries := by
  induction entries generalizing next_generation with
  | nil => rfl
  | cons entry entries ih =>
    obtain ⟨session, value⟩ := entry
    rw [assigned]
    split_ifs
    · exact congrArg (session :: ·) (ih _)
    · exact congrArg (session :: ·) (ih _)

/-- What a load has after some entries. -/
structure Loading.Loads (loading : Loading) (entries : OrdMap String StoredRegistryValue)
    (loaded : Loading) : Prop where
  next_generation :
    loaded.next_generation = loading.next_generation + (storedGenerations entries).count 0
  le_max : loading.max_loaded_generation ≤ loaded.max_loaded_generation ∧
    ∀ entry ∈ assigned loading.next_generation entries, entry.2 ≤ loaded.max_loaded_generation
  max_mem : loaded.max_loaded_generation = loading.max_loaded_generation ∨
    ∃ entry ∈ assigned loading.next_generation entries, entry.2 = loaded.max_loaded_generation
  formed : loaded.registry.WellFormed
  holds : ∀ session generation, loaded.registry.Holds session generation ↔
    (session, generation) ∈ assigned loading.next_generation entries ∨
      session ∉ OrdMap.keys entries ∧ loading.registry.Holds session generation
  others : ∀ session, session ∉ OrdMap.keys entries →
    OrdMap.get loaded.registry session = OrdMap.get loading.registry session
  restores : ∀ session value, OrdMap.get entries session = some value →
    ∃ generation, OrdMap.get loaded.registry session =
        some { value.registration with registration_generation := generation } ∧
      (value.registration.registration_generation ≠ 0 → generation = value.registration.registration_generation)

theorem StoredRegistryValue.registration_source_ne (value : StoredRegistryValue) :
    value.registration.registration_source ≠ .ConfigMonitor := by
  cases value with
  | Wrapped stored | Legacy registration => exact normalizeRuntimeRegistrationSource_ne _

/-- One entry of a load: its generation, and the allocator after it. -/
theorem Loading.insert_cases (loading : Loading) (session : String) (value : StoredRegistryValue)
    (entries : OrdMap String StoredRegistryValue)
    (hroom : loading.next_generation + (storedGenerations ((session, value) :: entries)).count 0 < 2 ^ 64) :
    ∃ generation next_generation, assigned loading.next_generation ((session, value) :: entries) =
          (session, generation) :: assigned next_generation entries ∧
        (value.registration.registration_generation ≠ 0 → generation = value.registration.registration_generation) ∧
        next_generation + (storedGenerations entries).count 0 =
          loading.next_generation + (storedGenerations ((session, value) :: entries)).count 0 ∧
        loading.insert (session, value) =
          { next_generation
            max_loaded_generation := max loading.max_loaded_generation generation
            registry := OrdMap.insert loading.registry session
              { value.registration with registration_generation := generation } } := by
  have hcons : storedGenerations ((session, value) :: entries) =
      value.registration.registration_generation :: storedGenerations entries := rfl
  rw [hcons] at hroom ⊢
  by_cases hnone : value.registration.registration_generation = 0
  · rw [hnone, count_cons_self] at hroom ⊢
    refine ⟨loading.next_generation, loading.next_generation + 1, ?_, fun h => absurd rfl h, by omega, ?_⟩
    · rw [assigned, if_pos hnone]
    · have hnext : (loading.next_generation + 1) % 2 ^ 64 = loading.next_generation + 1 := Nat.mod_eq_of_lt (by omega)
      simp only [insert, if_pos hnone, mintRegistrationGeneration, hnext]
  · rw [count_cons_of_ne hnone]
    refine ⟨value.registration.registration_generation, loading.next_generation, ?_, fun _ => rfl, rfl, ?_⟩
    · rw [assigned, if_neg hnone]
    · simp only [insert, if_neg hnone]

/-- What `load_tmux_registry_state` does with its entries, as long as the allocator does not wrap
around. -/
theorem Loading.foldl_insert {entries : OrdMap String StoredRegistryValue}
    (hkeys : (keys entries).Nodup) (loading : Loading) (hformed : loading.registry.WellFormed)
    (hroom : loading.next_generation + (storedGenerations entries).count 0 < 2 ^ 64) :
    loading.Loads entries (entries.foldl insert loading) := by
  induction entries generalizing loading with
  | nil => exact ⟨rfl, ⟨le_rfl, by simp [assigned]⟩, .inl rfl, hformed,
      by simp [assigned, OrdMap.keys], fun _ _ => rfl, fun _ _ h => by cases h⟩
  | cons entry entries ih =>
    obtain ⟨session, value⟩ := entry
    obtain ⟨hsession, hkeys⟩ := nodup_cons.mp hkeys
    have hsession : session ∉ keys entries := hsession
    obtain ⟨generation, next_generation, hassigned, hkept, hnext, hinsert⟩ :=
      loading.insert_cases session value entries hroom
    have hsource := value.registration_source_ne
    rw [foldl_cons, hinsert]
    have hrest := ih hkeys { next_generation
                             max_loaded_generation := max loading.max_loaded_generation generation
                             registry := OrdMap.insert loading.registry session
                               { value.registration with registration_generation := generation } }
      (hformed.insert fun h => absurd h hsource) (by rw [hnext]; exact hroom)
    obtain ⟨hnext', ⟨hle, hall⟩, hmax, hformed', hholds, hothers, hrestores⟩ := hrest
    refine ⟨hnext'.trans hnext, ⟨le_trans (le_max_left _ _) hle, ?_⟩, ?_, hformed', ?_, ?_, ?_⟩
    · rw [hassigned]
      intro entry hentry
      rcases mem_cons.mp hentry with rfl | hentry
      · exact le_trans (le_max_right _ _) hle
      · exact hall entry hentry
    · rw [hassigned]
      rcases hmax with hmax | ⟨entry, hentry, hmax⟩
      · rcases Nat.le_total loading.max_loaded_generation generation with hle | hle
        · exact .inr ⟨(session, generation), mem_cons_self, (hmax.trans (Nat.max_eq_right hle)).symm⟩
        · exact .inl (hmax.trans (Nat.max_eq_left hle))
      · exact .inr ⟨entry, mem_cons_of_mem _ hentry, hmax⟩
    · intro name found
      have hcons : keys ((session, value) :: entries) = session :: keys entries := rfl
      rw [hholds, hassigned, hcons, mem_cons, mem_cons, not_or]
      have hinserted : name ≠ session → (Registry.Holds (OrdMap.insert loading.registry session
            { value.registration with registration_generation := generation }) name found ↔
            loading.registry.Holds name found) := by
        intro hname
        unfold Registry.Holds
        rw [get_insert_ne _ _ hname]
      by_cases hname : name = session
      · subst hname
        have hnot : (name, found) ∉ assigned next_generation entries := fun hmem =>
          hsession (keys_assigned entries next_generation ▸ mem_map_of_mem (f := Prod.fst) hmem)
        have hself : Registry.Holds (OrdMap.insert loading.registry name
            { value.registration with registration_generation := generation }) name found ↔ found = generation := by
          unfold Registry.Holds
          rw [get_insert_self]
          constructor
          · rintro ⟨registration, heq, -, rfl⟩
            rw [← some.inj heq]
          · rintro rfl
            exact ⟨_, rfl, hsource, rfl⟩
        simp [hself, hnot, hsession]
      · rw [hinserted hname]
        simp [hname]
    · intro name hname
      obtain ⟨hne, hname⟩ := not_or.mp (mt mem_cons.mpr hname)
      rw [hothers name hname, get_insert_ne _ _ hne]
    · intro name found hget
      rw [get_cons] at hget
      split_ifs at hget with hname
      · cases hget
        refine ⟨generation, ?_, hkept⟩
        rw [hothers name (hname ▸ hsession), hname, get_insert_self]
      · exact hrestores name found hget

/-! ## Files -/

/-- A file holds every session once. -/
theorem nodup_loadedEntries (hcodec : codec.Lawful) (file : Option α) : (keys (loadedEntries codec file)).Nodup := by
  unfold loadedEntries
  split
  · rename_i loaded hread
    obtain ⟨content, -, hread⟩ := map_eq_some_iff.mp hread
    exact hcodec.nodup content loaded hread
  · exact nodup_nil

variable (codec) in
theorem Daemon.start_loads {file : Option α} (hkeys : (OrdMap.keys (loadedEntries codec file)).Nodup)
    (hroom : 1 + (storedGenerations (loadedEntries codec file)).count 0 < 2 ^ 64) :
    ∃ loaded, Loading.Loads { next_generation := 1 } (loadedEntries codec file) loaded ∧
      (start codec file).store.registry = loaded.registry ∧ (start codec file).minted = [] ∧
      (start codec file).next_generation =
        advanceRegistrationGenerationAbove loaded.max_loaded_generation loaded.next_generation :=
  ⟨_, Loading.foldl_insert hkeys _ ⟨nodup_nil, fun _ _ h => by cases h⟩ hroom, rfl, rfl, rfl⟩

/-- The allocator is past the largest generation, unless it stands on it. -/
theorem advance_cases (loaded next_generation : ℕ) :
    loaded ≤ next_generation ∧ advanceRegistrationGenerationAbove loaded next_generation = next_generation ∨
      next_generation < loaded ∧ advanceRegistrationGenerationAbove loaded next_generation = loaded + 1 := by
  unfold advanceRegistrationGenerationAbove
  split_ifs with h
  · exact .inl ⟨h, rfl⟩
  · exact .inr ⟨Nat.lt_of_not_le h, rfl⟩

/-- A list without repetitions of which every member is one value. -/
theorem eq_singleton_of_forall {l : List ℕ} {n : ℕ} (hnodup : l.Nodup) (hmem : n ∈ l)
    (hall : ∀ m ∈ l, m = n) : l = [n] := by
  have hreplicate : l = replicate l.length n := eq_replicate_iff.mpr ⟨rfl, hall⟩
  have hpos := length_pos_of_mem hmem
  have hle : l.count n ≤ 1 := nodup_iff_count_le_one.mp hnodup n
  rw [hreplicate, count_replicate_self] at hle
  have hone : l.length = 1 := by omega
  rw [hreplicate, hone]
  rfl

/-- A daemon that starts from a file without clashes keeps the allocator's promise. -/
theorem ClashFree.allocates {file : Option α} (hkeys : (keys (loadedEntries codec file)).Nodup)
    (hroom : 1 + (storedGenerations (loadedEntries codec file)).count 0 < 2 ^ 64)
    (h : ClashFree (loadedEntries codec file)) :
    (Daemon.start codec file).Allocates (assigned 1 (loadedEntries codec file)) := by
  obtain ⟨loaded, hloads, hregistry, hminted, hnext⟩ := Daemon.start_loads codec hkeys hroom
  obtain ⟨hpresent, habove, hsingle⟩ := h
  have hperm := assigned_perm (loadedEntries codec file) 1
  have hkeys' := keys_assigned (loadedEntries codec file) 1
  generalize loadedEntries codec file = entries at *
  generalize hmissing : (storedGenerations entries).count 0 = missing at *
  generalize (storedGenerations entries).filter (· ≠ 0) = present at *
  have hnodup : ((assigned 1 entries).map Prod.snd).Nodup := by
    rw [hperm.nodup_iff]
    refine nodup_append.mpr ⟨nodup_range', hpresent, fun a ha b hb heq => ?_⟩
    have hrange := mem_range'_1.mp ha
    have hlarge := habove b hb
    omega
  refine ⟨hregistry ▸ hloads.formed, by rwa [hminted, append_nil], ?_, ?_⟩
  · rw [hminted, append_nil, hnext, hloads.next_generation, hmissing]
    intro generation hmem
    have hmax (generation : ℕ) (hmem : generation ∈ (assigned 1 entries).map Prod.snd) :
        generation ≤ loaded.max_loaded_generation := by
      obtain ⟨entry, hentry, rfl⟩ := mem_map.mp hmem
      exact hloads.le_max.2 entry hentry
    have hle := hmax generation hmem
    rcases advance_cases loaded.max_loaded_generation (1 + missing) with ⟨hsmall, hstays⟩ | ⟨_, hgoes⟩
    · rw [hstays]
      by_contra hlarge
      have hmem' := mem_append.mp (hperm.mem_iff.mp hmem)
      have hlast : generation = 1 + missing := by omega
      rcases hmem' with hrange | hfile
      · have := mem_range'_1.mp hrange
        omega
      · -- All generations of the file are the one that the allocator stands on.
        refine hsingle ?_
        rw [Nat.add_comm, ← hlast]
        refine eq_singleton_of_forall hpresent hfile fun other hother => ?_
        have hsmall' := hmax other (hperm.mem_iff.mpr (mem_append_right _ hother))
        have hlarge' := habove other hother
        omega
    · rw [hgoes]
      omega
  · intro session generation hholds
    rw [hregistry, hloads.holds] at hholds
    rcases hholds with hmem | ⟨-, registration, hget, -⟩
    · obtain ⟨before, after, hsplit⟩ := append_of_mem hmem
      refine ⟨before, after, hsplit, fun generation' hagain => ?_⟩
      rw [← hkeys', hsplit, map_append, map_cons] at hkeys
      exact (nodup_cons.mp (nodup_append.mp hkeys).2.1).1 (mem_map.mpr ⟨_, hagain, rfl⟩)
    · cases hget

/-- A session that none of a list of sessions is. -/
theorem exists_other_session (sessions : List String) : ∃ session, session ∉ sessions := by
  have hbound : ∃ n, ∀ session ∈ sessions, session.length < n := by
    induction sessions with
    | nil => exact ⟨0, fun _ h => by cases h⟩
    | cons first sessions ih =>
      obtain ⟨n, hn⟩ := ih
      refine ⟨max n (first.length + 1), fun session hmem => ?_⟩
      rcases mem_cons.mp hmem with rfl | hmem
      · exact lt_of_lt_of_le (Nat.lt_succ_self _) (le_max_right _ _)
      · exact lt_of_lt_of_le (hn session hmem) (le_max_left _ _)
  obtain ⟨n, hn⟩ := hbound
  refine ⟨String.ofList (replicate n 'a'), fun hmem => ?_⟩
  have hlt := hn _ hmem
  simp at hlt

variable (codec) in
/-- A session that is not in the registry is registered with the generation that waits. -/
theorem Daemon.registers_of_free
    (hminted : daemon.minted = [generation]) (hnone : OrdMap.get daemon.store.registry session = none) :
    (daemon.step codec (.registerRuntime 0 { session, registered_at := "" } (.ok ()))).1.store.registry.Holds
      session generation := by
  have hlane : daemon.store.registry.lane session = none := by
    unfold Registry.lane
    rw [hnone]
    rfl
  have hregistered : (Call.registerRuntime 0 { session, registered_at := "" } (.ok ())).registered
      generation daemon.store.registry = some session := by
    simp [Call.registered, hlane]
  obtain ⟨registration, hgeneration, hsource, hinsert⟩ := Call.on_registered codec hregistered
  have hstep : (daemon.step codec (.registerRuntime 0 { session, registered_at := "" } (.ok ()))).1.store.registry =
        OrdMap.insert daemon.store.registry session registration := by
    rw [← hinsert]
    simp only [Daemon.step, Call.place, hminted, getElem?_cons_zero]
  exact ⟨registration, by rw [hstep, get_insert_self], hsource, hgeneration⟩

/-- In every run from a file a generation names one registration exactly if the file has no clashes. -/
theorem generations_identify_iff (hcodec : codec.Lawful) (file : Option α)
    (hbound : ∀ generation ∈ storedGenerations (loadedEntries codec file), generation < 2 ^ 63)
    (hlength : (loadedEntries codec file).length + 1 < 2 ^ 63) :
    (∀ calls, (loadedEntries codec file).length + mints calls < 2 ^ 63 →
      GenerationsIdentify codec (Daemon.start codec file) calls) ↔ ClashFree (loadedEntries codec file) := by
  have hkeys := nodup_loadedEntries hcodec file
  have hmissing : (storedGenerations (loadedEntries codec file)).count 0 ≤
      (loadedEntries codec file).length := by
    have hle := count_le_length (a := 0) (l := storedGenerations (loadedEntries codec file))
    unfold storedGenerations at hle
    rwa [length_map] at hle
  have hroom : 1 + (storedGenerations (loadedEntries codec file)).count 0 < 2 ^ 64 := by omega
  obtain ⟨loaded, hloads, hregistry, hminted, hnext⟩ := Daemon.start_loads codec hkeys hroom
  have hperm := assigned_perm (loadedEntries codec file) 1
  have hkeys' := keys_assigned (loadedEntries codec file) 1
  have hstart : ∀ session generation, (session, generation) ∈ assigned 1 (loadedEntries codec file) →
      (Daemon.start codec file).store.registry.Holds session generation := by
    intro session generation hmem
    rw [hregistry, hloads.holds]
    exact .inl hmem
  constructor
  · intro h
    have hnodup : ((assigned 1 (loadedEntries codec file)).map Prod.snd).Nodup := by
      have hentries : (assigned 1 (loadedEntries codec file)).Nodup :=
        Nodup.of_map Prod.fst (hkeys' ▸ hkeys)
      refine hentries.map_on fun x hx y hy heq => ?_
      have hsame := ((h [] (by simpa [mints] using by omega)).same [] [] [] rfl x.1 y.1 x.2
        (hstart _ _ hx) (by simpa [heq] using hstart _ _ hy)).1
      exact Prod.ext hsame heq
    rw [hperm.nodup_iff, nodup_append] at hnodup
    obtain ⟨-, hpresent, hapart⟩ := hnodup
    refine ⟨hpresent, fun generation hmem => ?_, fun hsingle => ?_⟩
    · have hne : generation ≠ 0 := by simpa using (mem_filter.mp hmem).2
      by_contra hsmall
      refine hapart generation (mem_range'_1.mpr ⟨by omega, ?_⟩) generation hmem rfl
      omega
    · -- The allocator stands on the one generation of the file, and mints it again.
      rw [hsingle] at hperm
      have hlast : 1 + (storedGenerations (loadedEntries codec file)).count 0 ∈
          (assigned 1 (loadedEntries codec file)).map Prod.snd :=
        hperm.mem_iff.mpr (mem_append_right _ (by rw [Nat.add_comm]; exact mem_singleton_self _))
      obtain ⟨⟨session, generation⟩, hentry, hgeneration⟩ := List.mem_map.mp hlast
      have hgeneration : generation = 1 + (storedGenerations (loadedEntries codec file)).count 0 :=
        hgeneration
      have hmax : loaded.max_loaded_generation ≤
          1 + (storedGenerations (loadedEntries codec file)).count 0 := by
        rcases hloads.max_mem with hzero | ⟨entry, hmem, heq⟩
        · rw [hzero]
          exact Nat.zero_le _
        · have hmem := hperm.mem_iff.mp (List.mem_map_of_mem (f := Prod.snd) hmem)
          rw [← heq]
          rcases mem_append.mp hmem with hrange | hfile
          · have := mem_range'_1.mp hrange
            omega
          · have := mem_singleton.mp hfile
            omega
      have hstands : (Daemon.start codec file).next_generation = generation := by
        rw [hnext, hloads.next_generation, hgeneration]
        rcases advance_cases loaded.max_loaded_generation
          (1 + (storedGenerations (loadedEntries codec file)).count 0) with ⟨-, hstays⟩ | ⟨hlt, -⟩
        · exact hstays
        · omega
      obtain ⟨other, hother⟩ := exists_other_session (OrdMap.keys (loadedEntries codec file))
      have hwaits : ((Daemon.start codec file).step codec .mint).1.minted = [generation] := by
        simp [Daemon.step, mintRegistrationGeneration, hminted, hstands]
      have hnone : OrdMap.get ((Daemon.start codec file).step codec .mint).1.store.registry other = none := by
        have hnone := hloads.others other hother
        simpa [Daemon.step, hregistry] using hnone
      have hregisters := Daemon.registers_of_free codec hwaits hnone
      have hsame := ((h [.mint, .registerRuntime 0 { session := other, registered_at := "" } (.ok ())]
        (by simpa [mints] using hlength)).same [] _ [] (append_nil _).symm session other generation
        (hstart _ _ hentry) hregisters).1
      exact hother (hsame ▸ hkeys' ▸ List.mem_map_of_mem (f := Prod.fst) hentry)
  · intro h calls hcalls
    have hallocates := h.allocates hkeys hroom
    refine hallocates.identify ?_
    have hmax : loaded.max_loaded_generation < 2 ^ 63 := by
      rcases hloads.max_mem with hzero | ⟨entry, hmem, heq⟩
      · rw [hzero]
        exact Nat.two_pow_pos 63
      · rw [← heq]
        rcases mem_append.mp (hperm.mem_iff.mp (List.mem_map_of_mem hmem)) with hrange | hfile
        · have := mem_range'_1.mp hrange
          omega
        · exact hbound _ (mem_of_mem_filter hfile)
    rw [hnext, hloads.next_generation]
    rcases advance_cases loaded.max_loaded_generation
      (1 + (storedGenerations (loadedEntries codec file)).count 0) with ⟨-, hstays⟩ | ⟨-, hgoes⟩
    · rw [hstays]
      omega
    · rw [hgoes]
      omega

namespace Sample

/-- A watch, as an entry of a file. -/
def watch (session : String) (generation : ℕ) : String × StoredRegistryValue :=
  (session, .Wrapped
    { registration :=
        { session, registered_at := "2026-04-02T00:00:00Z", registration_source := .CliWatch
          registration_generation := generation }
      lane := none })

/-- A file of watches whose generations do not clash with those that a load mints. -/
theorem watches_identified : GenerationsIdentify plainCodec
    (Daemon.start plainCodec (some [watch "a" 4, watch "b" 0, watch "c" 7]))
    [.mint, .mint, .registerRuntime 1 { session := "a", registered_at := "" } (.ok ())] :=
  (generations_identify_iff plainCodec_lawful _ (by decide) (by decide)).mpr (by decide) _ (by decide)

/-- The only watch of the file has the generation that the allocator stands on. -/
theorem generation_minted_again : ¬ GenerationsIdentify plainCodec
    (Daemon.start plainCodec (some [watch "a" 1]))
    [.mint, .registerRuntime 0 { session := "a", registered_at := "" } (.ok ())] := by
  intro h
  have hold : (Daemon.start plainCodec (some [watch "a" 1])).store.registry.Holds "a" 1 :=
    ⟨_, rfl, by decide, rfl⟩
  have hnew : ((daemonMachine plainCodec).run (Daemon.start plainCodec (some [watch "a" 1]))
      [.mint, .registerRuntime 0 { session := "a", registered_at := "" } (.ok ())]).store.registry.Holds
      "a" 1 := ⟨_, rfl, by decide, rfl⟩
  have hagain := (h.same [] _ [] (append_nil _).symm "a" "a" 1 hold hnew).2 1
  exact hagain (by decide)

end Sample

end Clawhip.Tmux
