import Clawhip.Tmux.Generations

/-!
# The registry and its file

Every writer of the registry stores its copy before the copy takes the registry's place, but the
configured monitors go into the registry alone. `registry_durable_iff` says when the file agrees with the
registry all along a run: when no configured monitor takes the place of a registration that the file
holds.
-/

namespace Clawhip.Tmux

open List Option OrdMap Machine RegisteredTmuxSession

variable {α : Type} {codec : RegistryCodec α}

/-! ## Agreement -/

/-- A load makes the registration of the entry; the generation is minted if the entry has none. -/
def StoredRegistryValue.Restores (value : StoredRegistryValue) (registration : RegisteredTmuxSession) :
    Prop :=
  ∃ generation, registration = { value.registration with registration_generation := generation } ∧
    (value.registration.registration_generation ≠ 0 → generation = value.registration.registration_generation)

variable (codec) in
/-- The file holds exactly the durable entries of the registry. -/
def Store.Agrees (store : Store α) : Prop :=
  ∀ session, Option.Rel StoredRegistryValue.Restores
    (OrdMap.get (loadedEntries codec store.file) session)
    ((OrdMap.get (durableRuntimeEntries store.registry) session).map StoredTmuxRegistration.registration)

variable {registry : Registry} {registration : RegisteredTmuxSession} {store : Store α} {call : Call}

theorem get_durableRuntimeEntries (hformed : registry.WellFormed) (session : String) :
    get (durableRuntimeEntries registry) session = ((get registry session).filter durable).map stored := by
  unfold durableRuntimeEntries
  rw [get_map_values, get_filter hformed.nodup]

theorem durable_registration (hformed : registry.WellFormed) (session : String) :
    (get (durableRuntimeEntries registry) session).map StoredTmuxRegistration.registration =
      (get registry session).filter durable := by
  rw [get_durableRuntimeEntries hformed, Option.map_map]
  exact map_id'

theorem normalizeRuntimeRegistrationSource_of_ne {source : RegistrationSource}
    (h : source ≠ .ConfigMonitor) : normalizeRuntimeRegistrationSource source = source := by
  cases source with
  | ConfigMonitor => exact absurd rfl h
  | CliWatch => rfl
  | CliNew => rfl

theorem stored_restores (h : registration.durable = true) :
    (StoredRegistryValue.Wrapped registration.stored.skipped).Restores registration := by
  have hsource : registration.registration_source ≠ .ConfigMonitor := by simpa [durable] using h
  refine ⟨registration.registration_generation, ?_, fun _ => rfl⟩
  simp only [StoredRegistryValue.registration, stored,
    StoredTmuxRegistration.skipped, normalizeRuntimeRegistrationSource_of_ne hsource]

/-- A registry that was stored agrees with its file. -/
theorem Store.holding_agrees (hcodec : codec.Lawful) {next : Registry} (hformed : next.WellFormed) :
    (holding codec next).Agrees codec := by
  intro session
  have hnodup : (keys (durableRuntimeEntries next)).Nodup := by
    unfold durableRuntimeEntries
    rw [keys_map_values]
    exact nodup_filter hformed.nodup _
  have hread : loadedEntries codec (holding codec next).file =
      (durableRuntimeEntries next).map fun entry => (entry.1, .Wrapped entry.2.skipped) := by
    unfold loadedEntries holding
    simp only [map_some, hcodec.round_trip _ hnodup]
  have hregistry : (holding codec next).registry = next := rfl
  have hmap := get_map_values (durableRuntimeEntries next)
    (fun stored => StoredRegistryValue.Wrapped stored.skipped) session
  rw [hread, hregistry, hmap, durable_registration hformed, get_durableRuntimeEntries hformed, Option.map_map]
  cases get next session with
  | none => exact .none
  | some registration =>
    rw [filter_some]
    split_ifs with hdurable
    · exact .some (stored_restores hdurable)
    · exact .none

theorem Daemon.start_agrees (hcodec : codec.Lawful) (file : Option α)
    (hroom : 1 + (storedGenerations (loadedEntries codec file)).count 0 < 2 ^ 64) :
    (start codec file).store.Agrees codec := by
  have hkeys := nodup_loadedEntries hcodec file
  obtain ⟨loaded, hloads, hregistry, -, -⟩ := start_loads codec hkeys hroom
  intro session
  have hfile : (start codec file).store.file = file := rfl
  rw [hfile, hregistry, durable_registration hloads.formed]
  cases hget : get (loadedEntries codec file) session with
  | none =>
    rw [hloads.others session (get_eq_none_iff.mp hget)]
    exact .none
  | some value =>
    obtain ⟨generation, hrestored, hkept⟩ := hloads.restores session value hget
    have hdurable : durable { value.registration with registration_generation := generation } = true := by
      simpa [durable] using value.registration_source_ne
    rw [hrestored, filter_some, if_pos hdurable]
    exact .some ⟨generation, rfl, hkept⟩

/-! ## Runs -/

/-- A reconciliation puts a configured monitor in the place of a registration that the file holds. -/
def Call.ReplacesDurable (call : Call) (registry : Registry) : Prop :=
  match call with
  | .sync monitors now available_sessions =>
    ∃ session registration, OrdMap.get registry session = some registration ∧
      registration.durable = true ∧ registration.Replaceable ∧
      (OrdMap.get (activeConfig monitors now available_sessions registry) session).isSome = true
  | _ => False

/-- A lane that is registered is still there when its registration reads it back. -/
def Daemon.ReadsBack (daemon : Daemon α) : Call → Prop
  | .registerLane place input later written =>
    ∀ generation, daemon.minted[place]? = some generation →
      input.answer generation daemon.store.registry = none → written = .ok () →
      (later (OrdMap.insert daemon.store.registry input.registration.session
        { input.public generation with lane := some input.lane })).lane
          input.registration.session ≠ none
  | _ => True

variable (codec) in
/-- After each call of the run the file agrees with the registry, and a call that answers with an error
has changed neither. -/
structure RegistryDurable (start : Daemon α) (calls : List Call) : Prop where
  agrees : ∀ pre call post, calls = pre ++ call :: post →
    ((daemonMachine codec).run start (pre ++ [call])).store.Agrees codec
  errors : ∀ pre call post, calls = pre ++ call :: post →
    (((daemonMachine codec).run start pre).step codec call).2.isErr = true →
      (((daemonMachine codec).run start pre).step codec call).1.store =
        ((daemonMachine codec).run start pre).store

theorem RegisteredTmuxSession.FromConfig.not_durable (h : registration.FromConfig) : ¬ registration.durable = true := by
  simp [durable, h.source]

variable {generation : ℕ}

/-- A call that replaces no durable registration leaves the registry and its file in agreement. -/
theorem Outcome.agrees (hcodec : codec.Lawful) {result : Answer × Store α}
    (h : Outcome codec store generation call result) (hformed : store.registry.WellFormed)
    (hagrees : store.Agrees codec) (hcall : ¬ call.ReplacesDurable store.registry) : result.2.Agrees codec := by
  have hafter := h.wellFormed hformed
  cases h with
  | same answer => exact hagrees
  | writes hwrites herr => exact Store.holding_agrees hcodec (hwrites.wellFormed hformed)
  | sync heq =>
    rename_i monitors now available_sessions
    subst heq
    intro session
    have hbefore := hagrees session
    rw [durable_registration hformed] at hbefore
    rw [durable_registration hafter]
    have hsame : (get (store.syncActiveConfigRegistrations monitors now
        available_sessions).registry session).filter durable =
        (get store.registry session).filter durable := by
      rcases get_mergeActiveConfigRegistrations hformed (activeConfig_fromConfig monitors now
        available_sessions store.registry) session with hsame | ⟨existing, hget, hsource, -, hnone⟩ |
        ⟨registration, hnew, hfrom, hin, hold⟩
      · exact congrArg _ hsame
      · have hnot : ¬ existing.durable = true := by simp [durable, hsource]
        rw [hget, filter_some, if_neg hnot]
        exact congrArg _ hnone
      · refine (congrArg (Option.filter durable) hnew).trans ?_
        rw [filter_some, if_neg hfrom.not_durable]
        cases hget : get store.registry session with
        | none => rfl
        | some existing =>
          rw [filter_some, if_neg]
          exact fun hdurable => hcall ⟨session, existing, hget, hdurable, hold existing hget, hin⟩
    rw [hsame]
    exact hbefore

/-- A call that replaces a durable registration leaves the file with a registration that the registry
does not have. -/
theorem Call.ReplacesDurable.disagrees (h : call.ReplacesDurable store.registry) (generation : ℕ)
    (hformed : store.registry.WellFormed) (hagrees : store.Agrees codec) :
    ¬ (call.on codec generation store).2.Agrees codec := by
  cases call with
  | sync monitors now available_sessions =>
    obtain ⟨session, registration, hget, hdurable, hreplaceable, hin⟩ := h
    intro hafter
    have hfile := hagrees session
    have hthen := hafter session
    have hformed' : (on codec (.sync monitors now available_sessions) generation store).2.registry.WellFormed :=
      ((sync monitors now available_sessions).outcome codec generation store).wellFormed hformed
    rw [durable_registration hformed, hget, filter_some, if_pos hdurable] at hfile
    have hretained : OrdMap.get (store.registry.filter fun entry =>
        entry.2.active_wrapper_monitor || entry.2.registration_source != .ConfigMonitor ||
          (OrdMap.get (activeConfig monitors now available_sessions store.registry)
            entry.1).isSome) session = some registration := by
      rw [get_filter hformed.nodup, hget, filter_some, if_pos]
      simp [hin]
    obtain ⟨new, hnew, hfrom⟩ := Registry.foldl_mergeConfig_replaces
      (activeConfig_fromConfig monitors now available_sessions store.registry) hretained hreplaceable hin
    have hreplaced : (OrdMap.get (on codec (.sync monitors now available_sessions) generation
        store).2.registry session).filter durable = none := by
      refine (congrArg (Option.filter durable) hnew).trans ?_
      rw [filter_some, if_neg hfrom.not_durable]
    rw [durable_registration hformed', hreplaced] at hthen
    have hsame : (on codec (.sync monitors now available_sessions) generation store).2.file = store.file := rfl
    rw [hsame] at hthen
    revert hfile hthen
    cases OrdMap.get (loadedEntries codec store.file) session with
    | none => exact fun hfile _ => by cases hfile
    | some value => exact fun _ hthen => by cases hthen
  | _ => exact h.elim

/-- A call that reads back what it registered answers with an error only if it has changed nothing. -/
theorem Call.on_errors (hback : ∀ place input later written, call = .registerLane place input later written →
      input.answer generation store.registry = none → written = .ok () →
      (later (insert store.registry input.registration.session
        { input.public generation with lane := some input.lane })).lane
          input.registration.session ≠ none) (herr : (call.on codec generation store).1.isErr = true) :
    (call.on codec generation store).2 = store := by
  have houtcome := call.outcome codec generation store
  generalize call.on codec generation store = result at *
  cases houtcome with
  | same answer => rfl
  | writes hwrites hreads =>
    refine absurd ?_ (hreads herr)
    rintro minted input later written rfl
    cases hwrites with
    | registerLane _ _ _ hanswer => exact hback minted input later _ rfl hanswer rfl
    | mutate _ _ hmutates => exact hmutates.elim
  | sync hcall => cases herr

theorem Daemon.step_errors {daemon : Daemon α} (hback : daemon.ReadsBack call)
    (herr : (daemon.step codec call).2.isErr = true) : (daemon.step codec call).1.store = daemon.store := by
  unfold step at herr ⊢
  split at herr
  · rfl
  · cases hplace : call.place with
    | none =>
      rw [hplace] at herr
      refine Call.on_errors (fun place input later written heq => ?_) herr
      rw [heq] at hplace
      cases hplace
    | some place =>
      rw [hplace] at herr
      cases hminted : daemon.minted[place]? with
      | none => simp only [hminted]
      | some generation =>
        simp only [hminted] at herr ⊢
        refine Call.on_errors (fun place' input later written heq => ?_) herr
        subst heq
        cases hplace
        exact hback generation hminted

variable (codec) in
/-- A registration that does not find its lane answers with an error, and has changed the registry. -/
theorem Daemon.step_changes {daemon : Daemon α} (hback : ¬ daemon.ReadsBack call) :
    (daemon.step codec call).2.isErr = true ∧ (daemon.step codec call).1.store ≠ daemon.store := by
  cases call with
  | registerLane place input later written =>
    unfold ReadsBack at hback
    simp only [not_forall, not_not] at hback
    obtain ⟨generation, hminted, hanswer, rfl, hgone⟩ := hback
    have hon : Call.on codec (.registerLane place input later (.ok ())) generation daemon.store =
        (.detail (laneDetailForSession (later (OrdMap.insert daemon.store.registry
            input.registration.session { input.public generation with lane := some input.lane }))
            input.registration.session),
          .holding codec (OrdMap.insert daemon.store.registry input.registration.session
            { input.public generation with lane := some input.lane })) := by
      simp only [Call.on, Store.registerLaneRegistration, hanswer, Store.swap_ok _ rfl]
    have hstep : daemon.step codec (.registerLane place input later (.ok ())) =
        ({ daemon with
            minted := daemon.minted.eraseIdx place
            store := (Call.on codec (.registerLane place input later (.ok ())) generation daemon.store).2 },
          (Call.on codec (.registerLane place input later (.ok ())) generation daemon.store).1) := by
      simp only [Daemon.step, Call.place, hminted]
    rw [hstep, hon]
    constructor
    · unfold laneDetailForSession
      cases hget : OrdMap.get (later (OrdMap.insert daemon.store.registry input.registration.session
        { input.public generation with lane := some input.lane })) input.registration.session with
      | none => rfl
      | some registration =>
        have hlane : registration.lane = none := by
          unfold Registry.lane at hgone
          rw [hget] at hgone
          exact hgone
        simp only [hlane]
        rfl
    · -- The session has an active lane now, and had none or a retired one.
      intro hsame
      have hregistry : OrdMap.insert daemon.store.registry input.registration.session
          { input.public generation with lane := some input.lane } = daemon.store.registry :=
        congrArg Store.registry hsame
      have hlane : daemon.store.registry.lane input.registration.session = some input.lane := by
        rw [← hregistry]
        exact Registry.lane_insert_self
      have hretired := input.free_of_answer hanswer _ hlane
      cases hretired
  | _ => exact absurd trivial hback

/-- The registry and its file agree all along a run exactly if no configured monitor takes the place of
a durable registration, and every lane that is registered is read back. -/
theorem registry_durable_iff (hcodec : codec.Lawful) (file : Option α)
    (hlength : (loadedEntries codec file).length + 1 < 2 ^ 64) (calls : List Call) :
    RegistryDurable codec (Daemon.start codec file) calls ↔ (daemonMachine codec).Along (fun daemon call =>
        ¬ call.ReplacesDurable daemon.store.registry ∧ daemon.ReadsBack call)
        (Daemon.start codec file) calls := by
  have hroom : 1 + (storedGenerations (loadedEntries codec file)).count 0 < 2 ^ 64 := by
    have hle := count_le_length (a := 0) (l := storedGenerations (loadedEntries codec file))
    rw [storedGenerations, length_map] at hle
    unfold storedGenerations
    omega
  have hstart := Daemon.start_agrees hcodec file hroom
  have hformed (calls : List Call) :
      ((daemonMachine codec).run (Daemon.start codec file) calls).store.registry.WellFormed := by
    refine run_invariant' (daemonMachine codec) (fun daemon => daemon.store.registry.WellFormed)
      (fun daemon call h => ?_) ?_ calls
    · obtain ⟨generation, houtcome⟩ := daemon.step_outcome codec call
      exact houtcome.wellFormed h
    · obtain ⟨loaded, hloads, hregistry, -, -⟩ :=
        Daemon.start_loads codec (nodup_loadedEntries hcodec file) hroom
      exact hregistry ▸ hloads.formed
  constructor
  · intro h
    rw [along_iff]
    rintro pre call post rfl
    have hbefore : ((daemonMachine codec).run (Daemon.start codec file) pre).store.Agrees codec := by
      rcases eq_nil_or_concat pre with rfl | ⟨pre, last, rfl⟩
      · exact hstart
      · rw [concat_eq_append]
        exact h.agrees pre last (call :: post) (by simp)
    refine ⟨fun hreplaces => ?_, ?_⟩
    · have hafter := h.agrees pre call post rfl
      rw [run_concat] at hafter
      cases call with
      | sync monitors now available_sessions =>
        exact hreplaces.disagrees 0 (hformed pre) hbefore hafter
      | _ => exact hreplaces
    · by_contra hback
      obtain ⟨herr, hchanged⟩ := Daemon.step_changes codec hback
      exact hchanged (h.errors pre call post rfl herr)
  · intro halong
    have hagrees : ∀ calls, (daemonMachine codec).Along (fun daemon call =>
        ¬ call.ReplacesDurable daemon.store.registry ∧ daemon.ReadsBack call)
        (Daemon.start codec file) calls →
        ((daemonMachine codec).run (Daemon.start codec file) calls).store.Agrees codec := by
      intro calls halong
      induction calls using List.reverseRecOn with
      | nil => exact hstart
      | append_singleton calls call ih =>
        obtain ⟨hcalls, hcall⟩ := (along_concat ..).mp halong
        rw [run_concat]
        obtain ⟨generation, houtcome⟩ :=
          ((daemonMachine codec).run (Daemon.start codec file) calls).step_outcome codec call
        exact houtcome.agrees hcodec (hformed calls) (ih hcalls) hcall.1
    refine ⟨fun pre call post hsplit => hagrees _ ?_, fun pre call post hsplit herr => ?_⟩
    · rw [hsplit, append_cons, along_append] at halong
      exact halong.1
    · exact Daemon.step_errors ((along_iff ..).mp halong pre call post hsplit).2 herr

namespace Sample

/-- A monitor of the session `a`. -/
def monitor : TmuxSessionMonitor where
  session := "a"

/-- Registrations and removals, with a reconciliation before `a` is registered. -/
theorem watches_durable : RegistryDurable plainCodec (Daemon.start plainCodec none)
    [.sync [monitor] "2026-04-02T00:00:00Z" ["a", "b"], .mint,
      .registerRuntime 0 { session := "b", registered_at := "" } (.ok ()),
      .prune [{ session := "b", registration_generation := 1 }] (.error "disk full")] := by
  refine (registry_durable_iff plainCodec_lawful none (by decide) _).mpr
    ⟨⟨?_, trivial⟩, ⟨id, trivial⟩, ⟨id, trivial⟩, ⟨id, trivial⟩, trivial⟩
  rintro ⟨session, registration, hget, -⟩
  cases hget

/-- A configured monitor takes the place of a watch that the file holds. -/
theorem replaced_watch_stays : ¬ RegistryDurable plainCodec (Daemon.start plainCodec (some [watch "a" 4]))
    [.sync [monitor] "2026-04-02T00:00:00Z" ["a"]] := by
  intro h
  have hagrees := h.agrees [] _ [] rfl "a"
  have hfile : OrdMap.get (loadedEntries plainCodec ((daemonMachine plainCodec).run
      (Daemon.start plainCodec (some [watch "a" 4]))
      [.sync [monitor] "2026-04-02T00:00:00Z" ["a"]]).store.file) "a" = some (watch "a" 4).2 := rfl
  have hregistry : OrdMap.get (durableRuntimeEntries ((daemonMachine plainCodec).run
      (Daemon.start plainCodec (some [watch "a" 4]))
      [.sync [monitor] "2026-04-02T00:00:00Z" ["a"]]).store.registry) "a" = none := by decide
  rw [nil_append, hfile, hregistry] at hagrees
  cases hagrees

end Sample

end Clawhip.Tmux
