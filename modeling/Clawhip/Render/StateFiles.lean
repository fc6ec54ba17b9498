import Clawhip.Render.Arms
import Clawhip.Render.Normalized
import Clawhip.Workspace.Diff

/-!
# The events of state files

Every event of a workspace names the state file that it was read from, is of a kind of workspaces, and says
nothing that another kind could be read from.
-/

namespace Clawhip.Workspace

open List Option OrdMap

open DefaultRenderer

/-! ## What is read of state files -/

/-- The kinds of the events of workspaces. -/
def WORKSPACE_KINDS : List String :=
  ["workspace.session.started", "workspace.session.ended", "workspace.turn.complete",
    "workspace.agent.turn", "workspace.skill.activated", "workspace.skill.deactivated",
    "workspace.skill.phase-changed", "workspace.metrics.updated", "workspace.tmux.injection",
    "workspace.team.nudged", "workspace.session.blocked", "workspace.mission.updated",
    "workspace.team.updated", "workspace.session.checkpointed"]

variable {matched : WorkspaceMatch}

/-- A payload names its state file, and says nothing of the kind of its event. -/
structure Names (matched : WorkspaceMatch) (builder : PayloadBuilder) : Prop where
  state_file : OrdMap.get builder "state_file" = some (.string matched.state_file)
  plain : ∀ key ∈ SIGNAL_FIELDS, OrdMap.get builder key = none

/-- A field that a payload may be given. -/
def Free (key : String) : Prop := key ≠ "state_file" ∧ key ∉ SIGNAL_FIELDS

instance (key : String) : Decidable (Free key) := inferInstanceAs (Decidable (_ ∧ _))

namespace Names

variable {builder : PayloadBuilder} (h : Names matched builder) {key : String} (hkey : Free key)

include h hkey

theorem insert (value : Json) : Names matched (insert builder key value) where
  state_file := by
    rw [get_insert_ne _ _ hkey.1.symm]
    exact h.state_file
  plain := fun name hname => by
    have hne : name ≠ key := fun heq => hkey.2 (heq ▸ hname)
    rw [get_insert_ne _ _ hne]
    exact h.plain name hname

theorem withString (value : Option String) : Names matched (builder.withString key value) := by
  unfold PayloadBuilder.withString
  split
  · exact h.insert hkey _
  · exact h

theorem withU64 (value : Option ℕ) : Names matched (builder.withU64 key value) := by
  cases value with
  | none => exact h
  | some value => exact h.insert hkey _

theorem withBool (value : Option Bool) : Names matched (builder.withBool key value) := by
  cases value with
  | none => exact h
  | some value => exact h.insert hkey _

theorem withArray (value : List Json) : Names matched (builder.withArray key value) := by
  unfold PayloadBuilder.withArray
  split_ifs
  · exact h
  · exact h.insert hkey _

end Names

variable {builder : PayloadBuilder}

/-- What no text is written to stays missing. -/
theorem get_withString_ne {name key : String} (hne : name ≠ key)
    (value : Option String) : get (builder.withString key value) name = get builder name := by
  unfold PayloadBuilder.withString
  split
  · exact get_insert_ne _ _ hne
  · rfl

theorem names_basePayload (hfile : matched.state_file ≠ "") (current : Json) :
    Names matched (basePayload matched current) := by
  refine Names.withString ?_ (by decide) _
  constructor
  · unfold PayloadBuilder.withString
    have hfilter : (some matched.state_file).filter (fun value => !value.isEmpty) = some matched.state_file := by
      simp [hfile]
    rw [hfilter]
    exact get_insert_self _ _ _
  · intro name hname
    have hne : ∀ key ∈ ["workspace_root", "workspace_name", "monitor_path", "state_family", "state_dir",
        "state_file"], name ≠ key := by
      have hall : ∀ name ∈ SIGNAL_FIELDS, ∀ key ∈ ["workspace_root", "workspace_name", "monitor_path",
          "state_family", "state_dir", "state_file"], name ≠ key := by decide
      exact hall name hname
    rw [get_withString_ne (hne _ (by decide)), get_withString_ne (hne _ (by decide)),
      get_withString_ne (hne _ (by decide)), get_withString_ne (hne _ (by decide)),
      get_withString_ne (hne _ (by decide)), get_withString_ne (hne _ (by decide))]
    rfl

/-- An event of a workspace is of one of its kinds and names its state file. -/
structure FromState (matched : WorkspaceMatch) (event : IncomingEvent) : Prop where
  kind : event.kind ∈ WORKSPACE_KINDS
  payload : ∃ builder : PayloadBuilder, event.payload = .object builder ∧ Names matched builder

theorem fromState_event {kind : String} (hkind : kind ∈ WORKSPACE_KINDS)
    (h : Names matched builder) : FromState matched (workspaceEvent matched kind builder.intoValue) :=
  ⟨hkind, builder, rfl, h⟩

section Diffs

variable (hfile : matched.state_file ≠ "") {previous current : Option Json} {events : List IncomingEvent}
  {event : IncomingEvent} (hmem : event ∈ events)

include hfile hmem

theorem fromState_diffSession (h : diffSession matched previous current = some events) : FromState matched event := by
  have hbase := names_basePayload hfile
  unfold diffSession at h
  split at h
  · obtain rfl := some.inj h
    rw [mem_singleton.mp hmem]
    exact fromState_event (by decide) ((((((hbase _).withString (by decide) _).withString (by decide) _).withU64
      (by decide) _).withString (by decide) _).withString (by decide) _)
  · split_ifs at h
    obtain rfl := some.inj h
    rw [mem_singleton.mp hmem]
    exact fromState_event (by decide) (((((((hbase _).withString (by decide) _).withString (by decide)
      _).withString (by decide) _).withU64 (by decide) _).withString (by decide) _).withString (by decide) _)
  · obtain rfl := some.inj h
    rw [mem_singleton.mp hmem]
    exact fromState_event (by decide) (((((hbase _).withString (by decide) _).withString (by decide) _).withU64
      (by decide) _).withString (by decide) _)
  · cases h

theorem fromState_diffHudState (h : diffHudState matched previous current = some events) : FromState matched event := by
  obtain ⟨current, -, h⟩ := bind_eq_some_iff.mp h
  obtain ⟨curr_turns, -, h⟩ := bind_eq_some_iff.mp h
  dsimp only at h
  split_ifs at h
  obtain rfl := some.inj h
  rw [mem_singleton.mp hmem]
  exact fromState_event (by decide) ((((((names_basePayload hfile _).withU64 (by decide) _).withU64 (by decide)
    _).withString (by decide) _).withString (by decide) _).withString (by decide) _)

theorem fromState_diffNotifyHookState (h : diffNotifyHookState matched previous current = some events) :
    FromState matched event := by
  obtain ⟨current, -, h⟩ := bind_eq_some_iff.mp h
  dsimp only at h
  split_ifs at h
  obtain rfl := some.inj h
  rw [mem_singleton.mp hmem]
  exact fromState_event (by decide) (((((names_basePayload hfile _).withU64 (by decide) _).withString
    (by decide) _).withArray (by decide) _).withString (by decide) _)

theorem fromState_diffSkillState (h : diffSkillState matched previous current = some events) :
    FromState matched event := by
  obtain ⟨current, -, h⟩ := bind_eq_some_iff.mp h
  obtain ⟨kind, hskill, h⟩ := bind_eq_some_iff.mp h
  have hkind : kind ∈ WORKSPACE_KINDS := by
    unfold skillKind at hskill
    split_ifs at hskill <;> (rw [← some.inj hskill]; decide)
  obtain rfl := some.inj h
  rw [mem_singleton.mp hmem]
  exact fromState_event hkind (((((((((names_basePayload hfile _).withBool (by decide) _).withString (by decide)
    _).withString (by decide) _).withString (by decide) _).withString (by decide) _).withString (by decide)
    _).withString (by decide) _).withString (by decide) _)

theorem fromState_diffTmuxHookState (h : diffTmuxHookState matched previous current = some events) :
    FromState matched event := by
  obtain ⟨current, -, h⟩ := bind_eq_some_iff.mp h
  obtain ⟨curr_total, -, h⟩ := bind_eq_some_iff.mp h
  split_ifs at h
  obtain rfl := some.inj h
  rw [mem_singleton.mp hmem]
  exact fromState_event (by decide) ((((((names_basePayload hfile _).withU64 (by decide) _).withU64 (by decide)
    _).withString (by decide) _).withString (by decide) _).withString (by decide) _)

omit hfile in
/-- A diff of the whole file or of a field sends one event, with the payload of the file. -/
theorem mem_diffWhole {kind : String} {payload : Json → Json}
    (h : diffWhole matched kind payload previous current = some events) :
    ∃ current, event = workspaceEvent matched kind (payload current) := by
  unfold diffWhole at h
  obtain ⟨current, -, h⟩ := bind_eq_some_iff.mp h
  split_ifs at h
  obtain rfl := some.inj h
  exact ⟨current, mem_singleton.mp hmem⟩

omit hfile in
theorem mem_diffField {β : Type} [DecidableEq β] {field : Json → Option β} {kind : String}
    {payload : Json → Json} (h : diffField matched field kind payload previous current = some events) :
    ∃ current, event = workspaceEvent matched kind (payload current) := by
  unfold diffField at h
  obtain ⟨current, -, h⟩ := bind_eq_some_iff.mp h
  split_ifs at h
  obtain rfl := some.inj h
  exact ⟨current, mem_singleton.mp hmem⟩

end Diffs

variable {previous current : Option Json} {events : List IncomingEvent}

/-- A file that a diff knows has a name. -/
theorem filled_of_diffOf (h : diffOf matched previous current = some events) : Filled matched.state_file := by
  unfold diffOf at h
  split at h
  case h_12 =>
    split_ifs at h with hstart hend
    · have hsub : "checkpoints/".toList <+: matched.state_file.toList := isPrefixOf_iff_prefix.mp hstart
      exact Filled.of_mem (c := 'c') (hsub.subset (by decide)) (by decide)
    · have hsub : "idle-notif-cooldown.json".toList <:+ matched.state_file.toList :=
        isSuffixOf_iff_suffix.mp hend
      exact Filled.of_mem (c := 'i') (hsub.subset (by decide)) (by decide)
  all_goals
    rename_i heq
    rw [heq]
    decide

/-- What is sent of a state file names it. -/
theorem fromState (h : diffOf matched previous current = some events) {event : IncomingEvent} (hmem : event ∈ events) :
    FromState matched event := by
  have hfile : matched.state_file ≠ "" := by
    intro hempty
    have hfilled := filled_of_diffOf h
    rw [hempty] at hfilled
    exact absurd hfilled (by decide)
  have hbase := names_basePayload hfile
  unfold diffOf at h
  split at h
  · exact fromState_diffSession hfile hmem h
  · exact fromState_diffHudState hfile hmem h
  · exact fromState_diffNotifyHookState hfile hmem h
  · exact fromState_diffSkillState hfile hmem h
  · obtain ⟨current, rfl⟩ := mem_diffWhole hmem h
    exact ⟨(by decide : "workspace.metrics.updated" ∈ WORKSPACE_KINDS), _, rfl, ((hbase current).withString (by decide) _).insert (by decide) _⟩
  · exact fromState_diffTmuxHookState hfile hmem h
  · obtain ⟨current, rfl⟩ := mem_diffWhole hmem h
    exact fromState_event (by decide) ((((hbase _).withString (by decide) _).withString (by decide)
      _).withString (by decide) _)
  · obtain ⟨current, rfl⟩ := mem_diffField hmem h
    exact fromState_event (by decide) (((((((hbase _).withU64 (by decide) _).withU64 (by decide) _).withString
      (by decide) _).withString (by decide) _).withString (by decide) _).withString (by decide) _)
  · obtain ⟨current, rfl⟩ := mem_diffField hmem h
    exact fromState_event (by decide) ((((hbase _).withString (by decide) _).withU64 (by decide) _).withString
      (by decide) _)
  · obtain ⟨current, rfl⟩ := mem_diffWhole hmem h
    exact fromState_event (by decide) ((hbase _).withString (by decide) _)
  · obtain ⟨current, rfl⟩ := mem_diffWhole hmem h
    exact fromState_event (by decide) ((hbase _).withString (by decide) _)
  · split_ifs at h
    · obtain ⟨current, rfl⟩ := mem_diffField hmem h
      exact fromState_event (by decide) (((((hbase _).withString (by decide) _).withString (by decide)
        _).withString (by decide) _).withString (by decide) _)
    · obtain ⟨current, rfl⟩ := mem_diffWhole hmem h
      exact fromState_event (by decide) ((hbase _).withString (by decide) _)

end Clawhip.Workspace
