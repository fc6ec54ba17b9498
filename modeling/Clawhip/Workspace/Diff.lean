import Clawhip.Lib.Machine
import Clawhip.Routing.Explain

/-!
# Workspace state files

`process_path` of `src/source/workspace.rs` for one watched state file: what is read is compared with the
snapshot that was kept, by the diff function of the file, and the events that the monitor allows are sent.
-/

namespace Clawhip.Workspace

/-- `WorkspaceMonitor`, as far as the events of a file read it. -/
structure WorkspaceMonitor where
  path : String
  channel : Option String := none
  mention : Option String := none
  format : Option MessageFormat := none
  events : List String := []

/-- `WorkspaceMatch`; the paths as they are displayed. -/
structure WorkspaceMatch where
  monitor : WorkspaceMonitor
  workspace_root : String
  workspace_name : String
  state_family : String
  watch_dir : String
  state_file : String

/-! ## Values -/

def stringValue (value : Json) (key : String) : Option String := Text.nonblank ((value.get key).bind Json.asStr)

def u64Value (value : Json) (key : String) : Option ℕ := (value.get key).bind Json.asU64

def boolValue (value : Json) (key : String) : Option Bool := (value.get key).bind Json.asBool

/-- `extract_recent_turn_keys`, in the order of the keys. -/
def extractRecentTurnKeys (value : Json) : List String :=
  match value.get "recent_turns" with
  | some (.object fields) => OrdMap.keys fields
  | _ => []

/-! ## Payloads -/

abbrev PayloadBuilder := OrdMap String Json

namespace PayloadBuilder

def withString (inner : PayloadBuilder) (key : String) (value : Option String) : PayloadBuilder :=
  match value.filter fun value => !value.isEmpty with
  | some value => OrdMap.insert inner key (.string value)
  | none => inner

def withU64 (inner : PayloadBuilder) (key : String) (value : Option ℕ) : PayloadBuilder :=
  match value with
  | some value => OrdMap.insert inner key (Json.ofNat value)
  | none => inner

def withBool (inner : PayloadBuilder) (key : String) (value : Option Bool) : PayloadBuilder :=
  match value with
  | some value => OrdMap.insert inner key (.bool value)
  | none => inner

def withArray (inner : PayloadBuilder) (key : String) (value : List Json) : PayloadBuilder :=
  if value.isEmpty then inner else OrdMap.insert inner key (.array value)

def intoValue (inner : PayloadBuilder) : Json := .object inner

end PayloadBuilder

section

variable (matched : WorkspaceMatch)

def basePayload (current : Json) : PayloadBuilder :=
  PayloadBuilder.withString [] "workspace_root" (some matched.workspace_root)
    |>.withString "workspace_name" (some matched.workspace_name)
    |>.withString "monitor_path" (some matched.monitor.path)
    |>.withString "state_family" (some matched.state_family)
    |>.withString "state_dir" (some matched.watch_dir)
    |>.withString "state_file" (some matched.state_file)
    |>.withString "tool" (stringValue current "tool")

def workspaceEvent (kind : String) (payload : Json) : IncomingEvent where
  kind := kind
  channel := matched.monitor.channel
  mention := matched.monitor.mention
  format := matched.monitor.format
  template := none
  payload := payload

/-! ## Diffs -/

def sessionStarted (current : Json) : IncomingEvent :=
  workspaceEvent matched "workspace.session.started"
    ((basePayload matched current).withString "session_id" (stringValue current "session_id")
      |>.withString "started_at" (stringValue current "started_at")
      |>.withU64 "pid" (u64Value current "pid")
      |>.withString "cwd" (stringValue current "cwd")
      |>.withString "summary" (some "workspace session started")
      |>.intoValue)

/-- The event of a session that took the place of another one. -/
def sessionRotated (previous current : Json) : IncomingEvent :=
  workspaceEvent matched "workspace.session.started"
    ((basePayload matched current).withString "session_id" (stringValue current "session_id")
      |>.withString "previous_session_id" (stringValue previous "session_id")
      |>.withString "started_at" (stringValue current "started_at")
      |>.withU64 "pid" (u64Value current "pid")
      |>.withString "cwd" (stringValue current "cwd")
      |>.withString "summary" (some "workspace session rotated")
      |>.intoValue)

def sessionEnded (previous : Json) : IncomingEvent :=
  workspaceEvent matched "workspace.session.ended"
    ((basePayload matched previous).withString "session_id" (stringValue previous "session_id")
      |>.withString "started_at" (stringValue previous "started_at")
      |>.withU64 "pid" (u64Value previous "pid")
      |>.withString "summary" (some "workspace session ended")
      |>.intoValue)

def diffSession : Option Json → Option Json → Option (List IncomingEvent)
  | none, some current => some [sessionStarted matched current]
  | some previous, some current =>
    if stringValue previous "session_id" ≠ stringValue current "session_id" then
      some [sessionRotated matched previous current]
    else none
  | some previous, none => some [sessionEnded matched previous]
  | none, none => none

def diffHudState (previous current : Option Json) : Option (List IncomingEvent) := do
  let current ← current
  let prev_turns := (previous.bind (u64Value · "turn_count")).getD 0
  let curr_turns ← u64Value current "turn_count"
  let last_turn_changed :=
    previous.bind (stringValue · "last_turn_at") ≠ stringValue current "last_turn_at"
  if previous.isSome ∧ curr_turns ≤ prev_turns ∧ ¬ last_turn_changed then none
  else some [workspaceEvent matched "workspace.turn.complete"
    ((basePayload matched current).withU64 "turn_count" (some curr_turns)
      |>.withU64 "turn_delta" (some (curr_turns - prev_turns))
      |>.withString "last_turn_at" (stringValue current "last_turn_at")
      |>.withString "last_agent_output" (stringValue current "last_agent_output")
      |>.withString "summary" (some s!"turn {curr_turns} complete")
      |>.intoValue)]

def diffNotifyHookState (previous current : Option Json) : Option (List IncomingEvent) := do
  let current ← current
  let prev_recent := (previous.map extractRecentTurnKeys).getD []
  let curr_recent := extractRecentTurnKeys current
  let added := curr_recent.filter fun key => key ∉ prev_recent
  let last_event_changed :=
    previous.bind (stringValue · "last_event_at") ≠ stringValue current "last_event_at"
  if added.isEmpty ∧ ¬ last_event_changed then none
  else some [workspaceEvent matched "workspace.agent.turn"
    ((basePayload matched current).withU64 "turn_count" (some curr_recent.length)
      |>.withString "last_event_at" (stringValue current "last_event_at")
      |>.withArray "recent_turn_keys" (added.map .string)
      |>.withString "summary" (some "agent turn activity observed")
      |>.intoValue)]

/-- What `diff_skill_state` makes of the activity, the phases and the skills. -/
def skillKind (prev_active curr_active : Bool) (prev_phase curr_phase prev_skill curr_skill :
    Option String) : Option String :=
  if !prev_active && curr_active then some "workspace.skill.activated"
  else if prev_active && !curr_active then some "workspace.skill.deactivated"
  else if prev_phase ≠ curr_phase then some "workspace.skill.phase-changed"
  else if prev_skill ≠ curr_skill then some "workspace.skill.activated"
  else none

def diffSkillState (previous current : Option Json) : Option (List IncomingEvent) := do
  let current ← current
  let prev_active := (previous.bind (boolValue · "active")).getD false
  let curr_active := (boolValue current "active").getD false
  let prev_skill := previous.bind (stringValue · "skill")
  let curr_skill := stringValue current "skill"
  let prev_phase := previous.bind (stringValue · "phase")
  let curr_phase := stringValue current "phase"
  let kind ← skillKind prev_active curr_active prev_phase curr_phase prev_skill curr_skill
  some [workspaceEvent matched kind ((basePayload matched current).withBool "active" (some curr_active)
      |>.withString "skill" curr_skill
      |>.withString "phase" curr_phase
      |>.withString "keyword" (stringValue current "keyword")
      |>.withString "source_kind" (stringValue current "source")
      |>.withString "previous_skill" prev_skill
      |>.withString "previous_phase" prev_phase
      |>.withString "summary" (some "workspace skill state changed")
      |>.intoValue)]

/-- A diff of the whole file: one event, if it changed. -/
def diffWhole (kind : String) (payload : Json → Json) (previous current : Option Json) :
    Option (List IncomingEvent) := do
  let current ← current
  if previous = some current then none
  else some [workspaceEvent matched kind (payload current)]

def diffMetricsState : Option Json → Option Json → Option (List IncomingEvent) :=
  diffWhole matched "workspace.metrics.updated" fun current =>
    .object (OrdMap.insert
      ((basePayload matched current).withString "summary" (some "workspace metrics updated")) "metrics" current)

def diffTmuxHookState (previous current : Option Json) : Option (List IncomingEvent) := do
  let current ← current
  let prev_total := (previous.bind (u64Value · "total_injections")).getD 0
  let curr_total ← u64Value current "total_injections"
  if previous.isSome ∧ curr_total = prev_total then none
  else some [workspaceEvent matched "workspace.tmux.injection"
    ((basePayload matched current).withU64 "total_injections" (some curr_total)
      |>.withU64 "injection_delta" (some (curr_total - prev_total))
      |>.withString "last_reason" (stringValue current "last_reason")
      |>.withString "last_event_at" (stringValue current "last_event_at")
      |>.withString "summary" (some "tmux injection state changed")
      |>.intoValue)]

def diffTeamLeaderNudge : Option Json → Option Json → Option (List IncomingEvent) :=
  diffWhole matched "workspace.team.nudged" fun current =>
    (basePayload matched current).withString "last_nudged_by_team"
        (stringValue current "last_nudged_by_team")
      |>.withString "last_idle_nudged_by_team" (stringValue current "last_idle_nudged_by_team")
      |>.withString "summary" (some "team leader nudge state changed")
      |>.intoValue

/-- A diff of one field: one event, if there was no file or the field changed. -/
def diffField {β : Type} [DecidableEq β] (field : Json → Option β) (kind : String)
    (payload : Json → Json) (previous current : Option Json) : Option (List IncomingEvent) := do
  let current ← current
  if previous.isSome ∧ previous.bind field = field current then none
  else some [workspaceEvent matched kind (payload current)]

def diffNotifyFallbackState : Option Json → Option Json → Option (List IncomingEvent) :=
  diffField matched (u64Value · "pid") "workspace.session.blocked" fun current =>
    (basePayload matched current).withU64 "pid" (u64Value current "pid")
      |>.withU64 "parent_pid" (u64Value current "parent_pid")
      |>.withString "notify_script" (stringValue current "notify_script")
      |>.withString "started_at" (stringValue current "started_at")
      |>.withString "cwd" (stringValue current "cwd")
      |>.withString "summary" (some "notify fallback monitor active")
      |>.intoValue

def missionCount (current : Json) : Option ℕ :=
  match current.get "missions" with
  | some (.array missions) => some missions.length
  | _ => none

def diffMissionState : Option Json → Option Json → Option (List IncomingEvent) :=
  diffField matched (stringValue · "updatedAt") "workspace.mission.updated" fun current =>
    (basePayload matched current).withString "updated_at" (stringValue current "updatedAt")
      |>.withU64 "mission_count" (missionCount current)
      |>.withString "summary" (some "mission state updated")
      |>.intoValue

def diffTeamState : Option Json → Option Json → Option (List IncomingEvent) :=
  diffWhole matched "workspace.team.updated" fun current =>
    (basePayload matched current).withString "summary" (some "team state updated") |>.intoValue

def diffSubagentTracking : Option Json → Option Json → Option (List IncomingEvent) :=
  diffWhole matched "workspace.team.updated" fun current =>
    (basePayload matched current).withString "summary" (some "subagent tracking updated")
      |>.intoValue

def diffCheckpointState : Option Json → Option Json → Option (List IncomingEvent) :=
  diffField matched (stringValue · "created_at") "workspace.session.checkpointed" fun current =>
    (basePayload matched current).withString "created_at" (stringValue current "created_at")
      |>.withString "trigger" (stringValue current "trigger")
      |>.withString "todo_summary" (stringValue current "todo_summary")
      |>.withString "summary" (some "workspace checkpoint captured")
      |>.intoValue

def diffIdleNotifState : Option Json → Option Json → Option (List IncomingEvent) :=
  diffWhole matched "workspace.session.blocked" fun current =>
    (basePayload matched current).withString "summary"
      (some "workspace session idle cooldown updated") |>.intoValue

/-- The diff function of a state file. -/
def diffOf (previous current : Option Json) : Option (List IncomingEvent) :=
  match matched.state_file with
  | "session.json" => diffSession matched previous current
  | "hud-state.json" => diffHudState matched previous current
  | "notify-hook-state.json" => diffNotifyHookState matched previous current
  | "skill-active-state.json" => diffSkillState matched previous current
  | "metrics.json" => diffMetricsState matched previous current
  | "tmux-hook-state.json" => diffTmuxHookState matched previous current
  | "team-leader-nudge.json" => diffTeamLeaderNudge matched previous current
  | "notify-fallback-state.json" => diffNotifyFallbackState matched previous current
  | "mission-state.json" => diffMissionState matched previous current
  | "team-state.json" => diffTeamState matched previous current
  | "subagent-tracking.json" => diffSubagentTracking matched previous current
  | other =>
    if Text.startsWith other "checkpoints/" then diffCheckpointState matched previous current
    else if Text.endsWith other "idle-notif-cooldown.json" then
      diffIdleNotifState matched previous current
    else none

end

/-! ## Processing -/

/-- `monitor_allows_event`; its `glob_match` is that of the router. -/
def monitorAllowsEvent (monitor : WorkspaceMonitor) (kind : String) : Bool :=
  monitor.events.isEmpty || monitor.events.any fun pattern => Router.globMatch pattern kind

def allowed (monitor : WorkspaceMonitor) (events : List IncomingEvent) : List IncomingEvent :=
  events.filter fun event => monitorAllowsEvent monitor event.canonicalKind

def diffWorkspaceState (matched : WorkspaceMatch) (previous current : Option Json) :
    Option (List IncomingEvent) := do
  let events ← diffOf matched previous current
  let filtered := allowed matched.monitor events
  if filtered.isEmpty then none else some filtered

/-- What is found at the path of a state file. -/
inductive StateFile where
  | missing
  | unreadable
  | holds (json : Json)

/-- What `process_path` reads. -/
def StateFile.readJson : StateFile → Option Json
  | .holds json => some json
  | .missing | .unreadable => none

/-- `process_path` of a watched path: its snapshot afterwards, and the events. -/
def processPath (matched : WorkspaceMatch) (snapshot : Option Json) (file : StateFile) :
    Option Json × List IncomingEvent :=
  let current := file.readJson
  match diffWorkspaceState matched snapshot current with
  | none => (current <|> snapshot, [])
  | some events => (current, events)

/-- The calls of `process_path` for one state file. -/
def processing (matched : WorkspaceMatch) : Machine (Option Json) StateFile (List IncomingEvent) where
  step := processPath matched

/-- The events of a history of a state file. -/
def emitted (matched : WorkspaceMatch) (snapshot : Option Json) (history : List StateFile) :
    List IncomingEvent :=
  ((processing matched).outputs snapshot history).flatten

/-! ## What the diffs have in common -/

variable (matched : WorkspaceMatch)

theorem diffWhole_self (kind : String) (payload : Json → Json) (json : Json) :
    diffWhole matched kind payload (some json) (some json) = none := by
  simp [diffWhole]

theorem diffField_self {β : Type} [DecidableEq β] (field : Json → Option β) (kind : String)
    (payload : Json → Json) (json : Json) : diffField matched field kind payload (some json) (some json) = none := by
  simp [diffField]

theorem skillKind_self (active : Bool) (phase skill : Option String) :
    skillKind active active phase phase skill skill = none := by
  cases active <;> simp [skillKind]

/-- A file that holds what it held is no news. -/
theorem diffOf_self (json : Json) : diffOf matched (some json) (some json) = none := by
  unfold diffOf
  split
  · exact if_neg fun hchanged => hchanged rfl
  · simp +contextual [diffHudState]
  · simp [diffNotifyHookState]
  · simp [diffSkillState, skillKind_self]
  · exact diffWhole_self ..
  · simp +contextual [diffTmuxHookState]
  · exact diffWhole_self ..
  · exact diffField_self ..
  · exact diffField_self ..
  · exact diffWhole_self ..
  · exact diffWhole_self ..
  · split
    · exact diffField_self ..
    split
    · exact diffWhole_self ..
    · rfl

/-- Only the file of the session is missed when it is gone. -/
theorem diffOf_gone (hfile : matched.state_file ≠ "session.json") (previous : Option Json) :
    diffOf matched previous none = none := by
  unfold diffOf
  split
  · rename_i hsession
    exact absurd hsession hfile
  all_goals try rfl
  split
  · rfl
  split <;> rfl

theorem diffOf_session (hfile : matched.state_file = "session.json") (previous current : Option Json) :
    diffOf matched previous current = diffSession matched previous current := by
  unfold diffOf
  rw [hfile]
  rfl

/-- What a call sends. -/
def sentBy (previous current : Option Json) : List IncomingEvent :=
  allowed matched.monitor ((diffOf matched previous current).getD [])

theorem diffWorkspaceState_eq (previous current : Option Json) :
    diffWorkspaceState matched previous current = if (sentBy matched previous current).isEmpty then none
      else some (sentBy matched previous current) := by
  unfold diffWorkspaceState sentBy
  cases diffOf matched previous current with
  | none => rfl
  | some events => rfl

variable {file : StateFile} {snapshot : Option Json}

/-- A call that reads the file keeps what it read. -/
theorem processPath_read {json : Json} (h : file.readJson = some json) :
    processPath matched snapshot file = (some json, sentBy matched snapshot (some json)) := by
  simp only [processPath, h, diffWorkspaceState_eq]
  by_cases hempty : (sentBy matched snapshot (some json)).isEmpty = true
  · rw [if_pos hempty, List.isEmpty_iff.mp hempty]
    rfl
  · rw [if_neg hempty]

/-- A call that reads nothing forgets the file if it sends something. -/
theorem processPath_gone (h : file.readJson = none) :
    processPath matched snapshot file = (if (sentBy matched snapshot none).isEmpty then snapshot else none,
        sentBy matched snapshot none) := by
  simp only [processPath, h, diffWorkspaceState_eq]
  by_cases hempty : (sentBy matched snapshot none).isEmpty = true
  · rw [if_pos hempty, if_pos hempty, List.isEmpty_iff.mp hempty]
    rfl
  · rw [if_neg hempty, if_neg hempty]

/-- A call that would send nothing leaves what is not read. -/
theorem processPath_quiet (h : file.readJson = none) (hquiet : sentBy matched snapshot none = []) :
    processPath matched snapshot file = (snapshot, []) := by
  rw [processPath_gone matched h, hquiet]
  rfl

theorem emitted_cons (snapshot : Option Json) (file : StateFile) (history : List StateFile) :
    emitted matched snapshot (file :: history) = (processPath matched snapshot file).2 ++
      emitted matched (processPath matched snapshot file).1 history := rfl

theorem emitted_read {json : Json} (h : file.readJson = some json) (history : List StateFile) :
    emitted matched snapshot (file :: history) =
      sentBy matched snapshot (some json) ++ emitted matched (some json) history := by
  rw [emitted_cons, processPath_read matched h]

theorem emitted_quiet (h : file.readJson = none) (hquiet : sentBy matched snapshot none = [])
    (history : List StateFile) : emitted matched snapshot (file :: history) = emitted matched snapshot history := by
  rw [emitted_cons, processPath_quiet matched h hquiet]
  rfl

@[simp] theorem sentBy_none_none : sentBy matched none none = [] := by
  by_cases hfile : matched.state_file = "session.json"
  · rw [sentBy, diffOf_session matched hfile]
    rfl
  · rw [sentBy, diffOf_gone matched hfile]
    rfl

theorem sentBy_self (json : Json) : sentBy matched (some json) (some json) = [] := by
  rw [sentBy, diffOf_self]
  rfl

/-! ## The session file -/

variable {matched}

section

variable (hfile : matched.state_file = "session.json")
include hfile

theorem sentBy_started (json : Json) :
    sentBy matched none (some json) = allowed matched.monitor [sessionStarted matched json] := by
  rw [sentBy, diffOf_session matched hfile]
  rfl

theorem sentBy_ended (json : Json) :
    sentBy matched (some json) none = allowed matched.monitor [sessionEnded matched json] := by
  rw [sentBy, diffOf_session matched hfile]
  rfl

theorem sentBy_changed (previous json : Json) :
    sentBy matched (some previous) (some json) = [] ∨ sentBy matched (some previous) (some json) =
        allowed matched.monitor [sessionRotated matched previous json] := by
  rw [sentBy, diffOf_session matched hfile]
  by_cases hsame : stringValue previous "session_id" ≠ stringValue json "session_id"
  · exact .inr (by rw [diffSession, if_pos hsame]; rfl)
  · exact .inl (by rw [diffSession, if_neg hsame]; rfl)


end

/-- One event is sent if the monitor allows its kind. -/
theorem allowed_singleton (monitor : WorkspaceMonitor) {event : IncomingEvent} {kind : String}
    (hkind : event.canonicalKind = kind) :
    allowed monitor [event] = if monitorAllowsEvent monitor kind then [event] else [] := by
  subst hkind
  simp only [allowed, List.filter_cons, List.filter_nil]

/-- A session that started and one that took its place are told apart. -/
theorem sessionStarted_ne_rotated (previous json json' : Json) :
    sessionStarted matched json ≠ sessionRotated matched previous json' := by
  intro hsame
  have hsummary := congrArg (fun event => event.payload.get "summary") hsame
  simp only [sessionStarted, sessionRotated, workspaceEvent, PayloadBuilder.intoValue, Json.get] at hsummary
  have hkeep (inner : PayloadBuilder) (summary : String) (h : summary.isEmpty = false) :
      OrdMap.get (inner.withString "summary" (some summary)) "summary" = some (.string summary) := by
    unfold PayloadBuilder.withString
    rw [Option.filter_some, h]
    exact OrdMap.get_insert_self inner "summary" _
  rw [hkeep _ _ (by decide), hkeep _ _ (by decide)] at hsummary
  revert hsummary
  decide

end Clawhip.Workspace
