import Clawhip.Gjc.Bridge

/-!
# What the bridge's events may say

Every text in an event of the bridge comes from an identifier, from a fixed text of the program or
from one of the filters of `Snapshot.lean`. `Safe` says what this leaves of a text at a place in a
payload; each builder inserts safe fields only, so that every event is safe, whatever the snapshot.
-/

namespace Clawhip.Gjc

open List Option

/-! ## Places in a payload -/

/-- The places of identifiers. -/
def ID_PATHS : List (List String) :=
  [["session_id"], ["turn_id"], ["command_id"], ["event_id"], ["correlation_id"],
    ["idempotency_key"], ["question_id"], ["question", "id"]]

/-- The places of text that says something to a reader. -/
def FREE_TEXT_PATHS : List (List String) :=
  [["summary"], ["question_summary"], ["question", "summary"], ["question", "options"],
    ["error_message"], ["model"], ["profile"]]

/-- Where a gate's own text is copied as it is. -/
def COPIED_PATHS : List (List String) := [["question", "title"], ["question", "workflow_id"]]

/-- Where a change of the selection is told. -/
def SELECTION_PATHS : List (List String) := [["summary"], ["model"], ["profile"]]

/-- The public text for a provider that refuses the credentials. -/
def REFUSED : String := "provider authorization failed (401)"

instance (s : String) : Decidable (Plain s) :=
  decidable_of_iff ((s.toList.all fun c => !isControl c) = true ∧ s.length ≤ MAX_SUMMARY_CHARS) <| by
    unfold Plain
    simp

/-- What is promised of a text at a place in an event of a kind. -/
structure Safe (kind : String) (path : List String) (s : String) : Prop where
  /-- It is plain. -/
  plain : path ∉ ID_PATHS → path ∉ COPIED_PATHS →
    ¬ (kind ∈ ["session.model-changed", "session.endpoint-failed"] ∧ path = ["summary"]) → Plain s
  /-- No secret is named in it. -/
  isPublic : path ∈ FREE_TEXT_PATHS → ¬ (kind = "session.model-changed" ∧ path ∈ SELECTION_PATHS) →
      ¬ (path = ["error_message"] ∧ s = REFUSED) → Public s

/-- Every text in a value at a place is safe. -/
def SafeValue (kind : String) (path : List String) (value : Json) : Prop :=
  ∀ found ∈ value.textsAt path, Safe kind found.1 found.2

/-- Every text in an event is safe. -/
def SafeEvent (event : IncomingEvent) : Prop := SafeValue event.kind [] event.payload

variable {kind : String} {path : List String}

/-- Every text in a field at a place is safe. -/
def SafeField (kind : String) (path : List String) (field : Field) : Prop :=
  ∀ value ∈ field.2, SafeValue kind (path ++ [field.1]) value

/-- Every text in an object at a place is safe. -/
def SafeObject (kind : String) (path : List String) (object : OrdMap String Json) : Prop :=
  ∀ entry ∈ object, SafeValue kind (path ++ [entry.1]) entry.2

variable {object : OrdMap String Json} {s key : String} {value : Option String}

theorem safe_insertFields {fields : List Field} (hobject : SafeObject kind path object)
    (hfields : ∀ field ∈ fields, SafeField kind path field) : SafeObject kind path (insertFields object fields) := by
  induction fields generalizing object with
  | nil => exact hobject
  | cons field fields ih =>
    obtain ⟨key, value⟩ := field
    refine ih ?_ fun field hfield => hfields field (mem_cons_of_mem _ hfield)
    cases value with
    | none => exact hobject
    | some value =>
      intro entry hentry
      rcases OrdMap.mem_insert hentry with rfl | hentry
      · exact hfields _ mem_cons_self value rfl
      · exact hobject entry hentry

theorem safe_object (h : SafeObject kind path object) : SafeValue kind path (.object object) := by
  intro found hfound
  obtain ⟨entry, hentry, hfound⟩ := Json.mem_fieldsTextsAt hfound
  exact h entry hentry found hfound

/-! ## Safe texts -/

theorem safe_string (h : Safe kind path s) : SafeValue kind path (.string s) := by
  intro found hfound
  rw [mem_singleton.mp hfound]
  exact h

theorem safe_text {value : String} (h : Safe kind (path ++ [key]) value) : SafeField kind path (text key value) := by
  rintro _ ⟨⟩
  exact safe_string h

theorem safe_textIfSome (h : ∀ s ∈ value, Safe kind (path ++ [key]) s) :
    SafeField kind path (textIfSome key value) := by
  intro json hjson
  obtain ⟨s, hs, rfl⟩ := map_eq_some_iff.mp hjson
  exact safe_string (h s hs)

theorem safe_textIfAny (h : ∀ s ∈ value, Safe kind (path ++ [key]) s) : SafeField kind path (textIfAny key value) :=
  safe_textIfSome fun s hs => h s (filter_eq_some_iff.mp hs).1

theorem safe_count (key : String) (n : ℕ) : SafeField kind path (count key n) := by
  rintro _ ⟨⟩ found hfound
  exact absurd hfound not_mem_nil

/-- Plain and public is safe everywhere. -/
theorem safe_of_public (hplain : Plain s) (hpublic : Public s) : Safe kind path s :=
  ⟨fun _ _ _ => hplain, fun _ _ _ => hpublic⟩

/-- Plain is safe outside of free text. -/
theorem safe_of_plain (hplain : Plain s) (hpath : path ∉ FREE_TEXT_PATHS) : Safe kind path s :=
  ⟨fun _ _ _ => hplain, fun hfree => absurd hfree hpath⟩

/-- Nothing is promised of an identifier. -/
theorem safe_id (hid : path ∈ ID_PATHS) (hpath : path ∉ FREE_TEXT_PATHS) : Safe kind path s :=
  ⟨fun hplain => absurd hid hplain, fun hfree => absurd hfree hpath⟩

/-! ## Filters -/

/-- The fixed texts of the program that may stand for free text. -/
def FIXED_TEXTS : List String :=
  ["details redacted", "operator input requested", "workflow gate requires approval",
    "sdk endpoint unavailable", "provider credits or billing unavailable (402)",
    "provider access denied (403)", "provider rate limit or quota exceeded (429)",
    "provider turn failed", "accepted turn was aborted without a successful terminal receipt",
    "accepted turn became idle without a terminal receipt",
    "accepted turn disappeared without a terminal receipt", "endpoint ok: sdk endpoint unavailable",
    "endpoint degraded: sdk endpoint unavailable", "endpoint failed: sdk endpoint unavailable"]

theorem plain_and_public_of_fixed (h : s ∈ FIXED_TEXTS) : Plain s ∧ Public s := by
  have hclear : ∀ s ∈ FIXED_TEXTS, clearCodes (codes s) = true := by decide +kernel
  exact plain_and_public_of_clearCodes (hclear s h)

/-- A fixed text is safe everywhere. -/
theorem safe_fixed (h : s ∈ FIXED_TEXTS) : Safe kind path s :=
  safe_of_public (plain_and_public_of_fixed h).1 (plain_and_public_of_fixed h).2

variable (value : String)

theorem safe_publicText : Safe kind path (publicText value) := by
  unfold publicText
  dsimp only
  split_ifs with hmarker
  · exact safe_fixed (by simp [FIXED_TEXTS])
  · exact safe_of_public (plain_sanitize value) (by simpa [Public] using hmarker)

/-- The names and fixed texts that are not free text, and the text for refused credentials. -/
def PLAIN_TEXTS : List String :=
  [BRIDGE_TOOL, BRIDGE_SOURCE, "", "retry-needed", "started", "finished", "failed",
    "unexpected-idle", "prompt-submitted", "endpoint-failed", "model-changed", "ask", "workflow",
    "ok", "degraded", REFUSED]

theorem plain_of_mem (h : s ∈ PLAIN_TEXTS) : Plain s := by
  have hplain : ∀ s ∈ PLAIN_TEXTS, Plain s := by decide +kernel
  exact hplain s h

/-- The text for refused credentials is safe as an error message, although it names them. -/
theorem safe_refused : Safe kind ["error_message"] REFUSED :=
  ⟨fun _ _ _ => plain_of_mem (by simp [PLAIN_TEXTS]), fun _ _ h => absurd ⟨rfl, rfl⟩ h⟩

theorem safe_publicFailureSummary : Safe kind ["error_message"] (publicFailureSummary value) := by
  unfold publicFailureSummary
  dsimp only
  split_ifs
  · exact safe_refused
  · exact safe_fixed (by simp [FIXED_TEXTS])
  · exact safe_fixed (by simp [FIXED_TEXTS])
  · exact safe_fixed (by simp [FIXED_TEXTS])
  · exact safe_fixed (by simp [FIXED_TEXTS])

/-! ## Builders -/

namespace SnapshotContext

variable {x : Libraries} {context : SnapshotContext} {status : String}

/-- The fields that every event has. -/
theorem safe_baseObject (hnow : Plain context.timestamp) (hstatus : Plain status)
    (parts : List String) : SafeObject kind [] (context.baseObject x kind status parts) := by
  have htool {key : String} (hkey : [key] ∉ FREE_TEXT_PATHS) : SafeField kind [] (text key BRIDGE_TOOL) :=
    safe_text (safe_of_plain (plain_of_mem (by simp [PLAIN_TEXTS])) hkey)
  have hsanitized {key : String} (value : Option String) (hkey : [key] ∉ FREE_TEXT_PATHS) :
      SafeField kind [] (textIfAny key (value.map sanitize)) := by
    refine safe_textIfAny fun s hs => ?_
    obtain ⟨value, -, rfl⟩ := map_eq_some_iff.mp hs
    exact safe_of_plain (plain_sanitize value) hkey
  have hpublic {key : String} (value : Option String) : SafeField kind [] (textIfAny key (value.map publicText)) := by
    refine safe_textIfAny fun s hs => ?_
    obtain ⟨value, -, rfl⟩ := map_eq_some_iff.mp hs
    exact safe_publicText value
  unfold baseObject baseFields
  apply safe_insertFields
  · exact fun entry hentry => absurd hentry not_mem_nil
  · simp only [forall_mem_cons]
    refine ⟨htool (by decide), htool (by decide),
      safe_text (safe_of_plain (plain_of_mem (by simp [PLAIN_TEXTS])) (by decide)), htool (by decide),
      safe_textIfAny fun s hs => ?_, safe_text (safe_id (by decide) (by decide)), safe_count _ _,
      hsanitized _ (by decide), hsanitized _ (by decide), hsanitized _ (by decide),
      hsanitized _ (by decide), safe_text (safe_of_plain hnow (by decide)),
      safe_textIfAny fun _ _ => safe_id (by decide) (by decide),
      safe_textIfAny fun _ _ => safe_id (by decide) (by decide), hpublic _, hpublic _,
      safe_text (safe_id (by decide) (by decide)), safe_text (safe_id (by decide) (by decide)),
      safe_text (safe_id (by decide) (by decide)), fun _ h => absurd h not_mem_nil⟩
    rw [← some.inj hs]
    exact safe_of_plain hstatus (by decide)

/-- A lifecycle event whose error message is safe, with identifiers and counts besides. -/
theorem safe_lifecycleEvent (hnow : Plain context.timestamp) (hstatus : Plain status)
    (attempt : ℕ) (summary : Option String) {error_message : Option String}
    (herror : ∀ s ∈ error_message, Safe kind ["error_message"] s) (parts : List String) {extra : List Field}
    (hextra : ∀ field ∈ extra, SafeField kind [] field) :
    SafeEvent (context.lifecycleEvent x kind status attempt summary error_message parts extra) := by
  refine safe_object (safe_insertFields (safe_baseObject hnow hstatus _) ?_)
  intro field hfield
  simp only [mem_append, mem_cons, not_mem_nil, or_false] at hfield
  rcases hfield with (hattempt | rfl | rfl) | hfield
  · split_ifs at hattempt
    · rw [mem_singleton.mp hattempt]
      exact safe_count _ _
    · exact absurd hattempt not_mem_nil
  · refine safe_textIfAny fun s hs => ?_
    obtain ⟨value, -, rfl⟩ := map_eq_some_iff.mp hs
    exact safe_publicText value
  · exact safe_textIfSome herror
  · exact hextra field hfield

variable (gate : Gate)

theorem safe_gateSummary : Safe kind path (gateSummary gate) := by
  unfold gateSummary
  cases hsummary : (gate.summary.map publicText).filter fun value => !value.isEmpty with
  | none =>
    rw [getD_none]
    cases gate.kind with
    | ask => exact safe_fixed (by simp [FIXED_TEXTS])
    | workflow => exact safe_fixed (by simp [FIXED_TEXTS])
  | some summary =>
    obtain ⟨value, -, rfl⟩ := map_eq_some_iff.mp (filter_eq_some_iff.mp hsummary).1
    rw [getD_some]
    exact safe_publicText value

/-- The name of a gate's kind is plain. -/
theorem plain_gateKind (gate_kind : GateKind) : Plain gate_kind.asStr := by
  cases gate_kind with
  | ask | workflow => exact plain_of_mem (by simp [PLAIN_TEXTS, GateKind.asStr])

theorem safe_question {summary : String} (hsummary : ∀ path, Safe kind path summary) :
    SafeValue kind ["question"] (question gate summary) := by
  have hcopied {key : String} (value : Option String) (hkey : ["question", key] ∈ COPIED_PATHS)
      (hfree : ["question", key] ∉ FREE_TEXT_PATHS) :
      SafeField kind ["question"] (key, some (Json.ofOption value)) := by
    rintro _ ⟨⟩
    cases value with
    | none => exact fun found hfound => absurd hfound not_mem_nil
    | some s => exact safe_string ⟨fun _ hcopied => absurd hkey hcopied, fun h => absurd h hfree⟩
  have hoptions : SafeField kind ["question"] ("options", some (.array
      (gate.options.map fun option => .string (publicText option)))) := by
    rintro _ ⟨⟩ found hfound
    rw [show (gate.options.map fun option => Json.string (publicText option)) =
      (gate.options.map publicText).map .string by rw [List.map_map]; rfl] at hfound
    obtain ⟨s, hs, rfl⟩ := Json.mem_itemsTextsAt_strings hfound
    obtain ⟨option, -, rfl⟩ := mem_map.mp hs
    dsimp only
    exact safe_publicText option
  have hobject : question gate summary = .object (insertFields []
      [text "id" (sanitize gate.id), text "kind" gate.kind.asStr, count "revision" gate.revision,
        text "summary" summary, ("workflow_id", some (Json.ofOption gate.workflow_id)),
        ("title", some (Json.ofOption gate.title)),
        ("options", some (.array (gate.options.map fun option => .string (publicText option))))]) :=
    rfl
  rw [hobject]
  refine safe_object (safe_insertFields (fun _ h => absurd h not_mem_nil) ?_)
  simp only [forall_mem_cons]
  exact ⟨safe_text (safe_id (by decide) (by decide)),
    safe_text (safe_of_plain (plain_gateKind _) (by decide)), safe_count _ _,
    safe_text (hsummary _), hcopied _ (by decide) (by decide), hcopied _ (by decide) (by decide),
    hoptions, fun _ h => absurd h not_mem_nil⟩

theorem safe_gateEvent (hnow : Plain context.timestamp) (gate : Gate) : SafeEvent (context.gateEvent x kind gate) := by
  refine safe_object (safe_insertFields (safe_baseObject hnow (plain_of_mem (by simp [PLAIN_TEXTS])) _) ?_)
  have hquestion : SafeField kind [] ("question", some (question gate (gateSummary gate))) := by
    rintro _ ⟨⟩
    exact safe_question gate fun _ => safe_gateSummary gate
  simp only [forall_mem_cons]
  exact ⟨hquestion, safe_text (safe_id (by decide) (by decide)), safe_text (safe_gateSummary gate),
    safe_text (safe_of_plain (plain_gateKind _) (by decide)), safe_count _ _,
    safe_textIfAny fun _ _ => safe_id (by decide) (by decide),
    safe_textIfAny fun _ _ => safe_id (by decide) (by decide), safe_text (safe_gateSummary gate),
    fun _ h => absurd h not_mem_nil⟩

theorem safe_endpointFailedEvent (hnow : Plain context.timestamp) (endpoint : Endpoint) (endpoint_episode : ℕ) :
    SafeEvent (context.endpointFailedEvent x endpoint endpoint_episode) := by
  have hdetail : (endpoint.detail.map publicEndpointDetail).getD "sdk endpoint unavailable" =
      "sdk endpoint unavailable" := by
    cases endpoint.detail with
    | none => rfl
    | some _ => rfl
  unfold endpointFailedEvent
  rw [hdetail]
  refine safe_object (safe_insertFields (safe_baseObject hnow (plain_of_mem (by simp [PLAIN_TEXTS])) _) ?_)
  have hhealth : Plain endpoint.health.asStr := by
    cases endpoint.health with
    | ok | degraded | failed => exact plain_of_mem (by simp [PLAIN_TEXTS, EndpointHealth.asStr])
  have hsummary : "endpoint " ++ endpoint.health.asStr ++ ": " ++ "sdk endpoint unavailable" ∈
      FIXED_TEXTS := by
    cases endpoint.health with
    | ok | degraded | failed => simp [FIXED_TEXTS, EndpointHealth.asStr]
  simp only [forall_mem_cons]
  exact ⟨safe_text (safe_of_plain hhealth (by decide)),
    safe_text (safe_fixed (by simp [FIXED_TEXTS])), safe_text (safe_fixed hsummary), fun _ h => absurd h not_mem_nil⟩

theorem plain_shownSelection {value : Option String} {s : String} (h : shownSelection value = some s) : Plain s := by
  obtain ⟨value, -, rfl⟩ := map_eq_some_iff.mp (filter_eq_some_iff.mp h).1
  exact plain_sanitize value

theorem safe_modelChangeEvent (hnow : Plain context.timestamp) (tracked_model tracked_profile : Option String) :
    ∀ event ∈ (context.modelChangeEvent x tracked_model tracked_profile).1, SafeEvent event := by
  intro event hevent
  unfold modelChangeEvent at hevent
  dsimp only at hevent
  split_ifs at hevent
  · exact nomatch hevent
  · exact nomatch hevent
  · rw [← some.inj hevent]
    refine safe_object (safe_insertFields (safe_baseObject hnow (plain_of_mem (by simp [PLAIN_TEXTS])) _) ?_)
    have hselection {key : String} {value : Option String} (hkey : [key] ∈ SELECTION_PATHS) :
        SafeField "session.model-changed" [] (textIfSome key (shownSelection value)) :=
      safe_textIfSome fun s hs => ⟨fun _ _ _ => plain_shownSelection hs, fun _ h => absurd ⟨rfl, hkey⟩ h⟩
    simp only [forall_mem_cons]
    exact ⟨hselection (by decide), hselection (by decide),
      safe_text ⟨fun _ _ h => absurd ⟨mem_cons_self, rfl⟩ h, fun _ h => absurd ⟨rfl, by decide⟩ h⟩,
      fun _ h => absurd h not_mem_nil⟩

end SnapshotContext

/-! ## Sections -/

open SessionTrack

variable {x : Libraries} {context : SnapshotContext}

/-- Every event that a section announces is safe. -/
def SafeReading (reading : Reading) : Prop := ∀ track, ∀ event ∈ (reading track).2, SafeEvent event

theorem SafeReading.andThen {first second : Reading} (h : SafeReading first)
    (h' : SafeReading second) : SafeReading (first.andThen second) := by
  intro track event hevent
  rcases mem_append.mp hevent with hevent | hevent
  · exact h track event hevent
  · exact h' _ event hevent

theorem safe_no_fields : ∀ field ∈ ([] : List Field), SafeField kind path field := fun _ h => absurd h not_mem_nil

theorem safe_no_error : ∀ s ∈ (none : Option String), Safe kind ["error_message"] s :=
  fun _ h => nomatch h

theorem safe_failureReason (snapshot : Snapshot) (turn : Turn) :
    Safe kind ["error_message"] (failureReason snapshot turn) := by
  unfold failureReason
  cases hreason : ((turn.error_summary <|> snapshot.summary).map publicFailureSummary).filter
      fun value => !value.isEmpty with
  | none =>
    rw [getD_none]
    exact safe_fixed (by simp [FIXED_TEXTS])
  | some reason =>
    obtain ⟨value, -, rfl⟩ := map_eq_some_iff.mp (filter_eq_some_iff.mp hreason).1
    rw [getD_some]
    exact safe_publicFailureSummary value

theorem safe_stallReason (turn : Turn) : Safe kind ["error_message"] (stallReason turn) := by
  unfold stallReason
  split_ifs
  · exact safe_fixed (by simp [FIXED_TEXTS])
  · cases turn.error_summary with
    | none =>
      rw [map_none, getD_none]
      exact safe_fixed (by simp [FIXED_TEXTS])
    | some value =>
      rw [map_some, getD_some]
      exact safe_publicFailureSummary value

section

variable (hnow : Plain context.timestamp)
include hnow

theorem safe_attempt (turn : Turn) : SafeReading (observeAttempt x context turn) := by
  intro track event hevent
  unfold observeAttempt at hevent
  split_ifs at hevent
  · rw [mem_singleton.mp hevent]
    refine context.safe_lifecycleEvent hnow (plain_of_mem (by simp [PLAIN_TEXTS])) _ _ safe_no_error _ ?_
    simp only [forall_mem_cons]
    exact ⟨safe_count _ _, safe_no_fields⟩
  · exact absurd hevent not_mem_nil

theorem safe_active (turn : Turn) : SafeReading (observeActive x context turn) := by
  intro track event hevent
  unfold observeActive at hevent
  dsimp only at hevent
  split_ifs at hevent
  · rw [mem_singleton.mp hevent]
    exact context.safe_lifecycleEvent hnow (plain_of_mem (by simp [PLAIN_TEXTS])) _ _ safe_no_error _ safe_no_fields
  · exact absurd hevent not_mem_nil

theorem safe_terminal (turn : Turn) (failed : Bool) : SafeReading (observeTerminal x context turn failed) := by
  intro track event hevent
  unfold observeTerminal at hevent
  dsimp only at hevent
  by_cases hannounces : track.announcesEnd turn = true
  · rw [if_pos hannounces] at hevent
    rw [mem_singleton.mp hevent]
    refine context.safe_lifecycleEvent hnow (plain_of_mem ?_) _ _ (fun s hs => ?_) _ (fun field hfield => ?_)
    · cases failed
      · simp [PLAIN_TEXTS]
      · simp [PLAIN_TEXTS]
    · cases failed
      · exact absurd hs (by simp)
      · rw [← some.inj hs]
        exact safe_failureReason _ _
    · obtain ⟨command_id, -, rfl⟩ := map_eq_some_iff.mp (mem_toList.mp hfield)
      exact safe_text (safe_id (by decide) (by decide))
  · rw [if_neg hannounces] at hevent
    exact absurd hevent not_mem_nil

theorem safe_idle (turn : Turn) : SafeReading (observeIdle x context turn) := by
  intro track event hevent
  unfold observeIdle at hevent
  split_ifs at hevent
  · rw [mem_singleton.mp hevent]
    refine context.safe_lifecycleEvent hnow (plain_of_mem (by simp [PLAIN_TEXTS])) _ _ (fun s hs => ?_) _ safe_no_fields
    rw [← some.inj hs]
    exact safe_stallReason turn
  · exact absurd hevent not_mem_nil

theorem safe_phase (turn : Turn) : SafeReading (observePhase x context turn) := by
  unfold observePhase
  cases turn.state with
  | idle | aborted => exact safe_idle hnow turn
  | active => exact safe_active hnow turn
  | waitingInput => exact fun _ _ hevent => absurd hevent not_mem_nil
  | complete => exact safe_terminal hnow turn false
  | failed => exact safe_terminal hnow turn true

theorem safe_turn : SafeReading (observeTurn x context) := by
  intro track event hevent
  unfold observeTurn at hevent
  cases hturn : context.snapshot.turn with
  | none =>
    rw [hturn] at hevent
    exact absurd hevent not_mem_nil
  | some turn =>
    rw [hturn] at hevent
    exact (safe_attempt hnow turn).andThen (safe_phase hnow turn) _ event hevent

theorem safe_absentTurn : SafeReading (observeAbsentTurn x context) := by
  intro track event hevent
  unfold observeAbsentTurn at hevent
  split_ifs at hevent
  · cases hflight : track.in_flight_turn with
    | none =>
      rw [hflight] at hevent
      exact absurd hevent not_mem_nil
    | some turn_id =>
      rw [hflight] at hevent
      dsimp only at hevent
      split_ifs at hevent
      · rw [mem_singleton.mp hevent]
        refine context.safe_lifecycleEvent hnow (plain_of_mem (by simp [PLAIN_TEXTS])) _ _
          (fun s hs => ?_) _ safe_no_fields
        rw [← some.inj hs]
        exact safe_fixed (by simp [FIXED_TEXTS])
      · exact absurd hevent not_mem_nil
  · exact absurd hevent not_mem_nil

theorem safe_prompt : SafeReading (observePrompt x context) := by
  intro track event hevent
  unfold observePrompt at hevent
  cases hprompt : context.snapshot.prompt with
  | none =>
    rw [hprompt] at hevent
    exact absurd hevent not_mem_nil
  | some prompt =>
    rw [hprompt] at hevent
    dsimp only at hevent
    split_ifs at hevent
    · rw [mem_singleton.mp hevent]
      refine context.safe_lifecycleEvent hnow (plain_of_mem (by simp [PLAIN_TEXTS])) _ _ safe_no_error _ ?_
      simp only [forall_mem_cons]
      exact ⟨safe_text (safe_id (by decide) (by decide)), safe_no_fields⟩
    · exact absurd hevent not_mem_nil

theorem safe_gate : SafeReading (observeGate x context) := by
  intro track event hevent
  unfold observeGate at hevent
  cases hgate : context.snapshot.gate with
  | none =>
    rw [hgate] at hevent
    exact absurd hevent not_mem_nil
  | some gate =>
    rw [hgate] at hevent
    dsimp only at hevent
    cases hstatus : gate.status with
    | opened =>
      rw [hstatus] at hevent
      dsimp only at hevent
      split_ifs at hevent
      · rw [mem_singleton.mp hevent]
        exact context.safe_gateEvent hnow gate
      · exact absurd hevent not_mem_nil
    | resolved =>
      rw [hstatus] at hevent
      dsimp only at hevent
      split_ifs at hevent
      · exact absurd hevent not_mem_nil
      · exact absurd hevent not_mem_nil

theorem safe_model : SafeReading (observeModel x context) :=
  fun _ event hevent => context.safe_modelChangeEvent hnow _ _ event (mem_toList.mp hevent)

theorem safe_endpoint : SafeReading (observeEndpoint x context) := by
  intro track event hevent
  unfold observeEndpoint at hevent
  cases hendpoint : context.snapshot.endpoint with
  | none =>
    rw [hendpoint] at hevent
    exact absurd hevent not_mem_nil
  | some endpoint =>
    rw [hendpoint] at hevent
    dsimp only at hevent
    split_ifs at hevent
    all_goals first
      | exact absurd hevent not_mem_nil
      | rw [mem_singleton.mp hevent]
        exact context.safe_endpointFailedEvent hnow endpoint _

/-- Everything that a snapshot gives rise to is safe. -/
theorem safe_sections : SafeReading fun track => track.observeSections x context :=
  (safe_turn hnow).andThen <| (safe_absentTurn hnow).andThen <| (safe_prompt hnow).andThen <|
    (safe_gate hnow).andThen <| (safe_model hnow).andThen (safe_endpoint hnow)

end

/-- Every event that a bridge announces is safe, whatever it is fed, when times are plain. -/
theorem announced_events_safe (x : Libraries)
    (hformat : ∀ value time, x.reformatRfc3339 value = some time → Plain time)
    (bridge : GjcEventBridge) (snapshot : Snapshot) (now : String) (hnow : Plain now) :
    ∀ event ∈ announcedBy x bridge (snapshot, now), SafeEvent event := by
  intro event hevent
  unfold announcedBy at hevent
  by_cases hread : snapshot.Read (bridge.trackOf (sessionOf (snapshot, now)))
  · rw [(@observe_read x bridge (snapshot, now) hread).2] at hevent
    refine safe_sections ?_ _ event hevent
    show Plain ((snapshot.observed_at.bind fun value => x.reformatRfc3339 (Text.trim value)).getD now)
    cases htime : snapshot.observed_at.bind fun value => x.reformatRfc3339 (Text.trim value) with
    | none => exact hnow
    | some time =>
      obtain ⟨value, -, htime⟩ := bind_eq_some_iff.mp htime
      exact hformat _ time htime
  · rw [(@observe_not_read x bridge (snapshot, now) hread "").2] at hevent
    exact absurd hevent not_mem_nil

namespace Sample

/-- A turn that failed because the provider answered with the code 401. -/
def refusedTurn : Snapshot := { Snapshot.bare "s" 1 with turn := some ⟨"t", .failed, true, 0, some "401"⟩ }

theorem refused_turn_is_safe :
    (announcedBy libraries {} (refusedTurn, "2026-08-23T12:00:00Z")).Forall SafeEvent := by
  have htime : Plain "2026-08-23T12:00:00Z" := by decide +kernel
  rw [forall_iff_forall_mem]
  refine announced_events_safe libraries (fun value time h => ?_) _ _ _ htime
  have h : (if value = "2026-08-23T12:00:00Z" then some value else none) = some time := h
  split_ifs at h with hvalue
  rw [← some.inj h, hvalue]
  exact htime

/-- What is said of the refused credentials has a marker in it. -/
theorem refused_credentials_are_named :
    (announcedBy libraries {} (refusedTurn, "2026-08-23T12:00:00Z")).map (fun event =>
        (event.payload.get "error_message").bind Json.asStr) = [some REFUSED] ∧
      Text.contains REFUSED "authorization" = true := by
  decide +kernel

end Sample

end Clawhip.Gjc
