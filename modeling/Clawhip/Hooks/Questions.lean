import Clawhip.Hooks.Native

/-!
# Question requests

What an event says about a question. Two payloads that agree outside the input, the response and the
question of their tool give the same fields, the same redacted copies and so the same event, once
the request is recognised and the public summaries agree. Whether it is recognised hangs on the
tool's name alone.
-/

namespace Clawhip.Hooks

open List Option

open Normalize (firstWith firstString firstBoolish firstU64ish)

/-! ## Payloads that agree outside a tool's input -/

/-- Two objects have the same value at every other key; two values of another kind are equal. -/
def AgreeBut (hidden : List String) : Json → Json → Prop
  | .object fields, .object fields' => ∀ key ∉ hidden, OrdMap.get fields key = OrdMap.get fields' key
  | value, value' => value = value'

/-- The levels under the top at which a tool's input is looked for. -/
def levels : List String := ["event_payload", "payload"]

/-- What is hidden at the top level: the tool's own fields, and the levels, whose insides are compared
apart. -/
def hiddenAtTop : List String := ["tool_input", "tool_response"] ++ levels

def hiddenAtLevel : List String := ["tool_input", "tool_response", "question", "prompt", "message"]

/-- Two payloads that differ only inside the input, the response and the question of a tool. -/
structure SameOutside (payload payload' : Json) : Prop where
  top : AgreeBut hiddenAtTop payload payload'
  level : ∀ key ∈ levels, Option.Rel (AgreeBut hiddenAtLevel) (payload.get key) (payload'.get key)

/-- A pointer reads nothing of what is hidden. -/
def clearOf (hidden : List String) : List String → Bool
  | [] => false
  | key :: _ => !hidden.contains key

/-- A pointer reads nothing of a tool's input, response or question. -/
def clear : List String → Bool
  | key :: inner => !hiddenAtTop.contains key || (levels.contains key && clearOf hiddenAtLevel inner)
  | [] => false

variable {hidden path : List String} {value value' payload payload' : Json} {pointers : List (List String)}
  {name : String} {around : Surroundings} {request : QuestionRequest} {key : String}

theorem AgreeBut.get (h : AgreeBut hidden value value') (hkey : key ∉ hidden) : value.get key = value'.get key := by
  unfold AgreeBut at h
  split at h
  · exact h key hkey
  · rw [h]

theorem AgreeBut.pointer (h : AgreeBut hidden value value') (hpath : clearOf hidden path = true) :
    value.pointer path = value'.pointer path := by
  cases path with
  | nil => cases hpath
  | cons key path =>
    have hkey : key ∉ hidden := by simpa [clearOf] using hpath
    unfold Json.pointer
    rw [h.get hkey]

theorem AgreeBut.refl (hidden : List String) (value : Json) : AgreeBut hidden value value := by
  unfold AgreeBut
  split
  · exact fun _ _ => by simp_all
  · rfl

theorem SameOutside.pointer (h : SameOutside payload payload') (hpath : clear path = true) :
    payload.pointer path = payload'.pointer path := by
  cases path with
  | nil => cases hpath
  | cons key inner =>
    unfold Json.pointer
    rcases Bool.or_eq_true_iff.mp hpath with htop | hlevel
    · have hkey : key ∉ hiddenAtTop := by simpa using htop
      rw [h.top.get hkey]
    · -- the step leads to a level, where the rest of the path meets nothing hidden
      obtain ⟨hkey, hinner⟩ := Bool.and_eq_true_iff.mp hlevel
      have hrel := h.level key (contains_iff_mem.mp hkey)
      generalize payload.get key = value at hrel
      generalize payload'.get key = value' at hrel
      cases hrel with
      | none => rfl
      | some hagree => exact hagree.pointer hinner

variable {α : Type} (read : Json → Option α)

/-- What is read along pointers depends on nothing but what stands at them. -/
theorem firstWith_congr (h : ∀ path ∈ pointers, payload.pointer path = payload'.pointer path) :
    firstWith read payload pointers = firstWith read payload' pointers := by
  unfold firstWith
  induction pointers with
  | nil => rfl
  | cons path pointers ih =>
    have hrest := ih fun other hother => h other (mem_cons_of_mem _ hother)
    rw [findSome?_cons, findSome?_cons, h path mem_cons_self, hrest]

theorem AgreeBut.firstString (h : AgreeBut hidden value value') (hclear : pointers.all (clearOf hidden) = true) :
    firstString value pointers = firstString value' pointers :=
  firstWith_congr _ fun _ hpath => h.pointer (all_eq_true.mp hclear _ hpath)

section Reading

variable {payload payload' : Json} (h : SameOutside payload payload')

include h

variable {pointers : List (List String)}

theorem SameOutside.firstWith (hclear : pointers.all clear = true) :
    firstWith read payload pointers = firstWith read payload' pointers :=
  firstWith_congr read fun _ hpath => h.pointer (all_eq_true.mp hclear _ hpath)

section

variable (hclear : pointers.all clear = true)
include hclear

theorem SameOutside.firstString : firstString payload pointers = firstString payload' pointers := h.firstWith _ hclear

theorem SameOutside.firstBoolish :
    firstBoolish payload pointers = firstBoolish payload' pointers := h.firstWith _ hclear

theorem SameOutside.firstU64ish : firstU64ish payload pointers = firstU64ish payload' pointers := h.firstWith _ hclear

end

theorem SameOutside.get (hkey : key ∉ hiddenAtTop) : payload.get key = payload'.get key := h.top.get hkey

/-! ## The fields of the event -/

theorem SameOutside.eventName : eventName payload = eventName payload' := h.firstString (by decide)

theorem SameOutside.toolName : toolName payload = toolName payload' := h.firstString (by decide)

theorem SameOutside.headFields (event_name kind : String) :
    headFields payload event_name kind = headFields payload' event_name kind := by
  have hprovider : provider payload = provider payload' := by
    unfold provider
    rw [h.firstString (by decide)]
  have hsource : source payload = source payload' := by
    unfold source
    rw [h.firstString (by decide), hprovider]
  unfold Hooks.headFields
  rw [hprovider, hsource]

theorem SameOutside.worktreePath : worktreePath payload = worktreePath payload' := by
  unfold Hooks.worktreePath directory
  rw [h.firstString (by decide), h.firstString (by decide)]

variable (around : Surroundings)

theorem SameOutside.repoPath : repoPath payload around = repoPath payload' around := by
  unfold Hooks.repoPath
  rw [h.firstString (by decide), h.worktreePath]

theorem SameOutside.projectMetadata : projectMetadata payload around = projectMetadata payload' around := by
  have hdirectory : directory payload = directory payload' := h.firstString (by decide)
  unfold Hooks.projectMetadata
  rw [h.get (by decide), h.repoPath, h.worktreePath, hdirectory]

theorem SameOutside.repoName : repoName payload around = repoName payload' around := by
  have hpayload : payloadRepoName payload = payloadRepoName payload' := h.firstString (by decide)
  unfold Hooks.repoName canonicalRepoName
  rw [hpayload, h.projectMetadata, h.repoPath, h.worktreePath]

theorem SameOutside.readFields : readFields around payload = readFields around payload' := by
  have hnormalization : normalizationOutcome payload around = normalizationOutcome payload' around := by
    unfold normalizationOutcome explicitNormalizationOutcome
    rw [h.firstString (by decide), h.repoPath]
  have hname : projectName payload around = projectName payload' around := by
    unfold projectName
    rw [h.firstString (by decide), h.projectMetadata]
  have hid : projectId payload around = projectId payload' around := by
    unfold projectId
    rw [h.firstString (by decide), h.projectMetadata]
  unfold Hooks.readFields
  rw [h.worktreePath, h.repoPath, hnormalization, h.repoName, hname, hid, h.projectMetadata, h.toolName]
  -- the fields that are left are read along pointers, and nowhere else
  simp (disch := decide) only [directory, sessionId, turnId, transcriptPath, model, tmuxSession,
    tmuxWindow, tmuxPane, tmuxPaneTty, tmuxAttached, tmuxClientCount, h.firstString, h.firstBoolish, h.firstU64ish]

theorem SameOutside.augmentation : augmentation payload = augmentation payload' := by
  unfold Hooks.augmentation
  rw [h.get (by decide), h.pointer (by decide)]

theorem SameOutside.stopContext : stopContext payload = stopContext payload' := by
  unfold Hooks.stopContext
  rw [h.get (by decide), h.pointer (by decide)]

/-! ## The redacted copies -/

theorem SameOutside.eventPayload : AgreeBut hiddenAtLevel (eventPayload payload) (eventPayload payload') := by
  have hevent := h.level "event_payload" (by decide)
  have hraw := h.level "payload" (by decide)
  unfold Hooks.eventPayload
  generalize payload.get "event_payload" = event at hevent
  generalize payload'.get "event_payload" = event' at hevent
  generalize payload.get "payload" = raw at hraw
  generalize payload'.get "payload" = raw' at hraw
  cases hevent with
  | some hagree => exact hagree
  | none =>
    cases hraw with
    | some hagree => exact hagree
    | none => exact AgreeBut.refl _ _

end Reading

/-- The redacted copy depends on nothing but the fields that it copies. -/
theorem safeQuestionPayload_congr (request : QuestionRequest)
    (h : ∀ field ∈ safePayloadFields, firstString payload field.2 = firstString payload' field.2) :
    safeQuestionPayload payload request = safeQuestionPayload payload' request := by
  have hcopied : ∀ (fields : List (String × List (List String))) (safe : OrdMap String Json),
      (∀ field ∈ fields, firstString payload field.2 = firstString payload' field.2) →
      fields.foldl (fun safe field => copySafePayloadString safe payload field.1 field.2) safe =
        fields.foldl (fun safe field => copySafePayloadString safe payload' field.1 field.2)
          safe := by
    intro fields
    induction fields with
    | nil => exact fun _ _ => rfl
    | cons field fields ih =>
      intro safe hfields
      rw [foldl_cons, foldl_cons, ih _ fun other hother => hfields other (mem_cons_of_mem _ hother)]
      unfold copySafePayloadString
      rw [hfields field mem_cons_self]
  unfold safeQuestionPayload
  rw [hcopied safePayloadFields [] h]

theorem SameOutside.safeQuestionPayload (h : SameOutside payload payload') (request : QuestionRequest) :
    safeQuestionPayload payload request = safeQuestionPayload payload' request := by
  have hclear : ∀ field ∈ safePayloadFields, field.2.all clear = true := by decide
  exact safeQuestionPayload_congr request fun field hfield => h.firstString (hclear field hfield)

theorem AgreeBut.safeQuestionPayload (h : AgreeBut hiddenAtLevel payload payload') (request : QuestionRequest) :
    safeQuestionPayload payload request = safeQuestionPayload payload' request := by
  have hclear : ∀ field ∈ safePayloadFields, field.2.all (clearOf hiddenAtLevel) = true := by decide
  exact safeQuestionPayload_congr request fun field hfield => h.firstString (hclear field hfield)

theorem SameOutside.payloadFields (h : SameOutside payload payload') (request : QuestionRequest) :
    payloadFields payload (some request) = payloadFields payload' (some request) := by
  simp only [Hooks.payloadFields, h.safeQuestionPayload request, h.eventPayload.safeQuestionPayload request]

/-! ## Recognising a request -/

/-- A payload of an event around a tool's use. -/
def IsToolEvent (payload : Json) : Prop :=
  ∃ name, eventName payload = some name ∧
    (mapSharedEvent name = some "tool.pre" ∨ mapSharedEvent name = some "tool.post")

/-- The pointers at which a payload may name a tool: those that are read, and those beside the third
level of a tool's input. -/
def namingPointers : List (List String) := toolNamePointers ++ [["payload", "tool_name"], ["payload", "toolName"]]

/-- A payload names a question tool at one of its levels. -/
def NamesQuestionTool (payload : Json) : Prop :=
  ∃ path ∈ namingPointers, ∃ tool, (payload.pointer path).bind Normalize.text = some tool ∧
    isQuestionToolName tool = true

/-- The request of a tool event: it hangs on the tool's name, and on nothing else of the event. -/
theorem detectQuestionRequest_tool (tool_name : Option String) (payload : Json)
    (h : mapSharedEvent name = some "tool.pre" ∨ mapSharedEvent name = some "tool.post") :
    detectQuestionRequest name tool_name payload = (tool_name.filter isQuestionToolName).map fun tool_name =>
        { source := "ask-tool"
          summary := (publicQuestion payload).getD
            ("operator question requested via " ++ tool_name) } := by
  have hevent : detectedEvent name = "pretooluse" ∨ detectedEvent name = "posttooluse" := by
    unfold detectedEvent
    unfold mapSharedEvent at h
    generalize Text.toAsciiLowercase (Text.trim name) = lower at h
    -- the spellings that the mapping accepts for the two events
    split at h
    all_goals first
      | exact absurd h (by decide)
      | exact .inl (by decide)
      | exact .inr (by decide)
  unfold detectQuestionRequest
  rw [if_neg (by rcases hevent with hevent | hevent <;> simp [hevent])]
  cases tool_name with
  | none => rfl
  | some tool_name => by_cases hquestion : isQuestionToolName tool_name = true <;> simp [hquestion]

/-- The same request gives the same event. -/
theorem event_eq_of_same (h : SameOutside payload payload') (hname : eventName payload = some name)
    (hrequest : detectQuestionRequest name (toolName payload) payload = some request)
    (hrequest' : detectQuestionRequest name (toolName payload') payload' = some request) :
    incomingEventFromNativeHookJson around payload' = incomingEventFromNativeHookJson around payload := by
  have hname' : eventName payload' = some name := h.eventName ▸ hname
  unfold incomingEventFromNativeHookJson
  rw [hname, hname']
  simp only [hrequest, hrequest']
  rw [h.payloadFields, h.readFields, h.augmentation, h.stopContext]
  simp only [h.headFields]

/-- A tool event that is recognised becomes a question request. -/
theorem kind_of_recognised (around : Surroundings) (hname : eventName payload = some name)
    (hshared : (mapSharedEvent name).isSome)
    (hrequest : detectQuestionRequest name (toolName payload) payload = some request) :
    ∃ event, incomingEventFromNativeHookJson around payload = .ok event ∧ event.kind = "question.requested" := by
  obtain ⟨shared_kind, hshared⟩ := isSome_iff_exists.mp hshared
  unfold incomingEventFromNativeHookJson
  rw [hname]
  simp only [hshared, hrequest]
  exact ⟨_, rfl, rfl⟩

/-- A tool event that is not recognised keeps the tool event's kind. -/
theorem kind_of_unrecognised {event : IncomingEvent} (hname : eventName payload = some name)
    (hshared : mapSharedEvent name = some "tool.pre" ∨ mapSharedEvent name = some "tool.post")
    (hrequest : detectQuestionRequest name (toolName payload) payload = none)
    (hevent : incomingEventFromNativeHookJson around payload = .ok event) :
    event.kind = "tool.pre" ∨ event.kind = "tool.post" := by
  unfold incomingEventFromNativeHookJson at hevent
  rw [hname] at hevent
  rcases hshared with hshared | hshared <;>
    simp only [hshared, hrequest] at hevent <;>
    injection hevent with hevent <;> subst hevent
  · exact .inl rfl
  · exact .inr rfl

/-! ## The public summary -/

theorem length_publicSafeSummary (value : String) {max_chars : ℕ} (h : 0 < max_chars) :
    (publicSafeSummary value max_chars).length ≤ max_chars := by
  unfold publicSafeSummary Http.truncateChars
  rw [String.length_ofList]
  split
  · assumption
  · rw [length_append, length_take]
    simp only [length_singleton]
    omega

/-- The public summary of a question has at most 160 characters. -/
theorem length_publicQuestion {summary : String} (h : publicQuestion payload = some summary) :
    summary.length ≤ 160 := by
  obtain ⟨hfound, -⟩ := filter_eq_some_iff.mp h
  obtain ⟨value, -, hsummary⟩ := map_eq_some_iff.mp hfound
  rw [← hsummary]
  exact length_publicSafeSummary value (by decide)

/-! ## No question leaves a hook unredacted -/

/-- The event of a payload is a question request, and it is the event of every payload that differs
only inside the input, the response and the question of the tool and whose question has the same
public summary, of at most 160 characters. -/
def Redacted (around : Surroundings) (payload : Json) : Prop :=
  (∀ summary, publicQuestion payload = some summary → summary.length ≤ 160) ∧
    ∃ event, incomingEventFromNativeHookJson around payload = .ok event ∧ event.kind = "question.requested" ∧
      ∀ payload', SameOutside payload payload' → publicQuestion payload' = publicQuestion payload →
        incomingEventFromNativeHookJson around payload' = .ok event

/-- The event of a tool's use is redacted exactly when the name that is read for the tool is a
question tool's. -/
theorem redacted_iff_toolName (around : Surroundings) (h : IsToolEvent payload) :
    Redacted around payload ↔ (toolName payload).any isQuestionToolName = true := by
  obtain ⟨name, hname, hshared⟩ := h
  have hdetect := detectQuestionRequest_tool (toolName payload) payload hshared
  constructor
  · rintro ⟨-, event, hok, hkind, -⟩
    by_contra htool
    have hnone : (toolName payload).filter isQuestionToolName = none := by
      cases htold : toolName payload with
      | none => rfl
      | some tool => simpa [htold] using htool
    rw [hnone] at hdetect
    rcases kind_of_unrecognised hname hshared hdetect hok with hother | hother
    · rw [hother] at hkind
      exact absurd hkind (by decide)
    · rw [hother] at hkind
      exact absurd hkind (by decide)
  · intro htool
    obtain ⟨tool, htold, hquestion⟩ := (any_eq_true _ _).mp htool
    have hsome : (mapSharedEvent name).isSome := by rcases hshared with h | h <;> rw [h] <;> rfl
    have hfilter : (toolName payload).filter isQuestionToolName = some tool := by
      rw [htold, filter_some, if_pos hquestion]
    rw [hfilter, map_some] at hdetect
    obtain ⟨event, hok, hkind⟩ := kind_of_recognised around hname hsome hdetect
    refine ⟨fun _ => length_publicQuestion, event, hok, hkind, fun payload' hsame hsummary => ?_⟩
    -- the other payload gives the same request: it has the tool's name and the public summary
    have hfilter' : (toolName payload').filter isQuestionToolName = some tool := by rw [← hsame.toolName, hfilter]
    have hdetect' := detectQuestionRequest_tool (toolName payload') payload' hshared
    rw [hfilter', map_some, hsummary] at hdetect'
    rw [event_eq_of_same hsame hname hdetect hdetect', hok]

/-- A tool event's payload that names a question tool at one of its levels is redacted exactly when
the name that is read for the tool, the first text among the pointers of `toolName`, is a question
tool's: not the one under `payload`, and not one behind another name. -/
theorem redacted_iff (around : Surroundings) (payload : Json) (h : IsToolEvent payload) :
    (NamesQuestionTool payload → Redacted around payload) ↔
      (NamesQuestionTool payload → (toolName payload).any isQuestionToolName = true) :=
  imp_congr_right fun _ => redacted_iff_toolName around h

namespace Sample

/-- Nothing is known of any directory. -/
def nowhere : Surroundings where
  inferRepoRoot _ := none
  loadProjectMetadataFile _ := none

/-- What a question tool is asked with. -/
def asked : Json :=
  .ofFields [("tool_name", .string "AskUserQuestion"),
    ("tool_input", .ofFields [("question", .string "Which key signs the release?")])]

/-- A hook payload that carries the tool under `event_payload`. -/
def inEventPayload : Json := .ofFields [("event_name", .string "PreToolUse"), ("event_payload", asked)]

/-- The same hook payload, with the tool under `payload`. -/
def inPayload : Json := .ofFields [("event_name", .string "PreToolUse"), ("payload", asked)]

theorem inEventPayload_is_redacted : Redacted nowhere inEventPayload :=
  (redacted_iff nowhere inEventPayload ⟨"PreToolUse", by decide, by decide⟩).mpr
    (fun _ => by decide)
    ⟨["event_payload", "tool_name"], by decide, "AskUserQuestion", by decide, by decide⟩

/-- Under `payload` the question tool is not recognised: the event is a tool event, and the whole
input of the tool is in it. -/
theorem question_under_payload_leaves :
    IsToolEvent inPayload ∧ NamesQuestionTool inPayload ∧ ¬ Redacted nowhere inPayload ∧
      ((incomingEventFromNativeHookJson nowhere inPayload).toOption.bind fun event =>
        event.payload.pointer ["payload", "payload", "tool_input", "question"]) =
          some (.string "Which key signs the release?") := by
  have hevent : IsToolEvent inPayload := ⟨"PreToolUse", by decide, by decide⟩
  refine ⟨hevent, ?_, ?_, by decide⟩
  · exact ⟨["payload", "tool_name"], by decide, "AskUserQuestion", by decide, by decide⟩
  · rw [redacted_iff_toolName nowhere hevent]
    decide

end Sample

end Clawhip.Hooks
