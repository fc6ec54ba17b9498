import Clawhip.Events.Event
import Clawhip.Http.Scanning
import Clawhip.Lib.Outcome

/-!
# The body of an HTTP event

`event_body` of `src/sink/http.rs` with the normalization of a payload under it, and the texts at
which it panics.
-/

namespace Clawhip.Http

def EVENT_SCHEMA : String := "clawhip.http-event.v1"
def MAX_EVENT_BODY_BYTES : ℕ := 16 * 1024
def MAX_SUMMARY_CHARS : ℕ := 1024
def MAX_EVENT_TIMESTAMP_BYTES : ℕ := 35
def MAX_PUBLIC_FIELDS : ℕ := 48
def MAX_PUBLIC_ARRAY_ITEMS : ℕ := 16
def MAX_PUBLIC_DEPTH : ℕ := 3
def FALLBACK_EVENT_TIMESTAMP : String := "1970-01-01T00:00:00Z"

/-! ## Timestamps -/

def timestampFromUnixInteger (lib : Library) (value : ℤ) : Option ℤ :=
  lib.fromUnixTimestamp (if 10000000000 ≤ value.natAbs then value.tdiv 1000 else value)

def parseTimestamp (lib : Library) (value : String) : Option ℤ :=
  let value := Text.trim value
  (lib.parseRfc3339 value).or ((Text.parseI64 value).bind (timestampFromUnixInteger lib))

/-- `Number::as_i64`. -/
def asI64 : Number → Option ℤ
  | .posInt n => if n < 2 ^ 63 then some n else none
  | .negInt n => some (-(n : ℤ))
  | .float _ => none

def canonicalTimestamp (lib : Library) (value : Json) : Option String := do
  let parsed ← match value with
    | .string value => parseTimestamp lib value
    | .number value => (asI64 value).bind (timestampFromUnixInteger lib)
    | _ => none
  let formatted ← lib.formatRfc3339 parsed
  if formatted.utf8ByteSize ≤ MAX_EVENT_TIMESTAMP_BYTES then some formatted else none

def eventTimestamp (lib : Library) (payload : Json) : String :=
  ((["event_timestamp", "timestamp", "first_seen_at"].filterMap payload.get).findSome?
    (canonicalTimestamp lib)).getD FALLBACK_EVENT_TIMESTAMP

/-! ## Payloads -/

def isPublicTextField (key : String) : Bool :=
  ["action", "actor", "agent_name", "branch", "commit", "conclusion", "contract", "contract_event",
    "correlation_id", "event", "event_id", "event_kind", "event_name", "error_message",
    "error_summary", "first_seen_at", "hook_event_name", "id", "keyword", "line", "last_line",
    "message", "name", "new_branch", "new_status", "normalized_event", "observation_confidence",
    "observation_source", "old_branch", "old_status", "project", "provider", "question_summary",
    "reason", "repo", "repo_name", "route_key", "session", "session_id", "session_name", "sha",
    "short_commit", "source", "state_family", "status", "summary", "summary_text", "subject_type",
    "tag", "title", "thread_id", "updated_at", "tool_name", "workflow"].contains key

def isUrlField (key : String) : Bool := ["url", "pr_url"].contains key

def isPublicScalarField (key : String) : Bool :=
  ["active_sessions_needing_action", "approval_hold", "batch_count", "comments", "commit_count",
    "count", "elapsed_secs", "fallback_evidence", "hit_count", "is_prerelease", "issue_number",
    "local_only", "minutes", "number", "open_issues", "open_prs", "pr_number", "release_hold",
    "run_job_count", "zero_backlog"].contains key

def isPublicArrayField (key : String) : Bool := ["commits", "event_kinds", "hits", "reasons"].contains key

/-- A null, a truth value or a number of `normalize_public_value`. -/
def normalizeScalar (key : Option String) (value : Json) (state : NormalizationState) :
    Option Json × NormalizationState :=
  match key with
  | none => (none, state)
  | some key =>
    if isPublicScalarField key then (some value, state) else (none, { state with redacted := true })

/-- A text that is made public, as a value. -/
def publicValue (lib : Library) (value : String) (state : NormalizationState) :
    Except Stop (Option Json × NormalizationState) := do
  let (text, state) ← publicText lib value.toList MAX_PUBLIC_STRING_CHARS state
  return (some (.string (String.ofList text)), state)

/-- A text of `normalize_public_value`. -/
def normalizeText (lib : Library) (key : Option String) (value : String)
    (state : NormalizationState) : Except Stop (Option Json × NormalizationState) :=
  match key with
  | none => .ok (none, state)
  | some key =>
    if isUrlField key then
      let (url, state) := publicUrl lib value state
      .ok (some (.string (String.ofList url)), state)
    else if isPublicTextField key then publicValue lib value state
    else .ok (none, { state with redacted := true })

/-- An object or an array. -/
def isContainer : Json → Bool
  | .object _ => true
  | .array _ => true
  | _ => false

mutual

def normalizePublicValue (lib : Library) (key : Option String) (value : Json) (depth : ℕ)
    (state : NormalizationState) : Except Stop (Option Json × NormalizationState) :=
  if MAX_PUBLIC_DEPTH < depth then .ok (none, { state with truncated := true })
  else
    match value with
    | .null => .ok (normalizeScalar key .null state)
    | .bool b => .ok (normalizeScalar key (.bool b) state)
    | .number n => .ok (normalizeScalar key (.number n) state)
    | .string value => normalizeText lib key value state
    | .array values =>
      match key with
      | none => .ok (none, state)
      | some key =>
        if !isPublicArrayField key then .ok (none, { state with redacted := true })
        else do
          let state := { state with
            truncated := state.truncated || decide (MAX_PUBLIC_ARRAY_ITEMS < values.length) }
          let (values, state) ← normalizeItems lib values MAX_PUBLIC_ARRAY_ITEMS depth state
          return (some (.array values), state)
    | .object object =>
      match key with
      | some _ => .ok (none, { state with redacted := true })
      | none => do
        let state := { state with
          truncated := state.truncated || decide (MAX_PUBLIC_FIELDS < object.length) }
        let (safe, state) ← normalizeFields lib object [] depth state
        return (some (.object safe), state)

/-- The first `left` items of an array. -/
def normalizeItems (lib : Library) : List Json → (left depth : ℕ) → NormalizationState →
    Except Stop (List Json × NormalizationState)
  | [], _, _, state => .ok ([], state)
  | _ :: _, 0, _, state => .ok ([], state)
  | item :: items, left + 1, depth, state =>
    let first := match item with
      | .string value => publicValue lib value state
      | item => normalizePublicValue lib none item (depth + 1) state
    first >>= fun (item', state) => do
      let (items, state) ← normalizeItems lib items left depth state
      return (item'.toList ++ items, state)

/-- The fields of an object, `safe` before them. The keys of an object are distinct and in order, so a
field goes to the end. -/
def normalizeFields (lib : Library) : List (String × Json) → (safe : List (String × Json)) →
    (depth : ℕ) → NormalizationState → Except Stop (List (String × Json) × NormalizationState)
  | [], safe, _, state => .ok (safe, state)
  | (key, value) :: fields, safe, depth, state =>
    if MAX_PUBLIC_FIELDS ≤ safe.length then .ok (safe, { state with truncated := true })
    else if isSensitiveField key then
      normalizeFields lib fields safe depth { state with redacted := true }
    else do
      let (value', state) ← normalizePublicValue lib (some key) value (depth + 1) state
      match value' with
      | some value' => normalizeFields lib fields (safe ++ [(key, value')]) depth state
      | none =>
        normalizeFields lib fields safe depth
          { state with redacted := state.redacted || isContainer value }

end

/-- The fields of `SinkTelemetry` that the body shows. -/
structure SinkTelemetry where
  route_result : Option String
  route_index : Option ℕ
  batch_count : Option ℕ

structure SinkMessage where
  event_kind : String
  format : MessageFormat
  content : String
  payload : Json
  telemetry : Option SinkTelemetry

def safeTargetId (lib : Library) : SinkTarget → String
  | .discordChannel channelId => "discord:channel:" ++ channelId
  | .discordThread threadId => "discord:thread:redacted:" ++ Text.hex16 (Text.fnv1a64 threadId)
  | .discordWebhook webhookUrl => "discord:webhook:" ++ redactedUrlFingerprint lib webhookUrl
  | .slackWebhook webhookUrl => "slack:webhook:" ++ redactedUrlFingerprint lib webhookUrl
  | .httpEndpoint endpoint => "http:endpoint:" ++ redactedUrlFingerprint lib endpoint
  | .localFile path => "localfile:" ++ Text.hex16 (Text.fnv1a64 path)

def boundedIdentifier (value : String) (maxChars : ℕ) : String :=
  String.ofList (truncateChars
    (value.toList.filter fun ch => ch.isAlphanum || ['-', '_', '.', ':'].contains ch) maxChars)

/-- A count or `null`. -/
def ofCount : Option ℕ → Json
  | some n => .ofNat n
  | none => .null

/-- The body that `event_body` makes of a normalized payload and a summary: its text, or the error
that it has too many bytes. -/
def bodyText (lib : Library) (message : SinkMessage) (target : SinkTarget) (requestId : String)
    (payload : Json) (summary : List Char) (state : NormalizationState) : Except String String :=
  let head := message.event_kind.toList.takeWhile (· ≠ '.')
  let source := if head.isEmpty then "custom" else String.ofList head
  let provenance := match message.telemetry with
    | some context => .ofFields [("route_result", .ofOption context.route_result),
        ("route_index", ofCount context.route_index), ("target", .string (safeTargetId lib target)),
        ("batch_count", ofCount context.batch_count)]
    | none => .null
  let value (summary : List Char) (payload : Json) (truncated : Bool) : Json := .ofFields
    [("schema", .string EVENT_SCHEMA), ("request_id", .string requestId),
      ("timestamp", .string (eventTimestamp lib message.payload)),
      ("type", .string (boundedIdentifier message.event_kind 160)),
      ("source", .string (boundedIdentifier source 80)), ("format", .string message.format.asStr),
      ("summary", .string (String.ofList summary)), ("payload", payload), ("provenance", provenance),
      ("target", .string (safeTargetId lib target)), ("public_safe", .bool true),
      ("redacted", .bool state.redacted), ("truncated", .bool truncated)]
  let body := (value summary payload state.truncated).toText
  let body :=
    if MAX_EVENT_BODY_BYTES < body.utf8ByteSize then
      (value (truncateChars summary 256) (.ofFields [("truncated", .bool true)]) true).toText
    else body
  if MAX_EVENT_BODY_BYTES < body.utf8ByteSize then
    .error "normalized HTTP event body exceeds the public-safe size limit"
  else .ok body

/-- A field that `normalize_public_value` keeps. -/
def isKept (key : String) (value : Json) (depth : ℕ) : Bool :=
  decide (depth ≤ MAX_PUBLIC_DEPTH) &&
    match value with
    | .string _ => isUrlField key || isPublicTextField key
    | .array _ => isPublicArrayField key
    | .object _ => false
    | .null | .bool _ | .number _ => isPublicScalarField key

/-- The text of a field, if it is made public. -/
def fieldText (key : Option String) (text : String) : List String :=
  match key with
  | none => []
  | some key => if isUrlField key then [] else if isPublicTextField key then [text] else []

mutual

/-- The texts of a value that are made public. -/
def publicTexts (key : Option String) (value : Json) (depth : ℕ) : List String :=
  if MAX_PUBLIC_DEPTH < depth then []
  else
    match value with
    | .string text => fieldText key text
    | .array values =>
      match key with
      | none => []
      | some key =>
        if isPublicArrayField key then itemTexts values MAX_PUBLIC_ARRAY_ITEMS depth else []
    | .object object =>
      match key with
      | none => fieldTexts object 0 depth
      | some _ => []
    | .null | .bool _ | .number _ => []

/-- The texts of the first `left` items of an array. -/
def itemTexts : List Json → (left depth : ℕ) → List String
  | [], _, _ => []
  | _ :: _, 0, _ => []
  | item :: items, left + 1, depth =>
    (match item with
      | .string text => [text]
      | item => publicTexts none item (depth + 1)) ++ itemTexts items left depth

/-- The texts of the fields of an object, `kept` fields before them. -/
def fieldTexts : List (String × Json) → (kept depth : ℕ) → List String
  | [], _, _ => []
  | (key, value) :: fields, kept, depth =>
    if MAX_PUBLIC_FIELDS ≤ kept then []
    else if isSensitiveField key then fieldTexts fields kept depth
    else
      publicTexts (some key) value (depth + 1) ++
        fieldTexts fields (if isKept key value (depth + 1) then kept + 1 else kept) depth

end

/-- One of some texts catches `public_text`. -/
def AnyCatches (lib : Library) (texts : List String) : Prop :=
  ∃ text ∈ texts, Catches lib MAX_PUBLIC_STRING_CHARS text.toList

variable (lib : Library) {key : Option String} {value : Json} {depth : ℕ}
  {state : NormalizationState}

theorem anyCatches_append (texts texts' : List String) :
    AnyCatches lib (texts ++ texts') ↔ AnyCatches lib texts ∨ AnyCatches lib texts' := by
  simp only [AnyCatches, List.mem_append, or_and_right, exists_or]

theorem not_anyCatches_nil : ¬ AnyCatches lib [] := by
  rintro ⟨text, htext, -⟩
  exact absurd htext List.not_mem_nil

variable (text : String)

theorem anyCatches_singleton : AnyCatches lib [text] ↔ Catches lib MAX_PUBLIC_STRING_CHARS text.toList := by
  simp [AnyCatches]

theorem publicValue_spec : Settles (publicValue lib text state) (AnyCatches lib [text]) :=
  (publicText_spec lib text.toList MAX_PUBLIC_STRING_CHARS state).map.congr (anyCatches_singleton lib text)

/-- A text of a payload. -/
theorem normalizeText_spec : Settles (normalizeText lib key text state) (AnyCatches lib (fieldText key text)) := by
  cases key with
  | none => exact settles_ok (not_anyCatches_nil lib)
  | some key =>
    unfold normalizeText fieldText
    dsimp only
    by_cases hurl : isUrlField key = true
    · rw [if_pos hurl, if_pos hurl]
      exact settles_ok (not_anyCatches_nil lib)
    · rw [if_neg hurl, if_neg hurl]
      by_cases htext : isPublicTextField key = true
      · rw [if_pos htext, if_pos htext]
        exact publicValue_spec lib text
      · rw [if_neg htext, if_neg htext]
        exact settles_ok (not_anyCatches_nil lib)

/-- Which fields are kept. -/
theorem isSome_normalizePublicValue {key : String} {value' : Option Json} {state' : NormalizationState}
    (h : normalizePublicValue lib (some key) value depth state = .ok (value', state')) :
    value'.isSome = isKept key value depth := by
  unfold normalizePublicValue at h
  unfold isKept
  by_cases hdepth : MAX_PUBLIC_DEPTH < depth
  · rw [if_pos hdepth] at h
    cases h
    rw [decide_eq_false (Nat.not_le.mpr hdepth)]
    rfl
  · rw [if_neg hdepth] at h
    rw [decide_eq_true (Nat.not_lt.mp hdepth), Bool.true_and]
    have hscalar : ∀ scalar : Json, normalizeScalar (some key) scalar state = (value', state') →
        value'.isSome = isPublicScalarField key := by
      intro scalar hs
      unfold normalizeScalar at hs
      dsimp only at hs
      split at hs
      · next hfield =>
        cases hs
        rw [hfield]
        rfl
      · next hfield =>
        cases hs
        rw [Bool.eq_false_iff.mpr hfield]
        rfl
    cases value with
    | null | bool b | number n => exact hscalar _ (Except.ok.inj h)
    | string text =>
      unfold normalizeText at h
      dsimp only at h ⊢
      cases hurl : isUrlField key with
      | true =>
        rw [hurl, if_pos rfl] at h
        cases h
        rfl
      | false =>
        rw [hurl, if_neg Bool.false_ne_true] at h
        cases htext : isPublicTextField key with
        | true =>
          rw [htext, if_pos rfl] at h
          obtain ⟨x, -, hx⟩ := bind_eq_ok.mp h
          cases hx
          rfl
        | false =>
          rw [htext, if_neg Bool.false_ne_true] at h
          cases h
          rfl
    | array values =>
      dsimp only at h ⊢
      cases harray : isPublicArrayField key with
      | true =>
        rw [harray, Bool.not_true, if_neg Bool.false_ne_true] at h
        obtain ⟨x, -, hx⟩ := bind_eq_ok.mp h
        cases hx
        rfl
      | false =>
        rw [harray, Bool.not_false, if_pos rfl] at h
        cases h
        rfl
    | object object =>
      cases h
      rfl

mutual

/-- A payload panics where one of the texts that are made public does. -/
theorem normalizePublicValue_spec : ∀ (key : Option String) (value : Json) (depth : ℕ)
    (state : NormalizationState), Settles (normalizePublicValue lib key value depth state)
      (AnyCatches lib (publicTexts key value depth))
  | key, value, depth, state => by
    unfold normalizePublicValue publicTexts
    by_cases hdepth : MAX_PUBLIC_DEPTH < depth
    · rw [if_pos hdepth, if_pos hdepth]
      exact settles_ok (not_anyCatches_nil lib)
    · rw [if_neg hdepth, if_neg hdepth]
      match value with
      | .null | .bool b | .number n => exact settles_ok (not_anyCatches_nil lib)
      | .string text => exact normalizeText_spec lib text
      | .array values =>
        cases key with
        | none => exact settles_ok (not_anyCatches_nil lib)
        | some key =>
          dsimp only
          by_cases harray : isPublicArrayField key = true
          · rw [if_neg (by rw [harray]; exact Bool.false_ne_true), if_pos harray]
            exact (normalizeItems_spec values MAX_PUBLIC_ARRAY_ITEMS depth _).map
          · rw [if_pos (by rw [Bool.eq_false_iff.mpr harray]; rfl), if_neg harray]
            exact settles_ok (not_anyCatches_nil lib)
      | .object object =>
        cases key with
        | none => exact (normalizeFields_spec object [] depth _).map
        | some key => exact settles_ok (not_anyCatches_nil lib)

theorem normalizeItems_spec : ∀ (items : List Json) (left depth : ℕ) (state : NormalizationState),
    Settles (normalizeItems lib items left depth state) (AnyCatches lib (itemTexts items left depth))
  | [], _, _, _ | _ :: _, 0, _, _ => settles_ok (not_anyCatches_nil lib)
  | item :: items, left + 1, depth, state => by
    unfold normalizeItems itemTexts
    refine Settles.congr ?_ (anyCatches_append lib _ _)
    refine Settles.bind (α := Option Json × NormalizationState) ?_ fun x _ =>
      (normalizeItems_spec items left depth x.2).map
    cases item with
    | string text => exact publicValue_spec lib text
    | null => exact normalizePublicValue_spec none .null (depth + 1) state
    | bool b => exact normalizePublicValue_spec none (.bool b) (depth + 1) state
    | number n => exact normalizePublicValue_spec none (.number n) (depth + 1) state
    | array values => exact normalizePublicValue_spec none (.array values) (depth + 1) state
    | object object => exact normalizePublicValue_spec none (.object object) (depth + 1) state

theorem normalizeFields_spec : ∀ (fields safe : List (String × Json)) (depth : ℕ)
    (state : NormalizationState), Settles (normalizeFields lib fields safe depth state)
      (AnyCatches lib (fieldTexts fields safe.length depth))
  | [], _, _, _ => settles_ok (not_anyCatches_nil lib)
  | (key, value) :: fields, safe, depth, state => by
    unfold normalizeFields fieldTexts
    by_cases hfull : MAX_PUBLIC_FIELDS ≤ safe.length
    · rw [if_pos hfull, if_pos hfull]
      exact settles_ok (not_anyCatches_nil lib)
    · rw [if_neg hfull, if_neg hfull]
      cases hsensitive : isSensitiveField key with
      | true => exact normalizeFields_spec fields safe depth _
      | false =>
        refine Settles.congr ?_ (anyCatches_append lib _ _)
        refine Settles.bind (normalizePublicValue_spec (some key) value (depth + 1) state)
          fun x hx => ?_
        obtain ⟨value', state'⟩ := x
        have hkept := isSome_normalizePublicValue lib hx
        cases value' with
        | none =>
          rw [← hkept]
          exact normalizeFields_spec fields safe depth _
        | some value' =>
          rw [← hkept]
          have hrest := normalizeFields_spec fields (safe ++ [(key, value')]) depth state'
          rw [List.length_append, List.length_singleton] at hrest
          exact hrest

end

/-- Libraries that accept nothing. -/
def Sample.library : Library where
  parseUrl _ := none
  fromStr _ := none
  parseRfc3339 _ := none
  fromUnixTimestamp _ := none
  formatRfc3339 _ := none

end Clawhip.Http
