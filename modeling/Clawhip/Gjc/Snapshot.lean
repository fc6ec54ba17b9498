import Clawhip.Lib.Wildcard

/-!
# Session snapshots and public texts

The snapshots of a session that `src/gjc_sdk_events.rs` reads, with the checks of their identifiers,
and the three filters that free text passes before it is announced: `sanitize`, `publicText` and
`publicFailureSummary`.
-/

namespace Clawhip.Gjc

open List Text Bool

def MAX_ID_CHARS : ℕ := 128
def MAX_SUMMARY_CHARS : ℕ := 240

/-! ## Snapshots -/

/-- `GjcSdkTurnPhase`. -/
inductive TurnPhase where
  | idle
  | active
  | waitingInput
  | complete
  | failed
  | aborted
deriving DecidableEq

/-- `GjcSdkPromptStatus`. -/
inductive PromptStatus where
  | accepted
  | progressing
deriving DecidableEq

/-- `GjcSdkGateKind`. -/
inductive GateKind where
  | ask
  | workflow

/-- `GjcSdkGateStatus`. -/
inductive GateStatus where
  | opened
  | resolved
deriving DecidableEq

/-- `GjcSdkEndpointHealth`. -/
inductive EndpointHealth where
  | ok
  | degraded
  | failed
deriving DecidableEq

/-- `GjcSdkTurn`. -/
structure Turn where
  id : String
  state : TurnPhase
  prompt_accepted : Bool
  attempt : ℕ
  error_summary : Option String

/-- `GjcSdkPrompt`. -/
structure Prompt where
  command_id : String
  status : PromptStatus

/-- `GjcSdkGate`. -/
structure Gate where
  id : String
  kind : GateKind
  revision : ℕ
  status : GateStatus
  summary : Option String
  workflow_id : Option String
  title : Option String
  options : List String

/-- `GjcSdkEndpoint`. -/
structure Endpoint where
  health : EndpointHealth
  detail : Option String

/-- `GjcSdkStateSnapshot`. -/
structure Snapshot where
  session_id : String
  revision : ℕ
  endpoint_episode : ℕ
  turn : Option Turn
  turn_present : Bool
  prompt : Option Prompt
  gate : Option Gate
  model : Option String
  profile : Option String
  endpoint : Option Endpoint
  repo_name : Option String
  repo_path : Option String
  worktree_path : Option String
  branch : Option String
  observed_at : Option String
  summary : Option String
  mapping_error : Option String

/-- `GjcSdkStateSnapshot::default` of a session at a revision. -/
def Snapshot.bare (session_id : String) (revision : ℕ) : Snapshot where
  session_id := session_id
  revision := revision
  endpoint_episode := 0
  turn := none
  turn_present := false
  prompt := none
  gate := none
  model := none
  profile := none
  endpoint := none
  repo_name := none
  repo_path := none
  worktree_path := none
  branch := none
  observed_at := none
  summary := none
  mapping_error := none

/-! ## Texts -/

/-- `char::is_control`: the Unicode category `Cc`. -/
def isControl (c : Char) : Bool := c.toNat < 32 || (127 ≤ c.toNat && c.toNat < 160)

/-- A character that an identifier must not have. -/
def isBlank (c : Char) : Bool := isControl c || Text.isWhitespace c

/-- The checks of `SessionId::new`, `CommandId::new`, `TurnId::new` and of `valid_gate_id`. -/
def validId (value : String) : Bool :=
  !value.isEmpty && decide (value.utf8ByteSize ≤ MAX_ID_CHARS) &&
    value.toList.all fun c => !isBlank c

/-- The loop of `sanitize`: every run of blank characters becomes a space. -/
def collapse : Bool → List Char → List Char
  | _, [] => []
  | previous_space, c :: cs =>
    let mapped := if isBlank c then ' ' else c
    if mapped == ' ' && previous_space then collapse true cs
    else mapped :: collapse (mapped == ' ') cs

def sanitize (value : String) : String :=
  String.ofList ((Text.strip Text.isWhitespace (collapse false value.toList)).take MAX_SUMMARY_CHARS)

/-- What `public_text` rejects in a text in lower case. -/
def SECRET_MARKERS : List String :=
  ["token", "secret", "password", "api_key", "api-key", "authorization", "apikey", "credential",
    "passwd", "auth:", "auth=", "bearer", "://"]

/-- A text in lower case has a marker in it. -/
def hasSecretMarker (lower : String) : Bool :=
  let compact := String.ofList (lower.toList.filter fun c => c.isAlphanum)
  SECRET_MARKERS.any (fun marker => Text.contains lower marker) || Text.contains compact "privatekey"

def publicText (value : String) : String :=
  let sanitized := sanitize value
  if hasSecretMarker (Text.toAsciiLowercase sanitized) then "details redacted" else sanitized

def publicFailureSummary (value : String) : String :=
  let normalized := Text.toAsciiLowercase (sanitize value)
  let has (text : String) : Bool := Text.contains normalized text
  if has "401" || has "unauthorized" then "provider authorization failed (401)"
  else if has "402" && !has "403" || (has "payment" || has "billing" || has "credit") &&
      !has "403" then
    "provider credits or billing unavailable (402)"
  else if has "403" || has "forbidden" then "provider access denied (403)"
  else if has "429" || has "rate limit" || has "quota" then
    "provider rate limit or quota exceeded (429)"
  else "provider turn failed"

def publicEndpointDetail (_value : String) : String := "sdk endpoint unavailable"

/-! ## What the filters leave -/

/-- A text with at most 240 characters, none of them a control character. -/
def Plain (s : String) : Prop := (∀ c ∈ s.toList, isControl c = false) ∧ s.length ≤ MAX_SUMMARY_CHARS

/-- A text in which `publicText` finds nothing. -/
def Public (s : String) : Prop := hasSecretMarker (Text.toAsciiLowercase s) = false

variable {c : Char} {cs : List Char}

theorem mem_collapse {previous_space : Bool} (h : c ∈ collapse previous_space cs) : c = ' ' ∨ isBlank c = false := by
  induction cs generalizing previous_space with
  | nil => exact absurd h not_mem_nil
  | cons d cs ih =>
    unfold collapse at h
    dsimp only at h
    split_ifs at h with hblank hskip hskip
    · exact ih h
    · rcases mem_cons.mp h with rfl | h
      · exact .inl rfl
      · exact ih h
    · exact ih h
    · rcases mem_cons.mp h with rfl | h
      · exact .inr (by simpa using hblank)
      · exact ih h

/-- Characters without blanks are not changed. -/
theorem collapse_eq_self (h : ∀ c ∈ cs, isBlank c = false) : collapse false cs = cs := by
  induction cs with
  | nil => rfl
  | cons c cs ih =>
    have hc : isBlank c = false := h c mem_cons_self
    have hspace : (c == ' ') = false := by
      rw [beq_eq_false_iff_ne]
      rintro rfl
      exact absurd hc (by decide)
    unfold collapse
    rw [hc]
    simp only [Bool.false_eq_true, ↓reduceIte, hspace, Bool.false_and]
    rw [ih fun d hd => h d (mem_cons_of_mem _ hd)]

theorem mem_of_mem_strip {α : Type*} {p : α → Bool} {l : List α} {a : α} (h : a ∈ strip p l) : a ∈ l := by
  have hdropped := (dropWhile_suffix p).subset (mem_reverse.mp h)
  exact (dropWhile_suffix p).subset (mem_reverse.mp hdropped)

theorem plain_sanitize (value : String) : Plain (sanitize value) := by
  unfold sanitize
  constructor
  · intro c hc
    rw [String.toList_ofList] at hc
    rcases mem_collapse (mem_of_mem_strip (mem_of_mem_take hc)) with rfl | hblank
    · decide
    · exact (or_eq_false_iff.mp hblank).1
  · rw [String.length_ofList]
    exact length_take_le _ _

/-- An identifier is not changed. -/
theorem sanitize_of_validId {value : String} (h : validId value = true) : sanitize value = value := by
  unfold validId at h
  simp only [and_eq_true, decide_eq_true_eq, all_eq_true, not_eq_true'] at h
  obtain ⟨⟨-, hsize⟩, hblank⟩ := h
  have hspace : ∀ c ∈ value.toList, isWhitespace c = false := fun c hc => (or_eq_false_iff.mp (hblank c hc)).2
  have hstrip : strip isWhitespace value.toList = value.toList := by
    have hhead {l : List Char} (hl : ∀ c ∈ l, isWhitespace c = false) : l.dropWhile isWhitespace = l :=
      dropWhile_eq_self fun c hc => hl c (mem_of_mem_head? hc)
    unfold strip
    rw [hhead hspace, hhead fun c hc => hspace c (mem_reverse.mp hc), reverse_reverse]
  have hlength : value.toList.length ≤ MAX_SUMMARY_CHARS := by
    have hchars : value.toList.length ≤ value.utf8ByteSize := by
      have h := length_le_utf8ByteSize value.toList
      rwa [String.ofList_toList] at h
    have hmax : MAX_ID_CHARS ≤ MAX_SUMMARY_CHARS := by decide
    omega
  unfold sanitize
  rw [collapse_eq_self hblank, hstrip, take_of_length_le hlength, String.ofList_toList]

/-! ## Texts without markers -/

/-- A text as the codes of its characters, on which closed searches are quick to decide. -/
def codes (s : String) : List ℕ := s.toList.map Char.toNat

theorem codes_infix_of_contains {s pattern : String} (h : contains s pattern = true) :
    codes pattern <:+: codes s := (contains_iff.mp h).map _

theorem codes_infix_of_contains_ofList {l : List Char} {pattern : String}
    (h : contains (String.ofList l) pattern = true) : codes pattern <:+: l.map Char.toNat := by
  have hinfix := codes_infix_of_contains h
  unfold codes at hinfix ⊢
  rwa [String.toList_ofList] at hinfix

/-- The codes of letters in lower case and of digits. -/
def isCompactCode (n : ℕ) : Bool := (97 ≤ n && n ≤ 122) || (48 ≤ n && n ≤ 57)

/-- A search over the codes of a text in lower case that finds nothing in it to redact. -/
def clearCodes (codes' : List ℕ) : Bool :=
  (codes'.all fun n => 32 ≤ n && n < 127 && !(65 ≤ n && n ≤ 90)) &&
    decide (codes'.length ≤ MAX_SUMMARY_CHARS) &&
    (SECRET_MARKERS.all fun marker => decide (¬ codes marker <:+: codes')) &&
    decide (¬ codes "privatekey" <:+: codes'.filter isCompactCode)

theorem isAlphanum_eq_isCompactCode (h : ¬ (65 ≤ c.toNat ∧ c.toNat ≤ 90)) : c.isAlphanum = isCompactCode c.toNat := by
  rw [Bool.eq_iff_iff]
  unfold Char.isAlphanum Char.isAlpha Char.isUpper Char.isLower Char.isDigit isCompactCode
  simp only [Bool.or_eq_true, Bool.and_eq_true, decide_eq_true_eq]
  constructor
  · rintro ((hupper | hlower) | hdigit)
    · exact absurd hupper h
    · exact .inl hlower
    · exact .inr hdigit
  · rintro (hlower | hdigit)
    · exact .inl (.inr hlower)
    · exact .inr hdigit

theorem toLower_eq_self (h : ¬ (65 ≤ c.toNat ∧ c.toNat ≤ 90)) : c.toLower = c := by
  unfold Char.toLower
  rw [dif_neg]
  exact h

/-- A text whose codes are clear is plain and public. -/
theorem plain_and_public_of_clearCodes {s : String} (h : clearCodes (codes s) = true) : Plain s ∧ Public s := by
  unfold clearCodes at h
  simp only [and_eq_true, all_eq_true, decide_eq_true_eq, not_eq_true', and_eq_false_iff, decide_eq_false_iff_not] at h
  obtain ⟨⟨⟨hcodes, hlength⟩, hmarkers⟩, hkey⟩ := h
  have hchar (c : Char) (hc : c ∈ s.toList) : 32 ≤ c.toNat ∧ c.toNat < 127 ∧ ¬ (65 ≤ c.toNat ∧ c.toNat ≤ 90) := by
    obtain ⟨hrange, hupper⟩ := hcodes c.toNat (mem_map_of_mem hc)
    refine ⟨hrange.1, hrange.2, ?_⟩
    omega
  have hlower : toAsciiLowercase s = s := by
    unfold toAsciiLowercase
    rw [map_congr_left fun c hc => toLower_eq_self (hchar c hc).2.2]
    simp
  have hcompact : (s.toList.filter fun c => c.isAlphanum).map Char.toNat = (codes s).filter isCompactCode := by
    unfold codes
    rw [filter_map]
    refine congrArg _ (filter_congr fun c hc => ?_)
    exact isAlphanum_eq_isCompactCode (hchar c hc).2.2
  refine ⟨⟨fun c hc => ?_, ?_⟩, ?_⟩
  · have hc := hchar c hc
    unfold isControl
    simp only [or_eq_false_iff, decide_eq_false_iff_not, and_eq_false_iff]
    omega
  · unfold codes at hlength
    rwa [length_map] at hlength
  · unfold Public hasSecretMarker
    rw [hlower, or_eq_false_iff, any_eq_false]
    constructor
    · intro marker hmarker hcontains
      exact hmarkers marker hmarker (codes_infix_of_contains hcontains)
    · rw [← not_eq_true]
      intro hcontains
      exact hkey (hcompact ▸ codes_infix_of_contains_ofList hcontains)

end Clawhip.Gjc
