import Clawhip.Http.Redaction

/-!
# What the scanner reads

`redact_json_secrets_fallback` moves over bytes. Here its course over a text is read in characters:
`closeString`, `afterBrackets` and `afterValue` say what a string, an object or array, and a value
leave behind them, and `Trapped` is the shape of the texts at which it slices off a boundary: the
value of a sensitive key is an object or array that ends inside a string, or starts with a character
that is not ASCII. `redactJsonSecretsFallback_spec` holds the scanner to it.
-/

namespace Clawhip.Http

open List Utf8 Nat

open Utf8 (byte bytes splitAt? isAscii At)

/-! ## Strings, brackets, values -/

/-- What stands in a string up to its closing quote, and what follows; the flag says that the next
character is escaped. -/
def closeString : Bool → List Char → Option (List Char × List Char)
  | _, [] => none
  | true, c :: cs => (closeString false cs).map fun (inside, rest) => (c :: inside, rest)
  | false, c :: cs =>
    if c = '"' then some ([], cs)
    else (closeString (c == '\\') cs).map fun (inside, rest) => (c :: inside, rest)

/-- What follows an object or array with `depth` open brackets: all of the text where it is cut off
outside of a string, nothing (`none`) where it is cut off inside one. The mode is the flag of
`closeString` inside a string. -/
def afterBrackets (opening closing : Char) : Option Bool → ℕ → List Char → Option (List Char)
  | none, 0, rest => some rest
  | none, _ + 1, [] => some []
  | some _, _, [] => none
  | none, depth + 1, c :: cs =>
    if c = opening then afterBrackets opening closing none (deeper (depth + 1)) cs
    else if c = closing then afterBrackets opening closing none depth cs
    else if c = '"' then afterBrackets opening closing (some false) (depth + 1) cs
    else afterBrackets opening closing none (depth + 1) cs
  | some true, depth, _ :: cs => afterBrackets opening closing (some false) depth cs
  | some false, depth, c :: cs =>
    if c = '"' then afterBrackets opening closing none depth cs
    else afterBrackets opening closing (some (c == '\\')) depth cs

/-- A text without a first character that satisfies `p`. -/
def dropOne (p : Char → Bool) : List Char → List Char
  | [] => []
  | c :: cs => if p c then cs else c :: cs

/-- What follows a number. -/
def afterNumber (text : List Char) : List Char :=
  let rest := (dropOne (· == '-') text).dropWhile Char.isDigit
  let rest := if rest.head? = some '.' then rest.tail.dropWhile Char.isDigit else rest
  if rest.head? = some 'e' ∨ rest.head? = some 'E' then
    (dropOne (fun c => c == '+' || c == '-') rest.tail).dropWhile Char.isDigit
  else rest

/-- What follows a value; `none` where there is no character boundary behind it. -/
def afterValue : List Char → Option (List Char)
  | [] => some []
  | c :: cs =>
    if c = '"' then some ((closeString false cs).elim [] Prod.snd)
    else if c = '\x7b' then afterBrackets '\x7b' '\x7d' none 1 cs
    else if c = '[' then afterBrackets '[' ']' none 1 cs
    else if "null".toList.isPrefixOf (c :: cs) then some ((c :: cs).drop 4)
    else if "true".toList.isPrefixOf (c :: cs) then some ((c :: cs).drop 4)
    else if "false".toList.isPrefixOf (c :: cs) then some ((c :: cs).drop 5)
    else if c = '-' ∨ c.isDigit then some (afterNumber (c :: cs))
    else if isAscii c then some cs
    else none

/-- White space between the tokens of a JSON text, and form feed. -/
def isSpace (c : Char) : Bool := c == ' ' || c == '\t' || c == '\n' || c == '\x0c' || c == '\r'

/-- What stands behind the colon that follows a key. -/
def afterColon (text : List Char) : Option (List Char) :=
  match text.dropWhile isSpace with
  | [] => none
  | c :: cs => if c = ':' then some (cs.dropWhile isSpace) else none

/-- A quoted key whose value is redacted. -/
def isSensitiveKey (key : List Char) : Bool :=
  (decodeJsonEscapeSequences (bytes key)).any fun name => isSensitiveField (String.ofList name)

/-- The texts that the scanner cannot get through. Read from the left: text that is not quoted and
quoted strings that are not sensitive keys before a colon are passed, the values of sensitive keys are
read to their end, and one of these values has no character boundary behind it. -/
inductive Trapped : List Char → Prop
  | text {c : Char} {cs : List Char} : c ≠ '"' → Trapped cs → Trapped (c :: cs)
  | string {cs key rest : List Char} :
      closeString false cs = some (key, rest) →
      isSensitiveKey key = false ∨ afterColon rest = none → Trapped rest → Trapped ('"' :: cs)
  | value {cs key rest value rest' : List Char} :
      closeString false cs = some (key, rest) → isSensitiveKey key = true →
      afterColon rest = some value → afterValue value = some rest' → Trapped rest' → Trapped ('"' :: cs)
  | caught {cs key rest value : List Char} :
      closeString false cs = some (key, rest) → isSensitiveKey key = true →
      afterColon rest = some value → afterValue value = none → Trapped ('"' :: cs)

variable {inside literal plain result remainder : List Char} {bs : List UInt8} {trapped : Prop} {α : Type}

theorem closeString_eq {escaped : Bool} {text rest : List Char}
    (h : closeString escaped text = some (inside, rest)) : text = inside ++ '"' :: rest := by
  induction text generalizing escaped inside with
  | nil => cases escaped <;> cases h
  | cons c cs ih =>
    cases escaped with
    | true =>
      obtain ⟨⟨k, r⟩, hk, heq⟩ := Option.map_eq_some_iff.mp h
      cases heq
      rw [ih hk, cons_append]
    | false =>
      by_cases hc : c = '"'
      · rw [closeString, if_pos hc] at h
        cases h
        rw [hc, nil_append]
      · rw [closeString, if_neg hc] at h
        obtain ⟨⟨k, r⟩, hk, heq⟩ := Option.map_eq_some_iff.mp h
        cases heq
        rw [ih hk, cons_append]

/-! ## From bytes to characters -/

variable {t rest r : List Char} {pos : ℕ} {c : Char}

theorem isAscii_quote : isAscii '"' = true := rfl

/-- A loop over bytes that stops at every large byte. -/
theorem skipWhile_at {p : UInt8 → Bool} {q : Char → Bool} (hascii : ∀ c, isAscii c = true → p (byte c) = q c)
    (hother : ∀ c, isAscii c = false → q c = false) (hlarge : ∀ b : UInt8, 128 ≤ b.toNat → p b = false)
    (h : At t pos rest) : At t (skipWhile (bytes t) p pos) (rest.dropWhile q) := by
  induction rest generalizing pos with
  | nil =>
    rw [skipWhile, dif_neg (by rw [h.eq_length]; exact lt_irrefl _)]
    exact h
  | cons c cs ih =>
    have hlt := h.lt
    rw [skipWhile, dif_pos hlt]
    cases hc : isAscii c with
    | true =>
      have hbyte : (bytes t)[pos] = byte c := Option.some.inj ((getElem?_eq_getElem hlt).symm.trans (h.ascii hc))
      rw [hbyte, hascii c hc]
      by_cases hq : q c = true
      · rw [if_pos hq, dropWhile_cons_of_pos hq]
        exact ih (h.next_ascii hc)
      · rw [if_neg hq, dropWhile_cons_of_neg hq]
        exact h
    | false =>
      obtain ⟨b, hb, hle⟩ := h.large hc (length_encode_pos c)
      have hbyte : (bytes t)[pos] = b := Option.some.inj ((getElem?_eq_getElem hlt).symm.trans hb)
      rw [hbyte, hlarge b hle, if_neg Bool.false_ne_true,
        dropWhile_cons_of_neg (by rw [hother c hc]; exact Bool.false_ne_true)]
      exact h

theorem ne_byte_of_large {b : UInt8} (hb : 128 ≤ b.toNat) {d : Char} (hd : isAscii d = true) : b ≠ byte d := by
  intro heq
  have hlt := byte_lt hd
  rw [← heq] at hlt
  omega

theorem closingQuote_next (hlt : pos < bs.length)
    (hne : ¬ (bs[pos]? = some (byte '"') ∧ backslashCount bs pos % 2 = 0)) :
    closingQuote bs pos = closingQuote bs (pos + 1) := by
  rw [getElem?_eq_getElem hlt, Option.some.injEq] at hne
  rw [closingQuote, dif_pos hlt, if_neg hne]

theorem closingQuote_here (hquote : bs[pos]? = some (byte '"')) (heven : backslashCount bs pos % 2 = 0) :
    closingQuote bs pos = pos := by
  obtain ⟨hlt, heq⟩ := List.getElem?_eq_some_iff.mp hquote
  rw [closingQuote, dif_pos hlt, if_pos ⟨heq, heven⟩]

theorem closingQuote_end (hle : bs.length ≤ pos) : closingQuote bs pos = pos := by
  rw [closingQuote, dif_neg (not_lt.mpr hle)]

/-- Right after something other than a backslash no backslash counts. -/
theorem backslashCount_succ_of_ne (h : bs[pos]? ≠ some (byte '\\')) : backslashCount bs (pos + 1) = 0 := by
  rw [backslashCount, if_neg h]

theorem backslashCount_succ (h : bs[pos]? = some (byte '\\')) :
    backslashCount bs (pos + 1) = backslashCount bs pos + 1 := by
  rw [backslashCount, if_pos h]

/-- Whether the character at a position is escaped, after the character before it. -/
theorem backslashCount_next (h : At t pos (c :: r)) {escaped : Bool}
    (hcount : backslashCount (bytes t) pos % 2 = escaped.toNat) :
    backslashCount (bytes t) (pos + (String.utf8EncodeChar c).length) % 2 = (!escaped && c == '\\').toNat := by
  cases hc : isAscii c with
  | true =>
    rw [encode_ascii hc, length_singleton]
    by_cases hback : c = '\\'
    · subst hback
      rw [backslashCount_succ (h.ascii hc), add_mod, hcount]
      cases escaped <;> rfl
    · rw [backslashCount_succ_of_ne (h.ne_byte rfl hback), beq_false_of_ne hback, Bool.and_false]
      rfl
  | false =>
    obtain ⟨n, hn⟩ := exists_eq_succ_of_ne_zero (length_encode_pos c).ne'
    obtain ⟨b, hb, hlarge⟩ := h.large hc (i := n) (by omega)
    have hne : (bytes t)[pos + n]? ≠ some (byte '\\') := by
      rw [hb]
      exact fun heq => ne_byte_of_large hlarge rfl (Option.some.inj heq)
    have hback : c ≠ '\\' := by
      rintro rfl
      cases hc
    rw [hn, succ_eq_add_one, ← add_assoc, backslashCount_succ_of_ne hne, beq_false_of_ne hback, Bool.and_false]
    rfl

/-- The search for a closing quote goes past a character that is none. -/
theorem closingQuote_pass (h : At t pos (c :: r)) (hne : ¬ (c = '"' ∧ backslashCount (bytes t) pos % 2 = 0)) :
    closingQuote (bytes t) pos = closingQuote (bytes t) (pos + (String.utf8EncodeChar c).length) := by
  cases hc : isAscii c with
  | true =>
    rw [encode_ascii hc]
    refine closingQuote_next h.lt fun hhere => hne ⟨?_, hhere.2⟩
    have hhead := (h.getElem?_eq_byte isAscii_quote).mp hhere.1
    exact Option.some.inj hhead
  | false =>
    refine h.pass _ hc fun p b hb hlarge => closingQuote_next ?_ fun hhere => ?_
    · exact (List.getElem?_eq_some_iff.mp hb).1
    · rw [hb] at hhere
      exact ne_byte_of_large hlarge isAscii_quote (Option.some.inj hhere.1)

/-- The closing quote that the scanner finds. -/
theorem closingQuote_at (escaped : Bool) (h : At t pos rest)
    (hcount : backslashCount (bytes t) pos % 2 = escaped.toNat) :
    closingQuote (bytes t) pos = (closeString escaped rest).elim (bytes t).length fun (inside, _) =>
        pos + (bytes inside).length := by
  induction rest generalizing pos escaped with
  | nil =>
    rw [closingQuote_end h.eq_length.ge, h.eq_length]
    cases escaped <;> rfl
  | cons c cs ih =>
    have hnext := ih _ h.next (backslashCount_next h hcount)
    -- The character is passed unless it is a quote that is not escaped.
    have hlen : ∀ inside : List Char, pos + (bytes (c :: inside)).length =
        pos + (String.utf8EncodeChar c).length + (bytes inside).length := by
      intro inside
      rw [bytes_cons, length_append, add_assoc]
    cases escaped with
    | true =>
      rw [closingQuote_pass h (fun hhere => by rw [hhere.2] at hcount; cases hcount), hnext,
        closeString, Bool.not_true, Bool.false_and]
      cases closeString false cs with
      | none => rfl
      | some parts => exact (hlen parts.1).symm
    | false =>
      by_cases hc : c = '"'
      · subst hc
        rw [closingQuote_here (h.ascii isAscii_quote) hcount, closeString, if_pos rfl]
        rfl
      · rw [closingQuote_pass h (fun hhere => hc hhere.1), hnext, closeString, if_neg hc, Bool.not_false, Bool.true_and]
        cases closeString (c == '\\') cs with
        | none => rfl
        | some parts => exact (hlen parts.1).symm

/-- Right behind a quote no character is escaped. -/
theorem backslashCount_behind_quote (h : At t pos ('"' :: r)) : backslashCount (bytes t) (pos + 1) % 2 = 0 := by
  rw [backslashCount_succ_of_ne (h.ne_byte rfl (by decide))]

/-- A position stands before what is expected to follow, or off the character boundaries. -/
def Lands (t : List Char) (pos : ℕ) : Option (List Char) → Prop
  | some rest => At t pos rest
  | none => splitAt? t pos = none

/-! ## Objects and arrays -/

section
variable {opening closing : Char} {depth : ℕ} {bs : List UInt8} {c' o : UInt8}

/-- One round of the loop over an object or array, by the byte it reads. -/
theorem matchingClose_step {b : UInt8} (hb : bs[pos]? = some b) :
    matchingClose bs o c' pos (depth + 1) = if b = o then matchingClose bs o c' (pos + 1) (deeper (depth + 1))
      else if b = c' then matchingClose bs o c' (pos + 1) depth
      else if b = byte '"' then matchingClose bs o c' (closingQuote bs (pos + 1) + 1) (depth + 1)
      else matchingClose bs o c' (pos + 1) (depth + 1) := by
  obtain ⟨hlt, rfl⟩ := List.getElem?_eq_some_iff.mp hb
  rw [matchingClose, dif_pos ⟨hlt, succ_pos depth⟩]
  rfl

theorem matchingClose_end (h : bs.length ≤ pos) : matchingClose bs o c' pos depth = pos := by
  rw [matchingClose, dif_neg fun hlt => not_lt.mpr h hlt.1]

theorem matchingClose_zero : matchingClose bs o c' pos 0 = pos := by
  rw [matchingClose, dif_neg fun hlt => lt_irrefl 0 hlt.2]

/-- Where the scanner ends in an object or array: at what follows it, or one byte behind the text
where it is cut off inside a string. -/
theorem matchingClose_at (hopening : isAscii opening = true) (hclosing : isAscii closing = true)
    (mode : Option Bool) (h : At t pos rest)
    (hmode : ∀ escaped ∈ mode, backslashCount (bytes t) pos % 2 = escaped.toNat) :
    Lands t (matchingClose (bytes t) (byte opening) (byte closing)
        (if mode.isSome then closingQuote (bytes t) pos + 1 else pos) depth)
      (afterBrackets opening closing mode depth rest) := by
  induction rest generalizing pos mode depth with
  | nil =>
    cases mode with
    | none =>
      cases depth with
      | zero =>
        rw [matchingClose_zero]
        exact h
      | succ depth =>
        rw [matchingClose_end (by exact h.eq_length.ge)]
        exact h
    | some escaped =>
      have hquote : closingQuote (bytes t) pos = (bytes t).length := by
        rw [closingQuote_end h.eq_length.ge, h.eq_length]
      rw [Option.isSome_some, if_pos rfl, hquote, matchingClose_end (le_succ _)]
      have hbehind := splitAt?_behind (lt_succ_self (bytes t).length)
      cases escaped with
      | true | false => exact hbehind
  | cons c cs ih =>
    cases mode with
    | none =>
      cases depth with
      | zero =>
        rw [matchingClose_zero]
        exact h
      | succ depth =>
        cases hc : isAscii c with
        | true =>
          have hnext := h.next_ascii hc
          rw [Option.isSome_none, if_neg Bool.false_ne_true, matchingClose_step (h.ascii hc), afterBrackets]
          simp only [byte_inj hc hopening, byte_inj hc hclosing, byte_inj hc isAscii_quote]
          by_cases hopen : c = opening
          · rw [if_pos hopen, if_pos hopen]
            exact ih none hnext (by simp)
          · rw [if_neg hopen, if_neg hopen]
            by_cases hclose : c = closing
            · rw [if_pos hclose, if_pos hclose]
              exact ih none hnext (by simp)
            · rw [if_neg hclose, if_neg hclose]
              by_cases hquote : c = '"'
              · rw [if_pos hquote, if_pos hquote]
                subst hquote
                exact ih (some false) hnext (by rintro _ ⟨⟩; exact backslashCount_behind_quote h)
              · rw [if_neg hquote, if_neg hquote]
                exact ih none hnext (by simp)
        | false =>
          have hother : ∀ d, isAscii d = true → c ≠ d := by
            rintro d hd rfl
            rw [hc] at hd
            cases hd
          rw [afterBrackets, if_neg (hother _ hopening), if_neg (hother _ hclosing),
            if_neg (hother _ isAscii_quote), Option.isSome_none, if_neg Bool.false_ne_true,
            h.pass (fun p => matchingClose (bytes t) (byte opening) (byte closing) p (depth + 1)) hc
              fun p b hb hlarge => by
                rw [matchingClose_step hb, if_neg (ne_byte_of_large hlarge hopening),
                  if_neg (ne_byte_of_large hlarge hclosing), if_neg (ne_byte_of_large hlarge isAscii_quote)]]
          exact ih none h.next (by simp)
    | some escaped =>
      have hcount := hmode escaped rfl
      have hnext := backslashCount_next h hcount
      cases escaped with
      | true =>
        have hpass := closingQuote_pass h fun hhere => by rw [hhere.2] at hcount; cases hcount
        rw [afterBrackets, Option.isSome_some, if_pos rfl, hpass]
        exact ih (some false) h.next (by rintro _ ⟨⟩; exact hnext)
      | false =>
        by_cases hc : c = '"'
        · subst hc
          rw [afterBrackets, if_pos rfl, Option.isSome_some, if_pos rfl,
            closingQuote_here (h.ascii isAscii_quote) hcount]
          exact ih none (h.next_ascii isAscii_quote) (by simp)
        · have hpass := closingQuote_pass h fun hhere => hc hhere.1
          rw [afterBrackets, if_neg hc, Option.isSome_some, if_pos rfl, hpass]
          exact ih (some (c == '\\')) h.next (by rintro _ ⟨⟩; exact hnext)

end

/-! ## Numbers and literals -/

theorem toNat_byte {c : Char} (hc : isAscii c = true) : (byte c).toNat = c.toNat := by
  have hlt : c.toNat < 128 := of_decide_eq_true hc
  simp [byte]
  omega

theorem isDigit_eq (c : Char) : c.isDigit = (decide (48 ≤ c.toNat) && decide (c.toNat ≤ 57)) := by
  rfl

theorem isAsciiDigit_eq (b : UInt8) : isAsciiDigit b = (decide (48 ≤ b.toNat) && decide (b.toNat ≤ 57)) := by
  rfl

theorem not_isAscii {c : Char} (hc : isAscii c = false) : 128 ≤ c.toNat := not_lt.mp (of_decide_eq_false hc)

/-- The scanner reads digits. -/
theorem skipDigits_at (h : At t pos rest) :
    At t (skipWhile (bytes t) isAsciiDigit pos) (rest.dropWhile Char.isDigit) := by
  refine skipWhile_at (fun c hc => ?_) (fun c hc => ?_) (fun b hb => ?_) h
  · rw [isAsciiDigit_eq, isDigit_eq, toNat_byte hc]
  · have hle := not_isAscii hc
    rw [isDigit_eq, decide_eq_false (p := c.toNat ≤ 57) (by omega), Bool.and_false]
  · rw [isAsciiDigit_eq, decide_eq_false (p := b.toNat ≤ 57) (by omega), Bool.and_false]

/-- The scanner reads white space. -/
theorem skipSpace_at (h : At t pos rest) :
    At t (skipWhile (bytes t) isAsciiWhitespace pos) (rest.dropWhile isSpace) := by
  have hspace : ∀ b : UInt8, isAsciiWhitespace b = decide (b ∈ [0x20, 9, 10, 12, 13]) := by
    intro b
    rw [Bool.eq_iff_iff]
    simp [isAsciiWhitespace, or_assoc]
  have hchar : ∀ c : Char, isSpace c = decide (c ∈ [' ', '\t', '\n', '\x0c', '\r']) := by
    intro c
    rw [Bool.eq_iff_iff]
    simp [isSpace, or_assoc]
  refine skipWhile_at (fun c hc => ?_) (fun c hc => ?_) (fun b hb => ?_) h
  · rw [hspace, hchar]
    have hbytes : ([0x20, 9, 10, 12, 13] : List UInt8) = [' ', '\t', '\n', '\x0c', '\r'].map byte := rfl
    rw [hbytes]
    refine decide_eq_decide.mpr ⟨fun hmem => ?_, mem_map_of_mem⟩
    obtain ⟨d, hd, heq⟩ := mem_map.mp hmem
    have hdascii : isAscii d = true := by
      simp only [mem_cons, not_mem_nil, or_false] at hd
      rcases hd with rfl | rfl | rfl | rfl | rfl <;> rfl
    rwa [← (byte_inj hdascii hc).mp heq]
  · rw [hchar]
    refine decide_eq_false fun hmem => ?_
    simp only [mem_cons, not_mem_nil, or_false] at hmem
    rcases hmem with rfl | rfl | rfl | rfl | rfl <;> cases hc
  · rw [hspace]
    refine decide_eq_false fun hmem => ?_
    simp only [mem_cons, not_mem_nil, or_false] at hmem
    rcases hmem with rfl | rfl | rfl | rfl | rfl <;> exact absurd hb (by decide)

/-- The scanner reads one character, or none. -/
theorem dropOne_at {p : Char → Bool} {P : Prop} [Decidable P] (hp : ∀ d, p d = true → isAscii d = true)
    (hP : P ↔ ∃ d, rest.head? = some d ∧ p d = true) (h : At t pos rest) :
    At t (if P then pos + 1 else pos) (dropOne p rest) := by
  cases rest with
  | nil =>
    rw [if_neg (fun hp => by obtain ⟨d, hd, -⟩ := hP.mp hp; cases hd)]
    exact h
  | cons c cs =>
    by_cases hc : p c = true
    · rw [if_pos (hP.mpr ⟨c, rfl, hc⟩), dropOne, if_pos hc]
      exact h.next_ascii (hp c hc)
    · rw [dropOne, if_neg hc, if_neg]
      · exact h
      · intro hp
        obtain ⟨d, hd, hpd⟩ := hP.mp hp
        cases hd
        exact hc hpd

section

variable (h : At t pos rest)
include h

/-- The position behind an ASCII character. -/
theorem tail_at {d : Char} (hd : isAscii d = true) (hhead : rest.head? = some d) : At t (pos + 1) rest.tail := by
  cases rest with
  | nil => cases hhead
  | cons c cs =>
    cases hhead
    exact h.next_ascii hd

/-- The fraction of a number. -/
theorem fraction_at :
    At t (if (bytes t)[pos]? = some (byte '.') then skipWhile (bytes t) isAsciiDigit (pos + 1) else pos)
      (if rest.head? = some '.' then rest.tail.dropWhile Char.isDigit else rest) := by
  simp only [h.getElem?_eq_byte (d := '.') rfl]
  by_cases hdot : rest.head? = some '.'
  · rw [if_pos hdot, if_pos hdot]
    exact skipDigits_at (tail_at h rfl hdot)
  · rw [if_neg hdot, if_neg hdot]
    exact h

/-- The exponent of a number. -/
theorem exponent_at : At t (if (bytes t)[pos]? = some (byte 'e') ∨ (bytes t)[pos]? = some (byte 'E') then
        skipWhile (bytes t) isAsciiDigit
          (if (bytes t)[pos + 1]? = some (byte '+') ∨ (bytes t)[pos + 1]? = some (byte '-') then pos + 1 + 1
          else pos + 1) else pos) (if rest.head? = some 'e' ∨ rest.head? = some 'E' then
        (dropOne (fun c => c == '+' || c == '-') rest.tail).dropWhile Char.isDigit else rest) := by
  simp only [h.getElem?_eq_byte (d := 'e') rfl, h.getElem?_eq_byte (d := 'E') rfl]
  by_cases hexp : rest.head? = some 'e' ∨ rest.head? = some 'E'
  · rw [if_pos hexp, if_pos hexp]
    have htail : At t (pos + 1) rest.tail := by
      rcases hexp with he | hE
      · exact tail_at h rfl he
      · exact tail_at h rfl hE
    refine skipDigits_at (dropOne_at (fun d hd => ?_) ?_ htail)
    · rcases Bool.or_eq_true _ _ ▸ hd with hd | hd
      · rw [eq_of_beq hd]
        rfl
      · rw [eq_of_beq hd]
        rfl
    · rw [htail.getElem?_eq_byte rfl, htail.getElem?_eq_byte rfl]
      constructor
      · rintro (hd | hd)
        · exact ⟨_, hd, rfl⟩
        · exact ⟨_, hd, rfl⟩
      · rintro ⟨d, hd, hpd⟩
        rcases Bool.or_eq_true _ _ ▸ hpd with hpd | hpd
        · exact .inl (eq_of_beq hpd ▸ hd)
        · exact .inr (eq_of_beq hpd ▸ hd)
  · rw [if_neg hexp, if_neg hexp]
    exact h

theorem numberEnd_at : At t (numberEnd (bytes t) pos) (afterNumber rest) := by
  have hsign : At t (if (bytes t)[pos]? = some (byte '-') then pos + 1 else pos)
      (dropOne (· == '-') rest) := by
    refine dropOne_at (fun d hd => ?_) ?_ h
    · rw [eq_of_beq hd]
      rfl
    · rw [h.getElem?_eq_byte rfl]
      simp
  exact exponent_at (fraction_at (skipDigits_at hsign))

end

/-- An ASCII text stands at a position when its bytes do. -/
theorem isPrefixOf_bytes (hliteral : ∀ c ∈ literal, isAscii c = true) (text : List Char) :
    (bytes literal).isPrefixOf (bytes text) = literal.isPrefixOf text := by
  induction literal generalizing text with
  | nil => rfl
  | cons d literal ih =>
    have hd := hliteral d mem_cons_self
    have ih := ih fun c hc => hliteral c (mem_cons_of_mem _ hc)
    rw [bytes_cons, encode_ascii hd]
    cases text with
    | nil => rfl
    | cons c cs =>
      rw [bytes_cons, isPrefixOf_cons_cons]
      cases hc : isAscii c with
      | true =>
        have hbyte : (byte d == byte c) = (d == c) := by rw [Bool.eq_iff_iff, beq_iff_eq, beq_iff_eq, byte_inj hd hc]
        rw [encode_ascii hc, singleton_append, singleton_append, isPrefixOf_cons_cons, ih, hbyte]
      | false =>
        have hne : d ≠ c := by
          rintro rfl
          rw [hd] at hc
          cases hc
        rw [beq_false_of_ne hne, Bool.false_and]
        obtain ⟨b, bs, hbs⟩ := exists_cons_of_length_pos (length_encode_pos c)
        have hlarge := le_of_mem_encode hc (b := b) (by rw [hbs]; exact mem_cons_self)
        rw [hbs, singleton_append, cons_append, isPrefixOf_cons_cons,
          beq_false_of_ne (ne_byte_of_large hlarge hd).symm, Bool.false_and]

theorem literalAt_eq (h : At t pos rest) (literal : String) (hliteral : literal.toList.all isAscii = true) :
    literalAt (bytes t) pos literal = literal.toList.isPrefixOf rest := by
  rw [literalAt, h.drop, isPrefixOf_bytes (all_eq_true.mp hliteral)]

/-- The position behind a literal. -/
theorem literal_at (h : At t pos rest) (hliteral : ∀ c ∈ literal, isAscii c = true)
    (hstands : literal.isPrefixOf rest = true) : At t (pos + literal.length) (rest.drop literal.length) := by
  induction literal generalizing pos rest with
  | nil => exact h
  | cons d literal ih =>
    cases rest with
    | nil => cases hstands
    | cons c cs =>
      rw [isPrefixOf_cons_cons, Bool.and_eq_true] at hstands
      have hc : isAscii c = true := eq_of_beq hstands.1 ▸ hliteral d mem_cons_self
      have hnext := ih (h.next_ascii hc) (fun c hc => hliteral c (mem_cons_of_mem _ hc)) hstands.2
      rw [length_cons, drop_succ_cons, add_comm literal.length, ← add_assoc]
      exact hnext

/-! ## Values -/

theorem lands_ite {P : Prop} [Decidable P] {pos' : ℕ} {after after' : Option (List Char)}
    (hyes : P → Lands t pos after) (hno : ¬ P → Lands t pos' after') :
    Lands t (if P then pos else pos') (if P then after else after') := by
  by_cases hP : P
  · rw [if_pos hP, if_pos hP]
    exact hyes hP
  · rw [if_neg hP, if_neg hP]
    exact hno hP

/-- The end of a string value. -/
theorem string_at (h : At t pos ('"' :: r)) : Lands t
      (if closingQuote (bytes t) (pos + 1) < (bytes t).length then closingQuote (bytes t) (pos + 1) + 1
      else (bytes t).length) (some ((closeString false r).elim [] Prod.snd)) := by
  have hnext := h.next_ascii isAscii_quote
  have hclose := closingQuote_at false hnext (backslashCount_behind_quote h)
  cases hstring : closeString false r with
  | none =>
    rw [hstring, Option.elim_none] at hclose
    rw [if_neg (by omega), Option.elim_none]
    exact ⟨t, (append_nil t).symm, rfl⟩
  | some parts =>
    obtain ⟨inside, rest⟩ := parts
    rw [hstring, Option.elim_some] at hclose
    rw [closeString_eq hstring] at hnext
    have hend := hnext.append
    rw [hclose, if_pos hend.lt]
    exact hend.next_ascii isAscii_quote

/-- Where `find_json_value_end` ends. -/
theorem findJsonValueEnd_at (h : At t pos (c :: r)) :
    Lands t (findJsonValueEnd (bytes t) pos) (afterValue (c :: r)) := by
  have hlt := h.lt
  have hget := getElem?_eq_getElem hlt
  have hfirst : ∀ d, isAscii d = true → ((bytes t)[pos] = byte d ↔ c = d) := by
    intro d hd
    have hiff := h.getElem?_eq_byte hd
    rwa [hget, Option.some.injEq, head?_cons, Option.some.injEq] at hiff
  have hdigit : isAsciiDigit (bytes t)[pos] = c.isDigit := by
    cases hc : isAscii c with
    | true => rw [(hfirst c hc).mpr rfl, isAsciiDigit_eq, isDigit_eq, toNat_byte hc]
    | false =>
      obtain ⟨b, hb, hlarge⟩ := h.large hc (length_encode_pos c)
      have hbyte : (bytes t)[pos] = b := Option.some.inj (hget.symm.trans hb)
      have hle := not_isAscii hc
      rw [hbyte, isAsciiDigit_eq, isDigit_eq, decide_eq_false (p := b.toNat ≤ 57) (by omega),
        decide_eq_false (p := c.toNat ≤ 57) (by omega), Bool.and_false, Bool.and_false]
  have hliteral : ∀ literal : String, literal.toList.all isAscii = true → literal.toList.isPrefixOf (c :: r) = true →
        Lands t (pos + literal.toList.length) (some ((c :: r).drop literal.toList.length)) :=
    fun literal hl hp => literal_at h (all_eq_true.mp hl) hp
  rw [findJsonValueEnd, dif_pos hlt, afterValue]
  simp only [hfirst '"' rfl, hfirst '\x7b' rfl, hfirst '[' rfl, hfirst '-' rfl, hdigit,
    literalAt_eq h "null" (by decide), literalAt_eq h "true" (by decide), literalAt_eq h "false" (by decide)]
  refine lands_ite (fun hquote => ?_) fun _ => lands_ite (fun hbrace => ?_) fun _ =>
    lands_ite (fun hbracket => ?_) fun _ => lands_ite (hliteral "null" (by decide)) fun _ =>
    lands_ite (hliteral "true" (by decide)) fun _ => lands_ite (hliteral "false" (by decide)) fun _ =>
    lands_ite (fun _ => numberEnd_at h) fun _ => ?_
  · subst hquote
    exact string_at h
  · exact matchingClose_at rfl rfl none (h.next_ascii (hbrace ▸ rfl)) (by simp)
  · exact matchingClose_at rfl rfl none (h.next_ascii (hbracket ▸ rfl)) (by simp)
  · -- Any other first character: one byte, which is all of it only if it is ASCII.
    cases hc : isAscii c with
    | true =>
      rw [if_pos rfl]
      exact h.next_ascii hc
    | false =>
      rw [if_neg Bool.false_ne_true]
      obtain ⟨a, rfl, rfl⟩ := h
      exact splitAt?_inside a r hc

theorem le_skipWhile (bs : List UInt8) (p : UInt8 → Bool) (pos : ℕ) : pos ≤ skipWhile bs p pos := by
  fun_induction skipWhile bs p pos with
  | case1 pos _ _ ih => exact le_of_succ_le ih
  | case2 pos _ _ | case3 pos _ => exact le_rfl

theorem le_matchingClose (bs : List UInt8) (opening closing : UInt8) (pos depth : ℕ) :
    pos ≤ matchingClose bs opening closing pos depth := by
  fun_induction matchingClose bs opening closing pos depth with
  | case1 pos depth _ _ ih | case2 pos depth _ _ _ ih | case4 pos depth _ _ _ _ ih => exact le_of_succ_le ih
  | case3 pos depth _ _ _ _ hle ih => omega
  | case5 pos depth _ => exact le_rfl

/-- A number is not empty. -/
theorem lt_numberEnd (hlt : pos < bs.length) (hfirst : bs[pos] = byte '-' ∨ isAsciiDigit bs[pos] = true) :
    pos < numberEnd bs pos := by
  have hdigits : pos < skipWhile bs isAsciiDigit (if bs[pos]? = some (byte '-') then pos + 1 else pos) := by
    by_cases hsign : bs[pos]? = some (byte '-')
    · rw [if_pos hsign]
      exact le_skipWhile bs isAsciiDigit (pos + 1)
    · rw [if_neg hsign]
      have hdigit : isAsciiDigit bs[pos] = true := by
        refine hfirst.resolve_left fun heq => hsign ?_
        rw [getElem?_eq_getElem hlt, heq]
      rw [skipWhile, dif_pos hlt, if_pos hdigit]
      exact le_skipWhile bs isAsciiDigit (pos + 1)
  unfold numberEnd
  dsimp only
  generalize skipWhile bs isAsciiDigit (if bs[pos]? = some (byte '-') then pos + 1 else pos) = pos₁ at hdigits ⊢
  have hfraction : pos < if bs[pos₁]? = some (byte '.') then skipWhile bs isAsciiDigit (pos₁ + 1) else pos₁ := by
    split
    · exact lt_of_lt_of_le (lt_succ_of_lt hdigits) (le_skipWhile bs isAsciiDigit (pos₁ + 1))
    · exact hdigits
  generalize (if bs[pos₁]? = some (byte '.') then skipWhile bs isAsciiDigit (pos₁ + 1)
    else pos₁) = pos₂ at hfraction ⊢
  split
  · refine lt_of_lt_of_le ?_ (le_skipWhile bs isAsciiDigit _)
    split
    · omega
    · omega
  · exact hfraction

/-- A value is not empty. -/
theorem lt_findJsonValueEnd (hlt : pos < bs.length) : pos < findJsonValueEnd bs pos := by
  have hquote := le_closingQuote bs (pos + 1)
  rw [findJsonValueEnd, dif_pos hlt]
  dsimp only
  split
  · split
    · omega
    · exact hlt
  · split
    · exact le_matchingClose bs _ _ (pos + 1) 1
    · split
      · exact le_matchingClose bs _ _ (pos + 1) 1
      · split
        · omega
        · split
          · omega
          · split
            · omega
            · split
              · exact lt_numberEnd hlt ‹_›
              · exact lt_succ_self pos

/-! ## The course over a text -/

theorem not_trapped_nil : ¬ Trapped [] := fun h => by cases h

theorem trapped_append (hplain : '"' ∉ plain) : Trapped (plain ++ rest) ↔ Trapped rest := by
  induction plain with
  | nil => exact Iff.rfl
  | cons c plain ih =>
    rw [mem_cons, not_or] at hplain
    rw [cons_append, ← ih hplain.2]
    constructor
    · intro h
      cases h with
      | text _ h => exact h
      | string _ _ _ | value _ _ _ _ _ | caught _ _ _ _ => exact absurd rfl hplain.1
    · exact Trapped.text (Ne.symm hplain.1)

section
variable {cs key value : List Char}

/-- A string that is never closed ends the course. -/
theorem not_trapped_open (hstring : closeString false cs = none) : ¬ Trapped ('"' :: cs) := by
  intro h
  cases h with
  | text hc _ => exact hc rfl
  | string hclose _ _ | value hclose _ _ _ _ | caught hclose _ _ _ =>
    rw [hstring] at hclose
    cases hclose

/-- A string that is not a sensitive key before a colon is passed. -/
theorem trapped_string (hstring : closeString false cs = some (key, rest))
    (hkey : isSensitiveKey key = false ∨ afterColon rest = none) : Trapped ('"' :: cs) ↔ Trapped rest := by
  refine ⟨fun h => ?_, Trapped.string hstring hkey⟩
  cases h with
  | text hc _ => exact absurd rfl hc
  | string hclose _ h =>
    rw [hstring] at hclose
    cases hclose
    exact h
  | value hclose hsensitive hcolon _ _ | caught hclose hsensitive hcolon _ =>
    rw [hstring] at hclose
    cases hclose
    rcases hkey with hkey | hkey
    · rw [hsensitive] at hkey
      cases hkey
    · rw [hcolon] at hkey
      cases hkey

/-- Behind a sensitive key and a colon the value decides. -/
theorem trapped_value (hstring : closeString false cs = some (key, rest))
    (hkey : isSensitiveKey key = true) (hcolon : afterColon rest = some value) :
    Trapped ('"' :: cs) ↔ ∀ rest' ∈ afterValue value, Trapped rest' := by
  constructor
  · intro h rest' hrest
    cases h with
    | text hc _ => exact absurd rfl hc
    | string hclose hneither _ =>
      rw [hstring] at hclose
      cases hclose
      rcases hneither with hneither | hneither
      · rw [hkey] at hneither
        cases hneither
      · rw [hcolon] at hneither
        cases hneither
    | value hclose _ hcolon' hvalue h =>
      rw [hstring] at hclose
      cases hclose
      rw [hcolon] at hcolon'
      cases hcolon'
      rw [Option.mem_def.mp hrest] at hvalue
      cases hvalue
      exact h
    | caught hclose _ hcolon' hvalue =>
      rw [hstring] at hclose
      cases hclose
      rw [hcolon] at hcolon'
      cases hcolon'
      rw [Option.mem_def.mp hrest] at hvalue
      cases hvalue
  · intro h
    cases hvalue : afterValue value with
    | none => exact Trapped.caught hstring hkey hcolon hvalue
    | some rest' => exact Trapped.value hstring hkey hcolon hvalue (h rest' hvalue)

end

/-- No byte of a text without quotes is a quote. -/
theorem ne_quote_of_mem (hplain : '"' ∉ plain) : ∀ b ∈ bytes plain, (b == byte '"') = false := by
  intro b hb
  obtain ⟨c, hc, hbc⟩ := mem_flatMap.mp hb
  refine beq_false_of_ne ?_
  cases hascii : isAscii c with
  | true =>
    rw [encode_ascii hascii, mem_singleton] at hbc
    rw [hbc, Ne, byte_inj hascii isAscii_quote]
    rintro rfl
    exact hplain hc
  | false => exact ne_byte_of_large (le_of_mem_encode hascii hbc) isAscii_quote

/-- Where the next key starts. -/
theorem findIdx?_quote (hplain : '"' ∉ plain) (cs : List Char) :
    (bytes (plain ++ '"' :: cs)).findIdx? (· == byte '"') = some (bytes plain).length := by
  have hnone : (bytes plain).findIdx? (· == byte '"') = none :=
    findIdx?_eq_none_iff.mpr (ne_quote_of_mem hplain)
  rw [bytes_append, findIdx?_append, hnone, bytes_cons,
    encode_ascii isAscii_quote, singleton_append, findIdx?_cons, if_pos (beq_self_eq_true _)]
  simp

/-- Slicing at a position. -/
theorem slice_at (h : At t pos rest) : ∃ a, t = a ++ rest ∧ slice t pos = .ok (a, rest) := by
  obtain ⟨a, ha, hsplit⟩ := h.split
  exact ⟨a, ha, by rw [slice, hsplit]⟩

/-- The bytes between two positions. -/
theorem take_drop_at (h : At t pos (inside ++ r)) : ((bytes t).drop pos).take (bytes inside).length = bytes inside := by
  rw [h.drop, bytes_append, take_left]

/-- The value behind a sensitive key: what the round does is decided by what follows the key. -/
theorem redactValue_spec {keyEndPos : ℕ} (h : At result (keyEndPos + 1) rest) :
    (afterColon rest = none ∧ redactValue result keyEndPos = .ok (.passed (keyEndPos + 1))) ∨
    (afterColon rest = some [] ∧ redactValue result keyEndPos = .ok .finished) ∨
    (∃ value, afterColon rest = some value ∧ afterValue value = none ∧ redactValue result keyEndPos = .error .panics) ∨
    ∃ value rest' result' searchFrom, afterColon rest = some value ∧ afterValue value = some rest' ∧
      redactValue result keyEndPos = .ok (.replaced result' searchFrom) ∧
      At result' searchFrom rest' ∧ (bytes rest').length ≤ (bytes rest).length := by
  have hcolon := skipSpace_at h
  unfold redactValue afterColon
  have hhead := hcolon.getElem?_eq_byte (d := ':') rfl
  cases hrest : rest.dropWhile isSpace with
  | nil =>
    rw [hrest] at hhead
    rw [if_pos fun heq => by cases hhead.mp heq]
    exact .inl ⟨rfl, rfl⟩
  | cons c cs =>
    rw [hrest, head?_cons, Option.some.injEq] at hhead
    rw [hrest] at hcolon
    dsimp only
    by_cases hc : c = ':'
    · subst hc
      rw [if_neg (not_not.mpr (hhead.mpr rfl)), if_pos rfl]
      have hstart := skipSpace_at (hcolon.next_ascii rfl)
      have hle := le_skipWhile (bytes result) isAsciiWhitespace (keyEndPos + 1)
      have hle' := le_skipWhile (bytes result) isAsciiWhitespace
        (skipWhile (bytes result) isAsciiWhitespace (keyEndPos + 1) + 1)
      generalize skipWhile (bytes result) isAsciiWhitespace
        (skipWhile (bytes result) isAsciiWhitespace (keyEndPos + 1) + 1) = valueStart at hstart hle' ⊢
      generalize cs.dropWhile isSpace = value at hstart ⊢
      cases value with
      | nil =>
        rw [if_pos hstart.eq_length.ge]
        exact .inr (.inl ⟨rfl, rfl⟩)
      | cons d ds =>
        have hlt := hstart.lt
        have hbehind := lt_findJsonValueEnd hlt
        have hend := findJsonValueEnd_at hstart
        rw [if_neg (not_le.mpr hlt), if_neg (not_le.mpr hbehind)]
        obtain ⟨before, hbefore, hslice⟩ := slice_at hstart
        rw [hslice]
        cases hvalue : afterValue (d :: ds) with
        | none =>
          rw [hvalue] at hend
          have hpanics : slice result (findJsonValueEnd (bytes result) valueStart) = .error .panics := by
            rw [slice, show splitAt? _ _ = none from hend]
          refine .inr (.inr (.inl ⟨d :: ds, rfl, hvalue, ?_⟩))
          simp only [bind, Except.bind, hpanics]
        | some rest' =>
          rw [hvalue] at hend
          obtain ⟨_, _, hslice'⟩ := slice_at (show At _ _ rest' from hend)
          refine .inr (.inr (.inr ⟨d :: ds, rest', before ++ "[redacted]".toList ++ rest',
            valueStart + "[redacted]".length, rfl, hvalue, ?_, ?_, ?_⟩))
          · simp only [bind, Except.bind, hslice']
            rfl
          · refine ⟨before ++ "[redacted]".toList, rfl, ?_⟩
            have hlen : (bytes before).length = valueStart := by
              have htotal := hstart.length_eq
              rw [hbefore, bytes_append, length_append] at htotal
              omega
            rw [bytes_append, length_append, hlen]
            rfl
          · have hfrom := h.length_eq
            have hto := (show At _ _ rest' from hend).length_eq
            omega
    · rw [if_pos fun heq => hc (hhead.mp heq), if_neg hc]
      exact .inl ⟨rfl, rfl⟩

/-- A computation panics under a condition and gives a result otherwise. -/
def Settles {α : Type} (outcome : Except Stop α) (trapped : Prop) : Prop :=
  (trapped → outcome = .error .panics) ∧ (¬ trapped → ∃ x, outcome = .ok x)

theorem settles_ok {x : α} (h : ¬ trapped) : Settles (.ok x) trapped := ⟨fun ht => absurd ht h, fun _ => ⟨x, rfl⟩⟩

theorem settles_panics (h : trapped) :
    Settles (.error .panics : Except Stop α) trapped := ⟨fun _ => rfl, fun ht => absurd h ht⟩

variable {outcome : Except Stop α} {first : Except Stop α}

theorem Settles.congr {trapped' : Prop} (h : Settles outcome trapped)
    (hiff : trapped' ↔ trapped) : Settles outcome trapped' :=
  ⟨fun ht => h.1 (hiff.mp ht), fun ht => h.2 fun ht' => ht (hiff.mpr ht')⟩

/-- Two computations, one after the other. -/
theorem Settles.bind {β : Type} {next : α → Except Stop β} {trapped' : Prop}
    (h : Settles first trapped) (hnext : ∀ x, first = .ok x → Settles (next x) trapped') :
    Settles (first >>= next) (trapped ∨ trapped') := by
  by_cases htrapped : trapped
  · rw [h.1 htrapped]
    exact settles_panics (.inl htrapped)
  · obtain ⟨x, hx⟩ := h.2 htrapped
    refine congr ?_ (or_iff_right htrapped)
    have hthen := hnext x hx
    rw [hx]
    exact hthen

theorem Settles.map {β : Type} {next : α → β} (h : Settles first trapped) :
    Settles (first >>= fun x => .ok (next x)) trapped :=
  (h.bind fun _ _ => settles_ok not_false).congr (by rw [or_false])

/-- One round of the loop: it leaves the loop in a text that does not trap it, moves on to a text that
traps it if this one does, or panics in a text that traps it. -/
theorem redactRound_spec {searchFrom : ℕ} (h : At result searchFrom rest) :
    (¬ Trapped rest ∧ redactRound result searchFrom = .ok .finished) ∨
    (Trapped rest ∧ redactRound result searchFrom = .error .panics) ∨
    ∃ rest' result' searchFrom', (Trapped rest ↔ Trapped rest') ∧
      (bytes rest').length < (bytes rest).length ∧ At result' searchFrom' rest' ∧
      (redactRound result searchFrom = .ok (.passed searchFrom') ∧ result' = result ∨
        redactRound result searchFrom = .ok (.replaced result' searchFrom')) := by
  obtain ⟨a, -, hslice⟩ := slice_at h
  by_cases hquote : '"' ∈ rest
  · obtain ⟨plain, cs, rfl, hplain⟩ := eq_append_cons_of_mem hquote
    rw [trapped_append hplain]
    have hkey := (at_append plain ('"' :: cs)).next_ascii isAscii_quote
    have hclose := closingQuote_at false hkey (backslashCount_behind_quote (at_append plain ('"' :: cs)))
    unfold redactRound
    simp only [hslice, findIdx?_quote hplain, bind, Except.bind]
    cases hstring : closeString false cs with
    | none =>
      rw [hstring, Option.elim_none] at hclose
      rw [hclose, if_pos le_rfl]
      exact .inl ⟨not_trapped_open hstring, rfl⟩
    | some parts =>
      obtain ⟨key, rest⟩ := parts
      rw [hstring, Option.elim_some] at hclose
      dsimp only at hclose
      have hcs := closeString_eq hstring
      -- The positions of the key and of what follows it, in the whole text.
      have hbehind : At result (searchFrom + (bytes plain).length + 1 + (bytes key).length + 1) rest := by
        rw [hcs] at h
        exact ((h.append.next_ascii isAscii_quote).append).next_ascii isAscii_quote
      have hname : ((bytes result).drop (searchFrom + (bytes plain).length + 1)).take
          (bytes key).length = bytes key := by
        rw [hcs] at h
        exact take_drop_at (h.append.next_ascii isAscii_quote)
      have hlen : (bytes (plain ++ '"' :: cs)).length =
          (bytes plain).length + 1 + (bytes key).length + 1 + (bytes rest).length := by
        rw [hcs]
        simp only [bytes_append, bytes_cons, encode_ascii isAscii_quote, length_append, length_singleton]
        omega
      have hend : searchFrom + ((bytes plain).length + 1 + (bytes key).length) =
          searchFrom + (bytes plain).length + 1 + (bytes key).length := by omega
      have hwidth : searchFrom + (bytes plain).length + 1 + (bytes key).length -
          (searchFrom + (bytes plain).length + 1) = (bytes key).length := by omega
      rw [hclose, if_neg (by omega), hend, hwidth, hname]
      have hshorter : (bytes rest).length < (bytes (plain ++ '"' :: cs)).length := by omega
      cases hsensitive : isSensitiveKey key with
      | false =>
        have hiff := trapped_string hstring (.inl hsensitive)
        refine .inr (.inr ⟨rest, result, _, hiff, hshorter, hbehind, .inl ⟨?_, rfl⟩⟩)
        unfold isSensitiveKey at hsensitive
        cases hdecode : decodeJsonEscapeSequences (bytes key) with
        | none => rfl
        | some name =>
          rw [hdecode, Option.any_some] at hsensitive
          simp only [hsensitive, Bool.not_false, if_true]
          rfl
      | true =>
        obtain ⟨name, hdecode, hfield⟩ : ∃ name, decodeJsonEscapeSequences (bytes key) = some name ∧
            isSensitiveField (String.ofList name) = true := by
          exact Option.any_eq_true _ _ |>.mp hsensitive
        rw [hdecode]
        simp only [hfield, Bool.not_true, Bool.false_eq_true, if_false]
        rcases redactValue_spec hbehind with ⟨hcolon, hround⟩ | ⟨hcolon, hround⟩ |
          ⟨value, hcolon, hvalue, hround⟩ | ⟨value, rest', result', from', hcolon, hvalue, hround, hat, hle⟩
        · exact .inr (.inr ⟨rest, result, _, trapped_string hstring (.inr hcolon), hshorter, hbehind,
            .inl ⟨hround, rfl⟩⟩)
        · refine .inl ⟨fun htrapped => ?_, hround⟩
          exact not_trapped_nil ((trapped_value hstring hsensitive hcolon).mp htrapped [] rfl)
        · exact .inr (.inl ⟨Trapped.caught hstring hsensitive hcolon hvalue, hround⟩)
        · refine .inr (.inr ⟨rest', result', from', ?_, by omega, hat, .inr hround⟩)
          rw [trapped_value hstring hsensitive hcolon, hvalue]
          simp
  · -- No quote is left.
    have hnone : (bytes rest).findIdx? (· == byte '"') = none :=
      findIdx?_eq_none_iff.mpr (ne_quote_of_mem hquote)
    refine .inl ⟨fun htrapped => ?_, ?_⟩
    · rw [← append_nil rest, trapped_append hquote] at htrapped
      exact not_trapped_nil htrapped
    · unfold redactRound
      simp only [hslice, hnone, bind, Except.bind]
      rfl

/-- The scanner's course from a position on: it panics in the texts that trap it, and gives a result
for all others. -/
theorem redactFallbackFrom_spec {steps : ℕ} {searchFrom : ℕ} {state : NormalizationState}
    (h : At result searchFrom rest) (hsteps : (bytes rest).length < steps) :
    Settles (redactFallbackFrom steps result searchFrom state) (Trapped rest) := by
  induction steps generalizing rest result searchFrom state with
  | zero => cases hsteps
  | succ steps ih =>
    rw [redactFallbackFrom]
    by_cases hend : (bytes result).length ≤ searchFrom
    · rw [if_pos hend]
      have hlen := h.length_eq
      have hrest : rest = [] := by
        cases rest with
        | nil => rfl
        | cons c cs =>
          have hlt := h.lt
          omega
      exact settles_ok (hrest ▸ not_trapped_nil)
    · rw [if_neg hend]
      rcases redactRound_spec h with ⟨htrapped, hround⟩ | ⟨htrapped, hround⟩ |
        ⟨rest', result', from', hiff, hlt, hat, hround⟩
      · rw [hround]
        exact settles_ok htrapped
      · rw [hround]
        exact settles_panics htrapped
      · rcases hround with ⟨hround, rfl⟩ | hround
        · rw [hround]
          exact (ih hat (by omega)).congr hiff
        · rw [hround]
          exact (ih hat (by omega)).congr hiff

/-- `redact_json_secrets_fallback` panics in exactly the texts that trap it, and ends in all others. -/
theorem redactJsonSecretsFallback_spec (value : List Char) (state : NormalizationState) :
    Settles (redactJsonSecretsFallback value state) (Trapped value) :=
  redactFallbackFrom_spec (at_zero value) (lt_succ_self _)

/-! ## Public texts -/

/-- What `collapse` leaves of a text, its ends stripped. -/
def collapsed (maxChars : ℕ) (value : List Char) : List Char :=
  Text.strip Text.isWhitespace (collapse maxChars value 0 0 false {}).1

/-- The texts that `public_text` cannot get through: what is left of the text after its white space is
collapsed and its URLs are redacted is not JSON, and traps the scanner. -/
def Catches (lib : Library) (maxChars : ℕ) (value : List Char) : Prop :=
  ∃ text state, redactUrlsInText lib ((collapsed maxChars value).length + 1)
      (collapsed maxChars value) {} = .ok (text, state) ∧
    lib.fromStr (String.ofList text) = none ∧ Trapped text

theorem collapse_fst (maxChars : ℕ) (cs : List Char) (index outputChars : ℕ) (previousSpace : Bool)
    (state state' : NormalizationState) : (collapse maxChars cs index outputChars previousSpace state).1 =
      (collapse maxChars cs index outputChars previousSpace state').1 := by
  induction cs generalizing index outputChars previousSpace state state' with
  | nil => rfl
  | cons c cs ih =>
    unfold collapse
    by_cases hend : max (min (maxChars * 4) (2 ^ 64 - 1)) maxChars ≤ index ∨ maxChars < outputChars
    · rw [if_pos hend, if_pos hend]
    · rw [if_neg hend, if_neg hend]
      generalize (if (isControl c || Text.isWhitespace c) = true then ' ' else c) = normalized
      by_cases hspace : normalized = ' ' ∧ previousSpace = true
      · rw [if_pos hspace, if_pos hspace]
        exact ih _ _ _ state state'
      · rw [if_neg hspace, if_neg hspace]
        exact congrArg (normalized :: ·) (ih _ _ _ state state')

/-- The text that stands for a URL does not depend on the state. -/
theorem publicUrl_fst (lib : Library) (value : String) (state state' : NormalizationState) :
    (publicUrl lib value state).1 = (publicUrl lib value state').1 := by
  unfold publicUrl
  split
  · rfl
  · split
    · rfl
    · dsimp only
      split
      · rfl
      · rfl

/-- A character whose lower case is `h` is not white space. -/
theorem not_isWhitespace_of_toLower {c : Char} (h : c.toLower = 'h') : Text.isWhitespace c = false := by
  by_cases hupper : c.val ≥ 'A'.val ∧ c.val ≤ 'Z'.val
  · have hlow : 65 ≤ c.toNat := UInt32.le_iff_toNat_le.mp hupper.1
    have hhigh : c.toNat ≤ 90 := UInt32.le_iff_toNat_le.mp hupper.2
    unfold Text.isWhitespace
    simp
    omega
  · unfold Char.toLower at h
    rw [dif_neg hupper] at h
    rw [h]
    decide

/-- A URL is found in the text that is searched, and does not start with white space. -/
theorem findUrl_eq {before urlAndRest : List Char} (h : findUrl remainder = some (before, urlAndRest)) :
    urlAndRest.length ≤ remainder.length ∧ ∃ c cs, urlAndRest = c :: cs ∧ Text.isWhitespace c = false := by
  induction remainder generalizing before with
  | nil => cases h
  | cons c cs ih =>
    unfold findUrl at h
    dsimp only at h
    split at h
    · next hstarts =>
      cases h
      refine ⟨le_rfl, c, cs, rfl, not_isWhitespace_of_toLower ?_⟩
      rw [map_cons] at hstarts
      rcases Bool.or_eq_true _ _ ▸ hstarts with hhttp | hhttps
      · exact (eq_of_beq (Bool.and_eq_true _ _ ▸ hhttp).1).symm
      · exact (eq_of_beq (Bool.and_eq_true _ _ ▸ hhttps).1).symm
    · obtain ⟨⟨before', rest⟩, hfound, heq⟩ := Option.map_eq_some_iff.mp h
      cases heq
      obtain ⟨hle, hstart⟩ := ih hfound
      exact ⟨le_succ_of_le hle, hstart⟩

/-- `redact_urls_in_text` ends, and its text does not depend on the state. -/
theorem redactUrlsInText_spec (lib : Library) {steps : ℕ} (hsteps : remainder.length < steps) :
    ∃ text, ∀ state, ∃ state', redactUrlsInText lib steps remainder state = .ok (text, state') := by
  induction steps generalizing remainder with
  | zero => cases hsteps
  | succ steps ih =>
    cases hfind : findUrl remainder with
    | none => exact ⟨remainder, fun state => ⟨state, by rw [redactUrlsInText, hfind]⟩⟩
    | some found =>
      obtain ⟨before, urlAndRest⟩ := found
      obtain ⟨hle, c, cs, rfl, hc⟩ := findUrl_eq hfind
      have htoken : 0 < ((c :: cs).takeWhile fun c => !Text.isWhitespace c).length := by
        rw [takeWhile_cons_of_pos (by rw [hc]; rfl), length_cons]
        exact succ_pos _
      have hpos : 0 < (c :: cs).length := succ_pos _
      have hshorter : ((c :: cs).drop ((c :: cs).takeWhile fun c => !Text.isWhitespace c).length).length < steps := by
        rw [length_drop]
        omega
      obtain ⟨rest, hrest⟩ := ih hshorter
      let token := (c :: cs).takeWhile fun c => !Text.isWhitespace c
      let trimmed := (token.reverse.dropWhile isUrlTrailer).reverse
      refine ⟨before ++ (publicUrl lib (String.ofList trimmed) {}).1 ++ token.drop trimmed.length ++ rest,
        fun state => ?_⟩
      obtain ⟨state', hstate⟩ := hrest (publicUrl lib (String.ofList trimmed) state).2
      refine ⟨state', ?_⟩
      rw [redactUrlsInText, hfind]
      simp only [bind, Except.bind, token, trimmed] at hstate ⊢
      rw [hstate, publicUrl_fst lib _ state {}]

/-- `public_text` panics in the texts that catch it, and gives a text for all others. -/
theorem publicText_spec (lib : Library) (value : List Char) (maxChars : ℕ) (state : NormalizationState) :
    Settles (publicText lib value maxChars state) (Catches lib maxChars value) := by
  obtain ⟨text, htext⟩ := redactUrlsInText_spec lib (lt_succ_self (collapsed maxChars value).length)
  obtain ⟨state₀, hstate₀⟩ := htext {}
  have hcatches : Catches lib maxChars value ↔ lib.fromStr (String.ofList text) = none ∧ Trapped text := by
    constructor
    · rintro ⟨text', state', hurls, hjson, htrapped⟩
      rw [hstate₀] at hurls
      cases hurls
      exact ⟨hjson, htrapped⟩
    · rintro ⟨hjson, htrapped⟩
      exact ⟨text, state₀, hstate₀, hjson, htrapped⟩
  refine Settles.congr ?_ hcatches
  obtain ⟨state₁, hstate₁⟩ := htext (collapse maxChars value 0 0 false state).2
  rw [collapsed, collapse_fst maxChars value 0 0 false {} state] at hstate₁
  unfold publicText
  simp only [bind, Except.bind, hstate₁, redactJsonSecrets]
  cases hjson : lib.fromStr (String.ofList text) with
  | some json => exact settles_ok (fun h => by cases h.1)
  | none =>
    obtain ⟨hpanics, hreturns⟩ := redactJsonSecretsFallback_spec text state₁
    constructor
    · intro h
      rw [hpanics h.2]
    · intro h
      obtain ⟨x, hx⟩ := hreturns fun htrapped => h ⟨rfl, htrapped⟩
      rw [hx]
      exact ⟨_, rfl⟩

end Clawhip.Http
