import Clawhip.Json
import Clawhip.Lib.Text
import Clawhip.Lib.Utf8

/-!
# Redaction of public texts

`public_text` of `src/sink/http.rs` and the three redactors under it. The scanner for texts that are
not JSON works on byte positions, as the source does, and slices the text at them; a slice off the
character boundaries panics. Lengths and positions stay below `isize::MAX` in the source, so they are
natural numbers here, and the depth of a value is an `i32` that wraps.
-/

namespace Clawhip.Http

open Utf8 (byte bytes splitAt?)

structure NormalizationState where
  redacted : Bool := false
  truncated : Bool := false

/-- Why a computation gives nothing: it panicked, or its loop had more steps than it was given. -/
inductive Stop where
  | panics
  | unfinished

/-- The parts of a `reqwest::Url`, as its accessors give them. -/
structure Url where
  scheme : String
  hostStr : Option String
  port : Option ℕ
  username : String
  password : Option String
  path : String
  query : Option String
  fragment : Option String
  asStr : String

/-- What the sink takes from libraries: `Url::parse`, `serde_json::from_str`, and the parsing, making
and printing of points in time. -/
structure Library where
  parseUrl : String → Option Url
  fromStr : String → Option Json
  parseRfc3339 : String → Option ℤ
  fromUnixTimestamp : ℤ → Option ℤ
  formatRfc3339 : ℤ → Option String

def MAX_PUBLIC_STRING_CHARS : ℕ := 512

def isSensitiveField (key : String) : Bool :=
  let key := Text.toAsciiLowercase key
  ["token", "secret", "password", "passwd", "authorization", "credential", "cookie", "webhook",
      "api"].any (Text.contains key) ||
    Text.endsWith key "_path" ||
    ["command", "cwd", "directory", "event_payload", "payload", "raw", "tool_input",
      "tool_response", "transcript_path", "worktree_path"].contains key

def truncateChars (value : List Char) (maxChars : ℕ) : List Char :=
  if value.length ≤ maxChars then value else value.take (maxChars - 1) ++ ['…']

/-! ## URLs -/

def redactedUrlFingerprint (lib : Library) (url : String) : String :=
  let host := (do
    let parsed ← lib.parseUrl url
    let host ← parsed.hostStr
    let host := if Text.contains host ":" then "[" ++ host ++ "]" else host
    return match parsed.port with
      | some port => host ++ ":" ++ toString port
      | none => host).getD "unknown-host"
  host ++ "/redacted/" ++ Text.hex16 (Text.fnv1a64 url)

/-- `public_url`. Without query and fragment, dropping them leaves the URL as it is. -/
def publicUrl (lib : Library) (value : String) (state : NormalizationState) :
    List Char × NormalizationState :=
  match lib.parseUrl value with
  | none => ("[redacted-url]".toList, { state with redacted := true })
  | some url =>
    if !(["http", "https"].contains url.scheme) || url.hostStr.isNone then
      ("[redacted-url]".toList, { state with redacted := true })
    else
      let path := Text.toAsciiLowercase url.path
      if !url.username.isEmpty || url.password.isSome || url.query.isSome || url.fragment.isSome ||
          ["/webhook", "/hooks/", "token", "secret", "signature"].any (Text.contains path) then
        ((url.scheme ++ "://" ++ redactedUrlFingerprint lib value).toList, { state with redacted := true })
      else (truncateChars url.asStr.toList MAX_PUBLIC_STRING_CHARS, state)

/-- What stands before the first `http://` or `https://`, in any case, and the text from there on.
The source finds byte positions in the lower-case text, which are boundaries of the text itself: ASCII
lower case keeps every character's length. -/
def findUrl : List Char → Option (List Char × List Char)
  | [] => none
  | c :: cs =>
    let lower := (c :: cs).map Char.toLower
    if "http://".toList.isPrefixOf lower || "https://".toList.isPrefixOf lower then some ([], c :: cs)
    else (findUrl cs).map fun (before, rest) => (c :: before, rest)

/-- The characters that `redact_urls_in_text` leaves behind a URL. -/
def isUrlTrailer (c : Char) : Bool := ['.', ',', ';', ':', ')', ']', '\x7d', '>', '\'', '"'].contains c

/-- `redact_urls_in_text` from `remainder` on, for at most `steps` URLs. -/
def redactUrlsInText (lib : Library) :
    ℕ → List Char → NormalizationState → Except Stop (List Char × NormalizationState)
  | 0, _, _ => .error .unfinished
  | steps + 1, remainder, state =>
    match findUrl remainder with
    | none => .ok (remainder, state)
    | some (before, urlAndRest) => do
      let token := urlAndRest.takeWhile fun c => !Text.isWhitespace c
      let trimmed := (token.reverse.dropWhile isUrlTrailer).reverse
      let suffix := token.drop trimmed.length
      let (url, state) := publicUrl lib (String.ofList trimmed) state
      let (rest, state) ← redactUrlsInText lib steps (urlAndRest.drop token.length) state
      .ok (before ++ url ++ suffix ++ rest, state)

/-! ## JSON values -/

mutual

/-- `redact_sensitive_values`: the value after it, and whether it redacted anything. -/
def redactSensitiveValues : Json → Json × Bool
  | .object fields =>
    let (fields, redacted) := redactSensitiveFields fields
    (.object fields, redacted)
  | .array items =>
    let (items, redacted) := redactSensitiveItems items
    (.array items, redacted)
  | value => (value, false)

/-- `redact_sensitive_values` at the fields of an object. -/
def redactSensitiveFields : List (String × Json) → List (String × Json) × Bool
  | [] => ([], false)
  | (key, value) :: fields =>
    let (fields, redacted) := redactSensitiveFields fields
    if isSensitiveField key then ((key, .string "[redacted]") :: fields, true)
    else
      let (value, here) := redactSensitiveValues value
      ((key, value) :: fields, here || redacted)

/-- `redact_sensitive_values` at the items of an array. -/
def redactSensitiveItems : List Json → List Json × Bool
  | [] => ([], false)
  | item :: items =>
    let (item, here) := redactSensitiveValues item
    let (items, redacted) := redactSensitiveItems items
    (item :: items, here || redacted)

end

/-! ## The scanner -/

/-- `u8::is_ascii_whitespace`. -/
def isAsciiWhitespace (b : UInt8) : Bool := b == 0x20 || b == 9 || b == 10 || b == 12 || b == 13

/-- `u8::is_ascii_digit`. -/
def isAsciiDigit (b : UInt8) : Bool := byte '0' ≤ b && b ≤ byte '9'

/-- The value of a hexadecimal digit. -/
def hexValue (b : UInt8) : Option ℕ :=
  if byte '0' ≤ b && b ≤ byte '9' then some (b.toNat - 48)
  else if byte 'a' ≤ b && b ≤ byte 'f' then some (b.toNat - 87)
  else if byte 'A' ≤ b && b ≤ byte 'F' then some (b.toNat - 55)
  else none

/-- `u32::from_str_radix(_, 16)` of four bytes: a plus sign may stand in front. What is not a text
has no hexadecimal digits either. -/
def fromStrRadix16 (b₁ b₂ b₃ b₄ : UInt8) : Option ℕ := do
  let d₁ ← if b₁ = byte '+' then some 0 else hexValue b₁
  let d₂ ← hexValue b₂
  let d₃ ← hexValue b₃
  let d₄ ← hexValue b₄
  return ((d₁ * 16 + d₂) * 16 + d₃) * 16 + d₄

/-- `char::from_u32`. -/
def fromU32 (n : ℕ) : Option Char := if n.isValidChar then some (Char.ofNat n) else none

/-- `decode_json_escape_sequences`. A byte outside an escape is pushed as a character of its own. -/
def decodeJsonEscapeSequences : List UInt8 → Option (List Char)
  | [] => some []
  | [b] => some [Char.ofNat b.toNat]
  | b :: e :: rest =>
    if b = byte '\\' then
      if e = byte '"' ∨ e = byte '\\' ∨ e = byte '/' then
        (decodeJsonEscapeSequences rest).map (Char.ofNat e.toNat :: ·)
      else if e = byte 'b' then (decodeJsonEscapeSequences rest).map ('\x08' :: ·)
      else if e = byte 'f' then (decodeJsonEscapeSequences rest).map ('\x0c' :: ·)
      else if e = byte 'n' then (decodeJsonEscapeSequences rest).map ('\n' :: ·)
      else if e = byte 'r' then (decodeJsonEscapeSequences rest).map ('\r' :: ·)
      else if e = byte 't' then (decodeJsonEscapeSequences rest).map ('\t' :: ·)
      else if e = byte 'u' ∧ 4 ≤ rest.length then
        match rest with
        | b₁ :: b₂ :: b₃ :: b₄ :: rest' => do
          let c ← (fromStrRadix16 b₁ b₂ b₃ b₄).bind fromU32
          (decodeJsonEscapeSequences rest').map (c :: ·)
        | _ => none
      else
        (decodeJsonEscapeSequences rest).map fun decoded => '\\' :: Char.ofNat e.toNat :: decoded
    else (decodeJsonEscapeSequences (e :: rest)).map (Char.ofNat b.toNat :: ·)

/-- Move on while the bytes satisfy `p`. -/
def skipWhile (bs : List UInt8) (p : UInt8 → Bool) (pos : ℕ) : ℕ :=
  if h : pos < bs.length then
    if p bs[pos] then skipWhile bs p (pos + 1) else pos
  else pos
termination_by bs.length - pos

/-- `backslash_count`: the backslashes right before a position. -/
def backslashCount (bs : List UInt8) : ℕ → ℕ
  | 0 => 0
  | check + 1 => if bs[check]? = some (byte '\\') then backslashCount bs check + 1 else 0

/-- The first quote from a position on that is not escaped, or the end of the text. -/
def closingQuote (bs : List UInt8) (pos : ℕ) : ℕ :=
  if h : pos < bs.length then
    if bs[pos] = byte '"' ∧ backslashCount bs pos % 2 = 0 then pos else closingQuote bs (pos + 1)
  else pos
termination_by bs.length - pos

theorem le_closingQuote (bs : List UInt8) (pos : ℕ) : pos ≤ closingQuote bs pos := by
  fun_induction closingQuote bs pos with
  | case1 pos _ _ | case3 pos _ => exact le_rfl
  | case2 pos _ _ ih => exact Nat.le_of_succ_le ih

/-- `depth += 1` on `i32`. A depth that wraps is negative and ends the loop, as 0 does. -/
def deeper (depth : ℕ) : ℕ := if depth + 1 < 2 ^ 31 then depth + 1 else 0

/-- The end of an object or an array from `pos` on, `depth` closing brackets before it. A string is
skipped to its closing quote, and the position moves past that quote, or past the end. -/
def matchingClose (bs : List UInt8) (opening closing : UInt8) (pos depth : ℕ) : ℕ :=
  if h : pos < bs.length ∧ 0 < depth then
    if bs[pos] = opening then matchingClose bs opening closing (pos + 1) (deeper depth)
    else if bs[pos] = closing then matchingClose bs opening closing (pos + 1) (depth - 1)
    else if bs[pos] = byte '"' then
      have := le_closingQuote bs (pos + 1)
      matchingClose bs opening closing (closingQuote bs (pos + 1) + 1) depth
    else matchingClose bs opening closing (pos + 1) depth
  else pos
termination_by bs.length - pos

/-- The end of a number: a sign, digits, a fraction, an exponent. -/
def numberEnd (bs : List UInt8) (start : ℕ) : ℕ :=
  let pos := if bs[start]? = some (byte '-') then start + 1 else start
  let pos := skipWhile bs isAsciiDigit pos
  let pos := if bs[pos]? = some (byte '.') then skipWhile bs isAsciiDigit (pos + 1) else pos
  if bs[pos]? = some (byte 'e') ∨ bs[pos]? = some (byte 'E') then
    let pos := pos + 1
    let pos :=
      if bs[pos]? = some (byte '+') ∨ bs[pos]? = some (byte '-') then pos + 1 else pos
    skipWhile bs isAsciiDigit pos
  else pos

/-- A literal stands at a position. -/
def literalAt (bs : List UInt8) (start : ℕ) (literal : String) : Bool :=
  (bytes literal.toList).isPrefixOf (bs.drop start)

def findJsonValueEnd (bs : List UInt8) (start : ℕ) : ℕ :=
  if h : start < bs.length then
    let first := bs[start]
    if first = byte '"' then
      let pos := closingQuote bs (start + 1)
      if pos < bs.length then pos + 1 else bs.length
    else if first = byte '\x7b' then
      matchingClose bs (byte '\x7b') (byte '\x7d') (start + 1) 1
    else if first = byte '[' then matchingClose bs (byte '[') (byte ']') (start + 1) 1
    else if literalAt bs start "null" then start + 4
    else if literalAt bs start "true" then start + 4
    else if literalAt bs start "false" then start + 5
    else if first = byte '-' ∨ isAsciiDigit first then numberEnd bs start
    else start + 1
  else start

/-- `&text[pos..]`, and what stands before it. -/
def slice (text : List Char) (pos : ℕ) : Except Stop (List Char × List Char) :=
  match splitAt? text pos with
  | some parts => .ok parts
  | none => .error .panics

/-- How a round of the scanner's loop ends: it leaves the loop, goes on at a position, or goes on in a
new text. -/
inductive Round where
  | finished
  | passed (searchFrom : ℕ)
  | replaced (result : List Char) (searchFrom : ℕ)

/-- The value of the sensitive key whose closing quote is at `keyEndPos`. -/
def redactValue (result : List Char) (keyEndPos : ℕ) : Except Stop Round :=
  let resultBytes := bytes result
  let colonPos := skipWhile resultBytes isAsciiWhitespace (keyEndPos + 1)
  if resultBytes[colonPos]? ≠ some (byte ':') then .ok (.passed (keyEndPos + 1))
  else
    let valueStart := skipWhile resultBytes isAsciiWhitespace (colonPos + 1)
    if resultBytes.length ≤ valueStart then .ok .finished
    else
      let valueEnd := findJsonValueEnd resultBytes valueStart
      if valueEnd ≤ valueStart then .ok (.passed (valueStart + 1))
      else do
        let (before, _) ← slice result valueStart
        let (_, after) ← slice result valueEnd
        return .replaced (before ++ "[redacted]".toList ++ after)
          (valueStart + "[redacted]".length)

/-- One round of the loop of `redact_json_secrets_fallback`. -/
def redactRound (result : List Char) (searchFrom : ℕ) : Except Stop Round := do
  let resultBytes := bytes result
  let (_, remaining) ← slice result searchFrom
  let remainingBytes := bytes remaining
  match remainingBytes.findIdx? (· == byte '"') with
  | none => return .finished
  | some keyStartOffset =>
    let keyStartPos := searchFrom + keyStartOffset
    let keyEndOffset := closingQuote remainingBytes (keyStartOffset + 1)
    if remainingBytes.length ≤ keyEndOffset then return .finished
    else
      let keyEndPos := searchFrom + keyEndOffset
      let keyNameBytes := (resultBytes.drop (keyStartPos + 1)).take (keyEndPos - (keyStartPos + 1))
      match decodeJsonEscapeSequences keyNameBytes with
      | none => return .passed (keyEndPos + 1)
      | some keyName =>
        if !isSensitiveField (String.ofList keyName) then return .passed (keyEndPos + 1)
        else redactValue result keyEndPos

/-- The loop of `redact_json_secrets_fallback`, for at most `steps` rounds: `result` and
`search_from` as the source has them. -/
def redactFallbackFrom :
    ℕ → List Char → ℕ → NormalizationState → Except Stop (List Char × NormalizationState)
  | 0, _, _, _ => .error .unfinished
  | steps + 1, result, searchFrom, state =>
    if (bytes result).length ≤ searchFrom then .ok (result, state)
    else
      match redactRound result searchFrom with
      | .error stop => .error stop
      | .ok .finished => .ok (result, state)
      | .ok (.passed searchFrom) => redactFallbackFrom steps result searchFrom state
      | .ok (.replaced result searchFrom) =>
        redactFallbackFrom steps result searchFrom { state with redacted := true }

/-- `redact_json_secrets_fallback`. Every round moves on by a byte at least. -/
def redactJsonSecretsFallback (value : List Char) (state : NormalizationState) :
    Except Stop (List Char × NormalizationState) :=
  redactFallbackFrom ((bytes value).length + 1) value 0 state

/-- `redact_json_secrets`. `to_string` of a value does not fail. -/
def redactJsonSecrets (lib : Library) (value : List Char) (state : NormalizationState) :
    Except Stop (List Char × NormalizationState) :=
  match lib.fromStr (String.ofList value) with
  | some jsonValue =>
    let (jsonValue, redacted) := redactSensitiveValues jsonValue
    .ok (jsonValue.toText.toList, { state with redacted := state.redacted || redacted })
  | none => redactJsonSecretsFallback value state

/-! ## Assignments -/

/-- A word up to the end of the first occurrence of a marker in its lower case. -/
def throughMarker (marker : List Char) : List Char → Option (List Char)
  | [] => none
  | c :: cs =>
    if marker.isPrefixOf ((c :: cs).map Char.toLower) then some ((c :: cs).take marker.length)
    else (throughMarker marker cs).map (c :: ·)

/-- One word of `redact_secret_assignments`, and whether it was redacted. The first marker of the list
that occurs counts, not the first one in the word. -/
def redactWord (word : List Char) : List Char × Bool :=
  match ["authorization:", "authorization=", "password=", "passwd=", "secret=",
      "token="].findSome? fun marker => throughMarker marker.toList word with
  | some kept => (kept ++ "[redacted]".toList, true)
  | none => (word, false)

def redactSecretAssignments (value : List Char) (state : NormalizationState) :
    List Char × NormalizationState :=
  let words := (Text.splitGo [' '] value 0 []).map redactWord
  ([' '].intercalate (words.map Prod.fst), { state with redacted := state.redacted || words.any Prod.snd })

/-! ## Public texts -/

/-- `char::is_control`. -/
def isControl (c : Char) : Bool := c.toNat < 32 || (127 ≤ c.toNat && c.toNat < 160)

/-- The collapsing loop of `public_text`: `index` and `output_chars` as the source has them. -/
def collapse (maxChars : ℕ) :
    List Char → (index outputChars : ℕ) → (previousSpace : Bool) → NormalizationState → List Char × NormalizationState
  | [], _, _, _, state => ([], state)
  | c :: cs, index, outputChars, previousSpace, state =>
    if max (min (maxChars * 4) (2 ^ 64 - 1)) maxChars ≤ index ∨ maxChars < outputChars then
      ([], { state with truncated := true })
    else
      let normalized := if isControl c || Text.isWhitespace c then ' ' else c
      if normalized = ' ' ∧ previousSpace then
        collapse maxChars cs (index + 1) outputChars previousSpace state
      else
        let (collapsed, state) :=
          collapse maxChars cs (index + 1) (outputChars + 1) (normalized == ' ') state
        (normalized :: collapsed, state)

/-- `public_text`. A URL has at least one character, so there is a round for each. -/
def publicText (lib : Library) (value : List Char) (maxChars : ℕ) (state : NormalizationState) :
    Except Stop (List Char × NormalizationState) := do
  let (collapsed, state) := collapse maxChars value 0 0 false state
  let trimmed := Text.strip Text.isWhitespace collapsed
  let (redactedUrls, state) ← redactUrlsInText lib (trimmed.length + 1) trimmed state
  let (redactedJson, state) ← redactJsonSecrets lib redactedUrls state
  let (redactedSecrets, state) := redactSecretAssignments redactedJson state
  let state := if maxChars < redactedSecrets.length then { state with truncated := true } else state
  return (truncateChars redactedSecrets maxChars, state)

end Clawhip.Http
