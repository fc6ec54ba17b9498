import Clawhip.Json

/-!
# The record of a batch's wheel entry

A batcher writes the key and the version of a batch into the record of its wheel entry as JSON, and
reads them back when the wheel returns the entry. The JSON library is a parameter; what the batchers
need of it is that a written key reads back. `compactJson` writes what the library writes for this
record and reads it back, so the need can be met.
-/

namespace Clawhip.Dispatch

/-- The record of a wheel entry. -/
structure ScheduledBatchKey where
  key : String
  version : ℕ
deriving DecidableEq

/-- `serde_json::to_vec` and `serde_json::from_slice` at `ScheduledBatchKey`. -/
structure BatchKeyCodec where
  to_vec : ScheduledBatchKey → List UInt8
  from_slice : List UInt8 → Option ScheduledBatchKey

/-- What the batchers rely on: a written key reads back. -/
def BatchKeyCodec.RoundTrips (codec : BatchKeyCodec) : Prop := ∀ k, codec.from_slice (codec.to_vec k) = some k

/-! ## The compact form -/

namespace CompactJson

open Json (escape hexDigits)

/-- The value of a hexadecimal digit. -/
def hexValue (c : Char) : ℕ := if c.toNat < 58 then c.toNat - 48 else c.toNat - 87

/-- The character that a one-letter escape stands for. -/
def named : Char → Option Char
  | '"' => some '"'
  | '\\' => some '\\'
  | 'n' => some '\n'
  | 'r' => some '\r'
  | 't' => some '\t'
  | 'b' => some (Char.ofNat 8)
  | 'f' => some (Char.ofNat 12)
  | _ => none

/-- Read up to the closing quote: the text, and what follows. -/
def unquote : List Char → Option (List Char × List Char)
  | [] => none
  | '"' :: rest => some ([], rest)
  | '\\' :: 'u' :: a :: b :: c :: d :: rest =>
    (unquote rest).map fun r =>
      (Char.ofNat (((hexValue a * 16 + hexValue b) * 16 + hexValue c) * 16 + hexValue d) :: r.1, r.2)
  | '\\' :: c :: rest =>
    (named c).bind fun c' => (unquote rest).map fun r => (c' :: r.1, r.2)
  | c :: rest => (unquote rest).map fun r => (c :: r.1, r.2)

/-- An escaped character reads back. -/
theorem unquote_escape (c : Char) (rest : List Char) :
    unquote (escape c ++ rest) = (unquote rest).map fun r => (c :: r.1, r.2) := by
  have hchar : ∀ n, c.toNat = n → Char.ofNat n = c := by
    rintro n rfl
    exact Char.ofNat_toNat c
  unfold escape
  split_ifs with h₁ h₂ h₃ h₄ h₅ h₆ h₇ h₈
  · rw [h₁]
    rfl
  · rw [h₂]
    rfl
  · rw [h₃]
    rfl
  · rw [h₄]
    rfl
  · rw [h₅]
    rfl
  · rw [← hchar _ h₆]
    rfl
  · rw [← hchar _ h₇]
    rfl
  · have hhex : ∀ n < 32, ((hexValue '0' * 16 + hexValue '0') * 16 + hexValue (Nat.digitChar (n / 16))) * 16 +
          hexValue (Nat.digitChar (n % 16)) = n := by decide
    simp only [hexDigits, List.cons_append, List.nil_append, unquote, hhex _ h₈, Char.ofNat_toNat]
  · have hctrl : c ≠ '"' ∧ c ≠ '\\' := ⟨h₁, h₂⟩
    rw [List.singleton_append, unquote]
    · exact hctrl.1
    · intro _ _ _ _ _ h
      exact absurd h hctrl.2
    · intro _ _ h
      exact absurd h hctrl.2

/-- A quoted text reads back, up to its closing quote. -/
theorem unquote_quoted (cs rest : List Char) : unquote (cs.flatMap escape ++ '"' :: rest) = some (cs, rest) := by
  induction cs with
  | nil => rfl
  | cons c cs ih => rw [List.flatMap_cons, List.append_assoc, unquote_escape, ih, Option.map_some]

/-- The text of a record. -/
def write (k : ScheduledBatchKey) : List Char :=
  "\x7b\"key\":\"".toList ++ (k.key.toList.flatMap escape ++
    '"' :: (",\"version\":".toList ++ (Nat.toDigits 10 k.version ++ ['}'])))

/-- Read a record's text. -/
def read (cs : List Char) : Option ScheduledBatchKey :=
  (unquote (cs.drop 8)).map fun r =>
    ⟨String.ofList r.1, Nat.ofDigitChars 10 (r.2.drop 11).dropLast 0⟩

/-- A written record reads back. -/
theorem read_write (k : ScheduledBatchKey) : read (write k) = some k := by
  have hdrop : (write k).drop 8 = k.key.toList.flatMap escape ++
      '"' :: (",\"version\":".toList ++ (Nat.toDigits 10 k.version ++ ['}'])) := rfl
  have hver : (",\"version\":".toList ++ (Nat.toDigits 10 k.version ++ ['}'])).drop 11 =
      Nat.toDigits 10 k.version ++ ['}'] := rfl
  rw [read, hdrop, unquote_quoted, Option.map_some]
  rw [hver, List.dropLast_concat, Nat.ofDigitChars_ten_toDigits, String.ofList_toList]

end CompactJson

/-- The JSON library at this record. -/
def compactJson : BatchKeyCodec where
  to_vec k := (String.ofList (CompactJson.write k)).toUTF8.data.toList
  from_slice bytes := (ByteArray.mk bytes.toArray).utf8Decode?.bind fun cs => CompactJson.read cs.toList

/-- Whatever the key holds, quotes and control characters included, its record reads back. -/
theorem compactJson_roundTrips : compactJson.RoundTrips := by
  intro k
  have hbytes : ByteArray.mk (String.ofList (CompactJson.write k)).toUTF8.data.toList.toArray =
      (CompactJson.write k).utf8Encode := by
    rw [Array.toArray_toList]
    exact String.toByteArray_ofList
  simp only [compactJson, hbytes, List.utf8Decode?_utf8Encode, Option.bind_some, CompactJson.read_write]

end Clawhip.Dispatch
