import Mathlib.Data.List.Basic
import Mathlib.Data.List.Infix
import Mathlib.Data.Nat.Notation

/-!
# Positions in UTF-8 texts

A text is a list of characters, and a position in it counts bytes of its encoding. `splitAt?` cuts a
text at a position and fails off the character boundaries, as slicing does in the source's language.
`At t pos rest` is how the proofs speak of positions: `pos` stands before `rest` in `t`. A loop over
bytes that only looks for ASCII characters goes from one such position to the next.
-/

namespace Clawhip.Utf8

open List Option

/-- The byte of an ASCII character. -/
def byte (c : Char) : UInt8 := UInt8.ofNat c.toNat

/-- `char::is_ascii`. -/
def isAscii (c : Char) : Bool := c.toNat < 128

/-- `str::as_bytes`. -/
def bytes (t : List Char) : List UInt8 := t.flatMap String.utf8EncodeChar

/-- `(&t[..pos], &t[pos..])`, where `pos` is a character boundary of the text. -/
def splitAt? : List Char → ℕ → Option (List Char × List Char)
  | t, 0 => some ([], t)
  | [], _ + 1 => none
  | c :: t, pos + 1 =>
    if c.utf8Size ≤ pos + 1 then
      (splitAt? t (pos + 1 - c.utf8Size)).map fun (a, rest) => (c :: a, rest)
    else none

@[simp] theorem bytes_nil : bytes [] = [] := rfl

@[simp] theorem bytes_cons (c : Char) (t : List Char) : bytes (c :: t) = String.utf8EncodeChar c ++ bytes t := rfl

@[simp] theorem bytes_append (a b : List Char) : bytes (a ++ b) = bytes a ++ bytes b := flatMap_append

/-! ## Bytes of a character -/

theorem encode_ascii {c : Char} (h : isAscii c = true) : String.utf8EncodeChar c = [byte c] := by
  have hlt : c.toNat < 128 := of_decide_eq_true h
  have hval : c.val.toNat ≤ 127 := Nat.le_of_lt_succ hlt
  simp only [String.utf8EncodeChar, if_pos hval]
  rfl

/-- Every byte of another character is large. -/
theorem le_of_mem_encode {c : Char} (h : isAscii c = false) {b : UInt8}
    (hb : b ∈ String.utf8EncodeChar c) : 128 ≤ b.toNat := by
  have hge : ¬ c.toNat < 128 := of_decide_eq_false h
  have hval : ¬ c.val.toNat ≤ 127 := fun hle => hge (Nat.lt_succ_of_le hle)
  simp only [String.utf8EncodeChar, if_neg hval] at hb
  -- One case for each length of the encoding; the marker bits make every byte large.
  split at hb
  · simp only [mem_cons, not_mem_nil, or_false] at hb
    rcases hb with rfl | rfl <;> simp <;> omega
  · split at hb
    · simp only [mem_cons, not_mem_nil, or_false] at hb
      rcases hb with rfl | rfl | rfl <;> simp <;> omega
    · simp only [mem_cons, not_mem_nil, or_false] at hb
      rcases hb with rfl | rfl | rfl | rfl <;> simp <;> omega

/-- The byte of an ASCII character is small. -/
theorem byte_lt {c : Char} (h : isAscii c = true) : (byte c).toNat < 128 := by
  have hlt : c.toNat < 128 := of_decide_eq_true h
  simp [byte]
  omega

/-- ASCII characters with the same byte are the same. -/
theorem byte_inj {c d : Char} (hc : isAscii c = true) (hd : isAscii d = true) : byte c = byte d ↔ c = d := by
  constructor
  · intro h
    have hc' : c.toNat < 128 := of_decide_eq_true hc
    have hd' : d.toNat < 128 := of_decide_eq_true hd
    have hn : c.toNat = d.toNat := by
      have := congrArg UInt8.toNat h
      simp [byte] at this
      omega
    exact Char.toNat_inj.mp hn
  · exact fun h => congrArg byte h

theorem length_encode_pos (c : Char) : 0 < (String.utf8EncodeChar c).length := by
  rw [String.length_utf8EncodeChar]
  exact Char.utf8Size_pos c

/-- Another character is more than one byte. -/
theorem one_lt_length_encode {c : Char} (h : isAscii c = false) : 1 < (String.utf8EncodeChar c).length := by
  have hge : ¬ c.toNat < 128 := of_decide_eq_false h
  have hval : ¬ c.val.toNat ≤ 127 := fun hle => hge (Nat.lt_succ_of_le hle)
  simp only [String.utf8EncodeChar, if_neg hval]
  split
  · simp
  · split
    · simp
    · simp

/-! ## Cutting a text -/

/-- A cut behind `a` is a cut of what stands there. -/
theorem splitAt?_append_add (a rest : List Char) (n : ℕ) :
    splitAt? (a ++ rest) ((bytes a).length + n) = (splitAt? rest n).map fun (x, y) => (a ++ x, y) := by
  induction a with
  | nil =>
    simp only [bytes_nil, length_nil, Nat.zero_add, nil_append]
    cases splitAt? rest n <;> rfl
  | cons c a ih =>
    have hpos := length_encode_pos c
    have hlen : (bytes (c :: a)).length + n = ((String.utf8EncodeChar c).length - 1 + (bytes a).length + n) + 1 := by
      rw [bytes_cons, length_append]
      omega
    rw [hlen, cons_append, splitAt?, ← String.length_utf8EncodeChar, if_pos (by omega)]
    have hrest : (String.utf8EncodeChar c).length - 1 + (bytes a).length + n + 1 -
        (String.utf8EncodeChar c).length = (bytes a).length + n := by omega
    rw [hrest, ih, Option.map_map]
    rfl

/-- A cut on a boundary. -/
theorem splitAt?_append (a rest : List Char) : splitAt? (a ++ rest) (bytes a).length = some (a, rest) := by
  have h := splitAt?_append_add a rest 0
  rw [Nat.add_zero] at h
  simp [h, splitAt?]

/-- There is no cut behind the end. -/
theorem splitAt?_behind {t : List Char} {pos : ℕ} (h : (bytes t).length < pos) : splitAt? t pos = none := by
  obtain ⟨n, rfl⟩ := Nat.exists_eq_add_of_lt h
  have hadd := splitAt?_append_add t [] (n + 1)
  rw [append_nil] at hadd
  rw [Nat.add_assoc, hadd, splitAt?, map_none]

/-- There is no cut one byte into a long character. -/
theorem splitAt?_inside (a r : List Char) {c : Char} (h : isAscii c = false) :
    splitAt? (a ++ c :: r) ((bytes a).length + 1) = none := by
  have hlt := one_lt_length_encode h
  rw [splitAt?_append_add, splitAt?, ← String.length_utf8EncodeChar, if_neg (by omega), map_none]

/-! ## Positions -/

/-- The position `pos` of the text `t` stands before `rest`. -/
def At (t : List Char) (pos : ℕ) (rest : List Char) : Prop := ∃ a, t = a ++ rest ∧ pos = (bytes a).length

variable {t rest r : List Char} {pos : ℕ} {c : Char}

theorem at_append (a rest : List Char) : At (a ++ rest) (bytes a).length rest := ⟨a, rfl, rfl⟩

theorem at_zero (t : List Char) : At t 0 t := ⟨[], rfl, rfl⟩

namespace At

section

variable (h : At t pos rest)
include h

/-- What is left from a position on. -/
theorem length_eq : (bytes t).length = pos + (bytes rest).length := by
  obtain ⟨a, rfl, rfl⟩ := h
  rw [bytes_append, length_append]

theorem drop : (bytes t).drop pos = bytes rest := by
  obtain ⟨a, rfl, rfl⟩ := h
  rw [bytes_append, drop_left]

theorem getElem?_add (i : ℕ) : (bytes t)[pos + i]? = (bytes rest)[i]? := by
  rw [← h.drop, getElem?_drop]

theorem getElem? : (bytes t)[pos]? = (bytes rest)[0]? := h.getElem?_add 0

end

/-- The next position. -/
theorem next (h : At t pos (c :: r)) : At t (pos + (String.utf8EncodeChar c).length) r := by
  obtain ⟨a, rfl, rfl⟩ := h
  exact ⟨a ++ [c], by simp, by simp⟩

theorem next_ascii (h : At t pos (c :: r)) (hc : isAscii c = true) : At t (pos + 1) r := by
  have hnext := h.next
  rwa [encode_ascii hc] at hnext

/-- A position further on. -/
theorem append {b : List Char} (h : At t pos (b ++ r)) : At t (pos + (bytes b).length) r := by
  obtain ⟨a, rfl, rfl⟩ := h
  exact ⟨a ++ b, by simp, by simp⟩

section

variable (h : At t pos (c :: r))
include h

/-- The byte at an ASCII character. -/
theorem ascii (hc : isAscii c = true) : (bytes t)[pos]? = some (byte c) := by
  rw [h.getElem?, bytes_cons, encode_ascii hc]
  rfl

/-- The bytes of another character. -/
theorem large (hc : isAscii c = false) {i : ℕ}
    (hi : i < (String.utf8EncodeChar c).length) : ∃ b, (bytes t)[pos + i]? = some b ∧ 128 ≤ b.toNat := by
  refine ⟨(String.utf8EncodeChar c)[i], ?_, le_of_mem_encode hc (getElem_mem hi)⟩
  rw [h.getElem?_add, bytes_cons, getElem?_append_left hi, getElem?_eq_getElem hi]

/-- A byte other than `d` at an ASCII character other than `d`, and in any other character. -/
theorem ne_byte {d : Char} (hd : isAscii d = true) (hcd : c ≠ d) : (bytes t)[pos]? ≠ some (byte d) := by
  cases hc : isAscii c with
  | true =>
    rw [h.ascii hc]
    exact fun heq => hcd ((byte_inj hc hd).mp (some.inj heq))
  | false =>
    obtain ⟨b, hb, hlarge⟩ := h.large hc (length_encode_pos c)
    have hlt := byte_lt hd
    rw [← Nat.add_zero pos, hb]
    intro heq
    rw [some.inj heq] at hlarge
    omega

theorem lt : pos < (bytes t).length := by
  have hlen := h.length_eq
  have hpos := length_encode_pos c
  rw [bytes_cons, length_append] at hlen
  omega

end

theorem eq_length (h : At t pos []) : pos = (bytes t).length := by
  have hlen := h.length_eq
  rw [bytes_nil, length_nil, Nat.add_zero] at hlen
  exact hlen.symm

/-- Which ASCII character stands at a position. -/
theorem getElem?_eq_byte (h : At t pos rest) {d : Char} (hd : isAscii d = true) :
    (bytes t)[pos]? = some (byte d) ↔ rest.head? = some d := by
  cases rest with
  | nil =>
    rw [h.eq_length, getElem?_eq_none (le_refl _)]
    simp
  | cons c r =>
    rw [head?_cons, some.injEq]
    constructor
    · intro heq
      by_contra hcd
      exact h.ne_byte hd hcd heq
    · intro hcd
      rw [h.ascii (hcd ▸ hd), hcd]

/-- A loop that moves on at every large byte moves past a character that is not ASCII. -/
theorem pass {β : Type*} (f : ℕ → β) (h : At t pos (c :: r)) (hc : isAscii c = false)
    (hf : ∀ p b, (bytes t)[p]? = some b → 128 ≤ b.toNat → f p = f (p + 1)) :
    f pos = f (pos + (String.utf8EncodeChar c).length) := by
  have hsteps : ∀ n, n ≤ (String.utf8EncodeChar c).length → f pos = f (pos + n) := by
    intro n
    induction n with
    | zero => exact fun _ => rfl
    | succ n ih =>
      intro hn
      obtain ⟨b, hb, hlarge⟩ := h.large hc hn
      rw [ih (Nat.le_of_succ_le hn), hf (pos + n) b hb hlarge, Nat.add_assoc]
  exact hsteps _ le_rfl

/-- The text can be cut at its positions. -/
theorem split (h : At t pos rest) : ∃ a, t = a ++ rest ∧ splitAt? t pos = some (a, rest) := by
  obtain ⟨a, rfl, rfl⟩ := h
  exact ⟨a, rfl, splitAt?_append a rest⟩

end At

end Clawhip.Utf8
