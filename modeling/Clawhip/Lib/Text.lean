import Mathlib.Data.List.Basic
import Mathlib.Data.List.Infix
import Mathlib.Algebra.Group.Nat.Defs
import Mathlib.Algebra.Group.Int.Defs

/-!
# Text

The string operations of the source's language that the models use, on Lean strings, by way of their
lists of characters. A character is a Unicode scalar value in both languages.
-/

namespace Clawhip.Text

open List Option

/-- The Unicode `White_Space` property. -/
def isWhitespace (c : Char) : Bool :=
  let n := c.toNat
  (9 ≤ n && n ≤ 13) || n == 32 || n == 0x85 || n == 0xA0 || n == 0x1680 ||
    (0x2000 ≤ n && n ≤ 0x200A) || n == 0x2028 || n == 0x2029 || n == 0x202F || n == 0x205F ||
    n == 0x3000

/-- Remove what satisfies `p` from both ends. -/
def strip {α : Type*} (p : α → Bool) (l : List α) : List α := ((l.dropWhile p).reverse.dropWhile p).reverse

/-- `str::trim`. -/
def trim (s : String) : String := String.ofList (strip isWhitespace s.toList)

/-- A trimmed text, if anything is left of it. -/
def nonblank (value : Option String) : Option String := (value.map trim).filter fun value => !value.isEmpty

/-- `str::to_ascii_lowercase`. -/
def toAsciiLowercase (s : String) : String := String.ofList (s.toList.map Char.toLower)

/-- Cut a list at every occurrence of a nonempty pattern, from the left; `skip` elements of the last
occurrence are still to be passed over, and `piece` is the current piece, reversed. -/
def splitGo {α : Type*} [BEq α] (pattern : List α) : List α → ℕ → List α → List (List α)
  | [], _, piece => [piece.reverse]
  | _ :: l, skip + 1, piece => splitGo pattern l skip piece
  | a :: l, 0, piece =>
    if pattern.isPrefixOf (a :: l) then piece.reverse :: splitGo pattern l (pattern.length - 1) []
    else splitGo pattern l 0 (a :: piece)

/-- `str::split` at a nonempty pattern. -/
def split (s pattern : String) : List String := (splitGo pattern.toList s.toList 0 []).map String.ofList

/-- Replace every occurrence of a nonempty pattern, from the left; `skip` elements of the last
occurrence are still to be passed over. -/
def replaceGo {α : Type*} [BEq α] (pattern replacement : List α) : List α → ℕ → List α
  | [], _ => []
  | _ :: l, skip + 1 => replaceGo pattern replacement l skip
  | a :: l, 0 =>
    if pattern.isPrefixOf (a :: l) then
      replacement ++ replaceGo pattern replacement l (pattern.length - 1)
    else a :: replaceGo pattern replacement l 0

/-- `str::replace` of a nonempty pattern. -/
def replace (s pattern replacement : String) : String :=
  String.ofList (replaceGo pattern.toList replacement.toList s.toList 0)

/-- `str::starts_with`. -/
def startsWith (s pattern : String) : Bool := pattern.toList.isPrefixOf s.toList

/-- `str::ends_with`. -/
def endsWith (s pattern : String) : Bool := pattern.toList.isSuffixOf s.toList

/-- `str::strip_prefix`. -/
def afterStart (s pattern : String) : Option String :=
  if startsWith s pattern then some (String.ofList (s.toList.drop pattern.length)) else none

/-- `str::strip_suffix`. -/
def beforeEnd (s pattern : String) : Option String :=
  if endsWith s pattern then some (String.ofList (s.toList.take (s.length - pattern.length)))
  else none

/-- What follows the first occurrence of a pattern. -/
def afterGo (pattern : List Char) : List Char → Option (List Char)
  | [] => if pattern.isEmpty then some [] else none
  | c :: cs =>
    if pattern.isPrefixOf (c :: cs) then some ((c :: cs).drop pattern.length)
    else afterGo pattern cs

/-- What follows the first occurrence of a pattern. -/
def after (s pattern : String) : Option (List Char) := afterGo pattern.toList s.toList

/-- `str::contains`. -/
def contains (s pattern : String) : Bool := (after s pattern).isSome

/-- A run of decimal digits as a 64-bit number. -/
def digitsToU64 (digits : List Char) : Option ℕ :=
  let n := Nat.ofDigitChars 10 digits 0
  if digits.isEmpty || !digits.all Char.isDigit || decide (2 ^ 64 ≤ n) then none else some n

/-- `str::parse::<u64>`: decimal digits, after a plus sign or not. -/
def parseU64 (s : String) : Option ℕ :=
  match s.toList with
  | '+' :: digits => digitsToU64 digits
  | digits => digitsToU64 digits

/-- `str::parse::<i64>`: decimal digits, after a sign or not. -/
def parseI64 (s : String) : Option ℤ :=
  match s.toList with
  | '-' :: digits => ((digitsToU64 digits).filter fun n => decide (n ≤ 2 ^ 63)).map fun n => -(n : ℤ)
  | '+' :: digits => ((digitsToU64 digits).filter fun n => decide (n < 2 ^ 63)).map Int.ofNat
  | digits => ((digitsToU64 digits).filter fun n => decide (n < 2 ^ 63)).map Int.ofNat

/-- The 64-bit FNV-1a hash of a text's UTF-8 bytes. -/
def fnv1a64 (s : String) : ℕ :=
  s.toUTF8.data.toList.foldl
    (fun hash byte => Nat.xor hash byte.toNat * 0x100000001b3 % 2 ^ 64) 0xcbf29ce484222325

/-- `{:016x}`. -/
def hex16 (n : ℕ) : String :=
  let digits := Nat.toDigits 16 n
  String.ofList (List.replicate (16 - digits.length) '0' ++ digits)

variable {α : Type*}

/-- What is to be passed over is dropped. -/
theorem replaceGo_skip [BEq α] (pattern replacement l l' : List α) :
    replaceGo pattern replacement (l ++ l') l.length = replaceGo pattern replacement l' 0 := by
  induction l with
  | nil => rfl
  | cons a l ih => exact ih

variable {l : List α}

/-- A list whose first element fails `p` keeps its head. -/
theorem dropWhile_eq_self {p : α → Bool} (h : ∀ a ∈ l.head?, p a = false) : l.dropWhile p = l := by
  cases l with
  | nil => rfl
  | cons a l => rw [dropWhile_cons_of_neg (by simp [h a rfl])]

variable (p : α → Bool)

/-- What is left of a `dropWhile` does not start with what was dropped. -/
theorem head?_dropWhile (l : List α) : ∀ a ∈ (l.dropWhile p).head?, p a = false := by
  induction l with
  | nil => simp
  | cons b l ih =>
    by_cases hb : p b = true
    · rw [dropWhile_cons_of_pos hb]
      exact ih
    · rw [dropWhile_cons_of_neg hb]
      simpa using hb

/-- Dropping from the end leaves the head, when anything is left. -/
theorem head?_dropWhile_reverse {a : α} (h : a ∈ ((l.reverse.dropWhile p).reverse).head?) : a ∈ l.head? := by
  obtain ⟨t, ht⟩ : l.reverse.dropWhile p <:+ l.reverse := dropWhile_suffix p
  have hl : (l.reverse.dropWhile p).reverse ++ t.reverse = l := by rw [← reverse_append, ht, reverse_reverse]
  rw [← hl, head?_append]
  rw [h]
  rfl

/-- Stripping twice strips once. -/
theorem strip_strip (l : List α) : strip p (strip p l) = strip p l := by
  unfold strip
  have hhead : ∀ a ∈ (((l.dropWhile p).reverse.dropWhile p).reverse).head?, p a = false :=
    fun a ha => head?_dropWhile p l a (head?_dropWhile_reverse p ha)
  rw [dropWhile_eq_self hhead, reverse_reverse, dropWhile_eq_self (head?_dropWhile p (l.dropWhile p).reverse)]

/-- What does not satisfy `p` is not stripped. -/
theorem strip_ne_nil {p : α → Bool} {a : α} (ha : a ∈ l) (hp : p a = false) : strip p l ≠ [] := by
  have hdrop : ∀ l : List α, a ∈ l → a ∈ l.dropWhile p := by
    intro l
    induction l with
    | nil => exact id
    | cons b l ih =>
      intro ha
      by_cases hb : p b = true
      · rw [dropWhile_cons_of_pos hb]
        refine ih ((mem_cons.mp ha).resolve_left fun hab => ?_)
        rw [hab, hb] at hp
        cases hp
      · rwa [dropWhile_cons_of_neg hb]
  refine ne_nil_of_mem (a := a) (mem_reverse.mpr ?_)
  exact hdrop _ (mem_reverse.mpr (hdrop l ha))

variable {s : String}

/-- A text with something other than white space in it is not blank. -/
theorem isEmpty_trim_of_mem {c : Char} (hc : c ∈ s.toList)
    (hspace : isWhitespace c = false) : (trim s).isEmpty = false := by
  rw [trim, String.isEmpty_eq_false_iff]
  intro hempty
  exact strip_ne_nil hc hspace (by simpa using congrArg String.toList hempty)

/-- A text has at least as many bytes as characters. -/
theorem length_le_utf8ByteSize (l : List Char) : l.length ≤ (String.ofList l).utf8ByteSize := by
  induction l with
  | nil => exact Nat.zero_le _
  | cons c l ih =>
    have hpos : 0 < c.utf8Size := Char.utf8Size_pos c
    rw [String.ofList_cons, String.utf8ByteSize_append, String.utf8ByteSize_singleton, length_cons]
    omega

/-- Trimming twice trims once. -/
@[simp] theorem trim_trim (s : String) : trim (trim s) = trim s := by
  simp [trim, strip_strip]

/-- What is left of a text is trimmed and not blank. -/
theorem nonblank_nonblank {value : Option String} (h : nonblank value = some s) : nonblank (some s) = some s := by
  unfold nonblank at h ⊢
  obtain ⟨hmap, hne⟩ := filter_eq_some_iff.mp h
  obtain ⟨s', -, rfl⟩ := map_eq_some_iff.mp hmap
  rw [map_some, trim_trim, filter_some, if_pos hne]

variable (c : Char)

/-- A lowercase letter takes the place of an uppercase one, and nothing else is changed. -/
theorem toLower_cases : c.toLower = c ∧ ¬ (65 ≤ c.toNat ∧ c.toNat ≤ 90) ∨
      (65 ≤ c.toNat ∧ c.toNat ≤ 90) ∧ c.toLower.toNat = c.toNat + 32 := by
  by_cases h : c.val ≥ 'A'.val ∧ c.val ≤ 'Z'.val
  · right
    have hrange : 65 ≤ c.toNat ∧ c.toNat ≤ 90 := ⟨h.1, h.2⟩
    refine ⟨hrange, ?_⟩
    unfold Char.toLower
    rw [dif_pos h]
    have hadd : (c.val + ('a'.val - 'A'.val)).toNat = c.val.toNat + 32 := by
      rw [UInt32.toNat_add]
      have hval : c.val.toNat = c.toNat := rfl
      have hgap : ('a'.val - 'A'.val).toNat = 32 := rfl
      rw [hgap, Nat.mod_eq_of_lt (by omega)]
    exact hadd
  · left
    refine ⟨?_, h⟩
    unfold Char.toLower
    rw [dif_neg h]

theorem toLower_toLower : c.toLower.toLower = c.toLower := by
  rcases toLower_cases c.toLower with ⟨h, -⟩ | ⟨hupper, -⟩
  · exact h
  · rcases toLower_cases c with ⟨h, hnot⟩ | ⟨hrange, hlower⟩
    · rw [h] at hupper
      exact absurd hupper hnot
    · omega

end Clawhip.Text
