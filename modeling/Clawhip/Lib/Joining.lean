import Mathlib.Data.List.Basic

/-!
# Texts of joined fields

Fields that are joined with a separator can be told apart as long as no field contains it. `Crosses` says how two
lists of fields with the same text differ: at the first difference, the field of one of them goes on over the
separator.
-/

namespace Clawhip

open List

variable {α : Type*} (separator : α)

/-- The fields with a separator between two of them. -/
def joinFields : List (List α) → List α
  | [] => []
  | [field] => field
  | field :: next :: fields => field ++ separator :: joinFields (next :: fields)

/-- Two lists of fields agree up to a field that goes on over the separator in one of them, and the rest of the
other begins with what it goes on with. -/
def Crosses : List (List α) → List (List α) → Prop
  | a :: next :: as, b :: next' :: bs =>
    (a = b ∧ Crosses (next :: as) (next' :: bs)) ∨ (∃ excess, b = a ++ separator :: excess ∧
        joinFields separator (next :: as) = excess ++ separator :: joinFields separator (next' :: bs)) ∨
      ∃ excess, a = b ++ separator :: excess ∧
        joinFields separator (next' :: bs) = excess ++ separator :: joinFields separator (next :: as)
  | _, _ => False

variable {separator}

variable {as bs : List (List α)}

/-- Fields that cross are not the same. -/
theorem Crosses.ne (h : Crosses separator as bs) : as ≠ bs := by
  induction as generalizing bs with
  | nil => exact fun _ => h
  | cons a as ih =>
    rintro rfl
    cases as with
    | nil => exact h
    | cons next as =>
      rw [Crosses] at h
      rcases h with ⟨-, hrest⟩ | ⟨excess, ha, -⟩ | ⟨excess, ha, -⟩
      · exact ih hrest rfl
      · simpa using congrArg length ha
      · simpa using congrArg length ha

end Clawhip
