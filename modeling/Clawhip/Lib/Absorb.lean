import Mathlib.Data.List.Basic

/-!
# Absorbing an element into a list

`absorb p f x l` hands `x` to the first element of `l` that satisfies `p`, which becomes what `f` makes
of it, or puts `x` at the end where there is none. A fact that holds of some element is kept if the
element that changes keeps it and passes on what `x` had.
-/

namespace Clawhip

variable {α : Type*}

/-- Change the first element that satisfies `p`, or put a new one at the end. -/
def absorb (p : α → Bool) (f : α → α) (x : α) : List α → List α
  | [] => [x]
  | a :: l => if p a then f a :: l else a :: absorb p f x l

variable {p : α → Bool} {f : α → α} {x : α} {l : List α} {q : α → Bool}

/-- Some element of a list satisfies `q`, after an element is absorbed that satisfied it, or was put to
one that did. -/
theorem any_absorb (hfound : ∀ c, l.find? p = some c → (q c = true ∨ q x = true) → q (f c) = true)
    (h : l.any q = true ∨ q x = true) : (absorb p f x l).any q = true := by
  induction l with
  | nil =>
    rw [absorb, List.any_cons]
    rcases h with h | h
    · cases h
    · rw [h, Bool.true_or]
  | cons a l ih =>
    by_cases hp : p a = true
    · have ha := hfound a (List.find?_cons_of_pos hp)
      rw [absorb, if_pos hp, List.any_cons, Bool.or_eq_true]
      rw [List.any_cons, Bool.or_eq_true] at h
      rcases h with (h | h) | h
      · exact .inl (ha (.inl h))
      · exact .inr h
      · exact .inl (ha (.inr h))
    · rw [absorb, if_neg hp, List.any_cons, Bool.or_eq_true]
      rw [List.find?_cons_of_neg hp] at hfound
      rw [List.any_cons, Bool.or_eq_true] at h
      rcases h with (h | h) | h
      · exact .inl h
      · exact .inr (ih hfound (.inl h))
      · exact .inr (ih hfound (.inr h))

end Clawhip
