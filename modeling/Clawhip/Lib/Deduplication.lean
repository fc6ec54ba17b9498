import Mathlib.Data.List.Basic

/-!
# Dropping what was seen before

`firsts key l` keeps of a list the first element of every key. It is what passes a consumer that
drops an element when it has seen its key before.
-/

namespace Clawhip

open List

variable {α κ : Type*} [DecidableEq κ] (key : α → κ)

/-- The elements whose keys are not in `seen` and not those of earlier elements. -/
def firstsAfter : List κ → List α → List α
  | _, [] => []
  | seen, a :: l =>
    if key a ∈ seen then firstsAfter seen l else a :: firstsAfter (key a :: seen) l

/-- The first element of every key. -/
def firsts (l : List α) : List α := firstsAfter key [] l

variable {key}

variable {l : List α} {a : α} {seen : List κ}

theorem mem_of_mem_firstsAfter (h : a ∈ firstsAfter key seen l) : a ∈ l ∧ key a ∉ seen := by
  induction l generalizing seen with
  | nil => exact absurd h not_mem_nil
  | cons b l ih =>
    unfold firstsAfter at h
    split_ifs at h with hseen
    · exact ⟨mem_cons_of_mem _ (ih h).1, (ih h).2⟩
    · rcases mem_cons.mp h with rfl | h
      · exact ⟨mem_cons_self, hseen⟩
      · exact ⟨mem_cons_of_mem _ (ih h).1, fun hmem => (ih h).2 (mem_cons_of_mem _ hmem)⟩

theorem pairwise_firstsAfter (seen : List κ) (l : List α) :
    (firstsAfter key seen l).Pairwise fun a b => key a ≠ key b := by
  induction l generalizing seen with
  | nil => exact Pairwise.nil
  | cons b l ih =>
    unfold firstsAfter
    split_ifs
    · exact ih seen
    · refine pairwise_cons.mpr ⟨fun a ha heq => ?_, ih _⟩
      exact (mem_of_mem_firstsAfter ha).2 (heq ▸ mem_cons_self)

end Clawhip
