import Mathlib.Data.List.Induction

/-!
# The first and the last of the best

A list is ranked by a score, best first, by a stable sort, or its best entry is picked. Both choose among the
entries of one score by their places in the list: the sort puts the earliest first, and the pick takes the
latest.
-/

namespace Clawhip.Ranking

open List Option

variable {α : Type*} (score place : α → ℕ)

/-- Of the entries with some property, none is better, nor as good and earlier. -/
def FirstBest (p : α → Prop) (a : α) : Prop :=
  p a ∧ ∀ b, p b → b ≠ a → score b < score a ∨ (score b = score a ∧ place a < place b)

/-- Of the entries with some property, none is better, nor as good and later. -/
def LastBest (p : α → Prop) (a : α) : Prop :=
  p a ∧ ∀ b, p b → b ≠ a → score b < score a ∨ (score b = score a ∧ place b < place a)

variable {score place} {p : α → Prop} {a b : α}

theorem FirstBest.unique (ha : FirstBest score place p a) (hb : FirstBest score place p b) : a = b := by
  by_contra hne
  have hworse := ha.2 b hb.1 fun h => hne h.symm
  have hbetter := hb.2 a ha.1 hne
  omega

theorem LastBest.unique (ha : LastBest score place p a) (hb : LastBest score place p b) : a = b := by
  by_contra hne
  have hworse := ha.2 b hb.1 fun h => hne h.symm
  have hbetter := hb.2 a ha.1 hne
  omega

variable {l : List α}

variable {q : α → Bool}

end Clawhip.Ranking
