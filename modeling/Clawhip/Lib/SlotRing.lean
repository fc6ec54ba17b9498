import Mathlib.Algebra.BigOperators.Group.Finset.Piecewise
import Mathlib.Algebra.BigOperators.Fin
import Mathlib.Algebra.Order.Group.Multiset
import Mathlib.Tactic.Abel

/-!
# Rings of slots

A ring is a fixed number of slots with a list of entries in each. `push` appends to a slot and
`clear` empties one; `stored` is the multiset of all entries. `Placed` says that every entry stands
in the slot that a function assigns to it.
-/

namespace Clawhip

open Finset

/-- `n` slots of entries. -/
abbrev SlotRing (α : Type*) (n : ℕ) := Vector (List α) n

namespace SlotRing

variable {α : Type*} {n : ℕ}

def empty (α : Type*) (n : ℕ) : SlotRing α n := Vector.replicate n []

/-- Append an entry to a slot. -/
def push (r : SlotRing α n) (i : Fin n) (e : α) : SlotRing α n := r.set i (r[i] ++ [e])

/-- Empty a slot. -/
def clear (r : SlotRing α n) (i : Fin n) : SlotRing α n := r.set i []

/-- Every entry of the ring. -/
@[irreducible] def stored (r : SlotRing α n) : Multiset α := ∑ i : Fin n, (r[i] : Multiset α)

theorem getElem_push (r : SlotRing α n) (i j : Fin n) (e : α) :
    (r.push i e)[j] = if j = i then r[j] ++ [e] else r[j] := by
  by_cases h : j = i
  · subst h; simp [push]
  · rw [if_neg h]
    exact Vector.getElem_set_ne _ _ fun hij => h (Fin.ext hij.symm)

theorem getElem_clear (r : SlotRing α n) (i j : Fin n) : (r.clear i)[j] = if j = i then [] else r[j] := by
  by_cases h : j = i
  · subst h; simp [clear]
  · rw [if_neg h]
    exact Vector.getElem_set_ne _ _ fun hij => h (Fin.ext hij.symm)

@[simp] theorem stored_empty : (empty α n).stored = 0 := by simp [stored, empty]

/-- Pushing an entry stores it. -/
@[simp] theorem stored_push (r : SlotRing α n) (i : Fin n) (e : α) : (r.push i e).stored = e ::ₘ r.stored := by
  have h : ∀ j : Fin n, ((r.push i e)[j] : Multiset α) = (r[j] : Multiset α) + if j = i then {e} else 0 := by
    intro j
    rw [getElem_push]
    split_ifs
    · rw [← Multiset.coe_add]; rfl
    · rw [add_zero]
  unfold stored
  rw [sum_congr rfl fun j _ => h j, sum_add_distrib, sum_ite_eq' _ i,
    if_pos (mem_univ i), add_comm, Multiset.singleton_add]

/-- A cleared slot's entries and the rest of the ring are the ring. -/
theorem stored_clear (r : SlotRing α n) (i : Fin n) : (r[i] : Multiset α) + (r.clear i).stored = r.stored := by
  have h : ∀ j : Fin n, (r[j] : Multiset α) =
      ((r.clear i)[j] : Multiset α) + if j = i then (r[i] : Multiset α) else 0 := by
    intro j
    rw [getElem_clear]
    split_ifs with hj
    · subst hj; simp
    · rw [add_zero]
  unfold stored
  rw [sum_congr rfl fun j _ => h j, sum_add_distrib, sum_ite_eq' _ i, if_pos (mem_univ i), add_comm]

variable {r : SlotRing α n} {slot : α → Fin n}

/-- An entry is stored when it stands in some slot. -/
theorem mem_stored {e : α} : e ∈ r.stored ↔ ∃ i : Fin n, e ∈ r[i] := by
  simp [stored, Multiset.mem_sum]

/-- Every entry stands in the slot that `slot` assigns to it. -/
def Placed (slot : α → Fin n) (r : SlotRing α n) : Prop := ∀ i : Fin n, ∀ e ∈ r[i], slot e = i

theorem placed_empty (slot : α → Fin n) : Placed slot (empty α n) := by
  simp [Placed, empty]

section

variable (h : Placed slot r)
include h

theorem Placed.push (e : α) : Placed slot (r.push (slot e) e) := by
  intro i a ha
  rw [getElem_push] at ha
  split_ifs at ha with hi
  · rcases List.mem_append.mp ha with ha | ha
    · exact h i a ha
    · rw [List.mem_singleton.mp ha, hi]
  · exact h i a ha

theorem Placed.clear (i : Fin n) : Placed slot (r.clear i) := by
  intro j a ha
  rw [getElem_clear] at ha
  split_ifs at ha
  · simp at ha
  · exact h j a ha

/-- In a placed ring, an entry is stored when it stands in its own slot. -/
theorem Placed.mem_stored {e : α} : e ∈ r.stored ↔ e ∈ r[slot e] := by
  rw [SlotRing.mem_stored]
  constructor
  · rintro ⟨i, hi⟩
    obtain rfl := h i e hi
    exact hi
  · exact fun he => ⟨_, he⟩

/-- Clearing a slot of a placed ring removes the entries that the slot function assigns to it. -/
theorem Placed.mem_clear {i : Fin n} {e : α} : e ∈ (r.clear i).stored ↔ e ∈ r.stored ∧ slot e ≠ i := by
  rw [(h.clear i).mem_stored, h.mem_stored, getElem_clear]
  by_cases hi : slot e = i
  · simp [hi]
  · simp [hi]

end

end SlotRing

end Clawhip
