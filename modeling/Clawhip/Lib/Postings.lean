import Clawhip.Lib.OrdMap
import Mathlib.Data.Finset.Sort
import Mathlib.Data.List.Range

/-!
# Inverted indexes

An inverted index of a list keeps, for every key, the positions of the items that have the key.
`Indexes` says that it keeps exactly those, `Indexes.concat` that posting a new last item keeps it so,
and `pick_positionsOf` that reading the positions of the items of a kind, in order, is filtering the
list.
-/

namespace Clawhip

open List

/-- The positions that are kept for every key. -/
abbrev Postings (κ : Type*) := OrdMap κ (Finset ℕ)

/-- The positions of the items that satisfy `p`. -/
def positionsOf {α : Type*} (p : α → Bool) (items : List α) : Finset ℕ :=
  (Finset.range items.length).filter fun i => (items[i]?.any p) = true

/-- The items at some positions, in order; positions past the end are passed over. -/
def pick {α : Type*} (items : List α) (positions : Finset ℕ) : List α := positions.sort.filterMap fun i => items[i]?

section Positions

variable {α : Type*} {p q : α → Bool} {items : List α} {i : ℕ}

theorem mem_positionsOf : i ∈ positionsOf p items ↔ ∃ a, items[i]? = some a ∧ p a = true := by
  unfold positionsOf
  rw [Finset.mem_filter, Finset.mem_range, Option.any_eq_true]
  constructor
  · exact fun h => h.2
  · rintro ⟨a, ha, hp⟩
    exact ⟨(List.getElem?_eq_some_iff.mp ha).1, a, ha, hp⟩

/-- The positions of both kinds are the positions of the items of both kinds. -/
theorem positionsOf_inter : positionsOf p items ∩ positionsOf q items = positionsOf (fun a => p a && q a) items := by
  ext i
  rw [Finset.mem_inter, mem_positionsOf, mem_positionsOf, mem_positionsOf]
  constructor
  · rintro ⟨⟨a, ha, hp⟩, b, hb, hq⟩
    have hab : a = b := Option.some.inj (ha.symm.trans hb)
    exact ⟨a, ha, by rw [hp, hab, hq]; rfl⟩
  · rintro ⟨a, ha, hpq⟩
    obtain ⟨hp, hq⟩ := Bool.and_eq_true_iff.mp hpq
    exact ⟨⟨a, ha, hp⟩, a, ha, hq⟩

/-- Every position is that of an item that satisfies nothing in particular. -/
theorem positionsOf_true : positionsOf (fun _ => true) items = Finset.range items.length := by
  ext i
  rw [mem_positionsOf, Finset.mem_range]
  constructor
  · rintro ⟨a, ha, -⟩
    exact (List.getElem?_eq_some_iff.mp ha).1
  · exact fun h => ⟨items[i], getElem?_eq_getElem h, rfl⟩

/-- A new last item is at the end if it satisfies `p`; the other positions stay. -/
theorem positionsOf_concat (a : α) : positionsOf p (items ++ [a]) =
    if p a then insert items.length (positionsOf p items) else positionsOf p items := by
  ext i
  rw [mem_positionsOf]
  rcases lt_trichotomy i items.length with hlt | rfl | hgt
  · rw [getElem?_append_left hlt, ← mem_positionsOf]
    split_ifs
    · rw [Finset.mem_insert, or_iff_right hlt.ne]
    · rfl
  · have hnot : items.length ∉ positionsOf p items := by
      rw [mem_positionsOf, getElem?_eq_none le_rfl]
      simp
    rw [getElem?_concat_length]
    split_ifs with ha <;> simp [ha, hnot]
  · have hnone : (items ++ [a])[i]? = none := by
      rw [getElem?_eq_none_iff, length_append, length_singleton]
      omega
    have hnot : i ∉ positionsOf p items := by
      rw [mem_positionsOf, getElem?_eq_none hgt.le]
      simp
    rw [hnone]
    split_ifs
    · simp [hgt.ne', hnot]
    · simp [hnot]

/-- The positions of a kind, in order. -/
theorem sort_positionsOf : (positionsOf p items).sort = (range items.length).filter fun i => items[i]?.any p := by
  have hsorted : ((range items.length).filter fun i => items[i]?.any p).Pairwise (· ≤ ·) :=
    (pairwise_lt_range.filter _).imp fun h => h.le
  have hset : positionsOf p items = ((range items.length).filter fun i => items[i]?.any p).toFinset := by
    ext i
    simp [positionsOf]
  rw [hset]
  exact (toFinset_sort (· ≤ ·) (nodup_range.filter _)).mpr hsorted

/-- Reading the positions of a kind is filtering. -/
theorem pick_positionsOf : pick items (positionsOf p items) = items.filter p := by
  unfold pick
  rw [sort_positionsOf]
  induction items using reverseRecOn with
  | nil => rfl
  | append_singleton items a ih =>
    have hrest : ((range items.length).filter fun i => (items ++ [a])[i]?.any p).filterMap
        (fun i => (items ++ [a])[i]?) = ((range items.length).filter fun i => items[i]?.any p).filterMap
          fun i => items[i]? := by
      have hsame : ∀ i ∈ range items.length, (items ++ [a])[i]? = items[i]? := fun i hi =>
        getElem?_append_left (mem_range.mp hi)
      rw [filter_congr fun i hi => by rw [hsame i hi]]
      exact filterMap_congr fun i hi => hsame i (mem_of_mem_filter hi)
    rw [length_append, length_singleton, range_succ, filter_append, filterMap_append, hrest, ih, filter_append]
    congr 1
    cases ha : p a <;> simp [ha]

/-- Cut the candidates so far down to `next`; before the first cut everything is a candidate. -/
def intersect (candidate : Option (Finset ℕ)) (next : Finset ℕ) : Option (Finset ℕ) :=
  some (candidate.elim next fun current => current ∩ next)

/-- The candidates of several kinds are the positions of the items of all kinds. -/
theorem getD_foldl_intersect (kinds : List (α → Bool)) :
    ((kinds.map fun p => positionsOf p items).foldl intersect none).getD
      (Finset.range items.length) = positionsOf (fun a => kinds.all fun p => p a) items := by
  have hgo (kinds : List (α → Bool)) (q : α → Bool) :
      (kinds.map fun p => positionsOf p items).foldl intersect (some (positionsOf q items)) =
        some (positionsOf (fun a => q a && kinds.all fun p => p a) items) := by
    induction kinds generalizing q with
    | nil => simp
    | cons p kinds ih =>
      have hcut : intersect (some (positionsOf q items)) (positionsOf p items) =
          some (positionsOf (fun a => q a && p a) items) := congrArg some positionsOf_inter
      rw [map_cons, foldl_cons, hcut, ih]
      simp only [all_cons, Bool.and_assoc]
  cases kinds with
  | nil => exact positionsOf_true.symm
  | cons p kinds =>
    have hfirst : intersect none (positionsOf p items) = some (positionsOf p items) := rfl
    rw [map_cons, foldl_cons, hfirst, hgo, Option.getD_some]
    simp only [all_cons]

end Positions

namespace Postings

variable {κ : Type*} [DecidableEq κ] [LT κ] [DecidableLT κ]

/-- The positions of a key. -/
def positions (m : Postings κ) (k : κ) : Finset ℕ := (m.get k).getD ∅

/-- Add a position to a key. -/
def post (m : Postings κ) (k : κ) (i : ℕ) : Postings κ := m.insert k (insert i (m.positions k))

/-- Add a position to each of some keys. -/
def postAll (m : Postings κ) (ks : List κ) (i : ℕ) : Postings κ := ks.foldl (fun m k => m.post k i) m

variable (m : Postings κ)

theorem positions_post (k k' : κ) (i : ℕ) : (m.post k i).positions k' =
    if k' = k then insert i (m.positions k') else m.positions k' := by
  have hget : (m.post k i).get k' = if k' = k then some (insert i (m.positions k)) else m.get k' :=
    OrdMap.get_insert m k k' _
  unfold positions at hget ⊢
  rw [hget]
  split_ifs with h
  · rw [h]
    rfl
  · rfl

theorem positions_postAll (ks : List κ) (k' : κ) (i : ℕ) :
    (m.postAll ks i).positions k' = if k' ∈ ks then insert i (m.positions k') else m.positions k' := by
  unfold postAll
  induction ks generalizing m with
  | nil => rfl
  | cons k ks ih =>
    rw [foldl_cons, ih, positions_post]
    by_cases hk : k' = k <;> by_cases hks : k' ∈ ks <;> simp [hk, hks]

variable {α : Type*}

/-- The index keeps, for every key, the positions of the items that have the key. -/
def Indexes (m : Postings κ) (keysOf : α → List κ) (items : List α) : Prop :=
  ∀ k, m.positions k = positionsOf (fun a => decide (k ∈ keysOf a)) items

omit [LT κ] [DecidableLT κ] in
/-- An empty index is one of no items. -/
theorem Indexes.nil (keysOf : α → List κ) : Indexes ([] : Postings κ) keysOf [] := fun _ => rfl

/-- Posting a new last item under its keys keeps the index. -/
theorem Indexes.concat {m : Postings κ} {keysOf : α → List κ} {items : List α} (h : m.Indexes keysOf items)
    (a : α) : (m.postAll (keysOf a) items.length).Indexes keysOf (items ++ [a]) := by
  intro k
  rw [positions_postAll, positionsOf_concat, h k]
  simp only [decide_eq_true_eq]

end Postings

end Clawhip
