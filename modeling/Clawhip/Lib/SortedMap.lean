import Clawhip.Lib.OrdMap
import Mathlib.Order.RelClasses

/-!
# Maps whose keys are in order

`OrdMap.insert` keeps the keys of a map in order, so a map that is built by insertions alone has them
in order, and building such a map again entry by entry gives it back.
-/

namespace Clawhip

open List

namespace OrdMap

variable {κ ν : Type*} [LT κ]

/-- The keys are in order, without repetitions. -/
def Sorted (m : OrdMap κ ν) : Prop := m.keys.Pairwise (· < ·)

theorem sorted_nil : Sorted ([] : OrdMap κ ν) := Pairwise.nil

variable {m : OrdMap κ ν}

theorem Sorted.nodup [Std.Asymm (α := κ) (· < ·)] (h : Sorted m) : m.keys.Nodup := by
  refine Pairwise.imp (fun {a b} hlt => ?_) h
  rintro rfl
  exact Std.Asymm.asymm _ _ hlt hlt

variable [DecidableEq κ] [DecidableLT κ]

section Insertion

variable [IsTrans κ (· < ·)] [Std.Trichotomous (α := κ) (· < ·)]

theorem sorted_place (h : Sorted m) {k : κ} (v : ν) (hk : m.get k = none) : Sorted (m.place k v) := by
  induction m with
  | nil => exact pairwise_singleton _ _
  | cons p m ih =>
    obtain ⟨a, b⟩ := p
    obtain ⟨ha, hm⟩ := pairwise_cons.mp h
    obtain ⟨hne, hnone⟩ : k ≠ a ∧ get m k = none := by
      rw [get_cons] at hk
      split_ifs at hk with heq
      exact ⟨heq, hk⟩
    unfold place
    split_ifs with hlt
    · refine pairwise_cons.mpr ⟨fun key hkey => ?_, h⟩
      rcases mem_cons.mp hkey with rfl | hkey
      · exact hlt
      · exact IsTrans.trans _ _ _ hlt (ha key hkey)
    · refine pairwise_cons.mpr ⟨fun key hkey => ?_, ih hm hnone⟩
      -- The keys of the rest are the new one and those that were there.
      have hkeys : key ∈ keys ((k, v) :: m) := ((place_perm m k v).map Prod.fst).mem_iff.mp hkey
      rcases mem_cons.mp hkeys with rfl | hkey
      · by_contra hnot
        exact hne (Std.Trichotomous.trichotomous _ _ hlt hnot)
      · exact ha key hkey

/-- Setting a value keeps the keys in order. -/
theorem sorted_insert (h : Sorted m) (k : κ) (v : ν) : Sorted (m.insert k v) := by
  unfold insert
  split_ifs with hk
  · unfold Sorted
    rwa [keys_replace]
  · exact sorted_place h v (by simpa using hk)

end Insertion

/-- A key above all others is put at the end. -/
theorem insert_of_above [Std.Asymm (α := κ) (· < ·)] {k : κ} (v : ν)
    (h : ∀ key ∈ m.keys, key < k) : m.insert k v = m ++ [(k, v)] := by
  have hnone : m.get k = none := get_eq_none_iff.mpr fun hmem => Std.Asymm.asymm _ _ (h k hmem) (h k hmem)
  unfold insert
  rw [hnone, if_neg (by simp)]
  clear hnone
  induction m with
  | nil => rfl
  | cons p m ih =>
    obtain ⟨a, b⟩ := p
    have ha : a < k := h a mem_cons_self
    rw [place, if_neg (Std.Asymm.asymm _ _ ha), ih fun key hkey => h key (mem_cons_of_mem _ hkey)]
    rfl

end OrdMap

end Clawhip
