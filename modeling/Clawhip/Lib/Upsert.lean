import Mathlib.Data.List.Basic
import Mathlib.Data.List.Perm.Basic

/-!
# Writing one item of a list

`upsert` changes what is matched of a list, or adds a new item where nothing is. Where at most one item is
matched, what is left is the item that was written beside all that was not matched (`upsert_perm`), and writing
it again changes nothing (`upsert_upsert`).
-/

namespace Clawhip

open List

variable {α : Type*} {matched : α → Bool} {change : α → α} {new : α} {items : List α}

/-- Change what is matched, or add a new item where nothing is. -/
def upsert (matched : α → Bool) (change : α → α) (new : α) (items : List α) : List α :=
  if items.any matched then items.map fun item => if matched item then change item else item
  else items ++ [new]

/-- The item that is written, where at most one is matched. -/
def written (matched : α → Bool) (change : α → α) (new : α) (items : List α) : α :=
  ((items.find? matched).map change).getD new

theorem written_holds {p : α → Prop} (hchange : ∀ item, matched item = true → p (change item)) (hnew : p new) :
    p (written matched change new items) := by
  unfold written
  cases hfind : items.find? matched with
  | none => exact hnew
  | some item => exact hchange item (find?_some hfind)

/-- At most one item means that two are the same. -/
theorem eq_of_length_le_one {a b : α} (h : items.length ≤ 1) (ha : a ∈ items) (hb : b ∈ items) : a = b := by
  cases items with
  | nil => cases ha
  | cons item rest =>
    have hnil : rest = [] := eq_nil_of_length_eq_zero (by rw [length_cons] at h; omega)
    subst hnil
    rw [mem_singleton.mp ha, mem_singleton.mp hb]

theorem upsert_cons {item : α} (h : matched item = false) :
    upsert matched change new (item :: items) = item :: upsert matched change new items := by
  unfold upsert
  rw [any_cons, h, Bool.false_or, map_cons, if_neg (ne_true_of_eq_false h)]
  cases items.any matched <;> rfl

/-- What is left is the item that was written and all that was not matched. -/
theorem upsert_perm (h : (items.filter matched).length ≤ 1) : (upsert matched change new items).Perm
      (written matched change new items :: items.filter fun item => !matched item) := by
  induction items with
  | nil => exact Perm.refl _
  | cons item items ih =>
    cases hitem : matched item with
    | false =>
      have hlen : (items.filter matched).length ≤ 1 := by rwa [filter_cons_of_neg (by simp [hitem])] at h
      have hwritten : written matched change new (item :: items) = written matched change new items := by
        unfold written
        rw [find?_cons, hitem]
      rw [upsert_cons hitem, hwritten, filter_cons_of_pos (by simp [hitem])]
      exact ((ih hlen).cons item).trans (Perm.swap _ _ _)
    | true =>
      -- the matched item is the first one, so no other is changed
      have hnone : ∀ other ∈ items, matched other = false := by
        rw [filter_cons_of_pos hitem, length_cons] at h
        have hnil : items.filter matched = [] := eq_nil_of_length_eq_zero (by omega)
        intro other hother
        simpa using filter_eq_nil_iff.mp hnil other hother
      have hwritten : written matched change new (item :: items) = change item := by
        unfold written
        rw [find?_cons, hitem]
        rfl
      have hupsert : upsert matched change new (item :: items) = change item :: items := by
        unfold upsert
        rw [any_cons, hitem, Bool.true_or, if_pos rfl, map_cons, if_pos hitem]
        congr 1
        refine (map_congr_left fun other hother => ?_).trans (map_id items)
        rw [hnone other hother]
        rfl
      have hkept : (items.filter fun other => !matched other) = items :=
        filter_eq_self.mpr fun other hother => by rw [hnone other hother]; rfl
      rw [hupsert, hwritten, filter_cons_of_neg (by simp [hitem]), hkept]

section

variable (hchange : ∀ item, matched item = true → matched (change item) = true)
include hchange

/-- What is written is matched. -/
theorem any_upsert (hnew : matched new = true) : (upsert matched change new items).any matched = true := by
  unfold upsert
  split_ifs with hany
  · obtain ⟨item, hitem, hmatched⟩ := any_eq_true.mp hany
    refine any_eq_true.mpr ⟨change item, mem_map.mpr ⟨item, hitem, if_pos hmatched⟩, ?_⟩
    exact hchange item hmatched
  · rw [any_append, any_cons, hnew, Bool.true_or, Bool.or_true]

/-- Writing again what is written changes nothing. -/
theorem upsert_upsert (hnew : matched new = true) (htwice : ∀ item, change (change item) = change item)
    (hsame : change new = new) :
    upsert matched change new (upsert matched change new items) = upsert matched change new items := by
  have hany : (upsert matched change new items).any matched = true := any_upsert hchange hnew
  conv_lhs => rw [upsert, if_pos hany]
  refine (map_congr_left fun item hitem => ?_).trans (map_id _)
  split_ifs with hmatched
  · unfold upsert at hitem
    split_ifs at hitem with hfound
    · obtain ⟨before, -, hbefore⟩ := mem_map.mp hitem
      split_ifs at hbefore with hm
      · rw [← hbefore, htwice]
        rfl
      · exact absurd (hbefore ▸ hmatched) hm
    · rcases mem_append.mp hitem with hold | hadded
      · exact absurd (any_eq_true.mpr ⟨item, hold, hmatched⟩) hfound
      · rw [mem_singleton.mp hadded, hsame]
        rfl
  · rfl

end

end Clawhip
