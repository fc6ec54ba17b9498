import Mathlib.Data.List.Nodup

/-!
# The most recent keys

A bounded queue of keys, the newest one last, that drops the oldest key when it is full. A key that is
remembered or renewed stays in the queue until so many others have come behind it.
-/

namespace Clawhip.Recent

open List

variable {ι : Type*} [DecidableEq ι]

/-- A key that is not there comes last. -/
def remember (limit : ℕ) (keys : List ι) (key : ι) : List ι :=
  if key ∈ keys then keys
  else if limit < (keys ++ [key]).length then (keys ++ [key]).tail
  else keys ++ [key]

/-- A key comes last, also where it was there before. -/
def renew (limit : ℕ) (keys : List ι) (key : ι) : List ι := remember limit (keys.erase key) key

/-- At most so many keys came after a key. -/
def IsRecent (keys : List ι) (key : ι) (count : ℕ) : Prop :=
  ∃ older newer, keys = older ++ key :: newer ∧ newer.length ≤ count

variable {keys : List ι} {key other : ι} {limit count : ℕ}

omit [DecidableEq ι] in
theorem IsRecent.mem (h : IsRecent keys key count) : key ∈ keys := by
  obtain ⟨older, newer, rfl, -⟩ := h
  exact mem_append_right _ mem_cons_self

theorem mem_remember (h : other ∈ remember limit keys key) : other ∈ keys ∨ other = key := by
  have happend : other ∈ keys ++ [key] → other ∈ keys ∨ other = key := by simp
  unfold remember at h
  split_ifs at h
  · exact .inl h
  · exact happend (mem_of_mem_tail h)
  · exact happend h

theorem mem_renew (h : other ∈ renew limit keys key) : other ∈ keys ∨ other = key :=
  (mem_remember h).imp_left mem_of_mem_erase

theorem nodup_remember (h : keys.Nodup) : (remember limit keys key).Nodup := by
  unfold remember
  split_ifs with hmem
  · exact h
  all_goals
    have happend : (keys ++ [key]).Nodup := by
      rw [nodup_append]
      refine ⟨h, nodup_singleton key, ?_⟩
      rintro other hother _ hkey rfl
      exact hmem (mem_singleton.mp hkey ▸ hother)
  · exact happend.sublist (tail_sublist _)
  · exact happend

theorem nodup_renew (h : keys.Nodup) : (renew limit keys key).Nodup := nodup_remember (h.erase key)

/-- A key that is not there is renewed by being remembered. -/
theorem renew_of_notMem (h : key ∉ keys) : renew limit keys key = remember limit keys key := by
  unfold renew
  rw [erase_of_not_mem h]

/-- A key that was just remembered is the newest one. -/
theorem isRecent_remember (hlimit : 0 < limit) (h : key ∉ keys) : IsRecent (remember limit keys key) key 0 := by
  unfold remember
  rw [if_neg h]
  split_ifs with hlong
  · cases keys with
    | nil =>
      rw [nil_append, length_singleton] at hlong
      omega
    | cons first keys => exact ⟨keys, [], by simp, Nat.le_refl _⟩
  · exact ⟨keys, [], rfl, Nat.le_refl _⟩

/-- A key moves back by one place when another one is remembered, unless it was the oldest one. -/
theorem IsRecent.remember (h : IsRecent keys key count) (hcount : count + 1 < limit) :
    IsRecent (remember limit keys other) key (count + 1) := by
  obtain ⟨older, newer, rfl, hnewer⟩ := h
  unfold remember
  split_ifs with hmem hlong
  · exact ⟨older, newer, rfl, Nat.le_succ_of_le hnewer⟩
  · cases older with
    | nil =>
      simp only [nil_append, cons_append, length_cons, length_append, length_nil] at hlong
      omega
    | cons first older =>
      refine ⟨older, newer ++ [other], by simp, ?_⟩
      rw [length_append, length_singleton]
      omega
  · refine ⟨older, newer ++ [other], by simp, ?_⟩
    rw [length_append, length_singleton]
    omega

/-- A renewed key is the newest one. -/
theorem isRecent_renew (hlimit : 0 < limit) (h : keys.Nodup) : IsRecent (renew limit keys key) key 0 :=
  isRecent_remember hlimit h.not_mem_erase

theorem IsRecent.erase (h : IsRecent keys key count) (hne : other ≠ key) : IsRecent (keys.erase other) key count := by
  obtain ⟨older, newer, rfl, hnewer⟩ := h
  by_cases hmem : other ∈ older
  · exact ⟨older.erase other, newer, erase_append_left _ hmem, hnewer⟩
  · refine ⟨older, newer.erase other, ?_, Nat.le_trans length_erase_le hnewer⟩
    rw [erase_append_right _ hmem, erase_cons_tail (by simpa using hne.symm)]

theorem IsRecent.renew (h : IsRecent keys key count) (hne : other ≠ key)
    (hcount : count + 1 < limit) : IsRecent (renew limit keys other) key (count + 1) :=
  (h.erase hne).remember hcount

end Clawhip.Recent
