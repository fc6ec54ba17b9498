import Mathlib.Data.List.Basic
import Mathlib.Data.Option.Basic

/-!
# Maps as lists of entries

A map is a list of key and value pairs. `get` reads the first entry of a key; `insert` replaces the
value of a key that is present, and otherwise puts the new entry before the first larger key, so that
a map built by `insert` alone lists its keys in order; `erase` removes a key. The lemmas read every
operation back through `get`.
-/

namespace Clawhip

open List Option

/-- A map from `κ` to `ν`. -/
abbrev OrdMap (κ ν : Type*) := List (κ × ν)

namespace OrdMap

variable {κ ν : Type*} [DecidableEq κ]

/-- The value of a key. -/
def get : OrdMap κ ν → κ → Option ν
  | [], _ => none
  | (k', v) :: m, k => if k = k' then some v else get m k

/-- Replace the value of a key that is present. -/
def replace : OrdMap κ ν → κ → ν → OrdMap κ ν
  | [], _, _ => []
  | (k', v') :: m, k, v => if k = k' then (k', v) :: m else (k', v') :: replace m k v

/-- Put a new entry before the first larger key. -/
def place [LT κ] [DecidableLT κ] : OrdMap κ ν → κ → ν → OrdMap κ ν
  | [], k, v => [(k, v)]
  | (k', v') :: m, k, v =>
    if k < k' then (k, v) :: (k', v') :: m else (k', v') :: place m k v

/-- Set the value of a key. -/
def insert [LT κ] [DecidableLT κ] (m : OrdMap κ ν) (k : κ) (v : ν) : OrdMap κ ν :=
  if (m.get k).isSome then m.replace k v else m.place k v

/-- Remove a key. -/
def erase (m : OrdMap κ ν) (k : κ) : OrdMap κ ν := m.filter fun p => p.1 ≠ k

/-- The keys, in order. -/
def keys (m : OrdMap κ ν) : List κ := m.map Prod.fst

/-- The values, in the order of the keys. -/
def values (m : OrdMap κ ν) : List ν := m.map Prod.snd

@[simp] theorem get_nil (k : κ) : get ([] : OrdMap κ ν) k = none := rfl

theorem get_cons (k k' : κ) (v : ν) (m : OrdMap κ ν) : get ((k', v) :: m) k = if k = k' then some v else get m k := rfl

variable {k : κ} {m : OrdMap κ ν} {v : ν}

/-- A value that is read is an entry's. -/
theorem mem_of_get (h : m.get k = some v) : (k, v) ∈ m := by
  induction m with
  | nil => cases h
  | cons p m ih =>
    obtain ⟨a, b⟩ := p
    rw [get_cons] at h
    split_ifs at h with hk
    · rw [hk, some.inj h]
      exact mem_cons_self
    · exact mem_cons_of_mem _ (ih h)

theorem get_replace_self (v : ν) (h : (m.get k).isSome) : (m.replace k v).get k = some v := by
  induction m with
  | nil => simp at h
  | cons p m ih =>
    obtain ⟨k', v'⟩ := p
    by_cases hk : k = k'
    · simp [replace, get_cons, hk]
    · simp only [get_cons, if_neg hk] at h
      simp only [replace, if_neg hk, get_cons, ih h]

variable {k' : κ}

theorem get_replace_ne (v : ν) (h : k' ≠ k) : (m.replace k v).get k' = m.get k' := by
  induction m with
  | nil => rfl
  | cons p m ih =>
    obtain ⟨a, b⟩ := p
    by_cases hk : k = a
    · subst hk; simp [replace, get_cons, h]
    · simp only [replace, if_neg hk, get_cons, ih]

theorem replace_get (h : m.get k = some v) : m.replace k v = m := by
  induction m with
  | nil => rfl
  | cons p m ih =>
    obtain ⟨a, b⟩ := p
    by_cases hk : k = a
    · simp only [get_cons, if_pos hk, some.injEq] at h
      simp [replace, hk, h]
    · simp only [get_cons, if_neg hk] at h
      simp [replace, hk, ih h]

theorem replace_replace (m : OrdMap κ ν) (k : κ) (v v' : ν) : (m.replace k v).replace k v' = m.replace k v' := by
  induction m with
  | nil => rfl
  | cons p m ih =>
    obtain ⟨a, b⟩ := p
    by_cases hk : k = a
    · simp [replace, hk]
    · simp [replace, hk, ih]

section Order

variable [LT κ] [DecidableLT κ] {k : κ} {m : OrdMap κ ν}

theorem get_place_self (v : ν) (h : m.get k = none) : (m.place k v).get k = some v := by
  induction m with
  | nil => simp [place, get_cons]
  | cons p m ih =>
    obtain ⟨a, b⟩ := p
    by_cases hk : k = a
    · simp [get_cons, hk] at h
    · simp only [get_cons, if_neg hk] at h
      simp only [place]
      split_ifs
      · simp [get_cons]
      · simp [get_cons, hk, ih h]

theorem get_place_ne (v : ν) (h : k' ≠ k) : (m.place k v).get k' = m.get k' := by
  induction m with
  | nil => simp [place, get_cons, h]
  | cons p m ih =>
    obtain ⟨a, b⟩ := p
    simp only [place]
    split_ifs
    · simp [get_cons, h]
    · simp [get_cons, ih]

/-- A key reads back what was inserted for it. -/
@[simp] theorem get_insert_self (m : OrdMap κ ν) (k : κ) (v : ν) : (m.insert k v).get k = some v := by
  unfold insert
  split_ifs with h
  · exact get_replace_self v h
  · exact get_place_self v (by simpa using h)

/-- An entry of a map after an insertion is the new one or was there before. -/
theorem mem_insert {p : κ × ν} (h : p ∈ m.insert k v) : p = (k, v) ∨ p ∈ m := by
  have hreplace (m : OrdMap κ ν) (h : p ∈ m.replace k v) : p = (k, v) ∨ p ∈ m := by
    induction m with
    | nil => exact absurd h not_mem_nil
    | cons q m ih =>
      obtain ⟨a, b⟩ := q
      unfold replace at h
      split_ifs at h with hk
      · rcases mem_cons.mp h with rfl | h
        · exact .inl (by rw [hk])
        · exact .inr (mem_cons_of_mem _ h)
      · rcases mem_cons.mp h with rfl | h
        · exact .inr mem_cons_self
        · exact (ih h).imp_right (mem_cons_of_mem _)
  have hplace (m : OrdMap κ ν) (h : p ∈ m.place k v) : p = (k, v) ∨ p ∈ m := by
    induction m with
    | nil => exact .inl (mem_singleton.mp h)
    | cons q m ih =>
      obtain ⟨a, b⟩ := q
      unfold place at h
      split_ifs at h
      · exact mem_cons.mp h
      · rcases mem_cons.mp h with rfl | h
        · exact .inr mem_cons_self
        · exact (ih h).imp_right (mem_cons_of_mem _)
  unfold insert at h
  split_ifs at h
  · exact hreplace m h
  · exact hplace m h

/-- An insert leaves the other keys alone. -/
theorem get_insert_ne (m : OrdMap κ ν) (v : ν) (h : k' ≠ k) : (m.insert k v).get k' = m.get k' := by
  unfold insert
  split_ifs
  · exact get_replace_ne v h
  · exact get_place_ne v h

theorem get_insert (m : OrdMap κ ν) (k k' : κ) (v : ν) :
    (m.insert k v).get k' = if k' = k then some v else m.get k' := by
  split_ifs with h
  · rw [h, get_insert_self]
  · exact get_insert_ne m v h

theorem replace_place (v v' : ν) (h : m.get k = none) : (m.place k v).replace k v' = m.place k v' := by
  induction m with
  | nil => simp [place, replace]
  | cons p m ih =>
    obtain ⟨a, b⟩ := p
    by_cases hk : k = a
    · simp [get_cons, hk] at h
    · simp only [get_cons, if_neg hk] at h
      simp only [place]
      split_ifs
      · simp [replace]
      · simp [replace, hk, ih h]

/-- The value that was inserted last is the one that stays. -/
theorem insert_insert (m : OrdMap κ ν) (k : κ) (v v' : ν) : (m.insert k v).insert k v' = m.insert k v' := by
  have hsome : ((m.insert k v).get k).isSome := by
    rw [get_insert_self]
    rfl
  rw [insert, if_pos hsome]
  by_cases h : (m.get k).isSome
  · rw [insert, if_pos h, insert, if_pos h, replace_replace]
  · rw [insert, if_neg h, insert, if_neg h, replace_place v v' (by simpa using h)]

/-- Inserting the value that a key already has changes nothing. -/
theorem insert_get (h : m.get k = some v) : m.insert k v = m := by
  rw [insert, if_pos (by simp [h]), replace_get h]

end Order

/-- An erased key is gone. -/
@[simp] theorem get_erase_self (m : OrdMap κ ν) (k : κ) : (m.erase k).get k = none := by
  unfold erase
  induction m with
  | nil => rfl
  | cons p m ih =>
    obtain ⟨a, b⟩ := p
    by_cases hk : a = k
    · rw [filter_cons_of_neg (by simp [hk])]
      exact ih
    · rw [filter_cons_of_pos (by simp [hk]), get_cons, if_neg (Ne.symm hk)]
      exact ih

/-- Erasing a key leaves the others alone. -/
theorem get_erase_ne (m : OrdMap κ ν) (h : k' ≠ k) : (m.erase k).get k' = m.get k' := by
  unfold erase
  induction m with
  | nil => rfl
  | cons p m ih =>
    obtain ⟨a, b⟩ := p
    by_cases hk : a = k
    · rw [filter_cons_of_neg (by simp [hk]), get_cons, if_neg (by rw [hk]; exact h)]
      exact ih
    · rw [filter_cons_of_pos (by simp [hk]), get_cons, get_cons, ih]

theorem get_erase (m : OrdMap κ ν) (k k' : κ) : (m.erase k).get k' = if k' = k then none else m.get k' := by
  split_ifs with h
  · rw [h, get_erase_self]
  · exact get_erase_ne m h

theorem erase_cons_self (k : κ) (v : ν) (m : OrdMap κ ν) : erase ((k, v) :: m) k = m.erase k :=
  filter_cons_of_neg (by simp)

theorem erase_cons_ne {a : κ} (h : a ≠ k) (v : ν) (m : OrdMap κ ν) : erase ((a, v) :: m) k = (a, v) :: m.erase k :=
  filter_cons_of_pos (by simpa using h)

theorem erase_replace (m : OrdMap κ ν) (k : κ) (v : ν) : (m.replace k v).erase k = m.erase k := by
  induction m with
  | nil => rfl
  | cons p m ih =>
    obtain ⟨a, b⟩ := p
    by_cases hk : k = a
    · subst hk
      rw [replace, if_pos rfl, erase_cons_self, erase_cons_self]
    · rw [replace, if_neg hk, erase_cons_ne (Ne.symm hk), erase_cons_ne (Ne.symm hk), ih]

theorem erase_place [LT κ] [DecidableLT κ] (m : OrdMap κ ν) (k : κ) (v : ν) : (m.place k v).erase k = m.erase k := by
  induction m with
  | nil => exact erase_cons_self k v []
  | cons p m ih =>
    obtain ⟨a, b⟩ := p
    rw [place]
    split_ifs
    · exact erase_cons_self k v _
    · by_cases hk : a = k
      · subst hk
        rw [erase_cons_self, erase_cons_self, ih]
      · rw [erase_cons_ne hk, erase_cons_ne hk, ih]

/-- Erasing an absent key changes nothing. -/
theorem erase_get_none (h : m.get k = none) : m.erase k = m := by
  unfold erase
  rw [filter_eq_self]
  intro p hp
  induction m with
  | nil => simp at hp
  | cons q m ih =>
    obtain ⟨a, b⟩ := q
    by_cases hk : k = a
    · simp [get_cons, hk] at h
    · simp only [get_cons, if_neg hk] at h
      rcases mem_cons.mp hp with rfl | hp
      · simpa using Ne.symm hk
      · exact ih h hp

/-- In a map without repeated keys every entry is read back. -/
theorem get_of_mem (h : m.keys.Nodup) {p : κ × ν} (hp : p ∈ m) : m.get p.1 = some p.2 := by
  induction m with
  | nil => simp at hp
  | cons q m ih =>
    obtain ⟨a, b⟩ := q
    obtain ⟨ha, hm⟩ := nodup_cons.mp h
    rcases mem_cons.mp hp with rfl | hmem
    · rw [get_cons, if_pos rfl]
    · have hkey : p.1 ∈ keys m := mem_map_of_mem hmem
      have hne : p.1 ≠ a := fun heq => ha (heq ▸ hkey)
      rw [get_cons, if_neg hne, ih hm hmem]

/-! ## Maps without repeated keys -/

theorem get_eq_none_iff : m.get k = none ↔ k ∉ m.keys := by
  induction m with
  | nil => simp [keys]
  | cons p m ih =>
    obtain ⟨a, b⟩ := p
    have hkeys : keys ((a, b) :: m) = a :: keys m := rfl
    rw [hkeys, get_cons, mem_cons, not_or]
    by_cases hk : k = a <;> simp [hk, ← ih]

theorem nodup_erase (h : m.keys.Nodup) (k : κ) : (m.erase k).keys.Nodup := (filter_sublist.map Prod.fst).nodup h

/-- A map is an entry and the map without the entry's key. -/
theorem perm_cons_erase (h : m.keys.Nodup) (hk : m.get k = some v) : List.Perm m ((k, v) :: m.erase k) := by
  induction m with
  | nil => simp at hk
  | cons p m ih =>
    obtain ⟨a, b⟩ := p
    obtain ⟨ha, hm⟩ := nodup_cons.mp h
    by_cases hka : k = a
    · subst hka
      rw [get_cons, if_pos rfl, some.injEq] at hk
      have hrest : erase m k = m := erase_get_none (get_eq_none_iff.mpr ha)
      rw [erase_cons_self, hrest, hk]
    · rw [get_cons, if_neg hka] at hk
      rw [erase_cons_ne (Ne.symm hka)]
      exact ((ih hm hk).cons _).trans (Perm.swap _ _ _)

section OrderedKeys

variable [LT κ] [DecidableLT κ]

omit [DecidableEq κ] in
/-- A new entry is placed somewhere. -/
theorem place_perm (m : OrdMap κ ν) (k : κ) (v : ν) : List.Perm (m.place k v) ((k, v) :: m) := by
  induction m with
  | nil => rfl
  | cons p m ih =>
    obtain ⟨a, b⟩ := p
    rw [place]
    split_ifs
    · rfl
    · exact (ih.cons _).trans (List.Perm.swap _ _ _)

omit [LT κ] [DecidableLT κ] in
theorem keys_replace (m : OrdMap κ ν) (k : κ) (v : ν) : (m.replace k v).keys = m.keys := by
  induction m with
  | nil => rfl
  | cons p m ih =>
    obtain ⟨a, b⟩ := p
    by_cases hk : k = a
    · simp [replace, hk, keys]
    · rw [replace, if_neg hk]
      exact congrArg (a :: ·) ih

variable {m : OrdMap κ ν}

theorem nodup_insert (h : m.keys.Nodup) (k : κ) (v : ν) : (m.insert k v).keys.Nodup := by
  unfold insert
  split_ifs with hk
  · rwa [keys_replace]
  · have hnew : k ∉ m.keys := get_eq_none_iff.mp (by simpa using hk)
    exact ((place_perm m k v).map Prod.fst).nodup_iff.mpr (nodup_cons.mpr ⟨hnew, h⟩)

theorem erase_insert (m : OrdMap κ ν) (k : κ) (v : ν) : (m.insert k v).erase k = m.erase k := by
  unfold insert
  split_ifs with hk
  · exact erase_replace m k v
  · exact erase_place m k v

/-- A map with an entry set is the entry and the map without the entry's key. -/
theorem insert_perm (h : m.keys.Nodup) (k : κ) (v : ν) : List.Perm (m.insert k v) ((k, v) :: m.erase k) := by
  have hperm := perm_cons_erase (nodup_insert h k v) (get_insert_self m k v)
  rwa [erase_insert] at hperm

end OrderedKeys

/-! ## Maps by their entries -/

section Entries

variable {μ : Type*}

omit [DecidableEq κ] in
theorem keys_map_values (m : OrdMap κ ν) (f : ν → μ) : keys (m.map fun entry => (entry.1, f entry.2)) = m.keys := by
  unfold keys
  rw [List.map_map]
  rfl

theorem get_map_values (m : OrdMap κ ν) (f : ν → μ) (k : κ) :
    get (m.map fun entry => (entry.1, f entry.2)) k = (m.get k).map f := by
  induction m with
  | nil => rfl
  | cons entry m ih =>
    obtain ⟨k', v⟩ := entry
    rw [map_cons, get_cons, get_cons, ih]
    split_ifs
    all_goals rfl

variable {m : OrdMap κ ν}

/-- The entries of a map that meet a condition, by key. -/
theorem get_filter (h : m.keys.Nodup) (p : κ × ν → Bool) (k : κ) :
    get (m.filter p) k = (m.get k).filter fun v => p (k, v) := by
  induction m with
  | nil => rfl
  | cons q m ih =>
    obtain ⟨a, b⟩ := q
    obtain ⟨ha, hm⟩ := nodup_cons.mp h
    have ih : get (filter p m) k = (get m k).filter fun v => p (k, v) := ih hm
    rw [get_cons, filter_cons]
    by_cases hk : k = a
    · subst hk
      have hnone : get m k = none := get_eq_none_iff.mpr ha
      by_cases hp : p (k, b) = true
      · simp [hp, get_cons, filter_some]
      · simp [hp, ih, hnone, filter_some]
    · rw [if_neg hk]
      split_ifs
      · rw [get_cons, if_neg hk, ih]
      · exact ih

/-- The entries of a map whose keys meet a condition, by key. -/
theorem get_filter_key (m : OrdMap κ ν) (f : κ → Bool) (k : κ) :
    get (m.filter fun entry => f entry.1) k = if f k then m.get k else none := by
  induction m with
  | nil => simp
  | cons entry m ih =>
    obtain ⟨a, b⟩ := entry
    rw [filter_cons]
    by_cases ha : a = k
    · subst ha
      by_cases hf : f a = true
      · rw [if_pos hf, if_pos hf, get_cons, get_cons, if_pos rfl, if_pos rfl]
      · rw [if_neg hf, if_neg hf, ih, if_neg hf]
    · by_cases hf : f a = true
      · rw [if_pos hf, get_cons, get_cons, if_neg (Ne.symm ha), if_neg (Ne.symm ha), ih]
      · rw [if_neg hf, ih, get_cons, if_neg (Ne.symm ha)]

omit [DecidableEq κ] in
theorem nodup_filter (h : m.keys.Nodup) (p : κ × ν → Bool) : (keys (m.filter p)).Nodup :=
  (filter_sublist.map Prod.fst).nodup h

/-- The values of a map all meet a condition. -/
def All (p : ν → Prop) (m : OrdMap κ ν) : Prop := ∀ entry ∈ m, p entry.2

theorem All.insert [LT κ] [DecidableLT κ] {p : ν → Prop} (h : All p m) {k : κ} (hv : p v) : All p (m.insert k v) := by
  intro entry hentry
  rcases mem_insert hentry with rfl | hold
  · exact hv
  · exact h entry hold

end Entries

/-! ## Filling in what is missing -/

section Fill

variable [LT κ] [DecidableLT κ]

/-- Set the value of a key that has none, if there is one to set. -/
def insertMissing (m : OrdMap κ ν) (k : κ) (v : Option ν) : OrdMap κ ν :=
  match m.get k, v with
  | none, some v => m.insert k v
  | _, _ => m

/-- Set what is missing of a table, entry by entry. -/
def fill (m : OrdMap κ ν) (t : OrdMap κ (Option ν)) : OrdMap κ ν := t.foldl (fun m p => m.insertMissing p.1 p.2) m

variable {m : OrdMap κ ν} {t : OrdMap κ (Option ν)}

theorem insertMissing_of_some {k : κ} {a : ν} (h : m.get k = some a) (v : Option ν) : m.insertMissing k v = m := by
  unfold insertMissing
  rw [h]

@[simp] theorem insertMissing_none (m : OrdMap κ ν) (k : κ) : m.insertMissing k none = m := by
  unfold insertMissing
  cases m.get k <;> rfl

theorem get_insertMissing (m : OrdMap κ ν) (k k' : κ) (v : Option ν) :
    (m.insertMissing k v).get k' = if k' = k then (m.get k).or v else m.get k' := by
  unfold insertMissing
  cases hk : m.get k with
  | some a =>
    split_ifs with h
    · rw [h, hk]
      rfl
    · rfl
  | none =>
    cases v with
    | none =>
      split_ifs with h
      · rw [h, hk]
        rfl
      · rfl
    | some v => exact get_insert m k k' v

@[simp] theorem fill_nil (m : OrdMap κ ν) : m.fill [] = m := rfl

@[simp] theorem fill_cons (m : OrdMap κ ν) (k : κ) (v : Option ν) (t : OrdMap κ (Option ν)) :
    m.fill ((k, v) :: t) = (m.insertMissing k v).fill t := rfl

/-- A key outside the table is left alone. -/
theorem get_fill_of_notMem (m : OrdMap κ ν) {k : κ} (h : k ∉ t.keys) : (m.fill t).get k = m.get k := by
  induction t generalizing m with
  | nil => rfl
  | cons p t ih =>
    obtain ⟨a, v⟩ := p
    obtain ⟨hk, ht⟩ : k ≠ a ∧ k ∉ keys t := by simpa [keys] using h
    rw [fill_cons, ih _ ht, get_insertMissing, if_neg hk]

/-- A key of the table keeps its value, or gets the one of the table. -/
theorem get_fill (m : OrdMap κ ν) (ht : t.keys.Nodup) (k : κ) : (m.fill t).get k = (m.get k).or (t.get k).join := by
  induction t generalizing m with
  | nil => simp
  | cons p t ih =>
    obtain ⟨a, v⟩ := p
    obtain ⟨ha, ht⟩ := nodup_cons.mp ht
    by_cases hk : k = a
    · subst hk
      rw [fill_cons, get_fill_of_notMem _ ha, get_insertMissing, if_pos rfl, get_cons, if_pos rfl]
      rfl
    · rw [fill_cons, ih _ ht, get_insertMissing, if_neg hk, get_cons, if_neg hk]

/-- A table that adds nothing changes nothing. -/
theorem fill_eq_self (h : ∀ p ∈ t, m.get p.1 = none → p.2 = none) : m.fill t = m := by
  induction t with
  | nil => rfl
  | cons p t ih =>
    obtain ⟨k, v⟩ := p
    have hfirst : m.insertMissing k v = m := by
      cases hk : m.get k with
      | some a => exact insertMissing_of_some hk v
      | none =>
        have hv : v = none := h (k, v) mem_cons_self hk
        rw [hv, insertMissing_none]
    rw [fill_cons, hfirst, ih fun p hp => h p (mem_cons_of_mem _ hp)]

theorem nodup_fill (h : m.keys.Nodup) (t : OrdMap κ (Option ν)) : (m.fill t).keys.Nodup := by
  induction t generalizing m with
  | nil => exact h
  | cons entry t ih =>
    obtain ⟨k, v⟩ := entry
    rw [fill_cons]
    refine ih ?_
    unfold insertMissing
    split
    · exact nodup_insert h k _
    · exact h

end Fill

end OrdMap

end Clawhip
