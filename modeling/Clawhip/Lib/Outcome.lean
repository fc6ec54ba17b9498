import Mathlib.Data.List.Forall2

/-!
# Computations that may fail

What is known of the steps of a computation in `Except` that came out well.
-/

namespace Clawhip

variable {ε α β : Type} {next : α → Except ε β} {f : α → Except ε β} {first : Except ε α} {items : List α}
  {results : List β}

/-- A computation in steps comes out well if every step does. -/
theorem bind_eq_ok {b : β} : first >>= next = .ok b ↔ ∃ a, first = .ok a ∧ next a = .ok b := by
  cases first with
  | error e =>
    constructor
    · intro h
      cases h
    · rintro ⟨a, h, -⟩
      cases h
  | ok a =>
    constructor
    · exact fun h => ⟨a, rfl, h⟩
    · rintro ⟨a', ha, h⟩
      rw [Except.ok.inj ha]
      exact h

/-- A computation fails where its first part or its second part does. -/
theorem bind_eq_error {e : ε} :
    first >>= next = .error e ↔ first = .error e ∨ ∃ a, first = .ok a ∧ next a = .error e := by
  cases first with
  | error error =>
    constructor
    · exact fun h => .inl (congrArg Except.error (Except.error.inj h))
    · rintro (h | ⟨a, ha, -⟩)
      · cases h
        rfl
      · cases ha
  | ok a =>
    constructor
    · exact fun h => .inr ⟨a, rfl, h⟩
    · rintro (h | ⟨b, hb, h⟩)
      · cases h
      · cases hb
        exact h

variable {a : α}

/-- A computation in steps comes out well if its first step does, and the rest does from there. -/
theorem exists_bind_ok (hfirst : first = .ok a) (hnext : ∃ b, next a = .ok b) : ∃ b, first >>= next = .ok b := by
  obtain ⟨b, hnext⟩ := hnext
  exact ⟨b, bind_eq_ok.mpr ⟨a, hfirst, hnext⟩⟩

theorem exists_of_mem_left {R : α → β → Prop}
    (h : List.Forall₂ R items results) (ha : a ∈ items) : ∃ b ∈ results, R a b := by
  induction h with
  | nil => exact absurd ha List.not_mem_nil
  | cons hfirst _ ih =>
    rcases List.mem_cons.mp ha with rfl | ha
    · exact ⟨_, List.mem_cons_self, hfirst⟩
    · obtain ⟨b, hb, hrelated⟩ := ih ha
      exact ⟨b, List.mem_cons_of_mem _ hb, hrelated⟩

/-- A computation for every item of a list comes out well if each does. -/
theorem mapM_eq_ok : items.mapM f = .ok results ↔ List.Forall₂ (fun a b => f a = .ok b) items results := by
  constructor
  · intro h
    induction items generalizing results with
    | nil =>
      cases h
      exact .nil
    | cons a items ih =>
      rw [List.mapM_cons] at h
      obtain ⟨b, hfirst, h⟩ := bind_eq_ok.mp h
      obtain ⟨rest, hrest, h⟩ := bind_eq_ok.mp h
      rw [← Except.ok.inj h]
      exact .cons hfirst (ih hrest)
  · intro h
    induction h with
    | nil => rfl
    | cons hfirst _ ih =>
      rw [List.mapM_cons]
      exact bind_eq_ok.mpr ⟨_, hfirst, bind_eq_ok.mpr ⟨_, ih, rfl⟩⟩

theorem ok_of_mem_mapM (h : items.mapM f = .ok results) (ha : a ∈ items) : ∃ b, f a = .ok b := by
  obtain ⟨b, -, hok⟩ := exists_of_mem_left (mapM_eq_ok.mp h) ha
  exact ⟨b, hok⟩

theorem exists_of_toOption {answer : Except ε α} (h : answer.toOption.isSome = true) : ∃ value, answer = .ok value := by
  cases answer with
  | error => cases h
  | ok value => exact ⟨value, rfl⟩

end Clawhip
