import Mathlib.Algebra.BigOperators.Group.List.Basic
import Mathlib.Data.List.Basic
import Mathlib.Algebra.GroupWithZero.Nat

/-!
# Trails

A trail is a list of entries noted along a run. Every entry knows the state before it and the state
after it; between two entries the state may change in ways that do not matter, which `Keeps` says.
`Alarm` is a flag that bad entries raise and other entries clear; the rules about it count what is
announced during a run of bad entries.
-/

namespace Clawhip

open List

/-- How the entries `α` of a trail are connected through states `σ`. -/
structure Trail (σ α : Type*) where
  before : α → σ
  after : α → σ
  /-- What may happen to a state between two entries. -/
  Keeps : σ → σ → Prop
  refl : ∀ s, Keeps s s
  trans : ∀ {s t u}, Keeps s t → Keeps t u → Keeps s u

namespace Trail

variable {σ α : Type*} (T : Trail σ α)

/-- The entries lead from one state to another. -/
def Linked : σ → List α → σ → Prop
  | s, [], s' => T.Keeps s s'
  | s, a :: l, s' => T.Keeps s (T.before a) ∧ Linked (T.after a) l s'

variable {T}

variable {l : List α} {s s' : σ} {t : σ}

/-- What happens before the first entry does not matter. -/
theorem Linked.of_keeps (hkeeps : T.Keeps s t) (h : T.Linked t l s') : T.Linked s l s' := by
  cases l with
  | nil => exact T.trans hkeeps h
  | cons a l => exact ⟨T.trans hkeeps h.1, h.2⟩

variable {m : List α}

/-- Two lists of entries lead on from one another. -/
theorem linked_append : T.Linked s (l ++ m) s' ↔ ∃ t, T.Linked s l t ∧ T.Linked t m s' := by
  induction l generalizing s with
  | nil =>
    constructor
    · intro h
      exact ⟨s, T.refl s, h⟩
    · rintro ⟨t, hkeeps, h⟩
      exact h.of_keeps hkeeps
  | cons a l ih =>
    constructor
    · rintro ⟨hkeeps, h⟩
      obtain ⟨t, hl, hm⟩ := ih.mp h
      exact ⟨t, ⟨hkeeps, hl⟩, hm⟩
    · rintro ⟨t, ⟨hkeeps, hl⟩, hm⟩
      exact ⟨hkeeps, ih.mpr ⟨t, hl, hm⟩⟩

theorem Linked.append (hl : T.Linked s l t) (hm : T.Linked t m s') : T.Linked s (l ++ m) s' :=
  linked_append.mpr ⟨t, hl, hm⟩

theorem Linked.then_keeps (h : T.Linked s l t) (hkeeps : T.Keeps t s') : T.Linked s l s' := by
  have happend : T.Linked s (l ++ []) s' := h.append hkeeps
  rwa [append_nil] at happend

/-- What the last entry leaves is kept to the end. -/
theorem Linked.keeps_last {a : α} (h : T.Linked s (l ++ [a]) s') : T.Keeps (T.after a) s' := by
  obtain ⟨t, -, ha⟩ := linked_append.mp h
  exact ha.2

/-! ## Alarms -/

/-- A flag, the number of times it was raised, and what every entry announces. -/
structure Alarm (T : Trail σ α) where
  raised : σ → Bool
  number : σ → ℕ
  Bad : α → Prop
  announced : α → ℕ
  keeps_raised : ∀ {s t}, T.Keeps s t → raised t = raised s
  keeps_number : ∀ {s t}, T.Keeps s t → number t = number s

/-- An entry that raises and clears the flag as it should. -/
structure Alarm.Lawful (A : Alarm T) (a : α) : Prop where
  opens : A.Bad a → A.raised (T.before a) = false → A.raised (T.after a) = true ∧ A.announced a = 1 ∧
      A.number (T.before a) < A.number (T.after a)
  continues : A.Bad a → A.raised (T.before a) = true → A.raised (T.after a) = true ∧ A.announced a = 0
  closes : ¬ A.Bad a → A.raised (T.after a) = false
  mono : A.number (T.before a) ≤ A.number (T.after a)

variable {A : Alarm T}

section

variable (h : T.Linked s l s')
include h

section

variable (hl : ∀ a ∈ l, A.Lawful a)
include hl

/-- The number never decreases. -/
theorem Alarm.number_le : A.number s ≤ A.number s' := by
  induction l generalizing s with
  | nil => exact Nat.le_of_eq (A.keeps_number h).symm
  | cons a l ih =>
    have hrest := ih h.2 fun b hb => hl b (mem_cons_of_mem _ hb)
    have hkeeps := A.keeps_number h.1
    have hmono := (hl a mem_cons_self).mono
    omega

/-- Bad entries announce nothing while the flag is raised. -/
theorem Alarm.silent_while_raised (hbad : ∀ a ∈ l, A.Bad a) (hs : A.raised s = true) : (l.map A.announced).sum = 0 := by
  induction l generalizing s with
  | nil => rfl
  | cons a l ih =>
    have hraised : A.raised (T.before a) = true := (A.keeps_raised h.1).trans hs
    obtain ⟨hafter, hannounced⟩ := (hl a mem_cons_self).continues (hbad a mem_cons_self) hraised
    have hrest := ih h.2 (fun b hb => hl b (mem_cons_of_mem _ hb)) (fun b hb => hbad b (mem_cons_of_mem _ hb)) hafter
    rw [map_cons, sum_cons, hannounced, hrest]

/-- A run of bad entries that starts with a cleared flag announces once. -/
theorem Alarm.announced_once (hbad : ∀ a ∈ l, A.Bad a)
    (hne : l ≠ []) (hs : A.raised s = false) : (l.map A.announced).sum = 1 := by
  cases l with
  | nil => exact absurd rfl hne
  | cons a l =>
    have hcleared : A.raised (T.before a) = false := (A.keeps_raised h.1).trans hs
    obtain ⟨hafter, hannounced, -⟩ := (hl a mem_cons_self).opens (hbad a mem_cons_self) hcleared
    have hrest := silent_while_raised h.2 (fun b hb => hl b (mem_cons_of_mem _ hb))
      (fun b hb => hbad b (mem_cons_of_mem _ hb)) hafter
    rw [map_cons, sum_cons, hannounced, hrest]

/-- The flag is cleared before a run of bad entries that does not continue another one. -/
theorem Alarm.cleared (hlast : ∀ a ∈ l.getLast?, ¬ A.Bad a) (hs : A.raised s = false) : A.raised s' = false := by
  rcases eq_nil_or_concat' l with rfl | ⟨l, a, rfl⟩
  · exact (A.keeps_raised h).trans hs
  · have ha : ¬ A.Bad a := hlast a (by simp)
    exact (A.keeps_raised h.keeps_last).trans ((hl a (by simp)).closes ha)

end

end

/-- Every maximal run of bad entries announces once. -/
theorem Alarm.once {pre run post : List α} (h : T.Linked s (pre ++ run ++ post) s')
    (hl : ∀ a ∈ pre ++ run ++ post, A.Lawful a) (hs : A.raised s = false)
    (hlast : ∀ a ∈ pre.getLast?, ¬ A.Bad a) (hne : run ≠ []) (hbad : ∀ a ∈ run, A.Bad a) :
    (run.map A.announced).sum = 1 := by
  obtain ⟨u, hrun, -⟩ := linked_append.mp h
  obtain ⟨t, hpre, hrun⟩ := linked_append.mp hrun
  have hmem {a : α} (ha : a ∈ pre ∨ a ∈ run) : a ∈ pre ++ run ++ post := mem_append_left _ (mem_append.mpr ha)
  have hcleared := cleared hpre (fun a ha => hl a (hmem (.inl ha))) hlast hs
  exact announced_once hrun (fun a ha => hl a (hmem (.inr ha))) hbad hne hcleared

/-- What a later bad entry announces has a larger number. -/
theorem Alarm.number_lt {pre mid post : List α} {a b : α} (h : T.Linked s (pre ++ a :: mid ++ b :: post) s')
    (hl : ∀ c ∈ pre ++ a :: mid ++ b :: post, A.Lawful c) (hb : A.Bad b) (hannounced : A.announced b ≠ 0) :
    A.number (T.after a) < A.number (T.after b) := by
  obtain ⟨u, hu, hkeeps, -⟩ := linked_append.mp h
  obtain ⟨t, -, -, hmid⟩ := linked_append.mp hu
  have hle := number_le hmid fun c hc => hl c (by simp [hc])
  have heq := A.keeps_number hkeeps
  have hlawful := hl b (by simp)
  cases hraised : A.raised (T.before b) with
  | true => exact absurd (hlawful.continues hb hraised).2 hannounced
  | false =>
    have hlt := (hlawful.opens hb hraised).2.2
    omega

end Trail

end Clawhip
