import Clawhip.Lib.Text

/-!
# Wildcards

A pattern is a list in which one item, the star, stands for any list. `Expands` replaces the stars one after
the other; `Follow` says the same of the pieces between them, of which all but the first may stand anywhere
behind the piece before (`expands_iff_follow`). To look for a piece at its first occurrence is enough: what
follows a later one also follows the first (`follow_cons_iff`).
-/

namespace Clawhip

open List Text

section Patterns

variable {α : Type*} {star : α}

/-- A list that a pattern becomes when each star is replaced by some list. -/
inductive Expands (star : α) : List α → List α → Prop
  | nil : Expands star [] []
  | item {a : α} {pattern value : List α} (ha : a ≠ star) (h : Expands star pattern value) :
    Expands star (a :: pattern) (a :: value)
  | star {pattern value : List α} (filling : List α) (h : Expands star pattern value) :
    Expands star (star :: pattern) (filling ++ value)

/-- The pieces stand in the list, one behind the other, and the last one at the end. -/
def Follow : List (List α) → List α → Prop
  | [], _ => False
  | [piece], value => piece <:+ value
  | piece :: pieces, value => ∃ before after, value = before ++ (piece ++ after) ∧ Follow pieces after

variable {piece value next : List α} {pieces : List (List α)}

theorem follow_singleton : Follow [piece] value ↔ piece <:+ value := Iff.rfl

theorem follow_cons_cons : Follow (piece :: next :: pieces) value ↔
      ∃ before after, value = before ++ (piece ++ after) ∧ Follow (next :: pieces) after := Iff.rfl

/-- What stands in a list stands in a longer one. -/
theorem Follow.append (h : Follow pieces value) (before : List α) : Follow pieces (before ++ value) := by
  cases pieces with
  | nil => exact h
  | cons piece pieces =>
    cases pieces with
    | nil => exact IsSuffix.trans h (suffix_append before value)
    | cons next pieces =>
      obtain ⟨between, after, rfl, hrest⟩ := follow_cons_cons.mp h
      exact ⟨before ++ between, after, (append_assoc _ _ _).symm, hrest⟩

/-- An empty piece stands everywhere. -/
theorem follow_nil_cons : Follow ([] :: next :: pieces) value ↔ Follow (next :: pieces) value := by
  constructor
  · intro h
    obtain ⟨before, after, rfl, hrest⟩ := follow_cons_cons.mp h
    exact hrest.append before
  · exact fun h => ⟨[], value, rfl, h⟩

variable [DecidableEq α]

/-- The pieces of a pattern between its stars. -/
def piecesOf (star : α) : List α → List (List α)
  | [] => [[]]
  | a :: pattern =>
    if a = star then [] :: piecesOf star pattern
    else
      match piecesOf star pattern with
      | [] => [[a]]
      | piece :: pieces => (a :: piece) :: pieces

theorem piecesOf_ne_nil (star : α) (pattern : List α) : piecesOf star pattern ≠ [] := by
  cases pattern with
  | nil => exact cons_ne_nil _ _
  | cons a pattern =>
    unfold piecesOf
    split_ifs
    · exact cons_ne_nil _ _
    · cases piecesOf star pattern <;> exact cons_ne_nil _ _

theorem piecesOf_star (pattern : List α) : piecesOf star (star :: pattern) = [] :: piecesOf star pattern := by
  rw [piecesOf, if_pos rfl]

variable {pattern : List α}

theorem piecesOf_item {a : α} (ha : a ≠ star) (h : piecesOf star pattern = piece :: pieces) :
    piecesOf star (a :: pattern) = (a :: piece) :: pieces := by
  rw [piecesOf, if_neg ha, h]

/-- The first piece stands at the front of the list, and the others behind it. -/
def Fits : List (List α) → List α → Prop
  | [], _ => False
  | [piece], value => value = piece
  | piece :: pieces, value => ∃ after, value = piece ++ after ∧ Follow pieces after

omit [DecidableEq α] in
theorem fits_cons_cons : Fits (piece :: next :: pieces) value ↔
      ∃ after, value = piece ++ after ∧ Follow (next :: pieces) after := Iff.rfl

omit [DecidableEq α] in
/-- Pieces follow if and only if they fit behind some list. -/
theorem follow_iff_fits : Follow pieces value ↔ ∃ before after, value = before ++ after ∧ Fits pieces after := by
  cases pieces with
  | nil => exact ⟨False.elim, fun ⟨_, _, _, h⟩ => h⟩
  | cons piece pieces =>
    cases pieces with
    | nil =>
      constructor
      · rintro ⟨before, rfl⟩
        exact ⟨before, piece, rfl, rfl⟩
      · rintro ⟨before, after, rfl, rfl⟩
        exact suffix_append before _
    | cons next pieces =>
      constructor
      · rintro ⟨before, after, rfl, h⟩
        exact ⟨before, piece ++ after, rfl, after, rfl, h⟩
      · rintro ⟨before, after, rfl, rest, rfl, h⟩
        exact ⟨before, rest, rfl, h⟩

/-- A pattern becomes the lists that its pieces fit in. -/
theorem expands_iff_fits : Expands star pattern value ↔ Fits (piecesOf star pattern) value := by
  induction pattern generalizing value with
  | nil =>
    constructor
    · rintro ⟨⟩
      rfl
    · intro h
      have hnil : value = [] := h
      rw [hnil]
      exact .nil
  | cons a pattern ih =>
    obtain ⟨piece, pieces, hpieces⟩ := exists_cons_of_ne_nil (piecesOf_ne_nil star pattern)
    by_cases ha : a = star
    · subst ha
      rw [piecesOf_star, hpieces, fits_cons_cons]
      constructor
      · rintro (_ | _ | ⟨filling, h⟩)
        · contradiction
        · rw [ih, hpieces] at h
          exact ⟨_, rfl, follow_iff_fits.mpr ⟨filling, _, rfl, h⟩⟩
      · rintro ⟨after, rfl, h⟩
        obtain ⟨filling, rest, rfl, hrest⟩ := follow_iff_fits.mp h
        exact .star filling (ih.mpr (hpieces ▸ hrest))
    · rw [piecesOf_item ha hpieces]
      -- the item stands at the front of the first piece
      have hfits : ∀ {rest : List α}, Fits ((a :: piece) :: pieces) (a :: rest) ↔ Fits (piece :: pieces) rest := by
        intro rest
        cases pieces with
        | nil => exact cons_inj_right a
        | cons next pieces =>
          rw [fits_cons_cons, fits_cons_cons]
          simp only [cons_append, cons_inj_right]
      constructor
      · rintro (_ | ⟨_, h⟩ | _)
        · rw [ih, hpieces] at h
          exact hfits.mpr h
        · contradiction
      · intro h
        obtain ⟨rest, rfl⟩ : ∃ rest, value = a :: rest := by
          cases pieces with
          | nil => exact ⟨piece, h⟩
          | cons next pieces =>
            obtain ⟨after, rfl, -⟩ := fits_cons_cons.mp h
            exact ⟨piece ++ after, rfl⟩
        exact .item ha (ih.mpr (hpieces ▸ hfits.mp h))

end Patterns

/-! ## The first occurrence -/

section First

variable {piece value rest : List Char}

/-- What follows the first occurrence follows an occurrence. -/
theorem exists_of_afterGo (h : afterGo piece value = some rest) : ∃ before, value = before ++ (piece ++ rest) := by
  induction value with
  | nil =>
    unfold afterGo at h
    split_ifs at h with hempty
    rw [← Option.some.inj h, isEmpty_iff.mp hempty]
    exact ⟨[], rfl⟩
  | cons c value ih =>
    unfold afterGo at h
    split_ifs at h with hprefix
    · obtain ⟨tail, htail⟩ := isPrefixOf_iff_prefix.mp hprefix
      rw [← htail, drop_left] at h
      exact ⟨[], by rw [← htail, Option.some.inj h]; rfl⟩
    · obtain ⟨before, hbefore⟩ := ih h
      exact ⟨c :: before, by rw [hbefore]; rfl⟩

/-- What follows any occurrence is the end of what follows the first one. -/
theorem afterGo_first {before after : List Char} (h : value = before ++ (piece ++ after)) :
    ∃ between, afterGo piece value = some (between ++ after) := by
  induction value generalizing before with
  | nil =>
    have hnil := append_eq_nil_iff.mp h.symm
    have hpiece := append_eq_nil_iff.mp hnil.2
    rw [hpiece.1, hpiece.2]
    exact ⟨[], rfl⟩
  | cons c value ih =>
    unfold afterGo
    split_ifs with hprefix
    · obtain ⟨tail, htail⟩ := isPrefixOf_iff_prefix.mp hprefix
      rw [← htail, drop_left]
      -- both are ends of the same list, and the later one is not longer
      have hlater : after <:+ c :: value := ⟨before ++ piece, by rw [h, append_assoc]⟩
      have hfirst : tail <:+ c :: value := ⟨piece, htail⟩
      have hsuffix : after <:+ tail := by
        refine suffix_of_suffix_length_le hlater hfirst ?_
        have hlen := congrArg length (htail.trans h)
        simp only [length_append] at hlen
        omega
      obtain ⟨between, hbetween⟩ := hsuffix
      exact ⟨between, by rw [hbetween]⟩
    · cases before with
      | nil => exact absurd (List.isPrefixOf_iff_prefix.mpr ⟨after, h.symm⟩) hprefix
      | cons d before => exact ih (cons.inj h).2

theorem contains_iff {s pattern : String} : Text.contains s pattern = true ↔ pattern.toList <:+: s.toList := by
  unfold Text.contains Text.after
  rw [Option.isSome_iff_exists]
  constructor
  · rintro ⟨rest, h⟩
    obtain ⟨before, hbefore⟩ := exists_of_afterGo h
    exact ⟨before, rest, by rw [hbefore, append_assoc]⟩
  · rintro ⟨before, after, h⟩
    obtain ⟨between, hfirst⟩ := afterGo_first (h.symm.trans (append_assoc _ _ _))
    exact ⟨_, hfirst⟩

/-- The first occurrence is enough. -/
theorem follow_cons_iff {next : List Char} {pieces : List (List Char)} : Follow (piece :: next :: pieces) value ↔
      ∃ rest, afterGo piece value = some rest ∧ Follow (next :: pieces) rest := by
  rw [follow_cons_cons]
  constructor
  · rintro ⟨before, after, hvalue, hrest⟩
    obtain ⟨between, hfirst⟩ := afterGo_first hvalue
    exact ⟨between ++ after, hfirst, hrest.append between⟩
  · rintro ⟨rest, hfirst, hrest⟩
    obtain ⟨before, hvalue⟩ := exists_of_afterGo hfirst
    exact ⟨before, rest, hvalue, hrest⟩

variable (star : Char)

/-- Cutting a text at one character gives the pieces between its occurrences. -/
theorem splitGo_singleton (pattern piece : List Char) : ∃ first pieces, piecesOf star pattern = first :: pieces ∧
      splitGo [star] pattern 0 piece = (piece.reverse ++ first) :: pieces := by
  induction pattern generalizing piece with
  | nil => exact ⟨[], [], rfl, by rw [append_nil]; rfl⟩
  | cons c pattern ih =>
    unfold splitGo
    by_cases hc : c = star
    · subst hc
      obtain ⟨first, pieces, hpieces, hsplit⟩ := ih []
      refine ⟨[], first :: pieces, by rw [piecesOf_star, hpieces], ?_⟩
      rw [if_pos (by simp), append_nil]
      exact congrArg _ hsplit
    · obtain ⟨first, pieces, hpieces, hsplit⟩ := ih (c :: piece)
      refine ⟨c :: first, pieces, piecesOf_item hc hpieces, ?_⟩
      rw [if_neg (by simpa using fun h => hc h.symm), hsplit, reverse_cons, append_assoc]
      rfl

theorem splitGo_eq_piecesOf (pattern : List Char) : splitGo [star] pattern 0 [] = piecesOf star pattern := by
  obtain ⟨first, pieces, hpieces, hsplit⟩ := splitGo_singleton star pattern []
  rw [hsplit, hpieces]
  rfl

end First

end Clawhip
