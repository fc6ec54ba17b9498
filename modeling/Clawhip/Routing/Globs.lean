import Clawhip.Routing.Explain
import Clawhip.Lib.Wildcard
import Clawhip.Lib.Utf8

/-!
# Wildcard matching

`glob_match` of `src/router.rs` and its copy in `src/source/workspace.rs`, with the offsets that they slice at:
a slice off a character boundary has no value. Both decide which values a pattern becomes when its stars are
replaced (`globMatch_exact`).
-/

namespace Clawhip.Glob

open Router

open Utf8 (bytes splitAt?)

/-- `str::find`: the offset of the first occurrence. -/
def find (part : List Char) : List Char → Option ℕ
  | [] => if part.isEmpty then some 0 else none
  | c :: remainder =>
    if part.isPrefixOf (c :: remainder) then some 0
    else (find part remainder).map fun position => c.utf8Size + position

/-- `&remainder[offset..]`. -/
def sliceFrom (remainder : List Char) (offset : ℕ) : Option (List Char) := (splitAt? remainder offset).map Prod.snd

/-- The loop over the parts between the wildcards, of which the last one is `last`. -/
def parts (starts ends : Bool) (last : ℕ) : ℕ → List (List Char) → List Char → Option Bool
  | _, [], remainder => some (ends || remainder.isEmpty)
  | index, part :: rest, remainder =>
    if part.isEmpty then parts starts ends last (index + 1) rest remainder
    else if index == 0 && !starts then
      if !part.isPrefixOf remainder then some false
      else (sliceFrom remainder (bytes part).length).bind (parts starts ends last (index + 1) rest)
    else if index == last && !ends then some (part.isSuffixOf remainder)
    else match find part remainder with
      | some position =>
        (sliceFrom remainder (position + (bytes part).length)).bind (parts starts ends last (index + 1) rest)
      | none => some false

end Clawhip.Glob

namespace Clawhip.Router

/-- `glob_match` of the router, with its slices. -/
def slicedGlobMatch (pattern value : String) : Option Bool :=
  if pattern == value then some true
  else if !Text.contains pattern "*" then some false
  else
    let parts := (Text.split pattern "*").map String.toList
    Glob.parts (Text.startsWith pattern "*") (Text.endsWith pattern "*") (parts.length - 1) 0 parts
      value.toList

end Clawhip.Router

namespace Clawhip.Workspace

/-- `glob_match` of the workspace watcher, with its slices. -/
def slicedGlobMatch (pattern value : String) : Option Bool :=
  if pattern == value then some true
  else if !Text.contains pattern "*" then some false
  else
    let parts := (Text.split pattern "*").map String.toList
    Glob.parts (Text.startsWith pattern "*") (Text.endsWith pattern "*") (parts.length - 1) 0 parts
      value.toList

end Clawhip.Workspace

namespace Clawhip.Glob

open List

open Utf8 (bytes splitAt?)

/-! ## The slices -/

/-- The offset behind an occurrence is a character boundary. -/
theorem sliceFrom_append (before after : List Char) :
    sliceFrom (before ++ after) (bytes before).length = some after := by
  unfold sliceFrom
  rw [Utf8.splitAt?_append]
  rfl

/-- The first occurrence is found where what follows it begins. -/
theorem find_afterGo (part remainder : List Char) : (find part remainder = none ∧ Text.afterGo part remainder = none) ∨
      ∃ before after, remainder = before ++ (part ++ after) ∧
        find part remainder = some (bytes before).length ∧ Text.afterGo part remainder = some after := by
  induction remainder with
  | nil =>
    unfold find Text.afterGo
    split_ifs with hempty
    · exact .inr ⟨[], [], by rw [isEmpty_iff.mp hempty]; rfl, rfl, rfl⟩
    · exact .inl ⟨rfl, rfl⟩
  | cons c remainder ih =>
    unfold find Text.afterGo
    split_ifs with hprefix
    · obtain ⟨after, hafter⟩ := isPrefixOf_iff_prefix.mp hprefix
      exact .inr ⟨[], after, hafter.symm, rfl, by rw [← hafter, drop_left]⟩
    · rcases ih with ⟨hfind, hafter⟩ | ⟨before, after, hremainder, hfind, hafter⟩
      · exact .inl ⟨by rw [hfind]; rfl, hafter⟩
      · refine .inr ⟨c :: before, after, by rw [hremainder]; rfl, ?_, hafter⟩
        rw [hfind, Utf8.bytes_cons, length_append, String.length_utf8EncodeChar]
        rfl

/-- Every slice has a value, and the loop is the one over the texts that are left. -/
theorem parts_eq (starts ends : Bool) (last index : ℕ) (rest : List (List Char)) (remainder : List Char) :
    parts starts ends last index rest remainder = some (Router.globParts starts ends last index rest remainder) := by
  induction rest generalizing index remainder with
  | nil => rfl
  | cons part rest ih =>
    unfold parts Router.globParts
    by_cases hempty : part.isEmpty = true
    · rw [if_pos hempty, if_pos hempty]
      exact ih _ _
    rw [if_neg hempty, if_neg hempty]
    by_cases hfirst : (index == 0 && !starts) = true
    · rw [if_pos hfirst, if_pos hfirst]
      cases hprefix : part.isPrefixOf remainder with
      | false => rfl
      | true =>
        obtain ⟨after, rfl⟩ := isPrefixOf_iff_prefix.mp hprefix
        rw [sliceFrom_append, drop_left]
        exact ih _ _
    rw [if_neg hfirst, if_neg hfirst]
    by_cases hlast : (index == last && !ends) = true
    · rw [if_pos hlast, if_pos hlast]
    rw [if_neg hlast, if_neg hlast]
    rcases find_afterGo part remainder with ⟨hfind, hafter⟩ | ⟨before, after, rfl, hfind, hafter⟩
    · rw [hfind, hafter]
    · have hoffset : (bytes before).length + (bytes part).length = (bytes (before ++ part)).length := by
        rw [Utf8.bytes_append, length_append]
      rw [hfind, hafter]
      simp only
      rw [hoffset, ← append_assoc, sliceFrom_append]
      exact ih _ _

/-! ## Completeness -/

variable {remainder pattern : List Char} {rest : List (List Char)} {star : Char} {starts ends : Bool}

/-- Behind the first part, the loop decides whether the parts follow. -/
theorem globParts_iff_follow {last index : ℕ} (hne : rest ≠ []) (hindex : 0 < index)
    (hlast : index + rest.length = last + 1) (hends : ends = true ↔ rest.getLast hne = []) :
    Router.globParts starts ends last index rest remainder = true ↔ Follow rest remainder := by
  induction rest generalizing index remainder with
  | nil => exact absurd rfl hne
  | cons part rest ih =>
    unfold Router.globParts
    have hfirst : (index == 0) = false := by
      rw [beq_eq_false_iff_ne]
      omega
    rw [hfirst, Bool.false_and, if_neg Bool.false_ne_true]
    cases rest with
    | nil =>
      rw [length_singleton] at hlast
      have hindexLast : (index == last) = true := by
        rw [beq_iff_eq]
        omega
      rw [getLast_singleton] at hends
      rw [follow_singleton, hindexLast, Bool.true_and]
      by_cases hempty : part = []
      · rw [if_pos (isEmpty_iff.mpr hempty), hends.mpr hempty, hempty]
        simp [Router.globParts]
      · have hfalse : ends = false := by
          rw [← Bool.not_eq_true]
          exact fun h => hempty (hends.mp h)
        rw [if_neg (fun h => hempty (isEmpty_iff.mp h)), hfalse, if_pos (by decide)]
        exact isSuffixOf_iff_suffix
    | cons next rest =>
      rw [length_cons, length_cons] at hlast
      have hindexLast : (index == last) = false := by
        rw [beq_eq_false_iff_ne]
        omega
      have hends' : ends = true ↔ (next :: rest).getLast (cons_ne_nil _ _) = [] := by
        rwa [getLast_cons (cons_ne_nil _ _)] at hends
      have hrest : ∀ {remainder : List Char},
          Router.globParts starts ends last (index + 1) (next :: rest) remainder = true ↔
            Follow (next :: rest) remainder :=
        ih (cons_ne_nil _ _) (Nat.succ_pos _) (by rw [length_cons]; omega) hends'
      rw [hindexLast, Bool.false_and, if_neg Bool.false_ne_true]
      by_cases hempty : part = []
      · rw [if_pos (isEmpty_iff.mpr hempty), hrest, hempty, follow_nil_cons]
      · rw [if_neg (fun h => hempty (isEmpty_iff.mp h)), follow_cons_iff]
        cases Text.afterGo part remainder with
        | none => simp
        | some after => simp [hrest]

/-- From the first part on, the loop decides whether the parts fit. -/
theorem globParts_iff_fits {part next : List Char} (hstarts : starts = true ↔ part = [])
    (hends : ends = true ↔ (next :: rest).getLast (cons_ne_nil _ _) = []) :
    Router.globParts starts ends (rest.length + 1) 0 (part :: next :: rest) remainder = true ↔
      Fits (part :: next :: rest) remainder := by
  have hrest : ∀ {remainder : List Char},
      Router.globParts starts ends (rest.length + 1) 1 (next :: rest) remainder = true ↔
        Follow (next :: rest) remainder :=
    globParts_iff_follow (cons_ne_nil _ _) Nat.one_pos (by rw [length_cons]; omega) hends
  rw [fits_cons_cons]
  unfold Router.globParts
  by_cases hempty : part = []
  · rw [if_pos (isEmpty_iff.mpr hempty), hrest, hempty]
    constructor
    · exact fun h => ⟨remainder, rfl, h⟩
    · rintro ⟨after, rfl, h⟩
      exact h
  · have hfalse : starts = false := by
      rw [← Bool.not_eq_true]
      exact fun h => hempty (hstarts.mp h)
    subst hfalse
    rw [if_neg (fun h => hempty (isEmpty_iff.mp h)), if_pos (by decide)]
    constructor
    · intro h
      split_ifs at h with hprefix
      obtain ⟨after, rfl⟩ := isPrefixOf_iff_prefix.mp hprefix
      rw [drop_left] at h
      exact ⟨after, rfl, hrest.mp h⟩
    · rintro ⟨after, rfl, h⟩
      rw [if_pos (List.isPrefixOf_iff_prefix.mpr (prefix_append _ _)), drop_left]
      exact hrest.mpr h

/-- A pattern becomes itself. -/
theorem expands_self (star : Char) (pattern : List Char) : Expands star pattern pattern := by
  induction pattern with
  | nil => exact .nil
  | cons c pattern ih =>
    by_cases hc : c = star
    · subst hc
      exact .star [c] ih
    · exact .item hc ih

/-- A pattern without a star is its only piece. -/
theorem piecesOf_of_not_mem (h : star ∉ pattern) : piecesOf star pattern = [pattern] := by
  induction pattern with
  | nil => rfl
  | cons c pattern ih =>
    rw [mem_cons, not_or] at h
    exact piecesOf_item (fun hc => h.1 hc.symm) (ih h.2)

theorem of_piecesOf_singleton {piece : List Char} (h : piecesOf star pattern = [piece]) :
    piece = pattern ∧ star ∉ pattern := by
  induction pattern generalizing piece with
  | nil => exact ⟨(cons.inj h).1.symm, not_mem_nil⟩
  | cons c pattern ih =>
    obtain ⟨first, pieces, hpieces⟩ := exists_cons_of_ne_nil (piecesOf_ne_nil star pattern)
    by_cases hc : c = star
    · subst hc
      rw [piecesOf_star, hpieces] at h
      cases h
    · rw [piecesOf_item hc hpieces] at h
      obtain ⟨hfirst, hrest⟩ := cons.inj h
      obtain ⟨rfl, hmem⟩ := ih (hrest ▸ hpieces)
      refine ⟨hfirst.symm, ?_⟩
      rw [mem_cons, not_or]
      exact ⟨fun h => hc h.symm, hmem⟩

variable {c : Char}

/-- The first piece is empty if and only if the star stands at the front. -/
theorem head_piecesOf {first : List Char} {pieces : List (List Char)}
    (h : piecesOf star (c :: pattern) = first :: pieces) : [star] <+: c :: pattern ↔ first = [] := by
  obtain ⟨first', pieces', hpieces⟩ := exists_cons_of_ne_nil (piecesOf_ne_nil star pattern)
  rw [cons_prefix_cons]
  by_cases hc : c = star
  · subst hc
    rw [piecesOf_star] at h
    simp [(cons.inj h).1.symm]
  · rw [piecesOf_item hc hpieces] at h
    have hne : star ≠ c := fun h => hc h.symm
    rw [← (cons.inj h).1]
    simp [hne]

/-- The last piece is empty if and only if the star stands at the end. -/
theorem getLast_piecesOf : [star] <:+ c :: pattern ↔
      (piecesOf star (c :: pattern)).getLast (piecesOf_ne_nil star (c :: pattern)) = [] := by
  induction pattern generalizing c with
  | nil =>
    by_cases hc : c = star
    · subst hc
      simp [piecesOf]
    · have hne : ¬ [star] <:+ [c] := fun h => hc (by simpa using (h.eq_of_length rfl).symm)
      simp [piecesOf, hc, hne]
  | cons d pattern ih =>
    have hsuffix : [star] <:+ c :: d :: pattern ↔ [star] <:+ d :: pattern := by
      rw [suffix_cons_iff]
      exact or_iff_right fun h => by cases (cons.inj h).2
    obtain ⟨first, pieces, hpieces⟩ := exists_cons_of_ne_nil (piecesOf_ne_nil star (d :: pattern))
    rw [hsuffix, ih]
    simp only [hpieces]
    by_cases hc : c = star
    · subst hc
      simp only [piecesOf_star, hpieces, getLast_cons (cons_ne_nil first pieces)]
    · simp only [piecesOf_item hc hpieces]
      cases pieces with
      | nil =>
        have hfirst := (of_piecesOf_singleton hpieces).1
        simp [hfirst]
      | cons next pieces => simp only [getLast_cons (cons_ne_nil next pieces)]

/-- `glob_match` decides which values a pattern becomes when its stars are replaced. -/
theorem globMatch_iff_expands (pattern value : String) :
    Router.globMatch pattern value = true ↔ Expands '*' pattern.toList value.toList := by
  unfold Router.globMatch
  by_cases heq : pattern = value
  · subst heq
    rw [if_pos (beq_self_eq_true _)]
    exact iff_of_true rfl (expands_self _ _)
  rw [if_neg (by simpa using heq), expands_iff_fits]
  -- the text is cut at its stars
  have hsplit : (Text.split pattern "*").map String.toList = piecesOf '*' pattern.toList := by
    unfold Text.split
    rw [map_map]
    have hid : String.toList ∘ String.ofList = id := funext fun l => String.toList_ofList
    rw [hid, map_id]
    exact splitGo_eq_piecesOf '*' pattern.toList
  have hcontains : Text.contains pattern "*" = true ↔ '*' ∈ pattern.toList := by
    unfold Text.contains Text.after
    rw [Option.isSome_iff_exists]
    constructor
    · rintro ⟨rest, hrest⟩
      obtain ⟨before, hbefore⟩ := exists_of_afterGo hrest
      rw [hbefore]
      exact mem_append_right _ mem_cons_self
    · intro hmem
      obtain ⟨before, after, hbefore⟩ := append_of_mem hmem
      have hsplitAt : pattern.toList = before ++ (['*'] ++ after) := hbefore
      obtain ⟨between, hfirst⟩ := afterGo_first hsplitAt
      exact ⟨_, hfirst⟩
  by_cases hmem : '*' ∈ pattern.toList
  · rw [hcontains.mpr hmem, Bool.not_true, if_neg Bool.false_ne_true, hsplit]
    unfold Text.startsWith Text.endsWith
    obtain ⟨c, chars, hpattern⟩ := exists_cons_of_ne_nil (ne_nil_of_mem hmem)
    obtain ⟨first, pieces, hpieces⟩ := exists_cons_of_ne_nil (piecesOf_ne_nil '*' pattern.toList)
    cases pieces with
    | nil => exact absurd hmem (of_piecesOf_singleton hpieces).2
    | cons next rest =>
      have hlast : ['*'] <:+ c :: chars ↔ _ := getLast_piecesOf
      rw [hpattern] at hpieces ⊢
      simp only [hpieces, getLast_cons (cons_ne_nil next rest)] at hlast ⊢
      refine globParts_iff_fits ?_ ?_
      · exact isPrefixOf_iff_prefix.trans (head_piecesOf hpieces)
      · exact isSuffixOf_iff_suffix.trans hlast
  · have hnone : Text.contains pattern "*" = false := by
      rw [← Bool.not_eq_true, hcontains]
      exact hmem
    rw [hnone, Bool.not_false, if_pos rfl, piecesOf_of_not_mem hmem]
    refine iff_of_false Bool.false_ne_true fun h => heq (String.toList_inj.mp ?_)
    have hvalue : value.toList = pattern.toList := h
    exact hvalue.symm

/-- `glob_match` slices at character boundaries only, and decides which values a pattern becomes when its stars
are replaced; the copy decides the same. -/
theorem globMatch_exact (pattern value : String) :
    Router.slicedGlobMatch pattern value = some (Router.globMatch pattern value) ∧
      Workspace.slicedGlobMatch pattern value = some (Router.globMatch pattern value) ∧
      (Router.globMatch pattern value = true ↔ Expands '*' pattern.toList value.toList) := by
  have hsliced : Router.slicedGlobMatch pattern value = some (Router.globMatch pattern value) := by
    unfold Router.slicedGlobMatch Router.globMatch
    split_ifs
    · rfl
    · rfl
    · exact parts_eq _ _ _ _ _ _
  exact ⟨hsliced, hsliced, globMatch_iff_expands pattern value⟩

/-- A prefix and a suffix do not overlap. -/
example : Router.slicedGlobMatch "a*a" "a" = some false := by decide

end Clawhip.Glob
