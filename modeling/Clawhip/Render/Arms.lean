import Clawhip.Render.Default
import Mathlib.Data.List.TakeWhile

/-!
# What an arm of the rendering needs

An arm fails exactly if one of the texts that it must print is blank, and what it renders is never blank.
`RendersIff` says so of one rendering; the lemmas follow the reads of an arm one by one.
-/

namespace Clawhip.DefaultRenderer

open List Text

/-- A text with something other than white space in it. -/
def Filled (s : String) : Prop := (Text.trim s).isEmpty = false

instance (s : String) : Decidable (Filled s) := inferInstanceAs (Decidable (_ = _))

/-- The rendering comes out well, with a text that is not blank. -/
def Renders (rendered : Except String String) : Prop := ∃ text, rendered = .ok text ∧ Filled text

/-- The rendering comes out well exactly if these texts are not blank, and is then not blank. -/
structure RendersIff (rendered : Except String String) (texts : List String) : Prop where
  filled : ∀ text, rendered = .ok text → Filled text
  ok_iff : (∃ text, rendered = .ok text) ↔ ∀ text ∈ texts, Filled text

variable {payload : Json} {key s : String} {n : ℕ} {texts : List String} {rendered : Except String String}

/-! ## Texts that are not blank -/

theorem Filled.of_mem {c : Char} (hc : c ∈ s.toList) (hspace : isWhitespace c = false) : Filled s :=
  isEmpty_trim_of_mem hc hspace

/-- A text that is not blank has a character that is no white space. -/
theorem Filled.exists_mem (h : Filled s) : ∃ c ∈ s.toList, isWhitespace c = false := by
  by_contra hnone
  have hspace : ∀ c ∈ s.toList, isWhitespace c = true := fun c hc => by
    cases hwhite : isWhitespace c with
    | true => rfl
    | false => exact absurd ⟨c, hc, hwhite⟩ hnone
  have hdrop : s.toList.dropWhile isWhitespace = [] := dropWhile_eq_nil_iff.mpr hspace
  have hempty : trim s = "" := by
    unfold trim strip
    rw [hdrop]
    rfl
  unfold Filled at h
  rw [hempty] at h
  cases h

theorem Filled.append (h : Filled s) (s' : String) : Filled (s ++ s') := by
  obtain ⟨c, hc, hspace⟩ := h.exists_mem
  refine of_mem (c := c) ?_ hspace
  rw [String.toList_append]
  exact mem_append_left _ hc

variable {pieces : List String} (piece : String)

/-- Pieces, one of which is not blank. -/
theorem Filled.text (hmem : piece ∈ pieces) (hpiece : Filled piece) : Filled (text pieces) := by
  obtain ⟨c, hc, hspace⟩ := hpiece.exists_mem
  refine of_mem (c := c) ?_ hspace
  unfold DefaultRenderer.text
  rw [String.toList_join]
  exact mem_flatMap.mpr ⟨piece, hmem, hc⟩

/-- Parts, the first of which is not blank. -/
theorem Filled.joined {separator first : String} {parts : List String} (hfirst : Filled first) :
    Filled (joined separator (first :: parts)) := by
  obtain ⟨c, hc, hspace⟩ := hfirst.exists_mem
  refine of_mem (c := c) ?_ hspace
  unfold DefaultRenderer.joined
  cases parts with
  | nil =>
    rw [String.intercalate_singleton]
    exact hc
  | cons next parts =>
    rw [String.intercalate_cons_cons, String.toList_append, String.toList_append]
    exact mem_append_left _ (mem_append_left _ hc)

/-- The text of an object is not blank. -/
theorem filled_toTextPretty (fields : List (String × Json)) : Filled (Json.object fields).toTextPretty := by
  refine Filled.of_mem (c := '\x7b') ?_ (by decide)
  unfold Json.toTextPretty
  rw [String.toList_ofList]
  cases fields with
  | nil => exact mem_cons_self
  | cons field fields => exact mem_cons_self

/-! ## Reading fields -/

theorem RendersIff.renders_iff (h : RendersIff rendered texts) : Renders rendered ↔ ∀ text ∈ texts, Filled text := by
  rw [← h.ok_iff]
  exact ⟨fun ⟨text, heq, _⟩ => ⟨text, heq⟩, fun ⟨text, heq⟩ => ⟨text, heq, h.filled text heq⟩⟩

theorem rendersIff_ok (h : Filled s) : RendersIff (.ok s) [] where
  filled := fun text heq => by
    obtain rfl := Except.ok.inj heq
    exact h
  ok_iff := ⟨fun _ _ hmem => absurd hmem not_mem_nil, fun _ => ⟨s, rfl⟩⟩

/-- A raw rendering of an object always comes out well. -/
theorem rendersIff_raw {fields : OrdMap String Json} (h : payload = .object fields) :
    RendersIff (.ok payload.toTextPretty) [] := by
  rw [h]
  exact rendersIff_ok (filled_toTextPretty fields)

theorem optionalStringField_eq (h : payload.get key = some (.string s)) :
    optionalStringField payload key = nonblank (some s) := by
  unfold optionalStringField
  rw [h]
  rfl

theorem nonblank_of_filled (h : Filled s) : nonblank (some s) = some (trim s) := by
  unfold nonblank
  rw [Option.map_some, Option.filter_some, h]
  rfl

theorem nonblank_of_blank (h : ¬ Filled s) : nonblank (some s) = none := by
  have hblank : (trim s).isEmpty = true := by simpa [Filled] using h
  unfold nonblank
  rw [Option.map_some, Option.filter_some, hblank]
  rfl

theorem filled_of_nonblank {value : Option String} (h : nonblank value = some s) : Filled s := by
  have hself : nonblank (some s) = some s := nonblank_nonblank h
  by_contra hblank
  rw [nonblank_of_blank hblank] at hself
  cases hself

/-- A rendering that fails where a text is blank. -/
theorem rendersIff_cons (hfilled : Filled s → RendersIff rendered texts)
    (hblank : ¬ Filled s → ∃ e, rendered = .error e) : RendersIff rendered (s :: texts) := by
  by_cases hs : Filled s
  · refine ⟨(hfilled hs).filled, (hfilled hs).ok_iff.trans ⟨fun h text hmem => ?_,
      fun h text hmem => h text (mem_cons_of_mem _ hmem)⟩⟩
    rcases mem_cons.mp hmem with rfl | hmem
    · exact hs
    · exact h text hmem
  · obtain ⟨e, rfl⟩ := hblank hs
    refine ⟨fun text heq => ?_, fun h => ?_, fun h => absurd (h s mem_cons_self) hs⟩
    · cases heq
    · obtain ⟨text, heq⟩ := h
      cases heq

variable {f : String → Except String String}

/-- An arm that reads a text. -/
theorem RendersIff.text (h : ∀ value, Filled value → RendersIff (f value) texts)
    (hget : payload.get key = some (.string s)) : RendersIff (stringField payload key >>= f) (s :: texts) := by
  unfold stringField
  rw [optionalStringField_eq hget]
  refine rendersIff_cons (fun hs => ?_) fun hs => ?_
  · have hvalue : Filled (trim s) := by
      unfold Filled
      rw [trim_trim]
      exact hs
    rw [nonblank_of_filled hs]
    exact h _ hvalue
  · rw [nonblank_of_blank hs]
    exact ⟨_, rfl⟩

/-- An arm that reads a number. -/
theorem RendersIff.number {f : ℕ → Except String String} (h : ∀ value, RendersIff (f value) texts)
    (hget : payload.get key = some (Json.ofNat n)) : RendersIff (fieldU64 payload key >>= f) texts := by
  have hnumber : optionalU64Field payload key = some n := by
    unfold optionalU64Field
    rw [hget]
    rfl
  unfold fieldU64
  rw [hnumber]
  exact h n

section

variable (h : ∀ value, Filled value → RendersIff (f value) texts)
include h

/-- An arm that reads a repository with its worktree. -/
theorem RendersIff.label (hget : payload.get "repo" = some (.string s)) :
    RendersIff (gitRepoLabel payload >>= f) (s :: texts) := by
  unfold gitRepoLabel
  rw [bind_assoc]
  refine text (fun value hvalue => ?_) hget
  rw [pure_bind]
  refine h _ ?_
  split
  · exact Filled.text _ mem_cons_self hvalue
  · exact hvalue

/-- An arm that reads the repository of a build. -/
theorem RendersIff.target (hget : payload.get "repo" = some (.string s)) :
    RendersIff (githubCiTarget payload >>= f) (s :: texts) := by
  unfold githubCiTarget
  rw [bind_assoc]
  refine text (fun value hvalue => ?_) hget
  rw [pure_bind]
  refine h _ ?_
  split
  · exact Filled.text _ mem_cons_self hvalue
  · exact hvalue

end

/-- A rendering that is put after a mark. -/
theorem RendersIff.marked {mark : String} (h : RendersIff rendered texts) :
    RendersIff (rendered >>= fun value => pure (DefaultRenderer.text [mark, value])) texts := by
  cases rendered with
  | error e =>
    refine ⟨fun text heq => (nomatch heq), Iff.trans ⟨fun hok => ?_, fun hok => ?_⟩ h.ok_iff⟩
    · obtain ⟨text, heq⟩ := hok
      cases heq
    · obtain ⟨text, heq⟩ := hok
      cases heq
  | ok value =>
    have hvalue : Filled value := h.filled value rfl
    refine ⟨fun text heq => ?_, Iff.trans ⟨fun _ => ⟨value, rfl⟩, fun _ => ⟨_, rfl⟩⟩ h.ok_iff⟩
    obtain rfl := Except.ok.inj heq
    exact Filled.text _ (mem_cons_of_mem _ mem_cons_self) hvalue

/-! ## The arms -/

section Arms

variable {payload : Json} {fields : OrdMap String Json} {format : MessageFormat} {kind : String}

/-- The texts that the four formats print. -/
def byFormat (compact alert inline raw : List String) : MessageFormat → List String
  | .compact => compact
  | .alert => alert
  | .inline => inline
  | .raw => raw

/-- A piece that is written as it stands. -/
theorem rendersIff_text (hmem : piece ∈ pieces) (hpiece : Filled piece) : RendersIff (pure (text pieces)) [] :=
  rendersIff_ok (Filled.text piece hmem hpiece)

variable {repo title url status : String} {conclusion : Option String} {number : ℕ}

theorem issueArm_iff {before between after : String} (hrepo : payload.get "repo" = some (.string repo))
    (hnumber : payload.get "number" = some (Json.ofNat number)) (htitle : payload.get "title" = some (.string title)) :
    RendersIff (issueArm payload before between after) [repo, title] := by
  refine .text (fun _ _ => .number (fun _ => .text (fun _ _ => ?_) htitle) hnumber) hrepo
  exact rendersIff_text "#" (by simp) (by decide)

/-- The arms of a pull request after what was done to it. -/
theorem pullRequest_iff (acted : List String) {author : String} (hraw : RendersIff (.ok payload.toTextPretty) [])
    (haction : ∀ {texts : List String} {f : String → Except String String}, (∀ value, RendersIff (f value) texts) →
        RendersIff (pullRequestAction payload kind >>= f) (acted ++ texts))
    (hrepo : payload.get "repo" = some (.string repo)) (hnumber : payload.get "number" = some (Json.ofNat number))
    (htitle : payload.get "title" = some (.string title))
    (hauthor : payload.get "author" = some (.string author)) (hurl : payload.get "url" = some (.string url)) :
    RendersIff (renderPullRequest payload kind format)
      (acted ++ byFormat [repo, author, title, url] [repo, title, author, url] [repo, title, author, url] []
        format) := by
  refine haction fun action => ?_
  cases format with
  | raw => exact hraw
  | compact =>
    refine .text (fun _ _ => .number (fun _ => .text (fun _ _ => .text (fun _ _ => .text (fun _ _ => ?_)
      hurl) htitle) hauthor) hnumber) hrepo
    exact rendersIff_text "#" (by simp) (by decide)
  | alert =>
    refine .text (fun _ _ => .number (fun _ => .text (fun _ _ => .text (fun _ _ => .text (fun _ _ => ?_)
      hurl) hauthor) htitle) hnumber) hrepo
    exact rendersIff_text "GitHub PR " (by simp) (by decide)
  | inline =>
    refine .text (fun _ _ => .number (fun _ => .text (fun _ _ => .text (fun _ _ => .text (fun _ _ => ?_)
      hurl) hauthor) htitle) hnumber) hrepo
    exact rendersIff_text "#" (by simp) (by decide)

/-- An arm that reads the state of a build. -/
theorem RendersIff.state {texts : List String} {f : String → Except String String}
    (h : ∀ value, RendersIff (f value) texts) (hconclusion : payload.get "conclusion" = conclusion.map .string)
    (hstatus : payload.get "status" = some (.string status)) :
    RendersIff (ciState payload >>= f) ((nonblank conclusion).getD status :: texts) := by
  have hread : optionalStringField payload "conclusion" = nonblank conclusion := by
    unfold optionalStringField
    rw [hconclusion]
    cases conclusion <;> rfl
  unfold ciState
  rw [hread, optionalStringField_eq hstatus]
  cases hsaid : nonblank conclusion with
  | some said =>
    have hfilled : Filled said := filled_of_nonblank hsaid
    exact rendersIff_cons (fun _ => h said) fun hblank => absurd hfilled hblank
  | none =>
    rw [Option.none_or, Option.getD_none]
    refine rendersIff_cons (fun hfilled => ?_) fun hblank => ?_
    · rw [nonblank_of_filled hfilled]
      exact h _
    · rw [nonblank_of_blank hblank]
      exact ⟨_, rfl⟩

end Arms

end Clawhip.DefaultRenderer
