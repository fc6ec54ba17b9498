import Clawhip.Lib.BraceText
import Clawhip.Lib.OrdMap

/-!
# Dynamic tokens

`render_template` of `src/events.rs` and of `src/dynamic_tokens.rs`. The first replaces the keys of a
context one after the other. The second scans what that gives for groups in braces, and asks
`evaluate_token` for each. The evaluation is an oracle, and `Rendered` records what it was asked.

A value that holds an opening brace can become a group of the second pass. For flat templates and
contexts without such values `renderTemplate_of_flat` gives the result of both passes in one.
-/

namespace Clawhip

open List Option BraceText

/-- A rendering, and the tokens that the oracle was asked for, in order. -/
structure Rendered where
  output : String
  asked : List String

namespace DynamicTokens

open BraceText (Piece)

/-- `evaluate_token`, after the tokens that were asked for before. -/
abbrev Oracle := List String → String → Option String

/-- What stands for a group: the oracle's value, or the group as it was. -/
def value (oracle : Oracle) (asked : List String) (token : List Char) : List Char :=
  match oracle asked (String.ofList token) with
  | some value => value.toList
  | none => '{' :: (token ++ ['}'])

/-- The text before the next group in braces, what the group holds, and what follows it. -/
def nextToken (remainder : List Char) : Option (List Char × List Char × List Char) :=
  match remainder.span (· ≠ '{') with
  | (_, []) => none
  | (before, _ :: after_start) =>
    match after_start.span (· ≠ '}') with
    | (_, []) => none
    | (token, _ :: rest) => some (before, token, rest)

variable {cs : List Char} {remainder before token rest : List Char}

/-- A group and its braces make the remainder longer than what follows it. -/
theorem nextToken_length (h : nextToken remainder = some (before, token, rest)) : rest.length < remainder.length := by
  unfold nextToken at h
  split at h
  · simp at h
  · rename_i before' c after_start hspan
    split at h
    · simp at h
    · rename_i token' d rest' hspan'
      obtain ⟨-, -, rfl⟩ : before' = before ∧ token' = token ∧ rest' = rest := by simpa using h
      have hlen := congrArg (fun p => (p.1 ++ p.2).length) hspan
      have hlen' := congrArg (fun p => (p.1 ++ p.2).length) hspan'
      simp only [span_eq_takeWhile_dropWhile, takeWhile_append_dropWhile, length_append, length_cons] at hlen hlen'
      omega

/-- The loop of `dynamic_tokens::render_template` over the remainder of the text: every group is
replaced by the oracle's value, and left as it is when there is none. -/
def expand (oracle : Oracle) (asked : List String) (output remainder : List Char) :
    List Char × List String :=
  match _h : nextToken remainder with
  | none => (output ++ remainder, asked)
  | some (before, token, rest) =>
    expand oracle (asked ++ [String.ofList token])
      (output ++ before ++ value oracle asked token) rest
termination_by remainder.length
decreasing_by exact nextToken_length _h

/-- `events::render_template`. -/
def renderContext (template : String) (context : OrdMap String String) : String :=
  context.foldl (fun rendered p => Text.replace rendered ("\x7b" ++ p.1 ++ "\x7d") p.2) template

def renderTemplate (oracle : Oracle) (template : String) (context : OrdMap String String)
    (allow_dynamic_tokens : Bool) : Rendered :=
  let rendered := renderContext template context
  if allow_dynamic_tokens then
    let (output, asked) := expand oracle [] [] rendered.toList
    ⟨String.ofList output, asked⟩
  else ⟨rendered, []⟩

/-! ## The loop, piece by piece -/

variable {oracle : Oracle} {asked : List String} {output : List Char}

theorem expand_of_none {remainder : List Char} (h : nextToken remainder = none) :
    expand oracle asked output remainder = (output ++ remainder, asked) := by
  rw [expand]
  split
  · rfl
  · rename_i hsome
    rw [h] at hsome
    simp at hsome

theorem expand_of_some (h : nextToken remainder = some (before, token, rest)) :
    expand oracle asked output remainder = expand oracle (asked ++ [String.ofList token])
      (output ++ before ++ value oracle asked token) rest := by
  rw [expand]
  split
  · rename_i hnone
    rw [h] at hnone
    simp at hnone
  · rename_i before' token' rest' hsome
    obtain ⟨rfl, rfl, rfl⟩ : before = before' ∧ token = token' ∧ rest = rest' := by simpa using h.symm.trans hsome
    rfl

/-- A search for a character passes over text without it. -/
theorem span_append {c : Char} (h : c ∉ cs) (rest : List Char) :
    (cs ++ rest).span (· ≠ c) = (cs ++ (rest.span (· ≠ c)).1, (rest.span (· ≠ c)).2) := by
  have hne : ∀ a ∈ cs, decide (a ≠ c) = true := fun a ha => decide_eq_true fun hac => h (hac ▸ ha)
  simp only [span_eq_takeWhile_dropWhile]
  rw [takeWhile_append_of_pos hne, dropWhile_append_of_pos hne]

/-- Text before the first opening brace is passed over. -/
theorem nextToken_text (h : '{' ∉ cs) (rest : List Char) :
    nextToken (cs ++ rest) = (nextToken rest).map fun r => (cs ++ r.1, r.2) := by
  unfold nextToken
  rw [span_append h]
  rcases rest.span (· ≠ '{') with ⟨before, _ | ⟨c, after_start⟩⟩
  · rfl
  · dsimp only
    rcases after_start.span (· ≠ '}') with ⟨token, _ | ⟨d, rest'⟩⟩ <;> rfl

/-- Text before the first opening brace is copied. -/
theorem expand_text (h : '{' ∉ cs) (rest : List Char) :
    expand oracle asked output (cs ++ rest) = expand oracle asked (output ++ cs) rest := by
  have htoken := nextToken_text h rest
  cases hnext : nextToken rest with
  | none =>
    rw [hnext, map_none] at htoken
    rw [expand_of_none htoken, expand_of_none hnext, append_assoc]
  | some r =>
    obtain ⟨before, token, rest'⟩ := r
    rw [hnext, map_some] at htoken
    rw [expand_of_some htoken, expand_of_some hnext, ← append_assoc]

/-- A group is asked for. -/
theorem expand_group {name : List Char} (h : '}' ∉ name) (rest : List Char) :
    expand oracle asked output ('{' :: (name ++ '}' :: rest)) =
      expand oracle (asked ++ [String.ofList name]) (output ++ value oracle asked name) rest := by
  have hspan : ('{' :: (name ++ '}' :: rest)).span (· ≠ '{') = ([], '{' :: (name ++ '}' :: rest)) := by
    simp [span_eq_takeWhile_dropWhile]
  have hspan' : (name ++ '}' :: rest).span (· ≠ '}') = (name, '}' :: rest) := by
    rw [span_append h]
    simp [span_eq_takeWhile_dropWhile]
  have hnext : nextToken ('{' :: (name ++ '}' :: rest)) = some ([], name, rest) := by
    rw [nextToken, hspan]
    dsimp only
    rw [hspan']
  rw [expand_of_some hnext, append_nil]

/-- An open brace that is never closed is copied with what follows it. -/
theorem expand_tail {rest : List Char} (h : '}' ∉ rest) :
    expand oracle asked output ('{' :: rest) = (output ++ '{' :: rest, asked) := by
  have hspan : ('{' :: rest).span (· ≠ '{') = ([], '{' :: rest) := by simp [span_eq_takeWhile_dropWhile]
  have hspan' : rest.span (· ≠ '}') = (rest, []) := by
    have happend := span_append h []
    simpa using happend
  refine expand_of_none ?_
  rw [nextToken, hspan]
  dsimp only
  rw [hspan']

/-- What the loop makes of pieces, and what it asks for: the groups, one after the other. -/
def answer (oracle : Oracle) : List String → List Piece → List Char × List String
  | asked, [] => ([], asked)
  | asked, .text cs :: ps =>
    let (output, asked) := answer oracle asked ps
    (cs ++ output, asked)
  | asked, .group name :: ps =>
    let (output, asked') := answer oracle (asked ++ [String.ofList name]) ps
    (value oracle asked name ++ output, asked')

/-- The loop over plain pieces and a tail answers every group, in order, and copies the rest. -/
theorem expand_write {ps : List Piece} {tail : Option (List Char)} (hps : ∀ p ∈ ps, p.Plain)
    (htail : ∀ rest, tail = some rest → '}' ∉ rest) : expand oracle asked output (write ps tail) =
      (output ++ ((answer oracle asked ps).1 ++ writeTail tail), (answer oracle asked ps).2) := by
  induction ps generalizing asked output with
  | nil =>
    cases tail with
    | none =>
      have hnil : nextToken [] = none := rfl
      exact expand_of_none hnil
    | some rest => exact expand_tail (htail rest rfl)
  | cons p ps ih =>
    have hp := hps p mem_cons_self
    have hrest := fun asked output => @ih asked output fun q hq => hps q (mem_cons_of_mem _ hq)
    rw [write_cons]
    cases p with
    | text cs =>
      refine (expand_text hp _).trans ?_
      rw [hrest]
      simp [answer]
    | group name =>
      have hgroup : (Piece.group name).write ++ write ps tail =
          '{' :: (name ++ '}' :: write ps tail) := by simp [Piece.write]
      rw [hgroup, expand_group hp.2, hrest]
      simp [answer]

variable (oracle : Oracle)

/-- The loop asks for the groups and for nothing else, whatever the oracle says. -/
theorem answer_asked (asked : List String) (ps : List Piece) : (answer oracle asked ps).2 = asked ++ groups ps := by
  induction ps generalizing asked with
  | nil => exact (append_nil _).symm
  | cons p ps ih =>
    cases p with
    | text cs => exact ih asked
    | group name =>
      refine (ih _).trans ?_
      rw [append_assoc]
      rfl

/-! ## Both passes in one -/

/-- The groups that a template spells, in order. -/
def spelled (template : String) : List String := BraceText.groups (BraceText.scan template.toList).1

/-- The template has no group with an opening brace inside. -/
def FlatTemplate (template : String) : Prop := BraceText.Flat template.toList

instance (template : String) : Decidable (FlatTemplate template) :=
  inferInstanceAs (Decidable (BraceText.Flat template.toList))

/-- No key of the context has a closing brace, and no value that the template uses has an opening
one. -/
def PlainContext (template : String) (context : OrdMap String String) : Prop :=
  ∀ p ∈ context, '}' ∉ p.1.toList ∧ (p.1 ∈ spelled template → '{' ∉ p.2.toList)

instance (template : String) (context : OrdMap String String) :
    Decidable (PlainContext template context) :=
  inferInstanceAs (Decidable (∀ p ∈ context, '}' ∉ p.1.toList ∧ (p.1 ∈ spelled template → '{' ∉ p.2.toList)))

def bindings (context : OrdMap String String) : List (List Char × List Char) :=
  context.map fun p => (p.1.toList, p.2.toList)

/-- What a template renders to in one pass: a group that is a key gives its value, and any other group
the oracle's value, asked for in order. -/
def onePass (oracle : Oracle) (template : String) (context : OrdMap String String) : Rendered :=
  let (ps, tail) := BraceText.scan template.toList
  let (output, asked) := answer oracle [] (ps.map (BraceText.fill (bindings context)))
  ⟨String.ofList (output ++ BraceText.writeTail tail), asked⟩

variable (template : String)

theorem renderContext_toList (context : OrdMap String String) :
    (renderContext template context).toList = (bindings context).foldl
      (fun cs b => Text.replaceGo ('{' :: (b.1 ++ ['}'])) b.2 cs 0) template.toList := by
  unfold renderContext bindings
  induction context generalizing template with
  | nil => rfl
  | cons p context ih =>
    rw [foldl_cons, ih, map_cons, foldl_cons]
    simp [Text.replace]

variable (context : OrdMap String String)

theorem lookup_bindings (name : List Char) :
    BraceText.lookup (bindings context) name = (context.get (String.ofList name)).map String.toList := by
  induction context with
  | nil => rfl
  | cons p context ih =>
    obtain ⟨k, v⟩ := p
    have hname : k.toList = name ↔ String.ofList name = k := by
      rw [← String.toList_inj, String.toList_ofList]
      exact eq_comm
    by_cases hk : String.ofList name = k
    · simp [bindings, BraceText.lookup, OrdMap.get_cons, hname.mpr hk, hk]
    · have hcons : BraceText.lookup (bindings ((k, v) :: context)) name = BraceText.lookup (bindings context) name := by
        simp [bindings, BraceText.lookup, mt hname.mp hk]
      rw [hcons, ih, OrdMap.get_cons, if_neg hk]

/-- The groups that remain when the keys of a context are filled. -/
theorem groups_fill (ps : List Piece) :
    groups (ps.map (fill (bindings context))) = (groups ps).filter fun name => (context.get name).isNone := by
  induction ps with
  | nil => rfl
  | cons p ps ih =>
    unfold groups at ih ⊢
    cases p with
    | text cs => exact ih
    | group name =>
      have hlookup := lookup_bindings context name
      cases hget : context.get (String.ofList name) with
      | none =>
        rw [hget, map_none] at hlookup
        simp [fill, hlookup, hget, ih]
      | some v =>
        rw [hget, map_some] at hlookup
        simp [fill, hlookup, hget, ih]

/-- One pass asks for the groups that are not keys. -/
theorem onePass_asked (context : OrdMap String String) :
    (onePass oracle template context).asked = (spelled template).filter fun name => (context.get name).isNone := by
  refine (answer_asked oracle [] _).trans ?_
  rw [nil_append, groups_fill]
  rfl

/-- A flat template and a plain context render as in one pass. -/
theorem renderTemplate_of_flat {template : String} {context : OrdMap String String}
    (hflat : FlatTemplate template) (hplain : PlainContext template context) :
    renderTemplate oracle template context true = onePass oracle template context := by
  have hbindings : PlainBindings (scan template.toList).1 (bindings context) := by
    intro b hb
    obtain ⟨p, hp, rfl⟩ := mem_map.mp hb
    refine ⟨(hplain p hp).1, fun hgroup => (hplain p hp).2 ?_⟩
    exact mem_filterMap.mpr ⟨_, hgroup, by simp⟩
  have hfilled : ∀ p ∈ (scan template.toList).1.map (fill (bindings context)), p.Plain := by
    intro p hp
    obtain ⟨q, hq, rfl⟩ := mem_map.mp hp
    exact (hflat q hq).fill hq hbindings
  unfold renderTemplate onePass
  rw [if_pos rfl, renderContext_toList, hflat.foldl_replaceGo hbindings, expand_write hfilled (scan_tail _), nil_append]

end DynamicTokens

end Clawhip
