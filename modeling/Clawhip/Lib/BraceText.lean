import Clawhip.Lib.Text
import Mathlib.Data.List.TakeDrop

/-!
# Texts with groups in braces

A text is read as plain pieces and groups in braces, from the left: a group runs from an opening
brace to the next closing one, and an opening brace that is never closed starts the tail. `scan`
reads a text this way and `write` undoes it. `Flat` says that no group holds a further opening brace.
In a flat text the replacement of a name in braces by a text without opening braces fills exactly the
groups of that name (`replaceGo_write`), so replacements one after the other fill all groups at
once (`Flat.foldl_replaceGo`).
-/

namespace Clawhip.BraceText

open List Text

/-- A plain text, or a group in braces. -/
inductive Piece where
  | text (cs : List Char)
  | group (name : List Char)

def Piece.write : Piece → List Char
  | text cs => cs
  | group name => '{' :: (name ++ ['}'])

def writeTail : Option (List Char) → List Char
  | none => []
  | some rest => '{' :: rest

def write (ps : List Piece) (tail : Option (List Char)) : List Char := ps.flatMap Piece.write ++ writeTail tail

/-- Read a text: `acc` is the plain text so far and `opened` what follows an open brace, both
reversed. -/
def scanGo : List Char → List Char → Option (List Char) → List Piece × Option (List Char)
  | [], acc, none => ([.text acc.reverse], none)
  | [], acc, some name => ([.text acc.reverse], some name.reverse)
  | c :: cs, acc, none => if c = '{' then scanGo cs acc (some []) else scanGo cs (c :: acc) none
  | c :: cs, acc, some name =>
    if c = '}' then
      let (ps, tail) := scanGo cs [] none
      (.text acc.reverse :: .group name.reverse :: ps, tail)
    else scanGo cs acc (some (c :: name))

/-- The pieces and the tail of a text. -/
def scan (cs : List Char) : List Piece × Option (List Char) := scanGo cs [] none

/-- The names of the groups, in order. -/
def groups (ps : List Piece) : List String :=
  ps.filterMap fun
    | .text _ => none
    | .group name => some (String.ofList name)

/-- A piece without an opening brace inside, and a group without a closing one. -/
def Piece.Plain : Piece → Prop
  | text cs => '{' ∉ cs
  | group name => '{' ∉ name ∧ '}' ∉ name

instance : DecidablePred Piece.Plain
  | .text cs => inferInstanceAs (Decidable ('{' ∉ cs))
  | .group name => inferInstanceAs (Decidable ('{' ∉ name ∧ '}' ∉ name))

/-- No group of a text holds an opening brace. -/
def Flat (cs : List Char) : Prop := ∀ p ∈ (scan cs).1, p.Plain

instance (cs : List Char) : Decidable (Flat cs) := inferInstanceAs (Decidable (∀ p ∈ (scan cs).1, p.Plain))

@[simp] theorem write_nil (tail : Option (List Char)) : write [] tail = writeTail tail := rfl

@[simp] theorem write_cons (p : Piece) (ps : List Piece) (tail : Option (List Char)) :
    write (p :: ps) tail = p.write ++ write ps tail := by
  unfold write
  rw [flatMap_cons, append_assoc]

theorem write_scanGo (cs acc : List Char) (opened : Option (List Char)) :
    write (scanGo cs acc opened).1 (scanGo cs acc opened).2 =
      acc.reverse ++ (writeTail (opened.map reverse) ++ cs) := by
  induction cs generalizing acc opened with
  | nil => cases opened <;> simp [scanGo, Piece.write, writeTail]
  | cons c cs ih =>
    cases opened with
    | none =>
      by_cases hc : c = '{'
      · simp [scanGo, hc, ih, writeTail]
      · simp [scanGo, hc, ih, writeTail]
    | some name =>
      by_cases hc : c = '}'
      · simp [scanGo, hc, ih, writeTail, Piece.write]
      · simp [scanGo, hc, ih, writeTail]

variable (cs : List Char)

/-- Writing what was read gives the text back. -/
theorem write_scan : write (scan cs).1 (scan cs).2 = cs := write_scanGo cs [] none

theorem scanGo_tail (cs acc : List Char) {opened : Option (List Char)}
    (hopened : ∀ name, opened = some name → '}' ∉ name) :
    ∀ rest, (scanGo cs acc opened).2 = some rest → '}' ∉ rest := by
  induction cs generalizing acc opened with
  | nil =>
    cases opened with
    | none => simp [scanGo]
    | some name => simp [scanGo, hopened name rfl]
  | cons c cs ih =>
    cases opened with
    | none =>
      by_cases hc : c = '{'
      · simp only [scanGo, if_pos hc]
        exact ih acc (by simp)
      · simp only [scanGo, if_neg hc]
        exact ih (c :: acc) (by simp)
    | some name =>
      by_cases hc : c = '}'
      · simp only [scanGo, if_pos hc]
        exact ih [] (by simp)
      · simp only [scanGo, if_neg hc]
        refine ih acc fun name' h => ?_
        rw [← Option.some.inj h]
        simp [Ne.symm hc, hopened name rfl]

/-- The tail of a text has no closing brace. -/
theorem scan_tail : ∀ rest, (scan cs).2 = some rest → '}' ∉ rest := scanGo_tail cs [] (by simp)

/-! ## Replacing a name in braces -/

variable {key value : List Char} {cs : List Char}

/-- The pattern of a name does not begin in a text without opening braces. -/
theorem replaceGo_text (h : '{' ∉ cs) (rest : List Char) :
    replaceGo ('{' :: (key ++ ['}'])) value (cs ++ rest) 0 = cs ++ replaceGo ('{' :: (key ++ ['}'])) value rest 0 := by
  induction cs with
  | nil => rfl
  | cons c cs ih =>
    obtain ⟨hc, hcs⟩ : '{' ≠ c ∧ '{' ∉ cs := by simpa using h
    rw [cons_append, replaceGo, if_neg (by simp [hc]), ih hcs, cons_append]

variable {bindings : List (List Char × List Char)} {tail : Option (List Char)} {ps : List Piece}
  {name : List Char}

/-- The pattern of a name begins a group exactly if it is the group's name. -/
theorem isPrefixOf_group (hkey : '}' ∉ key) (hname : '}' ∉ name) (rest : List Char) :
    (key ++ ['}']).isPrefixOf (name ++ '}' :: rest) = true ↔ name = key := by
  induction key generalizing name with
  | nil =>
    cases name with
    | nil => simp
    | cons c name =>
      obtain ⟨hc, -⟩ : '}' ≠ c ∧ '}' ∉ name := by simpa using hname
      simp [hc]
  | cons d key ih =>
    obtain ⟨hd, hkey⟩ : '}' ≠ d ∧ '}' ∉ key := by simpa using hkey
    cases name with
    | nil => simp [hd.symm]
    | cons c name =>
      obtain ⟨-, hname⟩ : '}' ≠ c ∧ '}' ∉ name := by simpa using hname
      simp only [cons_append, isPrefixOf_cons_cons, Bool.and_eq_true, beq_iff_eq, ih hkey hname, cons.injEq]
      exact and_congr_left fun _ => eq_comm

/-- A group without further opening braces is replaced exactly if it has the name. -/
theorem replaceGo_group (hkey : '}' ∉ key) (hname : '}' ∉ name) (hopen : '{' ∉ name) (rest : List Char) :
    replaceGo ('{' :: (key ++ ['}'])) value ('{' :: (name ++ '}' :: rest)) 0 =
      (if name = key then value else '{' :: (name ++ ['}'])) ++ replaceGo ('{' :: (key ++ ['}'])) value rest 0 := by
  by_cases hk : name = key
  · subst hk
    have hinitial : ('{' :: (name ++ ['}'])).isPrefixOf ('{' :: (name ++ '}' :: rest)) = true := by
      simp [isPrefixOf_group hkey hname rest]
    rw [replaceGo, if_pos hinitial, if_pos rfl]
    congr 1
    have hskip := replaceGo_skip ('{' :: (name ++ ['}'])) value (name ++ ['}']) rest
    rw [append_assoc, singleton_append] at hskip
    rw [← hskip]
    rfl
  · have hinitial : ¬ ('{' :: (key ++ ['}'])).isPrefixOf ('{' :: (name ++ '}' :: rest)) = true := by
      simpa [isPrefixOf_group hkey hname rest] using hk
    have hplain : '{' ∉ name ++ ['}'] := by simp [hopen]
    have htext : replaceGo ('{' :: (key ++ ['}'])) value (name ++ '}' :: rest) 0 =
        name ++ ['}'] ++ replaceGo ('{' :: (key ++ ['}'])) value rest 0 := by
      rw [← replaceGo_text hplain rest, append_assoc, singleton_append]
    rw [replaceGo, if_neg hinitial, if_neg hk, htext, cons_append]

/-- An open brace that is never closed is left alone. -/
theorem replaceGo_tail {rest : List Char} (hrest : '}' ∉ rest) :
    replaceGo ('{' :: (key ++ ['}'])) value rest 0 = rest := by
  induction rest with
  | nil => rfl
  | cons c rest ih =>
    have hinitial : ¬ ('{' :: (key ++ ['}'])).isPrefixOf (c :: rest) = true := by
      intro h
      have hmem := (List.isPrefixOf_iff_prefix.mp h).subset (show '}' ∈ '{' :: (key ++ ['}']) by simp)
      exact hrest hmem
    rw [replaceGo, if_neg hinitial, ih (fun h => hrest (mem_cons_of_mem _ h))]

/-- Fill the groups of one name. -/
def fillOne (key value : List Char) : Piece → Piece
  | .text cs => .text cs
  | .group name => if name = key then .text value else .group name

variable {p : Piece}

theorem Piece.Plain.fillOne (h : p.Plain) (hvalue : p = .group key → '{' ∉ value) : (fillOne key value p).Plain := by
  cases p with
  | text cs => exact h
  | group name =>
    by_cases hk : name = key
    · rw [BraceText.fillOne, if_pos hk]
      exact hvalue (by rw [hk])
    · rw [BraceText.fillOne, if_neg hk]
      exact h

/-- A group that is left was there before. -/
theorem group_of_fillOne (h : fillOne key value p = .group name) : p = .group name := by
  cases p with
  | text cs => simp [fillOne] at h
  | group name' =>
    by_cases hk : name' = key
    · rw [fillOne, if_pos hk] at h
      simp at h
    · rwa [fillOne, if_neg hk] at h

/-- A replacement fills the groups of its name and nothing else. -/
theorem replaceGo_write (hkey : '}' ∉ key) (hps : ∀ p ∈ ps, p.Plain) (htail : ∀ rest, tail = some rest → '}' ∉ rest) :
    replaceGo ('{' :: (key ++ ['}'])) value (write ps tail) 0 = write (ps.map (fillOne key value)) tail := by
  induction ps with
  | nil =>
    cases tail with
    | none => rfl
    | some rest =>
      have hopen : '}' ∉ '{' :: rest := by simp [htail rest rfl]
      exact replaceGo_tail hopen
  | cons p ps ih =>
    have hp := hps p mem_cons_self
    have hrest := ih fun q hq => hps q (mem_cons_of_mem _ hq)
    rw [map_cons, write_cons, write_cons, ← hrest]
    cases p with
    | text cs => exact replaceGo_text hp _
    | group name =>
      have hwrite : (Piece.group name).write ++ write ps tail =
          '{' :: (name ++ '}' :: write ps tail) := by simp [Piece.write]
      rw [hwrite, replaceGo_group hkey hp.2 hp.1]
      congr 1
      by_cases hk : name = key <;> simp [fillOne, hk, Piece.write]

/-! ## Replacing many names, one after the other -/

/-- The value of a name: the first one given for it. -/
def lookup (bindings : List (List Char × List Char)) (name : List Char) : Option (List Char) :=
  (bindings.find? fun b => b.1 = name).map Prod.snd

/-- Fill every group whose name has a value. -/
def fill (bindings : List (List Char × List Char)) : Piece → Piece
  | .text cs => .text cs
  | .group name =>
    match lookup bindings name with
    | some value => .text value
    | none => .group name

/-- Filling one name first and the others after it fills all of them. -/
theorem fill_fillOne (bindings : List (List Char × List Char)) (p : Piece) :
    fill bindings (fillOne key value p) = fill ((key, value) :: bindings) p := by
  cases p with
  | text cs => rfl
  | group name =>
    by_cases hk : name = key
    · simp [fillOne, fill, lookup, hk]
    · simp [fillOne, fill, lookup, hk, Ne.symm hk]

/-- Bindings that pieces cannot be confused by: no name closes a group, and no value that the pieces
use opens one. -/
def PlainBindings (ps : List Piece) (bindings : List (List Char × List Char)) : Prop :=
  ∀ b ∈ bindings, '}' ∉ b.1 ∧ (.group b.1 ∈ ps → '{' ∉ b.2)

/-- A plain piece stays plain when it is filled. -/
theorem Piece.Plain.fill (h : p.Plain) (hp : p ∈ ps) (hb : PlainBindings ps bindings) : (fill bindings p).Plain := by
  cases p with
  | text cs => exact h
  | group name =>
    cases hvalue : lookup bindings name with
    | none => rwa [BraceText.fill, hvalue]
    | some value =>
      obtain ⟨b, hfind, rfl⟩ := Option.map_eq_some_iff.mp hvalue
      have hname : b.1 = name := by simpa using find?_some hfind
      rw [BraceText.fill, hvalue]
      exact (hb b (mem_of_find?_eq_some hfind)).2 (hname ▸ hp)

/-- Replacing the names one after the other fills all groups at once. -/
theorem foldl_replaceGo_write (hb : PlainBindings ps bindings) (hps : ∀ p ∈ ps, p.Plain)
    (htail : ∀ rest, tail = some rest → '}' ∉ rest) :
    bindings.foldl (fun cs b => replaceGo ('{' :: (b.1 ++ ['}'])) b.2 cs 0) (write ps tail) =
      write (ps.map (fill bindings)) tail := by
  induction bindings generalizing ps with
  | nil =>
    have hid : fill [] = id := by
      funext p
      cases p <;> rfl
    rw [foldl_nil, hid, map_id]
  | cons b bindings ih =>
    obtain ⟨hkey, hvalue⟩ := hb b mem_cons_self
    have hps' : ∀ p ∈ ps.map (fillOne b.1 b.2), p.Plain := by
      intro p hp
      obtain ⟨q, hq, rfl⟩ := mem_map.mp hp
      exact (hps q hq).fillOne fun h => hvalue (h ▸ hq)
    -- The groups that are left were there before.
    have hb' : PlainBindings (ps.map (fillOne b.1 b.2)) bindings := by
      intro b' hmem
      obtain ⟨hkey', hvalue'⟩ := hb b' (mem_cons_of_mem _ hmem)
      refine ⟨hkey', fun hgroup => hvalue' ?_⟩
      obtain ⟨q, hq, heq⟩ := mem_map.mp hgroup
      rwa [← group_of_fillOne heq]
    rw [foldl_cons, replaceGo_write hkey hps htail, ih hb' hps', map_map]
    congr 1
    exact map_congr_left fun p _ => fill_fillOne bindings p

/-- In a flat text, replacing the names one after the other fills its groups. -/
theorem Flat.foldl_replaceGo (h : Flat cs) (hb : PlainBindings (scan cs).1 bindings) :
    bindings.foldl (fun cs b => replaceGo ('{' :: (b.1 ++ ['}'])) b.2 cs 0) cs =
      write ((scan cs).1.map (fill bindings)) (scan cs).2 := by
  have hfold := foldl_replaceGo_write hb h (scan_tail cs)
  rwa [write_scan] at hfold

end Clawhip.BraceText
