import Clawhip.Lib.Text

/-!
# Lines

`str::lines` and `str::split_once`, and what they read back from a text that was printed line by line.
-/

namespace Clawhip.Text

open List

/-- `str::split_once` at a character, on lists of characters. -/
def splitOnceGo (separator : Char) : List Char → List Char → Option (List Char × List Char)
  | _, [] => none
  | before, c :: cs =>
    if c = separator then some (before.reverse, cs) else splitOnceGo separator (c :: before) cs

/-- `str::split_once` at a character. -/
def splitOnce (value : String) (separator : Char) : Option (String × String) :=
  (splitOnceGo separator [] value.toList).map fun (before, after) =>
    (String.ofList before, String.ofList after)

/-- A line that was ended by a line feed, without the carriage return before it; the line is reversed. -/
def endLine : List Char → List Char
  | '\r' :: line => line.reverse
  | line => line.reverse

/-- The lines of a text; `line` is the current line, reversed. -/
def linesGo (line : List Char) : List Char → List (List Char)
  | [] => if line.isEmpty then [] else [line.reverse]
  | c :: cs => if c = '\n' then endLine line :: linesGo [] cs else linesGo (c :: line) cs

/-- `str::lines`. -/
def lines (value : String) : List String := (linesGo [] value.toList).map String.ofList

example : lines "a\r\nb\n\nc\r" = ["a", "b", "", "c\r"] := by decide +kernel

/-! ## Reading back -/

variable {separator : Char}

theorem splitOnceGo_append {before : List Char} (h : separator ∉ before) (acc after : List Char) :
    splitOnceGo separator acc (before ++ separator :: after) = some (acc.reverse ++ before, after) := by
  induction before generalizing acc with
  | nil => simp [splitOnceGo]
  | cons c before ih =>
    have hne : c ≠ separator := fun heq => h (heq ▸ mem_cons_self)
    rw [cons_append, splitOnceGo, if_neg hne, ih fun hmem => h (mem_cons_of_mem _ hmem)]
    simp

/-- A text is cut at the first separator. -/
theorem splitOnce_append {before : String} (h : separator ∉ before.toList) (after : String) :
    splitOnce (before ++ separator.toString ++ after) separator = some (before, after) := by
  have hchars : (before ++ separator.toString ++ after).toList = before.toList ++ separator :: after.toList := by
    simp [Char.toString]
  rw [splitOnce, hchars, splitOnceGo_append h]
  simp

variable {line : List Char}

theorem endLine_reverse (h : line.getLast? ≠ some '\r') : endLine line.reverse = line := by
  unfold endLine
  split
  · rename_i line' heq
    have hlast : line.getLast? = some '\r' := by
      rw [← head?_reverse, heq]
      rfl
    exact absurd hlast h
  · exact reverse_reverse line

theorem linesGo_append (h : '\n' ∉ line) (acc rest : List Char) :
    linesGo acc (line ++ rest) = linesGo (line.reverse ++ acc) rest := by
  induction line generalizing acc with
  | nil => rfl
  | cons c line ih =>
    have hne : c ≠ '\n' := fun heq => h (heq ▸ mem_cons_self)
    rw [cons_append, linesGo, if_neg hne, ih fun hmem => h (mem_cons_of_mem _ hmem)]
    simp

/-- A line that is ended by a line feed is read back. -/
theorem linesGo_line (hfeed : '\n' ∉ line) (hreturn : line.getLast? ≠ some '\r')
    (rest : List Char) : linesGo [] (line ++ '\n' :: rest) = line :: linesGo [] rest := by
  rw [linesGo_append hfeed, append_nil, linesGo, if_pos rfl, endLine_reverse hreturn]

/-- A last line that is not ended is read back. -/
theorem linesGo_last (hfeed : '\n' ∉ line) (hne : line ≠ []) : linesGo [] line = [line] := by
  have h := linesGo_append hfeed [] []
  rw [append_nil] at h
  rw [h, append_nil, linesGo, if_neg (by simpa using hne), reverse_reverse]

/-- Lines are read back, where the last one is not ended. -/
theorem linesGo_lines {lines : List (List Char)} {last : List Char} (hfeed : ∀ line ∈ lines ++ [last], '\n' ∉ line)
    (hreturn : ∀ line ∈ lines, line.getLast? ≠ some '\r') (hne : last ≠ []) :
    linesGo [] ((lines.flatMap fun line => line ++ ['\n']) ++ last) = lines ++ [last] := by
  induction lines with
  | nil => exact linesGo_last (hfeed last (by simp)) hne
  | cons line lines ih =>
    have hrest := ih (fun l hl => hfeed l (mem_cons_of_mem _ hl)) fun l hl => hreturn l (mem_cons_of_mem _ hl)
    rw [flatMap_cons, append_assoc, append_assoc, singleton_append,
      linesGo_line (hfeed line (by simp)) (hreturn line (by simp)), hrest, cons_append]

/-- White space around a text is stripped, and no more. -/
theorem strip_append {body : List Char} {c : Char} (hc : isWhitespace c = true)
    (hhead : ∀ c ∈ body.head?, isWhitespace c = false) (hlast : ∀ c ∈ body.getLast?, isWhitespace c = false) :
    strip isWhitespace (body ++ [c]) = body := by
  unfold strip
  cases body with
  | nil => simp [dropWhile, hc]
  | cons b body =>
    have hb : isWhitespace b = false := hhead b rfl
    rw [cons_append, dropWhile_cons_of_neg (by simp [hb]), ← cons_append,
      reverse_append, reverse_singleton, singleton_append, dropWhile_cons_of_pos hc]
    have hfirst : ∀ c ∈ (b :: body).reverse.head?, isWhitespace c = false := by
      rw [head?_reverse]
      exact hlast
    rw [dropWhile_eq_self (p := isWhitespace) hfirst, reverse_reverse]

/-- A text with no white space around it is its own trimming. -/
theorem trim_eq_self {s : String} (hhead : ∀ c ∈ s.toList.head?, isWhitespace c = false)
    (hlast : ∀ c ∈ s.toList.getLast?, isWhitespace c = false) : trim s = s := by
  unfold trim strip
  rw [dropWhile_eq_self hhead, dropWhile_eq_self (by rwa [head?_reverse]), reverse_reverse, String.ofList_toList]

end Clawhip.Text
