import Clawhip.Json

/-!
# Texts that determine their value

`serde_json::to_string` read backwards: the text of a value without numbers determines the value, also
where more text follows it. A character inside a string is read back by `unescape`; a string ends at
the first quote that no backslash precedes; every other kind of value is told by its first character.
-/

namespace Clawhip

open List Option

namespace Json

/-! ## Characters -/

/-- The value of a hexadecimal digit in lower case. -/
def hexValue (c : Char) : ℕ := if c.toNat < 58 then c.toNat - 48 else c.toNat - 87

/-- What follows a backslash. -/
def unescapeTail : List Char → Option (Char × List Char)
  | 'n' :: rest => some ('\n', rest)
  | 'r' :: rest => some ('\r', rest)
  | 't' :: rest => some ('\t', rest)
  | 'b' :: rest => some (Char.ofNat 8, rest)
  | 'f' :: rest => some (Char.ofNat 12, rest)
  | 'u' :: _ :: _ :: high :: low :: rest =>
    some (Char.ofNat (16 * hexValue high + hexValue low), rest)
  | c :: rest => some (c, rest)
  | [] => none

/-- One character of a JSON string, and what follows it. -/
def unescape : List Char → Option (Char × List Char)
  | [] => none
  | c :: rest => if c = '\\' then unescapeTail rest else some (c, rest)

theorem hexValue_hexDigits : ∀ n < 32,
    16 * hexValue (Nat.digitChar (n / 16)) + hexValue (Nat.digitChar (n % 16)) = n := by
  decide

variable (c : Char) (rest : List Char)

/-- A character is read back from what is written for it. -/
theorem unescape_escape : unescape (escape c ++ rest) = some (c, rest) := by
  unfold escape
  split_ifs with hquote hslash hn hr ht hb hf hcontrol
  · rw [hquote]
    rfl
  · rw [hslash]
    rfl
  · rw [hn]
    rfl
  · rw [hr]
    rfl
  · rw [ht]
    rfl
  · show some (Char.ofNat 8, rest) = _
    rw [← hb, Char.ofNat_toNat]
  · show some (Char.ofNat 12, rest) = _
    rw [← hf, Char.ofNat_toNat]
  · show some (Char.ofNat (16 * hexValue (Nat.digitChar (c.toNat / 16)) +
      hexValue (Nat.digitChar (c.toNat % 16))), rest) = _
    rw [hexValue_hexDigits _ hcontrol, Char.ofNat_toNat]
  · show (if c = '\\' then unescapeTail rest else some (c, rest)) = _
    rw [if_neg hslash]

/-- Nothing that is written for a character starts with a quote. -/
theorem head?_escape_ne : (escape c ++ rest).head? ≠ some '"' := by
  unfold escape
  split_ifs with hquote
  all_goals
    intro h
    first
      | exact absurd (some.inj h) (by decide)
      | exact hquote (some.inj h)

/-- A string ends where its closing quote is. -/
theorem quote_append_inj {s t : String} {rest rest' : List Char}
    (h : quote s ++ rest = quote t ++ rest') : s = t ∧ rest = rest' := by
  have hbody : ∀ cs cs' : List Char, cs.flatMap escape ++ '"' :: rest = cs'.flatMap escape ++ '"' :: rest' →
        cs = cs' ∧ rest = rest' := by
    intro cs
    induction cs with
    | nil =>
      rintro (_ | ⟨c', cs'⟩) h
      · exact ⟨rfl, (cons.inj h).2⟩
      · have hhead := congrArg head? h
        rw [flatMap_cons, append_assoc] at hhead
        exact absurd hhead.symm (head?_escape_ne c' _)
    | cons c cs ih =>
      rintro (_ | ⟨c', cs'⟩) h
      · have hhead := congrArg head? h
        rw [flatMap_cons, append_assoc] at hhead
        exact absurd hhead (head?_escape_ne c _)
      · have hread := congrArg unescape h
        rw [flatMap_cons, flatMap_cons, append_assoc, append_assoc, unescape_escape, unescape_escape] at hread
        obtain ⟨rfl, htail⟩ := Prod.mk.inj (some.inj hread)
        obtain ⟨rfl, hrest⟩ := ih cs' htail
        exact ⟨rfl, hrest⟩
  unfold quote at h
  simp only [cons_append, append_assoc, nil_append] at h
  obtain ⟨hchars, hrest⟩ := hbody _ _ (cons.inj h).2
  exact ⟨String.toList_inj.mp hchars, hrest⟩

/-! ## Values -/

mutual

/-- No number occurs in a value. -/
def numberless : Json → Bool
  | number _ => false
  | array items => itemsNumberless items
  | object fields => fieldsNumberless fields
  | null | bool _ | string _ => true

/-- No number occurs in the items of an array. -/
def itemsNumberless : List Json → Bool
  | [] => true
  | item :: items => numberless item && itemsNumberless items

/-- No number occurs in the fields of an object. -/
def fieldsNumberless : List (String × Json) → Bool
  | [] => true
  | (_, value) :: fields => numberless value && fieldsNumberless fields

end

/-- The first character of a value without numbers; it tells the kind of the value. -/
def firstChar : Json → Char
  | null => 'n'
  | bool true => 't'
  | bool false => 'f'
  | number _ => '0'
  | string _ => '"'
  | array _ => '['
  | object _ => '\x7b'

theorem head?_toChars {v : Json} (h : numberless v = true) (rest : List Char) :
    (toChars v ++ rest).head? = some (firstChar v) := by
  cases v with
  | null => rfl
  | bool b =>
    cases b
    all_goals rfl
  | number n => cases h
  | string s => rfl
  | array items => rfl
  | object fields => rfl

/-- No item starts like the end of an array. -/
theorem firstChar_ne (v : Json) : firstChar v ≠ ']' := by
  cases v with
  | bool b =>
    cases b
    all_goals decide
  | _ => simp [firstChar]

/-- What follows the first item of an array. -/
def itemsTail (items : List Json) (rest : List Char) : List Char :=
  if items.isEmpty then ']' :: rest else ',' :: (itemsToChars items ++ ']' :: rest)

theorem itemsToChars_cons (item : Json) (items : List Json) (rest : List Char) :
    itemsToChars (item :: items) ++ ']' :: rest = toChars item ++ itemsTail items rest := by
  cases items with
  | nil => rfl
  | cons next items =>
    show (toChars item ++ ',' :: itemsToChars (next :: items)) ++ ']' :: rest = _
    rw [append_assoc]
    rfl

/-- What follows the first field of an object. -/
def fieldsTail (fields : List (String × Json)) (rest : List Char) : List Char :=
  if fields.isEmpty then '\x7d' :: rest else ',' :: (fieldsToChars fields ++ '\x7d' :: rest)

theorem fieldsToChars_cons (key : String) (value : Json) (fields : List (String × Json))
    (rest : List Char) : fieldsToChars ((key, value) :: fields) ++ '\x7d' :: rest =
      quote key ++ ':' :: (toChars value ++ fieldsTail fields rest) := by
  cases fields with
  | nil =>
    show (quote key ++ ':' :: toChars value) ++ '\x7d' :: rest = _
    rw [append_assoc]
    rfl
  | cons next fields =>
    show (quote key ++ ':' :: (toChars value ++ ',' :: fieldsToChars (next :: fields))) ++ '\x7d' :: rest = _
    rw [append_assoc, cons_append, append_assoc]
    rfl

mutual

/-- The text of a value without numbers, with what follows it, determines the value. -/
theorem toChars_append_inj : ∀ {v v' : Json} {rest rest' : List Char}, numberless v = true →
    numberless v' = true → toChars v ++ rest = toChars v' ++ rest' → v = v' ∧ rest = rest'
  | v, v', rest, rest', hv, hv', h => by
    match v, v', hv, hv' with
    | null, null, _, _ | bool true, bool true, _, _ | bool false, bool false, _, _ => exact ⟨rfl, append_cancel_left h⟩
    | string s, string t, _, _ =>
      obtain ⟨rfl, hrest⟩ := quote_append_inj h
      exact ⟨rfl, hrest⟩
    | array items, array items', hv, hv' =>
      have hinner : itemsToChars items ++ ']' :: rest = itemsToChars items' ++ ']' :: rest' := by
        simpa [toChars] using h
      obtain ⟨rfl, hrest⟩ := itemsToChars_inj hv hv' hinner
      exact ⟨rfl, hrest⟩
    | object fields, object fields', hv, hv' =>
      have hinner : fieldsToChars fields ++ '\x7d' :: rest = fieldsToChars fields' ++ '\x7d' :: rest' := by
        simpa [toChars] using h
      obtain ⟨rfl, hrest⟩ := fieldsToChars_inj hv hv' hinner
      exact ⟨rfl, hrest⟩

/-- The items of an array and what follows them. -/
theorem itemsToChars_inj : ∀ {items items' : List Json} {rest rest' : List Char},
    itemsNumberless items = true → itemsNumberless items' = true →
      itemsToChars items ++ ']' :: rest = itemsToChars items' ++ ']' :: rest' → items = items' ∧ rest = rest'
  | [], [], _, _, _, _, h => ⟨rfl, (cons.inj h).2⟩
  | [], item' :: items', rest, rest', _, hv', h => by
    have hv' := Bool.and_eq_true_iff.mp hv'
    rw [itemsToChars_cons] at h
    have hhead := congrArg head? h
    rw [head?_toChars hv'.1] at hhead
    exact absurd (some.inj hhead).symm (firstChar_ne item')
  | item :: items, [], rest, rest', hv, _, h => by
    have hv := Bool.and_eq_true_iff.mp hv
    rw [itemsToChars_cons] at h
    have hhead := congrArg head? h
    rw [head?_toChars hv.1] at hhead
    exact absurd (some.inj hhead) (firstChar_ne item)
  | item :: items, item' :: items', rest, rest', hv, hv', h => by
    have hv := Bool.and_eq_true_iff.mp hv
    have hv' := Bool.and_eq_true_iff.mp hv'
    rw [itemsToChars_cons, itemsToChars_cons] at h
    obtain ⟨rfl, htail⟩ := toChars_append_inj hv.1 hv'.1 h
    -- After the first item comes the end of both arrays, or a further item of both.
    match items, items', hv.2, hv'.2, htail with
    | [], [], _, _, htail => exact ⟨rfl, (cons.inj htail).2⟩
    | [], _ :: _, _, _, htail | _ :: _, [], _, _, htail => exact absurd (cons.inj htail).1 (by decide)
    | next :: items, next' :: items', hv, hv', htail =>
      obtain ⟨hitems, hrest⟩ := itemsToChars_inj hv hv' (cons.inj htail).2
      exact ⟨congrArg _ hitems, hrest⟩

/-- The fields of an object and what follows them. -/
theorem fieldsToChars_inj : ∀ {fields fields' : List (String × Json)} {rest rest' : List Char},
    fieldsNumberless fields = true → fieldsNumberless fields' = true →
      fieldsToChars fields ++ '\x7d' :: rest = fieldsToChars fields' ++ '\x7d' :: rest' →
        fields = fields' ∧ rest = rest'
  | [], [], _, _, _, _, h => ⟨rfl, (cons.inj h).2⟩
  | [], (key', value') :: fields', rest, rest', _, _, h => by
    rw [fieldsToChars_cons] at h
    exact absurd (cons.inj h).1 (by decide)
  | (key, value) :: fields, [], rest, rest', _, _, h => by
    rw [fieldsToChars_cons] at h
    exact absurd (cons.inj h).1 (by decide)
  | (key, value) :: fields, (key', value') :: fields', rest, rest', hv, hv', h => by
    obtain ⟨hvalue, hfields⟩ := Bool.and_eq_true_iff.mp hv
    obtain ⟨hvalue', hfields'⟩ := Bool.and_eq_true_iff.mp hv'
    rw [fieldsToChars_cons, fieldsToChars_cons] at h
    obtain ⟨rfl, hcolon⟩ := quote_append_inj h
    obtain ⟨rfl, htail⟩ := toChars_append_inj hvalue hvalue' (cons.inj hcolon).2
    match fields, fields', hfields, hfields', htail with
    | [], [], _, _, htail => exact ⟨rfl, (cons.inj htail).2⟩
    | [], _ :: _, _, _, htail | _ :: _, [], _, _, htail => exact absurd (cons.inj htail).1 (by decide)
    | next :: fields, next' :: fields', hv, hv', htail =>
      obtain ⟨hfields, hrest⟩ := fieldsToChars_inj hv hv' (cons.inj htail).2
      exact ⟨congrArg _ hfields, hrest⟩

end

/-- The text of a value without numbers determines the value. -/
theorem toText_inj {v v' : Json} (hv : numberless v = true) (hv' : numberless v' = true)
    (h : v.toText = v'.toText) : v = v' := by
  have hchars : toChars v ++ [] = toChars v' ++ [] := by
    rw [append_nil, append_nil]
    exact String.ofList_inj.mp h
  exact (toChars_append_inj hv hv' hchars).1

end Json

end Clawhip
