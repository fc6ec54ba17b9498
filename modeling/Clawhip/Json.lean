import Clawhip.Lib.OrdMap

/-!
# JSON values

`serde_json::Value` without the order-preserving feature: an object is a map that lists its keys in
order. A float is kept as its printed text; nothing here computes with floats.
-/

namespace Clawhip

/-- `serde_json::Number`. -/
inductive Number where
  | posInt (n : ℕ)
  | negInt (n : ℕ)
  | float (text : String)
deriving DecidableEq

/-- `serde_json::Value`. -/
inductive Json where
  | null
  | bool (b : Bool)
  | number (n : Number)
  | string (s : String)
  | array (items : List Json)
  | object (fields : List (String × Json))

def Number.asU64 : Number → Option ℕ
  | .posInt n => some n
  | _ => none

namespace Json

/-- `Value::as_str`. -/
def asStr : Json → Option String
  | string s => some s
  | _ => none

/-- `Value::as_bool`. -/
def asBool : Json → Option Bool
  | bool b => some b
  | _ => none

/-- `Value::as_u64`. -/
def asU64 : Json → Option ℕ
  | number n => n.asU64
  | _ => none

/-- `Value::is_object`. -/
def isObject : Json → Bool
  | object _ => true
  | _ => false

/-- `Value::get` at an object key. -/
def get (v : Json) (key : String) : Option Json :=
  match v with
  | object fields => OrdMap.get fields key
  | _ => none

/-- `value[key]`: `null` where there is no such key. -/
def index (v : Json) (key : String) : Json := (v.get key).getD null

/-- `Value::pointer` along a path of names. No pointer of the program has a numeric step, the only
kind that reads into an array. -/
def pointer (v : Json) : List String → Option Json
  | [] => some v
  | name :: path => (v.get name).bind fun v' => pointer v' path

/-- The object of a `json!` literal. -/
def ofFields (fields : List (String × Json)) : Json :=
  object (fields.foldl (fun (m : OrdMap String Json) p => m.insert p.1 p.2) [])

/-- A text or `null`. -/
def ofOption : Option String → Json
  | some s => string s
  | none => null

/-- A count. -/
def ofNat (n : ℕ) : Json := number (.posInt n)

/-! ## Text -/

/-- The two hexadecimal digits of a control character. -/
def hexDigits (n : ℕ) : List Char := [Nat.digitChar (n / 16), Nat.digitChar (n % 16)]

/-- A character inside a JSON string. -/
def escape (c : Char) : List Char :=
  if c = '"' then ['\\', '"']
  else if c = '\\' then ['\\', '\\']
  else if c = '\n' then ['\\', 'n']
  else if c = '\r' then ['\\', 'r']
  else if c = '\t' then ['\\', 't']
  else if c.toNat = 8 then ['\\', 'b']
  else if c.toNat = 12 then ['\\', 'f']
  else if c.toNat < 32 then ['\\', 'u', '0', '0'] ++ hexDigits c.toNat
  else [c]

/-- A JSON string. -/
def quote (s : String) : List Char := '"' :: (s.toList.flatMap escape ++ ['"'])

end Json

def Number.toText : Number → String
  | .posInt n => toString n
  | .negInt n => "-" ++ toString n
  | .float text => text

namespace Json

mutual

/-- `serde_json::to_string`. -/
def toChars : Json → List Char
  | null => "null".toList
  | bool b => (toString b).toList
  | number n => n.toText.toList
  | string s => quote s
  | array items => '[' :: (itemsToChars items ++ [']'])
  | object fields => '\x7b' :: (fieldsToChars fields ++ ['\x7d'])

/-- The items of an array, separated by commas. -/
def itemsToChars : List Json → List Char
  | [] => []
  | [item] => toChars item
  | item :: next :: items => toChars item ++ ',' :: itemsToChars (next :: items)

/-- The fields of an object, separated by commas. -/
def fieldsToChars : List (String × Json) → List Char
  | [] => []
  | [(key, value)] => quote key ++ ':' :: toChars value
  | (key, value) :: next :: fields =>
    quote key ++ ':' :: (toChars value ++ ',' :: fieldsToChars (next :: fields))

end

/-- `serde_json::to_string`. -/
def toText (v : Json) : String := String.ofList v.toChars

/-! ## Texts -/

mutual

/-- Every text in a value with the path of names that leads to it from `path`; the items of an array
stand at the array's path. -/
def textsAt (path : List String) : Json → List (List String × String)
  | string s => [(path, s)]
  | array items => itemsTextsAt path items
  | object fields => fieldsTextsAt path fields
  | null | bool _ | number _ => []

/-- The texts in the items of an array. -/
def itemsTextsAt (path : List String) : List Json → List (List String × String)
  | [] => []
  | item :: items => textsAt path item ++ itemsTextsAt path items

/-- The texts in the fields of an object. -/
def fieldsTextsAt (path : List String) : List (String × Json) → List (List String × String)
  | [] => []
  | (key, value) :: fields => textsAt (path ++ [key]) value ++ fieldsTextsAt path fields

end

variable {found : List String × String} {path : List String}

theorem mem_fieldsTextsAt {fields : List (String × Json)} (h : found ∈ fieldsTextsAt path fields) :
    ∃ field ∈ fields, found ∈ textsAt (path ++ [field.1]) field.2 := by
  induction fields with
  | nil => exact absurd h List.not_mem_nil
  | cons field fields ih =>
    obtain ⟨key, value⟩ := field
    rcases List.mem_append.mp h with h | h
    · exact ⟨(key, value), List.mem_cons_self, h⟩
    · obtain ⟨field, hfield, hfound⟩ := ih h
      exact ⟨field, List.mem_cons_of_mem _ hfield, hfound⟩

/-- A text in an array of texts is one of them. -/
theorem mem_itemsTextsAt_strings {texts : List String}
    (h : found ∈ itemsTextsAt path (texts.map string)) : ∃ text ∈ texts, found = (path, text) := by
  induction texts with
  | nil => exact absurd h List.not_mem_nil
  | cons text texts ih =>
    rw [List.map_cons] at h
    rcases List.mem_cons.mp h with h | h
    · exact ⟨text, List.mem_cons_self, h⟩
    · obtain ⟨other, hother, hfound⟩ := ih h
      exact ⟨other, List.mem_cons_of_mem _ hother, hfound⟩

/-! ## Equality -/

mutual

/-- `Value::eq`. -/
def beq : Json → Json → Bool
  | null, null => true
  | bool a, bool b => a == b
  | number a, number b => a == b
  | string a, string b => a == b
  | array items, array items' => itemsBeq items items'
  | object fields, object fields' => fieldsBeq fields fields'
  | _, _ => false

def itemsBeq : List Json → List Json → Bool
  | [], [] => true
  | item :: items, item' :: items' => beq item item' && itemsBeq items items'
  | _, _ => false

def fieldsBeq : List (String × Json) → List (String × Json) → Bool
  | [], [] => true
  | (key, value) :: fields, (key', value') :: fields' =>
    key == key' && (beq value value' && fieldsBeq fields fields')
  | _, _ => false

end

mutual

theorem beq_self : ∀ v : Json, beq v v = true
  | null => rfl
  | bool b | number n | string s => by simp [beq]
  | array items => by exact itemsBeq_self items
  | object fields => by exact fieldsBeq_self fields

theorem itemsBeq_self : ∀ items : List Json, itemsBeq items items = true
  | [] => rfl
  | item :: items => by
    unfold itemsBeq
    rw [beq_self item, itemsBeq_self items]
    rfl

theorem fieldsBeq_self : ∀ fields : List (String × Json), fieldsBeq fields fields = true
  | [] => rfl
  | (key, value) :: fields => by
    unfold fieldsBeq
    rw [beq_self value, fieldsBeq_self fields, beq_self_eq_true]
    rfl

end

mutual

theorem eq_of_beq : ∀ {v v' : Json}, beq v v' = true → v = v'
  | null, v', h => by cases v' <;> first | rfl | cases h
  | bool b, v', h => by
    cases v' with
    | bool b' => rw [beq_iff_eq.mp h]
    | _ => cases h
  | number n, v', h => by
    cases v' with
    | number n' => rw [beq_iff_eq.mp h]
    | _ => cases h
  | string s, v', h => by
    cases v' with
    | string s' => rw [beq_iff_eq.mp h]
    | _ => cases h
  | array items, v', h => by
    cases v' with
    | array items' => rw [eq_of_itemsBeq h]
    | _ => cases h
  | object fields, v', h => by
    cases v' with
    | object fields' => rw [eq_of_fieldsBeq h]
    | _ => cases h

theorem eq_of_itemsBeq : ∀ {items items' : List Json}, itemsBeq items items' = true → items = items'
  | [], items', h => by cases items' <;> first | rfl | cases h
  | item :: items, items', h => by
    cases items' with
    | nil => cases h
    | cons item' items' =>
      obtain ⟨hitem, hitems⟩ := Bool.and_eq_true_iff.mp h
      rw [eq_of_beq hitem, eq_of_itemsBeq hitems]

theorem eq_of_fieldsBeq : ∀ {fields fields' : List (String × Json)}, fieldsBeq fields fields' = true → fields = fields'
  | [], fields', h => by cases fields' <;> first | rfl | cases h
  | (key, value) :: fields, fields', h => by
    cases fields' with
    | nil => cases h
    | cons field fields' =>
      obtain ⟨key', value'⟩ := field
      obtain ⟨hkey, hrest⟩ := Bool.and_eq_true_iff.mp h
      obtain ⟨hvalue, hfields⟩ := Bool.and_eq_true_iff.mp hrest
      rw [beq_iff_eq.mp hkey, eq_of_beq hvalue, eq_of_fieldsBeq hfields]

end

instance : DecidableEq Json := fun v v' =>
  decidable_of_iff (beq v v' = true) ⟨eq_of_beq, fun h => h ▸ beq_self v⟩

end Json

end Clawhip
