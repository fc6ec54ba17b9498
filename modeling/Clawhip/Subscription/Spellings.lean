import Clawhip.Subscription.Steering

/-!
# Spellings of sensitive keys

Which sensitive keys the gate of `src/source/subscription.rs` lets through. It starts a word at every
capital letter, and compares single words and the whole key: `keys_refused_iff` says that it misses
names in capitals, and names of several words that are a part of a longer key.
-/

namespace Clawhip.Subscription

open List

/-- A capital letter starts a word behind another character than a capital, and in front of a small
letter. -/
def startsWord (before c : Char) (after : Option Char) : Bool :=
  c.isUpper && (!before.isUpper || after.any Char.isLower)

/-- The words of a part of a key without separators; `before` is the character in front. -/
def wordsFrom (word : List Char) (before : Option Char) : List Char → List String
  | [] => if word.isEmpty then [] else [String.ofList word]
  | c :: cs =>
    if before.any fun b => startsWord b c cs.head? then
      String.ofList word :: wordsFrom [c.toLower] (some c) cs
    else wordsFrom (word ++ [c.toLower]) (some c) cs

/-- The parts of a key between its separators. -/
def keyParts (key : String) : List (List Char) := key.toList.splitOnP fun c => !c.isAlphanum

/-- The words of a key, in small letters. -/
def keyWords (key : String) : List String := (keyParts key).flatMap (wordsFrom [] none)

def isForbiddenName (name : String) : Bool := SENSITIVE_KEYS.contains name || RESERVED_KEYS.contains name

/-- Some words of a key that stand together are a sensitive or reserved name. -/
def Names (key : String) (words : List String) : Prop :=
  words ≠ [] ∧ words <:+: keyWords key ∧ isForbiddenName (String.intercalate "_" words) = true

/-- Two capital letters stand together in a key. -/
def HasCapitals (key : String) : Prop :=
  ∃ part ∈ keyParts key, ¬ part.IsChain fun a b => ¬ (a.isUpper = true ∧ b.isUpper = true)

/-- An object at some depth of a value has a key. -/
inductive HasKey (key : String) : Json → Prop
  | here {fields : List (String × Json)} {value : Json} (h : (key, value) ∈ fields) :
    HasKey key (.object fields)
  | field {fields : List (String × Json)} {name : String} {value : Json} (h : (name, value) ∈ fields)
    (hkey : HasKey key value) : HasKey key (.object fields)
  | item {items : List Json} {value : Json} (h : value ∈ items) (hkey : HasKey key value) :
    HasKey key (.array items)

/-- No key of a payload spells a sensitive or reserved name. -/
def KeysRefused (payload : Json) : Prop := ∀ key, HasKey key payload → ∀ words, ¬ Names key words

/-! ## Words -/

/-- Where no two capitals stand together, the gate and `wordsFrom` find the same words. -/
theorem camelWords_eq {part : List Char} (word : List Char) (before : Option Char)
    (hbefore : before.isSome = !word.isEmpty)
    (h : (before.toList ++ part).IsChain fun a b => ¬ (a.isUpper = true ∧ b.isUpper = true)) :
    camelWords word part = wordsFrom word before part := by
  induction part generalizing word before with
  | nil => rfl
  | cons c part ih =>
    have hrest : (c :: part).IsChain fun a b => ¬ (a.isUpper = true ∧ b.isUpper = true) := by
      cases before with
      | none => exact h
      | some b => exact (isChain_cons_cons.mp h).2
    have hsame : (c.isUpper && !word.isEmpty) = before.any fun b => startsWord b c part.head? := by
      cases before with
      | none =>
        rw [← hbefore]
        exact Bool.and_false _
      | some b =>
        rw [← hbefore, Option.any_some]
        unfold startsWord
        cases hc : c.isUpper <;> cases hb : b.isUpper
        all_goals simp_all
    unfold camelWords wordsFrom
    rw [hsame, ih [c.toLower] (some c) rfl hrest, ih (word ++ [c.toLower]) (some c) (by simp) hrest]

variable {key : String}

theorem keyComponents_eq (h : ¬ HasCapitals key) : keyComponents key = keyWords key := by
  refine flatMap_congr fun part hpart => camelWords_eq [] none rfl ?_
  by_contra hcapitals
  exact h ⟨part, hpart, hcapitals⟩

/-- A name that the gate misses in a key without capitals that stand together is a part of the key, of
several words. -/
theorem part_of_names {words : List String} (hcapitals : ¬ HasCapitals key)
    (hkey : forbiddenKey key = false) (h : Names key words) :
    1 < words.length ∧ words.length < (keyWords key).length := by
  obtain ⟨hne, hinside, hname⟩ := h
  unfold forbiddenKey at hkey
  rw [keyComponents_eq hcapitals] at hkey
  simp only [Bool.or_eq_false_iff, any_eq_false] at hkey
  refine ⟨Nat.lt_of_not_le fun hle => ?_, lt_of_le_of_ne hinside.length_le fun heq => ?_⟩
  · obtain ⟨word, rfl⟩ := length_eq_one_iff.mp (le_antisymm hle (length_pos_of_ne_nil hne))
    have hword := hkey.2 word (hinside.subset (mem_singleton_self word))
    exact hword (by simpa [isForbiddenName] using hname)
  · rw [hinside.sublist.eq_of_length heq] at hname
    unfold isForbiddenName at hname
    rw [hkey.1.1, hkey.1.2] at hname
    cases hname

/-! ## Payloads -/

theorem of_safeFields {fields : List (String × Json)} (h : safeFields fields = true) :
    ∀ entry ∈ fields, forbiddenKey entry.1 = false ∧ safePayload entry.2 = true := by
  induction fields with
  | nil => exact fun _ hentry => absurd hentry not_mem_nil
  | cons entry fields ih =>
    unfold safeFields at h
    simp only [Bool.and_eq_true, Bool.not_eq_true'] at h
    exact forall_mem_cons.mpr ⟨h.1, ih h.2⟩

theorem of_safeItems {items : List Json} (h : safeItems items = true) : ∀ item ∈ items, safePayload item = true := by
  induction items with
  | nil => exact fun _ hitem => absurd hitem not_mem_nil
  | cons item items ih =>
    obtain ⟨hitem, hrest⟩ := Bool.and_eq_true_iff.mp h
    exact forall_mem_cons.mpr ⟨hitem, ih hrest⟩

/-- The gate looks at every key, however deep. -/
theorem forbiddenKey_of_safe {payload : Json} (h : HasKey key payload)
    (hsafe : ∀ fields, payload = .object fields → safeFields fields = true)
    (hitems : ∀ items, payload = .array items → safeItems items = true) : forbiddenKey key = false := by
  have hobject {value : Json} (h : safePayload value = true) (fields : List (String × Json))
      (hvalue : value = .object fields) : safeFields fields = true := by
    subst hvalue
    exact (Bool.and_eq_true_iff.mp h).2
  have harray {value : Json} (h : safePayload value = true) (items : List Json)
      (hvalue : value = .array items) : safeItems items = true := by
    subst hvalue
    exact h
  induction h with
  | here h => exact (of_safeFields (hsafe _ rfl) _ h).1
  | field h _ ih =>
    have hvalue := (of_safeFields (hsafe _ rfl) _ h).2
    exact ih (hobject hvalue) (harray hvalue)
  | item h _ ih =>
    have hvalue := of_safeItems (hitems _ rfl) _ h
    exact ih (hobject hvalue) (harray hvalue)

/-- An accepted payload has no sensitive key if and only if none of its keys spells a name with capitals
that stand together in it, or has one of several words as a part. -/
theorem keys_refused_iff {deserialize : List UInt8 → Option RestrictedAdapterEvent} {stdout : List UInt8}
    {config : SubscriptionConfig} {event : IncomingEvent}
    (h : adapterEvent deserialize stdout config = .ok event) :
    KeysRefused event.payload ↔ ∀ key, HasKey key event.payload → ∀ words,
      HasCapitals key ∨ 1 < words.length ∧ words.length < (keyWords key).length → ¬ Names key words := by
  obtain ⟨fields, hpayload, hsafe⟩ := adapterEvent_eq_ok h
  refine ⟨fun hrefused key hkey words _ => hrefused key hkey words, fun hmissed key hkey words hnames => ?_⟩
  refine hmissed key hkey words (or_iff_not_imp_left.mpr fun hcapitals => ?_) hnames
  rw [hpayload] at hkey
  refine part_of_names hcapitals (forbiddenKey_of_safe hkey ?_ nofun) hnames
  rintro _ ⟨⟩
  exact hsafe

namespace Sample

def keyedOutput (key : String) : RestrictedAdapterEvent := ⟨"deploy.done", .object [(key, .string "x")]⟩

theorem keyed_passes (key : String) (h : forbiddenKey key = false) :
    adapterEvent (fun _ => some (keyedOutput key)) [0] deployments = .ok (plainEvent (keyedOutput key)) := by
  have hkind : validEventKind "deploy.done" = true := by decide +kernel
  have hsafe : safePayload (keyedOutput key).payload = true := by simp [keyedOutput, safePayload, safeFields, h]
  unfold adapterEvent
  rw [if_neg (by decide)]
  show (if !validEventKind "deploy.done" || !true || false || !safePayload (keyedOutput key).payload
    then _ else _) = _
  rw [hkind, hsafe]
  rfl

theorem hasKey_keyed {key name : String} (h : HasKey name (keyedOutput key).payload) : name = key := by
  cases h with
  | here h => exact (Prod.ext_iff.mp (mem_singleton.mp h)).1
  | field h hkey =>
    obtain rfl := (Prod.ext_iff.mp (mem_singleton.mp h)).2
    cases hkey

/-- A key of one word. -/
theorem plain_key_is_refused : KeysRefused (plainEvent (keyedOutput "status")).payload := by
  refine (keys_refused_iff (keyed_passes "status" (by decide +kernel))).mpr fun key hkey words hwords => ?_
  obtain rfl := hasKey_keyed hkey
  have hone : (keyWords "status").length = 1 := by decide +kernel
  have hsmall : ¬ HasCapitals "status" := by
    have hparts : keyParts "status" = ["status".toList] := by decide +kernel
    unfold HasCapitals
    rw [hparts]
    decide
  exact absurd (hwords.resolve_left hsmall) (by omega)

/-- A token in capitals passes the gate. -/
theorem token_in_capitals_passes :
    ¬ ∀ key event, adapterEvent (fun _ => some (keyedOutput key)) [0] deployments = .ok event →
      KeysRefused event.payload := by
  intro h
  have hwords : keyWords "TOKEN" = ["token"] := by decide +kernel
  refine h "TOKEN" _ (keyed_passes "TOKEN" (by decide +kernel)) "TOKEN" (.here (mem_singleton_self _))
    ["token"] ⟨cons_ne_nil _ _, ?_, by decide +kernel⟩
  rw [hwords]

end Sample

end Clawhip.Subscription
