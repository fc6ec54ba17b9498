import Clawhip.Lib.OrdMap
import Mathlib.Data.List.Sort
import Mathlib.Data.String.Basic
import Mathlib.Data.List.Nodup
import Mathlib.Logic.Equiv.Defs
import Mathlib.Algebra.Group.Int.Defs

/-!
# Records as tables

Reading and writing records as tables of a configuration language. A `Codec` writes a value as a
tree and reads it back; `kept` is what comes back, which is not always what was written, since a
field may be left out when a predicate says so. A `Fieldset` is a group of fields of one table, and
groups with different keys are put side by side, so that the laws of a record follow from those of
its fields.
-/

namespace Clawhip

open List OrdMap

/-- A tree of the configuration language: a table lists its keys in order. -/
inductive Toml where
  | string (s : String)
  | integer (n : ℤ)
  | float (text : String)
  | boolean (b : Bool)
  | datetime (text : String)
  | array (items : List Toml)
  | table (fields : List (String × Toml))

namespace Toml

/-- The keys of a table are in order, each once. -/
def Ordered {ν : Type} (fields : List (String × ν)) : Prop := (fields.map Prod.fst).Pairwise (· < ·)

/-- A tree that the language can say: its integers have 64 bits, and its tables are in order. -/
inductive Fits : Toml → Prop
  | string (s : String) : Fits (.string s)
  | integer {n : ℤ} : -2 ^ 63 ≤ n → n < 2 ^ 63 → Fits (.integer n)
  | float (text : String) : Fits (.float text)
  | boolean (b : Bool) : Fits (.boolean b)
  | datetime (text : String) : Fits (.datetime text)
  | array {items : List Toml} : (∀ item ∈ items, Fits item) → Fits (.array items)
  | table {fields : List (String × Toml)} : Ordered fields → (∀ field ∈ fields, Fits field.2) →
      Fits (.table fields)

/-- One key is not after the other. -/
def notAfter (a b : String × Toml) : Bool := decide (a.1 ≤ b.1)

/-- The fields of a table in order. -/
def sorted (fields : List (String × Toml)) : List (String × Toml) := fields.mergeSort notAfter

theorem sorted_perm (fields : List (String × Toml)) : (sorted fields).Perm fields := mergeSort_perm _ _

variable {fields : List (String × Toml)}

theorem ordered_sorted (h : (fields.map Prod.fst).Nodup) : Ordered (sorted fields) := by
  have htrans : ∀ a b c, notAfter a b = true → notAfter b c = true → notAfter a c = true :=
    fun _ _ _ hab hbc => decide_eq_true (le_trans (of_decide_eq_true hab) (of_decide_eq_true hbc))
  have htotal : ∀ a b, (notAfter a b || notAfter b a) = true := fun a b => by simpa [notAfter] using le_total a.1 b.1
  have hle : (sorted fields).Pairwise fun a b => notAfter a b = true := pairwise_mergeSort htrans htotal fields
  have hnodup : ((sorted fields).map Prod.fst).Nodup := ((sorted_perm fields).map Prod.fst).nodup_iff.mpr h
  have hne : (sorted fields).Pairwise fun a b => a.1 ≠ b.1 := pairwise_map.mp hnodup
  refine pairwise_map.mpr ((hle.and hne).imp ?_)
  intro a b hab
  exact lt_of_le_of_ne (of_decide_eq_true hab.1) hab.2

theorem get_sorted (h : (fields.map Prod.fst).Nodup) (key : String) : get (sorted fields) key = get fields key := by
  have hperm := sorted_perm fields
  have hnodup : ((sorted fields).map Prod.fst).Nodup := (hperm.map Prod.fst).nodup_iff.mpr h
  cases hfound : get fields key with
  | some value => exact get_of_mem hnodup (hperm.mem_iff.mpr (mem_of_get hfound))
  | none =>
    have hkey : key ∉ keys fields := get_eq_none_iff.mp hfound
    exact get_eq_none_iff.mpr fun hmem => hkey ((hperm.map Prod.fst).mem_iff.mp hmem)

end Toml

/-- A way to write values as trees and to read them. -/
structure Codec (α : Type) where
  encode : α → Toml
  decode : Toml → Option α
  /-- What is read back where a value was written. -/
  kept : α → α
  /-- What is known of a value that was read. -/
  fits : α → Prop
  decode_encode : ∀ a, fits a → decode (encode a) = some (kept a)
  fits_of_decode : ∀ v a, v.Fits → decode v = some a → fits a
  fits_encode : ∀ a, fits a → (encode a).Fits

/-- A group of fields of a table. -/
structure Fieldset (α : Type) where
  /-- The keys that the group reads. -/
  names : List String
  write : α → List (String × Toml)
  read : List (String × Toml) → Option α
  kept : α → α
  fits : α → Prop
  keys_write : ∀ a, ∀ field ∈ write a, field.1 ∈ names
  nodup_write : ∀ a, ((write a).map Prod.fst).Nodup
  read_congr : ∀ t t', (∀ name ∈ names, OrdMap.get t name = OrdMap.get t' name) → read t = read t'
  read_write : ∀ a, fits a → read (write a) = some (kept a)
  fits_of_read : ∀ t a, (∀ field ∈ t, field.2.Fits) → read t = some a → fits a
  fits_write : ∀ a, fits a → ∀ field ∈ write a, field.2.Fits

namespace Codec

/-- A codec reads back what it wrote. -/
class Exact {α : Type} (c : Codec α) : Prop where
  kept_eq : ∀ a, c.kept a = a

/-- A text. -/
def string : Codec String where
  encode := .string
  decode
    | .string s => some s
    | _ => none
  kept a := a
  fits _ := True
  decode_encode _ _ := rfl
  fits_of_decode _ _ _ _ := trivial
  fits_encode a _ := .string a

instance : Exact string := ⟨fun _ => rfl⟩

theorem string_fits (s : String) : string.fits s := trivial

/-- A flag. -/
def bool : Codec Bool where
  encode := .boolean
  decode
    | .boolean b => some b
    | _ => none
  kept a := a
  fits _ := True
  decode_encode _ _ := rfl
  fits_of_decode _ _ _ _ := trivial
  fits_encode a _ := .boolean a

instance : Exact bool := ⟨fun _ => rfl⟩

theorem bool_fits (b : Bool) : bool.fits b := trivial

/-- A count below a bound. -/
def count (bound : ℕ) : Codec ℕ where
  encode n := .integer n
  decode
    | .integer n => if 0 ≤ n ∧ n.toNat < bound then some n.toNat else none
    | _ => none
  kept a := a
  fits n := n < bound ∧ n < 2 ^ 63
  decode_encode n h := by simp [h.1]
  fits_of_decode v a hv h := by
    cases v with
    | integer n =>
      cases hv with
      | integer hlow hhigh =>
        simp only at h
        split at h
        · rename_i hn
          obtain rfl := Option.some.inj h
          omega
        · cases h
    | _ => cases h
  fits_encode n h := .integer (by omega) (by have := h.2; omega)

instance (bound : ℕ) : Exact (count bound) := ⟨fun _ => rfl⟩

theorem count_fits {bound n : ℕ} (h : n < bound ∧ n < 2 ^ 63) : (count bound).fits n := h

/-- A signed number of 64 bits. -/
def signed : Codec ℤ where
  encode := .integer
  decode
    | .integer n => some n
    | _ => none
  kept a := a
  fits n := -2 ^ 63 ≤ n ∧ n < 2 ^ 63
  decode_encode _ _ := rfl
  fits_of_decode v a hv h := by
    cases v with
    | integer n =>
      cases hv with
      | integer hlow hhigh =>
        obtain rfl := Option.some.inj h
        exact ⟨hlow, hhigh⟩
    | _ => cases h
  fits_encode n h := .integer h.1 h.2

instance : Exact signed := ⟨fun _ => rfl⟩

theorem signed_fits {n : ℤ} (h : -2 ^ 63 ≤ n ∧ n < 2 ^ 63) : signed.fits n := h

/-- One of a few names. -/
def named {α : Type} (label : α → String) (parse : String → Option α)
    (parse_label : ∀ a, parse (label a) = some a) : Codec α where
  encode a := .string (label a)
  decode
    | .string s => parse s
    | _ => none
  kept a := a
  fits _ := True
  decode_encode a _ := parse_label a
  fits_of_decode _ _ _ _ := trivial
  fits_encode a _ := .string (label a)

instance {α : Type} (label : α → String) (parse : String → Option α)
    (h : ∀ a, parse (label a) = some a) : Exact (named label parse h) := ⟨fun _ => rfl⟩

/-- A list of values. -/
def list {α : Type} (c : Codec α) : Codec (List α) where
  encode items := .array (items.map c.encode)
  decode
    | .array items => items.mapM c.decode
    | _ => none
  kept items := items.map c.kept
  fits items := ∀ item ∈ items, c.fits item
  decode_encode items h := by
    induction items with
    | nil => rfl
    | cons item items ih =>
      have hrest := ih fun other hother => h other (List.mem_cons_of_mem _ hother)
      simp only [List.map_cons, List.mapM_cons] at hrest ⊢
      rw [c.decode_encode item (h item List.mem_cons_self), hrest]
      rfl
  fits_of_decode v items hv h := by
    cases v with
    | array trees =>
      cases hv with
      | array htrees =>
        simp only at h
        induction trees generalizing items with
        | nil =>
          obtain rfl := Option.some.inj h
          simp
        | cons tree trees ih =>
          rw [List.mapM_cons] at h
          obtain ⟨item, hitem, h⟩ := Option.bind_eq_some_iff.mp h
          obtain ⟨rest, hrest, h⟩ := Option.bind_eq_some_iff.mp h
          obtain rfl := Option.some.inj h
          intro other hother
          rcases List.mem_cons.mp hother with rfl | hother
          · exact c.fits_of_decode _ _ (htrees tree List.mem_cons_self) hitem
          · exact ih rest hrest (fun t ht => htrees t (List.mem_cons_of_mem _ ht)) other hother
    | _ => cases h
  fits_encode items h := by
    refine .array fun tree htree => ?_
    obtain ⟨item, hitem, rfl⟩ := List.mem_map.mp htree
    exact c.fits_encode item (h item hitem)

instance {α : Type} (c : Codec α) [h : Exact c] : Exact (list c) :=
  ⟨fun items => by
    have hkept : c.kept = id := funext h.kept_eq
    simp [list, hkept]⟩

theorem nil_fits {α : Type} (c : Codec α) : (list c).fits [] := forall_mem_nil _

def texts : Codec (OrdMap String String) where
  encode m := .table (m.map fun entry => (entry.1, .string entry.2))
  decode
    | .table fields => fields.mapM fun field => (string.decode field.2).map fun s => (field.1, s)
    | _ => none
  kept m := m
  fits m := Toml.Ordered m
  decode_encode m h := by
    clear h
    simp only
    induction m with
    | nil => rfl
    | cons entry m ih =>
      rw [List.map_cons, List.mapM_cons, ih]
      rfl
  fits_of_decode v m hv h := by
    cases v with
    | table fields =>
      cases hv with
      | table hordered hfields =>
        have hkeys : m.map Prod.fst = fields.map Prod.fst := by
          simp only at h
          clear hordered hfields
          induction fields generalizing m with
          | nil =>
            obtain rfl := Option.some.inj h
            rfl
          | cons field fields ih =>
            rw [List.mapM_cons] at h
            obtain ⟨entry, hentry, h⟩ := Option.bind_eq_some_iff.mp h
            obtain ⟨rest, hrest, h⟩ := Option.bind_eq_some_iff.mp h
            obtain rfl := Option.some.inj h
            obtain ⟨s, -, rfl⟩ := Option.map_eq_some_iff.mp hentry
            rw [List.map_cons, List.map_cons, ih rest hrest]
        unfold Toml.Ordered at *
        rw [hkeys]
        exact hordered
    | _ => cases h
  fits_encode m h := by
    refine .table ?_ ?_
    · unfold Toml.Ordered at *
      simpa [Function.comp_def] using h
    · intro field hfield
      obtain ⟨entry, -, rfl⟩ := List.mem_map.mp hfield
      exact .string _

instance : Exact texts := ⟨fun _ => rfl⟩

theorem texts_fits : texts.fits [] := Pairwise.nil

end Codec

namespace Fieldset

/-- A group of fields reads back what it wrote. -/
class Exact {α : Type} (g : Fieldset α) : Prop where
  kept_eq : ∀ a, g.kept a = a

theorem get_append (t t' : List (String × Toml)) (key : String) : get (t ++ t') key = (get t key).or (get t' key) := by
  induction t with
  | nil => rfl
  | cons field t ih =>
    rw [cons_append, get_cons, get_cons]
    by_cases hkey : key = field.1
    · rw [if_pos hkey, if_pos hkey]
      rfl
    · rw [if_neg hkey, if_neg hkey, ih]

variable {α : Type}

theorem get_write_none (g : Fieldset α) (a : α) {key : String} (h : key ∉ g.names) : get (g.write a) key = none := by
  refine get_eq_none_iff.mpr fun hmem => ?_
  obtain ⟨field, hfield, rfl⟩ := mem_map.mp hmem
  exact h (g.keys_write a field hfield)

def nothing : Fieldset Unit where
  names := []
  write _ := []
  read _ := some ()
  kept a := a
  fits _ := True
  keys_write _ _ h := absurd h List.not_mem_nil
  nodup_write _ := List.nodup_nil
  read_congr _ _ _ := rfl
  read_write _ _ := rfl
  fits_of_read _ _ _ _ := trivial
  fits_write _ _ _ h := absurd h List.not_mem_nil

instance : Exact nothing := ⟨fun _ => rfl⟩

/-- Two groups of different keys side by side. -/
def and {α β : Type} (f : Fieldset α) (g : Fieldset β)
    (h : ∀ name ∈ f.names, name ∉ g.names := by decide) : Fieldset (α × β) where
  names := f.names ++ g.names
  write a := f.write a.1 ++ g.write a.2
  read t := (f.read t).bind fun a => (g.read t).map fun b => (a, b)
  kept a := (f.kept a.1, g.kept a.2)
  fits a := f.fits a.1 ∧ g.fits a.2
  keys_write a field hfield := by
    rcases List.mem_append.mp hfield with hfield | hfield
    · exact List.mem_append_left _ (f.keys_write a.1 field hfield)
    · exact List.mem_append_right _ (g.keys_write a.2 field hfield)
  nodup_write a := by
    rw [List.map_append]
    refine (f.nodup_write a.1).append (g.nodup_write a.2) fun key hf hg => ?_
    obtain ⟨field, hfield, rfl⟩ := List.mem_map.mp hf
    obtain ⟨field', hfield', hkey⟩ := List.mem_map.mp hg
    exact h _ (f.keys_write a.1 field hfield) (hkey ▸ g.keys_write a.2 field' hfield')
  read_congr t t' heq := by
    rw [f.read_congr t t' fun name hname => heq name (List.mem_append_left _ hname),
      g.read_congr t t' fun name hname => heq name (List.mem_append_right _ hname)]
  read_write a hfits := by
    have hf : f.read (f.write a.1 ++ g.write a.2) = f.read (f.write a.1) :=
      f.read_congr _ _ fun name hname => by
        rw [get_append, g.get_write_none a.2 (h name hname), Option.or_none]
    have hg : g.read (f.write a.1 ++ g.write a.2) = g.read (g.write a.2) :=
      g.read_congr _ _ fun name hname => by
        rw [get_append, f.get_write_none a.1 fun hmem => h name hmem hname, Option.none_or]
    rw [hf, hg, f.read_write a.1 hfits.1, g.read_write a.2 hfits.2]
    rfl
  fits_of_read t a ht hread := by
    obtain ⟨x, hx, hread⟩ := Option.bind_eq_some_iff.mp hread
    obtain ⟨y, hy, rfl⟩ := Option.map_eq_some_iff.mp hread
    exact ⟨f.fits_of_read t x ht hx, g.fits_of_read t y ht hy⟩
  fits_write a hfits field hfield := by
    rcases List.mem_append.mp hfield with hfield | hfield
    · exact f.fits_write a.1 hfits.1 field hfield
    · exact g.fits_write a.2 hfits.2 field hfield

instance {α β : Type} (f : Fieldset α) (g : Fieldset β) (h : ∀ name ∈ f.names, name ∉ g.names)
    [hf : Exact f] [hg : Exact g] : Exact (f.and g h) :=
  ⟨fun a => Prod.ext (hf.kept_eq a.1) (hg.kept_eq a.2)⟩

/-- The fields of a record, from those of the tuple of its fields. -/
def iso {α β : Type} (g : Fieldset α) (e : β ≃ α) : Fieldset β where
  names := g.names
  write b := g.write (e b)
  read t := (g.read t).map e.symm
  kept b := e.symm (g.kept (e b))
  fits b := g.fits (e b)
  keys_write b := g.keys_write (e b)
  nodup_write b := g.nodup_write (e b)
  read_congr t t' heq := by rw [g.read_congr t t' heq]
  read_write b hfits := by rw [g.read_write (e b) hfits, Option.map_some]
  fits_of_read t b ht hread := by
    obtain ⟨a, ha, rfl⟩ := Option.map_eq_some_iff.mp hread
    rw [e.apply_symm_apply]
    exact g.fits_of_read t a ht ha
  fits_write b := g.fits_write (e b)

instance {α β : Type} (g : Fieldset α) (e : β ≃ α) [hg : Exact g] : Exact (g.iso e) :=
  ⟨fun b => by
    show e.symm (g.kept (e b)) = b
    rw [hg.kept_eq, e.symm_apply_apply]⟩

/-- What a table has under a field's name and its aliases. -/
def present (names : List String) (t : List (String × Toml)) : List Toml := names.filterMap (OrdMap.get t)

variable {names : List String}

theorem present_congr {t t' : List (String × Toml)}
    (h : ∀ name ∈ names, get t name = get t' name) : present names t = present names t' :=
  filterMap_congr h

theorem fits_of_present {t : List (String × Toml)} {v : Toml}
    (ht : ∀ field ∈ t, field.2.Fits) (h : v ∈ present names t) : v.Fits := by
  obtain ⟨name, -, hname⟩ := mem_filterMap.mp h
  exact ht (name, v) (mem_of_get hname)

/-- A field that is left out where a predicate says so, and that has a default then. -/
def skipped {α : Type} (name : String) (default : α) (skip : α → Bool) (c : Codec α)
    (hdefault : c.fits default := by
      first
      | exact Codec.string_fits _ | exact Codec.bool_fits _ | exact Codec.count_fits (by decide)
      | exact Codec.signed_fits (by decide) | exact Codec.nil_fits _ | exact Codec.texts_fits) :
    Fieldset α where
  names := [name]
  write a := if skip a then [] else [(name, c.encode a)]
  read t := match OrdMap.get t name with
    | none => some default
    | some v => c.decode v
  kept a := if skip a then default else c.kept a
  fits := c.fits
  keys_write a field hfield := by
    split at hfield
    · cases hfield
    · simp_all
  nodup_write a := by split <;> simp
  read_congr t t' heq := by rw [heq name (by simp)]
  read_write a hfits := by
    by_cases hskip : skip a = true
    · simp [hskip]
    · simp [hskip, OrdMap.get_cons, c.decode_encode a hfits]
  fits_of_read t a ht hread := by
    split at hread
    · obtain rfl := Option.some.inj hread
      exact hdefault
    · rename_i v hv
      exact c.fits_of_decode v a (ht _ (OrdMap.mem_of_get hv)) hread
  fits_write a hfits field hfield := by
    split at hfield
    · cases hfield
    · obtain rfl := List.mem_singleton.mp hfield
      exact c.fits_encode a hfits

/-- A field that is left out only where it holds its default is read back. -/
theorem skipped_exact {name : String} {default : α} {skip : α → Bool} {c : Codec α}
    {hdefault : c.fits default} [hc : Codec.Exact c] (h : ∀ a, skip a = true → a = default) :
    Exact (skipped name default skip c hdefault) :=
  ⟨fun a => by
    show (if skip a then default else c.kept a) = a
    split
    · exact (h a ‹_›).symm
    · exact hc.kept_eq a⟩

/-- A field with a default that is always written. -/
def defaulted {α : Type} (name : String) (default : α) (c : Codec α)
    (hdefault : c.fits default := by
      first
      | exact Codec.string_fits _ | exact Codec.bool_fits _ | exact Codec.count_fits (by decide)
      | exact Codec.signed_fits (by decide) | exact Codec.nil_fits _ | exact Codec.texts_fits) :
    Fieldset α := skipped name default (fun _ => false) c hdefault

instance {α : Type} (name : String) (default : α) (c : Codec α) (hdefault : c.fits default)
    [hc : Codec.Exact c] : Exact (defaulted name default c hdefault) :=
  skipped_exact fun _ h => absurd h Bool.false_ne_true

/-- A field that must be there. -/
def required {α : Type} (name : String) (c : Codec α) : Fieldset α where
  names := [name]
  write a := [(name, c.encode a)]
  read t := (OrdMap.get t name).bind c.decode
  kept := c.kept
  fits := c.fits
  keys_write a field hfield := by simp_all
  nodup_write a := by simp
  read_congr t t' heq := by rw [heq name (by simp)]
  read_write a hfits := by simp [OrdMap.get_cons, c.decode_encode a hfits]
  fits_of_read t a ht hread := by
    obtain ⟨v, hv, hread⟩ := Option.bind_eq_some_iff.mp hread
    exact c.fits_of_decode v a (ht _ (OrdMap.mem_of_get hv)) hread
  fits_write a hfits field hfield := by
    obtain rfl := List.mem_singleton.mp hfield
    exact c.fits_encode a hfits

instance {α : Type} (name : String) (c : Codec α) [hc : Codec.Exact c] : Exact (required name c) := ⟨hc.kept_eq⟩

/-- A field that may be missing, under its name or one of its aliases. -/
def maybe {α : Type} (name : String) (aliases : List String) (c : Codec α)
    (h : name ∉ aliases := by decide) : Fieldset (Option α) where
  names := name :: aliases
  write
    | none => []
    | some a => [(name, c.encode a)]
  read t := match present (name :: aliases) t with
    | [] => some none
    | [v] => (c.decode v).map some
    | _ => none
  kept := Option.map c.kept
  fits a := ∀ b ∈ a, c.fits b
  keys_write a field hfield := by
    cases a with
    | none => cases hfield
    | some a => simp_all
  nodup_write a := by cases a <;> simp
  read_congr t t' heq := by rw [present_congr heq]
  read_write a hfits := by
    cases a with
    | none =>
      have hnothing : present (name :: aliases) [] = [] :=
        List.filterMap_eq_nil_iff.mpr fun _ _ => rfl
      simp [hnothing]
    | some a =>
      have hrest : present aliases [(name, c.encode a)] = [] :=
        List.filterMap_eq_nil_iff.mpr fun other hother => by
          have hne : other ≠ name := fun heq => h (heq ▸ hother)
          rw [OrdMap.get_cons, if_neg hne, OrdMap.get_nil]
      have hone : present (name :: aliases) [(name, c.encode a)] = [c.encode a] := by
        unfold present at hrest ⊢
        rw [List.filterMap_cons, OrdMap.get_cons, if_pos rfl, hrest]
      simp [hone, c.decode_encode a (hfits a rfl)]
  fits_of_read t a ht hread := by
    split at hread
    · obtain rfl := Option.some.inj hread
      simp
    · rename_i v hv
      obtain ⟨b, hb, rfl⟩ := Option.map_eq_some_iff.mp hread
      intro b' hb'
      obtain rfl := Option.some.inj hb'
      exact c.fits_of_decode v b (fits_of_present ht (hv ▸ List.mem_singleton_self v)) hb
    · cases hread
  fits_write a hfits field hfield := by
    cases a with
    | none => cases hfield
    | some a =>
      obtain rfl := List.mem_singleton.mp hfield
      exact c.fits_encode a (hfits a rfl)

instance {α : Type} (name : String) (aliases : List String) (c : Codec α) (h : name ∉ aliases)
    [hc : Codec.Exact c] : Exact (maybe name aliases c h) :=
  ⟨fun a => by
    cases a with
    | none => rfl
    | some a => exact congrArg some (hc.kept_eq a)⟩

/-- A field that says which variant the others belong to. -/
def tag (name value : String) : Fieldset Unit where
  names := [name]
  write _ := [(name, .string value)]
  read t := match OrdMap.get t name with
    | some (.string s) => if s = value then some () else none
    | _ => none
  kept a := a
  fits _ := True
  keys_write a field hfield := by simp_all
  nodup_write a := by simp
  read_congr t t' heq := by rw [heq name (by simp)]
  read_write a _ := by simp [OrdMap.get_cons]
  fits_of_read _ _ _ _ := trivial
  fits_write a _ field hfield := by
    obtain rfl := List.mem_singleton.mp hfield
    exact .string value

instance (name value : String) : Exact (tag name value) := ⟨fun _ => rfl⟩

end Fieldset

namespace Codec

/-- A record as a table; a strict one refuses keys that it does not know. -/
def record {α : Type} (g : Fieldset α) (strict : Bool) : Codec α where
  encode a := .table (Toml.sorted (g.write a))
  decode
    | .table t =>
      if strict && t.any (fun field => !g.names.contains field.1) then none else g.read t
    | _ => none
  kept := g.kept
  fits := g.fits
  decode_encode a hfits := by
    have hknown : (Toml.sorted (g.write a)).any (fun field => !g.names.contains field.1) = false := by
      refine List.any_eq_false.mpr fun field hfield => ?_
      simpa using g.keys_write a field ((Toml.sorted_perm _).mem_iff.mp hfield)
    have hread : g.read (Toml.sorted (g.write a)) = g.read (g.write a) :=
      g.read_congr _ _ fun name _ => Toml.get_sorted (g.nodup_write a) name
    simp only [hknown, Bool.and_false, Bool.false_eq_true, if_false]
    rw [hread, g.read_write a hfits]
  fits_of_decode v a hv hread := by
    cases v with
    | table t =>
      cases hv with
      | table hordered ht =>
        simp only at hread
        split at hread
        · cases hread
        · exact g.fits_of_read t a ht hread
    | _ => cases hread
  fits_encode a hfits :=
    .table (Toml.ordered_sorted (g.nodup_write a)) fun field hfield =>
      g.fits_write a hfits field ((Toml.sorted_perm _).mem_iff.mp hfield)

instance {α : Type} (g : Fieldset α) (strict : Bool) [hg : Fieldset.Exact g] :
    Exact (record g strict) :=
  ⟨hg.kept_eq⟩

end Codec

end Clawhip
