import Clawhip.Lib.OrdMap

/-!
# Directories and actions on them

A directory is a map of its files without repeated names. `Action` is a computation that reads and
changes a disk and may fail; `bind_ok` takes an action that came out well apart.
-/

namespace Clawhip

/-- A directory: its files by their names. -/
@[ext] structure Dir (α : Type*) where
  files : OrdMap String α
  /-- No name is there twice. -/
  nodup : files.keys.Nodup

namespace Dir

variable {α : Type*}

/-- An empty directory. -/
def empty : Dir α := ⟨[], List.nodup_nil⟩

/-- The contents of a file. -/
def get (d : Dir α) (name : String) : Option α := d.files.get name

/-- Create or replace a file. -/
def put (d : Dir α) (name : String) (contents : α) : Dir α :=
  ⟨d.files.insert name contents, OrdMap.nodup_insert d.nodup name contents⟩

/-- Remove a file. -/
def remove (d : Dir α) (name : String) : Dir α := ⟨d.files.erase name, OrdMap.nodup_erase d.nodup name⟩

/-- Rename a file over whatever has the new name. -/
def rename (d : Dir α) (name name' : String) : Dir α :=
  match d.get name with
  | some contents => (d.remove name).put name' contents
  | none => d

variable (d : Dir α) (name : String) (contents : α)

end Dir

/-! ## Actions -/

/-- A computation on a disk of type `δ` that may fail with an `ε`. -/
def Action (δ ε α : Type) := δ → Except ε α × δ

namespace Action

variable {δ ε α β : Type}

instance : Monad (Action δ ε) where
  pure a := fun disk => (.ok a, disk)
  bind first next := fun disk =>
    match first disk with
    | (.ok a, disk) => next a disk
    | (.error e, disk) => (.error e, disk)

/-- The action that fails at once. -/
def fail (e : ε) : Action δ ε α := fun disk => (.error e, disk)

variable {disk disk' : δ}

variable {next : α → Action δ ε β} {first : Action δ ε α}

end Action

end Clawhip
