import Mathlib.Data.Prod.Lex
import Mathlib.Data.String.Basic
import Clawhip.Lib.Machine

/-!
# Records of the source checkout

`load` and `persist` of `src/source_checkout.rs`: the state directory is a set of records, each with the path of a
checkout under a name that says its generation. What is a valid checkout is up to the file system and changes over
time. The calls hold the lock of the directory, so they follow one another; `persist` may stop after any step.
-/

namespace Clawhip.SourceCheckout

/-- `u64::MAX`. -/
def U64_MAX : ℕ := 2 ^ 64 - 1

def MAX_RECORDS : ℕ := 16

structure SourceCheckoutState where
  generation : ℕ
  repo_root : String

/-- The name of a record. Its generation is written with twenty digits and its identifier with thirty-two, so
names are ordered by the generation, and by the identifier after it. -/
structure RecordName where
  generation : ℕ
  uuid : String
deriving DecidableEq

namespace RecordName

/-- Names in their order. -/
def key (name : RecordName) : ℕ ×ₗ String := toLex (name.generation, name.uuid)

end RecordName

/-- A record with what its file holds, if that can be read and is well formed. -/
structure Record where
  name : RecordName
  contents : Option SourceCheckoutState

/-- The state directory: its records in the order of their names. -/
structure StateDir where
  records : List Record
  sorted : records.Pairwise fun a b => a.name.key < b.name.key
  /-- A name is read as a record's only if its generation fits. -/
  generations : ∀ record ∈ records, record.name.generation ≤ U64_MAX

/-- What is a valid checkout. -/
structure Checkouts where
  /-- `validate_checkout`: the canonical path of a valid checkout. -/
  validate : String → Option String
  /-- A canonical path is its own. -/
  canonical : ∀ path root, validate path = some root → validate root = some root

namespace StateDir

/-- An empty directory. -/
def empty : StateDir := ⟨[], List.Pairwise.nil, fun _ h => absurd h List.not_mem_nil⟩

/-- Remove the records of some names. -/
def unlink (dir : StateDir) (names : List RecordName) : StateDir where
  records := dir.records.filter fun record => !names.contains record.name
  sorted := dir.sorted.filter _
  generations record h := dir.generations record (List.mem_filter.mp h).1

/-- The records with one more, in their order. -/
def inserted (records : List Record) (record : Record) : List Record :=
  (records.filter fun other => decide (other.name.key < record.name.key)) ++
    record :: records.filter fun other => decide (record.name.key < other.name.key)

def publish (dir : StateDir) (record : Record) (h : record.name.generation ≤ U64_MAX) : StateDir where
  records := inserted dir.records record
  sorted := by
    refine List.pairwise_append.mpr
      ⟨dir.sorted.filter _, List.pairwise_cons.mpr ⟨?_, dir.sorted.filter _⟩, ?_⟩
    · intro later hlater
      exact of_decide_eq_true (List.mem_filter.mp hlater).2
    · intro earlier hearlier later hlater
      have hbefore : earlier.name.key < record.name.key := of_decide_eq_true (List.mem_filter.mp hearlier).2
      rcases List.mem_cons.mp hlater with rfl | hlater
      · exact hbefore
      · exact hbefore.trans (of_decide_eq_true (List.mem_filter.mp hlater).2)
  generations other hother := by
    rcases List.mem_append.mp hother with hearlier | hlater
    · exact dir.generations other (List.mem_filter.mp hearlier).1
    · rcases List.mem_cons.mp hlater with rfl | hlater
      · exact h
      · exact dir.generations other (List.mem_filter.mp hlater).1

end StateDir

section Calls

variable (checkouts : Checkouts)

def loadManagedRecord (record : Record) : Option String :=
  match record.contents with
  | none => none
  | some state =>
    if record.name.generation != state.generation then none else checkouts.validate state.repo_root

/-- The loop of `load` over the records; the outer option is the error. -/
def loadRecords : List Record → Option String → Option (Option String)
  | [], latest => some latest
  | record :: records, _ =>
    match loadManagedRecord checkouts record with
    | none => none
    | some root => loadRecords records (some root)

def load (dir : StateDir) : Option (Option String) := loadRecords checkouts dir.records none

/-- Where a call of `persist` stops before its end: in cleaning up invalid records or before it publishes, or in
its retention, after so many records were removed. -/
inductive Stop where
  | cleaning (removed : ℕ)
  | retaining (removed : ℕ)

/-- How far a call of `persist` came: it failed before it published, it failed later, or it returned `Ok`. -/
inductive Outcome where
  | unpublished
  | published
  | ok

/-- The records of the largest generation. -/
def exhaustedRecords (records : List Record) : List Record :=
  records.filter fun record => record.name.generation == U64_MAX

/-- `managed_record_is_valid`, of the other records. -/
def validRecords (records : List Record) : List Record :=
  records.filter fun record =>
    record.name.generation != U64_MAX && (loadManagedRecord checkouts record).isSome

/-- The records that are cleaned up at once. -/
def invalidRecords (records : List Record) : List Record :=
  records.filter fun record =>
    record.name.generation != U64_MAX && (loadManagedRecord checkouts record).isNone

/-- The largest generation of some records. -/
def maxGeneration (records : List Record) : ℕ := (records.map fun record => record.name.generation).foldr max 0

/-- The records that `cleanup_records` removes: all but the last ones. -/
def cleanup (records : List Record) (retain_old : ℕ) : List RecordName :=
  (records.take (records.length - retain_old)).map Record.name

/-- The records that are removed after the new one is published. -/
def retired (records : List Record) : List RecordName :=
  let exhausted := exhaustedRecords records
  if exhausted.isEmpty then cleanup (validRecords checkouts records) (MAX_RECORDS - 1)
  else cleanup (validRecords checkouts records) 0 ++ cleanup exhausted 0

/-- The generation of the new record. -/
def nextGeneration (records : List Record) : ℕ :=
  if (exhaustedRecords records).isEmpty then maxGeneration (validRecords checkouts records) + 1 else 1

/-- `persist` under the lock; `uuid` is the identifier of the new record. -/
def persist (dir : StateDir) (repo_root uuid : String) (stop : Option Stop) : Outcome × StateDir :=
  match checkouts.validate repo_root with
  | none => (.unpublished, dir)
  | some root =>
    let invalid := (invalidRecords checkouts dir.records).map Record.name
    match stop with
    | some (.cleaning removed) => (.unpublished, dir.unlink (invalid.take removed))
    | _ =>
      let cleaned := dir.unlink invalid
      let generation := nextGeneration checkouts dir.records
      let name : RecordName := ⟨generation, uuid⟩
      if h : generation ≤ U64_MAX ∧ name ∉ cleaned.records.map Record.name then
        let published := cleaned.publish ⟨name, some ⟨generation, root⟩⟩ h.1
        match stop with
        | some (.retaining removed) =>
          (.published, published.unlink ((retired checkouts dir.records).take removed))
        | _ => (.ok, published.unlink (retired checkouts dir.records))
      else (.unpublished, cleaned)

end Calls

/-! ## Runs -/

/-- What happens: a call of `persist`, or checkouts come and go. -/
inductive Input where
  | persist (repo_root uuid : String) (stop : Option Stop)
  | change (checkouts : Checkouts)

/-- The directory and the checkouts; `recorded` is the checkout of the last call of `persist` that returned `Ok`,
as long as no later one published and it was a valid checkout all the time. -/
structure State where
  checkouts : Checkouts
  dir : StateDir
  recorded : Option String

/-- What a call leaves of the last recorded checkout. -/
def recordedAfter (s : State) (repo_root : String) : Outcome → Option String
  | .unpublished => s.recorded
  | .published => none
  | .ok => s.checkouts.validate repo_root

/-- The system of the callers and the file system. -/
def system : Machine State Input Unit where
  step
    | s, .persist repo_root uuid stop =>
      let (outcome, dir) := persist s.checkouts s.dir repo_root uuid stop
      ({ s with dir, recorded := recordedAfter s repo_root outcome }, ())
    | s, .change checkouts =>
      ({ s with checkouts, recorded := s.recorded.filter fun root => checkouts.validate root == some root }, ())

end Clawhip.SourceCheckout
