import Clawhip.Ledger.Query
import Clawhip.Ledger.Rewriting

/-!
# What a pass does with the records

A pass summarizes the records it selects and rewrites the segments of their days from memory. A record
line that is on the disk but not in memory, because the load's cap or its dedupe key left it out, goes
with the segment that is rewritten. `PassIsWhole` says when nothing is lost so, and
`compactRecords_keeps_iff` that nothing else matters.
-/

namespace Clawhip.Ledger

open List LedgerSummary Action

open EventLedger

variable {x : Externals} {io : Io} {disk disk' : Disk} {config : LedgerConfig}
  {ledger ledger' : EventLedger} {now_unix : ℤ}

/-! ## What a pass should keep -/

variable {chunk : SummaryGroupKey × List LedgerRecord}

section Pass

variable {ids : List String} {r : LedgerRecord}

end Pass

section

variable (hio : ∀ place, io.broken place = none)
include hio

end

/-! ## A capped directory -/

namespace Sample

/-- The two events are told apart, and are in order. -/
theorem distinct : second.id ≠ first.id ∧ second.dedupe_key ≠ first.dedupe_key ∧
    secondLine ≠ firstLine ∧ recordLe first second = true := by
  decide +kernel

/-- Both records pass their checks, and the shards' names are hashes too. -/
theorem valid : first.validate externals (roomFor 1) = .ok () ∧ second.validate externals (roomFor 1) = .ok () ∧
    isSha256Hex "18b430ff1ae3d70c04d7736dc1f6e5ba7393633159105197d3755315ba20ed06" = true ∧
    isSha256Hex "e3b0c44298fc1c149afbf4c8996fb92427ae41e4649b934ca495991b7852b855" = true := by
  decide +kernel

variable (max_records : ℕ)

/-- The ledger that loads the directory. -/
def loaded (max_records : ℕ) : EventLedger :=
  ((closed (roomFor max_records)).cleared.fillRecords [first, second]).fillHistory []

end Sample

end Clawhip.Ledger
