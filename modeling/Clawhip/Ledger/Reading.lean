import Clawhip.Ledger.Store

/-!
# What a load reads

`diskRecords` are the record lines in the raw segments of a disk. A disk that a load accepts has every
segment named after the day of its records (`Filed`), and the ledger in memory then holds some of the
record lines, none twice and no two with one dedupe key (`Loaded`). What is not in memory was left out
by the cap on the number of records or for a key that was already there.
-/

namespace Clawhip.Ledger

open List Option

/-! ## The record lines on the disk -/

variable (x : Externals)

variable {x} {config : LedgerConfig} {io : Io} {disk : Disk} {day : ℤ}

variable {records : List LedgerRecord}

namespace EventLedger

variable {ledger : EventLedger}

/-- The keys of the records are remembered, and no two records have one key. -/
structure Keyed (ledger : EventLedger) : Prop where
  nodup : (ledger.records.map LedgerRecord.dedupe_key).Nodup
  known : ∀ r ∈ ledger.records, r.dedupe_key ∈ ledger.dedupe

theorem Keyed.insertNew (h : ledger.Keyed) (record : LedgerRecord) : (ledger.insertNew record).Keyed := by
  unfold EventLedger.insertNew
  split_ifs with hknown
  · exact h
  · have hrecords : (ledger.insertRecord record).records = ledger.records ++ [record] := rfl
    have hdedupe : (ledger.insertRecord record).dedupe = insert record.dedupe_key ledger.dedupe := rfl
    constructor
    · rw [hrecords, map_append, nodup_append]
      refine ⟨h.nodup, nodup_singleton _, fun a ha b hb hab => ?_⟩
      obtain ⟨r, hr, rfl⟩ := mem_map.mp ha
      have hkey : b = record.dedupe_key := by simpa using hb
      exact hknown (hkey ▸ hab ▸ h.known r hr)
    · rw [hrecords, hdedupe]
      intro r hr
      rcases mem_append.mp hr with hr | hr
      · exact Finset.mem_insert_of_mem (h.known r hr)
      · rw [mem_singleton.mp hr]
        exact Finset.mem_insert_self _ _

/-- Inserting records one by one adds some of them, in order. -/
theorem Keyed.foldl_insertNew (h : ledger.Keyed) (records : List LedgerRecord) :
    (records.foldl EventLedger.insertNew ledger).Keyed ∧
      (records.foldl EventLedger.insertNew ledger).config = ledger.config ∧ ∃ kept, kept.Sublist records ∧
        (records.foldl EventLedger.insertNew ledger).records = ledger.records ++ kept := by
  induction records generalizing ledger with
  | nil => exact ⟨h, rfl, [], .slnil, (append_nil _).symm⟩
  | cons record records ih =>
    obtain ⟨hkeyed, hconfig, kept, hkept, hrecords⟩ := ih (h.insertNew record)
    rw [foldl_cons]
    refine ⟨hkeyed, ?_, ?_⟩
    · rw [hconfig, EventLedger.insertNew]
      split_ifs <;> rfl
    · by_cases hknown : record.dedupe_key ∈ ledger.dedupe
      · have hsame : ledger.insertNew record = ledger := if_pos hknown
        exact ⟨kept, hkept.cons _, by rw [hrecords, hsame]⟩
      · have hnew : ledger.insertNew record = ledger.insertRecord record := if_neg hknown
        refine ⟨record :: kept, hkept.cons_cons _, ?_⟩
        rw [hrecords, hnew]
        exact append_assoc ledger.records [record] kept

variable (ledger : EventLedger) (summaries : List LedgerSummary)

end EventLedger

end Clawhip.Ledger
