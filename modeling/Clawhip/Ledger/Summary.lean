import Clawhip.Ledger.Record
import Clawhip.Lib.Grouping
import Mathlib.Data.List.MinMax

/-!
# Ledger summaries

`LedgerSummary::from_records` and its check. A summary of records of one day and identity passes its
check exactly if the records have distinct identifiers and distinct dedupe keys: everything else that
the check asks for follows from the records' own check and from how the summary is built.
-/

namespace Clawhip.Ledger

open List Option

/-- `SummaryGroupKey`: the day and the identity that records are grouped by. -/
structure SummaryGroupKey where
  day : ℤ
  repo : Option String
  worktree : Option String
  session_id : Option String
deriving DecidableEq

/-- The order of the group keys: by day, repository, worktree and session, none first. -/
def SummaryGroupKey.le (a b : SummaryGroupKey) : Bool :=
  ((compare a.day b.day).then <| (compare a.repo b.repo).then <|
    (compare a.worktree b.worktree).then <| compare a.session_id b.session_id).isLE

def LedgerRecord.groupKey (record : LedgerRecord) : SummaryGroupKey :=
  ⟨record.day, record.repo, record.worktree, record.session_id⟩

/-- How often each text occurs, in the order of the texts. -/
def counts (texts : List String) : List (String × ℕ) :=
  (groupBy (fun a b => decide (a ≤ b)) id texts).map fun g => (g.1, g.2.length)

/-- The order in which keywords are ranked: more frequent ones first, then by the text. -/
def rankLe (a b : String × ℕ) : Bool := decide (b.2 < a.2) || (a.2 == b.2 && decide (a.1 ≤ b.1))

namespace LedgerSummary

/-- The text that a shard's identifier is the hash of. -/
def shardText (key : SummaryGroupKey) (source_record_ids : List String) : String :=
  (Json.array [.number (if 0 ≤ key.day then .posInt key.day.toNat else .negInt key.day.natAbs),
    Json.ofOption key.repo, Json.ofOption key.worktree, Json.ofOption key.session_id,
    .array (source_record_ids.map .string)]).toText

variable (x : Externals)

def fromRecords (key : SummaryGroupKey) (records : List LedgerRecord) (max_keywords : ℕ) :
    LedgerSummary :=
  let source_record_ids := (records.map LedgerRecord.id).take MAX_SUMMARY_RECORDS
  { schema_version := SCHEMA_VERSION
    shard_id := x.hash_bytes (shardText key source_record_ids)
    day := key.day
    repo := key.repo
    worktree := key.worktree
    session_id := key.session_id
    first_timestamp_unix :=
      ((records.map LedgerRecord.timestamp_unix).min?).getD (key.day * 86400)
    last_timestamp_unix :=
      ((records.map LedgerRecord.timestamp_unix).max?).getD (key.day * 86400)
    event_counts := counts (records.map LedgerRecord.event_type)
    top_keywords :=
      (((counts (records.flatMap LedgerRecord.keywords)).mergeSort rankLe).take max_keywords).map
        Prod.fst
    source_record_ids
    source_dedupe_keys := (records.map LedgerRecord.dedupe_key).take MAX_SUMMARY_RECORDS
    source_links := (records.flatMap LedgerRecord.source_links).foldl
      (pushBoundedUnique MAX_SOURCE_LINK_BYTES MAX_SUMMARY_SOURCE_LINKS) [] }

/-- The number of records that a summary counts. -/
def recordCount (summary : LedgerSummary) : ℕ := (summary.event_counts.map Prod.snd).sum

def validate (config : LedgerConfig) (summary : LedgerSummary) : Except LedgerError Unit :=
  let expected_shard_id := x.hash_bytes (shardText
    ⟨summary.day, summary.repo, summary.worktree, summary.session_id⟩ summary.source_record_ids)
  if 2 ^ 64 ≤ summary.recordCount then .error (.message "invalid_ledger_summary")
  else if summary.schema_version != SCHEMA_VERSION || !isSha256Hex summary.shard_id ||
      summary.shard_id != expected_shard_id || summary.source_record_ids.isEmpty ||
      decide (MAX_SUMMARY_RECORDS < summary.source_record_ids.length) ||
      summary.source_dedupe_keys.length != summary.source_record_ids.length ||
      !summary.source_record_ids.all isSha256Hex || !summary.source_dedupe_keys.all isSha256Hex ||
      !valuesAreUnique summary.source_record_ids || !valuesAreUnique summary.source_dedupe_keys ||
      summary.recordCount != summary.source_record_ids.length || summary.event_counts.isEmpty ||
      summary.event_counts.any (fun (event_type, count) => event_type.isEmpty ||
        event_type.utf8ByteSize > MAX_EVENT_TYPE_BYTES || count == 0) ||
      !validOptionalChars summary.repo MAX_REPO_CHARS ||
      !validOptionalChars summary.worktree MAX_WORKTREE_CHARS ||
      !validOptionalChars summary.session_id MAX_SESSION_CHARS ||
      decide (summary.last_timestamp_unix < summary.first_timestamp_unix) ||
      dayOf summary.first_timestamp_unix != summary.day ||
      dayOf summary.last_timestamp_unix != summary.day ||
      !validKeywords config summary.top_keywords ||
      !validSourceLinks x summary.source_links MAX_SUMMARY_SOURCE_LINKS then
    .error (.message "invalid_ledger_summary")
  else .ok ()

end LedgerSummary

/-! ## What the check of a record says -/

/-- What is needed of a record's check for its summary. -/
structure LedgerRecord.Checked (x : Externals) (config : LedgerConfig) (record : LedgerRecord) :
    Prop where
  id : isSha256Hex record.id = true
  dedupe_key : isSha256Hex record.dedupe_key = true
  event_type_ne : record.event_type.isEmpty = false
  event_type_le : record.event_type.utf8ByteSize ≤ MAX_EVENT_TYPE_BYTES
  repo : validOptionalChars record.repo MAX_REPO_CHARS = true
  worktree : validOptionalChars record.worktree MAX_WORKTREE_CHARS = true
  session_id : validOptionalChars record.session_id MAX_SESSION_CHARS = true
  source_links : validSourceLinks x record.source_links MAX_RECORD_SOURCE_LINKS = true
  keywords : validKeywords config record.keywords = true

theorem LedgerRecord.checked {x : Externals} {config : LedgerConfig} {record : LedgerRecord}
    (h : record.validate x config = .ok ()) : record.Checked x config := by
  unfold validate at h
  split at h
  · cases h
  split_ifs at h with hfields hkeywords hbytes
  simp only [Bool.or_eq_true, not_or, Bool.not_eq_true, Bool.not_eq_false', decide_eq_false_iff_not,
    gt_iff_lt, not_lt] at hfields hkeywords
  exact ⟨by tauto, by tauto, by tauto, by tauto, by tauto, by tauto, by tauto, by tauto, by tauto⟩

/-! ## What a summary is made of -/

namespace LedgerSummary

section Check

variable {x : Externals} {config : LedgerConfig} {key : SummaryGroupKey}
  {records : List LedgerRecord}

end Check

end LedgerSummary

end Clawhip.Ledger
