import Clawhip.Ledger.Summary
import Clawhip.Lib.Postings
import Clawhip.Lib.Directory

/-!
# The event ledger

`EventLedger` of `src/ledger.rs` over an explicit disk: a directory of raw segments, one for a day, and
one of summary shards. A segment is a text file, kept as its complete lines and what follows the last
line break. `Io` says how the calls of one operation go: which reads fail, and which writes fail and
what disk they leave behind.
-/

namespace Clawhip.Ledger

/-! ## The disk -/

/-- A raw segment: its complete lines, and what follows the last line break. -/
structure Segment where
  lines : List String
  rest : String

namespace Segment

/-- What reading the lines of the file gives. -/
def read (segment : Segment) : List String := segment.lines ++ if segment.rest.isEmpty then [] else [segment.rest]

/-- The lines that are not blank. -/
def written (segment : Segment) : List String := segment.read.filter fun line => !(Text.trim line).isEmpty

/-- Write a line and a line break at the end. -/
def append (segment : Segment) (line : String) : Segment := ⟨segment.lines ++ [segment.rest ++ line], ""⟩

end Segment

/-- The directories `raw` and `summaries`. -/
structure Disk where
  raw : Dir Segment
  summaries : Dir String

/-- What a call is about. -/
inductive Place where
  | rawDir
  | summaryDir
  | raw (name : String)
  | summary (name : String)

/-- How the calls of one operation go. -/
structure Io where
  /-- Reading here fails. -/
  unreadable : Place → Bool
  /-- Writing here fails and leaves this disk behind. -/
  broken : Place → Option Disk
  /-- When a summary's file was last written. -/
  modified : String → ℤ

abbrev DiskAction := Action Disk LedgerError

namespace Io

/-- A write that does `effect`, unless it fails. -/
def write (io : Io) (place : Place) (effect : Disk → Disk) : DiskAction Unit := fun disk =>
  match io.broken place with
  | some left => (.error .io, left)
  | none => (.ok ⟨⟩, effect disk)

end Io

/-- Change the raw segments. -/
def Disk.mapRaw (disk : Disk) (f : Dir Segment → Dir Segment) : Disk := { disk with raw := f disk.raw }

/-- Change the summaries. -/
def Disk.mapSummaries (disk : Disk) (f : Dir String → Dir String) : Disk := { disk with summaries := f disk.summaries }

/-! ## File names -/

/-- `segment_path`. -/
def segmentName (day : ℤ) : String := "events-" ++ toString day ++ ".jsonl"

/-- The temporary file of a segment. -/
def segmentTemp (day : ℤ) : String := "events-" ++ toString day ++ ".tmp"

def rawSegmentDay (file_name : String) : Except LedgerError ℤ :=
  match ((Text.afterStart file_name "events-").bind fun value =>
      Text.beforeEnd value ".jsonl").bind Text.parseI64 with
  | none => .error (.message "invalid_ledger_raw_segment_name")
  | some day =>
    if file_name != segmentName day then .error (.message "invalid_ledger_raw_segment_name")
    else .ok day

/-- `Path::extension` of a file's name is `extension`. -/
def hasExtension (name extension : String) : Bool := Text.endsWith name ("." ++ extension) && name != "." ++ extension

/-- The names of a directory that have an extension, in order. -/
def namesWithExtension {α : Type} (dir : Dir α) (extension : String) : List String :=
  (dir.files.keys.filter fun name => hasExtension name extension).mergeSort
    fun a b => decide (a ≤ b)

/-! ## Reading the disk -/

section Read

variable (x : Externals) (config : LedgerConfig) (io : Io) (disk : Disk)

/-- `jsonl_files` of the raw directory. -/
def jsonlFiles : Except LedgerError (List String) :=
  if io.unreadable .rawDir then .error .io else .ok (namesWithExtension disk.raw "jsonl")

/-- `json_files` of the summary directory. -/
def jsonFiles : Except LedgerError (List String) :=
  if io.unreadable .summaryDir then .error .io else .ok (namesWithExtension disk.summaries "json")

/-- The lines of a segment that are not blank. -/
def segmentLines (name : String) : List String := (disk.raw.get name).elim [] Segment.written

def readLine (segment_day : ℤ) (line : String) : Except LedgerError LedgerRecord :=
  match x.decodeRecord line with
  | none => .error .json
  | some record => do
    record.validate x config
    if record.day != segment_day then .error (.message "ledger_record_segment_day_mismatch")
    else .ok record

def readSegment (name : String) : Except LedgerError (List LedgerRecord) := do
  let segment_day ← rawSegmentDay name
  if io.unreadable (.raw name) then .error .io
  else (segmentLines disk name).mapM (readLine x config segment_day)

/-- The raw records on the disk, in the order in which they are read. -/
def readRecords : Except LedgerError (List LedgerRecord) := do
  let names ← jsonlFiles io disk
  let segments ← names.mapM (readSegment x config io disk)
  return segments.flatten

def readSummary (name : String) : Except LedgerError LedgerSummary :=
  if io.unreadable (.summary name) then .error .io
  else match (disk.summaries.get name).bind x.decodeSummary with
    | none => .error .json
    | some summary => do
      summary.validate x config
      return summary

/-- The summaries on the disk. -/
def readSummaries : Except LedgerError (List LedgerSummary) := do
  let names ← jsonFiles io disk
  names.mapM (readSummary x config io disk)

end Read

/-! ## The state -/

structure Indexes where
  repo : Postings String
  worktree : Postings String
  session : Postings String
  event_type : Postings String
  keyword : Postings String

/-- `Indexes::default`. -/
def Indexes.empty : Indexes := ⟨[], [], [], [], []⟩

/-- What the ledger counts of itself. -/
structure LedgerStatus where
  appended : ℕ
  duplicates : ℕ
  rejected : ℕ
  append_failures : ℕ
  query_count : ℕ
  compacted_records : ℕ
  degraded : Option String

/-- `EventLedger`, without the directory's path. -/
structure EventLedger where
  config : LedgerConfig
  records : List LedgerRecord
  dedupe : Finset String
  indexes : Indexes
  status : LedgerStatus
  last_compaction_unix : ℤ

structure LedgerQuery where
  repo : Option String
  worktree : Option String
  session_id : Option String
  event_type : Option String
  since_unix : Option ℤ
  until_unix : Option ℤ
  keywords : List String
  limit : Option ℕ

/-- What an append comes to. -/
inductive AppendOutcome where
  | appended
  | duplicate

/-- The order of loaded records: by time, then by identifier. -/
def recordLe (a b : LedgerRecord) : Bool :=
  decide (a.timestamp_unix < b.timestamp_unix) ||
    (a.timestamp_unix == b.timestamp_unix && decide (a.id ≤ b.id))

/-- Add keys to the known ones while there is room, and say whether room was missing. -/
def rememberKeys (max_records : ℕ) : List String → Finset String → Finset String × Bool
  | [], dedupe => (dedupe, false)
  | key :: keys, dedupe =>
    if max_records ≤ dedupe.card then (dedupe, true)
    else rememberKeys max_records keys (insert key dedupe)

namespace EventLedger

def insertIndexed (ledger : EventLedger) (record : LedgerRecord) : EventLedger :=
  let index := ledger.records.length
  { ledger with
    records := ledger.records ++ [record]
    indexes :=
      { repo := ledger.indexes.repo.postAll record.repo.toList index
        worktree := ledger.indexes.worktree.postAll record.worktree.toList index
        session := ledger.indexes.session.postAll record.session_id.toList index
        event_type := ledger.indexes.event_type.postAll [record.event_type] index
        keyword := ledger.indexes.keyword.postAll record.keywords index } }

/-- Remember a record's key. -/
def rememberKey (ledger : EventLedger) (key : String) : EventLedger :=
  { ledger with dedupe := insert key ledger.dedupe }

/-- `insert`. -/
def insertRecord (ledger : EventLedger) (record : LedgerRecord) : EventLedger :=
  (ledger.rememberKey record.dedupe_key).insertIndexed record

/-- Forget the records, their keys and the indexes. -/
def cleared (ledger : EventLedger) : EventLedger :=
  { ledger with
    records := []
    dedupe := ∅
    indexes := Indexes.empty }

/-- Say that something is missing. -/
def degrade (ledger : EventLedger) (reason : String) : EventLedger :=
  { ledger with status := { ledger.status with degraded := some reason } }

/-- Insert a loaded record, unless its key is known. -/
def insertNew (ledger : EventLedger) (record : LedgerRecord) : EventLedger :=
  if record.dedupe_key ∈ ledger.dedupe then ledger else ledger.insertRecord record

/-- Take over loaded records: the last `max_records` of them in order of time, each key once. -/
def fillRecords (ledger : EventLedger) (loaded : List LedgerRecord) : EventLedger :=
  let sorted := loaded.mergeSort recordLe
  let ledger := if ledger.config.max_records < loaded.length then
      ledger.degrade "startup_record_cap_applied" else ledger
  (sorted.drop (sorted.length - ledger.config.max_records)).foldl insertNew ledger

/-- Take over the keys of summaries, the latest first. -/
def fillHistory (ledger : EventLedger) (summaries : List LedgerSummary) : EventLedger :=
  let sorted := summaries.mergeSort fun a b =>
    decide (b.last_timestamp_unix ≤ a.last_timestamp_unix)
  let (dedupe, capped) := rememberKeys ledger.config.max_records
    (sorted.flatMap LedgerSummary.source_dedupe_keys) ledger.dedupe
  let ledger := { ledger with dedupe := dedupe }
  if capped then ledger.degrade "dedupe_history_cap_applied" else ledger

variable (x : Externals)

def load (io : Io) (disk : Disk) (ledger : EventLedger) : Except LedgerError Unit × EventLedger :=
  match readRecords x ledger.config io disk with
  | .error e => (.error e, ledger.cleared)
  | .ok loaded =>
    let filled := ledger.cleared.fillRecords loaded
    match readSummaries x ledger.config io disk with
    | .error e => (.error e, filled)
    | .ok summaries => (.ok ⟨⟩, filled.fillHistory summaries)

/-- The ledger before anything is loaded. -/
def closed (config : LedgerConfig) : EventLedger where
  config := config
  records := []
  dedupe := ∅
  indexes := Indexes.empty
  status := ⟨0, 0, 0, 0, 0, 0, none⟩
  last_compaction_unix := 0

/-- `EventLedger::open`. -/
def openLedger (io : Io) (disk : Disk) (config : LedgerConfig) : Except LedgerError EventLedger :=
  if !config.enabled then .ok (closed config)
  else if (io.broken .rawDir).isSome || (io.broken .summaryDir).isSome then .error .io
  else match (closed config).load x io disk with
    | (.ok _, ledger) => .ok ledger
    | (.error e, _) => .error e

/-! ## Appending -/

/-- A refused record is counted. -/
def reject (ledger : EventLedger) : EventLedger :=
  { ledger with status := { ledger.status with rejected := ledger.status.rejected + 1 } }

def append (io : Io) (event : IncomingEvent) (now : OffsetDateTime) (ledger : EventLedger)
    (disk : Disk) : Except LedgerError AppendOutcome × EventLedger × Disk :=
  if !ledger.config.enabled then (.ok .appended, ledger, disk)
  else match LedgerRecord.fromEvent x ledger.config event now with
    | .error e => (.error e, ledger.reject, disk)
    | .ok record =>
      if record.dedupe_key ∈ ledger.dedupe then
        (.ok .duplicate,
          { ledger with status := { ledger.status with duplicates := ledger.status.duplicates + 1 } }, disk)
      else if ledger.config.max_records ≤ ledger.records.length then
        (.error (.message "ledger_max_records_exceeded"), ledger.reject, disk)
      else if ledger.config.max_record_bytes < (x.encodeRecord record).utf8ByteSize then
        (.error (.message "ledger_record_too_large"), ledger.reject, disk)
      else
        let name := segmentName record.day
        let appendLine : Disk → Disk := fun disk => disk.mapRaw fun raw =>
          raw.put name (((raw.get name).getD ⟨[], ""⟩).append (x.encodeRecord record))
        match io.write (.raw name) appendLine disk with
        | (.error e, disk) =>
          (.error e, { ledger.degrade "append_failed" with
            status.append_failures := ledger.status.append_failures + 1 }, disk)
        | (.ok _, disk) =>
          (.ok .appended, { ledger.insertRecord record with
            status.appended := ledger.status.appended + 1 }, disk)

/-! ## Querying -/

def query (ledger : EventLedger) (query : LedgerQuery) : List LedgerRecord × EventLedger :=
  let lookups :=
    query.repo.toList.map ledger.indexes.repo.positions ++
    query.worktree.toList.map ledger.indexes.worktree.positions ++
    query.session_id.toList.map ledger.indexes.session.positions ++
    query.event_type.toList.map ledger.indexes.event_type.positions ++
    query.keywords.map fun keyword => ledger.indexes.keyword.positions (normalizeKeyword keyword)
  let candidate := lookups.foldl intersect none
  let limit := min (query.limit.getD ledger.config.max_query_results) ledger.config.max_query_results
  let found := (pick ledger.records (candidate.getD (Finset.range ledger.records.length))
    |>.filter fun record => query.since_unix.all fun since => decide (since ≤ record.timestamp_unix))
    |>.filter fun record => query.until_unix.all fun last => decide (record.timestamp_unix ≤ last)
  (found.take limit, { ledger with status := { ledger.status with query_count := ledger.status.query_count + 1 } })

/-! ## Compacting -/

/-- A pass is due. -/
def due (ledger : EventLedger) (now_unix : ℤ) : Bool :=
  ledger.config.enabled &&
    !decide (now_unix - ledger.last_compaction_unix < ledger.config.compaction_interval_secs)

/-- The records that a pass summarizes: the first ones that are old enough, up to a number. -/
def selected (ledger : EventLedger) (now_unix : ℤ) : List LedgerRecord :=
  let raw_cutoff := now_unix - ledger.config.raw_retention_days * 86400
  (ledger.records.filter fun record => decide (record.timestamp_unix < raw_cutoff)).take
    ledger.config.max_records_per_compaction

/-- The shards of a pass: those of each group in turn, of at most 64 records each. -/
def shards (ledger : EventLedger) (now_unix : ℤ) : List LedgerSummary :=
  (groupBy SummaryGroupKey.le LedgerRecord.groupKey (ledger.selected now_unix)).flatMap
    fun (key, records) => (chunksOf 64 records).map fun chunk =>
      LedgerSummary.fromRecords x key chunk ledger.config.max_keywords

/-- Write a shard under a temporary name and rename it. -/
def writeShard (io : Io) (summary : LedgerSummary) : DiskAction Unit := do
  let temp := summary.shard_id ++ ".tmp"
  let name := summary.shard_id ++ ".json"
  io.write (.summary temp) fun disk => disk.mapSummaries fun dir =>
    dir.put temp (x.encodeSummary summary ++ "\n")
  io.write (.summary name) fun disk => disk.mapSummaries fun dir => dir.rename temp name

/-- Rewrite the segment of a day from the records that are left of it, or remove it. -/
def rewriteSegment (io : Io) (day : ℤ) (remaining : List LedgerRecord) : DiskAction Unit :=
  if remaining.isEmpty then
    io.write (.raw (segmentName day)) fun disk => disk.mapRaw fun dir => dir.remove (segmentName day)
  else do
    io.write (.raw (segmentTemp day)) fun disk => disk.mapRaw fun dir =>
      dir.put (segmentTemp day) ⟨remaining.map x.encodeRecord, ""⟩
    io.write (.raw (segmentName day)) fun disk => disk.mapRaw fun dir =>
      dir.rename (segmentTemp day) (segmentName day)

/-- Rewrite the segment of a day if a record of the day is among the selected ones. -/
def rewriteDay (io : Io) (selected_ids : List String) (day : ℤ) (records : List LedgerRecord) :
    DiskAction Unit :=
  if records.any fun record => selected_ids.contains record.id then
    rewriteSegment x io day (records.filter fun record => !selected_ids.contains record.id)
  else pure ()

def removeCompactedRecords (io : Io) (ledger : EventLedger) (selected_ids : List String) :
    DiskAction Unit :=
  (groupBy (fun a b => decide (a ≤ b)) LedgerRecord.day ledger.records).forM fun group =>
    rewriteDay x io selected_ids group.1 group.2

/-- What a pass does before it prunes summaries: it writes the shards and then takes the records out of
the segments. -/
def compactRecords (io : Io) (now_unix : ℤ) (ledger : EventLedger) (disk : Disk) :
    Except LedgerError ℕ × EventLedger × Disk :=
  let ledger := { ledger with last_compaction_unix := now_unix }
  let selected := ledger.selected now_unix
  match (ledger.shards x now_unix).forM (writeShard x io) disk with
  | (.error e, disk) => (.error e, ledger, disk)
  | (.ok _, disk) =>
    if selected.isEmpty then (.ok 0, ledger, disk)
    else
      let ledger := { ledger with
        status.compacted_records := ledger.status.compacted_records + selected.length }
      match removeCompactedRecords x io ledger (selected.map LedgerRecord.id) disk with
      | (.error e, disk) => (.error e, ledger, disk)
      | (.ok _, disk) => (.ok selected.length, ledger, disk)

/-- Remove the summaries that were last written before `cutoff`, and count them. -/
def pruneNames (io : Io) (cutoff : ℤ) : List String → DiskAction ℕ
  | [] => pure 0
  | name :: names => do
    let pruned ←
      if io.unreadable (.summary name) then Action.fail .io
      else if io.modified name < cutoff then do
        io.write (.summary name) fun disk => disk.mapSummaries fun dir => dir.remove name
        pure 1
      else pure 0
    let rest ← pruneNames io cutoff names
    return pruned + rest

def pruneSummaryBefore (io : Io) (cutoff : ℤ) : DiskAction ℕ := fun disk =>
  if io.unreadable .summaryDir then (.error .io, disk)
  else pruneNames io cutoff disk.summaries.files.keys disk

def compactIfDue (io : Io) (now_unix : ℤ) (ledger : EventLedger) (disk : Disk) :
    Except LedgerError ℕ × EventLedger × Disk :=
  if !ledger.due now_unix then (.ok 0, ledger, disk)
  else match ledger.compactRecords x io now_unix disk with
    | (.error e, ledger, disk) => (.error e, ledger, disk)
    | (.ok compacted, ledger, disk) =>
      match pruneSummaryBefore io (now_unix - ledger.config.summary_retention_days * 86400) disk with
      | (.error e, disk) => (.error e, ledger, disk)
      | (.ok pruned, disk) =>
        if compacted == 0 && pruned == 0 then (.ok compacted, ledger, disk)
        else match ledger.load x io disk with
          | (.error e, ledger) => (.error e, ledger, disk)
          | (.ok _, ledger) => (.ok compacted, ledger, disk)

end EventLedger

end Clawhip.Ledger
