import Clawhip.Ledger.Reading
import Clawhip.Lib.Machine

/-!
# Queries are scans

The five inverted indexes of the ledger keep the positions of its records, whatever the calls on the
disk come to: a load that fails leaves an empty ledger or one whose records and indexes were built
together, and a pass changes neither before it loads. So in every state that a run reaches a query
finds what a scan of the records finds.
-/

namespace Clawhip.Ledger

open Dir List

/-! ## What a query is for -/

def LedgerQuery.asksFor (query : LedgerQuery) (record : LedgerRecord) : Bool :=
  query.repo.all (fun value => record.repo == some value) &&
    query.worktree.all (fun value => record.worktree == some value) &&
    query.session_id.all (fun value => record.session_id == some value) &&
    query.event_type.all (fun value => record.event_type == value) &&
    query.keywords.all (fun keyword => record.keywords.contains (normalizeKeyword keyword)) &&
    query.since_unix.all (fun since => decide (since ≤ record.timestamp_unix)) &&
    query.until_unix.all fun last => decide (record.timestamp_unix ≤ last)

/-- A scan of the records: those that the query asks for, in order, up to the limit. -/
def EventLedger.scan (ledger : EventLedger) (query : LedgerQuery) : List LedgerRecord :=
  (ledger.records.filter query.asksFor).take
    (min (query.limit.getD ledger.config.max_query_results) ledger.config.max_query_results)

/-! ## The indexes keep the positions -/

/-- The indexes are those of the records. -/
structure Indexes.Over (indexes : Indexes) (records : List LedgerRecord) : Prop where
  repo : indexes.repo.Indexes (fun record => record.repo.toList) records
  worktree : indexes.worktree.Indexes (fun record => record.worktree.toList) records
  session : indexes.session.Indexes (fun record => record.session_id.toList) records
  event_type : indexes.event_type.Indexes (fun record => [record.event_type]) records
  keyword : indexes.keyword.Indexes LedgerRecord.keywords records

namespace EventLedger

/-- The invariant: the indexes are those of the records. -/
def Indexed (ledger : EventLedger) : Prop := ledger.indexes.Over ledger.records

variable {ledger : EventLedger} (x : Externals)

/-! ## A query reads the positions -/

theorem all_toList {α : Type} (o : Option α) (p : α → Bool) : o.toList.all p = o.all p := by
  cases o <;> simp

/-- Where the indexes are those of the records, a query is a scan. -/
theorem Indexed.query_scans (h : ledger.Indexed) (query : LedgerQuery) :
    (ledger.query query).1 = ledger.scan query := by
  -- Each lookup finds the positions of the records of a kind.
  set kinds : List (LedgerRecord → Bool) :=
    (query.repo.toList.map fun value record => decide (value ∈ record.repo.toList)) ++
    (query.worktree.toList.map fun value record => decide (value ∈ record.worktree.toList)) ++
    (query.session_id.toList.map fun value record => decide (value ∈ record.session_id.toList)) ++
    (query.event_type.toList.map fun value record => decide (value ∈ [record.event_type])) ++
    query.keywords.map fun keyword record => decide (normalizeKeyword keyword ∈ record.keywords)
    with hkinds
  have hlookups : query.repo.toList.map ledger.indexes.repo.positions ++
      query.worktree.toList.map ledger.indexes.worktree.positions ++
      query.session_id.toList.map ledger.indexes.session.positions ++
      query.event_type.toList.map ledger.indexes.event_type.positions ++ (query.keywords.map fun keyword =>
        ledger.indexes.keyword.positions (normalizeKeyword keyword)) =
      kinds.map fun kind => positionsOf kind ledger.records := by
    simp only [hkinds, map_append, map_map, Function.comp_def, ← h.repo _, ← h.worktree _,
      ← h.session _, ← h.event_type _, ← h.keyword _]
  -- A record of every kind, within the bounds, is what the query asks for.
  have hasks : ∀ record, ((query.until_unix.all fun last => decide (record.timestamp_unix ≤ last)) &&
      (query.since_unix.all fun since => decide (since ≤ record.timestamp_unix)) &&
        kinds.all fun kind => kind record) = query.asksFor record := by
    intro record
    have hfield (value : String) (field : Option String) : decide (value ∈ field.toList) = (field == some value) := by
      rw [Bool.eq_iff_iff, decide_eq_true_eq, beq_iff_eq, Option.mem_toList]
    have htype (value : String) : decide (value ∈ [record.event_type]) = (record.event_type == value) := by
      rw [Bool.eq_iff_iff, decide_eq_true_eq, beq_iff_eq, mem_singleton, eq_comm]
    have hkeyword (keyword : String) : decide (keyword ∈ record.keywords) =
        record.keywords.contains keyword := (contains_eq_mem keyword record.keywords).symm
    simp only [hkinds, LedgerQuery.asksFor, all_append, all_map, Function.comp_def, hfield, htype, hkeyword, all_toList]
    ac_rfl
  unfold EventLedger.query scan
  dsimp only
  rw [hlookups, getD_foldl_intersect, pick_positionsOf, filter_filter, filter_filter]
  rw [filter_congr fun record _ => hasks record]

/-! ## Runs -/

/-- A call on the ledger, with how its calls on the disk go. -/
inductive Call where
  | append (io : Io) (event : IncomingEvent) (now : OffsetDateTime)
  | compact (io : Io) (now_unix : ℤ)
  | query (query : LedgerQuery)

/-- What a call comes to. -/
inductive Answer where
  | appended (result : Except LedgerError AppendOutcome)
  | compacted (result : Except LedgerError ℕ)
  | found (records : List LedgerRecord)

def machine : Machine (EventLedger × Disk) Call Answer where
  step := fun (ledger, disk) call =>
    match call with
    | .append io event now =>
      let (result, ledger, disk) := ledger.append x io event now disk
      ((ledger, disk), .appended result)
    | .compact io now_unix =>
      let (result, ledger, disk) := ledger.compactIfDue x io now_unix disk
      ((ledger, disk), .compacted result)
    | .query query =>
      let (records, ledger) := ledger.query query
      ((ledger, disk), .found records)

theorem subset_rememberKeys (max_records : ℕ) (keys : List String) (dedupe : Finset String) :
    dedupe ⊆ (rememberKeys max_records keys dedupe).1 := by
  induction keys generalizing dedupe with
  | nil => exact Finset.Subset.refl _
  | cons key keys ih =>
    unfold rememberKeys
    split_ifs
    · exact Finset.Subset.refl _
    · exact (Finset.subset_insert key dedupe).trans (ih _)

/-- What the contents of a ledger decide, and what a new record keeps while there is room. -/
structure Invariant (P : EventLedger → Prop) : Prop where
  same : ∀ {ledger ledger' : EventLedger}, P ledger → ledger'.config = ledger.config →
    ledger'.records = ledger.records → ledger.dedupe ⊆ ledger'.dedupe → ledger'.indexes = ledger.indexes → P ledger'
  cleared : ∀ {ledger : EventLedger}, P ledger → P ledger.cleared
  insert : ∀ {ledger : EventLedger} (record : LedgerRecord), P ledger → record.dedupe_key ∉ ledger.dedupe →
    ledger.records.length < ledger.config.max_records → P (ledger.insertRecord record)

namespace Invariant

variable {P : EventLedger → Prop} (hP : Invariant P)
include hP

theorem status (h : P ledger) (status : LedgerStatus) : P { ledger with status } :=
  hP.same h rfl rfl (Finset.Subset.refl _) rfl

/-- A record that is skipped for its key changes nothing. -/
theorem foldl_insertNew (h : P ledger) (records : List LedgerRecord)
    (hroom : ledger.records.length + records.length ≤ ledger.config.max_records) :
    P (records.foldl insertNew ledger) := by
  induction records generalizing ledger with
  | nil => exact h
  | cons record records ih =>
    rw [length_cons] at hroom
    rw [foldl_cons]
    unfold insertNew
    split_ifs with hknown
    · exact ih h (by omega)
    · refine ih (hP.insert record h hknown (by omega)) ?_
      have hlength : (ledger.insertRecord record).records.length = ledger.records.length + 1 := length_append
      rw [hlength, Nat.add_right_comm]
      exact hroom

theorem fillRecords (h : P ledger) (hempty : ledger.records = []) (loaded : List LedgerRecord) :
    P (ledger.fillRecords loaded) := by
  unfold EventLedger.fillRecords
  split_ifs
  · refine hP.foldl_insertNew (hP.status h _) _ ?_
    show ledger.records.length + (drop (_ - ledger.config.max_records) _).length ≤ ledger.config.max_records
    rw [hempty, length_drop, length_nil]
    omega
  · refine hP.foldl_insertNew h _ ?_
    rw [hempty, length_drop, length_nil]
    omega

/-- Also a load that fails keeps it. -/
theorem load (h : P ledger) (io : Io) (disk : Disk) : P (ledger.load x io disk).2 := by
  unfold EventLedger.load
  cases readRecords x ledger.config io disk with
  | error e => exact hP.cleared h
  | ok loaded =>
    have hfilled := hP.fillRecords (hP.cleared h) rfl loaded
    cases readSummaries x ledger.config io disk with
    | error e => exact hfilled
    | ok summaries =>
      unfold fillHistory
      dsimp only
      split_ifs
      all_goals exact hP.same hfilled rfl rfl (subset_rememberKeys _ _ _) rfl

theorem openLedger {io : Io} {disk : Disk} {config : LedgerConfig} (h : openLedger x io disk config = .ok ledger)
    (hclosed : P (closed config)) : P ledger := by
  have hload := hP.load x hclosed io disk
  unfold EventLedger.openLedger at h
  split_ifs at h
  · exact Except.ok.inj h ▸ hclosed
  · split at h
    · rename_i hok
      rw [hok] at hload
      exact Except.ok.inj h ▸ hload
    · cases h

/-- Every call keeps it: a pass leaves the records and the indexes alone until it loads. -/
theorem step (state : EventLedger × Disk) (call : Call) (h : P state.1) : P ((machine x).step state call).1.1 := by
  obtain ⟨ledger, disk⟩ := state
  cases call with
  | append io event now =>
    show P (ledger.append x io event now disk).2.1
    unfold append
    by_cases henabled : (!ledger.config.enabled) = true
    · rw [if_pos henabled]
      exact h
    rw [if_neg henabled]
    cases LedgerRecord.fromEvent x ledger.config event now with
    | error e => exact hP.status h _
    | ok record =>
      dsimp only
      generalize io.write (.raw (segmentName record.day)) _ disk = written
      split_ifs with hknown hfull
      · exact hP.status h _
      · exact hP.status h _
      · exact hP.status h _
      · obtain ⟨e | -, disk'⟩ := written
        · exact hP.status h _
        · exact hP.status (hP.insert record h hknown (Nat.not_le.mp hfull)) _
  | compact io now_unix =>
    have hrecords : P (ledger.compactRecords x io now_unix disk).2.1 := by
      have hnow : P { ledger with last_compaction_unix := now_unix } := hP.same h rfl rfl (Finset.Subset.refl _) rfl
      unfold compactRecords
      dsimp only
      split
      · exact hnow
      · split_ifs
        · exact hnow
        · split
          all_goals exact hP.status hnow _
    show P (ledger.compactIfDue x io now_unix disk).2.1
    unfold compactIfDue
    split_ifs
    · exact h
    · split
      · rename_i heq
        rwa [heq] at hrecords
      · rename_i compacted ledger' disk' heq
        rw [heq] at hrecords
        split
        · exact hrecords
        · rename_i pruned disk'' _
          have hload := hP.load x hrecords io disk''
          split_ifs
          · exact hrecords
          · split
            · rename_i hfail
              rwa [hfail] at hload
            · rename_i hok
              rwa [hok] at hload
  | query query => exact hP.status h _

end Invariant

/-- A new record is entered in each index at its position. -/
theorem indexed_invariant : Invariant Indexed where
  same h _ hrecords _ hindexes := by
    unfold Indexed
    rw [hrecords, hindexes]
    exact h
  cleared _ := ⟨.nil _, .nil _, .nil _, .nil _, .nil _⟩
  insert record h _ _ := ⟨h.repo.concat record, h.worktree.concat record, h.session.concat record,
    h.event_type.concat record, h.keyword.concat record⟩

theorem indexed_openLedger {io : Io} {disk : Disk} {config : LedgerConfig}
    (h : openLedger x io disk config = .ok ledger) : ledger.Indexed :=
  indexed_invariant.openLedger x h ⟨.nil _, .nil _, .nil _, .nil _, .nil _⟩

/-- Every call keeps the invariant. -/
theorem indexed_step (state : EventLedger × Disk) (call : Call) (h : state.1.Indexed) :
    ((machine x).step state call).1.1.Indexed :=
  indexed_invariant.step x state call h

/-- In every state that a run from an opened ledger reaches, a query finds what a scan of the records
finds. -/
theorem query_eq_scan {io : Io} {disk : Disk} {config : LedgerConfig} {opened : EventLedger}
    (hopen : openLedger x io disk config = .ok opened) (calls : List Call) (query : LedgerQuery) :
    (((machine x).run (opened, disk) calls).1.query query).1 =
      ((machine x).run (opened, disk) calls).1.scan query := by
  have hindexed : ((machine x).run (opened, disk) calls).1.Indexed :=
    (machine x).run_invariant' (fun state => state.1.Indexed) (indexed_step x)
      (indexed_openLedger x hopen) calls
  exact hindexed.query_scans query

/-- The keys of the records are known, no two records have one key, and there is room for the records. -/
structure Bounded (config : LedgerConfig) (ledger : EventLedger) : Prop where
  config_eq : ledger.config = config
  keyed : ledger.Keyed
  short : ledger.records.length ≤ config.max_records

theorem bounded_invariant (config : LedgerConfig) : Invariant (Bounded config) where
  same h hconfig hrecords hdedupe _ := ⟨hconfig.trans h.config_eq, ⟨hrecords ▸ h.keyed.nodup,
    fun r hr => hdedupe (h.keyed.known r (hrecords ▸ hr))⟩, hrecords ▸ h.short⟩
  cleared h := ⟨h.config_eq, ⟨nodup_nil, nofun⟩, Nat.zero_le _⟩
  insert record h hnew hroom := by
    have hkeyed := h.keyed.insertNew record
    unfold insertNew at hkeyed
    rw [if_neg hnew] at hkeyed
    rw [h.config_eq] at hroom
    exact ⟨h.config_eq, hkeyed, length_append.trans_le hroom⟩

/-- In every state that a run from an opened ledger reaches, no dedupe key is there twice or unknown, and there are
not too many records. -/
theorem records_bounded {io : Io} {disk : Disk} {config : LedgerConfig} {opened : EventLedger}
    (hopen : openLedger x io disk config = .ok opened) (calls : List Call) :
    ((machine x).run (opened, disk) calls).1.Bounded config :=
  (machine x).run_invariant' (fun state => state.1.Bounded config) ((bounded_invariant config).step x)
    ((bounded_invariant config).openLedger x hopen ⟨rfl, ⟨nodup_nil, nofun⟩, Nat.zero_le _⟩) calls

end EventLedger

/-! ## Two events -/

namespace Sample

open EventLedger

/-- The first of two events of a session. -/
def first : LedgerRecord where
  schema_version := 1
  id := "0c332c3c169c9e709aa510e160b7273bd952793d8be7abc7a2678a7a73ce13fd"
  dedupe_key := "7b409f932d2c88e97f0c17676c8420d3ea0dab6edb150a89b5684a8ad6d6c4c7"
  timestamp := "2026-08-01T12:00:00Z"
  timestamp_unix := 1785585600
  event_type := "agent.finished"
  source := "clawhip"
  repo := some "owner/repo"
  worktree := none
  session_id := some "s1"
  source_links := []
  keywords := ["agent", "finished"]

/-- The second one, of the same second. -/
def second : LedgerRecord :=
  { first with
    id := "cede1ce52cc96e01a23cd7da9a0d5eac0023da96e73ae2ceb5bf51ec2c806d2e"
    dedupe_key := "5a84cd4af0ceafc23a427a7ea78d0f92e60995375fc3f8d52477c783f320ac87" }

/-- The line of one of them, which only its identifier and its key tell apart. -/
def lineOf (id dedupe_key : String) : String :=
  "\x7b" ++ ("\"schema_version\":1,\"id\":\"" ++ id ++ "\",\"dedupe_key\":\"" ++ dedupe_key ++
    "\",\"timestamp\":\"2026-08-01T12:00:00Z\",\"timestamp_unix\":1785585600," ++
    "\"event_type\":\"agent.finished\",\"source\":\"clawhip\",\"repo\":\"owner/repo\"," ++
    "\"session_id\":\"s1\",\"keywords\":[\"agent\",\"finished\"]\x7d")

/-- The line of the first event. -/
def firstLine : String := lineOf first.id first.dedupe_key

/-- The line of the second event. -/
def secondLine : String := lineOf second.id second.dedupe_key

def decode (line : String) : Option LedgerRecord :=
  if line = firstLine then some first else if line = secondLine then some second else none

/-- The libraries on the two events. -/
def externals : Externals where
  hash_bytes text :=
    if text = "evt-1" then first.dedupe_key
    else if text = first.dedupe_key ++ ":2026-08-01T12:00:00Z" then first.id
    else if text = LedgerSummary.shardText first.groupKey [first.id, second.id] then
      "18b430ff1ae3d70c04d7736dc1f6e5ba7393633159105197d3755315ba20ed06"
    else "e3b0c44298fc1c149afbf4c8996fb92427ae41e4649b934ca495991b7852b855"
  parseUrl _ := none
  parseRfc3339 text :=
    if text = "2026-08-01T12:00:00Z" then some ⟨1785585600000000000, 0⟩ else none
  formatRfc3339 t := if t.unix_nanos = 1785585600000000000 then some "2026-08-01T12:00:00Z" else none
  encodeRecord r := if r = first then firstLine else secondLine
  decodeRecord := decode
  encodeSummary summary := summary.shard_id
  decodeSummary _ := none

/-- Every call comes out well. -/
def fine : Io := ⟨fun _ => false, fun _ => none, fun _ => 0⟩

/-- A configuration with room for some records. -/
def roomFor (max_records : ℕ) : LedgerConfig := ⟨true, 7, 30, 3600, max_records, 4096, 8, 32, 50, 50⟩

/-- The first event as it comes in. -/
def firstEvent : IncomingEvent where
  kind := "agent.finished"
  channel := none
  mention := none
  format := none
  template := none
  payload := .object [("event_id", .string "evt-1"), ("repo", .string "owner/repo"),
    ("session_id", .string "s1"), ("timestamp", .string "2026-08-01T12:00:00Z")]

/-- What the session of the two events wrote. -/
def askSession : LedgerQuery := ⟨some "owner/repo", none, some "s1", none, none, none, ["Finished"], none⟩

theorem openLedger_empty : openLedger externals fine ⟨empty, empty⟩ (roomFor 100) = .ok (closed (roomFor 100)) := by
  have hnames {α : Type} (extension : String) : namesWithExtension (empty : Dir α) extension = [] := mergeSort_nil
  have hrecords : readRecords externals (roomFor 100) fine ⟨empty, empty⟩ = .ok [] := by
    have hfiles : jsonlFiles fine ⟨empty, empty⟩ = .ok [] := congrArg _ (hnames "jsonl")
    exact bind_eq_ok.mpr ⟨_, hfiles, rfl⟩
  have hsummaries : readSummaries externals (roomFor 100) fine ⟨empty, empty⟩ = .ok [] := by
    have hfiles : jsonFiles fine ⟨empty, empty⟩ = .ok [] := congrArg _ (hnames "json")
    exact bind_eq_ok.mpr ⟨_, hfiles, rfl⟩
  have hconfig : (closed (roomFor 100)).config = roomFor 100 := rfl
  have hload : (closed (roomFor 100)).load externals fine ⟨empty, empty⟩ = (.ok (), closed (roomFor 100)) := by
    have hfill : ((closed (roomFor 100)).cleared.fillRecords []).fillHistory [] = closed (roomFor 100) := by
      unfold fillHistory fillRecords
      rw [mergeSort_nil, mergeSort_nil]
      rfl
    rw [load, hconfig, hrecords]
    rw [hsummaries]
    exact congrArg _ hfill
  have henabled : (!(roomFor 100).enabled) = false := rfl
  rw [openLedger, henabled, hload]
  rfl

/-- A ledger of a new directory that takes the event in and is then queried. -/
theorem query_after_append :
    let calls := [.append fine firstEvent ⟨1785585600000000000, 0⟩, .compact fine 1785585660]
    let state := (machine externals).run (closed (roomFor 100), ⟨Dir.empty, Dir.empty⟩) calls
    (state.1.query askSession).1 = state.1.scan askSession :=
  query_eq_scan externals openLedger_empty _ askSession

/-- The event comes twice. -/
theorem bounded_after_appends : let append := Call.append fine firstEvent ⟨1785585600000000000, 0⟩
    ((machine externals).run (closed (roomFor 100), ⟨empty, empty⟩) [append, append]).1.Bounded (roomFor 100) :=
  records_bounded externals openLedger_empty _

end Sample

end Clawhip.Ledger
