import Mathlib.Data.List.Nodup
import Clawhip.SourceCheckout.Records

/-!
# The recorded checkout stays loadable

The last record in the order of names is the one that the last successful call of `persist` published, as long as
no later one published (`State.Recorded`); this holds in every run. What `load` returns is the checkout of that
record if and only if every record that is retained loads, so an older checkout that goes away takes the recorded
one with it (`stays_loadable`).
-/

namespace Clawhip.SourceCheckout

open List Option StateDir Record

/-! ## Loading -/

section Loading

variable (checkouts : Checkouts)

def AllLoad (records : List Record) : Prop := ∀ record ∈ records, (loadManagedRecord checkouts record).isSome

variable {checkouts}

variable {answer : Option String}

/-- `load` succeeds if and only if every record loads, and then it returns the last one. -/
theorem loadRecords_eq_some_iff {records : List Record} {latest : Option String} :
    loadRecords checkouts records latest = some answer ↔ AllLoad checkouts records ∧
        answer = (records.getLast?.map (loadManagedRecord checkouts)).getD latest := by
  induction records generalizing latest with
  | nil =>
    have hall : AllLoad checkouts [] := fun _ h => absurd h not_mem_nil
    simp [loadRecords, hall, eq_comm]
  | cons record records ih =>
    have hcons : AllLoad checkouts (record :: records) ↔
        (loadManagedRecord checkouts record).isSome ∧ AllLoad checkouts records := forall_mem_cons
    rw [hcons]
    unfold loadRecords
    cases hload : loadManagedRecord checkouts record with
    | none => simp
    | some root =>
      have hlast : ((record :: records).getLast?.map (loadManagedRecord checkouts)).getD latest =
          (records.getLast?.map (loadManagedRecord checkouts)).getD (some root) := by
        cases hrecords : records.getLast? with
        | none => rw [getLast?_cons, hrecords, getD_none, map_some, hload]; rfl
        | some last => rw [getLast?_cons, hrecords]; rfl
      rw [ih, hlast]
      simp

theorem load_eq_some_iff {dir : StateDir} : load checkouts dir = some answer ↔ AllLoad checkouts dir.records ∧
        answer = (dir.records.getLast?.map (loadManagedRecord checkouts)).getD none :=
  loadRecords_eq_some_iff

end Loading

/-! ## Directories -/

namespace StateDir

variable {dir : StateDir} {names : List RecordName}

@[ext] theorem ext {dir' : StateDir} (h : dir.records = dir'.records) : dir = dir' := by
  cases dir
  cases dir'
  congr

@[simp] theorem unlink_records (dir : StateDir) (names : List RecordName) :
    (dir.unlink names).records = dir.records.filter fun record => !names.contains record.name := rfl

@[simp] theorem publish_records (dir : StateDir) (record : Record) (h : record.name.generation ≤ U64_MAX) :
    (dir.publish record h).records = inserted dir.records record := rfl

/-- A name belongs to one record. -/
theorem eq_of_name_eq (dir : StateDir) {a b : Record} (ha : a ∈ dir.records) (hb : b ∈ dir.records)
    (h : a.name = b.name) : a = b := by
  have hnodup : (dir.records.map fun record => record.name.key).Nodup := by
    refine (pairwise_map.mpr ?_ : List.Pairwise (· ≠ ·) _)
    exact dir.sorted.imp fun hlt => hlt.ne
  exact inj_on_of_nodup_map hnodup ha hb (congrArg RecordName.key h)

variable {record : Record}

theorem mem_unlink : record ∈ (dir.unlink names).records ↔ record ∈ dir.records ∧ record.name ∉ names := by
  simp [mem_filter]

/-- The last record stays last if it is not removed. -/
theorem unlink_concat {before : List Record} {last : Record} (h : dir.records = before ++ [last])
    (hlast : last.name ∉ names) :
    (dir.unlink names).records = (before.filter fun record => !names.contains record.name) ++ [last] := by
  rw [unlink_records, h, filter_append]
  simp [hlast]

theorem unlink_nil (dir : StateDir) : dir.unlink [] = dir := by
  ext1
  simp

/-- A record behind all others is published as the last one. -/
theorem publish_records_of_forall_lt {h : record.name.generation ≤ U64_MAX}
    (hlt : ∀ other ∈ dir.records, other.name.key < record.name.key) :
    (dir.publish record h).records = dir.records ++ [record] := by
  rw [publish_records]
  unfold inserted
  congr 1
  · exact filter_eq_self.mpr fun other hother => decide_eq_true (hlt other hother)
  · congr 1
    refine filter_eq_nil_iff.mpr fun other hother => ?_
    simpa using (hlt other hother).le

end StateDir

/-! ## Calls of `persist` -/

section Persist

variable {checkouts : Checkouts} {dir : StateDir} {record : Record} {records : List Record} {repo_root uuid : String}
  {stop : Option Stop}

theorem le_maxGeneration (h : record ∈ records) : record.name.generation ≤ maxGeneration records := by
  unfold maxGeneration
  induction records with
  | nil => exact absurd h not_mem_nil
  | cons other records ih =>
    rw [map_cons, foldr_cons]
    rcases mem_cons.mp h with rfl | h
    · exact le_max_left _ _
    · exact (ih h).trans (le_max_right _ _)

theorem cleanup_zero (records : List Record) : cleanup records 0 = records.map name := by
  unfold cleanup
  rw [Nat.sub_zero, take_length]

/-- `persist` removes only records that it was given. -/
theorem exists_of_mem_cleanup {retain_old : ℕ} {name : RecordName} (h : name ∈ cleanup records retain_old) :
    ∃ record ∈ records, record.name = name := by
  obtain ⟨record, hrecord, hname⟩ := mem_map.mp h
  exact ⟨record, mem_of_mem_take hrecord, hname⟩

theorem mem_exhaustedRecords :
    record ∈ exhaustedRecords records ↔ record ∈ records ∧ record.name.generation = U64_MAX := by
  simp [exhaustedRecords, mem_filter]

theorem mem_validRecords :
    record ∈ validRecords checkouts records ↔ record ∈ records ∧ record.name.generation ≠ U64_MAX ∧
        (loadManagedRecord checkouts record).isSome := by
  simp [validRecords, mem_filter]

theorem mem_invalidRecords :
    record ∈ invalidRecords checkouts records ↔ record ∈ records ∧ record.name.generation ≠ U64_MAX ∧
        (loadManagedRecord checkouts record).isNone := by
  simp [invalidRecords, mem_filter]

/-- What is left after the invalid records are cleaned up is exhausted or valid. -/
theorem mem_cleaned : record ∈ (dir.unlink ((invalidRecords checkouts dir.records).map name)).records ↔
      record ∈ exhaustedRecords dir.records ∨ record ∈ validRecords checkouts dir.records := by
  rw [mem_unlink, mem_exhaustedRecords, mem_validRecords, ← and_or_left]
  refine and_congr_right fun hrecord => ?_
  have hinvalid : record.name ∈ (invalidRecords checkouts dir.records).map name ↔
      record.name.generation ≠ U64_MAX ∧ (loadManagedRecord checkouts record).isNone := by
    constructor
    · intro h
      obtain ⟨other, hother, hname⟩ := mem_map.mp h
      have hmem := mem_invalidRecords.mp hother
      rw [dir.eq_of_name_eq hmem.1 hrecord hname] at hmem
      exact hmem.2
    · exact fun h => mem_map_of_mem (mem_invalidRecords.mpr ⟨hrecord, h⟩)
  rw [hinvalid, isNone_iff_eq_none, ← not_isSome_iff_eq_none]
  tauto

/-- The record that a call publishes. -/
def newRecord (checkouts : Checkouts) (dir : StateDir) (root uuid : String) : Record :=
  ⟨⟨nextGeneration checkouts dir.records, uuid⟩, some ⟨nextGeneration checkouts dir.records, root⟩⟩

/-- After the retention, the new record is the last one and every other one loads. -/
theorem retained_last (root uuid : String) (hfits : (newRecord checkouts dir root uuid).name.generation ≤ U64_MAX)
    (hfresh : (newRecord checkouts dir root uuid).name ∉
      (dir.unlink ((invalidRecords checkouts dir.records).map name)).records.map name) :
    ∃ before, AllLoad checkouts before ∧ (((dir.unlink ((invalidRecords checkouts dir.records).map name)).publish
        (newRecord checkouts dir root uuid) hfits).unlink (retired checkouts dir.records)).records =
          before ++ [newRecord checkouts dir root uuid] := by
  set cleaned := dir.unlink ((invalidRecords checkouts dir.records).map name) with hcleaned
  cases hexhausted : (exhaustedRecords dir.records).isEmpty with
  | true =>
    -- the new generation is larger than all that are left, and they are all valid
    have hnone : exhaustedRecords dir.records = [] := isEmpty_iff.mp hexhausted
    have hvalid : ∀ record ∈ cleaned.records, record ∈ validRecords checkouts dir.records := by
      intro record hrecord
      rcases mem_cleaned.mp hrecord with h | h
      · exact absurd (hnone ▸ h) not_mem_nil
      · exact h
    have hnext : nextGeneration checkouts dir.records = maxGeneration (validRecords checkouts dir.records) + 1 := by
      unfold nextGeneration
      rw [if_pos hexhausted]
    have hlt : ∀ record ∈ validRecords checkouts dir.records,
        record.name.generation < nextGeneration checkouts dir.records := by
      intro record hrecord
      have hle := le_maxGeneration hrecord
      omega
    have hretired : (newRecord checkouts dir root uuid).name ∉ retired checkouts dir.records := by
      unfold retired
      rw [if_pos hexhausted]
      intro hmem
      obtain ⟨record, hrecord, hname⟩ := exists_of_mem_cleanup hmem
      have hgeneration : record.name.generation = nextGeneration checkouts dir.records :=
        congrArg RecordName.generation hname
      exact (hlt record hrecord).ne hgeneration
    have hpublished : (cleaned.publish (newRecord checkouts dir root uuid) hfits).records =
        cleaned.records ++ [newRecord checkouts dir root uuid] := by
      refine publish_records_of_forall_lt fun record hrecord => ?_
      exact Prod.Lex.toLex_lt_toLex.mpr (.inl (hlt record (hvalid record hrecord)))
    refine ⟨_, fun record hrecord => ?_, unlink_concat hpublished hretired⟩
    have hmem := mem_validRecords.mp (hvalid record (mem_filter.mp hrecord).1)
    exact hmem.2.2
  | false =>
    -- everything else is removed
    have hretired : retired checkouts dir.records = (validRecords checkouts dir.records).map name ++
          (exhaustedRecords dir.records).map name := by
      unfold retired
      simp only [hexhausted, Bool.false_eq_true, if_false, cleanup_zero]
    have hgone : ∀ record ∈ cleaned.records, record.name ∈ retired checkouts dir.records := by
      intro record hrecord
      rw [hretired]
      rcases mem_cleaned.mp hrecord with h | h
      · exact mem_append_right _ (mem_map_of_mem h)
      · exact mem_append_left _ (mem_map_of_mem h)
    have hnew : (newRecord checkouts dir root uuid).name ∉ retired checkouts dir.records := by
      rw [hretired]
      intro hmem
      have hold : (newRecord checkouts dir root uuid).name ∈ cleaned.records.map name := by
        rcases mem_append.mp hmem with h | h
        · obtain ⟨record, hrecord, hname⟩ := mem_map.mp h
          exact mem_map.mpr ⟨record, mem_cleaned.mpr (.inr hrecord), hname⟩
        · obtain ⟨record, hrecord, hname⟩ := mem_map.mp h
          exact mem_map.mpr ⟨record, mem_cleaned.mpr (.inl hrecord), hname⟩
      exact hfresh hold
    refine ⟨[], fun record h => absurd h not_mem_nil, ?_⟩
    have hempty : ∀ keep : Record → Bool, (cleaned.records.filter keep).filter
        (fun record => !(retired checkouts dir.records).contains record.name) = [] := by
      intro keep
      refine filter_eq_nil_iff.mpr fun record hrecord => ?_
      simpa using hgone record (mem_filter.mp hrecord).1
    rw [unlink_records, publish_records]
    unfold inserted
    rw [filter_append, filter_cons, hempty, hempty]
    simp [hnew]

/-- A call that returns `Ok` leaves its checkout in the last record, and every other record loads. -/
theorem persist_ok (h : (persist checkouts dir repo_root uuid stop).1 = .ok) :
    ∃ root before name, checkouts.validate repo_root = some root ∧ AllLoad checkouts before ∧
      (persist checkouts dir repo_root uuid stop).2.records = before ++ [⟨name, some ⟨name.generation, root⟩⟩] := by
  unfold persist at h ⊢
  cases hroot : checkouts.validate repo_root with
  | none => simp [hroot] at h
  | some root =>
    rcases stop with _ | removed | removed
    · simp only [hroot] at h ⊢
      split at h
      · next hname =>
        obtain ⟨before, hbefore, hrecords⟩ := retained_last root uuid hname.1 hname.2
        rw [dif_pos hname]
        exact ⟨root, before, _, rfl, hbefore, hrecords⟩
      · exact absurd h (by simp)
    · simp [hroot] at h
    · simp only [hroot] at h
      split at h <;> exact absurd h (by simp)

section

variable (h : (persist checkouts dir repo_root uuid stop).1 = .unpublished)
include h

/-- A call that fails before it publishes removes only invalid records. -/
theorem persist_unpublished : ∃ removed, (persist checkouts dir repo_root uuid stop).2 =
      dir.unlink (((invalidRecords checkouts dir.records).map name).take removed) := by
  have hall : ∀ names : List RecordName, dir.unlink names = dir.unlink (names.take names.length) :=
    fun names => by rw [take_length]
  unfold persist at h ⊢
  cases hroot : checkouts.validate repo_root with
  | none => exact ⟨0, by rw [take_zero, unlink_nil]⟩
  | some root =>
    rcases stop with _ | removed | removed
    · simp only [hroot] at h ⊢
      split at h
      · exact absurd h (by simp)
      · next hname =>
        rw [dif_neg hname]
        exact ⟨_, hall _⟩
    · exact ⟨removed, rfl⟩
    · simp only [hroot] at h ⊢
      split at h
      · exact absurd h (by simp)
      · next hname =>
        rw [dif_neg hname]
        exact ⟨_, hall _⟩

/-- A call that fails before it publishes changes nothing if every record loads. -/
theorem persist_unpublished_of_allLoad
    (hload : AllLoad checkouts dir.records) : (persist checkouts dir repo_root uuid stop).2 = dir := by
  obtain ⟨removed, hdir⟩ := persist_unpublished h
  have hnone : invalidRecords checkouts dir.records = [] := by
    refine eq_nil_iff_forall_not_mem.mpr fun record hrecord => ?_
    have hmem := mem_invalidRecords.mp hrecord
    have hsome := hload record hmem.1
    rw [isNone_iff_eq_none.mp hmem.2.2] at hsome
    exact Bool.false_ne_true hsome
  rw [hdir, hnone, map_nil, take_nil, unlink_nil]

end

end Persist

/-! ## Runs -/

/-- The recorded checkout is valid and stands in the last record. -/
structure State.Recorded (s : State) (root : String) (before : List Record) (name : RecordName) : Prop where
  valid : s.checkouts.validate root = some root
  records : s.dir.records = before ++ [⟨name, some ⟨name.generation, root⟩⟩]

/-- What every step keeps. -/
def State.Inv (s : State) : Prop := ∀ root, s.recorded = some root → ∃ before name, s.Recorded root before name

/-- The checkout that is recorded is the one that `load` returns. -/
def State.Kept (s : State) : Prop := ∀ root, s.recorded = some root → load s.checkouts s.dir = some (some root)

variable {name : RecordName} {root : String}

theorem loadManagedRecord_recorded {checkouts : Checkouts} (h : checkouts.validate root = some root) :
    loadManagedRecord checkouts ⟨name, some ⟨name.generation, root⟩⟩ = some root := by
  unfold loadManagedRecord
  simp [h]

variable {s : State}

/-- The recorded checkout is loaded if and only if every record loads. -/
theorem State.Recorded.load_iff {before : List Record} (h : s.Recorded root before name) :
    load s.checkouts s.dir = some (some root) ↔ AllLoad s.checkouts s.dir.records := by
  rw [load_eq_some_iff, h.records, getLast?_concat, map_some, getD_some,
    loadManagedRecord_recorded h.valid, and_iff_left rfl]

/-- A step keeps that the recorded checkout is in the last record. -/
theorem inv_step (s : State) (input : Input) (h : s.Inv) : (system.step s input).1.Inv := by
  intro root hroot
  cases input with
  | change checkouts =>
    have hfilter : s.recorded.filter (fun root => checkouts.validate root == some root) = some root := hroot
    obtain ⟨hrecorded, hvalid⟩ := filter_eq_some_iff.mp hfilter
    obtain ⟨before, name, hlast⟩ := h root hrecorded
    exact ⟨before, name, ⟨beq_iff_eq.mp hvalid, hlast.records⟩⟩
  | persist repo_root uuid stop =>
    have hafter : recordedAfter s repo_root (persist s.checkouts s.dir repo_root uuid stop).1 = some root := hroot
    cases houtcome : (persist s.checkouts s.dir repo_root uuid stop).1 with
    | unpublished =>
      rw [houtcome] at hafter
      obtain ⟨before, name, hlast⟩ := h root hafter
      obtain ⟨removed, hdir⟩ := persist_unpublished houtcome
      -- the last record loads, so that it is not among those that are removed
      have hkept : name ∉ ((invalidRecords s.checkouts s.dir.records).map Record.name).take removed := by
        intro hmem
        obtain ⟨other, hother, hname⟩ := mem_map.mp (mem_of_mem_take hmem)
        have hinvalid := mem_invalidRecords.mp hother
        have hrecord : (⟨name, some ⟨name.generation, root⟩⟩ : Record) ∈ s.dir.records := by
          rw [hlast.records]
          exact mem_append_right _ mem_cons_self
        rw [s.dir.eq_of_name_eq hinvalid.1 hrecord hname, loadManagedRecord_recorded hlast.valid] at hinvalid
        exact Bool.false_ne_true hinvalid.2.2
      have hrecords := unlink_concat hlast.records hkept
      exact ⟨_, name, hlast.valid, (congrArg records hdir).trans hrecords⟩
    | published =>
      -- a call that is cut behind its commit counts as nothing recorded
      rw [houtcome] at hafter
      exact absurd hafter (by simp [recordedAfter])
    | ok =>
      rw [houtcome] at hafter
      obtain ⟨root', before, name, hvalid, -, hrecords⟩ := persist_ok houtcome
      have heq : root' = root := some.inj (hvalid.symm.trans hafter)
      subst heq
      exact ⟨before, name, s.checkouts.canonical _ _ hvalid, hrecords⟩

/-- No checkout of a record that is retained is gone while the recorded one is there. -/
def Meets (s : State) : Input → Prop
  | .persist _ _ _ => True
  | .change checkouts => ∀ root, s.recorded = some root → checkouts.validate root = some root →
      ∀ record ∈ s.dir.records, ∀ state, record.contents = some state → (checkouts.validate state.repo_root).isSome

/-- After a step the recorded checkout is loaded if and only if the step meets the condition. -/
theorem kept_step_iff (hinv : s.Inv) (hkept : s.Kept) (input : Input) :
    (system.step s input).1.Kept ↔ Meets s input := by
  cases input with
  | persist repo_root uuid stop =>
    refine iff_of_true (fun root hroot => ?_) trivial
    obtain ⟨before, name, hlast⟩ := inv_step s (.persist repo_root uuid stop) hinv root hroot
    rw [hlast.load_iff]
    have hafter : recordedAfter s repo_root (persist s.checkouts s.dir repo_root uuid stop).1 = some root := hroot
    change AllLoad s.checkouts (persist s.checkouts s.dir repo_root uuid stop).2.records
    cases houtcome : (persist s.checkouts s.dir repo_root uuid stop).1 with
    | unpublished =>
      rw [houtcome] at hafter
      have hload := (load_eq_some_iff.mp (hkept root hafter)).1
      rw [persist_unpublished_of_allLoad houtcome hload]
      exact hload
    | published =>
      rw [houtcome] at hafter
      exact absurd hafter (by simp [recordedAfter])
    | ok =>
      obtain ⟨root', before', name', hvalid, hbefore, hrecords⟩ := persist_ok houtcome
      rw [hrecords]
      intro record hrecord
      rcases mem_append.mp hrecord with hold | hnew
      · exact hbefore record hold
      · rw [mem_singleton.mp hnew, loadManagedRecord_recorded (s.checkouts.canonical _ _ hvalid)]
        rfl
  | change checkouts =>
    have hrecorded : ∀ root, (system.step s (.change checkouts)).1.recorded = some root ↔
        s.recorded = some root ∧ checkouts.validate root = some root := by
      intro root
      rw [← beq_iff_eq (a := checkouts.validate root)]
      exact filter_eq_some_iff
    have hloads : ∀ root, s.recorded = some root → checkouts.validate root = some root →
        (load checkouts s.dir = some (some root) ↔ ∀ record ∈ s.dir.records, ∀ state, record.contents = some state →
            (checkouts.validate state.repo_root).isSome) := by
      intro root hroot hvalid
      obtain ⟨before, name, hlast⟩ := hinv root hroot
      have hbefore := (load_eq_some_iff.mp (hkept root hroot)).1
      have hafter : (⟨checkouts, s.dir, some root⟩ : State).Recorded root before name := ⟨hvalid, hlast.records⟩
      refine hafter.load_iff.trans (forall₂_congr fun record hrecord => ?_)
      -- its file was read before
      have hread := hbefore record hrecord
      unfold loadManagedRecord at hread ⊢
      cases hcontents : record.contents with
      | none => simp [hcontents] at hread
      | some state =>
        simp only [hcontents] at hread ⊢
        cases hgeneration : record.name.generation != state.generation with
        | true => simp [hgeneration] at hread
        | false => simp
    constructor
    · intro h root hroot hvalid
      exact (hloads root hroot hvalid).mp (h root ((hrecorded root).mpr ⟨hroot, hvalid⟩))
    · intro h root hroot
      obtain ⟨hold, hvalid⟩ := (hrecorded root).mp hroot
      exact (hloads root hold hvalid).mpr (h root hold hvalid)

theorem inv_run (h : s.recorded = none) (inputs : List Input) : (system.run s inputs).Inv := by
  refine system.run_invariant' State.Inv inv_step (fun root hroot => ?_) inputs
  rw [h] at hroot
  exact absurd hroot (by simp)

/-- In every run from a directory of any records, the recorded checkout is loaded in every state that is reached if
no step takes away the checkout of a record that is retained, and the first step that does breaks it. A call that
fails before it publishes changes nothing that `load` returns if every record loads. -/
theorem stays_loadable {s : State} (h : s.recorded = none) (inputs : List Input) :
    (system.Along Meets s inputs → (system.run s inputs).Kept) ∧ ((system.run s inputs).Kept → ∀ input,
      (system.run s (inputs ++ [input])).Kept ↔ Meets (system.run s inputs) input) ∧
    ∀ checkouts dir repo_root uuid stop, (persist checkouts dir repo_root uuid stop).1 = .unpublished →
      AllLoad checkouts dir.records →
        load checkouts (persist checkouts dir repo_root uuid stop).2 = load checkouts dir := by
  refine ⟨fun halong => ?_, fun hkept input => ?_, fun checkouts dir repo_root uuid stop hstop hload => ?_⟩
  · have hstart : s.Inv ∧ s.Kept :=
      ⟨inv_run h [], fun root hroot => absurd (h.symm.trans hroot) (by simp)⟩
    have hrun : (system.run s inputs).Inv ∧ (system.run s inputs).Kept :=
      system.run_invariant (fun s => s.Inv ∧ s.Kept)
        (fun s input hs hmeets => ⟨inv_step s input hs.1, (kept_step_iff hs.1 hs.2 input).mpr hmeets⟩)
        hstart halong
    exact hrun.2
  · rw [system.run_concat]
    exact kept_step_iff (inv_run h inputs) hkept input
  · rw [persist_unpublished_of_allLoad hstop hload]

namespace Sample

/-- Checkouts at some canonical paths. -/
def checkoutsAt (valid : List String) : Checkouts where
  validate path := if path ∈ valid then some path else none
  canonical path root h := by
    split at h
    · next hmem =>
      rw [← Option.some.inj h]
      exact if_pos hmem
    · exact absurd h (by simp)

/-- Nothing is recorded. -/
def start : State := ⟨checkoutsAt ["/first", "/second"], .empty, none⟩

/-- Two checkouts are recorded, and the first one is deleted. -/
def deleted : List Input :=
  [.persist "/first" "1f" none, .persist "/second" "2f" none, .change (checkoutsAt ["/second"])]

theorem first_checkout_is_loaded : (system.run start [.persist "/first" "1f" none]).Kept :=
  (stays_loadable rfl [.persist "/first" "1f" none]).1 ⟨trivial, trivial⟩

/-- The checkout that was recorded last is valid, but it is not loaded. -/
theorem deleted_checkout_hides_the_recorded_one :
    ¬ ∀ s : State, s.recorded = none → ∀ inputs, (system.run s inputs).Kept := by
  intro h
  have hrecorded : (system.run start deleted).recorded = some "/second" := by decide
  have hload : load (system.run start deleted).checkouts (system.run start deleted).dir = none := by decide
  have hkept := h start rfl deleted "/second" hrecorded
  rw [hload] at hkept
  exact absurd hkept (by simp)

end Sample

end Clawhip.SourceCheckout
