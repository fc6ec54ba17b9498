import Clawhip.Gjc.LaneFailures
import Clawhip.Gjc.LaneFile
import Clawhip.Lib.SortedMap

/-!
# Migrating lane identifiers

`migrate_lane_ids` of `src/gjc_lane.rs` names every lane after its session, and keeps the old name as
an alias. `migration_lossless` says that a migration that succeeds loses no lane and no alias, and
that it is not migrated again.
-/

namespace Clawhip.Gjc

open List Option StateFile Migration

open OrdMap

/-! ## What a migration keeps -/

section Migrating

variable (gjc_lane_id : String → String)

/-- A lane under the identifier of its session. -/
def LaneRecord.renamed (record : LaneRecord) : LaneRecord :=
  { record with lane_id := gjc_lane_id record.sdk_session_id }

/-- A lane's entry under the identifier of its session. -/
def renamedEntry (lane : String × LaneRecord) : String × LaneRecord :=
  (gjc_lane_id lane.2.sdk_session_id, lane.2.renamed gjc_lane_id)

/-- A file after a migration has the lanes of the file before, each under the identifier of its session
and with no other change, and finds them under their old identifiers and aliases in one step. -/
structure Lossless (state migrated : StateFile) : Prop where
  rest : migrated = { state with
    lanes := migrated.lanes, lane_id_aliases := migrated.lane_id_aliases }
  lanes : migrated.lanes.Perm (state.lanes.map (renamedEntry gjc_lane_id))
  sorted : Sorted migrated.lanes
  old_ids : ∀ lane_id record, state.lanes.get lane_id = some record →
    migrated.canonicalLaneId lane_id = gjc_lane_id record.sdk_session_id ∧
      migrated.record lane_id = some (record.renamed gjc_lane_id)
  old_aliases : ∀ old_alias target, state.lane_id_aliases.get old_alias = some target →
    ∃ record, state.lanes.get target = some record ∧
      migrated.canonicalLaneId old_alias = gjc_lane_id record.sdk_session_id ∧
      migrated.record old_alias = some (record.renamed gjc_lane_id)
  disjoint : ∀ key, (migrated.lanes.get key).isSome = true → migrated.lane_id_aliases.get key = none

/-! ## The loop -/

variable {gjc_lane_id} {canonical_ids : List String}

variable {lanes : OrdMap String LaneRecord} {migration migration' : Migration}

theorem Migration.add_ok {lane : String × LaneRecord}
    (h : migration.add gjc_lane_id canonical_ids lane = .ok migration') :
    (lane.1 ≠ gjc_lane_id lane.2.sdk_session_id → lane.1 ∉ canonical_ids) ∧
      migration.lanes.get (gjc_lane_id lane.2.sdk_session_id) = none ∧
      migration'.lanes = migration.lanes.insert (gjc_lane_id lane.2.sdk_session_id) (lane.2.renamed gjc_lane_id) ∧
      migration'.lane_id_aliases = (if lane.1 ≠ gjc_lane_id lane.2.sdk_session_id then
          migration.lane_id_aliases.insert lane.1 (gjc_lane_id lane.2.sdk_session_id)
        else migration.lane_id_aliases) := by
  unfold add at h
  by_cases hcollides : lane.1 ≠ gjc_lane_id lane.2.sdk_session_id ∧ lane.1 ∈ canonical_ids
  · rw [if_pos hcollides] at h
    cases h
  rw [if_neg hcollides] at h
  by_cases hpresent : (migration.lanes.get (gjc_lane_id lane.2.sdk_session_id)).isSome = true
  · rw [if_pos hpresent] at h
    cases h
  rw [if_neg hpresent] at h
  cases h
  refine ⟨fun hne hmem => hcollides ⟨hne, hmem⟩, by simpa using hpresent, ?_, rfl⟩
  dsimp only
  -- A lane that is not changed already has the identifier of its session.
  split_ifs with hchanged
  · rfl
  · have hsame : lane.2.lane_id = gjc_lane_id lane.2.sdk_session_id := by
      simp only [Bool.or_eq_true, decide_eq_true_eq, not_or, not_not] at hchanged
      exact hchanged.2
    unfold LaneRecord.renamed
    rw [← hsame]

/-- After the loop every lane is under the identifier of its session, and its old identifier is an
alias for it if it is another one. -/
theorem Migration.run_ok (h : lanes.foldlM (add gjc_lane_id canonical_ids) migration = .ok migration')
    (hsorted : Sorted migration.lanes) (hkeys : lanes.keys.Nodup) :
    migration'.lanes.Perm (lanes.map (renamedEntry gjc_lane_id) ++ migration.lanes) ∧
      Sorted migration'.lanes ∧ (∀ lane ∈ lanes, lane.1 ≠ gjc_lane_id lane.2.sdk_session_id → lane.1 ∉ canonical_ids ∧
          migration'.lane_id_aliases.get lane.1 = some (gjc_lane_id lane.2.sdk_session_id)) ∧
      ∀ key, (∀ lane ∈ lanes, lane.1 = key → lane.1 = gjc_lane_id lane.2.sdk_session_id) →
        migration'.lane_id_aliases.get key = migration.lane_id_aliases.get key := by
  induction lanes generalizing migration with
  | nil =>
    cases h
    exact ⟨.refl _, hsorted, fun lane hmem => absurd hmem not_mem_nil, fun _ _ => rfl⟩
  | cons lane lanes ih =>
    rw [foldlM_cons] at h
    obtain ⟨added, hadded, h⟩ := bind_eq_ok.mp h
    obtain ⟨hnew, hnone, hlanes, haliases⟩ := add_ok hadded
    obtain ⟨hfresh, hrest⟩ := nodup_cons.mp hkeys
    obtain ⟨hperm, hsorted', hrenamed, hkept⟩ := ih h (by rw [hlanes]; exact sorted_insert hsorted _ _) hrest
    refine ⟨?_, hsorted', ?_, ?_⟩
    · have hplaced : added.lanes.Perm (renamedEntry gjc_lane_id lane :: migration.lanes) := by
        rw [hlanes, OrdMap.insert, hnone, if_neg (by simp)]
        exact place_perm _ _ _
      refine hperm.trans ((hplaced.append_left _).trans ?_)
      rw [map_cons, cons_append]
      exact perm_middle
    · intro other hmem hne
      rcases mem_cons.mp hmem with rfl | hmem
      · refine ⟨hnew hne, ?_⟩
        rw [hkept other.1 fun lane hlane heq =>
          absurd (mem_map_of_mem (f := Prod.fst) hlane) (heq ▸ hfresh), haliases, if_pos hne, get_insert_self]
      · exact hrenamed other hmem hne
    · intro key hcanonical
      rw [hkept key fun other hother => hcanonical other (mem_cons_of_mem _ hother), haliases]
      split_ifs with hne
      · refine get_insert_ne _ _ fun heq => hne ?_
        exact hcanonical lane mem_cons_self heq.symm
      · rfl

/-- Lanes that are in order under the identifiers of their sessions go through the loop unchanged. -/
theorem Migration.run_canonical {aliases : OrdMap String String} (before : OrdMap String LaneRecord) (hsorted : Sorted (before ++ lanes))
    (hcanonical : ∀ lane ∈ lanes, renamedEntry gjc_lane_id lane = lane) :
    lanes.foldlM (add gjc_lane_id canonical_ids) ⟨before, aliases, false⟩ = .ok ⟨before ++ lanes, aliases, false⟩ := by
  induction lanes generalizing before with
  | nil => rw [append_nil]; rfl
  | cons lane lanes ih =>
    have hlane : gjc_lane_id lane.2.sdk_session_id = lane.1 := congrArg Prod.fst (hcanonical lane mem_cons_self)
    have hrecord : lane.2.renamed gjc_lane_id = lane.2 := congrArg Prod.snd (hcanonical lane mem_cons_self)
    have hlane_id : lane.2.lane_id = lane.1 := by
      rw [← hrecord]
      exact hlane
    have habove : ∀ key ∈ before.keys, key < lane.1 := by
      unfold Sorted OrdMap.keys at hsorted
      rw [map_append, map_cons] at hsorted
      exact fun key hkey => (pairwise_append.mp hsorted).2.2 key hkey lane.1 mem_cons_self
    have hnone : before.get lane.1 = none :=
      get_eq_none_iff.mpr fun hmem => String.lt_irrefl lane.1 (habove lane.1 hmem)
    have hadd : add gjc_lane_id canonical_ids ⟨before, aliases, false⟩ lane =
        .ok ⟨before ++ [lane], aliases, false⟩ := by
      unfold add
      simp [hlane, hlane_id, hnone, insert_of_above lane.2 habove]
    rw [foldlM_cons, hadd]
    have happend : before ++ lane :: lanes = before ++ [lane] ++ lanes := append_cons ..
    rw [happend] at hsorted ⊢
    exact ih _ hsorted fun other hother => hcanonical other (mem_cons_of_mem _ hother)

end Migrating

/-! ## Migrations -/

section Migrations

variable {gjc_lane_id : String → String} {state migrated : StateFile} {changed : Bool}

/-- A migration that succeeds has met no complaint before, in or after the loop. -/
theorem migrateLaneIds_ok (h : migrateLaneIds gjc_lane_id state = .ok (migrated, changed)) :
    (∀ entry ∈ state.lane_id_aliases, state.aliasComplaint entry = none) ∧ state.lanes.foldlM (add gjc_lane_id
          (state.lanes.values.map fun record => gjc_lane_id record.sdk_session_id))
        ⟨[], state.lane_id_aliases, false⟩ = .ok ⟨migrated.lanes, migrated.lane_id_aliases, changed⟩ ∧
      (∀ target ∈ migrated.lane_id_aliases.values,
        migrated.lane_id_aliases.get target = none ∧ (migrated.lanes.get target).isSome = true) ∧
      migrated = { state with
        lanes := migrated.lanes, lane_id_aliases := migrated.lane_id_aliases } := by
  unfold migrateLaneIds at h
  split at h
  · cases h
  · rename_i hnone
    obtain ⟨migration, hmigration, h⟩ := bind_eq_ok.mp h
    split_ifs at h with hchain hmissing
    cases h
    refine ⟨findSome?_eq_none_iff.mp hnone, hmigration, fun target hmem => ⟨?_, ?_⟩, rfl⟩
    · have hchain := any_eq_false.mp (Bool.not_eq_true _ ▸ hchain) target hmem
      simpa using hchain
    · have hmissing := any_eq_false.mp (Bool.not_eq_true _ ▸ hmissing) target hmem
      simpa [isSome_iff_ne_none] using hmissing

/-- An alias about which there is no complaint names no lane, and its target is a lane. -/
theorem StateFile.aliasComplaint_eq_none {entry : String × String} (h : state.aliasComplaint entry = none) :
    entry.1 ≠ entry.2 ∧ state.lanes.get entry.1 = none ∧
      state.lane_id_aliases.get entry.2 = none ∧ (state.lanes.get entry.2).isSome = true := by
  unfold aliasComplaint at h
  split_ifs at h with hcollides hchain hmissing
  simp only [Bool.or_eq_true, decide_eq_true_eq, not_or, Bool.not_eq_true,
    isSome_eq_false_iff, isNone_iff_eq_none] at hcollides hchain hmissing
  exact ⟨hcollides.1, hcollides.2, hchain, isSome_iff_ne_none.mpr hmissing⟩

/-- A migration that succeeds loses nothing. -/
theorem lossless (hlanes : Sorted state.lanes)
    (h : migrateLaneIds gjc_lane_id state = .ok (migrated, changed)) : Lossless gjc_lane_id state migrated := by
  obtain ⟨hcomplaint, hrun, htargets, hrest⟩ := migrateLaneIds_ok h
  obtain ⟨hperm, hsorted, hrenamed, hkept⟩ := run_ok hrun sorted_nil hlanes.nodup
  rw [append_nil] at hperm
  have hentry {lane_id : String} {record : LaneRecord} (hget : state.lanes.get lane_id = some record) :
      migrated.lanes.get (gjc_lane_id record.sdk_session_id) = some (record.renamed gjc_lane_id) := by
    have hmem : renamedEntry gjc_lane_id (lane_id, record) ∈ migrated.lanes :=
      hperm.mem_iff.mpr (mem_map_of_mem (mem_of_get hget))
    exact get_of_mem hsorted.nodup hmem
  -- A key that is a lane under its own identifier is no alias.
  have hcanonical {lane_id : String} {record : LaneRecord} (hget : state.lanes.get lane_id = some record) :
      migrated.canonicalLaneId lane_id = gjc_lane_id record.sdk_session_id := by
    unfold canonicalLaneId
    by_cases hsame : lane_id = gjc_lane_id record.sdk_session_id
    · have hold : migrated.lane_id_aliases.get lane_id = state.lane_id_aliases.get lane_id := by
        refine hkept lane_id fun lane hmem heq => ?_
        have hlane : state.lanes.get lane.1 = some lane.2 := get_of_mem hlanes.nodup hmem
        rw [heq, hget] at hlane
        rw [← some.inj hlane, heq]
        exact hsame
      have hnone : state.lane_id_aliases.get lane_id = none := by
        cases halias : state.lane_id_aliases.get lane_id with
        | none => rfl
        | some target =>
          have hclean := aliasComplaint_eq_none (hcomplaint _ (mem_of_get halias))
          rw [hclean.2.1] at hget
          cases hget
      rw [hold, hnone]
      exact hsame
    · rw [(hrenamed (lane_id, record) (mem_of_get hget) hsame).2]
      rfl
  -- An old alias names no lane, so that the loop leaves it alone.
  have halias {key target : String} (hget : state.lane_id_aliases.get key = some target) :
      migrated.lane_id_aliases.get key = some target := by
    have hclean := aliasComplaint_eq_none (hcomplaint _ (mem_of_get hget))
    rw [← hget]
    refine hkept key fun lane hmem heq => ?_
    have hlane : state.lanes.get lane.1 = some lane.2 := get_of_mem hlanes.nodup hmem
    rw [heq, hclean.2.1] at hlane
    cases hlane
  refine ⟨hrest, hperm, hsorted, fun lane_id record hget => ?_, fun key target hget => ?_, fun key hlane => ?_⟩
  · refine ⟨hcanonical hget, ?_⟩
    unfold StateFile.record
    rw [hcanonical hget, hentry hget]
  · have hnew := halias hget
    have hclean := aliasComplaint_eq_none (hcomplaint _ (mem_of_get hget))
    obtain ⟨record, hrecord⟩ := isSome_iff_exists.mp hclean.2.2.2
    have htarget := htargets target (mem_map_of_mem (f := Prod.snd) (mem_of_get hnew))
    -- The target has the identifier of its session: otherwise it would have become an alias.
    have hsame : target = gjc_lane_id record.sdk_session_id := by
      have hcanonical := hcanonical hrecord
      unfold canonicalLaneId at hcanonical
      rw [htarget.1] at hcanonical
      exact hcanonical
    have hresolved : migrated.canonicalLaneId key = gjc_lane_id record.sdk_session_id := by
      unfold canonicalLaneId
      rw [hnew]
      exact hsame
    refine ⟨record, hrecord, hresolved, ?_⟩
    unfold StateFile.record
    rw [hresolved, hentry hrecord]
  · obtain ⟨record, hrecord⟩ := isSome_iff_exists.mp hlane
    obtain ⟨lane, hmem, hentry⟩ := mem_map.mp (hperm.mem_iff.mp (mem_of_get hrecord))
    obtain rfl : gjc_lane_id lane.2.sdk_session_id = key := congrArg Prod.fst hentry
    have hget : state.lanes.get lane.1 = some lane.2 := get_of_mem hlanes.nodup hmem
    have hcanonical := hcanonical hget
    unfold canonicalLaneId at hcanonical
    cases hfound : migrated.lane_id_aliases.get lane.1 with
    | none =>
      rw [hfound] at hcanonical
      rw [← hcanonical]
      exact hfound
    | some target =>
      rw [hfound] at hcanonical
      have htarget := htargets target (mem_map_of_mem (f := Prod.snd) (mem_of_get hfound))
      rw [← hcanonical]
      exact htarget.1

/-- A file that was migrated is not migrated again. -/
theorem migrate_again (hlanes : Sorted state.lanes) (h : migrateLaneIds gjc_lane_id state = .ok (migrated, changed)) :
    migrateLaneIds gjc_lane_id migrated = .ok (migrated, false) := by
  have hlossless := lossless hlanes h
  obtain ⟨-, -, htargets, -⟩ := migrateLaneIds_ok h
  have hcomplaint : migrated.lane_id_aliases.findSome? migrated.aliasComplaint = none := by
    refine findSome?_eq_none_iff.mpr fun entry hmem => ?_
    obtain ⟨hchain, hlane⟩ := htargets entry.2 (mem_map_of_mem hmem)
    have hkey : entry.1 ∈ migrated.lane_id_aliases.keys := mem_map_of_mem hmem
    have hne : entry.1 ≠ entry.2 := by
      intro heq
      rw [← heq, get_eq_none_iff] at hchain
      exact hchain hkey
    have hfree : migrated.lanes.get entry.1 = none := by
      by_contra hsome
      have hnone := hlossless.disjoint entry.1 (isSome_iff_ne_none.mpr hsome)
      exact get_eq_none_iff.mp hnone hkey
    unfold aliasComplaint
    rw [hfree, hchain, if_neg (by simpa using hne), if_neg (by simp)]
    rw [if_neg (by simpa using ne_none_iff_isSome.mpr hlane)]
  have hcanonical : ∀ lane ∈ migrated.lanes, renamedEntry gjc_lane_id lane = lane := by
    intro lane hmem
    obtain ⟨old, -, rfl⟩ := mem_map.mp (hlossless.lanes.mem_iff.mp hmem)
    rfl
  have hchain : (migrated.lane_id_aliases.values.any fun target =>
      (migrated.lane_id_aliases.get target).isSome) = false :=
    any_eq_false.mpr fun target hmem => by simp [(htargets target hmem).1]
  have hmissing : (migrated.lane_id_aliases.values.any fun target => (migrated.lanes.get target).isNone) = false :=
    any_eq_false.mpr fun target hmem => by simpa using ne_none_iff_isSome.mpr (htargets target hmem).2
  unfold migrateLaneIds
  rw [hcomplaint]
  refine bind_eq_ok.mpr ⟨⟨migrated.lanes, migrated.lane_id_aliases, false⟩,
    run_canonical [] hlossless.sorted hcanonical, ?_⟩
  rw [hchain, hmissing]
  rfl

/-- A migration that succeeds loses no lane and no alias, and is not repeated. -/
theorem migration_lossless (gjc_lane_id : String → String) (state migrated : StateFile) (changed : Bool)
    (hlanes : Sorted state.lanes) (h : migrateLaneIds gjc_lane_id state = .ok (migrated, changed)) :
    Lossless gjc_lane_id state migrated ∧ migrateLaneIds gjc_lane_id migrated = .ok (migrated, false) :=
  ⟨lossless hlanes h, migrate_again hlanes h⟩

end Migrations

namespace Sample

/-- A lane that was registered under some identifier. -/
def registeredAs (session_id lane_id : String) : LaneRecord :=
  RegistrationRequest.newRecord ⟨session_id, none, none, none, none⟩ (failingAt []) lane_id
    "2026-08-23T12:00:00Z"

/-- A file with a lane under an old identifier, and one under the identifier of its session that has an
alias. -/
def oldFile : StateFile :=
  { lanes := [(laneId "t", registeredAs "t" (laneId "t")), ("old", registeredAs "s" "old")]
    lane_id_aliases := [("older", laneId "t")] }

theorem old_file_is_migrated : ∃ migrated, migrateLaneIds laneId oldFile = .ok (migrated, true) ∧
      migrated.canonicalLaneId "old" = laneId "s" ∧ Lossless laneId oldFile migrated ∧
      migrateLaneIds laneId migrated = .ok (migrated, false) := by
  have hsorted : OrdMap.Sorted oldFile.lanes := by
    unfold OrdMap.Sorted
    decide
  exact ⟨_, rfl, rfl, migration_lossless laneId oldFile _ true hsorted rfl⟩

end Sample

end Clawhip.Gjc
