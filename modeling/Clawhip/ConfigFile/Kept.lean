import Clawhip.ConfigFile.Save

/-!
# What a save keeps

A save and another writer share the directory. The save keeps to a contract (`contract`): until it commits, the
active file is as the other writer left it, and when it commits, a backup holds what it replaces. That takes a
revalidation which does not mistake other bytes for the ones that were read; it only compares identities, so bytes
that were written into the same file are lost (`saveWithBackup_keeps`).
-/

namespace Clawhip.ConfigFile

open List Option OrdMap Contract Save Ok Text

/-! ## Names -/

theorem length_le_of_startsWith {name pattern : String} (h : startsWith name pattern = true) :
    pattern.toList.length ≤ name.toList.length :=
  (List.isPrefixOf_iff_prefix.mp h).length_le

theorem length_le_of_afterStart {name pattern rest : String} (h : afterStart name pattern = some rest) :
    pattern.toList.length ≤ name.toList.length := by
  unfold afterStart at h
  split at h
  · next hstart => exact length_le_of_startsWith hstart
  · cases h

/-- The temporary file is not the active file. -/
theorem tempName_ne (call : Call) : call.tempName ≠ call.filename := by
  intro h
  have hlength := congrArg (fun name : String => name.toList.length) h
  unfold Call.tempName at hlength
  simp only [String.toList_append, length_append] at hlength
  have hdot : ".".toList.length = 1 := rfl
  omega

section Rules

variable {lib : Library} {call : Call} {name : String} {bytes : Bytes} {world : World} {P : World → Prop}
  {post : Bool → World → Prop} {active : ActiveConfigState} {identity : FileIdentity} {files : OrdMap String File}
  {is_protected : List FileIdentity} {candidate : BackupCandidate} {created_at : ℤ}

/-- The active file is no legacy backup. -/
theorem ne_of_legacyCreated (h : legacyCreated lib call name = some (some created_at)) : name ≠ call.filename := by
  rintro rfl
  have hroot : afterStart call.filename (call.filename ++ ".bak-") = none := by
    cases hafter : afterStart call.filename (call.filename ++ ".bak-") with
    | none => rfl
    | some rest =>
      have hle := length_le_of_afterStart hafter
      rw [String.toList_append, length_append] at hle
      have hsuffix : ".bak-".toList.length = 5 := rfl
      omega
  have hduplicated : afterStart call.filename ("config." ++ call.filename ++ ".bak-") = none := by
    cases hafter : afterStart call.filename ("config." ++ call.filename ++ ".bak-") with
    | none => rfl
    | some rest =>
      have hle := length_le_of_afterStart hafter
      rw [String.toList_append, String.toList_append, length_append, length_append] at hle
      have hsuffix : ".bak-".toList.length = 5 := rfl
      omega
  unfold legacyCreated parseRootLegacyBackupName parseDuplicatedLegacyBackupName at h
  rw [hroot, hduplicated] at h
  cases h

/-- Stripping what was put around a text. -/
theorem afterStart_append (start rest : String) : afterStart (start ++ rest) start = some rest := by
  unfold afterStart startsWith
  rw [if_pos (by rw [String.toList_append]; exact isPrefixOf_iff_prefix.mpr (prefix_append _ _))]
  rw [String.toList_append, ← String.length_toList, drop_left, String.ofList_toList]

theorem beforeEnd_append (rest ending : String) : beforeEnd (rest ++ ending) ending = some rest := by
  unfold beforeEnd endsWith
  rw [if_pos (by rw [String.toList_append]; exact isSuffixOf_iff_suffix.mpr (suffix_append _ _))]
  have hlength : (rest ++ ending).length - ending.length = rest.toList.length := by
    rw [← String.length_toList, ← String.length_toList, String.toList_append, length_append, Nat.add_sub_cancel]
  rw [hlength, String.toList_append, take_left, String.ofList_toList]

theorem splitOnce_append {before after : String} {separator : Char} (h : separator ∉ before.toList) :
    splitOnce (before ++ String.ofList [separator] ++ after) separator = some (before, after) := by
  have hall : ∀ c ∈ before.toList, decide (c ≠ separator) = true := by
    intro c hc
    refine decide_eq_true ?_
    rintro rfl
    exact h hc
  have htext : (before ++ String.ofList [separator] ++ after).toList = before.toList ++ separator :: after.toList := by
    simp [String.toList_append]
  unfold splitOnce
  rw [htext, dropWhile_append_of_pos hall, takeWhile_append_of_pos hall]
  simp [String.ofList_toList]

/-- A snapshot is not old when it is made. -/
theorem cutoff_lt_of_entryName {timestamp : String} (h : lib.utcBackupTimestamp call.now = some timestamp)
    (hparse : parseManagedBackupName lib (call.entryName lib timestamp bytes) call.filename = some created_at) :
    call.cutoff < created_at := by
  have hname : call.entryName lib timestamp bytes =
      (call.filename ++ ".") ++ ((timestamp ++ "." ++ lib.sha256First8 bytes) ++ ".bak") := by
    unfold Call.entryName
    simp only [String.append_assoc]
  have hsplit : splitOnce (timestamp ++ "." ++ lib.sha256First8 bytes) '.' =
      some (timestamp, lib.sha256First8 bytes) := splitOnce_append (lib.plain _ _ h)
  unfold parseManagedBackupName at hparse
  rw [hname, afterStart_append, bind_some, beforeEnd_append] at hparse
  simp only [bind_eq_bind, bind_some, hsplit, lib.parsed _ _ h] at hparse
  split at hparse
  · cases hparse
  · obtain rfl := some.inj hparse
    unfold Call.cutoff
    omega

/-! ## The contract -/

/-- A managed backup holds some bytes, and is not old. -/
def World.Backed (lib : Library) (call : Call) (world : World) (bytes : Bytes) : Prop :=
  ∃ name backup, world.managed.get name = some backup ∧ backup.bytes = bytes ∧
    ∀ created_at, parseManagedBackupName lib name call.filename = some created_at → call.cutoff < created_at

/-- What holds of the directories at every moment. -/
structure World.Inv (lib : Library) (call : Call) (world : World) : Prop where
  uncommitted : world.replaced = none → world.root.get call.filename = world.outside
  committed : ∀ before, world.replaced = some before → world.settled = true ∧ world.read = some before ∧
    world.outside = before ∧ (world.root.get call.filename).map File.bytes = some call.new_bytes ∧
      ∀ old, before = some old → world.Backed lib call old.bytes
  result : world.result = some true → world.settled = true ∧ world.read = some world.outside

/-- What the other writer leaves as it is. -/
structure World.Steady (call : Call) (world later : World) : Prop where
  managed : later.managed = world.managed
  read : later.read = world.read
  replaced : later.replaced = world.replaced
  settled : later.settled = world.settled
  result : later.result = world.result
  others : ∀ name, name ≠ call.filename → later.root.get name = world.root.get name
  final : world.settled = true → later = world

/-- The last revalidation does not meet a file of the same identity with other bytes. -/
def Meets (call : Call) (request : Request) (world : World) : Prop :=
  match request with
  | .revalidate active =>
    (world.root.get call.filename).map File.identity = active.map File.identity → world.root.get call.filename = active
  | _ => True

theorem steady_refl (world : World) : world.Steady call world := 
  ⟨rfl, rfl, rfl, rfl, rfl, fun _ _ => rfl, fun _ => rfl⟩

theorem World.Steady.trans {later last : World} (h : world.Steady call later) (h' : later.Steady call last) :
    world.Steady call last where
  managed := h'.managed.trans h.managed
  read := h'.read.trans h.read
  replaced := h'.replaced.trans h.replaced
  settled := h'.settled.trans h.settled
  result := h'.result.trans h.result
  others name hname := (h'.others name hname).trans (h.others name hname)
  final hsettled := (h'.final (h.settled.trans hsettled)).trans (h.final hsettled)

/-- The other writer changes the active file. -/
theorem steady_write {file : File} (h : world.settled = false) : world.Steady call
      { world with root := world.root.insert call.filename file, outside := some file } where
  managed := rfl
  read := rfl
  replaced := rfl
  settled := rfl
  result := rfl
  others _ hname := get_insert_ne _ _ hname
  final hsettled := absurd (h.symm.trans hsettled) Bool.false_ne_true

theorem inv_write {file : File} (hinv : world.Inv lib call) (h : world.settled = false) : World.Inv lib call
      { world with root := world.root.insert call.filename file, outside := some file } where
  uncommitted _ := get_insert_self _ _ _
  committed before hbefore := absurd (h.symm.trans (hinv.committed before hbefore).1) Bool.false_ne_true
  result hresult := absurd (h.symm.trans (hinv.result hresult).1) Bool.false_ne_true

theorem disturb_spec (write : Write) (hinv : world.Inv lib call) :
    (disturb call write world).Inv lib call ∧ world.Steady call (disturb call write world) := by
  unfold disturb
  by_cases hsettled : world.settled = true
  · rw [if_pos hsettled]
    exact ⟨hinv, steady_refl world⟩
  · rw [if_neg hsettled]
    have hopen : world.settled = false := Bool.eq_false_iff.mpr hsettled
    cases write with
    | replace file =>
      simp only
      split
      · exact ⟨hinv, steady_refl world⟩
      · exact ⟨inv_write hinv hopen, steady_write hopen⟩
    | rewrite bytes =>
      cases world.root.get call.filename with
      | none => exact ⟨hinv, steady_refl world⟩
      | some file => exact ⟨inv_write hinv hopen, steady_write hopen⟩

/-- What the save keeps to, and what it may rely on. -/
def contract (lib : Library) (call : Call) : Contract (system lib call) where
  inv world := world.Inv lib call
  rely _ world later := world.Steady call later
  allowed _ request _ world := Meets call request world
  refl _ _ := steady_refl _
  trans _ _ _ _ h h' := h.trans h'
  halt _ _ hinv := ⟨hinv, fun _ _ => steady_refl _⟩
  disturb write _ hinv := ⟨(disturb_spec write hinv).1, fun _ => (disturb_spec write hinv).2⟩

/-! ## Answers -/

/-- What the other writer cannot change. -/
def Stable (call : Call) (P : World → Prop) : Prop :=
  ∀ {world later : World}, world.Steady call later → P world → P later

variable {request : Request}

/-- The rule of one request: what is known before it is known when it is answered. -/
theorem ok_request {post : request.Reply → World → Prop} (hstable : Stable call P)
    (hP : P world) (h : ∀ later, P later → later.Inv lib call → ∀ choice, Meets call request later →
      (serve lib call request choice later).1.Inv lib call ∧
        post (serve lib call request choice later).2 (serve lib call request choice later).1) :
    (contract lib call).Ok () (Prog.request request) post world := by
  intro later hsteady hinv choice hmeets
  obtain ⟨hkept, hpost⟩ := h later (hstable hsteady hP) hinv choice hmeets
  exact ⟨hkept, fun other hother => absurd rfl hother, hpost⟩

/-- A request that changes nothing. -/
theorem ok_quiet {post : request.Reply → World → Prop}
    (hquiet : ∀ choice world, (serve lib call request choice world).1 = world) (hstable : Stable call P)
    (hP : P world) (h : ∀ later reply, P later → later.Inv lib call → post reply later) :
    (contract lib call).Ok () (Prog.request request) post world := by
  refine ok_request hstable hP fun later hP hinv choice _ => ?_
  rw [hquiet]
  exact ⟨hinv, h later _ hP hinv⟩

theorem ok_check (hstable : Stable call P) (hP : P world) (h : ∀ later reply, P later → post reply later) :
    (contract lib call).Ok () check post world :=
  ok_quiet (fun _ _ => rfl) hstable hP fun later reply hP _ => h later reply hP

theorem ok_tempIdentity {post : Option FileIdentity → World → Prop} (hstable : Stable call P) (hP : P world)
    (h : ∀ later reply, P later → post reply later) : (contract lib call).Ok () tempIdentity post world :=
  ok_quiet (fun _ _ => rfl) hstable hP fun later reply hP _ => h later reply hP

theorem ok_activeIdentity {post : Option FileIdentity → World → Prop} (hstable : Stable call P) (hP : P world)
    (h : ∀ later reply, P later → post reply later) : (contract lib call).Ok () activeIdentity post world :=
  ok_quiet (fun _ _ => rfl) hstable hP fun later reply hP _ => h later reply hP

/-! ## Snapshots -/

/-- The active file was read and not replaced. -/
structure World.Reading (active : ActiveConfigState) (world : World) : Prop where
  read : world.read = some active
  replaced : world.replaced = none

theorem stable_reading (active : ActiveConfigState) : Stable call (World.Reading active) :=
  fun hsteady h => ⟨hsteady.read.trans h.read, hsteady.replaced.trans h.replaced⟩

/-- Nothing that is done to the backups matters before the commit. -/
theorem World.Inv.managed (hinv : world.Inv lib call) (h : world.replaced = none)
    (managed : OrdMap String File) : World.Inv lib call { world with managed := managed } where
  uncommitted := hinv.uncommitted
  committed before hbefore := by
    have hnone : world.replaced = some before := hbefore
    rw [h] at hnone
    cases hnone
  result := hinv.result

structure World.Snapshot (active : ActiveConfigState) (name : String) (backup : File) (world : World) : Prop where
  reading : world.Reading active
  backup : world.managed.get name = some backup

theorem stable_snapshot (active : ActiveConfigState) (name : String) (backup : File) :
    Stable call (World.Snapshot active name backup) :=
  fun hsteady h => ⟨stable_reading active hsteady h.reading, by rw [hsteady.managed]; exact h.backup⟩

theorem ok_createBackup (hP : world.Reading active) (hfalse : ∀ later, post false later)
    (h : ∀ later identity, later.Snapshot active name ⟨identity, []⟩ → post true later) :
    (contract lib call).Ok () (createBackup name) post world := by
  refine ok_request (stable_reading active) hP fun later hP hinv choice _ => ?_
  by_cases hfails : (choice.fails || (later.managed.get name).isSome) = true
  · simp only [serve, if_pos hfails]
    exact ⟨hinv, hfalse later⟩
  · simp only [serve, if_neg hfails]
    refine ⟨hinv.managed hP.replaced _, h _ choice.identity ⟨⟨hP.read, hP.replaced⟩, ?_⟩⟩
    exact get_insert_self _ _ _

theorem ok_writeBackup (hP : world.Snapshot active name ⟨identity, []⟩) (h : ∀ later ok, later.Reading active →
      (ok = true → later.managed.get name = some ⟨identity, bytes⟩) → post ok later) :
    (contract lib call).Ok () (writeBackup name bytes) post world := by
  refine ok_request (stable_snapshot active name _) hP fun later hP hinv choice _ => ?_
  simp only [serve, hP.backup]
  refine ⟨hinv.managed hP.reading.replaced _, h _ _ ⟨hP.reading.read, hP.reading.replaced⟩ fun hok => ?_⟩
  have hfails : choice.fails = false := by simpa using hok
  rw [hfails, if_neg Bool.false_ne_true]
  exact get_insert_self _ _ _

theorem ok_unlinkBackup {post : Unit → World → Prop} (hP : world.Reading active) (h : ∀ later, post () later) :
    (contract lib call).Ok () (unlinkBackup name) post world := by
  refine ok_request (stable_reading active) hP fun later hP hinv choice _ => ?_
  by_cases hfails : choice.fails = true
  · simp only [serve, if_pos hfails]
    exact ⟨hinv, h later⟩
  · simp only [serve, if_neg hfails]
    exact ⟨hinv.managed hP.replaced _, h _⟩

/-- The snapshot of what was read is there when it was made. -/
theorem ok_createManagedSnapshot (bytes : Bytes) (hP : world.Reading active) :
    (contract lib call).Ok () (createManagedSnapshot lib call bytes)
      (fun ok later => ok = true → later.Reading active ∧ later.Backed lib call bytes) world := by
  have hfailed : ∀ {later : World}, false = true → later.Reading active ∧ later.Backed lib call bytes :=
    fun h => absurd h Bool.false_ne_true
  unfold createManagedSnapshot
  cases htimestamp : lib.utcBackupTimestamp call.now with
  | none => exact hfailed
  | some timestamp =>
    refine bind (ok_check (stable_reading active) hP fun later ok hP => ?_)
    cases ok with
    | false => exact hfailed
    | true =>
      refine bind (ok_createBackup hP (fun later => hfailed) fun later identity hP => ?_)
      refine bind (ok_writeBackup hP fun later ok hP hwritten => ?_)
      cases ok with
      | false => exact bind (ok_unlinkBackup hP fun later => hfailed)
      | true => exact fun _ => ⟨hP, _, _, hwritten rfl, rfl, fun _ hparse => cutoff_lt_of_entryName htimestamp hparse⟩

/-! ## Commits -/

/-- What was read is backed up. -/
structure World.Ready (lib : Library) (call : Call) (active : ActiveConfigState) (world : World) : Prop where
  reading : world.Reading active
  backed : ∀ old, active = some old → world.Backed lib call old.bytes

/-- The temporary file holds some bytes. -/
structure World.Staged (lib : Library) (call : Call) (active : ActiveConfigState) (temp : File) (world : World) :
    Prop where
  ready : world.Ready lib call active
  temp : world.root.get call.tempName = some temp

/-- The last revalidation found what was read. -/
structure World.Settled (lib : Library) (call : Call) (active : ActiveConfigState) (temp : File) (world : World) :
    Prop where
  staged : world.Staged lib call active temp
  settled : world.settled = true
  active : world.root.get call.filename = active

/-- The save is over but for its result. -/
structure World.Done (world : World) : Prop where
  settled : world.settled = true
  read : world.read = some world.outside

theorem stable_ready (active : ActiveConfigState) : Stable call (World.Ready lib call active) := by
  intro world later hsteady h
  refine ⟨stable_reading active hsteady h.reading, fun old hold => ?_⟩
  obtain ⟨name, backup, hget, hbackup⟩ := h.backed old hold
  exact ⟨name, backup, by rw [hsteady.managed]; exact hget, hbackup⟩

theorem stable_staged (active : ActiveConfigState) (temp : File) :
    Stable call (World.Staged lib call active temp) := fun hsteady h =>
  ⟨stable_ready active hsteady h.ready, (hsteady.others _ (tempName_ne call)).trans h.temp⟩

theorem stable_settled (active : ActiveConfigState) (temp : File) :
    Stable call (World.Settled lib call active temp) := by
  intro world later hsteady h
  rw [hsteady.final h.settled]
  exact h

theorem stable_done : Stable call World.Done := by
  intro world later hsteady h
  rw [hsteady.final h.settled]
  exact h

/-- What is done to the temporary file does not matter before the commit. -/
theorem World.Inv.temp (hinv : world.Inv lib call) (h : world.replaced = none) {root : OrdMap String File}
    (hroot : root.get call.filename = world.root.get call.filename) :
    World.Inv lib call { world with root := root } where
  uncommitted hreplaced := hroot.trans (hinv.uncommitted hreplaced)
  committed before hbefore := by
    have hnone : world.replaced = some before := hbefore
    rw [h] at hnone
    cases hnone
  result := hinv.result

theorem ok_createTemp (hP : world.Ready lib call active) (hfalse : ∀ later, post false later)
    (h : ∀ later identity, later.Staged lib call active ⟨identity, []⟩ → post true later) :
    (contract lib call).Ok () createTemp post world := by
  refine ok_request (stable_ready active) hP fun later hP hinv choice _ => ?_
  by_cases hfails : (choice.fails || (later.root.get call.tempName).isSome) = true
  · simp only [serve, if_pos hfails]
    exact ⟨hinv, hfalse later⟩
  · simp only [serve, if_neg hfails]
    refine ⟨hinv.temp hP.reading.replaced (get_insert_ne _ _ (tempName_ne call).symm), ?_⟩
    refine h _ choice.identity ⟨⟨⟨hP.reading.read, hP.reading.replaced⟩, hP.backed⟩, ?_⟩
    exact get_insert_self _ _ _

theorem ok_writeTemp (hP : world.Staged lib call active ⟨identity, []⟩)
    (hfalse : ∀ later, later.Ready lib call active → post false later)
    (h : ∀ later, later.Staged lib call active ⟨identity, bytes⟩ → post true later) :
    (contract lib call).Ok () (writeTemp bytes) post world := by
  refine ok_request (stable_staged active _) hP fun later hP hinv choice _ => ?_
  simp only [serve, hP.temp]
  refine ⟨hinv.temp hP.ready.reading.replaced (get_insert_ne _ _ (tempName_ne call).symm), ?_⟩
  have hready : ∀ root, World.Ready lib call active { later with root := root } := fun _ =>
    ⟨⟨hP.ready.reading.read, hP.ready.reading.replaced⟩, hP.ready.backed⟩
  cases hfails : choice.fails with
  | true => exact hfalse _ (hready _)
  | false =>
    rw [if_neg Bool.false_ne_true]
    exact h _ ⟨hready _, get_insert_self _ _ _⟩

theorem ok_abandon (hP : world.Ready lib call active) (hfalse : ∀ later, post false later) :
    (contract lib call).Ok () abandon post world := by
  have hunlink : (contract lib call).Ok () unlinkTemp (fun _ later => post false later) world := by
    refine ok_request (stable_ready active) hP fun later hP hinv choice _ => ?_
    by_cases hfails : choice.fails = true
    · simp only [serve, if_pos hfails]
      exact ⟨hinv, hfalse later⟩
    · simp only [serve, if_neg hfails]
      exact ⟨hinv.temp hP.reading.replaced (get_erase_ne _ (tempName_ne call).symm), hfalse _⟩
  exact bind hunlink

variable {temp : File}

/-- The revalidation that goes well settles what is replaced. -/
theorem ok_revalidate (hP : world.Staged lib call active temp)
    (hfalse : ∀ later, later.Ready lib call active → post false later)
    (h : ∀ later, later.Settled lib call active temp → post true later) :
    (contract lib call).Ok () (revalidate active) post world := by
  refine ok_request (stable_staged active temp) hP fun later hP hinv choice hmeets => ?_
  simp only [serve]
  split
  · exact ⟨hinv, hfalse later hP.ready⟩
  · next hsame =>
    have hidentity : (later.root.get call.filename).map File.identity = active.map File.identity := by
      simp only [Bool.or_eq_true, Bool.not_eq_true', beq_eq_false_iff_ne, not_or, not_not] at hsame
      exact hsame.2
    have hactive := hmeets hidentity
    refine ⟨⟨hinv.uncommitted, fun before hbefore => ?_, fun hresult => ⟨rfl, (hinv.result hresult).2⟩⟩, ?_⟩
    · have hnone : later.replaced = some before := hbefore
      rw [hP.ready.reading.replaced] at hnone
      cases hnone
    · exact h _ ⟨⟨⟨⟨hP.ready.reading.read, hP.ready.reading.replaced⟩, hP.ready.backed⟩, hP.temp⟩, rfl, hactive⟩

/-- The commit. -/
theorem ok_rename (hP : world.Settled lib call active temp)
    (hbytes : temp.bytes = call.new_bytes) (hfalse : ∀ later, later.Ready lib call active → post false later)
    (h : ∀ later, later.Done → post true later) : (contract lib call).Ok () rename post world := by
  refine ok_request (stable_settled active temp) hP fun later hP hinv choice _ => ?_
  simp only [serve, hP.staged.temp]
  have houtside : later.outside = active := (hinv.uncommitted hP.staged.ready.reading.replaced).symm.trans hP.active
  split
  · exact ⟨hinv, hfalse later hP.staged.ready⟩
  · refine ⟨⟨fun hnone => (by cases hnone), fun before hbefore => ?_, fun hresult => ?_⟩, h _ ⟨hP.settled, ?_⟩⟩
    · obtain rfl : active = before := hP.active.symm.trans (some.inj hbefore)
      refine ⟨hP.settled, hP.staged.ready.reading.read, houtside, ?_, hP.staged.ready.backed⟩
      rw [get_insert_self, map_some, hbytes]
    · exact ⟨hP.settled, (hinv.result hresult).2⟩
    · rw [houtside]
      exact hP.staged.ready.reading.read

theorem World.Settled.ready (h : world.Settled lib call active temp) : world.Ready lib call active := h.staged.ready

/-- A commit that goes well replaces what was read. -/
theorem ok_commitConfigBytesViaTemp (hP : world.Ready lib call active) :
    (contract lib call).Ok () (commitConfigBytesViaTemp call active)
      (fun ok later => ok = true → later.Done) world := by
  have hfailed : ∀ later : World, false = true → later.Done := fun _ h => absurd h Bool.false_ne_true
  have habandoned : ∀ {later : World}, later.Ready lib call active →
      (contract lib call).Ok () abandon (fun ok last => ok = true → last.Done) later :=
    fun hP => ok_abandon hP hfailed
  refine bind (ok_check (stable_ready active) hP fun later ok hP => ?_)
  cases ok with
  | false => exact hfailed later
  | true =>
  refine bind (ok_createTemp hP hfailed fun later identity hP => ?_)
  refine bind (ok_writeTemp hP (fun later hP => habandoned hP) fun later hP => ?_)
  refine bind (ok_tempIdentity (stable_staged active _) hP fun later temp_identity hP => ?_)
  cases temp_identity with
  | none => exact habandoned hP.ready
  | some temp_identity =>
  refine bind (ok_check (stable_staged active _) hP fun later ok hP => ?_)
  cases ok with
  | false => exact habandoned hP.ready
  | true =>
  refine bind (ok_revalidate hP (fun later hP => habandoned hP) fun later hP => ?_)
  refine bind (ok_tempIdentity (stable_settled active _) hP fun later found hP => ?_)
  cases found with
  | none => exact habandoned hP.ready
  | some found =>
  simp only
  split
  · exact habandoned hP.ready
  · refine bind (ok_rename hP rfl (fun later hP => habandoned hP) fun later hP => ?_)
    exact bind (ok_activeIdentity stable_done hP fun later committed hP _ => hP)

/-! ## Retention -/

/-- A candidate is what its name says, and not the active file. -/
structure BackupCandidate.Named (lib : Library) (call : Call) (candidate : BackupCandidate) : Prop where
  legacy : candidate.origin = .rootLegacy → candidate.entry_name ≠ call.filename
  managed : candidate.origin = .managed →
    parseManagedBackupName lib candidate.entry_name call.filename = some candidate.created_at

theorem mem_candidatesOf {origin : BackupOrigin} {created : String → Option (Option ℤ)} :
    ∀ {candidates : List BackupCandidate}, candidatesOf is_protected origin created files = some candidates →
      ∀ candidate ∈ candidates, candidate.origin = origin ∧
        created candidate.entry_name = some (some candidate.created_at) := by
  induction files with
  | nil =>
    intro candidates h candidate hmem
    obtain rfl := some.inj h
    exact absurd hmem not_mem_nil
  | cons entry files ih =>
    obtain ⟨name, file⟩ := entry
    intro candidates h candidate hmem
    unfold candidatesOf at h
    cases hcreated : created name with
    | none => simp [hcreated] at h
    | some created_at =>
      cases hrest : candidatesOf is_protected origin created files with
      | none => simp [hcreated, hrest] at h
      | some rest =>
        simp only [hcreated, hrest, bind_eq_bind, bind_some, Option.pure_def] at h
        cases created_at with
        | none =>
          obtain rfl := some.inj h
          exact ih hrest candidate hmem
        | some created_at =>
          simp only at h
          split at h
          · obtain rfl := some.inj h
            exact ih hrest candidate hmem
          · obtain rfl := some.inj h
            rcases mem_cons.mp hmem with rfl | hmem
            · exact ⟨rfl, hcreated⟩
            · exact ih hrest candidate hmem

theorem named_of_collectCleanupCandidates {candidates : List BackupCandidate}
    (h : collectCleanupCandidates lib call is_protected world = some candidates) :
    ∀ candidate ∈ candidates, candidate.Named lib call := by
  obtain ⟨legacy, hlegacy, h⟩ := bind_eq_some_iff.mp h
  obtain ⟨managed, hmanaged, h⟩ := bind_eq_some_iff.mp h
  obtain rfl := some.inj h
  intro candidate hmem
  rcases mem_append.mp hmem with hmem | hmem
  · obtain ⟨horigin, hcreated⟩ := mem_candidatesOf hlegacy candidate hmem
    exact ⟨fun _ => ne_of_legacyCreated hcreated, fun hother => (by rw [horigin] at hother; cases hother)⟩
  · obtain ⟨horigin, hcreated⟩ := mem_candidatesOf hmanaged candidate hmem
    exact ⟨fun hother => (by rw [horigin] at hother; cases hother), fun _ => some.inj hcreated⟩

theorem get_deleteVerified_ne (h : name ≠ candidate.entry_name) :
    (deleteVerified candidate is_protected files).get name = files.get name := by
  unfold deleteVerified
  cases files.get candidate.entry_name with
  | none => rfl
  | some file =>
    simp only
    split
    · exact get_erase_ne _ h
    · rfl

/-- An old candidate is neither the active file nor the backup of what was replaced. -/
theorem ok_deleteCandidate (hP : world.Done) (hnamed : candidate.Named lib call)
    (hold : candidate.created_at ≤ call.cutoff) (h : ∀ later ok, later.Done → post ok later) :
    (contract lib call).Ok () (deleteCandidate candidate is_protected) post world := by
  refine ok_request stable_done hP fun later hP hinv choice _ => ?_
  simp only [serve]
  split
  · exact ⟨hinv, h later _ hP⟩
  · cases horigin : candidate.origin with
    | rootLegacy =>
      have hactive : (deleteVerified candidate is_protected later.root).get call.filename =
          later.root.get call.filename := get_deleteVerified_ne (hnamed.legacy horigin).symm
      refine ⟨⟨fun hreplaced => hactive.trans (hinv.uncommitted hreplaced), fun before hbefore => ?_, hinv.result⟩,
        h _ _ ⟨hP.settled, hP.read⟩⟩
      obtain ⟨hsettled, hread, houtside, hbytes, hbacked⟩ := hinv.committed before hbefore
      exact ⟨hsettled, hread, houtside, (congrArg _ hactive).trans hbytes, hbacked⟩
    | managed =>
      refine ⟨⟨hinv.uncommitted, fun before hbefore => ?_, hinv.result⟩, h _ _ ⟨hP.settled, hP.read⟩⟩
      obtain ⟨hsettled, hread, houtside, hbytes, hbacked⟩ := hinv.committed before hbefore
      refine ⟨hsettled, hread, houtside, hbytes, fun old hold' => ?_⟩
      obtain ⟨name, backup, hget, hsame, hyoung⟩ := hbacked old hold'
      refine ⟨name, backup, ?_, hsame, hyoung⟩
      have hne : name ≠ candidate.entry_name := by
        rintro rfl
        have hlt := hyoung _ (hnamed.managed horigin)
        omega
      exact (get_deleteVerified_ne hne).trans hget

theorem ok_cleanupGo {keep_from : ℕ} (candidates : List (BackupCandidate × ℕ)) :
    ∀ {world : World}, world.Done → (∀ placed ∈ candidates, placed.1.Named lib call) →
      (contract lib call).Ok () (cleanupGo call is_protected keep_from candidates)
        (fun _ later => later.Done) world := by
  induction candidates with
  | nil => exact fun hP _ => hP
  | cons placed candidates ih =>
    obtain ⟨candidate, index⟩ := placed
    intro world hP hnamed
    have hrest := fun placed hplaced => hnamed placed (mem_cons_of_mem _ hplaced)
    unfold cleanupGo
    split
    · next hold =>
      refine bind (ok_check stable_done hP fun later ok hP => ?_)
      cases ok with
      | false => exact hP
      | true =>
        refine bind (ok_deleteCandidate hP (hnamed _ mem_cons_self) hold.2 fun later ok hP => ?_)
        cases ok with
        | false => exact hP
        | true => exact ih hP hrest
    · exact ih hP hrest

/-- The retention leaves the save done. -/
theorem ok_cleanupConfigBackups (hP : world.Done) :
    (contract lib call).Ok () (cleanupConfigBackups call is_protected) (fun _ later => later.Done) world := by
  refine bind (ok_check stable_done hP fun later ok hP => ?_)
  cases ok with
  | false => exact hP
  | true =>
    have hlist : (contract lib call).Ok () (listBackups is_protected)
        (fun reply last => last.Done ∧ ∀ candidates, reply = some candidates →
          ∀ candidate ∈ candidates, candidate.Named lib call) later := by
      refine ok_request stable_done hP fun last hP hinv choice _ => ?_
      refine ⟨hinv, hP, fun candidates hreply => ?_⟩
      have hreply : (if choice.fails then none else collectCleanupCandidates lib call is_protected last) =
          some candidates := hreply
      by_cases hfails : choice.fails = true
      · rw [if_pos hfails] at hreply
        cases hreply
      · rw [if_neg hfails] at hreply
        exact named_of_collectCleanupCandidates hreply
    refine bind (hlist.mono fun reply last hreply => ?_)
    cases reply with
    | none => exact hreply.1
    | some candidates =>
      refine ok_cleanupGo _ hreply.1 fun placed hplaced => ?_
      have hmem := fst_mem_of_mem_zipIdx hplaced
      exact hreply.2 candidates rfl placed.1 (mem_mergeSort.mp hmem)

/-! ## The save -/

/-- Nothing was read yet. -/
structure World.Fresh (world : World) : Prop where
  replaced : world.replaced = none
  result : world.result = none

theorem stable_fresh : Stable call World.Fresh :=
  fun hsteady h => ⟨hsteady.replaced.trans h.replaced, hsteady.result.trans h.result⟩

theorem ok_readActive {post : Option ActiveConfigState → World → Prop} (hP : world.Fresh)
    (hnone : ∀ later, post none later) (h : ∀ later active, later.Reading active →
      (active.map File.bytes = some call.new_bytes → later.Done) → post (some active) later) :
    (contract lib call).Ok () readActive post world := by
  refine ok_request stable_fresh hP fun later hP hinv choice _ => ?_
  simp only [serve]
  split
  · exact ⟨hinv, hnone later⟩
  · have hactive := hinv.uncommitted hP.replaced
    refine ⟨⟨hinv.uncommitted, fun before hbefore => ?_, fun hresult => ?_⟩, ?_⟩
    · exact absurd (hP.replaced.symm.trans hbefore) (by simp)
    · exact absurd (hP.result.symm.trans hresult) (by simp)
    · refine h _ _ ⟨rfl, hP.replaced⟩ fun hcurrent => ⟨?_, congrArg some hactive⟩
      exact beq_iff_eq.mpr hcurrent

/-- The commit and the retention of a save, with and without a snapshot. -/
theorem ok_commitAndRetain {active : Option File} (hP : world.Ready lib call active) :
    (contract lib call).Ok () (do
      if !(← check) then return false
      if !(← commitConfigBytesViaTemp call active) then return false
      if !(← check) then return false
      let some identity ← activeIdentity | return false
      let is_protected := (active.map File.identity).toList
      cleanupConfigBackups call
        (if is_protected.contains identity then is_protected else is_protected ++ [identity]))
      (fun ok later => ok = true → later.Done) world := by
  have hfailed : ∀ later : World, false = true → later.Done := fun _ h => absurd h Bool.false_ne_true
  refine bind (ok_check (stable_ready active) hP fun later ok hP => ?_)
  cases ok with
  | false => exact hfailed later
  | true =>
  refine bind ((ok_commitConfigBytesViaTemp hP).mono fun ok later hdone => ?_)
  cases ok with
  | false => exact hfailed later
  | true =>
  refine bind (ok_check stable_done (hdone rfl) fun later ok hP => ?_)
  cases ok with
  | false => exact hfailed later
  | true =>
  refine bind (ok_activeIdentity stable_done hP fun later identity hP => ?_)
  cases identity with
  | none => exact hfailed later
  | some identity => exact (ok_cleanupConfigBackups hP).mono fun _ _ hdone _ => hdone

/-- A save that goes well replaced what it read, or had nothing to do. -/
theorem ok_saveWithBackup (hP : world.Fresh) :
    (contract lib call).Ok () (saveWithBackup lib call) (fun ok later => ok = true → later.Done) world := by
  have hfailed : ∀ later : World, false = true → later.Done := fun _ h => absurd h Bool.false_ne_true
  refine bind (ok_check stable_fresh hP fun later ok hP => ?_)
  cases ok with
  | false => exact hfailed later
  | true =>
  refine bind (ok_readActive hP hfailed fun later active hP hcurrent => ?_)
  simp only
  split
  · next hsame =>
    refine bind (ok_check stable_done (hcurrent hsame) fun later ok hP => ?_)
    cases ok with
    | false => exact hfailed later
    | true => exact (ok_cleanupConfigBackups hP).mono fun _ _ hdone _ => hdone
  · refine bind (ok_check (stable_reading active) hP fun later ok hP => ?_)
    cases ok with
    | false => exact hfailed later
    | true =>
    cases active with
    | none => exact ok_commitAndRetain ⟨hP, fun old hold => by cases hold⟩
    | some old =>
      refine bind ((ok_createManagedSnapshot old.bytes hP).mono fun ok later hsnapshot => ?_)
      cases ok with
      | false => exact hfailed later
      | true =>
        obtain ⟨hreading, hbacked⟩ := hsnapshot rfl
        refine ok_commitAndRetain ⟨hreading, fun old' hold => ?_⟩
        obtain rfl := some.inj hold
        exact hbacked

theorem ok_process (hP : world.Fresh) : (contract lib call).Ok () (process lib call) (fun _ _ => True) world := by
  refine bind ((ok_saveWithBackup hP).mono fun ok later hdone => ?_)
  have hstable : Stable call fun world => ok = true → world.Done := fun hsteady h hok => stable_done hsteady (h hok)
  refine ok_request hstable hdone fun later hdone hinv choice _ => ⟨?_, trivial⟩
  refine ⟨hinv.uncommitted, fun before hbefore => hinv.committed before hbefore, fun hresult => ?_⟩
  have hdone := hdone (some.inj hresult)
  exact ⟨hdone.settled, hdone.read⟩

/-- What a save guarantees of its directories: the active file is as the other writer left it, or it holds the new
bytes and a managed backup holds the ones that they replaced; and what the other writer did after the save had read
the file is left in place, and not reported as saved. -/
structure World.Kept (call : Call) (world : World) : Prop where
  active : world.replaced = none → world.root.get call.filename = world.outside
  replaced : ∀ before, world.replaced = some before →
    (world.root.get call.filename).map File.bytes = some call.new_bytes ∧ ∀ old, before = some old →
        ∃ name backup, world.managed.get name = some backup ∧ backup.bytes = old.bytes
  changed : ∀ active, world.read = some active → world.outside ≠ active →
    world.result ≠ some true ∧ world.root.get call.filename = world.outside

theorem World.Inv.kept (hinv : world.Inv lib call) : world.Kept call where
  active := hinv.uncommitted
  replaced before hbefore := by
    obtain ⟨-, -, -, hbytes, hbacked⟩ := hinv.committed before hbefore
    refine ⟨hbytes, fun old hold => ?_⟩
    obtain ⟨name, backup, hget, hsame, -⟩ := hbacked old hold
    exact ⟨name, backup, hget, hsame⟩
  changed active hread hchanged := by
    constructor
    · intro hresult
      have houtside := (hinv.result hresult).2
      exact hchanged (some.inj (houtside.symm.trans hread))
    · cases hreplaced : world.replaced with
      | none => exact hinv.uncommitted hreplaced
      | some before =>
        obtain ⟨-, hbefore, houtside, -⟩ := hinv.committed before hreplaced
        exact absurd (houtside.trans (some.inj (hbefore.symm.trans hread))) hchanged

/-- In every run of a save beside another writer, with any step failing and the process stopping anywhere, nothing
is lost as long as the last revalidation does not meet a file of the same identity with other bytes. -/
theorem saveWithBackup_keeps (lib : Library) (call : Call) (root managed : OrdMap String File)
    (moves : List (Move Unit Choice Write)) (hmoves : (system lib call).machine.Along
      (fun threads => threads.Admits fun _ request _ world => Meets call request world)
      (start lib call root managed) moves) :
    ((system lib call).machine.run (start lib call root managed) moves).world.Kept call := by
  have hstart : (contract lib call).Holds (start lib call root managed) := by
    refine ⟨⟨fun _ => rfl, fun before hbefore => ?_, fun hresult => ?_⟩, fun _ => ok_process ⟨rfl, rfl⟩⟩
    · exact absurd hbefore (by simp [start])
    · exact absurd hresult (by simp [start])
  exact (hstart.run hmoves).inv.kept

end Rules

namespace Sample

/-- One second and its text. -/
def noon : ℤ := 1800000000000000000

/-- Formatting and parsing of that second, and a digest. -/
def library : Library where
  utcBackupTimestamp now := if now = noon then some "20270115T080000Z" else none
  parseTime format text :=
    if format = "[year][month][day]T[hour][minute][second]Z" ∧ text = "20270115T080000Z" then some noon else none
  sha256First8 _ := "6b86b273"
  plain now text h := by
    split at h
    · obtain rfl := Option.some.inj h
      decide
    · cases h
  parsed now text h := by
    split at h
    · next hnow =>
      obtain rfl := Option.some.inj h
      rw [if_pos ⟨rfl, rfl⟩, hnow]
      rfl
    · cases h

def call : Call := ⟨"config.toml", [2], noon, 7⟩

/-- A configuration that is saved before. -/
def root : OrdMap String File := [("config.toml", ⟨⟨1, 10⟩, [1]⟩)]

/-- A step that goes well; new files get this identity. -/
def goes (inode : ℕ) : Move Unit Choice Write := .run () ⟨false, ⟨1, inode⟩, 0⟩

/-- The save up to its commit, with what the other writer does after the active file was read. -/
def moves (writes : List Write) : List (Move Unit Choice Write) :=
  [goes 0, goes 0] ++ writes.map Move.disturb ++
    [goes 0, goes 0, goes 11, goes 0, goes 0, goes 0, goes 12] ++ List.replicate 6 (goes 0)

/-- The condition of a move, as a check. -/
def meets (threads : Threads Unit Request.Reply World) : Move Unit Choice Write → Bool
  | .run who _ =>
    match threads.programs who with
    | .ask (.revalidate active) _ => threads.world.root.get call.filename == active
    | _ => true
  | _ => true

theorem admits_of_meets (threads : Threads Unit Request.Reply World) (move : Move Unit Choice Write)
    (h : meets threads move = true) : threads.Admits (fun _ request _ world => Meets call request world) move := by
  cases move with
  | run who choice =>
    simp only [meets, Threads.Admits] at h ⊢
    cases hprogram : threads.programs who with
    | pure value => exact trivial
    | ask request next =>
      rw [hprogram] at h
      cases request with
      | revalidate active => exact fun _ => beq_iff_eq.mp h
      | _ => exact trivial
  | stop who | disturb write => exact trivial

theorem save_keeps_the_old_bytes :
    ((system library call).machine.run (start library call root []) (moves [])).world.Kept call :=
  saveWithBackup_keeps library call root [] (moves [])
    ((system library call).machine.along_of_check admits_of_meets (by decide +kernel))

/-- Bytes that the other writer puts into the file that was read are replaced. -/
theorem rewritten_bytes_are_lost : ¬ ∀ moves : List (Move Unit Choice Write),
      ((system library call).machine.run (start library call root []) moves).world.Kept call := by
  intro h
  have hread : ((system library call).machine.run (start library call root [])
      (moves [.rewrite [3]])).world.read = some (some ⟨⟨1, 10⟩, [1]⟩) := by decide +kernel
  have houtside : ((system library call).machine.run (start library call root [])
      (moves [.rewrite [3]])).world.outside = some ⟨⟨1, 10⟩, [3]⟩ := by decide +kernel
  have hactive : ((system library call).machine.run (start library call root [])
      (moves [.rewrite [3]])).world.root.get call.filename = some ⟨⟨1, 12⟩, [2]⟩ := by decide +kernel
  have hleft := ((h (moves [.rewrite [3]])).changed _ hread (by rw [houtside]; simp)).2
  rw [hactive, houtside] at hleft
  simp at hleft

end Sample

end Clawhip.ConfigFile
