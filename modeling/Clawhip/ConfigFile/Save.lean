import Clawhip.Lib.OrdMap
import Clawhip.Lib.Program
import Clawhip.Lib.Text

/-!
# Saving the configuration

`save_with_backup` of `src/config.rs`, as a program that asks the file system, and the directories that answer it.
Every step may fail, and the process may stop after any of them; another writer may replace the active file or
rewrite it in place until the last revalidation is over. Checks of directories, opening them and hooks are one step
that succeeds or fails.
-/

namespace Clawhip.ConfigFile

/-- The contents of a file. -/
abbrev Bytes := List UInt8

structure FileIdentity where
  device : ℕ
  inode : ℕ
deriving DecidableEq

/-- A regular file. -/
structure File where
  identity : FileIdentity
  bytes : Bytes
deriving DecidableEq

/-! ## Backups -/

/-- What is taken from libraries: formatting a point in time, in nanoseconds, to the second, parsing one with a
description, and the digest of a file. -/
structure Library where
  utcBackupTimestamp : ℤ → Option String
  parseTime : String → String → Option ℤ
  sha256First8 : Bytes → String
  /-- The text of a point in time has no dot, and is parsed to the second. -/
  plain : ∀ now text, utcBackupTimestamp now = some text → '.' ∉ text.toList
  parsed : ∀ now text, utcBackupTimestamp now = some text →
    parseTime "[year][month][day]T[hour][minute][second]Z" text = some (now / 1000000000 * 1000000000)

inductive BackupOrigin where
  | rootLegacy
  | managed
deriving DecidableEq

def BackupOrigin.retentionRank : BackupOrigin → ℕ
  | rootLegacy => 0
  | managed => 1

structure BackupCandidate where
  origin : BackupOrigin
  entry_name : String
  created_at : ℤ
  identity : FileIdentity

/-- `str::split_once`. -/
def splitOnce (text : String) (separator : Char) : Option (String × String) :=
  match text.toList.dropWhile (· ≠ separator) with
  | [] => none
  | _ :: rest => some (String.ofList (text.toList.takeWhile (· ≠ separator)), String.ofList rest)

/-- `str::split_at`, unless it panics because no character starts there. -/
def splitAt : List Char → ℕ → Option (List Char × List Char)
  | text, 0 => some ([], text)
  | [], _ + 1 => none
  | c :: text, n + 1 =>
    if c.utf8Size ≤ n + 1 then
      (splitAt text (n + 1 - c.utf8Size)).map fun (before, after) => (c :: before, after)
    else none

section Names

variable (lib : Library) (name filename : String)

def parseManagedBackupName : Option ℤ := do
  let rest ← (Text.afterStart name (filename ++ ".")).bind (Text.beforeEnd · ".bak")
  let (timestamp, hash) ← splitOnce rest '.'
  if hash.utf8ByteSize ≠ 8 ||
      !hash.toList.all fun c => c.isDigit || ('a' ≤ c.toLower && c.toLower ≤ 'f') then none
  else lib.parseTime "[year][month][day]T[hour][minute][second]Z" timestamp

/-- The loop of `parse_root_legacy_backup_name`; `none` where it panics. -/
def parseRootLegacyGo (suffix : String) : List (ℕ × String) → Option (Option ℤ)
  | [] => some none
  | (length, format) :: formats =>
    if suffix.utf8ByteSize < length then parseRootLegacyGo suffix formats
    else do
      let (label, timestamp) ← splitAt suffix.toList (suffix.utf8ByteSize - length)
      match lib.parseTime format (String.ofList timestamp) with
      | some created_at => return if label.isEmpty then some created_at else none
      | none => parseRootLegacyGo suffix formats

def parseRootLegacyBackupName : Option (Option ℤ) :=
  match Text.afterStart name (filename ++ ".bak-") with
  | none => some none
  | some suffix => parseRootLegacyGo lib suffix
      [(16, "[year][month][day]T[hour][minute][second]Z"), (14, "[year][month][day]T[hour][minute]Z"),
        (8, "[year][month][day]")]

def parseDuplicatedLegacyBackupName : Option ℤ := do
  let timestamp ← Text.afterStart name ("config." ++ filename ++ ".bak-")
  lib.parseTime "[year]-[month]-[day]-[hour][minute]" timestamp

end Names

/-- What a call of `save_with_backup` is given: the name of the active file, the new contents, the time, and the
process that it runs in. -/
structure Call where
  filename : String
  new_bytes : Bytes
  now : ℤ
  process : ℕ

namespace Call

variable (lib : Library) (call : Call)

/-- The name of the temporary file. -/
def tempName : String := "." ++ call.filename ++ ".tmp." ++ toString call.process

/-- The name of the snapshot of some bytes. -/
def entryName (timestamp : String) (bytes : Bytes) : String :=
  call.filename ++ "." ++ timestamp ++ "." ++ lib.sha256First8 bytes ++ ".bak"

/-- Thirty days ago. -/
def cutoff : ℤ := call.now - 30 * 86400 * 1000000000

end Call

/-! ## Requests -/

/-- The active file when it was read: absent, or present with its identity and its bytes. -/
abbrev ActiveConfigState := Option File

/-- What a save asks of the file system. -/
inductive Request where
  | check
  | readActive
  | createBackup (name : String)
  | writeBackup (name : String) (bytes : Bytes)
  | unlinkBackup (name : String)
  | createTemp
  | writeTemp (bytes : Bytes)
  | unlinkTemp
  | tempIdentity
  | revalidate (active : ActiveConfigState)
  | rename
  | activeIdentity
  | listBackups (is_protected : List FileIdentity)
  | deleteCandidate (candidate : BackupCandidate) (is_protected : List FileIdentity)
  | finish (ok : Bool)

/-- What is answered; a failure is `false` or `none`. -/
def Request.Reply : Request → Type
  | .check => Bool
  | .readActive => Option ActiveConfigState
  | .createBackup _ => Bool
  | .writeBackup _ _ => Bool
  | .unlinkBackup _ => Unit
  | .createTemp => Bool
  | .writeTemp _ => Bool
  | .unlinkTemp => Unit
  | .tempIdentity => Option FileIdentity
  | .revalidate _ => Bool
  | .rename => Bool
  | .activeIdentity => Option FileIdentity
  | .listBackups _ => Option (List BackupCandidate)
  | .deleteCandidate _ _ => Bool
  | .finish _ => Unit

abbrev Save := Prog Request.Reply

namespace Save

def check : Save Bool := Prog.request Request.check

def readActive : Save (Option ActiveConfigState) := Prog.request Request.readActive

def createBackup (name : String) : Save Bool := Prog.request (Request.createBackup name)

def writeBackup (name : String) (bytes : Bytes) : Save Bool := Prog.request (Request.writeBackup name bytes)

def unlinkBackup (name : String) : Save Unit := Prog.request (Request.unlinkBackup name)

def createTemp : Save Bool := Prog.request Request.createTemp

def writeTemp (bytes : Bytes) : Save Bool := Prog.request (Request.writeTemp bytes)

def unlinkTemp : Save Unit := Prog.request Request.unlinkTemp

def tempIdentity : Save (Option FileIdentity) := Prog.request Request.tempIdentity

def revalidate (active : ActiveConfigState) : Save Bool := Prog.request (Request.revalidate active)

def rename : Save Bool := Prog.request Request.rename

def activeIdentity : Save (Option FileIdentity) := Prog.request Request.activeIdentity

def listBackups (is_protected : List FileIdentity) : Save (Option (List BackupCandidate)) :=
  Prog.request (Request.listBackups is_protected)

def deleteCandidate (candidate : BackupCandidate) (is_protected : List FileIdentity) : Save Bool :=
  Prog.request (Request.deleteCandidate candidate is_protected)

def finish (ok : Bool) : Save Unit := Prog.request (Request.finish ok)

end Save

/-! ## The save -/

section Program

open Save

variable (lib : Library) (call : Call)

/-- `create_managed_snapshot_create_new`. -/
def createManagedSnapshot (old_bytes : Bytes) : Save Bool :=
  match lib.utcBackupTimestamp call.now with
  | none => return false
  | some timestamp => do
    let name := call.entryName lib timestamp old_bytes
    -- the directory is opened, the hook runs, and the directory is checked again
    if !(← check) then return false
    if !(← createBackup name) then return false
    if ← writeBackup name old_bytes then return true
    unlinkBackup name
    return false

/-- A commit that is given up. -/
def abandon : Save Bool := do
  unlinkTemp
  return false

def commitConfigBytesViaTemp (active : ActiveConfigState) : Save Bool := do
  if !(← check) then return false
  if !(← createTemp) then return false
  if !(← writeTemp call.new_bytes) then return ← abandon
  let some temp_identity ← tempIdentity | abandon
  if !(← check) then return ← abandon
  if !(← revalidate active) then return ← abandon
  let some identity ← tempIdentity | abandon
  if identity ≠ temp_identity then return ← abandon
  if !(← rename) then return ← abandon
  let committed ← activeIdentity
  return committed == some temp_identity

/-- The loop of `cleanup_config_backups_with_hooks`: the candidates with their places. -/
def cleanupGo (is_protected : List FileIdentity) (keep_from : ℕ) : List (BackupCandidate × ℕ) → Save Bool
  | [] => return true
  | (candidate, index) :: candidates => do
    if index < keep_from ∧ candidate.created_at ≤ call.cutoff then
      -- the hook before the deletion
      if !(← check) then return false
      if !(← deleteCandidate candidate is_protected) then return false
    cleanupGo is_protected keep_from candidates

/-- The order of the retention. -/
def BackupCandidate.before (left right : BackupCandidate) : Bool :=
  decide (left.created_at < right.created_at) || left.created_at == right.created_at &&
    (decide (left.origin.retentionRank < right.origin.retentionRank) ||
      left.origin == right.origin && decide (left.entry_name ≤ right.entry_name))

/-- `cleanup_config_backups_with_hooks`. -/
def cleanupConfigBackups (is_protected : List FileIdentity) : Save Bool := do
  if !(← check) then return false
  let some candidates ← listBackups is_protected | return false
  let sorted := candidates.mergeSort BackupCandidate.before
  cleanupGo call is_protected (sorted.length - 10) sorted.zipIdx

/-- `save_with_backup`, once the configuration is serialized. -/
def saveWithBackup : Save Bool := do
  if !(← check) then return false
  let some active ← readActive | return false
  if active.map File.bytes = some call.new_bytes then
    if !(← check) then return false
    cleanupConfigBackups call (active.map File.identity).toList
  else
    if !(← check) then return false
    if let some old := active then
      if !(← createManagedSnapshot lib call old.bytes) then return false
    if !(← check) then return false
    if !(← commitConfigBytesViaTemp call active) then return false
    if !(← check) then return false
    let some identity ← activeIdentity | return false
    let is_protected := (active.map File.identity).toList
    cleanupConfigBackups call (if is_protected.contains identity then is_protected else is_protected ++ [identity])

/-- The process of a save: its result is noted. -/
def process : Save Unit := do
  let ok ← saveWithBackup lib call
  finish ok

end Program

/-! ## The world -/

/-- The directories. The rest is noted for the statements: the active file as the other writer left it, what the
save read, what it replaced, whether the last revalidation is over, and the result. -/
structure World where
  root : OrdMap String File
  managed : OrdMap String File
  outside : Option File
  read : Option ActiveConfigState
  replaced : Option (Option File)
  settled : Bool
  result : Option Bool

/-- What a move decides about a request: whether it fails, the identity of a new file, and how much of a failed
write is written. -/
structure Choice where
  fails : Bool
  identity : FileIdentity
  written : ℕ

/-- What the other writer does. -/
inductive Write where
  | replace (file : File)
  | rewrite (bytes : Bytes)

section World

variable (lib : Library) (call : Call)

/-- `collect_cleanup_candidates`, of one directory; `none` where a name panics. -/
def candidatesOf (is_protected : List FileIdentity) (origin : BackupOrigin)
    (created : String → Option (Option ℤ)) : OrdMap String File → Option (List BackupCandidate)
  | [] => some []
  | (name, file) :: files => do
    let created_at ← created name
    let candidates ← candidatesOf is_protected origin created files
    match created_at with
    | none => return candidates
    | some created_at =>
      if is_protected.contains file.identity then return candidates
      else return ⟨origin, name, created_at, file.identity⟩ :: candidates

/-- When a legacy backup was made. -/
def legacyCreated (name : String) : Option (Option ℤ) := do
  let created_at ← parseRootLegacyBackupName lib name call.filename
  return created_at.or (parseDuplicatedLegacyBackupName lib name call.filename)

def collectCleanupCandidates (is_protected : List FileIdentity) (world : World) :
    Option (List BackupCandidate) := do
  let legacy ← candidatesOf is_protected .rootLegacy (legacyCreated lib call) world.root
  let managed ← candidatesOf is_protected .managed
    (fun name => some (parseManagedBackupName lib name call.filename)) world.managed
  return legacy ++ managed

/-- `delete_verified_candidate` of a directory. -/
def deleteVerified (candidate : BackupCandidate) (is_protected : List FileIdentity)
    (files : OrdMap String File) : OrdMap String File :=
  match files.get candidate.entry_name with
  | none => files
  | some file =>
    if file.identity = candidate.identity ∧ file.identity ∉ is_protected then files.erase candidate.entry_name
    else files

/-- The answers of the directories. -/
def serve (request : Request) (choice : Choice) (world : World) : World × request.Reply :=
  match request with
  | .check => (world, !choice.fails)
  | .readActive =>
    if choice.fails then (world, none)
    else
      let active := world.root.get call.filename
      -- nothing is revalidated when the file is already current
      ({ world with read := some active, settled := active.map File.bytes == some call.new_bytes }, some active)
  | .createBackup name =>
    if choice.fails || (world.managed.get name).isSome then (world, false)
    else ({ world with managed := world.managed.insert name ⟨choice.identity, []⟩ }, true)
  | .writeBackup name bytes =>
    match world.managed.get name with
    | none => (world, !choice.fails)
    | some file =>
      let written := if choice.fails then bytes.take choice.written else bytes
      ({ world with managed := world.managed.insert name { file with bytes := written } }, !choice.fails)
  | .unlinkBackup name =>
    (if choice.fails then world else { world with managed := world.managed.erase name }, ())
  | .createTemp =>
    if choice.fails || (world.root.get call.tempName).isSome then (world, false)
    else ({ world with root := world.root.insert call.tempName ⟨choice.identity, []⟩ }, true)
  | .writeTemp bytes =>
    match world.root.get call.tempName with
    | none => (world, !choice.fails)
    | some file =>
      let written := if choice.fails then bytes.take choice.written else bytes
      ({ world with root := world.root.insert call.tempName { file with bytes := written } }, !choice.fails)
  | .unlinkTemp => (if choice.fails then world else { world with root := world.root.erase call.tempName }, ())
  | .tempIdentity =>
    (world, if choice.fails then none else (world.root.get call.tempName).map File.identity)
  | .revalidate active =>
    let same := (world.root.get call.filename).map File.identity == active.map File.identity
    if choice.fails || !same then (world, false) else ({ world with settled := true }, true)
  | .rename =>
    match world.root.get call.tempName with
    | none => (world, false)
    | some file =>
      if choice.fails then (world, false)
      else ({ world with
        root := (world.root.erase call.tempName).insert call.filename file
        replaced := some (world.root.get call.filename) }, true)
  | .activeIdentity =>
    (world, if choice.fails then none else (world.root.get call.filename).map File.identity)
  | .listBackups is_protected =>
    (world, if choice.fails then none else collectCleanupCandidates lib call is_protected world)
  | .deleteCandidate candidate is_protected =>
    if choice.fails then (world, false)
    else
      match candidate.origin with
      | .rootLegacy => ({ world with root := deleteVerified candidate is_protected world.root }, true)
      | .managed => ({ world with managed := deleteVerified candidate is_protected world.managed }, true)
  | .finish ok => ({ world with result := some ok }, ())

/-- What the other writer does to the active file, as long as the last revalidation is to come. A file that
replaces another one has another identity. -/
def disturb (write : Write) (world : World) : World :=
  if world.settled then world
  else
    match write with
    | .replace file =>
      if (world.root.get call.filename).map File.identity = some file.identity then world
      else { world with root := world.root.insert call.filename file, outside := some file }
    | .rewrite bytes =>
      match world.root.get call.filename with
      | none => world
      | some file =>
        let file := { file with bytes }
        { world with root := world.root.insert call.filename file, outside := some file }

/-- The save and the other writer. -/
def system : Shared Unit Request.Reply World Choice Write where
  serve _ request choice world := serve lib call request choice world
  halt _ world := world
  disturb := disturb call

/-- The start of a save. -/
def start (root managed : OrdMap String File) : Threads Unit Request.Reply World where
  programs _ := process lib call
  world :=
    { root, managed, outside := root.get call.filename, read := none, replaced := none, settled := false
      result := none }

end World

end Clawhip.ConfigFile
