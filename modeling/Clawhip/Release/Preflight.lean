import Clawhip.ConfigFile.Kept
import Clawhip.Cron.Meaning
import Clawhip.Lib.Lines
import Clawhip.Lib.Wildcard
import Mathlib.Data.List.DropRight

/-!
# The release preflight

`src/release_preflight.rs`: the version that a tag names, and the files that a release agrees with. For which
versions and files it is exact says `exact_iff`.
-/

namespace Clawhip.Release

open List Option Text

structure CheckResult where
  name : String
  passed : Bool
  detail : String

def CheckResult.pass (name detail : String) : CheckResult := ⟨name, true, detail⟩

def CheckResult.fail (name detail : String) : CheckResult := ⟨name, false, detail⟩

structure PreflightReport where
  version : String
  checks : List CheckResult

def PreflightReport.ok (report : PreflightReport) : Bool := report.checks.all CheckResult.passed

/-- What `rsplit` gives first. -/
def afterLast (s : String) (c : Char) : String := .ofList (s.toList.rtakeWhile (· != c))

/-- A text without a start that it may have. -/
def withoutStart (s start : String) : String := (Text.afterStart s start).getD s

def normalizeVersion (input : String) : String :=
  withoutStart (afterLast (afterLast (withoutStart (Text.trim input) "refs/tags/") '/') '-') "v"

def parseCargoToml (from_str : String → Except String (String × String)) (contents : String) :
    Except String (String × String) :=
  (from_str contents).mapError ("failed to parse Cargo.toml: " ++ ·)

def checkCargoToml (from_str : String → Except String (String × String))
    (contents expected_version : String) : CheckResult :=
  match parseCargoToml from_str contents with
  | .ok (name, version) =>
    if version = expected_version then .pass "Cargo.toml version" s!"{name} = {version}"
    else .fail "Cargo.toml version"
      s!"{name} is {version}, expected {expected_version} — bump Cargo.toml before tagging"
  | .error error => .fail "Cargo.toml version" error

/-- The version in a line of a lock file. -/
def versionOf (line : String) : Option String := (Text.afterStart line "version = \"").bind (Text.beforeEnd · "\"")

def checkCargoLock (contents package_name expected_version : String) : CheckResult :=
  let name_needle := "name = \"" ++ package_name ++ "\""
  match ((Text.lines contents).map Text.trim).dropWhile (· != name_needle) with
  | [] => .fail "Cargo.lock freshness" s!"no [[package]] entry for {package_name} in Cargo.lock"
  | _ :: lines =>
    match (lines.take 4).findSome? versionOf with
    | none => .fail "Cargo.lock freshness"
        s!"found {package_name} package block but no version line — Cargo.lock looks malformed"
    | some version =>
      if version = expected_version then .pass "Cargo.lock freshness" s!"{package_name} = {version}"
      else .fail "Cargo.lock freshness" (s!"{package_name} is {version}, expected {expected_version} — run " ++
        s!"`cargo update -p {package_name}` (or a full `cargo build`) and commit Cargo.lock")

def headingOf (line : String) : Option String :=
  let trimmed := Text.trim line
  if Text.startsWith trimmed "#" then some (Text.trim (.ofList (trimmed.toList.dropWhile (· == '#')))) else none

def headings (contents : String) : List String := (Text.lines contents).filterMap headingOf

def isTokenChar (c : Char) : Bool := c.isAlphanum || c == '.'

def headingContainsVersion (heading version : String) : Bool :=
  (heading.toList.splitOnP (!isTokenChar ·)).any fun token => withoutStart (.ofList token) "v" == version

def isUnreleased (heading : String) : Bool := Text.contains (Text.toAsciiLowercase heading) "unreleased"

def checkChangelog (contents expected_version : String) : CheckResult :=
  let named := (headings contents).filter (headingContainsVersion · expected_version)
  if named.any (!isUnreleased ·) then
    .pass "CHANGELOG.md entry" s!"found concrete heading for {expected_version}"
  else if named.any isUnreleased then .fail "CHANGELOG.md entry"
    s!"version {expected_version} is still marked Unreleased — promote the heading before tagging"
  else .fail "CHANGELOG.md entry"
    s!"no heading found for {expected_version} — add a CHANGELOG entry before tagging"

def readRequired (fs : String → Except String String) (path : String) : Except String String :=
  (fs path).mapError fun error => s!"failed to read {path}: {error}"

/-- `Path::join` of a relative path. -/
def join (root name : String) : String :=
  if root.isEmpty || Text.endsWith root "/" then root ++ name else root ++ "/" ++ name

def runPreflight (fs : String → Except String String) (from_str : String → Except String (String × String))
    (repo_root expected_version : String) : Except String PreflightReport := do
  let cargo_toml ← readRequired fs (join repo_root "Cargo.toml")
  let cargo_lock ← readRequired fs (join repo_root "Cargo.lock")
  let changelog ← readRequired fs (join repo_root "CHANGELOG.md")
  let (package_name, _) ← (parseCargoToml from_str cargo_toml).mapError (join repo_root "Cargo.toml" ++ ": " ++ ·)
  return ⟨expected_version, [checkCargoToml from_str cargo_toml expected_version,
    checkCargoLock cargo_lock package_name expected_version, checkChangelog changelog expected_version]⟩

/-! ## Versions -/

def IsNumeric (id : List Char) : Prop := id ≠ [] ∧ (∀ c ∈ id, c.isDigit = true) ∧ (id.head? = some '0' → id = ['0'])

def IsIdentifier (id : List Char) : Prop := id ≠ [] ∧ ∀ c ∈ id, c.isAlphanum = true ∨ c = '-'

/-- A semantic version. -/
structure Version where
  major : List Char
  minor : List Char
  patch : List Char
  pre : List (List Char)
  build : List (List Char)
  core_numeric : ∀ id ∈ [major, minor, patch], IsNumeric id
  pre_identifier : ∀ id ∈ pre, IsIdentifier id ∧ ((∀ c ∈ id, c.isDigit = true) → IsNumeric id)
  build_identifier : ∀ id ∈ build, IsIdentifier id

/-- Identifiers behind a sign and with dots between them. -/
def dotted (sign : Char) : List (List Char) → List Char
  | [] => []
  | id :: ids => sign :: (id ++ dotted '.' ids)

def Version.chars (v : Version) : List Char :=
  v.major ++ (dotted '.' [v.minor, v.patch] ++ (dotted '-' v.pre ++ dotted '+' v.build))

def Version.text (v : Version) : String := .ofList v.chars

/-- A character that versions are written with. -/
def isVersionChar (c : Char) : Bool := isTokenChar c || c == '-' || c == '+'

/-- The ways to spell a version. -/
inductive Spelling where
  | bare
  | v
  | crate
  | ref

def Spelling.start : Spelling → String
  | bare => ""
  | v => "v"
  | crate => "clawhip-v"
  | ref => "refs/tags/v"

/-! ## Repositories -/

structure LockEntry where
  name : String
  version : String
  rest : List String

/-- The lines of an entry, up to the next one. -/
def LockEntry.lines (entry : LockEntry) : List String :=
  ["[[package]]", "name = \"" ++ entry.name ++ "\"", "version = \"" ++ entry.version ++ "\""] ++ entry.rest

/-- A package of the repository itself has no source. -/
def LockEntry.isOwn (entry : LockEntry) : Bool := entry.rest.all fun line => !Text.startsWith line "source = "

/-- A lock file as cargo writes it, but for the white space around its lines. -/
structure CargoLock where
  contents : String
  header : List String
  entries : List LockEntry
  lines_eq : (Text.lines contents).map Text.trim = header ++ entries.flatMap LockEntry.lines
  names : ∀ line ∈ header ++ entries.flatMap LockEntry.rest, Text.startsWith line "name = \"" = false

/-- The files of a release. -/
structure Repository where
  fs : String → Except String String
  from_str : String → Except String (String × String)
  repo_root : String
  cargo_toml : String
  cargo_lock : CargoLock
  changelog : String
  toml_read : fs (join repo_root "Cargo.toml") = .ok cargo_toml
  lock_read : fs (join repo_root "Cargo.lock") = .ok cargo_lock.contents
  changelog_read : fs (join repo_root "CHANGELOG.md") = .ok changelog

/-- The headings that are not marked. -/
def Repository.released (repo : Repository) : List String := (headings repo.changelog).filter (!isUnreleased ·)

/-- The lock entry of a package of the repository records a version. -/
def Repository.Locked (repo : Repository) (name version : String) : Prop :=
  ∃ entry ∈ repo.cargo_lock.entries, entry.name = name ∧ entry.isOwn = true ∧ entry.version = version

/-- The first lock entry of a name records a version. -/
def Repository.LockedFirst (repo : Repository) (name version : String) : Prop :=
  ∃ entry, repo.cargo_lock.entries.find? (·.name == name) = some entry ∧ entry.version = version

/-- A word of a heading is a version. -/
def Repository.Named (repo : Repository) (v : Version) : Prop :=
  ∃ heading ∈ repo.released, ∃ word ∈ heading.toList.splitOnP (!isVersionChar ·), ∃ spelling : Spelling,
    word = spelling.start.toList ++ v.chars

def Repository.Accepted (repo : Repository) (version : String) : Prop :=
  ∃ report, runPreflight repo.fs repo.from_str repo.repo_root version = .ok report ∧ report.ok = true

/-- Every file has the version. -/
def Repository.Consistent (repo : Repository) (v : Version) : Prop :=
  ∃ name, repo.from_str repo.cargo_toml = .ok (name, v.text) ∧ repo.Locked name v.text ∧ repo.Named v

/-- A tag is read as its version, which is accepted if the files have it, and only then. -/
def Exact (v : Version) (spelling : Spelling) (repo : Repository) : Prop :=
  normalizeVersion (spelling.start ++ v.text) = v.text ∧ (repo.Accepted v.text ↔ repo.Consistent v)

/-- There is no dash in the version; and where it is the package's, the first lock entry of the name records what
the package's own does, and a heading has the version between other characters than those of versions. -/
def Fits (v : Version) (repo : Repository) : Prop :=
  '-' ∉ v.chars ∧ ∀ name, repo.from_str repo.cargo_toml = .ok (name, v.text) →
    (repo.Locked name v.text → repo.Named v → repo.LockedFirst name v.text ∧ '+' ∉ v.chars) ∧
      (repo.LockedFirst name v.text → (∃ heading ∈ repo.released, headingContainsVersion heading v.text = true) →
        repo.Locked name v.text ∧ repo.Named v)

/-! ## Spellings -/

theorem forall_mem_dotted {p : Char → Prop} {sign : Char} {ids : List (List Char)} (hsign : p sign) (hdot : p '.')
    (h : ∀ id ∈ ids, ∀ a ∈ id, p a) : ∀ a ∈ dotted sign ids, p a := by
  induction ids generalizing sign with
  | nil => exact nofun
  | cons id ids ih =>
    rw [forall_mem_cons] at h
    exact forall_mem_cons.mpr ⟨hsign, forall_mem_append.mpr ⟨h.1, ih hdot h.2⟩⟩

variable (v : Version)

theorem Version.forall_mem : ∀ a ∈ v.chars, isVersionChar a = true := by
  have hidentifier {id : List Char} (hid : IsIdentifier id) : ∀ a ∈ id, isVersionChar a = true := by
    intro a ha
    rcases hid.2 a ha with halnum | rfl
    · simp [isVersionChar, isTokenChar, halnum]
    · rfl
  have hcore : ∀ id ∈ [v.major, v.minor, v.patch], ∀ a ∈ id, isVersionChar a = true := fun id hid a ha => by
    simp [isVersionChar, isTokenChar, Char.isAlphanum, (v.core_numeric id hid).2.1 a ha]
  rw [forall_mem_cons] at hcore
  simp only [chars, forall_mem_append]
  exact ⟨hcore.1, forall_mem_dotted rfl rfl hcore.2,
    forall_mem_dotted rfl rfl fun id hid => hidentifier (v.pre_identifier id hid).1,
    forall_mem_dotted rfl rfl fun id hid => hidentifier (v.build_identifier id hid)⟩

/-- A version starts with a digit. -/
theorem Version.exists_digit : ∃ d l, v.chars = d :: l ∧ d.isDigit = true := by
  obtain ⟨hne, hdigits, -⟩ := v.core_numeric v.major mem_cons_self
  obtain ⟨d, l, hmajor⟩ := exists_cons_of_ne_nil hne
  exact ⟨d, _, by rw [chars, hmajor, cons_append], hdigits d (hmajor ▸ mem_cons_self)⟩

theorem not_isWhitespace {a : Char} (h : isVersionChar a = true) : isWhitespace a = false ∧ a ≠ '/' := by
  refine ⟨?_, fun hslash => absurd (hslash ▸ h) (by decide)⟩
  simp only [isVersionChar, isTokenChar, Bool.or_eq_true, beq_iff_eq] at h
  rcases h with ((halnum | rfl) | rfl) | rfl
  · have hrange : (65 ≤ a.toNat ∧ a.toNat ≤ 90 ∨ 97 ≤ a.toNat ∧ a.toNat ≤ 122) ∨ 48 ≤ a.toNat ∧ a.toNat ≤ 57 := by
      unfold Char.isAlphanum Char.isAlpha Char.isUpper Char.isLower Char.isDigit at halnum
      simpa [Char.le_def, UInt32.le_iff_toNat_le] using halnum
    simp only [isWhitespace, Bool.or_eq_false_iff, Bool.and_eq_false_iff, decide_eq_false_iff_not, beq_eq_false_iff_ne]
    omega
  all_goals decide

theorem withoutStart_append (start rest : String) : withoutStart (start ++ rest) start = rest := by
  rw [withoutStart, ConfigFile.afterStart_append, getD_some]

variable {s start : String}

theorem withoutStart_self (h : startsWith s start = false) : withoutStart s start = s := by
  simp [withoutStart, afterStart, h]

variable {c : Char}

theorem mem_of_mem_withoutStart (h : c ∈ (withoutStart s start).toList) : c ∈ s.toList := by
  unfold withoutStart afterStart at h
  split_ifs at h
  · rw [getD_some, String.toList_ofList] at h
    exact mem_of_mem_drop h
  · exact h

variable {s : String}

theorem afterLast_self (h : c ∉ s.toList) : afterLast s c = s := by
  have hall : ∀ a ∈ s.toList, (a != c) = true := fun a ha => bne_iff_ne.mpr fun heq => h (heq ▸ ha)
  rw [afterLast, rtakeWhile_eq_self_iff.mpr hall, String.ofList_toList]

theorem afterLast_append (front rest : String)
    (hs : s.toList = front.toList ++ c :: rest.toList) : afterLast s c = afterLast rest c := by
  unfold afterLast
  rw [hs, rtakeWhile, rtakeWhile, reverse_append, reverse_cons, append_assoc, takeWhile_append]
  split_ifs with h
  · have hall := takeWhile_prefix (· != c) |>.eq_of_length h
    rw [hall]
    simp
  · rfl

theorem withoutStart_text : withoutStart v.text "v" = v.text := by
  obtain ⟨d, l, hchars, hd⟩ := v.exists_digit
  have hne : 'v' ≠ d := by
    rintro rfl
    exact absurd hd (by decide)
  apply withoutStart_self
  unfold startsWith Version.text
  rw [hchars, String.toList_ofList]
  simp [isPrefixOf, hne]

theorem trim_eq (h : ∀ c ∈ s.toList, isWhitespace c = false) : trim s = s :=
  trim_eq_self (fun c hc => h c (mem_of_mem_head? hc)) fun c hc => h c (mem_of_mem_getLast? hc)

variable (spelling : Spelling)

/-- What is behind the last slash of a tag is the version with the letters of its spelling. -/
theorem afterLast_slash : ∃ start ∈ ["", "v", "clawhip-v"],
    afterLast (withoutStart (trim (spelling.start ++ v.text)) "refs/tags/") '/' = start ++ v.text := by
  have htrim : trim (spelling.start ++ v.text) = spelling.start ++ v.text := by
    refine trim_eq fun c hc => ?_
    rw [String.toList_append, Version.text, String.toList_ofList, mem_append] at hc
    rcases hc with hc | hc
    · have hplain : spelling.start.toList.all (!isWhitespace ·) = true := by cases spelling <;> decide
      simpa using all_eq_true.mp hplain c hc
    · exact (not_isWhitespace (v.forall_mem _ hc)).1
  have hslash {start : String} (h : '/' ∉ start.toList) : '/' ∉ (start ++ v.text).toList := by
    rw [String.toList_append, Version.text, String.toList_ofList, mem_append]
    exact fun hmem => hmem.elim h fun hmem => (not_isWhitespace (v.forall_mem _ hmem)).2 rfl
  have hplain {start : String} (h : '/' ∉ start.toList) :
      afterLast (withoutStart (start ++ v.text) "refs/tags/") '/' = start ++ v.text := by
    rw [withoutStart_self, afterLast_self (hslash h)]
    exact Bool.eq_false_iff.mpr fun hstart => hslash h ((List.isPrefixOf_iff_prefix.mp hstart).subset (by decide))
  rw [htrim]
  cases spelling with
  | bare => exact ⟨"", by simp, hplain (by decide)⟩
  | v => exact ⟨"v", by simp, hplain (by decide)⟩
  | crate => exact ⟨"clawhip-v", by simp, hplain (by decide)⟩
  | ref =>
    have hsplit : Spelling.ref.start ++ v.text = "refs/tags/" ++ ("v" ++ v.text) := by
      rw [← String.append_assoc]
      rfl
    exact ⟨"v", by simp, by rw [hsplit, withoutStart_append, afterLast_self (hslash (by decide))]⟩

theorem normalizeVersion_iff : normalizeVersion (spelling.start ++ v.text) = v.text ↔ '-' ∉ v.chars := by
  have hchars : v.text.toList = v.chars := String.toList_ofList
  obtain ⟨start, hstart, hbehind⟩ := afterLast_slash v spelling
  unfold normalizeVersion
  rw [hbehind]
  constructor
  · intro h hmem
    rw [← hchars, ← h] at hmem
    -- Nothing behind the last dash is a dash.
    have hlast := mem_of_mem_withoutStart hmem
    unfold afterLast at hlast
    rw [String.toList_ofList] at hlast
    simpa using mem_rtakeWhile_imp hlast
  · intro h
    have hdash : '-' ∉ v.text.toList := hchars ▸ h
    have hv : '-' ∉ ("v" ++ v.text).toList := by simpa using hdash
    simp only [mem_cons, not_mem_nil, or_false] at hstart
    rcases hstart with rfl | rfl | rfl
    · rw [String.empty_append, afterLast_self hdash]
      exact withoutStart_text v
    · rw [afterLast_self hv, withoutStart_append]
    · rw [afterLast_append "clawhip" ("v" ++ v.text) (by simp), afterLast_self hv, withoutStart_append]

/-! ## Headings -/

/-- The pieces at some characters are cut further at more of them. -/
theorem splitOnP_flatMap {α : Type} {p q : α → Bool} (h : ∀ a, p a = true → q a = true) (l : List α) :
    l.splitOnP q = (l.splitOnP p).flatMap (splitOnP q) := by
  induction l with
  | nil => rfl
  | cons a l ih =>
    obtain ⟨first, rest, hcut⟩ := exists_cons_of_ne_nil (splitOnP_ne_nil p l)
    rw [splitOnP_cons_eq_if_modifyHead, splitOnP_cons_eq_if_modifyHead, ih, hcut]
    by_cases hp : p a = true
    · simp [hp, h a hp, splitOnP_nil]
    · obtain ⟨first', rest', hcut'⟩ := exists_cons_of_ne_nil (splitOnP_ne_nil q first)
      by_cases hq : q a = true <;> simp [hp, hq, splitOnP_cons_eq_if_modifyHead, hcut']

variable {heading : String} {v : Version}

/-- A heading with a version as a word has it as a token, unless it has a sign in it. -/
theorem headingContainsVersion_of_word {spelling : Spelling}
    (hword : spelling.start.toList ++ v.chars ∈ heading.toList.splitOnP (!isVersionChar ·)) (hdash : '-' ∉ v.chars)
    (hplus : '+' ∉ v.chars) : headingContainsVersion heading v.text = true := by
  have hplain : ∀ a ∈ v.chars, (!isTokenChar a) = false := by
    intro a ha
    have hchar := v.forall_mem a ha
    simp only [isVersionChar, Bool.or_eq_true, beq_iff_eq] at hchar
    rcases hchar with (h | rfl) | rfl
    · rw [h, Bool.not_true]
    · exact absurd ha hdash
    · exact absurd ha hplus
  have hself : v.chars ∈ v.chars.splitOnP (!isTokenChar ·) := by
    rw [splitOnP_eq_singleton hplain]
    exact mem_cons_self
  have hv : 'v' :: v.chars ∈ ('v' :: v.chars).splitOnP (!isTokenChar ·) := by
    rw [splitOnP_eq_singleton (forall_mem_cons.mpr ⟨rfl, hplain⟩)]
    exact mem_cons_self
  obtain ⟨token, htoken, heq⟩ : ∃ token ∈ (spelling.start.toList ++ v.chars).splitOnP (!isTokenChar ·),
      withoutStart (.ofList token) "v" = v.text := by
    have hwithout : withoutStart (.ofList ('v' :: v.chars)) "v" = v.text := by
      rw [← withoutStart_append "v" v.text]
      exact congrArg (withoutStart · "v") (String.toList_injective (by simp [Version.text]))
    have hcut (front : List Char) (c : Char) (hc : (!isTokenChar c) = true) :
        'v' :: v.chars ∈ (front ++ c :: 'v' :: v.chars).splitOnP (!isTokenChar ·) := by
      rw [splitOnP_append_cons (p := (!isTokenChar ·)) _ _ hc]
      exact mem_append_right _ hv
    cases spelling with
    | bare => exact ⟨_, hself, withoutStart_text v⟩
    | v => exact ⟨_, hv, hwithout⟩
    | crate => exact ⟨_, hcut "clawhip".toList '-' rfl, hwithout⟩
    | ref => exact ⟨_, hcut "refs/tags".toList '/' rfl, hwithout⟩
  unfold headingContainsVersion
  -- Every character between words is between tokens, so each word is cut on its own.
  rw [splitOnP_flatMap (p := (!isVersionChar ·)) (by simp +contextual [isVersionChar])]
  exact any_eq_true.mpr ⟨token, mem_flatMap_of_mem hword htoken, beq_iff_eq.mpr heq⟩

theorem plus_notMem_of_token (h : headingContainsVersion heading v.text = true) : '+' ∉ v.chars := by
  intro hmem
  obtain ⟨token, htoken, heq⟩ := any_eq_true.mp h
  have hplus : '+' ∈ (withoutStart (.ofList token) "v").toList := by
    rw [beq_iff_eq.mp heq, Version.text, String.toList_ofList]
    exact hmem
  have hin := mem_of_mem_withoutStart hplus
  rw [String.toList_ofList] at hin
  exact absurd (Cron.mem_splitOnP htoken _ hin).2 (by decide)

/-! ## The checks -/

variable {repo : Repository} {name version : String}

theorem checkChangelog_passed {contents : String} : (checkChangelog contents version).passed = true ↔
    ∃ heading ∈ (headings contents).filter (!isUnreleased ·), headingContainsVersion heading version = true := by
  have hany : ((headings contents).filter (headingContainsVersion · version)).any (!isUnreleased ·) = true ↔
      ∃ heading ∈ (headings contents).filter (!isUnreleased ·), headingContainsVersion heading version = true := by
    simp [and_left_comm, and_comm]
  unfold checkChangelog
  dsimp only
  rw [← hany]
  split_ifs with h
  · exact iff_of_true rfl h
  all_goals exact iff_of_false Bool.false_ne_true h

/-- The lines of a lock file, from the first one with a name. -/
theorem dropWhile_entries {needle : String} (hneedle : needle = "name = \"" ++ name ++ "\"")
    (entries : List LockEntry) (hrest : ∀ line ∈ entries.flatMap LockEntry.rest, (line != needle) = true) :
    (entries.find? (·.name == name) = none ∧ (entries.flatMap LockEntry.lines).dropWhile (· != needle) = []) ∨
      ∃ entry lines, entries.find? (·.name == name) = some entry ∧
        (entries.flatMap LockEntry.lines).dropWhile (· != needle) =
          needle :: ("version = \"" ++ entry.version ++ "\"") :: lines := by
  induction entries with
  | nil => exact .inl ⟨rfl, rfl⟩
  | cons entry entries ih =>
    rw [flatMap_cons, forall_mem_append] at hrest
    have hother {line : String} (hhead : line.toList.head? ≠ some 'n') : (line != needle) = true := by
      rw [hneedle]
      exact bne_iff_ne.mpr fun heq => hhead (by simp [heq])
    have hlines : (entry :: entries).flatMap LockEntry.lines = "[[package]]" :: ("name = \"" ++ entry.name ++ "\"") ::
        ("version = \"" ++ entry.version ++ "\"") :: (entry.rest ++ entries.flatMap LockEntry.lines) := rfl
    -- Only the second line of an entry can be the one that is looked for.
    rw [hlines, dropWhile_cons, if_pos (hother (by simp)), dropWhile_cons]
    by_cases hsame : entry.name = name
    · refine .inr ⟨entry, entry.rest ++ entries.flatMap LockEntry.lines, find?_cons_of_pos (by simpa using hsame), ?_⟩
      rw [hsame, ← hneedle, if_neg (by simp)]
    · rw [if_pos (by simpa [hneedle] using hsame), dropWhile_cons, if_pos (hother (by simp)),
        find?_cons_of_neg (by simpa using hsame), dropWhile_append_of_pos hrest.1]
      exact ih hrest.2

theorem checkCargoLock_passed (lock : CargoLock) : (checkCargoLock lock.contents name version).passed = true ↔
    ∃ entry, lock.entries.find? (·.name == name) = some entry ∧ entry.version = version := by
  have hnames : ∀ line ∈ lock.header ++ lock.entries.flatMap LockEntry.rest,
      (line != "name = \"" ++ name ++ "\"") = true := by
    refine fun line hline => bne_iff_ne.mpr fun heq => ?_
    have hstart := lock.names line hline
    rw [heq, startsWith] at hstart
    simp at hstart
  rw [forall_mem_append] at hnames
  unfold checkCargoLock
  dsimp only
  rw [lock.lines_eq, dropWhile_append_of_pos hnames.1]
  rcases dropWhile_entries rfl lock.entries hnames.2 with ⟨hnone, hdrop⟩ | ⟨entry, lines, hsome, hdrop⟩
  · rw [hdrop, hnone]
    simp [CheckResult.fail]
  · have hread : versionOf ("version = \"" ++ entry.version ++ "\"") = some entry.version := by
      rw [versionOf, String.append_assoc, ConfigFile.afterStart_append, bind_some, ConfigFile.beforeEnd_append]
    rw [hdrop, hsome]
    simp only [take_succ_cons, findSome?_cons, hread]
    split_ifs with h <;> simp [CheckResult.pass, CheckResult.fail, h]

theorem accepted_iff : repo.Accepted version ↔ ∃ name, repo.from_str repo.cargo_toml = .ok (name, version) ∧
    repo.LockedFirst name version ∧ ∃ heading ∈ repo.released, headingContainsVersion heading version = true := by
  unfold Repository.Accepted runPreflight readRequired
  rw [repo.toml_read, repo.lock_read, repo.changelog_read]
  cases hparse : repo.from_str repo.cargo_toml with
  | error error => simp [parseCargoToml, hparse, Except.mapError, bind, Except.bind]
  | ok package =>
    obtain ⟨name, packaged⟩ := package
    have htoml : (checkCargoToml repo.from_str repo.cargo_toml version).passed = true ↔ packaged = version := by
      simp only [checkCargoToml, parseCargoToml, hparse, Except.mapError]
      split_ifs with h <;> simp [CheckResult.pass, CheckResult.fail, h]
    simp [parseCargoToml, hparse, Except.mapError, bind, Except.bind, pure, Except.pure, PreflightReport.ok, htoml,
      checkCargoLock_passed, checkChangelog_passed, Repository.LockedFirst, Repository.released]

/-- The preflight is exact for the versions and the files that fit, and for no others. -/
theorem exact_iff (v : Version) (spelling : Spelling) (repo : Repository) :
    Exact v spelling repo ↔ Fits v repo := by
  unfold Exact Fits
  rw [normalizeVersion_iff]
  refine and_congr_right fun hdash => ?_
  -- Without a sign in it, a version that is a word of a heading is a token of it.
  have htoken (h : repo.Named v) (hplus : '+' ∉ v.chars) :
      ∃ heading ∈ repo.released, headingContainsVersion heading v.text = true := by
    obtain ⟨heading, hmem, _, hword, _, rfl⟩ := h
    exact ⟨heading, hmem, headingContainsVersion_of_word hword hdash hplus⟩
  rw [accepted_iff, Repository.Consistent]
  constructor
  · intro h name hparse
    refine ⟨fun hlocked hnamed => ?_, fun hfirst htokened => ?_⟩
    · obtain ⟨_, hparse', hfirst, _, -, htokened⟩ := h.mpr ⟨name, hparse, hlocked, hnamed⟩
      cases hparse.symm.trans hparse'
      exact ⟨hfirst, plus_notMem_of_token htokened⟩
    · obtain ⟨_, hparse', hconsistent⟩ := h.mp ⟨name, hparse, hfirst, htokened⟩
      cases hparse.symm.trans hparse'
      exact hconsistent
  · intro h
    refine exists_congr fun name => and_congr_right fun hparse => ⟨fun hpassed => ?_, fun hconsistent => ?_⟩
    · exact (h name hparse).2 hpassed.1 hpassed.2
    · obtain ⟨hfirst, hplus⟩ := (h name hparse).1 hconsistent.1 hconsistent.2
      exact ⟨hfirst, htoken hconsistent.2 hplus⟩

namespace Sample

/-- A release candidate. -/
def candidate : Version := ⟨['1'], ['2'], ['3'], [['r', 'c'], ['1']], [], by simp [IsNumeric, Char.isDigit],
    by simp [IsIdentifier, IsNumeric, Char.isDigit], by simp⟩

theorem candidate_is_misread : ¬ ∀ v spelling repo, Exact v spelling repo := by
  intro h
  have hread := (h candidate .v ⟨fun _ => .ok "", fun _ => .error "", "", "", ⟨"", [], [], rfl, nofun⟩, "", rfl, rfl,
    rfl⟩).1
  exact absurd ((normalizeVersion_iff candidate .v).mp hread) (by decide)

end Sample

end Clawhip.Release
