import Clawhip.Ledger.Query

/-!
# Bounding the fields of a record

`LedgerRecord::from_event` cuts and filters what an event says before `LedgerRecord::validate` looks at it. Every
field is left as the validator wants it but one: the source is cut to as many characters as it may have bytes
(`fromEvent_ok_iff`).
-/

namespace Clawhip.Ledger

open List Option Text

/-! ## Keywords -/

theorem isWhitespace_toLower (c : Char) : isWhitespace c.toLower = isWhitespace c := by
  rcases toLower_cases c with ⟨h, -⟩ | ⟨hrange, hlower⟩
  · rw [h]
  · unfold isWhitespace
    rw [hlower]
    rw [Bool.eq_iff_iff]
    simp only [Bool.or_eq_true, Bool.and_eq_true, decide_eq_true_eq, beq_iff_eq]
    omega

/-- Stripping a list does not look at what a map keeps of its items. -/
theorem strip_map {α β : Type*} {p : β → Bool} {q : α → Bool} {f : α → β} (h : ∀ a, p (f a) = q a)
    (l : List α) : strip p (l.map f) = (strip q l).map f := by
  have hcomp : p ∘ f = q := funext h
  unfold strip
  rw [dropWhile_map, hcomp, ← map_reverse, dropWhile_map, hcomp, map_reverse]

/-- Normalizing twice normalizes once. -/
theorem normalizeKeyword_normalizeKeyword (value : String) :
    normalizeKeyword (normalizeKeyword value) = normalizeKeyword value := by
  unfold normalizeKeyword toAsciiLowercase trim
  simp only [String.toList_ofList]
  rw [strip_map isWhitespace_toLower, strip_strip, List.map_map]
  congr 1
  exact map_congr_left fun c _ => toLower_toLower c

/-- A keyword is passed over, or it is added as the validator wants it. -/
theorem pushKeyword_cases (config : LedgerConfig) (keywords : List String) (token : String) :
    pushKeyword config keywords token = keywords ∨ (2 ≤ (normalizeKeyword token).utf8ByteSize ∧
        (normalizeKeyword token).utf8ByteSize ≤ config.max_keyword_bytes ∧
        keywords.length < config.max_keywords ∧ normalizeKeyword token ∉ keywords ∧
        pushKeyword config keywords token = keywords ++ [normalizeKeyword token]) := by
  unfold pushKeyword
  generalize normalizeKeyword token = value
  dsimp only
  split_ifs with hskip
  · exact .inl rfl
  · right
    simp only [Bool.or_eq_true, not_or, decide_eq_true_eq, contains_iff_mem, gt_iff_lt, not_lt, not_le] at hskip
    obtain ⟨⟨⟨hshort, hlong⟩, hroom⟩, hnew⟩ := hskip
    exact ⟨hshort, hlong, hroom, hnew, rfl⟩

/-- A new item at the end of a list without repetitions. -/
theorem nodup_append_singleton {values : List String} {value : String} (h : values.Nodup)
    (hnew : value ∉ values) : (values ++ [value]).Nodup := by
  refine nodup_append.mpr ⟨h, nodup_singleton _, fun a ha b hb hab => hnew ?_⟩
  rwa [hab, mem_singleton.mp hb] at ha

variable {keywords : List String} {config : LedgerConfig}

/-- Pushing a keyword keeps the keywords as the validator wants them. -/
theorem validKeywords_push (h : validKeywords config keywords = true) (token : String) :
    validKeywords config (pushKeyword config keywords token) = true := by
  rcases pushKeyword_cases config keywords token with hsame | ⟨hshort, hlong, hroom, hnew, hpush⟩
  · rw [hsame]
    exact h
  · have hnormal := normalizeKeyword_normalizeKeyword token
    rw [hpush]
    generalize normalizeKeyword token = value at hshort hlong hnew hnormal
    unfold validKeywords valuesAreUnique at h ⊢
    simp only [Bool.and_eq_true, decide_eq_true_eq, List.all_eq_true, beq_iff_eq] at h ⊢
    obtain ⟨⟨-, hnodup⟩, hall⟩ := h
    refine ⟨⟨?_, nodup_append_singleton hnodup hnew⟩, fun kept hkept => ?_⟩
    · rw [length_append, length_singleton]
      omega
    · rcases mem_append.mp hkept with hold | hadded
      · exact hall kept hold
      · rw [mem_singleton.mp hadded]
        exact ⟨⟨hshort, hlong⟩, hnormal.symm⟩

theorem validKeywords_foldl (tokens : List String) (h : validKeywords config keywords = true) :
    validKeywords config (tokens.foldl (pushKeyword config) keywords) = true := by
  induction tokens generalizing keywords with
  | nil => exact h
  | cons token tokens ih =>
    rw [foldl_cons]
    exact ih (validKeywords_push h token)

/-! ## Texts -/

variable (value : Option String) (max : ℕ)

/-- What `bounded` leaves is as the validator wants it. -/
theorem validOptionalChars_bounded : validOptionalChars (bounded value max) max = true := by
  unfold validOptionalChars
  cases hbounded : bounded value max with
  | none => rfl
  | some text =>
    obtain ⟨hmap, hne⟩ := filter_eq_some_iff.mp hbounded
    obtain ⟨whole, -, rfl⟩ := map_eq_some_iff.mp hmap
    rw [all_some, hne, Bool.true_and, decide_eq_true_eq, String.length_ofList]
    exact length_take_le _ _

/-- What is left of the source is there. -/
theorem isEmpty_getD_bounded : ((bounded value max).getD "clawhip").isEmpty = false := by
  cases hbounded : bounded value max with
  | none => rfl
  | some text =>
    have hvalid := validOptionalChars_bounded value max
    unfold validOptionalChars at hvalid
    rw [hbounded, all_some, Bool.and_eq_true, Bool.not_eq_true'] at hvalid
    exact hvalid.1

/-! ## Links -/

section Links

variable {x : Externals}

/-- What one field adds to the links. -/
def linkStep (x : Externals) (object : OrdMap String Json) (source_links : List String) (key : String) :
    Except LedgerError (List String) :=
  match (object.get key).bind Json.asStr with
  | none => .ok source_links
  | some value =>
    if isCredentialBearingUrl x value then
      .error (.message "ledger_credential_bearing_source_link_rejected")
    else if isPublicLink x value then
      .ok (pushBoundedUnique MAX_SOURCE_LINK_BYTES MAX_RECORD_SOURCE_LINKS source_links value)
    else .ok source_links

/-- No field of a link holds credentials. -/
def NoCredentials (x : Externals) (object : OrdMap String Json) : Prop :=
  ∀ key ∈ ["source_url", "html_url", "url"], ∀ value, (object.get key).bind Json.asStr = some value →
    isCredentialBearingUrl x value = false

theorem validSourceLinks_push {links : List String} {value : String}
    (h : validSourceLinks x links MAX_RECORD_SOURCE_LINKS = true) (hpublic : isPublicLink x value = true) :
    validSourceLinks x (pushBoundedUnique MAX_SOURCE_LINK_BYTES MAX_RECORD_SOURCE_LINKS links value)
      MAX_RECORD_SOURCE_LINKS = true := by
  unfold pushBoundedUnique
  split_ifs with hskip
  · exact h
  · simp only [Bool.or_eq_true, not_or, decide_eq_true_eq, contains_iff_mem, gt_iff_lt, not_lt, not_le] at hskip
    obtain ⟨⟨hroom, hsize⟩, hnew⟩ := hskip
    unfold validSourceLinks valuesAreUnique at h ⊢
    simp only [Bool.and_eq_true, decide_eq_true_eq, List.all_eq_true] at h ⊢
    obtain ⟨⟨-, hnodup⟩, hall⟩ := h
    refine ⟨⟨?_, ?_⟩, ?_⟩
    · rw [length_append, length_singleton]
      omega
    · exact nodup_append_singleton hnodup hnew
    · intro link hlink
      rcases mem_append.mp hlink with hold | hadded
      · exact hall link hold
      · rw [mem_singleton.mp hadded]
        exact ⟨hsize, hpublic⟩

/-- Without credentials there are links, and they are as the validator wants them. -/
theorem sourceLinks_ok {object : OrdMap String Json} (h : NoCredentials x object) :
    ∃ links, LedgerRecord.sourceLinks x object = .ok links ∧
      validSourceLinks x links MAX_RECORD_SOURCE_LINKS = true := by
  have hfold : ∀ (keys : List String) (links : List String),
      (∀ key ∈ keys, ∀ value, (object.get key).bind Json.asStr = some value → isCredentialBearingUrl x value = false) →
      validSourceLinks x links MAX_RECORD_SOURCE_LINKS = true → ∃ out, keys.foldlM (linkStep x object) links = .ok out ∧
        validSourceLinks x out MAX_RECORD_SOURCE_LINKS = true := by
    intro keys
    induction keys with
    | nil => exact fun links _ hvalid => ⟨links, rfl, hvalid⟩
    | cons key keys ih =>
      intro links hkeys hvalid
      have hstep : ∃ next, linkStep x object links key = .ok next ∧
          validSourceLinks x next MAX_RECORD_SOURCE_LINKS = true := by
        unfold linkStep
        cases hvalue : (object.get key).bind Json.asStr with
        | none => exact ⟨links, rfl, hvalid⟩
        | some value =>
          simp only [hkeys key mem_cons_self value hvalue, Bool.false_eq_true, if_false]
          split_ifs with hpublic
          · exact ⟨_, rfl, validSourceLinks_push hvalid hpublic⟩
          · exact ⟨links, rfl, hvalid⟩
      obtain ⟨next, hnext, hnextValid⟩ := hstep
      rw [foldlM_cons, hnext]
      exact ih next (fun key' hkey' => hkeys key' (mem_cons_of_mem key hkey')) hnextValid
  exact hfold _ [] h rfl

end Links

/-! ## The record -/

namespace LedgerRecord

variable {x : Externals} {config : LedgerConfig} {event : IncomingEvent} {fields : OrdMap String Json}
  {now : OffsetDateTime}

/-- The time of an event. -/
def timeOf (x : Externals) (object : OrdMap String Json) (now : OffsetDateTime) : OffsetDateTime :=
  ((firstString object ["event_timestamp", "timestamp", "observed_at", "created_at"]).bind
    x.parseRfc3339).getD now

/-- Where an event says that it comes from, as far as it is kept. -/
def keptSource (object : OrdMap String Json) : String :=
  (bounded (firstString object ["source", "provider", "tool"]) MAX_SOURCE_BYTES).getD "clawhip"

/-- The record of an event before it is checked. -/
def unchecked (x : Externals) (config : LedgerConfig) (event : IncomingEvent) (object : OrdMap String Json)
    (now : OffsetDateTime) (source_links : List String) (timestamp_text : String) : LedgerRecord :=
  let repo := bounded (firstString object ["repo", "repo_name", "repo_path", "project"]) MAX_REPO_CHARS
  let worktree := bounded (firstString object ["worktree", "worktree_path", "repo_path"]) MAX_WORKTREE_CHARS
  let session_id := bounded (firstString object ["session_id"]) MAX_SESSION_CHARS
  let identity := Json.ofFields [("event_type", .string event.canonicalKind), ("timestamp", Json.ofOption
      (firstString object ["event_timestamp", "timestamp", "observed_at", "created_at"])),
    ("source", .string (keptSource object)), ("repo", Json.ofOption repo),
    ("worktree", Json.ofOption worktree), ("session_id", Json.ofOption session_id),
    ("source_links", .array (source_links.map .string)),
    ("identity", Json.ofFields (PUBLIC_STRING_FIELDS.filterMap fun key =>
      ((object.get key).bind publicIdentityValue).map fun value => (key, .string value)))]
  let dedupe_key := x.hash_bytes ((suppliedIdentity event object).getD identity.toText)
  { schema_version := SCHEMA_VERSION
    id := x.hash_bytes (dedupe_key ++ ":" ++ timestamp_text)
    dedupe_key
    timestamp := timestamp_text
    timestamp_unix := (timeOf x object now).unixTimestamp
    event_type := event.canonicalKind
    source := keptSource object
    repo
    worktree
    session_id
    source_links
    keywords := (keywordTokens event object).foldl (pushKeyword config) [] }

/-- A record is made in steps, of which the last one checks it. -/
theorem fromEvent_eq (h : event.payload = .object fields) :
    fromEvent x config event now = do
      rejectPrivateStorageRequests fields
      let source_links ← sourceLinks x fields
      let timestamp_text ← (x.formatRfc3339 (timeOf x fields now)).elim (.error .time) .ok
      let record := unchecked x config event fields now source_links timestamp_text
      record.validate x config
      return record := by
  unfold fromEvent
  rw [h]
  rfl

/-- A time that is written is read back as the same second. -/
def WritesBack (x : Externals) (t : OffsetDateTime) : Prop :=
  ∃ text t', x.formatRfc3339 t = some text ∧ x.parseRfc3339 text = some t' ∧ t'.unixTimestamp = t.unixTimestamp

/-- Checking the record of an event is checking the length of its source, and of the whole. -/
theorem validate_unchecked {source_links : List String} {timestamp_text : String} {t : OffsetDateTime}
    (hhash : ∀ text, isSha256Hex (x.hash_bytes text) = true)
    (hkind : event.canonicalKind.isEmpty = false ∧ event.canonicalKind.utf8ByteSize ≤ MAX_EVENT_TYPE_BYTES)
    (hlinks : validSourceLinks x source_links MAX_RECORD_SOURCE_LINKS = true)
    (hparse : x.parseRfc3339 timestamp_text = some t) (htime : t.unixTimestamp = (timeOf x fields now).unixTimestamp)
    (hsize : (x.encodeRecord (unchecked x config event fields now source_links timestamp_text)).utf8ByteSize ≤
      config.max_record_bytes) :
    (unchecked x config event fields now source_links timestamp_text).validate x config = .ok () ↔
      (keptSource fields).utf8ByteSize ≤ MAX_SOURCE_BYTES := by
  have hkeywords : validKeywords config
      (unchecked x config event fields now source_links timestamp_text).keywords = true :=
    validKeywords_foldl _ (by simp [validKeywords, valuesAreUnique])
  have hsource : (keptSource fields).isEmpty = false := isEmpty_getD_bounded _ _
  unfold validate
  rw [hkeywords, if_neg (not_lt.mpr hsize)]
  have hparse' : x.parseRfc3339
      (unchecked x config event fields now source_links timestamp_text).timestamp = some t := hparse
  rw [hparse']
  unfold unchecked
  simp only [hhash, hkind.1, hlinks, htime, hsource, validOptionalChars_bounded, bne_self_eq_false,
    Bool.not_true, Bool.false_or, Bool.or_false, Bool.false_eq_true, if_false, decide_eq_true_eq,
    gt_iff_lt, not_lt.mpr hkind.2, decide_false]
  split_ifs with hlong
  · exact iff_of_false (by simp) (not_le.mpr hlong)
  · exact iff_of_true rfl (not_lt.mp hlong)

/-- What the ledger promises to take in, whatever its descriptive fields say. -/
structure Admissible (x : Externals) (config : LedgerConfig) (event : IncomingEvent) (fields : OrdMap String Json)
    (now : OffsetDateTime) : Prop where
  object : event.payload = .object fields
  no_private : rejectPrivateStorageRequests fields = .ok ()
  no_credentials : NoCredentials x fields
  kind : event.canonicalKind.isEmpty = false ∧ event.canonicalKind.utf8ByteSize ≤ MAX_EVENT_TYPE_BYTES
  size : ∀ source_links timestamp_text, sourceLinks x fields = .ok source_links →
    (x.encodeRecord (unchecked x config event fields now source_links timestamp_text)).utf8ByteSize ≤
      config.max_record_bytes

/-- An event is taken in if and only if its source, cut to as many characters as it may have bytes, has no more
bytes than that. -/
theorem fromEvent_ok_iff (hadmissible : Admissible x config event fields now)
    (hhash : ∀ text, isSha256Hex (x.hash_bytes text) = true)
    (hparsed : ∀ text t, x.parseRfc3339 text = some t → WritesBack x t) (hnow : WritesBack x now) :
    (∃ record, fromEvent x config event now = .ok record) ↔
      (keptSource fields).utf8ByteSize ≤ MAX_SOURCE_BYTES := by
  obtain ⟨source_links, hsourceLinks, hlinks⟩ := sourceLinks_ok hadmissible.no_credentials
  have htime : WritesBack x (timeOf x fields now) := by
    unfold timeOf
    cases hsaid : (firstString fields ["event_timestamp", "timestamp", "observed_at", "created_at"]).bind
        x.parseRfc3339 with
    | none => exact hnow
    | some t =>
      obtain ⟨text, -, htext⟩ := bind_eq_some_iff.mp hsaid
      exact hparsed text t htext
  obtain ⟨timestamp_text, t, hformat, hparse, hsecond⟩ := htime
  have hvalid := validate_unchecked hhash hadmissible.kind hlinks hparse hsecond
    (hadmissible.size source_links timestamp_text hsourceLinks)
  have hsteps : fromEvent x config event now =
      (unchecked x config event fields now source_links timestamp_text).validate x config >>= fun _ =>
        .ok (unchecked x config event fields now source_links timestamp_text) := by
    rw [fromEvent_eq hadmissible.object, hadmissible.no_private, hsourceLinks, hformat]
    rfl
  rw [← hvalid, hsteps]
  constructor
  · rintro ⟨record, hrecord⟩
    obtain ⟨⟨⟩, hcheck, -⟩ := bind_eq_ok.mp hrecord
    exact hcheck
  · intro hcheck
    exact ⟨_, bind_eq_ok.mpr ⟨(), hcheck, rfl⟩⟩

end LedgerRecord

/-! ## A source with accents -/

namespace Sample

open LedgerRecord

/-- Libraries that know one time. -/
def oneTime : Externals where
  hash_bytes _ := "e3b0c44298fc1c149afbf4c8996fb92427ae41e4649b934ca495991b7852b855"
  parseUrl _ := none
  parseRfc3339 text :=
    if text = "2026-08-01T12:00:00Z" then some ⟨1785585600000000000, 0⟩ else none
  formatRfc3339 t := if t.unix_nanos = 1785585600000000000 then some "2026-08-01T12:00:00Z" else none
  encodeRecord record := record.source
  decodeRecord _ := none
  encodeSummary summary := summary.shard_id
  decodeSummary _ := none

/-- What is said of a source. -/
def sourceFields (source : String) : OrdMap String Json := [("source", .string source)]

/-- An event that only says where it comes from. -/
def sourceEvent (source : String) : IncomingEvent where
  kind := "agent.finished"
  channel := none
  mention := none
  format := none
  template := none
  payload := .object (sourceFields source)

variable (text : String)

theorem oneTime_hash : isSha256Hex (oneTime.hash_bytes text) = true := by
  have hhash : isSha256Hex "e3b0c44298fc1c149afbf4c8996fb92427ae41e4649b934ca495991b7852b855" = true := by
    decide +kernel
  exact hhash

theorem oneTime_now : WritesBack oneTime ⟨1785585600000000000, 0⟩ := by
  refine ⟨"2026-08-01T12:00:00Z", ⟨1785585600000000000, 0⟩, by decide +kernel, ?_, rfl⟩
  unfold oneTime
  dsimp only
  exact if_pos rfl

theorem oneTime_parsed (t : OffsetDateTime) (h : oneTime.parseRfc3339 text = some t) : WritesBack oneTime t := by
  unfold oneTime at h
  dsimp only at h
  split_ifs at h
  rw [← some.inj h]
  exact oneTime_now

/-- The event may be taken in if its source has at most 4096 bytes. -/
theorem sourceEvent_admissible {source : String} (h : (keptSource (sourceFields source)).utf8ByteSize ≤ 4096) :
    Admissible oneTime (roomFor 100) (sourceEvent source) (sourceFields source) ⟨1785585600000000000, 0⟩ where
  object := rfl
  no_private := by
    have hkeys : (sourceFields source).keys = ["source"] := rfl
    unfold rejectPrivateStorageRequests
    rw [hkeys]
    decide +kernel
  no_credentials key _ value _ := rfl
  kind := by
    have hkind : (sourceEvent source).canonicalKind = "agent.finished" := rfl
    rw [hkind]
    decide +kernel
  size _ _ _ := h

/-- An event with a long source in plain letters is taken in. -/
theorem plain_source_is_taken_in : ∃ record,
    fromEvent oneTime (roomFor 100) (sourceEvent "ci-runner") ⟨1785585600000000000, 0⟩ = .ok record :=
  (fromEvent_ok_iff (sourceEvent_admissible (by decide +kernel)) oneTime_hash oneTime_parsed oneTime_now).mpr
    (by decide +kernel)

/-- A source of sixty-five letters with accents is refused. -/
theorem accented_source_is_refused :
    Admissible oneTime (roomFor 100) (sourceEvent (String.ofList (List.replicate 65 'é')))
        (sourceFields (String.ofList (List.replicate 65 'é'))) ⟨1785585600000000000, 0⟩ ∧
      ¬ ∃ record, fromEvent oneTime (roomFor 100) (sourceEvent (String.ofList (List.replicate 65 'é')))
        ⟨1785585600000000000, 0⟩ = .ok record := by
  refine ⟨sourceEvent_admissible (by decide +kernel), ?_⟩
  rintro ⟨record, hrecord⟩
  have hrefused : (fromEvent oneTime (roomFor 100) (sourceEvent (String.ofList (List.replicate 65 'é')))
      ⟨1785585600000000000, 0⟩).toOption = none := by decide +kernel
  rw [hrecord] at hrefused
  cases hrefused

end Sample

end Clawhip.Ledger
