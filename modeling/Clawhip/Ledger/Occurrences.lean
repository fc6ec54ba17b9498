import Clawhip.Events.Constructors
import Clawhip.Events.Renormalize
import Clawhip.JsonText
import Clawhip.Ledger.Record

/-!
# Occurrences

When the ledger tells two events of the pollers apart. Such an event brings no identifier, so that its
dedupe key is the hash of a JSON text of the fields on an allowlist. That text determines what it is
made from: two keys differ exactly if something that goes into the text does.
-/

namespace Clawhip.Ledger

open List Option OrdMap

open LedgerRecord

/-! ## What goes into the identity -/

/-- The fields of an event's payload. -/
def objectOf (event : IncomingEvent) : OrdMap String Json :=
  match event.payload with
  | .object fields => fields
  | _ => []

section

variable (event : IncomingEvent)

/-- The time that an event says it is of. -/
def suppliedTimestamp : Option String :=
  firstString (objectOf event) ["event_timestamp", "timestamp", "observed_at", "created_at"]

/-- The repository of an event's record. -/
def repoOf : Option String :=
  bounded (firstString (objectOf event) ["repo", "repo_name", "repo_path", "project"]) MAX_REPO_CHARS

/-- The worktree of an event's record. -/
def worktreeOf : Option String :=
  bounded (firstString (objectOf event) ["worktree", "worktree_path", "repo_path"])
    MAX_WORKTREE_CHARS

/-- The session of an event's record. -/
def sessionOf : Option String := bounded (firstString (objectOf event) ["session_id"]) MAX_SESSION_CHARS

/-- The source of an event's record. -/
def sourceOf : String :=
  (bounded (firstString (objectOf event) ["source", "provider", "tool"]) MAX_SOURCE_BYTES).getD
    "clawhip"

/-- What the identity shows of a field. -/
def shown (key : String) : Option String := ((objectOf event).get key).bind publicIdentityValue

variable (x : Externals)

/-- The links of an event's record. -/
def linksOf : List String := ((sourceLinks x (objectOf event)).toOption).getD []

/-- The fields of the identity that an event without an identifier is recognised by. -/
def identityFields : OrdMap String Json :=
  [("event_type", .string event.canonicalKind),
    ("timestamp", Json.ofOption (suppliedTimestamp event)), ("source", .string (sourceOf event)),
    ("repo", Json.ofOption (repoOf event)), ("worktree", Json.ofOption (worktreeOf event)),
    ("session_id", Json.ofOption (sessionOf event)), ("source_links", .array ((linksOf event x).map .string)),
    ("identity", Json.ofFields (PUBLIC_STRING_FIELDS.filterMap fun key =>
      (shown event key).map fun value => (key, .string value)))]

/-- The text whose hash is the dedupe key of an event. -/
def dedupeText : String :=
  (suppliedIdentity event (objectOf event)).getD (Json.ofFields (identityFields event x)).toText

/-- The dedupe key of a record is the hash of its event's text. -/
theorem dedupe_key_fromEvent {x : Externals} {config : LedgerConfig} {event : IncomingEvent}
    {now : OffsetDateTime} {record : LedgerRecord} (h : fromEvent x config event now = .ok record) :
    record.dedupe_key = x.hash_bytes (dedupeText event x) := by
  unfold fromEvent at h
  split at h
  · next fields hpayload =>
    have hobject : objectOf event = fields := by
      unfold objectOf
      rw [hpayload]
    obtain ⟨_, -, h⟩ := bind_eq_ok.mp h
    obtain ⟨source_links, hlinks, h⟩ := bind_eq_ok.mp h
    obtain ⟨timestamp_text, -, h⟩ := bind_eq_ok.mp h
    obtain ⟨_, -, h⟩ := bind_eq_ok.mp h
    have hsame : linksOf event x = source_links := by
      unfold linksOf
      rw [hobject, hlinks]
      rfl
    rw [← Except.ok.inj h]
    unfold dedupeText identityFields
    rw [hsame]
    unfold suppliedTimestamp sourceOf repoOf worktreeOf sessionOf shown
    rw [hobject]
  · cases h

end

/-- Two events have the same identity: nothing that goes into it differs. -/
structure SameIdentity (x : Externals) (event event' : IncomingEvent) : Prop where
  event_type : event.canonicalKind = event'.canonicalKind
  timestamp : suppliedTimestamp event = suppliedTimestamp event'
  source : sourceOf event = sourceOf event'
  repo : repoOf event = repoOf event'
  worktree : worktreeOf event = worktreeOf event'
  session_id : sessionOf event = sessionOf event'
  source_links : linksOf event x = linksOf event' x
  shown : ∀ key ∈ PUBLIC_STRING_FIELDS, shown event key = Ledger.shown event' key

/-! ## The identity as a text -/

theorem ofOption_inj {value value' : Option String}
    (h : Json.ofOption value = Json.ofOption value') : value = value' := by
  cases value with
  | none =>
    cases value' with
    | none => rfl
    | some s => cases h
  | some s =>
    cases value' with
    | none => cases h
    | some t => rw [Json.string.inj h]

theorem numberless_ofOption (value : Option String) : (Json.ofOption value).numberless = true := by
  cases value
  all_goals rfl

theorem itemsNumberless_strings (texts : List String) : Json.itemsNumberless (texts.map .string) = true := by
  induction texts with
  | nil => rfl
  | cons text texts ih => exact ih

variable {fields : List (String × Json)}

theorem fieldsNumberless_iff : Json.fieldsNumberless fields = true ↔ ∀ field ∈ fields, field.2.numberless = true := by
  induction fields with
  | nil => simp [Json.fieldsNumberless]
  | cons field fields ih =>
    obtain ⟨key, value⟩ := field
    simp [Json.fieldsNumberless, ih]

/-- An object of values without numbers is one itself. -/
theorem numberless_ofFields
    (h : ∀ field ∈ fields, field.2.numberless = true) : (Json.ofFields fields).numberless = true := by
  have hfold : ∀ (fields : List (String × Json)) (m : OrdMap String Json),
      (∀ field ∈ fields, field.2.numberless = true) → (∀ field ∈ m, field.2.numberless = true) →
        ∀ field ∈ fields.foldl (fun (m : OrdMap String Json) p => m.insert p.1 p.2) m, field.2.numberless = true := by
    intro fields
    induction fields with
    | nil => exact fun m _ hm => hm
    | cons field fields ih =>
      intro m hfields hm
      refine ih _ (fun other hother => hfields other (mem_cons_of_mem _ hother)) ?_
      intro other hother
      rcases mem_insert hother with hother | hother
      · rw [hother]
        exact hfields field mem_cons_self
      · exact hm other hother
  exact fieldsNumberless_iff.mpr (hfold fields [] h fun _ hfield => absurd hfield not_mem_nil)

/-- A field of an object that is written with distinct names reads back. -/
theorem get_ofFields {fields : OrdMap String Json} (h : fields.keys.Nodup) (key : String) :
    (Json.ofFields fields).get key = fields.get key := by
  have hfold : ∀ (fields m : OrdMap String Json), fields.keys.Nodup →
      get (fields.foldl (fun (m : OrdMap String Json) p => m.insert p.1 p.2) m) key =
        (fields.get key).or (m.get key) := by
    intro fields
    induction fields with
    | nil => exact fun m _ => rfl
    | cons field fields ih =>
      obtain ⟨name, value⟩ := field
      intro m hnodup
      obtain ⟨hname, hnodup⟩ := nodup_cons.mp hnodup
      rw [foldl_cons, ih _ hnodup, get_cons, get_insert]
      by_cases hkey : key = name
      · have hnone : get fields key = none := get_eq_none_iff.mpr (hkey ▸ hname)
        rw [hnone, if_pos hkey, if_pos hkey]
        rfl
      · rw [if_neg hkey, if_neg hkey]
  show get _ key = _
  rw [hfold fields [] h]
  simp

/-- A field of a selection of named values. -/
theorem get_filterMap (names : List String) (f : String → Option Json) (key : String) :
    get (names.filterMap fun name => (f name).map fun value => (name, value)) key =
      if key ∈ names then f key else none := by
  induction names with
  | nil => rfl
  | cons name names ih =>
    rw [filterMap_cons]
    by_cases hkey : key = name
    · subst hkey
      cases hf : f key with
      | none => simp [ih, hf]
      | some value => simp [get_cons]
    · cases hf : f name with
      | none => simp [ih, hkey]
      | some value => simp [get_cons, ih, hkey]

section

variable (event event' : IncomingEvent) (x : Externals)

theorem nodup_identityFields : (identityFields event x).keys.Nodup := by
  show ["event_type", "timestamp", "source", "repo", "worktree", "session_id", "source_links", "identity"].Nodup
  decide

/-- The fields on the allowlist that an event shows. -/
theorem nodup_shown : (keys (PUBLIC_STRING_FIELDS.filterMap fun key =>
    (shown event key).map fun value => (key, Json.string value))).Nodup := by
  have hsublist : ∀ names : List String, List.Sublist (keys (names.filterMap fun key =>
      (shown event key).map fun value => (key, Json.string value))) names := by
    intro names
    induction names with
    | nil => exact .slnil
    | cons name names ih =>
      rw [filterMap_cons]
      cases shown event name with
      | none => exact ih.cons name
      | some value => exact ih.cons_cons name
  have hnodup : PUBLIC_STRING_FIELDS.Nodup := by decide
  exact (hsublist _).nodup hnodup

theorem numberless_identity : (Json.ofFields (identityFields event x)).numberless = true := by
  refine numberless_ofFields fun field hfield => ?_
  unfold identityFields at hfield
  simp only [mem_cons, not_mem_nil, or_false] at hfield
  rcases hfield with rfl | rfl | rfl | rfl | rfl | rfl | rfl | rfl
  · rfl
  · exact numberless_ofOption _
  · rfl
  · exact numberless_ofOption _
  · exact numberless_ofOption _
  · exact numberless_ofOption _
  · exact itemsNumberless_strings _
  · refine numberless_ofFields fun field hfield => ?_
    obtain ⟨key, -, hvalue⟩ := mem_filterMap.mp hfield
    obtain ⟨value, -, rfl⟩ := map_eq_some_iff.mp hvalue
    rfl

/-- The text of an identity determines what goes into it. -/
theorem identity_toText_inj_iff :
    (Json.ofFields (identityFields event x)).toText = (Json.ofFields (identityFields event' x)).toText ↔
      SameIdentity x event event' := by
  constructor
  · intro htext
    have hjson := Json.toText_inj (numberless_identity event x) (numberless_identity event' x) htext
    have hget (key : String) : (identityFields event x).get key = (identityFields event' x).get key := by
      rw [← get_ofFields (nodup_identityFields event x), ← get_ofFields (nodup_identityFields event' x), hjson]
    have hlinks : (linksOf event x).map Json.string = (linksOf event' x).map Json.string :=
      Json.array.inj (some.inj (hget "source_links"))
    have hshown := some.inj (hget "identity")
    refine
      { event_type := Json.string.inj (some.inj (hget "event_type"))
        timestamp := ofOption_inj (some.inj (hget "timestamp"))
        source := Json.string.inj (some.inj (hget "source"))
        repo := ofOption_inj (some.inj (hget "repo"))
        worktree := ofOption_inj (some.inj (hget "worktree"))
        session_id := ofOption_inj (some.inj (hget "session_id"))
        source_links := map_injective_iff.mpr (fun _ _ => Json.string.inj) hlinks
        shown := fun key hkey => ?_ }
    have hfield := congrArg (Json.get · key) hshown
    rw [get_ofFields (nodup_shown event), get_ofFields (nodup_shown event')] at hfield
    have hread (event : IncomingEvent) : get (PUBLIC_STRING_FIELDS.filterMap fun key =>
        (shown event key).map fun value => (key, Json.string value)) key = (shown event key).map Json.string := by
      have hmap := get_filterMap PUBLIC_STRING_FIELDS (fun key => (shown event key).map Json.string) key
      rw [if_pos hkey] at hmap
      rw [← hmap]
      simp [Function.comp_def]
    rw [hread, hread] at hfield
    exact map_injective (fun _ _ => Json.string.inj) hfield
  · intro h
    unfold identityFields
    rw [h.event_type, h.timestamp, h.source, h.repo, h.worktree, h.session_id, h.source_links]
    have hshown : (PUBLIC_STRING_FIELDS.filterMap fun key =>
        (shown event key).map fun value => (key, Json.string value)) = PUBLIC_STRING_FIELDS.filterMap fun key =>
          (shown event' key).map fun value => (key, Json.string value) :=
      filterMap_congr fun key hkey => by rw [h.shown key hkey]
    rw [hshown]

end

/-! ## Events of the pollers -/

variable {event : IncomingEvent}

/-- A normalized event that came without an identifier is recognised by its identity. -/
theorem suppliedIdentity_normalizeEvent (h : event.Unidentified) (stamp : Normalize.Stamp) :
    suppliedIdentity (normalizeEvent stamp event) (objectOf (normalizeEvent stamp event)) = none := by
  obtain ⟨fields, hpayload, hnone⟩ := h
  have hfields : Normalize.payloadFields event.payload = fields := by rw [hpayload]; rfl
  have hpass := Normalize.passed stamp fields event.kind (Normalize.canonicalEventKind event.kind (.object fields))
  unfold normalizeEvent objectOf suppliedIdentity
  rw [hfields]
  have hkey := (hpass.kept "idempotency_key" (by decide)).trans (hnone _ (by decide))
  have hsupplied : Normalize.suppliedEventId (.object fields) = none := by
    unfold Normalize.suppliedEventId Normalize.firstString
    simp [Normalize.firstWith, Json.pointer, Json.get, hnone "event_id" (by decide)]
  have hid := hpass.event_id
  have hmark := hpass.mark
  unfold Normalize.eventIdGenerated at hmark
  rw [hnone _ (by decide)] at hid
  rw [hsupplied] at hmark
  unfold GENERATED_EVENT_ID_FIELD
  rw [hkey, hid, hmark]
  simp [Json.asStr]

/-- The fields that normalization draws anew for every event without an identifier. -/
def GENERATED_FIELDS : List String := ["event_id", "correlation_id", "first_seen_at", GENERATED_EVENT_ID_FIELD]

/-- Two events differ in a field that normalization does not generate. -/
def DifferOtherwise (event event' : IncomingEvent) : Prop :=
  ∃ key ∉ GENERATED_FIELDS, event.payload.get key ≠ event'.payload.get key

/-- The hash does not collide on the texts of two events. -/
def NoCollision (x : Externals) (event event' : IncomingEvent) : Prop :=
  x.hash_bytes (dedupeText event x) = x.hash_bytes (dedupeText event' x) → dedupeText event x = dedupeText event' x

section

variable {x : Externals} {config : LedgerConfig} {event event' : IncomingEvent}
  {now now' : OffsetDateTime} {record record' : LedgerRecord}

/-- The records of two events of the pollers have the same key exactly if the events have the same
identity. -/
theorem dedupe_key_eq_iff (hevent : event.FromPoller) (hevent' : event'.FromPoller) (stamp stamp' : Normalize.Stamp)
    (hrecord : fromEvent x config (normalizeEvent stamp event) now = .ok record)
    (hrecord' : fromEvent x config (normalizeEvent stamp' event') now' = .ok record')
    (hhash : NoCollision x (normalizeEvent stamp event) (normalizeEvent stamp' event')) :
    record.dedupe_key = record'.dedupe_key ↔
      SameIdentity x (normalizeEvent stamp event) (normalizeEvent stamp' event') := by
  rw [dedupe_key_fromEvent hrecord, dedupe_key_fromEvent hrecord', ← identity_toText_inj_iff]
  have htext {event : IncomingEvent} (hevent : event.FromPoller) (stamp : Normalize.Stamp) :
      dedupeText (normalizeEvent stamp event) x =
        (Json.ofFields (identityFields (normalizeEvent stamp event) x)).toText := by
    unfold dedupeText
    rw [suppliedIdentity_normalizeEvent hevent.unidentified]
    rfl
  rw [← htext hevent, ← htext hevent']
  exact ⟨hhash, congrArg _⟩

/-- Two events of the pollers that differ get different keys exactly if they differ in what goes into
their identity. -/
theorem occurrences_distinct_iff (hevent : event.FromPoller) (hevent' : event'.FromPoller)
    (stamp stamp' : Normalize.Stamp)
    (hrecord : fromEvent x config (normalizeEvent stamp event) now = .ok record)
    (hrecord' : fromEvent x config (normalizeEvent stamp' event') now' = .ok record')
    (hhash : NoCollision x (normalizeEvent stamp event) (normalizeEvent stamp' event')) :
    (DifferOtherwise (normalizeEvent stamp event) (normalizeEvent stamp' event') →
        record.dedupe_key ≠ record'.dedupe_key) ↔
      (DifferOtherwise (normalizeEvent stamp event) (normalizeEvent stamp' event') →
        ¬ SameIdentity x (normalizeEvent stamp event) (normalizeEvent stamp' event')) := by
  have hkeys := dedupe_key_eq_iff hevent hevent' stamp stamp' hrecord hrecord' hhash
  rw [ne_eq, hkeys]

end

namespace Sample

/-- An issue of a repository, opened. -/
def issueOpened (number : ℕ) (uuid : String) : IncomingEvent :=
  normalizeEvent ⟨uuid, "2026-08-01T12:00:00Z"⟩ (.githubIssueOpened none "o/r" number "t")

/-- The issue 304 of a repository with so many comments. -/
def issueCommented (comments : ℕ) (uuid : String) : IncomingEvent :=
  normalizeEvent ⟨uuid, "2026-08-01T12:00:00Z"⟩ (.githubIssueCommented none "o/r" 304 "t" comments)

/-- The identity of an event about an issue, as a text. -/
def identityText (kind number : String) : String :=
  "\x7b\"event_type\":\"" ++ kind ++ "\",\"identity\":\x7b\"number\":\"" ++ number ++
    "\",\"repo\":\"o/r\"\x7d,\"repo\":\"o/r\",\"session_id\":null,\"source\":\"clawhip\"," ++
    "\"source_links\":[],\"timestamp\":null,\"worktree\":null\x7d"

/-- The key of the event that issue 304 was opened. -/
def openedKey : String := "fe24296c1763d499171cb686e704ac4a37b1eaf90cec87240cf58af1d2f4b19a"

/-- The key of the event that issue 305 was opened. -/
def nextOpenedKey : String := "6a7e876d533c3da1ea630ed26228d67b9a8a6db7e784eec130b7abcb9f20bf8e"

/-- The key of every event that issue 304 was commented on. -/
def commentedKey : String := "48a0af9ca8bebbe88b73d5deafa53fece4fc52ee2366d4b5a5a00a62a02abe35"

/-- The hashes of the texts of these events. -/
def hashes : OrdMap String String :=
  [(identityText "github.issue-opened" "304", openedKey), (openedKey ++ ":2026-08-01T12:00:00Z",
      "5b193b49ea0694b2d4c95f2afe1d79cbb512d5a9d53389dad43b67dc42d3ef86"),
    (identityText "github.issue-opened" "305", nextOpenedKey), (nextOpenedKey ++ ":2026-08-01T12:00:00Z",
      "ada46e6d76b110d921de6763bef945f3eb9bdf48820f152bb8b384c1347d6621"),
    (identityText "github.issue-commented" "304", commentedKey), (commentedKey ++ ":2026-08-01T12:00:00Z",
      "8bcdd6a60f86312327dcf627186edf4d056eaf42ceef29bdc6c7c09b5414f315")]

/-- A record as a line of JSON. -/
def recordLine (record : LedgerRecord) : String :=
  (Json.object [("schema_version", Json.ofNat record.schema_version), ("id", .string record.id),
    ("dedupe_key", .string record.dedupe_key), ("timestamp", .string record.timestamp),
    ("timestamp_unix", Json.ofNat record.timestamp_unix.toNat),
    ("event_type", .string record.event_type), ("source", .string record.source),
    ("repo", Json.ofOption record.repo), ("keywords", .array (record.keywords.map .string))]).toText

/-- The libraries on these events. -/
def issueExternals : Externals where
  hash_bytes text := (hashes.get text).getD
    "e3b0c44298fc1c149afbf4c8996fb92427ae41e4649b934ca495991b7852b855"
  parseUrl _ := none
  parseRfc3339 text :=
    if text = "2026-08-01T12:00:00Z" then some ⟨1785585600000000000, 0⟩ else none
  formatRfc3339 t := if t.unix_nanos = 1785585600000000000 then some "2026-08-01T12:00:00Z" else none
  encodeRecord := recordLine
  decodeRecord _ := none
  encodeSummary summary := summary.shard_id
  decodeSummary _ := none

/-- A ledger with room for some records. -/
def issueConfig : LedgerConfig := ⟨true, 7, 30, 3600, 100, 4096, 8, 32, 50, 50⟩

/-- The key of an event's record. -/
def keyOf (event : IncomingEvent) : Option String :=
  (fromEvent issueExternals issueConfig event ⟨1785585600000000000, 0⟩).toOption.map
    LedgerRecord.dedupe_key

theorem keyOf_opened : keyOf (issueOpened 304 "u1") = some openedKey := by decide +kernel

theorem keyOf_nextOpened : keyOf (issueOpened 305 "u2") = some nextOpenedKey := by decide +kernel

theorem keyOf_commented : keyOf (issueCommented 1 "u1") = some commentedKey := by decide +kernel

theorem keyOf_commented_again : keyOf (issueCommented 2 "u2") = some commentedKey := by
  decide +kernel

/-- The two comments are told apart by their number, and the two openings by their keys. -/
theorem comments_of_issues : ((issueCommented 1 "u1").payload.get "comments").bind Json.asU64 = some 1 ∧
    ((issueCommented 2 "u2").payload.get "comments").bind Json.asU64 = some 2 ∧ openedKey ≠ nextOpenedKey := by
  decide +kernel

theorem record_of_keyOf {key : String} (h : keyOf event = some key) :
    ∃ record, fromEvent issueExternals issueConfig event ⟨1785585600000000000, 0⟩ = .ok record ∧
      record.dedupe_key = key := by
  obtain ⟨record, hrecord, hkey⟩ := map_eq_some_iff.mp h
  refine ⟨record, ?_, hkey⟩
  cases hfrom : fromEvent issueExternals issueConfig event ⟨1785585600000000000, 0⟩ with
  | error error =>
    rw [hfrom] at hrecord
    cases hrecord
  | ok found =>
    rw [hfrom] at hrecord
    exact congrArg _ (some.inj hrecord)

/-- Two issues that are opened are told apart by their numbers. -/
theorem opened_issues_told_apart : ∃ record record',
    fromEvent issueExternals issueConfig (issueOpened 304 "u1") ⟨1785585600000000000, 0⟩ = .ok record ∧
    fromEvent issueExternals issueConfig (issueOpened 305 "u2") ⟨1785585600000000000, 0⟩ = .ok record' ∧
    ((DifferOtherwise (issueOpened 304 "u1") (issueOpened 305 "u2") → record.dedupe_key ≠ record'.dedupe_key) ↔
      (DifferOtherwise (issueOpened 304 "u1") (issueOpened 305 "u2") →
        ¬ SameIdentity issueExternals (issueOpened 304 "u1") (issueOpened 305 "u2"))) := by
  obtain ⟨-, -, hkeys⟩ := comments_of_issues
  obtain ⟨record, hrecord, hkey⟩ := record_of_keyOf keyOf_opened
  obtain ⟨record', hrecord', hkey'⟩ := record_of_keyOf keyOf_nextOpened
  have hhash : NoCollision issueExternals (issueOpened 304 "u1") (issueOpened 305 "u2") := by
    intro hcollide
    rw [← dedupe_key_fromEvent hrecord, ← dedupe_key_fromEvent hrecord', hkey, hkey'] at hcollide
    exact absurd hcollide hkeys
  exact ⟨record, record', hrecord, hrecord', occurrences_distinct_iff
    (.github_issue_opened none "o/r" 304 "t") (.github_issue_opened none "o/r" 305 "t") _ _ hrecord
    hrecord' hhash⟩

/-- A second comment on an issue gets the key of the first. -/
theorem second_comment_has_the_same_key : ∃ record record',
    fromEvent issueExternals issueConfig (issueCommented 1 "u1") ⟨1785585600000000000, 0⟩ = .ok record ∧
    fromEvent issueExternals issueConfig (issueCommented 2 "u2") ⟨1785585600000000000, 0⟩ = .ok record' ∧
    DifferOtherwise (issueCommented 1 "u1") (issueCommented 2 "u2") ∧
    record.dedupe_key = record'.dedupe_key := by
  obtain ⟨hone, htwo, -⟩ := comments_of_issues
  obtain ⟨record, hrecord, hkey⟩ := record_of_keyOf keyOf_commented
  obtain ⟨record', hrecord', hkey'⟩ := record_of_keyOf keyOf_commented_again
  refine ⟨record, record', hrecord, hrecord', ⟨"comments", by decide, fun hsame => ?_⟩, hkey.trans hkey'.symm⟩
  rw [hsame, htwo] at hone
  cases hone

end Sample

end Clawhip.Ledger
