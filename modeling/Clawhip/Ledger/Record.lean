import Clawhip.Events.Event
import Clawhip.Lib.Text
import Clawhip.Lib.Outcome

/-!
# Ledger records

`LedgerRecord` of `src/ledger.rs`: how a record is made from an event, and what a record that is read
back has to satisfy. `Externals` is what the ledger takes from libraries: the hash, the reading of
addresses and times, and the JSON text of its records and summaries.
-/

namespace Clawhip.Ledger

/-- `LedgerConfig`, without the path of the directory. -/
structure LedgerConfig where
  enabled : Bool
  raw_retention_days : ℕ
  summary_retention_days : ℕ
  compaction_interval_secs : ℕ
  max_records : ℕ
  max_record_bytes : ℕ
  max_keywords : ℕ
  max_keyword_bytes : ℕ
  max_query_results : ℕ
  max_records_per_compaction : ℕ

/-- What goes wrong: a named refusal, a failed call, or a text that does not parse. -/
inductive LedgerError where
  | message (text : String)
  | io
  | json
  | time
deriving DecidableEq

structure LedgerRecord where
  schema_version : ℕ
  id : String
  dedupe_key : String
  timestamp : String
  timestamp_unix : ℤ
  event_type : String
  source : String
  repo : Option String
  worktree : Option String
  session_id : Option String
  source_links : List String
  keywords : List String
deriving DecidableEq

/-- A summary of records of one day and identity. -/
structure LedgerSummary where
  schema_version : ℕ
  shard_id : String
  day : ℤ
  repo : Option String
  worktree : Option String
  session_id : Option String
  first_timestamp_unix : ℤ
  last_timestamp_unix : ℤ
  event_counts : List (String × ℕ)
  top_keywords : List String
  source_record_ids : List String
  source_dedupe_keys : List String
  source_links : List String

/-- What the ledger reads of `reqwest::Url`. -/
structure Url where
  scheme : String
  username : String
  password : Option String
  host_str : Option String
  path_segments : Option (List String)
  query : Option String
  fragment : Option String

/-- `OffsetDateTime`: an instant in nanoseconds, and the offset that it is written with. -/
structure OffsetDateTime where
  unix_nanos : ℤ
  offset_secs : ℤ

def OffsetDateTime.unixTimestamp (t : OffsetDateTime) : ℤ := t.unix_nanos / 1000000000

/-- What the ledger takes from libraries. -/
structure Externals where
  /-- The hexadecimal SHA-256 of a text. -/
  hash_bytes : String → String
  parseUrl : String → Option Url
  parseRfc3339 : String → Option OffsetDateTime
  formatRfc3339 : OffsetDateTime → Option String
  encodeRecord : LedgerRecord → String
  decodeRecord : String → Option LedgerRecord
  encodeSummary : LedgerSummary → String
  decodeSummary : String → Option LedgerSummary

/-! ## Bounds -/

def SCHEMA_VERSION : ℕ := 1
def MAX_EVENT_TYPE_BYTES : ℕ := 256
def MAX_SOURCE_BYTES : ℕ := 128
def MAX_REPO_CHARS : ℕ := 512
def MAX_WORKTREE_CHARS : ℕ := 1024
def MAX_SESSION_CHARS : ℕ := 256
def MAX_RECORD_SOURCE_LINKS : ℕ := 8
def MAX_SUMMARY_SOURCE_LINKS : ℕ := 32
def MAX_SOURCE_LINK_BYTES : ℕ := 1024
def MAX_SUMMARY_RECORDS : ℕ := 64

def GENERATED_EVENT_ID_FIELD : String := "_clawhip_generated_event_id"

def PUBLIC_STRING_FIELDS : List String :=
  ["repo", "repo_name", "repo_path", "worktree", "worktree_path", "session_id", "project",
    "provider", "tool", "branch", "status", "source", "source_url", "html_url", "url", "commit",
    "sha", "number", "timestamp", "event_timestamp", "observed_at", "created_at"]

def PRIVATE_FIELD_MARKERS : List String :=
  ["raw", "private", "secret", "token", "webhook", "prompt", "message", "content", "body",
    "command", "output", "stderr", "stdout", "authorization", "cookie"]

/-- The day of an instant, in UTC. -/
def dayOf (timestamp_unix : ℤ) : ℤ := timestamp_unix / 86400

def LedgerRecord.day (record : LedgerRecord) : ℤ := dayOf record.timestamp_unix

/-! ## Texts -/

/-- A text cut at every character that satisfies `p`. -/
def splitAt (p : Char → Bool) (s : String) : List String := (s.toList.splitOnP p).map String.ofList

/-- `first_string` of the ledger: the first key that has a text, as it is. -/
def firstString (object : OrdMap String Json) (keys : List String) : Option String :=
  keys.findSome? fun key => (object.get key).bind Json.asStr

def bounded (value : Option String) (max : ℕ) : Option String :=
  (value.map fun value => String.ofList (value.toList.take max)).filter fun value => !value.isEmpty

def publicIdentityValue : Json → Option String
  | .string value => bounded (some value) MAX_SOURCE_LINK_BYTES
  | .number value => some value.toText
  | .bool value => some (toString value)
  | _ => none

def normalizeKeyword (value : String) : String := Text.toAsciiLowercase (Text.trim value)

def pushKeyword (config : LedgerConfig) (values : List String) (value : String) : List String :=
  let value := normalizeKeyword value
  if value.utf8ByteSize < 2 || value.utf8ByteSize > config.max_keyword_bytes ||
      decide (config.max_keywords ≤ values.length) || values.contains value then
    values
  else values ++ [value]

def pushBoundedUnique (max_bytes max_count : ℕ) (values : List String) (value : String) :
    List String :=
  if decide (max_count ≤ values.length) || value.utf8ByteSize > max_bytes ||
      values.contains value then
    values
  else values ++ [value]

def validOptionalChars (value : Option String) (max_chars : ℕ) : Bool :=
  value.all fun value => !value.isEmpty && decide (value.length ≤ max_chars)

def valuesAreUnique (values : List String) : Bool := decide values.Nodup

def validKeywords (config : LedgerConfig) (values : List String) : Bool :=
  decide (values.length ≤ config.max_keywords) && valuesAreUnique values &&
    values.all fun value => decide (2 ≤ value.utf8ByteSize) &&
      decide (value.utf8ByteSize ≤ config.max_keyword_bytes) && value == normalizeKeyword value

def isSha256Hex (value : String) : Bool :=
  value.utf8ByteSize == 64 &&
    value.toList.all fun c => c.isDigit || (decide ('a' ≤ c) && decide (c ≤ 'f'))

/-! ## Links -/

section Links

variable (x : Externals)

/-- The version segment of an interface, such as `v10`. -/
def isVersionSegment (segment : String) : Bool :=
  match segment.toList with
  | 'v' :: version | 'V' :: version => !version.isEmpty && version.all Char.isDigit
  | _ => false

def eqIgnoreAsciiCase (s t : String) : Bool := Text.toAsciiLowercase s == Text.toAsciiLowercase t

def isCredentialBearingUrl (value : String) : Bool :=
  match x.parseUrl value with
  | none => false
  | some url =>
    let host := Text.toAsciiLowercase (url.host_str.getD "")
    let segments := url.path_segments.getD []
    let discord_host := host == "discord.com" || Text.endsWith host ".discord.com" ||
      host == "discordapp.com" || Text.endsWith host ".discordapp.com"
    let discord_webhook_index : Option ℕ :=
      if segments[1]?.any fun segment => eqIgnoreAsciiCase segment "webhooks" then some 1
      else if segments[1]?.any isVersionSegment &&
          segments[2]?.any fun segment => eqIgnoreAsciiCase segment "webhooks" then
        some 2
      else none
    let discord_webhook := discord_host &&
      segments.head?.any (fun segment => eqIgnoreAsciiCase segment "api") &&
      discord_webhook_index.any fun index => decide (index + 3 ≤ segments.length)
    let slack_webhook := host == "hooks.slack.com" &&
      segments.head?.any fun segment => eqIgnoreAsciiCase segment "services"
    let telegram_bot := host == "api.telegram.org" &&
      segments.head?.any fun segment => Text.startsWith (Text.toAsciiLowercase segment) "bot"
    discord_webhook || slack_webhook || telegram_bot

def isPublicLink (value : String) : Bool :=
  if value.utf8ByteSize > MAX_SOURCE_LINK_BYTES || isCredentialBearingUrl x value then false
  else (x.parseUrl value).any fun url =>
    (url.scheme == "http" || url.scheme == "https") && url.username.isEmpty &&
      url.password.isNone && url.query.isNone && url.fragment.isNone

def validSourceLinks (values : List String) (max_count : ℕ) : Bool :=
  decide (values.length ≤ max_count) && valuesAreUnique values &&
    values.all fun value =>
      decide (value.utf8ByteSize ≤ MAX_SOURCE_LINK_BYTES) && isPublicLink x value

end Links

/-! ## Records -/

namespace LedgerRecord

variable (x : Externals) (config : LedgerConfig)

def validate (record : LedgerRecord) : Except LedgerError Unit :=
  match x.parseRfc3339 record.timestamp with
  | none => .error (.message "invalid_ledger_record_timestamp")
  | some parsed_timestamp =>
    if record.schema_version != SCHEMA_VERSION || !isSha256Hex record.id ||
        !isSha256Hex record.dedupe_key || record.event_type.isEmpty ||
        record.event_type.utf8ByteSize > MAX_EVENT_TYPE_BYTES || record.source.isEmpty ||
        record.source.utf8ByteSize > MAX_SOURCE_BYTES ||
        parsed_timestamp.unixTimestamp != record.timestamp_unix ||
        !validOptionalChars record.repo MAX_REPO_CHARS ||
        !validOptionalChars record.worktree MAX_WORKTREE_CHARS ||
        !validOptionalChars record.session_id MAX_SESSION_CHARS ||
        !validSourceLinks x record.source_links MAX_RECORD_SOURCE_LINKS then
      .error (.message "invalid_ledger_record")
    else if !validKeywords config record.keywords then
      .error (.message "invalid_ledger_keywords")
    else if (x.encodeRecord record).utf8ByteSize > config.max_record_bytes then
      .error (.message "ledger_record_too_large")
    else .ok ()

def rejectPrivateStorageRequests (object : OrdMap String Json) : Except LedgerError Unit :=
  if object.keys.any fun key =>
      let lower := Text.toAsciiLowercase key
      PRIVATE_FIELD_MARKERS.any (fun marker => Text.contains lower marker) &&
        ["raw", "raw_payload", "private", "private_payload", "retain_raw", "store_raw"].contains
          lower then
    .error (.message "ledger_raw_private_payload_rejected")
  else .ok ()

/-- The links of a payload that may be kept; one that holds credentials is refused. -/
def sourceLinks (object : OrdMap String Json) : Except LedgerError (List String) :=
  ["source_url", "html_url", "url"].foldlM (fun source_links key => match (object.get key).bind Json.asStr with
    | none => .ok source_links
    | some value =>
      if isCredentialBearingUrl x value then
        .error (.message "ledger_credential_bearing_source_link_rejected")
      else if isPublicLink x value then
        .ok (pushBoundedUnique MAX_SOURCE_LINK_BYTES MAX_RECORD_SOURCE_LINKS source_links value)
      else .ok source_links) []

/-- The words that an event is found by, before they are normalized and bounded. -/
def keywordTokens (event : IncomingEvent) (object : OrdMap String Json) : List String :=
  splitAt (fun c => c == '.' || c == '-' || c == '_') event.canonicalKind ++
  ["status", "branch", "repo", "repo_name", "provider", "tool"].flatMap (fun key =>
    match (object.get key).bind Json.asStr with
    | none => []
    | some value => splitAt (fun c => !c.isAlphanum && c != '-' && c != '_') value) ++
  match object.get "keywords" with
  | some (.array values) => values.filterMap Json.asStr
  | _ => []

/-- What the event's sender supplies to recognise a repetition by. -/
def suppliedIdentity (event : IncomingEvent) (object : OrdMap String Json) : Option String :=
  let generated_event_id :=
    match (object.get GENERATED_EVENT_ID_FIELD).bind Json.asStr, (object.get "event_id").bind Json.asStr with
    | some generated, some current => generated == current
    | _, _ => false
  (((object.get "idempotency_key").bind Json.asStr).map fun key =>
    match (object.get "subscription_name").bind Json.asStr with
    | some name => (Json.array [.string event.canonicalKind,
        .string (String.ofList (name.toList.take MAX_SESSION_CHARS)), .string key]).toText
    | none => key).or
  (if generated_event_id then none else firstString object ["event_id"])

/-- `LedgerRecord::from_event`; `now` is the time for an event that says none. -/
def fromEvent (event : IncomingEvent) (now : OffsetDateTime) : Except LedgerError LedgerRecord :=
  match event.payload with
  | .object fields => do
    let object : OrdMap String Json := fields
    rejectPrivateStorageRequests object
    let supplied_timestamp :=
      firstString object ["event_timestamp", "timestamp", "observed_at", "created_at"]
    let timestamp := (supplied_timestamp.bind x.parseRfc3339).getD now
    let repo := bounded (firstString object ["repo", "repo_name", "repo_path", "project"])
      MAX_REPO_CHARS
    let worktree := bounded (firstString object ["worktree", "worktree_path", "repo_path"])
      MAX_WORKTREE_CHARS
    let session_id := bounded (firstString object ["session_id"]) MAX_SESSION_CHARS
    let source := (bounded (firstString object ["source", "provider", "tool"]) MAX_SOURCE_BYTES).getD "clawhip"
    let source_links ← sourceLinks x object
    let keywords := (keywordTokens event object).foldl (pushKeyword config) []
    let timestamp_text ← (x.formatRfc3339 timestamp).elim (.error .time) .ok
    let identity := Json.ofFields [("event_type", .string event.canonicalKind),
      ("timestamp", Json.ofOption supplied_timestamp), ("source", .string source),
      ("repo", Json.ofOption repo), ("worktree", Json.ofOption worktree),
      ("session_id", Json.ofOption session_id), ("source_links", .array (source_links.map .string)),
      ("identity", Json.ofFields (PUBLIC_STRING_FIELDS.filterMap fun key =>
        ((object.get key).bind publicIdentityValue).map fun value => (key, .string value)))]
    let dedupe_key := x.hash_bytes ((suppliedIdentity event object).getD identity.toText)
    let record : LedgerRecord := {
      schema_version := SCHEMA_VERSION
      id := x.hash_bytes (dedupe_key ++ ":" ++ timestamp_text)
      dedupe_key
      timestamp := timestamp_text
      timestamp_unix := timestamp.unixTimestamp
      event_type := event.canonicalKind
      source
      repo
      worktree
      session_id
      source_links
      keywords }
    record.validate x config
    return record
  | _ => .error (.message "ledger_payload_must_be_object")

end LedgerRecord

end Clawhip.Ledger
