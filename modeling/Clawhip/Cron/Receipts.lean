import Clawhip.Events.Event
import Clawhip.Lib.Text

/-!
# Receipts of cron jobs

The part of `src/cron.rs` that reads the state file of a job: what a receipt says of the backlog, and
whether a tick of the job is suppressed.
-/

namespace Clawhip.Cron

/-- `CronJob`; the kind is `CronJobKind::CustomMessage`, the only one. -/
structure CronJob where
  id : String
  schedule : String
  timezone : String := "UTC"
  enabled : Bool := true
  channel : Option String := none
  mention : Option String := none
  format : Option MessageFormat := none
  state_file : Option String := none
  zero_backlog_suppression_ttl_secs : ℕ := 60 * 60
  message : String

structure StateEvaluation where
  fingerprint : String
  suppression_key : String
  zero_backlog : Bool
  observation_source : String
  observation_confidence : String
  github_api_fallback : Bool

structure ZeroBacklogSuppression where
  key : String
  expires_at : ℤ

/-! ## Fields -/

def numericField (value : Json) (key : String) : Option ℕ := (value.get key).bind Json.asU64

def boolField (value : Json) (key : String) : Bool := ((value.get key).bind Json.asBool).getD false

def strField (value : Json) (key : String) : Option String := (value.get key).bind Json.asStr

def boundedPublicToken (value : String) : String :=
  String.ofList ((value.toList.filter fun ch => ch.isAlphanum || ['-', '_', '.', ':', '/'].contains ch).take 96)

def publicValue : Json → Json
  | .string value => .string (boundedPublicToken value)
  | .array values => .ofNat values.length
  | .object _ => .string "object"
  | value => value

/-- The fields that `public_suppression_state` keeps. -/
def publicKeys : List String :=
  ["family", "status", "receipt_id", "subject", "open_issues", "open_prs", "latest_dev_ci", "dev_ci",
    "dev_head", "branch_head", "head_sha", "dev_check_summary", "check_summary",
    "active_sessions_needing_action", "sessions_needing_action", "session_stale_events",
    "approval_hold", "release_hold", "action_needed_sessions", "action_required", "observation_source",
    "stop_decision", "new_event_id", "github_api_status", "github_api", "observation_source",
    "fallback_evidence"]

def insertPublicValue (value : Json) (state : OrdMap String Json) (key : String) : OrdMap String Json :=
  match value.get key with
  | some value => state.insert key (publicValue value)
  | none => state

def publicSuppressionState (value : Json) : OrdMap String Json := publicKeys.foldl (insertPublicValue value) []

/-! ## Validators -/

def githubApiFailed (value : Json) : Bool :=
  let status := (((value.get "github_api_status").or (value.get "github_api")).bind Json.asStr).map
    fun status => Text.toAsciiLowercase (Text.trim status)
  status.any fun status =>
    ["rate_limited", "rate-limited", "ratelimited", "throttled", "error", "errored", "failed",
      "failure", "unavailable", "degraded"].contains status

def fallbackHasAuthority (value : Json) : Bool := !githubApiFailed value || boolField value "fallback_evidence"

def validatedZeroBacklogFamily (value : Json) : Bool :=
  (strField value "family").any fun family =>
    ["runtime-followup-receipt", "zero-backlog-checkpoint", "backlog-suppression-snapshot",
      "zero-backlog-post-merge-event-coalescing"].contains family

def receiptStatusValidated (value : Json) : Bool :=
  (strField value "status").any fun status => ["validated", "valid"].contains status

def ciIsGreen (value : Json) : Bool :=
  (((value.get "latest_dev_ci").or (value.get "dev_ci")).bind Json.asStr).any fun status =>
    ["green", "passed", "success"].contains status

/-- `gajae::ZERO_BACKLOG_FOLLOWUP_CHECKPOINT_FAMILY`. -/
def ZERO_BACKLOG_FOLLOWUP_CHECKPOINT_FAMILY : String := "zero-backlog-followup-checkpoint"

def isFullZeroBacklogReceipt (value : Json) : Bool :=
  validatedZeroBacklogFamily value && receiptStatusValidated value &&
    numericField value "open_issues" == some 0 && numericField value "open_prs" == some 0 &&
    ciIsGreen value && (numericField value "active_sessions_needing_action").getD 0 == 0 &&
    (numericField value "sessions_needing_action").getD 0 == 0 &&
    (numericField value "session_stale_events").getD 0 == 0 &&
    !boolField value "approval_hold" && !boolField value "release_hold" && fallbackHasAuthority value

def isLightweightZeroBacklogCheckpoint (value : Json) : Bool :=
  strField value "family" == some ZERO_BACKLOG_FOLLOWUP_CHECKPOINT_FAMILY &&
    receiptStatusValidated value && numericField value "open_issues" == some 0 &&
    numericField value "open_prs" == some 0 &&
    (numericField value "action_needed_sessions").getD 0 == 0 &&
    !boolField value "approval_hold" && !boolField value "release_hold" &&
    !boolField value "action_required" &&
    strField value "stop_decision" == some "suppress-followup" &&
    boolField value "stop_decision_deterministic"

def isValidatedZeroBacklogReceipt (value : Json) : Bool :=
  isFullZeroBacklogReceipt value || isLightweightZeroBacklogCheckpoint value

/-! ## Evaluation -/

def observationSource (value : Json) (github_api_fallback : Bool) : String :=
  match ((strField value "observation_source").map boundedPublicToken).filter (!·.isEmpty) with
  | some token => token
  | none => if github_api_fallback then "github-api-fallback" else "github-api"

def observationConfidence (value : Json) (zero_backlog github_api_fallback : Bool) : String :=
  if zero_backlog then "validated"
  else if github_api_fallback && !fallbackHasAuthority value then "fallback-unverified"
  else "reported"

/-- What `evaluate_state_file` makes of a receipt. -/
def evaluateReceipt (value : Json) : StateEvaluation :=
  let canonical := Json.toText (.object (publicSuppressionState value))
  let fingerprint := Text.hex16 (Text.fnv1a64 canonical)
  let github_api_fallback := githubApiFailed value
  let zero_backlog := isValidatedZeroBacklogReceipt value
  { fingerprint
    suppression_key := "gajae-zero-backlog:" ++ fingerprint
    zero_backlog
    observation_source := observationSource value github_api_fallback
    observation_confidence := observationConfidence value zero_backlog github_api_fallback
    github_api_fallback }

/-- What a job finds in its surroundings: the files, and `serde_json::from_str`. -/
structure Receipts where
  /-- `read_to_string`, if it can read the file. -/
  files : String → Option String
  parse : String → Option Json

/-- The receipt in a state file, if there is one. -/
def Receipts.receipt (env : Receipts) (path : String) : Option Json := do
  let content ← env.files path
  let trimmed := Text.trim content
  if trimmed.isEmpty then none else env.parse trimmed

def Receipts.evaluateStateFile (env : Receipts) (path : String) : Option StateEvaluation :=
  (env.receipt path).map evaluateReceipt

def shouldSuppress (job : CronJob) (eval : StateEvaluation) (previous_fingerprint : Option String)
    (suppression : Option ZeroBacklogSuppression) (now : ℤ) : Bool :=
  if job.zero_backlog_suppression_ttl_secs = 0 ∨ eval.zero_backlog = false then false
  else
    previous_fingerprint == some eval.fingerprint &&
      suppression.any fun suppression =>
        suppression.key == eval.suppression_key && decide (now < suppression.expires_at)

end Clawhip.Cron
