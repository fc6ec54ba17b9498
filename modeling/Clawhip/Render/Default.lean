import Clawhip.Events.Constructors

/-!
# The default rendering

`DefaultRenderer::render` of `src/render/default.rs`: the text of an event in each format. An arm reads the
fields that it prints; a text that is missing or blank is an error. A rendered text is written here as the list
of its pieces.
-/

namespace Clawhip

namespace Json

def newLine (depth : ℕ) : List Char := '\n' :: List.replicate (2 * depth) ' '

mutual

/-- `serde_json::to_string_pretty`, at a depth. -/
def prettyChars (depth : ℕ) : Json → List Char
  | array (item :: items) => '[' :: (prettyItems (depth + 1) (item :: items) ++ (newLine depth ++ [']']))
  | object (field :: fields) =>
    '\x7b' :: (prettyFields (depth + 1) (field :: fields) ++ (newLine depth ++ ['\x7d']))
  | value => value.toChars

/-- The items of an array, one a line. -/
def prettyItems (depth : ℕ) : List Json → List Char
  | [] => []
  | [item] => newLine depth ++ prettyChars depth item
  | item :: next :: items =>
    newLine depth ++ (prettyChars depth item ++ ',' :: prettyItems depth (next :: items))

/-- The fields of an object, one a line. -/
def prettyFields (depth : ℕ) : List (String × Json) → List Char
  | [] => []
  | [(key, value)] => newLine depth ++ (quote key ++ ':' :: ' ' :: prettyChars depth value)
  | (key, value) :: next :: fields =>
    newLine depth ++ (quote key ++ ':' :: ' ' :: (prettyChars depth value ++
      ',' :: prettyFields depth (next :: fields)))

end

/-- `serde_json::to_string_pretty`. -/
def toTextPretty (value : Json) : String := String.ofList (value.prettyChars 0)

end Json

namespace DefaultRenderer

variable (payload : Json)

/-! ## Fields -/

def optionalStringField (key : String) : Option String := (payload.get key).bind Normalize.text

def stringField (key : String) : Except String String :=
  match optionalStringField payload key with
  | some value => .ok value
  | none => .error ("missing string field '" ++ key ++ "'")

def optionalU64Field (key : String) : Option ℕ := (payload.get key).bind Json.asU64

def fieldU64 (key : String) : Except String ℕ :=
  match optionalU64Field payload key with
  | some value => .ok value
  | none => .error ("missing integer field '" ++ key ++ "'")

def optionalBoolField (key : String) : Option Bool := (payload.get key).bind Normalize.boolish

/-- A field that is set to true. -/
def isTrue (key : String) : Bool := ((payload.get key).bind Json.asBool).getD false

/-- The pieces of a text, one after the other. -/
def text (pieces : List String) : String := String.join pieces

/-- The parts of a text, with a separator between them. -/
def joined (separator : String) (parts : List String) : String := String.intercalate separator parts

/-- What a piece says of a field, where the field has a value. -/
def part (label : String) (value : Option String) : List String := (value.map (label ++ ·)).toList

/-- What a piece says of a number, where there is one. -/
def numberPart (before after : String) (value : Option ℕ) : List String :=
  (value.map fun number => before ++ toString number ++ after).toList

/-- A field, or what is said where there is none. -/
def fieldOr (key default : String) : String := (optionalStringField payload key).getD default

/-! ## Agents and sessions -/

def agentOptionalMentionPrefix : String := ((optionalStringField payload "mention").map (· ++ " ")).getD ""

def agentContextParts : List String :=
  part "project=" (optionalStringField payload "project") ++
    part "session=" (optionalStringField payload "session_id") ++
    numberPart "elapsed=" "s" (optionalU64Field payload "elapsed_secs")

def agentDetailSuffix : String :=
  text [" (", joined ", " ([fieldOr payload "status" ""] ++ agentContextParts payload ++
    part "summary=" (optionalStringField payload "summary") ++
    part "error=" (optionalStringField payload "error_message")), ")"]

/-- Parts after a dot, if there are any. -/
def dotted (parts : List String) : String :=
  if parts.isEmpty then "" else text [" · ", joined " · " parts]

def agentInlineSuffix : String :=
  dotted (agentContextParts payload ++ part "" (optionalStringField payload "summary") ++
    part "error: " (optionalStringField payload "error_message"))

/-- The arms of an agent's events. -/
def renderAgent : MessageFormat → Except String String
  | .compact => do
    let agent_name ← stringField payload "agent_name"
    return text [agentOptionalMentionPrefix payload, "agent ", agent_name, agentDetailSuffix payload]
  | .alert => do
    let agent_name ← stringField payload "agent_name"
    return text ["🚨 ", agentOptionalMentionPrefix payload, "agent ", agent_name, agentDetailSuffix payload]
  | .inline => do
    let agent_name ← stringField payload "agent_name"
    let status ← stringField payload "status"
    return text [agentOptionalMentionPrefix payload, "[agent:", agent_name, "] ", status,
      agentInlineSuffix payload]
  | .raw => .ok payload.toTextPretty

def sessionSubject : String :=
  let tool := fieldOr payload "tool" "session"
  match (optionalStringField payload "session_name").or (optionalStringField payload "session_id") with
  | some session => text [tool, " ", session]
  | none => tool

/-- The kind of a session's event without its family. -/
def withoutSession (kind : String) : String := (Text.afterStart kind "session.").getD kind

def sessionStatusLabel (kind : String) : String :=
  if kind == "session.failed" &&
      (payload.get "authority_scope").bind Json.asStr == some "current-session" then
    "current turn failed"
  else if ["session.started", "session.blocked", "session.finished", "session.failed",
      "session.prompt-submitted", "session.prompt-delivered", "session.prompt-delivery-failed",
      "session.stopped"].contains kind then
    fieldOr payload "status" (Text.replace (withoutSession kind) "-" " ")
  else withoutSession kind

def tmuxIdentity : Option String :=
  let parts := part "" (optionalStringField payload "tmux_session") ++
    part "" (optionalStringField payload "tmux_window") ++ part "" (optionalStringField payload "tmux_pane")
  if parts.isEmpty then none else some (joined ":" parts)

/-- Whether a client is attached, where that is known. -/
def attachedPart : List String :=
  ((optionalBoolField payload "tmux_attached").map fun attached =>
    if attached then "attached" else "detached").toList

/-- The repository of a session, or else its project. -/
def sessionRepo : Option String := (optionalStringField payload "repo_name").or (optionalStringField payload "project")

def sessionDetailSuffix : String :=
  let parts := part "repo=" (sessionRepo payload) ++
    numberPart "issue=#" "" (optionalU64Field payload "issue_number") ++
    numberPart "pr=#" "" (optionalU64Field payload "pr_number") ++
    part "branch=" (optionalStringField payload "branch") ++
    part "command=" (optionalStringField payload "command_id") ++
    part "turn=" (optionalStringField payload "turn_id") ++
    part "runner=" (optionalStringField payload "test_runner") ++
    numberPart "elapsed=" "s" (optionalU64Field payload "elapsed_secs") ++
    part "summary=" (optionalStringField payload "summary") ++
    part "error=" (optionalStringField payload "error_message") ++ part "tmux=" (tmuxIdentity payload) ++
    part "pane_tty=" (optionalStringField payload "tmux_pane_tty") ++
    numberPart "clients=" "" (optionalU64Field payload "tmux_client_count") ++ attachedPart payload
  if parts.isEmpty then "" else text [" (", joined ", " parts, ")"]

def sessionInlineSuffix : String :=
  dotted (part "" (sessionRepo payload) ++ numberPart "issue #" "" (optionalU64Field payload "issue_number") ++
    numberPart "PR #" "" (optionalU64Field payload "pr_number") ++
    part "" (optionalStringField payload "branch") ++ part "" (optionalStringField payload "test_runner") ++
    numberPart "" "s" (optionalU64Field payload "elapsed_secs") ++
    part "" (optionalStringField payload "summary") ++
    part "error: " (optionalStringField payload "error_message") ++ part "tmux " (tmuxIdentity payload) ++
    part "" (optionalStringField payload "tmux_pane_tty") ++
    numberPart "" " clients" (optionalU64Field payload "tmux_client_count") ++ attachedPart payload)

def renderSessionEvent (kind : String) : MessageFormat → Except String String
  | .compact => .ok (text [agentOptionalMentionPrefix payload, sessionSubject payload, " ",
      sessionStatusLabel payload kind, sessionDetailSuffix payload])
  | .alert => .ok (text ["🚨 ", agentOptionalMentionPrefix payload, sessionSubject payload, " ",
      sessionStatusLabel payload kind, sessionDetailSuffix payload])
  | .inline => .ok (text [agentOptionalMentionPrefix payload, "[", sessionSubject payload, "] ",
      sessionStatusLabel payload kind, sessionInlineSuffix payload])
  | .raw => .ok payload.toTextPretty

def renderWorkspaceEvent (kind : String) (format : MessageFormat) : Except String String := do
  let workspace := ((optionalStringField payload "workspace_name").or
    (optionalStringField payload "workspace_root")).getD "workspace"
  let state_file ← stringField payload "state_file"
  let tool := ((optionalStringField payload "tool").or
    (optionalStringField payload "state_family")).getD "workspace"
  let summary := fieldOr payload "summary" kind
  let session_suffix := (((optionalStringField payload "session_name").or
    (optionalStringField payload "session_id")).map (" · session=" ++ ·)).getD ""
  match format with
  | .compact => return text [tool, ":", workspace, " · ", state_file, " · ", summary, session_suffix]
  | .alert =>
    return text ["🚨 ", tool, ":", workspace, " · ", state_file, " · ", summary, session_suffix]
  | .inline => return text ["[", tool, ":", workspace, "] ", state_file, session_suffix]
  | .raw => return payload.toTextPretty

/-! ## Commits -/

def worktreeDisplayName : Option String :=
  (optionalStringField payload "worktree_path").bind fun worktree_path =>
    if optionalStringField payload "repo_path" = some worktree_path then none
    else (Text.nonblank (Normalize.fileName worktree_path)).or (some worktree_path)

def gitRepoLabel : Except String String := do
  let repo ← stringField payload "repo"
  return match worktreeDisplayName payload with
    | some worktree => text [repo, "[wt:", worktree, "]"]
    | none => repo

/-- The lines of a list of summaries: the first three and the last two, if there are more than five. -/
def summaryLines (summaries : List String) (commit_count : ℕ) : List String :=
  if 5 < summaries.length then
    (summaries.take 3).map ("- " ++ ·) ++ [text ["... and ", toString (commit_count - 5), " more"]] ++
      (summaries.drop (summaries.length - 2)).map ("- " ++ ·)
  else summaries.map ("- " ++ ·)

def renderAggregatedGitCommit (format : MessageFormat) : Except String (Option String) :=
  match payload.get "commits" with
  | some (.array commits) =>
    if commits.length ≤ 1 then .ok none
    else do
      let repo ← gitRepoLabel payload
      let branch ← stringField payload "branch"
      let summaries := commits.filterMap fun commit => optionalStringField commit "summary"
      let commit_count := (optionalU64Field payload "commit_count").getD summaries.length
      let pushed := text ["git:", repo, "@", branch, " pushed ", toString commit_count, " commits:"]
      match format with
      | .alert => return some (joined "\n" (text ["🚨 ", pushed] :: summaryLines summaries commit_count))
      | .raw => return none
      | _ => return some (joined "\n" (pushed :: summaryLines summaries commit_count))
  | _ => .ok none

/-- The arms of a commit. -/
def renderGitCommit : MessageFormat → Except String String
  | .compact => do
    let repo ← gitRepoLabel payload
    let branch ← stringField payload "branch"
    let short_commit ← stringField payload "short_commit"
    let summary ← stringField payload "summary"
    return text ["git:", repo, "@", branch, " ", short_commit, " ", summary]
  | .alert => do
    let repo ← gitRepoLabel payload
    let branch ← stringField payload "branch"
    let short_commit ← stringField payload "short_commit"
    let summary ← stringField payload "summary"
    return text ["🚨 new commit in ", repo, "@", branch, ": ", short_commit, " ", summary]
  | .inline => do
    let repo ← gitRepoLabel payload
    let summary ← stringField payload "summary"
    return text ["[git] ", repo, " ", summary]
  | .raw => .ok payload.toTextPretty

/-- The arms of a branch that changed. -/
def renderBranchChanged (format : MessageFormat) : Except String String :=
  let between (before arrow : String) (after : String) : Except String String := do
    let repo ← gitRepoLabel payload
    let old_branch ← stringField payload "old_branch"
    let new_branch ← stringField payload "new_branch"
    return text [before, repo, arrow, old_branch, " -> ", new_branch, after]
  match format with
  | .compact => between "git:" " branch changed " ""
  | .alert => between "🚨 git repo " " branch changed " ""
  | .inline => between "[git:" "] " ""
  | .raw => .ok payload.toTextPretty

/-! ## Issues and pull requests -/

/-- An arm that names an issue and its title. -/
def issueArm (before between after : String) : Except String String := do
  let repo ← stringField payload "repo"
  let number ← fieldU64 payload "number"
  let title ← stringField payload "title"
  return text [before, repo, between, "#", toString number, after, title]

/-- The arms of an issue that was opened. -/
def renderIssueOpened : MessageFormat → Except String String
  | .compact => issueArm payload "" "" " opened: "
  | .alert => issueArm payload "🚨 GitHub issue opened in " ": " " "
  | .inline => issueArm payload "[GitHub] " "" " "
  | .raw => .ok payload.toTextPretty

/-- The arms of an issue that was commented on. -/
def renderIssueCommented : MessageFormat → Except String String
  | .compact => do
    let repo ← stringField payload "repo"
    let number ← fieldU64 payload "number"
    let comments ← fieldU64 payload "comments"
    let title ← stringField payload "title"
    return text [repo, "#", toString number, " commented (", toString comments, " comments): ", title]
  | .alert => issueArm payload "🚨 GitHub issue commented in " ": " " "
  | .inline => issueArm payload "[GitHub comment] " "" " "
  | .raw => .ok payload.toTextPretty

/-- The arms of an issue that was closed. -/
def renderIssueClosed : MessageFormat → Except String String
  | .compact => issueArm payload "" "" " closed: "
  | .alert => issueArm payload "🚨 GitHub issue closed in " ": " " "
  | .inline => issueArm payload "[GitHub closed] " "" " "
  | .raw => .ok payload.toTextPretty

/-- The arms of a notification. -/
def renderNotification (format : MessageFormat) : Except String String :=
  let labelled (label : String) : Except String String := do
    let repo ← stringField payload "repo"
    let subject_type ← stringField payload "subject_type"
    let reason ← stringField payload "reason"
    let title ← stringField payload "title"
    let url ← stringField payload "url"
    return text [label, " ", repo, " ", subject_type, " (", reason, "): ", title, " ", url]
  match format with
  | .raw => .ok payload.toTextPretty
  | .alert => labelled "GitHub notification"
  | .inline => labelled "[GitHub notification]"
  | .compact => labelled "GitHub"

/-- What was done to a pull request. -/
def pullRequestAction (kind : String) : Except String String :=
  match kind with
  | "github.pr-reviewed" => stringField payload "state"
  | "github.pr-review-commented" => .ok "inline comment"
  | _ => .ok "commented"

/-- The arms of a comment on a pull request, or of a review. -/
def renderPullRequest (kind : String) (format : MessageFormat) : Except String String := do
  let action ← pullRequestAction payload kind
  match format with
  | .raw => return payload.toTextPretty
  | .compact => do
    let repo ← stringField payload "repo"
    let number ← fieldU64 payload "number"
    let author ← stringField payload "author"
    let title ← stringField payload "title"
    let url ← stringField payload "url"
    return text [repo, "#", toString number, " ", action, " by ", author, ": ", title, " ", url]
  | .alert => do
    let repo ← stringField payload "repo"
    let number ← fieldU64 payload "number"
    let title ← stringField payload "title"
    let author ← stringField payload "author"
    let url ← stringField payload "url"
    return text ["GitHub PR ", action, " in ", repo, ": #", toString number, " ", title, " by ", author,
      " ", url]
  | .inline => do
    let repo ← stringField payload "repo"
    let number ← fieldU64 payload "number"
    let title ← stringField payload "title"
    let author ← stringField payload "author"
    let url ← stringField payload "url"
    return text ["[GitHub PR ", action, "] ", repo, "#", toString number, " ", title, " by ", author, " ", url]

/-- The arms of a pull request's status. -/
def renderPrStatusChanged (format : MessageFormat) : Except String String :=
  let titled (before between after_title : String) : Except String String := do
    let repo ← stringField payload "repo"
    let number ← fieldU64 payload "number"
    let old_status ← stringField payload "old_status"
    let new_status ← stringField payload "new_status"
    let title ← stringField payload "title"
    return text [before, repo, between, "#", toString number, " ", old_status, " -> ", new_status,
      if after_title.isEmpty then ": " else " (", title, after_title]
  match format with
  | .compact => titled "PR " "" ""
  | .alert => titled "🚨 PR status changed in " ": " ")"
  | .inline => do
    let repo ← stringField payload "repo"
    let number ← fieldU64 payload "number"
    let old_status ← stringField payload "old_status"
    let new_status ← stringField payload "new_status"
    return text ["[PR ", repo, "#", toString number, "] ", old_status, " -> ", new_status]
  | .raw => .ok payload.toTextPretty

/-! ## The platform -/

/-- The arms of a component's status. -/
def renderActionsStatus (format : MessageFormat) : Except String String :=
  let linked (before : String) : Except String String := do
    let component ← stringField payload "component"
    let old_status ← stringField payload "old_status"
    let new_status ← stringField payload "new_status"
    let url ← stringField payload "url"
    return text [before, component, ": ", old_status, " -> ", new_status, " (", url, ")"]
  match format with
  | .compact => linked "GitHub "
  | .alert => linked "🚨 GitHub platform "
  | .inline => do
    let component ← stringField payload "component"
    let old_status ← stringField payload "old_status"
    let new_status ← stringField payload "new_status"
    return text ["[status:", component, "] ", old_status, " -> ", new_status]
  | .raw => .ok payload.toTextPretty

/-- A body that is too long is cut. -/
def clippedBody (body : String) : String :=
  if 180 < body.length then String.ofList (body.toList.take 177) ++ "..." else body

def renderGithubActionsIncident (include_body : Bool) : Except String String := do
  let name ← stringField payload "name"
  let change ← stringField payload "change"
  let status ← stringField payload "status"
  let impact ← stringField payload "impact"
  let body :=
    if include_body then ((optionalStringField payload "update_body").map clippedBody).toList else []
  return joined " · " (text ["GitHub incident ", change, ": ", name, " (", status, ", impact=", impact,
    ")"] :: (body ++ part "" (optionalStringField payload "url")))

/-- The arms of an incident. -/
def renderIncident : MessageFormat → Except String String
  | .compact => renderGithubActionsIncident payload false
  | .alert => do
    let incident ← renderGithubActionsIncident payload true
    return text ["🚨 ", incident]
  | .inline => do
    let change ← stringField payload "change"
    let name ← stringField payload "name"
    let status ← stringField payload "status"
    return text ["[incident:", change, "] ", name, " (", status, ")"]
  | .raw => .ok payload.toTextPretty

/-! ## Continuous integration -/

def githubCiAction (kind : String) : String :=
  match kind with
  | "github.ci-started" => "started"
  | "github.ci-failed" => "failed"
  | "github.ci-passed" => "passed"
  | "github.ci-cancelled" => "cancelled"
  | _ => "updated"

def githubCiTarget : Except String String := do
  let repo ← stringField payload "repo"
  return match optionalU64Field payload "number" with
    | some number => text [repo, "#", toString number]
    | none => repo

def DISCORD_MAX_CONTENT_SCALARS : ℕ := 2000

/-- The most items of a list that fit before the mark of what is left out. -/
def keptItems (items : List String) (separator : String) (budget : ℕ) : ℕ → Option ℕ
  | 0 => none
  | kept + 1 =>
    let omitted := items.length - (kept + 1)
    let marker_len := separator.length + 1 + 2 + (toString omitted).length
    if (joined separator (items.take (kept + 1))).length + marker_len ≤ budget then some (kept + 1)
    else keptItems items separator budget kept

def truncateJoinedList (items : List String) (separator : String) (budget : ℕ) : String :=
  if items.isEmpty || budget == 0 then ""
  else if (joined separator items).length ≤ budget then joined separator items
  else match keptItems items separator budget (items.length - 1) with
    | some kept =>
      text [joined separator (items.take kept), separator, "… +", toString (items.length - kept)]
    | none =>
      let marker := text ["… +", toString items.length]
      String.ofList ((items.headD "").toList.take (budget - marker.length)) ++ marker

/-- The workflow of a job that went wrong, with its conclusion. -/
def failedJobLabel (job : Json) : Option String := do
  let workflow ← (job.get "workflow").bind Json.asStr
  let conclusion ← ((job.get "conclusion").bind Json.asStr).or ((job.get "status").bind Json.asStr)
  if ["success", "neutral", "skipped"].contains conclusion then none
  else some (text [workflow, ":", conclusion])

/-- A count and what it counts, where it is not zero. -/
def countPart (count : ℕ) (label : String) : List String :=
  if 0 < count then [text [toString count, label]] else []

def batchedJobs : Except String (List Json) :=
  match payload.get "jobs" with
  | some (.array jobs) => .ok jobs
  | _ => .error "missing batched GitHub CI jobs"

def renderBatchedGithubCi (kind : String) (include_url : Bool) : Except String String := do
  let jobs ← batchedJobs payload
  let count (key : String) (default : ℕ) : ℕ := (optionalU64Field payload key).getD default
  let target ← githubCiTarget payload
  let header := match kind with
    | "github.ci-passed" => text ["✅ CI passed · ", target, " · ", toString (count "passed_count" 0), "/",
        toString (count "total_count" jobs.length), " passed"]
    | "github.ci-failed" => text ["❌ CI failed · ", target]
    | "github.ci-cancelled" => text ["🟡 CI cancelled · ", target]
    | _ => text ["⏳ CI running · ", target]
  let workflow_names := jobs.filterMap fun job => (job.get "workflow").bind Json.asStr
  let failed_job_labels := if kind == "github.ci-failed" then jobs.filterMap failedJobLabel else []
  let counts :=
    if kind == "github.ci-failed" then []
    else countPart (count "skipped_count" 0) " skipped" ++
      countPart (count "cancelled_count" 0) " cancelled" ++ countPart (count "failed_count" 0) " failed"
  let url ← if include_url then (stringField payload "url").map fun url => [url] else .ok []
  let tail := counts ++ url
  let listed (show_list : List String → String) (items : List String) : List String :=
    if items.isEmpty then [] else [show_list items]
  let message (show_list : List String → String) : String :=
    joined " · " (header :: (listed show_list workflow_names ++ listed show_list failed_job_labels ++ tail))
  if (message (joined ", ")).length ≤ DISCORD_MAX_CONTENT_SCALARS then return message (joined ", ")
  else
    -- The lists share what the header, the counts and the link leave.
    let num_expandable := (listed (joined ", ") workflow_names ++ listed (joined ", ") failed_job_labels).length
    let essential := joined " · " (header :: tail)
    let per_list := (DISCORD_MAX_CONTENT_SCALARS - essential.length - num_expandable * 3) /
      max num_expandable 1
    let result := message fun items => truncateJoinedList items ", " per_list
    if result.length ≤ DISCORD_MAX_CONTENT_SCALARS then return result
    else return String.ofList (result.toList.take (DISCORD_MAX_CONTENT_SCALARS - 1)) ++ "…"

/-- The state of a build: its conclusion, or else its status. -/
def ciState : Except String String :=
  match (optionalStringField payload "conclusion").or (optionalStringField payload "status") with
  | some state => .ok state
  | none => .error "missing GitHub CI state"

def renderGithubCi (kind : String) (include_url : Bool) : Except String String :=
  if isTrue payload "batched" then renderBatchedGithubCi payload kind include_url
  else do
    let workflow ← stringField payload "workflow"
    let state ← ciState payload
    let sha ← stringField payload "sha"
    let target ← githubCiTarget payload
    if include_url then do
      let url ← stringField payload "url"
      return joined " · " ["CI " ++ githubCiAction kind, target, workflow, state, shortSha sha, url]
    else return joined " · " ["CI " ++ githubCiAction kind, target, workflow, state, shortSha sha]

/-- The arms of a build. -/
def renderCi (kind : String) : MessageFormat → Except String String
  | .compact => renderGithubCi payload kind true
  | .alert => do
    let rendered ← renderGithubCi payload kind true
    return text ["🚨 ", rendered]
  | .inline => renderGithubCi payload kind false
  | .raw => .ok payload.toTextPretty

/-! ## Releases and holds -/

def renderGithubRelease (kind : String) : Except String String := do
  let repo ← stringField payload "repo"
  let tag ← stringField payload "tag"
  let name := fieldOr payload "name" ""
  let action_label := match kind with
    | "github.release-prereleased" => "prereleased"
    | "github.release-edited" => "edited"
    | _ => "published"
  let pre_flag := if isTrue payload "is_prerelease" then " (prerelease)" else ""
  let name_part := if name.isEmpty || name == tag then "" else text [" \"", name, "\""]
  return joined " · " (text ["release ", action_label, " · ", repo, " ", tag, pre_flag, name_part] ::
    part "" (optionalStringField payload "url"))

/-- The arms of a release. -/
def renderRelease (kind : String) : MessageFormat → Except String String
  | .compact => renderGithubRelease payload kind
  | .alert => do
    let release ← renderGithubRelease payload kind
    return text ["🚨 ", release]
  | .inline => do
    let tag ← stringField payload "tag"
    let repo ← stringField payload "repo"
    return text ["[release] ", repo, " ", tag, if isTrue payload "is_prerelease" then " (pre)" else ""]
  | .raw => .ok payload.toTextPretty

/-- The version or the commit that a hold is about. -/
def holdRelevant : String := ((optionalStringField payload "version").or (optionalStringField payload "sha")).getD ""

def renderGajaeHold (kind : String) : Except String String := do
  let repo ← stringField payload "repo"
  let action ← stringField payload "action"
  let disallowed_action ← stringField payload "disallowed_action"
  let why ← stringField payload "why_autonomous_disallowed"
  let boundary := match kind with
    | "gajae.release.hold" => "release boundary hold"
    | "gajae.merge.hold" => "main-merge boundary hold"
    | _ => "GAJAE boundary hold"
  let relevant := holdRelevant payload
  return text [boundary, " · ", repo, " · ", action, if relevant.isEmpty then "" else " · " ++ relevant,
    " · blocked action: ", disallowed_action, " · autonomous execution disallowed: ", why]

/-- The arms of a hold. -/
def renderHold (kind : String) : MessageFormat → Except String String
  | .compact => renderGajaeHold payload kind
  | .alert => do
    let hold ← renderGajaeHold payload kind
    return text ["🚨 ", hold]
  | .inline => do
    let repo ← stringField payload "repo"
    let action ← stringField payload "action"
    return text ["[gajae hold] ", repo, " ", action, " ", holdRelevant payload]
  | .raw => .ok payload.toTextPretty

/-! ## Terminals -/

def tmuxKeywordProvenanceSuffix : String :=
  let string (key : String) : Option String := (payload.get key).bind Json.asStr
  let pane := (string "pane_id").map fun pane_id =>
    match (string "pane_name").filter fun pane_name => !pane_name.isEmpty with
    | some pane_name => text ["pane ", pane_id, "/", pane_name]
    | none => text ["pane ", pane_id]
  let parts := pane.toList ++ numberPart "cursor " "" (optionalU64Field payload "cursor") ++
    part "" (string "source")
  if parts.isEmpty then "" else text [" (", joined ", " parts, ")"]

/-- A hit of a keyword in a summary of several. -/
def hitSummary (hit : Json) : Option String := do
  let keyword ← optionalStringField hit "keyword"
  let line ← optionalStringField hit "line"
  return text ["'", keyword, "': ", line, tmuxKeywordProvenanceSuffix hit]

def renderAggregatedTmuxKeyword (format : MessageFormat) : Except String (Option String) :=
  match payload.get "hits" with
  | some (.array hits) =>
    if hits.length ≤ 1 then .ok none
    else do
      let session ← stringField payload "session"
      let hit_count := (optionalU64Field payload "hit_count").getD hits.length
      let summaries := hits.filterMap hitSummary
      match format with
      | .compact => return some (joined "\n"
          (text ["tmux:", session, " matched ", toString hit_count, " keyword hits:"] ::
            summaries.map ("- " ++ ·)))
      | .alert => return some (joined "\n"
          (text ["🚨 tmux session ", session, " hit ", toString hit_count, " keyword matches:"] ::
            summaries.map ("- " ++ ·)))
      | .inline => return some (text ["[tmux:", session, "] ", joined " · " summaries])
      | .raw => return none
  | _ => .ok none

/-- The arms of a keyword. -/
def renderTmuxKeyword : MessageFormat → Except String String
  | .compact => do
    let session ← stringField payload "session"
    let keyword ← stringField payload "keyword"
    let line ← stringField payload "line"
    return text ["tmux:", session, " matched '", keyword, "' => ", line, tmuxKeywordProvenanceSuffix payload]
  | .alert => do
    let session ← stringField payload "session"
    let keyword ← stringField payload "keyword"
    let line ← stringField payload "line"
    return text ["🚨 tmux session ", session, " hit keyword '", keyword, "': ", line,
      tmuxKeywordProvenanceSuffix payload]
  | .inline => do
    let session ← stringField payload "session"
    let line ← stringField payload "line"
    return text ["[tmux:", session, "] ", line, tmuxKeywordProvenanceSuffix payload]
  | .raw => .ok payload.toTextPretty

/-- The arms of a stale pane. -/
def renderTmuxStale (format : MessageFormat) : Except String String :=
  let lasting (before : String) : Except String String := do
    let session ← stringField payload "session"
    let pane ← stringField payload "pane"
    let minutes ← fieldU64 payload "minutes"
    let last_line ← stringField payload "last_line"
    return text [before, session, " pane ", pane, " stale for ", toString minutes, "m (last: ", last_line, ")"]
  match format with
  | .compact => lasting "tmux:"
  | .alert => lasting "🚨 tmux session "
  | .inline => do
    let session ← stringField payload "session"
    let pane ← stringField payload "pane"
    let minutes ← fieldU64 payload "minutes"
    return text ["[tmux stale:", session, " ", pane, "] ", toString minutes, "m"]
  | .raw => .ok payload.toTextPretty

/-! ## Workflows -/

def gateRevision : String := toString ((optionalU64Field payload "gate_revision").getD 0)

/-- The arms of a question. -/
def renderQuestion : MessageFormat → Except String String
  | .compact => .ok (text ["❓ GJC question ", fieldOr payload "question_id" "unknown", " · turn ",
      fieldOr payload "turn_id" "unknown", " · rev ", gateRevision payload, ": ",
      fieldOr payload "summary" "operator input requested"])
  | .alert => .ok (text ["🚨 ❓ GJC question ", fieldOr payload "question_id" "unknown",
      " needs an answer · turn ", fieldOr payload "turn_id" "unknown", " · rev ", gateRevision payload, ": ",
      fieldOr payload "summary" "operator input requested"])
  | .inline => .ok (text ["[gjc question:", fieldOr payload "question_id" "unknown", "] ",
      fieldOr payload "summary" "operator input requested"])
  | .raw => .ok payload.toTextPretty

/-- The arms of a gate. -/
def renderGate (format : MessageFormat) : Except String String :=
  let gate := text ["🚧 GJC gate ", fieldOr payload "question_id" "unknown", " blocked · turn ",
    fieldOr payload "turn_id" "unknown", " · rev ", gateRevision payload, ": ",
    fieldOr payload "summary" "workflow gate requires approval"]
  match format with
  | .alert => .ok (text ["🚨 ", gate])
  | .raw => .ok payload.toTextPretty
  | _ => .ok gate

/-- The arms of a custom event. -/
def renderCustom : MessageFormat → Except String String
  | .alert => do
    let message ← stringField payload "message"
    return text ["🚨 ", message]
  | .raw => .ok payload.toTextPretty
  | _ => stringField payload "message"

/-! ## Rendering -/

/-- The arms of `DefaultRenderer::render`. -/
def renderArm (kind : String) (format : MessageFormat) : Except String String :=
  match kind with
  | "custom" => renderCustom payload format
  | "agent.started" | "agent.blocked" | "agent.finished" | "agent.failed" => renderAgent payload format
  | "github.issue-opened" => renderIssueOpened payload format
  | "github.issue-commented" => renderIssueCommented payload format
  | "github.issue-closed" => renderIssueClosed payload format
  | "github.notification" => renderNotification payload format
  | "github.pr-commented" | "github.pr-review-commented" | "github.pr-reviewed" =>
    renderPullRequest payload kind format
  | "git.commit" => renderGitCommit payload format
  | "git.branch-changed" => renderBranchChanged payload format
  | "github.pr-status-changed" => renderPrStatusChanged payload format
  | "github.actions-status" => renderActionsStatus payload format
  | "github.actions-incident" => renderIncident payload format
  | "github.ci-started" | "github.ci-failed" | "github.ci-passed" | "github.ci-cancelled" =>
    renderCi payload kind format
  | "gajae.release.hold" | "gajae.merge.hold" => renderHold payload kind format
  | "github.release-published" | "github.release-prereleased" | "github.release-edited" =>
    renderRelease payload kind format
  | "tmux.keyword" => renderTmuxKeyword payload format
  | "tmux.stale" => renderTmuxStale payload format
  | "workflow.question" => renderQuestion payload format
  | "workflow.gate" => renderGate payload format
  | _ =>
    match format with
    | .raw => .ok payload.toTextPretty
    | _ => .ok payload.toText

/-- The summary of an event that is about several commits or hits. -/
def renderAggregated (kind : String) (format : MessageFormat) : Except String (Option String) :=
  match kind with
  | "git.commit" => renderAggregatedGitCommit payload format
  | "tmux.keyword" => renderAggregatedTmuxKeyword payload format
  | _ => .ok none

/-- What is not about sessions or workspaces: the summary of several, or else the arm of the kind. -/
def renderKind (kind : String) (format : MessageFormat) : Except String String := do
  let aggregated ← renderAggregated payload kind format
  match aggregated with
  | some rendered => return rendered
  | none => renderArm payload kind format

def render (event : IncomingEvent) (format : MessageFormat) : Except String String :=
  let kind := event.canonicalKind
  if Text.startsWith kind "session." then renderSessionEvent event.payload kind format
  else if Text.startsWith kind "workspace." then renderWorkspaceEvent event.payload kind format
  else renderKind event.payload kind format

end DefaultRenderer

end Clawhip
