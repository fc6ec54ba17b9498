import Clawhip.Events.Normalize

/-!
# The events of the pollers

The constructors of `src/events.rs` for what the pollers of repositories, of GitHub and of tmux
observe, and what they are decorated with before they are sent. No constructor puts an identifier of
its own in the payload.
-/

namespace Clawhip

open List OrdMap

structure RoutingMetadata where
  tool : Option String
  project : Option String
  repo_name : Option String
  repo_path : Option String
  worktree_path : Option String
  session_id : Option String
  branch : Option String
deriving DecidableEq

structure GitHubPRCommentEvent where
  repo : String
  number : ℕ
  title : String
  author : String
  pr_author : String
  url : String
  comment_id : ℕ

structure GitHubPRReviewEvent where
  repo : String
  number : ℕ
  title : String
  author : String
  pr_author : String
  url : String
  review_id : ℕ
  state : String

structure GitHubNotificationEvent where
  repo : String
  thread_id : String
  reason : String
  subject_type : String
  title : String
  number : Option ℕ
  url : String
  updated_at : String

def shortSha (commit : String) : String := String.ofList (commit.toList.take 7)

namespace IncomingEvent

/-- An event with these fields, each of which is there if it has a value. -/
def withFields (kind : String) (channel : Option String) (fields : OrdMap String (Option Json)) :
    IncomingEvent where
  kind := kind
  channel := channel
  mention := none
  format := none
  template := none
  payload := .object (OrdMap.fill [] fields)

/-- A text as a field. -/
def str (value : String) : Option Json := some (.string value)

/-- A count as a field. -/
def num (value : ℕ) : Option Json := some (Json.ofNat value)

/-! ## Constructors -/

section

variable (channel : Option String)

def githubIssueOpened (repo : String) (number : ℕ) (title : String) : IncomingEvent :=
  withFields "github.issue-opened" channel
    [("repo", str repo), ("number", num number), ("title", str title)]

def githubIssueCommented (repo : String) (number : ℕ) (title : String) (comments : ℕ) :
    IncomingEvent :=
  withFields "github.issue-commented" channel
    [("repo", str repo), ("number", num number), ("title", str title), ("comments", num comments)]

def githubIssueClosed (repo : String) (number : ℕ) (title : String) : IncomingEvent :=
  withFields "github.issue-closed" channel
    [("repo", str repo), ("number", num number), ("title", str title)]

/-- The fields of a comment on a pull request. -/
def prCommentFields (comment : GitHubPRCommentEvent) : OrdMap String (Option Json) :=
  [("repo", str comment.repo), ("number", num comment.number), ("title", str comment.title),
    ("author", str comment.author), ("pr_author", str comment.pr_author), ("url", str comment.url),
    ("comment_id", num comment.comment_id)]

def githubPrCommented (comment : GitHubPRCommentEvent) : IncomingEvent :=
  withFields "github.pr-commented" channel (prCommentFields comment)

def githubPrReviewCommented (comment : GitHubPRCommentEvent) (path : String) : IncomingEvent :=
  withFields "github.pr-review-commented" channel (prCommentFields comment ++ [("path", str path)])

def githubPrReviewed (review : GitHubPRReviewEvent) : IncomingEvent :=
  withFields "github.pr-reviewed" channel
    [("repo", str review.repo), ("number", num review.number), ("title", str review.title),
      ("author", str review.author), ("pr_author", str review.pr_author), ("url", str review.url),
      ("review_id", num review.review_id), ("state", str review.state)]

def gitCommit (repo branch commit summary : String) : IncomingEvent :=
  withFields "git.commit" channel
    [("repo", str repo), ("branch", str branch), ("commit", str commit),
      ("short_commit", str (shortSha commit)), ("summary", str summary)]

/-- A commit inside an event about several. -/
def commitItem (commit : String × String) : Json :=
  Json.ofFields [("commit", .string commit.1), ("short_commit", .string (shortSha commit.1)),
    ("summary", .string commit.2)]

/-- `git_commit_events`: one event for all the commits. -/
def gitCommitEvents (repo branch : String) : List (String × String) → List IncomingEvent
  | [] => []
  | [(commit, summary)] => [gitCommit channel repo branch commit summary]
  | (commit, summary) :: next :: commits =>
    let commits := (commit, summary) :: next :: commits
    [withFields "git.commit" channel [("repo", str repo), ("branch", str branch), ("commit", str commit),
        ("short_commit", str (shortSha commit)), ("summary", str summary),
        ("commit_count", num commits.length), ("commits", some (.array (commits.map commitItem)))]]

def gitBranchChanged (repo old_branch new_branch : String) : IncomingEvent :=
  withFields "git.branch-changed" channel
    [("repo", str repo), ("old_branch", str old_branch), ("new_branch", str new_branch)]

def githubPrStatusChanged (repo : String) (number : ℕ) (title old_status new_status url : String) :
    IncomingEvent :=
  withFields "github.pr-status-changed" channel
    [("repo", str repo), ("number", num number), ("title", str title),
      ("old_status", str old_status), ("new_status", str new_status), ("url", str url)]

def githubCi (kind repo : String) (number : Option ℕ) (workflow status : String)
    (conclusion : Option String) (sha url : String) (branch : Option String) : IncomingEvent :=
  withFields kind channel
    [("repo", str repo), ("workflow", str workflow), ("status", str status), ("sha", str sha),
      ("url", str url), ("number", number.bind num), ("conclusion", conclusion.bind str),
      ("branch", branch.bind str)]

/-- The kind of an event about a release. -/
def releaseKind : String → String
  | "prereleased" => "github.release-prereleased"
  | "edited" => "github.release-edited"
  | _ => "github.release-published"

def githubRelease (action repo tag name : String) (is_prerelease : Bool) (url : String)
    (actor : Option String) : IncomingEvent :=
  withFields (releaseKind action) channel
    [("repo", str repo), ("tag", str tag), ("name", str name), ("action", str action),
      ("is_prerelease", some (.bool is_prerelease)), ("url", str url), ("actor", actor.bind str)]

def githubNotification (event : GitHubNotificationEvent) : IncomingEvent :=
  withFields "github.notification" channel
    [("repo", str event.repo), ("thread_id", str event.thread_id), ("reason", str event.reason),
      ("subject_type", str event.subject_type), ("title", str event.title), ("url", str event.url),
      ("updated_at", str event.updated_at), ("number", event.number.bind num)]

def githubActionsStatus (component old_status new_status url : String) : IncomingEvent :=
  withFields "github.actions-status" channel
    [("component", str component), ("old_status", str old_status), ("new_status", str new_status),
      ("url", str url), ("provider", str "github-statuspage")]

def githubActionsIncident (incident_id name status impact change : String)
    (old_status update_id update_status update_body : Option String)
    (affected_components : List String) (url : String) : IncomingEvent :=
  withFields "github.actions-incident" channel
    [("incident_id", str incident_id), ("name", str name), ("status", str status),
      ("impact", str impact), ("change", str change), ("url", str url), ("provider", str "github-statuspage"),
      ("affected_components", some (.array (affected_components.map .string))),
      ("old_status", old_status.bind str), ("update_id", update_id.bind str),
      ("update_status", update_status.bind str), ("update_body", update_body.bind str)]

def tmuxKeyword (session keyword line : String) : IncomingEvent :=
  withFields "tmux.keyword" channel
    [("session", str session), ("keyword", str keyword), ("line", str line)]

/-- A hit inside an event about several. -/
def hitItem (hit : String × String) : Json := Json.ofFields [("keyword", .string hit.1), ("line", .string hit.2)]

def tmuxKeywordAggregated (session : String) (hits : List (String × String)) : IncomingEvent :=
  let first := hits.head?.getD ("", "")
  withFields "tmux.keyword" channel
    [("session", str session), ("keyword", str first.1), ("line", str first.2),
      ("hit_count", num hits.length), ("hits", some (.array (hits.map hitItem)))]

def tmuxKeywords (session : String) : List (String × String) → IncomingEvent
  | [] => tmuxKeyword channel session "" ""
  | [(keyword, line)] => tmuxKeyword channel session keyword line
  | hits => tmuxKeywordAggregated channel session hits

def tmuxStale (session pane : String) (minutes : ℕ) (last_line : String) : IncomingEvent :=
  withFields "tmux.stale" channel
    [("session", str session), ("pane", str pane), ("minutes", num minutes), ("last_line", str last_line)]

end

/-! ## Decorations -/

/-- Set a field of the payload; a payload that is no object stays as it is. -/
def setField (event : IncomingEvent) (key : String) : Option String → IncomingEvent
  | none => event
  | some value =>
    match event.payload with
    | .object fields =>
      { event with payload := .object (OrdMap.insert fields key (.string value)) }
    | _ => event

def withRepoContext (event : IncomingEvent) (repo_path worktree_path : Option String) :
    IncomingEvent :=
  let nonblank (value : Option String) := value.filter fun value => !(Text.trim value).isEmpty
  (event.setField "repo_path" (nonblank repo_path)).setField "worktree_path" (nonblank worktree_path)

def withRoutingMetadata (event : IncomingEvent) (routing : RoutingMetadata) : IncomingEvent :=
  [("tool", routing.tool), ("project", routing.project), ("repo_name", routing.repo_name),
    ("repo_path", routing.repo_path), ("worktree_path", routing.worktree_path),
    ("session_id", routing.session_id), ("branch", routing.branch)].foldl
      (fun event field => event.setField field.1 (Text.nonblank field.2)) event

variable {event : IncomingEvent} {key : String} {fields : List (String × Option String)}

theorem setField_get {key' : String} (h : key' ≠ key) (value : Option String) :
    (event.setField key value).payload.get key' = event.payload.get key' := by
  unfold setField
  cases value with
  | none => rfl
  | some value =>
    cases hpayload : event.payload with
    | object fields => exact get_insert_ne _ _ h
    | _ => rw [hpayload]

theorem setField_kind (event : IncomingEvent) (key : String) (value : Option String) :
    (event.setField key value).kind = event.kind := by
  unfold setField
  cases value with
  | none => rfl
  | some value => cases event.payload <;> rfl

theorem withRepoContext_get (event : IncomingEvent) (repo_path worktree_path : Option String)
    (hrepo : key ≠ "repo_path") (hworktree : key ≠ "worktree_path") :
    (event.withRepoContext repo_path worktree_path).payload.get key = event.payload.get key := by
  unfold withRepoContext
  rw [setField_get hworktree, setField_get hrepo]

theorem withRepoContext_kind (event : IncomingEvent) (repo_path worktree_path : Option String) :
    (event.withRepoContext repo_path worktree_path).kind = event.kind := by
  unfold withRepoContext
  rw [setField_kind, setField_kind]

/-- The fields that `with_routing_metadata` sets. -/
def ROUTING_FIELDS : List String :=
  ["tool", "project", "repo_name", "repo_path", "worktree_path", "session_id", "branch"]

theorem withFields_get {kind key : String} {channel : Option String} {fields : OrdMap String (Option Json)}
    (h : fields.keys.Nodup) : (withFields kind channel fields).payload.get key = (fields.get key).join := by
  show (fill [] fields).get key = _
  rw [get_fill _ h]
  rfl

/-- The events that the pollers build: the constructors, and what decorates them. -/
inductive FromPoller : IncomingEvent → Prop where
  | github_issue_opened (channel repo number title) :
      FromPoller (githubIssueOpened channel repo number title)
  | github_issue_commented (channel repo number title comments) :
      FromPoller (githubIssueCommented channel repo number title comments)
  | github_issue_closed (channel repo number title) :
      FromPoller (githubIssueClosed channel repo number title)
  | github_pr_commented (channel comment) : FromPoller (githubPrCommented channel comment)
  | github_pr_review_commented (channel comment path) :
      FromPoller (githubPrReviewCommented channel comment path)
  | github_pr_reviewed (channel review) : FromPoller (githubPrReviewed channel review)
  | git_commit (channel repo branch commit summary) :
      FromPoller (gitCommit channel repo branch commit summary)
  | git_commit_events (channel repo branch commits event)
      (h : event ∈ gitCommitEvents channel repo branch commits) : FromPoller event
  | git_branch_changed (channel repo old_branch new_branch) :
      FromPoller (gitBranchChanged channel repo old_branch new_branch)
  | github_pr_status_changed (channel repo number title old_status new_status url) :
      FromPoller (githubPrStatusChanged channel repo number title old_status new_status url)
  | github_ci (channel kind repo number workflow status conclusion sha url branch) :
      FromPoller (githubCi channel kind repo number workflow status conclusion sha url branch)
  | github_release (channel action repo tag name is_prerelease url actor) :
      FromPoller (githubRelease channel action repo tag name is_prerelease url actor)
  | github_notification (channel event) : FromPoller (githubNotification channel event)
  | github_actions_status (channel component old_status new_status url) :
      FromPoller (githubActionsStatus channel component old_status new_status url)
  | github_actions_incident (channel incident_id name status impact change old_status update_id
      update_status update_body affected_components url) :
      FromPoller (githubActionsIncident channel incident_id name status impact change old_status
        update_id update_status update_body affected_components url)
  | tmux_keyword (channel session keyword line) :
      FromPoller (tmuxKeyword channel session keyword line)
  | tmux_keywords (channel session hits) : FromPoller (tmuxKeywords channel session hits)
  | tmux_keyword_aggregated (channel session hits) :
      FromPoller (tmuxKeywordAggregated channel session hits)
  | tmux_stale (channel session pane minutes last_line) :
      FromPoller (tmuxStale channel session pane minutes last_line)
  | with_mention (event mention) (h : FromPoller event) :
      FromPoller { event with mention := mention }
  | with_format (event format) (h : FromPoller event) : FromPoller { event with format := format }
  | with_template (event template) (h : FromPoller event) :
      FromPoller { event with template := template }
  | with_repo_context (event repo_path worktree_path) (h : FromPoller event) :
      FromPoller (event.withRepoContext repo_path worktree_path)
  | with_routing_metadata (event routing) (h : FromPoller event) :
      FromPoller (event.withRoutingMetadata routing)

/-! ## Identifiers -/

/-- The fields that tell two occurrences apart by an identifier. -/
def IDENTIFIER_FIELDS : List String := ["event_id", "idempotency_key", "_clawhip_generated_event_id"]

/-- No identifier is in the payload, which is an object. -/
def Unidentified (event : IncomingEvent) : Prop :=
  ∃ fields : OrdMap String Json, event.payload = .object fields ∧ ∀ key ∈ IDENTIFIER_FIELDS, fields.get key = none

theorem unidentified_withFields {kind : String} {channel : Option String}
    {fields : OrdMap String (Option Json)} (h : ∀ key ∈ IDENTIFIER_FIELDS, key ∉ fields.keys) :
    (withFields kind channel fields).Unidentified :=
  ⟨_, rfl, fun key hkey => get_fill_of_notMem [] (h key hkey)⟩

theorem Unidentified.setField (h : event.Unidentified) (hkey : key ∉ IDENTIFIER_FIELDS)
    (value : Option String) : (event.setField key value).Unidentified := by
  obtain ⟨fields, hpayload, hnone⟩ := h
  cases value with
  | none => exact ⟨fields, hpayload, hnone⟩
  | some value =>
    refine ⟨fields.insert key (.string value), ?_, fun name hname => ?_⟩
    · unfold IncomingEvent.setField
      rw [hpayload]
    · have hne : name ≠ key := fun heq => hkey (heq ▸ hname)
      rw [get_insert_ne _ _ hne]
      exact hnone name hname

theorem Unidentified.foldl_setField (h : event.Unidentified) (hfields : ∀ field ∈ fields, field.1 ∉ IDENTIFIER_FIELDS) :
    (fields.foldl (fun event field => event.setField field.1 (Text.nonblank field.2)) event).Unidentified := by
  induction fields generalizing event with
  | nil => exact h
  | cons field fields ih =>
    exact ih (h.setField (hfields field mem_cons_self) _) fun other hother => hfields other (mem_cons_of_mem _ hother)

/-- What a poller builds names no identifier. -/
theorem FromPoller.unidentified (h : event.FromPoller) : event.Unidentified := by
  induction h with
  | git_commit_events channel repo branch commits event h =>
    rcases commits with _ | ⟨⟨commit, summary⟩, _ | ⟨next, commits⟩⟩
    · exact absurd h not_mem_nil
    all_goals
      rw [mem_singleton.mp h]
      exact unidentified_withFields (by simp [IDENTIFIER_FIELDS, OrdMap.keys])
  | tmux_keywords channel session hits =>
    rcases hits with _ | ⟨_, _ | ⟨_, _⟩⟩
    all_goals exact unidentified_withFields (by simp [IDENTIFIER_FIELDS, OrdMap.keys])
  | with_mention event mention _ ih => exact ih
  | with_format event format _ ih => exact ih
  | with_template event template _ ih => exact ih
  | with_repo_context event repo_path worktree_path _ ih => exact (ih.setField (by decide) _).setField (by decide) _
  | with_routing_metadata event routing _ ih => exact ih.foldl_setField (by simp [IDENTIFIER_FIELDS])
  | _ => exact unidentified_withFields (by simp [IDENTIFIER_FIELDS, OrdMap.keys, prCommentFields])

end IncomingEvent

end Clawhip
