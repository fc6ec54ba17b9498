import Clawhip.Render.StateFiles

/-!
# What the sources build can be rendered

Whether an event of the sources can be rendered is read off the values that it was built from. `rendered_iff`
lists, for every constructor and format, the texts that must not be blank: a single commit with a blank subject
cannot be rendered, though several can.
-/

namespace Clawhip.DefaultRenderer

open List OrdMap IncomingEvent Text

open Normalize

attribute [local irreducible] mapNativeSignal

/-! ## The sources -/

/-- The kinds of `github_ci` that the sources pass. -/
def CI_KINDS : List String := ["github.ci-started", "github.ci-failed", "github.ci-passed", "github.ci-cancelled"]

/-- The events that the sources build, with the texts that must not be blank in a format. -/
inductive Built (format : MessageFormat) : IncomingEvent → List String → Prop where
  | git_commit (channel repo branch commit summary event)
      (h : event ∈ IncomingEvent.gitCommitEvents channel repo branch [(commit, summary)]) :
      Built format event
        (byFormat [repo, branch, shortSha commit, summary] [repo, branch, shortSha commit, summary]
          [repo, summary] [] format)
  | git_commits (channel repo branch first second rest event)
      (h : event ∈ IncomingEvent.gitCommitEvents channel repo branch (first :: second :: rest)) :
      Built format event [repo, branch]
  | git_branch_changed (channel repo old_branch new_branch) :
      Built format (IncomingEvent.gitBranchChanged channel repo old_branch new_branch)
        (byFormat [repo, old_branch, new_branch] [repo, old_branch, new_branch]
          [repo, old_branch, new_branch] [] format)
  | github_issue_opened (channel repo number title) :
      Built format (IncomingEvent.githubIssueOpened channel repo number title)
        (byFormat [repo, title] [repo, title] [repo, title] [] format)
  | github_issue_commented (channel repo number title comments) :
      Built format (IncomingEvent.githubIssueCommented channel repo number title comments)
        (byFormat [repo, title] [repo, title] [repo, title] [] format)
  | github_issue_closed (channel repo number title) :
      Built format (IncomingEvent.githubIssueClosed channel repo number title)
        (byFormat [repo, title] [repo, title] [repo, title] [] format)
  | github_pr_commented (channel comment) :
      Built format (IncomingEvent.githubPrCommented channel comment)
        (byFormat [comment.repo, comment.author, comment.title, comment.url]
          [comment.repo, comment.title, comment.author, comment.url]
          [comment.repo, comment.title, comment.author, comment.url] [] format)
  | github_pr_review_commented (channel comment path) :
      Built format (IncomingEvent.githubPrReviewCommented channel comment path)
        (byFormat [comment.repo, comment.author, comment.title, comment.url]
          [comment.repo, comment.title, comment.author, comment.url]
          [comment.repo, comment.title, comment.author, comment.url] [] format)
  | github_pr_reviewed (channel review) :
      Built format (IncomingEvent.githubPrReviewed channel review)
        (review.state :: byFormat [review.repo, review.author, review.title, review.url]
          [review.repo, review.title, review.author, review.url]
          [review.repo, review.title, review.author, review.url] [] format)
  | github_pr_status_changed (channel repo number title old_status new_status url) :
      Built format
        (IncomingEvent.githubPrStatusChanged channel repo number title old_status new_status url)
        (byFormat [repo, old_status, new_status, title] [repo, old_status, new_status, title]
          [repo, old_status, new_status] [] format)
  | github_ci (channel kind repo number workflow status conclusion sha url branch) (h : kind ∈ CI_KINDS) :
      Built format
        (IncomingEvent.githubCi channel kind repo number workflow status conclusion sha url branch)
        (byFormat [workflow, (Text.nonblank conclusion).getD status, sha, repo, url]
          [workflow, (Text.nonblank conclusion).getD status, sha, repo, url]
          [workflow, (Text.nonblank conclusion).getD status, sha, repo] [] format)
  | github_release (channel action repo tag name is_prerelease url actor) :
      Built format (IncomingEvent.githubRelease channel action repo tag name is_prerelease url actor)
        (byFormat [repo, tag] [repo, tag] [tag, repo] [] format)
  | github_notification (channel notification) :
      Built format (IncomingEvent.githubNotification channel notification)
        (byFormat [notification.repo, notification.subject_type, notification.reason, notification.title,
            notification.url]
          [notification.repo, notification.subject_type, notification.reason, notification.title,
            notification.url]
          [notification.repo, notification.subject_type, notification.reason, notification.title,
            notification.url] [] format)
  | github_actions_status (channel component old_status new_status url) :
      Built format (IncomingEvent.githubActionsStatus channel component old_status new_status url)
        (byFormat [component, old_status, new_status, url] [component, old_status, new_status, url]
          [component, old_status, new_status] [] format)
  | github_actions_incident (channel incident_id name status impact change old_status update_id
      update_status update_body affected_components url) :
      Built format (IncomingEvent.githubActionsIncident channel incident_id name status impact change
          old_status update_id update_status update_body affected_components url)
        (byFormat [name, change, status, impact] [name, change, status, impact] [change, name, status] []
          format)
  | tmux_keywords_none (channel session) :
      Built format (IncomingEvent.tmuxKeywords channel session [])
        (byFormat [session, "", ""] [session, "", ""] [session, ""] [] format)
  | tmux_keywords_one (channel session keyword line) :
      Built format (IncomingEvent.tmuxKeywords channel session [(keyword, line)])
        (byFormat [session, keyword, line] [session, keyword, line] [session, line] [] format)
  | tmux_keywords (channel session first second rest) :
      Built format (IncomingEvent.tmuxKeywords channel session (first :: second :: rest)) [session]
  | tmux_stale (channel session pane minutes last_line) :
      Built format (IncomingEvent.tmuxStale channel session pane minutes last_line)
        (byFormat [session, pane, last_line] [session, pane, last_line] [session, pane] [] format)
  | workspace (matched previous current events event)
      (hdiff : Workspace.diffWorkspaceState matched previous current = some events)
      (h : event ∈ events) : Built format event []

/-! ## Events with fields -/

/-- A payload has the fields that an event was built with, and none that neither they nor normalization
write. -/
structure Carries (payload : Json) (fields : OrdMap String (Option Json)) : Prop where
  object : ∃ written, payload = .object written
  has : ∀ {key : String} {value : Json}, fields.get key = some (some value) →
    key ≠ "_clawhip_generated_event_id" → payload.get key = some value
  lacks : ∀ {key : String}, (fields.get key).join = none → key ∉ firstNames ++ tailNames →
    payload.get key = none

/-- A kind that says neither a session's nor a workspace's event, and no other kind. -/
structure PlainKind (kind : String) : Prop where
  native : canonicalEventKind kind (.object []) = kind
  own : ∀ event : IncomingEvent, event.kind = kind → event.canonicalKind = kind
  session : Text.startsWith kind "session." = false
  workspace : Text.startsWith kind "workspace." = false

/-- The kinds of the sources, those of workspaces aside. -/
def SOURCE_KINDS : List String :=
  ["git.commit", "git.branch-changed", "github.issue-opened", "github.issue-commented",
    "github.issue-closed", "github.pr-commented", "github.pr-review-commented", "github.pr-reviewed",
    "github.pr-status-changed", "github.release-published", "github.release-prereleased",
    "github.release-edited", "github.notification", "github.actions-status", "github.actions-incident",
    "tmux.keyword", "tmux.stale"] ++ CI_KINDS

/-- An event of a kind that says nothing else. -/
def ofKind (kind : String) : IncomingEvent where
  kind := kind
  channel := none
  mention := none
  format := none
  template := none
  payload := .null

variable {event : IncomingEvent} {kind : String}

theorem canonicalKind_ofKind (h : event.kind = kind) : event.canonicalKind = (ofKind kind).canonicalKind := by
  unfold canonicalKind ofKind
  rw [h]

theorem plainKind (h : kind ∈ SOURCE_KINDS) : PlainKind kind where
  native := (by decide +kernel : ∀ k ∈ SOURCE_KINDS, canonicalEventKind k (.object []) = k) kind h
  own := fun event hkind => by
    have hall : ∀ k ∈ SOURCE_KINDS, (ofKind k).canonicalKind = k := by decide +kernel
    exact (canonicalKind_ofKind hkind).trans (hall kind h)
  session := (by decide +kernel : ∀ k ∈ SOURCE_KINDS, startsWith k "session." = false) kind h
  workspace := (by decide +kernel : ∀ k ∈ SOURCE_KINDS, startsWith k "workspace." = false) kind h

section Fields

variable {format : MessageFormat} {kind : String} {channel : Option String}
  {fields : OrdMap String (Option Json)} {stamp : Stamp} {texts : List String} {payload : Json}

theorem carries_withFields (hnodup : fields.keys.Nodup) :
    Carries (normalizeEvent stamp (withFields kind channel fields)).payload fields where
  object := ⟨_, payload_normalize rfl⟩
  has := fun hget hmark => by
    refine get_normalize rfl ?_ hmark
    rw [get_fill [] hnodup, hget]
    rfl
  lacks := fun hget hkey => by
    refine get_normalize_none rfl ?_ hkey
    rw [get_fill [] hnodup, hget]
    rfl

theorem Carries.raw (h : Carries payload fields) : RendersIff (.ok payload.toTextPretty) [] := by
  obtain ⟨_, hobject⟩ := h.object
  exact rendersIff_raw hobject

/-- The keys of fields that normalization leaves alone. -/
def Kept (fields : OrdMap String (Option Json)) : Prop :=
  fields.keys.Nodup ∧ ∀ key ∈ "_clawhip_generated_event_id" :: SIGNAL_FIELDS, key ∉ fields.keys

/-- An event with fields is rendered by its kind. -/
theorem kind_iff (hkind : kind ∈ SOURCE_KINDS) (hkept : Kept fields) (h : ∀ payload, Carries payload fields →
      (∀ {key value}, fields.get key = some (some value) → payload.get key = some value) →
        RendersIff (renderKind payload kind format) texts) :
    RendersIff (render (normalizeEvent stamp (withFields kind channel fields)) format) texts := by
  obtain ⟨hnodup, hplain⟩ := hkept
  have hplainKind : PlainKind kind := plainKind hkind
  have hcanonical : (normalizeEvent stamp (withFields kind channel fields)).canonicalKind = kind := by
    refine hplainKind.own _ ((kind_normalize rfl fun key hkey => ?_).trans hplainKind.native)
    exact get_fill_of_notMem [] (hplain key (mem_cons_of_mem _ hkey))
  unfold render
  dsimp only
  rw [hcanonical, hplainKind.session, hplainKind.workspace, if_neg Bool.false_ne_true, if_neg Bool.false_ne_true]
  refine h _ (carries_withFields hnodup) fun hget => (carries_withFields hnodup).has hget ?_
  rintro rfl
  exact nomatch (get_eq_none_iff.mpr (hplain _ mem_cons_self)).symm.trans hget

/-- An event that is not about several is rendered by its arm. -/
theorem arm_iff (arm : Json → MessageFormat → Except String String) (hkind : kind ∈ SOURCE_KINDS)
    (hkept : Kept fields) (h : ∀ payload, Carries payload fields →
      (∀ {key value}, fields.get key = some (some value) → payload.get key = some value) →
        renderAggregated payload kind format = .ok none ∧
          renderArm payload kind format = arm payload format ∧ RendersIff (arm payload format) texts) :
    RendersIff (render (normalizeEvent stamp (withFields kind channel fields)) format) texts := by
  refine kind_iff hkind hkept fun payload hpayload has => ?_
  obtain ⟨hone, heq, harm⟩ := h payload hpayload has
  unfold renderKind
  rw [hone]
  exact heq ▸ harm

end Fields

/-! ## Everything that is built -/

section Everything

attribute [local simp] Kept SIGNAL_FIELDS OrdMap.keys

variable {format : MessageFormat} {channel : Option String} {stamp : Stamp} (repo : String) (number : ℕ)
  (title : String)

theorem githubIssueOpened_iff : RendersIff (render (normalizeEvent stamp (githubIssueOpened channel repo number title))
      format) (byFormat [repo, title] [repo, title] [repo, title] [] format) := by
  refine arm_iff renderIssueOpened (by decide) (by simp) fun payload h has => ⟨rfl, rfl, ?_⟩
  cases format with
  | raw => exact h.raw
  | _ => exact issueArm_iff (has rfl) (has rfl) (has rfl)

theorem githubIssueCommented_iff (comments : ℕ) :
    RendersIff (render (normalizeEvent stamp (githubIssueCommented channel repo number title comments)) format)
      (byFormat [repo, title] [repo, title] [repo, title] [] format) := by
  refine arm_iff renderIssueCommented (by decide) (by simp) fun payload h has => ⟨rfl, rfl, ?_⟩
  cases format with
  | raw => exact h.raw
  | compact =>
    refine .text (fun _ _ => .number (fun _ => .number (fun _ => .text (fun _ _ => ?_) (has rfl))
      (has rfl)) (has rfl)) (has rfl)
    exact rendersIff_text "#" (by simp) (by decide)
  | _ => exact issueArm_iff (has rfl) (has rfl) (has rfl)

theorem githubIssueClosed_iff : RendersIff (render (normalizeEvent stamp (githubIssueClosed channel repo number title))
      format) (byFormat [repo, title] [repo, title] [repo, title] [] format) := by
  refine arm_iff renderIssueClosed (by decide) (by simp) fun payload h has => ⟨rfl, rfl, ?_⟩
  cases format with
  | raw => exact h.raw
  | _ => exact issueArm_iff (has rfl) (has rfl) (has rfl)

/-- What a comment on a pull request must say. -/
def commentTexts (comment : GitHubPRCommentEvent) : MessageFormat → List String :=
  byFormat [comment.repo, comment.author, comment.title, comment.url]
    [comment.repo, comment.title, comment.author, comment.url]
    [comment.repo, comment.title, comment.author, comment.url] []

variable (comment : GitHubPRCommentEvent)

theorem githubPrCommented_iff : RendersIff (render (normalizeEvent stamp (githubPrCommented channel comment)) format)
      (commentTexts comment format) := by
  refine arm_iff (renderPullRequest · "github.pr-commented") (by decide)
    (by simp [prCommentFields]) fun payload h has => ⟨rfl, rfl, ?_⟩
  exact pullRequest_iff [] h.raw (fun h => h _) (has rfl) (has rfl) (has rfl) (has rfl) (has rfl)

theorem githubPrReviewCommented_iff (path : String) :
    RendersIff (render (normalizeEvent stamp (githubPrReviewCommented channel comment path)) format)
      (commentTexts comment format) := by
  refine arm_iff (renderPullRequest · "github.pr-review-commented") (by decide)
    (by simp [prCommentFields]) fun payload h has => ⟨rfl, rfl, ?_⟩
  exact pullRequest_iff [] h.raw (fun h => h _) (has rfl) (has rfl) (has rfl) (has rfl) (has rfl)

theorem githubPrReviewed_iff (review : GitHubPRReviewEvent) :
    RendersIff (render (normalizeEvent stamp (githubPrReviewed channel review)) format)
      (review.state :: byFormat [review.repo, review.author, review.title, review.url]
        [review.repo, review.title, review.author, review.url]
        [review.repo, review.title, review.author, review.url] [] format) := by
  refine arm_iff (renderPullRequest · "github.pr-reviewed") (by decide) (by simp)
    fun payload h has => ⟨rfl, rfl, ?_⟩
  have hstate : payload.get "state" = some (.string review.state) := has rfl
  exact pullRequest_iff [review.state] h.raw (fun h => RendersIff.text (fun value _ => h value) hstate)
    (has rfl) (has rfl) (has rfl) (has rfl) (has rfl)

theorem githubNotification_iff (notification : GitHubNotificationEvent) :
    RendersIff (render (normalizeEvent stamp (githubNotification channel notification)) format) (let texts :=
        [notification.repo, notification.subject_type, notification.reason, notification.title, notification.url]
      byFormat texts texts texts [] format) := by
  refine arm_iff renderNotification (by decide) (by simp) fun payload h has => ⟨rfl, rfl, ?_⟩
  cases format with
  | raw => exact h.raw
  | _ =>
    refine .text (fun _ _ => .text (fun _ _ => .text (fun _ _ => .text (fun _ _ => .text (fun _ _ => ?_)
      (has rfl)) (has rfl)) (has rfl)) (has rfl)) (has rfl)
    exact rendersIff_text "): " (by simp) (by decide)

theorem gitCommit_one_iff (repo branch commit summary : String) :
    RendersIff (render (normalizeEvent stamp (gitCommit channel repo branch commit summary)) format)
      (byFormat [repo, branch, shortSha commit, summary] [repo, branch, shortSha commit, summary]
        [repo, summary] [] format) := by
  refine arm_iff renderGitCommit (by decide) (by simp) fun payload h has => ⟨?_, rfl, ?_⟩
  · have hcommits : payload.get "commits" = none := h.lacks rfl (by decide)
    show renderAggregatedGitCommit payload format = .ok none
    unfold renderAggregatedGitCommit
    rw [hcommits]
  · cases format with
    | raw => exact h.raw
    | inline =>
      refine .label (fun _ _ => .text (fun _ _ => ?_) (has rfl)) (has rfl)
      exact rendersIff_text "[git] " (by simp) (by decide)
    | _ =>
      refine .label (fun _ _ => .text (fun _ _ => .text (fun _ _ => .text (fun _ _ => ?_)
        (has rfl)) (has rfl)) (has rfl)) (has rfl)
      exact rendersIff_text "@" (by simp) (by decide)

/-- Several commits are rendered without their subjects. -/
theorem gitCommits_iff (repo branch : String) (first second : String × String) (rest : List (String × String))
    (h : event ∈ gitCommitEvents channel repo branch (first :: second :: rest)) :
    RendersIff (render (normalizeEvent stamp event) format) [repo, branch] := by
  obtain ⟨commit, summary⟩ := first
  rw [mem_singleton.mp h]
  refine kind_iff (by decide) (by simp) fun payload h has => ?_
  have hcommits : payload.get "commits" = some (.array
      (((commit, summary) :: second :: rest).map commitItem)) := has rfl
  have hseveral : ¬ (((commit, summary) :: second :: rest).map commitItem).length ≤ 1 := by simp
  show RendersIff (renderAggregatedGitCommit payload format >>= _) _
  unfold renderAggregatedGitCommit
  rw [hcommits]
  dsimp only
  rw [if_neg hseveral, bind_assoc]
  refine .label (fun repo _ => ?_) (has rfl)
  rw [bind_assoc]
  refine .text (fun branch _ => ?_) (has rfl)
  cases format with
  | raw => exact h.raw
  | alert => exact rendersIff_ok (Filled.joined (Filled.text "🚨 " (by simp) (by decide)))
  | _ => exact rendersIff_ok (Filled.joined (Filled.text "git:" (by simp) (by decide)))

theorem gitBranchChanged_iff (repo old_branch new_branch : String) : RendersIff (render (normalizeEvent stamp
      (gitBranchChanged channel repo old_branch new_branch)) format)
      (byFormat [repo, old_branch, new_branch] [repo, old_branch, new_branch] [repo, old_branch, new_branch]
        [] format) := by
  refine arm_iff renderBranchChanged (by decide) (by simp) fun payload h has => ⟨rfl, rfl, ?_⟩
  cases format with
  | raw => exact h.raw
  | _ =>
    refine .label (fun _ _ => .text (fun _ _ => .text (fun _ _ => ?_) (has rfl)) (has rfl)) (has rfl)
    exact rendersIff_text " -> " (by simp) (by decide)

theorem githubPrStatusChanged_iff (title old_status new_status url : String) : RendersIff (render (normalizeEvent stamp
      (githubPrStatusChanged channel repo number title old_status new_status url)) format)
      (byFormat [repo, old_status, new_status, title] [repo, old_status, new_status, title]
        [repo, old_status, new_status] [] format) := by
  refine arm_iff renderPrStatusChanged (by decide) (by simp) fun payload h has => ⟨rfl, rfl, ?_⟩
  cases format with
  | raw => exact h.raw
  | inline =>
    refine .text (fun _ _ => .number (fun _ => .text (fun _ _ => .text (fun _ _ => ?_) (has rfl))
      (has rfl)) (has rfl)) (has rfl)
    exact rendersIff_text " -> " (by simp) (by decide)
  | _ =>
    refine .text (fun _ _ => .number (fun _ => .text (fun _ _ => .text (fun _ _ => .text (fun _ _ => ?_)
      (has rfl)) (has rfl)) (has rfl)) (has rfl)) (has rfl)
    exact rendersIff_text " -> " (by simp) (by decide)

theorem githubActionsStatus_iff (component old_status new_status url : String) :
    RendersIff (render (normalizeEvent stamp (githubActionsStatus channel component old_status new_status url)) format)
      (byFormat [component, old_status, new_status, url] [component, old_status, new_status, url]
        [component, old_status, new_status] [] format) := by
  refine arm_iff renderActionsStatus (by decide) (by simp) fun payload h has => ⟨rfl, rfl, ?_⟩
  cases format with
  | raw => exact h.raw
  | inline =>
    refine .text (fun _ _ => .text (fun _ _ => .text (fun _ _ => ?_) (has rfl)) (has rfl)) (has rfl)
    exact rendersIff_text " -> " (by simp) (by decide)
  | _ =>
    refine .text (fun _ _ => .text (fun _ _ => .text (fun _ _ => .text (fun _ _ => ?_)
      (has rfl)) (has rfl)) (has rfl)) (has rfl)
    exact rendersIff_text " -> " (by simp) (by decide)

theorem githubActionsIncident_iff (incident_id name status impact change : String)
    (old_status update_id update_status update_body : Option String) (affected_components : List String)
    (url : String) : RendersIff (render (normalizeEvent stamp (githubActionsIncident channel incident_id name
      status impact change old_status update_id update_status update_body affected_components url)) format)
      (byFormat [name, change, status, impact] [name, change, status, impact] [change, name, status] [] format) := by
  refine arm_iff renderIncident (by decide) (by simp) fun payload h has => ⟨rfl, rfl, ?_⟩
  have hincident (include_body : Bool) :
      RendersIff (renderGithubActionsIncident payload include_body) [name, change, status, impact] := by
    refine .text (fun _ _ => .text (fun _ _ => .text (fun _ _ => .text (fun _ _ => ?_)
      (has rfl)) (has rfl)) (has rfl)) (has rfl)
    exact rendersIff_ok (Filled.joined (Filled.text "GitHub incident " (by simp) (by decide)))
  cases format with
  | raw => exact h.raw
  | compact => exact hincident false
  | alert => exact (hincident true).marked
  | inline =>
    refine .text (fun _ _ => .text (fun _ _ => .text (fun _ _ => ?_) (has rfl)) (has rfl)) (has rfl)
    exact rendersIff_text "[incident:" (by simp) (by decide)

theorem githubCi_iff (h : kind ∈ CI_KINDS) (repo : String) (number : Option ℕ)
    (workflow status : String) (conclusion : Option String) (sha url : String) (branch : Option String) :
    RendersIff (render (normalizeEvent stamp (githubCi channel kind repo number workflow status
      conclusion sha url branch)) format) (byFormat [workflow, (nonblank conclusion).getD status, sha, repo, url]
        [workflow, (nonblank conclusion).getD status, sha, repo, url]
        [workflow, (nonblank conclusion).getD status, sha, repo] [] format) := by
  refine arm_iff (renderCi · kind) (mem_append_right _ h) (by simp) fun payload hpayload has => ?_
  have hconclusion : payload.get "conclusion" = conclusion.map .string := by
    cases conclusion with
    | none => exact hpayload.lacks rfl (by decide)
    | some conclusion => exact has rfl
  have hbatched : isTrue payload "batched" = false := by
    unfold isTrue
    rw [hpayload.lacks rfl (by decide)]
    rfl
  have hrun (linked : Bool) : RendersIff (renderGithubCi payload kind linked)
      (workflow :: (nonblank conclusion).getD status :: sha :: repo :: if linked then [url] else []) := by
    unfold renderGithubCi
    rw [hbatched, if_neg Bool.false_ne_true]
    refine .text (fun _ _ => .state (fun _ => .text (fun _ _ => .target (fun _ _ => ?_) (has rfl))
      (has rfl)) hconclusion (has rfl)) (has rfl)
    cases linked with
    | true => exact .text (fun _ _ => rendersIff_ok (Filled.joined (Filled.append (by decide) _))) (has rfl)
    | false => exact rendersIff_ok (Filled.joined (Filled.append (by decide) _))
  have harm : RendersIff (renderCi payload kind format)
      (byFormat [workflow, (nonblank conclusion).getD status, sha, repo, url]
        [workflow, (nonblank conclusion).getD status, sha, repo, url]
        [workflow, (nonblank conclusion).getD status, sha, repo] [] format) := by
    cases format with
    | raw => exact hpayload.raw
    | compact => exact hrun true
    | alert => exact (hrun true).marked
    | inline => exact hrun false
  simp only [CI_KINDS, mem_cons, not_mem_nil, or_false] at h
  rcases h with rfl | rfl | rfl | rfl <;> exact ⟨rfl, rfl, harm⟩

theorem githubRelease_iff (action repo tag name : String) (is_prerelease : Bool) (url : String)
    (actor : Option String) : RendersIff (render (normalizeEvent stamp
      (githubRelease channel action repo tag name is_prerelease url actor)) format)
      (byFormat [repo, tag] [repo, tag] [tag, repo] [] format) := by
  have hkinds : releaseKind action ∈
      ["github.release-prereleased", "github.release-edited", "github.release-published"] := by
    unfold releaseKind
    split <;> decide
  have hsources : ∀ kind ∈ ["github.release-prereleased", "github.release-edited",
      "github.release-published"], kind ∈ SOURCE_KINDS := by decide
  refine arm_iff (renderRelease · (releaseKind action)) (hsources _ hkinds) (by simp) fun payload h has => ?_
  generalize releaseKind action = kind at hkinds ⊢
  have hrelease : RendersIff (renderGithubRelease payload kind) [repo, tag] := by
    refine .text (fun _ _ => .text (fun _ _ => ?_) (has rfl)) (has rfl)
    exact rendersIff_ok (Filled.joined (Filled.text "release " (by simp) (by decide)))
  have harm : RendersIff (renderRelease payload kind format)
      (byFormat [repo, tag] [repo, tag] [tag, repo] [] format) := by
    cases format with
    | raw => exact h.raw
    | compact => exact hrelease
    | alert => exact hrelease.marked
    | inline =>
      refine .text (fun _ _ => .text (fun _ _ => ?_) (has rfl)) (has rfl)
      exact rendersIff_text "[release] " (by simp) (by decide)
  simp only [mem_cons, not_mem_nil, or_false] at hkinds
  rcases hkinds with rfl | rfl | rfl <;> exact ⟨rfl, rfl, harm⟩

theorem tmuxKeyword_one_iff (session keyword line : String) :
    RendersIff (render (normalizeEvent stamp (tmuxKeyword channel session keyword line)) format)
      (byFormat [session, keyword, line] [session, keyword, line] [session, line] [] format) := by
  refine arm_iff renderTmuxKeyword (by decide) (by simp) fun payload h has => ⟨?_, rfl, ?_⟩
  · have hhits : payload.get "hits" = none := h.lacks rfl (by decide)
    show renderAggregatedTmuxKeyword payload format = .ok none
    unfold renderAggregatedTmuxKeyword
    rw [hhits]
  · cases format with
    | raw => exact h.raw
    | compact =>
      refine .text (fun _ _ => .text (fun _ _ => .text (fun _ _ => ?_) (has rfl)) (has rfl)) (has rfl)
      exact rendersIff_text "tmux:" (by simp) (by decide)
    | alert =>
      refine .text (fun _ _ => .text (fun _ _ => .text (fun _ _ => ?_) (has rfl)) (has rfl)) (has rfl)
      exact rendersIff_text "': " (by simp) (by decide)
    | inline =>
      refine .text (fun _ _ => .text (fun _ _ => ?_) (has rfl)) (has rfl)
      exact rendersIff_text "[tmux:" (by simp) (by decide)

/-- Several hits are rendered without their lines. -/
theorem tmuxKeywords_iff (session : String) (first second : String × String) (rest : List (String × String)) :
    RendersIff (render (normalizeEvent stamp
      (tmuxKeywords channel session (first :: second :: rest))) format) [session] := by
  show RendersIff (render (normalizeEvent stamp
      (tmuxKeywordAggregated channel session (first :: second :: rest))) format) [session]
  refine kind_iff (by decide) (by simp) fun payload h has => ?_
  have hhits : payload.get "hits" = some (.array ((first :: second :: rest).map hitItem)) := has rfl
  have hseveral : ¬ ((first :: second :: rest).map hitItem).length ≤ 1 := by simp
  show RendersIff (renderAggregatedTmuxKeyword payload format >>= _) _
  unfold renderAggregatedTmuxKeyword
  rw [hhits]
  dsimp only
  rw [if_neg hseveral, bind_assoc]
  refine .text (fun session _ => ?_) (has rfl)
  cases format with
  | raw => exact h.raw
  | compact => exact rendersIff_ok (Filled.joined (Filled.text "tmux:" (by simp) (by decide)))
  | alert => exact rendersIff_ok (Filled.joined (Filled.text "🚨 tmux session " (by simp) (by decide)))
  | inline => exact rendersIff_ok (Filled.text "[tmux:" (by simp) (by decide))

theorem tmuxStale_event_iff (session pane : String) (minutes : ℕ) (last_line : String) :
    RendersIff (render (normalizeEvent stamp (tmuxStale channel session pane minutes last_line)) format)
      (byFormat [session, pane, last_line] [session, pane, last_line] [session, pane] [] format) := by
  refine arm_iff renderTmuxStale (by decide) (by simp) fun payload h has => ⟨rfl, rfl, ?_⟩
  cases format with
  | raw => exact h.raw
  | inline =>
    refine .text (fun _ _ => .text (fun _ _ => .number (fun _ => ?_) (has rfl)) (has rfl)) (has rfl)
    exact rendersIff_text "[tmux stale:" (by simp) (by decide)
  | _ =>
    refine .text (fun _ _ => .text (fun _ _ => .number (fun _ => .text (fun _ _ => ?_) (has rfl))
      (has rfl)) (has rfl)) (has rfl)
    exact rendersIff_text " pane " (by simp) (by decide)

end Everything

section

variable {format : MessageFormat} {stamp : Stamp} {texts : List String}

/-- An event of a workspace can always be rendered. -/
theorem workspace_iff {matched : Workspace.WorkspaceMatch} {previous current : Option Json}
    {events : List IncomingEvent} (hdiff : Workspace.diffWorkspaceState matched previous current = some events)
    (hmem : event ∈ events) : RendersIff (render (normalizeEvent stamp event) format) [] := by
  obtain ⟨sent, hsent, hallowed⟩ := Option.bind_eq_some_iff.mp hdiff
  have hfrom : Workspace.FromState matched event := by
    refine Workspace.fromState hsent ?_
    dsimp only at hallowed
    split_ifs at hallowed
    rw [← Option.some.inj hallowed] at hmem
    exact mem_of_mem_filter hmem
  have hfilled : Filled matched.state_file := Workspace.filled_of_diffOf hsent
  obtain ⟨builder, hpayload, hnames⟩ := hfrom.payload
  have hkind : (normalizeEvent stamp event).kind = event.kind := by
    refine (kind_normalize hpayload hnames.plain).trans ?_
    have hall : ∀ kind ∈ Workspace.WORKSPACE_KINDS, canonicalEventKind kind (.object []) = kind := by decide +kernel
    exact hall _ hfrom.kind
  have hcanonical : startsWith (normalizeEvent stamp event).canonicalKind "session." = false ∧
      startsWith (normalizeEvent stamp event).canonicalKind "workspace." = true := by
    have hall : ∀ kind ∈ Workspace.WORKSPACE_KINDS, startsWith (ofKind kind).canonicalKind "session." = false ∧
        startsWith (ofKind kind).canonicalKind "workspace." = true := by decide +kernel
    rw [canonicalKind_ofKind hkind]
    exact hall _ hfrom.kind
  have hfile : (normalizeEvent stamp event).payload.get "state_file" =
      some (.string matched.state_file) := get_normalize hpayload hnames.state_file (by decide)
  have hread : stringField (normalizeEvent stamp event).payload "state_file" = .ok (trim matched.state_file) := by
    unfold stringField
    rw [optionalStringField_eq hfile, nonblank_of_filled hfilled]
  unfold render
  dsimp only
  rw [hcanonical.1, hcanonical.2, if_neg Bool.false_ne_true, if_pos rfl]
  unfold renderWorkspaceEvent
  rw [hread]
  cases format with
  | raw => exact rendersIff_raw (payload_normalize hpayload)
  | compact => exact rendersIff_ok (Filled.text ":" (by simp) (by decide))
  | alert => exact rendersIff_ok (Filled.text "🚨 " (by simp) (by decide))
  | inline => exact rendersIff_ok (Filled.text "[" (by simp) (by decide))

/-- What the sources build is rendered, as a text that is not blank, exactly if the texts that its kind prints
in the format are not blank. -/
theorem rendered_iff {event : IncomingEvent} (h : Built format event texts) (stamp : Stamp) :
    Renders (render (normalizeEvent stamp event) format) ↔ ∀ text ∈ texts, Filled text := by
  refine RendersIff.renders_iff ?_
  cases h with
  | git_commit channel repo branch commit summary event h =>
    rw [mem_singleton.mp h]
    exact gitCommit_one_iff repo branch commit summary
  | git_commits channel repo branch first second rest event h =>
    exact gitCommits_iff repo branch first second rest h
  | git_branch_changed channel repo old_branch new_branch =>
    exact gitBranchChanged_iff repo old_branch new_branch
  | github_issue_opened channel repo number title => exact githubIssueOpened_iff repo number title
  | github_issue_commented channel repo number title comments =>
    exact githubIssueCommented_iff repo number title comments
  | github_issue_closed channel repo number title => exact githubIssueClosed_iff repo number title
  | github_pr_commented channel comment => exact githubPrCommented_iff comment
  | github_pr_review_commented channel comment path => exact githubPrReviewCommented_iff comment path
  | github_pr_reviewed channel review => exact githubPrReviewed_iff review
  | github_pr_status_changed channel repo number title old_status new_status url =>
    exact githubPrStatusChanged_iff repo number title old_status new_status url
  | github_ci channel kind repo number workflow status conclusion sha url branch h =>
    exact githubCi_iff h repo number workflow status conclusion sha url branch
  | github_release channel action repo tag name is_prerelease url actor =>
    exact githubRelease_iff action repo tag name is_prerelease url actor
  | github_notification channel notification => exact githubNotification_iff notification
  | github_actions_status channel component old_status new_status url =>
    exact githubActionsStatus_iff component old_status new_status url
  | github_actions_incident channel incident_id name status impact change old_status update_id update_status
      update_body affected_components url =>
    exact githubActionsIncident_iff incident_id name status impact change old_status update_id update_status
      update_body affected_components url
  | tmux_keywords_none channel session => exact tmuxKeyword_one_iff session "" ""
  | tmux_keywords_one channel session keyword line => exact tmuxKeyword_one_iff session keyword line
  | tmux_keywords channel session first second rest => exact tmuxKeywords_iff session first second rest
  | tmux_stale channel session pane minutes last_line =>
    exact tmuxStale_event_iff session pane minutes last_line
  | workspace matched previous current events event hdiff h => exact workspace_iff hdiff h

end

namespace Sample

theorem commit_with_subject_is_rendered : Renders (render (normalizeEvent ⟨"u", "2026-01-01T00:00:00Z"⟩
      (gitCommit none "clawhip" "main" "4f2c9d1e" "ship it")) .compact) :=
  (rendered_iff (.git_commit none "clawhip" "main" "4f2c9d1e" "ship it" _ mem_cons_self)
    ⟨"u", "2026-01-01T00:00:00Z"⟩).mpr (by decide +kernel)

/-- A commit without a subject is not rendered. -/
theorem commit_without_subject_is_dropped :
    ¬ ∀ (format : MessageFormat) (event : IncomingEvent) (texts : List String) (stamp : Stamp),
      Built format event texts → Renders (render (normalizeEvent stamp event) format) := by
  intro hall
  have hbuilt : Built .compact (gitCommit none "clawhip" "main" "4f2c9d1e" "")
      ["clawhip", "main", shortSha "4f2c9d1e", ""] :=
    .git_commit none "clawhip" "main" "4f2c9d1e" "" _ mem_cons_self
  have hrenders := hall .compact _ _ ⟨"u", "2026-01-01T00:00:00Z"⟩ hbuilt
  have hrendered : Filled "" := by
    have hiff := (gitCommit_one_iff "clawhip" "main" "4f2c9d1e" "").renders_iff.mp hrenders
    exact hiff "" (by simp [byFormat])
  exact absurd hrendered (by decide)

end Sample

end Clawhip.DefaultRenderer
