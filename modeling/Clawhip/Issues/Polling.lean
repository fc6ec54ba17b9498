import Clawhip.Binding.Drift
import Clawhip.Events.Constructors
import Clawhip.Lib.Novelty

/-!
# Polling issues and pull requests

`poll_issues` and `poll_pull_requests` of `src/source/github.rs`. A poll is shown a window of a
repository's items, and compares it with the window that the poll before left. An item that the window
before did not show counts as new. `news_honest_iff` says for which windows it is. The channel of
events is open, so a repository that was polled has a state, unless its pass failed later on.
-/

namespace Clawhip.Issues

open List Option OrdMap Poll IncomingEvent

open Binding (GitRepoMonitor)

def MAX_CI_PAGES : ℕ := 5

/-! ## Answers -/

/-- `GitHubIssue`; `pull_request` says that the field is there. -/
structure GitHubIssue where
  number : ℕ
  title : String
  state : String
  comments : ℕ
  pull_request : Bool := false

/-- `GitHubPullRequest`, with the fields of its user and its head. -/
structure GitHubPullRequest where
  updated_at : String := ""
  user : Option String := none
  number : ℕ
  title : String
  state : String
  html_url : String := ""
  merged_at : Option String := none
  reference : String := ""
  sha : String := ""

structure IssueSnapshot where
  title : String
  state : String
  comments : ℕ

structure PullRequestSnapshot where
  updated_at : String
  author : String
  title : String
  status : String
  url : String
  head_branch : String
  head_sha : String

/-- A page of pull requests, with the key of the next page that its header links to. -/
structure PullPage where
  pulls : List GitHubPullRequest
  next : Option String := none

/-- `collect` into a map; the order of a `HashMap` is not specified. -/
def collect {ν : Type} (entries : List (ℕ × ν)) : OrdMap ℕ ν :=
  entries.foldl (fun collected entry => collected.insert entry.1 entry.2) []

/-- The map of `fetch_issues`. -/
def issueSnapshots (issues : List GitHubIssue) : OrdMap ℕ IssueSnapshot :=
  collect ((issues.filter fun issue => !issue.pull_request).map fun issue =>
    (issue.number, ⟨issue.title, issue.state, issue.comments⟩))

def pullRequestSnapshot (pull : GitHubPullRequest) : ℕ × PullRequestSnapshot :=
  (pull.number, ⟨pull.updated_at, pull.user.getD "", pull.title,
      if pull.merged_at.isSome then "merged" else pull.state, pull.html_url, pull.reference, pull.sha⟩)

/-- The loop of `fetch_pull_requests` at a page, with `left` pages behind it. A key is that of
`pagination_page_key`; a page that is missing fails. -/
def fetchPages (keyOf : ℕ → String) (answer : ℕ → Option PullPage) :
    (left page : ℕ) → (seen : List String) → Option (List GitHubPullRequest × Bool)
  | 0, page, _ => do
    let response ← answer page
    some (response.pulls, response.next.isNone)
  | left + 1, page, seen => do
    let response ← answer page
    match response.next with
    | none => some (response.pulls, true)
    | some next =>
      -- A link that leads back ends the loop with a window that is not complete.
      if next ∈ keyOf page :: seen then some (response.pulls, false)
      else do
        let (pulls, complete) ← fetchPages keyOf answer left (page + 1) (next :: keyOf page :: seen)
        some (response.pulls ++ pulls, complete)

def fetchPullRequests (keyOf : ℕ → String) (answer : ℕ → Option PullPage) :
    Option (OrdMap ℕ PullRequestSnapshot × Bool) :=
  (fetchPages keyOf answer (MAX_CI_PAGES - 1) 1 []).map fun (pulls, complete) =>
    (collect (pulls.map pullRequestSnapshot), complete)

/-! ## Polls -/

/-- The part of `GitHubRepoState` that these polls keep. -/
structure GitHubRepoState where
  issues : OrdMap ℕ IssueSnapshot
  prs : OrdMap ℕ PullRequestSnapshot

/-- What a poll of a repository meets. -/
structure RepoPoll where
  /-- The numbers that the repository's issues and pull requests were given so far. -/
  existing : List ℕ
  /-- The answer about issues, unless it is an error. -/
  issues : Option (List GitHubIssue)
  /-- The answers about the pages of pull requests. -/
  pulls : ℕ → Option PullPage
  /-- The pass fails after these polls, before the state is stored. -/
  interrupted : Bool := false

/-- What does not change between polls. -/
structure Source where
  repo : GitRepoMonitor
  /-- `repo_name` of the snapshot. -/
  repo_name : String
  /-- There is a client. -/
  client : Bool
  /-- The key of a page. -/
  keyOf : ℕ → String

section

variable (source : Source)

/-- An event with the mention and the format of the repository. -/
def decorate (event : IncomingEvent) : IncomingEvent :=
  { event with mention := source.repo.mention, format := source.repo.format }

/-- The events about one issue. -/
def issueEvents (previous : OrdMap ℕ IssueSnapshot) (entry : ℕ × IssueSnapshot) :
    List IncomingEvent :=
  let (number, issue) := entry
  match previous.get number with
  | none =>
    [decorate source (.githubIssueOpened source.repo.channel source.repo_name number issue.title)]
  | some old =>
    (if old.state ≠ issue.state ∧ issue.state = "closed" then
      [decorate source (.githubIssueClosed source.repo.channel source.repo_name number issue.title)]
    else []) ++ if old.comments < issue.comments then
      [decorate source (.githubIssueCommented source.repo.channel source.repo_name number issue.title
        issue.comments)]
    else []

def collectIssueEvents (previous current : OrdMap ℕ IssueSnapshot) : List IncomingEvent :=
  current.flatMap (issueEvents source previous)

/-- `poll_issues`: the issues, and the events that are sent. -/
def pollIssues (previous : Option GitHubRepoState) (answer : Option (List GitHubIssue)) :
    OrdMap ℕ IssueSnapshot × List IncomingEvent :=
  let before := (previous.map GitHubRepoState.issues).getD []
  if !source.repo.emit_issue_opened || !source.client then (before, [])
  else
    match answer.map issueSnapshots with
    -- An error leaves the window as it was.
    | none => (before, [])
    | some issues => (issues, match previous with
      | none => []
      | some previous => (collectIssueEvents source previous.issues issues).filter fun event =>
          decide (event.kind ≠ "github.issue-commented"))

/-- The event about one pull request. -/
def pullEvents (previous : OrdMap ℕ PullRequestSnapshot) (entry : ℕ × PullRequestSnapshot) :
    List IncomingEvent :=
  let (number, pr) := entry
  let changed (old_status : String) : List IncomingEvent :=
    [decorate source (.githubPrStatusChanged source.repo.channel source.repo_name number pr.title
      old_status pr.status pr.url)]
  match previous.get number with
  | some old => if old.status = pr.status then [] else changed old.status
  -- The placeholder stands for the status of a pull request that was not shown before.
  | none => changed "<new>"

/-- `poll_pull_requests`: the pull requests, whether their window is complete, and the events that are
sent. -/
def pollPullRequests (previous : Option GitHubRepoState) (answer : ℕ → Option PullPage) :
    (OrdMap ℕ PullRequestSnapshot × Bool) × List IncomingEvent :=
  let before := (previous.map GitHubRepoState.prs).getD []
  if !source.repo.emit_pr_status || !source.client then ((before, true), [])
  else
    match fetchPullRequests source.keyOf answer with
    | none => ((before, false), [])
    | some (prs, complete) => ((prs, complete), match previous with
      | none => []
      | some previous => prs.flatMap (pullEvents source previous.prs))

/-- The polls of a repository, as far as they are modelled. -/
def poller : Machine (Option GitHubRepoState) RepoPoll (List IncomingEvent) where
  step previous input :=
    let issues := pollIssues source previous input.issues
    let prs := pollPullRequests source previous input.pulls
    (if input.interrupted then previous else some ⟨issues.1, prs.1.1⟩, issues.2 ++ prs.2)

end

/-! ## News -/

/-- A count in a payload. -/
def numberIn : Json → Option ℕ
  | .number (.posInt n) => some n
  | _ => none

/-- The issue that an event says was opened. -/
def openedIssue (event : IncomingEvent) : Option ℕ :=
  if event.kind = "github.issue-opened" then (event.payload.get "number").bind numberIn else none

/-- The pull request that an event says is new. -/
def newPull (event : IncomingEvent) : Option ℕ :=
  if event.kind = "github.pr-status-changed" ∧
      (event.payload.get "old_status").bind Json.asStr = some "<new>" then
    (event.payload.get "number").bind numberIn
  else none

/-- The polls as far as issues are concerned. -/
def RepoPoll.issuePoll (input : RepoPoll) : Poll ℕ :=
  ⟨input.existing, input.issues.map fun issues => (issueSnapshots issues).keys, !input.interrupted⟩

/-- The polls as far as pull requests are concerned. -/
def RepoPoll.pullPoll (keyOf : ℕ → String) (input : RepoPoll) : Poll ℕ :=
  ⟨input.existing, (fetchPullRequests keyOf input.pulls).map fun fetched => fetched.1.keys, !input.interrupted⟩

section

variable (source : Source)

/-- The news that a poll sends after others. -/
def newsAt (news : IncomingEvent → Option ℕ) (before : List RepoPoll) (input : RepoPoll) : List ℕ :=
  ((poller source).step ((poller source).run none before) input).2.filterMap news

/-- News is honest: no number twice, and only what came into being after the first poll that
succeeded. -/
structure HonestNews (news : IncomingEvent → Option ℕ) (view : RepoPoll → Poll ℕ)
    (inputs : List RepoPoll) : Prop where
  once : (((poller source).outputs none inputs).flatten.filterMap news).Nodup
  fresh : ∀ before input after, inputs = before ++ input :: after →
    ∀ number ∈ newsAt source news before input, Poll.IsLater (before.map view) number

/-- Issues and pull requests that are announced as new are new. -/
structure NewsHonest (inputs : List RepoPoll) : Prop where
  issues : HonestNews source openedIssue RepoPoll.issuePoll inputs
  pulls : HonestNews source newPull (RepoPoll.pullPoll source.keyOf) inputs

/-- What the repository answers: items that exist, in a state other than the placeholder of the poller. -/
structure RepoPoll.Genuine (input : RepoPoll) : Prop where
  issues : ∀ issues ∈ input.issues, ∀ issue ∈ issues, issue.number ∈ input.existing
  pulls : ∀ page answer, input.pulls page = some answer → ∀ pull ∈ answer.pulls,
    pull.number ∈ input.existing ∧ pull.state ≠ "<new>"

end

/-! ## Windows -/

section Windows

variable {ν : Type} {entries : List (ℕ × ν)} {input : RepoPoll}

theorem collect_concat (entries : List (ℕ × ν)) (entry : ℕ × ν) :
    collect (entries ++ [entry]) = (collect entries).insert entry.1 entry.2 := by
  unfold collect
  rw [foldl_append]
  rfl

theorem collect_nodup (entries : List (ℕ × ν)) : (collect entries).keys.Nodup := by
  induction entries using reverseRecOn with
  | nil => exact nodup_nil
  | append_singleton entries entry ih =>
    rw [collect_concat]
    exact nodup_insert ih entry.1 entry.2

/-- Only what was collected is in the map. -/
theorem mem_of_mem_collect {entry : ℕ × ν} (h : entry ∈ collect entries) : entry ∈ entries := by
  induction entries using reverseRecOn with
  | nil => exact absurd h not_mem_nil
  | append_singleton entries last ih =>
    rw [collect_concat] at h
    rcases mem_insert h with rfl | h
    · exact mem_append_right _ (mem_singleton_self _)
    · exact mem_append_left _ (ih h)

theorem issuePoll_valid (h : input.Genuine) : input.issuePoll.Valid := by
  refine ⟨fun window hwindow number hnumber => ?_, fun window hwindow => ?_⟩
  all_goals obtain ⟨issues, hissues, rfl⟩ := map_eq_some_iff.mp hwindow
  · obtain ⟨entry, hentry, rfl⟩ := mem_map.mp hnumber
    obtain ⟨issue, hissue, rfl⟩ := mem_map.mp (mem_of_mem_collect hentry)
    exact h.issues issues hissues issue (mem_of_mem_filter hissue)
  · exact collect_nodup _

variable {keyOf : ℕ → String}

/-- What was fetched stood on some page. -/
theorem fetchPages_mem {answer : ℕ → Option PullPage} {left page : ℕ} {seen : List String}
    {pulls : List GitHubPullRequest} {complete : Bool}
    (h : fetchPages keyOf answer left page seen = some (pulls, complete)) :
    ∀ pull ∈ pulls, ∃ page response, answer page = some response ∧ pull ∈ response.pulls := by
  induction left generalizing page seen pulls complete with
  | zero =>
    rw [fetchPages] at h
    obtain ⟨response, hresponse, h⟩ := bind_eq_some_iff.mp h
    cases h
    exact fun pull hpull => ⟨page, response, hresponse, hpull⟩
  | succ left ih =>
    rw [fetchPages] at h
    obtain ⟨response, hresponse, h⟩ := bind_eq_some_iff.mp h
    cases hnext : response.next with
    | none =>
      simp only [hnext] at h
      cases h
      exact fun pull hpull => ⟨page, response, hresponse, hpull⟩
    | some next =>
      simp only [hnext] at h
      split_ifs at h
      · cases h
        exact fun pull hpull => ⟨page, response, hresponse, hpull⟩
      · obtain ⟨⟨rest, complete'⟩, hrest, h⟩ := bind_eq_some_iff.mp h
        cases h
        intro pull hpull
        rcases mem_append.mp hpull with hpull | hpull
        · exact ⟨page, response, hresponse, hpull⟩
        · exact ih hrest pull hpull

/-- Pull requests of a map exist, and have a status of their own. -/
theorem fetchPullRequests_mem (h : input.Genuine) {fetched : OrdMap ℕ PullRequestSnapshot × Bool}
    (hfetched : fetchPullRequests keyOf input.pulls = some fetched) :
    fetched.1.keys.Nodup ∧ ∀ entry ∈ fetched.1, entry.1 ∈ input.existing ∧ entry.2.status ≠ "<new>" := by
  obtain ⟨⟨pulls, complete⟩, hpages, rfl⟩ := map_eq_some_iff.mp hfetched
  refine ⟨collect_nodup _, fun entry hentry => ?_⟩
  obtain ⟨pull, hpull, rfl⟩ := mem_map.mp (mem_of_mem_collect hentry)
  obtain ⟨page, response, hresponse, hmem⟩ := fetchPages_mem hpages pull hpull
  obtain ⟨hexists, hstate⟩ := h.pulls page response hresponse pull hmem
  refine ⟨hexists, ?_⟩
  unfold pullRequestSnapshot
  dsimp only
  split_ifs
  · decide
  · exact hstate

theorem pullPoll_valid (keyOf : ℕ → String) (h : input.Genuine) : (input.pullPoll keyOf).Valid := by
  refine ⟨fun window hwindow number hnumber => ?_, fun window hwindow => ?_⟩
  all_goals
    obtain ⟨fetched, hfetched, rfl⟩ := map_eq_some_iff.mp hwindow
    obtain ⟨hnodup, hmem⟩ := fetchPullRequests_mem h hfetched
  · obtain ⟨entry, hentry, rfl⟩ := mem_map.mp hnumber
    exact (hmem entry hentry).1
  · exact hnodup

end Windows

/-! ## Events -/

section Events

variable (source : Source) (number : ℕ)

theorem openedIssue_opened (title : String) :
    openedIssue (decorate source (.githubIssueOpened source.repo.channel source.repo_name number
      title)) = some number := by
  have hnumber : (githubIssueOpened source.repo.channel source.repo_name number
      title).payload.get "number" = _ := withFields_get (by simp [OrdMap.keys])
  have hkind : (decorate source (.githubIssueOpened source.repo.channel source.repo_name number
      title)).kind = "github.issue-opened" := rfl
  unfold openedIssue
  rw [if_pos hkind]
  unfold decorate
  rw [hnumber]
  rfl

/-- A change of a pull request is news if its old status is the placeholder. -/
theorem newPull_changed (title old_status status url : String) :
    newPull (decorate source (.githubPrStatusChanged source.repo.channel source.repo_name number
      title old_status status url)) = if old_status = "<new>" then some number else none := by
  have hfield (key : String) : (githubPrStatusChanged source.repo.channel
      source.repo_name number title old_status status url).payload.get key = _ :=
    withFields_get (by simp [OrdMap.keys])
  unfold newPull decorate
  rw [hfield "old_status", hfield "number"]
  by_cases hnew : old_status = "<new>"
  · rw [if_pos hnew, hnew]
    rfl
  · rw [if_neg hnew]
    exact if_neg fun h => hnew (some.inj h.2)

variable (previous : OrdMap ℕ IssueSnapshot) (entry : ℕ × IssueSnapshot)

/-- The news in the events about one issue: its number, if it was not known. -/
theorem issueEvents_opened : ((issueEvents source previous entry).filter fun event =>
        decide (event.kind ≠ "github.issue-commented")).filterMap openedIssue =
      if entry.1 ∈ previous.keys then [] else [entry.1] := by
  obtain ⟨number, issue⟩ := entry
  unfold issueEvents
  dsimp only
  cases hget : previous.get number with
  | none =>
    rw [if_neg (get_eq_none_iff.mp hget)]
    show filterMap openedIssue [_] = _
    rw [filterMap_cons_some (openedIssue_opened source number issue.title)]
    rfl
  | some old =>
    rw [if_pos (by
      by_contra hnot
      rw [get_eq_none_iff.mpr hnot] at hget
      cases hget)]
    dsimp only
    split_ifs
    all_goals rfl

theorem issueEvents_noPull : ∀ event ∈ issueEvents source previous entry, newPull event = none := by
  obtain ⟨number, issue⟩ := entry
  unfold issueEvents
  dsimp only
  intro event hevent
  split at hevent
  · rw [mem_singleton.mp hevent]
    rfl
  · rcases mem_append.mp hevent with hevent | hevent
    all_goals
      split_ifs at hevent
      · rw [mem_singleton.mp hevent]
        rfl
      · exact absurd hevent not_mem_nil

variable {previous : OrdMap ℕ PullRequestSnapshot}

/-- The news in the event about one pull request. -/
theorem pullEvents_new (hprevious : previous.All fun pr => pr.status ≠ "<new>")
    (entry : ℕ × PullRequestSnapshot) : (pullEvents source previous entry).filterMap newPull =
      if entry.1 ∈ previous.keys then [] else [entry.1] := by
  obtain ⟨number, pr⟩ := entry
  unfold pullEvents
  dsimp only
  cases hget : previous.get number with
  | none =>
    rw [if_neg (get_eq_none_iff.mp hget)]
    refine filterMap_cons_some (newPull_changed source number pr.title "<new>" pr.status pr.url)
  | some old =>
    -- A status that was kept is never the placeholder, so the change is no news.
    have hold : old.status ≠ "<new>" := hprevious _ (mem_of_get hget)
    rw [if_pos (by
      by_contra hnot
      rw [get_eq_none_iff.mpr hnot] at hget
      cases hget)]
    dsimp only
    split_ifs
    · rfl
    · have hnone : newPull (decorate source (.githubPrStatusChanged source.repo.channel
          source.repo_name number pr.title old.status pr.status pr.url)) = none := by
        rw [newPull_changed, if_neg hold]
      rw [filterMap_cons_none hnone]
      rfl

theorem pullEvents_noIssue (previous : OrdMap ℕ PullRequestSnapshot) (entry : ℕ × PullRequestSnapshot) :
    ∀ event ∈ pullEvents source previous entry, openedIssue event = none := by
  obtain ⟨number, pr⟩ := entry
  unfold pullEvents
  dsimp only
  intro event hevent
  split at hevent
  · split_ifs at hevent
    · exact absurd hevent not_mem_nil
    · rw [mem_singleton.mp hevent]
      rfl
  · rw [mem_singleton.mp hevent]
    rfl

/-- News that is made of the keys of a map, one key at a time. -/
theorem flatMap_keys {ν : Type} (current : OrdMap ℕ ν) (known : List ℕ) :
    (current.flatMap fun entry => if entry.1 ∈ known then [] else [entry.1]) =
      current.keys.filter fun number => decide (number ∉ known) := by
  induction current with
  | nil => rfl
  | cons entry current ih =>
    rw [flatMap_cons, ih]
    show _ = filter _ (entry.1 :: keys current)
    by_cases hknown : entry.1 ∈ known
    · rw [if_pos hknown, filter_cons_of_neg (by simpa using hknown), nil_append]
    · rw [if_neg hknown, filter_cons_of_pos (by simpa using hknown), singleton_append]

theorem collectIssueEvents_opened (previous current : OrdMap ℕ IssueSnapshot) :
    ((collectIssueEvents source previous current).filter fun event =>
        decide (event.kind ≠ "github.issue-commented")).filterMap openedIssue =
      current.keys.filter fun number => decide (number ∉ previous.keys) := by
  unfold collectIssueEvents
  rw [filter_flatMap, filterMap_flatMap, ← flatMap_keys]
  exact flatMap_congr fun entry _ => issueEvents_opened source previous entry

theorem flatMap_pullEvents (hprevious : previous.All fun pr => pr.status ≠ "<new>")
    (current : OrdMap ℕ PullRequestSnapshot) : (current.flatMap (pullEvents source previous)).filterMap newPull =
      current.keys.filter fun number => decide (number ∉ previous.keys) := by
  rw [filterMap_flatMap, ← flatMap_keys]
  exact flatMap_congr fun entry _ => pullEvents_new source hprevious entry

variable (previous : Option GitHubRepoState)

/-- Issues give no news of pull requests, and pull requests none of issues. -/
theorem filterMap_pollIssues (answer : Option (List GitHubIssue)) :
    (pollIssues source previous answer).2.filterMap newPull = [] := by
  rw [filterMap_eq_nil_iff]
  intro event hevent
  unfold pollIssues at hevent
  split_ifs at hevent
  · exact absurd hevent not_mem_nil
  · cases hanswer : answer.map issueSnapshots with
    | none =>
      rw [hanswer] at hevent
      exact absurd hevent not_mem_nil
    | some issues =>
      rw [hanswer] at hevent
      cases previous with
      | none => exact absurd hevent not_mem_nil
      | some previous =>
        obtain ⟨entry, -, hentry⟩ := mem_flatMap.mp (mem_of_mem_filter hevent)
        exact issueEvents_noPull source _ entry event hentry

theorem filterMap_pollPullRequests (answer : ℕ → Option PullPage) :
    (pollPullRequests source previous answer).2.filterMap openedIssue = [] := by
  rw [filterMap_eq_nil_iff]
  intro event hevent
  unfold pollPullRequests at hevent
  split_ifs at hevent
  · exact absurd hevent not_mem_nil
  · cases hfetched : fetchPullRequests source.keyOf answer with
    | none =>
      rw [hfetched] at hevent
      exact absurd hevent not_mem_nil
    | some fetched =>
      rw [hfetched] at hevent
      cases previous with
      | none => exact absurd hevent not_mem_nil
      | some previous =>
        obtain ⟨entry, -, hentry⟩ := mem_flatMap.mp hevent
        exact pullEvents_noIssue source _ entry event hentry

end Events

/-! ## Runs -/

section Runs

variable {source : Source} {inputs : List RepoPoll}

/-- A poll carries the numbers of its issues to the poll of their window. -/
theorem simulates_issues (h : source.repo.emit_issue_opened = true ∧ source.client = true) :
    (poller source).Simulates (viewed RepoPoll.issuePoll) (fun _ => True)
      (fun _ input => input.Genuine) (Option.map fun state => state.issues.keys) (filterMap openedIssue) where
  inv _ _ _ _ := trivial
  step previous input _ _ := by
    have hnews : ((poller source).step previous input).2.filterMap openedIssue =
        (pollIssues source previous input.issues).2.filterMap openedIssue := by
      refine (filterMap_append).trans ?_
      rw [filterMap_pollPullRequests, append_nil]
    rw [hnews]
    unfold poller pollIssues viewed Poll.poller RepoPoll.issuePoll
    dsimp only
    rw [h.1, h.2]
    cases input.interrupted
    all_goals
      cases input.issues with
      | none => cases previous <;> rfl
      | some issues =>
        cases previous with
        | none => rfl
        | some previous => exact congrArg _ (collectIssueEvents_opened source _ _).symm

/-- A state of pull requests whose statuses are their own. -/
def OwnStatuses (state : GitHubRepoState) : Prop := state.prs.All fun pr => pr.status ≠ "<new>"

theorem pollPullRequests_own {previous : Option GitHubRepoState}
    (hprevious : ∀ state ∈ previous, OwnStatuses state) {input : RepoPoll} (h : input.Genuine) :
    OrdMap.All (fun pr => pr.status ≠ "<new>") (pollPullRequests source previous input.pulls).1.1 := by
  have hbefore : OrdMap.All (fun pr => pr.status ≠ "<new>")
      ((previous.map GitHubRepoState.prs).getD []) := by
    cases previous with
    | none => exact fun _ hmem => absurd hmem not_mem_nil
    | some previous => exact hprevious previous rfl
  unfold pollPullRequests
  split_ifs
  · exact hbefore
  · cases hfetched : fetchPullRequests source.keyOf input.pulls with
    | none => exact hbefore
    | some fetched => exact fun entry hentry => ((fetchPullRequests_mem h hfetched).2 entry hentry).2

/-- A poll carries the numbers of its pull requests to the poll of their window. -/
theorem simulates_pulls (h : source.repo.emit_pr_status = true ∧ source.client = true) :
    (poller source).Simulates (viewed (RepoPoll.pullPoll source.keyOf))
      (fun previous => ∀ state ∈ previous, OwnStatuses state) (fun _ input => input.Genuine)
      (Option.map fun state => state.prs.keys) (filterMap newPull) where
  inv previous input hprevious hinput := by
    unfold poller
    dsimp only
    split_ifs
    · exact hprevious
    · rintro state ⟨⟩
      exact pollPullRequests_own hprevious hinput
  step previous input hprevious _ := by
    have hnews : ((poller source).step previous input).2.filterMap newPull =
        (pollPullRequests source previous input.pulls).2.filterMap newPull := by
      refine (filterMap_append).trans ?_
      rw [filterMap_pollIssues, nil_append]
    rw [hnews]
    unfold poller pollPullRequests viewed Poll.poller RepoPoll.pullPoll
    dsimp only
    rw [h.1, h.2]
    cases input.interrupted
    all_goals
      cases fetchPullRequests source.keyOf input.pulls with
      | none => cases previous <;> rfl
      | some fetched =>
        cases previous with
        | none => rfl
        | some previous => exact congrArg _ (flatMap_pullEvents source (hprevious previous rfl) _).symm

variable {news : IncomingEvent → Option ℕ} {view : RepoPoll → Poll ℕ}

/-- News that a machine of windows announces is honest if its announcements are. -/
theorem honestNews_iff {Inv : Option GitHubRepoState → Prop} {numbers : GitHubRepoState → List ℕ}
    (hsim : (poller source).Simulates (viewed view) Inv (fun _ input => input.Genuine)
      (Option.map numbers) (filterMap news)) (hnone : Inv none) (hgenuine : ∀ input ∈ inputs, input.Genuine) :
    HonestNews source news view inputs ↔ Poll.Honest (inputs.map view) := by
  have halong (inputs : List RepoPoll) (h : ∀ input ∈ inputs, input.Genuine) :
      (poller source).Along (fun _ input => input.Genuine) none inputs :=
    (Machine.Along.and_of_forall _ h ((poller source).along_of_forall (fun _ _ => trivial) none
      inputs)).mono _ fun _ _ h => h.1
  have honce : ((poller source).outputs none inputs).flatten.filterMap news = announced (inputs.map view) := by
    rw [filterMap_flatten, ← hsim.outputs_eq hnone (halong inputs hgenuine), outputs_viewed]
    rfl
  have hat (before : List RepoPoll) (input : RepoPoll) (after : List RepoPoll)
      (heq : inputs = before ++ input :: after) :
      newsAt source news before input = announcedAt (before.map view) (view input) := by
    rw [heq] at hgenuine
    obtain ⟨hbefore, hinput, -⟩ := by simpa using forall_mem_append.mp hgenuine
    have hinv : Inv ((poller source).run none before) :=
      Machine.run_invariant _ Inv hsim.inv hnone (halong before hbefore)
    have hstep := hsim.step _ input hinv hinput
    unfold newsAt announcedAt
    rw [← run_viewed]
    show _ = ((viewed view).step ((viewed view).run (Option.map numbers none) before) input).2
    rw [hsim.run_eq hnone (halong before hbefore), hstep]
  constructor
  · rintro ⟨hnodup, hfresh⟩
    refine ⟨honce ▸ hnodup, fun before poll after heq => ?_⟩
    obtain ⟨front, rest, rfl, rfl, hrest⟩ := map_eq_append_iff.mp heq
    obtain ⟨input, back, rfl, rfl, rfl⟩ := map_eq_cons_iff.mp hrest
    rw [← hat front input back rfl]
    exact hfresh front input back rfl
  · rintro ⟨hnodup, hfresh⟩
    refine ⟨honce ▸ hnodup, fun before input after heq => ?_⟩
    rw [hat before input after heq]
    exact hfresh (before.map view) (view input) (after.map view) (by rw [heq]; simp)

/-- A feed that is not polled gives no news, and so honest news. -/
theorem honestNews_of_silent (h : ∀ previous input, ((poller source).step previous input).2.filterMap news = []) :
    HonestNews source news view inputs := by
  have hnil (inputs : List RepoPoll) (previous : Option GitHubRepoState) :
      ((poller source).outputs previous inputs).flatten.filterMap news = [] := by
    induction inputs generalizing previous with
    | nil => rfl
    | cons input inputs ih => rw [Machine.outputs_cons, flatten_cons, filterMap_append, h, ih, append_nil]
  refine ⟨hnil inputs none ▸ nodup_nil, fun before input after _ number hmem => ?_⟩
  unfold newsAt at hmem
  rw [h] at hmem
  exact absurd hmem not_mem_nil

theorem not_polled {emits client : Bool} (h : ¬ (emits = true ∧ client = true)) : (!emits || !client) = true := by
  rw [← Bool.not_and, Bool.not_eq_true']
  exact Bool.eq_false_iff.mpr fun hboth => h (Bool.and_eq_true_iff.mp hboth)

theorem issues_honest_iff (hgenuine : ∀ input ∈ inputs, input.Genuine) :
    HonestNews source openedIssue RepoPoll.issuePoll inputs ↔
      (source.repo.emit_issue_opened = true ∧ source.client = true → Poll.Steady (inputs.map RepoPoll.issuePoll)) := by
  by_cases hpolled : source.repo.emit_issue_opened = true ∧ source.client = true
  · have hvalid : ∀ poll ∈ inputs.map RepoPoll.issuePoll, poll.Valid := by
      intro poll hpoll
      obtain ⟨input, hinput, rfl⟩ := List.mem_map.mp hpoll
      exact issuePoll_valid (hgenuine input hinput)
    rw [honestNews_iff (simulates_issues hpolled) trivial hgenuine, honest_iff hvalid]
    exact ⟨fun h _ => h, fun h => h hpolled⟩
  · refine iff_of_true (honestNews_of_silent fun previous input => ?_) fun h => absurd h hpolled
    show filterMap openedIssue (_ ++ _) = []
    rw [filterMap_append, filterMap_pollPullRequests, append_nil]
    unfold pollIssues
    -- The feed is switched off, or there is no client to ask.
    rw [if_pos (not_polled hpolled)]
    rfl

theorem pulls_honest_iff (hgenuine : ∀ input ∈ inputs, input.Genuine) :
    HonestNews source newPull (RepoPoll.pullPoll source.keyOf) inputs ↔
      (source.repo.emit_pr_status = true ∧ source.client = true →
        Poll.Steady (inputs.map (RepoPoll.pullPoll source.keyOf))) := by
  by_cases hpolled : source.repo.emit_pr_status = true ∧ source.client = true
  · have hvalid : ∀ poll ∈ inputs.map (RepoPoll.pullPoll source.keyOf), poll.Valid := by
      intro poll hpoll
      obtain ⟨input, hinput, rfl⟩ := List.mem_map.mp hpoll
      exact pullPoll_valid source.keyOf (hgenuine input hinput)
    rw [honestNews_iff (simulates_pulls hpolled) nofun hgenuine, honest_iff hvalid]
    exact ⟨fun h _ => h, fun h => h hpolled⟩
  · refine iff_of_true (honestNews_of_silent fun previous input => ?_) fun h => absurd h hpolled
    show filterMap newPull (_ ++ _) = []
    rw [filterMap_append, filterMap_pollIssues, nil_append]
    unfold pollPullRequests
    rw [if_pos (not_polled hpolled)]
    rfl

/-- What a source announces as new is new if and only if the windows it is shown are steady. -/
theorem news_honest_iff (source : Source) (inputs : List RepoPoll)
    (hgenuine : ∀ input ∈ inputs, input.Genuine) :
    NewsHonest source inputs ↔ (source.repo.emit_issue_opened = true ∧ source.client = true →
        Poll.Steady (inputs.map RepoPoll.issuePoll)) ∧
      (source.repo.emit_pr_status = true ∧ source.client = true →
        Poll.Steady (inputs.map (RepoPoll.pullPoll source.keyOf))) := by
  rw [← issues_honest_iff hgenuine, ← pulls_honest_iff hgenuine]
  exact ⟨fun h => ⟨h.issues, h.pulls⟩, fun h => ⟨h.1, h.2⟩⟩

end Runs

namespace Sample

/-- A repository whose issues and pull requests are watched. -/
def source : Source where
  repo := { path := "/repo", name := none, github_repo := some "org/repo", channel := none,
            channel_name := none, setup_owned := false, emit_pr_status := true }
  repo_name := "repo"
  client := true
  keyOf page := toString page

/-- A poll that shows issues of these numbers, of the first `created` numbers; the pull requests are not
answered. -/
def showing (created : ℕ) (numbers : Option (List ℕ)) (interrupted : Bool := false) : RepoPoll where
  existing := (List.range created).map (· + 1)
  issues := numbers.map fun numbers => numbers.map fun number => ⟨number, "an issue", "open", 0, false⟩
  pulls _ := none
  interrupted := interrupted

/-- The first poll fails, and the second one shows the issue that was there all the time. -/
def failedFirst : List RepoPoll := [showing 1 none, showing 1 (some [1])]

/-- The page of the first poll is short, and that of the second one reaches further back. -/
def shortPage : List RepoPoll := [showing 2 (some [2]), showing 2 (some [2, 1])]

/-- The pass that announces an issue fails before its state is stored. -/
def forgotten : List RepoPoll := [showing 0 (some []), showing 1 (some [1]) true, showing 1 (some [1])]

/-- An issue that is opened after the first poll. -/
def openedLater : List RepoPoll := [showing 1 (some [1]), showing 2 (some [2, 1])]

theorem showing_genuine {created : ℕ} {numbers : List ℕ}
    (h : ∀ number ∈ numbers, number ∈ (range created).map (· + 1)) : (showing created (some numbers)).Genuine := by
  refine ⟨?_, nofun⟩
  rintro _ ⟨⟩ issue hissue
  obtain ⟨number, hnumber, rfl⟩ := mem_map.mp hissue
  exact h number hnumber

theorem opened_later_is_new : NewsHonest source openedLater := by
  refine (news_honest_iff source openedLater ?_).mpr ⟨fun _ => ?_, fun _ => ?_⟩
  · intro input hinput
    rcases mem_pair.mp hinput with rfl | rfl
    all_goals exact showing_genuine (by decide)
  · show EachAfter Advances (([] ++ [(showing 1 (some [1])).issuePoll]) ++
      [(showing 2 (some [2, 1])).issuePoll])
    rw [eachAfter_concat, eachAfter_concat]
    refine ⟨⟨eachAfter_nil _, fun h => absurd h Bool.false_ne_true⟩, ?_⟩
    intro _ window hwindow item hitem hlast
    obtain rfl : [1, 2] = window := some.inj hwindow
    rcases mem_pair.mp hitem with rfl | rfl
    · exact absurd (by decide +kernel) hlast
    · exact ⟨⟨by decide +kernel, by decide +kernel⟩, by decide +kernel⟩
  · intro before poll after heq _ window hwindow
    have hmem : poll ∈ openedLater.map (RepoPoll.pullPoll source.keyOf) := by
      rw [heq]
      simp
    obtain ⟨input, hinput, rfl⟩ := List.mem_map.mp hmem
    rcases mem_pair.mp hinput with rfl | rfl
    all_goals cases hwindow

/-- An old issue is announced as opened after a failure and after a short page, and an issue is
announced twice after a pass that was not stored. -/
theorem old_issue_is_announced :
    ¬ NewsHonest source failedFirst ∧ ¬ NewsHonest source shortPage ∧ ¬ NewsHonest source forgotten := by
  have hfresh (first second : RepoPoll)
      (h : (newsAt source openedIssue [first] second).any (fun number =>
        decide (based [first.issuePoll] = true → number ∈ atBaseline [first.issuePoll])) =
          true) : ¬ NewsHonest source [first, second] := by
    intro hhonest
    obtain ⟨number, hnumber, hat⟩ := List.any_eq_true.mp h
    obtain ⟨hbased, hnot⟩ := hhonest.issues.fresh [first] second [] rfl number hnumber
    exact hnot (of_decide_eq_true hat hbased)
  refine ⟨hfresh _ _ (by decide +kernel), hfresh _ _ (by decide +kernel), fun h => ?_⟩
  exact absurd h.issues.once (by decide +kernel)

end Sample

end Clawhip.Issues
