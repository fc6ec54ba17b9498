import Clawhip.Issues.Polling
import Clawhip.Lib.Recent
import Mathlib.Data.String.Basic

/-!
# Comments that wait for metadata

`drain_pending_comments`, `accept_activity_comment` and the part of `poll_pr_activity` of
`src/source/github.rs` that reads the two comment feeds. Every poll works on a pass: the state, what it
looked up, whose attempts it counted, and a log of what happened. The window, the scan of reviews and
the answers are inputs; the channel of events is open. A repository that has no name at GitHub is one
without a client.
-/

namespace Clawhip.Issues

def MAX_EMITTED_COMMENT_IDS : ℕ := 1000
def MAX_PR_METADATA_LOOKUPS : ℕ := 20
def MAX_PR_METADATA_CACHE : ℕ := 256
def MAX_PENDING_PR_COMMENTS : ℕ := 500
def MAX_METADATA_ATTEMPTS : ℕ := 10

/-! ## Data -/

structure PRActivityMetadata where
  title : String
  author : String

/-- `PendingPRComment`; a comment with a path is an inline comment. -/
structure PendingPRComment where
  id : ℕ
  number : ℕ
  author : String
  url : String
  path : Option String
  created_at : String
  attempts : ℕ := 0
deriving DecidableEq

/-- A comment is known by its feed and its id there; the feed of inline comments is `true`. -/
def PendingPRComment.key (comment : PendingPRComment) : Bool × ℕ := (comment.path.isSome, comment.id)

def PendingPRComment.asAccepted (comment : PendingPRComment) : PendingPRComment := { comment with attempts := 0 }

/-- The answer to a request for the metadata of a pull request: what it says, where a pull request that
is gone has none; or an error, with or without a limit on the rate. -/
inductive LookupAnswer where
  | found (metadata : Option PRActivityMetadata)
  | limited
  | error

inductive MetadataLookup where
  | resolved
  | backoff
  | failed
deriving DecidableEq

def LookupAnswer.outcome : LookupAnswer → MetadataLookup
  | .found _ => .resolved
  | .limited => .backoff
  | .error => .failed

/-- The part of `PRActivityState` that the comment feeds use. -/
structure PRActivityState where
  issue_comment_cursor : Option String := none
  issue_comment_lower : Option String := none
  pr_comment_cursor : Option String := none
  pr_comment_lower : Option String := none
  review_comment_cursor : Option String := none
  review_comment_lower : Option String := none
  emitted_review_comment_ids : List ℕ := []
  emitted_pr_comment_ids : List ℕ := []
  metadata : OrdMap ℕ (Option PRActivityMetadata) := []
  metadata_order : List ℕ := []
  pending_comments : List PendingPRComment := []

/-- The ids of a feed. -/
def PRActivityState.ids (state : PRActivityState) (inline : Bool) : List ℕ :=
  if inline then state.emitted_review_comment_ids else state.emitted_pr_comment_ids

/-- The state with other ids of a feed. -/
def PRActivityState.withIds (state : PRActivityState) (inline : Bool) (ids : List ℕ) :
    PRActivityState :=
  if inline then { state with emitted_review_comment_ids := ids }
  else { state with emitted_pr_comment_ids := ids }

/-- A comment of the conversation feed. Its number is what `pr_number` reads; without one it is on an
issue, and the request for that issue may fail. -/
structure GitHubComment where
  id : ℕ
  created_at : String
  updated_at : String
  user : Option String
  html_url : String
  number : Option ℕ
  request_fails : Bool := false

/-- A comment of the feed of inline comments, with the number that its url ends with. -/
structure GitHubReviewComment where
  id : ℕ
  created_at : String
  updated_at : String
  user : Option String
  html_url : String
  path : String
  number : Option ℕ

/-- What `fetch_pr_activity_pages` returns. -/
structure Fetched (α : Type) where
  comments : List α
  complete : Bool
  fetched_at : Option String

/-- What a poll meets. -/
structure ActivityPoll where
  /-- The pull requests of the window. -/
  prs : OrdMap ℕ PullRequestSnapshot
  /-- The pull requests of the scan of reviews. -/
  scan : Option (OrdMap ℕ PullRequestSnapshot)
  /-- The answer to a request for the metadata of a pull request. -/
  answer : ℕ → LookupAnswer
  conversation : Option (Fetched GitHubComment)
  review : Option (Fetched GitHubReviewComment)
  /-- The time at the start. -/
  cutoff : String
  /-- The pass fails later on, before its state is stored. -/
  interrupted : Bool := false

/-- What happens in a poll. -/
inductive Effect where
  /-- The metadata of a pull request is asked for. -/
  | lookup (number : ℕ) (outcome : MetadataLookup)
  /-- A comment of a feed is accepted. -/
  | accepted (comment : PendingPRComment)
  /-- A comment joins the queue, which then has this length. -/
  | queued (length : ℕ)
  | emitted (comment : PendingPRComment) (event : IncomingEvent)
  /-- The id of a comment becomes the newest one of its feed. -/
  | receipt (key : Bool × ℕ)

/-- What a poll works on. -/
structure Pass where
  state : PRActivityState
  attempted : OrdMap ℕ MetadataLookup := []
  counted : List (Bool × ℕ) := []
  log : List Effect := []

/-- Something happens. -/
def Pass.note (pass : Pass) (effect : Effect) : Pass := { pass with log := pass.log ++ [effect] }

/-! ## Receipts -/

/-- `remember_activity_id`, at the ids of a feed. -/
def Pass.remember (pass : Pass) (key : Bool × ℕ) : Pass :=
  if key.2 ∈ pass.state.ids key.1 then pass
  else Pass.note { pass with
    state := pass.state.withIds key.1
      (Recent.remember MAX_EMITTED_COMMENT_IDS (pass.state.ids key.1) key.2) } (.receipt key)

/-- `refresh_delivered_comment_id`. -/
def Pass.refresh (pass : Pass) (key : Bool × ℕ) : Pass :=
  Pass.note { pass with
    state := pass.state.withIds key.1
      (Recent.renew MAX_EMITTED_COMMENT_IDS (pass.state.ids key.1) key.2) } (.receipt key)

/-! ## Metadata -/

def cachePrMetadata (state : PRActivityState) (number : ℕ) (metadata : Option PRActivityMetadata) :
    PRActivityState :=
  let state :=
    -- A number that is known keeps its place in the order.
    if (state.metadata.get number).isSome then state
    else
      let order := state.metadata_order ++ [number]
      if MAX_PR_METADATA_CACHE < order.length then
        { state with
          metadata_order := order.tail
          metadata := state.metadata.erase (order.headD number) }
      else { state with metadata_order := order }
  { state with metadata := state.metadata.insert number metadata }

section

variable (source : Source) (input : ActivityPoll)

/-- `known_pr_metadata`: what is known, with the state that may have cached it. -/
def knownPrMetadata (number : ℕ) (state : PRActivityState) :
    Option (Option PRActivityMetadata) × PRActivityState :=
  match ((input.prs.get number).or (input.scan.bind fun prs => prs.get number)).filter
      fun pr => decide (pr.author ≠ "") with
  -- A snapshot without an author says nothing about the pull request.
  | some pr =>
    let metadata : PRActivityMetadata := ⟨pr.title, pr.author⟩
    (some (some metadata), cachePrMetadata state number (some metadata))
  | none => (state.metadata.get number, state)

/-- `known_pr_metadata` in a pass. -/
def Pass.known (pass : Pass) (number : ℕ) : Option (Option PRActivityMetadata) × Pass :=
  let (known, state) := knownPrMetadata input number pass.state
  (known, { pass with state := state })

/-- `resolve_pr_metadata`, with its entry in the table of attempts. -/
def Pass.resolve (pass : Pass) (number : ℕ) : Pass :=
  let answer := input.answer number
  Pass.note { pass with
    state := match answer with
      | .found metadata => cachePrMetadata pass.state number metadata
      | _ => pass.state
    attempted := pass.attempted.insert number answer.outcome } (.lookup number answer.outcome)

/-- The event of `emit_pending_comment`. -/
def pendingCommentEvent (comment : PendingPRComment) (metadata : Option PRActivityMetadata) :
    IncomingEvent :=
  let payload : GitHubPRCommentEvent :=
    { repo := source.repo_name
      number := comment.number
      title := (metadata.map PRActivityMetadata.title).getD ""
      author := comment.author
      pr_author := (metadata.map PRActivityMetadata.author).getD ""
      url := comment.url
      comment_id := comment.id }
  decorate source (match comment.path with
    | some path => .githubPrReviewCommented source.repo.channel payload path
    | none => .githubPrCommented source.repo.channel payload)

/-- `emit_pending_comment`. -/
def Pass.emit (pass : Pass) (comment : PendingPRComment) (metadata : Option PRActivityMetadata) : Pass :=
  pass.note (.emitted comment (pendingCommentEvent source comment metadata))

/-! ## The queue -/

/-- The lookup of the loop of `drain_pending_comments`, if there has to be one and the budget allows
it. -/
def Pass.lookUp (pass : Pass) (number : ℕ) : Pass :=
  let (known, pass) := pass.known input number
  if known.isNone && (pass.attempted.get number).isNone &&
      decide (pass.attempted.length < MAX_PR_METADATA_LOOKUPS) then pass.resolve input number
  else pass

/-- Keys are compared by this instance, in every module. -/
instance lawfulBEq_numbered : LawfulBEq (Bool × ℕ) := inferInstance

/-- A failed lookup counts once for a comment. -/
def Pass.count (pass : Pass) (comment : PendingPRComment) : PendingPRComment × Pass :=
  if pass.attempted.get comment.number = some .failed ∧ comment.key ∉ pass.counted then
    ({ comment with attempts := comment.attempts + 1 }, { pass with counted := comment.key :: pass.counted })
  else (comment, pass)

/-- One turn of the loop of `drain_pending_comments`, with the comment that is retained. -/
def Pass.drainOne (pass : Pass) (comment : PendingPRComment) : Pass × Option PendingPRComment :=
  let (known, pass) := (pass.lookUp input comment.number).known input comment.number
  match known with
  | some metadata => ((pass.emit source comment metadata).refresh comment.key, none)
  | none =>
    let (comment, pass) := pass.count comment
    -- It is given up waiting for the metadata, and sent without.
    if MAX_METADATA_ATTEMPTS ≤ comment.attempts then
      ((pass.emit source comment none).refresh comment.key, none)
    else (pass, some comment)

/-- The loop of `drain_pending_comments`. -/
def Pass.drainLoop : (queue retained : List PendingPRComment) → Pass → Pass × List PendingPRComment
  | [], retained, pass => (pass, retained)
  | comment :: queue, retained, pass =>
    let (pass, kept) := pass.drainOne source input comment
    drainLoop queue (retained ++ kept.toList) pass

/-- `drain_pending_comments`. What is popped is not read before the queue is there again. -/
def Pass.drain (pass : Pass) : Pass :=
  let (pass, retained) := Pass.drainLoop source input pass.state.pending_comments [] pass
  { pass with state := { pass.state with pending_comments := retained } }

/-- The oldest comment makes room in a full queue. -/
def Pass.makeRoom (pass : Pass) : Pass :=
  match pass.state.pending_comments with
  | oldest :: queue =>
    if (oldest :: queue).length = MAX_PENDING_PR_COMMENTS then
      let pass := { pass with state := { pass.state with pending_comments := queue } }
      -- No request is made for the sake of room: the oldest is sent with what is known.
      let (known, pass) := pass.known input oldest.number
      (pass.emit source oldest known.join).refresh oldest.key
    else pass
  | [] => pass

/-- A comment joins the queue. -/
def Pass.push (pass : Pass) (comment : PendingPRComment) : Pass :=
  Pass.note { pass with
    state := { pass.state with pending_comments := pass.state.pending_comments ++ [comment] } }
    (.queued (pass.state.pending_comments.length + 1))

/-- `accept_activity_comment`. -/
def Pass.accept (pass : Pass) (comment : PendingPRComment) : Pass :=
  let (known, pass) := pass.known input comment.number
  match known with
  | some metadata => (pass.note (.accepted comment)).emit source comment metadata
  | none => ((pass.makeRoom source input).note (.accepted comment)).push comment

/-! ## Feeds -/

/-- What both feeds do with a comment on a pull request: `comment` is what is accepted, unless its
pull request cannot be read. -/
def Pass.feed (lower : Option String) (key : Bool × ℕ) (created_at : String)
    (comment : Option PendingPRComment) (pass : Pass) : Pass :=
  if key.2 ∈ pass.state.ids key.1 ∨ key ∈ pass.state.pending_comments.map PendingPRComment.key then
    pass
  else
    match lower with
    -- Nothing was polled before, so the comment is old, and only remembered.
    | none => pass.remember key
    | some lower =>
      if created_at < lower then pass
      else
        match comment with
        | none => pass
        | some comment => (pass.accept source input comment).remember key

/-- The comment of the conversation feed that is accepted. -/
def GitHubComment.pending (comment : GitHubComment) (number : ℕ) : PendingPRComment where
  id := comment.id
  number := number
  author := comment.user.getD ""
  url := comment.html_url
  path := none
  created_at := comment.created_at

/-- The inline comment that is accepted. -/
def GitHubReviewComment.pending (comment : GitHubReviewComment) (number : ℕ) : PendingPRComment where
  id := comment.id
  number := number
  author := comment.user.getD ""
  url := comment.html_url
  path := some comment.path
  created_at := comment.created_at

/-- One turn of the loop over the conversation feed; `.error` leaves the poll. What is sent about
comments on issues is not modelled. -/
def Pass.conversationOne (lower : Option String) (pass : Pass) (comment : GitHubComment) :
    Except Pass Pass :=
  match comment.number with
  | none =>
    if source.repo.emit_issue_opened && comment.request_fails then .error pass else .ok pass
  | some number =>
    if source.repo.emit_pr_activity then
      .ok (pass.feed source input lower (false, comment.id) comment.created_at (some (comment.pending number)))
    else .ok pass

/-- One turn of the loop over inline comments. -/
def Pass.reviewOne (lower : Option String) (pass : Pass) (comment : GitHubReviewComment) : Pass :=
  pass.feed source input lower (true, comment.id) comment.created_at
    (comment.number.map comment.pending)

/-- The newest update that is known. -/
def maxUpdated (times : List String) (cursor fetched_at : Option String) (cutoff : String) : String :=
  (times ++ cursor.toList).max?.getD (fetched_at.getD cutoff)

/-- The lower bound after a fetch. A feed with a cursor has a lower bound. -/
def nextLower {α : Type} (fetched : Fetched α) (cursor lower : Option String) (max_updated : String) :
    Option String :=
  if cursor.isNone then some (fetched.fetched_at.getD max_updated)
  else if fetched.complete then lower.map fun lower => max lower max_updated
  else lower

/-- The conversation feed. -/
def Pass.conversation (pass : Pass) : Except Pass Pass :=
  match input.conversation with
  | none => .ok pass
  | some fetched =>
    let state := pass.state
    let cursor :=
      if source.repo.emit_pr_activity then state.pr_comment_cursor else state.issue_comment_cursor
    let lower :=
      if source.repo.emit_pr_activity then state.pr_comment_lower else state.issue_comment_lower
    let max_updated := maxUpdated (fetched.comments.map GitHubComment.updated_at) cursor
      fetched.fetched_at input.cutoff
    let next := nextLower fetched cursor lower max_updated
    do
      let pass ← fetched.comments.foldlM (Pass.conversationOne source input lower) pass
      .ok { pass with
        state :=
          if source.repo.emit_pr_activity then
            { pass.state with pr_comment_cursor := some max_updated, pr_comment_lower := next }
          else
            { pass.state with
              issue_comment_cursor := some max_updated, issue_comment_lower := next } }

/-- The feed of inline comments. -/
def Pass.review (pass : Pass) : Pass :=
  match input.review with
  | none => pass
  | some fetched =>
    let state := pass.state
    let max_updated := maxUpdated (fetched.comments.map GitHubReviewComment.updated_at)
      state.review_comment_cursor fetched.fetched_at input.cutoff
    let next := nextLower fetched state.review_comment_cursor state.review_comment_lower max_updated
    let pass := fetched.comments.foldl (Pass.reviewOne source input state.review_comment_lower) pass
    { pass with
      state := { pass.state with review_comment_cursor := some max_updated, review_comment_lower := next } }

/-- Cached titles are refreshed from the window. -/
def refreshTitles (state : PRActivityState) : PRActivityState :=
  input.prs.foldl (fun state entry =>
    if (state.metadata.get entry.1).isSome && decide (entry.2.author ≠ "") then
      cachePrMetadata state entry.1 (some ⟨entry.2.title, entry.2.author⟩)
    else state) state

/-- `poll_pr_activity`, before the scan of reviews. -/
def pollPrActivity (state : PRActivityState) : Except Pass Pass :=
  let pass : Pass := { state := state }
  if (!source.repo.emit_pr_activity && !source.repo.emit_issue_opened) || !source.client then .ok pass
  else do
    let pass := { pass with state := refreshTitles input state }
    let pass ← (pass.drain source input).conversation source input
    if source.repo.emit_pr_activity then .ok ((pass.review source input).drain source input)
    else .ok pass

end

/-- The polls of a repository's comments. A state that is not stored is lost. -/
def activityPoller (source : Source) : Machine PRActivityState ActivityPoll (List Effect) where
  step state input :=
    match pollPrActivity source input state with
    | .error pass => (state, pass.log)
    | .ok pass => (if input.interrupted then state else pass.state, pass.log)

end Clawhip.Issues
