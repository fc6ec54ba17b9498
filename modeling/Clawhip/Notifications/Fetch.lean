import Mathlib.Algebra.Order.Ring.Int
import Mathlib.Data.List.Basic
import Mathlib.Order.MinMax

/-!
# Fetching notification threads

`fetch_threads` of `src/source/github_notifications.rs`, and what `poll_once` does with the cursors.
A poll asks for at most five pages. A `CatchUp` continues a scan that did not fit; when a single
second does not fit, it is pinned, and the pages are shared between that second and the range above
it. Times are whole seconds. The server is an input; what a poll delivers is not modelled here.
-/

namespace Clawhip.Notifications

def MAX_PAGES : ℕ := 5

/-- `RECONCILE`, in seconds. -/
def RECONCILE : ℤ := 300

/-- `Notification` with its time; the event that is made of it is left out. -/
structure Thread where
  id : String
  reason : String
  repo : String
  updated : ℤ
deriving DecidableEq

structure CatchUp where
  since : Option ℤ
  before : ℤ
  covered_max : ℤ
  tied : Bool
  page : ℕ
  newer_before : Option ℤ
deriving DecidableEq

/-- The cursors of `MonitorState`; the time of a `Last-Modified` header is read already. -/
structure MonitorState where
  cutoff : Option ℤ := none
  watermark : Option ℤ := none
  catch_up : Option CatchUp := none
  last_modified : Option ℤ := none
deriving DecidableEq

/-- The query of a request, and the time of its `If-Modified-Since` header. -/
structure Request where
  page : ℕ
  since : Option ℤ
  before : Option ℤ
  if_modified_since : Option ℤ

/-- What is answered: the headers, the next page and the threads of a page; or a failure of the
request, of its status or of its contents. -/
inductive Response where
  | notModified
  | failure
  | page (date last_modified : Option ℤ) (next : Option ℕ) (threads : List Thread)

structure PollResult where
  threads : List Thread
  date : Option ℤ
  last_modified : Option ℤ
  watermark : Option ℤ
  catch_up : Option CatchUp

/-- What the loop of `fetch_threads` carries, with the requests that were made. -/
structure Scan where
  catch_up : Option CatchUp
  page : ℕ
  oldest : Option ℤ
  newest : Option ℤ
  newer_page : ℕ
  newer_oldest : Option ℤ
  newer_done : Bool
  threads : List Thread
  date : Option ℤ
  last_modified : Option ℤ
  requests : List Request

/-- What a pass of the loop comes to. -/
inductive Pass where
  | next (scan : Scan)
  | done (result : Option PollResult) (requests : List Request)
  | failed

/-- The least of the times so far and those of some threads. -/
def leastOf (so_far : Option ℤ) (threads : List Thread) : Option ℤ :=
  threads.foldl (fun least thread => some ((least.map (min · thread.updated)).getD thread.updated))
    so_far

/-- The greatest of the times so far and those of some threads. -/
def greatestOf (so_far : Option ℤ) (threads : List Thread) : Option ℤ :=
  threads.foldl (fun most thread => some ((most.map (max · thread.updated)).getD thread.updated))
    so_far

/-- The greater of two times that may be missing. -/
def maxOf (a b : Option ℤ) : Option ℤ :=
  match a, b with
  | some a, some b => some (max a b)
  | none, b => b
  | a, none => a

section Fetch

variable (state : MonitorState)

/-- The boundary second is pinned. -/
def pinned : Bool := state.catch_up.any CatchUp.tied

def newerBefore : Option ℤ := state.catch_up.bind CatchUp.newer_before

/-- The request asks for the head again. -/
def freshHead (index : ℕ) : Bool := state.catch_up.isSome && index == 0

/-- The request belongs to the range above the pinned second. -/
def newerRange (index : ℕ) (scan : Scan) : Bool :=
  pinned state && if freshHead state index then (newerBefore state).isNone
    else index < MAX_PAGES - 1 && !scan.newer_done

def requestPage (index : ℕ) (scan : Scan) : ℕ :=
  if freshHead state index then 1
  else if newerRange state index scan then scan.newer_page
  else scan.page

def lowerOf (index : ℕ) (scan : Scan) : Option ℤ :=
  if pinned state && (freshHead state index || newerRange state index scan) then
    -- the bound is exclusive, so that the pinned second itself is left out
    scan.catch_up.map fun cursor => cursor.before - 1
  else if pinned state then scan.catch_up.map fun cursor => cursor.before - 2
  else ((scan.catch_up.map CatchUp.since).getD state.watermark).map fun since => since - RECONCILE

def beforeOf (index : ℕ) (scan : Scan) : Option ℤ :=
  if newerRange state index scan then newerBefore state
  else if !freshHead state index then scan.catch_up.map CatchUp.before
  else none

def ifModifiedSince (index : ℕ) (scan : Scan) : Option ℤ :=
  if index == 0 && scan.catch_up.isNone then
    state.last_modified.bind fun modified =>
      (state.watermark.or state.cutoff).map fun covered => min modified (covered - RECONCILE)
  else none

def requestOf (index : ℕ) (scan : Scan) : Request where
  page := requestPage state index scan
  since := lowerOf state index scan
  before := beforeOf state index scan
  if_modified_since := ifModifiedSince state index scan

/-- The cursor of the range above, once its budget is used or it has ended. -/
def newerCursor (newer_oldest : ℤ) : Option ℤ :=
  -- a boundary that has not moved is dropped
  (some (newer_oldest + 1)).filter fun before =>
    (newerBefore state).all fun previous => decide (before < previous)

/-- A page of the range above. -/
def newerPass (index : ℕ) (request_page : ℕ) (next : Option ℕ) (scan : Scan) : Pass :=
  match next with
  | some next =>
    if next ≤ request_page then .failed
    else
      let scan := { scan with newer_page := next }
      if index = MAX_PAGES - 2 then
        match scan.newer_oldest with
        | none => .failed
        | some newer_oldest => .next { scan with
            catch_up := scan.catch_up.map fun cursor =>
              { cursor with newer_before := newerCursor state newer_oldest } }
      else .next scan
  | none => .next { scan with
      newer_done := true
      catch_up := scan.catch_up.map fun cursor => { cursor with newer_before := none } }

/-- The end of the scan that the watermark or the pinned second waits for. -/
def endPass (scan : Scan) : Pass :=
  match scan.catch_up.filter CatchUp.tied with
  | some cursor =>
    let cursor := if cursor.page = 1 then
        { cursor with before := cursor.before - 1, tied := false, newer_before := none }
      else cursor
    .done (some {
      threads := scan.threads
      date := scan.date
      last_modified := none
      watermark := state.watermark
      catch_up := some { cursor with page := 1 } }) scan.requests
  | none =>
    .done (some {
      threads := scan.threads
      date := scan.date
      last_modified := if scan.catch_up.isSome then none else scan.last_modified
      watermark := maxOf state.watermark scan.newest
      catch_up := none }) scan.requests

/-- One pass of the loop. -/
def pass (server : Request → Response) (index : ℕ) (scan : Scan) : Pass :=
  let request := requestOf state index scan
  let requests := scan.requests ++ [request]
  match server request with
  | .failure => .failed
  | .notModified =>
    if index = 0 ∧ scan.catch_up.isNone then .done none requests else .failed
  | .page date last_modified next threads =>
    let newer_range := newerRange state index scan
    let fresh_head := freshHead state index
    let scan := { scan with
      threads := scan.threads ++ threads
      requests := requests
      date := if index = 0 then date else scan.date
      last_modified := if index = 0 then last_modified else scan.last_modified
      newer_oldest := if newer_range then leastOf scan.newer_oldest threads else scan.newer_oldest
      oldest := if !newer_range && !fresh_head then leastOf scan.oldest threads else scan.oldest
      newest := if !newer_range && !fresh_head then greatestOf scan.newest threads else scan.newest }
    if newer_range then newerPass state index request.page next scan
    else if fresh_head then .next scan
    else match next with
      | none => endPass state scan
      | some next => if next ≤ scan.page then .failed else .next { scan with page := next }

/-- The pages are used up. -/
def capped (scan : Scan) : Pass :=
  match scan.oldest with
  | none => .failed
  | some oldest =>
    let before := oldest + 1
    let result (cursor : CatchUp) : Pass := .done (some {
      threads := scan.threads
      date := scan.date
      last_modified := scan.last_modified
      watermark := state.watermark
      catch_up := some cursor }) scan.requests
    match scan.catch_up with
    | some cursor =>
      if cursor.tied then result { cursor with page := scan.page }
      else if before < cursor.before then result { cursor with before := before, page := 1 }
      else result { cursor with tied := true, page := scan.page }
    | none =>
      match scan.newest with
      | none => .failed
      | some newest => result {
          since := (state.watermark.or state.cutoff).or scan.date
          before := before
          covered_max := newest
          tied := false
          page := 1
          newer_before := none }

/-- The loop, with so many passes left. -/
def loop (server : Request → Response) : ℕ → Scan → Pass
  | 0, scan => capped state scan
  | left + 1, scan =>
    match pass state server (MAX_PAGES - (left + 1)) scan with
    | .next scan => loop server left scan
    | other => other

/-- The loop's start. -/
def startScan : Scan where
  catch_up := state.catch_up
  page := (state.catch_up.map CatchUp.page).getD 1
  oldest := none
  newest := state.catch_up.map CatchUp.covered_max
  newer_page := 1
  newer_oldest := none
  newer_done := false
  threads := []
  date := none
  last_modified := none
  requests := []

def fetchThreads (server : Request → Response) : Pass := loop state server MAX_PAGES (startScan state)

/-- A poll that succeeded: the state after it, what it received and what it asked. -/
structure Polled where
  state : MonitorState
  threads : List Thread
  requests : List Request

/-- `poll_once`: nothing where it fails. -/
def pollOnce (server : Request → Response) : Option Polled :=
  match fetchThreads state server with
  | .done (some result) requests =>
    result.date.map fun date => {
      state := {
        cutoff := some (state.cutoff.getD date)
        watermark := result.watermark
        catch_up := result.catch_up
        last_modified := if result.catch_up.isSome then none else result.last_modified }
      threads := result.threads
      requests := requests }
  | .done none requests => some { state := state, threads := [], requests := requests }
  | _ => none

end Fetch

/-! ## The server -/

/-- What is in the inbox, newest first. -/
structure Inbox where
  threads : List Thread
  newest_first : threads.Pairwise fun a b => b.updated ≤ a.updated

/-- The threads strictly between two times. -/
def Inbox.between (inbox : Inbox) (since before : Option ℤ) : List Thread :=
  inbox.threads.filter fun thread =>
    since.all (fun since => decide (since < thread.updated)) &&
      before.all (fun before => decide (thread.updated < before))

/-- The server: fifty threads a page, with a next page exactly when there are more. -/
def Inbox.answer (inbox : Inbox) (date : ℤ) (last_modified : Option ℤ) (request : Request) :
    Response :=
  let found := inbox.between request.since request.before
  .page (some date) last_modified
    (if request.page * 50 < found.length then some (request.page + 1) else none)
    ((found.drop ((request.page - 1) * 50)).take 50)

end Clawhip.Notifications
