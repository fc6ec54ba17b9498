import Clawhip.Tmux.Registry

/-!
# Keyword hits and their windows

The hits of `src/keyword_window.rs` that wait for the end of their window, and the events that
`src/source/tmux.rs` builds of them. Instants are in nanoseconds.
-/

namespace Clawhip.Tmux

/-- `KeywordMatchProvenance`; its source is always fresh output. -/
structure KeywordMatchProvenance where
  pane_id : String
  pane_name : String
  cursor : Option ℕ

structure KeywordHit where
  keyword : String
  line : String
  provenance : Option KeywordMatchProvenance

/-- What hits are told apart by. -/
def KeywordHit.pair (hit : KeywordHit) : String × String := (hit.keyword, hit.line)

structure PendingKeywordHits where
  started_at : ℕ
  hits : List KeywordHit := []
  seen : List (String × String) := []
  seen_iff : ∀ pair, pair ∈ seen ↔ pair ∈ hits.map KeywordHit.pair := by simp

/-- Pairs are compared by this instance, in every module. -/
instance lawfulBEq_hit : LawfulBEq (String × String) := inferInstance

namespace PendingKeywordHits

/-- One hit of `PendingKeywordHits::push`. -/
def pushHit (pending : PendingKeywordHits) (hit : KeywordHit) : PendingKeywordHits :=
  if hit.pair ∈ pending.seen then pending
  else
    { started_at := pending.started_at
      hits := pending.hits ++ [hit]
      seen := hit.pair :: pending.seen
      seen_iff := by simp [pending.seen_iff, or_comm] }

def push (pending : PendingKeywordHits) (hits : List KeywordHit) : PendingKeywordHits := hits.foldl pushHit pending

def readyToFlush (pending : PendingKeywordHits) (now window : ℕ) : Bool := decide (window ≤ now - pending.started_at)

end PendingKeywordHits

def pushPendingKeywordHits (pending : Option PendingKeywordHits) (now : ℕ) (hits : List KeywordHit) :
    Option PendingKeywordHits :=
  if hits.isEmpty then pending
  else some ((pending.getD { started_at := now }).push hits)

/-! ## Events -/

/-- `add_keyword_hit_provenance`, on the fields of an object. -/
def addKeywordHitProvenance (fields : OrdMap String Json) :
    Option KeywordMatchProvenance → OrdMap String Json
  | none => fields
  | some provenance =>
    let fields := (fields.insert "pane_id" (.string provenance.pane_id)).insert "pane_name"
      (.string provenance.pane_name)
    let fields :=
      match provenance.cursor with
      | none => fields
      | some cursor => fields.insert "cursor" (.ofNat cursor)
    fields.insert "source" (.string "fresh-output")

def payloadFields : Json → OrdMap String Json
  | .object fields => fields
  | _ => []

/-- A hit inside an event about several. -/
def hitPayload (hit : KeywordHit) : Json :=
  .object (addKeywordHitProvenance
    (payloadFields (.ofFields [("keyword", .string hit.keyword), ("line", .string hit.line)])) hit.provenance)

def tmuxKeywordEventFromHitPayloads (session : String) (channel : Option String) (hits : List Json) :
    IncomingEvent :=
  let text (key : String) := ((hits.head?.bind (·.get key)).bind (·.asStr)).getD ""
  { kind := "tmux.keyword"
    channel := channel
    mention := none
    format := none
    template := none
    payload := .ofFields
      [("session", .string session), ("keyword", .string (text "keyword")),
        ("line", .string (text "line")), ("hit_count", .ofNat hits.length), ("hits", .array hits)] }

/-- What every event about a session is decorated with. -/
def decorateEvent (registration : RegisteredTmuxSession) (event : IncomingEvent) : IncomingEvent :=
  { event.withRoutingMetadata registration.routing with
    mention := registration.mention
    format := registration.format }

/-- The event about a single hit. -/
def singleHitEvent (registration : RegisteredTmuxSession) (session : String) (hit : KeywordHit) :
    IncomingEvent :=
  let event := IncomingEvent.tmuxKeyword registration.channel session hit.keyword hit.line
  { event with payload := .object (addKeywordHitProvenance (payloadFields event.payload) hit.provenance) }

def tmuxKeywordEvent (registration : RegisteredTmuxSession) (session : String) :
    List KeywordHit → IncomingEvent
  | [] => decorateEvent registration (.tmuxKeyword registration.channel session "" "")
  | [hit] => decorateEvent registration (singleHitEvent registration session hit)
  | hits =>
    decorateEvent registration <| if hits.all (·.provenance.isNone) then
        .tmuxKeywords registration.channel session (hits.map KeywordHit.pair)
      else tmuxKeywordEventFromHitPayloads session registration.channel (hits.map hitPayload)

def tmuxStaleEvent (registration : RegisteredTmuxSession) (session pane last_line : String) :
    IncomingEvent :=
  decorateEvent registration
    (.tmuxStale registration.channel session pane registration.stale_minutes last_line)

/-- `Duration::from_secs(registration.keyword_window_secs.max(1))`. -/
def RegisteredTmuxSession.keywordWindow (registration : RegisteredTmuxSession) : ℕ :=
  max registration.keyword_window_secs 1 * 10 ^ 9

/-- `flush_pending_keyword_hits`, without force: what is still pending, and the event. -/
def flushPendingKeywordHits (pending : Option PendingKeywordHits) (registration : RegisteredTmuxSession)
    (session : String) (now : ℕ) : Option PendingKeywordHits × List IncomingEvent :=
  match pending with
  | none => (none, [])
  | some pending =>
    if pending.readyToFlush now registration.keywordWindow then
      (none, if pending.hits.isEmpty then [] else [tmuxKeywordEvent registration session pending.hits])
    else (some pending, [])

/-! ## Hits by session -/

def pushSessionPendingKeywordHits (pending : OrdMap String PendingKeywordHits) (session : String)
    (now : ℕ) (hits : List KeywordHit) : OrdMap String PendingKeywordHits :=
  if hits.isEmpty then pending
  else
    pending.insert session (((pending.get session).getD { started_at := now }).push hits)

/-- `flush_session_pending_keyword_hits`, without force: what is not flushed is put back. -/
def flushSessionPendingKeywordHits (pending : OrdMap String PendingKeywordHits) (session : String)
    (registration : RegisteredTmuxSession) (now : ℕ) :
    OrdMap String PendingKeywordHits × List IncomingEvent :=
  let (hits, events) := flushPendingKeywordHits (pending.get session) registration session now
  (if hits.isNone then pending.erase session else pending, events)

variable (pending : OrdMap String PendingKeywordHits) (session : String)

variable {session other : String}

theorem get_pushSessionPendingKeywordHits_ne (h : session ≠ other) (now : ℕ) (hits : List KeywordHit) :
    (pushSessionPendingKeywordHits pending other now hits).get session = pending.get session := by
  unfold pushSessionPendingKeywordHits
  split
  · rfl
  · exact OrdMap.get_insert_ne _ _ h

theorem get_flushSessionPendingKeywordHits_ne (h : session ≠ other) (registration : RegisteredTmuxSession) (now : ℕ) :
    (flushSessionPendingKeywordHits pending other registration now).1.get session = pending.get session := by
  unfold flushSessionPendingKeywordHits
  simp only
  split
  · exact OrdMap.get_erase_ne _ h
  · rfl

end Clawhip.Tmux
