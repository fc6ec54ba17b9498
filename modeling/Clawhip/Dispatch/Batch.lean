import Clawhip.Core.TimerWheel
import Clawhip.Dispatch.ScheduledKey

/-!
# Batches behind the timer wheel

What `GitHubCiBatcher` and `RoutineDeliveryBatcher` of `src/dispatch.rs` share: pending batches by
key, a timer wheel, and a window. Every observed item joins the pending batch of its key, or opens
one whose deadline is the window away, and schedules a wheel entry for that deadline that names the
key and the batch's version. A flush ticks the wheel and sends a batch when a returned entry names
its current version. The two batchers differ in `Batching`: the key of an item, the batch that it
opens, how a batch absorbs it, and when a batch is complete and leaves at once.

A wheel entry outlives the batch that it was scheduled for, and versions start over with the next
batch of the same key. `StaleDue` is the case in which such an entry names the next batch.
-/

namespace Clawhip.Dispatch

open List Option OrdMap Machine

open Clawhip.Core (DelayedEntry TimerWheel)

/-- Pending batches by key, the wheel, and the window in milliseconds. -/
structure Batcher (β : Type*) where
  pending : OrdMap String β
  timer_wheel : TimerWheel
  window_ms : ℕ

/-- One call on a batcher. -/
inductive Input (δ : Type*) where
  /-- `observe`. -/
  | observe (item : δ) (now_ms : ℕ)
  /-- `flush_due`. -/
  | flushDue (now_ms : ℕ)

/-- The time that a call is given. -/
def Input.now_ms {δ : Type*} : Input δ → ℕ
  | observe _ now_ms => now_ms
  | flushDue now_ms => now_ms

/-- What a batcher does with its items. The two laws are what every deadline rests on: a fresh batch
is due one window from now, and absorbing an item does not move the deadline. -/
structure Batching (δ β : Type*) where
  /-- The batch key of an item. -/
  key : δ → String
  /-- The batch that an item opens, before it is absorbed: window, item and time. -/
  fresh : ℕ → δ → ℕ → β
  /-- A batch with one more item. -/
  absorb : β → δ → β
  /-- The batch leaves in the observe that made it so. -/
  complete : β → Bool
  deliver_at_ms : β → ℕ
  version : β → ℕ
  deliver_at_fresh : ∀ window item now, deliver_at_ms (fresh window item now) = now + window
  deliver_at_absorb : ∀ b item, deliver_at_ms (absorb b item) = deliver_at_ms b

namespace Batcher

variable {δ β : Type*}

/-- An empty batcher. -/
def new (window_ms now_ms : ℕ) : Batcher β := ⟨[], .new now_ms, window_ms⟩

/-- The wheel entry of a batch. -/
def entry (B : Batching δ β) (codec : BatchKeyCodec) (key : String) (b : β) : DelayedEntry :=
  ⟨B.deliver_at_ms b, codec.to_vec ⟨key, B.version b⟩⟩

/-- The pending batch of an item's key, or the one it opens, with the item absorbed. -/
def joined (B : Batching δ β) (s : Batcher β) (item : δ) (now_ms : ℕ) : β :=
  B.absorb ((s.pending.get (B.key item)).getD (B.fresh s.window_ms item now_ms)) item

/-- `observe`: the item joins its batch, the wheel gets an entry for the batch's new version, and a
complete batch leaves. -/
def observe (B : Batching δ β) (codec : BatchKeyCodec) (s : Batcher β) (item : δ) (now_ms : ℕ) :
    Batcher β × List (String × β) :=
  let key := B.key item
  let b := joined B s item now_ms
  let pending := s.pending.insert key b
  let wheel := s.timer_wheel.schedule (entry B codec key b)
  if B.complete b then ({ s with pending := pending.erase key, timer_wheel := wheel }, [(key, b)])
  else ({ s with pending := pending, timer_wheel := wheel }, [])

/-- `self.pending.remove(key)`. -/
def remove (s : Batcher β) (key : String) : Batcher β := { s with pending := s.pending.erase key }

/-- One returned wheel entry of `flush_due`: an entry that does not read back is skipped, and a batch
leaves when the entry names its current version. -/
def flushEntry (B : Batching δ β) (codec : BatchKeyCodec)
    (r : Batcher β × List (String × β)) (e : DelayedEntry) : Batcher β × List (String × β) :=
  match codec.from_slice e.record with
  | none => r
  | some scheduled =>
    match r.1.pending.get scheduled.key with
    | none => r
    | some b =>
      if B.version b = scheduled.version then
        (r.1.remove scheduled.key, r.2 ++ [(scheduled.key, b)])
      else r

def flushDue (B : Batching δ β) (codec : BatchKeyCodec) (s : Batcher β) (now_ms : ℕ) :
    Batcher β × List (String × β) :=
  let (wheel, due) := s.timer_wheel.tick now_ms
  due.foldl (flushEntry B codec) ({ s with timer_wheel := wheel }, [])

/-- A batcher as a machine that answers with the batches that leave, each with its key. -/
def machine (B : Batching δ β) (codec : BatchKeyCodec) :
    Machine (Batcher β) (Input δ) (List (String × β)) where
  step
    | s, .observe item now_ms => observe B codec s item now_ms
    | s, .flushDue now_ms => flushDue B codec s now_ms

@[simp] theorem step_observe (B : Batching δ β) (codec : BatchKeyCodec) (s : Batcher β) (item : δ)
    (now : ℕ) : (machine B codec).step s (.observe item now) = observe B codec s item now := rfl

@[simp] theorem step_flushDue (B : Batching δ β) (codec : BatchKeyCodec) (s : Batcher β) (now : ℕ) :
    (machine B codec).step s (.flushDue now) = flushDue B codec s now := rfl

/-- The dispatcher's discipline: an observe does not read a clock behind the last flush. It holds when
the clock never goes back, and also when each observe follows a flush at the same time. -/
def Forward (s : Batcher β) : Input δ → Prop
  | .observe _ now_ms => s.timer_wheel.current_ms ≤ now_ms
  | .flushDue _ => True

/-- The calls read a clock that never goes back, from `t` on. -/
def ClockFrom (t : ℕ) (is : List (Input δ)) : Prop := (t :: is.map Input.now_ms).Pairwise (· ≤ ·)

instance (t : ℕ) (is : List (Input δ)) : Decidable (ClockFrom t is) := inferInstanceAs (Decidable (List.Pairwise _ _))

/-- Every observe reads the time of the last flush before it, of which there is one. `last` is the
time of the last flush so far. -/
def FlushedFirst : Option ℕ → List (Input δ) → Prop
  | _, [] => True
  | last, .observe _ now_ms :: is => last = some now_ms ∧ FlushedFirst last is
  | _, .flushDue now_ms :: is => FlushedFirst (some now_ms) is

variable (B : Batching δ β) (codec : BatchKeyCodec)

/-- Some wheel entry due at `now` names the version of `b` under its key. -/
def Named (s : Batcher β) (now : ℕ) (key : String) (b : β) : Prop :=
  ∃ e ∈ s.timer_wheel.stored, e.deliver_at_ms ≤ now ∧ codec.from_slice e.record = some ⟨key, B.version b⟩

/-- A due wheel entry names a pending batch whose own deadline is still to come: it was left behind by
an earlier batch of the same key, and the later batch has just reached the same version. -/
def StaleDue (s : Batcher β) (now : ℕ) : Prop :=
  ∃ key b, s.pending.get key = some b ∧ now < B.deliver_at_ms b ∧ Named B codec s now key b

/-! ## What a flush does -/

/-- The batch of a key that a list of returned entries sends. -/
def sentBy (s : Batcher β) (es : List DelayedEntry) (key : String) : Option β :=
  (s.pending.get key).filter fun b =>
    es.any fun e => codec.from_slice e.record = some ⟨key, B.version b⟩

variable {B codec}

variable {es : List DelayedEntry} {key : String} {s : Batcher β} {e : DelayedEntry} {b : β} {now : ℕ}
  {i : Input δ} {is : List (Input δ)}

/-- What is sent for a key depends on the pending batch of the key alone. -/
theorem sentBy_congr {s' : Batcher β} (h : s.pending.get key = s'.pending.get key) :
    sentBy B codec s es key = sentBy B codec s' es key := by
  unfold sentBy
  rw [h]

theorem get_remove (s : Batcher β) (key key' : String) :
    (s.remove key).pending.get key' = if key' = key then none else s.pending.get key' :=
  get_erase s.pending key key'

/-- An entry that sends nothing. -/
theorem sentBy_cons_of_ne (h : ∀ b, s.pending.get key = some b → codec.from_slice e.record ≠ some ⟨key, B.version b⟩) :
    sentBy B codec s (e :: es) key = sentBy B codec s es key := by
  unfold sentBy
  cases hb : s.pending.get key with
  | none => rfl
  | some b => simp [Option.filter, h b hb]

/-- An entry that names the current version of a batch sends it. -/
theorem sentBy_cons_of_eq (hb : s.pending.get key = some b)
    (h : codec.from_slice e.record = some ⟨key, B.version b⟩) : sentBy B codec s (e :: es) key = some b := by
  simp [sentBy, hb, h]

/-- An entry that sends the batch of one key leaves the other keys to the entries after it. -/
theorem sentBy_remove_ne {k : String} {v : ℕ} (hd : codec.from_slice e.record = some ⟨k, v⟩) (hk : key ≠ k) :
    sentBy B codec (s.remove k) es key = sentBy B codec s (e :: es) key := by
  have hcongr : sentBy B codec (s.remove k) es key = sentBy B codec s es key :=
    sentBy_congr (by rw [get_remove, if_neg hk])
  rw [hcongr, sentBy_cons_of_ne]
  intro b _ h
  rw [hd] at h
  exact hk (ScheduledBatchKey.mk.inj (some.inj h)).1.symm

/-- The two cases of one returned entry. -/
theorem flushEntry_cases (B : Batching δ β) (codec : BatchKeyCodec) (r : Batcher β × List (String × β)) (e : DelayedEntry) :
    (flushEntry B codec r e = r ∧ ∀ key b, r.1.pending.get key = some b →
        codec.from_slice e.record ≠ some ⟨key, B.version b⟩) ∨
      ∃ key b, r.1.pending.get key = some b ∧ codec.from_slice e.record = some ⟨key, B.version b⟩ ∧
        flushEntry B codec r e = (r.1.remove key, r.2 ++ [(key, b)]) := by
  unfold flushEntry
  cases hd : codec.from_slice e.record with
  | none => exact Or.inl ⟨rfl, by simp⟩
  | some k =>
    obtain ⟨key, version⟩ := k
    cases hb : r.1.pending.get key with
    | none =>
      refine Or.inl ⟨by simp [hb], fun key' b hb' heq => ?_⟩
      obtain ⟨rfl, -⟩ : key = key' ∧ version = B.version b := by simpa using heq
      simp [hb] at hb'
    | some b =>
      by_cases hv : B.version b = version
      · refine Or.inr ⟨key, b, hb, by rw [hv], by simp [hb, hv]⟩
      · refine Or.inl ⟨by simp [hb, hv], fun key' b' hb' heq => ?_⟩
        obtain ⟨rfl, rfl⟩ : key = key' ∧ version = B.version b' := by simpa using heq
        rw [hb] at hb'
        exact hv (by rw [some.inj hb'])

/-- The returned entries of a flush, key by key: a batch that one of them names leaves, once, and the
wheel and the window are left alone. -/
theorem flushEntry_foldl (B : Batching δ β) (codec : BatchKeyCodec) (es : List DelayedEntry)
    (r : Batcher β × List (String × β)) (key : String) :
    (es.foldl (flushEntry B codec) r).1.timer_wheel = r.1.timer_wheel ∧
      (es.foldl (flushEntry B codec) r).1.window_ms = r.1.window_ms ∧
      (es.foldl (flushEntry B codec) r).1.pending.get key =
        (if (sentBy B codec r.1 es key).isSome then none else r.1.pending.get key) ∧
      (es.foldl (flushEntry B codec) r).2.filter (fun p => p.1 = key) = r.2.filter (fun p => p.1 = key) ++
          (sentBy B codec r.1 es key).toList.map fun b => (key, b) := by
  induction es generalizing r with
  | nil => cases hb : r.1.pending.get key <;> simp [sentBy, hb]
  | cons e es ih =>
    rw [foldl_cons]
    obtain ⟨hw, hwin, hget, hout⟩ := ih (flushEntry B codec r e)
    rcases flushEntry_cases B codec r e with ⟨heq, hne⟩ | ⟨k, b, hb, hd, heq⟩
    · rw [heq] at hw hwin hget hout ⊢
      rw [sentBy_cons_of_ne (hne key)]
      exact ⟨hw, hwin, hget, hout⟩
    · rw [heq] at hw hwin hget hout ⊢
      refine ⟨hw, hwin, ?_, ?_⟩
      · rw [hget, get_remove]
        by_cases hk : key = k
        · subst hk
          simp [sentBy_cons_of_eq hb hd]
        · rw [sentBy_remove_ne hd hk, if_neg hk]
      · rw [hout, filter_append, append_assoc]
        congr 1
        by_cases hk : key = k
        · subst hk
          have hnone : sentBy B codec (r.1.remove key) es key = none := by simp [sentBy, get_remove]
          simp [sentBy_cons_of_eq hb hd, hnone]
        · simp [sentBy_remove_ne hd hk, Ne.symm hk]

/-! ## The wheel entries of the pending batches -/

/-- The batcher's invariant: the wheel is valid, and every pending batch has the wheel entry of its
current version in the wheel. -/
structure Valid (B : Batching δ β) (codec : BatchKeyCodec) (s : Batcher β) : Prop where
  wheel : s.timer_wheel.Valid
  armed : ∀ key b, s.pending.get key = some b → entry B codec key b ∈ s.timer_wheel.stored

theorem valid_new (B : Batching δ β) (codec : BatchKeyCodec) (window_ms now_ms : ℕ) :
    (new window_ms now_ms : Batcher β).Valid B codec :=
  ⟨TimerWheel.valid_new now_ms, by intro key b h; simp [new] at h⟩

/-- A flush, key by key: a batch that a due entry names leaves, once, and every other one stays. -/
theorem Valid.flushDue_get (h : s.Valid B codec) (now : ℕ) (key : String) :
    (∀ b, s.pending.get key = some b → Named B codec s now key b → (flushDue B codec s now).1.pending.get key = none ∧
          (flushDue B codec s now).2.filter (fun p => p.1 = key) = [(key, b)]) ∧
      ((∀ b, s.pending.get key = some b → ¬ Named B codec s now key b) →
        (flushDue B codec s now).1.pending.get key = s.pending.get key ∧
          (flushDue B codec s now).2.filter (fun p => p.1 = key) = []) := by
  obtain ⟨-, -, hget, hout⟩ := flushEntry_foldl B codec
    (s.timer_wheel.tick now).2 ({ s with timer_wheel := (s.timer_wheel.tick now).1 }, []) key
  have hdue := (h.wheel.tick_spec now).2.2
  have hnamed : ∀ b, Named B codec s now key b ↔ ((s.timer_wheel.tick now).2.any fun e =>
      codec.from_slice e.record = some ⟨key, B.version b⟩) = true := by
    intro b
    have hmem : ∀ e, e ∈ (s.timer_wheel.tick now).2 ↔ e ∈ s.timer_wheel.stored ∧ e.deliver_at_ms ≤ now := by
      intro e
      rw [← Multiset.mem_coe, hdue, Multiset.mem_filter]
    simp only [Named, List.any_eq_true, hmem, decide_eq_true_eq, and_assoc]
  have hflush : flushDue B codec s now = (s.timer_wheel.tick now).2.foldl (flushEntry B codec)
      ({ s with timer_wheel := (s.timer_wheel.tick now).1 }, []) := rfl
  rw [hflush, hget, hout]
  constructor
  · intro b hb hn
    simp [sentBy, hb, Option.filter, (hnamed b).mp hn]
  · intro hn
    cases hb : s.pending.get key with
    | none => simp [sentBy, hb]
    | some b =>
      have hnb : ¬ ((s.timer_wheel.tick now).2.any fun e =>
          codec.from_slice e.record = some ⟨key, B.version b⟩) = true :=
        fun hany => hn b hb ((hnamed b).mpr hany)
      simp [sentBy, hb, Option.filter, hnb]

/-- A batch that is pending after a flush was pending before it. -/
theorem flushDue_get_some (h : (flushDue B codec s now).1.pending.get key = some b) : s.pending.get key = some b := by
  have hget := (flushEntry_foldl B codec (s.timer_wheel.tick now).2
    ({ s with timer_wheel := (s.timer_wheel.tick now).1 }, []) key).2.2.1
  have h' := hget.symm.trans h
  split_ifs at h'
  exact h'

/-- A flush sends pending batches. -/
theorem get_of_mem_flushDue (h : (key, b) ∈ (flushDue B codec s now).2) : s.pending.get key = some b := by
  have hout := (flushEntry_foldl B codec (s.timer_wheel.tick now).2
    ({ s with timer_wheel := (s.timer_wheel.tick now).1 }, []) key).2.2.2
  have hmem : (key, b) ∈ (flushDue B codec s now).2.filter fun p => p.1 = key := by simpa using h
  rw [flushDue, hout] at hmem
  obtain ⟨b', hb', heq⟩ := mem_map.mp hmem
  obtain ⟨-, rfl⟩ := Prod.mk.inj heq
  exact (filter_eq_some_iff.mp (mem_toList.mp hb')).1

/-- A flush opens no batch. -/
theorem flushDue_get_none (h : s.pending.get key = none) (now : ℕ) :
    (flushDue B codec s now).1.pending.get key = none := by
  cases hget : (flushDue B codec s now).1.pending.get key with
  | none => rfl
  | some b =>
    rw [flushDue_get_some hget] at h
    simp at h

theorem flushDue_wheel (s : Batcher β) (now : ℕ) :
    (flushDue B codec s now).1.timer_wheel = (s.timer_wheel.tick now).1 :=
  (flushEntry_foldl B codec (s.timer_wheel.tick now).2 ({ s with timer_wheel := (s.timer_wheel.tick now).1 }, []) "").1

theorem flushDue_window (s : Batcher β) (now : ℕ) : (flushDue B codec s now).1.window_ms = s.window_ms :=
  (flushEntry_foldl B codec (s.timer_wheel.tick now).2
    ({ s with timer_wheel := (s.timer_wheel.tick now).1 }, []) "").2.1

/-- A due pending batch is named, by the entry of its current version. -/
theorem Valid.named_of_due (hc : codec.RoundTrips) (h : s.Valid B codec) (hb : s.pending.get key = some b)
    (hdue : B.deliver_at_ms b ≤ now) : Named B codec s now key b :=
  ⟨entry B codec key b, h.armed key b hb, hdue, hc _⟩

/-- A flush keeps the invariant: a batch that stays is not due, so its wheel entry stays too. -/
theorem Valid.flushDue (hc : codec.RoundTrips) (h : s.Valid B codec) (now : ℕ) :
    (flushDue B codec s now).1.Valid B codec := by
  refine ⟨by rw [flushDue_wheel]; exact (h.wheel.tick_spec now).1, fun key b hb => ?_⟩
  obtain ⟨hleave, hstay⟩ := h.flushDue_get now key
  have hnot : ∀ b', s.pending.get key = some b' → ¬ Named B codec s now key b' := by
    intro b' hb' hn
    rw [(hleave b' hb' hn).1] at hb
    simp at hb
  rw [(hstay hnot).1] at hb
  rw [flushDue_wheel, (h.wheel.tick_spec now).2.1, Multiset.mem_filter]
  refine ⟨h.armed key b hb, not_le.mp fun hdue => hnot b hb (h.named_of_due hc hb hdue)⟩

variable {item : δ}

/-- The batch of an observed item is due no earlier than the last tick. -/
theorem Valid.joined_timely (h : s.Valid B codec) (hnow : s.timer_wheel.current_ms ≤ now) :
    s.timer_wheel.current_ms ≤ B.deliver_at_ms (joined B s item now) := by
  unfold joined
  rw [B.deliver_at_absorb]
  cases hb : s.pending.get (B.key item) with
  | none =>
    rw [getD_none, B.deliver_at_fresh]
    omega
  | some b => exact h.wheel.pending _ (h.armed _ b hb)

/-- What an observe leaves pending: the item's key holds the batch that it joined, unless that is
complete, and the other keys are left alone. -/
theorem observe_get (s : Batcher β) (item : δ) (now : ℕ) (key : String) :
    (observe B codec s item now).1.pending.get key = if key = B.key item then
        if B.complete (joined B s item now) then none else some (joined B s item now) else s.pending.get key := by
  unfold observe
  dsimp only
  split_ifs with hcomp hk hk
  · rw [get_erase, if_pos hk]
  · rw [get_erase_ne _ hk, get_insert_ne _ _ hk]
  · rw [get_insert, if_pos hk]
  · rw [get_insert_ne _ _ hk]

theorem observe_wheel (s : Batcher β) (item : δ) (now : ℕ) : (observe B codec s item now).1.timer_wheel =
      s.timer_wheel.schedule (entry B codec (B.key item) (joined B s item now)) := by
  unfold observe
  dsimp only
  split_ifs <;> rfl

theorem observe_window (s : Batcher β) (item : δ) (now : ℕ) :
    (observe B codec s item now).1.window_ms = s.window_ms := by
  unfold observe
  dsimp only
  split_ifs <;> rfl

/-- An observe keeps the invariant. -/
theorem Valid.observe (h : s.Valid B codec) (hnow : s.timer_wheel.current_ms ≤ now) :
    (observe B codec s item now).1.Valid B codec := by
  refine ⟨by rw [observe_wheel]; exact h.wheel.schedule (h.joined_timely hnow), fun key b hb => ?_⟩
  rw [observe_wheel, TimerWheel.stored_schedule, Multiset.mem_cons]
  rw [observe_get] at hb
  split_ifs at hb with hk hcomp
  · rw [hk, ← some.inj hb]
    exact Or.inl rfl
  · exact Or.inr (h.armed key b hb)

/-- Every call keeps the invariant. -/
theorem Valid.step (hc : codec.RoundTrips) (h : s.Valid B codec) (hi : Forward s i) :
    ((machine B codec).step s i).1.Valid B codec := by
  cases i with
  | observe item now => exact h.observe hi
  | flushDue now => exact h.flushDue hc now

/-- The invariant holds along every run. -/
theorem valid_run (hc : codec.RoundTrips) {window t : ℕ} (h : (machine B codec).Along Forward (new window t) is) :
    ((machine B codec).run (new window t) is).Valid B codec :=
  run_invariant _ (Valid B codec) (fun _ _ hv hi => hv.step hc hi) (valid_new B codec window t) h

theorem window_run (window t : ℕ) (is : List (Input δ)) :
    ((machine B codec).run (new window t) is).window_ms = window := by
  refine run_invariant' _ (fun s : Batcher β => s.window_ms = window) ?_ rfl is
  intro s i hs
  cases i with
  | observe item now => exact (observe_window s item now).trans hs
  | flushDue now => exact (flushDue_window s now).trans hs

/-- Calls by a clock that never goes back are forward. -/
theorem along_forward_of_clockFrom (B : Batching δ β) (codec : BatchKeyCodec) {t : ℕ}
    (hs : s.timer_wheel.current_ms ≤ t) (h : ClockFrom t is) : (machine B codec).Along Forward s is := by
  induction is generalizing s t with
  | nil => trivial
  | cons i is ih =>
    obtain ⟨hfirst, hrest⟩ := pairwise_cons.mp h
    have ht : t ≤ i.now_ms := hfirst _ (by simp)
    cases i with
    | observe item now =>
      refine ⟨hs.trans ht, ih ?_ hrest⟩
      rw [step_observe, observe_wheel, TimerWheel.schedule_current_ms]
      exact hs.trans ht
    | flushDue now =>
      refine ⟨trivial, ih ?_ hrest⟩
      rw [step_flushDue, flushDue_wheel]
      exact le_rfl

/-- Calls in which every observe follows a flush at the same time are forward. -/
theorem along_forward_of_flushedFirst (B : Batching δ β) (codec : BatchKeyCodec) {last : Option ℕ}
    (hs : ∀ now, last = some now → s.timer_wheel.current_ms = now) (h : FlushedFirst last is) :
    (machine B codec).Along Forward s is := by
  induction is generalizing s last with
  | nil => trivial
  | cons i is ih =>
    cases i with
    | observe item now =>
      refine ⟨(hs now h.1).le, ih ?_ h.2⟩
      rw [step_observe, observe_wheel, TimerWheel.schedule_current_ms]
      exact hs
    | flushDue now =>
      refine ⟨trivial, ih ?_ h⟩
      rw [step_flushDue, flushDue_wheel]
      exact fun now' hnow => some.inj hnow

/-! ## Generations

The batches of one key over time. A generation of a key opens with an observe at which no batch of
the key is pending, and lasts as long as the key stays pending. -/

/-- The key is pending at the start of the calls and after every one of them. -/
def Stays (B : Batching δ β) (codec : BatchKeyCodec) (key : String) :
    Batcher β → List (Input δ) → Prop
  | s, [] => (s.pending.get key).isSome
  | s, i :: is => (s.pending.get key).isSome ∧ Stays B codec key ((machine B codec).step s i).1 is

/-- The calls on a new batcher end within a generation of `key` that opened at `opened`. -/
def Generation (B : Batching δ β) (codec : BatchKeyCodec) (window t : ℕ) (key : String)
    (opened : ℕ) (is : List (Input δ)) : Prop :=
  ∃ pre item mid, is = pre ++ .observe item opened :: mid ∧ B.key item = key ∧
    ((machine B codec).run (new window t) pre).pending.get key = none ∧
    Stays B codec key ((machine B codec).run (new window t) (pre ++ [.observe item opened])) mid

theorem Stays.head (h : Stays B codec key s is) : (s.pending.get key).isSome := by
  cases is with
  | nil => exact h
  | cons i is => exact h.1

theorem stays_concat : Stays B codec key s (is ++ [i]) ↔ Stays B codec key s is ∧
      (((machine B codec).run s (is ++ [i])).pending.get key).isSome := by
  induction is generalizing s with
  | nil => rfl
  | cons j is ih => simp only [cons_append, Stays, ih, run_cons, and_assoc]

/-- A batch that leaves in a flush is named by a due wheel entry. -/
theorem Valid.flushDue_get_none_iff (h : s.Valid B codec) (hb : s.pending.get key = some b) :
    (Batcher.flushDue B codec s now).1.pending.get key = none ↔ Named B codec s now key b := by
  obtain ⟨hleave, hstay⟩ := h.flushDue_get now key
  constructor
  · intro hnone
    by_contra hn
    have hget := (hstay fun b' hb' hn' => hn (by
      rw [hb] at hb'
      rwa [some.inj hb'])).1
    rw [hnone, hb] at hget
    simp at hget
  · exact fun hn => (hleave b hb hn).1

/-- A batch that stays through a call keeps its deadline. -/
theorem Valid.deliver_at_step (h : s.Valid B codec) {b' : β} (hb : s.pending.get key = some b)
    (hb' : ((machine B codec).step s i).1.pending.get key = some b') : B.deliver_at_ms b' = B.deliver_at_ms b := by
  cases i with
  | observe item now =>
    rw [step_observe, observe_get] at hb'
    split_ifs at hb' with hk hcomp
    · rw [← some.inj hb', joined, B.deliver_at_absorb, ← hk, hb, getD_some]
    · rw [hb] at hb'
      rw [some.inj hb']
  | flushDue now =>
    obtain ⟨hleave, hstay⟩ := h.flushDue_get now key
    rw [step_flushDue] at hb'
    have hget := (hstay fun b₀ hb₀ hn => by
      rw [(hleave b₀ hb₀ hn).1] at hb'
      simp at hb').1
    rw [hb', hb] at hget
    rw [some.inj hget]

section Runs

variable {window t : ℕ} {is : List (Input δ)} {key : String} {opened : ℕ}

/-- Within a generation the pending batch is due one window after the generation opened. -/
theorem Generation.deliver_at (hc : codec.RoundTrips)
    (hg : Generation B codec window t key opened is) (hf : (machine B codec).Along Forward (new window t) is) :
    ∃ b, ((machine B codec).run (new window t) is).pending.get key = some b ∧ B.deliver_at_ms b = opened + window := by
  obtain ⟨pre, item, mid, rfl, rfl, hnone, hstays⟩ := hg
  rw [append_cons] at hf ⊢
  induction mid using reverseRecOn with
  | nil =>
    rw [append_nil] at hf ⊢
    obtain ⟨b, hb⟩ := isSome_iff_exists.mp hstays.head
    refine ⟨b, hb, ?_⟩
    rw [run_concat, step_observe, observe_get, if_pos rfl] at hb
    split_ifs at hb
    rw [← some.inj hb, joined, hnone, getD_none, B.deliver_at_absorb, B.deliver_at_fresh, window_run]
  | append_singleton mid i ih =>
    rw [← append_assoc] at hf ⊢
    obtain ⟨hf', -⟩ := (along_concat _ _ _ _ _).mp hf
    obtain ⟨hstays', hsome⟩ := stays_concat.mp hstays
    obtain ⟨b, hb, hdel⟩ := ih hf' hstays'
    obtain ⟨b', hb'⟩ := isSome_iff_exists.mp hsome
    rw [← run_append, ← append_assoc] at hb'
    refine ⟨b', hb', ?_⟩
    rw [run_concat] at hb'
    rw [(valid_run hc hf').deliver_at_step hb hb', hdel]

/-- Every pending batch belongs to a generation. -/
theorem exists_generation {b : β} (hb : ((machine B codec).run (new window t) is).pending.get key = some b) :
    ∃ opened, Generation B codec window t key opened is := by
  induction is using reverseRecOn generalizing b with
  | nil => simp [new] at hb
  | append_singleton is i ih =>
    have hsome : (((machine B codec).run (new window t) (is ++ [i])).pending.get key).isSome := by simp [hb]
    cases hprev : ((machine B codec).run (new window t) is).pending.get key with
    | some b₀ =>
      obtain ⟨opened, pre, item, mid, rfl, hk, hnone, hstays⟩ := ih hprev
      refine ⟨opened, pre, item, mid ++ [i], by simp, hk, hnone, stays_concat.mpr ⟨hstays, ?_⟩⟩
      rw [← run_append]
      simpa using hsome
    | none =>
      -- Only an observe of the key makes it pending.
      rw [run_concat] at hb
      cases i with
      | flushDue now =>
        rw [step_flushDue, flushDue_get_none hprev] at hb
        simp at hb
      | observe item now =>
        have hk : B.key item = key := by
          by_contra hk
          rw [step_observe, observe_get, if_neg (Ne.symm hk), hprev] at hb
          simp at hb
        exact ⟨now, is, item, [], rfl, hk, hprev, hsome⟩

/-- What a flush after a run does to a generation, when no stale wheel entry is due: from one window
after its opening on, its batch is sent, once, and before that it stays. -/
theorem Generation.flushDue (hc : codec.RoundTrips) (hf : (machine B codec).Along Forward (new window t) is)
    (hg : Generation B codec window t key opened is) {now : ℕ}
    (hstale : ¬ StaleDue B codec ((machine B codec).run (new window t) is) now) :
    ∃ b, ((machine B codec).run (new window t) is).pending.get key = some b ∧
      ((flushDue B codec ((machine B codec).run (new window t) is) now).1.pending.get key =
        if opened + window ≤ now then none else some b) ∧
      (flushDue B codec ((machine B codec).run (new window t) is) now).2.filter
        (fun p => p.1 = key) = if opened + window ≤ now then [(key, b)] else [] := by
  have hv := valid_run hc hf
  obtain ⟨b, hb, hdel⟩ := hg.deliver_at hc hf
  obtain ⟨hleave, hstay⟩ := hv.flushDue_get now key
  refine ⟨b, hb, ?_⟩
  rw [← hdel]
  by_cases hdue : B.deliver_at_ms b ≤ now
  · rw [if_pos hdue, if_pos hdue]
    exact hleave b hb (hv.named_of_due hc hb hdue)
  · rw [if_neg hdue, if_neg hdue, ← hb]
    refine hstay fun b' hb' hn => hstale ⟨key, b', hb', ?_, hn⟩
    rw [hb] at hb'
    rw [← some.inj hb']
    exact not_le.mp hdue

/-- When the batch of a key, opened at `opened`, has to leave: in the observe that completes it, or in
a flush one window or more after its opening. -/
def HasToLeave (B : Batching δ β) (s : Batcher β) (key : String) (opened : ℕ) : Input δ → Prop
  | .observe item now_ms => B.key item = key ∧ B.complete (joined B s item now_ms)
  | .flushDue now_ms => opened + s.window_ms ≤ now_ms

/-- The call that follows a run takes away exactly the pending batches that have to leave. -/
def LeavesOnTime (B : Batching δ β) (codec : BatchKeyCodec) (window t : ℕ) (is : List (Input δ))
    (i : Input δ) : Prop :=
  ∀ key opened, Generation B codec window t key opened is →
    (((machine B codec).step ((machine B codec).run (new window t) is) i).1.pending.get key = none ↔
      HasToLeave B ((machine B codec).run (new window t) is) key opened i)

/-- An observe takes away the batch that it completes and no other. -/
theorem observe_leavesOnTime (hc : codec.RoundTrips) (hf : (machine B codec).Along Forward (new window t) is)
    (item : δ) (now : ℕ) : LeavesOnTime B codec window t is (.observe item now) := by
  intro key opened hg
  obtain ⟨b, hb, -⟩ := hg.deliver_at hc hf
  rw [step_observe, observe_get]
  by_cases hk : key = B.key item
  · rw [if_pos hk]
    split_ifs with hcomp
    · exact iff_of_true rfl ⟨hk.symm, hcomp⟩
    · exact iff_of_false (by simp) fun h => hcomp h.2
  · rw [if_neg hk, hb]
    exact iff_of_false (by simp) fun h => hk h.1.symm

/-- A flush takes away exactly the batches that have to leave, if and only if no stale wheel entry is
due. -/
theorem flushDue_leavesOnTime_iff (hc : codec.RoundTrips)
    (hf : (machine B codec).Along Forward (new window t) is) (now : ℕ) :
    LeavesOnTime B codec window t is (.flushDue now) ↔
      ¬ StaleDue B codec ((machine B codec).run (new window t) is) now := by
  have hv := valid_run hc hf
  constructor
  · rintro hon ⟨key, b, hb, hlate, hn⟩
    obtain ⟨opened, hg⟩ := exists_generation hb
    obtain ⟨b', hb', hdel⟩ := hg.deliver_at hc hf
    rw [hb] at hb'
    obtain rfl := some.inj hb'
    have hdue := (hon key opened hg).mp ((hv.flushDue_get_none_iff hb).mpr hn)
    rw [HasToLeave, window_run] at hdue
    omega
  · intro hstale key opened hg
    obtain ⟨b, -, hget, -⟩ := hg.flushDue hc hf hstale
    rw [step_flushDue, hget, HasToLeave, window_run]
    split_ifs with hdue
    · exact iff_of_true rfl hdue
    · exact iff_of_false (by simp) hdue

/-- Every call of a run takes away exactly the batches that have to leave. -/
def RunsOnTime (B : Batching δ β) (codec : BatchKeyCodec) (window t : ℕ) (is : List (Input δ)) :
    Prop :=
  ∀ pre i post, is = pre ++ i :: post → LeavesOnTime B codec window t pre i

/-- No flush of a run finds a stale wheel entry due. -/
def NeverStale (B : Batching δ β) (codec : BatchKeyCodec) (window t : ℕ) (is : List (Input δ)) :
    Prop :=
  ∀ pre now_ms post, is = pre ++ .flushDue now_ms :: post →
    ¬ StaleDue B codec ((machine B codec).run (new window t) pre) now_ms

/-- A run is on time if and only if none of its flushes finds a stale wheel entry due. -/
theorem runsOnTime_iff (hc : codec.RoundTrips) (hf : (machine B codec).Along Forward (new window t) is) :
    RunsOnTime B codec window t is ↔ NeverStale B codec window t is := by
  have hpre : ∀ pre i post, is = pre ++ i :: post → (machine B codec).Along Forward (new window t) pre := by
    rintro pre i post rfl
    exact ((along_append _ _ _ _ _).mp hf).1
  constructor
  · intro hon pre now post his
    exact (flushDue_leavesOnTime_iff hc (hpre _ _ _ his) now).mp (hon _ _ _ his)
  · rintro hstale pre i post his
    cases i with
    | observe item now => exact observe_leavesOnTime hc (hpre _ _ _ his) item now
    | flushDue now => exact (flushDue_leavesOnTime_iff hc (hpre _ _ _ his) now).mpr (hstale _ _ _ his)

end Runs

end Batcher

end Clawhip.Dispatch
