import Clawhip.Dispatch.Batch
import Clawhip.Events.Event
import Clawhip.Lib.Text

/-!
# The routine delivery batcher

`RoutineDeliveryBatcher` of `src/dispatch.rs`: deliveries of one batch key wait for the window and
leave together. Its batches leave in flushes only, so an entry that the wheel keeps always belongs to
the pending batch of its key (`Settled`), and no stale entry is ever due. What was returned for a
key, with what is pending for it, is therefore what was observed for it, in order.
-/

namespace Clawhip.Dispatch

open List Option Machine

/-- A delivery that waits, with its event. -/
structure QueuedRoutineDelivery where
  event : IncomingEvent
  delivery : ResolvedDelivery

/-- The deliveries of one batch key that wait. -/
structure PendingRoutineDeliveryBatch where
  items : List QueuedRoutineDelivery
  deliver_at_ms : ℕ
  version : ℕ

/-- The deliveries of a batch that left. -/
structure FlushedRoutineDeliveryBatch where
  items : List QueuedRoutineDelivery

def normalizedDeliveryText (value : Option String) : String := (Text.nonblank value).getD "-"

def sinkTargetKey : SinkTarget → String
  | .discordChannel channel => "discord-channel:" ++ channel
  | .discordThread thread => "discord-thread:" ++ thread
  | .discordWebhook webhook => "discord-webhook:" ++ webhook
  | .slackWebhook webhook => "slack-webhook:" ++ webhook
  | .httpEndpoint endpoint => "http-endpoint:" ++ endpoint
  | .localFile path => "localfile:" ++ path

def routineBatchKey (queued : QueuedRoutineDelivery) : String :=
  let delivery := queued.delivery
  let mention := normalizedDeliveryText delivery.mention
  let template := normalizedDeliveryText delivery.template
  queued.event.canonicalKind ++ ":" ++ delivery.sink ++ ":" ++ sinkTargetKey delivery.target ++ ":" ++
    delivery.format.asStr ++ ":" ++ mention ++ ":" ++ template ++ ":" ++ toString delivery.allow_dynamic_tokens

/-- How routine deliveries batch: a delivery joins at the end, and no batch leaves early. -/
def routineBatching : Batching QueuedRoutineDelivery PendingRoutineDeliveryBatch where
  key := routineBatchKey
  fresh window_ms _ now_ms := ⟨[], now_ms + window_ms, 0⟩
  absorb batch delivery :=
    { batch with items := batch.items ++ [delivery], version := batch.version + 1 }
  complete _ := false
  deliver_at_ms := PendingRoutineDeliveryBatch.deliver_at_ms
  version := PendingRoutineDeliveryBatch.version
  deliver_at_fresh _ _ _ := rfl
  deliver_at_absorb _ _ := rfl

/-- A routine batcher, and its pending deliveries by batch key. -/
abbrev RoutineDeliveryBatcher := Batcher PendingRoutineDeliveryBatch

namespace RoutineDeliveryBatcher

open Batcher

variable (codec : BatchKeyCodec)

def observe (s : RoutineDeliveryBatcher) (delivery : QueuedRoutineDelivery) (now_ms : ℕ) :
    RoutineDeliveryBatcher :=
  (Batcher.observe routineBatching codec s delivery now_ms).1

/-- `RoutineDeliveryBatcher::flush_due`: the batches, each with the key that it was pending under. -/
def flushDue (s : RoutineDeliveryBatcher) (now_ms : ℕ) :
    RoutineDeliveryBatcher × List (String × FlushedRoutineDeliveryBatch) :=
  let (s, batches) := Batcher.flushDue routineBatching codec s now_ms
  (s, batches.map fun p => (p.1, ⟨p.2.items⟩))

/-- The batcher as a machine that answers with the batches that it returns. -/
def machine : Machine RoutineDeliveryBatcher (Input QueuedRoutineDelivery)
    (List (String × FlushedRoutineDeliveryBatch)) where
  step
    | s, .observe delivery now_ms => (s.observe codec delivery now_ms, [])
    | s, .flushDue now_ms => s.flushDue codec now_ms

variable {codec} (s : RoutineDeliveryBatcher)

theorem machine_step_fst (i : Input QueuedRoutineDelivery) :
    ((machine codec).step s i).1 = ((Batcher.machine routineBatching codec).step s i).1 := by
  cases i <;> rfl

/-- The batcher's machine runs through the states of the shared one. -/
theorem machine_run (is : List (Input QueuedRoutineDelivery)) :
    (machine codec).run s is = (Batcher.machine routineBatching codec).run s is := by
  induction is generalizing s with
  | nil => rfl
  | cons i is ih => rw [run_cons, run_cons, ih, machine_step_fst]

/-! ## No stale wheel entries -/

/-- Every wheel entry names a key with a pending batch, and is due when that batch is. -/
def Settled (codec : BatchKeyCodec) (s : RoutineDeliveryBatcher) : Prop :=
  ∀ e ∈ s.timer_wheel.stored, ∃ key version b, e.record = codec.to_vec ⟨key, version⟩ ∧
    s.pending.get key = some b ∧ b.deliver_at_ms = e.deliver_at_ms

theorem settled_new (window t : ℕ) : Settled codec (new window t) := by
  intro e he
  simp [new] at he

variable {b : PendingRoutineDeliveryBatch} {key : String} {s : RoutineDeliveryBatcher}
  {is : List (Input QueuedRoutineDelivery)} {delivery : QueuedRoutineDelivery}

/-- A batch that a due wheel entry names is due itself. -/
theorem Settled.due_of_named (hc : codec.RoundTrips) (h : Settled codec s) {now : ℕ}
    (hb : s.pending.get key = some b) (hn : Named routineBatching codec s now key b) : b.deliver_at_ms ≤ now := by
  obtain ⟨e, he, hdue, hread⟩ := hn
  obtain ⟨key', version, b', hrecord, hb', hdel⟩ := h e he
  rw [hrecord, hc] at hread
  obtain ⟨rfl, -⟩ := ScheduledBatchKey.mk.inj (some.inj hread)
  rw [hb] at hb'
  rw [some.inj hb', hdel]
  exact hdue

/-- A settled batcher has no stale entry due. -/
theorem Settled.not_staleDue (hc : codec.RoundTrips) (h : Settled codec s) (now : ℕ) :
    ¬ StaleDue routineBatching codec s now := by
  rintro ⟨key, b, hb, hlate, hn⟩
  exact absurd (h.due_of_named hc hb hn) (not_le.mpr hlate)

/-- An observe keeps a batcher settled: the item joins the batch that the older entries of its key
belong to. -/
theorem Settled.observe (h : Settled codec s) (item : QueuedRoutineDelivery) (now : ℕ) :
    Settled codec (s.observe codec item now) := by
  have hget (key : String) : (s.observe codec item now).pending.get key =
      if key = routineBatchKey item then some (joined routineBatching s item now)
      else s.pending.get key := observe_get s item now key
  intro e he
  rw [RoutineDeliveryBatcher.observe, observe_wheel, Core.TimerWheel.stored_schedule, Multiset.mem_cons] at he
  rcases he with rfl | he
  · exact ⟨routineBatchKey item, _, _, rfl, by rw [hget, if_pos rfl], rfl⟩
  · obtain ⟨key, version, b, hrecord, hb, hdel⟩ := h e he
    by_cases hk : key = routineBatchKey item
    · refine ⟨key, version, _, hrecord, by rw [hget, if_pos hk], ?_⟩
      have hjoin : (s.pending.get (routineBatching.key item)).getD
          (routineBatching.fresh s.window_ms item now) = b := by
        rw [show routineBatching.key item = key from hk.symm, hb, getD_some]
      rw [joined, hjoin]
      exact hdel
    · exact ⟨key, version, b, hrecord, by rw [hget, if_neg hk, hb], hdel⟩

/-- A flush keeps a batcher settled: an entry that stays is not due, and neither is its batch. -/
theorem Settled.flushDue (hc : codec.RoundTrips) (hv : s.Valid routineBatching codec) (h : Settled codec s)
    (now : ℕ) : Settled codec (s.flushDue codec now).1 := by
  intro e he
  have hwheel : (s.flushDue codec now).1.timer_wheel = (s.timer_wheel.tick now).1 := flushDue_wheel s now
  rw [hwheel, (hv.wheel.tick_spec now).2.1, Multiset.mem_filter] at he
  obtain ⟨key, version, b, hrecord, hb, hdel⟩ := h e he.1
  refine ⟨key, version, b, hrecord, ?_, hdel⟩
  rw [← hb]
  refine ((hv.flushDue_get now key).2 fun b' hb' hn => ?_).1
  rw [hb] at hb'
  obtain rfl := some.inj hb'
  have := h.due_of_named hc hb hn
  omega

variable {window t : ℕ}

/-- The batcher is valid and settled along every forward run. -/
theorem settled_run (hc : codec.RoundTrips)
    (hf : (Batcher.machine routineBatching codec).Along Forward (new window t) is) :
    Settled codec ((Batcher.machine routineBatching codec).run (new window t) is) := by
  refine (run_invariant _ (fun s => s.Valid routineBatching codec ∧ Settled codec s)
    ?_ ⟨valid_new _ _ _ _, settled_new _ _⟩ hf).2
  rintro s i ⟨hv, hs⟩ hi
  refine ⟨hv.step hc hi, ?_⟩
  cases i with
  | observe item now => exact hs.observe item now
  | flushDue now => exact hs.flushDue hc hv now

/-! ## Every delivery is in one place -/

/-- The deliveries of a batch key among the calls, in order. -/
def observed (key : String) (is : List (Input QueuedRoutineDelivery)) :
    List QueuedRoutineDelivery :=
  is.filterMap fun
    | .observe delivery _ => if routineBatchKey delivery = key then some delivery else none
    | .flushDue _ => none

/-- The deliveries in the batches of a key that were returned, in order. -/
def returned (key : String) (batches : List (String × FlushedRoutineDeliveryBatch)) :
    List QueuedRoutineDelivery :=
  (batches.filter fun p => p.1 = key).flatMap fun p => p.2.items

/-- The deliveries of a key that are pending, in order. -/
def waiting (key : String) (s : RoutineDeliveryBatcher) : List QueuedRoutineDelivery :=
  ((s.pending.get key).map PendingRoutineDeliveryBatch.items).getD []

theorem returned_append (key : String) (bs bs' : List (String × FlushedRoutineDeliveryBatch)) :
    returned key (bs ++ bs') = returned key bs ++ returned key bs' := by
  simp [returned]

/-- A flush moves the deliveries of a key from the pending batch to the returned ones, all or
none. -/
theorem flushDue_moves (hv : s.Valid routineBatching codec) (now : ℕ) (key : String) :
    returned key (s.flushDue codec now).2 ++ waiting key (s.flushDue codec now).1 = waiting key s := by
  obtain ⟨hleave, hstay⟩ := hv.flushDue_get now key
  have hret : returned key (s.flushDue codec now).2 =
      ((Batcher.flushDue routineBatching codec s now).2.filter fun p => p.1 = key).flatMap fun p => p.2.items := by
    rw [returned, flushDue, List.filter_map, flatMap_map]
    rfl
  have hwait : waiting key (s.flushDue codec now).1 =
      (((Batcher.flushDue routineBatching codec s now).1.pending.get key).map
        PendingRoutineDeliveryBatch.items).getD [] := rfl
  rw [hret, hwait, waiting]
  by_cases hn : ∃ b, s.pending.get key = some b ∧ Named routineBatching codec s now key b
  · obtain ⟨b, hb, hn⟩ := hn
    obtain ⟨hget, hout⟩ := hleave b hb hn
    simp [hget, hout, hb]
  · obtain ⟨hget, hout⟩ := hstay fun b hb hnb => hn ⟨b, hb, hnb⟩
    rw [hget, hout]
    rfl

/-- An observe adds the delivery at the end of the pending ones of its key. -/
theorem waiting_observe (codec : BatchKeyCodec) (s : RoutineDeliveryBatcher) (item : QueuedRoutineDelivery) (now : ℕ)
    (key : String) : waiting key (s.observe codec item now) =
      waiting key s ++ if routineBatchKey item = key then [item] else [] := by
  have hget : (s.observe codec item now).pending.get key =
      if key = routineBatchKey item then some (joined routineBatching s item now)
      else s.pending.get key := observe_get s item now key
  unfold waiting
  rw [hget]
  by_cases hk : routineBatchKey item = key
  · rw [if_pos hk.symm, if_pos hk, joined, show routineBatching.key item = key from hk]
    cases s.pending.get key <;> rfl
  · rw [if_neg (Ne.symm hk), if_neg hk, append_nil]

/-- A returned delivery is in one of the batches of its key. -/
theorem mem_returned {batches : List (String × FlushedRoutineDeliveryBatch)}
    {batch : FlushedRoutineDeliveryBatch} (hb : (key, batch) ∈ batches) (hd : delivery ∈ batch.items) :
    delivery ∈ returned key batches :=
  mem_flatMap.mpr ⟨(key, batch), mem_filter.mpr ⟨hb, by simp⟩, hd⟩

/-- What was returned for a key, with what is pending for it, is what was observed for it. -/
theorem returned_append_waiting (hc : codec.RoundTrips)
    (hf : (Batcher.machine routineBatching codec).Along Forward (new window t) is) (key : String) :
    returned key ((machine codec).outputs (new window t) is).flatten ++
      waiting key ((machine codec).run (new window t) is) = observed key is := by
  induction is using reverseRecOn with
  | nil => rfl
  | append_singleton is i ih =>
    obtain ⟨hf', -⟩ := (along_concat _ _ _ _ _).mp hf
    have hobs : observed key (is ++ [i]) = observed key is ++ observed key [i] := filterMap_append
    rw [outputs_concat, run_concat, flatten_append, returned_append, hobs, ← ih hf', append_assoc, append_assoc]
    congr 1
    cases i with
    | observe item now =>
      have hsingle : observed key [.observe item now] = if routineBatchKey item = key then [item] else [] := by
        by_cases hk : routineBatchKey item = key <;> simp [observed, hk]
      rw [hsingle, ← waiting_observe]
      rfl
    | flushDue now =>
      have hv : ((machine codec).run (new window t) is).Valid routineBatching codec := by
        rw [machine_run]
        exact valid_run hc hf'
      have hmove := flushDue_moves hv now key
      rw [show observed key [.flushDue now] = [] from rfl, append_nil, ← hmove]
      simp [machine]

/-- A call after which a key is pending adds its delivery of the key, if it has one. -/
theorem waiting_step {i : Input QueuedRoutineDelivery} (h : (((machine codec).step s i).1.pending.get key).isSome) :
    waiting key ((machine codec).step s i).1 = waiting key s ++ observed key [i] := by
  cases i with
  | observe item now =>
    refine (waiting_observe codec s item now key).trans ?_
    by_cases hk : routineBatchKey item = key <;> simp [observed, hk]
  | flushDue now =>
    -- The flush left the batch alone.
    obtain ⟨b, hb⟩ := isSome_iff_exists.mp h
    have hb' : s.pending.get key = some b := flushDue_get_some hb
    simp only [waiting, hb, hb', observed, filterMap_cons_none, filterMap_nil, append_nil]

/-- While a key stays pending, its batch collects the deliveries of the key. -/
theorem waiting_of_stays (h : Stays routineBatching codec key s is) :
    waiting key ((machine codec).run s is) = waiting key s ++ observed key is := by
  induction is generalizing s with
  | nil => exact (append_nil _).symm
  | cons i is ih =>
    obtain ⟨-, htail⟩ := h
    rw [← machine_step_fst] at htail
    have hobs : observed key (i :: is) = observed key [i] ++ observed key is := filterMap_append (l := [i])
    rw [run_cons, ih htail, waiting_step htail.head, hobs, append_assoc]

theorem routineBatchKey_of_mem_observed (h : delivery ∈ observed key is) : routineBatchKey delivery = key := by
  obtain ⟨i, -, hi⟩ := mem_filterMap.mp h
  cases i with
  | observe item now =>
    simp only at hi
    split_ifs at hi with hk
    rwa [← some.inj hi]
  | flushDue now => simp at hi

/-! ## When a batch leaves -/

/-- After the calls, `items` are pending for `key`, in a batch that opened at `opened`: no batch of the
key was pending then, one has been since, and it holds the deliveries of the key from then on. -/
def PendingSince (codec : BatchKeyCodec) (window t : ℕ) (is : List (Input QueuedRoutineDelivery))
    (key : String) (opened : ℕ) (items : List QueuedRoutineDelivery) : Prop :=
  ∃ pre item mid, is = pre ++ .observe item opened :: mid ∧ routineBatchKey item = key ∧
    ((Batcher.machine routineBatching codec).run (new window t) pre).pending.get key = none ∧
    Stays routineBatching codec key
      ((Batcher.machine routineBatching codec).run (new window t) (pre ++ [.observe item opened])) mid ∧
    items = observed key (.observe item opened :: mid)

section Runs

variable {window t : ℕ} {is : List (Input QueuedRoutineDelivery)} {key : String} {opened : ℕ}
  {items : List QueuedRoutineDelivery}

theorem PendingSince.generation (h : PendingSince codec window t is key opened items) :
    Generation routineBatching codec window t key opened is := by
  obtain ⟨pre, item, mid, his, hk, hnone, hstays, -⟩ := h
  exact ⟨pre, item, mid, his, hk, hnone, hstays⟩

/-- A pending batch opened at some time and holds what was observed since. -/
theorem exists_pendingSince (hg : Generation routineBatching codec window t key opened is) :
    ∃ items, PendingSince codec window t is key opened items := by
  obtain ⟨pre, item, mid, his, hk, hnone, hstays⟩ := hg
  exact ⟨_, pre, item, mid, his, hk, hnone, hstays, rfl⟩

/-- The items since the opening of a batch are those that are pending for its key. -/
theorem PendingSince.waiting (h : PendingSince codec window t is key opened items) :
    waiting key ((Batcher.machine routineBatching codec).run (new window t) is) = items := by
  obtain ⟨pre, item, mid, rfl, rfl, hnone, hstays, rfl⟩ := h
  rw [← machine_run] at hnone hstays ⊢
  have hopen : waiting (routineBatchKey item)
      ((machine codec).run (new window t) (pre ++ [.observe item opened])) = [item] := by
    have hwait := waiting_observe codec ((machine codec).run (new window t) pre) item opened (routineBatchKey item)
    rw [if_pos rfl, waiting.eq_1 _ ((machine codec).run _ pre), hnone] at hwait
    rw [run_concat]
    exact hwait
  have hobs : observed (routineBatchKey item) (.observe item opened :: mid) =
      [item] ++ observed (routineBatchKey item) mid := by
    simp [observed]
  rw [append_cons, run_append, waiting_of_stays hstays, hopen, hobs]

/-- What a flush returns for a pending batch: the batch, once, if the window has passed since its
opening, and nothing otherwise. -/
theorem PendingSince.flushDue (hc : codec.RoundTrips)
    (hf : (Batcher.machine routineBatching codec).Along Forward (new window t) is)
    (h : PendingSince codec window t is key opened items) (now : ℕ) :
    (RoutineDeliveryBatcher.flushDue codec ((machine codec).run (new window t) is) now).2.filter
      (fun p => p.1 = key) = if opened + window ≤ now then [(key, ⟨items⟩)] else [] := by
  obtain ⟨b, hb, -, hout⟩ := h.generation.flushDue hc hf ((settled_run hc hf).not_staleDue hc now)
  have hitems := h.waiting
  rw [RoutineDeliveryBatcher.waiting, hb, map_some, getD_some] at hitems
  rw [machine_run, RoutineDeliveryBatcher.flushDue, List.filter_map]
  refine (congrArg (map _) hout).trans ?_
  split_ifs
  · rw [← hitems]
    rfl
  · rfl

end Runs

/-- Whatever the calls, in which every observe reads the time of the last flush: what was returned for
a batch key, batch after batch, and then what is pending for it, is what was observed for it, in order;
a returned batch holds deliveries of one key; and the next flush returns exactly the batches that
opened a window or more ago, with all that was observed for their key since. So a batch leaves in the
first flush at or past the time of its first delivery plus the window. -/
theorem deliveries_leave_in_order_and_on_time (codec : BatchKeyCodec) (hc : codec.RoundTrips)
    (window t : ℕ) (is : List (Input QueuedRoutineDelivery)) (hflushed : FlushedFirst none is) :
    (∀ key, returned key ((machine codec).outputs (new window t) is).flatten ++
      waiting key ((machine codec).run (new window t) is) = observed key is) ∧
    (∀ key batch, (key, batch) ∈ ((machine codec).outputs (new window t) is).flatten →
      ∀ delivery ∈ batch.items, routineBatchKey delivery = key) ∧
    ∀ now key batch, (key, batch) ∈ (((machine codec).run (new window t) is).flushDue codec now).2 ↔
        ∃ opened, PendingSince codec window t is key opened batch.items ∧ opened + window ≤ now := by
  have hf := along_forward_of_flushedFirst routineBatching codec (s := new window t) (by simp)
    hflushed
  refine ⟨returned_append_waiting hc hf, ?_, ?_⟩
  · intro key batch hb delivery hd
    have hobs : delivery ∈ observed key is := by
      rw [← returned_append_waiting hc hf key]
      exact mem_append_left _ (mem_returned hb hd)
    exact routineBatchKey_of_mem_observed hobs
  · intro now key batch
    have hfilter : (key, batch) ∈ (((machine codec).run (new window t) is).flushDue codec now).2 ↔
        (key, batch) ∈ (((machine codec).run (new window t) is).flushDue codec now).2.filter
          fun p => p.1 = key := by simp
    constructor
    · intro hin
      obtain ⟨⟨key', b⟩, hsent, heq⟩ := List.mem_map.mp hin
      obtain ⟨rfl, -⟩ := Prod.mk.inj heq
      rw [machine_run] at hsent
      obtain ⟨opened, hg⟩ := exists_generation (get_of_mem_flushDue hsent)
      obtain ⟨items, hsince⟩ := exists_pendingSince hg
      rw [hfilter, hsince.flushDue hc hf now] at hin
      split_ifs at hin with hdue
      · obtain rfl : batch = ⟨items⟩ := (Prod.mk.inj (mem_singleton.mp hin)).2
        exact ⟨opened, hsince, hdue⟩
      · simp at hin
    · rintro ⟨opened, hsince, hdue⟩
      rw [hfilter, hsince.flushDue hc hf now, if_pos hdue]
      exact mem_singleton.mpr rfl

/-- A commit notice for a channel. -/
def commitNotice : QueuedRoutineDelivery where
  event := ⟨"git.commit", none, none, none, none, .object []⟩
  delivery := ⟨"discord", .discordChannel "ops", .compact, none, none, false,
    ⟨.matched, some 0, some "git.*", [], "ops"⟩⟩

/-- A single delivery leaves five seconds after it was observed, when that is the window. -/
theorem single_delivery_leaves_after_five_seconds : (routineBatchKey commitNotice, ⟨[commitNotice]⟩) ∈
      (((machine compactJson).run (new 5000 0) [.flushDue 0, .observe commitNotice 0]).flushDue
        compactJson 5000).2 := by
  refine ((deliveries_leave_in_order_and_on_time compactJson compactJson_roundTrips 5000 0
    [.flushDue 0, .observe commitNotice 0] ⟨rfl, trivial⟩).2.2 5000 _ _).mpr ⟨0, ?_, by decide⟩
  refine ⟨[.flushDue 0], commitNotice, [], rfl, rfl, flushDue_get_none rfl 0, ?_, by simp [observed]⟩
  rw [Stays, singleton_append, run_cons, run_cons, run_nil, step_observe,
    observe_get, if_pos (show routineBatchKey commitNotice = routineBatching.key commitNotice from rfl)]
  rfl

end RoutineDeliveryBatcher

end Clawhip.Dispatch
