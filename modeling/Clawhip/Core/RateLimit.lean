import Clawhip.Lib.Machine
import Clawhip.Lib.OrdMap
import Clawhip.Lib.Rate
import Mathlib.Data.Rat.Cast.Order
import Mathlib.Tactic.NormNum

/-!
# Rate limits

`TokenBucket` and `RateLimiter` of `src/core/rate_limit.rs`, over rational tokens and seconds. A call
says how long its sender has to wait. Where it has to, the bucket is emptied, and what comes in while
the sender waits is there for the next call, though the send that waited was not paid.
-/

namespace Clawhip.Core

open List OrdMap Machine

/-- `f64::EPSILON`. -/
def EPSILON : ℚ := 1 / 2 ^ 52

structure TokenBucket where
  capacity : ℕ
  tokens : ℚ
  refill_rate : ℚ
  last_refill : ℚ

namespace TokenBucket

def new (capacity : ℕ) (refill_per_sec now : ℚ) : TokenBucket := ⟨capacity, capacity, refill_per_sec, now⟩

def refill (bucket : TokenBucket) (now : ℚ) : TokenBucket :=
  let elapsed := max 0 (now - bucket.last_refill)
  { bucket with
    tokens := min (elapsed * bucket.refill_rate + bucket.tokens) bucket.capacity
    last_refill := now }

def consumeOrDelay (bucket : TokenBucket) (count : ℕ) (now : ℚ) : TokenBucket × ℚ :=
  let bucket := bucket.refill now
  if count ≤ bucket.tokens then ({ bucket with tokens := bucket.tokens - count }, 0)
  else if bucket.refill_rate ≤ EPSILON then (bucket, 1)
  else ({ bucket with tokens := 0 }, (count - bucket.tokens) / bucket.refill_rate)

end TokenBucket

structure RateLimiter where
  buckets : OrdMap String TokenBucket
  capacity : ℕ
  refill_per_sec : ℚ

namespace RateLimiter

def new (capacity : ℕ) (refill_per_sec : ℚ) : RateLimiter := ⟨[], capacity, refill_per_sec⟩

/-- The bucket of a key; a key that was not called before gets a new one. -/
def bucketOf (limiter : RateLimiter) (key : String) (now : ℚ) : TokenBucket :=
  (limiter.buckets.get key).getD (.new limiter.capacity limiter.refill_per_sec now)

def delayFor (limiter : RateLimiter) (key : String) (now : ℚ) : RateLimiter × ℚ :=
  let consumed := (limiter.bucketOf key now).consumeOrDelay 1 now
  ({ limiter with buckets := limiter.buckets.insert key consumed.1 }, consumed.2)

end RateLimiter

/-! ## Calls -/

/-- A call of a key, and how long its sender has to wait. -/
structure Wait where
  key : String
  called : ℚ
  delay : ℚ

/-- When the sender sends. -/
def Wait.sent (wait : Wait) : ℚ := wait.called + wait.delay

/-- Calls of a limiter, each of a key at a time. -/
def limiterMachine : Machine RateLimiter (String × ℚ) Wait where
  step limiter call :=
    let delayed := limiter.delayFor call.1 call.2
    (delayed.1, ⟨call.1, call.2, delayed.2⟩)

def waitsOf (limiter : RateLimiter) (calls : List (String × ℚ)) (key : String) : List Wait :=
  (limiterMachine.outputs limiter calls).filter fun wait => decide (wait.key = key)

/-- The sender of a key waits before it sends, and calls again only then. -/
def SendsInTurn (waits : List Wait) : Prop := waits.IsChain fun wait next => wait.sent ≤ next.called

instance (waits : List Wait) : Decidable (SendsInTurn waits) :=
  inferInstanceAs (Decidable (waits.IsChain fun wait next => wait.sent ≤ next.called))

/-- A call after a delayed one of its key comes late enough for the bucket to fill since its send. -/
def ComesLate (capacity : ℕ) (refill_per_sec : ℚ) (wait next : Wait) : Prop :=
  0 < wait.delay → capacity ≤ refill_per_sec * (next.called - wait.sent)

instance (capacity : ℕ) (refill_per_sec : ℚ) (wait next : Wait) :
    Decidable (ComesLate capacity refill_per_sec wait next) :=
  inferInstanceAs (Decidable (0 < wait.delay → capacity ≤ refill_per_sec * (next.called - wait.sent)))

/-- Delayed calls of a key are of a limiter that refills, and its bucket fills after each. -/
structure Recovers (capacity : ℕ) (refill_per_sec : ℚ) (waits : List Wait) : Prop where
  refills : ∀ wait ∈ waits, 0 < wait.delay → EPSILON < refill_per_sec
  late : waits.IsChain (ComesLate capacity refill_per_sec)

/-! ## One bucket -/

namespace TokenBucket

/-- A bucket of a limiter. -/
structure Fits (capacity : ℕ) (refill_per_sec : ℚ) (bucket : TokenBucket) : Prop where
  size : bucket.capacity = capacity
  rate : bucket.refill_rate = refill_per_sec
  nonneg : 0 ≤ bucket.tokens
  le : bucket.tokens ≤ capacity

variable {capacity : ℕ} {refill_per_sec : ℚ} {bucket : TokenBucket}

theorem fits_new (capacity : ℕ) (refill_per_sec now : ℚ) :
    (new capacity refill_per_sec now).Fits capacity refill_per_sec :=
  ⟨rfl, rfl, Nat.cast_nonneg _, le_refl _⟩

theorem Fits.refill (h : bucket.Fits capacity refill_per_sec) (hrate : 0 ≤ refill_per_sec) (now : ℚ) :
    (bucket.refill now).Fits capacity refill_per_sec := by
  have hgrown : 0 ≤ max 0 (now - bucket.last_refill) * bucket.refill_rate := by
    rw [h.rate]
    exact mul_nonneg (le_max_left _ _) hrate
  have hsum : 0 ≤ max 0 (now - bucket.last_refill) * bucket.refill_rate + bucket.tokens := add_nonneg hgrown h.nonneg
  refine ⟨h.size, h.rate, ?_, ?_⟩
  · exact le_min hsum (Nat.cast_nonneg _)
  · rw [← h.size]
    exact min_le_right _ _

/-- What a call may come to: it is paid, it is delayed and leaves the bucket empty, or it is delayed
by a second where nothing comes in. -/
structure Consumed (bucket : TokenBucket) (refill_per_sec now : ℚ) (after : TokenBucket) (delay : ℚ) :
    Prop where
  last_refill : after.last_refill = now
  cases : (1 ≤ (bucket.refill now).tokens ∧ delay = 0 ∧ after.tokens = (bucket.refill now).tokens - 1) ∨
    ((bucket.refill now).tokens < 1 ∧ EPSILON < refill_per_sec ∧
      delay = (1 - (bucket.refill now).tokens) / refill_per_sec ∧ after.tokens = 0) ∨
    (refill_per_sec ≤ EPSILON ∧ delay = 1)

theorem consumed (h : bucket.Fits capacity refill_per_sec) (hrate : 0 ≤ refill_per_sec) (now : ℚ) :
    (bucket.consumeOrDelay 1 now).1.Fits capacity refill_per_sec ∧
      Consumed bucket refill_per_sec now (bucket.consumeOrDelay 1 now).1 (bucket.consumeOrDelay 1 now).2 := by
  have hfits := h.refill hrate now
  unfold consumeOrDelay
  simp only [Nat.cast_one]
  by_cases henough : 1 ≤ (bucket.refill now).tokens
  · rw [if_pos henough]
    have hle := hfits.le
    exact ⟨⟨hfits.size, hfits.rate, by simpa using henough, by simp only; linarith⟩, rfl, .inl ⟨henough, rfl, rfl⟩⟩
  · rw [if_neg henough]
    by_cases hslow : (bucket.refill now).refill_rate ≤ EPSILON
    · rw [if_pos hslow]
      rw [hfits.rate] at hslow
      exact ⟨hfits, rfl, .inr (.inr ⟨hslow, rfl⟩)⟩
    · rw [if_neg hslow]
      rw [hfits.rate] at hslow
      refine ⟨⟨hfits.size, hfits.rate, le_refl _, Nat.cast_nonneg _⟩, rfl,
        .inr (.inl ⟨not_le.mp henough, not_le.mp hslow, ?_, rfl⟩)⟩
      rw [← hfits.rate]

/-- No call is delayed by more than a token takes to come in. -/
theorem delay_le (h : bucket.Fits capacity refill_per_sec) (hrate : EPSILON < refill_per_sec)
    (now : ℚ) : (bucket.consumeOrDelay 1 now).2 ≤ 1 / refill_per_sec := by
  have hepsilon : (0 : ℚ) < EPSILON := by norm_num [EPSILON]
  have hpos : 0 < refill_per_sec := hepsilon.trans hrate
  have hnonneg := (h.refill hpos.le now).nonneg
  rcases (consumed h hpos.le now).2.cases with ⟨-, hdelay, -⟩ | ⟨-, -, hdelay, -⟩ | ⟨hslow, -⟩
  · rw [hdelay]
    positivity
  · rw [hdelay]
    gcongr
    linarith
  · exact absurd hrate (not_lt.mpr hslow)

/-- The waits of calls of one bucket. -/
def waits (key : String) : TokenBucket → List ℚ → List Wait
  | _, [] => []
  | bucket, now :: nows =>
    let consumed := bucket.consumeOrDelay 1 now
    ⟨key, now, consumed.2⟩ :: waits key consumed.1 nows

/-- The sends of these calls as payments. -/
def payments : TokenBucket → List ℚ → List (Payment ℚ)
  | _, [] => []
  | bucket, now :: nows =>
    let consumed := bucket.consumeOrDelay 1 now
    ⟨now + consumed.2, consumed.1.tokens⟩ :: payments consumed.1 nows

theorem payments_time (key : String) (bucket : TokenBucket) (nows : List ℚ) :
    (bucket.payments nows).map Payment.time = (bucket.waits key nows).map Wait.sent := by
  induction nows generalizing bucket with
  | nil => rfl
  | cons now nows ih =>
    rw [payments, waits, map_cons, map_cons, ih]
    rfl

theorem payments_bounded (h : bucket.Fits capacity refill_per_sec) (hrate : 0 ≤ refill_per_sec)
    (nows : List ℚ) : ∀ payment ∈ bucket.payments nows, 0 ≤ payment.balance ∧ payment.balance ≤ capacity := by
  induction nows generalizing bucket with
  | nil => exact fun _ hmem => absurd hmem not_mem_nil
  | cons now nows ih =>
    obtain ⟨hfits, -⟩ := consumed h hrate now
    intro payment hmem
    rcases mem_cons.mp hmem with rfl | hmem
    · exact ⟨hfits.nonneg, hfits.le⟩
    · exact ih hfits payment hmem

variable {before : TokenBucket}

/-- A call after another one: what it is paid with has come in since the send of the other one. -/
theorem tokens_le_of_late {wait : Wait} {now : ℚ} (hrate : 0 ≤ refill_per_sec)
    (hconsumed : Consumed before refill_per_sec wait.called bucket wait.delay)
    (h : bucket.Fits capacity refill_per_sec) (hturn : wait.sent ≤ now)
    (hlate : 0 < wait.delay → capacity ≤ refill_per_sec * (now - wait.sent)) :
    (bucket.refill now).tokens ≤ bucket.tokens + refill_per_sec * (now - wait.sent) := by
  have hfits := h.refill hrate now
  by_cases hdelayed : 0 < wait.delay
  · -- the bucket would be full, had it been charged
    have hfull : (capacity : ℚ) ≤ refill_per_sec * (now - wait.sent) := hlate hdelayed
    have hle := hfits.le
    have hnonneg := h.nonneg
    linarith
  · have hsent : wait.sent = wait.called := by
      unfold Wait.sent
      rcases hconsumed.cases with ⟨-, hdelay, -⟩ | ⟨hshort, hfast, hdelay, -⟩ | ⟨-, hdelay⟩
      · rw [hdelay, add_zero]
      · have hepsilon : (0 : ℚ) < EPSILON := by norm_num [EPSILON]
        have hpositive : 0 < wait.delay := by
          rw [hdelay]
          exact div_pos (by linarith) (hepsilon.trans hfast)
        exact absurd hpositive hdelayed
      · exact absurd (by rw [hdelay]; exact one_pos) hdelayed
    have helapsed : max 0 (now - bucket.last_refill) = now - wait.sent := by
      rw [hconsumed.last_refill, hsent]
      exact max_eq_right (by linarith)
    have hle : (bucket.refill now).tokens ≤
        max 0 (now - bucket.last_refill) * bucket.refill_rate + bucket.tokens := min_le_left _ _
    rw [helapsed, h.rate] at hle
    linarith

/-- A call that follows one in turn, late enough where that was delayed, is paid. -/
theorem follows_of_late {wait next : Wait} {after : TokenBucket}
    (hrate : 0 ≤ refill_per_sec) (hconsumed : Consumed before refill_per_sec wait.called bucket wait.delay)
    (h : bucket.Fits capacity refill_per_sec) (hturn : wait.sent ≤ next.called)
    (hlate : ComesLate capacity refill_per_sec wait next)
    (hnext : Consumed bucket refill_per_sec next.called after next.delay)
    (hrefills : 0 < next.delay → EPSILON < refill_per_sec) :
    Payment.Follows refill_per_sec ⟨wait.sent, bucket.tokens⟩ ⟨next.sent, after.tokens⟩ := by
  have hpaid := tokens_le_of_late hrate hconsumed h hturn hlate
  rcases hnext.cases with ⟨-, hdelay, htokens⟩ | ⟨hshort, hfast, hdelay, htokens⟩ | ⟨hslow, hdelay⟩
  · refine ⟨?_, ?_⟩
    · simpa only [Wait.sent, hdelay, add_zero] using hturn
    · simp only [htokens, Wait.sent, hdelay, add_zero] at hpaid ⊢
      linarith
  · have hepsilon : (0 : ℚ) < EPSILON := by norm_num [EPSILON]
    have hpos : 0 < refill_per_sec := hepsilon.trans hfast
    have hwait : 0 < next.delay := by
      rw [hdelay]
      exact div_pos (by linarith) hpos
    -- what comes in during the delay is what was missing
    have hmissing : refill_per_sec * next.delay = 1 - (bucket.refill next.called).tokens := by
      rw [hdelay, mul_div_cancel₀ _ hpos.ne']
    refine ⟨?_, ?_⟩
    · show wait.sent ≤ next.called + next.delay
      linarith
    · show after.tokens + 1 ≤ bucket.tokens + refill_per_sec * (next.called + next.delay - wait.sent)
      have hsplit : refill_per_sec * (next.called + next.delay - wait.sent) =
          refill_per_sec * (next.called - wait.sent) + refill_per_sec * next.delay := by ring
      rw [htokens, hsplit, hmissing]
      linarith
  · have hwait : 0 < next.delay := by
      rw [hdelay]
      exact one_pos
    exact absurd (hrefills hwait) (not_lt.mpr hslow)

variable {nows : List ℚ} {key : String}

/-- Calls in turn that recover are paid one after the other. -/
theorem isChain_payments (h : bucket.Fits capacity refill_per_sec)
    (hrate : 0 ≤ refill_per_sec) (hturn : SendsInTurn (bucket.waits key nows))
    (hrecovers : Recovers capacity refill_per_sec (bucket.waits key nows)) :
    (bucket.payments nows).IsChain (Payment.Follows refill_per_sec) := by
  induction nows generalizing bucket with
  | nil => exact .nil
  | cons now nows ih =>
    obtain ⟨hfits, hconsumed⟩ := consumed h hrate now
    cases nows with
    | nil => exact .singleton _
    | cons now' nows =>
      obtain ⟨-, hconsumed'⟩ := consumed hfits hrate now'
      obtain ⟨hnext, hturn⟩ := isChain_cons_cons.mp hturn
      obtain ⟨hlate, hrest⟩ := isChain_cons_cons.mp hrecovers.late
      have hrefills : ∀ wait ∈ (bucket.consumeOrDelay 1 now).1.waits key (now' :: nows),
          0 < wait.delay → EPSILON < refill_per_sec := fun wait hwait =>
        hrecovers.refills wait (mem_cons_of_mem _ hwait)
      refine isChain_cons_cons.mpr ⟨?_, ih hfits hturn ⟨hrefills, hrest⟩⟩
      let wait : Wait := ⟨key, now, (bucket.consumeOrDelay 1 now).2⟩
      let next : Wait := ⟨key, now', ((bucket.consumeOrDelay 1 now).1.consumeOrDelay 1 now').2⟩
      have hwait : Consumed bucket refill_per_sec wait.called (bucket.consumeOrDelay 1 now).1 wait.delay := hconsumed
      have hwait' : Consumed (bucket.consumeOrDelay 1 now).1 refill_per_sec next.called
        ((bucket.consumeOrDelay 1 now).1.consumeOrDelay 1 now').1 next.delay := hconsumed'
      exact follows_of_late hrate hwait hfits hnext hlate hwait' (hrefills next mem_cons_self)

/-- The delays of calls of a bucket. -/
theorem delay_le_of_mem (h : bucket.Fits capacity refill_per_sec)
    (hrate : EPSILON < refill_per_sec) : ∀ wait ∈ bucket.waits key nows, wait.delay ≤ 1 / refill_per_sec := by
  have hepsilon : (0 : ℚ) < EPSILON := by norm_num [EPSILON]
  induction nows generalizing bucket with
  | nil => exact fun _ hmem => absurd hmem not_mem_nil
  | cons now nows ih =>
    intro wait hmem
    rcases mem_cons.mp hmem with rfl | hmem
    · exact delay_le h hrate now
    · exact ih (consumed h (hepsilon.trans hrate).le now).1 wait hmem

end TokenBucket

/-! ## The limiter -/

/-- The times of the calls of a key. -/
def callsOf (calls : List (String × ℚ)) (key : String) : List ℚ :=
  (calls.filter fun call => decide (call.1 = key)).map Prod.snd

variable {limiter : RateLimiter} {key : String}

/-- The waits of a key are those of its bucket at its first call. -/
theorem waitsOf_eq {bucket : TokenBucket} {calls : List (String × ℚ)}
    (h : ∀ now ∈ (callsOf calls key).head?, limiter.bucketOf key now = bucket) :
    waitsOf limiter calls key = bucket.waits key (callsOf calls key) := by
  induction calls generalizing limiter bucket with
  | nil => rfl
  | cons call calls ih =>
    obtain ⟨other, now⟩ := call
    unfold callsOf at h
    unfold waitsOf callsOf at ih ⊢
    rw [outputs_cons]
    by_cases hkey : other = key
    · subst hkey
      have hbucket : limiter.bucketOf other now = bucket := h now (by simp)
      have hafter (later : ℚ) : (limiter.delayFor other now).1.bucketOf other later =
          (bucket.consumeOrDelay 1 now).1 := by
        rw [RateLimiter.delayFor, hbucket, RateLimiter.bucketOf, get_insert_self]
        rfl
      rw [filter_cons_of_pos (by simp [limiterMachine]),
        filter_cons_of_pos (by simp), map_cons, TokenBucket.waits, ← ih fun later _ => hafter later]
      simp only [limiterMachine, RateLimiter.delayFor, hbucket]
    · rw [filter_cons_of_neg (by simpa using hkey)] at h
      rw [filter_cons_of_neg (by simp [limiterMachine, hkey]), filter_cons_of_neg (by simpa using hkey)]
      refine ih fun later hlater => (congrArg (Option.getD · _) ?_).trans (h later hlater)
      exact get_insert_ne _ _ (Ne.symm hkey)

theorem exists_new_bucket
    (h : limiter.buckets.get key = none) (calls : List (String × ℚ)) : ∃ now, waitsOf limiter calls key =
      (TokenBucket.new limiter.capacity limiter.refill_per_sec now).waits key (callsOf calls key) := by
  refine ⟨(callsOf calls key).head?.getD 0, waitsOf_eq fun now hnow => ?_⟩
  rw [RateLimiter.bucketOf, h, Option.mem_def.mp hnow]
  rfl

/-- The sends of a key in a stretch of time. -/
def sendsWithin (waits : List Wait) (start length : ℚ) : ℕ :=
  (waits.filter fun wait => decide (start ≤ wait.sent ∧ wait.sent ≤ start + length)).length

/-- The sends of a key keep to the rate of its limiter, whoever waits for its delays and calls again
only after its send, as long as the bucket fills after a delayed send before the next call; and no
delay is longer than a token takes to come in. -/
theorem sends_keep_rate (capacity : ℕ) {refill_per_sec : ℚ} (hrate : 0 ≤ refill_per_sec)
    (calls : List (String × ℚ)) (key : String)
    (hturn : SendsInTurn (waitsOf (.new capacity refill_per_sec) calls key))
    (hrecovers : Recovers capacity refill_per_sec (waitsOf (.new capacity refill_per_sec) calls key)) :
    (∀ start length, 0 ≤ length →
      (sendsWithin (waitsOf (.new capacity refill_per_sec) calls key) start length : ℚ) ≤
        capacity + refill_per_sec * length + 1) ∧
    ∀ wait ∈ waitsOf (.new capacity refill_per_sec) calls key, wait.delay ≤ 1 / refill_per_sec := by
  have hnone : (RateLimiter.new capacity refill_per_sec).buckets.get key = none := rfl
  obtain ⟨now, hwaits⟩ := exists_new_bucket hnone calls
  rw [hwaits] at hturn hrecovers ⊢
  let bucket := TokenBucket.new capacity refill_per_sec now
  let nows := callsOf calls key
  have hfits : bucket.Fits capacity refill_per_sec := TokenBucket.fits_new _ _ _
  have hpaid := bucket.isChain_payments hfits hrate hturn hrecovers
  have hbounded := bucket.payments_bounded hfits hrate nows
  refine ⟨fun start length hlength => ?_, fun wait hwait => ?_⟩
  · -- the sends are the times of the payments
    have hcount : sendsWithin (bucket.waits key nows) start length =
        ((bucket.payments nows).filter fun payment =>
          decide (start ≤ payment.time ∧ payment.time ≤ start + length)).length := by
      have hmap := congrArg (fun times : List ℚ => (times.filter fun time =>
        decide (start ≤ time ∧ time ≤ start + length)).length) (bucket.payments_time key nows)
      simp only [List.filter_map, length_map] at hmap
      exact hmap.symm
    show (sendsWithin (bucket.waits key nows) start length : ℚ) ≤ _
    rw [hcount]
    exact length_filter_payments_le hrate hpaid hbounded (Nat.cast_nonneg _) hlength
  · by_cases hfast : EPSILON < refill_per_sec
    · exact bucket.delay_le_of_mem hfits hfast wait hwait
    · have hdelay : ¬ 0 < wait.delay := fun hpos => hfast (hrecovers.refills wait hwait hpos)
      exact (not_lt.mp hdelay).trans (by positivity)

namespace Sample

/-- Six calls at once, and one when the bucket is full again. -/
def lateCalls : List (String × ℚ) :=
  [("channel", 0), ("channel", 0), ("channel", 0), ("channel", 0), ("channel", 0), ("channel", 0),
    ("channel", 6 / 5)]

theorem late_calls_keep_rate :
    (sendsWithin (waitsOf (.new 5 5) lateCalls "channel") 0 (1 / 5) : ℚ) ≤ (5 : ℕ) + 5 * (1 / 5) + 1 := by
  have hturn : SendsInTurn (waitsOf (.new 5 5) lateCalls "channel") := by decide +kernel
  have hrecovers : Recovers 5 5 (waitsOf (.new 5 5) lateCalls "channel") :=
    ⟨by decide +kernel, by decide +kernel⟩
  exact (sends_keep_rate 5 (by norm_num) lateCalls "channel" hturn hrecovers).1 0 (1 / 5) (by norm_num)

/-- Six calls at once, and then one after the other's send. -/
def calls : List (String × ℚ) :=
  [("channel", 0), ("channel", 0), ("channel", 0), ("channel", 0), ("channel", 0), ("channel", 0),
    ("channel", 1 / 5), ("channel", 1 / 5), ("channel", 2 / 5), ("channel", 2 / 5), ("channel", 3 / 5)]

/-- With five tokens and five a second, nine sends fall into two fifths of a second. -/
theorem delayed_sends_are_not_paid : SendsInTurn (waitsOf (.new 5 5) calls "channel") ∧
    ¬ (sendsWithin (waitsOf (.new 5 5) calls "channel") 0 (2 / 5) : ℚ) ≤ 5 + 5 * (2 / 5) + 1 := by
  constructor
  · decide +kernel
  · have hcount : sendsWithin (waitsOf (.new 5 5) calls "channel") 0 (2 / 5) = 9 := by decide +kernel
    rw [hcount]
    norm_num

end Sample

end Clawhip.Core
