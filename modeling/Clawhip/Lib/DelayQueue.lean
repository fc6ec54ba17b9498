import Clawhip.Lib.Machine
import Mathlib.Algebra.Order.Group.Multiset
import Mathlib.Algebra.BigOperators.Group.List.Basic
import Mathlib.Data.Multiset.Filter

/-!
# Delay queues

The purpose of a timer, over any type of entries with a due time: a multiset of stored entries,
`schedule` adds one and a tick at `now` hands over exactly the stored entries that are due by then.
`waiting` reads the same off a history of calls, with no state at all: an entry waits as long as no
later tick of the history has reached its due time. `queue_run` shows that the two agree, so a
timer that simulates `queue` hands every entry over at the first tick that reaches it, and at no
other.
-/

namespace Clawhip.DelayQueue

open Multiset

variable {α : Type*}

/-- One call on a delay queue. -/
inductive Call (α : Type*) where
  /-- Store an entry. -/
  | schedule (e : α)
  /-- Hand over what is due at `now`. -/
  | tick (now : ℕ)

variable (due : α → ℕ)

/-- The delay queue on multisets. A tick partitions the stored entries by their due times. -/
def queue : Machine (Multiset α) (Call α) (Multiset α) where
  step
    | s, .schedule e => (e ::ₘ s, 0)
    | s, .tick now => (s.filter fun e => now < due e, s.filter fun e => due e ≤ now)

/-- Some tick among the calls is at or past the due time of `e`. -/
def reached (e : α) (cs : List (Call α)) : Bool :=
  cs.any fun c => match c with
    | .schedule _ => false
    | .tick now => due e ≤ now

/-- The entries of a history that no later tick of the history reached. -/
def waiting : List (Call α) → Multiset α
  | [] => 0
  | .schedule e :: cs => if reached due e cs then waiting cs else e ::ₘ waiting cs
  | .tick _ :: cs => waiting cs

/-- Every entry of a history. -/
def scheduled : List (Call α) → Multiset α
  | [] => 0
  | .schedule e :: cs => e ::ₘ scheduled cs
  | .tick _ :: cs => scheduled cs

@[simp] theorem reached_schedule (e e' : α) (cs : List (Call α)) :
    reached due e (.schedule e' :: cs) = reached due e cs := rfl

@[simp] theorem reached_tick (e : α) (now : ℕ) (cs : List (Call α)) :
    reached due e (.tick now :: cs) = (decide (due e ≤ now) || reached due e cs) := rfl

variable (s : Multiset α) (cs : List (Call α))

/-- The queue from any contents: what no tick has reached stays, and the waiting entries of the
history join it. -/
theorem queue_run_add : (queue due).run s cs = s.filter (fun e => reached due e cs = false) + waiting due cs := by
  induction cs generalizing s with
  | nil => simp [reached, waiting]
  | cons c cs ih =>
    rw [Machine.run_cons, ih]
    cases c with
    | schedule e =>
      simp only [queue, reached_schedule, waiting]
      by_cases h : reached due e cs = true
      · rw [if_pos h, filter_cons_of_neg _ (by simp [h])]
        rfl
      · rw [if_neg h, filter_cons_of_pos _ (by simpa using h), cons_add, add_cons]
        rfl
    | tick now =>
      simp only [queue, filter_filter, waiting]
      congr 1
      apply filter_congr
      intro e _
      simp [and_comm]

/-- After a history, the queue stores the entries that still wait. -/
theorem queue_run : (queue due).run 0 cs = waiting due cs := by
  simp [queue_run_add]

/-- What the queue has handed over and what it still stores is what was scheduled. -/
theorem queue_conserves : ((queue due).outputs s cs).sum + (queue due).run s cs = s + scheduled cs := by
  induction cs generalizing s with
  | nil => simp [scheduled]
  | cons c cs ih =>
    rw [Machine.outputs_cons, Machine.run_cons, List.sum_cons, add_assoc, ih]
    cases c with
    | schedule e => simp [queue, scheduled, cons_add, add_cons]
    | tick now =>
      simp only [queue, scheduled, ← add_assoc]
      congr 1
      simp only [← not_le]
      exact filter_add_not _ s

end Clawhip.DelayQueue
