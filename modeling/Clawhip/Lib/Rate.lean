import Mathlib.Algebra.Order.Field.Basic
import Mathlib.Data.List.Chain
import Mathlib.Tactic.Linarith
import Mathlib.Tactic.Ring

/-!
# Spending from a balance that grows at a rate

Payments of one each, out of a balance that grows at a rate while time passes. A stretch of time sees
no more of them than the balance can pay for.
-/

namespace Clawhip

open List

variable {α : Type*} [Field α] [LinearOrder α] [IsStrictOrderedRing α]

/-- A payment: its time, and the balance that it leaves. -/
structure Payment (α : Type*) where
  time : α
  balance : α

/-- A payment is made after another one, out of what is left of the balance and has come in since. -/
def Payment.Follows (rate : α) (before after : Payment α) : Prop :=
  before.time ≤ after.time ∧ after.balance + 1 ≤ before.balance + rate * (after.time - before.time)

variable {rate : α}

/-- A payment that is left out leaves more for the later ones. -/
theorem Payment.Follows.trans {a b c : Payment α} (hab : a.Follows rate b)
    (hbc : b.Follows rate c) : a.Follows rate c := by
  obtain ⟨htime, hpaid⟩ := hab
  obtain ⟨htime', hpaid'⟩ := hbc
  refine ⟨htime.trans htime', ?_⟩
  linarith

variable {payments : List (Payment α)}

/-- Later payments leave the less, the more of them there are. -/
theorem exists_balance_le {first : Payment α}
    (h : (first :: payments).IsChain (Payment.Follows rate)) : ∃ last ∈ first :: payments,
      last.balance + payments.length ≤ first.balance + rate * (last.time - first.time) := by
  induction payments generalizing first with
  | nil => exact ⟨first, mem_cons_self, by simp⟩
  | cons next payments ih =>
    obtain ⟨hnext, hrest⟩ := isChain_cons_cons.mp h
    obtain ⟨last, hlast, hle⟩ := ih hrest
    refine ⟨last, mem_cons_of_mem _ hlast, ?_⟩
    have hpaid := hnext.2
    rw [length_cons, Nat.cast_succ]
    linarith

/-- A stretch of time sees as many payments as the greatest balance pays for, with what comes in
meanwhile, and one more. -/
theorem length_filter_payments_le {rate capacity : α} (hrate : 0 ≤ rate) (h : payments.IsChain (Payment.Follows rate))
    (hbalance : ∀ payment ∈ payments, 0 ≤ payment.balance ∧ payment.balance ≤ capacity)
    {start length : α} (hcapacity : 0 ≤ capacity) (hlength : 0 ≤ length) : ((payments.filter fun payment =>
        decide (start ≤ payment.time ∧ payment.time ≤ start + length)).length : α) ≤ capacity + rate * length + 1 := by
  set seen := payments.filter fun payment => decide (start ≤ payment.time ∧ payment.time ≤ start + length) with hseen
  have hwithin : ∀ payment ∈ seen, start ≤ payment.time ∧ payment.time ≤ start + length := by
    intro payment hpayment
    exact of_decide_eq_true (mem_filter.mp hpayment).2
  have : IsTrans (Payment α) (Payment.Follows rate) := ⟨fun _ _ _ => Payment.Follows.trans⟩
  have hchain : seen.IsChain (Payment.Follows rate) := (isChain_iff_pairwise.mp h).filter _ |>.isChain
  cases hcases : seen with
  | nil =>
    have hgrown := mul_nonneg hrate hlength
    rw [length_nil, Nat.cast_zero]
    linarith
  | cons first rest =>
    rw [hcases] at hchain hwithin
    obtain ⟨last, hlast, hle⟩ := exists_balance_le hchain
    have hfirst := hwithin first mem_cons_self
    have hlast' := hwithin last hlast
    have hpaid : ∀ payment ∈ first :: rest, 0 ≤ payment.balance ∧ payment.balance ≤ capacity := by
      intro payment hpayment
      rw [← hcases] at hpayment
      exact hbalance payment (mem_filter.mp hpayment).1
    have hstart := (hpaid first mem_cons_self).2
    have hend := (hpaid last hlast).1
    have hgrown : rate * (last.time - first.time) ≤ rate * length := mul_le_mul_of_nonneg_left (by linarith) hrate
    rw [length_cons, Nat.cast_succ]
    linarith

end Clawhip
