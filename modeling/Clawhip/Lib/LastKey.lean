import Clawhip.Lib.Machine
import Mathlib.Order.Lattice
import Mathlib.Data.List.TakeWhile

/-!
# Remembering the last key

Reports come in, each about a key and of a rank; a report opens its key or closes it. A tracker that is
to announce every opening once remembers the key that was reported last, with the highest rank that
it has accepted for it. What it announces is told by the reports since another key was reported
(`passes_iff`), so a key that comes back after another one is announced again. `rises_iff`
says for which reports it never is.
-/

namespace Clawhip

open List

/-- A report about a key. -/
structure KeyReport (κ ν : Type*) where
  key : κ
  rank : ν
  opens : Bool

namespace KeyReport

variable {κ ν : Type*} [DecidableEq κ]

/-- The reports about a key since another one was reported, the last one first. -/
def since (key : κ) (reports : List (KeyReport κ ν)) : List (KeyReport κ ν) :=
  reports.reverse.takeWhile fun report => decide (report.key = key)

variable (before : List (KeyReport κ ν)) (reports : List (KeyReport κ ν)) (report : KeyReport κ ν)

theorem since_concat_self : since report.key (reports ++ [report]) = report :: since report.key reports := by
  simp [since]

variable {key : κ}

theorem since_concat_ne {report : KeyReport κ ν} (h : report.key ≠ key) : since key (reports ++ [report]) = [] := by
  simp [since, h]

variable {reports : List (KeyReport κ ν)}

theorem mem_of_mem_since {report : KeyReport κ ν}
    (h : report ∈ since key reports) : report ∈ reports ∧ report.key = key := by
  refine ⟨mem_reverse.mp ((List.takeWhile_prefix _).subset h), ?_⟩
  simpa using mem_takeWhile_imp h

variable [LinearOrder ν]

/-- A tracked key and rank let a report pass: it is about another key or ranks higher. -/
def Passes (report : KeyReport κ ν) (tracked : Option (κ × ν)) : Prop :=
  ∀ last ∈ tracked, report.key = last.1 → last.2 < report.rank

/-- What is tracked after a report. -/
def follow (tracked : Option (κ × ν)) (report : KeyReport κ ν) : Option (κ × ν) :=
  match tracked with
  | none => some (report.key, report.rank)
  | some last => if report.key = last.1 then some (last.1, max last.2 report.rank)
      else some (report.key, report.rank)

/-- A report is announced after others: it opens its key, and ranks above all that were reported
since another key was. -/
def Announced (before : List (KeyReport κ ν)) (report : KeyReport κ ν) : Prop :=
  report.opens = true ∧ ∀ earlier ∈ since report.key before, earlier.rank < report.rank

/-- A key was settled at a rank: a report about it closed it there or was announced. -/
def Settled (reports : List (KeyReport κ ν)) (key : κ) (rank : ν) : Prop :=
  ∃ before report after, reports = before ++ report :: after ∧ report.key = key ∧
    report.rank = rank ∧ (report.opens = false ∨ Announced before report)

/-! ## What is tracked -/

/-- A report passes what is tracked if it ranks above the reports since another key was reported. -/
theorem passes_iff : report.Passes (reports.foldl follow none) ↔
      ∀ earlier ∈ since report.key reports, earlier.rank < report.rank := by
  induction reports using reverseRecOn generalizing report with
  | nil => simp [Passes, since]
  | append_singleton reports last ih =>
    unfold Passes at ih ⊢
    rw [foldl_append]
    by_cases hkey : last.key = report.key
    · -- The highest rank of the key is the tracked one or the last one.
      have hself : since report.key (reports ++ [last]) = last :: since report.key reports := by
        rw [← hkey]
        exact since_concat_self reports last
      have hearlier := ih report
      rw [hself, forall_mem_cons, ← hearlier, foldl_cons, foldl_nil]
      cases htracked : reports.foldl follow none with
      | none => simp [follow, hkey]
      | some tracked =>
        by_cases hlast : report.key = tracked.1
        · simp [follow, hkey, hlast, and_comm]
        · simp [follow, hkey, hlast]
    · rw [since_concat_ne reports hkey, foldl_cons, foldl_nil]
      cases htracked : reports.foldl follow none with
      | none => simp [follow, Ne.symm hkey]
      | some tracked =>
        by_cases hlast : last.key = tracked.1
        · have hother : report.key ≠ tracked.1 := fun heq => hkey (hlast.trans heq.symm)
          simp [follow, hlast, hother]
        · simp [follow, hlast, Ne.symm hkey]

/-! ## Repeats -/

/-- A report is settled, or one that is not lower was settled for its key before. -/
theorem settled_at_least {report : KeyReport κ ν} (h : report ∈ reports) :
    ∃ rank, report.rank ≤ rank ∧ Settled reports report.key rank := by
  induction reports using reverseRecOn generalizing report with
  | nil => exact absurd h not_mem_nil
  | append_singleton reports last ih =>
    have hold {earlier : KeyReport κ ν} (hmem : earlier ∈ reports) :
        ∃ rank, earlier.rank ≤ rank ∧ Settled (reports ++ [last]) earlier.key rank := by
      obtain ⟨rank, hrank, before, settled, after, heq, hsettled⟩ := ih hmem
      refine ⟨rank, hrank, before, settled, after ++ [last], ?_, hsettled⟩
      rw [heq, append_assoc, cons_append]
    rcases mem_append.mp h with hmem | hmem
    · exact hold hmem
    · obtain rfl := mem_singleton.mp hmem
      by_cases hannounced : report.opens = false ∨ Announced reports report
      · exact ⟨report.rank, le_rfl, reports, report, [], rfl, rfl, rfl, hannounced⟩
      · -- A report that is not announced ranks no higher than one since another key was reported.
        rw [not_or, Bool.not_eq_false] at hannounced
        obtain ⟨hopens, hannounced⟩ := hannounced
        have hhigher : ¬ ∀ earlier ∈ since report.key reports, earlier.rank < report.rank :=
          fun hall => hannounced ⟨hopens, hall⟩
        push Not at hhigher
        obtain ⟨earlier, hearlier, hrank⟩ := hhigher
        obtain ⟨hmem, hkey⟩ := mem_of_mem_since hearlier
        obtain ⟨rank, hle, hsettled⟩ := hold hmem
        rw [hkey] at hsettled
        exact ⟨rank, hrank.trans hle, hsettled⟩

/-- An announced report is above every rank at which its key was settled if and only if a report that
opens its key ranks above all earlier ones about it, or no higher than one since another key was
reported. -/
theorem rises_iff : (Announced before report → ∀ rank, Settled before report.key rank → rank < report.rank) ↔
      (report.opens = true → (∀ earlier ∈ before, earlier.key = report.key → earlier.rank < report.rank) ∨
          ∃ earlier ∈ since report.key before, report.rank ≤ earlier.rank) := by
  constructor
  · intro hrises hopens
    by_cases hrepeated : ∃ earlier ∈ since report.key before, report.rank ≤ earlier.rank
    · exact .inr hrepeated
    · push Not at hrepeated
      refine .inl fun earlier hmem hkey => ?_
      obtain ⟨rank, hle, hsettled⟩ := settled_at_least hmem
      rw [hkey] at hsettled
      exact hle.trans_lt (hrises ⟨hopens, hrepeated⟩ rank hsettled)
  · rintro hclimbs ⟨hopens, hannounced⟩ rank ⟨before', settled, after, heq, hkey, rfl, -⟩
    rcases hclimbs hopens with hall | ⟨earlier, hmem, hle⟩
    · exact hall settled (by rw [heq]; simp) hkey
    · exact absurd (hannounced earlier hmem) (not_lt.mpr hle)

end KeyReport

end Clawhip
