import Mathlib.Data.List.Basic

/-!
# Sweeps

A sweep works through a list from a state and stops at the first error; what was done before the error
stays done. The rules say what a sweep does from what every item does.
-/

namespace Clawhip

open List

variable {σ ι ε : Type*}

/-- Work through a list, up to the first error. -/
def sweep (work : ι → σ → Except ε Unit × σ) : List ι → σ → Except ε Unit × σ
  | [], s => (.ok (), s)
  | i :: is, s =>
    match work i s with
    | (.error e, s) => (.error e, s)
    | (.ok _, s) => sweep work is s

namespace Sweep

variable {work : ι → σ → Except ε Unit × σ}

@[simp] theorem nil (s : σ) : sweep work [] s = (.ok (), s) := rfl

variable {s s' : σ}

theorem cons_ok {i : ι} (h : work i s = (.ok (), s')) (is : List ι) : sweep work (i :: is) s = sweep work is s' := by
  rw [sweep, h]

theorem cons_error {i : ι} {e : ε} (h : work i s = (.error e, s')) (is : List ι) :
    sweep work (i :: is) s = (.error e, s') := by
  rw [sweep, h]

variable {is : List ι} (Inv : σ → Prop) {κ : Type*} (trace : σ → List κ) (part : ι → List κ)

/-- Where every item that meets the invariant comes out well, keeps it and adds its part to a trace, a
sweep comes out well and adds the parts in order. -/
theorem trace_eq (hstep : ∀ i ∈ is, ∀ s, Inv s →
      ∃ s', work i s = (.ok (), s') ∧ Inv s' ∧ trace s' = trace s ++ part i) (s : σ) (hs : Inv s) :
    ∃ s', sweep work is s = (.ok (), s') ∧ Inv s' ∧ trace s' = trace s ++ is.flatMap part := by
  induction is generalizing s with
  | nil => exact ⟨s, rfl, hs, by simp⟩
  | cons i is ih =>
    obtain ⟨s', hi, hs', htrace⟩ := hstep i mem_cons_self s hs
    obtain ⟨s'', his, hs'', hrest⟩ := ih (fun j hj => hstep j (mem_cons_of_mem _ hj)) s' hs'
    refine ⟨s'', (cons_ok hi is).trans his, hs'', ?_⟩
    rw [hrest, htrace, append_assoc, flatMap_cons]

/-- Where every item adds a sublist of its part to a trace, whatever comes of it, a sweep adds a sublist
of the parts in order. -/
theorem trace_sublist
    (hstep : ∀ i ∈ is, ∀ s, ∃ new, trace (work i s).2 = trace s ++ new ∧ List.Sublist new (part i)) (s : σ) :
    ∃ new, trace (sweep work is s).2 = trace s ++ new ∧ List.Sublist new (is.flatMap part) := by
  induction is generalizing s with
  | nil => exact ⟨[], by simp, Sublist.refl _⟩
  | cons i is ih =>
    obtain ⟨first, htrace, hfirst⟩ := hstep i mem_cons_self s
    cases hwork : work i s with
    | mk result s' =>
      rw [hwork] at htrace
      cases result with
      | error e =>
        rw [cons_error hwork]
        exact ⟨first, htrace, hfirst.trans (sublist_append_left _ _)⟩
      | ok _ =>
        rw [cons_ok hwork]
        obtain ⟨rest, hrest, hsub⟩ := ih (fun j hj => hstep j (mem_cons_of_mem _ hj)) s'
        refine ⟨first ++ rest, ?_, hfirst.append hsub⟩
        rw [hrest, htrace, append_assoc]

/-- What every item keeps, whatever comes of it, a sweep keeps. -/
theorem invariant (hstep : ∀ i ∈ is, ∀ s, Inv s → Inv (work i s).2) {s : σ} (hs : Inv s) : Inv (sweep work is s).2 := by
  induction is generalizing s with
  | nil => exact hs
  | cons i is ih =>
    have hi := hstep i mem_cons_self s hs
    cases hwork : work i s with
    | mk result s' =>
      rw [hwork] at hi
      cases result with
      | error e =>
        rw [cons_error hwork]
        exact hi
      | ok _ =>
        rw [cons_ok hwork]
        exact ih (fun j hj => hstep j (mem_cons_of_mem _ hj)) hi

end Sweep

end Clawhip
