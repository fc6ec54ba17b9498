import Clawhip.Lib.Machine

/-!
# Machines that refuse inputs

A machine may answer an input with a refusal. `settled` is what the last accepted input of a run left
to be seen; a run's readers see nothing else exactly if no refusal of the run changes what is seen.
-/

namespace Clawhip

namespace Machine

variable {σ ι ο ν : Type*} (M : Machine σ ι ο)

/-- A guard holds along a run if it admits every input in the state that it meets. -/
theorem along_iff (guard : σ → ι → Prop) (s : σ) (is : List ι) :
    M.Along guard s is ↔ ∀ pre i post, is = pre ++ i :: post → guard (M.run s pre) i := by
  induction is generalizing s with
  | nil => simp
  | cons j is ih =>
    rw [along_cons, ih]
    constructor
    · rintro ⟨hfirst, hrest⟩ pre i post hsplit
      cases pre with
      | nil =>
        obtain ⟨rfl, rfl⟩ := List.cons.inj hsplit
        exact hfirst
      | cons k pre =>
        obtain ⟨rfl, rfl⟩ := List.cons.inj hsplit
        exact hrest pre i post rfl
    · intro h
      exact ⟨h [] j is rfl, fun pre i post hsplit => h (j :: pre) i post (by rw [hsplit]; rfl)⟩

/-- Guards that agree wherever they are asked hold along the same runs. -/
theorem along_congr {guard guard' : σ → ι → Prop} (h : ∀ s i, guard s i ↔ guard' s i) (s : σ)
    (is : List ι) : M.Along guard s is ↔ M.Along guard' s is :=
  ⟨.mono M fun s i => (h s i).mp, .mono M fun s i => (h s i).mpr⟩

variable (refused : ο → Bool) (view : σ → ν)

/-- A refused input changes nothing that is seen. -/
def Unseen (s : σ) (i : ι) : Prop := refused (M.step s i).2 = true → view (M.step s i).1 = view s

/-- What is seen after the last accepted input of a run, or `v` if every input is refused. -/
def settledFrom (v : ν) : σ → List ι → ν
  | _, [] => v
  | s, i :: is =>
    settledFrom (if refused (M.step s i).2 then v else view (M.step s i).1) (M.step s i).1 is

/-- What is seen after the last accepted input of a run, or before it if every input is refused. -/
def settled (s : σ) (is : List ι) : ν := M.settledFrom refused view (view s) s is

theorem settledFrom_concat (v : ν) (s : σ) (is : List ι) (i : ι) : M.settledFrom refused view v s (is ++ [i]) =
      if refused (M.step (M.run s is) i).2 then M.settledFrom refused view v s is
      else view (M.step (M.run s is) i).1 := by
  induction is generalizing v s with
  | nil => rfl
  | cons j is ih => exact ih _ _

theorem settled_concat (s : σ) (is : List ι) (i : ι) : M.settled refused view s (is ++ [i]) =
      if refused (M.step (M.run s is) i).2 then M.settled refused view s is
      else view (M.step (M.run s is) i).1 := M.settledFrom_concat refused view _ s is i

/-- Where no refusal changes what is seen, only what accepted inputs leave behind is seen. -/
theorem view_run_eq_settled {s : σ} {is : List ι} (h : M.Along (M.Unseen refused view) s is) :
    view (M.run s is) = M.settled refused view s is := by
  induction is using List.reverseRecOn with
  | nil => rfl
  | append_singleton is i ih =>
    obtain ⟨hbefore, hlast⟩ := (M.along_concat _ s is i).mp h
    rw [run_concat, settled_concat]
    split_ifs with hrefused
    · exact (hlast hrefused).trans (ih hbefore)
    · rfl

/-- No refusal of a run changes what is seen exactly if a reader sees at all times what the last
accepted input left behind. -/
theorem along_unseen_iff (s : σ) (is : List ι) : M.Along (M.Unseen refused view) s is ↔
      ∀ pre, pre <+: is → view (M.run s pre) = M.settled refused view s pre := by
  constructor
  · rintro h pre ⟨post, rfl⟩
    exact M.view_run_eq_settled refused view ((M.along_append _ s pre post).mp h).1
  · intro h
    rw [along_iff]
    rintro pre i post rfl hrefused
    have hbefore := h pre (List.prefix_append _ _)
    have hafter := h (pre ++ [i]) (by simp)
    rw [run_concat, settled_concat, if_pos hrefused] at hafter
    exact hafter.trans hbefore.symm

end Machine

end Clawhip
