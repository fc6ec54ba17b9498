import Mathlib.Data.List.Induction
import Mathlib.Order.Basic

/-!
# Deterministic machines and their runs

A machine takes one step per input and answers each step with an output. `run` is the state after
a list of inputs and `outputs` the answers along the way. `Along guard` says that every step of a
run is taken in a state in which the guard admits its input; the invariant rules below carry a
one-step fact over whole runs, with and without such a guard.
-/

namespace Clawhip

/-- A deterministic machine over states `σ`, inputs `ι` and outputs `ο`. -/
structure Machine (σ ι ο : Type*) where
  /-- The state and the answer after one input. -/
  step : σ → ι → σ × ο

namespace Machine

variable {σ ι ο : Type*} (M : Machine σ ι ο)

/-- The state after a list of inputs. -/
def run (s : σ) (is : List ι) : σ := is.foldl (fun s i => (M.step s i).1) s

/-- The answers to a list of inputs, in order. -/
def outputs : σ → List ι → List ο
  | _, [] => []
  | s, i :: is => (M.step s i).2 :: outputs (M.step s i).1 is

@[simp] theorem run_nil (s : σ) : M.run s [] = s := rfl

@[simp] theorem run_cons (s : σ) (i : ι) (is : List ι) : M.run s (i :: is) = M.run (M.step s i).1 is := rfl

/-- A run over two lists of inputs is the second run from where the first ends. -/
theorem run_append (s : σ) (is js : List ι) : M.run s (is ++ js) = M.run (M.run s is) js := by
  simp [run]

/-- A run that ends with `i` ends with the step on `i`. -/
theorem run_concat (s : σ) (is : List ι) (i : ι) : M.run s (is ++ [i]) = (M.step (M.run s is) i).1 := by
  rw [run_append, run_cons, run_nil]

@[simp] theorem outputs_nil (s : σ) : M.outputs s [] = [] := rfl

@[simp] theorem outputs_cons (s : σ) (i : ι) (is : List ι) :
    M.outputs s (i :: is) = (M.step s i).2 :: M.outputs (M.step s i).1 is := rfl

/-- The answers to two lists of inputs are those to the first, then those to the second. -/
theorem outputs_append (s : σ) (is js : List ι) :
    M.outputs s (is ++ js) = M.outputs s is ++ M.outputs (M.run s is) js := by
  induction is generalizing s with
  | nil => rfl
  | cons i is ih => simp [ih]

/-- A run that ends with `i` answers `i` last. -/
theorem outputs_concat (s : σ) (is : List ι) (i : ι) :
    M.outputs s (is ++ [i]) = M.outputs s is ++ [(M.step (M.run s is) i).2] := by
  rw [outputs_append, outputs_cons, outputs_nil]

/-- Every step of the run is taken in a state in which `guard` admits its input. -/
def Along (guard : σ → ι → Prop) : σ → List ι → Prop
  | _, [] => True
  | s, i :: is => guard s i ∧ Along guard (M.step s i).1 is

@[simp] theorem along_nil (guard : σ → ι → Prop) (s : σ) : M.Along guard s [] := trivial

@[simp] theorem along_cons (guard : σ → ι → Prop) (s : σ) (i : ι) (is : List ι) :
    M.Along guard s (i :: is) ↔ guard s i ∧ M.Along guard (M.step s i).1 is := Iff.rfl

/-- A guard holds along two lists of inputs when it holds along each. -/
theorem along_append (guard : σ → ι → Prop) (s : σ) (is js : List ι) :
    M.Along guard s (is ++ js) ↔ M.Along guard s is ∧ M.Along guard (M.run s is) js := by
  induction is generalizing s with
  | nil => simp
  | cons i is ih => simp [ih, and_assoc]

/-- A guard holds along a run that ends with `i` when it holds before `i` and admits `i`. -/
theorem along_concat (guard : σ → ι → Prop) (s : σ) (is : List ι) (i : ι) :
    M.Along guard s (is ++ [i]) ↔ M.Along guard s is ∧ guard (M.run s is) i := by
  simp [along_append]

variable {is : List ι} {s : σ}

/-- A weaker guard holds along every run along which a stronger one does. -/
theorem Along.mono {guard guard' : σ → ι → Prop} (h : ∀ s i, guard s i → guard' s i) (ha : M.Along guard s is) : M.Along guard' s is := by
  induction is generalizing s with
  | nil => trivial
  | cons i is ih => exact ⟨h s i ha.1, ih ha.2⟩

/-- A guard that admits everything holds along every run. -/
theorem along_of_forall {guard : σ → ι → Prop} (h : ∀ s i, guard s i) (s : σ) (is : List ι) : M.Along guard s is := by
  induction is generalizing s with
  | nil => trivial
  | cons i is ih => exact ⟨h s i, ih _⟩

/-- What holds of every input holds along a run, beside a guard. -/
theorem Along.and_of_forall {guard : σ → ι → Prop} {P : ι → Prop} (h : ∀ i ∈ is, P i)
    (ha : M.Along guard s is) : M.Along (fun s i => P i ∧ guard s i) s is := by
  induction is generalizing s with
  | nil => trivial
  | cons i is ih => exact ⟨⟨h i List.mem_cons_self, ha.1⟩, ih (fun j hj => h j (List.mem_cons_of_mem _ hj)) ha.2⟩

/-- An invariant that every admitted step keeps holds after every admitted run. -/
theorem run_invariant {guard : σ → ι → Prop} (Inv : σ → Prop)
    (hstep : ∀ s i, Inv s → guard s i → Inv (M.step s i).1) (hs : Inv s) (ha : M.Along guard s is) :
    Inv (M.run s is) := by
  induction is generalizing s with
  | nil => exact hs
  | cons i is ih => exact ih (hstep s i hs ha.1) ha.2

/-- An invariant that every step keeps holds after every run. -/
theorem run_invariant' (Inv : σ → Prop) (hstep : ∀ s i, Inv s → Inv (M.step s i).1) (hs : Inv s) (is : List ι) : Inv (M.run s is) := by
  induction is generalizing s with
  | nil => exact hs
  | cons i is ih => exact ih (hstep s i hs)

/-- A guard can be checked along a run. -/
def alongCheck (check : σ → ι → Bool) : σ → List ι → Bool
  | _, [] => true
  | s, i :: is => check s i && alongCheck check (M.step s i).1 is

theorem along_of_check {check : σ → ι → Bool} {guard : σ → ι → Prop}
    (hguard : ∀ s i, check s i = true → guard s i) (h : M.alongCheck check s is = true) : M.Along guard s is := by
  induction is generalizing s with
  | nil => trivial
  | cons i is ih =>
    obtain ⟨hi, his⟩ := Bool.and_eq_true_iff.mp h
    exact ⟨hguard s i hi, ih his⟩

/-- Some step of the run is taken in a state in which `P` holds of it and its input. -/
def Sometime (P : σ → ι → Prop) : σ → List ι → Prop
  | _, [] => False
  | s, i :: is => P s i ∨ Sometime P (M.step s i).1 is

@[simp] theorem sometime_nil (P : σ → ι → Prop) (s : σ) : ¬ M.Sometime P s [] := id

/-- What happens in a run that ends with `i` happens before `i` or at `i`. -/
theorem sometime_concat (P : σ → ι → Prop) (s : σ) (is : List ι) (i : ι) :
    M.Sometime P s (is ++ [i]) ↔ M.Sometime P s is ∨ P (M.run s is) i := by
  induction is generalizing s with
  | nil => simp [Sometime]
  | cons j is ih => simp only [List.cons_append, Sometime, run_cons, ih, or_assoc]

/-! ## Simulation -/

variable {σ' ο' : Type*} {M} {N : Machine σ' ι ο'}

/-- `abs` and `out` carry every admitted step of `M`, from a state of the invariant, to the step of
`N` on the same input. -/
structure Simulates (M : Machine σ ι ο) (N : Machine σ' ι ο') (Inv : σ → Prop)
    (guard : σ → ι → Prop) (abs : σ → σ') (out : ο → ο') : Prop where
  /-- The invariant is kept by every admitted step. -/
  inv : ∀ s i, Inv s → guard s i → Inv (M.step s i).1
  /-- The step of `N` from the abstract state is the abstract step of `M`. -/
  step : ∀ s i, Inv s → guard s i → N.step (abs s) i = (abs (M.step s i).1, out (M.step s i).2)

variable {Inv : σ → Prop} {guard : σ → ι → Prop} {abs : σ → σ'} {out : ο → ο'}

/-- Under a simulation, the abstract state after a run is the state of the abstract run. -/
theorem Simulates.run_eq (h : Simulates M N Inv guard abs out) (hs : Inv s) (ha : M.Along guard s is) :
    N.run (abs s) is = abs (M.run s is) := by
  induction is generalizing s with
  | nil => rfl
  | cons i is ih =>
    rw [run_cons, run_cons, h.step s i hs ha.1]
    exact ih (h.inv s i hs ha.1) ha.2

/-- Under a simulation, the abstract answers are the answers of the abstract run. -/
theorem Simulates.outputs_eq (h : Simulates M N Inv guard abs out) (hs : Inv s) (ha : M.Along guard s is) :
    N.outputs (abs s) is = (M.outputs s is).map out := by
  induction is generalizing s with
  | nil => rfl
  | cons i is ih =>
    rw [outputs_cons, outputs_cons, h.step s i hs ha.1, List.map_cons]
    exact congrArg _ (ih (h.inv s i hs ha.1) ha.2)

end Machine

end Clawhip
