import Clawhip.Lib.Machine
import Mathlib.Logic.Function.Basic

/-!
# Programs that share a world

A program asks the world for one answer after the other. Several programs share a world; every move lets
one of them ask, stops one of them, or changes the world from outside. A contract names an invariant of
the world and what every program relies on: `Contract.run_inv` is the rely-guarantee rule for all
interleavings, and `Contract.Ok.bind` puts the proofs of programs together.
-/

namespace Clawhip

/-- A program that asks for answers, and returns a value. -/
inductive Prog {ρ : Type} (answer : ρ → Type) (β : Type)
  | pure (value : β)
  | ask (request : ρ) (next : answer request → Prog answer β)

namespace Prog

variable {ρ : Type} {answer : ρ → Type}

def bind {β γ : Type} : Prog answer β → (β → Prog answer γ) → Prog answer γ
  | .pure value, f => f value
  | .ask request next, f => .ask request fun reply => (next reply).bind f

instance : Monad (Prog answer) where
  pure := .pure
  bind := .bind

/-- A program that asks once. -/
def request (r : ρ) : Prog answer (answer r) := .ask r .pure

/-- A program asks only for what is allowed, as long as the answers are such as `holds` says. -/
def Within {β : Type} (holds : (request : ρ) → answer request → Prop) (allowed : ρ → Prop) :
    Prog answer β → Prop
  | .pure _ => True
  | .ask request next =>
    allowed request ∧ ∀ reply, holds request reply → Within holds allowed (next reply)

end Prog

/-! ## Worlds -/

/-- How a world of type `σ` answers the requests of some programs, what the end of a program does to it, and
what else can happen to it; a `choice` is what a move decides about an answer. -/
structure Shared (ι : Type) {ρ : Type} (answer : ρ → Type) (σ α κ : Type) where
  serve : ι → (request : ρ) → (choice : α) → σ → σ × answer request
  halt : ι → σ → σ
  disturb : κ → σ → σ

/-- The programs, as far as they have come, and the world. -/
structure Threads (ι : Type) {ρ : Type} (answer : ρ → Type) (σ : Type) where
  programs : ι → Prog answer Unit
  world : σ

inductive Move (ι α κ : Type)
  | run (who : ι) (choice : α)
  | stop (who : ι)
  | disturb (event : κ)

variable {ι ρ : Type} {answer : ρ → Type} {σ α κ : Type}

namespace Shared

variable (S : Shared ι answer σ α κ)

/-- The world once a program has come so far. -/
def settle (who : ι) (world : σ) : Prog answer Unit → σ
  | .pure _ => S.halt who world
  | .ask _ _ => world

/-- One move: a program gets its answer, or is stopped, or the world is disturbed. -/
def step [DecidableEq ι] (threads : Threads ι answer σ) : Move ι α κ → Threads ι answer σ
  | .run who choice =>
    match threads.programs who with
    | .pure _ => threads
    | .ask request next =>
      let (world, reply) := S.serve who request choice threads.world
      { programs := Function.update threads.programs who (next reply)
        world := S.settle who world (next reply) }
  | .stop who =>
    match threads.programs who with
    | .pure _ => threads
    | .ask _ _ =>
      { programs := Function.update threads.programs who (.pure ())
        world := S.halt who threads.world }
  | .disturb event => { threads with world := S.disturb event threads.world }

def machine [DecidableEq ι] : Machine (Threads ι answer σ) (Move ι α κ) Unit where
  step threads move := (S.step threads move, ())

end Shared

/-- A guard of requests, as one of moves. -/
def Threads.Admits (allowed : ι → ρ → α → σ → Prop) (threads : Threads ι answer σ) :
    Move ι α κ → Prop
  | .run who choice =>
    match threads.programs who with
    | .pure _ => True
    | .ask request _ => allowed who request choice threads.world
  | .stop _ => True
  | .disturb _ => True

/-! ## Contracts -/

/-- An invariant of the world, and what each program relies on: the moves of the others and what else
happens keep to it. -/
structure Contract (S : Shared ι answer σ α κ) where
  inv : σ → Prop
  rely : ι → σ → σ → Prop
  allowed : ι → ρ → α → σ → Prop
  refl : ∀ who world, rely who world world
  trans : ∀ who {first second third}, rely who first second → rely who second third → rely who first third
  halt : ∀ who world, inv world →
    inv (S.halt who world) ∧ ∀ other, other ≠ who → rely other world (S.halt who world)
  disturb : ∀ event world, inv world →
    inv (S.disturb event world) ∧ ∀ other, rely other world (S.disturb event world)

namespace Contract

variable {S : Shared ι answer σ α κ} (C : Contract S)

/-- A program keeps the invariant and what the others rely on, wherever it is answered, and ends in `post`. -/
def Ok (who : ι) {β : Type} : Prog answer β → (β → σ → Prop) → σ → Prop
  | .pure value, post, world => post value world
  | .ask request next, post, world =>
    ∀ later, C.rely who world later → C.inv later → ∀ choice, C.allowed who request choice later →
      let served := S.serve who request choice later
      C.inv served.1 ∧ (∀ other, other ≠ who → C.rely other later served.1) ∧ Ok who (next served.2) post served.1

variable {C} {who : ι} {β γ : Type}

variable {post : β → σ → Prop} {program : Prog answer β} {world : σ} {threads : Threads ι answer σ}

theorem Ok.mono {post' : β → σ → Prop} (h : C.Ok who program post world)
    (hpost : ∀ value world, post value world → post' value world) : C.Ok who program post' world := by
  induction program generalizing world with
  | pure value => exact hpost value world h
  | ask request next ih =>
    intro later hrely hinv choice hallowed
    obtain ⟨hkept, hothers, hnext⟩ := h later hrely hinv choice hallowed
    exact ⟨hkept, hothers, ih _ hnext⟩

/-- The proof of a program goes on from the proof of its first part. -/
theorem Ok.bind {next : β → Prog answer γ} {post : γ → σ → Prop}
    (h : C.Ok who program (fun value world => C.Ok who (next value) post world) world) :
    C.Ok who (program.bind next) post world := by
  induction program generalizing world with
  | pure value => exact h
  | ask request rest ih =>
    intro later hrely hinv choice hallowed
    obtain ⟨hkept, hothers, hrest⟩ := h later hrely hinv choice hallowed
    exact ⟨hkept, hothers, ih _ hrest⟩

/-- What others do leaves a program as good as it was, if what it ends in does not depend on it. -/
theorem Ok.stable (hpost : ∀ value world later, C.rely who world later → post value world → post value later)
    {later : σ} (hrely : C.rely who world later) (h : C.Ok who program post world) : C.Ok who program post later := by
  cases program with
  | pure value => exact hpost value world later hrely h
  | ask request next =>
    intro last hlast hinv choice hallowed
    exact h last (C.trans who hrely hlast) hinv choice hallowed

variable (C)

/-- All programs are good from where they are, and the invariant holds. -/
structure Holds (threads : Threads ι answer σ) : Prop where
  inv : C.inv threads.world
  ok : ∀ who, C.Ok who (threads.programs who) (fun _ _ => True) threads.world

variable {C} [DecidableEq ι]

omit [DecidableEq ι] in
theorem Ok.stable_end {later : σ} {program : Prog answer Unit} (hrely : C.rely who world later)
    (h : C.Ok who program (fun _ _ => True) world) : C.Ok who program (fun _ _ => True) later :=
  h.stable (fun _ _ _ _ _ => trivial) hrely

/-- A program that has got its answer leaves the others as good as they were. -/
theorem Holds.answered (h : C.Holds threads) {program : Prog answer Unit} (hkept : C.inv world)
    (hothers : ∀ other, other ≠ who → C.rely other threads.world world)
    (hok : C.Ok who program (fun _ _ => True) world) : C.Holds
      { programs := Function.update threads.programs who program, world := S.settle who world program } := by
  cases program with
  | pure value =>
    obtain ⟨hhalted, hrely⟩ := C.halt who world hkept
    refine ⟨hhalted, fun other => ?_⟩
    by_cases hother : other = who
    · subst hother
      simp only [Function.update_self]
      trivial
    · simp only [Function.update_of_ne hother]
      exact (h.ok other).stable_end (C.trans other (hothers other hother) (hrely other hother))
  | ask request next =>
    refine ⟨hkept, fun other => ?_⟩
    by_cases hother : other = who
    · subst hother
      simp only [Function.update_self]
      exact hok
    · simp only [Function.update_of_ne hother]
      exact (h.ok other).stable_end (hothers other hother)

/-- Every admitted move keeps to the contract. -/
theorem Holds.step (h : C.Holds threads) (move : Move ι α κ) (hadmits : threads.Admits C.allowed move) :
    C.Holds (S.step threads move) := by
  cases move with
  | run who choice =>
    have hok := h.ok who
    simp only [Shared.step, Threads.Admits] at hadmits ⊢
    cases hprogram : threads.programs who with
    | pure value => exact h
    | ask request next =>
      rw [hprogram] at hok hadmits
      obtain ⟨hkept, hothers, hnext⟩ := hok threads.world (C.refl who _) h.inv choice hadmits
      exact h.answered hkept hothers hnext
  | stop who =>
    simp only [Shared.step]
    cases hprogram : threads.programs who with
    | pure value => exact h
    | ask request next =>
      -- A stopped program is one that has come to its end.
      have hended : C.Ok who (.pure () : Prog answer Unit) (fun _ _ => True) threads.world := trivial
      exact h.answered h.inv (fun other _ => C.refl other _) hended
  | disturb event =>
    obtain ⟨hkept, hrely⟩ := C.disturb event threads.world h.inv
    exact ⟨hkept, fun other => (h.ok other).stable_end (hrely other)⟩

/-- The rely-guarantee rule: the invariant holds after every admitted interleaving. -/
theorem Holds.run (h : C.Holds threads) {moves : List (Move ι α κ)}
    (hmoves : S.machine.Along (fun threads => threads.Admits C.allowed) threads moves) :
    C.Holds (S.machine.run threads moves) :=
  S.machine.run_invariant C.Holds (fun _ move hholds hadmits => hholds.step move hadmits) h hmoves

end Contract

end Clawhip
