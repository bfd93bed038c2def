import Mathlib

/-!
# MuPlus.Lib.Machine

**Machines that answer a sequence of inputs.** A step `σ → ι → ο × σ` takes a state and an
input to an output and the next state; `Machine.run` feeds it the inputs in order, each on
the state the one before left, and collects the outputs. This module provides:

* `run` with its equations, `run_append`, how a run splits at any point, `run_idle`, the
  run of a machine that keeps its state, and `run_map_output`, a run with mapped outputs;
* `run_invariant`: an invariant that every step keeps holds after every run;
* `run_simulation`: a map of states under which each step is a step of an abstract machine,
  from the states of an invariant, maps every run to the abstract machine's run with the
  same outputs.
-/

namespace MuPlus.Machine

variable {σ τ ι ο : Type}

/-- The inputs in order, each on the state the one before left, with their outputs. -/
def run (step : σ → ι → ο × σ) (s : σ) : List ι → List ο × σ
  | [] => ([], s)
  | i :: is =>
      let rest := run step (step s i).2 is
      ((step s i).1 :: rest.1, rest.2)

@[simp] theorem run_nil (step : σ → ι → ο × σ) (s : σ) : run step s [] = ([], s) :=
  rfl

@[simp] theorem run_cons (step : σ → ι → ο × σ) (s : σ) (i : ι) (is : List ι) :
    run step s (i :: is) =
      ((step s i).1 :: (run step (step s i).2 is).1, (run step (step s i).2 is).2) :=
  rfl

@[simp] theorem length_run (step : σ → ι → ο × σ) (s : σ) (is : List ι) :
    (run step s is).1.length = is.length := by
  induction is generalizing s with
  | nil => rfl
  | cons i is ih => simp [ih]

/-- A run splits where its inputs do. -/
theorem run_append (step : σ → ι → ο × σ) (s : σ) (is js : List ι) :
    run step s (is ++ js) =
      ((run step s is).1 ++ (run step (run step s is).2 js).1,
        (run step (run step s is).2 js).2) := by
  induction is generalizing s with
  | nil => rfl
  | cons i is ih =>
      rw [List.cons_append, run_cons, ih, run_cons]
      rfl

/-- A machine that keeps its state answers each input by a fixed function of it. -/
@[simp] theorem run_idle (f : ι → ο) (s : σ) (is : List ι) :
    run (fun s i => (f i, s)) s is = (is.map f, s) := by
  induction is with
  | nil => rfl
  | cons i is ih => simp [ih]

/-- A step whose outputs are mapped runs to the mapped outputs. -/
theorem run_map_output {ο' : Type} (f : ο → ο') (step : σ → ι → ο × σ) (s : σ) (is : List ι) :
    run (fun s i => (f (step s i).1, (step s i).2)) s is =
      ((run step s is).1.map f, (run step s is).2) := by
  induction is generalizing s with
  | nil => rfl
  | cons i is ih => simp [ih]

section Invariant

variable {step : σ → ι → ο × σ} (Inv : σ → Prop)

/-- **An invariant every step keeps holds after every run.** -/
theorem run_invariant (hstep : ∀ s i, Inv s → Inv (step s i).2) {s : σ} (hs : Inv s)
    (is : List ι) : Inv (run step s is).2 := by
  induction is generalizing s with
  | nil => exact hs
  | cons i is ih => exact ih (hstep s i hs)

end Invariant

section Simulation

variable {step : σ → ι → ο × σ} {stepA : τ → ι → ο × τ} (abs : σ → τ) (Inv : σ → Prop)

/-- **Simulation.** If every step from a state of the invariant keeps it and is, under
`abs`, the abstract step with the same output, then so is every run. -/
theorem run_simulation (hinv : ∀ s i, Inv s → Inv (step s i).2)
    (hsim : ∀ s i, Inv s → Prod.map id abs (step s i) = stepA (abs s) i) {s : σ} (hs : Inv s)
    (is : List ι) : Prod.map id abs (run step s is) = run stepA (abs s) is := by
  induction is generalizing s with
  | nil => rfl
  | cons i is ih =>
      have hstep := hsim s i hs
      have hrest := ih (hinv s i hs)
      rw [run_cons, run_cons, ← hstep]
      simp only [Prod.map_fst, Prod.map_snd, id_eq] at hrest ⊢
      rw [← hrest]
      rfl

end Simulation

end MuPlus.Machine
