import Mathlib

/-!
# MuPlus.Lib.Interleaving

**Threads interleaved on one shared state.** `n` threads, each with a local
state, take atomic steps on a shared state. A schedule (a list of thread ids)
fixes one interleaving, and every finite interleaving is some schedule, so a
property proved for `Config.run` at every schedule holds for every interleaving.

A step may also emit an event (say, a resource it acquired); `Config.trace`
collects the events of a run in order. This module provides:

* `Config.next`, `Config.run`, `Config.trace` and their equation lemmas, with
  the frame lemma `next_thread_of_ne` (a step leaves the other threads alone)
  and `run_replicate` (a thread running alone);
* `Config.run_induction`, the rule that lifts a property that every step keeps
  to every run; and
* `sum_update_add`, how a sum over threads changes when one thread moves.
-/

namespace MuPlus.Interleaving

/-- `n` threads with local states in `τ`, over a shared state in `σ`. -/
structure Config (σ τ : Type*) (n : Nat) where
  shared : σ
  thread : Fin n → τ

variable {σ τ ε : Type*} {n : Nat} (step : σ → τ → σ × τ)

/-- Thread `p` takes one atomic step: `step` reads the shared state and the
thread's local state and returns both updated. -/
def Config.next (c : Config σ τ n) (p : Fin n) : Config σ τ n :=
  ⟨(step c.shared (c.thread p)).1, Function.update c.thread p (step c.shared (c.thread p)).2⟩

/-- Run a schedule: the threads it names step in its order. -/
def Config.run (c : Config σ τ n) : List (Fin n) → Config σ τ n
  | [] => c
  | p :: ps => (c.next step p).run ps

/-- The events a schedule's steps emit, in order; `emit` sees the state the
step starts from. -/
def Config.trace (emit : σ → τ → Option ε) (c : Config σ τ n) : List (Fin n) → List ε
  | [] => []
  | p :: ps => (emit c.shared (c.thread p)).toList ++ (c.next step p).trace emit ps

section Lemmas

variable {step} {c : Config σ τ n} {p q : Fin n}

@[simp] theorem Config.next_shared : (c.next step p).shared = (step c.shared (c.thread p)).1 :=
  rfl

@[simp] theorem Config.next_thread_self : (c.next step p).thread p = (step c.shared (c.thread p)).2 :=
  Function.update_self _ _ _

/-- A step leaves every other thread where it was. -/
theorem Config.next_thread_of_ne (h : q ≠ p) : (c.next step p).thread q = c.thread q :=
  Function.update_of_ne h _ _

@[simp] theorem Config.run_nil : c.run step [] = c := rfl

@[simp] theorem Config.run_cons (ps : List (Fin n)) :
    c.run step (p :: ps) = (c.next step p).run step ps := rfl

theorem Config.run_append (ps qs : List (Fin n)) :
    c.run step (ps ++ qs) = (c.run step ps).run step qs := by
  induction ps generalizing c with
  | nil => rfl
  | cons p ps ih => exact ih

@[simp] theorem Config.trace_nil (emit : σ → τ → Option ε) : c.trace step emit [] = [] := rfl

@[simp] theorem Config.trace_cons (emit : σ → τ → Option ε) (ps : List (Fin n)) :
    c.trace step emit (p :: ps) =
      (emit c.shared (c.thread p)).toList ++ (c.next step p).trace step emit ps := rfl

/-- A thread running alone: its state and the shared state evolve by `step`
alone, the other threads taking no part. -/
theorem Config.run_replicate (k : Nat) :
    ((c.run step (List.replicate k p)).shared, (c.run step (List.replicate k p)).thread p) =
      (fun x => step x.1 x.2)^[k] (c.shared, c.thread p) := by
  induction k generalizing c with
  | zero => rfl
  | succ k ih =>
      rw [List.replicate_succ, run_cons, ih, Function.iterate_succ_apply, next_shared,
        next_thread_self]

end Lemmas

/-- **Run rule.** A property of a configuration and of the events emitted so far
that every step keeps holds after every schedule. -/
theorem Config.run_induction (emit : σ → τ → Option ε) (P : Config σ τ n → List ε → Prop)
    (hstep : ∀ c es p, P c es → P (c.next step p) (es ++ (emit c.shared (c.thread p)).toList))
    {c : Config σ τ n} {es : List ε} (h : P c es) (ps : List (Fin n)) :
    P (c.run step ps) (es ++ c.trace step emit ps) := by
  -- induction on the schedule, carrying the events emitted before it
  induction ps generalizing c es with
  | nil => simpa using h
  | cons p ps ih =>
      have hnext := hstep c es p h
      simpa [List.append_assoc] using ih hnext

/-- One thread moving from `g p` to `x` changes a sum over the threads by the
difference of the two terms. -/
theorem sum_update_add {M : Type*} [AddCommMonoid M] (g : Fin n → τ) (f : τ → M) (p : Fin n)
    (x : τ) : ∑ q, f (Function.update g p x q) + f (g p) = ∑ q, f (g q) + f x := by
  have hupd : ∀ q, f (Function.update g p x q) = Function.update (fun q => f (g q)) p (f x) q :=
    fun q => Function.apply_update (fun _ => f) g p x q
  simp only [hupd, Finset.sum_update_of_mem (Finset.mem_univ p)]
  rw [add_assoc, Finset.sdiff_singleton_eq_erase, Finset.sum_erase_add _ _ (Finset.mem_univ p),
    add_comm]

end MuPlus.Interleaving
