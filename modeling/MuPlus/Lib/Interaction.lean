import Mathlib

/-!
# MuPlus.Lib.Interaction

**Programs that call an environment.** A `Prog C R α` returns an `α` after a
sequence of calls `c : C`, each answered by the environment with a value of
`R c`: the free monad over the signature `C`, `R`. Firmware services (variable
reads and writes, a random number generator, a signature check, a reset) become
calls, and the program's own control flow stays ordinary Lean.

The environment is not fixed. `Run p t o` says that `p` can exchange the events
`t`, each a call with the answer it got, and then have outcome `o`: it returned a
value, or it is waiting on a call that no answer has come for (a call that never
returns, or a run observed only so far). A property of every run is a property of
the program against every environment. This module provides:

* `Prog`, its `Monad` instance, and `Prog.lift` for one call;
* `Run` with its inversion lemmas, and `Run.bind_returned`/`Run.of_bind`, how the
  runs of `p >>= f` split into a run of `p` and one of `f`;
* the rewrite rules `run_bind_returned_iff`, `run_lift_returned_iff` and their
  kin, which unfold a run of a routine into runs of its steps, and their
  `ExceptT` forms for routines with early exits;
* `Prog.CallsOnly`, the calls a program can make, read off its text, with the
  rules that build it up a routine at a time;
* `Prog.RunsIn`, a property of the trace of every run, which can tie a call to
  the answers before it, with the same rules and `runsIn_call` for a call whose
  answer the rest of the routine uses;
* `Consistent`, the runs whose answers a state machine can give (say, a store the
  calls read and write), and `Prog.check`, an executable checker of one run.
-/

namespace MuPlus.Interaction

/-- A program over calls `C` with answers `R`: return `a`, or make the call `c`
and continue with `k` on its answer. -/
inductive Prog (C : Type) (R : C → Type) (α : Type) where
  | pure (a : α)
  | call (c : C) (k : R c → Prog C R α)

/-- One exchange with the environment: a call and its answer. -/
structure Event (C : Type) (R : C → Type) where
  call : C
  resp : R call

/-- How a run ends: with a returned value, or waiting on a call. -/
inductive Outcome (C : Type) (α : Type) where
  | returned (a : α)
  | waiting (c : C)
  deriving DecidableEq

variable {C : Type} {R : C → Type} {α β : Type}

namespace Prog

/-- Sequencing: run `p`, then `f` on its result. -/
def bind : Prog C R α → (α → Prog C R β) → Prog C R β
  | pure a, f => f a
  | call c k, f => call c fun r => (k r).bind f

instance : Monad (Prog C R) where
  pure := pure
  bind := bind

/-- Make the call `c` and return its answer. -/
def lift (c : C) : Prog C R (R c) :=
  call c pure

@[simp] theorem pure_bind' (a : α) (f : α → Prog C R β) : (pure a : Prog C R α) >>= f = f a :=
  rfl

@[simp] theorem call_bind (c : C) (k : R c → Prog C R α) (f : α → Prog C R β) :
    call c k >>= f = call c fun r => k r >>= f :=
  rfl

@[simp] theorem lift_bind (c : C) (f : R c → Prog C R β) : lift c >>= f = call c f :=
  rfl

theorem bind_pure' (p : Prog C R α) : p >>= Pure.pure = p := by
  induction p with
  | pure a => rfl
  | call c k ih => exact congrArg (call c) (funext ih)

theorem bind_assoc' (p : Prog C R α) {γ : Type} (f : α → Prog C R β) (g : β → Prog C R γ) :
    p >>= f >>= g = p >>= fun a => f a >>= g := by
  induction p with
  | pure a => rfl
  | call c k ih => exact congrArg (call c) (funext ih)

instance : LawfulMonad (Prog C R) :=
  LawfulMonad.mk' (Prog C R) (fun p => bind_pure' p) (fun a f => pure_bind' a f)
    (fun p f g => bind_assoc' p f g)

end Prog

open Prog

/-! ### Runs -/

/-- `Run p t o`: `p` exchanges the events `t` with the environment and then has
outcome `o`. -/
inductive Run : Prog C R α → List (Event C R) → Outcome C α → Prop
  | pure (a : α) : Run (.pure a) [] (.returned a)
  | call {c : C} {k : R c → Prog C R α} (r : R c) {t : List (Event C R)} {o : Outcome C α} :
      Run (k r) t o → Run (.call c k) (⟨c, r⟩ :: t) o
  | wait (c : C) (k : R c → Prog C R α) : Run (.call c k) [] (.waiting c)

@[simp] theorem run_pure_iff {a : α} {t : List (Event C R)} {o : Outcome C α} :
    Run (.pure a) t o ↔ t = [] ∧ o = .returned a := by
  constructor
  · rintro ⟨⟩
    exact ⟨rfl, rfl⟩
  · rintro ⟨rfl, rfl⟩
    exact .pure a

@[simp] theorem run_call_nil_iff {c : C} {k : R c → Prog C R α} {o : Outcome C α} :
    Run (.call c k) [] o ↔ o = .waiting c := by
  constructor
  · rintro ⟨⟩
    rfl
  · rintro rfl
    exact .wait c k

@[simp] theorem run_call_cons_iff {c : C} {k : R c → Prog C R α} {e : Event C R}
    {t : List (Event C R)} {o : Outcome C α} :
    Run (.call c k) (e :: t) o ↔ ∃ r, e = ⟨c, r⟩ ∧ Run (k r) t o := by
  constructor
  · rintro ⟨⟩
    exact ⟨_, rfl, ‹_›⟩
  · rintro ⟨r, rfl, h⟩
    exact .call r h

/-- A run of `p` that returns, followed by a run of the continuation, is a run
of `p >>= f`. -/
theorem Run.bind_returned {p : Prog C R α} {f : α → Prog C R β} {t₁ t₂ : List (Event C R)}
    {a : α} {o : Outcome C β} (h₁ : Run p t₁ (.returned a)) (h₂ : Run (f a) t₂ o) :
    Run (p >>= f) (t₁ ++ t₂) o := by
  -- induction on the run of `p`: each call of `p` is a call of `p >>= f`
  generalize hr : (Outcome.returned a : Outcome C α) = r at h₁
  induction h₁ with
  | pure a' =>
      cases hr
      exact h₂
  | call r _ ih => exact .call r (ih hr)
  | wait => cases hr

/-- A run of `p` that waits on a call is a run of `p >>= f`. -/
theorem Run.bind_waiting {p : Prog C R α} {f : α → Prog C R β} {t : List (Event C R)} {c : C}
    (h : Run p t (.waiting c)) : Run (p >>= f) t (.waiting c) := by
  generalize hw : (Outcome.waiting c : Outcome C α) = w at h
  induction h with
  | pure => cases hw
  | call r _ ih => exact .call r (ih hw)
  | wait _ _ =>
      cases hw
      exact .wait _ _

/-- **Runs of a sequence.** A run of `p >>= f` is a run of `p` that returns
followed by a run of `f`, or a run of `p` that waits. -/
theorem Run.of_bind {p : Prog C R α} {f : α → Prog C R β} {t : List (Event C R)}
    {o : Outcome C β} (h : Run (p >>= f) t o) :
    (∃ t₁ t₂ a, t = t₁ ++ t₂ ∧ Run p t₁ (.returned a) ∧ Run (f a) t₂ o) ∨
      (∃ c, o = .waiting c ∧ Run p t (.waiting c)) := by
  -- induction on `p`, peeling one call of the run at a time
  induction p generalizing t with
  | pure a => exact .inl ⟨[], t, a, rfl, .pure a, h⟩
  | call c k ih =>
      cases t with
      | nil =>
          rw [Prog.call_bind, run_call_nil_iff] at h
          exact .inr ⟨c, h, .wait c k⟩
      | cons e t =>
          rw [Prog.call_bind, run_call_cons_iff] at h
          obtain ⟨r, rfl, h⟩ := h
          rcases ih r h with ⟨t₁, t₂, a, rfl, h₁, h₂⟩ | ⟨c', rfl, h'⟩
          · exact .inl ⟨⟨c, r⟩ :: t₁, t₂, a, rfl, .call r h₁, h₂⟩
          · exact .inr ⟨c', rfl, .call r h'⟩

/-! ### Runs that return or wait

How the runs of a sequence, a call and a choice end, as rewrite rules: a run of a
whole routine then unfolds into the runs of its parts. -/

section Inversion

variable {p q : Prog C R α} {f : α → Prog C R β} {t : List (Event C R)}

@[simp] theorem run_pure_iff' {a : α} {o : Outcome C α} :
    Run (Pure.pure a : Prog C R α) t o ↔ t = [] ∧ o = .returned a :=
  run_pure_iff

@[simp] theorem run_bind_returned_iff {b : β} :
    Run (p >>= f) t (.returned b) ↔
      ∃ t₁ t₂ a, t = t₁ ++ t₂ ∧ Run p t₁ (.returned a) ∧ Run (f a) t₂ (.returned b) := by
  constructor
  · intro h
    rcases h.of_bind with h | ⟨c, hc, -⟩
    · exact h
    · cases hc
  · rintro ⟨t₁, t₂, a, rfl, h₁, h₂⟩
    exact h₁.bind_returned h₂

@[simp] theorem run_bind_waiting_iff {c : C} :
    Run (p >>= f) t (.waiting c) ↔
      (∃ t₁ t₂ a, t = t₁ ++ t₂ ∧ Run p t₁ (.returned a) ∧ Run (f a) t₂ (.waiting c)) ∨
        Run p t (.waiting c) := by
  constructor
  · intro h
    rcases h.of_bind with h | ⟨c', hc, hp⟩
    · exact .inl h
    · cases hc
      exact .inr hp
  · rintro (⟨t₁, t₂, a, rfl, h₁, h₂⟩ | hp)
    · exact h₁.bind_returned h₂
    · exact hp.bind_waiting

@[simp] theorem run_lift_returned_iff {c : C} {r : R c} :
    Run (lift c) t (.returned r) ↔ t = [⟨c, r⟩] := by
  cases t with
  | nil => simp [lift]
  | cons e t => simp [lift]

@[simp] theorem run_lift_waiting_iff {c c' : C} :
    Run (lift c : Prog C R (R c)) t (.waiting c') ↔ t = [] ∧ c' = c := by
  cases t with
  | nil => simp [lift, eq_comm]
  | cons e t => simp [lift]

@[simp] theorem run_ite_iff (b : Prop) [Decidable b] {o : Outcome C α} :
    Run (if b then p else q) t o ↔ (b ∧ Run p t o) ∨ (¬b ∧ Run q t o) := by
  by_cases hb : b <;> simp [hb]

end Inversion

/-! ### `ExceptT` over programs

A routine with early exits (`goto Exit`) is an `ExceptT ε (Prog C R)` program:
`throw e` leaves with `e`, and `run` turns it into a `Prog` returning an
`Except`. A run that returns `.ok` went through every step without an exit. -/

section ExceptT

variable {ε : Type} {t : List (Event C R)}

@[simp] theorem exceptT_run_ite (b : Prop) [Decidable b] (x y : ExceptT ε (Prog C R) α) :
    (if b then x else y).run = if b then x.run else y.run := by
  split_ifs <;> rfl

@[simp] theorem run_exceptT_bind_ok_iff {x : ExceptT ε (Prog C R) α}
    {f : α → ExceptT ε (Prog C R) β} {b : β} :
    Run (x >>= f).run t (.returned (.ok b)) ↔
      ∃ t₁ t₂ a, t = t₁ ++ t₂ ∧ Run x.run t₁ (.returned (.ok a)) ∧
        Run (f a).run t₂ (.returned (.ok b)) := by
  change Run (x.run >>= ExceptT.bindCont f) t _ ↔ _
  rw [run_bind_returned_iff]
  constructor
  · rintro ⟨t₁, t₂, e | a, rfl, h₁, h₂⟩
    · -- an exit never continues to `.ok`
      simp [ExceptT.bindCont] at h₂
    · exact ⟨t₁, t₂, a, rfl, h₁, h₂⟩
  · rintro ⟨t₁, t₂, a, rfl, h₁, h₂⟩
    exact ⟨t₁, t₂, .ok a, rfl, h₁, h₂⟩

@[simp] theorem run_exceptT_liftM_ok_iff {p : Prog C R α} {a : α} :
    Run (liftM p : ExceptT ε (Prog C R) α).run t (.returned (.ok a)) ↔ Run p t (.returned a) := by
  change Run (p >>= fun a => Pure.pure (Except.ok a)) t _ ↔ _
  rw [run_bind_returned_iff]
  constructor
  · rintro ⟨t₁, t₂, a', rfl, h₁, h₂⟩
    obtain ⟨rfl, h⟩ := run_pure_iff'.mp h₂
    cases h
    simpa using h₁
  · intro h
    exact ⟨t, [], a, by simp, h, .pure _⟩

@[simp] theorem run_exceptT_throw_ok_iff {e : ε} {b : β} :
    Run (throw e : ExceptT ε (Prog C R) β).run t (.returned (.ok b)) ↔ False := by
  change Run (Pure.pure (Except.error e)) t _ ↔ _
  simp

@[simp] theorem run_exceptT_pure_ok_iff {a b : β} :
    Run (Pure.pure a : ExceptT ε (Prog C R) β).run t (.returned (.ok b)) ↔ t = [] ∧ a = b := by
  change Run (Pure.pure (Except.ok a)) t _ ↔ _
  simp [eq_comm]

@[simp] theorem run_exceptT_bind_error_iff {x : ExceptT ε (Prog C R) α}
    {f : α → ExceptT ε (Prog C R) β} {e : ε} :
    Run (x >>= f).run t (.returned (.error e)) ↔
      Run x.run t (.returned (.error e)) ∨
        ∃ t₁ t₂ a, t = t₁ ++ t₂ ∧ Run x.run t₁ (.returned (.ok a)) ∧
          Run (f a).run t₂ (.returned (.error e)) := by
  change Run (x.run >>= ExceptT.bindCont f) t _ ↔ _
  rw [run_bind_returned_iff]
  constructor
  · rintro ⟨t₁, t₂, e' | a, rfl, h₁, h₂⟩
    · -- an exit is passed on unchanged
      obtain ⟨rfl, h⟩ := run_pure_iff'.mp h₂
      cases h
      exact .inl (by simpa using h₁)
    · exact .inr ⟨t₁, t₂, a, rfl, h₁, h₂⟩
  · rintro (h | ⟨t₁, t₂, a, rfl, h₁, h₂⟩)
    · exact ⟨t, [], .error e, by simp, h, .pure _⟩
    · exact ⟨t₁, t₂, .ok a, rfl, h₁, h₂⟩

@[simp] theorem run_exceptT_liftM_error_iff {p : Prog C R α} {e : ε} :
    Run (liftM p : ExceptT ε (Prog C R) α).run t (.returned (.error e)) ↔ False := by
  change Run (p >>= fun a => Pure.pure (Except.ok a)) t _ ↔ _
  rw [run_bind_returned_iff, iff_false]
  rintro ⟨t₁, t₂, a, rfl, -, h⟩
  obtain ⟨-, h⟩ := run_pure_iff'.mp h
  cases h

@[simp] theorem run_exceptT_throw_error_iff {e e' : ε} :
    Run (throw e' : ExceptT ε (Prog C R) β).run t (.returned (.error e)) ↔ t = [] ∧ e' = e := by
  change Run (Pure.pure (Except.error e')) t _ ↔ _
  simp [eq_comm]

@[simp] theorem run_exceptT_pure_error_iff {a : β} {e : ε} :
    Run (Pure.pure a : ExceptT ε (Prog C R) β).run t (.returned (.error e)) ↔ False := by
  change Run (Pure.pure (Except.ok a)) t _ ↔ _
  simp

end ExceptT

/-! ### The calls a program makes

`p.CallsOnly P`: every call `p` can make, on every path, satisfies `P` (say,
"writes no variable but these"). It is checked on the program's text, and every
run of such a program has only such events (`Run.forall_mem_of_callsOnly`). -/

section CallsOnly

variable {P : C → Prop}

/-- Every call `p` can make satisfies `P`. -/
def Prog.CallsOnly (P : C → Prop) : Prog C R α → Prop
  | .pure _ => True
  | .call c k => P c ∧ ∀ r, (k r).CallsOnly P

theorem Run.forall_mem_of_callsOnly {p : Prog C R α} {t : List (Event C R)} {o : Outcome C α}
    (h : Run p t o) (hp : p.CallsOnly P) : ∀ e ∈ t, P e.call := by
  induction h with
  | pure => simp
  | call r _ ih =>
      obtain ⟨hc, hk⟩ := hp
      simpa [hc] using ih (hk r)
  | wait => simp

/-- A run of such a program can only stop at a call that satisfies `P`. -/
theorem Run.callsOnly_waiting {p : Prog C R α} {t : List (Event C R)} {c : C}
    (h : Run p t (.waiting c)) (hp : p.CallsOnly P) : P c := by
  generalize ho : Outcome.waiting c = o at h
  induction h with
  | pure => cases ho
  | call r _ ih => exact ih (hp.2 r) ho
  | wait =>
      cases ho
      exact hp.1

namespace Prog

theorem callsOnly_pure (a : α) : (Pure.pure a : Prog C R α).CallsOnly P :=
  trivial

theorem callsOnly_lift {c : C} (h : P c) : (lift c : Prog C R (R c)).CallsOnly P :=
  ⟨h, fun _ => trivial⟩

theorem CallsOnly.bind {p : Prog C R α} {f : α → Prog C R β} (hp : p.CallsOnly P)
    (hf : ∀ a, (f a).CallsOnly P) : (p >>= f).CallsOnly P := by
  induction p with
  | pure a => exact hf a
  | call c k ih => exact ⟨hp.1, fun r => ih r (hp.2 r)⟩

theorem CallsOnly.ite {b : Prop} [Decidable b] {p q : Prog C R α} (hp : b → p.CallsOnly P)
    (hq : ¬b → q.CallsOnly P) : (if b then p else q).CallsOnly P := by
  split_ifs with hb
  · exact hp hb
  · exact hq hb

variable {ε : Type}

theorem CallsOnly.exceptT_bind {x : ExceptT ε (Prog C R) α} {f : α → ExceptT ε (Prog C R) β}
    (hx : x.run.CallsOnly P) (hf : ∀ a, (f a).run.CallsOnly P) : (x >>= f).run.CallsOnly P := by
  refine CallsOnly.bind (f := ExceptT.bindCont f) hx fun e => ?_
  cases e with
  | error e => trivial
  | ok a => exact hf a

theorem callsOnly_exceptT_liftM {p : Prog C R α} (hp : p.CallsOnly P) :
    (liftM p : ExceptT ε (Prog C R) α).run.CallsOnly P :=
  hp.bind fun _ => trivial

theorem callsOnly_exceptT_throw (e : ε) : (throw e : ExceptT ε (Prog C R) α).run.CallsOnly P :=
  trivial

theorem callsOnly_exceptT_pure (a : α) : (Pure.pure a : ExceptT ε (Prog C R) α).run.CallsOnly P :=
  trivial

theorem CallsOnly.exceptT_ite {b : Prop} [Decidable b] {x y : ExceptT ε (Prog C R) α}
    (hx : b → x.run.CallsOnly P) (hy : ¬b → y.run.CallsOnly P) :
    (if b then x else y).run.CallsOnly P := by
  split_ifs with hb
  · exact hx hb
  · exact hy hb

end Prog

end CallsOnly

/-! ### Traces of every run

`p.RunsIn T`: the trace of every run of `p`, whatever its outcome, is in `T`.
Where `CallsOnly` looks at one call at a time, `T` can tie a call to the answers
before it (a write of the value a call answered). For a `T` that holds of the
empty trace and is closed under `++`, it is built up a routine at a time as
`CallsOnly` is; `runsIn_call` passes an answer on to the rest of the routine. -/

section RunsIn

variable {T : List (Event C R) → Prop}

/-- Every run of `p` has its trace in `T`. -/
def Prog.RunsIn (T : List (Event C R) → Prop) (p : Prog C R α) : Prop :=
  ∀ t o, Run p t o → T t

namespace Prog

theorem runsIn_pure (h : T []) (a : α) : (Pure.pure a : Prog C R α).RunsIn T := by
  intro t o hrun
  obtain ⟨rfl, -⟩ := run_pure_iff.mp hrun
  exact h

/-- A call, with the rest of the routine held to `T` after the event it adds. -/
theorem runsIn_call {c : C} {k : R c → Prog C R α} (h : T [])
    (hk : ∀ r, (k r).RunsIn fun t => T (⟨c, r⟩ :: t)) : (call c k).RunsIn T := by
  rintro (_ | ⟨e, t⟩) o hrun
  · exact h
  · obtain ⟨r, rfl, hrest⟩ := run_call_cons_iff.mp hrun
    exact hk r t o hrest

theorem runsIn_of_callsOnly {P : C → Prop} {p : Prog C R α} (hp : p.CallsOnly P)
    (hT : ∀ t, (∀ e ∈ t, P e.call) → T t) : p.RunsIn T :=
  fun _ _ hrun => hT _ (hrun.forall_mem_of_callsOnly hp)

theorem RunsIn.bind (happ : ∀ {t₁ t₂}, T t₁ → T t₂ → T (t₁ ++ t₂)) {p : Prog C R α}
    {f : α → Prog C R β} (hp : p.RunsIn T) (hf : ∀ a, (f a).RunsIn T) : (p >>= f).RunsIn T := by
  intro t o hrun
  rcases hrun.of_bind with ⟨t₁, t₂, a, rfl, h₁, h₂⟩ | ⟨c, -, h⟩
  · exact happ (hp _ _ h₁) (hf a _ _ h₂)
  · exact hp _ _ h

theorem RunsIn.ite {b : Prop} [Decidable b] {p q : Prog C R α} (hp : b → p.RunsIn T)
    (hq : ¬b → q.RunsIn T) : (if b then p else q).RunsIn T := by
  split_ifs with hb
  · exact hp hb
  · exact hq hb

variable {ε : Type}

theorem RunsIn.exceptT_bind (hnil : T []) (happ : ∀ {t₁ t₂}, T t₁ → T t₂ → T (t₁ ++ t₂))
    {x : ExceptT ε (Prog C R) α} {f : α → ExceptT ε (Prog C R) β} (hx : x.run.RunsIn T)
    (hf : ∀ a, (f a).run.RunsIn T) : (x >>= f).run.RunsIn T := by
  refine RunsIn.bind (f := ExceptT.bindCont f) happ hx fun e => ?_
  cases e with
  | error e => exact runsIn_pure hnil _
  | ok a => exact hf a

theorem runsIn_exceptT_liftM (hnil : T []) (happ : ∀ {t₁ t₂}, T t₁ → T t₂ → T (t₁ ++ t₂))
    {p : Prog C R α} (hp : p.RunsIn T) : (liftM p : ExceptT ε (Prog C R) α).run.RunsIn T :=
  hp.bind happ fun _ => runsIn_pure hnil _

theorem RunsIn.exceptT_ite {b : Prop} [Decidable b] {x y : ExceptT ε (Prog C R) α}
    (hx : b → x.run.RunsIn T) (hy : ¬b → y.run.RunsIn T) : (if b then x else y).run.RunsIn T := by
  split_ifs with hb
  · exact hx hb
  · exact hy hb

/-- `runsIn_call` for a call of an `ExceptT` routine. -/
theorem runsIn_exceptT_call {c : C} {f : R c → ExceptT ε (Prog C R) β} (h : T [])
    (hf : ∀ r, (f r).run.RunsIn fun t => T (⟨c, r⟩ :: t)) :
    (liftM (lift c) >>= f : ExceptT ε (Prog C R) β).run.RunsIn T :=
  runsIn_call h hf

end Prog

end RunsIn

/-! ### Runs against a state machine -/

/-- `Consistent answers s t s'`: from state `s`, each event of `t` is an answer
`answers` allows, and the state ends at `s'`. -/
inductive Consistent {S : Type} (answers : S → (c : C) → R c → S → Prop) :
    S → List (Event C R) → S → Prop
  | nil (s : S) : Consistent answers s [] s
  | cons {s s₁ s₂ : S} {c : C} {r : R c} {t : List (Event C R)} :
      answers s c r s₁ → Consistent answers s₁ t s₂ → Consistent answers s (⟨c, r⟩ :: t) s₂

section Consistent

variable {S : Type} {answers : S → (c : C) → R c → S → Prop}

@[simp] theorem consistent_nil_iff {s s' : S} : Consistent answers s [] s' ↔ s = s' := by
  constructor
  · rintro ⟨⟩
    rfl
  · rintro rfl
    exact .nil s

@[simp] theorem consistent_cons_iff {s s' : S} {e : Event C R} {t : List (Event C R)} :
    Consistent answers s (e :: t) s' ↔ ∃ s₁, answers s e.call e.resp s₁ ∧ Consistent answers s₁ t s' := by
  constructor
  · rintro ⟨⟩
    exact ⟨_, ‹_›, ‹_›⟩
  · rintro ⟨s₁, h, ht⟩
    exact .cons h ht

theorem consistent_append {s s' : S} {t₁ t₂ : List (Event C R)} :
    Consistent answers s (t₁ ++ t₂) s' ↔
      ∃ s₁, Consistent answers s t₁ s₁ ∧ Consistent answers s₁ t₂ s' := by
  induction t₁ generalizing s with
  | nil => simp
  | cons e t₁ ih =>
      simp only [List.cons_append, consistent_cons_iff, ih]
      constructor
      · rintro ⟨s₁, h, s₂, h₁, h₂⟩
        exact ⟨s₂, ⟨s₁, h, h₁⟩, h₂⟩
      · rintro ⟨s₂, ⟨s₁, h, h₁⟩, h₂⟩
        exact ⟨s₁, h, s₂, h₁, h₂⟩

/-- What no answer to a call satisfying `Q` changes is the same at both ends of
a run of such calls. -/
theorem Consistent.frame {V : Type} {f : S → V} {Q : C → Prop}
    (hstep : ∀ s c r s', answers s c r s' → Q c → f s' = f s) {s s' : S} {t : List (Event C R)}
    (h : Consistent answers s t s') (ht : ∀ e ∈ t, Q e.call) : f s' = f s := by
  induction h with
  | nil => rfl
  | cons hanswer _ ih =>
      rw [ih fun e he => ht e (List.mem_cons_of_mem _ he)]
      exact hstep _ _ _ _ hanswer (ht _ List.mem_cons_self)

end Consistent

/-! ### Checking one run -/

/-- Follow `p` along the events `t`: the outcome of that run, or `none` when `t`
is not a run of `p`. -/
def Prog.check [DecidableEq C] : Prog C R α → List (Event C R) → Option (Outcome C α)
  | .pure a, [] => some (.returned a)
  | .pure _, _ :: _ => none
  | .call c _, [] => some (.waiting c)
  | .call c k, e :: t => if h : e.call = c then (k (h ▸ e.resp)).check t else none

theorem Run.of_check [DecidableEq C] {p : Prog C R α} {t : List (Event C R)} {o : Outcome C α}
    (h : p.check t = some o) : Run p t o := by
  induction p generalizing t with
  | pure a =>
      cases t with
      | nil =>
          cases h
          exact .pure a
      | cons e t => cases h
  | call c k ih =>
      cases t with
      | nil =>
          cases h
          exact .wait c k
      | cons e t =>
          obtain ⟨c', r⟩ := e
          simp only [Prog.check] at h
          split at h
          · subst c'
            exact .call r (ih r h)
          · cases h

end MuPlus.Interaction
