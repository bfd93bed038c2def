import Mathlib

/-!
# MuPlus.Lib.ExceptOk

**Successful `Except` computations.** A routine written in `Except ε` with `throw` for
each early exit succeeds exactly when every step before its `return` succeeds. The
rules below say so one combinator at a time, as `simp` rules: a successful run is then
peeled with `simp only [...] at h` and named with one `obtain` pattern, without
unfolding the routine's callees. An early exit skips the rest of the routine
(`throw_bind`), so a run that reaches a failing guard is that guard's error.
-/

namespace MuPlus.ExceptOk

variable {ε α β : Type}

@[simp] theorem bind_eq_ok_iff {x : Except ε α} {f : α → Except ε β} {b : β} :
    x >>= f = .ok b ↔ ∃ a, x = .ok a ∧ f a = .ok b := by
  cases x <;> simp [bind, Except.bind]

@[simp] theorem throw_eq_ok_iff {e : ε} {b : α} : (throw e : Except ε α) = .ok b ↔ False := by
  simp [throw, throwThe, MonadExceptOf.throw]

@[simp] theorem pure_eq_ok_iff {a b : α} : (pure a : Except ε α) = .ok b ↔ a = b := by
  simp [pure, Except.pure]

@[simp] theorem map_eq_ok_iff {x : Except ε α} {f : α → β} {b : β} :
    f <$> x = .ok b ↔ ∃ a, x = .ok a ∧ f a = b := by
  cases x <;> simp [Functor.map, Except.map]

@[simp] theorem ok_bind {a : α} {f : α → Except ε β} : (Except.ok a : Except ε α) >>= f = f a :=
  rfl

@[simp] theorem throw_bind {e : ε} {f : α → Except ε β} : (throw e : Except ε α) >>= f = throw e :=
  rfl

theorem throw_eq_error {e : ε} : (throw e : Except ε α) = .error e :=
  rfl

/-- A guard that throws: the run goes on only when the guard's condition is false. -/
theorem ite_throw_eq_ok_iff {p : Prop} [Decidable p] {e : ε} {x : Except ε α} {b : α} :
    (if p then throw e else x) = .ok b ↔ ¬p ∧ x = .ok b := by
  by_cases hp : p <;> simp [hp]

end MuPlus.ExceptOk
