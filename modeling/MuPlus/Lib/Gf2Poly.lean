import Mathlib

/-!
# MuPlus.Lib.Gf2Poly

**Polynomials over GF(2) as bit masks.** Bit `i` of a natural number is the
coefficient of `x ^ i` and addition is `xor`. `gf2Mod` reduces a polynomial
modulo a generator of degree `n` by long division, one leading coefficient at a
time, and `bchEncode` is the systematic encoding of a cyclic code (such as a
BCH code): the data bits shifted past `n` zero coefficients, followed by the
remainder of that polynomial by the generator.

`toPoly` reads a mask as a polynomial of `(ZMod 2)[X]`. It turns `xor` into addition
(`toPoly_xor`) and a doubling into a multiplication by `X` (`toPoly_two_mul`), which is what
relates the byte arithmetic of a finite field `GF(2^w)` to its quotient ring.
-/

namespace MuPlus.Gf2Poly

/-- Long division by the generator `g` of degree `n`: clear the coefficients of
`x ^ (n + k - 1)` down to `x ^ n` of `v`, subtracting a shifted `g` wherever one
is set. On `v < 2 ^ (n + k)` the result is the remainder of `v` by `g`. -/
def gf2Mod (g n : Nat) : Nat → Nat → Nat
  | 0, v => v
  | k + 1, v => gf2Mod g n k (if v.testBit (n + k) then v ^^^ (g <<< k) else v)

/-- The systematic codeword of `k` data bits in the cyclic code with generator
`g` of degree `n`: `data * x ^ n` plus its remainder by `g`. -/
def bchEncode (g n k data : Nat) : Nat :=
  data <<< n ||| gf2Mod g n k (data <<< n)

/-! ### Masks as polynomials -/

open Polynomial

/-- The polynomial over GF(2) of the low `w` bits of `n`: bit `i` is the coefficient of
`X ^ i`. -/
noncomputable def toPoly (w n : Nat) : (ZMod 2)[X] :=
  ∑ i ∈ Finset.range w, if n.testBit i then X ^ i else 0

/-- `xor` is addition of polynomials over GF(2). -/
theorem toPoly_xor (w x y : Nat) : toPoly w (x ^^^ y) = toPoly w x + toPoly w y := by
  rw [toPoly, toPoly, toPoly, ← Finset.sum_add_distrib]
  refine Finset.sum_congr rfl fun i _ => ?_
  rw [Nat.testBit_xor]
  cases x.testBit i <;> cases y.testBit i <;> simp [CharTwo.add_self_eq_zero]

theorem toPoly_succ (w n : Nat) :
    toPoly (w + 1) n = toPoly w n + if n.testBit w then X ^ w else 0 :=
  Finset.sum_range_succ _ _

/-- A mask below `2 ^ w` has no bit `w`. -/
theorem toPoly_succ_of_lt {w n : Nat} (h : n < 2 ^ w) : toPoly (w + 1) n = toPoly w n := by
  rw [toPoly_succ, Nat.testBit_eq_false_of_lt h, if_neg Bool.false_ne_true, add_zero]

/-- Doubling a mask shifts its polynomial by one degree. -/
theorem toPoly_two_mul (w n : Nat) : toPoly (w + 1) (2 * n) = X * toPoly w n := by
  rw [toPoly, Finset.sum_range_succ', toPoly, Finset.mul_sum]
  have hlow : (2 * n).testBit 0 = false := by
    rw [Nat.testBit_zero]
    simp
  rw [hlow, if_neg Bool.false_ne_true, add_zero]
  refine Finset.sum_congr rfl fun i _ => ?_
  rw [Nat.testBit_succ, Nat.mul_div_cancel_left n (by decide : 0 < 2), pow_succ']
  split_ifs <;> simp

@[simp] theorem toPoly_zero (w : Nat) : toPoly w 0 = 0 := by
  simp [toPoly]

/-- The mask `1` is the constant polynomial `1`. -/
theorem toPoly_one (w : Nat) : toPoly (w + 1) 1 = 1 := by
  induction w with
  | zero =>
    rw [toPoly_succ, toPoly, Finset.range_zero, Finset.sum_empty, if_pos (by decide), pow_zero,
      zero_add]
  | succ w ih => rw [toPoly_succ_of_lt (Nat.one_lt_two_pow (by omega)), ih]

/-- Coefficient `k` is bit `k` of the mask. -/
theorem coeff_toPoly (w n k : Nat) :
    (toPoly w n).coeff k = if k < w ∧ n.testBit k then 1 else 0 := by
  induction w with
  | zero => simp [toPoly]
  | succ w ih =>
    rw [toPoly_succ, coeff_add, ih]
    by_cases hk : k = w
    · subst hk
      cases n.testBit k <;> simp
    · have hkw : k < w + 1 ↔ k < w := by omega
      split_ifs <;> simp_all [coeff_X_pow]

end MuPlus.Gf2Poly
