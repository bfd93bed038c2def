import Mathlib

/-!
# MuPlus.MathLib.Sqrt

**`sqrt32` and `sqrt64`** (`MsCorePkg/Library/MathLib/MathLib.c`): the integer square root by
the digit method. `bit` starts at the highest power of four the word holds and is lowered to
the highest one at most the input (`lowerBit`); the loop (`sqrtLoop`) then fixes one binary
digit of the root per power of four.

The two functions differ in their width and starting bit only, so both are `sqrtBits` over
`BitVec w`, whose arithmetic wraps as `UINT32` and `UINT64` do. The loop keeps
`res = y * 4 ^ j` and `num = input - y ^ 2 * 4 ^ j` for the root `y` of the digits fixed so
far (`sqrtLoop_spec`), from which the result is `Nat.sqrt input` and none of `res + bit`,
`bit << 1` and `num - (res + bit)` wraps (`LoopNoWrap`).
-/

namespace MuPlus.MathLib

variable {w : Nat}

theorem toNat_shiftRight_two_lt {bit : BitVec w} (h : bit ≠ 0) : (bit >>> 2).toNat < bit.toNat := by
  have hpos : 0 < bit.toNat := by
    rw [Nat.pos_iff_ne_zero]
    intro h0
    exact h (BitVec.eq_of_toNat_eq h0)
  rw [BitVec.toNat_ushiftRight, Nat.shiftRight_eq_div_pow]
  omega

/-- `while (bit > input) { bit >>= 2; }`. -/
def lowerBit (input bit : BitVec w) : BitVec w :=
  if h : input < bit then lowerBit input (bit >>> 2) else bit
termination_by bit.toNat
decreasing_by
  -- `bit > input`, so `bit` is not zero
  apply toNat_shiftRight_two_lt
  intro h0
  rw [h0, BitVec.lt_def] at h
  simp at h

/-- The digit loop: while `bit != 0`, subtract `res + bit` from `num` when it fits and add
`bit << 1` to `res`; then `res >>= 1` and `bit >>= 2`. The two branches are the two outcomes
of the `if`, each followed by the two shifts. -/
def sqrtLoop (num res bit : BitVec w) : BitVec w :=
  if h : bit = 0 then res
  else if res + bit ≤ num then
    sqrtLoop (num - (res + bit)) ((res + (bit <<< 1)) >>> 1) (bit >>> 2)
  else sqrtLoop num (res >>> 1) (bit >>> 2)
termination_by bit.toNat
decreasing_by
  all_goals exact toNat_shiftRight_two_lt h

/-- The body of `sqrt32` and `sqrt64` at the width of the word, from its starting `bit`. -/
def sqrtBits (input bit : BitVec w) : BitVec w :=
  sqrtLoop input 0 (lowerBit input bit)

/-- `sqrt32 (input)`. -/
def sqrt32 (input : UInt32) : UInt32 :=
  ⟨sqrtBits input.toBitVec (1 <<< 30)⟩

/-- `sqrt64 (input)`. -/
def sqrt64 (input : UInt64) : UInt64 :=
  ⟨sqrtBits input.toBitVec (1 <<< 62)⟩

/-- Every turn of the digit loop from this state computes `res + bit`, `bit << 1` and
`res + (bit << 1)` below the word size, so that none wraps; `num - (res + bit)` is computed
only under the test `res + bit <= num` of the unwrapped sum. -/
def LoopNoWrap (num res bit : BitVec w) : Prop :=
  if h : bit = 0 then True
  else
    res.toNat + bit.toNat < 2 ^ w ∧ bit.toNat * 2 < 2 ^ w ∧
      if res + bit ≤ num then
        res.toNat + 2 * bit.toNat < 2 ^ w ∧
          LoopNoWrap (num - (res + bit)) ((res + (bit <<< 1)) >>> 1) (bit >>> 2)
      else LoopNoWrap num (res >>> 1) (bit >>> 2)
termination_by bit.toNat
decreasing_by
  all_goals exact toNat_shiftRight_two_lt h

/-! ### Arithmetic of one digit -/

theorem four_pow_eq_sq (j : Nat) : 4 ^ j = (2 ^ j) ^ 2 := by
  rw [← pow_mul, show (4 : Nat) = 2 ^ 2 by norm_num, ← pow_mul, Nat.mul_comm]

/-- The partial sums of the loop stay below the word: with `y ^ 2 * 4 ^ (j + 1) ≤ n < 4 ^ K`,
the root so far, scaled, ends below `2 ^ K`, and is a multiple of `2 ^ (j + 1)`. -/
theorem digit_bound {y j K n : Nat} (hj : j + 1 ≤ K) (hy : y ^ 2 * 4 ^ (j + 1) ≤ n)
    (hn : n < 4 ^ K) : y * 4 ^ (j + 1) + 2 * 4 ^ j < 4 ^ K := by
  have hlt : y * 2 ^ (j + 1) < 2 ^ K := by
    have hsq : (y * 2 ^ (j + 1)) ^ 2 < (2 ^ K) ^ 2 := by
      calc (y * 2 ^ (j + 1)) ^ 2 = y ^ 2 * 4 ^ (j + 1) := by rw [four_pow_eq_sq]; ring
        _ ≤ n := hy
        _ < 4 ^ K := hn
        _ = (2 ^ K) ^ 2 := four_pow_eq_sq K
    exact lt_of_pow_lt_pow_left₀ 2 (Nat.zero_le _) hsq
  -- `2 ^ (j + 1)` divides `2 ^ K`, so the next multiple of it is still at most `2 ^ K`
  obtain ⟨c, hc⟩ := pow_dvd_pow 2 hj
  have hyc : y < c := by
    rw [hc, Nat.mul_comm] at hlt
    exact Nat.lt_of_mul_lt_mul_left hlt
  have hle : (y + 1) * 2 ^ (j + 1) ≤ 2 ^ K := by
    rw [hc, Nat.mul_comm]
    exact Nat.mul_le_mul_left _ hyc
  have hhalf : 2 * 4 ^ j < 4 ^ (j + 1) := by
    rw [pow_succ]
    have := Nat.pow_pos (n := j) (by norm_num : 0 < 4)
    omega
  calc y * 4 ^ (j + 1) + 2 * 4 ^ j < (y + 1) * 4 ^ (j + 1) := by linarith
    _ = ((y + 1) * 2 ^ (j + 1)) * 2 ^ (j + 1) := by rw [four_pow_eq_sq]; ring
    _ ≤ 2 ^ K * 2 ^ K := Nat.mul_le_mul hle (Nat.pow_le_pow_right (by norm_num) hj)
    _ = 4 ^ K := by rw [four_pow_eq_sq]; ring

/-! ### One turn of the loop -/

/-- The state of the digit loop before the turn at `bit = 4 ^ j / 4`: `y` is the root of the
digits fixed so far, scaled by `4 ^ j` in `res` and squared in what `num` has lost. -/
structure DigitInv (n j : Nat) (num res : BitVec w) (y : Nat) : Prop where
  num_add : num.toNat + y ^ 2 * 4 ^ j = n
  res_eq : res.toNat = y * 4 ^ j
  lt : n < (y + 1) ^ 2 * 4 ^ j

section Step

variable {n K j y : Nat} {num res bit : BitVec w}

theorem four_pow_succ (j : Nat) : 4 ^ (j + 1) = 4 * 4 ^ j := by
  ring

theorem word_eq (hw : w = 2 * K) : 2 ^ w = 4 ^ K := by
  rw [hw, pow_mul]
  norm_num

theorem ne_zero_of_toNat (hbit : bit.toNat = 4 ^ j) : bit ≠ 0 := by
  intro h0
  rw [h0] at hbit
  exact absurd hbit.symm (Nat.pos_iff_ne_zero.mp (Nat.pow_pos (by norm_num)))

/-- The sums of a turn at `bit = 4 ^ j`, which do not wrap. -/
theorem DigitInv.sums (hw : w = 2 * K) (hn : n < 4 ^ K) (hj : j + 1 ≤ K)
    (hinv : DigitInv n (j + 1) num res y) (hbit : bit.toNat = 4 ^ j) :
    (res + bit).toNat = y * 4 ^ (j + 1) + 4 ^ j ∧
      (res + (bit <<< 1)).toNat = y * 4 ^ (j + 1) + 2 * 4 ^ j ∧
      res.toNat + 2 * bit.toNat < 2 ^ w := by
  have hword := word_eq hw
  have hbound : y * 4 ^ (j + 1) + 2 * 4 ^ j < 4 ^ K :=
    digit_bound hj (by have := hinv.num_add; omega) hn
  have hdouble : (bit <<< 1).toNat = 2 * 4 ^ j := by
    rw [BitVec.toNat_shiftLeft, hbit, Nat.shiftLeft_eq, Nat.mod_eq_of_lt (by omega)]
    ring
  refine ⟨?_, ?_, ?_⟩
  · rw [BitVec.toNat_add, hinv.res_eq, hbit, Nat.mod_eq_of_lt (by omega)]
  · rw [BitVec.toNat_add, hinv.res_eq, hdouble, Nat.mod_eq_of_lt (by omega)]
  · rw [hinv.res_eq, hbit]
    omega

theorem sq_two_mul_add_one (y P : Nat) :
    (2 * y + 1) ^ 2 * P = y ^ 2 * (4 * P) + (y * (4 * P) + P) := by
  ring

/-- The loop's test `res + bit <= num` asks whether the next digit is one. -/
theorem DigitInv.le_iff (hw : w = 2 * K) (hn : n < 4 ^ K) (hj : j + 1 ≤ K)
    (hinv : DigitInv n (j + 1) num res y) (hbit : bit.toNat = 4 ^ j) :
    res + bit ≤ num ↔ (2 * y + 1) ^ 2 * 4 ^ j ≤ n := by
  have hsum := (hinv.sums hw hn hj hbit).1
  have hnum := hinv.num_add
  rw [four_pow_succ] at hsum hnum
  rw [BitVec.le_def, hsum, sq_two_mul_add_one]
  omega

/-- A digit one: `num` loses `res + bit` and `res` gains the digit. -/
theorem DigitInv.next_of_le (hw : w = 2 * K) (hn : n < 4 ^ K) (hj : j + 1 ≤ K)
    (hinv : DigitInv n (j + 1) num res y) (hbit : bit.toNat = 4 ^ j) (hle : res + bit ≤ num) :
    DigitInv n j (num - (res + bit)) ((res + (bit <<< 1)) >>> 1) (2 * y + 1) := by
  obtain ⟨hsum, hdouble, -⟩ := hinv.sums hw hn hj hbit
  have hle' := BitVec.le_def.mp hle
  have hnum := hinv.num_add
  have hlt := hinv.lt
  rw [four_pow_succ] at hsum hdouble hnum hlt
  refine ⟨?_, ?_, ?_⟩
  · rw [BitVec.toNat_sub_of_le hle, hsum, sq_two_mul_add_one]
    rw [hsum] at hle'
    omega
  · rw [BitVec.toNat_ushiftRight, Nat.shiftRight_eq_div_pow, hdouble,
      show (2 * y + 1) * 4 ^ j = 2 * (y * 4 ^ j) + 4 ^ j by ring,
      show y * (4 * 4 ^ j) = 2 * (2 * (y * 4 ^ j)) by ring]
    omega
  · rw [show (2 * y + 1 + 1) ^ 2 * 4 ^ j = (y + 1) ^ 2 * (4 * 4 ^ j) by ring]
    exact hlt

/-- A digit zero: `num` stays and `res` is halved. -/
theorem DigitInv.next_of_not_le (hw : w = 2 * K) (hn : n < 4 ^ K) (hj : j + 1 ≤ K)
    (hinv : DigitInv n (j + 1) num res y) (hbit : bit.toNat = 4 ^ j) (hle : ¬res + bit ≤ num) :
    DigitInv n j num (res >>> 1) (2 * y) := by
  have hdigit := mt (hinv.le_iff hw hn hj hbit).mpr hle
  have hnum := hinv.num_add
  have hres := hinv.res_eq
  refine ⟨?_, ?_, ?_⟩
  · rw [← hnum, four_pow_succ]
    ring
  · rw [BitVec.toNat_ushiftRight, Nat.shiftRight_eq_div_pow, hres, four_pow_succ,
      show y * (4 * 4 ^ j) = 2 * (2 * y * 4 ^ j) by ring]
    omega
  · omega

end Step

/-! ### The loops -/

section Loop

variable {input num res bit : BitVec w}

theorem lowerBit_of_lt (h : input < bit) : lowerBit input bit = lowerBit input (bit >>> 2) := by
  rw [lowerBit, dif_pos h]

theorem lowerBit_of_not_lt (h : ¬input < bit) : lowerBit input bit = bit := by
  rw [lowerBit, dif_neg h]

theorem sqrtLoop_of_zero (num res : BitVec w) : sqrtLoop num res 0 = res := by
  rw [sqrtLoop, dif_pos rfl]

theorem sqrtLoop_of_le (hne : bit ≠ 0) (hle : res + bit ≤ num) :
    sqrtLoop num res bit =
      sqrtLoop (num - (res + bit)) ((res + (bit <<< 1)) >>> 1) (bit >>> 2) := by
  rw [sqrtLoop, dif_neg hne, if_pos hle]

theorem sqrtLoop_of_not_le (hne : bit ≠ 0) (hle : ¬res + bit ≤ num) :
    sqrtLoop num res bit = sqrtLoop num (res >>> 1) (bit >>> 2) := by
  rw [sqrtLoop, dif_neg hne, if_neg hle]

theorem loopNoWrap_of_zero (num res : BitVec w) : LoopNoWrap num res 0 := by
  rw [LoopNoWrap, dif_pos rfl]
  trivial

theorem loopNoWrap_iff (hne : bit ≠ 0) :
    LoopNoWrap num res bit ↔
      res.toNat + bit.toNat < 2 ^ w ∧ bit.toNat * 2 < 2 ^ w ∧
        if res + bit ≤ num then
          res.toNat + 2 * bit.toNat < 2 ^ w ∧
            LoopNoWrap (num - (res + bit)) ((res + (bit <<< 1)) >>> 1) (bit >>> 2)
        else LoopNoWrap num (res >>> 1) (bit >>> 2) := by
  rw [LoopNoWrap, dif_neg hne]

theorem toNat_shiftRight_two_of_eq {j : Nat} (hbit : bit.toNat = 4 ^ j) :
    (bit >>> 2).toNat = 4 ^ j / 4 := by
  rw [BitVec.toNat_ushiftRight, Nat.shiftRight_eq_div_pow, hbit]

/-- **The digit loop** run from the state before the turn at `bit = 4 ^ j / 4` returns the
root of `n`, and none of its sums wraps. The induction is on `j`, one turn at a time. -/
theorem sqrtLoop_spec {n K : Nat} (hw : w = 2 * K) (hn : n < 4 ^ K) :
    ∀ j, j ≤ K → ∀ {num res bit : BitVec w} {y : Nat}, bit.toNat = 4 ^ j / 4 →
      DigitInv n j num res y →
      (sqrtLoop num res bit).toNat = Nat.sqrt n ∧ LoopNoWrap num res bit
  | 0, _, num, res, bit, y, hbit, hinv => by
      -- no turn is left: `res` is the root
      have hzero : bit = 0 := BitVec.eq_of_toNat_eq hbit
      subst hzero
      have hroot : y = Nat.sqrt n := by
        have hnum := hinv.num_add
        have hlt := hinv.lt
        rw [pow_zero, Nat.mul_one] at hnum hlt
        rw [Nat.eq_sqrt]
        constructor
        · rw [← pow_two]
          omega
        · rw [← pow_two]
          exact hlt
      refine ⟨?_, loopNoWrap_of_zero num res⟩
      rw [sqrtLoop_of_zero, hinv.res_eq, pow_zero, Nat.mul_one, hroot]
  | j + 1, hj, num, res, bit, y, hbit, hinv => by
      have hbit' : bit.toNat = 4 ^ j := by
        rw [hbit, four_pow_succ, Nat.mul_div_cancel_left _ (by norm_num)]
      have hne := ne_zero_of_toNat hbit'
      have hnext := toNat_shiftRight_two_of_eq hbit'
      obtain ⟨-, -, hsums⟩ := hinv.sums hw hn hj hbit'
      rw [loopNoWrap_iff hne]
      by_cases hle : res + bit ≤ num
      · -- a digit one
        obtain ⟨hroot, hwrap⟩ := sqrtLoop_spec hw hn j (by omega) hnext
          (hinv.next_of_le hw hn hj hbit' hle)
        rw [sqrtLoop_of_le hne hle, if_pos hle]
        exact ⟨hroot, by omega, by omega, hsums, hwrap⟩
      · -- a digit zero
        obtain ⟨hroot, hwrap⟩ := sqrtLoop_spec hw hn j (by omega) hnext
          (hinv.next_of_not_le hw hn hj hbit' hle)
        rw [sqrtLoop_of_not_le hne hle, if_neg hle]
        exact ⟨hroot, by omega, by omega, hwrap⟩

/-- `lowerBit` from `4 ^ k` above the input stops at the highest power of four at most the
input, or at zero for a zero input. -/
theorem lowerBit_spec (input : BitVec w) :
    ∀ k, ∀ {bit : BitVec w}, bit.toNat = 4 ^ k → input.toNat < 4 ^ (k + 1) →
      (input.toNat = 0 ∧ lowerBit input bit = 0) ∨
        ∃ j ≤ k, (lowerBit input bit).toNat = 4 ^ j ∧ 4 ^ j ≤ input.toNat ∧
          input.toNat < 4 ^ (j + 1)
  | k, bit, hbit, hinput => by
      by_cases hlt : input < bit
      · have hlt' := BitVec.lt_def.mp hlt
        have hnext := toNat_shiftRight_two_of_eq hbit
        rw [lowerBit_of_lt hlt]
        cases k with
        | zero =>
            -- `bit = 1 > input`: the input is zero, and `bit` shifts down to zero
            have hzero : bit >>> 2 = 0 := BitVec.eq_of_toNat_eq hnext
            have hinput0 : input.toNat = 0 := by
              rw [hbit, pow_zero] at hlt'
              omega
            have hstop : ¬input < 0 := by
              rw [BitVec.lt_def]
              simp
            left
            rw [hzero, lowerBit_of_not_lt hstop]
            exact ⟨hinput0, rfl⟩
        | succ k =>
            have hnext' : (bit >>> 2).toNat = 4 ^ k := by
              rw [hnext, four_pow_succ, Nat.mul_div_cancel_left _ (by norm_num)]
            rcases lowerBit_spec input k hnext' (by rw [← hbit]; exact hlt') with hzero | ⟨j, hj, hres⟩
            · exact Or.inl hzero
            · exact Or.inr ⟨j, by omega, hres⟩
      · rw [lowerBit_of_not_lt hlt]
        rw [BitVec.lt_def, hbit] at hlt
        exact Or.inr ⟨k, le_refl k, hbit, by omega, hinput⟩

/-- **`sqrtBits`** on a word of `2 * (k + 1)` bits from `bit = 4 ^ k` returns the integer
square root, and its loop never wraps. -/
theorem sqrtBits_spec {k : Nat} (hw : w = 2 * (k + 1)) (input : BitVec w) {bit : BitVec w}
    (hbit : bit.toNat = 4 ^ k) :
    (sqrtBits input bit).toNat = Nat.sqrt input.toNat ∧ LoopNoWrap input 0 (lowerBit input bit) := by
  have hinput : input.toNat < 4 ^ (k + 1) := by
    rw [← word_eq hw]
    exact input.isLt
  rcases lowerBit_spec input k hbit hinput with ⟨hzero, hlower⟩ | ⟨j, hj, hlower, hge, hlt⟩
  · -- a zero input skips the loop
    rw [sqrtBits, hlower, sqrtLoop_of_zero, hzero]
    exact ⟨rfl, loopNoWrap_of_zero input 0⟩
  · have hstart : (lowerBit input bit).toNat = 4 ^ (j + 1) / 4 := by
      rw [hlower, four_pow_succ, Nat.mul_div_cancel_left _ (by norm_num)]
    have hinv : DigitInv input.toNat (j + 1) input 0 0 := by
      refine ⟨?_, ?_, ?_⟩
      · simp
      · simp
      · rw [Nat.zero_add, one_pow, Nat.one_mul]
        exact hlt
    exact sqrtLoop_spec hw hinput (j + 1) (by omega) hstart hinv

end Loop

/-- **`sqrt32` and `sqrt64` return the integer square root** of every input, and no
`res + bit`, `bit << 1` or `num - (res + bit)` of their loops wraps. -/
theorem sqrt32_sqrt64_root :
    (∀ x : UInt32, (sqrt32 x).toNat * (sqrt32 x).toNat ≤ x.toNat ∧
        x.toNat < ((sqrt32 x).toNat + 1) * ((sqrt32 x).toNat + 1) ∧
        LoopNoWrap x.toBitVec 0 (lowerBit x.toBitVec (1 <<< 30))) ∧
      (∀ x : UInt64, (sqrt64 x).toNat * (sqrt64 x).toNat ≤ x.toNat ∧
        x.toNat < ((sqrt64 x).toNat + 1) * ((sqrt64 x).toNat + 1) ∧
        LoopNoWrap x.toBitVec 0 (lowerBit x.toBitVec (1 <<< 62))) := by
  constructor
  · intro x
    have hbit : ((1 : BitVec 32) <<< 30).toNat = 4 ^ 15 := by decide
    obtain ⟨hroot, hwrap⟩ := sqrtBits_spec (by norm_num) x.toBitVec hbit
    have hsqrt := Nat.eq_sqrt.mp hroot
    exact ⟨hsqrt.1, hsqrt.2, hwrap⟩
  · intro x
    have hbit : ((1 : BitVec 64) <<< 62).toNat = 4 ^ 31 := by decide
    obtain ⟨hroot, hwrap⟩ := sqrtBits_spec (by norm_num) x.toBitVec hbit
    have hsqrt := Nat.eq_sqrt.mp hroot
    exact ⟨hsqrt.1, hsqrt.2, hwrap⟩

end MuPlus.MathLib
