import MuPlus.Qr.Interleave
import MuPlus.Lib.Gf2Poly
import MuPlus.Lib.PolyCoeffs

/-!
# MuPlus.Qr.ErrorCorrection

**Step 3 of the QR encoder, the error correction codewords** (`Step3_Process`,
`PolynomialDivision` in `QrEncoderLib/QrEncoderLib.c`, `InitializeLogTables` and
`gGeneratorPolynomials` in `QrEncoderTables.c`).

The field is GF(2^8) with the modulus `QR_modulo` = 285 = `x^8 + x^4 + x^3 + x^2 + 1`. A byte
is a polynomial of degree below 8 over GF(2); `InitializeLogTables` fills `alogTable[i]` with
`α^i`, `α` the class of `x`, and `logTable` with its inverse. `PolynomialDivision` divides the
data block, shifted by the number of error correction words `n`, by the generator polynomial of
ISO/IEC 18004 Annex A, stored as the exponents of its coefficients. It works in place, one
leading coefficient at a time: each step adds the generator, multiplied through the log tables,
under the entry it clears.

The standard's meaning is stated in the quotient ring `QrField` of `(ZMod 2)[X]` by the
modulus. `gf256` reads a byte as an element of it.

## Results

* `gf256_alogTable`: `alogTable[i]` is `α ^ i`, and the table multiplication is the field's;
* `generatorPolynomial_eq_prod`: each polynomial of `gGeneratorPolynomials` is
  `(X - α^0) ⋯ (X - α^(n-1))`;
* `polynomialDivision_dvd`: the data block followed by the words `PolynomialDivision` writes
  is a multiple of that generator: a Reed-Solomon codeword;
* `step3Process_spec`: for every row of `gQrTable`, Step 3 writes `ECWordsPerBlock` words per
  block, and each data block of ISO/IEC 18004 7.5.2 followed by its error correction block is
  such a codeword.
-/

namespace MuPlus.Qr

open Polynomial PolyCoeffs

/-! ### The tables -/

/-- `GF256_SIZE`. -/
def gf256Size : Nat := 256

/-- `QR_modulo`, `100011101` in binary. -/
def qrModulo : Nat := 285

/-- The log tables `InitializeLogTables` fills: `logTable` and `alogTable`, each
`GF256_SIZE` bytes. -/
structure GfTables where
  logTable : Nat → UInt8
  alogTable : Nat → UInt8

/-- The update of `b` in the loop of `InitializeLogTables`: `b <<= 1`, then
`b = b ^ QR_modulo` when bit 8 is set. -/
def nextPower (b : Nat) : Nat :=
  let b := b <<< 1
  if b &&& 256 ≠ 0 then b ^^^ qrModulo else b

/-- The loop of `InitializeLogTables` from `i` on, `b` the power of `α` it has reached:
`alogTable[i] = b`, `logTable[b] = i`, then `b` is multiplied by `α`. -/
def initializeLogTablesLoop : Nat → Nat → Nat → GfTables → GfTables
  | 0, _, _, tables => tables
  | remaining + 1, i, b, tables =>
    let tables := { alogTable := Function.update tables.alogTable i b.toUInt8
                    logTable := Function.update tables.logTable b i.toUInt8 }
    initializeLogTablesLoop remaining (i + 1) (nextPower b) tables

/-- `InitializeLogTables ()` on the zeroed global tables: the loop over the `GF256_SIZE`
entries, then `logTable[0] = logTable[1] = 0`. -/
def initializeLogTables : GfTables :=
  let tables := initializeLogTablesLoop gf256Size 0 1 ⟨fun _ => 0, fun _ => 0⟩
  { tables with logTable := Function.update (Function.update tables.logTable 0 0) 1 0 }

/-- `Code7` to `Code30`: the generator polynomials of ISO/IEC 18004 Table A.1, each as the
exponents of `α` of its coefficients, highest degree first. -/
def code7 : List UInt8 := [0, 87, 229, 146, 149, 238, 102, 21]

def code10 : List UInt8 := [0, 251, 67, 46, 61, 118, 70, 64, 94, 32, 45]

def code13 : List UInt8 := [0, 74, 152, 176, 100, 86, 100, 106, 104, 130, 218, 206, 140, 78]

def code15 : List UInt8 :=
  [0, 8, 183, 61, 91, 202, 37, 51, 58, 58, 237, 140, 124, 5, 99, 105]

def code16 : List UInt8 :=
  [0, 120, 104, 107, 109, 102, 161, 76, 3, 91, 191, 147, 169, 182, 194, 225, 120]

def code17 : List UInt8 :=
  [0, 43, 139, 206, 78, 43, 239, 123, 206, 214, 147, 24, 99, 150, 39, 243, 163, 136]

def code18 : List UInt8 :=
  [0, 215, 234, 158, 94, 184, 97, 118, 170, 79, 187, 152, 148, 252, 179, 5, 98, 96, 153]

def code20 : List UInt8 :=
  [0, 17, 60, 79, 50, 61, 163, 26, 187, 202, 180, 221, 225, 83, 239, 156, 164, 212, 212, 188,
    190]

def code22 : List UInt8 :=
  [0, 210, 171, 247, 242, 93, 230, 14, 109, 221, 53, 200, 74, 8, 172, 98, 80, 219, 134, 160,
    105, 165, 231]

def code24 : List UInt8 :=
  [0, 229, 121, 135, 48, 211, 117, 251, 126, 159, 180, 169, 152, 192, 226, 228, 218, 111, 0,
    117, 232, 87, 96, 227, 21]

def code26 : List UInt8 :=
  [0, 173, 125, 158, 2, 103, 182, 118, 17, 145, 201, 111, 28, 165, 53, 161, 21, 245, 142, 13,
    102, 48, 227, 153, 145, 218, 70]

def code28 : List UInt8 :=
  [0, 168, 223, 200, 104, 224, 234, 108, 180, 110, 190, 195, 147, 205, 27, 232, 201, 21, 43,
    245, 87, 42, 195, 212, 119, 242, 37, 9, 123]

def code30 : List UInt8 :=
  [0, 41, 173, 145, 152, 216, 31, 179, 182, 50, 48, 110, 86, 239, 96, 222, 125, 42, 173, 226,
    193, 224, 130, 156, 37, 251, 216, 238, 40, 192, 180]

/-- `gGeneratorPolynomials[RemainderCount]`: `none` for the `NULL` entries. -/
def gGeneratorPolynomials : Nat → Option (List UInt8)
  | 7 => some code7
  | 10 => some code10
  | 13 => some code13
  | 15 => some code15
  | 16 => some code16
  | 17 => some code17
  | 18 => some code18
  | 20 => some code20
  | 22 => some code22
  | 24 => some code24
  | 26 => some code26
  | 28 => some code28
  | 30 => some code30
  | _ => none

/-! ### `PolynomialDivision` and `Step3_Process` -/

section Division

variable (tables : GfTables)

/-- The inner loop of `PolynomialDivision` at `i`: for `j` from `i` to `i + RemainderCount`,
`TempRemainder[j] ^= alogTable[(stepMultiplier + Divisor[j - i]) % (GF256_SIZE - 1)]`. -/
def polynomialDivisionStep (divisor : List UInt8) (remainderCount i : Nat)
    (stepMultiplier : UInt8) (tempRemainder : List UInt8) : List UInt8 :=
  (List.range (remainderCount + 1)).foldl
    (fun t j => t.modify (i + j) (· ^^^ tables.alogTable
      ((stepMultiplier.toNat + (divisor.getD j 0).toNat) % (gf256Size - 1))))
    tempRemainder

/-- The outer loop of `PolynomialDivision` from `i` on: a zero leading entry is skipped, any
other is cleared by a step with `stepMultiplier = logTable[TempRemainder[i]]`. -/
def polynomialDivisionLoop (divisor : List UInt8) (remainderCount : Nat) :
    Nat → Nat → List UInt8 → List UInt8
  | _, 0, tempRemainder => tempRemainder
  | i, remaining + 1, tempRemainder =>
    let stepMultiplier := tables.logTable (tempRemainder.getD i 0).toNat
    if tempRemainder.getD i 0 = 0 then
      polynomialDivisionLoop divisor remainderCount (i + 1) remaining tempRemainder
    else
      polynomialDivisionLoop divisor remainderCount (i + 1) remaining
        (polynomialDivisionStep tables divisor remainderCount i stepMultiplier tempRemainder)

/-- `PolynomialDivision (DividendCount, Dividend, RemainderCount, Remainder)`: the
`RemainderCount` words it writes, `none` when the generator is `NULL` and it writes none. -/
def polynomialDivision (dividend : List UInt8) (remainderCount : Nat) : Option (List UInt8) :=
  match gGeneratorPolynomials remainderCount with
  | none => none
  | some divisor =>
    let tempRemainder := dividend ++ List.replicate remainderCount 0
    some ((polynomialDivisionLoop tables divisor remainderCount 0 dividend.length
      tempRemainder).drop dividend.length)

/-- One of the two loops of `Step3_Process`: `blockCount` blocks of `words` codewords from
`CodeWordIndex` on, each followed into `gECWords` by its `ECWordsPerBlock` words. -/
def step3Blocks (codeWords : List UInt8) (words ecWordsPerBlock : Nat) :
    Nat → Nat → Option (List UInt8)
  | 0, _ => some []
  | blockCount + 1, codeWordIndex => do
    let ecWords ← polynomialDivision tables ((codeWords.drop codeWordIndex).take words)
      ecWordsPerBlock
    let rest ← step3Blocks codeWords words ecWordsPerBlock blockCount (codeWordIndex + words)
    pure (ecWords ++ rest)

/-- `Step3_Process ()` for the row `gQrT` and the codewords `gCodeWords`, with `allocated` the
outcome of `AllocatePool`: the status and `gECWords`, `none` where a block's words were left
unwritten. -/
def step3Process (qrT : QrTableEntry) (codeWords : List UInt8) (allocated : Bool) :
    EfiStatus × Option (List UInt8) :=
  if !allocated then (.outOfResources, none)
  else
    (.success, do
      let group1 ← step3Blocks tables codeWords qrT.group1Words qrT.ecWordsPerBlock
        qrT.group1BlockCount 0
      let group2 ← step3Blocks tables codeWords qrT.group2Words qrT.ecWordsPerBlock
        qrT.group2BlockCount (qrT.group1BlockCount * qrT.group1Words)
      pure (group1 ++ group2))

end Division

/-! ### The field -/

/-- GF(2^8) of ISO/IEC 18004: `(ZMod 2)[X]` modulo the polynomial of `QR_modulo`. -/
abbrev QrField := AdjoinRoot (Gf2Poly.toPoly 9 qrModulo)

/-- `α`, the class of `X`. -/
noncomputable def qrAlpha : QrField := AdjoinRoot.root _

/-- A byte as an element of the field: bit `k` is the coefficient of `α ^ k`. -/
noncomputable def gf256 (b : UInt8) : QrField := AdjoinRoot.mk _ (Gf2Poly.toPoly 8 b.toNat)

/-- A polynomial the way `gGeneratorPolynomials` stores it: the exponents of `α` of its
coefficients. -/
noncomputable def gfExponents (l : List UInt8) : List QrField := l.map fun e => qrAlpha ^ e.toNat

@[simp] theorem gf256_zero : gf256 0 = 0 := by
  rw [gf256, UInt8.toNat_zero, Gf2Poly.toPoly_zero, map_zero]

@[simp] theorem gf256_one : gf256 1 = 1 := by
  rw [gf256, UInt8.toNat_one, Gf2Poly.toPoly_one, map_one]

/-- `^` on bytes is the field's addition. -/
theorem gf256_xor (a b : UInt8) : gf256 (a ^^^ b) = gf256 a + gf256 b := by
  rw [gf256, gf256, gf256, UInt8.toNat_xor, Gf2Poly.toPoly_xor, map_add]

/-! ### `InitializeLogTables` computes the powers of `α` -/

/-- `nextPower` on the bytes: a doubling, reduced by `QR_modulo` from bit 7 on. -/
private theorem nextPower_bytes : ∀ b < 256,
    nextPower b = 2 * b ^^^ (if 128 ≤ b then qrModulo else 0) ∧ nextPower b < 256 := by
  decide +kernel

theorem nextPower_lt {b : Nat} (hb : b < 256) : nextPower b < 256 := (nextPower_bytes b hb).2

/-- **The update of `b` multiplies it by `α`.** -/
theorem mk_toPoly_nextPower {b : Nat} (hb : b < 256) :
    AdjoinRoot.mk _ (Gf2Poly.toPoly 8 (nextPower b)) =
      qrAlpha * AdjoinRoot.mk _ (Gf2Poly.toPoly 8 b) := by
  have hlt : nextPower b < 2 ^ 8 := nextPower_lt hb
  -- bit 8 of the doubled `b` is the modulus' leading term, and the modulus vanishes
  have hmod : AdjoinRoot.mk (Gf2Poly.toPoly 9 qrModulo)
      (Gf2Poly.toPoly 9 (if 128 ≤ b then qrModulo else 0)) = 0 := by
    split_ifs
    · exact AdjoinRoot.mk_self
    · rw [Gf2Poly.toPoly_zero, map_zero]
  rw [← Gf2Poly.toPoly_succ_of_lt hlt, (nextPower_bytes b hb).1, Gf2Poly.toPoly_xor,
    Gf2Poly.toPoly_two_mul, map_add, map_mul, AdjoinRoot.mk_X, hmod, add_zero]
  rfl

theorem iterate_nextPower_lt (k : Nat) : nextPower^[k] 1 < 256 := by
  induction k with
  | zero => decide
  | succ k ih => rw [Function.iterate_succ_apply']; exact nextPower_lt ih

theorem mk_toPoly_iterate_nextPower (k : Nat) :
    AdjoinRoot.mk _ (Gf2Poly.toPoly 8 (nextPower^[k] 1)) = qrAlpha ^ k := by
  induction k with
  | zero => rw [Function.iterate_zero_apply, Gf2Poly.toPoly_one, map_one, pow_zero]
  | succ k ih =>
    rw [Function.iterate_succ_apply', mk_toPoly_nextPower (iterate_nextPower_lt k), ih, pow_succ']

/-- **Run of the loop of `InitializeLogTables`**: pass `k` writes `alogTable[i + k]`, the
`k`-th update of `b`, and the entries outside the passes keep their values. -/
theorem alogTable_initializeLogTablesLoop (remaining i b : Nat) (tables : GfTables) (k : Nat) :
    (initializeLogTablesLoop remaining i b tables).alogTable k =
      if i ≤ k ∧ k < i + remaining then (nextPower^[k - i] b).toUInt8
      else tables.alogTable k := by
  induction remaining generalizing i b tables with
  | zero => rw [initializeLogTablesLoop, if_neg (by omega)]
  | succ r ih =>
    rw [initializeLogTablesLoop, ih]
    dsimp only
    by_cases hk : k = i
    · subst hk
      rw [if_neg (by omega), Function.update_self, if_pos ⟨le_rfl, by omega⟩, Nat.sub_self,
        Function.iterate_zero_apply]
    · rw [Function.update_of_ne hk]
      by_cases hpass : i + 1 ≤ k ∧ k < i + 1 + r
      · rw [if_pos hpass, if_pos (by omega), show k - i = k - (i + 1) + 1 by omega,
          Function.iterate_succ_apply]
      · rw [if_neg hpass, if_neg (by omega)]

theorem alogTable_eq_iterate {k : Nat} (hk : k < 256) :
    initializeLogTables.alogTable k = (nextPower^[k] 1).toUInt8 := by
  rw [initializeLogTables]
  dsimp only
  rw [alogTable_initializeLogTablesLoop, if_pos ⟨Nat.zero_le k, hk⟩, Nat.sub_zero]

/-- **`alogTable[k]` is `α ^ k`.** -/
theorem gf256_alogTable {k : Nat} (hk : k < 256) :
    gf256 (initializeLogTables.alogTable k) = qrAlpha ^ k := by
  rw [gf256, alogTable_eq_iterate hk, UInt8.toNat_ofNat_of_lt' (iterate_nextPower_lt k),
    mk_toPoly_iterate_nextPower]

theorem qrAlpha_pow_255 : qrAlpha ^ 255 = 1 := by
  have halog : initializeLogTables.alogTable 255 = 1 := by
    rw [alogTable_eq_iterate (by decide)]
    decide +kernel
  rw [← gf256_alogTable (by decide), halog, gf256_one]

theorem qrAlpha_pow_mod (n : Nat) : qrAlpha ^ (n % 255) = qrAlpha ^ n := by
  conv_rhs => rw [← Nat.mod_add_div n 255, pow_add, pow_mul, qrAlpha_pow_255, one_pow, mul_one]

/-- `logTable` inverts `alogTable` on the nonzero bytes, into `0 .. 254`. -/
private theorem logTable_bytes : ∀ c < 256, c ≠ 0 →
    initializeLogTables.alogTable (initializeLogTables.logTable c).toNat = c.toUInt8 ∧
      (initializeLogTables.logTable c).toNat < 255 := by
  decide +kernel

/-- `logTable` inverts `alogTable` on the exponents `0 .. 254`. -/
theorem logTable_alogTable : ∀ k < 255,
    (initializeLogTables.logTable (initializeLogTables.alogTable k).toNat).toNat = k := by
  decide +kernel

theorem logTable_lt {c : UInt8} (hc : c ≠ 0) :
    (initializeLogTables.logTable c.toNat).toNat < 255 :=
  (logTable_bytes c.toNat c.toNat_lt (by simpa [← UInt8.toNat_inj] using hc)).2

theorem alogTable_logTable {c : UInt8} (hc : c ≠ 0) :
    initializeLogTables.alogTable (initializeLogTables.logTable c.toNat).toNat = c := by
  rw [(logTable_bytes c.toNat c.toNat_lt (by simpa [← UInt8.toNat_inj] using hc)).1]
  exact UInt8.ofNat_toNat

/-- **A nonzero byte is `α ^ logTable[c]`.** -/
theorem gf256_eq_pow_logTable {c : UInt8} (hc : c ≠ 0) :
    gf256 c = qrAlpha ^ (initializeLogTables.logTable c.toNat).toNat := by
  rw [← gf256_alogTable (by have := logTable_lt hc; omega), alogTable_logTable hc]

/-- **The table multiplication of `PolynomialDivision`** is the field's:
`alogTable[(e + k) % 255] = α ^ e * α ^ k`. -/
theorem gf256_alogTable_mod (e k : Nat) :
    gf256 (initializeLogTables.alogTable ((e + k) % 255)) = qrAlpha ^ e * qrAlpha ^ k := by
  rw [gf256_alogTable (by have := Nat.mod_lt (e + k) (by decide : 0 < 255); omega),
    qrAlpha_pow_mod, pow_add]

/-! ### A step of `PolynomialDivision` is a step of synthetic division -/

section Steps

variable {divisor : List UInt8} {remainderCount : Nat}

theorem length_polynomialDivisionStep (tables : GfTables) (i : Nat) (stepMultiplier : UInt8)
    (t : List UInt8) :
    (polynomialDivisionStep tables divisor remainderCount i stepMultiplier t).length =
      t.length :=
  length_foldl_modify _ i t _

/-- The words before `i` are left as they are. -/
theorem getD_polynomialDivisionStep_of_lt (tables : GfTables) {p i : Nat} (hp : p < i)
    (stepMultiplier : UInt8) (t : List UInt8) :
    (polynomialDivisionStep tables divisor remainderCount i stepMultiplier t).getD p 0 =
      t.getD p 0 := by
  rw [polynomialDivisionStep, getD_foldl_modify, if_neg (by omega)]

/-- The step clears the leading word: `Divisor[0] = 0` makes its first product the word
itself. -/
theorem getD_polynomialDivisionStep_self (hhead : divisor.getD 0 0 = 0) {i : Nat}
    {t : List UInt8} (hi : i < t.length) (hc : t.getD i 0 ≠ 0) :
    (polynomialDivisionStep initializeLogTables divisor remainderCount i
      (initializeLogTables.logTable (t.getD i 0).toNat) t).getD i 0 = 0 := by
  rw [polynomialDivisionStep, getD_foldl_modify, if_pos ⟨le_rfl, by omega, hi⟩, Nat.sub_self,
    hhead]
  rw [UInt8.toNat_zero, Nat.add_zero, show gf256Size - 1 = 255 from rfl,
    Nat.mod_eq_of_lt (logTable_lt hc), alogTable_logTable hc, UInt8.xor_self]

theorem getD_gfExponents {l : List UInt8} {j : Nat} (hj : j < l.length) :
    (gfExponents l).getD j 0 = qrAlpha ^ (l.getD j 0).toNat := by
  rw [gfExponents, List.getD_eq_getElem?_getD, List.getElem?_map, List.getElem?_eq_getElem hj,
    Option.map_some, Option.getD_some, List.getD_eq_getElem _ _ hj]

/-- **A step of `PolynomialDivision` in the field**: for a nonzero leading word `c`, it adds
`c` times the divisor to the words from `i` on. -/
theorem map_polynomialDivisionStep (hlen : divisor.length = remainderCount + 1) {c : UInt8}
    (hc : c ≠ 0) (i : Nat) (t : List UInt8) :
    (polynomialDivisionStep initializeLogTables divisor remainderCount i
      (initializeLogTables.logTable c.toNat) t).map gf256 =
      addShifted (gfExponents divisor) (gf256 c) i (t.map gf256) := by
  rw [polynomialDivisionStep, addShifted, gfExponents, List.length_map, hlen]
  refine map_foldl_modify gf256 i _ (fun j hj x => ?_) t
  have hj' : j < divisor.length := by rw [hlen]; exact List.mem_range.mp hj
  rw [gf256_xor, show gf256Size - 1 = 255 from rfl, gf256_alogTable_mod,
    ← gf256_eq_pow_logTable hc, ← gfExponents, getD_gfExponents hj']

end Steps

/-! ### The loop of `PolynomialDivision` keeps the class modulo the divisor -/

section Loop

variable {divisor : List UInt8} {remainderCount : Nat}

/-- What the outer loop of `PolynomialDivision` keeps up to `i`, for the words `t₀` it started
from: the length, the leading words it cleared, and the class of the polynomial modulo the
divisor. -/
structure DivisionInv (divisor t₀ : List UInt8) (i : Nat) (t : List UInt8) : Prop where
  length_eq : t.length = t₀.length
  leading_zero : ∀ p < i, t.getD p 0 = 0
  dvd_sub : ofCoeffs (gfExponents divisor) ∣ ofCoeffs (t.map gf256) - ofCoeffs (t₀.map gf256)

theorem DivisionInv.init (t₀ : List UInt8) : DivisionInv divisor t₀ 0 t₀ :=
  ⟨rfl, fun _ hp => absurd hp (Nat.not_lt_zero _), by rw [sub_self]; exact dvd_zero _⟩

/-- **Step lemma**: one pass of the outer loop, at `i`, keeps the invariant up to `i + 1`. -/
theorem DivisionInv.step (hlen : divisor.length = remainderCount + 1)
    (hhead : divisor.getD 0 0 = 0) {t₀ t : List UInt8} {i : Nat}
    (hinv : DivisionInv divisor t₀ i t) (hi : i + remainderCount < t₀.length) :
    DivisionInv divisor t₀ (i + 1)
      (if t.getD i 0 = 0 then t
       else polynomialDivisionStep initializeLogTables divisor remainderCount i
         (initializeLogTables.logTable (t.getD i 0).toNat) t) := by
  split_ifs with hc
  · -- a zero leading word is skipped
    refine ⟨hinv.length_eq, fun p hp => ?_, hinv.dvd_sub⟩
    rcases Nat.lt_succ_iff_lt_or_eq.mp hp with hp | rfl
    · exact hinv.leading_zero p hp
    · exact hc
  · have hti : i < t.length := by rw [hinv.length_eq]; omega
    refine ⟨by rw [length_polynomialDivisionStep, hinv.length_eq], fun p hp => ?_, ?_⟩
    · rcases Nat.lt_succ_iff_lt_or_eq.mp hp with hp | rfl
      · rw [getD_polynomialDivisionStep_of_lt _ hp, hinv.leading_zero p hp]
      · exact getD_polynomialDivisionStep_self hhead hti hc
    · -- the step adds a multiple of the divisor
      have hfit : i + (gfExponents divisor).length ≤ (t.map gf256).length := by
        rw [gfExponents, List.length_map, List.length_map, hlen, hinv.length_eq]; omega
      rw [map_polynomialDivisionStep hlen hc, ofCoeffs_addShifted _ _ hfit, add_sub_right_comm]
      exact dvd_add hinv.dvd_sub (Dvd.intro_left _ rfl)

/-- **Run lemma**: the loop from `i`, for `remaining` passes, keeps the invariant up to
`i + remaining`. -/
theorem DivisionInv.loop (hlen : divisor.length = remainderCount + 1)
    (hhead : divisor.getD 0 0 = 0) {t₀ : List UInt8} (remaining : Nat) :
    ∀ {i : Nat} {t : List UInt8}, DivisionInv divisor t₀ i t →
      i + remaining + remainderCount ≤ t₀.length →
      DivisionInv divisor t₀ (i + remaining)
        (polynomialDivisionLoop initializeLogTables divisor remainderCount i remaining t) := by
  induction remaining with
  | zero => intro i t hinv _; exact hinv
  | succ r ih =>
    intro i t hinv hrun
    have hstep := hinv.step hlen hhead (by omega)
    rw [polynomialDivisionLoop, show i + (r + 1) = i + 1 + r by omega]
    split_ifs at hstep ⊢ <;> exact ih hstep (by omega)

end Loop

/-! ### `PolynomialDivision` -/

/-- The divisors of `gGeneratorPolynomials`: `RemainderCount + 1` exponents, the first `0`
(a monic polynomial). -/
theorem gGeneratorPolynomials_shape {n : Nat} {divisor : List UInt8}
    (h : gGeneratorPolynomials n = some divisor) :
    divisor.length = n + 1 ∧ divisor.getD 0 0 = 0 := by
  unfold gGeneratorPolynomials at h
  split at h <;> cases h <;> decide

/-- **`PolynomialDivision` writes a remainder by the divisor**: `RemainderCount` words that,
after the data block, make a multiple of the divisor. -/
theorem polynomialDivision_dvd_divisor {dividend rem divisor : List UInt8} {n : Nat}
    (hdiv : gGeneratorPolynomials n = some divisor)
    (h : polynomialDivision initializeLogTables dividend n = some rem) :
    rem.length = n ∧ ofCoeffs (gfExponents divisor) ∣ ofCoeffs ((dividend ++ rem).map gf256) := by
  obtain ⟨hlen, hhead⟩ := gGeneratorPolynomials_shape hdiv
  rw [polynomialDivision, hdiv] at h
  set t₀ := dividend ++ List.replicate n 0 with ht₀
  set r := polynomialDivisionLoop initializeLogTables divisor n 0 dividend.length t₀
  have hinv : DivisionInv divisor t₀ dividend.length r := by
    simpa using DivisionInv.loop hlen hhead dividend.length (DivisionInv.init t₀)
      (by rw [ht₀, List.length_append, List.length_replicate]; omega)
  have hrem : r.drop dividend.length = rem := Option.some.inj h
  have hr_len : r.length = dividend.length + n := by
    rw [hinv.length_eq, ht₀, List.length_append, List.length_replicate]
  have hrem_len : rem.length = n := by rw [← hrem, List.length_drop, hr_len]; omega
  -- the loop cleared the data words: what is left is the remainder's polynomial
  have hr : ofCoeffs (r.map gf256) = ofCoeffs (rem.map gf256) := by
    rw [← List.take_append_drop dividend.length r,
      take_eq_replicate (by omega) hinv.leading_zero, hrem, List.map_append,
      List.map_replicate, gf256_zero, ofCoeffs_replicate_zero_append]
  have ht : ofCoeffs (t₀.map gf256) = ofCoeffs (dividend.map gf256) * X ^ n := by
    rw [ht₀, List.map_append, List.map_replicate, gf256_zero, ofCoeffs_append,
      ofCoeffs_replicate_zero, add_zero, List.length_replicate]
  refine ⟨hrem_len, ?_⟩
  have hdvd := hinv.dvd_sub
  rw [hr, ht, ZModModule.sub_eq_add, add_comm] at hdvd
  rwa [List.map_append, ofCoeffs_append, List.length_map, hrem_len]

/-! ### The generator polynomials

ISO/IEC 18004 Annex A builds the generator polynomial of degree `n` as the product of the
`X - α ^ i`, `i < n`. `generatorBytes` computes that product in bytes, with the multiplication
of the log tables; `gGeneratorPolynomials` is checked against it, and the product is read in
the field by `ofCoeffs_generatorBytes`. -/

/-- The multiplication through the log tables, `alogTable[(logTable[a] + logTable[b]) % 255]`,
zero when a factor is zero. -/
def gfMul (a b : UInt8) : UInt8 :=
  if a = 0 ∨ b = 0 then 0
  else initializeLogTables.alogTable (((initializeLogTables.logTable a.toNat).toNat +
    (initializeLogTables.logTable b.toNat).toNat) % 255)

/-- `p * (X + a)`, coefficients highest degree first. -/
def mulLinear (p : List UInt8) (a : UInt8) : List UInt8 :=
  List.zipWith (· ^^^ ·) (p ++ [0]) (0 :: p.map (gfMul a))

/-- `(X + α ^ 0) ⋯ (X + α ^ (n - 1))` in bytes. -/
def generatorBytes (n : Nat) : List UInt8 :=
  (List.range n).foldl (fun p i => mulLinear p (initializeLogTables.alogTable i)) [1]

/-- The generator polynomial of degree `n` of ISO/IEC 18004 Annex A. -/
noncomputable def rsGenerator (n : Nat) : QrField[X] :=
  ∏ i ∈ Finset.range n, (X - C (qrAlpha ^ i))

theorem gf256_gfMul (a b : UInt8) : gf256 (gfMul a b) = gf256 a * gf256 b := by
  rw [gfMul]
  split_ifs with h
  · rcases h with rfl | rfl <;> simp
  · push Not at h
    rw [gf256_alogTable_mod, ← gf256_eq_pow_logTable h.1, ← gf256_eq_pow_logTable h.2]

theorem ofCoeffs_mulLinear (p : List UInt8) (a : UInt8) :
    ofCoeffs ((mulLinear p a).map gf256) = ofCoeffs (p.map gf256) * (X + C (gf256 a)) := by
  have hlen : ((p ++ [0]).map gf256).length = ((0 :: p.map (gfMul a)).map gf256).length := by
    simp
  have hshift : (0 :: p.map (gfMul a)).map gf256 = 0 :: (p.map gf256).map (gf256 a * ·) := by
    simp [Function.comp_def, gf256_gfMul]
  rw [mulLinear, List.map_zipWith, show (fun x y => gf256 (x ^^^ y)) =
      (fun x y => gf256 x + gf256 y) from funext₂ gf256_xor, ← List.zipWith_map,
    ofCoeffs_zipWith_add hlen, hshift, ofCoeffs_cons_zero, ofCoeffs_map_mul, List.map_append,
    ofCoeffs_append]
  simp only [List.map_cons, List.map_nil, gf256_zero, ofCoeffs_cons, ofCoeffs_nil,
    List.length_nil, pow_zero, map_zero, zero_mul, add_zero, List.length_singleton, pow_one]
  ring

theorem generatorBytes_succ (n : Nat) :
    generatorBytes (n + 1) = mulLinear (generatorBytes n) (initializeLogTables.alogTable n) := by
  rw [generatorBytes, List.range_succ, List.foldl_append]
  rfl

/-- **`generatorBytes n` is the generator polynomial of degree `n`.** -/
theorem ofCoeffs_generatorBytes {n : Nat} (hn : n ≤ 256) :
    ofCoeffs ((generatorBytes n).map gf256) = rsGenerator n := by
  induction n with
  | zero => simp [generatorBytes, rsGenerator, ofCoeffs_cons]
  | succ n ih =>
    rw [generatorBytes_succ, ofCoeffs_mulLinear, ih (by omega), gf256_alogTable (by omega),
      ← ZModModule.sub_eq_add, rsGenerator, rsGenerator, Finset.prod_range_succ]

/-- The entries of `gGeneratorPolynomials` are the exponents of the products `generatorBytes`
computes. -/
private theorem gGeneratorPolynomials_bytes : ∀ n < 31,
    (gGeneratorPolynomials n).all
      (fun divisor => generatorBytes n == divisor.map (initializeLogTables.alogTable ·.toNat)) := by
  decide +kernel

theorem lt_of_gGeneratorPolynomials {n : Nat} {divisor : List UInt8}
    (h : gGeneratorPolynomials n = some divisor) : n < 31 := by
  unfold gGeneratorPolynomials at h
  split at h <;> first | decide | cases h

/-- **`gGeneratorPolynomials` holds the generator polynomials of ISO/IEC 18004 Annex A**, as
the exponents of their coefficients. -/
theorem ofCoeffs_gGeneratorPolynomials {n : Nat} {divisor : List UInt8}
    (h : gGeneratorPolynomials n = some divisor) :
    ofCoeffs (gfExponents divisor) = rsGenerator n := by
  have hn := lt_of_gGeneratorPolynomials h
  have hbytes : generatorBytes n = divisor.map (initializeLogTables.alogTable ·.toNat) := by
    simpa [h] using gGeneratorPolynomials_bytes n hn
  rw [← ofCoeffs_generatorBytes (by omega), hbytes, List.map_map, gfExponents]
  exact congrArg ofCoeffs (List.map_congr_left fun e _ => (gf256_alogTable e.toNat_lt).symm)

/-- The modulus has degree 8, so the quotient is not the zero ring. -/
instance qrField_nontrivial : Nontrivial QrField :=
  AdjoinRoot.nontrivial _ fun h => by
    have h8 := congrArg (coeff · 8) (eq_C_of_degree_eq_zero h)
    simp +decide [Gf2Poly.coeff_toPoly, qrModulo, coeff_one] at h8

theorem rsGenerator_monic (n : Nat) : (rsGenerator n).Monic :=
  monic_prod_of_monic _ _ fun _ _ => monic_X_sub_C _

theorem degree_rsGenerator (n : Nat) : (rsGenerator n).degree = n := by
  rw [degree_eq_natDegree (rsGenerator_monic n).ne_zero, rsGenerator,
    natDegree_prod_of_monic _ _ fun _ _ => monic_X_sub_C _,
    Finset.sum_congr rfl fun i _ => natDegree_X_sub_C (qrAlpha ^ i)]
  simp

/-- **`PolynomialDivision` divides by the generator polynomial**: the data block followed by
the words it writes is a multiple of the generator, a Reed-Solomon codeword. -/
theorem polynomialDivision_dvd {dividend rem : List UInt8} {n : Nat}
    (h : polynomialDivision initializeLogTables dividend n = some rem) :
    rem.length = n ∧ rsGenerator n ∣ ofCoeffs ((dividend ++ rem).map gf256) := by
  cases hdiv : gGeneratorPolynomials n with
  | none => rw [polynomialDivision, hdiv] at h; cases h
  | some divisor =>
    rw [← ofCoeffs_gGeneratorPolynomials hdiv]
    exact polynomialDivision_dvd_divisor hdiv h

/-- **`PolynomialDivision` computes the error correction words of ISO/IEC 18004 7.5.2**: the
coefficients of the remainder of the data polynomial times `X ^ n` by the generator. -/
theorem polynomialDivision_eq_modByMonic {dividend rem : List UInt8} {n : Nat}
    (h : polynomialDivision initializeLogTables dividend n = some rem) :
    rem.length = n ∧ ofCoeffs (rem.map gf256) =
      (ofCoeffs (dividend.map gf256) * X ^ n) %ₘ rsGenerator n := by
  obtain ⟨hlen, q, hq⟩ := polynomialDivision_dvd h
  rw [List.map_append, ofCoeffs_append, List.length_map, hlen] at hq
  -- over GF(2^8), `D * X ^ n + R = G * q` is `D * X ^ n = R + G * q`
  have hdiv : ofCoeffs (rem.map gf256) + rsGenerator n * q =
      ofCoeffs (dividend.map gf256) * X ^ n := by
    rw [← hq, add_comm, add_assoc, ZModModule.add_self, add_zero]
  have hdeg : (ofCoeffs (rem.map gf256)).degree < (rsGenerator n).degree := by
    have := degree_ofCoeffs_lt (rem.map gf256)
    rwa [List.length_map, hlen, ← degree_rsGenerator n] at this
  exact ⟨hlen, ((div_modByMonic_unique q _ (rsGenerator_monic n) ⟨hdiv, hdeg⟩).2).symm⟩

/-- `PolynomialDivision` writes its words whenever the generator is in the table. -/
theorem polynomialDivision_isSome (tables : GfTables) {n : Nat}
    (hgen : (gGeneratorPolynomials n).isSome) (dividend : List UInt8) :
    (polynomialDivision tables dividend n).isSome := by
  obtain ⟨divisor, hdiv⟩ := Option.isSome_iff_exists.mp hgen
  rw [polynomialDivision, hdiv]
  rfl

/-! ### `Step3_Process` -/

/-- **Run of a loop of `Step3_Process`**: the block `b` of `words` codewords from
`CodeWordIndex` has its `ECWordsPerBlock` error correction words at `b * ECWordsPerBlock`. -/
theorem step3Blocks_spec {ecWordsPerBlock : Nat}
    (hgen : (gGeneratorPolynomials ecWordsPerBlock).isSome) (codeWords : List UInt8)
    (words : Nat) (blockCount : Nat) :
    ∀ codeWordIndex, ∃ out,
      step3Blocks initializeLogTables codeWords words ecWordsPerBlock blockCount codeWordIndex =
        some out ∧
      out.length = ecWordsPerBlock * blockCount ∧
      ∀ b < blockCount, polynomialDivision initializeLogTables
          ((codeWords.drop (codeWordIndex + b * words)).take words) ecWordsPerBlock =
        some ((out.drop (b * ecWordsPerBlock)).take ecWordsPerBlock) := by
  induction blockCount with
  | zero => intro _; exact ⟨[], rfl, rfl, fun b hb => absurd hb (Nat.not_lt_zero b)⟩
  | succ k ih =>
    intro codeWordIndex
    obtain ⟨e, he⟩ := Option.isSome_iff_exists.mp
      (polynomialDivision_isSome initializeLogTables hgen ((codeWords.drop codeWordIndex).take words))
    have helen := (polynomialDivision_dvd he).1
    obtain ⟨rest, hrest, hrest_len, hrest_blocks⟩ := ih (codeWordIndex + words)
    refine ⟨e ++ rest, by rw [step3Blocks, he, hrest]; rfl,
      by rw [List.length_append, helen, hrest_len, Nat.mul_succ, Nat.add_comm], fun b hb => ?_⟩
    rcases b with _ | b
    · rw [Nat.zero_mul, Nat.add_zero, he, Nat.zero_mul, List.drop_zero, List.take_left' helen]
    · -- the later blocks are those of the rest, one block on
      rw [show codeWordIndex + (b + 1) * words = codeWordIndex + words + b * words by ring,
        hrest_blocks b (by omega),
        show (b + 1) * ecWordsPerBlock = e.length + b * ecWordsPerBlock by rw [helen]; ring,
        List.drop_length_add_append]

/-- Every row of `gQrTable` has its generator polynomial in `gGeneratorPolynomials`. -/
theorem gQrTable_generator : ∀ qrT ∈ gQrTable, (gGeneratorPolynomials qrT.ecWordsPerBlock).isSome := by
  decide +kernel

/-- Block `i` of `Step3_Process`'s output is the division of data block `i`. -/
theorem polynomialDivision_dataBlock {qrT : QrTableEntry} {codeWords g1 g2 : List UInt8}
    (hg1_len : g1.length = qrT.ecWordsPerBlock * qrT.group1BlockCount)
    (hg1 : ∀ b < qrT.group1BlockCount, polynomialDivision initializeLogTables
        ((codeWords.drop (0 + b * qrT.group1Words)).take qrT.group1Words) qrT.ecWordsPerBlock =
      some ((g1.drop (b * qrT.ecWordsPerBlock)).take qrT.ecWordsPerBlock))
    (hg2 : ∀ b < qrT.group2BlockCount, polynomialDivision initializeLogTables
        ((codeWords.drop (qrT.group1BlockCount * qrT.group1Words + b * qrT.group2Words)).take
          qrT.group2Words) qrT.ecWordsPerBlock =
      some ((g2.drop (b * qrT.ecWordsPerBlock)).take qrT.ecWordsPerBlock))
    {i : Nat} (hi : i < qrT.blocks) :
    polynomialDivision initializeLogTables (dataBlock qrT codeWords i) qrT.ecWordsPerBlock =
      some (ecBlock qrT (g1 ++ g2) i) := by
  rw [dataBlock, ecBlock]
  split_ifs with hi1
  · -- group 1: the block lies in `g1`
    have hle : i * qrT.ecWordsPerBlock + qrT.ecWordsPerBlock ≤ g1.length := by
      rw [hg1_len, Nat.mul_comm qrT.ecWordsPerBlock, ← Nat.succ_mul]
      exact Nat.mul_le_mul_right _ hi1
    have hfit : qrT.ecWordsPerBlock ≤ (g1.drop (i * qrT.ecWordsPerBlock)).length := by
      rw [List.length_drop]; omega
    rw [List.drop_append_of_le_length (by omega), List.take_append_of_le_length hfit,
      ← hg1 i hi1, Nat.zero_add]
  · -- group 2: the block lies in `g2`, `group1BlockCount` blocks on
    have hi2 : i - qrT.group1BlockCount < qrT.group2BlockCount := by
      rw [QrTableEntry.blocks] at hi; omega
    rw [hg2 _ hi2, show i * qrT.ecWordsPerBlock =
        g1.length + (i - qrT.group1BlockCount) * qrT.ecWordsPerBlock by
      rw [hg1_len, Nat.mul_comm qrT.ecWordsPerBlock, ← Nat.add_mul]; congr 1; omega,
      List.drop_length_add_append]

/-! ### Results -/

/-- **`InitializeLogTables` builds the exponential and logarithm tables of GF(2^8)**:
`alogTable[k]` is `α ^ k`, and `logTable` and `alogTable` are inverse bijections between the
exponents `0 .. 254` and the nonzero bytes. -/
theorem initializeLogTables_spec :
    (∀ k < 256, gf256 (initializeLogTables.alogTable k) = qrAlpha ^ k) ∧
      (∀ k < 255,
        (initializeLogTables.logTable (initializeLogTables.alogTable k).toNat).toNat = k) ∧
      ∀ c : UInt8, c ≠ 0 → (initializeLogTables.logTable c.toNat).toNat < 255 ∧
        initializeLogTables.alogTable (initializeLogTables.logTable c.toNat).toNat = c :=
  ⟨fun _ hk => gf256_alogTable hk, logTable_alogTable,
    fun _ hc => ⟨logTable_lt hc, alogTable_logTable hc⟩⟩

/-- **`gGeneratorPolynomials` has the generator polynomial of every row of `gQrTable`**: for
the row's `ECWordsPerBlock` words, the entry is not `NULL` and holds
`(X - α ^ 0) ⋯ (X - α ^ (ECWordsPerBlock - 1))` as the exponents of its coefficients. -/
theorem gGeneratorPolynomials_spec {qrT : QrTableEntry} (hqrT : qrT ∈ gQrTable) :
    ∃ divisor, gGeneratorPolynomials qrT.ecWordsPerBlock = some divisor ∧
      divisor.length = qrT.ecWordsPerBlock + 1 ∧
      ofCoeffs (gfExponents divisor) = rsGenerator qrT.ecWordsPerBlock := by
  obtain ⟨divisor, hdiv⟩ := Option.isSome_iff_exists.mp (gQrTable_generator qrT hqrT)
  exact ⟨divisor, hdiv, (gGeneratorPolynomials_shape hdiv).1, ofCoeffs_gGeneratorPolynomials hdiv⟩

theorem gGeneratorPolynomials_spec_version1 :
    (⟨19, 7, 1, 19, 0, 0, 0, 41, 25, 17, 10⟩ : QrTableEntry) ∈ gQrTable ∧
      ∃ divisor, gGeneratorPolynomials 7 = some divisor ∧ divisor.length = 7 + 1 ∧
        ofCoeffs (gfExponents divisor) = rsGenerator 7 :=
  ⟨by decide, @gGeneratorPolynomials_spec ⟨19, 7, 1, 19, 0, 0, 0, 41, 25, 17, 10⟩ (by decide)⟩

/-- **`PolynomialDivision` computes the error correction words of ISO/IEC 18004 7.5.2**: for
every `RemainderCount` with a generator polynomial and every data block, it writes
`RemainderCount` words, the coefficients of the remainder of the data polynomial times
`X ^ RemainderCount` by the generator. -/
theorem polynomialDivision_spec {n : Nat} (hgen : (gGeneratorPolynomials n).isSome)
    (dividend : List UInt8) :
    ∃ rem, polynomialDivision initializeLogTables dividend n = some rem ∧ rem.length = n ∧
      ofCoeffs (rem.map gf256) = (ofCoeffs (dividend.map gf256) * X ^ n) %ₘ rsGenerator n := by
  obtain ⟨rem, hrem⟩ :=
    Option.isSome_iff_exists.mp (polynomialDivision_isSome initializeLogTables hgen dividend)
  exact ⟨rem, hrem, polynomialDivision_eq_modByMonic hrem⟩

/-- The message of ISO/IEC 18004 Annex I, version 1-M. -/
theorem polynomialDivision_spec_annexI :
    (gGeneratorPolynomials 10).isSome ∧
      ∃ rem, polynomialDivision initializeLogTables
          [32, 91, 11, 120, 209, 114, 220, 77, 67, 64, 236, 17, 236, 17, 236, 17] 10 = some rem ∧
        rem.length = 10 ∧
        ofCoeffs (rem.map gf256) = (ofCoeffs ([32, 91, 11, 120, 209, 114, 220, 77, 67, 64, 236,
          17, 236, 17, 236, 17].map gf256) * X ^ 10) %ₘ rsGenerator 10 :=
  ⟨by decide, polynomialDivision_spec (by decide) _⟩

example : polynomialDivision initializeLogTables
    [32, 91, 11, 120, 209, 114, 220, 77, 67, 64, 236, 17, 236, 17, 236, 17] 10 =
      some [196, 35, 39, 119, 235, 215, 231, 226, 93, 23] := by
  decide +kernel

/-- **`Step3_Process` on a row of `gQrTable`** writes `ECWordsPerBlock` words for each block,
and those of block `i` are the error correction words of ISO/IEC 18004 7.5.2 for data block
`i`: the remainder of its polynomial times `X ^ ECWordsPerBlock` by the generator. -/
theorem step3Process_spec {qrT : QrTableEntry} (hqrT : qrT ∈ gQrTable)
    (codeWords : List UInt8) :
    ∃ ecWords, step3Process initializeLogTables qrT codeWords true = (.success, some ecWords) ∧
      ecWords.length = qrT.ecWordsPerBlock * qrT.blocks ∧
      ∀ i < qrT.blocks, ofCoeffs ((ecBlock qrT ecWords i).map gf256) =
        (ofCoeffs ((dataBlock qrT codeWords i).map gf256) * X ^ qrT.ecWordsPerBlock) %ₘ
          rsGenerator qrT.ecWordsPerBlock := by
  have hgen := gQrTable_generator qrT hqrT
  obtain ⟨g1, hg1, hg1_len, hg1_blocks⟩ :=
    step3Blocks_spec hgen codeWords qrT.group1Words qrT.group1BlockCount 0
  obtain ⟨g2, hg2, hg2_len, hg2_blocks⟩ := step3Blocks_spec hgen codeWords qrT.group2Words
    qrT.group2BlockCount (qrT.group1BlockCount * qrT.group1Words)
  refine ⟨g1 ++ g2, ?_, ?_, fun i hi => ?_⟩
  · rw [step3Process, hg1, hg2]
    rfl
  · rw [List.length_append, hg1_len, hg2_len, QrTableEntry.blocks, Nat.mul_add]
  · exact (polynomialDivision_eq_modByMonic
      (polynomialDivision_dataBlock hg1_len hg1_blocks hg2_blocks hi)).2

theorem step3Process_spec_version5q :
    (⟨62, 18, 2, 15, 2, 16, 7, 144, 87, 60, 37⟩ : QrTableEntry) ∈ gQrTable ∧
      ∃ ecWords, step3Process initializeLogTables ⟨62, 18, 2, 15, 2, 16, 7, 144, 87, 60, 37⟩
          (List.replicate 62 17) true = (.success, some ecWords) ∧
        ecWords.length = 18 * 4 ∧
        ∀ i < 4, ofCoeffs ((ecBlock ⟨62, 18, 2, 15, 2, 16, 7, 144, 87, 60, 37⟩ ecWords i).map
            gf256) =
          (ofCoeffs ((dataBlock ⟨62, 18, 2, 15, 2, 16, 7, 144, 87, 60, 37⟩
            (List.replicate 62 17) i).map gf256) * X ^ 18) %ₘ rsGenerator 18 :=
  ⟨by decide, @step3Process_spec ⟨62, 18, 2, 15, 2, 16, 7, 144, 87, 60, 37⟩ (by decide) _⟩

end MuPlus.Qr
