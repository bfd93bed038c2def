import MuPlus.Qr.Format

/-!
# MuPlus.Qr.Penalty

**The mask penalty of Step 6 of the QR encoder** (`Evaluate1` to `Evaluate4` in
`QrEncoderLib/QrEncoderLib.c`): the score `Step6_Process` gives each masked matrix, the lowest
of which picks the mask, against the score of ISO/IEC 18004:2015 7.8.3 (`isoPenalty`).

`Evaluate1` (runs), `Evaluate2` (2×2 blocks) and `Evaluate4` (dark proportion) scan what the
standard scores. `Evaluate3`, the finder-like pattern `1011101` with four light modules on one
side, does not: its second pass, meant for the columns, reads `Bitmap[(y * RowSize) + x]` as
the first pass does, so it scores every row pattern twice and no column pattern; each pass
matches ten of the eleven modules and stops eleven modules short of the end of the line.

## Results

* `maskPenalty_scores_row_pattern_twice`: a matrix with one finder-like pattern in its top row
  scores `2135` where the standard scores `2095`: `Evaluate3` gives it 80 for the standard's
  40.
-/

namespace MuPlus.Qr

open ByteMem

/-- `QrRsvd`. -/
def qrRsvd : UInt8 := 0x03

/-- `QrExclude`, the bit that keeps a module out of the mask. -/
def qrExclude : UInt8 := 0x80

/-- A module as the scans of `Evaluate1` to `Evaluate3` read it: `QrExclude` cleared, and
`QrRsvd` read as `QrWhite`. -/
def cellColor (bitmap : ByteMem) (i : Nat) : UInt8 :=
  let cell := bitmap i &&& ~~~qrExclude
  if cell = qrRsvd then qrWhite else cell

/-- Row `y` of the matrix, as the scans read it. -/
def qrRow (bitmap : ByteMem) (rowSize y : Nat) : List UInt8 :=
  (List.range rowSize).map fun x => cellColor bitmap (y * rowSize + x)

/-- Column `x` of the matrix, as the scans read it. -/
def qrColumn (bitmap : ByteMem) (rowSize x : Nat) : List UInt8 :=
  (List.range rowSize).map fun y => cellColor bitmap (y * rowSize + x)

/-! ### `Evaluate1` -/

/-- The inner loop of `Evaluate1` over one line: `AdjacentCount` counts the cells equal to
the one before; the fourth (five in a row) adds 3, and each one after it adds 1. -/
def runPenaltyLoop (penalty : Nat) (cell1 : UInt8) (adjacentCount : Nat) : List UInt8 → Nat
  | [] => penalty
  | cell2 :: cells =>
      if cell1 = cell2 then
        let adjacentCount := adjacentCount + 1
        let penalty :=
          if adjacentCount = 4 then penalty + 3
          else if adjacentCount > 4 then penalty + 1
          else penalty
        runPenaltyLoop penalty cell2 adjacentCount cells
      else runPenaltyLoop penalty cell2 0 cells

/-- One line of `Evaluate1`, from its first cell. -/
def runPenalty (penalty : Nat) : List UInt8 → Nat
  | [] => penalty
  | cell1 :: cells => runPenaltyLoop penalty cell1 0 cells

/-- `Evaluate1 (Bitmap, RowSize)`: the rows, then the columns. -/
def evaluate1 (bitmap : ByteMem) (rowSize : Nat) : Nat :=
  let penalty := (List.range rowSize).foldl
    (fun penalty y => runPenalty penalty (qrRow bitmap rowSize y)) 0
  (List.range rowSize).foldl (fun penalty x => runPenalty penalty (qrColumn bitmap rowSize x))
    penalty

/-! ### `Evaluate2` -/

/-- The 2×2 block of `Evaluate2` at row `y` and column `x`: 3 when its four cells agree. -/
def blockPenalty (bitmap : ByteMem) (rowSize y x : Nat) : Nat :=
  let cell1 := cellColor bitmap (y * rowSize + x)
  let cell2 := cellColor bitmap (y * rowSize + x + 1)
  if cell1 = cell2 then
    let cell3 := cellColor bitmap ((y + 1) * rowSize + x)
    if cell1 = cell3 then
      let cell4 := cellColor bitmap ((y + 1) * rowSize + x + 1)
      if cell1 = cell4 then 3 else 0
    else 0
  else 0

/-- `Evaluate2 (Bitmap, RowSize)`. -/
def evaluate2 (bitmap : ByteMem) (rowSize : Nat) : Nat :=
  (List.range (rowSize - 1)).foldl (fun penalty y =>
    (List.range (rowSize - 1)).foldl (fun penalty x => penalty + blockPenalty bitmap rowSize y x)
      penalty) 0

/-! ### `Evaluate3` -/

/-- `Target1`: `1 0 1 1 1 0 1 0 0 0 0` with `1` dark. -/
def target1 : List UInt8 :=
  [qrBlack, qrWhite, qrBlack, qrBlack, qrBlack, qrWhite, qrBlack, qrWhite, qrWhite, qrWhite,
    qrWhite]

/-- `Target2`: `0 0 0 0 1 0 1 1 1 0 1`. -/
def target2 : List UInt8 :=
  [qrWhite, qrWhite, qrWhite, qrWhite, qrBlack, qrWhite, qrBlack, qrBlack, qrBlack, qrWhite,
    qrBlack]

/-- One cell of a pattern search of `Evaluate3`: the next `TargetIndex` and what it adds. The
index moves on while the cells match, scores 40 and starts over on reaching 10, and starts
over on a mismatch. -/
def patternStep (target : List UInt8) (cell : UInt8) (targetIndex : Nat) : Nat × Nat :=
  if cell = target.getD targetIndex 0 then
    if targetIndex + 1 = 10 then (0, 40) else (targetIndex + 1, 0)
  else (0, 0)

/-- The inner loop of `Evaluate3` over the cells of one line it reads. -/
def patternPenalty (penalty target1Index target2Index : Nat) : List UInt8 → Nat
  | [] => penalty
  | cell :: cells =>
      let (target1Index, p1) := patternStep target1 cell target1Index
      let (target2Index, p2) := patternStep target2 cell target2Index
      patternPenalty (penalty + p1 + p2) target1Index target2Index cells

/-- The cells `Evaluate3` reads of line `y`: `Bitmap[(y * RowSize) + x]` for
`x < RowSize - 11`. -/
def patternCells (bitmap : ByteMem) (rowSize y : Nat) : List UInt8 :=
  (List.range (rowSize - 11)).map fun x => cellColor bitmap (y * rowSize + x)

/-- `Evaluate3 (Bitmap, RowSize)`. Both passes read the cells of the rows. -/
def evaluate3 (bitmap : ByteMem) (rowSize : Nat) : Nat :=
  let penalty := (List.range rowSize).foldl
    (fun penalty y => patternPenalty penalty 0 0 (patternCells bitmap rowSize y)) 0
  (List.range rowSize).foldl
    (fun penalty y => patternPenalty penalty 0 0 (patternCells bitmap rowSize y)) penalty

/-! ### `Evaluate4` -/

/-- `CountOfBlack`: the modules that are `QrBlack` once `QrExclude` is cleared. -/
def countOfBlack (bitmap : ByteMem) (rowSize : Nat) : Nat :=
  ((List.range rowSize).flatMap fun y =>
    (List.range rowSize).map fun x => bitmap (y * rowSize + x) &&& ~~~qrExclude).countP
      (· = qrBlack)

/-- `Evaluate4 (Bitmap, RowSize)`: `Ratio = ((CountOfBlack * 100) / TotalCount) - 50` as an
`INTN`, made positive, and 10 points per 5. -/
def evaluate4 (bitmap : ByteMem) (rowSize : Nat) : Nat :=
  let totalCount := rowSize * rowSize
  let ratio : Int := ((countOfBlack bitmap rowSize * 100 / totalCount : Nat) : Int) - 50
  10 * (ratio.natAbs / 5)

/-- The penalty `Step6_Process` gives a masked matrix. -/
def maskPenalty (bitmap : ByteMem) (rowSize : Nat) : Nat :=
  evaluate1 bitmap rowSize + evaluate2 bitmap rowSize + evaluate3 bitmap rowSize +
    evaluate4 bitmap rowSize

/-! ### The standard's score -/

/-- A module is dark when it is `QrBlack` once `QrExclude` is cleared; reserved modules are
light. -/
def isDark (bitmap : ByteMem) (rowSize y x : Nat) : Bool :=
  bitmap (y * rowSize + x) &&& ~~~qrExclude = qrBlack

/-- The length of the run of equal modules that starts at `i`. -/
def runLength (line : List Bool) (i : Nat) : Nat :=
  ((line.drop i).takeWhile (· == line.getD i false)).length

/-- `N1` of one line: `3 + (L - 5)` for each maximal run of `L ≥ 5` equal modules. -/
def isoRuns (line : List Bool) : Nat :=
  ((List.range line.length).filter fun i =>
      (i = 0 ∨ line.getD (i - 1) false ≠ line.getD i false) ∧ 5 ≤ runLength line i).foldl
    (fun penalty i => penalty + 3 + (runLength line i - 5)) 0

/-- `N2`: 3 for each 2×2 block of equal modules. -/
def isoBlocks (dark : Nat → Nat → Bool) (size : Nat) : Nat :=
  3 * ((List.range (size - 1)).flatMap fun y => (List.range (size - 1)).map fun x => (y, x)).countP
    fun b => dark b.1 b.2 = dark b.1 (b.2 + 1) ∧ dark b.1 b.2 = dark (b.1 + 1) b.2 ∧
      dark b.1 b.2 = dark (b.1 + 1) (b.2 + 1)

/-- `1 0 1 1 1 0 1`. -/
def finderLike : List Bool := [true, false, true, true, true, false, true]

/-- `N3` of one line: 40 for each `1 0 1 1 1 0 1` with four light modules before or after it
in the line. -/
def isoFinders (line : List Bool) : Nat :=
  40 * (List.range line.length).countP fun i =>
    (line.drop i).take 7 = finderLike ∧
      ((4 ≤ i ∧ (line.drop (i - 4)).take 4 = [false, false, false, false]) ∨
        (i + 11 ≤ line.length ∧ (line.drop (i + 7)).take 4 = [false, false, false, false]))

/-- `N4`: 10 for each full 5 % by which the dark proportion departs from 50 %. -/
def isoBalance (dark : Nat → Nat → Bool) (size : Nat) : Nat :=
  let darkCount := ((List.range size).flatMap fun y =>
    (List.range size).map fun x => dark y x).countP id
  10 * ((100 * (darkCount : Int) - 50 * (size * size : Nat)).natAbs / (5 * (size * size)))

/-- The penalty of ISO/IEC 18004:2015 7.8.3 of a matrix of `size × size` modules. -/
def isoPenalty (dark : Nat → Nat → Bool) (size : Nat) : Nat :=
  let rows := (List.range size).map fun y => (List.range size).map fun x => dark y x
  let columns := (List.range size).map fun x => (List.range size).map fun y => dark y x
  (rows ++ columns).foldl (fun penalty line => penalty + isoRuns line) 0 + isoBlocks dark size +
    (rows ++ columns).foldl (fun penalty line => penalty + isoFinders line) 0 +
    isoBalance dark size

/-! ### A pattern in the top row -/

/-- A 21 × 21 matrix, white but for `1 0 1 1 1 0 1` at the start of its top row. -/
def rowPatternBitmap : ByteMem :=
  fun i => if i ∈ [0, 2, 3, 4, 6] then qrBlack else qrWhite

/-- **`Evaluate3` scores the top row's pattern twice.** The standard scores the matrix `2095`;
`Step6_Process` scores it `2135`, the 40 of the pattern counted again by the second pass. -/
theorem maskPenalty_scores_row_pattern_twice :
    maskPenalty rowPatternBitmap 21 = 2135 ∧
      isoPenalty (isDark rowPatternBitmap 21) 21 = 2095 ∧
      evaluate3 rowPatternBitmap 21 = 80 ∧
      ((List.range 21).map fun y => (List.range 21).map fun x =>
        isDark rowPatternBitmap 21 y x).foldl (fun penalty line => penalty + isoFinders line) 0 = 40 := by
  decide +kernel

end MuPlus.Qr
