import MuPlus.Qr.Analysis

/-!
# MuPlus.Qr.Interleave

**Step 4 of the QR encoder, the final message** (`Step4_Process` in
`QrEncoderLib/QrEncoderLib.c`): the data codewords `gCodeWords`, cut into the blocks of the
version's row of `gQrTable`, and the error correction words `gECWords`, one block of
`ECWordsPerBlock` per data block, interleaved into `gBitStream` as ISO/IEC 18004:2015 7.6
lays them out.

The standard's layout is stated on its own terms: `interleave` takes the blocks column by
column, and `isoMessage` is the data blocks interleaved followed by the error correction
blocks interleaved.

## Results

* `interleave_perm_flatten`: interleaving blocks no longer than the width permutes their
  concatenation;
* `step4Process_spec`: for every row of `gQrTable`, Step 4 reads only words of its two arrays,
  writes `gBitStreamCount` words, lays them out as `isoMessage` does, and so permutes the
  codewords followed by the error correction words.
-/

namespace MuPlus.Qr

/-! ### The standard's layout -/

section Layout

variable {α : Type}

/-- Blocks interleaved column by column: for each column below `width`, the word of each block
that has one, in block order. -/
def interleave (blocks : List (List α)) (width : Nat) : List α :=
  (List.range width).flatMap fun j => blocks.filterMap fun block => block[j]?

theorem interleave_succ (blocks : List (List α)) (width : Nat) :
    interleave blocks (width + 1) =
      interleave blocks width ++ blocks.filterMap fun block => block[width]? := by
  simp [interleave, List.range_succ, List.flatMap_append]

/-- Columns below `width` do not see past it. -/
theorem interleave_take (blocks : List (List α)) (width : Nat) :
    interleave (blocks.map (List.take width)) width = interleave blocks width := by
  simp only [interleave]
  refine List.flatMap_congr fun j hj => ?_
  rw [List.filterMap_map]
  refine List.filterMap_congr fun block _ => ?_
  simp [List.getElem?_take, (List.mem_range.mp hj)]

/-- Splitting every element's list in two permutes the concatenation into the first parts
followed by the second parts. -/
theorem flatMap_append_perm {β : Type} (l : List β) (f g : β → List α) :
    (l.flatMap fun b => f b ++ g b).Perm (l.flatMap f ++ l.flatMap g) := by
  induction l with
  | nil => simp
  | cons b l ih =>
      simp only [List.flatMap_cons, List.append_assoc]
      refine List.Perm.append_left (f b) ?_
      exact (ih.append_left (g b)).trans (List.perm_append_comm_assoc _ _ _)

/-- **Interleaving permutes the blocks' words**, when no block is longer than the width. -/
theorem interleave_perm_flatten {blocks : List (List α)} {width : Nat}
    (h : ∀ block ∈ blocks, block.length ≤ width) :
    (interleave blocks width).Perm blocks.flatten := by
  induction width generalizing blocks with
  | zero =>
      have hnil : ∀ block ∈ blocks, block = [] := fun block hb =>
        List.eq_nil_of_length_eq_zero (Nat.le_zero.mp (h block hb))
      simp [interleave, List.flatten_eq_nil_iff.mpr hnil]
  | succ width ih =>
      -- The last column holds the word at `width` of each block; the rest is the blocks cut
      -- to `width` words.
      rw [interleave_succ, ← interleave_take, List.filterMap_eq_flatMap_toList]
      have hshort : ∀ block ∈ blocks.map (List.take width), block.length ≤ width := by
        intro block hb
        obtain ⟨b, -, rfl⟩ := List.mem_map.mp hb
        exact List.length_take_le _ _
      have hsplit : blocks.flatten =
          blocks.flatMap fun block => block.take width ++ (block[width]?).toList := by
        rw [← List.flatMap_id']
        exact List.flatMap_congr fun block hb => by
          rw [← List.take_add_one, List.take_of_length_le (h block hb)]
      rw [hsplit]
      refine List.Perm.trans ?_ (flatMap_append_perm blocks _ _).symm
      refine List.Perm.append_right _ ?_
      simpa [List.flatMap_def] using ih hshort

end Layout

/-- Consecutive slices of width `w` from `a` on, `n` of them: the `n * w` words from `a`. -/
theorem flatMap_range_slices (l : List α) (a w n : Nat) :
    (List.range n).flatMap (fun i => (l.drop (a + i * w)).take w) = (l.drop a).take (n * w) := by
  induction n with
  | zero => simp
  | succ n ih =>
      rw [List.range_succ, List.flatMap_append, ih, List.flatMap_singleton, Nat.succ_mul,
        List.take_add, List.drop_drop]

/-! ### Step 4 -/

/-- The number of blocks, `group1BlockCount + group2BlockCount`. -/
def QrTableEntry.blocks (qrT : QrTableEntry) : Nat :=
  qrT.group1BlockCount + qrT.group2BlockCount

/-- `gBitStreamCount = gCodeWordCount + gECWordCount`: the data words and `ECWordsPerBlock`
words for each block. -/
def bitStreamCount (qrT : QrTableEntry) : Nat :=
  qrT.totalWords + qrT.ecWordsPerBlock * qrT.blocks

/-- A word `Step4_Process` copies into `gBitStream`: `gCodeWords[i]` or `gECWords[i]`. -/
inductive StreamSource where
  | code (i : Nat)
  | ec (i : Nat)
  deriving DecidableEq, Repr

/-- The data codeword block `i` has in column `Indx`, if any: the index the inner `if`s of the
first loop read, `G2Base + ((i - group1BlockCount) * group2Words) + Indx` in group 2. -/
def dataWordIndex (qrT : QrTableEntry) (i indx : Nat) : Option Nat :=
  if i < qrT.group1BlockCount then
    if indx < qrT.group1Words then some (i * qrT.group1Words + indx) else none
  else if indx < qrT.group2Words then
    some (qrT.group1BlockCount * qrT.group1Words + (i - qrT.group1BlockCount) * qrT.group2Words +
      indx)
  else none

/-- `MaxIndx`: the longer of the two block lengths. -/
def maxIndx (qrT : QrTableEntry) : Nat :=
  if qrT.group1Words < qrT.group2Words then qrT.group2Words else qrT.group1Words

/-- The words `Step4_Process` copies, in the order of `StreamWordIndex`: the data words column
by column, then the error correction words column by column. -/
def step4Reads (qrT : QrTableEntry) : List StreamSource :=
  ((List.range (maxIndx qrT)).flatMap fun indx =>
      (List.range qrT.blocks).filterMap fun i => (dataWordIndex qrT i indx).map .code) ++
    (List.range qrT.ecWordsPerBlock).flatMap fun indx =>
      (List.range qrT.blocks).map fun i => .ec (i * qrT.ecWordsPerBlock + indx)

/-- The word a read copies. -/
def StreamSource.read (codeWords ecWords : List UInt8) : StreamSource → UInt8
  | .code i => codeWords.getD i 0
  | .ec i => ecWords.getD i 0

/-- A read lies in its array: `gCodeWords` holds `gCodeWordCount = totalWords` words and
`gECWords` holds `gECWordCount = ECWordsPerBlock * Blocks`. -/
def StreamSource.InRange (qrT : QrTableEntry) : StreamSource → Prop
  | .code i => i < qrT.totalWords
  | .ec i => i < qrT.ecWordsPerBlock * qrT.blocks

/-- `Step4_Process`: `gBitStream`, the words written at `StreamWordIndex = 0, 1, ...`. -/
def step4Process (qrT : QrTableEntry) (codeWords ecWords : List UInt8) : List UInt8 :=
  (step4Reads qrT).map (StreamSource.read codeWords ecWords)

/-! ### The standard's blocks -/

section Blocks

variable {α : Type}

/-- Data block `i` of ISO/IEC 18004 7.5.2: group 1's blocks of `group1Words` words, then group
2's of `group2Words`, cut from the codewords in order. -/
def dataBlock (qrT : QrTableEntry) (codeWords : List α) (i : Nat) : List α :=
  if i < qrT.group1BlockCount then (codeWords.drop (i * qrT.group1Words)).take qrT.group1Words
  else
    (codeWords.drop (qrT.group1BlockCount * qrT.group1Words +
      (i - qrT.group1BlockCount) * qrT.group2Words)).take qrT.group2Words

/-- Error correction block `i`: the `ECWordsPerBlock` words computed from data block `i`. -/
def ecBlock (qrT : QrTableEntry) (ecWords : List α) (i : Nat) : List α :=
  (ecWords.drop (i * qrT.ecWordsPerBlock)).take qrT.ecWordsPerBlock

/-- The final message of ISO/IEC 18004 7.6: the data blocks interleaved, then the error
correction blocks interleaved. -/
def isoMessage (qrT : QrTableEntry) (codeWords ecWords : List α) : List α :=
  interleave ((List.range qrT.blocks).map (dataBlock qrT codeWords)) (maxIndx qrT) ++
    interleave ((List.range qrT.blocks).map (ecBlock qrT ecWords)) qrT.ecWordsPerBlock

variable {qrT : QrTableEntry}

/-- The data blocks, one after the other, are the codewords. -/
theorem flatMap_dataBlock {codeWords : List α}
    (htotal : qrT.group1BlockCount * qrT.group1Words + qrT.group2BlockCount * qrT.group2Words =
      qrT.totalWords)
    (hcode : codeWords.length = qrT.totalWords) :
    (List.range qrT.blocks).flatMap (dataBlock qrT codeWords) = codeWords := by
  rw [QrTableEntry.blocks, List.range_add, List.flatMap_append, List.flatMap_map]
  have hgroup1 : (List.range qrT.group1BlockCount).flatMap (dataBlock qrT codeWords) =
      (List.range qrT.group1BlockCount).flatMap
        (fun i => (codeWords.drop (0 + i * qrT.group1Words)).take qrT.group1Words) :=
    List.flatMap_congr fun i hi => by
      simp [dataBlock, List.mem_range.mp hi]
  have hgroup2 : (List.range qrT.group2BlockCount).flatMap
        (fun i => dataBlock qrT codeWords (qrT.group1BlockCount + i)) =
      (List.range qrT.group2BlockCount).flatMap (fun i =>
        (codeWords.drop (qrT.group1BlockCount * qrT.group1Words + i * qrT.group2Words)).take
          qrT.group2Words) :=
    List.flatMap_congr fun i _ => by
      rw [dataBlock, if_neg (by omega), Nat.add_sub_cancel_left]
  rw [hgroup1, hgroup2, flatMap_range_slices, flatMap_range_slices, List.drop_zero,
    ← List.take_add, htotal, ← hcode, List.take_length]

/-- The error correction blocks, one after the other, are the error correction words. -/
theorem flatMap_ecBlock {ecWords : List α}
    (hec : ecWords.length = qrT.ecWordsPerBlock * qrT.blocks) :
    (List.range qrT.blocks).flatMap (ecBlock qrT ecWords) = ecWords := by
  have hslices := flatMap_range_slices ecWords 0 qrT.ecWordsPerBlock qrT.blocks
  simp only [Nat.zero_add, List.drop_zero] at hslices
  rw [show (ecBlock qrT ecWords) = fun i => (ecWords.drop (i * qrT.ecWordsPerBlock)).take
    qrT.ecWordsPerBlock from rfl, hslices, Nat.mul_comm, ← hec, List.take_length]

end Blocks

/-! ### Step 4 lays the blocks out as the standard does -/

section Refinement

variable {qrT : QrTableEntry} {codeWords ecWords : List UInt8}

theorem getElem?_eq_some_getD {l : List UInt8} {n : Nat} (h : n < l.length) :
    l[n]? = some (l.getD n 0) := by
  simp [List.getD_eq_getElem?_getD, List.getElem?_eq_getElem h]

/-- Every data word Step 4 reads lies in `gCodeWords`. -/
theorem dataWordIndex_lt
    (htotal : qrT.group1BlockCount * qrT.group1Words + qrT.group2BlockCount * qrT.group2Words =
      qrT.totalWords) {i indx j : Nat} (hi : i < qrT.blocks)
    (h : dataWordIndex qrT i indx = some j) : j < qrT.totalWords := by
  simp only [dataWordIndex] at h
  split_ifs at h with hgroup1 hindx₁ hindx₂ <;> simp only [Option.some.injEq, reduceCtorEq] at h
  · -- Group 1: before the end of block `i`, at most the end of group 1.
    have := Nat.mul_le_mul_right qrT.group1Words (show i + 1 ≤ qrT.group1BlockCount by omega)
    rw [Nat.add_mul, Nat.one_mul] at this
    have := Nat.le_add_right (qrT.group1BlockCount * qrT.group1Words)
      (qrT.group2BlockCount * qrT.group2Words)
    omega
  · -- Group 2: block `i - group1BlockCount` of group 2.
    simp only [QrTableEntry.blocks] at hi
    have := Nat.mul_le_mul_right qrT.group2Words
      (show i - qrT.group1BlockCount + 1 ≤ qrT.group2BlockCount by omega)
    rw [Nat.add_mul, Nat.one_mul] at this
    omega

/-- Word `indx` of data block `i` is the word Step 4 reads for block `i` in column `indx`. -/
theorem getElem?_dataBlock
    (htotal : qrT.group1BlockCount * qrT.group1Words + qrT.group2BlockCount * qrT.group2Words =
      qrT.totalWords)
    (hcode : codeWords.length = qrT.totalWords) {i indx : Nat} (hi : i < qrT.blocks) :
    (dataBlock qrT codeWords i)[indx]? =
      (dataWordIndex qrT i indx).map (codeWords.getD · 0) := by
  have hread : ∀ k, k < qrT.totalWords → codeWords[k]? = some (codeWords.getD k 0) :=
    fun k hk => getElem?_eq_some_getD (by omega)
  by_cases hgroup1 : i < qrT.group1BlockCount
  · by_cases hindx : indx < qrT.group1Words
    · have hj : dataWordIndex qrT i indx = some (i * qrT.group1Words + indx) := by
        simp [dataWordIndex, hgroup1, hindx]
      rw [hj, Option.map_some, dataBlock, if_pos hgroup1, List.getElem?_take, if_pos hindx,
        List.getElem?_drop]
      exact hread _ (dataWordIndex_lt htotal hi hj)
    · simp [dataBlock, dataWordIndex, hgroup1, hindx, List.getElem?_take]
  · by_cases hindx : indx < qrT.group2Words
    · have hj : dataWordIndex qrT i indx = some (qrT.group1BlockCount * qrT.group1Words +
          (i - qrT.group1BlockCount) * qrT.group2Words + indx) := by
        simp [dataWordIndex, hgroup1, hindx]
      rw [hj, Option.map_some, dataBlock, if_neg hgroup1, List.getElem?_take, if_pos hindx,
        List.getElem?_drop]
      exact hread _ (dataWordIndex_lt htotal hi hj)
    · simp [dataBlock, dataWordIndex, hgroup1, hindx, List.getElem?_take]

/-- Word `indx` of error correction block `i`. -/
theorem getElem?_ecBlock (hec : ecWords.length = qrT.ecWordsPerBlock * qrT.blocks)
    {i indx : Nat} (hi : i < qrT.blocks) (hindx : indx < qrT.ecWordsPerBlock) :
    (ecBlock qrT ecWords i)[indx]? = some (ecWords.getD (i * qrT.ecWordsPerBlock + indx) 0) := by
  have := Nat.mul_le_mul_right qrT.ecWordsPerBlock (show i + 1 ≤ qrT.blocks by omega)
  rw [Nat.add_mul, Nat.one_mul] at this
  rw [ecBlock, List.getElem?_take, if_pos hindx, List.getElem?_drop,
    getElem?_eq_some_getD (by rw [hec, Nat.mul_comm qrT.ecWordsPerBlock qrT.blocks]; omega)]

/-- **Step 4 is the standard's layout.** -/
theorem step4Process_eq_isoMessage
    (htotal : qrT.group1BlockCount * qrT.group1Words + qrT.group2BlockCount * qrT.group2Words =
      qrT.totalWords)
    (hcode : codeWords.length = qrT.totalWords)
    (hec : ecWords.length = qrT.ecWordsPerBlock * qrT.blocks) :
    step4Process qrT codeWords ecWords = isoMessage qrT codeWords ecWords := by
  simp only [step4Process, step4Reads, isoMessage, interleave, List.map_append, List.map_flatMap]
  congr 1
  · -- The data columns: block `i` gives the word `dataWordIndex` names, if any.
    refine List.flatMap_congr fun indx _ => ?_
    rw [List.map_filterMap, List.filterMap_map]
    refine List.filterMap_congr fun i hi => ?_
    rw [Function.comp_apply, getElem?_dataBlock htotal hcode (List.mem_range.mp hi)]
    cases dataWordIndex qrT i indx <;> rfl
  · -- The error correction columns: every block has a word in each.
    refine List.flatMap_congr fun indx hindx => ?_
    rw [List.filterMap_map, List.map_map]
    rw [← List.filterMap_eq_map]
    refine List.filterMap_congr fun i hi => ?_
    simp only [Function.comp_apply]
    rw [getElem?_ecBlock hec (List.mem_range.mp hi) (List.mem_range.mp hindx)]
    rfl

end Refinement

/-! ### Step 4 on the rows of `gQrTable` -/

/-- Every row of `gQrTable` splits its data words into its blocks. -/
theorem gQrTable_total : ∀ qrT ∈ gQrTable,
    qrT.group1BlockCount * qrT.group1Words + qrT.group2BlockCount * qrT.group2Words =
      qrT.totalWords := by
  decide +kernel

/-- Every word Step 4 reads lies in its array. -/
theorem step4Reads_inRange {qrT : QrTableEntry}
    (htotal : qrT.group1BlockCount * qrT.group1Words + qrT.group2BlockCount * qrT.group2Words =
      qrT.totalWords) :
    ∀ s ∈ step4Reads qrT, s.InRange qrT := by
  intro s hs
  simp only [step4Reads, List.mem_append, List.mem_flatMap, List.mem_range, List.mem_filterMap,
    List.mem_map, Option.map_eq_some_iff] at hs
  rcases hs with ⟨indx, -, i, hi, j, hj, rfl⟩ | ⟨indx, hindx, i, hi, rfl⟩
  · exact dataWordIndex_lt htotal hi hj
  · -- Column `indx` of block `i`: before the end of block `i`.
    have := Nat.mul_le_mul_right qrT.ecWordsPerBlock (show i + 1 ≤ qrT.blocks by omega)
    rw [Nat.add_mul, Nat.one_mul] at this
    show i * qrT.ecWordsPerBlock + indx < qrT.ecWordsPerBlock * qrT.blocks
    rw [Nat.mul_comm qrT.ecWordsPerBlock qrT.blocks]
    omega

theorem length_dataBlock_le {α : Type} (qrT : QrTableEntry) (codeWords : List α) (i : Nat) :
    (dataBlock qrT codeWords i).length ≤ maxIndx qrT := by
  simp only [dataBlock, maxIndx]
  split_ifs <;> simp only [List.length_take] <;> omega

/-- **`Step4_Process` on a row of `gQrTable`.** For codewords and error correction words of
the lengths Steps 2 and 3 give them, Step 4 reads only words inside the two arrays, writes
exactly `gBitStreamCount` words, lays them out as ISO/IEC 18004 7.6 does, and so writes each
codeword and each error correction word once. -/
theorem step4Process_spec {qrT : QrTableEntry} (hqrT : qrT ∈ gQrTable)
    {codeWords ecWords : List UInt8} (hcode : codeWords.length = qrT.totalWords)
    (hec : ecWords.length = qrT.ecWordsPerBlock * qrT.blocks) :
    (∀ s ∈ step4Reads qrT, s.InRange qrT) ∧
      (step4Process qrT codeWords ecWords).length = bitStreamCount qrT ∧
      step4Process qrT codeWords ecWords = isoMessage qrT codeWords ecWords ∧
      (step4Process qrT codeWords ecWords).Perm (codeWords ++ ecWords) := by
  have htotal := gQrTable_total qrT hqrT
  have hrefines := step4Process_eq_isoMessage htotal hcode hec
  -- Each half of the standard's layout permutes its blocks, which make up the array.
  have hperm : (isoMessage qrT codeWords ecWords).Perm (codeWords ++ ecWords) := by
    refine List.Perm.append ?_ ?_
    · have h := @interleave_perm_flatten UInt8
        ((List.range qrT.blocks).map (dataBlock qrT codeWords)) (maxIndx qrT) (by
          simp only [List.mem_map]
          rintro _ ⟨i, -, rfl⟩
          exact length_dataBlock_le qrT codeWords i)
      rwa [← List.flatMap_def, flatMap_dataBlock htotal hcode] at h
    · have h := @interleave_perm_flatten UInt8
        ((List.range qrT.blocks).map (ecBlock qrT ecWords)) qrT.ecWordsPerBlock (by
          simp only [List.mem_map]
          rintro _ ⟨i, -, rfl⟩
          exact List.length_take_le _ _)
      rwa [← List.flatMap_def, flatMap_ecBlock hec] at h
  refine ⟨step4Reads_inRange htotal, ?_, hrefines, hrefines ▸ hperm⟩
  rw [hrefines, hperm.length_eq, List.length_append, hcode, hec, bitStreamCount]

/-- Version 5 at level Q: two blocks of 15 data words and two of 16. -/
theorem step4Process_version5_q :
    (∀ s ∈ step4Reads (gQrT 5 .q), s.InRange (gQrT 5 .q)) ∧
      (step4Process (gQrT 5 .q) (List.replicate 62 1) (List.replicate 72 2)).length =
        bitStreamCount (gQrT 5 .q) ∧
      step4Process (gQrT 5 .q) (List.replicate 62 1) (List.replicate 72 2) =
        isoMessage (gQrT 5 .q) (List.replicate 62 1) (List.replicate 72 2) ∧
      (step4Process (gQrT 5 .q) (List.replicate 62 1) (List.replicate 72 2)).Perm
        (List.replicate 62 1 ++ List.replicate 72 2) :=
  step4Process_spec (by decide) (by decide) (by decide)

end MuPlus.Qr
