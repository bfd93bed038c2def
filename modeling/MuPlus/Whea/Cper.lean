import MuPlus.Lib.ByteMem
import MuPlus.Lib.Tiling

/-!
# MuPlus.Whea.Cper

**The check of a hardware error record** (`ValidateCperHeader` in
`MsWheaPkg/Library/CheckHwErrRecHeaderLib/CheckHwErrRecHeaderLib.c`), over the layout of UEFI's
Common Platform Error Record: a 128-byte `EFI_COMMON_ERROR_RECORD_HEADER`, then `SectionCount`
section descriptors of 72 bytes each (`EFI_ERROR_SECTION_DESCRIPTOR`), then the sections' data.
Both structures are packed.

The record is read from a `ByteMem` that holds it at address 0, so that addresses are offsets
into the record. The one comparison of `ValidateCperHeader` on addresses,
`(UINTN)Err + SectionOffset < (UINTN)SectionHeader + 72`, adds the same base on both sides; it
is a comparison of offsets, since neither side wraps for a record that lies in the address space
(the offset compared is at most `Size` by then). `UINTN` has `uintnBits` bits, against which
`SafeUintnAdd` checks the end of each section.

## Results

* `validateSectionsLoop_eq_some_iff`: the loop over the descriptors reaches `Size` exactly when
  every section is non-empty and starts where the one before it ends (`SectionsTile`);
* `validateCperHeader_spec`: a record passes exactly when it is a `CperValid` record of `Size`
  bytes; its sections then tile the bytes after the descriptors, and the check reads no byte at
  or past `Size`.
-/

namespace MuPlus.Whea

open ByteMem Tiling

/-! ### Layout -/

/-- `sizeof (EFI_COMMON_ERROR_RECORD_HEADER)`. -/
def cperHeaderSize : Nat := 128

/-- `sizeof (EFI_ERROR_SECTION_DESCRIPTOR)`. -/
def sectionDescriptorSize : Nat := 72

/-- `EFI_ERROR_RECORD_SIGNATURE_START`, `SIGNATURE_32 ('C', 'P', 'E', 'R')`. -/
def efiErrorRecordSignatureStart : Nat := 0x52455043

/-- `SignatureStart`, the header's first field. -/
def signatureStart (err : ByteMem) : Nat := err.loadLe 0 4

/-- `SectionCount`, a `UINT16` at offset 10. -/
def sectionCount (err : ByteMem) : Nat := err.loadLe 10 2

/-- `RecordLength`, a `UINT32` at offset 20. -/
def recordLength (err : ByteMem) : Nat := err.loadLe 20 4

/-- Where descriptor `i` starts: `(EFI_ERROR_SECTION_DESCRIPTOR *)(Err + 1) + i`. For
`i = SectionCount` it is the end of the descriptors. -/
def descriptorOffset (i : Nat) : Nat := cperHeaderSize + sectionDescriptorSize * i

/-- `SectionOffset` of descriptor `i`. -/
def sectionOffset (err : ByteMem) (i : Nat) : Nat := err.loadLe (descriptorOffset i) 4

/-- `SectionLength` of descriptor `i`. -/
def sectionLength (err : ByteMem) (i : Nat) : Nat := err.loadLe (descriptorOffset i + 4) 4

/-! ### `ValidateCperHeader` -/

/-- The loop of `ValidateCperHeader` over `n` descriptors from descriptor `i`, with the
running end `SecLenPlusOffset`: the running end after them, or `none` for `FALSE`. -/
def validateSectionsLoop (uintnBits : Nat) (err : ByteMem) (size : Nat) :
    Nat → Nat → Nat → Option Nat
  | 0, _, secLenPlusOffset => some secLenPlusOffset
  | n + 1, i, secLenPlusOffset =>
      if sectionOffset err i ≠ secLenPlusOffset then none
      else if sectionLength err i = 0 then none
      else if sectionOffset err i < descriptorOffset i + sectionDescriptorSize then none
      -- `SafeUintnAdd (SectionLength, SectionOffset, &SecLenPlusOffset)`
      else if 2 ^ uintnBits ≤ sectionLength err i + sectionOffset err i then none
      else if size < sectionLength err i + sectionOffset err i then none
      else
        validateSectionsLoop uintnBits err size n (i + 1)
          (sectionLength err i + sectionOffset err i)

/-- `ValidateCperHeader (Err, Size)` for a record at `Err`. -/
def validateCperHeader (uintnBits : Nat) (err : ByteMem) (size : Nat) : Bool :=
  if size < cperHeaderSize then false
  else if signatureStart err ≠ efiErrorRecordSignatureStart then false
  else if size ≠ recordLength err then false
  else if size < descriptorOffset (sectionCount err) then false
  else
    match validateSectionsLoop uintnBits err size (sectionCount err) 0
        (descriptorOffset (sectionCount err)) with
    | none => false
    | some secLenPlusOffset => if size ≠ secLenPlusOffset then false else true

/-! ### What the loop accepts -/

/-- The `n` descriptors from `i` describe non-empty sections laid back to back from `e`, the
last ending at `size`. -/
def SectionsTile (err : ByteMem) (size n i e : Nat) : Prop :=
  (∀ k < n, 0 < sectionLength err (i + k) ∧
    sectionOffset err (i + k) = e + ∑ j ∈ Finset.range k, sectionLength err (i + j)) ∧
  e + ∑ j ∈ Finset.range n, sectionLength err (i + j) = size

section Sections

variable {err : ByteMem} {size : Nat}

theorem sectionsTile_zero {i e : Nat} : SectionsTile err size 0 i e ↔ e = size := by
  simp [SectionsTile]

/-- The lengths from `i` are the first one and the lengths from `i + 1`. -/
theorem sum_sectionLength_succ (i k : Nat) :
    ∑ j ∈ Finset.range (k + 1), sectionLength err (i + j) =
      sectionLength err i + ∑ j ∈ Finset.range k, sectionLength err (i + 1 + j) := by
  rw [Finset.sum_range_succ', Nat.add_zero, Nat.add_comm]
  congr 1
  refine Finset.sum_congr rfl fun j _ => ?_
  rw [Nat.add_right_comm, Nat.add_assoc]

/-- Peeling the first descriptor: it is non-empty and starts at `e`, and the rest tile from its
end. -/
theorem sectionsTile_succ {n i e : Nat} :
    SectionsTile err size (n + 1) i e ↔
      0 < sectionLength err i ∧ sectionOffset err i = e ∧
        SectionsTile err size n (i + 1) (sectionLength err i + e) := by
  constructor
  · rintro ⟨hsections, hend⟩
    obtain ⟨hpos, hoffset⟩ := hsections 0 (Nat.succ_pos n)
    refine ⟨hpos, by simpa using hoffset, fun k hk => ?_, ?_⟩
    · -- descriptor `i + 1 + k` is descriptor `i + (k + 1)`
      obtain ⟨hpos', hoffset'⟩ := hsections (k + 1) (by omega)
      rw [sum_sectionLength_succ, show i + (k + 1) = i + 1 + k by omega] at hoffset'
      rw [show i + (k + 1) = i + 1 + k by omega] at hpos'
      exact ⟨hpos', by omega⟩
    · rw [sum_sectionLength_succ] at hend
      omega
  · rintro ⟨hpos, hoffset, hsections, hend⟩
    refine ⟨fun k hk => ?_, ?_⟩
    · cases k with
      | zero => exact ⟨hpos, by simpa using hoffset⟩
      | succ k =>
          obtain ⟨hpos', hoffset'⟩ := hsections k (by omega)
          rw [sum_sectionLength_succ, show i + (k + 1) = i + 1 + k by omega]
          exact ⟨hpos', by omega⟩
    · rw [sum_sectionLength_succ]
      omega

/-- Sections that tile end at `size`, so the first one starts at or before it. -/
theorem SectionsTile.start_le {n i e : Nat} (h : SectionsTile err size n i e) : e ≤ size := by
  rw [← h.2]
  exact Nat.le_add_right _ _

variable {uintnBits : Nat}

/-- **The loop of `ValidateCperHeader`** reaches `Size` from the running end `e` exactly when the
descriptors tile: each offset equals the running end and each length is non-zero. The address
check never fails, since the running end starts at the end of the descriptors; and neither
does `SafeUintnAdd` nor the bound against `Size` for sections that end at `Size`. -/
theorem validateSectionsLoop_eq_some_iff (hsize : size < 2 ^ uintnBits) {n i e : Nat}
    (he : descriptorOffset (i + n) ≤ e) :
    validateSectionsLoop uintnBits err size n i e = some size ↔ SectionsTile err size n i e := by
  induction n generalizing i e with
  | zero =>
      rw [sectionsTile_zero]
      simp [validateSectionsLoop]
  | succ n ih =>
      rw [sectionsTile_succ]
      simp only [validateSectionsLoop]
      by_cases hoffset : sectionOffset err i = e
      · rw [if_neg (not_not.mpr hoffset)]
        by_cases hlength : sectionLength err i = 0
        · rw [if_pos hlength]
          simp [hlength]
        rw [if_neg hlength]
        -- the descriptors end at or before `e`, so the section starts after descriptor `i`
        have haddr : ¬sectionOffset err i < descriptorOffset i + sectionDescriptorSize := by
          simp only [descriptorOffset, cperHeaderSize, sectionDescriptorSize] at he ⊢
          omega
        rw [if_neg haddr]
        by_cases hwrap : 2 ^ uintnBits ≤ sectionLength err i + sectionOffset err i
        · rw [if_pos hwrap]
          refine iff_of_false (by simp) fun h => ?_
          have := h.2.2.start_le
          omega
        rw [if_neg hwrap]
        by_cases hpast : size < sectionLength err i + sectionOffset err i
        · rw [if_pos hpast]
          refine iff_of_false (by simp) fun h => ?_
          have := h.2.2.start_le
          omega
        rw [if_neg hpast, hoffset]
        have he' : descriptorOffset (i + 1 + n) ≤ sectionLength err i + e := by
          rw [Nat.add_right_comm, Nat.add_assoc]
          exact Nat.le_add_left_of_le he
        rw [ih he']
        exact ⟨fun h => ⟨Nat.pos_of_ne_zero hlength, rfl, h⟩, fun h => h.2.2⟩
      · rw [if_pos hoffset]
        exact iff_of_false (by simp) fun h => hoffset h.2.1

end Sections

/-! ### What the check accepts -/

/-- A record of `size` bytes as `ValidateCperHeader` wants it: its header and descriptors fit,
it starts with the signature and its `RecordLength` is `size`, and its sections are non-empty
and lie back to back from the end of the descriptors to `size`. -/
structure CperValid (err : ByteMem) (size : Nat) : Prop where
  header_le : cperHeaderSize ≤ size
  signature : signatureStart err = efiErrorRecordSignatureStart
  recordLength_eq : recordLength err = size
  descriptors_le : descriptorOffset (sectionCount err) ≤ size
  sectionLength_pos : ∀ i < sectionCount err, 0 < sectionLength err i
  sectionOffset_eq : ∀ i < sectionCount err,
    sectionOffset err i =
      descriptorOffset (sectionCount err) + ∑ j ∈ Finset.range i, sectionLength err j
  sections_end :
    descriptorOffset (sectionCount err) + ∑ j ∈ Finset.range (sectionCount err),
      sectionLength err j = size

/-- The data ranges `(SectionOffset, SectionLength)` of the descriptors. -/
def sectionRanges (err : ByteMem) : List (Nat × Nat) :=
  (List.range (sectionCount err)).map fun i => (sectionOffset err i, sectionLength err i)

theorem sectionsTile_iff {err : ByteMem} {size : Nat} :
    SectionsTile err size (sectionCount err) 0 (descriptorOffset (sectionCount err)) ↔
      (∀ i < sectionCount err, 0 < sectionLength err i ∧
        sectionOffset err i =
          descriptorOffset (sectionCount err) + ∑ j ∈ Finset.range i, sectionLength err j) ∧
      descriptorOffset (sectionCount err) + ∑ j ∈ Finset.range (sectionCount err),
        sectionLength err j = size := by
  simp only [SectionsTile, Nat.zero_add]

theorem validateCperHeader_eq_true_iff {uintnBits : Nat} {err : ByteMem} {size : Nat}
    (hsize : size < 2 ^ uintnBits) :
    validateCperHeader uintnBits err size = true ↔ CperValid err size := by
  unfold validateCperHeader
  by_cases hheader : size < cperHeaderSize
  · rw [if_pos hheader]
    exact iff_of_false Bool.false_ne_true fun h => absurd h.header_le (by omega)
  rw [if_neg hheader]
  by_cases hsignature : signatureStart err ≠ efiErrorRecordSignatureStart
  · rw [if_pos hsignature]
    exact iff_of_false Bool.false_ne_true fun h => hsignature h.signature
  rw [if_neg hsignature]
  by_cases hlength : size ≠ recordLength err
  · rw [if_pos hlength]
    exact iff_of_false Bool.false_ne_true fun h => hlength h.recordLength_eq.symm
  rw [if_neg hlength]
  by_cases hdescriptors : size < descriptorOffset (sectionCount err)
  · rw [if_pos hdescriptors]
    exact iff_of_false Bool.false_ne_true fun h => absurd h.descriptors_le (by omega)
  rw [if_neg hdescriptors]
  -- The header checks hold; what is left is the loop, which ends at `Size` or fails.
  have hloop := @validateSectionsLoop_eq_some_iff err size uintnBits hsize (sectionCount err) 0
    (descriptorOffset (sectionCount err)) (by rw [Nat.zero_add])
  rw [sectionsTile_iff] at hloop
  have hvalid : CperValid err size ↔
      (∀ i < sectionCount err, 0 < sectionLength err i ∧
        sectionOffset err i =
          descriptorOffset (sectionCount err) + ∑ j ∈ Finset.range i, sectionLength err j) ∧
      descriptorOffset (sectionCount err) + ∑ j ∈ Finset.range (sectionCount err),
        sectionLength err j = size :=
    ⟨fun h => ⟨fun i hi => ⟨h.sectionLength_pos i hi, h.sectionOffset_eq i hi⟩, h.sections_end⟩,
      fun ⟨hsections, hend⟩ => ⟨by omega, not_not.mp hsignature, (not_not.mp hlength).symm,
        by omega, fun i hi => (hsections i hi).1, fun i hi => (hsections i hi).2, hend⟩⟩
  rw [hvalid, ← hloop]
  split
  · next hnone => simp [hnone]
  · next secLenPlusOffset hsome =>
      rw [hsome]
      by_cases hend : size = secLenPlusOffset
      · simp [hend]
      · simp [hend, Ne.symm hend]

/-- The sections of a valid record tile the bytes from the end of the descriptors to `Size`. -/
theorem CperValid.tiles {err : ByteMem} {size : Nat} (h : CperValid err size) :
    Tiles (sectionRanges err) (descriptorOffset (sectionCount err)) size := by
  have htiles := tiles_of_prefix_sums (sectionCount err) h.sectionOffset_eq
  rw [h.sections_end] at htiles
  exact htiles

/-! ### What the check reads -/

/-- The loop reads the descriptors it reaches, and nothing else. -/
theorem validateSectionsLoop_congr {uintnBits : Nat} {err err' : ByteMem} {size : Nat}
    {n i e : Nat} (hdescriptors : descriptorOffset (i + n) ≤ size)
    (h : ∀ a < size, err' a = err a) :
    validateSectionsLoop uintnBits err' size n i e =
      validateSectionsLoop uintnBits err size n i e := by
  induction n generalizing i e with
  | zero => rfl
  | succ n ih =>
      -- descriptor `i` lies below `Size`
      have hread : ∀ k < 8, err' (descriptorOffset i + k) = err (descriptorOffset i + k) := by
        intro k hk
        apply h
        simp only [descriptorOffset, cperHeaderSize, sectionDescriptorSize] at hdescriptors ⊢
        omega
      have hoffset : sectionOffset err' i = sectionOffset err i :=
        loadLe_congr fun k hk => hread k (by omega)
      have hlength : sectionLength err' i = sectionLength err i := by
        apply loadLe_congr
        intro k hk
        rw [Nat.add_assoc]
        exact hread (4 + k) (by omega)
      simp only [validateSectionsLoop, hoffset, hlength]
      rw [ih (by rw [Nat.add_right_comm, Nat.add_assoc]; exact hdescriptors)]

/-- `ValidateCperHeader` reads no byte at or past `Size`: two memories that agree on the
record's `Size` bytes get the same answer. -/
theorem validateCperHeader_congr {uintnBits : Nat} {err err' : ByteMem} {size : Nat}
    (h : ∀ a < size, err' a = err a) :
    validateCperHeader uintnBits err' size = validateCperHeader uintnBits err size := by
  unfold validateCperHeader
  by_cases hheader : size < cperHeaderSize
  · simp only [hheader, if_true]
  -- the header lies below `Size`
  have hfield : ∀ a w, a + w ≤ cperHeaderSize → err'.loadLe a w = err.loadLe a w := by
    intro a w haw
    exact loadLe_congr fun k hk => h (a + k) (by simp only [cperHeaderSize] at haw hheader; omega)
  have hsignature : signatureStart err' = signatureStart err := hfield 0 4 (by decide)
  have hcount : sectionCount err' = sectionCount err := hfield 10 2 (by decide)
  have hlength : recordLength err' = recordLength err := hfield 20 4 (by decide)
  simp only [hheader, hsignature, hcount, hlength, if_false]
  by_cases hdescriptors : size < descriptorOffset (sectionCount err)
  · simp only [hdescriptors, if_true, ite_self]
  simp only [hdescriptors, if_false]
  rw [validateSectionsLoop_congr (by rw [Nat.zero_add]; omega) h]

/-! ### `ValidateCperHeader` accepts exactly the well-formed records -/

/-- **`ValidateCperHeader`**, for a record of `Size` bytes with `Size` a `UINTN`: it answers
`TRUE` exactly for a `CperValid` record; the sections of such a record are pairwise disjoint,
lie after the descriptors and cover exactly the bytes from the end of the descriptors to `Size`;
and the answer depends only on the record's `Size` bytes. -/
theorem validateCperHeader_spec (uintnBits : Nat) (err : ByteMem) (size : Nat)
    (hsize : size < 2 ^ uintnBits) :
    (validateCperHeader uintnBits err size = true ↔ CperValid err size) ∧
      (validateCperHeader uintnBits err size = true →
        (sectionRanges err).Pairwise (fun r r' => Disjoint (ico r) (ico r')) ∧
        (∀ r ∈ sectionRanges err, descriptorOffset (sectionCount err) ≤ r.1 ∧ r.1 + r.2 ≤ size) ∧
        ∀ x, x ∈ Set.Ico (descriptorOffset (sectionCount err)) size ↔
          ∃ r ∈ sectionRanges err, x ∈ ico r) ∧
      ∀ err' : ByteMem, (∀ a < size, err' a = err a) →
        validateCperHeader uintnBits err' size = validateCperHeader uintnBits err size := by
  refine ⟨validateCperHeader_eq_true_iff hsize, fun hvalid => ?_,
    fun err' h => validateCperHeader_congr h⟩
  have htiles := ((validateCperHeader_eq_true_iff hsize).mp hvalid).tiles
  exact ⟨htiles.pairwise_disjoint, htiles.range_le, htiles.mem_iff⟩

/-- A record of 201 bytes with one section of one byte: the signature, `SectionCount = 1`,
`RecordLength = 201`, and a descriptor with `SectionOffset = 200` and `SectionLength = 1`. -/
def oneByteSectionRecord : ByteMem :=
  ((((ByteMem.write (fun _ => 0) 0 (leBytes 4 efiErrorRecordSignatureStart)).write 10
    (leBytes 2 1)).write 20 (leBytes 4 201)).write 128 (leBytes 4 200)).write 132 (leBytes 4 1)

theorem validateCperHeader_one_byte_section :
    201 < 2 ^ 64 ∧ validateCperHeader 64 oneByteSectionRecord 201 = true ∧
      ((validateCperHeader 64 oneByteSectionRecord 201 = true ↔
          CperValid oneByteSectionRecord 201) ∧
        (validateCperHeader 64 oneByteSectionRecord 201 = true →
          (sectionRanges oneByteSectionRecord).Pairwise (fun r r' => Disjoint (ico r) (ico r')) ∧
          (∀ r ∈ sectionRanges oneByteSectionRecord,
            descriptorOffset (sectionCount oneByteSectionRecord) ≤ r.1 ∧ r.1 + r.2 ≤ 201) ∧
          ∀ x, x ∈ Set.Ico (descriptorOffset (sectionCount oneByteSectionRecord)) 201 ↔
            ∃ r ∈ sectionRanges oneByteSectionRecord, x ∈ ico r) ∧
        ∀ err' : ByteMem, (∀ a < 201, err' a = oneByteSectionRecord a) →
          validateCperHeader 64 err' 201 = validateCperHeader 64 oneByteSectionRecord 201) :=
  ⟨by decide, by decide +kernel, validateCperHeader_spec 64 oneByteSectionRecord 201 (by decide)⟩

end MuPlus.Whea
