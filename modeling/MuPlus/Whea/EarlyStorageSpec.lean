import MuPlus.Whea.EarlyStorageMgr

/-!
# MuPlus.Whea.EarlyStorageSpec

**What the early store's functions do to the CMOS.** With the default capacity the store has
192 bytes (`msWheaEarlyStorageGetMaxSize_eq`), its data region 176 (`msWheaESGetMaxDataCount_eq`),
so the header sits at CMOS bytes 64 to 79 and the data region from byte 80.

* The reads, writes and clears of the store are the plain ones of `ByteMem` inside the store
  (`msWheaEarlyStorageRead_eq`, `msWheaESWriteData_eq`, ...), and the header and the records
  read back what was written (`EarlyStorageHeader.ofBytes_toBytes`,
  `EarlyStorageEntryV0.ofBytes_toBytes`).
* `checksumOf` is the checksum the store must hold: minus the word sum of the header, its
  checksum field cleared, and of the data in use. `MsWheaESCalculateChecksum16` computes it
  for every `ActiveRange` that is even and at most 176 and fails for every other
  (`msWheaESCalculateChecksum16_eq`, `msWheaESCalculateChecksum16_error`), so that
  `MsWheaESRegionIsValid` holds exactly of the stores `StoreValid` describes
  (`msWheaESRegionIsValid_iff`).
* The update of `MsWheaESContentChangeChecksumHelper` gives the checksum the full computation
  gives (`checksumOf_append`).
-/

namespace MuPlus.Whea

open ByteMem

@[simp] theorem msWheaEarlyStorageGetMaxSize_eq : msWheaEarlyStorageGetMaxSize = 192 := by
  decide

@[simp] theorem msWheaESGetMaxDataCount_eq : msWheaESGetMaxDataCount = 176 := by
  decide

/-! ### Reads and writes inside the store -/

/-- A nonempty range that ends at the capacity passes the raw functions' guard. -/
theorem rawRangeInvalid_eq_false {size offset : UInt8} (hsize : 0 < size.toNat)
    (h : offset.toNat + size.toNat ≤ 256) : rawRangeInvalid size offset = false := by
  have hsize' : size ≠ 0 := fun h0 => by simp [h0] at hsize
  have hcap : (pcdMsWheaReportEarlyStorageCapacity - size.toUInt32).toNat = 256 - size.toNat := by
    have hle : size.toUInt32 ≤ pcdMsWheaReportEarlyStorageCapacity := by
      rw [UInt32.le_iff_toNat_le]
      simp [pcdMsWheaReportEarlyStorageCapacity]
      omega
    rw [UInt32.toNat_sub_of_le _ _ hle]
    simp [pcdMsWheaReportEarlyStorageCapacity]
  have hlt : ¬(pcdMsWheaReportEarlyStorageCapacity - size.toUInt32).toUInt8 < offset := by
    rw [UInt8.lt_iff_toNat_lt, UInt32.toNat_toUInt8, hcap]
    omega
  simp only [rawRangeInvalid, hsize', hlt, decide_false, Bool.or_false]

/-- An offset into the store is a CMOS byte 64 further. -/
theorem toNat_storeOffset {offset : UInt8} (h : offset.toNat < 192) :
    (msWheaEarlyStorageOffset + offset).toNat = 64 + offset.toNat := by
  simp only [msWheaEarlyStorageOffset, UInt8.toNat_add]
  simp
  omega

/-- An offset into the data region is a store offset 16 further. -/
theorem toNat_dataOffset {offset : UInt8} (h : offset.toNat < 176) :
    (msWheaEarlyStorageHeaderSize + offset).toNat = 16 + offset.toNat := by
  simp only [msWheaEarlyStorageHeaderSize, UInt8.toNat_add]
  simp
  omega

section Inside

variable {size offset : UInt8}

/-- A nonempty range inside the store passes both guards of the store's functions, at the
CMOS byte 64 further. -/
theorem storeRange_valid (hsize : 0 < size.toNat) (h : offset.toNat + size.toNat ≤ 192) :
    ¬offset ≥ msWheaEarlyStorageGetMaxSize ∧
      rawRangeInvalid size (msWheaEarlyStorageOffset + offset) = false ∧
      (msWheaEarlyStorageOffset + offset).toNat = 64 + offset.toNat := by
  have hoffset : ¬offset ≥ msWheaEarlyStorageGetMaxSize := by
    rw [msWheaEarlyStorageGetMaxSize_eq, ge_iff_le, UInt8.le_iff_toNat_le]
    simp
    omega
  have hstore : (msWheaEarlyStorageOffset + offset).toNat = 64 + offset.toNat :=
    toNat_storeOffset (by omega)
  have hguard : rawRangeInvalid size (msWheaEarlyStorageOffset + offset) = false :=
    rawRangeInvalid_eq_false hsize (by omega)
  exact ⟨hoffset, hguard, hstore⟩

theorem msWheaEarlyStorageRead_eq (cmos : ByteMem) (hsize : 0 < size.toNat)
    (h : offset.toNat + size.toNat ≤ 192) :
    msWheaEarlyStorageRead cmos size offset = .ok (cmos.read (64 + offset.toNat) size.toNat) := by
  obtain ⟨hoffset, hguard, hstore⟩ := storeRange_valid hsize h
  simp only [msWheaEarlyStorageRead, hoffset, ↓reduceIte, msWheaCMOSRawRead, hguard,
    Bool.false_eq_true, hstore]

theorem msWheaEarlyStorageWrite_eq (cmos : ByteMem) (buffer : List UInt8) (hsize : 0 < size.toNat)
    (h : offset.toNat + size.toNat ≤ 192) :
    msWheaEarlyStorageWrite cmos buffer size offset =
      .ok (cmos.write (64 + offset.toNat) (buffer.take size.toNat)) := by
  obtain ⟨hoffset, hguard, hstore⟩ := storeRange_valid hsize h
  simp only [msWheaEarlyStorageWrite, hoffset, ↓reduceIte, msWheaCMOSRawWrite, hguard,
    Bool.false_eq_true, hstore]

theorem msWheaEarlyStorageClear_eq (defaultValue : UInt8) (cmos : ByteMem)
    (hsize : 0 < size.toNat) (h : offset.toNat + size.toNat ≤ 192) :
    msWheaEarlyStorageClear defaultValue cmos size offset =
      .ok (cmos.write (64 + offset.toNat) (List.replicate size.toNat defaultValue)) := by
  obtain ⟨hoffset, hguard, hstore⟩ := storeRange_valid hsize h
  simp only [msWheaEarlyStorageClear, hoffset, ↓reduceIte, msWheaCMOSRawClear, hguard,
    Bool.false_eq_true, hstore]

end Inside

/-- The header read cannot fail. -/
theorem msWheaEarlyStorageRead_header (cmos : ByteMem) :
    msWheaEarlyStorageRead cmos msWheaEarlyStorageHeaderSize 0 = .ok (cmos.read 64 16) :=
  msWheaEarlyStorageRead_eq cmos (by decide) (by decide)

section Data

variable (defaultValue : UInt8) {size offset : UInt8}

/-- A nonempty range of the data region passes the data functions' guard, at the store
offset 16 further. -/
theorem dataRange_valid (hsize : 0 < size.toNat) (h : offset.toNat + size.toNat ≤ 176) :
    ¬offset ≥ msWheaESGetMaxDataCount ∧
      (msWheaEarlyStorageHeaderSize + offset).toNat + size.toNat ≤ 192 ∧
      (msWheaEarlyStorageHeaderSize + offset).toNat = 16 + offset.toNat := by
  have hoffset : ¬offset ≥ msWheaESGetMaxDataCount := by
    rw [msWheaESGetMaxDataCount_eq, ge_iff_le, UInt8.le_iff_toNat_le]
    simp
    omega
  have hdata : (msWheaEarlyStorageHeaderSize + offset).toNat = 16 + offset.toNat :=
    toNat_dataOffset (by omega)
  exact ⟨hoffset, by omega, hdata⟩

theorem msWheaESReadData_eq (cmos : ByteMem) (hsize : 0 < size.toNat)
    (h : offset.toNat + size.toNat ≤ 176) :
    msWheaESReadData cmos size offset = .ok (cmos.read (80 + offset.toNat) size.toNat) := by
  obtain ⟨hoffset, hrange, hdata⟩ := dataRange_valid hsize h
  rw [msWheaESReadData, if_neg hoffset, msWheaEarlyStorageRead_eq cmos hsize hrange, hdata,
    ← Nat.add_assoc]

theorem msWheaESWriteData_eq (cmos : ByteMem) (buffer : List UInt8) (hsize : 0 < size.toNat)
    (h : offset.toNat + size.toNat ≤ 176) :
    msWheaESWriteData cmos buffer size offset =
      .ok (cmos.write (80 + offset.toNat) (buffer.take size.toNat)) := by
  obtain ⟨hoffset, hrange, hdata⟩ := dataRange_valid hsize h
  rw [msWheaESWriteData, if_neg hoffset, msWheaEarlyStorageWrite_eq cmos buffer hsize hrange,
    hdata, ← Nat.add_assoc]

theorem msWheaESClearData_eq (cmos : ByteMem) (hsize : 0 < size.toNat)
    (h : offset.toNat + size.toNat ≤ 176) :
    msWheaESClearData defaultValue cmos size offset =
      .ok (cmos.write (80 + offset.toNat) (List.replicate size.toNat defaultValue)) := by
  obtain ⟨hoffset, hrange, hdata⟩ := dataRange_valid hsize h
  rw [msWheaESClearData, if_neg hoffset, msWheaEarlyStorageClear_eq defaultValue cmos hsize hrange,
    hdata, ← Nat.add_assoc]

/-- `MsWheaESClearAllData` fills the data region with the default value. -/
theorem msWheaESClearAllData_eq (cmos : ByteMem) :
    msWheaESClearAllData defaultValue cmos = cmos.write 80 (List.replicate 176 defaultValue) := by
  rw [msWheaESClearAllData, msWheaESClearData_eq defaultValue cmos (by decide) (by decide)]
  rfl

end Data

/-! ### The header and the records in bytes -/

@[simp] theorem EfiGuid.length_toBytes (g : EfiGuid) : g.toBytes.length = 16 := by
  simp [EfiGuid.toBytes]

@[simp] theorem EarlyStorageHeader.length_toBytes (h : EarlyStorageHeader) :
    h.toBytes.length = 16 := by
  simp [EarlyStorageHeader.toBytes]

@[simp] theorem EarlyStorageEntryV0.length_toBytes (e : EarlyStorageEntryV0) :
    e.toBytes.length = 56 := by
  simp [EarlyStorageEntryV0.toBytes]

theorem EfiGuid.ofBytes_toBytes (g : EfiGuid) (rest : List UInt8) :
    EfiGuid.ofBytes (g.toBytes ++ rest) = g := by
  cases g
  simp [EfiGuid.ofBytes, EfiGuid.toBytes, fieldAt, List.drop_append, leValue_leBytes,
    List.drop_eq_nil_of_le]

@[simp] theorem EarlyStorageHeader.ofBytes_toBytes (h : EarlyStorageHeader) :
    EarlyStorageHeader.ofBytes h.toBytes = h := by
  cases h
  simp [EarlyStorageHeader.ofBytes, EarlyStorageHeader.toBytes, fieldAt, List.drop_append,
    List.take_append, leValue_leBytes, List.drop_eq_nil_of_le, List.take_of_length_le, leValue]

@[simp] theorem EarlyStorageEntryV0.ofBytes_toBytes (e : EarlyStorageEntryV0) :
    EarlyStorageEntryV0.ofBytes e.toBytes = e := by
  cases e
  simp [EarlyStorageEntryV0.ofBytes, EarlyStorageEntryV0.toBytes, fieldAt, List.drop_append,
    List.take_append, leValue_leBytes, List.drop_eq_nil_of_le, leValue, EfiGuid.ofBytes_toBytes]
  simpa using EfiGuid.ofBytes_toBytes _ []

/-! ### The header in the CMOS -/

/-- The data bytes in use: `ActiveRange` bytes from CMOS byte 80. -/
def activeData (cmos : ByteMem) : List UInt8 :=
  cmos.read 80 (readHeader cmos).activeRange.toNat

theorem readHeader_eq (cmos : ByteMem) : readHeader cmos = .ofBytes (cmos.read 64 16) :=
  rfl

theorem msWheaESWriteHeader_eq (cmos : ByteMem) (header : EarlyStorageHeader) :
    msWheaESWriteHeader cmos header = cmos.write 64 header.toBytes := by
  have htake : header.toBytes.take msWheaEarlyStorageHeaderSize.toNat = header.toBytes :=
    List.take_of_length_le (by rw [EarlyStorageHeader.length_toBytes]; decide)
  rw [msWheaESWriteHeader, msWheaEarlyStorageWrite_eq cmos header.toBytes (by decide) (by decide),
    htake]
  rfl

@[simp] theorem readHeader_msWheaESWriteHeader (cmos : ByteMem) (header : EarlyStorageHeader) :
    readHeader (msWheaESWriteHeader cmos header) = header := by
  have hread := read_write_self cmos 64 header.toBytes
  rw [EarlyStorageHeader.length_toBytes] at hread
  rw [msWheaESWriteHeader_eq, readHeader_eq, hread, EarlyStorageHeader.ofBytes_toBytes]

/-- Writing the header leaves the data region as it was. -/
theorem read_msWheaESWriteHeader (cmos : ByteMem) (header : EarlyStorageHeader) {a n : Nat}
    (h : 80 ≤ a) : (msWheaESWriteHeader cmos header).read a n = cmos.read a n := by
  rw [msWheaESWriteHeader_eq]
  exact read_write_of_disjoint (by simp; omega)

/-- Writing the data region leaves the header as it was. -/
theorem readHeader_write_of_le {cmos : ByteMem} {a : Nat} (bytes : List UInt8) (h : 80 ≤ a) :
    readHeader (cmos.write a bytes) = readHeader cmos := by
  rw [readHeader_eq, readHeader_eq, read_write_of_disjoint (by omega)]

/-! ### The checksum -/

/-- The checksum a store with this header and these data bytes in use must hold: minus the
word sum of the header, its checksum field cleared, and of the data. -/
def checksumOf (header : EarlyStorageHeader) (data : List UInt8) : UInt16 :=
  0 - (sum16 { header with checksum := 0 }.toBytes + sum16 data)

/-- A store offset at or past its end is refused. -/
theorem msWheaEarlyStorageRead_of_ge (cmos : ByteMem) {size offset : UInt8}
    (h : 192 ≤ offset.toNat) : msWheaEarlyStorageRead cmos size offset = .error .invalidParameter := by
  have hoffset : offset ≥ msWheaEarlyStorageGetMaxSize := by
    rw [msWheaEarlyStorageGetMaxSize_eq, ge_iff_le, UInt8.le_iff_toNat_le]
    simpa using h
  rw [msWheaEarlyStorageRead, if_pos hoffset]

/-- The checksum loop's offset of a data index. -/
theorem toNat_checksumOffset {index : Nat} (h : index < 240) :
    (msWheaEarlyStorageHeaderSize.toNat + index).toUInt8.toNat = 16 + index := by
  have h16 : msWheaEarlyStorageHeaderSize.toNat = 16 := rfl
  rw [h16, Nat.toUInt8_eq, UInt8.toNat_ofNat']
  omega

/-- A word of the data region read by the checksum loop. -/
theorem checksumWordRead_eq (cmos : ByteMem) {index : Nat} (h : index + 2 ≤ 176) :
    msWheaEarlyStorageRead cmos 2 (msWheaEarlyStorageHeaderSize.toNat + index).toUInt8 =
      .ok (cmos.read (80 + index) 2) := by
  have hoffset : (msWheaEarlyStorageHeaderSize.toNat + index).toUInt8.toNat = 16 + index :=
    toNat_checksumOffset (by omega)
  rw [msWheaEarlyStorageRead_eq cmos (by decide) (by rw [hoffset]; simp; omega), hoffset,
    show 64 + (16 + index) = 80 + index by omega]
  rfl

/-- **The checksum loop** over an even `ActiveRange` inside the data region adds the word sum
of the data from `index` on. -/
theorem checksum16Loop_eq (cmos : ByteMem) {activeRange : UInt32} (hAR : activeRange.toNat ≤ 176)
    (heven : activeRange.toNat % 2 = 0) {index : Nat} {sum : UInt16} (hidx : index ≤ activeRange.toNat)
    (hidxeven : index % 2 = 0) :
    checksum16Loop cmos activeRange index sum =
      .ok (sum + sum16 (cmos.read (80 + index) (activeRange.toNat - index))) := by
  induction index, sum using checksum16Loop.induct cmos activeRange with
  | case1 index sum hlt status hread =>
      -- a word inside the data region is always read
      rw [checksumWordRead_eq cmos (by omega)] at hread
      cases hread
  | case2 index sum hlt data hread ih =>
      rw [checksumWordRead_eq cmos (by omega)] at hread
      cases hread
      have hsplit : cmos.read (80 + index) (activeRange.toNat - index) =
          cmos.read (80 + index) 2 ++ cmos.read (80 + (index + 2)) (activeRange.toNat - (index + 2)) := by
        rw [show activeRange.toNat - index = 2 + (activeRange.toNat - (index + 2)) by omega, read_add,
          Nat.add_assoc]
      have hword : sum16 (cmos.read (80 + index) 2) = (leValue (cmos.read (80 + index) 2)).toUInt16 := by
        simp [read_succ, word16]
      rw [checksum16Loop, if_pos hlt, checksumWordRead_eq cmos (by omega)]
      simp only
      rw [ih (by omega) (by omega), hsplit, sum16_append _ (by simp), hword, UInt16.add_assoc]
  | case3 index sum hge =>
      rw [checksum16Loop, if_neg hge, show activeRange.toNat - index = 0 by omega, read_zero,
        sum16_nil]
      simp

/-- An `ActiveRange` past the data region makes the checksum loop fail at the end of the
store. -/
theorem checksum16Loop_error (cmos : ByteMem) {activeRange : UInt32} (hAR : 176 < activeRange.toNat)
    {index : Nat} {sum : UInt16} (hidx : index ≤ 176) (hidxeven : index % 2 = 0) :
    ∃ status, checksum16Loop cmos activeRange index sum = .error status := by
  induction index, sum using checksum16Loop.induct cmos activeRange with
  | case1 index sum hlt status hread =>
      rw [checksum16Loop, if_pos hlt, hread]
      exact ⟨status, rfl⟩
  | case2 index sum hlt data hread ih =>
      by_cases hend : index = 176
      · -- the word at data offset 176 is the store's byte 192, which is refused
        subst hend
        have hoffset : (msWheaEarlyStorageHeaderSize.toNat + 176).toUInt8.toNat = 192 :=
          toNat_checksumOffset (by omega)
        rw [msWheaEarlyStorageRead_of_ge cmos (by omega)] at hread
        cases hread
      · rw [checksum16Loop, if_pos hlt, hread]
        exact ih (by omega) (by omega)
  | case3 index sum hge => omega

theorem toNat_and_one (x : UInt32) : (x &&& 1).toNat = x.toNat % 2 := by
  simp [UInt32.toNat_and, Nat.and_one_is_mod]

/-- **`MsWheaESCalculateChecksum16`** of an even `ActiveRange` inside the data region is
`checksumOf` the header and the data in use. -/
theorem msWheaESCalculateChecksum16_eq (cmos : ByteMem) {header : EarlyStorageHeader}
    (hAR : header.activeRange.toNat ≤ 176) (heven : header.activeRange.toNat % 2 = 0) :
    msWheaESCalculateChecksum16 cmos header =
      .ok (checksumOf header (cmos.read 80 header.activeRange.toNat)) := by
  have hsize : ¬(header.activeRange > msWheaEarlyStorageGetMaxSize.toUInt32 ∨
      header.activeRange &&& 1 ≠ 0) := by
    rw [not_or, ne_eq, not_not, ← UInt32.toNat_inj, toNat_and_one, gt_iff_lt, UInt32.lt_iff_toNat_lt,
      msWheaEarlyStorageGetMaxSize_eq]
    simp
    omega
  rw [msWheaESCalculateChecksum16, if_neg hsize,
    checksum16Loop_eq cmos hAR heven (Nat.zero_le _) (by rfl)]
  simp only [Nat.add_zero, Nat.sub_zero, checksumOf]

/-- Any other `ActiveRange` makes `MsWheaESCalculateChecksum16` fail. -/
theorem msWheaESCalculateChecksum16_error (cmos : ByteMem) {header : EarlyStorageHeader}
    (h : 176 < header.activeRange.toNat ∨ header.activeRange.toNat % 2 = 1) :
    ∃ status, msWheaESCalculateChecksum16 cmos header = .error status := by
  by_cases hsize : header.activeRange > msWheaEarlyStorageGetMaxSize.toUInt32 ∨
      header.activeRange &&& 1 ≠ 0
  · exact ⟨.badBufferSize, by rw [msWheaESCalculateChecksum16, if_pos hsize]⟩
  · -- an even `ActiveRange` up to 192: the loop runs past the data region
    have hAR : 176 < header.activeRange.toNat := by
      rw [not_or, ne_eq, not_not, ← UInt32.toNat_inj, toNat_and_one] at hsize
      simp at hsize
      omega
    have hloop : ∃ status, checksum16Loop cmos header.activeRange 0
        (sum16 { header with checksum := 0 }.toBytes) = .error status :=
      checksum16Loop_error cmos hAR (by omega) (by rfl)
    obtain ⟨status, hloop⟩ := hloop
    exact ⟨status, by rw [msWheaESCalculateChecksum16, if_neg hsize, hloop]⟩

/-! ### Valid stores -/

/-- A store that `MsWheaESRegionIsValid` accepts: the signature, an even `ActiveRange` inside
the data region, and the checksum of the header and of the data in use. -/
structure StoreValid (cmos : ByteMem) : Prop where
  signature : (readHeader cmos).signature = msWheaEarlyStorageSignature
  activeRange_le : (readHeader cmos).activeRange.toNat ≤ 176
  activeRange_even : (readHeader cmos).activeRange.toNat % 2 = 0
  checksum : (readHeader cmos).checksum = checksumOf (readHeader cmos) (activeData cmos)

theorem msWheaESRegionIsValid_header (cmos : ByteMem) :
    (msWheaESRegionIsValid cmos).2 = readHeader cmos := by
  unfold msWheaESRegionIsValid
  dsimp only
  split <;> rfl

/-- **`MsWheaESRegionIsValid` accepts exactly the valid stores.** -/
theorem msWheaESRegionIsValid_iff (cmos : ByteMem) :
    (msWheaESRegionIsValid cmos).1 = true ↔ StoreValid cmos := by
  constructor
  · intro hvalid
    by_cases hAR : (readHeader cmos).activeRange.toNat ≤ 176 ∧
        (readHeader cmos).activeRange.toNat % 2 = 0
    · obtain ⟨hle, heven⟩ := hAR
      simp only [msWheaESRegionIsValid, msWheaESCalculateChecksum16_eq cmos hle heven,
        Bool.and_eq_true, beq_iff_eq] at hvalid
      exact ⟨hvalid.1, hle, heven, hvalid.2.symm⟩
    · -- otherwise the checksum computation fails, and the store is refused
      obtain ⟨status, herror⟩ := @msWheaESCalculateChecksum16_error cmos (readHeader cmos)
        (by omega)
      simp [msWheaESRegionIsValid, herror] at hvalid
  · intro hvalid
    simp only [msWheaESRegionIsValid,
      msWheaESCalculateChecksum16_eq cmos hvalid.activeRange_le hvalid.activeRange_even,
      hvalid.signature, beq_self_eq_true, Bool.true_and, beq_iff_eq]
    exact hvalid.checksum.symm

theorem msWheaESRegionIsValid_of_valid {cmos : ByteMem} (h : StoreValid cmos) :
    msWheaESRegionIsValid cmos = (true, readHeader cmos) := by
  rw [← msWheaESRegionIsValid_header cmos, ← (msWheaESRegionIsValid_iff cmos).mpr h]

/-! ### The incremental checksum -/

theorem toUInt16_toNat_div (x : UInt32) : (x.toNat / 65536).toUInt16 = (x >>> 16).toUInt16 := by
  apply UInt16.toNat_inj.mp
  simp [UInt32.toNat_shiftRight, Nat.shiftRight_eq_div_pow]

/-- The word sum of a header changes with its `ActiveRange` by the two words of each. -/
theorem sum16_toBytes_activeRange (h : EarlyStorageHeader) (activeRange : UInt32) :
    sum16 { h with activeRange }.toBytes =
      sum16 h.toBytes - h.activeRange.toUInt16 - (h.activeRange >>> 16).toUInt16 +
        activeRange.toUInt16 + (activeRange >>> 16).toUInt16 := by
  simp only [EarlyStorageHeader.toBytes]
  rw [sum16_append _ (by simp), sum16_append _ (by simp), sum16_append _ (by simp),
    sum16_append _ (by simp), sum16_append _ (by simp), sum16_append _ (by simp),
    sum16_append _ (by simp), sum16_append _ (by simp)]
  simp only [sum16_leBytes_four, Nat.toUInt16_eq, UInt16.ofNat_uInt32ToNat, toUInt16_toNat_div]
  grind

/-- **The incremental update is the full computation.** Taking the old `ActiveRange`'s words
out of the stored sum, putting the new one's in and adding the new data's words gives the
checksum of the new header and of the data followed by the new bytes. -/
theorem checksumOf_append (h : EarlyStorageHeader) {data : List UInt8} (buffer : List UInt8)
    (heven : data.length % 2 = 0) (activeRange : UInt32) :
    (0 : UInt16) - ((0 - checksumOf h data) - h.activeRange.toUInt16 -
        (h.activeRange >>> (16 : UInt32)).toUInt16 + activeRange.toUInt16 +
        (activeRange >>> (16 : UInt32)).toUInt16 + sum16 buffer) =
      checksumOf { h with activeRange } (data ++ buffer) := by
  have hheader : sum16 { { h with activeRange } with checksum := 0 }.toBytes =
      sum16 { h with checksum := 0 }.toBytes - h.activeRange.toUInt16 -
        (h.activeRange >>> 16).toUInt16 + activeRange.toUInt16 + (activeRange >>> 16).toUInt16 :=
    sum16_toBytes_activeRange { h with checksum := 0 } activeRange
  unfold checksumOf
  rw [hheader, sum16_append _ heven]
  grind

end MuPlus.Whea
