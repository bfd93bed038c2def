import MuPlus.Whea.EarlyStorageSpec

/-!
# MuPlus.Whea.EarlyStorageRun

**The early store over a boot.** On a valid store every call does one of three things
(`msWheaESStoreEntry_of_valid`, `msWheaESAddRecordV0Internal_of_valid`): it appends its record
after the data in use (`appendRecord`), it finds no room and marks the store full
(`markFull`, for `MsWheaESStoreEntry` only), or it stores nothing. `MsWheaESV0InfoStore`, which
updates the checksum from the stored one, and `MsWheaESAddRecordV0Internal`, which recomputes
it, write the same store (`msWheaESV0InfoStore_eq_addRecordV0Internal`).
-/

namespace MuPlus.Whea

open ByteMem

/-! ### The three outcomes -/

/-- The store after a record is appended to the data in use: the record, then the header
with the longer `ActiveRange` and the checksum of it all. -/
def appendRecord (cmos : ByteMem) (e : EarlyStorageEntryV0) : ByteMem :=
  let h := readHeader cmos
  let h' := { h with activeRange := h.activeRange + msWheaEarlyStorageEntryV0Size.toUInt32 }
  msWheaESWriteHeader (cmos.write (80 + h.activeRange.toNat) e.toBytes)
    { h' with checksum := checksumOf h' (activeData cmos ++ e.toBytes) }

/-- The store after it is marked full with a phase, the checksum recomputed; a store already
marked stays as it is. -/
def markFull (cmos : ByteMem) (phase : UInt8) : ByteMem :=
  let h := readHeader cmos
  if h.isStorageFull ≠ 0 then cmos
  else
    let h' := { h with isStorageFull := 1, fullPhase := phase }
    msWheaESWriteHeader cmos { h' with checksum := checksumOf h' (activeData cmos) }

/-- Whether a record fits after the data in use. -/
def hasRoom (cmos : ByteMem) : Prop :=
  (readHeader cmos).activeRange.toNat + 56 ≤ 176

instance (cmos : ByteMem) : Decidable (hasRoom cmos) :=
  inferInstanceAs (Decidable (_ ≤ _))

theorem toNat_activeRange_add {activeRange : UInt32} (h : activeRange.toNat ≤ 176) :
    (activeRange + msWheaEarlyStorageEntryV0Size.toUInt32).toNat = activeRange.toNat + 56 := by
  rw [UInt32.toNat_add]
  simp [msWheaEarlyStorageEntryV0Size]
  omega

section Valid

variable {cmos : ByteMem}

theorem readHeader_appendRecord (e : EarlyStorageEntryV0) :
    readHeader (appendRecord cmos e) =
      { readHeader cmos with
        activeRange := (readHeader cmos).activeRange + msWheaEarlyStorageEntryV0Size.toUInt32,
        checksum := checksumOf { readHeader cmos with
          activeRange := (readHeader cmos).activeRange + msWheaEarlyStorageEntryV0Size.toUInt32 }
          (activeData cmos ++ e.toBytes) } := by
  rw [appendRecord, readHeader_msWheaESWriteHeader]

/-- An appended record follows the data in use. -/
theorem activeData_appendRecord (hvalid : StoreValid cmos) (e : EarlyStorageEntryV0) :
    activeData (appendRecord cmos e) = activeData cmos ++ e.toBytes := by
  have hAR := toNat_activeRange_add hvalid.activeRange_le
  have hdata := read_write_append cmos 80 (readHeader cmos).activeRange.toNat e.toBytes
  rw [EarlyStorageEntryV0.length_toBytes] at hdata
  rw [activeData, readHeader_appendRecord]
  simp only [hAR]
  rw [appendRecord, read_msWheaESWriteHeader _ _ (Nat.le_refl 80), hdata]
  rfl

theorem storeValid_appendRecord (hvalid : StoreValid cmos) (hroom : hasRoom cmos)
    (e : EarlyStorageEntryV0) : StoreValid (appendRecord cmos e) := by
  have hAR := toNat_activeRange_add hvalid.activeRange_le
  have hdata := activeData_appendRecord hvalid e
  refine ⟨?_, ?_, ?_, ?_⟩
  · rw [readHeader_appendRecord]
    exact hvalid.signature
  · rw [readHeader_appendRecord]
    simp only [hAR]
    exact hroom
  · rw [readHeader_appendRecord]
    simp only [hAR]
    have := hvalid.activeRange_even
    omega
  · rw [hdata, readHeader_appendRecord]
    simp only [checksumOf]

theorem readHeader_markFull (phase : UInt8) :
    readHeader (markFull cmos phase) =
      if (readHeader cmos).isStorageFull ≠ 0 then readHeader cmos
      else
        { readHeader cmos with
          isStorageFull := 1, fullPhase := phase,
          checksum := checksumOf { readHeader cmos with isStorageFull := 1, fullPhase := phase }
            (activeData cmos) } := by
  rw [markFull]
  split_ifs
  · rfl
  · rw [readHeader_msWheaESWriteHeader]

/-- Marking the store full leaves the data in use as it was. -/
theorem activeData_markFull (phase : UInt8) : activeData (markFull cmos phase) = activeData cmos := by
  rw [activeData, readHeader_markFull]
  split_ifs
  · rw [markFull, if_pos ‹_›]
    rfl
  · rw [markFull, if_neg ‹_›, read_msWheaESWriteHeader _ _ (Nat.le_refl 80)]
    rfl

theorem storeValid_markFull (hvalid : StoreValid cmos) (phase : UInt8) :
    StoreValid (markFull cmos phase) := by
  have hdata := @activeData_markFull cmos phase
  by_cases hfull : (readHeader cmos).isStorageFull ≠ 0
  · rw [markFull, if_pos hfull]
    exact hvalid
  · have hheader := @readHeader_markFull cmos phase
    rw [if_neg hfull] at hheader
    refine ⟨?_, ?_, ?_, ?_⟩
    · rw [hheader]
      exact hvalid.signature
    · rw [hheader]
      exact hvalid.activeRange_le
    · rw [hheader]
      exact hvalid.activeRange_even
    · rw [hdata, hheader]
      simp only [checksumOf]

end Valid

/-! ### Each call on a valid store -/

/-- The header write of the store functions, whose status the callers drop, succeeds. -/
theorem msWheaEarlyStorageWrite_header (cmos : ByteMem) (header : EarlyStorageHeader) :
    msWheaEarlyStorageWrite cmos header.toBytes msWheaEarlyStorageHeaderSize 0 =
      .ok (msWheaESWriteHeader cmos header) := by
  rw [msWheaESWriteHeader_eq, ← msWheaESWriteHeader_eq]
  rw [msWheaESWriteHeader, msWheaEarlyStorageWrite_eq cmos header.toBytes (by decide) (by decide)]

/-- `MsWheaESHeaderChangeChecksumHelper` of a header with an even `ActiveRange` inside the data
region writes it with the checksum of the data in its range. -/
theorem msWheaESHeaderChangeChecksumHelper_eq (cmos : ByteMem) (header : EarlyStorageHeader)
    (hAR : header.activeRange.toNat ≤ 176) (heven : header.activeRange.toNat % 2 = 0) :
    msWheaESHeaderChangeChecksumHelper cmos header =
      msWheaESWriteHeader cmos
        { header with checksum := checksumOf header (cmos.read 80 header.activeRange.toNat) } := by
  rw [msWheaESHeaderChangeChecksumHelper, msWheaESCalculateChecksum16_eq cmos hAR heven]

section Calls

variable {cmos : ByteMem}

theorem length_activeData (cmos : ByteMem) :
    (activeData cmos).length = (readHeader cmos).activeRange.toNat := by
  rw [activeData, length_read]

/-- The free slot's offset is the `ActiveRange` itself. -/
theorem toNat_slot (hvalid : StoreValid cmos) :
    (readHeader cmos).activeRange.toUInt8.toNat = (readHeader cmos).activeRange.toNat := by
  have hAR := hvalid.activeRange_le
  rw [UInt32.toNat_toUInt8]
  omega

/-- `MsWheaESFindSlot` for a record: the end of the data in use, if the record fits. -/
theorem msWheaESFindSlot_of_valid (hvalid : StoreValid cmos) :
    msWheaESFindSlot cmos msWheaEarlyStorageEntryV0Size =
      if hasRoom cmos then .ok (readHeader cmos).activeRange.toUInt8 else .error .outOfResources := by
  have hAR := toNat_activeRange_add hvalid.activeRange_le
  have hiff : (readHeader cmos).activeRange + msWheaEarlyStorageEntryV0Size.toUInt32 ≤
      msWheaESGetMaxDataCount.toUInt32 ↔ hasRoom cmos := by
    rw [UInt32.le_iff_toNat_le, hAR, msWheaESGetMaxDataCount_eq, hasRoom]
    simp
  unfold msWheaESFindSlot
  dsimp only
  by_cases hroom : hasRoom cmos
  · rw [if_pos hroom, if_pos (hiff.mpr hroom)]
  · rw [if_neg hroom, if_neg (mt hiff.mp hroom)]

/-- **`MsWheaESContentChangeChecksumHelper`**, after bytes were written at the end of the data
in use, writes the header of the longer data with its full checksum. -/
theorem msWheaESContentChangeChecksumHelper_write (hvalid : StoreValid cmos)
    (buffer : List UInt8) :
    msWheaESContentChangeChecksumHelper
        (cmos.write (80 + (readHeader cmos).activeRange.toNat) buffer) buffer =
      msWheaESWriteHeader (cmos.write (80 + (readHeader cmos).activeRange.toNat) buffer)
        { readHeader cmos with
          activeRange := (readHeader cmos).activeRange + buffer.length.toUInt32,
          checksum := checksumOf { readHeader cmos with
            activeRange := (readHeader cmos).activeRange + buffer.length.toUInt32 }
            (activeData cmos ++ buffer) } := by
  have hheader : readHeader (cmos.write (80 + (readHeader cmos).activeRange.toNat) buffer) =
      readHeader cmos :=
    readHeader_write_of_le buffer (Nat.le_add_right 80 _)
  have heven : (activeData cmos).length % 2 = 0 := by
    rw [length_activeData]
    exact hvalid.activeRange_even
  unfold msWheaESContentChangeChecksumHelper
  dsimp only
  rw [hheader, hvalid.checksum, checksumOf_append _ _ heven]
  -- `checksumOf` clears the checksum field it is given
  simp only [checksumOf]

theorem length_toBytes_toUInt32 (e : EarlyStorageEntryV0) :
    e.toBytes.length.toUInt32 = msWheaEarlyStorageEntryV0Size.toUInt32 := by
  rw [EarlyStorageEntryV0.length_toBytes]
  decide

/-- A record written at the free slot of a store with room. -/
theorem msWheaESWriteData_slot (hvalid : StoreValid cmos) (hroom : hasRoom cmos)
    (e : EarlyStorageEntryV0) :
    msWheaESWriteData cmos e.toBytes msWheaEarlyStorageEntryV0Size
        (readHeader cmos).activeRange.toUInt8 =
      .ok (cmos.write (80 + (readHeader cmos).activeRange.toNat) e.toBytes) := by
  have hslot := toNat_slot hvalid
  have htake : e.toBytes.take msWheaEarlyStorageEntryV0Size.toNat = e.toBytes :=
    List.take_of_length_le (by rw [EarlyStorageEntryV0.length_toBytes]; rfl)
  rw [msWheaESWriteData_eq cmos e.toBytes (by decide) (by rw [hslot]; exact hroom), hslot, htake]

/-- **`MsWheaESV0InfoStore`** on a valid store with room appends the record. -/
theorem msWheaESV0InfoStore_of_room (hvalid : StoreValid cmos) (hroom : hasRoom cmos)
    (md : MsWheaErrorEntryMd) :
    msWheaESV0InfoStore cmos md = (.success, appendRecord cmos (.ofMd md)) := by
  have hlength := length_toBytes_toUInt32 (EarlyStorageEntryV0.ofMd md)
  rw [msWheaESV0InfoStore, msWheaESFindSlot_of_valid hvalid, if_pos hroom]
  dsimp only
  rw [msWheaESWriteData_slot hvalid hroom]
  dsimp only
  rw [msWheaESContentChangeChecksumHelper_write hvalid, hlength]
  rfl

/-- `MsWheaESV0InfoStore` on a valid store without room leaves it as it is. -/
theorem msWheaESV0InfoStore_of_not_room (hvalid : StoreValid cmos) (hroom : ¬hasRoom cmos)
    (md : MsWheaErrorEntryMd) : msWheaESV0InfoStore cmos md = (.outOfResources, cmos) := by
  rw [msWheaESV0InfoStore, msWheaESFindSlot_of_valid hvalid, if_neg hroom]

/-- **`MsWheaESAddRecordV0Internal`** on a valid store with room appends the record: the
recomputed checksum is the one `MsWheaESV0InfoStore` updates. -/
theorem msWheaESAddRecordV0Internal_of_room (hvalid : StoreValid cmos) (hroom : hasRoom cmos)
    (e : EarlyStorageEntryV0) :
    msWheaESAddRecordV0Internal cmos e = (.success, appendRecord cmos e) := by
  have hslot := toNat_slot hvalid
  have hAR := toNat_activeRange_add hvalid.activeRange_le
  have hoffset : (msWheaEarlyStorageHeaderSize + (readHeader cmos).activeRange.toUInt8).toNat =
      16 + (readHeader cmos).activeRange.toNat := by
    rw [toNat_dataOffset (by rw [hslot]; unfold hasRoom at hroom; omega), hslot]
  have htake : e.toBytes.take msWheaEarlyStorageEntryV0Size.toNat = e.toBytes :=
    List.take_of_length_le (by rw [EarlyStorageEntryV0.length_toBytes]; rfl)
  have hsize : msWheaEarlyStorageEntryV0Size.toNat = 56 := rfl
  -- the record goes 16 bytes into the store past the data in use
  have hwrite : msWheaEarlyStorageWrite cmos e.toBytes msWheaEarlyStorageEntryV0Size
      (msWheaEarlyStorageHeaderSize + (readHeader cmos).activeRange.toUInt8) =
      .ok (cmos.write (80 + (readHeader cmos).activeRange.toNat) e.toBytes) := by
    rw [msWheaEarlyStorageWrite_eq cmos e.toBytes (by decide)
      (by rw [hoffset, hsize]; unfold hasRoom at hroom; omega), hoffset, htake, ← Nat.add_assoc]
  have hheader : readHeader (cmos.write (80 + (readHeader cmos).activeRange.toNat) e.toBytes) =
      readHeader cmos :=
    readHeader_write_of_le e.toBytes (Nat.le_add_right 80 _)
  -- the data of the longer header is the old data and the record
  have hdata : (cmos.write (80 + (readHeader cmos).activeRange.toNat) e.toBytes).read 80
      ((readHeader cmos).activeRange + msWheaEarlyStorageEntryV0Size.toUInt32).toNat =
      activeData cmos ++ e.toBytes := by
    have happend := read_write_append cmos 80 (readHeader cmos).activeRange.toNat e.toBytes
    rw [EarlyStorageEntryV0.length_toBytes] at happend
    rw [hAR, happend]
    rfl
  -- the full checksum of the longer header
  have hcalc : msWheaESCalculateChecksum16
      (cmos.write (80 + (readHeader cmos).activeRange.toNat) e.toBytes)
      { readHeader cmos with
        activeRange := (readHeader cmos).activeRange + msWheaEarlyStorageEntryV0Size.toUInt32 } =
      .ok (checksumOf { readHeader cmos with
        activeRange := (readHeader cmos).activeRange + msWheaEarlyStorageEntryV0Size.toUInt32 }
        (activeData cmos ++ e.toBytes)) := by
    have hle : ((readHeader cmos).activeRange + msWheaEarlyStorageEntryV0Size.toUInt32).toNat ≤ 176 := by
      rw [hAR]
      exact hroom
    have heven : ((readHeader cmos).activeRange + msWheaEarlyStorageEntryV0Size.toUInt32).toNat % 2 = 0 := by
      have := hvalid.activeRange_even
      omega
    rw [@msWheaESCalculateChecksum16_eq _ { readHeader cmos with
      activeRange := (readHeader cmos).activeRange + msWheaEarlyStorageEntryV0Size.toUInt32 }
      hle heven, hdata]
  rw [msWheaESAddRecordV0Internal, msWheaESFindSlot_of_valid hvalid, if_pos hroom]
  dsimp only
  rw [hwrite]
  dsimp only
  rw [msWheaEarlyStorageRead_header]
  dsimp only
  rw [← readHeader_eq, hheader, hcalc]
  dsimp only
  rw [msWheaEarlyStorageWrite_header]
  dsimp only
  rw [msWheaEarlyStorageRead_header]
  dsimp only
  rw [appendRecord]

/-- `MsWheaESAddRecordV0Internal` on a valid store without room leaves it as it is. -/
theorem msWheaESAddRecordV0Internal_of_not_room (hvalid : StoreValid cmos)
    (hroom : ¬hasRoom cmos) (e : EarlyStorageEntryV0) :
    msWheaESAddRecordV0Internal cmos e = (.outOfResources, cmos) := by
  rw [msWheaESAddRecordV0Internal, msWheaESFindSlot_of_valid hvalid, if_neg hroom]

/-- **The incremental checksum update is the full recomputation**: on a valid store
`MsWheaESV0InfoStore` does what `MsWheaESAddRecordV0Internal` does with its record. -/
theorem msWheaESV0InfoStore_eq_addRecordV0Internal (hvalid : StoreValid cmos)
    (md : MsWheaErrorEntryMd) :
    msWheaESV0InfoStore cmos md = msWheaESAddRecordV0Internal cmos (.ofMd md) := by
  by_cases hroom : hasRoom cmos
  · rw [msWheaESV0InfoStore_of_room hvalid hroom, msWheaESAddRecordV0Internal_of_room hvalid hroom]
  · rw [msWheaESV0InfoStore_of_not_room hvalid hroom,
      msWheaESAddRecordV0Internal_of_not_room hvalid hroom]

/-- `MsWheaESSetHeaderFull` with the header of a valid store marks it full. -/
theorem msWheaESSetHeaderFull_of_valid (hvalid : StoreValid cmos) (phase : UInt8) :
    msWheaESSetHeaderFull cmos phase (readHeader cmos) = (.success, markFull cmos phase) := by
  unfold msWheaESSetHeaderFull markFull
  dsimp only
  split_ifs
  · rfl
  · have hhelper := msWheaESHeaderChangeChecksumHelper_eq cmos
      { readHeader cmos with isStorageFull := 1, fullPhase := phase }
      hvalid.activeRange_le hvalid.activeRange_even
    rw [hhelper]
    rfl

/-- **`MsWheaESStoreEntry` on a valid store**: a record of revision 0 is appended if it fits,
and marks the store full if it does not; any other is refused. -/
theorem msWheaESStoreEntry_of_valid (hvalid : StoreValid cmos) (md : MsWheaErrorEntryMd) :
    msWheaESStoreEntry cmos md =
      if md.rev = msWheaRev0 then
        if hasRoom cmos then (.success, appendRecord cmos (.ofMd md))
        else (.outOfResources, markFull cmos md.phase)
      else (.unsupported, cmos) := by
  rw [msWheaESStoreEntry, msWheaESRegionIsValid_of_valid hvalid]
  dsimp only
  by_cases hrev : md.rev = msWheaRev0
  · by_cases hroom : hasRoom cmos
    · rw [if_pos hrev, msWheaESV0InfoStore_of_room hvalid hroom, if_pos hrev, if_pos hroom]
      rfl
    · rw [if_pos hrev, msWheaESV0InfoStore_of_not_room hvalid hroom, if_pos hrev, if_neg hroom,
        if_pos rfl, msWheaESSetHeaderFull_of_valid hvalid]
  · rw [if_neg hrev, if_neg hrev]
    rfl

end Calls

/-! ### `MsWheaESInit` -/

/-- The header a fresh store gets: the fresh header with the checksum of no data. -/
theorem readHeader_freshHeader (cmos : ByteMem) :
    readHeader (msWheaESHeaderChangeChecksumHelper cmos freshHeader) =
      { freshHeader with checksum := checksumOf freshHeader [] } := by
  have hzero : freshHeader.activeRange.toNat = 0 := rfl
  rw [msWheaESHeaderChangeChecksumHelper_eq cmos freshHeader (by decide) (by decide),
    readHeader_msWheaESWriteHeader, hzero, read_zero]

theorem activeData_freshHeader (cmos : ByteMem) :
    activeData (msWheaESHeaderChangeChecksumHelper cmos freshHeader) = [] := by
  rw [activeData, readHeader_freshHeader]
  rfl

/-- A store given the fresh header is valid, whatever its bytes. -/
theorem storeValid_freshHeader (cmos : ByteMem) :
    StoreValid (msWheaESHeaderChangeChecksumHelper cmos freshHeader) := by
  have hheader := readHeader_freshHeader cmos
  refine ⟨?_, ?_, ?_, ?_⟩
  · rw [hheader]
    rfl
  · rw [hheader]
    decide
  · rw [hheader]
    decide
  · rw [activeData_freshHeader, hheader]
    simp only [checksumOf]

section Init

variable (defaultValue : UInt8) {cmos : ByteMem}

theorem msWheaESInit_of_valid (h : StoreValid cmos) : msWheaESInit defaultValue cmos = cmos := by
  rw [msWheaESInit, if_pos ((msWheaESRegionIsValid_iff cmos).mpr h)]

theorem msWheaESInit_of_not_valid (h : ¬StoreValid cmos) :
    msWheaESInit defaultValue cmos =
      msWheaESHeaderChangeChecksumHelper (msWheaESClearAllData defaultValue cmos) freshHeader := by
  rw [msWheaESInit, if_neg (mt (msWheaESRegionIsValid_iff cmos).mp h)]

/-- **`MsWheaESInit` leaves a valid store**, from any CMOS. -/
theorem storeValid_msWheaESInit (cmos : ByteMem) : StoreValid (msWheaESInit defaultValue cmos) := by
  by_cases h : StoreValid cmos
  · rw [msWheaESInit_of_valid defaultValue h]
    exact h
  · rw [msWheaESInit_of_not_valid defaultValue h]
    exact storeValid_freshHeader _

end Init

end MuPlus.Whea
