import MuPlus.Lib.WordSum
import MuPlus.Uefi.Status

/-!
# MuPlus.Whea.EarlyStorage

**The MS WHEA early store in CMOS** (`MsWheaPkg/Library/MsWheaEarlyStorageLib/
MsWheaEarlyStorageLib.c`, with the layout of `Include/Library/MsWheaEarlyStorageLib.h`).

Before the variable services run, fatal hardware errors are kept in the CMOS from byte
`MS_WHEA_EARLY_STORAGE_OFFSET` (0x40) to the end of `PcdMsWheaReportEarlyStorageCapacity`,
here at its default 0x100. The store is a 16-byte header followed by a data region of
`MS_WHEA_EARLY_STORAGE_ENTRY_V0` records of 56 bytes each; the header's `ActiveRange` is the
number of data bytes in use, and its `Checksum` makes the 16-bit word sum of the header and of
the data bytes in use zero.

The CMOS is a `ByteMem` of which the bytes 0 to 255 are read; the two banks the raw functions
select by the index (ports 0x70/0x71 below 128, 0x72/0x73 above) are one array of bytes.
Multi-byte fields are stored little-endian. `CalculateSum16` is BaseLib's, taken by its
contract (`sum16`).
-/

namespace MuPlus.Whea

open ByteMem

/-! ### Layout -/

/-- `PcdMsWheaReportEarlyStorageCapacity`, at its default. -/
def pcdMsWheaReportEarlyStorageCapacity : UInt32 := 0x100

/-- `MS_WHEA_EARLY_STORAGE_OFFSET`: the CMOS byte where the store starts. -/
def msWheaEarlyStorageOffset : UInt8 := 0x40

/-- `MS_WHEA_EARLY_STORAGE_HEADER_SIZE`, which is also `MS_WHEA_EARLY_STORAGE_DATA_OFFSET`. -/
def msWheaEarlyStorageHeaderSize : UInt8 := 16

/-- `sizeof (MS_WHEA_EARLY_STORAGE_ENTRY_V0)`. -/
def msWheaEarlyStorageEntryV0Size : UInt8 := 56

/-- `MS_WHEA_EARLY_STORAGE_SIGNATURE`, `SIGNATURE_32 ('M', 'E', 'S', '1')`. -/
def msWheaEarlyStorageSignature : UInt32 := 0x3153454D

/-- `MS_WHEA_REV_0`. -/
def msWheaRev0 : UInt8 := 0

/-- An `EFI_GUID`; `Data4`'s eight bytes are kept as one little-endian word. -/
structure EfiGuid where
  data1 : UInt32
  data2 : UInt16
  data3 : UInt16
  data4 : UInt64
  deriving DecidableEq, Repr

/-- The all-zero GUID that `ZeroMem` leaves. -/
def EfiGuid.zero : EfiGuid := ⟨0, 0, 0, 0⟩

/-- The little-endian field of `width` bytes at `offset`. -/
def fieldAt (bytes : List UInt8) (offset width : Nat) : Nat :=
  leValue ((bytes.drop offset).take width)

/-- The 16 bytes of a GUID. -/
def EfiGuid.toBytes (g : EfiGuid) : List UInt8 :=
  leBytes 4 g.data1.toNat ++ leBytes 2 g.data2.toNat ++ leBytes 2 g.data3.toNat ++
    leBytes 8 g.data4.toNat

/-- The GUID the first 16 bytes hold. -/
def EfiGuid.ofBytes (bytes : List UInt8) : EfiGuid where
  data1 := (fieldAt bytes 0 4).toUInt32
  data2 := (fieldAt bytes 4 2).toUInt16
  data3 := (fieldAt bytes 6 2).toUInt16
  data4 := (fieldAt bytes 8 8).toUInt64

/-- `MS_WHEA_EARLY_STORAGE_HEADER`. -/
structure EarlyStorageHeader where
  signature : UInt32
  activeRange : UInt32
  isStorageFull : UInt8
  fullPhase : UInt8
  checksum : UInt16
  reserved : UInt32
  deriving DecidableEq, Repr

/-- The 16 bytes of a header. -/
def EarlyStorageHeader.toBytes (h : EarlyStorageHeader) : List UInt8 :=
  leBytes 4 h.signature.toNat ++ leBytes 4 h.activeRange.toNat ++ [h.isStorageFull, h.fullPhase] ++
    leBytes 2 h.checksum.toNat ++ leBytes 4 h.reserved.toNat

/-- The header the first 16 bytes hold. -/
def EarlyStorageHeader.ofBytes (bytes : List UInt8) : EarlyStorageHeader where
  signature := (fieldAt bytes 0 4).toUInt32
  activeRange := (fieldAt bytes 4 4).toUInt32
  isStorageFull := (fieldAt bytes 8 1).toUInt8
  fullPhase := (fieldAt bytes 9 1).toUInt8
  checksum := (fieldAt bytes 10 2).toUInt16
  reserved := (fieldAt bytes 12 4).toUInt32

/-- `MS_WHEA_EARLY_STORAGE_ENTRY_V0`. -/
structure EarlyStorageEntryV0 where
  rev : UInt8
  phase : UInt8
  reserved : UInt16
  errorStatusValue : UInt32
  additionalInfo1 : UInt64
  additionalInfo2 : UInt64
  moduleId : EfiGuid
  partitionId : EfiGuid
  deriving DecidableEq, Repr

/-- The 56 bytes of a record. -/
def EarlyStorageEntryV0.toBytes (e : EarlyStorageEntryV0) : List UInt8 :=
  [e.rev, e.phase] ++ leBytes 2 e.reserved.toNat ++ leBytes 4 e.errorStatusValue.toNat ++
    leBytes 8 e.additionalInfo1.toNat ++ leBytes 8 e.additionalInfo2.toNat ++ e.moduleId.toBytes ++
    e.partitionId.toBytes

/-- The record the first 56 bytes hold. -/
def EarlyStorageEntryV0.ofBytes (bytes : List UInt8) : EarlyStorageEntryV0 where
  rev := (fieldAt bytes 0 1).toUInt8
  phase := (fieldAt bytes 1 1).toUInt8
  reserved := (fieldAt bytes 2 2).toUInt16
  errorStatusValue := (fieldAt bytes 4 4).toUInt32
  additionalInfo1 := (fieldAt bytes 8 8).toUInt64
  additionalInfo2 := (fieldAt bytes 16 8).toUInt64
  moduleId := .ofBytes (bytes.drop 24)
  partitionId := .ofBytes (bytes.drop 40)

/-! ### The CMOS -/

section Cmos

-- `PcdMsWheaEarlyStorageDefaultValue`, the byte a cleared store holds
variable (defaultValue : UInt8)

/-- The guard of the raw functions: a size of zero, or a range past the capacity. With it,
`Offset + i` stays below 256, so the `UINT8` index of their loops never wraps. -/
def rawRangeInvalid (size offset : UInt8) : Bool :=
  size = 0 || (pcdMsWheaReportEarlyStorageCapacity - size.toUInt32).toUInt8 < offset

/-- `__MsWheaCMOSRawRead (Ptr, Size, Offset)`. -/
def msWheaCMOSRawRead (cmos : ByteMem) (size offset : UInt8) : Except EfiStatus (List UInt8) :=
  if rawRangeInvalid size offset then .error .invalidParameter
  else .ok (cmos.read offset.toNat size.toNat)

/-- `__MsWheaCMOSRawWrite (Ptr, Size, Offset)`, with the `Size` bytes at `Ptr`. -/
def msWheaCMOSRawWrite (cmos : ByteMem) (buffer : List UInt8) (size offset : UInt8) :
    Except EfiStatus ByteMem :=
  if rawRangeInvalid size offset then .error .invalidParameter
  else .ok (cmos.write offset.toNat (buffer.take size.toNat))

/-- `__MsWheaCMOSRawClear (Size, Offset)`. -/
def msWheaCMOSRawClear (cmos : ByteMem) (size offset : UInt8) : Except EfiStatus ByteMem :=
  if rawRangeInvalid size offset then .error .invalidParameter
  else .ok (cmos.write offset.toNat (List.replicate size.toNat defaultValue))

/-- `MsWheaEarlyStorageGetMaxSize ()`: the bytes from the store's offset to the capacity. -/
def msWheaEarlyStorageGetMaxSize : UInt8 :=
  ((pcdMsWheaReportEarlyStorageCapacity - msWheaEarlyStorageOffset.toUInt32) &&& 0xFF).toUInt8

/-- `MsWheaEarlyStorageRead (Ptr, Size, Offset)`, at an offset into the store. -/
def msWheaEarlyStorageRead (cmos : ByteMem) (size offset : UInt8) :
    Except EfiStatus (List UInt8) :=
  if offset ≥ msWheaEarlyStorageGetMaxSize then .error .invalidParameter
  else msWheaCMOSRawRead cmos size (msWheaEarlyStorageOffset + offset)

/-- `MsWheaEarlyStorageWrite (Ptr, Size, Offset)`. -/
def msWheaEarlyStorageWrite (cmos : ByteMem) (buffer : List UInt8) (size offset : UInt8) :
    Except EfiStatus ByteMem :=
  if offset ≥ msWheaEarlyStorageGetMaxSize then .error .invalidParameter
  else msWheaCMOSRawWrite cmos buffer size (msWheaEarlyStorageOffset + offset)

/-- `MsWheaEarlyStorageClear (Size, Offset)`. -/
def msWheaEarlyStorageClear (cmos : ByteMem) (size offset : UInt8) : Except EfiStatus ByteMem :=
  if offset ≥ msWheaEarlyStorageGetMaxSize then .error .invalidParameter
  else msWheaCMOSRawClear defaultValue cmos size (msWheaEarlyStorageOffset + offset)

/-- `MsWheaESGetMaxDataCount ()`: the size of the data region. -/
def msWheaESGetMaxDataCount : UInt8 :=
  msWheaEarlyStorageGetMaxSize - msWheaEarlyStorageHeaderSize

/-- The header as `MsWheaEarlyStorageRead (&Header, MS_WHEA_EARLY_STORAGE_HEADER_SIZE, 0)`
reads it, for the callers that ignore the status of that read, which cannot fail
(`msWheaEarlyStorageRead_header`). -/
def readHeader (cmos : ByteMem) : EarlyStorageHeader :=
  .ofBytes (cmos.read msWheaEarlyStorageOffset.toNat msWheaEarlyStorageHeaderSize.toNat)

/-- `MsWheaESFindSlot (Size, Offset)`: the data offset where `Size` more bytes go, if they
fit. -/
def msWheaESFindSlot (cmos : ByteMem) (size : UInt8) : Except EfiStatus UInt8 :=
  let header := readHeader cmos
  if header.activeRange + size.toUInt32 ≤ msWheaESGetMaxDataCount.toUInt32 then
    .ok header.activeRange.toUInt8
  else .error .outOfResources

/-- The loop of `MsWheaESCalculateChecksum16`: the data words from `index` to
`ActiveRange`, each read from the store, added to `sum`. -/
def checksum16Loop (cmos : ByteMem) (activeRange : UInt32) (index : Nat) (sum : UInt16) :
    Except EfiStatus UInt16 :=
  if index < activeRange.toNat then
    match msWheaEarlyStorageRead cmos 2 (msWheaEarlyStorageHeaderSize.toNat + index).toUInt8 with
    | .error status => .error status
    | .ok data => checksum16Loop cmos activeRange (index + 2) (sum + (leValue data).toUInt16)
  else .ok sum
termination_by activeRange.toNat - index

/-- `MsWheaESCalculateChecksum16 (Header, Checksum)`: the checksum that makes the word sum of
the header, its checksum field cleared, and of the data in use zero. -/
def msWheaESCalculateChecksum16 (cmos : ByteMem) (header : EarlyStorageHeader) :
    Except EfiStatus UInt16 :=
  if header.activeRange > msWheaEarlyStorageGetMaxSize.toUInt32 ∨ header.activeRange &&& 1 ≠ 0 then
    .error .badBufferSize
  else
    match checksum16Loop cmos header.activeRange 0 (sum16 { header with checksum := 0 }.toBytes) with
    | .error status => .error status
    -- `(UINT16)(0x10000 - Sum)`
    | .ok sum => .ok (0 - sum)

/-- `MsWheaESAddRecordV0Internal (MsWheaEntry)`: the record goes to the free slot, then the
header is read back, its `ActiveRange` raised and its checksum recomputed in full. -/
def msWheaESAddRecordV0Internal (cmos : ByteMem) (entry : EarlyStorageEntryV0) :
    EfiStatus × ByteMem :=
  match msWheaESFindSlot cmos msWheaEarlyStorageEntryV0Size with
  | .error status => (status, cmos)
  | .ok offset =>
      match msWheaEarlyStorageWrite cmos entry.toBytes msWheaEarlyStorageEntryV0Size
          (msWheaEarlyStorageHeaderSize + offset) with
      | .error status => (status, cmos)
      | .ok cmos =>
          match msWheaEarlyStorageRead cmos msWheaEarlyStorageHeaderSize 0 with
          | .error status => (status, cmos)
          | .ok bytes =>
              let header := EarlyStorageHeader.ofBytes bytes
              let header := { header with
                activeRange := header.activeRange + msWheaEarlyStorageEntryV0Size.toUInt32 }
              match msWheaESCalculateChecksum16 cmos header with
              | .error status => (status, cmos)
              | .ok checksum =>
                  let header := { header with checksum }
                  -- the status of the header write is overwritten by that of the read back,
                  -- whose comparison of the checksums only prints
                  let cmos :=
                    match msWheaEarlyStorageWrite cmos header.toBytes msWheaEarlyStorageHeaderSize 0 with
                    | .ok cmos => cmos
                    | .error _ => cmos
                  match msWheaEarlyStorageRead cmos msWheaEarlyStorageHeaderSize 0 with
                  | .error status => (status, cmos)
                  | .ok _ => (.success, cmos)

/-- `MsWheaESAddRecordV0 (ErrorStatusValue, AdditionalInfo1, AdditionalInfo2, ModuleId,
PartitionId)`: a record of revision 0 with a zero phase; a missing module id is the caller's
`gEfiCallerIdGuid`, a missing partition id stays zero. -/
def msWheaESAddRecordV0 (callerId : EfiGuid) (cmos : ByteMem) (errorStatusValue : UInt32)
    (additionalInfo1 additionalInfo2 : UInt64) (moduleId partitionId : Option EfiGuid) :
    EfiStatus × ByteMem :=
  msWheaESAddRecordV0Internal cmos
    { rev := msWheaRev0, phase := 0, reserved := 0, errorStatusValue, additionalInfo1,
      additionalInfo2, moduleId := moduleId.getD callerId,
      partitionId := partitionId.getD .zero }

end Cmos

end MuPlus.Whea
