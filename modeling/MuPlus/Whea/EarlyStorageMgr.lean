import MuPlus.Whea.EarlyStorage

/-!
# MuPlus.Whea.EarlyStorageMgr

**The MS WHEA report driver's use of the early store** (`MsWheaPkg/MsWheaReport/
MsWheaEarlyStorageMgr.c`): `MsWheaESInit` makes the store valid, `MsWheaESStoreEntry` adds
a fatal error's record with an incremental checksum update, and `MsWheaESProcess` reports the
stored records, then empties the store.

A report function (`MS_WHEA_ERR_REPORT_PS_FN`) is an outside call whose status
`MsWheaESProcess` does not use; the model returns the metadata it is called with, in order.
`MsWheaESDump` only prints.
-/

namespace MuPlus.Whea

open ByteMem

/-- `EFI_GENERIC_ERROR_RECOVERABLE`. -/
def efiGenericErrorRecoverable : UInt32 := 0

/-- `EFI_GENERIC_ERROR_FATAL`. -/
def efiGenericErrorFatal : UInt32 := 1

/-- `MS_WHEA_ERROR_EARLY_STORAGE_STORE_FULL`: `EFI_SOFTWARE | MS_WHEA_EARLY_STORAGE_SUBCLASS |
EFI_SW_EC_EVENT_LOG_FULL`. -/
def msWheaErrorEarlyStorageStoreFull : UInt32 :=
  0x03000000 ||| 0x00CA0000 ||| 0x00000011

/-- `sizeof (MS_WHEA_ERROR_ENTRY_MD)`. -/
def msWheaErrorEntryMdSize : UInt32 := 88

/-- `MS_WHEA_ERROR_ENTRY_MD`, with the fields the early store reads or sets; the others are
left zero by it. -/
structure MsWheaErrorEntryMd where
  rev : UInt8
  phase : UInt8
  errorSeverity : UInt32
  payloadSize : UInt32
  errorStatusValue : UInt32
  additionalInfo1 : UInt64
  additionalInfo2 : UInt64
  moduleId : EfiGuid
  ihvSharingGuid : EfiGuid
  deriving DecidableEq, Repr

section Mgr

variable (defaultValue : UInt8)

/-- `MsWheaESReadData (Ptr, Size, Offset)`, at an offset into the data region. -/
def msWheaESReadData (cmos : ByteMem) (size offset : UInt8) : Except EfiStatus (List UInt8) :=
  if offset ≥ msWheaESGetMaxDataCount then .error .invalidParameter
  else msWheaEarlyStorageRead cmos size (msWheaEarlyStorageHeaderSize + offset)

/-- `MsWheaESWriteData (Ptr, Size, Offset)`. -/
def msWheaESWriteData (cmos : ByteMem) (buffer : List UInt8) (size offset : UInt8) :
    Except EfiStatus ByteMem :=
  if offset ≥ msWheaESGetMaxDataCount then .error .invalidParameter
  else msWheaEarlyStorageWrite cmos buffer size (msWheaEarlyStorageHeaderSize + offset)

/-- `MsWheaESClearData (Size, Offset)`. -/
def msWheaESClearData (cmos : ByteMem) (size offset : UInt8) : Except EfiStatus ByteMem :=
  if offset ≥ msWheaESGetMaxDataCount then .error .invalidParameter
  else msWheaEarlyStorageClear defaultValue cmos size (msWheaEarlyStorageHeaderSize + offset)

/-- `MsWheaESClearAllData ()`, whose status is not used. -/
def msWheaESClearAllData (cmos : ByteMem) : ByteMem :=
  match msWheaESClearData defaultValue cmos msWheaESGetMaxDataCount 0 with
  | .ok cmos => cmos
  | .error _ => cmos

/-- `MsWheaESWriteHeader (Header)`, whose status is not used. -/
def msWheaESWriteHeader (cmos : ByteMem) (header : EarlyStorageHeader) : ByteMem :=
  match msWheaEarlyStorageWrite cmos header.toBytes msWheaEarlyStorageHeaderSize 0 with
  | .ok cmos => cmos
  | .error _ => cmos

/-- `MsWheaESContentChangeChecksumHelper (Buffer, Length)`: after `Length` bytes were added
at the end of the data in use, the checksum is updated from the stored one: the old
`ActiveRange`'s two words are taken out of the sum, the new one's put in, and the added
words summed. -/
def msWheaESContentChangeChecksumHelper (cmos : ByteMem) (buffer : List UInt8) : ByteMem :=
  -- `Sum16` of the source
  let header := readHeader cmos
  let sum : UInt16 := 0 - header.checksum
  let sum := sum - header.activeRange.toUInt16 - (header.activeRange >>> 16).toUInt16
  let header : EarlyStorageHeader :=
    { header with activeRange := header.activeRange + buffer.length.toUInt32 }
  let sum := sum + header.activeRange.toUInt16 + (header.activeRange >>> 16).toUInt16
  let sum := sum + sum16 buffer
  msWheaESWriteHeader cmos { header with checksum := 0 - sum }

/-- `MsWheaESHeaderChangeChecksumHelper (Header)`: the header is written with its checksum
computed in full. When the computation fails the checksum is what it left in `Checksum16`:
the header's own checksum after a failed read, an uninitialized value after
`EFI_BAD_BUFFER_SIZE`, which the model takes to be the header's own checksum too. -/
def msWheaESHeaderChangeChecksumHelper (cmos : ByteMem) (header : EarlyStorageHeader) :
    ByteMem :=
  let checksum :=
    match msWheaESCalculateChecksum16 cmos header with
    | .ok checksum => checksum
    | .error _ => header.checksum
  msWheaESWriteHeader cmos { header with checksum }

/-- `MsWheaESRegionIsValid (OutPutHeader)`: whether the stored header has the signature and
the checksum of the store, with the header read. -/
def msWheaESRegionIsValid (cmos : ByteMem) : Bool × EarlyStorageHeader :=
  let header := readHeader cmos
  match msWheaESCalculateChecksum16 cmos header with
  | .error _ => (false, header)
  | .ok checksum =>
      (header.signature == msWheaEarlyStorageSignature && checksum == header.checksum, header)

/-- The header `MsWheaESInit` and `MsWheaESProcess` start an empty store with. -/
def freshHeader : EarlyStorageHeader :=
  { signature := msWheaEarlyStorageSignature, activeRange := 0, isStorageFull := 0,
    fullPhase := 0, checksum := 0, reserved := 0 }

/-- `MsWheaESInit ()`: a valid store is kept; any other is cleared and given a fresh
header. -/
def msWheaESInit (cmos : ByteMem) : ByteMem :=
  if (msWheaESRegionIsValid cmos).1 then cmos
  else msWheaESHeaderChangeChecksumHelper (msWheaESClearAllData defaultValue cmos) freshHeader

/-- The record `MsWheaESV0InfoStore` makes of a metadata entry. -/
def EarlyStorageEntryV0.ofMd (md : MsWheaErrorEntryMd) : EarlyStorageEntryV0 :=
  { rev := md.rev, phase := md.phase, reserved := 0, errorStatusValue := md.errorStatusValue,
    additionalInfo1 := md.additionalInfo1, additionalInfo2 := md.additionalInfo2,
    moduleId := md.moduleId, partitionId := md.ihvSharingGuid }

/-- `MsWheaESV0InfoStore (MsWheaEntryMD)`. -/
def msWheaESV0InfoStore (cmos : ByteMem) (md : MsWheaErrorEntryMd) : EfiStatus × ByteMem :=
  match msWheaESFindSlot cmos msWheaEarlyStorageEntryV0Size with
  | .error status => (status, cmos)
  | .ok offset =>
      let wheaV0 := EarlyStorageEntryV0.ofMd md
      match msWheaESWriteData cmos wheaV0.toBytes msWheaEarlyStorageEntryV0Size offset with
      | .error status => (status, cmos)
      | .ok cmos => (.success, msWheaESContentChangeChecksumHelper cmos wheaV0.toBytes)

/-- The metadata `MsWheaESGetV0Info` reports for a stored record. -/
def MsWheaErrorEntryMd.ofEntry (wheaV0 : EarlyStorageEntryV0) : MsWheaErrorEntryMd :=
  { rev := wheaV0.rev, phase := wheaV0.phase, errorSeverity := efiGenericErrorFatal,
    payloadSize := msWheaErrorEntryMdSize, errorStatusValue := wheaV0.errorStatusValue,
    additionalInfo1 := wheaV0.additionalInfo1, additionalInfo2 := wheaV0.additionalInfo2,
    moduleId := wheaV0.moduleId, ihvSharingGuid := wheaV0.partitionId }

/-- `MsWheaESGetV0Info (MsWheaEntryMD, Offset)`: the record at `Offset`, which is then
cleared; the offset moves past it. -/
def msWheaESGetV0Info (cmos : ByteMem) (offset : UInt8) :
    Except EfiStatus (MsWheaErrorEntryMd × UInt8 × ByteMem) :=
  match msWheaESReadData cmos msWheaEarlyStorageEntryV0Size offset with
  | .error status => .error status
  | .ok bytes =>
      let md := MsWheaErrorEntryMd.ofEntry (EarlyStorageEntryV0.ofBytes bytes)
      match msWheaESClearData defaultValue cmos msWheaEarlyStorageEntryV0Size offset with
      | .error status => .error status
      | .ok cmos => .ok (md, offset + msWheaEarlyStorageEntryV0Size, cmos)

/-- `MsWheaESSetHeaderFull (Phase, Header)`: the first store that does not fit marks the
header full, with its phase. -/
def msWheaESSetHeaderFull (cmos : ByteMem) (phase : UInt8) (header : EarlyStorageHeader) :
    EfiStatus × ByteMem :=
  if header.isStorageFull ≠ 0 then (.success, cmos)
  else
    (.success, msWheaESHeaderChangeChecksumHelper cmos
      { header with isStorageFull := 1, fullPhase := phase })

/-- `MsWheaESCheckHeader (MsWheaEntryMD, Header)`: a full store gives the metadata of the
full indication, and its flag is reset; `callerId` is `gEfiCallerIdGuid`. -/
def msWheaESCheckHeader (callerId : EfiGuid) (cmos : ByteMem) (header : EarlyStorageHeader) :
    Except EfiStatus (MsWheaErrorEntryMd × EarlyStorageHeader × ByteMem) :=
  if header.isStorageFull = 0 then .error .notStarted
  else
    let md : MsWheaErrorEntryMd :=
      { rev := msWheaRev0, phase := header.fullPhase, errorSeverity := efiGenericErrorRecoverable,
        payloadSize := msWheaErrorEntryMdSize, errorStatusValue := msWheaErrorEarlyStorageStoreFull,
        additionalInfo1 := 0, additionalInfo2 := 0, moduleId := callerId, ihvSharingGuid := .zero }
    let header := { header with isStorageFull := 0 }
    .ok (md, header, msWheaESHeaderChangeChecksumHelper cmos header)

/-- `MsWheaESStoreEntry (MsWheaEntryMD)`: on a valid store, a record of revision 0 is
stored; one that does not fit marks the store full. -/
def msWheaESStoreEntry (cmos : ByteMem) (md : MsWheaErrorEntryMd) : EfiStatus × ByteMem :=
  match msWheaESRegionIsValid cmos with
  | (false, _) => (.notFound, cmos)
  | (true, header) =>
      let (status, cmos) :=
        if md.rev = msWheaRev0 then msWheaESV0InfoStore cmos md else (.unsupported, cmos)
      if status = .outOfResources then (status, (msWheaESSetHeaderFull cmos md.phase header).2)
      else (status, cmos)

/-- The loop of `MsWheaESProcess` over the records, from data offset `index`, with the
reports made so far. It takes one turn of `fuel` per record; `none` is a loop still running
when the fuel is out, which a store that passed `MsWheaESRegionIsValid` never needs. -/
def msWheaESProcessEntries (activeRange : UInt32) :
    Nat → UInt32 → ByteMem → Option (List MsWheaErrorEntryMd × ByteMem)
  | 0, _, _ => none
  | fuel + 1, index, cmos =>
      if activeRange ≥ msWheaEarlyStorageEntryV0Size.toUInt32 ∧
          index ≤ activeRange - msWheaEarlyStorageEntryV0Size.toUInt32 then
        -- `OFFSET_OF (MS_WHEA_EARLY_STORAGE_ENTRY_COMMON, Rev)` is 0
        match msWheaESReadData cmos 1 index.toUInt8 with
        | .error _ =>
            msWheaESProcessEntries activeRange fuel (index + msWheaEarlyStorageEntryV0Size.toUInt32) cmos
        | .ok revInfo =>
            if (leValue revInfo).toUInt8 = msWheaRev0 then
              let indexU8 := (index &&& 0xff).toUInt8
              match msWheaESGetV0Info defaultValue cmos indexU8 with
              | .ok (md, indexU8, cmos) =>
                  (fun (reports, cmos) => (md :: reports, cmos)) <$>
                    msWheaESProcessEntries activeRange fuel indexU8.toUInt32 cmos
              | .error _ =>
                  msWheaESProcessEntries activeRange fuel
                    (indexU8.toUInt32 + msWheaEarlyStorageEntryV0Size.toUInt32) cmos
            else
              msWheaESProcessEntries activeRange fuel
                (index + msWheaEarlyStorageEntryV0Size.toUInt32) cmos
      else some ([], cmos)

/-- `MsWheaESProcess (ReportFn)`: on a valid store, the full indication if it is set, then
every record of revision 0, each with one report, after which the store is emptied and
given a fresh header. The result holds the status, the store and the reports in order. -/
def msWheaESProcess (callerId : EfiGuid) (cmos : ByteMem) :
    Option (EfiStatus × ByteMem × List MsWheaErrorEntryMd) :=
  match msWheaESRegionIsValid cmos with
  | (false, _) => some (.notFound, cmos, [])
  | (true, header) =>
      let (full, header, cmos) :=
        match msWheaESCheckHeader callerId cmos header with
        | .ok (md, header, cmos) => ([md], header, cmos)
        | .error _ => ([], header, cmos)
      match msWheaESProcessEntries defaultValue header.activeRange (header.activeRange.toNat + 1)
          0 cmos with
      | none => none
      | some (reports, cmos) =>
          let cmos := msWheaESClearAllData defaultValue cmos
          some (.success, msWheaESHeaderChangeChecksumHelper cmos freshHeader, full ++ reports)

end Mgr

end MuPlus.Whea
