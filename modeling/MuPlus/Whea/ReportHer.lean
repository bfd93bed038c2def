import MuPlus.Whea.Cper
import MuPlus.Whea.EarlyStorageSpec
import MuPlus.Uefi.VariableList

/-!
# MuPlus.Whea.ReportHer

**Hardware error records in UEFI variables** (`MsWheaPkg/MsWheaReport/MsWheaReportHER.c`).
`MsWheaReportHERAdd` finds the first free `HwErrRecXXXX` name (`MsWheaFindNextAvailableSlot`),
lays a Common Platform Error Record out in a pool buffer (`MsWheaAnFBuffer`) and stores the
buffer's `Size` bytes under that name and `gEfiHardwareErrorVariableGuid`. `MsWheaClearAllEntries`
walks the store with `WheaGetNextVariableName` and deletes the hardware error variables.

The record is the 128-byte header, the descriptor of the Mu telemetry section, for an entry with
an extra section the descriptor of that section, then the 56 bytes of telemetry data and the
extra section's `DataSize` bytes. `TotalSize`, which is both the size of the pool buffer and the
record's `RecordLength`, is summed in a `UINT32`; the offsets the function stores at are not.

What the file takes from outside this package (`MdePkg`'s GUIDs and revision, the platform's
PCDs, the clock, the record ID and the pool) is a `HerEnv`. The pool buffer is a `ByteMem` from
its first byte: `AllocateZeroPool (n)` zeroes its first `n` bytes, and what lies past them is
the pool's.

## Results

* `msWheaAnFBuffer_of_none`, `msWheaAnFBuffer_of_some`: the buffer as the stores leave it;
* `msWheaAnFBuffer_writes_within_iff`: every store lies inside the allocation exactly when
  `TotalSize` does not wrap;
* `validateCperHeader_msWheaAnFBuffer_iff`: the record passes `ValidateCperHeader` exactly when
  it has no extra section, or one whose `DataSize` is non-zero and does not wrap `TotalSize`;
* `msWheaReportHERAdd_record_iff`: what `MsWheaReportHERAdd` hands to `WheaSetVariable`, and that
  it changes nothing when it returns before;
* `msWheaReportHERAdd_router_record_valid`: on the entries `ReportHwErrRecRouter` builds, whose
  extra section has between 1 and `0xFFFF - 64` bytes, every stored record lies inside its
  allocation and passes `ValidateCperHeader`;
* `msWheaClearAllEntries_deletes_only_varName`: `MsWheaClearAllEntries` deletes with its
  uninitialised `VarName` rather than the name it enumerated, so it deletes at most that one
  variable, and it reports the `EFI_NOT_FOUND` of a delete that found nothing as success.
-/

namespace MuPlus.Whea

open ByteMem

/-! ### Structures and constants -/

/-- `EFI_TIME`, the fields `CreateCperHdrDefaultMin` reads. -/
structure EfiTime where
  year : UInt16
  month : UInt8
  day : UInt8
  hour : UInt8
  minute : UInt8
  second : UInt8
  deriving DecidableEq, Repr

/-- What `MsWheaReportHER.c` takes from outside this package. -/
structure HerEnv where
  /-- `gEfiHardwareErrorVariableGuid`. -/
  hardwareErrorVariableGuid : EfiGuid
  /-- `EFI_ERROR_RECORD_REVISION`. -/
  errorRecordRevision : UInt16
  /-- `gEfiEventNotificationTypeBootGuid`. -/
  notificationTypeBootGuid : EfiGuid
  /-- `PcdDeviceIdentifierGuid`. -/
  deviceIdentifierGuid : EfiGuid
  /-- `PcdVariableHardwareMaxCount`. -/
  variableHardwareMaxCount : UInt16
  /-- `PcdMaxHardwareErrorVariableSize`. -/
  maxHardwareErrorVariableSize : UInt32
  /-- `PcdVariableHardwareErrorRecordAttributeSupported`. -/
  hardwareErrorRecordAttributeSupported : Bool
  /-- The time `PopulateTime` fills in, `none` when it returns `FALSE`. -/
  currentTime : Option EfiTime
  /-- The `RecordID` that `GetRecordID` leaves. -/
  recordId : UInt64
  /-- Whether `AllocateZeroPool (n)` returns a buffer. -/
  allocatePool : Nat → Bool
  /-- The pool memory from the buffer's first byte. -/
  pool : ByteMem

/-- `MS_WHEA_ERROR_EXTRA_SECTION_DATA`: the section's GUID, its `DataSize`, and the memory its
`Data` starts at. -/
structure MsWheaErrorExtraSectionData where
  sectionGuid : EfiGuid
  dataSize : UInt32
  data : ByteMem

/-- `MS_WHEA_ERROR_ENTRY_MD` as `MsWheaAnFBuffer` reads it: the early store's fields, and
`LibraryID` and `ExtraSection`, `none` when it is null. -/
structure HerEntryMd extends MsWheaErrorEntryMd where
  libraryId : EfiGuid
  extraSection : Option MsWheaErrorExtraSectionData

/-- `sizeof (MU_TELEMETRY_CPER_SECTION_DATA)`. -/
def muTelemetryCperSectionDataSize : Nat := 56

/-- `EFI_ERROR_RECORD_SIGNATURE_END`. -/
def efiErrorRecordSignatureEnd : UInt32 := 0xFFFFFFFF

/-- `EFI_ERROR_RECORD_HEADER_PLATFORM_ID_VALID`. -/
def efiErrorRecordHeaderPlatformIdValid : UInt32 := 0x1

/-- `EFI_ERROR_RECORD_HEADER_TIME_STAMP_VALID`. -/
def efiErrorRecordHeaderTimeStampValid : UInt32 := 0x2

/-- `EFI_ERROR_RECORD_HEADER_PARTITION_ID_VALID`. -/
def efiErrorRecordHeaderPartitionIdValid : UInt32 := 0x4

/-- `EFI_HW_ERROR_FLAGS_PREVERR`. -/
def efiHwErrorFlagsPreverr : UInt32 := 0x2

/-- `MS_WHEA_SECTION_REVISION`. -/
def msWheaSectionRevision : UInt16 := 0x0100

/-- `MS_WHEA_PHASE_DXE_VAR`. -/
def msWheaPhaseDxeVar : UInt8 := 0x02

/-- `gMsWheaReportServiceGuid`. -/
def gMsWheaReportServiceGuid : EfiGuid := ⟨0x8efebc4a, 0x5222, 0x409c, 0x7896b7dd066f9fa5⟩

/-- `gMuTelemetrySectionTypeGuid`. -/
def gMuTelemetrySectionTypeGuid : EfiGuid := ⟨0x85183a8b, 0x9c41, 0x429c, 0x80a27c083c5c9c93⟩

/-! ### The record's structures -/

/-- `EFI_ERROR_TIME_STAMP`. -/
structure EfiErrorTimeStamp where
  seconds : UInt8
  minutes : UInt8
  hours : UInt8
  flag : UInt8
  day : UInt8
  month : UInt8
  year : UInt8
  century : UInt8
  deriving DecidableEq, Repr

/-- The time stamp `SetMem` leaves. -/
def EfiErrorTimeStamp.zero : EfiErrorTimeStamp := ⟨0, 0, 0, 0, 0, 0, 0, 0⟩

def EfiErrorTimeStamp.toBytes (t : EfiErrorTimeStamp) : List UInt8 :=
  [t.seconds, t.minutes, t.hours, t.flag, t.day, t.month, t.year, t.century]

/-- `EFI_COMMON_ERROR_RECORD_HEADER`; its 12 reserved bytes are zero. -/
structure EfiCommonErrorRecordHeader where
  signatureStart : UInt32
  revision : UInt16
  signatureEnd : UInt32
  sectionCount : UInt16
  errorSeverity : UInt32
  validationBits : UInt32
  recordLength : UInt32
  timeStamp : EfiErrorTimeStamp
  platformId : EfiGuid
  partitionId : EfiGuid
  creatorId : EfiGuid
  notificationType : EfiGuid
  recordId : UInt64
  flags : UInt32
  persistenceInfo : UInt64

/-- The header's 128 packed bytes. -/
def EfiCommonErrorRecordHeader.toBytes (h : EfiCommonErrorRecordHeader) : List UInt8 :=
  leBytes 4 h.signatureStart.toNat ++ leBytes 2 h.revision.toNat ++
    leBytes 4 h.signatureEnd.toNat ++ leBytes 2 h.sectionCount.toNat ++
    leBytes 4 h.errorSeverity.toNat ++ leBytes 4 h.validationBits.toNat ++
    leBytes 4 h.recordLength.toNat ++ h.timeStamp.toBytes ++ h.platformId.toBytes ++
    h.partitionId.toBytes ++ h.creatorId.toBytes ++ h.notificationType.toBytes ++
    leBytes 8 h.recordId.toNat ++ leBytes 4 h.flags.toNat ++ leBytes 8 h.persistenceInfo.toNat ++
    List.replicate 12 0

/-- `EFI_ERROR_SECTION_DESCRIPTOR`; `Resv1` and `FruString` are zero. -/
structure EfiErrorSectionDescriptor where
  sectionOffset : UInt32
  sectionLength : UInt32
  revision : UInt16
  secValidMask : UInt8
  sectionFlags : UInt32
  sectionType : EfiGuid
  fruId : EfiGuid
  severity : UInt32

/-- The descriptor's 72 packed bytes. -/
def EfiErrorSectionDescriptor.toBytes (d : EfiErrorSectionDescriptor) : List UInt8 :=
  leBytes 4 d.sectionOffset.toNat ++ leBytes 4 d.sectionLength.toNat ++
    leBytes 2 d.revision.toNat ++ [d.secValidMask, 0] ++ leBytes 4 d.sectionFlags.toNat ++
    d.sectionType.toBytes ++ d.fruId.toBytes ++ leBytes 4 d.severity.toNat ++ List.replicate 20 0

/-- `MU_TELEMETRY_CPER_SECTION_DATA`; `Reserved` is zero. -/
structure MuTelemetryCperSectionData where
  componentId : EfiGuid
  subComponentId : EfiGuid
  errorStatusValue : UInt32
  additionalInfo1 : UInt64
  additionalInfo2 : UInt64

/-- The telemetry data's 56 packed bytes. -/
def MuTelemetryCperSectionData.toBytes (t : MuTelemetryCperSectionData) : List UInt8 :=
  t.componentId.toBytes ++ t.subComponentId.toBytes ++ leBytes 4 0 ++
    leBytes 4 t.errorStatusValue.toNat ++ leBytes 8 t.additionalInfo1.toNat ++
    leBytes 8 t.additionalInfo2.toNat

/-! ### Filling the structures -/

/-- `DecimalToBcd8`. -/
def decimalToBcd8 (value : UInt8) : UInt8 :=
  ((value / 10) <<< 4) ||| (value % 10)

/-- The time stamp `CreateCperHdrDefaultMin` writes from `PopulateTime`'s time. -/
def cperTimeStamp (phase : UInt8) (time : EfiTime) : EfiErrorTimeStamp where
  seconds := decimalToBcd8 time.second
  minutes := decimalToBcd8 time.minute
  hours := decimalToBcd8 time.hour
  flag := if phase = msWheaPhaseDxeVar then 1 else 0
  day := decimalToBcd8 time.day
  month := decimalToBcd8 time.month
  year := decimalToBcd8 (time.year % 100).toUInt8
  century := decimalToBcd8 ((time.year / 100 + 1) % 100).toUInt8

/-- `CreateCperHdrDefaultMin (MsWheaEntryMD, TotalSize, CperHdr)`: the header over the zeroed
structure. -/
def createCperHdrDefaultMin (env : HerEnv) (md : HerEntryMd) (totalSize : UInt32) :
    EfiCommonErrorRecordHeader :=
  -- `ValidationBits` as the time stamp and then the partition check leave it
  let timeBits :=
    match env.currentTime with
    | some _ => efiErrorRecordHeaderPlatformIdValid ||| efiErrorRecordHeaderTimeStampValid
    | none => efiErrorRecordHeaderPlatformIdValid &&& ~~~efiErrorRecordHeaderTimeStampValid
  { signatureStart := efiErrorRecordSignatureStart.toUInt32
    revision := env.errorRecordRevision
    signatureEnd := efiErrorRecordSignatureEnd
    sectionCount := if md.extraSection.isSome then 2 else 1
    errorSeverity := md.errorSeverity
    validationBits :=
      if md.ihvSharingGuid ≠ EfiGuid.zero then timeBits ||| efiErrorRecordHeaderPartitionIdValid
      else timeBits
    recordLength := totalSize
    timeStamp :=
      match env.currentTime with
      | some time => cperTimeStamp md.phase time
      | none => EfiErrorTimeStamp.zero
    platformId := env.deviceIdentifierGuid
    partitionId := md.ihvSharingGuid
    creatorId := gMsWheaReportServiceGuid
    notificationType := env.notificationTypeBootGuid
    recordId := env.recordId
    flags := efiHwErrorFlagsPreverr
    persistenceInfo := 0 }

/-- `CreateCperErrSecDscpDefaultMin (MsWheaEntryMD, Offset, CperErrSecDscp)`. -/
def createCperErrSecDscpDefaultMin (md : HerEntryMd) (offset : UInt32) :
    EfiErrorSectionDescriptor where
  sectionOffset := offset
  sectionLength := muTelemetryCperSectionDataSize.toUInt32
  revision := msWheaSectionRevision
  secValidMask := 0
  sectionFlags := 0
  sectionType := gMuTelemetrySectionTypeGuid
  fruId := EfiGuid.zero
  severity := md.errorSeverity

/-- `CreateCperErrExtraSecDscpDefaultMin (MsWheaEntryMD, Offset, CperErrSecDscp)` for an entry
whose `ExtraSection` is `extra`. -/
def createCperErrExtraSecDscpDefaultMin (md : HerEntryMd)
    (extra : MsWheaErrorExtraSectionData) (offset : UInt32) : EfiErrorSectionDescriptor where
  sectionOffset := offset
  sectionLength := extra.dataSize
  revision := msWheaSectionRevision
  secValidMask := 0
  sectionFlags := 0
  sectionType := extra.sectionGuid
  fruId := EfiGuid.zero
  severity := md.errorSeverity

/-- `CreateMuTelemetryData (MsWheaEntryMD, MuTelemetryData)`. -/
def createMuTelemetryData (md : HerEntryMd) : MuTelemetryCperSectionData where
  componentId := md.moduleId
  subComponentId := md.libraryId
  errorStatusValue := md.errorStatusValue
  additionalInfo1 := md.additionalInfo1
  additionalInfo2 := md.additionalInfo2

/-! ### `MsWheaAnFBuffer` -/

/-- The buffer `MsWheaAnFBuffer` returns: its memory from its first byte, `*PayloadSize`, and the
byte ranges `(offset, length)` it stored to, in order. -/
structure AnFBuffer where
  mem : ByteMem
  size : UInt32
  writes : List (Nat × Nat)

/-- A store of `bytes` at `offset` of the buffer. -/
def AnFBuffer.store (buffer : AnFBuffer) (offset : Nat) (bytes : List UInt8) : AnFBuffer :=
  { buffer with
    mem := buffer.mem.write offset bytes
    writes := buffer.writes ++ [(offset, bytes.length)] }

/-- `TotalSize`: the header, a descriptor and the telemetry data, and for an extra section its
descriptor and its `DataSize` bytes, summed in a `UINT32`. -/
def anfTotalSize (md : HerEntryMd) : UInt32 :=
  let totalSize := (cperHeaderSize + sectionDescriptorSize + muTelemetryCperSectionDataSize).toUInt32
  match md.extraSection with
  | none => totalSize
  | some extra => totalSize + (sectionDescriptorSize.toUInt32 + extra.dataSize)

/-- `MsWheaAnFBuffer (MsWheaEntryMD, &PayloadSize)`: `none` for the `NULL` it returns when the
allocation fails. -/
def msWheaAnFBuffer (env : HerEnv) (md : HerEntryMd) : Option AnFBuffer :=
  let totalSize := anfTotalSize md
  if env.allocatePool totalSize.toNat then
    -- `BufferIndex` past the header and the descriptors: the telemetry data, then the extra data
    let telemetryOffset := descriptorOffset (if md.extraSection.isSome then 2 else 1)
    let extraDataOffset := telemetryOffset + muTelemetryCperSectionDataSize
    let buffer : AnFBuffer := ⟨env.pool.write 0 (List.replicate totalSize.toNat 0), totalSize, []⟩
    let buffer := buffer.store 0 (createCperHdrDefaultMin env md totalSize).toBytes
    let buffer := buffer.store (descriptorOffset 0)
      (createCperErrSecDscpDefaultMin md telemetryOffset.toUInt32).toBytes
    let buffer :=
      match md.extraSection with
      | none => buffer
      | some extra => buffer.store (descriptorOffset 1)
          (createCperErrExtraSecDscpDefaultMin md extra extraDataOffset.toUInt32).toBytes
    let buffer := buffer.store telemetryOffset (createMuTelemetryData md).toBytes
    let buffer :=
      match md.extraSection with
      | none => buffer
      | some extra => buffer.store extraDataOffset (extra.data.read 0 extra.dataSize.toNat)
    some buffer
  else none

/-! ### `MsWheaReportHERAdd` -/

/-- `EFI_HW_ERR_REC_VAR_NAME`, `L"HwErrRec"`. -/
def efiHwErrRecVarName : List UInt16 :=
  "HwErrRec".toList.map fun c => c.toNat.toUInt16

/-- The `CHAR16` that `%X` prints for a hexadecimal digit. -/
def hexDigitChar (digit : Nat) : UInt16 :=
  if digit < 10 then (0x30 + digit).toUInt16 else (0x41 + (digit - 10)).toUInt16

/-- `UnicodeSPrint (VarName, sizeof (VarName), L"%s%04X", EFI_HW_ERR_REC_VAR_NAME, Index)`. -/
def hwErrRecVarName (index : UInt16) : List UInt16 :=
  efiHwErrRecVarName ++
    [index.toNat / 0x1000 % 0x10, index.toNat / 0x100 % 0x10, index.toNat / 0x10 % 0x10,
      index.toNat % 0x10].map hexDigitChar

/-- The loop of `MsWheaFindNextAvailableSlot` with `n` passes left from `Index`, after a pass
that left `Status`: the `Index` it stops at and the last `Status`. -/
def msWheaFindNextAvailableSlotLoop (env : HerEnv) (store : VariableList EfiGuid) :
    Nat → Nat → EfiStatus → Nat × EfiStatus
  | 0, index, status => (index, status)
  | n + 1, index, _ =>
      -- `WheaGetVariable` with `Size = 0` and no buffer
      let status :=
        (store.getVariable ⟨hwErrRecVarName index.toUInt16, env.hardwareErrorVariableGuid⟩ 0).status
      if status = .notFound then (index, status)
      else msWheaFindNextAvailableSlotLoop env store n (index + 1) status

/-- `MsWheaFindNextAvailableSlot (&next)`: the status, and `*next`, which it sets only on
success (`0` otherwise, as `MsWheaReportHERAdd` initialises `Index`). The loop runs `Index`
from `0` to `PcdVariableHardwareMaxCount`. -/
def msWheaFindNextAvailableSlot (env : HerEnv) (store : VariableList EfiGuid) :
    EfiStatus × UInt16 :=
  let (index, status) :=
    msWheaFindNextAvailableSlotLoop env store (env.variableHardwareMaxCount.toNat + 1) 0 .success
  if status = .notFound then (.success, index.toUInt16)
  else if status = .success then (.outOfResources, 0)
  else (status, 0)

/-- The attributes of a `HwErrRec` variable: `EFI_VARIABLE_NON_VOLATILE`,
`EFI_VARIABLE_BOOTSERVICE_ACCESS` and `EFI_VARIABLE_RUNTIME_ACCESS`, with
`EFI_VARIABLE_HARDWARE_ERROR_RECORD` when the platform supports it. -/
def hwErrRecAttributes (env : HerEnv) : UInt32 :=
  let attributes : UInt32 := 0x1 ||| 0x2 ||| 0x4
  if env.hardwareErrorRecordAttributeSupported then attributes ||| 0x8 else attributes

/-- What `MsWheaReportHERAdd` leaves: its status, the variable store, and the buffer it handed
to `WheaSetVariable`, if it got that far. -/
structure HerAddResult where
  status : EfiStatus
  store : VariableList EfiGuid
  setVariableBuffer : Option AnFBuffer

/-- `MsWheaReportHERAdd (MsWheaEntryMD)`. -/
def msWheaReportHERAdd (env : HerEnv) (store : VariableList EfiGuid) (md : HerEntryMd) :
    HerAddResult :=
  let (status, index) := msWheaFindNextAvailableSlot env store
  if status.isError then ⟨status, store, none⟩
  else
    match msWheaAnFBuffer env md with
    | none => ⟨.outOfResources, store, none⟩
    | some buffer =>
        if buffer.size = 0 then ⟨.invalidParameter, store, none⟩
        else if buffer.size > env.maxHardwareErrorVariableSize then ⟨.invalidParameter, store, none⟩
        else
          let (status, store) :=
            store.setVariable ⟨hwErrRecVarName index, env.hardwareErrorVariableGuid⟩
              (hwErrRecAttributes env) (buffer.mem.read 0 buffer.size.toNat)
          ⟨status, store, some buffer⟩

/-! ### `MsWheaClearAllEntries` -/

/-- The loop's call to `WheaGetNextVariableName` from `NameSize`, the name in the `Name` buffer
and `Guid`, with the regrowth of `Name` to `NewNameSize` and the second call on
`EFI_BUFFER_TOO_SMALL`: what the last call returns and the new `NameSize`, or `none` when
`ReallocatePool` fails. -/
def clearAllEntriesNextName (env : HerEnv) (store : VariableList EfiGuid) (nameSize : Nat)
    (name : List UInt16) (guid : EfiGuid) : Option (NextVariableName EfiGuid × Nat) :=
  let next := store.getNextVariableName nameSize name guid
  if next.status = .bufferTooSmall then
    if env.allocatePool next.nameSize then
      let again := store.getNextVariableName next.nameSize name guid
      some (again, again.nameSize)
    else none
  else some (next, nameSize)

/-- The `while (TRUE)` loop of `MsWheaClearAllEntries` with `fuel` passes left, from `NameSize`,
the name in the `Name` buffer and `Guid`: the `Status` it breaks with and the store, or `none`
when the fuel runs out. `VarName` is the buffer the delete names. -/
def msWheaClearAllEntriesLoop (env : HerEnv) (varName : List UInt16) :
    Nat → Nat → List UInt16 → EfiGuid → VariableList EfiGuid →
      Option (EfiStatus × VariableList EfiGuid)
  | 0, _, _, _, _ => none
  | fuel + 1, nameSize, name, guid, store =>
      match clearAllEntriesNextName env store nameSize name guid with
      | none => some (.outOfResources, store)
      | some (next, nameSize) =>
          -- `EFI_NOT_FOUND` past the last variable, or another error: `break`
          if next.status.isError then some (next.status, store)
          -- another vendor's variable: `continue`
          else if next.guid ≠ env.hardwareErrorVariableGuid then
            msWheaClearAllEntriesLoop env varName fuel nameSize next.name next.guid store
          else
            -- the delete names `VarName`, not the variable just enumerated
            let (status, store) :=
              store.setVariable ⟨varName, env.hardwareErrorVariableGuid⟩ (hwErrRecAttributes env) []
            if status.isError then some (status, store)
            else msWheaClearAllEntriesLoop env varName fuel nameSize next.name next.guid store

/-- `MsWheaClearAllEntries ()`, with `varName` the contents of its `VarName` buffer, which it
never writes, and `guid` those of its `Guid`, which the first call ignores. The loop gets one
pass per variable and one more. -/
def msWheaClearAllEntries (env : HerEnv) (store : VariableList EfiGuid) (varName : List UInt16)
    (guid : EfiGuid) : Option (EfiStatus × VariableList EfiGuid) :=
  -- `Name = AllocateZeroPool (sizeof (CHAR16))`: the empty name, or a null `Name` that the first
  -- call refuses
  let result :=
    if env.allocatePool 2 then
      msWheaClearAllEntriesLoop env varName (store.entries.length + 1) 2 [] guid store
    else some (.invalidParameter, store)
  result.map fun r => if r.1 = .success ∨ r.1 = .notFound then (.success, r.2) else r

/-! ### The structures' bytes -/

@[simp] theorem EfiErrorTimeStamp.length_toBytes (t : EfiErrorTimeStamp) : t.toBytes.length = 8 :=
  rfl

-- `delta` rather than the equation lemma, which is slow to build for this many appends
@[simp] theorem EfiCommonErrorRecordHeader.length_toBytes (h : EfiCommonErrorRecordHeader) :
    h.toBytes.length = cperHeaderSize := by
  delta EfiCommonErrorRecordHeader.toBytes
  simp [cperHeaderSize]

@[simp] theorem EfiErrorSectionDescriptor.length_toBytes (d : EfiErrorSectionDescriptor) :
    d.toBytes.length = sectionDescriptorSize := by
  delta EfiErrorSectionDescriptor.toBytes
  simp [sectionDescriptorSize]

@[simp] theorem MuTelemetryCperSectionData.length_toBytes (t : MuTelemetryCperSectionData) :
    t.toBytes.length = muTelemetryCperSectionDataSize := by
  delta MuTelemetryCperSectionData.toBytes
  simp [muTelemetryCperSectionDataSize]

section Fields

variable (m : ByteMem)

theorem loadLe_signatureStart_toBytes (h : EfiCommonErrorRecordHeader) :
    (m.write 0 h.toBytes).loadLe 0 4 = h.signatureStart.toNat := by
  rw [loadLe_write_zero_of_le (by simp [cperHeaderSize])]
  delta EfiCommonErrorRecordHeader.toBytes
  simp only [List.append_assoc, List.drop_zero, take_leBytes_append]
  exact leValue_leBytes_of_lt (lt_of_lt_of_eq h.signatureStart.toNat_lt (by decide))

theorem loadLe_sectionCount_toBytes (h : EfiCommonErrorRecordHeader) :
    (m.write 0 h.toBytes).loadLe 10 2 = h.sectionCount.toNat := by
  rw [loadLe_write_zero_of_le (by simp [cperHeaderSize])]
  delta EfiCommonErrorRecordHeader.toBytes
  simp only [List.append_assoc]
  -- past `SignatureStart`, `Revision` and `SignatureEnd`
  rw [drop_leBytes_append (by omega), drop_leBytes_append (by omega),
    drop_leBytes_append (by omega), List.drop_zero, take_leBytes_append]
  exact leValue_leBytes_of_lt (lt_of_lt_of_eq h.sectionCount.toNat_lt (by decide))

theorem loadLe_recordLength_toBytes (h : EfiCommonErrorRecordHeader) :
    (m.write 0 h.toBytes).loadLe 20 4 = h.recordLength.toNat := by
  rw [loadLe_write_zero_of_le (by simp [cperHeaderSize])]
  delta EfiCommonErrorRecordHeader.toBytes
  simp only [List.append_assoc]
  -- past the six fields before it
  rw [drop_leBytes_append (by omega), drop_leBytes_append (by omega),
    drop_leBytes_append (by omega), drop_leBytes_append (by omega),
    drop_leBytes_append (by omega), drop_leBytes_append (by omega), List.drop_zero,
    take_leBytes_append]
  exact leValue_leBytes_of_lt (lt_of_lt_of_eq h.recordLength.toNat_lt (by decide))

theorem EfiErrorSectionDescriptor.loadLe_sectionOffset (a : Nat) (d : EfiErrorSectionDescriptor) :
    (m.write a d.toBytes).loadLe a 4 = d.sectionOffset.toNat := by
  have hload := @loadLe_write_of_le m a 0 4 d.toBytes (by simp [sectionDescriptorSize])
  rw [Nat.add_zero] at hload
  rw [hload]
  delta EfiErrorSectionDescriptor.toBytes
  simp only [List.append_assoc, List.drop_zero, take_leBytes_append]
  exact leValue_leBytes_of_lt (lt_of_lt_of_eq d.sectionOffset.toNat_lt (by decide))

theorem EfiErrorSectionDescriptor.loadLe_sectionLength (a : Nat) (d : EfiErrorSectionDescriptor) :
    (m.write a d.toBytes).loadLe (a + 4) 4 = d.sectionLength.toNat := by
  rw [loadLe_write_of_le (by simp [sectionDescriptorSize])]
  delta EfiErrorSectionDescriptor.toBytes
  simp only [List.append_assoc]
  rw [drop_leBytes_append (by omega), List.drop_zero, take_leBytes_append]
  exact leValue_leBytes_of_lt (lt_of_lt_of_eq d.sectionLength.toNat_lt (by decide))

end Fields

/-! ### The buffer -/

section Buffer

variable {env : HerEnv} {md : HerEntryMd} {buffer : AnFBuffer}

theorem toNat_anfTotalSize_of_none (hextra : md.extraSection = none) :
    (anfTotalSize md).toNat = descriptorOffset 1 + muTelemetryCperSectionDataSize := by
  simp [anfTotalSize, hextra]
  decide

theorem toNat_anfTotalSize_of_some {extra : MsWheaErrorExtraSectionData}
    (hextra : md.extraSection = some extra) :
    (anfTotalSize md).toNat =
      (descriptorOffset 2 + muTelemetryCperSectionDataSize + extra.dataSize.toNat) % 2 ^ 32 := by
  have hdata := extra.dataSize.toNat_lt
  simp only [anfTotalSize, hextra, UInt32.toNat_add, Nat.toUInt32_eq, UInt32.toNat_ofNat']
  simp only [descriptorOffset, cperHeaderSize, sectionDescriptorSize,
    muTelemetryCperSectionDataSize]
  omega

/-- The buffer of an entry without an extra section, as the stores leave it. -/
theorem msWheaAnFBuffer_of_none (hextra : md.extraSection = none)
    (halloc : env.allocatePool (anfTotalSize md).toNat = true) :
    msWheaAnFBuffer env md = some
      { mem := (((env.pool.write 0 (List.replicate (anfTotalSize md).toNat 0)).write 0
            (createCperHdrDefaultMin env md (anfTotalSize md)).toBytes).write (descriptorOffset 0)
            (createCperErrSecDscpDefaultMin md (descriptorOffset 1).toUInt32).toBytes).write
            (descriptorOffset 1) (createMuTelemetryData md).toBytes
        size := anfTotalSize md
        writes := [(0, cperHeaderSize), (descriptorOffset 0, sectionDescriptorSize),
          (descriptorOffset 1, muTelemetryCperSectionDataSize)] } := by
  simp [msWheaAnFBuffer, hextra, halloc, AnFBuffer.store]

/-- The buffer of an entry with an extra section, as the stores leave it. -/
theorem msWheaAnFBuffer_of_some {extra : MsWheaErrorExtraSectionData}
    (hextra : md.extraSection = some extra)
    (halloc : env.allocatePool (anfTotalSize md).toNat = true) :
    msWheaAnFBuffer env md = some
      { mem := (((((env.pool.write 0 (List.replicate (anfTotalSize md).toNat 0)).write 0
            (createCperHdrDefaultMin env md (anfTotalSize md)).toBytes).write (descriptorOffset 0)
            (createCperErrSecDscpDefaultMin md (descriptorOffset 2).toUInt32).toBytes).write
            (descriptorOffset 1) (createCperErrExtraSecDscpDefaultMin md extra
              (descriptorOffset 2 + muTelemetryCperSectionDataSize).toUInt32).toBytes).write
            (descriptorOffset 2) (createMuTelemetryData md).toBytes).write
            (descriptorOffset 2 + muTelemetryCperSectionDataSize)
            (extra.data.read 0 extra.dataSize.toNat)
        size := anfTotalSize md
        writes := [(0, cperHeaderSize), (descriptorOffset 0, sectionDescriptorSize),
          (descriptorOffset 1, sectionDescriptorSize),
          (descriptorOffset 2, muTelemetryCperSectionDataSize),
          (descriptorOffset 2 + muTelemetryCperSectionDataSize, extra.dataSize.toNat)] } := by
  simp [msWheaAnFBuffer, hextra, halloc, AnFBuffer.store]

/-- A buffer comes back only from an allocation that went through. -/
theorem allocatePool_of_msWheaAnFBuffer (h : msWheaAnFBuffer env md = some buffer) :
    env.allocatePool (anfTotalSize md).toNat = true := by
  by_contra halloc
  simp [msWheaAnFBuffer, halloc] at h

theorem size_of_msWheaAnFBuffer (h : msWheaAnFBuffer env md = some buffer) :
    buffer.size = anfTotalSize md := by
  have halloc := allocatePool_of_msWheaAnFBuffer h
  cases hextra : md.extraSection with
  | none =>
      rw [msWheaAnFBuffer_of_none hextra halloc, Option.some.injEq] at h
      rw [← h]
  | some extra =>
      rw [msWheaAnFBuffer_of_some hextra halloc, Option.some.injEq] at h
      rw [← h]

/-- The fields `ValidateCperHeader` reads from the record of an entry without an extra
section. -/
theorem cperFields_of_none (hextra : md.extraSection = none)
    (h : msWheaAnFBuffer env md = some buffer) :
    signatureStart buffer.mem = efiErrorRecordSignatureStart ∧ sectionCount buffer.mem = 1 ∧
      recordLength buffer.mem = buffer.size.toNat ∧
      sectionOffset buffer.mem 0 = descriptorOffset 1 ∧
      sectionLength buffer.mem 0 = muTelemetryCperSectionDataSize := by
  rw [msWheaAnFBuffer_of_none hextra (allocatePool_of_msWheaAnFBuffer h), Option.some.injEq] at h
  subst h
  simp only [signatureStart, sectionCount, recordLength, sectionOffset, sectionLength]
  -- each field lies before every store after its own
  simp (disch := decide) only [loadLe_write_of_le_addr]
  simp only [loadLe_signatureStart_toBytes, loadLe_sectionCount_toBytes,
    loadLe_recordLength_toBytes, EfiErrorSectionDescriptor.loadLe_sectionOffset,
    EfiErrorSectionDescriptor.loadLe_sectionLength]
  simp [createCperHdrDefaultMin, createCperErrSecDscpDefaultMin, hextra]
  decide

/-- The fields `ValidateCperHeader` reads from the record of an entry with an extra section. -/
theorem cperFields_of_some {extra : MsWheaErrorExtraSectionData}
    (hextra : md.extraSection = some extra) (h : msWheaAnFBuffer env md = some buffer) :
    signatureStart buffer.mem = efiErrorRecordSignatureStart ∧ sectionCount buffer.mem = 2 ∧
      recordLength buffer.mem = buffer.size.toNat ∧
      sectionOffset buffer.mem 0 = descriptorOffset 2 ∧
      sectionLength buffer.mem 0 = muTelemetryCperSectionDataSize ∧
      sectionOffset buffer.mem 1 = descriptorOffset 2 + muTelemetryCperSectionDataSize ∧
      sectionLength buffer.mem 1 = extra.dataSize.toNat := by
  rw [msWheaAnFBuffer_of_some hextra (allocatePool_of_msWheaAnFBuffer h), Option.some.injEq] at h
  subst h
  simp only [signatureStart, sectionCount, recordLength, sectionOffset, sectionLength]
  simp (disch := decide) only [loadLe_write_of_le_addr]
  simp only [loadLe_signatureStart_toBytes, loadLe_sectionCount_toBytes,
    loadLe_recordLength_toBytes, EfiErrorSectionDescriptor.loadLe_sectionOffset,
    EfiErrorSectionDescriptor.loadLe_sectionLength]
  simp [createCperHdrDefaultMin, createCperErrSecDscpDefaultMin,
    createCperErrExtraSecDscpDefaultMin, hextra]
  decide

end Buffer

/-! ### What the record is -/

/-- `TotalSize` does not wrap: with an extra section, the `328 + DataSize` bytes of the record
fit a `UINT32`. -/
def TotalSizeFits (md : HerEntryMd) : Prop :=
  ∀ extra ∈ md.extraSection,
    descriptorOffset 2 + muTelemetryCperSectionDataSize + extra.dataSize.toNat < 2 ^ 32

/-- The entries whose record `ValidateCperHeader` accepts: those without an extra section, and
those whose extra section has data and a record that fits a `UINT32`. -/
def RecordValid (md : HerEntryMd) : Prop :=
  ∀ extra ∈ md.extraSection, 0 < extra.dataSize.toNat ∧
    descriptorOffset 2 + muTelemetryCperSectionDataSize + extra.dataSize.toNat < 2 ^ 32

section Record

variable {env : HerEnv} {md : HerEntryMd} {buffer : AnFBuffer}

/-- **Every store of `MsWheaAnFBuffer` lies inside the pool buffer exactly when `TotalSize` does
not wrap.** Past the wrap the buffer is shorter than 328 bytes, and the telemetry data already
ends past it. -/
theorem msWheaAnFBuffer_writes_within_iff (h : msWheaAnFBuffer env md = some buffer) :
    (∀ r ∈ buffer.writes, r.1 + r.2 ≤ buffer.size.toNat) ↔ TotalSizeFits md := by
  have halloc := allocatePool_of_msWheaAnFBuffer h
  cases hextra : md.extraSection with
  | none =>
      rw [msWheaAnFBuffer_of_none hextra halloc, Option.some.injEq] at h
      subst h
      simp only [TotalSizeFits, hextra, toNat_anfTotalSize_of_none hextra]
      simp [descriptorOffset, cperHeaderSize, sectionDescriptorSize,
        muTelemetryCperSectionDataSize]
  | some extra =>
      rw [msWheaAnFBuffer_of_some hextra halloc, Option.some.injEq] at h
      subst h
      have hdata := extra.dataSize.toNat_lt
      simp only [TotalSizeFits, hextra, toNat_anfTotalSize_of_some hextra]
      simp [descriptorOffset, cperHeaderSize, sectionDescriptorSize,
        muTelemetryCperSectionDataSize]
      omega

/-- The record of an entry without an extra section passes the check. -/
theorem cperValid_of_none (hextra : md.extraSection = none)
    (h : msWheaAnFBuffer env md = some buffer) : CperValid buffer.mem buffer.size.toNat := by
  obtain ⟨hsignature, hcount, hlength, hoffset, hsection⟩ := cperFields_of_none hextra h
  have hsize : buffer.size.toNat = descriptorOffset 1 + muTelemetryCperSectionDataSize := by
    rw [size_of_msWheaAnFBuffer h, toNat_anfTotalSize_of_none hextra]
  refine ⟨?_, hsignature, hlength, ?_, ?_, ?_, ?_⟩
  · rw [hsize]
    decide
  · rw [hcount, hsize]
    decide
  · intro i hi
    obtain rfl : i = 0 := by omega
    rw [hsection]
    decide
  · intro i hi
    obtain rfl : i = 0 := by omega
    rw [hoffset, hcount]
    rfl
  · rw [hcount, Finset.sum_range_one, hsection, hsize]

/-- The record of an entry with an extra section passes the check exactly when the section has
data and `TotalSize` does not wrap: a section of no bytes fails `SectionLength != 0`, and a
wrapped `RecordLength` is shorter than the sections it describes. -/
theorem cperValid_of_some_iff {extra : MsWheaErrorExtraSectionData}
    (hextra : md.extraSection = some extra) (h : msWheaAnFBuffer env md = some buffer) :
    CperValid buffer.mem buffer.size.toNat ↔ 0 < extra.dataSize.toNat ∧
      descriptorOffset 2 + muTelemetryCperSectionDataSize + extra.dataSize.toNat < 2 ^ 32 := by
  obtain ⟨hsignature, hcount, hlength, hoffset₀, hsection₀, hoffset₁, hsection₁⟩ :=
    cperFields_of_some hextra h
  have hsize : buffer.size.toNat =
      (descriptorOffset 2 + muTelemetryCperSectionDataSize + extra.dataSize.toNat) % 2 ^ 32 := by
    rw [size_of_msWheaAnFBuffer h, toNat_anfTotalSize_of_some hextra]
  have hsum : ∑ j ∈ Finset.range 2, sectionLength buffer.mem j =
      muTelemetryCperSectionDataSize + extra.dataSize.toNat := by
    rw [Finset.sum_range_succ, Finset.sum_range_one, hsection₀, hsection₁]
  constructor
  · intro hvalid
    have hpos := hvalid.sectionLength_pos 1 (by omega)
    have hend := hvalid.sections_end
    rw [hcount, hsum, hsize] at hend
    rw [hsection₁] at hpos
    -- the sections end at `RecordLength`, which is below `2 ^ 32`
    exact ⟨hpos, by omega⟩
  · rintro ⟨hpos, hfits⟩
    rw [Nat.mod_eq_of_lt hfits] at hsize
    refine ⟨?_, hsignature, hlength, ?_, ?_, ?_, ?_⟩
    · rw [hsize]
      simp only [descriptorOffset, cperHeaderSize, sectionDescriptorSize,
        muTelemetryCperSectionDataSize]
      omega
    · rw [hcount, hsize]
      omega
    · intro i hi
      rw [hcount] at hi
      obtain rfl | rfl : i = 0 ∨ i = 1 := by omega
      · rw [hsection₀]
        decide
      · rwa [hsection₁]
    · intro i hi
      rw [hcount] at hi ⊢
      obtain rfl | rfl : i = 0 ∨ i = 1 := by omega
      · rw [hoffset₀, Finset.sum_range_zero, Nat.add_zero]
      · rw [hoffset₁, Finset.sum_range_one, hsection₀]
    · rw [hcount, hsum, hsize, Nat.add_assoc]

/-- **`ValidateCperHeader` accepts the record of `MsWheaAnFBuffer` exactly for a
`RecordValid` entry.** -/
theorem validateCperHeader_msWheaAnFBuffer_iff {uintnBits : Nat} (hbits : 32 ≤ uintnBits)
    (h : msWheaAnFBuffer env md = some buffer) :
    validateCperHeader uintnBits buffer.mem buffer.size.toNat = true ↔ RecordValid md := by
  have hsize : buffer.size.toNat < 2 ^ uintnBits :=
    lt_of_lt_of_le buffer.size.toNat_lt (Nat.pow_le_pow_right (by decide) hbits)
  rw [validateCperHeader_eq_true_iff hsize]
  cases hextra : md.extraSection with
  | none => exact iff_of_true (cperValid_of_none hextra h) (by simp [RecordValid, hextra])
  | some extra =>
      rw [cperValid_of_some_iff hextra h]
      simp [RecordValid, hextra]

/-- `MsWheaReportHERAdd` either returns an error before `WheaSetVariable` with the store as it
was, or hands it the buffer `MsWheaAnFBuffer` filled, under a `HwErrRecXXXX` name. -/
theorem msWheaReportHERAdd_cases (env : HerEnv) (store : VariableList EfiGuid) (md : HerEntryMd) :
    ((msWheaReportHERAdd env store md).setVariableBuffer = none ∧
        (msWheaReportHERAdd env store md).status.isError = true ∧
        (msWheaReportHERAdd env store md).store = store) ∨
      ∃ index buffer, msWheaAnFBuffer env md = some buffer ∧
        (msWheaReportHERAdd env store md).setVariableBuffer = some buffer ∧
        ((msWheaReportHERAdd env store md).status, (msWheaReportHERAdd env store md).store) =
          store.setVariable ⟨hwErrRecVarName index, env.hardwareErrorVariableGuid⟩
            (hwErrRecAttributes env) (buffer.mem.read 0 buffer.size.toNat) := by
  unfold msWheaReportHERAdd
  cases hslot : msWheaFindNextAvailableSlot env store with
  | mk status index =>
      by_cases herror : status.isError
      · exact .inl ⟨by simp [herror], by simp [herror], by simp [herror]⟩
      simp only [herror, if_false, Bool.false_eq_true]
      cases hbuffer : msWheaAnFBuffer env md with
      | none => exact .inl ⟨rfl, rfl, rfl⟩
      | some buffer =>
          -- the two size checks return before `WheaSetVariable`
          by_cases hzero : buffer.size = 0
          · exact .inl ⟨by simp [hzero], by simp [hzero, EfiStatus.isError], by simp [hzero]⟩
          by_cases hmax : buffer.size > env.maxHardwareErrorVariableSize
          · exact .inl ⟨by simp [hzero, hmax], by simp [hzero, hmax, EfiStatus.isError],
              by simp [hzero, hmax]⟩
          exact .inr ⟨index, buffer, rfl, by simp [hzero, hmax], by simp [hzero, hmax]⟩

/-- **What `MsWheaReportHERAdd` stores.** When it reaches `WheaSetVariable`, it stores the
`Size` bytes of the buffer `MsWheaAnFBuffer` filled under a `HwErrRecXXXX` name; the stores
into that buffer stay inside it exactly when `TotalSize` does not wrap, and the record passes
`ValidateCperHeader` exactly for a `RecordValid` entry. When it returns before, it returns an
error and leaves the store as it was. -/
theorem msWheaReportHERAdd_record_iff (uintnBits : Nat) (hbits : 32 ≤ uintnBits) (env : HerEnv)
    (store : VariableList EfiGuid) (md : HerEntryMd) :
    (∀ buffer, (msWheaReportHERAdd env store md).setVariableBuffer = some buffer →
      (∃ index : UInt16,
        ((msWheaReportHERAdd env store md).status, (msWheaReportHERAdd env store md).store) =
          store.setVariable ⟨hwErrRecVarName index, env.hardwareErrorVariableGuid⟩
            (hwErrRecAttributes env) (buffer.mem.read 0 buffer.size.toNat)) ∧
      ((∀ r ∈ buffer.writes, r.1 + r.2 ≤ buffer.size.toNat) ↔ TotalSizeFits md) ∧
      (validateCperHeader uintnBits buffer.mem buffer.size.toNat = true ↔ RecordValid md)) ∧
    ((msWheaReportHERAdd env store md).setVariableBuffer = none →
      (msWheaReportHERAdd env store md).status.isError = true ∧
        (msWheaReportHERAdd env store md).store = store) := by
  rcases msWheaReportHERAdd_cases env store md with ⟨hnone, herror, hstore⟩ |
      ⟨index, buffer, hbuffer, hsome, hset⟩
  · refine ⟨fun buffer h => ?_, fun _ => ⟨herror, hstore⟩⟩
    rw [hnone] at h
    cases h
  · refine ⟨fun buffer' h => ?_, fun h => ?_⟩
    · rw [hsome, Option.some.injEq] at h
      subst h
      exact ⟨⟨index, hset⟩, msWheaAnFBuffer_writes_within_iff hbuffer,
        validateCperHeader_msWheaAnFBuffer_iff hbits hbuffer⟩
    · rw [hsome] at h
      cases h

end Record

/-! ### An extra section with no data -/

/-- A platform with the default PCDs and an allocator that always succeeds. -/
def defaultHerEnv : HerEnv where
  hardwareErrorVariableGuid := EfiGuid.zero
  errorRecordRevision := 0
  notificationTypeBootGuid := EfiGuid.zero
  deviceIdentifierGuid := EfiGuid.zero
  variableHardwareMaxCount := 0xFFFF
  maxHardwareErrorVariableSize := 0x8000
  hardwareErrorRecordAttributeSupported := true
  currentTime := none
  recordId := 0
  allocatePool := fun _ => true
  pool := fun _ => 0

/-- An entry whose extra section has `DataSize = 0`. -/
def emptyExtraSectionMd : HerEntryMd where
  rev := 0
  phase := msWheaPhaseDxeVar
  errorSeverity := 0
  payloadSize := 0
  errorStatusValue := 0
  additionalInfo1 := 0
  additionalInfo2 := 0
  moduleId := EfiGuid.zero
  ihvSharingGuid := EfiGuid.zero
  libraryId := EfiGuid.zero
  extraSection := some ⟨EfiGuid.zero, 0, fun _ => 0⟩

/-- On an empty store, `MsWheaReportHERAdd` stores the record of an extra section with no data:
every store stayed inside the buffer, yet `ValidateCperHeader` rejects the record. -/
theorem msWheaReportHERAdd_stores_empty_section :
    ∃ buffer, (msWheaReportHERAdd defaultHerEnv VariableList.empty
        emptyExtraSectionMd).setVariableBuffer = some buffer ∧
      (∀ r ∈ buffer.writes, r.1 + r.2 ≤ buffer.size.toNat) ∧
      validateCperHeader 64 buffer.mem buffer.size.toNat = false := by
  obtain ⟨hreached, -⟩ := msWheaReportHERAdd_record_iff 64 (by decide) defaultHerEnv
    VariableList.empty emptyExtraSectionMd
  have hsome : (msWheaReportHERAdd defaultHerEnv VariableList.empty
      emptyExtraSectionMd).setVariableBuffer.isSome = true := by
    decide
  obtain ⟨buffer, hbuffer⟩ := Option.isSome_iff_exists.mp hsome
  obtain ⟨-, hwithin, hvalid⟩ := hreached buffer hbuffer
  refine ⟨buffer, hbuffer, hwithin.mpr ?_, ?_⟩
  · simp [TotalSizeFits, emptyExtraSectionMd, descriptorOffset, cperHeaderSize,
      sectionDescriptorSize, muTelemetryCperSectionDataSize]
  · rw [Bool.eq_false_iff, Ne, hvalid]
    simp [RecordValid, emptyExtraSectionMd]

/-! ### The entries `ReportHwErrRecRouter` builds -/

/-- `sizeof (MS_WHEA_RSC_INTERNAL_ERROR_DATA)`: two GUIDs and two `UINT64`s. -/
def msWheaRscInternalErrorDataSize : Nat := 48

/-- The `ExtraSection` `ReportHwErrRecRouter` (`MsWheaReportCommon.c`) puts into the entry for
status code data of `Data->Size` bytes, a `UINT16`: outside PEI, data longer than the
`MS_WHEA_RSC_INTERNAL_ERROR_DATA` header and a section GUID has its rest as the section's data,
`Data->Size - 64` bytes, when `AllocatePool` succeeds; otherwise the entry has none. -/
def routerExtraSection (size : UInt16) (pei allocated : Bool) (sectionGuid : EfiGuid)
    (data : ByteMem) : Option MsWheaErrorExtraSectionData :=
  if msWheaRscInternalErrorDataSize + 16 < size.toNat ∧ !pei ∧ allocated then
    some ⟨sectionGuid, (size.toNat - msWheaRscInternalErrorDataSize - 16).toUInt32, data⟩
  else none

/-- The router's sections have data, and a `UINT16` of it keeps `TotalSize` from wrapping. -/
theorem recordValid_of_routerExtraSection {md : HerEntryMd} {size : UInt16} {pei allocated : Bool}
    {sectionGuid : EfiGuid} {data : ByteMem}
    (hextra : md.extraSection = routerExtraSection size pei allocated sectionGuid data) :
    RecordValid md := by
  intro extra hmem
  rw [hextra, routerExtraSection] at hmem
  split_ifs at hmem with hdata
  · obtain rfl := Option.mem_some_iff.mp hmem
    have hsize := size.toNat_lt
    have hlt : size.toNat - msWheaRscInternalErrorDataSize - 16 < 2 ^ 32 := by
      simp only [msWheaRscInternalErrorDataSize] at hsize ⊢; omega
    dsimp only
    rw [Nat.toUInt32, UInt32.toNat_ofNat_of_lt' hlt]
    simp only [msWheaRscInternalErrorDataSize, descriptorOffset, cperHeaderSize,
      sectionDescriptorSize, muTelemetryCperSectionDataSize] at hdata hsize ⊢
    omega
  · cases hmem

theorem totalSizeFits_of_recordValid {md : HerEntryMd} (h : RecordValid md) : TotalSizeFits md :=
  fun extra hmem => (h extra hmem).2

/-- **`MsWheaReportHERAdd` on the entries `ReportHwErrRecRouter` builds.** For any status code
data, phase and allocator, the entry has no extra section or one of `1 .. 0xFFFF - 64` bytes.
So when `MsWheaReportHERAdd` reaches `WheaSetVariable`, it stores the `Size` bytes of the
buffer under a `HwErrRecXXXX` name, every store into that buffer stayed inside it, and the
record passes `ValidateCperHeader`. When it returns before, it returns an error and leaves the
store as it was. -/
theorem msWheaReportHERAdd_router_record_valid (uintnBits : Nat) (hbits : 32 ≤ uintnBits)
    (env : HerEnv) (store : VariableList EfiGuid) (md : HerEntryMd) (size : UInt16)
    (pei allocated : Bool) (sectionGuid : EfiGuid) (data : ByteMem)
    (hextra : md.extraSection = routerExtraSection size pei allocated sectionGuid data) :
    (∀ buffer, (msWheaReportHERAdd env store md).setVariableBuffer = some buffer →
      (∃ index : UInt16,
        ((msWheaReportHERAdd env store md).status, (msWheaReportHERAdd env store md).store) =
          store.setVariable ⟨hwErrRecVarName index, env.hardwareErrorVariableGuid⟩
            (hwErrRecAttributes env) (buffer.mem.read 0 buffer.size.toNat)) ∧
      (∀ r ∈ buffer.writes, r.1 + r.2 ≤ buffer.size.toNat) ∧
      validateCperHeader uintnBits buffer.mem buffer.size.toNat = true) ∧
    ((msWheaReportHERAdd env store md).setVariableBuffer = none →
      (msWheaReportHERAdd env store md).status.isError = true ∧
        (msWheaReportHERAdd env store md).store = store) := by
  have hvalid := recordValid_of_routerExtraSection hextra
  obtain ⟨hreached, hearly⟩ := msWheaReportHERAdd_record_iff uintnBits hbits env store md
  refine ⟨fun buffer hbuffer => ?_, hearly⟩
  obtain ⟨hset, hwithin, hcper⟩ := hreached buffer hbuffer
  exact ⟨hset, hwithin.mpr (totalSizeFits_of_recordValid hvalid), hcper.mpr hvalid⟩

/-- A DXE entry whose status code data carries 100 bytes: a section of 36 bytes. -/
def routerSampleMd : HerEntryMd :=
  { emptyExtraSectionMd with
    extraSection := routerExtraSection 100 false true EfiGuid.zero fun _ => 0 }

theorem msWheaReportHERAdd_router_record_valid_sample :
    routerSampleMd.extraSection = routerExtraSection 100 false true EfiGuid.zero (fun _ => 0) ∧
      (∀ buffer, (msWheaReportHERAdd defaultHerEnv VariableList.empty
          routerSampleMd).setVariableBuffer = some buffer →
        (∃ index : UInt16,
          ((msWheaReportHERAdd defaultHerEnv VariableList.empty routerSampleMd).status,
              (msWheaReportHERAdd defaultHerEnv VariableList.empty routerSampleMd).store) =
            VariableList.empty.setVariable
              ⟨hwErrRecVarName index, defaultHerEnv.hardwareErrorVariableGuid⟩
              (hwErrRecAttributes defaultHerEnv) (buffer.mem.read 0 buffer.size.toNat)) ∧
        (∀ r ∈ buffer.writes, r.1 + r.2 ≤ buffer.size.toNat) ∧
        validateCperHeader 64 buffer.mem buffer.size.toNat = true) ∧
      ((msWheaReportHERAdd defaultHerEnv VariableList.empty routerSampleMd).setVariableBuffer =
          none →
        (msWheaReportHERAdd defaultHerEnv VariableList.empty routerSampleMd).status.isError =
            true ∧
          (msWheaReportHERAdd defaultHerEnv VariableList.empty routerSampleMd).store =
            VariableList.empty) :=
  ⟨rfl, msWheaReportHERAdd_router_record_valid 64 (by decide) defaultHerEnv VariableList.empty
    routerSampleMd 100 false true EfiGuid.zero (fun _ => 0) rfl⟩

/-! ### What `MsWheaClearAllEntries` deletes -/

section ClearAll

variable {env : HerEnv} {varName : List UInt16}

/-- Past the last variable the call returns `EFI_NOT_FOUND`. -/
theorem clearAllEntriesNextName_of_none {store : VariableList EfiGuid} {nameSize : Nat}
    {name : List UInt16} {guid : EfiGuid} (h : store.nextKey name guid = .ok none) :
    clearAllEntriesNextName env store nameSize name guid =
      some (⟨.notFound, nameSize, name, guid⟩, nameSize) := by
  simp [clearAllEntriesNextName, VariableList.getNextVariableName_of_none h]

/-- On a next variable, and with a pool that regrows `Name`, the call returns that variable. -/
theorem clearAllEntriesNextName_of_some {store : VariableList EfiGuid} (nameSize : Nat)
    {name : List UInt16} {guid : EfiGuid} {k : VariableKey EfiGuid}
    (h : store.nextKey name guid = .ok (some k)) (halloc : ∀ n, env.allocatePool n = true) :
    ∃ nameSize', clearAllEntriesNextName env store nameSize name guid =
      some (⟨.success, 2 * (k.name.length + 1), k.name, k.guid⟩, nameSize') := by
  by_cases hsmall : nameSize < 2 * (k.name.length + 1)
  · -- the first call asks for `2 * (k.name.length + 1)` bytes, the second fits
    refine ⟨2 * (k.name.length + 1), ?_⟩
    simp [clearAllEntriesNextName, VariableList.getNextVariableName_of_some h, hsmall, halloc]
  · exact ⟨nameSize, by
      simp [clearAllEntriesNextName, VariableList.getNextVariableName_of_some h, hsmall]⟩

/-- **The loop deletes nothing but `VarName`'s variable**: every other variable is as it was,
whatever the loop enumerates. -/
theorem msWheaClearAllEntriesLoop_lookup {k : VariableKey EfiGuid}
    (hk : k ≠ ⟨varName, env.hardwareErrorVariableGuid⟩) :
    ∀ {fuel nameSize name guid store r},
      msWheaClearAllEntriesLoop env varName fuel nameSize name guid store = some r →
        r.2.lookup k = store.lookup k := by
  intro fuel
  induction fuel with
  | zero =>
      intro nameSize name guid store r h
      cases h
  | succ fuel ih =>
      intro nameSize name guid store r h
      simp only [msWheaClearAllEntriesLoop] at h
      cases hnext : clearAllEntriesNextName env store nameSize name guid with
      | none =>
          rw [hnext, Option.some.injEq] at h
          rw [← h]
      | some result =>
          obtain ⟨next, nameSize'⟩ := result
          simp only [hnext] at h
          by_cases herror : next.status.isError
          · rw [if_pos herror, Option.some.injEq] at h
            rw [← h]
          rw [if_neg herror] at h
          by_cases hguid : next.guid ≠ env.hardwareErrorVariableGuid
          · rw [if_pos hguid] at h
            exact ih h
          rw [if_neg hguid] at h
          -- the delete of `VarName` leaves `k` alone, and so does the rest of the loop
          have hdelete := VariableList.lookup_setVariable_nil_of_ne (l := store) hk
            (hwErrRecAttributes env)
          by_cases hstatus : (store.setVariable ⟨varName, env.hardwareErrorVariableGuid⟩
              (hwErrRecAttributes env) []).1.isError
          · simp only [hstatus, if_true, Option.some.injEq] at h
            rw [← h, hdelete]
          · simp only [hstatus, Bool.false_eq_true, if_false] at h
            rw [ih h, hdelete]

/-- When `VarName` names no variable, the first delete returns `EFI_NOT_FOUND` and the loop
breaks with it: from the variable at position `p` of the walk, with a pass for each variable
left and one more, the loop returns `EFI_NOT_FOUND` and the store as it was. -/
theorem msWheaClearAllEntriesLoop_of_not_mem {store : VariableList EfiGuid}
    (hk : ⟨varName, env.hardwareErrorVariableGuid⟩ ∉ store.keys) (hname : varName ≠ [])
    (halloc : ∀ n, env.allocatePool n = true) :
    ∀ {fuel p nameSize name guid}, store.nextKey name guid = .ok store.keys[p]? →
      store.keys.length - p < fuel →
        msWheaClearAllEntriesLoop env varName fuel nameSize name guid store =
          some (.notFound, store) := by
  intro fuel
  induction fuel with
  | zero =>
      intro p nameSize name guid _ hfuel
      omega
  | succ fuel ih =>
      intro p nameSize name guid hwalk hfuel
      simp only [msWheaClearAllEntriesLoop]
      by_cases hp : p < store.keys.length
      · -- the walk returns the variable at `p`
        rw [List.getElem?_eq_getElem hp] at hwalk
        obtain ⟨nameSize', hnext⟩ := clearAllEntriesNextName_of_some nameSize hwalk halloc
        have hfollow := VariableList.nextKey_getElem store hp
        simp only [hnext, EfiStatus.isError_success, Bool.false_eq_true, if_false]
        by_cases hguid : store.keys[p].guid ≠ env.hardwareErrorVariableGuid
        · rw [if_pos hguid]
          exact ih hfollow (by omega)
        · rw [if_neg hguid, VariableList.setVariable_delete_of_not_mem hname hk]
          rfl
      · -- past the last variable
        rw [List.getElem?_eq_none (by omega)] at hwalk
        simp only [clearAllEntriesNextName_of_none hwalk]
        rfl

end ClearAll

/-- **`MsWheaClearAllEntries` deletes at most the variable its uninitialised `VarName` names.**
Every other variable, under `gEfiHardwareErrorVariableGuid` or not, is left as it was. When
`VarName` is a non-empty name that names no variable, and the pool serves every allocation, the
function returns `EFI_SUCCESS` and the store unchanged, whatever `HwErrRec` variables it holds. -/
theorem msWheaClearAllEntries_deletes_only_varName (env : HerEnv) (store : VariableList EfiGuid)
    (varName : List UInt16) (guid : EfiGuid) :
    (∀ r ∈ msWheaClearAllEntries env store varName guid,
      ∀ k, k ≠ ⟨varName, env.hardwareErrorVariableGuid⟩ → r.2.lookup k = store.lookup k) ∧
    (⟨varName, env.hardwareErrorVariableGuid⟩ ∉ store.keys → varName ≠ [] →
      (∀ n, env.allocatePool n = true) →
        msWheaClearAllEntries env store varName guid = some (.success, store)) := by
  constructor
  · intro r hr k hk
    simp only [msWheaClearAllEntries, Option.mem_def, Option.map_eq_some_iff] at hr
    obtain ⟨r₀, hloop, rfl⟩ := hr
    -- the final status conversion keeps the store
    have hstore : (if r₀.1 = .success ∨ r₀.1 = .notFound then (EfiStatus.success, r₀.2)
        else r₀).2 = r₀.2 := by
      split <;> rfl
    rw [hstore]
    by_cases halloc : env.allocatePool 2
    · rw [if_pos halloc] at hloop
      exact msWheaClearAllEntriesLoop_lookup hk hloop
    · rw [if_neg halloc, Option.some.injEq] at hloop
      rw [← hloop]
  · intro hk hname halloc
    have hstart : store.nextKey [] guid = .ok store.keys[0]? := by
      rw [VariableList.nextKey_nil, List.head?_eq_getElem?]
    have hloop := @msWheaClearAllEntriesLoop_of_not_mem env varName store hk hname halloc
      (store.entries.length + 1) 0 2 [] guid hstart (by simp [VariableList.keys])
    simp [msWheaClearAllEntries, halloc, hloop]

/-- A store whose one variable is `HwErrRec0000` under `gEfiHardwareErrorVariableGuid` of
`defaultHerEnv`. -/
def oneRecordStore : VariableList EfiGuid where
  entries := [(⟨hwErrRecVarName 0, EfiGuid.zero⟩, ⟨0x7, [1]⟩)]
  nodup := by simp
  name_ne := by
    intro e he
    simp only [List.mem_singleton] at he
    subst he
    simp [hwErrRecVarName]

/-- With `L"X"` in `VarName`, `MsWheaClearAllEntries` returns `EFI_SUCCESS` and `HwErrRec0000`
is still there. -/
theorem msWheaClearAllEntries_keeps_hwErrRec0000 :
    (⟨hwErrRecVarName 0, defaultHerEnv.hardwareErrorVariableGuid⟩ : VariableKey EfiGuid) ∈
        oneRecordStore.keys ∧
      msWheaClearAllEntries defaultHerEnv oneRecordStore [0x58] EfiGuid.zero =
        some (.success, oneRecordStore) := by
  refine ⟨by decide, (msWheaClearAllEntries_deletes_only_varName defaultHerEnv oneRecordStore
    [0x58] EfiGuid.zero).2 ?_ (by decide) fun _ => rfl⟩
  decide

end MuPlus.Whea
