import MuPlus.Lib.ByteMem
import MuPlus.Lib.Interaction
import MuPlus.Uefi.Variable

/-!
# MuPlus.Mfci.Dxe

**MFCI policy re-authentication and installation**: `VerifyPolicyAndChange`
(`MfciPkg/MfciDxe/MfciDxe.c`) with the routines it calls, and `VerifyTargeting`
(`MfciDxe/MfciTargeting.c`).

The routine runs once a boot. It re-authenticates the installed (current) policy
blob against the current nonce and the policy `mCurrentPolicy` the platform booted
in, and falls back to the customer state (with a reset) when that fails. Then, if
the OS left a next policy blob in its mailbox, it authenticates it against the
next nonce and installs it: `InternalTransitionRoutine` copies it to the current
variables, rolls the next nonce, and resets. Every other way out goes through
`Exit:`, which locks the policy variables and falls back to the customer state
when an error is pending.

The firmware services are calls of a `Prog` (`MuPlus.Lib.Interaction`):
`GetVariable`, `SetVariable`, `GetRandomNumber64`, the device-id functions of
`MfciDeviceIdSupportLib`, `AllocatePool`, the signature check `ValidateBlob`, the
callbacks `NotifyMfciPolicyChange` runs, `ResetSystemWithSubtype` and
`CpuDeadLoop`, which no answer ever returns from. The blob field extraction of
`MfciPolicyParsingLib` is a parameter, as are `mCurrentPolicy` and the
certificate buffer `PcdMfciPkcs7CertBufferXdr`.

`goto Exit` is `throw Status` in `ExceptT EfiStatus`: the steps before `Exit:`
either reach Step 4 with the blob to install or leave with the `Status` that
`Exit:` then reads. `MfciCall.Answers` is what a boot's firmware answers against a
variable store (`MuPlus.Uefi.Variable`).
-/

namespace MuPlus.Mfci

open Interaction ByteMem

/-! ### Constants and names -/

/-- `MFCI_POLICY_VARIABLE_ATTR`: non-volatile, boot-service and runtime access. -/
def mfciPolicyVariableAttr : UInt32 := 0x07

/-- `MFCI_POLICY_TARGETING_VARIABLE_ATTR`. -/
def mfciPolicyTargetingVariableAttr : UInt32 := 0x07

/-- `WRITE_ONCE_STATE_VAR_ATTR`: volatile, boot-service and runtime access. -/
def writeOnceStateVarAttr : UInt32 := 0x06

/-- `MFCI_LOCK_VAR_VALUE`. -/
def mfciLockVarValue : UInt8 := 0x01

/-- `CUSTOMER_STATE`: manufacturing abilities disabled. -/
def customerState : UInt64 := 0

/-- `MFCI_POLICY_VALUE_ACTIONS_MASK`: the one-time action bits of a policy. -/
def mfciPolicyValueActionsMask : UInt64 := 0x0000FFFF0000FFFF

/-- `MFCI_POLICY_INVALID_NONCE`. -/
def mfciPolicyInvalidNonce : UInt64 := 0

/-- `MFCI_POLICY_FIELD_MAX_LEN`, in `CHAR16`s. -/
def mfciPolicyFieldMaxLen : Nat := 256

/-- The OEM targeting fields, `MFCI_POLICY_TARGET_MANUFACTURER` to
`MFCI_POLICY_TARGET_OEM_02`. -/
inductive TargetField where
  | manufacturer
  | product
  | serialNumber
  | oem01
  | oem02
  deriving DecidableEq, Repr

/-- The fields in the order of `MFCI_POLICY_FIELD`, which is also the order of
`gDeviceIdFnToTargetVarNameMap`. -/
def targetFields : List TargetField := [.manufacturer, .product, .serialNumber, .oem01, .oem02]

/-- `MFCI_POLICY_FIELD`: the name/value fields of a policy blob. -/
inductive MfciPolicyField where
  | target (field : TargetField)
  | targetNonce
  | uefiPolicy
  deriving DecidableEq, Repr

/-- The variables the driver reads and writes. -/
inductive MfciVariable where
  /-- `L"CurrentMfciPolicyBlob"`: OS-writable mailbox of the installed blob. -/
  | currentMfciPolicyBlob
  /-- `L"NextMfciPolicyBlob"`: OS-writable mailbox of a blob to install. -/
  | nextMfciPolicyBlob
  /-- `L"CurrentMfciPolicy"`: the policy PEI boots in. -/
  | currentMfciPolicy
  /-- `L"CurrentMfciPolicyNonce"`. -/
  | currentMfciPolicyNonce
  /-- `L"NextMfciPolicyNonce"`: the nonce a next blob must carry. -/
  | nextMfciPolicyNonce
  /-- `L"MfciVarLock"`, in `gMuVarPolicyWriteOnceStateVarGuid`. -/
  | mfciVarLock
  /-- `gPolicyTargetFieldVarNames`: `L"Target\\Manufacturer"` to `L"Target\\OEM_02"`. -/
  | target (field : TargetField)
  deriving DecidableEq, Repr

/-- The extraction functions of `MfciPolicyParsingLib` on a policy blob. -/
structure MfciPolicyParsingLib where
  /-- `ExtractChar16 (Blob, Size, gPolicyBlobFieldName[Field], &Value)`: the
  status and the string, without its `L'\0'`. -/
  extractChar16 : List UInt8 → MfciPolicyField → EfiStatus × List UInt16
  /-- `ExtractUint64 (Blob, Size, gPolicyBlobFieldName[Field], &Value)`. -/
  extractUint64 : List UInt8 → MfciPolicyField → EfiStatus × UInt64

/-! ### Calls -/

/-- The firmware services the driver calls. -/
inductive MfciCall where
  /-- `gRT->GetVariable (Name, &MFCI_VAR_VENDOR_GUID, &Attr, &DataSize, Data)`
  with `DataSize` on entry (`0` with a `NULL` buffer). -/
  | getVariable (name : MfciVariable) (dataSize : Nat)
  /-- `gRT->SetVariable (Name, Guid, Attributes, sizeof Data, Data)`. -/
  | setVariable (name : MfciVariable) (attributes : UInt32) (data : List UInt8)
  /-- `GetRandomNumber64 (&Rand)`. -/
  | getRandomNumber64
  /-- `gDeviceIdFnToTargetVarNameMap[i].DeviceIdFn (&String, &Size)`. -/
  | deviceIdFn (field : TargetField)
  /-- `AllocatePool (Size)`. -/
  | allocatePool (size : Nat)
  /-- `ValidateBlob (SignedPolicy, Size, PublicKeyData, Length, RequiredEKUs)`. -/
  | validateBlob (signedPolicy publicKeyData : List UInt8)
  /-- `NotifyMfciPolicyChange (NewPolicy)`: runs the registered callbacks. -/
  | notifyMfciPolicyChange (newPolicy : UInt64)
  /-- `ResetSystemWithSubtype (EfiResetCold, &gMfciPolicyChangeResetGuid)`. -/
  | resetSystemWithSubtype
  /-- `CpuDeadLoop ()`. -/
  | cpuDeadLoop
  deriving DecidableEq, Repr

/-- What each call answers. `GetRandomNumber64` answers the number or `none`
(`FALSE`); `AllocatePool` whether it returned a buffer; `CpuDeadLoop` never
answers. -/
abbrev MfciCall.Resp : MfciCall → Type
  | .getVariable .. => GetVariableResult
  | .setVariable .. => EfiStatus
  | .getRandomNumber64 => Option UInt64
  | .deviceIdFn _ => EfiStatus × List UInt8
  | .allocatePool _ => Bool
  | .validateBlob .. => EfiStatus
  | .notifyMfciPolicyChange _ => Unit
  | .resetSystemWithSubtype => Unit
  | .cpuDeadLoop => Empty

/-- The driver's programs. -/
abbrev MfciProg := Prog MfciCall MfciCall.Resp

/-- The events of a run. -/
abbrev MfciEvent := Event MfciCall MfciCall.Resp

def getVariable (name : MfciVariable) (dataSize : Nat) : MfciProg GetVariableResult :=
  Prog.lift (MfciCall.getVariable name dataSize)

def setVariable (name : MfciVariable) (attributes : UInt32) (data : List UInt8) :
    MfciProg EfiStatus :=
  Prog.lift (MfciCall.setVariable name attributes data)

def getRandomNumber64 : MfciProg (Option UInt64) :=
  Prog.lift MfciCall.getRandomNumber64

def deviceIdFn (field : TargetField) : MfciProg (EfiStatus × List UInt8) :=
  Prog.lift (MfciCall.deviceIdFn field)

def allocatePool (size : Nat) : MfciProg Bool :=
  Prog.lift (MfciCall.allocatePool size)

def validateBlob (signedPolicy publicKeyData : List UInt8) : MfciProg EfiStatus :=
  Prog.lift (MfciCall.validateBlob signedPolicy publicKeyData)

def notifyMfciPolicyChange (newPolicy : UInt64) : MfciProg Unit :=
  Prog.lift (MfciCall.notifyMfciPolicyChange newPolicy)

def resetSystemWithSubtype : MfciProg Unit :=
  Prog.lift MfciCall.resetSystemWithSubtype

/-- `CpuDeadLoop ()`: nothing after it runs. -/
def cpuDeadLoop {α : Type} : MfciProg α :=
  .call MfciCall.cpuDeadLoop fun e => (e : Empty).elim

/-- A `UINT64` read from the bytes `GetVariable` copied (little-endian). -/
def nonceOf (data : List UInt8) : UInt64 :=
  (leValue data).toUInt64

/-- The bytes of a `UINT64` passed to `SetVariable`. -/
def uint64Bytes (v : UInt64) : List UInt8 :=
  leBytes 8 v.toNat

@[simp] theorem length_uint64Bytes (v : UInt64) : (uint64Bytes v).length = 8 :=
  length_leBytes 8 _

@[simp] theorem nonceOf_uint64Bytes (v : UInt64) : nonceOf (uint64Bytes v) = v := by
  have hv : v.toNat < 256 ^ 8 := v.toNat_lt
  rw [nonceOf, uint64Bytes, leValue_leBytes, Nat.mod_eq_of_lt hv]
  exact UInt64.ofNat_toNat

/-- Eight bytes read as a nonce are written back as the same eight bytes. -/
theorem uint64Bytes_nonceOf {data : List UInt8} (h : data.length = 8) :
    uint64Bytes (nonceOf data) = data := by
  have hlt : leValue data < 2 ^ 64 := by simpa [h] using leValue_lt data
  rw [uint64Bytes, nonceOf, UInt64.toNat_ofNat', Nat.mod_eq_of_lt hlt, ← h, leBytes_leValue]

/-! ### Clean-up routines -/

/-- `CleanCurrentVariables`: set the current nonce invalid, delete the current
blob, set the current policy to `CUSTOMER_STATE`; the last failure is returned. -/
def cleanCurrentVariables : MfciProg EfiStatus := do
  let status ← setVariable .currentMfciPolicyNonce mfciPolicyVariableAttr
    (uint64Bytes mfciPolicyInvalidNonce)
  let returnStatus := if status ≠ .success then status else .success
  let status ← setVariable .currentMfciPolicyBlob mfciPolicyVariableAttr []
  let returnStatus := if status ≠ .notFound ∧ status ≠ .success then status else returnStatus
  let status ← setVariable .currentMfciPolicy mfciPolicyVariableAttr (uint64Bytes customerState)
  pure (if status ≠ .success then status else returnStatus)

/-- `CleanTargetVariables`: roll the next nonce (to `MFCI_POLICY_INVALID_NONCE`
when the generator fails) and delete the next blob. -/
def cleanTargetVariables : MfciProg EfiStatus := do
  let rngResult ← getRandomNumber64
  let (targetNonce, returnStatus) : UInt64 × EfiStatus :=
    match rngResult with
    | some targetNonce => (targetNonce, .success)
    | none => (mfciPolicyInvalidNonce, .deviceError)
  let status ← setVariable .nextMfciPolicyNonce mfciPolicyVariableAttr (uint64Bytes targetNonce)
  let returnStatus := if status ≠ .success then status else returnStatus
  let status ← setVariable .nextMfciPolicyBlob mfciPolicyVariableAttr []
  pure (if status ≠ .notFound ∧ status ≠ .success then status else returnStatus)

/-- `InternalCleanupCurrentPolicy`: back to the customer state; a device that
was not in it is reset. -/
def internalCleanupCurrentPolicy (mCurrentPolicy : UInt64) : MfciProg EfiStatus := do
  if mCurrentPolicy ≠ customerState then notifyMfciPolicyChange customerState
  let status ← cleanCurrentVariables
  if mCurrentPolicy ≠ customerState then
    resetSystemWithSubtype
    cpuDeadLoop
  pure status

/-- `InternalCleanupTargetPolicy`: drop the next blob and roll its nonce, then
as `InternalCleanupCurrentPolicy`; the status is that of `CleanCurrentVariables`. -/
def internalCleanupTargetPolicy (mCurrentPolicy : UInt64) : MfciProg EfiStatus := do
  if mCurrentPolicy ≠ customerState then notifyMfciPolicyChange customerState
  let _ ← cleanTargetVariables
  let status ← cleanCurrentVariables
  if mCurrentPolicy ≠ customerState then
    resetSystemWithSubtype
    cpuDeadLoop
  pure status

/-- `LockPolicyVariables`: create `MfciVarLock`. The `EFI_SECURITY_VIOLATION` the
routine first records when `mVarPolicyRegistered != TRUE` is overwritten on both
branches, so the result depends on the `SetVariable` alone. -/
def lockPolicyVariables : MfciProg EfiStatus := do
  let status ← setVariable .mfciVarLock writeOnceStateVarAttr [mfciLockVarValue]
  pure (if status.isError then .securityViolation else status)

/-- Steps b and c of `InternalTransitionRoutine`: copy the blob, the nonce and
the state to the current variables. `CUSTOMER_STATE` and the first failed write
are `goto Done`. -/
def internalTransitionCopy (targetPolicy targetNonce : UInt64) (targetBlob : List UInt8) :
    MfciProg Unit := do
  if targetPolicy = customerState then return
  let status ← setVariable .currentMfciPolicyBlob mfciPolicyVariableAttr targetBlob
  if status.isError then return
  let status ← setVariable .currentMfciPolicyNonce mfciPolicyVariableAttr (uint64Bytes targetNonce)
  if status.isError then return
  let _ ← setVariable .currentMfciPolicy mfciPolicyVariableAttr (uint64Bytes targetPolicy)

/-- `InternalTransitionRoutine (TargetPolicy, TargetNonce, TargetBlob)`: notify
the callbacks, copy to the current variables with the action bits cleared,
then (`Done:`) `CleanTargetVariables` and reset. -/
def internalTransitionRoutine (targetPolicy targetNonce : UInt64) (targetBlob : List UInt8) :
    MfciProg Unit := do
  notifyMfciPolicyChange targetPolicy
  internalTransitionCopy (targetPolicy &&& ~~~mfciPolicyValueActionsMask) targetNonce targetBlob
  let _ ← cleanTargetVariables
  resetSystemWithSubtype
  cpuDeadLoop

/-! ### Signature check -/

/-- A big-endian `UINT32` (`SwapBytes32` of a little-endian read). -/
def beValue32 (bs : List UInt8) : Nat :=
  bs.foldl (fun acc b => acc * 256 + b.toNat) 0

/-- `ALIGN_VALUE (Value, 4)`. -/
def alignValue4 (v : Nat) : Nat :=
  (v + 3) / 4 * 4

/-- The certificate loop of `ValidateBlobWithXdrCertificates`, from offset
`publicKeyDataCurrent` of the XDR buffer (each entry a big-endian length and the
key, padded to 4 bytes). It stops at the first key the blob validates against,
at a malformed entry (`EFI_ABORTED`), or after the last key with the last status.
The buffer is taken 4-byte aligned, so `ALIGN_POINTER` aligns the offset. Each
pass moves at least 4 bytes on, so the buffer's size is enough fuel. -/
def validateBlobWithXdrCertificatesLoop (signedPolicy certificates : List UInt8) :
    Nat → Nat → MfciProg EfiStatus
  | 0, _ => pure .aborted
  | fuel + 1, publicKeyDataCurrent =>
      if certificates.length < publicKeyDataCurrent + 4 then pure .aborted
      else
        let publicKeyDataLength := beValue32 ((certificates.drop publicKeyDataCurrent).take 4)
        let publicKeyData := publicKeyDataCurrent + 4
        if certificates.length < publicKeyData + alignValue4 publicKeyDataLength then pure .aborted
        else do
          let status ← validateBlob signedPolicy
            ((certificates.drop publicKeyData).take publicKeyDataLength)
          if !status.isError then pure status
          else
            let publicKeyDataCurrent := alignValue4 (publicKeyData + publicKeyDataLength)
            if publicKeyDataCurrent < certificates.length then
              validateBlobWithXdrCertificatesLoop signedPolicy certificates fuel publicKeyDataCurrent
            else pure status

/-- `ValidateBlobWithXdrCertificates (SignedPolicy, Size, Certificates, Size)`. -/
def validateBlobWithXdrCertificates (signedPolicy certificates : List UInt8) :
    MfciProg EfiStatus :=
  if signedPolicy = [] then pure .aborted
  else if certificates.length < 4 then pure .aborted
  else validateBlobWithXdrCertificatesLoop signedPolicy certificates certificates.length 0

/-! ### Targeting -/

/-- The `CHAR16`s of the bytes `GetVariable` copied. -/
def char16s : List UInt8 → List UInt16
  | b₀ :: b₁ :: bs => (b₀.toUInt16 ||| b₁.toUInt16 <<< 8) :: char16s bs
  | _ => []

/-- `StrSize`: the bytes of a string up to and including its `L'\0'`. -/
def strSize (s : List UInt16) : Nat :=
  2 * ((s.takeWhile (· ≠ 0)).length + 1)

/-- `StrnCmp (FirstString, SecondString, Length)`, a missing tail read as `L'\0'`. -/
def strnCmp : List UInt16 → List UInt16 → Nat → Int
  | _, _, 0 => 0
  | firstString, secondString, length + 1 =>
      let f := firstString.headD 0
      let s := secondString.headD 0
      if f ≠ 0 ∧ s ≠ 0 ∧ f = s ∧ 0 < length then
        strnCmp firstString.tail secondString.tail length
      else (f.toNat : Int) - s.toNat

/-- `GetOemField`: `GetVariable` of a targeting variable into the
`MFCI_POLICY_FIELD_MAX_LEN`-character buffer (its `DataSize` is not `0`, so the
`EFI_BAD_BUFFER_SIZE` branch is not taken). -/
def getOemField (field : TargetField) : MfciProg GetVariableResult :=
  getVariable (.target field) (mfciPolicyFieldMaxLen * 2)

/-- `VerifyStringFieldHelper (Blob, Size, Field)`: the blob's string for the
field must equal the OEM variable, which must be a whole number of `CHAR16`s,
end in `L'\0'` and hold no other `L'\0'`. (A `DataSize` of `0` would index the
buffer at `-1` in C; no variable has that size.) -/
def verifyStringFieldHelper (lib : MfciPolicyParsingLib) (policyBlob : List UInt8)
    (targetField : TargetField) : MfciProg EfiStatus := do
  if policyBlob = [] then return .invalidParameter
  let (status, mfciPolData) := lib.extractChar16 policyBlob (.target targetField)
  if status.isError then return status
  let r ← getOemField targetField
  if r.status.isError then return r.status
  if r.dataSize % 2 ≠ 0 then return .compromisedData
  let thisMfciPolData := char16s r.data
  if thisMfciPolData.getD (r.dataSize / 2 - 1) 0 ≠ 0 then return .compromisedData
  if strSize thisMfciPolData ≠ r.dataSize then return .compromisedData
  if strnCmp thisMfciPolData mfciPolData mfciPolicyFieldMaxLen ≠ 0 then
    return .securityViolation
  return r.status

/-- Steps 1 to 5 of `VerifyTargeting`: the string fields in order, stopping at
the first failure. -/
def verifyStringFields (lib : MfciPolicyParsingLib) (policyBlob : List UInt8) :
    List TargetField → MfciProg EfiStatus
  | [] => pure .success
  | field :: fields => do
      let status ← verifyStringFieldHelper lib policyBlob field
      if status.isError then pure status else verifyStringFields lib policyBlob fields

/-- `VerifyTargeting (Blob, Size, ExpectedNonce, &ExtractedPolicy)`: the status
and the policy extracted (`0` where the routine leaves `*ExtractedPolicy`
unwritten; no caller reads it then). -/
def verifyTargeting (lib : MfciPolicyParsingLib) (policyBlob : List UInt8)
    (expectedNonce : UInt64) : MfciProg (EfiStatus × UInt64) := do
  let status ← verifyStringFields lib policyBlob targetFields
  if status.isError then return (status, 0)
  let (status, blobNonce) := lib.extractUint64 policyBlob .targetNonce
  if status.isError then return (status, 0)
  if blobNonce ≠ expectedNonce then return (.securityViolation, 0)
  return lib.extractUint64 policyBlob .uefiPolicy

/-! ### `VerifyPolicyAndChange` -/

/-- `CheckTargetVarsExist`: every targeting variable answers a size query with
`EFI_BUFFER_TOO_SMALL`. -/
def checkTargetVarsExist : List TargetField → MfciProg Bool
  | [] => pure true
  | field :: fields => do
      let r ← getVariable (.target field) 0
      if r.status ≠ .bufferTooSmall then pure false else checkTargetVarsExist fields

/-- `PopulateTargetVarsFromLib`: write each targeting variable from its
device-id function, stopping at the first failure. -/
def populateTargetVarsFromLib : List TargetField → MfciProg EfiStatus
  | [] => pure .success
  | field :: fields => do
      let (status, targetString) ← deviceIdFn field
      if status.isError then return status
      let status ← setVariable (.target field) mfciPolicyTargetingVariableAttr targetString
      if status.isError then return status
      populateTargetVarsFromLib fields

/-- Step 1: the next nonce, refreshed from the generator when the stored one is
missing, of the wrong size or attributes, or invalid. -/
def readTargetNonce : ExceptT EfiStatus MfciProg UInt64 := do
  let r ← getVariable .nextMfciPolicyNonce 8
  if r.status.isError ∨ r.dataSize ≠ 8 ∨ r.attributes ≠ mfciPolicyVariableAttr ∨
      nonceOf r.data = mfciPolicyInvalidNonce then
    let rngResult ← getRandomNumber64
    let targetNonce := rngResult.getD mfciPolicyInvalidNonce
    let status ← setVariable .nextMfciPolicyNonce mfciPolicyVariableAttr (uint64Bytes targetNonce)
    if status.isError then throw status
    return targetNonce
  return nonceOf r.data

/-- `Status = InternalCleanupCurrentPolicy ()`, then `goto Exit` on an error and
`goto VerifyTarget` otherwise. -/
def cleanupCurrentPolicyThenVerifyTarget (mCurrentPolicy : UInt64) :
    ExceptT EfiStatus MfciProg Unit := do
  let status ← internalCleanupCurrentPolicy mCurrentPolicy
  if status.isError then throw status

/-- Step 2: re-authenticate the current blob. Returning is `goto VerifyTarget`. -/
def verifyCurrentPolicy (lib : MfciPolicyParsingLib) (certificates : List UInt8)
    (mCurrentPolicy : UInt64) : ExceptT EfiStatus MfciProg Unit := do
  -- Step 2.1: the current blob, by a size query and a read
  let r ← getVariable .currentMfciPolicyBlob 0
  if r.status = .notFound then
    cleanupCurrentPolicyThenVerifyTarget mCurrentPolicy
  else if r.status ≠ .bufferTooSmall ∨ r.attributes ≠ mfciPolicyVariableAttr then
    throw .deviceError
  else
    if !(← allocatePool r.dataSize) then throw .outOfResources
    let r ← getVariable .currentMfciPolicyBlob r.dataSize
    if r.status.isError then
      cleanupCurrentPolicyThenVerifyTarget mCurrentPolicy
    else
      let currentBlob := r.data
      -- Step 2.2: the current nonce; `goto Exit` leaves `Status` as the read set it
      let n ← getVariable .currentMfciPolicyNonce 8
      if n.status.isError ∨ n.dataSize ≠ 8 ∨ n.attributes ≠ mfciPolicyVariableAttr then
        throw n.status
      -- Step 2.3
      let status ← validateBlobWithXdrCertificates currentBlob certificates
      if status.isError then
        cleanupCurrentPolicyThenVerifyTarget mCurrentPolicy
      else
        -- Step 2.4: the blob's state bits must be the policy the platform booted in
        let (status, blobPolicy) ← verifyTargeting lib currentBlob (nonceOf n.data)
        let blobPolicy := blobPolicy &&& ~~~mfciPolicyValueActionsMask
        if status.isError ∨ blobPolicy ≠ mCurrentPolicy then
          cleanupCurrentPolicyThenVerifyTarget mCurrentPolicy

/-- Step 3: authenticate the next blob against the Step 1 nonce. Returning is
reaching Step 4 with `BlobPolicy` and the blob. -/
def verifyTargetPolicy (lib : MfciPolicyParsingLib) (certificates : List UInt8)
    (mCurrentPolicy targetNonce : UInt64) : ExceptT EfiStatus MfciProg (UInt64 × List UInt8) := do
  -- Step 3.1: the next blob, by a size query and a read
  let r ← getVariable .nextMfciPolicyBlob 0
  if r.status = .notFound then throw .success
  if r.status ≠ .bufferTooSmall ∨ r.attributes ≠ mfciPolicyVariableAttr then throw .deviceError
  if !(← allocatePool r.dataSize) then throw .outOfResources
  let r ← getVariable .nextMfciPolicyBlob r.dataSize
  if r.status.isError then throw (← internalCleanupTargetPolicy mCurrentPolicy)
  let targetBlob := r.data
  -- Step 3.3
  let status ← validateBlobWithXdrCertificates targetBlob certificates
  if status.isError then throw (← internalCleanupTargetPolicy mCurrentPolicy)
  -- Step 3.4
  let (status, blobPolicy) ← verifyTargeting lib targetBlob targetNonce
  if status.isError then throw (← internalCleanupTargetPolicy mCurrentPolicy)
  return (blobPolicy, targetBlob)

/-- `VerifyPolicyAndChange` up to Step 4 or `Exit:`: the targeting variables,
then Steps 1 to 3. It returns the arguments of `InternalTransitionRoutine`
(`BlobPolicy`, `TargetNonce`, `TargetBlob`). -/
def verifyPolicyAndChangeSteps (lib : MfciPolicyParsingLib) (certificates : List UInt8)
    (mCurrentPolicy : UInt64) : ExceptT EfiStatus MfciProg (UInt64 × UInt64 × List UInt8) := do
  if !(← checkTargetVarsExist targetFields) then
    let status ← populateTargetVarsFromLib targetFields
    if status.isError then throw .aborted
  let targetNonce ← readTargetNonce
  verifyCurrentPolicy lib certificates mCurrentPolicy
  let (blobPolicy, targetBlob) ← verifyTargetPolicy lib certificates mCurrentPolicy targetNonce
  return (blobPolicy, targetNonce, targetBlob)

/-- `Exit:` with `Status`: lock the policy variables, and fall back to the
customer state when `Status` or the lock failed. -/
def verifyPolicyAndChangeExit (mCurrentPolicy : UInt64) (status : EfiStatus) : MfciProg Unit := do
  let status2 ← lockPolicyVariables
  if status.isError ∨ status2.isError then
    let _ ← internalCleanupCurrentPolicy mCurrentPolicy

/-- `VerifyPolicyAndChange`. `InternalTransitionRoutine` ends in `CpuDeadLoop`,
so the `ASSERT (FALSE)` and `Exit:` after it are not reached. -/
def verifyPolicyAndChange (lib : MfciPolicyParsingLib) (certificates : List UInt8)
    (mCurrentPolicy : UInt64) : MfciProg Unit := do
  match ← (verifyPolicyAndChangeSteps lib certificates mCurrentPolicy).run with
  | .ok (blobPolicy, targetNonce, targetBlob) =>
      internalTransitionRoutine blobPolicy targetNonce targetBlob
  | .error status => verifyPolicyAndChangeExit mCurrentPolicy status

/-! ### The firmware against a variable store -/

/-- The answers a boot's firmware gives against the variable store: a read
answers from the store, a write goes through or fails with the store unchanged,
and the other services answer anything and leave the store alone. -/
def MfciCall.Answers (store : VariableStore MfciVariable) :
    (c : MfciCall) → c.Resp → VariableStore MfciVariable → Prop
  | .getVariable name dataSize, r, store' => r = store.getVariable name dataSize ∧ store' = store
  | .setVariable name attributes data, status, store' =>
      store.SetVariableAnswer name attributes data status store'
  | _, _, store' => store' = store

end MuPlus.Mfci
