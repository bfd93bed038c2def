import Mathlib

/-!
# MuPlus.Uefi.Status

**`EFI_STATUS`** (`MdePkg/Include/Uefi/UefiBaseType.h`), as an enumeration of the
codes the modelled routines return. `EFI_ERROR (Status)` is true of every code
but `EFI_SUCCESS`: no modelled routine returns a warning code.
-/

namespace MuPlus

/-- The `EFI_STATUS` codes returned by the modelled routines. -/
inductive EfiStatus where
  | success
  | loadError
  | invalidParameter
  | unsupported
  | badBufferSize
  | bufferTooSmall
  | notReady
  | deviceError
  | writeProtected
  | outOfResources
  | noMedia
  | notFound
  | accessDenied
  | noMapping
  | notStarted
  | alreadyStarted
  | aborted
  | securityViolation
  | endOfFile
  | compromisedData
  | mediaChanged
  | crcError
  deriving DecidableEq, Repr

/-- `EFI_ERROR (Status)`. -/
def EfiStatus.isError : EfiStatus → Bool
  | .success => false
  | _ => true

@[simp] theorem EfiStatus.isError_success : EfiStatus.success.isError = false := rfl

@[simp] theorem EfiStatus.isError_eq_false {s : EfiStatus} : s.isError = false ↔ s = .success := by
  cases s <;> simp [EfiStatus.isError]

/-- The `EFI_STATUS` value of a code: an error is its number with the top bit set. -/
def EfiStatus.toUInt64 : EfiStatus → UInt64
  | .success => 0
  | .loadError => 0x8000000000000001
  | .invalidParameter => 0x8000000000000002
  | .unsupported => 0x8000000000000003
  | .badBufferSize => 0x8000000000000004
  | .bufferTooSmall => 0x8000000000000005
  | .notReady => 0x8000000000000006
  | .deviceError => 0x8000000000000007
  | .writeProtected => 0x8000000000000008
  | .outOfResources => 0x8000000000000009
  | .noMedia => 0x800000000000000C
  | .mediaChanged => 0x800000000000000D
  | .notFound => 0x800000000000000E
  | .accessDenied => 0x800000000000000F
  | .noMapping => 0x8000000000000011
  | .notStarted => 0x8000000000000013
  | .alreadyStarted => 0x8000000000000014
  | .aborted => 0x8000000000000015
  | .securityViolation => 0x800000000000001A
  | .crcError => 0x800000000000001B
  | .endOfFile => 0x800000000000001F
  | .compromisedData => 0x8000000000000021

/-- `EFI_ERROR` of a status value: its top bit, the sign of the `INTN`. -/
def efiError (status : UInt64) : Bool :=
  status.toBitVec.msb

@[simp] theorem efiError_toUInt64 (s : EfiStatus) : efiError s.toUInt64 = s.isError := by
  cases s <;> decide

/-- Or-ing status values, as `Status |= ...` does, keeps every error. -/
@[simp] theorem efiError_or (a b : UInt64) : efiError (a ||| b) = (efiError a || efiError b) := by
  simp [efiError, UInt64.toBitVec_or, BitVec.msb_or]

@[simp] theorem efiError_zero : efiError 0 = false := by
  decide

end MuPlus
