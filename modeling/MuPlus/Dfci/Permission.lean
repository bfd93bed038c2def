import MuPlus.Lib.KeyedList
import MuPlus.Uefi.Status

/-!
# MuPlus.Dfci.Permission

**The DFCI permission store and `ApplyPermissionsInXml`**
(`DfciPkg/Library/DfciSettingPermissionLib`).

The in-memory store `mPermStore` holds a list of permission entries, one per setting
id, each with the identities allowed to write the setting (`PMask`) and the identities
allowed to change that permission (`DMask`, the delegated mask), and the default masks
for settings with no entry. `FindPermissionEntry` returns the first entry for an id.

`ApplyPermissionsInXml` applies an authenticated permission packet signed by one
identity. Unless the packet's permission list has `Append="True"`, it first marks for
deletion the entries whose highest delegated user identity is the signer
(`MarkPermissionEntriesForDeletion`). It takes the packet's `Version` and
`LowestSupportedVersion`, takes the list's `Default`/`Delegated` masks if the signer is
in the default delegated mask, and then walks the `<Permission>` elements: an existing
entry is rewritten (and un-marked) if the signer is in its delegated mask, a missing one
is added if the signer is in the default delegated mask, and any other element is
answered `EFI_ACCESS_DENIED` without failing the packet. Last, the marked entries are
deleted (`DeleteMarkedPermissionEntries`). Every failure is a `goto EXIT`, after which
the caller reloads the store from flash.

The XML tree is taken as parsed: each element or attribute the routine reads is given by
its value as `AsciiStrDecimalToUintn` (or, for `Append`, the string) returns it, and
`none` stands for a missing one. The identity is what `GetIdentityProperties` returns for
the packet's auth token; the V1 setting-id translation of `DfciV1SupportLib` is a
parameter. Setting ids are strings of ASCII characters, so a string's length is its
size in bytes.
-/

namespace MuPlus.Dfci

/-! ### Identities and masks (`DfciSystemSettingTypes.h`) -/

/-- `DFCI_IDENTITY_SIGNER_USER2`. -/
def dfciIdentitySignerUser2 : UInt8 := 0x10

/-- `DFCI_IDENTITY_SIGNER_USER1`. -/
def dfciIdentitySignerUser1 : UInt8 := 0x20

/-- `DFCI_IDENTITY_SIGNER_USER`. -/
def dfciIdentitySignerUser : UInt8 := 0x40

/-- `DFCI_IDENTITY_SIGNER_OWNER`. -/
def dfciIdentitySignerOwner : UInt8 := 0x80

/-- `DFCI_IDENTITY_NOT_SPECIFIED`: the `DMask` `GetInputPermission` returns when a
`<Permission>` element has none. -/
def dfciIdentityNotSpecified : UInt8 := 0xFE

/-- `DFCI_PERMISSION_MASK__ALL`: local, ZTD, user, user1, user2 and owner. -/
def dfciPermissionMaskAll : UInt8 := 0xF9

/-- `DFCI_PERMISSION_MASK__USERS`: the signer identities user, user1, user2 and owner. -/
def dfciPermissionMaskUsers : UInt8 := 0xF0

/-- The identities `DFCI_IDENTITY_ID` names by a single bit: local, unsigned local,
reserved, ZTD, user2, user1, user and owner. -/
def dfciIdentityBits : List UInt8 := [0x01, 0x02, 0x04, 0x08, 0x10, 0x20, 0x40, 0x80]

/-- `HIGHEST_IDENTITY (mask)`, `1 << HighBitSet32 (mask & DFCI_PERMISSION_MASK__USERS)`:
the highest signer identity of a mask. `HighBitSet32` is the index of the highest set
bit; the routine is used only on masks with a signer identity. -/
def highestIdentity (mask : UInt8) : UInt8 :=
  1 <<< (Nat.log2 (mask &&& dfciPermissionMaskUsers).toNat).toUInt8

/-! ### The permission store -/

/-- `DFCI_MAX_ID_SIZE`: the largest setting-id size, terminator included. -/
def dfciMaxIdSize : Nat := 97

/-- `AsciiStrnSizeS (String, MaxSize)`: the size of the string with its terminator, or
`MaxSize + 1` when there is no terminator within `MaxSize` characters. -/
def asciiStrnSizeS (s : String) (maxSize : Nat) : Nat :=
  if s.length < maxSize then s.length + 1 else maxSize + 1

/-- The size check `AddPermissionEntry` and `FindPermissionEntry` make on an id. -/
def IdSizeValid (id : String) : Prop :=
  1 ≤ asciiStrnSizeS id dfciMaxIdSize ∧ asciiStrnSizeS id dfciMaxIdSize ≤ dfciMaxIdSize

instance (id : String) : Decidable (IdSizeValid id) := inferInstanceAs (Decidable (_ ∧ _))

/-- `(Id[0] >= '0') && (Id[0] <= '9')`: an id left as a V1 number. -/
def isNumericId (id : String) : Bool :=
  match id.toList with
  | c :: _ => '0' ≤ c && c ≤ '9'
  | [] => false

/-- `DFCI_PERMISSION_ENTRY`. `IdSize` is the size of `Id`. -/
structure PermissionEntry where
  id : String
  pMask : UInt8
  dMask : UInt8
  markedForDeletion : Bool
  deriving DecidableEq, Repr

/-- What the apply loop writes through the pointer `FindPermissionEntry` returned: the
new `PMask`, the `DMask` unless it is `DFCI_IDENTITY_NOT_SPECIFIED`, and the mark
cleared. -/
def PermissionEntry.rewrite (pMask dMask : UInt8) (e : PermissionEntry) : PermissionEntry :=
  { e with
    pMask := pMask
    dMask := if dMask ≠ dfciIdentityNotSpecified then dMask else e.dMask
    markedForDeletion := false }

/-- `DFCI_PERMISSION_STORE`; the entries are `PermissionsListHead`, in list order. -/
structure PermissionStore where
  modified : Bool
  version : UInt32
  lsv : UInt32
  defaultPMask : UInt8
  defaultDMask : UInt8
  permissionsList : List PermissionEntry
  deriving DecidableEq, Repr

namespace PermissionStore

/-- `AddPermissionEntry`: appends an entry for `id` at the tail, without looking for an
existing one. A numeric id is ignored with `EFI_SUCCESS`. -/
def addPermissionEntry (store : PermissionStore) (id : String) (pMask dMask : UInt8) :
    EfiStatus × PermissionStore :=
  if isNumericId id then (.success, store)
  else if ¬IdSizeValid id then (.invalidParameter, store)
  else (.success, { store with permissionsList := store.permissionsList ++ [⟨id, pMask, dMask, false⟩] })

/-- The condition on which `MarkPermissionEntriesForDeletion` marks an entry: its
delegated mask has a signer identity, and its highest one is in `identity`. -/
def MarksEntry (identity dMask : UInt8) : Prop :=
  dMask &&& dfciPermissionMaskUsers ≠ 0 ∧ identity &&& highestIdentity dMask ≠ 0

instance (identity dMask : UInt8) : Decidable (MarksEntry identity dMask) :=
  inferInstanceAs (Decidable (_ ∧ _))

/-- `MarkPermissionEntriesForDeletion (Store, Id)`. -/
def markPermissionEntriesForDeletion (store : PermissionStore) (identity : UInt8) : PermissionStore :=
  { store with
    permissionsList := store.permissionsList.map fun e =>
      if MarksEntry identity e.dMask then { e with markedForDeletion := true } else e }

/-- `DeleteMarkedPermissionEntries`. -/
def deleteMarkedPermissionEntries (store : PermissionStore) : PermissionStore :=
  { store with permissionsList := store.permissionsList.filter (!·.markedForDeletion) }

/-- `FindPermissionEntry`: the first entry for `id`; none for an id of bad size. -/
def findPermissionEntry (store : PermissionStore) (id : String) : Option PermissionEntry :=
  if IdSizeValid id then store.permissionsList.find? (·.id = id) else none

/-- Rewrites the first entry for `id`, the one `FindPermissionEntry` returns. -/
def rewritePermissionEntry (store : PermissionStore) (id : String) (pMask dMask : UInt8) :
    PermissionStore :=
  { store with
    permissionsList :=
      KeyedList.replaceKey PermissionEntry.id id (PermissionEntry.rewrite pMask dMask) store.permissionsList }

/-- `QueryPermission`: the write mask of a setting, its entry's or the default. -/
def queryPermission (store : PermissionStore) (id : String) : UInt8 :=
  match store.findPermissionEntry id with
  | some e => e.pMask
  | none => store.defaultPMask

end PermissionStore

/-! ### The permission packet -/

/-- `DFCI_PACKET_STATE`, the states `ApplyPermissionsInXml` leaves a packet in. -/
inductive DfciPacketState where
  | dataApplied
  | versionError
  | badXml
  | dataInvalid
  | dataSystemError
  deriving DecidableEq, Repr

/-- A child of the `<Permissions>` element: the values of its `<Id>`, `<PMask>` and
`<DMask>` children. -/
structure PermissionNode where
  id : Option String
  pMask : Option Nat
  dMask : Option Nat
  deriving DecidableEq, Repr

/-- The `<Permissions>` element: its `Append`, `Default` and `Delegated` attributes and
its children. -/
structure PermissionsListNode where
  append : Option String
  default : Option Nat
  delegated : Option Nat
  permissions : List PermissionNode
  deriving DecidableEq, Repr

/-- The `<PermissionsPacket>` element: its `<Version>`, `<LowestSupportedVersion>` and
`<Permissions>` children. -/
structure PermissionsPacketNode where
  version : Option Nat
  lsv : Option Nat
  permissionsList : Option PermissionsListNode
  deriving DecidableEq, Repr

/-- What `GetInputPermission` returns for one `<Permission>` element. -/
structure InputPermission where
  id : String
  pMask : UInt8
  dMask : UInt8
  deriving DecidableEq, Repr

/-- `ConvertAsciiDecimalToPermissionMask`: a mask value above
`DFCI_PERMISSION_MASK__ALL` is `EFI_INVALID_PARAMETER`. -/
def convertAsciiDecimalToPermissionMask (t : Nat) : Except EfiStatus UInt8 :=
  if dfciPermissionMaskAll.toNat < t then .error .invalidParameter else .ok t.toUInt8

/-- `PermissionListEntriesAppend`: whether the list's `Append` attribute is `True`;
`EFI_NOT_FOUND` when it has none. -/
def permissionListEntriesAppend (list : PermissionsListNode) : Except EfiStatus Bool :=
  match list.append with
  | none => .error .notFound
  | some value => .ok (value == "True")

/-- `GetPermissionsListDefaultPMask (List, &PMask, &DMask)`: the `Default` mask, and the
`Delegated` mask if there is one (else `dMask` is left as it was); `EFI_NOT_FOUND` when
there is no `Default` attribute. -/
def getPermissionsListDefaultPMask (list : PermissionsListNode) (dMask : UInt8) :
    Except EfiStatus (UInt8 × UInt8) := do
  let some default := list.default | throw .notFound
  let pMask ← convertAsciiDecimalToPermissionMask default
  match list.delegated with
  | none => return (pMask, dMask)
  | some delegated => return (pMask, ← convertAsciiDecimalToPermissionMask delegated)

section Translate

-- `DfciV1TranslateString`: the setting id a V1 numeric id stands for, if the platform
-- knows one.
variable (dfciV1TranslateString : String → Option String)

/-- The setting id `GetInputPermission` reads from a `<Permission>` element: a numeric
id is translated when `DfciV1TranslateString` knows it. -/
def inputPermissionId (node : PermissionNode) : Option String :=
  node.id.map fun raw => if isNumericId raw then (dfciV1TranslateString raw).getD raw else raw

/-- `GetInputPermission`: the id, the `PMask`, and the `DMask` or
`DFCI_IDENTITY_NOT_SPECIFIED`. -/
def getInputPermission (node : PermissionNode) : Except EfiStatus InputPermission := do
  let some id := inputPermissionId dfciV1TranslateString node | throw .notFound
  let some pMask := node.pMask | throw .notFound
  let pMask ← convertAsciiDecimalToPermissionMask pMask
  match node.dMask with
  | none => return ⟨id, pMask, dfciIdentityNotSpecified⟩
  | some dMask => return ⟨id, pMask, ← convertAsciiDecimalToPermissionMask dMask⟩

/-- How `ApplyPermissionsInXml` leaves through `EXIT` on an error: the packet state and
the status. -/
abbrev ApplyError := DfciPacketState × EfiStatus

/-- One turn of the `<Permission>` loop of `ApplyPermissionsInXml`: the store after it
and the status `SetOutputPermissionStatus` reports for the id. -/
def applyPermissionEntry (identity : UInt8) (node : PermissionNode) (store : PermissionStore) :
    Except ApplyError (PermissionStore × (String × EfiStatus)) := do
  let input ← match getInputPermission dfciV1TranslateString node with
    | .ok input => pure input
    | .error _ => throw (.badXml, .noMapping)
  match store.findPermissionEntry input.id with
  | some entry =>
      if identity &&& entry.dMask ≠ 0 then
        return (store.rewritePermissionEntry input.id input.pMask input.dMask, (input.id, .success))
      else return (store, (input.id, .accessDenied))
  | none =>
      if identity &&& store.defaultDMask ≠ 0 then
        -- a new entry's delegated mask defaults to the signer
        let dMask := if input.dMask = dfciIdentityNotSpecified then identity else input.dMask
        let (status, store) := store.addPermissionEntry input.id input.pMask dMask
        if status.isError then throw (.dataSystemError, .aborted)
        return (store, (input.id, status))
      else return (store, (input.id, .accessDenied))

/-- The `<Permission>` loop of `ApplyPermissionsInXml`, over the children in order. -/
def applyPermissionEntries (identity : UInt8) :
    List PermissionNode → PermissionStore → Except ApplyError (PermissionStore × List (String × EfiStatus))
  | [], store => return (store, [])
  | node :: nodes, store => do
      let (store, result) ← applyPermissionEntry dfciV1TranslateString identity node store
      let (store, results) ← applyPermissionEntries identity nodes store
      return (store, result :: results)

/-- The default masks of the store after the `Default`/`Delegated` step: the list's if
it has a `Default` and the signer is in the default delegated mask. -/
def applyDefaultPermission (identity : UInt8) (list : PermissionsListNode) (store : PermissionStore) :
    Except ApplyError PermissionStore :=
  match getPermissionsListDefaultPMask list store.defaultDMask with
  | .error .notFound => return store
  | .error _ => throw (.badXml, .noMapping)
  | .ok (pMask, dMask) =>
      return if identity &&& store.defaultDMask ≠ 0 then
        { store with defaultPMask := pMask, defaultDMask := dMask } else store

/-- `ApplyPermissionsInXml` from the parsed payload on: the new store and the result
list, or the state and status of the `goto EXIT`. -/
def applyPermissionsInXml (identity : UInt8) (v1Mode : Bool) (payload : Option PermissionsPacketNode)
    (store : PermissionStore) : Except ApplyError (PermissionStore × List (String × EfiStatus)) := do
  let some packet := payload | throw (.badXml, .noMapping)
  let some version := packet.version | throw (.badXml, .noMapping)
  if 0xFFFFFFFF < version then throw (.badXml, .noMapping)
  if version < store.lsv.toNat then throw (.versionError, .accessDenied)
  let some lsv := packet.lsv | throw (.badXml, .noMapping)
  if 0xFFFFFFFF < lsv then throw (.badXml, .noMapping)
  if version < lsv then throw (.dataInvalid, .noMapping)
  let newLsv := max store.lsv.toNat lsv
  let some list := packet.permissionsList | throw (.badXml, .noMapping)
  let appendToExistingPermission ← match permissionListEntriesAppend list with
    | .ok append => pure append
    | .error _ => throw (.badXml, .noMapping)
  if appendToExistingPermission && v1Mode then throw (.badXml, .noMapping)
  let store := if appendToExistingPermission then store else store.markPermissionEntriesForDeletion identity
  -- the version and LSV are taken before any permission is checked
  let store := { store with lsv := newLsv.toUInt32, version := version.toUInt32 }
  let store ← applyDefaultPermission identity list store
  let (store, results) ← applyPermissionEntries dfciV1TranslateString identity list.permissions store
  return (store.deleteMarkedPermissionEntries, results)

end Translate

end MuPlus.Dfci
