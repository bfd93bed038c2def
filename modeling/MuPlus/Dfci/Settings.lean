import MuPlus.Dfci.Identity

/-!
# MuPlus.Dfci.Settings

**The settings manager and its settings packets** (`DfciPkg/SettingsManager`).

A settings packet names settings by id, each with the text of its new value.
`ApplyNewSettingsPacket` (SettingsManagerTransportXml.c) loads the manager's version record,
the `_SMID` variable (`SMID_LoadFromFlash`, or a fresh record from `SMID_InitInternalData`
when it does not load), authenticates the packet (`CheckAuthAndGetToken`: an unsigned
packet goes to `AuthWithPW` as `DFCI_IDENTITY_UNSIGNED_LOCAL`, a signed one to
`AuthWithSignedData`), and runs `ApplySettings`. That routine checks the packet's `Version`
against the record's `LSV`, takes the packet's `Version` and, if larger, its
`LowestSupportedVersion` into the record, and then sets each named setting with
`SetSettingFromAscii`, whose status goes to the result only. `UpdateSettingsResult` writes
the record back (`SMID_SaveToFlash`) when the packet succeeded.

`SetSettingFromAscii` (SettingsManagerProvider.c) sets a provider, or each member of a
group; the text is converted to the provider's type by `SetProviderValueFromAscii`, and the
write itself is `InternalSystemSettingAccessSet` (SettingsManager.c), which asks
`HasWritePermissions` (DfciSettingPermission.c) before it calls the provider's
`SetSettingValue`. `ProcessMailBoxes` (DfciManager.c) applies the Settings mailbox and then
the Settings2 mailbox, each on its own.

The XML tree is taken as parsed, as for the permission packet. The platform's V1 id
translation, `Base64Decode` and each provider's `SetSettingValue` are parameters
(`SettingsPlatform`); what the other managers hold at a boot (the groups, `mPermStore`, the
enrolled certificates and the admin password) is the boot's `SettingsEnv`. Setting values
are strings of ASCII characters.
-/

namespace MuPlus.Dfci

open PermissionStore

/-! ### Providers, groups and the platform -/

/-- `DFCI_SETTING_TYPE`. -/
inductive DfciSettingType where
  | enable
  | secureBootKeyEnum
  | password
  | usbPortEnum
  | string
  | binary
  | cert
  deriving DecidableEq, Repr

/-- A registered provider (`DFCI_SETTING_PROVIDER`): its id, its type, and the value it
holds. -/
structure DfciSettingProvider where
  id : String
  type : DfciSettingType
  value : List UInt8
  deriving DecidableEq, Repr

/-- A group of settings (`DFCI_GROUP_LIST_ENTRY`): its id and its members' ids. -/
structure DfciGroup where
  groupId : String
  members : List String
  deriving DecidableEq, Repr

/-- The platform's parts of the settings path: `DfciV1TranslateString`; `Base64Decode`, the
decoded bytes or none for text that is not Base64; and each provider's `SetSettingValue`,
the value the provider holds after it or its error. -/
structure SettingsPlatform where
  dfciV1TranslateString : String → Option String
  base64Decode : String → Option (List UInt8)
  setSettingValue : DfciSettingProvider → List UInt8 → Except EfiStatus (List UInt8)

/-- What the settings path reads from the other DFCI managers at a boot: the groups,
`mPermStore`, the enrolled certificates, and the admin password (none when
`PasswordStoreIsPasswordSet` is false). -/
structure SettingsEnv where
  groups : List DfciGroup
  permStore : PermissionStore
  certs : CertStore
  adminPassword : Option String
  deriving DecidableEq, Repr

/-- `FindGroup`: the first group with the id. -/
def findGroup (groups : List DfciGroup) (id : String) : Option DfciGroup :=
  groups.find? (·.groupId = id)

/-- The provider list after the provider with id `id` came to hold `value`. -/
def setProviderValue (providers : List DfciSettingProvider) (id : String) (value : List UInt8) :
    List DfciSettingProvider :=
  KeyedList.replaceKey DfciSettingProvider.id id (fun p => { p with value := value }) providers

/-! ### `HasWritePermissions` -/

/-- Step 2 of `HasWritePermissions`: the groups of the setting, in the order
`FindGroupIdBySetting` returns them, that have a permission entry. The first of them that
does not grant `identity` denies the write; if all grant it, it is allowed; none when no
group of the setting has an entry. -/
def groupWritePermission (store : PermissionStore) (identity : UInt8) : List String → Option Bool
  | [] => none
  | groupId :: rest =>
      match store.findPermissionEntry groupId with
      | none => groupWritePermission store identity rest
      | some e =>
          if e.pMask &&& identity = 0 then some false
          else
            match groupWritePermission store identity rest with
            | some false => some false
            | _ => some true

/-- `HasWritePermissions`: the group permissions of the setting override its own; without
them, the setting's entry's `PMask`, or the default one, must hold the identity. -/
def hasWritePermissions (groups : List DfciGroup) (store : PermissionStore) (settingId : String)
    (identity : UInt8) : Bool :=
  match groupWritePermission store identity
      ((groups.filter fun g => g.members.contains settingId).map (·.groupId)) with
  | some result => result
  | none => store.queryPermission settingId &&& identity != 0

/-! ### Identities of unsigned packets (`AuthManager.c`) -/

/-- `DFCI_IDENTITY_UNSIGNED_LOCAL`. -/
def dfciIdentityUnsignedLocal : UInt8 := 0x02

/-- The password argument of `AuthWithPW`: `NULL`, `DFCI_AUTH_WITH_NO_PASSWORD_UNSIGNED`, or
a password. -/
inductive AuthPassword where
  | null
  | noPasswordUnsigned
  | password (value : String)
  deriving DecidableEq, Repr

/-- `AuthWithPW`: with no admin password set, the call without a password is the local
identity (the unsigned local one for `DFCI_AUTH_WITH_NO_PASSWORD_UNSIGNED`); with one set, the
password must match it (`PasswordStoreAuthenticatePassword`). -/
def authWithPW (adminPassword : Option String) (password : AuthPassword) : Except EfiStatus UInt8 :=
  let id := if password = .noPasswordUnsigned then dfciIdentityUnsignedLocal else dfciIdentityLocal
  let given : Option String := match password with
    | .password value => some value
    | _ => none
  match adminPassword with
  | none => if given.isNone then .ok id else .error .securityViolation
  | some admin =>
      match given with
      | some value => if !value.isEmpty && value = admin then .ok id else .error .securityViolation
      | none => .error .securityViolation

/-- `CheckAuthAndGetToken` (SettingsManagerDxe.c): a packet without a signature authenticates
through `AuthWithPW` with `DFCI_AUTH_WITH_NO_PASSWORD_UNSIGNED`. -/
def checkAuthAndGetToken (env : SettingsEnv) (signature : Option Cert) : Except EfiStatus UInt8 :=
  match signature with
  | none => authWithPW env.adminPassword .noPasswordUnsigned
  | some signer => authWithSignedData env.certs signer

/-! ### Converting a setting's text (`SetProviderValueFromAscii`) -/

/-- `DfciUsbPortEnabled`. -/
def dfciUsbPortEnabled : UInt8 := 0x00

/-- `DfciUsbPortHwDisabled`. -/
def dfciUsbPortHwDisabled : UInt8 := 0xF0

/-- `DfciUsbPortDataDisabled`. -/
def dfciUsbPortDataDisabled : UInt8 := 0xF1

/-- `DfciUsbPortAuthenticated`. -/
def dfciUsbPortAuthenticated : UInt8 := 0xF2

/-- The value of a hexadecimal digit. -/
def hexDigitValue (c : Char) : Option UInt8 :=
  if '0' ≤ c && c ≤ '9' then some (c.toNat - '0'.toNat).toUInt8
  else if 'a' ≤ c && c ≤ 'f' then some (c.toNat - 'a'.toNat + 10).toUInt8
  else if 'A' ≤ c && c ≤ 'F' then some (c.toNat - 'A'.toNat + 10).toUInt8
  else none

/-- `AsciiStrHexToBytes`: each pair of hexadecimal digits is one byte. -/
def asciiStrHexToBytes : List Char → Option (List UInt8)
  | [] => some []
  | [_] => none
  | hi :: lo :: rest => do
      let hi ← hexDigitValue hi
      let lo ← hexDigitValue lo
      let rest ← asciiStrHexToBytes rest
      return (hi * 16 + lo) :: rest

section Platform

variable (platform : SettingsPlatform)

/-- The bytes `SetProviderValueFromAscii` hands to the provider for a setting's text. -/
def providerValueFromAscii (type : DfciSettingType) (value : String) : Except EfiStatus (List UInt8) :=
  match type with
  | .enable =>
      if value = "Enabled" then .ok [1]
      else if value = "Disabled" then .ok [0]
      else .error .invalidParameter
  | .secureBootKeyEnum =>
      if value = "MsOnly" then .ok [0]
      else if value = "MsPlus3rdParty" then .ok [1]
      else if value = "None" then .ok [2]
      else .error .invalidParameter
  | .password =>
      -- hexadecimal bytes followed by the two characters "eb", in either case
      let chars := value.toList
      if chars.length < 4 ∨ chars.length % 2 = 1 then .error .invalidParameter
      else if (chars.drop (chars.length - 2)).map Char.toLower ≠ ['e', 'b'] then .error .invalidParameter
      else
        match asciiStrHexToBytes (chars.take (chars.length - 2)) with
        | some bytes => .ok bytes
        | none => .error .invalidParameter
  | .usbPortEnum =>
      if value = "UsbPortEnabled" then .ok [dfciUsbPortEnabled]
      else if value = "UsbPortHwDisabled" then .ok [dfciUsbPortHwDisabled]
      else if value = "UsbPortDataDisabled" then .ok [dfciUsbPortDataDisabled]
      else if value = "UsbPortAuthenticated" then .ok [dfciUsbPortAuthenticated]
      else .error .invalidParameter
  | .string =>
      -- the string with its terminating NUL
      if maxAllowableDfciApplyVarSize < value.length then .error .invalidParameter
      else .ok (value.toList.map (·.toNat.toUInt8) ++ [0])
  | .binary | .cert =>
      -- the first `Base64Decode`, with no buffer, must ask for one
      match platform.base64Decode value with
      | some (b :: bytes) => .ok (b :: bytes)
      | _ => .error .invalidParameter

/-- `FindProviderById`: an id that starts with a digit is a V1 id, translated first. -/
def findProviderById (providers : List DfciSettingProvider) (id : String) :
    Option DfciSettingProvider :=
  let realId := if isNumericId id then platform.dfciV1TranslateString id else some id
  realId.bind fun realId => providers.find? (·.id = realId)

/-! ### The write (`InternalSystemSettingAccessSet`) -/

variable (env : SettingsEnv) (identity : UInt8) (type : DfciSettingType) (value : List UInt8)

/-- `InternalSystemSettingAccessSet` once `FindProviderById` found `prov` for `id`: the write
needs `HasWritePermissions` for `id`, the caller's type must be the provider's, and the
provider's `SetSettingValue` does the rest. -/
def systemSettingAccessSetProvider (prov : DfciSettingProvider) (id : String)
    (providers : List DfciSettingProvider) : EfiStatus × List DfciSettingProvider :=
  if !hasWritePermissions env.groups env.permStore id identity then (.accessDenied, providers)
  else if type ≠ prov.type then (.invalidParameter, providers)
  else
    match platform.setSettingValue prov value with
    | .error status => (status, providers)
    | .ok held => (.success, setProviderValue providers prov.id held)

/-- `InternalSystemSettingAccessSet` as its own group loop calls it, with the static
`SetRecurse` set: a member that is no provider is `EFI_UNSUPPORTED`. -/
def internalSystemSettingAccessSetRecurse (id : String) (providers : List DfciSettingProvider) :
    EfiStatus × List DfciSettingProvider :=
  match findProviderById platform providers id with
  | some prov => systemSettingAccessSetProvider platform env identity type value prov id providers
  | none => (.unsupported, providers)

/-- The group loop of `InternalSystemSettingAccessSet`: each member is set, and the last
error is returned. -/
def internalSystemSettingAccessSetMembers :
    List String → EfiStatus → List DfciSettingProvider → EfiStatus × List DfciSettingProvider
  | [], returnStatus, providers => (returnStatus, providers)
  | member :: rest, returnStatus, providers =>
      match internalSystemSettingAccessSetRecurse platform env identity type value member providers with
      | (status, providers) =>
          internalSystemSettingAccessSetMembers rest (if status.isError then status else returnStatus)
            providers

/-- `InternalSystemSettingAccessSet`, entered with `SetRecurse` clear: an id that is no
provider but a group sets the group's members. -/
def internalSystemSettingAccessSet (id : String) (providers : List DfciSettingProvider) :
    EfiStatus × List DfciSettingProvider :=
  match findProviderById platform providers id with
  | some prov => systemSettingAccessSetProvider platform env identity type value prov id providers
  | none =>
      match findGroup env.groups id with
      | none => (.notFound, providers)
      | some group =>
          internalSystemSettingAccessSetMembers platform env identity type value group.members .success
            providers

end Platform

/-! ### Setting from text (`SetSettingFromAscii`) -/

section Ascii

variable (platform : SettingsPlatform) (env : SettingsEnv) (identity : UInt8)

/-- `SetProviderValueFromAscii`: the text converted to the provider's type, written through
`InternalSystemSettingAccessSet` under the provider's id. -/
def setProviderValueFromAscii (prov : DfciSettingProvider) (value : String)
    (providers : List DfciSettingProvider) : EfiStatus × List DfciSettingProvider :=
  match providerValueFromAscii platform prov.type value with
  | .error status => (status, providers)
  | .ok bytes => internalSystemSettingAccessSet platform env identity prov.type bytes prov.id providers

/-- `SetIndividualSettings`: an empty `<Value/>` is the empty text for a string or
certificate provider and `EFI_UNSUPPORTED` for the others. -/
def setIndividualSettings (prov : DfciSettingProvider) (value : Option String)
    (providers : List DfciSettingProvider) : EfiStatus × List DfciSettingProvider :=
  match value with
  | some value => setProviderValueFromAscii platform env identity prov value providers
  | none =>
      if prov.type = .string ∨ prov.type = .cert then
        setProviderValueFromAscii platform env identity prov "" providers
      else (.unsupported, providers)

/-- The group loop of `SetSettingFromAscii`: each member is set and the last error is
returned, but a member that is no provider ends the loop with `EFI_NOT_FOUND`. -/
def setSettingFromAsciiMembers (value : Option String) :
    List String → EfiStatus → List DfciSettingProvider → EfiStatus × List DfciSettingProvider
  | [], returnStatus, providers => (returnStatus, providers)
  | member :: rest, returnStatus, providers =>
      match findProviderById platform providers member with
      | none => (.notFound, providers)
      | some prov =>
          match setIndividualSettings platform env identity prov value providers with
          | (status, providers) =>
              setSettingFromAsciiMembers value rest (if status.isError then status else returnStatus)
                providers

/-- `SetSettingFromAscii`: the id names a provider or a group. -/
def setSettingFromAscii (id value : Option String) (providers : List DfciSettingProvider) :
    EfiStatus × List DfciSettingProvider :=
  match id with
  | none => (.unsupported, providers)
  | some id =>
      match findProviderById platform providers id with
      | some prov => setIndividualSettings platform env identity prov value providers
      | none =>
          match findGroup env.groups id with
          | none => (.notFound, providers)
          | some group => setSettingFromAsciiMembers platform env identity value group.members .success providers

end Ascii

/-! ### The settings packet (`ApplySettings`) -/

/-- A `<Setting>` element: its `<Id>` and `<Value>` children, none when missing, each with
its value, none when the element is empty. -/
structure SettingNode where
  id : Option (Option String)
  value : Option (Option String)
  deriving DecidableEq, Repr

/-- The `<SettingsPacket>` element: its `<Version>`, `<LowestSupportedVersion>` and
`<Settings>` children. -/
structure SettingsPacketNode where
  version : Option Nat
  lsv : Option Nat
  settings : Option (List SettingNode)
  deriving DecidableEq, Repr

/-- `GetInputSettings`: the values of the `<Id>` and `<Value>` children. -/
def getInputSettings (node : SettingNode) : Except EfiStatus (Option String × Option String) := do
  let some id := node.id | throw .notFound
  let some value := node.value | throw .notFound
  return (id, value)

/-- `DFCI_SETTING_INTERNAL_DATA`: the version record of the settings manager. -/
structure SettingInternalData where
  currentVersion : UInt32
  lsv : UInt32
  modified : Bool
  deriving DecidableEq, Repr

/-- The checks of `ApplySettings` before its loop, and the record it leaves: the packet's
`Version`, and its `LowestSupportedVersion` if that is larger than the record's. Returns
the record and the `<Setting>` elements. -/
def applySettingsVersion (node : SettingsPacketNode) (data : SettingInternalData) :
    Except ApplyError (SettingInternalData × List SettingNode) := do
  let some version := node.version | throw (.badXml, .noMapping)
  if 0xFFFFFFFF < version then throw (.badXml, .noMapping)
  if version < data.lsv.toNat then throw (.versionError, .accessDenied)
  let some lsv := node.lsv | throw (.badXml, .noMapping)
  if 0xFFFFFFFF < lsv then throw (.badXml, .noMapping)
  if version < lsv then throw (.dataInvalid, .noMapping)
  -- the record is changed before any setting's permission is checked
  let data := if data.currentVersion.toNat ≠ version then
      { data with currentVersion := version.toUInt32, modified := true } else data
  let data := if data.lsv.toNat < lsv then { data with lsv := lsv.toUInt32, modified := true } else data
  let some settings := node.settings | throw (.badXml, .noMapping)
  return (data, settings)

section Apply

variable (platform : SettingsPlatform) (env : SettingsEnv) (identity : UInt8)

/-- The settings loop of `ApplySettings`. The status of `SetSettingFromAscii` goes to the
result only; a `<Setting>` without `<Id>` or `<Value>` fails the packet, with the settings
before it set. -/
def applySettingsList :
    List SettingNode → List DfciSettingProvider → List DfciSettingProvider × Except ApplyError Unit
  | [], providers => (providers, .ok ())
  | node :: rest, providers =>
      match getInputSettings node with
      | .error _ => (providers, .error (.badXml, .noMapping))
      | .ok (id, value) =>
          applySettingsList rest (setSettingFromAscii platform env identity id value providers).2

/-- `ApplySettings`: the providers after it, and the version record when the packet
succeeded. A payload that is not a settings packet is `DFCI_PACKET_STATE_BAD_XML`. -/
def applySettings (payload : Option SettingsPacketNode) (data : SettingInternalData)
    (providers : List DfciSettingProvider) :
    List DfciSettingProvider × Except ApplyError SettingInternalData :=
  match payload with
  | none => (providers, .error (.badXml, .noMapping))
  | some node =>
      match applySettingsVersion node data with
      | .error e => (providers, .error e)
      | .ok (data, settings) =>
          match applySettingsList platform env identity settings providers with
          | (providers, result) => (providers, result.map fun _ => data)

end Apply

/-! ### The `_SMID` variable (SettingsManagerProvisionedData.c) -/

/-- `SIGNATURE_32 ('S', 'M', 'I', 'D')`. -/
def smidHeaderSignature : UInt32 := 0x44494D53

/-- `MIN_VAR_SIZE`: the signature and the header version. -/
def smidMinVarSize : Nat := 5

/-- `sizeof (DFCI_INTERNAL_DATA_VAR)`: the packed header, the two versions and two
`EFI_TIME`s. -/
def smidVarSize : Nat := 45

/-- `DFCI_INTERNAL_VAR_ATTRIBUTES`: non-volatile, boot-service access. -/
def dfciInternalVarAttributes : UInt32 := 0x3

/-- The `_SMID` variable as `GetVariable3` returns it: its size and attributes, and the
header and version fields of its data. -/
structure InternalDataVar where
  size : Nat
  attributes : UInt32
  headerSignature : UInt32
  headerVersion : UInt8
  version : UInt32
  lowestSupportedVersion : UInt32
  deriving DecidableEq, Repr

/-- `SMID_LoadFromFlash`. -/
def smidLoadFromFlash (var : Option InternalDataVar) : Except EfiStatus SettingInternalData := do
  let some var := var | throw .notFound
  if var.size < smidMinVarSize then throw .notFound
  if var.attributes ≠ dfciInternalVarAttributes then throw .notFound
  if var.headerSignature ≠ smidHeaderSignature then throw .compromisedData
  -- `SMID_TransitionInternalVariableData` knows no other header version
  if var.headerVersion ≠ 1 then throw .unsupported
  if var.size ≠ smidVarSize then throw .compromisedData
  if var.version < var.lowestSupportedVersion then throw .compromisedData
  return ⟨var.version, var.lowestSupportedVersion, false⟩

/-- `SMID_InitInternalData`. -/
def smidInitInternalData : SettingInternalData :=
  ⟨0, 0, true⟩

/-- The record `ApplyNewSettingsPacket` works on: `_SMID`, or a fresh one when it does not
load. -/
def smidLoadOrInit (var : Option InternalDataVar) : SettingInternalData :=
  match smidLoadFromFlash var with
  | .ok data => data
  | .error _ => smidInitInternalData

/-- `SMID_SaveToFlash`: an unmodified record is not written; `writeStatus` is the status of
`SetVariable`. -/
def smidSaveToFlash (writeStatus : EfiStatus) (data : SettingInternalData) (var : Option InternalDataVar) :
    EfiStatus × Option InternalDataVar :=
  if !data.modified then (.success, var)
  else if writeStatus.isError then (writeStatus, var)
  else (.success, some ⟨smidVarSize, dfciInternalVarAttributes, smidHeaderSignature, 1, data.currentVersion, data.lsv⟩)

/-! ### Packets and boots -/

/-- A settings mailbox's packet as `ApplyNewSettingsPacket` sees it: whether the decode and
`ValidateSettingsPacket` accept its layout, the certificate whose key made its signature
(none for an unsigned packet), and its parsed payload. -/
structure SettingsPacket where
  layoutValid : Bool
  signature : Option Cert
  payload : Option SettingsPacketNode
  deriving DecidableEq, Repr

/-- What the settings manager keeps across boots: the `_SMID` variable and the providers. -/
structure SettingsState where
  smid : Option InternalDataVar
  providers : List DfciSettingProvider
  deriving DecidableEq, Repr

section Boot

variable (platform : SettingsPlatform)

/-- `ApplyNewSettingsPacket`, with `UpdateSettingsResult`: `_SMID` is written when the packet
succeeded, and `writeStatus` is the status of that write. A packet that fails keeps the
settings it set before it failed. -/
def applyNewSettingsPacket (env : SettingsEnv) (writeStatus : EfiStatus) (packet : SettingsPacket)
    (s : SettingsState) : SettingsState :=
  if !packet.layoutValid then s
  else
    match checkAuthAndGetToken env packet.signature with
    | .error _ => s
    | .ok identity =>
        match applySettings platform env identity packet.payload (smidLoadOrInit s.smid) s.providers with
        | (providers, .error _) => { s with providers := providers }
        | (providers, .ok data) => ⟨(smidSaveToFlash writeStatus data s.smid).2, providers⟩

/-- `ProcessPacket` for a settings mailbox. -/
def processSettingsPacket (env : SettingsEnv) (writeStatus : EfiStatus) (packet : Option SettingsPacket)
    (s : SettingsState) : SettingsState :=
  match packet with
  | none => s
  | some packet => applyNewSettingsPacket platform env writeStatus packet s

/-- What one boot brings to the settings manager: what the other managers hold, the two
settings mailboxes, and the status of each packet's write of `_SMID`. -/
structure SettingsBoot where
  env : SettingsEnv
  settings : Option SettingsPacket
  settings2 : Option SettingsPacket
  writeStatus : EfiStatus
  writeStatus2 : EfiStatus

/-- The settings part of `ProcessMailBoxes`: the Settings mailbox, then Settings2. -/
def settingsBoot (b : SettingsBoot) (s : SettingsState) : SettingsState :=
  processSettingsPacket platform b.env b.writeStatus2 b.settings2
    (processSettingsPacket platform b.env b.writeStatus b.settings s)

/-- The settings manager after a sequence of boots. -/
def settingsBootSequence (boots : List SettingsBoot) (s : SettingsState) : SettingsState :=
  boots.foldl (fun s b => settingsBoot platform b s) s

end Boot

/-- The `LSV` a settings packet is checked against: the committed one, or 0 when `_SMID`
does not load. -/
def committedLsv (var : Option InternalDataVar) : UInt32 :=
  (smidLoadOrInit var).lsv

end MuPlus.Dfci
