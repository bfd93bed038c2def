import MuPlus.Dfci.PermissionSpec
import MuPlus.Dfci.Settings

/-!
# MuPlus.Dfci.PermissionBoot

**The committed permission store across boots.** At each boot `mPermStore` is loaded from
the `_SPP` variable (`LoadFromFlash`, DfciSettingPermissionProvisioned.c).
`ProcessMailBoxes` (DfciManager.c) processes the mailboxes in the order Identity,
Permissions, Identity2, Permissions2, stopping at the first error, and then completes each
permission mailbox that held a packet with one Last-Known-Good operation of `LKG_Handler`:
`DFCI_LKG_COMMIT` when nothing failed, which writes the store to the variable
(`SaveToFlash`), and `DFCI_LKG_RESTORE` otherwise, which reloads it. After the settings
mailboxes, which do not touch the store, the unenroll packets are processed, Identity2 first
(`ProcessUnEnrollPacket`). An identity packet that needs the user returns
`EFI_MEDIA_CHANGED`; the run then exits early and runs again at EndOfDxe.

The identity mailboxes are seen through the status their `ProcessPacket` returns, the
entries `IdentityChange` edits, and what their unenroll packet does to the store. Only the
owner's unenroll touches it: `ClearDFCI` calls `ResetPermissionsToDefault`, which, when the
packet's identity may unenroll, replaces the store by the default one (`InitPermStore`) and
writes it.

* `PermissionState.Inv` — the variable's Lsv is at most the in-memory store's, and each
  store's Lsv is at most its Version; every step of a boot but the owner's reset keeps it.
* `boot_lsv_le`, `bootSequence_lsv_le` — no boot without the owner's reset lowers the
  committed Lsv; `resetPermissionsToDefault_lsv` — the reset commits Version and Lsv 0.
* `boot_below_lsv` — a boot whose packets are below the committed Lsv leaves the variable as
  it was, whoever signed them.
* `boot_lockoutPacket` — a packet of any authenticated signer, whatever its delegated
  authority, that asks for Version and Lsv `0xFFFFFFFF` commits that Lsv.
-/

namespace MuPlus.Dfci

open PermissionStore ExceptOk

/-- A permission mailbox's packet as `ApplyNewPermissionsPacket` sees it: the identity
whose certificate `AuthWithSignedData` matched the signature, or the status with which the
decode, `ValidatePermissionsPacket` or `ValidateAndAuthenticatePermissions` failed; whether
it is a V1 packet; and its parsed payload. -/
structure PermissionPacket where
  auth : Except EfiStatus UInt8
  v1Mode : Bool
  payload : Option PermissionsPacketNode
  deriving DecidableEq, Repr

/-- The `DFCI_INTERNAL_PACKET` of a permission mailbox: `Data->Packet`, whether
`Data->State` is still `DFCI_PACKET_STATE_DATA_PRESENT`, and `Data->LKGDirty`. -/
structure PermissionMailbox where
  packet : Option PermissionPacket
  present : Bool
  lkgDirty : Bool
  deriving DecidableEq, Repr

/-- The mailbox as the decode leaves it when the boot starts. -/
def PermissionMailbox.init (packet : Option PermissionPacket) : PermissionMailbox :=
  ⟨packet, packet.isSome, false⟩

/-- `MGR_PERMISSIONS` and `MGR_PERMISSIONS2`. -/
inductive PermissionMgr where
  | permissions
  | permissions2
  deriving DecidableEq, Repr

/-- The permission library's state during a boot: the `_SPP` variable (as a store, read
by `LoadFromFlash`), `mPermStore`, and the two permission mailboxes. -/
structure PermissionState where
  flash : PermissionStore
  store : PermissionStore
  permissions : PermissionMailbox
  permissions2 : PermissionMailbox
  deriving DecidableEq, Repr

namespace PermissionState

def mailbox (s : PermissionState) : PermissionMgr → PermissionMailbox
  | .permissions => s.permissions
  | .permissions2 => s.permissions2

def setMailbox (s : PermissionState) : PermissionMgr → PermissionMailbox → PermissionState
  | .permissions, m => { s with permissions := m }
  | .permissions2, m => { s with permissions2 := m }

@[simp] theorem flash_setMailbox (s : PermissionState) (mgr : PermissionMgr) (m : PermissionMailbox) :
    (s.setMailbox mgr m).flash = s.flash := by
  cases mgr <;> rfl

@[simp] theorem store_setMailbox (s : PermissionState) (mgr : PermissionMgr) (m : PermissionMailbox) :
    (s.setMailbox mgr m).store = s.store := by
  cases mgr <;> rfl

theorem mailbox_setMailbox (s : PermissionState) (mgr : PermissionMgr) (m : PermissionMailbox)
    (mgr' : PermissionMgr) :
    (s.setMailbox mgr m).mailbox mgr' = if mgr' = mgr then m else s.mailbox mgr' := by
  cases mgr <;> cases mgr' <;> rfl

end PermissionState

/-- `LoadFromFlash (&mPermStore)`: the store the variable holds, not modified. -/
def loadFromFlash (flash : PermissionStore) : PermissionStore :=
  { flash with modified := false }

/-- `SaveToFlash (mPermStore)`: the status, the variable and the store after it. Nothing
is written for a store that is not modified, nor for one whose variable would be the
stored one but for its dates. Otherwise `writeStatus` is the status of the size check, the
allocation and `SetVariable`; a written store is no longer modified. -/
def saveToFlash (writeStatus : EfiStatus) (flash store : PermissionStore) :
    EfiStatus × PermissionStore × PermissionStore :=
  if !store.modified then (.success, flash, store)
  else if loadFromFlash store = loadFromFlash flash then (.success, flash, store)
  else if writeStatus.isError then (writeStatus, flash, store)
  else (.success, loadFromFlash store, loadFromFlash store)

/-- `LKG_Handler` for one permission mailbox: nothing unless `Data->LKGDirty`; a commit
saves the store, and reloads it when the save fails; a restore reloads it. -/
def lkgHandler (commit : Bool) (writeStatus : EfiStatus) (mgr : PermissionMgr)
    (s : PermissionState) : PermissionState :=
  let mailbox := s.mailbox mgr
  if !mailbox.lkgDirty then s
  else
    let s := s.setMailbox mgr { mailbox with lkgDirty := false }
    if commit then
      match saveToFlash writeStatus s.flash s.store with
      | (status, flash, store) =>
          if status.isError then { s with store := loadFromFlash s.flash }
          else { s with flash := flash, store := store }
    else { s with store := loadFromFlash s.flash }

/-- `CompletePacket` for a permission mailbox: nothing for an empty one; otherwise
`LKG_Handler` with `DFCI_LKG_RESTORE` after an error, `DFCI_LKG_COMMIT` otherwise. -/
def completePacket (mgr : PermissionMgr) (applyStatus writeStatus : EfiStatus)
    (s : PermissionState) : PermissionState :=
  match (s.mailbox mgr).packet with
  | none => s
  | some _ => lkgHandler (!applyStatus.isError) writeStatus mgr s

/-! ### The owner unenroll's reset (`ResetPermissionsToDefault`, `InitPermStore`) -/

/-- `DFCI_PERMISSION_MASK__NONE`. -/
def dfciPermissionMaskNone : UInt8 := 0

/-- `DFCI_PERMISSION_MASK__DEFAULT`: the local user. -/
def dfciPermissionMaskDefault : UInt8 := dfciIdentityLocal

/-- `DFCI_PERMISSION_MASK__DEFAULT_UNSIGNED`: the local user, with or without a signature. -/
def dfciPermissionMaskDefaultUnsigned : UInt8 := dfciIdentityLocal ||| dfciIdentityUnsignedLocal

/-- `DFCI_PERMISSION_MASK__DELEGATED_DEFAULT`: the owner. -/
def dfciPermissionMaskDelegatedDefault : UInt8 := dfciIdentitySignerOwner

/-- `AddRequiredPermissionEntry`: an entry for `id` is added, or the one `FindPermissionEntry`
returns gets the masks. A failed add is ignored. -/
def PermissionStore.addRequiredPermissionEntry (store : PermissionStore) (id : String) (pMask dMask : UInt8) :
    PermissionStore :=
  match store.findPermissionEntry id with
  | none => (store.addPermissionEntry id pMask dMask).2
  | some _ =>
      { store with
        permissionsList := KeyedList.replaceKey PermissionEntry.id id
          (fun e => { e with pMask := pMask, dMask := dMask }) store.permissionsList }

/-- `HasUnenrollPermission`: the identity may write the owner key, or else
`Dfci.Recovery.Enable`, or else `Dfci.Ztd.Recovery.Enable`. -/
def hasUnenrollPermission (groups : List DfciGroup) (store : PermissionStore) (identity : UInt8) : Bool :=
  hasWritePermissions groups store dfciPrivateSettingIdOwnerKey identity ||
    hasWritePermissions groups store dfciPrivateSettingIdDfciRecovery identity ||
    hasWritePermissions groups store dfciPrivateSettingIdZtdRecovery identity

/-- What the owner unenroll's `ResetPermissionsToDefault` reads: the identity of the packet's
auth token, the platform's groups, `PcdUnsignedListFormatAllow`, the `<Permissions>` list of
the platform's unsigned-permission file (none when there is no file or it does not parse),
and the status of `SaveToFlash`'s write. -/
structure PermissionReset where
  identity : UInt8
  groups : List DfciGroup
  pcdUnsignedListFormatAllow : Bool
  unsignedPermissions : Option PermissionsListNode
  writeStatus : EfiStatus

section Process

variable (dfciV1TranslateString : String → Option String)

/-- The loop of `ModifyUnsignedPermissionEntries (Store, TRUE)`: each `<Permission>` of the
platform's list is added with `AddPermissionEntry`; a bad element or a failed add ends it. -/
def addUnsignedEntries : List PermissionNode → PermissionStore → PermissionStore
  | [], store => store
  | node :: nodes, store =>
      match getInputPermission dfciV1TranslateString node with
      | .error _ => store
      | .ok input =>
          match store.addPermissionEntry input.id input.pMask input.dMask with
          | (status, store) => if status.isError then store else addUnsignedEntries nodes store

/-- `AddUnsignedPermissionEntries`: without `PcdUnsignedListFormatAllow` the default write
mask becomes `DFCI_PERMISSION_MASK__DEFAULT_UNSIGNED`; then the list's entries are added. -/
def addUnsignedPermissionEntries (pcdUnsignedListFormatAllow : Bool)
    (unsignedPermissions : Option PermissionsListNode) (store : PermissionStore) : PermissionStore :=
  match unsignedPermissions with
  | none => store
  | some list =>
      let store := if pcdUnsignedListFormatAllow then store
        else { store with defaultPMask := dfciPermissionMaskDefaultUnsigned }
      addUnsignedEntries dfciV1TranslateString list.permissions store

/-- `AddRequiredPermissions`: the owner key, the ZTD key, ZTD unenroll and ZTD recovery, then
the unsigned entries. -/
def addRequiredPermissions (pcdUnsignedListFormatAllow : Bool)
    (unsignedPermissions : Option PermissionsListNode) (store : PermissionStore) : PermissionStore :=
  let store := store.addRequiredPermissionEntry dfciPrivateSettingIdOwnerKey
    (dfciIdentityLocal ||| dfciIdentitySignerZtd) dfciIdentitySignerOwner
  let store := store.addRequiredPermissionEntry dfciPrivateSettingIdZtdKey dfciIdentityLocal
    dfciPermissionMaskNone
  let store := store.addRequiredPermissionEntry dfciPrivateSettingIdZtdUnenroll dfciIdentityInvalid
    dfciPermissionMaskNone
  let store := store.addRequiredPermissionEntry dfciPrivateSettingIdZtdRecovery dfciIdentityInvalid
    dfciPermissionMaskNone
  addUnsignedPermissionEntries dfciV1TranslateString pcdUnsignedListFormatAllow unsignedPermissions store

/-- `InitPermStore`: a modified store at Version and Lsv 0 with the default masks and the
required entries. The allocation is taken to succeed. -/
def initPermStore (pcdUnsignedListFormatAllow : Bool) (unsignedPermissions : Option PermissionsListNode) :
    PermissionStore :=
  addRequiredPermissions dfciV1TranslateString pcdUnsignedListFormatAllow unsignedPermissions
    ⟨true, 0, 0, dfciPermissionMaskDefault, dfciPermissionMaskDelegatedDefault, []⟩

/-- `ResetPermissionsToDefault (AuthToken)`: refused unless the token's identity may
unenroll; otherwise `mPermStore` becomes the default store and `SaveToFlash` writes it. -/
def resetPermissionsToDefault (reset : PermissionReset) (s : PermissionState) : EfiStatus × PermissionState :=
  if !hasUnenrollPermission reset.groups s.store reset.identity then (.accessDenied, s)
  else
    match saveToFlash reset.writeStatus s.flash
        (initPermStore dfciV1TranslateString reset.pcdUnsignedListFormatAllow reset.unsignedPermissions) with
    | (status, flash, store) => (status, { s with flash := flash, store := store })

/-- What `ProcessUnEnrollPacket` does for an identity mailbox, as the permission store sees
it: nothing (no unenroll packet, a refused one, or one that is not the owner's), a delay to
EndOfDxe (`EFI_MEDIA_CHANGED`), or the owner's unenroll, whose `ClearDFCI` resets the
permissions. -/
inductive UnenrollRun where
  | skipped
  | delayed
  | ownerReset (reset : PermissionReset)

/-- Whether the run resets the permissions. -/
def UnenrollRun.resets : UnenrollRun → Bool
  | .ownerReset _ => true
  | _ => false

/-- `ProcessUnEnrollPacket` on the permission state: whether it returned `EFI_MEDIA_CHANGED`,
and the state after it. -/
def PermissionState.processUnEnrollPacket (run : UnenrollRun) (s : PermissionState) :
    Bool × PermissionState :=
  match run with
  | .skipped => (false, s)
  | .delayed => (true, s)
  | .ownerReset reset => (false, (resetPermissionsToDefault dfciV1TranslateString reset s).2)

/-- `ApplyNewPermissionsPacket`: a packet no longer `DATA_PRESENT` is not applied again.
A successful apply marks the store modified and the mailbox dirty; a failed
`ApplyPermissionsInXml` has reloaded the store from the variable. -/
def applyNewPermissionsPacket (packet : PermissionPacket) (mgr : PermissionMgr)
    (s : PermissionState) : EfiStatus × PermissionState :=
  let mailbox := s.mailbox mgr
  if !mailbox.present then (.aborted, s)
  else
    match packet.auth with
    | .error status => (status, s.setMailbox mgr { mailbox with present := false })
    | .ok identity =>
        match applyPermissionsInXml dfciV1TranslateString identity packet.v1Mode packet.payload s.store with
        | .ok (store, _) =>
            (.success, { s.setMailbox mgr { mailbox with present := false, lkgDirty := true } with
              store := { store with modified := true } })
        | .error (_, status) =>
            (status, { s.setMailbox mgr { mailbox with present := false } with
              store := loadFromFlash s.flash })

/-- `ProcessPacket` on a permission mailbox. -/
def processPermissionPacket (mgr : PermissionMgr) (s : PermissionState) : EfiStatus × PermissionState :=
  match (s.mailbox mgr).packet with
  | none => (.success, s)
  | some packet => applyNewPermissionsPacket dfciV1TranslateString packet mgr s

/-- What an identity mailbox does in one run of `ProcessMailBoxes`, as the permission store
sees it: the status `ProcessPacket` returns (`EFI_MEDIA_CHANGED` for a packet delayed to
EndOfDxe), the entries `IdentityChange` added or removed, and what `ProcessUnEnrollPacket`
does. -/
structure IdentityRun where
  status : EfiStatus
  change : List PermissionEntry → List PermissionEntry
  unenroll : UnenrollRun

/-- The identity mailbox's edit of the in-memory entries. -/
def identityChange (run : IdentityRun) (s : PermissionState) : PermissionState :=
  { s with store := { s.store with permissionsList := run.change s.store.permissionsList } }

/-- `ProcessMailBoxes` up to `COMPLETE_AS_FAILED`: the status that chooses the LKG
operation, or `none` for `EARLY_EXIT`. -/
def processPackets (identity identity2 : IdentityRun) (s : PermissionState) :
    Option EfiStatus × PermissionState :=
  let s := identityChange identity s
  if identity.status = .mediaChanged then (none, s)
  else if identity.status.isError then (some identity.status, s)
  else
    let (status, s) := processPermissionPacket dfciV1TranslateString .permissions s
    if status.isError then (some status, s)
    else
      let s := identityChange identity2 s
      if identity2.status = .mediaChanged then (none, s)
      else if identity2.status.isError then (some identity2.status, s)
      else
        let (status, s) := processPermissionPacket dfciV1TranslateString .permissions2 s
        (some status, s)

/-- `ProcessMailBoxes` as the permission store sees it: whether it took `EARLY_EXIT`, and
the state after it. `CompletePacket` runs for `MGR_PERMISSIONS2` first. -/
def processMailBoxes (identity identity2 : IdentityRun) (writeStatus : EfiStatus)
    (s : PermissionState) : Bool × PermissionState :=
  match processPackets dfciV1TranslateString identity identity2 s with
  | (none, s) => (true, s)
  | (some lkgStatus, s) =>
      let s := completePacket .permissions lkgStatus writeStatus
        (completePacket .permissions2 lkgStatus writeStatus s)
      -- the settings mailboxes come between; the unenroll packets follow, Identity2 first
      match s.processUnEnrollPacket dfciV1TranslateString identity2.unenroll with
      | (true, s) => (true, s)
      | (false, s) => s.processUnEnrollPacket dfciV1TranslateString identity.unenroll

/-- What one run of `ProcessMailBoxes` brings: the identity mailboxes' runs and the status
of a write of the variable. -/
structure MailboxRun where
  identity : IdentityRun
  identity2 : IdentityRun
  writeStatus : EfiStatus

/-- A boot: the two permission mailboxes, the mainline run, and the run at EndOfDxe that
follows an early exit. -/
structure PermissionBoot where
  permissions : Option PermissionPacket
  permissions2 : Option PermissionPacket
  mainline : MailboxRun
  endOfDxe : MailboxRun

/-- The state when the boot starts: the store loaded from the variable and the mailboxes
decoded. -/
def PermissionState.init (flash : PermissionStore) (b : PermissionBoot) : PermissionState :=
  ⟨flash, loadFromFlash flash, .init b.permissions, .init b.permissions2⟩

/-- One run of `ProcessMailBoxes`. -/
def MailboxRun.process (run : MailboxRun) (s : PermissionState) : Bool × PermissionState :=
  processMailBoxes dfciV1TranslateString run.identity run.identity2 run.writeStatus s

/-- The variable at the end of a boot: the mainline run and, after an early exit, the run at
EndOfDxe. -/
def boot (b : PermissionBoot) (flash : PermissionStore) : PermissionStore :=
  match b.mainline.process dfciV1TranslateString (PermissionState.init flash b) with
  | (true, s) => (b.endOfDxe.process dfciV1TranslateString s).2.flash
  | (false, s) => s.flash

/-- The variable after a sequence of boots. -/
def bootSequence (boots : List PermissionBoot) (flash : PermissionStore) : PermissionStore :=
  boots.foldl (fun flash b => boot dfciV1TranslateString b flash) flash

end Process

/-- A run of `ProcessMailBoxes` in which no unenroll packet resets the permissions. -/
def MailboxRun.NoOwnerReset (run : MailboxRun) : Prop :=
  run.identity.unenroll.resets = false ∧ run.identity2.unenroll.resets = false

instance (run : MailboxRun) : Decidable run.NoOwnerReset := inferInstanceAs (Decidable (_ ∧ _))

/-- A boot in which neither run of `ProcessMailBoxes` resets the permissions. -/
def PermissionBoot.NoOwnerReset (b : PermissionBoot) : Prop :=
  b.mainline.NoOwnerReset ∧ b.endOfDxe.NoOwnerReset

instance (b : PermissionBoot) : Decidable b.NoOwnerReset := inferInstanceAs (Decidable (_ ∧ _))

/-! ### Spec lemmas of the steps -/

@[simp] theorem loadFromFlash_lsv (flash : PermissionStore) : (loadFromFlash flash).lsv = flash.lsv := rfl

@[simp] theorem loadFromFlash_version (flash : PermissionStore) :
    (loadFromFlash flash).version = flash.version := rfl

@[simp] theorem loadFromFlash_idem (store : PermissionStore) :
    loadFromFlash (loadFromFlash store) = loadFromFlash store := rfl

/-- `SaveToFlash` leaves the variable and the store as they are, fails, or writes the store. -/
theorem saveToFlash_eq (writeStatus : EfiStatus) (flash store : PermissionStore) :
    saveToFlash writeStatus flash store = (.success, flash, store) ∨
    (saveToFlash writeStatus flash store = (writeStatus, flash, store) ∧ writeStatus.isError = true) ∨
    saveToFlash writeStatus flash store = (.success, loadFromFlash store, loadFromFlash store) := by
  unfold saveToFlash
  split_ifs with hmod hsame hw
  · exact .inl rfl
  · exact .inl rfl
  · exact .inr (.inl ⟨rfl, hw⟩)
  · exact .inr (.inr rfl)

/-- A save of a modified store that the write does not refuse succeeds, and the variable
then holds the store. -/
theorem saveToFlash_commits {writeStatus : EfiStatus} (flash : PermissionStore) {store : PermissionStore}
    (hmod : store.modified = true) (hw : writeStatus.isError = false) :
    (saveToFlash writeStatus flash store).1 = .success ∧
      loadFromFlash (saveToFlash writeStatus flash store).2.1 = loadFromFlash store := by
  unfold saveToFlash
  by_cases hsame : loadFromFlash store = loadFromFlash flash
  · simp [hmod, hsame]
  · simp [hmod, hsame, hw]

section Process

variable {tr : String → Option String}

theorem processPermissionPacket_of_none {mgr : PermissionMgr} {s : PermissionState}
    (h : (s.mailbox mgr).packet = none) : processPermissionPacket tr mgr s = (.success, s) := by
  simp [processPermissionPacket, h]

/-- A packet still present, authenticated, and which `ApplyPermissionsInXml` accepts. -/
theorem applyNewPermissionsPacket_of_ok (packet : PermissionPacket) {mgr : PermissionMgr}
    {s : PermissionState} {identity : UInt8} {store : PermissionStore} {results : List (String × EfiStatus)}
    (hpresent : (s.mailbox mgr).present = true) (hauth : packet.auth = .ok identity)
    (happly : applyPermissionsInXml tr identity packet.v1Mode packet.payload s.store = .ok (store, results)) :
    applyNewPermissionsPacket tr packet mgr s =
      (.success, { s.setMailbox mgr { s.mailbox mgr with present := false, lkgDirty := true } with
        store := { store with modified := true } }) := by
  simp [applyNewPermissionsPacket, hpresent, hauth, happly]

/-- A commit of a dirty mailbox whose store is modified, with the write not refused, leaves the
store in the variable. -/
theorem lkgHandler_commits {writeStatus : EfiStatus} {mgr : PermissionMgr} {s : PermissionState}
    (hdirty : (s.mailbox mgr).lkgDirty = true) (hmod : s.store.modified = true)
    (hw : writeStatus.isError = false) :
    loadFromFlash (lkgHandler true writeStatus mgr s).flash = loadFromFlash s.store := by
  obtain ⟨hstatus, hflash⟩ := saveToFlash_commits s.flash hmod hw
  unfold lkgHandler
  simp only [hdirty, Bool.not_true, Bool.false_eq_true, if_false, if_true,
    PermissionState.flash_setMailbox, PermissionState.store_setMailbox]
  rcases hsave : saveToFlash writeStatus s.flash s.store with ⟨status, flash, store⟩
  rw [hsave] at hstatus hflash
  cases hstatus
  exact hflash

end Process

/-! ### The default store -/

namespace PermissionStore

/-- `Modified`, `Version` and `Lsv`, which the entry edits of `InitPermStore` leave alone. -/
def header (store : PermissionStore) : Bool × UInt32 × UInt32 :=
  (store.modified, store.version, store.lsv)

@[simp] theorem header_addPermissionEntry (store : PermissionStore) (id : String) (pMask dMask : UInt8) :
    (store.addPermissionEntry id pMask dMask).2.header = store.header := by
  rcases addPermissionEntry_cases store id pMask dMask with h | h | ⟨-, h⟩ <;> simp [h, header]

@[simp] theorem header_addRequiredPermissionEntry (store : PermissionStore) (id : String) (pMask dMask : UInt8) :
    (store.addRequiredPermissionEntry id pMask dMask).header = store.header := by
  unfold addRequiredPermissionEntry
  split
  · exact header_addPermissionEntry store id pMask dMask
  · rfl

end PermissionStore

section Process

variable {tr : String → Option String}

/-- The unsigned entries are added one by one, each add keeping the header. -/
@[simp] theorem header_addUnsignedEntries (nodes : List PermissionNode) (store : PermissionStore) :
    (addUnsignedEntries tr nodes store).header = store.header := by
  induction nodes generalizing store with
  | nil => rfl
  | cons node nodes ih =>
    unfold addUnsignedEntries
    split
    · rfl
    · split
      rename_i status store' hadd
      have hheader : store'.header = store.header := by
        rw [← header_addPermissionEntry store, hadd]
      split
      · exact hheader
      · rw [ih, hheader]

@[simp] theorem header_addUnsignedPermissionEntries (pcdUnsignedListFormatAllow : Bool)
    (unsignedPermissions : Option PermissionsListNode) (store : PermissionStore) :
    (addUnsignedPermissionEntries tr pcdUnsignedListFormatAllow unsignedPermissions store).header =
      store.header := by
  unfold addUnsignedPermissionEntries
  split
  · rfl
  · cases pcdUnsignedListFormatAllow <;> simp only [header_addUnsignedEntries] <;> rfl

/-- `InitPermStore` gives a modified store at Version and Lsv 0, whatever the platform adds. -/
theorem header_initPermStore (pcdUnsignedListFormatAllow : Bool)
    (unsignedPermissions : Option PermissionsListNode) :
    (initPermStore tr pcdUnsignedListFormatAllow unsignedPermissions).header = (true, 0, 0) := by
  simp [initPermStore, addRequiredPermissions]
  rfl

end Process

/-! ### What every state of a boot keeps -/

namespace PermissionState

/-- The invariant of a boot that started from the variable `start`: the variable's Lsv
never falls below `start`'s, the in-memory store's never below the variable's, and each
store's Lsv is at most its Version, the check `LoadFromFlash` makes. -/
structure Inv (start : PermissionStore) (s : PermissionState) : Prop where
  start_le_flash : start.lsv.toNat ≤ s.flash.lsv.toNat
  flash_le_store : s.flash.lsv.toNat ≤ s.store.lsv.toNat
  store_lsv_le_version : s.store.lsv.toNat ≤ s.store.version.toNat
  flash_lsv_le_version : s.flash.lsv.toNat ≤ s.flash.version.toNat

variable {tr : String → Option String} {start : PermissionStore} {s : PermissionState}

theorem Inv.init {flash : PermissionStore} (h : flash.lsv.toNat ≤ flash.version.toNat)
    (b : PermissionBoot) : Inv flash (init flash b) :=
  ⟨le_rfl, le_rfl, h, h⟩

theorem Inv.setMailbox (h : Inv start s) (mgr : PermissionMgr) (m : PermissionMailbox) :
    Inv start (s.setMailbox mgr m) := by
  cases mgr <;> exact ⟨h.1, h.2, h.3, h.4⟩

/-- Reloading the store from the variable. -/
theorem Inv.reload (h : Inv start s) {flash : PermissionStore} (hflash : flash = s.flash) :
    Inv start { s with store := loadFromFlash flash } := by
  subst hflash
  exact ⟨h.start_le_flash, le_rfl, h.flash_lsv_le_version, h.flash_lsv_le_version⟩

theorem Inv.identityChange (h : Inv start s) (run : IdentityRun) :
    Inv start (identityChange run s) :=
  ⟨h.1, h.2, h.3, h.4⟩

/-- Applying a packet: a failure reloads the store, a success raises its Lsv (and sets a
Version above it). -/
theorem Inv.applyNewPermissionsPacket (h : Inv start s) (packet : PermissionPacket)
    (mgr : PermissionMgr) : Inv start (applyNewPermissionsPacket tr packet mgr s).2 := by
  unfold Dfci.applyNewPermissionsPacket
  by_cases hpresent : (s.mailbox mgr).present = true
  · simp only [hpresent, Bool.not_true, Bool.false_eq_true, if_false]
    split
    · exact h.setMailbox _ _
    split
    · rename_i store results happly
      obtain ⟨-, version, -, -, -, hversion, hge, hle⟩ := applyPermissionsInXml_versions happly
      have h' := h.setMailbox mgr { s.mailbox mgr with present := false, lkgDirty := true }
      refine ⟨h'.start_le_flash, ?_, ?_, h'.flash_lsv_le_version⟩
      · show (s.setMailbox _ _).flash.lsv.toNat ≤ store.lsv.toNat
        rw [flash_setMailbox]
        exact h.flash_le_store.trans hge
      · show store.lsv.toNat ≤ store.version.toNat
        omega
    · -- the failed apply has reloaded the store from the variable
      exact (h.setMailbox mgr _).reload (flash_setMailbox _ _ _).symm
  · simp only [Bool.not_eq_true] at hpresent
    simp only [hpresent, Bool.not_false, if_true]
    exact h

theorem Inv.processPermissionPacket (h : Inv start s) (mgr : PermissionMgr) :
    Inv start (processPermissionPacket tr mgr s).2 := by
  unfold Dfci.processPermissionPacket
  split
  · exact h
  · exact h.applyNewPermissionsPacket _ mgr

theorem Inv.processPackets (h : Inv start s) (identity identity2 : IdentityRun) :
    Inv start (processPackets tr identity identity2 s).2 := by
  -- each exit returns the state of the step before it
  have h₁ := h.identityChange identity
  have h₂ : Inv start (Dfci.processPermissionPacket tr .permissions (Dfci.identityChange identity s)).2 :=
    h₁.processPermissionPacket _
  have h₃ := h₂.identityChange identity2
  unfold Dfci.processPackets
  dsimp only
  split
  · exact h₁
  split
  · exact h₁
  split
  · exact h₂
  split
  · exact h₃
  split
  · exact h₃
  · exact h₃.processPermissionPacket _

/-- A Last-Known-Good operation: a commit leaves the variable, or writes the store into it,
or reloads the store after a refused write; a restore reloads it. -/
theorem Inv.lkgHandler (h : Inv start s) (commit : Bool) (writeStatus : EfiStatus)
    (mgr : PermissionMgr) : Inv start (lkgHandler commit writeStatus mgr s) := by
  unfold Dfci.lkgHandler
  dsimp only
  split
  · exact h
  have h' := h.setMailbox mgr { s.mailbox mgr with lkgDirty := false }
  split
  · simp only [flash_setMailbox, store_setMailbox]
    rcases saveToFlash_eq writeStatus s.flash s.store with hsave | ⟨hsave, hw⟩ | hsave <;>
      rw [hsave] <;> dsimp only
    · simp only [EfiStatus.isError_success, Bool.false_eq_true, if_false]
      exact ⟨h.1, h.2, h.3, h.4⟩
    · simp only [hw, if_true]
      exact ⟨h.start_le_flash, le_rfl, h.flash_lsv_le_version, h.flash_lsv_le_version⟩
    · simp only [EfiStatus.isError_success, Bool.false_eq_true, if_false]
      exact ⟨h.start_le_flash.trans h.flash_le_store, le_rfl, h.store_lsv_le_version,
        h.store_lsv_le_version⟩
  · exact h'.reload rfl

theorem Inv.completePacket (h : Inv start s) (mgr : PermissionMgr) (applyStatus writeStatus : EfiStatus) :
    Inv start (completePacket mgr applyStatus writeStatus s) := by
  unfold Dfci.completePacket
  split
  · exact h
  · exact h.lkgHandler _ _ mgr

/-- An unenroll that is not the owner's reset leaves the state as it was. -/
theorem processUnEnrollPacket_of_resets_false {run : UnenrollRun} (hrun : run.resets = false)
    (s : PermissionState) : (s.processUnEnrollPacket tr run).2 = s := by
  cases run with
  | skipped => rfl
  | delayed => rfl
  | ownerReset reset => simp [UnenrollRun.resets] at hrun

/-- Without the owner's reset, `ProcessMailBoxes` leaves the state the packets left, completed
unless it exited early. -/
theorem processMailBoxes_snd_of_resets_false {identity identity2 : IdentityRun} (writeStatus : EfiStatus)
    (hreset : identity.unenroll.resets = false) (hreset2 : identity2.unenroll.resets = false)
    (s : PermissionState) :
    (processMailBoxes tr identity identity2 writeStatus s).2 =
      match Dfci.processPackets tr identity identity2 s with
      | (none, s) => s
      | (some lkgStatus, s) => Dfci.completePacket .permissions lkgStatus writeStatus
          (Dfci.completePacket .permissions2 lkgStatus writeStatus s) := by
  unfold Dfci.processMailBoxes
  split
  · rfl
  · dsimp only
    split <;> rename_i s₂ hs₂
    · have hs := congrArg Prod.snd hs₂
      rw [processUnEnrollPacket_of_resets_false hreset2] at hs
      exact hs.symm
    · have hs := congrArg Prod.snd hs₂
      rw [processUnEnrollPacket_of_resets_false hreset2] at hs
      rw [processUnEnrollPacket_of_resets_false hreset]
      exact hs.symm

/-- What the packets leave and every `CompletePacket` keeps holds after a run of
`ProcessMailBoxes` whose identity mailboxes do not reset the permissions. -/
theorem processMailBoxes_preserves {P : PermissionState → Prop} {identity identity2 : IdentityRun}
    (writeStatus : EfiStatus) (hreset : identity.unenroll.resets = false)
    (hreset2 : identity2.unenroll.resets = false)
    (hpackets : P (Dfci.processPackets tr identity identity2 s).2)
    (hcomplete : ∀ mgr applyStatus s, P s → P (Dfci.completePacket mgr applyStatus writeStatus s)) :
    P (processMailBoxes tr identity identity2 writeStatus s).2 := by
  rw [processMailBoxes_snd_of_resets_false writeStatus hreset hreset2]
  split
  · rename_i s' hs'
    rw [hs'] at hpackets
    exact hpackets
  · rename_i status s' hs'
    rw [hs'] at hpackets
    -- `MGR_PERMISSIONS2` is completed first
    exact hcomplete _ _ _ (hcomplete _ _ _ hpackets)

/-- The invariant holds over a run of `ProcessMailBoxes` whose identity mailboxes do not reset
the permissions. -/
theorem Inv.processMailBoxes (h : Inv start s) {identity identity2 : IdentityRun}
    (writeStatus : EfiStatus) (hreset : identity.unenroll.resets = false)
    (hreset2 : identity2.unenroll.resets = false) :
    Inv start (processMailBoxes tr identity identity2 writeStatus s).2 :=
  processMailBoxes_preserves writeStatus hreset hreset2 (h.processPackets identity identity2)
    fun mgr applyStatus _ h' => h'.completePacket mgr applyStatus writeStatus

end PermissionState

/-! ### Packets below the committed Lsv change nothing -/

/-- A packet whose Version is below `lsv`. -/
def PermissionPacket.BelowLsv (lsv : UInt32) (packet : PermissionPacket) : Prop :=
  ∃ node version, packet.payload = some node ∧ node.version = some version ∧ version < lsv.toNat

namespace PermissionState

/-- A boot from the variable `start` in which nothing has been applied yet: the variable is
`start`, the in-memory store's Lsv is at least `start`'s, no mailbox is dirty, and every
packet is below `start`'s Lsv. -/
structure Quiet (start : PermissionStore) (s : PermissionState) : Prop where
  flash_eq : s.flash = start
  start_le_store : start.lsv.toNat ≤ s.store.lsv.toNat
  clean : ∀ mgr, (s.mailbox mgr).lkgDirty = false
  below : ∀ mgr, ∀ packet ∈ (s.mailbox mgr).packet, packet.BelowLsv start.lsv

variable {tr : String → Option String} {start : PermissionStore} {s : PermissionState}

theorem Quiet.init (b : PermissionBoot) (hp : ∀ packet ∈ b.permissions, packet.BelowLsv start.lsv)
    (hp2 : ∀ packet ∈ b.permissions2, packet.BelowLsv start.lsv) : Quiet start (init start b) where
  flash_eq := rfl
  start_le_store := le_rfl
  clean mgr := by cases mgr <;> rfl
  below mgr := by cases mgr <;> assumption

/-- Consuming a mailbox's packet keeps a quiet state quiet. -/
theorem Quiet.setPresent (h : Quiet start s) (mgr : PermissionMgr) (present : Bool) :
    Quiet start (s.setMailbox mgr { s.mailbox mgr with present := present }) := by
  refine ⟨?_, ?_, fun mgr' => ?_, fun mgr' => ?_⟩
  · rw [flash_setMailbox, h.flash_eq]
  · rw [store_setMailbox]
    exact h.start_le_store
  · rw [mailbox_setMailbox]
    split_ifs with hmgr
    · subst hmgr
      exact h.clean mgr'
    · exact h.clean mgr'
  · rw [mailbox_setMailbox]
    split_ifs with hmgr
    · subst hmgr
      exact h.below mgr'
    · exact h.below mgr'

/-- So does a store whose Lsv is still at least `start`'s. -/
theorem Quiet.withStore (h : Quiet start s) {store : PermissionStore}
    (hstore : start.lsv.toNat ≤ store.lsv.toNat) : Quiet start { s with store := store } :=
  ⟨h.1, hstore, h.3, h.4⟩

theorem Quiet.identityChange (h : Quiet start s) (run : IdentityRun) : Quiet start (identityChange run s) :=
  ⟨h.1, h.2, h.3, h.4⟩

/-- A packet below the Lsv is refused, whoever signed it: the mailbox stays clean and the store
is reloaded. -/
theorem Quiet.applyNewPermissionsPacket (h : Quiet start s) {mgr : PermissionMgr}
    {packet : PermissionPacket} (hpacket : (s.mailbox mgr).packet = some packet) :
    Quiet start (applyNewPermissionsPacket tr packet mgr s).2 := by
  obtain ⟨node, version, hnode, hversion, hlt⟩ := h.below mgr packet hpacket
  unfold Dfci.applyNewPermissionsPacket
  by_cases hpresent : (s.mailbox mgr).present = true
  · simp only [hpresent, Bool.not_true, Bool.false_eq_true, if_false]
    split
    · exact h.setPresent mgr false
    · rename_i identity _
      have hrefused : applyPermissionsInXml tr identity packet.v1Mode packet.payload s.store =
          .error (.versionError, .accessDenied) := by
        rw [hnode]
        exact applyPermissionsInXml_below_lsv hversion (lt_of_lt_of_le hlt h.start_le_store)
      simp only [hrefused]
      -- the refused apply has reloaded the store from the variable
      refine (h.setPresent mgr false).withStore ?_
      rw [loadFromFlash_lsv, h.flash_eq]
  · simp only [Bool.not_eq_true] at hpresent
    simp only [hpresent, Bool.not_false, if_true]
    exact h

theorem Quiet.processPermissionPacket (h : Quiet start s) (mgr : PermissionMgr) :
    Quiet start (processPermissionPacket tr mgr s).2 := by
  unfold Dfci.processPermissionPacket
  split
  · exact h
  · rename_i packet hpacket
    exact h.applyNewPermissionsPacket hpacket

theorem Quiet.processPackets (h : Quiet start s) (identity identity2 : IdentityRun) :
    Quiet start (processPackets tr identity identity2 s).2 := by
  have h₁ := h.identityChange identity
  have h₂ : Quiet start (Dfci.processPermissionPacket tr .permissions (Dfci.identityChange identity s)).2 :=
    h₁.processPermissionPacket _
  have h₃ := h₂.identityChange identity2
  unfold Dfci.processPackets
  dsimp only
  split
  · exact h₁
  split
  · exact h₁
  split
  · exact h₂
  split
  · exact h₃
  split
  · exact h₃
  · exact h₃.processPermissionPacket _

/-- With no mailbox dirty, the Last-Known-Good operations do nothing. -/
theorem Quiet.completePacket (h : Quiet start s) (mgr : PermissionMgr) (applyStatus writeStatus : EfiStatus) :
    completePacket mgr applyStatus writeStatus s = s := by
  unfold Dfci.completePacket Dfci.lkgHandler
  split
  · rfl
  · simp [h.clean mgr]

theorem Quiet.processMailBoxes (h : Quiet start s) {identity identity2 : IdentityRun}
    (writeStatus : EfiStatus) (hreset : identity.unenroll.resets = false)
    (hreset2 : identity2.unenroll.resets = false) :
    Quiet start (processMailBoxes tr identity identity2 writeStatus s).2 := by
  refine processMailBoxes_preserves writeStatus hreset hreset2 (h.processPackets identity identity2) ?_
  intro mgr applyStatus s' h'
  rw [h'.completePacket]
  exact h'

end PermissionState

open PermissionState

section Boot

variable (tr : String → Option String)

/-- What holds of the boot's first state and every run of `ProcessMailBoxes` without the
owner's reset keeps holds of a state whose variable the boot leaves. -/
theorem boot_invariant {P : PermissionState → Prop} {b : PermissionBoot} {flash : PermissionStore}
    (hinit : P (init flash b))
    (hrun : ∀ (run : MailboxRun) s, run.NoOwnerReset → P s → P (run.process tr s).2)
    (hreset : b.NoOwnerReset) : ∃ s, P s ∧ boot tr b flash = s.flash := by
  have h₁ := hrun b.mainline _ hreset.1 hinit
  unfold boot
  split
  · rename_i s hs
    rw [hs] at h₁
    -- the early exit is followed by the run at EndOfDxe
    exact ⟨_, hrun b.endOfDxe s hreset.2 h₁, rfl⟩
  · rename_i s hs
    rw [hs] at h₁
    exact ⟨s, h₁, rfl⟩

/-- **No boot without the owner's reset lowers the committed Lsv**, and the variable a boot
leaves passes the version check of `LoadFromFlash` when the one it started from did. -/
theorem boot_lsv_le {flash : PermissionStore} (h : flash.lsv.toNat ≤ flash.version.toNat)
    {b : PermissionBoot} (hreset : b.NoOwnerReset) :
    flash.lsv.toNat ≤ (boot tr b flash).lsv.toNat ∧
      (boot tr b flash).lsv.toNat ≤ (boot tr b flash).version.toNat := by
  obtain ⟨s, hs, hboot⟩ := boot_invariant tr (P := Inv flash) (Inv.init h b)
    (fun run _ hrun hs => hs.processMailBoxes run.writeStatus hrun.1 hrun.2) hreset
  rw [hboot]
  exact ⟨hs.start_le_flash, hs.flash_lsv_le_version⟩

/-- **Packets below the committed Lsv change nothing.** A boot without the owner's reset
whose permission packets all carry a Version below the variable's Lsv leaves the variable as
it was, whoever signed them and whatever else the identity mailboxes do. -/
theorem boot_below_lsv {b : PermissionBoot} {flash : PermissionStore}
    (hp : ∀ packet ∈ b.permissions, packet.BelowLsv flash.lsv)
    (hp2 : ∀ packet ∈ b.permissions2, packet.BelowLsv flash.lsv) (hreset : b.NoOwnerReset) :
    boot tr b flash = flash := by
  obtain ⟨s, hs, hboot⟩ := boot_invariant tr (P := Quiet flash) (Quiet.init b hp hp2)
    (fun run _ hrun hs => hs.processMailBoxes run.writeStatus hrun.1 hrun.2) hreset
  rw [hboot]
  exact hs.flash_eq

/-! ### A signer without delegated authority -/

/-- Delegated authority, as the comment of `ApplyPermissionsInXml` means it ("Permission
Updates can only be done by the Owner or Delegated Identities"): the signer is in the default
delegated mask or in some entry's. -/
def delegatedAuthority (store : PermissionStore) (identity : UInt8) : Bool :=
  identity &&& store.permissionsList.foldl (fun mask e => mask ||| e.dMask) store.defaultDMask != 0

/-- A packet for Version and Lsv `0xFFFFFFFF` whose `<Permissions>` list is empty and not
appended. -/
def lockoutPayload : PermissionsPacketNode :=
  ⟨some 0xFFFFFFFF, some 0xFFFFFFFF, some ⟨some "False", none, none, []⟩⟩

/-- Whatever the store and whoever signed it, the lockout packet is accepted: the store gets
Version and Lsv `0xFFFFFFFF` and loses only the entries its signer would delete on any
replace. -/
theorem applyPermissionsInXml_lockoutPayload (identity : UInt8) (v1Mode : Bool) (store : PermissionStore) :
    applyPermissionsInXml tr identity v1Mode (some lockoutPayload) store =
      .ok ({ (store.markPermissionEntriesForDeletion identity).deleteMarkedPermissionEntries with
        lsv := 0xFFFFFFFF, version := 0xFFFFFFFF }, []) := by
  have hbound : store.lsv.toNat < 2 ^ 32 := store.lsv.toNat_lt
  have hlsv : ¬4294967295 < store.lsv.toNat := by omega
  have hmax : max store.lsv.toNat 4294967295 = 4294967295 := by omega
  simp [applyPermissionsInXml, lockoutPayload, permissionListEntriesAppend, applyDefaultPermission,
    getPermissionsListDefaultPMask, applyPermissionEntries, hlsv, hmax, throw_eq_error]
  -- the sweep commutes with setting the version and the Lsv
  rfl

/-- **Any authenticated signer can raise the committed Lsv to its maximum.** A boot whose
Permissions mailbox holds the lockout packet, with the identity mailboxes succeeding, no
Permissions2 packet and the variable written, commits Version and Lsv `0xFFFFFFFF`, whoever
signed it: delegated authority is never asked for. -/
theorem boot_lockoutPayload {b : PermissionBoot} {identity : UInt8} {v1Mode : Bool}
    (flash : PermissionStore) (hp : b.permissions = some ⟨.ok identity, v1Mode, some lockoutPayload⟩)
    (hp2 : b.permissions2 = none) (hid : b.mainline.identity.status = .success)
    (hid2 : b.mainline.identity2.status = .success) (hw : b.mainline.writeStatus = .success)
    (hun : b.mainline.identity.unenroll = .skipped) (hun2 : b.mainline.identity2.unenroll = .skipped) :
    (boot tr b flash).lsv = 0xFFFFFFFF ∧ (boot tr b flash).version = 0xFFFFFFFF := by
  -- the Permissions packet is applied to the store the first identity mailbox left
  set s₁ := identityChange b.mainline.identity (init flash b) with hs₁
  have hpacket : (s₁.mailbox .permissions).packet = some ⟨.ok identity, v1Mode, some lockoutPayload⟩ := hp
  have hpresent : (s₁.mailbox .permissions).present = true := by
    show b.permissions.isSome = true
    rw [hp]
    rfl
  set s₂ := { s₁.setMailbox .permissions { s₁.mailbox .permissions with present := false, lkgDirty := true } with
    store := { (s₁.store.markPermissionEntriesForDeletion identity).deleteMarkedPermissionEntries with
      lsv := 0xFFFFFFFF, version := 0xFFFFFFFF, modified := true } } with hs₂
  have happly : processPermissionPacket tr .permissions s₁ = (.success, s₂) := by
    unfold processPermissionPacket
    rw [hpacket]
    show applyNewPermissionsPacket tr ⟨.ok identity, v1Mode, some lockoutPayload⟩ .permissions s₁ =
      (.success, s₂)
    exact applyNewPermissionsPacket_of_ok ⟨.ok identity, v1Mode, some lockoutPayload⟩ hpresent rfl
      (applyPermissionsInXml_lockoutPayload tr identity v1Mode s₁.store)
  -- the Permissions2 mailbox is empty
  set s₃ := identityChange b.mainline.identity2 s₂ with hs₃
  have hempty : processPermissionPacket tr .permissions2 s₃ = (.success, s₃) :=
    processPermissionPacket_of_none hp2
  have hpackets : processPackets tr b.mainline.identity b.mainline.identity2 (init flash b) =
      (some .success, s₃) := by
    unfold processPackets
    simp only [← hs₁, hid, hid2, happly, ← hs₃, hempty, reduceCtorEq, EfiStatus.isError_success,
      Bool.false_eq_true, if_false]
  -- the commit of the Permissions mailbox writes the store
  have hcommit : loadFromFlash (lkgHandler true .success .permissions s₃).flash = loadFromFlash s₃.store :=
    lkgHandler_commits rfl rfl rfl
  have hdone : (s₃.mailbox .permissions).packet = some ⟨.ok identity, v1Mode, some lockoutPayload⟩ := hp
  have hempty₂ : (s₃.mailbox .permissions2).packet = none := hp2
  have hboot : boot tr b flash = (lkgHandler true .success .permissions s₃).flash := by
    simp only [boot, MailboxRun.process, processMailBoxes, hpackets, hw, completePacket, hempty₂, hdone,
      EfiStatus.isError_success, Bool.not_false, hun, hun2, PermissionState.processUnEnrollPacket]
  have hstore : loadFromFlash (boot tr b flash) = loadFromFlash s₃.store := by
    rw [hboot, hcommit]
  exact ⟨congrArg PermissionStore.lsv hstore, congrArg PermissionStore.version hstore⟩

/-- The identity mailboxes empty and the variable written. -/
def emptyMailboxRun : MailboxRun :=
  ⟨⟨.success, id, .skipped⟩, ⟨.success, id, .skipped⟩, .success⟩

/-- The user's boot: the Permissions mailbox holds the lockout packet, signed with the user's
certificate. -/
def userLockoutBoot : PermissionBoot :=
  ⟨some ⟨.ok dfciIdentitySignerUser, false, some lockoutPayload⟩, none, emptyMailboxRun, emptyMailboxRun⟩

/-- The owner's boot with its version-2 packet `ownerRepacket`. -/
def ownerRepacketBoot : PermissionBoot :=
  ⟨some ⟨.ok dfciIdentitySignerOwner, false, some ownerRepacket⟩, none, emptyMailboxRun, emptyMailboxRun⟩

/-- The user, who has no delegated authority in the owner's store, locks the owner out: after
the user's boot the committed Lsv is `0xFFFFFFFF`, and the owner's version-2 packet, which
the store the owner provisioned would have taken, then changes nothing. -/
theorem user_without_authority_locks_out_owner :
    delegatedAuthority ownerStore dfciIdentitySignerUser = false ∧
    (boot (fun _ => none) userLockoutBoot ownerStore).lsv = 0xFFFFFFFF ∧
    boot (fun _ => none) ownerRepacketBoot (boot (fun _ => none) userLockoutBoot ownerStore) =
      boot (fun _ => none) userLockoutBoot ownerStore ∧
    boot (fun _ => none) ownerRepacketBoot ownerStore ≠ ownerStore := by
  have hlock := boot_lockoutPayload (fun _ => none) (b := userLockoutBoot) ownerStore rfl rfl rfl rfl rfl rfl rfl
  refine ⟨by decide, hlock.1, ?_, by decide⟩
  -- the owner's packet carries Version 2, below the Lsv the user committed
  apply boot_below_lsv
  · intro packet hpacket
    cases hpacket
    refine ⟨ownerRepacket, 2, rfl, rfl, ?_⟩
    rw [hlock.1]
    decide
  · intro packet hpacket
    cases hpacket
  · decide

end Boot

end MuPlus.Dfci
