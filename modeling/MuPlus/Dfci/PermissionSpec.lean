import MuPlus.Dfci.Permission
import MuPlus.Lib.ExceptOk

/-!
# MuPlus.Dfci.PermissionSpec

**What a permission packet can change.** A permission packet is applied with the
authority of the identity that signed it: it may rewrite the permission of a setting
only if the signer is in that setting's delegated mask, change the default masks only if
the signer is in the default delegated mask, and delete only the entries whose highest
delegated signer it is and that the packet does not list again.

`applyPermissionsInXml_ok` peels a successful `ApplyPermissionsInXml` into its steps.
The `<Permission>` loop is read against the store the packet started from: the entries
at the store's old positions are related position by position to the old entries
(`EntryChange`: untouched, marked by the signer, or rewritten with its authority), and
the entries past them are new (`AddedEntry`). `LoopInvariant.step` shows one turn of the
loop keeps this, `LoopInvariant.run` the whole loop; the mark-and-sweep then removes
exactly the marked old entries. From it:

* `applyPermissionsInXml_effective_changed` — a setting's effective masks change only
  with the signer's authority over it;
* `applyPermissionsInXml_defaults_changed` — the default masks change only with the
  signer in the default delegated mask;
* `applyPermissionsInXml_entry_deleted` — in a well-formed store, an entry disappears
  only if the signer is its highest delegated identity, the list is not appended, and the
  packet does not list its id;
* `applyPermissionsInXml_wellFormed` — a successful packet keeps the store well formed
  (no marked entry, distinct ids of valid size).
-/

namespace MuPlus.Dfci

open KeyedList ExceptOk

/-! ### Signer identities -/

/-- `HIGHEST_IDENTITY` of a mask with a signer identity is a bit of the mask. -/
theorem highestIdentity_and_self : ∀ dMask : UInt8, dMask &&& dfciPermissionMaskUsers ≠ 0 →
    highestIdentity dMask &&& dMask = highestIdentity dMask := by
  decide +kernel

/-- `HIGHEST_IDENTITY` of a mask with a signer identity is one of the four signers. -/
theorem highestIdentity_mem : ∀ dMask : UInt8, dMask &&& dfciPermissionMaskUsers ≠ 0 →
    highestIdentity dMask ∈ [dfciIdentitySignerUser2, dfciIdentitySignerUser1,
      dfciIdentitySignerUser, dfciIdentitySignerOwner] := by
  decide +kernel

namespace PermissionStore

/-- An identity that marks an entry is in the entry's delegated mask. -/
theorem MarksEntry.authority {identity dMask : UInt8} (h : MarksEntry identity dMask) :
    identity &&& dMask ≠ 0 := by
  intro hzero
  apply h.2
  calc identity &&& highestIdentity dMask
      = identity &&& (highestIdentity dMask &&& dMask) := by rw [highestIdentity_and_self dMask h.1]
    _ = (identity &&& dMask) &&& highestIdentity dMask := by
        rw [UInt8.and_comm (highestIdentity dMask), UInt8.and_assoc]
    _ = 0 := by rw [hzero, UInt8.zero_and]

/-- A single identity marks exactly the entries whose highest delegated signer it is. -/
theorem MarksEntry.eq_highestIdentity {identity dMask : UInt8} (hi : identity ∈ dfciIdentityBits)
    (h : MarksEntry identity dMask) : identity = highestIdentity dMask := by
  have hbits : ∀ i ∈ dfciIdentityBits, ∀ b ∈ [dfciIdentitySignerUser2, dfciIdentitySignerUser1,
      dfciIdentitySignerUser, dfciIdentitySignerOwner], i &&& b ≠ 0 → i = b := by
    decide +kernel
  exact hbits identity hi _ (highestIdentity_mem dMask h.1) h.2

/-! ### The store routines -/

@[simp] theorem PermissionEntry.id_rewrite (pMask dMask : UInt8) (e : PermissionEntry) :
    (PermissionEntry.rewrite pMask dMask e).id = e.id := rfl

@[simp] theorem PermissionEntry.markedForDeletion_rewrite (pMask dMask : UInt8) (e : PermissionEntry) :
    (PermissionEntry.rewrite pMask dMask e).markedForDeletion = false := rfl

theorem findPermissionEntry_eq_some {store : PermissionStore} {id : String} {e : PermissionEntry} :
    store.findPermissionEntry id = some e ↔
      IdSizeValid id ∧ store.permissionsList.find? (·.id = id) = some e := by
  unfold findPermissionEntry
  split_ifs with hid <;> simp [hid]

/-- No entry has an id of valid size that `FindPermissionEntry` does not find. -/
theorem ne_of_findPermissionEntry_eq_none {store : PermissionStore} {id : String}
    (hid : IdSizeValid id) (h : store.findPermissionEntry id = none) :
    ∀ e ∈ store.permissionsList, e.id ≠ id := by
  simpa [findPermissionEntry, hid] using h

/-- `AddPermissionEntry` leaves the store alone (a numeric id, or a bad size) or appends. -/
theorem addPermissionEntry_cases (store : PermissionStore) (id : String) (pMask dMask : UInt8) :
    store.addPermissionEntry id pMask dMask = (.success, store) ∨
      store.addPermissionEntry id pMask dMask = (.invalidParameter, store) ∨
      (IdSizeValid id ∧ store.addPermissionEntry id pMask dMask =
        (.success, { store with permissionsList := store.permissionsList ++ [⟨id, pMask, dMask, false⟩] })) := by
  unfold addPermissionEntry
  by_cases hnum : isNumericId id
  · simp [hnum]
  · by_cases hvalid : IdSizeValid id <;> simp [hnum, hvalid]

/-! ### The effective permission -/

/-- The masks a store gives a setting: those of its first entry, or the defaults. -/
def effective (store : PermissionStore) (id : String) : UInt8 × UInt8 :=
  match store.permissionsList.find? (·.id = id) with
  | some e => (e.pMask, e.dMask)
  | none => (store.defaultPMask, store.defaultDMask)

/-- `QueryPermission` of an id of valid size reads the effective write mask. -/
theorem queryPermission_eq_effective (store : PermissionStore) {id : String} (hid : IdSizeValid id) :
    store.queryPermission id = (store.effective id).1 := by
  unfold queryPermission effective findPermissionEntry
  rw [if_pos hid]
  cases store.permissionsList.find? (·.id = id) <;> rfl

/-- The store between two packets: no entry marked for deletion, and distinct ids of
valid size, as `AddPermissionEntry` after `FindPermissionEntry` keeps them. -/
structure WellFormed (store : PermissionStore) : Prop where
  unmarked : ∀ e ∈ store.permissionsList, e.markedForDeletion = false
  idSizeValid : ∀ e ∈ store.permissionsList, IdSizeValid e.id
  idsNodup : (store.permissionsList.map (·.id)).Nodup

end PermissionStore

open PermissionStore

/-! ### One packet, step by step -/

section Apply

variable {tr : String → Option String} {identity : UInt8}

theorem inputPermissionId_of_getInputPermission {node : PermissionNode} {input : InputPermission}
    (h : getInputPermission tr node = .ok input) : inputPermissionId tr node = some input.id := by
  unfold getInputPermission at h
  cases hid : inputPermissionId tr node with
  | none => simp [hid] at h
  | some id =>
    cases hp : node.pMask with
    | none => simp [hid, hp] at h
    | some pMask =>
      cases hd : node.dMask <;>
        simp only [hid, hp, hd, bind_eq_ok_iff, pure_eq_ok_iff] at h <;>
        obtain ⟨_, -, h⟩ := h
      · rw [← h]
      · obtain ⟨_, -, rfl⟩ := h
        rfl

/-- One turn of the `<Permission>` loop: the input is read, and the entry for its id is
rewritten with the signer's authority, or nothing changes (the signer lacks it, or the id
is numeric), or a new entry is added for a missing id of valid size with the signer in the
default delegated mask. -/
theorem applyPermissionEntry_ok {node : PermissionNode} {store store' : PermissionStore}
    {result : String × EfiStatus}
    (h : applyPermissionEntry tr identity node store = .ok (store', result)) :
    ∃ input, getInputPermission tr node = .ok input ∧
      ((∃ e, store.findPermissionEntry input.id = some e ∧ identity &&& e.dMask ≠ 0 ∧
          store' = store.rewritePermissionEntry input.id input.pMask input.dMask) ∨
        (store' = store ∧ ∀ e, store.findPermissionEntry input.id = some e → identity &&& e.dMask = 0) ∨
        (store.findPermissionEntry input.id = none ∧ identity &&& store.defaultDMask ≠ 0 ∧
          IdSizeValid input.id ∧ ∃ dMask, store' =
            { store with permissionsList := store.permissionsList ++ [⟨input.id, input.pMask, dMask, false⟩] })) := by
  unfold applyPermissionEntry at h
  cases hinput : getInputPermission tr node with
  | error e => simp [hinput] at h
  | ok input =>
    refine ⟨input, rfl, ?_⟩
    simp only [hinput, bind_eq_ok_iff, pure_eq_ok_iff] at h
    obtain ⟨_, rfl, h⟩ := h
    cases hfind : store.findPermissionEntry input.id with
    | some e =>
      simp only [hfind] at h
      by_cases hauth : identity &&& e.dMask = 0
      · simp only [hauth, ne_eq, not_true_eq_false, if_false, pure_eq_ok_iff, Prod.mk.injEq] at h
        exact .inr (.inl ⟨h.1.symm, fun e' he' => by cases he'; exact hauth⟩)
      · simp only [hauth, ne_eq, not_false_eq_true, if_true, pure_eq_ok_iff, Prod.mk.injEq] at h
        exact .inl ⟨e, rfl, hauth, h.1.symm⟩
    | none =>
      simp only [hfind] at h
      by_cases hauth : identity &&& store.defaultDMask = 0
      · simp only [hauth, ne_eq, not_true_eq_false, if_false, pure_eq_ok_iff, Prod.mk.injEq] at h
        exact .inr (.inl ⟨h.1.symm, fun e' he' => by cases he'⟩)
      · simp only [hauth, ne_eq, not_false_eq_true, if_true] at h
        -- `AddPermissionEntry` failing aborts the packet
        rcases addPermissionEntry_cases store input.id input.pMask
            (if input.dMask = dfciIdentityNotSpecified then identity else input.dMask) with
          hadd | hadd | ⟨hvalid, hadd⟩ <;>
          simp only [hadd, EfiStatus.isError, Bool.false_eq_true, if_false, if_true, pure_eq_ok_iff,
            Prod.mk.injEq, bind_eq_ok_iff, throw_eq_ok_iff, false_and, exists_false] at h
        · exact .inr (.inl ⟨h.1.symm, fun e' he' => by cases he'⟩)
        · exact .inr (.inr ⟨rfl, hauth, hvalid, _, h.1.symm⟩)

/-- One turn of the `<Permission>` loop changes the entries only. -/
theorem applyPermissionEntry_frame {node : PermissionNode} {store store' : PermissionStore}
    {result : String × EfiStatus}
    (h : applyPermissionEntry tr identity node store = .ok (store', result)) :
    store' = { store with permissionsList := store'.permissionsList } := by
  obtain ⟨input, -, hcase⟩ := applyPermissionEntry_ok h
  rcases hcase with ⟨e, -, -, rfl⟩ | ⟨rfl, -⟩ | ⟨-, -, -, dMask, rfl⟩ <;> rfl

/-- The `<Permission>` loop changes the entries only. -/
theorem applyPermissionEntries_frame {nodes : List PermissionNode} {store store' : PermissionStore}
    {results : List (String × EfiStatus)}
    (h : applyPermissionEntries tr identity nodes store = .ok (store', results)) :
    store' = { store with permissionsList := store'.permissionsList } := by
  induction nodes generalizing store results with
  | nil =>
    simp only [applyPermissionEntries, pure_eq_ok_iff, Prod.mk.injEq] at h
    rw [h.1]
  | cons node nodes ih =>
    simp only [applyPermissionEntries, bind_eq_ok_iff, pure_eq_ok_iff] at h
    obtain ⟨⟨store₁, result⟩, h₁, ⟨store₂, results₂⟩, h₂, heq⟩ := h
    cases heq
    rw [ih h₂, applyPermissionEntry_frame h₁]

/-- The `Default`/`Delegated` step leaves the store alone or, with the signer in the default
delegated mask, sets the default masks. -/
theorem applyDefaultPermission_ok {list : PermissionsListNode} {store store' : PermissionStore}
    (h : applyDefaultPermission identity list store = .ok store') :
    store' = store ∨ (identity &&& store.defaultDMask ≠ 0 ∧
      ∃ pMask dMask, store' = { store with defaultPMask := pMask, defaultDMask := dMask }) := by
  unfold applyDefaultPermission at h
  split at h
  · exact .inl (pure_eq_ok_iff.mp h).symm
  · simp at h
  · rw [pure_eq_ok_iff] at h
    split_ifs at h with hauth
    · exact .inr ⟨hauth, _, _, h.symm⟩
    · exact .inl h.symm

/-- A successful `ApplyPermissionsInXml`, step by step. -/
theorem applyPermissionsInXml_ok {v1Mode : Bool} {payload : Option PermissionsPacketNode}
    {store store' : PermissionStore} {results : List (String × EfiStatus)}
    (h : applyPermissionsInXml tr identity v1Mode payload store = .ok (store', results)) :
    ∃ packet version lsv list append marked defaulted, payload = some packet ∧
      packet.version = some version ∧ version ≤ 0xFFFFFFFF ∧ store.lsv.toNat ≤ version ∧
      packet.lsv = some lsv ∧ lsv ≤ 0xFFFFFFFF ∧ lsv ≤ version ∧
      packet.permissionsList = some list ∧ permissionListEntriesAppend list = .ok append ∧
      (append && v1Mode) = false ∧
      marked = (if append then store else store.markPermissionEntriesForDeletion identity) ∧
      applyDefaultPermission identity list
        { marked with lsv := (max store.lsv.toNat lsv).toUInt32, version := version.toUInt32 } = .ok defaulted ∧
      ∃ looped, applyPermissionEntries tr identity list.permissions defaulted = .ok (looped, results) ∧
        store' = looped.deleteMarkedPermissionEntries := by
  unfold applyPermissionsInXml at h
  rcases payload with _ | packet
  · simp at h
  rcases hversion : packet.version with _ | version
  · simp [hversion] at h
  simp only [hversion] at h
  -- each guard in turn: a failing one throws
  by_cases hv₁ : 4294967295 < version
  · simp [hv₁] at h
  by_cases hv₂ : version < store.lsv.toNat
  · simp [hv₁, hv₂] at h
  rcases hlsv : packet.lsv with _ | lsv
  · simp [hv₁, hv₂, hlsv] at h
  by_cases hl₁ : 4294967295 < lsv
  · simp [hv₁, hv₂, hlsv, hl₁] at h
  by_cases hl₂ : version < lsv
  · simp [hv₁, hv₂, hlsv, hl₁, hl₂] at h
  rcases hlist : packet.permissionsList with _ | list
  · simp [hv₁, hv₂, hlsv, hl₁, hl₂, hlist] at h
  rcases happend : permissionListEntriesAppend list with _ | append
  · simp [hv₁, hv₂, hlsv, hl₁, hl₂, hlist, happend] at h
  by_cases hv1 : append = true ∧ v1Mode = true
  · simp [hv₁, hv₂, hlsv, hl₁, hl₂, hlist, happend, hv1] at h
  simp only [hv₁, hv₂, hlsv, hl₁, hl₂, hlist, happend, Bool.and_eq_true, hv1, ↓reduceIte,
    bind_eq_ok_iff, pure_eq_ok_iff, pure_bind] at h
  obtain ⟨defaulted, hdefault, ⟨looped, results'⟩, hloop, hresult⟩ := h
  simp only [Prod.mk.injEq] at hresult
  obtain ⟨rfl, rfl⟩ := hresult
  refine ⟨packet, version, lsv, list, append, _, defaulted, rfl, hversion, by omega, by omega, hlsv,
    by omega, by omega, hlist, happend, by simpa using hv1, rfl, hdefault, looped, hloop, rfl⟩

/-- A successful packet sets the Version it carries, which is at least the store's Lsv,
and an Lsv between the store's and that Version. -/
theorem applyPermissionsInXml_versions {v1Mode : Bool} {payload : Option PermissionsPacketNode}
    {store store' : PermissionStore} {results : List (String × EfiStatus)}
    (h : applyPermissionsInXml tr identity v1Mode payload store = .ok (store', results)) :
    ∃ packet version, payload = some packet ∧ packet.version = some version ∧
      store.lsv.toNat ≤ version ∧ store'.version.toNat = version ∧
      store.lsv.toNat ≤ store'.lsv.toNat ∧ store'.lsv.toNat ≤ version := by
  obtain ⟨packet, version, lsv, list, append, marked, defaulted, rfl, hversion, hv, hlsv_le, -, hl,
    hlv, -, -, -, -, hdefault, looped, hloop, rfl⟩ := applyPermissionsInXml_ok h
  -- neither the defaults, the loop nor the sweep touch the version and the Lsv
  have hfields : looped.version = version.toUInt32 ∧
      looped.lsv = (max store.lsv.toNat lsv).toUInt32 := by
    rw [applyPermissionEntries_frame hloop]
    rcases applyDefaultPermission_ok hdefault with rfl | ⟨-, pMask, dMask, rfl⟩ <;> exact ⟨rfl, rfl⟩
  have hstore : store.lsv.toNat < 2 ^ 32 := store.lsv.toNat_lt
  have hversion' : looped.version.toNat = version := by
    rw [hfields.1, UInt32.toNat_ofNat_of_lt' (by rw [UInt32.size]; omega)]
  have hlsv' : looped.lsv.toNat = max store.lsv.toNat lsv := by
    rw [hfields.2, UInt32.toNat_ofNat_of_lt' (by rw [UInt32.size]; omega)]
  refine ⟨packet, version, rfl, hversion, hlsv_le, hversion', ?_, ?_⟩
  · show store.lsv.toNat ≤ looped.lsv.toNat
    omega
  · show looped.lsv.toNat ≤ version
    omega

/-- A packet whose Version is below the store's Lsv fails with
`DFCI_PACKET_STATE_VERSION_ERROR` and `EFI_ACCESS_DENIED`, whoever signed it. -/
theorem applyPermissionsInXml_below_lsv {v1Mode : Bool} {packet : PermissionsPacketNode}
    {store : PermissionStore} {version : Nat} (hversion : packet.version = some version)
    (hlt : version < store.lsv.toNat) :
    applyPermissionsInXml tr identity v1Mode (some packet) store = .error (.versionError, .accessDenied) := by
  have hbound : store.lsv.toNat < 2 ^ 32 := store.lsv.toNat_lt
  have hv : ¬4294967295 < version := by omega
  simp only [applyPermissionsInXml, hversion, hv, hlt, if_true, if_false, throw_bind]
  rfl

end Apply

/-! ### The loop against the store the packet started from -/

/-- How an entry of the store the packet started from may stand in the loop, `marking`
being that the list is not appended: untouched; marked for deletion because the signer is
its highest delegated identity; or rewritten by a signer in its delegated mask, and so no
longer marked. -/
def EntryChange (identity : UInt8) (marking : Bool) (s t : PermissionEntry) : Prop :=
  t.id = s.id ∧
    (t = s ∨ (marking = true ∧ MarksEntry identity s.dMask ∧ t = { s with markedForDeletion := true }) ∨
      (identity &&& s.dMask ≠ 0 ∧ t.markedForDeletion = false))

/-- An entry the packet added: for an id the old store has no entry for, of valid size,
not marked, and added by a signer in the old default delegated mask. -/
def AddedEntry (identity : UInt8) (old : PermissionStore) (a : PermissionEntry) : Prop :=
  a.id ∉ old.permissionsList.map (·.id) ∧ IdSizeValid a.id ∧ a.markedForDeletion = false ∧
    identity &&& old.defaultDMask ≠ 0

/-- The first entry for `x`, if there is one, is not marked for deletion. -/
def FirstUnmarked (l : List PermissionEntry) (x : String) : Prop :=
  ∀ t ∈ l.find? (·.id = x), t.markedForDeletion = false

section EntryChange

variable {identity : UInt8} {marking : Bool} {s t : PermissionEntry}

theorem EntryChange.refl (s : PermissionEntry) : EntryChange identity marking s s := ⟨rfl, .inl rfl⟩

/-- A signer with authority over the entry as it stands had it over the old entry. -/
theorem EntryChange.authority (h : EntryChange identity marking s t) (ht : identity &&& t.dMask ≠ 0) :
    identity &&& s.dMask ≠ 0 := by
  obtain ⟨-, rfl | ⟨-, -, rfl⟩ | ⟨hs, -⟩⟩ := h
  · exact ht
  · exact ht
  · exact hs

theorem EntryChange.rewrite (h : EntryChange identity marking s t) (ht : identity &&& t.dMask ≠ 0)
    (pMask dMask : UInt8) : EntryChange identity marking s (PermissionEntry.rewrite pMask dMask t) :=
  ⟨by rw [PermissionEntry.id_rewrite, h.1], .inr (.inr ⟨h.authority ht, rfl⟩)⟩

/-- Without authority over an old entry, the signer left it untouched. -/
theorem EntryChange.eq_of_not_authority (h : EntryChange identity marking s t)
    (hs : identity &&& s.dMask = 0) : t = s := by
  obtain ⟨-, rfl | ⟨-, hmarks, -⟩ | ⟨hauth, -⟩⟩ := h
  · rfl
  · exact absurd hs hmarks.authority
  · exact absurd hs hauth

/-- An entry the signer has no authority over is not marked (the signer would have been its
highest delegated identity). -/
theorem EntryChange.unmarked_of_denied (h : EntryChange identity marking s t)
    (hs : s.markedForDeletion = false) (ht : identity &&& t.dMask = 0) : t.markedForDeletion = false := by
  obtain ⟨-, rfl | ⟨-, hmarks, rfl⟩ | ⟨-, hunmarked⟩⟩ := h
  · exact hs
  · exact absurd ht hmarks.authority
  · exact hunmarked

/-- A marked entry was marked by `MarkPermissionEntriesForDeletion`. -/
theorem EntryChange.marked (h : EntryChange identity marking s t) (hs : s.markedForDeletion = false)
    (ht : t.markedForDeletion = true) : marking = true ∧ MarksEntry identity s.dMask := by
  obtain ⟨-, rfl | ⟨hmarking, hmarks, -⟩ | ⟨-, hunmarked⟩⟩ := h
  · rw [hs] at ht
    cases ht
  · exact ⟨hmarking, hmarks⟩
  · rw [hunmarked] at ht
    cases ht

end EntryChange

theorem firstUnmarked_rewrite_self (l : List PermissionEntry) (x : String) (pMask dMask : UInt8) :
    FirstUnmarked (replaceKey PermissionEntry.id x (PermissionEntry.rewrite pMask dMask) l) x := by
  intro t ht
  rw [find?_replaceKey_self (PermissionEntry.id_rewrite pMask dMask)] at ht
  obtain ⟨e, -, rfl⟩ := Option.mem_map.mp ht
  rfl

theorem FirstUnmarked.rewrite {l : List PermissionEntry} {y : String} (h : FirstUnmarked l y) (x : String)
    (pMask dMask : UInt8) :
    FirstUnmarked (replaceKey PermissionEntry.id x (PermissionEntry.rewrite pMask dMask) l) y := by
  by_cases hxy : y = x
  · subst hxy
    exact firstUnmarked_rewrite_self l y pMask dMask
  · intro t ht
    rw [find?_replaceKey_of_ne (PermissionEntry.id_rewrite pMask dMask) hxy] at ht
    exact h t ht

/-- `MarkPermissionEntriesForDeletion`, if it runs, marks each entry as `EntryChange` allows. -/
theorem forall₂_entryChange_marked (identity : UInt8) (append : Bool) (store : PermissionStore) :
    List.Forall₂ (EntryChange identity (!append)) store.permissionsList
      (if append then store else store.markPermissionEntriesForDeletion identity).permissionsList := by
  cases append with
  | true => exact List.forall₂_same.2 fun s _ => EntryChange.refl s
  | false =>
    refine List.forall₂_map_right_iff.2 (List.forall₂_same.2 fun s _ => ?_)
    by_cases hmarks : MarksEntry identity s.dMask
    · rw [if_pos hmarks]
      exact ⟨rfl, .inr (.inl ⟨rfl, hmarks, rfl⟩)⟩
    · rw [if_neg hmarks]
      exact EntryChange.refl s

section Loop

variable (tr : String → Option String) (identity : UInt8) (marking : Bool)

/-- What the `<Permission>` loop keeps, relative to the store `old` the packet started
from, once the nodes `done` are applied: the entries are the old positions `M`, each
related to its old entry by `EntryChange`, followed by added entries `A` with distinct
ids; and the first entry among the old positions for an id that a done node names, of
valid size, is not marked. -/
def LoopInvariant (old store : PermissionStore) (done : List PermissionNode) : Prop :=
  ∃ M A, store.permissionsList = M ++ A ∧
    List.Forall₂ (EntryChange identity marking) old.permissionsList M ∧
    (∀ a ∈ A, AddedEntry identity old a) ∧ (A.map (·.id)).Nodup ∧
    ∀ node ∈ done, ∀ x, inputPermissionId tr node = some x → IdSizeValid x → FirstUnmarked M x

variable {tr identity marking}

/-- **One turn of the loop keeps the invariant.** -/
theorem LoopInvariant.step {old store store' : PermissionStore} {done : List PermissionNode}
    {node : PermissionNode} {result : String × EfiStatus}
    (hold : ∀ s ∈ old.permissionsList, s.markedForDeletion = false)
    (hdef : identity &&& store.defaultDMask ≠ 0 → identity &&& old.defaultDMask ≠ 0)
    (hinv : LoopInvariant tr identity marking old store done)
    (h : applyPermissionEntry tr identity node store = .ok (store', result)) :
    LoopInvariant tr identity marking old store' (done ++ [node]) := by
  obtain ⟨M, A, hstore, hM, hA, hAnodup, hdone⟩ := hinv
  obtain ⟨input, hinput, hcase⟩ := applyPermissionEntry_ok h
  -- the node just applied names the input's id
  have hnode : ∀ x, inputPermissionId tr node = some x → x = input.id := by
    intro x hx
    rw [inputPermissionId_of_getInputPermission hinput] at hx
    exact (Option.some.inj hx).symm
  rcases hcase with ⟨e, hfind, hauth, rfl⟩ | ⟨hsame, hdenied⟩ | ⟨hnone, hdefauth, hvalid, dMask, rfl⟩
  · rw [findPermissionEntry_eq_some, hstore, List.find?_append] at hfind
    cases hfirst : M.find? (·.id = input.id) with
    | some e' =>
      -- the rewritten entry stands at an old position
      rw [hfirst, Option.some_or] at hfind
      obtain ⟨-, hfind⟩ := hfind
      cases hfind
      refine ⟨replaceKey PermissionEntry.id input.id (PermissionEntry.rewrite input.pMask input.dMask) M,
        A, ?_, forall₂_replaceKey hM hfirst fun s hs => hs.rewrite hauth _ _, hA, hAnodup, ?_⟩
      · show replaceKey _ _ _ store.permissionsList = _
        rw [hstore, replaceKey_append_of_mem]
        exact ⟨_, List.mem_of_find?_eq_some hfirst, by simpa using List.find?_some hfirst⟩
      · intro n hn x hx hxv
        rcases List.mem_append.mp hn with hn | hn
        · exact (hdone n hn x hx hxv).rewrite _ _ _
        · rw [List.mem_singleton] at hn
          subst hn
          rw [hnode x hx]
          exact firstUnmarked_rewrite_self _ _ _ _
    | none =>
      -- the rewritten entry is an added one
      have hnotM : ∀ a ∈ M, a.id ≠ input.id := by
        intro a ha hax
        exact List.find?_eq_none.mp hfirst a ha (by simpa using hax)
      refine ⟨M, replaceKey PermissionEntry.id input.id (PermissionEntry.rewrite input.pMask input.dMask) A,
        ?_, hM, ?_, ?_, ?_⟩
      · show replaceKey _ _ _ store.permissionsList = _
        rw [hstore, replaceKey_append_of_not_mem _ hnotM]
      · exact forall_mem_replaceKey hA fun a _ ha => ⟨ha.1, ha.2.1, rfl, ha.2.2.2⟩
      · rwa [map_key_replaceKey (PermissionEntry.id_rewrite input.pMask input.dMask)]
      · intro n hn x hx hxv
        rcases List.mem_append.mp hn with hn | hn
        · exact hdone n hn x hx hxv
        · rw [List.mem_singleton] at hn
          subst hn
          rw [hnode x hx]
          intro t ht
          rw [hfirst] at ht
          cases ht
  · rw [hsame]
    refine ⟨M, A, hstore, hM, hA, hAnodup, ?_⟩
    intro n hn x hx hxv
    rcases List.mem_append.mp hn with hn | hn
    · exact hdone n hn x hx hxv
    · rw [List.mem_singleton] at hn
      subst hn
      rw [hnode x hx] at hxv ⊢
      intro t ht
      -- `FindPermissionEntry` returned `t`, and the signer was denied
      have htfind : store.findPermissionEntry input.id = some t := by
        rw [findPermissionEntry_eq_some, hstore, List.find?_append, Option.mem_def.mp ht, Option.some_or]
        exact ⟨hxv, rfl⟩
      obtain ⟨s, hs, hsfind⟩ := forall₂_find?_key_right (fun _ _ h => h.1) hM (Option.mem_def.mp ht)
      exact hs.unmarked_of_denied (hold s (List.mem_of_find?_eq_some hsfind)) (hdenied t htfind)
  · have hfresh := ne_of_findPermissionEntry_eq_none hvalid hnone
    rw [hstore] at hfresh
    refine ⟨M, A ++ [⟨input.id, input.pMask, dMask, false⟩], by rw [hstore, List.append_assoc], hM,
      ?_, ?_, ?_⟩
    · intro a ha
      rcases List.mem_append.mp ha with ha | ha
      · exact hA a ha
      · rw [List.mem_singleton] at ha
        subst ha
        refine ⟨?_, hvalid, rfl, hdef hdefauth⟩
        rw [← forall₂_map_key (fun _ _ h => h.1) hM]
        intro hmem
        obtain ⟨t, ht, htx⟩ := List.mem_map.mp hmem
        exact hfresh t (List.mem_append_left _ ht) htx
    · rw [List.map_append, List.nodup_append]
      refine ⟨hAnodup, List.nodup_singleton _, ?_⟩
      intro x hx y hy hxy
      obtain ⟨a, ha, rfl⟩ := List.mem_map.mp hx
      rw [List.map_singleton, List.mem_singleton] at hy
      subst hy
      exact hfresh a (List.mem_append_right _ ha) hxy
    · intro n hn x hx hxv
      rcases List.mem_append.mp hn with hn | hn
      · exact hdone n hn x hx hxv
      · rw [List.mem_singleton] at hn
        subst hn
        rw [hnode x hx]
        intro t ht
        have htmem := List.mem_of_find?_eq_some (Option.mem_def.mp ht)
        exact absurd (by simpa using List.find?_some (Option.mem_def.mp ht))
          (hfresh t (List.mem_append_left _ htmem))

/-- **The whole loop keeps the invariant**, by induction over the `<Permission>` nodes. -/
theorem LoopInvariant.run {old store store' : PermissionStore} {done nodes : List PermissionNode}
    {results : List (String × EfiStatus)}
    (hold : ∀ s ∈ old.permissionsList, s.markedForDeletion = false)
    (hdef : identity &&& store.defaultDMask ≠ 0 → identity &&& old.defaultDMask ≠ 0)
    (hinv : LoopInvariant tr identity marking old store done)
    (h : applyPermissionEntries tr identity nodes store = .ok (store', results)) :
    LoopInvariant tr identity marking old store' (done ++ nodes) := by
  induction nodes generalizing store done results with
  | nil =>
    simp only [applyPermissionEntries, pure_eq_ok_iff, Prod.mk.injEq] at h
    rw [← h.1, List.append_nil]
    exact hinv
  | cons node nodes ih =>
    simp only [applyPermissionEntries, bind_eq_ok_iff, pure_eq_ok_iff] at h
    obtain ⟨⟨store₁, result⟩, h₁, ⟨store₂, results₂⟩, h₂, heq⟩ := h
    cases heq
    -- one turn keeps the default delegated mask, so `hdef` carries over
    have hdef₁ : identity &&& store₁.defaultDMask ≠ 0 → identity &&& old.defaultDMask ≠ 0 := by
      rw [applyPermissionEntry_frame h₁]
      exact hdef
    rw [← List.singleton_append, ← List.append_assoc]
    exact ih hdef₁ (hinv.step hold hdef h₁) h₂

end Loop

/-! ### A successful packet -/

section Packet

variable {tr : String → Option String} {identity : UInt8} {v1Mode : Bool}
  {payload : Option PermissionsPacketNode} {old new : PermissionStore}
  {results : List (String × EfiStatus)}

/-- The default masks of a successful packet's store, against the old ones. -/
theorem applyPermissionsInXml_defaults
    (h : applyPermissionsInXml tr identity v1Mode payload old = .ok (new, results)) :
    (new.defaultPMask = old.defaultPMask ∧ new.defaultDMask = old.defaultDMask) ∨
      identity &&& old.defaultDMask ≠ 0 := by
  obtain ⟨packet, version, lsv, list, append, marked, defaulted, -, -, -, -, -, -, -, -, -, -, rfl,
    hdefault, looped, hloop, rfl⟩ := applyPermissionsInXml_ok h
  have hframe := applyPermissionEntries_frame hloop
  rcases applyDefaultPermission_ok hdefault with rfl | ⟨hauth, -⟩
  · left
    rw [hframe]
    cases append <;> exact ⟨rfl, rfl⟩
  · right
    cases append <;> exact hauth

/-- A successful packet read against the store it started from: the packet's list, and the
loop invariant over all of its nodes, with the sweep of the marked entries after it. -/
theorem applyPermissionsInXml_invariant (hold : ∀ s ∈ old.permissionsList, s.markedForDeletion = false)
    (h : applyPermissionsInXml tr identity v1Mode payload old = .ok (new, results)) :
    ∃ packet list append looped, payload = some packet ∧ packet.permissionsList = some list ∧
      permissionListEntriesAppend list = .ok append ∧
      LoopInvariant tr identity (!append) old looped list.permissions ∧
      new = looped.deleteMarkedPermissionEntries := by
  obtain ⟨packet, version, lsv, list, append, marked, defaulted, hpayload, -, -, -, -, -, -, hlist,
    happend, -, rfl, hdefault, looped, hloop, rfl⟩ := applyPermissionsInXml_ok h
  -- the default step sets the default masks only, with authority over the old ones
  have hstart : LoopInvariant tr identity (!append) old defaulted [] ∧
      (identity &&& defaulted.defaultDMask ≠ 0 → identity &&& old.defaultDMask ≠ 0) := by
    have hlist₀ : defaulted.permissionsList =
        (if append then old else old.markPermissionEntriesForDeletion identity).permissionsList := by
      rcases applyDefaultPermission_ok hdefault with rfl | ⟨-, pMask, dMask, rfl⟩ <;> rfl
    refine ⟨⟨_, [], by rw [hlist₀, List.append_nil], forall₂_entryChange_marked identity append old,
      by simp, List.nodup_nil, by simp⟩, ?_⟩
    rcases applyDefaultPermission_ok hdefault with rfl | ⟨hauth, -⟩
    · cases append <;> exact id
    · cases append <;> exact fun _ => hauth
  refine ⟨packet, list, append, looped, hpayload, hlist, happend, ?_, rfl⟩
  exact hstart.1.run hold hstart.2 hloop

/-- The entries of the swept store: the old positions left unmarked, then the added ones. -/
theorem permissionsList_deleteMarked {M A : List PermissionEntry} {store : PermissionStore} {old : PermissionStore}
    (hstore : store.permissionsList = M ++ A) (hA : ∀ a ∈ A, AddedEntry identity old a) :
    store.deleteMarkedPermissionEntries.permissionsList = M.filter (!·.markedForDeletion) ++ A := by
  have hkept : A.filter (!·.markedForDeletion) = A :=
    List.filter_eq_self.2 fun a ha => by simp [(hA a ha).2.2.1]
  show store.permissionsList.filter (!·.markedForDeletion) = _
  rw [hstore, List.filter_append, hkept]

/-- **A setting's effective masks change only with the signer's authority over them.** -/
theorem applyPermissionsInXml_effective_changed
    (hold : ∀ s ∈ old.permissionsList, s.markedForDeletion = false)
    (h : applyPermissionsInXml tr identity v1Mode payload old = .ok (new, results)) (x : String)
    (hne : new.effective x ≠ old.effective x) : identity &&& (old.effective x).2 ≠ 0 := by
  obtain ⟨packet, list, append, looped, -, -, -, ⟨M, A, hstore, hM, hA, -, -⟩, rfl⟩ :=
    applyPermissionsInXml_invariant hold h
  have hnew := permissionsList_deleteMarked hstore hA
  unfold effective at hne ⊢
  cases hs : old.permissionsList.find? (·.id = x) with
  | some s =>
    simp only [hs] at hne ⊢
    intro hzero
    -- without authority the first entry for `x` is untouched, and still first
    obtain ⟨t, hst, hfilter⟩ := forall₂_find?_key_filter (fun _ _ h => h.1) hM (!·.markedForDeletion) hs
    obtain rfl := hst.eq_of_not_authority hzero
    have hfind := hfilter (by simp [hold t (List.mem_of_find?_eq_some hs)])
    apply hne
    rw [hnew, List.find?_append, hfind, Option.some_or]
  | none =>
    simp only [hs] at hne ⊢
    -- no old position holds `x`, so the first entry for it, if any, was added
    have hnotM : (M.filter (!·.markedForDeletion)).find? (·.id = x) = none := by
      rw [List.find?_eq_none]
      intro t ht htx
      have hmem : t.id ∈ old.permissionsList.map (·.id) := by
        rw [← forall₂_map_key (fun _ _ h => h.1) hM]
        exact List.mem_map_of_mem (List.mem_filter.mp ht).1
      obtain ⟨s, hsmem, hsx⟩ := List.mem_map.mp hmem
      exact List.find?_eq_none.mp hs s hsmem (by simpa [hsx] using htx)
    rw [hnew, List.find?_append, hnotM, Option.none_or] at hne
    cases ha : A.find? (·.id = x) with
    | some a => exact (hA a (List.mem_of_find?_eq_some ha)).2.2.2
    | none =>
      rw [ha] at hne
      dsimp only at hne
      rcases applyPermissionsInXml_defaults h with ⟨hp, hd⟩ | hauth
      · exact (hne (by rw [hp, hd])).elim
      · exact hauth

/-- **The default masks change only with the signer in the default delegated mask.** -/
theorem applyPermissionsInXml_defaults_changed
    (h : applyPermissionsInXml tr identity v1Mode payload old = .ok (new, results))
    (hne : (new.defaultPMask, new.defaultDMask) ≠ (old.defaultPMask, old.defaultDMask)) :
    identity &&& old.defaultDMask ≠ 0 := by
  rcases applyPermissionsInXml_defaults h with ⟨hp, hd⟩ | hauth
  · exact absurd (by rw [hp, hd]) hne
  · exact hauth

/-- **In a well-formed store, an entry disappears only if** the signer, a single identity, is
its highest delegated identity, the list is not appended, and the packet does not list its
id. -/
theorem applyPermissionsInXml_entry_deleted (hold : old.WellFormed) (hi : identity ∈ dfciIdentityBits)
    (h : applyPermissionsInXml tr identity v1Mode payload old = .ok (new, results))
    {s : PermissionEntry} (hs : s ∈ old.permissionsList)
    (hgone : s.id ∉ new.permissionsList.map (·.id)) :
    identity = highestIdentity s.dMask ∧ ∃ packet list, payload = some packet ∧
      packet.permissionsList = some list ∧ permissionListEntriesAppend list = .ok false ∧
      ∀ node ∈ list.permissions, inputPermissionId tr node ≠ some s.id := by
  obtain ⟨packet, list, append, looped, hpayload, hlist, happend, ⟨M, A, hstore, hM, hA, -, hdone⟩,
    rfl⟩ := applyPermissionsInXml_invariant hold.unmarked h
  -- with distinct ids, `s`'s id finds the entry at `s`'s position
  obtain ⟨t, hst, htfind⟩ := forall₂_find?_key_of_nodup (fun _ _ h => h.1) hM hold.idsNodup hs
  have htmarked : t.markedForDeletion = true := by
    by_contra hkeep
    apply hgone
    rw [permissionsList_deleteMarked hstore hA, List.mem_map]
    refine ⟨t, List.mem_append_left _ (List.mem_filter.2 ⟨List.mem_of_find?_eq_some htfind, ?_⟩), hst.1⟩
    simpa using hkeep
  obtain ⟨hmarking, hmarks⟩ := hst.marked (hold.unmarked s hs) htmarked
  refine ⟨hmarks.eq_highestIdentity hi, packet, list, hpayload, hlist, ?_, ?_⟩
  · rw [Bool.not_eq_true'] at hmarking
    rwa [← hmarking]
  · intro node hnode hid
    have hunmarked := hdone node hnode s.id hid (hold.idSizeValid s hs) t htfind
    rw [htmarked] at hunmarked
    cases hunmarked

/-- **A successful packet keeps the store well formed.** -/
theorem applyPermissionsInXml_wellFormed (hold : old.WellFormed)
    (h : applyPermissionsInXml tr identity v1Mode payload old = .ok (new, results)) : new.WellFormed := by
  obtain ⟨packet, list, append, looped, -, -, -, ⟨M, A, hstore, hM, hA, hAnodup, -⟩, rfl⟩ :=
    applyPermissionsInXml_invariant hold.unmarked h
  have hnew := permissionsList_deleteMarked hstore hA
  -- the old positions keep the old ids
  have hMid : ∀ e ∈ M, e.id ∈ old.permissionsList.map (·.id) := by
    intro e he
    rw [← forall₂_map_key (fun _ _ h => h.1) hM]
    exact List.mem_map_of_mem he
  refine ⟨?_, ?_, ?_⟩
  · intro e he
    rw [hnew] at he
    rcases List.mem_append.mp he with he | he
    · simpa using (List.mem_filter.mp he).2
    · exact (hA e he).2.2.1
  · intro e he
    rw [hnew] at he
    rcases List.mem_append.mp he with he | he
    · obtain ⟨s, hs, hse⟩ := List.mem_map.mp (hMid e (List.mem_filter.mp he).1)
      rw [← hse]
      exact hold.idSizeValid s hs
    · exact (hA e he).2.1
  · rw [hnew, List.map_append, List.nodup_append]
    have hids : M.map (·.id) = old.permissionsList.map (·.id) := forall₂_map_key (fun _ _ h => h.1) hM
    refine ⟨List.Nodup.sublist (List.filter_sublist.map _) (hids ▸ hold.idsNodup), hAnodup, ?_⟩
    · intro x hx y hy hxy
      obtain ⟨e, he, rfl⟩ := List.mem_map.mp hx
      obtain ⟨a, ha, rfl⟩ := List.mem_map.mp hy
      exact (hA a ha).1 (hxy ▸ hMid e (List.mem_filter.mp he).1)

/-- **A packet acts within the signer's delegated authority.** For a well-formed store and a
signer that is one identity: a setting's effective masks change only if the signer is in
its delegated mask (its entry's, or the default one); the default masks change only if the
signer is in the default delegated mask; and an entry whose id the new store no longer has
was one whose highest delegated identity is the signer, in a list not appended, whose
`<Permission>` elements do not name it. -/
theorem applyPermissionsInXml_respects_delegation {tr : String → Option String} {identity : UInt8}
    {v1Mode : Bool} {payload : Option PermissionsPacketNode} {old new : PermissionStore}
    {results : List (String × EfiStatus)} (hold : old.WellFormed) (hi : identity ∈ dfciIdentityBits)
    (h : applyPermissionsInXml tr identity v1Mode payload old = .ok (new, results)) :
    (∀ x, new.effective x ≠ old.effective x → identity &&& (old.effective x).2 ≠ 0) ∧
    ((new.defaultPMask, new.defaultDMask) ≠ (old.defaultPMask, old.defaultDMask) →
      identity &&& old.defaultDMask ≠ 0) ∧
    ∀ s ∈ old.permissionsList, s.id ∉ new.permissionsList.map (·.id) →
      identity = highestIdentity s.dMask ∧ ∃ packet list, payload = some packet ∧
        packet.permissionsList = some list ∧ permissionListEntriesAppend list = .ok false ∧
        ∀ node ∈ list.permissions, inputPermissionId tr node ≠ some s.id := by
  refine ⟨?_, ?_, ?_⟩
  · intro x hne
    exact applyPermissionsInXml_effective_changed hold.unmarked h x hne
  · intro hne
    exact applyPermissionsInXml_defaults_changed h hne
  · intro s hs hgone
    exact applyPermissionsInXml_entry_deleted hold hi h hs hgone

/-- A store the owner provisioned: the camera and audio settings, delegated to the owner. -/
def ownerStore : PermissionStore :=
  ⟨false, 1, 1, 0x01, dfciIdentitySignerOwner,
    [⟨"Dfci.OnboardCameras.Enable", 0x80, 0x80, false⟩, ⟨"Dfci.OnboardAudio.Enable", 0x80, 0x80, false⟩]⟩

/-- An owner packet of version 2 that replaces the owner's permissions by one for the cameras. -/
def ownerRepacket : PermissionsPacketNode :=
  ⟨some 2, some 1, some ⟨some "False", none, none, [⟨some "Dfci.OnboardCameras.Enable", some 1, none⟩]⟩⟩

/-- The store after `ownerRepacket`: the audio entry, no longer listed, is deleted. -/
def ownerRepacketStore : PermissionStore :=
  ⟨false, 2, 1, 0x01, dfciIdentitySignerOwner, [⟨"Dfci.OnboardCameras.Enable", 0x01, 0x80, false⟩]⟩

theorem ownerStore_wellFormed : ownerStore.WellFormed := ⟨by decide, by decide, by decide⟩

theorem applyPermissionsInXml_ownerRepacket :
    applyPermissionsInXml (fun _ => none) dfciIdentitySignerOwner false (some ownerRepacket) ownerStore =
      .ok (ownerRepacketStore, [("Dfci.OnboardCameras.Enable", .success)]) := by
  decide

theorem ownerRepacket_respects_delegation :
    ownerStore.WellFormed ∧
    (∀ x, ownerRepacketStore.effective x ≠ ownerStore.effective x →
      dfciIdentitySignerOwner &&& (ownerStore.effective x).2 ≠ 0) ∧
    ((ownerRepacketStore.defaultPMask, ownerRepacketStore.defaultDMask) ≠
        (ownerStore.defaultPMask, ownerStore.defaultDMask) →
      dfciIdentitySignerOwner &&& ownerStore.defaultDMask ≠ 0) ∧
    ∀ s ∈ ownerStore.permissionsList, s.id ∉ ownerRepacketStore.permissionsList.map (·.id) →
      dfciIdentitySignerOwner = highestIdentity s.dMask ∧ ∃ packet list, some ownerRepacket = some packet ∧
        packet.permissionsList = some list ∧ permissionListEntriesAppend list = .ok false ∧
        ∀ node ∈ list.permissions, inputPermissionId (fun _ => none) node ≠ some s.id :=
  ⟨ownerStore_wellFormed,
    applyPermissionsInXml_respects_delegation ownerStore_wellFormed (by decide) applyPermissionsInXml_ownerRepacket⟩

/-- The owner's version-2 packet keeps the owner's store well formed. -/
theorem applyPermissionsInXml_wellFormed_ownerRepacket :
    ownerStore.WellFormed ∧
      applyPermissionsInXml (fun _ => none) dfciIdentitySignerOwner false (some ownerRepacket) ownerStore =
        .ok (ownerRepacketStore, [("Dfci.OnboardCameras.Enable", .success)]) ∧
      ownerRepacketStore.WellFormed :=
  ⟨ownerStore_wellFormed, applyPermissionsInXml_ownerRepacket,
    applyPermissionsInXml_wellFormed ownerStore_wellFormed applyPermissionsInXml_ownerRepacket⟩

/-- A store with two entries for the cameras, both under the owner's delegation; the second
also delegates to the user. -/
def duplicateStore : PermissionStore :=
  ⟨false, 1, 1, 0x01, dfciIdentitySignerOwner,
    [⟨"Dfci.OnboardCameras.Enable", 0x80, 0x80, false⟩, ⟨"Dfci.OnboardCameras.Enable", 0x81, 0xC0, false⟩]⟩

/-- With a duplicated id, the owner's packet rewrites and keeps the first camera entry only:
the second, marked like the first, is deleted although the packet lists the cameras. -/
theorem duplicate_entry_dropped_though_listed :
    applyPermissionsInXml (fun _ => none) dfciIdentitySignerOwner false (some ownerRepacket) duplicateStore =
      .ok (ownerRepacketStore, [("Dfci.OnboardCameras.Enable", .success)]) ∧
    (⟨"Dfci.OnboardCameras.Enable", 0x81, 0xC0, false⟩ : PermissionEntry) ∈ duplicateStore.permissionsList ∧
    (⟨"Dfci.OnboardCameras.Enable", 0x81, 0xC0, false⟩ : PermissionEntry) ∉ ownerRepacketStore.permissionsList ∧
    ∃ list, ownerRepacket.permissionsList = some list ∧
      ∃ node ∈ list.permissions, inputPermissionId (fun _ => none) node = some "Dfci.OnboardCameras.Enable" := by
  refine ⟨by decide, by decide, by decide, ?_⟩
  exact ⟨_, rfl, ⟨some "Dfci.OnboardCameras.Enable", some 1, none⟩, by decide, by decide⟩

end Packet

end MuPlus.Dfci
