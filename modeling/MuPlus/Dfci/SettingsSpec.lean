import MuPlus.Dfci.Settings
import MuPlus.Lib.ExceptOk

/-!
# MuPlus.Dfci.SettingsSpec

**What a settings packet can do to the providers and to `_SMID`.**

* `settingsBootSequence_lsv_le_and_permitted` — no sequence of boots lowers the committed
  `LSV` (`settingsBootSequence_committedLsv_le`: the record written holds the larger of the old
  `LSV` and the packet's, and a record that does not load counts as `LSV` 0), and every change
  to the providers is a permitted write (`settingsBootSequence_permitted`, below).
* `settingsBoot_below_lsv` — a boot whose packets are below the committed `LSV` changes
  nothing, neither a provider nor `_SMID`.
* `settingsBootSequence_permitted` — every change to the providers is a chain of writes, each
  made through `InternalSystemSettingAccessSet` for an id that `HasWritePermissions` grants
  to the identity one of the boot's packets authenticated as (`PermittedWrite`).
* `applyNewSettingsPacket_commits` — the record is not guarded that way: an authenticated
  packet commits its `Version` and `LSV` whatever the identity may write, the unsigned local
  identity of a packet without a signature included.
-/

namespace MuPlus.Dfci

open ExceptOk

/-! ### The version record -/

/-- A successful `ApplySettings` prefix, step by step: the record takes the packet's
`Version` and the larger of the two `LSV`s, and a raised `LSV` marks it modified. -/
theorem applySettingsVersion_ok {node : SettingsPacketNode} {data data' : SettingInternalData}
    {settings : List SettingNode} (h : applySettingsVersion node data = .ok (data', settings)) :
    ∃ version lsv, node.version = some version ∧ node.lsv = some lsv ∧
      node.settings = some settings ∧ version ≤ 0xFFFFFFFF ∧ data.lsv.toNat ≤ version ∧
      lsv ≤ version ∧ data'.currentVersion.toNat = version ∧
      data'.lsv.toNat = max data.lsv.toNat lsv ∧ (data'.modified = false → data'.lsv = data.lsv) := by
  unfold applySettingsVersion at h
  rcases hversion : node.version with _ | version
  · simp [hversion] at h
  simp only [hversion] at h
  by_cases hv₁ : 4294967295 < version
  · simp [hv₁] at h
  by_cases hv₂ : version < data.lsv.toNat
  · simp [hv₁, hv₂] at h
  rcases hlsv : node.lsv with _ | lsv
  · simp [hv₁, hv₂, hlsv] at h
  by_cases hl₁ : 4294967295 < lsv
  · simp [hv₁, hv₂, hlsv, hl₁] at h
  by_cases hl₂ : version < lsv
  · simp [hv₁, hv₂, hlsv, hl₁, hl₂] at h
  rcases hsettings : node.settings with _ | settings'
  · simp [hv₁, hv₂, hlsv, hl₁, hl₂, hsettings] at h
  simp only [hv₁, hv₂, hlsv, hl₁, hl₂, hsettings, ↓reduceIte, pure_eq_ok_iff] at h
  obtain ⟨rfl, rfl⟩ := Prod.mk.inj h
  clear h
  have hversion32 : version.toUInt32.toNat = version :=
    UInt32.toNat_ofNat_of_lt' (by rw [UInt32.size]; omega)
  have hlsv32 : lsv.toUInt32.toNat = lsv := UInt32.toNat_ofNat_of_lt' (by rw [UInt32.size]; omega)
  refine ⟨version, lsv, rfl, rfl, rfl, by omega, by omega, by omega, ?_, ?_, ?_⟩
  all_goals
    simp only [apply_ite SettingInternalData.currentVersion, apply_ite SettingInternalData.lsv,
      apply_ite SettingInternalData.modified, apply_ite UInt32.toNat, ite_self, hversion32, hlsv32]
  · -- the version is taken whether or not it differs
    split_ifs <;> omega
  · -- the LSV only when it is larger
    split_ifs <;> omega
  · -- and then the record is modified
    split_ifs <;> simp

/-- A packet whose `Version` is below the record's `LSV` fails with
`DFCI_PACKET_STATE_VERSION_ERROR`. -/
theorem applySettingsVersion_below_lsv {node : SettingsPacketNode} {data : SettingInternalData}
    {version : Nat} (hversion : node.version = some version) (hlt : version < data.lsv.toNat) :
    applySettingsVersion node data = .error (.versionError, .accessDenied) := by
  have hbound : data.lsv.toNat < 2 ^ 32 := data.lsv.toNat_lt
  have hv : ¬4294967295 < version := by omega
  simp only [applySettingsVersion, hversion, hv, hlt, if_true, if_false, throw_bind]
  rfl

/-- A `_SMID` that loads holds an `LSV` at most its version. -/
theorem smidLoadFromFlash_ok {var : Option InternalDataVar} {data : SettingInternalData}
    (h : smidLoadFromFlash var = .ok data) : data.lsv.toNat ≤ data.currentVersion.toNat := by
  unfold smidLoadFromFlash at h
  rcases var with _ | var
  · simp at h
  -- a failing check leaves through `EXIT`: `split_ifs` closes those branches
  simp only [throw_bind] at h
  split_ifs at h with h₁ h₂ h₃ h₄ h₅ h₆
  simp only [pure_eq_ok_iff] at h
  subst h
  rw [UInt32.lt_iff_toNat_lt] at h₆
  show var.lowestSupportedVersion.toNat ≤ var.version.toNat
  omega

/-- A record that `SMID_SaveToFlash` wrote loads back. -/
theorem smidLoadFromFlash_saved {data : SettingInternalData}
    (h : data.lsv.toNat ≤ data.currentVersion.toNat) :
    smidLoadFromFlash (some ⟨smidVarSize, dfciInternalVarAttributes, smidHeaderSignature, 1,
      data.currentVersion, data.lsv⟩) = .ok ⟨data.currentVersion, data.lsv, false⟩ := by
  have hlt : ¬data.currentVersion < data.lsv := by
    rw [UInt32.lt_iff_toNat_lt]
    omega
  simp [smidLoadFromFlash, smidVarSize, smidMinVarSize, hlt]

/-- After `SMID_SaveToFlash` of a record whose `LSV` is at most its version, the committed
`LSV` is the record's, unless nothing was written. -/
theorem committedLsv_smidSaveToFlash (writeStatus : EfiStatus) {data : SettingInternalData}
    (var : Option InternalDataVar) (h : data.lsv.toNat ≤ data.currentVersion.toNat) :
    (smidSaveToFlash writeStatus data var).2 = var ∨
      committedLsv (smidSaveToFlash writeStatus data var).2 = data.lsv := by
  unfold smidSaveToFlash
  split_ifs
  · exact .inl rfl
  · exact .inl rfl
  · right
    simp only [committedLsv, smidLoadOrInit, smidLoadFromFlash_saved h]

/-! ### One packet -/

section Packet

variable {platform : SettingsPlatform} {env : SettingsEnv} {identity : UInt8}

/-- A successful `ApplySettings` returns the record its checks left. -/
theorem applySettings_ok {payload : Option SettingsPacketNode} {data data' : SettingInternalData}
    {providers providers' : List DfciSettingProvider}
    (h : applySettings platform env identity payload data providers = (providers', .ok data')) :
    ∃ node settings, payload = some node ∧ applySettingsVersion node data = .ok (data', settings) := by
  unfold applySettings at h
  rcases payload with _ | node
  · simp at h
  rcases hversion : applySettingsVersion node data with e | ⟨data'', settings⟩
  · simp [hversion] at h
  simp only [hversion] at h
  -- the loop's result only decides whether the record is returned
  rcases hloop : applySettingsList platform env identity settings providers with ⟨looped, result⟩
  rw [hloop] at h
  cases result with
  | error e => simp [Except.map] at h
  | ok u =>
      simp only [Except.map, Prod.mk.injEq, Except.ok.injEq] at h
      obtain ⟨-, rfl⟩ := h
      exact ⟨node, settings, rfl, hversion⟩

/-- A packet whose `Version` is below the record's `LSV` sets no setting. -/
theorem applySettings_below_lsv {node : SettingsPacketNode} {data : SettingInternalData}
    {version : Nat} (providers : List DfciSettingProvider) (hversion : node.version = some version)
    (hlt : version < data.lsv.toNat) :
    applySettings platform env identity (some node) data providers =
      (providers, .error (.versionError, .accessDenied)) := by
  simp only [applySettings, applySettingsVersion_below_lsv hversion hlt]

/-- The settings loop over `<Setting>` elements that all have an `<Id>` and a `<Value>`
succeeds, whatever each setting's status. -/
theorem applySettingsList_ok {nodes : List SettingNode} (providers : List DfciSettingProvider)
    (hnodes : ∀ node ∈ nodes, node.id.isSome ∧ node.value.isSome) :
    (applySettingsList platform env identity nodes providers).2 = .ok () := by
  induction nodes generalizing providers with
  | nil => rfl
  | cons node rest ih =>
      obtain ⟨hid, hvalue⟩ := hnodes node List.mem_cons_self
      obtain ⟨id, hid⟩ := Option.isSome_iff_exists.mp hid
      obtain ⟨value, hvalue⟩ := Option.isSome_iff_exists.mp hvalue
      have hinput : getInputSettings node = .ok (id, value) := by
        simp only [getInputSettings, hid, hvalue]
        rfl
      simp only [applySettingsList, hinput]
      exact ih _ fun n hn => hnodes n (List.mem_cons_of_mem _ hn)

/-- What `ApplyNewSettingsPacket` does to `_SMID`: nothing, or the write of the record of an
authenticated packet's successful `ApplySettings`. -/
theorem applyNewSettingsPacket_smid (writeStatus : EfiStatus) (packet : SettingsPacket)
    (s : SettingsState) :
    (applyNewSettingsPacket platform env writeStatus packet s).smid = s.smid ∨
      ∃ identity providers data, checkAuthAndGetToken env packet.signature = .ok identity ∧
        applySettings platform env identity packet.payload (smidLoadOrInit s.smid) s.providers =
          (providers, .ok data) ∧
        (applyNewSettingsPacket platform env writeStatus packet s).smid =
          (smidSaveToFlash writeStatus data s.smid).2 := by
  unfold applyNewSettingsPacket
  split_ifs
  · exact .inl rfl
  · split
    · exact .inl rfl
    · next identity hauth =>
        split
        · exact .inl rfl
        · next providers data happly => exact .inr ⟨identity, providers, data, hauth, happly, rfl⟩

/-- No packet lowers the committed `LSV`. -/
theorem applyNewSettingsPacket_committedLsv_le (writeStatus : EfiStatus) (packet : SettingsPacket)
    (s : SettingsState) :
    committedLsv s.smid ≤ committedLsv (applyNewSettingsPacket platform env writeStatus packet s).smid := by
  rcases applyNewSettingsPacket_smid writeStatus packet s with
    hsmid | ⟨identity, providers, data, -, happly, hsmid⟩
  · rw [hsmid]
    exact UInt32.le_refl _
  obtain ⟨node, settings, -, hversion⟩ := applySettings_ok happly
  obtain ⟨version, lsv, -, -, -, -, hle, hlv, hcurrent, hraised, -⟩ := applySettingsVersion_ok hversion
  -- the record written holds the larger `LSV`, and that is at most its version
  have hdata : data.lsv.toNat ≤ data.currentVersion.toNat := by omega
  rw [hsmid]
  rcases committedLsv_smidSaveToFlash writeStatus s.smid hdata with hsame | hcommit
  · rw [hsame]
    exact UInt32.le_refl _
  · rw [hcommit, UInt32.le_iff_toNat_le, hraised]
    exact Nat.le_max_left _ _

/-- A packet whose `Version` is below the committed `LSV` changes nothing. -/
theorem applyNewSettingsPacket_below_lsv (writeStatus : EfiStatus) {packet : SettingsPacket}
    {s : SettingsState} {node : SettingsPacketNode} {version : Nat}
    (hpayload : packet.payload = some node) (hversion : node.version = some version)
    (hlt : version < (committedLsv s.smid).toNat) :
    applyNewSettingsPacket platform env writeStatus packet s = s := by
  unfold applyNewSettingsPacket
  split_ifs
  · rfl
  · split
    · rfl
    · rw [hpayload, applySettings_below_lsv s.providers hversion hlt]

/-- The checks of `ApplySettings` pass for a packet whose versions are in range. -/
theorem applySettingsVersion_of_le {node : SettingsPacketNode} (data : SettingInternalData)
    {version lsv : Nat} {settings : List SettingNode} (hversion : node.version = some version)
    (hlsv : node.lsv = some lsv) (hsettings : node.settings = some settings)
    (hbound : version ≤ 0xFFFFFFFF) (hdata : data.lsv.toNat ≤ version) (hlv : lsv ≤ version) :
    ∃ data', applySettingsVersion node data = .ok (data', settings) := by
  have hv₁ : ¬4294967295 < version := by omega
  have hv₂ : ¬version < data.lsv.toNat := by omega
  have hl₁ : ¬4294967295 < lsv := by omega
  have hl₂ : ¬version < lsv := by omega
  simp only [applySettingsVersion, hversion, hlsv, hsettings, hv₁, hv₂, hl₁, hl₂, ↓reduceIte]
  exact ⟨_, rfl⟩

/-- An authenticated packet whose versions pass the checks and whose `<Setting>` elements all
have an `<Id>` and a `<Value>` commits its `LowestSupportedVersion` when it is larger,
whatever the identity it authenticated as may write: the record is taken before any
setting's permission is asked. -/
theorem applyNewSettingsPacket_commits {packet : SettingsPacket} {s : SettingsState}
    {identity : UInt8} {node : SettingsPacketNode} {version lsv : Nat} {settings : List SettingNode}
    (hlayout : packet.layoutValid = true)
    (hauth : checkAuthAndGetToken env packet.signature = .ok identity)
    (hpayload : packet.payload = some node) (hversion : node.version = some version)
    (hlsv : node.lsv = some lsv) (hsettings : node.settings = some settings)
    (hnodes : ∀ n ∈ settings, n.id.isSome ∧ n.value.isSome) (hbound : version ≤ 0xFFFFFFFF)
    (hcommitted : (committedLsv s.smid).toNat ≤ version) (hlv : lsv ≤ version) :
    (committedLsv (applyNewSettingsPacket platform env .success packet s).smid).toNat =
      max (committedLsv s.smid).toNat lsv := by
  obtain ⟨data, hrecord⟩ := applySettingsVersion_of_le (smidLoadOrInit s.smid) hversion hlsv
    hsettings hbound hcommitted hlv
  obtain ⟨version', lsv', hversion', hlsv', -, -, hle, hlv', hcurrent, hraised, hkept⟩ :=
    applySettingsVersion_ok hrecord
  obtain rfl : version' = version := Option.some.inj (hversion'.symm.trans hversion)
  obtain rfl : lsv' = lsv := Option.some.inj (hlsv'.symm.trans hlsv)
  -- every `<Setting>` is well formed, so the packet succeeds whatever each setting's status
  have happly : applySettings platform env identity (some node) (smidLoadOrInit s.smid) s.providers =
      ((applySettingsList platform env identity settings s.providers).1, .ok data) := by
    simp only [applySettings, hrecord]
    rw [← Prod.eta (applySettingsList platform env identity settings s.providers),
      applySettingsList_ok s.providers hnodes]
    rfl
  have hsmid : (applyNewSettingsPacket platform env .success packet s).smid =
      (smidSaveToFlash .success data s.smid).2 := by
    simp only [applyNewSettingsPacket, hlayout, hauth, hpayload, happly, Bool.not_true,
      Bool.false_eq_true, ↓reduceIte]
  rw [hsmid]
  cases hmodified : data.modified with
  | false =>
      -- an unmodified record is not written, and its `LSV` was not raised
      have hsame : data.lsv = (smidLoadOrInit s.smid).lsv := hkept hmodified
      simp only [smidSaveToFlash, hmodified, Bool.not_false, ↓reduceIte]
      have hraised' := hraised
      rw [hsame] at hraised'
      exact hraised'
  | true =>
      have hdata : data.lsv.toNat ≤ data.currentVersion.toNat := by omega
      simp only [smidSaveToFlash, hmodified, Bool.not_true, Bool.false_eq_true, ↓reduceIte,
        EfiStatus.isError_success, committedLsv, smidLoadOrInit, smidLoadFromFlash_saved hdata]
      exact hraised

end Packet

/-! ### Every change of a provider is a permitted write -/

section Writes

variable (platform : SettingsPlatform) (env : SettingsEnv) (identity : UInt8)

/-- A write that `InternalSystemSettingAccessSet` lets through: `FindProviderById` found
`prov` for `id`, `HasWritePermissions` granted `identity` the id, and the provider's
`SetSettingValue` took a value and now holds `held`. -/
inductive PermittedWrite : List DfciSettingProvider → List DfciSettingProvider → Prop
  | write {providers : List DfciSettingProvider} {id : String} {prov : DfciSettingProvider}
      {value held : List UInt8} :
      findProviderById platform providers id = some prov →
      hasWritePermissions env.groups env.permStore id identity = true →
      platform.setSettingValue prov value = .ok held →
      PermittedWrite providers (setProviderValue providers prov.id held)

variable {platform env identity}

open Relation

theorem systemSettingAccessSetProvider_permitted (type : DfciSettingType) (value : List UInt8)
    {prov : DfciSettingProvider} {id : String} {providers : List DfciSettingProvider}
    (hprov : findProviderById platform providers id = some prov) :
    ReflTransGen (PermittedWrite platform env identity) providers
      (systemSettingAccessSetProvider platform env identity type value prov id providers).2 := by
  unfold systemSettingAccessSetProvider
  split_ifs with hdenied htype
  · exact .refl
  · exact .refl
  · split
    · exact .refl
    · next held hset =>
        have hperm : hasWritePermissions env.groups env.permStore id identity = true := by
          simpa using hdenied
        exact .single (.write hprov hperm hset)

theorem internalSystemSettingAccessSetRecurse_permitted (type : DfciSettingType) (value : List UInt8)
    (id : String) (providers : List DfciSettingProvider) :
    ReflTransGen (PermittedWrite platform env identity) providers
      (internalSystemSettingAccessSetRecurse platform env identity type value id providers).2 := by
  unfold internalSystemSettingAccessSetRecurse
  split
  · next prov hprov => exact systemSettingAccessSetProvider_permitted type value hprov
  · exact .refl

theorem internalSystemSettingAccessSetMembers_permitted (type : DfciSettingType)
    (value : List UInt8) (members : List String) (returnStatus : EfiStatus)
    (providers : List DfciSettingProvider) :
    ReflTransGen (PermittedWrite platform env identity) providers
      (internalSystemSettingAccessSetMembers platform env identity type value members returnStatus
        providers).2 := by
  induction members generalizing returnStatus providers with
  | nil => exact .refl
  | cons member rest ih =>
      -- the member's write, then the rest of the group from the providers it left
      have hmember : ReflTransGen (PermittedWrite platform env identity) providers
          (internalSystemSettingAccessSetRecurse platform env identity type value member providers).2 :=
        internalSystemSettingAccessSetRecurse_permitted type value member providers
      rcases hset : internalSystemSettingAccessSetRecurse platform env identity type value member
        providers with ⟨status, providers'⟩
      rw [hset] at hmember
      simp only [internalSystemSettingAccessSetMembers, hset]
      exact hmember.trans (ih _ _)

theorem internalSystemSettingAccessSet_permitted (type : DfciSettingType) (value : List UInt8)
    (id : String) (providers : List DfciSettingProvider) :
    ReflTransGen (PermittedWrite platform env identity) providers
      (internalSystemSettingAccessSet platform env identity type value id providers).2 := by
  unfold internalSystemSettingAccessSet
  split
  · next prov hprov => exact systemSettingAccessSetProvider_permitted type value hprov
  · split
    · exact .refl
    · exact internalSystemSettingAccessSetMembers_permitted type value _ _ providers

theorem setProviderValueFromAscii_permitted (prov : DfciSettingProvider) (value : String)
    (providers : List DfciSettingProvider) :
    ReflTransGen (PermittedWrite platform env identity) providers
      (setProviderValueFromAscii platform env identity prov value providers).2 := by
  unfold setProviderValueFromAscii
  split
  · exact .refl
  · exact internalSystemSettingAccessSet_permitted _ _ _ providers

theorem setIndividualSettings_permitted (prov : DfciSettingProvider) (value : Option String)
    (providers : List DfciSettingProvider) :
    ReflTransGen (PermittedWrite platform env identity) providers
      (setIndividualSettings platform env identity prov value providers).2 := by
  unfold setIndividualSettings
  cases value with
  | some value => exact setProviderValueFromAscii_permitted prov value providers
  | none =>
      split_ifs
      · exact setProviderValueFromAscii_permitted prov "" providers
      · exact .refl

theorem setSettingFromAsciiMembers_permitted (value : Option String) (members : List String)
    (returnStatus : EfiStatus) (providers : List DfciSettingProvider) :
    ReflTransGen (PermittedWrite platform env identity) providers
      (setSettingFromAsciiMembers platform env identity value members returnStatus providers).2 := by
  induction members generalizing returnStatus providers with
  | nil => exact .refl
  | cons member rest ih =>
      unfold setSettingFromAsciiMembers
      split
      · exact .refl
      · next prov hprov =>
          -- the member's write, then the rest of the group from the providers it left
          have hmember : ReflTransGen (PermittedWrite platform env identity) providers
              (setIndividualSettings platform env identity prov value providers).2 :=
            setIndividualSettings_permitted prov value providers
          rcases hset : setIndividualSettings platform env identity prov value providers with
            ⟨status, providers'⟩
          rw [hset] at hmember
          exact hmember.trans (ih _ _)

theorem setSettingFromAscii_permitted (id value : Option String)
    (providers : List DfciSettingProvider) :
    ReflTransGen (PermittedWrite platform env identity) providers
      (setSettingFromAscii platform env identity id value providers).2 := by
  unfold setSettingFromAscii
  split
  · exact .refl
  · split
    · next prov hprov => exact setIndividualSettings_permitted prov value providers
    · split
      · exact .refl
      · exact setSettingFromAsciiMembers_permitted value _ _ providers

theorem applySettingsList_permitted (nodes : List SettingNode) (providers : List DfciSettingProvider) :
    ReflTransGen (PermittedWrite platform env identity) providers
      (applySettingsList platform env identity nodes providers).1 := by
  induction nodes generalizing providers with
  | nil => exact .refl
  | cons node rest ih =>
      unfold applySettingsList
      split
      · exact .refl
      · next id value hinput =>
          exact (setSettingFromAscii_permitted id value providers).trans (ih _)

theorem applySettings_permitted (payload : Option SettingsPacketNode) (data : SettingInternalData)
    (providers : List DfciSettingProvider) :
    ReflTransGen (PermittedWrite platform env identity) providers
      (applySettings platform env identity payload data providers).1 := by
  unfold applySettings
  split
  · exact .refl
  · split
    · exact .refl
    · next data' settings hversion =>
        have hloop : ReflTransGen (PermittedWrite platform env identity) providers
            (applySettingsList platform env identity settings providers).1 :=
          applySettingsList_permitted settings providers
        rcases hrun : applySettingsList platform env identity settings providers with
          ⟨looped, result⟩
        rw [hrun] at hloop
        exact hloop

end Writes

/-- A write permitted to the identity a packet authenticates as. -/
def PacketWrite (platform : SettingsPlatform) (env : SettingsEnv) (packet : SettingsPacket)
    (providers providers' : List DfciSettingProvider) : Prop :=
  ∃ identity, checkAuthAndGetToken env packet.signature = .ok identity ∧
    PermittedWrite platform env identity providers providers'

theorem applyNewSettingsPacket_permitted {platform : SettingsPlatform} (env : SettingsEnv)
    (writeStatus : EfiStatus) (packet : SettingsPacket) (s : SettingsState) :
    Relation.ReflTransGen (PacketWrite platform env packet) s.providers
      (applyNewSettingsPacket platform env writeStatus packet s).providers := by
  unfold applyNewSettingsPacket
  split_ifs
  · exact .refl
  · split
    · exact .refl
    · next identity hauth =>
        -- every write of the packet is permitted to the identity it authenticated as
        have hwrites : Relation.ReflTransGen (PermittedWrite platform env identity) s.providers
            (applySettings platform env identity packet.payload (smidLoadOrInit s.smid) s.providers).1 :=
          applySettings_permitted _ _ s.providers
        have hstep : ∀ a b, PermittedWrite platform env identity a b → PacketWrite platform env packet a b :=
          fun _ _ hwrite => ⟨identity, hauth, hwrite⟩
        have hlift : Relation.ReflTransGen (PacketWrite platform env packet) s.providers
            (applySettings platform env identity packet.payload (smidLoadOrInit s.smid) s.providers).1 :=
          Relation.ReflTransGen.mono hstep _ _ hwrites
        split
        · next providers e happly =>
            rw [happly] at hlift
            exact hlift
        · next providers data happly =>
            rw [happly] at hlift
            exact hlift

/-! ### Boots -/

section Boot

variable {platform : SettingsPlatform}

theorem processSettingsPacket_committedLsv_le (env : SettingsEnv) (writeStatus : EfiStatus)
    (packet : Option SettingsPacket) (s : SettingsState) :
    committedLsv s.smid ≤ committedLsv (processSettingsPacket platform env writeStatus packet s).smid := by
  cases packet with
  | none => exact UInt32.le_refl _
  | some packet => exact applyNewSettingsPacket_committedLsv_le writeStatus packet s

/-- No boot lowers the committed `LSV`. -/
theorem settingsBoot_committedLsv_le (b : SettingsBoot) (s : SettingsState) :
    committedLsv s.smid ≤ committedLsv (settingsBoot platform b s).smid :=
  UInt32.le_trans (processSettingsPacket_committedLsv_le b.env b.writeStatus b.settings s)
    (processSettingsPacket_committedLsv_le b.env b.writeStatus2 b.settings2 _)

/-- No sequence of boots lowers the committed `LSV`. -/
theorem settingsBootSequence_committedLsv_le (boots : List SettingsBoot) (s : SettingsState) :
    committedLsv s.smid ≤ committedLsv (settingsBootSequence platform boots s).smid := by
  induction boots generalizing s with
  | nil => exact UInt32.le_refl _
  | cons b rest ih =>
      -- the first boot, then the rest from the state it leaves
      exact UInt32.le_trans (settingsBoot_committedLsv_le b s) (ih (settingsBoot platform b s))

/-- A settings packet whose `Version` is below `lsv`. -/
def SettingsPacket.BelowLsv (lsv : UInt32) (packet : SettingsPacket) : Prop :=
  ∃ node version, packet.payload = some node ∧ node.version = some version ∧ version < lsv.toNat

theorem processSettingsPacket_below_lsv (env : SettingsEnv) (writeStatus : EfiStatus)
    {packet : Option SettingsPacket} {s : SettingsState}
    (hbelow : ∀ p ∈ packet, p.BelowLsv (committedLsv s.smid)) :
    processSettingsPacket platform env writeStatus packet s = s := by
  cases packet with
  | none => rfl
  | some packet =>
      obtain ⟨node, version, hpayload, hversion, hlt⟩ := hbelow packet rfl
      exact applyNewSettingsPacket_below_lsv writeStatus hpayload hversion hlt

/-- A boot whose settings packets are all below the committed `LSV` changes nothing. -/
theorem settingsBoot_below_lsv {b : SettingsBoot} {s : SettingsState}
    (hbelow : ∀ p ∈ b.settings, p.BelowLsv (committedLsv s.smid))
    (hbelow2 : ∀ p ∈ b.settings2, p.BelowLsv (committedLsv s.smid)) :
    settingsBoot platform b s = s := by
  unfold settingsBoot
  rw [processSettingsPacket_below_lsv b.env b.writeStatus hbelow,
    processSettingsPacket_below_lsv b.env b.writeStatus2 hbelow2]

/-- A write permitted to one of a boot's settings packets. -/
def BootWrite (platform : SettingsPlatform) (b : SettingsBoot)
    (providers providers' : List DfciSettingProvider) : Prop :=
  ∃ packet, (b.settings = some packet ∨ b.settings2 = some packet) ∧
    PacketWrite platform b.env packet providers providers'

theorem processSettingsPacket_permitted (env : SettingsEnv) (writeStatus : EfiStatus)
    (packet : Option SettingsPacket) (s : SettingsState)
    {R : List DfciSettingProvider → List DfciSettingProvider → Prop}
    (hR : ∀ p ∈ packet, ∀ a c, PacketWrite platform env p a c → R a c) :
    Relation.ReflTransGen R s.providers (processSettingsPacket platform env writeStatus packet s).providers := by
  cases packet with
  | none => exact .refl
  | some packet =>
      exact Relation.ReflTransGen.mono (hR packet rfl) _ _
        (applyNewSettingsPacket_permitted env writeStatus packet s)

/-- Every change a boot makes to the providers is a chain of writes, each permitted to the
identity one of the boot's packets authenticated as. -/
theorem settingsBoot_permitted (b : SettingsBoot) (s : SettingsState) :
    Relation.ReflTransGen (BootWrite platform b) s.providers (settingsBoot platform b s).providers := by
  unfold settingsBoot
  have hfirst := processSettingsPacket_permitted b.env b.writeStatus b.settings s
    (R := BootWrite platform b) fun p hp _ _ hwrite => ⟨p, .inl hp, hwrite⟩
  exact hfirst.trans (processSettingsPacket_permitted b.env b.writeStatus2 b.settings2 _
    fun p hp _ _ hwrite => ⟨p, .inr hp, hwrite⟩)

/-- Over any sequence of boots, every change to the providers is a write permitted to a
packet of one of the boots. -/
theorem settingsBootSequence_permitted (boots : List SettingsBoot) (s : SettingsState) :
    Relation.ReflTransGen (fun a c => ∃ b ∈ boots, BootWrite platform b a c) s.providers
      (settingsBootSequence platform boots s).providers := by
  induction boots generalizing s with
  | nil => exact .refl
  | cons b rest ih =>
      -- the first boot's writes, then the rest's, each widened to the whole list
      have hfirst : ∀ a c, BootWrite platform b a c → ∃ b' ∈ b :: rest, BootWrite platform b' a c :=
        fun _ _ hwrite => ⟨b, List.mem_cons_self, hwrite⟩
      have hrest : ∀ a c, (∃ b' ∈ rest, BootWrite platform b' a c) →
          ∃ b' ∈ b :: rest, BootWrite platform b' a c :=
        fun _ _ ⟨b', hb', hwrite⟩ => ⟨b', List.mem_cons_of_mem _ hb', hwrite⟩
      exact (Relation.ReflTransGen.mono hfirst _ _ (settingsBoot_permitted b s)).trans
        (Relation.ReflTransGen.mono hrest _ _ (ih (settingsBoot platform b s)))

/-- **What a sequence of settings boots guarantees**: the committed `LSV` never falls, and every
change to the providers is a chain of writes that `HasWritePermissions` granted to the identity
a packet of those boots authenticated as. -/
theorem settingsBootSequence_lsv_le_and_permitted (boots : List SettingsBoot) (s : SettingsState) :
    committedLsv s.smid ≤ committedLsv (settingsBootSequence platform boots s).smid ∧
      Relation.ReflTransGen (fun a c => ∃ b ∈ boots, BootWrite platform b a c) s.providers
        (settingsBootSequence platform boots s).providers :=
  ⟨settingsBootSequence_committedLsv_le boots s, settingsBootSequence_permitted boots s⟩

end Boot

/-! ### An unsigned packet moves the committed `LSV` -/

/-- A platform whose providers hold what they are given. -/
def plainSettingsPlatform : SettingsPlatform :=
  ⟨fun _ => none, fun _ => none, fun _ value => .ok value⟩

/-- The camera setting, enabled. -/
def cameraProvider : DfciSettingProvider :=
  ⟨"Dfci.OnboardCameras.Enable", .enable, [1]⟩

/-- An owner-enrolled system without an admin password, where only the owner may write a
setting. -/
def ownerOnlySettingsEnv : SettingsEnv :=
  ⟨[], ⟨false, 1, 1, dfciIdentitySignerOwner, dfciIdentitySignerOwner, []⟩, ownerEnrolledStore, none⟩

/-- `_SMID` committed at Version and LSV 1, with the camera enabled. -/
def cameraSettingsState : SettingsState :=
  ⟨some ⟨smidVarSize, dfciInternalVarAttributes, smidHeaderSignature, 1, 1, 1⟩, [cameraProvider]⟩

/-- A settings packet that disables the camera. -/
def cameraOffPacket (signature : Option Cert) (version lsv : Nat) : SettingsPacket :=
  ⟨true, signature,
    some ⟨some version, some lsv, some [⟨some (some "Dfci.OnboardCameras.Enable"), some (some "Disabled")⟩]⟩⟩

/-- A boot with one settings packet. -/
def settingsPacketBoot (packet : SettingsPacket) : SettingsBoot :=
  ⟨ownerOnlySettingsEnv, some packet, none, .success, .success⟩

theorem unsigned_packet_raises_committed_lsv :
    checkAuthAndGetToken ownerOnlySettingsEnv none = .ok dfciIdentityUnsignedLocal ∧
    (settingsBoot plainSettingsPlatform (settingsPacketBoot (cameraOffPacket none 0xFFFFFFFF 0xFFFFFFFF))
      cameraSettingsState).providers = [cameraProvider] ∧
    committedLsv (settingsBoot plainSettingsPlatform
      (settingsPacketBoot (cameraOffPacket none 0xFFFFFFFF 0xFFFFFFFF)) cameraSettingsState).smid = 0xFFFFFFFF ∧
    settingsBoot plainSettingsPlatform (settingsPacketBoot (cameraOffPacket (some ownerCert) 2 1))
        (settingsBoot plainSettingsPlatform
          (settingsPacketBoot (cameraOffPacket none 0xFFFFFFFF 0xFFFFFFFF)) cameraSettingsState) =
      settingsBoot plainSettingsPlatform
        (settingsPacketBoot (cameraOffPacket none 0xFFFFFFFF 0xFFFFFFFF)) cameraSettingsState ∧
    (settingsBoot plainSettingsPlatform (settingsPacketBoot (cameraOffPacket (some ownerCert) 2 1))
      cameraSettingsState).providers ≠ [cameraProvider] := by
  -- without an admin password the unsigned packet authenticates as the unsigned local identity
  have hauth : checkAuthAndGetToken ownerOnlySettingsEnv none = .ok dfciIdentityUnsignedLocal := by
    decide
  -- which may write no setting, yet the packet's record is committed
  have hlock : committedLsv (settingsBoot plainSettingsPlatform
      (settingsPacketBoot (cameraOffPacket none 0xFFFFFFFF 0xFFFFFFFF)) cameraSettingsState).smid =
      0xFFFFFFFF := by
    apply UInt32.toNat_inj.mp
    show (committedLsv (applyNewSettingsPacket plainSettingsPlatform ownerOnlySettingsEnv .success
      (cameraOffPacket none 0xFFFFFFFF 0xFFFFFFFF) cameraSettingsState).smid).toNat = 4294967295
    rw [applyNewSettingsPacket_commits rfl hauth rfl rfl rfl rfl (by decide) (by decide) (by decide)
      (by decide)]
    decide
  refine ⟨hauth, by decide, hlock, ?_, by decide⟩
  -- the owner's packet is now below the committed `LSV`
  apply settingsBoot_below_lsv
  · intro packet hpacket
    cases hpacket
    refine ⟨_, 2, rfl, rfl, ?_⟩
    rw [hlock]
    decide
  · intro packet hpacket
    cases hpacket

end MuPlus.Dfci
