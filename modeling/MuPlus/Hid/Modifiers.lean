import MuPlus.Hid.KeyboardRun

/-!
# MuPlus.Hid.Modifiers

**The modifier flags against the modifier byte.** `HIDProcessModifierKey` sets nine flags of
`HID_KB_DEV` on the press and clears them on the release of a key of the modifier byte: one flag
per side for Ctrl, Alt and the logo keys, and `CtrlOn`, `ShiftOn` and `AltOn` shared by the two
keys of each pair. `ProcessKeyStroke` queues one `HID_KEY` per changed bit, in bit order.

* `ModifierFlag.get_processHidKeys`: each flag ends as the direction of the last queued key of
  its bits (`lastDirection`);
* `hidKeyboardRun_sideFlags`: over a whole run on boot-keyboard reports, with every allocation
  succeeding, each flag of a single key equals its bit of the modifier byte of the report the
  next call compares with;
* `hidProcessKeyStrokesCallback_ctrlOn_released`: a shared flag follows the higher changed bit
  of its pair instead, so releasing one Ctrl key clears `CtrlOn` while the other is still held.
-/

namespace MuPlus.Hid

/-! ### The flags and the keys that write them -/

/-- The flags of `HID_KB_DEV` that `HIDProcessModifierKey` sets on a press and clears on a
release. -/
inductive ModifierFlag where
  | ctrl
  | shift
  | alt
  | leftCtrl
  | leftAlt
  | leftLogo
  | rightCtrl
  | rightAlt
  | rightLogo
  deriving DecidableEq, Repr

namespace ModifierFlag

/-- The flag's field. -/
def get : ModifierFlag → HidKbDev → Bool
  | ctrl, dev => dev.ctrlOn
  | shift, dev => dev.shiftOn
  | alt, dev => dev.altOn
  | leftCtrl, dev => dev.leftCtrlOn
  | leftAlt, dev => dev.leftAltOn
  | leftLogo, dev => dev.leftLogoOn
  | rightCtrl, dev => dev.rightCtrlOn
  | rightAlt, dev => dev.rightAltOn
  | rightLogo, dev => dev.rightLogoOn

/-- The modifiers whose case of `HIDProcessModifierKey` writes the flag. -/
def modifiers : ModifierFlag → List KeyModifier
  | ctrl => [.leftControl, .rightControl]
  | shift => [.leftShift, .rightShift]
  | alt => [.leftAlt, .rightAlt]
  | leftCtrl => [.leftControl]
  | leftAlt => [.leftAlt]
  | leftLogo => [.leftLogo]
  | rightCtrl => [.rightControl]
  | rightAlt => [.rightAlt]
  | rightLogo => [.rightLogo]

/-- The bits of the modifier byte whose keys carry those modifiers in the default layout, in
increasing order. -/
def bits : ModifierFlag → List Nat
  | ctrl => [0, 4]
  | shift => [1, 5]
  | alt => [2, 6]
  | leftCtrl => [0]
  | leftAlt => [2]
  | leftLogo => [3]
  | rightCtrl => [4]
  | rightAlt => [6]
  | rightLogo => [7]

/-- The key codes of those keys: `0xe0` plus the bit. -/
def keyCodes (flag : ModifierFlag) : List Nat :=
  flag.bits.map (0xe0 + ·)

/-- A release writes `down := FALSE` into each flag its modifier's case names, a press
`TRUE`. -/
theorem get_updateModifierState (flag : ModifierFlag) (dev : HidKbDev) (modifier : KeyModifier)
    (down : Bool) :
    flag.get (updateModifierState dev modifier down) =
      if modifier ∈ flag.modifiers then down else flag.get dev := by
  cases flag <;> cases modifier <;> cases down <;> rfl

theorem defaultLayout_mem_modifiers (flag : ModifierFlag) (keyCode : UInt8) :
    defaultLayout keyCode ∈ flag.modifiers ↔ keyCode.toNat ∈ flag.keyCodes := by
  cases flag <;>
  · unfold defaultLayout
    split <;> simp_all [modifiers, keyCodes, bits]

theorem bits_lt {flag : ModifierFlag} {bit : Nat} (h : bit ∈ flag.bits) : bit < 8 := by
  cases flag <;> simp only [bits, List.mem_cons, List.not_mem_nil, or_false] at h <;> omega

end ModifierFlag

/-- The direction of the last of `hidKeys` whose key code is one of `keyCodes`, or `down` when
there is none. -/
def lastDirection (keyCodes : List Nat) (hidKeys : List HidKey) (down : Bool) : Bool :=
  hidKeys.foldl
    (fun down hidKey => if hidKey.keyCode.toNat ∈ keyCodes then hidKey.down else down) down

theorem lastDirection_append (keyCodes : List Nat) (hidKeys hidKeys' : List HidKey)
    (down : Bool) :
    lastDirection keyCodes (hidKeys ++ hidKeys') down =
      lastDirection keyCodes hidKeys' (lastDirection keyCodes hidKeys down) :=
  List.foldl_append

theorem lastDirection_of_not_mem {keyCodes : List Nat} {hidKeys : List HidKey}
    (h : ∀ hidKey ∈ hidKeys, hidKey.keyCode.toNat ∉ keyCodes) (down : Bool) :
    lastDirection keyCodes hidKeys down = down := by
  induction hidKeys with
  | nil => rfl
  | cons hidKey hidKeys ih =>
    rw [lastDirection, List.foldl_cons, if_neg (h hidKey List.mem_cons_self)]
    exact ih fun k hk => h k (List.mem_cons_of_mem _ hk)

/-! ### One key, and the drain loop -/

/-- `GetKeyDescriptor` has an entry for every key code of the table's two ranges. -/
theorem getKeyDescriptor_of_range {layout : UInt8 → KeyModifier} {keyCode : UInt8}
    (hlo : 4 ≤ keyCode.toNat)
    (hhi : keyCode.toNat ≤ 0x65 ∨ 0xe0 ≤ keyCode.toNat ∧ keyCode.toNat ≤ 0xe7) :
    getKeyDescriptor layout keyCode = some (layout keyCode) := by
  unfold getKeyDescriptor
  rw [if_neg]
  simp only [hidkbdValidKeycode, Bool.or_eq_true, Bool.and_eq_true, decide_eq_true_eq,
    UInt8.lt_iff_toNat_lt, UInt8.toNat_ofNat, Bool.not_eq_true', decide_eq_false_iff_not]
  omega

theorem ModifierFlag.keyCode_bounds {flag : ModifierFlag} {keyCode : Nat}
    (h : keyCode ∈ flag.keyCodes) : 0xe0 ≤ keyCode ∧ keyCode ≤ 0xe7 := by
  obtain ⟨bit, hbit, rfl⟩ := List.mem_map.mp h
  have := ModifierFlag.bits_lt hbit
  omega

/-- Under the default layout, `HIDProcessModifierKey` writes a flag exactly for the keys of its
bits, with the key's direction. -/
theorem ModifierFlag.get_hidProcessModifierKey (flag : ModifierFlag) {dev dev' : HidKbDev}
    {hidKey : HidKey} {status : EfiStatus}
    (h : hidProcessModifierKey defaultLayout dev hidKey = .returned (status, dev')) :
    flag.get dev' =
      if hidKey.keyCode.toNat ∈ flag.keyCodes then hidKey.down else flag.get dev := by
  rcases hidProcessModifierKey_returned h with ⟨hnone, rfl⟩ | ⟨modifier, hdesc, rfl⟩
  · -- no descriptor: the key code is not one of the modifier byte
    have hnot : hidKey.keyCode.toNat ∉ flag.keyCodes := by
      intro hmem
      obtain ⟨hlo, hhi⟩ := ModifierFlag.keyCode_bounds hmem
      rw [getKeyDescriptor_of_range (by omega) (.inr ⟨hlo, hhi⟩)] at hnone
      cases hnone
    rw [if_neg hnot]
  · obtain ⟨rfl, -, -⟩ := getKeyDescriptor_eq_some hdesc
    rw [flag.get_updateModifierState]
    by_cases hmem : hidKey.keyCode.toNat ∈ flag.keyCodes
    · rw [if_pos ((flag.defaultLayout_mem_modifiers _).mpr hmem), if_pos hmem]
    · rw [if_neg (mt (flag.defaultLayout_mem_modifiers _).mp hmem), if_neg hmem]

/-- An observation of the device that each returning `HIDProcessModifierKey` moves by `g` is
moved by the fold of `g` over the keys the drain loop hands it. -/
theorem processHidKeys_observe {β : Type} {layout : UInt8 → KeyModifier}
    (observe : HidKbDev → β) (g : β → HidKey → β)
    (hstep : ∀ dev hidKey status dev',
      hidProcessModifierKey layout dev hidKey = .returned (status, dev') →
      observe dev' = g (observe dev) hidKey) :
    ∀ hidKeys dev dev', processHidKeys layout dev hidKeys = .returned dev' →
      observe dev' = hidKeys.foldl g (observe dev) := by
  intro hidKeys
  induction hidKeys with
  | nil =>
    intro dev dev' h
    cases h
    rfl
  | cons hidKey hidKeys ih =>
    intro dev dev' h
    rw [processHidKeys] at h
    rcases hkey : hidProcessModifierKey layout dev hidKey with ⟨⟨status, dev₁⟩⟩ | _
    · rw [hkey] at h
      rw [ih dev₁ dev' h, hstep dev hidKey status dev₁ hkey, List.foldl_cons]
    · rw [hkey] at h
      cases h

theorem ModifierFlag.get_processHidKeys (flag : ModifierFlag) {dev dev' : HidKbDev}
    {hidKeys : List HidKey} (h : processHidKeys defaultLayout dev hidKeys = .returned dev') :
    flag.get dev' = lastDirection flag.keyCodes hidKeys (flag.get dev) :=
  processHidKeys_observe flag.get _ (fun _ _ _ _ hkey => flag.get_hidProcessModifierKey hkey)
    hidKeys dev dev' h

theorem processHidKeys_lastReport {layout : UInt8 → KeyModifier} {dev dev' : HidKbDev}
    {hidKeys : List HidKey} (h : processHidKeys layout dev hidKeys = .returned dev') :
    dev'.lastReport = dev.lastReport := by
  rw [processHidKeys_observe HidKbDev.lastReport (fun r _ => r)
    (fun _ _ _ _ hkey => hidProcessModifierKey_lastReport hkey) hidKeys dev dev' h]
  exact List.foldl_fixed hidKeys

/-! ### The keys of one report -/

/-- The modifier changes of a report, seen by the flag of some key codes: the bits are queued in
increasing order, each changed one with its new value. -/
theorem lastDirection_modifierKeyChanges (keyCodes : List Nat) (current last : UInt8)
    (down : Bool) :
    lastDirection keyCodes (modifierKeyChanges current last) down =
      (List.range 8).foldl (fun down i =>
        if 0xe0 + i ∈ keyCodes ∧ current.toNat.testBit i ≠ last.toNat.testBit i then
          current.toNat.testBit i
        else down) down := by
  unfold lastDirection modifierKeyChanges
  rw [List.foldl_filterMap]
  apply List.foldl_ext
  intro down i hi
  have hcode : ((0xe0 : UInt8) + i.toUInt8).toNat = 0xe0 + i := by
    have h224 : (0xe0 : UInt8).toNat = 0xe0 := rfl
    rw [UInt8.toNat_add, UInt8.toNat_ofNat', h224]
    rw [List.mem_range] at hi
    omega
  by_cases hchange : current.toNat.testBit i ≠ last.toNat.testBit i
  · rw [if_pos (bne_iff_ne.mpr hchange)]
    dsimp only
    rw [hcode]
    by_cases hmem : 0xe0 + i ∈ keyCodes
    · rw [if_pos hmem, if_pos ⟨hmem, hchange⟩]
    · rw [if_neg hmem, if_neg (fun h => hmem h.1)]
  · rw [if_neg (fun h => hchange (bne_iff_ne.mp h)), if_neg (fun h => hchange h.2)]

/-- A flag of one key ends as the key's new bit when the bit changed, and as it was
otherwise. -/
theorem lastDirection_modifierKeyChanges_single {flag : ModifierFlag} {bit : Nat}
    (hbits : flag.bits = [bit]) (current last : UInt8) (down : Bool) :
    lastDirection flag.keyCodes (modifierKeyChanges current last) down =
      if current.toNat.testBit bit ≠ last.toNat.testBit bit then current.toNat.testBit bit
      else down := by
  have hlt : bit < 8 := ModifierFlag.bits_lt (by rw [hbits]; exact List.mem_singleton_self bit)
  have hrange : List.range 8 = [0, 1, 2, 3, 4, 5, 6, 7] := rfl
  rw [lastDirection_modifierKeyChanges, ModifierFlag.keyCodes, hbits, hrange]
  simp only [List.foldl_cons, List.foldl_nil, List.map_cons, List.map_nil, List.mem_singleton,
    Nat.add_left_cancel_iff]
  interval_cases bit <;> simp

/-- A shared flag ends as the new value of its higher bit when that bit changed, else of its
lower bit when that one changed, else as it was: the last of the two changes queued wins. -/
theorem lastDirection_modifierKeyChanges_pair {flag : ModifierFlag} {lo hi : Nat}
    (hbits : flag.bits = [lo, hi]) (current last : UInt8) (down : Bool) :
    lastDirection flag.keyCodes (modifierKeyChanges current last) down =
      if current.toNat.testBit hi ≠ last.toNat.testBit hi then current.toNat.testBit hi
      else if current.toNat.testBit lo ≠ last.toNat.testBit lo then current.toNat.testBit lo
      else down := by
  have hrange : List.range 8 = [0, 1, 2, 3, 4, 5, 6, 7] := rfl
  rw [lastDirection_modifierKeyChanges, ModifierFlag.keyCodes, hbits, hrange]
  -- only Ctrl, Shift and Alt have two bits
  cases flag <;> simp only [ModifierFlag.bits, List.cons.injEq, reduceCtorEq, and_false,
    List.nil_eq] at hbits <;> obtain ⟨rfl, rfl, -⟩ := hbits <;> simp

/-! ### One call on a boot-keyboard report -/

/-- The key codes of a boot-keyboard report: each up to 0x65, and few enough that the queue holds
them together with the eight modifier changes. -/
def BootKeys (buffer : List UInt8) : Prop :=
  (buffer.drop inputReportHeaderSize).length + 8 ≤ maxKeyAllowed ∧
    ∀ k ∈ buffer.drop inputReportHeaderSize, k.toNat ≤ 0x65

instance : DecidablePred BootKeys :=
  fun _ => inferInstanceAs (Decidable (_ ∧ _))

/-- The report the next call compares with: `LastReport`, or the zeroed one `ProcessKeyStroke`
allocates when there is none. -/
def HidKbDev.previousReport (dev : HidKbDev) : InputReport :=
  dev.lastReport.getD emptyReport

/-- Each flag of a single key is its bit of the modifier byte of the previous report. -/
def SideFlagsTrack (dev : HidKbDev) : Prop :=
  ∀ (flag : ModifierFlag) (bit : Nat), flag.bits = [bit] →
    flag.get dev = dev.previousReport.modifierKeys.toNat.testBit bit

theorem ModifierFlag.get_of_keyFlags (flag : ModifierFlag) {dev dev' : HidKbDev}
    (h : keyFlags dev' = keyFlags dev) : flag.get dev' = flag.get dev := by
  simp only [keyFlags, List.cons.injEq, and_true] at h
  obtain ⟨hctrl, halt, hshift, -, -, -, hlc, hla, hll, hrc, hra, hrl, -, -, -⟩ := h
  cases flag
  · exact hctrl
  · exact hshift
  · exact halt
  · exact hlc
  · exact hla
  · exact hll
  · exact hrc
  · exact hra
  · exact hrl

theorem keyFlags_keyStrokeEffect (allocatePool : Nat → Bool) (layout : UInt8 → KeyModifier)
    (last current : InputReport) (dev : HidKbDev) :
    keyFlags (keyStrokeEffect allocatePool layout last current dev) = keyFlags dev := by
  unfold keyStrokeEffect
  dsimp only
  split <;> rfl

theorem keyStrokeEffect_lastReport (allocatePool : Nat → Bool) (layout : UInt8 → KeyModifier)
    (last current : InputReport) (dev : HidKbDev) :
    (keyStrokeEffect allocatePool layout last current dev).lastReport =
      if allocatePool current.bytes.length then some current else none := by
  unfold keyStrokeEffect
  dsimp only
  split <;> rfl

theorem length_reportHidKeys_le (last current : InputReport) :
    (reportHidKeys last current).length ≤ 8 + current.keyCode.length := by
  have hchanges := List.length_filterMap_le (fun modifierIndex =>
    if current.modifierKeys.toNat.testBit modifierIndex !=
        last.modifierKeys.toNat.testBit modifierIndex then
      some (⟨current.modifierKeys.toNat.testBit modifierIndex,
        0xe0 + modifierIndex.toUInt8⟩ : HidKey)
    else none) (List.range 8)
  have hkeys := List.length_filter_le
    (fun k => hidkbdValidKeycode k && !heldIn last.keyCode k) current.keyCode
  rw [List.length_range] at hchanges
  rw [reportHidKeys, List.length_append, List.length_map]
  exact Nat.add_le_add hchanges hkeys

/-- A newly pressed key code is valid and one of the report's. -/
theorem mem_newKeys {last current : List UInt8} {key : UInt8} (h : key ∈ newKeys last current) :
    key ∈ current ∧ 4 ≤ key.toNat := by
  rw [newKeys, List.mem_filter, Bool.and_eq_true, hidkbdValidKeycode, decide_eq_true_eq] at h
  obtain ⟨hmem, hvalid, -⟩ := h
  have h3 : (3 : UInt8).toNat = 3 := rfl
  have hlt := UInt8.lt_iff_toNat_lt.mp hvalid
  exact ⟨hmem, by omega⟩

/-- With every allocation succeeding, `ProcessKeyStroke` on a whole report runs against the
previous report, which becomes `LastReport` first when there was none. -/
theorem processKeyStroke_eq_previousReport {allocatePool : Nat → Bool}
    {layout : UInt8 → KeyModifier} {fuel : Nat} {dev : HidKbDev}
    (halloc : allocatePool inputReportHeaderSize = true) (report : InputReport) :
    processKeyStroke allocatePool layout fuel report.bytes dev =
      processKeyStrokeWith allocatePool layout fuel dev.previousReport report
        { dev with lastReport := some dev.previousReport } := by
  rcases hlast : dev.lastReport with _ | lastReport
  · unfold processKeyStroke
    rw [dif_neg (Nat.not_lt.mpr report.header_le), hlast]
    dsimp only
    rw [if_pos halloc, HidKbDev.previousReport, hlast, Option.getD_none]
  · have hdev : { dev with lastReport := some dev.previousReport } = dev := by
      cases dev
      dsimp only at hlast
      subst hlast
      rfl
    rw [processKeyStroke_of_lastReport hlast, hdev, HidKbDev.previousReport, hlast,
      Option.getD_some]

section BootReport

variable {allocatePool : Nat → Bool} {fuel : Nat} {dev dev' : HidKbDev}

/-- From a state between calls, a call on a whole boot-keyboard report, with every allocation
succeeding, hands the report's keys to `HIDProcessModifierKey` and nothing else. -/
theorem hidProcessKeyStrokesCallback_of_bootKeys (halloc : ∀ n, allocatePool n = true)
    (hfuel : 256 ≤ fuel) (hinv : KeyboardInv dev) (report : InputReport)
    (hreport : BootKeys report.bytes) :
    hidProcessKeyStrokesCallback allocatePool defaultLayout fuel report.bytes dev =
      some (processHidKeys defaultLayout
        (keyStrokeEffect allocatePool defaultLayout dev.previousReport report
          { dev with lastReport := some dev.previousReport }).queueDrained
        (reportHidKeys dev.previousReport report)) := by
  obtain ⟨hcount, hkeys⟩ := hreport
  change report.keyCode.length + 8 ≤ maxKeyAllowed at hcount
  change ∀ k ∈ report.keyCode, k.toNat ≤ 0x65 at hkeys
  have hmax : maxKeyAllowed = 32 := rfl
  have hprevious : dev.previousReport.keyCode.length < 256 := by
    rcases hlast : dev.lastReport with _ | lastReport
    · rw [HidKbDev.previousReport, hlast, Option.getD_none]
      decide
    · rw [HidKbDev.previousReport, hlast, Option.getD_some]
      exact hinv.lastReportShort lastReport hlast
  have hcurrent : report.keyCode.length < 256 := by
    omega
  have hdesc : ∀ k ∈ newKeys dev.previousReport.keyCode report.keyCode,
      (getKeyDescriptor defaultLayout k).isSome := by
    intro k hk
    obtain ⟨hmem, hvalid⟩ := mem_newKeys hk
    rw [getKeyDescriptor_of_range hvalid (.inl (hkeys k hmem))]
    rfl
  have hprocess : processKeyStroke allocatePool defaultLayout fuel report.bytes dev =
      some (keyStrokeEffect allocatePool defaultLayout dev.previousReport report
        { dev with lastReport := some dev.previousReport }) := by
    rw [processKeyStroke_eq_previousReport (halloc _)]
    exact processKeyStrokeWith_eq hprevious hcurrent hfuel hdesc
  have hlength := length_reportHidKeys_le dev.previousReport report
  have hitems : ({ dev with lastReport := some dev.previousReport } : HidKbDev).hidKeyQueue.items =
      [] := hinv.queue_eq_nil
  -- the queue was empty, so the ring keeps every key of the report
  rw [hidProcessKeyStrokesCallback_of_keyStrokeEffect hprocess hfuel, hitems,
    RingQueue.foldl_boundedPush_of_le (by rw [List.length_nil]; omega), List.nil_append]

/-- After a call on a whole boot-keyboard report, `LastReport` is the report. -/
theorem hidProcessKeyStrokesCallback_lastReport_of_bootKeys (halloc : ∀ n, allocatePool n = true)
    (hfuel : 256 ≤ fuel) (hinv : KeyboardInv dev) (report : InputReport)
    (hreport : BootKeys report.bytes)
    (h : hidProcessKeyStrokesCallback allocatePool defaultLayout fuel report.bytes dev =
      some (.returned dev')) :
    dev'.lastReport = some report := by
  rw [hidProcessKeyStrokesCallback_of_bootKeys halloc hfuel hinv report hreport,
    Option.some.injEq] at h
  rw [processHidKeys_lastReport h]
  exact (keyStrokeEffect_lastReport _ _ _ _ _).trans (if_pos (halloc _))

/-- After a call on a whole boot-keyboard report, a flag is as the report's modifier changes
leave it. -/
theorem ModifierFlag.get_hidProcessKeyStrokesCallback (flag : ModifierFlag)
    (halloc : ∀ n, allocatePool n = true) (hfuel : 256 ≤ fuel) (hinv : KeyboardInv dev)
    (report : InputReport) (hreport : BootKeys report.bytes)
    (h : hidProcessKeyStrokesCallback allocatePool defaultLayout fuel report.bytes dev =
      some (.returned dev')) :
    flag.get dev' = lastDirection flag.keyCodes
      (modifierKeyChanges report.modifierKeys dev.previousReport.modifierKeys) (flag.get dev) := by
  rw [hidProcessKeyStrokesCallback_of_bootKeys halloc hfuel hinv report hreport,
    Option.some.injEq] at h
  -- the newly pressed keys are below the modifier byte and leave the flag alone
  have hpresses : ∀ hidKey ∈ (newKeys dev.previousReport.keyCode report.keyCode).map
      (HidKey.mk true), hidKey.keyCode.toNat ∉ flag.keyCodes := by
    intro hidKey hmem hcode
    obtain ⟨k, hk, rfl⟩ := List.mem_map.mp hmem
    dsimp only at hcode
    have hle := hreport.2 k (mem_newKeys hk).1
    have := (ModifierFlag.keyCode_bounds hcode).1
    omega
  have hflag : flag.get (keyStrokeEffect allocatePool defaultLayout dev.previousReport report
      { dev with lastReport := some dev.previousReport }).queueDrained = flag.get dev :=
    flag.get_of_keyFlags (keyFlags_keyStrokeEffect _ _ _ _ _)
  rw [flag.get_processHidKeys h, reportHidKeys, lastDirection_append,
    lastDirection_of_not_mem hpresses, hflag]

/-- A call keeps the flags of single keys on the modifier byte of the report it compares with. -/
theorem hidProcessKeyStrokesCallback_sideFlagsTrack (halloc : ∀ n, allocatePool n = true)
    (hfuel : 256 ≤ fuel) {buffer : List UInt8} (hbuffer : BootKeys buffer)
    (hinv : KeyboardInv dev) (htrack : SideFlagsTrack dev)
    (h : hidProcessKeyStrokesCallback allocatePool defaultLayout fuel buffer dev =
      some (.returned dev')) :
    SideFlagsTrack dev' := by
  by_cases hshort : buffer.length < inputReportHeaderSize
  · -- a buffer shorter than the header: the device only has its empty queue drained
    have hq : RingQueue.Represents dev.hidKeyQueue [] := by
      rw [← hinv.queue_eq_nil]
      exact RingQueue.represents_items _
    rw [hidProcessKeyStrokesCallback] at h
    unfold processKeyStroke at h
    rw [dif_pos hshort, Option.bind_some, drainHidKeyQueue_eq fuel dev hq (by rw [List.length_nil]; omega),
      processHidKeys] at h
    cases h
    intro flag bit hbits
    exact (flag.get_of_keyFlags (by rfl)).trans (htrack flag bit hbits)
  · let report : InputReport := ⟨buffer, by omega⟩
    have hlast := hidProcessKeyStrokesCallback_lastReport_of_bootKeys halloc hfuel hinv report
      hbuffer h
    have hprevious : dev'.previousReport = report := by
      rw [HidKbDev.previousReport, hlast, Option.getD_some]
    intro flag bit hbits
    rw [flag.get_hidProcessKeyStrokesCallback halloc hfuel hinv report hbuffer h,
      lastDirection_modifierKeyChanges_single hbits, hprevious, htrack flag bit hbits]
    -- a bit that did not change is the previous report's
    by_cases hchange : report.modifierKeys.toNat.testBit bit ≠
        dev.previousReport.modifierKeys.toNat.testBit bit
    · rw [if_pos hchange]
    · rw [if_neg hchange]
      exact (not_not.mp hchange).symm

end BootReport

theorem sideFlagsTrack_initHidKeyboard (buffer : Fin (maxKeyAllowed + 1) → HidKey) :
    SideFlagsTrack (initHidKeyboard buffer) := by
  intro flag bit _
  have hzero : (initHidKeyboard buffer).previousReport.modifierKeys = 0 := rfl
  rw [hzero, UInt8.toNat_zero, Nat.zero_testBit]
  cases flag <;> rfl

/-! ### Whole runs, and the shared flags -/

section Run

variable {allocatePool : Nat → Bool} {fuel : Nat}

/-- Over every run on boot-keyboard reports, with every allocation succeeding, each flag of a
single key (`LeftCtrlOn`, `LeftAltOn`, `LeftLogoOn`, `RightCtrlOn`, `RightAltOn`,
`RightLogoOn`) equals its bit of the modifier byte of the report the next call compares with,
from every state between calls where it did, the initial one among them. -/
theorem hidKeyboardRun_sideFlags (halloc : ∀ n, allocatePool n = true) (hfuel : 256 ≤ fuel)
    (buffers : List (List UInt8)) (hbuffers : ∀ buffer ∈ buffers, BootKeys buffer)
    (dev dev' : HidKbDev) (hinv : KeyboardInv dev) (htrack : SideFlagsTrack dev)
    (hrun : hidKeyboardRun allocatePool defaultLayout fuel buffers dev = some (.returned dev')) :
    ∀ (flag : ModifierFlag) (bit : Nat), flag.bits = [bit] →
      flag.get dev' = dev'.previousReport.modifierKeys.toNat.testBit bit :=
  (hidKeyboardRun_invariant (fun d => KeyboardInv d ∧ SideFlagsTrack d) BootKeys
    (fun _ _ _ hbuffer hd h => ⟨hidProcessKeyStrokesCallback_keyboardInv hd.1 h,
      hidProcessKeyStrokesCallback_sideFlagsTrack halloc hfuel hbuffer hd.1 hd.2 h⟩)
    buffers hbuffers dev dev' ⟨hinv, htrack⟩ hrun).2

/-- From the initial device: both Ctrl keys with `A`, then the left Ctrl key released. -/
theorem hidKeyboardRun_sideFlags_ctrlA :
    ∃ dev', hidKeyboardRun (fun _ => true) defaultLayout 256 [[0x11, 0, 0x04], [0x10, 0, 0x04]]
        (initHidKeyboard fun _ => ⟨false, 0⟩) = some (.returned dev') ∧
      ∀ (flag : ModifierFlag) (bit : Nat), flag.bits = [bit] →
        flag.get dev' = dev'.previousReport.modifierKeys.toNat.testBit bit := by
  obtain ⟨dev', hrun⟩ : ∃ dev', hidKeyboardRun (fun _ => true) defaultLayout 256
      [[0x11, 0, 0x04], [0x10, 0, 0x04]] (initHidKeyboard fun _ => ⟨false, 0⟩) =
      some (.returned dev') := ⟨_, rfl⟩
  exact ⟨dev', hrun, hidKeyboardRun_sideFlags (fun _ => rfl) (le_refl 256) _
    (by decide +kernel) _ _ (keyboardInv_initHidKeyboard _) (sideFlagsTrack_initHidKeyboard _)
    hrun⟩

/-- Releasing one Ctrl key while the other stays held leaves `CtrlOn` cleared, though
`LeftCtrlOn` or `RightCtrlOn` still shows a Ctrl key down: `CtrlOn` takes the direction of the
last Ctrl change queued, and the change of bit 4 is queued after that of bit 0. -/
theorem hidProcessKeyStrokesCallback_ctrlOn_released {dev dev' : HidKbDev}
    (halloc : ∀ n, allocatePool n = true) (hfuel : 256 ≤ fuel) (hinv : KeyboardInv dev)
    (htrack : SideFlagsTrack dev) (report : InputReport) (hreport : BootKeys report.bytes)
    (hctrl : (dev.previousReport.modifierKeys.toNat.testBit 0 = true ∧
        report.modifierKeys.toNat.testBit 0 = false ∧
        dev.previousReport.modifierKeys.toNat.testBit 4 = true ∧
        report.modifierKeys.toNat.testBit 4 = true) ∨
      (dev.previousReport.modifierKeys.toNat.testBit 4 = true ∧
        report.modifierKeys.toNat.testBit 4 = false ∧
        report.modifierKeys.toNat.testBit 0 = true))
    (h : hidProcessKeyStrokesCallback allocatePool defaultLayout fuel report.bytes dev =
      some (.returned dev')) :
    dev'.ctrlOn = false ∧ (dev'.leftCtrlOn = true ∨ dev'.rightCtrlOn = true) := by
  have hlast := hidProcessKeyStrokesCallback_lastReport_of_bootKeys halloc hfuel hinv report
    hreport h
  have hprevious : dev'.previousReport = report := by
    rw [HidKbDev.previousReport, hlast, Option.getD_some]
  have htrack' := hidProcessKeyStrokesCallback_sideFlagsTrack halloc hfuel hreport hinv htrack h
  have hleft : dev'.leftCtrlOn = report.modifierKeys.toNat.testBit 0 := by
    have hflag := htrack' .leftCtrl 0 rfl
    rwa [hprevious] at hflag
  have hright : dev'.rightCtrlOn = report.modifierKeys.toNat.testBit 4 := by
    have hflag := htrack' .rightCtrl 4 rfl
    rwa [hprevious] at hflag
  have hctrlOn : dev'.ctrlOn = lastDirection ModifierFlag.ctrl.keyCodes
      (modifierKeyChanges report.modifierKeys dev.previousReport.modifierKeys) dev.ctrlOn :=
    ModifierFlag.ctrl.get_hidProcessKeyStrokesCallback halloc hfuel hinv report hreport h
  rw [lastDirection_modifierKeyChanges_pair rfl] at hctrlOn
  rw [hleft, hright, hctrlOn]
  rcases hctrl with ⟨h0, h0', h4, h4'⟩ | ⟨h4, h4', h0'⟩
  · -- the left key released, the right one held: only bit 0 changed
    rw [h0, h0', h4, h4']
    simp
  · -- the right key released: its change comes last
    rw [h4, h4', h0']
    simp

/-- Both Ctrl keys held, then the left one released. -/
theorem hidProcessKeyStrokesCallback_ctrlOn_released_left :
    ∃ dev', hidProcessKeyStrokesCallback (fun _ => true) defaultLayout 256 [0x10, 0, 0]
        { initHidKeyboard (fun _ => ⟨false, 0⟩) with
          lastReport := some ⟨[0x11, 0, 0], by decide⟩
          ctrlOn := true, leftCtrlOn := true, rightCtrlOn := true } =
        some (.returned dev') ∧
      dev'.ctrlOn = false ∧ (dev'.leftCtrlOn = true ∨ dev'.rightCtrlOn = true) := by
  obtain ⟨dev', hcall⟩ : ∃ dev', hidProcessKeyStrokesCallback (fun _ => true) defaultLayout 256
      [0x10, 0, 0]
      { initHidKeyboard (fun _ => ⟨false, 0⟩) with
        lastReport := some ⟨[0x11, 0, 0], by decide⟩
        ctrlOn := true, leftCtrlOn := true, rightCtrlOn := true } =
      some (.returned dev') := ⟨_, rfl⟩
  have hinv : KeyboardInv { initHidKeyboard (fun _ => ⟨false, 0⟩) with
      lastReport := some ⟨[0x11, 0, 0], by decide⟩
      ctrlOn := true, leftCtrlOn := true, rightCtrlOn := true } := by
    refine ⟨?_, rfl⟩
    intro report hreport
    cases hreport
    decide
  have htrack : SideFlagsTrack { initHidKeyboard (fun _ => ⟨false, 0⟩) with
      lastReport := some ⟨[0x11, 0, 0], by decide⟩
      ctrlOn := true, leftCtrlOn := true, rightCtrlOn := true } := by
    intro flag bit hbits
    cases flag <;> simp only [ModifierFlag.bits, List.cons.injEq, reduceCtorEq, and_false,
      and_true] at hbits <;> subst hbits <;> rfl
  exact ⟨dev', hcall, hidProcessKeyStrokesCallback_ctrlOn_released (fun _ => rfl) (le_refl 256)
    hinv htrack ⟨[0x10, 0, 0], by decide⟩ (by decide +kernel) (.inl ⟨rfl, rfl, rfl, rfl⟩) hcall⟩

end Run

end MuPlus.Hid
