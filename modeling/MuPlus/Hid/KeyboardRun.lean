import MuPlus.Hid.KeyboardSpec

/-!
# MuPlus.Hid.KeyboardRun

**The report path over whole runs.** `hidKeyboardRun` is the HID layer delivering boot-keyboard
reports one after another to `HIDProcessKeyStrokesCallback`, until a call does not return or
the platform resets. Each result below is a property of one call that carries an invariant,
lifted to every run by `hidKeyboardRun_invariant`:

* `KeyboardInv`: between two calls the key queue is empty and `LastReport` has fewer than 256
  key codes;
* `hidKeyboardRun_isSome`: when no report has 256 or more key codes, every call returns;
* `hidKeyboardRun_keeps_sysReqOn`: under the default layout, `SysReqOn` and `MenuKeyOn` are
  never cleared once set, since the release of a key outside the modifier byte is never queued.
-/
namespace MuPlus.Hid

/-- The HID layer delivering reports in order to `HIDProcessKeyStrokesCallback`: the run stops
when a call does not return (`none`) or resets the platform. -/
def hidKeyboardRun (allocatePool : Nat → Bool) (layout : UInt8 → KeyModifier) (fuel : Nat) :
    List (List UInt8) → HidKbDev → Option (Completion HidKbDev)
  | [], dev => some (.returned dev)
  | buffer :: buffers, dev =>
    match hidProcessKeyStrokesCallback allocatePool layout fuel buffer dev with
    | none => none
    | some .resetSystem => some .resetSystem
    | some (.returned dev) => hidKeyboardRun allocatePool layout fuel buffers dev

/-! ### What a step can change -/

/-- The device a key-press loop ends with, however it ends. -/
def PressLoopExit.dev : PressLoopExit → HidKbDev
  | .done dev _ => dev
  | .returned dev => dev

/-- `LastReport`, when there is one, has fewer than 256 key codes. -/
def LastReportShort (dev : HidKbDev) : Prop :=
  ∀ report, dev.lastReport = some report → report.keyCode.length < 256

@[simp] theorem updateModifierState_hidKeyQueue (dev : HidKbDev) (modifier : KeyModifier)
    (down : Bool) : (updateModifierState dev modifier down).hidKeyQueue = dev.hidKeyQueue := by
  cases modifier <;> cases down <;> rfl

@[simp] theorem updateModifierState_lastReport (dev : HidKbDev) (modifier : KeyModifier)
    (down : Bool) : (updateModifierState dev modifier down).lastReport = dev.lastReport := by
  cases modifier <;> cases down <;> rfl

/-- Only Print and SysRequest write `SysReqOn`. -/
theorem updateModifierState_sysReqOn (dev : HidKbDev) (modifier : KeyModifier) (down : Bool) :
    (updateModifierState dev modifier down).sysReqOn =
      if modifier = .print ∨ modifier = .sysRequest then down else dev.sysReqOn := by
  cases modifier <;> cases down <;> rfl

/-- Only Menu writes `MenuKeyOn`. -/
theorem updateModifierState_menuKeyOn (dev : HidKbDev) (modifier : KeyModifier) (down : Bool) :
    (updateModifierState dev modifier down).menuKeyOn =
      if modifier = .menu then down else dev.menuKeyOn := by
  cases modifier <;> cases down <;> rfl

/-- `HIDProcessModifierKey` returns the device as it was, or its modifier update for the key's
descriptor. -/
theorem hidProcessModifierKey_returned {layout : UInt8 → KeyModifier} {dev dev' : HidKbDev}
    {hidKey : HidKey} {status : EfiStatus}
    (h : hidProcessModifierKey layout dev hidKey = .returned (status, dev')) :
    getKeyDescriptor layout hidKey.keyCode = none ∧ dev' = dev ∨
      ∃ modifier, getKeyDescriptor layout hidKey.keyCode = some modifier ∧
        dev' = updateModifierState dev modifier hidKey.down := by
  unfold hidProcessModifierKey at h
  rcases hdesc : getKeyDescriptor layout hidKey.keyCode with _ | modifier
  · rw [hdesc] at h
    cases h
    exact .inl ⟨rfl, rfl⟩
  · rw [hdesc] at h
    dsimp only at h
    split_ifs at h
    cases h
    exact .inr ⟨modifier, rfl, rfl⟩

theorem hidProcessModifierKey_hidKeyQueue {layout : UInt8 → KeyModifier} {dev dev' : HidKbDev}
    {hidKey : HidKey} {status : EfiStatus}
    (h : hidProcessModifierKey layout dev hidKey = .returned (status, dev')) :
    dev'.hidKeyQueue = dev.hidKeyQueue := by
  rcases hidProcessModifierKey_returned h with ⟨-, rfl⟩ | ⟨modifier, -, rfl⟩
  · rfl
  · exact updateModifierState_hidKeyQueue _ _ _

/-- A property that queueing a pressed key and clearing `RepeatKey` keep holds for the device
the key-press loop ends with. -/
theorem keyPressLoop_invariant {layout : UInt8 → KeyModifier} {fuel : Nat}
    {last current : List UInt8} (Inv : HidKbDev → Prop)
    (henqueue : ∀ dev key, Inv dev →
      Inv { dev with hidKeyQueue := dev.hidKeyQueue.enqueue ⟨true, key⟩ })
    (hrepeat : ∀ dev, Inv dev → Inv { dev with repeatKey := 0 })
    (passes : Nat) (keyCode : UInt8) (dev : HidKbDev) (newRepeatKey : UInt8) :
    Inv dev → ∀ exit, keyPressLoop layout fuel last current passes keyCode dev newRepeatKey =
      some exit → Inv exit.dev := by
  fun_induction keyPressLoop layout fuel last current passes keyCode dev newRepeatKey with
  | case1 => intro _ _ h; cases h
  | case2 => intro _ _ h; cases h
  | case3 _ _ _ _ _ _ _ ih => exact ih
  | case4 _ _ dev _ _ _ _ _ _ =>
    intro hdev exit h
    cases h
    exact henqueue dev _ hdev
  | case5 _ _ dev _ _ _ _ _ _ _ ih =>
    intro hdev
    exact ih (hrepeat _ (henqueue dev _ hdev))
  | case6 _ _ _ _ _ _ ih => exact ih
  | case7 =>
    intro hdev exit h
    cases h
    exact hdev

/-- The key-press loop runs past the last key code only below 256 key codes: with more, its
`UINT8` counter wraps before it gets there. -/
theorem keyPressLoop_done_length {layout : UInt8 → KeyModifier} {fuel : Nat}
    {last current : List UInt8} (passes : Nat) (keyCode : UInt8) (dev : HidKbDev)
    (newRepeatKey : UInt8) :
    ∀ dev' newRepeatKey', keyPressLoop layout fuel last current passes keyCode dev newRepeatKey =
      some (.done dev' newRepeatKey') → current.length < 256 := by
  fun_induction keyPressLoop layout fuel last current passes keyCode dev newRepeatKey with
  | case1 => intro _ _ h; cases h
  | case2 => intro _ _ h; cases h
  | case3 _ _ _ _ _ _ _ ih => exact ih
  | case4 => intro _ _ h; cases h
  | case5 _ _ _ _ _ _ _ _ _ _ ih => exact ih
  | case6 _ _ _ _ _ _ ih => exact ih
  | case7 _ keyCode _ _ hge =>
    intro _ _ _
    have := UInt8.toNat_lt_size keyCode
    simp only [UInt8.size] at this
    omega

/-- The fifteen shift and lock flags of the device, which only `HIDProcessModifierKey`
writes. -/
def keyFlags (dev : HidKbDev) : List Bool :=
  [dev.ctrlOn, dev.altOn, dev.shiftOn, dev.numLockOn, dev.capsOn, dev.scrollOn, dev.leftCtrlOn,
    dev.leftAltOn, dev.leftLogoOn, dev.rightCtrlOn, dev.rightAltOn, dev.rightLogoOn,
    dev.menuKeyOn, dev.sysReqOn, dev.altGrOn]

/-- A `HID_KEY` of the kind `ProcessKeyStroke` queues: a press, or a change of a bit of the
modifier byte (key codes from 0xe0 on). -/
def QueuedKey (hidKey : HidKey) : Prop :=
  hidKey.down = true ∨ 0xe0 ≤ hidKey.keyCode.toNat

theorem modifierKeyChanges_keyCode {current last : UInt8} {hidKey : HidKey}
    (h : hidKey ∈ modifierKeyChanges current last) :
    0xe0 ≤ hidKey.keyCode.toNat ∧ hidKey.keyCode.toNat ≤ 0xe7 := by
  simp only [modifierKeyChanges, List.mem_filterMap, List.mem_range] at h
  obtain ⟨modifierIndex, hindex, hsome⟩ := h
  split_ifs at hsome
  cases hsome
  interval_cases modifierIndex <;> (dsimp only; decide)

/-- What `ProcessKeyStroke` against an existing last report can do: it runs the key-press loop
on the device with the modifier changes queued and some repeat key, and keeps the loop's queue
and flags; its last report is the loop's, or the copy of the report once the loop ran to the
end. -/
theorem processKeyStrokeWith_cases {allocatePool : Nat → Bool} {layout : UInt8 → KeyModifier}
    {fuel : Nat} {lastReport report : InputReport} {dev dev' : HidKbDev}
    (h : processKeyStrokeWith allocatePool layout fuel lastReport report dev = some dev') :
    ∃ repeatKey exit, keyPressLoop layout fuel lastReport.keyCode report.keyCode fuel 0
        { dev with
          hidKeyQueue := (modifierKeyChanges report.modifierKeys lastReport.modifierKeys).foldl
            RingQueue.enqueue dev.hidKeyQueue
          repeatKey := repeatKey } 0 = some exit ∧
      keyFlags dev' = keyFlags exit.dev ∧ dev'.hidKeyQueue = exit.dev.hidKeyQueue ∧
      (dev'.lastReport = exit.dev.lastReport ∨
        ∃ newRepeatKey, exit = .done exit.dev newRepeatKey ∧
          dev'.lastReport = if allocatePool report.bytes.length then some report else none) := by
  unfold processKeyStrokeWith at h
  rcases hrelease : keyReleaseLoop fuel lastReport.keyCode report.keyCode fuel 0 dev.repeatKey
    with _ | repeatKey
  · rw [hrelease] at h
    cases h
  rw [hrelease] at h
  dsimp only at h
  rcases hpress : keyPressLoop layout fuel lastReport.keyCode report.keyCode fuel 0
      { dev with
        hidKeyQueue := (modifierKeyChanges report.modifierKeys lastReport.modifierKeys).foldl
          RingQueue.enqueue dev.hidKeyQueue
        repeatKey := repeatKey } 0 with _ | exit
  · rw [hpress] at h
    cases h
  refine ⟨repeatKey, exit, hpress, ?_⟩
  rw [hpress] at h
  rcases exit with ⟨dev₁, newRepeatKey⟩ | dev₁
  · -- ran to the end: the report is copied and the repeat key armed
    dsimp only at h
    by_cases hrepeat : (newRepeatKey != 0) = true
    · rw [if_pos hrepeat] at h
      cases h
      exact ⟨rfl, rfl, .inr ⟨newRepeatKey, rfl, rfl⟩⟩
    · rw [if_neg hrepeat] at h
      cases h
      exact ⟨rfl, rfl, .inr ⟨newRepeatKey, rfl, rfl⟩⟩
  · -- returned early from the loop
    cases h
    exact ⟨rfl, rfl, .inl rfl⟩

/-- `GetKeyDescriptor` finds an entry only for a key code in `[0x4, 0x65]` or `[0xe0, 0xe7]`,
and it is the layout's. -/
theorem getKeyDescriptor_eq_some {layout : UInt8 → KeyModifier} {keyCode : UInt8}
    {modifier : KeyModifier} (h : getKeyDescriptor layout keyCode = some modifier) :
    modifier = layout keyCode ∧ 4 ≤ keyCode.toNat ∧
      (keyCode.toNat ≤ 0x65 ∨ 0xe0 ≤ keyCode.toNat ∧ keyCode.toNat ≤ 0xe7) := by
  unfold getKeyDescriptor at h
  split_ifs at h with hrange
  cases h
  simp only [hidkbdValidKeycode, Bool.or_eq_true, Bool.not_eq_true', decide_eq_false_iff_not,
    Bool.and_eq_true, decide_eq_true_eq, not_or, not_and, not_lt, UInt8.lt_iff_toNat_lt] at hrange
  simp only [UInt8.toNat_ofNat] at hrange
  refine ⟨rfl, ?_⟩
  omega

section Process

variable {allocatePool : Nat → Bool} {layout : UInt8 → KeyModifier} {fuel : Nat}
  {buffer : List UInt8} {dev dev' : HidKbDev}

/-- What `ProcessKeyStroke` can do: return at once, or run against a last report that is the
device's or the zeroed one it allocates, on the device with that last report. -/
theorem processKeyStroke_cases
    (h : processKeyStroke allocatePool layout fuel buffer dev = some dev') :
    dev' = dev ∨ ∃ lastReport report dev₀,
      report.bytes = buffer ∧ dev₀.lastReport = some lastReport ∧
      (dev.lastReport = some lastReport ∨ lastReport = emptyReport) ∧
      keyFlags dev₀ = keyFlags dev ∧ dev₀.hidKeyQueue = dev.hidKeyQueue ∧
      processKeyStrokeWith allocatePool layout fuel lastReport report dev₀ = some dev' := by
  unfold processKeyStroke at h
  by_cases hshort : buffer.length < inputReportHeaderSize
  · rw [dif_pos hshort] at h
    cases h
    exact .inl rfl
  rw [dif_neg hshort] at h
  rcases hlast : dev.lastReport with _ | lastReport
  · rw [hlast] at h
    dsimp only at h
    by_cases halloc : allocatePool inputReportHeaderSize = true
    · rw [if_pos halloc] at h
      exact .inr ⟨emptyReport, _, { dev with lastReport := some emptyReport }, rfl, rfl, .inr rfl,
        rfl, rfl, h⟩
    · rw [if_neg halloc] at h
      cases h
      exact .inl rfl
  · rw [hlast] at h
    exact .inr ⟨lastReport, _, dev, rfl, hlast, .inl rfl, rfl, rfl, h⟩

/-- `ProcessKeyStroke` leaves the shift and lock flags alone. -/
theorem processKeyStroke_keyFlags
    (h : processKeyStroke allocatePool layout fuel buffer dev = some dev') :
    keyFlags dev' = keyFlags dev := by
  rcases processKeyStroke_cases h with rfl | ⟨lastReport, report, dev₀, -, -, -, hflags, -, hwith⟩
  · rfl
  obtain ⟨repeatKey, exit, hpress, hflags', -, -⟩ := processKeyStrokeWith_cases hwith
  rw [hflags', ← hflags]
  exact keyPressLoop_invariant (fun d => keyFlags d = keyFlags dev₀) (fun _ _ h => h)
    (fun _ h => h) _ _ _ _ (by rfl) exit hpress

/-- `ProcessKeyStroke` queues only presses and changes of the modifier byte. -/
theorem processKeyStroke_queuedKey
    (h : processKeyStroke allocatePool layout fuel buffer dev = some dev')
    (hdev : ∀ hidKey ∈ dev.hidKeyQueue.items, QueuedKey hidKey) :
    ∀ hidKey ∈ dev'.hidKeyQueue.items, QueuedKey hidKey := by
  rcases processKeyStroke_cases h with rfl | ⟨lastReport, report, dev₀, -, -, -, -, hqueue, hwith⟩
  · exact hdev
  obtain ⟨repeatKey, exit, hpress, -, hqueue', -⟩ := processKeyStrokeWith_cases hwith
  rw [hqueue']
  refine keyPressLoop_invariant (fun d => ∀ hidKey ∈ d.hidKeyQueue.items, QueuedKey hidKey)
    ?_ (fun _ h => h) _ _ _ _ ?_ exit hpress
  · -- a pressed key is queued down
    intro d key hd hidKey hmem
    rw [RingQueue.items_enqueue] at hmem
    rcases RingQueue.mem_boundedPush hmem with hmem | rfl
    · exact hd hidKey hmem
    · exact .inl rfl
  · -- the modifier changes come before the loop
    intro hidKey hmem
    dsimp only at hmem
    rw [← (RingQueue.represents_items _).enqueueAll _ |>.eq_items] at hmem
    rcases RingQueue.mem_foldl_boundedPush hmem with hmem | hmem
    · rw [hqueue] at hmem
      exact hdev hidKey hmem
    · exact .inr (modifierKeyChanges_keyCode hmem).1

/-- After `ProcessKeyStroke`, `LastReport` still has fewer than 256 key codes: the report is
copied only once the key-press loop has run to the end, which a report of 256 or more key codes
never lets it do. -/
theorem processKeyStroke_lastReportShort
    (h : processKeyStroke allocatePool layout fuel buffer dev = some dev')
    (hdev : LastReportShort dev) : LastReportShort dev' := by
  rcases processKeyStroke_cases h with
    rfl | ⟨lastReport, report, dev₀, -, hlast₀, hlast, -, -, hwith⟩
  · exact hdev
  have hshort : lastReport.keyCode.length < 256 := by
    rcases hlast with hlast | rfl
    · exact hdev lastReport hlast
    · decide
  obtain ⟨repeatKey, exit, hpress, -, -, hreport⟩ := processKeyStrokeWith_cases hwith
  intro r hr
  rcases hreport with hreport | ⟨newRepeatKey, hdone, hreport⟩
  · have hkeep := keyPressLoop_invariant (fun d => d.lastReport = some lastReport)
      (fun _ _ h => h) (fun _ h => h) _ _ _ _ (by exact hlast₀) exit hpress
    rw [hreport, hkeep, Option.some.injEq] at hr
    rw [← hr]
    exact hshort
  · rw [hdone] at hpress
    have hlen := keyPressLoop_done_length _ _ _ _ _ _ hpress
    rw [hreport] at hr
    split_ifs at hr
    cases hr
    exact hlen

/-- `ProcessKeyStroke` against a last report returns when both reports have fewer than 256 key
codes: each loop then ends within its `fuel` passes. -/
theorem processKeyStrokeWith_isSome {lastReport report : InputReport}
    (hlast : lastReport.keyCode.length < 256) (hcurrent : report.keyCode.length < 256)
    (hfuel : 256 ≤ fuel) :
    (processKeyStrokeWith allocatePool layout fuel lastReport report dev).isSome := by
  have hzero : (0 : UInt8).toNat = 0 := rfl
  obtain ⟨repeatKey, hrelease⟩ := Option.isSome_iff_exists.mp
    (keyReleaseLoop_start_isSome hlast hcurrent hfuel dev.repeatKey)
  obtain ⟨exit, hpress⟩ := Option.isSome_iff_exists.mp
    (@keyPressLoop_isSome layout fuel _ _ hlast hcurrent
      (show lastReport.keyCode.length < fuel by omega) fuel 0
      { dev with
        hidKeyQueue := (modifierKeyChanges report.modifierKeys lastReport.modifierKeys).foldl
          RingQueue.enqueue dev.hidKeyQueue
        repeatKey := repeatKey } 0 (by rw [hzero]; exact Nat.zero_le _) (by rw [hzero]; omega))
  unfold processKeyStrokeWith
  rw [hrelease]
  dsimp only
  rw [hpress]
  rcases exit with ⟨dev₁, newRepeatKey⟩ | dev₁
  · rfl
  · rfl

/-- `ProcessKeyStroke` returns when the report has fewer than 256 key codes and `LastReport`
too. -/
theorem processKeyStroke_isSome (hdev : LastReportShort dev)
    (hbuffer : buffer.length < inputReportHeaderSize + 256) (hfuel : 256 ≤ fuel) :
    (processKeyStroke allocatePool layout fuel buffer dev).isSome := by
  unfold processKeyStroke
  by_cases hshort : buffer.length < inputReportHeaderSize
  · rw [dif_pos hshort]
    rfl
  rw [dif_neg hshort]
  have hcurrent : (buffer.drop inputReportHeaderSize).length < 256 := by
    rw [List.length_drop]
    omega
  rcases hlast : dev.lastReport with _ | lastReport
  · -- the first report: `LastReport` is allocated zeroed, unless the allocation fails
    dsimp only
    by_cases halloc : allocatePool inputReportHeaderSize = true
    · rw [if_pos halloc]
      exact processKeyStrokeWith_isSome (by decide) hcurrent hfuel
    · rw [if_neg halloc]
      rfl
  · exact processKeyStrokeWith_isSome (hdev lastReport hlast) hcurrent hfuel

end Process

theorem hidProcessModifierKey_lastReport {layout : UInt8 → KeyModifier} {dev dev' : HidKbDev}
    {hidKey : HidKey} {status : EfiStatus}
    (h : hidProcessModifierKey layout dev hidKey = .returned (status, dev')) :
    dev'.lastReport = dev.lastReport := by
  rcases hidProcessModifierKey_returned h with ⟨-, rfl⟩ | ⟨modifier, -, rfl⟩
  · rfl
  · exact updateModifierState_lastReport _ _ _

section Drain

variable {layout : UInt8 → KeyModifier}

/-- The drain loop returns within one pass more than the ring can hold keys. -/
theorem drainHidKeyQueue_isSome {passes : Nat} (hpasses : maxKeyAllowed < passes)
    (dev : HidKbDev) : (drainHidKeyQueue layout passes dev).isSome := by
  have hq := RingQueue.represents_items dev.hidKeyQueue
  rw [drainHidKeyQueue_eq passes dev hq (lt_of_le_of_lt hq.length_le hpasses)]
  rfl

/-- A property that `HIDProcessModifierKey` keeps on the keys of a class `Q`, and that the queue
does not affect, holds when the drain loop returns, and the queue is then empty; every queued
key must be in `Q`. The induction is on the passes, carrying `Q` over the queue's items. -/
theorem drainHidKeyQueue_invariant (Inv : HidKbDev → Prop) (Q : HidKey → Prop)
    (hkey : ∀ dev hidKey status dev', Inv dev → Q hidKey →
      hidProcessModifierKey layout dev hidKey = .returned (status, dev') → Inv dev')
    (hqueue : ∀ dev queue, Inv dev → Inv { dev with hidKeyQueue := queue }) (passes : Nat) :
    ∀ dev dev', Inv dev → (∀ hidKey ∈ dev.hidKeyQueue.items, Q hidKey) →
      drainHidKeyQueue layout passes dev = some (.returned dev') →
      Inv dev' ∧ dev'.hidKeyQueue.items = [] := by
  induction passes with
  | zero =>
    intro dev dev' _ _ h
    cases h
  | succ passes ih =>
    intro dev dev' hdev hitems h
    rw [drainHidKeyQueue] at h
    rcases hdequeue : dev.hidKeyQueue.dequeue with _ | ⟨hidKey, queue⟩
    · -- `Dequeue` fails only on an empty queue, and the loop stops there
      rw [hdequeue] at h
      cases h
      exact ⟨hdev, RingQueue.items_of_dequeue_none hdequeue⟩
    rw [hdequeue] at h
    dsimp only at h
    have hcons := RingQueue.items_of_dequeue hdequeue
    rcases hstep : hidProcessModifierKey layout { dev with hidKeyQueue := queue } hidKey with
      ⟨⟨status, dev₁⟩⟩ | _
    · rw [hstep] at h
      have hdev₁ := hkey _ hidKey status dev₁ (hqueue dev queue hdev)
        (hitems hidKey (by rw [hcons]; exact List.mem_cons_self)) hstep
      refine ih dev₁ dev' hdev₁ ?_ h
      intro k hk
      rw [hidProcessModifierKey_hidKeyQueue hstep] at hk
      exact hitems k (by rw [hcons]; exact List.mem_cons_of_mem _ hk)
    · rw [hstep] at h
      cases h

end Drain

/-- What holds of the device between two calls of the callback: `LastReport` has fewer than 256
key codes, and the key queue is empty. -/
structure KeyboardInv (dev : HidKbDev) : Prop where
  lastReportShort : LastReportShort dev
  queue_eq_nil : dev.hidKeyQueue.items = []

theorem keyboardInv_initHidKeyboard (buffer : Fin (maxKeyAllowed + 1) → HidKey) :
    KeyboardInv (initHidKeyboard buffer) where
  lastReportShort := by
    intro report h
    cases h
  queue_eq_nil := (RingQueue.represents_init buffer).eq_items.symm

section Callback

variable {allocatePool : Nat → Bool} {layout : UInt8 → KeyModifier} {fuel : Nat}
  {buffer : List UInt8} {dev dev' : HidKbDev}

theorem hidProcessKeyStrokesCallback_cases
    (h : hidProcessKeyStrokesCallback allocatePool layout fuel buffer dev = some (.returned dev')) :
    ∃ dev₁, processKeyStroke allocatePool layout fuel buffer dev = some dev₁ ∧
      drainHidKeyQueue layout fuel dev₁ = some (.returned dev') :=
  Option.bind_eq_some_iff.mp h

/-- The callback returns when the report has fewer than 256 key codes and `LastReport` too. -/
theorem hidProcessKeyStrokesCallback_isSome (hdev : LastReportShort dev)
    (hbuffer : buffer.length < inputReportHeaderSize + 256) (hfuel : 256 ≤ fuel) :
    (hidProcessKeyStrokesCallback allocatePool layout fuel buffer dev).isSome := by
  obtain ⟨dev₁, hprocess⟩ :=
    Option.isSome_iff_exists.mp (@processKeyStroke_isSome allocatePool layout fuel buffer dev
      hdev hbuffer hfuel)
  rw [hidProcessKeyStrokesCallback, hprocess, Option.bind_some]
  exact drainHidKeyQueue_isSome (lt_of_lt_of_le (by decide) hfuel) dev₁

/-- A returning call keeps `KeyboardInv`: `ProcessKeyStroke` keeps `LastReport` short and the
drain loop, which never writes `LastReport`, empties the queue. -/
theorem hidProcessKeyStrokesCallback_keyboardInv (hdev : KeyboardInv dev)
    (h : hidProcessKeyStrokesCallback allocatePool layout fuel buffer dev = some (.returned dev')) :
    KeyboardInv dev' := by
  obtain ⟨dev₁, hprocess, hdrain⟩ := hidProcessKeyStrokesCallback_cases h
  have hshort := processKeyStroke_lastReportShort hprocess hdev.lastReportShort
  obtain ⟨hlast, hempty⟩ := drainHidKeyQueue_invariant
    (fun d => d.lastReport = dev₁.lastReport) (fun _ => True)
    (fun _ _ _ _ hd _ hstep => (hidProcessModifierKey_lastReport hstep).trans hd)
    (fun _ _ hd => hd) fuel dev₁ dev' rfl (fun _ _ => trivial) hdrain
  refine ⟨?_, hempty⟩
  intro report hreport
  rw [hlast] at hreport
  exact hshort report hreport

end Callback

section Run

variable {allocatePool : Nat → Bool} {layout : UInt8 → KeyModifier} {fuel : Nat}

/-- An invariant that every returning call on an admitted report keeps holds at the end of every
run on admitted reports that returns. The induction is on the reports. -/
theorem hidKeyboardRun_invariant (Inv : HidKbDev → Prop) (Ok : List UInt8 → Prop)
    (hstep : ∀ buffer dev dev', Ok buffer → Inv dev →
      hidProcessKeyStrokesCallback allocatePool layout fuel buffer dev = some (.returned dev') →
      Inv dev')
    (buffers : List (List UInt8)) (hbuffers : ∀ buffer ∈ buffers, Ok buffer) (dev dev' : HidKbDev)
    (hdev : Inv dev)
    (hrun : hidKeyboardRun allocatePool layout fuel buffers dev = some (.returned dev')) :
    Inv dev' := by
  induction buffers generalizing dev with
  | nil =>
    rw [hidKeyboardRun] at hrun
    cases hrun
    exact hdev
  | cons buffer buffers ih =>
    rw [hidKeyboardRun] at hrun
    rcases hcall : hidProcessKeyStrokesCallback allocatePool layout fuel buffer dev with
      _ | ⟨dev₁⟩ | _
    · rw [hcall] at hrun
      cases hrun
    · rw [hcall] at hrun
      exact ih (fun b hb => hbuffers b (List.mem_cons_of_mem _ hb)) dev₁
        (hstep buffer dev dev₁ (hbuffers buffer List.mem_cons_self) hdev hcall) hrun
    · rw [hcall] at hrun
      cases hrun

/-- A run returns when every call it makes from the invariant's states returns and keeps the
invariant. -/
theorem hidKeyboardRun_isSome_of (Inv : HidKbDev → Prop) (Ok : List UInt8 → Prop)
    (hcall : ∀ buffer dev, Ok buffer → Inv dev →
      (hidProcessKeyStrokesCallback allocatePool layout fuel buffer dev).isSome)
    (hstep : ∀ buffer dev dev', Inv dev →
      hidProcessKeyStrokesCallback allocatePool layout fuel buffer dev = some (.returned dev') →
      Inv dev')
    (buffers : List (List UInt8)) (hbuffers : ∀ buffer ∈ buffers, Ok buffer) (dev : HidKbDev)
    (hdev : Inv dev) :
    (hidKeyboardRun allocatePool layout fuel buffers dev).isSome := by
  induction buffers generalizing dev with
  | nil => rfl
  | cons buffer buffers ih =>
    rw [hidKeyboardRun]
    obtain ⟨result, hresult⟩ :=
      Option.isSome_iff_exists.mp (hcall buffer dev (hbuffers buffer List.mem_cons_self) hdev)
    rw [hresult]
    rcases result with ⟨dev₁⟩ | _
    · exact ih (fun b hb => hbuffers b (List.mem_cons_of_mem _ hb)) dev₁
        (hstep buffer dev dev₁ hdev hresult)
    · rfl

/-- A run whose reports each have fewer than 256 key codes returns, or resets the platform,
from every state the callback leaves between two calls: a report of 256 key codes is the only
way to make a call hang. -/
theorem hidKeyboardRun_isSome (hfuel : 256 ≤ fuel) (buffers : List (List UInt8))
    (hbuffers : ∀ buffer ∈ buffers, buffer.length < inputReportHeaderSize + 256)
    (dev : HidKbDev) (hdev : KeyboardInv dev) :
    (hidKeyboardRun allocatePool layout fuel buffers dev).isSome :=
  hidKeyboardRun_isSome_of KeyboardInv (fun buffer => buffer.length < inputReportHeaderSize + 256)
    (fun _ _ hbuffer hinv => hidProcessKeyStrokesCallback_isSome hinv.lastReportShort hbuffer hfuel)
    (fun _ _ _ hinv h => hidProcessKeyStrokesCallback_keyboardInv hinv h) buffers hbuffers dev hdev

/-- From the initial device, two reports: a press of `A`, then its release. -/
theorem hidKeyboardRun_isSome_pressA :
    (hidKeyboardRun (fun _ => true) defaultLayout 256 [[0, 0, 0x04], [0, 0, 0]]
      (initHidKeyboard fun _ => ⟨false, 0⟩)).isSome :=
  hidKeyboardRun_isSome (le_refl 256) _ (by decide) _
    (keyboardInv_initHidKeyboard fun _ => ⟨false, 0⟩)

end Run

/-! ### `SysReqOn` and `MenuKeyOn` under the default layout -/

section Sticky

variable {allocatePool : Nat → Bool} {fuel : Nat}

/-- `dev'` has `SysReqOn` and `MenuKeyOn` set wherever `dev` has. -/
def KeepsSysReqMenu (dev dev' : HidKbDev) : Prop :=
  (dev.sysReqOn = true → dev'.sysReqOn = true) ∧ (dev.menuKeyOn = true → dev'.menuKeyOn = true)

theorem KeepsSysReqMenu.refl (dev : HidKbDev) : KeepsSysReqMenu dev dev :=
  ⟨id, id⟩

theorem KeepsSysReqMenu.trans {dev₁ dev₂ dev₃ : HidKbDev} (h₁ : KeepsSysReqMenu dev₁ dev₂)
    (h₂ : KeepsSysReqMenu dev₂ dev₃) : KeepsSysReqMenu dev₁ dev₃ :=
  ⟨h₂.1 ∘ h₁.1, h₂.2 ∘ h₁.2⟩

/-- The default layout puts none of Menu, Print and SysRequest on the modifier byte. -/
theorem defaultLayout_modifierByte {keyCode : UInt8} (h₁ : 0xe0 ≤ keyCode.toNat)
    (h₂ : keyCode.toNat ≤ 0xe7) :
    ¬(defaultLayout keyCode = .print ∨ defaultLayout keyCode = .sysRequest) ∧
      defaultLayout keyCode ≠ .menu := by
  unfold defaultLayout
  generalize keyCode.toNat = t at h₁ h₂ ⊢
  interval_cases t <;> decide

/-- Under the default layout, a queued key never clears `SysReqOn` or `MenuKeyOn`: a press only
sets flags, and a release comes only from the modifier byte, where neither key sits. -/
theorem hidProcessModifierKey_keepsSysReqMenu {dev dev' : HidKbDev} {hidKey : HidKey}
    {status : EfiStatus} (hkey : QueuedKey hidKey)
    (h : hidProcessModifierKey defaultLayout dev hidKey = .returned (status, dev')) :
    KeepsSysReqMenu dev dev' := by
  rcases hidProcessModifierKey_returned h with ⟨-, rfl⟩ | ⟨modifier, hdesc, rfl⟩
  · exact KeepsSysReqMenu.refl _
  obtain ⟨rfl, -, hrange⟩ := getKeyDescriptor_eq_some hdesc
  unfold KeepsSysReqMenu
  rw [updateModifierState_sysReqOn, updateModifierState_menuKeyOn]
  rcases hkey with hdown | hbyte
  · -- a press: each flag is set, or left as it was
    rw [hdown]
    constructor
    · intro hsys
      split_ifs
      · rfl
      · exact hsys
    · intro hmenu
      split_ifs
      · rfl
      · exact hmenu
  · -- a change of the modifier byte: neither flag is written
    have hnot := defaultLayout_modifierByte hbyte (by omega)
    rw [if_neg hnot.1, if_neg hnot.2]
    exact ⟨id, id⟩

/-- One call from a state between calls keeps `SysReqOn` and `MenuKeyOn`, and leaves the queue
empty again. -/
theorem hidProcessKeyStrokesCallback_keepsSysReqMenu {buffer : List UInt8} {dev dev' : HidKbDev}
    (hdev : dev.hidKeyQueue.items = [])
    (h : hidProcessKeyStrokesCallback allocatePool defaultLayout fuel buffer dev =
      some (.returned dev')) :
    KeepsSysReqMenu dev dev' ∧ dev'.hidKeyQueue.items = [] := by
  obtain ⟨dev₁, hprocess, hdrain⟩ := hidProcessKeyStrokesCallback_cases h
  have hflags := processKeyStroke_keyFlags hprocess
  simp only [keyFlags, List.cons.injEq, and_true] at hflags
  obtain ⟨-, -, -, -, -, -, -, -, -, -, -, -, hmenu, hsys, -⟩ := hflags
  have hqueued := processKeyStroke_queuedKey hprocess (by
    intro hidKey hmem
    rw [hdev] at hmem
    cases hmem)
  have hkeep₁ : KeepsSysReqMenu dev dev₁ := by
    unfold KeepsSysReqMenu
    rw [hmenu, hsys]
    exact ⟨id, id⟩
  exact drainHidKeyQueue_invariant (KeepsSysReqMenu dev) QueuedKey
    (fun _ _ _ _ hd hk hstep => hd.trans (hidProcessModifierKey_keepsSysReqMenu hk hstep))
    (fun _ _ hd => hd) fuel dev₁ dev' hkeep₁ hqueued hdrain

/-- Under the default layout, once `SysReqOn` or `MenuKeyOn` is set it stays set for the rest of
every run: `ProcessKeyStroke` never queues the release of Print, SysRequest or Menu, so
`HIDProcessModifierKey` never clears them, and `InitializeKeyState` keeps reporting
`EFI_SYS_REQ_PRESSED` and `EFI_MENU_KEY_PRESSED`. -/
theorem hidKeyboardRun_keeps_sysReqOn (buffers : List (List UInt8)) (dev dev' : HidKbDev)
    (hdev : dev.hidKeyQueue.items = [])
    (hrun : hidKeyboardRun allocatePool defaultLayout fuel buffers dev = some (.returned dev')) :
    (dev.sysReqOn = true → dev'.sysReqOn = true) ∧
      (dev.menuKeyOn = true → dev'.menuKeyOn = true) :=
  (hidKeyboardRun_invariant (fun d => KeepsSysReqMenu dev d ∧ d.hidKeyQueue.items = [])
    (fun _ => True)
    (fun _ _ _ _ hd h =>
      have hcall := hidProcessKeyStrokesCallback_keepsSysReqMenu hd.2 h
      ⟨hd.1.trans hcall.1, hcall.2⟩)
    buffers (fun _ _ => trivial) dev dev' ⟨KeepsSysReqMenu.refl dev, hdev⟩ hrun).1

/-- Print Screen held, then released: `SysReqOn` stays set. -/
theorem hidKeyboardRun_keeps_sysReqOn_print :
    ∃ dev', hidKeyboardRun (fun _ => true) defaultLayout 256 [[0, 0, 0]]
        { initHidKeyboard (fun _ => ⟨false, 0⟩) with
          lastReport := some ⟨[0, 0, 0x46], by decide⟩, sysReqOn := true } =
        some (.returned dev') ∧ dev'.sysReqOn = true := by
  obtain ⟨dev', hrun⟩ : ∃ dev', hidKeyboardRun (fun _ => true) defaultLayout 256 [[0, 0, 0]]
      { initHidKeyboard (fun _ => ⟨false, 0⟩) with
        lastReport := some ⟨[0, 0, 0x46], by decide⟩, sysReqOn := true } =
      some (.returned dev') := ⟨_, rfl⟩
  exact ⟨dev', hrun, (hidKeyboardRun_keeps_sysReqOn _ _ _ rfl hrun).1 rfl⟩

end Sticky

end MuPlus.Hid
