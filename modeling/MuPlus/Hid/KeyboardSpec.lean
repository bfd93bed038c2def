import MuPlus.Hid.Keyboard

/-!
# MuPlus.Hid.KeyboardSpec

**What one boot-keyboard report does to the device.** `MuPlus.Hid.Keyboard` runs the loops of
`ProcessKeyStroke` pass by pass. This module states what they compute when both reports have
fewer than 256 key codes, and what the callback's drain loop does with the queued keys:

* `heldIn` and `newKeys`: a key code is held when a report lists it as a valid key code, and
  the newly pressed ones are the current report's valid key codes that the last report does
  not hold, in report order (a code listed twice is pressed twice);
* `findKeyCode_eq`, `keyReleaseLoop_eq` and `keyPressLoop_eq`: the three loops against them;
* `keyStrokeEffect` and `processKeyStrokeWith_eq`: `ProcessKeyStroke` queues the modifier-bit
  changes and then the newly pressed keys, replaces `LastReport` and moves `RepeatKey`;
* `processHidKeys` and `drainHidKeyQueue_eq`: the drain loop hands the queued keys to
  `HIDProcessModifierKey` in order and leaves the queue empty.
-/

namespace MuPlus.Hid

/-! ### Held and newly pressed key codes -/

/-- `key` is a valid key code of `keys`: what the inner loops of `ProcessKeyStroke` look for. -/
def heldIn (keys : List UInt8) (key : UInt8) : Bool :=
  keys.any fun k => hidkbdValidKeycode k && k == key

/-- The newly pressed key codes of `current`: its valid key codes that `last` does not hold,
in report order. -/
def newKeys (last current : List UInt8) : List UInt8 :=
  current.filter fun k => hidkbdValidKeycode k && !heldIn last k

/-- `RepeatKey` after the key-release loop: 0 when it is a valid key code of the last report
that the current one no longer holds. -/
def releasedRepeatKey (last current : List UInt8) (repeatKey : UInt8) : UInt8 :=
  if last.any (fun k => hidkbdValidKeycode k && !heldIn current k && k == repeatKey) then 0
  else repeatKey

/-- NumLock and CapsLock, the keys `ProcessKeyStroke` does not repeat. -/
def isLockKey (layout : UInt8 → KeyModifier) (key : UInt8) : Bool :=
  getKeyDescriptor layout key == some .numLock || getKeyDescriptor layout key == some .capsLock

/-- `NewRepeatKey` after the key-press loop: the last newly pressed key that repeats. -/
def newRepeatKeyOf (layout : UInt8 → KeyModifier) (keys : List UInt8) (newRepeatKey : UInt8) :
    UInt8 :=
  keys.foldl (fun r k => if isLockKey layout k then r else k) newRepeatKey

/-- The device once the key-press loop has queued `keys` down; each of them clears
`RepeatKey`. -/
def pressKeys (dev : HidKbDev) (keys : List UInt8) : HidKbDev :=
  { dev with
    hidKeyQueue := (keys.map (HidKey.mk true)).foldl RingQueue.enqueue dev.hidKeyQueue
    repeatKey := if keys = [] then dev.repeatKey else 0 }

/-- What `ProcessKeyStroke` does against an existing last report when every newly pressed key
has a descriptor: the modifier changes and the key releases, then the key presses, then the
copy of the report and the new repeat key. -/
def keyStrokeEffect (allocatePool : Nat → Bool) (layout : UInt8 → KeyModifier)
    (last current : InputReport) (dev : HidKbDev) : HidKbDev :=
  let keys := newKeys last.keyCode current.keyCode
  let released := { dev with
    hidKeyQueue := (modifierKeyChanges current.modifierKeys last.modifierKeys).foldl
      RingQueue.enqueue dev.hidKeyQueue
    repeatKey := releasedRepeatKey last.keyCode current.keyCode dev.repeatKey }
  let pressed := { pressKeys released keys with
    lastReport := if allocatePool current.bytes.length then some current else none }
  if newRepeatKeyOf layout keys 0 != 0 then { pressed with repeatKey := newRepeatKeyOf layout keys 0 }
  else pressed

theorem heldIn_drop {keys : List UInt8} {i : Nat} (h : i < keys.length) (key : UInt8) :
    heldIn (keys.drop i) key =
      ((hidkbdValidKeycode keys[i] && keys[i] == key) || heldIn (keys.drop (i + 1)) key) := by
  rw [List.drop_eq_getElem_cons h, heldIn, List.any_cons]
  rfl

theorem newKeys_drop {last current : List UInt8} {i : Nat} (h : i < current.length) :
    newKeys last (current.drop i) =
      if hidkbdValidKeycode current[i] && !heldIn last current[i] then
        current[i] :: newKeys last (current.drop (i + 1))
      else newKeys last (current.drop (i + 1)) := by
  rw [List.drop_eq_getElem_cons h, newKeys, List.filter_cons]
  rfl

theorem releasedRepeatKey_cons (key : UInt8) (last current : List UInt8) (repeatKey : UInt8) :
    releasedRepeatKey (key :: last) current repeatKey =
      releasedRepeatKey last current
        (if hidkbdValidKeycode key && !heldIn current key && key == repeatKey then 0
         else repeatKey) := by
  by_cases hkey : (hidkbdValidKeycode key && !heldIn current key && key == repeatKey) = true
  · -- the repeat key is released here, and 0 stays 0
    rw [if_pos hkey, releasedRepeatKey, List.any_cons, hkey, Bool.true_or, if_pos rfl,
      releasedRepeatKey, ite_self]
  · rw [if_neg hkey, releasedRepeatKey, List.any_cons, Bool.eq_false_iff.mpr hkey,
      Bool.false_or]
    rfl

theorem pressKeys_nil (dev : HidKbDev) : pressKeys dev [] = dev :=
  rfl

theorem pressKeys_cons (dev : HidKbDev) (key : UInt8) (keys : List UInt8) :
    pressKeys dev (key :: keys) =
      pressKeys { dev with
        hidKeyQueue := dev.hidKeyQueue.enqueue ⟨true, key⟩
        repeatKey := 0 } keys := by
  simp only [pressKeys, List.map_cons, List.foldl_cons, reduceCtorEq, if_false, ite_self]

theorem newRepeatKeyOf_cons (layout : UInt8 → KeyModifier) (key : UInt8) (keys : List UInt8)
    (newRepeatKey : UInt8) :
    newRepeatKeyOf layout (key :: keys) newRepeatKey =
      newRepeatKeyOf layout keys (if isLockKey layout key then newRepeatKey else key) :=
  rfl

theorem isLockKey_of_getKeyDescriptor {layout : UInt8 → KeyModifier} {key : UInt8}
    {modifier : KeyModifier} (h : getKeyDescriptor layout key = some modifier) :
    isLockKey layout key = (modifier == .numLock || modifier == .capsLock) := by
  rw [isLockKey, h]
  cases modifier <;> rfl

/-! ### The loops of `ProcessKeyStroke` -/

section Loops

variable {layout : UInt8 → KeyModifier} {fuel : Nat} {last current : List UInt8}

/-- Below 256 key codes and with enough passes, the inner loop finds whether the key code is
held among the key codes from its counter on. -/
theorem findKeyCode_eq {keys : List UInt8} {key : UInt8} (hkeys : keys.length < 256)
    (passes : Nat) (i : UInt8) :
    i.toNat ≤ keys.length → keys.length < passes + i.toNat →
      findKeyCode keys key passes i = some (heldIn (keys.drop i.toNat) key) := by
  fun_induction findKeyCode keys key passes i with
  | case1 i => intro _ _; omega
  | case2 passes i hlt hfound =>
    intro _ _
    rw [heldIn_drop hlt, hfound, Bool.true_or]
  | case3 passes i hlt hfound ih =>
    intro _ hpasses
    have hstep := toNat_add_one_of_lt (i := i) (by omega)
    rw [ih (by omega) (by omega), heldIn_drop hlt, Bool.eq_false_iff.mpr hfound, Bool.false_or,
      hstep]
  | case4 passes i hge =>
    intro _ _
    rw [List.drop_of_length_le (by omega)]
    rfl

/-- The search that starts a key loop, over the whole other report. -/
theorem findKeyCode_zero {keys : List UInt8} (hkeys : keys.length < 256)
    (hfuel : keys.length < fuel) (key : UInt8) :
    findKeyCode keys key fuel 0 = some (heldIn keys key) := by
  rw [findKeyCode_eq hkeys fuel 0 (Nat.zero_le _) (by simpa using hfuel)]
  rfl

/-- The key-release loop clears the repeat key exactly when it is released. -/
theorem keyReleaseLoop_eq (hlast : last.length < 256) (hcurrent : current.length < 256)
    (hfuel : current.length < fuel) (passes : Nat) (lastKeyCode repeatKey : UInt8) :
    lastKeyCode.toNat ≤ last.length → last.length < passes + lastKeyCode.toNat →
      keyReleaseLoop fuel last current passes lastKeyCode repeatKey =
        some (releasedRepeatKey (last.drop lastKeyCode.toNat) current repeatKey) := by
  fun_induction keyReleaseLoop fuel last current passes lastKeyCode repeatKey with
  | case1 => intro _ _; omega
  | case2 _ lastKeyCode _ hlt _ hnone =>
    intro _ _
    rw [findKeyCode_zero hcurrent hfuel] at hnone
    cases hnone
  | case3 passes lastKeyCode repeatKey hlt hvalid found hfind ih =>
    intro _ hpasses
    have hstep := toNat_add_one_of_lt (i := lastKeyCode) (by omega)
    rw [findKeyCode_zero hcurrent hfuel, Option.some.injEq] at hfind
    rw [ih (by omega) (by omega), List.drop_eq_getElem_cons hlt, releasedRepeatKey_cons,
      hvalid, Bool.true_and, hfind, hstep]
  | case4 passes lastKeyCode repeatKey hlt hvalid ih =>
    intro _ hpasses
    have hstep := toNat_add_one_of_lt (i := lastKeyCode) (by omega)
    rw [ih (by omega) (by omega), List.drop_eq_getElem_cons hlt, releasedRepeatKey_cons,
      Bool.eq_false_iff.mpr hvalid, Bool.false_and, Bool.false_and, if_neg Bool.false_ne_true,
      hstep]
  | case5 passes lastKeyCode repeatKey hge =>
    intro _ _
    rw [List.drop_of_length_le (by omega)]
    rfl

/-- When every newly pressed key has a descriptor, the key-press loop runs to the end, queueing
the newly pressed keys in order and picking the last one that repeats. -/
theorem keyPressLoop_eq (hlast : last.length < 256) (hcurrent : current.length < 256)
    (hfuel : last.length < fuel) (passes : Nat) (keyCode : UInt8) (dev : HidKbDev)
    (newRepeatKey : UInt8) :
    keyCode.toNat ≤ current.length → current.length < passes + keyCode.toNat →
      (∀ k ∈ newKeys last (current.drop keyCode.toNat), (getKeyDescriptor layout k).isSome) →
      keyPressLoop layout fuel last current passes keyCode dev newRepeatKey =
        some (.done (pressKeys dev (newKeys last (current.drop keyCode.toNat)))
          (newRepeatKeyOf layout (newKeys last (current.drop keyCode.toNat)) newRepeatKey)) := by
  fun_induction keyPressLoop layout fuel last current passes keyCode dev newRepeatKey with
  | case1 => intro _ _ _; omega
  | case2 _ keyCode _ _ hlt _ hnone =>
    intro _ _ _
    rw [findKeyCode_zero hlast hfuel] at hnone
    cases hnone
  | case3 passes keyCode dev newRepeatKey hlt hvalid hheld ih =>
    -- held in the last report: not newly pressed
    intro _ hpasses hdesc
    have hstep := toNat_add_one_of_lt (i := keyCode) (by omega)
    rw [findKeyCode_zero hlast hfuel, Option.some.injEq] at hheld
    have hnew : newKeys last (current.drop keyCode.toNat) =
        newKeys last (current.drop (keyCode.toNat + 1)) := by
      rw [newKeys_drop hlt, hvalid, hheld]
      rfl
    rw [hnew, ← hstep] at hdesc ⊢
    exact ih (by omega) (by omega) hdesc
  | case4 _ keyCode _ _ hlt hvalid hheld _ hnone =>
    intro _ _ hdesc
    rw [findKeyCode_zero hlast hfuel, Option.some.injEq] at hheld
    have hmem : current[keyCode.toNat] ∈ newKeys last (current.drop keyCode.toNat) := by
      rw [newKeys_drop hlt, hvalid, hheld]
      exact List.mem_cons_self
    have hsome := hdesc _ hmem
    rw [hnone] at hsome
    cases hsome
  | case5 passes keyCode dev newRepeatKey hlt hvalid hheld _ modifier hmodifier ih =>
    -- newly pressed with a descriptor: queued, and the repeat key moves unless it is a lock
    intro _ hpasses hdesc
    have hstep := toNat_add_one_of_lt (i := keyCode) (by omega)
    rw [findKeyCode_zero hlast hfuel, Option.some.injEq] at hheld
    have hnew : newKeys last (current.drop keyCode.toNat) =
        current[keyCode.toNat] :: newKeys last (current.drop (keyCode.toNat + 1)) := by
      rw [newKeys_drop hlt, hvalid, hheld]
      rfl
    rw [hnew] at hdesc ⊢
    rw [← hstep] at hdesc ⊢
    rw [ih (by omega) (by omega) (fun k hk => hdesc k (List.mem_cons_of_mem _ hk)),
      pressKeys_cons, newRepeatKeyOf_cons, isLockKey_of_getKeyDescriptor hmodifier]
  | case6 passes keyCode dev newRepeatKey hlt hvalid ih =>
    intro _ hpasses hdesc
    have hstep := toNat_add_one_of_lt (i := keyCode) (by omega)
    have hnew : newKeys last (current.drop keyCode.toNat) =
        newKeys last (current.drop (keyCode.toNat + 1)) := by
      rw [newKeys_drop hlt, Bool.eq_false_iff.mpr hvalid]
      rfl
    rw [hnew, ← hstep] at hdesc ⊢
    exact ih (by omega) (by omega) hdesc
  | case7 passes keyCode dev newRepeatKey hge =>
    intro _ _ _
    rw [List.drop_of_length_le (by omega)]
    rfl

/-- The key-release loop as `ProcessKeyStroke` starts it returns when both reports have fewer
than 256 key codes. -/
theorem keyReleaseLoop_start_isSome (hlast : last.length < 256) (hcurrent : current.length < 256)
    (hfuel : 256 ≤ fuel) (repeatKey : UInt8) :
    (keyReleaseLoop fuel last current fuel 0 repeatKey).isSome := by
  have hzero : (0 : UInt8).toNat = 0 := rfl
  exact keyReleaseLoop_isSome hlast hcurrent (by omega) fuel 0 repeatKey
    (by rw [hzero]; exact Nat.zero_le _) (by rw [hzero]; omega)

/-- When a newly pressed key code has no descriptor, the key-press loop returns early, with
`LastReport` as it was. -/
theorem keyPressLoop_returned (hlast : last.length < 256) (hcurrent : current.length < 256)
    (hfuel : last.length < fuel) (passes : Nat) (keyCode : UInt8) (dev : HidKbDev)
    (newRepeatKey : UInt8) :
    keyCode.toNat ≤ current.length → current.length < passes + keyCode.toNat →
      (∃ k ∈ newKeys last (current.drop keyCode.toNat), getKeyDescriptor layout k = none) →
      ∃ dev', keyPressLoop layout fuel last current passes keyCode dev newRepeatKey =
        some (.returned dev') ∧ dev'.lastReport = dev.lastReport := by
  fun_induction keyPressLoop layout fuel last current passes keyCode dev newRepeatKey with
  | case1 => intro _ _ _; omega
  | case2 _ keyCode _ _ hlt _ hnone =>
    intro _ _ _
    rw [findKeyCode_zero hlast hfuel] at hnone
    cases hnone
  | case3 passes keyCode dev newRepeatKey hlt hvalid hheld ih =>
    intro _ hpasses hkey
    have hstep := toNat_add_one_of_lt (i := keyCode) (by omega)
    rw [findKeyCode_zero hlast hfuel, Option.some.injEq] at hheld
    rw [newKeys_drop hlt, hvalid, hheld, ← hstep] at hkey
    exact ih (by omega) (by omega) hkey
  | case4 => intro _ _ _; exact ⟨_, rfl, rfl⟩
  | case5 passes keyCode dev newRepeatKey hlt hvalid hheld _ modifier hmodifier ih =>
    -- this key has a descriptor, so the one without is further on
    intro _ hpasses hkey
    have hstep := toNat_add_one_of_lt (i := keyCode) (by omega)
    rw [findKeyCode_zero hlast hfuel, Option.some.injEq] at hheld
    rw [newKeys_drop hlt, hvalid, hheld] at hkey
    obtain ⟨k, hk, hnone⟩ := hkey
    rcases List.mem_cons.mp hk with rfl | hk
    · rw [hmodifier] at hnone
      cases hnone
    rw [← hstep] at hk
    exact ih (by omega) (by omega) ⟨k, hk, hnone⟩
  | case6 passes keyCode dev newRepeatKey hlt hvalid ih =>
    intro _ hpasses hkey
    have hstep := toNat_add_one_of_lt (i := keyCode) (by omega)
    rw [newKeys_drop hlt, Bool.eq_false_iff.mpr hvalid, ← hstep] at hkey
    exact ih (by omega) (by omega) hkey
  | case7 passes keyCode dev newRepeatKey hge =>
    intro _ _ hkey
    rw [List.drop_of_length_le (by omega)] at hkey
    obtain ⟨k, hk, -⟩ := hkey
    cases hk

/-- With both reports below 256 key codes, enough passes and a descriptor for every newly
pressed key, `ProcessKeyStroke` against the last report does `keyStrokeEffect`. -/
theorem processKeyStrokeWith_eq {allocatePool : Nat → Bool} {lastReport report : InputReport}
    {dev : HidKbDev} (hlast : lastReport.keyCode.length < 256)
    (hcurrent : report.keyCode.length < 256) (hfuel : 256 ≤ fuel)
    (hdesc : ∀ k ∈ newKeys lastReport.keyCode report.keyCode, (getKeyDescriptor layout k).isSome) :
    processKeyStrokeWith allocatePool layout fuel lastReport report dev =
      some (keyStrokeEffect allocatePool layout lastReport report dev) := by
  have hzero : (0 : UInt8).toNat = 0 := rfl
  have hrelease := keyReleaseLoop_eq hlast hcurrent
    (show report.keyCode.length < fuel by omega) fuel 0 dev.repeatKey
    (by rw [hzero]; exact Nat.zero_le _) (by rw [hzero]; omega)
  rw [hzero, List.drop_zero] at hrelease
  rw [processKeyStrokeWith, hrelease]
  dsimp only
  rw [keyPressLoop_eq hlast hcurrent (show lastReport.keyCode.length < fuel by omega) fuel 0 _ 0
    (by rw [hzero]; exact Nat.zero_le _)
    (by rw [hzero]; omega) (by rwa [hzero, List.drop_zero])]
  simp only [hzero, List.drop_zero]
  rfl

/-- `ProcessKeyStroke` on a whole report when `LastReport` exists. -/
theorem processKeyStroke_of_lastReport {allocatePool : Nat → Bool} {lastReport : InputReport}
    {dev : HidKbDev} (hdev : dev.lastReport = some lastReport) (report : InputReport) :
    processKeyStroke allocatePool layout fuel report.bytes dev =
      processKeyStrokeWith allocatePool layout fuel lastReport report dev := by
  unfold processKeyStroke
  rw [dif_neg (Nat.not_lt.mpr report.header_le), hdev]

/-- A report that newly presses a key code without a descriptor (a valid code from 0x66 to
0xdf, or above 0xe7) is dropped: `ProcessKeyStroke` returns before it replaces `LastReport`, so
the next report is compared with the one before it, while the modifier changes it queued are
processed. -/
theorem processKeyStroke_keeps_lastReport {allocatePool : Nat → Bool}
    {lastReport report : InputReport} {dev : HidKbDev} (hdev : dev.lastReport = some lastReport)
    (hlast : lastReport.keyCode.length < 256) (hcurrent : report.keyCode.length < 256)
    (hfuel : 256 ≤ fuel)
    (hkey : ∃ k ∈ newKeys lastReport.keyCode report.keyCode, getKeyDescriptor layout k = none) :
    ∃ dev', processKeyStroke allocatePool layout fuel report.bytes dev = some dev' ∧
      dev'.lastReport = some lastReport := by
  have hzero : (0 : UInt8).toNat = 0 := rfl
  obtain ⟨repeatKey, hrelease⟩ := Option.isSome_iff_exists.mp
    (keyReleaseLoop_start_isSome hlast hcurrent hfuel dev.repeatKey)
  obtain ⟨dev', hpress, hlast'⟩ := @keyPressLoop_returned layout fuel _ _ hlast hcurrent
    (show lastReport.keyCode.length < fuel by omega) fuel 0
    { dev with
      hidKeyQueue := (modifierKeyChanges report.modifierKeys lastReport.modifierKeys).foldl
        RingQueue.enqueue dev.hidKeyQueue
      repeatKey := repeatKey } 0 (by rw [hzero]; exact Nat.zero_le _) (by rw [hzero]; omega)
    (by rwa [hzero, List.drop_zero])
  refine ⟨dev', ?_, hlast'.trans hdev⟩
  rw [processKeyStroke_of_lastReport hdev, processKeyStrokeWith, hrelease]
  dsimp only
  rw [hpress]

/-- Key code 0x70 (`F21`, which the table leaves out) after the zeroed report: the report is
dropped. -/
theorem processKeyStroke_keeps_lastReport_f21 :
    ∃ dev', processKeyStroke (fun _ => true) defaultLayout 256 [0, 0, 0x70]
        { initHidKeyboard (fun _ => ⟨false, 0⟩) with lastReport := some emptyReport } =
        some dev' ∧ dev'.lastReport = some emptyReport :=
  @processKeyStroke_keeps_lastReport _ _ _ _ ⟨[0, 0, 0x70], by decide⟩ _ rfl (by decide)
    (by decide) (by decide) ⟨0x70, by decide +kernel, by decide⟩

end Loops

/-! ### The drain loop of the callback -/

/-- The queued keys handed one by one to `HIDProcessModifierKey`, until the platform resets. -/
def processHidKeys (layout : UInt8 → KeyModifier) : HidKbDev → List HidKey → Completion HidKbDev
  | dev, [] => .returned dev
  | dev, hidKey :: hidKeys =>
    match hidProcessModifierKey layout dev hidKey with
    | .resetSystem => .resetSystem
    | .returned (_, dev) => processHidKeys layout dev hidKeys

/-- `HIDProcessModifierKey` neither reads nor writes the key queue. -/
theorem hidProcessModifierKey_withQueue (layout : UInt8 → KeyModifier) (dev : HidKbDev)
    (queue : RingQueue HidKey maxKeyAllowed) (hidKey : HidKey) :
    hidProcessModifierKey layout { dev with hidKeyQueue := queue } hidKey =
      match hidProcessModifierKey layout dev hidKey with
      | .resetSystem => .resetSystem
      | .returned (status, dev) => .returned (status, { dev with hidKeyQueue := queue }) := by
  have hupdate : ∀ modifier down, updateModifierState { dev with hidKeyQueue := queue } modifier down =
      { updateModifierState dev modifier down with hidKeyQueue := queue } := by
    intro modifier down
    cases modifier <;> cases down <;> rfl
  unfold hidProcessModifierKey
  rcases getKeyDescriptor layout hidKey.keyCode with _ | modifier
  · rfl
  · simp only [hupdate]
    split_ifs <;> rfl

/-- With more passes than queued keys, the drain loop hands them all to `HIDProcessModifierKey`
in order, and the ring ends empty with `head` at `tail`. The induction is on the queued keys. -/
theorem drainHidKeyQueue_eq {layout : UInt8 → KeyModifier} {hidKeys : List HidKey} (passes : Nat)
    (dev : HidKbDev) (hq : RingQueue.Represents dev.hidKeyQueue hidKeys)
    (hpasses : hidKeys.length < passes) :
    drainHidKeyQueue layout passes dev =
      some (processHidKeys layout
        { dev with hidKeyQueue := { dev.hidKeyQueue with head := dev.hidKeyQueue.tail } }
        hidKeys) := by
  induction hidKeys generalizing passes dev with
  | nil =>
    obtain ⟨passes, rfl⟩ : ∃ p, passes = p + 1 := ⟨passes - 1, by simp at hpasses; omega⟩
    have htail : dev.hidKeyQueue.tail = dev.hidKeyQueue.head := by
      rw [hq.tail_eq, List.length_nil, RingQueue.slot_zero]
    rw [drainHidKeyQueue, hq.dequeue_nil, htail]
    rfl
  | cons hidKey hidKeys ih =>
    obtain ⟨passes, rfl⟩ : ∃ p, passes = p + 1 := ⟨passes - 1, by simp at hpasses; omega⟩
    obtain ⟨hdequeue, hrest⟩ := hq.dequeue_cons
    rw [drainHidKeyQueue, hdequeue, processHidKeys]
    dsimp only
    rw [hidProcessModifierKey_withQueue layout dev
        { dev.hidKeyQueue with head := dev.hidKeyQueue.head + 1 } hidKey,
      hidProcessModifierKey_withQueue layout dev
        { dev.hidKeyQueue with head := dev.hidKeyQueue.tail } hidKey]
    rcases hidProcessModifierKey layout dev hidKey with ⟨⟨status, dev'⟩⟩ | _
    · exact ih passes
        { dev' with hidKeyQueue := { dev.hidKeyQueue with head := dev.hidKeyQueue.head + 1 } }
        hrest (by simp at hpasses; omega)
    · rfl

/-! ### The callback -/

/-- The `HID_KEY`s `ProcessKeyStroke` queues for one report: the changes of the modifier byte,
then the newly pressed key codes, down. -/
def reportHidKeys (last current : InputReport) : List HidKey :=
  modifierKeyChanges current.modifierKeys last.modifierKeys ++
    (newKeys last.keyCode current.keyCode).map (HidKey.mk true)

/-- The device with its queue emptied as the drain loop leaves it: `Head` moved up to `Tail`. -/
def HidKbDev.queueDrained (dev : HidKbDev) : HidKbDev :=
  { dev with hidKeyQueue := { dev.hidKeyQueue with head := dev.hidKeyQueue.tail } }

theorem keyStrokeEffect_hidKeyQueue (allocatePool : Nat → Bool) (layout : UInt8 → KeyModifier)
    (last current : InputReport) (dev : HidKbDev) :
    (keyStrokeEffect allocatePool layout last current dev).hidKeyQueue =
      ((newKeys last.keyCode current.keyCode).map (HidKey.mk true)).foldl RingQueue.enqueue
        ((modifierKeyChanges current.modifierKeys last.modifierKeys).foldl RingQueue.enqueue
          dev.hidKeyQueue) := by
  unfold keyStrokeEffect
  dsimp only
  split <;> rfl

/-- The queue after `ProcessKeyStroke` holds the keys queued before, then the report's keys,
the oldest dropped once the ring is full. -/
theorem keyStrokeEffect_represents (allocatePool : Nat → Bool) (layout : UInt8 → KeyModifier)
    (last current : InputReport) (dev : HidKbDev) :
    RingQueue.Represents (keyStrokeEffect allocatePool layout last current dev).hidKeyQueue
      ((reportHidKeys last current).foldl (RingQueue.boundedPush maxKeyAllowed)
        dev.hidKeyQueue.items) := by
  rw [keyStrokeEffect_hidKeyQueue, reportHidKeys, List.foldl_append]
  exact ((RingQueue.represents_items _).enqueueAll _).enqueueAll _

/-- Once `ProcessKeyStroke` has done `keyStrokeEffect`, the callback hands to
`HIDProcessModifierKey` the keys queued before and then the report's, of which the ring keeps the
last `MAX_KEY_ALLOWED`. -/
theorem hidProcessKeyStrokesCallback_of_keyStrokeEffect {allocatePool : Nat → Bool}
    {layout : UInt8 → KeyModifier} {fuel : Nat} {buffer : List UInt8}
    {last report : InputReport} {dev dev₀ : HidKbDev}
    (hprocess : processKeyStroke allocatePool layout fuel buffer dev =
      some (keyStrokeEffect allocatePool layout last report dev₀))
    (hfuel : 256 ≤ fuel) :
    hidProcessKeyStrokesCallback allocatePool layout fuel buffer dev =
      some (processHidKeys layout (keyStrokeEffect allocatePool layout last report dev₀).queueDrained
        ((reportHidKeys last report).foldl (RingQueue.boundedPush maxKeyAllowed)
          dev₀.hidKeyQueue.items)) := by
  have hq := keyStrokeEffect_represents allocatePool layout last report dev₀
  rw [hidProcessKeyStrokesCallback, hprocess, Option.bind_some]
  exact drainHidKeyQueue_eq fuel _ hq
    (lt_of_le_of_lt hq.length_le (lt_of_lt_of_le (by decide) hfuel))

/-- With both reports below 256 key codes, enough passes and a descriptor for every newly
pressed key, `HIDProcessKeyStrokesCallback` hands to `HIDProcessModifierKey`, in order, the keys
that were queued, the changes of the modifier byte and the newly pressed key codes, of which the
ring keeps the last `MAX_KEY_ALLOWED`; the device is `keyStrokeEffect`'s, its queue emptied. -/
theorem hidProcessKeyStrokesCallback_eq {allocatePool : Nat → Bool}
    {layout : UInt8 → KeyModifier} {fuel : Nat} {lastReport report : InputReport}
    {dev : HidKbDev} (hdev : dev.lastReport = some lastReport)
    (hlast : lastReport.keyCode.length < 256) (hcurrent : report.keyCode.length < 256)
    (hfuel : 256 ≤ fuel)
    (hdesc : ∀ k ∈ newKeys lastReport.keyCode report.keyCode, (getKeyDescriptor layout k).isSome) :
    hidProcessKeyStrokesCallback allocatePool layout fuel report.bytes dev =
      some (processHidKeys layout
        (keyStrokeEffect allocatePool layout lastReport report dev).queueDrained
        ((reportHidKeys lastReport report).foldl (RingQueue.boundedPush maxKeyAllowed)
          dev.hidKeyQueue.items)) := by
  have hprocess : processKeyStroke allocatePool layout fuel report.bytes dev =
      some (keyStrokeEffect allocatePool layout lastReport report dev) := by
    rw [processKeyStroke_of_lastReport hdev]
    exact processKeyStrokeWith_eq hlast hcurrent hfuel hdesc
  exact hidProcessKeyStrokesCallback_of_keyStrokeEffect hprocess hfuel

/-- A press of `A` with the left Ctrl bit set, after the zeroed report: the left Ctrl change
comes first, then the press of `A`. -/
theorem hidProcessKeyStrokesCallback_eq_ctrlA :
    hidProcessKeyStrokesCallback (fun _ => true) defaultLayout 256 [0x01, 0, 0x04]
        { initHidKeyboard (fun _ => ⟨false, 0⟩) with lastReport := some emptyReport } =
      some (processHidKeys defaultLayout
        (keyStrokeEffect (fun _ => true) defaultLayout emptyReport ⟨[0x01, 0, 0x04], by decide⟩
          { initHidKeyboard (fun _ => ⟨false, 0⟩) with lastReport := some emptyReport }).queueDrained
        ((reportHidKeys emptyReport ⟨[0x01, 0, 0x04], by decide⟩).foldl
          (RingQueue.boundedPush maxKeyAllowed) [])) :=
  @hidProcessKeyStrokesCallback_eq _ _ _ _ ⟨[0x01, 0, 0x04], by decide⟩ _ rfl (by decide)
    (by decide) (by decide) (by decide +kernel)

end MuPlus.Hid
