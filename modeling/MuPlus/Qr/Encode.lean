import MuPlus.Qr.Analysis

/-!
# MuPlus.Qr.Encode

**Step 2 of the QR encoder, data encoding** (`Step2_Process`, `InitCodeWords`,
`AddCodeWordBits`, `EncodeNumeric`, `EncodeAlphanumeric`, `EncodeBytes` and
`AddCodeWordPadBytes` in `QrEncoderLib/QrEncoderLib.c`): the mode indicator, the length field,
the data and the terminator, packed most significant bit first into the `totalWords` bytes of
`gCodeWords`, then padded with `0xEC, 0x11, ...`.

`AddCodeWordBits` keeps a bit position (`pvCwIndex` bytes and `pvCwUsed` bits) and ORs each
group's bits into the byte at that position. The write guarded by `pvCwIndex < pvCwTarget` is
followed by the same write unguarded, so a group that does not fit is written past the end of
`gCodeWords` all the same. The state records the index of every write.

## Results

* `addCodeWordBits_advances`: each call moves the position on by its bit count, writes at the
  bytes it passes and last at the byte holding its last bit (`Advances`); the encoders and the
  segment move it by the bit counts of ISO/IEC 18004 (`segmentBits`);
* `step2Process_writes_past_codeWords`: when Step 1 has accepted data whose mode, length and
  data bits are more than the row's `totalWords` bytes hold, Step 2 writes past the end of
  `gCodeWords`;
* `step2Process_writes_within_iff`: for data Step 1 accepts, Step 2 writes only inside
  `gCodeWords` exactly when the four terminator bits fit as well.
-/

namespace MuPlus.Qr

open ByteMem

/-- The codeword array and the private variables of `AddCodeWordBits`. -/
structure CodeWordState where
  /-- `gCodeWords`, and the memory after it. -/
  words : ByteMem
  /-- `pvCwIndex`: the byte the next bits go to. -/
  index : Nat
  /-- `pvCwUsed`: the bits of that byte already used. -/
  used : Nat
  /-- `pvCwTarget`: the number of codewords. -/
  target : Nat
  /-- The index of every write to `gCodeWords`, in order. -/
  writes : List Nat

/-- The bit position: `pvCwIndex * 8 + pvCwUsed`. -/
def CodeWordState.pos (s : CodeWordState) : Nat :=
  s.index * 8 + s.used

/-- `InitCodeWords (NumberOfCodeWords)`: a zeroed array, at bit 0. -/
def initCodeWords (numberOfCodeWords : Nat) (mem : ByteMem) : CodeWordState :=
  ⟨fun i => if i < numberOfCodeWords then 0 else mem i, 0, 0, numberOfCodeWords, []⟩

/-- `gCodeWords[pvCwIndex] |= (UINT8)temp`. -/
def CodeWordState.orByte (s : CodeWordState) (temp : Nat) : CodeWordState :=
  { s with
    words := s.words.write s.index [s.words s.index ||| (temp % 256).toUInt8]
    writes := s.writes ++ [s.index] }

/-- One pass of the loop of `AddCodeWordBits`: take the low `Count` bits of `Bits`; if they fit
in the current byte they go there, shifted to its free low end, and none are left; otherwise the
byte's free bits take the high ones. The state, and the bits left. -/
def addCodeWordBitsPass (bits count : Nat) (s : CodeWordState) : CodeWordState × Nat :=
  -- `mask = (-1 << Count)`, `temp = Bits & ~mask`
  let temp := bits % 2 ^ count
  let free := 8 - s.used
  let (temp, count', used) :=
    if count ≤ free then (temp * 2 ^ (free - count), 0, s.used + count)
    else (temp / 2 ^ (count - free), count - free, 8)
  -- The write guarded by `pvCwIndex < pvCwTarget`, then the same write unguarded.
  let s := if s.index < s.target then s.orByte temp else s
  let s := { s.orByte temp with used }
  (if used = 8 then { s with index := s.index + 1, used := 0 } else s, count')

/-- The loop of `AddCodeWordBits`. Each pass takes at least one bit, so `Count` passes
suffice. -/
def addCodeWordBitsLoop (bits : Nat) : Nat → Nat → CodeWordState → CodeWordState
  | 0, _, s => s
  | fuel + 1, count, s =>
      if count = 0 then s
      else
        let (s, count) := addCodeWordBitsPass bits count s
        addCodeWordBitsLoop bits fuel count s

/-- `AddCodeWordBits (Bits, Count)`. -/
def addCodeWordBits (s : CodeWordState) (bits count : Nat) : CodeWordState :=
  addCodeWordBitsLoop bits count count s

/-! ### The encoders -/

/-- `EncodeBytes (Data, DataLen)`: 8 bits a byte. -/
def encodeBytes (s : CodeWordState) (data : List UInt8) : CodeWordState :=
  data.foldl (fun s b => addCodeWordBits s b.toNat 8) s

/-- The loop of `EncodeNumeric`: three digits at a time into 10 bits. -/
def encodeNumericLoop (triplet tripIndx : Nat) : List UInt8 → CodeWordState → CodeWordState × Nat × Nat
  | [], s => (s, triplet, tripIndx)
  | d :: data, s =>
      -- `Data[i] - '0'` is an `INT`; `Triplet` is a `UINT16`.
      let triplet := (triplet * 10 + d.toNat + 2 ^ 16 - 0x30) % 2 ^ 16
      let tripIndx := tripIndx + 1
      if tripIndx = 3 then encodeNumericLoop 0 0 data (addCodeWordBits s triplet 10)
      else encodeNumericLoop triplet tripIndx data s

/-- `EncodeNumeric (Data, DataLen)`: the digits left over go into 4 bits for one, 7 for two. -/
def encodeNumeric (s : CodeWordState) (data : List UInt8) : CodeWordState :=
  let (s, triplet, tripIndx) := encodeNumericLoop 0 0 data s
  if tripIndx = 1 then addCodeWordBits s triplet 4
  else if tripIndx = 2 then addCodeWordBits s triplet 7
  else s

/-- The loop of `EncodeAlphanumeric`: two characters at a time, `45 * a + b` into 11 bits;
`i` counts the characters. A character outside `gAlphaNumerics` returns at once (`none`), with
the pairs before it written. -/
def encodeAlphanumericLoop (pair i : Nat) : List UInt8 → CodeWordState →
    CodeWordState × Option (Nat × Nat)
  | [], s => (s, some (pair, i))
  | letter :: data, s =>
      match gAlphaNumerics.idxOf? letter with
      | none => (s, none)
      | some index =>
          if i % 2 = 0 then encodeAlphanumericLoop index (i + 1) data s
          else
            let pair := (index + pair * 45) % 2 ^ 16
            encodeAlphanumericLoop pair (i + 1) data (addCodeWordBits s pair 11)

/-- `EncodeAlphanumeric (Data, DataLen)`: a character left over goes into 6 bits. -/
def encodeAlphanumeric (s : CodeWordState) (data : List UInt8) : CodeWordState :=
  match encodeAlphanumericLoop 0 0 data s with
  | (s, none) => s
  | (s, some (pair, i)) => if i % 2 = 1 then addCodeWordBits s pair 6 else s

/-- The loop of `AddCodeWordPadBytes`: `0xEC`, `0x11`, ... up to `pvCwTarget`. -/
def padBytesLoop (padSelect : Bool) : Nat → CodeWordState → CodeWordState
  | 0, s => s
  | fuel + 1, s =>
      if s.index < s.target then
        let padCharacter : UInt8 := if padSelect then 0x11 else 0xEC
        padBytesLoop (!padSelect) fuel
          { s with
            words := s.words.write s.index [padCharacter]
            writes := s.writes ++ [s.index]
            index := s.index + 1 }
      else s

/-- `AddCodeWordPadBytes ()`: close a partly used byte, then pad. -/
def addCodeWordPadBytes (s : CodeWordState) : CodeWordState :=
  let s := if s.used > 0 then { s with index := s.index + 1 } else s
  padBytesLoop false s.target s

/-- `gLengthBits`: the maximum version of each range, then the length field's width for each
mode. -/
def gLengthBits : List (List Nat) :=
  [[9, 10, 9, 8, 8], [26, 12, 11, 16, 10], [40, 14, 13, 16, 12]]

/-- `lengthBits` of `Step2_Process`: `gLengthBits[k][gQrMode]` for the version's range `k`. -/
def lengthBits (qrVersion : Nat) (qrMode : QrEncoding) : Nat :=
  if qrVersion ≤ (gLengthBits.getD 0 []).getD 0 0 then (gLengthBits.getD 0 []).getD qrMode.toNat 0
  else if qrVersion ≤ (gLengthBits.getD 1 []).getD 0 0 then
    (gLengthBits.getD 1 []).getD qrMode.toNat 0
  else (gLengthBits.getD 2 []).getD qrMode.toNat 0

/-- `ISO_NUMERIC_CODE`, `ISO_ALPHANUMERIC_CODE`, `ISO_BYTE_CODE`. -/
def modeIndicator : QrEncoding → Nat
  | .numeric => 0x01
  | .alphaNumeric => 0x02
  | .byte => 0x04
  | .auto => 0

/-- The mode indicator, the length field and the data: the `switch` of `Step2_Process`. -/
def encodeSegment (s : CodeWordState) (qrVersion : Nat) (qrMode : QrEncoding)
    (data : List UInt8) : CodeWordState :=
  match qrMode with
  | .numeric =>
      encodeNumeric (addCodeWordBits (addCodeWordBits s 0x01 4) data.length
        (lengthBits qrVersion qrMode)) data
  | .alphaNumeric =>
      encodeAlphanumeric (addCodeWordBits (addCodeWordBits s 0x02 4) data.length
        (lengthBits qrVersion qrMode)) data
  | .byte =>
      encodeBytes (addCodeWordBits (addCodeWordBits s 0x04 4) data.length
        (lengthBits qrVersion qrMode)) data
  -- the `default` branch: `ASSERT (FALSE)`
  | .auto => s

/-- `Step2_Process (Data, DataLen)` on the parameters Step 1 set, over memory `mem`. -/
def step2Process (p : QrParams) (data : List UInt8) (mem : ByteMem) : CodeWordState :=
  let s := initCodeWords (gQrT p.qrVersion p.qrLevel).totalWords mem
  let s := encodeSegment s p.qrVersion p.qrMode data
  -- The terminating zeros, "allowed not to fit".
  addCodeWordPadBytes (addCodeWordBits s 0 4)

/-! ### The segment's length, after ISO/IEC 18004:2015 7.4.3 to 7.4.5 -/

/-- The bits of the data of `dataLen` characters in a mode: 10 bits per three digits and 4 or 7
for one or two left over; 11 bits per two alphanumeric characters and 6 for one left over; 8
bits per byte. -/
def dataBits : QrEncoding → Nat → Nat
  | .numeric, n => 10 * (n / 3) + (if n % 3 = 1 then 4 else if n % 3 = 2 then 7 else 0)
  | .alphaNumeric, n => 11 * (n / 2) + 6 * (n % 2)
  | .byte, n => 8 * n
  | .auto, _ => 0

/-- The bits of a segment: the mode indicator, the length field and the data. -/
def segmentBits (qrVersion : Nat) (qrMode : QrEncoding) (dataLen : Nat) : Nat :=
  4 + lengthBits qrVersion qrMode + dataBits qrMode dataLen

/-! ### How far the writer moves -/

@[simp] theorem orByte_index (s : CodeWordState) (temp : Nat) : (s.orByte temp).index = s.index :=
  rfl

@[simp] theorem orByte_used (s : CodeWordState) (temp : Nat) : (s.orByte temp).used = s.used :=
  rfl

@[simp] theorem orByte_target (s : CodeWordState) (temp : Nat) :
    (s.orByte temp).target = s.target :=
  rfl

@[simp] theorem orByte_writes (s : CodeWordState) (temp : Nat) :
    (s.orByte temp).writes = s.writes ++ [s.index] :=
  rfl

/-- What writing `n` bits does to the writer: the position moves on by `n`, `pvCwUsed` stays
below 8 and `pvCwTarget` is kept; writes are only added, each new one at a byte that starts
before the new position, and the last of them at the byte that holds the last of the `n`
bits. -/
structure Advances (s s' : CodeWordState) (n : Nat) : Prop where
  pos_eq : s'.pos = s.pos + n
  used_lt : s'.used < 8
  target_eq : s'.target = s.target
  writes_grow : s.writes <+: s'.writes
  last_write : (n = 0 ∧ s'.writes = s.writes) ∨ s'.writes.getLast? = some ((s.pos + n - 1) / 8)
  writes_behind : ∀ i ∈ s'.writes, i ∈ s.writes ∨ i * 8 < s'.pos

theorem Advances.refl {s : CodeWordState} (h : s.used < 8) : Advances s s 0 :=
  ⟨by simp, h, rfl, List.prefix_refl _, Or.inl ⟨rfl, rfl⟩, fun _ hi => Or.inl hi⟩

theorem Advances.trans {s₁ s₂ s₃ : CodeWordState} {n m : Nat} (h₁ : Advances s₁ s₂ n)
    (h₂ : Advances s₂ s₃ m) : Advances s₁ s₃ (n + m) where
  pos_eq := by rw [h₂.pos_eq, h₁.pos_eq, Nat.add_assoc]
  used_lt := h₂.used_lt
  target_eq := h₂.target_eq.trans h₁.target_eq
  writes_grow := h₁.writes_grow.trans h₂.writes_grow
  last_write := by
    rcases h₂.last_write with ⟨rfl, hw⟩ | hlast
    · rw [hw, Nat.add_zero]
      exact h₁.last_write
    · right
      rw [hlast, h₁.pos_eq, Nat.add_assoc]
  writes_behind := by
    intro i hi
    rcases h₂.writes_behind i hi with hmem | hbehind
    · rcases h₁.writes_behind i hmem with hmem' | hbehind'
      · exact Or.inl hmem'
      · -- behind `s₂`'s position, so behind `s₃`'s
        exact Or.inr (Nat.lt_of_lt_of_le hbehind' (h₂.pos_eq ▸ Nat.le_add_right _ _))
    · exact Or.inr hbehind

theorem Advances.of_eq {s s' : CodeWordState} {n m : Nat} (h : Advances s s' n) (hnm : n = m) :
    Advances s s' m :=
  hnm ▸ h

/-! The guarded write of `AddCodeWordBits` keeps the position. -/

@[simp] theorem ite_orByte_index (c : Prop) [Decidable c] (s : CodeWordState) (temp : Nat) :
    (if c then s.orByte temp else s).index = s.index := by
  split <;> rfl

@[simp] theorem ite_orByte_used (c : Prop) [Decidable c] (s : CodeWordState) (temp : Nat) :
    (if c then s.orByte temp else s).used = s.used := by
  split <;> rfl

@[simp] theorem ite_orByte_target (c : Prop) [Decidable c] (s : CodeWordState) (temp : Nat) :
    (if c then s.orByte temp else s).target = s.target := by
  split <;> rfl

theorem ite_orByte_writes (c : Prop) [Decidable c] (s : CodeWordState) (temp : Nat) :
    (if c then s.orByte temp else s).writes = s.writes ++ (if c then [s.index] else []) := by
  split <;> simp

/-- **What one pass of `AddCodeWordBits` does**, in each of its branches: it takes at least one
bit and at most the byte's free ones, keeps `pvCwUsed` below 8 and `pvCwTarget`, and writes
once or twice, at the current byte only. -/
theorem addCodeWordBitsPass_shape {bits count : Nat} {s : CodeWordState} (hs : s.used < 8)
    (hcount : 0 < count) :
    (addCodeWordBitsPass bits count s).2 < count ∧
      (addCodeWordBitsPass bits count s).1.pos + (addCodeWordBitsPass bits count s).2 =
        s.pos + count ∧
      s.index * 8 < (addCodeWordBitsPass bits count s).1.pos ∧
      (addCodeWordBitsPass bits count s).1.pos ≤ s.index * 8 + 8 ∧
      (addCodeWordBitsPass bits count s).1.used < 8 ∧
      (addCodeWordBitsPass bits count s).1.target = s.target ∧
      ∃ w, (addCodeWordBitsPass bits count s).1.writes = s.writes ++ w ++ [s.index] ∧
        ∀ i ∈ w, i = s.index := by
  -- The guarded write adds `s.index` or nothing; the unguarded one adds `s.index`.
  have hwrites : ∀ i ∈ (if s.index < s.target then [s.index] else []), i = s.index := by
    split <;> simp
  unfold addCodeWordBitsPass
  by_cases hfit : count ≤ 8 - s.used
  · -- All the bits left go into this byte, which may be filled.
    simp only [hfit, if_true]
    by_cases hfull : s.used + count = 8
    · simp only [hfull, if_true]
      refine ⟨hcount, ?_, ?_, ?_, by simp, by simp, _, by simp [ite_orByte_writes], hwrites⟩ <;>
        simp only [CodeWordState.pos, orByte_index, ite_orByte_index] <;> omega
    · simp only [hfull, if_false]
      refine ⟨hcount, ?_, ?_, ?_, by omega, by simp, _, by simp [ite_orByte_writes], hwrites⟩ <;>
        simp only [CodeWordState.pos, orByte_index, ite_orByte_index] <;> omega
  · -- The byte's free bits take the high bits, and the byte is full.
    simp only [hfit, if_false, if_true]
    refine ⟨by omega, ?_, ?_, ?_, by simp, by simp, _, by simp [ite_orByte_writes], hwrites⟩ <;>
      simp only [CodeWordState.pos, orByte_index, ite_orByte_index] <;> omega

/-- One pass, as an `Advances` by the bits it takes. -/
theorem addCodeWordBitsPass_spec {bits count : Nat} {s : CodeWordState} (hs : s.used < 8)
    (hcount : 0 < count) :
    (addCodeWordBitsPass bits count s).2 < count ∧
      Advances s (addCodeWordBitsPass bits count s).1
        (count - (addCodeWordBitsPass bits count s).2) := by
  obtain ⟨hlt, hpos, hafter, hwithin, hused, htarget, w, hwrites, hw⟩ :=
    @addCodeWordBitsPass_shape bits count s hs hcount
  refine ⟨hlt, ⟨by omega, hused, htarget, ?_, Or.inr ?_, ?_⟩⟩
  · rw [hwrites, List.append_assoc]
    exact List.prefix_append _ _
  · -- The byte written last holds the last bit taken.
    rw [hwrites, List.getLast?_concat]
    congr 1
    simp only [CodeWordState.pos] at hpos hafter hwithin ⊢
    omega
  · intro i hi
    rw [hwrites, List.mem_append, List.mem_append, List.mem_singleton] at hi
    rcases hi with (hold | hnew) | rfl
    · exact Or.inl hold
    · exact Or.inr (hw i hnew ▸ hafter)
    · exact Or.inr hafter

/-- **`AddCodeWordBits`** moves the position on by `Count`: `Count` passes are enough. -/
theorem addCodeWordBitsLoop_advances (bits : Nat) {fuel count : Nat} {s : CodeWordState}
    (hs : s.used < 8) (hfuel : count ≤ fuel) :
    Advances s (addCodeWordBitsLoop bits fuel count s) count := by
  induction fuel generalizing count s with
  | zero =>
      obtain rfl : count = 0 := by omega
      exact Advances.refl hs
  | succ fuel ih =>
      by_cases hcount : count = 0
      · subst hcount
        exact Advances.refl hs
      -- One pass, then the loop on the bits left.
      obtain ⟨hlt, hpass⟩ := @addCodeWordBitsPass_spec bits count s hs (Nat.pos_of_ne_zero hcount)
      have hrest := ih hpass.used_lt (by omega : (addCodeWordBitsPass bits count s).2 ≤ fuel)
      simp only [addCodeWordBitsLoop, hcount, if_false]
      exact (hpass.trans hrest).of_eq (by omega)

theorem addCodeWordBits_advances {s : CodeWordState} (bits count : Nat) (hs : s.used < 8) :
    Advances s (addCodeWordBits s bits count) count :=
  addCodeWordBitsLoop_advances bits hs (Nat.le_refl count)

/-! ### How far each encoder moves -/

theorem encodeBytes_advances {s : CodeWordState} (hs : s.used < 8) (data : List UInt8) :
    Advances s (encodeBytes s data) (dataBits .byte data.length) := by
  induction data generalizing s with
  | nil => exact Advances.refl hs
  | cons b data ih =>
      have hbyte := addCodeWordBits_advances b.toNat 8 hs
      show Advances s (encodeBytes (addCodeWordBits s b.toNat 8) data) _
      exact (hbyte.trans (ih hbyte.used_lt)).of_eq (by simp only [dataBits, List.length_cons]; omega)

/-- The loop of `EncodeNumeric` writes 10 bits for each digit that completes a triplet, and
leaves `TripIndx` at the digits counted modulo 3. -/
theorem encodeNumericLoop_advances (triplet : Nat) {tripIndx : Nat} {data : List UInt8}
    {s : CodeWordState} (hs : s.used < 8) (hk : tripIndx < 3) :
    Advances s (encodeNumericLoop triplet tripIndx data s).1
        (10 * ((tripIndx + data.length) / 3)) ∧
      (encodeNumericLoop triplet tripIndx data s).2.2 = (tripIndx + data.length) % 3 := by
  induction data generalizing triplet tripIndx s with
  | nil =>
      refine ⟨(Advances.refl hs).of_eq (by simp only [List.length_nil]; omega), ?_⟩
      simp only [encodeNumericLoop, List.length_nil]
      omega
  | cons d data ih =>
      simp only [encodeNumericLoop]
      by_cases htriplet : tripIndx + 1 = 3
      · -- The third digit: the triplet goes out in 10 bits.
        simp only [htriplet, if_true]
        have hbits := addCodeWordBits_advances
          ((triplet * 10 + d.toNat + 2 ^ 16 - 0x30) % 2 ^ 16) 10 hs
        obtain ⟨hrest, hk'⟩ := @ih 0 0 _ hbits.used_lt (by decide)
        refine ⟨(hbits.trans hrest).of_eq ?_, ?_⟩
        · simp only [List.length_cons]
          omega
        · simp only [hk', List.length_cons]
          omega
      · simp only [htriplet, if_false]
        obtain ⟨hrest, hk'⟩ :=
          @ih ((triplet * 10 + d.toNat + 2 ^ 16 - 0x30) % 2 ^ 16) (tripIndx + 1) s hs (by omega)
        refine ⟨hrest.of_eq ?_, ?_⟩
        · simp only [List.length_cons]
          omega
        · simp only [hk', List.length_cons]
          omega

theorem encodeNumeric_advances {s : CodeWordState} (hs : s.used < 8) (data : List UInt8) :
    Advances s (encodeNumeric s data) (dataBits .numeric data.length) := by
  obtain ⟨hloop, hk⟩ := @encodeNumericLoop_advances 0 0 data s hs (by decide)
  simp only [Nat.zero_add] at hloop hk
  unfold encodeNumeric
  -- The digits left over after the last triplet.
  rcases hr : encodeNumericLoop 0 0 data s with ⟨s', triplet, tripIndx⟩
  rw [hr] at hloop hk
  dsimp only at hloop hk ⊢
  by_cases h1 : tripIndx = 1
  · simp only [h1, if_true]
    exact (hloop.trans (addCodeWordBits_advances triplet 4 hloop.used_lt)).of_eq
      (by simp only [dataBits, ← hk, h1, if_true])
  by_cases h2 : tripIndx = 2
  · simp only [h2, if_true]
    exact (hloop.trans (addCodeWordBits_advances triplet 7 hloop.used_lt)).of_eq
      (by simp [dataBits, ← hk, h2])
  · simp only [h1, h2, if_false]
    exact hloop.of_eq (by simp only [dataBits, ← hk, h1, h2, if_false, Nat.add_zero])

/-- The loop of `EncodeAlphanumeric` over alphanumeric data counts every character and writes
11 bits for each that completes a pair. -/
theorem encodeAlphanumericLoop_advances (pair i : Nat) {data : List UInt8} {s : CodeWordState}
    (hs : s.used < 8) (halpha : ∀ b ∈ data, b ∈ gAlphaNumerics) :
    (∃ pair', (encodeAlphanumericLoop pair i data s).2 = some (pair', i + data.length)) ∧
      Advances s (encodeAlphanumericLoop pair i data s).1 (11 * ((i % 2 + data.length) / 2)) := by
  induction data generalizing pair i s with
  | nil =>
      refine ⟨⟨pair, rfl⟩, (Advances.refl hs).of_eq ?_⟩
      simp only [List.length_nil]
      omega
  | cons letter data ih =>
      have hrest : ∀ b ∈ data, b ∈ gAlphaNumerics := fun b hb => halpha b (by simp [hb])
      obtain ⟨index, hindex⟩ :=
        Option.isSome_iff_exists.mp (List.isSome_idxOf?.mpr (halpha letter (by simp)))
      simp only [encodeAlphanumericLoop, hindex, List.length_cons]
      by_cases hi : i % 2 = 0
      · -- The first character of a pair is only kept.
        simp only [hi, if_true]
        obtain ⟨⟨pair', hpair⟩, hadv⟩ := @ih index (i + 1) s hs hrest
        refine ⟨⟨pair', by rw [hpair]; congr 2; omega⟩, hadv.of_eq ?_⟩
        omega
      · -- The second one completes the pair, which goes out in 11 bits.
        simp only [hi, if_false]
        have hbits := addCodeWordBits_advances ((index + pair * 45) % 2 ^ 16) 11 hs
        obtain ⟨⟨pair', hpair⟩, hadv⟩ :=
          @ih ((index + pair * 45) % 2 ^ 16) (i + 1) _ hbits.used_lt hrest
        refine ⟨⟨pair', by rw [hpair]; congr 2; omega⟩, (hbits.trans hadv).of_eq ?_⟩
        omega

theorem encodeAlphanumeric_advances {s : CodeWordState} (hs : s.used < 8) {data : List UInt8}
    (halpha : ∀ b ∈ data, b ∈ gAlphaNumerics) :
    Advances s (encodeAlphanumeric s data) (dataBits .alphaNumeric data.length) := by
  obtain ⟨⟨pair, hsome⟩, hloop⟩ := @encodeAlphanumericLoop_advances 0 0 data s hs halpha
  unfold encodeAlphanumeric
  rcases hr : encodeAlphanumericLoop 0 0 data s with ⟨s', result⟩
  rw [hr] at hsome hloop
  dsimp only at hsome hloop
  subst hsome
  simp only [Nat.zero_add, Nat.zero_mod] at hloop ⊢
  -- A character left over after the last pair.
  by_cases hodd : data.length % 2 = 1
  · simp only [hodd, if_true]
    exact (hloop.trans (addCodeWordBits_advances pair 6 hloop.used_lt)).of_eq
      (by simp only [dataBits, hodd])
  · simp only [hodd, if_false]
    exact hloop.of_eq (by simp only [dataBits]; omega)

/-- **The segment**: the mode indicator, the length field and the data, `segmentBits` in all,
for the data Step 1 lets through for the mode. -/
theorem encodeSegment_advances {s : CodeWordState} (hs : s.used < 8) {qrVersion : Nat}
    {qrMode : QrEncoding} {data : List UInt8} (hmode : qrMode ≠ .auto)
    (halpha : qrMode = .alphaNumeric → ∀ b ∈ data, b ∈ gAlphaNumerics) :
    Advances s (encodeSegment s qrVersion qrMode data)
      (segmentBits qrVersion qrMode data.length) := by
  cases qrMode with
  | auto => exact absurd rfl hmode
  | numeric =>
      have hindicator := addCodeWordBits_advances 0x01 4 hs
      have hlength := addCodeWordBits_advances data.length (lengthBits qrVersion .numeric)
        hindicator.used_lt
      exact (hindicator.trans hlength).trans (encodeNumeric_advances hlength.used_lt data)
  | alphaNumeric =>
      have hindicator := addCodeWordBits_advances 0x02 4 hs
      have hlength := addCodeWordBits_advances data.length (lengthBits qrVersion .alphaNumeric)
        hindicator.used_lt
      exact (hindicator.trans hlength).trans
        (encodeAlphanumeric_advances hlength.used_lt (halpha rfl))
  | byte =>
      have hindicator := addCodeWordBits_advances 0x04 4 hs
      have hlength := addCodeWordBits_advances data.length (lengthBits qrVersion .byte)
        hindicator.used_lt
      exact (hindicator.trans hlength).trans (encodeBytes_advances hlength.used_lt data)

/-! ### The pad bytes only add writes -/

theorem padBytesLoop_writes_grow (padSelect : Bool) (fuel : Nat) (s : CodeWordState) :
    s.writes <+: (padBytesLoop padSelect fuel s).writes := by
  induction fuel generalizing padSelect s with
  | zero => exact List.prefix_refl _
  | succ fuel ih =>
      unfold padBytesLoop
      split
      · dsimp only
        exact (List.prefix_append s.writes [s.index]).trans
          (ih (!padSelect) { s with
            words := s.words.write s.index [if padSelect = true then 0x11 else 0xEC]
            writes := s.writes ++ [s.index]
            index := s.index + 1 })
      · exact List.prefix_refl _

theorem addCodeWordPadBytes_writes_grow (s : CodeWordState) :
    s.writes <+: (addCodeWordPadBytes s).writes := by
  unfold addCodeWordPadBytes
  dsimp only
  split
  · exact padBytesLoop_writes_grow false _ { s with index := s.index + 1 }
  · exact padBytesLoop_writes_grow false _ s

/-- The pad bytes go only below `pvCwTarget`. -/
theorem padBytesLoop_writes_below (padSelect : Bool) (fuel : Nat) (s : CodeWordState) :
    ∀ i ∈ (padBytesLoop padSelect fuel s).writes, i ∈ s.writes ∨ i < s.target := by
  induction fuel generalizing padSelect s with
  | zero => exact fun i hi => Or.inl hi
  | succ fuel ih =>
      intro i hi
      unfold padBytesLoop at hi
      split at hi
      · next hindex =>
          -- one pad byte at `pvCwIndex`, which is below the target, then the rest
          rcases ih _ _ i hi with hold | hbelow
          · rcases List.mem_append.mp hold with hold | hnew
            · exact Or.inl hold
            · exact Or.inr (List.mem_singleton.mp hnew ▸ hindex)
          · exact Or.inr hbelow
      · exact Or.inl hi

theorem addCodeWordPadBytes_writes_below (s : CodeWordState) :
    ∀ i ∈ (addCodeWordPadBytes s).writes, i ∈ s.writes ∨ i < s.target := by
  unfold addCodeWordPadBytes
  dsimp only
  split
  · exact padBytesLoop_writes_below false _ { s with index := s.index + 1 }
  · exact padBytesLoop_writes_below false _ s

/-! ### Where Step 2 writes -/

/-- From the state `InitCodeWords` leaves, the segment of data Step 1 has accepted moves the
writer by `segmentBits`: Step 1 sets a mode other than `QrAutoMode`, and lets only alphanumeric
data through for the alphanumeric mode. -/
theorem encodeSegment_advances_of_accepted {p₀ p : QrParams} {data : List UInt8}
    {regionSize : Int} (mem : ByteMem) (haccept : step1Process p₀ data regionSize = (.success, p)) :
    Advances (initCodeWords (gQrT p.qrVersion p.qrLevel).totalWords mem)
      (encodeSegment (initCodeWords (gQrT p.qrVersion p.qrLevel).totalWords mem) p.qrVersion
        p.qrMode data)
      (segmentBits p.qrVersion p.qrMode data.length) := by
  obtain ⟨-, hmode, -⟩ := step1Process_eq_success haccept
  have halpha : p.qrMode = .alphaNumeric → ∀ b ∈ data, b ∈ gAlphaNumerics := by
    intro halnum
    apply checkEncodingType_ne_byte
    intro hbyte
    have hle := step1Process_mode_encodes haccept
    rw [hbyte, halnum] at hle
    exact absurd hle (by decide)
  exact encodeSegment_advances (by simp [initCodeWords]) hmode halpha

/-- **Step 2 writes past `gCodeWords` when the segment does not fit.** For data Step 1 has
accepted whose segment is longer than the `totalWords` bytes of the row, the last bit of the
data goes to the byte `(segmentBits - 1) / 8`, at or past the end of the array: the guard
`pvCwIndex < pvCwTarget` only skips the first of the two writes. -/
theorem step2Process_writes_past_codeWords {p₀ p : QrParams} {data : List UInt8}
    {regionSize : Int} (mem : ByteMem) (haccept : step1Process p₀ data regionSize = (.success, p))
    (hover : 8 * (gQrT p.qrVersion p.qrLevel).totalWords <
      segmentBits p.qrVersion p.qrMode data.length) :
    ∃ i ∈ (step2Process p data mem).writes, (gQrT p.qrVersion p.qrLevel).totalWords ≤ i := by
  have hseg := encodeSegment_advances_of_accepted mem haccept
  -- The segment's last write is at the byte of its last bit.
  have hlast := hseg.last_write
  simp only [initCodeWords, CodeWordState.pos, Nat.zero_mul, Nat.zero_add] at hlast
  rcases hlast with ⟨hzero, -⟩ | hlast
  · omega
  have hterm := addCodeWordBits_advances 0 4 hseg.used_lt
  refine ⟨(segmentBits p.qrVersion p.qrMode data.length - 1) / 8, ?_, by omega⟩
  exact (hterm.writes_grow.trans (addCodeWordPadBytes_writes_grow _)).subset
    (List.mem_of_getLast? hlast)

/-- The 2954 bytes Step 1 accepts at version 40-L need 23652 bits; the row holds 2956 bytes,
and the last of the data goes to byte 2956. -/
theorem step2Process_writes_past_2954_bytes :
    step1Process ⟨40, .l, .byte⟩ (List.replicate 2954 0x61) 185 = (.success, ⟨40, .l, .byte⟩) ∧
      8 * (gQrT 40 .l).totalWords <
        segmentBits 40 .byte (List.replicate 2954 (0x61 : UInt8)).length ∧
      ∃ i ∈ (step2Process ⟨40, .l, .byte⟩ (List.replicate 2954 0x61) fun _ => 0).writes,
        (gQrT 40 .l).totalWords ≤ i := by
  have haccept : step1Process ⟨40, .l, .byte⟩ (List.replicate 2954 0x61) 185 =
      (.success, ⟨40, .l, .byte⟩) := by
    decide +kernel
  have hover : 8 * (gQrT 40 .l).totalWords <
      segmentBits 40 .byte (List.replicate 2954 (0x61 : UInt8)).length := by
    rw [List.length_replicate]
    decide
  exact ⟨haccept, hover, step2Process_writes_past_codeWords (fun _ => 0) haccept hover⟩

/-- **Step 2 stays inside `gCodeWords` exactly when the terminator fits.** For data Step 1 has
accepted, every write of Step 2 is below `gCodeWordCount` if and only if the segment and the
four terminator bits fit in the row's `totalWords` bytes. Otherwise the terminator, which
`Step2_Process` says is "allowed not to fit", is still written, and its last bits go to the
byte at `gCodeWordCount`; this happens also for data within the table's capacities. -/
theorem step2Process_writes_within_iff {p₀ p : QrParams} {data : List UInt8}
    {regionSize : Int} (mem : ByteMem) (haccept : step1Process p₀ data regionSize = (.success, p)) :
    (∀ i ∈ (step2Process p data mem).writes, i < (gQrT p.qrVersion p.qrLevel).totalWords) ↔
      segmentBits p.qrVersion p.qrMode data.length + 4 ≤
        8 * (gQrT p.qrVersion p.qrLevel).totalWords := by
  have hseg := encodeSegment_advances_of_accepted mem haccept
  -- The segment and the terminator, from the start of the array.
  have hrun := hseg.trans (addCodeWordBits_advances 0 4 hseg.used_lt)
  have hstart : (initCodeWords (gQrT p.qrVersion p.qrLevel).totalWords mem).pos = 0 := rfl
  constructor
  · intro hall
    by_contra hover
    -- The terminator's last bit is at or past the end of the array, and so is its write.
    rcases hrun.last_write with ⟨hzero, -⟩ | hlast
    · omega
    have hwrite := hall _ ((addCodeWordPadBytes_writes_grow _).subset (List.mem_of_getLast? hlast))
    rw [hstart] at hwrite
    omega
  · intro hfits i hi
    rcases addCodeWordPadBytes_writes_below _ i hi with hold | hpad
    · rcases hrun.writes_behind i hold with hnone | hbehind
      · exact absurd hnone List.not_mem_nil
      · -- behind the terminator's end, which is within the array
        rw [hrun.pos_eq, hstart] at hbehind
        omega
    · rw [hrun.target_eq] at hpad
      exact hpad

/-- 41 digits, the capacity of version 1-L in numeric mode, need 151 bits of the 152 the row
holds; the terminator's last three bits go to byte 19, past the 19 codewords. -/
theorem step2Process_terminator_past_41_digits :
    step1Process ⟨1, .l, .numeric⟩ (List.replicate 41 0x31) 29 =
        (.success, ⟨1, .l, .numeric⟩) ∧
      ¬∀ i ∈ (step2Process ⟨1, .l, .numeric⟩ (List.replicate 41 0x31) fun _ => 0).writes,
        i < (gQrT 1 .l).totalWords := by
  have haccept : step1Process ⟨1, .l, .numeric⟩ (List.replicate 41 0x31) 29 =
      (.success, ⟨1, .l, .numeric⟩) := by
    decide +kernel
  refine ⟨haccept, fun hall => ?_⟩
  have hfits := (step2Process_writes_within_iff (fun _ => 0) haccept).mp hall
  rw [List.length_replicate] at hfits
  exact absurd hfits (by decide)

end MuPlus.Qr
