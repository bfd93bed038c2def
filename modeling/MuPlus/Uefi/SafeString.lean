import MuPlus.Uefi.Status

/-!
# MuPlus.Uefi.SafeString

**BaseLib's safe ASCII string functions** (`MdePkg/Library/BaseLib/SafeString.c`), on a
buffer that holds a NUL-terminated string. A string is modelled by its characters before the
NUL; `DestMax` is the size in characters the caller gives for the buffer, the NUL included.

A failed constraint check (`SAFE_STRING_CONSTRAINT_CHECK`) returns its status and leaves the
destination as it was; a DEBUG build asserts as well. `rsizeMax` is `ASCII_RSIZE_MAX`, the
platform's `PcdMaximumAsciiStringLength`, 0 for no limit.

* `asciiStrCatS_of_lt` — with room for the source and the NUL, the source is appended;
* `asciiStrCatS_of_le` — without it, the call fails and the destination is unchanged;
* `asciiStrCatS_cases` — the two are all a call can do, so a call that returned no error
  appended its source (`asciiStrCatS_of_success`).
-/

namespace MuPlus

/-- `AsciiStrnLenS (String, MaxSize)`: the string's length, at most `maxSize`. -/
def asciiStrnLenS (s : List UInt8) (maxSize : Nat) : Nat :=
  min s.length maxSize

/-- `AsciiStrCatS (Destination, DestMax, Source)`, for a destination that holds `dest` and a
source that holds `src`. -/
def asciiStrCatS (rsizeMax : Nat) (dest : List UInt8) (destMax : Nat) (src : List UInt8) :
    EfiStatus × List UInt8 :=
  let copyLen := destMax - asciiStrnLenS dest destMax
  if rsizeMax ≠ 0 ∧ rsizeMax < destMax then (.invalidParameter, dest)
  else if destMax = 0 then (.invalidParameter, dest)
  else if copyLen = 0 then (.badBufferSize, dest)
  else if copyLen ≤ asciiStrnLenS src copyLen then (.bufferTooSmall, dest)
  else (.success, dest ++ src)

variable {rsizeMax destMax : Nat} {dest src : List UInt8}

/-- With room for the source and the NUL, the source is appended. -/
theorem asciiStrCatS_of_lt (hroom : dest.length + src.length < destMax)
    (hmax : rsizeMax = 0 ∨ destMax ≤ rsizeMax) :
    asciiStrCatS rsizeMax dest destMax src = (.success, dest ++ src) := by
  have hlimit : ¬(rsizeMax ≠ 0 ∧ rsizeMax < destMax) := by omega
  have hcopy : asciiStrnLenS dest destMax = dest.length := by
    unfold asciiStrnLenS
    omega
  have hsrc : asciiStrnLenS src (destMax - dest.length) = src.length := by
    unfold asciiStrnLenS
    omega
  simp only [asciiStrCatS, hcopy, hsrc, hlimit, ↓reduceIte]
  split_ifs <;> first | rfl | omega

/-- Without room for the source and the NUL, the call fails and the destination is
unchanged. -/
theorem asciiStrCatS_of_le (hfull : destMax ≤ dest.length + src.length) :
    (asciiStrCatS rsizeMax dest destMax src).1.isError = true ∧
      (asciiStrCatS rsizeMax dest destMax src).2 = dest := by
  by_cases hdest : destMax ≤ dest.length
  · -- the destination already fills the buffer: nothing is left to copy into
    have hcopy : destMax - asciiStrnLenS dest destMax = 0 := by
      unfold asciiStrnLenS
      omega
    simp only [asciiStrCatS, hcopy, ↓reduceIte]
    split_ifs <;> exact ⟨rfl, rfl⟩
  · -- the source does not fit in what is left
    have hcopy : asciiStrnLenS dest destMax = dest.length := by
      unfold asciiStrnLenS
      omega
    have hsrc : asciiStrnLenS src (destMax - dest.length) = destMax - dest.length := by
      unfold asciiStrnLenS
      omega
    simp only [asciiStrCatS, hcopy, hsrc, Nat.le_refl, ↓reduceIte]
    split_ifs <;> exact ⟨rfl, rfl⟩

/-- A call appends the source to a destination with room for it, or fails and leaves the
destination as it was. -/
theorem asciiStrCatS_cases (rsizeMax : Nat) (dest : List UInt8) (destMax : Nat) (src : List UInt8) :
    (dest.length + src.length < destMax ∧ (rsizeMax = 0 ∨ destMax ≤ rsizeMax) ∧
        asciiStrCatS rsizeMax dest destMax src = (.success, dest ++ src)) ∨
      ((asciiStrCatS rsizeMax dest destMax src).1.isError = true ∧
        (asciiStrCatS rsizeMax dest destMax src).2 = dest) := by
  by_cases hroom : dest.length + src.length < destMax
  · by_cases hmax : rsizeMax = 0 ∨ destMax ≤ rsizeMax
    · exact .inl ⟨hroom, hmax, asciiStrCatS_of_lt hroom hmax⟩
    · -- a buffer larger than `ASCII_RSIZE_MAX` is refused
      right
      have hlimit : rsizeMax ≠ 0 ∧ rsizeMax < destMax := by omega
      simp only [asciiStrCatS, if_pos hlimit]
      exact ⟨rfl, trivial⟩
  · exact .inr (asciiStrCatS_of_le (by omega))

/-- A call that returned no error appended its source, which had room. -/
theorem asciiStrCatS_of_success (h : (asciiStrCatS rsizeMax dest destMax src).1.isError = false) :
    (asciiStrCatS rsizeMax dest destMax src).2 = dest ++ src ∧
      dest.length + src.length < destMax := by
  rcases asciiStrCatS_cases rsizeMax dest destMax src with ⟨hroom, -, heq⟩ | ⟨herror, -⟩
  · rw [heq]
    exact ⟨rfl, hroom⟩
  · rw [herror] at h
    cases h


/-! ### `StrDecimalToUintnS` -/

/-- `MAX_UINTN` of a 64-bit target. -/
def maxUintn : Nat := 2 ^ 64 - 1

/-- `InternalIsDecimalDigitCharacter`: `L'0'` to `L'9'`. -/
def isDecimalDigitCharacter (c : UInt16) : Bool :=
  0x30 ≤ c && c ≤ 0x39

/-- `StrnLenS (String, MaxSize)` of a `CHAR16` string. -/
def strnLenS (s : List UInt16) (maxSize : Nat) : Nat :=
  min s.length maxSize

/-- The digit loop of `StrDecimalToUintnS` from position `pos` with `data` read so far. It
stops at the first non-digit, and at a digit that would overflow `UINTN` it stores
`MAX_UINTN` and returns `RETURN_UNSUPPORTED`. Returns the status, the position `EndPointer`
is left at and `Data`. -/
def strDecimalDigits : List UInt16 → Nat → Nat → EfiStatus × Nat × Nat
  | [], pos, data => (.success, pos, data)
  | c :: cs, pos, data =>
      if isDecimalDigitCharacter c then
        if (maxUintn - (c.toNat - 0x30)) / 10 < data then (.unsupported, pos, maxUintn)
        else strDecimalDigits cs (pos + 1) (data * 10 + (c.toNat - 0x30))
      else (.success, pos, data)

/-- `StrDecimalToUintnS (String, &EndPointer, &Data)` on the characters `s` before the NUL,
`rsizeMax` being `RSIZE_MAX` (`PcdMaximumUnicodeStringLength`, 0 for no limit). It skips
spaces and tabs, then leading zeros, then reads digits. A failed constraint check writes
neither output; 0 stands for both then. -/
def strDecimalToUintnS (rsizeMax : Nat) (s : List UInt16) : EfiStatus × Nat × Nat :=
  if rsizeMax ≠ 0 ∧ rsizeMax < strnLenS s (rsizeMax + 1) then (.invalidParameter, 0, 0)
  else
    let pad := (s.takeWhile fun c => c == 0x20 || c == 0x09).length
    let zeros := ((s.drop pad).takeWhile (· == 0x30)).length
    strDecimalDigits (s.drop (pad + zeros)) (pad + zeros) 0

/-- The value a run of decimal digits read most significant first gives, from `data`. -/
def numeric (ds : List UInt16) (data : Nat) : Nat :=
  ds.foldl (fun v c => v * 10 + (c.toNat - 0x30)) data

@[simp] theorem numeric_nil (data : Nat) : numeric [] data = data := rfl

@[simp] theorem numeric_cons (c : UInt16) (cs : List UInt16) (data : Nat) :
    numeric (c :: cs) data = numeric cs (data * 10 + (c.toNat - 0x30)) := by
  simp only [numeric, List.foldl_cons]

theorem numeric_append (xs ys : List UInt16) (data : Nat) :
    numeric (xs ++ ys) data = numeric ys (numeric xs data) := by
  simp [numeric, List.foldl_append]

/-- Reading more digits never lowers the value. -/
theorem le_numeric (ds : List UInt16) (data : Nat) : data ≤ numeric ds data := by
  induction ds generalizing data with
  | nil => exact Nat.le_refl data
  | cons c cs ih =>
      rw [numeric_cons]
      have := ih (data * 10 + (c.toNat - 0x30))
      omega

/-- Leading zeros add nothing. -/
theorem numeric_of_zeros {zs : List UInt16} (hz : ∀ c ∈ zs, c = 0x30) : numeric zs 0 = 0 := by
  induction zs with
  | nil => rfl
  | cons c cs ih =>
      have hc : c.toNat = 0x30 := by rw [hz c List.mem_cons_self]; rfl
      rw [numeric_cons, hc]
      exact ih fun x hx => hz x (List.mem_cons_of_mem c hx)

theorem toNat_le_of_isDecimalDigitCharacter {c : UInt16} (h : isDecimalDigitCharacter c = true) :
    0x30 ≤ c.toNat ∧ c.toNat ≤ 0x39 := by
  simp only [isDecimalDigitCharacter, Bool.and_eq_true, decide_eq_true_eq] at h
  exact ⟨UInt16.le_iff_toNat_le.mp h.1, UInt16.le_iff_toNat_le.mp h.2⟩

/-- On a run of digits whose value fits `UINTN`, the digit loop reads them all. -/
theorem strDecimalDigits_of_digits {ds : List UInt16}
    (hds : ∀ c ∈ ds, isDecimalDigitCharacter c = true) (pos data : Nat)
    (hle : numeric ds data ≤ maxUintn) :
    strDecimalDigits ds pos data = (.success, pos + ds.length, numeric ds data) := by
  induction ds generalizing pos data with
  | nil => rfl
  | cons c cs ih =>
      have hc := hds c List.mem_cons_self
      have hbound := toNat_le_of_isDecimalDigitCharacter hc
      rw [numeric_cons] at hle ⊢
      -- The overflow test fails: the value so far, shifted, is below the final one.
      have hgrow := le_numeric cs (data * 10 + (c.toNat - 0x30))
      have hno : ¬ (maxUintn - (c.toNat - 0x30)) / 10 < data := by
        simp only [maxUintn] at hle ⊢
        omega
      have hrest := ih (fun x hx => hds x (List.mem_cons_of_mem c hx)) (pos + 1)
        (data * 10 + (c.toNat - 0x30)) hle
      rw [strDecimalDigits, if_pos hc, if_neg hno, hrest, List.length_cons]
      congr 2
      omega

/-- **A run of digits reads back as its value.** Leading zeros included, a string of
decimal digits whose value fits `UINTN` and whose length passes `RSIZE_MAX` converts to its
value, with `EndPointer` at its end. -/
theorem strDecimalToUintnS_of_digits {rsizeMax : Nat} {ds : List UInt16}
    (hds : ∀ c ∈ ds, isDecimalDigitCharacter c = true) (hrsize : rsizeMax = 0 ∨ ds.length ≤ rsizeMax)
    (hle : numeric ds 0 ≤ maxUintn) :
    strDecimalToUintnS rsizeMax ds = (.success, ds.length, numeric ds 0) := by
  have hcheck : ¬ (rsizeMax ≠ 0 ∧ rsizeMax < strnLenS ds (rsizeMax + 1)) := by
    simp only [strnLenS]
    omega
  -- No padding: a digit is neither a space nor a tab.
  have hpad : (ds.takeWhile fun c => c == 0x20 || c == 0x09) = [] := by
    cases ds with
    | nil => rfl
    | cons c cs =>
        have hbound := toNat_le_of_isDecimalDigitCharacter (hds c List.mem_cons_self)
        have h20 : c ≠ 0x20 := fun h => by rw [h] at hbound; simp at hbound
        have h09 : c ≠ 0x09 := fun h => by rw [h] at hbound; simp at hbound
        simp [h20, h09]
  -- The leading zeros, then the digits the loop reads.
  obtain ⟨zs, rest, hzs, hsplit⟩ : ∃ zs rest, ds.takeWhile (· == 0x30) = zs ∧ zs ++ rest = ds :=
    ⟨_, _, rfl, List.takeWhile_append_dropWhile⟩
  have hzero : numeric zs 0 = 0 := by
    apply numeric_of_zeros
    intro c hc
    have hmem : c ∈ ds.takeWhile (· == 0x30) := hzs ▸ hc
    have hbeq := List.mem_takeWhile_imp hmem
    exact beq_iff_eq.mp hbeq
  rw [strDecimalToUintnS, if_neg hcheck]
  simp only [hpad, List.length_nil, List.drop_zero, Nat.zero_add, hzs]
  subst hsplit
  have hvalue : numeric (zs ++ rest) 0 = numeric rest 0 := by
    rw [numeric_append, hzero]
  rw [List.drop_left, strDecimalDigits_of_digits (fun c hc => hds c (List.mem_append_right zs hc)) _ _
    (hvalue ▸ hle), hvalue, List.length_append]

/-- The decimal numeral of `k` in `CHAR16`s, most significant digit first. -/
def decimalString (k : Nat) : List UInt16 :=
  if k < 10 then [(0x30 + k).toUInt16] else decimalString (k / 10) ++ [(0x30 + k % 10).toUInt16]
termination_by k
decreasing_by omega

theorem decimalString_ne_nil (k : Nat) : decimalString k ≠ [] := by
  rw [decimalString]
  split_ifs <;> simp

theorem toNat_digit {d : Nat} (hd : d < 10) : (0x30 + d).toUInt16.toNat = 0x30 + d := by
  have h : 0x30 + d < 2 ^ 16 := by omega
  simp only [Nat.toUInt16_eq, UInt16.toNat_ofNat', Nat.mod_eq_of_lt h]

theorem isDecimalDigitCharacter_digit {d : Nat} (hd : d < 10) :
    isDecimalDigitCharacter (0x30 + d).toUInt16 = true := by
  have h30 : UInt16.toNat 0x30 = 0x30 := rfl
  have h39 : UInt16.toNat 0x39 = 0x39 := rfl
  simp only [isDecimalDigitCharacter, Bool.and_eq_true, decide_eq_true_eq,
    UInt16.le_iff_toNat_le, toNat_digit hd, h30, h39]
  omega

theorem decimalString_digits (k : Nat) : ∀ c ∈ decimalString k, isDecimalDigitCharacter c = true := by
  induction k using decimalString.induct with
  | case1 k hk =>
      rw [decimalString, if_pos hk]
      simpa using isDecimalDigitCharacter_digit hk
  | case2 k hk ih =>
      rw [decimalString, if_neg hk]
      intro c hc
      rcases List.mem_append.mp hc with hc | hc
      · exact ih c hc
      · rw [List.mem_singleton.mp hc]
        exact isDecimalDigitCharacter_digit (Nat.mod_lt k (by decide))

theorem numeric_decimalString (k : Nat) : numeric (decimalString k) 0 = k := by
  induction k using decimalString.induct with
  | case1 k hk =>
      rw [decimalString, if_pos hk, numeric_cons, numeric_nil, toNat_digit hk]
      omega
  | case2 k hk ih =>
      rw [decimalString, if_neg hk, numeric_append, ih, numeric_cons, numeric_nil,
        toNat_digit (Nat.mod_lt k (by decide))]
      omega

/-- A numeral of a number below `10 ^ n` has at most `n` digits. -/
theorem length_decimalString_le {k n : Nat} (hk : k < 10 ^ n) (hn : 0 < n) :
    (decimalString k).length ≤ n := by
  induction k using decimalString.induct generalizing n with
  | case1 k hk' =>
      rw [decimalString, if_pos hk', List.length_singleton]
      exact hn
  | case2 k hk' ih =>
      obtain ⟨m, rfl⟩ : ∃ m, n = m + 1 := ⟨n - 1, by omega⟩
      have hm : 0 < m := by
        rcases Nat.eq_zero_or_pos m with h | h
        · subst h
          simp at hk
          omega
        · exact h
      have hdiv : k / 10 < 10 ^ m := by
        rw [Nat.pow_succ] at hk
        omega
      rw [decimalString, if_neg hk', List.length_append, List.length_singleton]
      have := ih hdiv hm
      omega

/-- **Round trip.** `StrDecimalToUintnS` reads the numeral of every `UINTN` value back, when
`RSIZE_MAX` allows its at most 20 digits. -/
theorem strDecimalToUintnS_decimalString {rsizeMax k : Nat} (hk : k ≤ maxUintn)
    (hrsize : rsizeMax = 0 ∨ 20 ≤ rsizeMax) :
    strDecimalToUintnS rsizeMax (decimalString k) = (.success, (decimalString k).length, k) := by
  have hlen : (decimalString k).length ≤ 20 := by
    apply length_decimalString_le _ (by decide)
    simp only [maxUintn] at hk
    omega
  have h := @strDecimalToUintnS_of_digits rsizeMax _ (decimalString_digits k) (by omega)
    ((numeric_decimalString k).symm ▸ hk)
  rw [numeric_decimalString] at h
  exact h

end MuPlus
