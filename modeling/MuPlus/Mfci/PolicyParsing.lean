import MuPlus.Mfci.Dxe

/-!
# MuPlus.Mfci.PolicyParsing

**The binary MFCI policy and `MfciPolicyParsingLib`** (`MfciPkg/Private/Library/
MfciPolicyParsingLib`). A policy is a packed `MfciPolicyBlob` header, `RulesCount` sixteen-byte
`RULE`s and a value table; each rule holds three offsets into the value table, to its sub-key
name, its value name (each a `POLICY_STRING`: a `UINT16` length in bytes, then that many bytes
of `CHAR16`s) and its value (a `UINT16` type, then a `POLICY_STRING` or a `UINT64`).

The policy lies at address 0 of a `ByteMem`, `PolicySize` bytes long; the bytes after it are
whatever the heap holds there, so a result that reads past the policy depends on them.
`SanityCheckPolicy` is the validator; `FindRule`, `ExtractChar16` and `ExtractUint64` trust it
and check no bound of their own. `mfciPolicyParsingLib` is the library `MuPlus.Mfci.Dxe` takes
as a parameter, built from these functions.

## Results

* `sanityCheckPolicy_eq_success_iff`: the validator accepts exactly the policies of
  `PolicyAccepted`. Its check of a name string, `ValueTableOffset + Offset + StringLength <=
  PolicySize`, leaves out the string's two-byte length field, so an accepted string may end two
  bytes past the policy;
* `findRule_eq`: `FindRule` is a search for the first UEFI rule whose stored names match the
  requested ones by `storedNameMatches`. `StrnCmp` compares only as many characters as the
  stored string has, so a stored name without `L'\0'` matches every name it is a prefix of;
* `extractChar16_eq_success_iff`: the `StrSize` check of `ExtractChar16` rejects a string value
  with an `L'\0'` in it and one with an odd `StringLength`;
* `sanityCheckSignedPolicy_congr`: the validator reads only the policy, whatever heap its copy
  lies in;
* `mfciPolicyParsingLib_congr`: on a policy the validator accepts, every answer of the library
  depends on the policy and the two heap bytes after its copy, and on no other byte;
  `extractUint64_reads_past_policy` shows those two bytes can decide it.
-/

namespace MuPlus.Mfci

open ByteMem

/-! ### The layout -/

/-- `sizeof (MfciPolicyBlob)`: the packed header. -/
def mfciPolicyBlobSize : Nat := 32

/-- `sizeof (RULE)`. -/
def ruleSize : Nat := 16

/-- `POLICY_BLOB_MIN_SIZE`. -/
def policyBlobMinSize : Nat := 2 + 4 + 16 + 3 * 2 + 4

/-- `POLICY_BLOB_MAX_SIZE`. -/
def policyBlobMaxSize : Nat := 2 ^ 15

/-- `POLICY_FORMAT_VERSION`. -/
def policyFormatVersion : Nat := 2

/-- `POLICY_VERSION`. -/
def policyVersion : Nat := 1

/-- `POLICY_PUBLISHER_GUID` (`5AE6F808-8384-4EB9-A23A-0CCC1093E3DD`) as `CompareGuid` sees it
in memory. -/
def policyPublisherGuid : List UInt8 :=
  [0x08, 0xF8, 0xE6, 0x5A, 0x84, 0x83, 0xB9, 0x4E,
    0xA2, 0x3A, 0x0C, 0xCC, 0x10, 0x93, 0xE3, 0xDD]

/-- `UEFI_POLICIES_ROOT_KEY`. -/
def uefiPoliciesRootKey : Nat := 0xEF100000

/-- `POLICY_VALUE_TYPE_STRING`. -/
def policyValueTypeString : Nat := 0

/-- `POLICY_VALUE_TYPE_QWORD`. -/
def policyValueTypeQword : Nat := 5

/-- `POLICY_NAME_SEPARATOR`, `L'\\'`. -/
def policyNameSeparator : UInt16 := 0x5C

/-- `RulesCount`, the last field of the header. -/
def rulesCount (m : ByteMem) : Nat :=
  m.loadLe 30 2

/-- `ValueTableOffset`: the value table follows the rules. -/
def valueTableOffset (m : ByteMem) : Nat :=
  mfciPolicyBlobSize + rulesCount m * ruleSize

/-- The address of `Rules[i]`. -/
def ruleAddress (i : Nat) : Nat :=
  mfciPolicyBlobSize + i * ruleSize

/-- `Rules[i].RootKey`. -/
def rootKey (m : ByteMem) (i : Nat) : Nat :=
  m.loadLe (ruleAddress i) 4

/-- `Rules[i].OffsetToSubKeyName`. -/
def offsetToSubKeyName (m : ByteMem) (i : Nat) : Nat :=
  m.loadLe (ruleAddress i + 4) 4

/-- `Rules[i].OffsetToValueName`. -/
def offsetToValueName (m : ByteMem) (i : Nat) : Nat :=
  m.loadLe (ruleAddress i + 8) 4

/-- `Rules[i].OffsetToValue`. -/
def offsetToValue (m : ByteMem) (i : Nat) : Nat :=
  m.loadLe (ruleAddress i + 12) 4

/-- The `CHAR16`s of the `POLICY_STRING` at address `a`: `StringLength / sizeof (CHAR16)` of
them, after the length field. -/
def policyString (m : ByteMem) (a : Nat) : List UInt16 :=
  char16s (m.read (a + 2) (m.loadLe a 2 / 2 * 2))

/-! ### `SanityCheckPolicy` -/

/-- `CalculateSizeOfValueTableEntry`: the size of the value at address `a` by its type, 0 for a
type the format does not have. -/
def calculateSizeOfValueTableEntry (m : ByteMem) (a : Nat) : Nat :=
  if m.loadLe a 2 = policyValueTypeString then 4 + m.loadLe (a + 2) 2 + 2
  else if m.loadLe a 2 = policyValueTypeQword then 10
  else 0

/-- The two checks `SanityCheckPolicy` makes of a name string at `offset` in the value table:
its length field lies in the table, and `ValueTableOffset + offset + StringLength` is within the
policy. -/
def policyStringFits (m : ByteMem) (policySize offset : Nat) : Bool :=
  offset + 2 ≤ policySize - valueTableOffset m &&
    valueTableOffset m + offset + m.loadLe (valueTableOffset m + offset) 2 ≤ policySize

/-- The loop of `SanityCheckPolicy` over the rules from `Rules[i]` on. -/
def sanityCheckRules (m : ByteMem) (policySize : Nat) : Nat → Nat → EfiStatus
  | _, 0 => .success
  | i, remaining + 1 =>
    let valueTableSize := policySize - valueTableOffset m
    if rootKey m i ≠ uefiPoliciesRootKey then .compromisedData
    else if !policyStringFits m policySize (offsetToSubKeyName m i) then .compromisedData
    else if !policyStringFits m policySize (offsetToValueName m i) then .compromisedData
    else if offsetToValue m i + 2 > valueTableSize then .compromisedData
    else
      let valueSize := calculateSizeOfValueTableEntry m (valueTableOffset m + offsetToValue m i)
      if valueSize = 0 then .compromisedData
      else if offsetToValue m i + valueSize > valueTableSize then .compromisedData
      else sanityCheckRules m policySize (i + 1) remaining

/-- `SanityCheckPolicy (Policy, PolicySize)`. -/
def sanityCheckPolicy (m : ByteMem) (policySize : Nat) : EfiStatus :=
  if policySize = 0 then .invalidParameter
  else if policySize < policyBlobMinSize ∨ policySize > policyBlobMaxSize then .badBufferSize
  else if m.loadLe 0 2 ≠ policyFormatVersion ∨ m.loadLe 2 4 ≠ policyVersion then .compromisedData
  else if m.read 6 16 ≠ policyPublisherGuid then .compromisedData
  else if m.loadLe 22 2 ≠ 0 then .compromisedData
  else if m.loadLe 24 4 ≠ 0 then .compromisedData
  else if m.loadLe 28 2 ≠ 0 then .compromisedData
  else if valueTableOffset m > policySize then .compromisedData
  else sanityCheckRules m policySize 0 (rulesCount m)

/-- `SanityCheckSignedPolicy (SignedPolicy, SignedPolicySize)`: the content
`Pkcs7GetAttachedContent` returns is allocated at address 0 of `heap` and checked. -/
def sanityCheckSignedPolicy (getAttachedContent : List UInt8 → Option (List UInt8))
    (heap : ByteMem) (signedPolicy : List UInt8) : EfiStatus :=
  if signedPolicy = [] then .invalidParameter
  else
    match getAttachedContent signedPolicy with
    | none => .compromisedData
    | some policy => sanityCheckPolicy (heap.write 0 policy) policy.length

/-! ### `FindRule` and the extraction functions -/

/-- `SplitPolicyName`: the sub-key before the first `L'\\'`, and the value name after it (the
empty string when there is none). -/
def splitPolicyName (policyName : List UInt16) : List UInt16 × List UInt16 :=
  (policyName.takeWhile (· ≠ policyNameSeparator),
    (policyName.dropWhile (· ≠ policyNameSeparator)).drop 1)

/-- The loop of `FindRule` over the rules from `Rules[i]` on: the address of the value of the
first rule under the UEFI root key whose stored names `StrnCmp` finds equal to the requested
ones, over the stored names' lengths. -/
def findRuleLoop (m : ByteMem) (subKeyExpected valueNameExpected : List UInt16) :
    Nat → Nat → Option Nat
  | _, 0 => none
  | i, remaining + 1 =>
    if rootKey m i ≠ uefiPoliciesRootKey then
      findRuleLoop m subKeyExpected valueNameExpected (i + 1) remaining
    else
      let subKeyName := valueTableOffset m + offsetToSubKeyName m i
      if strnCmp subKeyExpected (policyString m subKeyName) (m.loadLe subKeyName 2 / 2) ≠ 0 then
        findRuleLoop m subKeyExpected valueNameExpected (i + 1) remaining
      else
        let valueName := valueTableOffset m + offsetToValueName m i
        if strnCmp valueNameExpected (policyString m valueName) (m.loadLe valueName 2 / 2) ≠ 0
        then findRuleLoop m subKeyExpected valueNameExpected (i + 1) remaining
        else some (valueTableOffset m + offsetToValue m i)

/-- `FindRule (Policy, MfciPolicyName, &Value)`: the address of the value, `none` for
`EFI_NOT_FOUND`. The name is copied to `LocalString` and split there. -/
def findRule (m : ByteMem) (mfciPolicyName : List UInt16) : Option Nat :=
  findRuleLoop m (splitPolicyName mfciPolicyName).1 (splitPolicyName mfciPolicyName).2 0
    (rulesCount m)

/-- `ExtractChar16` once `Pkcs7GetAttachedContent` has placed the policy in memory: the value
must be a string, is copied to a buffer of `StringLength + sizeof (CHAR16)` bytes ended by
`L'\0'`, and must hold no other `L'\0'`. -/
def extractChar16 (allocatePool : Nat → Bool) (m : ByteMem) (mfciPolicyName : List UInt16) :
    EfiStatus × List UInt16 :=
  match findRule m mfciPolicyName with
  | none => (.notFound, [])
  | some value =>
    if m.loadLe value 2 ≠ policyValueTypeString then (.compromisedData, [])
    else
      let stringLength := m.loadLe (value + 2) 2
      if !allocatePool (stringLength + 2) then (.outOfResources, [])
      else
        let targetString := char16s (m.read (value + 4) stringLength)
        if strSize targetString ≠ stringLength + 2 then (.compromisedData, [])
        else (.success, targetString)

/-- `ExtractUint64` once the policy is in memory: the value must be a `QWORD`. The caller's
variable is not written on an error; the model returns 0 there. -/
def extractUint64 (m : ByteMem) (mfciPolicyName : List UInt16) : EfiStatus × UInt64 :=
  match findRule m mfciPolicyName with
  | none => (.notFound, 0)
  | some value =>
    if m.loadLe value 2 ≠ policyValueTypeQword then (.compromisedData, 0)
    else (.success, (m.loadLe (value + 2) 8).toUInt64)

/-- The `CHAR16`s of an ASCII string. -/
def asciiChar16s (s : String) : List UInt16 :=
  s.toList.map fun c => c.toNat.toUInt16

/-- `gPolicyBlobFieldName`: the name of each field of the policy. -/
def policyBlobFieldName : MfciPolicyField → List UInt16
  | .target .manufacturer => asciiChar16s "Target\\Manufacturer"
  | .target .product => asciiChar16s "Target\\Product"
  | .target .serialNumber => asciiChar16s "Target\\SerialNumber"
  | .target .oem01 => asciiChar16s "Target\\OEM_01"
  | .target .oem02 => asciiChar16s "Target\\OEM_02"
  | .targetNonce => asciiChar16s "Target\\Nonce"
  | .uefiPolicy => asciiChar16s "UEFI\\Policy"

/-- `MfciPolicyParsingLib` as the source implements it. `Pkcs7GetAttachedContent` is
`getAttachedContent`, and the policy it returns is allocated at address 0 of a heap whose other
bytes are `heap`. -/
def mfciPolicyParsingLib (getAttachedContent : List UInt8 → Option (List UInt8))
    (heap : ByteMem) (allocatePool : Nat → Bool) : MfciPolicyParsingLib where
  extractChar16 signedPolicy field :=
    if signedPolicy = [] then (.invalidParameter, [])
    else
      match getAttachedContent signedPolicy with
      | none => (.compromisedData, [])
      | some policy =>
        extractChar16 allocatePool (heap.write 0 policy) (policyBlobFieldName field)
  extractUint64 signedPolicy field :=
    if signedPolicy = [] then (.invalidParameter, 0)
    else
      match getAttachedContent signedPolicy with
      | none => (.compromisedData, 0)
      | some policy => extractUint64 (heap.write 0 policy) (policyBlobFieldName field)

/-! ### What the validator accepts -/

/-- A name string at `offset` in the value table passes both checks. -/
structure PolicyStringOk (m : ByteMem) (policySize offset : Nat) : Prop where
  header_le : offset + 2 ≤ policySize - valueTableOffset m
  length_le : valueTableOffset m + offset + m.loadLe (valueTableOffset m + offset) 2 ≤ policySize

/-- `Rules[i]` passes every check of `SanityCheckPolicy`. -/
structure RuleOk (m : ByteMem) (policySize i : Nat) : Prop where
  rootKey_eq : rootKey m i = uefiPoliciesRootKey
  subKeyName : PolicyStringOk m policySize (offsetToSubKeyName m i)
  valueName : PolicyStringOk m policySize (offsetToValueName m i)
  value_header_le : offsetToValue m i + 2 ≤ policySize - valueTableOffset m
  valueSize_pos : 0 < calculateSizeOfValueTableEntry m (valueTableOffset m + offsetToValue m i)
  value_le : offsetToValue m i +
    calculateSizeOfValueTableEntry m (valueTableOffset m + offsetToValue m i) ≤
      policySize - valueTableOffset m

/-- A policy `SanityCheckPolicy` accepts. -/
structure PolicyAccepted (m : ByteMem) (policySize : Nat) : Prop where
  minSize_le : policyBlobMinSize ≤ policySize
  le_maxSize : policySize ≤ policyBlobMaxSize
  formatVersion_eq : m.loadLe 0 2 = policyFormatVersion
  policyVersion_eq : m.loadLe 2 4 = policyVersion
  publisher_eq : m.read 6 16 = policyPublisherGuid
  reserved1Count_eq : m.loadLe 22 2 = 0
  optionFlags_eq : m.loadLe 24 4 = 0
  reserved2Count_eq : m.loadLe 28 2 = 0
  valueTableOffset_le : valueTableOffset m ≤ policySize
  rules : ∀ i < rulesCount m, RuleOk m policySize i

theorem policyStringFits_iff {m : ByteMem} {policySize offset : Nat} :
    policyStringFits m policySize offset = true ↔ PolicyStringOk m policySize offset := by
  rw [policyStringFits, Bool.and_eq_true, decide_eq_true_eq, decide_eq_true_eq]
  exact ⟨fun h => ⟨h.1, h.2⟩, fun h => ⟨h.header_le, h.length_le⟩⟩

/-- One pass of the validator's loop accepts exactly a rule that passes every check. -/
theorem sanityCheckRules_succ_eq_success_iff {m : ByteMem} {policySize i remaining : Nat} :
    sanityCheckRules m policySize i (remaining + 1) = .success ↔
      RuleOk m policySize i ∧ sanityCheckRules m policySize (i + 1) remaining = .success := by
  rw [sanityCheckRules.eq_2]
  dsimp only
  split_ifs with hroot hsub hname hheader hsize hvalue
  · exact iff_of_false (by simp) fun h => hroot h.1.rootKey_eq
  · exact iff_of_false (by simp) fun h => by simp [policyStringFits_iff.mpr h.1.subKeyName] at hsub
  · exact iff_of_false (by simp) fun h => by simp [policyStringFits_iff.mpr h.1.valueName] at hname
  · exact iff_of_false (by simp) fun h => by have := h.1.value_header_le; omega
  · exact iff_of_false (by simp) fun h => by have := h.1.valueSize_pos; omega
  · exact iff_of_false (by simp) fun h => by have := h.1.value_le; omega
  · -- every check passed: the rule is well formed
    have hrule : RuleOk m policySize i :=
      ⟨not_not.mp hroot, policyStringFits_iff.mp (by simpa using hsub),
        policyStringFits_iff.mp (by simpa using hname), by omega, by omega, by omega⟩
    exact ⟨fun h => ⟨hrule, h⟩, fun h => h.2⟩

/-- The validator's loop accepts the rules from `Rules[i]` on exactly when each passes. -/
theorem sanityCheckRules_eq_success_iff {m : ByteMem} {policySize : Nat} :
    ∀ remaining i, sanityCheckRules m policySize i remaining = .success ↔
      ∀ j < remaining, RuleOk m policySize (i + j) := by
  intro remaining
  induction remaining with
  | zero =>
    intro i
    exact iff_of_true rfl fun j hj => absurd hj (Nat.not_lt_zero j)
  | succ remaining ih =>
    intro i
    rw [sanityCheckRules_succ_eq_success_iff, ih (i + 1)]
    constructor
    · rintro ⟨hfirst, hrest⟩ j hj
      rcases j with _ | j
      · exact hfirst
      · have := hrest j (by omega)
        rwa [Nat.add_assoc, Nat.add_comm 1 j] at this
    · intro h
      refine ⟨h 0 (Nat.zero_lt_succ _), fun j hj => ?_⟩
      have := h (j + 1) (by omega)
      rwa [← Nat.add_assoc, Nat.add_right_comm] at this

/-- `SanityCheckPolicy` accepts exactly the policies of `PolicyAccepted`. -/
theorem sanityCheckPolicy_eq_success_iff {m : ByteMem} {policySize : Nat} :
    sanityCheckPolicy m policySize = .success ↔ PolicyAccepted m policySize := by
  have hmin : 0 < policyBlobMinSize := by decide
  unfold sanityCheckPolicy
  split_ifs with hzero hsize hversion hguid hres1 hflags hres2 hoffset
  · exact iff_of_false (by simp) fun h => by have := h.minSize_le; omega
  · exact iff_of_false (by simp) fun h => by have := h.minSize_le; have := h.le_maxSize; omega
  · exact iff_of_false (by simp) fun h => hversion.elim
      (absurd h.formatVersion_eq) (absurd h.policyVersion_eq)
  · exact iff_of_false (by simp) fun h => hguid h.publisher_eq
  · exact iff_of_false (by simp) fun h => hres1 h.reserved1Count_eq
  · exact iff_of_false (by simp) fun h => hflags h.optionFlags_eq
  · exact iff_of_false (by simp) fun h => hres2 h.reserved2Count_eq
  · exact iff_of_false (by simp) fun h => by have := h.valueTableOffset_le; omega
  · -- the header passed: the policy is accepted when every rule is
    rw [sanityCheckRules_eq_success_iff]
    simp only [Nat.zero_add]
    push Not at hsize hversion
    exact ⟨fun hrules => ⟨hsize.1, hsize.2, hversion.1, hversion.2, not_not.mp hguid,
      not_not.mp hres1, not_not.mp hflags, not_not.mp hres2, by omega, hrules⟩,
      fun h => h.rules⟩

/-! ### How `StrnCmp` matches a stored name -/

/-- How a stored `POLICY_STRING`, which "may or may not be NULL terminated", matches a requested
name: one without `L'\0'` matches every name it is a prefix of, one with an `L'\0'` only the
name equal to its characters before it. -/
def storedNameMatches (expected stored : List UInt16) : Bool :=
  if 0 ∈ stored then expected == stored.takeWhile (· ≠ 0) else stored.isPrefixOf expected

theorem length_char16s : ∀ bs : List UInt8, (char16s bs).length = bs.length / 2
  | [] => rfl
  | [_] => by simp [char16s]
  | b₀ :: b₁ :: bs => by
    rw [char16s, List.length_cons, length_char16s bs, List.length_cons, List.length_cons]
    omega

/-- The stored string has one character per two bytes of its `StringLength`. -/
@[simp] theorem length_policyString (m : ByteMem) (a : Nat) :
    (policyString m a).length = m.loadLe a 2 / 2 := by
  rw [policyString, length_char16s, length_read]
  omega

theorem char16Diff_eq_zero_iff {x c : UInt16} : ((x.toNat : Int) - c.toNat = 0) ↔ x = c := by
  rw [sub_eq_zero, Nat.cast_inj, UInt16.toNat_inj]

/-- `StrnCmp` over the stored string's own length: it walks the stored characters while they
equal the request's and neither has reached its `L'\0'`, and then compares one more pair. -/
theorem strnCmp_length_eq_zero_iff {firstString secondString : List UInt16}
    (hfirst : 0 ∉ firstString) :
    strnCmp firstString secondString secondString.length = 0 ↔
      storedNameMatches firstString secondString = true := by
  induction secondString generalizing firstString with
  | nil => simp [strnCmp, storedNameMatches]
  | cons c s ih =>
    rw [List.length_cons, strnCmp.eq_2]
    rcases firstString with _ | ⟨x, f⟩
    · -- the request has ended: its `L'\0'` meets the stored character
      rw [List.headD_nil, if_neg fun h => h.1 rfl, char16Diff_eq_zero_iff]
      by_cases hc : c = 0
      · subst hc
        simp [storedNameMatches]
      · simp [storedNameMatches, hc, Ne.symm hc]
    · have hx : x ≠ 0 := fun h => hfirst (h ▸ List.mem_cons_self)
      have hf : 0 ∉ f := fun h => hfirst (List.mem_cons_of_mem x h)
      by_cases hstep : c ≠ 0 ∧ x = c ∧ 0 < s.length
      · -- both characters agree and more remain: `StrnCmp` moves on
        obtain ⟨hc, rfl, hs⟩ := hstep
        simp only [List.headD_cons, List.tail_cons, ne_eq, hx, not_false_eq_true, hs, and_self,
          if_true, ih hf, storedNameMatches, List.mem_cons, List.takeWhile_cons, decide_true,
          Ne.symm hx, false_or, List.isPrefixOf_cons_cons_self]
        by_cases h0 : (0 : UInt16) ∈ s <;> simp [h0]
      · -- `StrnCmp` stops here and compares this pair
        simp only [List.headD_cons, ne_eq, hx, not_false_eq_true, true_and]
        rw [if_neg (by simpa [ne_eq] using hstep), char16Diff_eq_zero_iff]
        by_cases hc : c = 0
        · subst hc
          simp [storedNameMatches, hx]
        · have hs : x = c → s = [] := fun hxc => List.eq_nil_of_length_eq_zero (by
            by_contra hs
            exact hstep ⟨hc, hxc, Nat.pos_of_ne_zero hs⟩)
          by_cases hxc : x = c
          · subst hxc
            simp [storedNameMatches, hs rfl, Ne.symm hx]
          · simp [storedNameMatches, hxc, Ne.symm hxc, hc, Ne.symm hc]

theorem strnCmp_policyString_eq_zero_iff {expected : List UInt16} (hexpected : 0 ∉ expected)
    (m : ByteMem) (a : Nat) :
    strnCmp expected (policyString m a) (m.loadLe a 2 / 2) = 0 ↔
      storedNameMatches expected (policyString m a) = true := by
  rw [← length_policyString]
  exact strnCmp_length_eq_zero_iff hexpected

/-- `StrSize` of the bytes copied into `TargetString` is `StringLength + sizeof (CHAR16)` exactly
when they hold no `L'\0'` and are a whole number of characters. -/
theorem strSize_char16s_eq_iff (bs : List UInt8) :
    strSize (char16s bs) = bs.length + 2 ↔ 0 ∉ char16s bs ∧ bs.length % 2 = 0 := by
  have hprefix := List.takeWhile_prefix (· ≠ (0 : UInt16)) (l := char16s bs)
  have hle := hprefix.length_le
  rw [length_char16s] at hle
  rw [strSize]
  constructor
  · intro hsize
    -- the characters before the first `L'\0'` are all of them
    have hall : (char16s bs).takeWhile (· ≠ 0) = char16s bs :=
      hprefix.eq_of_length (by rw [length_char16s]; omega)
    refine ⟨fun hmem => ?_, by omega⟩
    have := List.takeWhile_eq_self_iff.mp hall 0 hmem
    simp at this
  · rintro ⟨hnull, heven⟩
    have hall : (char16s bs).takeWhile (· ≠ 0) = char16s bs :=
      List.takeWhile_eq_self_iff.mpr fun c hc => by
        simpa using fun hzero : c = 0 => hnull (hzero ▸ hc)
    rw [hall, length_char16s]
    omega

/-! ### What `FindRule` finds -/

/-- `Rules[i]` answers a request for the sub-key `subKey` and the value name `valueName`: it is
under the UEFI root key and both its stored names match. -/
def ruleMatches (m : ByteMem) (subKey valueName : List UInt16) (i : Nat) : Bool :=
  rootKey m i == uefiPoliciesRootKey &&
    storedNameMatches subKey (policyString m (valueTableOffset m + offsetToSubKeyName m i)) &&
    storedNameMatches valueName (policyString m (valueTableOffset m + offsetToValueName m i))

/-- The loop of `FindRule` is a search, in order, for the first rule that answers the request. -/
theorem findRuleLoop_eq {m : ByteMem} {subKey valueName : List UInt16} (hsubKey : 0 ∉ subKey)
    (hvalueName : 0 ∉ valueName) :
    ∀ remaining i, findRuleLoop m subKey valueName i remaining =
      ((List.range' i remaining).find? (ruleMatches m subKey valueName)).map
        fun j => valueTableOffset m + offsetToValue m j := by
  intro remaining
  induction remaining with
  | zero => intro i; rfl
  | succ remaining ih =>
    intro i
    rw [findRuleLoop.eq_2, List.range'_succ, List.find?_cons, ih (i + 1)]
    -- the three tests of the loop are the three conjuncts of `ruleMatches`
    simp only [ne_eq, strnCmp_policyString_eq_zero_iff hsubKey,
      strnCmp_policyString_eq_zero_iff hvalueName, ruleMatches]
    by_cases hroot : rootKey m i = uefiPoliciesRootKey
    · by_cases hsub :
          storedNameMatches subKey (policyString m (valueTableOffset m + offsetToSubKeyName m i))
      · by_cases hval : storedNameMatches valueName
            (policyString m (valueTableOffset m + offsetToValueName m i))
        · simp [hroot, hsub, hval]
        · simp [hroot, hsub, hval]
      · simp [hroot, hsub]
    · simp [hroot, beq_false_of_ne hroot]

/-- The bytes of a `POLICY_STRING`. -/
def policyStringBytes (s : List UInt16) : List UInt8 :=
  leBytes 2 (2 * s.length) ++ s.flatMap fun c => leBytes 2 c.toNat

/-- A policy of two rules, laid out as `SanityCheckPolicy` wants it: `Target\Nonce` with the
`QWORD` 42 and `Target\Manufacturer` with the string `Contoso` and its `L'\0'`. Both rules
point at the one sub-key name, which ends the policy. -/
def targetingPolicy : List UInt8 :=
  leBytes 2 policyFormatVersion ++ leBytes 4 policyVersion ++ policyPublisherGuid ++
    leBytes 2 0 ++ leBytes 4 0 ++ leBytes 2 0 ++ leBytes 2 2 ++
    leBytes 4 uefiPoliciesRootKey ++ leBytes 4 68 ++ leBytes 4 30 ++ leBytes 4 0 ++
    leBytes 4 uefiPoliciesRootKey ++ leBytes 4 68 ++ leBytes 4 42 ++ leBytes 4 10 ++
    leBytes 2 policyValueTypeQword ++ leBytes 8 42 ++
    leBytes 2 policyValueTypeString ++ policyStringBytes (asciiChar16s "Contoso") ++ leBytes 2 0 ++
    policyStringBytes (asciiChar16s "Nonce") ++ policyStringBytes (asciiChar16s "Manufacturer") ++
    policyStringBytes (asciiChar16s "Target")

/-- `FindRule` returns the value of the first rule, in the policy's order, that is under the UEFI
root key and whose stored sub-key and value name match the two parts of the requested name. -/
theorem findRule_eq (m : ByteMem) {mfciPolicyName : List UInt16} (hname : 0 ∉ mfciPolicyName) :
    findRule m mfciPolicyName =
      ((List.range (rulesCount m)).find?
        (ruleMatches m (splitPolicyName mfciPolicyName).1 (splitPolicyName mfciPolicyName).2)).map
        fun i => valueTableOffset m + offsetToValue m i := by
  have hsubKey : 0 ∉ (splitPolicyName mfciPolicyName).1 :=
    fun h => hname ((List.takeWhile_sublist _).subset h)
  have hvalueName : 0 ∉ (splitPolicyName mfciPolicyName).2 :=
    fun h => hname ((List.dropWhile_suffix _).subset (List.mem_of_mem_drop h))
  rw [findRule, findRuleLoop_eq hsubKey hvalueName, List.range_eq_range']

theorem findRule_eq_targetingPolicy :
    findRule (ByteMem.write (fun _ => 0) 0 targetingPolicy) (policyBlobFieldName .targetNonce) =
      ((List.range (rulesCount (ByteMem.write (fun _ => 0) 0 targetingPolicy))).find?
        (ruleMatches (ByteMem.write (fun _ => 0) 0 targetingPolicy)
          (splitPolicyName (policyBlobFieldName .targetNonce)).1
          (splitPolicyName (policyBlobFieldName .targetNonce)).2)).map
        fun i => valueTableOffset (ByteMem.write (fun _ => 0) 0 targetingPolicy) +
          offsetToValue (ByteMem.write (fun _ => 0) 0 targetingPolicy) i :=
  findRule_eq _ (by decide)

/-! ### What the functions read

Each result below says which bytes a function's answer depends on: `AgreeBelow m m' n` memories
give the same answer. -/

section Reads

variable {m m' : ByteMem} {policySize : Nat}

theorem rulesCount_congr (h : AgreeBelow m m' policySize) (hsize : policyBlobMinSize ≤ policySize) :
    rulesCount m' = rulesCount m :=
  (h.loadLe_eq (by unfold policyBlobMinSize at hsize; omega)).symm

theorem valueTableOffset_congr (h : AgreeBelow m m' policySize)
    (hsize : policyBlobMinSize ≤ policySize) : valueTableOffset m' = valueTableOffset m := by
  rw [valueTableOffset, valueTableOffset, rulesCount_congr h hsize]

/-- The rules lie below the value table. -/
theorem ruleAddress_add_le {i : Nat} (hi : i < rulesCount m) :
    ruleAddress i + ruleSize ≤ valueTableOffset m := by
  unfold ruleAddress valueTableOffset ruleSize
  omega

/-- A field of `Rules[i]`, `k` bytes into it. -/
theorem ruleField_congr (h : AgreeBelow m m' policySize) (hvalueTable : valueTableOffset m ≤ policySize)
    {i k : Nat} (hi : i < rulesCount m) (hk : k + 4 ≤ ruleSize) :
    m'.loadLe (ruleAddress i + k) 4 = m.loadLe (ruleAddress i + k) 4 :=
  (h.loadLe_eq (by have := ruleAddress_add_le hi; omega)).symm

/-- A stored string that ends below `n`, its length field included. -/
theorem policyString_congr {n a : Nat} (h : AgreeBelow m m' n) (hfit : a + 2 + m.loadLe a 2 ≤ n) :
    m'.loadLe a 2 = m.loadLe a 2 ∧ policyString m' a = policyString m a := by
  have hlength : m'.loadLe a 2 = m.loadLe a 2 := (h.loadLe_eq (by omega)).symm
  refine ⟨hlength, ?_⟩
  rw [policyString, policyString, hlength, h.read_eq (by omega)]

/-- The size of a value entry that fits below `n`. -/
theorem calculateSizeOfValueTableEntry_congr {n a : Nat} (h : AgreeBelow m m' n)
    (hpos : 0 < calculateSizeOfValueTableEntry m a)
    (hfit : a + calculateSizeOfValueTableEntry m a ≤ n) :
    calculateSizeOfValueTableEntry m' a = calculateSizeOfValueTableEntry m a := by
  unfold calculateSizeOfValueTableEntry at hpos hfit ⊢
  -- the type is inside the entry, and so is a string's length field
  have htype : m'.loadLe a 2 = m.loadLe a 2 := by
    refine (h.loadLe_eq ?_).symm
    split_ifs at hpos hfit <;> omega
  rw [htype]
  split_ifs at hpos hfit ⊢ with hstring
  · rw [(h.loadLe_eq (by omega) : m.loadLe (a + 2) 2 = m'.loadLe (a + 2) 2)]
  · rfl
  · rfl

theorem policyStringOk_congr (h : AgreeBelow m m' policySize)
    (hvalueTable : valueTableOffset m' = valueTableOffset m) {offset : Nat}
    (hok : PolicyStringOk m policySize offset) : PolicyStringOk m' policySize offset := by
  have hlength := hok.length_le
  have hheader := hok.header_le
  have hload : m'.loadLe (valueTableOffset m + offset) 2 = m.loadLe (valueTableOffset m + offset) 2 :=
    (h.loadLe_eq (by omega)).symm
  exact ⟨by rw [hvalueTable]; exact hheader, by rw [hvalueTable, hload]; exact hlength⟩

/-- A rule the validator accepts is accepted in every memory that agrees with the policy. -/
theorem ruleOk_congr (h : AgreeBelow m m' policySize) (hsize : policyBlobMinSize ≤ policySize)
    (hvalueTable : valueTableOffset m ≤ policySize) {i : Nat} (hi : i < rulesCount m)
    (hok : RuleOk m policySize i) : RuleOk m' policySize i := by
  have hvt := valueTableOffset_congr h hsize
  have hfield := fun k (hk : k + 4 ≤ ruleSize) => ruleField_congr h hvalueTable hi hk
  have hroot : rootKey m' i = rootKey m i := hfield 0 (by decide)
  have hsub : offsetToSubKeyName m' i = offsetToSubKeyName m i := hfield 4 (by decide)
  have hname : offsetToValueName m' i = offsetToValueName m i := hfield 8 (by decide)
  have hvalue : offsetToValue m' i = offsetToValue m i := hfield 12 (by decide)
  have hheader := hok.value_header_le
  have hsize' := calculateSizeOfValueTableEntry_congr h hok.valueSize_pos (by
    have := hok.value_le; omega)
  refine ⟨by rw [hroot]; exact hok.rootKey_eq, ?_, ?_, ?_, ?_, ?_⟩
  · rw [hsub]; exact policyStringOk_congr h hvt hok.subKeyName
  · rw [hname]; exact policyStringOk_congr h hvt hok.valueName
  · rw [hvalue, hvt]; exact hheader
  · rw [hvalue, hvt, hsize']; exact hok.valueSize_pos
  · rw [hvalue, hvt, hsize']; exact hok.value_le

/-- Every rule the validator's loop rejects, it rejects with `EFI_COMPROMISED_DATA`. -/
theorem sanityCheckRules_eq_compromisedData {m : ByteMem} {policySize : Nat} :
    ∀ remaining i, sanityCheckRules m policySize i remaining ≠ .success →
      sanityCheckRules m policySize i remaining = .compromisedData := by
  intro remaining
  induction remaining with
  | zero => intro i h; exact absurd rfl h
  | succ remaining ih =>
    intro i h
    rw [sanityCheckRules.eq_2] at h ⊢
    dsimp only at h ⊢
    split_ifs at h ⊢
    all_goals first | rfl | exact ih (i + 1) h

/-- The validator's loop reads only the policy. -/
theorem sanityCheckRules_congr {m m' : ByteMem} {policySize : Nat}
    (h : AgreeBelow m m' policySize) (hsize : policyBlobMinSize ≤ policySize)
    (hvalueTable : valueTableOffset m ≤ policySize) {remaining i : Nat}
    (hrules : i + remaining ≤ rulesCount m) :
    sanityCheckRules m' policySize i remaining = sanityCheckRules m policySize i remaining := by
  have hcount := rulesCount_congr h hsize
  have hvalueTable' : valueTableOffset m' ≤ policySize := by
    rw [valueTableOffset_congr h hsize]; exact hvalueTable
  -- both loops accept the same rules, and reject with the same status
  have hiff : sanityCheckRules m' policySize i remaining = .success ↔
      sanityCheckRules m policySize i remaining = .success := by
    rw [sanityCheckRules_eq_success_iff, sanityCheckRules_eq_success_iff]
    exact ⟨fun hok j hj => ruleOk_congr h.symm hsize hvalueTable' (by omega) (hok j hj),
      fun hok j hj => ruleOk_congr h hsize hvalueTable (by omega) (hok j hj)⟩
  by_cases hs : sanityCheckRules m policySize i remaining = .success
  · rw [hs, hiff.mpr hs]
  · rw [sanityCheckRules_eq_compromisedData remaining i hs,
      sanityCheckRules_eq_compromisedData remaining i (mt hiff.mp hs)]

/-- `SanityCheckPolicy` reads only the policy: its answer does not depend on the bytes after it,
though `CalculateSizeOfValueTableEntry` may read two of them. -/
theorem sanityCheckPolicy_congr {m m' : ByteMem} {policySize : Nat}
    (h : AgreeBelow m m' policySize) :
    sanityCheckPolicy m' policySize = sanityCheckPolicy m policySize := by
  unfold sanityCheckPolicy
  by_cases hsize : policyBlobMinSize ≤ policySize
  · -- the header lies in the policy
    have hheader : ∀ {a w}, a + w ≤ policyBlobMinSize → m'.loadLe a w = m.loadLe a w :=
      fun hw => (h.loadLe_eq (by omega)).symm
    rw [hheader (a := 0) (w := 2) (by decide), hheader (a := 2) (w := 4) (by decide),
      h.symm.read_eq (by unfold policyBlobMinSize at hsize; omega),
      hheader (a := 22) (w := 2) (by decide), hheader (a := 24) (w := 4) (by decide),
      hheader (a := 28) (w := 2) (by decide), valueTableOffset_congr h hsize,
      rulesCount_congr h hsize]
    split_ifs <;> first | rfl | exact sanityCheckRules_congr h hsize (by omega) (by omega)
  · -- the size alone decides
    by_cases hzero : policySize = 0
    · rw [if_pos hzero, if_pos hzero]
    · rw [if_neg hzero, if_neg hzero, if_pos (Or.inl (by omega)), if_pos (Or.inl (by omega))]

/-- The loop of `FindRule` over an accepted policy reads the policy and the two bytes after it:
a name string's characters end at most there. -/
theorem findRuleLoop_congr {m m' : ByteMem} {policySize : Nat} (hok : PolicyAccepted m policySize)
    (h : AgreeBelow m m' (policySize + 2)) (subKey valueName : List UInt16) :
    ∀ remaining i, i + remaining ≤ rulesCount m →
      findRuleLoop m' subKey valueName i remaining = findRuleLoop m subKey valueName i remaining := by
  have hsize := hok.minSize_le
  have hpolicy : AgreeBelow m m' policySize := h.mono (Nat.le_add_right _ _)
  have hvt := valueTableOffset_congr hpolicy hsize
  intro remaining
  induction remaining with
  | zero => intro i _; rfl
  | succ remaining ih =>
    intro i hrules
    have hi : i < rulesCount m := by omega
    have hrule := hok.rules i hi
    have hfield := fun k (hk : k + 4 ≤ ruleSize) =>
      ruleField_congr hpolicy hok.valueTableOffset_le hi hk
    have hroot : rootKey m' i = rootKey m i := hfield 0 (by decide)
    have hsub : offsetToSubKeyName m' i = offsetToSubKeyName m i := hfield 4 (by decide)
    have hname : offsetToValueName m' i = offsetToValueName m i := hfield 8 (by decide)
    have hvalue : offsetToValue m' i = offsetToValue m i := hfield 12 (by decide)
    -- the names' length fields lie in the policy, their characters at most two bytes past it
    have hsubName := policyString_congr (a := valueTableOffset m + offsetToSubKeyName m i) h
      (by have := hrule.subKeyName.length_le; omega)
    have hvalueName := policyString_congr (a := valueTableOffset m + offsetToValueName m i) h
      (by have := hrule.valueName.length_le; omega)
    rw [findRuleLoop.eq_2, findRuleLoop.eq_2]
    dsimp only
    rw [hroot, hvt, hsub, hname, hvalue, hsubName.1, hsubName.2, hvalueName.1, hvalueName.2,
      ih (i + 1) (by omega)]

theorem findRule_congr {m m' : ByteMem} {policySize : Nat} (hok : PolicyAccepted m policySize)
    (h : AgreeBelow m m' (policySize + 2)) (mfciPolicyName : List UInt16) :
    findRule m' mfciPolicyName = findRule m mfciPolicyName := by
  rw [findRule, findRule, rulesCount_congr (h.mono (Nat.le_add_right _ _)) hok.minSize_le]
  exact findRuleLoop_congr hok h _ _ _ 0 (by omega)

/-- What the loop of `FindRule` returns is the value of a rule it went through. -/
theorem findRuleLoop_eq_some {m : ByteMem} {subKey valueName : List UInt16} {value : Nat} :
    ∀ remaining i, findRuleLoop m subKey valueName i remaining = some value →
      ∃ j, i ≤ j ∧ j < i + remaining ∧ value = valueTableOffset m + offsetToValue m j := by
  intro remaining
  induction remaining with
  | zero => intro i h; cases h
  | succ remaining ih =>
    intro i h
    rw [findRuleLoop.eq_2] at h
    dsimp only at h
    -- the rule is returned, or the search goes on from the next one
    split_ifs at h
    all_goals first
      | exact ⟨i, le_refl i, by omega, (Option.some.inj h).symm⟩
      | obtain ⟨j, hij, hj, hvalue⟩ := ih (i + 1) h
        exact ⟨j, by omega, by omega, hvalue⟩

/-- The value `FindRule` returns from an accepted policy is an entry of a known type that lies in
the policy. -/
theorem findRule_value_le {m : ByteMem} {policySize : Nat} (hok : PolicyAccepted m policySize)
    {mfciPolicyName : List UInt16} {value : Nat} (h : findRule m mfciPolicyName = some value) :
    0 < calculateSizeOfValueTableEntry m value ∧
      value + calculateSizeOfValueTableEntry m value ≤ policySize := by
  obtain ⟨j, -, hj, rfl⟩ := findRuleLoop_eq_some _ _ h
  have hrule := hok.rules j (by omega)
  have := hrule.value_le
  have := hok.valueTableOffset_le
  exact ⟨hrule.valueSize_pos, by omega⟩

theorem extractUint64_congr {m m' : ByteMem} {policySize : Nat} (hok : PolicyAccepted m policySize)
    (h : AgreeBelow m m' (policySize + 2)) (mfciPolicyName : List UInt16) :
    extractUint64 m' mfciPolicyName = extractUint64 m mfciPolicyName := by
  rw [extractUint64, extractUint64, findRule_congr hok h]
  rcases hfind : findRule m mfciPolicyName with _ | value
  · rfl
  · obtain ⟨hpos, hfit⟩ := findRule_value_le hok hfind
    dsimp only
    have htype : m'.loadLe value 2 = m.loadLe value 2 := by
      refine (h.loadLe_eq ?_).symm
      unfold calculateSizeOfValueTableEntry at hpos hfit
      split_ifs at hpos hfit <;> omega
    rw [htype]
    by_cases hqword : m.loadLe value 2 = policyValueTypeQword
    · -- a `QWORD` entry is ten bytes long, so its value lies in the policy
      have hsize : calculateSizeOfValueTableEntry m value = 10 := by
        rw [calculateSizeOfValueTableEntry, if_neg (by rw [hqword]; decide), if_pos hqword]
      rw [if_neg (not_not.mpr hqword), if_neg (not_not.mpr hqword),
        (h.loadLe_eq (by omega) : m.loadLe (value + 2) 8 = m'.loadLe (value + 2) 8)]
    · rw [if_pos hqword, if_pos hqword]

theorem extractChar16_congr {m m' : ByteMem} {policySize : Nat} (hok : PolicyAccepted m policySize)
    (h : AgreeBelow m m' (policySize + 2)) (allocatePool : Nat → Bool)
    (mfciPolicyName : List UInt16) :
    extractChar16 allocatePool m' mfciPolicyName = extractChar16 allocatePool m mfciPolicyName := by
  rw [extractChar16, extractChar16, findRule_congr hok h]
  rcases hfind : findRule m mfciPolicyName with _ | value
  · rfl
  · obtain ⟨hpos, hfit⟩ := findRule_value_le hok hfind
    dsimp only
    have htype : m'.loadLe value 2 = m.loadLe value 2 := by
      refine (h.loadLe_eq ?_).symm
      unfold calculateSizeOfValueTableEntry at hpos hfit
      split_ifs at hpos hfit <;> omega
    rw [htype]
    by_cases hstring : m.loadLe value 2 = policyValueTypeString
    · -- a string entry holds its length and characters
      have hsize : calculateSizeOfValueTableEntry m value = 4 + m.loadLe (value + 2) 2 + 2 := by
        rw [calculateSizeOfValueTableEntry, if_pos hstring]
      have hlength : m'.loadLe (value + 2) 2 = m.loadLe (value + 2) 2 :=
        (h.loadLe_eq (by omega)).symm
      rw [if_neg (not_not.mpr hstring), if_neg (not_not.mpr hstring), hlength,
        h.symm.read_eq (by omega)]
    · rw [if_pos hstring, if_pos hstring]

end Reads

/-- `ExtractChar16` succeeds exactly when `FindRule` finds a string value whose bytes hold no
`L'\0'` and a whole number of characters, and the copy can be allocated; it returns those
characters. -/
theorem extractChar16_eq_success_iff {allocatePool : Nat → Bool} {m : ByteMem}
    {mfciPolicyName targetString : List UInt16} :
    extractChar16 allocatePool m mfciPolicyName = (.success, targetString) ↔
      ∃ value, findRule m mfciPolicyName = some value ∧
        m.loadLe value 2 = policyValueTypeString ∧
        allocatePool (m.loadLe (value + 2) 2 + 2) = true ∧
        targetString = char16s (m.read (value + 4) (m.loadLe (value + 2) 2)) ∧
        0 ∉ targetString ∧ m.loadLe (value + 2) 2 % 2 = 0 := by
  rw [extractChar16]
  rcases findRule m mfciPolicyName with _ | value
  · simp
  · have hsize := strSize_char16s_eq_iff (m.read (value + 4) (m.loadLe (value + 2) 2))
    rw [length_read] at hsize
    dsimp only
    split_ifs with htype halloc hstrSize
    · simp [htype]
    · have hfailed : allocatePool (m.loadLe (value + 2) 2 + 2) = false := by simpa using halloc
      simp [hfailed]
    · simp only [Prod.mk.injEq, reduceCtorEq, false_and, false_iff, not_exists, not_and,
        Option.some.injEq]
      rintro _ rfl - - rfl hnull heven
      exact hstrSize (hsize.mpr ⟨hnull, heven⟩)
    · have hok := hsize.mp (not_not.mp hstrSize)
      have hallocated : allocatePool (m.loadLe (value + 2) 2 + 2) = true := by simpa using halloc
      simp only [Prod.mk.injEq, true_and, Option.some.injEq]
      constructor
      · rintro rfl
        exact ⟨value, rfl, not_not.mp htype, hallocated, rfl, hok.1, hok.2⟩
      · rintro ⟨_, rfl, -, -, rfl, -⟩
        rfl

/-! ### The library -/

/-- `SanityCheckSignedPolicy` does not depend on the heap the content is copied into. -/
theorem sanityCheckSignedPolicy_congr (getAttachedContent : List UInt8 → Option (List UInt8))
    (heap heap' : ByteMem) (signedPolicy : List UInt8) :
    sanityCheckSignedPolicy getAttachedContent heap' signedPolicy =
      sanityCheckSignedPolicy getAttachedContent heap signedPolicy := by
  unfold sanityCheckSignedPolicy
  split_ifs
  · rfl
  · cases getAttachedContent signedPolicy with
    | none => rfl
    | some policy =>
      exact sanityCheckPolicy_congr (agreeBelow_write_zero policy fun _ hle hlt => absurd hlt (by omega))

/-- A signed policy `SanityCheckSignedPolicy` accepts has an attached policy that
`SanityCheckPolicy` accepts in every heap. -/
theorem sanityCheckSignedPolicy_eq_success {getAttachedContent : List UInt8 → Option (List UInt8)}
    {heap₀ : ByteMem} {signedPolicy : List UInt8}
    (hvalid : sanityCheckSignedPolicy getAttachedContent heap₀ signedPolicy = .success)
    (heap : ByteMem) :
    signedPolicy ≠ [] ∧ ∃ policy, getAttachedContent signedPolicy = some policy ∧
      PolicyAccepted (heap.write 0 policy) policy.length := by
  rw [← sanityCheckSignedPolicy_congr getAttachedContent heap₀ heap] at hvalid
  unfold sanityCheckSignedPolicy at hvalid
  split_ifs at hvalid with hempty
  refine ⟨hempty, ?_⟩
  rcases hcontent : getAttachedContent signedPolicy with _ | policy
  · rw [hcontent] at hvalid
    cases hvalid
  · rw [hcontent] at hvalid
    exact ⟨policy, rfl, sanityCheckPolicy_eq_success_iff.mp hvalid⟩

/-- Once `SanityCheckSignedPolicy` has accepted a signed policy, every field the library extracts
from it depends on the policy and on the two heap bytes after its copy, and on no other byte of
the heap. -/
theorem mfciPolicyParsingLib_congr {getAttachedContent : List UInt8 → Option (List UInt8)}
    {heap₀ heap heap' : ByteMem} {signedPolicy : List UInt8}
    (hvalid : sanityCheckSignedPolicy getAttachedContent heap₀ signedPolicy = .success)
    (hafter : ∀ policy, getAttachedContent signedPolicy = some policy →
      heap policy.length = heap' policy.length ∧ heap (policy.length + 1) = heap' (policy.length + 1))
    (allocatePool : Nat → Bool) (field : MfciPolicyField) :
    (mfciPolicyParsingLib getAttachedContent heap' allocatePool).extractChar16 signedPolicy field =
        (mfciPolicyParsingLib getAttachedContent heap allocatePool).extractChar16 signedPolicy field ∧
      (mfciPolicyParsingLib getAttachedContent heap' allocatePool).extractUint64 signedPolicy field =
        (mfciPolicyParsingLib getAttachedContent heap allocatePool).extractUint64 signedPolicy field := by
  obtain ⟨hempty, policy, hcontent, hok⟩ := sanityCheckSignedPolicy_eq_success hvalid heap
  -- the two copies agree up to two bytes past the policy
  have hagree : AgreeBelow (heap.write 0 policy) (heap'.write 0 policy) (policy.length + 2) := by
    refine agreeBelow_write_zero policy fun a hle hlt => ?_
    obtain ⟨h₀, h₁⟩ := hafter policy hcontent
    rcases (by omega : a = policy.length ∨ a = policy.length + 1) with rfl | rfl
    · exact h₀
    · exact h₁
  simp only [mfciPolicyParsingLib, if_neg hempty, hcontent]
  exact ⟨extractChar16_congr hok hagree allocatePool _, extractUint64_congr hok hagree _⟩

theorem mfciPolicyParsingLib_congr_targetingPolicy :
    (mfciPolicyParsingLib (fun _ => some targetingPolicy) (ByteMem.write (fun _ => 0) 148 [1])
        fun _ => true).extractChar16 [1] (.target .manufacturer) =
      (mfciPolicyParsingLib (fun _ => some targetingPolicy) (fun _ => 0)
        fun _ => true).extractChar16 [1] (.target .manufacturer) ∧
    (mfciPolicyParsingLib (fun _ => some targetingPolicy) (ByteMem.write (fun _ => 0) 148 [1])
        fun _ => true).extractUint64 [1] (.target .manufacturer) =
      (mfciPolicyParsingLib (fun _ => some targetingPolicy) (fun _ => 0)
        fun _ => true).extractUint64 [1] (.target .manufacturer) :=
  @mfciPolicyParsingLib_congr _ (fun _ => 0) _ _ _ (by decide +kernel)
    (fun _ hcontent => by cases hcontent; decide +kernel) _ _

/-- The two bytes after the policy can decide an answer: `SanityCheckSignedPolicy` accepts the
policy cut two bytes short, its sub-key name `Target` now ending past it, and `ExtractUint64`
of `Target\Nonce` finds the rule only when the heap supplies the missing `L't'`. -/
theorem extractUint64_reads_past_policy :
    sanityCheckSignedPolicy (fun _ => some (targetingPolicy.take 144)) (fun _ => 0) [1] =
        .success ∧
      (mfciPolicyParsingLib (fun _ => some (targetingPolicy.take 144)) (fun _ => 0)
        fun _ => true).extractUint64 [1] .targetNonce = (.notFound, 0) ∧
      (mfciPolicyParsingLib (fun _ => some (targetingPolicy.take 144))
        (ByteMem.write (fun _ => 0) 144 [0x74, 0]) fun _ => true).extractUint64 [1] .targetNonce =
        (.success, 42) :=
  ⟨by decide +kernel, by decide +kernel, by decide +kernel⟩

end MuPlus.Mfci
