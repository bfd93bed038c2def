import MuPlus.Uefi.SafeString

/-!
# MuPlus.Xml.Escape

**XML escaping in `XmlTreeLib`** (`XmlSupportPkg/Library/XmlTreeLib/XmlTreeLib.c`). `XmlEscape`
writes `&lt;`, `&gt;`, `&quot;`, `&apos;` and `&amp;` for `<`, `>`, `"`, `'` and `&`, into a
buffer whose size `_GetXmlEscapedLength` works out first; `XmlUnEscape` reads the five entities
back, trying them in that order with `AsciiStrnCmp`, into a buffer of the size
`_GetXmlUnEscapedLength` works out. Both passes check that they filled their buffer exactly.

A string is its characters before the NUL. The length pre-passes return 0 for a string longer
than the maximum they are given, which both callers read as an error; so does an empty string.

* `xmlEscape_eq`: on a string of 1 to `MaxStringLength` characters, `XmlEscape` returns the
  string with each character replaced by its escape (`xmlEscapeString`), whose length is what
  `_GetXmlEscapedLength` counted;
* `xmlUnEscape_xmlEscapeString`: `XmlUnEscape` reads every such escape back to the string.
-/

namespace MuPlus.Xml

/-! ## The escape -/

/-- The escape of a character: its entity for `<`, `>`, `"`, `'` and `&`, and the character
itself for any other. -/
def escapeChar (c : UInt8) : List UInt8 :=
  -- `&lt;`
  if c = 0x3C then [0x26, 0x6C, 0x74, 0x3B]
  -- `&gt;`
  else if c = 0x3E then [0x26, 0x67, 0x74, 0x3B]
  -- `&quot;`
  else if c = 0x22 then [0x26, 0x71, 0x75, 0x6F, 0x74, 0x3B]
  -- `&apos;`
  else if c = 0x27 then [0x26, 0x61, 0x70, 0x6F, 0x73, 0x3B]
  -- `&amp;`
  else if c = 0x26 then [0x26, 0x61, 0x6D, 0x70, 0x3B]
  else [c]

/-- The escape of a string, character by character. -/
def xmlEscapeString (s : List UInt8) : List UInt8 :=
  s.flatMap escapeChar

/-! ## `XmlEscape` -/

/-- What `_GetXmlEscapedLength` adds for a character: the length of its escape sequence less
the character's own. -/
def escapedExtra (c : UInt8) : Nat :=
  if c = 0x3C ∨ c = 0x3E then 3
  else if c = 0x22 ∨ c = 0x27 then 5
  else if c = 0x26 then 4
  else 0

/-- `_GetXmlEscapedLength (String, MaxStringLength)`: the length of the escaped string, 0 for a
string longer than `MaxStringLength`. -/
def getXmlEscapedLength (s : List UInt8) (maxStringLength : Nat) : Nat :=
  let len := asciiStrnLenS s (maxStringLength + 1)
  if maxStringLength < len then 0
  else s.foldl (fun len c => len + escapedExtra c) len

/-- A case of the `switch` in `XmlEscape`: the sequence it writes, and whether its guard, on
finding no room for the sequence, sets `j` one past `EscapedLength` (the `>`, `"` and `&`
cases) rather than to it; `none` for a character the `default` case copies. -/
def xmlEscapeCase (c : UInt8) : Option (List UInt8 × Bool) :=
  if c = 0x3C then some ([0x26, 0x6C, 0x74, 0x3B], false)
  else if c = 0x3E then some ([0x26, 0x67, 0x74, 0x3B], true)
  else if c = 0x22 then some ([0x26, 0x71, 0x75, 0x6F, 0x74, 0x3B], true)
  else if c = 0x27 then some ([0x26, 0x61, 0x70, 0x6F, 0x73, 0x3B], false)
  else if c = 0x26 then some ([0x26, 0x61, 0x6D, 0x70, 0x3B], true)
  else none

/-- The `while` loop of `XmlEscape` over the characters from `String[i]`, with `j` and `EString`
so far. It returns the characters it did not reach, `j` and `EString`. -/
def xmlEscapeLoop (escapedLength : Nat) :
    List UInt8 → Nat → List UInt8 → List UInt8 × Nat × List UInt8
  | [], j, eString => ([], j, eString)
  | c :: cs, j, eString =>
      if escapedLength ≤ j then (c :: cs, j, eString)
      else
        match xmlEscapeCase c with
        | some (sequence, past) =>
            -- the guard ends the loop without writing
            if escapedLength < j + sequence.length then
              (cs, if past then escapedLength + 1 else escapedLength, eString)
            else xmlEscapeLoop escapedLength cs (j + sequence.length) (eString ++ sequence)
        | none => xmlEscapeLoop escapedLength cs (j + 1) (eString ++ [c])

/-- `XmlEscape (String, MaxStringLength, &EscapedString)`, where `AllocateZeroPool` of a size
succeeds as `allocatePool` says. -/
def xmlEscape (allocatePool : Nat → Bool) (s : List UInt8) (maxStringLength : Nat) :
    Except EfiStatus (List UInt8) :=
  let escapedLength := getXmlEscapedLength s maxStringLength
  if escapedLength = 0 then .error .invalidParameter
  else if allocatePool (escapedLength + 1) = false then .error .outOfResources
  else
    let r := xmlEscapeLoop escapedLength s 0 []
    -- `(j != EscapedLength) || (String[i] != '\0')`
    if r.2.1 ≠ escapedLength ∨ r.1 ≠ [] then .error .deviceError
    else .ok r.2.2

/-! ## The escape pass -/

theorem length_escapeChar (c : UInt8) : (escapeChar c).length = escapedExtra c + 1 := by
  unfold escapeChar escapedExtra
  split_ifs <;> simp_all

theorem length_xmlEscapeString_cons (c : UInt8) (s : List UInt8) :
    (xmlEscapeString (c :: s)).length = escapedExtra c + 1 + (xmlEscapeString s).length := by
  rw [xmlEscapeString, List.flatMap_cons, List.length_append, length_escapeChar]
  rfl

theorem le_length_xmlEscapeString (s : List UInt8) : s.length ≤ (xmlEscapeString s).length := by
  induction s with
  | nil => exact Nat.le_refl 0
  | cons c s ih =>
      rw [length_xmlEscapeString_cons, List.length_cons]
      omega

/-- The sequences of the `switch` are the escapes. -/
theorem escapeChar_of_xmlEscapeCase {c : UInt8} {sequence : List UInt8} {past : Bool}
    (h : xmlEscapeCase c = some (sequence, past)) : escapeChar c = sequence := by
  unfold xmlEscapeCase at h
  unfold escapeChar
  split_ifs at h ⊢ <;> simp_all

theorem escapeChar_of_xmlEscapeCase_none {c : UInt8} (h : xmlEscapeCase c = none) :
    escapeChar c = [c] := by
  unfold xmlEscapeCase at h
  unfold escapeChar
  -- every case of the `switch` but the `default` one contradicts `h`
  split_ifs at h ⊢
  rfl

/-- The count of `_GetXmlEscapedLength`, from the length of the string, is the escape's length. -/
theorem foldl_escapedExtra (s : List UInt8) (n : Nat) :
    s.foldl (fun len c => len + escapedExtra c) (n + s.length) = n + (xmlEscapeString s).length := by
  induction s generalizing n with
  | nil => rfl
  | cons c s ih =>
      rw [List.foldl_cons, length_xmlEscapeString_cons, List.length_cons,
        show n + (s.length + 1) + escapedExtra c = (n + 1 + escapedExtra c) + s.length by omega, ih]
      omega

/-- **`_GetXmlEscapedLength`** of a string within its maximum is the length of its escape. -/
theorem getXmlEscapedLength_of_le {s : List UInt8} {maxStringLength : Nat}
    (h : s.length ≤ maxStringLength) :
    getXmlEscapedLength s maxStringLength = (xmlEscapeString s).length := by
  have hlen : asciiStrnLenS s (maxStringLength + 1) = s.length := by
    unfold asciiStrnLenS
    omega
  have hfold := foldl_escapedExtra s 0
  rw [Nat.zero_add, Nat.zero_add] at hfold
  simp only [getXmlEscapedLength, hlen, show ¬ maxStringLength < s.length by omega, ↓reduceIte,
    hfold]

/-- The loop of `XmlEscape` with room for exactly the escape of what is left writes it. -/
theorem xmlEscapeLoop_xmlEscapeString {escapedLength : Nat} :
    ∀ (s : List UInt8) (j : Nat) (eString : List UInt8),
      j + (xmlEscapeString s).length = escapedLength →
        xmlEscapeLoop escapedLength s j eString = ([], escapedLength, eString ++ xmlEscapeString s) := by
  intro s
  induction s with
  | nil =>
      intro j eString h
      simp only [xmlEscapeString, List.flatMap_nil, List.length_nil, Nat.add_zero] at h
      simp [xmlEscapeLoop, h, xmlEscapeString]
  | cons c s ih =>
      intro j eString h
      rw [length_xmlEscapeString_cons] at h
      have hj : ¬ escapedLength ≤ j := by omega
      have hsplit : xmlEscapeString (c :: s) = escapeChar c ++ xmlEscapeString s := List.flatMap_cons
      rw [xmlEscapeLoop, if_neg hj, hsplit, ← List.append_assoc]
      cases hcase : xmlEscapeCase c with
      | none =>
          -- the `default` case copies the character
          rw [escapeChar_of_xmlEscapeCase_none hcase]
          have hextra : escapedExtra c = 0 := by
            have := length_escapeChar c
            rw [escapeChar_of_xmlEscapeCase_none hcase, List.length_singleton] at this
            omega
          exact ih (j + 1) _ (by omega)
      | some r =>
          obtain ⟨sequence, past⟩ := r
          have hseq := escapeChar_of_xmlEscapeCase hcase
          have hlen : sequence.length = escapedExtra c + 1 := hseq ▸ length_escapeChar c
          -- the guard finds room: the pre-pass counted this sequence
          have hroom : ¬ escapedLength < j + sequence.length := by omega
          simp only [if_neg hroom]
          rw [hseq]
          exact ih _ _ (by omega)

/-- **`XmlEscape`** of a string of 1 to `MaxStringLength` characters returns its escape. -/
theorem xmlEscape_eq {allocatePool : Nat → Bool} {s : List UInt8} {maxStringLength : Nat}
    (hs : 1 ≤ s.length) (hmax : s.length ≤ maxStringLength)
    (halloc : allocatePool ((xmlEscapeString s).length + 1) = true) :
    xmlEscape allocatePool s maxStringLength = .ok (xmlEscapeString s) := by
  have hpos : (xmlEscapeString s).length ≠ 0 := by
    have := le_length_xmlEscapeString s
    omega
  simp only [xmlEscape, getXmlEscapedLength_of_le hmax, hpos, halloc, ↓reduceIte,
    xmlEscapeLoop_xmlEscapeString s 0 [] (Nat.zero_add _), List.nil_append]
  simp

/-- An empty string has no escaped length, which `XmlEscape` takes for an error. -/
theorem xmlEscape_nil (allocatePool : Nat → Bool) (maxStringLength : Nat) :
    xmlEscape allocatePool [] maxStringLength = .error .invalidParameter := by
  simp [xmlEscape, getXmlEscapedLength, asciiStrnLenS]

/-! ## `XmlUnEscape` -/

/-- `AsciiStrnCmp (FirstString, SecondString, Length)`: the difference of the first characters
at which the strings part within `Length` characters, or of the last compared; the end of a
string reads as its NUL. -/
def asciiStrnCmp : List UInt8 → List UInt8 → Nat → Int
  | _, _, 0 => 0
  | a :: as, b :: bs, length + 2 =>
      if a = b then asciiStrnCmp as bs (length + 1) else (a.toNat : Int) - b.toNat
  | first, second, _ => ((first.headD 0).toNat : Int) - (second.headD 0).toNat

/-- The entities `XmlUnEscape` and `_GetXmlUnEscapedLength` look for after an `&`, without it,
in the order they try them, each with the character it stands for. -/
def xmlEntities : List (List UInt8 × UInt8) :=
  [([0x6C, 0x74, 0x3B], 0x3C), ([0x67, 0x74, 0x3B], 0x3E),
    ([0x71, 0x75, 0x6F, 0x74, 0x3B], 0x22), ([0x61, 0x70, 0x6F, 0x73, 0x3B], 0x27),
    ([0x61, 0x6D, 0x70, 0x3B], 0x26)]

/-- The first entity whose `AsciiStrnCmp` with the characters after an `&` is 0. -/
def matchEntity (cs : List UInt8) : Option (List UInt8 × UInt8) :=
  xmlEntities.find? fun e => asciiStrnCmp cs e.1 e.1.length = 0

/-- The `while` loop of `_GetXmlUnEscapedLength` from `String[i]`, with `Len` so far: each entity
takes its length off. -/
def getXmlUnEscapedLengthLoop : List UInt8 → Nat → Nat
  | [], len => len
  | c :: cs, len =>
      if c = 0x26 then
        match matchEntity cs with
        | some e => getXmlUnEscapedLengthLoop (cs.drop e.1.length) (len - e.1.length)
        | none => getXmlUnEscapedLengthLoop cs len
      else getXmlUnEscapedLengthLoop cs len
termination_by s => s.length
decreasing_by all_goals simp only [List.length_drop, List.length_cons]; omega

/-- `_GetXmlUnEscapedLength (String, MaxStringLength)`: the length of the unescaped string, 0
for a string longer than `MaxStringLength`. -/
def getXmlUnEscapedLength (s : List UInt8) (maxStringLength : Nat) : Nat :=
  let len := asciiStrnLenS s (maxStringLength + 1)
  if maxStringLength < len then 0
  else getXmlUnEscapedLengthLoop s len

/-- The `while` loop of `XmlUnEscape` from `EscapedString[i]`, with `j` and `RawString` so far. It
returns the characters it did not reach, `j` and `RawString`. -/
def xmlUnEscapeLoop (length : Nat) : List UInt8 → Nat → List UInt8 → List UInt8 × Nat × List UInt8
  | [], j, rawString => ([], j, rawString)
  | c :: cs, j, rawString =>
      if length ≤ j then (c :: cs, j, rawString)
      else if c = 0x26 then
        match matchEntity cs with
        | some e => xmlUnEscapeLoop length (cs.drop e.1.length) (j + 1) (rawString ++ [e.2])
        -- an `&` that starts no entity is copied
        | none => xmlUnEscapeLoop length cs (j + 1) (rawString ++ [c])
      else xmlUnEscapeLoop length cs (j + 1) (rawString ++ [c])
termination_by s => s.length
decreasing_by all_goals simp only [List.length_drop, List.length_cons]; omega

/-- `XmlUnEscape (EscapedString, MaxEscapedStringLength, &String)`. -/
def xmlUnEscape (allocatePool : Nat → Bool) (escapedString : List UInt8)
    (maxEscapedStringLength : Nat) : Except EfiStatus (List UInt8) :=
  let length := getXmlUnEscapedLength escapedString maxEscapedStringLength
  if length = 0 then .error .invalidParameter
  else if allocatePool (length + 1) = false then .error .outOfResources
  else
    let r := xmlUnEscapeLoop length escapedString 0 []
    if r.2.1 ≠ length ∨ r.1 ≠ [] then .error .deviceError
    else .ok r.2.2

/-! ## The unescape pass -/

/-- A string compares equal to every prefix of itself that fits the count. -/
theorem asciiStrnCmp_append_self : ∀ (x rest : List UInt8), x ≠ [] →
    asciiStrnCmp (x ++ rest) x x.length = 0
  | [a], rest, _ => by simp [asciiStrnCmp]
  | a :: b :: xs, rest, _ => by
      rw [List.cons_append, List.length_cons, List.length_cons, asciiStrnCmp, if_pos rfl]
      exact asciiStrnCmp_append_self (b :: xs) rest (List.cons_ne_nil b xs)

/-- Each entity, whatever follows it, is the first `XmlUnEscape` finds. -/
theorem matchEntity_of_mem {e : List UInt8 × UInt8} (he : e ∈ xmlEntities) (rest : List UInt8) :
    matchEntity (e.1 ++ rest) = some e := by
  simp only [xmlEntities, List.mem_cons, List.mem_nil_iff, or_false] at he
  -- the entities before it part from it within their own length
  rcases he with rfl | rfl | rfl | rfl | rfl <;> rfl

/-- **How a character's escape reads back**: a character other than `&` that is its own escape,
or an `&` and an entity that `XmlUnEscape` finds and that stands for the character. -/
theorem escapeChar_cases (c : UInt8) :
    (escapeChar c = [c] ∧ c ≠ 0x26) ∨
      ∃ e ∈ xmlEntities, escapeChar c = 0x26 :: e.1 ∧ e.2 = c := by
  unfold escapeChar
  split_ifs with h₁ h₂ h₃ h₄ h₅
  · exact .inr ⟨([0x6C, 0x74, 0x3B], 0x3C), by simp [xmlEntities], rfl, h₁.symm⟩
  · exact .inr ⟨([0x67, 0x74, 0x3B], 0x3E), by simp [xmlEntities], rfl, h₂.symm⟩
  · exact .inr ⟨([0x71, 0x75, 0x6F, 0x74, 0x3B], 0x22), by simp [xmlEntities], rfl, h₃.symm⟩
  · exact .inr ⟨([0x61, 0x70, 0x6F, 0x73, 0x3B], 0x27), by simp [xmlEntities], rfl, h₄.symm⟩
  · exact .inr ⟨([0x61, 0x6D, 0x70, 0x3B], 0x26), by simp [xmlEntities], rfl, h₅.symm⟩
  · exact .inl ⟨rfl, h₅⟩

theorem length_escapeChar_of_mem {c : UInt8} {e : List UInt8 × UInt8}
    (h : escapeChar c = 0x26 :: e.1) : (escapeChar c).length = e.1.length + 1 := by
  rw [h, List.length_cons]

/-- The count of `_GetXmlUnEscapedLength` over an escape, from its length, is the length of the
string escaped. -/
theorem getXmlUnEscapedLengthLoop_xmlEscapeString (s : List UInt8) (n : Nat) :
    getXmlUnEscapedLengthLoop (xmlEscapeString s) (n + (xmlEscapeString s).length) = n + s.length := by
  induction s generalizing n with
  | nil => simp [xmlEscapeString, getXmlUnEscapedLengthLoop]
  | cons c s ih =>
      have hsplit : xmlEscapeString (c :: s) = escapeChar c ++ xmlEscapeString s := List.flatMap_cons
      rw [hsplit, List.length_append, List.length_cons]
      rcases escapeChar_cases c with ⟨hc, hamp⟩ | ⟨e, he, hc, -⟩
      · rw [hc, List.singleton_append, getXmlUnEscapedLengthLoop, if_neg hamp, List.length_singleton,
          show n + (1 + (xmlEscapeString s).length) = n + 1 + (xmlEscapeString s).length by omega, ih]
        omega
      · -- the entity's characters come off the count with it
        rw [hc, List.cons_append, getXmlUnEscapedLengthLoop, if_pos rfl, matchEntity_of_mem he]
        dsimp only
        rw [List.drop_left, List.length_cons,
          show n + (e.1.length + 1 + (xmlEscapeString s).length) - e.1.length =
            n + 1 + (xmlEscapeString s).length by omega, ih]
        omega

/-- **`_GetXmlUnEscapedLength`** of an escape within its maximum is the length of the string
escaped. -/
theorem getXmlUnEscapedLength_xmlEscapeString {s : List UInt8} {maxStringLength : Nat}
    (h : (xmlEscapeString s).length ≤ maxStringLength) :
    getXmlUnEscapedLength (xmlEscapeString s) maxStringLength = s.length := by
  have hlen : asciiStrnLenS (xmlEscapeString s) (maxStringLength + 1) = (xmlEscapeString s).length := by
    unfold asciiStrnLenS
    omega
  have hloop := getXmlUnEscapedLengthLoop_xmlEscapeString s 0
  rw [Nat.zero_add, Nat.zero_add] at hloop
  simp only [getXmlUnEscapedLength, hlen, show ¬ maxStringLength < (xmlEscapeString s).length by omega,
    ↓reduceIte, hloop]

/-- The loop of `XmlUnEscape` over an escape, with room for exactly the string escaped, writes
it. -/
theorem xmlUnEscapeLoop_xmlEscapeString {length : Nat} :
    ∀ (s : List UInt8) (j : Nat) (rawString : List UInt8), j + s.length = length →
      xmlUnEscapeLoop length (xmlEscapeString s) j rawString = ([], length, rawString ++ s) := by
  intro s
  induction s with
  | nil =>
      intro j rawString h
      simp only [List.length_nil, Nat.add_zero] at h
      simp [xmlEscapeString, xmlUnEscapeLoop, h]
  | cons c s ih =>
      intro j rawString h
      rw [List.length_cons] at h
      have hj : ¬ length ≤ j := by omega
      have hsplit : xmlEscapeString (c :: s) = escapeChar c ++ xmlEscapeString s := List.flatMap_cons
      rw [hsplit]
      rcases escapeChar_cases c with ⟨hc, hamp⟩ | ⟨e, he, hc, hec⟩
      · rw [hc, List.singleton_append, xmlUnEscapeLoop, if_neg hj, if_neg hamp, ih (j + 1) _ (by omega),
          List.append_assoc, List.singleton_append]
      · -- the entity reads back to the character
        rw [hc, List.cons_append, xmlUnEscapeLoop, if_neg hj, if_pos rfl, matchEntity_of_mem he]
        dsimp only
        rw [List.drop_left, hec, ih (j + 1) _ (by omega), List.append_assoc, List.singleton_append]

/-- **`XmlUnEscape` reads an escape back** to the string escaped, given a maximum the escape
fits. -/
theorem xmlUnEscape_xmlEscapeString {allocatePool : Nat → Bool} {s : List UInt8}
    {maxEscapedStringLength : Nat} (hs : 1 ≤ s.length)
    (hmax : (xmlEscapeString s).length ≤ maxEscapedStringLength)
    (halloc : allocatePool (s.length + 1) = true) :
    xmlUnEscape allocatePool (xmlEscapeString s) maxEscapedStringLength = .ok s := by
  simp only [xmlUnEscape, getXmlUnEscapedLength_xmlEscapeString hmax,
    show s.length ≠ 0 by omega, halloc, ↓reduceIte,
    xmlUnEscapeLoop_xmlEscapeString s 0 [] (Nat.zero_add _), List.nil_append]
  simp


end MuPlus.Xml
