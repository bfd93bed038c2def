import MuPlus.Uefi.SafeString
import MuPlus.Lib.ExceptOk

/-!
# MuPlus.Json.LiteParser

**The limited JSON encoder and parser of the DFCI requests**
(`MsCorePkg/Library/JsonLiteParser/JsonLiteParser.c`).

A request is an array of name/value pairs (`JSON_REQUEST_ELEMENT`): each name and each value
is a run of characters given by a pointer and a length, and a value may be `NULL`, the JSON
`null`. `JsonLibEncode` sizes one buffer for the whole object, `{"name":"value",...}` with
`null` for a `NULL` value, and fills it with bounded string concatenation, or-ing the status of
every call into one. `JsonLibParse` walks such a string and hands each pair whose value is not
`null` to a process function, which may keep a context of its own.

A string is modelled by its characters before the NUL: the end of a list stands for the NUL
that every loop of the parser stops at. `rsizeMax` is BaseLib's `ASCII_RSIZE_MAX`.
-/

namespace MuPlus.Json

/-! ### Characters -/

/-- `"`. -/
def quote : UInt8 := 0x22

/-- `{`. -/
def openBrace : UInt8 := 0x7B

/-- `}`. -/
def closeBrace : UInt8 := 0x7D

/-- `:`. -/
def colon : UInt8 := 0x3A

/-- `,`. -/
def comma : UInt8 := 0x2C

/-- `JSON_NULL`: the characters of `null`. -/
def jsonNull : List UInt8 :=
  [0x6E, 0x75, 0x6C, 0x6C]

/-- The blanks `SKIP_WHITE_SPACE` skips: space, tab, `\n` and `\r`. -/
def isWhiteSpace (c : UInt8) : Bool :=
  c == 0x20 || c == 0x09 || c == 0x0A || c == 0x0D

/-- A decimal digit. -/
def isDigit (c : UInt8) : Bool :=
  0x30 ≤ c && c ≤ 0x39

/-- A `JSON_REQUEST_ELEMENT`: the `FieldLen` characters at `FieldName`, and the `ValueLen`
characters at `Value`, none for a `NULL` value. -/
structure JsonRequestElement where
  fieldName : List UInt8
  value : Option (List UInt8)
  deriving DecidableEq, Repr

/-! ### `JsonLibEncode` -/

/-- `LocalAsciiStrCatS (Dest, DestMax, Src, Count)` with the `Count` characters at `Src`: like
`AsciiStrCatS`, but a NUL in the source ends the copy with `EFI_INVALID_PARAMETER`. -/
def localAsciiStrCatS (dest : List UInt8) (destMax : Nat) (src : List UInt8) :
    EfiStatus × List UInt8 :=
  -- the room the string already in the buffer leaves
  let room := destMax - min dest.length destMax
  if room < src.length then (.bufferTooSmall, dest)
  else if 0 ∈ src then (.invalidParameter, dest ++ src.takeWhile (· ≠ 0))
  else (.success, dest ++ src)

/-- The buffer size `JsonLibEncode` computes: the braces, and for each element three quotes,
the `:`, a `,` or the NUL, its name, and its value with two more quotes, or `null`. -/
def jsonRequestSize (request : List JsonRequestElement) : Nat :=
  request.foldl
    (fun size e => size + e.fieldName.length +
      match e.value with
      | some value => 2 + value.length
      | none => jsonNull.length)
    (2 + 4 * request.length)

section Encode

variable (rsizeMax : Nat)

/-- One `Status |= ...` call of `JsonLibEncode` on the request buffer. -/
def catInto (cat : List UInt8 → EfiStatus × List UInt8) (st : UInt64 × List UInt8) :
    UInt64 × List UInt8 :=
  match cat st.2 with
  | (status, buffer) => (st.1 ||| status.toUInt64, buffer)

/-- One turn of the loop of `JsonLibEncode`: the status, the buffer and `RequestSize` after
it. -/
def encodeRequestElement (first : Bool) (e : JsonRequestElement) (status : UInt64)
    (buffer : List UInt8) (requestSize : Nat) : UInt64 × List UInt8 × Nat :=
  let st := (status, buffer)
  let st := if first then st else catInto (asciiStrCatS rsizeMax · requestSize [comma]) st
  let st := catInto (asciiStrCatS rsizeMax · requestSize [quote]) st
  let st := catInto (localAsciiStrCatS · requestSize e.fieldName) st
  let st := catInto (asciiStrCatS rsizeMax · requestSize [quote, colon]) st
  match e.value with
  | some value =>
      let st := catInto (asciiStrCatS rsizeMax · requestSize [quote]) st
      let st := catInto (localAsciiStrCatS · requestSize value) st
      let st := catInto (asciiStrCatS rsizeMax · requestSize [quote]) st
      (st.1, st.2, requestSize)
  | none =>
      let st := catInto (asciiStrCatS rsizeMax · requestSize jsonNull) st
      -- `RequestSize` is lowered by two for a `null`
      (st.1, st.2, requestSize - 2)

/-- The loop of `JsonLibEncode`, which stops after the first turn that leaves an error. -/
def encodeRequestElements :
    Bool → List JsonRequestElement → UInt64 → List UInt8 → Nat →
      UInt64 × List UInt8 × Nat
  | _, [], status, buffer, requestSize => (status, buffer, requestSize)
  | first, e :: rest, status, buffer, requestSize =>
      match encodeRequestElement rsizeMax first e status buffer requestSize with
      | (status, buffer, requestSize) =>
          if efiError status then (status, buffer, requestSize)
          else encodeRequestElements false rest status buffer requestSize

/-- `JsonLibEncode`: the string and `JsonStringSize`, or the or-ed status of the failed calls.
The buffer starts as `{`, and the closing brace is appended after the loop. -/
def jsonLibEncode (request : List JsonRequestElement) : Except UInt64 (List UInt8 × Nat) :=
  if request = [] then .error EfiStatus.invalidParameter.toUInt64
  else
    match encodeRequestElements rsizeMax true request 0 [openBrace] (jsonRequestSize request) with
    | (status, buffer, requestSize) =>
        match catInto (asciiStrCatS rsizeMax · requestSize [closeBrace]) (status, buffer) with
        | (status, buffer) => if efiError status then .error status else .ok (buffer, requestSize)

end Encode

/-! ### `JsonLibParse` -/

/-- `SKIP_WHITE_SPACE`. -/
def skipWhiteSpace (s : List UInt8) : List UInt8 :=
  s.dropWhile isWhiteSpace

/-- `SKIP_TO_NEXT_QUOTE`: the characters before the next quote, and the rest from it. -/
def skipToNextQuote (s : List UInt8) : List UInt8 × List UInt8 :=
  s.span (· != quote)

/-- The value after the `:`: a quoted string, the word `null` (none), or a run of decimal
digits. Returns the value and the rest after it. -/
def parseJsonValue : List UInt8 → Except EfiStatus (Option (List UInt8) × List UInt8)
  | [] => .error .invalidParameter
  | c :: rest =>
      if c = quote then
        match skipToNextQuote rest with
        | (value, _ :: rest) => .ok (some value, rest)
        | (_, []) => .error .invalidParameter
      else if c = 0x6E then
        -- `n` must be followed by `ull`
        match rest with
        | u :: l :: l' :: rest =>
            if u = 0x75 ∧ l = 0x6C ∧ l' = 0x6C then .ok (none, rest)
            else .error .invalidParameter
        | _ => .error .invalidParameter
      else if isDigit c then
        match rest.span isDigit with
        | (digits, rest) => .ok (some (c :: digits), rest)
      else .error .invalidParameter

/-- One `"name" : value` of `JsonLibParse`: the element and the rest after its value. -/
def parseJsonElement (s : List UInt8) : Except EfiStatus (JsonRequestElement × List UInt8) :=
  match skipWhiteSpace s with
  | c :: rest =>
      if c ≠ quote then .error .invalidParameter
      else
        match skipToNextQuote rest with
        | (name, _ :: rest) =>
            match skipWhiteSpace rest with
            | c :: rest =>
                if c ≠ colon then .error .invalidParameter
                else
                  (fun (value, rest) => (⟨name, value⟩, rest)) <$>
                    parseJsonValue (skipWhiteSpace rest)
            | [] => .error .invalidParameter
        | (_, []) => .error .invalidParameter
  | [] => .error .invalidParameter

theorem length_skipWhiteSpace_le (s : List UInt8) : (skipWhiteSpace s).length ≤ s.length :=
  (List.dropWhile_suffix _).length_le

theorem skipToNextQuote_eq (s : List UInt8) :
    skipToNextQuote s = (s.takeWhile (· != quote), s.dropWhile (· != quote)) :=
  List.span_eq_takeWhile_dropWhile _ s

theorem length_skipToNextQuote (s : List UInt8) :
    (skipToNextQuote s).1.length + (skipToNextQuote s).2.length = s.length := by
  rw [skipToNextQuote_eq, ← List.length_append, List.takeWhile_append_dropWhile]

/-- A value takes at least one character. -/
theorem parseJsonValue_length_lt {s rest : List UInt8} {value : Option (List UInt8)}
    (h : parseJsonValue s = .ok (value, rest)) : rest.length < s.length := by
  match s, h with
  | c :: s', h =>
      simp only [parseJsonValue] at h
      split_ifs at h
      · -- a quoted value: the rest is after its closing quote
        split at h
        · next value' q rest' hspan =>
            cases h
            have hlen := length_skipToNextQuote s'
            rw [hspan] at hlen
            simp only [List.length_cons] at hlen ⊢
            omega
        · cases h
      · split at h
        · split_ifs at h
          cases h
          simp only [List.length_cons]
          omega
        · cases h
      · cases h
        have hlen : (s'.span isDigit).2.length ≤ s'.length := by
          rw [List.span_eq_takeWhile_dropWhile]
          exact (List.dropWhile_suffix _).length_le
        simp only [List.length_cons]
        omega

/-- An element takes at least its two quotes and its `:`. -/
theorem parseJsonElement_length_lt {s rest : List UInt8} {e : JsonRequestElement}
    (h : parseJsonElement s = .ok (e, rest)) : rest.length < s.length := by
  unfold parseJsonElement at h
  split at h
  · next c rest₁ hws₁ =>
      split_ifs at h
      split at h
      · next name q rest₂ hquote =>
          split at h
          · next c' rest₃ hws₂ =>
              split_ifs at h
              obtain ⟨⟨value, rest₄⟩, hvalue, hresult⟩ := ExceptOk.map_eq_ok_iff.mp h
              cases hresult
              -- the quote, the name's closing quote and the `:` are behind the value
              have h₁ := length_skipWhiteSpace_le s
              have h₂ := length_skipToNextQuote rest₁
              have h₃ := length_skipWhiteSpace_le rest₂
              have h₄ := length_skipWhiteSpace_le rest₃
              have h₅ := parseJsonValue_length_lt hvalue
              rw [hws₁] at h₁
              rw [hquote] at h₂
              rw [hws₂] at h₃
              simp only [List.length_cons] at h₁ h₂ h₃
              omega
          · cases h
      · cases h
  · cases h

section Parse

variable {σ : Type} (process : σ → JsonRequestElement → EfiStatus × σ)

/-- An element as the loop of `JsonLibParse` hands it on: a `null` is skipped (`SkipNULL`),
any other goes to the process function, whose `EFI_MEDIA_CHANGED` is remembered in `Changed`
and turned into success. -/
def processElement (e : JsonRequestElement) (changed : Bool) (ctx : σ) : EfiStatus × Bool × σ :=
  match e.value with
  | none => (.success, changed, ctx)
  | some _ =>
      match process ctx e with
      | (.mediaChanged, ctx) => (.success, true, ctx)
      | (status, ctx) => (status, changed, ctx)

/-- The loop of `JsonLibParse`, after the `{`: each element is handed on, an error of the
process function ends the parse; a `,` goes on to the next element and a `}` ends the
parse. -/
def parseJsonElements (s : List UInt8) (changed : Bool) (ctx : σ) : EfiStatus × σ :=
  match hparse : parseJsonElement s with
  | .error status => (status, ctx)
  | .ok (e, rest) =>
      let (status, changed, ctx) := processElement process e changed ctx
      if status.isError then (status, ctx)
      else
        -- `Processed` is set after every element, `null` or not
        let processed := true
        match hrest : skipWhiteSpace rest with
        | c :: rest' =>
            if c = comma then
              if rest' = [] then (.invalidParameter, ctx)
              else parseJsonElements rest' changed ctx
            else if c = closeBrace then
              (if changed then .mediaChanged else if processed then .success else .notFound, ctx)
            else (.invalidParameter, ctx)
        | [] => (.invalidParameter, ctx)
termination_by s.length
decreasing_by
  have hlt := parseJsonElement_length_lt hparse
  have hle := length_skipWhiteSpace_le rest
  rw [hrest, List.length_cons] at hle
  omega

/-- `JsonLibParse (JsonString, JsonStringSize, ProcessFunction, Context)` on a buffer of
`JsonStringSize` characters: the string is what comes before the first NUL, and a buffer
without one is refused. -/
def jsonLibParse (buffer : List UInt8) (jsonStringSize : Nat) (ctx : σ) : EfiStatus × σ :=
  if jsonStringSize = 0 then (.invalidParameter, ctx)
  else if 0 ∉ buffer.take jsonStringSize then (.invalidParameter, ctx)
  else
    match skipWhiteSpace (buffer.takeWhile (· ≠ 0)) with
    | c :: rest =>
        if c ≠ openBrace then (.invalidParameter, ctx)
        else parseJsonElements process rest false ctx
    | [] => (.invalidParameter, ctx)

end Parse

end MuPlus.Json
