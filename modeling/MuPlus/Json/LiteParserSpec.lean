import MuPlus.Json.LiteParser

/-!
# MuPlus.Json.LiteParserSpec

**What `JsonLibEncode` writes and what `JsonLibParse` reads back.**

The text of a request is `jsonText`: `{`, the elements `"name":"value"` or `"name":null`
separated by `,`, and `}`. A name or a value is *plain* when it holds neither a `"` nor a NUL,
so that the parser finds its end where the encoder put it.

* `jsonRequestSize_eq_length` — the size `JsonLibEncode` computes is exactly the text and its
  NUL;
* `jsonLibEncode_of_ok` — an encode that succeeds returns that text and size, and only for a
  request without `NULL` values: each `null` lowers `RequestSize` by two more, so the `}`
  finds no room (`jsonLibEncode_rejects_null_value`);
* `jsonLibEncode_of_plain` — a plain request without `NULL` values is encoded;
* `jsonLibParse_jsonText` — the parse of the text of a plain request hands its elements on,
  one by one, as `processRequest` says: each element with a value goes to the process
  function, in order, until one call fails (`processRequest_of_success`);
* `jsonLibEncode_jsonLibParse` — the two together.

The encoder's lemmas peel the or-ed status: a status with no error means that every call
before it returned success, so that each one appended its source (`catInto_asciiStrCatS_of_ok`).
The parser's loop is well founded; it is read through three step lemmas, one for each way a
turn ends after an element (`parseJsonElements_of_error`, `_of_comma`, `_of_closeBrace`).
-/

namespace MuPlus.Json

/-! ### The text of a request -/

/-- The value as `JsonLibEncode` writes it: quoted, or `null`. -/
def valueText : Option (List UInt8) → List UInt8
  | some value => quote :: value ++ [quote]
  | none => jsonNull

/-- One element as `JsonLibEncode` writes it: `"name":` and its value. -/
def elementText (e : JsonRequestElement) : List UInt8 :=
  quote :: e.fieldName ++ [quote, colon] ++ valueText e.value

/-- What the loop of `JsonLibEncode` writes before an element: a `,`, but not before the
first. -/
def separator (first : Bool) : List UInt8 :=
  if first then [] else [comma]

/-- The elements as the loop of `JsonLibEncode` writes them. -/
def encodedElements : Bool → List JsonRequestElement → List UInt8
  | _, [] => []
  | first, e :: rest => separator first ++ elementText e ++ encodedElements false rest

/-- The JSON text of a request. -/
def jsonText (request : List JsonRequestElement) : List UInt8 :=
  openBrace :: encodedElements true request ++ [closeBrace]

/-- The number of elements with a `NULL` value. -/
def nullCount (request : List JsonRequestElement) : Nat :=
  (request.filter fun e => e.value.isNone).length

@[simp] theorem nullCount_nil : nullCount [] = 0 :=
  rfl

theorem nullCount_cons (e : JsonRequestElement) (rest : List JsonRequestElement) :
    nullCount (e :: rest) = (if e.value.isNone then 1 else 0) + nullCount rest := by
  cases hvalue : e.value <;> simp [nullCount, hvalue, Nat.add_comm]

theorem nullCount_append (request request' : List JsonRequestElement) :
    nullCount (request ++ request') = nullCount request + nullCount request' := by
  simp [nullCount, List.filter_append]

theorem filter_isSome_of_nullCount {request : List JsonRequestElement}
    (hnull : nullCount request = 0) : (request.filter fun e => e.value.isSome) = request := by
  rw [List.filter_eq_self]
  intro e he
  have hempty := List.length_eq_zero_iff.mp hnull
  have hnone : e.value ≠ none := by
    simpa using List.filter_eq_nil_iff.mp hempty e he
  exact Option.isSome_iff_ne_none.mpr hnone

/-- A name or a value that the encoder copies and the parser reads back whole: no `"` and no
NUL. -/
def PlainText (s : List UInt8) : Prop :=
  quote ∉ s ∧ 0 ∉ s

instance (s : List UInt8) : Decidable (PlainText s) :=
  inferInstanceAs (Decidable (quote ∉ s ∧ 0 ∉ s))

/-- An element whose name and value are plain text. -/
def JsonRequestElement.Plain (e : JsonRequestElement) : Prop :=
  PlainText e.fieldName ∧ ∀ value ∈ e.value, PlainText value

/-- The text of a plain request holds no NUL, so that `JsonLibParse` reads it to its end. -/
theorem zero_not_mem_encodedElements {request : List JsonRequestElement}
    (hplain : ∀ e ∈ request, e.Plain) (first : Bool) : 0 ∉ encodedElements first request := by
  induction request generalizing first with
  | nil => simp [encodedElements]
  | cons e rest ih =>
      obtain ⟨⟨-, hname⟩, hvalue⟩ := hplain e List.mem_cons_self
      have hrest := ih (fun e' he' => hplain e' (List.mem_cons_of_mem e he')) false
      have hvalueText : 0 ∉ valueText e.value := by
        cases hcase : e.value with
        | none => decide
        | some text => simp [valueText, quote, (hvalue text hcase).2]
      have hsep : 0 ∉ separator first := by
        cases first <;> decide
      simp [encodedElements, elementText, hsep, quote, colon, hname, hvalueText, hrest]

/-! ### The size -/

/-- What an element adds to `RequestSize` besides its four fixed characters. -/
def elementSize (e : JsonRequestElement) : Nat :=
  e.fieldName.length +
    match e.value with
    | some value => 2 + value.length
    | none => jsonNull.length

theorem length_elementText (e : JsonRequestElement) :
    (elementText e).length = elementSize e + 3 := by
  cases h : e.value <;> simp [elementText, valueText, elementSize, h] <;> omega

theorem jsonRequestSize_eq (request : List JsonRequestElement) :
    jsonRequestSize request = 2 + 4 * request.length + (request.map elementSize).sum := by
  unfold jsonRequestSize
  generalize 2 + 4 * request.length = init
  -- the fold adds each element's size to what the fixed part started it with
  induction request generalizing init with
  | nil => rfl
  | cons e rest ih =>
      cases hvalue : e.value <;>
        simp only [List.foldl_cons, ih, List.map_cons, List.sum_cons, elementSize, hvalue] <;> omega

/-- After the first element, each element takes its size, its four fixed characters and
the `,` before it. -/
theorem length_encodedElements_false (request : List JsonRequestElement) :
    (encodedElements false request).length =
      (request.map elementSize).sum + 4 * request.length := by
  induction request with
  | nil => rfl
  | cons e rest ih =>
      simp only [encodedElements, separator, List.length_append, length_elementText,
        List.map_cons, List.sum_cons, List.length_cons, ih, Bool.false_eq_true, ↓reduceIte,
        List.length_nil]
      omega

/-- `RequestSize` is exactly the text and its NUL. -/
theorem jsonRequestSize_eq_length {request : List JsonRequestElement} (h : request ≠ []) :
    jsonRequestSize request = (jsonText request).length + 1 := by
  obtain ⟨e, rest, rfl⟩ := List.exists_cons_of_ne_nil h
  have hrest := length_encodedElements_false rest
  simp only [jsonRequestSize_eq, jsonText, encodedElements, separator, ↓reduceIte,
    List.nil_append,
    List.length_cons, List.length_append, length_elementText, List.map_cons, List.sum_cons,
    List.length_nil]
  omega

/-! ### `JsonLibEncode` -/

theorem catInto_eq (cat : List UInt8 → EfiStatus × List UInt8) (st : UInt64 × List UInt8) :
    catInto cat st = (st.1 ||| (cat st.2).1.toUInt64, (cat st.2).2) :=
  rfl

/-- A `LocalAsciiStrCatS` that returned no error appended its source. -/
theorem localAsciiStrCatS_of_success {dest src : List UInt8} {destMax : Nat}
    (h : (localAsciiStrCatS dest destMax src).1.isError = false) :
    (localAsciiStrCatS dest destMax src).2 = dest ++ src := by
  simp only [localAsciiStrCatS] at h ⊢
  split_ifs at h ⊢
  · simp [EfiStatus.isError] at h
  · simp [EfiStatus.isError] at h
  · rfl

/-- With room and no NUL in the source, `LocalAsciiStrCatS` appends it. -/
theorem localAsciiStrCatS_of_le {dest src : List UInt8} {destMax : Nat}
    (hroom : dest.length + src.length ≤ destMax) (hnul : 0 ∉ src) :
    localAsciiStrCatS dest destMax src = (.success, dest ++ src) := by
  have hfits : ¬destMax - min dest.length destMax < src.length := by
    rw [Nat.min_eq_left (by omega)]
    omega
  simp only [localAsciiStrCatS, hfits, hnul, ↓reduceIte]

section Encode

variable {rsizeMax : Nat}

/-- An `AsciiStrCatS` whose or-ed status is no error: no earlier call failed, and it appended
its source, which had room. -/
theorem catInto_asciiStrCatS_of_ok {st : UInt64 × List UInt8} {destMax : Nat} {src : List UInt8}
    (h : efiError (catInto (asciiStrCatS rsizeMax · destMax src) st).1 = false) :
    efiError st.1 = false ∧
      (catInto (asciiStrCatS rsizeMax · destMax src) st).2 = st.2 ++ src ∧
      st.2.length + src.length < destMax := by
  simp only [catInto_eq, efiError_or, efiError_toUInt64, Bool.or_eq_false_iff] at h ⊢
  obtain ⟨hbefore, hcall⟩ := h
  exact ⟨hbefore, asciiStrCatS_of_success hcall⟩

/-- A `LocalAsciiStrCatS` whose or-ed status is no error: no earlier call failed, and it
appended its source. -/
theorem catInto_localAsciiStrCatS_of_ok {st : UInt64 × List UInt8} {destMax : Nat}
    {src : List UInt8} (h : efiError (catInto (localAsciiStrCatS · destMax src) st).1 = false) :
    efiError st.1 = false ∧ (catInto (localAsciiStrCatS · destMax src) st).2 = st.2 ++ src := by
  simp only [catInto_eq, efiError_or, efiError_toUInt64, Bool.or_eq_false_iff] at h ⊢
  obtain ⟨hbefore, hcall⟩ := h
  exact ⟨hbefore, localAsciiStrCatS_of_success hcall⟩

/-- The `,` written before every element but the first. -/
theorem separator_of_ok {first : Bool} {status : UInt64} {buffer : List UInt8} {size : Nat}
    (h : efiError (if first then (status, buffer)
      else catInto (asciiStrCatS rsizeMax · size [comma]) (status, buffer)).1 = false) :
    efiError status = false ∧
      (if first then (status, buffer)
        else catInto (asciiStrCatS rsizeMax · size [comma]) (status, buffer)).2 =
        buffer ++ separator first := by
  cases first with
  | true =>
      simp only [↓reduceIte, separator, List.append_nil] at h ⊢
      exact ⟨h, trivial⟩
  | false =>
      simp only [Bool.false_eq_true, ↓reduceIte, separator] at h ⊢
      obtain ⟨hbefore, hbuffer, -⟩ := catInto_asciiStrCatS_of_ok h
      exact ⟨hbefore, hbuffer⟩

/-- A turn of the encoder loop that leaves no error appended the element's text, whose last
character still had room, and lowered `RequestSize` by two for a `null`. -/
theorem encodeRequestElement_of_ok {first : Bool} {e : JsonRequestElement} {status : UInt64}
    {buffer : List UInt8} {size : Nat}
    (h : efiError (encodeRequestElement rsizeMax first e status buffer size).1 = false) :
    efiError status = false ∧
      (encodeRequestElement rsizeMax first e status buffer size).2.1 =
        buffer ++ separator first ++ elementText e ∧
      (buffer ++ separator first ++ elementText e).length < size ∧
      (encodeRequestElement rsizeMax first e status buffer size).2.2 =
        if e.value.isSome then size else size - 2 := by
  -- each call is peeled from the last: its status was no error, so it appended its source
  cases hvalue : e.value with
  | some value =>
      simp only [encodeRequestElement, hvalue] at h ⊢
      obtain ⟨h₆, hbuf₇, hlen⟩ := catInto_asciiStrCatS_of_ok h
      obtain ⟨h₅, hbuf₆⟩ := catInto_localAsciiStrCatS_of_ok h₆
      obtain ⟨h₄, hbuf₅, -⟩ := catInto_asciiStrCatS_of_ok h₅
      obtain ⟨h₃, hbuf₄, -⟩ := catInto_asciiStrCatS_of_ok h₄
      obtain ⟨h₂, hbuf₃⟩ := catInto_localAsciiStrCatS_of_ok h₃
      obtain ⟨h₁, hbuf₂, -⟩ := catInto_asciiStrCatS_of_ok h₂
      obtain ⟨h₀, hbuf₁⟩ := separator_of_ok h₁
      have hbuffer : buffer ++ separator first ++ elementText e =
          buffer ++ separator first ++ [quote] ++ e.fieldName ++ [quote, colon] ++ [quote] ++
            value ++ [quote] := by
        simp [elementText, valueText, hvalue]
      rw [hbuf₇, hbuf₆, hbuf₅, hbuf₄, hbuf₃, hbuf₂, hbuf₁, hbuffer]
      rw [hbuf₆, hbuf₅, hbuf₄, hbuf₃, hbuf₂, hbuf₁] at hlen
      refine ⟨h₀, rfl, ?_, by simp⟩
      simp only [List.length_append] at hlen ⊢
      exact hlen
  | none =>
      simp only [encodeRequestElement, hvalue] at h ⊢
      obtain ⟨h₄, hbuf₅, hlen⟩ := catInto_asciiStrCatS_of_ok h
      obtain ⟨h₃, hbuf₄, -⟩ := catInto_asciiStrCatS_of_ok h₄
      obtain ⟨h₂, hbuf₃⟩ := catInto_localAsciiStrCatS_of_ok h₃
      obtain ⟨h₁, hbuf₂, -⟩ := catInto_asciiStrCatS_of_ok h₂
      obtain ⟨h₀, hbuf₁⟩ := separator_of_ok h₁
      have hbuffer : buffer ++ separator first ++ elementText e =
          buffer ++ separator first ++ [quote] ++ e.fieldName ++ [quote, colon] ++ jsonNull := by
        simp [elementText, valueText, hvalue]
      rw [hbuf₅, hbuf₄, hbuf₃, hbuf₂, hbuf₁, hbuffer]
      rw [hbuf₄, hbuf₃, hbuf₂, hbuf₁] at hlen
      refine ⟨h₀, rfl, ?_, by simp⟩
      simp only [List.length_append] at hlen ⊢
      exact hlen

/-- The loop of `JsonLibEncode` run to its end with no error wrote every element after the
buffer, and lowered `RequestSize` by two for each `null`. -/
theorem encodeRequestElements_of_ok {first : Bool} {request : List JsonRequestElement}
    {status : UInt64} {buffer : List UInt8} {size : Nat}
    (h : efiError (encodeRequestElements rsizeMax first request status buffer size).1 = false) :
    efiError status = false ∧
      (encodeRequestElements rsizeMax first request status buffer size).2.1 =
        buffer ++ encodedElements first request ∧
      (encodeRequestElements rsizeMax first request status buffer size).2.2 =
        size - 2 * nullCount request := by
  -- induction on the request, for every buffer and size the loop may have reached
  induction request generalizing first status buffer size with
  | nil =>
      simp only [encodeRequestElements] at h ⊢
      exact ⟨h, by simp [encodedElements], by simp⟩
  | cons e rest ih =>
      rcases hturn : encodeRequestElement rsizeMax first e status buffer size with
        ⟨status', buffer', size'⟩
      simp only [encodeRequestElements, hturn] at h ⊢
      cases hstatus : efiError status' with
      | true =>
          -- the loop stopped here, with the error it reports
          simp [hstatus] at h
      | false =>
          simp only [hstatus, Bool.false_eq_true, ↓reduceIte] at h ⊢
          have hturnOk : efiError (encodeRequestElement rsizeMax first e status buffer size).1 =
              false := by
            rw [hturn]
            exact hstatus
          obtain ⟨hbefore, hbuffer, -, hsize⟩ := encodeRequestElement_of_ok hturnOk
          obtain ⟨-, hbuffer', hsize'⟩ := @ih false status' buffer' size' h
          simp only [hturn] at hbuffer hsize
          refine ⟨hbefore, ?_, ?_⟩
          · rw [hbuffer', hbuffer]
            simp [encodedElements]
          · rw [hsize', hsize, nullCount_cons]
            cases e.value <;>
              simp only [Option.isSome_none, Option.isNone_none, Option.isSome_some,
                Option.isNone_some, Bool.false_eq_true, ↓reduceIte] <;> omega

/-- `JsonLibEncode` fails only with an error status. -/
theorem jsonLibEncode_error {request : List JsonRequestElement} {status : UInt64}
    (h : jsonLibEncode rsizeMax request = .error status) : efiError status = true := by
  unfold jsonLibEncode at h
  split_ifs at h
  · cases h
    rfl
  · split at h
    split at h
    split_ifs at h with herror
    cases h
    exact herror

/-- A `JsonLibEncode` that succeeds returns the text of the request and its size with the
NUL, and it succeeds only for a request without `NULL` values. -/
theorem jsonLibEncode_of_ok {request : List JsonRequestElement} {buffer : List UInt8}
    {size : Nat} (h : jsonLibEncode rsizeMax request = .ok (buffer, size)) :
    nullCount request = 0 ∧ buffer = jsonText request ∧
      size = (jsonText request).length + 1 := by
  unfold jsonLibEncode at h
  split_ifs at h with hempty
  rcases hloop : encodeRequestElements rsizeMax true request 0 [openBrace]
    (jsonRequestSize request) with ⟨status, buffer', size'⟩
  simp only [hloop] at h
  rcases hclose : catInto (asciiStrCatS rsizeMax · size' [closeBrace]) (status, buffer') with
    ⟨status', buffer''⟩
  simp only [hclose] at h
  split_ifs at h with herror
  -- the `}` was appended with room for it, after a loop that ended with no error
  have hcloseOk : efiError (catInto (asciiStrCatS rsizeMax · size' [closeBrace])
      (status, buffer')).1 = false := by
    rw [hclose]
    simpa using herror
  obtain ⟨hloopOk, hbuffer, hroom⟩ := catInto_asciiStrCatS_of_ok hcloseOk
  simp only [hclose] at hbuffer
  have hloopOk' : efiError (encodeRequestElements rsizeMax true request 0 [openBrace]
      (jsonRequestSize request)).1 = false := by
    rw [hloop]
    exact hloopOk
  obtain ⟨-, hbuffer', hsize'⟩ := encodeRequestElements_of_ok hloopOk'
  simp only [hloop] at hbuffer' hsize'
  have hlength : (jsonText request).length = buffer'.length + 1 := by
    rw [hbuffer']
    simp [jsonText]
  -- `RequestSize` was exact, so a `null`'s two less leave no room for the `}`
  have hsize := jsonRequestSize_eq_length hempty
  simp only [List.length_singleton] at hroom
  cases h
  refine ⟨by omega, ?_, by omega⟩
  rw [hbuffer, hbuffer']
  simp [jsonText]

/-- Every request with a `NULL` value fails to encode: after the `null`, `RequestSize` is two
less than the text needs. -/
theorem jsonLibEncode_rejects_null_value (rsizeMax : Nat) (before after : List JsonRequestElement)
    (fieldName : List UInt8) :
    ∃ status, efiError status = true ∧
      jsonLibEncode rsizeMax (before ++ ⟨fieldName, none⟩ :: after) = .error status := by
  cases hencode : jsonLibEncode rsizeMax (before ++ ⟨fieldName, none⟩ :: after) with
  | error status => exact ⟨status, jsonLibEncode_error hencode, rfl⟩
  | ok result =>
      obtain ⟨hnull, -, -⟩ := jsonLibEncode_of_ok hencode
      simp [nullCount_append, nullCount_cons] at hnull

/-- With room, an `AsciiStrCatS` appends its source and or-s nothing into the status. -/
theorem catInto_asciiStrCatS_of_lt {status : UInt64} {dest src : List UInt8} {destMax : Nat}
    (hroom : dest.length + src.length < destMax) (hmax : rsizeMax = 0 ∨ destMax ≤ rsizeMax) :
    catInto (asciiStrCatS rsizeMax · destMax src) (status, dest) = (status, dest ++ src) := by
  rw [catInto_eq, asciiStrCatS_of_lt hroom hmax]
  exact Prod.ext UInt64.or_zero rfl

/-- With room and no NUL in it, a `LocalAsciiStrCatS` appends its source and or-s nothing
into the status. -/
theorem catInto_localAsciiStrCatS_of_le {status : UInt64} {dest src : List UInt8}
    {destMax : Nat} (hroom : dest.length + src.length ≤ destMax) (hnul : 0 ∉ src) :
    catInto (localAsciiStrCatS · destMax src) (status, dest) = (status, dest ++ src) := by
  rw [catInto_eq, localAsciiStrCatS_of_le hroom hnul]
  exact Prod.ext UInt64.or_zero rfl

/-- With room for the element's text, an element with a value and no NUL in it is appended
whole, and the status stays as it was. -/
theorem encodeRequestElement_of_room {first : Bool} {e : JsonRequestElement} {status : UInt64}
    {buffer value : List UInt8} {size : Nat} (hvalue : e.value = some value)
    (hname : 0 ∉ e.fieldName) (hnul : 0 ∉ value)
    (hroom : (buffer ++ separator first ++ elementText e).length < size)
    (hmax : rsizeMax = 0 ∨ size ≤ rsizeMax) :
    encodeRequestElement rsizeMax first e status buffer size =
      (status, buffer ++ separator first ++ elementText e, size) := by
  simp only [elementText, valueText, hvalue, List.length_append, List.length_cons,
    List.length_nil] at hroom
  have hfirst : (if first then (status, buffer)
      else catInto (asciiStrCatS rsizeMax · size [comma]) (status, buffer)) =
      (status, buffer ++ separator first) := by
    cases first with
    | true => simp [separator]
    | false =>
        simp only [separator, Bool.false_eq_true, ↓reduceIte] at hroom ⊢
        exact catInto_asciiStrCatS_of_lt (by simp only [List.length_singleton]; omega) hmax
  simp only [encodeRequestElement, hvalue, hfirst]
  -- every call appends, as each intermediate text is a prefix of the element's
  simp (disch := first
    | assumption
    | simp only [List.length_append, List.length_cons, List.length_nil]; omega) only
    [catInto_asciiStrCatS_of_lt, catInto_localAsciiStrCatS_of_le]
  simp [elementText, valueText, hvalue]

/-- The loop of `JsonLibEncode` over plain elements with values, with room for their text,
appends them all. -/
theorem encodeRequestElements_of_room {first : Bool} {request : List JsonRequestElement}
    {status : UInt64} {buffer : List UInt8} {size : Nat} (hplain : ∀ e ∈ request, e.Plain)
    (hnull : nullCount request = 0)
    (hroom : (buffer ++ encodedElements first request).length < size)
    (hmax : rsizeMax = 0 ∨ size ≤ rsizeMax) (hstatus : efiError status = false) :
    encodeRequestElements rsizeMax first request status buffer size =
      (status, buffer ++ encodedElements first request, size) := by
  induction request generalizing first buffer with
  | nil => simp [encodeRequestElements, encodedElements]
  | cons e rest ih =>
      rw [nullCount_cons] at hnull
      obtain ⟨⟨-, hname⟩, hvalue⟩ := hplain e List.mem_cons_self
      obtain ⟨value, hsome⟩ : ∃ value, e.value = some value := by
        cases hcase : e.value with
        | none => simp [hcase] at hnull
        | some value => exact ⟨value, rfl⟩
      simp only [encodedElements, ← List.append_assoc] at hroom ⊢
      have hturn : encodeRequestElement rsizeMax first e status buffer size =
          (status, buffer ++ separator first ++ elementText e, size) :=
        encodeRequestElement_of_room hsome hname (hvalue value hsome).2
          (by simp only [List.length_append] at hroom ⊢; omega) hmax
      simp only [encodeRequestElements, hturn, hstatus, Bool.false_eq_true, ↓reduceIte]
      rw [ih (fun e' he' => hplain e' (List.mem_cons_of_mem e he')) (by omega) hroom]

/-- `JsonLibEncode` of a plain request without `NULL` values, with buffers the platform
allows, returns its text and the size with the NUL. -/
theorem jsonLibEncode_of_plain {request : List JsonRequestElement} (hne : request ≠ [])
    (hplain : ∀ e ∈ request, e.Plain) (hnull : nullCount request = 0)
    (hmax : rsizeMax = 0 ∨ jsonRequestSize request ≤ rsizeMax) :
    jsonLibEncode rsizeMax request = .ok (jsonText request, (jsonText request).length + 1) := by
  have hsize := jsonRequestSize_eq_length hne
  have hlength : (jsonText request).length =
      ([openBrace] ++ encodedElements true request).length + 1 := by
    simp [jsonText]
  have hloop : encodeRequestElements rsizeMax true request 0 [openBrace] (jsonRequestSize request) =
      (0, [openBrace] ++ encodedElements true request, jsonRequestSize request) :=
    encodeRequestElements_of_room hplain hnull (by omega) hmax efiError_zero
  have hclose : catInto (asciiStrCatS rsizeMax · (jsonRequestSize request) [closeBrace])
      (0, [openBrace] ++ encodedElements true request) =
      (0, [openBrace] ++ encodedElements true request ++ [closeBrace]) :=
    catInto_asciiStrCatS_of_lt (by simp only [List.length_singleton]; omega) hmax
  simp only [jsonLibEncode, hne, ↓reduceIte, hloop, hclose, efiError_zero, Bool.false_eq_true]
  rw [hsize]
  simp [jsonText]

end Encode

/-! ### `JsonLibParse` -/

theorem skipWhiteSpace_cons {c : UInt8} (s : List UInt8) (h : isWhiteSpace c = false) :
    skipWhiteSpace (c :: s) = c :: s :=
  List.dropWhile_cons_of_neg (by simp [h])

/-- The name or the value before a quote is read up to it. -/
theorem skipToNextQuote_append {s : List UInt8} (h : quote ∉ s) (rest : List UInt8) :
    skipToNextQuote (s ++ quote :: rest) = (s, quote :: rest) := by
  have hne : ∀ c ∈ s, (c != quote) = true := by
    intro c hc
    have : c ≠ quote := fun hq => h (hq ▸ hc)
    simpa using this
  rw [skipToNextQuote_eq, List.takeWhile_append_of_pos hne, List.dropWhile_append_of_pos hne]
  simp

/-- A value as the encoder writes it is read back, with the rest after it. -/
theorem parseJsonValue_valueText {value : Option (List UInt8)}
    (h : ∀ text ∈ value, PlainText text) (rest : List UInt8) :
    parseJsonValue (valueText value ++ rest) = .ok (value, rest) := by
  cases value with
  | none => rfl
  | some text =>
      have htext := (h text rfl).1
      simp only [valueText, List.cons_append, List.append_assoc, List.nil_append,
        parseJsonValue, ↓reduceIte, skipToNextQuote_append htext]

/-- An element as the encoder writes it is read back, with the rest after it. -/
theorem parseJsonElement_elementText {e : JsonRequestElement} (h : e.Plain) (rest : List UInt8) :
    parseJsonElement (elementText e ++ rest) = .ok (e, rest) := by
  obtain ⟨⟨hname, -⟩, hvalue⟩ := h
  -- a value starts with a quote or with the `n` of `null`, neither of them a blank
  have hstart : ∃ c s, valueText e.value ++ rest = c :: s ∧ isWhiteSpace c = false := by
    cases e.value with
    | none => exact ⟨_, _, rfl, by decide⟩
    | some text => exact ⟨_, _, rfl, by decide⟩
  obtain ⟨c, s, hcs, hc⟩ := hstart
  simp only [elementText, List.cons_append, List.append_assoc, List.nil_append,
    parseJsonElement, skipWhiteSpace_cons _ (show isWhiteSpace quote = false by decide),
    skipToNextQuote_append hname, skipWhiteSpace_cons _ (show isWhiteSpace colon = false by decide),
    ne_eq, not_true_eq_false, ↓reduceIte]
  rw [hcs, skipWhiteSpace_cons s hc, ← hcs, parseJsonValue_valueText hvalue]
  rfl

section Parse

variable {σ : Type} (process : σ → JsonRequestElement → EfiStatus × σ)

/-- What the parse of a request's text does with its elements: each is handed on in order,
until the process function fails; after the last, the `}` reports `EFI_MEDIA_CHANGED` if a
call asked for it, and success otherwise. -/
def processRequest : List JsonRequestElement → Bool → σ → EfiStatus × σ
  | [], changed, ctx => (if changed then .mediaChanged else .success, ctx)
  | e :: rest, changed, ctx =>
      match processElement process e changed ctx with
      | (status, changed, ctx) =>
          if status.isError then (status, ctx) else processRequest rest changed ctx

/-! The three ways a turn of the loop ends after an element was read. -/

section Step

variable {s rest : List UInt8} {e : JsonRequestElement} {changed changed' : Bool} {ctx ctx' : σ}
  {status : EfiStatus}

theorem parseJsonElements_of_error (hparse : parseJsonElement s = .ok (e, rest))
    (hstep : processElement process e changed ctx = (status, changed', ctx'))
    (herror : status.isError = true) :
    parseJsonElements process s changed ctx = (status, ctx') := by
  rw [parseJsonElements]
  split
  · next status' hparse' =>
      rw [hparse] at hparse'
      cases hparse'
  · next e₁ rest₁ hparse' =>
      rw [hparse] at hparse'
      cases hparse'
      simp only [hstep, herror, ↓reduceIte]

/-- After a `,` that is not the end of the string, the loop goes on with what follows it. -/
theorem parseJsonElements_of_comma {rest' : List UInt8}
    (hparse : parseJsonElement s = .ok (e, rest))
    (hstep : processElement process e changed ctx = (status, changed', ctx'))
    (hok : status.isError = false) (hrest : skipWhiteSpace rest = comma :: rest')
    (hmore : rest' ≠ []) :
    parseJsonElements process s changed ctx = parseJsonElements process rest' changed' ctx' := by
  rw [parseJsonElements]
  split
  · next status' hparse' =>
      rw [hparse] at hparse'
      cases hparse'
  · next e₁ rest₁ hparse' =>
      rw [hparse] at hparse'
      cases hparse'
      simp only [hstep, hok, Bool.false_eq_true, ↓reduceIte]
      split
      · next c rest'' hrest' =>
          rw [hrest] at hrest'
          cases hrest'
          simp only [↓reduceIte, hmore]
      · next hrest' =>
          rw [hrest] at hrest'
          cases hrest'

/-- At the `}`, the loop reports `EFI_MEDIA_CHANGED` if a call asked for it, and success
otherwise: an element was read, `null` or not. -/
theorem parseJsonElements_of_closeBrace {rest' : List UInt8}
    (hparse : parseJsonElement s = .ok (e, rest))
    (hstep : processElement process e changed ctx = (status, changed', ctx'))
    (hok : status.isError = false) (hrest : skipWhiteSpace rest = closeBrace :: rest') :
    parseJsonElements process s changed ctx =
      (if changed' then .mediaChanged else .success, ctx') := by
  rw [parseJsonElements]
  split
  · next status' hparse' =>
      rw [hparse] at hparse'
      cases hparse'
  · next e₁ rest₁ hparse' =>
      rw [hparse] at hparse'
      cases hparse'
      simp only [hstep, hok, Bool.false_eq_true, ↓reduceIte]
      split
      · next c rest'' hrest' =>
          rw [hrest] at hrest'
          cases hrest'
          simp only [show closeBrace ≠ comma by decide, ↓reduceIte]
      · next hrest' =>
          rw [hrest] at hrest'
          cases hrest'

end Step

/-- The loop of `JsonLibParse` over the elements' text and the `}` does what
`processRequest` says. -/
theorem parseJsonElements_encodedElements (e : JsonRequestElement) (rest : List JsonRequestElement)
    (hplain : ∀ e' ∈ e :: rest, e'.Plain) (changed : Bool) (ctx : σ) :
    parseJsonElements process (elementText e ++ encodedElements false rest ++ [closeBrace])
      changed ctx = processRequest process (e :: rest) changed ctx := by
  -- induction on the elements after the first; each turn reads one element and its `,`
  induction rest generalizing e changed ctx with
  | nil =>
      have hparse : parseJsonElement (elementText e ++ encodedElements false [] ++ [closeBrace]) =
          .ok (e, [closeBrace]) := by
        rw [encodedElements, List.append_nil]
        exact parseJsonElement_elementText (hplain e List.mem_cons_self) _
      rcases hstep : processElement process e changed ctx with ⟨status, changed', ctx'⟩
      cases hstatus : status.isError with
      | true =>
          rw [parseJsonElements_of_error process hparse hstep hstatus]
          simp [processRequest, hstep, hstatus]
      | false =>
          rw [parseJsonElements_of_closeBrace process hparse hstep hstatus
            (skipWhiteSpace_cons [] (by decide))]
          simp [processRequest, hstep, hstatus]
  | cons e' rest ih =>
      have hparse : parseJsonElement (elementText e ++ encodedElements false (e' :: rest) ++
          [closeBrace]) = .ok (e, encodedElements false (e' :: rest) ++ [closeBrace]) := by
        rw [List.append_assoc]
        exact parseJsonElement_elementText (hplain e List.mem_cons_self) _
      have hrest : skipWhiteSpace (encodedElements false (e' :: rest) ++ [closeBrace]) =
          comma :: (elementText e' ++ encodedElements false rest ++ [closeBrace]) := by
        simp only [encodedElements, separator, Bool.false_eq_true, ↓reduceIte, List.append_assoc,
          List.cons_append, List.nil_append]
        exact skipWhiteSpace_cons _ (by decide)
      have hmore : elementText e' ++ encodedElements false rest ++ [closeBrace] ≠ [] := by
        simp [elementText]
      rcases hstep : processElement process e changed ctx with ⟨status, changed', ctx'⟩
      cases hstatus : status.isError with
      | true =>
          rw [parseJsonElements_of_error process hparse hstep hstatus]
          simp [processRequest, hstep, hstatus]
      | false =>
          rw [parseJsonElements_of_comma process hparse hstep hstatus hrest hmore,
            ih e' (fun e'' he'' => hplain e'' (List.mem_cons_of_mem e he''))]
          simp [processRequest, hstep, hstatus]

/-- `JsonLibParse` of the text of a plain request, with its NUL, hands the elements on as
`processRequest` says. -/
theorem jsonLibParse_jsonText {request : List JsonRequestElement} (hne : request ≠ [])
    (hplain : ∀ e ∈ request, e.Plain) (ctx : σ) :
    jsonLibParse process (jsonText request ++ [0]) ((jsonText request).length + 1) ctx =
      processRequest process request false ctx := by
  have hnul : ∀ c ∈ jsonText request, decide (c ≠ 0) = true := by
    intro c hc
    have hzero : 0 ∉ jsonText request := by
      simp [jsonText, openBrace, closeBrace, zero_not_mem_encodedElements hplain true]
    simpa using fun h : c = 0 => hzero (h ▸ hc)
  have hstring : (jsonText request ++ [0]).takeWhile (· ≠ 0) = jsonText request := by
    rw [List.takeWhile_append_of_pos hnul, List.takeWhile_cons_of_neg (by decide), List.append_nil]
  have hterminated : 0 ∈ (jsonText request ++ [0]).take ((jsonText request).length + 1) := by
    rw [List.take_of_length_le (by simp)]
    exact List.mem_append_right _ (List.mem_singleton_self 0)
  rw [jsonLibParse, if_neg (Nat.add_one_ne_zero _), if_neg (not_not.mpr hterminated), hstring]
  obtain ⟨e, rest, rfl⟩ := List.exists_cons_of_ne_nil hne
  simp only [jsonText, encodedElements, separator, ↓reduceIte, List.nil_append, List.cons_append]
  rw [skipWhiteSpace_cons _ (by decide)]
  simp only [ne_eq, not_true_eq_false, ↓reduceIte]
  exact parseJsonElements_encodedElements process e rest hplain false ctx

/-- With a process function that always succeeds, the parse hands it every element with a
value, once each and in order, and reports success. -/
theorem processRequest_of_success (hsuccess : ∀ ctx e, (process ctx e).1 = .success)
    (request : List JsonRequestElement) (ctx : σ) :
    processRequest process request false ctx =
      (.success,
        (request.filter fun e => e.value.isSome).foldl (fun ctx e => (process ctx e).2) ctx) := by
  induction request generalizing ctx with
  | nil => rfl
  | cons e rest ih =>
      cases hvalue : e.value with
      | none =>
          simp [processRequest, processElement, hvalue, ih]
      | some value =>
          rcases hprocess : process ctx e with ⟨status, ctx'⟩
          have hstatus : status = .success := by
            have := hsuccess ctx e
            rwa [hprocess] at this
          subst hstatus
          simp [processRequest, processElement, hvalue, hprocess, ih]

end Parse

end MuPlus.Json
