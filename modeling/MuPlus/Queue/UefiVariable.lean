import MuPlus.Uefi.VariableList
import MuPlus.Uefi.SafeString

/-!
# MuPlus.Queue.UefiVariable

**A queue kept in UEFI variables** (`MsCorePkg/Library/DxeQueueUefiVariableLib`). Each item is a
variable under the queue's GUID, named by the decimal numeral of its ID
(`DEFAULT_QUEUE_VAR_FORMAT`). The order of the queue is stored nowhere: every call walks the
whole store with `GetNextVariableName` and keeps the variables under the queue's GUID
(`GetNextQueueVariableName`). `QueueAddItem` names a new item one past the largest ID the walk
reads, and `QueuePopItemAtIndex` and `QueuePeekAtIndex` take the item the walk reaches at the
index.

The buffer that holds the walk's name grows with `ReallocatePool` whenever `GetNextVariableName`
asks for more. Each loop over the walk is given enough passes (`fuel`) for a store of its size;
`none` stands for running out of them, and the lemmas below show that this never happens.

This module provides:

* `Walks l c rest`: from the cursor `c`, the walk visits the keys `rest`, a suffix of the
  store's keys;
* `getNextQueueVariableName_walk`: a call returns the first variable of `rest` under the GUID
  and leaves the cursor after it, or reports the end (`NextQueueVariable`);
* the callers' loops over the walk: `getQueueItemCount_eq` counts the variables under the
  GUID, `queueAddItemLoop_walk` reads the largest of their IDs, and `queueFindItem_walk`
  finds the one at an index;
* `queueAddItem_eq`, `queuePopItemAtIndex_eq` and `queuePeekAtIndex_eq`: each call in terms of
  the store's keys under the GUID.
-/

namespace MuPlus.Queue

/-! ## The library -/

/-- `DEFAULT_QUEUE_VAR_ATTR`: `EFI_VARIABLE_NON_VOLATILE | EFI_VARIABLE_BOOTSERVICE_ACCESS`. -/
def defaultQueueVarAttr : UInt32 := 0x1 ||| 0x2

/-- `DEFAULT_QUEUE_MODULO`: every ID stays below it. -/
def defaultQueueModulo : Nat := 100000

/-- `sizeof (DEFAULT_QUEUE_VAR_NAME)`: `L"00000"` with its NUL, in bytes. -/
def defaultQueueVarNameSize : Nat := 12

/-- What the library gets from the platform: whether an `AllocatePool` (`AllocateZeroPool`,
`ReallocatePool`) of a size succeeds, and `RSIZE_MAX` (`PcdMaximumUnicodeStringLength`, 0 for
no limit), which `StrDecimalToUintnS` checks names against. -/
structure QueueEnv where
  allocatePool : Nat → Bool
  rsizeMax : Nat

/-- `GenerateVarName (VarId, VarName, VarNameSize)`: `UnicodeSPrint` of `%d` into a buffer of
`varNameSize` bytes, which keeps at most `varNameSize / 2 - 1` characters before the NUL. -/
def generateVarName (varId varNameSize : Nat) : Except EfiStatus (List UInt16) :=
  if varNameSize < defaultQueueVarNameSize then .error .bufferTooSmall
  else .ok ((decimalString varId).take (varNameSize / 2 - 1))

/-- `GetIdFromVarName (VarName, VarNameSize, &VarId)`: the name has to be a decimal numeral that
`StrDecimalToUintnS` reads up to its NUL. -/
def getIdFromVarName (rsizeMax : Nat) (varName : List UInt16) : Except EfiStatus Nat :=
  let r := strDecimalToUintnS rsizeMax varName
  if r.1.isError then .error .invalidParameter
  -- `*EndPointer != L'\0'`
  else if r.2.1 ≠ varName.length then .error .invalidParameter
  else .ok r.2.2

/-- Where `GetNextQueueVariableName` is in the walk: the name the last `GetNextVariableName`
left in `VariableName`, `*VariableNameSize` (its buffer's size) and `VariableGuid`. -/
structure QueueCursor (G : Type) where
  name : List UInt16
  nameSize : Nat
  guid : G
  deriving DecidableEq, Repr

variable {G : Type} [DecidableEq G]

/-- The passes a loop of `GetNextQueueVariableName` is given: two calls of `GetNextVariableName`
for each variable (the second after the buffer grew) and one past the last. -/
def walkFuel (l : VariableList G) : Nat := 2 * l.keys.length + 2

/-- The `while` loop of `GetNextQueueVariableName (&VariableName, &VariableGuid,
&VariableNameSize, DesiredVariableGuid)`, from the cursor `c`. It returns the status and what
is left in `*VariableNamePtr`, `*VariableNameSize` and `VariableGuid`: `none` for the NULL name
of a failed `ReallocatePool`. -/
def getNextQueueVariableNameLoop (env : QueueEnv) (l : VariableList G) (desiredVariableGuid : G) :
    Nat → QueueCursor G → Option (EfiStatus × Option (QueueCursor G))
  | 0, _ => none
  | fuel + 1, c =>
      let r := l.getNextVariableName c.nameSize c.name c.guid
      if r.status = .bufferTooSmall then
        -- `ReallocatePool` keeps the name, so the walk resumes where it was
        if env.allocatePool r.nameSize then
          getNextQueueVariableNameLoop env l desiredVariableGuid fuel ⟨r.name, r.nameSize, r.guid⟩
        -- a failed one leaves `VariableName` NULL, which `GetNextVariableName` refuses
        else some (.invalidParameter, none)
      else if r.status.isError = false ∧ r.guid = desiredVariableGuid then
        some (r.status, some ⟨r.name, c.nameSize, r.guid⟩)
      else if r.status = .success then
        getNextQueueVariableNameLoop env l desiredVariableGuid fuel ⟨r.name, c.nameSize, r.guid⟩
      else some (r.status, some ⟨r.name, c.nameSize, r.guid⟩)

/-- `GetNextQueueVariableName`. A NULL `*VariableNamePtr` (`none`) starts the walk in a zeroed
buffer of 60 bytes. -/
def getNextQueueVariableName (env : QueueEnv) (l : VariableList G)
    (variableName : Option (QueueCursor G)) (desiredVariableGuid : G) :
    Option (EfiStatus × Option (QueueCursor G)) :=
  match variableName with
  | none =>
      -- the empty name starts the walk whatever the caller's `VariableGuid` holds
      if env.allocatePool 60 then
        getNextQueueVariableNameLoop env l desiredVariableGuid (walkFuel l)
          ⟨[], 60, desiredVariableGuid⟩
      else some (.outOfResources, none)
  | some c => getNextQueueVariableNameLoop env l desiredVariableGuid (walkFuel l) c

/-- The `while` loop of `GetQueueItemCount`, with `CurrenQueueCount` so far. -/
def getQueueItemCountLoop (env : QueueEnv) (l : VariableList G) (queueGuid : G) :
    Nat → Option (QueueCursor G) → Nat → Option (EfiStatus × Nat)
  | 0, _, _ => none
  | fuel + 1, variableName, currenQueueCount =>
      match getNextQueueVariableName env l variableName queueGuid with
      | none => none
      | some (status, variableName') =>
          let count := if status.isError then currenQueueCount else currenQueueCount + 1
          if status = .success then getQueueItemCountLoop env l queueGuid fuel variableName' count
          else some (status, count)

/-- `GetQueueItemCount (QueueGuid, &ItemCount)`: the status and `*ItemCount`. The walk ends in
`EFI_NOT_FOUND`, which is success. -/
def getQueueItemCount (env : QueueEnv) (l : VariableList G) (queueGuid : G) :
    Option (EfiStatus × Nat) :=
  (getQueueItemCountLoop env l queueGuid (l.keys.length + 1) none 0).map fun r =>
    (if r.1 = .notFound then .success else r.1, r.2)

/-- Step 1 of `QueueAddItem`: the loop that reads the ID of every variable of the queue, with
`VarMaxId` so far. It returns the status and `VarMaxId`. -/
def queueAddItemLoop (env : QueueEnv) (l : VariableList G) (queueGuid : G) :
    Nat → Option (QueueCursor G) → Nat → Option (EfiStatus × Nat)
  | 0, _, _ => none
  | fuel + 1, variableName, varMaxId =>
      match getNextQueueVariableName env l variableName queueGuid with
      | none => none
      | some (status, variableName') =>
          if status = .notFound then some (.success, varMaxId)
          else if status.isError then some (status, varMaxId)
          else
            match variableName' with
            -- `GetIdFromVarName` refuses a NULL name
            | none => some (.invalidParameter, varMaxId)
            | some c =>
                match getIdFromVarName env.rsizeMax c.name with
                | .error status => some (status, varMaxId)
                | .ok varCurrentId =>
                    queueAddItemLoop env l queueGuid fuel (some c) (max varMaxId varCurrentId)

/-- `QueueAddItem (QueueGuid, ItemData, ItemDataSize)`: the status and the store after it. -/
def queueAddItem (env : QueueEnv) (l : VariableList G) (queueGuid : G) (itemData : List UInt8) :
    Option (EfiStatus × VariableList G) :=
  match queueAddItemLoop env l queueGuid (l.keys.length + 1) none 0 with
  | none => none
  | some (status, varMaxId) =>
      if status.isError then some (status, l)
      else
        -- `VarMaxId += 1` on a `UINTN`
        let varMaxId := (varMaxId + 1) % (maxUintn + 1)
        if defaultQueueModulo ≤ varMaxId then some (.outOfResources, l)
        else
          match generateVarName varMaxId defaultQueueVarNameSize with
          | .error status => some (status, l)
          | .ok newVarName =>
              some (l.setVariable ⟨newVarName, queueGuid⟩ defaultQueueVarAttr itemData)

/-- Step 1 of `QueuePopItemAtIndex` and `QueuePeekAtIndex`: the `do … while` loop that calls
`GetNextQueueVariableName` until `QueueIndex` passes `ItemIndex`. `remaining` is
`ItemIndex - QueueIndex` before the increment, the calls still to come after this one. -/
def queueFindItem (env : QueueEnv) (l : VariableList G) (queueGuid : G)
    (variableName : Option (QueueCursor G)) (remaining : Nat) :
    Option (EfiStatus × Option (QueueCursor G)) :=
  match getNextQueueVariableName env l variableName queueGuid with
  | none => none
  | some (status, variableName') =>
      if status.isError then some (status, variableName')
      else
        match remaining with
        | 0 => some (status, variableName')
        | remaining + 1 =>
            if status = .success then queueFindItem env l queueGuid variableName' remaining
            else some (status, variableName')

/-- `QueuePopItemAtIndex (QueueGuid, ItemIndex, ItemData, ItemDataSize)`: the status, the data
returned when `wantData` (`ItemData` and `ItemDataSize` are not NULL), and the store after it. -/
def queuePopItemAtIndex (env : QueueEnv) (l : VariableList G) (queueGuid : G) (itemIndex : Nat)
    (wantData : Bool) : Option (EfiStatus × Option (List UInt8) × VariableList G) :=
  match queueFindItem env l queueGuid none itemIndex with
  | none => none
  | some (status, variableName) =>
      if status.isError then some (status, none, l)
      else
        match variableName with
        -- `GetVariable` and `SetVariable` refuse a NULL name
        | none => some (.invalidParameter, none, l)
        | some c =>
            let k : VariableKey G := ⟨c.name, queueGuid⟩
            -- step 5: delete the variable
            let delete := l.setVariable k defaultQueueVarAttr []
            if wantData then
              -- steps 2 to 4: the data's size, a buffer of that size, the data
              let r := l.getVariable k 0
              if r.status ≠ .bufferTooSmall then some (r.status, none, l)
              else if env.allocatePool r.dataSize = false then some (.outOfResources, none, l)
              else
                let r' := l.getVariable k r.dataSize
                if r'.status.isError then some (r'.status, none, l)
                else some (delete.1, some r'.data, delete.2)
            else some (delete.1, none, delete.2)

/-- `QueuePopItem (QueueGuid, ItemData, ItemDataSize)`: the item at index 0. -/
def queuePopItem (env : QueueEnv) (l : VariableList G) (queueGuid : G) (wantData : Bool) :
    Option (EfiStatus × Option (List UInt8) × VariableList G) :=
  queuePopItemAtIndex env l queueGuid 0 wantData

/-- `QueuePeekAtIndex (QueueGuid, ItemIndex, ItemData, ItemDataSize)`: the status and the data
returned. -/
def queuePeekAtIndex (env : QueueEnv) (l : VariableList G) (queueGuid : G) (itemIndex : Nat) :
    Option (EfiStatus × Option (List UInt8)) :=
  match queueFindItem env l queueGuid none itemIndex with
  | none => none
  | some (status, variableName) =>
      if status.isError then some (status, none)
      else
        match variableName with
        | none => some (.invalidParameter, none)
        | some c =>
            let k : VariableKey G := ⟨c.name, queueGuid⟩
            let r := l.getVariable k 0
            if r.status.isError = true ∧ r.status ≠ .bufferTooSmall then some (r.status, none)
            else if env.allocatePool r.dataSize = false then some (.outOfResources, none)
            else
              let r' := l.getVariable k r.dataSize
              if r'.status.isError then some (r'.status, none) else some (r'.status, some r'.data)

/-! ## The walk -/

/-- From the cursor `c` the walk visits the keys `rest`: the variables after the one `c` names,
a suffix of the store's keys. -/
def Walks (l : VariableList G) (c : QueueCursor G) (rest : List (VariableKey G)) : Prop :=
  ∃ p, l.nextKey c.name c.guid = .ok l.keys[p]? ∧ rest = l.keys.drop p

/-- The keys a call's walk visits: all of them from a NULL name (`none`). -/
def CursorWalks (l : VariableList G) : Option (QueueCursor G) → List (VariableKey G) → Prop
  | none, rest => rest = l.keys
  | some c, rest => Walks l c rest

/-- **One call of `GetNextQueueVariableName`** from a cursor before `rest`: `EFI_SUCCESS` on the
first variable of `rest` under the GUID `g`, with the cursor left before the keys after it, or
`EFI_NOT_FOUND` when `rest` has none. -/
def NextQueueVariable (l : VariableList G) (g : G) (rest : List (VariableKey G))
    (r : Option (EfiStatus × Option (QueueCursor G))) : Prop :=
  match rest.filter (·.guid = g) with
  | [] => ∃ c, r = some (.notFound, c)
  | k :: ks => ∃ c post, r = some (.success, some c) ∧ (⟨c.name, c.guid⟩ : VariableKey G) = k ∧
      Walks l c post ∧ post.filter (·.guid = g) = ks

variable {l : VariableList G} {c : QueueCursor G} {k : VariableKey G} {rest : List (VariableKey G)}

/-- A NULL name starts the walk at the first variable. -/
theorem walks_start (l : VariableList G) (nameSize : Nat) (guid : G) :
    Walks l ⟨[], nameSize, guid⟩ l.keys :=
  ⟨0, by rw [l.nextKey_nil, List.head?_eq_getElem?], List.drop_zero.symm⟩

theorem Walks.length_le (h : Walks l c rest) : rest.length ≤ l.keys.length := by
  obtain ⟨p, -, rfl⟩ := h
  rw [List.length_drop]
  omega

theorem CursorWalks.length_le {cursor : Option (QueueCursor G)} (h : CursorWalks l cursor rest) :
    rest.length ≤ l.keys.length := by
  cases cursor with
  | none => exact (congrArg List.length h).le
  | some c => exact Walks.length_le h

/-- Past the last variable the walk is at its end. -/
theorem Walks.nextKey_of_nil (h : Walks l c []) : l.nextKey c.name c.guid = .ok none := by
  obtain ⟨p, hp, hrest⟩ := h
  rw [hp, List.getElem?_eq_none (List.drop_eq_nil_iff.mp hrest.symm)]

/-- Before `k :: rest`, the walk goes to `k`, and from `k`, whatever the buffer's size, on to
`rest`. -/
theorem Walks.cons (h : Walks l c (k :: rest)) :
    l.nextKey c.name c.guid = .ok (some k) ∧ ∀ nameSize, Walks l ⟨k.name, nameSize, k.guid⟩ rest := by
  obtain ⟨p, hp, hrest⟩ := h
  have hlt : p < l.keys.length := by
    by_contra hge
    rw [List.drop_eq_nil_of_le (by omega)] at hrest
    cases hrest
  rw [List.drop_eq_getElem_cons hlt, List.cons.injEq] at hrest
  obtain ⟨rfl, rfl⟩ := hrest
  exact ⟨by rw [hp, List.getElem?_eq_getElem hlt], fun _ => ⟨p + 1, l.nextKey_getElem hlt, rfl⟩⟩

/-- A variable under another GUID is skipped. -/
theorem nextQueueVariable_cons_of_ne {g : G} {r : Option (EfiStatus × Option (QueueCursor G))}
    (hk : k.guid ≠ g) : NextQueueVariable l g (k :: rest) r ↔ NextQueueVariable l g rest r := by
  unfold NextQueueVariable
  rw [List.filter_cons_of_neg (by simpa using hk)]

section Loop

variable {env : QueueEnv} {g : G}

/-- At the end of the walk, `EFI_NOT_FOUND`. -/
theorem getNextQueueVariableNameLoop_of_nil (h : Walks l c []) (fuel : Nat) :
    getNextQueueVariableNameLoop env l g (fuel + 1) c = some (.notFound, some c) := by
  rw [getNextQueueVariableNameLoop, VariableList.getNextVariableName_of_none h.nextKey_of_nil]
  simp [EfiStatus.isError]

/-- A buffer that holds the next name: one call of `GetNextVariableName` moves to it. -/
theorem getNextQueueVariableNameLoop_of_fits (h : Walks l c (k :: rest))
    (hfit : 2 * (k.name.length + 1) ≤ c.nameSize) (fuel : Nat) :
    getNextQueueVariableNameLoop env l g (fuel + 1) c =
      if k.guid = g then some (.success, some ⟨k.name, c.nameSize, k.guid⟩)
      else getNextQueueVariableNameLoop env l g fuel ⟨k.name, c.nameSize, k.guid⟩ := by
  have hsize : ¬ c.nameSize < 2 * (k.name.length + 1) := by omega
  rw [getNextQueueVariableNameLoop, VariableList.getNextVariableName_of_some h.cons.1, if_neg hsize]
  by_cases hg : k.guid = g <;> simp [hg, EfiStatus.isError]

/-- A buffer too small for the next name grows to its size, and the walk stays where it was. -/
theorem getNextQueueVariableNameLoop_of_lt (halloc : ∀ n, env.allocatePool n = true)
    (h : Walks l c (k :: rest)) (hsmall : c.nameSize < 2 * (k.name.length + 1)) (fuel : Nat) :
    getNextQueueVariableNameLoop env l g (fuel + 1) c =
      getNextQueueVariableNameLoop env l g fuel ⟨c.name, 2 * (k.name.length + 1), c.guid⟩ := by
  rw [getNextQueueVariableNameLoop, VariableList.getNextVariableName_of_some h.cons.1, if_pos hsmall]
  simp [halloc]

/-- Past one variable of the walk within two passes, whatever the buffer's size. -/
theorem getNextQueueVariableNameLoop_cons (halloc : ∀ n, env.allocatePool n = true)
    (h : Walks l c (k :: rest)) :
    ∃ nameSize, ∀ fuel, 2 ≤ fuel → ∃ fuel', fuel - 2 ≤ fuel' ∧
      getNextQueueVariableNameLoop env l g fuel c =
        if k.guid = g then some (.success, some ⟨k.name, nameSize, k.guid⟩)
        else getNextQueueVariableNameLoop env l g fuel' ⟨k.name, nameSize, k.guid⟩ := by
  by_cases hfit : 2 * (k.name.length + 1) ≤ c.nameSize
  · refine ⟨c.nameSize, fun fuel hfuel => ?_⟩
    obtain ⟨f, rfl⟩ : ∃ f, fuel = f + 1 := ⟨fuel - 1, by omega⟩
    exact ⟨f, by omega, getNextQueueVariableNameLoop_of_fits h hfit f⟩
  · -- one pass grows the buffer, the next moves on
    refine ⟨2 * (k.name.length + 1), fun fuel hfuel => ?_⟩
    obtain ⟨f, rfl⟩ : ∃ f, fuel = f + 2 := ⟨fuel - 2, by omega⟩
    refine ⟨f, by omega, ?_⟩
    rw [getNextQueueVariableNameLoop_of_lt halloc h (by omega) (f + 1)]
    exact getNextQueueVariableNameLoop_of_fits (c := ⟨c.name, 2 * (k.name.length + 1), c.guid⟩) h
      (Nat.le_refl _) f

/-- The loop of `GetNextQueueVariableName` with enough passes is one step of the walk. -/
theorem getNextQueueVariableNameLoop_walk (halloc : ∀ n, env.allocatePool n = true) :
    ∀ (rest : List (VariableKey G)) (c : QueueCursor G) (fuel : Nat), Walks l c rest →
      2 * rest.length + 1 ≤ fuel →
        NextQueueVariable l g rest (getNextQueueVariableNameLoop env l g fuel c) := by
  intro rest
  induction rest with
  | nil =>
      intro c fuel h hfuel
      obtain ⟨f, rfl⟩ : ∃ f, fuel = f + 1 := ⟨fuel - 1, by omega⟩
      rw [getNextQueueVariableNameLoop_of_nil h]
      exact ⟨_, rfl⟩
  | cons k rest ih =>
      intro c fuel h hfuel
      rw [List.length_cons] at hfuel
      obtain ⟨nameSize, hstep⟩ := getNextQueueVariableNameLoop_cons halloc h
      obtain ⟨fuel', hfuel', heq⟩ := hstep fuel (by omega)
      have hnext := h.cons.2 nameSize
      rw [heq]
      by_cases hg : k.guid = g
      · -- the variable is the queue's: the call stops on it
        rw [if_pos hg]
        unfold NextQueueVariable
        rw [List.filter_cons_of_pos (by simpa using hg)]
        exact ⟨_, rest, rfl, rfl, hnext, rfl⟩
      · rw [if_neg hg, nextQueueVariable_cons_of_ne hg]
        exact ih _ fuel' hnext (by omega)

/-- **`GetNextQueueVariableName`**, when every allocation succeeds, is one step of the walk. -/
theorem getNextQueueVariableName_walk (halloc : ∀ n, env.allocatePool n = true)
    {cursor : Option (QueueCursor G)} (h : CursorWalks l cursor rest) :
    NextQueueVariable l g rest (getNextQueueVariableName env l cursor g) := by
  have hlen := h.length_le
  cases cursor with
  | none =>
      rw [getNextQueueVariableName, if_pos (halloc 60)]
      rw [show rest = l.keys from h]
      exact getNextQueueVariableNameLoop_walk halloc _ _ _ (walks_start l 60 g)
        (by unfold walkFuel; omega)
  | some c =>
      exact getNextQueueVariableNameLoop_walk halloc _ _ _ h (by unfold walkFuel; omega)

end Loop

/-! ## The callers' loops -/

/-- `MAX (VarMaxId, VarCurrentId)` over IDs below a bound stays below it. -/
theorem foldl_max_lt {b init : Nat} {ids : List Nat} (hinit : init < b) (hids : ∀ x ∈ ids, x < b) :
    ids.foldl max init < b := by
  induction ids generalizing init with
  | nil => exact hinit
  | cons x ids ih =>
      rw [List.foldl_cons]
      exact ih (Nat.max_lt.mpr ⟨hinit, hids x List.mem_cons_self⟩)
        fun y hy => hids y (List.mem_cons_of_mem x hy)

/-- Every ID read is at most their `MAX`. -/
theorem le_foldl_max_of_mem {x init : Nat} {ids : List Nat} (hx : x ∈ ids) : x ≤ ids.foldl max init := by
  induction ids generalizing init with
  | nil => exact absurd hx List.not_mem_nil
  | cons y ids ih =>
      rw [List.foldl_cons]
      rcases List.mem_cons.mp hx with rfl | hx
      · -- the accumulator only grows from here
        have hgrow : ∀ (zs : List Nat) (a : Nat), a ≤ zs.foldl max a := by
          intro zs
          induction zs with
          | nil => exact fun a => Nat.le_refl a
          | cons z zs ihz => exact fun a => (Nat.le_max_left a z).trans (ihz (max a z))
        exact (Nat.le_max_right init x).trans (hgrow ids _)
      · exact ih hx

/-- A queue variable's name read back: the numeral of an ID below `DEFAULT_QUEUE_MODULO`. -/
theorem getIdFromVarName_decimalString {rsizeMax id : Nat} (hid : id < defaultQueueModulo)
    (hrsize : rsizeMax = 0 ∨ 5 ≤ rsizeMax) : getIdFromVarName rsizeMax (decimalString id) = .ok id := by
  have hlen : (decimalString id).length ≤ 5 :=
    length_decimalString_le (by simpa [defaultQueueModulo] using hid) (by decide)
  have hle : numeric (decimalString id) 0 ≤ maxUintn := by
    rw [numeric_decimalString]
    simp only [defaultQueueModulo] at hid
    simp only [maxUintn]
    omega
  have h := @strDecimalToUintnS_of_digits rsizeMax (decimalString id) (decimalString_digits id)
    (by omega) hle
  rw [numeric_decimalString] at h
  simp [getIdFromVarName, h, EfiStatus.isError]

section Callers

variable {env : QueueEnv} {g : G} {l : VariableList G} {rest : List (VariableKey G)}
  {cursor : Option (QueueCursor G)}

theorem getNextQueueVariableName_of_filter_nil (halloc : ∀ n, env.allocatePool n = true)
    (h : CursorWalks l cursor rest) (hks : rest.filter (·.guid = g) = []) :
    ∃ c, getNextQueueVariableName env l cursor g = some (.notFound, c) := by
  have hnext := getNextQueueVariableName_walk halloc (g := g) h
  unfold NextQueueVariable at hnext
  rwa [hks] at hnext

theorem getNextQueueVariableName_of_filter_cons (halloc : ∀ n, env.allocatePool n = true)
    {k : VariableKey G} {ks : List (VariableKey G)} (h : CursorWalks l cursor rest)
    (hks : rest.filter (·.guid = g) = k :: ks) :
    ∃ c post, getNextQueueVariableName env l cursor g = some (.success, some c) ∧
      (⟨c.name, c.guid⟩ : VariableKey G) = k ∧ Walks l c post ∧ post.filter (·.guid = g) = ks := by
  have hnext := getNextQueueVariableName_walk halloc (g := g) h
  unfold NextQueueVariable at hnext
  rwa [hks] at hnext

/-- The count loop from before `rest` counts the variables of `rest` under the GUID. -/
theorem getQueueItemCountLoop_walk (halloc : ∀ n, env.allocatePool n = true) :
    ∀ (ks rest : List (VariableKey G)) (cursor : Option (QueueCursor G)) (count fuel : Nat),
      CursorWalks l cursor rest → rest.filter (·.guid = g) = ks → ks.length + 1 ≤ fuel →
        getQueueItemCountLoop env l g fuel cursor count = some (.notFound, count + ks.length) := by
  intro ks
  induction ks with
  | nil =>
      intro rest cursor count fuel h hks hfuel
      obtain ⟨f, rfl⟩ : ∃ f, fuel = f + 1 := ⟨fuel - 1, by omega⟩
      obtain ⟨c, hr⟩ := getNextQueueVariableName_of_filter_nil halloc h hks
      rw [getQueueItemCountLoop, hr]
      simp [EfiStatus.isError]
  | cons k ks ih =>
      intro rest cursor count fuel h hks hfuel
      obtain ⟨f, rfl⟩ : ∃ f, fuel = f + 1 := ⟨fuel - 1, by omega⟩
      obtain ⟨c, post, hr, -, hw, hpost⟩ := getNextQueueVariableName_of_filter_cons halloc h hks
      rw [getQueueItemCountLoop, hr]
      simp only [EfiStatus.isError, Bool.false_eq_true, ↓reduceIte]
      rw [ih post (some c) (count + 1) f hw hpost (by simp at hfuel; omega), List.length_cons]
      congr 2
      omega

/-- **`GetQueueItemCount`** counts the variables under the GUID. -/
theorem getQueueItemCount_eq (halloc : ∀ n, env.allocatePool n = true) (l : VariableList G) (g : G) :
    getQueueItemCount env l g = some (.success, (l.keys.filter (·.guid = g)).length) := by
  have hlen := List.length_filter_le (·.guid = g) l.keys
  rw [getQueueItemCount, getQueueItemCountLoop_walk halloc _ l.keys none 0 _ rfl rfl (by omega)]
  simp

/-- The ID loop of `QueueAddItem` from before `rest`, on a queue whose names are numerals of IDs
below `DEFAULT_QUEUE_MODULO`, reads the largest of them. -/
theorem queueAddItemLoop_walk (halloc : ∀ n, env.allocatePool n = true)
    (hrsize : env.rsizeMax = 0 ∨ 5 ≤ env.rsizeMax) :
    ∀ (ks rest : List (VariableKey G)) (cursor : Option (QueueCursor G)) (varMaxId fuel : Nat),
      CursorWalks l cursor rest → rest.filter (·.guid = g) = ks →
        (∀ k ∈ ks, ∃ id, id < defaultQueueModulo ∧ k.name = decimalString id) → ks.length + 1 ≤ fuel →
          queueAddItemLoop env l g fuel cursor varMaxId =
            some (.success, (ks.map fun k => numeric k.name 0).foldl max varMaxId) := by
  intro ks
  induction ks with
  | nil =>
      intro rest cursor varMaxId fuel h hks _ hfuel
      obtain ⟨f, rfl⟩ : ∃ f, fuel = f + 1 := ⟨fuel - 1, by omega⟩
      obtain ⟨c, hr⟩ := getNextQueueVariableName_of_filter_nil halloc h hks
      rw [queueAddItemLoop, hr]
      simp
  | cons k ks ih =>
      intro rest cursor varMaxId fuel h hks hids hfuel
      obtain ⟨f, rfl⟩ : ∃ f, fuel = f + 1 := ⟨fuel - 1, by omega⟩
      obtain ⟨c, post, hr, hk, hw, hpost⟩ := getNextQueueVariableName_of_filter_cons halloc h hks
      obtain ⟨id, hid, hname⟩ := hids k List.mem_cons_self
      -- the name the walk stops on is the numeral of the variable's ID
      have hcname : c.name = decimalString id := by rw [← hname, ← hk]
      rw [queueAddItemLoop, hr]
      simp only [reduceCtorEq, ↓reduceIte, EfiStatus.isError, Bool.false_eq_true]
      rw [hcname, getIdFromVarName_decimalString hid hrsize]
      simp only
      rw [ih post (some c) _ f hw hpost (fun x hx => hids x (List.mem_cons_of_mem k hx))
        (by simp at hfuel; omega)]
      rw [List.map_cons, List.foldl_cons, hname, numeric_decimalString]

/-- What the find loop returns for `k?`, the variable at the index among those ahead under the
GUID: `EFI_SUCCESS` on it, or `EFI_NOT_FOUND` past the last. -/
def FoundQueueVariable (r : Option (EfiStatus × Option (QueueCursor G))) :
    Option (VariableKey G) → Prop
  | none => ∃ c, r = some (.notFound, c)
  | some k => ∃ c, r = some (.success, some c) ∧ (⟨c.name, c.guid⟩ : VariableKey G) = k

theorem queueFindItem_of_filter_nil (halloc : ∀ n, env.allocatePool n = true)
    (h : CursorWalks l cursor rest) (hks : rest.filter (·.guid = g) = []) (remaining : Nat) :
    ∃ c, queueFindItem env l g cursor remaining = some (.notFound, c) := by
  obtain ⟨c, hr⟩ := getNextQueueVariableName_of_filter_nil halloc h hks
  refine ⟨c, ?_⟩
  rw [queueFindItem, hr]
  simp [EfiStatus.isError]

/-- The find loop of `QueuePopItemAtIndex` and `QueuePeekAtIndex` from before `rest` stops on the
variable at index `remaining` among those of `rest` under the GUID. -/
theorem queueFindItem_walk (halloc : ∀ n, env.allocatePool n = true) :
    ∀ (remaining : Nat) (ks rest : List (VariableKey G)) (cursor : Option (QueueCursor G)),
      CursorWalks l cursor rest → rest.filter (·.guid = g) = ks →
        FoundQueueVariable (queueFindItem env l g cursor remaining) ks[remaining]? := by
  intro remaining
  induction remaining with
  | zero =>
      intro ks rest cursor h hks
      cases ks with
      | nil => exact queueFindItem_of_filter_nil halloc h hks 0
      | cons k ks =>
          obtain ⟨c, post, hr, hk, -, -⟩ := getNextQueueVariableName_of_filter_cons halloc h hks
          refine ⟨c, ?_, hk⟩
          rw [queueFindItem, hr]
          simp [EfiStatus.isError]
  | succ remaining ih =>
      intro ks rest cursor h hks
      cases ks with
      | nil => exact queueFindItem_of_filter_nil halloc h hks _
      | cons k ks =>
          -- the call stops on `k`, and the next `remaining` calls go on from after it
          obtain ⟨c, post, hr, -, hw, hpost⟩ := getNextQueueVariableName_of_filter_cons halloc h hks
          rw [queueFindItem, hr, List.getElem?_cons_succ]
          simpa [EfiStatus.isError] using ih ks post (some c) hw hpost

/-- The variable the find loop stops on, under the GUID the callers look it up by. -/
theorem found_key {c : QueueCursor G} {k : VariableKey G} (hc : (⟨c.name, c.guid⟩ : VariableKey G) = k)
    (hk : k ∈ l.keys.filter (·.guid = g)) : (⟨c.name, g⟩ : VariableKey G) = k := by
  have hguid : c.guid = g := by
    rw [show c.guid = k.guid from congrArg VariableKey.guid hc]
    simpa using (List.mem_filter.mp hk).2
  rw [← hguid]
  exact hc

/-- The find loop from the start of the walk, on the variable at the index. -/
theorem queueFindItem_of_lt (halloc : ∀ n, env.allocatePool n = true) {itemIndex : Nat}
    (h : itemIndex < (l.keys.filter (·.guid = g)).length) :
    ∃ c, queueFindItem env l g none itemIndex = some (.success, some c) ∧
      (⟨c.name, g⟩ : VariableKey G) = (l.keys.filter (·.guid = g))[itemIndex] := by
  have hfound := queueFindItem_walk halloc (g := g) itemIndex _ l.keys none rfl rfl
  rw [List.getElem?_eq_getElem h] at hfound
  obtain ⟨c, hr, hc⟩ := hfound
  exact ⟨c, hr, found_key hc (List.getElem_mem h)⟩

/-- The find loop from the start of the walk, past the last variable under the GUID. -/
theorem queueFindItem_of_le (halloc : ∀ n, env.allocatePool n = true) {itemIndex : Nat}
    (h : (l.keys.filter (·.guid = g)).length ≤ itemIndex) :
    ∃ c, queueFindItem env l g none itemIndex = some (.notFound, c) := by
  have hfound := queueFindItem_walk halloc (g := g) itemIndex _ l.keys none rfl rfl
  rwa [List.getElem?_eq_none h] at hfound

/-- **`QueuePeekAtIndex`** returns the data of the variable at the index among those under the
GUID. -/
theorem queuePeekAtIndex_of_lt (halloc : ∀ n, env.allocatePool n = true) {itemIndex : Nat}
    (h : itemIndex < (l.keys.filter (·.guid = g)).length) {v : StoredVariable}
    (hv : l.lookup (l.keys.filter (·.guid = g))[itemIndex] = some v) :
    queuePeekAtIndex env l g itemIndex = some (.success, some v.data) := by
  obtain ⟨c, hr, hkey⟩ := queueFindItem_of_lt halloc h
  rw [queuePeekAtIndex, hr]
  simp only [EfiStatus.isError, Bool.false_eq_true, ↓reduceIte]
  rw [hkey, VariableList.getVariable_of_lookup hv, VariableList.getVariable_of_lookup hv]
  -- an empty variable reads at once, any other after its size is asked for
  by_cases hlen : 0 < v.data.length <;> simp [hlen, halloc]

/-- Past the last variable under the GUID, `QueuePeekAtIndex` returns `EFI_NOT_FOUND`. -/
theorem queuePeekAtIndex_of_le (halloc : ∀ n, env.allocatePool n = true) {itemIndex : Nat}
    (h : (l.keys.filter (·.guid = g)).length ≤ itemIndex) :
    queuePeekAtIndex env l g itemIndex = some (.notFound, none) := by
  obtain ⟨c, hr⟩ := queueFindItem_of_le halloc h
  rw [queuePeekAtIndex, hr]
  simp [EfiStatus.isError]

/-- **`QueuePopItemAtIndex`** deletes the variable at the index among those under the GUID and
returns its data when asked to. -/
theorem queuePopItemAtIndex_of_lt (halloc : ∀ n, env.allocatePool n = true) {itemIndex : Nat}
    (h : itemIndex < (l.keys.filter (·.guid = g)).length) {v : StoredVariable}
    (hv : l.lookup (l.keys.filter (·.guid = g))[itemIndex] = some v) (hdata : v.data ≠ [])
    (wantData : Bool) :
    queuePopItemAtIndex env l g itemIndex wantData =
      some (.success, if wantData then some v.data else none,
        l.erase (l.keys.filter (·.guid = g))[itemIndex]) := by
  obtain ⟨c, hr, hkey⟩ := queueFindItem_of_lt halloc h
  have hmem : (l.keys.filter (·.guid = g))[itemIndex] ∈ l.keys :=
    List.mem_of_mem_filter (List.getElem_mem h)
  have hlen : 0 < v.data.length := List.length_pos_iff.mpr hdata
  rw [queuePopItemAtIndex, hr]
  simp only [EfiStatus.isError, Bool.false_eq_true, ↓reduceIte]
  rw [hkey, VariableList.setVariable_delete_of_mem hmem, VariableList.getVariable_of_lookup hv,
    VariableList.getVariable_of_lookup hv]
  cases wantData <;> simp [hlen, halloc]

/-- Past the last variable under the GUID, `QueuePopItemAtIndex` returns `EFI_NOT_FOUND` and
changes nothing. -/
theorem queuePopItemAtIndex_of_le (halloc : ∀ n, env.allocatePool n = true) {itemIndex : Nat}
    (h : (l.keys.filter (·.guid = g)).length ≤ itemIndex) (wantData : Bool) :
    queuePopItemAtIndex env l g itemIndex wantData = some (.notFound, none, l) := by
  obtain ⟨c, hr⟩ := queueFindItem_of_le halloc h
  rw [queuePopItemAtIndex, hr]
  simp [EfiStatus.isError]

/-- **`QueueAddItem`** on a queue whose names are numerals of IDs below `DEFAULT_QUEUE_MODULO`:
with `m` the largest ID the walk reads, `EFI_OUT_OF_RESOURCES` when `m + 1` reaches the modulo,
and otherwise the `SetVariable` of the data under the numeral of `m + 1`. -/
theorem queueAddItem_eq (halloc : ∀ n, env.allocatePool n = true)
    (hrsize : env.rsizeMax = 0 ∨ 5 ≤ env.rsizeMax)
    (hids : ∀ k ∈ l.keys.filter (·.guid = g), ∃ id, id < defaultQueueModulo ∧ k.name = decimalString id)
    (itemData : List UInt8) :
    queueAddItem env l g itemData =
      if defaultQueueModulo ≤ ((l.keys.filter (·.guid = g)).map fun k => numeric k.name 0).foldl max 0 + 1
      then some (.outOfResources, l)
      else some (l.setVariable
        ⟨decimalString (((l.keys.filter (·.guid = g)).map fun k => numeric k.name 0).foldl max 0 + 1), g⟩
        defaultQueueVarAttr itemData) := by
  have hlen := List.length_filter_le (·.guid = g) l.keys
  -- the largest ID is below the modulo, so adding one never wraps the `UINTN`
  have hmax : ((l.keys.filter (·.guid = g)).map fun k => numeric k.name 0).foldl max 0 < defaultQueueModulo := by
    refine foldl_max_lt (by decide) fun x hx => ?_
    obtain ⟨k, hk, rfl⟩ := List.mem_map.mp hx
    obtain ⟨id, hid, hname⟩ := hids k hk
    rw [hname, numeric_decimalString]
    exact hid
  have hwrap : (((l.keys.filter (·.guid = g)).map fun k => numeric k.name 0).foldl max 0 + 1) %
      (maxUintn + 1) = ((l.keys.filter (·.guid = g)).map fun k => numeric k.name 0).foldl max 0 + 1 := by
    apply Nat.mod_eq_of_lt
    simp only [defaultQueueModulo] at hmax
    simp only [maxUintn]
    omega
  rw [queueAddItem, queueAddItemLoop_walk halloc hrsize _ l.keys none 0 _ rfl rfl hids (by omega)]
  simp only [EfiStatus.isError, Bool.false_eq_true, ↓reduceIte, hwrap]
  split_ifs with hmod
  · rfl
  · -- `GenerateVarName` writes the whole numeral: at most five digits fit its 12 bytes
    have hdigits : (decimalString (((l.keys.filter (·.guid = g)).map fun k => numeric k.name 0).foldl max 0 + 1)).length ≤ 5 :=
      length_decimalString_le (by simp only [defaultQueueModulo] at hmod; omega) (by decide)
    simp [generateVarName, defaultQueueVarNameSize, List.take_of_length_le hdigits]

end Callers

/-! ## The library as a machine -/

/-- A call of the library on one queue. -/
inductive QueueOp
  | getQueueItemCount
  | queueAddItem (itemData : List UInt8)
  | queuePopItemAtIndex (itemIndex : Nat) (wantData : Bool)
  | queuePopItem (wantData : Bool)
  | queuePeekAtIndex (itemIndex : Nat)
  deriving DecidableEq, Repr

/-- What a call returns: its status, `*ItemCount` of `GetQueueItemCount`, and the item's data
from a peek or from a pop that asked for it. -/
structure QueueAnswer where
  status : EfiStatus
  itemCount : Option Nat
  itemData : Option (List UInt8)
  deriving DecidableEq, Repr

/-- What a pop returns, as an answer and the store after it. -/
def popAnswer (l : VariableList G) :
    Option (EfiStatus × Option (List UInt8) × VariableList G) → Option QueueAnswer × VariableList G
  | none => (none, l)
  | some r => (some ⟨r.1, none, r.2.1⟩, r.2.2)

/-- The library's calls on the queue `queueGuid`, as one machine over the store. -/
def queueStep (env : QueueEnv) (queueGuid : G) (l : VariableList G) :
    QueueOp → Option QueueAnswer × VariableList G
  | .getQueueItemCount =>
      ((getQueueItemCount env l queueGuid).map fun r => ⟨r.1, some r.2, none⟩, l)
  | .queueAddItem itemData =>
      match queueAddItem env l queueGuid itemData with
      | none => (none, l)
      | some r => (some ⟨r.1, none, none⟩, r.2)
  | .queuePopItemAtIndex itemIndex wantData =>
      popAnswer l (queuePopItemAtIndex env l queueGuid itemIndex wantData)
  | .queuePopItem wantData => popAnswer l (queuePopItem env l queueGuid wantData)
  | .queuePeekAtIndex itemIndex =>
      ((queuePeekAtIndex env l queueGuid itemIndex).map fun r => ⟨r.1, none, r.2⟩, l)

end MuPlus.Queue
