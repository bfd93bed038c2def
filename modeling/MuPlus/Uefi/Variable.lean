import MuPlus.Uefi.Status

/-!
# MuPlus.Uefi.Variable

**The UEFI variable store** as `GetVariable` and `SetVariable` see it
(`MdeModulePkg/Universal/Variable/RuntimeDxe/Variable.c`): a map from variable
names to their attributes and data.

`GetVariable (Name, &Attributes, &DataSize, Data)` returns `EFI_NOT_FOUND` for a
missing variable; `EFI_BUFFER_TOO_SMALL` with the attributes and the size needed
when `DataSize` is below the variable's size; and otherwise `EFI_SUCCESS` with
the attributes, the size and the data. `SetVariable` with no data deletes the
variable (`EFI_NOT_FOUND` when there is none) and otherwise writes it. A write can
also fail (flash full, a variable policy that write-protects the variable); a
failed write leaves the store as it was.

Variable names are a type parameter; the vendor GUID is part of the name.
-/

namespace MuPlus

/-- What `GetVariable` leaves in its out-parameters: the status, `*Attributes`,
`*DataSize`, and the bytes copied to `Data`. -/
structure GetVariableResult where
  status : EfiStatus
  attributes : UInt32
  dataSize : Nat
  data : List UInt8
  deriving DecidableEq, Repr

/-- A variable in the store. -/
structure StoredVariable where
  attributes : UInt32
  data : List UInt8
  deriving DecidableEq, Repr

/-- The variable store: each name holds a variable or none. -/
abbrev VariableStore (N : Type) := N → Option StoredVariable

namespace VariableStore

variable {N : Type} [DecidableEq N]

/-- `GetVariable` of `name` into a buffer of `dataSize` bytes. On `EFI_NOT_FOUND`
the out-parameters are not written: `*DataSize` stays `dataSize`, and no caller
reads the attributes then. -/
def getVariable (store : VariableStore N) (name : N) (dataSize : Nat) : GetVariableResult :=
  match store name with
  | none => ⟨.notFound, 0, dataSize, []⟩
  | some v =>
      if dataSize < v.data.length then ⟨.bufferTooSmall, v.attributes, v.data.length, []⟩
      else ⟨.success, v.attributes, v.data.length, v.data⟩

omit [DecidableEq N] in
/-- A read that finds the variable reports its attributes and size, and a
successful one its data. -/
theorem getVariable_of_ne_notFound {store : VariableStore N} {name : N} {dataSize : Nat}
    (h : (store.getVariable name dataSize).status ≠ .notFound) :
    ∃ v, store name = some v ∧ (store.getVariable name dataSize).attributes = v.attributes ∧
      (store.getVariable name dataSize).dataSize = v.data.length ∧
      ((store.getVariable name dataSize).status = .success →
        (store.getVariable name dataSize).data = v.data) := by
  unfold getVariable at h ⊢
  cases hv : store name with
  | none => simp [hv] at h
  | some v =>
      refine ⟨v, rfl, ?_⟩
      by_cases hsize : dataSize < v.data.length <;> simp [hsize]

/-- `SetVariable` of `name` when the write goes through: the status and the new
store. -/
def setVariable (store : VariableStore N) (name : N) (attributes : UInt32) (data : List UInt8) :
    EfiStatus × VariableStore N :=
  if data = [] then
    match store name with
    | none => (.notFound, store)
    | some _ => (.success, Function.update store name none)
  else (.success, Function.update store name (some ⟨attributes, data⟩))

/-- The answers a `SetVariable` can get: the store's own, or any error with the
store unchanged. -/
def SetVariableAnswer (store : VariableStore N) (name : N) (attributes : UInt32)
    (data : List UInt8) (status : EfiStatus) (store' : VariableStore N) : Prop :=
  (status, store') = store.setVariable name attributes data ∨ (status.isError ∧ store' = store)

@[simp] theorem setVariable_of_ne {store : VariableStore N} {name name' : N} (h : name' ≠ name)
    (attributes : UInt32) (data : List UInt8) :
    (store.setVariable name attributes data).2 name' = store name' := by
  unfold setVariable
  split_ifs
  · split <;> simp [Function.update_of_ne h]
  · simp [Function.update_of_ne h]

/-- A write of data that goes through stores exactly that data. -/
theorem setVariable_self {store : VariableStore N} {name : N} {attributes : UInt32}
    {data : List UInt8} (h : data ≠ []) :
    store.setVariable name attributes data = (.success, Function.update store name (some ⟨attributes, data⟩)) := by
  simp [setVariable, h]

/-- Every answer to a `SetVariable` leaves the other variables alone. -/
theorem SetVariableAnswer.of_ne {store store' : VariableStore N} {name name' : N}
    {attributes : UInt32} {data : List UInt8} {status : EfiStatus}
    (h : SetVariableAnswer store name attributes data status store') (hne : name' ≠ name) :
    store' name' = store name' := by
  rcases h with h | ⟨-, rfl⟩
  · have h₂ : store' = (store.setVariable name attributes data).2 := congrArg Prod.snd h
    rw [h₂, setVariable_of_ne hne]
  · rfl

/-- A write of data either goes through and stores it, or fails and changes
nothing. -/
theorem SetVariableAnswer.of_data {store store' : VariableStore N} {name : N}
    {attributes : UInt32} {data : List UInt8} {status : EfiStatus}
    (h : SetVariableAnswer store name attributes data status store') (hdata : data ≠ []) :
    (status = .success ∧ store' name = some ⟨attributes, data⟩) ∨ (status ≠ .success ∧ store' = store) := by
  rcases h with h | ⟨herr, rfl⟩
  · rw [setVariable_self hdata, Prod.mk.injEq] at h
    obtain ⟨rfl, rfl⟩ := h
    exact .inl ⟨rfl, by simp⟩
  · refine .inr ⟨?_, rfl⟩
    rintro rfl
    cases herr

end VariableStore

end MuPlus
