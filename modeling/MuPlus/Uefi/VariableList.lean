import MuPlus.Uefi.Variable
import MuPlus.Lib.KeyedList

/-!
# MuPlus.Uefi.VariableList

**The variable store as `GetNextVariableName` walks it**: the variables in the order they were
created, each under its name and vendor GUID. `GetVariable` and `SetVariable` are those of
`MuPlus.Uefi.Variable` on this store; `SetVariable` refuses an empty name, deletes a variable
when given no data, replaces a variable's data in place and creates a new variable at the end
of the walk. The store accepts every write.

`GetNextVariableName (&VariableNameSize, VariableName, &VendorGuid)` starts the walk at an
empty name and otherwise returns the variable after the one named: `EFI_NOT_FOUND` past the
last, `EFI_INVALID_PARAMETER` for a name and GUID that are no variable's, and
`EFI_BUFFER_TOO_SMALL`, with the size needed, when the buffer cannot hold the name and its NUL.
On success `*VariableNameSize` is set to that size as well.

A key appears once in the store and no name is empty; `VariableList` carries both as fields.
-/

namespace MuPlus

/-- A variable's `VariableName` (its `CHAR16`s before the NUL) and `VendorGuid`. -/
structure VariableKey (G : Type) where
  name : List UInt16
  guid : G
  deriving DecidableEq, Repr

/-- The variables in the order of the walk, with their keys. -/
structure VariableList (G : Type) where
  entries : List (VariableKey G × StoredVariable)
  nodup : (entries.map Prod.fst).Nodup
  name_ne : ∀ e ∈ entries, e.1.name ≠ []

/-- What `GetNextVariableName` leaves: the status, `*VariableNameSize`, the name in the buffer
and `*VendorGuid`. -/
structure NextVariableName (G : Type) where
  status : EfiStatus
  nameSize : Nat
  name : List UInt16
  guid : G
  deriving DecidableEq, Repr

namespace VariableList

variable {G : Type} [DecidableEq G]

/-- The store with no variables. -/
def empty : VariableList G := ⟨[], List.nodup_nil, fun _ h => absurd h List.not_mem_nil⟩

/-- The keys in the order of the walk. -/
def keys (l : VariableList G) : List (VariableKey G) :=
  l.entries.map Prod.fst

/-- The variable under a key. -/
def lookup (l : VariableList G) (k : VariableKey G) : Option StoredVariable :=
  (l.entries.find? fun e => e.1 = k).map Prod.snd

/-- `GetVariable (VariableName, VendorGuid, &Attributes, &DataSize, Data)`. -/
def getVariable (l : VariableList G) (k : VariableKey G) (dataSize : Nat) : GetVariableResult :=
  VariableStore.getVariable l.lookup k dataSize

/-- The store without the variable under `k`. -/
def erase (l : VariableList G) (k : VariableKey G) : VariableList G where
  entries := l.entries.filter fun e => e.1 ≠ k
  nodup := l.nodup.sublist (List.Sublist.map Prod.fst List.filter_sublist)
  name_ne := fun e he => l.name_ne e (List.mem_of_mem_filter he)

/-- The store with the data of the variable under `k` replaced in place. -/
def replace (l : VariableList G) (k : VariableKey G) (v : StoredVariable) : VariableList G where
  entries := l.entries.map fun e => if e.1 = k then (e.1, v) else e
  nodup := by
    have hkeys : ((l.entries.map fun e => if e.1 = k then (e.1, v) else e).map Prod.fst) =
        l.entries.map Prod.fst := by
      rw [List.map_map]
      refine List.map_congr_left fun e _ => ?_
      by_cases he : e.1 = k <;> simp [he]
    rw [hkeys]
    exact l.nodup
  name_ne := by
    intro e he
    obtain ⟨e', he', rfl⟩ := List.mem_map.mp he
    by_cases hk : e'.1 = k
    · simpa [hk] using l.name_ne e' he'
    · simpa [hk] using l.name_ne e' he'

/-- The store with a new variable at the end of the walk. -/
def push (l : VariableList G) (k : VariableKey G) (v : StoredVariable) (hk : k ∉ l.keys)
    (hname : k.name ≠ []) : VariableList G where
  entries := l.entries ++ [(k, v)]
  nodup := by
    rw [List.map_append, List.nodup_append]
    exact ⟨l.nodup, by simp, fun a ha b hb => by
      simp only [List.map_cons, List.map_nil, List.mem_singleton] at hb
      rintro rfl
      exact hk (hb ▸ ha)⟩
  name_ne := by
    intro e he
    rcases List.mem_append.mp he with he | he
    · exact l.name_ne e he
    · rw [List.mem_singleton.mp he]
      exact hname

/-- `SetVariable (VariableName, VendorGuid, Attributes, DataSize, Data)`. -/
def setVariable (l : VariableList G) (k : VariableKey G) (attributes : UInt32)
    (data : List UInt8) : EfiStatus × VariableList G :=
  if hname : k.name = [] then (.invalidParameter, l)
  else if data = [] then
    if k ∈ l.keys then (.success, l.erase k) else (.notFound, l)
  else if hk : k ∈ l.keys then (.success, l.replace k ⟨attributes, data⟩)
  else (.success, l.push k ⟨attributes, data⟩ hk hname)

/-- The key after `(name, guid)` in the walk, the first for an empty name, `none` past the
last; a name and GUID that are no variable's are refused. -/
def nextKey (l : VariableList G) (name : List UInt16) (guid : G) :
    Except EfiStatus (Option (VariableKey G)) :=
  if name = [] then .ok l.keys.head?
  else
    match l.keys.idxOf? ⟨name, guid⟩ with
    | none => .error .invalidParameter
    | some i => .ok l.keys[i + 1]?

/-- `GetNextVariableName (&VariableNameSize, VariableName, &VendorGuid)` with a buffer of
`nameSize` bytes that holds `name`. -/
def getNextVariableName (l : VariableList G) (nameSize : Nat) (name : List UInt16) (guid : G) :
    NextVariableName G :=
  match l.nextKey name guid with
  | .error status => ⟨status, nameSize, name, guid⟩
  | .ok none => ⟨.notFound, nameSize, name, guid⟩
  | .ok (some k) =>
      -- `StrSize` of the name: its `CHAR16`s and the NUL
      if nameSize < 2 * (k.name.length + 1) then
        ⟨.bufferTooSmall, 2 * (k.name.length + 1), name, guid⟩
      else ⟨.success, 2 * (k.name.length + 1), k.name, k.guid⟩

/-! ### Lookups -/

theorem lookup_eq_none_iff {l : VariableList G} {k : VariableKey G} :
    l.lookup k = none ↔ k ∉ l.keys := by
  simp only [lookup, keys, Option.map_eq_none_iff, List.find?_eq_none, decide_eq_true_eq,
    List.mem_map, not_exists, not_and]

/-- A variable of the store is found under its key. -/
theorem lookup_of_mem {l : VariableList G} {e : VariableKey G × StoredVariable} (he : e ∈ l.entries) :
    l.lookup e.1 = some e.2 := by
  rw [lookup, KeyedList.find?_key_of_nodup l.nodup he]
  rfl

theorem mem_keys_iff {l : VariableList G} {k : VariableKey G} :
    k ∈ l.keys ↔ ∃ v, l.lookup k = some v := by
  rw [← not_iff_not, not_exists, ← lookup_eq_none_iff]
  cases l.lookup k <;> simp

@[simp] theorem keys_erase (l : VariableList G) (k : VariableKey G) :
    (l.erase k).keys = l.keys.filter (· ≠ k) := by
  simp only [keys, erase]
  rw [List.filter_map]
  rfl

theorem lookup_erase_of_ne {l : VariableList G} {k k' : VariableKey G} (h : k' ≠ k) :
    (l.erase k).lookup k' = l.lookup k' := by
  simp only [lookup, erase]
  rw [List.find?_filter]
  congr 2
  funext e
  by_cases he : e.1 = k'
  · simp [he, h]
  · simp [he]

theorem lookup_erase_self (l : VariableList G) (k : VariableKey G) : (l.erase k).lookup k = none := by
  rw [lookup_eq_none_iff, keys_erase]
  simp

/-- `GetVariable` of a variable that is there: its size when the buffer is too small for its
data, and otherwise its data. -/
theorem getVariable_of_lookup {l : VariableList G} {k : VariableKey G} {v : StoredVariable}
    (hv : l.lookup k = some v) (dataSize : Nat) :
    l.getVariable k dataSize =
      if dataSize < v.data.length then ⟨.bufferTooSmall, v.attributes, v.data.length, []⟩
      else ⟨.success, v.attributes, v.data.length, v.data⟩ := by
  simp only [getVariable, VariableStore.getVariable, hv]

/-! ### Writes -/

/-- A new variable leaves every other where it was. -/
theorem lookup_push_of_ne {l : VariableList G} {k k' : VariableKey G} {v : StoredVariable}
    {hk : k ∉ l.keys} {hname : k.name ≠ []} (h : k' ≠ k) :
    (l.push k v hk hname).lookup k' = l.lookup k' := by
  have hlast : [(k, v)].find? (fun e => e.1 = k') = none := by simp [Ne.symm h]
  simp only [lookup, push, List.find?_append, hlast, Option.or_none]

/-- Deleting a variable that is not there changes nothing. -/
theorem setVariable_delete_of_not_mem {l : VariableList G} {k : VariableKey G}
    (hname : k.name ≠ []) (hk : k ∉ l.keys) (attributes : UInt32) :
    l.setVariable k attributes [] = (.notFound, l) := by
  simp [setVariable, hname, hk]

theorem setVariable_delete_of_mem {l : VariableList G} {k : VariableKey G} (hk : k ∈ l.keys)
    (attributes : UInt32) : l.setVariable k attributes [] = (.success, l.erase k) := by
  have hname : k.name ≠ [] := by
    obtain ⟨e, he, rfl⟩ := List.mem_map.mp hk
    exact l.name_ne e he
  simp [setVariable, hname, hk]

/-- Data under a new key creates the variable at the end of the walk. -/
theorem setVariable_of_not_mem {l : VariableList G} {k : VariableKey G} (hname : k.name ≠ [])
    (hk : k ∉ l.keys) {data : List UInt8} (hdata : data ≠ []) (attributes : UInt32) :
    l.setVariable k attributes data = (.success, l.push k ⟨attributes, data⟩ hk hname) := by
  simp [setVariable, hname, hk, hdata]

/-- A delete leaves every other variable as it was. -/
theorem lookup_setVariable_nil_of_ne {l : VariableList G} {k k' : VariableKey G} (h : k' ≠ k)
    (attributes : UInt32) : (l.setVariable k attributes []).2.lookup k' = l.lookup k' := by
  unfold setVariable
  by_cases hname : k.name = []
  · simp [hname]
  by_cases hk : k ∈ l.keys
  · simp [hname, hk, lookup_erase_of_ne h]
  · simp [hname, hk]

/-! ### The walk -/

/-- An empty name starts the walk at the first variable. -/
theorem nextKey_nil (l : VariableList G) (guid : G) : l.nextKey [] guid = .ok l.keys.head? := by
  simp [nextKey]

/-- From the key at position `i`, the walk goes on to position `i + 1`. -/
theorem nextKey_getElem (l : VariableList G) {i : Nat} (hi : i < l.keys.length) :
    l.nextKey l.keys[i].name l.keys[i].guid = .ok l.keys[i + 1]? := by
  have hname : l.keys[i].name ≠ [] := by
    have hmem : l.keys[i] ∈ l.keys := List.getElem_mem hi
    obtain ⟨e, he, hek⟩ := List.mem_map.mp hmem
    rw [← hek]
    exact l.name_ne e he
  -- the keys have no duplicates, so the key at `i` is found at `i`
  have hidx : l.keys.idxOf? ⟨l.keys[i].name, l.keys[i].guid⟩ = some i := by
    rw [List.idxOf?_eq_some_iff]
    refine ⟨hi, rfl, fun j hj => ?_⟩
    intro heq
    have := (List.Nodup.getElem_inj_iff l.nodup).mp heq.symm
    omega
  simp only [nextKey, hname, if_false, hidx]

/-- Past the last variable, `GetNextVariableName` returns `EFI_NOT_FOUND` and leaves its
arguments alone. -/
theorem getNextVariableName_of_none {l : VariableList G} {name : List UInt16} {guid : G}
    (h : l.nextKey name guid = .ok none) (nameSize : Nat) :
    l.getNextVariableName nameSize name guid = ⟨.notFound, nameSize, name, guid⟩ := by
  simp [getNextVariableName, h]

/-- On a next variable, `GetNextVariableName` asks for a larger buffer or returns it. -/
theorem getNextVariableName_of_some {l : VariableList G} {name : List UInt16} {guid : G}
    {k : VariableKey G} (h : l.nextKey name guid = .ok (some k)) (nameSize : Nat) :
    l.getNextVariableName nameSize name guid =
      if nameSize < 2 * (k.name.length + 1) then ⟨.bufferTooSmall, 2 * (k.name.length + 1), name, guid⟩
      else ⟨.success, 2 * (k.name.length + 1), k.name, k.guid⟩ := by
  simp [getNextVariableName, h]

end VariableList

end MuPlus
