import MuPlus.Queue.UefiVariable
import MuPlus.Lib.Machine

/-!
# MuPlus.Queue.Spec

**What the queue library implements**: a list of items, each an ID and its data, front first
(`queueSpec`). `GetQueueItemCount` is the list's length. `QueuePeekAtIndex` reads an item and
`QueuePopItemAtIndex` removes one, both with `EFI_NOT_FOUND` past the end. `QueueAddItem` appends
its data under the ID one past the largest, unless that ID reaches `DEFAULT_QUEUE_MODULO`. Of no
data it appends nothing: `SetVariable` with no data deletes, here a variable that is not there,
and the call returns `EFI_NOT_FOUND`.

`queueItems` reads the list off a store: the variables under the queue's GUID in the order of the
walk. On a `QueueStore`, where each of them is a variable the library wrote, every call of the
library is the call of `queueSpec` on that list (`queueStep_refines`). So every run of calls is
the run of `queueSpec`, with the same answers, and leaves the variables under other GUIDs alone
(`queueStep_run_refines`).
-/

namespace MuPlus.Queue

/-! ## The queue -/

/-- An item of the queue: its ID and its data. -/
structure QueueItem where
  id : Nat
  data : List UInt8
  deriving DecidableEq, Repr

/-- The largest ID in the queue, 0 in an empty one. -/
def maxId (items : List QueueItem) : Nat :=
  (items.map (·.id)).foldl max 0

/-- A pop of the item at `itemIndex`. -/
def queuePopSpec (items : List QueueItem) (itemIndex : Nat) (wantData : Bool) :
    QueueAnswer × List QueueItem :=
  if h : itemIndex < items.length then
    (⟨.success, none, if wantData then some items[itemIndex].data else none⟩,
      items.eraseIdx itemIndex)
  else (⟨.notFound, none, none⟩, items)

/-- **One call on the queue.** -/
def queueSpec (items : List QueueItem) : QueueOp → QueueAnswer × List QueueItem
  | .getQueueItemCount => (⟨.success, some items.length, none⟩, items)
  | .queueAddItem itemData =>
      if defaultQueueModulo ≤ maxId items + 1 then (⟨.outOfResources, none, none⟩, items)
      -- no data: a delete, of a variable that is not there
      else if itemData = [] then (⟨.notFound, none, none⟩, items)
      else (⟨.success, none, none⟩, items ++ [⟨maxId items + 1, itemData⟩])
  | .queuePopItemAtIndex itemIndex wantData => queuePopSpec items itemIndex wantData
  | .queuePopItem wantData => queuePopSpec items 0 wantData
  | .queuePeekAtIndex itemIndex =>
      if h : itemIndex < items.length then (⟨.success, none, some items[itemIndex].data⟩, items)
      else (⟨.notFound, none, none⟩, items)

/-! ## The queue a store holds -/

variable {G : Type} [DecidableEq G]

/-- The variables under the GUID `g` in the order of the walk, each as the ID its name is the
numeral of and its data. -/
def queueItems (g : G) (l : VariableList G) : List QueueItem :=
  (l.entries.filter (·.1.guid = g)).map fun e => ⟨numeric e.1.name 0, e.2.data⟩

/-- Every variable under the queue's GUID is one the library wrote. -/
structure QueueStore (g : G) (l : VariableList G) : Prop where
  /-- Its name is the numeral of an ID below `DEFAULT_QUEUE_MODULO`. -/
  name_eq : ∀ e ∈ l.entries, e.1.guid = g →
    ∃ id, id < defaultQueueModulo ∧ e.1.name = decimalString id
  /-- It holds data. -/
  data_ne : ∀ e ∈ l.entries, e.1.guid = g → e.2.data ≠ []

variable {g : G} {l : VariableList G}

/-- The keys the library's walk keeps are those of the queue's entries. -/
theorem keys_filter (g : G) (l : VariableList G) :
    l.keys.filter (·.guid = g) = (l.entries.filter (·.1.guid = g)).map Prod.fst := by
  rw [VariableList.keys, List.filter_map]
  rfl

theorem length_queueItems (g : G) (l : VariableList G) :
    (queueItems g l).length = (l.keys.filter (·.guid = g)).length := by
  rw [keys_filter, queueItems, List.length_map, List.length_map]

/-- The largest ID `QueueAddItem` reads is the queue's. -/
theorem maxId_queueItems (g : G) (l : VariableList G) :
    maxId (queueItems g l) = ((l.keys.filter (·.guid = g)).map fun k => numeric k.name 0).foldl max 0 := by
  rw [keys_filter, maxId, queueItems, List.map_map, List.map_map]
  rfl

/-- The key at an index of the queue is the key of the queue's entry there. -/
theorem getElem_keys_filter {i : Nat} (hi : i < (l.keys.filter (·.guid = g)).length) :
    ∃ hF : i < (l.entries.filter (·.1.guid = g)).length,
      (l.keys.filter (·.guid = g))[i] = (l.entries.filter (·.1.guid = g))[i].1 :=
  ⟨by simpa [keys_filter] using hi, by simp [keys_filter]⟩

theorem QueueStore.ids (hl : QueueStore g l) :
    ∀ k ∈ l.keys.filter (·.guid = g), ∃ id, id < defaultQueueModulo ∧ k.name = decimalString id := by
  intro k hk
  rw [keys_filter] at hk
  obtain ⟨e, he, rfl⟩ := List.mem_map.mp hk
  have he' := List.mem_filter.mp he
  exact hl.name_eq e he'.1 (by simpa using he'.2)

/-- A pop deletes the item at its index and no other. -/
theorem queueItems_erase {i : Nat} (hi : i < (l.entries.filter (·.1.guid = g)).length) :
    queueItems g (l.erase (l.entries.filter (·.1.guid = g))[i].1) =
      (queueItems g l).eraseIdx i := by
  have hnd : ((l.entries.filter (·.1.guid = g)).map Prod.fst).Nodup :=
    l.nodup.sublist (List.Sublist.map Prod.fst List.filter_sublist)
  -- the delete and the queue's filter commute
  have hcomm : ∀ k : VariableKey G, (l.erase k).entries.filter (·.1.guid = g) =
      (l.entries.filter (·.1.guid = g)).filter (·.1 ≠ k) := by
    intro k
    simp only [VariableList.erase, List.filter_filter, Bool.and_comm]
  rw [queueItems, hcomm, KeyedList.filter_key_ne_getElem_of_nodup hnd hi, queueItems,
    List.eraseIdx_map]

/-- An add appends the new item. -/
theorem queueItems_push {k : VariableKey G} {v : StoredVariable} {hk : k ∉ l.keys}
    {hname : k.name ≠ []} (hg : k.guid = g) :
    queueItems g (l.push k v hk hname) = queueItems g l ++ [⟨numeric k.name 0, v.data⟩] := by
  simp [queueItems, VariableList.push, List.filter_append, hg]

theorem QueueStore.erase (hl : QueueStore g l) (k : VariableKey G) : QueueStore g (l.erase k) where
  name_eq e he := hl.name_eq e (List.mem_of_mem_filter he)
  data_ne e he := hl.data_ne e (List.mem_of_mem_filter he)

omit [DecidableEq G] in
theorem QueueStore.push (hl : QueueStore g l) {id : Nat} (hid : id < defaultQueueModulo)
    {v : StoredVariable} (hdata : v.data ≠ []) (hk : ⟨decimalString id, g⟩ ∉ l.keys)
    (hname : (⟨decimalString id, g⟩ : VariableKey G).name ≠ []) :
    QueueStore g (l.push ⟨decimalString id, g⟩ v hk hname) := by
  constructor
  · intro e he hg
    rcases List.mem_append.mp he with he | he
    · exact hl.name_eq e he hg
    · rw [List.mem_singleton.mp he]
      exact ⟨id, hid, rfl⟩
  · intro e he hg
    rcases List.mem_append.mp he with he | he
    · exact hl.data_ne e he hg
    · rw [List.mem_singleton.mp he]
      exact hdata

/-- The name `QueueAddItem` makes is no variable's: its ID is past every ID of the queue. -/
theorem not_mem_keys_maxId (g : G) (l : VariableList G) :
    (⟨decimalString (maxId (queueItems g l) + 1), g⟩ : VariableKey G) ∉ l.keys := by
  intro hmem
  obtain ⟨e, he, hkey⟩ := List.mem_map.mp hmem
  -- the variable's ID would be an ID of the queue, so at most the largest
  have hitem : (⟨numeric e.1.name 0, e.2.data⟩ : QueueItem) ∈ queueItems g l :=
    List.mem_map.mpr ⟨e, List.mem_filter.mpr ⟨he, by simp [hkey]⟩, rfl⟩
  have hle : numeric e.1.name 0 ≤ maxId (queueItems g l) :=
    le_foldl_max_of_mem (List.mem_map.mpr ⟨_, hitem, rfl⟩)
  rw [hkey, numeric_decimalString] at hle
  omega

/-! ## Refinement -/

/-- A call on `l` that returned `r` is the call of the queue that returns `spec`: the same answer,
the queue after it, a store the library still holds, and the variables under other GUIDs where
they were. -/
structure StepRefines (g : G) (l : VariableList G) (spec : QueueAnswer × List QueueItem)
    (r : Option QueueAnswer × VariableList G) : Prop where
  answer : r.1 = some spec.1
  items : queueItems g r.2 = spec.2
  store : QueueStore g r.2
  frame : ∀ k : VariableKey G, k.guid ≠ g → r.2.lookup k = l.lookup k

/-- A call that changes no variable and answers as the queue does, which it leaves as it was. -/
theorem stepRefines_of_self (hl : QueueStore g l) {answer : QueueAnswer} :
    StepRefines g l (answer, queueItems g l) (some answer, l) :=
  ⟨rfl, rfl, hl, fun _ _ => rfl⟩

section Calls

variable {env : QueueEnv} (halloc : ∀ n, env.allocatePool n = true)
include halloc

theorem stepRefines_getQueueItemCount (hl : QueueStore g l) :
    StepRefines g l (queueSpec (queueItems g l) .getQueueItemCount)
      (queueStep env g l .getQueueItemCount) := by
  simp only [queueSpec, queueStep, getQueueItemCount_eq halloc, Option.map_some,
    length_queueItems]
  exact stepRefines_of_self hl

theorem stepRefines_queuePeekAtIndex (hl : QueueStore g l) (itemIndex : Nat) :
    StepRefines g l (queueSpec (queueItems g l) (.queuePeekAtIndex itemIndex))
      (queueStep env g l (.queuePeekAtIndex itemIndex)) := by
  simp only [queueSpec, queueStep]
  by_cases hi : itemIndex < (l.keys.filter (·.guid = g)).length
  · obtain ⟨hF, hkey⟩ := getElem_keys_filter hi
    have hmem := List.mem_filter.mp (List.getElem_mem hF)
    have hv : l.lookup (l.keys.filter (·.guid = g))[itemIndex] =
        some (l.entries.filter (·.1.guid = g))[itemIndex].2 := by
      rw [hkey]
      exact VariableList.lookup_of_mem hmem.1
    have hq : itemIndex < (queueItems g l).length := by rwa [length_queueItems]
    have hdata : (queueItems g l)[itemIndex].data =
        (l.entries.filter (·.1.guid = g))[itemIndex].2.data := by
      simp [queueItems]
    rw [queuePeekAtIndex_of_lt halloc hi hv, dif_pos hq, hdata]
    exact stepRefines_of_self hl
  · have hq : ¬ itemIndex < (queueItems g l).length := by rwa [length_queueItems]
    rw [queuePeekAtIndex_of_le halloc (Nat.le_of_not_lt hi), dif_neg hq]
    exact stepRefines_of_self hl

theorem stepRefines_queuePopItemAtIndex (hl : QueueStore g l) (itemIndex : Nat)
    (wantData : Bool) :
    StepRefines g l (queuePopSpec (queueItems g l) itemIndex wantData)
      (popAnswer l (queuePopItemAtIndex env l g itemIndex wantData)) := by
  by_cases hi : itemIndex < (l.keys.filter (·.guid = g)).length
  · obtain ⟨hF, hkey⟩ := getElem_keys_filter hi
    have hmem := List.mem_filter.mp (List.getElem_mem hF)
    have hg : (l.entries.filter (·.1.guid = g))[itemIndex].1.guid = g := by simpa using hmem.2
    have hv : l.lookup (l.keys.filter (·.guid = g))[itemIndex] =
        some (l.entries.filter (·.1.guid = g))[itemIndex].2 := by
      rw [hkey]
      exact VariableList.lookup_of_mem hmem.1
    have hq : itemIndex < (queueItems g l).length := by rwa [length_queueItems]
    have hdata : (queueItems g l)[itemIndex].data =
        (l.entries.filter (·.1.guid = g))[itemIndex].2.data := by
      simp [queueItems]
    rw [queuePopItemAtIndex_of_lt halloc hi hv (hl.data_ne _ hmem.1 hg) wantData, hkey]
    refine ⟨?_, ?_, hl.erase _, fun k hk => ?_⟩
    · simp [popAnswer, queuePopSpec, hq, hdata]
    · simp only [popAnswer, queuePopSpec, dif_pos hq]
      exact queueItems_erase hF
    · exact VariableList.lookup_erase_of_ne fun h => hk (h ▸ hg)
  · have hq : ¬ itemIndex < (queueItems g l).length := by rwa [length_queueItems]
    rw [queuePopItemAtIndex_of_le halloc (Nat.le_of_not_lt hi) wantData]
    simp only [popAnswer, queuePopSpec, dif_neg hq]
    exact stepRefines_of_self hl

theorem stepRefines_queueAddItem (hrsize : env.rsizeMax = 0 ∨ 5 ≤ env.rsizeMax)
    (hl : QueueStore g l) (itemData : List UInt8) :
    StepRefines g l (queueSpec (queueItems g l) (.queueAddItem itemData))
      (queueStep env g l (.queueAddItem itemData)) := by
  simp only [queueSpec, queueStep]
  rw [queueAddItem_eq halloc hrsize hl.ids, ← maxId_queueItems]
  by_cases hmod : defaultQueueModulo ≤ maxId (queueItems g l) + 1
  · simp only [if_pos hmod]
    exact stepRefines_of_self hl
  · simp only [if_neg hmod]
    have hfresh := not_mem_keys_maxId g l
    by_cases hdata : itemData = []
    · -- a delete of the variable that is not there
      subst hdata
      rw [VariableList.setVariable_delete_of_not_mem (decimalString_ne_nil _) hfresh]
      exact stepRefines_of_self hl
    · rw [VariableList.setVariable_of_not_mem (decimalString_ne_nil _) hfresh hdata]
      refine ⟨by simp [hdata], ?_, hl.push (by omega) hdata hfresh (decimalString_ne_nil _),
        fun k hk => ?_⟩
      · dsimp only
        rw [if_neg hdata, queueItems_push (k := ⟨decimalString (maxId (queueItems g l) + 1), g⟩) rfl,
          numeric_decimalString]
      · dsimp only
        exact VariableList.lookup_push_of_ne fun h => hk (h ▸ rfl)

/-- **Every call of the library is the call of the queue** on the list the store holds. -/
theorem queueStep_refines (hrsize : env.rsizeMax = 0 ∨ 5 ≤ env.rsizeMax) (hl : QueueStore g l)
    (op : QueueOp) : StepRefines g l (queueSpec (queueItems g l) op) (queueStep env g l op) := by
  cases op with
  | getQueueItemCount => exact stepRefines_getQueueItemCount halloc hl
  | queueAddItem itemData => exact stepRefines_queueAddItem halloc hrsize hl itemData
  | queuePopItemAtIndex itemIndex wantData =>
      exact stepRefines_queuePopItemAtIndex halloc hl itemIndex wantData
  | queuePopItem wantData => exact stepRefines_queuePopItemAtIndex halloc hl 0 wantData
  | queuePeekAtIndex itemIndex => exact stepRefines_queuePeekAtIndex halloc hl itemIndex

end Calls

/-- **The library refines the queue.** On a store whose variables under the queue's GUID the
library wrote, when every allocation succeeds and `RSIZE_MAX` lets a five-digit name through,
every run of calls answers as the run of `queueSpec` on the queue the store holds, leaves the
queue that run leaves, and leaves every variable under another GUID where it was. -/
theorem queueStep_run_refines (env : QueueEnv) (halloc : ∀ n, env.allocatePool n = true)
    (hrsize : env.rsizeMax = 0 ∨ 5 ≤ env.rsizeMax) (g : G) (l : VariableList G)
    (hl : QueueStore g l) (ops : List QueueOp) :
    (Machine.run (queueStep env g) l ops).1 = (Machine.run queueSpec (queueItems g l) ops).1.map some ∧
      queueItems g (Machine.run (queueStep env g) l ops).2 =
        (Machine.run queueSpec (queueItems g l) ops).2 ∧
      ∀ k : VariableKey G, k.guid ≠ g → (Machine.run (queueStep env g) l ops).2.lookup k = l.lookup k := by
  -- the invariant: a store of the library, with the other GUIDs' variables as they were in `l`
  let Inv : VariableList G → Prop := fun s =>
    QueueStore g s ∧ ∀ k : VariableKey G, k.guid ≠ g → s.lookup k = l.lookup k
  have hinv : ∀ s op, Inv s → Inv (queueStep env g s op).2 := by
    rintro s op ⟨hs, hframe⟩
    have h := queueStep_refines halloc hrsize hs op
    exact ⟨h.store, fun k hk => (h.frame k hk).trans (hframe k hk)⟩
  have hsim : ∀ s op, Inv s → Prod.map id (queueItems g) (queueStep env g s op) =
      (fun t i => (some (queueSpec t i).1, (queueSpec t i).2)) (queueItems g s) op := by
    rintro s op ⟨hs, -⟩
    have h := queueStep_refines halloc hrsize hs op
    exact Prod.ext h.answer h.items
  have hstart : Inv l := ⟨hl, fun _ _ => rfl⟩
  have hrun := @Machine.run_simulation _ _ _ _ (queueStep env g)
    (fun t i => (some (queueSpec t i).1, (queueSpec t i).2)) (queueItems g) Inv hinv hsim l hstart ops
  rw [Machine.run_map_output some queueSpec] at hrun
  obtain ⟨hanswers, hitems⟩ := Prod.ext_iff.mp hrun
  exact ⟨hanswers, hitems, (Machine.run_invariant Inv hinv hstart ops).2⟩

/-! ## Runs -/

/-- A platform where every allocation succeeds and `RSIZE_MAX` sets no limit. -/
def defaultQueueEnv : QueueEnv := ⟨fun _ => true, 0⟩

omit [DecidableEq G] in
theorem queueStore_empty (g : G) : QueueStore g (VariableList.empty : VariableList G) :=
  ⟨fun _ he => absurd he List.not_mem_nil, fun _ he => absurd he List.not_mem_nil⟩

/-- Two adds, a count and a pop on the empty store answer as the queue does: first in, first
out. -/
theorem queueStep_run_refines_fifo :
    (∀ n, defaultQueueEnv.allocatePool n = true) ∧
      (defaultQueueEnv.rsizeMax = 0 ∨ 5 ≤ defaultQueueEnv.rsizeMax) ∧
      QueueStore (0 : Nat) VariableList.empty ∧
      (Machine.run (queueStep defaultQueueEnv (0 : Nat)) VariableList.empty
          [.queueAddItem [1], .queueAddItem [2], .getQueueItemCount, .queuePopItem true]).1 =
        [some ⟨.success, none, none⟩, some ⟨.success, none, none⟩, some ⟨.success, some 2, none⟩,
          some ⟨.success, none, some [1]⟩] :=
  ⟨fun _ => rfl, .inl rfl, queueStore_empty 0,
    (queueStep_run_refines defaultQueueEnv (fun _ => rfl) (.inl rfl) 0 VariableList.empty
      (queueStore_empty 0) _).1.trans (by decide)⟩

/-- `QueueAddItem` of no data on the empty store returns `EFI_NOT_FOUND`: neither `EFI_SUCCESS`
nor `EFI_OUT_OF_RESOURCES`. -/
theorem queueAddItem_nil_not_found :
    (queueStep defaultQueueEnv (0 : Nat) VariableList.empty (.queueAddItem [])).1 =
      some ⟨.notFound, none, none⟩ := by
  rw [(stepRefines_queueAddItem (fun _ => rfl) (.inl rfl) (queueStore_empty 0) []).answer]
  decide

end MuPlus.Queue
