import MuPlus.Lib.Machine
import MuPlus.Whea.EarlyStorageProcess

/-!
# MuPlus.Whea.EarlyStorageBoot

**The early store over a boot.** The calls a boot makes on the store (`EarlyStorageCall`:
`MsWheaESInit`, `MsWheaESStoreEntry`, `MsWheaESAddRecordV0`) form a machine on the CMOS. What a
valid store holds (`EsContent`: the data in use and the phase it was marked full in) forms an
abstract machine that says what the store is for: a record that fits is appended; one that does
not is refused, and `MsWheaESStoreEntry` then marks the store full.

* `EarlyStorageCall.run_refines`: on a valid store each call is the abstract step, with the
  same status, and keeps the store valid;
* `esContent_runCalls`: so is every run (`Machine.run_simulation`);
* `EsContent.run_data`: the data of a run is the data it started with, then the records of
  the calls that returned `EFI_SUCCESS`, in order.
-/

namespace MuPlus.Whea

open ByteMem

/-! ### The calls -/

/-- The record `MsWheaESAddRecordV0` stores for its arguments. -/
def recordV0 (callerId : EfiGuid) (errorStatusValue : UInt32)
    (additionalInfo1 additionalInfo2 : UInt64) (moduleId partitionId : Option EfiGuid) :
    EarlyStorageEntryV0 :=
  { rev := msWheaRev0, phase := 0, reserved := 0, errorStatusValue, additionalInfo1,
    additionalInfo2, moduleId := moduleId.getD callerId, partitionId := partitionId.getD .zero }

theorem msWheaESAddRecordV0_eq (callerId : EfiGuid) (cmos : ByteMem) (errorStatusValue : UInt32)
    (additionalInfo1 additionalInfo2 : UInt64) (moduleId partitionId : Option EfiGuid) :
    msWheaESAddRecordV0 callerId cmos errorStatusValue additionalInfo1 additionalInfo2 moduleId
        partitionId =
      msWheaESAddRecordV0Internal cmos
        (recordV0 callerId errorStatusValue additionalInfo1 additionalInfo2 moduleId partitionId) :=
  rfl

/-- The calls a boot makes on the early store; `MsWheaESAddRecordV0` comes from a module with its
`gEfiCallerIdGuid`. -/
inductive EarlyStorageCall where
  | init
  | storeEntry (md : MsWheaErrorEntryMd)
  | addRecordV0 (callerId : EfiGuid) (errorStatusValue : UInt32)
      (additionalInfo1 additionalInfo2 : UInt64) (moduleId partitionId : Option EfiGuid)

namespace EarlyStorageCall

/-- A call on the CMOS, with the status it returns; `MsWheaESInit` returns none. -/
def run (defaultValue : UInt8) (cmos : ByteMem) : EarlyStorageCall → Option EfiStatus × ByteMem
  | init => (none, msWheaESInit defaultValue cmos)
  | storeEntry md => Prod.map some id (msWheaESStoreEntry cmos md)
  | addRecordV0 callerId errorStatusValue additionalInfo1 additionalInfo2 moduleId partitionId =>
      Prod.map some id (msWheaESAddRecordV0 callerId cmos errorStatusValue additionalInfo1
        additionalInfo2 moduleId partitionId)

/-- The record a call asks to store: `MsWheaESStoreEntry` stores records of revision 0 only. -/
def record : EarlyStorageCall → Option EarlyStorageEntryV0
  | init => none
  | storeEntry md => if md.rev = msWheaRev0 then some (.ofMd md) else none
  | addRecordV0 callerId errorStatusValue additionalInfo1 additionalInfo2 moduleId partitionId =>
      some (recordV0 callerId errorStatusValue additionalInfo1 additionalInfo2 moduleId partitionId)

/-- Every record a call stores is of revision 0. -/
theorem rev_of_record {call : EarlyStorageCall} {r : EarlyStorageEntryV0}
    (h : call.record = some r) : r.rev = msWheaRev0 := by
  cases call with
  | init => cases h
  | storeEntry md =>
      rw [record] at h
      split_ifs at h with hrev
      cases h
      exact hrev
  | addRecordV0 => cases h; rfl

end EarlyStorageCall

/-- The calls in order from a store, with their statuses. -/
def runCalls (defaultValue : UInt8) (cmos : ByteMem) (calls : List EarlyStorageCall) :
    List (Option EfiStatus) × ByteMem :=
  Machine.run (fun cmos call => call.run defaultValue cmos) cmos calls

/-- The records of the calls that returned `EFI_SUCCESS`, in order. -/
def acceptedRecords : List EarlyStorageCall → List (Option EfiStatus) → List EarlyStorageEntryV0
  | call :: calls, status :: statuses =>
      (if status = some .success then call.record.toList else []) ++ acceptedRecords calls statuses
  | _, _ => []

theorem rev_of_mem_acceptedRecords {calls : List EarlyStorageCall}
    {statuses : List (Option EfiStatus)} {r : EarlyStorageEntryV0}
    (h : r ∈ acceptedRecords calls statuses) : r.rev = msWheaRev0 := by
  induction calls generalizing statuses with
  | nil => cases h
  | cons call calls ih =>
      cases statuses with
      | nil => cases h
      | cons status statuses =>
          rw [acceptedRecords, List.mem_append] at h
          rcases h with hcall | hrest
          · split_ifs at hcall
            · exact EarlyStorageCall.rev_of_record (Option.mem_toList.mp hcall)
            · cases hcall
          · exact ih hrest

/-! ### What a valid store holds -/

/-- What a valid store holds: the data in use, and the phase it was marked full in, if it
was. -/
structure EsContent where
  data : List UInt8
  full : Option UInt8
  deriving DecidableEq, Repr

namespace EsContent

/-- Whether a record fits after the data. -/
def hasRoom (s : EsContent) : Prop :=
  s.data.length + 56 ≤ 176

instance (s : EsContent) : Decidable s.hasRoom :=
  inferInstanceAs (Decidable (_ ≤ _))

/-- The content after a record is appended. -/
def append (s : EsContent) (r : EarlyStorageEntryV0) : EsContent :=
  { s with data := s.data ++ r.toBytes }

/-- The content after it is marked full with a phase; the first phase stays. -/
def markFull (s : EsContent) (phase : UInt8) : EsContent :=
  { s with full := s.full.or (some phase) }

/-- One call on what a valid store holds. -/
def step (s : EsContent) : EarlyStorageCall → Option EfiStatus × EsContent
  | .init => (none, s)
  | .storeEntry md =>
      if md.rev = msWheaRev0 then
        if s.hasRoom then (some .success, s.append (.ofMd md))
        else (some .outOfResources, s.markFull md.phase)
      else (some .unsupported, s)
  | .addRecordV0 callerId errorStatusValue additionalInfo1 additionalInfo2 moduleId partitionId =>
      if s.hasRoom then
        (some .success, s.append
          (recordV0 callerId errorStatusValue additionalInfo1 additionalInfo2 moduleId partitionId))
      else (some .outOfResources, s)

/-- The calls in order. -/
def run (s : EsContent) (calls : List EarlyStorageCall) : List (Option EfiStatus) × EsContent :=
  Machine.run step s calls

/-- A call adds its record to the data when it returns `EFI_SUCCESS`, and nothing else. -/
theorem step_data (s : EsContent) (call : EarlyStorageCall) :
    (s.step call).2.data =
      s.data ++ recordBytes (if (s.step call).1 = some .success then call.record.toList else []) := by
  cases call with
  | init => simp [step]
  | storeEntry md =>
      by_cases hrev : md.rev = msWheaRev0
      · by_cases hroom : s.hasRoom
        · simp [step, hrev, hroom, append, EarlyStorageCall.record]
        · simp [step, hrev, hroom, markFull]
      · simp [step, hrev]
  | addRecordV0 =>
      by_cases hroom : s.hasRoom
      · simp [step, hroom, append, EarlyStorageCall.record]
      · simp [step, hroom]

/-- **The data of a run** is the data it started with, then the records of the calls that
returned `EFI_SUCCESS`, in order. -/
theorem run_data (s : EsContent) (calls : List EarlyStorageCall) :
    (s.run calls).2.data = s.data ++ recordBytes (acceptedRecords calls (s.run calls).1) := by
  induction calls generalizing s with
  | nil => simp [run, acceptedRecords]
  | cons call calls ih =>
      have hrest := ih (s.step call).2
      simp only [run, Machine.run_cons] at hrest ⊢
      rw [hrest, step_data, acceptedRecords, recordBytes_append, List.append_assoc]

end EsContent

/-! ### The store refines what it holds -/

/-- What a store holds. -/
def esContent (cmos : ByteMem) : EsContent :=
  { data := activeData cmos,
    full := if (readHeader cmos).isStorageFull = 0 then none else some (readHeader cmos).fullPhase }

@[simp] theorem esContent_data (cmos : ByteMem) : (esContent cmos).data = activeData cmos :=
  rfl

theorem hasRoom_iff (cmos : ByteMem) : hasRoom cmos ↔ (esContent cmos).hasRoom := by
  rw [hasRoom, EsContent.hasRoom, esContent, length_activeData]

theorem fullReports_eq (callerId : EfiGuid) (cmos : ByteMem) :
    fullReports callerId (readHeader cmos) = ((esContent cmos).full.map (storeFullMd callerId)).toList := by
  rw [fullReports, esContent]
  split_ifs <;> rfl

section Refines

variable {cmos : ByteMem}

theorem esContent_appendRecord (hvalid : StoreValid cmos) (e : EarlyStorageEntryV0) :
    esContent (appendRecord cmos e) = (esContent cmos).append e := by
  rw [esContent, activeData_appendRecord hvalid, readHeader_appendRecord]
  rfl

theorem esContent_markFull (phase : UInt8) :
    esContent (markFull cmos phase) = (esContent cmos).markFull phase := by
  have hdata := @activeData_markFull cmos phase
  by_cases hfull : (readHeader cmos).isStorageFull = 0
  · have hheader := @readHeader_markFull cmos phase
    rw [if_neg (not_not.mpr hfull)] at hheader
    rw [esContent, esContent, hdata, hheader, if_pos hfull]
    rfl
  · rw [markFull, if_pos hfull, esContent, EsContent.markFull, if_neg hfull]
    rfl

/-- **One call on a valid store is one abstract step**, with the same status, and keeps it
valid. -/
theorem EarlyStorageCall.run_refines (defaultValue : UInt8) (hvalid : StoreValid cmos)
    (call : EarlyStorageCall) :
    Prod.map id esContent (call.run defaultValue cmos) = (esContent cmos).step call ∧
      StoreValid (call.run defaultValue cmos).2 := by
  cases call with
  | init =>
      rw [run, msWheaESInit_of_valid defaultValue hvalid]
      exact ⟨rfl, hvalid⟩
  | storeEntry md =>
      rw [run, msWheaESStoreEntry_of_valid hvalid, EsContent.step]
      by_cases hrev : md.rev = msWheaRev0
      · by_cases hroom : hasRoom cmos
        · rw [if_pos hrev, if_pos hroom, if_pos hrev, if_pos ((hasRoom_iff cmos).mp hroom)]
          exact ⟨by simp only [Prod.map, id, esContent_appendRecord hvalid],
            storeValid_appendRecord hvalid hroom _⟩
        · rw [if_pos hrev, if_neg hroom, if_pos hrev, if_neg (mt (hasRoom_iff cmos).mpr hroom)]
          exact ⟨by simp only [Prod.map, id, esContent_markFull], storeValid_markFull hvalid _⟩
      · rw [if_neg hrev, if_neg hrev]
        exact ⟨rfl, hvalid⟩
  | addRecordV0 callerId errorStatusValue additionalInfo1 additionalInfo2 moduleId partitionId =>
      rw [run, msWheaESAddRecordV0_eq, EsContent.step]
      by_cases hroom : hasRoom cmos
      · rw [msWheaESAddRecordV0Internal_of_room hvalid hroom, if_pos ((hasRoom_iff cmos).mp hroom)]
        exact ⟨by simp only [Prod.map, id, esContent_appendRecord hvalid],
          storeValid_appendRecord hvalid hroom _⟩
      · rw [msWheaESAddRecordV0Internal_of_not_room hvalid hroom,
          if_neg (mt (hasRoom_iff cmos).mpr hroom)]
        exact ⟨rfl, hvalid⟩

/-- **Every run of calls on a valid store is the abstract run**, with the same statuses. -/
theorem esContent_runCalls (defaultValue : UInt8) (hvalid : StoreValid cmos)
    (calls : List EarlyStorageCall) :
    Prod.map id esContent (runCalls defaultValue cmos calls) = (esContent cmos).run calls :=
  Machine.run_simulation esContent StoreValid
    (fun _ call hvalid => (EarlyStorageCall.run_refines defaultValue hvalid call).2)
    (fun _ call hvalid => (EarlyStorageCall.run_refines defaultValue hvalid call).1) hvalid calls

/-- Every run of calls keeps a store valid. -/
theorem storeValid_runCalls (defaultValue : UInt8) (hvalid : StoreValid cmos)
    (calls : List EarlyStorageCall) : StoreValid (runCalls defaultValue cmos calls).2 :=
  Machine.run_invariant StoreValid
    (fun _ call hvalid => (EarlyStorageCall.run_refines defaultValue hvalid call).2) hvalid calls

end Refines

/-! ### A boot -/

theorem esContent_freshHeader (cmos : ByteMem) :
    esContent (msWheaESHeaderChangeChecksumHelper cmos freshHeader) = ⟨[], none⟩ := by
  rw [esContent, activeData_freshHeader, readHeader_freshHeader]
  rfl

/-- A cleared CMOS has no signature, so `MsWheaESInit` gives it an empty store. -/
theorem esContent_msWheaESInit_zero (defaultValue : UInt8) :
    esContent (msWheaESInit defaultValue fun _ => 0) = ⟨[], none⟩ := by
  have hsignature : (readHeader fun _ => 0).signature ≠ msWheaEarlyStorageSignature := by
    decide
  rw [msWheaESInit_of_not_valid defaultValue (fun hvalid => hsignature hvalid.signature),
    esContent_freshHeader]

/-- **The early store over a boot**, from any CMOS. `MsWheaESInit` and every call after it leave
a valid store, and each call is the abstract step. The data in use is the data `MsWheaESInit`
left, then the records of the calls that returned `EFI_SUCCESS`, in order, so `ActiveRange`
grows by 56 for each. When `MsWheaESInit` left records of revision 0 (none, if it built the
store), a following `MsWheaESProcess` reports the full flag, if it is set, then every record
in order, and leaves an empty valid store. -/
theorem earlyStorage_boot_spec (defaultValue : UInt8) (callerId : EfiGuid) (cmos : ByteMem)
    (calls : List EarlyStorageCall) :
    let cmos₀ := msWheaESInit defaultValue cmos
    let run := runCalls defaultValue cmos₀ calls
    let accepted := acceptedRecords calls run.1
    (∀ n, StoreValid (runCalls defaultValue cmos₀ (calls.take n)).2) ∧
      Prod.map id esContent run = (esContent cmos₀).run calls ∧
      activeData run.2 = activeData cmos₀ ++ recordBytes accepted ∧
      (readHeader run.2).activeRange.toNat =
        (readHeader cmos₀).activeRange.toNat + 56 * accepted.length ∧
      ∀ records : List EarlyStorageEntryV0, (∀ r ∈ records, r.rev = msWheaRev0) →
        activeData cmos₀ = recordBytes records →
        ∃ cmos', msWheaESProcess defaultValue callerId run.2 =
            some (.success, cmos', fullReports callerId (readHeader run.2) ++
              (records ++ accepted).map MsWheaErrorEntryMd.ofEntry) ∧
          StoreValid cmos' ∧ esContent cmos' = ⟨[], none⟩ := by
  intro cmos₀ run accepted
  have hvalid₀ : StoreValid cmos₀ := storeValid_msWheaESInit defaultValue cmos
  have hvalid : StoreValid run.2 := storeValid_runCalls defaultValue hvalid₀ calls
  have hrefines : Prod.map id esContent run = (esContent cmos₀).run calls :=
    esContent_runCalls defaultValue hvalid₀ calls
  -- the statuses and the content are those of the abstract run
  have hstatuses : run.1 = ((esContent cmos₀).run calls).1 := congrArg Prod.fst hrefines
  have hcontent : esContent run.2 = ((esContent cmos₀).run calls).2 := congrArg Prod.snd hrefines
  have hdata : activeData run.2 = activeData cmos₀ ++ recordBytes accepted := by
    have habstract := EsContent.run_data (esContent cmos₀) calls
    rw [← hcontent, ← hstatuses, esContent_data, esContent_data] at habstract
    exact habstract
  have hAR : (readHeader run.2).activeRange.toNat =
      (readHeader cmos₀).activeRange.toNat + 56 * accepted.length := by
    rw [← length_activeData, ← length_activeData, hdata, List.length_append, length_recordBytes]
  refine ⟨fun n => storeValid_runCalls defaultValue hvalid₀ _, hrefines, hdata, hAR, ?_⟩
  intro records hrev hrecords
  -- the records `MsWheaESInit` left and the accepted ones are all of revision 0
  have hall : ∀ r ∈ records ++ accepted, r.rev = msWheaRev0 := by
    intro r hr
    rcases List.mem_append.mp hr with hold | hnew
    · exact hrev r hold
    · exact rev_of_mem_acceptedRecords hnew
  obtain ⟨cmos', hprocess⟩ := msWheaESProcess_of_records defaultValue callerId hvalid
    (records ++ accepted) hall (by rw [hdata, hrecords, recordBytes_append])
  exact ⟨_, hprocess, storeValid_freshHeader _, esContent_freshHeader _⟩

/-- A record of revision 0 for the example below. -/
def exampleMd : MsWheaErrorEntryMd :=
  { rev := msWheaRev0, phase := 0, errorSeverity := efiGenericErrorFatal,
    payloadSize := msWheaErrorEntryMdSize, errorStatusValue := 0, additionalInfo1 := 0,
    additionalInfo2 := 0, moduleId := .zero, ihvSharingGuid := .zero }

/-- The store an earlier phase leaves: `MsWheaESInit` on a cleared CMOS, then one record. -/
def earlierPhaseStore : ByteMem :=
  (runCalls 0xFF (fun _ => 0) [.init, .storeEntry exampleMd]).2

theorem storeValid_earlierPhaseStore : StoreValid earlierPhaseStore :=
  storeValid_runCalls 0xFF (storeValid_msWheaESInit 0xFF fun _ => 0) _

/-- The earlier phase builds an empty store and puts the record in it. -/
theorem esContent_earlierPhaseStore :
    esContent earlierPhaseStore = ((⟨[], none⟩ : EsContent).run [.storeEntry exampleMd]).2 := by
  have hrefines := esContent_runCalls 0xFF (storeValid_msWheaESInit 0xFF fun _ => 0)
    [.storeEntry exampleMd]
  rw [esContent_msWheaESInit_zero] at hrefines
  exact congrArg Prod.snd hrefines

/-- `ActiveRange` counts the records of earlier phases too: an earlier phase initializes a
cleared CMOS and stores one record; this phase's `MsWheaESInit` keeps that store, and after
one more accepted record `ActiveRange` is 112, not 56. -/
theorem earlyStorage_activeRange_counterexample :
    let earlier := (runCalls 0xFF (fun _ => 0) [.init, .storeEntry exampleMd]).2
    let run := runCalls 0xFF earlier [.init, .storeEntry exampleMd]
    run.1 = [none, some .success] ∧ (readHeader run.2).activeRange.toNat = 112 := by
  show (runCalls 0xFF earlierPhaseStore [.init, .storeEntry exampleMd]).1 = [none, some .success] ∧
    (readHeader (runCalls 0xFF earlierPhaseStore [.init, .storeEntry exampleMd]).2).activeRange.toNat
      = 112
  have hrun := esContent_runCalls 0xFF storeValid_earlierPhaseStore [.init, .storeEntry exampleMd]
  rw [esContent_earlierPhaseStore] at hrun
  -- the rest is the abstract run, which is computed
  have hstatuses := congrArg Prod.fst hrun
  have hcontent := congrArg Prod.snd hrun
  rw [Prod.map_fst, id] at hstatuses
  rw [Prod.map_snd] at hcontent
  rw [← length_activeData, ← esContent_data, hcontent, hstatuses]
  exact ⟨by decide, by decide⟩

/-- The boot of the counterexample: the record of an earlier phase, which this phase's
`MsWheaESInit` keeps, then a `MsWheaESStoreEntry` and a `MsWheaESAddRecordV0` that are
accepted and a second `MsWheaESStoreEntry` that finds the store full. `MsWheaESProcess` then
reports the full indication and the three records, in order. -/
theorem earlyStorage_boot_spec_earlier_phase :
    let calls : List EarlyStorageCall :=
      [.storeEntry exampleMd, .addRecordV0 .zero 7 0 0 none none, .storeEntry exampleMd]
    let cmos₀ := msWheaESInit 0xFF earlierPhaseStore
    let run := runCalls 0xFF cmos₀ calls
    let accepted := acceptedRecords calls run.1
    run.1 = [some .success, some .success, some .outOfResources] ∧
      (∀ r ∈ [EarlyStorageEntryV0.ofMd exampleMd], r.rev = msWheaRev0) ∧
      activeData cmos₀ = recordBytes [EarlyStorageEntryV0.ofMd exampleMd] ∧
      (∀ n, StoreValid (runCalls 0xFF cmos₀ (calls.take n)).2) ∧
      Prod.map id esContent run = (esContent cmos₀).run calls ∧
      activeData run.2 = activeData cmos₀ ++ recordBytes accepted ∧
      (readHeader run.2).activeRange.toNat =
        (readHeader cmos₀).activeRange.toNat + 56 * accepted.length ∧
      ∃ cmos', msWheaESProcess 0xFF .zero run.2 =
          some (.success, cmos', fullReports .zero (readHeader run.2) ++
            ([EarlyStorageEntryV0.ofMd exampleMd] ++ accepted).map MsWheaErrorEntryMd.ofEntry) ∧
        StoreValid cmos' ∧ esContent cmos' = ⟨[], none⟩ := by
  intro calls cmos₀ run accepted
  have hcmos₀ : cmos₀ = earlierPhaseStore := msWheaESInit_of_valid 0xFF storeValid_earlierPhaseStore
  have hrev : ∀ r ∈ [EarlyStorageEntryV0.ofMd exampleMd], r.rev = msWheaRev0 := by
    simp [EarlyStorageEntryV0.ofMd, exampleMd]
  have hdata : activeData cmos₀ = recordBytes [EarlyStorageEntryV0.ofMd exampleMd] := by
    rw [hcmos₀, ← esContent_data, esContent_earlierPhaseStore]
    decide
  obtain ⟨hvalids, hrefines, hdata', hAR, hprocess⟩ :=
    earlyStorage_boot_spec 0xFF .zero earlierPhaseStore calls
  -- the statuses are those of the abstract run from the kept record
  have hstatuses : run.1 = [some .success, some .success, some .outOfResources] := by
    have := congrArg Prod.fst hrefines
    rw [Prod.map_fst, id] at this
    show (runCalls 0xFF (msWheaESInit 0xFF earlierPhaseStore) calls).1 = _
    rw [this, msWheaESInit_of_valid 0xFF storeValid_earlierPhaseStore, esContent_earlierPhaseStore]
    decide +kernel
  exact ⟨hstatuses, hrev, hdata, hvalids, hrefines, hdata', hAR, hprocess _ hrev hdata⟩

end MuPlus.Whea
