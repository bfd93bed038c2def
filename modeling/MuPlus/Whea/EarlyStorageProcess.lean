import MuPlus.Whea.EarlyStorageRun

/-!
# MuPlus.Whea.EarlyStorageProcess

**`MsWheaESProcess` on a store of records.** When the data in use is records of revision 0
one after the other, the loop of `MsWheaESProcess` reads them in order, reports each and clears
it (`msWheaESProcessEntries_records`); the store is then emptied and given a fresh header
(`msWheaESProcess_of_records`). A full store is reported first, with the report
`storeFullMd` of its phase.
-/

namespace MuPlus.Whea

open ByteMem

/-- Records one after the other, as the data region holds them. -/
def recordBytes (records : List EarlyStorageEntryV0) : List UInt8 :=
  records.flatMap EarlyStorageEntryV0.toBytes

@[simp] theorem recordBytes_nil : recordBytes [] = [] :=
  rfl

@[simp] theorem recordBytes_cons (r : EarlyStorageEntryV0) (records : List EarlyStorageEntryV0) :
    recordBytes (r :: records) = r.toBytes ++ recordBytes records :=
  rfl

theorem recordBytes_append (records records' : List EarlyStorageEntryV0) :
    recordBytes (records ++ records') = recordBytes records ++ recordBytes records' := by
  simp [recordBytes]

@[simp] theorem length_recordBytes (records : List EarlyStorageEntryV0) :
    (recordBytes records).length = 56 * records.length := by
  induction records with
  | nil => rfl
  | cons r records ih =>
      rw [recordBytes_cons, List.length_append, ih, EarlyStorageEntryV0.length_toBytes,
        List.length_cons]
      omega

/-- The report `MsWheaESCheckHeader` makes of a store that was marked full in a phase. -/
def storeFullMd (callerId : EfiGuid) (phase : UInt8) : MsWheaErrorEntryMd :=
  { rev := msWheaRev0, phase, errorSeverity := efiGenericErrorRecoverable,
    payloadSize := msWheaErrorEntryMdSize, errorStatusValue := msWheaErrorEarlyStorageStoreFull,
    additionalInfo1 := 0, additionalInfo2 := 0, moduleId := callerId, ihvSharingGuid := .zero }

/-! ### One turn of the loop -/

section Loop

variable (defaultValue : UInt8) {activeRange index : UInt32}

/-- The loop goes on while a whole record fits before `ActiveRange`. -/
theorem loopCondition_iff :
    (activeRange ≥ msWheaEarlyStorageEntryV0Size.toUInt32 ∧
        index ≤ activeRange - msWheaEarlyStorageEntryV0Size.toUInt32) ↔
      index.toNat + 56 ≤ activeRange.toNat := by
  have hsize : msWheaEarlyStorageEntryV0Size.toUInt32.toNat = 56 := rfl
  constructor
  · intro ⟨hge, hle⟩
    rw [ge_iff_le, UInt32.le_iff_toNat_le, hsize] at hge
    rw [UInt32.le_iff_toNat_le, UInt32.toNat_sub_of_le _ _ (UInt32.le_iff_toNat_le.mpr
      (by rw [hsize]; exact hge)), hsize] at hle
    omega
  · intro h
    have hge : msWheaEarlyStorageEntryV0Size.toUInt32 ≤ activeRange := by
      rw [UInt32.le_iff_toNat_le, hsize]
      omega
    refine ⟨hge, ?_⟩
    rw [UInt32.le_iff_toNat_le, UInt32.toNat_sub_of_le _ _ hge, hsize]
    omega

theorem toUInt8_and_eq : (index &&& 0xff).toUInt8 = index.toUInt8 := by
  apply UInt8.toNat_inj.mp
  rw [UInt32.toNat_toUInt8, UInt32.toNat_toUInt8, UInt32.toNat_and]
  have hmask : (0xff : UInt32).toNat = 2 ^ 8 - 1 := rfl
  rw [hmask, Nat.and_two_pow_sub_one_eq_mod]
  omega

/-- `MsWheaESGetV0Info` at a record inside the data region: the record's report, the offset
past it, and the record cleared. -/
theorem msWheaESGetV0Info_eq (cmos : ByteMem) {offset : UInt8} (h : offset.toNat + 56 ≤ 176) :
    msWheaESGetV0Info defaultValue cmos offset =
      .ok (.ofEntry (.ofBytes (cmos.read (80 + offset.toNat) 56)),
        offset + msWheaEarlyStorageEntryV0Size,
        cmos.write (80 + offset.toNat) (List.replicate 56 defaultValue)) := by
  rw [msWheaESGetV0Info, msWheaESReadData_eq cmos (by decide) h]
  dsimp only
  rw [msWheaESClearData_eq defaultValue cmos (by decide) h]
  rfl

/-- The loop ends when no whole record is left before `ActiveRange`. -/
theorem msWheaESProcessEntries_end (h : activeRange.toNat < index.toNat + 56) (fuel : Nat)
    (cmos : ByteMem) :
    msWheaESProcessEntries defaultValue activeRange (fuel + 1) index cmos = some ([], cmos) := by
  have hcond := mt (@loopCondition_iff activeRange index).mp (by omega)
  rw [msWheaESProcessEntries, if_neg hcond]

/-- **One turn of the loop** at a record of revision 0: it is reported and cleared, and the
loop goes on at the next record. -/
theorem msWheaESProcessEntries_record (hAR : activeRange.toNat ≤ 176)
    (h : index.toNat + 56 ≤ activeRange.toNat) {cmos : ByteMem} {r : EarlyStorageEntryV0}
    (hr : cmos.read (80 + index.toNat) 56 = r.toBytes) (hrev : r.rev = msWheaRev0) (fuel : Nat) :
    msWheaESProcessEntries defaultValue activeRange (fuel + 1) index cmos =
      (fun (reports, cmos) => (MsWheaErrorEntryMd.ofEntry r :: reports, cmos)) <$>
        msWheaESProcessEntries defaultValue activeRange fuel
          (index + msWheaEarlyStorageEntryV0Size.toUInt32)
          (cmos.write (80 + index.toNat) (List.replicate 56 defaultValue)) := by
  have hindex : index.toUInt8.toNat = index.toNat := by
    rw [UInt32.toNat_toUInt8]
    omega
  -- the revision is the record's first byte
  have hrevRead : cmos.read (80 + index.toNat) 1 = [r.rev] := by
    have hsplit := read_add cmos (80 + index.toNat) 1 55
    rw [show 1 + 55 = 56 from rfl, hr] at hsplit
    have hfirst := congrArg (List.take 1) hsplit
    rw [List.take_left' (length_read _ _ _)] at hfirst
    rw [← hfirst]
    rfl
  have hrevData : msWheaESReadData cmos 1 index.toUInt8 = .ok [r.rev] := by
    have hone : (1 : UInt8).toNat = 1 := rfl
    rw [msWheaESReadData_eq cmos (by decide) (by rw [hindex, hone]; omega), hindex, hone, hrevRead]
  have hrevValue : (leValue [r.rev]).toUInt8 = msWheaRev0 := by
    simp [leValue, hrev]
  have hget : msWheaESGetV0Info defaultValue cmos (index &&& 0xff).toUInt8 =
      .ok (.ofEntry r, index.toUInt8 + msWheaEarlyStorageEntryV0Size,
        cmos.write (80 + index.toNat) (List.replicate 56 defaultValue)) := by
    rw [toUInt8_and_eq, msWheaESGetV0Info_eq defaultValue cmos (by rw [hindex]; omega),
      hindex, hr, EarlyStorageEntryV0.ofBytes_toBytes]
  have hnext : (index.toUInt8 + msWheaEarlyStorageEntryV0Size).toUInt32 =
      index + msWheaEarlyStorageEntryV0Size.toUInt32 := by
    apply UInt32.toNat_inj.mp
    simp [UInt32.toNat_add, msWheaEarlyStorageEntryV0Size]
    omega
  rw [msWheaESProcessEntries, if_pos ((loopCondition_iff).mpr h)]
  simp only [hrevData, hrevValue, ↓reduceIte, hget, hnext]

/-- **The loop over records of revision 0** reports them in order, given a turn of fuel for
each and one to end. -/
theorem msWheaESProcessEntries_records (hAR : activeRange.toNat ≤ 176)
    (records : List EarlyStorageEntryV0) (hrev : ∀ r ∈ records, r.rev = msWheaRev0)
    {index : UInt32} (hindex : index.toNat + 56 * records.length = activeRange.toNat)
    {cmos : ByteMem} (hdata : cmos.read (80 + index.toNat) (56 * records.length) = recordBytes records)
    {fuel : Nat} (hfuel : records.length < fuel) :
    ∃ cmos', msWheaESProcessEntries defaultValue activeRange fuel index cmos =
      some (records.map MsWheaErrorEntryMd.ofEntry, cmos') := by
  induction records generalizing index cmos fuel with
  | nil =>
      cases fuel with
      | zero => exact absurd hfuel (Nat.lt_irrefl 0)
      | succ fuel =>
          refine ⟨cmos, ?_⟩
          rw [msWheaESProcessEntries_end defaultValue (by simp at hindex; omega)]
          rfl
  | cons r records ih =>
      cases fuel with
      | zero => exact absurd hfuel (Nat.not_lt_zero _)
      | succ fuel => ?_
      simp only [List.length_cons] at hindex hdata hfuel
      -- the data splits into this record and the ones after it
      have hsplit := read_add cmos (80 + index.toNat) 56 (56 * records.length)
      rw [show 56 + 56 * records.length = 56 * (records.length + 1) by omega, hdata,
        recordBytes_cons] at hsplit
      have hr : cmos.read (80 + index.toNat) 56 = r.toBytes :=
        (List.append_inj hsplit.symm (by simp)).1
      have hrest : cmos.read (80 + index.toNat + 56) (56 * records.length) = recordBytes records :=
        (List.append_inj hsplit.symm (by simp)).2
      have hnext : (index + msWheaEarlyStorageEntryV0Size.toUInt32).toNat = index.toNat + 56 :=
        toNat_activeRange_add (by omega)
      -- clearing this record leaves the ones after it
      have hcleared : (cmos.write (80 + index.toNat) (List.replicate 56 defaultValue)).read
          (80 + (index + msWheaEarlyStorageEntryV0Size.toUInt32).toNat) (56 * records.length) =
          recordBytes records := by
        rw [hnext, ← Nat.add_assoc, read_write_of_disjoint (by simp), hrest]
      obtain ⟨cmos', hloop⟩ := ih (fun r' hr' => hrev r' (List.mem_cons_of_mem r hr'))
        (by rw [hnext]; omega) hcleared (show records.length < fuel by omega)
      refine ⟨cmos', ?_⟩
      rw [msWheaESProcessEntries_record defaultValue hAR (by omega) hr
        (hrev r List.mem_cons_self), hloop]
      rfl

end Loop

/-! ### `MsWheaESProcess` -/

/-- The reports of the full flag: one for a store marked full, none otherwise. -/
def fullReports (callerId : EfiGuid) (header : EarlyStorageHeader) : List MsWheaErrorEntryMd :=
  if header.isStorageFull = 0 then [] else [storeFullMd callerId header.fullPhase]

/-- `MsWheaESHeaderChangeChecksumHelper` writes the header only. -/
theorem read_msWheaESHeaderChangeChecksumHelper (cmos : ByteMem) (header : EarlyStorageHeader)
    {a n : Nat} (h : 80 ≤ a) :
    (msWheaESHeaderChangeChecksumHelper cmos header).read a n = cmos.read a n := by
  rw [msWheaESHeaderChangeChecksumHelper]
  exact read_msWheaESWriteHeader _ _ h

section Process

variable (defaultValue : UInt8) (callerId : EfiGuid) {cmos : ByteMem}

theorem msWheaESCheckHeader_of_full (hfull : (readHeader cmos).isStorageFull ≠ 0) :
    msWheaESCheckHeader callerId cmos (readHeader cmos) =
      .ok (storeFullMd callerId (readHeader cmos).fullPhase,
        { readHeader cmos with isStorageFull := 0 },
        msWheaESHeaderChangeChecksumHelper cmos { readHeader cmos with isStorageFull := 0 }) := by
  rw [msWheaESCheckHeader, if_neg hfull]
  rfl

theorem msWheaESCheckHeader_of_not_full (hfull : (readHeader cmos).isStorageFull = 0) :
    msWheaESCheckHeader callerId cmos (readHeader cmos) = .error .notStarted := by
  rw [msWheaESCheckHeader, if_pos hfull]

/-- The loop of `MsWheaESProcess` over a store whose data is records of revision 0, on any
CMOS with those data bytes. -/
theorem msWheaESProcessEntries_of_records (hvalid : StoreValid cmos)
    (records : List EarlyStorageEntryV0) (hrev : ∀ r ∈ records, r.rev = msWheaRev0)
    (hdata : activeData cmos = recordBytes records) {cmos₁ : ByteMem}
    (hframe : cmos₁.read 80 (readHeader cmos).activeRange.toNat = activeData cmos) :
    ∃ cmos', msWheaESProcessEntries defaultValue (readHeader cmos).activeRange
      ((readHeader cmos).activeRange.toNat + 1) 0 cmos₁ =
        some (records.map MsWheaErrorEntryMd.ofEntry, cmos') := by
  have hlength : (readHeader cmos).activeRange.toNat = 56 * records.length := by
    rw [← length_activeData, hdata, length_recordBytes]
  have hzero : (0 : UInt32).toNat = 0 := rfl
  refine msWheaESProcessEntries_records defaultValue hvalid.activeRange_le records hrev
    (by rw [hzero, hlength]; omega) ?_ (by omega)
  rw [hzero, Nat.add_zero, ← hlength, hframe, hdata]

/-- **`MsWheaESProcess` on a store of records of revision 0** reports the full flag, if it is
set, then every record in order, and leaves the store cleared with a fresh header. -/
theorem msWheaESProcess_of_records (hvalid : StoreValid cmos)
    (records : List EarlyStorageEntryV0) (hrev : ∀ r ∈ records, r.rev = msWheaRev0)
    (hdata : activeData cmos = recordBytes records) :
    ∃ cmos', msWheaESProcess defaultValue callerId cmos =
      some (.success, msWheaESHeaderChangeChecksumHelper (msWheaESClearAllData defaultValue cmos')
        freshHeader, fullReports callerId (readHeader cmos) ++ records.map MsWheaErrorEntryMd.ofEntry) := by
  rw [msWheaESProcess, msWheaESRegionIsValid_of_valid hvalid]
  dsimp only
  by_cases hfull : (readHeader cmos).isStorageFull = 0
  · -- a store not marked full goes straight to the loop
    obtain ⟨cmos', hloop⟩ :=
      msWheaESProcessEntries_of_records defaultValue hvalid records hrev hdata rfl
    rw [msWheaESCheckHeader_of_not_full callerId hfull]
    dsimp only
    rw [hloop]
    refine ⟨cmos', ?_⟩
    rw [fullReports, if_pos hfull]
  · -- the full flag is reported and reset; the data region stays as it was
    have hframe : (msWheaESHeaderChangeChecksumHelper cmos
        { readHeader cmos with isStorageFull := 0 }).read 80 (readHeader cmos).activeRange.toNat =
        activeData cmos :=
      read_msWheaESHeaderChangeChecksumHelper _ _ (Nat.le_refl 80)
    obtain ⟨cmos', hloop⟩ :=
      msWheaESProcessEntries_of_records defaultValue hvalid records hrev hdata hframe
    rw [msWheaESCheckHeader_of_full callerId hfull]
    dsimp only
    rw [hloop]
    refine ⟨cmos', ?_⟩
    rw [fullReports, if_neg hfull]

end Process

end MuPlus.Whea
