import MuPlus.AdvLogger.Write
import MuPlus.Lib.Machine

/-!
# MuPlus.AdvLogger.DxeCore

**The DXE core instance of the logger library** (`AdvancedLoggerLib/DxeCore/AdvancedLoggerLib.c`):
the module globals `mLoggerInfo`, `mBufferSize`, `mMaxAddress` and `mInitialized`,
`AdvancedLoggerGetLoggerInfo` with the `ValidateInfoBlock` check it runs on every call,
and `DxeCoreAdvancedLoggerLibConstructor`, which takes the info block PEI published
(through the HOB or the fixed PCD) or else allocates a fresh one.

Every write in DXE first calls `AdvancedLoggerGetLoggerInfo`, and a block that fails
`ValidateInfoBlock` sets `mLoggerInfo` to `NULL` for the rest of the boot.
`ValidateInfoBlock` bounds `LogCurrent` by `mMaxAddress`, which the two paths compute
from different bases: `LogBuffer + LogBufferSize` for a located block, the writer's own
limit, but `LoggerInfo + LogBufferSize` for an allocated one, `sizeof (ADVANCED_LOGGER_INFO)`
bytes lower.

## Proof shape

`Live a d` says that the logger runs on the block at `a` with `mMaxAddress` the writer's
limit; from it a write is exactly `advancedLoggerMemoryLoggerWrite` (`dxeCoreWrite_of_live`),
and `Machine.run_simulation` turns that into `dxeCore_located_run`. `AllocatedInv p d` is
what the allocation path keeps: a well-formed block at `p` and `mMaxAddress = p +
LogBufferSize`. A logger is `Stopped` once `mLoggerInfo` is `NULL` or `LogCurrent` is past
`mMaxAddress`; a stopped logger answers every later call with `NULL` and logs nothing
(`dxeCoreRun_of_stopped`, a simulation of the machine that ignores its inputs).
-/

namespace MuPlus.AdvLogger

/-! ### The library globals -/

/-- The globals of the DXE core library: `mLoggerInfo` (the info block's address,
`none` for `NULL`), `mBufferSize`, `mMaxAddress` and `mInitialized`. -/
structure DxeCoreLib where
  loggerInfo : Option Nat
  bufferSize : Nat
  maxAddress : Nat
  initialized : Bool
  deriving DecidableEq, Repr

/-- The globals as the image is loaded. -/
def DxeCoreLib.init : DxeCoreLib := ⟨none, 0, 0, false⟩

/-- `ValidateInfoBlock`: the checks of the block `mLoggerInfo` points to, whose
contents are `info`. -/
def validateInfoBlock (lib : DxeCoreLib) (info : AdvancedLoggerInfo) : Bool :=
  match lib.loggerInfo with
  | none => false
  | some loggerInfo =>
      if info.signature ≠ advancedLoggerSignature then false
      else if info.logBuffer ≠ loggerInfo + sizeofAdvancedLoggerInfo then false
      else if lib.maxAddress < info.logCurrent ∨ info.logCurrent < info.logBuffer then false
      else if info.logBufferSize ≠ lib.bufferSize then false
      else true

/-- The `!mInitialized` branch of `AdvancedLoggerGetLoggerInfo`: take the block `located`
names (`PcdAdvancedLoggerBase`, or the `LogBuffer` of the HOB; `none` when there is no
HOB), and set `mMaxAddress` and `mBufferSize` from its contents `info`. -/
def locateLoggerInfo (located : Option Nat) (lib : DxeCoreLib) (info : AdvancedLoggerInfo) :
    DxeCoreLib :=
  let lib := { lib with initialized := true, loggerInfo := located.or lib.loggerInfo }
  if lib.loggerInfo.isSome then
    { lib with
      maxAddress := info.logBuffer + info.logBufferSize
      bufferSize := info.logBufferSize }
  else lib

/-- `AdvancedLoggerGetLoggerInfo`: locate the block on the first call, then drop it
(`mLoggerInfo = NULL`) if it fails `ValidateInfoBlock`; return `mLoggerInfo`. -/
def advancedLoggerGetLoggerInfo (located : Option Nat) (lib : DxeCoreLib)
    (info : AdvancedLoggerInfo) : Option Nat × DxeCoreLib :=
  let lib := if lib.initialized then lib else locateLoggerInfo located lib info
  let lib :=
    if lib.loggerInfo.isSome ∧ validateInfoBlock lib info = false then
      { lib with loggerInfo := none }
    else lib
  (lib.loggerInfo, lib)

/-! ### The constructor and the writes -/

/-- The logger in DXE: the library globals and the block with its log buffer. -/
structure DxeLogger where
  lib : DxeCoreLib
  log : LoggerState

/-- The block the allocation path of the constructor builds in the pages at
`loggerInfo`: zeroed, then signed, with the buffer right after the block and empty. -/
def freshLoggerInfo (loggerInfo pages : Nat) : AdvancedLoggerInfo where
  signature := advancedLoggerSignature
  logBuffer := loggerInfo + sizeofAdvancedLoggerInfo
  logCurrent := loggerInfo + sizeofAdvancedLoggerInfo
  discardedSize := 0
  logBufferSize := migratedLogBufferSize pages
  inPermanentRAM := false

/-- `DxeCoreAdvancedLoggerLibConstructor`. `found` is the block `located` names,
`allocated` what `AllocateReservedPages (PcdAdvancedLoggerPages)` returns. When
`AdvancedLoggerGetLoggerInfo` finds no valid block, the constructor builds one in the
allocated pages and sets `mMaxAddress` from the pages' base. -/
def dxeCoreAdvancedLoggerLibConstructor (located : Option Nat) (found : LoggerState)
    (allocated : Option Nat) (pages : Nat) : DxeLogger :=
  let (loggerInfo, lib) := advancedLoggerGetLoggerInfo located DxeCoreLib.init found.info
  match loggerInfo, allocated with
  | some _, _ => ⟨lib, found⟩
  | none, none => ⟨lib, found⟩
  | none, some p =>
      let info := freshLoggerInfo p pages
      ⟨{ lib with
          loggerInfo := some p
          maxAddress := p + info.logBufferSize
          bufferSize := info.logBufferSize },
        { found with info }⟩

/-- The arguments of one `AdvancedLoggerMemoryLoggerWrite` call, with the counter value
it reads. -/
structure WriteCall where
  debugLevel : Nat
  buffer : List UInt8
  timeStamp : UInt64

/-- `NumberOfBytes` is in `1 .. MAX_UINT16`, the calls that reach `AdvancedLoggerGetLoggerInfo`. -/
def WriteCall.Valid (c : WriteCall) : Prop :=
  ¬ (c.buffer.length = 0 ∨ maxUint16 < c.buffer.length)

instance (c : WriteCall) : Decidable c.Valid :=
  inferInstanceAs (Decidable (¬ _))

/-- `AdvancedLoggerMemoryLoggerWrite` as linked into the DXE core: it returns the
`LoggerInfo` it got from `AdvancedLoggerGetLoggerInfo` and writes only when that is not
`NULL`. -/
def dxeCoreMemoryLoggerWrite (located : Option Nat) (d : DxeLogger) (c : WriteCall) :
    Option Nat × DxeLogger :=
  if c.buffer.length = 0 ∨ maxUint16 < c.buffer.length then (none, d)
  else
    let (loggerInfo, lib) := advancedLoggerGetLoggerInfo located d.lib d.log.info
    match loggerInfo with
    | none => (none, ⟨lib, d.log⟩)
    | some a => (some a, ⟨lib, advancedLoggerMemoryLoggerWrite d.log c.debugLevel c.buffer c.timeStamp⟩)

/-- A sequence of writes in DXE, with what each call returned. -/
def dxeCoreRun (located : Option Nat) (d : DxeLogger) (calls : List WriteCall) :
    List (Option Nat) × DxeLogger :=
  Machine.run (dxeCoreMemoryLoggerWrite located) d calls

/-- The logger as the writer sees it when the block at `a` is always there: every valid
call writes and returns `a`. -/
def plainWrite (a : Nat) (s : LoggerState) (c : WriteCall) : Option Nat × LoggerState :=
  (if c.Valid then some a else none,
    advancedLoggerMemoryLoggerWrite s c.debugLevel c.buffer c.timeStamp)

/-! ### `ValidateInfoBlock` and `AdvancedLoggerGetLoggerInfo` -/

theorem validateInfoBlock_eq_true_iff {lib : DxeCoreLib} {info : AdvancedLoggerInfo} {a : Nat}
    (ha : lib.loggerInfo = some a) :
    validateInfoBlock lib info = true ↔
      info.signature = advancedLoggerSignature ∧ info.logBuffer = a + sizeofAdvancedLoggerInfo ∧
        info.logBuffer ≤ info.logCurrent ∧ info.logCurrent ≤ lib.maxAddress ∧
        info.logBufferSize = lib.bufferSize := by
  simp only [validateInfoBlock, ha]
  -- Each test of the chain fails exactly one conjunct.
  split_ifs with hsig hbuf hrange hsize
  · exact iff_of_false not_false fun h => hsig h.1
  · exact iff_of_false not_false fun h => hbuf h.2.1
  · exact iff_of_false not_false fun h => by omega
  · exact iff_of_false not_false fun h => hsize h.2.2.2.2
  · refine iff_of_true rfl ⟨not_not.mp hsig, not_not.mp hbuf, ?_, ?_, not_not.mp hsize⟩ <;> omega

/-- After the first call, a block that passes `ValidateInfoBlock` is kept and returned. -/
theorem getLoggerInfo_of_valid {located : Option Nat} {lib : DxeCoreLib}
    {info : AdvancedLoggerInfo} (hinit : lib.initialized = true)
    (hvalid : validateInfoBlock lib info = true) :
    advancedLoggerGetLoggerInfo located lib info = (lib.loggerInfo, lib) := by
  simp [advancedLoggerGetLoggerInfo, hinit, hvalid]

/-- After the first call, a block that fails `ValidateInfoBlock` is dropped. -/
theorem getLoggerInfo_of_not_valid {located : Option Nat} {lib : DxeCoreLib}
    {info : AdvancedLoggerInfo} (hinit : lib.initialized = true)
    (hvalid : validateInfoBlock lib info = false) :
    advancedLoggerGetLoggerInfo located lib info = (none, { lib with loggerInfo := none }) := by
  obtain ⟨loggerInfo, bufferSize, maxAddress, initialized⟩ := lib
  simp only at hinit
  subst hinit
  cases loggerInfo with
  | none => simp [advancedLoggerGetLoggerInfo]
  | some a => simp [advancedLoggerGetLoggerInfo, hvalid]

/-! ### What one write does -/

/-- A valid call on a block that passes `ValidateInfoBlock` is the writer's own write. -/
theorem dxeCoreWrite_of_valid {located : Option Nat} {d : DxeLogger} {c : WriteCall} {a : Nat}
    (hc : c.Valid) (hinit : d.lib.initialized = true) (ha : d.lib.loggerInfo = some a)
    (hvalid : validateInfoBlock d.lib d.log.info = true) :
    dxeCoreMemoryLoggerWrite located d c =
      (some a, ⟨d.lib, advancedLoggerMemoryLoggerWrite d.log c.debugLevel c.buffer c.timeStamp⟩) := by
  have hget := @getLoggerInfo_of_valid located _ _ hinit hvalid
  rw [ha] at hget
  simp only [dxeCoreMemoryLoggerWrite, if_neg hc, hget]

/-- A valid call on a block that fails `ValidateInfoBlock` drops the logger and writes
nothing: not even `DiscardedSize` counts it. -/
theorem dxeCoreWrite_of_not_valid {located : Option Nat} {d : DxeLogger} {c : WriteCall}
    (hc : c.Valid) (hinit : d.lib.initialized = true)
    (hvalid : validateInfoBlock d.lib d.log.info = false) :
    dxeCoreMemoryLoggerWrite located d c = (none, ⟨{ d.lib with loggerInfo := none }, d.log⟩) := by
  have hget := @getLoggerInfo_of_not_valid located _ _ hinit hvalid
  simp only [dxeCoreMemoryLoggerWrite, if_neg hc, hget]

/-- A call the length check rejects returns `NULL` and changes nothing. -/
theorem dxeCoreWrite_of_not_valid_call {located : Option Nat} {d : DxeLogger} {c : WriteCall}
    (hc : ¬ c.Valid) : dxeCoreMemoryLoggerWrite located d c = (none, d) := by
  simp only [WriteCall.Valid, not_not] at hc
  simp only [dxeCoreMemoryLoggerWrite, if_pos hc]

/-- The writer never moves `Signature`, `LogBuffer` or `LogBufferSize`. -/
theorem write_fixed_fields (s : LoggerState) (debugLevel : Nat) (buffer : List UInt8)
    (timeStamp : UInt64) :
    let s' := advancedLoggerMemoryLoggerWrite s debugLevel buffer timeStamp
    s'.info.signature = s.info.signature ∧ s'.info.logBuffer = s.info.logBuffer ∧
      s'.info.logBufferSize = s.info.logBufferSize := by
  dsimp only [advancedLoggerMemoryLoggerWrite]
  split
  · exact ⟨rfl, rfl, rfl⟩
  · split <;> exact ⟨rfl, rfl, rfl⟩

/-- The writer keeps `LogCurrent` within `[LogBuffer, LogBuffer + LogBufferSize]`. -/
theorem write_logCurrent_bounds {s : LoggerState} (debugLevel : Nat) (buffer : List UInt8)
    (timeStamp : UInt64) (hlo : s.info.logBuffer ≤ s.info.logCurrent)
    (hhi : s.info.logCurrent ≤ s.info.logBuffer + s.info.logBufferSize) :
    let s' := advancedLoggerMemoryLoggerWrite s debugLevel buffer timeStamp
    s.info.logCurrent ≤ s'.info.logCurrent ∧
      s'.info.logCurrent ≤ s.info.logBuffer + s.info.logBufferSize := by
  dsimp only [advancedLoggerMemoryLoggerWrite]
  split
  · exact ⟨le_rfl, hhi⟩
  · split
    · exact ⟨le_rfl, hhi⟩
    · next hfull =>
        simp only
        omega

/-- A block at `a` as the writer leaves it: signed, right after its own header, with
`LogCurrent` within the buffer. -/
structure WellFormedBlock (a : Nat) (info : AdvancedLoggerInfo) : Prop where
  signature : info.signature = advancedLoggerSignature
  logBuffer : info.logBuffer = a + sizeofAdvancedLoggerInfo
  lower : info.logBuffer ≤ info.logCurrent
  upper : info.logCurrent ≤ info.logBuffer + info.logBufferSize

/-- Every write keeps a block well formed. -/
theorem WellFormedBlock.write {a : Nat} {s : LoggerState} (h : WellFormedBlock a s.info)
    (debugLevel : Nat) (buffer : List UInt8) (timeStamp : UInt64) :
    WellFormedBlock a (advancedLoggerMemoryLoggerWrite s debugLevel buffer timeStamp).info := by
  obtain ⟨hsig, hbuf, hsize⟩ := write_fixed_fields s debugLevel buffer timeStamp
  obtain ⟨hlo, hhi⟩ := write_logCurrent_bounds debugLevel buffer timeStamp h.lower h.upper
  refine ⟨hsig.trans h.signature, hbuf.trans h.logBuffer, ?_, ?_⟩
  · rw [hbuf]
    exact Nat.le_trans h.lower hlo
  · rw [hbuf, hsize]
    exact hhi

/-! ### A block PEI published -/

section Located

variable {located : Option Nat}

/-- The logger runs on the block at `a`, and `mMaxAddress` is the writer's limit. -/
structure Live (a : Nat) (d : DxeLogger) : Prop where
  initialized : d.lib.initialized = true
  loggerInfo : d.lib.loggerInfo = some a
  block : WellFormedBlock a d.log.info
  bufferSize : d.log.info.logBufferSize = d.lib.bufferSize
  maxAddress : d.lib.maxAddress = d.log.info.logBuffer + d.log.info.logBufferSize

theorem Live.valid {a : Nat} {d : DxeLogger} (h : Live a d) :
    validateInfoBlock d.lib d.log.info = true := by
  rw [validateInfoBlock_eq_true_iff h.loggerInfo]
  exact ⟨h.block.signature, h.block.logBuffer, h.block.lower, h.maxAddress ▸ h.block.upper,
    h.bufferSize⟩

/-- A call the length check rejects is the writer's own too: it writes nothing. -/
theorem plainWrite_of_not_valid_call {a : Nat} {s : LoggerState} {c : WriteCall} (hc : ¬ c.Valid) :
    plainWrite a s c = (none, s) := by
  simp only [WriteCall.Valid, not_not] at hc
  simp only [plainWrite, WriteCall.Valid, hc, not_true_eq_false, if_false,
    advancedLoggerMemoryLoggerWrite, if_true]

/-- On a live logger, a call is the writer's own. -/
theorem dxeCoreWrite_of_live {a : Nat} {d : DxeLogger} (h : Live a d) (c : WriteCall) :
    Prod.map id DxeLogger.log (dxeCoreMemoryLoggerWrite located d c) = plainWrite a d.log c := by
  by_cases hc : c.Valid
  · rw [dxeCoreWrite_of_valid hc h.initialized h.loggerInfo h.valid]
    simp [plainWrite, hc]
  · rw [dxeCoreWrite_of_not_valid_call hc, plainWrite_of_not_valid_call hc]
    rfl

/-- Every call keeps a live logger live. -/
theorem Live.step {a : Nat} {d : DxeLogger} (h : Live a d) (c : WriteCall) :
    Live a (dxeCoreMemoryLoggerWrite located d c).2 := by
  by_cases hc : c.Valid
  · rw [dxeCoreWrite_of_valid hc h.initialized h.loggerInfo h.valid]
    obtain ⟨-, hbuf, hsize⟩ := write_fixed_fields d.log c.debugLevel c.buffer c.timeStamp
    refine ⟨h.initialized, h.loggerInfo, h.block.write _ _ _, ?_, ?_⟩
    · exact hsize.trans h.bufferSize
    · simp only [hbuf, hsize]
      exact h.maxAddress
  · rw [dxeCoreWrite_of_not_valid_call hc]
    exact h

/-- The constructor keeps a well-formed block it locates, and the logger is live on it. -/
theorem live_constructor {a : Nat} {found : LoggerState} (hfound : WellFormedBlock a found.info)
    (allocated : Option Nat) (pages : Nat) :
    Live a (dxeCoreAdvancedLoggerLibConstructor (some a) found allocated pages) ∧
      (dxeCoreAdvancedLoggerLibConstructor (some a) found allocated pages).log = found := by
  -- The first call locates the block and sets `mMaxAddress` to the writer's limit.
  let lib : DxeCoreLib :=
    ⟨some a, found.info.logBufferSize, found.info.logBuffer + found.info.logBufferSize, true⟩
  have hlocate : locateLoggerInfo (some a) DxeCoreLib.init found.info = lib := rfl
  have hlive : Live a ⟨lib, found⟩ := ⟨rfl, rfl, hfound, rfl, rfl⟩
  have hvalid : validateInfoBlock lib found.info = true := hlive.valid
  have hget : advancedLoggerGetLoggerInfo (some a) DxeCoreLib.init found.info = (some a, lib) := by
    have hinit : DxeCoreLib.init.initialized = false := rfl
    simp only [advancedLoggerGetLoggerInfo, hinit, Bool.false_eq_true, if_false, hlocate, hvalid,
      Bool.true_eq_false, and_false]
    rfl
  simp only [dxeCoreAdvancedLoggerLibConstructor, hget]
  exact ⟨hlive, trivial⟩

/-- **A located block is never dropped.** From a well-formed block PEI published at `a`,
every run of writes keeps the logger live on it, every valid call returns `a`, and the log
is exactly what the writer alone makes of it, up to a full buffer. -/
theorem dxeCore_located_run {a : Nat} {found : LoggerState} (hfound : WellFormedBlock a found.info)
    (allocated : Option Nat) (pages : Nat) (calls : List WriteCall) :
    let r := dxeCoreRun (some a) (dxeCoreAdvancedLoggerLibConstructor (some a) found allocated pages) calls
    Live a r.2 ∧ Prod.map id DxeLogger.log r = Machine.run (plainWrite a) found calls := by
  obtain ⟨hlive, hlog⟩ := live_constructor hfound allocated pages
  refine ⟨Machine.run_invariant (Live a) (fun d c h => h.step c) hlive calls, ?_⟩
  have hsim := Machine.run_simulation DxeLogger.log (Live a)
    (fun d c h => @Live.step (some a) a d h c) (fun d c h => dxeCoreWrite_of_live h c) hlive calls
  rw [hlog] at hsim
  exact hsim

/-- A fresh one-page block PEI published at `0x10000`, and one write of one byte. -/
theorem dxeCore_located_run_one_byte :
    let found : LoggerState := ⟨freshLoggerInfo 0x10000 1, fun _ => 0⟩
    let calls : List WriteCall := [⟨0, [0x41], 0⟩]
    let r := dxeCoreRun (some 0x10000) (dxeCoreAdvancedLoggerLibConstructor (some 0x10000) found none 1) calls
    WellFormedBlock 0x10000 found.info ∧
      Live 0x10000 r.2 ∧ Prod.map id DxeLogger.log r = Machine.run (plainWrite 0x10000) found calls := by
  intro found calls r
  have hfound : WellFormedBlock 0x10000 found.info := ⟨rfl, rfl, le_rfl, by decide⟩
  exact ⟨hfound, dxeCore_located_run hfound none 1 calls⟩

end Located

/-! ### A block the constructor allocated -/

section Allocated

variable {located : Option Nat}

/-- `ValidateInfoBlock` fails as soon as `LogCurrent` is past `mMaxAddress`. -/
theorem validateInfoBlock_of_past {lib : DxeCoreLib} {info : AdvancedLoggerInfo}
    (hpast : lib.maxAddress < info.logCurrent) : validateInfoBlock lib info = false := by
  unfold validateInfoBlock
  split
  · rfl
  · simp [hpast]

/-- The logger has stopped: `mLoggerInfo` is `NULL`, or the block is past `mMaxAddress`
and the next call drops it. -/
def Stopped (d : DxeLogger) : Prop :=
  d.lib.initialized = true ∧ (d.lib.loggerInfo = none ∨ d.lib.maxAddress < d.log.info.logCurrent)

/-- A stopped logger answers every call with `NULL` and writes nothing, `DiscardedSize`
included; it stays stopped. -/
theorem Stopped.step {d : DxeLogger} (h : Stopped d) (c : WriteCall) :
    Stopped (dxeCoreMemoryLoggerWrite located d c).2 ∧
      Prod.map id DxeLogger.log (dxeCoreMemoryLoggerWrite located d c) = (none, d.log) := by
  by_cases hc : c.Valid
  · have hvalid : validateInfoBlock d.lib d.log.info = false := by
      rcases h.2 with hnone | hpast
      · simp [validateInfoBlock, hnone]
      · exact validateInfoBlock_of_past hpast
    rw [dxeCoreWrite_of_not_valid hc h.1 hvalid]
    exact ⟨⟨h.1, Or.inl rfl⟩, rfl⟩
  · rw [dxeCoreWrite_of_not_valid_call hc]
    exact ⟨h, rfl⟩

/-- **A stopped logger stays silent.** Every later call returns `NULL`, and the log is
left as it was. -/
theorem dxeCoreRun_of_stopped {d : DxeLogger} (h : Stopped d) (calls : List WriteCall) :
    (dxeCoreRun located d calls).1 = calls.map (fun _ => none) ∧
      (dxeCoreRun located d calls).2.log = d.log := by
  have hsim : Prod.map id DxeLogger.log (dxeCoreRun located d calls) =
      Machine.run (fun s _ => (none, s)) d.log calls :=
    Machine.run_simulation DxeLogger.log Stopped (fun d c h => (h.step c).1)
      (fun d c h => (@Stopped.step located d h c).2) h calls
  rw [Machine.run_idle] at hsim
  exact ⟨congrArg Prod.fst hsim, congrArg Prod.snd hsim⟩

/-- What the allocation path keeps: the block at `p` stays well formed, `mMaxAddress` is
`p + LogBufferSize`, and `mLoggerInfo` is `p` or `NULL`. -/
structure AllocatedInv (p : Nat) (d : DxeLogger) : Prop where
  initialized : d.lib.initialized = true
  loggerInfo : d.lib.loggerInfo = some p ∨ d.lib.loggerInfo = none
  block : WellFormedBlock p d.log.info
  bufferSize : d.log.info.logBufferSize = d.lib.bufferSize
  maxAddress : d.lib.maxAddress = p + d.log.info.logBufferSize

/-- `mMaxAddress` is `sizeof (ADVANCED_LOGGER_INFO)` bytes below the writer's limit. -/
theorem AllocatedInv.maxAddress_add {p : Nat} {d : DxeLogger} (h : AllocatedInv p d) :
    d.lib.maxAddress + sizeofAdvancedLoggerInfo = d.log.info.logBuffer + d.log.info.logBufferSize := by
  rw [h.maxAddress, h.block.logBuffer]
  omega

/-- Every call keeps the allocation path's invariant. -/
theorem AllocatedInv.step {p : Nat} {d : DxeLogger} (h : AllocatedInv p d) (c : WriteCall) :
    AllocatedInv p (dxeCoreMemoryLoggerWrite located d c).2 := by
  by_cases hc : c.Valid
  · cases hvalid : validateInfoBlock d.lib d.log.info with
    | false =>
        rw [dxeCoreWrite_of_not_valid hc h.initialized hvalid]
        exact ⟨h.initialized, Or.inr rfl, h.block, h.bufferSize, h.maxAddress⟩
    | true =>
        -- Only a block that `mLoggerInfo` points to passes the check.
        have hp : d.lib.loggerInfo = some p := by
          rcases h.loggerInfo with hp | hnone
          · exact hp
          · simp [validateInfoBlock, hnone] at hvalid
        rw [dxeCoreWrite_of_valid hc h.initialized hp hvalid]
        obtain ⟨-, -, hsize⟩ := write_fixed_fields d.log c.debugLevel c.buffer c.timeStamp
        refine ⟨h.initialized, h.loggerInfo, h.block.write _ _ _, ?_, ?_⟩
        · exact hsize.trans h.bufferSize
        · simp only [hsize]
          exact h.maxAddress
  · rw [dxeCoreWrite_of_not_valid_call hc]
    exact h

/-- Every call of `AdvancedLoggerGetLoggerInfo` leaves `mInitialized` set. -/
theorem getLoggerInfo_initialized (lib : DxeCoreLib) (info : AdvancedLoggerInfo) :
    (advancedLoggerGetLoggerInfo located lib info).2.initialized = true := by
  have hlocate : (locateLoggerInfo located lib info).initialized = true := by
    dsimp only [locateLoggerInfo]
    split <;> rfl
  unfold advancedLoggerGetLoggerInfo
  dsimp only
  -- The drop of an invalid block keeps whatever the first branch left in `mInitialized`.
  by_cases hinit : lib.initialized = true
  · rw [if_pos hinit]
    split <;> exact hinit
  · rw [if_neg hinit]
    split <;> exact hlocate

/-- When no valid block is found, the constructor's fresh block satisfies the
allocation path's invariant. -/
theorem allocatedInv_constructor {found : LoggerState}
    (hnone : (advancedLoggerGetLoggerInfo located DxeCoreLib.init found.info).1 = none)
    (p pages : Nat) :
    AllocatedInv p (dxeCoreAdvancedLoggerLibConstructor located found (some p) pages) := by
  have hinit := @getLoggerInfo_initialized located DxeCoreLib.init found.info
  rcases h : advancedLoggerGetLoggerInfo located DxeCoreLib.init found.info with ⟨loggerInfo, lib⟩
  rw [h] at hnone hinit
  simp only at hnone hinit
  subst hnone
  simp only [dxeCoreAdvancedLoggerLibConstructor, h]
  refine ⟨hinit, Or.inl rfl, ⟨rfl, rfl, le_rfl, ?_⟩, rfl, rfl⟩
  exact Nat.le_add_right _ _

/-- **The allocation path drops a log the writer filled.** From the constructor's
allocation path, after any run of writes, `mMaxAddress` is `sizeof (ADVANCED_LOGGER_INFO)`
bytes below the limit the writer fills the buffer to; once `LogCurrent` passes it,
`ValidateInfoBlock` fails, and every later call returns `NULL` without logging or counting
anything. -/
theorem dxeCore_allocated_drops_last_bytes {found : LoggerState}
    (hnone : (advancedLoggerGetLoggerInfo located DxeCoreLib.init found.info).1 = none)
    (p pages : Nat) (calls more : List WriteCall) :
    let d := (dxeCoreRun located (dxeCoreAdvancedLoggerLibConstructor located found (some p) pages)
      calls).2
    d.lib.maxAddress + sizeofAdvancedLoggerInfo = d.log.info.logBuffer + d.log.info.logBufferSize ∧
      (d.lib.maxAddress < d.log.info.logCurrent →
        validateInfoBlock d.lib d.log.info = false ∧
          (dxeCoreRun located d more).1 = more.map (fun _ => none) ∧
          (dxeCoreRun located d more).2.log = d.log) := by
  intro d
  have hinv : AllocatedInv p d :=
    Machine.run_invariant (AllocatedInv p) (fun d c h => h.step c)
      (allocatedInv_constructor hnone p pages) calls
  refine ⟨hinv.maxAddress_add, fun hpast => ?_⟩
  exact ⟨validateInfoBlock_of_past hpast, dxeCoreRun_of_stopped ⟨hinv.initialized, Or.inr hpast⟩ more⟩

/-- A one-page log that the allocation path builds at `0x10000` (`LogBufferSize` 4016,
`mMaxAddress` `0x10FB0`), filled by one write of 3990 bytes: its 4008-byte entry fits, the
call returns the block, and `LogCurrent` ends at `0x10FF8`. The next write is dropped. -/
theorem dxeCore_allocated_drops_one_page_log :
    let found : LoggerState := ⟨freshLoggerInfo 0 1, fun _ => 0⟩
    let r := dxeCoreRun none (dxeCoreAdvancedLoggerLibConstructor none found (some 0x10000) 1)
      [⟨0, List.replicate 3990 0x41, 0⟩]
    (advancedLoggerGetLoggerInfo none DxeCoreLib.init found.info).1 = none ∧
      r.1 = [some 0x10000] ∧ r.2.lib.maxAddress < r.2.log.info.logCurrent ∧
      validateInfoBlock r.2.lib r.2.log.info = false ∧
      (dxeCoreRun none r.2 [⟨0, [0x41], 0⟩]).1 = [none] ∧
      (dxeCoreRun none r.2 [⟨0, [0x41], 0⟩]).2.log = r.2.log := by
  -- No block is located, so the constructor allocates one; the runs are evaluated by
  -- the kernel, whose reduction of the 3990-byte message needs no recursion limit.
  have hnone : (advancedLoggerGetLoggerInfo none DxeCoreLib.init
      (⟨freshLoggerInfo 0 1, fun _ => 0⟩ : LoggerState).info).1 = none := rfl
  have hdrop := dxeCore_allocated_drops_last_bytes hnone 0x10000 1
    [⟨0, List.replicate 3990 0x41, 0⟩] [⟨0, [0x41], 0⟩]
  exact ⟨hnone, by decide +kernel, by decide +kernel, hdrop.2 (by decide +kernel)⟩

end Allocated

end MuPlus.AdvLogger
