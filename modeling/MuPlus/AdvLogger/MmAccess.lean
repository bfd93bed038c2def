import MuPlus.AdvLogger.Write
import MuPlus.Lib.Machine
import MuPlus.Uefi.SafeString

/-!
# MuPlus.AdvLogger.MmAccess

**The log as UEFI variables**: `AdvLoggerAccessGetVariable` of the standalone-MM and SMM
access libraries (`AdvLoggerMmAccessLib`, `AdvLoggerSmmAccessLib`, the same code), with
their `ValidateInfoBlock` and `AdvLoggerAccessInit`. The variable `V<n>` holds block `n` of
the memory from the info block `mLoggerInfo` up to `LogCurrent`, in blocks of
`mLoggerTransferSize` bytes. The block number comes from the OS caller as a decimal string,
read by `StrDecimalToUintnS` (`MuPlus.Uefi.SafeString`), and the block's start is
`mLoggerInfo + BlockNumber * mLoggerTransferSize` in `UINTN` arithmetic, so modulo `2 ^ 64`.

## Results

* `readLog_blocks`: when `LogCurrent + mLoggerTransferSize` does not wrap, the variables
  `V0`, `V1`, … up to the first `EFI_NOT_FOUND` hold the bytes `[mLoggerInfo, LogCurrent)`
  in order.
* `getVariable_reads_below_loggerInfo`: the only guard on the start is `LogBufferStart <
  LogBufferEnd`. A block number whose product with `mLoggerTransferSize` wraps to
  `-mLoggerTransferSize` passes it, and the call copies the `mLoggerTransferSize` bytes just
  below the info block. The SMM library's `AdvLoggerAccessInit` keeps only a block that
  passes the check (`validateInfoBlock_advLoggerAccessInitSmm`), so this applies to both.
-/

namespace MuPlus.AdvLogger.MmAccess

open ByteMem

/-! ### The library globals -/

/-- The globals of the access library: `mLoggerInfo` (`none` for `NULL`), `mBufferSize`,
`mMaxAddress` and `mLoggerTransferSize`. -/
structure MmAccessLib where
  loggerInfo : Option Nat
  bufferSize : Nat
  maxAddress : Nat
  loggerTransferSize : Nat
  deriving DecidableEq, Repr

/-- `ValidateInfoBlock` of the access library, on the block `mLoggerInfo` points to, whose
contents are `info`. Unlike the DXE core's, the first call that reaches the size check
records `LogBufferSize` in `mBufferSize`. -/
def validateInfoBlock (lib : MmAccessLib) (info : AdvancedLoggerInfo) : Bool × MmAccessLib :=
  match lib.loggerInfo with
  | none => (false, lib)
  | some loggerInfo =>
      if info.signature ≠ advancedLoggerSignature then (false, lib)
      else if info.logBuffer ≠ loggerInfo + sizeofAdvancedLoggerInfo then (false, lib)
      else if lib.maxAddress < info.logCurrent ∨ info.logCurrent < info.logBuffer then (false, lib)
      else if lib.bufferSize = 0 then (true, { lib with bufferSize := info.logBufferSize })
      else if info.logBufferSize ≠ lib.bufferSize then (false, lib)
      else (true, lib)

/-- `mLoggerTransferSize` for `PcdMaxVariableSize`: `PcdMaxVariableSize - 1023` rounded down
to a multiple of 1024, or 0 when `SafeUintnSub` fails. -/
def loggerTransferSize (maxVariableSize : Nat) : Nat :=
  if maxVariableSize < 1023 then 0 else (maxVariableSize - 1023) / 1024 * 1024

/-- `AdvLoggerAccessInit` of `AdvLoggerMmAccessLib`: `mLoggerInfo` from the fixed PCD or the
HOB (`located`, the block there holding `info`), and `mMaxAddress` from it. -/
def advLoggerAccessInit (located : Option Nat) (info : AdvancedLoggerInfo)
    (maxVariableSize : Nat) : MmAccessLib where
  loggerInfo := located
  bufferSize := 0
  maxAddress := if located.isSome then info.logBuffer + info.logBufferSize else 0
  loggerTransferSize := loggerTransferSize maxVariableSize

/-- `AdvLoggerAccessInit` of `AdvLoggerSmmAccessLib`: `mLoggerInfo` from the logger protocol
(`located`), dropped at once if it fails `ValidateInfoBlock`. -/
def advLoggerAccessInitSmm (located : Option Nat) (info : AdvancedLoggerInfo)
    (maxVariableSize : Nat) : MmAccessLib :=
  let lib : MmAccessLib := ⟨none, 0, 0, loggerTransferSize maxVariableSize⟩
  match located with
  | none => lib
  | some a =>
      let (valid, lib) := validateInfoBlock
        { lib with loggerInfo := some a, maxAddress := info.logBuffer + info.logBufferSize } info
      if valid then lib else { lib with loggerInfo := none }

/-! ### `AdvLoggerAccessGetVariable` -/

/-- What `AdvLoggerAccessGetVariable` returns: its status, the `*DataSize` it leaves, and the
bytes it copies to `Data`, if it copies any. -/
structure GetVariableResult where
  status : EfiStatus
  dataSize : Nat
  data : Option (List UInt8)

/-- The part of `AdvLoggerAccessGetVariable` after the name is read: block `blockNumber` of
the memory from `loggerInfo` (`LogBufferStart`) to `LogCurrent` (`LogBufferEnd`). The
product and the sum are `UINTN` arithmetic and wrap modulo `2 ^ 64`. -/
def getVariableBlock (loggerInfo transferSize : Nat) (s : LoggerState)
    (blockNumber dataSize : Nat) (hasData : Bool) : GetVariableResult :=
  let logBufferStart := (loggerInfo + blockNumber * transferSize) % 2 ^ 64
  let logBufferEnd := s.info.logCurrent
  if logBufferEnd ≤ logBufferStart then ⟨.notFound, dataSize, none⟩
  else
    let logBufferSize := min (logBufferEnd - logBufferStart) transferSize
    if dataSize < logBufferSize then ⟨.bufferTooSmall, logBufferSize, none⟩
    else if !hasData then ⟨.invalidParameter, dataSize, none⟩
    else ⟨.success, logBufferSize, some (s.mem.read logBufferStart logBufferSize)⟩

/-- The part of `AdvLoggerAccessGetVariable` after the globals are checked: the name must be
`V` followed by a decimal block number, which `StrDecimalToUintnS` (with `RSIZE_MAX`
`rsizeMax`) reads up to the end of the name. -/
def getVariableByName (rsizeMax loggerInfo transferSize : Nat) (s : LoggerState)
    (variableName : List UInt16) (dataSize : Nat) (hasData : Bool) : GetVariableResult :=
  match variableName with
  | [] => ⟨.notFound, dataSize, none⟩
  | c :: digits =>
      if c ≠ 0x56 then ⟨.notFound, dataSize, none⟩
      else
        let (status, endPointer, blockNumber) := strDecimalToUintnS rsizeMax digits
        if status.isError then ⟨.invalidParameter, dataSize, none⟩
        -- `*EndPointer != L'\0'`: the conversion stopped before the end of the name.
        else if endPointer ≠ digits.length then ⟨.invalidParameter, dataSize, none⟩
        else getVariableBlock loggerInfo transferSize s blockNumber dataSize hasData

/-- `AdvLoggerAccessGetVariable (VariableName, VendorGuid, Attributes, DataSize, Data)` on
the characters of `VariableName` before its NUL, `*DataSize = dataSize`, and `Data` present
when `hasData`. `LogBufferStart` starts from `mLoggerInfo` as a pointer, 0 for `NULL`. -/
def advLoggerAccessGetVariable (rsizeMax : Nat) (lib : MmAccessLib) (s : LoggerState)
    (variableName : List UInt16) (dataSize : Nat) (hasData : Bool) :
    GetVariableResult × MmAccessLib :=
  let (valid, lib) := validateInfoBlock lib s.info
  if !valid || lib.loggerTransferSize == 0 then (⟨.unsupported, dataSize, none⟩, lib)
  else
    (getVariableByName rsizeMax (lib.loggerInfo.getD 0) lib.loggerTransferSize s variableName
      dataSize hasData, lib)

/-- The name `V<k>` of block `k`. -/
def blockName (k : Nat) : List UInt16 := 0x56 :: decimalString k

/-! ### `ValidateInfoBlock` -/

/-- `ValidateInfoBlock` only ever records `mBufferSize`. -/
theorem validateInfoBlock_snd {lib : MmAccessLib} {info : AdvancedLoggerInfo} :
    (validateInfoBlock lib info).2.loggerInfo = lib.loggerInfo ∧
      (validateInfoBlock lib info).2.loggerTransferSize = lib.loggerTransferSize ∧
      (validateInfoBlock lib info).2.maxAddress = lib.maxAddress := by
  unfold validateInfoBlock
  split
  · exact ⟨rfl, rfl, rfl⟩
  · split_ifs <;> exact ⟨rfl, rfl, rfl⟩

/-- The tests of `ValidateInfoBlock`: the block is signed and right after its header,
`LogCurrent` is within `[LogBuffer, mMaxAddress]`, and `LogBufferSize` is the recorded size
unless none is recorded yet. -/
theorem validateInfoBlock_eq_true_iff {lib : MmAccessLib} {info : AdvancedLoggerInfo} {a : Nat}
    (ha : lib.loggerInfo = some a) :
    (validateInfoBlock lib info).1 = true ↔
      info.signature = advancedLoggerSignature ∧ info.logBuffer = a + sizeofAdvancedLoggerInfo ∧
        info.logBuffer ≤ info.logCurrent ∧ info.logCurrent ≤ lib.maxAddress ∧
        (lib.bufferSize = 0 ∨ info.logBufferSize = lib.bufferSize) := by
  simp only [validateInfoBlock, ha]
  -- Each test that returns `FALSE` fails exactly one conjunct.
  split_ifs with hsig hbuf hrange hzero hsize
  · exact iff_of_false not_false fun h => hsig h.1
  · exact iff_of_false not_false fun h => hbuf h.2.1
  · exact iff_of_false not_false fun h => by omega
  · refine iff_of_true rfl ⟨not_not.mp hsig, not_not.mp hbuf, ?_, ?_, Or.inl hzero⟩ <;> omega
  · exact iff_of_false not_false fun h => by omega
  · refine iff_of_true rfl ⟨not_not.mp hsig, not_not.mp hbuf, ?_, ?_, Or.inr (not_not.mp hsize)⟩ <;>
      omega

/-- Without a block, the check fails. -/
theorem validateInfoBlock_of_none {lib : MmAccessLib} {info : AdvancedLoggerInfo}
    (h : lib.loggerInfo = none) : (validateInfoBlock lib info).1 = false := by
  simp [validateInfoBlock, h]

/-- A check that passes leaves `LogBufferSize` recorded in `mBufferSize`. -/
theorem validateInfoBlock_bufferSize {lib : MmAccessLib} {info : AdvancedLoggerInfo}
    (h : (validateInfoBlock lib info).1 = true) :
    (validateInfoBlock lib info).2.bufferSize = info.logBufferSize := by
  unfold validateInfoBlock at h ⊢
  split at h
  · cases h
  · split_ifs at h ⊢ with hsig hbuf hrange hzero hsize
    · rfl
    · exact (not_not.mp hsize).symm

/-- A check that passed passes again on the globals it leaves. -/
theorem validateInfoBlock_again {lib : MmAccessLib} {info : AdvancedLoggerInfo}
    (h : (validateInfoBlock lib info).1 = true) :
    (validateInfoBlock (validateInfoBlock lib info).2 info).1 = true := by
  obtain ⟨hinfo, -, hmax⟩ := @validateInfoBlock_snd lib info
  cases ha : lib.loggerInfo with
  | none => rw [validateInfoBlock_of_none ha] at h; cases h
  | some a =>
      obtain ⟨hsig, hbuf, hlo, hhi, -⟩ := (validateInfoBlock_eq_true_iff ha).mp h
      rw [validateInfoBlock_eq_true_iff (hinfo.trans ha), hmax, validateInfoBlock_bufferSize h]
      exact ⟨hsig, hbuf, hlo, hhi, Or.inr rfl⟩

/-- The SMM library keeps a block from its `AdvLoggerAccessInit` only if it passes the check,
and then it passes on every later call's check too. -/
theorem validateInfoBlock_advLoggerAccessInitSmm {located : Option Nat}
    {info : AdvancedLoggerInfo} {maxVariableSize a : Nat}
    (h : (advLoggerAccessInitSmm located info maxVariableSize).loggerInfo = some a) :
    (validateInfoBlock (advLoggerAccessInitSmm located info maxVariableSize) info).1 = true := by
  cases located with
  | none => cases h
  | some b =>
      simp only [advLoggerAccessInitSmm] at h ⊢
      split at h
      · next hvalid =>
          rw [if_pos hvalid]
          exact validateInfoBlock_again hvalid
      · cases h

/-- Once the globals pass the check, a call answers by the name alone, and leaves the
globals the check left. -/
theorem getVariable_of_valid {rsizeMax : Nat} {lib : MmAccessLib} {s : LoggerState}
    (hvalid : (validateInfoBlock lib s.info).1 = true) (hT : lib.loggerTransferSize ≠ 0)
    (variableName : List UInt16) (dataSize : Nat) (hasData : Bool) :
    advLoggerAccessGetVariable rsizeMax lib s variableName dataSize hasData =
      (getVariableByName rsizeMax (lib.loggerInfo.getD 0) lib.loggerTransferSize s variableName
        dataSize hasData, (validateInfoBlock lib s.info).2) := by
  obtain ⟨hinfo, hsize, -⟩ := @validateInfoBlock_snd lib s.info
  have hT' : (lib.loggerTransferSize == 0) = false := beq_false_of_ne hT
  simp only [advLoggerAccessGetVariable, hvalid, Bool.not_true, Bool.false_or, hsize, hT',
    Bool.false_eq_true, if_false, hinfo]

/-- A call leaves the globals the check left. -/
theorem getVariable_snd {rsizeMax : Nat} {s : LoggerState} (lib : MmAccessLib)
    (variableName : List UInt16) (dataSize : Nat) (hasData : Bool) :
    (advLoggerAccessGetVariable rsizeMax lib s variableName dataSize hasData).2 =
      (validateInfoBlock lib s.info).2 := by
  unfold advLoggerAccessGetVariable
  dsimp only
  split <;> rfl

/-- The name `V` followed by the numeral of a `UINTN` value `k` asks for block `k`. -/
theorem getVariableByName_blockName {rsizeMax : Nat} {k : Nat} (hk : k ≤ maxUintn)
    (hrsize : rsizeMax = 0 ∨ 20 ≤ rsizeMax) (loggerInfo transferSize : Nat) (s : LoggerState)
    (dataSize : Nat) (hasData : Bool) :
    getVariableByName rsizeMax loggerInfo transferSize s (blockName k) dataSize hasData =
      getVariableBlock loggerInfo transferSize s k dataSize hasData := by
  have hparse := strDecimalToUintnS_decimalString hk hrsize
  simp only [getVariableByName, blockName, ne_eq, not_true_eq_false, if_false, hparse,
    EfiStatus.isError_success, Bool.false_eq_true]

/-! ### One block -/

section Block

variable {a transferSize : Nat} {s : LoggerState} {k dataSize : Nat}

/-- A block that starts before `LogCurrent` is copied, `mLoggerTransferSize` bytes of it at
most, to a large enough buffer. -/
theorem getVariableBlock_of_lt
    (hlt : (a + k * transferSize) % 2 ^ 64 < s.info.logCurrent)
    (hdata : transferSize ≤ dataSize) :
    getVariableBlock a transferSize s k dataSize true =
      ⟨.success, min (s.info.logCurrent - (a + k * transferSize) % 2 ^ 64) transferSize,
        some (s.mem.read ((a + k * transferSize) % 2 ^ 64)
          (min (s.info.logCurrent - (a + k * transferSize) % 2 ^ 64) transferSize))⟩ := by
  have hnot : ¬ s.info.logCurrent ≤ (a + k * transferSize) % 2 ^ 64 := Nat.not_le.mpr hlt
  have hfits : ¬ dataSize < min (s.info.logCurrent - (a + k * transferSize) % 2 ^ 64) transferSize := by
    have := Nat.min_le_right (s.info.logCurrent - (a + k * transferSize) % 2 ^ 64) transferSize
    omega
  simp only [getVariableBlock]
  rw [if_neg hnot, if_neg hfits]
  rfl

/-- A block that starts at or past `LogCurrent` is `EFI_NOT_FOUND`. -/
theorem getVariableBlock_of_le (hle : s.info.logCurrent ≤ (a + k * transferSize) % 2 ^ 64)
    (hasData : Bool) :
    getVariableBlock a transferSize s k dataSize hasData = ⟨.notFound, dataSize, none⟩ := by
  simp only [getVariableBlock]
  rw [if_pos hle]

end Block

/-! ### Reading the log block by block -/

section Sequential

variable {a transferSize : Nat} {s : LoggerState}

/-- The number of blocks of `transferSize` bytes that hold `len` bytes: a caller reading
`V0`, `V1`, … gets `EFI_NOT_FOUND` at `V<blockCount>`. -/
def blockCount (transferSize len : Nat) : Nat :=
  (len + transferSize - 1) / transferSize

/-- The bytes block `k` holds when its start does not wrap. -/
def blockBytes (a transferSize : Nat) (s : LoggerState) (k : Nat) : List UInt8 :=
  s.mem.read (a + k * transferSize) (min (s.info.logCurrent - (a + k * transferSize)) transferSize)

/-- The blocks before `blockCount` start before the end. -/
theorem lt_of_lt_blockCount (hT : 0 < transferSize) {len k : Nat}
    (hk : k < blockCount transferSize len) : k * transferSize < len := by
  have hle : (k + 1) * transferSize ≤ len + transferSize - 1 :=
    (Nat.le_div_iff_mul_le hT).mp hk
  rw [Nat.succ_mul] at hle
  omega

/-- The block at `blockCount` starts at or after the end, less than a block after it. -/
theorem blockCount_mul_bounds (hT : 0 < transferSize) (len : Nat) :
    len ≤ blockCount transferSize len * transferSize ∧
      blockCount transferSize len * transferSize ≤ len + transferSize - 1 := by
  have hdiv := Nat.div_add_mod (len + transferSize - 1) transferSize
  have hmod := Nat.mod_lt (len + transferSize - 1) hT
  simp only [blockCount]
  rw [Nat.mul_comm]
  omega

/-- The first `n` blocks, each full, are the first `n * transferSize` bytes. -/
theorem flatMap_blockBytes {n : Nat} (hn : a + n * transferSize ≤ s.info.logCurrent) :
    (List.range n).flatMap (blockBytes a transferSize s) = s.mem.read a (n * transferSize) := by
  induction n with
  | zero =>
      rw [Nat.zero_mul]
      rfl
  | succ n ih =>
      rw [Nat.succ_mul] at hn
      have hfull : min (s.info.logCurrent - (a + n * transferSize)) transferSize = transferSize := by
        omega
      rw [List.range_succ, List.flatMap_append, ih (by omega), List.flatMap_singleton, blockBytes,
        hfull, Nat.succ_mul, read_add]

/-- **The blocks tile the log.** The `blockCount` blocks from `a` concatenate to exactly the
bytes `[a, LogCurrent)`: all but the last are full, and the last holds what is left. -/
theorem flatMap_blockBytes_blockCount (hT : 0 < transferSize) (ha : a ≤ s.info.logCurrent) :
    (List.range (blockCount transferSize (s.info.logCurrent - a))).flatMap
        (blockBytes a transferSize s) =
      s.mem.read a (s.info.logCurrent - a) := by
  have hbounds := blockCount_mul_bounds hT (s.info.logCurrent - a)
  cases hn : blockCount transferSize (s.info.logCurrent - a) with
  | zero =>
      rw [hn, Nat.zero_mul] at hbounds
      have hlen : s.info.logCurrent - a = 0 := by omega
      rw [hlen]
      rfl
  | succ m =>
      have hm : m * transferSize < s.info.logCurrent - a :=
        lt_of_lt_blockCount hT (hn ▸ Nat.lt_succ_self m)
      rw [hn, Nat.succ_mul] at hbounds
      have hlast : min (s.info.logCurrent - (a + m * transferSize)) transferSize =
          s.info.logCurrent - a - m * transferSize := by
        omega
      rw [List.range_succ, List.flatMap_append, flatMap_blockBytes (by omega),
        List.flatMap_singleton, blockBytes, hlast, ← read_add]
      congr 1
      omega

end Sequential

/-! ### A caller reading `V0`, `V1`, … -/

section Caller

variable {rsizeMax : Nat} {s : LoggerState} {dataSize : Nat}

/-- One call of the caller's loop, on the globals the call before left. -/
def getVariableStep (rsizeMax : Nat) (s : LoggerState) (dataSize : Nat) (lib : MmAccessLib)
    (variableName : List UInt16) : GetVariableResult × MmAccessLib :=
  advLoggerAccessGetVariable rsizeMax lib s variableName dataSize true

/-- The globals pass `ValidateInfoBlock` on `s` and agree with `lib₀` on `mLoggerInfo` and
`mLoggerTransferSize`; the check may have recorded `mBufferSize` since. -/
structure Serving (lib₀ : MmAccessLib) (s : LoggerState) (lib : MmAccessLib) : Prop where
  valid : (validateInfoBlock lib s.info).1 = true
  loggerInfo : lib.loggerInfo = lib₀.loggerInfo
  transferSize : lib.loggerTransferSize = lib₀.loggerTransferSize

/-- What a call answers depends on the globals only through the check's verdict,
`mLoggerInfo` and `mLoggerTransferSize`. -/
theorem getVariable_fst_of_serving {lib₀ lib : MmAccessLib} (h : Serving lib₀ s lib)
    (h₀ : Serving lib₀ s lib₀) (hT : lib₀.loggerTransferSize ≠ 0) (variableName : List UInt16)
    (hasData : Bool) :
    (advLoggerAccessGetVariable rsizeMax lib s variableName dataSize hasData).1 =
      (advLoggerAccessGetVariable rsizeMax lib₀ s variableName dataSize hasData).1 := by
  rw [getVariable_of_valid h.valid (h.transferSize ▸ hT), getVariable_of_valid h₀.valid hT,
    h.loggerInfo, h.transferSize]

/-- Every call keeps the globals serving. -/
theorem Serving.step {lib₀ lib : MmAccessLib} (h : Serving lib₀ s lib) (variableName : List UInt16) :
    Serving lib₀ s (getVariableStep rsizeMax s dataSize lib variableName).2 := by
  obtain ⟨hinfo, hsize, -⟩ := @validateInfoBlock_snd lib s.info
  simp only [getVariableStep, getVariable_snd]
  exact ⟨validateInfoBlock_again h.valid, hinfo.trans h.loggerInfo, hsize.trans h.transferSize⟩

/-- **A sequence of calls answers like the first.** Over any names, the caller's calls
return what each would return on the globals it started from. -/
theorem run_getVariableStep {lib₀ : MmAccessLib} (h₀ : Serving lib₀ s lib₀)
    (hT : lib₀.loggerTransferSize ≠ 0) (names : List (List UInt16)) :
    (Machine.run (getVariableStep rsizeMax s dataSize) lib₀ names).1 =
      names.map fun name => (advLoggerAccessGetVariable rsizeMax lib₀ s name dataSize true).1 := by
  have hsim : Prod.map id (fun _ => ()) (Machine.run (getVariableStep rsizeMax s dataSize) lib₀ names) =
      Machine.run (fun _ name => ((advLoggerAccessGetVariable rsizeMax lib₀ s name dataSize true).1, ()))
        () names :=
    @Machine.run_simulation MmAccessLib Unit (List UInt16) GetVariableResult
      (getVariableStep rsizeMax s dataSize)
      (fun _ name => ((advLoggerAccessGetVariable rsizeMax lib₀ s name dataSize true).1, ()))
      (fun _ => ()) (Serving lib₀ s) (fun lib name h => h.step name)
      (fun lib name h => Prod.ext (getVariable_fst_of_serving h h₀ hT name true) rfl) lib₀ h₀ names
  rw [Machine.run_idle] at hsim
  exact congrArg Prod.fst hsim

/-- **Reading the log.** A caller that reads `V0`, `V1`, … in turn gets the blocks of
`[mLoggerInfo, LogCurrent)` in order and then `EFI_NOT_FOUND`, and the blocks concatenate to
exactly those bytes — provided the block after the log does not reach `2 ^ 64`. -/
theorem readLog_blocks {lib : MmAccessLib} {a : Nat}
    (hvalid : (validateInfoBlock lib s.info).1 = true) (ha : lib.loggerInfo = some a)
    (hT : 0 < lib.loggerTransferSize) (hrsize : rsizeMax = 0 ∨ 20 ≤ rsizeMax)
    (hwrap : s.info.logCurrent + lib.loggerTransferSize ≤ 2 ^ 64)
    (hdata : lib.loggerTransferSize ≤ dataSize) :
    let T := lib.loggerTransferSize
    let n := blockCount T (s.info.logCurrent - a)
    (Machine.run (getVariableStep rsizeMax s dataSize) lib ((List.range (n + 1)).map blockName)).1 =
        (List.range n).map (fun k =>
          ⟨.success, (blockBytes a T s k).length, some (blockBytes a T s k)⟩) ++
          [⟨.notFound, dataSize, none⟩] ∧
      (List.range n).flatMap (blockBytes a T s) = s.mem.read a (s.info.logCurrent - a) := by
  intro T n
  -- Name the transfer size and the block count, so that the arithmetic sees them as atoms.
  have hTdef : lib.loggerTransferSize = T := rfl
  have hndef : blockCount T (s.info.logCurrent - a) = n := rfl
  clear_value T n
  rw [hTdef] at hT hwrap hdata
  obtain ⟨-, hbuf, hlo, -, -⟩ := (validateInfoBlock_eq_true_iff ha).mp hvalid
  have hcur : a ≤ s.info.logCurrent := by
    simp only [sizeofAdvancedLoggerInfo] at hbuf
    omega
  obtain ⟨hlow, hhigh⟩ := blockCount_mul_bounds hT (s.info.logCurrent - a)
  rw [hndef] at hlow hhigh
  have hn : n ≤ n * T := Nat.le_mul_of_pos_right n hT
  -- Every block number up to `n` is a `UINTN`, so its name reads back as itself.
  have hcall : ∀ k ≤ n, (advLoggerAccessGetVariable rsizeMax lib s (blockName k) dataSize true).1 =
      getVariableBlock a T s k dataSize true := by
    intro k hk
    rw [getVariable_of_valid hvalid (hTdef ▸ hT.ne'), getVariableByName_blockName _ hrsize, ha,
      Option.getD_some, hTdef]
    simp only [maxUintn]
    omega
  -- The blocks before `n` start before `LogCurrent`, with no wrap.
  have hblock : ∀ k < n, getVariableBlock a T s k dataSize true =
      ⟨.success, (blockBytes a T s k).length, some (blockBytes a T s k)⟩ := by
    intro k hk
    have hkT : k * T < s.info.logCurrent - a := lt_of_lt_blockCount hT (hndef ▸ hk)
    have hmod : (a + k * T) % 2 ^ 64 = a + k * T := Nat.mod_eq_of_lt (by omega)
    rw [getVariableBlock_of_lt (by omega) hdata, hmod, blockBytes, length_read]
  -- Block `n` starts at or past `LogCurrent`, still below `2 ^ 64`.
  have hlast : getVariableBlock a T s n dataSize true = ⟨.notFound, dataSize, none⟩ := by
    have hmod : (a + n * T) % 2 ^ 64 = a + n * T := Nat.mod_eq_of_lt (by omega)
    exact getVariableBlock_of_le (by omega) true
  refine ⟨?_, hndef ▸ flatMap_blockBytes_blockCount hT hcur⟩
  rw [run_getVariableStep ⟨hvalid, rfl, rfl⟩ (hTdef ▸ hT.ne'), List.map_map, List.range_succ, List.map_append,
    List.map_singleton]
  congr 1
  · refine List.map_congr_left fun k hk => ?_
    have hk' : k < n := List.mem_range.mp hk
    simp only [Function.comp_apply]
    rw [hcall k (Nat.le_of_lt hk'), hblock k hk']
  · simp only [Function.comp_apply]
    rw [hcall n (Nat.le_refl n), hlast]

/-- The SMM library on a block at `0x1000` with `0xB0` bytes of log, read in `0x8000`-byte
blocks: the block passed `ValidateInfoBlock` at the library's initialisation. -/
theorem readLog_blocks_smm :
    let info : AdvancedLoggerInfo := ⟨advancedLoggerSignature, 0x1050, 0x10B0, 0, 0xFB0, false⟩
    let lib := advLoggerAccessInitSmm (some 0x1000) info 0x8400
    let s : LoggerState := ⟨info, fun _ => 0⟩
    let T := lib.loggerTransferSize
    let n := blockCount T (s.info.logCurrent - 0x1000)
    (validateInfoBlock lib s.info).1 = true ∧ lib.loggerInfo = some 0x1000 ∧ 0 < T ∧
      s.info.logCurrent + T ≤ 2 ^ 64 ∧ T ≤ 0x8000 ∧
      (Machine.run (getVariableStep 0 s 0x8000) lib ((List.range (n + 1)).map blockName)).1 =
          (List.range n).map (fun k =>
            ⟨.success, (blockBytes 0x1000 T s k).length, some (blockBytes 0x1000 T s k)⟩) ++
            [⟨.notFound, 0x8000, none⟩] ∧
        (List.range n).flatMap (blockBytes 0x1000 T s) = s.mem.read 0x1000 (s.info.logCurrent - 0x1000) := by
  intro info lib s T n
  have ha : lib.loggerInfo = some 0x1000 := by decide
  have hvalid : (validateInfoBlock lib s.info).1 = true := validateInfoBlock_advLoggerAccessInitSmm ha
  have hT : 0 < T := by decide
  have hwrap : s.info.logCurrent + T ≤ 2 ^ 64 := by decide
  have hdata : T ≤ 0x8000 := by decide
  exact ⟨hvalid, ha, hT, hwrap, hdata, readLog_blocks hvalid ha hT (Or.inl rfl) hwrap hdata⟩

end Caller

/-! ### A block number that wraps -/

/-- With `g = gcd (T, 2 ^ 64)`, block number `2 ^ 64 / g - 1` times `T` is `-T` modulo
`2 ^ 64`: the block starts `T` bytes below `a`. -/
theorem wrap_start {a T : Nat} (hT : 0 < T) (hTa : T ≤ a) (ha : a < 2 ^ 64) :
    (a + (2 ^ 64 / Nat.gcd T (2 ^ 64) - 1) * T) % 2 ^ 64 = a - T := by
  obtain ⟨t, ht⟩ := Nat.gcd_dvd_left T (2 ^ 64)
  obtain ⟨q, hq⟩ := Nat.gcd_dvd_right T (2 ^ 64)
  have hg : 0 < Nat.gcd T (2 ^ 64) := Nat.gcd_pos_of_pos_left _ hT
  generalize Nat.gcd T (2 ^ 64) = g at ht hq hg ⊢
  have hdiv : 2 ^ 64 / g = q := by
    rw [hq]
    exact Nat.mul_div_cancel_left q hg
  have hq1 : 1 ≤ q := by
    rcases Nat.eq_zero_or_pos q with h | h
    · rw [h, Nat.mul_zero] at hq
      exact absurd hq (by decide)
    · exact h
  -- `q * T = 2 ^ 64 * t`, so `(q - 1) * T = 2 ^ 64 * t - T`.
  have hprod : (q - 1) * T + T = 2 ^ 64 * t := by
    calc (q - 1) * T + T = q * T := by
          rw [← Nat.succ_mul, Nat.succ_eq_add_one, Nat.sub_add_cancel hq1]
      _ = (g * q) * t := by rw [ht]; ring
      _ = 2 ^ 64 * t := by rw [← hq]
  have hsum : a + (q - 1) * T = (a - T) + 2 ^ 64 * t := by omega
  rw [hdiv, hsum, Nat.add_mul_mod_self_left, Nat.mod_eq_of_lt (by omega)]

/-- **A block number can reach below the info block.** On every block that passes the check,
with `T = mLoggerTransferSize` at most the block's address, the name `V` followed by the
numeral of `2 ^ 64 / gcd (T, 2 ^ 64) - 1` is accepted: the product wraps to `-T`,
`LogBufferStart` lands `T` bytes below `mLoggerInfo`, still below `LogBufferEnd`, and the
call copies the `T` bytes just below the info block. -/
theorem getVariable_reads_below_loggerInfo {rsizeMax : Nat} {lib : MmAccessLib} {s : LoggerState}
    {a : Nat} (hvalid : (validateInfoBlock lib s.info).1 = true) (ha : lib.loggerInfo = some a)
    (hT : 0 < lib.loggerTransferSize) (hbelow : lib.loggerTransferSize ≤ a) (ha64 : a < 2 ^ 64)
    (hrsize : rsizeMax = 0 ∨ 20 ≤ rsizeMax) {dataSize : Nat}
    (hdata : lib.loggerTransferSize ≤ dataSize) :
    let T := lib.loggerTransferSize
    let k := 2 ^ 64 / Nat.gcd T (2 ^ 64) - 1
    k ≤ maxUintn ∧
      (advLoggerAccessGetVariable rsizeMax lib s (blockName k) dataSize true).1 =
        ⟨.success, T, some (s.mem.read (a - T) T)⟩ := by
  intro T k
  have hTdef : lib.loggerTransferSize = T := rfl
  have hkdef : 2 ^ 64 / Nat.gcd T (2 ^ 64) - 1 = k := rfl
  clear_value T k
  rw [hTdef] at hT hbelow hdata
  have hk : k ≤ maxUintn := by
    rw [← hkdef]
    have := Nat.div_le_self (2 ^ 64) (Nat.gcd T (2 ^ 64))
    simp only [maxUintn]
    omega
  obtain ⟨-, hbuf, hlo, -, -⟩ := (validateInfoBlock_eq_true_iff ha).mp hvalid
  have hstart : (a + k * T) % 2 ^ 64 = a - T := hkdef ▸ wrap_start hT hbelow ha64
  have hlt : (a + k * T) % 2 ^ 64 < s.info.logCurrent := by
    rw [hstart]
    simp only [sizeofAdvancedLoggerInfo] at hbuf
    omega
  have hsize : min (s.info.logCurrent - (a - T)) T = T := by omega
  refine ⟨hk, ?_⟩
  rw [getVariable_of_valid hvalid (hTdef ▸ hT.ne'), getVariableByName_blockName hk hrsize, ha,
    Option.getD_some, hTdef, getVariableBlock_of_lt hlt hdata, hstart, hsize]


/-- `PcdMaxVariableSize = 0x8400` gives blocks of `0x8000` bytes. With the info block at
`0x7F000000`, `V562949953421311` (`2 ^ 49 - 1` blocks, `2 ^ 64 - 0x8000` bytes) reads the
`0x8000` bytes from `0x7EFF8000`, below the block. -/
theorem getVariable_reads_below_loggerInfo_8400 :
    let info : AdvancedLoggerInfo :=
      ⟨advancedLoggerSignature, 0x7F000050, 0x7F000150, 0, 0xFFB0, false⟩
    let lib := advLoggerAccessInit (some 0x7F000000) info 0x8400
    (validateInfoBlock lib info).1 = true ∧ lib.loggerTransferSize = 0x8000 ∧
      2 ^ 64 / Nat.gcd lib.loggerTransferSize (2 ^ 64) - 1 = 2 ^ 49 - 1 ∧
      (advLoggerAccessGetVariable 1000000 lib ⟨info, fun _ => 0⟩ (blockName (2 ^ 49 - 1)) 0x8000
        true).1 = ⟨.success, 0x8000, some (ByteMem.read (fun _ => 0) 0x7EFF8000 0x8000)⟩ := by
  have hvalid : (validateInfoBlock (advLoggerAccessInit (some 0x7F000000)
      ⟨advancedLoggerSignature, 0x7F000050, 0x7F000150, 0, 0xFFB0, false⟩ 0x8400)
      ⟨advancedLoggerSignature, 0x7F000050, 0x7F000150, 0, 0xFFB0, false⟩).1 = true := by
    decide
  have hT : (advLoggerAccessInit (some 0x7F000000)
      ⟨advancedLoggerSignature, 0x7F000050, 0x7F000150, 0, 0xFFB0, false⟩ 0x8400).loggerTransferSize =
      0x8000 := by
    decide
  have hk : 2 ^ 64 / Nat.gcd 0x8000 (2 ^ 64) - 1 = 2 ^ 49 - 1 := by decide
  obtain ⟨-, hread⟩ := @getVariable_reads_below_loggerInfo 1000000 _
    ⟨⟨advancedLoggerSignature, 0x7F000050, 0x7F000150, 0, 0xFFB0, false⟩, fun _ => 0⟩ 0x7F000000
    hvalid rfl (by rw [hT]; decide) (by rw [hT]; decide) (by decide) (Or.inr (by decide)) 0x8000
    (by rw [hT])
  rw [hT, hk] at hread
  exact ⟨hvalid, hT, by rw [hT, hk], hread⟩

end MuPlus.AdvLogger.MmAccess
