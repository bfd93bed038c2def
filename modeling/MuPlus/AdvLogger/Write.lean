import MuPlus.AdvLogger.Layout

/-!
# MuPlus.AdvLogger.Write

**The writer side of the in-memory log**: `AdvancedLoggerMemoryLoggerWrite`
(`AdvancedLoggerLib/AdvancedLoggerCommon.c`) and the two permanent-RAM
migrations that move a temporary-RAM log into its final pages,
`InstallPermanentMemoryBuffer` (`AdvancedLoggerLib/PeiCore`) and the
`DEBUG_AGENT_INIT_POSTMEM_SEC` branch of the SEC debug agent
(`Library/DebugAgent/Sec`).

The write here is the code run with no concurrent writer, where each of its two
compare-exchange loops succeeds on its first iteration;
`MuPlus.AdvLogger.Concurrent` models the loops step by step and shows that a
writer running alone ends exactly here (`soloRun_eq_write`).

## Proof shape

`LogInv s msgs` says that the log of state `s` holds exactly the entries of
`msgs`, back to back from `LogBuffer`, with `LogCurrent` right after the last
one and within the buffer. A write either appends its message (when it fits)
or only bumps `DiscardedSize`; a migration copies the used bytes and so
relocates the layout (`LogLayout.relocate`). `LogInv.run` lifts the
one-step lemmas to any run, with `loggedMessages` the messages that fitted.
-/

namespace MuPlus.AdvLogger

open ByteMem

/-- The fields of `ADVANCED_LOGGER_INFO` that the writer, the migrations and
the reader use. `LogBuffer` and `LogCurrent` are physical addresses. -/
structure AdvancedLoggerInfo where
  signature : UInt32
  logBuffer : Nat
  logCurrent : Nat
  discardedSize : UInt32
  logBufferSize : Nat
  inPermanentRAM : Bool
  deriving Repr

/-- The logger: its info block and the memory that holds the log buffer. -/
structure LoggerState where
  info : AdvancedLoggerInfo
  mem : ByteMem

/-- The message a write of `buffer` stores: `(UINT32) DebugLevel`, the
`GetPerformanceCounter ()` value and the `NumberOfBytes` bytes of `Buffer`. -/
def writtenMessage (debugLevel : Nat) (buffer : List UInt8) (timeStamp : UInt64) : LogMessage :=
  ⟨debugLevel.toUInt32, timeStamp, buffer⟩

/-- `AdvancedLoggerMemoryLoggerWrite (DebugLevel, Buffer, NumberOfBytes)`, with
`NumberOfBytes` the length of `buffer` and `timeStamp` the counter value read
after the reservation. An empty or over-long message is dropped; a message that
does not fit the remaining buffer is counted in `DiscardedSize` (a `UINT32`);
otherwise `LogCurrent` moves past a new entry. -/
def advancedLoggerMemoryLoggerWrite (s : LoggerState) (debugLevel : Nat)
    (buffer : List UInt8) (timeStamp : UInt64) : LoggerState :=
  if buffer.length = 0 ∨ maxUint16 < buffer.length then s
  else
    let entrySize := messageEntrySize buffer.length
    let currentBuffer := s.info.logCurrent
    let usedSize := currentBuffer - s.info.logBuffer
    if s.info.logBufferSize ≤ usedSize ∨ s.info.logBufferSize - usedSize < entrySize then
      { s with info := { s.info with
          discardedSize := s.info.discardedSize + buffer.length.toUInt32 } }
    else
      { info := { s.info with logCurrent := currentBuffer + entrySize }
        mem := writeMessageEntry s.mem currentBuffer (writtenMessage debugLevel buffer timeStamp) }

/-! ### The capacity test -/

/-- An entry for a message of `len` bytes fits what is left of the buffer: its
`MESSAGE_ENTRY_SIZE` is at most `LogBufferSize` less the bytes in use. -/
def Fits (info : AdvancedLoggerInfo) (len : Nat) : Prop :=
  messageEntrySize len ≤ info.logBufferSize - (info.logCurrent - info.logBuffer)

instance (info : AdvancedLoggerInfo) (len : Nat) : Decidable (Fits info len) :=
  inferInstanceAs (Decidable (_ ≤ _))

/-- The writer's two-part overflow test is exactly the failure of `Fits`: the
first part only matters when the buffer is full, where no entry (of positive
size) fits anyway. -/
theorem full_iff_not_fits (info : AdvancedLoggerInfo) (len : Nat) :
    (info.logBufferSize ≤ info.logCurrent - info.logBuffer ∨
        info.logBufferSize - (info.logCurrent - info.logBuffer) < messageEntrySize len) ↔
      ¬ Fits info len := by
  have := messageEntrySize_pos len
  simp only [Fits]
  omega

/-- A valid write that fits appends its entry and moves `LogCurrent`. -/
theorem write_of_fits {s : LoggerState} {debugLevel : Nat} {buffer : List UInt8}
    {timeStamp : UInt64} (h₀ : 0 < buffer.length) (h₁ : buffer.length ≤ maxUint16)
    (hfit : Fits s.info buffer.length) :
    advancedLoggerMemoryLoggerWrite s debugLevel buffer timeStamp =
      { info := { s.info with logCurrent := s.info.logCurrent + messageEntrySize buffer.length }
        mem := writeMessageEntry s.mem s.info.logCurrent
          (writtenMessage debugLevel buffer timeStamp) } := by
  have hfull := (full_iff_not_fits s.info buffer.length).not.mpr (not_not.mpr hfit)
  simp only [advancedLoggerMemoryLoggerWrite]
  rw [if_neg (by omega), if_neg hfull]

/-- A valid write that does not fit only adds its length to `DiscardedSize`. -/
theorem write_of_not_fits {s : LoggerState} {debugLevel : Nat} {buffer : List UInt8}
    {timeStamp : UInt64} (h₀ : 0 < buffer.length) (h₁ : buffer.length ≤ maxUint16)
    (hfit : ¬ Fits s.info buffer.length) :
    advancedLoggerMemoryLoggerWrite s debugLevel buffer timeStamp =
      { s with info := { s.info with
          discardedSize := s.info.discardedSize + buffer.length.toUInt32 } } := by
  have hfull := (full_iff_not_fits s.info buffer.length).mpr hfit
  simp only [advancedLoggerMemoryLoggerWrite]
  rw [if_neg (by omega), if_pos hfull]

/-! ### Migration to permanent RAM -/

/-- `LogBufferSize` after a migration to `pages` pages: the `UINTN` value
`EFI_PAGES_TO_SIZE (pages) - sizeof (ADVANCED_LOGGER_INFO)` stored in a `UINT32`. -/
def migratedLogBufferSize (pages : Nat) : Nat :=
  (pages * efiPageSize + (2 ^ 32 - sizeofAdvancedLoggerInfo)) % 2 ^ 32

/-- The body shared by both migrations: copy the info block to `newLoggerInfo`,
put the log right after it, copy the `LogCurrent - LogBuffer` used bytes
(`CopyMem` handles overlap, so the copy is read-then-write) and resize. -/
def relocateLoggerInfo (s : LoggerState) (newLoggerInfo pages : Nat) : LoggerState :=
  let currentLogOffset := s.info.logCurrent - s.info.logBuffer
  let newLogBuffer := newLoggerInfo + sizeofAdvancedLoggerInfo
  { info := { s.info with
      logBuffer := newLogBuffer
      logCurrent := newLogBuffer + currentLogOffset
      logBufferSize := migratedLogBufferSize pages
      inPermanentRAM := true }
    mem := s.mem.write newLogBuffer (s.mem.read s.info.logBuffer currentLogOffset) }

/-- `InstallPermanentMemoryBuffer`: only a log still in temporary RAM moves.
`newLogBuffer` is the address `PeiServicesAllocatePages` returned for
`PcdAdvancedLoggerPages` pages, or `none` when the HOB or the pages are missing. -/
def installPermanentMemoryBuffer (s : LoggerState) (newLogBuffer : Option Nat) (pages : Nat) :
    LoggerState :=
  if s.info.inPermanentRAM then s
  else match newLogBuffer with
    | none => s
    | some a => relocateLoggerInfo s a pages

/-- The `DEBUG_AGENT_INIT_POSTMEM_SEC` copy: it moves a log whose info block
carries the `ALOG` signature. -/
def debugAgentPostMemSec (s : LoggerState) (newLogBuffer : Option Nat) (pages : Nat) :
    LoggerState :=
  if s.info.signature ≠ advancedLoggerSignature then s
  else match newLogBuffer with
    | none => s
    | some a => relocateLoggerInfo s a pages

/-! ### The log invariant -/

/-- The log of `s` holds exactly the entries of `msgs`, in order. -/
structure LogInv (s : LoggerState) (msgs : List LogMessage) : Prop where
  /-- `LogBuffer` is 8-byte aligned (the info block is, and its size is a multiple of 8). -/
  aligned : s.info.logBuffer % 8 = 0
  /-- `LogCurrent` is right after the last entry. -/
  current : s.info.logCurrent = s.info.logBuffer + logSize msgs
  /-- `LogCurrent` never passes the end of the buffer. -/
  bounded : s.info.logCurrent ≤ s.info.logBuffer + s.info.logBufferSize
  /-- The entries sit back to back from `LogBuffer`. -/
  layout : LogLayout s.mem s.info.logBuffer msgs

/-- A freshly initialised info block (`LogCurrent = LogBuffer`, aligned) holds
the empty log. -/
theorem logInv_init {s : LoggerState} (hcur : s.info.logCurrent = s.info.logBuffer)
    (halign : s.info.logBuffer % 8 = 0) : LogInv s [] :=
  ⟨halign, by simp [hcur], by omega, trivial⟩

/-- A write that fits extends the log by its message. -/
theorem LogInv.write_fits {s : LoggerState} {msgs : List LogMessage} (h : LogInv s msgs)
    {debugLevel : Nat} {buffer : List UInt8} {timeStamp : UInt64} (h₀ : 0 < buffer.length)
    (h₁ : buffer.length ≤ maxUint16) (hfit : Fits s.info buffer.length) :
    LogInv (advancedLoggerMemoryLoggerWrite s debugLevel buffer timeStamp)
      (msgs ++ [writtenMessage debugLevel buffer timeStamp]) := by
  rw [write_of_fits h₀ h₁ hfit]
  set msg := writtenMessage debugLevel buffer timeStamp
  have hsize : msg.entrySize = messageEntrySize buffer.length := rfl
  have hspan := msg.span_le_entrySize
  have hbound := h.bounded
  simp only [Fits] at hfit
  refine ⟨h.aligned, ?_, ?_, ?_⟩
  · simp only [logSize_append, logSize_cons, logSize_nil, h.current]
    omega
  · dsimp only
    omega
  · -- the old entries lie below `LogCurrent`, where the new entry starts
    have hold : LogLayout (writeMessageEntry s.mem s.info.logCurrent msg) s.info.logBuffer msgs :=
      h.layout.frame fun x _ hx => writeMessageEntry_apply_of_disjoint (Or.inl (by
        rw [h.current]; exact hx))
    refine hold.append ?_
    rw [← h.current]
    exact writeMessageEntry_entryAt _ _ _ h₁

/-- A write that does not fit leaves the log as it is. -/
theorem LogInv.write_not_fits {s : LoggerState} {msgs : List LogMessage} (h : LogInv s msgs)
    {debugLevel : Nat} {buffer : List UInt8} {timeStamp : UInt64} (h₀ : 0 < buffer.length)
    (h₁ : buffer.length ≤ maxUint16) (hfit : ¬ Fits s.info buffer.length) :
    LogInv (advancedLoggerMemoryLoggerWrite s debugLevel buffer timeStamp) msgs := by
  rw [write_of_not_fits h₀ h₁ hfit]
  exact ⟨h.aligned, h.current, h.bounded, h.layout⟩

/-- A migration to page-aligned memory large enough for the used part of the
log carries the log over unchanged. -/
theorem LogInv.relocate {s : LoggerState} {msgs : List LogMessage} (h : LogInv s msgs)
    {newLoggerInfo pages : Nat} (halign : newLoggerInfo % efiPageSize = 0)
    (hroom : s.info.logCurrent - s.info.logBuffer ≤ migratedLogBufferSize pages) :
    LogInv (relocateLoggerInfo s newLoggerInfo pages) msgs := by
  have hused : s.info.logCurrent - s.info.logBuffer = logSize msgs := by
    rw [h.current]; omega
  simp only [efiPageSize] at halign
  refine ⟨?_, ?_, ?_, ?_⟩
  · simp only [relocateLoggerInfo, sizeofAdvancedLoggerInfo]
    omega
  · simp only [relocateLoggerInfo, hused]
  · simp only [relocateLoggerInfo]
    omega
  · -- the copy puts byte `LogBuffer + i` of the old log at `newLogBuffer + i`
    refine h.layout.relocate fun i hi => ?_
    simp only [relocateLoggerInfo]
    rw [write_apply_add (by simpa [hused] using hi), getElem_read]

/-! ### What a write does to the info block -/

/-- The effect of one valid write of `n` bytes on the info block: an entry that
fits moves `LogCurrent` past its slot and leaves `DiscardedSize`; any other adds
`n` to `DiscardedSize` (modulo `2 ^ 32`) and leaves `LogCurrent`. -/
def WriteOutcome (s : LoggerState) (n : Nat) (s' : LoggerState) : Prop :=
  if Fits s.info n then
    s'.info.logCurrent = s.info.logCurrent + messageEntrySize n ∧
      s'.info.discardedSize = s.info.discardedSize
  else
    s'.info.logCurrent = s.info.logCurrent ∧
      s'.info.discardedSize = s.info.discardedSize + n.toUInt32

theorem writeOutcome_write {s : LoggerState} {debugLevel : Nat} {buffer : List UInt8}
    {timeStamp : UInt64} (h₀ : 0 < buffer.length) (h₁ : buffer.length ≤ maxUint16) :
    WriteOutcome s buffer.length (advancedLoggerMemoryLoggerWrite s debugLevel buffer timeStamp) := by
  unfold WriteOutcome
  split
  · next hfit => rw [write_of_fits h₀ h₁ hfit]; exact ⟨rfl, rfl⟩
  · next hfit => rw [write_of_not_fits h₀ h₁ hfit]; exact ⟨rfl, rfl⟩

/-! ### Runs -/

/-- One operation on the logger before DXE: a write, or one of the two migrations. -/
inductive LoggerOp where
  | write (debugLevel : Nat) (buffer : List UInt8) (timeStamp : UInt64)
  | installPermanentMemoryBuffer (newLogBuffer : Option Nat) (pages : Nat)
  | debugAgentPostMemSec (newLogBuffer : Option Nat) (pages : Nat)

/-- Run one operation. -/
def LoggerOp.apply (s : LoggerState) : LoggerOp → LoggerState
  | .write debugLevel buffer timeStamp => advancedLoggerMemoryLoggerWrite s debugLevel buffer timeStamp
  | .installPermanentMemoryBuffer a pages => AdvLogger.installPermanentMemoryBuffer s a pages
  | .debugAgentPostMemSec a pages => AdvLogger.debugAgentPostMemSec s a pages

/-- The conditions a run is taken under: messages of `1 ≤ NumberOfBytes ≤ MAX_UINT16`
bytes, and migrations to page-aligned pages (as `PeiServicesAllocatePages`
returns them) whose new `LogBufferSize` holds the used part of the log. -/
def LoggerOp.Admissible (s : LoggerState) : LoggerOp → Prop
  | .write _ buffer _ => 0 < buffer.length ∧ buffer.length ≤ maxUint16
  | .installPermanentMemoryBuffer a pages | .debugAgentPostMemSec a pages =>
      ∀ n ∈ a, n % efiPageSize = 0 ∧
        s.info.logCurrent - s.info.logBuffer ≤ migratedLogBufferSize pages

/-- The message an operation commits to the log: that of a write whose entry fits. -/
def LoggerOp.logged (s : LoggerState) : LoggerOp → List LogMessage
  | .write debugLevel buffer timeStamp =>
      if Fits s.info buffer.length then [writtenMessage debugLevel buffer timeStamp] else []
  | _ => []

/-- Run operations in order. -/
def runLogger : LoggerState → List LoggerOp → LoggerState
  | s, [] => s
  | s, op :: ops => runLogger (op.apply s) ops

/-- The messages a run commits to the log, in order. -/
def loggedMessages : LoggerState → List LoggerOp → List LogMessage
  | _, [] => []
  | s, op :: ops => op.logged s ++ loggedMessages (op.apply s) ops

/-- Every operation of the run is admissible in the state it runs from. -/
def AdmissibleRun : LoggerState → List LoggerOp → Prop
  | _, [] => True
  | s, op :: ops => op.Admissible s ∧ AdmissibleRun (op.apply s) ops

theorem runLogger_append (s : LoggerState) (xs ys : List LoggerOp) :
    runLogger s (xs ++ ys) = runLogger (runLogger s xs) ys := by
  induction xs generalizing s with
  | nil => rfl
  | cons op xs ih => exact ih _

theorem admissibleRun_append {s : LoggerState} {xs ys : List LoggerOp} :
    AdmissibleRun s (xs ++ ys) ↔ AdmissibleRun s xs ∧ AdmissibleRun (runLogger s xs) ys := by
  induction xs generalizing s with
  | nil => simp [AdmissibleRun, runLogger]
  | cons op xs ih =>
      simp only [List.cons_append, AdmissibleRun, runLogger, ih, and_assoc]

/-- The `k`-th operation of an admissible run is admissible where it runs, and
the run up to and including it is the run up to it followed by it. -/
theorem AdmissibleRun.getElem {s : LoggerState} {ops : List LoggerOp} (h : AdmissibleRun s ops)
    {k : Nat} (hk : k < ops.length) :
    ops[k].Admissible (runLogger s (ops.take k)) ∧
      runLogger s (ops.take (k + 1)) = ops[k].apply (runLogger s (ops.take k)) := by
  have hsplit : ops = ops.take k ++ ops[k] :: ops.drop (k + 1) := by
    simp
  rw [hsplit, admissibleRun_append] at h
  refine ⟨h.2.1, ?_⟩
  rw [List.take_add_one, List.getElem?_eq_getElem hk, Option.toList_some, runLogger_append]
  rfl

/-- One operation keeps the log invariant, adding the message it commits. -/
theorem LogInv.step {s : LoggerState} {msgs : List LogMessage} (h : LogInv s msgs)
    {op : LoggerOp} (hop : op.Admissible s) : LogInv (op.apply s) (msgs ++ op.logged s) := by
  cases op with
  | write debugLevel buffer timeStamp =>
      obtain ⟨h₀, h₁⟩ := hop
      simp only [LoggerOp.apply, LoggerOp.logged]
      split
      · next hfit => exact h.write_fits h₀ h₁ hfit
      · next hfit => simpa using h.write_not_fits h₀ h₁ hfit
  | installPermanentMemoryBuffer a pages =>
      simp only [LoggerOp.apply, LoggerOp.logged, List.append_nil,
        AdvLogger.installPermanentMemoryBuffer]
      split
      · exact h
      · cases a with
        | none => exact h
        | some n => exact h.relocate (hop n rfl).1 (hop n rfl).2
  | debugAgentPostMemSec a pages =>
      simp only [LoggerOp.apply, LoggerOp.logged, List.append_nil, AdvLogger.debugAgentPostMemSec]
      split
      · exact h
      · cases a with
        | none => exact h
        | some n => exact h.relocate (hop n rfl).1 (hop n rfl).2

/-- **Run invariant.** Along an admissible run the log holds the messages it held
before, followed by those the run committed. -/
theorem LogInv.run {s : LoggerState} {msgs : List LogMessage} (h : LogInv s msgs)
    {ops : List LoggerOp} (hops : AdmissibleRun s ops) :
    LogInv (runLogger s ops) (msgs ++ loggedMessages s ops) := by
  induction ops generalizing s msgs with
  | nil => simpa [runLogger, loggedMessages] using h
  | cons op ops ih =>
      have hstep := h.step hops.1
      simpa [runLogger, loggedMessages, List.append_assoc] using ih hstep hops.2

end MuPlus.AdvLogger
