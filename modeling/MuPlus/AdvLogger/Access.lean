import MuPlus.AdvLogger.Write
import MuPlus.Uefi.Status

/-!
# MuPlus.AdvLogger.Access

**The reader side of the in-memory log**: `AdvancedLoggerAccessLibGetNextMessageBlock`
(`AdvancedLoggerAccessLib/AdvancedLoggerAccessLib.c`) and the state its
constructor leaves in the module globals `mLoggerInfo`, `mLowAddress`,
`mHighAddress`.

The reader resumes from the text pointer it returned last, steps back to the
entry header (`MESSAGE_ENTRY_FROM_MSG`), checks its signature and moves on by
`NEXT_LOG_ENTRY`; the next entry must be 8-aligned, within
`[mLowAddress, mHighAddress]` and, to be returned, below `LogCurrent` and
signed.

## Proof shape

`Resumes s be a` says that the block entry `be` was left just before the entry
at `a`: it is the zeroed entry and `a = LogBuffer`, or it shows an entry whose
slot ends at `a`. From a layout that continues at `a`, one call either returns
the entry at `a` and `Resumes` at the next slot (`getNextMessageBlock_of_entry`)
or, at `LogCurrent`, `EFI_END_OF_FILE` (`getNextMessageBlock_of_end`).
`collectMessageBlocks_of_layout` is the induction over the remaining entries,
and `advancedLogger_reads_back_every_accepted_write` combines it with the
writer's run invariant.
-/

namespace MuPlus.AdvLogger

open ByteMem

/-- `ADVANCED_LOGGER_MAX_MESSAGE_SIZE`. -/
def advancedLoggerMaxMessageSize : Nat := 512

/-- The access library's module globals. `started` is `mLoggerInfo != NULL`. -/
structure AccessLib where
  started : Bool
  lowAddress : Nat
  highAddress : Nat
  maxMessageSize : Nat

/-- `AdvancedLoggerAccessLibConstructor`: `info` is the logger info block the
Advanced Logger protocol leads to, or `none` when `LocateProtocol` fails. -/
def advancedLoggerAccessLibConstructor : Option AdvancedLoggerInfo → AccessLib
  | none => ⟨false, 0, 0, advancedLoggerMaxMessageSize⟩
  | some info => ⟨true, info.logBuffer, info.logBuffer + info.logBufferSize,
      advancedLoggerMaxMessageSize⟩

/-- `ADVANCED_LOGGER_ACCESS_MESSAGE_BLOCK_ENTRY`; `message` is the text pointer
(`NULL` on the first call). -/
structure BlockEntry where
  message : Option Nat
  debugLevel : UInt32
  messageLen : Nat
  timeStamp : UInt64
  deriving DecidableEq, Repr

/-- A zeroed block entry, as callers pass on the first call. -/
def BlockEntry.zero : BlockEntry := ⟨none, 0, 0, 0⟩

/-- `NEXT_LOG_ENTRY (LogEntry)`: the next slot, sized by the stored `MessageLen`. -/
def nextLogEntry (mem : ByteMem) (logEntry : Nat) : Nat :=
  logEntry + messageEntrySize (mem.loadLe (logEntry + 16) 2)

/-- The entry the reader looks at next: the first one, or the one after the
entry whose text `be.message` points to — `none` when that entry's signature
is gone. -/
def resumeLogEntry (s : LoggerState) (be : BlockEntry) : Option Nat :=
  match be.message with
  | none => some s.info.logBuffer
  | some message =>
      let logEntry := message - messageEntryHeaderSize
      if s.mem.loadLe logEntry 4 ≠ messageEntrySignature then none
      else some (nextLogEntry s.mem logEntry)

/-- `AdvancedLoggerAccessLibGetNextMessageBlock (BlockEntry)`: the status and
the updated block entry. -/
def advancedLoggerAccessLibGetNextMessageBlock (lib : AccessLib) (s : LoggerState)
    (be : BlockEntry) : EfiStatus × BlockEntry :=
  if !lib.started then (.notStarted, be)
  else if s.info.logCurrent = s.info.logBuffer then (.endOfFile, be)
  else match resumeLogEntry s be with
    | none => (.invalidParameter, be)
    | some logEntry =>
        if logEntry % 8 ≠ 0 ∨ logEntry < lib.lowAddress ∨ lib.highAddress < logEntry then
          (.invalidParameter, be)
        else if s.info.logCurrent ≤ logEntry then (.endOfFile, be)
        else if s.mem.loadLe logEntry 4 ≠ messageEntrySignature then (.compromisedData, be)
        else (.success,
          { message := some (logEntry + messageEntryHeaderSize)
            debugLevel := (s.mem.loadLe (logEntry + 4) 4).toUInt32
            messageLen := s.mem.loadLe (logEntry + 16) 2
            timeStamp := (s.mem.loadLe (logEntry + 8) 8).toUInt64 })

/-- Call the reader until it returns anything but `EFI_SUCCESS`, at most `fuel`
times: the successful block entries in order, and the final status (`none`
when the fuel ran out first). -/
def collectMessageBlocks (lib : AccessLib) (s : LoggerState) :
    Nat → BlockEntry → List BlockEntry × Option EfiStatus
  | 0, _ => ([], none)
  | fuel + 1, be =>
      match advancedLoggerAccessLibGetNextMessageBlock lib s be with
      | (.success, be') =>
          let rest := collectMessageBlocks lib s fuel be'
          (be' :: rest.1, rest.2)
      | (status, _) => ([], some status)

/-! ### What a block entry shows -/

/-- The block entry shows `msg`: its level, time stamp and length, and a text
pointer at `msg`'s bytes. -/
structure BlockEntry.Shows (mem : ByteMem) (be : BlockEntry) (msg : LogMessage) : Prop where
  debugLevel : be.debugLevel = msg.debugLevel
  timeStamp : be.timeStamp = msg.timeStamp
  messageLen : be.messageLen = msg.text.length
  text : ∃ p, be.message = some p ∧ mem.read p be.messageLen = msg.text

/-- `be` was left just before the slot at `a`. -/
def Resumes (s : LoggerState) (be : BlockEntry) (a : Nat) : Prop :=
  (be.message = none ∧ a = s.info.logBuffer) ∨
    ∃ b msg, be.message = some (b + messageEntryHeaderSize) ∧ EntryAt s.mem b msg ∧
      a = b + msg.entrySize

/-- Resuming recomputes the slot the writer used: `NEXT_LOG_ENTRY` reads back the
stored `MessageLen`, so the reader lands on `a`. -/
theorem resumeLogEntry_of_resumes {s : LoggerState} {be : BlockEntry} {a : Nat}
    (h : Resumes s be a) : resumeLogEntry s be = some a := by
  rcases h with ⟨hnone, rfl⟩ | ⟨b, msg, hsome, hentry, rfl⟩
  · simp [resumeLogEntry, hnone]
  · have hb : b + messageEntryHeaderSize - messageEntryHeaderSize = b := by omega
    simp only [resumeLogEntry, hsome, hb, hentry.signature, ne_eq, not_true_eq_false,
      if_false, nextLogEntry, hentry.messageLen]
    rfl

/-- The block entry a successful call returns for an entry at `a`. -/
def entryBlock (s : LoggerState) (a : Nat) : BlockEntry :=
  { message := some (a + messageEntryHeaderSize)
    debugLevel := (s.mem.loadLe (a + 4) 4).toUInt32
    messageLen := s.mem.loadLe (a + 16) 2
    timeStamp := (s.mem.loadLe (a + 8) 8).toUInt64 }

theorem entryBlock_shows {s : LoggerState} {a : Nat} {msg : LogMessage} (h : EntryAt s.mem a msg) :
    (entryBlock s a).Shows s.mem msg := by
  refine ⟨?_, ?_, h.messageLen, ⟨a + messageEntryHeaderSize, rfl, ?_⟩⟩
  · simp [entryBlock, h.debugLevel]
  · simp [entryBlock, h.timeStamp]
  · simp only [entryBlock, h.messageLen]
    exact h.messageText

theorem entryBlock_resumes {s : LoggerState} {a : Nat} {msg : LogMessage} (h : EntryAt s.mem a msg) :
    Resumes s (entryBlock s a) (a + msg.entrySize) :=
  Or.inr ⟨a, msg, rfl, h, rfl⟩

/-! ### One call -/

section OneCall

variable {s : LoggerState} {be : BlockEntry} {a : Nat}

/-- The reader's view of a well-formed log: started on this info block, with the
log non-empty, and the slot `a` aligned and inside `[LogBuffer, LogCurrent]`. -/
structure ReaderAt (s : LoggerState) (a : Nat) : Prop where
  nonempty : s.info.logCurrent ≠ s.info.logBuffer
  aligned : a % 8 = 0
  low : s.info.logBuffer ≤ a
  upToCurrent : a ≤ s.info.logCurrent
  bounded : s.info.logCurrent ≤ s.info.logBuffer + s.info.logBufferSize

/-- On a non-empty log, a call that resumes at `a` checks `a` and returns its entry. -/
theorem getNextMessageBlock_eq (hne : s.info.logCurrent ≠ s.info.logBuffer)
    (hres : resumeLogEntry s be = some a) :
    advancedLoggerAccessLibGetNextMessageBlock (advancedLoggerAccessLibConstructor (some s.info))
      s be =
      if a % 8 ≠ 0 ∨ a < s.info.logBuffer ∨ s.info.logBuffer + s.info.logBufferSize < a then
        (.invalidParameter, be)
      else if s.info.logCurrent ≤ a then (.endOfFile, be)
      else if s.mem.loadLe a 4 ≠ messageEntrySignature then (.compromisedData, be)
      else (.success, entryBlock s a) := by
  unfold advancedLoggerAccessLibGetNextMessageBlock
  rw [if_neg (by simp [advancedLoggerAccessLibConstructor]), if_neg hne, hres]
  rfl

/-- A call that resumes before an entry below `LogCurrent` returns that entry. -/
theorem getNextMessageBlock_of_entry {msg : LogMessage} (hr : ReaderAt s a)
    (hres : Resumes s be a) (hentry : EntryAt s.mem a msg) (hlt : a < s.info.logCurrent) :
    advancedLoggerAccessLibGetNextMessageBlock (advancedLoggerAccessLibConstructor (some s.info))
      s be = (.success, entryBlock s a) := by
  have hbound := hr.bounded
  have hlow := hr.low
  have haligned := hr.aligned
  rw [getNextMessageBlock_eq hr.nonempty (resumeLogEntry_of_resumes hres), if_neg (by omega),
    if_neg (by omega), if_neg (by simp [hentry.signature])]

/-- A call that resumes at `LogCurrent` reports the end of the log. -/
theorem getNextMessageBlock_of_end (hr : ReaderAt s a) (hres : Resumes s be a)
    (hend : a = s.info.logCurrent) :
    (advancedLoggerAccessLibGetNextMessageBlock (advancedLoggerAccessLibConstructor (some s.info))
      s be).1 = .endOfFile := by
  have hbound := hr.bounded
  have hlow := hr.low
  have haligned := hr.aligned
  rw [getNextMessageBlock_eq hr.nonempty (resumeLogEntry_of_resumes hres), if_neg (by omega),
    if_pos (by omega)]

end OneCall

/-- An empty log reads as `EFI_END_OF_FILE` at once, whatever the block entry. -/
theorem getNextMessageBlock_of_empty {s : LoggerState} {be : BlockEntry}
    (h : s.info.logCurrent = s.info.logBuffer) :
    (advancedLoggerAccessLibGetNextMessageBlock (advancedLoggerAccessLibConstructor (some s.info))
      s be).1 = .endOfFile := by
  simp [advancedLoggerAccessLibGetNextMessageBlock, advancedLoggerAccessLibConstructor, h]

/-- Any status but `EFI_SUCCESS` ends the walk there. -/
theorem collectMessageBlocks_of_stop {lib : AccessLib} {s : LoggerState} {be : BlockEntry}
    {st : EfiStatus} (fuel : Nat) (h : (advancedLoggerAccessLibGetNextMessageBlock lib s be).1 = st)
    (hst : st ≠ .success) : collectMessageBlocks lib s (fuel + 1) be = ([], some st) := by
  rw [collectMessageBlocks]
  split
  · next be' heq =>
      rw [heq] at h
      exact absurd h.symm hst
  · next status be' _ heq =>
      rw [heq] at h
      simp only at h
      rw [h]

/-! ### The whole walk -/

/-- From a block entry left just before the slot `a`, where the log continues with
`rest` up to `LogCurrent`, the reader returns exactly the entries of `rest`, then
`EFI_END_OF_FILE`. The induction is on `rest`; `ReaderAt` carries alignment
(slot sizes are multiples of 8) and bounds from one slot to the next. -/
theorem collectMessageBlocks_of_layout {s : LoggerState} (rest : List LogMessage) :
    ∀ {a : Nat} {be : BlockEntry} (fuel : Nat), ReaderAt s a → Resumes s be a →
      LogLayout s.mem a rest → a + logSize rest = s.info.logCurrent →
      ∃ blocks, collectMessageBlocks (advancedLoggerAccessLibConstructor (some s.info)) s
          (rest.length + 1 + fuel) be = (blocks, some .endOfFile) ∧
        List.Forall₂ (BlockEntry.Shows s.mem) blocks rest := by
  induction rest with
  | nil =>
      intro a be fuel hr hres _ hend
      refine ⟨[], ?_, List.Forall₂.nil⟩
      have hend' : a = s.info.logCurrent := by simpa using hend
      rw [show [].length + 1 + fuel = fuel + 1 by simp [Nat.add_comm]]
      exact collectMessageBlocks_of_stop fuel (getNextMessageBlock_of_end hr hres hend')
        (by decide)
  | cons msg rest ih =>
      intro a be fuel hr hres hlayout hend
      obtain ⟨hentry, hrest⟩ := hlayout
      have hsize := messageEntrySize_pos msg.text.length
      have hlt : a < s.info.logCurrent := by
        simp only [logSize_cons, LogMessage.entrySize] at hend
        omega
      have hstep := getNextMessageBlock_of_entry hr hres hentry hlt
      -- the next slot is again aligned and within the log
      have hr' : ReaderAt s (a + msg.entrySize) := by
        have := messageEntrySize_mod_eight msg.text.length
        have := hr.aligned
        have := hr.low
        simp only [logSize_cons] at hend
        exact ⟨hr.nonempty, by simp only [LogMessage.entrySize] at *; omega, by omega,
          by omega, hr.bounded⟩
      obtain ⟨blocks, hcollect, hshows⟩ := ih fuel hr' (entryBlock_resumes hentry) hrest
        (by simp only [logSize_cons] at hend; omega)
      refine ⟨entryBlock s a :: blocks, ?_, List.Forall₂.cons (entryBlock_shows hentry) hshows⟩
      rw [show (msg :: rest).length + 1 + fuel = (rest.length + 1 + fuel) + 1 by simp; omega,
        collectMessageBlocks, hstep]
      simp only [hcollect]

/-- **The reader returns what the writer logged.** From a state whose log holds
`msgs` (`LogInv`), a reader started on that info block and iterated from a
zeroed block entry returns `EFI_SUCCESS` once per message, in order, showing its
level, time stamp, length and text, and then `EFI_END_OF_FILE` — never
`EFI_INVALID_PARAMETER` or `EFI_COMPROMISED_DATA`. -/
theorem collectMessageBlocks_of_logInv {s : LoggerState} {msgs : List LogMessage}
    (h : LogInv s msgs) (fuel : Nat) :
    ∃ blocks, collectMessageBlocks (advancedLoggerAccessLibConstructor (some s.info)) s
        (msgs.length + 1 + fuel) BlockEntry.zero = (blocks, some .endOfFile) ∧
      List.Forall₂ (BlockEntry.Shows s.mem) blocks msgs := by
  cases msgs with
  | nil =>
      refine ⟨[], ?_, List.Forall₂.nil⟩
      rw [show [].length + 1 + fuel = fuel + 1 by simp [Nat.add_comm]]
      exact collectMessageBlocks_of_stop fuel
        (getNextMessageBlock_of_empty (by simpa using h.current)) (by decide)
  | cons msg rest =>
      have hsize := messageEntrySize_pos msg.text.length
      have hcur := h.current
      have hnonempty : s.info.logCurrent ≠ s.info.logBuffer := by
        simp only [logSize_cons, LogMessage.entrySize] at hcur
        omega
      exact collectMessageBlocks_of_layout (msg :: rest) fuel
        ⟨hnonempty, h.aligned, le_refl _, by omega, h.bounded⟩
        (Or.inl ⟨rfl, rfl⟩) h.layout hcur.symm

/-! ### Writer and reader together -/

/-- **Writer and reader agree.** Start from an initialised info block
(`LogCurrent = LogBuffer`, 8-aligned) and run any admissible sequence of writes
and migrations. Iterating the reader from a zeroed block entry then returns, in
order, exactly the messages whose entries fitted when they were written, and
then `EFI_END_OF_FILE`; and each write either fitted and moved `LogCurrent` past
its entry, or left `LogCurrent` and added its length to `DiscardedSize`. -/
theorem advancedLogger_reads_back_every_accepted_write {s₀ : LoggerState}
    (hcur : s₀.info.logCurrent = s₀.info.logBuffer) (halign : s₀.info.logBuffer % 8 = 0)
    {ops : List LoggerOp} (hops : AdmissibleRun s₀ ops) (fuel : Nat) :
    (∃ blocks, collectMessageBlocks
        (advancedLoggerAccessLibConstructor (some (runLogger s₀ ops).info)) (runLogger s₀ ops)
        ((loggedMessages s₀ ops).length + 1 + fuel) BlockEntry.zero = (blocks, some .endOfFile) ∧
      List.Forall₂ (BlockEntry.Shows (runLogger s₀ ops).mem) blocks (loggedMessages s₀ ops)) ∧
    ∀ k (hk : k < ops.length) debugLevel buffer timeStamp,
      ops[k] = .write debugLevel buffer timeStamp →
        WriteOutcome (runLogger s₀ (ops.take k)) buffer.length
          (runLogger s₀ (ops.take (k + 1))) := by
  refine ⟨?_, fun k hk debugLevel buffer timeStamp hop => ?_⟩
  · have h := (logInv_init hcur halign).run hops
    rw [List.nil_append] at h
    exact collectMessageBlocks_of_logInv h fuel
  · -- the write at `k` runs from the state the first `k` operations leave
    obtain ⟨hadm, hrun⟩ := hops.getElem hk
    rw [hop] at hadm
    rw [hrun, hop]
    exact writeOutcome_write hadm.1 hadm.2

/-- A 60-byte log at `0x50`: `"A"` is written, a 100-byte message does not fit and is
discarded, `"C"` is written, and `InstallPermanentMemoryBuffer` moves the log to one page at
`0x1000`. The reader returns `"A"` and `"C"` from the moved log. -/
theorem advancedLogger_reads_back_migrated_run :
    let s₀ : LoggerState := ⟨⟨advancedLoggerSignature, 80, 80, 0, 60, false⟩, fun _ => 0⟩
    let ops : List LoggerOp := [.write 0 [65] 0, .write 0 (List.replicate 100 66) 0,
      .write 0 [67] 0, .installPermanentMemoryBuffer (some 4096) 1]
    AdmissibleRun s₀ ops ∧
      loggedMessages s₀ ops = [writtenMessage 0 [65] 0, writtenMessage 0 [67] 0] ∧
      (∃ blocks, collectMessageBlocks
          (advancedLoggerAccessLibConstructor (some (runLogger s₀ ops).info)) (runLogger s₀ ops)
          ((loggedMessages s₀ ops).length + 1 + 0) BlockEntry.zero = (blocks, some .endOfFile) ∧
        List.Forall₂ (BlockEntry.Shows (runLogger s₀ ops).mem) blocks (loggedMessages s₀ ops)) ∧
      ∀ k (hk : k < ops.length) debugLevel buffer timeStamp,
        ops[k] = .write debugLevel buffer timeStamp →
          WriteOutcome (runLogger s₀ (ops.take k)) buffer.length
            (runLogger s₀ (ops.take (k + 1))) := by
  intro s₀ ops
  -- three messages of 1 to `MAX_UINT16` bytes, then a page-aligned page that holds the 48
  -- bytes in use
  have hadm : AdmissibleRun s₀ ops := by
    refine ⟨⟨by decide, by decide⟩, ⟨by decide, by decide⟩, ⟨by decide, by decide⟩,
      fun n hn => ?_, trivial⟩
    rw [Option.mem_some_iff] at hn
    subst hn
    decide +kernel
  have hlogged : loggedMessages s₀ ops = [writtenMessage 0 [65] 0, writtenMessage 0 [67] 0] := by
    decide +kernel
  exact ⟨hadm, hlogged, advancedLogger_reads_back_every_accepted_write rfl (by decide) hadm 0⟩

end MuPlus.AdvLogger
