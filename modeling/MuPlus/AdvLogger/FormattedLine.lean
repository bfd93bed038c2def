import MuPlus.AdvLogger.Access

/-!
# MuPlus.AdvLogger.FormattedLine

**Formatted lines**: `AdvancedLoggerAccessLibGetNextFormattedLine`
(`AdvancedLoggerAccessLib/AdvancedLoggerAccessLib.c`). It reads the message
blocks of the log as one character pipe and returns it a line at a time: each
line goes into a line buffer the first call allocates, after a 15-character
time stamp (`FormatTimeStamp`) of the block the line's characters came from.
Characters after a block's first `'\n'` stay in `ResidualChar`/`ResidualLen` for
the next call; a line that reaches `mMaxMessageSize - 2` characters is cut and
given a `'\n'`.

The time-stamp conversion `GetTimeInNanoSecond` (TimerLib) and the pool that
`AllocatePool` returns are parameters.

## Results

On the end-of-file path the routine returns `EFI_SUCCESS` for a last line that
has no `'\n'` without storing the `'\0'` after it, so `Message[MessageLen]` is
whatever the line buffer held before (`getNextFormattedLine_last_line_unterminated`).
-/

namespace MuPlus.AdvLogger

open ByteMem

/-- `'\n'`. -/
def asciiNewline : UInt8 := 10

/-- `'\0'`. -/
def asciiNull : UInt8 := 0

/-- `sizeof (TimeStampString) - sizeof (CHAR8)`: the length of
`ADV_TIME_STAMP_RESULT`, `"hh:mm:ss:ttt : "`. -/
def timeStampLen : Nat := 15

/-- `%W.Wd` of an unsigned value: its decimal digits, padded with `'0'` to `W`. -/
def asciiDecimal (width n : Nat) : List UInt8 :=
  let digits := (Nat.toDigits 10 n).map (fun c => c.toNat.toUInt8)
  List.replicate (width - digits.length) 48 ++ digits

theorem le_length_asciiDecimal (width n : Nat) : width ≤ (asciiDecimal width n).length := by
  simp only [asciiDecimal, List.length_append, List.length_replicate, List.length_map]
  omega

/-- `FormatTimeStamp`: `ADV_TIME_STAMP_FORMAT`, `"%2.2d:%2.2d:%2.2d.%3.3d : "`, of
the time in milliseconds, as `AsciiSPrint` leaves it in the 16-byte
`TimeStampString`: at most 15 characters before the `'\0'`. -/
def formatTimeStamp (getTimeInNanoSecond : UInt64 → UInt64) (timeStamp : UInt64) : List UInt8 :=
  let temp := (getTimeInNanoSecond timeStamp).toNat / (1000 * 1000)
  let hours := temp / (1000 * 60 * 60)
  let temp := temp % (1000 * 60 * 60)
  let minutes := temp / (1000 * 60)
  let temp := temp % (1000 * 60)
  let seconds := temp / 1000
  let milliseconds := temp % 1000
  (asciiDecimal 2 hours ++ [58] ++ asciiDecimal 2 minutes ++ [58] ++ asciiDecimal 2 seconds ++
    [46] ++ asciiDecimal 3 milliseconds ++ [32, 58, 32]).take timeStampLen

/-- The time stamp always fills the 15 characters the routine copies: each field
prints at least its width. -/
@[simp] theorem length_formatTimeStamp (getTimeInNanoSecond : UInt64 → UInt64) (timeStamp : UInt64) :
    (formatTimeStamp getTimeInNanoSecond timeStamp).length = timeStampLen := by
  simp only [formatTimeStamp, List.length_take, List.length_append, List.length_cons,
    List.length_nil]
  have h₂ := le_length_asciiDecimal 2
  have h₃ := le_length_asciiDecimal 3
  have := h₂ ((getTimeInNanoSecond timeStamp).toNat / (1000 * 1000) / (1000 * 60 * 60))
  have := h₂ ((getTimeInNanoSecond timeStamp).toNat / (1000 * 1000) % (1000 * 60 * 60) / (1000 * 60))
  have := h₂ ((getTimeInNanoSecond timeStamp).toNat / (1000 * 1000) % (1000 * 60 * 60) % (1000 * 60) / 1000)
  have := h₃ ((getTimeInNanoSecond timeStamp).toNat / (1000 * 1000) % (1000 * 60 * 60) % (1000 * 60) % 1000)
  simp only [timeStampLen]
  omega

/-- `ADVANCED_LOGGER_ACCESS_MESSAGE_LINE_ENTRY`. `message` is the line buffer,
held as its contents (`NULL` before the first call allocates it). -/
structure LineEntry where
  message : Option ByteMem
  debugLevel : UInt32
  messageLen : UInt16
  timeStamp : UInt64
  residualChar : Nat
  residualLen : UInt16
  blockEntry : BlockEntry

/-- A zeroed line entry, as callers pass on the first call. -/
def LineEntry.zero : LineEntry := ⟨none, 0, 0, 0, 0, 0, BlockEntry.zero⟩

/-- What the routine's loops update: the line buffer, `TargetLen` (the target
pointer is always `LineBuffer + 15 + TargetLen`), and the residual pointer and
length of the line entry. -/
structure LineCursor where
  lineBuffer : ByteMem
  targetLen : Nat
  residualChar : Nat
  residualLen : Nat

/-! ### The loops -/

/-- The inner `while` loop: copy residual characters to the line while some
remain, the last one copied is not `'\n'` and the line is shorter than
`mMaxMessageSize - 2`. It runs at most `n` times (called with `n = ResidualLen`,
which each pass decrements) and returns the cursor and `LastChar`. -/
def copyResidual (mem : ByteMem) (maxMessageSize : Nat) :
    Nat → LineCursor → UInt8 → LineCursor × UInt8
  | 0, cur, lastChar => (cur, lastChar)
  | n + 1, cur, lastChar =>
      if 0 < cur.residualLen ∧ lastChar ≠ asciiNewline ∧ cur.targetLen < maxMessageSize - 2 then
        let c := mem cur.residualChar
        copyResidual mem maxMessageSize n
          { lineBuffer := cur.lineBuffer.write (timeStampLen + cur.targetLen) [c]
            targetLen := cur.targetLen + 1
            residualChar := cur.residualChar + 1
            residualLen := cur.residualLen - 1 } c
      else (cur, lastChar)

/-- The residual part of one pass of the outer loop: `inl` is a `break` with
its status, `inr` the cursor the pass goes on with to fetch the next block. -/
def drainResidual (mem : ByteMem) (maxMessageSize : Nat) (cur : LineCursor) :
    (EfiStatus × LineCursor) ⊕ LineCursor :=
  if 0 < cur.residualLen then
    let (cur, lastChar) := copyResidual mem maxMessageSize cur.residualLen cur asciiNull
    if lastChar = asciiNewline then
      .inl (.success,
        { cur with lineBuffer := cur.lineBuffer.write (timeStampLen + cur.targetLen) [asciiNull] })
    else if maxMessageSize - 2 ≤ cur.targetLen then
      .inl (.success,
        { cur with
          lineBuffer := cur.lineBuffer.write (timeStampLen + cur.targetLen) [asciiNewline, asciiNull]
          targetLen := cur.targetLen + 1 })
    else if cur.residualLen ≠ 0 then .inl (.aborted, cur)
    else .inr cur
  else .inr cur

/-- The `do … while (!EFI_ERROR (Status))` loop, for at most `fuel` passes.
Every pass that does not end the loop fetches a block, so one more pass than
the log has entries is enough; the fuel-exhausted result is not reached then. -/
def formattedLineLoop (lib : AccessLib) (s : LoggerState) (getTimeInNanoSecond : UInt64 → UInt64) :
    Nat → LineCursor → BlockEntry → EfiStatus × LineCursor × BlockEntry
  | 0, cur, be => (.aborted, cur, be)
  | fuel + 1, cur, be =>
      match drainResidual s.mem lib.maxMessageSize cur with
      | .inl (status, cur) => (status, cur, be)
      | .inr cur =>
          match advancedLoggerAccessLibGetNextMessageBlock lib s be with
          | (.endOfFile, be) => (if 0 < cur.targetLen then .success else .endOfFile, cur, be)
          | (status, be) =>
              if status.isError then (status, cur, be)
              else
                formattedLineLoop lib s getTimeInNanoSecond fuel
                  { cur with
                    lineBuffer := cur.lineBuffer.write 0
                      (formatTimeStamp getTimeInNanoSecond be.timeStamp)
                    residualChar := be.message.getD 0
                    residualLen := be.messageLen } be

/-- `AdvancedLoggerAccessLibGetNextFormattedLine (LineEntry)`, with `allocatePool`
the pool `AllocatePool (mMaxMessageSize + 16)` returns (`none` when it fails). -/
def advancedLoggerAccessLibGetNextFormattedLine (lib : AccessLib) (s : LoggerState)
    (getTimeInNanoSecond : UInt64 → UInt64) (allocatePool : Option ByteMem) (le : LineEntry) :
    EfiStatus × LineEntry :=
  match le.message.or allocatePool with
  | none => (.outOfResources, le)
  | some lineBuffer =>
      -- a restart inside a block gets that block's time stamp again
      let lineBuffer :=
        if le.blockEntry.message.isSome then
          lineBuffer.write 0 (formatTimeStamp getTimeInNanoSecond le.blockEntry.timeStamp)
        else lineBuffer
      let (status, cur, be) :=
        formattedLineLoop lib s getTimeInNanoSecond (s.info.logBufferSize + 1)
          ⟨lineBuffer, 0, le.residualChar, le.residualLen.toNat⟩ le.blockEntry
      let le := { le with
        message := some cur.lineBuffer
        residualChar := cur.residualChar
        residualLen := cur.residualLen.toUInt16
        blockEntry := be }
      if status.isError then (status, le)
      else (status, { le with
        messageLen := (cur.targetLen + timeStampLen).toUInt16
        timeStamp := be.timeStamp
        debugLevel := be.debugLevel })

/-! ### The last line of the log -/

/-- The log of the writes `"abcdef\n"` and `"x"` into an 80-byte buffer. -/
def twoLineLog : LoggerState :=
  runLogger ⟨⟨advancedLoggerSignature, 80, 80, 0, 1000, false⟩, fun _ => 0⟩
    [.write 0 [97, 98, 99, 100, 101, 102, 10] 0, .write 0 [120] 0]

/-- `GetNextFormattedLine` on `twoLineLog`, from `entry`. -/
def twoLineLogNextLine (entry : LineEntry) : EfiStatus × LineEntry :=
  advancedLoggerAccessLibGetNextFormattedLine (advancedLoggerAccessLibConstructor (some twoLineLog.info))
    twoLineLog id (some fun _ => 0) entry

/-- **The last line is not terminated.** The first call on `twoLineLog` returns
the line `"abcdef\n"`, `'\0'`-terminated. The second returns `EFI_SUCCESS` with
`MessageLen = 16` for the line `"x"`, which ends the log without a `'\n'`; on
that end-of-file path nothing is stored after the `'x'`, so `Message[16]` is
still the `'b'` of the first line. -/
theorem getNextFormattedLine_last_line_unterminated :
    (twoLineLogNextLine LineEntry.zero).1 = .success ∧
      (twoLineLogNextLine LineEntry.zero).2.messageLen = 22 ∧
      (twoLineLogNextLine LineEntry.zero).2.message.map (· 22) = some asciiNull ∧
      (twoLineLogNextLine (twoLineLogNextLine LineEntry.zero).2).1 = .success ∧
      (twoLineLogNextLine (twoLineLogNextLine LineEntry.zero).2).2.messageLen = 16 ∧
      (twoLineLogNextLine (twoLineLogNextLine LineEntry.zero).2).2.message.map (· 16) = some 98 := by
  decide

end MuPlus.AdvLogger
