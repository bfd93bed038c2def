import MuPlus.AdvLogger.Write
import MuPlus.Lib.Interleaving
import MuPlus.Lib.Tiling

/-!
# MuPlus.AdvLogger.Concurrent

**Concurrent writers**: `AdvancedLoggerMemoryLoggerWrite`
(`AdvancedLoggerLib/AdvancedLoggerCommon.c`) as several processors, and MM, run
it at once on one `ADVANCED_LOGGER_INFO`. Each call is a thread of
`MuPlus.Lib.Interleaving` whose atomic steps are the reads of `LogCurrent` and
`DiscardedSize` and the two compare-exchanges.

A call reserves a slot by moving `LogCurrent` with `InterlockedCompareExchange64`,
and starts again from a fresh read when another writer moved it first; a call
whose entry does not fit adds its length to `DiscardedSize` with an
`InterlockedCompareExchange32` loop. The stores that fill a reserved entry are
one step here: they go to the writer's own slot, which no other step reads.

## Proof shape

`WriterOk` is what a thread knows from its own snapshot: a pending
compare-exchange of `LogCurrent` carries a `NewBuffer` that passed the capacity
check, so it ends within the buffer whichever writers ran in between. `ConcInv`
adds the shared facts: the slots reserved so far tile `[LogCurrent₀, LogCurrent)`
(`MuPlus.Lib.Tiling`). `ConcInv.next` is the step lemma and `ConcInv.run` lifts it
to every schedule.

A call is rejected at the step whose capacity check fails (`rejectedLength`, read
off the state the step sees, not off where the call goes next). `DiscardInv` says
that `DiscardedSize`, with what the calls in the discard loop still have to add
(`pendingDiscard`), is its first value plus the lengths of the rejections so far,
and that the rejections are the calls on the discard path, one each. `soloRun_eq_write` shows that
a writer running alone does exactly what `advancedLoggerMemoryLoggerWrite` does.
-/

namespace MuPlus.AdvLogger

open Interleaving Tiling

/-- Where a call of `AdvancedLoggerMemoryLoggerWrite` stands between its atomic steps. -/
inductive WriterPc where
  /-- On entry, before the `NumberOfBytes` checks. -/
  | entry
  /-- At the top of the reservation loop, about to read `LogCurrent`. -/
  | readLogCurrent
  /-- About to compare-exchange `LogCurrent` from `CurrentBuffer` to `NewBuffer`. -/
  | compareExchangeLogCurrent (currentBuffer newBuffer : Nat)
  /-- At the top of the discard loop, about to read `DiscardedSize`. -/
  | readDiscardedSize
  /-- About to compare-exchange `DiscardedSize` from `CurrentSize` to `NewSize`. -/
  | compareExchangeDiscardedSize (currentSize newSize : UInt32)
  /-- The slot at `CurrentBuffer` is reserved and its entry still to be stored. -/
  | fillEntry (currentBuffer : Nat)
  /-- Returned after storing the entry. -/
  | logged
  /-- Returned after counting the message in `DiscardedSize`. -/
  | discarded
  /-- Returned `NULL` on an empty or over-long message. -/
  | dropped
  deriving DecidableEq, Repr

/-- One call: its arguments, the `GetPerformanceCounter ()` value it will
store, and where it stands. -/
structure Writer where
  debugLevel : Nat
  buffer : List UInt8
  timeStamp : UInt64
  pc : WriterPc

/-- One atomic step of a call. -/
def writerStep (s : LoggerState) (w : Writer) : LoggerState × Writer :=
  match w.pc with
  | .entry =>
      if w.buffer.length = 0 ∨ maxUint16 < w.buffer.length then (s, { w with pc := .dropped })
      else (s, { w with pc := .readLogCurrent })
  | .readLogCurrent =>
      let entrySize := messageEntrySize w.buffer.length
      let currentBuffer := s.info.logCurrent
      let usedSize := currentBuffer - s.info.logBuffer
      if s.info.logBufferSize ≤ usedSize ∨ s.info.logBufferSize - usedSize < entrySize then
        (s, { w with pc := .readDiscardedSize })
      else
        (s, { w with pc := .compareExchangeLogCurrent currentBuffer (currentBuffer + entrySize) })
  | .compareExchangeLogCurrent currentBuffer newBuffer =>
      if s.info.logCurrent = currentBuffer then
        ({ s with info := { s.info with logCurrent := newBuffer } },
          { w with pc := .fillEntry currentBuffer })
      else (s, { w with pc := .readLogCurrent })
  | .readDiscardedSize =>
      let currentSize := s.info.discardedSize
      let newSize := currentSize + w.buffer.length.toUInt32
      (s, { w with pc := .compareExchangeDiscardedSize currentSize newSize })
  | .compareExchangeDiscardedSize currentSize newSize =>
      if s.info.discardedSize = currentSize then
        ({ s with info := { s.info with discardedSize := newSize } }, { w with pc := .discarded })
      else (s, { w with pc := .readDiscardedSize })
  | .fillEntry currentBuffer =>
      let entry := writtenMessage w.debugLevel w.buffer w.timeStamp
      ({ s with mem := writeMessageEntry s.mem currentBuffer entry }, { w with pc := .logged })
  | .logged | .discarded | .dropped => (s, w)

/-- The slot `[CurrentBuffer, CurrentBuffer + EntrySize)` a step reserves: that
of a compare-exchange of `LogCurrent` that succeeds. -/
def reservedRange (s : LoggerState) (w : Writer) : Option (Nat × Nat) :=
  match w.pc with
  | .compareExchangeLogCurrent currentBuffer _ =>
      if s.info.logCurrent = currentBuffer then
        some (currentBuffer, messageEntrySize w.buffer.length)
      else none
  | _ => none

/-- The rejection a step records: a call whose capacity check fails on the
`LogCurrent` it reads now (`UsedSize >= LogBufferSize`, or less room than
`EntrySize`) is rejected, with its `NumberOfBytes`. -/
def rejectedLength (s : LoggerState) (w : Writer) : Option UInt32 :=
  match w.pc with
  | .readLogCurrent =>
      let usedSize := s.info.logCurrent - s.info.logBuffer
      if s.info.logBufferSize ≤ usedSize ∨
          s.info.logBufferSize - usedSize < messageEntrySize w.buffer.length then
        some w.buffer.length.toUInt32
      else none
  | _ => none

/-- What a call in the discard loop has still to add to `DiscardedSize`. -/
def pendingDiscard (w : Writer) : UInt32 :=
  match w.pc with
  | .readDiscardedSize | .compareExchangeDiscardedSize _ _ => w.buffer.length.toUInt32
  | _ => 0

/-- `1` for a call that took the discard branch: in the discard loop or returned
through it. -/
def discardPath (w : Writer) : Nat :=
  match w.pc with
  | .readDiscardedSize | .compareExchangeDiscardedSize _ _ | .discarded => 1
  | _ => 0

/-- The call has returned. -/
def Writer.Returned (w : Writer) : Prop :=
  w.pc = .logged ∨ w.pc = .discarded ∨ w.pc = .dropped

/-! ### One step -/

/-- What a thread knows from its own snapshots, given the buffer's end `limit`:
a pending `NewBuffer` is its slot's end and passed the capacity check, and a
pending `NewSize` adds the call's length. -/
def WriterOk (limit : Nat) (w : Writer) : Prop :=
  match w.pc with
  | .compareExchangeLogCurrent currentBuffer newBuffer =>
      newBuffer = currentBuffer + messageEntrySize w.buffer.length ∧ newBuffer ≤ limit
  | .compareExchangeDiscardedSize currentSize newSize =>
      newSize = currentSize + w.buffer.length.toUInt32
  | _ => True

section Step

variable {s : LoggerState} {w : Writer}

@[simp] theorem writerStep_logBuffer : (writerStep s w).1.info.logBuffer = s.info.logBuffer := by
  rcases w with ⟨debugLevel, buffer, timeStamp, pc⟩
  cases pc <;> simp only [writerStep] <;> split_ifs <;> rfl

@[simp] theorem writerStep_logBufferSize :
    (writerStep s w).1.info.logBufferSize = s.info.logBufferSize := by
  rcases w with ⟨debugLevel, buffer, timeStamp, pc⟩
  cases pc <;> simp only [writerStep] <;> split_ifs <;> rfl

@[simp] theorem writerStep_buffer : (writerStep s w).2.buffer = w.buffer := by
  rcases w with ⟨debugLevel, buffer, timeStamp, pc⟩
  cases pc <;> simp only [writerStep] <;> split_ifs <;> rfl

/-- A step that reserves nothing leaves `LogCurrent`. -/
theorem writerStep_logCurrent_of_none (h : reservedRange s w = none) :
    (writerStep s w).1.info.logCurrent = s.info.logCurrent := by
  rcases w with ⟨debugLevel, buffer, timeStamp, pc⟩
  cases pc with
  | compareExchangeLogCurrent currentBuffer newBuffer =>
      -- only a compare-exchange that fails reserves nothing here
      have hfail : s.info.logCurrent ≠ currentBuffer := by
        intro heq
        simp [reservedRange, heq] at h
      simp [writerStep, hfail]
  | _ => simp only [writerStep] <;> split_ifs <;> rfl

/-- A step that reserves a slot takes it at `LogCurrent` and moves `LogCurrent`
to its end, which is within the buffer. -/
theorem writerStep_logCurrent_of_some {limit : Nat} (hw : WriterOk limit w) {r : Nat × Nat}
    (h : reservedRange s w = some r) :
    r.1 = s.info.logCurrent ∧ (writerStep s w).1.info.logCurrent = r.1 + r.2 ∧
      r.1 + r.2 ≤ limit := by
  rcases w with ⟨debugLevel, buffer, timeStamp, pc⟩
  cases pc with
  | compareExchangeLogCurrent currentBuffer newBuffer =>
      obtain ⟨hnew, hle⟩ := hw
      by_cases hcur : s.info.logCurrent = currentBuffer
      · simp only [reservedRange, hcur, if_true, Option.some.injEq] at h
        subst h
        refine ⟨hcur.symm, ?_, hnew ▸ hle⟩
        simp only [writerStep, hcur, if_true]
        exact hnew
      · simp [reservedRange, hcur] at h
  | _ => simp [reservedRange] at h

/-- A step adds to `DiscardedSize` what the call had pending, and a rejection
becomes pending: the rejected bytes are neither lost nor counted twice. -/
theorem writerStep_discardedSize {limit : Nat} (hw : WriterOk limit w) :
    (writerStep s w).1.info.discardedSize + pendingDiscard (writerStep s w).2 =
      s.info.discardedSize + pendingDiscard w + (rejectedLength s w).toList.sum := by
  rcases w with ⟨debugLevel, buffer, timeStamp, pc⟩
  cases pc with
  | readLogCurrent =>
      -- the capacity check: a failure is the one rejection of the call
      simp only [writerStep, rejectedLength]
      split_ifs <;> simp [pendingDiscard]
  | compareExchangeDiscardedSize currentSize newSize =>
      -- the one step that writes `DiscardedSize` is the one that leaves the loop
      have hnew : newSize = currentSize + buffer.length.toUInt32 := hw
      by_cases hcur : s.info.discardedSize = currentSize
      · simp [writerStep, rejectedLength, pendingDiscard, hcur, hnew]
      · simp [writerStep, rejectedLength, pendingDiscard, hcur]
  | _ => simp only [writerStep]; (try split_ifs) <;> simp [rejectedLength, pendingDiscard]

/-- A rejection moves the call onto the discard path, which it never leaves. -/
theorem writerStep_discardPath :
    discardPath (writerStep s w).2 = discardPath w + (rejectedLength s w).toList.length := by
  rcases w with ⟨debugLevel, buffer, timeStamp, pc⟩
  cases pc with
  | readLogCurrent =>
      simp only [writerStep, rejectedLength]
      split_ifs <;> simp [discardPath]
  | _ => simp only [writerStep]; (try split_ifs) <;> simp [rejectedLength, discardPath]

/-- A step keeps the thread's own knowledge: a capacity check that passed on
the snapshot `CurrentBuffer` bounds `CurrentBuffer + EntrySize`. -/
theorem WriterOk.step (hw : WriterOk (s.info.logBuffer + s.info.logBufferSize) w) :
    WriterOk (s.info.logBuffer + s.info.logBufferSize) (writerStep s w).2 := by
  rcases w with ⟨debugLevel, buffer, timeStamp, pc⟩
  cases pc with
  | readLogCurrent =>
      simp only [writerStep]
      split_ifs with hfull
      · trivial
      · simp only [WriterOk, true_and]
        omega
  | _ => simp only [writerStep]; (try split_ifs) <;> simp [WriterOk]

end Step

/-! ### Every schedule -/

/-- The invariant of concurrent writers started from the info block `info₀`,
with `rs` the slots reserved so far. -/
structure ConcInv {n : Nat} (info₀ : AdvancedLoggerInfo) (c : Config LoggerState Writer n)
    (rs : List (Nat × Nat)) : Prop where
  logBuffer : c.shared.info.logBuffer = info₀.logBuffer
  logBufferSize : c.shared.info.logBufferSize = info₀.logBufferSize
  /-- `LogCurrent` never passes the end of the buffer. -/
  bounded : c.shared.info.logCurrent ≤ info₀.logBuffer + info₀.logBufferSize
  /-- The reserved slots lie back to back from the first `LogCurrent` to the current one. -/
  tiles : Tiles rs info₀.logCurrent c.shared.info.logCurrent
  writers : ∀ p, WriterOk (info₀.logBuffer + info₀.logBufferSize) (c.thread p)

variable {n : Nat}

/-- Calls that have not started yet, on a log within its buffer. -/
theorem concInv_init {c : Config LoggerState Writer n}
    (hbound : c.shared.info.logCurrent ≤ c.shared.info.logBuffer + c.shared.info.logBufferSize)
    (hentry : ∀ p, (c.thread p).pc = .entry) : ConcInv c.shared.info c [] where
  logBuffer := rfl
  logBufferSize := rfl
  bounded := hbound
  tiles := rfl
  writers p := by simp [WriterOk, hentry p]

/-- **Step lemma.** Any thread's step keeps the invariant, adding the slot it reserves. -/
theorem ConcInv.next {info₀ : AdvancedLoggerInfo} {c : Config LoggerState Writer n}
    {rs : List (Nat × Nat)} (h : ConcInv info₀ c rs) (p : Fin n) :
    ConcInv info₀ (c.next writerStep p) (rs ++ (reservedRange c.shared (c.thread p)).toList) := by
  have hw := h.writers p
  have hw' : WriterOk (c.shared.info.logBuffer + c.shared.info.logBufferSize) (c.thread p) := by
    rw [h.logBuffer, h.logBufferSize]; exact hw
  -- the stepping thread either reserves a slot at `LogCurrent` or leaves `LogCurrent`
  have hcur : ((c.next writerStep p).shared.info.logCurrent ≤ info₀.logBuffer + info₀.logBufferSize ∧
      Tiles (rs ++ (reservedRange c.shared (c.thread p)).toList) info₀.logCurrent
        (c.next writerStep p).shared.info.logCurrent) := by
    cases hr : reservedRange c.shared (c.thread p) with
    | none =>
        rw [Config.next_shared, writerStep_logCurrent_of_none hr, Option.toList_none,
          List.append_nil]
        exact ⟨h.bounded, h.tiles⟩
    | some r =>
        obtain ⟨hstart, hnew, hle⟩ := writerStep_logCurrent_of_some hw hr
        rw [Config.next_shared, hnew, Option.toList_some]
        refine ⟨hle, ?_⟩
        have := h.tiles.snoc r.2
        rwa [← hstart] at this
  refine ⟨?_, ?_, hcur.1, hcur.2, fun q => ?_⟩
  · simpa using h.logBuffer
  · simpa using h.logBufferSize
  · by_cases hq : q = p
    · subst hq
      rw [Config.next_thread_self]
      simpa [h.logBuffer, h.logBufferSize] using WriterOk.step hw'
    · rw [Config.next_thread_of_ne hq]
      exact h.writers q

/-- **Run lemma.** Every schedule keeps the invariant, with the slots its steps reserved. -/
theorem ConcInv.run {info₀ : AdvancedLoggerInfo} {c : Config LoggerState Writer n}
    {rs : List (Nat × Nat)} (h : ConcInv info₀ c rs) (ps : List (Fin n)) :
    ConcInv info₀ (c.run writerStep ps) (rs ++ c.trace writerStep reservedRange ps) :=
  Config.run_induction writerStep reservedRange (ConcInv info₀) (fun _ _ p hc => hc.next p) h ps

open Finset in
/-- The discard accounting of concurrent writers, from the first `DiscardedSize`
`d₀`, with `ds` the lengths of the calls rejected so far: `DiscardedSize` and what
the calls in the discard loop still have to add make up every rejected length,
and the rejections are the calls on the discard path, one each. -/
structure DiscardInv {n : Nat} (d₀ : UInt32) (c : Config LoggerState Writer n)
    (ds : List UInt32) : Prop where
  writers : ∀ p, WriterOk (c.shared.info.logBuffer + c.shared.info.logBufferSize) (c.thread p)
  discardedSize : c.shared.info.discardedSize + ∑ p, pendingDiscard (c.thread p) = d₀ + ds.sum
  rejected : ds.length = ∑ p, discardPath (c.thread p)

theorem discardInv_init {c : Config LoggerState Writer n}
    (hentry : ∀ p, (c.thread p).pc = .entry) : DiscardInv c.shared.info.discardedSize c [] where
  writers p := by simp [WriterOk, hentry p]
  discardedSize := by simp [pendingDiscard, hentry]
  rejected := by simp [discardPath, hentry]

/-- **Step lemma.** Any thread's step keeps the discard accounting, adding the
rejection it records. -/
theorem DiscardInv.next {d₀ : UInt32} {c : Config LoggerState Writer n} {ds : List UInt32}
    (h : DiscardInv d₀ c ds) (p : Fin n) :
    DiscardInv d₀ (c.next writerStep p) (ds ++ (rejectedLength c.shared (c.thread p)).toList) := by
  have hw := h.writers p
  -- the thread sums move by the stepping thread's change
  have hpending := sum_update_add c.thread pendingDiscard p (writerStep c.shared (c.thread p)).2
  have hpath := sum_update_add c.thread discardPath p (writerStep c.shared (c.thread p)).2
  have hdisc := writerStep_discardedSize (s := c.shared) hw
  refine ⟨fun q => ?_, ?_, ?_⟩
  · by_cases hq : q = p
    · subst hq
      simpa using WriterOk.step hw
    · simpa [Config.next_thread_of_ne hq] using h.writers q
  · apply add_right_cancel (b := pendingDiscard (c.thread p))
    rw [Config.next_shared, Config.next, add_assoc, hpending, List.sum_append, add_left_comm,
      hdisc, ← add_assoc d₀, ← h.discardedSize]
    ac_rfl
  · apply add_right_cancel (b := discardPath (c.thread p))
    rw [Config.next, hpath, writerStep_discardPath, List.length_append, h.rejected]
    ring

/-- **Run lemma.** Every schedule keeps the discard accounting, with the
rejections its steps recorded. -/
theorem DiscardInv.run {d₀ : UInt32} {c : Config LoggerState Writer n} {ds : List UInt32}
    (h : DiscardInv d₀ c ds) (ps : List (Fin n)) :
    DiscardInv d₀ (c.run writerStep ps) (ds ++ c.trace writerStep rejectedLength ps) :=
  Config.run_induction writerStep rejectedLength (DiscardInv d₀) (fun _ _ p hc => hc.next p) h ps

/-- A call that returned has nothing pending. -/
theorem Writer.Returned.pendingDiscard_eq {w : Writer} (h : w.Returned) : pendingDiscard w = 0 := by
  rcases h with h | h | h <;> simp [pendingDiscard, h]

open Finset in
/-- **Concurrent writers share the buffer safely and lose no discard.** However
the steps of any number of calls interleave, on a log that starts empty: the
slots reserved by successful compare-exchanges of `LogCurrent` are pairwise
disjoint and together are exactly `[LogBuffer, LogCurrent)`, and `LogCurrent`
stays within the buffer. A call is rejected when its capacity check fails on the
`LogCurrent` it reads; `DiscardedSize`, with what the calls still in the discard
loop have to add, is its first value plus the length of every rejected call, the
rejected calls being exactly the calls on the discard path. Once every call has
returned, `DiscardedSize` is its first value plus the length of every rejected
call. -/
theorem concurrent_writes_tile_log {c : Config LoggerState Writer n}
    (hempty : c.shared.info.logCurrent = c.shared.info.logBuffer)
    (hentry : ∀ p, (c.thread p).pc = .entry) (ps : List (Fin n)) :
    (c.trace writerStep reservedRange ps).Pairwise (fun r r' => Disjoint (ico r) (ico r')) ∧
    (∀ x, x ∈ Set.Ico (c.run writerStep ps).shared.info.logBuffer
        (c.run writerStep ps).shared.info.logCurrent ↔
      ∃ r ∈ c.trace writerStep reservedRange ps, x ∈ ico r) ∧
    (c.run writerStep ps).shared.info.logCurrent ≤
      (c.run writerStep ps).shared.info.logBuffer + (c.run writerStep ps).shared.info.logBufferSize ∧
    (c.run writerStep ps).shared.info.discardedSize +
        ∑ p, pendingDiscard ((c.run writerStep ps).thread p) =
      c.shared.info.discardedSize + (c.trace writerStep rejectedLength ps).sum ∧
    (c.trace writerStep rejectedLength ps).length =
      ∑ p, discardPath ((c.run writerStep ps).thread p) ∧
    ((∀ p, ((c.run writerStep ps).thread p).Returned) →
      (c.run writerStep ps).shared.info.discardedSize =
        c.shared.info.discardedSize + (c.trace writerStep rejectedLength ps).sum) := by
  have h := (concInv_init (by omega) hentry).run ps
  have hd := (discardInv_init hentry).run ps
  rw [List.nil_append] at h hd
  have htiles := h.tiles
  rw [hempty] at htiles
  refine ⟨htiles.pairwise_disjoint, fun x => ?_, ?_, hd.discardedSize, hd.rejected,
    fun hret => ?_⟩
  · rw [h.logBuffer]
    exact htiles.mem_iff x
  · rw [h.logBuffer, h.logBufferSize]
    exact h.bounded
  · -- nothing is pending once every call has returned
    have hzero : ∑ p, pendingDiscard ((c.run writerStep ps).thread p) = 0 :=
      Finset.sum_eq_zero fun p _ => (hret p).pendingDiscard_eq
    rw [← hd.discardedSize, hzero, add_zero]

/-- Two one-byte writers race for a 40-byte log: both pass the capacity check on
the same snapshot, the first compare-exchange takes `[80, 104)`, and the second
retries, finds no room, is rejected and adds its byte to `DiscardedSize`. -/
theorem concurrent_writes_two_racing :
    let c : Config LoggerState Writer 2 :=
      ⟨⟨⟨advancedLoggerSignature, 80, 80, 0, 40, false⟩, fun _ => 0⟩,
        fun p => ⟨0, [(65 + p.val).toUInt8], 0, .entry⟩⟩
    let ps : List (Fin 2) := [0, 1, 0, 1, 0, 1, 1, 1, 1]
    (c.trace writerStep reservedRange ps).Pairwise (fun r r' => Disjoint (ico r) (ico r')) ∧
    (∀ x, x ∈ Set.Ico (c.run writerStep ps).shared.info.logBuffer
        (c.run writerStep ps).shared.info.logCurrent ↔
      ∃ r ∈ c.trace writerStep reservedRange ps, x ∈ ico r) ∧
    (c.run writerStep ps).shared.info.logCurrent ≤
      (c.run writerStep ps).shared.info.logBuffer + (c.run writerStep ps).shared.info.logBufferSize ∧
    (c.run writerStep ps).shared.info.discardedSize +
        ∑ p, pendingDiscard ((c.run writerStep ps).thread p) =
      c.shared.info.discardedSize + (c.trace writerStep rejectedLength ps).sum ∧
    (c.trace writerStep rejectedLength ps).length =
      ∑ p, discardPath ((c.run writerStep ps).thread p) ∧
    ((∀ p, ((c.run writerStep ps).thread p).Returned) →
      (c.run writerStep ps).shared.info.discardedSize =
        c.shared.info.discardedSize + (c.trace writerStep rejectedLength ps).sum) := by
  intro c ps
  exact concurrent_writes_tile_log rfl (fun _ => rfl) ps

example :
    let c : Config LoggerState Writer 2 :=
      ⟨⟨⟨advancedLoggerSignature, 80, 80, 0, 40, false⟩, fun _ => 0⟩,
        fun p => ⟨0, [(65 + p.val).toUInt8], 0, .entry⟩⟩
    let ps : List (Fin 2) := [0, 1, 0, 1, 0, 1, 1, 1, 1]
    c.trace writerStep reservedRange ps = [(80, 24)] ∧
      c.trace writerStep rejectedLength ps = [1] ∧
      (c.run writerStep ps).shared.info.discardedSize = 1 := by
  decide

/-! ### A writer running alone -/

/-- **The sequential write is a solo run.** A call that runs its steps with no
other writer in between (four steps cover every path) leaves the logger as
`advancedLoggerMemoryLoggerWrite` does: its compare-exchanges succeed on their
first try. -/
theorem soloRun_eq_write {c : Config LoggerState Writer n} {p : Fin n}
    (hentry : (c.thread p).pc = .entry) :
    (c.run writerStep (List.replicate 4 p)).shared =
      advancedLoggerMemoryLoggerWrite c.shared (c.thread p).debugLevel (c.thread p).buffer
        (c.thread p).timeStamp := by
  have hrep : ((c.run writerStep (List.replicate 4 p)).shared,
      (c.run writerStep (List.replicate 4 p)).thread p) =
        (fun x => writerStep x.1 x.2)^[4] (c.shared, c.thread p) :=
    Config.run_replicate 4
  have hsolo := (Prod.ext_iff.mp hrep).1
  dsimp only at hsolo
  rw [hsolo]
  generalize c.thread p = w at hentry ⊢
  rcases w with ⟨debugLevel, buffer, timeStamp, pc⟩
  dsimp only at hentry
  subst hentry
  simp only [Function.iterate_succ, Function.iterate_zero, Function.comp_apply, id]
  unfold advancedLoggerMemoryLoggerWrite
  -- the three paths: dropped, discarded, logged
  by_cases hvalid : buffer = [] ∨ maxUint16 < buffer.length
  · simp [writerStep, hvalid]
  · by_cases hfull : c.shared.info.logBufferSize ≤ c.shared.info.logCurrent - c.shared.info.logBuffer ∨
        c.shared.info.logBufferSize - (c.shared.info.logCurrent - c.shared.info.logBuffer) <
          messageEntrySize buffer.length
    · simp [writerStep, hvalid, hfull]
    · simp [writerStep, hvalid, hfull]

/-- The first of the two writers above, run alone, writes its byte as the sequential write
does. -/
theorem soloRun_eq_write_first :
    let c : Config LoggerState Writer 2 :=
      ⟨⟨⟨advancedLoggerSignature, 80, 80, 0, 40, false⟩, fun _ => 0⟩,
        fun p => ⟨0, [(65 + p.val).toUInt8], 0, .entry⟩⟩
    (c.thread 0).pc = .entry ∧
      (c.run writerStep (List.replicate 4 0)).shared = advancedLoggerMemoryLoggerWrite c.shared 0 [65] 0 := by
  intro c
  exact ⟨rfl, soloRun_eq_write rfl⟩

end MuPlus.AdvLogger
