import MuPlus.Lib.ByteMem

/-!
# MuPlus.AdvLogger.Layout

**The in-memory log format** of the Advanced Logger
(`AdvLoggerPkg/Include/AdvancedLoggerInternal.h`).

The log is a byte buffer `[LogBuffer, LogBuffer + LogBufferSize)` that follows
the `ADVANCED_LOGGER_INFO` block. Each message is an
`ADVANCED_LOGGER_MESSAGE_ENTRY` — an 18-byte packed header (`Signature`,
`DebugLevel`, `TimeStamp`, `MessageLen`) followed by the text — in a slot of
`MESSAGE_ENTRY_SIZE (MessageLen)` bytes, the header-plus-text size rounded up
to 8. The writer bumps `LogCurrent` by that size; the reader walks the slots
with `NEXT_LOG_ENTRY`, which recomputes the same size from the stored
`MessageLen`. Whether the two agree is decided here, once:

* `writeMessageEntry` stores the header fields and the text in the order
  `AdvancedLoggerMemoryLoggerWrite` does, and `writeMessageEntry_entryAt`
  shows the result reads back as the message;
* `LogLayout mem a msgs` says the messages sit back to back from `a`;
  `LogLayout.relocate` moves it along a byte-for-byte copy (the permanent-RAM
  migrations) and `LogLayout.append` extends it by one entry.

Addresses and sizes are natural numbers. The buffer is a real allocation, so
`LogBuffer + LogBufferSize` never wraps the 64-bit address space; the 32-bit
fields that *can* wrap (`DiscardedSize`, and `LogBufferSize` as assigned by
the migrations) are kept at their width where they are updated.
-/

namespace MuPlus.AdvLogger

open ByteMem

/-- `MESSAGE_ENTRY_SIGNATURE`, i.e. `SIGNATURE_32 ('A','L','M','S')`. -/
def messageEntrySignature : Nat := 0x534D4C41

/-- `ADVANCED_LOGGER_SIGNATURE`, i.e. `SIGNATURE_32 ('A','L','O','G')`. -/
def advancedLoggerSignature : UInt32 := 0x474F4C41

/-- `sizeof (ADVANCED_LOGGER_MESSAGE_ENTRY)` under `#pragma pack (1)`: `Signature`
(4) at 0, `DebugLevel` (4) at 4, `TimeStamp` (8) at 8, `MessageLen` (2) at 16;
`MessageText` starts at offset 18. -/
def messageEntryHeaderSize : Nat := 18

/-- `sizeof (ADVANCED_LOGGER_INFO)`; the header asserts it is a multiple of 8. -/
def sizeofAdvancedLoggerInfo : Nat := 80

/-- `EFI_PAGE_SIZE`. -/
def efiPageSize : Nat := 4096

/-- `MAX_UINT16`. -/
def maxUint16 : Nat := 65535

/-- `ALIGN_VALUE (Value, Alignment)` = `Value + ((Alignment - Value) & (Alignment - 1))`,
written for the power-of-two alignments it is used with. -/
def alignValue (value alignment : Nat) : Nat :=
  value + (alignment - value % alignment) % alignment

/-- `MESSAGE_ENTRY_SIZE (LenOfMessage)`: header plus text, rounded up to 8. -/
def messageEntrySize (lenOfMessage : Nat) : Nat :=
  alignValue (messageEntryHeaderSize + lenOfMessage) 8

theorem messageEntrySize_mod_eight (len : Nat) : messageEntrySize len % 8 = 0 := by
  simp only [messageEntrySize, alignValue, messageEntryHeaderSize]
  omega

theorem le_messageEntrySize (len : Nat) :
    messageEntryHeaderSize + len ≤ messageEntrySize len := by
  simp only [messageEntrySize, alignValue]
  omega

theorem messageEntrySize_pos (len : Nat) : 0 < messageEntrySize len := by
  have := le_messageEntrySize len
  simp only [messageEntryHeaderSize] at this
  omega

/-! ### Messages and their entries -/

/-- One logged message: the values `AdvancedLoggerMemoryLoggerWrite` stores in an
entry. `MessageLen` is the length of `text`. -/
structure LogMessage where
  debugLevel : UInt32
  timeStamp : UInt64
  text : List UInt8
  deriving DecidableEq, Repr

/-- The slot size of a message. -/
def LogMessage.entrySize (msg : LogMessage) : Nat := messageEntrySize msg.text.length

/-- Store an entry at `entry`, field by field in the order of
`AdvancedLoggerMemoryLoggerWrite`: `TimeStamp`, `DebugLevel`, `MessageLen`,
the text (`CopyMem`), and the `Signature` last. -/
def writeMessageEntry (mem : ByteMem) (entry : Nat) (msg : LogMessage) : ByteMem :=
  let mem := mem.write (entry + 8) (leBytes 8 msg.timeStamp.toNat)
  let mem := mem.write (entry + 4) (leBytes 4 msg.debugLevel.toNat)
  let mem := mem.write (entry + 16) (leBytes 2 msg.text.length)
  let mem := mem.write (entry + messageEntryHeaderSize) msg.text
  mem.write entry (leBytes 4 messageEntrySignature)

/-- `mem` holds a well-formed `ADVANCED_LOGGER_MESSAGE_ENTRY` for `msg` at `entry`:
the four header fields and the text, as the reader loads them. -/
structure EntryAt (mem : ByteMem) (entry : Nat) (msg : LogMessage) : Prop where
  signature : mem.loadLe entry 4 = messageEntrySignature
  debugLevel : mem.loadLe (entry + 4) 4 = msg.debugLevel.toNat
  timeStamp : mem.loadLe (entry + 8) 8 = msg.timeStamp.toNat
  messageLen : mem.loadLe (entry + 16) 2 = msg.text.length
  messageText : mem.read (entry + messageEntryHeaderSize) msg.text.length = msg.text

/-- The bytes an entry occupies: header and text, not the alignment padding. -/
def LogMessage.span (msg : LogMessage) : Nat := messageEntryHeaderSize + msg.text.length

theorem LogMessage.span_le_entrySize (msg : LogMessage) : msg.span ≤ msg.entrySize :=
  le_messageEntrySize _

/-- An entry only depends on the bytes of its span: it survives any change of
memory, or any move, that preserves them. -/
theorem EntryAt.relocate {mem mem' : ByteMem} {e e' : Nat} {msg : LogMessage}
    (h : EntryAt mem e msg) (hm : ∀ i < msg.span, mem' (e' + i) = mem (e + i)) :
    EntryAt mem' e' msg := by
  have hspan : msg.span = 18 + msg.text.length := rfl
  have field : ∀ o w, o + w ≤ msg.span → mem'.read (e' + o) w = mem.read (e + o) w := by
    intro o w how
    apply read_congr
    intro i hi
    rw [Nat.add_assoc, Nat.add_assoc]
    exact hm (o + i) (by omega)
  refine ⟨?_, ?_, ?_, ?_, ?_⟩
  · rw [← h.signature, loadLe, loadLe, ← Nat.add_zero e', ← Nat.add_zero e, field 0 4 (by omega)]
  · rw [← h.debugLevel, loadLe, loadLe, field 4 4 (by omega)]
  · rw [← h.timeStamp, loadLe, loadLe, field 8 8 (by omega)]
  · rw [← h.messageLen, loadLe, loadLe, field 16 2 (by omega)]
  · rw [messageEntryHeaderSize, field 18 _ (by omega)]
    exact h.messageText

/-- Storing an entry leaves every byte outside its span untouched. -/
theorem writeMessageEntry_apply_of_disjoint {mem : ByteMem} {e x : Nat} {msg : LogMessage}
    (h : x < e ∨ e + msg.span ≤ x) : writeMessageEntry mem e msg x = mem x := by
  simp only [LogMessage.span, messageEntryHeaderSize] at h
  simp only [writeMessageEntry]
  have hsig : x < e ∨ e + (leBytes 4 messageEntrySignature).length ≤ x := by simp; omega
  have htext : x < e + messageEntryHeaderSize ∨
      e + messageEntryHeaderSize + msg.text.length ≤ x := by
    simp only [messageEntryHeaderSize]; omega
  have hlen : x < e + 16 ∨ e + 16 + (leBytes 2 msg.text.length).length ≤ x := by simp; omega
  have hlvl : x < e + 4 ∨ e + 4 + (leBytes 4 msg.debugLevel.toNat).length ≤ x := by simp; omega
  have hts : x < e + 8 ∨ e + 8 + (leBytes 8 msg.timeStamp.toNat).length ≤ x := by simp; omega
  rw [write_apply_of_disjoint hsig, write_apply_of_disjoint htext, write_apply_of_disjoint hlen,
    write_apply_of_disjoint hlvl, write_apply_of_disjoint hts]

/-- A stored entry reads back as its message (the text must fit `MessageLen`). -/
theorem writeMessageEntry_entryAt (mem : ByteMem) (e : Nat) (msg : LogMessage)
    (hlen : msg.text.length ≤ maxUint16) : EntryAt (writeMessageEntry mem e msg) e msg := by
  simp only [maxUint16] at hlen
  have hts : msg.timeStamp.toNat < 256 ^ 8 := by simpa using msg.timeStamp.toNat_lt
  have hdl : msg.debugLevel.toNat < 256 ^ 4 := by simpa using msg.debugLevel.toNat_lt
  -- every header field lies below the text
  have below : ∀ a w, a + w ≤ e + messageEntryHeaderSize →
      a + w ≤ e + messageEntryHeaderSize ∨ e + messageEntryHeaderSize + msg.text.length ≤ a :=
    fun _ _ h => Or.inl h
  simp only [writeMessageEntry]
  refine ⟨?_, ?_, ?_, ?_, ?_⟩
  · simp [messageEntrySignature]
  · rw [loadLe_write_of_disjoint (by simp), loadLe_write_of_disjoint (below _ _ (by simp [messageEntryHeaderSize])),
      loadLe_write_of_disjoint (by simp), loadLe_write_leBytes, Nat.mod_eq_of_lt hdl]
  · rw [loadLe_write_of_disjoint (by simp), loadLe_write_of_disjoint (below _ _ (by simp [messageEntryHeaderSize])),
      loadLe_write_of_disjoint (by simp), loadLe_write_of_disjoint (by simp),
      loadLe_write_leBytes, Nat.mod_eq_of_lt hts]
  · rw [loadLe_write_of_disjoint (by simp), loadLe_write_of_disjoint (below _ _ (by simp [messageEntryHeaderSize])),
      loadLe_write_leBytes, Nat.mod_eq_of_lt (by omega)]
  · rw [read_write_of_disjoint (by simp [messageEntryHeaderSize]), read_write_self]

/-! ### The log: entries back to back -/

/-- Total slot size of a list of messages. -/
def logSize (msgs : List LogMessage) : Nat := (msgs.map LogMessage.entrySize).sum

@[simp] theorem logSize_nil : logSize [] = 0 := rfl

@[simp] theorem logSize_cons (msg : LogMessage) (msgs : List LogMessage) :
    logSize (msg :: msgs) = msg.entrySize + logSize msgs := by
  simp [logSize]

theorem logSize_append (xs ys : List LogMessage) :
    logSize (xs ++ ys) = logSize xs + logSize ys := by
  simp [logSize]

theorem logSize_mod_eight (msgs : List LogMessage) : logSize msgs % 8 = 0 := by
  induction msgs with
  | nil => rfl
  | cons msg msgs ih =>
      have := messageEntrySize_mod_eight msg.text.length
      simp only [logSize_cons, LogMessage.entrySize] at *
      omega

/-- `LogLayout mem a msgs`: the entries of `msgs` sit back to back from address
`a`, each at the start of a `MESSAGE_ENTRY_SIZE` slot — the shape the writer
produces and `NEXT_LOG_ENTRY` walks. -/
def LogLayout (mem : ByteMem) : Nat → List LogMessage → Prop
  | _, [] => True
  | a, msg :: msgs => EntryAt mem a msg ∧ LogLayout mem (a + msg.entrySize) msgs

@[simp] theorem logLayout_nil (mem : ByteMem) (a : Nat) : LogLayout mem a [] := trivial

theorem logLayout_cons {mem : ByteMem} {a : Nat} {msg : LogMessage} {msgs : List LogMessage} :
    LogLayout mem a (msg :: msgs) ↔ EntryAt mem a msg ∧ LogLayout mem (a + msg.entrySize) msgs :=
  Iff.rfl

/-- **Relocation.** A layout only depends on the bytes of `[a, a + logSize msgs)`:
a memory that holds the same bytes at `a'` holds the same log there. -/
theorem LogLayout.relocate {mem mem' : ByteMem} {a a' : Nat} {msgs : List LogMessage}
    (h : LogLayout mem a msgs) (hm : ∀ i < logSize msgs, mem' (a' + i) = mem (a + i)) :
    LogLayout mem' a' msgs := by
  induction msgs generalizing a a' with
  | nil => trivial
  | cons msg msgs ih =>
      obtain ⟨hentry, hrest⟩ := h
      have hspan := msg.span_le_entrySize
      refine ⟨hentry.relocate fun i hi => hm i (by simp; omega), ih hrest fun i hi => ?_⟩
      have := hm (msg.entrySize + i) (by simp; omega)
      rwa [← Nat.add_assoc, ← Nat.add_assoc] at this

/-- **Frame rule.** Changing memory outside `[a, a + logSize msgs)` keeps the log. -/
theorem LogLayout.frame {mem mem' : ByteMem} {a : Nat} {msgs : List LogMessage}
    (h : LogLayout mem a msgs) (hm : ∀ x, a ≤ x → x < a + logSize msgs → mem' x = mem x) :
    LogLayout mem' a msgs :=
  h.relocate fun i hi => hm (a + i) (by omega) (by omega)

/-- One more entry right after the last one extends the log. -/
theorem LogLayout.append {mem : ByteMem} {a : Nat} {msgs : List LogMessage} {msg : LogMessage}
    (h : LogLayout mem a msgs) (he : EntryAt mem (a + logSize msgs) msg) :
    LogLayout mem a (msgs ++ [msg]) := by
  induction msgs generalizing a with
  | nil => simpa [LogLayout] using he
  | cons m msgs ih =>
      obtain ⟨hentry, hrest⟩ := h
      refine ⟨hentry, ih hrest ?_⟩
      rwa [logSize_cons, ← Nat.add_assoc] at he

end MuPlus.AdvLogger
