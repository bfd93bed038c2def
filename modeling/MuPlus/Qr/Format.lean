import MuPlus.Lib.ByteMem
import MuPlus.Lib.Gf2Poly

/-!
# MuPlus.Qr.Format

**Format and version information of the QR encoder**: the tables `gFormatInfo`
and `gVersionInfo` (`QrEncoderLib/QrEncoderTables.c`, after ISO/IEC 18004:2015
Tables C.1 and D.1) and `Step7_Process` (`QrEncoderLib/QrEncoderLib.c`), which
writes them into the module matrix after the mask is chosen.

The standard defines both words as codewords of cyclic codes
(`MuPlus.Lib.Gf2Poly`): the format word is the BCH(15,5) code of the error
correction level's two bits and the mask's three bits, with generator
`x^10 + x^8 + x^5 + x^4 + x^2 + x + 1` and XOR-ed with `101010000010010`; the
version word is the BCH(18,6) code of the version, with generator
`x^12 + x^11 + x^10 + x^9 + x^8 + x^5 + x^2 + 1`.

## Results

Every version word in the table is the BCH(18,6) code of its version, and
every format word but one is the BCH(15,5) code of its level and mask
(`formatInfoEntry_eq_formatInfoCode_iff`): the entry for level Q and mask 7 is
`0x4BED` where the code is `0x2BED`, which its own comment in the table spells
out. `Step7_Process` therefore draws two modules of each copy of the format
information the wrong colour whenever the encoder picks mask 7 at level Q
(`step7Process_q_mask7_format_modules`).
-/

namespace MuPlus.Qr

open ByteMem Gf2Poly

/-- `QRLEVEL`: the error correction level, `QrECLevel_L = 1` to `QrECLevel_H = 4`. -/
inductive QrLevel where
  | l
  | m
  | q
  | h
  deriving DecidableEq, Repr

/-- The level's value in the `QRLEVEL` enumeration. -/
def QrLevel.toNat : QrLevel → Nat
  | .l => 1
  | .m => 2
  | .q => 3
  | .h => 4

/-- The two-bit error correction level indicator of ISO/IEC 18004 Table 12. -/
def QrLevel.indicator : QrLevel → Nat
  | .l => 0b01
  | .m => 0b00
  | .q => 0b11
  | .h => 0b10

/-! ### The tables -/

/-- `gFormatInfo`, rows in `QRLEVEL` order, columns by mask. -/
def gFormatInfo : List (List UInt16) :=
  [[0x77C4, 0x72F3, 0x7DAA, 0x789D, 0x662F, 0x6318, 0x6C41, 0x6976],
   [0x5412, 0x5125, 0x5E7C, 0x5B4B, 0x45F9, 0x40CE, 0x4F97, 0x4AA0],
   [0x355F, 0x3068, 0x3F31, 0x3A06, 0x24B4, 0x2183, 0x2EDA, 0x4BED],
   [0x1689, 0x13BE, 0x1CE7, 0x19D0, 0x0762, 0x0255, 0x0D0C, 0x083B]]

/-- `gFormatInfo[gQrLevel-1][gQrMask]`. -/
def formatInfoEntry (qrLevel : QrLevel) (qrMask : Nat) : UInt16 :=
  (gFormatInfo.getD (qrLevel.toNat - 1) []).getD qrMask 0

/-- `gVersionInfo`, for versions 7 to 40. -/
def gVersionInfo : List UInt32 :=
  [0x07C94, 0x085BC, 0x09A99, 0x0A4D3, 0x0BBF6, 0x0C762, 0x0D847, 0x0E60D, 0x0F928,
   0x10B78, 0x1145D, 0x12A17, 0x13532, 0x149A6, 0x15683, 0x168C9, 0x177EC, 0x18EC4,
   0x191E1, 0x1AFAB, 0x1B08E, 0x1CC1A, 0x1D33F, 0x1ED75, 0x1F250, 0x209D5, 0x216F0,
   0x228BA, 0x2379F, 0x24B0B, 0x2542E, 0x26A64, 0x27541, 0x28C69]

/-- `gVersionInfo[gQrVersion-7]`. -/
def versionInfoEntry (qrVersion : Nat) : UInt32 :=
  gVersionInfo.getD (qrVersion - 7) 0

/-! ### What the standard asks for -/

/-- The format word of ISO/IEC 18004 7.9.1: the BCH(15,5) code of the level
indicator and the mask, XOR-ed with `101010000010010`. -/
def formatInfoCode (qrLevel : QrLevel) (qrMask : Nat) : Nat :=
  bchEncode 0b10100110111 10 5 (qrLevel.indicator <<< 3 ||| qrMask) ^^^ 0b101010000010010

/-- The version word of ISO/IEC 18004 7.10: the BCH(18,6) code of the version. -/
def versionInfoCode (qrVersion : Nat) : Nat :=
  bchEncode 0b1111100100101 12 6 qrVersion

/-- Every version word of the table is the BCH(18,6) code of its version. -/
theorem versionInfoEntry_eq_versionInfoCode :
    ∀ v : Fin 34, (versionInfoEntry (v + 7)).toNat = versionInfoCode (v + 7) := by
  decide

/-- Every format word of the table is the BCH(15,5) code of its level and
mask, except the one for level Q and mask 7. -/
theorem formatInfoEntry_eq_formatInfoCode_iff :
    ∀ (qrLevel : QrLevel) (qrMask : Fin 8),
      (formatInfoEntry qrLevel qrMask).toNat = formatInfoCode qrLevel qrMask ↔
        ¬ (qrLevel = .q ∧ qrMask = 7) := by
  intro qrLevel
  cases qrLevel <;> decide

/-! ### Step 7 -/

/-- `QrBlack`. -/
def qrBlack : UInt8 := 0x01

/-- `QrWhite`. -/
def qrWhite : UInt8 := 0x02

/-- `QR_FLAGS_DEBUG_MASK_ONLY`. -/
def qrFlagsDebugMaskOnly : UInt32 := 0x00000400

/-- The module colour of bit `b` of an information word. -/
def infoColor (word b : Nat) : UInt8 :=
  if word.testBit b then qrBlack else qrWhite

/-- The format loops of `Step7_Process`: bits 0 to 7 down column 8 (skipping
the timing row 6) and along row 8 from the right edge; bits 8 to 14 along row 8
from column 7 leftwards (skipping the timing column 6) and down column 8 from
row `gQrSize - 7`. -/
def writeFormatInfo (bitmap : ByteMem) (qrSize formatInfo : Nat) : ByteMem :=
  let bitmap := (List.range 8).foldl (fun bm i =>
      let t := if 6 ≤ i then 1 else 0
      (bm.write ((i + t) * qrSize + 8) [infoColor formatInfo i]).write
        (9 * qrSize - 1 - i) [infoColor formatInfo i]) bitmap
  (List.range 7).foldl (fun bm i =>
      let t := if i < 1 then 1 else 0
      (bm.write (8 * qrSize + 6 - i + t) [infoColor formatInfo (8 + i)]).write
        ((qrSize - 7 + i) * qrSize + 8) [infoColor formatInfo (8 + i)]) bitmap

/-- The version loops of `Step7_Process`: bit `3 j + i` in the lower-left block
at row `gQrSize - 11 + i`, column `j`, and in the upper-right block transposed. -/
def writeVersionInfo (bitmap : ByteMem) (qrSize versionInfo : Nat) : ByteMem :=
  (List.range 6).foldl (fun bm j =>
    (List.range 3).foldl (fun bm i =>
      (bm.write ((qrSize - 11 + i) * qrSize + j) [infoColor versionInfo (3 * j + i)]).write
        (qrSize * j + qrSize - 11 + i) [infoColor versionInfo (3 * j + i)]) bm) bitmap

/-- `Step7_Process` on the module matrix `gQrBitmap` (row-major, `gQrSize`
modules a row). -/
def step7Process (bitmap : ByteMem) (qrSize qrVersion : Nat) (qrLevel : QrLevel) (qrMask : Nat)
    (flags : UInt32) : ByteMem :=
  let formatInfo := formatInfoEntry qrLevel qrMask
  if flags &&& qrFlagsDebugMaskOnly ≠ 0 then bitmap
  else
    let bitmap := writeFormatInfo bitmap qrSize formatInfo.toNat
    if 6 < qrVersion then writeVersionInfo bitmap qrSize (versionInfoEntry qrVersion).toNat
    else bitmap

/-- **The format modules at level Q, mask 7.** In a version 1 symbol (21
modules a side) encoded at level Q with mask 7, `Step7_Process` draws bit 14 of
both format copies (row 8 column 0, and row 20 column 8) dark and bit 13 (row 8
column 1, and row 19 column 8) light, whatever the matrix held; the BCH(15,5)
format word of level Q and mask 7 has bit 14 clear and bit 13 set. -/
theorem step7Process_q_mask7_format_modules (bitmap : ByteMem) :
    step7Process bitmap 21 1 .q 7 0 (8 * 21 + 0) = qrBlack ∧
      step7Process bitmap 21 1 .q 7 0 (20 * 21 + 8) = qrBlack ∧
      step7Process bitmap 21 1 .q 7 0 (8 * 21 + 1) = qrWhite ∧
      step7Process bitmap 21 1 .q 7 0 (19 * 21 + 8) = qrWhite ∧
      (formatInfoCode .q 7).testBit 14 = false ∧ (formatInfoCode .q 7).testBit 13 = true := by
  refine ⟨rfl, rfl, rfl, rfl, by decide, by decide⟩

end MuPlus.Qr
