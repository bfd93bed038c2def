import MuPlus.Qr.Analysis

/-!
# MuPlus.Qr.Render

**Step 8 of the QR encoder** (`Step8_Process` in `QrEncoderLib/QrEncoderLib.c`): the module
matrix `gQrBitmap` drawn into a square `Gop->Blt` buffer of `RegionSize × RegionSize` pixels,
each module a `Factor × Factor` block, the symbol centred and the rest left white.

`Factor = RegionSize / (gQrSize + 8)` and `QrOffset = ((RegionSize - Factor * gQrSize) /
Factor) / 2` leave at least four modules of quiet zone on each side, and every pixel of the
symbol lies in the buffer. The buffer's size, `RegionSize * RegionSize`, is a `UINTN`
product, and from `RegionSize = 2^32` on it wraps.

## Results

* `mem_moduleOffsets_iff_pixelModule`: the pixels Step 8 writes for a module are exactly those
  that `pixelModule` maps back to it, so distinct modules get disjoint blocks;
* `drawModules_of_fits`: the module loops draw every block and leave the rest of the buffer;
* `quietZone_bounds`: the symbol starts `QrOffset * Factor ≥ 4 * Factor` pixels in and ends at
  least `4 * Factor` pixels before the far edge;
* `step8Process_draws_symbol`: below `RegionSize = 2^31` Step 8 succeeds and draws
  `symbolImage`, every pixel in the buffer and the pool large enough for all of them;
* `step8Process_wraps_at_2pow32`: at `RegionSize = 2^32` the buffer size wraps to `0` and
  Step 8 takes its out-of-bounds branch.
-/

namespace MuPlus.Qr

open ByteMem

/-- `EFI_GRAPHICS_OUTPUT_BLT_PIXEL`. -/
structure BltPixel where
  blue : UInt8
  green : UInt8
  red : UInt8
  reserved : UInt8
  deriving DecidableEq, Repr

def colorRsvd : BltPixel := ⟨232, 162, 0, 255⟩
def colorWhite : BltPixel := ⟨255, 255, 255, 255⟩
def colorBlack : BltPixel := ⟨0, 0, 0, 255⟩
def colorGray : BltPixel := ⟨135, 135, 135, 255⟩
def colorBad : BltPixel := ⟨0, 255, 0, 255⟩

/-- The `switch` of `Step8_Process`: a module's colour, with or without `QrExclude`. -/
def moduleColor (cell : UInt8) : BltPixel :=
  if cell = 0x03 ∨ cell = 0x83 then colorRsvd
  else if cell = 0x02 ∨ cell = 0x82 then colorWhite
  else if cell = 0x01 ∨ cell = 0x81 then colorBlack
  else if cell = 0x00 ∨ cell = 0x80 then colorGray
  else colorBad

/-- `gBltBuffer[Offset] = Color`. -/
def setPixel (buffer : Nat → BltPixel) (offset : Nat) (color : BltPixel) : Nat → BltPixel :=
  fun i => if i = offset then color else buffer i

/-- The offsets the `yy` and `xx` loops write for the module whose block starts at row `fy`
and column `fx`: `((fy + yy) * RegionSize) + fx + xx` as a `UINTN`. -/
def moduleOffsets (regionSize factor fy fx : Nat) : List Nat :=
  (List.range' 0 factor).flatMap fun yy =>
    (List.range' 0 factor).map fun xx => ((fy + yy) * regionSize + fx + xx) % 2 ^ 64

/-- The `yy` and `xx` loops: write each offset, and stop with `OutOfBounds` at the first that
is not below `BltBufferSize`. -/
def fillPixels (bltBufferSize : Nat) (color : BltPixel) :
    List Nat → (Nat → BltPixel) → (Nat → BltPixel) × Bool
  | [], buffer => (buffer, false)
  | offset :: offsets, buffer =>
      if bltBufferSize ≤ offset then (buffer, true)
      else fillPixels bltBufferSize color offsets (setPixel buffer offset color)

/-- The modules in the order of the `y` and `x` loops. -/
def modules (qrSize : Nat) : List (Nat × Nat) :=
  (List.range' 0 qrSize).flatMap fun y => (List.range' 0 qrSize).map fun x => (y, x)

/-- The `y` and `x` loops: draw each module's block, and return `EFI_NO_MEDIA` once a block
went out of bounds. -/
def drawModules (bitmap : ByteMem) (qrSize regionSize factor qrOffset bltBufferSize : Nat) :
    List (Nat × Nat) → (Nat → BltPixel) → EfiStatus × (Nat → BltPixel)
  | [], buffer => (.success, buffer)
  | (y, x) :: rest, buffer =>
      let color := moduleColor (bitmap (y * qrSize + x))
      let fy := (y + qrOffset) * factor
      let fx := (x + qrOffset) * factor
      match fillPixels bltBufferSize color (moduleOffsets regionSize factor fy fx) buffer with
      | (buffer, true) => (.noMedia, buffer)
      | (buffer, false) =>
          drawModules bitmap qrSize regionSize factor qrOffset bltBufferSize rest buffer

/-- `Factor`. -/
def qrFactor (qrSize regionSize : Nat) : Nat :=
  regionSize / (qrSize + 2 * qrQuietZone)

/-- `QrOffset`. -/
def qrOffset (qrSize regionSize : Nat) : Nat :=
  (regionSize - qrFactor qrSize regionSize * qrSize) / qrFactor qrSize regionSize / 2

/-- `BltBufferSize = RegionSize * RegionSize`, a `UINTN`. -/
def bltBufferSize (regionSize : Nat) : Nat :=
  regionSize * regionSize % 2 ^ 64

/-- `Step8_Process (RegionSize)` on a region Step 1 has accepted, with `allocated` the outcome
of `AllocatePool`: the status and, after a successful allocation, the buffer, set white
by `SetMem32` before the modules are drawn. -/
def step8Process (bitmap : ByteMem) (qrSize regionSize : Nat) (allocated : Bool) :
    EfiStatus × Option (Nat → BltPixel) :=
  if !allocated then (.outOfResources, none)
  else
    let (status, buffer) := drawModules bitmap qrSize regionSize (qrFactor qrSize regionSize)
      (qrOffset qrSize regionSize) (bltBufferSize regionSize) (modules qrSize)
      (fun _ => colorWhite)
    (status, some buffer)

/-! ### The image -/

/-- The module whose block holds pixel `i`, if any. -/
def pixelModule (qrSize regionSize factor qrOffset i : Nat) : Option (Nat × Nat) :=
  let py := i / regionSize
  let px := i % regionSize
  if i < regionSize * regionSize ∧ qrOffset * factor ≤ py ∧ py < (qrOffset + qrSize) * factor ∧
      qrOffset * factor ≤ px ∧ px < (qrOffset + qrSize) * factor then
    some (py / factor - qrOffset, px / factor - qrOffset)
  else none

/-- What Step 8 is meant to draw: each module's colour over its block, white elsewhere. -/
def symbolImage (bitmap : ByteMem) (qrSize regionSize : Nat) (i : Nat) : BltPixel :=
  match pixelModule qrSize regionSize (qrFactor qrSize regionSize) (qrOffset qrSize regionSize) i with
  | some (y, x) => moduleColor (bitmap (y * qrSize + x))
  | none => colorWhite

/-! ### Rows of a square buffer -/

/-- A pixel `b` columns into row `a` of a buffer `R` pixels wide. -/
theorem div_mod_of_lt {R a b : Nat} (hb : b < R) : (a * R + b) / R = a ∧ (a * R + b) % R = b := by
  have hR : 0 < R := by omega
  constructor
  · rw [Nat.add_comm, Nat.add_mul_div_right _ _ hR, Nat.div_eq_of_lt hb, Nat.zero_add]
  · rw [Nat.add_comm, Nat.add_mul_mod_self_right, Nat.mod_eq_of_lt hb]

/-! ### The loops -/

/-- The `yy` and `xx` loops over offsets that are all in bounds: every one is written. -/
theorem fillPixels_of_lt {bltBufferSize : Nat} {color : BltPixel} {offsets : List Nat}
    (h : ∀ o ∈ offsets, o < bltBufferSize) (buffer : Nat → BltPixel) :
    fillPixels bltBufferSize color offsets buffer =
      (fun i => if i ∈ offsets then color else buffer i, false) := by
  induction offsets generalizing buffer with
  | nil => simp [fillPixels]
  | cons o offsets ih =>
      have ho : ¬bltBufferSize ≤ o := Nat.not_le.mpr (h o List.mem_cons_self)
      rw [fillPixels, if_neg ho, ih fun o' ho' => h o' (List.mem_cons_of_mem _ ho')]
      congr 1
      funext i
      by_cases hi : i ∈ offsets <;> by_cases hio : i = o <;> simp [setPixel, hi, hio]

/-- **The block of a module.** The offsets the `yy` and `xx` loops write are the pixels in
rows `[fy, fy + Factor)` and columns `[fx, fx + Factor)`, when the block fits in a row and
no offset wraps. -/
theorem mem_moduleOffsets_iff {regionSize factor fy fx i : Nat}
    (hfx : fx + factor ≤ regionSize) (hwrap : (fy + factor) * regionSize ≤ 2 ^ 64) :
    i ∈ moduleOffsets regionSize factor fy fx ↔
      fy ≤ i / regionSize ∧ i / regionSize < fy + factor ∧
        fx ≤ i % regionSize ∧ i % regionSize < fx + factor := by
  simp only [moduleOffsets, List.mem_flatMap, List.mem_map, List.mem_range'_1]
  constructor
  · rintro ⟨yy, hyy, xx, hxx, rfl⟩
    -- The offset is below the end of row `fy + factor`, so it does not wrap.
    have hlt : (fy + yy) * regionSize + (fx + xx) < (fy + factor) * regionSize := by
      have hrow : (fy + yy + 1) * regionSize ≤ (fy + factor) * regionSize :=
        Nat.mul_le_mul_right _ (by omega)
      rw [Nat.add_mul _ 1, Nat.one_mul] at hrow
      omega
    rw [← Nat.add_assoc, Nat.mod_eq_of_lt (by omega)] at *
    obtain ⟨hdiv, hmod⟩ := div_mod_of_lt (a := fy + yy) (show fx + xx < regionSize by omega)
    rw [Nat.add_assoc] at *
    rw [hdiv, hmod]
    omega
  · rintro ⟨hy₁, hy₂, hx₁, hx₂⟩
    refine ⟨i / regionSize - fy, by omega, i % regionSize - fx, by omega, ?_⟩
    have hR : 0 < regionSize := by omega
    have hlt : i < (fy + factor) * regionSize := (Nat.div_lt_iff_lt_mul hR).mp hy₂
    rw [show fy + (i / regionSize - fy) = i / regionSize by omega,
      show (i / regionSize) * regionSize + fx + (i % regionSize - fx) =
        (i / regionSize) * regionSize + i % regionSize by omega,
      Nat.div_add_mod', Nat.mod_eq_of_lt (by omega)]

/-! ### Modules and their blocks -/

section Blocks

variable {qrSize regionSize factor qrOffset : Nat}

/-- A pixel's row or column `p` lies in the block of module row or column `k`. -/
theorem block_iff_div {p k : Nat} (hfactor : 0 < factor) :
    (k * factor ≤ p ∧ p < k * factor + factor) ↔ p / factor = k := by
  rw [Nat.div_eq_iff hfactor]
  omega

/-- **Each pixel of the symbol belongs to one module.** The offsets Step 8 writes for a module
of the matrix are the pixels `pixelModule` maps back to it. -/
theorem mem_moduleOffsets_iff_pixelModule {y x i : Nat} (hy : y < qrSize) (hx : x < qrSize)
    (hfactor : 0 < factor) (hfit : (qrOffset + qrSize) * factor ≤ regionSize)
    (hwrap : regionSize * regionSize ≤ 2 ^ 64) :
    i ∈ moduleOffsets regionSize factor ((y + qrOffset) * factor) ((x + qrOffset) * factor) ↔
      pixelModule qrSize regionSize factor qrOffset i = some (y, x) := by
  -- Module `k`'s block ends by the symbol's end, itself within the region.
  have hend : ∀ k, k < qrSize → (k + qrOffset) * factor + factor ≤ (qrOffset + qrSize) * factor :=
    fun k hk => by
      have := Nat.mul_le_mul_right factor (show k + qrOffset + 1 ≤ qrOffset + qrSize by omega)
      rw [Nat.add_mul _ 1, Nat.one_mul] at this
      exact this
  have hstart : ∀ k, qrOffset * factor ≤ (k + qrOffset) * factor :=
    fun k => Nat.mul_le_mul_right _ (by omega)
  have hR : 0 < regionSize := by
    have := hend y hy
    have := Nat.mul_pos hfactor hfactor
    omega
  have hrows : ((y + qrOffset) * factor + factor) * regionSize ≤ 2 ^ 64 :=
    Nat.le_trans (Nat.mul_le_mul_right _ (by have := hend y hy; omega)) hwrap
  rw [mem_moduleOffsets_iff (by have := hend x hx; omega) hrows]
  constructor
  · rintro ⟨hy₁, hy₂, hx₁, hx₂⟩
    have hrow : i / regionSize / factor = y + qrOffset := (block_iff_div hfactor).mp ⟨hy₁, hy₂⟩
    have hcol : i % regionSize / factor = x + qrOffset := (block_iff_div hfactor).mp ⟨hx₁, hx₂⟩
    have hi : i < regionSize * regionSize :=
      (Nat.div_lt_iff_lt_mul hR).mp (by have := hend y hy; omega)
    have := hend y hy
    have := hend x hx
    have := hstart y
    have := hstart x
    simp only [pixelModule]
    rw [if_pos ⟨hi, by omega, by omega, by omega, by omega⟩, hrow, hcol]
    simp
  · intro h
    simp only [pixelModule] at h
    split_ifs at h with hcond
    simp only [Option.some.injEq, Prod.mk.injEq] at h
    obtain ⟨hi, hy₁, hy₂, hx₁, hx₂⟩ := hcond
    -- The block of the pixel's module row: at least `qrOffset`, so it is `y + qrOffset`.
    have hrow : i / regionSize / factor = y + qrOffset := by
      have := (Nat.le_div_iff_mul_le hfactor).mpr hy₁
      omega
    have hcol : i % regionSize / factor = x + qrOffset := by
      have := (Nat.le_div_iff_mul_le hfactor).mpr hx₁
      omega
    obtain ⟨hrow₁, hrow₂⟩ := (block_iff_div hfactor).mpr hrow
    obtain ⟨hcol₁, hcol₂⟩ := (block_iff_div hfactor).mpr hcol
    exact ⟨hrow₁, hrow₂, hcol₁, hcol₂⟩

theorem lt_of_pixelModule_eq_some {i : Nat} {m : Nat × Nat}
    (h : pixelModule qrSize regionSize factor qrOffset i = some m) : i < regionSize * regionSize := by
  simp only [pixelModule] at h
  split_ifs at h with hcond
  exact hcond.1

/-- The module of a pixel is a module of the matrix. -/
theorem lt_of_pixelModule_eq_some' {i y x : Nat} (hfactor : 0 < factor)
    (h : pixelModule qrSize regionSize factor qrOffset i = some (y, x)) :
    y < qrSize ∧ x < qrSize := by
  simp only [pixelModule] at h
  split_ifs at h with hcond
  simp only [Option.some.injEq, Prod.mk.injEq] at h
  obtain ⟨-, hy₁, hy₂, hx₁, hx₂⟩ := hcond
  have hy₁' := (Nat.le_div_iff_mul_le hfactor).mpr hy₁
  have hy₂' := (Nat.div_lt_iff_lt_mul hfactor).mpr hy₂
  have hx₁' := (Nat.le_div_iff_mul_le hfactor).mpr hx₁
  have hx₂' := (Nat.div_lt_iff_lt_mul hfactor).mpr hx₂
  omega

@[simp] theorem mem_modules {y x : Nat} : (y, x) ∈ modules qrSize ↔ y < qrSize ∧ x < qrSize := by
  simp [modules, List.mem_range'_1]

/-- **The `y` and `x` loops draw every block.** Over modules of the matrix, when the symbol
fits in the region and the buffer's size does not wrap, the loops succeed, and each pixel of a
drawn module's block takes the module's colour while every other pixel keeps its value. -/
theorem drawModules_of_fits {bitmap : ByteMem} {bltBufferSize : Nat}
    {ms : List (Nat × Nat)} (hms : ∀ m ∈ ms, m.1 < qrSize ∧ m.2 < qrSize) (hfactor : 0 < factor)
    (hfit : (qrOffset + qrSize) * factor ≤ regionSize) (hwrap : regionSize * regionSize ≤ 2 ^ 64)
    (hsize : bltBufferSize = regionSize * regionSize) (buffer : Nat → BltPixel) :
    drawModules bitmap qrSize regionSize factor qrOffset bltBufferSize ms buffer =
      (.success, fun i => match pixelModule qrSize regionSize factor qrOffset i with
        | some m => if m ∈ ms then moduleColor (bitmap (m.1 * qrSize + m.2)) else buffer i
        | none => buffer i) := by
  induction ms generalizing buffer with
  | nil =>
      simp only [drawModules, List.not_mem_nil, if_false]
      congr 1
      funext i
      split <;> rfl
  | cons m ms ih =>
      obtain ⟨y, x⟩ := m
      obtain ⟨hy, hx⟩ := hms (y, x) List.mem_cons_self
      have hblock := fun i => @mem_moduleOffsets_iff_pixelModule qrSize regionSize factor qrOffset
        y x i hy hx hfactor hfit hwrap
      -- Every pixel of the block is in the buffer, so the block is drawn whole.
      have hlt : ∀ o ∈ moduleOffsets regionSize factor ((y + qrOffset) * factor)
          ((x + qrOffset) * factor), o < bltBufferSize :=
        fun o ho => hsize ▸ lt_of_pixelModule_eq_some ((hblock o).mp ho)
      simp only [drawModules]
      rw [fillPixels_of_lt hlt]
      dsimp only
      rw [ih fun m hm => hms m (List.mem_cons_of_mem _ hm)]
      congr 1
      funext i
      -- A pixel of this block belongs to no other module.
      rcases hpix : pixelModule qrSize regionSize factor qrOffset i with _ | m
      · have hout : i ∉ moduleOffsets regionSize factor ((y + qrOffset) * factor)
            ((x + qrOffset) * factor) := fun hi => by simp [(hblock i).mp hi] at hpix
        simp [hout]
      · by_cases hm : m = (y, x)
        · subst hm
          simp [(hblock i).mpr hpix]
        · have hout : i ∉ moduleOffsets regionSize factor ((y + qrOffset) * factor)
              ((x + qrOffset) * factor) := fun hi => hm (by simpa [hpix] using (hblock i).mp hi)
          simp [hout, hm]

end Blocks

/-! ### Step 8 -/

/-- **The quiet zone.** On a region Step 1 accepts, `Factor` is at least `1`, the symbol starts
at least four modules in, and at least four modules of white follow it. -/
theorem quietZone_bounds {qrSize regionSize : Nat}
    (hregion : qrSize + 2 * qrQuietZone ≤ regionSize) :
    0 < qrFactor qrSize regionSize ∧
      qrQuietZone * qrFactor qrSize regionSize ≤
        qrOffset qrSize regionSize * qrFactor qrSize regionSize ∧
      (qrOffset qrSize regionSize + qrSize) * qrFactor qrSize regionSize +
        qrQuietZone * qrFactor qrSize regionSize ≤ regionSize := by
  simp only [qrOffset, qrQuietZone] at hregion ⊢
  generalize hF : qrFactor qrSize regionSize = F
  -- `Factor` modules of `gQrSize + 8` fit in the region, so at least 8 are left over.
  have hFpos : 0 < F := by
    rw [← hF, qrFactor, qrQuietZone]
    exact Nat.div_pos hregion (by omega)
  have hFle : F * (qrSize + 8) ≤ regionSize := by
    rw [← hF, qrFactor, qrQuietZone]
    exact Nat.div_mul_le_self _ _
  generalize hD : regionSize - F * qrSize = D
  have hSF : F * qrSize ≤ regionSize := Nat.le_trans (Nat.mul_le_mul_left _ (by omega)) hFle
  have h8 : 8 * F ≤ D := by
    rw [Nat.mul_add] at hFle
    omega
  have hd : 8 ≤ D / F := (Nat.le_div_iff_mul_le hFpos).mpr (by omega)
  -- `QrOffset = (D / F) / 2`: twice its width in pixels is at most `D`.
  have hQ : 4 ≤ D / F / 2 := by omega
  have h2Q : 2 * (D / F / 2 * F) ≤ D := by
    have := Nat.div_mul_le_self D F
    have := Nat.mul_le_mul_right F (Nat.mul_div_le (D / F) 2)
    rw [Nat.mul_assoc] at this
    omega
  refine ⟨hFpos, Nat.mul_le_mul_right F hQ, ?_⟩
  rw [Nat.add_mul, Nat.mul_comm qrSize F]
  omega

/-- What `AllocatePool` is asked for: `BltBufferSize * sizeof (EFI_GRAPHICS_OUTPUT_BLT_PIXEL)`,
a `UINTN`. -/
def bltAllocationSize (regionSize : Nat) : Nat :=
  bltBufferSize regionSize * 4 % 2 ^ 64

/-- **Step 8 on a region below `2^31` pixels a side.** With the pool allocated, Step 8 returns
`EFI_SUCCESS` and draws `symbolImage`: the pool holds every pixel, each module is drawn over a
`Factor × Factor` block inside the buffer, blocks of distinct modules are disjoint, and at least
four modules of white surround the symbol. -/
theorem step8Process_draws_symbol (bitmap : ByteMem) {qrVersion regionSize : Nat}
    (hregion : qrSize qrVersion + 2 * qrQuietZone ≤ regionSize) (hbound : regionSize < 2 ^ 31) :
    step8Process bitmap (qrSize qrVersion) regionSize true =
        (.success, some (symbolImage bitmap (qrSize qrVersion) regionSize)) ∧
      bltAllocationSize regionSize = 4 * (regionSize * regionSize) ∧
      (∀ m ∈ modules (qrSize qrVersion), ∀ i ∈ moduleOffsets regionSize
          (qrFactor (qrSize qrVersion) regionSize)
          ((m.1 + qrOffset (qrSize qrVersion) regionSize) * qrFactor (qrSize qrVersion) regionSize)
          ((m.2 + qrOffset (qrSize qrVersion) regionSize) * qrFactor (qrSize qrVersion) regionSize),
        pixelModule (qrSize qrVersion) regionSize (qrFactor (qrSize qrVersion) regionSize)
          (qrOffset (qrSize qrVersion) regionSize) i = some m ∧ i < regionSize * regionSize) ∧
      qrQuietZone * qrFactor (qrSize qrVersion) regionSize ≤
        qrOffset (qrSize qrVersion) regionSize * qrFactor (qrSize qrVersion) regionSize ∧
      (qrOffset (qrSize qrVersion) regionSize + qrSize qrVersion) *
          qrFactor (qrSize qrVersion) regionSize +
        qrQuietZone * qrFactor (qrSize qrVersion) regionSize ≤ regionSize := by
  obtain ⟨hFpos, hleft, hright⟩ := quietZone_bounds hregion
  have hfit : (qrOffset (qrSize qrVersion) regionSize + qrSize qrVersion) *
      qrFactor (qrSize qrVersion) regionSize ≤ regionSize := by omega
  -- No product wraps below `2^31`.
  have hsq : regionSize * regionSize < 2 ^ 62 := by
    have := Nat.mul_lt_mul'' hbound hbound
    omega
  have hsize : bltBufferSize regionSize = regionSize * regionSize :=
    Nat.mod_eq_of_lt (by omega)
  have hwrap : regionSize * regionSize ≤ 2 ^ 64 := by omega
  have hblock := fun (m : Nat × Nat) (hm : m ∈ modules (qrSize qrVersion)) i =>
    @mem_moduleOffsets_iff_pixelModule (qrSize qrVersion) regionSize
      (qrFactor (qrSize qrVersion) regionSize) (qrOffset (qrSize qrVersion) regionSize)
      m.1 m.2 i (mem_modules.mp hm).1 (mem_modules.mp hm).2 hFpos hfit hwrap
  refine ⟨?_, ?_, fun m hm i hi => ?_, hleft, hright⟩
  · -- Every module of the matrix is drawn, so each pixel is its module's colour or white.
    rw [step8Process, drawModules_of_fits (fun m hm => mem_modules.mp hm) hFpos hfit hwrap hsize]
    simp only [Bool.not_true, Bool.false_eq_true, if_false]
    congr 2
    funext i
    rcases hpix : pixelModule (qrSize qrVersion) regionSize (qrFactor (qrSize qrVersion) regionSize)
      (qrOffset (qrSize qrVersion) regionSize) i with _ | ⟨y, x⟩
    · simp only [symbolImage, hpix]
    · simp only [symbolImage, hpix, if_pos (mem_modules.mpr (lt_of_pixelModule_eq_some' hFpos hpix))]
  · rw [bltAllocationSize, hsize, Nat.mul_comm]
    exact Nat.mod_eq_of_lt (by omega)
  · have hpix := (hblock m hm i).mp (by simpa using hi)
    exact ⟨by simpa using hpix, lt_of_pixelModule_eq_some hpix⟩

/-- A version 1 symbol of all light modules in a region of 100 pixels a side. -/
theorem step8Process_draws_version1_in_100 :
    step8Process (fun _ => 0) (qrSize 1) 100 true =
        (.success, some (symbolImage (fun _ => 0) (qrSize 1) 100)) ∧
      bltAllocationSize 100 = 4 * (100 * 100) :=
  have h := @step8Process_draws_symbol (fun _ => 0) 1 100 (by decide) (by decide)
  ⟨h.1, h.2.1⟩

/-- At `RegionSize = 2^32` the first pixel of the first module takes the out-of-bounds
branch, whatever the matrix. -/
theorem step8Process_noMedia_at_2pow32 (bitmap : ByteMem) :
    (step8Process bitmap (qrSize 1) (2 ^ 32) true).1 = .noMedia :=
  rfl

/-- **At `RegionSize = 2^32` Step 8 goes out of bounds.** Step 1 accepts the region, but
`RegionSize * RegionSize` wraps to `0`, and Step 8 fails on a version 1 matrix. -/
theorem step8Process_wraps_at_2pow32 :
    (qrSize 1 + 2 * qrQuietZone : Int) ≤ 2 ^ 32 ∧ bltBufferSize (2 ^ 32) = 0 ∧
      (step8Process (fun _ => 0) (qrSize 1) (2 ^ 32) true).1 = .noMedia :=
  ⟨by decide, by decide, step8Process_noMedia_at_2pow32 _⟩

end MuPlus.Qr
