import SecondDisplay.Library.InPlace
import SecondDisplay.Library.Logged
import Mathlib.Tactic.Ring

/-!
# From BGRA to NV12 (`display/DesktopDuplication.cpp`)

`ConvertBgraToNv12` writes a plane of brightness, one byte for each pixel, and behind it a plane of
colour, with two bytes for each block of two by two pixels.  The picture is as large as Windows
says.  Every access is logged, and a write outside the vector ends the conversion.  The vector has
room for half as many rows of colour as there are rows, and with an odd height one more is written
(`convertBgraToNv12_inBounds_iff`).
-/

namespace SecondDisplay.Nv12

open Logged (Passes Guarded tell need forEach guarded_ok guarded_tell_need guarded_forEach
  passes_bind_iff passes_forEach_iff passes_pure_iff passes_tell_iff passes_need_iff)

/-! ### Accesses -/

/-- A read from the picture, or a write to the vector. -/
inductive Access where
  | read (index : Nat)
  | write (index : Nat) (value : UInt8)
  deriving DecidableEq

/-- A write outside the vector. -/
inductive Fault where
  | outside
  deriving DecidableEq

/-- The byte at an index behind `bgra`. -/
def read (bgra : Nat → UInt8) (index : Nat) : Logged Access Fault UInt8 := do
  tell (.read index)
  pure (bgra index)

/-- A byte of a vector of some size. -/
def write (size index : Nat) (value : UInt8) : Logged Access Fault Unit := do
  tell (.write index value)
  need .outside (if index < size then some () else none)

/-- A read inside the rows of the picture, or a write below the size of the vector. -/
def inBounds (rowPitch width height : UInt32) : Access → Bool
  | .read index =>
    index / rowPitch.toNat < height.toNat && index % rowPitch.toNat < 4 * width.toNat
  | .write index _ => index < width.toNat * height.toNat * 3 / 2

/-! ### Colours -/

/-- The colours of a pixel. -/
structure Rgb where
  r : Nat
  g : Nat
  b : Nat

/-- `Clamp8`. -/
def clamp8 (v : Int) : UInt8 := UInt8.ofNat (if v < 0 then 0 else if 255 < v then 255 else v).toNat

/-- `y`. -/
def luma (p : Rgb) : Int := ((66 * p.r + 129 * p.g + 25 * p.b + 128 : Int) >>> (8 : Nat)) + 16

/-- `u`. -/
def chromaU (p : Rgb) : Int := ((-38 * p.r - 74 * p.g + 112 * p.b + 128 : Int) >>> (8 : Nat)) + 128

/-- `v`. -/
def chromaV (p : Rgb) : Int := ((112 * p.r - 94 * p.g - 18 * p.b + 128 : Int) >>> (8 : Nat)) + 128

/-- `sr / 4`, `sg / 4` and `sb / 4`. -/
def mean (p q s t : Rgb) : Rgb where
  r := (p.r + q.r + s.r + t.r) / 4
  g := (p.g + q.g + s.g + t.g) / 4
  b := (p.b + q.b + s.b + t.b) / 4

/-- The pixel of a row. -/
def pixel (bgra : Nat → UInt8) (row c : Nat) : Rgb where
  r := (bgra (row + c * 4 + 2)).toNat
  g := (bgra (row + c * 4 + 1)).toNat
  b := (bgra (row + c * 4)).toNat

/-- `sample`. -/
def sample (bgra : Nat → UInt8) (row c : Nat) : Logged Access Fault Rgb := do
  let b ← read bgra (row + c * 4)
  let g ← read bgra (row + c * 4 + 1)
  let r ← read bgra (row + c * 4 + 2)
  pure { r := r.toNat, g := g.toNat, b := b.toNat }

/-! ### The loops -/

/-- The counters of a loop that goes on by two.  Up to 2^32 - 1, where the counter would wrap
around, the last turn of the loop over the rows is outside. -/
def evens (bound : Nat) : List Nat := (List.range ((bound + 1) / 2)).map fun i => 2 * i

/-- The size of the vector. -/
def nv12Size (width height : UInt32) : Nat := width.toNat * height.toNat * 3 % 2 ^ 64 / 2

section

variable (bgra : Nat → UInt8) (rowPitch width height : UInt32)

/-- A turn of the loops over the pixels. -/
def lumaPixel (row col : Nat) : Logged Access Fault Unit := do
  let px ← sample bgra (row * rowPitch.toNat) col
  write (nv12Size width height) (row * width.toNat + col) (clamp8 (luma px))

/-- A turn of the loops over the blocks. -/
def chromaBlock (row col : Nat) : Logged Access Fault Unit := do
  let srcRow0 := row * rowPitch.toNat
  let srcRow1 := min (row + 1) (height.toNat - 1) * rowPitch.toNat
  let uvRow := width.toNat * height.toNat + row / 2 * width.toNat
  let col1 := min (col + 1) (width.toNat - 1)
  let p ← sample bgra srcRow0 col
  let q ← sample bgra srcRow0 col1
  let s ← sample bgra srcRow1 col
  let t ← sample bgra srcRow1 col1
  write (nv12Size width height) (uvRow + col) (clamp8 (chromaU (mean p q s t)))
  write (nv12Size width height) (uvRow + col1) (clamp8 (chromaV (mean p q s t)))

/-- `ConvertBgraToNv12`. -/
def convertBgraToNv12 : Logged Access Fault Unit := do
  forEach (List.range height.toNat) fun row =>
    forEach (List.range width.toNat) fun col => lumaPixel bgra rowPitch width height row col
  forEach (evens height.toNat) fun row =>
    forEach (evens width.toNat) fun col => chromaBlock bgra rowPitch width height row col

end

/-! ### The indices -/

/-- With rows as long as this, twice the size of the vector fits in 64 bits. -/
theorem nv12Size_eq {rowPitch width height : UInt32} (hpitch : 4 * width.toNat ≤ rowPitch.toNat) :
    nv12Size width height = width.toNat * height.toNat * 3 / 2 := by
  have hwidth : width.toNat < 2 ^ 30 := by
    have hlt := rowPitch.toNat_lt
    omega
  have harea : width.toNat * height.toNat ≤ 2 ^ 30 * 2 ^ 32 :=
    Nat.mul_le_mul hwidth.le height.toNat_lt.le
  rw [nv12Size, Nat.mod_eq_of_lt (by omega)]

theorem index_lt {row col width height : Nat} (hrow : row < height) (hcol : col < width) :
    row * width + col < height * width := by
  have hnext : (row + 1) * width ≤ height * width := Nat.mul_le_mul_right _ hrow
  rw [Nat.succ_mul] at hnext
  omega

/-- The rows of a picture in pairs. -/
theorem area_eq (width height : Nat) :
    width * height = 2 * (height / 2 * width) + height % 2 * width := by
  conv_lhs => rw [← Nat.div_add_mod height 2]
  ring

theorem mem_evens_iff {bound i : Nat} : i ∈ evens bound ↔ i < bound ∧ i % 2 = 0 := by
  simp only [evens, List.mem_map, List.mem_range]
  constructor
  · intro h
    obtain ⟨j, hj, rfl⟩ := h
    omega
  · intro h
    exact ⟨i / 2, by omega, by omega⟩

/-- The colour of a pixel is inside its row. -/
theorem inBounds_read {rowPitch width height : UInt32} {row col channel : Nat}
    (hpitch : 4 * width.toNat ≤ rowPitch.toNat) (hrow : row < height.toNat)
    (hcol : col < width.toNat) (hchannel : channel < 4) :
    inBounds rowPitch width height (.read (row * rowPitch.toNat + col * 4 + channel)) = true := by
  have hlt : col * 4 + channel < rowPitch.toNat := by omega
  have hpos : 0 < rowPitch.toNat := by omega
  rw [inBounds, Nat.add_assoc, Nat.add_comm, Nat.add_mul_div_right _ _ hpos,
    Nat.add_mul_mod_self_right, Nat.div_eq_of_lt hlt, Nat.mod_eq_of_lt hlt, Bool.and_eq_true,
    decide_eq_true_eq, decide_eq_true_eq]
  omega

section

variable {bgra : Nat → UInt8} {rowPitch width height : UInt32}

/-- The loops stop only behind a write outside the vector. -/
theorem guarded_convert (hpitch : 4 * width.toNat ≤ rowPitch.toNat) :
    Guarded (inBounds rowPitch width height) (convertBgraToNv12 bgra rowPitch width height) := by
  have hwrite (index : Nat) (value : UInt8) :
      Guarded (inBounds rowPitch width height) (write (nv12Size width height) index value) := by
    refine guarded_tell_need fun h => ?_
    rw [inBounds, decide_eq_true_eq, ← nv12Size_eq hpitch] at h
    rw [if_pos h, Option.isSome_some]
  have hsample (row c : Nat) :
      Guarded (inBounds rowPitch width height) (sample bgra row c) := guarded_ok _ _
  refine Guarded.bind (guarded_forEach fun row => guarded_forEach fun col => ?_)
    fun _ => guarded_forEach fun row => guarded_forEach fun col => ?_
  · exact (hsample _ _).bind fun px => hwrite _ _
  · exact (hsample _ _).bind fun p => (hsample _ _).bind fun q => (hsample _ _).bind fun s =>
      (hsample _ _).bind fun t => (hwrite _ _).bind fun _ => hwrite _ _

theorem passes_sample (hpitch : 4 * width.toNat ≤ rowPitch.toNat) {row col : Nat}
    (hrow : row < height.toNat) (hcol : col < width.toNat) {px : Rgb} :
    Passes (inBounds rowPitch width height) (sample bgra (row * rowPitch.toNat) col) px ↔
      pixel bgra (row * rowPitch.toNat) col = px := by
  have hread (channel : Nat) (hchannel : channel < 4) :=
    inBounds_read hpitch hrow hcol hchannel
  simp only [sample, read, passes_bind_iff, passes_tell_iff, passes_pure_iff]
  constructor
  · intro h
    obtain ⟨b, ⟨-, -, rfl⟩, g, ⟨-, -, rfl⟩, r, ⟨-, -, rfl⟩, rfl⟩ := h
    rfl
  · intro h
    exact ⟨_, ⟨(), hread 0 (by decide), rfl⟩, _, ⟨(), hread 1 (by decide), rfl⟩, _,
      ⟨(), hread 2 (by decide), rfl⟩, h⟩

theorem passes_write (hpitch : 4 * width.toNat ≤ rowPitch.toNat) {index : Nat} {value : UInt8} :
    Passes (inBounds rowPitch width height) (write (nv12Size width height) index value) () ↔
      index < width.toNat * height.toNat * 3 / 2 := by
  rw [write, nv12Size_eq hpitch, passes_bind_iff]
  simp only [passes_tell_iff, passes_need_iff, inBounds, decide_eq_true_eq]
  constructor
  · intro h
    obtain ⟨-, hlt, -⟩ := h
    exact hlt
  · intro h
    exact ⟨(), h, if_pos h⟩

theorem passes_lumaPixel (hpitch : 4 * width.toNat ≤ rowPitch.toNat) {row col : Nat}
    (hrow : row < height.toNat) (hcol : col < width.toNat) :
    Passes (inBounds rowPitch width height) (lumaPixel bgra rowPitch width height row col) () ↔
      row * width.toNat + col < width.toNat * height.toNat * 3 / 2 := by
  rw [lumaPixel, passes_bind_iff]
  simp only [passes_sample hpitch hrow hcol, passes_write hpitch, exists_eq_left']

/-- **A block is within bounds** if its two bytes of colour are. -/
theorem passes_chromaBlock (hpitch : 4 * width.toNat ≤ rowPitch.toNat) {row col : Nat}
    (hrow : row < height.toNat) (hcol : col < width.toNat) :
    Passes (inBounds rowPitch width height) (chromaBlock bgra rowPitch width height row col) () ↔
      width.toNat * height.toNat + row / 2 * width.toNat + min (col + 1) (width.toNat - 1) <
        width.toNat * height.toNat * 3 / 2 := by
  have hrow1 : min (row + 1) (height.toNat - 1) < height.toNat := by omega
  have hcol1 : min (col + 1) (width.toNat - 1) < width.toNat := by omega
  simp only [chromaBlock, passes_bind_iff, passes_sample hpitch hrow hcol,
    passes_sample hpitch hrow hcol1, passes_sample hpitch hrow1 hcol,
    passes_sample hpitch hrow1 hcol1, passes_write hpitch, exists_eq_left']
  constructor
  · intro h
    obtain ⟨-, -, h⟩ := h
    exact h
  · intro h
    exact ⟨(), by omega, h⟩

end

/-- **The conversion stays inside** the picture and the vector exactly if the height is even. -/
theorem convertBgraToNv12_inBounds_iff (bgra : Nat → UInt8) (rowPitch width height : UInt32)
    (hwidth : 1 ≤ width.toNat) (hheight : 1 ≤ height.toNat)
    (hpitch : 4 * width.toNat ≤ rowPitch.toNat) :
    (∀ access ∈ (convertBgraToNv12 bgra rowPitch width height).log,
      inBounds rowPitch width height access = true) ↔ height.toNat % 2 = 0 := by
  rw [(guarded_convert hpitch).forall_log_iff]
  simp only [convertBgraToNv12, passes_bind_iff, passes_forEach_iff, mem_evens_iff,
    List.mem_range]
  constructor
  · intro h
    obtain ⟨-, -, -, hchroma⟩ := h
    -- the block at the lower right corner
    by_contra hodd
    have hcol : (width.toNat - 1) / 2 * 2 < width.toNat := by omega
    have hlast := hchroma (height.toNat - 1) ⟨by omega, by omega⟩ _ ⟨hcol, by omega⟩
    rw [passes_chromaBlock hpitch (by omega) hcol] at hlast
    have harea := area_eq width.toNat height.toNat
    rw [show height.toNat % 2 = 1 by omega] at harea
    rw [show (height.toNat - 1) / 2 = height.toNat / 2 by omega] at hlast
    omega
  · intro heven
    have harea := area_eq width.toNat height.toNat
    rw [heven] at harea
    refine ⟨(), (), fun row hrow col hcol => ?_, fun row hrow col hcol => ?_⟩
    · rw [passes_lumaPixel hpitch hrow hcol]
      have hlt := index_lt hrow hcol
      rw [Nat.mul_comm height.toNat] at hlt
      omega
    · rw [passes_chromaBlock hpitch hrow.1 hcol.1]
      have hlt := index_lt (show row / 2 < height.toNat / 2 by omega)
        (show min (col + 1) (width.toNat - 1) < width.toNat by omega)
      omega

theorem convertBgraToNv12_inBounds_iff_block :
    (∀ access ∈ (convertBgraToNv12 (fun _ => 0) 8 2 2).log, inBounds 8 2 2 access = true) ↔
      (2 : UInt32).toNat % 2 = 0 :=
  convertBgraToNv12_inBounds_iff (fun _ => 0) 8 2 2 (by decide) (by decide) (by decide)

/-- A picture of one row: its row of colour has no room. -/
theorem convertBgraToNv12_inBounds_fails_row :
    ¬∀ (bgra : Nat → UInt8) (rowPitch width height : UInt32), 1 ≤ width.toNat →
      1 ≤ height.toNat → 4 * width.toNat ≤ rowPitch.toNat →
      ∀ access ∈ (convertBgraToNv12 bgra rowPitch width height).log,
        inBounds rowPitch width height access = true := by
  intro h
  have hrow := h (fun _ => 0) 8 2 1 (by decide) (by decide) (by decide) (.write 3 128)
    (by decide +kernel)
  exact absurd hrow (by decide)

end SecondDisplay.Nv12
