import SecondDisplay.Library.Bytes
import SecondDisplay.Library.InPlace
import Mathlib.Tactic.Linarith

/-!
# Drawing the cursor (`DesktopDuplication::CompositePointer`)

The duplicated picture has no cursor in it; its last shape and position are kept and drawn over
every frame.  A monochrome shape has two planes of one bit per pixel, one above the other, and the
other two kinds have four bytes per pixel.  Every access to the shape and to the frame is checked.
What is read lies inside the shape's buffer if the buffer holds what the description promises and
the rows of the shape are as long as its width asks for (`reads_inside`).
-/

namespace SecondDisplay.CompositePointer

open InPlace

/-! ### The cursor -/

/-- `DXGI_OUTDUPL_POINTER_SHAPE_TYPE_MONOCHROME`. -/
def monochromeType : UInt32 := 1

/-- `DXGI_OUTDUPL_POINTER_SHAPE_TYPE_MASKED_COLOR`. -/
def maskedColorType : UInt32 := 4

/-- `DXGI_OUTDUPL_POINTER_SHAPE_INFO`. -/
structure ShapeInfo where
  type : UInt32 := 0
  width : UInt32 := 0
  height : UInt32 := 0
  pitch : UInt32 := 0
  deriving DecidableEq

/-- What is kept of the cursor: `pointerShape_`, `pointerShapeInfo_`, `pointerPosition_` and
`pointerVisible_`. -/
structure Pointer where
  shape : Bytes := []
  info : ShapeInfo := {}
  x : Int32 := 0
  y : Int32 := 0
  visible : Bool := false
  deriving DecidableEq

/-- The buffer that an access misses. -/
inductive Fault where
  | shape
  | frame
  deriving DecidableEq, Repr

/-! ### The loops -/

/-- The number of turns of a loop from 0 up to a bound of type `int`. -/
def turns (bound : Int32) : Nat := bound.toInt.toNat

/-- `inFrame`. -/
def inFrame (frameW frameH : UInt32) (fx fy : Int32) : Bool :=
  decide (0 ≤ fx) && decide (0 ≤ fy) && decide (fx < frameW.toInt32) &&
    decide (fy < frameH.toInt32)

/-- The three bytes of a pixel, the way each of them is changed. -/
def setPixel (dst : Nat) (paint : Nat → Except Fault (UInt8 → UInt8)) : Step Fault UInt8 :=
  loop 3 fun c bgra => do
    let f ← paint c
    change .frame (dst + c) f bgra

/-- The body of the loops for a monochrome shape; `shapeH` is half of the reported height. -/
def monochromePixel (p : Pointer) (shapeH : Nat) (x y dst : Nat) : Step Fault UInt8 :=
  fun bgra => do
    let xorMask := p.info.pitch.toNat * shapeH
    let byteIdx := y * p.info.pitch.toNat + x / 8
    let bit := 7 - x % 8
    let a := ((← read .shape p.shape byteIdx).toNat >>> bit) &&& 1
    let xr := ((← read .shape p.shape (xorMask + byteIdx)).toNat >>> bit) &&& 1
    if a = 0 ∧ xr = 0 then setPixel dst (fun _ => .ok fun _ => 0) bgra -- black
    else if a = 0 ∧ xr = 1 then setPixel dst (fun _ => .ok fun _ => 255) bgra -- white
    else if a = 1 ∧ xr = 1 then setPixel dst (fun _ => .ok fun b => 255 - b) bgra -- invert
    else .ok bgra

/-- `(src[c] * alpha + dst[c] * (255 - alpha)) / 255`, before the conversion to a byte. -/
def blend (src alpha dst : UInt8) : Nat :=
  (src.toNat * alpha.toNat + dst.toNat * (255 - alpha.toNat)) / 255

/-- The body of the loops for the two colour kinds. -/
def colorPixel (p : Pointer) (masked : Bool) (x y dst : Nat) : Step Fault UInt8 :=
  fun bgra => do
    let src := y * p.info.pitch.toNat + x * 4
    let alpha ← read .shape p.shape (src + 3)
    let paint := fun (f : UInt8 → UInt8 → UInt8) (c : Nat) =>
      (read .shape p.shape (src + c)).map f
    if masked then
      if alpha = 0 then setPixel dst (paint fun s _ => s) bgra
      else setPixel dst (paint fun s b => b ^^^ s) bgra
    else setPixel dst (paint fun s b => UInt8.ofNat (blend s alpha b)) bgra

/-- A pixel of the shape is drawn if it falls into the frame. -/
def clipped (p : Pointer) (stride frameW frameH : UInt32)
    (draw : Nat → Nat → Nat → Step Fault UInt8) (x y : Nat) : Step Fault UInt8 :=
  let fx := p.x + Int32.ofNat x
  let fy := p.y + Int32.ofNat y
  if inFrame frameW frameH fx fy then draw x y (turns fy * stride.toNat + turns fx * 4)
  else fun bgra => .ok bgra

/-- `CompositePointer`. -/
def compositePointer (p : Pointer) (stride frameW frameH : UInt32) : Step Fault UInt8 :=
  let shapeW := p.info.width.toInt32
  if p.info.type = monochromeType then
    let shapeH := p.info.height.toInt32 / 2
    grid (turns shapeW) (turns shapeH)
      (clipped p stride frameW frameH (monochromePixel p (turns shapeH)))
  else
    let masked := decide (p.info.type = maskedColorType)
    grid (turns shapeW) (turns p.info.height.toInt32)
      (clipped p stride frameW frameH (colorPixel p masked))

/-! ### Loop bounds -/

/-- `static_cast<int>`: a size from 2^31 on becomes negative. -/
theorem toInt_toInt32 (n : UInt32) :
    n.toInt32.toInt = if n.toNat < 2 ^ 31 then (n.toNat : Int) else n.toNat - 2 ^ 32 := by
  have hlt := n.toNat_lt
  have hbmod : n.toInt32.toInt = (n.toNat : Int).bmod (2 ^ 32) :=
    BitVec.toInt_eq_toNat_bmod n.toBitVec
  rw [hbmod, Int.bmod_def]
  split <;> split <;> omega

/-- A size as the loops see it: one that becomes negative counts as none. -/
def extent (n : UInt32) : Nat := if n.toNat < 2 ^ 31 then n.toNat else 0

theorem extent_le (n : UInt32) : extent n ≤ n.toNat := by
  rw [extent]
  split <;> omega

theorem extent_lt (n : UInt32) : extent n < 2 ^ 31 := by
  rw [extent]
  split <;> omega

theorem turns_toInt32 (n : UInt32) : turns n.toInt32 = extent n := by
  have hlt := n.toNat_lt
  rw [turns, toInt_toInt32, extent]
  split <;> omega

theorem turns_half (n : UInt32) : turns (n.toInt32 / 2) = extent n / 2 := by
  have hlt := n.toNat_lt
  have htwo : (2 : Int32).toInt = 2 := rfl
  have hne : (2 : Int32) ≠ -1 := by decide
  rw [turns, Int32.toInt_div_of_ne_right _ _ hne, htwo, toInt_toInt32, extent]
  split
  · rw [Int.tdiv_eq_ediv_of_nonneg (by omega)]
    omega
  · have hneg : ((n.toNat : Int) - 2 ^ 32).tdiv 2 ≤ 0 := by
      rw [← Int.neg_neg ((n.toNat : Int) - 2 ^ 32), Int.neg_tdiv,
        Int.tdiv_eq_ediv_of_nonneg (by omega)]
      omega
    omega

/-- The rows of pixels of a shape. -/
def rows (info : ShapeInfo) : Nat :=
  if info.type = monochromeType then extent info.height / 2 else extent info.height

/-- `CompositePointer`, with its loop bounds as numbers. -/
theorem compositePointer_eq (p : Pointer) (stride frameW frameH : UInt32) :
    compositePointer p stride frameW frameH =
      grid (extent p.info.width) (rows p.info) (clipped p stride frameW frameH
        (if p.info.type = monochromeType then monochromePixel p (rows p.info)
          else colorPixel p (decide (p.info.type = maskedColorType)))) := by
  rw [compositePointer, turns_toInt32, turns_toInt32, rows]
  dsimp only
  rw [turns_half]
  split <;> rfl

/-! ### Reading the shape -/

/-- The buffer holds what the description promises. -/
def Covered (p : Pointer) : Prop :=
  p.info.pitch.toNat * p.info.height.toNat ≤ p.shape.length

instance decidableCovered (p : Pointer) : Decidable (Covered p) :=
  inferInstanceAs (Decidable (_ ≤ _))

/-- The rows of the shape are as long as its width asks for. -/
def RowsFit (info : ShapeInfo) : Prop :=
  if info.type = monochromeType then info.width.toNat ≤ 8 * info.pitch.toNat
  else 4 * info.width.toNat ≤ info.pitch.toNat

instance decidableRowsFit (info : ShapeInfo) : Decidable (RowsFit info) :=
  inferInstanceAs (Decidable (ite _ _ _))

variable {p : Pointer} {x y : Nat}

/-- The two mask bytes of a pixel lie inside. -/
theorem mask_inside (hcovered : Covered p) (hrows : RowsFit p.info)
    (htype : p.info.type = monochromeType) (hx : x < extent p.info.width)
    (hy : y < rows p.info) :
    y * p.info.pitch.toNat + x / 8 < p.shape.length ∧
      p.info.pitch.toNat * rows p.info + (y * p.info.pitch.toNat + x / 8) <
        p.shape.length := by
  rw [RowsFit, if_pos htype] at hrows
  have hwidth := extent_le p.info.width
  have hheight : 2 * rows p.info ≤ p.info.height.toNat := by
    have hle := extent_le p.info.height
    rw [rows, if_pos htype]
    omega
  have hcolumn : x / 8 < p.info.pitch.toNat := by omega
  have hrow : (y + 1) * p.info.pitch.toNat ≤ rows p.info * p.info.pitch.toNat :=
    Nat.mul_le_mul_right _ hy
  have hplanes : p.info.pitch.toNat * (2 * rows p.info) ≤ p.shape.length :=
    Nat.le_trans (Nat.mul_le_mul_left _ hheight) hcovered
  constructor
  · linarith
  · linarith

/-- The four bytes of a pixel lie inside. -/
theorem color_inside (hcovered : Covered p) (hrows : RowsFit p.info)
    (htype : p.info.type ≠ monochromeType) (hx : x < extent p.info.width)
    (hy : y < rows p.info) {c : Nat} (hc : c < 4) :
    y * p.info.pitch.toNat + x * 4 + c < p.shape.length := by
  rw [RowsFit, if_neg htype] at hrows
  rw [rows, if_neg htype] at hy
  have hwidth := extent_le p.info.width
  have hheight := extent_le p.info.height
  have hrow : p.info.pitch.toNat * (y + 1) ≤ p.info.pitch.toNat * p.info.height.toNat :=
    Nat.mul_le_mul_left _ (Nat.le_trans hy hheight)
  have hbuffer : p.info.pitch.toNat * p.info.height.toNat ≤ p.shape.length := hcovered
  linarith

/-- The faults of an access to the shape. -/
def Outside (fault : Fault) : Prop := fault = .shape

theorem avoids_read {fault : Fault} {xs : Bytes} {pos : Nat} (h : pos < xs.length) :
    Avoids Outside (read fault xs pos) := by
  rw [read_of_lt fault h]
  exact avoids_ok _

theorem avoids_map {β γ : Type} {value : Except Fault β} (h : Avoids Outside value) (f : β → γ) :
    Avoids Outside (value.map f) := by
  cases value with
  | error fault =>
    intro other heq
    cases heq
    exact h fault rfl
  | ok x => exact avoids_ok _

theorem avoids_setPixel {paint : Nat → Except Fault (UInt8 → UInt8)}
    (h : ∀ c, c < 3 → Avoids Outside (paint c)) (dst : Nat) (bgra : Bytes) :
    Avoids Outside (setPixel dst paint bgra) := by
  refine avoids_loop (fun c hc bgra => (h c hc).bind fun f => ?_) bgra
  exact avoids_change (by rintro ⟨⟩) _ _ _

theorem avoids_monochromePixel (hcovered : Covered p) (hrows : RowsFit p.info)
    (htype : p.info.type = monochromeType) (hx : x < extent p.info.width)
    (hy : y < rows p.info) (dst : Nat) (bgra : Bytes) :
    Avoids Outside (monochromePixel p (rows p.info) x y dst bgra) := by
  obtain ⟨hand, hxor⟩ := mask_inside hcovered hrows htype hx hy
  refine (avoids_read hand).bind fun a => (avoids_read hxor).bind fun xr => ?_
  have hset : ∀ f : UInt8 → UInt8, Avoids Outside (setPixel dst (fun _ => .ok f) bgra) :=
    fun f => avoids_setPixel (fun c _ => avoids_ok f) dst bgra
  dsimp only
  split
  · exact hset _
  · split
    · exact hset _
    · split
      · exact hset _
      · exact avoids_ok _

theorem avoids_colorPixel (hcovered : Covered p) (hrows : RowsFit p.info)
    (htype : p.info.type ≠ monochromeType) (masked : Bool) (hx : x < extent p.info.width)
    (hy : y < rows p.info) (dst : Nat) (bgra : Bytes) :
    Avoids Outside (colorPixel p masked x y dst bgra) := by
  have hread : ∀ c, c < 4 → Avoids Outside
      (read .shape p.shape (y * p.info.pitch.toNat + x * 4 + c)) := fun c hc =>
    avoids_read (color_inside hcovered hrows htype hx hy hc)
  refine (hread 3 (by decide)).bind fun alpha => ?_
  have hset : ∀ f : UInt8 → UInt8 → UInt8, Avoids Outside (setPixel dst
      (fun c => (read .shape p.shape (y * p.info.pitch.toNat + x * 4 + c)).map f) bgra) :=
    fun f => avoids_setPixel (fun c hc => avoids_map (hread c (by omega)) f) dst bgra
  cases masked with
  | true =>
    show Avoids Outside (if alpha = 0 then _ else _)
    split
    · exact hset _
    · exact hset _
  | false => exact hset _

theorem avoids_clipped {stride frameW frameH : UInt32} {draw : Nat → Nat → Nat → Step Fault UInt8}
    (h : ∀ dst bgra, Avoids Outside (draw x y dst bgra)) (bgra : Bytes) :
    Avoids Outside (clipped p stride frameW frameH draw x y bgra) := by
  rw [clipped]
  split
  · exact h _ bgra
  · exact avoids_ok _

/-- **What is read lies inside the shape's buffer**, on every frame. -/
theorem reads_inside (hcovered : Covered p) (hrows : RowsFit p.info)
    (stride frameW frameH : UInt32) (bgra : Bytes) :
    Avoids Outside (compositePointer p stride frameW frameH bgra) := by
  rw [compositePointer_eq]
  refine avoids_grid (fun x y hx hy => avoids_clipped fun dst bgra => ?_) bgra
  by_cases htype : p.info.type = monochromeType
  · rw [if_pos htype]
    exact avoids_monochromePixel hcovered hrows htype hx hy dst bgra
  · rw [if_neg htype]
    exact avoids_colorPixel hcovered hrows htype _ hx hy dst bgra

end SecondDisplay.CompositePointer
