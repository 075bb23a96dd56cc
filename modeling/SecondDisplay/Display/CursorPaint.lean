import SecondDisplay.Display.CompositePointer

/-!
# What the cursor does to a frame

A cursor assigns a function on bytes to every colour of every pixel of its shape (`paint`).
`compositePointer_painted` says that the loops of `CompositePointer` apply these functions to the
pixels of the shape that fall into the frame, each once, and change no other byte.  The pixels of
the shape have different places in the frame, since its rows do not overlap.
-/

namespace SecondDisplay.CursorPaint

open CompositePointer InPlace
open Access (ok_bind)

/-! ### The colours of a cursor -/

/-- A byte of the shape. -/
def byteAt (p : Pointer) (i : Nat) : UInt8 := p.shape[i]?.getD 0

/-- A bit of a plane of a monochrome shape; the planes lie one above the other. -/
def planeBit (p : Pointer) (plane x y : Nat) : Bool :=
  (byteAt p (p.info.pitch.toNat * (plane * rows p.info) + (y * p.info.pitch.toNat + x / 8))
    ).toNat.testBit (7 - x % 8)

/-- A bit in all places of a byte. -/
def spread (bit : Bool) : UInt8 := if bit then 255 else 0

/-- What the cursor makes of a byte of the frame that is under colour `c` of its pixel `(x, y)`:
`AND` with the one plane and `XOR` with the other, copy or `XOR`, or an alpha blend. -/
def paint (p : Pointer) (x y c : Nat) (b : UInt8) : UInt8 :=
  if p.info.type = monochromeType then
    (b &&& spread (planeBit p 0 x y)) ^^^ spread (planeBit p 1 x y)
  else
    let src := y * p.info.pitch.toNat + x * 4
    let alpha := byteAt p (src + 3)
    if p.info.type = maskedColorType then
      if alpha = 0 then byteAt p (src + c) else b ^^^ byteAt p (src + c)
    else UInt8.ofNat (blend (byteAt p (src + c)) alpha b)

/-- **A blend of two bytes is a byte.** -/
theorem blend_le (src alpha dst : UInt8) : blend src alpha dst ≤ 255 := by
  have hsrc := src.toNat_lt
  have halpha := alpha.toNat_lt
  have hdst := dst.toNat_lt
  have hleft : src.toNat * alpha.toNat ≤ 255 * alpha.toNat := Nat.mul_le_mul_right _ (by omega)
  have hright : dst.toNat * (255 - alpha.toNat) ≤ 255 * (255 - alpha.toNat) :=
    Nat.mul_le_mul_right _ (by omega)
  rw [blend, Nat.div_le_iff_le_mul_add_pred (by decide)]
  omega

/-! ### Places in the frame -/

/-- The pixel `(x, y)` of the shape falls on the pixel `(fx, fy)` of the frame. -/
structure Shown (p : Pointer) (frameW frameH : UInt32) (x y fx fy : Nat) : Prop where
  column : x < extent p.info.width
  row : y < rows p.info
  shiftedColumn : (fx : Int) = p.x.toInt + x
  shiftedRow : (fy : Int) = p.y.toInt + y
  frameColumn : fx < extent frameW
  frameRow : fy < extent frameH

/-- The frame has whole rows that do not overlap, and the buffer holds them. -/
structure Holds (stride frameW frameH : UInt32) (size : Nat) : Prop where
  rows : 4 * frameW.toNat ≤ stride.toNat
  size : stride.toNat * frameH.toNat ≤ size

variable {p : Pointer} {stride frameW frameH : UInt32} {size x y fx fy : Nat}

/-- The bytes of a pixel of the frame lie in its row, and the row in the buffer. -/
theorem Holds.pixel (holds : Holds stride frameW frameH size) (hx : fx < extent frameW)
    (hy : fy < extent frameH) :
    fx * 4 + 3 < stride.toNat ∧ fy * stride.toNat + fx * 4 + 3 < size := by
  have hwidth := extent_le frameW
  have hheight := extent_le frameH
  have hrow := holds.rows
  have hcolumn : fx * 4 + 3 < stride.toNat := by omega
  refine ⟨hcolumn, ?_⟩
  have hbelow : stride.toNat * (fy + 1) ≤ stride.toNat * frameH.toNat :=
    Nat.mul_le_mul_left _ (Nat.le_trans hy hheight)
  have hsize := holds.size
  linarith

/-- `posX + x`: a sum that is out of range wraps around. -/
theorem toInt_shift (pos : Int32) {i : Nat} (hi : i < 2 ^ 31) :
    (pos + Int32.ofNat i).toInt =
      if pos.toInt + i < 2 ^ 31 then pos.toInt + i else pos.toInt + i - 2 ^ 32 := by
  have hlow := pos.le_toInt
  have hhigh := pos.toInt_lt
  rw [Int32.toInt_add, Int32.toInt_ofNat_of_lt hi, Int.bmod_def]
  split <;> split <;> omega

theorem turns_shift {pos : Int32} {i f : Nat} (hi : i < 2 ^ 31) (hf : (f : Int) = pos.toInt + i)
    (hsmall : f < 2 ^ 31) : turns (pos + Int32.ofNat i) = f := by
  rw [turns, toInt_shift pos hi, if_pos (by omega)]
  omega

/-- The comparisons of `inFrame`, for one coordinate: what wraps around is negative and not in the
frame. -/
theorem coordinate (pos : Int32) {i : Nat} (hi : i < 2 ^ 31) (bound : UInt32) :
    (decide (0 ≤ pos + Int32.ofNat i) && decide (pos + Int32.ofNat i < bound.toInt32)) = true ↔
      ∃ f : Nat, (f : Int) = pos.toInt + i ∧ f < extent bound := by
  have hhigh := pos.toInt_lt
  have hbound := bound.toNat_lt
  rw [Bool.and_eq_true, decide_eq_true_eq, decide_eq_true_eq, Int32.le_iff_toInt_le,
    Int32.lt_iff_toInt_lt, Int32.toInt_zero, toInt_shift pos hi, toInt_toInt32, extent]
  by_cases hrange : pos.toInt + i < 2 ^ 31
  · rw [if_pos hrange]
    constructor
    · intro h
      obtain ⟨hnonneg, hless⟩ := h
      refine ⟨(pos.toInt + i).toNat, by omega, ?_⟩
      split <;> split at hless <;> omega
    · intro h
      obtain ⟨f, hf, hless⟩ := h
      refine ⟨by omega, ?_⟩
      split <;> split at hless <;> omega
  · rw [if_neg hrange]
    constructor
    · intro h
      obtain ⟨hnonneg, -⟩ := h
      omega
    · intro h
      obtain ⟨f, hf, hless⟩ := h
      split at hless <;> omega

theorem rows_lt (info : ShapeInfo) : rows info < 2 ^ 31 := by
  have hlt := extent_lt info.height
  rw [rows]
  split <;> omega

/-- `inFrame`. -/
theorem inFrame_iff (hx : x < extent p.info.width) (hy : y < rows p.info) :
    inFrame frameW frameH (p.x + Int32.ofNat x) (p.y + Int32.ofNat y) = true ↔
      ∃ fx fy, Shown p frameW frameH x y fx fy := by
  have hcolumn := coordinate p.x (Nat.lt_trans hx (extent_lt _)) frameW
  have hrow := coordinate p.y (Nat.lt_trans hy (rows_lt _)) frameH
  rw [Bool.and_eq_true] at hcolumn hrow
  rw [inFrame, Bool.and_eq_true, Bool.and_eq_true, Bool.and_eq_true]
  constructor
  · intro h
    obtain ⟨⟨⟨hx0, hy0⟩, hxw⟩, hyh⟩ := h
    obtain ⟨fx, hfx, hfxw⟩ := hcolumn.1 ⟨hx0, hxw⟩
    obtain ⟨fy, hfy, hfyh⟩ := hrow.1 ⟨hy0, hyh⟩
    exact ⟨fx, fy, hx, hy, hfx, hfy, hfxw, hfyh⟩
  · intro h
    obtain ⟨fx, fy, shown⟩ := h
    obtain ⟨hx0, hxw⟩ := hcolumn.2 ⟨fx, shown.shiftedColumn, shown.frameColumn⟩
    obtain ⟨hy0, hyh⟩ := hrow.2 ⟨fy, shown.shiftedRow, shown.frameRow⟩
    exact ⟨⟨⟨hx0, hy0⟩, hxw⟩, hyh⟩

/-- The coordinates that the address is computed from. -/
theorem Shown.turns (shown : Shown p frameW frameH x y fx fy) :
    turns (p.x + Int32.ofNat x) = fx ∧ turns (p.y + Int32.ofNat y) = fy :=
  ⟨turns_shift (Nat.lt_trans shown.column (extent_lt _)) shown.shiftedColumn
      (Nat.lt_trans shown.frameColumn (extent_lt _)),
    turns_shift (Nat.lt_trans shown.row (rows_lt _)) shown.shiftedRow
      (Nat.lt_trans shown.frameRow (extent_lt _))⟩

/-! ### One pixel -/

/-- The patch of the bytes of a pixel: its blue, green and red, and not its alpha. -/
def colors (p : Pointer) (x y dst : Nat) : Patch UInt8 :=
  fun k f => ∃ c, c < 3 ∧ k = dst + c ∧ f = paint p x y c

/-- The three statements for the bytes of a pixel. -/
theorem patches_setPixel {dst : Nat} (hdst : dst + 3 < size)
    {set : Nat → Except Fault (UInt8 → UInt8)}
    (h : ∀ c, c < 3 → set c = .ok (paint p x y c)) :
    Patches size (setPixel dst set) (colors p x y dst) := by
  refine Patches.loop (fun c hc => ?_) ?_
  · have hturn : (fun bgra => set c >>= fun f => change .frame (dst + c) f bgra) =
        change Fault.frame (dst + c) (paint p x y c) := by
      rw [h c hc]
      rfl
    show Patches size (fun bgra => set c >>= fun f => change .frame (dst + c) f bgra) _
    rw [hturn]
    exact patches_change Fault.frame (by omega) _
  · intro c c' _ _ hne k f g hf hg
    have hplaces : dst + c = dst + c' := hf.1.symm.trans hg.1
    exact hne (Nat.add_left_cancel hplaces)

theorem read_byteAt {i : Nat} (h : i < p.shape.length) :
    read Fault.shape p.shape i = .ok (byteAt p i) := by
  rw [read_of_lt _ h, byteAt, List.getElem?_eq_getElem h]
  rfl

/-- `(mask >> bit) & 1`. -/
theorem shift_and_one (n k : Nat) : (n >>> k) &&& 1 = (n.testBit k).toNat := by
  rw [Nat.and_one_is_mod, Nat.shiftRight_eq_div_pow, Nat.toNat_testBit]

/-- What a monochrome pixel is drawn as, for its two bits. -/
theorem monochromePixel_eq (hcovered : Covered p) (hrows : RowsFit p.info)
    (htype : p.info.type = monochromeType) (hx : x < extent p.info.width)
    (hy : y < rows p.info) (dst : Nat) :
    monochromePixel p (rows p.info) x y dst =
      match planeBit p 0 x y, planeBit p 1 x y with
      | false, false => setPixel dst fun _ => .ok fun _ => 0
      | false, true => setPixel dst fun _ => .ok fun _ => 255
      | true, true => setPixel dst fun _ => .ok fun b => 255 - b
      | true, false => fun bgra => .ok bgra := by
  obtain ⟨hand, hxor⟩ := mask_inside hcovered hrows htype hx hy
  funext bgra
  rw [monochromePixel, planeBit, planeBit, Nat.zero_mul, Nat.one_mul, Nat.mul_zero, Nat.zero_add]
  dsimp only
  rw [read_byteAt hand, read_byteAt hxor]
  simp only [ok_bind, shift_and_one]
  cases Nat.testBit _ (7 - x % 8) <;> cases Nat.testBit _ (7 - x % 8) <;> rfl

/-- `AND` and `XOR` with what the bits stand for. -/
theorem and_xor (b : UInt8) :
    (b &&& 0) ^^^ 0 = 0 ∧ (b &&& 0) ^^^ 255 = 255 ∧ (b &&& 255) ^^^ 255 = 255 - b ∧
      (b &&& 255) ^^^ 0 = b := by
  revert b
  decide +kernel

theorem patches_monochrome (hcovered : Covered p) (hrows : RowsFit p.info)
    (htype : p.info.type = monochromeType) (hx : x < extent p.info.width)
    (hy : y < rows p.info) {dst : Nat} (hdst : dst + 3 < size) :
    Patches size (monochromePixel p (rows p.info) x y dst) (colors p x y dst) := by
  have hpaint : ∀ c, paint p x y c = fun b =>
      (b &&& spread (planeBit p 0 x y)) ^^^ spread (planeBit p 1 x y) :=
    fun c => funext fun b => if_pos htype
  have hset : ∀ f : UInt8 → UInt8, (∀ b, (b &&& spread (planeBit p 0 x y)) ^^^
      spread (planeBit p 1 x y) = f b) →
      Patches size (setPixel dst fun _ => .ok f) (colors p x y dst) := by
    intro f hf
    refine patches_setPixel hdst fun c _ => ?_
    rw [hpaint c]
    exact congrArg _ (funext fun b => (hf b).symm)
  rw [monochromePixel_eq hcovered hrows htype hx hy]
  cases hand : planeBit p 0 x y with
  | false =>
    cases hxor : planeBit p 1 x y with
    | false =>
      rw [hand, hxor] at hset
      exact hset _ fun b => (and_xor b).1
    | true =>
      rw [hand, hxor] at hset
      exact hset _ fun b => (and_xor b).2.1
  | true =>
    cases hxor : planeBit p 1 x y with
    | false =>
      refine patches_skip fun k f h => ?_
      obtain ⟨c, -, -, rfl⟩ := h
      rw [hpaint c, hand, hxor]
      exact funext fun b => (and_xor b).2.2.2
    | true =>
      rw [hand, hxor] at hset
      exact hset _ fun b => (and_xor b).2.2.1

theorem patches_color (hcovered : Covered p) (hrows : RowsFit p.info)
    (htype : p.info.type ≠ monochromeType) (hx : x < extent p.info.width)
    (hy : y < rows p.info) {dst : Nat} (hdst : dst + 3 < size) :
    Patches size (colorPixel p (decide (p.info.type = maskedColorType)) x y dst)
      (colors p x y dst) := by
  have hread : ∀ c, c < 4 → read Fault.shape p.shape (y * p.info.pitch.toNat + x * 4 + c) =
      .ok (byteAt p (y * p.info.pitch.toNat + x * 4 + c)) := fun c hc =>
    read_byteAt (color_inside hcovered hrows htype hx hy hc)
  have hpaint : ∀ c, paint p x y c = fun b =>
      if p.info.type = maskedColorType then
        if byteAt p (y * p.info.pitch.toNat + x * 4 + 3) = 0 then
          byteAt p (y * p.info.pitch.toNat + x * 4 + c)
        else b ^^^ byteAt p (y * p.info.pitch.toNat + x * 4 + c)
      else UInt8.ofNat (blend (byteAt p (y * p.info.pitch.toNat + x * 4 + c))
        (byteAt p (y * p.info.pitch.toNat + x * 4 + 3)) b) :=
    fun c => funext fun b => if_neg htype
  have hset : ∀ f : UInt8 → UInt8 → UInt8,
      (∀ c, paint p x y c = f (byteAt p (y * p.info.pitch.toNat + x * 4 + c))) →
      Patches size (setPixel dst fun c =>
        (read .shape p.shape (y * p.info.pitch.toNat + x * 4 + c)).map f) (colors p x y dst) := by
    intro f hf
    refine patches_setPixel hdst fun c hc => ?_
    rw [hread c (by omega), hf c]
    rfl
  unfold colorPixel
  simp only [hread 3 (by decide), ok_bind]
  by_cases hmasked : p.info.type = maskedColorType
  · simp only [decide_eq_true hmasked, if_true]
    by_cases halpha : byteAt p (y * p.info.pitch.toNat + x * 4 + 3) = 0
    · simp only [if_pos halpha]
      refine hset _ fun c => ?_
      rw [hpaint c]
      simp only [if_pos hmasked, if_pos halpha]
    · simp only [if_neg halpha]
      refine hset _ fun c => ?_
      rw [hpaint c]
      simp only [if_pos hmasked, if_neg halpha]
  · simp only [decide_eq_false hmasked, if_neg Bool.false_ne_true]
    refine hset _ fun c => ?_
    rw [hpaint c]
    simp only [if_neg hmasked]

/-! ### All pixels -/

/-- The patch of a pixel of the shape: the colours of the pixel of the frame that it falls on. -/
def pixelPatch (p : Pointer) (stride frameW frameH : UInt32) (x y : Nat) : Patch UInt8 :=
  fun k f => ∃ fx fy, Shown p frameW frameH x y fx fy ∧
    colors p x y (fy * stride.toNat + fx * 4) k f

theorem patches_clipped {draw : Nat → Nat → Nat → Step Fault UInt8}
    (holds : Holds stride frameW frameH size) (hx : x < extent p.info.width)
    (hy : y < rows p.info)
    (h : ∀ dst, dst + 3 < size → Patches size (draw x y dst) (colors p x y dst)) :
    Patches size (clipped p stride frameW frameH draw x y)
      (pixelPatch p stride frameW frameH x y) := by
  rw [clipped]
  by_cases hframe : inFrame frameW frameH (p.x + Int32.ofNat x) (p.y + Int32.ofNat y) = true
  · rw [if_pos hframe]
    obtain ⟨fx, fy, shown⟩ := (inFrame_iff hx hy).1 hframe
    rw [shown.turns.1, shown.turns.2]
    refine (h _ (holds.pixel shown.frameColumn shown.frameRow).2).congr fun k f => ?_
    constructor
    · exact fun hcolors => ⟨fx, fy, shown, hcolors⟩
    · intro hpatch
      obtain ⟨fx', fy', shown', hcolors⟩ := hpatch
      rw [← shown.turns.1, ← shown.turns.2, shown'.turns.1, shown'.turns.2]
      exact hcolors
  · rw [if_neg hframe]
    refine patches_skip fun k f hpatch => ?_
    obtain ⟨fx, fy, shown, -⟩ := hpatch
    exact absurd ((inFrame_iff hx hy).2 ⟨fx, fy, shown⟩) hframe

/-- Two pixels of the shape do not change the same byte. -/
theorem pixelPatch_disjoint (holds : Holds stride frameW frameH size) {x' y' : Nat}
    (hne : (x, y) ≠ (x', y')) :
    Apart (pixelPatch p stride frameW frameH x y) (pixelPatch p stride frameW frameH x' y') := by
  intro k f g hf hg
  obtain ⟨fx, fy, shown, c, hc, rfl, -⟩ := hf
  obtain ⟨fx', fy', shown', c', hc', hsame, -⟩ := hg
  have hcolumn := (holds.pixel shown.frameColumn shown.frameRow).1
  have hcolumn' := (holds.pixel shown'.frameColumn shown'.frameRow).1
  have hplace : fy * stride.toNat + (fx * 4 + c) = fy' * stride.toNat + (fx' * 4 + c') := by
    omega
  obtain ⟨hrow, hbytes⟩ := row_column (by omega) (by omega) hplace
  have hshift := shown.shiftedColumn
  have hshift' := shown'.shiftedColumn
  have hshiftRow := shown.shiftedRow
  have hshiftRow' := shown'.shiftedRow
  exact hne (Prod.ext (by omega) (by omega))

/-- **The effect of the loops**: the patches of all pixels of the shape. -/
theorem patches_compositePointer (hcovered : Covered p) (hrows : RowsFit p.info)
    (holds : Holds stride frameW frameH size) :
    Patches size (compositePointer p stride frameW frameH)
      fun k f => ∃ y, y < rows p.info ∧ ∃ x, x < extent p.info.width ∧
        pixelPatch p stride frameW frameH x y k f := by
  rw [compositePointer_eq]
  refine Patches.grid (fun x y hx hy => patches_clipped holds hx hy fun dst hdst => ?_)
    fun x y x' y' _ _ _ _ hne => pixelPatch_disjoint holds hne
  by_cases htype : p.info.type = monochromeType
  · rw [if_pos htype]
    exact patches_monochrome hcovered hrows htype hx hy hdst
  · rw [if_neg htype]
    exact patches_color hcovered hrows htype hx hy hdst

/-- What is expected of a frame that a cursor was drawn on. -/
structure Painted (p : Pointer) (stride frameW frameH : UInt32) (before after : Bytes) : Prop where
  length : after.length = before.length
  /-- The blue, green and red of a pixel that the shape falls on. -/
  colors : ∀ x y fx fy c, Shown p frameW frameH x y fx fy → c < 3 →
    after[fy * stride.toNat + fx * 4 + c]? =
      before[fy * stride.toNat + fx * 4 + c]?.map (paint p x y c)
  /-- Every other byte. -/
  others : ∀ k, (∀ x y fx fy c, Shown p frameW frameH x y fx fy → c < 3 →
    k ≠ fy * stride.toNat + fx * 4 + c) → after[k]? = before[k]?
  /-- The alpha of every pixel of the frame. -/
  alpha : ∀ fx fy, fx < frameW.toNat → fy < frameH.toNat →
    after[fy * stride.toNat + fx * 4 + 3]? = before[fy * stride.toNat + fx * 4 + 3]?

/-- **Drawing the cursor.**  On a frame whose rows do not overlap, a cursor whose buffer holds what
its description promises changes the colours of the pixels that its shape falls on, each by its
formula, and nothing else; a blend of two bytes is a byte. -/
theorem compositePointer_painted (p : Pointer) (stride frameW frameH : UInt32) (bgra : Bytes)
    (hcovered : Covered p) (hrows : RowsFit p.info)
    (holds : Holds stride frameW frameH bgra.length) :
    (∃ after, compositePointer p stride frameW frameH bgra = .ok after ∧
      Painted p stride frameW frameH bgra after) ∧
    ∀ src alpha dst, blend src alpha dst ≤ 255 := by
  refine ⟨?_, blend_le⟩
  obtain ⟨after, hok, hlength, hchanged, hkept⟩ :=
    patches_compositePointer hcovered hrows holds bgra rfl
  have hothers : ∀ k, (∀ x y fx fy c, Shown p frameW frameH x y fx fy → c < 3 →
      k ≠ fy * stride.toNat + fx * 4 + c) → after[k]? = bgra[k]? := by
    intro k hfree
    refine hkept k fun f hpatch => ?_
    obtain ⟨y, -, x, -, fx, fy, shown, c, hc, hk, -⟩ := hpatch
    exact hfree x y fx fy c shown hc hk
  refine ⟨after, hok, hlength, ?_, hothers, ?_⟩
  · intro x y fx fy c shown hc
    exact hchanged _ _ ⟨y, shown.row, x, shown.column, fx, fy, shown, c, hc, rfl, rfl⟩
  · intro fx fy hfx hfy
    refine hothers _ fun x y fx' fy' c shown hc hsame => ?_
    have hcolumn := (holds.pixel shown.frameColumn shown.frameRow).1
    have hwhole := holds.rows
    have hplace : fy * stride.toNat + (fx * 4 + 3) =
        fy' * stride.toNat + (fx' * 4 + c) := by omega
    obtain ⟨-, hbytes⟩ := row_column (by omega) (by omega) hplace
    omega

/-- A shape of two opaque pixels in a row, one pixel to the left of the frame. -/
def halfOutside : Pointer where
  shape := [9, 9, 9, 255, 1, 2, 3, 255]
  info := ⟨2, 2, 1, 8⟩
  x := -1
  visible := true

/-- It is drawn on a frame of one pixel. -/
theorem compositePointer_painted_halfOutside :
    (∃ after, compositePointer halfOutside 4 1 1 [10, 20, 30, 40] = .ok after ∧
      Painted halfOutside 4 1 1 [10, 20, 30, 40] after) ∧
    ∀ src alpha dst, blend src alpha dst ≤ 255 :=
  compositePointer_painted halfOutside 4 1 1 [10, 20, 30, 40] (by decide) (by decide)
    ⟨by decide, by decide⟩

example : compositePointer halfOutside 4 1 1 [10, 20, 30, 40] = .ok [1, 2, 3, 40] := by decide

end SecondDisplay.CursorPaint
