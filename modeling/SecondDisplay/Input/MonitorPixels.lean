import SecondDisplay.Input.InputInjector
import SecondDisplay.Library.Rounding
import Mathlib.Data.Rat.Floor
import Mathlib.Tactic.FieldSimp

/-!
# The pixels of the monitor (`input/InputInjector.cpp`)

A position on the tablet is clamped, scaled by the extent of the monitor and rounded; a touch is cut
off, and a stroke is rounded to the nearest pixel.  The monitor is half open: what is rounded up to
its full extent lies on its neighbour.  In exact arithmetic this happens at the far edge for a
touch, and within half a pixel of it for a stroke (`pixels_inside_iff`).
-/

namespace SecondDisplay.InputInjector

open Rounding
open Protocol (TouchMsg TouchPhase)

/-- Exact arithmetic on rational numbers. -/
def exact (deriveTilt : ℚ → ℚ → Int32 × Int32) (upright : ℚ) : Arithmetic ℚ where
  ofInt n := n
  less x y := decide (x < y)
  equal x y := decide (x = y)
  mul x y := x * y
  div x y := x / y
  toLong q := Int32.ofInt (truncate q)
  lround q := Int32.ofInt (nearest q)
  deriveTilt := deriveTilt
  upright := upright

/-- A coordinate between 0 and 1. -/
def unit (x : ℚ) : ℚ := max 0 (min x 1)

/-- The monitor has pixels. -/
structure Rect.NonEmpty (rect : Rect) : Prop where
  wide : rect.left < rect.right
  tall : rect.top < rect.bottom

/-- The pixel lies in the monitor. -/
structure Rect.Holds (rect : Rect) (pixel : Point) : Prop where
  left : rect.left ≤ pixel.x
  right : pixel.x < rect.right
  top : rect.top ≤ pixel.y
  bottom : pixel.y < rect.bottom

/-- A coordinate lands in an extent, as `LONG` has it, with a rounding that adds `slack`.  An extent
that does not fit has become negative. -/
def Lands (slack x : ℚ) (extent : Int32) : Prop :=
  if 0 < extent.toInt then x < 1 - slack / extent.toInt
  else unit x * |(extent.toInt : ℚ)| + slack < 1

variable {deriveTilt : ℚ → ℚ → Int32 × Int32} {upright : ℚ}

theorem normalized_exact (x : ℚ) : normalized (exact deriveTilt upright) x = unit x := by
  show (if decide (x < ((0 : ℤ) : ℚ)) = true then ((0 : ℤ) : ℚ)
    else if decide (((1 : ℤ) : ℚ) < x) = true then ((1 : ℤ) : ℚ) else x) = _
  rw [unit]
  simp only [decide_eq_true_eq, Int.cast_zero, Int.cast_one]
  split
  · rename_i hneg
    rw [max_eq_left]
    exact (min_le_left x 1).trans hneg.le
  · rename_i hnonneg
    split
    · rename_i hbig
      rw [min_eq_right hbig.le, max_eq_right (by norm_num)]
    · rename_i hle
      rw [min_eq_left (not_lt.1 hle), max_eq_right (not_lt.1 hnonneg)]

theorem unit_nonneg (x : ℚ) : 0 ≤ unit x := le_max_left _ _

theorem unit_le_one (x : ℚ) : unit x ≤ 1 := max_le zero_le_one (min_le_right x 1)

/-- Below a positive bound up to one, clamping changes nothing. -/
theorem unit_lt_iff {x bound : ℚ} (hpos : 0 < bound) (hle : bound ≤ 1) :
    unit x < bound ↔ x < bound := by
  rw [unit, max_lt_iff, min_lt_iff]
  constructor
  · intro h
    obtain hx | hone := h.2
    · exact hx
    · exact absurd hle (not_le.2 hone)
  · exact fun hx => ⟨hpos, .inl hx⟩

/-! ### One axis -/

/-- An extent as `LONG` has it. -/
theorem toInt_extent {low high : Int32} (h : low < high) :
    (high - low).toInt = if high.toInt - low.toInt < 2 ^ 31 then high.toInt - low.toInt
      else high.toInt - low.toInt - 2 ^ 32 := by
  have hlt := Int32.lt_iff_toInt_lt.1 h
  have hlow := low.le_toInt
  have hhigh := high.toInt_lt
  rw [Int32.toInt_sub, Int.bmod_def]
  split <;> split <;> omega

/-- A pixel that is counted from the lower end. -/
theorem shifted_inside_iff {low high : Int32} (h : low < high) {k : ℤ}
    (hk : 0 < (high - low).toInt → 0 ≤ k ∧ k ≤ (high - low).toInt)
    (hk' : (high - low).toInt ≤ 0 → (high - low).toInt ≤ k ∧ k ≤ 0) :
    (low ≤ low + Int32.ofInt k ∧ low + Int32.ofInt k < high) ↔
      if 0 < (high - low).toInt then k < (high - low).toInt else k = 0 := by
  have hlt := Int32.lt_iff_toInt_lt.1 h
  have hlow := low.le_toInt
  have hhigh := high.toInt_lt
  have hextent := toInt_extent h
  have hbounds := (high - low).le_toInt
  have hbounds' := (high - low).toInt_lt
  have hrange : -2 ^ 31 ≤ k ∧ k < 2 ^ 31 := by omega
  rw [Int32.le_iff_toInt_le, Int32.lt_iff_toInt_lt, Int32.toInt_add,
    Int32.toInt_ofInt_of_le hrange.1 hrange.2, Int.bmod_def]
  split at hextent
  · have hpos : 0 < (high - low).toInt := by omega
    have hle := hk hpos
    rw [if_pos hpos]
    split
    · omega
    · omega
  · have hneg : (high - low).toInt ≤ 0 := by omega
    have hle := hk' hneg
    rw [if_neg (not_lt.2 hneg)]
    split
    · omega
    · omega

/-- **One axis**: where a coordinate has to be. -/
theorem axis_inside_iff {pixel : ℚ → ℤ} {slack : ℚ} (rounds : RoundsWith pixel slack)
    (hslack : 0 ≤ slack) (hslack' : slack < 1) {low high : Int32} (h : low < high) (x : ℚ) :
    (low ≤ low + Int32.ofInt (pixel (unit x * (high - low).toInt)) ∧
      low + Int32.ofInt (pixel (unit x * (high - low).toInt)) < high) ↔
        Lands slack x (high - low) := by
  have hunit := unit_nonneg x
  have hunit' := unit_le_one x
  generalize hd : (high - low).toInt = extent
  obtain hpos | hneg := lt_or_ge 0 extent
  · -- the extent fits
    have hpos' : (0 : ℚ) < extent := by exact_mod_cast hpos
    have hone : (1 : ℚ) ≤ extent := by exact_mod_cast hpos
    have hq : 0 ≤ unit x * extent := mul_nonneg hunit hpos'.le
    have hle : unit x * extent ≤ extent := mul_le_of_le_one_left hpos'.le hunit'
    have hbound : 1 - slack / extent = (extent - slack) / extent := by
      rw [sub_div, div_self hpos'.ne']
    have hbound' : 0 < (extent - slack) / extent :=
      div_pos (sub_pos.2 (lt_of_lt_of_le hslack' hone)) hpos'
    have hbound'' : (extent - slack) / extent ≤ 1 := by
      rw [← hbound]
      exact sub_le_self 1 (div_nonneg hslack hpos'.le)
    rw [shifted_inside_iff h
      (by rw [hd]; exact fun _ => ⟨rounds.nonneg _ hq, rounds.le hslack' hq hle⟩)
      (by rw [hd]; exact fun hno => absurd hpos (not_lt.2 hno)), hd, if_pos hpos,
      rounds.lt_iff _ _ hq, Lands, hd, if_pos hpos, hbound, ← unit_lt_iff hbound' hbound'',
      lt_div_iff₀ hpos', lt_sub_iff_add_lt]
  · -- the extent became negative
    have habs : |(extent : ℚ)| = -extent := abs_of_nonpos (by exact_mod_cast hneg)
    have hq : 0 ≤ unit x * |(extent : ℚ)| := mul_nonneg hunit (abs_nonneg _)
    have hle : unit x * |(extent : ℚ)| ≤ ((-extent : ℤ) : ℚ) := by
      rw [habs, Int.cast_neg]
      exact mul_le_of_le_one_left (habs ▸ abs_nonneg _) hunit'
    have hpixel : pixel (unit x * extent) = -pixel (unit x * |(extent : ℚ)|) := by
      rw [← rounds.neg _ hq, habs]
      congr 1
      ring
    have hnonneg := rounds.nonneg _ hq
    have hbound := rounds.le hslack' hq hle
    rw [shifted_inside_iff h
      (by rw [hd]; exact fun hno => absurd hno (not_lt.2 hneg))
      (by rw [hd, hpixel]; exact fun _ => ⟨by omega, by omega⟩), hd, if_neg (not_lt.2 hneg),
      hpixel, Int.neg_eq_zero, rounds.eq_zero_iff hq, Lands, hd, if_neg (not_lt.2 hneg)]

/-! ### Both axes -/

theorem pixelIn_inside_iff {pixel : ℚ → ℤ} {slack : ℚ} (rounds : RoundsWith pixel slack)
    (hslack : 0 ≤ slack) (hslack' : slack < 1) {rect : Rect} (h : rect.NonEmpty) (x y : ℚ) :
    rect.Holds (pixelIn (exact deriveTilt upright) (fun q => Int32.ofInt (pixel q)) rect x y) ↔
      Lands slack x (rect.right - rect.left) ∧ Lands slack y (rect.bottom - rect.top) := by
  rw [← axis_inside_iff rounds hslack hslack' h.wide,
    ← axis_inside_iff rounds hslack hslack' h.tall,
    pixelIn, normalized_exact, normalized_exact]
  constructor
  · intro hinside
    exact ⟨⟨hinside.left, hinside.right⟩, hinside.top, hinside.bottom⟩
  · intro hinside
    obtain ⟨⟨hleft, hright⟩, htop, hbottom⟩ := hinside
    exact ⟨hleft, hright, htop, hbottom⟩

/-- **When input stays in the monitor**: a touch if and only if both coordinates are below 1, and a
stroke if and only if both are below 1 by more than half a pixel; and in a monitor whose extents do
not fit into a `LONG`, where they are rounded to zero. -/
theorem pixels_inside_iff (deriveTilt : ℚ → ℚ → Int32 × Int32) (upright : ℚ) (rect : Rect)
    (h : rect.NonEmpty) (phase : TouchPhase) (x y : ℚ) :
    (rect.Holds (touchPixel (exact deriveTilt upright) rect ⟨phase, x, y⟩) ↔
      Lands 0 x (rect.right - rect.left) ∧ Lands 0 y (rect.bottom - rect.top)) ∧
    (rect.Holds (penPixel (exact deriveTilt upright) rect x y) ↔
      Lands (1 / 2) x (rect.right - rect.left) ∧ Lands (1 / 2) y (rect.bottom - rect.top)) :=
  ⟨pixelIn_inside_iff truncate_rounds (by norm_num) (by norm_num) h x y,
    pixelIn_inside_iff nearest_rounds (by norm_num) (by norm_num) h x y⟩

/-- A monitor to the left of the first one. -/
def leftMonitor : Rect := { left := -1920, top := 0, right := 0, bottom := 1080 }

/-- Arithmetic with a pen that stands upright. -/
def exactUpright : Arithmetic ℚ := exact (fun _ _ => (0, 0)) 0

theorem pixels_inside_iff_middle :
    leftMonitor.Holds (touchPixel exactUpright leftMonitor ⟨.began, 1 / 2, 1 / 2⟩) ∧
      leftMonitor.Holds (penPixel exactUpright leftMonitor (1 / 2) (1 / 2)) := by
  have hwidth : (leftMonitor.right - leftMonitor.left).toInt = 1920 := by decide
  have hheight : (leftMonitor.bottom - leftMonitor.top).toInt = 1080 := by decide
  obtain ⟨htouch, hpen⟩ := pixels_inside_iff (fun _ _ => (0, 0)) 0 leftMonitor
    ⟨by decide, by decide⟩ .began (1 / 2) (1 / 2)
  refine ⟨htouch.2 ⟨?_, ?_⟩, hpen.2 ⟨?_, ?_⟩⟩
  all_goals
    simp only [Lands, hwidth, hheight]
    norm_num

/-- A touch on the right edge lies on the next monitor. -/
theorem pixels_inside_fails_edge :
    ¬∀ rect : Rect, rect.NonEmpty → ∀ (phase : TouchPhase) (x y : ℚ),
      rect.Holds (touchPixel exactUpright rect ⟨phase, x, y⟩) ∧
        rect.Holds (penPixel exactUpright rect x y) := by
  intro h
  have hinside := (h leftMonitor ⟨by decide, by decide⟩ .began 1 (1 / 2)).1
  have hlands := ((pixelIn_inside_iff truncate_rounds (by norm_num) (by norm_num)
    (show leftMonitor.NonEmpty from ⟨by decide, by decide⟩) 1 (1 / 2)).1 hinside).1
  have hwidth : (leftMonitor.right - leftMonitor.left).toInt = 1920 := by decide
  simp only [Lands, hwidth] at hlands
  norm_num at hlands

end SecondDisplay.InputInjector
