import Mathlib.Algebra.Order.Round
import Mathlib.Tactic.Linarith

/-!
# Rounding to integers

A conversion to an integer type cuts a number off towards zero, and `lround` takes the nearest
integer, of two the one farther from zero.  Both are odd functions that are determined by where they
stay below an integer (`RoundsWith`): the number itself has to stay below it, or the number and one
half.
-/

namespace SecondDisplay.Rounding

variable {K : Type*} [Field K] [LinearOrder K] {pixel : K → ℤ} {slack : K}

/-- What a rounding stays below. -/
structure RoundsWith (pixel : K → ℤ) (slack : K) : Prop where
  lt_iff : ∀ q (k : ℤ), 0 ≤ q → (pixel q < k ↔ q + slack < k)
  nonneg : ∀ q, 0 ≤ q → 0 ≤ pixel q
  neg : ∀ q, 0 ≤ q → pixel (-q) = -pixel q

/-- What is rounded to zero. -/
theorem RoundsWith.eq_zero_iff (rounds : RoundsWith pixel slack) {q : K} (hq : 0 ≤ q) :
    pixel q = 0 ↔ q + slack < 1 := by
  have hlt := rounds.lt_iff q 1 hq
  have hnonneg := rounds.nonneg q hq
  rw [Int.cast_one] at hlt
  rw [← hlt]
  omega

/-- A function on the numbers that are not negative, carried over to the others. -/
def odd (f : K → ℤ) (q : K) : ℤ := if 0 ≤ q then f q else -f (-q)

theorem odd_of_nonneg (f : K → ℤ) {q : K} (hq : 0 ≤ q) : odd f q = f q := if_pos hq

variable [IsStrictOrderedRing K]

/-- A rounding with a slack below one does not go beyond an integer. -/
theorem RoundsWith.le (rounds : RoundsWith pixel slack) (hslack : slack < 1) {q : K} {k : ℤ}
    (hq : 0 ≤ q) (hle : q ≤ k) : pixel q ≤ k := by
  refine Int.lt_add_one_iff.1 ((rounds.lt_iff q (k + 1) hq).2 ?_)
  push_cast
  linarith

/-- A function that is zero at zero is carried over to an odd one. -/
theorem odd_neg {f : K → ℤ} (hzero : f 0 = 0) {q : K} (hq : 0 ≤ q) : odd f (-q) = -odd f q := by
  rw [odd_of_nonneg f hq, odd]
  split
  · rename_i hneg
    have hq0 : q = 0 := le_antisymm (neg_nonneg.1 hneg) hq
    simp [hq0, hzero]
  · rw [neg_neg]

variable [FloorRing K]

/-- The conversion to an integer. -/
def truncate : K → ℤ := odd Int.floor

/-- `lround`. -/
def nearest : K → ℤ := odd fun q => ⌊q + 1 / 2⌋

theorem truncate_rounds : RoundsWith (truncate : K → ℤ) 0 where
  lt_iff q k hq := by
    rw [truncate, odd_of_nonneg _ hq, Int.floor_lt, add_zero]
  nonneg q hq := by
    rw [truncate, odd_of_nonneg _ hq]
    exact Int.floor_nonneg.2 hq
  neg q hq := odd_neg Int.floor_zero hq

theorem nearest_rounds : RoundsWith (nearest : K → ℤ) (1 / 2) where
  lt_iff q k hq := by
    rw [nearest, odd_of_nonneg _ hq, Int.floor_lt]
  nonneg q hq := by
    rw [nearest, odd_of_nonneg _ hq]
    exact Int.floor_nonneg.2 (by linarith)
  neg q hq := by
    refine odd_neg ?_ hq
    show ⌊(0 : K) + 1 / 2⌋ = 0
    rw [Int.floor_eq_zero_iff]
    constructor
    · norm_num
    · norm_num

end SecondDisplay.Rounding
