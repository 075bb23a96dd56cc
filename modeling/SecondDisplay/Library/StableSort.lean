import Mathlib.Data.List.Basic

/-!
# Stable sorting

A stable sort orders a list by a key and leaves elements with one key in the order they had: the
elements of every key are the same list before and after.  `mergeSort` is one
(`sorts_mergeSort`).
-/

namespace SecondDisplay.StableSort

variable {α κ : Type*} [LE κ] [DecidableLE κ] [DecidableEq κ]

/-- `ys` is `xs`, sorted by `key` and stable. -/
structure Sorts (key : α → κ) (xs ys : List α) : Prop where
  perm : ys.Perm xs
  sorted : ys.Pairwise fun a b => key a ≤ key b
  stable : ∀ k, (ys.filter fun a => key a = k) = xs.filter fun a => key a = k

variable [Std.IsLinearOrder κ]

/-- **`mergeSort` is a stable sort.** -/
theorem sorts_mergeSort (key : α → κ) (xs : List α) :
    Sorts key xs (xs.mergeSort fun a b => key a ≤ key b) := by
  have htrans : ∀ a b c : α, decide (key a ≤ key b) = true → decide (key b ≤ key c) = true →
      decide (key a ≤ key c) = true := by
    intro a b c hab hbc
    exact decide_eq_true (Std.le_trans (of_decide_eq_true hab) (of_decide_eq_true hbc))
  have htotal : ∀ a b : α, (decide (key a ≤ key b) || decide (key b ≤ key a)) = true := by
    intro a b
    simpa using Std.le_total
  have hperm := List.mergeSort_perm xs fun a b => decide (key a ≤ key b)
  refine ⟨hperm, ?_, fun k => ?_⟩
  · exact (List.pairwise_mergeSort htrans htotal xs).imp fun h => of_decide_eq_true h
  · -- the elements with the key are sorted among themselves, so they stay in place
    have hsame : (xs.filter fun a => key a = k).Pairwise fun a b => decide (key a ≤ key b) := by
      refine List.pairwise_iff_forall_sublist.2 fun {a b} hab => ?_
      have ha := of_decide_eq_true (List.mem_filter.1 (hab.subset List.mem_cons_self)).2
      have hb := of_decide_eq_true
        (List.mem_filter.1 (hab.subset (List.mem_cons_of_mem a List.mem_cons_self))).2
      exact decide_eq_true (Std.le_of_eq (ha.trans hb.symm))
    have hsublist := (List.sublist_mergeSort htrans htotal hsame List.filter_sublist).filter
      fun a => decide (key a = k)
    rw [List.filter_filter] at hsublist
    simp only [Bool.and_self] at hsublist
    exact (hsublist.eq_of_length (hperm.filter _).length_eq.symm).symm

end SecondDisplay.StableSort
