/-!
# Sorting without repetition

A list is sorted by a total preorder, and of elements that are as large as each other the first one
is kept.  What is left are elements of the list, and none is left out if and only if no two elements
are alike (`length_sortUnique_iff`).
-/

namespace SecondDisplay.SortUnique

/-- A total preorder that can be computed. -/
structure Order (α : Type) where
  le : α → α → Bool
  total : ∀ x y, le x y = true ∨ le y x = true
  trans : ∀ x y z, le x y = true → le y z = true → le x z = true

variable {α : Type} (order : Order α)

/-- An element at its place, unless one like it is there. -/
def insertUnique (x : α) : List α → List α
  | [] => [x]
  | y :: ys =>
    if order.le x y then (if order.le y x then y :: ys else x :: y :: ys)
    else y :: insertUnique x ys

/-- The elements in order, and of alike ones the first. -/
def sortUnique (xs : List α) : List α :=
  xs.foldl (fun sorted x => insertUnique order x sorted) []

/-- Elements that are as large as each other. -/
def Alike (x y : α) : Prop := order.le x y = true ∧ order.le y x = true

/-- Each element is smaller than the ones behind it. -/
def Increasing (xs : List α) : Prop := xs.Pairwise fun x y => order.le y x = false

variable {order} {x y : α} {xs sorted : List α}

theorem Alike.symm (h : Alike order x y) : Alike order y x := ⟨h.2, h.1⟩

theorem not_alike_of_lt (h : order.le y x = false) : ¬Alike order x y := by
  rintro ⟨-, hle⟩
  rw [h] at hle
  cases hle

theorem le_of_not_le (h : order.le x y = false) : order.le y x = true := by
  obtain hle | hle := order.total x y
  · rw [h] at hle
    cases hle
  · exact hle

/-! ### One element -/

theorem mem_insertUnique (h : y ∈ insertUnique order x sorted) : y = x ∨ y ∈ sorted := by
  induction sorted with
  | nil => exact .inl (List.mem_singleton.1 h)
  | cons z sorted ih =>
    rw [insertUnique] at h
    split at h
    · split at h
      · exact .inr h
      · exact List.mem_cons.1 h
    · obtain rfl | h := List.mem_cons.1 h
      · exact .inr List.mem_cons_self
      · exact (ih h).imp_right (List.mem_cons_of_mem z)

theorem mem_insertUnique_of_mem (h : y ∈ sorted) : y ∈ insertUnique order x sorted := by
  induction sorted with
  | nil => cases h
  | cons z sorted ih =>
    rw [insertUnique]
    split
    · split
      · exact h
      · exact List.mem_cons_of_mem x h
    · obtain rfl | h := List.mem_cons.1 h
      · exact List.mem_cons_self
      · exact List.mem_cons_of_mem z (ih h)

theorem Increasing.insertUnique (h : Increasing order sorted) (x : α) :
    Increasing order (insertUnique order x sorted) := by
  induction sorted with
  | nil => exact List.pairwise_singleton _ x
  | cons z sorted ih =>
    obtain ⟨hz, hsorted⟩ := List.pairwise_cons.1 h
    rw [SortUnique.insertUnique]
    split
    · rename_i hle
      split
      · exact h
      · rename_i hge
        refine List.pairwise_cons.2 ⟨fun y hy => ?_, h⟩
        rw [Bool.not_eq_true] at hge
        obtain rfl | hy := List.mem_cons.1 hy
        · exact hge
        · -- it would be smaller than the one that it is behind
          refine Bool.eq_false_iff.2 fun hyx => ?_
          have hyz := order.trans y x z hyx hle
          rw [hz y hy] at hyz
          cases hyz
    · rename_i hle
      rw [Bool.not_eq_true] at hle
      refine List.pairwise_cons.2 ⟨fun y hy => ?_, ih hsorted⟩
      obtain rfl | hy := mem_insertUnique hy
      · exact hle
      · exact hz y hy

/-- An element is left out if and only if one like it is there. -/
theorem length_insertUnique (h : Increasing order sorted) (x : α) :
    ((∃ y ∈ sorted, Alike order x y) ∧
      (insertUnique order x sorted).length = sorted.length) ∨
    ((∀ y ∈ sorted, ¬Alike order x y) ∧ x ∈ insertUnique order x sorted ∧
      (insertUnique order x sorted).length = sorted.length + 1) := by
  induction sorted with
  | nil => exact .inr ⟨fun y hy => (by cases hy), List.mem_cons_self, rfl⟩
  | cons z sorted ih =>
    obtain ⟨hz, hsorted⟩ := List.pairwise_cons.1 h
    rw [insertUnique]
    by_cases hle : order.le x z = true
    · rw [if_pos hle]
      by_cases hge : order.le z x = true
      · rw [if_pos hge]
        exact .inl ⟨⟨z, List.mem_cons_self, hle, hge⟩, rfl⟩
      · rw [if_neg hge]
        refine .inr ⟨fun y hy => ?_, List.mem_cons_self, rfl⟩
        rintro ⟨-, hyx⟩
        obtain rfl | hy := List.mem_cons.1 hy
        · exact hge hyx
        · have hyz := order.trans y x z hyx hle
          rw [hz y hy] at hyz
          cases hyz
    · rw [if_neg hle]
      obtain ⟨⟨y, hy, halike⟩, hlength⟩ | ⟨hnone, hmem, hlength⟩ := ih hsorted
      · exact .inl ⟨⟨y, List.mem_cons_of_mem z hy, halike⟩, congrArg (· + 1) hlength⟩
      · refine .inr ⟨fun y hy => ?_, List.mem_cons_of_mem z hmem, congrArg (· + 1) hlength⟩
        obtain rfl | hy := List.mem_cons.1 hy
        · exact fun halike => hle halike.1
        · exact hnone y hy

/-! ### The whole list -/

/-- What the loop has, from a list that is increasing already. -/
theorem foldl_insertUnique (h : Increasing order sorted) (xs : List α) :
    let result := xs.foldl (fun sorted x => insertUnique order x sorted) sorted
    Increasing order result ∧ (∀ y ∈ result, y ∈ xs ∨ y ∈ sorted) ∧
      result.length ≤ sorted.length + xs.length ∧
      (result.length = sorted.length + xs.length ↔
        (xs.Pairwise fun x y => ¬Alike order x y) ∧ ∀ x ∈ xs, ∀ y ∈ sorted, ¬Alike order x y) := by
  induction xs generalizing sorted with
  | nil =>
    refine ⟨h, fun y hy => .inr hy, Nat.le_refl _, ?_⟩
    exact iff_of_true rfl ⟨List.Pairwise.nil, fun x hx => (by cases hx)⟩
  | cons x xs ih =>
    obtain ⟨hincreasing, hmem, hle, hiff⟩ := ih (h.insertUnique x)
    refine ⟨hincreasing, ?_, ?_, ?_⟩
    · intro y hy
      obtain hy | hy := hmem y hy
      · exact .inl (List.mem_cons_of_mem x hy)
      · obtain rfl | hy := mem_insertUnique hy
        · exact .inl List.mem_cons_self
        · exact .inr hy
    · obtain ⟨-, hlength⟩ | ⟨-, -, hlength⟩ := length_insertUnique h x
      · rw [hlength] at hle
        rw [List.length_cons, List.foldl_cons]
        omega
      · rw [hlength] at hle
        rw [List.length_cons, List.foldl_cons]
        omega
    · rw [List.foldl_cons, List.length_cons, List.pairwise_cons, List.forall_mem_cons]
      obtain ⟨⟨y, hy, halike⟩, hlength⟩ | ⟨hnone, hthere, hlength⟩ := length_insertUnique h x
      · -- one element less
        rw [hlength] at hle
        constructor
        · intro heq
          omega
        · rintro ⟨-, hno, -⟩
          exact absurd halike (hno y hy)
      · rw [hlength, Nat.add_right_comm, Nat.add_assoc] at hiff
        rw [hiff]
        constructor
        · rintro ⟨hpairwise, hall⟩
          exact ⟨⟨fun z hz halike => hall z hz x hthere halike.symm, hpairwise⟩, hnone,
            fun z hz y hy => hall z hz y (mem_insertUnique_of_mem hy)⟩
        · rintro ⟨⟨hfirst, hpairwise⟩, -, hall⟩
          refine ⟨hpairwise, fun z hz y hy => ?_⟩
          obtain rfl | hy := mem_insertUnique hy
          · exact fun halike => hfirst z hz halike.symm
          · exact hall z hz y hy

theorem increasing_nil : Increasing order ([] : List α) := List.Pairwise.nil

/-- What is left is increasing. -/
theorem increasing_sortUnique (xs : List α) : Increasing order (sortUnique order xs) :=
  (foldl_insertUnique increasing_nil xs).1

theorem mem_of_mem_sortUnique (h : y ∈ sortUnique order xs) : y ∈ xs := by
  obtain hy | hy := (foldl_insertUnique increasing_nil xs).2.1 y h
  · exact hy
  · cases hy

/-- **Nothing is left out** if and only if no two elements are alike. -/
theorem length_sortUnique_iff :
    (sortUnique order xs).length = xs.length ↔ xs.Pairwise fun x y => ¬Alike order x y := by
  obtain ⟨-, -, -, hiff⟩ := @foldl_insertUnique α order [] increasing_nil xs
  rw [List.length_nil, Nat.zero_add] at hiff
  rw [sortUnique, hiff]
  exact and_iff_left fun x _ y hy => (by cases hy)

/-- Of what is left nothing is left out. -/
theorem length_sortUnique_sortUnique (xs : List α) :
    (sortUnique order (sortUnique order xs)).length = (sortUnique order xs).length :=
  length_sortUnique_iff.2 ((increasing_sortUnique xs).imp fun h => not_alike_of_lt h)

end SecondDisplay.SortUnique
