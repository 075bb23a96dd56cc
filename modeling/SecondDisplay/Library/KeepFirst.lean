import Mathlib.Data.List.Basic

/-!
# Keeping the first of each

A list is gone through once, and an element is kept unless it repeats one that was kept.  What is
kept repeats nothing (`keepFirst_pairwise`), and an element that repeats nothing at all is kept
(`mem_keepFirst`); a list without repetitions stays as it is (`keepFirst_eq`).  If repeating is
transitive, an element is kept exactly if it repeats nothing before it, kept or not
(`keepFirst_eq_firsts`).
-/

namespace SecondDisplay.KeepFirst

variable {α : Type*} (same : α → α → Bool)

/-- Go on with `xs`, with `kept` kept so far. -/
def keepFrom (kept xs : List α) : List α :=
  xs.foldl (fun kept x => if kept.any (same x) then kept else kept ++ [x]) kept

/-- The elements that repeat none that was kept before them. -/
def keepFirst (xs : List α) : List α := keepFrom same [] xs

theorem keepFrom_cons (kept xs : List α) (x : α) :
    keepFrom same kept (x :: xs) =
      keepFrom same (if kept.any (same x) then kept else kept ++ [x]) xs := rfl

variable {same}

theorem pairwise_append_singleton {kept : List α} {x : α}
    (h : kept.Pairwise fun a b => same b a = false) (hnew : kept.any (same x) = false) :
    (kept ++ [x]).Pairwise fun a b => same b a = false := by
  refine List.pairwise_append.2 ⟨h, List.pairwise_singleton _ x, fun a ha b hb => ?_⟩
  rw [List.mem_singleton.1 hb]
  exact Bool.eq_false_iff.2 (List.any_eq_false.1 hnew a ha)

theorem keepFrom_pairwise (xs : List α) {kept : List α}
    (h : kept.Pairwise fun a b => same b a = false) :
    (keepFrom same kept xs).Pairwise fun a b => same b a = false := by
  induction xs generalizing kept with
  | nil => exact h
  | cons x xs ih =>
    rw [keepFrom_cons]
    cases hany : kept.any (same x) with
    | true => exact ih h
    | false => exact ih (pairwise_append_singleton h hany)

/-- **What is kept repeats nothing.** -/
theorem keepFirst_pairwise (xs : List α) :
    (keepFirst same xs).Pairwise fun a b => same b a = false :=
  keepFrom_pairwise xs List.Pairwise.nil

theorem mem_of_mem_keepFrom {xs kept : List α} {y : α} (h : y ∈ keepFrom same kept xs) :
    y ∈ kept ∨ y ∈ xs := by
  induction xs generalizing kept with
  | nil => exact Or.inl h
  | cons x xs ih =>
    rw [keepFrom_cons] at h
    obtain hkept | hxs := ih h
    · cases hany : kept.any (same x) with
      | true =>
        rw [hany, if_pos rfl] at hkept
        exact Or.inl hkept
      | false =>
        rw [hany, if_neg Bool.false_ne_true] at hkept
        obtain hkept | hx := List.mem_append.1 hkept
        · exact Or.inl hkept
        · rw [List.mem_singleton.1 hx]
          exact Or.inr List.mem_cons_self
    · exact Or.inr (List.mem_cons_of_mem x hxs)

/-- Nothing is added. -/
theorem mem_of_mem_keepFirst {xs : List α} {y : α} (h : y ∈ keepFirst same xs) : y ∈ xs := by
  obtain hnil | hxs := mem_of_mem_keepFrom h
  · cases hnil
  · exact hxs

theorem mem_keepFrom_of_kept (xs : List α) {kept : List α} {y : α} (h : y ∈ kept) :
    y ∈ keepFrom same kept xs := by
  induction xs generalizing kept with
  | nil => exact h
  | cons x xs ih =>
    rw [keepFrom_cons]
    apply ih
    split
    · exact h
    · exact List.mem_append_left [x] h

theorem keepFrom_append (kept xs ys : List α) :
    keepFrom same kept (xs ++ ys) = keepFrom same (keepFrom same kept xs) ys :=
  List.foldl_append

/-- **What repeats nothing before it is kept.** -/
theorem mem_keepFirst_of_before {before after : List α} {y : α}
    (hnew : ∀ z ∈ before, same y z = false) : y ∈ keepFirst same (before ++ y :: after) := by
  have hany : (keepFirst same before).any (same y) = false :=
    List.any_eq_false.2 fun z hz => Bool.eq_false_iff.1 (hnew z (mem_of_mem_keepFirst hz))
  rw [keepFirst, keepFrom_append, keepFrom_cons, ← keepFirst, hany, if_neg Bool.false_ne_true]
  exact mem_keepFrom_of_kept after (List.mem_append_right _ (List.mem_singleton_self y))

/-- **What repeats nothing is kept.** -/
theorem mem_keepFirst {xs : List α} {y : α} (hy : y ∈ xs) (hnew : ∀ z, same y z = false) :
    y ∈ keepFirst same xs := by
  obtain ⟨before, after, rfl⟩ := List.append_of_mem hy
  exact mem_keepFirst_of_before fun z _ => hnew z

theorem keepFrom_eq (xs : List α) {kept : List α}
    (h : (kept ++ xs).Pairwise fun a b => same b a = false) :
    keepFrom same kept xs = kept ++ xs := by
  induction xs generalizing kept with
  | nil => exact (List.append_nil kept).symm
  | cons x xs ih =>
    have hany : kept.any (same x) = false := List.any_eq_false.2 fun a ha =>
      Bool.eq_false_iff.1 ((List.pairwise_append.1 h).2.2 a ha x List.mem_cons_self)
    rw [keepFrom_cons, hany, if_neg Bool.false_ne_true, ih, List.append_assoc]
    · rfl
    · rw [List.append_assoc]
      exact h

/-- **A list without repetitions is kept whole.** -/
theorem keepFirst_eq {xs : List α} (h : xs.Pairwise fun a b => same b a = false) :
    keepFirst same xs = xs :=
  keepFrom_eq xs h

/-! ### The first of each class -/

variable (same) in
/-- The elements of `xs` that repeat nothing in front of them, where `before` is in front of
`xs`. -/
def firstsAfter : List α → List α → List α
  | _, [] => []
  | before, x :: xs =>
    if before.any (same x) then firstsAfter (before ++ [x]) xs
    else x :: firstsAfter (before ++ [x]) xs

variable (same) in
/-- The elements that repeat nothing in front of them. -/
def firsts (xs : List α) : List α := firstsAfter same [] xs

/-- What is kept stands for what was in front: an element repeats the one exactly if it repeats the
other. -/
def StandsFor (kept before : List α) : Prop := ∀ x, kept.any (same x) = before.any (same x)

theorem keepFrom_eq_firstsAfter (htrans : ∀ x y z, same x y = true → same y z = true →
    same x z = true) (xs : List α) {kept before : List α} (h : @StandsFor α same kept before) :
    keepFrom same kept xs = kept ++ firstsAfter same before xs := by
  induction xs generalizing kept before with
  | nil => exact (List.append_nil kept).symm
  | cons x xs ih =>
    rw [keepFrom_cons, firstsAfter, h x]
    cases hany : before.any (same x) with
    | true =>
      rw [if_pos rfl, if_pos rfl]
      refine ih fun z => ?_
      rw [List.any_append, h z]
      -- what repeats `x` repeats what `x` repeats
      cases hz : same z x with
      | false => simp [hz]
      | true =>
        obtain ⟨y, hy, hxy⟩ := List.any_eq_true.1 hany
        rw [List.any_eq_true.2 ⟨y, hy, htrans z x y hz hxy⟩, Bool.true_or]
    | false =>
      rw [if_neg Bool.false_ne_true, if_neg Bool.false_ne_true, ih, List.append_assoc]
      · rfl
      · intro z
        rw [List.any_append, List.any_append, h z]

/-- **The first of each class is kept, and nothing else.** -/
theorem keepFirst_eq_firsts (htrans : ∀ x y z, same x y = true → same y z = true →
    same x z = true) (xs : List α) : keepFirst same xs = firsts same xs :=
  keepFrom_eq_firstsAfter htrans xs fun _ => rfl

end SecondDisplay.KeepFirst
