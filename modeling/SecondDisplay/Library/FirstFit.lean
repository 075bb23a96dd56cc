import Mathlib.Data.Finset.Card
import Mathlib.Data.Finset.Image
import Mathlib.Data.List.Find

/-!
# First-fit assignment

The entries of a new list take the entries of an old one, in order: each takes the first old
entry that fits it and that no earlier entry has taken.  Old entries are named by their
positions.  No position is taken twice (`assign_injective`), so of any set of positions as many
are taken as there are entries that take one of them (`card_taken`, for any part of what is
taken).
-/

namespace SecondDisplay.FirstFit

variable {α β : Type*} (fits : β → α → Bool) (old : List α)

/-! ### The assignment -/

/-- The first position that fits and is not used. -/
def first (used : List ℕ) (b : β) : Option ℕ :=
  (old.zipIdx.find? fun (a, j) => !used.contains j && fits b a).map (·.2)

/-- The positions that the new entries take. -/
def assign (used : List ℕ) : List β → List (Option ℕ)
  | [] => []
  | b :: bs => first fits old used b :: assign ((first fits old used b).toList ++ used) bs

theorem length_assign (used : List ℕ) (bs : List β) :
    (assign fits old used bs).length = bs.length := by
  induction bs generalizing used with
  | nil => rfl
  | cons b bs ih => rw [assign, List.length_cons, List.length_cons, ih]

variable {fits old}

theorem of_first {used : List ℕ} {b : β} {j : ℕ} (h : first fits old used b = some j) :
    j ∉ used ∧ ∃ a, old[j]? = some a ∧ fits b a = true := by
  rw [first, Option.map_eq_some_iff] at h
  obtain ⟨⟨a, i⟩, hfind, rfl⟩ := h
  have hmem := List.mem_of_find?_eq_some hfind
  have hfits := List.find?_some hfind
  simp only [Bool.and_eq_true, Bool.not_eq_true', List.contains_eq_mem, decide_eq_false_iff_not]
    at hfits
  exact ⟨hfits.1, a, List.mk_mem_zipIdx_iff_getElem?.1 hmem, hfits.2⟩

/-- What is taken was free and fits. -/
theorem of_assign {used : List ℕ} {bs : List β} {i j : ℕ}
    (h : (assign fits old used bs)[i]? = some (some j)) :
    j ∉ used ∧ ∃ b a, bs[i]? = some b ∧ old[j]? = some a ∧ fits b a = true := by
  induction bs generalizing used i with
  | nil => cases h
  | cons b bs ih =>
    cases i with
    | zero =>
      obtain ⟨hfree, a, ha, hfits⟩ := of_first (Option.some.inj h)
      exact ⟨hfree, b, a, rfl, ha, hfits⟩
    | succ i =>
      obtain ⟨hfree, b', a, hb, ha, hfits⟩ := ih h
      exact ⟨fun hused => hfree (List.mem_append_right _ hused), b', a, hb, ha, hfits⟩

/-- No position is taken twice. -/
theorem assign_injective {used : List ℕ} {bs : List β} {i k j : ℕ}
    (hi : (assign fits old used bs)[i]? = some (some j))
    (hk : (assign fits old used bs)[k]? = some (some j)) : i = k := by
  induction bs generalizing used i k with
  | nil => cases hi
  | cons b bs ih =>
    -- What the first entry takes is used for the others.
    have hlater : ∀ {i : ℕ}, first fits old used b = some j →
        (assign fits old ((first fits old used b).toList ++ used) bs)[i]? ≠ some (some j) := by
      intro i hfirst hi
      exact (of_assign hi).1 (List.mem_append_left _ (Option.mem_toList.2 hfirst))
    cases i with
    | zero =>
      cases k with
      | zero => rfl
      | succ k => exact absurd hk (hlater (Option.some.inj hi))
    | succ i =>
      cases k with
      | zero => exact absurd hi (hlater (Option.some.inj hk))
      | succ k => rw [ih hi hk]

/-! ### Counting -/

/-- The position an entry takes. -/
def taken (fits : β → α → Bool) (old : List α) (bs : List β) (i : ℕ) : Option ℕ :=
  ((assign fits old [] bs)[i]?).join

theorem taken_eq_some {bs : List β} {i j : ℕ} :
    taken fits old bs i = some j ↔ (assign fits old [] bs)[i]? = some (some j) := by
  rw [taken, Option.join_eq_some_iff]

/-- **As many are taken as take one.** -/
theorem card_taken (bs : List β) (wanted : Finset ℕ) (keeps : ℕ → ℕ → Prop) [DecidableRel keeps]
    (htaken : ∀ i j, keeps i j → taken fits old bs i = some j) :
    ((Finset.range bs.length).filter fun i => ∃ j ∈ wanted, keeps i j).card =
      (wanted.filter fun j => ∃ i < bs.length, keeps i j).card := by
  have himage : (wanted.filter fun j => ∃ i < bs.length, keeps i j) =
      ((Finset.range bs.length).filter fun i => ∃ j ∈ wanted, keeps i j).image
        fun i => (taken fits old bs i).getD 0 := by
    ext j
    simp only [Finset.mem_filter, Finset.mem_image, Finset.mem_range]
    constructor
    · rintro ⟨hj, i, hi, hkeeps⟩
      exact ⟨i, ⟨hi, j, hj, hkeeps⟩, by rw [htaken i j hkeeps]; rfl⟩
    · rintro ⟨i, ⟨hi, k, hk, hkeeps⟩, rfl⟩
      rw [htaken i k hkeeps]
      exact ⟨hk, i, hi, hkeeps⟩
  rw [himage, Finset.card_image_of_injOn]
  intro i hi k hk heq
  obtain ⟨-, j, -, hj⟩ := Finset.mem_filter.1 (Finset.mem_coe.1 hi)
  obtain ⟨-, l, -, hl⟩ := Finset.mem_filter.1 (Finset.mem_coe.1 hk)
  simp only [htaken i j hj, htaken k l hl, Option.getD_some] at heq
  subst heq
  exact assign_injective (taken_eq_some.1 (htaken i j hj)) (taken_eq_some.1 (htaken k j hl))

end SecondDisplay.FirstFit
