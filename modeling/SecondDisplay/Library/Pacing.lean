import Mathlib.Data.List.Induction

/-!
# Pacing

A trace has elements that demand a rest before the next attempt, elements that are a rest of some
length, and attempts.  It is paced if between a demand and the next attempt there is a rest that is
long enough.  What is still owed at the end of a trace is the longest demand that no rest has met
(`unmet_owed`, `le_owed`), and a paced trace stays paced under an attempt exactly if nothing is
owed (`paced_snoc`).
-/

namespace SecondDisplay.Pacing

/-- What the elements of a trace stand for.  A demand of 0 demands nothing. -/
structure Pace (α : Type*) where
  demand : α → Nat
  rest : α → Nat
  attempt : α → Bool

variable {α : Type*} (p : Pace α)

/-- Between a demand and the next attempt lies a rest that is long enough. -/
def Paced (trace : List α) : Prop :=
  ∀ before x mid y after, trace = before ++ x :: (mid ++ y :: after) → 0 < p.demand x →
    p.attempt y = true → (∀ z ∈ mid, p.attempt z = false) → ∃ z ∈ mid, p.demand x ≤ p.rest z

theorem paced_nil : Paced p [] := fun _ _ _ _ _ hnil => absurd hnil (by simp)

/-- What is owed behind one more element. -/
def charge (n : Nat) (x : α) : Nat :=
  max (if p.attempt x = true ∨ n ≤ p.rest x then 0 else n) (p.demand x)

/-- What is owed at the end of a trace. -/
def owed (trace : List α) : Nat := trace.foldl (charge p) 0

@[simp] theorem owed_nil : owed p [] = 0 := rfl

theorem owed_snoc (trace : List α) (x : α) : owed p (trace ++ [x]) = charge p (owed p trace) x := by
  rw [owed, List.foldl_append]
  rfl

variable {p}

theorem demand_le_charge (n : Nat) (x : α) : p.demand x ≤ charge p n x := Nat.le_max_right _ _

/-- An element that is neither a rest nor an attempt only adds to what is owed. -/
theorem charge_quiet {x : α} (hattempt : p.attempt x = false) (hrest : p.rest x = 0) (n : Nat) :
    charge p n x = max n (p.demand x) := by
  rw [charge, hattempt, hrest]
  split <;> simp_all

/-- An element that stands for nothing changes nothing. -/
theorem charge_idle {x : α} (hattempt : p.attempt x = false) (hrest : p.rest x = 0)
    (hdemand : p.demand x = 0) (n : Nat) : charge p n x = n := by
  rw [charge_quiet hattempt hrest, hdemand, Nat.max_zero]

theorem charge_attempt {x : α} (hattempt : p.attempt x = true) (n : Nat) :
    charge p n x = p.demand x := by
  rw [charge, if_pos (Or.inl hattempt), Nat.zero_max]

theorem charge_rest {x : α} {n : Nat} (hrest : n ≤ p.rest x) : charge p n x = p.demand x := by
  rw [charge, if_pos (Or.inr hrest), Nat.zero_max]

/-- Nothing is owed beyond the longest demand. -/
theorem owed_le {bound : Nat} {trace : List α} (h : ∀ x ∈ trace, p.demand x ≤ bound) :
    owed p trace ≤ bound := by
  induction trace using List.reverseRecOn with
  | nil => exact Nat.zero_le _
  | append_singleton trace x ih =>
    have hinit := ih fun y hy => h y (List.mem_append_left _ hy)
    have hlast := h x (List.mem_append_right _ (List.mem_singleton_self x))
    rw [owed_snoc, charge]
    split <;> omega

/-! ### Demands that are still open -/

variable (p) in
/-- A demand of `d` behind which there is neither an attempt nor a rest that is long enough. -/
def Unmet (trace : List α) (d : Nat) : Prop :=
  ∃ before x mid, trace = before ++ x :: mid ∧ p.demand x = d ∧
    ∀ z ∈ mid, p.attempt z = false ∧ p.rest z < d

theorem Unmet.snoc {trace : List α} {d : Nat} {x : α} (h : Unmet p trace d)
    (hattempt : p.attempt x = false) (hrest : p.rest x < d) : Unmet p (trace ++ [x]) d := by
  obtain ⟨before, y, mid, rfl, hdemand, hmid⟩ := h
  refine ⟨before, y, mid ++ [x], by simp, hdemand, fun z hz => ?_⟩
  rcases List.mem_append.1 hz with hz | hz
  · exact hmid z hz
  · rw [List.mem_singleton.1 hz]
    exact ⟨hattempt, hrest⟩

/-- What is owed has been demanded. -/
theorem unmet_owed {trace : List α} (h : 0 < owed p trace) : Unmet p trace (owed p trace) := by
  induction trace using List.reverseRecOn with
  | nil => exact absurd h (Nat.lt_irrefl 0)
  | append_singleton trace x ih =>
    have hcharge := owed_snoc p trace x
    rw [charge] at hcharge
    by_cases hdemand : owed p (trace ++ [x]) = p.demand x
    · exact ⟨trace, x, [], rfl, hdemand.symm, nofun⟩
    · by_cases hmet : p.attempt x = true ∨ owed p trace ≤ p.rest x
      · rw [if_pos hmet, Nat.zero_max] at hcharge
        exact absurd hcharge hdemand
      · rw [if_neg hmet] at hcharge
        rw [not_or, Bool.not_eq_true, Nat.not_le] at hmet
        have hsame : owed p (trace ++ [x]) = owed p trace := by omega
        rw [hsame] at h ⊢
        exact (ih h).snoc hmet.1 hmet.2

/-- What is open is owed. -/
theorem le_owed {trace : List α} {d : Nat} (h : Unmet p trace d) : d ≤ owed p trace := by
  induction trace using List.reverseRecOn with
  | nil =>
    obtain ⟨before, x, mid, heq, -⟩ := h
    exact absurd heq (by simp)
  | append_singleton trace x ih =>
    obtain ⟨before, y, mid, heq, hdemand, hmid⟩ := h
    rw [owed_snoc]
    rcases List.eq_nil_or_concat mid with rfl | ⟨mid', z, rfl⟩
    · obtain ⟨-, hx⟩ := List.append_inj' heq rfl
      cases hx
      exact hdemand ▸ demand_le_charge _ _
    · rw [List.concat_eq_append] at heq hmid
      have hsplit : trace ++ [x] = (before ++ y :: mid') ++ [z] := by
        rw [heq, List.append_assoc, List.cons_append]
      obtain ⟨htrace, hx⟩ := List.append_inj' hsplit rfl
      cases hx
      obtain ⟨hattempt, hrest⟩ := hmid x (by simp)
      have hopen : Unmet p trace d :=
        ⟨before, y, mid', htrace, hdemand, fun z hz => hmid z (List.mem_append_left _ hz)⟩
      have hle := ih hopen
      rw [charge, if_neg (by rw [hattempt]; simp; omega)]
      omega

/-! ### One more element -/

/-- **One more element.**  An attempt keeps a trace paced exactly if nothing is owed, and anything
else keeps it paced. -/
theorem paced_snoc {trace : List α} {y : α} :
    Paced p (trace ++ [y]) ↔ Paced p trace ∧ (p.attempt y = true → owed p trace = 0) := by
  constructor
  · intro h
    refine ⟨fun before x mid z after htrace => ?_, fun hy => ?_⟩
    · exact h before x mid z (after ++ [y]) (by rw [htrace]; simp)
    · by_contra howed
      have hpos : 0 < owed p trace := Nat.pos_of_ne_zero howed
      obtain ⟨before, x, mid, htrace, hdemand, hmid⟩ := unmet_owed hpos
      obtain ⟨z, hz, hrest⟩ := h before x mid y [] (by rw [htrace]; simp) (hdemand ▸ hpos) hy
        fun z hz => (hmid z hz).1
      have := (hmid z hz).2
      omega
  · rintro ⟨hpaced, howed⟩ before x mid z after htrace hdemand hz hmid
    rcases List.eq_nil_or_concat after with rfl | ⟨after', w, rfl⟩
    · -- The attempt is the new element.
      have hsplit : trace ++ [y] = (before ++ x :: mid) ++ [z] := by rw [htrace]; simp
      obtain ⟨rfl, hy⟩ := List.append_inj' hsplit rfl
      cases hy
      by_contra hnone
      have hopen : Unmet p (before ++ x :: mid) (p.demand x) := by
        refine ⟨before, x, mid, rfl, rfl, fun w hw => ⟨hmid w hw, ?_⟩⟩
        by_contra hrest
        exact hnone ⟨w, hw, Nat.le_of_not_lt hrest⟩
      have := le_owed hopen
      have := howed hz
      omega
    · have hsplit : trace ++ [y] = (before ++ x :: (mid ++ z :: after')) ++ [w] := by
        rw [htrace]
        simp
      obtain ⟨rfl, -⟩ := List.append_inj' hsplit rfl
      exact hpaced before x mid z after' rfl hdemand hz hmid

/-- A trace without demands is paced. -/
theorem paced_of_calm {trace : List α} (h : ∀ x ∈ trace, p.demand x = 0) : Paced p trace := by
  intro before x mid y after htrace hdemand
  exact absurd (h x (by rw [htrace]; simp)) (Nat.ne_of_gt hdemand)

/-- Elements that are neither rests nor attempts keep a trace paced and leave what is owed. -/
theorem paced_append_quiet (trace : List α) {more : List α}
    (h : ∀ x ∈ more, p.attempt x = false ∧ p.rest x = 0) :
    (Paced p (trace ++ more) ↔ Paced p trace) ∧ owed p trace ≤ owed p (trace ++ more) ∧
      ∀ x ∈ more, p.demand x ≤ owed p (trace ++ more) := by
  induction more using List.reverseRecOn with
  | nil => simp
  | append_singleton more y ih =>
    obtain ⟨hpaced, howed, hdemands⟩ := ih fun x hx => h x (List.mem_append_left _ hx)
    obtain ⟨hattempt, hrest⟩ := h y (by simp)
    have hcharge := charge_quiet hattempt hrest (owed p (trace ++ more))
    rw [← List.append_assoc, paced_snoc, owed_snoc, hcharge, hattempt]
    refine ⟨by simpa using hpaced, Nat.le_trans howed (Nat.le_max_left _ _), fun x hx => ?_⟩
    rcases List.mem_append.1 hx with hx | hx
    · exact Nat.le_trans (hdemands x hx) (Nat.le_max_left _ _)
    · rw [List.mem_singleton.1 hx]
      exact Nat.le_max_right _ _

end SecondDisplay.Pacing
