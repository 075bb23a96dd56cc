import Mathlib.Data.List.Basic

/-!
# Transition systems

A system is a partial step function: `step s e` is the state after event `e`, or `none` where
`e` cannot happen in state `s`.  A run folds the step over a list of events.  What every step
preserves, every run preserves (`run_invariant`, and `run_history` for what also depends on the
events so far), and a quantity no step changes stays what it was (`run_constant`); one that goes up
where a property fails tells whether the property held along the run (`along_iff_counter`).  An
execution goes on for ever; along it a property ends when a measure goes down as long as it lasts
(`ends_of_descent`).
-/

namespace SecondDisplay.Transitions

variable {σ ε : Type*} (step : σ → ε → Option σ)

/-- The state after a list of events. -/
def run : σ → List ε → Option σ
  | s, [] => some s
  | s, e :: events => (step s e).bind fun s' => run s' events

@[simp] theorem run_nil (s : σ) : run step s [] = some s := rfl

theorem run_cons (s : σ) (e : ε) (events : List ε) :
    run step s (e :: events) = (step s e).bind fun s' => run step s' events := rfl

theorem run_append (s : σ) (xs ys : List ε) :
    run step s (xs ++ ys) = (run step s xs).bind fun s' => run step s' ys := by
  induction xs generalizing s with
  | nil => rfl
  | cons e xs ih =>
    rw [List.cons_append, run_cons, run_cons]
    cases step s e with
    | none => rfl
    | some s' => exact ih s'

variable {step}

/-- Take the first step off a run. -/
theorem run_cons_some {s s'' : σ} {e : ε} {events : List ε} :
    run step s (e :: events) = some s'' ↔
      ∃ s', step s e = some s' ∧ run step s' events = some s'' := by
  rw [run_cons, Option.bind_eq_some_iff]

/-- **Invariant rule.**  A property that every step preserves holds at the end of every run
that starts with it. -/
theorem run_invariant {P : σ → Prop} (preserved : ∀ s e s', P s → step s e = some s' → P s')
    {s s' : σ} {events : List ε} (start : P s) (h : run step s events = some s') : P s' := by
  induction events generalizing s with
  | nil => cases h; exact start
  | cons e events ih =>
    obtain ⟨next, hstep, hrest⟩ := run_cons_some.1 h
    exact ih (preserved s e next start hstep) hrest

/-- **Invariant rule with the history.**  What the empty history starts with, and every step keeps
as it adds its event, holds at the end of every run of that run's events. -/
theorem run_history {P : List ε → σ → Prop} {s s' : σ} {events : List ε} (start : P [] s)
    (preserved : ∀ past s e s', P past s → step s e = some s' → P (past ++ [e]) s')
    (h : run step s events = some s') : P events s' := by
  suffices key : ∀ past, P past s → P (past ++ events) s' from key [] start
  clear start
  induction events generalizing s with
  | nil =>
    intro past hpast
    cases h
    rwa [List.append_nil]
  | cons e events ih =>
    intro past hpast
    obtain ⟨next, hstep, hrest⟩ := run_cons_some.1 h
    have hrun := ih hrest (past ++ [e]) (preserved past s e next hpast hstep)
    rwa [List.append_assoc] at hrun

/-- **Frame rule.**  Under an invariant that keeps every step from changing `f`, no run
changes it. -/
theorem run_constant {P : σ → Prop} {β : Type*} {f : σ → β}
    (preserved : ∀ s e s', P s → step s e = some s' → P s' ∧ f s' = f s)
    {s s' : σ} {events : List ε} (start : P s) (h : run step s events = some s') :
    f s' = f s := by
  have key : P s' ∧ f s' = f s :=
    run_invariant (P := fun x => P x ∧ f x = f s)
      (fun x e x' hx hstep =>
        ⟨(preserved x e x' hx.1 hstep).1, (preserved x e x' hx.1 hstep).2.trans hx.2⟩)
      ⟨start, rfl⟩ h
  exact key.2

/-! ### What holds along a run -/

variable (step) in
/-- A property of every state that a list of events leads through and of the event there. -/
def Along (P : σ → ε → Prop) : σ → List ε → Prop
  | _, [] => True
  | s, e :: events => P s e ∧ ∀ s', step s e = some s' → Along P s' events

instance decidableAlong {P : σ → ε → Prop} [∀ s e, Decidable (P s e)] :
    ∀ s events, Decidable (Along step P s events)
  | _, [] => inferInstanceAs (Decidable True)
  | s, e :: events =>
    have : DecidablePred fun s' => Along step P s' events := fun s' => decidableAlong s' events
    have := Option.decidableForallMem (p := fun s' => Along step P s' events) (step s e)
    inferInstanceAs (Decidable (P s e ∧ ∀ s' ∈ step s e, Along step P s' events))

/-- Two properties along the same run. -/
theorem Along.and {P Q : σ → ε → Prop} {s : σ} {events : List ε} (hp : Along step P s events)
    (hq : Along step Q s events) : Along step (fun s e => P s e ∧ Q s e) s events := by
  induction events generalizing s with
  | nil => exact trivial
  | cons e events ih =>
    exact ⟨⟨hp.1, hq.1⟩, fun s' hstep => ih (hp.2 s' hstep) (hq.2 s' hstep)⟩

/-- **Conditional invariant rule.**  What the steps keep that have a property holds at the end of
every run along which they have it. -/
theorem along_invariant {I : σ → Prop} {P : σ → ε → Prop}
    (preserved : ∀ s e s', I s → P s e → step s e = some s' → I s') {s s' : σ} {events : List ε}
    (start : I s) (along : Along step P s events) (h : run step s events = some s') : I s' := by
  induction events generalizing s with
  | nil => cases h; exact start
  | cons e events ih =>
    obtain ⟨next, hstep, hrest⟩ := run_cons_some.1 h
    exact ih (preserved s e next start along.1 hstep) (along.2 next hstep) hrest

/-- **Comparison rule.**  Two properties that agree under an invariant, which either of them makes
the steps keep, hold along the same runs. -/
theorem along_iff {I : σ → Prop} {P Q : σ → ε → Prop} (same : ∀ s e, I s → (P s e ↔ Q s e))
    (preserved : ∀ s e s', I s → P s e → step s e = some s' → I s') {s : σ} {events : List ε}
    (start : I s) : Along step P s events ↔ Along step Q s events := by
  induction events generalizing s with
  | nil => exact Iff.rfl
  | cons e events ih =>
    constructor
    · rintro ⟨hp, hrest⟩
      refine ⟨(same s e start).1 hp, fun s' hstep => ?_⟩
      exact (ih (preserved s e s' start hp hstep)).1 (hrest s' hstep)
    · rintro ⟨hq, hrest⟩
      have hp := (same s e start).2 hq
      refine ⟨hp, fun s' hstep => ?_⟩
      exact (ih (preserved s e s' start hp hstep)).2 (hrest s' hstep)

/-- **Counting rule.**  A quantity that goes up at the steps without a property, and stays what it
was at the others, has stayed what it was exactly along the runs that have the property. -/
theorem along_iff_counter {I : σ → Prop} {P : σ → ε → Prop} {f : σ → Int}
    (counted : ∀ s e s', I s → step s e = some s' →
      I s' ∧ (P s e ∧ f s' = f s ∨ ¬P s e ∧ f s < f s'))
    {s s' : σ} {events : List ε} (start : I s) (h : run step s events = some s') :
    f s ≤ f s' ∧ (f s' = f s ↔ Along step P s events) := by
  induction events generalizing s with
  | nil =>
    cases h
    exact ⟨Int.le_refl _, fun _ => trivial, fun _ => rfl⟩
  | cons e events ih =>
    obtain ⟨next, hstep, hrest⟩ := run_cons_some.1 h
    obtain ⟨hnext, hstays | hgoes⟩ := counted s e next start hstep
    · obtain ⟨hle, hiff⟩ := ih hnext hrest
      rw [hstays.2] at hle hiff
      refine ⟨hle, fun hsame => ⟨hstays.1, fun s'' hs'' => ?_⟩, fun halong => ?_⟩
      · cases hstep.symm.trans hs''
        exact hiff.1 hsame
      · exact hiff.2 (halong.2 next hstep)
    · have hlt := Int.lt_of_lt_of_le hgoes.2 (ih hnext hrest).1
      exact ⟨Int.le_of_lt hlt, fun hsame => absurd hsame (Int.ne_of_gt hlt),
        fun halong => absurd halong.1 hgoes.1⟩

/-! ### Executions -/

variable (step) in
/-- A run that goes on for ever. -/
structure Execution where
  state : ℕ → σ
  event : ℕ → ε
  next : ∀ n, step (state n) (event n) = some (state (n + 1))

/-- **Invariant rule for executions.** -/
theorem Execution.invariant (x : Execution step) {P : σ → Prop}
    (preserved : ∀ s e s', P s → step s e = some s' → P s') (start : P (x.state 0)) (n : ℕ) :
    P (x.state n) := by
  induction n with
  | zero => exact start
  | succ n ih => exact preserved _ _ _ ih (x.next n)

/-- **Descent.**  If a property either ends or sees a measure go down, it ends. -/
theorem ends_of_descent {P : ℕ → Prop} (μ : ℕ → ℕ)
    (descent : ∀ n, P n → ∃ m, n ≤ m ∧ (¬P m ∨ μ m < μ n)) (n : ℕ) :
    ∃ m, n ≤ m ∧ ¬P m := by
  induction hμ : μ n using Nat.strongRecOn generalizing n with
  | ind k ih =>
    by_cases hn : P n
    · obtain ⟨m, hnm, hend | hless⟩ := descent n hn
      · exact ⟨m, hnm, hend⟩
      · obtain ⟨l, hml, hl⟩ := ih (μ m) (hμ ▸ hless) m rfl
        exact ⟨l, Nat.le_trans hnm hml, hl⟩
    · exact ⟨n, Nat.le_refl n, hn⟩

end SecondDisplay.Transitions
