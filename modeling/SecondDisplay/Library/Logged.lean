/-!
# Computations that log and may fail

A computation adds entries to a log and gives a value or stops with a fault; the log keeps what was
added before.  `Passes` says that it gives a value and that every entry of its log satisfies a
predicate.  It is taken apart along the computation (`passes_bind_iff`, `passes_forEach_iff`).
-/

namespace SecondDisplay

/-- A computation that logs entries and gives a value or a fault. -/
structure Logged (ω ε α : Type) where
  log : List ω
  value : Except ε α

namespace Logged

variable {ω ε α β : Type}

/-- A value, and nothing logged. -/
def ok (value : α) : Logged ω ε α := ⟨[], .ok value⟩

/-- A computation behind another one, if that gives a value. -/
def andThen (first : Logged ω ε α) (next : α → Logged ω ε β) : Logged ω ε β :=
  match first.value with
  | .error fault => ⟨first.log, .error fault⟩
  | .ok value => ⟨first.log ++ (next value).log, (next value).value⟩

instance : Monad (Logged ω ε) where
  pure := ok
  bind := andThen

/-- An entry for the log. -/
def tell (entry : ω) : Logged ω ε Unit := ⟨[entry], .ok ()⟩

/-- A value that is there, or a fault. -/
def need (fault : ε) : Option α → Logged ω ε α
  | none => ⟨[], .error fault⟩
  | some value => ok value

/-- All values of a list that are there, or a fault. -/
def needAll (fault : ε) : List (Option α) → Logged ω ε (List α)
  | [] => ok []
  | x :: xs => do
    let value ← need fault x
    let values ← needAll fault xs
    pure (value :: values)

/-- A loop. -/
def forEach : List α → (α → Logged ω ε Unit) → Logged ω ε Unit
  | [], _ => ok ()
  | x :: xs, body => do
    body x
    forEach xs body

/-! ### Passing -/

/-- The computation gives the value, and all that it logs satisfies the predicate. -/
def Passes (p : ω → Bool) (computation : Logged ω ε α) (value : α) : Prop :=
  computation.value = .ok value ∧ ∀ entry ∈ computation.log, p entry = true

variable {p : ω → Bool}

@[simp] theorem passes_pure_iff {x y : α} :
    Passes p (pure x : Logged ω ε α) y ↔ x = y := by
  constructor
  · rintro ⟨hvalue, -⟩
    exact Except.ok.inj hvalue
  · intro h
    refine ⟨congrArg Except.ok h, fun entry hmem => ?_⟩
    cases hmem

@[simp] theorem passes_bind_iff {first : Logged ω ε α} {next : α → Logged ω ε β} {y : β} :
    Passes p (first >>= next) y ↔ ∃ x, Passes p first x ∧ Passes p (next x) y := by
  show Passes p (andThen first next) y ↔ _
  rw [Passes, andThen]
  cases hvalue : first.value with
  | error fault =>
    constructor
    · rintro ⟨hno, -⟩
      cases hno
    · rintro ⟨x, ⟨hx, -⟩, -⟩
      rw [hvalue] at hx
      cases hx
  | ok x =>
    simp only [List.mem_append]
    constructor
    · rintro ⟨hnext, hall⟩
      exact ⟨x, ⟨hvalue, fun entry hmem => hall entry (.inl hmem)⟩, hnext,
        fun entry hmem => hall entry (.inr hmem)⟩
    · rintro ⟨x', ⟨hx', hfirst⟩, hnext, hrest⟩
      obtain rfl : x = x' := Except.ok.inj (hvalue.symm.trans hx')
      refine ⟨hnext, fun entry hmem => ?_⟩
      obtain hmem | hmem := hmem
      · exact hfirst entry hmem
      · exact hrest entry hmem

@[simp] theorem passes_tell_iff {entry : ω} {value : Unit} :
    Passes p (tell entry : Logged ω ε Unit) value ↔ p entry = true := by
  constructor
  · rintro ⟨-, hall⟩
    exact hall entry List.mem_cons_self
  · intro h
    refine ⟨rfl, fun other hmem => ?_⟩
    rwa [List.mem_singleton.1 hmem]

@[simp] theorem passes_need_iff {fault : ε} {x : Option α} {y : α} :
    Passes p (need fault x : Logged ω ε α) y ↔ x = some y := by
  cases x with
  | none =>
    constructor
    · rintro ⟨hvalue, -⟩
      cases hvalue
    · intro h
      cases h
  | some x =>
    show Passes p (pure x : Logged ω ε α) y ↔ _
    rw [passes_pure_iff, Option.some.injEq]

@[simp] theorem passes_needAll_iff {fault : ε} {xs : List (Option α)} {ys : List α} :
    Passes p (needAll fault xs : Logged ω ε (List α)) ys ↔ xs = ys.map some := by
  induction xs generalizing ys with
  | nil =>
    show Passes p (pure [] : Logged ω ε (List α)) ys ↔ _
    rw [passes_pure_iff]
    cases ys with
    | nil => simp
    | cons y ys => simp
  | cons x xs ih =>
    rw [needAll]
    simp only [passes_bind_iff, passes_need_iff, passes_pure_iff, ih]
    constructor
    · rintro ⟨y, rfl, ys, rfl, rfl⟩
      rfl
    · intro h
      obtain ⟨y, ys, rfl, rfl, rfl⟩ := List.map_eq_cons_iff.1 h.symm
      exact ⟨y, rfl, ys, rfl, rfl⟩

@[simp] theorem passes_forEach_iff {xs : List α} {body : α → Logged ω ε Unit} {value : Unit} :
    Passes p (forEach xs body) value ↔ ∀ x ∈ xs, Passes p (body x) () := by
  induction xs with
  | nil =>
    show Passes p (pure () : Logged ω ε Unit) value ↔ _
    rw [passes_pure_iff]
    simp
  | cons x xs ih =>
    rw [forEach, passes_bind_iff, List.forall_mem_cons]
    constructor
    · rintro ⟨⟨⟩, hx, hxs⟩
      exact ⟨hx, ih.1 hxs⟩
    · rintro ⟨hx, hxs⟩
      exact ⟨(), hx, ih.2 hxs⟩

/-! ### What is logged -/

theorem ok_bind (log : List ω) (x : α) (next : α → Logged ω ε β) :
    ((⟨log, .ok x⟩ : Logged ω ε α) >>= next) = ⟨log ++ (next x).log, (next x).value⟩ := rfl

/-- **The log of a loop** whose turns all give a value. -/
theorem forEach_eq {xs : List α} {body : α → Logged ω ε Unit} {logs : α → List ω}
    (h : ∀ x ∈ xs, body x = ⟨logs x, .ok ()⟩) : forEach xs body = ⟨xs.flatMap logs, .ok ()⟩ := by
  induction xs with
  | nil => rfl
  | cons x xs ih =>
    rw [forEach, h x List.mem_cons_self, ok_bind, ih fun y hy => h y (List.mem_cons_of_mem x hy),
      List.flatMap_cons]

/-- A computation stops with a fault only behind an entry that does not satisfy the predicate. -/
def Guarded (p : ω → Bool) (computation : Logged ω ε α) : Prop :=
  (∀ entry ∈ computation.log, p entry = true) → ∃ value, computation.value = .ok value

theorem guarded_ok (log : List ω) (x : α) : Guarded p (⟨log, .ok x⟩ : Logged ω ε α) :=
  fun _ => ⟨x, rfl⟩

theorem Guarded.bind {first : Logged ω ε α} {next : α → Logged ω ε β} (hfirst : Guarded p first)
    (hnext : ∀ x, Guarded p (next x)) : Guarded p (first >>= next) := by
  intro hall
  show ∃ value, (andThen first next).value = .ok value
  change ∀ entry ∈ (andThen first next).log, p entry = true at hall
  rw [andThen] at hall ⊢
  cases hvalue : first.value with
  | error fault =>
    rw [hvalue] at hall
    obtain ⟨x, hx⟩ := hfirst hall
    rw [hvalue] at hx
    cases hx
  | ok x =>
    rw [hvalue] at hall
    exact hnext x fun entry hmem => hall entry (List.mem_append_right _ hmem)

/-- An entry, and a value that is there if the entry satisfies the predicate. -/
theorem guarded_tell_need {entry : ω} {fault : ε} {x : Option α}
    (h : p entry = true → x.isSome = true) :
    Guarded p (tell entry >>= fun _ => need fault x : Logged ω ε α) := by
  intro hall
  obtain ⟨value, rfl⟩ := Option.isSome_iff_exists.1 (h (hall entry List.mem_cons_self))
  exact ⟨value, rfl⟩

theorem guarded_forEach {xs : List α} {body : α → Logged ω ε Unit}
    (h : ∀ x, Guarded p (body x)) : Guarded p (forEach xs body) := by
  induction xs with
  | nil => exact guarded_ok [] ()
  | cons x xs ih => exact (h x).bind fun _ => ih

/-- **All that a guarded computation logs satisfies the predicate** if and only if it passes. -/
theorem Guarded.forall_log_iff {computation : Logged ω ε α} (h : Guarded p computation) :
    (∀ entry ∈ computation.log, p entry = true) ↔ ∃ value, Passes p computation value := by
  constructor
  · intro hall
    obtain ⟨value, hvalue⟩ := h hall
    exact ⟨value, hvalue, hall⟩
  · intro hpasses
    obtain ⟨value, -, hall⟩ := hpasses
    exact hall

end Logged

end SecondDisplay
