/-!
# Checked access to a sequence

An index has to be below the size of what it reads, the offset of a cut-out may be at most the
size, and a range that is copied has to end inside.  `get`, `substr` and `slice` fail where a
program would step outside, so that a program written with them returns a value exactly if it never
does.  The lemmas say when an access succeeds, and `skipWhile` is the loop that moves an index on
behind a guard.
-/

namespace SecondDisplay.Access

variable {α : Type}

/-- The two ways to step outside. -/
inductive Fault where
  | index (pos size : Nat)
  | offset (pos size : Nat)
deriving DecidableEq, Repr

/-- A computation whose accesses are checked. -/
abbrev Checked := Except Fault

/-- The element at an index. -/
def get (xs : List α) (pos : Nat) : Checked α :=
  if h : pos < xs.length then .ok xs[pos] else .error (.index pos xs.length)

/-- At most `count` elements from an offset on. -/
def substr (xs : List α) (pos count : Nat) : Checked (List α) :=
  if pos ≤ xs.length then .ok ((xs.drop pos).take count) else .error (.offset pos xs.length)

/-- The `count` elements from an index on. -/
def slice (xs : List α) (pos count : Nat) : Checked (List α) :=
  if pos + count ≤ xs.length then .ok ((xs.drop pos).take count)
  else .error (.index (pos + count) xs.length)

/-- Move `pos` on while it is inside and the element there satisfies `p`. -/
def skipWhile (p : α → Bool) (xs : List α) (pos : Nat) : Checked Nat :=
  if h : pos < xs.length then do
    let x ← get xs pos
    if p x then skipWhile p xs (pos + 1) else pure pos
  else pure pos
termination_by xs.length - pos

theorem get_of_lt {xs : List α} {pos : Nat} (h : pos < xs.length) : get xs pos = .ok xs[pos] :=
  dif_pos h

theorem substr_of_le {xs : List α} {pos : Nat} (h : pos ≤ xs.length) (count : Nat) :
    substr xs pos count = .ok ((xs.drop pos).take count) := if_pos h

theorem slice_of_le {xs : List α} {pos count : Nat} (h : pos + count ≤ xs.length) :
    slice xs pos count = .ok ((xs.drop pos).take count) := if_pos h

/-- A value that was computed is handed on. -/
theorem ok_bind {ε β : Type} (x : α) (f : α → Except ε β) :
    ((Except.ok x : Except ε α) >>= f) = f x := rfl

theorem pure_eq (x : α) : (pure x : Checked α) = .ok x := rfl

/-- A loop over a list never steps outside if no turn does. -/
theorem mapM_ok {β : Type} {f : α → Checked β} {g : α → β} {xs : List α}
    (h : ∀ x ∈ xs, f x = .ok (g x)) : xs.mapM f = .ok (xs.map g) := by
  induction xs with
  | nil => rfl
  | cons x xs ih =>
    rw [List.mapM_cons, h x List.mem_cons_self, ok_bind,
      ih fun y hy => h y (List.mem_cons_of_mem x hy), ok_bind, pure_eq, List.map_cons]

end SecondDisplay.Access
