import SecondDisplay.Library.Access
import Mathlib.Data.List.Basic

/-!
# Changing a buffer in place

A step takes a buffer to the next one or stops with a fault.  A *patch* tells which cells a step
changes, and by which functions; all other cells are left alone.  Patches of disjoint cells add up
along a sequence and along a loop (`Patches.andThen`, `Patches.loop`, `Patches.grid`), so that the
effect of nested loops that visit every cell at most once is read off from one turn.  `Avoids` is
for the faults alone: a loop avoids what each turn avoids.
-/

namespace SecondDisplay.InPlace

open Access (ok_bind)

variable {α β ε : Type}

/-- A step on a buffer. -/
abbrev Step (ε α : Type) := List α → Except ε (List α)

/-- The element at an index. -/
def read (fault : ε) (xs : List α) (pos : Nat) : Except ε α :=
  match xs[pos]? with
  | some x => .ok x
  | none => .error fault

/-- The element at an index is changed. -/
def change (fault : ε) (pos : Nat) (f : α → α) : Step ε α := fun xs =>
  if pos < xs.length then .ok (xs.modify pos f) else .error fault

/-- One step for each of a list. -/
def forEach {ι : Type} : List ι → (ι → Step ε α) → Step ε α
  | [], _ => fun xs => .ok xs
  | i :: is, turn => fun xs => turn i xs >>= forEach is turn

/-- A loop from 0 up to a bound. -/
def loop (bound : Nat) (turn : Nat → Step ε α) : Step ε α := forEach (List.range bound) turn

/-- A loop over the rows of a rectangle, with a loop over the columns inside. -/
def grid (width height : Nat) (turn : Nat → Nat → Step ε α) : Step ε α :=
  loop height fun y => loop width fun x => turn x y

theorem read_of_lt (fault : ε) {xs : List α} {pos : Nat} (h : pos < xs.length) :
    read fault xs pos = .ok xs[pos] := by
  rw [read, List.getElem?_eq_getElem h]

/-! ### Patches -/

/-- Cells, each with the function that it is changed by. -/
abbrev Patch (α : Type) := Nat → (α → α) → Prop

/-- The cells of two patches are different ones. -/
def Apart (p q : Patch α) : Prop := ∀ k f g, p k f → ¬q k g

/-- On every buffer of the size the step succeeds, keeps the size, changes the cells of the patch
as it says and leaves the others alone. -/
def Patches (size : Nat) (step : Step ε α) (patch : Patch α) : Prop :=
  ∀ xs, xs.length = size → ∃ ys, step xs = .ok ys ∧ ys.length = size ∧
    (∀ k f, patch k f → ys[k]? = xs[k]?.map f) ∧ ∀ k, (∀ f, ¬patch k f) → ys[k]? = xs[k]?

variable {size : Nat} {step step' : Step ε α} {p q : Patch α}

/-- A step that does nothing has any patch that changes nothing. -/
theorem patches_skip (h : ∀ k f, p k f → f = id) :
    Patches size (fun xs => .ok xs : Step ε α) p := by
  intro xs hsize
  refine ⟨xs, rfl, hsize, fun k f hpatch => ?_, fun k _ => rfl⟩
  rw [h k f hpatch, Option.map_id, id]

/-- A change of one cell. -/
theorem patches_change (fault : ε) {pos : Nat} (hpos : pos < size) (f : α → α) :
    Patches size (change fault pos f) fun k g => k = pos ∧ g = f := by
  intro xs hsize
  refine ⟨xs.modify pos f, if_pos (hsize ▸ hpos), ?_, ?_, ?_⟩
  · rw [List.length_modify, hsize]
  · intro k g h
    obtain ⟨rfl, rfl⟩ := h
    rw [List.getElem?_modify]
    simp only [if_true, Option.map_eq_map]
  · intro k hk
    have hne : pos ≠ k := fun heq => hk f ⟨heq.symm, rfl⟩
    rw [List.getElem?_modify]
    simp only [if_neg hne, Option.map_eq_map, Option.map_id']

theorem Patches.congr (h : Patches size step p) (same : ∀ k f, p k f ↔ q k f) :
    Patches size step q := by
  have hpq : p = q := funext fun k => funext fun f => propext (same k f)
  exact hpq ▸ h

/-- **Two steps that change different cells** have both patches. -/
theorem Patches.andThen (first : Patches size step p) (second : Patches size step' q)
    (apart : Apart p q) :
    Patches size (fun xs => step xs >>= step') fun k f => p k f ∨ q k f := by
  intro xs hxs
  obtain ⟨ys, hstep, hys, hchanged, hkept⟩ := first xs hxs
  obtain ⟨zs, hstep', hzs, hchanged', hkept'⟩ := second ys hys
  refine ⟨zs, ?_, hzs, ?_, ?_⟩
  · show step xs >>= step' = .ok zs
    rw [hstep, ok_bind, hstep']
  · intro k f h
    obtain h | h := h
    · rw [hkept' k fun g => apart k f g h, hchanged k f h]
    · rw [hchanged' k f h, hkept k fun g hp => apart k g f hp h]
  · intro k h
    rw [hkept' k fun f hq => h f (.inr hq), hkept k fun f hp => h f (.inl hp)]

/-- **Steps that change different cells one after the other.** -/
theorem patches_forEach {ι : Type} {turn : ι → Step ε α} {patch : ι → Patch α} {is : List ι}
    (turns : ∀ i ∈ is, Patches size (turn i) (patch i))
    (apart : is.Pairwise fun i j => Apart (patch i) (patch j)) :
    Patches size (forEach is turn) fun k f => ∃ i ∈ is, patch i k f := by
  induction is with
  | nil =>
    refine patches_skip fun k f h => ?_
    obtain ⟨i, hi, -⟩ := h
    cases hi
  | cons i is ih =>
    obtain ⟨hfirst, hrest⟩ := List.pairwise_cons.1 apart
    have hhead := turns i List.mem_cons_self
    have htail := ih (fun j hj => turns j (List.mem_cons_of_mem i hj)) hrest
    have happart : Apart (patch i) fun k f => ∃ j ∈ is, patch j k f := by
      intro k f g hf hg
      obtain ⟨j, hj, hg⟩ := hg
      exact hfirst j hj k f g hf hg
    refine (hhead.andThen htail happart).congr fun k f => ?_
    simp only [List.mem_cons, exists_eq_or_imp]

/-- **A loop whose turns change different cells.** -/
theorem Patches.loop {bound : Nat} {turn : Nat → Step ε α} {patch : Nat → Patch α}
    (turns : ∀ i, i < bound → Patches size (turn i) (patch i))
    (apart : ∀ i j, i < bound → j < bound → i ≠ j → Apart (patch i) (patch j)) :
    Patches size (loop bound turn) fun k f => ∃ i, i < bound ∧ patch i k f := by
  have hpairwise : (List.range bound).Pairwise fun i j => Apart (patch i) (patch j) := by
    refine List.nodup_range.imp_of_mem fun {i j} hi hj hne => ?_
    exact apart i j (List.mem_range.1 hi) (List.mem_range.1 hj) hne
  refine (patches_forEach (fun i hi => turns i (List.mem_range.1 hi)) hpairwise).congr
    fun k f => ?_
  simp only [List.mem_range]

/-- **Nested loops whose turns change different cells.** -/
theorem Patches.grid {width height : Nat} {turn : Nat → Nat → Step ε α}
    {patch : Nat → Nat → Patch α}
    (turns : ∀ x y, x < width → y < height → Patches size (turn x y) (patch x y))
    (apart : ∀ x y x' y', x < width → y < height → x' < width → y' < height →
      (x, y) ≠ (x', y') → Apart (patch x y) (patch x' y')) :
    Patches size (grid width height turn)
      fun k f => ∃ y, y < height ∧ ∃ x, x < width ∧ patch x y k f := by
  refine Patches.loop (fun y hy => Patches.loop (fun x hx => turns x y hx hy) ?_) ?_
  · intro x x' hx hx' hne
    exact apart x y x' y hx hy hx' hy fun h => hne (congrArg Prod.fst h)
  · intro y y' hy hy' hne k f g hf hg
    obtain ⟨x, hx, hf⟩ := hf
    obtain ⟨x', hx', hg⟩ := hg
    exact apart x y x' y' hx hy hx' hy' (fun h => hne (congrArg Prod.snd h)) k f g hf hg

/-- Two cells of a table with rows of `stride` cells are the same only in the same row and
column. -/
theorem row_column {stride row row' column column' : Nat} (hcolumn : column < stride)
    (hcolumn' : column' < stride) (h : row * stride + column = row' * stride + column') :
    row = row' ∧ column = column' := by
  have hrow : row = row' := by
    have hdiv := congrArg (· / stride) h
    have hpos : 0 < stride := by omega
    simpa [Nat.add_comm, Nat.add_mul_div_right _ _ hpos, Nat.div_eq_of_lt hcolumn,
      Nat.div_eq_of_lt hcolumn'] using hdiv
  subst hrow
  exact ⟨rfl, Nat.add_left_cancel h⟩

/-! ### Faults -/

/-- A computation does not stop with a fault of this kind. -/
def Avoids (bad : ε → Prop) (computation : Except ε β) : Prop :=
  ∀ fault, computation = .error fault → ¬bad fault

variable {bad : ε → Prop}

theorem avoids_ok (x : β) : Avoids bad (.ok x : Except ε β) := by
  intro fault h
  cases h

theorem avoids_error {fault : ε} (h : ¬bad fault) : Avoids bad (.error fault : Except ε β) := by
  intro other heq
  cases heq
  exact h

theorem Avoids.bind {γ : Type} {first : Except ε β} {next : β → Except ε γ}
    (hfirst : Avoids bad first) (hnext : ∀ x, Avoids bad (next x)) :
    Avoids bad (first >>= next) := by
  cases first with
  | error fault =>
    intro other h
    cases h
    exact hfirst fault rfl
  | ok x => exact hnext x

theorem avoids_change {fault : ε} (h : ¬bad fault) (pos : Nat) (f : α → α) (xs : List α) :
    Avoids bad (change fault pos f xs) := by
  rw [change]
  split
  · exact avoids_ok _
  · exact avoids_error h

/-- **A loop avoids what its turns avoid.** -/
theorem avoids_loop {bound : Nat} {turn : Nat → Step ε α}
    (turns : ∀ i, i < bound → ∀ xs, Avoids bad (turn i xs)) (xs : List α) :
    Avoids bad (loop bound turn xs) := by
  suffices key : ∀ is : List Nat, (∀ i ∈ is, ∀ xs, Avoids bad (turn i xs)) →
      ∀ xs, Avoids bad (forEach is turn xs) from
    key _ (fun i hi => turns i (List.mem_range.1 hi)) xs
  intro is
  induction is with
  | nil => exact fun _ xs => avoids_ok xs
  | cons i is ih =>
    intro hall xs
    exact (hall i List.mem_cons_self xs).bind
      (ih fun j hj => hall j (List.mem_cons_of_mem i hj))

theorem avoids_grid {width height : Nat} {turn : Nat → Nat → Step ε α}
    (turns : ∀ x y, x < width → y < height → ∀ xs, Avoids bad (turn x y xs)) (xs : List α) :
    Avoids bad (grid width height turn xs) :=
  avoids_loop (fun y hy => avoids_loop fun x hx => turns x y hx hy) xs

end SecondDisplay.InPlace
