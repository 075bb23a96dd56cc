import Mathlib.Data.List.Basic

/-!
# Readers that consume their input

A reader has a state of which some input is still ahead, and may stop with a fault.  It `Consumes`
an input with a value if, whenever that input is ahead, it gives the value and leaves what follows.
Readers one after the other consume their inputs one after the other (`Consumes.bind`).
-/

namespace SecondDisplay

variable {σ β ε α γ : Type} {ahead : σ → List β}

/-- The reader takes this input and gives this value. -/
def Consumes (ahead : σ → List β) (reader : StateT σ (Except ε) α) (input : List β) (value : α) :
    Prop :=
  ∀ state rest, ahead state = input ++ rest →
    ∃ next, reader state = .ok (value, next) ∧ ahead next = rest

namespace Consumes

variable {reader : StateT σ (Except ε) α} {next : α → StateT σ (Except ε) γ}
  {input input' : List β} {value : α} {value' : γ}

theorem pure (value : α) : Consumes ahead (Pure.pure value : StateT σ (Except ε) α) [] value :=
  fun state _ h => ⟨state, rfl, h⟩

/-- **Readers one after the other.** -/
theorem bind (h : Consumes ahead reader input value)
    (hnext : Consumes ahead (next value) input' value') :
    Consumes ahead (reader >>= next) (input ++ input') value' := by
  intro state rest hahead
  rw [List.append_assoc] at hahead
  obtain ⟨middle, hreader, hmiddle⟩ := h state (input' ++ rest) hahead
  obtain ⟨last, hlast, hrest⟩ := hnext middle rest hmiddle
  refine ⟨last, ?_, hrest⟩
  show (reader state >>= fun result => next result.1 result.2) = _
  rw [hreader]
  exact hlast

/-- A reader that needs no input in front of another one. -/
theorem bind_nil (h : Consumes ahead reader [] value)
    (hnext : Consumes ahead (next value) input' value') :
    Consumes ahead (reader >>= next) input' value' :=
  h.bind hnext

/-- A reader, and what is made of its value. -/
theorem map {f : α → γ} (h : Consumes ahead reader input value) :
    Consumes ahead (reader >>= fun x => Pure.pure (f x)) input (f value) := by
  have hbind : Consumes ahead (reader >>= fun x => Pure.pure (f x)) (input ++ []) (f value) :=
    h.bind (Consumes.pure (f value))
  rwa [List.append_nil] at hbind

/-- The value of a reader with the input ahead. -/
theorem run_value {state : σ} {rest : List β} (h : Consumes ahead reader input value)
    (hahead : ahead state = input ++ rest) : (reader state).map Prod.fst = .ok value := by
  obtain ⟨next, hreader, -⟩ := h state rest hahead
  rw [hreader]
  rfl

end Consumes

end SecondDisplay
