import Mathlib.Data.List.Basic

/-!
# Logs of events

A log grows at its end.  What an event may depend on is what stands before it: a log is legal if
every event in it is allowed there, and it stays legal as long as what is added is allowed behind
all of it (`Legal.append`).
-/

namespace SecondDisplay.EventLog

variable {ε : Type*} {log : List ε} {e : ε}

/-- The last event of a kind. -/
def lastOf (kind : ε → Bool) (log : List ε) : Option ε := (log.filter kind).getLast?

theorem lastOf_append (kind : ε → Bool) (log : List ε) (e : ε) :
    lastOf kind (log ++ [e]) = if kind e then some e else lastOf kind log := by
  cases hkind : kind e with
  | true => simp [lastOf, hkind]
  | false => simp [lastOf, hkind]

/-- Every event of a log is allowed behind what stands before it. -/
def Legal (allowed : List ε → ε → Prop) (log : List ε) : Prop :=
  ∀ before e after, log = before ++ e :: after → allowed before e

variable {allowed : List ε → ε → Prop}

theorem legal_nil : Legal allowed [] := by
  intro before e after h
  cases before with
  | nil => cases h
  | cons x before => cases h

/-- **A legal log is continued** by an event that is allowed behind it. -/
theorem Legal.append (legal : Legal allowed log) (he : allowed log e) :
    Legal allowed (log ++ [e]) := by
  intro before other after h
  cases List.eq_nil_or_concat after with
  | inl hnil =>
    rw [hnil] at h
    obtain ⟨rfl, hlast⟩ := List.append_inj' h rfl
    rwa [← List.singleton_inj.1 hlast]
  | inr hmore =>
    obtain ⟨after, last, rfl⟩ := hmore
    rw [List.concat_eq_append, ← List.cons_append, ← List.append_assoc] at h
    exact legal before other after (List.append_inj_left' h rfl)

end SecondDisplay.EventLog
