import Mathlib.Data.List.Basic
import Mathlib.Tactic.Common

/-!
# Searching a text

`find` and `rfind` give the first position of a pattern from a position on, and the last one up to a
position.  A text that is cut before every marker has the patterns that begin with the marker only
at its cuts (`occursAt_cut`), so a search there goes from chunk to chunk.
-/

namespace SecondDisplay.Search

variable {α : Type} {pattern text : List α} {start pos : Nat}

/-! ### Occurrences -/

/-- The pattern stands at a position of the text. -/
def OccursAt (pattern text : List α) (pos : Nat) : Prop := pattern <+: text.drop pos

theorem OccursAt.lt_length (h : OccursAt pattern text pos) (hne : pattern ≠ []) :
    pos < text.length := by
  by_contra hge
  rw [OccursAt, List.drop_eq_nil_of_le (Nat.le_of_not_lt hge)] at h
  exact hne (List.prefix_nil.1 h)

theorem occursAt_append {before : List α} :
    OccursAt pattern (before ++ text) (before.length + pos) ↔ OccursAt pattern text pos := by
  rw [OccursAt, OccursAt, ← List.drop_drop, List.drop_left]

variable [DecidableEq α]

instance decidableOccursAt : Decidable (OccursAt pattern text pos) :=
  inferInstanceAs (Decidable (pattern <+: text.drop pos))

/-! ### Searching forwards -/

/-- The first position of the pattern. -/
def first (pattern : List α) : List α → Option Nat
  | [] => if pattern = [] then some 0 else none
  | x :: text => if pattern <+: x :: text then some 0 else (first pattern text).map (· + 1)

/-- The first position of the pattern from `start` on. -/
def find (pattern text : List α) (start : Nat) : Option Nat :=
  (first pattern (text.drop start)).map (· + start)

theorem first_eq_some (h : first pattern text = some pos) :
    OccursAt pattern text pos ∧ ∀ before, before < pos → ¬OccursAt pattern text before := by
  induction text generalizing pos with
  | nil =>
    rw [first] at h
    split at h
    · rename_i hnil
      obtain rfl := Option.some.inj h
      exact ⟨by rw [hnil]; exact List.nil_prefix, fun before hlt => absurd hlt (Nat.not_lt_zero _)⟩
    · cases h
  | cons x text ih =>
    rw [first] at h
    split at h
    · rename_i hhere
      obtain rfl := Option.some.inj h
      exact ⟨hhere, fun before hlt => absurd hlt (Nat.not_lt_zero _)⟩
    · rename_i hnot
      obtain ⟨later, hlater, rfl⟩ := Option.map_eq_some_iff.1 h
      obtain ⟨hoccurs, hleast⟩ := ih hlater
      refine ⟨hoccurs, fun before hlt => ?_⟩
      cases before with
      | zero => exact hnot
      | succ before => exact hleast before (Nat.lt_of_succ_lt_succ hlt)

theorem first_eq_none (h : first pattern text = none) (before : Nat) :
    ¬OccursAt pattern text before := by
  induction text generalizing before with
  | nil =>
    rw [first] at h
    split at h
    · cases h
    · rename_i hne
      intro hoccurs
      rw [OccursAt, List.drop_nil, List.prefix_nil] at hoccurs
      exact hne hoccurs
  | cons x text ih =>
    rw [first] at h
    split at h
    · cases h
    · rename_i hnot
      cases before with
      | zero => exact hnot
      | succ before => exact ih (Option.map_eq_none_iff.1 h) before

/-- **What `find` gives.** -/
theorem find_eq_some_iff : find pattern text start = some pos ↔
    start ≤ pos ∧ OccursAt pattern text pos ∧
      ∀ before, start ≤ before → before < pos → ¬OccursAt pattern text before := by
  have shift (before : Nat) : OccursAt pattern (text.drop start) before ↔
      OccursAt pattern text (before + start) := by
    rw [OccursAt, OccursAt, List.drop_drop, Nat.add_comm]
  constructor
  · intro h
    obtain ⟨later, hlater, rfl⟩ := Option.map_eq_some_iff.1 h
    obtain ⟨hoccurs, hleast⟩ := first_eq_some hlater
    refine ⟨Nat.le_add_left .., (shift later).1 hoccurs, fun before hle hlt hbefore => ?_⟩
    obtain ⟨k, rfl⟩ := Nat.exists_eq_add_of_le hle
    rw [Nat.add_comm] at hbefore
    exact hleast k (by omega) ((shift k).2 hbefore)
  · rintro ⟨hle, hoccurs, hleast⟩
    obtain ⟨k, rfl⟩ := Nat.exists_eq_add_of_le hle
    rw [find]
    cases hfirst : first pattern (text.drop start) with
    | none =>
      rw [Nat.add_comm] at hoccurs
      exact absurd ((shift k).2 hoccurs) (first_eq_none hfirst k)
    | some later =>
      obtain ⟨hlater, hmin⟩ := first_eq_some hfirst
      rw [Nat.add_comm] at hoccurs
      have hge : later ≤ k := Nat.le_of_not_lt fun hlt => hmin k hlt ((shift k).2 hoccurs)
      have hnot : ¬later + start < start + k := fun hlt =>
        hleast (later + start) (Nat.le_add_left ..) hlt ((shift later).1 hlater)
      rw [Option.map_some]
      congr 1
      omega

theorem find_eq_none_iff : find pattern text start = none ↔
    ∀ pos, start ≤ pos → ¬OccursAt pattern text pos := by
  constructor
  · intro h pos hle hoccurs
    obtain ⟨k, rfl⟩ := Nat.exists_eq_add_of_le hle
    refine first_eq_none (Option.map_eq_none_iff.1 h) k ?_
    rw [OccursAt, List.drop_drop]
    exact hoccurs
  · intro h
    cases hfind : find pattern text start with
    | none => rfl
    | some pos =>
      obtain ⟨hle, hoccurs, -⟩ := find_eq_some_iff.1 hfind
      exact absurd hoccurs (h pos hle)

theorem find_of_not_mem {x : α} (h : x ∉ text.drop start) : find [x] text start = none := by
  refine find_eq_none_iff.2 fun pos hle hoccurs => h ?_
  obtain ⟨k, rfl⟩ := Nat.exists_eq_add_of_le hle
  rw [OccursAt, ← List.drop_drop] at hoccurs
  exact List.mem_of_mem_drop (hoccurs.subset List.mem_cons_self)

/-- The first element of its kind. -/
theorem find_single {x : α} {left right : List α} (h : text.drop start = left ++ x :: right)
    (hx : x ∉ left) : find [x] text start = some (start + left.length) := by
  have atElement (k : Nat) : OccursAt [x] text (start + k) ↔ (left ++ x :: right)[k]? = some x := by
    rw [OccursAt, ← List.drop_drop, h]
    constructor
    · rintro ⟨rest, hrest⟩
      have hget := congrArg (fun list => list[0]?) hrest
      rw [List.getElem?_drop] at hget
      exact hget.symm
    · intro hget
      obtain ⟨hk, hget⟩ := List.getElem?_eq_some_iff.1 hget
      rw [List.drop_eq_getElem_cons hk, hget]
      exact ⟨_, rfl⟩
  refine find_eq_some_iff.2 ⟨Nat.le_add_right .., ?_, fun before hle hlt hoccurs => ?_⟩
  · rw [atElement, List.getElem?_append_right (Nat.le_refl _), Nat.sub_self]
    rfl
  · obtain ⟨k, rfl⟩ := Nat.exists_eq_add_of_le hle
    have hk : k < left.length := Nat.lt_of_add_lt_add_left hlt
    rw [atElement, List.getElem?_append_left hk, List.getElem?_eq_some_iff] at hoccurs
    obtain ⟨hk, hget⟩ := hoccurs
    exact hx (hget ▸ List.getElem_mem hk)

/-! ### Searching backwards -/

/-- The last position of the pattern up to `start`. -/
def rfind (pattern : List α) : List α → Nat → Option Nat
  | text, 0 => if pattern <+: text then some 0 else none
  | [], _ + 1 => if pattern = [] then some 0 else none
  | x :: text, start + 1 =>
    match rfind pattern text start with
    | some pos => some (pos + 1)
    | none => if pattern <+: x :: text then some 0 else none

theorem rfind_eq_none (hne : pattern ≠ []) (h : rfind pattern text start = none) (pos : Nat)
    (hle : pos ≤ start) : ¬OccursAt pattern text pos := by
  induction start generalizing text pos with
  | zero =>
    obtain rfl := Nat.le_zero.1 hle
    rw [rfind] at h
    split at h
    · cases h
    · rename_i hnot
      exact hnot
  | succ start ih =>
    cases text with
    | nil =>
      intro hoccurs
      rw [OccursAt, List.drop_nil, List.prefix_nil] at hoccurs
      exact hne hoccurs
    | cons x text =>
      rw [rfind] at h
      split at h
      · cases h
      · rename_i hnone
        split at h
        · cases h
        · rename_i hnot
          cases pos with
          | zero => exact hnot
          | succ pos => exact ih hnone pos (Nat.le_of_succ_le_succ hle)

theorem rfind_eq_some (hne : pattern ≠ []) (h : rfind pattern text start = some pos) :
    pos ≤ start ∧ OccursAt pattern text pos ∧
      ∀ later, pos < later → later ≤ start → ¬OccursAt pattern text later := by
  induction start generalizing text pos with
  | zero =>
    rw [rfind] at h
    split at h
    · rename_i hhere
      obtain rfl := Option.some.inj h
      exact ⟨Nat.le_refl 0, hhere, fun later hlt hle => absurd (Nat.lt_of_lt_of_le hlt hle)
        (Nat.lt_irrefl 0)⟩
    · cases h
  | succ start ih =>
    cases text with
    | nil =>
      rw [rfind, if_neg hne] at h
      cases h
    | cons x text =>
      rw [rfind] at h
      split at h
      · rename_i inner hinner
        obtain rfl := Option.some.inj h
        obtain ⟨hle, hoccurs, hlast⟩ := ih hinner
        refine ⟨Nat.succ_le_succ hle, hoccurs, fun later hlt hle' => ?_⟩
        cases later with
        | zero => exact absurd hlt (Nat.not_lt_zero _)
        | succ later =>
          exact hlast later (Nat.lt_of_succ_lt_succ hlt) (Nat.le_of_succ_le_succ hle')
      · rename_i hnone
        split at h
        · rename_i hhere
          obtain rfl := Option.some.inj h
          refine ⟨Nat.zero_le _, hhere, fun later hlt hle => ?_⟩
          cases later with
          | zero => exact absurd hlt (Nat.lt_irrefl 0)
          | succ later => exact rfind_eq_none hne hnone later (Nat.le_of_succ_le_succ hle)
        · cases h

/-- **What `rfind` gives.** -/
theorem rfind_eq_some_iff (hne : pattern ≠ []) : rfind pattern text start = some pos ↔
    pos ≤ start ∧ OccursAt pattern text pos ∧
      ∀ later, pos < later → later ≤ start → ¬OccursAt pattern text later := by
  refine ⟨rfind_eq_some hne, ?_⟩
  rintro ⟨hle, hoccurs, hlast⟩
  cases hfind : rfind pattern text start with
  | none => exact absurd hoccurs (rfind_eq_none hne hfind pos hle)
  | some other =>
    obtain ⟨hle', hoccurs', hlast'⟩ := rfind_eq_some hne hfind
    have hge : ¬pos < other := fun hlt => hlast other hlt hle' hoccurs'
    have hle'' : ¬other < pos := fun hlt => hlast' pos hlt hle hoccurs
    congr 1
    omega

theorem rfind_eq_none_iff (hne : pattern ≠ []) : rfind pattern text start = none ↔
    ∀ pos, pos ≤ start → ¬OccursAt pattern text pos := by
  refine ⟨rfind_eq_none hne, fun h => ?_⟩
  cases hfind : rfind pattern text start with
  | none => rfl
  | some pos =>
    obtain ⟨hle, hoccurs, -⟩ := rfind_eq_some hne hfind
    exact absurd hoccurs (h pos hle)

/-! ### Texts that are cut at a marker -/

/-- A piece of text that begins with the marker and has no other. -/
def IsChunk (marker : α) (chunk : List α) : Prop := ∃ tail, chunk = marker :: tail ∧ marker ∉ tail

omit [DecidableEq α] in
theorem IsChunk.append {marker : α} {chunk rest : List α} (h : IsChunk marker chunk)
    (hrest : marker ∉ rest) : IsChunk marker (chunk ++ rest) := by
  obtain ⟨tail, rfl, hfree⟩ := h
  refine ⟨tail ++ rest, rfl, fun hmem => ?_⟩
  obtain hmem | hmem := List.mem_append.1 hmem
  · exact hfree hmem
  · exact hrest hmem

variable {marker : α} {p lead : List α} {chunks before after middle : List (List α)}

omit [DecidableEq α] in
theorem IsChunk.ne_nil {chunk : List α} (h : IsChunk marker chunk) : chunk ≠ [] := by
  obtain ⟨tail, rfl, -⟩ := h
  exact List.cons_ne_nil _ _

omit [DecidableEq α] in
/-- A pattern that begins with the marker stands at the beginning of a chunk. -/
theorem occursAt_flatten (hchunks : ∀ chunk ∈ chunks, IsChunk marker chunk)
    (h : OccursAt (marker :: p) chunks.flatten pos) :
    ∃ before after, chunks = before ++ after ∧ pos = before.flatten.length ∧
      (marker :: p) <+: after.flatten := by
  induction chunks generalizing pos with
  | nil =>
    rw [OccursAt, List.flatten_nil, List.drop_nil, List.prefix_nil] at h
    cases h
  | cons chunk chunks ih =>
    obtain ⟨tail, rfl, hfree⟩ := hchunks chunk List.mem_cons_self
    by_cases hlt : pos < (marker :: tail).length
    · cases pos with
      | zero => exact ⟨[], (marker :: tail) :: chunks, rfl, rfl, h⟩
      | succ pos =>
        have hpos : pos < tail.length := Nat.lt_of_succ_lt_succ hlt
        rw [OccursAt, List.flatten_cons, List.cons_append, List.drop_succ_cons,
          List.drop_append_of_le_length (Nat.le_of_lt hpos)] at h
        obtain ⟨rest, hrest⟩ := h
        have hmem : marker ∈ tail.drop pos := by
          rw [List.drop_eq_getElem_cons hpos, List.cons_append, List.cons_append] at hrest
          rw [List.drop_eq_getElem_cons hpos, (List.cons.inj hrest).1]
          exact List.mem_cons_self
        exact absurd (List.mem_of_mem_drop hmem) hfree
    · obtain ⟨k, rfl⟩ := Nat.exists_eq_add_of_le (Nat.le_of_not_lt hlt)
      rw [List.flatten_cons, occursAt_append] at h
      obtain ⟨before, after, rfl, rfl, hstarts⟩ :=
        ih (fun other hmem => hchunks other (List.mem_cons_of_mem _ hmem)) h
      refine ⟨(marker :: tail) :: before, after, rfl, ?_, hstarts⟩
      rw [List.flatten_cons, List.length_append]

omit [DecidableEq α] in
/-- **The occurrences in a cut text** are at its cuts. -/
theorem occursAt_cut (hlead : marker ∉ lead) (hchunks : ∀ chunk ∈ chunks, IsChunk marker chunk) :
    OccursAt (marker :: p) (lead ++ chunks.flatten) pos ↔
      ∃ before after, chunks = before ++ after ∧ pos = (lead ++ before.flatten).length ∧
        (marker :: p) <+: after.flatten := by
  constructor
  · intro h
    by_cases hlt : pos < lead.length
    · rw [OccursAt, List.drop_append_of_le_length (Nat.le_of_lt hlt),
        List.drop_eq_getElem_cons hlt] at h
      obtain ⟨rest, hrest⟩ := h
      rw [List.cons_append, List.cons_append] at hrest
      exact absurd ((List.cons.inj hrest).1 ▸ List.getElem_mem hlt) hlead
    · obtain ⟨k, rfl⟩ := Nat.exists_eq_add_of_le (Nat.le_of_not_lt hlt)
      obtain ⟨before, after, hsplit, rfl, hstarts⟩ :=
        occursAt_flatten hchunks (occursAt_append.1 h)
      exact ⟨before, after, hsplit, (List.length_append ..).symm, hstarts⟩
  · rintro ⟨before, after, rfl, rfl, hstarts⟩
    rw [List.flatten_append, ← List.append_assoc, OccursAt, List.drop_left]
    exact hstarts

/-- The pattern begins at none of the chunks of `middle`, which `after` follows. -/
def FreeOf (pattern : List α) (middle after : List (List α)) : Prop :=
  ∀ left chunk right, middle = left ++ chunk :: right →
    ¬pattern <+: (chunk :: (right ++ after)).flatten

omit [DecidableEq α] in
theorem freeOf_nil : FreeOf pattern [] after := by
  intro left chunk right hsplit
  cases left <;> cases hsplit

omit [DecidableEq α] in
theorem FreeOf.cons {chunk : List α} (h : FreeOf pattern middle after)
    (hnot : ¬pattern <+: (chunk :: (middle ++ after)).flatten) :
    FreeOf pattern (chunk :: middle) after := by
  intro left other right hsplit
  cases left with
  | nil =>
    obtain ⟨rfl, rfl⟩ := List.cons.inj hsplit
    exact hnot
  | cons own left =>
    obtain ⟨rfl, rfl⟩ := List.cons.inj hsplit
    exact h left other right rfl

omit [DecidableEq α] in
theorem FreeOf.append {middle' : List (List α)} (h : FreeOf pattern middle (middle' ++ after))
    (h' : FreeOf pattern middle' after) : FreeOf pattern (middle ++ middle') after := by
  intro left chunk right hsplit
  obtain ⟨same, rfl, hright⟩ | ⟨same, rfl, hright⟩ := List.append_eq_append_iff.1 hsplit
  · exact h' same chunk right hright
  · cases same with
    | nil => exact h' [] chunk right hright.symm
    | cons other same =>
      rw [List.cons_append] at hright
      obtain ⟨rfl, rfl⟩ := List.cons.inj hright
      rw [List.append_assoc]
      exact h left chunk same rfl

omit [DecidableEq α] in
/-- An earlier cut is at a smaller position. -/
theorem cut_lt (lead : List α) (before : List (List α))
    (hchunks : ∀ chunk ∈ middle, IsChunk marker chunk) (hne : middle ≠ []) :
    (lead ++ before.flatten).length < (lead ++ (before ++ middle).flatten).length := by
  obtain ⟨chunk, rest, rfl⟩ := List.exists_cons_of_ne_nil hne
  have hpos := List.length_pos_iff.2 (hchunks chunk List.mem_cons_self).ne_nil
  simp only [List.length_append, List.flatten_append, List.flatten_cons]
  omega

omit [DecidableEq α] in
/-- Of two ways to cut the chunks in two, one goes on from the other. -/
theorem split_or_split {before' after' : List (List α)} (h : before ++ after = before' ++ after') :
    (∃ same, before' = before ++ same ∧ after = same ++ after') ∨
      ∃ chunk same, before = before' ++ chunk :: same ∧ after' = chunk :: (same ++ after) := by
  obtain ⟨same, rfl, rfl⟩ | ⟨same, rfl, rfl⟩ := List.append_eq_append_iff.1 h
  · exact .inl ⟨same, rfl, rfl⟩
  · cases same with
    | nil => exact .inl ⟨[], by rw [List.append_nil, List.append_nil], rfl⟩
    | cons chunk same => exact .inr ⟨chunk, same, rfl, rfl⟩

/-- **Searching forwards in a cut text**, from a position behind all cuts of `before`. -/
theorem find_cut (hlead : marker ∉ lead)
    (hchunks : ∀ chunk ∈ before ++ (middle ++ after), IsChunk marker chunk)
    (hle : start ≤ (lead ++ before.flatten).length)
    (hgt : ∀ left chunk right, before = left ++ chunk :: right →
      (lead ++ left.flatten).length < start)
    (hfree : FreeOf (marker :: p) middle after) (hhere : (marker :: p) <+: after.flatten) :
    find (marker :: p) (lead ++ (before ++ (middle ++ after)).flatten) start =
      some (lead ++ (before ++ middle).flatten).length := by
  have hbetween : (lead ++ before.flatten).length ≤
      (lead ++ (before ++ middle).flatten).length := by
    simp only [List.length_append, List.flatten_append]
    omega
  refine find_eq_some_iff.2 ⟨Nat.le_trans hle hbetween, ?_, fun pos hstart hlt hoccurs => ?_⟩
  · exact (occursAt_cut hlead hchunks).2
      ⟨before ++ middle, after, (List.append_assoc ..).symm, rfl, hhere⟩
  · obtain ⟨before', after', hsplit, rfl, hstarts⟩ := (occursAt_cut hlead hchunks).1 hoccurs
    obtain ⟨same, rfl, hsame⟩ | ⟨chunk, same, hbefore, -⟩ := split_or_split hsplit
    · obtain ⟨more, rfl, hmore⟩ | ⟨chunk, more, hmiddle, hafter⟩ := split_or_split hsame
      · refine Nat.not_lt_of_le ?_ hlt
        simp only [List.length_append, List.flatten_append]
        omega
      · rw [hafter] at hstarts
        exact hfree same chunk more hmiddle hstarts
    · exact Nat.not_lt_of_le hstart (hgt before' chunk same hbefore)

theorem find_cut_none (hlead : marker ∉ lead)
    (hchunks : ∀ chunk ∈ before ++ after, IsChunk marker chunk)
    (hgt : ∀ left chunk right, before = left ++ chunk :: right →
      (lead ++ left.flatten).length < start)
    (hfree : FreeOf (marker :: p) after []) :
    find (marker :: p) (lead ++ (before ++ after).flatten) start = none := by
  refine find_eq_none_iff.2 fun pos hstart hoccurs => ?_
  obtain ⟨before', after', hsplit, rfl, hstarts⟩ := (occursAt_cut hlead hchunks).1 hoccurs
  obtain ⟨same, rfl, hsame⟩ | ⟨chunk, same, hbefore, -⟩ := split_or_split hsplit
  · cases after' with
    | nil =>
      rw [List.flatten_nil, List.prefix_nil] at hstarts
      cases hstarts
    | cons chunk after' =>
      refine hfree same chunk after' hsame ?_
      rwa [List.append_nil]
  · exact Nat.not_lt_of_le hstart (hgt before' chunk same hbefore)

/-- **Searching backwards in a cut text**, from a cut at which the pattern does not stand. -/
theorem rfind_cut (hlead : marker ∉ lead)
    (hchunks : ∀ chunk ∈ before ++ (middle ++ after), IsChunk marker chunk)
    (hne : middle ≠ []) (hhere : (marker :: p) <+: (middle ++ after).flatten)
    (hfree : FreeOf (marker :: p) middle.tail after) (hnot : ¬(marker :: p) <+: after.flatten) :
    rfind (marker :: p) (lead ++ (before ++ (middle ++ after)).flatten)
      (lead ++ (before ++ middle).flatten).length = some (lead ++ before.flatten).length := by
  have hmiddle : ∀ chunk ∈ middle, IsChunk marker chunk := fun chunk hmem =>
    hchunks chunk (List.mem_append_right _ (List.mem_append_left _ hmem))
  refine (rfind_eq_some_iff (List.cons_ne_nil _ _)).2
    ⟨Nat.le_of_lt (cut_lt lead before hmiddle hne), ?_, fun pos hlt hle hoccurs => ?_⟩
  · exact (occursAt_cut hlead hchunks).2 ⟨before, middle ++ after, rfl, rfl, hhere⟩
  · obtain ⟨before', after', hsplit, rfl, hstarts⟩ := (occursAt_cut hlead hchunks).1 hoccurs
    obtain ⟨same, rfl, hsame⟩ | ⟨chunk, same, rfl, -⟩ := split_or_split hsplit
    · obtain ⟨more, rfl, hmore⟩ | ⟨chunk, more, hsplit', hafter⟩ := split_or_split hsame
      · cases more with
        | nil => exact hnot (hmore ▸ hstarts)
        | cons chunk more =>
          have hlater : ∀ other ∈ chunk :: more, IsChunk marker other := by
            intro other hmem
            refine hchunks other (List.mem_append_right _ (List.mem_append_right _ ?_))
            rw [hmore]
            exact List.mem_append_left _ hmem
          have hbeyond := cut_lt lead (before ++ middle) hlater (List.cons_ne_nil _ _)
          rw [List.append_assoc] at hbeyond
          exact Nat.not_lt_of_le hle hbeyond
      · cases same with
        | nil => exact Nat.lt_irrefl _ (by rw [List.append_nil] at hlt; exact hlt)
        | cons first same =>
          rw [hafter] at hstarts
          rw [hsplit'] at hfree
          exact hfree same chunk more rfl hstarts
    · refine Nat.not_lt_of_le ?_ hlt
      simp only [List.length_append, List.flatten_append]
      omega

theorem rfind_cut_none (hlead : marker ∉ lead)
    (hchunks : ∀ chunk ∈ before ++ after, IsChunk marker chunk)
    (hfree : FreeOf (marker :: p) before after) (hnot : ¬(marker :: p) <+: after.flatten) :
    rfind (marker :: p) (lead ++ (before ++ after).flatten) (lead ++ before.flatten).length =
      none := by
  refine (rfind_eq_none_iff (List.cons_ne_nil _ _)).2 fun pos hle hoccurs => ?_
  obtain ⟨before', after', hsplit, rfl, hstarts⟩ := (occursAt_cut hlead hchunks).1 hoccurs
  obtain ⟨same, rfl, hsame⟩ | ⟨chunk, same, rfl, hafter⟩ := split_or_split hsplit
  · cases same with
    | nil => exact hnot (hsame ▸ hstarts)
    | cons chunk same =>
      have hlater : ∀ other ∈ chunk :: same, IsChunk marker other := by
        intro other hmem
        refine hchunks other (List.mem_append_right _ ?_)
        rw [hsame]
        exact List.mem_append_left _ hmem
      exact Nat.not_lt_of_le hle (cut_lt lead before hlater (List.cons_ne_nil _ _))
  · rw [hafter] at hstarts
    exact hfree before' chunk same rfl hstarts

/-! ### Patterns of several chunks -/

omit [DecidableEq α] in
/-- Up to the first marker a pattern and a text agree. -/
theorem prefix_upto_marker {left right rest : List α} (hleft : marker ∉ left)
    (hright : marker ∉ right) (hrest : rest = [] ∨ ∃ tail, rest = marker :: tail) :
    (left ++ marker :: p) <+: (right ++ rest) ↔ left = right ∧ (marker :: p) <+: rest := by
  induction left generalizing right with
  | nil =>
    cases right with
    | nil => simp
    | cons y right =>
      have hy : marker ≠ y := fun heq => hright (heq ▸ List.mem_cons_self)
      rw [List.nil_append, List.cons_append, List.cons_prefix_cons]
      exact ⟨fun h => absurd h.1 hy, fun h => (by cases h.1)⟩
  | cons x left ih =>
    have hx : x ≠ marker := fun heq => hleft (heq ▸ List.mem_cons_self)
    cases right with
    | nil =>
      rw [List.nil_append, List.cons_append]
      constructor
      · intro h
        obtain rfl | ⟨tail, rfl⟩ := hrest
        · cases List.prefix_nil.1 h
        · exact absurd (List.cons_prefix_cons.1 h).1 hx
      · intro h
        cases h.1
    | cons y right =>
      rw [List.cons_append, List.cons_append, List.cons_prefix_cons,
        ih (fun hmem => hleft (List.mem_cons_of_mem _ hmem))
          (fun hmem => hright (List.mem_cons_of_mem _ hmem)), List.cons.injEq, and_assoc]

omit [DecidableEq α] in
theorem flatten_begins (hchunks : ∀ chunk ∈ chunks, IsChunk marker chunk) :
    chunks.flatten = [] ∨ ∃ tail, chunks.flatten = marker :: tail := by
  cases chunks with
  | nil => exact .inl rfl
  | cons chunk chunks =>
    obtain ⟨tail, rfl, -⟩ := hchunks chunk List.mem_cons_self
    exact .inr ⟨tail ++ chunks.flatten, rfl⟩

omit [DecidableEq α] in
/-- **A whole chunk of a pattern** is a chunk of the text. -/
theorem prefix_chunk {chunk chunk' : List α} (hchunk : IsChunk marker chunk)
    (hchunks : ∀ other ∈ chunk' :: chunks, IsChunk marker other) :
    (chunk ++ marker :: p) <+: (chunk' :: chunks).flatten ↔
      chunk = chunk' ∧ (marker :: p) <+: chunks.flatten := by
  obtain ⟨tail, rfl, hfree⟩ := hchunk
  obtain ⟨tail', rfl, hfree'⟩ := hchunks chunk' List.mem_cons_self
  rw [List.flatten_cons, List.cons_append, List.cons_append, List.cons_prefix_cons,
    prefix_upto_marker hfree hfree'
      (flatten_begins fun other hmem => hchunks other (List.mem_cons_of_mem _ hmem)),
    List.cons.injEq, and_assoc]

omit [DecidableEq α] in
/-- **The last chunk of a pattern** begins a chunk of the text. -/
theorem prefix_last {chunk tail : List α} (htail : marker ∉ tail)
    (hchunks : ∀ other ∈ chunk :: chunks, IsChunk marker other) :
    (marker :: tail) <+: (chunk :: chunks).flatten ↔ (marker :: tail) <+: chunk := by
  refine ⟨fun h => ?_, fun h => ?_⟩
  · rw [List.flatten_cons] at h
    obtain hshort | ⟨more, hmore⟩ :=
      List.prefix_or_prefix_of_prefix h (List.prefix_append chunk chunks.flatten)
    · exact hshort
    · rw [← hmore, List.prefix_append_right_inj] at h
      have hnil : more = [] := by
        cases more with
        | nil => rfl
        | cons x more =>
          obtain hnil | ⟨rest, hrest⟩ :=
            flatten_begins fun other hmem => hchunks other (List.mem_cons_of_mem _ hmem)
          · rw [hnil, List.prefix_nil] at h
            cases h
          · rw [hrest] at h
            obtain ⟨rfl, -⟩ := List.cons_prefix_cons.1 h
            obtain ⟨own, rfl, -⟩ := hchunks chunk List.mem_cons_self
            rw [List.cons_append] at hmore
            rw [← (List.cons.inj hmore).2] at htail
            exact absurd (List.mem_append_right _ List.mem_cons_self) htail
      rw [hnil, List.append_nil] at hmore
      exact hmore ▸ List.prefix_rfl
  · rw [List.flatten_cons]
    exact h.trans (List.prefix_append _ _)

end SecondDisplay.Search
