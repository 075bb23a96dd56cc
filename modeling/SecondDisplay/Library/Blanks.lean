import SecondDisplay.Library.Search

/-!
# Texts with blanks

A text of which some elements are replaced is a list with a blank for each of them.  `Fills` says
which texts come from it when a filling is written for every stretch of blanks.  A pattern that no
filling touches stands in such a text exactly where it stands among the elements that still show
(`Fills.infix_iff`).
-/

namespace SecondDisplay.Blanks

open Search (OccursAt)

variable {α : Type} {marked : List (Option α)} {text out pattern : List α}

/-! ### Blanking -/

open Classical in
/-- The text without the elements at some positions. -/
noncomputable def blank : List (Option α) → (Nat → Prop) → List (Option α)
  | [], _ => []
  | x :: marked, gone => (if gone 0 then none else x) :: blank marked fun pos => gone (pos + 1)

theorem blank_congr {gone gone' : Nat → Prop} (h : ∀ pos, gone pos ↔ gone' pos) :
    blank marked gone = blank marked gone' := by
  rw [show gone = gone' from funext fun pos => propext (h pos)]

theorem blank_cons {x : Option α} {gone : Nat → Prop} (h : ¬gone 0) :
    blank (x :: marked) gone = x :: blank marked fun pos => gone (pos + 1) := by
  rw [blank, if_neg h]

theorem blank_append (marked marked' : List (Option α)) (gone : Nat → Prop) :
    blank (marked ++ marked') gone =
      blank marked gone ++ blank marked' fun pos => gone (marked.length + pos) := by
  induction marked generalizing gone with
  | nil =>
    show blank marked' gone = blank marked' fun pos => gone (0 + pos)
    exact blank_congr fun pos => by rw [Nat.zero_add]
  | cons x marked ih =>
    rw [List.cons_append, blank, blank, ih, List.cons_append, List.length_cons]
    congr 2
    exact blank_congr fun pos => by rw [Nat.add_right_comm]

theorem blank_none {gone : Nat → Prop} (h : ∀ pos, pos < marked.length → ¬gone pos) :
    blank marked gone = marked := by
  induction marked generalizing gone with
  | nil => rfl
  | cons x marked ih =>
    rw [blank_cons (h 0 (Nat.zero_lt_succ _)), ih fun pos hlt => h (pos + 1) (Nat.succ_lt_succ hlt)]

theorem blank_all {gone : Nat → Prop} (h : ∀ pos, pos < marked.length → gone pos) :
    blank marked gone = List.replicate marked.length none := by
  induction marked generalizing gone with
  | nil => rfl
  | cons x marked ih =>
    rw [blank, if_pos (h 0 (Nat.zero_lt_succ _)),
      ih fun pos hlt => h (pos + 1) (Nat.succ_lt_succ hlt)]
    rfl

theorem blank_blank (marked : List (Option α)) (gone gone' : Nat → Prop) :
    blank (blank marked gone) gone' = blank marked fun pos => gone pos ∨ gone' pos := by
  induction marked generalizing gone gone' with
  | nil => rfl
  | cons x marked ih =>
    rw [blank, blank, blank, ih]
    congr 1
    by_cases hgone : gone 0
    · simp [hgone]
    · by_cases hgone' : gone' 0 <;> simp [hgone, hgone']

/-- **A pattern stands among the elements that show** where it stands in the text and none of its
elements is blanked. -/
theorem map_prefix_blank {gone : Nat → Prop} :
    pattern.map some <+: blank (text.map some) gone ↔
      pattern <+: text ∧ ∀ pos, pos < pattern.length → ¬gone pos := by
  induction pattern generalizing text gone with
  | nil => simp
  | cons x pattern ih =>
    cases text with
    | nil => simp [blank]
    | cons y text =>
      rw [List.map_cons, List.map_cons, blank, List.cons_prefix_cons, ih, List.cons_prefix_cons]
      constructor
      · rintro ⟨hhead, hstarts, hrest⟩
        by_cases hgone : gone 0
        · rw [if_pos hgone] at hhead
          cases hhead
        · rw [if_neg hgone] at hhead
          refine ⟨⟨Option.some.inj hhead, hstarts⟩, fun pos hlt => ?_⟩
          cases pos with
          | zero => exact hgone
          | succ pos => exact hrest pos (Nat.lt_of_succ_lt_succ hlt)
      · rintro ⟨⟨rfl, hstarts⟩, hall⟩
        rw [if_neg (hall 0 (Nat.zero_lt_succ _))]
        exact ⟨rfl, hstarts, fun pos hlt => hall (pos + 1) (Nat.succ_lt_succ hlt)⟩

theorem infix_iff_occursAt {pattern text : List α} :
    pattern <:+: text ↔ ∃ pos, OccursAt pattern text pos := by
  constructor
  · rintro ⟨before, after, rfl⟩
    refine ⟨before.length, after, ?_⟩
    rw [List.append_assoc, List.drop_left]
  · rintro ⟨pos, rest, hrest⟩
    refine ⟨text.take pos, rest, ?_⟩
    rw [List.append_assoc, hrest, List.take_append_drop]

theorem drop_blank (marked : List (Option α)) (gone : Nat → Prop) (pos : Nat) :
    (blank marked gone).drop pos = blank (marked.drop pos) fun later => gone (pos + later) := by
  induction pos generalizing marked gone with
  | zero =>
    rw [List.drop_zero, List.drop_zero]
    exact blank_congr fun later => by rw [Nat.zero_add]
  | succ pos ih =>
    cases marked with
    | nil => rfl
    | cons x marked =>
      rw [blank, List.drop_succ_cons, List.drop_succ_cons, ih]
      exact blank_congr fun later => by rw [Nat.add_right_comm]

/-- Where a pattern still shows. -/
theorem map_infix_blank {gone : Nat → Prop} :
    pattern.map some <:+: blank (text.map some) gone ↔
      ∃ pos, OccursAt pattern text pos ∧ ∀ later, later < pattern.length → ¬gone (pos + later) := by
  rw [infix_iff_occursAt]
  refine exists_congr fun pos => ?_
  rw [OccursAt, drop_blank, ← List.map_drop, map_prefix_blank, OccursAt]

/-! ### Filling the blanks -/

/-- The text begins with an element of its kind. -/
def Begins (p : α → Bool) (marked : List (Option α)) : Prop :=
  ∃ x rest, marked = some x :: rest ∧ p x = true

/-- The text ends, or goes on with an element of its kind. -/
def Stops (stop : α → Bool) (marked : List (Option α)) : Prop := marked = [] ∨ Begins stop marked

/-- The texts with a filling for every stretch of blanks.  One may also be written where there are
no blanks, before a stop. -/
inductive Fills (filling : List α → Prop) (stop : α → Bool) : List (Option α) → List α → Prop
  | nil : Fills filling stop [] []
  | keep (x : α) {marked : List (Option α)} {out : List α} (h : Fills filling stop marked out) :
      Fills filling stop (some x :: marked) (x :: out)
  | fill (n : Nat) {text : List α} {marked : List (Option α)} {out : List α}
      (htext : filling text) (hstop : n = 0 → Stops stop marked)
      (h : Fills filling stop marked out) :
      Fills filling stop (List.replicate n none ++ marked) (text ++ out)

variable {filling : List α → Prop} {stop p : α → Bool}

theorem Fills.of_map (text : List α) : Fills filling stop (text.map some) text := by
  induction text with
  | nil => exact Fills.nil
  | cons x text ih => exact Fills.keep x ih

theorem Fills.append {shown : List α} (h : Fills filling stop marked out) :
    Fills filling stop (shown.map some ++ marked) (shown ++ out) := by
  induction shown with
  | nil => exact h
  | cons x shown ih => exact Fills.keep x ih

theorem not_begins_replicate {n : Nat} (h : n = 0 → ¬Begins p marked) :
    ¬Begins p (List.replicate n none ++ marked) := by
  cases n with
  | zero => exact h rfl
  | succ n =>
    rintro ⟨x, rest, heq, -⟩
    cases heq

/-- Where nothing is written there is nothing. -/
theorem Fills.eq_nil (h : Fills filling stop marked []) (hne : ∀ text, filling text → text ≠ []) :
    marked = [] := by
  generalize hout : ([] : List α) = out at h
  cases h with
  | nil => rfl
  | keep x h => cases hout
  | fill n htext hstop h => exact absurd (List.append_eq_nil_iff.1 hout.symm).1 (hne _ htext)

/-- No filling begins with an element of the pattern. -/
def Foreign (filling : List α → Prop) (pattern : List α) : Prop :=
  ∀ text, filling text → ∃ x rest, text = x :: rest ∧ x ∉ pattern

/-- **What begins the text** begins it among the elements that show. -/
theorem Fills.prefix_iff (h : Fills filling stop marked out) (hforeign : Foreign filling pattern)
    (hstop : ∀ x ∈ pattern, stop x = false) :
    pattern <+: out ↔ pattern.map some <+: marked := by
  induction h generalizing pattern with
  | nil => rw [List.prefix_nil, List.prefix_nil, List.map_eq_nil_iff]
  | keep x h ih =>
    cases pattern with
    | nil => exact iff_of_true List.nil_prefix List.nil_prefix
    | cons y pattern =>
      have hforeign' : Foreign filling pattern := by
        intro text htext
        obtain ⟨x, rest, heq, hx⟩ := hforeign text htext
        exact ⟨x, rest, heq, fun hmem => hx (List.mem_cons_of_mem _ hmem)⟩
      rw [List.map_cons, List.cons_prefix_cons, List.cons_prefix_cons, Option.some.injEq,
        ih hforeign' fun z hz => hstop z (List.mem_cons_of_mem _ hz)]
  | fill n htext hn h ih =>
    cases pattern with
    | nil => exact iff_of_true List.nil_prefix List.nil_prefix
    | cons y pattern =>
      refine iff_of_false ?_ ?_
      · obtain ⟨x, rest, rfl, hx⟩ := hforeign _ htext
        rw [List.cons_append, List.cons_prefix_cons]
        rintro ⟨rfl, -⟩
        exact hx List.mem_cons_self
      · cases n with
        | zero =>
          rintro ⟨rest, hrest⟩
          obtain hnil | ⟨x, tail, heq, hx⟩ := hn rfl
          · rw [hnil] at hrest
            cases hrest
          · rw [heq] at hrest
            cases (List.cons.inj hrest).1
            rw [hstop y List.mem_cons_self] at hx
            cases hx
        | succ n =>
          rintro ⟨rest, hrest⟩
          cases (List.cons.inj hrest).1

theorem infix_append_of_not_mem {x : α} (hx : x ∉ text) :
    (x :: pattern) <:+: (text ++ out) ↔ (x :: pattern) <:+: out := by
  induction text with
  | nil => exact Iff.rfl
  | cons y text ih =>
    have hne : ¬(x :: pattern) <+: y :: (text ++ out) := by
      rw [List.cons_prefix_cons]
      rintro ⟨rfl, -⟩
      exact hx List.mem_cons_self
    rw [List.cons_append, List.infix_cons_iff, ih fun hmem => hx (List.mem_cons_of_mem _ hmem)]
    exact or_iff_right hne

/-- **What stands in the text** stands among the elements that show, if it begins in no filling and
none begins in it. -/
theorem Fills.infix_iff {x : α} (h : Fills filling stop marked out)
    (hforeign : Foreign filling (x :: pattern)) (hx : ∀ text, filling text → x ∉ text)
    (hstop : ∀ y ∈ x :: pattern, stop y = false) :
    (x :: pattern) <:+: out ↔ (x :: pattern).map some <:+: marked := by
  induction h with
  | nil => rw [List.infix_nil, List.infix_nil, List.map_eq_nil_iff]
  | keep y h ih =>
    rw [List.infix_cons_iff, List.infix_cons_iff, ih, (Fills.keep y h).prefix_iff hforeign hstop]
  | fill n htext hn h ih =>
    have hblank : some x ∉ List.replicate n (none : Option α) := by
      intro hmem
      cases List.eq_of_mem_replicate hmem
    rw [infix_append_of_not_mem (hx _ htext), ih, List.map_cons,
      infix_append_of_not_mem hblank]

/-- What begins the text shows, whatever its elements are. -/
theorem Fills.starts_of (h : Fills filling stop marked out) (hforeign : Foreign filling pattern)
    (hstarts : pattern <+: out) : pattern.map some <+: marked := by
  induction h generalizing pattern with
  | nil =>
    rw [List.prefix_nil.1 hstarts]
    exact List.nil_prefix
  | keep x h ih =>
    cases pattern with
    | nil => exact List.nil_prefix
    | cons y pattern =>
      have hforeign' : Foreign filling pattern := by
        intro text htext
        obtain ⟨z, rest, heq, hz⟩ := hforeign text htext
        exact ⟨z, rest, heq, fun hmem => hz (List.mem_cons_of_mem _ hmem)⟩
      obtain ⟨rfl, hrest⟩ := List.cons_prefix_cons.1 hstarts
      exact List.cons_prefix_cons.2 ⟨rfl, ih hforeign' hrest⟩
  | fill n htext hn h ih =>
    cases pattern with
    | nil => exact List.nil_prefix
    | cons y pattern =>
      obtain ⟨x, rest, rfl, hx⟩ := hforeign _ htext
      rw [List.cons_append, List.cons_prefix_cons] at hstarts
      exact absurd (hstarts.1 ▸ List.mem_cons_self) hx

/-- A pattern stands on one side of an element that it does not have. -/
theorem infix_of_not_mem {x : α} (hx : x ∉ pattern) (h : pattern <:+: text ++ x :: out) :
    pattern <:+: text ∨ pattern <:+: out := by
  induction text with
  | nil =>
    right
    obtain hstarts | hrest := List.infix_cons_iff.1 h
    · cases pattern with
      | nil => exact List.nil_infix
      | cons y pattern => exact absurd ((List.cons_prefix_cons.1 hstarts).1 ▸ List.mem_cons_self) hx
    · exact hrest
  | cons y text ih =>
    obtain hstarts | hrest := List.infix_cons_iff.1 h
    · left
      obtain hshort | hlong :=
        List.prefix_or_prefix_of_prefix hstarts (List.prefix_append (y :: text) (x :: out))
      · exact hshort.isInfix
      · obtain ⟨more, rfl⟩ := hlong
        have hmore : more <+: x :: out := (List.prefix_append_right_inj (y :: text)).1 hstarts
        cases more with
        | nil => exact ⟨[], [], by simp only [List.nil_append, List.append_nil]⟩
        | cons z more =>
          refine absurd (List.mem_append_right _ ?_) hx
          rw [(List.cons_prefix_cons.1 hmore).1]
          exact List.mem_cons_self
    · obtain htext | hout := ih hrest
      · exact .inl (List.infix_cons htext)
      · exact .inr hout

/-- **What stands in the text shows**, if it has neither of two elements that enclose every filling,
and has an element that no filling has. -/
theorem Fills.stands_of {first last x : α} (h : Fills filling stop marked out)
    (hfilling : ∀ text, filling text → ∃ inner, text = first :: (inner ++ [last]))
    (hfirst : first ∉ pattern) (hlast : last ∉ pattern) (hmem : x ∈ pattern)
    (hx : ∀ text, filling text → x ∉ text) (hstands : pattern <:+: out) :
    pattern.map some <:+: marked := by
  have hforeign : Foreign filling pattern := by
    intro text htext
    obtain ⟨inner, heq⟩ := hfilling text htext
    exact ⟨first, _, heq, hfirst⟩
  induction h with
  | nil =>
    rw [List.infix_nil.1 hstands]
    exact List.nil_infix
  | keep y h ih =>
    obtain hstarts | hrest := List.infix_cons_iff.1 hstands
    · exact ((Fills.keep y h).starts_of hforeign hstarts).isInfix
    · exact List.infix_cons (ih hrest)
  | @fill n text marked out htext hn h ih =>
    obtain ⟨inner, rfl⟩ := hfilling text htext
    have hsplit : first :: (inner ++ [last]) ++ out = (first :: inner) ++ last :: out := by
      rw [List.cons_append, List.append_assoc, List.singleton_append, List.cons_append]
    rw [hsplit] at hstands
    obtain hinside | hbehind := infix_of_not_mem hlast hstands
    · refine absurd (hinside.subset hmem) fun hin => hx _ htext ?_
      rw [← List.cons_append]
      exact List.mem_append_left _ hin
    · exact (ih hbehind).trans (List.suffix_append _ _).isInfix

/-- A pattern at the beginning of the elements that show is one of the text. -/
theorem Fills.prefix_split (h : Fills filling stop marked out)
    (hforeign : Foreign filling pattern) (hstop : ∀ x ∈ pattern, stop x = false)
    (hstarts : pattern <+: out) :
    ∃ marked' out', marked = pattern.map some ++ marked' ∧ out = pattern ++ out' ∧
      Fills filling stop marked' out' := by
  induction pattern generalizing marked out with
  | nil => exact ⟨marked, out, rfl, rfl, h⟩
  | cons x pattern ih =>
    obtain ⟨rest, hrest⟩ := (h.prefix_iff hforeign hstop).1 hstarts
    have hforeign' : Foreign filling pattern := by
      intro text htext
      obtain ⟨y, rest, heq, hy⟩ := hforeign text htext
      exact ⟨y, rest, heq, fun hmem => hy (List.mem_cons_of_mem _ hmem)⟩
    cases h with
    | nil => cases hrest
    | keep y h =>
      obtain ⟨rfl, htail⟩ := List.cons_prefix_cons.1 hstarts
      obtain ⟨marked', out', rfl, rfl, hbehind⟩ :=
        ih h hforeign' (fun z hz => hstop z (List.mem_cons_of_mem _ hz)) htail
      exact ⟨marked', out', rfl, rfl, hbehind⟩
    | fill n htext hn h =>
      obtain ⟨y, rest, rfl, hy⟩ := hforeign _ htext
      rw [List.cons_append, List.cons_prefix_cons] at hstarts
      exact absurd (hstarts.1 ▸ List.mem_cons_self) hy

/-- **The elements of a kind at the beginning** all show, if no filling begins with one. -/
theorem Fills.stretch (h : Fills filling stop marked out)
    (hfilling : ∀ text, filling text → ∃ x rest, text = x :: rest ∧ p x = false)
    (hstop : ∀ x, stop x = true → p x = false) :
    ∃ marked', marked = (out.takeWhile p).map some ++ marked' ∧ ¬Begins p marked' ∧
      Fills filling stop marked' (out.dropWhile p) := by
  induction h with
  | nil =>
    refine ⟨[], rfl, ?_, Fills.nil⟩
    rintro ⟨x, rest, heq, -⟩
    cases heq
  | @keep x marked out h ih =>
    cases hx : p x with
    | true =>
      obtain ⟨marked', rfl, hbegins, hrest⟩ := ih
      refine ⟨marked', ?_, hbegins, ?_⟩
      · rw [List.takeWhile_cons_of_pos hx]
        rfl
      · rwa [List.dropWhile_cons_of_pos hx]
    | false =>
      have hneg : ¬p x = true := by rw [hx]; exact Bool.false_ne_true
      refine ⟨some x :: marked, ?_, ?_, ?_⟩
      · rw [List.takeWhile_cons_of_neg hneg]
        rfl
      · rintro ⟨y, rest, heq, hy⟩
        cases (List.cons.inj heq).1
        exact hneg hy
      · rw [List.dropWhile_cons_of_neg hneg]
        exact Fills.keep x h
  | @fill n text marked out htext hn h ih =>
    obtain ⟨x, rest, rfl, hx⟩ := hfilling _ htext
    have hneg : ¬p x = true := by rw [hx]; exact Bool.false_ne_true
    refine ⟨List.replicate n none ++ marked, ?_, ?_, ?_⟩
    · rw [List.cons_append, List.takeWhile_cons_of_neg hneg]
      rfl
    · refine not_begins_replicate fun hzero => ?_
      rintro ⟨y, tail, heq, hy⟩
      obtain hnil | ⟨z, tail', heq', hz⟩ := hn hzero
      · rw [hnil] at heq
        cases heq
      · rw [heq'] at heq
        cases (List.cons.inj heq).1
        rw [hstop y hz] at hy
        cases hy
    · rw [List.cons_append, List.dropWhile_cons_of_neg hneg]
      exact Fills.fill n htext hn h

/-- **Up to the next stop** no stop shows. -/
theorem Fills.upTo_stop (h : Fills filling stop marked out)
    (hfilling : ∀ text, filling text → ∀ x ∈ text, stop x = false) :
    ∃ before after, marked = before ++ after ∧ (∀ x, some x ∈ before → stop x = false) ∧
      Fills filling stop after (out.dropWhile fun x => !stop x) := by
  induction h with
  | nil => exact ⟨[], [], rfl, fun x hmem => (by cases hmem), Fills.nil⟩
  | @keep x marked out h ih =>
    cases hx : stop x with
    | true =>
      refine ⟨[], some x :: marked, rfl, fun y hmem => (by cases hmem), ?_⟩
      rw [List.dropWhile_cons_of_neg (by rw [hx]; exact Bool.false_ne_true)]
      exact Fills.keep x h
    | false =>
      obtain ⟨before, after, rfl, hbefore, hafter⟩ := ih
      refine ⟨some x :: before, after, rfl, fun y hmem => ?_, ?_⟩
      · obtain heq | hmem := List.mem_cons.1 hmem
        · rw [Option.some.inj heq, hx]
        · exact hbefore y hmem
      · rwa [List.dropWhile_cons_of_pos (by rw [hx]; rfl)]
  | @fill n text marked out htext hn h ih =>
    obtain ⟨before, after, rfl, hbefore, hafter⟩ := ih
    refine ⟨List.replicate n none ++ before, after, (List.append_assoc ..).symm,
      fun y hmem => ?_, ?_⟩
    · obtain hmem | hmem := List.mem_append.1 hmem
      · cases List.eq_of_mem_replicate hmem
      · exact hbefore y hmem
    · rwa [List.dropWhile_append_of_pos fun x hx => by rw [hfilling _ htext x hx]; rfl]

/-- A stop that is written shows. -/
theorem Fills.of_stop {x : α} (h : Fills filling stop marked (x :: out)) (hx : stop x = true)
    (hfilling : ∀ text, filling text → ∃ y rest, text = y :: rest ∧ stop y = false) :
    ∃ marked', marked = some x :: marked' ∧ Fills filling stop marked' out := by
  generalize hout : x :: out = whole at h
  cases h with
  | nil => cases hout
  | keep y h =>
    obtain ⟨rfl, rfl⟩ := List.cons.inj hout
    exact ⟨_, rfl, h⟩
  | fill n htext hn h =>
    obtain ⟨y, rest, rfl, hy⟩ := hfilling _ htext
    obtain ⟨rfl, -⟩ := List.cons.inj hout
    rw [hx] at hy
    cases hy

/-! ### Stretches of a kind -/

theorem not_begins_nil : ¬Begins p [] := by
  rintro ⟨x, rest, heq, -⟩
  cases heq

theorem begins_append {marked' : List (Option α)} (hne : marked ≠ []) :
    Begins p (marked ++ marked') ↔ Begins p marked := by
  obtain ⟨x, rest, rfl⟩ := List.exists_cons_of_ne_nil hne
  constructor
  · rintro ⟨y, tail, heq, hy⟩
    exact ⟨y, rest, by rw [(List.cons.inj heq).1], hy⟩
  · rintro ⟨y, tail, heq, hy⟩
    exact ⟨y, rest ++ marked', by rw [(List.cons.inj heq).1]; rfl, hy⟩

theorem begins_map_cons {x : α} : Begins p (some x :: marked) ↔ p x = true := by
  constructor
  · rintro ⟨y, tail, heq, hy⟩
    cases (List.cons.inj heq).1
    exact hy
  · exact fun hx => ⟨x, marked, rfl, hx⟩

/-- A stretch of a kind that cannot be longer is determined by where it begins. -/
theorem stretch_unique {stretch stretch' : List α} {right right' : List (Option α)}
    (h : stretch.map some ++ right = stretch'.map some ++ right')
    (hall : ∀ x ∈ stretch, p x = true) (hall' : ∀ x ∈ stretch', p x = true)
    (hright : ¬Begins p right) (hright' : ¬Begins p right') :
    stretch = stretch' ∧ right = right' := by
  induction stretch generalizing stretch' with
  | nil =>
    cases stretch' with
    | nil => exact ⟨rfl, h⟩
    | cons y stretch' =>
      exact absurd ⟨y, _, h, hall' y List.mem_cons_self⟩ hright
  | cons x stretch ih =>
    cases stretch' with
    | nil => exact absurd ⟨x, _, h.symm, hall x List.mem_cons_self⟩ hright'
    | cons y stretch' =>
      obtain ⟨heq, htail⟩ := List.cons.inj h
      obtain ⟨rfl, rfl⟩ := ih htail (fun z hz => hall z (List.mem_cons_of_mem _ hz))
        (fun z hz => hall' z (List.mem_cons_of_mem _ hz))
      exact ⟨by rw [Option.some.inj heq], rfl⟩

end SecondDisplay.Blanks
