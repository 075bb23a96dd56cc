import SecondDisplay.Library.Blanks
import Mathlib.Data.List.TakeWhile

/-!
# Runs in texts with blanks

A run is a stretch of elements of one kind that show and that is as long as it can be: no element
of the kind shows in front of it or behind it.  Filling the blanks with other elements makes no new
run and takes none away (`Fills.hasRun_iff`).
-/

namespace SecondDisplay.Blanks

variable {α : Type} {p : α → Bool} {marked : List (Option α)} {run : List α}

/-! ### Runs and where they begin -/

/-- The text has a run; `inner` says whether an element of the kind shows in front of the text. -/
def HasRun (p : α → Bool) (run : List α) : Bool → List (Option α) → Prop
  | _, [] => False
  | inner, x :: rest =>
    (inner = false ∧ ∃ right, x :: rest = run.map some ++ right ∧ ¬Begins p right) ∨
      HasRun p run (x.any p) rest

theorem begins_cons_iff {x : Option α} : Begins p (x :: marked) ↔ x.any p = true := by
  cases x with
  | none =>
    constructor
    · rintro ⟨y, rest, heq, -⟩
      cases heq
    · intro h
      cases h
  | some x => exact begins_map_cons

/-- A run stands between two parts of the text. -/
theorem hasRun_iff (hne : run ≠ []) {inner : Bool} :
    HasRun p run inner marked ↔ ∃ left right, marked = left ++ (run.map some ++ right) ∧
      (left = [] → inner = false) ∧ ¬Begins p left.reverse ∧ ¬Begins p right := by
  induction marked generalizing inner with
  | nil =>
    constructor
    · intro h
      cases h
    · rintro ⟨left, right, heq, -, -, -⟩
      have hnil := (List.append_eq_nil_iff.1 (List.append_eq_nil_iff.1 heq.symm).2).1
      exact hne (List.map_eq_nil_iff.1 hnil)
  | cons x rest ih =>
    constructor
    · rintro (⟨hinner, right, heq, hright⟩ | h)
      · exact ⟨[], right, heq, fun _ => hinner, not_begins_nil, hright⟩
      · obtain ⟨left, right, rfl, hfront, hleft, hright⟩ := ih.1 h
        refine ⟨x :: left, right, rfl, fun hnil => (by cases hnil), ?_, hright⟩
        rw [List.reverse_cons]
        by_cases hnil : left = []
        · rw [hnil, List.reverse_nil, List.nil_append, begins_cons_iff, hfront hnil]
          exact Bool.false_ne_true
        · rw [begins_append (List.reverse_ne_nil_iff.2 hnil)]
          exact hleft
    · rintro ⟨left, right, heq, hfront, hleft, hright⟩
      cases left with
      | nil => exact .inl ⟨hfront rfl, right, heq, hright⟩
      | cons y left =>
        obtain ⟨rfl, hrest⟩ := List.cons.inj heq
        rw [List.reverse_cons] at hleft
        refine .inr (ih.2 ⟨left, right, hrest, ?_, ?_, hright⟩)
        · rintro rfl
          rw [List.reverse_nil, List.nil_append, begins_cons_iff] at hleft
          exact Bool.not_eq_true _ ▸ hleft
        · intro hbegins
          refine hleft ((begins_append ?_).2 hbegins)
          intro hnil
          rw [hnil] at hbegins
          exact not_begins_nil hbegins

/-! ### Runs and fillings -/

variable {filling : List α → Prop} {stop : α → Bool} {out : List α}

/-- Elements of another kind in front of a text are in none of its runs. -/
theorem hasRun_append (hne : run ≠ []) (hrun : ∀ x ∈ run, p x = true)
    {front : List (Option α)} (hfront : ∀ x ∈ front, x.any p = false) (hnil : front ≠ [])
    (inner : Bool) : HasRun p run inner (front ++ marked) ↔ HasRun p run false marked := by
  obtain ⟨y, tail, hy⟩ := List.exists_cons_of_ne_nil hne
  induction front generalizing inner with
  | nil => exact absurd rfl hnil
  | cons x front ih =>
    have hx : x.any p = false := hfront x List.mem_cons_self
    have hno : ¬∃ right, x :: (front ++ marked) = run.map some ++ right ∧ ¬Begins p right := by
      rintro ⟨right, heq, -⟩
      rw [hy] at heq
      rw [(List.cons.inj heq).1, Option.any_some, hrun y (hy ▸ List.mem_cons_self)] at hx
      cases hx
    rw [List.cons_append, HasRun, hx, or_iff_right fun h => hno h.2]
    by_cases hend : front = []
    · rw [hend, List.nil_append]
    · exact ih (fun z hz => hfront z (List.mem_cons_of_mem _ hz)) hend false

/-- **A filling changes no run.** -/
theorem Fills.hasRun_iff (h : Fills filling stop marked out)
    (hfilling : ∀ text, filling text → text ≠ [] ∧ ∀ x ∈ text, p x = false)
    (hstop : ∀ x, stop x = true → p x = false) (hne : run ≠ []) (hrun : ∀ x ∈ run, p x = true)
    (inner : Bool) : HasRun p run inner (out.map some) ↔ HasRun p run inner marked := by
  induction h generalizing inner with
  | nil => exact Iff.rfl
  | @keep x marked out h ih =>
    rw [List.map_cons, HasRun, HasRun, ih]
    refine or_congr_left (and_congr_right fun _ => ?_)
    -- both begin with the same stretch, and the run is that stretch
    obtain ⟨marked', hmarked, hbehind, -⟩ := (Fills.keep x h).stretch (p := p) (fun text htext => by
      obtain ⟨hnil, hall⟩ := hfilling text htext
      obtain ⟨y, rest, rfl⟩ := List.exists_cons_of_ne_nil hnil
      exact ⟨y, rest, rfl, hall y List.mem_cons_self⟩) hstop
    have hout : some x :: out.map some = ((x :: out).takeWhile p).map some ++
        ((x :: out).dropWhile p).map some := by
      rw [← List.map_append, List.takeWhile_append_dropWhile, List.map_cons]
    have houtBehind : ¬Begins p (((x :: out).dropWhile p).map some) := by
      cases hdrop : (x :: out).dropWhile p with
      | nil => exact not_begins_nil
      | cons y rest =>
        have hy := List.head?_dropWhile_not p (x :: out)
        rw [hdrop] at hy
        rw [List.map_cons, begins_map_cons]
        exact fun hyes => absurd (hy.symm.trans hyes) Bool.false_ne_true
    have htake : ∀ y ∈ (x :: out).takeWhile p, p y = true := fun y hy => List.mem_takeWhile_imp hy
    constructor
    · rintro ⟨right, heq, hright⟩
      obtain ⟨hsame, -⟩ := stretch_unique (heq.symm.trans hout) hrun htake hright houtBehind
      exact ⟨marked', by rw [hmarked, hsame], hbehind⟩
    · rintro ⟨right, heq, hright⟩
      obtain ⟨hsame, -⟩ := stretch_unique (heq.symm.trans hmarked) hrun htake hright hbehind
      exact ⟨_, by rw [hout, hsame], houtBehind⟩
  | @fill n text marked out htext hn h ih =>
    obtain ⟨hnil, hall⟩ := hfilling text htext
    rw [List.map_append, hasRun_append hne hrun (fun y hy => by
      obtain ⟨x, hx, rfl⟩ := List.mem_map.1 hy
      exact hall x hx) (fun hmap => hnil (List.map_eq_nil_iff.1 hmap)), ih]
    cases n with
    | zero =>
      obtain rfl | ⟨x, rest, rfl, hx⟩ := hn rfl
      · exact Iff.rfl
      · have hfront : ∀ y ∈ [some x], y.any p = false := by
          intro y hy
          rw [List.mem_singleton.1 hy]
          exact hstop x hx
        have hcons (inner : Bool) : HasRun p run inner (some x :: rest) ↔ HasRun p run false rest :=
          hasRun_append hne hrun hfront (List.cons_ne_nil _ _) inner
        rw [List.replicate_zero, List.nil_append, hcons, hcons]
    | succ n =>
      have hfront : ∀ y ∈ List.replicate (n + 1) (none : Option α), y.any p = false := by
        intro y hy
        rw [List.eq_of_mem_replicate hy]
        rfl
      exact (hasRun_append hne hrun hfront (List.cons_ne_nil _ _) inner).symm

/-! ### Runs by position -/

/-- The element that shows at a position. -/
def shownAt (marked : List (Option α)) (pos : Nat) : Option α := marked[pos]?.join

/-- A run that begins at a position. -/
structure RunAt (p : α → Bool) (marked : List (Option α)) (pos : Nat) (run : List α) : Prop where
  here : ∀ i, i < run.length → shownAt marked (pos + i) = run[i]?
  inside : ∀ x ∈ run, p x = true
  before : ∀ i x, i + 1 = pos → shownAt marked i = some x → p x = false
  behind : ∀ x, shownAt marked (pos + run.length) = some x → p x = false

theorem shownAt_append (left right : List (Option α)) (i : Nat) :
    shownAt (left ++ right) (left.length + i) = shownAt right i := by
  rw [shownAt, shownAt, List.getElem?_append_right (Nat.le_add_right _ _), Nat.add_sub_cancel_left]

theorem shownAt_map_append {right : List (Option α)} {i : Nat} (h : i < run.length) :
    shownAt (run.map some ++ right) i = run[i]? := by
  rw [shownAt, List.getElem?_append_left (by rwa [List.length_map]), List.getElem?_map,
    List.getElem?_eq_getElem h]
  rfl

theorem begins_iff_shownAt : Begins p marked ↔ ∃ x, shownAt marked 0 = some x ∧ p x = true := by
  cases marked with
  | nil =>
    constructor
    · exact fun h => absurd h not_begins_nil
    · rintro ⟨x, hx, -⟩
      cases hx
  | cons y marked =>
    have hy : shownAt (y :: marked) 0 = y := by
      cases y <;> rfl
    rw [hy, begins_cons_iff]
    exact Option.any_eq_true p y

theorem begins_reverse_iff : Begins p marked.reverse ↔
    ∃ i x, i + 1 = marked.length ∧ shownAt marked i = some x ∧ p x = true := by
  obtain rfl | ⟨front, last, rfl⟩ := List.eq_nil_or_concat marked
  · constructor
    · exact fun h => absurd h not_begins_nil
    · rintro ⟨i, x, hi, -, -⟩
      cases hi
  · have hlast : shownAt (front ++ [last]) front.length = last := by
      have h := shownAt_append front [last] 0
      rw [Nat.add_zero] at h
      rw [h]
      cases last <;> rfl
    rw [List.concat_eq_append, List.reverse_append, List.reverse_singleton, List.singleton_append,
      begins_cons_iff, List.length_append, List.length_singleton]
    constructor
    · intro h
      obtain ⟨x, hx, hp⟩ := (Option.any_eq_true p last).1 h
      exact ⟨front.length, x, rfl, hlast.trans hx, hp⟩
    · rintro ⟨i, x, hi, hx, hp⟩
      obtain rfl := Nat.succ.inj hi
      rw [hlast] at hx
      rw [hx, Option.any_some, hp]

/-- A run at a position stands between two parts of the text. -/
theorem runAt_iff (hne : run ≠ []) {pos : Nat} : RunAt p marked pos run ↔
    (∀ x ∈ run, p x = true) ∧ ∃ left right, marked = left ++ (run.map some ++ right) ∧
      left.length = pos ∧ ¬Begins p left.reverse ∧ ¬Begins p right := by
  constructor
  · intro h
    refine ⟨h.inside, ?_⟩
    have hstarts : run.map some <+: marked.drop pos := by
      rw [List.prefix_iff_getElem?]
      intro i hi
      rw [List.length_map] at hi
      have hshown := h.here i hi
      rw [List.getElem?_eq_getElem hi, shownAt, Option.join_eq_some_iff] at hshown
      rw [List.getElem?_drop, hshown, List.getElem_map]
    obtain ⟨right, hright⟩ := hstarts
    have hinside : pos < marked.length := by
      by_contra hout
      have hnil := List.drop_eq_nil_of_le (Nat.le_of_not_lt hout)
      rw [hnil] at hright
      exact hne (List.map_eq_nil_iff.1 (List.append_eq_nil_iff.1 hright).1)
    have hlength : (marked.take pos).length = pos := by
      rw [List.length_take]
      omega
    have hsplit : marked = marked.take pos ++ (run.map some ++ right) := by
      rw [hright, List.take_append_drop]
    generalize marked.take pos = left at hlength hsplit
    subst hlength hsplit
    refine ⟨left, right, rfl, rfl, ?_, ?_⟩
    · intro hbegins
      obtain ⟨i, x, hi, hx, hp⟩ := begins_reverse_iff.1 hbegins
      have hno := h.before i x hi (by
        rw [← hx, shownAt, shownAt, List.getElem?_append_left (by omega)])
      rw [hp] at hno
      cases hno
    · intro hbegins
      obtain ⟨x, hx, hp⟩ := begins_iff_shownAt.1 hbegins
      have hend := shownAt_append (run.map some) right 0
      rw [List.length_map, Nat.add_zero] at hend
      have hno := h.behind x (by rw [shownAt_append, hend, hx])
      rw [hp] at hno
      cases hno
  · rintro ⟨hrun, left, right, rfl, rfl, hleft, hright⟩
    refine ⟨?_, hrun, ?_, ?_⟩
    · intro i hi
      rw [shownAt_append, shownAt_map_append hi]
    · intro i x hi hx
      refine Bool.eq_false_iff.2 fun hp => hleft (begins_reverse_iff.2 ⟨i, x, hi, ?_, hp⟩)
      rw [← hx, shownAt, shownAt, List.getElem?_append_left (by omega)]
    · intro x hx
      refine Bool.eq_false_iff.2 fun hp => hright (begins_iff_shownAt.2 ⟨x, ?_, hp⟩)
      have hend := shownAt_append (run.map some) right 0
      rw [List.length_map, Nat.add_zero] at hend
      rw [← hend, ← shownAt_append left, hx]

/-- A run stands at a position. -/
theorem exists_runAt_iff (hne : run ≠ []) (hrun : ∀ x ∈ run, p x = true) :
    HasRun p run false marked ↔ ∃ pos, RunAt p marked pos run := by
  rw [hasRun_iff hne]
  constructor
  · rintro ⟨left, right, hsplit, -, hleft, hright⟩
    exact ⟨left.length, (runAt_iff hne).2 ⟨hrun, left, right, hsplit, rfl, hleft, hright⟩⟩
  · rintro ⟨pos, h⟩
    obtain ⟨-, left, right, hsplit, -, hleft, hright⟩ := (runAt_iff hne).1 h
    exact ⟨left, right, hsplit, fun _ => rfl, hleft, hright⟩

/-- A text begins with a stretch of each kind. -/
theorem exists_stretch (p : α → Bool) (marked : List (Option α)) :
    ∃ (stretch : List α) (rest : List (Option α)), marked = stretch.map some ++ rest ∧
      (∀ x ∈ stretch, p x = true) ∧ ¬Begins p rest := by
  induction marked with
  | nil => exact ⟨[], [], rfl, fun x hx => (by cases hx), not_begins_nil⟩
  | cons y marked ih =>
    by_cases hbegins : Begins p (y :: marked)
    · obtain ⟨x, rest, heq, hx⟩ := hbegins
      obtain ⟨rfl, rfl⟩ := List.cons.inj heq
      obtain ⟨stretch, rest, rfl, hall, hrest⟩ := ih
      refine ⟨x :: stretch, rest, rfl, ?_, hrest⟩
      intro z hz
      obtain rfl | hz := List.mem_cons.1 hz
      · exact hx
      · exact hall z hz
    · exact ⟨[], y :: marked, rfl, fun x hx => (by cases hx), hbegins⟩

/-- Each element of a run shows and is of the kind. -/
theorem RunAt.shows {pos : Nat} (h : RunAt p marked pos run) (place : Nat) (hle : pos ≤ place)
    (hlt : place < pos + run.length) : ∃ x, shownAt marked place = some x ∧ p x = true := by
  obtain ⟨i, rfl⟩ := Nat.exists_eq_add_of_le hle
  have hi : i < run.length := Nat.lt_of_add_lt_add_left hlt
  refine ⟨run[i], ?_, h.inside _ (List.getElem_mem hi)⟩
  rw [h.here i hi, List.getElem?_eq_getElem hi]

theorem RunAt.start_le {pos pos' place : Nat} {run' : List α} (h : RunAt p marked pos run)
    (h' : RunAt p marked pos' run') (hle : pos ≤ place)
    (hlt' : place < pos' + run'.length) : pos ≤ pos' := by
  by_contra hlater
  obtain ⟨x, hx, hp⟩ := h'.shows (pos - 1) (by omega) (by omega)
  have hno := h.before (pos - 1) x (by omega) hx
  rw [hp] at hno
  cases hno

theorem RunAt.length_le {pos : Nat} {run' : List α} (h : RunAt p marked pos run)
    (h' : RunAt p marked pos run') : run'.length ≤ run.length := by
  by_contra hlonger
  obtain ⟨x, hx, hp⟩ := h'.shows (pos + run.length) (by omega) (by omega)
  have hno := h.behind x hx
  rw [hp] at hno
  cases hno

/-- **Runs that share a position are the same.** -/
theorem RunAt.unique {pos pos' place : Nat} {run' : List α} (h : RunAt p marked pos run)
    (h' : RunAt p marked pos' run') (hin : pos ≤ place ∧ place < pos + run.length)
    (hin' : pos' ≤ place ∧ place < pos' + run'.length) : pos = pos' ∧ run = run' := by
  obtain rfl : pos = pos' :=
    Nat.le_antisymm (h.start_le h' hin.1 hin'.2) (h'.start_le h hin'.1 hin.2)
  have hlength : run.length = run'.length :=
    Nat.le_antisymm (h'.length_le h) (h.length_le h')
  refine ⟨rfl, List.ext_getElem? fun i => ?_⟩
  by_cases hi : i < run.length
  · rw [← h.here i hi, h'.here i (hlength ▸ hi)]
  · rw [List.getElem?_eq_none (Nat.le_of_not_lt hi),
      List.getElem?_eq_none (by rw [← hlength]; exact Nat.le_of_not_lt hi)]

/-! ### Blanks at positions -/

theorem shownAt_blank_of_not {gone : Nat → Prop} {pos : Nat} (h : ¬gone pos) :
    shownAt (blank marked gone) pos = shownAt marked pos := by
  have hdrop := drop_blank marked gone pos
  have hhead (texts : List (Option α)) : shownAt texts pos = shownAt (texts.drop pos) 0 := by
    rw [shownAt, shownAt, List.getElem?_drop, Nat.add_zero]
  rw [hhead, hdrop, hhead marked]
  cases marked.drop pos with
  | nil => rfl
  | cons x rest => rw [blank_cons (by rwa [Nat.add_zero])]; rfl

theorem shownAt_blank_of {gone : Nat → Prop} {pos : Nat} (h : gone pos) :
    shownAt (blank marked gone) pos = none := by
  have hdrop := drop_blank marked gone pos
  have hhead (texts : List (Option α)) : shownAt texts pos = shownAt (texts.drop pos) 0 := by
    rw [shownAt, shownAt, List.getElem?_drop, Nat.add_zero]
  rw [hhead, hdrop]
  cases marked.drop pos with
  | nil => rfl
  | cons x rest =>
    have hzero : gone (pos + 0) := h
    rw [blank, if_pos hzero]
    rfl

/-- What shows behind a blanking showed before, and is not blanked. -/
theorem shownAt_blank_eq_some_iff {gone : Nat → Prop} {pos : Nat} {x : α} :
    shownAt (blank marked gone) pos = some x ↔ shownAt marked pos = some x ∧ ¬gone pos := by
  by_cases h : gone pos
  · rw [shownAt_blank_of h]
    constructor
    · intro hx
      cases hx
    · exact fun hx => absurd h hx.2
  · rw [shownAt_blank_of_not h]
    exact (and_iff_left h).symm

/-- A run of which nothing is blanked stays a run. -/
theorem RunAt.kept {gone : Nat → Prop} {pos : Nat} (h : RunAt p marked pos run)
    (hkept : ∀ i, i < run.length → ¬gone (pos + i)) : RunAt p (blank marked gone) pos run where
  here i hi := by rw [shownAt_blank_of_not (hkept i hi), h.here i hi]
  inside := h.inside
  before i x hi hx := h.before i x hi (shownAt_blank_eq_some_iff.1 hx).1
  behind x hx := h.behind x (shownAt_blank_eq_some_iff.1 hx).1

/-- A run behind a blanking was one before, if nothing of its kind is blanked next to it. -/
theorem RunAt.of_blank {gone : Nat → Prop} {pos : Nat} (h : RunAt p (blank marked gone) pos run)
    (hbefore : ∀ i x, i + 1 = pos → gone i → shownAt marked i = some x → p x = false)
    (hbehind : ∀ x, gone (pos + run.length) → shownAt marked (pos + run.length) = some x →
      p x = false) :
    RunAt p marked pos run ∧ ∀ i, i < run.length → ¬gone (pos + i) := by
  have hkept (i : Nat) (hi : i < run.length) :
      shownAt marked (pos + i) = run[i]? ∧ ¬gone (pos + i) := by
    have hshown := h.here i hi
    rw [List.getElem?_eq_getElem hi, shownAt_blank_eq_some_iff] at hshown
    rwa [List.getElem?_eq_getElem hi]
  refine ⟨⟨fun i hi => (hkept i hi).1, h.inside, ?_, ?_⟩, fun i hi => (hkept i hi).2⟩
  · intro i x hi hx
    by_cases hgone : gone i
    · exact hbefore i x hi hgone hx
    · exact h.before i x hi (shownAt_blank_eq_some_iff.2 ⟨hx, hgone⟩)
  · intro x hx
    by_cases hgone : gone (pos + run.length)
    · exact hbehind x hgone hx
    · exact h.behind x (shownAt_blank_eq_some_iff.2 ⟨hx, hgone⟩)

end SecondDisplay.Blanks
