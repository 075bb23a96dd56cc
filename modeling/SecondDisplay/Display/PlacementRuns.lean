import SecondDisplay.Display.SavedPosition

/-!
# From one placement to the next (`src/display/VirtualDisplay.cpp`)

Any number of senders place their monitors, poll where the user drags them and unplug them again;
a run interleaves their calls in any order, each of which reads and writes the registry in one go.
What a sender finds at its next placement is what its polls remembered (`next_place`), or where an
attempt that failed wanted to put it (`place_after_failure`).
-/

namespace SecondDisplay.SavedPosition

open VirtualDisplay (WString wide)
open InputInjector (Rect Point)
open SecondDisplay.Transitions

/-! ### The senders -/

/-- `lastKnownPos` before the first observation. -/
def unseen : Point := ⟨Int32.minValue, Int32.minValue⟩

/-- The part of a `VirtualDisplay` that has to do with the place of its monitor. -/
structure Sender where
  /-- The keepalive thread runs. -/
  running : Bool := false
  /-- `lastKnownPos`. -/
  lastKnown : Point := unseen
  deviceName : WString := []
  /-- `posX` and `posY` while `FindMonitorGeometry` attaches the monitor. -/
  placing : Option Point := none
  monitorRect : Rect := {}

def topLeft (r : Rect) : Point := ⟨r.left, r.top⟩

/-- `VirtualDisplay::PollPosition`, with what `GetMonitorRectByName` finds. -/
def pollPosition (identity : Identity) (seen : Option Rect) (answers : Answers) (sender : Sender)
    (registry : Registry) : Sender × Registry :=
  if sender.deviceName.isEmpty then (sender, registry)
  else
    match seen with
    | none => (sender, registry)
    | some r =>
      if sender.lastKnown.x = Int32.minValue then
        ({ sender with lastKnown := topLeft r }, registry)
      else if topLeft r ≠ sender.lastKnown then
        ({ sender with monitorRect := r, lastKnown := topLeft r },
          savePosition identity answers (topLeft r) registry)
      else (sender, registry)

/-- All senders and the registry of the user. -/
structure State (ι : Type*) where
  senders : ι → Sender
  registry : Registry

inductive Event (ι : Type*) where
  /-- `Open`: the keepalive thread starts. -/
  | opened (i : ι)
  /-- `Close`: it has ended. -/
  | closed (i : ι)
  /-- `FindMonitorGeometry` has claimed a monitor and chosen its place. -/
  | claimed (i : ι) (name : WString) (answers : Answers) (desktop : Desktop)
  /-- `FindMonitorGeometry` has attached the monitor and returns `true`. -/
  | settled (i : ι) (answers : Answers)
  /-- The monitor is unplugged, for another mode or because it could not be attached. -/
  | removed (i : ι)
  /-- `QueryMonitorRect` has found it. -/
  | measured (i : ι) (rect : Rect)
  /-- `PollPosition`. -/
  | polled (i : ι) (seen : Option Rect) (answers : Answers)

variable {ι : Type*} [DecidableEq ι] (identity : ι → Identity)

/-- One sender's step. -/
def State.put (s : State ι) (i : ι) (sender : Sender) (registry : Registry) : State ι :=
  ⟨Function.update s.senders i sender, registry⟩

/-- What an event does. -/
def step (s : State ι) : Event ι → Option (State ι)
  | .opened i =>
    if (s.senders i).running then none
    else some (s.put i { s.senders i with running := true, lastKnown := unseen } s.registry)
  | .closed i =>
    if (s.senders i).running then some (s.put i { s.senders i with running := false } s.registry)
    else none
  | .claimed i name answers desktop =>
    if name.isEmpty || (s.senders i).placing.isSome then none
    else
      let (p, registry) := chosenPosition (identity i) answers desktop s.registry
      some (s.put i { s.senders i with deviceName := name, placing := some p } registry)
  | .settled i answers =>
    match (s.senders i).placing with
    | none => none
    | some p =>
      some (s.put i { s.senders i with placing := none }
        (savePosition (identity i) answers p s.registry))
  | .removed i =>
    some (s.put i { s.senders i with deviceName := [], placing := none, monitorRect := {} }
      s.registry)
  | .measured i rect => some (s.put i { s.senders i with monitorRect := rect } s.registry)
  | .polled i seen answers =>
    if (s.senders i).running then
      let (sender, registry) := pollPosition (identity i) seen answers (s.senders i) s.registry
      some (s.put i sender registry)
    else none

/-- Whose event it is. -/
def Event.sender : Event ι → ι
  | .opened i => i
  | .closed i => i
  | .claimed i _ _ _ => i
  | .settled i _ => i
  | .removed i => i
  | .measured i _ => i
  | .polled i _ _ => i

/-! ### What a step changes -/

variable {identity} {s s' : State ι} {e : Event ι}

theorem registry_pollPosition (a : Identity) (seen : Option Rect) (answers : Answers)
    (sender : Sender) (registry : Registry) :
    (pollPosition a seen answers sender registry).2 = registry ∨
      ∃ p, (pollPosition a seen answers sender registry).2 = savePosition a answers p registry := by
  unfold pollPosition
  split
  · exact Or.inl rfl
  · split
    · exact Or.inl rfl
    · split
      · exact Or.inl rfl
      · split
        · exact Or.inr ⟨_, rfl⟩
        · exact Or.inl rfl

theorem registry_chosenPosition (a : Identity) (answers : Answers) (desktop : Desktop)
    (registry : Registry) :
    (chosenPosition a answers desktop registry).2 = registry ∨
      (∃ p, (chosenPosition a answers desktop registry).2 = savePosition a answers p registry) ∨
      takeShared a answers registry ≠ none ∧
        (chosenPosition a answers desktop registry).2 = dropShared answers registry := by
  rw [chosenPosition_eq]
  cases readOwn a answers registry with
  | some p => exact Or.inl rfl
  | none =>
    cases takeShared a answers registry with
    | some p => exact Or.inr (Or.inr ⟨Option.some_ne_none p, rfl⟩)
    | none => exact Or.inr (Or.inl ⟨_, rfl⟩)

/-- **What a step does to the registry.** -/
theorem step_registry (h : step identity s e = some s') :
    s'.registry = s.registry ∨
      (∃ answers p, s'.registry = savePosition (identity e.sender) answers p s.registry) ∨
      ∃ answers, takeShared (identity e.sender) answers s.registry ≠ none ∧
        s'.registry = dropShared answers s.registry := by
  cases e with
  | opened i =>
    simp only [step, Option.ite_none_left_eq_some, Option.some.injEq] at h
    exact Or.inl (h.2 ▸ rfl)
  | closed i =>
    simp only [step, Option.ite_none_right_eq_some, Option.some.injEq] at h
    exact Or.inl (h.2 ▸ rfl)
  | claimed i name answers desktop =>
    simp only [step, Option.ite_none_left_eq_some, Option.some.injEq] at h
    rw [← h.2]
    obtain hsame | ⟨p, hsave⟩ | hdrop :=
      registry_chosenPosition (identity i) answers desktop s.registry
    · exact Or.inl hsame
    · exact Or.inr (Or.inl ⟨answers, p, hsave⟩)
    · exact Or.inr (Or.inr ⟨answers, hdrop⟩)
  | settled i answers =>
    simp only [step] at h
    cases hp : (s.senders i).placing with
    | none => simp [hp] at h
    | some p =>
      simp only [hp, Option.some.injEq] at h
      exact Or.inr (Or.inl ⟨answers, p, h ▸ rfl⟩)
  | removed i => exact Or.inl (Option.some.inj h ▸ rfl)
  | measured i rect => exact Or.inl (Option.some.inj h ▸ rfl)
  | polled i seen answers =>
    simp only [step, Option.ite_none_right_eq_some, Option.some.injEq] at h
    rw [← h.2]
    obtain hsame | ⟨p, hsave⟩ :=
      registry_pollPosition (identity i) seen answers (s.senders i) s.registry
    · exact Or.inl hsame
    · exact Or.inr (Or.inl ⟨answers, p, hsave⟩)

/-- A step leaves the other senders alone. -/
theorem step_other (h : step identity s e = some s') {i : ι} (hi : i ≠ e.sender) :
    s'.senders i = s.senders i := by
  have hput (sender : Sender) (registry : Registry) :
      (s.put e.sender sender registry).senders i = s.senders i := Function.update_of_ne hi _ _
  cases e with
  | opened j =>
    simp only [step, Option.ite_none_left_eq_some, Option.some.injEq] at h
    exact h.2 ▸ hput _ _
  | closed j =>
    simp only [step, Option.ite_none_right_eq_some, Option.some.injEq] at h
    exact h.2 ▸ hput _ _
  | claimed j name answers desktop =>
    simp only [step, Option.ite_none_left_eq_some, Option.some.injEq] at h
    exact h.2 ▸ hput _ _
  | settled j answers =>
    simp only [step] at h
    cases hp : (s.senders j).placing with
    | none => simp [hp] at h
    | some p =>
      simp only [hp, Option.some.injEq] at h
      exact h ▸ hput _ _
  | removed j => exact Option.some.inj h ▸ hput _ _
  | measured j rect => exact Option.some.inj h ▸ hput _ _
  | polled j seen answers =>
    simp only [step, Option.ite_none_right_eq_some, Option.some.injEq] at h
    exact h.2 ▸ hput _ _

/-- The older installation's key is only read. -/
theorem step_legacy (h : step identity s e = some s') : s'.registry.legacy = s.registry.legacy := by
  obtain hsame | ⟨answers, p, hsave⟩ | ⟨answers, -, hdrop⟩ := step_registry h
  · rw [hsame]
  · rw [hsave, legacy_savePosition]
  · rw [hdrop]
    rfl

/-- A step leaves the place of a sender with another slot alone. -/
theorem step_saved_of_ne (h : step identity s e = some s') {a : Identity} (ha : a ≠ [])
    (hslot : slot (identity e.sender) ≠ slot a) : saved a s'.registry = saved a s.registry := by
  obtain hsame | ⟨answers, p, hsave⟩ | ⟨answers, -, hdrop⟩ := step_registry h
  · rw [hsame]
  · rw [hsave, saved_savePosition_of_ne hslot]
  · rw [hdrop, saved_dropShared ha]

/-- Nobody saves a shared place. -/
theorem step_saved_nil (h : step identity s e = some s') (hnames : ∀ i, identity i ≠ [])
    (hnone : saved [] s.registry = none) : saved [] s'.registry = none := by
  obtain hsame | ⟨answers, p, hsave⟩ | ⟨answers, htaken, -⟩ := step_registry h
  · rw [hsame, hnone]
  · have hslot : slot (identity e.sender) ≠ slot [] := mt slot_eq_nil.1 (hnames e.sender)
    rw [hsave, saved_savePosition_of_ne hslot, hnone]
  · rw [takeShared, hnone, ite_self] at htaken
    exact absurd rfl htaken

/-! ### What the poll remembers -/

/-- The last place that was observed, once not all were the same; before that, where the monitor
was put. -/
def remembered (placed : Point) (seen : List Point) : Point :=
  if ∀ q ∈ seen, seen.head? = some q then placed else seen.getLastD placed

/-- The first observation is not kept. -/
theorem remembered_single (placed q : Point) : remembered placed [q] = placed := by
  simp [remembered]

/-- A place that is observed again changes nothing. -/
theorem remembered_append_same (placed q : Point) (seen : List Point) :
    remembered placed ((seen ++ [q]) ++ [q]) = remembered placed (seen ++ [q]) := by
  have hhead : ((seen ++ [q]) ++ [q]).head? = (seen ++ [q]).head? := by cases seen <;> rfl
  have hall : (∀ x ∈ (seen ++ [q]) ++ [q], ((seen ++ [q]) ++ [q]).head? = some x) ↔
      ∀ x ∈ seen ++ [q], (seen ++ [q]).head? = some x := by
    rw [hhead]
    constructor
    · intro h x hx
      exact h x (List.mem_append_left _ hx)
    · intro h x hx
      rcases List.mem_append.1 hx with hx | hx
      · exact h x hx
      · exact h x (List.mem_append_right _ hx)
  simp only [remembered, hall, List.getLastD_concat]

/-- Another place is kept. -/
theorem remembered_append_ne {placed q r : Point} (h : r ≠ q) (seen : List Point) :
    remembered placed ((seen ++ [q]) ++ [r]) = r := by
  have hmoved : ¬∀ x ∈ (seen ++ [q]) ++ [r], ((seen ++ [q]) ++ [r]).head? = some x := by
    intro hall
    have hq := hall q (by simp)
    have hr := hall r (by simp)
    exact h (Option.some.inj (hr.symm.trans hq))
  rw [remembered, if_neg hmoved]
  simp

/-- What the keepalive thread has seen so far, as far as it matters. -/
def baseline (sender : Sender) : List Point :=
  if sender.lastKnown.x = Int32.minValue then [] else [sender.lastKnown]

theorem baseline_of_ne {sender : Sender} (h : sender.lastKnown.x ≠ Int32.minValue) :
    baseline sender = [sender.lastKnown] := if_neg h

/-- **One poll.**  If what is saved is what the observations so far are remembered by, it still is
when the poll is over. -/
theorem pollPosition_remembered {a : Identity} {answers : Answers} {sender : Sender}
    {registry : Registry} {placed : Point} {seen : List Point} {r : Rect}
    (hname : sender.deviceName ≠ []) (hall : answers.savesAll) (hr : r.left ≠ Int32.minValue)
    (hseen : baseline sender = seen.getLast?.toList)
    (hsaved : saved a registry = some (remembered placed seen)) :
    baseline (pollPosition a (some r) answers sender registry).1 = [topLeft r] ∧
      saved a (pollPosition a (some r) answers sender registry).2 =
        some (remembered placed (seen ++ [topLeft r])) := by
  have hopen : sender.deviceName.isEmpty = false := by simpa using hname
  simp only [pollPosition, hopen, Bool.false_eq_true, if_false]
  rcases seen.eq_nil_or_concat with hnil | ⟨before, q, hlast⟩
  · subst hnil
    have hfirst : sender.lastKnown.x = Int32.minValue := by
      by_contra hx
      rw [baseline_of_ne hx] at hseen
      simp at hseen
    rw [if_pos hfirst]
    refine ⟨baseline_of_ne hr, ?_⟩
    rw [hsaved, List.nil_append, remembered_single]
    rfl
  · rw [List.concat_eq_append] at hlast
    subst hlast
    have hx : sender.lastKnown.x ≠ Int32.minValue := by
      intro hx
      rw [baseline, if_pos hx] at hseen
      simp at hseen
    have hq : sender.lastKnown = q := by
      rw [baseline_of_ne hx] at hseen
      simpa using hseen
    rw [if_neg hx, hq]
    by_cases hsame : topLeft r = q
    · rw [if_neg (not_not_intro hsame), hsame]
      refine ⟨by rw [baseline_of_ne hx, hq], ?_⟩
      rw [hsaved, remembered_append_same]
    · rw [if_pos hsame]
      refine ⟨baseline_of_ne hr, ?_⟩
      rw [saved_savePosition hall, remembered_append_ne hsame]

theorem deviceName_pollPosition (a : Identity) (seen : Option Rect) (answers : Answers)
    (sender : Sender) (registry : Registry) :
    (pollPosition a seen answers sender registry).1.deviceName = sender.deviceName := by
  unfold pollPosition
  split
  · rfl
  · split
    · rfl
    · split
      · rfl
      · split <;> rfl

/-! ### From one placement to the next -/

/-- Where a poll of this sender has found the monitor. -/
def Event.seenBy (i : ι) : Event ι → Option Point
  | .polled j (some r) _ => if j = i then some (topLeft r) else none
  | _ => none

/-- An event of another sender, or one that happens while the monitor of this one is in use: a poll
whose saves are granted, or a look at the geometry. -/
def Event.Quiet (i : ι) : Event ι → Prop
  | .polled j seen answers =>
    j = i → answers.savesAll ∧ ∀ r, seen = some r → r.left ≠ Int32.minValue
  | .measured _ _ => True
  | e => e.sender ≠ i

/-- `FindMonitorGeometry` works on a monitor with a name. -/
def Named (sender : Sender) : Prop := sender.placing ≠ none → sender.deviceName ≠ []

theorem step_named (h : step identity s e = some s') (hs : ∀ i, Named (s.senders i)) (i : ι) :
    Named (s'.senders i) := by
  by_cases hi : i = e.sender
  · subst hi
    have hput {sender : Sender} {registry : Registry} (hnamed : Named sender) :
        Named ((s.put e.sender sender registry).senders e.sender) := by
      rw [State.put]
      simpa only [Function.update_self] using hnamed
    cases e with
    | opened j =>
      simp only [step, Option.ite_none_left_eq_some, Option.some.injEq] at h
      exact h.2 ▸ hput (hs j)
    | closed j =>
      simp only [step, Option.ite_none_right_eq_some, Option.some.injEq] at h
      exact h.2 ▸ hput (hs j)
    | claimed j name answers desktop =>
      simp only [step, Option.ite_none_left_eq_some, Option.some.injEq] at h
      have hname : name ≠ [] := by
        intro hnil
        exact h.1 (by simp [hnil])
      exact h.2 ▸ hput fun _ => hname
    | settled j answers =>
      simp only [step] at h
      cases hp : (s.senders j).placing with
      | none => simp [hp] at h
      | some p =>
        simp only [hp, Option.some.injEq] at h
        exact h ▸ hput fun hnone => absurd rfl hnone
    | removed j => exact Option.some.inj h ▸ hput fun hnone => absurd rfl hnone
    | measured j rect => exact Option.some.inj h ▸ hput (hs j)
    | polled j seen answers =>
      simp only [step, Option.ite_none_right_eq_some, Option.some.injEq] at h
      have hplacing : (pollPosition (identity j) seen answers (s.senders j) s.registry).1.placing =
          (s.senders j).placing := by
        unfold pollPosition
        split
        · rfl
        · split
          · rfl
          · split
            · rfl
            · split <;> rfl
      refine h.2 ▸ hput fun hsome => ?_
      rw [deviceName_pollPosition]
      exact hs j (hplacing ▸ hsome)
  · rw [step_other h hi]
    exact hs i

/-- The monitor is in use, and what is saved is what the observations are remembered by. -/
structure Kept (a : Identity) (placed : Point) (seen : List Point) (sender : Sender)
    (registry : Registry) : Prop where
  named : sender.deviceName ≠ []
  last : baseline sender = seen.getLast?.toList
  saved : saved a registry = some (remembered placed seen)

/-- A quiet step adds what it observes. -/
theorem kept_step {i : ι} {placed : Point} {seen : List Point}
    (hkept : Kept (identity i) placed seen (s.senders i) s.registry)
    (hi : identity i ≠ []) (hslots : ∀ j, j ≠ i → slot (identity j) ≠ slot (identity i))
    (hquiet : e.Quiet i) (h : step identity s e = some s') :
    Kept (identity i) placed (seen ++ (e.seenBy i).toList) (s'.senders i) s'.registry := by
  by_cases hother : i = e.sender
  · cases e with
    | opened j => exact absurd hother.symm hquiet
    | closed j => exact absurd hother.symm hquiet
    | claimed j name answers desktop => exact absurd hother.symm hquiet
    | settled j answers => exact absurd hother.symm hquiet
    | removed j => exact absurd hother.symm hquiet
    | measured j rect =>
      have hs' := Option.some.inj h
      have hij : i = j := hother
      subst hij
      subst hs'
      simp only [Event.seenBy, Option.toList_none, List.append_nil, State.put, Function.update_self]
      exact ⟨hkept.named, hkept.last, hkept.saved⟩
    | polled j seen' answers =>
      have hij : i = j := hother
      subst hij
      obtain ⟨hall, hr⟩ := hquiet rfl
      simp only [step, Option.ite_none_right_eq_some, Option.some.injEq] at h
      rw [← h.2]
      simp only [State.put, Function.update_self]
      cases seen' with
      | none =>
        have hsame : pollPosition (identity i) none answers (s.senders i) s.registry =
            (s.senders i, s.registry) := ite_self _
        rw [hsame]
        simpa [Event.seenBy] using hkept
      | some r =>
        obtain ⟨hlast, hsaved⟩ :=
          pollPosition_remembered hkept.named hall (hr r rfl) hkept.last hkept.saved
        refine ⟨?_, ?_, ?_⟩
        · rw [deviceName_pollPosition]
          exact hkept.named
        · simpa [Event.seenBy] using hlast
        · simpa [Event.seenBy] using hsaved
  · have hnone : e.seenBy i = none := by
      cases e with
      | polled j seen' answers =>
        cases seen' with
        | none => rfl
        | some r => exact if_neg (Ne.symm hother)
      | _ => rfl
    rw [hnone, Option.toList_none, List.append_nil, step_other h hother]
    refine ⟨hkept.named, hkept.last, ?_⟩
    rw [step_saved_of_ne h hi (hslots e.sender (Ne.symm hother)), hkept.saved]

theorem kept_run {i : ι} {placed : Point} {seen : List Point} {events : List (Event ι)}
    (hkept : Kept (identity i) placed seen (s.senders i) s.registry)
    (hi : identity i ≠ []) (hslots : ∀ j, j ≠ i → slot (identity j) ≠ slot (identity i))
    (hquiet : ∀ e ∈ events, Event.Quiet i e) (h : run (step identity) s events = some s') :
    Kept (identity i) placed (seen ++ events.filterMap (Event.seenBy i)) (s'.senders i)
      s'.registry := by
  induction events generalizing s seen with
  | nil =>
    cases h
    simpa using hkept
  | cons e events ih =>
    obtain ⟨next, hstep, hrest⟩ := run_cons_some.1 h
    have hnext := kept_step hkept hi hslots (hquiet e List.mem_cons_self) hstep
    have hend := ih hnext (fun x hx => hquiet x (List.mem_cons_of_mem e hx)) hrest
    rw [List.append_assoc] at hend
    cases hseen : e.seenBy i <;> simpa [hseen, List.filterMap_cons] using hend

/-- An event of another sender, or one that saves nothing. -/
def Event.Silent (i : ι) : Event ι → Prop
  | .settled j _ => j ≠ i
  | .claimed j _ _ _ => j ≠ i
  | .polled j _ _ => j ≠ i
  | _ => True

theorem saved_silent {i : ι} (hi : identity i ≠ [])
    (hslots : ∀ j, j ≠ i → slot (identity j) ≠ slot (identity i)) (hsilent : e.Silent i)
    (h : step identity s e = some s') :
    saved (identity i) s'.registry = saved (identity i) s.registry := by
  by_cases hother : e.sender = i
  · cases e with
    | opened j =>
      simp only [step, Option.ite_none_left_eq_some, Option.some.injEq] at h
      rw [← h.2]
      rfl
    | closed j =>
      simp only [step, Option.ite_none_right_eq_some, Option.some.injEq] at h
      rw [← h.2]
      rfl
    | removed j =>
      rw [← Option.some.inj h]
      rfl
    | measured j rect =>
      rw [← Option.some.inj h]
      rfl
    | claimed j name answers desktop => exact absurd hother hsilent
    | settled j answers => exact absurd hother hsilent
    | polled j seen answers => exact absurd hother hsilent
  · exact step_saved_of_ne h hi (hslots e.sender hother)

theorem saved_run_silent {i : ι} {events : List (Event ι)} (hi : identity i ≠ [])
    (hslots : ∀ j, j ≠ i → slot (identity j) ≠ slot (identity i))
    (hsilent : ∀ e ∈ events, Event.Silent i e) (h : run (step identity) s events = some s') :
    saved (identity i) s'.registry = saved (identity i) s.registry := by
  induction events generalizing s with
  | nil =>
    cases h
    rfl
  | cons e events ih =>
    obtain ⟨next, hfirst, hrest⟩ := run_cons_some.1 h
    rw [ih (fun x hx => hsilent x (List.mem_cons_of_mem e hx)) hrest,
      saved_silent hi hslots (hsilent e List.mem_cons_self) hfirst]

/-- The next claim of a sender reads its own place. -/
theorem chosenPosition_of_saved {a : Identity} {answers : Answers} {registry : Registry} {p : Point}
    (hopen : answers.openMouseLink = true) (h : saved a registry = some p) (desktop : Desktop) :
    (chosenPosition a answers desktop registry).1 = p := by
  have hread : readOwn a answers registry = some p := by rw [readOwn, if_pos hopen, h]
  rw [chosenPosition_eq, hread]

/-- **Where the monitor comes back.**  After a monitor has been attached, used and removed, with any
steps of the other senders in between, its next place is the last one that the polls observed.
Only if they observed one and the same place all the time is it the place it was attached at: what
the first observation of a session sees is not saved. -/
theorem next_place {start : State ι} {i : ι} {before later ending : List (Event ι)} {p : Point}
    {answers : Answers} (hstart : ∀ j, (start.senders j).placing = none)
    (hbefore : run (step identity) start before = some s)
    (hplacing : (s.senders i).placing = some p) (hall : answers.savesAll)
    (hlater : run (step identity) s (.settled i answers :: (later ++ ending)) = some s')
    (hquiet : ∀ e ∈ later, Event.Quiet i e) (hsilent : ∀ e ∈ ending, Event.Silent i e)
    (hi : identity i ≠ []) (hslots : ∀ j, j ≠ i → slot (identity j) ≠ slot (identity i))
    {answers' : Answers} (hopen : answers'.openMouseLink = true) (desktop : Desktop) :
    (chosenPosition (identity i) answers' desktop s'.registry).1 =
      remembered p (baseline (s.senders i) ++ later.filterMap (Event.seenBy i)) := by
  have hnamed : Named (s.senders i) := by
    refine run_invariant (P := fun x : State ι => ∀ j, Named (x.senders j)) ?_ ?_ hbefore i
    · intro x e x' hx hstep j
      exact step_named hstep hx j
    · intro j hj
      exact absurd (hstart j) hj
  obtain ⟨next, hstep, hrest⟩ := run_cons_some.1 hlater
  simp only [step, hplacing, Option.some.injEq] at hstep
  have hkept : Kept (identity i) p (baseline (s.senders i)) (next.senders i) next.registry := by
    rw [← hstep]
    simp only [State.put, Function.update_self]
    refine ⟨hnamed (by simp [hplacing]), ?_, ?_⟩
    · show baseline (s.senders i) = _
      rw [baseline]
      split <;> rfl
    · rw [saved_savePosition hall, baseline]
      split
      · rfl
      · rw [remembered_single]
  rw [run_append, Option.bind_eq_some_iff] at hrest
  obtain ⟨used, hused, hended⟩ := hrest
  have hsaved := saved_run_silent hi hslots hsilent hended
  rw [(kept_run hkept hi hslots hquiet hused).saved] at hsaved
  exact chosenPosition_of_saved hopen hsaved desktop

/-! Two iPads at once: the one is attached at the right edge and dragged to the left of the primary
monitor, while the other one comes and goes. -/

/-- The last digits of the two addresses. -/
def lastDigit (second : Bool) : Identity := if second then [50] else [49]

def empty : State Bool := ⟨fun _ => {}, ⟨none, none⟩⟩

def rectAt (x : Int32) : Rect := ⟨x, 0, x + 800, 600⟩

def attaching : List (Event Bool) := [.opened true, .claimed true (wide "D") {} ⟨0, 0, 1920⟩]

def dragged : List (Event Bool) :=
  [.polled true (some (rectAt 1920)) {}, .opened false, .claimed false (wide "E") {} ⟨0, 0, 2720⟩,
    .settled false {}, .polled true (some (rectAt (-800))) {}, .removed false]

def restarting : List (Event Bool) := [.closed true, .removed true, .opened true]

theorem lastDigit_ne_nil (j : Bool) : lastDigit j ≠ [] := by cases j <;> decide

theorem slot_lastDigit_ne {i j : Bool} (h : j ≠ i) : slot (lastDigit j) ≠ slot (lastDigit i) := by
  cases i <;> cases j <;> first | exact absurd rfl h | decide

theorem dragged_quiet : ∀ e ∈ dragged, Event.Quiet true e := by
  intro e he
  simp only [dragged, List.mem_cons, List.not_mem_nil, or_false] at he
  have hpoll (x : Int32) (hx : x ≠ Int32.minValue) :
      Event.Quiet true (.polled true (some (rectAt x)) {}) := by
    refine fun _ => ⟨by decide, ?_⟩
    intro r hr
    rw [← Option.some.inj hr]
    exact hx
  rcases he with he | he | he | he | he | he <;> subst he
  · exact hpoll 1920 (by decide)
  · exact Bool.false_ne_true
  · exact Bool.false_ne_true
  · exact Bool.false_ne_true
  · exact hpoll (-800) (by decide)
  · exact Bool.false_ne_true

theorem restarting_silent : ∀ e ∈ restarting, Event.Silent true e := by
  intro e he
  simp only [restarting, List.mem_cons, List.not_mem_nil, or_false] at he
  rcases he with he | he | he <;> subst he <;> trivial

theorem next_place_dragged :
    ∃ s s', run (step lastDigit) empty attaching = some s ∧
      run (step lastDigit) s (.settled true {} :: (dragged ++ restarting)) = some s' ∧
      (chosenPosition (lastDigit true) {} ⟨0, 0, 1920⟩ s'.registry).1 = ⟨-800, 0⟩ :=
  ⟨_, _, rfl, rfl, (@next_place Bool _ lastDigit _ _ empty true attaching dragged restarting
    ⟨1920, 0⟩ {} (fun _ => rfl) rfl rfl ⟨rfl, rfl, rfl⟩ rfl dragged_quiet restarting_silent
    (lastDigit_ne_nil true) (fun _ => slot_lastDigit_ne) {} rfl ⟨0, 0, 1920⟩).trans (by decide)⟩

/-! ### What is inherited -/

/-- When a sender has taken over the place of the single-iPad layout, no sender finds it again in
any run; the older installation's key stays as it was. -/
theorem shared_lost {i : ι} {answers : Answers} {name : WString} {desktop : Desktop}
    {later : List (Event ι)} (hnames : ∀ j, identity j ≠ [])
    (htaken : takeShared (identity i) answers s.registry ≠ none)
    (hdelete : answers.deleteX = true ∨ answers.deleteY = true)
    (h : run (step identity) s (.claimed i name answers desktop :: later) = some s') (j : ι)
    (answers' : Answers) :
    takeShared (identity j) answers' s'.registry = none ∧
      legacyPosition (identity j) answers' s'.registry =
        legacyPosition (identity j) answers' s.registry := by
  obtain ⟨next, hstep, hrest⟩ := run_cons_some.1 h
  have hnone : saved [] next.registry = none := by
    simp only [step, Option.ite_none_left_eq_some, Option.some.injEq] at hstep
    rw [← hstep.2]
    show saved [] (chosenPosition (identity i) answers desktop s.registry).2 = none
    have hown : readOwn (identity i) answers s.registry = none := by
      by_contra hread
      apply htaken
      rw [readOwn] at hread
      rw [takeShared, if_neg]
      intro hconds
      rw [hconds.2.1, ite_self] at hread
      exact hread rfl
    obtain ⟨p, hp⟩ := Option.ne_none_iff_exists'.1 htaken
    rw [chosenPosition_eq, hown, hp]
    exact saved_nil_dropShared hdelete s.registry
  have hend : saved [] s'.registry = none :=
    run_invariant (P := fun x : State ι => saved [] x.registry = none)
      (fun x e x' hx hx' => step_saved_nil hx' hnames hx) hnone hrest
  have hlegacy : s'.registry.legacy = s.registry.legacy :=
    run_constant (P := fun _ => True) (f := fun x : State ι => x.registry.legacy)
      (fun x e x' _ hx' => ⟨trivial, step_legacy hx'⟩) trivial h
  refine ⟨?_, legacyPosition_congr hlegacy (identity j) answers'⟩
  rw [takeShared, hend, ite_self]

/-- **A monitor that could not be attached.**  When nothing more of the sender is saved after its
claim, the next claim chooses the same place, unless the place was the shared one: that is lost, and
the next claim takes the older installation's place or the right edge. -/
theorem place_after_failure {i : ι} {answers : Answers} {name : WString} {desktop : Desktop}
    {later : List (Event ι)} (hnames : ∀ j, identity j ≠ [])
    (hslots : ∀ j, j ≠ i → slot (identity j) ≠ slot (identity i)) (hsaves : answers.savesAll)
    (hopen : answers.openMouseLink = true)
    (hdelete : answers.deleteX = true ∨ answers.deleteY = true)
    (h : run (step identity) s (.claimed i name answers desktop :: later) = some s')
    (hsilent : ∀ e ∈ later, Event.Silent i e) {answers' : Answers}
    (hopen' : answers'.openMouseLink = true) (desktop' : Desktop) :
    (chosenPosition (identity i) answers' desktop' s'.registry).1 =
      match takeShared (identity i) answers s.registry with
      | none => (chosenPosition (identity i) answers desktop s.registry).1
      | some _ =>
        (legacyPosition (identity i) answers' s.registry).getD desktop'.rightEdge := by
  obtain ⟨next, hstep, hrest⟩ := run_cons_some.1 h
  have hkeeps := saved_run_silent (hnames i) hslots hsilent hrest
  simp only [step, Option.ite_none_left_eq_some, Option.some.injEq] at hstep
  have hnext : next.registry = (chosenPosition (identity i) answers desktop s.registry).2 := by
    rw [← hstep.2]
    rfl
  cases hown : readOwn (identity i) answers s.registry with
  | some p =>
    have hsaved : saved (identity i) s.registry = some p := by
      rwa [readOwn, if_pos hopen] at hown
    have htake : takeShared (identity i) answers s.registry = none := by
      rw [takeShared, hsaved, if_neg (by simp)]
    rw [hnext, chosenPosition_eq, hown] at hkeeps
    rw [htake, chosenPosition_of_saved hopen' (hkeeps.trans hsaved), chosenPosition_eq, hown]
  | none =>
    cases htake : takeShared (identity i) answers s.registry with
    | none =>
      rw [hnext, chosenPosition_eq, hown, htake] at hkeeps
      rw [chosenPosition_of_saved hopen' (hkeeps.trans (saved_savePosition hsaves _ _ _)),
        chosenPosition_eq, hown, htake]
    | some p =>
      have hgone : saved (identity i) s.registry = none := by
        rwa [readOwn, if_pos hopen] at hown
      rw [hnext, chosenPosition_eq, hown, htake] at hkeeps
      have hown' : readOwn (identity i) answers' s'.registry = none := by
        rw [readOwn, hkeeps, saved_dropShared (hnames i), hgone, ite_self]
      obtain ⟨hshared, hlegacy⟩ := shared_lost hnames (by rw [htake]; simp) hdelete h i answers'
      rw [chosenPosition_eq, hown', hshared, hlegacy]

/-- The user's registry after an upgrade from the single-iPad layout. -/
def upgraded : State Bool :=
  ⟨fun _ => {}, savePosition [] {} ⟨-800, 0⟩ ⟨none, none⟩⟩

theorem removed_silent : ∀ e ∈ [Event.removed true], Event.Silent true e := by
  intro e he
  rw [List.mem_singleton.1 he]
  trivial

theorem place_after_failure_upgraded :
    ∃ s', run (step lastDigit) upgraded
        [.claimed true (wide "D") {} ⟨0, 0, 1920⟩, .removed true] = some s' ∧
      (chosenPosition (lastDigit true) {} ⟨0, 0, 1920⟩ upgraded.registry).1 = ⟨-800, 0⟩ ∧
      (chosenPosition (lastDigit true) {} ⟨0, 0, 1920⟩ s'.registry).1 = ⟨1920, 0⟩ :=
  ⟨_, rfl, by decide, (@place_after_failure Bool _ lastDigit upgraded _ true {} (wide "D")
    ⟨0, 0, 1920⟩ [.removed true] lastDigit_ne_nil (fun _ => slot_lastDigit_ne) ⟨rfl, rfl, rfl⟩ rfl
    (Or.inl rfl) rfl removed_silent {} rfl ⟨0, 0, 1920⟩).trans (by decide)⟩

end SecondDisplay.SavedPosition
