import SecondDisplay.Display.VirtualDisplay

/-!
# The answer of `EnsureResolution`

The long way through `EnsureResolution` ends with a look at the monitor's current mode; the short
way only remembers that this mode was asked for before.  What is remembered is written before any
of the work is done and Windows does not keep to it, so `true` is wrong exactly where the short way
meets a monitor in another mode (`answers_true_iff`).
-/

namespace SecondDisplay.Resolution

open SecondDisplay.Transitions SecondDisplay.VirtualDisplay

/-! ### Wrong answers -/

/-- `EnsureResolution` has returned `true` with the claimed monitor missing or in another mode. -/
def wrong : Act → Bool
  | .ensured request result current => result && current != some request
  | .added _ | .removed _ => false

/-- The wrong answers that have been given. -/
def wrongAnswers (s : Display) : Int := s.log.countP wrong

/-- The short way takes the remembered mode for the current one. -/
def Stale (s : Display) (request : Mode) : Prop :=
  s.device = true ∧ 0 ≤ s.displayIndex ∧ s.target = request ∧
    s.currentMode.isSome = true ∧ s.currentMode ≠ some request

instance decidableStale (s : Display) (request : Mode) : Decidable (Stale s request) :=
  inferInstanceAs (Decidable (_ ∧ _ ∧ _ ∧ _ ∧ _))

/-- A call finds the monitor in the mode that is remembered, if it goes the short way. -/
def Current (s : Display) (e : Event) : Prop :=
  ∀ request, e = .ensureResolution request true → ¬Stale s request

/-- A call remembers what it was asked for. -/
def Remembered (s : Display) : Prop :=
  ∀ request stage, s.pc = .ensuring request stage → s.target = request

variable {s s' : Display} {request : Mode}

theorem remembered_start : Remembered start := by
  rintro _ _ ⟨⟩

theorem remembered_goes (h : s.target = request) (stage : Stage) :
    Remembered (s.goes request stage) := by
  rintro _ _ ⟨⟩
  exact h

theorem remembered_returns (s : Display) (request : Mode) (result : Bool) :
    Remembered (s.returns request result) := by
  rintro _ _ ⟨⟩

theorem wrongAnswers_false (s : Display) (request : Mode) :
    wrongAnswers (s.returns request false) = wrongAnswers s := by
  show ((Act.ensured request false s.currentMode :: s.log).countP wrong : Int) = _
  rw [List.countP_cons_of_neg (by rintro ⟨⟩)]
  rfl

theorem wrongAnswers_true (h : s.currentMode = some request) :
    wrongAnswers (s.returns request true) = wrongAnswers s := by
  show ((Act.ensured request true s.currentMode :: s.log).countP wrong : Int) = _
  rw [List.countP_cons_of_neg]
  · rfl
  · rw [h]
    simp [wrong]

theorem wrongAnswers_wrong (h : s.currentMode ≠ some request) :
    wrongAnswers (s.returns request true) = wrongAnswers s + 1 := by
  show ((Act.ensured request true s.currentMode :: s.log).countP wrong : Int) = _
  rw [List.countP_cons_of_pos]
  · exact Int.natCast_succ _
  · simp [wrong, h]

/-- The call itself: only the short way may answer wrongly. -/
theorem call_counted (s : Display) (request : Mode) (queried : Bool) :
    Remembered (s.ensureResolution request queried) ∧
      (Current s (.ensureResolution request queried) ∧
          wrongAnswers (s.ensureResolution request queried) = wrongAnswers s ∨
        ¬Current s (.ensureResolution request queried) ∧
          wrongAnswers s < wrongAnswers (s.ensureResolution request queried)) := by
  unfold Display.ensureResolution
  split
  case isTrue hclosed =>
    refine ⟨remembered_returns s request false, Or.inl ⟨?_, wrongAnswers_false s request⟩⟩
    rintro _ ⟨⟩ ⟨hopen, -⟩
    rw [hclosed] at hopen
    cases hopen
  case isFalse hopen =>
    split
    case isTrue hshort =>
      obtain ⟨hindex, htarget, hquery⟩ := hshort
      obtain ⟨rfl, hattached⟩ := Bool.and_eq_true_iff.1 hquery
      refine ⟨remembered_returns s request true, ?_⟩
      by_cases hmode : s.currentMode = some request
      · left
        refine ⟨?_, wrongAnswers_true hmode⟩
        rintro _ ⟨⟩ ⟨-, -, -, -, hother⟩
        exact hother hmode
      · right
        refine ⟨fun hnow => ?_, ?_⟩
        · exact hnow request rfl
            ⟨Bool.of_not_eq_false hopen, hindex, htarget, hattached, hmode⟩
        · rw [wrongAnswers_wrong hmode]
          exact Int.lt_add_one_iff.2 (Int.le_refl _)
    case isFalse hlong =>
      refine ⟨?_, Or.inl ⟨?_, rfl⟩⟩
      · rintro _ _ ⟨⟩
        rfl
      · rintro _ ⟨⟩ ⟨-, hindex, htarget, hattached, -⟩
        refine hlong ⟨hindex, htarget, ?_⟩
        rw [Display.queryMonitorRect, hattached]
        rfl

/-- The last look at the monitor: it answers only what it sees. -/
theorem settle_kept (htarget : s.target = request) (waited : Nat) (rect mode : Bool) :
    Remembered (s.settle request waited rect mode) ∧
      wrongAnswers (s.settle request waited rect mode) = wrongAnswers s := by
  unfold Display.settle
  split
  case isTrue h =>
    obtain ⟨-, -, hcurrent⟩ := h
    rw [htarget] at hcurrent
    exact ⟨remembered_returns s request true, wrongAnswers_true hcurrent⟩
  case isFalse => exact ⟨remembered_goes htarget _, rfl⟩

theorem poll_kept (htarget : s.target = request) (before : List WString) (waited : Nat)
    (queries : List Query) :
    Remembered (s.poll request before waited queries) ∧
      wrongAnswers (s.poll request before waited queries) = wrongAnswers s := by
  unfold Display.poll
  split
  · exact ⟨remembered_goes htarget _, rfl⟩
  · refine ⟨?_, rfl⟩
    rintro _ _ ⟨⟩
    exact htarget
  · exact ⟨remembered_goes htarget _, rfl⟩

theorem add_kept (htarget : s.target = request) (before : List WString) (idx : Int) :
    Remembered (s.add request before idx) ∧
      wrongAnswers (s.add request before idx) = wrongAnswers s := by
  unfold Display.add
  split
  · exact ⟨remembered_returns s request false, wrongAnswers_false s request⟩
  · refine ⟨?_, ?_⟩
    · rintro _ _ ⟨⟩
      exact htarget
    · show ((Act.added idx :: s.log).countP wrong : Int) = _
      rw [List.countP_cons_of_neg (by rintro ⟨⟩)]
      rfl

theorem wrongAnswers_remove (s : Display) : wrongAnswers s.remove = wrongAnswers s := by
  show ((Act.removed s.displayIndex :: s.log).countP wrong : Int) = _
  rw [List.countP_cons_of_neg (by rintro ⟨⟩)]
  rfl

theorem close_kept (hpc : s.pc = .idle) :
    Remembered s.close ∧ wrongAnswers s.close = wrongAnswers s := by
  have hidle : s.close.pc = .idle := by
    unfold Display.close
    split <;> exact hpc
  refine ⟨fun request stage h => ?_, ?_⟩
  · rw [hidle] at h
    cases h
  · unfold Display.close
    split
    · exact wrongAnswers_remove s
    · rfl

/-- **One step.**  The wrong answers go up exactly where the short way meets another mode. -/
theorem step_counted (hi : Remembered s) {e : Event} (h : step s e = some s') :
    Remembered s' ∧ (Current s e ∧ wrongAnswers s' = wrongAnswers s ∨
      ¬Current s e ∧ wrongAnswers s < wrongAnswers s') := by
  have hcurrent (he : ∀ request, e ≠ .ensureResolution request true)
      (hkept : Remembered s' ∧ wrongAnswers s' = wrongAnswers s) :
      Remembered s' ∧ (Current s e ∧ wrongAnswers s' = wrongAnswers s ∨
        ¬Current s e ∧ wrongAnswers s < wrongAnswers s') :=
    ⟨hkept.1, Or.inl ⟨fun request heq => absurd heq (he request), hkept.2⟩⟩
  cases step_cases h with
  | windows desktop => exact hcurrent (by rintro _ ⟨⟩) ⟨hi, rfl⟩
  | openDevice opened hpc hclosed => exact hcurrent (by rintro _ ⟨⟩) ⟨hi, rfl⟩
  | close hpc => exact hcurrent (by rintro _ ⟨⟩) (close_kept hpc)
  | ensureResolution request queried hpc => exact call_counted s request queried
  | registered known direct elevated hpc =>
    exact hcurrent (by rintro _ ⟨⟩) ⟨remembered_goes (hi _ _ hpc) _, rfl⟩
  | notRegistered known direct elevated hpc =>
    exact hcurrent (by rintro _ ⟨⟩) ⟨remembered_returns s _ false, wrongAnswers_false s _⟩
  | remove hpc =>
    have htarget : s.remove.target = _ := hi _ _ hpc
    exact hcurrent (by rintro _ ⟨⟩) ⟨remembered_goes htarget _, wrongAnswers_remove s⟩
  | drop hpc =>
    refine hcurrent (by rintro _ ⟨⟩) ⟨remembered_returns s.remove _ false, ?_⟩
    exact (wrongAnswers_false s.remove _).trans (wrongAnswers_remove s)
  | locked hpc => exact hcurrent (by rintro _ ⟨⟩) ⟨remembered_goes (hi _ _ hpc) _, rfl⟩
  | notLocked hpc =>
    exact hcurrent (by rintro _ ⟨⟩) ⟨remembered_returns s _ false, wrongAnswers_false s _⟩
  | snapshot queries hpc =>
    exact hcurrent (by rintro _ ⟨⟩) ⟨remembered_goes (hi _ _ hpc) _, rfl⟩
  | add idx hpc => exact hcurrent (by rintro _ ⟨⟩) (add_kept (hi _ _ hpc) _ idx)
  | poll queries hpc => exact hcurrent (by rintro _ ⟨⟩) (poll_kept (hi _ _ hpc) _ _ queries)
  | place he hpc hstage hnext =>
    refine hcurrent (fun request heq => ?_) ⟨remembered_goes (hi _ _ hpc) _, rfl⟩
    rw [heq] at he
    cases he
  | settle rect mode hpc =>
    exact hcurrent (by rintro _ ⟨⟩) (settle_kept (hi _ _ hpc) _ rect mode)

theorem wrongAnswers_eq_zero :
    wrongAnswers s = 0 ↔
      ∀ request current, .ensured request true current ∈ s.log → current = some request := by
  rw [wrongAnswers, Int.natCast_eq_zero, List.countP_eq_zero]
  constructor
  · intro h request current hmem
    simpa [wrong] using h _ hmem
  · intro h act hmem
    cases act with
    | added idx => rintro ⟨⟩
    | removed idx => rintro ⟨⟩
    | ensured request result current =>
      cases result with
      | false => rintro ⟨⟩
      | true => simp [wrong, h request current hmem]

/-- **The truth of `true`.**  In every run, every `EnsureResolution` that has returned `true` has
returned with the claimed monitor attached in the mode asked for, exactly if no call met the
remembered target, a display and an attached monitor in another mode. -/
theorem answers_true_iff {events : List Event} (h : run step start events = some s) :
    (∀ request current, .ensured request true current ∈ s.log → current = some request) ↔
      Along step Current start events := by
  have hcount := along_iff_counter (I := Remembered) (P := Current) (f := wrongAnswers)
    (fun _ _ _ hi hstep => step_counted hi hstep) remembered_start h
  rw [← wrongAnswers_eq_zero]
  exact hcount.2

instance decidableCurrent (s : Display) : ∀ e, Decidable (Current s e)
  | .ensureResolution request true =>
    decidable_of_iff (¬Stale s request)
      ⟨by rintro h _ ⟨⟩; exact h, fun h => h request rfl⟩
  | .ensureResolution _ false | .openDevice _ | .close | .register _ _ _ | .remove | .lock _
  | .snapshot _ | .add _ | .poll _ | .attach _ _ _ _ | .appear _ | .extend _ | .exactMode _ _
  | .settle _ _ | .windows _ => .isTrue (by rintro _ ⟨⟩)

/-- The same size is asked for again, and the monitor still has it. -/
def reconnected : List Event := pluggedIn ++ [.ensureResolution panel true]

theorem answers_true_iff_reconnected :
    ∃ s, run step start reconnected = some s ∧ s.log.length = 3 ∧
      ∀ request current, .ensured request true current ∈ s.log → current = some request := by
  have hrun : run step start reconnected = some
      { start with
        device := true
        displayIndex := 0
        target := panel
        deviceName := wide "DISPLAY21"
        monitorPathKey := wide "display#psccdd0#1"
        desktop := [(wide "DISPLAY21", panel)]
        log := [.ensured panel true (some panel), .ensured panel true (some panel),
          .added 0] } := by
    decide +kernel
  exact ⟨_, hrun, rfl, (answers_true_iff hrun).2 (by decide +kernel)⟩

/-- A rotation cannot register its size, and is asked for once more. -/
def refusedTwice : List Event :=
  pluggedIn ++ [.ensureResolution ⟨1668, 2388, 60⟩ true, .register false false false,
    .ensureResolution ⟨1668, 2388, 60⟩ true]

/-- The second answer is `true`, over a monitor that has kept the old size. -/
theorem answers_true_fails_refusedTwice :
    ∃ s, run step start refusedTwice = some s ∧
      .ensured ⟨1668, 2388, 60⟩ true (some panel) ∈ s.log ∧
      ¬∀ request current, .ensured request true current ∈ s.log → current = some request := by
  have hrun : run step start refusedTwice = some
      { start with
        device := true
        displayIndex := 0
        target := ⟨1668, 2388, 60⟩
        deviceName := wide "DISPLAY21"
        monitorPathKey := wide "display#psccdd0#1"
        desktop := [(wide "DISPLAY21", panel)]
        log := [.ensured ⟨1668, 2388, 60⟩ true (some panel),
          .ensured ⟨1668, 2388, 60⟩ false (some panel), .ensured panel true (some panel),
          .added 0] } := by
    decide +kernel
  refine ⟨_, hrun, List.mem_cons_self, fun hall => ?_⟩
  exact absurd (hall _ _ List.mem_cons_self) (by decide)

end SecondDisplay.Resolution
