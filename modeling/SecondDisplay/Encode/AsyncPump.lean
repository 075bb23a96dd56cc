import SecondDisplay.Library.Transitions

/-!
# The pump of an asynchronous transform (`DrainAvailableAsync`, `PumpAsync`)

An asynchronous transform asks for every input with an event in a queue, and `PumpAsync` answers
one request with its sample.  A request that a drain takes is kept in one flag.  The model has the
transform deliver its events at any time, between any two calls of `GetEvent`; what the pump has
taken and what it has fed agree exactly in the runs in which no drain takes a request while one is
kept (`answered_iff`).
-/

namespace SecondDisplay.AsyncPump

open SecondDisplay.Transitions

/-! ### The pump -/

/-- `MediaEventType`. -/
inductive MediaEvent where
  /-- `METransformNeedInput`. -/
  | needInput
  /-- `METransformHaveOutput`. -/
  | haveOutput
  | other
  deriving DecidableEq

/-- Where the encoder stands in `PumpAsync`. -/
inductive Pc where
  /-- Not in a call. -/
  | idle
  /-- In `DrainAvailableAsync`, at the head of the call or behind `ProcessInput`. -/
  | draining (fed : Bool)
  /-- In the waiting `GetEvent`. -/
  | waiting
  /-- Before `ProcessInput`. -/
  | feeding
  deriving DecidableEq

/-- The pump with the queue of the transform. -/
structure Pump where
  /-- The events that have not been taken. -/
  queue : List MediaEvent
  pendingNeedInput : Bool
  pc : Pc
  /-- The requests that the transform has made, and those that have been taken from its queue. -/
  requested : Nat
  taken : Nat
  /-- The calls of `ProcessInput` and of `ProcessOutput`. -/
  inputs : Nat
  outputs : Nat
  deriving DecidableEq

/-- `Configure` has made a transform. -/
def start : Pump := ⟨[], false, .idle, 0, 0, 0, 0⟩

/-- The steps. -/
inductive Event where
  /-- The transform queues an event. -/
  | deliver (event : MediaEvent)
  /-- `EncodeNv12` calls `PumpAsync`. -/
  | pump
  /-- `GetEvent`, which may fail. -/
  | getEvent (failed : Bool)
  /-- `ProcessInput`. -/
  | processInput

/-- `DrainAvailableAsync` returns. -/
def drained (s : Pump) (fed : Bool) : Pump :=
  { s with pc := if fed then .idle else if s.pendingNeedInput then .feeding else .waiting }

/-- `GetEvent` with `MF_EVENT_FLAG_NO_WAIT`, in `DrainAvailableAsync`. -/
def drain (s : Pump) (fed failed : Bool) : Pump :=
  if failed then drained s fed
  else
    match s.queue with
    | [] => drained s fed
    | .haveOutput :: queue => { s with queue := queue, outputs := s.outputs + 1 }
    | .needInput :: queue =>
      drained { s with queue := queue, taken := s.taken + 1, pendingNeedInput := true } fed
    | .other :: queue => { s with queue := queue }

/-- The waiting `GetEvent`, `none` as long as it blocks. -/
def await (s : Pump) (failed : Bool) : Option Pump :=
  if failed then some { s with pc := .idle }
  else
    match s.queue with
    | [] => none
    | .haveOutput :: queue => some { s with queue := queue, outputs := s.outputs + 1 }
    | .needInput :: queue => some { s with queue := queue, taken := s.taken + 1, pc := .feeding }
    | .other :: queue => some { s with queue := queue }

/-- One step, or `none` where the event cannot happen. -/
def step (s : Pump) : Event → Option Pump
  | .deliver event =>
    some { s with
      queue := s.queue ++ [event]
      requested := s.requested + if event = .needInput then 1 else 0 }
  | .pump => if s.pc = .idle then some { s with pc := .draining false } else none
  | .getEvent failed =>
    match s.pc with
    | .draining fed => some (drain s fed failed)
    | .waiting => await s failed
    | _ => none
  | .processInput =>
    if s.pc = .feeding then
      some { s with pendingNeedInput := false, inputs := s.inputs + 1, pc := .draining true }
    else none

/-! ### Requests -/

/-- A request has been taken and not answered: the flag keeps it, or the waiting loop has just left
with it. -/
def Pump.recorded (s : Pump) : Bool := s.pendingNeedInput || s.pc == .feeding

/-- The requests that have been taken, beyond those that were answered or are recorded. -/
def Pump.dropped (s : Pump) : Int := s.taken - s.inputs - s.recorded.toNat

/-- The waiting `GetEvent` has nothing to return. -/
def Pump.blocked (s : Pump) : Prop := s.pc = .waiting ∧ s.queue = []

/-- No drain takes a request while one is kept. -/
def KeepsOne (s : Pump) (e : Event) : Prop :=
  ¬(s.pc = .draining false ∧ s.pendingNeedInput = true ∧ e = .getEvent false ∧
    s.queue.head? = some .needInput)

/-- What holds between the steps. -/
structure Inv (s : Pump) : Prop where
  /-- The requests are in the queue or have been taken. -/
  requested : s.requested = s.taken + s.queue.count .needInput
  /-- Nothing is kept in the waiting loop, and behind `ProcessInput`. -/
  free : s.pc = .waiting ∨ s.pc = .draining true → s.pendingNeedInput = false

theorem inv_start : Inv start := ⟨rfl, fun _ => rfl⟩

variable {s s' : Pump}

theorem recorded_of_ne (h : s.pc ≠ .feeding) : s.recorded = s.pendingNeedInput := by
  rw [Pump.recorded, beq_eq_false_iff_ne.2 h, Bool.or_false]

theorem recorded_of_feeding (h : s.pc = .feeding) : s.recorded = true := by
  rw [Pump.recorded, h, BEq.rfl, Bool.or_true]

/-- Where `DrainAvailableAsync` returns to, what it keeps is recorded. -/
theorem recorded_drained (s : Pump) (fed : Bool) :
    (drained s fed).recorded = s.pendingNeedInput := by
  cases fed with
  | true => exact Bool.or_false _
  | false =>
    cases hkept : s.pendingNeedInput with
    | true => simp only [Pump.recorded, drained, hkept, Bool.true_or]
    | false => simp [Pump.recorded, drained, hkept]

theorem inv_drained (h : s.requested = s.taken + s.queue.count .needInput) (fed : Bool) :
    Inv (drained s fed) := by
  refine ⟨h, fun hpc => ?_⟩
  cases fed with
  | true => rcases hpc with hpc | hpc <;> cases hpc
  | false =>
    by_contra hkept
    rw [Bool.not_eq_false] at hkept
    have hkept' : s.pendingNeedInput = true := hkept
    simp [drained, hkept'] at hpc

/-- `dropped` in another state. -/
theorem dropped_congr (htaken : s'.taken = s.taken) (hinputs : s'.inputs = s.inputs)
    (hrecorded : s'.recorded = s.recorded) : s'.dropped = s.dropped := by
  rw [Pump.dropped, Pump.dropped, htaken, hinputs, hrecorded]

/-- A call of `GetEvent` in `DrainAvailableAsync`. -/
theorem drain_counts {fed failed : Bool} (h : Inv s) (hpc : s.pc = .draining fed) :
    Inv (drain s fed failed) ∧
      (KeepsOne s (.getEvent failed) ∧ (drain s fed failed).dropped = s.dropped ∨
        ¬KeepsOne s (.getEvent failed) ∧ s.dropped < (drain s fed failed).dropped) := by
  have hrecorded : s.recorded = s.pendingNeedInput := recorded_of_ne (by rw [hpc]; rintro ⟨⟩)
  have returns (hkeeps : KeepsOne s (.getEvent failed)) :
      Inv (drained s fed) ∧
        (KeepsOne s (.getEvent failed) ∧ (drained s fed).dropped = s.dropped ∨
          ¬KeepsOne s (.getEvent failed) ∧ s.dropped < (drained s fed).dropped) :=
    ⟨inv_drained h.requested fed, Or.inl ⟨hkeeps,
      dropped_congr rfl rfl ((recorded_drained s fed).trans hrecorded.symm)⟩⟩
  cases failed with
  | true =>
    rw [drain, if_pos rfl]
    exact returns (by rintro ⟨-, -, ⟨⟩, -⟩)
  | false =>
    rw [drain, if_neg Bool.false_ne_true]
    cases hqueue : s.queue with
    | nil => exact returns (by rintro ⟨-, -, -, hhead⟩; rw [hqueue] at hhead; cases hhead)
    | cons event queue =>
      have hrequested := h.requested
      rw [hqueue, List.count_cons] at hrequested
      cases event with
      | haveOutput | other =>
        refine ⟨⟨hrequested, h.free⟩, Or.inl ⟨?_, rfl⟩⟩
        rintro ⟨-, -, -, hhead⟩
        rw [hqueue] at hhead
        cases hhead
      | needInput =>
        have htaken : s.requested = (s.taken + 1) + queue.count .needInput := by
          rw [hrequested]
          simp only [BEq.rfl, if_true]
          omega
        refine ⟨inv_drained htaken fed, ?_⟩
        -- One more has been taken, and it is the one that is recorded.
        have hdropped :
            (drained
              { s with queue := queue, taken := s.taken + 1, pendingNeedInput := true }
              fed).dropped = s.dropped + s.pendingNeedInput.toNat := by
          rw [Pump.dropped, recorded_drained, Pump.dropped, hrecorded]
          simp only [drained, Bool.toNat_true]
          omega
        cases hkept : s.pendingNeedInput with
        | false =>
          rw [hkept] at hdropped
          refine Or.inl ⟨?_, hdropped.trans (Int.add_zero _)⟩
          rintro ⟨-, hpending, -⟩
          cases hkept.symm.trans hpending
        | true =>
          rw [hkept] at hdropped
          have hhead : fed = false := by
            by_contra hfed
            rw [Bool.not_eq_false] at hfed
            cases hkept.symm.trans (h.free (Or.inr (hfed ▸ hpc)))
          refine Or.inr ⟨fun hkeeps => hkeeps ⟨hhead ▸ hpc, hkept, rfl, by rw [hqueue]; rfl⟩, ?_⟩
          rw [hdropped]
          exact Int.lt_add_one_iff.2 (Int.le_refl _)

/-- A call of `GetEvent` in the waiting loop. -/
theorem await_counts {failed : Bool} (h : Inv s) (hpc : s.pc = .waiting)
    (hawait : await s failed = some s') : Inv s' ∧ s'.dropped = s.dropped := by
  have hfree := h.free (Or.inl hpc)
  have hrecorded : s.recorded = s.pendingNeedInput := recorded_of_ne (by rw [hpc]; rintro ⟨⟩)
  cases failed with
  | true =>
    cases hawait
    exact ⟨⟨h.requested, fun _ => hfree⟩,
      dropped_congr rfl rfl ((recorded_of_ne (by rintro ⟨⟩)).trans hrecorded.symm)⟩
  | false =>
    rw [await, if_neg Bool.false_ne_true] at hawait
    have hrequested := h.requested
    cases hqueue : s.queue with
    | nil =>
      rw [hqueue] at hawait
      cases hawait
    | cons event queue =>
      rw [hqueue] at hawait
      rw [hqueue, List.count_cons] at hrequested
      cases event with
      | haveOutput | other =>
        cases hawait
        exact ⟨⟨hrequested, h.free⟩, rfl⟩
      | needInput =>
        cases hawait
        refine ⟨⟨?_, fun _ => hfree⟩, ?_⟩
        · rw [hrequested]
          simp only [BEq.rfl, if_true]
          omega
        · rw [Pump.dropped, Pump.dropped, recorded_of_feeding rfl, hrecorded, hfree]
          simp only [Bool.toNat_true, Bool.toNat_false]
          omega

/-- **Every step.**  What has been dropped is one more exactly where a drain takes a request while
one is kept. -/
theorem step_counts {e : Event} (h : Inv s) (hstep : step s e = some s') :
    Inv s' ∧ (KeepsOne s e ∧ s'.dropped = s.dropped ∨ ¬KeepsOne s e ∧ s.dropped < s'.dropped) := by
  cases e with
  | deliver event =>
    cases hstep
    refine ⟨⟨?_, h.free⟩, Or.inl ⟨by rintro ⟨-, -, ⟨⟩, -⟩, rfl⟩⟩
    dsimp only
    rw [List.count_append, h.requested]
    cases event with
    | needInput => simp; omega
    | haveOutput | other => simp
  | pump =>
    simp only [step] at hstep
    split at hstep
    case isFalse => cases hstep
    case isTrue hpc =>
      cases hstep
      refine ⟨⟨h.requested, ?_⟩, Or.inl ⟨by rintro ⟨-, -, ⟨⟩, -⟩, ?_⟩⟩
      · rintro (hwait | hdrain)
        · cases hwait
        · cases hdrain
      · refine dropped_congr rfl rfl ?_
        rw [recorded_of_ne (by rintro ⟨⟩), recorded_of_ne (by rw [hpc]; rintro ⟨⟩)]
  | getEvent failed =>
    simp only [step] at hstep
    split at hstep
    case h_1 fed hpc =>
      cases hstep
      exact drain_counts h hpc
    case h_2 hpc =>
      obtain ⟨hinv, hsame⟩ := await_counts h hpc hstep
      refine ⟨hinv, Or.inl ⟨?_, hsame⟩⟩
      rintro ⟨hdrain, -⟩
      cases hpc.symm.trans hdrain
    case h_3 => cases hstep
  | processInput =>
    simp only [step] at hstep
    split at hstep
    case isFalse => cases hstep
    case isTrue hpc =>
      cases hstep
      refine ⟨⟨h.requested, fun _ => rfl⟩, Or.inl ⟨by rintro ⟨-, -, ⟨⟩, -⟩, ?_⟩⟩
      rw [Pump.dropped, Pump.dropped, recorded_of_feeding hpc, recorded_of_ne (by rintro ⟨⟩)]
      simp only [Bool.toNat_true, Bool.toNat_false]
      omega

/-! ### Every run -/

/-- What the pump has taken, it has answered, apart from the request that is recorded. -/
def Accounted (s : Pump) : Prop := s.taken = s.inputs + s.recorded.toNat

/-- Where the books balance, the waiting `GetEvent` blocks only with every request answered. -/
theorem answered_of_blocked (h : Inv s) (hacc : Accounted s) (hblocked : s.blocked) :
    s.requested = s.inputs := by
  have hrecorded : s.recorded = false := by
    rw [recorded_of_ne (by rw [hblocked.1]; rintro ⟨⟩)]
    exact h.free (Or.inl hblocked.1)
  rw [h.requested, hblocked.2, hacc, hrecorded]
  rfl

/-- **Every request is answered.**  In a run the requests that were taken are those that were
answered, and one that is recorded, and the pump never blocks on a transform that waits for an
input, exactly if no drain takes a request while one is kept. -/
theorem answered_iff (events : List Event) (s : Pump) (hrun : run step start events = some s) :
    (Accounted s ∧ (s.blocked → s.requested = s.inputs)) ↔ Along step KeepsOne start events := by
  have hinv : Inv s := run_invariant (fun _ _ _ h hstep => (step_counts h hstep).1) inv_start hrun
  obtain ⟨-, hiff⟩ := along_iff_counter (f := Pump.dropped) (P := KeepsOne)
    (fun _ _ _ h hstep => step_counts h hstep) inv_start hrun
  have hdropped : Accounted s ↔ s.dropped = start.dropped := by
    show s.taken = s.inputs + s.recorded.toNat ↔
      (s.taken : Int) - s.inputs - s.recorded.toNat = 0
    omega
  rw [← hiff, ← hdropped]
  constructor
  · intro h
    exact h.1
  · intro hacc
    exact ⟨hacc, answered_of_blocked hinv hacc⟩

/-- A call of `PumpAsync` that finds a request behind its drain. -/
def callWithRequest : List Event :=
  [.pump, .getEvent false, .processInput, .getEvent false]

/-- One request is made for every input. -/
def oneByOne : List Event :=
  [.deliver .needInput] ++ callWithRequest ++ [.deliver .needInput, .deliver .haveOutput] ++
    callWithRequest ++ [.getEvent false]

instance decidableKeepsOne (s : Pump) : ∀ e, Decidable (KeepsOne s e)
  | .getEvent false =>
    decidable_of_iff (¬(s.pc = .draining false ∧ s.pendingNeedInput = true ∧
      s.queue.head? = some .needInput)) (by simp [KeepsOne])
  | .getEvent true | .deliver _ | .pump | .processInput => .isTrue (by rintro ⟨-, -, ⟨⟩, -⟩)

theorem answered_iff_oneByOne :
    ∃ s, run step start oneByOne = some s ∧ s.inputs = 2 ∧ Accounted s := by
  refine ⟨⟨[], false, .idle, 2, 2, 2, 1⟩, by decide, rfl, ?_⟩
  exact ((answered_iff oneByOne _ (by decide)).2 (by decide)).1

/-- The transform makes three requests at once. -/
def threeAtOnce : List Event :=
  List.replicate 3 (.deliver .needInput) ++ callWithRequest ++ callWithRequest ++
    [.pump, .getEvent false]

/-- The second call takes two of the requests and answers one, and the third call blocks. -/
theorem answered_fails_threeAtOnce :
    ∃ s, run step start threeAtOnce = some s ∧ ¬Accounted s ∧ s.blocked ∧ s.requested = 3 ∧
      s.inputs = 2 := by
  refine ⟨⟨[], false, .waiting, 3, 3, 2, 0⟩, by decide, ?_, ⟨rfl, rfl⟩, rfl, rfl⟩
  show ¬(3 = 2 + 0)
  decide

end SecondDisplay.AsyncPump
