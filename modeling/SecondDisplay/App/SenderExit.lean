import SecondDisplay.App.RunLoopSteps
import SecondDisplay.Library.Transitions

/-!
# The ways out of a sender run

`RunLoop` releases its guard by hand: at the refusal, and at the bottom, behind the reconnect
loop.  The return at an identity mismatch goes past the bottom.  `exit_clean_iff` says that this
is the only way out that leaves the handle open.
-/

namespace SecondDisplay.RunLoop

open SecondDisplay.Protocol SecondDisplay.Transitions

variable {D : Type} (doubles : Doubles D) (args : Arguments)

/-- The handshake reads a hello that is not from the expected device. -/
def Event.mismatch : Event → Bool
  | .read (some frame) =>
    match controlMessage doubles frame with
    | some msg => msg.type == .hello && !helloMatchesExpectedDevice msg.hello args.expectedDeviceId
    | none => false
  | _ => false

/-- The worker is on its way to the return at an identity mismatch, or has taken it. -/
def State.astray (s : State) : Bool :=
  match s.pc with
  | .gotHello _ hello => !helloMatchesExpectedDevice hello args.expectedDeviceId
  | .leaving _ .leaveRun | .unregistering _ .leaveRun => true
  | .done => s.ipLock
  | _ => false

/-- The guard is held from `CreateMutexW` to the ways out. -/
structure Guarded (s : State) : Prop where
  before : s.pc = .guard → s.ipLock = false
  inside : s.pc ≠ .guard → s.pc ≠ .done → s.ipLock = true
  behind : s.pc = .done → s.ipLock = false → s.state = .idle

variable {doubles args} {s s' : State}

/-- A step away from the guard, from a plain place to a plain place. -/
theorem Guarded.keep (h : Guarded s) (hlock : s'.ipLock = s.ipLock) (hguard : s.pc ≠ .guard)
    (hdone : s.pc ≠ .done) (hguard' : s'.pc ≠ .guard) (hdone' : s'.pc ≠ .done) : Guarded s' where
  before hpc := absurd hpc hguard'
  inside _ _ := hlock.trans (h.inside hguard hdone)
  behind hpc := absurd hpc hdone'

/-- A step that leaves the worker where it is. -/
theorem Guarded.stay (h : Guarded s) (hlock : s'.ipLock = s.ipLock) (hpc : s'.pc = s.pc)
    (hstate : s'.state = s.state ∨ s'.state = .idle) : Guarded s' where
  before hguard := hlock.trans (h.before (hpc ▸ hguard))
  inside hguard hdone := hlock.trans (h.inside (hpc ▸ hguard) (hpc ▸ hdone))
  behind hdone hfree := hstate.elim (fun hsame => hsame.trans (h.behind (hpc ▸ hdone)
    (hlock ▸ hfree))) id

theorem guarded_step {e : Event} (h : Guarded s) (hstep : step doubles args s e = some s') :
    Guarded s' := by
  cases does_of_step hstep with
  | guardFails hpc => exact ⟨nofun, fun _ hdone => absurd rfl hdone, fun _ _ => rfl⟩
  | guardExists hpc | guardTaken hpc => exact ⟨nofun, fun _ _ => rfl, nofun⟩
  | refused hpc | tearsDown hpc | tearsDownStopped hpc =>
    exact ⟨nofun, fun _ hdone => absurd rfl hdone, fun _ _ => rfl⟩
  | returns hpc =>
    -- The handle is still open.
    have hheld := h.inside (by rw [hpc]; nofun) (by rw [hpc]; nofun)
    exact ⟨nofun, fun _ _ => hheld, fun _ hfree => nomatch hheld.symm.trans hfree⟩
  | turn hpc hstreams _ hstays =>
    refine h.keep hstreams.ipLock (by rw [hpc]; nofun) (by rw [hpc]; nofun) ?_ ?_ <;>
      rcases hstays with hstays | hstays <;> rw [hstays] <;> nofun
  | @wakes conn ms waited hpc =>
    cases conn <;> exact h.keep rfl (by rw [hpc]; nofun) (by rw [hpc]; nofun) nofun nofun
  | readerRead _ hstreams hpc hstate => exact h.stay hstreams.ipLock hpc (Or.inl hstate)
  | readerReads | readerLeaves | requestStop | callerLocks | callerFindsNone | callerInterrupts
  | callerUnlocks =>
    exact h.stay rfl rfl (Or.inl rfl)
  | stopReturns => exact h.stay rfl rfl (Or.inr rfl)
  | leavesLoop hpc | entersLoop hpc | allowed hpc | blocked hpc | connected hpc
  | unreachable hpc | locksIn hpc | registers hpc | stopsHandshake hpc | reads hpc
  | readsEnd hpc | readsOther hpc | readsHello hpc | noHello hpc | matching hpc | mismatch hpc
  | welcomed hpc | notWelcomed hpc | invalidPanel hpc | validPanel hpc | panelBusy hpc
  | panelAcquired hpc | notBuilt _ hpc | built hpc | endsSession hpc | entersTurn hpc
  | interrupts hpc | joinsClosing hpc | joinsQuietly hpc | joins hpc | locksOut hpc
  | goesRound hpc | breaks hpc | sleepsOn hpc | slice hpc =>
    exact h.keep rfl (by rw [hpc]; nofun) (by rw [hpc]; nofun) nofun nofun

theorem astray_congr (hpc : s'.pc = s.pc) (hlock : s'.ipLock = s.ipLock) :
    s'.astray args = s.astray args := by
  rw [State.astray, State.astray, hpc, hlock]

/-- A step leads astray where it reads a hello that is not from the expected device. -/
theorem astray_step {e : Event} (h : Guarded s) (hstep : step doubles args s e = some s') :
    s'.astray args = (s.astray args || e.mismatch doubles args) := by
  cases does_of_step hstep with
  | readsHello hpc hcontrol htype =>
    simp [State.astray, Event.mismatch, hpc, hcontrol, htype]
  | readsOther hpc hother =>
    simp only [State.astray, Event.mismatch, State.goTo, hpc, Bool.false_or]
    split
    case h_1 msg hmsg => simp [hother msg hmsg]
    case h_2 => rfl
  | matching hpc hsame => simp [State.astray, Event.mismatch, hpc, hsame]
  | mismatch hpc hother => simp [State.astray, Event.mismatch, hpc, hother]
  | guardFails hpc => simp [State.astray, Event.mismatch, hpc, h.before hpc]
  | returns hpc =>
    simp [State.astray, Event.mismatch, hpc, h.inside (by rw [hpc]; nofun) (by rw [hpc]; nofun)]
  | turn hpc _ _ hstays =>
    rcases hstays with hstays | hstays <;> simp [State.astray, Event.mismatch, hpc, hstays]
  | @wakes conn ms waited hpc => cases conn <;> simp [State.astray, Event.mismatch, hpc]
  | readerRead _ hstreams hpc =>
    exact (astray_congr hpc hstreams.ipLock).trans (Bool.or_false _).symm
  | readerReads | readerLeaves | requestStop | callerLocks | callerFindsNone | callerInterrupts
  | callerUnlocks | stopReturns =>
    exact (Bool.or_false _).symm
  | @locksOut c next hpc => cases next <;> simp [State.astray, Event.mismatch, hpc]
  | _ => simp [State.astray, Event.mismatch, *]

/-! ### Every run -/

theorem guarded_start (left : SenderState) : Guarded (start left) :=
  ⟨fun _ => rfl, fun hguard => absurd rfl hguard, nofun⟩

/-- A run is astray exactly if its handshakes have read a hello that is not from the expected
device. -/
theorem astray_run {left : SenderState} {events : List Event}
    (h : run (step doubles args) (start left) events = some s) :
    Guarded s ∧ s.astray args = events.any (Event.mismatch doubles args) := by
  refine run_history (P := fun past s =>
    Guarded s ∧ s.astray args = past.any (Event.mismatch doubles args)) ⟨guarded_start left, rfl⟩
    (fun past s e s' hpast hstep => ?_) h
  obtain ⟨hguarded, hastray⟩ := hpast
  refine ⟨guarded_step hguarded hstep, ?_⟩
  rw [astray_step hguarded hstep, hastray, List.any_append, List.any_cons, List.any_nil,
    Bool.or_false]

/-- The device is usable again: the guard has been released, `state_` is `Idle`, and whoever asks
for the guard next is answered as if the run had never been. -/
structure Usable (args : Arguments) (s : State) : Prop where
  released : s.ipLock = false
  idle : s.state = .idle
  next : ∀ others, existed (others ++ handles args s) (mutexName args) =
    existed others (mutexName args)

/-- **The ways out.**  A run that has returned leaves the device usable exactly if no handshake of
the run has read a hello that is not from the expected device. -/
theorem exit_usable_iff {D : Type} (doubles : Doubles D) (args : Arguments) (left : SenderState)
    (events : List Event) (s : State)
    (h : run (step doubles args) (start left) events = some s) (hdone : s.pc = .done) :
    Usable args s ↔ ∀ frame msg, Event.read (some frame) ∈ events →
      controlMessage doubles frame = some msg → msg.type = .hello →
      helloMatchesExpectedDevice msg.hello args.expectedDeviceId = true := by
  obtain ⟨hguarded, hastray⟩ := astray_run h
  have hlock : s.ipLock = events.any (Event.mismatch doubles args) := by
    rw [← hastray, State.astray, hdone]
  constructor
  · intro husable frame msg hmem hcontrol htype
    have hnone := hlock.symm.trans husable.released
    have := List.any_eq_false.1 hnone _ hmem
    simpa [Event.mismatch, hcontrol, htype] using this
  · intro hmatch
    have hfree : s.ipLock = false := by
      rw [hlock, List.any_eq_false]
      intro e hmem
      unfold Event.mismatch
      split
      case h_2 => nofun
      case h_1 frame =>
        split
        case h_2 => nofun
        case h_1 msg hmsg =>
          simpa using fun htype => hmatch frame msg hmem hmsg htype
    exact ⟨hfree, hguarded.behind hdone hfree, fun others => by rw [handles, hfree]; simp⟩

/-! ### Two runs -/

/-- `RunLoop` has returned from its work. -/
def Pc.returned : Pc → Bool
  | .done => true
  | _ => false

theorem Pc.returned_iff {pc : Pc} : pc.returned = true ↔ pc = .done := by
  cases pc <;> simp [Pc.returned]

/-- A hello with an id and no panel. -/
def helloFrom (id : String) : Bytes :=
  ascii "\x7b\"type\":\"hello\",\"id\":\"" ++ ascii id ++ ascii "\"\x7d"

/-- The expected device says hello without a panel, and a stop request comes while the worker
sleeps. -/
def stopAfterHello : List Event :=
  toHandshake ++ [.read (some (helloFrom "A")), .work, .welcome true, .work, .requestStop, .work,
    .lock, .work, .work, .work]

theorem exit_usable_iff_stopped :
    ∃ s, run (step noNumbers tablet) (start .idle) stopAfterHello = some s ∧ Usable tablet s := by
  have hends : ((run (step noNumbers tablet) (start .idle) stopAfterHello).any fun s =>
      s.pc.returned) = true := by decide +kernel
  have hhello : (controlMessage noNumbers (helloFrom "A")).all (fun msg =>
      helloMatchesExpectedDevice msg.hello tablet.expectedDeviceId) = true := by decide +kernel
  obtain ⟨s, hrun, hs⟩ := (Option.any_eq_true _ _).1 hends
  have hdone := Pc.returned_iff.1 hs
  refine ⟨s, hrun, (exit_usable_iff noNumbers tablet .idle stopAfterHello s hrun hdone).2 ?_⟩
  intro frame msg hmem hcontrol _
  obtain rfl : frame = helloFrom "A" := by simpa [stopAfterHello, toHandshake] using hmem
  exact Option.all_eq_true _ _ |>.1 hhello msg hcontrol

/-- The receiver says hello with another id, and the worker returns. -/
def otherDevice : List Event :=
  toHandshake ++ [.read (some (helloFrom "B")), .work, .lock, .work]

/-- At the address of the device `A` another device answers.  The run returns with the guard still
held and `state_` still `Connecting`, and the next run for the device is refused. -/
theorem exit_fails_mismatch :
    ∃ s, run (step noNumbers tablet) (start .idle) otherDevice = some s ∧ s.pc = .done ∧
      s.ipLock = true ∧ s.state = .connecting ∧
      ∃ s', step noNumbers tablet (start .connecting)
        (.create (some (existed (handles tablet s) (mutexName tablet)))) = some s' ∧
          s'.pc = .refused := by
  have hends : ((run (step noNumbers tablet) (start .idle) otherDevice).any fun s =>
      s.pc.returned && s.ipLock && s.state == .connecting) = true := by decide +kernel
  obtain ⟨s, hrun, hs⟩ := (Option.any_eq_true _ _).1 hends
  simp only [Bool.and_eq_true, beq_iff_eq] at hs
  obtain ⟨⟨hpc, hlock⟩, hstate⟩ := hs
  have hexisted : existed (handles tablet s) (mutexName tablet) = true := by
    simp [existed, handles, hlock]
  exact ⟨s, hrun, Pc.returned_iff.1 hpc, hlock, hstate, _, by rw [hexisted]; rfl, rfl⟩

end SecondDisplay.RunLoop
