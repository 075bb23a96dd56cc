import SecondDisplay.App.RunLoopSteps

/-!
# A stop request is never lost

`RequestStop` sets the flag first and then interrupts the connection that is registered.  The
worker registers a connection first and tests the flag then, before it reads.  So a connection
that is read behind a test that has found the flag clear was registered before the flag was set,
and the request finds it (`Inv.swept`).
-/

namespace SecondDisplay.RunLoop

open SecondDisplay.Connection SecondDisplay.SendLock SecondDisplay.Protocol
open SecondDisplay.Transitions

/-! ### Places -/

/-- The connection that is registered as `activeConn_`. -/
@[simp] def Pc.registered : Pc → Option Nat
  | .helloTest c | .helloRead c | .noHello c | .gotHello c _ | .welcome c _ | .panel c _
  | .acquire c _ _ | .pipeline c | .sessionTest c | .turn c | .sessionEnd c | .joining c
  | .leaving c _ | .unregistering c _ => some c
  | .sleepTest conn _ _ | .sleepSlice conn _ _ => conn
  | _ => none

/-- The worker holds `connMutex_`. -/
@[simp] def Pc.holdsLock : Pc → Bool
  | .registering _ | .unregistering _ _ => true
  | _ => false

/-- The connection of a streaming session. -/
@[simp] def Pc.session : Pc → Option Nat
  | .sessionTest c | .turn c | .sessionEnd c | .joining c => some c
  | _ => none

/-- The connection that is read, or may still be read, without another test of the flag in the
handshake. -/
@[simp] def Pc.reads : Pc → Option Nat
  | .helloRead c | .gotHello c _ | .welcome c _ | .panel c _ | .acquire c _ _ | .pipeline c
  | .sessionTest c | .turn c | .sessionEnd c | .joining c => some c
  | _ => none

theorem Pc.reads_of_session {pc : Pc} {c : Nat} (h : pc.session = some c) :
    pc.reads = some c := by
  cases pc <;> first | exact h | cases h

theorem Pc.registered_of_reads {pc : Pc} {c : Nat} (h : pc.reads = some c) :
    pc.registered = some c := by
  cases pc <;> first | exact h | cases h

/-- Where a loop of the worker goes on when it leaves at its test of the flag. -/
def Pc.exit : Pc → Option Pc
  | .outerTest => some .teardown
  | .helloTest c => some (.noHello c)
  | .sessionTest c => some (.sessionEnd c)
  | .sleepTest none _ _ => some .outerTest
  | .sleepTest (some c) _ _ => some (.leaving c .again)
  | _ => none

/-- The connection that the reader reads. -/
@[simp] def Reader.conn : Reader → Option Nat
  | .test c | .reading c => some c
  | _ => none

/-- The caller holds `connMutex_`. -/
@[simp] def Caller.holdsLock : Caller → Bool
  | .locked | .interrupted => true
  | _ => false

/-! ### The invariant -/

/-- A stop has been requested: its flag is set. -/
def State.Flagged (s : State) : Prop := s.caller ≠ .idle ∨ 0 < s.stops

/-- A stop has been requested, and the connection registered then has been interrupted. -/
def State.Swept (s : State) : Prop := s.caller = .interrupted ∨ 0 < s.stops

theorem State.Swept.flagged {s : State} (h : s.Swept) : s.Flagged := by
  rcases h with h | h
  · exact Or.inl (by rw [h]; nofun)
  · exact Or.inr h

/-- What holds between any two steps. -/
structure Inv (s : State) : Prop where
  sound : ∀ c, Sound (s.socket c)
  worker : s.pc.holdsLock = true → s.connMutex = some .worker
  caller : s.caller.holdsLock = true → s.connMutex = some .caller
  /-- What the worker has registered is what the caller finds. -/
  active : ∀ c, s.pc.registered = some c → s.activeConn = some c
  flag : s.Flagged → s.stopRequested = true ∨ s.pc = .done
  /-- A connection that is still read has been interrupted. -/
  swept : s.Swept → ∀ c, s.pc.reads = some c → (s.socket c).shutDown = true
  reader : ∀ c, s.reader.conn = some c → s.pc.session = some c

theorem inv_start (left : SenderState) : Inv (start left) where
  sound _ := nofun
  worker := nofun
  caller := nofun
  active := nofun
  flag h := by rcases h with h | h <;> exact absurd h (by simp [start])
  swept h := by rcases h with h | h <;> exact absurd h (by simp [start])
  reader := nofun

/-- Where the worker may go in a step that touches neither the lock nor what is registered: behind
a test of the flag only if the flag is clear. -/
structure Pc.Moves (pc pc' : Pc) (stop : Bool) : Prop where
  unlocked : pc'.holdsLock = false
  running : pc ≠ .done
  registered : ∀ c, pc'.registered = some c → pc.registered = some c
  reads : ∀ c, pc'.reads = some c → pc.reads = some c ∨ stop = false
  session : ∀ c, pc.session = some c → pc'.session = some c

/-- **Frame rule.**  A step that leaves what the threads share as it is keeps the invariant. -/
theorem Inv.frame {s s' : State} (h : Inv s) (shared : s'.shared = s.shared)
    (socket : Kept s.socket s'.socket) (reader : ∀ c, s'.reader.conn = some c →
      s'.pc.session = some c) (running : s.pc ≠ .done) (unlocked : s'.pc.holdsLock = false)
    (registered : ∀ c, s'.pc.registered = some c → s.pc.registered = some c)
    (reads : ∀ c, s'.pc.reads = some c → s.pc.reads = some c ∨ s.stopRequested = false) :
    Inv s' := by
  simp only [State.shared, Prod.mk.injEq] at shared
  obtain ⟨hflag, hmutex, hactive, hcaller, hstops⟩ := shared
  have hflagged : s'.Flagged → s.stopRequested = true := by
    intro hflagged
    rw [State.Flagged, hcaller, hstops] at hflagged
    exact (h.flag hflagged).resolve_right running
  refine
    { sound := fun c => (socket c (h.sound c)).1
      worker := fun hlock => absurd hlock (by rw [unlocked]; nofun)
      caller := fun hlock => hmutex.trans (h.caller (hcaller ▸ hlock))
      active := fun c hc => hactive.trans (h.active c (registered c hc))
      flag := fun hflagged' => Or.inl (hflag.trans (hflagged hflagged'))
      swept := fun hswept c hc => ?_
      reader := reader }
  have hstop := hflagged hswept.flagged
  rcases reads c hc with hreads | hclear
  · rw [State.Swept, hcaller, hstops] at hswept
    exact (socket c (h.sound c)).2 (h.swept hswept c hreads)
  · exact absurd hstop (by rw [hclear]; nofun)

/-- A step of the worker. -/
theorem Inv.move {s s' : State} (h : Inv s) (moves : s.pc.Moves s'.pc s.stopRequested)
    (shared : s'.shared = s.shared) (hreader : s'.reader = s.reader)
    (socket : Kept s.socket s'.socket) : Inv s' :=
  h.frame shared socket (fun c hc => moves.session c (h.reader c (hreader ▸ hc))) moves.running
    moves.unlocked moves.registered moves.reads

/-! ### What the steps keep -/

variable {D : Type} {doubles : Doubles D} {args : Arguments} {s s' : State}

/-- The worker registers its connection and gives the lock back. -/
theorem Inv.register {c : Nat} (h : Inv s) (hpc : s.pc = .registering c)
    (hs' : s' = ({ s with connMutex := none, activeConn := some c }.publish
      ⟨.waitingHello, .openDisplayUnavailable, 0⟩).goTo (.helloTest c)) : Inv s' := by
  subst hs'
  have hmutex : s.connMutex = some .worker := h.worker (by rw [hpc]; rfl)
  refine { h with worker := nofun, caller := fun hlock => ?_, active := fun c' hc' => ?_,
                  flag := fun hflagged => ?_, swept := fun _ => nofun, reader := fun c' hc' => ?_ }
  · exact absurd (h.caller hlock) (by rw [hmutex]; nofun)
  · exact hc'
  · exact Or.inl ((h.flag hflagged).resolve_right (by rw [hpc]; nofun))
  · exact absurd (h.reader c' hc') (by rw [hpc]; nofun)

/-- The worker takes its connection back, closes it and gives the lock back. -/
theorem Inv.unregister {c : Nat} {next : Next} {pc : Pc} (h : Inv s)
    (hpc : s.pc = .unregistering c next) (hregistered : pc.registered = none)
    (hreads : pc.reads = none) (hlock : pc.holdsLock = false)
    (hs' : s' = ({ s with connMutex := none, activeConn := none }.close c).goTo pc) :
    Inv s' := by
  subst hs'
  have hmutex : s.connMutex = some .worker := h.worker (by rw [hpc]; rfl)
  refine
    { sound := fun c' => (Kept.close s.socket c c' (h.sound c')).1
      worker := fun hheld => nomatch hlock.symm.trans hheld
      caller := fun hheld => absurd (h.caller hheld) (by rw [hmutex]; nofun)
      active := fun c' hc' => nomatch hregistered.symm.trans hc'
      flag := fun hflagged => ?_
      swept := fun _ c' hc' => nomatch hreads.symm.trans hc'
      reader := fun c' hc' => absurd (h.reader c' hc') (by rw [hpc]; nofun) }
  exact Or.inl ((h.flag hflagged).resolve_right (by rw [hpc]; nofun))

/-- The worker takes the lock. -/
theorem Inv.takeLock {pc : Pc} (h : Inv s) (hfree : s.connMutex = none) (hpc : s.pc ≠ .done)
    (hregistered : pc.registered = s.pc.registered) (hreads : pc.reads = none)
    (hsession : s.pc.session = none)
    (hs' : s' = { s with connMutex := some .worker }.goTo pc) : Inv s' := by
  subst hs'
  refine
    { sound := h.sound
      worker := fun _ => rfl
      caller := fun hheld => absurd (h.caller hheld) (by rw [hfree]; nofun)
      active := fun c hc => h.active c (hregistered ▸ hc)
      flag := fun hflagged => Or.inl ((h.flag hflagged).resolve_right hpc)
      swept := fun _ c hc => nomatch hreads.symm.trans hc
      reader := fun c hc => nomatch hsession.symm.trans (h.reader c hc) }

/-- A step of the reader, which stays with its connection. -/
theorem Inv.read {c : Nat} (h : Inv s) (hconn : s.reader.conn = some c)
    (streams : Streams s s') (hpc : s'.pc = s.pc)
    (hreader : ∀ c', s'.reader.conn = some c' → c' = c) : Inv s' := by
  have hsession : s.pc.session = some c := h.reader c hconn
  refine h.frame streams.shared streams.socket (fun c' hc' => ?_) ?_ ?_ ?_ ?_
  · rw [hpc, hreader c' hc', hsession]
  · intro hdone
    rw [hdone] at hsession
    cases hsession
  · rw [hpc]
    cases hat : s.pc <;> rw [hat] at hsession <;> first | rfl | cases hsession
  · rw [hpc]
    exact fun _ => id
  · rw [hpc]
    exact fun _ => Or.inl

/-- The caller interrupts what the worker has registered. -/
theorem Inv.interrupt {c : Nat} (h : Inv s) (hlocked : s.caller = .locked)
    (hactive : s.activeConn = some c) : Inv { s.interrupt c with caller := .interrupted } := by
  have hkept := Kept.interrupt s.socket c
  refine
    { h with
      sound := fun c' => (hkept c' (h.sound c')).1
      caller := fun _ => h.caller (by rw [hlocked]; rfl)
      flag := fun _ => h.flag (Or.inl (by rw [hlocked]; nofun))
      swept := fun _ c' hc' => ?_ }
  obtain rfl : c = c' := by
    simpa [hactive] using h.active c' (Pc.registered_of_reads hc')
  show (Function.update s.socket c (interruptSocket (s.socket c)) c).shutDown = true
  rw [Function.update_self]
  exact shutDown_interrupt (h.sound c)

/-- Every step keeps the invariant. -/
theorem inv_step {e : Event} (h : Inv s) (hstep : step doubles args s e = some s') : Inv s' := by
  cases does_of_step hstep with
  | locksIn hpc hfree =>
    exact h.takeLock hfree (by rw [hpc]; nofun) (by rw [hpc]; rfl) rfl (by rw [hpc]; rfl) rfl
  | locksOut hpc hfree =>
    exact h.takeLock hfree (by rw [hpc]; nofun) (by rw [hpc]; rfl) rfl (by rw [hpc]; rfl) rfl
  | registers hpc => exact h.register hpc rfl
  | goesRound hpc | breaks hpc | returns hpc => exact h.unregister hpc rfl rfl rfl rfl
  | reads hpc hclear =>
    exact h.move (by rw [hpc, hclear]; constructor <;> simp) rfl rfl (Kept.refl _)
  | mismatch hpc | invalidPanel hpc | notWelcomed hpc | panelBusy hpc | notBuilt _ hpc =>
    exact h.move (by rw [hpc]; constructor <;> simp) rfl rfl (Kept.close _ _)
  | interrupts hpc =>
    exact h.move (by rw [hpc]; constructor <;> simp) rfl rfl (Kept.interrupt _ _)
  | built hpc =>
    -- The session begins with its reader.
    exact h.frame rfl (Kept.refl _) (fun _ => id) (by rw [hpc]; nofun) rfl (by rw [hpc]; simp)
      (by rw [hpc]; simp)
  | turn hpc hstreams hreader hstays =>
    refine h.move ?_ hstreams.shared hreader hstreams.socket
    rcases hstays with hstays | hstays <;> rw [hpc, hstays] <;> constructor <;> simp
  | joinsClosing hpc | joinsQuietly hpc | joins hpc =>
    -- It ends behind its reader.
    exact h.frame rfl (Kept.close _ _) nofun (by rw [hpc]; nofun) rfl (by rw [hpc]; simp) nofun
  | @wakes conn ms waited hpc =>
    cases conn <;> exact h.move (by rw [hpc]; constructor <;> simp) rfl rfl (Kept.refl _)
  | readerReads hreader =>
    exact h.read (by rw [hreader]; rfl) (.of_eq rfl rfl rfl rfl rfl) rfl (by simp)
  | readerLeaves hreader =>
    exact h.read (by rw [hreader]; rfl) (.of_eq rfl rfl rfl rfl rfl) rfl nofun
  | readerRead hreader hstreams hpc _ hafter =>
    refine h.read (by rw [hreader]; rfl) hstreams hpc ?_
    rcases hafter with hafter | hafter <;> rw [hafter] <;> simp
  | requestStop hidle =>
    exact
      { h with
        caller := nofun
        flag := fun _ => Or.inl rfl
        swept := fun hswept => h.swept (Or.inr (hswept.resolve_left nofun)) }
  | callerLocks hflagged hfree =>
    exact
      { h with
        worker := fun hheld => absurd (h.worker hheld) (by rw [hfree]; nofun)
        caller := fun _ => rfl
        flag := fun _ => h.flag (Or.inl (by rw [hflagged]; nofun))
        swept := fun hswept => h.swept (Or.inr (hswept.resolve_left nofun)) }
  | callerFindsNone hlocked hactive =>
    refine
      { h with
        caller := fun _ => h.caller (by rw [hlocked]; rfl)
        flag := fun _ => h.flag (Or.inl (by rw [hlocked]; nofun))
        swept := fun _ c hc => ?_ }
    have := h.active c (Pc.registered_of_reads hc)
    exact nomatch hactive.symm.trans this
  | callerInterrupts hlocked hactive => exact h.interrupt hlocked hactive
  | callerUnlocks hinterrupted =>
    have hmutex : s.connMutex = some .caller := h.caller (by rw [hinterrupted]; rfl)
    exact
      { h with
        worker := fun hheld => absurd (h.worker hheld) (by rw [hmutex]; nofun)
        caller := nofun
        flag := fun _ => h.flag (Or.inl (by rw [hinterrupted]; nofun))
        swept := fun _ => h.swept (Or.inl hinterrupted) }
  | stopReturns hdone => exact { h with flag := fun _ => Or.inr hdone }
  | guardFails hpc | guardExists hpc | guardTaken hpc | refused hpc | leavesLoop hpc
  | entersLoop hpc | allowed hpc | blocked hpc | connected hpc | unreachable hpc
  | stopsHandshake hpc | readsEnd hpc | readsOther hpc | readsHello hpc | noHello hpc
  | matching hpc | welcomed hpc | validPanel hpc | panelAcquired hpc | endsSession hpc
  | entersTurn hpc | sleepsOn hpc | slice hpc | tearsDown hpc | tearsDownStopped hpc =>
    exact h.move (by rw [hpc]; constructor <;> simp) rfl rfl (Kept.refl _)

theorem inv_run {left : SenderState} {events : List Event}
    (h : run (step doubles args) (start left) events = some s) : Inv s :=
  run_invariant (fun _ _ _ hs hstep => inv_step hs hstep) (inv_start left) h

/-! ### Behind a stop request -/

/-- A loop of the worker leaves at its test when the flag is set. -/
theorem work_exit {out : Pc} (hout : s.pc.exit = some out) (hstop : s.stopRequested = true) :
    ∃ s', work args s = some s' ∧ s'.pc = out := by
  cases hpc : s.pc with
  | outerTest =>
    rw [hpc] at hout
    cases hout
    exact ⟨_, by rw [work, hpc], by simp [hstop]⟩
  | helloTest c =>
    rw [hpc] at hout
    cases hout
    exact ⟨_, by rw [work, hpc], by simp [hstop]⟩
  | sessionTest c =>
    rw [hpc] at hout
    cases hout
    exact ⟨_, by rw [work, hpc], by simp [hstop]⟩
  | sleepTest conn ms waited =>
    refine ⟨_, by simp only [work, hpc, hstop, Bool.not_true, Bool.and_false,
      Bool.false_eq_true, if_false]; rfl, ?_⟩
    rw [hpc] at hout
    cases conn <;> cases hout <;> rfl
  | _ =>
    rw [hpc] at hout
    cases hout

/-- **A stop request is never lost.**  Once a call of `RequestStop` has completed, whoever is in
`ReadFrame` reads a connection that has been shut down; and every loop of the worker, and the loop
of the reader, leaves when it next tests the flag. -/
theorem stop_never_lost {D : Type} (doubles : Doubles D) (args : Arguments) (left : SenderState)
    (events : List Event) (s : State)
    (h : run (step doubles args) (start left) events = some s) (hstops : 0 < s.stops) :
    (∀ c, s.pc = .helloRead c ∨ s.reader = .reading c → (s.socket c).shutDown = true) ∧
      (∀ out, s.pc.exit = some out →
        ∃ s', step doubles args s .work = some s' ∧ s'.pc = out) ∧
      ∀ c, s.reader = .test c →
        ∃ s', step doubles args s .readerTest = some s' ∧ s'.reader = .finished := by
  have hinv := inv_run h
  have hflag : s.pc ≠ .done → s.stopRequested = true :=
    (hinv.flag (Or.inr hstops)).resolve_right
  refine ⟨fun c hc => ?_, fun out hout => ?_, fun c hc => ?_⟩
  · refine hinv.swept (Or.inr hstops) c ?_
    rcases hc with hc | hc
    · rw [hc]; rfl
    · exact Pc.reads_of_session (hinv.reader c (by rw [hc]; rfl))
  · exact work_exit hout (hflag (by rintro hdone; rw [hdone] at hout; cases hout))
  · have hsession : s.pc.session = some c := hinv.reader c (by rw [hc]; rfl)
    have hstop := hflag (by rintro hdone; rw [hdone] at hsession; cases hsession)
    exact ⟨_, by rw [step, hc], by simp [hstop]⟩

/-- The request finds the worker in `ReadFrame`, in the handshake. -/
def stopInHandshake : List Event :=
  toHandshake ++ [.requestStop, .callerLock, .callerInterrupt, .callerUnlock]

theorem stop_never_lost_handshake :
    ∃ s, run (step noNumbers tablet) (start .idle) stopInHandshake = some s ∧
      s.pc = .helloRead 0 ∧ (s.socket 0).shutDown = true :=
  ⟨_, rfl, rfl,
    (stop_never_lost noNumbers tablet .idle stopInHandshake _ rfl (by decide)).1 0 (Or.inl rfl)⟩

end SecondDisplay.RunLoop
