import SecondDisplay.App.RunLoop

/-!
# What a step of a sender can do

`does_of_step` takes the step relation of `RunLoop` apart: every step of the worker by its place
and its answer, with the state it leads to; a turn of a session and a message of the reader by
what they leave alone.  What holds of every run is proved by cases on it.
-/

namespace SecondDisplay.RunLoop

open SecondDisplay.Connection SecondDisplay.SendLock SecondDisplay.Protocol

/-! ### Sockets -/

/-- A socket without a handle has been shut down. -/
def Sound (socket : Socket) : Prop := socket.valid = false → socket.shutDown = true

theorem shutDown_interrupt {socket : Socket} (h : Sound socket) :
    (interruptSocket socket).shutDown = true := by
  cases hvalid : socket.valid with
  | true => simp only [interruptSocket, hvalid, Bool.or_true]
  | false => simp only [interruptSocket, h hvalid, Bool.true_or]

theorem shutDown_close {socket : Socket} (h : Sound socket) :
    (closeSocket socket).shutDown = true :=
  shutDown_interrupt h

/-- Sockets stay sound, and stay shut down. -/
def Kept (socket socket' : Nat → Socket) : Prop :=
  ∀ c, Sound (socket c) →
    Sound (socket' c) ∧ ((socket c).shutDown = true → (socket' c).shutDown = true)

theorem Kept.refl (socket : Nat → Socket) : Kept socket socket := fun _ h => ⟨h, id⟩

theorem Kept.update (socket : Nat → Socket) (c : Nat) {after : Socket}
    (hafter : Sound (socket c) → after.shutDown = true) :
    Kept socket (Function.update socket c after) := by
  intro c' hsound
  rcases eq_or_ne c' c with rfl | hne
  · rw [Function.update_self]
    exact ⟨fun _ => hafter hsound, fun _ => hafter hsound⟩
  · rw [Function.update_of_ne hne]
    exact ⟨hsound, id⟩

theorem Kept.interrupt (socket : Nat → Socket) (c : Nat) :
    Kept socket (Function.update socket c (interruptSocket (socket c))) :=
  .update socket c shutDown_interrupt

theorem Kept.close (socket : Nat → Socket) (c : Nat) :
    Kept socket (Function.update socket c (closeSocket (socket c))) :=
  .update socket c shutDown_close

/-! ### What a session leaves alone -/

/-- What the worker and the caller share. -/
def State.shared (s : State) : Bool × Option Thread × Option Nat × Caller × Nat :=
  (s.stopRequested, s.connMutex, s.activeConn, s.caller, s.stops)

/-- A step that leaves the flag, the lock, the registration and the guard as they are, keeps its
sockets and only publishes: short delays, and one among them when the receiver goes to sleep. -/
structure Streams (s s' : State) : Prop where
  shared : s'.shared = s.shared
  ipLock : s'.ipLock = s.ipLock
  socket : Kept s.socket s'.socket
  log : ∃ statuses : List Status, s'.log = s.log ++ statuses.map Act.publish ∧
    (∀ status ∈ statuses, status.retryInMs ≤ reconnectDelayMs) ∧
    (s'.receiverSleeping = true → s.receiverSleeping = true ∨
      ∃ status ∈ statuses, 0 < status.retryInMs)

namespace Streams

variable {s s' s'' : State}

theorem of_eq (shared : s'.shared = s.shared) (ipLock : s'.ipLock = s.ipLock)
    (socket : s'.socket = s.socket) (log : s'.log = s.log)
    (sleeping : s'.receiverSleeping = s.receiverSleeping) : Streams s s' :=
  ⟨shared, ipLock, socket ▸ Kept.refl _, [], by rw [log, List.map_nil, List.append_nil], nofun,
    fun h => Or.inl (sleeping ▸ h)⟩

theorem of_publish (status : Status) (shared : s'.shared = s.shared)
    (ipLock : s'.ipLock = s.ipLock) (socket : Kept s.socket s'.socket)
    (log : s'.log = s.log ++ [.publish status]) (short : status.retryInMs ≤ reconnectDelayMs)
    (sleeping : s'.receiverSleeping = s.receiverSleeping ∨ 0 < status.retryInMs) :
    Streams s s' := by
  refine ⟨shared, ipLock, socket, [status], log, by simpa using short, fun h => ?_⟩
  rcases sleeping with hsame | hpos
  · exact Or.inl (hsame ▸ h)
  · exact Or.inr ⟨status, List.mem_singleton_self _, hpos⟩

theorem of_interrupt (c : Nat) (shared : s'.shared = s.shared) (ipLock : s'.ipLock = s.ipLock)
    (socket : s'.socket = (s.interrupt c).socket) (log : s'.log = s.log)
    (sleeping : s'.receiverSleeping = s.receiverSleeping) : Streams s s' :=
  ⟨shared, ipLock, socket ▸ Kept.interrupt _ c, [], by rw [log, List.map_nil, List.append_nil],
    nofun, fun h => Or.inl (sleeping ▸ h)⟩

theorem trans (h : Streams s s') (h' : Streams s' s'') : Streams s s'' := by
  obtain ⟨statuses, hlog, hshort, hsleeping⟩ := h.log
  obtain ⟨statuses', hlog', hshort', hsleeping'⟩ := h'.log
  refine ⟨h'.shared.trans h.shared, h'.ipLock.trans h.ipLock, fun c hsound => ?_,
    statuses ++ statuses', by rw [hlog', hlog, List.map_append, List.append_assoc],
    fun status hmem => (List.mem_append.1 hmem).elim (hshort status) (hshort' status),
    fun hs'' => ?_⟩
  · obtain ⟨hsound', hshut⟩ := h.socket c hsound
    obtain ⟨hsound'', hshut'⟩ := h'.socket c hsound'
    exact ⟨hsound'', hshut' ∘ hshut⟩
  · rcases hsleeping' hs'' with hs' | ⟨status, hmem, hpos⟩
    · exact (hsleeping hs').imp_right fun ⟨status, hmem, hpos⟩ =>
        ⟨status, List.mem_append_left _ hmem, hpos⟩
    · exact Or.inr ⟨status, List.mem_append_right _ hmem, hpos⟩

end Streams

variable {D : Type} (doubles : Doubles D) (args : Arguments)

theorem followCapture_streams (s : State) (answers : Turn) :
    Streams s (followCapture args s answers) ∧
      (followCapture args s answers).reader = s.reader := by
  simp only [followCapture]
  split <;> split <;> exact ⟨.of_eq rfl rfl rfl rfl rfl, rfl⟩

theorem sendTurn_streams (s : State) (c : Nat) (answers : Turn) :
    Streams s (sendTurn s c answers) ∧ (sendTurn s c answers).reader = s.reader ∧
      (sendTurn s c answers).pc = .sessionTest c := by
  rw [sendTurn]
  split <;> exact ⟨.of_eq rfl rfl rfl rfl rfl, rfl, rfl⟩

theorem captureTurn_streams (s : State) (c : Nat) (answers : Turn) :
    Streams s (captureTurn args s c answers) ∧ (captureTurn args s c answers).reader = s.reader ∧
      (captureTurn args s c answers).pc = .sessionTest c := by
  obtain ⟨hfollow, hreader⟩ := followCapture_streams args s answers
  have sends (t : State) (ht : Streams (followCapture args s answers) t)
      (htreader : t.reader = s.reader) :
      Streams s (sendTurn t c answers) ∧ (sendTurn t c answers).reader = s.reader ∧
        (sendTurn t c answers).pc = .sessionTest c := by
    obtain ⟨hsend, hsame, hpc⟩ := sendTurn_streams t c answers
    exact ⟨(hfollow.trans ht).trans hsend, hsame.trans htreader, hpc⟩
  simp only [captureTurn]
  split
  · exact sends _ (.of_eq rfl rfl rfl rfl rfl) hreader
  split
  · exact sends _ (.of_eq rfl rfl rfl rfl rfl) hreader
  split
  · exact sends _ (.of_eq rfl rfl rfl rfl rfl) hreader
  · exact sends _ (.of_publish _ rfl rfl (Kept.refl _) rfl (Nat.le_refl _) (Or.inl rfl)) hreader
  · exact ⟨hfollow.trans (.of_eq rfl rfl rfl rfl rfl), hreader, rfl⟩

/-- A turn of the streaming loop stays in the session. -/
theorem sessionTurn_streams (s : State) (c : Nat) (answers : Turn) :
    Streams s (sessionTurn args s c answers) ∧ (sessionTurn args s c answers).reader = s.reader ∧
      ((sessionTurn args s c answers).pc = .sessionTest c ∨
        (sessionTurn args s c answers).pc = .sessionEnd c) := by
  have captures (t : State) (ht : Streams s t) (htreader : t.reader = s.reader) :
      Streams s (captureTurn args t c answers) ∧
        (captureTurn args t c answers).reader = s.reader ∧
        ((captureTurn args t c answers).pc = .sessionTest c ∨
          (captureTurn args t c answers).pc = .sessionEnd c) := by
    obtain ⟨hcapture, hsame, hpc⟩ := captureTurn_streams args t c answers
    exact ⟨ht.trans hcapture, hsame.trans htreader, Or.inl hpc⟩
  have ends (t : State) (ht : Streams s t) (htreader : t.reader = s.reader) :
      Streams s ((t.endRunning.interrupt c).goTo (.sessionEnd c)) ∧
        ((t.endRunning.interrupt c).goTo (.sessionEnd c)).reader = s.reader ∧
        (((t.endRunning.interrupt c).goTo (.sessionEnd c)).pc = .sessionTest c ∨
          ((t.endRunning.interrupt c).goTo (.sessionEnd c)).pc = .sessionEnd c) :=
    ⟨ht.trans (.of_interrupt c rfl rfl rfl rfl rfl), htreader,
      Or.inr rfl⟩
  simp only [sessionTurn]
  split
  · exact ends _ (.of_eq rfl rfl rfl rfl rfl) rfl
  split
  · exact captures s (.of_eq rfl rfl rfl rfl rfl) rfl
  split
  · exact captures _ (.of_eq rfl rfl rfl rfl rfl) rfl
  split
  · exact ends _ (.of_publish _ rfl rfl (Kept.refl _) rfl (Nat.le_refl _) (Or.inl rfl)) rfl
  · exact captures _ (.of_eq rfl rfl rfl rfl rfl) rfl

/-- A message leaves the worker where it is. -/
theorem readMessage_streams (s : State) (c : Nat) (sent : Bool) (msg : ControlMessage D) :
    Streams s (readMessage args s c sent msg) ∧ (readMessage args s c sent msg).pc = s.pc ∧
      (readMessage args s c sent msg).state = s.state := by
  simp only [readMessage]
  split
  · split <;> exact ⟨.of_eq rfl rfl rfl rfl rfl, rfl, rfl⟩
  · split
    · exact ⟨.of_publish _ rfl rfl (Kept.refl _) rfl (Nat.zero_le _) (Or.inl rfl), rfl, rfl⟩
    split
    · exact ⟨.of_eq rfl rfl rfl rfl rfl, rfl, rfl⟩
    split
    · exact ⟨.of_interrupt c rfl rfl rfl rfl rfl, rfl, rfl⟩
    · exact ⟨.of_eq rfl rfl rfl rfl rfl, rfl, rfl⟩
  · exact ⟨.of_publish _ rfl rfl (Kept.interrupt _ c) rfl (Nat.le_refl _) (Or.inr (by decide)), rfl,
      rfl⟩
  · exact ⟨.of_publish _ rfl rfl (Kept.interrupt _ c) rfl (Nat.zero_le _) (Or.inl rfl), rfl, rfl⟩
  · exact ⟨.of_eq rfl rfl rfl rfl rfl, rfl, rfl⟩

/-! ### The steps -/

variable (s : State)

/-- **What a step can do.** -/
inductive Does : Event → State → Prop where
  | guardFails (here : s.pc = .guard) : Does (.create none)
      (((s.enter .idle).publish ⟨.failed, .anotherSender, 0⟩).goTo .done)
  | guardExists (here : s.pc = .guard) : Does (.create (some true))
      ({ s with ipLock := true }.goTo .refused)
  | guardTaken (here : s.pc = .guard) : Does (.create (some false))
      ({ s with ipLock := true }.goTo .outerTest)
  | refused (here : s.pc = .refused) : Does .work
      ((({ s with ipLock := false }.enter .idle).publish ⟨.failed, .anotherSender, 0⟩).goTo .done)
  | leavesLoop (here : s.pc = .outerTest) (stop : s.stopRequested = true) : Does .work
      (s.goTo .teardown)
  | entersLoop (here : s.pc = .outerTest) (stop : s.stopRequested = false) : Does .work
      (s.goTo .network)
  | allowed (here : s.pc = .network) (state : SenderState) (phase : ConnectionPhase) :
      Does (.network true) (((s.enter state).publish ⟨phase, .none, 0⟩).goTo .connect)
  | blocked (here : s.pc = .network) : Does (.network false)
      (((s.enter .unsafeNetwork).publish
        ⟨.unsafeNetwork, .networkUnsafe, blockedRetryMs⟩).sleep none blockedRetryMs)
  | connected (here : s.pc = .connect) : Does (.connect true)
      ({ s with log := s.log ++ [Act.connect], connections := s.connections + 1 }.goTo
        (.register s.connections))
  | unreachable (here : s.pc = .connect) (failure : FailureReason) : Does (.connect false)
      (({ s with log := s.log ++ [Act.connect] }.publish
        ⟨.reconnecting, failure, reconnectDelayMs⟩).sleep none reconnectDelayMs)
  | locksIn {c : Nat} (here : s.pc = .register c) (free : s.connMutex = none) : Does .lock
      ({ s with connMutex := some .worker }.goTo (.registering c))
  | registers {c : Nat} (here : s.pc = .registering c) : Does .work
      (({ s with connMutex := none, activeConn := some c }.publish
        ⟨.waitingHello, .openDisplayUnavailable, 0⟩).goTo (.helloTest c))
  | stopsHandshake {c : Nat} (here : s.pc = .helloTest c) (stop : s.stopRequested = true) :
      Does .work (s.goTo (.noHello c))
  | reads {c : Nat} (here : s.pc = .helloTest c) (stop : s.stopRequested = false) :
      Does .work (s.goTo (.helloRead c))
  | readsEnd {c : Nat} (here : s.pc = .helloRead c) : Does (.read none) (s.goTo (.noHello c))
  | readsOther {c : Nat} {frame : Bytes} (here : s.pc = .helloRead c)
      (other : ∀ msg, controlMessage doubles frame = some msg → msg.type ≠ .hello) :
      Does (.read (some frame)) (s.goTo (.helloTest c))
  | readsHello {c : Nat} {frame : Bytes} {msg : ControlMessage D} (here : s.pc = .helloRead c)
      (control : controlMessage doubles frame = some msg) (type : msg.type = .hello) :
      Does (.read (some frame)) (s.goTo (.gotHello c msg.hello))
  | noHello {c : Nat} (here : s.pc = .noHello c) : Does .work
      ((s.publish ⟨.reconnecting, .openDisplayUnavailable, reconnectDelayMs⟩).leave c .again)
  | matching {c : Nat} {hello : HelloMsg} (here : s.pc = .gotHello c hello)
      (same : helloMatchesExpectedDevice hello args.expectedDeviceId = true) : Does .work
      (s.goTo (.welcome c hello))
  | mismatch {c : Nat} {hello : HelloMsg} (here : s.pc = .gotHello c hello)
      (other : helloMatchesExpectedDevice hello args.expectedDeviceId = false) : Does .work
      (((s.close c).publish ⟨.failed, .deviceIdentityMismatch, 0⟩).leave c .leaveRun)
  | welcomed {c : Nat} {hello : HelloMsg} (here : s.pc = .welcome c hello) : Does (.welcome true)
      (s.goTo (.panel c hello))
  | notWelcomed {c : Nat} {hello : HelloMsg} (here : s.pc = .welcome c hello) :
      Does (.welcome false)
      (((s.close c).publish ⟨.reconnecting, .protocolError, reconnectDelayMs⟩).sleep (some c)
        reconnectDelayMs)
  | invalidPanel {c : Nat} {hello : HelloMsg} (here : s.pc = .panel c hello) : Does .work
      (((s.close c).publish ⟨.failed, .invalidPanel, reconnectDelayMs⟩).sleep (some c)
        reconnectDelayMs)
  | validPanel {c : Nat} {hello : HelloMsg} (here : s.pc = .panel c hello)
      (width height : UInt32) : Does .work
      ((s.publish ⟨.preparingDisplay, .none, 0⟩).goTo (.acquire c width height))
  | panelBusy {c : Nat} {width height : UInt32} {free : Bool}
      (here : s.pc = .acquire c width height) : Does (.acquire free)
      ((((s.enter .blocked).publish ⟨.blocked, .resolutionUnavailable, blockedRetryMs⟩).close
        c).sleep (some c) blockedRetryMs)
  | panelAcquired {c : Nat} {width height : UInt32} {free : Bool}
      (here : s.pc = .acquire c width height) : Does (.acquire free)
      ({ s with width := width, height := height, panelHeld := args.managedDisplay }.goTo
        (.pipeline c))
  | notBuilt {c : Nat} (failure : BuildFailure) (here : s.pc = .pipeline c) :
      Does (.build (some failure))
      (((s.publish ⟨.failed, failure.reason, reconnectDelayMs⟩).close c).sleep (some c)
        reconnectDelayMs)
  | built {c : Nat} (here : s.pc = .pipeline c) : Does (.build none)
      ((({ s with
        everStreamed := true
        running := true
        receiverSleeping := false
        receiverClosing := false
        pendingResize := none
        sizeRebuildDone := false
        reader := .test c }.enter .streaming).publish ⟨.streaming, .none, 0⟩).goTo
          (.sessionTest c))
  | endsSession {c : Nat} (here : s.pc = .sessionTest c) : Does .work (s.goTo (.sessionEnd c))
  | entersTurn {c : Nat} (here : s.pc = .sessionTest c) (stop : s.stopRequested = false) :
      Does .work (s.goTo (.turn c))
  | turn {c : Nat} {answers : Turn} {s' : State} (here : s.pc = .turn c) (streams : Streams s s')
      (reader : s'.reader = s.reader)
      (stays : s'.pc = .sessionTest c ∨ s'.pc = .sessionEnd c) : Does (.turn answers) s'
  | interrupts {c : Nat} (here : s.pc = .sessionEnd c) : Does .work
      ((s.interrupt c).goTo (.joining c))
  | joinsClosing {c : Nat} (here : s.pc = .joining c) (finished : s.reader = .finished)
      (closing : s.receiverClosing = true) : Does .join
      (({ s with reader := .absent }.close c).leave c .leaveLoop)
  | joinsQuietly {c : Nat} (here : s.pc = .joining c) (finished : s.reader = .finished)
      (quiet : s.stopRequested = true ∨ s.receiverSleeping = true) : Does .join
      (({ s with reader := .absent }.close c).leave c .again)
  | joins {c : Nat} (here : s.pc = .joining c) (finished : s.reader = .finished) : Does .join
      ((({ s with reader := .absent }.close c).publish
        ⟨.reconnecting, .transportError, reconnectDelayMs⟩).leave c .again)
  | locksOut {c : Nat} {next : Next} (here : s.pc = .leaving c next)
      (free : s.connMutex = none) : Does .lock
      ({ s with connMutex := some .worker }.goTo (.unregistering c next))
  | goesRound {c : Nat} (here : s.pc = .unregistering c .again) : Does .work
      (({ s with connMutex := none, activeConn := none }.close c).goTo .outerTest)
  | breaks {c : Nat} (here : s.pc = .unregistering c .leaveLoop) : Does .work
      (({ s with connMutex := none, activeConn := none }.close c).goTo .teardown)
  | returns {c : Nat} (here : s.pc = .unregistering c .leaveRun) : Does .work
      (({ s with connMutex := none, activeConn := none }.close c).goTo .done)
  | sleepsOn {conn : Option Nat} {ms waited : Nat} (here : s.pc = .sleepTest conn ms waited) :
      Does .work (s.goTo (.sleepSlice conn ms waited))
  | slice {conn : Option Nat} {ms waited : Nat} (here : s.pc = .sleepSlice conn ms waited) :
      Does .work (s.goTo (.sleepTest conn ms (waited + sliceMs)))
  | wakes {conn : Option Nat} {ms waited : Nat} (here : s.pc = .sleepTest conn ms waited)
      (rested : ms ≤ waited ∨ s.stopRequested = true) : Does .work
      ({ s with log := s.log ++ [Act.sleep waited] }.wake conn)
  | tearsDown (here : s.pc = .teardown) : Does .work
      (({ s with ipLock := false }.enter .idle).goTo .done)
  | tearsDownStopped (here : s.pc = .teardown) : Does .work
      ((({ s with ipLock := false }.enter .idle).publish ⟨.idle, .none, 0⟩).goTo .done)
  | readerReads {c : Nat} (here : s.reader = .test c) (stop : s.stopRequested = false) :
      Does .readerTest { s with reader := .reading c }
  | readerLeaves {c : Nat} (here : s.reader = .test c) : Does .readerTest
      { s with reader := .finished }
  | readerRead {c : Nat} {frame : Option Bytes} {sent : Bool} {s' : State}
      (here : s.reader = .reading c) (streams : Streams s s') (pc : s'.pc = s.pc)
      (state : s'.state = s.state)
      (reader : s'.reader = .test c ∨ s'.reader = .finished) : Does (.readerRead frame sent) s'
  | requestStop (here : s.caller = .idle) : Does .requestStop
      { s with stopRequested := true, caller := .flagged }
  | callerLocks (here : s.caller = .flagged) (free : s.connMutex = none) : Does .callerLock
      { s with connMutex := some .caller, caller := .locked }
  | callerFindsNone (here : s.caller = .locked) (active : s.activeConn = none) :
      Does .callerInterrupt { s with caller := .interrupted }
  | callerInterrupts {c : Nat} (here : s.caller = .locked) (active : s.activeConn = some c) :
      Does .callerInterrupt { s.interrupt c with caller := .interrupted }
  | callerUnlocks (here : s.caller = .interrupted) : Does .callerUnlock
      { s with connMutex := none, caller := .idle, stops := s.stops + 1 }
  | stopReturns (here : s.pc = .done) : Does .stopReturns
      (({ s with stopRequested := false }.enter .idle).publish ⟨.idle, .none, 0⟩)

variable {doubles args s} {s' : State}

/-- The steps in which the worker goes on without asking anybody. -/
theorem does_of_work (h : work args s = some s') : Does doubles args s .work s' := by
  cases hpc : s.pc with
  | refused =>
    simp only [work, hpc, Option.some.injEq] at h
    subst h
    exact .refused hpc
  | outerTest =>
    simp only [work, hpc, Option.some.injEq] at h
    subst h
    split
    case isTrue hstop => exact .leavesLoop hpc hstop
    case isFalse hstop => exact .entersLoop hpc (by simpa using hstop)
  | registering c =>
    simp only [work, hpc, Option.some.injEq] at h
    subst h
    exact .registers hpc
  | helloTest c =>
    simp only [work, hpc, Option.some.injEq] at h
    subst h
    split
    case isTrue hstop => exact .stopsHandshake hpc hstop
    case isFalse hstop => exact .reads hpc (by simpa using hstop)
  | noHello c =>
    simp only [work, hpc, Option.some.injEq] at h
    subst h
    exact .noHello hpc
  | gotHello c hello =>
    simp only [work, hpc] at h
    split at h
    case isTrue hsame => cases h; exact .matching hpc hsame
    case isFalse hother => cases h; exact .mismatch hpc (by simpa using hother)
  | panel c hello =>
    simp only [work, hpc] at h
    split at h
    · cases h; exact .invalidPanel hpc
    · cases h; exact .validPanel hpc _ _
  | sessionTest c =>
    simp only [work, hpc, Option.some.injEq] at h
    subst h
    split
    case isTrue hgo =>
      simp only [Bool.and_eq_true, Bool.not_eq_true'] at hgo
      exact .entersTurn hpc hgo.2
    case isFalse => exact .endsSession hpc
  | sessionEnd c =>
    simp only [work, hpc, Option.some.injEq] at h
    subst h
    exact .interrupts hpc
  | unregistering c next =>
    simp only [work, hpc, Option.some.injEq] at h
    subst h
    cases next with
    | again => exact .goesRound hpc
    | leaveLoop => exact .breaks hpc
    | leaveRun => exact .returns hpc
  | sleepTest conn ms waited =>
    simp only [work, hpc] at h
    split at h
    case isTrue => cases h; exact .sleepsOn hpc
    case isFalse hrested =>
      cases h
      refine .wakes hpc ?_
      simpa only [Bool.and_eq_true, decide_eq_true_eq, Bool.not_eq_true', not_and_or, not_lt,
        Bool.not_eq_false] using hrested
  | sleepSlice conn ms waited =>
    simp only [work, hpc, Option.some.injEq] at h
    subst h
    exact .slice hpc
  | teardown =>
    simp only [work, hpc] at h
    split at h
    · cases h; exact .tearsDownStopped hpc
    · cases h; exact .tearsDown hpc
  | _ => simp [work, hpc] at h

/-- **Inversion.** -/
theorem does_of_step {e : Event} (h : step doubles args s e = some s') :
    Does doubles args s e s' := by
  cases e with
  | create existed =>
    simp only [step] at h
    split at h
    case h_1 hpc => cases h; exact .guardFails hpc
    case h_2 hpc => cases h; exact .guardExists hpc
    case h_3 hpc => cases h; exact .guardTaken hpc
    case h_4 => cases h
  | work => exact does_of_work h
  | network allowed =>
    simp only [step] at h
    split at h
    case h_2 => cases h
    case h_1 hpc =>
      split at h
      case isTrue hallowed =>
        cases h
        subst hallowed
        split
        · exact .allowed hpc s.state _
        · exact .allowed hpc .connecting _
      case isFalse hdenied =>
        split at h
        · cases h
        · cases h
          obtain rfl : allowed = false := by simpa using hdenied
          exact .blocked hpc
  | connect ok =>
    simp only [step] at h
    split at h
    case h_2 => cases h
    case h_1 hpc =>
      cases ok with
      | true => cases h; exact .connected hpc
      | false => cases h; exact .unreachable hpc _
  | lock =>
    simp only [step] at h
    split at h
    case h_1 hfree hpc => cases h; exact .locksIn hpc hfree
    case h_2 hfree hpc => cases h; exact .locksOut hpc hfree
    case h_3 => cases h
  | read frame =>
    simp only [step] at h
    split at h
    case h_2 => cases h
    case h_1 hpc =>
      split at h
      · cases h; exact .readsEnd hpc
      split at h
      case h_1 hnone =>
        cases h
        exact .readsOther hpc fun msg hmsg => absurd (hnone.symm.trans hmsg) (by rintro ⟨⟩)
      case h_2 msg hmsg =>
        cases h
        split
        case isTrue htype => exact .readsHello hpc hmsg htype
        case isFalse htype =>
          refine .readsOther hpc fun msg' hmsg' => ?_
          cases hmsg.symm.trans hmsg'
          exact htype
  | welcome sent =>
    simp only [step] at h
    split at h
    case h_2 => cases h
    case h_1 hpc =>
      cases sent with
      | true => cases h; exact .welcomed hpc
      | false => cases h; exact .notWelcomed hpc
  | acquire free =>
    simp only [step] at h
    split at h
    case h_2 => cases h
    case h_1 hpc =>
      split at h
      · cases h; exact .panelBusy hpc
      · cases h; exact .panelAcquired hpc
  | build failure =>
    simp only [step] at h
    split at h
    case h_2 => cases h
    case h_1 hpc =>
      cases failure with
      | some failure => cases h; exact .notBuilt failure hpc
      | none => cases h; exact .built hpc
  | turn answers =>
    simp only [step] at h
    split at h
    case h_2 => cases h
    case h_1 c hpc =>
      cases h
      obtain ⟨hstreams, hreader, hstays⟩ := sessionTurn_streams args s c answers
      exact .turn hpc hstreams hreader hstays
  | join =>
    simp only [step] at h
    split at h
    case h_2 => cases h
    case h_1 hpc hfinished =>
      cases h
      by_cases hclosing : s.receiverClosing = true
      · rw [if_pos hclosing, if_neg (by rw [hclosing]; simp)]
        exact .joinsClosing hpc hfinished hclosing
      · rw [if_neg hclosing]
        split
        · exact .joins hpc hfinished
        case isFalse hquiet =>
          refine .joinsQuietly hpc hfinished ?_
          by_contra hboth
          rw [not_or, Bool.not_eq_true, Bool.not_eq_true] at hboth
          exact hquiet (by simp [hboth, hclosing])
  | readerTest =>
    simp only [step] at h
    split at h
    case h_2 => cases h
    case h_1 hreader =>
      cases h
      split
      case isTrue hgo =>
        simp only [Bool.and_eq_true, Bool.not_eq_true'] at hgo
        exact .readerReads hreader hgo.2
      case isFalse => exact .readerLeaves hreader
  | readerRead frame sent =>
    simp only [step] at h
    split at h
    case h_2 => cases h
    case h_1 c hreader =>
      split at h
      · cases h
        exact .readerRead hreader (.of_eq rfl rfl rfl rfl rfl) rfl rfl (Or.inr rfl)
      split at h
      · cases h
        exact .readerRead hreader (.of_eq rfl rfl rfl rfl rfl) rfl rfl (Or.inl rfl)
      case h_2 msg _ =>
        cases h
        obtain ⟨hstreams, hpc, hstate⟩ := readMessage_streams args s c sent msg
        exact .readerRead hreader (hstreams.trans (.of_eq rfl rfl rfl rfl rfl)) hpc hstate
          (Or.inl rfl)
  | requestStop =>
    simp only [step] at h
    split at h
    case h_1 hidle => cases h; exact .requestStop hidle
    case h_2 => cases h
  | callerLock =>
    simp only [step] at h
    split at h
    case h_1 hfree hflagged => cases h; exact .callerLocks hflagged hfree
    case h_2 => cases h
  | callerInterrupt =>
    simp only [step] at h
    split at h
    case h_2 => cases h
    case h_1 hlocked =>
      split at h
      case h_1 hactive => cases h; exact .callerFindsNone hlocked hactive
      case h_2 hactive => cases h; exact .callerInterrupts hlocked hactive
  | callerUnlock =>
    simp only [step] at h
    split at h
    case h_1 hinterrupted => cases h; exact .callerUnlocks hinterrupted
    case h_2 => cases h
  | stopReturns =>
    simp only [step] at h
    split at h
    case h_2 => cases h
    case h_1 hdone =>
      split at h
      · cases h; exact .stopReturns hdone
      · cases h

end SecondDisplay.RunLoop
