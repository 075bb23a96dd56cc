import SecondDisplay.App.TrayApp
import SecondDisplay.Net.Protocol
import SecondDisplay.Net.SendLock

/-!
# The threads of a sender (`SenderApp::RunLoop` in `app/SenderApp.cpp`)

A sender runs as three threads: the worker in `RunLoop`, the reader it starts for a streaming
session, and the thread that calls `RequestStop` and `Stop`.  The model is a step relation, any
thread taking the next step: a step is what a thread does between two accesses to
`stopRequested_`, `connMutex_`, a socket or the reader's flags.  What the receiver sends and what
Windows, the network policy and the pipeline answer comes with the event.  Capturing, encoding and
input are in the model only as what they answer.
-/

namespace SecondDisplay.RunLoop

open SecondDisplay.Connection SecondDisplay.SendLock SecondDisplay.Protocol

/-! ### Arguments and constants -/

/-- The arguments of `RunLoop`. -/
structure Arguments where
  ip : Bytes
  port : UInt16
  expectedDeviceId : Bytes
  /-- `settings.existingDisplayName.empty()`. -/
  managedDisplay : Bool
  deriving DecidableEq

/-- `kReconnectDelayMs`. -/
def reconnectDelayMs : Nat := 2000

/-- `kBlockedRetryMs`. -/
def blockedRetryMs : Nat := 5000

/-- `slice` in `InterruptibleSleep`. -/
def sliceMs : Nat := 100

/-- `HelloMatchesExpectedDevice`. -/
def helloMatchesExpectedDevice (hello : HelloMsg) (expectedId : Bytes) : Bool :=
  expectedId.isEmpty || (!hello.id.isEmpty && hello.id == expectedId)

/-- `NormalizePanelSize`. -/
def normalizePanelSize (rawWidth rawHeight : Int) : Option (UInt32 × UInt32) :=
  if rawWidth < 320 ∨ 8192 < rawWidth ∨ rawHeight < 320 ∨ 8192 < rawHeight ∨
      8192 * 4096 < rawWidth.toNat * rawHeight.toNat then none
  else
    let width := UInt32.ofNat rawWidth.toNat &&& ~~~1
    let height := UInt32.ofNat rawHeight.toNat &&& ~~~1
    if 2 ≤ width ∧ 2 ≤ height then some (width, height) else none

/-- `lockIdentity`. -/
def lockIdentity (args : Arguments) : Bytes :=
  if args.expectedDeviceId.isEmpty then args.ip else args.expectedDeviceId

/-- A character of `lockName`; `char` is signed. -/
def lockCharacter (c : UInt8) : UInt16 :=
  if c = 0x2E ∨ c = 0x3A then 0x5F else c.toInt8.toInt16.toUInt16

/-- `lockName`. -/
def lockName (args : Arguments) : List UInt16 :=
  (ascii "Global\\opendisplay-win-").map UInt8.toUInt16 ++ (lockIdentity args).map lockCharacter

/-- The name that `CreateMutexW` reads: up to the first NUL. -/
def mutexName (args : Arguments) : List UInt16 := (lockName args).takeWhile (· ≠ 0)

/-- Where `buildPipeline` fails. -/
inductive BuildFailure where
  /-- `VirtualDisplay::Open`. -/
  | driver
  /-- `EnsureResolution`. -/
  | resolution
  /-- The existing display is not attached. -/
  | display
  /-- `DesktopDuplication::Open`. -/
  | capture
  /-- `H264Encoder::Configure`. -/
  | encoder
  deriving DecidableEq

/-- The reason `buildPipeline` publishes. -/
def BuildFailure.reason : BuildFailure → FailureReason
  | .driver => .driverUnavailable
  | .resolution => .resolutionUnavailable
  | .display | .capture => .captureUnavailable
  | .encoder => .encoderUnavailable

/-! ### State -/

/-- What `PublishStatus` is called with. -/
structure Status where
  phase : ConnectionPhase
  failure : FailureReason := .none
  retryInMs : Nat := 0
  deriving DecidableEq

/-- What the sender does that the receiver or the user can see. -/
inductive Act where
  | publish (status : Status)
  /-- `InterruptibleSleep` returns after that many milliseconds. -/
  | sleep (ms : Nat)
  /-- `Connection::Connect` is called. -/
  | connect
  deriving DecidableEq

/-- Who can hold `connMutex_`. -/
inductive Thread where
  | worker | caller
  deriving DecidableEq

/-- How an iteration of the reconnect loop ends. -/
inductive Next where
  /-- `continue`, or the end of the body. -/
  | again
  /-- `break`. -/
  | leaveLoop
  /-- `return`. -/
  | leaveRun
  deriving DecidableEq

/-- Where the worker stands, with the number of its connection. -/
inductive Pc where
  /-- Before `CreateMutexW`. -/
  | guard
  /-- The mutex exists already, and the handle to it is still open. -/
  | refused
  /-- `while (!stopRequested_)`. -/
  | outerTest
  | network
  | connect
  /-- `ActiveConn` waits for `connMutex_`, and then holds it. -/
  | register (c : Nat)
  | registering (c : Nat)
  /-- `while (!gotHello && !stopRequested_)`. -/
  | helloTest (c : Nat)
  /-- In `ReadFrame`. -/
  | helloRead (c : Nat)
  | noHello (c : Nat)
  | gotHello (c : Nat) (hello : HelloMsg)
  | welcome (c : Nat) (hello : HelloMsg)
  | panel (c : Nat) (hello : HelloMsg)
  | acquire (c : Nat) (width height : UInt32)
  | pipeline (c : Nat)
  /-- `while (running && !stopRequested_)`. -/
  | sessionTest (c : Nat)
  | turn (c : Nat)
  | sessionEnd (c : Nat)
  | joining (c : Nat)
  /-- `~ActiveConn` waits for `connMutex_`, and then holds it. -/
  | leaving (c : Nat) (next : Next)
  | unregistering (c : Nat) (next : Next)
  /-- `waited < ms && !stopRequested_` in `InterruptibleSleep(ms)`, with the connection that is
  still registered. -/
  | sleepTest (conn : Option Nat) (ms waited : Nat)
  | sleepSlice (conn : Option Nat) (ms waited : Nat)
  | teardown
  | done

/-- Where the reader stands. -/
inductive Reader where
  /-- No session. -/
  | absent
  /-- `while (running && !stopRequested_)`. -/
  | test (c : Nat)
  /-- In `ReadFrame`. -/
  | reading (c : Nat)
  /-- It has left its loop and can be joined. -/
  | finished
  deriving DecidableEq

/-- Where the caller stands in `RequestStop`. -/
inductive Caller where
  | idle
  /-- It has set the flag and waits for `connMutex_`. -/
  | flagged
  /-- It holds `connMutex_`. -/
  | locked
  /-- It has interrupted the registered connection, and still holds `connMutex_`. -/
  | interrupted
  deriving DecidableEq

/-- A sender. -/
structure State where
  stopRequested : Bool
  state : SenderState
  connMutex : Option Thread
  activeConn : Option Nat
  /-- The connections, by number. -/
  socket : Nat → Socket
  /-- How many connections there have been. -/
  connections : Nat
  /-- The handle `ipLock` is open. -/
  ipLock : Bool
  everStreamed : Bool
  /-- `width` and `height` of the iteration. -/
  width : UInt32
  height : UInt32
  /-- `PanelHolder::held`. -/
  panelHeld : Bool
  /-- The flags of a session. -/
  running : Bool
  receiverSleeping : Bool
  receiverClosing : Bool
  pendingResize : Option (UInt32 × UInt32)
  sizeRebuildDone : Bool
  pc : Pc
  reader : Reader
  caller : Caller
  /-- How many calls of `RequestStop` have completed. -/
  stops : Nat
  /-- What has been published, slept and tried, in that order. -/
  log : List Act

/-- `RunLoop` is called, with what an earlier run has left in `state_`. -/
def start (left : SenderState) : State where
  stopRequested := false
  state := left
  connMutex := none
  activeConn := none
  socket := fun _ => ⟨true, false⟩
  connections := 0
  ipLock := false
  everStreamed := false
  width := 0
  height := 0
  panelHeld := false
  running := false
  receiverSleeping := false
  receiverClosing := false
  pendingResize := none
  sizeRebuildDone := false
  pc := .guard
  reader := .absent
  caller := .idle
  stops := 0
  log := []

namespace State

/-- `PublishStatus`. -/
@[simp] def publish (s : State) (status : Status) : State :=
  { s with log := s.log ++ [Act.publish status] }

/-- The worker goes on. -/
@[simp] def goTo (s : State) (pc : Pc) : State := { s with pc := pc }

/-- `state_ = state`. -/
@[simp] def enter (s : State) (state : SenderState) : State := { s with state := state }

/-- `Interrupt` on a connection. -/
@[simp] def interrupt (s : State) (c : Nat) : State :=
  { s with socket := Function.update s.socket c (interruptSocket (s.socket c)) }

/-- `Close` on a connection. -/
@[simp] def close (s : State) (c : Nat) : State :=
  { s with socket := Function.update s.socket c (closeSocket (s.socket c)) }

/-- `running = false`. -/
@[simp] def endRunning (s : State) : State := { s with running := false }

/-- The iteration ends, and `~PanelHolder` runs. -/
@[simp] def leave (s : State) (c : Nat) (next : Next) : State :=
  { s with pc := .leaving c next, panelHeld := false }

/-- `InterruptibleSleep(ms)` and `continue`, with a connection that has been registered. -/
@[simp] def sleep (s : State) (conn : Option Nat) (ms : Nat) : State :=
  s.goTo (.sleepTest conn ms 0)

/-- `InterruptibleSleep` returns, and `continue`. -/
@[simp] def wake (s : State) (conn : Option Nat) : State :=
  match conn with
  | none => s.goTo .outerTest
  | some c => s.leave c .again

end State

/-- The names of the mutexes to which the sender has an open handle. -/
def handles (args : Arguments) (s : State) : List (List UInt16) :=
  if s.ipLock then [mutexName args] else []

/-- `GetLastError() == ERROR_ALREADY_EXISTS` behind `CreateMutexW`: a mutex exists as long as a
handle to it is open. -/
def existed (handles : List (List UInt16)) (name : List UInt16) : Bool := handles.contains name

/-! ### Events -/

/-- What a turn of the streaming loop meets. -/
structure Turn where
  /-- `liveSafety.allowed`, true where the turn does not check it. -/
  allowed : Bool
  /-- What `buildPipeline` answers to a new panel size. -/
  rebuild : Option BuildFailure
  /-- The encoder follows the capture. -/
  reconfigured : Bool
  /-- `dup.Width()` and `dup.Height()`. -/
  captured : UInt32 × UInt32
  /-- What `buildPipeline` answers when the monitor has been on a wrong size for too long. -/
  sizeRebuild : Option (Option BuildFailure)
  /-- No `SendFrame` fails. -/
  sent : Bool

/-- The steps of the three threads, with what they are answered. -/
inductive Event where
  /-- `CreateMutexW`: no handle, or a handle and whether the mutex has existed. -/
  | create (existed : Option Bool)
  /-- The worker goes on without asking anybody. -/
  | work
  /-- `CheckTrustedLan`. -/
  | network (allowed : Bool)
  /-- `Connection::Connect`. -/
  | connect (ok : Bool)
  /-- The worker gets `connMutex_`. -/
  | lock
  /-- `ReadFrame` of the handshake returns. -/
  | read (frame : Option Bytes)
  /-- `SendFrame` of the welcome. -/
  | welcome (sent : Bool)
  /-- `AcquirePanel`. -/
  | acquire (free : Bool)
  /-- `buildPipeline`. -/
  | build (failure : Option BuildFailure)
  | turn (answers : Turn)
  /-- `reader.join()` returns. -/
  | join
  | readerTest
  /-- `ReadFrame` of the reader returns; `sent` is false when a `SendFrame` it makes then fails. -/
  | readerRead (frame : Option Bytes) (sent : Bool)
  /-- `RequestStop` sets the flag. -/
  | requestStop
  | callerLock
  | callerInterrupt
  | callerUnlock
  /-- `Stop` has joined the worker and returns. -/
  | stopReturns

/-! ### Steps -/

variable {D : Type} (doubles : Doubles D) (args : Arguments)

/-- The message in a frame, where both reading loops go on if there is none. -/
def controlMessage (frame : Bytes) : Option (ControlMessage D) :=
  if isControlPayload frame then parseControlMessage doubles frame else none

/-- The worker goes on without asking anybody. -/
def work (s : State) : Option State :=
  match s.pc with
  | .refused =>
    some (({ s with ipLock := false }.enter .idle).publish ⟨.failed, .anotherSender, 0⟩ |>.goTo
      .done)
  | .outerTest => some (s.goTo (if s.stopRequested then .teardown else .network))
  | .registering c =>
    some (({ s with connMutex := none, activeConn := some c }.publish
      ⟨.waitingHello, .openDisplayUnavailable, 0⟩).goTo (.helloTest c))
  | .helloTest c => some (s.goTo (if s.stopRequested then .noHello c else .helloRead c))
  | .noHello c =>
    some ((s.publish ⟨.reconnecting, .openDisplayUnavailable, reconnectDelayMs⟩).leave c .again)
  | .gotHello c hello =>
    if helloMatchesExpectedDevice hello args.expectedDeviceId then
      some (s.goTo (.welcome c hello))
    else
      some (((s.close c).publish ⟨.failed, .deviceIdentityMismatch, 0⟩).leave c .leaveRun)
  | .panel c hello =>
    match normalizePanelSize hello.pixelsWide hello.pixelsHigh with
    | none =>
      some (((s.close c).publish ⟨.failed, .invalidPanel, reconnectDelayMs⟩).sleep (some c)
        reconnectDelayMs)
    | some (width, height) =>
      some ((s.publish ⟨.preparingDisplay, .none, 0⟩).goTo (.acquire c width height))
  | .sessionTest c =>
    some (s.goTo (if s.running && !s.stopRequested then .turn c else .sessionEnd c))
  | .sessionEnd c => some ((s.interrupt c).goTo (.joining c))
  | .unregistering c next =>
    -- The connection is destroyed behind `~ActiveConn`.
    some (({ s with connMutex := none, activeConn := none }.close c).goTo
      (match next with
        | .again => .outerTest
        | .leaveLoop => .teardown
        | .leaveRun => .done))
  | .sleepTest conn ms waited =>
    if waited < ms && !s.stopRequested then some (s.goTo (.sleepSlice conn ms waited))
    else some ({ s with log := s.log ++ [Act.sleep waited] }.wake conn)
  | .sleepSlice conn ms waited => some (s.goTo (.sleepTest conn ms (waited + sliceMs)))
  | .teardown =>
    let s' := { s with ipLock := false }.enter .idle
    some ((if s.stopRequested then s'.publish ⟨.idle, .none, 0⟩ else s').goTo .done)
  | _ => none

/-- The encoder follows the capture, and the panel follows a rotation made in Windows. -/
def followCapture (s : State) (answers : Turn) : State :=
  let s := if answers.reconfigured then s else s.endRunning
  if args.managedDisplay ∧ answers.captured = (s.height, s.width) then
    { s with width := s.height, height := s.width }
  else s

/-- The sends at the end of a turn. -/
def sendTurn (s : State) (c : Nat) (answers : Turn) : State :=
  (if answers.sent then s else s.endRunning).goTo (.sessionTest c)

/-- A turn of the streaming loop behind the resize: the monitor is put back on the panel's size
once, and the frames are sent. -/
def captureTurn (s : State) (c : Nat) (answers : Turn) : State :=
  let s := followCapture args s answers
  if !args.managedDisplay ∨ answers.captured = (s.width, s.height) then
    sendTurn { s with sizeRebuildDone := false } c answers
  else if s.sizeRebuildDone then sendTurn s c answers
  else
    match answers.sizeRebuild with
    | none => sendTurn s c answers
    | some (some failure) =>
      sendTurn ({ s with sizeRebuildDone := true }.publish
        ⟨.failed, failure.reason, reconnectDelayMs⟩) c answers
    | some none => { s with sizeRebuildDone := true }.goTo (.sessionTest c)

/-- A turn of the streaming loop. -/
def sessionTurn (s : State) (c : Nat) (answers : Turn) : State :=
  if !answers.allowed ∧ !isUsbMuxTarget args.ip then
    ((s.enter .unsafeNetwork).endRunning.interrupt c).goTo (.sessionEnd c)
  else
    match s.pendingResize with
    | none => captureTurn args s c answers
    | some (width, height) =>
      let s := { s with pendingResize := none }
      if (width, height) = (s.width, s.height) then captureTurn args s c answers
      else
        match answers.rebuild with
        | some failure =>
          ((s.publish ⟨.failed, failure.reason, reconnectDelayMs⟩).endRunning.interrupt c).goTo
            (.sessionEnd c)
        | none => captureTurn args { s with width := width, height := height } c answers

/-- What the reader does with a message. -/
def readMessage (s : State) (c : Nat) (sent : Bool) (msg : ControlMessage D) : State :=
  match msg.type with
  | .ping => if sent then s else s.endRunning
  | .hello =>
    if !helloMatchesExpectedDevice msg.hello args.expectedDeviceId then
      (s.publish ⟨.failed, .deviceIdentityMismatch, 0⟩).endRunning
    else if !sent then s.endRunning
    else
      match normalizePanelSize msg.hello.pixelsWide msg.hello.pixelsHigh with
      | none => s.endRunning.interrupt c
      | some size => { s with pendingResize := some size }
  | .sleeping =>
    { s.publish ⟨.sleeping, .openDisplayUnavailable, reconnectDelayMs⟩ with
      receiverSleeping := true }.endRunning.interrupt c
  | .closing =>
    { s.publish ⟨.idle, .openDisplayUnavailable, 0⟩ with
      receiverClosing := true }.endRunning.interrupt c
  | _ => s

/-- One step, or `none` where the event cannot happen. -/
def step (s : State) : Event → Option State
  | .create existed =>
    match s.pc, existed with
    | .guard, none =>
      some (((s.enter .idle).publish ⟨.failed, .anotherSender, 0⟩).goTo .done)
    | .guard, some true => some ({ s with ipLock := true }.goTo .refused)
    | .guard, some false => some ({ s with ipLock := true }.goTo .outerTest)
    | _, _ => none
  | .work => work args s
  | .network allowed =>
    match s.pc with
    | .network =>
      if allowed then
        some (((if s.state = .blocked then s else s.enter .connecting).publish
          ⟨if s.everStreamed then .reconnecting else .connecting, .none, 0⟩).goTo .connect)
      else if isUsbMuxTarget args.ip then none
      else
        some (((s.enter .unsafeNetwork).publish
          ⟨.unsafeNetwork, .networkUnsafe, blockedRetryMs⟩).sleep none blockedRetryMs)
    | _ => none
  | .connect ok =>
    match s.pc with
    | .connect =>
      let s := { s with log := s.log ++ [Act.connect] }
      if ok then some ({ s with connections := s.connections + 1 }.goTo (.register s.connections))
      else
        some ((s.publish ⟨.reconnecting, if isUsbMuxTarget args.ip then .usbUnavailable
          else .receiverUnavailable, reconnectDelayMs⟩).sleep none reconnectDelayMs)
    | _ => none
  | .lock =>
    match s.connMutex, s.pc with
    | none, .register c => some ({ s with connMutex := some .worker }.goTo (.registering c))
    | none, .leaving c next =>
      some ({ s with connMutex := some .worker }.goTo (.unregistering c next))
    | _, _ => none
  | .read frame =>
    match s.pc with
    | .helloRead c =>
      match frame with
      | none => some (s.goTo (.noHello c))
      | some frame =>
        match controlMessage doubles frame with
        | none => some (s.goTo (.helloTest c))
        | some msg =>
          some (s.goTo (if msg.type = .hello then .gotHello c msg.hello else .helloTest c))
    | _ => none
  | .welcome sent =>
    match s.pc with
    | .welcome c hello =>
      if sent then some (s.goTo (.panel c hello))
      else
        some (((s.close c).publish ⟨.reconnecting, .protocolError, reconnectDelayMs⟩).sleep
          (some c) reconnectDelayMs)
    | _ => none
  | .acquire free =>
    match s.pc with
    | .acquire c width height =>
      if args.managedDisplay && !free then
        some ((((s.enter .blocked).publish
          ⟨.blocked, .resolutionUnavailable, blockedRetryMs⟩).close c).sleep (some c)
          blockedRetryMs)
      else
        some ({ s with width := width, height := height, panelHeld := args.managedDisplay }.goTo
          (.pipeline c))
    | _ => none
  | .build failure =>
    match s.pc with
    | .pipeline c =>
      match failure with
      | some failure =>
        some (((s.publish ⟨.failed, failure.reason, reconnectDelayMs⟩).close c).sleep (some c)
          reconnectDelayMs)
      | none =>
        some (({ s with
          everStreamed := true
          running := true
          receiverSleeping := false
          receiverClosing := false
          pendingResize := none
          sizeRebuildDone := false
          reader := .test c }.enter .streaming).publish ⟨.streaming, .none, 0⟩ |>.goTo
            (.sessionTest c))
    | _ => none
  | .turn answers =>
    match s.pc with
    | .turn c => some (sessionTurn args s c answers)
    | _ => none
  | .join =>
    match s.pc, s.reader with
    | .joining c, .finished =>
      let s' := { s with reader := .absent }.close c
      let s' :=
        if !s.stopRequested && !s.receiverClosing && !s.receiverSleeping then
          s'.publish ⟨.reconnecting, .transportError, reconnectDelayMs⟩
        else s'
      some (s'.leave c (if s.receiverClosing then .leaveLoop else .again))
    | _, _ => none
  | .readerTest =>
    match s.reader with
    | .test c =>
      some { s with reader := if s.running && !s.stopRequested then .reading c else .finished }
    | _ => none
  | .readerRead frame sent =>
    match s.reader with
    | .reading c =>
      match frame with
      | none => some { s.endRunning with reader := .finished }
      | some frame =>
        match controlMessage doubles frame with
        | none => some { s with reader := .test c }
        | some msg => some { readMessage args s c sent msg with reader := .test c }
    | _ => none
  | .requestStop =>
    match s.caller with
    | .idle => some { s with stopRequested := true, caller := .flagged }
    | _ => none
  | .callerLock =>
    match s.connMutex, s.caller with
    | none, .flagged => some { s with connMutex := some .caller, caller := .locked }
    | _, _ => none
  | .callerInterrupt =>
    match s.caller with
    | .locked =>
      match s.activeConn with
      | none => some { s with caller := .interrupted }
      | some c => some { s.interrupt c with caller := .interrupted }
    | _ => none
  | .callerUnlock =>
    match s.caller with
    | .interrupted =>
      some { s with connMutex := none, caller := .idle, stops := s.stops + 1 }
    | _ => none
  | .stopReturns =>
    match s.caller, s.pc with
    | .idle, .done =>
      if 0 < s.stops then
        some (({ s with stopRequested := false }.enter .idle).publish ⟨.idle, .none, 0⟩)
      else none
    | _, _ => none

/-! ### A sender -/

/-- `double` where no message has a number. -/
def noNumbers : Doubles Unit where
  fromChars _ := none
  isFinite _ := true
  toInteger _ := none
  zero := ()
  upright := ()

/-- The tray's sender for the device with the id `A`. -/
def tablet : Arguments := ⟨ascii "192.168.1.5", 9000, ascii "A", true⟩

/-- The events that lead the worker into `ReadFrame` on its first connection. -/
def toHandshake : List Event :=
  [.create (some false), .work, .network true, .connect true, .lock, .work, .work]

end SecondDisplay.RunLoop
