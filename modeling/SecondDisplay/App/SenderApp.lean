import SecondDisplay.Library.Bytes

/-!
# The sender seen from the tray (`app/SenderApp.cpp`)

A `SenderApp` owns one worker thread.  The tray starts it, asks it to stop and polls
`IsRunning`; the worker publishes its state and one day leaves `RunLoop`, which clears
`running_`.  What the worker does in between is in this model only as what it publishes.
-/

namespace SecondDisplay

/-- `StreamSettings`. -/
structure StreamSettings where
  fps : UInt32 := 60
  bitrateBps : UInt32 := 30000000
  requirePrivateNetwork : Bool := true
  deriving DecidableEq

/-- `SenderApp::State`. -/
inductive SenderState where
  | idle | connecting | streaming | blocked | unsafeNetwork
  deriving DecidableEq, Repr

/-- `ConnectionPhase`. -/
inductive ConnectionPhase where
  | idle | connecting | waitingHello | preparingDisplay | streaming | reconnecting | sleeping
  | blocked | unsafeNetwork | failed
  deriving DecidableEq, Repr

/-- `FailureReason`. -/
inductive FailureReason where
  | none | receiverUnavailable | openDisplayUnavailable | usbUnavailable | networkUnsafe
  | driverUnavailable | resolutionUnavailable | captureUnavailable | encoderUnavailable
  | invalidPanel | protocolError | deviceIdentityMismatch | anotherSender | transportError
  deriving DecidableEq, Repr

/-- `SenderApp`: its flags, what its worker publishes and the arguments the worker runs with. -/
structure SenderApp where
  /-- Which object this is: senders are compared by identity, never by value. -/
  object : Nat
  running : Bool := false
  stopRequested : Bool := false
  state : SenderState := .idle
  phase : ConnectionPhase := .idle
  failure : FailureReason := .none
  deviceId : Bytes := []
  attempt : UInt32 := 0
  ip : Bytes := []
  port : UInt16 := 0
  settings : StreamSettings := {}
  expectedDeviceId : Bytes := []
  deriving DecidableEq

/-- What a worker publishes while it runs. -/
structure Report where
  state : SenderState
  phase : ConnectionPhase
  failure : FailureReason
  deviceId : Bytes
  deriving DecidableEq

namespace SenderApp

/-- `Start`.  Nothing happens while the worker runs; a worker that has finished is reaped. -/
def start (app : SenderApp) (ip : Bytes) (port : UInt16) (settings : StreamSettings)
    (expectedDeviceId : Bytes) : SenderApp :=
  if app.running then app
  else
    { app with
      running := true
      stopRequested := false
      deviceId := expectedDeviceId
      attempt := app.attempt + 1
      phase := .connecting
      failure := .none
      ip := ip
      port := port
      settings := settings
      expectedDeviceId := expectedDeviceId }

/-- `RequestStop`. -/
def requestStop (app : SenderApp) : SenderApp := { app with stopRequested := true }

/-- `Stop`: it waits until the worker has left. -/
def stop (app : SenderApp) : SenderApp :=
  { app with
    running := false
    stopRequested := false
    state := .idle
    phase := .idle
    failure := .none }

/-- The worker publishes its state. -/
def publish (app : SenderApp) (report : Report) : SenderApp :=
  { app with
    state := report.state
    phase := report.phase
    failure := report.failure
    deviceId := report.deviceId }

/-- The worker has left `RunLoop`. -/
def finish (app : SenderApp) : SenderApp := { app with running := false }

/-! ### What each call does to the flags -/

@[simp] theorem start_running (app : SenderApp) (ip : Bytes) (port : UInt16)
    (settings : StreamSettings) (expected : Bytes) :
    (app.start ip port settings expected).running = true := by
  rw [start]
  split <;> simp_all

@[simp] theorem start_object (app : SenderApp) (ip : Bytes) (port : UInt16)
    (settings : StreamSettings) (expected : Bytes) :
    (app.start ip port settings expected).object = app.object := by
  rw [start]
  split <;> rfl

/-- A worker that starts has not been asked to stop. -/
theorem start_stopRequested {app : SenderApp} (h : app.running = false) (ip : Bytes)
    (port : UInt16) (settings : StreamSettings) (expected : Bytes) :
    (app.start ip port settings expected).stopRequested = false := by
  rw [start, if_neg (by simp [h])]

@[simp] theorem requestStop_running (app : SenderApp) :
    app.requestStop.running = app.running := rfl

@[simp] theorem requestStop_stopRequested (app : SenderApp) :
    app.requestStop.stopRequested = true := rfl

@[simp] theorem requestStop_object (app : SenderApp) :
    app.requestStop.object = app.object := rfl

@[simp] theorem stop_running (app : SenderApp) : app.stop.running = false := rfl

@[simp] theorem publish_running (app : SenderApp) (report : Report) :
    (app.publish report).running = app.running := rfl

@[simp] theorem publish_stopRequested (app : SenderApp) (report : Report) :
    (app.publish report).stopRequested = app.stopRequested := rfl

@[simp] theorem publish_object (app : SenderApp) (report : Report) :
    (app.publish report).object = app.object := rfl

@[simp] theorem finish_running (app : SenderApp) : app.finish.running = false := rfl

end SenderApp

end SecondDisplay
