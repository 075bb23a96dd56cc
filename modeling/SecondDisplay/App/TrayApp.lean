import SecondDisplay.App.DeviceCoordinator
import SecondDisplay.App.SenderApp
import SecondDisplay.Net.DiscoveryCache
import SecondDisplay.Net.UsbMux
import Mathlib.Data.List.Dedup

/-!
# The tray (`app/TrayApp.cpp`)

The tray owns one sender for each configured device, at most one sender for a cable, and a queue
of commands.  All its handlers run on one thread, each to its end: the timer, the menu and the
panel.  What a handler reads from outside (clocks, attached cables, what the panel holds) is an
argument.  Notices, icons and menus are left out.
-/

namespace SecondDisplay

/-! ### Data -/

/-- `static_cast<size_t>(-1)`. -/
def npos : Nat := 2 ^ 64 - 1

/-- `ConnectionTransport`. -/
inductive ConnectionTransport where
  | none | wifi | usb
  deriving DecidableEq, Repr

/-- `StartupConnectionAttempt`, with the steady clock in milliseconds. -/
structure StartupConnectionAttempt where
  transport : ConnectionTransport := .none
  fallbackUsed : Bool := false
  started : Nat := 0
  wifiOrder : List Nat := []
  wifiPosition : Nat := 0
  activeDeviceIndex : Nat := npos
  waitingNext : Bool := false
  waitingTransportStop : Bool := false
  deriving DecidableEq

/-- `kStartupConnectionAttemptTimeout`. -/
def startupConnectionAttemptTimeout : Nat := 8000

/-- `TrayContext::CommandType`. -/
inductive CommandType where
  | start | stop | retry | switch
  deriving DecidableEq, Repr

/-- `TrayContext::DeviceCommand`. -/
structure DeviceCommand where
  type : CommandType
  index : Nat := npos
  deriving DecidableEq

/-- `TrayContext`. -/
structure TrayContext where
  /-- One sender for each configured device, aligned with `cfg.devices`. -/
  apps : List SenderApp := []
  retiredApps : List SenderApp := []
  cfg : Config := {}
  discoveryCache : List DiscoveryRecord := []
  usbDevices : List UsbMuxDevice := []
  lastUsbRefresh : Nat := 0
  usbApp : Option SenderApp := none
  activeUsbTarget : Bytes := []
  startupConnection : StartupConnectionAttempt := {}
  deviceFlow : DeviceCoordinator := {}
  commands : List DeviceCommand := []
  switchingTo : Option Nat := none
  switching : Bool := false
  restartAfterStop : List Nat := []
  restartUsbTarget : Bytes := []
  /-- The next sender object that is made. -/
  nextObject : Nat := 0
  deriving DecidableEq

/-- What a handler reads from outside: the steady clock in milliseconds, the system clock in
seconds and what `ListUsbMuxDevices` answers. -/
structure Outside where
  now : Nat
  seconds : Int64 := 0
  attached : List UsbMuxDevice := []

/-! ### Addresses and settings -/

/-- `MakeStreamSettings`. -/
def makeStreamSettings (cfg : Config) (usb : Bool) : StreamSettings :=
  let bitrateMbps := if usb then max cfg.bitrateMbps 80 else cfg.bitrateMbps
  { fps := if usb then min cfg.fps 60 else cfg.fps
    bitrateBps := bitrateMbps * 1000000
    requirePrivateNetwork := cfg.requirePrivateNetwork }

/-- `ReceiverLabel`: the instance name, or the host name where the instance name is a generic
one. -/
def receiverLabel (receiver : DiscoveryRecord) : Bytes :=
  let generic := receiver.instanceName = [] ∨ receiver.instanceName = ascii "iPad" ∨
    receiver.instanceName = ascii "iPhone" ∨ receiver.instanceName = ascii "OpenDisplay"
  if generic then
    let suffix := ascii ".local"
    let host :=
      if suffix.length < receiver.host.length ∧
          receiver.host.drop (receiver.host.length - suffix.length) = suffix then
        receiver.host.take (receiver.host.length - suffix.length)
      else receiver.host
    if host = [] then receiver.instanceName else host
  else receiver.instanceName

/-- The address of `SplitDevice`. -/
def splitDeviceAddress (device : DeviceConfig) : Bytes :=
  if device.lastIpv4 ≠ [] then device.lastIpv4 else device.bonjourHost

/-- The loop of `ResolveDeviceTarget` over the records for a device without an id: two records of
different ids that both fit make the answer ambiguous. -/
def matchRecords (device : DeviceConfig) :
    List DiscoveryRecord → Option DiscoveryRecord → Option DiscoveryRecord
  | [], found => found
  | record :: records, found =>
    let sameKnownEndpoint := record.address = device.lastIpv4 ∨ record.host = device.bonjourHost
    let sameName := device.name ≠ [] ∧ receiverLabel record = device.name
    if record.online ∧ (sameKnownEndpoint ∨ sameName) then
      if found.any fun other => decide (other.id ≠ record.id) then none
      else matchRecords device records (some record)
    else matchRecords device records found

/-- A host name to connect to, if there is one. -/
def hostTarget (record : DiscoveryRecord) : Option Bytes :=
  if record.host ≠ [] then some record.host else none

/-- The part of `ResolveDeviceTarget` that asks the discovery cache. -/
def discoveredTarget (records : List DiscoveryRecord) (device : DeviceConfig) : Option Bytes :=
  if device.id ≠ [] then
    match findById records device.id with
    | some record =>
      if record.online then
        if record.address ≠ [] then some record.address
        else record.addresses.head?.or (hostTarget record)
      else none
    | none => none
  else
    match matchRecords device records none with
    | some record => if record.address ≠ [] then some record.address else hostTarget record
    | none => none

namespace TrayContext

/-- `ResolveDeviceTarget`. -/
def resolveDeviceTarget (ctx : TrayContext) (index : Nat) : Bytes :=
  match ctx.cfg.devices[index]? with
  | none => []
  | some device =>
    (discoveredTarget ctx.discoveryCache device).getD (splitDeviceAddress device)

/-- `DevicePort`. -/
def devicePort (ctx : TrayContext) (index : Nat) : UInt16 :=
  match ctx.cfg.devices[index]? with
  | none => 0
  | some device =>
    let configured := if device.port = 0 then ctx.cfg.port else device.port
    match findById ctx.discoveryCache device.id with
    | some record => if record.online ∧ record.port ≠ 0 then record.port else configured
    | none => configured

/-- The id of a configured device. -/
def deviceId (ctx : TrayContext) (index : Nat) : Bytes :=
  ((ctx.cfg.devices[index]?).map DeviceConfig.id).getD []

/-! ### Starting and stopping senders -/

/-- `AnyRunning`. -/
def anyRunning (ctx : TrayContext) : Bool :=
  ctx.usbApp.any (·.running) || ctx.apps.any (·.running)

/-- `IsWifiStreaming`. -/
def isWifiStreaming (ctx : TrayContext) : Bool :=
  ctx.apps.any fun app => decide (app.state = .streaming)

/-- `IsTransportStreaming`. -/
def isTransportStreaming (ctx : TrayContext) : ConnectionTransport → Bool
  | .usb => ctx.usbApp.any fun app => decide (app.state = .streaming)
  | .wifi => ctx.isWifiStreaming
  | .none => false

/-- `apps[index]->Start` with the port, the settings and the id of the configured device. -/
def startApp (ctx : TrayContext) (index : Nat) (target : Bytes) : TrayContext :=
  { ctx with
    apps := ctx.apps.modify index fun app =>
      app.start target (ctx.devicePort index) (makeStreamSettings ctx.cfg false)
        (ctx.deviceId index) }

/-- A loop of `startApp` over positions and targets. -/
def startEach (ctx : TrayContext) (targets : List (Nat × Bytes)) : TrayContext :=
  targets.foldl (fun ctx p => ctx.startApp p.1 p.2) ctx

/-- `StopUsbSession`. -/
def stopUsbSession (ctx : TrayContext) : TrayContext :=
  { ctx with
    usbApp := none
    activeUsbTarget := if ctx.usbApp.isSome then [] else ctx.activeUsbTarget }

/-- `StopConfiguredSenders`. -/
def stopConfiguredSenders (ctx : TrayContext) : TrayContext :=
  { ctx with apps := ctx.apps.map SenderApp.stop }

/-- `RequestStopConfiguredSenders`. -/
def requestStopConfiguredSenders (ctx : TrayContext) : TrayContext :=
  { ctx with apps := ctx.apps.map SenderApp.requestStop }

/-- A new `usbApp`, started on a target. -/
def launchUsb (ctx : TrayContext) (target : Bytes) : TrayContext :=
  { ctx with
    activeUsbTarget := target
    usbApp := some (({ object := ctx.nextObject } : SenderApp).start target ctx.cfg.port
      (makeStreamSettings ctx.cfg true) [])
    nextObject := ctx.nextObject + 1 }

/-- `StartUsbSession`. -/
def startUsbSession (ctx : TrayContext) (target : Bytes) : TrayContext :=
  ctx.stopConfiguredSenders.stopUsbSession.launchUsb target

/-- `RefreshUsbDevices`. -/
def refreshUsbDevices (ctx : TrayContext) (outside : Outside) (force : Bool) : TrayContext :=
  if ¬force ∧ outside.now - ctx.lastUsbRefresh < 2000 then ctx
  else { ctx with lastUsbRefresh := outside.now, usbDevices := outside.attached }

/-- `PreferredUsbTarget`: the remembered cable, or the only one. -/
def preferredUsbTarget (ctx : TrayContext) : Option Bytes :=
  match ctx.usbDevices.find? fun device => decide
      (ctx.cfg.lastUsbTarget ≠ [] ∧ makeUsbMuxTarget device.udid = ctx.cfg.lastUsbTarget) with
  | some device => some (makeUsbMuxTarget device.udid)
  | none =>
    match ctx.usbDevices with
    | [device] => some (makeUsbMuxTarget device.udid)
    | _ => none

/-! ### Connecting at startup -/

/-- `StartWifiSession`. -/
def startWifiSession (ctx : TrayContext) : TrayContext × Bool :=
  if ctx.apps = [] then (ctx, false)
  else
    let ctx := ctx.stopUsbSession
    let flow := (DeviceCoordinator.begin ctx.cfg.devices ctx.cfg.preferredDeviceId).1
    let ctx := { ctx with deviceFlow := flow }
    match flow.order with
    | [] => (ctx, false)
    | index :: _ =>
      let ctx := { ctx with startupConnection := { ctx.startupConnection with
        wifiOrder := flow.order, wifiPosition := 0, activeDeviceIndex := index } }
      let target := ctx.resolveDeviceTarget index
      if target = [] then (ctx, false) else (ctx.startApp index target, true)

/-- `StartWifiCandidate`. -/
def startWifiCandidate (ctx : TrayContext) (outside : Outside) (orderPosition : Nat) :
    TrayContext × Bool :=
  match ctx.startupConnection.wifiOrder[orderPosition]? with
  | none => (ctx, false)
  | some index =>
    if ctx.apps.length ≤ index then (ctx, false)
    else
      let target := ctx.resolveDeviceTarget index
      if target = [] then (ctx, false)
      else
        let ctx := { ctx with startupConnection := { ctx.startupConnection with
          wifiPosition := orderPosition
          activeDeviceIndex := index
          waitingNext := false
          started := outside.now } }
        (ctx.startApp index target, true)

/-- `StartTransportAttempt`. -/
def startTransportAttempt (ctx : TrayContext) : ConnectionTransport → TrayContext × Bool
  | .usb =>
    match ctx.preferredUsbTarget with
    | none => (ctx, false)
    | some target => (ctx.startUsbSession target, true)
  | .wifi => ctx.startWifiSession
  | .none => (ctx, false)

/-- `StopTransportAttempt`. -/
def stopTransportAttempt (ctx : TrayContext) : ConnectionTransport → TrayContext
  | .usb => ctx.stopUsbSession
  | .wifi => ctx.stopConfiguredSenders
  | .none => ctx

/-- `usbApp->RequestStop()`, if there is one. -/
def requestStopUsb (ctx : TrayContext) : TrayContext :=
  { ctx with usbApp := ctx.usbApp.map SenderApp.requestStop }

/-- `RequestStopTransportAttempt`. -/
def requestStopTransportAttempt (ctx : TrayContext) : ConnectionTransport → TrayContext
  | .usb => ctx.requestStopUsb
  | .wifi => ctx.requestStopConfiguredSenders
  | .none => ctx

/-- `OtherTransport`. -/
def otherTransport : ConnectionTransport → ConnectionTransport
  | .usb => .wifi
  | .wifi => .usb
  | .none => .none

/-- A write to `startupConnection.transport`. -/
def setTransport (ctx : TrayContext) (transport : ConnectionTransport) : TrayContext :=
  { ctx with startupConnection := { ctx.startupConnection with transport := transport } }

/-- The startup attempt runs over a transport from now on. -/
def attemptStarted (ctx : TrayContext) (outside : Outside) (transport : ConnectionTransport)
    (fallback : Bool) : TrayContext :=
  { ctx with startupConnection := { ctx.startupConnection with
    transport := transport, fallbackUsed := fallback, started := outside.now } }

/-- The transport that `BeginStartupAutoConnect` tries first. -/
def preferredTransport (ctx : TrayContext) : ConnectionTransport :=
  if ctx.cfg.lastConnectionTransport = ascii "usb" then .usb
  else if ctx.cfg.lastConnectionTransport = ascii "wifi" then .wifi
  else if ctx.preferredUsbTarget.isSome then .usb else .wifi

/-- `BeginStartupAutoConnect`. -/
def beginStartupAutoConnect (ctx : TrayContext) (outside : Outside) : TrayContext :=
  let ctx := { ctx.refreshUsbDevices outside true with startupConnection := {} }
  let preferred := ctx.preferredTransport
  match ctx.startTransportAttempt preferred with
  | (ctx, true) => ctx.attemptStarted outside preferred false
  | (ctx, false) =>
    let fallback := otherTransport preferred
    match ctx.startTransportAttempt fallback with
    | (ctx, true) => ctx.attemptStarted outside fallback true
    | (ctx, false) => ctx

/-- The Wi-Fi half of `RememberSuccessfulTransport` for a streaming device. -/
def rememberWifi (ctx : TrayContext) (outside : Outside) (index : Nat) (app : SenderApp)
    (device : DeviceConfig) : TrayContext :=
  let address := ctx.resolveDeviceTarget index
  let learnsId := device.id = [] ∧ app.deviceId ≠ []
  let id := if learnsId then app.deviceId else device.id
  let stale := device.lastSeen = 0 ∨ outside.seconds - device.lastSeen ≥ 3600
  let lastSeen := if stale then outside.seconds else device.lastSeen
  let host := match findById ctx.discoveryCache id with
    | some record => if record.host ≠ [] then record.host else device.bonjourHost
    | none => device.bonjourHost
  let changed := ctx.cfg.lastConnectionTransport ≠ ascii "wifi" ∨
    ctx.cfg.lastWifiAddress ≠ address ∨ learnsId ∨ stale ∨ host ≠ device.bonjourHost
  if changed then
    { ctx with cfg := { ctx.cfg with
      lastConnectionTransport := ascii "wifi"
      lastWifiAddress := address
      devices := ctx.cfg.devices.set index
        { device with id := id, lastSeen := lastSeen, bonjourHost := host, lastIpv4 := address } } }
  else ctx

/-- `RememberSuccessfulTransport`: the cable if it streams, else the first device that does. -/
def rememberSuccessfulTransport (ctx : TrayContext) (outside : Outside) : TrayContext :=
  if ctx.isTransportStreaming .usb then
    { ctx with cfg := { ctx.cfg with
      lastConnectionTransport := ascii "usb", lastUsbTarget := ctx.activeUsbTarget } }
  else
    match (ctx.apps.zip ctx.cfg.devices).zipIdx.find? fun ((app, _), _) =>
        decide (app.state = .streaming) with
    | some ((app, device), index) => ctx.rememberWifi outside index app device
    | none => ctx

/-- The failures after which trying another device is of no use. -/
def globalFailure (app : SenderApp) : Bool :=
  decide (app.phase = .unsafeNetwork) || decide (app.failure = .driverUnavailable) ||
    decide (app.failure = .resolutionUnavailable) || decide (app.failure = .captureUnavailable) ||
    decide (app.failure = .encoderUnavailable) || decide (app.failure = .anotherSender)

/-- `active.RequestStop()`. -/
def requestStopApp (ctx : TrayContext) (index : Nat) : TrayContext :=
  { ctx with apps := ctx.apps.modify index SenderApp.requestStop }

/-- `deviceFlow.ReportFailure`. -/
def reportFailure (ctx : TrayContext) (failureClass : DeviceFailureClass) : TrayContext :=
  { ctx with deviceFlow := (ctx.deviceFlow.reportFailure failureClass).1 }

/-- A write to `startupConnection.waitingNext`. -/
def setWaitingNext (ctx : TrayContext) (waiting : Bool) : TrayContext :=
  { ctx with startupConnection := { ctx.startupConnection with waitingNext := waiting } }

/-- A write to `startupConnection.waitingTransportStop`. -/
def setWaitingTransportStop (ctx : TrayContext) (waiting : Bool) : TrayContext :=
  { ctx with startupConnection := { ctx.startupConnection with waitingTransportStop := waiting } }

/-- The senders that a failed startup attempt waits for are down. -/
def transportDown (ctx : TrayContext) : ConnectionTransport → Bool
  | .usb => !ctx.usbApp.any (·.running)
  | _ => !ctx.apps.any (·.running)

/-- `AdvanceStartupAutoConnect` once the attempt streams. -/
def startupStreaming (ctx : TrayContext) (outside : Outside) : TrayContext :=
  let reported :=
    match ctx.startupConnection.transport,
        ctx.cfg.devices[ctx.startupConnection.activeDeviceIndex]? with
    | .wifi, some device => { ctx with deviceFlow := ctx.deviceFlow.reportStreaming device.id }
    | _, _ => ctx
  (reported.rememberSuccessfulTransport outside).setTransport .none

/-- `AdvanceStartupAutoConnect` while a failed transport is torn down: the fallback starts when
its senders are down, once. -/
def startupTeardown (ctx : TrayContext) (outside : Outside) : TrayContext :=
  let failed := ctx.startupConnection.transport
  if !ctx.transportDown failed then ctx
  else
    let ctx := (ctx.stopTransportAttempt failed).setWaitingTransportStop false
    if ctx.startupConnection.fallbackUsed then ctx.setTransport .none
    else
      let fallback := otherTransport failed
      match ctx.startTransportAttempt fallback with
      | (ctx, true) => ctx.attemptStarted outside fallback true
      | (ctx, false) => ctx.setTransport .none

/-- The attempt has run for its full time. -/
def startupTimedOut (ctx : TrayContext) (outside : Outside) : Bool :=
  decide (startupConnectionAttemptTimeout ≤ outside.now - ctx.startupConnection.started)

/-- The part of `AdvanceStartupAutoConnect` about the active Wi-Fi device, with whether the
function returns there. -/
def advanceWifiAttempt (ctx : TrayContext) (outside : Outside) (active : SenderApp) :
    TrayContext × Bool :=
  let index := ctx.startupConnection.activeDeviceIndex
  let next := ctx.startupConnection.wifiPosition + 1
  if globalFailure active then
    (((ctx.reportFailure .global).requestStopApp index).setTransport .none, true)
  else if ctx.startupConnection.waitingNext then
    if active.running then (ctx, true)
    else
      match ctx.startWifiCandidate outside next with
      | (ctx, true) => (ctx, true)
      | (ctx, false) => (ctx.setWaitingNext false, false)
  else if active.phase = .failed ∨ ctx.startupTimedOut outside then
    let ctx := (ctx.reportFailure .device).requestStopApp index
    if next < ctx.startupConnection.wifiOrder.length then (ctx.setWaitingNext true, true)
    else (ctx, active.running)
  else (ctx, false)

/-- `AdvanceStartupAutoConnect` while the attempt neither streams nor is torn down. -/
def startupTrying (ctx : TrayContext) (outside : Outside) : TrayContext :=
  let (ctx, returned) :=
    match ctx.startupConnection.transport, ctx.apps[ctx.startupConnection.activeDeviceIndex]? with
    | .wifi, some active => ctx.advanceWifiAttempt outside active
    | _, _ => (ctx, false)
  if returned then ctx
  else if !ctx.startupTimedOut outside then ctx
  else (ctx.requestStopTransportAttempt ctx.startupConnection.transport).setWaitingTransportStop
    true

/-- `AdvanceStartupAutoConnect`. -/
def advanceStartupAutoConnect (ctx : TrayContext) (outside : Outside) : TrayContext :=
  if ctx.startupConnection.transport = .none then ctx
  else if ctx.isTransportStreaming ctx.startupConnection.transport then
    ctx.startupStreaming outside
  else if ctx.startupConnection.waitingTransportStop then ctx.startupTeardown outside
  else ctx.startupTrying outside

/-! ### The command queue -/

/-- The entry check of `QueueDeviceCommand`: all commands but Stop need a configured device. -/
def outOfRange (ctx : TrayContext) (command : DeviceCommand) : Bool :=
  decide (command.type ≠ .stop) && decide (ctx.cfg.devices.length ≤ command.index)

/-- `QueueDeviceCommand`. -/
def queueDeviceCommand (ctx : TrayContext) (command : DeviceCommand) : TrayContext :=
  if ctx.outOfRange command then ctx
  else if command.type = .switch ∧ ctx.switchingTo = some command.index then ctx
  else if command.type = .switch ∧ ¬(ctx.deviceFlow.requestSwitch command.index).2 then ctx
  else
    { ctx with
      deviceFlow :=
        if command.type = .switch then (ctx.deviceFlow.requestSwitch command.index).1
        else ctx.deviceFlow
      commands :=
        if command ∈ ctx.commands then ctx.commands else ctx.commands ++ [command] }

/-- A settings restart waits to be carried out. -/
def restartPending (ctx : TrayContext) : Bool :=
  decide (ctx.restartAfterStop ≠ []) || decide (ctx.restartUsbTarget ≠ [])

/-- `ProcessDeviceCommands` drops the retired senders that are down. -/
def reapRetired (ctx : TrayContext) : TrayContext :=
  { ctx with retiredApps := ctx.retiredApps.filter (·.running) }

/-- The sender of a configured device runs. -/
def appRunning (ctx : TrayContext) (index : Nat) : Bool :=
  (ctx.apps[index]?).any (·.running)

/-- The senders of the restart list start again. -/
def restartApps (ctx : TrayContext) : TrayContext :=
  ctx.startEach (ctx.restartAfterStop.map fun index => (index, ctx.resolveDeviceTarget index))

/-- The cable session starts again if it was running before. -/
def restartUsb (ctx : TrayContext) : TrayContext :=
  if ctx.restartUsbTarget ≠ [] then ctx.launchUsb ctx.restartUsbTarget else ctx

/-- `ProcessDeviceCommands` once the senders of a settings restart are down. -/
def finishRestart (ctx : TrayContext) : TrayContext :=
  { ctx.restartApps.restartUsb with
    restartAfterStop := [], restartUsbTarget := [], switching := false }

/-- The chosen device starts, if it has an address. -/
def startChosen (ctx : TrayContext) : TrayContext :=
  match ctx.switchingTo with
  | none => ctx
  | some index =>
    if ctx.resolveDeviceTarget index = [] then ctx
    else ctx.startApp index (ctx.resolveDeviceTarget index)

/-- `ProcessDeviceCommands` once every sender is down. -/
def finishSwitch (ctx : TrayContext) : TrayContext :=
  let ctx := ctx.stopUsbSession.startChosen
  { ctx with
    switching := false
    switchingTo := none
    deviceFlow := ctx.deviceFlow.completeSwitch false }

/-- `ProcessDeviceCommands` carries out a command from the queue. -/
def beginCommand (ctx : TrayContext) (command : DeviceCommand) : TrayContext :=
  let ctx := (ctx.setTransport .none).requestStopUsb.requestStopConfiguredSenders
  match command.type with
  | .stop =>
    { ctx with deviceFlow := DeviceCoordinator.reset, switching := true, switchingTo := none }
  | _ => { ctx with switching := true, switchingTo := some command.index }

/-- `ProcessDeviceCommands`. -/
def processDeviceCommands (ctx : TrayContext) : TrayContext :=
  let ctx := ctx.reapRetired
  if ctx.switching then
    if ctx.restartPending then
      if ctx.restartAfterStop.any ctx.appRunning then ctx
      else if ctx.usbApp.any (·.running) then ctx
      else ctx.finishRestart
    else if ctx.anyRunning then ctx
    else ctx.finishSwitch
  else
    match ctx.commands with
    | [] => ctx
    | command :: rest => { ctx with commands := rest }.beginCommand command

/-! ### Saving the settings -/

/-- `RunningAddresses`. -/
def runningAddresses (ctx : TrayContext) : List Bytes :=
  ((ctx.apps.zip ctx.cfg.devices).filter (·.1.running)).map fun p => splitDeviceAddress p.2

/-- The loop of `ApplyAndRestart` over the new devices: the old senders not taken over yet, the
senders and the restart list so far. -/
structure Takeover where
  oldApps : List (Option SenderApp)
  apps : List SenderApp := []
  restartAfterStop : List Nat
  nextObject : Nat

/-- The test that an old sender not taken over yet belongs to a new device. -/
def takesOver (device : DeviceConfig) : Option SenderApp × DeviceConfig → Bool
  | (none, _) => false
  | (some _, old) =>
    (decide (device.id ≠ []) && decide (device.id = old.id)) ||
      decide (splitDeviceAddress device = splitDeviceAddress old)

/-- One round of the loop, for the new device at position `next`. -/
def Takeover.step (oldDevices : List DeviceConfig) (reconnect : List Bytes) (restartActive : Bool)
    (state : Takeover) (entry : DeviceConfig × Nat) : Takeover :=
  let (device, next) := entry
  match (state.oldApps.zip oldDevices).zipIdx.find? fun (p, _) => takesOver device p with
  | some ((some app, old), found) =>
    let endpointChanged := splitDeviceAddress device ≠ splitDeviceAddress old
    let restart := app.running ∧ (restartActive ∨ endpointChanged)
    { state with
      oldApps := state.oldApps.set found none
      apps := state.apps ++ [if restart then app.requestStop else app]
      restartAfterStop :=
        if restart then state.restartAfterStop ++ [next] else state.restartAfterStop }
  | _ =>
    let wasRunning := (oldDevices[next]?).any fun old =>
      decide (splitDeviceAddress old ∈ reconnect)
    { state with
      apps := state.apps ++ [{ object := state.nextObject }]
      restartAfterStop :=
        if wasRunning then state.restartAfterStop ++ [next] else state.restartAfterStop
      nextObject := state.nextObject + 1 }

/-- The whole loop. -/
def takeover (ctx : TrayContext) (oldDevices : List DeviceConfig) (reconnect : List Bytes)
    (restartActive : Bool) : Takeover :=
  ctx.cfg.devices.zipIdx.foldl (Takeover.step oldDevices reconnect restartActive)
    { oldApps := ctx.apps.map some
      restartAfterStop := ctx.restartAfterStop
      nextObject := ctx.nextObject }

/-- `ApplyAndRestart` from the cable sender on. -/
def scheduleRestart (ctx : TrayContext) (restartActive : Bool) : TrayContext :=
  let ctx :=
    if restartActive ∧ ctx.usbApp.any (·.running) then
      { ctx with restartUsbTarget := ctx.activeUsbTarget }.requestStopUsb
    else ctx
  if ctx.restartPending then
    { ctx with
      restartAfterStop := ctx.restartAfterStop.mergeSort.dedup
      switching := true
      switchingTo := none }
  else ctx

/-- `ApplyAndRestart`. -/
def applyAndRestart (ctx : TrayContext) (oldDevices : List DeviceConfig) (reconnect : List Bytes)
    (restartActive : Bool) : TrayContext :=
  let taken := ctx.takeover oldDevices reconnect restartActive
  { ctx with
    apps := taken.apps
    retiredApps := ctx.retiredApps ++
      (taken.oldApps.filterMap id).map SenderApp.requestStop
    restartAfterStop := taken.restartAfterStop
    nextObject := taken.nextObject }.scheduleRestart restartActive

end TrayContext

/-- `InferStreamProfile`. -/
def inferStreamProfile (fps bitrateMbps : Nat) : StreamProfile :=
  if fps = 60 ∧ bitrateMbps = 30 then .balanced
  else if fps = 60 ∧ bitrateMbps = 15 then .lowBandwidth
  else if fps = 60 ∧ bitrateMbps = 45 then .sharp
  else .custom

/-- What the panel holds when the user saves: numbers (`none` where `GetDlgItemInt` finds none),
the entries of the device box and the two check boxes. -/
structure PanelForm where
  port : Option Nat
  fps : Option Nat
  bitrateMbps : Option Nat
  devices : List DeviceConfig
  autoReconnect : Bool
  requirePrivateNetwork : Bool

namespace PanelForm

/-- The numbers that pass the checks of `SavePanelSettings`. -/
def checked (form : PanelForm) : Option (Nat × Nat × Nat) :=
  match form.port, form.fps, form.bitrateMbps with
  | some port, some fps, some bitrateMbps =>
    if port = 0 ∨ 65535 < port ∨ fps < 30 ∨ 120 < fps ∨ bitrateMbps < 5 ∨ 100 < bitrateMbps then
      none
    else some (port, fps, bitrateMbps)
  | _, _, _ => none

/-- An entry of the box takes over what is known about the device at its endpoint. -/
def withKnown (oldDevices : List DeviceConfig) (edited : DeviceConfig) : DeviceConfig :=
  match oldDevices.find? fun old => decide (old.lastIpv4 = edited.lastIpv4) ||
      (decide (old.bonjourHost ≠ []) && decide (old.bonjourHost = edited.bonjourHost)) with
  | some old =>
    { edited with
      id := old.id
      bonjourHost := old.bonjourHost
      preferredTransport := old.preferredTransport
      lastSeen := old.lastSeen
      macHint := old.macHint }
  | none => edited

/-- The devices that a save installs. -/
def editedDevices (form : PanelForm) (oldDevices : List DeviceConfig) : List DeviceConfig :=
  form.devices.map (withKnown oldDevices)

end PanelForm

namespace TrayContext

/-- The configuration that `SavePanelSettings` tries to save. -/
def editedConfig (ctx : TrayContext) (form : PanelForm) (port fps bitrateMbps : Nat) : Config :=
  { ctx.cfg with
    devices := form.editedDevices ctx.cfg.devices
    port := UInt16.ofNat port
    fps := UInt32.ofNat fps
    bitrateMbps := UInt32.ofNat bitrateMbps
    streamProfile := inferStreamProfile fps bitrateMbps
    autoReconnect := form.autoReconnect
    requirePrivateNetwork := form.requirePrivateNetwork }

/-- A change of these settings restarts every active session. -/
def restartsActive (old new : Config) : Bool :=
  decide (new.port ≠ old.port) || decide (new.fps ≠ old.fps) ||
    decide (new.bitrateMbps ≠ old.bitrateMbps) ||
    decide (new.requirePrivateNetwork ≠ old.requirePrivateNetwork)

/-- `SavePanelSettings`, with what `Config::Save` returns and what the function returns. -/
def savePanelSettings (ctx : TrayContext) (form : PanelForm) (saved : Bool) :
    TrayContext × Bool :=
  match form.checked with
  | none => (ctx, false)
  | some (port, fps, bitrateMbps) =>
    let cfg := ctx.editedConfig form port fps bitrateMbps
    if saved = false then (ctx, false)
    else if cfg.devices ≠ ctx.cfg.devices ∨ restartsActive ctx.cfg cfg then
      ({ ctx with cfg := cfg }.applyAndRestart ctx.cfg.devices ctx.runningAddresses
        (restartsActive ctx.cfg cfg), true)
    else ({ ctx with cfg := cfg }, true)

/-! ### The panel and the menu -/

/-- `TogglePanelConnection`. -/
def togglePanelConnection (ctx : TrayContext) (outside : Outside) : TrayContext :=
  if ctx.anyRunning then ctx.queueDeviceCommand { type := .stop }
  else ctx.beginStartupAutoConnect outside

/-- `RetryOrSwitchPanelConnection` without a selection: the session moves to the other transport,
or starts again. -/
def retrySession (ctx : TrayContext) (outside : Outside) : TrayContext :=
  let usbActive := ctx.usbApp.any (·.running)
  let wifiActive := ctx.apps.any (·.running)
  let ctx := ctx.setTransport .none
  if usbActive ∧ ctx.cfg.devices ≠ [] then ctx.startWifiSession.1
  else if wifiActive then
    let ctx := ctx.refreshUsbDevices outside true
    match ctx.preferredUsbTarget with
    | some target => ctx.startUsbSession target
    | none =>
      ctx.queueDeviceCommand
        { type := .retry, index := (ctx.apps.findIdx? (·.running)).getD 0 }
  else if usbActive then ctx.stopUsbSession.startUsbSession ctx.activeUsbTarget
  else ctx.beginStartupAutoConnect outside

/-- `RetryOrSwitchPanelConnection`, with the selection of the panel's list if it has one. -/
def retryOrSwitchPanelConnection (ctx : TrayContext) (outside : Outside) (selected : Option Nat) :
    TrayContext :=
  match if 1 < ctx.cfg.devices.length then selected else none with
  | some index => ctx.queueDeviceCommand { type := .switch, index := index }
  | none => ctx.retrySession outside

/-- A cable entry of the menu (`IDM_USB_DEVICE_FIRST + index`). -/
def usbEntry (ctx : TrayContext) (index : Nat) : TrayContext :=
  match ctx.usbDevices[index]? with
  | none => ctx
  | some device =>
    let ctx := ctx.setTransport .none
    let target := makeUsbMuxTarget device.udid
    if ctx.usbApp.isSome ∧ target = ctx.activeUsbTarget then ctx.stopUsbSession
    else ctx.startUsbSession target

/-- `IDM_DISCONNECT_USB`. -/
def disconnectUsb (ctx : TrayContext) : TrayContext := (ctx.setTransport .none).stopUsbSession

/-- A device entry of the menu (`IDM_DEVICE_FIRST + index`). -/
def deviceEntry (ctx : TrayContext) (index : Nat) : TrayContext :=
  match ctx.apps[index]? with
  | none => ctx
  | some app =>
    if app.running then ctx.queueDeviceCommand { type := .stop }
    else ctx.queueDeviceCommand { type := .switch, index := index }

/-- `IDM_CONNECT`: every configured sender starts. -/
def connectAll (ctx : TrayContext) : TrayContext :=
  (ctx.setTransport .none).stopUsbSession.startEach
    ((List.range ctx.apps.length).map fun index => (index, ctx.resolveDeviceTarget index))

/-- `WM_TIMER`. -/
def onTimer (ctx : TrayContext) (outside : Outside) : TrayContext :=
  (((ctx.refreshUsbDevices outside false).processDeviceCommands).advanceStartupAutoConnect
    outside).rememberSuccessfulTransport outside

/-! ### Events -/

/-- Which sender an event of a worker is about. -/
inductive Worker where
  | wifi (index : Nat)
  | usb
  | retired (index : Nat)
  deriving DecidableEq

/-- Everything that happens to the tray, in any order. -/
inductive Event where
  /-- `WM_TIMER`. -/
  | timer (outside : Outside)
  /-- A command through `QueueDeviceCommand`. -/
  | command (command : DeviceCommand)
  /-- A device entry of the menu. -/
  | deviceEntry (index : Nat)
  /-- `IDM_CONNECT`. -/
  | connect
  /-- A cable entry of the menu. -/
  | usbEntry (index : Nat)
  /-- `IDM_DISCONNECT_USB`. -/
  | disconnectUsb
  /-- The connect button of the panel. -/
  | toggle (outside : Outside)
  /-- The retry button of the panel. -/
  | retryOrSwitch (outside : Outside) (selected : Option Nat)
  /-- The save button of the panel; `saved` is the outcome of `Config::Save`. -/
  | save (form : PanelForm) (saved : Bool)
  /-- The background browse has merged its answers into the cache. -/
  | discovered (records : List DiscoveryRecord)
  /-- A worker publishes its state. -/
  | report (worker : Worker) (report : Report)
  /-- A worker leaves `RunLoop`. -/
  | exit (worker : Worker)

/-- The sender of a worker. -/
def senderOf (ctx : TrayContext) : Worker → Option SenderApp
  | .wifi index => ctx.apps[index]?
  | .usb => ctx.usbApp
  | .retired index => ctx.retiredApps[index]?

/-- A change to the sender of a worker. -/
def updateSender (ctx : TrayContext) (f : SenderApp → SenderApp) : Worker → TrayContext
  | .wifi index => { ctx with apps := ctx.apps.modify index f }
  | .usb => { ctx with usbApp := ctx.usbApp.map f }
  | .retired index => { ctx with retiredApps := ctx.retiredApps.modify index f }

/-- A worker does something, which takes a worker that runs. -/
def workerStep (ctx : TrayContext) (worker : Worker) (f : SenderApp → SenderApp) :
    Option TrayContext :=
  if (ctx.senderOf worker).any (·.running) then some (ctx.updateSender f worker) else none

/-- One step of the tray. -/
def step (ctx : TrayContext) : Event → Option TrayContext
  | .timer outside => some (ctx.onTimer outside)
  | .command command => some (ctx.queueDeviceCommand command)
  | .deviceEntry index => some (ctx.deviceEntry index)
  | .connect => some ctx.connectAll
  | .usbEntry index => some (ctx.usbEntry index)
  | .disconnectUsb => some ctx.disconnectUsb
  | .toggle outside => some (ctx.togglePanelConnection outside)
  | .retryOrSwitch outside selected => some (ctx.retryOrSwitchPanelConnection outside selected)
  | .save form saved => some (ctx.savePanelSettings form saved).1
  | .discovered records => some { ctx with discoveryCache := records }
  | .report worker report => ctx.workerStep worker (·.publish report)
  | .exit worker => ctx.workerStep worker SenderApp.finish

/-- `RebuildSenders` at startup: one sender for each device. -/
def fresh (cfg : Config) : TrayContext where
  cfg := cfg
  apps := (List.range cfg.devices.length).map fun i => { object := i }
  nextObject := cfg.devices.length

/-- `StartAddresses`. -/
def startAddresses (ctx : TrayContext) (addresses : List Bytes) : TrayContext :=
  ctx.startEach ((ctx.cfg.devices.map splitDeviceAddress).zipIdx.filterMap fun (address, index) =>
    if address ∈ addresses then some (index, address) else none)

/-- `RunTray` up to its message loop: cable entries of old configurations are dropped, then the
sessions of an elevated relaunch resume, or startup connects if the user has opted in. -/
def runTray (cfg : Config) (resumeAddresses : Option (List Bytes)) (outside : Outside) :
    TrayContext :=
  let ctx := fresh { cfg with
    devices := cfg.devices.filter fun device => !isUsbMuxTarget (splitDeviceAddress device) }
  match resumeAddresses with
  | some addresses => ctx.startAddresses addresses
  | none => if cfg.autoReconnect then ctx.beginStartupAutoConnect outside else ctx

end TrayContext

end SecondDisplay
