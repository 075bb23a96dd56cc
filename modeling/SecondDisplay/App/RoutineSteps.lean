import SecondDisplay.App.CalmSteps

/-!
# Handlers that leave the pending switch alone

`Routine ctx ctx'` says that a handler neither takes a command from the queue nor touches the
switch in progress.  It may start and stop senders, and it may ask the coordinator for a switch
only by putting the command into the queue.  Every handler is routine except a tick of
`ProcessDeviceCommands` and a save.
-/

namespace SecondDisplay.TrayContext

/-- A command that makes a device the target of a switch. -/
def CommandFor (target : Nat) (command : DeviceCommand) : Prop :=
  command.type ≠ .stop ∧ command.index = target

instance (target : Nat) (command : DeviceCommand) : Decidable (CommandFor target command) :=
  inferInstanceAs (Decidable (_ ∧ _))

/-- The target of the coordinator while it is in `UserSwitching`. -/
def userTarget (flow : DeviceCoordinator) : Option Nat :=
  if flow.state = .userSwitching then flow.switchTarget else none

theorem userTarget_of_ne {flow : DeviceCoordinator} (h : flow.state ≠ .userSwitching) :
    userTarget flow = none :=
  if_neg h

/-- A handler that leaves the pending switch alone. -/
structure Routine (ctx ctx' : TrayContext) : Prop where
  appsLength : ctx'.apps.length = ctx.apps.length
  devicesLength : ctx'.cfg.devices.length = ctx.cfg.devices.length
  pending : ctx'.pendingSwitch = ctx.pendingSwitch
  switchingTo : ctx'.switchingTo = ctx.switchingTo
  commands : ctx.commands <+: ctx'.commands
  target : ∀ target, userTarget ctx'.deviceFlow = some target →
    userTarget ctx.deviceFlow = some target ∨ ∃ command ∈ ctx'.commands, CommandFor target command

namespace Routine

/-! ### The preorder -/

/-- Only the number of senders and devices counts, and the fields of the switch. -/
theorem of_eq {ctx ctx' : TrayContext} (happs : ctx'.apps.length = ctx.apps.length)
    (hdevices : ctx'.cfg.devices.length = ctx.cfg.devices.length)
    (hpending : ctx'.pendingSwitch = ctx.pendingSwitch)
    (hto : ctx'.switchingTo = ctx.switchingTo) (hcommands : ctx'.commands = ctx.commands)
    (hflow : ctx'.deviceFlow = ctx.deviceFlow ∨ ctx'.deviceFlow.state ≠ .userSwitching) :
    Routine ctx ctx' where
  appsLength := happs
  devicesLength := hdevices
  pending := hpending
  switchingTo := hto
  commands := hcommands ▸ List.prefix_rfl
  target target htarget := by
    rcases hflow with heq | hne
    · rw [heq] at htarget
      exact .inl htarget
    · rw [userTarget_of_ne hne] at htarget
      cases htarget

theorem refl (ctx : TrayContext) : Routine ctx ctx := of_eq rfl rfl rfl rfl rfl (.inl rfl)

theorem trans {a b c : TrayContext} (hab : Routine a b) (hbc : Routine b c) : Routine a c where
  appsLength := hbc.appsLength.trans hab.appsLength
  devicesLength := hbc.devicesLength.trans hab.devicesLength
  pending := hbc.pending.trans hab.pending
  switchingTo := hbc.switchingTo.trans hab.switchingTo
  commands := hab.commands.trans hbc.commands
  target target htarget := by
    rcases hbc.target target htarget with hb | hqueued
    · rcases hab.target target hb with ha | ⟨command, hmem, hfor⟩
      · exact .inl ha
      · exact .inr ⟨command, hbc.commands.subset hmem, hfor⟩
    · exact .inr hqueued

theorem ite {p : Prop} [Decidable p] {a b c : TrayContext} (hb : Routine a b)
    (hc : Routine a c) : Routine a (if p then b else c) := by
  split
  · exact hb
  · exact hc

/-! ### The pieces -/

theorem startApp (ctx : TrayContext) (index : Nat) (target : Bytes) :
    Routine ctx (ctx.startApp index target) :=
  of_eq (startApp_apps_length ..) rfl rfl rfl rfl (.inl rfl)

theorem startEach (ctx : TrayContext) (targets : List (Nat × Bytes)) :
    Routine ctx (ctx.startEach targets) := by
  have hlength := startEach_apps_length ctx targets
  rw [startEach_frame] at hlength ⊢
  exact of_eq hlength rfl rfl rfl rfl (.inl rfl)

theorem stopUsbSession (ctx : TrayContext) : Routine ctx ctx.stopUsbSession :=
  of_eq rfl rfl rfl rfl rfl (.inl rfl)

theorem setTransport (ctx : TrayContext) (transport : ConnectionTransport) :
    Routine ctx (ctx.setTransport transport) :=
  of_eq rfl rfl rfl rfl rfl (.inl rfl)

theorem startUsbSession (ctx : TrayContext) (target : Bytes) :
    Routine ctx (ctx.startUsbSession target) :=
  of_eq (List.length_map ..) rfl rfl rfl rfl (.inl rfl)

theorem refreshUsbDevices (ctx : TrayContext) (outside : Outside) (force : Bool) :
    Routine ctx (ctx.refreshUsbDevices outside force) := by
  rw [TrayContext.refreshUsbDevices]
  exact ite (refl ctx) (of_eq rfl rfl rfl rfl rfl (.inl rfl))

theorem requestStopApp (ctx : TrayContext) (index : Nat) :
    Routine ctx (ctx.requestStopApp index) :=
  of_eq (List.length_modify ..) rfl rfl rfl rfl (.inl rfl)

theorem setWaitingNext (ctx : TrayContext) (waiting : Bool) :
    Routine ctx (ctx.setWaitingNext waiting) :=
  of_eq rfl rfl rfl rfl rfl (.inl rfl)

theorem setWaitingTransportStop (ctx : TrayContext) (waiting : Bool) :
    Routine ctx (ctx.setWaitingTransportStop waiting) :=
  of_eq rfl rfl rfl rfl rfl (.inl rfl)

theorem reportFailure (ctx : TrayContext) (failureClass : DeviceFailureClass) :
    Routine ctx (ctx.reportFailure failureClass) := by
  refine of_eq rfl rfl rfl rfl rfl (.inr ?_)
  simp only [TrayContext.reportFailure, DeviceCoordinator.reportFailure]
  split
  · rintro ⟨⟩
  · split <;> rintro ⟨⟩

theorem stopTransportAttempt (ctx : TrayContext) (transport : ConnectionTransport) :
    Routine ctx (ctx.stopTransportAttempt transport) := by
  cases transport with
  | none => exact refl ctx
  | wifi => exact of_eq (List.length_map ..) rfl rfl rfl rfl (.inl rfl)
  | usb => exact stopUsbSession ctx

theorem requestStopTransportAttempt (ctx : TrayContext) (transport : ConnectionTransport) :
    Routine ctx (ctx.requestStopTransportAttempt transport) := by
  cases transport with
  | none => exact refl ctx
  | wifi => exact of_eq (List.length_map ..) rfl rfl rfl rfl (.inl rfl)
  | usb => exact of_eq rfl rfl rfl rfl rfl (.inl rfl)

theorem attemptStarted (ctx : TrayContext) (outside : Outside) (transport : ConnectionTransport)
    (fallback : Bool) : Routine ctx (ctx.attemptStarted outside transport fallback) :=
  of_eq rfl rfl rfl rfl rfl (.inl rfl)

/-- A click puts the switch it asks the coordinator for into the queue. -/
theorem queueDeviceCommand (ctx : TrayContext) (command : DeviceCommand) :
    Routine ctx (ctx.queueDeviceCommand command) := by
  rw [TrayContext.queueDeviceCommand]
  refine ite (refl ctx) (ite (refl ctx) (ite (refl ctx) ?_))
  refine ⟨rfl, rfl, rfl, rfl, ?_, fun target htarget => ?_⟩
  · dsimp only
    split
    · exact List.prefix_rfl
    · exact List.prefix_append ..
  · dsimp only at htarget ⊢
    split at htarget
    · rename_i hswitch
      rw [DeviceCoordinator.requestSwitch] at htarget
      split at htarget
      · exact .inl htarget
      · -- The coordinator takes the target of the click, which is in the queue now.
        cases htarget
        refine .inr ⟨command, ?_, by rw [hswitch]; decide, rfl⟩
        split
        · assumption
        · exact List.mem_append_right _ List.mem_cons_self
    · exact .inl htarget

/-! ### Connecting at startup -/

theorem startWifiSession (ctx : TrayContext) : Routine ctx ctx.startWifiSession.1 := by
  have hbegin : (DeviceCoordinator.begin ctx.cfg.devices ctx.cfg.preferredDeviceId).1.state ≠
      .userSwitching := by
    rw [DeviceCoordinator.begin]
    split <;> rintro ⟨⟩
  rw [TrayContext.startWifiSession]
  split
  · exact refl ctx
  · dsimp only
    split
    · exact of_eq rfl rfl rfl rfl rfl (.inr hbegin)
    · split
      · exact of_eq rfl rfl rfl rfl rfl (.inr hbegin)
      · refine trans ?_ (startApp _ _ _)
        exact of_eq rfl rfl rfl rfl rfl (.inr hbegin)

theorem startWifiCandidate (ctx : TrayContext) (outside : Outside) (position : Nat) :
    Routine ctx (ctx.startWifiCandidate outside position).1 := by
  rw [TrayContext.startWifiCandidate]
  split
  · exact refl ctx
  · dsimp only
    split
    · exact refl ctx
    · split
      · exact refl ctx
      · refine trans ?_ (startApp _ _ _)
        exact of_eq rfl rfl rfl rfl rfl (.inl rfl)

theorem startTransportAttempt (ctx : TrayContext) (transport : ConnectionTransport) :
    Routine ctx (ctx.startTransportAttempt transport).1 := by
  cases transport with
  | none => exact refl ctx
  | wifi => exact startWifiSession ctx
  | usb =>
    rw [TrayContext.startTransportAttempt]
    split
    · exact refl ctx
    · exact startUsbSession ctx _

theorem startTransportAttempt_eq {ctx ctx' : TrayContext} {transport : ConnectionTransport}
    {started : Bool} (h : ctx.startTransportAttempt transport = (ctx', started)) :
    Routine ctx ctx' := by
  have hroutine := startTransportAttempt ctx transport
  rwa [h] at hroutine

theorem beginStartupAutoConnect (ctx : TrayContext) (outside : Outside) :
    Routine ctx (ctx.beginStartupAutoConnect outside) := by
  have hcleared : Routine ctx { ctx.refreshUsbDevices outside true with startupConnection := {} } :=
    (refreshUsbDevices ctx outside true).trans (of_eq rfl rfl rfl rfl rfl (.inl rfl))
  simp only [TrayContext.beginStartupAutoConnect]
  generalize { ctx.refreshUsbDevices outside true with startupConnection := {} } = cleared
    at hcleared ⊢
  split
  · rename_i ready hfirst
    exact (hcleared.trans (startTransportAttempt_eq hfirst)).trans (attemptStarted _ _ _ _)
  · rename_i ready hfirst
    have hready := hcleared.trans (startTransportAttempt_eq hfirst)
    split
    · rename_i last hsecond
      exact (hready.trans (startTransportAttempt_eq hsecond)).trans (attemptStarted _ _ _ _)
    · rename_i last hsecond
      exact hready.trans (startTransportAttempt_eq hsecond)

theorem rememberSuccessfulTransport (ctx : TrayContext) (outside : Outside) :
    Routine ctx (ctx.rememberSuccessfulTransport outside) := by
  rw [TrayContext.rememberSuccessfulTransport]
  split
  · exact of_eq rfl rfl rfl rfl rfl (.inl rfl)
  · split
    · exact ite (of_eq rfl (List.length_set ..) rfl rfl rfl (.inl rfl)) (refl ctx)
    · exact refl ctx

theorem startupStreaming (ctx : TrayContext) (outside : Outside) :
    Routine ctx (ctx.startupStreaming outside) := by
  rw [TrayContext.startupStreaming]
  refine trans ?_ (setTransport _ _)
  refine trans ?_ (rememberSuccessfulTransport _ outside)
  split
  · exact of_eq rfl rfl rfl rfl rfl (.inr (by rintro ⟨⟩))
  · exact refl ctx

theorem startupTeardown (ctx : TrayContext) (outside : Outside) :
    Routine ctx (ctx.startupTeardown outside) := by
  have hstopped := (stopTransportAttempt ctx ctx.startupConnection.transport).trans
    (setWaitingTransportStop _ false)
  rw [TrayContext.startupTeardown]
  refine ite (refl ctx) (ite (hstopped.trans (setTransport _ _)) ?_)
  dsimp only
  split
  · rename_i ready hstart
    exact (hstopped.trans (startTransportAttempt_eq hstart)).trans (attemptStarted _ _ _ _)
  · rename_i ready hstart
    exact (hstopped.trans (startTransportAttempt_eq hstart)).trans (setTransport _ _)

theorem advanceWifiAttempt (ctx : TrayContext) (outside : Outside) (active : SenderApp) :
    Routine ctx (ctx.advanceWifiAttempt outside active).1 := by
  have hgiven : ∀ failureClass index,
      Routine ctx ((ctx.reportFailure failureClass).requestStopApp index) :=
    fun failureClass index => (reportFailure ctx failureClass).trans (requestStopApp _ index)
  rw [TrayContext.advanceWifiAttempt]
  dsimp only
  split
  · exact (hgiven _ _).trans (setTransport _ _)
  · split
    · split
      · exact refl ctx
      · have hnext := startWifiCandidate ctx outside (ctx.startupConnection.wifiPosition + 1)
        split
        · rename_i heq
          rwa [heq] at hnext
        · rename_i heq
          rw [heq] at hnext
          exact hnext.trans (setWaitingNext _ _)
    · split
      · split
        · exact (hgiven _ _).trans (setWaitingNext _ _)
        · exact hgiven _ _
      · exact refl ctx

theorem startupTrying (ctx : TrayContext) (outside : Outside) :
    Routine ctx (ctx.startupTrying outside) := by
  rw [TrayContext.startupTrying]
  split
  rename_i ready returned hattempt
  have hready : Routine ctx ready := by
    split at hattempt
    · have hadvance := advanceWifiAttempt ctx outside
      rename_i active _ _
      rw [← show (ctx.advanceWifiAttempt outside active).1 = ready from congrArg Prod.fst hattempt]
      exact hadvance active
    · cases hattempt
      exact refl ctx
  exact ite hready (ite hready
    ((hready.trans (requestStopTransportAttempt _ _)).trans (setWaitingTransportStop _ _)))

theorem advanceStartupAutoConnect (ctx : TrayContext) (outside : Outside) :
    Routine ctx (ctx.advanceStartupAutoConnect outside) := by
  rw [TrayContext.advanceStartupAutoConnect]
  exact ite (refl ctx) (ite (startupStreaming ctx outside)
    (ite (startupTeardown ctx outside) (startupTrying ctx outside)))

/-! ### The panel and the menu -/

theorem connectAll (ctx : TrayContext) : Routine ctx ctx.connectAll :=
  ((setTransport ctx .none).trans (stopUsbSession _)).trans (startEach _ _)

theorem usbEntry (ctx : TrayContext) (index : Nat) : Routine ctx (ctx.usbEntry index) := by
  rw [TrayContext.usbEntry]
  split
  · exact refl ctx
  · exact ite ((setTransport ctx .none).trans (stopUsbSession _))
      ((setTransport ctx .none).trans (startUsbSession _ _))

theorem disconnectUsb (ctx : TrayContext) : Routine ctx ctx.disconnectUsb :=
  (setTransport ctx .none).trans (stopUsbSession _)

theorem deviceEntry (ctx : TrayContext) (index : Nat) : Routine ctx (ctx.deviceEntry index) := by
  rw [TrayContext.deviceEntry]
  split
  · exact refl ctx
  · exact ite (queueDeviceCommand ctx _) (queueDeviceCommand ctx _)

theorem togglePanelConnection (ctx : TrayContext) (outside : Outside) :
    Routine ctx (ctx.togglePanelConnection outside) :=
  ite (queueDeviceCommand ctx _) (beginStartupAutoConnect ctx outside)

theorem retrySession (ctx : TrayContext) (outside : Outside) :
    Routine ctx (ctx.retrySession outside) := by
  have hidle := setTransport ctx .none
  rw [TrayContext.retrySession]
  refine ite (hidle.trans (startWifiSession _)) (ite ?_ (ite ?_ ?_))
  · dsimp only
    have hrefreshed := hidle.trans (refreshUsbDevices _ outside true)
    split
    · exact hrefreshed.trans (startUsbSession _ _)
    · exact hrefreshed.trans (queueDeviceCommand _ _)
  · exact (hidle.trans (stopUsbSession _)).trans (startUsbSession _ _)
  · exact hidle.trans (beginStartupAutoConnect _ outside)

theorem retryOrSwitchPanelConnection (ctx : TrayContext) (outside : Outside)
    (selected : Option Nat) : Routine ctx (ctx.retryOrSwitchPanelConnection outside selected) := by
  rw [TrayContext.retryOrSwitchPanelConnection]
  split
  · exact queueDeviceCommand ctx _
  · exact retrySession ctx outside

theorem workerStep {ctx ctx' : TrayContext} {worker : Worker} {f : SenderApp → SenderApp}
    (h : ctx.workerStep worker f = some ctx') : Routine ctx ctx' := by
  rw [TrayContext.workerStep, Option.ite_none_right_eq_some, Option.some.injEq] at h
  obtain ⟨-, rfl⟩ := h
  have hlength := updateSender_apps_length ctx f worker
  cases worker with
  | wifi index => exact of_eq hlength rfl rfl rfl rfl (.inl rfl)
  | usb => exact of_eq hlength rfl rfl rfl rfl (.inl rfl)
  | retired index => exact of_eq hlength rfl rfl rfl rfl (.inl rfl)

/-- **Routine events.**  Every event is routine except a timer event and a save. -/
theorem step {ctx ctx' : TrayContext} {event : Event} (h : ctx.step event = some ctx')
    (htimer : ∀ outside, event ≠ .timer outside)
    (hsave : ∀ form saved, event ≠ .save form saved) : Routine ctx ctx' := by
  cases event with
  | timer outside => exact absurd rfl (htimer outside)
  | save form saved => exact absurd rfl (hsave form saved)
  | command command =>
    cases h
    exact queueDeviceCommand ctx command
  | deviceEntry index =>
    cases h
    exact deviceEntry ctx index
  | connect =>
    cases h
    exact connectAll ctx
  | usbEntry index =>
    cases h
    exact usbEntry ctx index
  | disconnectUsb =>
    cases h
    exact disconnectUsb ctx
  | toggle outside =>
    cases h
    exact togglePanelConnection ctx outside
  | retryOrSwitch outside selected =>
    cases h
    exact retryOrSwitchPanelConnection ctx outside selected
  | discovered records =>
    cases h
    exact of_eq rfl rfl rfl rfl rfl (.inl rfl)
  | report worker report => exact workerStep h
  | exit worker => exact workerStep h

end Routine

end SecondDisplay.TrayContext
