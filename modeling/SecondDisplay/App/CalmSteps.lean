import SecondDisplay.App.TraySteps

/-!
# Handlers that start nothing

`Calmer ctx ctx'` says that nothing was started on the way from `ctx` to `ctx'`: a sender that
runs afterwards ran before and has kept its stop request, the pending switch is the same, and
no command was taken from the queue.  It is a preorder, so what holds of the small pieces holds of
every handler made of them.
-/

namespace SecondDisplay

/-! ### Senders -/

/-- The same worker, a moment later: it still runs, and a stop request is not taken back. -/
structure SenderApp.Continues (app app' : SenderApp) : Prop where
  running : app.running = true
  object : app'.object = app.object
  stopRequested : app.stopRequested = true → app'.stopRequested = true

theorem SenderApp.Continues.refl {app : SenderApp} (h : app.running = true) :
    app.Continues app :=
  ⟨h, rfl, id⟩

theorem SenderApp.Continues.trans {a b c : SenderApp} (hab : a.Continues b)
    (hbc : b.Continues c) : a.Continues c :=
  ⟨hab.running, hbc.object.trans hab.object, hbc.stopRequested ∘ hab.stopRequested⟩

/-- A change to a sender that starts nothing. -/
def SenderApp.Tame (f : SenderApp → SenderApp) : Prop :=
  ∀ app, (f app).running = true → app.Continues (f app)

namespace SenderApp

theorem tame_requestStop : Tame requestStop := fun _ h => ⟨h, rfl, fun _ => rfl⟩

theorem tame_stop : Tame stop := fun _ h => by cases h

theorem tame_finish : Tame finish := fun _ h => by cases h

theorem tame_publish (report : Report) : Tame (publish · report) := fun _ h => ⟨h, rfl, id⟩

end SenderApp

namespace TrayContext

/-! ### The preorder -/

/-- The pending switch: the flag and the two lists of a settings restart. -/
def pendingSwitch (ctx : TrayContext) : Bool × List Nat × Bytes :=
  (ctx.switching, ctx.restartAfterStop, ctx.restartUsbTarget)

/-- Nothing was started on the way from `ctx` to `ctx'`. -/
structure Calmer (ctx ctx' : TrayContext) : Prop where
  appsLength : ctx'.apps.length = ctx.apps.length
  devicesLength : ctx'.cfg.devices.length = ctx.cfg.devices.length
  apps : ∀ (i : Nat) (app' : SenderApp), ctx'.apps[i]? = some app' → app'.running = true →
    ∃ app : SenderApp, ctx.apps[i]? = some app ∧ app.Continues app'
  usb : ∀ app' : SenderApp, ctx'.usbApp = some app' → app'.running = true →
    ∃ app : SenderApp, ctx.usbApp = some app ∧ app.Continues app'
  usbTarget : ctx'.usbApp.isSome = true →
    ctx.usbApp.isSome = true ∧ ctx'.activeUsbTarget = ctx.activeUsbTarget
  transport : ctx'.startupConnection.transport = ctx.startupConnection.transport ∨
    ctx'.startupConnection.transport = .none
  pending : ctx'.pendingSwitch = ctx.pendingSwitch
  commands : ctx.commands <+: ctx'.commands

namespace Calmer

/-- Only fields that the preorder does not look at have changed. -/
theorem of_eq {ctx ctx' : TrayContext} (happs : ctx'.apps = ctx.apps)
    (hdevices : ctx'.cfg.devices.length = ctx.cfg.devices.length)
    (husb : ctx'.usbApp = ctx.usbApp) (htarget : ctx'.activeUsbTarget = ctx.activeUsbTarget)
    (htransport : ctx'.startupConnection.transport = ctx.startupConnection.transport)
    (hpending : ctx'.pendingSwitch = ctx.pendingSwitch)
    (hcommands : ctx'.commands = ctx.commands) : Calmer ctx ctx' where
  appsLength := by rw [happs]
  devicesLength := hdevices
  apps _ app happ hrunning := ⟨app, happs ▸ happ, .refl hrunning⟩
  usb app happ hrunning := ⟨app, husb ▸ happ, .refl hrunning⟩
  usbTarget h := ⟨husb ▸ h, htarget⟩
  transport := .inl htransport
  pending := hpending
  commands := hcommands ▸ List.prefix_rfl

theorem refl (ctx : TrayContext) : Calmer ctx ctx := of_eq rfl rfl rfl rfl rfl rfl rfl

theorem trans {a b c : TrayContext} (hab : Calmer a b) (hbc : Calmer b c) : Calmer a c where
  appsLength := hbc.appsLength.trans hab.appsLength
  devicesLength := hbc.devicesLength.trans hab.devicesLength
  apps i app'' happ hrunning := by
    obtain ⟨app', happ', hcont'⟩ := hbc.apps i app'' happ hrunning
    obtain ⟨app, happ, hcont⟩ := hab.apps i app' happ' hcont'.running
    exact ⟨app, happ, hcont.trans hcont'⟩
  usb app'' happ hrunning := by
    obtain ⟨app', happ', hcont'⟩ := hbc.usb app'' happ hrunning
    obtain ⟨app, happ, hcont⟩ := hab.usb app' happ' hcont'.running
    exact ⟨app, happ, hcont.trans hcont'⟩
  usbTarget h := by
    obtain ⟨hsome, htarget⟩ := hbc.usbTarget h
    exact ⟨(hab.usbTarget hsome).1, htarget.trans (hab.usbTarget hsome).2⟩
  transport := by
    rcases hbc.transport with h | h
    · exact hab.transport.imp h.trans h.trans
    · exact .inr h
  pending := hbc.pending.trans hab.pending
  commands := hab.commands.trans hbc.commands

theorem ite {p : Prop} [Decidable p] {a b c : TrayContext} (hb : Calmer a b)
    (hc : Calmer a c) : Calmer a (if p then b else c) := by
  split
  · exact hb
  · exact hc

theorem switching {ctx ctx' : TrayContext} (h : Calmer ctx ctx') :
    ctx'.switching = ctx.switching :=
  congrArg Prod.fst h.pending

theorem restartAfterStop {ctx ctx' : TrayContext} (h : Calmer ctx ctx') :
    ctx'.restartAfterStop = ctx.restartAfterStop :=
  congrArg (·.2.1) h.pending

theorem restartUsbTarget {ctx ctx' : TrayContext} (h : Calmer ctx ctx') :
    ctx'.restartUsbTarget = ctx.restartUsbTarget :=
  congrArg (·.2.2) h.pending

theorem restartPending {ctx ctx' : TrayContext} (h : Calmer ctx ctx') :
    ctx'.restartPending = ctx.restartPending := by
  rw [TrayContext.restartPending, h.restartAfterStop, h.restartUsbTarget]
  rfl

/-- The cable sender does not run if it did not before. -/
theorem usbRunning {ctx ctx' : TrayContext} (h : Calmer ctx ctx')
    (hdown : ctx.usbRunning = false) : ctx'.usbRunning = false := by
  rw [← Bool.not_eq_true] at hdown ⊢
  intro hup
  obtain ⟨app', happ', hrunning⟩ := (Option.any_eq_true _ _).1 hup
  obtain ⟨app, happ, hcont⟩ := h.usb app' happ' hrunning
  exact hdown ((Option.any_eq_true _ _).2 ⟨app, happ, hcont.running⟩)

/-- No configured sender runs if none did before. -/
theorem wifiRunning {ctx ctx' : TrayContext} (h : Calmer ctx ctx')
    (hdown : ctx.wifiRunning = false) : ctx'.wifiRunning = false := by
  rw [← Bool.not_eq_true] at hdown ⊢
  intro hup
  obtain ⟨app', hmem, hrunning⟩ := List.any_eq_true.1 hup
  obtain ⟨i, happ'⟩ := List.mem_iff_getElem?.1 hmem
  obtain ⟨app, happ, hcont⟩ := h.apps i app' happ' hrunning
  exact hdown (List.any_eq_true.2 ⟨app, List.mem_of_getElem? happ, hcont.running⟩)

/-! ### The pieces -/

/-- A tame change to all configured senders. -/
theorem map_apps (ctx : TrayContext) {f : SenderApp → SenderApp} (hf : SenderApp.Tame f) :
    Calmer ctx { ctx with apps := ctx.apps.map f } where
  appsLength := List.length_map ..
  devicesLength := rfl
  apps i app' happ hrunning := by
    rw [List.getElem?_map] at happ
    obtain ⟨app, hold, rfl⟩ := Option.map_eq_some_iff.1 happ
    exact ⟨app, hold, hf app hrunning⟩
  usb app happ hrunning := ⟨app, happ, .refl hrunning⟩
  usbTarget h := ⟨h, rfl⟩
  transport := .inl rfl
  pending := rfl
  commands := List.prefix_rfl

/-- A tame change to one configured sender. -/
theorem modify_app (ctx : TrayContext) (index : Nat) {f : SenderApp → SenderApp}
    (hf : SenderApp.Tame f) : Calmer ctx { ctx with apps := ctx.apps.modify index f } where
  appsLength := List.length_modify ..
  devicesLength := rfl
  apps i app' happ hrunning := by
    rw [List.getElem?_modify] at happ
    obtain ⟨app, hold, rfl⟩ := Option.map_eq_some_iff.1 happ
    refine ⟨app, hold, ?_⟩
    by_cases hindex : index = i
    · rw [if_pos hindex] at hrunning ⊢
      exact hf app hrunning
    · rw [if_neg hindex] at hrunning ⊢
      exact .refl hrunning
  usb app happ hrunning := ⟨app, happ, .refl hrunning⟩
  usbTarget h := ⟨h, rfl⟩
  transport := .inl rfl
  pending := rfl
  commands := List.prefix_rfl

/-- A tame change to the cable sender. -/
theorem map_usb (ctx : TrayContext) {f : SenderApp → SenderApp} (hf : SenderApp.Tame f) :
    Calmer ctx { ctx with usbApp := ctx.usbApp.map f } where
  appsLength := rfl
  devicesLength := rfl
  apps _ app happ hrunning := ⟨app, happ, .refl hrunning⟩
  usb app' happ hrunning := by
    obtain ⟨app, hold, rfl⟩ := Option.map_eq_some_iff.1 happ
    exact ⟨app, hold, hf app hrunning⟩
  usbTarget h := ⟨Option.isSome_map .. ▸ h, rfl⟩
  transport := .inl rfl
  pending := rfl
  commands := List.prefix_rfl

theorem stopUsbSession (ctx : TrayContext) : Calmer ctx ctx.stopUsbSession where
  appsLength := rfl
  devicesLength := rfl
  apps _ app happ hrunning := ⟨app, happ, .refl hrunning⟩
  usb _ happ := by cases happ
  usbTarget h := by cases h
  transport := .inl rfl
  pending := rfl
  commands := List.prefix_rfl

theorem setTransport_none (ctx : TrayContext) : Calmer ctx (ctx.setTransport .none) where
  appsLength := rfl
  devicesLength := rfl
  apps _ app happ hrunning := ⟨app, happ, .refl hrunning⟩
  usb app happ hrunning := ⟨app, happ, .refl hrunning⟩
  usbTarget h := ⟨h, rfl⟩
  transport := .inr rfl
  pending := rfl
  commands := List.prefix_rfl

theorem stopConfiguredSenders (ctx : TrayContext) : Calmer ctx ctx.stopConfiguredSenders :=
  map_apps ctx SenderApp.tame_stop

theorem requestStopApp (ctx : TrayContext) (index : Nat) :
    Calmer ctx (ctx.requestStopApp index) :=
  modify_app ctx index SenderApp.tame_requestStop

theorem requestStopUsb (ctx : TrayContext) : Calmer ctx ctx.requestStopUsb :=
  map_usb ctx SenderApp.tame_requestStop

theorem stopTransportAttempt (ctx : TrayContext) (transport : ConnectionTransport) :
    Calmer ctx (ctx.stopTransportAttempt transport) := by
  cases transport with
  | none => exact refl ctx
  | wifi => exact stopConfiguredSenders ctx
  | usb => exact stopUsbSession ctx

theorem requestStopTransportAttempt (ctx : TrayContext) (transport : ConnectionTransport) :
    Calmer ctx (ctx.requestStopTransportAttempt transport) := by
  cases transport with
  | none => exact refl ctx
  | wifi => exact map_apps ctx SenderApp.tame_requestStop
  | usb => exact requestStopUsb ctx

theorem reapRetired (ctx : TrayContext) : Calmer ctx ctx.reapRetired :=
  of_eq rfl rfl rfl rfl rfl rfl rfl

theorem reportFailure (ctx : TrayContext) (failureClass : DeviceFailureClass) :
    Calmer ctx (ctx.reportFailure failureClass) :=
  of_eq rfl rfl rfl rfl rfl rfl rfl

theorem setWaitingNext (ctx : TrayContext) (waiting : Bool) :
    Calmer ctx (ctx.setWaitingNext waiting) :=
  of_eq rfl rfl rfl rfl rfl rfl rfl

theorem setWaitingTransportStop (ctx : TrayContext) (waiting : Bool) :
    Calmer ctx (ctx.setWaitingTransportStop waiting) :=
  of_eq rfl rfl rfl rfl rfl rfl rfl

theorem refreshUsbDevices (ctx : TrayContext) (outside : Outside) (force : Bool) :
    Calmer ctx (ctx.refreshUsbDevices outside force) := by
  rw [TrayContext.refreshUsbDevices]
  split
  · exact refl ctx
  · exact of_eq rfl rfl rfl rfl rfl rfl rfl

theorem queueDeviceCommand (ctx : TrayContext) (command : DeviceCommand) :
    Calmer ctx (ctx.queueDeviceCommand command) := by
  obtain ⟨commands, flow, h, hstarts⟩ := queueDeviceCommand_frame ctx command
  rw [h]
  exact { refl ctx with commands := hstarts }

/-! ### The handlers -/

theorem rememberSuccessfulTransport (ctx : TrayContext) (outside : Outside) :
    Calmer ctx (ctx.rememberSuccessfulTransport outside) := by
  rw [TrayContext.rememberSuccessfulTransport]
  split
  · exact of_eq rfl rfl rfl rfl rfl rfl rfl
  · split
    · exact ite (of_eq rfl (List.length_set ..) rfl rfl rfl rfl rfl) (refl ctx)
    · exact refl ctx

theorem startupStreaming (ctx : TrayContext) (outside : Outside) :
    Calmer ctx (ctx.startupStreaming outside) := by
  rw [TrayContext.startupStreaming]
  refine Calmer.trans ?_ (setTransport_none _)
  refine Calmer.trans ?_ (rememberSuccessfulTransport _ outside)
  split
  · exact of_eq rfl rfl rfl rfl rfl rfl rfl
  · exact refl ctx

theorem workerStep {ctx ctx' : TrayContext} {worker : Worker} {f : SenderApp → SenderApp}
    (hf : SenderApp.Tame f) (h : ctx.workerStep worker f = some ctx') : Calmer ctx ctx' := by
  rw [TrayContext.workerStep, Option.ite_none_right_eq_some, Option.some.injEq] at h
  obtain ⟨-, rfl⟩ := h
  cases worker with
  | wifi index => exact modify_app ctx index hf
  | usb => exact map_usb ctx hf
  | retired index => exact of_eq rfl rfl rfl rfl rfl rfl rfl

end Calmer

/-! ### The handlers that may start a sender -/

/-- `StartWifiSession` stops the cable session and then starts one device at most. -/
theorem startWifiSession_cases (ctx : TrayContext) :
    (∃ ready, ctx.startWifiSession = (ready, false) ∧ Calmer ctx ready) ∨
      ∃ ready index target, ctx.startWifiSession = (ready.startApp index target, true) ∧
        Calmer ctx ready ∧ ready.usbApp = none := by
  rw [startWifiSession]
  split
  · exact .inl ⟨_, rfl, .refl ctx⟩
  · dsimp only
    split
    · exact .inl ⟨_, rfl, (Calmer.stopUsbSession ctx).trans (.of_eq rfl rfl rfl rfl rfl rfl rfl)⟩
    · split
      · exact .inl ⟨_, rfl, (Calmer.stopUsbSession ctx).trans (.of_eq rfl rfl rfl rfl rfl rfl rfl)⟩
      · exact .inr ⟨_, _, _, rfl,
          (Calmer.stopUsbSession ctx).trans (.of_eq rfl rfl rfl rfl rfl rfl rfl), rfl⟩

/-- `StartWifiCandidate` does nothing or starts one device. -/
theorem startWifiCandidate_cases (ctx : TrayContext) (outside : Outside) (position : Nat) :
    ctx.startWifiCandidate outside position = (ctx, false) ∨
      ∃ ready index target,
        ctx.startWifiCandidate outside position = (ready.startApp index target, true) ∧
          Calmer ctx ready := by
  rw [startWifiCandidate]
  split
  · exact .inl rfl
  · dsimp only
    split
    · exact .inl rfl
    · split
      · exact .inl rfl
      · exact .inr ⟨_, _, _, rfl, .of_eq rfl rfl rfl rfl rfl rfl rfl⟩

/-- The target of `PreferredUsbTarget` is one that `MakeUsbMuxTarget` has made. -/
theorem preferredUsbTarget_ne_nil {ctx : TrayContext} {target : Bytes}
    (h : ctx.preferredUsbTarget = some target) : target ≠ [] := by
  rw [preferredUsbTarget] at h
  split at h
  · cases h
    exact makeUsbMuxTarget_ne_nil _
  · split at h
    · cases h
      exact makeUsbMuxTarget_ne_nil _
    · cases h

/-- `StartTransportAttempt` starts nothing, one device or the cable session. -/
theorem startTransportAttempt_cases (ctx : TrayContext) (transport : ConnectionTransport) :
    (∃ ready, ctx.startTransportAttempt transport = (ready, false) ∧ Calmer ctx ready) ∨
      (transport = .wifi ∧ ∃ ready index target,
        ctx.startTransportAttempt transport = (ready.startApp index target, true) ∧
          Calmer ctx ready ∧ ready.usbApp = none) ∨
      (transport = .usb ∧ ∃ target, target ≠ [] ∧
        ctx.startTransportAttempt transport = (ctx.startUsbSession target, true)) := by
  cases transport with
  | none => exact .inl ⟨_, rfl, .refl ctx⟩
  | wifi => exact (startWifiSession_cases ctx).imp id fun h => .inl ⟨rfl, h⟩
  | usb =>
    rw [startTransportAttempt]
    split
    · exact .inl ⟨_, rfl, .refl ctx⟩
    · rename_i target htarget
      exact .inr (.inr ⟨rfl, target, preferredUsbTarget_ne_nil htarget, rfl⟩)

end TrayContext

end SecondDisplay
