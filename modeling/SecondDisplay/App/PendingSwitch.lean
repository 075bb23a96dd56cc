import SecondDisplay.App.ApplyAndRestart

/-!
# The invariant of a pending switch

While `switching` is set, `ProcessDeviceCommands` waits for old senders to leave.  The invariant
says that every sender it waits for has been asked to stop, and with it that a cable session and
Wi-Fi sessions never run at the same time.  Handlers that start nothing keep it, handlers that
start a sender keep it while no switch is pending, and so do a tick and a save.
-/

namespace SecondDisplay.Switching

open TrayContext

/-! ### The senders a switch waits for -/

/-- The senders that the next `ProcessDeviceCommands` waits for: the cable sender, and the
configured senders on the restart list, or all of them if no settings restart is pending. -/
def WaitedFor (ctx : TrayContext) (app : SenderApp) : Prop :=
  ctx.usbApp = some app ∨
    if ctx.restartPending then ∃ i ∈ ctx.restartAfterStop, ctx.apps[i]? = some app
    else app ∈ ctx.apps

theorem WaitedFor.mem {ctx : TrayContext} {app : SenderApp} (h : WaitedFor ctx app) :
    ctx.usbApp = some app ∨ app ∈ ctx.apps := by
  refine h.imp id fun happs => ?_
  split at happs
  · obtain ⟨i, -, happ⟩ := happs
    exact List.mem_of_getElem? happ
  · exact happs

/-- A tick waits exactly when one of these senders runs. -/
theorem waits_iff (ctx : TrayContext) :
    ctx.waits = true ↔ ∃ app, WaitedFor ctx app ∧ app.running = true := by
  have husb : ctx.usbRunning = true ↔ ∃ app, ctx.usbApp = some app ∧ app.running = true :=
    Option.any_eq_true _ _
  rw [waits]
  cases hpending : ctx.restartPending with
  | true =>
    simp only [WaitedFor, hpending, if_true, Bool.or_eq_true, husb, List.any_eq_true, appRunning,
      Option.any_eq_true]
    constructor
    · rintro (⟨i, hi, app, happ, hup⟩ | ⟨app, happ, hup⟩)
      · exact ⟨app, .inr ⟨i, hi, happ⟩, hup⟩
      · exact ⟨app, .inl happ, hup⟩
    · rintro ⟨app, happ | ⟨i, hi, happ⟩, hup⟩
      · exact .inr ⟨app, happ, hup⟩
      · exact .inl ⟨i, hi, app, happ, hup⟩
  | false =>
    simp only [WaitedFor, hpending, Bool.false_eq_true, if_false, anyRunning_eq, Bool.or_eq_true,
      husb, wifiRunning, List.any_eq_true]
    constructor
    · rintro (⟨app, happ, hup⟩ | ⟨app, happ, hup⟩)
      · exact ⟨app, .inl happ, hup⟩
      · exact ⟨app, .inr happ, hup⟩
    · rintro ⟨app, happ | happ, hup⟩
      · exact .inl ⟨app, happ, hup⟩
      · exact .inr ⟨app, happ, hup⟩

/-! ### The invariant -/

/-- No switch is pending, and the two kinds of session exclude each other. -/
structure Rest (ctx : TrayContext) : Prop where
  aligned : ctx.apps.length = ctx.cfg.devices.length
  pending : ctx.pendingSwitch = (false, [], [])
  exclusive : ctx.usbRunning = true → ctx.wifiRunning = false
  usbTarget : ctx.usbApp.isSome = true → ctx.activeUsbTarget ≠ []

/-- A startup attempt over a transport finds the other kind of session down. -/
def Free (ctx : TrayContext) (transport : ConnectionTransport) : Prop :=
  (transport = .wifi → ctx.usbRunning = false) ∧ (transport = .usb → ctx.wifiRunning = false)

/-- The invariant of the tray. -/
structure Inv (ctx : TrayContext) : Prop where
  aligned : ctx.apps.length = ctx.cfg.devices.length
  exclusive : ctx.usbRunning = true → ctx.wifiRunning = false
  usbTarget : ctx.usbApp.isSome = true → ctx.activeUsbTarget ≠ []
  /-- A settings restart keeps the flag set. -/
  restart : ctx.restartPending = true → ctx.switching = true
  /-- A restart list means Wi-Fi sessions, a restart target a cable session. -/
  restartApps : ctx.restartAfterStop ≠ [] → ctx.usbRunning = false ∧ ctx.restartUsbTarget = []
  restartUsb : ctx.restartUsbTarget ≠ [] → ctx.wifiRunning = false
  free : Free ctx ctx.startupConnection.transport
  wifiAttempt : ctx.startupConnection.transport = .wifi → ctx.restartUsbTarget = []
  usbAttempt : ctx.startupConnection.transport = .usb → ctx.restartAfterStop = []
  switchAttempt : ctx.switching = true → ctx.restartPending = false →
    ctx.startupConnection.transport = .none
  asked : ctx.switching = true → ∀ app, WaitedFor ctx app → app.running = true →
    app.stopRequested = true

theorem Rest.switching {ctx : TrayContext} (h : Rest ctx) : ctx.switching = false :=
  congrArg Prod.fst h.pending

theorem Rest.restartAfterStop {ctx : TrayContext} (h : Rest ctx) : ctx.restartAfterStop = [] :=
  congrArg (·.2.1) h.pending

theorem Rest.restartUsbTarget {ctx : TrayContext} (h : Rest ctx) : ctx.restartUsbTarget = [] :=
  congrArg (·.2.2) h.pending

theorem Rest.inv {ctx : TrayContext} (h : Rest ctx)
    (free : Free ctx ctx.startupConnection.transport) : Inv ctx where
  aligned := h.aligned
  exclusive := h.exclusive
  usbTarget := h.usbTarget
  restart hpending := by
    rw [restartPending_eq_false.2 ⟨h.restartAfterStop, h.restartUsbTarget⟩] at hpending
    cases hpending
  restartApps hne := absurd h.restartAfterStop hne
  restartUsb hne := absurd h.restartUsbTarget hne
  free := free
  wifiAttempt _ := h.restartUsbTarget
  usbAttempt _ := h.restartAfterStop
  switchAttempt hs := by rw [h.switching] at hs; cases hs
  asked hs := by rw [h.switching] at hs; cases hs

/-- Nothing is pending while the flag is clear. -/
theorem Inv.rest {ctx : TrayContext} (h : Inv ctx) (hs : ctx.switching = false) : Rest ctx where
  aligned := h.aligned
  pending := by
    have hpending : ctx.restartPending = false := by
      rw [← Bool.not_eq_true]
      intro hp
      rw [h.restart hp] at hs
      cases hs
    rw [restartPending_eq_false] at hpending
    rw [pendingSwitch, hs, hpending.1, hpending.2]
  exclusive := h.exclusive
  usbTarget := h.usbTarget

/-! ### Handlers that start nothing -/

theorem waitedFor_calmer {ctx ctx' : TrayContext} (h : Calmer ctx ctx') {app' : SenderApp}
    (hwait : WaitedFor ctx' app') (hup : app'.running = true) :
    ∃ app, WaitedFor ctx app ∧ app.Continues app' := by
  rw [WaitedFor, h.restartPending, h.restartAfterStop] at hwait
  rcases hwait with husb | happs
  · obtain ⟨app, happ, hcont⟩ := h.usb app' husb hup
    exact ⟨app, .inl happ, hcont⟩
  · split at happs
    · rename_i hpending
      obtain ⟨i, hi, happ'⟩ := happs
      obtain ⟨app, happ, hcont⟩ := h.apps i app' happ' hup
      exact ⟨app, .inr (by rw [if_pos hpending]; exact ⟨i, hi, happ⟩), hcont⟩
    · rename_i hpending
      obtain ⟨i, happ'⟩ := List.mem_iff_getElem?.1 happs
      obtain ⟨app, happ, hcont⟩ := h.apps i app' happ' hup
      exact ⟨app, .inr (by rw [if_neg hpending]; exact List.mem_of_getElem? happ), hcont⟩

theorem exclusive_calmer {ctx ctx' : TrayContext} (h : Calmer ctx ctx')
    (exclusive : ctx.usbRunning = true → ctx.wifiRunning = false) :
    ctx'.usbRunning = true → ctx'.wifiRunning = false := by
  intro hup
  cases hbefore : ctx.usbRunning with
  | true => exact h.wifiRunning (exclusive hbefore)
  | false =>
    rw [h.usbRunning hbefore] at hup
    cases hup

theorem rest_calmer {ctx ctx' : TrayContext} (hr : Rest ctx) (h : Calmer ctx ctx') :
    Rest ctx' where
  aligned := by rw [h.appsLength, h.devicesLength, hr.aligned]
  pending := h.pending.trans hr.pending
  exclusive := exclusive_calmer h hr.exclusive
  usbTarget hsome := by
    obtain ⟨hbefore, htarget⟩ := h.usbTarget hsome
    rw [htarget]
    exact hr.usbTarget hbefore

theorem free_calmer {ctx ctx' : TrayContext} {transport : ConnectionTransport}
    (h : Calmer ctx ctx') (free : Free ctx transport) : Free ctx' transport :=
  ⟨fun ht => h.usbRunning (free.1 ht), fun ht => h.wifiRunning (free.2 ht)⟩

/-- **Handlers that start nothing keep the invariant.** -/
theorem inv_calmer {ctx ctx' : TrayContext} (hi : Inv ctx) (h : Calmer ctx ctx') : Inv ctx' where
  aligned := by rw [h.appsLength, h.devicesLength, hi.aligned]
  exclusive := exclusive_calmer h hi.exclusive
  usbTarget hsome := by
    obtain ⟨hbefore, htarget⟩ := h.usbTarget hsome
    rw [htarget]
    exact hi.usbTarget hbefore
  restart hp := by
    rw [h.switching]
    exact hi.restart (h.restartPending ▸ hp)
  restartApps hne := by
    rw [h.restartAfterStop] at hne
    rw [h.restartUsbTarget]
    exact ⟨h.usbRunning (hi.restartApps hne).1, (hi.restartApps hne).2⟩
  restartUsb hne := h.wifiRunning (hi.restartUsb (h.restartUsbTarget ▸ hne))
  free := by
    rcases h.transport with ht | ht
    · rw [ht]
      exact free_calmer h hi.free
    · rw [ht]
      exact ⟨nofun, nofun⟩
  wifiAttempt ht := by
    rcases h.transport with heq | heq
    · rw [h.restartUsbTarget]
      exact hi.wifiAttempt (heq ▸ ht)
    · rw [heq] at ht
      cases ht
  usbAttempt ht := by
    rcases h.transport with heq | heq
    · rw [h.restartAfterStop]
      exact hi.usbAttempt (heq ▸ ht)
    · rw [heq] at ht
      cases ht
  switchAttempt hs hp := by
    rw [h.switching] at hs
    rw [h.restartPending] at hp
    exact h.transport.elim (·.trans (hi.switchAttempt hs hp)) id
  asked hs app' hwait hup := by
    rw [h.switching] at hs
    obtain ⟨app, hbefore, hcont⟩ := waitedFor_calmer h hwait hup
    exact hcont.stopRequested (hi.asked hs app hbefore hcont.running)

/-! ### Handlers that start a sender while nothing is pending -/

theorem rest_startApp {ctx : TrayContext} (h : Rest ctx) (husb : ctx.usbRunning = false)
    (index : Nat) (target : Bytes) : Rest (ctx.startApp index target) where
  aligned := (startApp_apps_length ..).trans h.aligned
  pending := h.pending
  exclusive hup := (Bool.false_ne_true (husb.symm.trans hup)).elim
  usbTarget := h.usbTarget

theorem rest_startEach {ctx : TrayContext} (h : Rest ctx) (husb : ctx.usbRunning = false)
    (targets : List (Nat × Bytes)) : Rest (ctx.startEach targets) := by
  have hlength := startEach_apps_length ctx targets
  rw [startEach_frame] at hlength ⊢
  refine ⟨hlength.trans h.aligned, h.pending, fun hup => ?_, h.usbTarget⟩
  exact (Bool.false_ne_true (husb.symm.trans hup)).elim

/-- A cable session is started after every Wi-Fi session has been stopped. -/
theorem rest_startUsbSession {ctx : TrayContext} (h : Rest ctx) {target : Bytes}
    (htarget : target ≠ []) :
    Rest (ctx.startUsbSession target) ∧ (ctx.startUsbSession target).wifiRunning = false := by
  have hwifi : (ctx.startUsbSession target).wifiRunning = false := by
    rw [← Bool.not_eq_true]
    intro hup
    obtain ⟨app, hmem, hrunning⟩ := List.any_eq_true.1 hup
    obtain ⟨old, -, rfl⟩ := List.mem_map.1 hmem
    cases hrunning
  exact ⟨⟨(List.length_map ..).trans h.aligned, h.pending, fun _ => hwifi, fun _ => htarget⟩, hwifi⟩

/-- **A session that starts excludes the other kind.** -/
theorem rest_startTransportAttempt {ctx ctx' : TrayContext} (h : Rest ctx)
    {transport : ConnectionTransport}
    (hstart : ctx.startTransportAttempt transport = (ctx', true)) :
    Rest ctx' ∧ Free ctx' transport ∧ ctx.commands <+: ctx'.commands := by
  rcases startTransportAttempt_cases ctx transport with ⟨ready, heq, -⟩ |
    ⟨rfl, ready, index, target, heq, hcalm, husb⟩ | ⟨rfl, target, htarget, heq⟩
  · rw [heq] at hstart
    cases hstart
  · rw [heq] at hstart
    cases hstart
    have hdown : ready.usbRunning = false := by rw [usbRunning, husb]; rfl
    exact ⟨rest_startApp (rest_calmer h hcalm) hdown index target,
      ⟨fun _ => hdown, nofun⟩, hcalm.commands⟩
  · rw [heq] at hstart
    cases hstart
    obtain ⟨hrest, hwifi⟩ := rest_startUsbSession h htarget
    exact ⟨hrest, ⟨nofun, fun _ => hwifi⟩, List.prefix_rfl⟩

/-- Only a real transport starts. -/
theorem transport_ne_none {ctx ctx' : TrayContext} {transport : ConnectionTransport}
    (h : ctx.startTransportAttempt transport = (ctx', true)) : transport ≠ .none := by
  rintro rfl
  cases h

/-- An attempt that fails leaves the startup attempt as calm as it was. -/
theorem calmer_startTransportAttempt {ctx ctx' : TrayContext} {transport : ConnectionTransport}
    (h : ctx.startTransportAttempt transport = (ctx', false)) : Calmer ctx ctx' := by
  rcases startTransportAttempt_cases ctx transport with ⟨ready, heq, hcalm⟩ |
    ⟨-, ready, index, target, heq, -⟩ | ⟨-, target, -, heq⟩
  · rw [heq] at h
    cases h
    exact hcalm
  · rw [heq] at h
    cases h
  · rw [heq] at h
    cases h

/-! ### `ProcessDeviceCommands` -/

/-- A command asks every sender to stop and sets the flag. -/
theorem inv_beginCommand {ctx : TrayContext} (h : Rest ctx) (command : DeviceCommand) :
    Inv (ctx.beginCommand command) := by
  have hcalm : Calmer ctx ((ctx.setTransport .none).requestStopUsb.requestStopConfiguredSenders) :=
    ((Calmer.setTransport_none ctx).trans (Calmer.requestStopUsb _)).trans
      (Calmer.map_apps _ SenderApp.tame_requestStop)
  have hr := rest_calmer h hcalm
  have hlist : ctx.restartAfterStop = [] := h.restartAfterStop
  have htarget : ctx.restartUsbTarget = [] := h.restartUsbTarget
  rw [beginCommand_frame]
  refine
    { aligned := hr.aligned
      exclusive := hr.exclusive
      usbTarget := hr.usbTarget
      restart := fun _ => rfl
      restartApps := fun hne => absurd hlist hne
      restartUsb := fun hne => absurd htarget hne
      free := ⟨nofun, nofun⟩
      wifiAttempt := nofun
      usbAttempt := nofun
      switchAttempt := fun _ _ => rfl
      asked := fun _ app hwait _ => ?_ }
  rcases hwait.mem with hmem | hmem
  · obtain ⟨old, -, rfl⟩ := Option.map_eq_some_iff.1 hmem
    rfl
  · obtain ⟨old, -, rfl⟩ := List.mem_map.1 hmem
    rfl

/-- A switch that completes leaves at most one Wi-Fi session. -/
theorem inv_finishSwitch {ctx : TrayContext} (h : Inv ctx) (hs : ctx.switching = true)
    (hp : ctx.restartPending = false) : Inv ctx.finishSwitch := by
  have hlength := finishSwitch_apps_length ctx
  have htransport := h.switchAttempt hs hp
  rw [restartPending_eq_false] at hp
  rw [finishSwitch_frame] at hlength ⊢
  refine Rest.inv ⟨hlength.trans h.aligned, ?_, nofun, nofun⟩ ?_
  · rw [pendingSwitch]
    simp only [hp.1, hp.2]
  · simp only [htransport]
    exact ⟨nofun, nofun⟩

/-- A settings restart brings back sessions of one kind. -/
theorem inv_finishRestart {ctx : TrayContext} (h : Inv ctx) (hp : ctx.restartPending = true)
    (hwaits : ctx.waits = false) : Inv ctx.finishRestart := by
  rw [waits, if_pos hp, Bool.or_eq_false_iff] at hwaits
  by_cases husb : ctx.restartUsbTarget = []
  · have hlist : ctx.restartAfterStop ≠ [] := by
      simpa [restartPending, husb] using hp
    have hnotusb : ctx.startupConnection.transport ≠ .usb := fun ht => hlist (h.usbAttempt ht)
    have hlength := startEach_apps_length ctx
      (ctx.restartAfterStop.map fun index => (index, ctx.resolveDeviceTarget index))
    have hrestart : ctx.finishRestart = { ctx with
        apps := (ctx.startEach
          (ctx.restartAfterStop.map fun index => (index, ctx.resolveDeviceTarget index))).apps
        restartAfterStop := [], restartUsbTarget := [], switching := false } := by
      rw [finishRestart, restartApps, startEach_frame, restartUsb]
      simp [husb]
    rw [hrestart]
    exact Rest.inv ⟨hlength.trans h.aligned, rfl,
      fun hup => (Bool.false_ne_true (hwaits.2.symm.trans hup)).elim, h.usbTarget⟩
      ⟨fun _ => hwaits.2, fun ht => absurd ht hnotusb⟩
  · have hlist : ctx.restartAfterStop = [] := by
      by_contra hne
      exact husb (h.restartApps hne).2
    have hwifi := h.restartUsb husb
    have hrestart : ctx.finishRestart = { ctx.launchUsb ctx.restartUsbTarget with
        restartAfterStop := [], restartUsbTarget := [], switching := false } := by
      rw [finishRestart, restartApps, hlist, restartUsb]
      exact congrArg (fun c : TrayContext =>
        { c with restartAfterStop := [], restartUsbTarget := [], switching := false })
        (if_pos husb)
    rw [hrestart]
    exact Rest.inv ⟨h.aligned, rfl, fun _ => hwifi, fun _ => husb⟩
      ⟨fun ht => absurd (h.wifiAttempt ht) husb, fun _ => hwifi⟩

theorem inv_processDeviceCommands {ctx : TrayContext} (h : Inv ctx) :
    Inv ctx.processDeviceCommands := by
  have hreaped := inv_calmer h (Calmer.reapRetired ctx)
  rcases processDeviceCommands_cases ctx with ⟨heq, -⟩ | ⟨heq, -, hwaits, hp⟩ |
    ⟨heq, hs, -, hp⟩ | ⟨command, rest, heq, hs, -⟩
  · rw [heq]
    exact hreaped
  · rw [heq]
    exact inv_finishRestart hreaped hp hwaits
  · rw [heq]
    exact inv_finishSwitch hreaped hs hp
  · rw [heq]
    have hrest := hreaped.rest hs
    have htaken : Rest { ctx.reapRetired with commands := rest } :=
      ⟨hrest.aligned, hrest.pending, hrest.exclusive, hrest.usbTarget⟩
    exact inv_beginCommand htaken command

/-- A tick that leaves a pending switch pending has only waited. -/
theorem processDeviceCommands_waiting {ctx : TrayContext} (hs : ctx.switching = true)
    (hs' : ctx.processDeviceCommands.switching = true) :
    ctx.processDeviceCommands = ctx.reapRetired ∧ ctx.waits = true := by
  rcases processDeviceCommands_cases ctx with ⟨heq, hw | hw⟩ | ⟨heq, -⟩ | ⟨heq, -⟩ |
    ⟨command, rest, -, hclear, -⟩
  · exact ⟨heq, hw.2⟩
  · rw [hs] at hw
    cases hw.1
  · rw [heq] at hs'
    cases hs'
  · rw [heq] at hs'
    cases hs'
  · rw [hs] at hclear
    cases hclear

/-- After a tick, a settings restart that is still pending waits for a sender that runs. -/
theorem processDeviceCommands_restartPending {ctx : TrayContext} (h : Inv ctx)
    (hp : ctx.processDeviceCommands.restartPending = true) :
    ctx.processDeviceCommands.waits = true := by
  have hs' := (inv_processDeviceCommands h).restart hp
  cases hs : ctx.switching with
  | true =>
    obtain ⟨heq, hwaits⟩ := processDeviceCommands_waiting hs hs'
    rw [heq]
    exact hwaits
  | false =>
    -- A command from the queue starts a switch, not a restart.
    have hlist := (h.rest hs).restartAfterStop
    have htarget := (h.rest hs).restartUsbTarget
    rcases processDeviceCommands_cases ctx with ⟨heq, -⟩ | ⟨-, hset, -⟩ | ⟨-, hset, -⟩ |
      ⟨command, rest, heq, -⟩
    · rw [heq, show ctx.reapRetired.switching = false from hs] at hs'
      cases hs'
    · rw [hs] at hset
      cases hset
    · rw [hs] at hset
      cases hset
    · rw [heq, beginCommand_frame] at hp
      simp [restartPending, setTransport, reapRetired, hlist, htarget] at hp

/-! ### `AdvanceStartupAutoConnect` -/

/-- The active device has been given up, its sender is down and the next candidate can start. -/
def candidateDue (ctx : TrayContext) (outside : Outside) (active : SenderApp) : Bool :=
  !globalFailure active && ctx.startupConnection.waitingNext && !active.running &&
    (ctx.startWifiCandidate outside (ctx.startupConnection.wifiPosition + 1)).2

/-- `AdvanceStartupAutoConnect` starts the next candidate. -/
def failoverStarts (ctx : TrayContext) (outside : Outside) : Bool :=
  match ctx.startupConnection.transport,
      ctx.apps[ctx.startupConnection.activeDeviceIndex]? with
  | .wifi, some active =>
    !ctx.isWifiStreaming && !ctx.startupConnection.waitingTransportStop &&
      candidateDue ctx outside active
  | _, _ => false

theorem advanceWifiAttempt_cases (ctx : TrayContext) (outside : Outside) (active : SenderApp) :
    (∃ ready returned, ctx.advanceWifiAttempt outside active = (ready, returned) ∧
      Calmer ctx ready) ∨
    (candidateDue ctx outside active = true ∧ ∃ ready index target,
      ctx.advanceWifiAttempt outside active = (ready.startApp index target, true) ∧
        Calmer ctx ready) := by
  simp only [advanceWifiAttempt, candidateDue]
  cases hglobal : globalFailure active with
  | true =>
    exact .inl ⟨_, _, rfl, ((Calmer.reportFailure ctx .global).trans
      (Calmer.requestStopApp _ _)).trans (Calmer.setTransport_none _)⟩
  | false =>
    cases hnext : ctx.startupConnection.waitingNext with
    | true =>
      cases hrunning : active.running with
      | true => exact .inl ⟨_, _, rfl, .refl ctx⟩
      | false =>
        rcases startWifiCandidate_cases ctx outside (ctx.startupConnection.wifiPosition + 1) with
          heq | ⟨ready, index, target, heq, hcalm⟩
        · rw [heq]
          exact .inl ⟨_, _, rfl, Calmer.setWaitingNext ctx false⟩
        · rw [heq]
          exact .inr ⟨rfl, ready, index, target, rfl, hcalm⟩
    | false =>
      refine .inl ?_
      have hgiven : ∀ index, Calmer ctx ((ctx.reportFailure .device).requestStopApp index) :=
        fun index => (Calmer.reportFailure ctx .device).trans (Calmer.requestStopApp _ index)
      simp only [Bool.false_eq_true, if_false]
      split
      · split
        · exact ⟨_, _, rfl, (hgiven _).trans (Calmer.setWaitingNext _ true)⟩
        · exact ⟨_, _, rfl, hgiven _⟩
      · exact ⟨_, _, rfl, .refl ctx⟩

theorem startupTrying_cases (ctx : TrayContext) (outside : Outside)
    (hstreaming : ctx.isTransportStreaming ctx.startupConnection.transport = false)
    (hteardown : ctx.startupConnection.waitingTransportStop = false) :
    Calmer ctx (ctx.startupTrying outside) ∨
      (failoverStarts ctx outside = true ∧ ctx.startupConnection.transport = .wifi ∧
        ∃ ready index target, ctx.startupTrying outside = ready.startApp index target ∧
          Calmer ctx ready) := by
  have htimeout : ∀ ready : TrayContext, Calmer ctx ready →
      Calmer ctx ((ready.requestStopTransportAttempt ready.startupConnection.transport)
        |>.setWaitingTransportStop true) := fun ready h =>
    (h.trans (Calmer.requestStopTransportAttempt ready _)).trans
      (Calmer.setWaitingTransportStop _ true)
  rw [startupTrying]
  split
  rename_i ready returned hattempt
  split at hattempt
  · rename_i active htransport happ
    rcases advanceWifiAttempt_cases ctx outside active with
      ⟨ready', returned', heq, hcalm⟩ | ⟨hdue, ready', index, target, heq, hcalm⟩
    · rw [heq] at hattempt
      cases hattempt
      exact .inl (.ite hcalm (.ite hcalm (htimeout _ hcalm)))
    · rw [heq] at hattempt
      cases hattempt
      refine .inr ⟨?_, htransport, ready', index, target, rfl, hcalm⟩
      rw [htransport] at hstreaming
      simp only [failoverStarts, htransport, happ, hdue, hteardown,
        show ctx.isWifiStreaming = false from hstreaming]
      rfl
  · cases hattempt
    exact .inl (.ite (.refl ctx) (.ite (.refl ctx) (htimeout _ (.refl ctx))))

/-- The teardown of a failed transport goes on, ends the attempt, or starts the fallback. -/
theorem startupTeardown_cases (ctx : TrayContext) (outside : Outside) :
    Calmer ctx (ctx.startupTeardown outside) ∨
      (ctx.transportDown ctx.startupConnection.transport = true ∧ ∃ ready ready' transport,
        ctx.startupTeardown outside = ready'.attemptStarted outside transport true ∧
          Calmer ctx ready ∧ ready.startTransportAttempt transport = (ready', true)) := by
  have hstopped : Calmer ctx ((ctx.stopTransportAttempt ctx.startupConnection.transport)
      |>.setWaitingTransportStop false) :=
    (Calmer.stopTransportAttempt ctx _).trans (Calmer.setWaitingTransportStop _ false)
  simp only [startupTeardown]
  cases hdown : ctx.transportDown ctx.startupConnection.transport with
  | false => exact .inl (.refl ctx)
  | true =>
    simp only [Bool.not_true, Bool.false_eq_true, if_false]
    split
    · exact .inl (hstopped.trans (Calmer.setTransport_none _))
    · split
      · rename_i ready' hstart
        exact .inr ⟨trivial, _, ready', _, rfl, hstopped, hstart⟩
      · rename_i ready' hstart
        exact .inl ((hstopped.trans (calmer_startTransportAttempt hstart)).trans
          (Calmer.setTransport_none _))

/-- A teardown that is over finds no switch pending. -/
theorem not_switching_of_transportDown {ctx : TrayContext} (h : Inv ctx)
    (hwaits : ctx.restartPending = true → ctx.waits = true)
    (htransport : ctx.startupConnection.transport ≠ .none)
    (hdown : ctx.transportDown ctx.startupConnection.transport = true) :
    ctx.switching = false := by
  rw [← Bool.not_eq_true]
  intro hs
  cases hp : ctx.restartPending with
  | false => exact htransport (h.switchAttempt hs hp)
  | true =>
    have hrun := hwaits hp
    rw [waits, if_pos hp, Bool.or_eq_true, List.any_eq_true] at hrun
    cases ht : ctx.startupConnection.transport with
    | none => exact htransport ht
    | wifi =>
      have hdown : ctx.wifiRunning = false := by
        rwa [ht, show ctx.transportDown .wifi = !ctx.wifiRunning from rfl,
          Bool.not_eq_true'] at hdown
      rcases hrun with ⟨i, -, happ⟩ | husb
      · rw [appRunning_of_not_wifiRunning hdown i] at happ
        cases happ
      · rw [h.free.1 ht] at husb
        cases husb
    | usb =>
      have hdown : ctx.usbRunning = false := by
        rwa [ht, show ctx.transportDown .usb = !ctx.usbRunning from rfl,
          Bool.not_eq_true'] at hdown
      rcases hrun with ⟨i, -, happ⟩ | husb
      · rw [appRunning_of_not_wifiRunning (h.free.2 ht) i] at happ
        cases happ
      · rw [hdown] at husb
        cases husb

/-- What a handler other than a tick or a save does to the tray. -/
structure Handled (ctx ctx' : TrayContext) : Prop where
  inv : Inv ctx'
  switching : ctx'.switching = ctx.switching
  calmer : ctx.switching = true → Calmer ctx ctx'
  commands : ctx.commands <+: ctx'.commands

theorem Handled.of_calmer {ctx ctx' : TrayContext} (hi : Inv ctx) (h : Calmer ctx ctx') :
    Handled ctx ctx' :=
  ⟨inv_calmer hi h, h.switching, fun _ => h, h.commands⟩

/-- A handler that starts a sender while nothing is pending. -/
theorem Handled.of_rest {ctx ctx' : TrayContext} (h : Rest ctx) (h' : Rest ctx')
    (free : Free ctx' ctx'.startupConnection.transport)
    (hcommands : ctx.commands <+: ctx'.commands) : Handled ctx ctx' :=
  ⟨h'.inv free, h'.switching.trans h.switching.symm,
    fun hs => (Bool.false_ne_true (h.switching.symm.trans hs)).elim, hcommands⟩

/-- A configured sender starts over a free transport. -/
theorem Handled.startApp {ctx ready : TrayContext} (h : Rest ctx) (hcalm : Calmer ctx ready)
    (husb : ready.usbRunning = false) (hnotusb : ready.startupConnection.transport ≠ .usb)
    (index : Nat) (target : Bytes) : Handled ctx (ready.startApp index target) :=
  .of_rest h (rest_startApp (rest_calmer h hcalm) husb index target)
    ⟨fun _ => husb, fun ht => absurd ht hnotusb⟩ hcalm.commands

/-- A cable session starts while no Wi-Fi attempt is under way. -/
theorem Handled.startUsbSession {ctx ready : TrayContext} (h : Rest ctx) (hcalm : Calmer ctx ready)
    (hnotwifi : ready.startupConnection.transport ≠ .wifi) {target : Bytes}
    (htarget : target ≠ []) : Handled ctx (ready.startUsbSession target) := by
  obtain ⟨hrest, hwifi⟩ := rest_startUsbSession (rest_calmer h hcalm) htarget
  exact .of_rest h hrest ⟨fun ht => absurd ht hnotwifi, fun _ => hwifi⟩ hcalm.commands

/-- A session starts and is the startup attempt from now on. -/
theorem Handled.attemptStarted {ctx ready ready' : TrayContext} {transport : ConnectionTransport}
    (h : Rest ctx) (hcalm : Calmer ctx ready)
    (hstart : ready.startTransportAttempt transport = (ready', true)) (outside : Outside)
    (fallback : Bool) : Handled ctx (ready'.attemptStarted outside transport fallback) := by
  obtain ⟨hrest, hfree, hcommands⟩ := rest_startTransportAttempt (rest_calmer h hcalm) hstart
  exact .of_rest h ⟨hrest.aligned, hrest.pending, hrest.exclusive, hrest.usbTarget⟩ hfree
    (hcalm.commands.trans hcommands)

/-- **A tick of the startup attempt.**  While a switch is pending it starts nothing, unless the
next candidate is due. -/
theorem handled_advanceStartupAutoConnect {ctx : TrayContext} (outside : Outside) (h : Inv ctx)
    (hwaits : ctx.restartPending = true → ctx.waits = true)
    (hguard : (ctx.switching && failoverStarts ctx outside) = false) :
    Handled ctx (ctx.advanceStartupAutoConnect outside) := by
  rw [advanceStartupAutoConnect]
  split
  · exact .of_calmer h (.refl ctx)
  · rename_i htransport
    split
    · exact .of_calmer h (Calmer.startupStreaming ctx outside)
    · rename_i hstreaming
      split
      · rcases startupTeardown_cases ctx outside with hcalm |
          ⟨hdown, ready, ready', transport, heq, hcalm, hstart⟩
        · exact .of_calmer h hcalm
        · rw [heq]
          have hs := not_switching_of_transportDown h hwaits htransport hdown
          exact .attemptStarted (h.rest hs) hcalm hstart outside true
      · rename_i hteardown
        rcases startupTrying_cases ctx outside (by simpa using hstreaming)
            (by simpa using hteardown)
          with hcalm | ⟨hdue, hwifi, ready, index, target, heq, hcalm⟩
        · exact .of_calmer h hcalm
        · rw [hdue, Bool.and_true] at hguard
          rw [heq]
          refine .startApp (h.rest hguard) hcalm (hcalm.usbRunning (h.free.1 hwifi)) ?_ index target
          rcases hcalm.transport with ht | ht
          · rw [ht, hwifi]
            decide
          · rw [ht]
            decide

end SecondDisplay.Switching
