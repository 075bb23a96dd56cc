import SecondDisplay.App.PendingSwitch

/-!
# The handlers and the pending switch

Every handler of the tray keeps the invariant of the pending switch, provided that it starts no
sender while the flag is set.  A save needs something else: while a settings restart is pending
the list of devices has to stay the same, because the restart list counts positions.
-/

namespace SecondDisplay.Switching

open TrayContext

/-! ### The panel and the menu -/

/-- `BeginStartupAutoConnect` starts nothing, or a session that is its startup attempt. -/
theorem beginStartupAutoConnect_cases (ctx : TrayContext) (outside : Outside) :
    Calmer ctx (ctx.beginStartupAutoConnect outside) ∨
      ((ctx.beginStartupAutoConnect outside).startupConnection.transport ≠ .none ∧
        (Rest ctx → Handled ctx (ctx.beginStartupAutoConnect outside))) := by
  have hcleared : Calmer ctx
      { ctx.refreshUsbDevices outside true with startupConnection := {} } :=
    (Calmer.refreshUsbDevices ctx outside true).trans
      { Calmer.refl (ctx.refreshUsbDevices outside true) with transport := .inr rfl }
  simp only [beginStartupAutoConnect]
  generalize { ctx.refreshUsbDevices outside true with startupConnection := {} } = cleared
    at hcleared ⊢
  split
  · rename_i ready hfirst
    exact .inr ⟨transport_ne_none hfirst,
      fun hrest => .attemptStarted hrest hcleared hfirst outside false⟩
  · rename_i ready hfirst
    have hready := hcleared.trans (calmer_startTransportAttempt hfirst)
    split
    · rename_i last hsecond
      exact .inr ⟨transport_ne_none hsecond,
        fun hrest => .attemptStarted hrest hready hsecond outside true⟩
    · rename_i last hsecond
      exact .inl (hready.trans (calmer_startTransportAttempt hsecond))

/-- `BeginStartupAutoConnect` starts a session. -/
def beginStarts (ctx : TrayContext) (outside : Outside) : Bool :=
  decide ((ctx.beginStartupAutoConnect outside).startupConnection.transport ≠ .none)

theorem handled_beginStartupAutoConnect {ctx : TrayContext} (outside : Outside) (h : Inv ctx)
    (hguard : (ctx.switching && beginStarts ctx outside) = false) :
    Handled ctx (ctx.beginStartupAutoConnect outside) := by
  rcases beginStartupAutoConnect_cases ctx outside with hcalm | ⟨hstarts, hhandled⟩
  · exact .of_calmer h hcalm
  · rw [beginStarts, decide_eq_true hstarts, Bool.and_true] at hguard
    exact hhandled (h.rest hguard)

/-- The retry button starts a session instead of queueing a command. -/
def retryStarts (ctx : TrayContext) (outside : Outside) (selected : Option Nat) : Bool :=
  match if 1 < ctx.cfg.devices.length then selected else none with
  | some _ => false
  | none =>
    let idle := ctx.setTransport .none
    if ctx.usbRunning ∧ ctx.cfg.devices ≠ [] then idle.startWifiSession.2
    else if ctx.wifiRunning then (idle.refreshUsbDevices outside true).preferredUsbTarget.isSome
    else ctx.usbRunning || beginStarts idle outside

/-- An event starts a sender, other than through `ProcessDeviceCommands`. -/
def startsSender (ctx : TrayContext) : Event → Bool
  | .connect => decide (ctx.apps ≠ [])
  | .usbEntry index =>
    match ctx.usbDevices[index]? with
    | none => false
    | some device =>
      !(ctx.usbApp.isSome && decide (makeUsbMuxTarget device.udid = ctx.activeUsbTarget))
  | .toggle outside => !ctx.anyRunning && beginStarts ctx outside
  | .retryOrSwitch outside selected => retryStarts ctx outside selected
  | _ => false

theorem handled_connectAll {ctx : TrayContext} (h : Inv ctx)
    (hguard : (ctx.switching && decide (ctx.apps ≠ [])) = false) :
    Handled ctx ctx.connectAll := by
  have hcalm : Calmer ctx (ctx.setTransport .none).stopUsbSession :=
    (Calmer.setTransport_none ctx).trans (Calmer.stopUsbSession _)
  by_cases happs : ctx.apps = []
  · have hnone : ctx.connectAll = (ctx.setTransport .none).stopUsbSession := by
      rw [connectAll, happs]
      rfl
    rw [hnone]
    exact .of_calmer h hcalm
  · rw [decide_eq_true happs, Bool.and_true] at hguard
    have hrest := rest_startEach (rest_calmer (h.rest hguard) hcalm) rfl
      ((List.range ctx.apps.length).map fun index => (index, ctx.resolveDeviceTarget index))
    rw [connectAll]
    refine .of_rest (h.rest hguard) hrest ?_ ?_
    · rw [startEach_frame]
      exact ⟨nofun, nofun⟩
    · rw [startEach_frame]
      exact List.prefix_rfl

theorem handled_usbEntry {ctx : TrayContext} (h : Inv ctx) (index : Nat)
    (hguard : (ctx.switching && startsSender ctx (.usbEntry index)) = false) :
    Handled ctx (ctx.usbEntry index) := by
  have hcalm := Calmer.setTransport_none ctx
  simp only [usbEntry, startsSender] at hguard ⊢
  cases hdevice : ctx.usbDevices[index]? with
  | none => exact .of_calmer h (.refl ctx)
  | some device =>
    simp only [hdevice] at hguard ⊢
    split
    · exact .of_calmer h (hcalm.trans (Calmer.stopUsbSession _))
    · rename_i hother
      have hs : ctx.switching = false := by
        simpa [show ¬(ctx.usbApp.isSome = true ∧
          makeUsbMuxTarget device.udid = ctx.activeUsbTarget) from hother] using hguard
      exact .startUsbSession (h.rest hs) hcalm (by simp [setTransport])
        (makeUsbMuxTarget_ne_nil _)

theorem handled_toggle {ctx : TrayContext} (outside : Outside) (h : Inv ctx)
    (hguard : (ctx.switching && startsSender ctx (.toggle outside)) = false) :
    Handled ctx (ctx.togglePanelConnection outside) := by
  rw [togglePanelConnection]
  split
  · exact .of_calmer h (Calmer.queueDeviceCommand ctx _)
  · rename_i hdown
    refine handled_beginStartupAutoConnect outside h ?_
    simpa [startsSender, hdown] using hguard

theorem handled_deviceEntry {ctx : TrayContext} (h : Inv ctx) (index : Nat) :
    Handled ctx (ctx.deviceEntry index) := by
  rw [deviceEntry]
  split
  · exact .of_calmer h (.refl ctx)
  · split
    · exact .of_calmer h (Calmer.queueDeviceCommand ctx _)
    · exact .of_calmer h (Calmer.queueDeviceCommand ctx _)

theorem handled_startWifiSession {ctx ready : TrayContext} (h : Inv ctx)
    (hcalm : Calmer ctx ready) (hnone : ready.startupConnection.transport = .none)
    (hguard : (ctx.switching && ready.startWifiSession.2) = false) :
    Handled ctx ready.startWifiSession.1 := by
  rcases startWifiSession_cases ready with ⟨last, heq, hlast⟩ |
    ⟨last, index, target, heq, hlast, husb⟩
  · rw [heq]
    exact .of_calmer h (hcalm.trans hlast)
  · rw [heq] at hguard ⊢
    rw [Bool.and_true] at hguard
    refine .startApp (h.rest hguard) (hcalm.trans hlast) (by rw [usbRunning, husb]; rfl) ?_
      index target
    rw [hlast.transport.elim (·.trans hnone) id]
    decide

theorem handled_retrySession {ctx : TrayContext} (outside : Outside) (h : Inv ctx)
    (hguard : (ctx.switching && retryStarts ctx outside none) = false) :
    Handled ctx (ctx.retrySession outside) := by
  have hcalm := Calmer.setTransport_none ctx
  have hguard : (ctx.switching &&
      if ctx.usbRunning ∧ ctx.cfg.devices ≠ [] then (ctx.setTransport .none).startWifiSession.2
      else if ctx.wifiRunning then
        ((ctx.setTransport .none).refreshUsbDevices outside true).preferredUsbTarget.isSome
      else ctx.usbRunning || beginStarts (ctx.setTransport .none) outside) = false := by
    simpa [retryStarts] using hguard
  have husb : ctx.usbApp.any (·.running) = ctx.usbRunning := rfl
  have hwifi : ctx.apps.any (·.running) = ctx.wifiRunning := rfl
  have hdevices : (ctx.setTransport .none).cfg.devices = ctx.cfg.devices := rfl
  simp only [retrySession, husb, hwifi, hdevices]
  split
  · rename_i hboth
    rw [if_pos hboth] at hguard
    exact handled_startWifiSession h hcalm rfl hguard
  · rename_i hboth
    rw [if_neg hboth] at hguard
    split
    · rename_i hup
      rw [if_pos hup] at hguard
      have hrefreshed := hcalm.trans (Calmer.refreshUsbDevices _ outside true)
      split
      · rename_i target htarget
        rw [htarget, Option.isSome_some, Bool.and_true] at hguard
        refine .startUsbSession (h.rest hguard) hrefreshed ?_ (preferredUsbTarget_ne_nil htarget)
        have hnone : ((ctx.setTransport .none).refreshUsbDevices outside
            true).startupConnection.transport = .none :=
          (Calmer.refreshUsbDevices (ctx.setTransport .none) outside true).transport.elim id id
        rw [hnone]
        decide
      · exact .of_calmer h (hrefreshed.trans (Calmer.queueDeviceCommand _ _))
    · rename_i hdown
      rw [if_neg hdown] at hguard
      cases hup : ctx.usbRunning with
      | true =>
        rw [hup, Bool.true_or, Bool.and_true] at hguard
        obtain ⟨app, happ, -⟩ := (Option.any_eq_true _ _).1 hup
        have hsome : ctx.usbApp.isSome = true := by rw [happ]; rfl
        exact .startUsbSession (h.rest hguard) (hcalm.trans (Calmer.stopUsbSession _))
          (by simp [stopUsbSession, setTransport]) (h.usbTarget hsome)
      | false =>
        rw [hup, Bool.false_or] at hguard
        have hbegin := handled_beginStartupAutoConnect outside (inv_calmer h hcalm) hguard
        exact ⟨hbegin.inv, hbegin.switching, fun hs => hcalm.trans (hbegin.calmer hs),
          hbegin.commands⟩

theorem handled_retryOrSwitch {ctx : TrayContext} (outside : Outside) (selected : Option Nat)
    (h : Inv ctx) (hguard : (ctx.switching && retryStarts ctx outside selected) = false) :
    Handled ctx (ctx.retryOrSwitchPanelConnection outside selected) := by
  rw [retryOrSwitchPanelConnection]
  cases hselected : if 1 < ctx.cfg.devices.length then selected else none with
  | some index => exact .of_calmer h (Calmer.queueDeviceCommand ctx _)
  | none =>
    refine handled_retrySession outside h ?_
    rw [← hguard]
    simp [retryStarts, hselected]

/-! ### Saving the settings -/

/-- `ApplyAndRestart` schedules the cable session, sorts the list and sets the flag. -/
theorem scheduleRestart_cases (ctx : TrayContext) (restartActive : Bool) :
    ∃ usbApp restartUsbTarget,
      ((ctx.usbRunning = true ∧ usbApp = ctx.usbApp.map SenderApp.requestStop ∧
          restartUsbTarget = ctx.activeUsbTarget) ∨
        (usbApp = ctx.usbApp ∧ restartUsbTarget = ctx.restartUsbTarget)) ∧
      ((ctx.restartAfterStop = [] ∧ restartUsbTarget = [] ∧
        ctx.scheduleRestart restartActive = { ctx with
          usbApp := usbApp, restartUsbTarget := restartUsbTarget }) ∨
      ((ctx.restartAfterStop ≠ [] ∨ restartUsbTarget ≠ []) ∧
        ctx.scheduleRestart restartActive = { ctx with
          usbApp := usbApp
          restartUsbTarget := restartUsbTarget
          restartAfterStop := ctx.restartAfterStop.mergeSort.dedup
          switching := true
          switchingTo := none })) := by
  simp only [scheduleRestart]
  split
  · rename_i hactive
    refine ⟨_, _, .inl ⟨hactive.2, rfl, rfl⟩, ?_⟩
    split
    · rename_i hp
      exact .inr ⟨restartPending_eq_true.1 hp, rfl⟩
    · rename_i hp
      have hnone := restartPending_eq_false.1 (Bool.not_eq_true _ ▸ hp)
      exact .inl ⟨hnone.1, hnone.2, rfl⟩
  · refine ⟨_, _, .inr ⟨rfl, rfl⟩, ?_⟩
    split
    · rename_i hp
      exact .inr ⟨restartPending_eq_true.1 hp, rfl⟩
    · rename_i hp
      have hnone := restartPending_eq_false.1 (Bool.not_eq_true _ ▸ hp)
      exact .inl ⟨hnone.1, hnone.2, rfl⟩

/-- Addresses of running senders mean that one runs. -/
theorem wifiRunning_of_runningAddresses {ctx : TrayContext} (h : ctx.runningAddresses ≠ []) :
    ctx.wifiRunning = true := by
  rw [runningAddresses, Ne, List.map_eq_nil_iff, List.filter_eq_nil_iff] at h
  push Not at h
  obtain ⟨⟨app, device⟩, hmem, hup⟩ := h
  exact List.any_eq_true.2 ⟨app, (List.of_mem_zip hmem).1, hup⟩

/-- A sender of the tray runs as this object. -/
def Runs (ctx : TrayContext) (object : Nat) : Prop :=
  ∃ app : SenderApp, (ctx.usbApp = some app ∨ app ∈ ctx.apps) ∧ app.running = true ∧
    app.object = object

theorem Runs.of_calmer {ctx ctx' : TrayContext} (h : Calmer ctx ctx') {object : Nat}
    (hruns : Runs ctx' object) : Runs ctx object := by
  obtain ⟨app', hmem, hup, hobject⟩ := hruns
  rcases hmem with husb | happs
  · obtain ⟨app, happ, hcont⟩ := h.usb app' husb hup
    exact ⟨app, .inl happ, hcont.running, hcont.object ▸ hobject⟩
  · obtain ⟨i, happ'⟩ := List.mem_iff_getElem?.1 happs
    obtain ⟨app, happ, hcont⟩ := h.apps i app' happ' hup
    exact ⟨app, .inr (List.mem_of_getElem? happ), hcont.running, hcont.object ▸ hobject⟩

/-- What a save leaves behind, in the terms of the state before it. -/
structure Saved (ctx ctx' : TrayContext) : Prop where
  aligned : ctx'.apps.length = ctx'.cfg.devices.length
  apps : ∀ app' ∈ ctx'.apps, app'.running = true → ∃ app ∈ ctx.apps, app.Continues app'
  usb : (ctx.usbRunning = true ∧ ctx'.usbApp = ctx.usbApp.map SenderApp.requestStop ∧
      ctx'.restartUsbTarget = ctx.activeUsbTarget) ∨
    (ctx'.usbApp = ctx.usbApp ∧ ctx'.restartUsbTarget = ctx.restartUsbTarget)
  activeUsbTarget : ctx'.activeUsbTarget = ctx.activeUsbTarget
  transport : ctx'.startupConnection = ctx.startupConnection
  kept : ∀ i ∈ ctx.restartAfterStop, i ∈ ctx'.restartAfterStop
  grown : ctx'.restartAfterStop ≠ [] → ctx.restartAfterStop ≠ [] ∨ ctx.wifiRunning = true
  switching : (ctx'.restartPending = false ∧ ctx'.switching = ctx.switching) ∨
    (ctx'.restartPending = true ∧ ctx'.switching = true)
  asked : ∀ i ∈ ctx'.restartAfterStop, ∀ app' : SenderApp, ctx'.apps[i]? = some app' →
    app'.running = true → app'.stopRequested = true ∨
      ∃ j ∈ ctx.restartAfterStop, ∃ app : SenderApp, ctx.apps[j]? = some app ∧ app.Continues app'
  commands : ctx'.commands = ctx.commands

namespace Saved

theorem usbRunning {ctx ctx' : TrayContext} (h : Saved ctx ctx') :
    ctx'.usbRunning = ctx.usbRunning := by
  rcases h.usb with ⟨-, husb, -⟩ | ⟨husb, -⟩
  · rw [TrayContext.usbRunning, husb, TrayContext.usbRunning]
    cases ctx.usbApp <;> rfl
  · rw [TrayContext.usbRunning, husb]
    rfl

theorem wifiRunning {ctx ctx' : TrayContext} (h : Saved ctx ctx')
    (hdown : ctx.wifiRunning = false) : ctx'.wifiRunning = false := by
  rw [← Bool.not_eq_true] at hdown ⊢
  intro hup
  obtain ⟨app', hmem, hrunning⟩ := List.any_eq_true.1 hup
  obtain ⟨app, happ, hcont⟩ := h.apps app' hmem hrunning
  exact hdown (List.any_eq_true.2 ⟨app, happ, hcont.running⟩)

theorem runs {ctx ctx' : TrayContext} (h : Saved ctx ctx') {object : Nat}
    (hruns : Runs ctx' object) : Runs ctx object := by
  obtain ⟨app', husb | happs, hup, hobject⟩ := hruns
  · rcases h.usb with ⟨-, heq, -⟩ | ⟨heq, -⟩
    · obtain ⟨app, happ, rfl⟩ := Option.map_eq_some_iff.1 (heq ▸ husb)
      exact ⟨app, .inl happ, hup, hobject⟩
    · exact ⟨app', .inl (heq ▸ husb), hup, hobject⟩
  · obtain ⟨app, happ, hcont⟩ := h.apps app' happs hup
    exact ⟨app, .inr happ, hcont.running, hcont.object ▸ hobject⟩

/-- Nothing that was pending before a save is forgotten by it. -/
theorem not_pending {ctx ctx' : TrayContext} (h : Saved ctx ctx') (hi : Inv ctx)
    (hp : ctx'.restartPending = false) : ctx.restartPending = false := by
  rw [restartPending_eq_false] at hp ⊢
  refine ⟨List.eq_nil_iff_forall_not_mem.2 fun i hmem => ?_, ?_⟩
  · have hkept := h.kept i hmem
    rw [hp.1] at hkept
    cases hkept
  · rcases h.usb with ⟨hup, -, htarget⟩ | ⟨-, htarget⟩
    · obtain ⟨app, happ, -⟩ := (Option.any_eq_true _ _).1 hup
      have hsome : ctx.usbApp.isSome = true := by rw [happ]; rfl
      exact absurd (htarget.symm.trans hp.2) (hi.usbTarget hsome)
    · exact htarget.symm.trans hp.2

/-- A restart list means that no cable session runs. -/
theorem usb_down {ctx ctx' : TrayContext} (h : Saved ctx ctx') (hi : Inv ctx)
    (hne : ctx'.restartAfterStop ≠ []) :
    ctx.usbRunning = false ∧ ctx.restartUsbTarget = [] := by
  rcases h.grown hne with hold | hup
  · exact hi.restartApps hold
  · refine ⟨?_, ?_⟩
    · rw [← Bool.not_eq_true]
      intro husb
      rw [hi.exclusive husb] at hup
      cases hup
    · by_contra htarget
      rw [hi.restartUsb htarget] at hup
      cases hup

theorem restartUsbTarget {ctx ctx' : TrayContext} (h : Saved ctx ctx')
    (hdown : ctx.usbRunning = false) : ctx'.restartUsbTarget = ctx.restartUsbTarget := by
  rcases h.usb with ⟨hup, -, -⟩ | ⟨-, htarget⟩
  · rw [hdown] at hup
    cases hup
  · exact htarget

/-- After a save the cable sender has been asked to stop if a switch waits for it. -/
theorem usb_asked {ctx ctx' : TrayContext} (h : Saved ctx ctx') (hi : Inv ctx)
    (hs : ctx'.switching = true) {app' : SenderApp} (husb : ctx'.usbApp = some app')
    (hup : app'.running = true) : app'.stopRequested = true := by
  rcases h.usb with ⟨-, heq, -⟩ | ⟨heq, htarget⟩
  · obtain ⟨app, -, rfl⟩ := Option.map_eq_some_iff.1 (heq ▸ husb)
    rfl
  · rw [heq] at husb
    cases hbefore : ctx.switching with
    | true => exact hi.asked hbefore app' (.inl husb) hup
    | false =>
      -- Nothing was pending, so this save has made the list, and no cable session runs.
      have hrest := hi.rest hbefore
      rcases h.switching with ⟨-, hsame⟩ | ⟨hpending, -⟩
      · rw [hsame, hbefore] at hs
        cases hs
      · rcases restartPending_eq_true.1 hpending with hlist | hnew
        · have hdown := (h.usb_down hi hlist).1
          rw [TrayContext.usbRunning, husb] at hdown
          exact (Bool.false_ne_true (hdown.symm.trans hup)).elim
        · exact absurd (htarget.trans hrest.restartUsbTarget) hnew

theorem apps_asked {ctx ctx' : TrayContext} (h : Saved ctx ctx') (hi : Inv ctx)
    (hs : ctx'.switching = true) {app' : SenderApp} (hup : app'.running = true)
    (happs : if ctx'.restartPending then ∃ i ∈ ctx'.restartAfterStop, ctx'.apps[i]? = some app'
      else app' ∈ ctx'.apps) : app'.stopRequested = true := by
  rcases h.switching with ⟨hnot, hsame⟩ | ⟨hpending, -⟩
  · rw [if_neg (by rw [hnot]; decide)] at happs
    obtain ⟨app, happ, hcont⟩ := h.apps app' happs hup
    refine hcont.stopRequested (hi.asked (hsame ▸ hs) app (.inr ?_) hcont.running)
    rw [if_neg (by rw [h.not_pending hi hnot]; decide)]
    exact happ
  · rw [if_pos hpending] at happs
    obtain ⟨i, hmem, happ'⟩ := happs
    rcases h.asked i hmem app' happ' hup with hstop | ⟨j, hj, app, happ, hcont⟩
    · exact hstop
    · have hbefore : ctx.restartPending = true :=
        restartPending_eq_true.2 (.inl (List.ne_nil_of_mem hj))
      refine hcont.stopRequested
        (hi.asked (hi.restart hbefore) app (.inr ?_) hcont.running)
      rw [if_pos hbefore]
      exact ⟨j, hj, happ⟩

/-- **A save keeps the invariant.** -/
theorem inv {ctx ctx' : TrayContext} (h : Saved ctx ctx') (hi : Inv ctx) : Inv ctx' where
  aligned := h.aligned
  exclusive hup := h.wifiRunning (hi.exclusive (h.usbRunning ▸ hup))
  usbTarget hsome := by
    rw [h.activeUsbTarget]
    apply hi.usbTarget
    rcases h.usb with ⟨-, husb, -⟩ | ⟨husb, -⟩
    · rw [husb, Option.isSome_map] at hsome
      exact hsome
    · exact husb ▸ hsome
  restart hp := by
    rcases h.switching with ⟨hnot, -⟩ | ⟨-, hs⟩
    · rw [hp] at hnot
      cases hnot
    · exact hs
  restartApps hne := by
    obtain ⟨hdown, htarget⟩ := h.usb_down hi hne
    exact ⟨h.usbRunning.trans hdown, (h.restartUsbTarget hdown).trans htarget⟩
  restartUsb hne := by
    rcases h.usb with ⟨hup, -, -⟩ | ⟨-, htarget⟩
    · exact h.wifiRunning (hi.exclusive hup)
    · exact h.wifiRunning (hi.restartUsb (htarget ▸ hne))
  free := by
    rw [h.transport]
    exact ⟨fun ht => h.usbRunning.trans (hi.free.1 ht), fun ht => h.wifiRunning (hi.free.2 ht)⟩
  wifiAttempt ht := by
    rw [h.transport] at ht
    exact (h.restartUsbTarget (hi.free.1 ht)).trans (hi.wifiAttempt ht)
  usbAttempt ht := by
    rw [h.transport] at ht
    by_contra hne
    rcases h.grown hne with hold | hup
    · exact hold (hi.usbAttempt ht)
    · rw [hi.free.2 ht] at hup
      cases hup
  switchAttempt hs hp := by
    rw [h.transport]
    rcases h.switching with ⟨-, hsame⟩ | ⟨hpending, -⟩
    · exact hi.switchAttempt (hsame ▸ hs) (h.not_pending hi hp)
    · rw [hp] at hpending
      cases hpending
  asked hs _ hwait hup := hwait.elim (h.usb_asked hi hs · hup) (h.apps_asked hi hs hup)

end Saved

/-- **What a save does.**  While a settings restart is pending the devices must stay the same. -/
theorem saved_applyAndRestart {ctx : TrayContext}
    (aligned : ctx.apps.length = ctx.cfg.devices.length) (cfg : Config) (restartActive : Bool)
    (same : ctx.restartPending = true → cfg.devices = ctx.cfg.devices) :
    Saved ctx ({ ctx with cfg := cfg }.applyAndRestart ctx.cfg.devices ctx.runningAddresses
      restartActive) := by
  obtain ⟨hsound, hlength⟩ := takeover_sound { ctx with cfg := cfg } ctx.cfg.devices
    ctx.runningAddresses restartActive
  have hmatch : ∀ i ∈ ctx.restartAfterStop, ∀ app' : SenderApp,
      ({ ctx with cfg := cfg }.takeover ctx.cfg.devices ctx.runningAddresses
        restartActive).apps[i]? = some app' → app'.running = true →
      ∃ app : SenderApp, ctx.apps[i]? = some app ∧ app.Continues app' := by
    intro i hmem app' happ' hup
    have hdevices := same (restartPending_eq_true.2 (.inl (List.ne_nil_of_mem hmem)))
    rw [← hdevices] at happ'
    exact @takeover_same { ctx with cfg := cfg } (aligned.trans (by rw [hdevices])) _ _ i app'
      happ' hup
  rw [applyAndRestart]
  generalize ({ ctx with cfg := cfg }.takeover ctx.cfg.devices ctx.runningAddresses
    restartActive) = taken at hsound hlength hmatch ⊢
  have hasked : ∀ i ∈ taken.restartAfterStop, ∀ app' : SenderApp, taken.apps[i]? = some app' →
      app'.running = true → app'.stopRequested = true ∨
        ∃ j ∈ ctx.restartAfterStop, ∃ app : SenderApp, ctx.apps[j]? = some app ∧
          app.Continues app' := by
    intro i hmem app' happ' hup
    rcases hsound.asked i hmem with hold | ⟨-, hstop⟩
    · exact .inr ⟨i, hold, hmatch i hold app' happ' hup⟩
    · exact .inl (hstop app' happ' hup)
  have hgrown : taken.restartAfterStop ≠ [] →
      ctx.restartAfterStop ≠ [] ∨ ctx.wifiRunning = true := by
    intro hne
    by_cases hold : taken.restartAfterStop = ctx.restartAfterStop
    · exact .inl (hold ▸ hne)
    · exact .inr ((hsound.grown hold).elim id wifiRunning_of_runningAddresses)
  obtain ⟨usbApp, restartUsbTarget, husb, hresult⟩ := scheduleRestart_cases
    { ctx with
      cfg := cfg
      apps := taken.apps
      retiredApps := ctx.retiredApps ++ (taken.oldApps.filterMap id).map SenderApp.requestStop
      restartAfterStop := taken.restartAfterStop
      nextObject := taken.nextObject } restartActive
  rcases hresult with ⟨hlist, htarget, heq⟩ | ⟨hpending, heq⟩
  · rw [heq]
    exact
      { aligned := hlength
        apps := hsound.apps
        usb := husb
        activeUsbTarget := rfl
        transport := rfl
        kept := hsound.kept
        grown := hgrown
        switching := .inl ⟨restartPending_eq_false.2 ⟨hlist, htarget⟩, rfl⟩
        asked := hasked
        commands := rfl }
  · rw [heq]
    have hmem : ∀ i, i ∈ taken.restartAfterStop.mergeSort.dedup ↔ i ∈ taken.restartAfterStop :=
      fun i => by rw [List.mem_dedup, List.mem_mergeSort]
    have hnil : taken.restartAfterStop.mergeSort.dedup ≠ [] ↔ taken.restartAfterStop ≠ [] := by
      rw [Ne, Ne, List.eq_nil_iff_forall_not_mem, List.eq_nil_iff_forall_not_mem]
      simp only [hmem]
    exact
      { aligned := hlength
        apps := hsound.apps
        usb := husb
        activeUsbTarget := rfl
        transport := rfl
        kept := fun i hi => (hmem i).2 (hsound.kept i hi)
        grown := fun hne => hgrown (hnil.1 hne)
        switching := .inr ⟨restartPending_eq_true.2 (hpending.imp hnil.2 id), rfl⟩
        asked := fun i hi => hasked i ((hmem i).1 hi)
        commands := rfl }

/-- The save button of the panel: refused, without effect on the senders, or a restart. -/
theorem savePanelSettings_cases {ctx : TrayContext} (hi : Inv ctx) (form : PanelForm)
    (saved : Bool) (same : ctx.restartPending = true → saved = true →
      form.editedDevices ctx.cfg.devices = ctx.cfg.devices) :
    Calmer ctx (ctx.savePanelSettings form saved).1 ∨
      Saved ctx (ctx.savePanelSettings form saved).1 := by
  rw [savePanelSettings]
  split
  · exact .inl (.refl ctx)
  · rename_i port fps bitrateMbps _
    dsimp only
    split
    · exact .inl (.refl ctx)
    · rename_i hsaved
      split
      · exact .inr (saved_applyAndRestart hi.aligned _ _ fun hp =>
          same hp (Bool.not_eq_false _ ▸ hsaved))
      · rename_i hsame
        rw [not_or, not_not] at hsame
        exact .inl (.of_eq rfl (by rw [hsame.1]) rfl rfl rfl rfl rfl)

end SecondDisplay.Switching
