import SecondDisplay.App.OneSession
import SecondDisplay.App.TrayHandlers

/-!
# Connecting at startup (`BeginStartupAutoConnect`, `AdvanceStartupAutoConnect`)

Startup tries the devices over one transport, one after the other, and then falls back to the
other transport once.  Whatever the senders publish and whenever their workers leave, a sender is
started only when no worker runs, and nothing is started any more once a tick has seen the attempt
stream or the active device fail in a way that concerns every device (`startup_run`).
-/

namespace SecondDisplay.StartupConnect

open TrayContext hiding Event step
open Transitions
open OneSession (sessions sessions_eq_zero countP_usb card_active)
open SavedTargets (active mem_active)
open Switching (calmer_startTransportAttempt transport_ne_none)

/-! ### Events -/

/-- What happens while startup connects. -/
inductive Event where
  /-- `AdvanceStartupAutoConnect`. -/
  | advance (outside : Outside)
  /-- `RefreshUsbDevices`. -/
  | refresh (outside : Outside)
  /-- `RememberSuccessfulTransport`. -/
  | remember (outside : Outside)
  /-- The background browse has merged its answers into the cache. -/
  | discovered (records : List DiscoveryRecord)
  /-- A worker publishes its state. -/
  | report (worker : Worker) (report : Report)
  /-- A worker leaves `RunLoop`. -/
  | exit (worker : Worker)

/-- One step. -/
def step (ctx : TrayContext) : Event → Option TrayContext
  | .advance outside => some (ctx.advanceStartupAutoConnect outside)
  | .refresh outside => some (ctx.refreshUsbDevices outside false)
  | .remember outside => some (ctx.rememberSuccessfulTransport outside)
  | .discovered records => some { ctx with discoveryCache := records }
  | .report worker report => ctx.workerStep worker (·.publish report)
  | .exit worker => ctx.workerStep worker SenderApp.finish

/-- A step starts a sender: a worker runs afterwards, and it is not one that ran before. -/
def Launches (ctx ctx' : TrayContext) : Prop :=
  (∃ (i : Nat) (app' : SenderApp), ctx'.apps[i]? = some app' ∧ app'.running = true ∧
      ¬∃ app : SenderApp, ctx.apps[i]? = some app ∧ app.running = true ∧
        app'.object = app.object) ∨
    ∃ app' : SenderApp, ctx'.usbApp = some app' ∧ app'.running = true ∧
      ¬∃ app : SenderApp, ctx.usbApp = some app ∧ app.running = true ∧ app'.object = app.object

/-- A tick sees the attempt stream, or the active device fail globally. -/
def observes (ctx : TrayContext) : Event → Bool
  | .advance _ =>
    ctx.isTransportStreaming ctx.startupConnection.transport ||
      (decide (ctx.startupConnection.transport = .wifi) &&
        !ctx.startupConnection.waitingTransportStop &&
        (ctx.apps[ctx.startupConnection.activeDeviceIndex]?).any globalFailure)
  | _ => false

/-- The attempt moves to another transport. -/
def fallsBack (ctx ctx' : TrayContext) : Bool :=
  decide (ctx'.startupConnection.transport ≠ .none) &&
    decide (ctx'.startupConnection.transport ≠ ctx.startupConnection.transport)

/-! ### Handlers that start nothing -/

/-- What streams is remembered in the settings only. -/
theorem rememberSuccessfulTransport_frame (ctx : TrayContext) (outside : Outside) :
    ctx.rememberSuccessfulTransport outside =
      { ctx with cfg := (ctx.rememberSuccessfulTransport outside).cfg } := by
  have hwifi : ∀ (p : Prop) [Decidable p] (cfg : Config),
      (if p then { ctx with cfg := cfg } else ctx) =
        { ctx with cfg := (if p then { ctx with cfg := cfg } else ctx).cfg } := by
    intro p _ cfg
    split <;> rfl
  rw [rememberSuccessfulTransport]
  split
  · rfl
  · split
    · exact hwifi _ _
    · rfl

/-- The attempt goes on over the same transport with the same device. -/
def SameAttempt (ctx ctx' : TrayContext) : Prop :=
  ctx'.startupConnection.transport = ctx.startupConnection.transport ∧
    ctx'.startupConnection.activeDeviceIndex = ctx.startupConnection.activeDeviceIndex ∧
    ctx'.startupConnection.fallbackUsed = ctx.startupConnection.fallbackUsed

/-- Nothing is started, and the attempt goes on or is over. -/
structure Idles (ctx ctx' : TrayContext) : Prop where
  calmer : Calmer ctx ctx'
  retired : ctx'.retiredApps = ctx.retiredApps
  attempt : ctx'.startupConnection.transport = .none ∨ SameAttempt ctx ctx'

namespace Idles

theorem refl (ctx : TrayContext) : Idles ctx ctx := ⟨.refl ctx, rfl, .inr ⟨rfl, rfl, rfl⟩⟩

theorem trans {a b c : TrayContext} (hab : Idles a b) (hbc : Idles b c) : Idles a c where
  calmer := hab.calmer.trans hbc.calmer
  retired := hbc.retired.trans hab.retired
  attempt := by
    rcases hbc.attempt with hover | ⟨ht, hi, hf⟩
    · exact .inl hover
    · rcases hab.attempt with hover | ⟨ht', hi', hf'⟩
      · exact .inl (ht.trans hover)
      · exact .inr ⟨ht.trans ht', hi.trans hi', hf.trans hf'⟩

theorem ite {p : Prop} [Decidable p] {a b c : TrayContext} (hb : Idles a b) (hc : Idles a c) :
    Idles a (if p then b else c) := by
  split
  · exact hb
  · exact hc

/-- What starts nothing launches nothing. -/
theorem not_launches {ctx ctx' : TrayContext} (h : Idles ctx ctx') : ¬Launches ctx ctx' := by
  rintro (⟨i, app', happ', hup, hnew⟩ | ⟨app', happ', hup, hnew⟩)
  · obtain ⟨app, happ, hcont⟩ := h.calmer.apps i app' happ' hup
    exact hnew ⟨app, happ, hcont.running, hcont.object⟩
  · obtain ⟨app, happ, hcont⟩ := h.calmer.usb app' happ' hup
    exact hnew ⟨app, happ, hcont.running, hcont.object⟩

theorem not_fallsBack {ctx ctx' : TrayContext} (h : Idles ctx ctx') :
    fallsBack ctx ctx' = false := by
  rcases h.attempt with hover | ⟨htransport, -⟩
  · simp [fallsBack, hover]
  · simp [fallsBack, htransport]

/-- The attempt is given up. -/
theorem finished {ctx ctx' : TrayContext} (hcalm : Calmer ctx ctx')
    (hretired : ctx'.retiredApps = ctx.retiredApps) : Idles ctx (ctx'.setTransport .none) :=
  ⟨hcalm.trans (Calmer.setTransport_none ctx'), hretired, .inl rfl⟩

theorem rememberSuccessfulTransport (ctx : TrayContext) (outside : Outside) :
    Idles ctx (ctx.rememberSuccessfulTransport outside) := by
  have hcalm := Calmer.rememberSuccessfulTransport ctx outside
  rw [rememberSuccessfulTransport_frame] at hcalm ⊢
  exact ⟨hcalm, rfl, .inr ⟨rfl, rfl, rfl⟩⟩

theorem startupStreaming (ctx : TrayContext) (outside : Outside) :
    Idles ctx (ctx.startupStreaming outside) := by
  refine ⟨Calmer.startupStreaming ctx outside, ?_, .inl rfl⟩
  rw [TrayContext.startupStreaming, rememberSuccessfulTransport_frame]
  dsimp only [setTransport]
  split <;> rfl

theorem requestStopTransportAttempt (ctx : TrayContext) (transport : ConnectionTransport) :
    Idles ctx (ctx.requestStopTransportAttempt transport) := by
  refine ⟨Calmer.requestStopTransportAttempt ctx transport, ?_, .inr ?_⟩
  · cases transport <;> rfl
  · cases transport <;> exact ⟨rfl, rfl, rfl⟩

/-- A device is given up: the coordinator is told, and its sender is asked to stop. -/
theorem giveUp (ctx : TrayContext) (failureClass : DeviceFailureClass) (index : Nat) :
    Idles ctx ((ctx.reportFailure failureClass).requestStopApp index) :=
  ⟨(Calmer.reportFailure ctx failureClass).trans (Calmer.requestStopApp _ index), rfl,
    .inr ⟨rfl, rfl, rfl⟩⟩

theorem setWaitingNext (ctx : TrayContext) (waiting : Bool) :
    Idles ctx (ctx.setWaitingNext waiting) :=
  ⟨Calmer.setWaitingNext ctx waiting, rfl, .inr ⟨rfl, rfl, rfl⟩⟩

theorem setWaitingTransportStop (ctx : TrayContext) (waiting : Bool) :
    Idles ctx (ctx.setWaitingTransportStop waiting) :=
  ⟨Calmer.setWaitingTransportStop ctx waiting, rfl, .inr ⟨rfl, rfl, rfl⟩⟩

end Idles

/-! ### One tick of the attempt -/

/-- `StartWifiCandidate` does nothing, or starts the candidate and makes it the active device. -/
theorem startWifiCandidate_starts (ctx : TrayContext) (outside : Outside) (position : Nat) :
    ctx.startWifiCandidate outside position = (ctx, false) ∨
      ∃ attempt target, attempt.transport = ctx.startupConnection.transport ∧
        attempt.fallbackUsed = ctx.startupConnection.fallbackUsed ∧
        ctx.startWifiCandidate outside position =
          ({ ctx with startupConnection := attempt }.startApp attempt.activeDeviceIndex target,
            true) := by
  rw [startWifiCandidate]
  split
  · exact .inl rfl
  · rename_i index _
    dsimp only
    split
    · exact .inl rfl
    · split
      · exact .inl rfl
      · exact .inr ⟨{ ctx.startupConnection with
          wifiPosition := position
          activeDeviceIndex := index
          waitingNext := false
          started := outside.now }, _, rfl, rfl, rfl⟩

/-- What a tick does with the active Wi-Fi device: it starts nothing, or the device has been given
up, its worker has left, and the next candidate starts. -/
theorem advanceWifiAttempt_starts (ctx : TrayContext) (outside : Outside) (active : SenderApp) :
    (∃ ready returned, ctx.advanceWifiAttempt outside active = (ready, returned) ∧
      Idles ctx ready ∧ (globalFailure active = true →
        returned = true ∧ ready.startupConnection.transport = .none)) ∨
    (globalFailure active = false ∧ active.running = false ∧ ∃ attempt target,
      attempt.transport = ctx.startupConnection.transport ∧
        attempt.fallbackUsed = ctx.startupConnection.fallbackUsed ∧
        ctx.advanceWifiAttempt outside active =
          ({ ctx with startupConnection := attempt }.startApp attempt.activeDeviceIndex target,
            true)) := by
  simp only [advanceWifiAttempt]
  cases hglobal : globalFailure active with
  | true =>
    refine .inl ⟨_, _, rfl, ?_, fun _ => ⟨rfl, rfl⟩⟩
    exact Idles.finished (Idles.giveUp ctx .global _).calmer rfl
  | false =>
    cases hnext : ctx.startupConnection.waitingNext with
    | true =>
      cases hrunning : active.running with
      | true => exact .inl ⟨_, _, rfl, .refl ctx, by rintro ⟨⟩⟩
      | false =>
        rcases startWifiCandidate_starts ctx outside (ctx.startupConnection.wifiPosition + 1) with
          heq | ⟨attempt, target, htransport, hfallback, heq⟩
        · rw [heq]
          exact .inl ⟨_, _, rfl, Idles.setWaitingNext ctx false, by rintro ⟨⟩⟩
        · rw [heq]
          exact .inr ⟨rfl, rfl, attempt, target, htransport, hfallback, rfl⟩
    | false =>
      refine .inl ?_
      simp only [Bool.false_eq_true, if_false]
      split
      · split
        · exact ⟨_, _, rfl, (Idles.giveUp ctx .device _).trans (Idles.setWaitingNext _ true),
            by rintro ⟨⟩⟩
        · exact ⟨_, _, rfl, Idles.giveUp ctx .device _, by rintro ⟨⟩⟩
      · exact ⟨_, _, rfl, .refl ctx, by rintro ⟨⟩⟩

/-- A tick of an attempt that neither streams nor is torn down. -/
theorem startupTrying_starts (ctx : TrayContext) (outside : Outside) :
    (Idles ctx (ctx.startupTrying outside) ∧
      (ctx.startupConnection.transport = .wifi →
        (ctx.apps[ctx.startupConnection.activeDeviceIndex]?).any globalFailure = true →
          (ctx.startupTrying outside).startupConnection.transport = .none)) ∨
    (ctx.startupConnection.transport = .wifi ∧ ∃ active attempt target,
      ctx.apps[ctx.startupConnection.activeDeviceIndex]? = some active ∧
        globalFailure active = false ∧ active.running = false ∧ attempt.transport = .wifi ∧
        attempt.fallbackUsed = ctx.startupConnection.fallbackUsed ∧
        ctx.startupTrying outside =
          { ctx with startupConnection := attempt }.startApp attempt.activeDeviceIndex target) := by
  have htimeout : ∀ ready : TrayContext, Idles ctx ready →
      Idles ctx ((ready.requestStopTransportAttempt ready.startupConnection.transport)
        |>.setWaitingTransportStop true) := fun ready h =>
    (h.trans (Idles.requestStopTransportAttempt ready _)).trans
      (Idles.setWaitingTransportStop _ true)
  rw [startupTrying]
  split
  rename_i ready returned hattempt
  split at hattempt
  · rename_i active htransport happ
    rcases advanceWifiAttempt_starts ctx outside active with
      ⟨ready', returned', heq, hidle, hglobal⟩ |
        ⟨hlocal, hdown, attempt, target, hkept, hfallback, heq⟩
    · rw [heq] at hattempt
      cases hattempt
      refine .inl ⟨.ite hidle (.ite hidle (htimeout _ hidle)), fun _ hfailed => ?_⟩
      rw [happ, Option.any_some] at hfailed
      obtain ⟨hreturned, hover⟩ := hglobal hfailed
      rw [if_pos hreturned]
      exact hover
    · rw [heq] at hattempt
      cases hattempt
      exact .inr ⟨htransport, active, attempt, target, happ, hlocal, hdown,
        hkept.trans htransport, hfallback, rfl⟩
  · rename_i hnot
    cases hattempt
    refine .inl ⟨.ite (.refl ctx) (.ite (.refl ctx) (htimeout _ (.refl ctx))), fun hwifi hany => ?_⟩
    obtain ⟨active, happ, -⟩ := (Option.any_eq_true _ _).1 hany
    exact absurd happ (hnot active hwifi)

theorem retired_startWifiSession (ctx : TrayContext) :
    ctx.startWifiSession.1.retiredApps = ctx.retiredApps := by
  rw [startWifiSession]
  split
  · rfl
  · dsimp only
    split
    · rfl
    · split <;> rfl

theorem retired_startTransportAttempt (ctx : TrayContext) (transport : ConnectionTransport) :
    (ctx.startTransportAttempt transport).1.retiredApps = ctx.retiredApps := by
  cases transport with
  | none => rfl
  | wifi => exact retired_startWifiSession ctx
  | usb =>
    rw [startTransportAttempt]
    split <;> rfl

theorem retired_startTransportAttempt_eq {ctx ctx' : TrayContext}
    {transport : ConnectionTransport} {started : Bool}
    (h : ctx.startTransportAttempt transport = (ctx', started)) :
    ctx'.retiredApps = ctx.retiredApps := by
  rw [← retired_startTransportAttempt ctx transport, h]

/-- A tick while a failed transport is torn down: nothing starts, or its senders are down and the
fallback starts. -/
theorem startupTeardown_starts (ctx : TrayContext) (outside : Outside) :
    Idles ctx (ctx.startupTeardown outside) ∨
      (ctx.transportDown ctx.startupConnection.transport = true ∧
        ctx.startupConnection.fallbackUsed = false ∧ ∃ ready ready',
          Calmer ctx ready ∧ ready.retiredApps = ctx.retiredApps ∧
          ready.startTransportAttempt (otherTransport ctx.startupConnection.transport) =
            (ready', true) ∧
          ctx.startupTeardown outside = ready'.attemptStarted outside
            (otherTransport ctx.startupConnection.transport) true) := by
  have hstopped : Calmer ctx ((ctx.stopTransportAttempt ctx.startupConnection.transport)
      |>.setWaitingTransportStop false) :=
    (Calmer.stopTransportAttempt ctx _).trans (Calmer.setWaitingTransportStop _ false)
  have hretired : (ctx.stopTransportAttempt ctx.startupConnection.transport).retiredApps =
      ctx.retiredApps := by
    cases ctx.startupConnection.transport <;> rfl
  have hused : (ctx.stopTransportAttempt
      ctx.startupConnection.transport).startupConnection.fallbackUsed =
        ctx.startupConnection.fallbackUsed := by
    cases ctx.startupConnection.transport <;> rfl
  simp only [startupTeardown]
  cases hdown : ctx.transportDown ctx.startupConnection.transport with
  | false => exact .inl (.refl ctx)
  | true =>
    simp only [Bool.not_true, Bool.false_eq_true, if_false]
    split
    · exact .inl (Idles.finished hstopped hretired)
    · rename_i hfree
      split
      · rename_i ready' hstart
        refine .inr ⟨trivial, ?_, _, ready', hstopped, hretired, hstart, rfl⟩
        rw [← hused]
        exact Bool.not_eq_true _ ▸ hfree
      · rename_i ready' hstart
        exact .inl (Idles.finished (hstopped.trans (calmer_startTransportAttempt hstart))
          ((retired_startTransportAttempt_eq hstart).trans hretired))

/-- **What a tick of the attempt does.**  It starts nothing; or the active device is down and the
next candidate starts; or the failed transport is down and the fallback starts. -/
theorem advance_cases (ctx : TrayContext) (outside : Outside) :
    (Idles ctx (ctx.advanceStartupAutoConnect outside) ∧
      (observes ctx (.advance outside) = true →
        (ctx.advanceStartupAutoConnect outside).startupConnection.transport = .none)) ∨
    (observes ctx (.advance outside) = false ∧ ctx.startupConnection.transport = .wifi ∧
      ∃ active attempt target,
        ctx.apps[ctx.startupConnection.activeDeviceIndex]? = some active ∧
          active.running = false ∧ attempt.transport = .wifi ∧
          attempt.fallbackUsed = ctx.startupConnection.fallbackUsed ∧
          ctx.advanceStartupAutoConnect outside =
            { ctx with startupConnection := attempt }.startApp attempt.activeDeviceIndex target) ∨
    (observes ctx (.advance outside) = false ∧ ctx.startupConnection.transport ≠ .none ∧
      ctx.transportDown ctx.startupConnection.transport = true ∧
      ctx.startupConnection.fallbackUsed = false ∧ ∃ ready ready',
        Calmer ctx ready ∧ ready.retiredApps = ctx.retiredApps ∧
        ready.startTransportAttempt (otherTransport ctx.startupConnection.transport) =
          (ready', true) ∧
        ctx.advanceStartupAutoConnect outside = ready'.attemptStarted outside
          (otherTransport ctx.startupConnection.transport) true) := by
  rw [advanceStartupAutoConnect]
  split
  · rename_i hnone
    exact .inl ⟨.refl ctx, fun _ => hnone⟩
  · rename_i htransport
    split
    · exact .inl ⟨Idles.startupStreaming ctx outside, fun _ => rfl⟩
    · rename_i hquiet
      rw [Bool.not_eq_true] at hquiet
      split
      · rename_i hteardown
        have hnot : observes ctx (.advance outside) = false := by
          simp [observes, hquiet, hteardown]
        rcases startupTeardown_starts ctx outside with hidle |
          ⟨hdown, hunused, ready, ready', hcalm, hretired, hstart, heq⟩
        · refine .inl ⟨hidle, fun hobs => ?_⟩
          rw [hnot] at hobs
          cases hobs
        · exact .inr (.inr ⟨hnot, htransport, hdown, hunused, ready, ready', hcalm, hretired,
            hstart, heq⟩)
      · rcases startupTrying_starts ctx outside with ⟨hidle, hglobal⟩ |
          ⟨hwifi, active, attempt, target, happ, hlocal, hdown, hkept, hfallback, heq⟩
        · refine .inl ⟨hidle, fun hobs => ?_⟩
          simp only [observes, hquiet, Bool.false_or, Bool.and_eq_true, decide_eq_true_eq] at hobs
          exact hglobal hobs.1.1 hobs.2
        · refine .inr (.inl
            ⟨?_, hwifi, active, attempt, target, happ, hdown, hkept, hfallback, heq⟩)
          simp [observes, hquiet, happ, hlocal]

/-! ### One sender at a time -/

/-- At most one worker runs: the active device over Wi-Fi, or the cable session. -/
structure Alone (ctx : TrayContext) : Prop where
  retired : ∀ app ∈ ctx.retiredApps, app.running = false
  one : sessions ctx ≤ 1
  wifi : ctx.startupConnection.transport = .wifi → ctx.usbRunning = false ∧
    ∀ i, ctx.appRunning i = true → i = ctx.startupConnection.activeDeviceIndex
  usb : ctx.startupConnection.transport = .usb → ctx.wifiRunning = false

theorem appRunning_calmer {ctx ctx' : TrayContext} (h : Calmer ctx ctx') {i : Nat}
    (hup : ctx'.appRunning i = true) : ctx.appRunning i = true := by
  obtain ⟨app', happ', hup'⟩ := (Option.any_eq_true _ _).1 hup
  obtain ⟨app, happ, hcont⟩ := h.apps i app' happ' hup'
  exact (Option.any_eq_true _ _).2 ⟨app, happ, hcont.running⟩

/-- Where nothing is started, no session is added. -/
theorem sessions_calmer {ctx ctx' : TrayContext} (h : Calmer ctx ctx')
    (hretired : ctx'.retiredApps = ctx.retiredApps) : sessions ctx' ≤ sessions ctx := by
  have hactive : (active ctx').card ≤ (active ctx).card :=
    Finset.card_le_card fun i hi => mem_active.2 (appRunning_calmer h (mem_active.1 hi))
  have husb : (if ctx'.usbApp.any (·.running) then 1 else 0) ≤
      if ctx.usbApp.any (·.running) then 1 else 0 := by
    cases hbefore : ctx.usbRunning with
    | false =>
      rw [show ctx'.usbApp.any (·.running) = false from h.usbRunning hbefore]
      exact Nat.zero_le _
    | true =>
      rw [show ctx.usbApp.any (·.running) = true from hbefore]
      split
      · exact Nat.le_refl 1
      · exact Nat.zero_le 1
  rw [sessions, sessions, hretired, countP_usb, countP_usb, ← card_active, ← card_active]
  omega

theorem alone_idles {ctx ctx' : TrayContext} (h : Alone ctx) (hidle : Idles ctx ctx') :
    Alone ctx' where
  retired := hidle.retired ▸ h.retired
  one := (sessions_calmer hidle.calmer hidle.retired).trans h.one
  wifi ht := by
    rcases hidle.attempt with hover | ⟨htransport, hindex, -⟩
    · rw [hover] at ht
      cases ht
    · obtain ⟨husb, happs⟩ := h.wifi (htransport.symm.trans ht)
      refine ⟨hidle.calmer.usbRunning husb, fun i hup => ?_⟩
      rw [hindex]
      exact happs i (appRunning_calmer hidle.calmer hup)
  usb ht := by
    rcases hidle.attempt with hover | ⟨htransport, -⟩
    · rw [hover] at ht
      cases ht
    · exact hidle.calmer.wifiRunning (h.usb (htransport.symm.trans ht))

/-- A device starts where no worker runs, and is the active one. -/
theorem alone_startApp {ctx : TrayContext} (h : sessions ctx = 0) {index : Nat} {target : Bytes}
    {attempt : StartupConnectionAttempt} (hindex : attempt.activeDeviceIndex = index)
    (hnotusb : attempt.transport ≠ .usb) :
    Alone { ctx.startApp index target with startupConnection := attempt } := by
  obtain ⟨husb, hwifi, hretired⟩ := sessions_eq_zero.1 h
  have hcount := OneSession.countP_startApp (appRunning_of_not_wifiRunning hwifi index) target
  have hzero : ctx.apps.countP (·.running) = 0 := by
    rw [sessions] at h
    omega
  refine ⟨hretired, ?_, fun _ => ⟨husb, fun i hup => ?_⟩, fun ht => absurd ht hnotusb⟩
  · rw [sessions] at h ⊢
    dsimp only [startApp] at hcount ⊢
    split at hcount <;> omega
  · change (ctx.startApp index target).appRunning i = true at hup
    rw [hindex]
    by_cases hlt : index < ctx.apps.length
    · rw [appRunning_startApp _ _ _ _ hlt, appRunning_of_not_wifiRunning hwifi i, Bool.or_false,
        decide_eq_true_eq] at hup
      exact hup.symm
    · rw [startApp, List.modify_eq_self (Nat.not_lt.1 hlt)] at hup
      rw [@appRunning_of_not_wifiRunning ctx hwifi i] at hup
      cases hup

/-- The cable session starts where no worker runs. -/
theorem alone_startUsbSession {ctx : TrayContext} (h : sessions ctx = 0) (target : Bytes)
    {attempt : StartupConnectionAttempt} (hnotwifi : attempt.transport ≠ .wifi) :
    Alone { ctx.startUsbSession target with startupConnection := attempt } := by
  obtain ⟨-, -, hretired⟩ := sessions_eq_zero.1 h
  have hstopped : (ctx.apps.map SenderApp.stop).countP (·.running) = 0 := by
    rw [List.countP_map, List.countP_eq_zero]
    exact fun app _ => Bool.false_ne_true
  have hdown : ctx.retiredApps.countP (·.running) = 0 := by
    rw [List.countP_eq_zero]
    exact fun app hmem => by rw [hretired app hmem]; exact Bool.false_ne_true
  refine ⟨hretired, ?_, fun ht => absurd ht hnotwifi, fun _ => ?_⟩
  · rw [sessions, countP_usb]
    change (if _ then 1 else 0) + (ctx.apps.map SenderApp.stop).countP _ +
      ctx.retiredApps.countP _ ≤ 1
    rw [hstopped, hdown]
    split
    · exact Nat.le_refl 1
    · exact Nat.zero_le 1
  · rw [wifiRunning, List.any_eq_false]
    intro app hmem
    obtain ⟨old, -, rfl⟩ := List.mem_map.1 hmem
    exact Bool.false_ne_true

/-- `StartTransportAttempt` where no worker runs. -/
theorem startTransportAttempt_starts {ready ready' : TrayContext}
    {transport : ConnectionTransport} {started : Bool} (h : sessions ready = 0)
    (hstart : ready.startTransportAttempt transport = (ready', started)) (outside : Outside)
    (fallback : Bool) :
    (started = false ∧ Calmer ready ready' ∧ ready'.retiredApps = ready.retiredApps) ∨
      (started = true ∧ Alone (ready'.attemptStarted outside transport fallback)) := by
  have hretired := retired_startTransportAttempt_eq hstart
  cases started with
  | false => exact .inl ⟨rfl, calmer_startTransportAttempt hstart, hretired⟩
  | true =>
    refine .inr ⟨rfl, ?_⟩
    cases transport with
    | none => cases hstart
    | usb =>
      rw [startTransportAttempt] at hstart
      split at hstart
      · cases hstart
      · cases hstart
        exact alone_startUsbSession h _ (by rintro ⟨⟩)
    | wifi =>
      rw [startTransportAttempt, startWifiSession] at hstart
      split at hstart
      · cases hstart
      · dsimp only at hstart
        split at hstart
        · cases hstart
        · split at hstart
          · cases hstart
          · cases hstart
            refine alone_startApp (Nat.le_zero.1 ?_) rfl (by rintro ⟨⟩)
            have hstopped := sessions_calmer (Calmer.stopUsbSession ready) rfl
            exact hstopped.trans h.le

/-! ### Watching a run -/

/-- The tray with its history: the fallbacks taken so far, and whether a tick has seen the attempt
succeed or fail globally. -/
structure Watch where
  ctx : TrayContext
  fallbacks : Nat
  finished : Bool

/-- One step, watched. -/
def watchStep (w : Watch) (event : Event) : Option Watch :=
  (step w.ctx event).map fun ctx =>
    { ctx := ctx
      fallbacks := w.fallbacks + (fallsBack w.ctx ctx).toNat
      finished := w.finished || observes w.ctx event }

/-- `BeginStartupAutoConnect` could not start its first transport and starts the other one. -/
def beginFallsBack (ctx : TrayContext) (outside : Outside) : Bool :=
  let begun := (ctx.beginStartupAutoConnect outside).startupConnection.transport
  decide (begun ≠ .none) &&
    decide (begun ≠ (ctx.refreshUsbDevices outside true).preferredTransport)

/-- The tray after `BeginStartupAutoConnect`. -/
def begun (ctx : TrayContext) (outside : Outside) : Watch where
  ctx := ctx.beginStartupAutoConnect outside
  fallbacks := (beginFallsBack ctx outside).toNat
  finished := false

structure Inv (w : Watch) : Prop where
  alone : Alone w.ctx
  finished : w.finished = true → w.ctx.startupConnection.transport = .none
  fallbacks : w.fallbacks ≤ 1
  unused : w.ctx.startupConnection.transport ≠ .none →
    w.ctx.startupConnection.fallbackUsed = false → w.fallbacks = 0

theorem inv_begun {ctx : TrayContext} (h : sessions ctx = 0) (outside : Outside) :
    Inv (begun ctx outside) := by
  have hrefreshed := Calmer.refreshUsbDevices ctx outside true
  have hretired : (ctx.refreshUsbDevices outside true).retiredApps = ctx.retiredApps := by
    rw [refreshUsbDevices]
    split <;> rfl
  have hcleared : sessions { ctx.refreshUsbDevices outside true with startupConnection := {} } =
      0 := by
    have hle := sessions_calmer hrefreshed hretired
    rw [h] at hle
    exact Nat.le_zero.1 hle
  have hpreferred : TrayContext.preferredTransport
      { ctx.refreshUsbDevices outside true with startupConnection := {} } =
        (ctx.refreshUsbDevices outside true).preferredTransport := rfl
  suffices hcases : Alone (ctx.beginStartupAutoConnect outside) ∧
      ((ctx.beginStartupAutoConnect outside).startupConnection.transport = .none ∨
        (ctx.beginStartupAutoConnect outside).startupConnection.transport =
          (ctx.refreshUsbDevices outside true).preferredTransport ∨
        (ctx.beginStartupAutoConnect outside).startupConnection.fallbackUsed = true) by
    obtain ⟨halone, hattempt⟩ := hcases
    refine ⟨halone, by rintro ⟨⟩, Bool.toNat_le _, fun hne hunused => ?_⟩
    rcases hattempt with hnone | hsame | hused
    · exact absurd hnone hne
    · simp [begun, beginFallsBack, hsame]
    · exact absurd (hunused.symm.trans hused) Bool.false_ne_true
  rw [← hpreferred]
  simp only [beginStartupAutoConnect]
  generalize hc : { ctx.refreshUsbDevices outside true with startupConnection := {} } = cleared
    at hcleared ⊢
  have hidle : cleared.startupConnection.transport = .none := by
    rw [← hc]
  split
  · rename_i ready hfirst
    rcases startTransportAttempt_starts hcleared hfirst outside false with ⟨hno, -⟩ | ⟨-, halone⟩
    · cases hno
    · exact ⟨halone, .inr (.inl rfl)⟩
  · rename_i ready hfirst
    rcases startTransportAttempt_starts hcleared hfirst outside false with
      ⟨-, hcalm, hsame⟩ | ⟨hno, -⟩
    · have hready : sessions ready = 0 := by
        have hle := sessions_calmer hcalm hsame
        rw [hcleared] at hle
        exact Nat.le_zero.1 hle
      split
      · rename_i last hsecond
        rcases startTransportAttempt_starts hready hsecond outside true with
          ⟨hno, -⟩ | ⟨-, halone⟩
        · cases hno
        · exact ⟨halone, .inr (.inr rfl)⟩
      · rename_i last hsecond
        rcases startTransportAttempt_starts hready hsecond outside true with
          ⟨-, hcalm', hsame'⟩ | ⟨hno, -⟩
        · have hboth := hcalm.trans hcalm'
          have hnone : last.startupConnection.transport = .none := by
            rcases hboth.transport with ht | ht
            · exact ht.trans hidle
            · exact ht
          have hlast := sessions_calmer hcalm' hsame'
          rw [hready, Nat.le_zero] at hlast
          obtain ⟨-, -, hdown⟩ := sessions_eq_zero.1 hlast
          refine ⟨⟨hdown, hlast ▸ Nat.zero_le 1, fun ht => ?_, fun ht => ?_⟩, .inl hnone⟩
          · rw [hnone] at ht
            cases ht
          · rw [hnone] at ht
            cases ht
        · cases hno
    · cases hno

/-- A worker reports or leaves; no retired worker is there to do so. -/
theorem idles_workerStep {ctx ctx' : TrayContext} (halone : Alone ctx) {worker : Worker}
    {f : SenderApp → SenderApp} (hf : SenderApp.Tame f)
    (h : ctx.workerStep worker f = some ctx') : Idles ctx ctx' := by
  have hcalm := Calmer.workerStep hf h
  rw [TrayContext.workerStep, Option.ite_none_right_eq_some, Option.some.injEq] at h
  obtain ⟨hup, rfl⟩ := h
  cases worker with
  | wifi index => exact ⟨hcalm, rfl, .inr ⟨rfl, rfl, rfl⟩⟩
  | usb => exact ⟨hcalm, rfl, .inr ⟨rfl, rfl, rfl⟩⟩
  | retired index =>
    obtain ⟨app, happ, hrunning⟩ := (Option.any_eq_true _ _).1 hup
    rw [halone.retired app (List.mem_of_getElem? happ)] at hrunning
    cases hrunning

/-- Every event starts nothing, or starts a sender where no worker runs and no tick has seen the
attempt succeed or fail globally. -/
theorem step_cases {ctx ctx' : TrayContext} {event : Event} (h : Alone ctx)
    (hstep : step ctx event = some ctx') :
    (Idles ctx ctx' ∧ (observes ctx event = true → ctx'.startupConnection.transport = .none)) ∨
      (observes ctx event = false ∧ sessions ctx = 0 ∧ ctx.startupConnection.transport ≠ .none ∧
        Alone ctx' ∧
        ((fallsBack ctx ctx' = false ∧
            ctx'.startupConnection.fallbackUsed = ctx.startupConnection.fallbackUsed) ∨
          (ctx.startupConnection.fallbackUsed = false ∧
            ctx'.startupConnection.fallbackUsed = true))) := by
  cases event with
  | advance outside =>
    cases hstep
    rcases advance_cases ctx outside with hidle |
      ⟨hobs, hwifi, active, attempt, target, happ, hdown, hkept, hfallback, heq⟩ |
      ⟨hobs, htransport, hdown, hunused, ready, ready', hcalm, hretired, hstart, heq⟩
    · exact .inl hidle
    · -- Only the active device may run, and it does not.
      obtain ⟨husb, honly⟩ := h.wifi hwifi
      have hnone : sessions ctx = 0 := by
        refine sessions_eq_zero.2 ⟨husb, ?_, h.retired⟩
        rw [wifiRunning, List.any_eq_false]
        intro app hmem hup
        obtain ⟨i, hi⟩ := List.mem_iff_getElem?.1 hmem
        have hindex := honly i (by rw [appRunning, hi]; exact hup)
        rw [hindex, happ, Option.some.injEq] at hi
        rw [← hi, hdown] at hup
        cases hup
      rw [heq]
      refine .inr ⟨hobs, hnone, by rw [hwifi]; rintro ⟨⟩, ?_, .inl ⟨?_, hfallback⟩⟩
      · exact @alone_startApp { ctx with startupConnection := attempt } hnone _ target attempt rfl
          (by rw [hkept]; rintro ⟨⟩)
      · simp [fallsBack, startApp, hkept, hwifi]
    · -- The failed transport is down, and the other one was not in use.
      have hnone : sessions ctx = 0 := by
        cases ht : ctx.startupConnection.transport with
        | none => exact absurd ht htransport
        | wifi =>
          rw [ht, show ctx.transportDown .wifi = !ctx.wifiRunning from rfl,
            Bool.not_eq_true'] at hdown
          exact sessions_eq_zero.2 ⟨(h.wifi ht).1, hdown, h.retired⟩
        | usb =>
          rw [ht, show ctx.transportDown .usb = !ctx.usbRunning from rfl,
            Bool.not_eq_true'] at hdown
          exact sessions_eq_zero.2 ⟨hdown, h.usb ht, h.retired⟩
      have hready : sessions ready = 0 := by
        have hle := sessions_calmer hcalm hretired
        rw [hnone] at hle
        exact Nat.le_zero.1 hle
      rw [heq]
      rcases startTransportAttempt_starts hready hstart outside true with ⟨hno, -⟩ | ⟨-, halone⟩
      · cases hno
      · exact .inr ⟨hobs, hnone, htransport, halone, .inr ⟨hunused, rfl⟩⟩
  | refresh outside =>
    cases hstep
    refine .inl ⟨⟨Calmer.refreshUsbDevices ctx outside false, ?_, .inr ?_⟩, by rintro ⟨⟩⟩
    · rw [refreshUsbDevices]
      split <;> rfl
    · rw [refreshUsbDevices]
      split <;> exact ⟨rfl, rfl, rfl⟩
  | remember outside =>
    cases hstep
    exact .inl ⟨Idles.rememberSuccessfulTransport ctx outside, by rintro ⟨⟩⟩
  | discovered records =>
    cases hstep
    exact .inl ⟨⟨.of_eq rfl rfl rfl rfl rfl rfl rfl, rfl, .inr ⟨rfl, rfl, rfl⟩⟩, by rintro ⟨⟩⟩
  | report worker report =>
    exact .inl ⟨idles_workerStep h (SenderApp.tame_publish report) hstep, by rintro ⟨⟩⟩
  | exit worker => exact .inl ⟨idles_workerStep h SenderApp.tame_finish hstep, by rintro ⟨⟩⟩

/-- **Every step keeps the invariant.** -/
theorem inv_step {w w' : Watch} {event : Event} (h : Inv w)
    (hstep : watchStep w event = some w') : Inv w' := by
  obtain ⟨ctx', hctx, rfl⟩ := Option.map_eq_some_iff.1 hstep
  rcases step_cases h.alone hctx with ⟨hidle, hobs⟩ | ⟨hobs, -, htransport, halone, hfallback⟩
  · refine ⟨alone_idles h.alone hidle, fun hover => ?_, ?_, fun hne hunused => ?_⟩
    · rw [Bool.or_eq_true] at hover
      rcases hover with hover | hsaw
      · rcases hidle.attempt with hnone | ⟨hsame, -⟩
        · exact hnone
        · exact hsame.trans (h.finished hover)
      · exact hobs hsaw
    · dsimp only
      rw [hidle.not_fallsBack]
      exact h.fallbacks
    · dsimp only at hne hunused ⊢
      rw [hidle.not_fallsBack]
      rcases hidle.attempt with hnone | ⟨hsame, -, hused⟩
      · exact absurd hnone hne
      · exact h.unused (hsame ▸ hne) (hused ▸ hunused)
  · refine ⟨halone, fun hover => ?_, ?_, fun hne hunused => ?_⟩
    · rw [hobs, Bool.or_false] at hover
      exact absurd (h.finished hover) htransport
    · dsimp only
      rcases hfallback with ⟨hsame, -⟩ | ⟨hfree, -⟩
      · rw [hsame]
        exact h.fallbacks
      · rw [h.unused htransport hfree]
        exact (Nat.zero_add _).le.trans (Bool.toNat_le _)
    · dsimp only at hunused ⊢
      rcases hfallback with ⟨hsame, hused⟩ | ⟨-, hused⟩
      · rw [hsame]
        exact h.unused htransport (hused ▸ hunused)
      · exact absurd (hunused.symm.trans hused) Bool.false_ne_true

/-- **Connecting at startup.**  After `BeginStartupAutoConnect` where no worker runs, every run of
the attempt has at most one session and takes the fallback at most once.  A step that starts a
sender finds no worker running, and comes before every tick that sees the attempt stream or the
active device fail globally. -/
theorem startup_run {ctx : TrayContext} (h : sessions ctx = 0) (outside : Outside)
    {events : List Event} {w : Watch}
    (hrun : run watchStep (begun ctx outside) events = some w) :
    sessions w.ctx ≤ 1 ∧ w.fallbacks ≤ 1 ∧
      ∀ event ctx', step w.ctx event = some ctx' → Launches w.ctx ctx' →
        sessions w.ctx = 0 ∧ w.finished = false ∧ observes w.ctx event = false := by
  have hinv : Inv w := run_invariant (P := Inv) (fun _ _ _ h hstep => inv_step h hstep)
    (inv_begun h outside) hrun
  refine ⟨hinv.alone.one, hinv.fallbacks, fun event ctx' hstep hlaunch => ?_⟩
  rcases step_cases hinv.alone hstep with ⟨hidle, -⟩ | ⟨hobs, hnone, htransport, -⟩
  · exact absurd hlaunch hidle.not_launches
  · refine ⟨hnone, ?_, hobs⟩
    rw [← Bool.not_eq_true]
    exact fun hover => htransport (hinv.finished hover)

/-- Two devices and no cable. -/
def twoEntries : TrayContext :=
  fresh { devices := [{ lastIpv4 := ascii "10.0.0.1" }, { lastIpv4 := ascii "10.0.0.2" }] }

/-- The first device is given up after eight seconds and its worker leaves: the next tick starts
the second device, where no worker runs. -/
theorem startup_run_failover :
    ∃ w, run watchStep (begun twoEntries ⟨0, 0, []⟩) [.advance ⟨8000, 0, []⟩, .exit (.wifi 0)] =
        some w ∧
      Launches w.ctx (w.ctx.advanceStartupAutoConnect ⟨8250, 0, []⟩) ∧ sessions w.ctx = 0 := by
  have hlaunch : ∀ w, run watchStep (begun twoEntries ⟨0, 0, []⟩)
      [.advance ⟨8000, 0, []⟩, .exit (.wifi 0)] = some w →
        Launches w.ctx (w.ctx.advanceStartupAutoConnect ⟨8250, 0, []⟩) := by
    rintro _ ⟨⟩
    refine .inl ⟨1, _, by rfl, by rfl, ?_⟩
    rintro ⟨app, happ, hup, -⟩
    cases happ
    cases hup
  refine ⟨_, by rfl, hlaunch _ (by rfl), ?_⟩
  exact ((@startup_run twoEntries (by decide) ⟨0, 0, []⟩
    [.advance ⟨8000, 0, []⟩, .exit (.wifi 0)] _ (by rfl)).2.2 (.advance ⟨8250, 0, []⟩) _ rfl
      (hlaunch _ (by rfl))).1

end SecondDisplay.StartupConnect
