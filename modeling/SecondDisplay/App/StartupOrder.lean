import SecondDisplay.App.StartupConnect
import Mathlib.Data.List.TakeWhile

/-!
# The order of startup (`StartWifiSession`, `StartWifiCandidate`)

The Wi-Fi attempt walks through the order of the coordinator and starts one device after the
other.  A device without an address ends the walk, so the attempt starts the devices in front of
the first one that has none (`started_eq`), and it reaches every device with an address exactly
when no device without one comes before it (`complete_iff`).
-/

namespace SecondDisplay.StartupOrder

open TrayContext hiding Event step
open StartupConnect Transitions
open OneSession (sessions sessions_eq_zero)

/-! ### The walk -/

/-- The event leaves the attempt to devices that fail one by one: no tick sees it stream or a
device fail globally, and the discovery cache stays the same. -/
def Fails (ctx : TrayContext) : Event → Prop
  | .advance outside => observes ctx (.advance outside) = false
  | .remember _ => ctx.isTransportStreaming .usb = false ∧ ctx.isWifiStreaming = false
  | .discovered _ => False
  | _ => True

instance (ctx : TrayContext) : ∀ event, Decidable (Fails ctx event)
  | .advance _ => inferInstanceAs (Decidable (_ = _))
  | .remember _ => inferInstanceAs (Decidable (_ ∧ _))
  | .discovered _ => inferInstanceAs (Decidable False)
  | .refresh _ | .report _ _ | .exit _ => inferInstanceAs (Decidable True)

/-- The positions of the configured senders that a step starts. -/
def launched (ctx ctx' : TrayContext) : List Nat :=
  (List.range ctx'.apps.length).filter fun i => ctx'.appRunning i && !ctx.appRunning i

/-- The tray with the devices that the Wi-Fi attempt has started so far. -/
structure Walk where
  ctx : TrayContext
  started : List Nat

/-- `StartTransportAttempt` over Wi-Fi. -/
def start (ctx : TrayContext) (outside : Outside) (fallback : Bool) : Walk :=
  match ctx.startTransportAttempt .wifi with
  | (ready, true) =>
    { ctx := ready.attemptStarted outside .wifi fallback, started := launched ctx ready }
  | (ready, false) => { ctx := ready.setTransport .none, started := [] }

/-- One step of the Wi-Fi attempt. -/
def walkStep (w : Walk) (event : Event) : Option Walk :=
  if w.ctx.startupConnection.transport = .wifi ∧ Fails w.ctx event then
    (step w.ctx event).map fun ctx => { ctx := ctx, started := w.started ++ launched w.ctx ctx }
  else none

/-- The order of the coordinator. -/
def order (ctx : TrayContext) : List Nat :=
  (DeviceCoordinator.begin ctx.cfg.devices ctx.cfg.preferredDeviceId).1.order

/-- There is an address to connect to. -/
def hasTarget (ctx : TrayContext) (i : Nat) : Bool := decide (ctx.resolveDeviceTarget i ≠ [])

/-! ### Lists -/

/-- A list up to the first element without a property, by its length. -/
theorem takeWhile_eq_take {α : Type} {p : α → Bool} {l : List α} {n : Nat}
    (hall : ∀ x ∈ l.take n, p x = true) (hnext : ∀ x, l[n]? = some x → p x = false) :
    l.takeWhile p = l.take n := by
  induction l generalizing n with
  | nil => rw [List.takeWhile_nil, List.take_nil]
  | cons x l ih =>
    cases n with
    | zero => rw [List.takeWhile_cons_of_neg (by rw [hnext x rfl]; exact Bool.false_ne_true),
        List.take_zero]
    | succ n =>
      rw [List.take_succ_cons] at hall ⊢
      rw [List.takeWhile_cons_of_pos (hall x List.mem_cons_self),
        ih (fun y hy => hall y (List.mem_cons_of_mem _ hy)) hnext]

/-- Every element with a property is in front of the first one without it exactly when no element
without it comes before one with it. -/
theorem mem_takeWhile_iff {α : Type} {p : α → Bool} {l : List α} (hnodup : l.Nodup) :
    (∀ x ∈ l, p x = true → x ∈ l.takeWhile p) ↔
      l.Pairwise fun earlier later => p later = true → p earlier = true := by
  induction l with
  | nil => simp
  | cons x l ih =>
    obtain ⟨hx, hnodup⟩ := List.nodup_cons.1 hnodup
    rw [List.pairwise_cons, ← ih hnodup]
    cases hp : p x with
    | false =>
      rw [List.takeWhile_cons_of_neg (by rw [hp]; exact Bool.false_ne_true)]
      constructor
      · intro h
        have hnone : ∀ y ∈ l, p y = true → False := fun y hy hpy => by
          cases h y (List.mem_cons_of_mem _ hy) hpy
        exact ⟨fun y hy hpy => (hnone y hy hpy).elim, fun y hy hpy => (hnone y hy hpy).elim⟩
      · rintro ⟨hfirst, -⟩ y hy hpy
        rcases List.mem_cons.1 hy with rfl | hy
        · rw [hp] at hpy
          cases hpy
        · cases hfirst y hy hpy
    | true =>
      rw [List.takeWhile_cons_of_pos hp]
      constructor
      · intro h
        refine ⟨fun _ _ _ => rfl, fun y hy hpy => ?_⟩
        rcases List.mem_cons.1 (h y (List.mem_cons_of_mem _ hy) hpy) with rfl | hmem
        · exact absurd hy hx
        · exact hmem
      · rintro ⟨-, h⟩ y hy hpy
        rcases List.mem_cons.1 hy with rfl | hy
        · exact List.mem_cons_self
        · exact List.mem_cons_of_mem _ (h y hy hpy)

/-! ### What a step leaves -/

/-- The walk has not moved: no sender is started, and the attempt is at the same device. -/
structure Stays (ctx ctx' : TrayContext) : Prop where
  calmer : Calmer ctx ctx'
  cfg : ctx'.cfg = ctx.cfg
  cache : ctx'.discoveryCache = ctx.discoveryCache
  place : (ctx'.startupConnection.transport, ctx'.startupConnection.wifiOrder,
      ctx'.startupConnection.wifiPosition, ctx'.startupConnection.activeDeviceIndex) =
    (ctx.startupConnection.transport, ctx.startupConnection.wifiOrder,
      ctx.startupConnection.wifiPosition, ctx.startupConnection.activeDeviceIndex)

namespace Stays

theorem refl (ctx : TrayContext) : Stays ctx ctx := ⟨.refl ctx, rfl, rfl, rfl⟩

theorem trans {a b c : TrayContext} (hab : Stays a b) (hbc : Stays b c) : Stays a c :=
  ⟨hab.calmer.trans hbc.calmer, hbc.cfg.trans hab.cfg, hbc.cache.trans hab.cache,
    hbc.place.trans hab.place⟩

theorem transport {ctx ctx' : TrayContext} (h : Stays ctx ctx') :
    ctx'.startupConnection.transport = ctx.startupConnection.transport :=
  congrArg Prod.fst h.place

theorem requestStopTransportAttempt (ctx : TrayContext) (transport : ConnectionTransport) :
    Stays ctx (ctx.requestStopTransportAttempt transport) := by
  have hcalm := Calmer.requestStopTransportAttempt ctx transport
  cases transport <;> exact ⟨hcalm, rfl, rfl, rfl⟩

theorem giveUp (ctx : TrayContext) (failureClass : DeviceFailureClass) (index : Nat) :
    Stays ctx ((ctx.reportFailure failureClass).requestStopApp index) :=
  ⟨(Calmer.reportFailure ctx failureClass).trans (Calmer.requestStopApp _ index), rfl, rfl, rfl⟩

theorem setWaitingNext (ctx : TrayContext) (waiting : Bool) :
    Stays ctx (ctx.setWaitingNext waiting) :=
  ⟨Calmer.setWaitingNext ctx waiting, rfl, rfl, rfl⟩

theorem setWaitingTransportStop (ctx : TrayContext) (waiting : Bool) :
    Stays ctx (ctx.setWaitingTransportStop waiting) :=
  ⟨Calmer.setWaitingTransportStop ctx waiting, rfl, rfl, rfl⟩

theorem refreshUsbDevices (ctx : TrayContext) (outside : Outside) (force : Bool) :
    Stays ctx (ctx.refreshUsbDevices outside force) := by
  have hcalm := Calmer.refreshUsbDevices ctx outside force
  rw [TrayContext.refreshUsbDevices] at hcalm ⊢
  split at hcalm <;> split <;> first
    | exact ⟨hcalm, rfl, rfl, rfl⟩
    | contradiction

theorem workerStep {ctx ctx' : TrayContext} {worker : Worker} {f : SenderApp → SenderApp}
    (hf : SenderApp.Tame f) (h : ctx.workerStep worker f = some ctx') : Stays ctx ctx' := by
  have hcalm := Calmer.workerStep hf h
  rw [TrayContext.workerStep, Option.ite_none_right_eq_some, Option.some.injEq] at h
  obtain ⟨-, rfl⟩ := h
  cases worker <;> exact ⟨hcalm, rfl, rfl, rfl⟩

end Stays

/-- Nothing is remembered while nothing streams. -/
theorem rememberSuccessfulTransport_quiet {ctx : TrayContext} (outside : Outside)
    (husb : ctx.isTransportStreaming .usb = false) (hwifi : ctx.isWifiStreaming = false) :
    ctx.rememberSuccessfulTransport outside = ctx := by
  rw [rememberSuccessfulTransport, if_neg (by rw [husb]; exact Bool.false_ne_true),
    List.find?_eq_none.2]
  rintro ⟨⟨app, device⟩, i⟩ hmem hstreams
  rw [List.mk_mem_zipIdx_iff_getElem?, List.getElem?_zip_eq_some] at hmem
  rw [isWifiStreaming, List.any_eq_false] at hwifi
  exact hwifi app (List.mem_of_getElem? hmem.1) hstreams

/-! ### One tick -/

/-- The next candidate starts and is the active device from now on. -/
structure Starts (ctx ctx' : TrayContext) (index : Nat) : Prop where
  next : ctx.startupConnection.wifiOrder[ctx.startupConnection.wifiPosition + 1]? = some index
  listed : index < ctx.apps.length
  target : ctx.resolveDeviceTarget index ≠ []
  result : ∃ attempt, attempt.transport = ctx.startupConnection.transport ∧
    attempt.wifiOrder = ctx.startupConnection.wifiOrder ∧
    attempt.wifiPosition = ctx.startupConnection.wifiPosition + 1 ∧
    attempt.activeDeviceIndex = index ∧
    attempt.waitingTransportStop = ctx.startupConnection.waitingTransportStop ∧
    ctx' = { ctx with startupConnection := attempt }.startApp index (ctx.resolveDeviceTarget index)

/-- There is no next candidate, or it cannot be started. -/
def LastCandidate (ctx : TrayContext) : Prop :=
  ∀ index, ctx.startupConnection.wifiOrder[ctx.startupConnection.wifiPosition + 1]? = some index →
    index < ctx.apps.length → ctx.resolveDeviceTarget index = []

theorem startWifiCandidate_walk (ctx : TrayContext) (outside : Outside) :
    (ctx.startWifiCandidate outside (ctx.startupConnection.wifiPosition + 1) = (ctx, false) ∧
        LastCandidate ctx) ∨
      ∃ ctx' index, ctx.startWifiCandidate outside (ctx.startupConnection.wifiPosition + 1) =
        (ctx', true) ∧ Starts ctx ctx' index := by
  rw [startWifiCandidate]
  split
  · rename_i hnone
    exact .inl ⟨rfl, fun index hindex => by rw [hnone] at hindex; cases hindex⟩
  · rename_i index hindex
    dsimp only
    split
    · rename_i hout
      refine .inl ⟨rfl, fun other hother hlt => ?_⟩
      rw [hindex, Option.some.injEq] at hother
      omega
    · rename_i hin
      split
      · rename_i htarget
        refine .inl ⟨rfl, fun other hother _ => ?_⟩
        obtain rfl := Option.some.inj (hindex.symm.trans hother)
        exact htarget
      · rename_i htarget
        exact .inr ⟨_, index, rfl, hindex, Nat.not_le.1 hin, htarget,
          { ctx.startupConnection with
            wifiPosition := ctx.startupConnection.wifiPosition + 1
            activeDeviceIndex := index
            waitingNext := false
            started := outside.now }, rfl, rfl, rfl, rfl, rfl, rfl⟩

/-- What the tick does with an active device that has not failed globally.  It goes on to the
timeout of the transport only when there is no next candidate or the time is not up. -/
theorem advanceWifiAttempt_walk {ctx : TrayContext} {active : SenderApp} (outside : Outside)
    (hlocal : globalFailure active = false) :
    (∃ ready returned, ctx.advanceWifiAttempt outside active = (ready, returned) ∧
      Stays ctx ready ∧ ready.startupConnection.waitingTransportStop =
        ctx.startupConnection.waitingTransportStop ∧
      (returned = false → LastCandidate ctx ∨ ready.startupTimedOut outside = false)) ∨
    (active.running = false ∧ ∃ ctx' index,
      ctx.advanceWifiAttempt outside active = (ctx', true) ∧ Starts ctx ctx' index) := by
  simp only [advanceWifiAttempt, hlocal, Bool.false_eq_true, if_false]
  cases hnext : ctx.startupConnection.waitingNext with
  | true =>
    cases hrunning : active.running with
    | true => exact .inl ⟨_, _, rfl, .refl ctx, rfl, by rintro ⟨⟩⟩
    | false =>
      rcases startWifiCandidate_walk ctx outside with ⟨heq, hlast⟩ | ⟨ctx', index, heq, hstarts⟩
      · rw [heq]
        exact .inl ⟨_, _, rfl, Stays.setWaitingNext ctx false, rfl, fun _ => .inl hlast⟩
      · rw [heq]
        exact .inr ⟨rfl, ctx', index, rfl, hstarts⟩
  | false =>
    refine .inl ?_
    simp only [Bool.false_eq_true, if_false]
    split
    · split
      · exact ⟨_, _, rfl, (Stays.giveUp ctx .device _).trans (Stays.setWaitingNext _ true), rfl,
          by rintro ⟨⟩⟩
      · rename_i hend
        refine ⟨_, _, rfl, Stays.giveUp ctx .device _, rfl, fun _ => .inl fun index hindex => ?_⟩
        have hout : ctx.startupConnection.wifiOrder.length ≤
            ctx.startupConnection.wifiPosition + 1 := Nat.not_lt.1 hend
        rw [List.getElem?_eq_none hout] at hindex
        cases hindex
    · rename_i htime
      rw [not_or] at htime
      exact ⟨_, _, rfl, .refl ctx, rfl, fun _ => .inr (Bool.not_eq_true _ ▸ htime.2)⟩

/-- A tick of the walk at the active device, which has not failed globally.  If it gives the whole
transport up, there was no next candidate. -/
theorem startupTrying_walk {ctx : TrayContext} {active : SenderApp} (outside : Outside)
    (hwifi : ctx.startupConnection.transport = .wifi)
    (happ : ctx.apps[ctx.startupConnection.activeDeviceIndex]? = some active)
    (hlocal : globalFailure active = false)
    (hstop : ctx.startupConnection.waitingTransportStop = false) :
    (Stays ctx (ctx.startupTrying outside) ∧
      ((ctx.startupTrying outside).startupConnection.waitingTransportStop = true →
        LastCandidate ctx)) ∨
    (active.running = false ∧ ∃ index, Starts ctx (ctx.startupTrying outside) index) := by
  rw [startupTrying, hwifi, happ]
  rcases @advanceWifiAttempt_walk ctx active outside hlocal with
    ⟨ready, returned, heq, hstays, hkept, htime⟩ | ⟨hdown, ctx', index, heq, hstarts⟩
  · have hidle : ready.startupConnection.waitingTransportStop = true → LastCandidate ctx := by
      intro hset
      rw [hkept, hstop] at hset
      cases hset
    refine .inl ?_
    dsimp only
    rw [heq]
    dsimp only
    split
    · exact ⟨hstays, hidle⟩
    · rename_i hgoes
      split
      · exact ⟨hstays, hidle⟩
      · rename_i hup
        refine ⟨(hstays.trans (Stays.requestStopTransportAttempt ready _)).trans
          (Stays.setWaitingTransportStop _ true), fun _ => ?_⟩
        rcases htime (Bool.not_eq_true _ ▸ hgoes) with hlast | hnot
        · exact hlast
        · rw [hnot] at hup
          exact absurd rfl hup
  · refine .inr ⟨hdown, index, ?_⟩
    dsimp only
    rw [heq]
    exact hstarts

theorem any_running_stop (apps : List SenderApp) :
    (apps.map SenderApp.stop).any (·.running) = false := by
  rw [List.any_eq_false]
  intro app hmem hup
  obtain ⟨old, -, rfl⟩ := List.mem_map.1 hmem
  cases hup

/-- A teardown of the Wi-Fi attempt goes on, or ends the attempt with every device down. -/
theorem startupTeardown_walk {ctx : TrayContext} (outside : Outside)
    (hwifi : ctx.startupConnection.transport = .wifi) :
    ctx.startupTeardown outside = ctx ∨
      ((ctx.startupTeardown outside).startupConnection.transport ≠ .wifi ∧
        (ctx.startupTeardown outside).wifiRunning = false ∧
        (ctx.startupTeardown outside).cfg = ctx.cfg ∧
        (ctx.startupTeardown outside).discoveryCache = ctx.discoveryCache ∧
        (ctx.startupTeardown outside).apps.length = ctx.apps.length) := by
  simp only [startupTeardown, hwifi]
  split
  · exact .inl rfl
  · refine .inr ?_
    split
    · exact ⟨by rintro ⟨⟩, any_running_stop _, rfl, rfl, List.length_map ..⟩
    · simp only [otherTransport, startTransportAttempt]
      split
      · rename_i ready heq
        split at heq
        · cases heq
        · cases heq
          exact ⟨by rintro ⟨⟩, any_running_stop _, rfl, rfl, by
            simp [startUsbSession, launchUsb, stopUsbSession, stopConfiguredSenders,
              attemptStarted, stopTransportAttempt, setWaitingTransportStop]⟩
      · rename_i ready heq
        split at heq
        · cases heq
          exact ⟨by rintro ⟨⟩, any_running_stop _, rfl, rfl, List.length_map ..⟩
        · cases heq

/-! ### What is launched -/

theorem launched_of_calmer {ctx ctx' : TrayContext}
    (h : ∀ i, ctx'.appRunning i = true → ctx.appRunning i = true) : launched ctx ctx' = [] := by
  rw [launched, List.filter_eq_nil_iff]
  intro i _
  cases hup : ctx'.appRunning i with
  | false => exact Bool.false_ne_true
  | true =>
    rw [h i hup]
    exact Bool.false_ne_true

/-- Where no configured sender runs, a start brings up this one only. -/
theorem appRunning_startApp_only {ctx : TrayContext} (hdown : ∀ i, ctx.appRunning i = false)
    {index : Nat} (hlt : index < ctx.apps.length) (target : Bytes) (i : Nat) :
    (ctx.startApp index target).appRunning i = decide (i = index) := by
  rw [appRunning_startApp _ _ _ _ hlt, hdown i, Bool.or_false, decide_eq_decide]
  exact eq_comm

theorem launched_startApp {ctx : TrayContext} (hdown : ∀ i, ctx.appRunning i = false)
    {index : Nat} (hlt : index < ctx.apps.length) (attempt : StartupConnectionAttempt)
    (target : Bytes) : launched ctx
      ({ ctx with startupConnection := attempt }.startApp index target) = [index] := by
  have hup := @appRunning_startApp_only { ctx with startupConnection := attempt } hdown _ hlt target
  rw [launched, startApp_apps_length]
  simp only [hup, hdown, Bool.not_false, Bool.and_true]
  rw [List.filter_eq, List.count_eq_one_of_mem List.nodup_range (List.mem_range.2 hlt)]
  rfl

/-! ### The invariant -/

/-- Where the walk is: at a device of the order, with everything up to it started. -/
structure AtPlace (ctx : TrayContext) (w : Walk) : Prop where
  wifiOrder : w.ctx.startupConnection.wifiOrder = order ctx
  active : (order ctx)[w.ctx.startupConnection.wifiPosition]? =
    some w.ctx.startupConnection.activeDeviceIndex
  started : w.started = (order ctx).take (w.ctx.startupConnection.wifiPosition + 1)
  targets : ∀ i ∈ w.started, hasTarget ctx i = true
  only : ∀ i, w.ctx.appRunning i = true → i = w.ctx.startupConnection.activeDeviceIndex
  /-- The transport is given up only where the next device cannot be started. -/
  last : w.ctx.startupConnection.waitingTransportStop = true →
    ∀ i, (order ctx)[w.ctx.startupConnection.wifiPosition + 1]? = some i →
      hasTarget ctx i = false

/-- The invariant of the walk. -/
structure Inv (ctx : TrayContext) (w : Walk) : Prop where
  cfg : w.ctx.cfg = ctx.cfg
  cache : w.ctx.discoveryCache = ctx.discoveryCache
  aligned : w.ctx.apps.length = ctx.cfg.devices.length
  walking : w.ctx.startupConnection.transport = .wifi → AtPlace ctx w
  done : w.ctx.startupConnection.transport ≠ .wifi →
    w.started = (order ctx).takeWhile (hasTarget ctx)

theorem resolveDeviceTarget_congr {ctx ctx' : TrayContext} (hcfg : ctx'.cfg = ctx.cfg)
    (hcache : ctx'.discoveryCache = ctx.discoveryCache) (i : Nat) :
    ctx'.resolveDeviceTarget i = ctx.resolveDeviceTarget i := by
  rw [resolveDeviceTarget, resolveDeviceTarget, hcfg, hcache]

/-- The order holds positions in the list of devices. -/
theorem order_lt {ctx : TrayContext} {i : Nat} (h : i ∈ order ctx) :
    i < ctx.cfg.devices.length := by
  obtain ⟨device, hdevice, -⟩ := ((DeviceCoordinator.begin_order_spec _ _).2 i).1 h
  exact (List.getElem?_eq_some_iff.1 hdevice).1

/-- Everything up to the last startable device is everything that can be reached. -/
theorem AtPlace.takeWhile {ctx : TrayContext} {w : Walk} (h : AtPlace ctx w)
    (hstop : w.ctx.startupConnection.waitingTransportStop = true) :
    w.started = (order ctx).takeWhile (hasTarget ctx) := by
  rw [takeWhile_eq_take (h.started ▸ h.targets) (h.last hstop), h.started]

theorem inv_stays {ctx : TrayContext} {w : Walk} (h : Inv ctx w)
    (hwifi : w.ctx.startupConnection.transport = .wifi) {ctx' : TrayContext}
    (hstays : Stays w.ctx ctx')
    (hlast : ctx'.startupConnection.waitingTransportStop = true →
      w.ctx.startupConnection.waitingTransportStop = true ∨ LastCandidate w.ctx) :
    Inv ctx { ctx := ctx', started := w.started ++ launched w.ctx ctx' } := by
  have hat := h.walking hwifi
  have hsame := hstays.place
  simp only [Prod.mk.injEq] at hsame
  obtain ⟨htransport, horder, hposition, hactive⟩ := hsame
  rw [launched_of_calmer fun i hup => appRunning_calmer hstays.calmer hup, List.append_nil]
  refine ⟨hstays.cfg.trans h.cfg, hstays.cache.trans h.cache,
    hstays.calmer.appsLength.trans h.aligned, fun _ => ?_, fun hnot => ?_⟩
  · refine ⟨horder.trans hat.wifiOrder, ?_, ?_, hat.targets, fun i hup => ?_, fun hset i hi => ?_⟩
    · rw [hposition, hactive]
      exact hat.active
    · rw [hposition]
      exact hat.started
    · rw [hactive]
      exact hat.only i (appRunning_calmer hstays.calmer hup)
    · rw [hposition] at hi
      rcases hlast hset with hbefore | hcandidate
      · exact hat.last hbefore i hi
      · have hlt := order_lt (List.mem_of_getElem? hi)
        rw [hasTarget, decide_eq_false_iff_not, not_not, ← resolveDeviceTarget_congr h.cfg h.cache]
        exact hcandidate i (hat.wifiOrder ▸ hi) (h.aligned ▸ hlt)
  · exact absurd (htransport.trans hwifi) hnot

/-- The next candidate starts: one more device of the order. -/
theorem inv_starts {ctx : TrayContext} {w : Walk} (h : Inv ctx w)
    (hwifi : w.ctx.startupConnection.transport = .wifi) {active : SenderApp}
    (happ : w.ctx.apps[w.ctx.startupConnection.activeDeviceIndex]? = some active)
    (hdown : active.running = false)
    (hstop : w.ctx.startupConnection.waitingTransportStop = false) {ctx' : TrayContext}
    {index : Nat} (hstarts : Starts w.ctx ctx' index) :
    Inv ctx { ctx := ctx', started := w.started ++ launched w.ctx ctx' } := by
  have hat := h.walking hwifi
  have hnone : ∀ i, w.ctx.appRunning i = false := by
    intro i
    rw [← Bool.not_eq_true]
    intro hup
    rw [hat.only i hup, appRunning, happ] at hup
    exact Bool.false_ne_true (hdown.symm.trans hup)
  obtain ⟨hnext, hlisted, htarget, attempt, htransport, horder, hposition, hactive, hwaiting,
    rfl⟩ := hstarts
  rw [launched_startApp hnone hlisted]
  rw [hat.wifiOrder] at hnext
  refine ⟨h.cfg, h.cache, (startApp_apps_length ..).trans h.aligned, fun _ => ?_, fun hnot => ?_⟩
  · refine ⟨horder.trans hat.wifiOrder, ?_, ?_, fun i hi => ?_, fun i hup => ?_, fun hset => ?_⟩
    · dsimp only [startApp]
      rw [hposition, hactive]
      exact hnext
    · dsimp only [startApp]
      rw [hposition, hat.started, @List.take_add_one _ (order ctx)
        (w.ctx.startupConnection.wifiPosition + 1), hnext]
      rfl
    · rcases List.mem_append.1 hi with hold | hnew
      · exact hat.targets i hold
      · rw [List.mem_singleton.1 hnew, hasTarget, decide_eq_true_eq,
          ← resolveDeviceTarget_congr h.cfg h.cache]
        exact htarget
    · have honly := @appRunning_startApp_only { w.ctx with startupConnection := attempt } hnone _
        hlisted (w.ctx.resolveDeviceTarget index) i
      exact (of_decide_eq_true (honly.symm.trans hup)).trans hactive.symm
    · dsimp only [startApp] at hset
      rw [hwaiting, hstop] at hset
      cases hset
  · exact absurd (htransport.trans hwifi) hnot

/-- A tick of the walk. -/
theorem inv_advance {ctx : TrayContext} {w : Walk} (h : Inv ctx w)
    (hwifi : w.ctx.startupConnection.transport = .wifi) (outside : Outside)
    (hfails : observes w.ctx (.advance outside) = false) :
    Inv ctx { ctx := w.ctx.advanceStartupAutoConnect outside
              started := w.started ++
                launched w.ctx (w.ctx.advanceStartupAutoConnect outside) } := by
  have hat := h.walking hwifi
  obtain ⟨active, happ⟩ : ∃ active,
      w.ctx.apps[w.ctx.startupConnection.activeDeviceIndex]? = some active := by
    have hlt := order_lt (List.mem_of_getElem? hat.active)
    exact ⟨_, List.getElem?_eq_getElem (h.aligned.symm ▸ hlt)⟩
  simp only [observes, hwifi, happ, Option.any_some, decide_true, Bool.true_and,
    Bool.or_eq_false_iff, Bool.and_eq_false_iff] at hfails
  obtain ⟨hquiet, hlocal⟩ := hfails
  rw [advanceStartupAutoConnect, if_neg (by rw [hwifi]; rintro ⟨⟩), hwifi, hquiet,
    if_neg Bool.false_ne_true]
  cases hstop : w.ctx.startupConnection.waitingTransportStop with
  | true =>
    rw [if_pos rfl]
    rcases startupTeardown_walk outside hwifi with heq | ⟨hover, hdown, hcfg, hcache, hlength⟩
    · rw [heq]
      exact inv_stays h hwifi (.refl w.ctx) .inl
    · have hnone : launched w.ctx (w.ctx.startupTeardown outside) = [] := by
        refine launched_of_calmer fun i hup => ?_
        rw [appRunning_of_not_wifiRunning hdown i] at hup
        cases hup
      rw [hnone, List.append_nil]
      exact ⟨hcfg.trans h.cfg, hcache.trans h.cache, hlength.trans h.aligned,
        fun hstill => absurd hstill hover, fun _ => hat.takeWhile hstop⟩
  | false =>
    rw [if_neg Bool.false_ne_true]
    have hlocal : globalFailure active = false := by
      rcases hlocal with hset | hlocal
      · rw [hstop] at hset
        cases hset
      · exact hlocal
    rcases startupTrying_walk outside hwifi happ hlocal hstop with
      ⟨hstays, hlast⟩ | ⟨hdown, index, hstarts⟩
    · exact inv_stays h hwifi hstays fun hset => .inr (hlast hset)
    · exact inv_starts h hwifi happ hdown hstop hstarts

/-- **Every step keeps the invariant.** -/
theorem inv_step {ctx : TrayContext} {w w' : Walk} {event : Event} (h : Inv ctx w)
    (hstep : walkStep w event = some w') : Inv ctx w' := by
  rw [walkStep, Option.ite_none_right_eq_some] at hstep
  obtain ⟨⟨hwifi, hfails⟩, hstep⟩ := hstep
  obtain ⟨ctx', hctx, rfl⟩ := Option.map_eq_some_iff.1 hstep
  cases event with
  | advance outside =>
    cases hctx
    exact inv_advance h hwifi outside hfails
  | refresh outside =>
    cases hctx
    refine inv_stays h hwifi (Stays.refreshUsbDevices w.ctx outside false) fun hset => .inl ?_
    rw [refreshUsbDevices] at hset
    split at hset <;> exact hset
  | remember outside =>
    cases hctx
    rw [rememberSuccessfulTransport_quiet outside hfails.1 hfails.2]
    exact inv_stays h hwifi (.refl w.ctx) .inl
  | discovered records => cases hfails
  | report worker report =>
    refine inv_stays h hwifi (Stays.workerStep (SenderApp.tame_publish report) hctx) fun hset =>
      .inl ?_
    rw [step, workerStep, Option.ite_none_right_eq_some, Option.some.injEq] at hctx
    obtain ⟨-, rfl⟩ := hctx
    cases worker <;> exact hset
  | exit worker =>
    refine inv_stays h hwifi (Stays.workerStep SenderApp.tame_finish hctx) fun hset => .inl ?_
    rw [step, workerStep, Option.ite_none_right_eq_some, Option.some.injEq] at hctx
    obtain ⟨-, rfl⟩ := hctx
    cases worker <;> exact hset

/-- Where the Wi-Fi attempt starts from: no worker runs, and no transport is being torn down. -/
structure Ready (ctx : TrayContext) : Prop where
  aligned : ctx.apps.length = ctx.cfg.devices.length
  idle : sessions ctx = 0
  fresh : ctx.startupConnection.waitingTransportStop = false

theorem inv_start {ctx : TrayContext} (h : Ready ctx) (outside : Outside) (fallback : Bool) :
    Inv ctx (start ctx outside fallback) := by
  obtain ⟨-, hwifi, -⟩ := sessions_eq_zero.1 h.idle
  have hdown := appRunning_of_not_wifiRunning hwifi
  have hover : ∀ ready : TrayContext, ready.cfg = ctx.cfg →
      ready.discoveryCache = ctx.discoveryCache → ready.apps = ctx.apps →
      (order ctx).takeWhile (hasTarget ctx) = [] →
      Inv ctx { ctx := ready.setTransport .none, started := [] } :=
    fun ready hcfg hcache happs hnone =>
      ⟨hcfg, hcache, (congrArg List.length happs).trans h.aligned, nofun, fun _ => hnone.symm⟩
  simp only [start, startTransportAttempt, startWifiSession]
  split
  · rename_i ready heq
    split at heq
    · cases heq
    · split at heq
      · cases heq
      · rename_i index rest horder
        have horder : order ctx = index :: rest := horder
        split at heq
        · cases heq
        · rename_i htarget
          cases heq
          have hlt : index < ctx.apps.length := by
            rw [h.aligned]
            exact order_lt (horder ▸ List.mem_cons_self)
          have hlaunched : launched ctx _ = [index] :=
            launched_startApp hdown hlt { ctx.startupConnection with
              wifiOrder := order ctx, wifiPosition := 0, activeDeviceIndex := index }
            (ctx.resolveDeviceTarget index)
          refine ⟨rfl, rfl, (startApp_apps_length ..).trans h.aligned, fun _ => ?_, fun hnot => ?_⟩
          · refine ⟨rfl, congrArg (·[0]?) horder, ?_, fun i hi => ?_, fun i hup => ?_,
              fun hset => ?_⟩
            · exact hlaunched.trans (by rw [horder]; rfl)
            · have hi := hlaunched ▸ hi
              rw [List.mem_singleton.1 hi, hasTarget, decide_eq_true_eq]
              exact htarget
            · have honly := appRunning_startApp_only hdown hlt (ctx.resolveDeviceTarget index) i
              exact of_decide_eq_true (honly.symm.trans hup)
            · exact absurd (h.fresh.symm.trans hset) Bool.false_ne_true
          · exact absurd rfl hnot
  · rename_i ready heq
    split at heq
    · rename_i hempty
      cases heq
      refine hover ctx rfl rfl rfl ?_
      rw [show order ctx = [] from ?_, List.takeWhile_nil]
      rw [List.eq_nil_iff_forall_not_mem]
      intro i hi
      have hlt := order_lt hi
      rw [← h.aligned, hempty] at hlt
      exact absurd hlt (Nat.not_lt_zero i)
    · split at heq
      · rename_i hnil
        cases heq
        refine hover _ rfl rfl rfl ?_
        rw [show order ctx = [] from hnil, List.takeWhile_nil]
      · rename_i index rest horder
        split at heq
        · rename_i htarget
          cases heq
          refine hover _ rfl rfl rfl ?_
          rw [show order ctx = index :: rest from horder]
          refine List.takeWhile_cons_of_neg ?_
          rw [hasTarget, decide_eq_true_eq, not_not]
          exact htarget
        · cases heq

/-! ### The whole walk -/

/-- **The walk.**  When the Wi-Fi attempt is over, it has started the devices in front of the first
one without an address, in the order of the coordinator. -/
theorem started_eq {ctx : TrayContext} (h : Ready ctx) {outside : Outside} {fallback : Bool}
    {events : List Event} {w : Walk}
    (hrun : run walkStep (start ctx outside fallback) events = some w)
    (hover : w.ctx.startupConnection.transport ≠ .wifi) :
    w.started = (order ctx).takeWhile (hasTarget ctx) :=
  (run_invariant (P := Inv ctx) (fun _ _ _ h hstep => inv_step h hstep)
    (inv_start h outside fallback) hrun).done hover

/-- The started devices are those that startup may connect to and that have an address, each once
and in the order of the coordinator. -/
def Complete (ctx : TrayContext) (started : List Nat) : Prop :=
  (∀ i, i ∈ started ↔ DeviceCoordinator.Connectable ctx.cfg.devices i ∧
    ctx.resolveDeviceTarget i ≠ []) ∧ started.Nodup ∧ started.Sublist (order ctx)

/-- **When startup reaches every device.**  The devices started by a Wi-Fi attempt that is over are
complete exactly when no device without an address comes before one with an address in the order
of the coordinator. -/
theorem complete_iff {ctx : TrayContext} (h : Ready ctx) {outside : Outside} {fallback : Bool}
    {events : List Event} {w : Walk}
    (hrun : run walkStep (start ctx outside fallback) events = some w)
    (hover : w.ctx.startupConnection.transport ≠ .wifi) :
    Complete ctx w.started ↔ (order ctx).Pairwise fun earlier later =>
      ctx.resolveDeviceTarget later ≠ [] → ctx.resolveDeviceTarget earlier ≠ [] := by
  obtain ⟨hnodup, hmem⟩ :=
    DeviceCoordinator.begin_order_spec ctx.cfg.devices ctx.cfg.preferredDeviceId
  have hnodup : (order ctx).Nodup := hnodup
  have hsublist := List.takeWhile_sublist (hasTarget ctx) (l := order ctx)
  have hreached := mem_takeWhile_iff (p := hasTarget ctx) hnodup
  simp only [hasTarget, decide_eq_true_eq] at hreached
  rw [started_eq h hrun hover, ← hreached, Complete,
    and_iff_left ⟨hsublist.nodup hnodup, hsublist⟩]
  constructor
  · intro hall i hi htarget
    exact (hall i).2 ⟨(hmem i).1 hi, htarget⟩
  · intro hall i
    constructor
    · intro hi
      refine ⟨(hmem i).1 (hsublist.subset hi), ?_⟩
      have htarget : hasTarget ctx i = true := List.mem_takeWhile_imp hi
      exact of_decide_eq_true htarget
    · rintro ⟨hconnectable, htarget⟩
      exact hall i ((hmem i).2 hconnectable) htarget

/-- A tray whose devices have been added by these addresses. -/
def entries (addresses : List String) : TrayContext :=
  fresh { devices := addresses.map fun address => { lastIpv4 := ascii address } }

/-- Two devices with addresses fail one after the other: both have been started. -/
theorem complete_iff_two :
    ∃ w, run walkStep (start (entries ["10.0.0.1", "10.0.0.2"]) ⟨0, 0, []⟩ false)
        [.advance ⟨8000, 0, []⟩, .exit (.wifi 0), .advance ⟨8250, 0, []⟩, .advance ⟨16250, 0, []⟩,
          .exit (.wifi 1), .advance ⟨16500, 0, []⟩, .advance ⟨16750, 0, []⟩] = some w ∧
      Complete (entries ["10.0.0.1", "10.0.0.2"]) w.started :=
  ⟨_, by rfl, (@complete_iff (entries ["10.0.0.1", "10.0.0.2"]) ⟨rfl, by decide, rfl⟩ ⟨0, 0, []⟩
    false [.advance ⟨8000, 0, []⟩, .exit (.wifi 0), .advance ⟨8250, 0, []⟩,
      .advance ⟨16250, 0, []⟩, .exit (.wifi 1), .advance ⟨16500, 0, []⟩,
      .advance ⟨16750, 0, []⟩] _ (by rfl) (by decide +kernel)).2 (by decide +kernel)⟩

/-- The second of three devices has no address: when the first one fails, the attempt is over and
the third one has never been started. -/
theorem complete_fails_gap :
    ∃ w, run walkStep (start (entries ["10.0.0.1", "", "10.0.0.3"]) ⟨0, 0, []⟩ false)
        [.advance ⟨8000, 0, []⟩, .exit (.wifi 0), .advance ⟨8250, 0, []⟩, .advance ⟨8500, 0, []⟩] =
          some w ∧
      w.ctx.startupConnection.transport = .none ∧ w.started = [0] ∧
      ¬Complete (entries ["10.0.0.1", "", "10.0.0.3"]) w.started := by
  refine ⟨_, by rfl, rfl, by rfl, fun hcomplete => ?_⟩
  have hthird := (hcomplete.1 2).2 ⟨⟨_, by rfl, rfl⟩, by decide +kernel⟩
  exact absurd hthird (by decide +kernel)

end SecondDisplay.StartupOrder
