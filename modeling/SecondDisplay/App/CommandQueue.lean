import SecondDisplay.App.TraySteps
import SecondDisplay.Library.Transitions

/-!
# The last click (`QueueDeviceCommand`, `ProcessDeviceCommands`)

The user clicks Switch, Start, Retry and Stop in any order while ticks carry the clicks out and
old workers leave.  Once the queue is empty and no switch is in progress, the request that was
pending last is the one that is active.  That is the last click unless `QueueDeviceCommand`
dropped it as a repetition: `activeOnly_iff` says exactly when the last click wins.
-/

namespace SecondDisplay.CommandQueue

open TrayContext Transitions

/-! ### Events -/

/-- What happens while the user clicks. -/
inductive Event where
  /-- A click on Switch, Start, Retry or Stop. -/
  | click (command : DeviceCommand)
  /-- A tick of the timer, as far as the queue is concerned. -/
  | tick
  /-- A worker that was asked to stop leaves. -/
  | exit (worker : Worker)

/-- One step. -/
def step (ctx : TrayContext) : Event → Option TrayContext
  | .click command => some (ctx.queueDeviceCommand command)
  | .tick => some ctx.processDeviceCommands
  | .exit worker =>
    if (ctx.senderOf worker).any fun app => app.running && app.stopRequested then
      some (ctx.updateSender SenderApp.finish worker)
    else none

/-! ### What the user asks for -/

/-- The device a command asks for; Stop asks for none. -/
def target (command : DeviceCommand) : Option Nat :=
  if command.type = .stop then none else some command.index

/-- The request that will be carried out last: the back of the queue, or the switch in progress
when the queue is empty. -/
def lastRequest (ctx : TrayContext) : Option (Option Nat) :=
  match ctx.commands.getLast? with
  | some command => some (target command)
  | none => if ctx.switching then some ctx.switchingTo else none

/-- The grounds on which `QueueDeviceCommand` drops a click: the same switch is in progress or
was the last one asked for, or the same command is somewhere in the queue. -/
def dropped (ctx : TrayContext) (command : DeviceCommand) : Bool :=
  ctx.outOfRange command ||
    (decide (command.type = .switch) && (decide (ctx.switchingTo = some command.index) ||
      ctx.deviceFlow.refusesSwitch command.index)) ||
    decide (command ∈ ctx.commands)

/-- The only active target: no other sender runs. -/
def ActiveOnly (ctx : TrayContext) (device : Option Nat) : Prop :=
  ctx.usbRunning = false ∧ ∀ i, ctx.appRunning i = true ↔ device = some i

/-- The active target is unique. -/
theorem ActiveOnly.unique {ctx : TrayContext} {a b : Option Nat} (ha : ActiveOnly ctx a)
    (hb : ActiveOnly ctx b) : a = b := by
  apply Option.ext
  intro i
  rw [← ha.2 i, ← hb.2 i]

/-! ### The invariant -/

/-- A tray at rest whose devices all have an address. -/
structure Quiet (ctx : TrayContext) : Prop where
  aligned : ctx.apps.length = ctx.cfg.devices.length
  resolvable : ∀ i < ctx.cfg.devices.length, ctx.resolveDeviceTarget i ≠ []
  commands : ctx.commands = []
  switching : ctx.switching = false
  switchingTo : ctx.switchingTo = none
  noRestart : ctx.restartPending = false
  flow : ctx.deviceFlow.state ≠ .userSwitching

/-- What holds while the user clicks. -/
structure Inv (ctx : TrayContext) : Prop where
  aligned : ctx.apps.length = ctx.cfg.devices.length
  resolvable : ∀ i < ctx.cfg.devices.length, ctx.resolveDeviceTarget i ≠ []
  noRestart : ctx.restartPending = false
  queued : ∀ command ∈ ctx.commands, ctx.outOfRange command = false
  chosen : ∀ i, ctx.switchingTo = some i → ctx.switching = true ∧ i < ctx.cfg.devices.length
  flow : ctx.deviceFlow.state = .userSwitching → ctx.switching = true ∨ ctx.commands ≠ []

theorem Quiet.inv {ctx : TrayContext} (h : Quiet ctx) : Inv ctx where
  aligned := h.aligned
  resolvable := h.resolvable
  noRestart := h.noRestart
  queued := by simp [h.commands]
  chosen := by simp [h.switchingTo]
  flow hflow := absurd hflow h.flow

/-! ### Clicks -/

/-- The queue after a click. -/
theorem queueDeviceCommand_commands (ctx : TrayContext) (command : DeviceCommand) :
    (ctx.queueDeviceCommand command).commands =
      if dropped ctx command then ctx.commands else ctx.commands ++ [command] := by
  rw [queueDeviceCommand, dropped]
  simp only [DeviceCoordinator.requestSwitch_snd]
  split_ifs <;> simp_all

/-- A click that puts the coordinator into `UserSwitching` is in the queue afterwards. -/
theorem queueDeviceCommand_flow {ctx : TrayContext} {command : DeviceCommand}
    (h : (ctx.queueDeviceCommand command).deviceFlow ≠ ctx.deviceFlow) :
    command ∈ (ctx.queueDeviceCommand command).commands := by
  rw [queueDeviceCommand] at h ⊢
  split_ifs at h ⊢ <;> simp_all

theorem inv_click {ctx : TrayContext} (h : Inv ctx) (command : DeviceCommand) :
    Inv (ctx.queueDeviceCommand command) := by
  have hcommands := queueDeviceCommand_commands ctx command
  have hflow := @queueDeviceCommand_flow ctx command
  obtain ⟨commands, flow, hq, -⟩ := queueDeviceCommand_frame ctx command
  rw [hq] at hcommands hflow ⊢
  dsimp only at hcommands hflow
  refine ⟨h.aligned, h.resolvable, h.noRestart, ?_, h.chosen, ?_⟩
  · intro c hc
    dsimp only at hc
    rw [hcommands] at hc
    split at hc
    · exact h.queued c hc
    · rename_i hdropped
      rcases List.mem_append.1 hc with hc | hc
      · exact h.queued c hc
      · rw [List.mem_singleton.1 hc]
        simp only [dropped, Bool.or_eq_true, not_or, Bool.not_eq_true] at hdropped
        exact hdropped.1.1
  · intro hstate
    dsimp only at hstate ⊢
    by_cases hsame : flow = ctx.deviceFlow
    · rcases h.flow (hsame ▸ hstate) with hs | hc
      · exact .inl hs
      · refine .inr ?_
        rw [hcommands]
        split <;> simp [hc]
    · exact .inr (List.ne_nil_of_mem (hflow hsame))

/-- A dropped click finds something pending. -/
theorem lastRequest_of_dropped {ctx : TrayContext} {command : DeviceCommand} (h : Inv ctx)
    (valid : ctx.outOfRange command = false) (hdropped : dropped ctx command = true) :
    ∃ device, lastRequest ctx = some device := by
  have hpending : ctx.switching = true ∨ ctx.commands ≠ [] := by
    simp only [dropped, valid, Bool.false_or, Bool.or_eq_true, Bool.and_eq_true,
      decide_eq_true_eq] at hdropped
    rcases hdropped with ⟨-, hto | hflow⟩ | hmem
    · exact .inl (h.chosen _ hto).1
    · exact h.flow (DeviceCoordinator.state_of_refusesSwitch hflow)
    · exact .inr (List.ne_nil_of_mem hmem)
  rw [lastRequest]
  cases hlast : ctx.commands.getLast? with
  | some command => exact ⟨_, rfl⟩
  | none =>
    rcases hpending with hs | hc
    · exact ⟨ctx.switchingTo, by simp [hs]⟩
    · exact absurd (List.getLast?_eq_none_iff.1 hlast) hc

/-! ### Ticks and workers -/

/-- Where the clicks so far lead: to the last pending request, or to the sender that already
runs, which nobody has asked to stop. -/
def LeadsTo (ctx : TrayContext) (device : Option Nat) : Prop :=
  lastRequest ctx = some device ∨
    (lastRequest ctx = none ∧ ActiveOnly ctx device ∧
      ∀ app ∈ ctx.apps, app.running = true → app.stopRequested = false)

/-- Nothing is pending. -/
theorem lastRequest_eq_none {ctx : TrayContext} :
    lastRequest ctx = none ↔ ctx.commands = [] ∧ ctx.switching = false := by
  rw [lastRequest]
  cases hlast : ctx.commands.getLast? with
  | some command =>
    have hne : ctx.commands ≠ [] := fun h => by simp [h] at hlast
    simp [hne]
  | none => simp [List.getLast?_eq_none_iff.1 hlast]

/-- With an empty queue the switch in progress is the last request. -/
theorem lastRequest_of_switching {ctx : TrayContext} (hc : ctx.commands = [])
    (hs : ctx.switching = true) : lastRequest ctx = some ctx.switchingTo := by
  rw [lastRequest, hc]
  simp [hs]

/-- With commands in the queue the rest of the state does not count. -/
theorem lastRequest_congr {ctx ctx' : TrayContext} (hne : ctx.commands ≠ [])
    (hc : ctx'.commands = ctx.commands) : lastRequest ctx' = lastRequest ctx := by
  rw [lastRequest, lastRequest, hc]
  cases hlast : ctx.commands.getLast? with
  | some command => rfl
  | none => exact absurd (List.getLast?_eq_none_iff.1 hlast) hne

/-- Taking a command from the queue leaves the last request what it was. -/
theorem lastRequest_beginCommand {ctx : TrayContext} {command : DeviceCommand}
    {rest : List DeviceCommand} (hc : ctx.commands = command :: rest) :
    lastRequest ({ ctx with commands := rest }.beginCommand command) = lastRequest ctx := by
  rw [beginCommand_frame]
  cases rest with
  | nil =>
    rw [lastRequest_of_switching rfl rfl, lastRequest, hc]
    rfl
  | cons next rest =>
    rw [lastRequest, lastRequest, hc, List.getLast?_cons_cons]
    rfl

/-- **A switch that completes.**  Every sender was down; now the chosen one runs, if one was
chosen, and nothing else does. -/
theorem activeOnly_finishSwitch {ctx : TrayContext} (h : Inv ctx)
    (hdown : ctx.anyRunning = false) :
    ActiveOnly ctx.finishSwitch ctx.switchingTo ∧
      ∀ app ∈ ctx.finishSwitch.apps, app.running = true → app.stopRequested = false := by
  rw [anyRunning_eq, Bool.or_eq_false_iff] at hdown
  have hall : ∀ app ∈ ctx.apps, app.running = false := fun app happ => by
    simpa using List.any_eq_false.1 hdown.2 app happ
  have husb : ctx.finishSwitch.usbRunning = false := by
    rw [finishSwitch_frame]
    rfl
  have happs : ctx.finishSwitch.apps = ctx.stopUsbSession.startChosen.apps := rfl
  cases hto : ctx.switchingTo with
  | none =>
    rw [@startChosen_none ctx.stopUsbSession hto] at happs
    have hwifi : ctx.finishSwitch.wifiRunning = false := by rw [wifiRunning, happs]; exact hdown.2
    refine ⟨⟨husb, fun i => ?_⟩, fun app happ hrunning => ?_⟩
    · simp [appRunning_of_not_wifiRunning hwifi]
    · rw [happs] at happ
      rw [hall app happ] at hrunning
      cases hrunning
  | some index =>
    have hindex : index < ctx.apps.length := by rw [h.aligned]; exact (h.chosen _ hto).2
    rw [@startChosen_some ctx.stopUsbSession _ hto
      (h.resolvable _ (h.chosen _ hto).2)] at happs
    refine ⟨⟨husb, fun i => ?_⟩, fun app happ hrunning => ?_⟩
    · rw [appRunning, happs]
      have hstart := appRunning_startApp ctx.stopUsbSession index
        (ctx.stopUsbSession.resolveDeviceTarget index) i hindex
      rw [show ctx.stopUsbSession.appRunning i = false from
        appRunning_of_not_wifiRunning hdown.2 i, Bool.or_false, appRunning] at hstart
      rw [hstart]
      simp
    · rw [happs] at happ
      rcases mem_startApp happ with happ | ⟨old, hold, rfl⟩
      · rw [hall app happ] at hrunning
        cases hrunning
      · exact SenderApp.start_stopRequested (hall old (List.mem_of_getElem? hold)) ..

theorem inv_finishSwitch {ctx : TrayContext} (h : Inv ctx) : Inv ctx.finishSwitch := by
  have hlength := finishSwitch_apps_length ctx
  rw [finishSwitch_frame] at hlength ⊢
  exact ⟨hlength.trans h.aligned, h.resolvable, h.noRestart, h.queued, by simp,
    fun hflow => absurd hflow (DeviceCoordinator.completeSwitch_state _ _)⟩

theorem inv_beginCommand {ctx : TrayContext} {command : DeviceCommand}
    {rest : List DeviceCommand} (h : Inv ctx) (hc : ctx.commands = command :: rest) :
    Inv ({ ctx with commands := rest }.beginCommand command) := by
  rw [beginCommand_frame]
  refine ⟨?_, h.resolvable, h.noRestart, fun c hmem => ?_, fun i hi => ⟨rfl, ?_⟩,
    fun _ => .inl rfl⟩
  · exact (List.length_map ..).trans h.aligned
  · exact h.queued c (hc ▸ List.mem_cons_of_mem _ hmem)
  · have hvalid := h.queued command (hc ▸ List.mem_cons_self)
    dsimp only at hi
    split at hi
    · cases hi
    · rename_i htype
      cases hi
      simpa [outOfRange, htype, setTransport] using hvalid

/-- **One tick.**  The invariant stays, and the clicks still lead to the same device. -/
theorem tick_leadsTo {ctx : TrayContext} (h : Inv ctx) :
    Inv ctx.processDeviceCommands ∧
      ∀ device, LeadsTo ctx device → LeadsTo ctx.processDeviceCommands device := by
  have hreaped : Inv ctx.reapRetired :=
    ⟨h.aligned, h.resolvable, h.noRestart, h.queued, h.chosen, h.flow⟩
  rcases processDeviceCommands_cases ctx with ⟨heq, -⟩ | ⟨-, -, -, hpending⟩ |
    ⟨heq, hswitching, hdown, -⟩ | ⟨command, rest, heq, hswitching, hc⟩
  · rw [heq]
    exact ⟨hreaped, fun _ => id⟩
  · rw [h.noRestart] at hpending
    cases hpending
  · rw [heq]
    refine ⟨inv_finishSwitch hreaped, fun device hleads => ?_⟩
    rcases hleads with hlast | ⟨hnone, -⟩
    · by_cases hc : ctx.commands = []
      · -- The switch was the last request: its device is the one that runs now.
        rw [lastRequest_of_switching hc hswitching] at hlast
        have hactive := activeOnly_finishSwitch hreaped hdown
        rw [show ctx.reapRetired.switchingTo = device from Option.some.inj hlast] at hactive
        refine .inr ⟨lastRequest_eq_none.2 ?_, hactive⟩
        rw [finishSwitch_frame]
        exact ⟨hc, rfl⟩
      · refine .inl ((lastRequest_congr hc ?_).trans hlast)
        rw [finishSwitch_frame]
        rfl
    · rw [(lastRequest_eq_none.1 hnone).2] at hswitching
      cases hswitching
  · rw [heq]
    refine ⟨inv_beginCommand hreaped hc, fun device hleads => .inl ?_⟩
    rw [@lastRequest_beginCommand ctx.reapRetired _ _ hc]
    rcases hleads with hlast | ⟨hnone, -⟩
    · exact hlast
    · rw [(lastRequest_eq_none.1 hnone).1] at hc
      cases hc

/-- **One exit.**  Only a worker that was asked to stop leaves, so the active sender stays. -/
theorem exit_leadsTo {ctx ctx' : TrayContext} {worker : Worker} (h : Inv ctx)
    (hstep : step ctx (.exit worker) = some ctx') :
    Inv ctx' ∧ ∀ device, LeadsTo ctx device → LeadsTo ctx' device := by
  simp only [step, Option.ite_none_right_eq_some, Option.some.injEq] at hstep
  obtain ⟨hsender, rfl⟩ := hstep
  obtain ⟨app, happ, hflags⟩ := (Option.any_eq_true _ _).1 hsender
  rw [Bool.and_eq_true] at hflags
  cases worker with
  | wifi index =>
    refine ⟨⟨(List.length_modify ..).trans h.aligned, h.resolvable, h.noRestart, h.queued,
      h.chosen, h.flow⟩, fun device hleads => hleads.imp id fun ⟨_, _, hasked⟩ => ?_⟩
    have hmem : app ∈ ctx.apps := List.mem_of_getElem? happ
    rw [hasked app hmem hflags.1] at hflags
    cases hflags.2
  | usb =>
    refine ⟨⟨h.aligned, h.resolvable, h.noRestart, h.queued, h.chosen, h.flow⟩,
      fun device hleads => hleads.imp id fun ⟨_, hactive, _⟩ => ?_⟩
    have husb : ctx.usbRunning = true := (Option.any_eq_true _ _).2 ⟨app, happ, hflags.1⟩
    rw [hactive.1] at husb
    cases husb
  | retired index =>
    exact ⟨⟨h.aligned, h.resolvable, h.noRestart, h.queued, h.chosen, h.flow⟩, fun _ => id⟩

/-! ### Runs -/

theorem inv_run {ctx ctx' : TrayContext} {events : List Event} (h : Inv ctx)
    (hrun : run step ctx events = some ctx') : Inv ctx' := by
  refine run_invariant (P := Inv) (fun s e s' hs hstep => ?_) h hrun
  cases e with
  | click command =>
    cases hstep
    exact inv_click hs command
  | tick =>
    cases hstep
    exact (tick_leadsTo hs).1
  | exit worker => exact (exit_leadsTo hs hstep).1

/-- Without further clicks a run keeps leading to the same device. -/
theorem leadsTo_run {ctx ctx' : TrayContext} {events : List Event} {device : Option Nat}
    (h : Inv ctx) (hleads : LeadsTo ctx device)
    (quiet : ∀ command, Event.click command ∉ events)
    (hrun : run step ctx events = some ctx') : LeadsTo ctx' device := by
  induction events generalizing ctx with
  | nil =>
    cases hrun
    exact hleads
  | cons e events ih =>
    obtain ⟨next, hstep, hrest⟩ := run_cons_some.1 hrun
    have hquiet : ∀ command, Event.click command ∉ events :=
      fun command hmem => quiet command (List.mem_cons_of_mem _ hmem)
    cases e with
    | click command => exact absurd List.mem_cons_self (quiet command)
    | tick =>
      cases hstep
      exact ih (tick_leadsTo h).1 ((tick_leadsTo h).2 device hleads) hquiet hrest
    | exit worker =>
      exact ih (exit_leadsTo h hstep).1 ((exit_leadsTo h hstep).2 device hleads) hquiet hrest

/-- **The last click.**  Take any run from a tray at rest, with `command` the last click.  Once
the queue is empty and no switch is in progress, the only active target is the one `command`
asks for exactly when the click was not dropped, or the last pending request was for the same
target anyway. -/
theorem activeOnly_iff {ctx s t : TrayContext} {before after : List Event}
    {command : DeviceCommand} (start : Quiet ctx) (hbefore : run step ctx before = some s)
    (valid : s.outOfRange command = false)
    (hafter : run step s (.click command :: after) = some t)
    (last : ∀ other, Event.click other ∉ after) (empty : t.commands = [])
    (settled : t.switching = false) :
    ActiveOnly t (target command) ↔
      dropped s command = false ∨ lastRequest s = some (target command) := by
  have hs : Inv s := inv_run start.inv hbefore
  obtain ⟨next, hstep, hrun⟩ := run_cons_some.1 hafter
  cases hstep
  have hnext : Inv (s.queueDeviceCommand command) := inv_click hs command
  have hcommands := queueDeviceCommand_commands s command
  -- Whatever is pending after the click is what the run ends with.
  have ends : ∀ device, lastRequest (s.queueDeviceCommand command) = some device →
      ActiveOnly t device := fun device hlast => by
    rcases leadsTo_run hnext (.inl hlast) last hrun with hpending | ⟨-, hactive, -⟩
    · rw [lastRequest_eq_none.2 ⟨empty, settled⟩] at hpending
      cases hpending
    · exact hactive
  cases hdropped : dropped s command with
  | false =>
    rw [hdropped] at hcommands
    have hlast : lastRequest (s.queueDeviceCommand command) = some (target command) := by
      rw [lastRequest, hcommands]
      simp
    exact ⟨fun _ => .inl rfl, fun _ => ends _ hlast⟩
  | true =>
    obtain ⟨device, hdevice⟩ := lastRequest_of_dropped hs valid hdropped
    have hkept : lastRequest (s.queueDeviceCommand command) = lastRequest s := by
      rw [hdropped] at hcommands
      obtain ⟨commands, flow, hq, -⟩ := queueDeviceCommand_frame s command
      rw [hq] at hcommands ⊢
      rw [lastRequest, lastRequest, show commands = s.commands from hcommands]
    have hactive := ends device (hkept.trans hdevice)
    rw [hdevice]
    constructor
    · intro hwanted
      exact .inr (by rw [hwanted.unique hactive])
    · rintro (hfalse | hsame)
      · cases hfalse
      · rwa [← Option.some.inj hsame]

/-- A tray with two devices. -/
def twoDevices : TrayContext :=
  fresh { devices := [{ lastIpv4 := ascii "10.0.0.1" }, { lastIpv4 := ascii "10.0.0.2" }] }

theorem twoDevices_quiet : Quiet twoDevices where
  aligned := rfl
  resolvable := by decide +kernel
  commands := rfl
  switching := rfl
  switchingTo := rfl
  noRestart := rfl
  flow := by decide

theorem activeOnly_iff_one_click :
    ∃ t, run step twoDevices [.click ⟨.switch, 0⟩, .tick, .tick] = some t ∧
      ActiveOnly t (some 0) :=
  ⟨_, rfl, (@activeOnly_iff twoDevices twoDevices _ [] [.tick, .tick] ⟨.switch, 0⟩
    twoDevices_quiet rfl (by decide) rfl (by simp) rfl rfl).2 (.inl (by decide +kernel))⟩

/-- Clicks on the first device, the second and the first again, all before a tick: the third
click is dropped, because the first one is still in the queue, and the second device wins. -/
theorem activeOnly_fails_switch_back :
    ∃ t, Quiet twoDevices ∧
      run step twoDevices [.click ⟨.switch, 0⟩, .click ⟨.switch, 1⟩, .click ⟨.switch, 0⟩,
        .tick, .tick, .tick, .exit (.wifi 0), .tick] = some t ∧
      t.commands = [] ∧ t.switching = false ∧ ¬ActiveOnly t (some 0) := by
  refine ⟨_, twoDevices_quiet, rfl, rfl, rfl, fun hactive => ?_⟩
  have hfirst := (hactive.2 0).2 rfl
  exact absurd hfirst (by decide +kernel)

end SecondDisplay.CommandQueue
