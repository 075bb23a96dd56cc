import SecondDisplay.App.TrayApp

/-!
# What the handlers of the tray do

The facts that every proof about the tray uses: what starting and stopping does to the set of
running senders, and the four things that a tick of `ProcessDeviceCommands` can be.
-/

namespace SecondDisplay.TrayContext

/-! ### Running senders -/

/-- The cable sender runs. -/
def usbRunning (ctx : TrayContext) : Bool := ctx.usbApp.any (·.running)

/-- Some configured sender runs. -/
def wifiRunning (ctx : TrayContext) : Bool := ctx.apps.any (·.running)

theorem anyRunning_eq (ctx : TrayContext) :
    ctx.anyRunning = (ctx.usbRunning || ctx.wifiRunning) := rfl

/-- Some configured sender runs when one at a position does. -/
theorem wifiRunning_of_appRunning {ctx : TrayContext} {index : Nat}
    (h : ctx.appRunning index = true) : ctx.wifiRunning = true := by
  rw [appRunning, Option.any_eq_true] at h
  obtain ⟨app, happ, hrunning⟩ := h
  exact List.any_eq_true.2 ⟨app, List.mem_of_getElem? happ, hrunning⟩

/-- When no configured sender runs, none at any position does. -/
theorem appRunning_of_not_wifiRunning {ctx : TrayContext} (h : ctx.wifiRunning = false)
    (index : Nat) : ctx.appRunning index = false := by
  cases hr : ctx.appRunning index with
  | false => rfl
  | true => rw [wifiRunning_of_appRunning hr] at h; exact h

/-- Starting a sender leaves the others as they are and has this one running. -/
theorem appRunning_startApp (ctx : TrayContext) (index : Nat) (target : Bytes) (i : Nat)
    (h : index < ctx.apps.length) :
    (ctx.startApp index target).appRunning i = (decide (index = i) || ctx.appRunning i) := by
  rw [appRunning, startApp, List.getElem?_modify]
  by_cases hi : index = i
  · subst hi
    simp [List.getElem?_eq_getElem h]
  · simp [hi, appRunning]

/-- The senders after a start: the one that was started, and the others as they were. -/
theorem mem_startApp {ctx : TrayContext} {index : Nat} {target : Bytes} {app : SenderApp}
    (h : app ∈ (ctx.startApp index target).apps) :
    app ∈ ctx.apps ∨ ∃ old, ctx.apps[index]? = some old ∧
      app = old.start target (ctx.devicePort index) (makeStreamSettings ctx.cfg false)
        (ctx.deviceId index) := by
  obtain ⟨i, hi⟩ := List.mem_iff_getElem?.1 h
  rw [startApp, List.getElem?_modify] at hi
  obtain ⟨old, hold, rfl⟩ := Option.map_eq_some_iff.1 hi
  by_cases hindex : index = i
  · exact .inr ⟨old, hindex ▸ hold, if_pos hindex⟩
  · rw [if_neg hindex]
    exact .inl (List.mem_of_getElem? hold)

@[simp] theorem startApp_apps_length (ctx : TrayContext) (index : Nat) (target : Bytes) :
    (ctx.startApp index target).apps.length = ctx.apps.length :=
  List.length_modify ..

/-- A loop of starts changes the senders only. -/
theorem startEach_frame (ctx : TrayContext) (targets : List (Nat × Bytes)) :
    ctx.startEach targets = { ctx with apps := (ctx.startEach targets).apps } := by
  induction targets generalizing ctx with
  | nil => rfl
  | cons p targets ih => exact ih (ctx.startApp p.1 p.2)

theorem startEach_apps_length (ctx : TrayContext) (targets : List (Nat × Bytes)) :
    (ctx.startEach targets).apps.length = ctx.apps.length := by
  induction targets generalizing ctx with
  | nil => rfl
  | cons p targets ih => exact (ih (ctx.startApp p.1 p.2)).trans (startApp_apps_length ..)

/-- A sender after a start that may find it running. -/
structure Started (app app' : SenderApp) : Prop where
  running : app'.running = true
  object : app'.object = app.object
  kept : app.running = true → app' = app
  fresh : app.running = false → app'.stopRequested = false

theorem started_start (app : SenderApp) (ip : Bytes) (port : UInt16) (settings : StreamSettings)
    (expected : Bytes) : Started app (app.start ip port settings expected) where
  running := SenderApp.start_running ..
  object := SenderApp.start_object ..
  kept h := by rw [SenderApp.start, if_pos h]
  fresh h := SenderApp.start_stopRequested h ..

theorem Started.trans {a b c : SenderApp} (hab : Started a b) (hbc : Started b c) :
    Started a c where
  running := hbc.running
  object := hbc.object.trans hab.object
  kept h := (hbc.kept hab.running).trans (hab.kept h)
  fresh h := by rw [hbc.kept hab.running, hab.fresh h]

/-- The senders after a loop of starts: those at the given positions run. -/
theorem getElem?_startEach {ctx : TrayContext} {targets : List (Nat × Bytes)} {i : Nat}
    {app' : SenderApp} (h : (ctx.startEach targets).apps[i]? = some app') :
    ∃ app : SenderApp, ctx.apps[i]? = some app ∧
      ((i ∉ targets.map Prod.fst ∧ app' = app) ∨
        (i ∈ targets.map Prod.fst ∧ Started app app')) := by
  induction targets generalizing ctx with
  | nil => exact ⟨app', h, .inl ⟨by simp, rfl⟩⟩
  | cons p targets ih =>
    obtain ⟨next, hnext, hcases⟩ := @ih (ctx.startApp p.1 p.2) h
    rw [startApp, List.getElem?_modify] at hnext
    obtain ⟨app, happ, rfl⟩ := Option.map_eq_some_iff.1 hnext
    refine ⟨app, happ, ?_⟩
    rw [List.map_cons, List.mem_cons, not_or]
    by_cases hi : p.1 = i
    · rw [if_pos hi] at hcases
      refine .inr ⟨.inl hi.symm, ?_⟩
      rcases hcases with ⟨-, rfl⟩ | ⟨-, hstarted⟩
      · exact started_start ..
      · exact (started_start ..).trans hstarted
    · rw [if_neg hi] at hcases
      rcases hcases with ⟨hmem, rfl⟩ | ⟨hmem, hstarted⟩
      · exact .inl ⟨⟨fun heq => hi heq.symm, hmem⟩, rfl⟩
      · exact .inr ⟨.inr hmem, hstarted⟩

/-- Starting the chosen device changes the senders only. -/
theorem startChosen_frame (ctx : TrayContext) :
    ctx.startChosen = { ctx with apps := ctx.startChosen.apps } := by
  rw [startChosen]
  split
  · rfl
  · split <;> rfl

theorem startChosen_none {ctx : TrayContext} (h : ctx.switchingTo = none) :
    ctx.startChosen = ctx := by
  rw [startChosen, h]

theorem startChosen_some {ctx : TrayContext} {index : Nat} (h : ctx.switchingTo = some index)
    (htarget : ctx.resolveDeviceTarget index ≠ []) :
    ctx.startChosen = ctx.startApp index (ctx.resolveDeviceTarget index) := by
  rw [startChosen, h]
  exact if_neg htarget

theorem startChosen_apps_length (ctx : TrayContext) :
    ctx.startChosen.apps.length = ctx.apps.length := by
  rw [startChosen]
  split
  · rfl
  · split
    · rfl
    · exact startApp_apps_length ..

/-- The senders after a settings restart: those on the restart list run. -/
theorem getElem?_finishRestart {ctx : TrayContext} {i : Nat} {app' : SenderApp}
    (h : ctx.finishRestart.apps[i]? = some app') :
    ∃ app : SenderApp, ctx.apps[i]? = some app ∧
      ((i ∉ ctx.restartAfterStop ∧ app' = app) ∨
        (i ∈ ctx.restartAfterStop ∧ Started app app')) := by
  have happs : ctx.finishRestart.apps = ctx.restartApps.apps := by
    rw [finishRestart, restartUsb]
    split <;> rfl
  rw [happs, restartApps] at h
  simpa [List.map_map, Function.comp_def] using getElem?_startEach h

theorem finishRestart_apps_length (ctx : TrayContext) :
    ctx.finishRestart.apps.length = ctx.apps.length := by
  have happs : ctx.finishRestart.apps = ctx.restartApps.apps := by
    rw [finishRestart, restartUsb]
    split <;> rfl
  rw [happs]
  exact startEach_apps_length ..

/-- A settings restart changes the senders and clears the restart. -/
theorem finishRestart_frame (ctx : TrayContext) :
    ctx.finishRestart = { ctx with
      apps := ctx.finishRestart.apps
      usbApp := ctx.restartUsb.usbApp
      activeUsbTarget := ctx.restartUsb.activeUsbTarget
      nextObject := ctx.restartUsb.nextObject
      restartAfterStop := []
      restartUsbTarget := []
      switching := false } := by
  rw [finishRestart, restartApps, startEach_frame, restartUsb, restartUsb]
  split <;> rfl

/-- A completed switch leaves no cable sender behind and clears the switch. -/
theorem finishSwitch_frame (ctx : TrayContext) :
    ctx.finishSwitch = { ctx with
      apps := ctx.finishSwitch.apps
      usbApp := none
      activeUsbTarget := if ctx.usbApp.isSome then [] else ctx.activeUsbTarget
      switching := false
      switchingTo := none
      deviceFlow := ctx.deviceFlow.completeSwitch false } := by
  rw [finishSwitch, startChosen_frame]
  rfl

theorem finishSwitch_apps_length (ctx : TrayContext) :
    ctx.finishSwitch.apps.length = ctx.apps.length :=
  startChosen_apps_length ctx.stopUsbSession

/-- A command that is carried out asks every sender to stop. -/
theorem beginCommand_frame (ctx : TrayContext) (command : DeviceCommand) :
    ctx.beginCommand command = { ctx.setTransport .none with
      apps := ctx.apps.map SenderApp.requestStop
      usbApp := ctx.usbApp.map SenderApp.requestStop
      deviceFlow :=
        if command.type = .stop then DeviceCoordinator.reset else ctx.deviceFlow
      switching := true
      switchingTo := if command.type = .stop then none else some command.index } := by
  rw [beginCommand]
  cases command.type <;> rfl

/-- A click changes the coordinator and adds to the queue, nothing else. -/
theorem queueDeviceCommand_frame (ctx : TrayContext) (command : DeviceCommand) :
    ∃ commands flow, ctx.queueDeviceCommand command =
      { ctx with commands := commands, deviceFlow := flow } ∧ ctx.commands <+: commands := by
  rw [queueDeviceCommand]
  split
  · exact ⟨_, _, rfl, List.prefix_rfl⟩
  · split
    · exact ⟨_, _, rfl, List.prefix_rfl⟩
    · split
      · exact ⟨_, _, rfl, List.prefix_rfl⟩
      · refine ⟨_, _, rfl, ?_⟩
        split
        · exact List.prefix_rfl
        · exact List.prefix_append ..

/-! ### One tick of `ProcessDeviceCommands` -/

theorem restartPending_eq_true {ctx : TrayContext} :
    ctx.restartPending = true ↔ ctx.restartAfterStop ≠ [] ∨ ctx.restartUsbTarget ≠ [] := by
  rw [restartPending, Bool.or_eq_true, decide_eq_true_eq, decide_eq_true_eq]

theorem restartPending_eq_false {ctx : TrayContext} :
    ctx.restartPending = false ↔ ctx.restartAfterStop = [] ∧ ctx.restartUsbTarget = [] := by
  rw [restartPending, Bool.or_eq_false_iff, decide_eq_false_iff_not, decide_eq_false_iff_not,
    not_not, not_not]

/-- What a pending switch still waits for. -/
def waits (ctx : TrayContext) : Bool :=
  if ctx.restartPending then ctx.restartAfterStop.any ctx.appRunning || ctx.usbRunning
  else ctx.anyRunning

/-- **What a tick does.**  It waits, or finds nothing to do; it carries out a settings restart;
it completes a switch; or it takes a command from the queue. -/
theorem processDeviceCommands_cases (ctx : TrayContext) :
    (ctx.processDeviceCommands = ctx.reapRetired ∧
      ((ctx.switching = true ∧ ctx.waits = true) ∨
        (ctx.switching = false ∧ ctx.commands = []))) ∨
    (ctx.processDeviceCommands = ctx.reapRetired.finishRestart ∧
      ctx.switching = true ∧ ctx.waits = false ∧ ctx.restartPending = true) ∨
    (ctx.processDeviceCommands = ctx.reapRetired.finishSwitch ∧
      ctx.switching = true ∧ ctx.anyRunning = false ∧ ctx.restartPending = false) ∨
    ∃ command rest, ctx.processDeviceCommands =
        { ctx.reapRetired with commands := rest }.beginCommand command ∧
      ctx.switching = false ∧ ctx.commands = command :: rest := by
  have happs : ctx.reapRetired.restartAfterStop.any ctx.reapRetired.appRunning =
      ctx.restartAfterStop.any ctx.appRunning := rfl
  have husb : ctx.reapRetired.usbApp.any (·.running) = ctx.usbRunning := rfl
  have hall : ctx.reapRetired.anyRunning = ctx.anyRunning := rfl
  have hpending : ctx.reapRetired.restartPending = ctx.restartPending := rfl
  have hswitching : ctx.reapRetired.switching = ctx.switching := rfl
  have hcommands : ctx.reapRetired.commands = ctx.commands := rfl
  simp only [processDeviceCommands, happs, husb, hall, hpending, hswitching, hcommands, waits]
  cases ctx.switching with
  | false =>
    cases hc : ctx.commands with
    | nil => exact .inl ⟨rfl, .inr ⟨rfl, rfl⟩⟩
    | cons command rest => exact .inr (.inr (.inr ⟨command, rest, rfl, rfl, rfl⟩))
  | true =>
    cases ctx.restartPending with
    | true =>
      cases ctx.restartAfterStop.any ctx.appRunning with
      | true => simp
      | false => cases ctx.usbRunning <;> simp
    | false => cases ctx.anyRunning <;> simp

/-- A tick keeps the number of senders. -/
theorem processDeviceCommands_apps_length (ctx : TrayContext) :
    ctx.processDeviceCommands.apps.length = ctx.apps.length := by
  rcases processDeviceCommands_cases ctx with ⟨heq, -⟩ | ⟨heq, -⟩ | ⟨heq, -⟩ |
    ⟨command, rest, heq, -⟩
  · rw [heq]
    rfl
  · rw [heq]
    exact finishRestart_apps_length ctx.reapRetired
  · rw [heq]
    exact finishSwitch_apps_length ctx.reapRetired
  · rw [heq, beginCommand_frame]
    exact List.length_map ..

/-- A worker event keeps the number of senders. -/
theorem updateSender_apps_length (ctx : TrayContext) (f : SenderApp → SenderApp)
    (worker : Worker) : (ctx.updateSender f worker).apps.length = ctx.apps.length := by
  cases worker with
  | wifi index => exact List.length_modify ..
  | usb => rfl
  | retired index => rfl

end SecondDisplay.TrayContext
