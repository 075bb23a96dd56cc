import SecondDisplay.App.TrayHandlers
import SecondDisplay.Library.Transitions
import Mathlib.Data.Finset.Card
import Mathlib.Data.Nat.Find

/-!
# A pending switch ends

As long as nothing interferes with a pending switch, every sender it waits for has been asked to
stop, in every state of every run (`pending_switch`).  Workers that were asked to stop leave, so
the flag is cleared again and again, and every command in the queue gets its turn.

What interferes is a start outside `ProcessDeviceCommands`, and a save that changes the list of
devices while a settings restart counts positions in it.
-/

namespace SecondDisplay.Switching

open TrayContext Transitions

/-! ### Steps that leave a pending switch alone -/

/-- An event starts a sender next to a pending switch, or moves the devices of a restart list. -/
def interferes (ctx : TrayContext) : Event → Bool
  | .timer outside =>
    let ticked := (ctx.refreshUsbDevices outside false).processDeviceCommands
    ticked.switching && failoverStarts ticked outside
  | .save form saved =>
    ctx.restartPending && saved && decide (form.editedDevices ctx.cfg.devices ≠ ctx.cfg.devices)
  | event => ctx.switching && startsSender ctx event

/-- One step of the tray that does not interfere. -/
def calmStep (ctx : TrayContext) (event : Event) : Option TrayContext :=
  if interferes ctx event then none else ctx.step event

theorem Handled.trans_calmer {a b c : TrayContext} (hab : Handled a b) (hbc : Calmer b c) :
    Handled a c :=
  ⟨inv_calmer hab.inv hbc, hbc.switching.trans hab.switching,
    fun hs => (hab.calmer hs).trans hbc, hab.commands.trans hbc.commands⟩

/-- After `ProcessDeviceCommands` the rest of a timer event is a handler like the others. -/
theorem handled_timer {ctx : TrayContext} (outside : Outside) (h : Inv ctx)
    (hguard : interferes ctx (.timer outside) = false) :
    Handled (ctx.refreshUsbDevices outside false).processDeviceCommands (ctx.onTimer outside) := by
  have hrefreshed := inv_calmer h (Calmer.refreshUsbDevices ctx outside false)
  exact (handled_advanceStartupAutoConnect outside (inv_processDeviceCommands hrefreshed)
    (processDeviceCommands_restartPending hrefreshed) hguard).trans_calmer
      (Calmer.rememberSuccessfulTransport _ outside)

/-- Every event but a timer and a save is handled next to a pending switch. -/
theorem handled_step {ctx ctx' : TrayContext} {event : Event} (h : Inv ctx)
    (hstep : calmStep ctx event = some ctx') (htimer : ∀ outside, event ≠ .timer outside)
    (hsave : ∀ form saved, event ≠ .save form saved) : Handled ctx ctx' := by
  rw [calmStep, Option.ite_none_left_eq_some, Bool.not_eq_true] at hstep
  obtain ⟨hguard, hstep⟩ := hstep
  cases event with
  | timer outside => exact absurd rfl (htimer outside)
  | save form saved => exact absurd rfl (hsave form saved)
  | command command =>
    cases hstep
    exact .of_calmer h (Calmer.queueDeviceCommand ctx command)
  | deviceEntry index =>
    cases hstep
    exact handled_deviceEntry h index
  | connect =>
    cases hstep
    exact handled_connectAll h hguard
  | usbEntry index =>
    cases hstep
    exact handled_usbEntry h index hguard
  | disconnectUsb =>
    cases hstep
    exact .of_calmer h ((Calmer.setTransport_none ctx).trans (Calmer.stopUsbSession _))
  | toggle outside =>
    cases hstep
    exact handled_toggle outside h hguard
  | retryOrSwitch outside selected =>
    cases hstep
    exact handled_retryOrSwitch outside selected h hguard
  | discovered records =>
    cases hstep
    exact .of_calmer h (.of_eq rfl rfl rfl rfl rfl rfl rfl)
  | report worker report =>
    exact .of_calmer h (Calmer.workerStep (SenderApp.tame_publish report) hstep)
  | exit worker => exact .of_calmer h (Calmer.workerStep SenderApp.tame_finish hstep)

/-- A save that does not interfere. -/
theorem save_step {ctx ctx' : TrayContext} {form : PanelForm} {saved : Bool} (h : Inv ctx)
    (hstep : calmStep ctx (.save form saved) = some ctx') :
    Calmer ctx ctx' ∨ Saved ctx ctx' := by
  rw [calmStep, Option.ite_none_left_eq_some, Bool.not_eq_true] at hstep
  obtain ⟨hguard, hstep⟩ := hstep
  cases hstep
  refine savePanelSettings_cases h form saved fun hp hs => ?_
  rw [interferes, hp, hs] at hguard
  simpa using hguard

theorem timer_step {ctx ctx' : TrayContext} {outside : Outside}
    (hstep : calmStep ctx (.timer outside) = some ctx') :
    ctx' = ctx.onTimer outside ∧ interferes ctx (.timer outside) = false := by
  rw [calmStep, Option.ite_none_left_eq_some, Bool.not_eq_true] at hstep
  exact ⟨(Option.some.inj hstep.2).symm, hstep.1⟩

/-- **Every step keeps the invariant.** -/
theorem inv_step {ctx ctx' : TrayContext} {event : Event} (h : Inv ctx)
    (hstep : calmStep ctx event = some ctx') : Inv ctx' := by
  by_cases htimer : ∃ outside, event = .timer outside
  · obtain ⟨outside, rfl⟩ := htimer
    obtain ⟨rfl, hguard⟩ := timer_step hstep
    exact (handled_timer outside h hguard).inv
  · by_cases hsave : ∃ form saved, event = .save form saved
    · obtain ⟨form, saved, rfl⟩ := hsave
      rcases save_step h hstep with hcalm | hsaved
      · exact inv_calmer h hcalm
      · exact hsaved.inv h
    · push Not at htimer hsave
      exact (handled_step h hstep htimer hsave).inv

/-! ### The queue -/

/-- A step adds to the queue, or takes a command from its front. -/
theorem commands_step {ctx ctx' : TrayContext} {event : Event} (h : Inv ctx)
    (hstep : calmStep ctx event = some ctx') :
    ctx.commands <+: ctx'.commands ∨ ∃ outside command rest, event = .timer outside ∧
      ctx.switching = false ∧ ctx.commands = command :: rest ∧ rest <+: ctx'.commands := by
  by_cases htimer : ∃ outside, event = .timer outside
  · obtain ⟨outside, rfl⟩ := htimer
    obtain ⟨rfl, hguard⟩ := timer_step hstep
    have hcalm := Calmer.refreshUsbDevices ctx outside false
    have hhandled := handled_timer outside h hguard
    rcases processDeviceCommands_cases (ctx.refreshUsbDevices outside false) with ⟨heq, -⟩ |
      ⟨heq, -⟩ | ⟨heq, -⟩ | ⟨command, rest, heq, hs, hqueue⟩
    · refine .inl ((hcalm.commands.trans ?_).trans hhandled.commands)
      rw [heq]
      exact List.prefix_rfl
    · refine .inl ((hcalm.commands.trans ?_).trans hhandled.commands)
      rw [heq, finishRestart, restartUsb, restartApps, startEach_frame]
      split <;> exact List.prefix_rfl
    · refine .inl ((hcalm.commands.trans ?_).trans hhandled.commands)
      rw [heq, finishSwitch_frame]
      exact List.prefix_rfl
    · have hsame : (ctx.refreshUsbDevices outside false).commands = ctx.commands := by
        rw [refreshUsbDevices]
        split <;> rfl
      refine .inr ⟨outside, command, rest, rfl, hcalm.switching ▸ hs, hsame ▸ hqueue, ?_⟩
      have hbegun := hhandled.commands
      rw [heq, beginCommand_frame] at hbegun
      exact hbegun
  · by_cases hsave : ∃ form saved, event = .save form saved
    · obtain ⟨form, saved, rfl⟩ := hsave
      rcases save_step h hstep with hcalm | hsaved
      · exact .inl hcalm.commands
      · exact .inl (hsaved.commands ▸ List.prefix_rfl)
    · push Not at htimer hsave
      exact .inl (handled_step h hstep htimer hsave).commands

/-- A timer event that finds no switch pending takes the command at the front. -/
theorem timer_takes {ctx ctx' : TrayContext} {outside : Outside} {command : DeviceCommand}
    {rest : List DeviceCommand} (h : Inv ctx)
    (hstep : calmStep ctx (.timer outside) = some ctx') (hs : ctx.switching = false)
    (hqueue : ctx.commands = command :: rest) : rest <+: ctx'.commands := by
  obtain ⟨rfl, hguard⟩ := timer_step hstep
  have hhandled := handled_timer outside h hguard
  have hclear : (ctx.refreshUsbDevices outside false).switching = false :=
    (Calmer.refreshUsbDevices ctx outside false).switching.trans hs
  have hsame : (ctx.refreshUsbDevices outside false).commands = command :: rest := by
    rw [← hqueue, refreshUsbDevices]
    split <;> rfl
  rcases processDeviceCommands_cases (ctx.refreshUsbDevices outside false) with
    ⟨-, ⟨hset, -⟩ | ⟨-, hnil⟩⟩ | ⟨-, hset, -⟩ | ⟨-, hset, -⟩ | ⟨command', rest', heq, -, hfront⟩
  · rw [hclear] at hset
    cases hset
  · rw [hsame] at hnil
    cases hnil
  · rw [hclear] at hset
    cases hset
  · rw [hclear] at hset
    cases hset
  · have hbegun := hhandled.commands
    rw [heq, beginCommand_frame] at hbegun
    rw [hsame] at hfront
    cases hfront
    exact hbegun

/-- Only a timer event and a save change the flag. -/
theorem switching_step {ctx ctx' : TrayContext} {event : Event} (h : Inv ctx)
    (hstep : calmStep ctx event = some ctx') (htimer : ∀ outside, event ≠ .timer outside)
    (hsave : ∀ form saved, event ≠ .save form saved) : ctx'.switching = ctx.switching :=
  (handled_step h hstep htimer hsave).switching

/-! ### Senders leave -/

/-- While a switch stays pending, a timer event starts nothing and waits for a sender. -/
theorem timer_waits {ctx ctx' : TrayContext} {outside : Outside} (h : Inv ctx)
    (hstep : calmStep ctx (.timer outside) = some ctx') (hs : ctx.switching = true)
    (hs' : ctx'.switching = true) : Calmer ctx ctx' ∧ ctx.waits = true := by
  obtain ⟨rfl, hguard⟩ := timer_step hstep
  have hcalm := Calmer.refreshUsbDevices ctx outside false
  have hhandled := handled_timer outside h hguard
  have hticked := hhandled.switching.symm.trans hs'
  obtain ⟨heq, hwaits⟩ := processDeviceCommands_waiting (hcalm.switching.trans hs) hticked
  refine ⟨(hcalm.trans ?_).trans (hhandled.calmer hticked), ?_⟩
  · rw [heq]
    exact Calmer.reapRetired _
  · rw [← hwaits, refreshUsbDevices]
    split <;> rfl

/-- While a switch stays pending, no step starts a sender. -/
theorem runs_step {ctx ctx' : TrayContext} {event : Event} (h : Inv ctx)
    (hstep : calmStep ctx event = some ctx') (hs : ctx.switching = true)
    (hs' : ctx'.switching = true) {object : Nat} (hruns : Runs ctx' object) :
    Runs ctx object := by
  by_cases htimer : ∃ outside, event = .timer outside
  · obtain ⟨outside, rfl⟩ := htimer
    exact hruns.of_calmer (timer_waits h hstep hs hs').1
  · by_cases hsave : ∃ form saved, event = .save form saved
    · obtain ⟨form, saved, rfl⟩ := hsave
      rcases save_step h hstep with hcalm | hsaved
      · exact hruns.of_calmer hcalm
      · exact hsaved.runs hruns
    · push Not at htimer hsave
      exact hruns.of_calmer ((handled_step h hstep htimer hsave).calmer hs)

/-- The objects of the senders that run. -/
def running (ctx : TrayContext) : Finset Nat :=
  (((ctx.usbApp.toList ++ ctx.apps).filter (·.running)).map (·.object)).toFinset

theorem mem_running {ctx : TrayContext} {object : Nat} :
    object ∈ running ctx ↔ Runs ctx object := by
  simp only [running, List.mem_toFinset, List.mem_map, List.mem_filter, List.mem_append,
    Option.mem_toList, Runs, and_assoc]

/-! ### The first state -/

theorem rest_fresh (cfg : Config) : Rest (fresh cfg) where
  aligned := by simp [fresh]
  pending := rfl
  exclusive := nofun
  usbTarget := nofun

/-- The tray starts with the invariant. -/
theorem inv_runTray (cfg : Config) (resume : Option (List Bytes)) (outside : Outside) :
    Inv (runTray cfg resume outside) := by
  simp only [runTray]
  generalize { cfg with
    devices := cfg.devices.filter fun device => !isUsbMuxTarget (splitDeviceAddress device) } = kept
  have hrest := rest_fresh kept
  cases resume with
  | some addresses =>
    have hstarted : Rest ((fresh kept).startAddresses addresses) := rest_startEach hrest rfl _
    refine hstarted.inv ?_
    rw [startAddresses, startEach_frame]
    exact ⟨nofun, nofun⟩
  | none =>
    have hinv : Inv (fresh kept) := hrest.inv ⟨nofun, nofun⟩
    dsimp only
    split
    · exact (handled_beginStartupAutoConnect outside hinv rfl).inv
    · exact hinv

/-! ### Executions -/

/-- What the environment owes the tray: the timer keeps firing, and a worker that was asked to
stop leaves one day. -/
structure Fair (x : Execution calmStep) : Prop where
  timers : ∀ n, ∃ m, n ≤ m ∧ ∃ outside, x.event m = .timer outside
  workers : ∀ (n : Nat) (app : SenderApp),
    ((x.state n).usbApp = some app ∨ app ∈ (x.state n).apps) → app.running = true →
      app.stopRequested = true → ∃ m, n ≤ m ∧ ¬Runs (x.state m) app.object

/-- The timer event at which `ProcessDeviceCommands` takes a command from the queue. -/
def Processed (x : Execution calmStep) (n : Nat) (command : DeviceCommand) : Prop :=
  ∃ outside rest, x.event n = .timer outside ∧ (x.state n).switching = false ∧
    (x.state n).commands = command :: rest

theorem inv_state {x : Execution calmStep} (start : Inv (x.state 0)) (n : Nat) :
    Inv (x.state n) :=
  x.invariant (fun _ _ _ h hstep => inv_step h hstep) start n

/-- Over a stretch with a pending switch, senders only leave. -/
theorem running_subset {x : Execution calmStep} (start : Inv (x.state 0)) {n m : Nat}
    (hnm : n ≤ m) (hs : ∀ k, n ≤ k → k ≤ m → (x.state k).switching = true) :
    running (x.state m) ⊆ running (x.state n) := by
  induction hnm with
  | refl => exact Finset.Subset.refl _
  | @step m hnm ih =>
    have hbefore := ih fun k hnk hkm => hs k hnk (Nat.le_succ_of_le hkm)
    refine Finset.Subset.trans (fun object hmem => ?_) hbefore
    exact mem_running.2 (runs_step (inv_state start m) (x.next m) (hs m hnm (Nat.le_succ m))
      (hs (m + 1) (Nat.le_succ_of_le hnm) (Nat.le_refl _)) (mem_running.1 hmem))

/-- **A pending switch ends.**  At each timer event it waits for a sender that was asked to stop,
and that sender leaves for good. -/
theorem switching_ends {x : Execution calmStep} (start : Inv (x.state 0)) (fair : Fair x)
    (n : Nat) : ∃ m, n ≤ m ∧ (x.state m).switching = false := by
  have hend := ends_of_descent (P := fun n => (x.state n).switching = true)
    (fun n => (running (x.state n)).card) ?_ n
  · obtain ⟨m, hnm, hm⟩ := hend
    exact ⟨m, hnm, Bool.not_eq_true _ ▸ hm⟩
  · intro n _
    obtain ⟨t, hnt, outside, htimer⟩ := fair.timers n
    by_cases hpending : ∀ k, n ≤ k → k ≤ t + 1 → (x.state k).switching = true
    · have hstep := x.next t
      rw [htimer] at hstep
      have hs := hpending t hnt (Nat.le_succ t)
      obtain ⟨-, hwaits⟩ := timer_waits (inv_state start t) hstep hs
        (hpending (t + 1) (Nat.le_succ_of_le hnt) (Nat.le_refl _))
      obtain ⟨app, hwait, hup⟩ := (waits_iff _).1 hwaits
      have hasked := (inv_state start t).asked hs app hwait hup
      obtain ⟨l, htl, hgone⟩ := fair.workers t app hwait.mem hup hasked
      by_cases hstill : ∀ k, n ≤ k → k ≤ l → (x.state k).switching = true
      · refine ⟨l, Nat.le_trans hnt htl, .inr (Finset.card_lt_card ?_)⟩
        have hthen : app.object ∈ running (x.state n) :=
          running_subset start hnt (fun k hnk hkt => hpending k hnk (Nat.le_succ_of_le hkt))
            (mem_running.2 ⟨app, hwait.mem, hup, rfl⟩)
        exact (Finset.ssubset_iff_of_subset
          (running_subset start (Nat.le_trans hnt htl) hstill)).2
            ⟨app.object, hthen, fun hmem => hgone (mem_running.1 hmem)⟩
      · push Not at hstill
        obtain ⟨k, hnk, -, hk⟩ := hstill
        exact ⟨k, hnk, .inl hk⟩
    · push Not at hpending
      obtain ⟨k, hnk, -, hk⟩ := hpending
      exact ⟨k, hnk, .inl hk⟩

/-- From one moment on the user saves no settings. -/
def NoSaves (x : Execution calmStep) (last : Nat) : Prop :=
  ∀ n, last ≤ n → ∀ form saved, x.event n ≠ .save form saved

/-- Without saves there is a timer event that finds no switch pending. -/
theorem idle_timer {x : Execution calmStep} (start : Inv (x.state 0)) (fair : Fair x)
    {last : Nat} (nosaves : NoSaves x last) {n : Nat} (hn : last ≤ n) :
    ∃ m, n ≤ m ∧ (∃ outside, x.event m = .timer outside) ∧ (x.state m).switching = false := by
  obtain ⟨m, hnm, hclear⟩ := switching_ends start fair n
  classical
  have htimers := fair.timers m
  have hfound := Nat.find_spec htimers
  refine ⟨Nat.find htimers, Nat.le_trans hnm hfound.1, hfound.2, ?_⟩
  -- No event before the first timer event sets the flag.
  have hkept : ∀ k, m ≤ k → k ≤ Nat.find htimers → (x.state k).switching = false := by
    intro k hmk
    induction hmk with
    | refl => exact fun _ => hclear
    | @step k hmk ih =>
      intro hk
      have hbefore := ih (Nat.le_of_succ_le hk)
      refine (switching_step (inv_state start k) (x.next k) (fun outside htimer => ?_)
        (nosaves k (Nat.le_trans hn (Nat.le_trans hnm hmk)))).trans hbefore
      exact Nat.find_min htimers hk ⟨hmk, outside, htimer⟩
  exact hkept _ hfound.1 (Nat.le_refl _)

theorem place_kept {xs ys : List DeviceCommand} (h : xs <+: ys) {i : Nat}
    {command : DeviceCommand} (hi : xs[i]? = some command) : ys[i]? = some command := by
  obtain ⟨zs, rfl⟩ := h
  rw [List.getElem?_append_left (List.getElem?_eq_some_iff.1 hi).1, hi]

/-- A command in the queue moves to the front, until it is processed. -/
theorem queued_until {x : Execution calmStep} (start : Inv (x.state 0)) {n m : Nat}
    (hnm : n ≤ m) {i : Nat} {command : DeviceCommand}
    (hqueued : (x.state n).commands[i]? = some command) :
    (∃ k, n ≤ k ∧ Processed x k command) ∨
      ∃ j ≤ i, (x.state m).commands[j]? = some command := by
  induction hnm with
  | refl => exact .inr ⟨i, Nat.le_refl i, hqueued⟩
  | @step m hnm ih =>
    rcases ih with hprocessed | ⟨j, hji, hj⟩
    · exact .inl hprocessed
    · rcases commands_step (inv_state start m) (x.next m) with hstarts |
        ⟨outside, front, rest, htimer, hs, hqueue, hstarts⟩
      · exact .inr ⟨j, hji, place_kept hstarts hj⟩
      · rw [hqueue] at hj
        cases j with
        | zero =>
          cases hj
          exact .inl ⟨m, hnm, outside, rest, htimer, hs, hqueue⟩
        | succ j => exact .inr ⟨j, Nat.le_of_succ_le hji, place_kept hstarts hj⟩

/-- **Every command gets its turn**, unless the user saves for ever. -/
theorem queue_served {x : Execution calmStep} (start : Inv (x.state 0)) (fair : Fair x)
    {last : Nat} (nosaves : NoSaves x last) (i : Nat) {n : Nat} (hn : last ≤ n)
    {command : DeviceCommand} (hqueued : (x.state n).commands[i]? = some command) :
    ∃ m, n ≤ m ∧ Processed x m command := by
  induction i using Nat.strongRecOn generalizing n with
  | ind i ih =>
    obtain ⟨t, hnt, ⟨outside, htimer⟩, hs⟩ := idle_timer start fair nosaves hn
    rcases queued_until start hnt hqueued with hprocessed | ⟨j, hji, hj⟩
    · exact hprocessed
    · cases hqueue : (x.state t).commands with
      | nil =>
        rw [hqueue] at hj
        cases hj
      | cons front rest =>
        rw [hqueue] at hj
        cases j with
        | zero =>
          cases hj
          exact ⟨t, hnt, outside, rest, htimer, hs, hqueue⟩
        | succ j =>
          have hstep := x.next t
          rw [htimer] at hstep
          have hstarts := timer_takes (inv_state start t) hstep hs hqueue
          obtain ⟨m, htm, hm⟩ := ih j hji (Nat.le_trans hn (Nat.le_succ_of_le hnt))
            (place_kept hstarts hj)
          exact ⟨m, by omega, hm⟩

/-! ### The whole run -/

/-- **A pending switch ends.**  In every state of every run that nothing interferes with, the
senders that a pending switch waits for have been asked to stop.  If workers that were asked to
stop leave, the flag is always cleared again, and unless the user saves for ever every command in
the queue is processed. -/
theorem pending_switch (cfg : Config) (resume : Option (List Bytes)) (outside : Outside) :
    (∀ events ctx, run calmStep (runTray cfg resume outside) events = some ctx →
      ctx.switching = true → ∀ app, WaitedFor ctx app → app.running = true →
        app.stopRequested = true) ∧
    ∀ x : Execution calmStep, x.state 0 = runTray cfg resume outside → Fair x →
      (∀ n, ∃ m, n ≤ m ∧ (x.state m).switching = false) ∧
      ∀ last, NoSaves x last → ∀ n command, command ∈ (x.state n).commands →
        ∃ m, n ≤ m ∧ Processed x m command := by
  have hinv := inv_runTray cfg resume outside
  refine ⟨fun events ctx hrun hs => ?_, fun x hstart fair => ?_⟩
  · exact (run_invariant (P := Inv) (fun _ _ _ h hstep => inv_step h hstep) hinv hrun).asked hs
  · have start : Inv (x.state 0) := hstart ▸ hinv
    refine ⟨switching_ends start fair, fun last nosaves n command hmem => ?_⟩
    obtain ⟨i, hi⟩ := List.mem_iff_getElem?.1 hmem
    rcases queued_until start (Nat.le_max_left n last) hi with hprocessed | ⟨j, -, hj⟩
    · exact hprocessed
    · obtain ⟨m, hm, hprocessed⟩ := queue_served start fair nosaves j (Nat.le_max_right n last) hj
      exact ⟨m, Nat.le_trans (Nat.le_max_left n last) hm, hprocessed⟩

/-- A tray that connects to nothing by itself. -/
def manual (devices : List DeviceConfig) : Config := { devices := devices, autoReconnect := false }

/-- A tray without devices on which the user clicks Stop, and nothing else happens. -/
def stopExecution : Execution calmStep where
  state
    | 0 => runTray (manual []) none ⟨0, 0, []⟩
    | 1 => (runTray (manual []) none ⟨0, 0, []⟩).queueDeviceCommand { type := .stop }
    | 2 => ((runTray (manual []) none ⟨0, 0, []⟩).queueDeviceCommand
        { type := .stop }).onTimer ⟨0, 0, []⟩
    | _ => (((runTray (manual []) none ⟨0, 0, []⟩).queueDeviceCommand
        { type := .stop }).onTimer ⟨0, 0, []⟩).onTimer ⟨0, 0, []⟩
  event
    | 0 => .command { type := .stop }
    | _ => .timer ⟨0, 0, []⟩
  next
    | 0 | 1 | 2 | _ + 3 => rfl

theorem stopExecution_fair : Fair stopExecution where
  timers n := ⟨n + 1, Nat.le_succ n, ⟨0, 0, []⟩, rfl⟩
  workers
    | 0, _, hmem | 1, _, hmem | 2, _, hmem | _ + 3, _, hmem => by rcases hmem with h | h <;> cases h

/-- A device is started and then stopped: its sender has been asked to stop.  A Stop with nothing
to stop is processed. -/
theorem pending_switch_stop :
    (∃ ctx app, run calmStep (runTray (manual [{ lastIpv4 := ascii "10.0.0.1" }]) none ⟨0, 0, []⟩)
        [.command ⟨.switch, 0⟩, .timer ⟨250, 0, []⟩, .timer ⟨500, 0, []⟩,
          .command { type := .stop }, .timer ⟨750, 0, []⟩] = some ctx ∧
      ctx.switching = true ∧ app ∈ ctx.apps ∧ app.running = true ∧ app.stopRequested = true) ∧
    ∃ m, 1 ≤ m ∧ Processed stopExecution m { type := .stop } :=
  ⟨⟨_, _, by rfl, rfl, List.mem_cons_self, rfl,
    (pending_switch (manual [{ lastIpv4 := ascii "10.0.0.1" }]) none ⟨0, 0, []⟩).1
      [.command ⟨.switch, 0⟩, .timer ⟨250, 0, []⟩, .timer ⟨500, 0, []⟩,
        .command { type := .stop }, .timer ⟨750, 0, []⟩] _ (by rfl) rfl _
      (.inr List.mem_cons_self) rfl⟩,
    ((pending_switch (manual []) none ⟨0, 0, []⟩).2 stopExecution rfl stopExecution_fair).2 1
      (fun | _ + 1, _, _, _ => nofun) 1 _ List.mem_cons_self⟩

/-- Two sessions run and the user edits the first address: the switch is pending, but the second
session goes on. -/
theorem pending_switch_spares_others :
    ∃ ctx, run step (runTray (manual [{ lastIpv4 := ascii "10.0.0.1" },
          { lastIpv4 := ascii "10.0.0.2" }]) none ⟨0, 0, []⟩)
        [.connect, .save
          { port := some 9000, fps := some 60, bitrateMbps := some 30
            devices := [{ lastIpv4 := ascii "10.0.0.3" }, { lastIpv4 := ascii "10.0.0.2" }]
            autoReconnect := false, requirePrivateNetwork := true } true] = some ctx ∧
      ctx.switching = true ∧ ∃ app ∈ ctx.apps, app.running = true ∧ app.stopRequested = false :=
  ⟨_, rfl, by decide +kernel, by decide +kernel⟩

end SecondDisplay.Switching
