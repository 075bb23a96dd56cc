import SecondDisplay.App.DeviceList
import SecondDisplay.App.SavedTargets

/-!
# One session at a time (`ProcessDeviceCommands`)

Workers run in three places: the configured senders, the cable sender and the retired senders.
`ProcessDeviceCommands` waits for the first two before it starts a target, and a settings restart
waits for the senders on its list only.  So at most one session runs as long as no tick starts a
target over a retired worker, and no settings restart stands for more than the one session that
was running.
-/

namespace SecondDisplay.OneSession

open TrayContext hiding Event step
open DeviceList Transitions
open SavedTargets (active mem_active saved entry listForm)
open Switching (scheduleRestart_cases)

/-! ### Counting sessions -/

/-- The workers that run or tear down. -/
def sessions (ctx : TrayContext) : Nat :=
  ctx.usbApp.toList.countP (·.running) + ctx.apps.countP (·.running) +
    ctx.retiredApps.countP (·.running)

/-- The elements of a list with a property, counted by position. -/
theorem card_positions {α : Type} (p : α → Bool) (l : List α) :
    ((Finset.range l.length).filter fun i => (l[i]?).any p).card = l.countP p := by
  induction l using List.reverseRecOn with
  | nil => rfl
  | append_singleton l x ih =>
    have hbefore : ((Finset.range l.length).filter fun i => ((l ++ [x])[i]?).any p) =
        (Finset.range l.length).filter fun i => (l[i]?).any p := by
      refine Finset.filter_congr fun i hi => ?_
      rw [List.getElem?_append_left (Finset.mem_range.1 hi)]
    rw [List.length_append, List.length_singleton, Finset.range_add_one, Finset.filter_insert,
      hbefore, List.countP_append, List.getElem?_concat_length, Option.any_some,
      List.countP_singleton, ← ih]
    cases p x with
    | false => rfl
    | true =>
      exact Finset.card_insert_of_notMem fun hmem =>
        absurd (Finset.mem_range.1 (Finset.mem_filter.1 hmem).1) (Nat.lt_irrefl _)

theorem card_active (ctx : TrayContext) : (active ctx).card = ctx.apps.countP (·.running) := by
  rw [← card_positions, active]
  rfl

/-- Requests to stop leave the workers running. -/
theorem countP_requestStop (apps : List SenderApp) :
    (apps.map SenderApp.requestStop).countP (·.running) = apps.countP (·.running) := by
  rw [List.countP_map]
  rfl

/-! ### What a tick starts -/

/-- The positions of the senders that a settings restart starts. -/
def restartPositions (ctx : TrayContext) : Finset Nat :=
  (Finset.range ctx.apps.length).filter (· ∈ ctx.restartAfterStop)

/-- How many senders a switch starts once it stops waiting. -/
def starts (ctx : TrayContext) : Nat :=
  if ctx.restartPending then
    (restartPositions ctx).card + if ctx.restartUsbTarget ≠ [] then 1 else 0
  else if ctx.switchingTo.any fun index =>
      decide (index < ctx.apps.length) && decide (ctx.resolveDeviceTarget index ≠ []) then 1
  else 0

/-- How many senders the next tick starts. -/
def startsNow (ctx : TrayContext) : Nat :=
  if ctx.switching = true ∧ ctx.waits = false then starts ctx else 0

theorem sessions_reapRetired (ctx : TrayContext) : sessions ctx.reapRetired = sessions ctx := by
  have hkept : (ctx.retiredApps.filter (·.running)).countP (·.running) =
      ctx.retiredApps.countP (·.running) := by
    rw [List.countP_filter]
    simp
  rw [sessions, sessions, reapRetired]
  dsimp only
  rw [hkept]

theorem countP_usb (usbApp : Option SenderApp) :
    usbApp.toList.countP (·.running) = if usbApp.any (·.running) then 1 else 0 := by
  cases usbApp with
  | none => rfl
  | some app => exact List.countP_singleton

/-- The senders that run after a settings restart: those that ran, and those on its list. -/
theorem active_finishRestart (ctx : TrayContext) :
    active ctx.finishRestart = active ctx ∪ restartPositions ctx := by
  ext i
  rw [Finset.mem_union, mem_active, mem_active, restartPositions, Finset.mem_filter,
    Finset.mem_range, ← finishRestart_apps_length ctx, appRunning, appRunning]
  cases h : ctx.finishRestart.apps[i]? with
  | none =>
    have hout := List.getElem?_eq_none_iff.1 h
    rw [List.getElem?_eq_none (finishRestart_apps_length ctx ▸ hout)]
    simp [Nat.not_lt.2 hout]
  | some app' =>
    have hin := (List.getElem?_eq_some_iff.1 h).1
    obtain ⟨app, happ, ⟨hnot, rfl⟩ | ⟨hmem, hstarted⟩⟩ := getElem?_finishRestart h
    · rw [happ]
      simp [hnot]
    · simp [hstarted.running, hmem, hin]

/-- A settings restart starts the senders on its list and the cable session. -/
theorem sessions_finishRestart {ctx : TrayContext} (hp : ctx.restartPending = true)
    (hw : ctx.waits = false) : sessions ctx.finishRestart = sessions ctx + starts ctx := by
  rw [waits, if_pos hp, Bool.or_eq_false_iff, List.any_eq_false] at hw
  obtain ⟨hlist, husb⟩ := hw
  have hdisjoint : Disjoint (active ctx) (restartPositions ctx) := by
    rw [Finset.disjoint_left]
    intro i hup hrestart
    exact hlist i (Finset.mem_filter.1 hrestart).2 (mem_active.1 hup)
  have happs : ctx.finishRestart.apps.countP (·.running) =
      ctx.apps.countP (·.running) + (restartPositions ctx).card := by
    rw [← card_active, ← card_active, active_finishRestart, Finset.card_union_of_disjoint hdisjoint]
  have hcable : ctx.restartUsb.usbApp.toList.countP (·.running) =
      ctx.usbApp.toList.countP (·.running) + if ctx.restartUsbTarget ≠ [] then 1 else 0 := by
    rw [restartUsb]
    split
    · rw [countP_usb, countP_usb, show ctx.usbApp.any (·.running) = false from husb, launchUsb,
        Option.any_some, SenderApp.start_running]
      rfl
    · rfl
  rw [sessions, sessions, starts, if_pos hp]
  rw [finishRestart_frame] at happs ⊢
  dsimp only at happs ⊢
  rw [happs, hcable]
  omega

/-- A start brings up one more sender, if the position is in the list. -/
theorem countP_startApp {ctx : TrayContext} {index : Nat} (hdown : ctx.appRunning index = false)
    (target : Bytes) : (ctx.startApp index target).apps.countP (·.running) =
      ctx.apps.countP (·.running) + if index < ctx.apps.length then 1 else 0 := by
  split
  · rename_i hin
    have hactive : active (ctx.startApp index target) = insert index (active ctx) := by
      ext i
      rw [mem_active, Finset.mem_insert, mem_active, appRunning_startApp _ _ _ _ hin,
        Bool.or_eq_true, decide_eq_true_eq, eq_comm]
    have hnew : index ∉ active ctx := by
      rw [mem_active, hdown]
      exact Bool.false_ne_true
    rw [← card_active, ← card_active, hactive, Finset.card_insert_of_notMem hnew]
  · rename_i hout
    rw [startApp, List.modify_eq_self (Nat.not_lt.1 hout)]
    rfl

/-- The chosen sender comes up, if it is in the list and has an address. -/
theorem countP_startChosen {ctx : TrayContext} (hdown : ctx.wifiRunning = false) :
    ctx.startChosen.apps.countP (·.running) =
      ctx.apps.countP (·.running) + if ctx.switchingTo.any fun index =>
        decide (index < ctx.apps.length) && decide (ctx.resolveDeviceTarget index ≠ []) then 1
      else 0 := by
  cases hto : ctx.switchingTo with
  | none =>
    rw [startChosen_none hto]
    rfl
  | some index =>
    by_cases htarget : ctx.resolveDeviceTarget index = []
    · have hsame : ctx.startChosen = ctx := by
        rw [startChosen, hto]
        exact if_pos htarget
      rw [hsame]
      simp [htarget]
    · rw [startChosen_some hto htarget, countP_startApp (appRunning_of_not_wifiRunning hdown index)]
      simp [htarget]

/-- A completed switch starts the chosen sender. -/
theorem sessions_finishSwitch {ctx : TrayContext} (hp : ctx.restartPending = false)
    (hw : ctx.waits = false) : sessions ctx.finishSwitch = sessions ctx + starts ctx := by
  rw [waits, if_neg (Bool.not_eq_true _ ▸ hp), anyRunning_eq, Bool.or_eq_false_iff] at hw
  obtain ⟨husb, hwifi⟩ := hw
  have happs : ctx.finishSwitch.apps.countP (·.running) =
      ctx.apps.countP (·.running) + starts ctx := by
    rw [starts, if_neg (Bool.not_eq_true _ ▸ hp)]
    exact @countP_startChosen ctx.stopUsbSession hwifi
  rw [sessions, sessions]
  rw [finishSwitch_frame] at happs ⊢
  dsimp only at happs ⊢
  rw [happs, countP_usb ctx.usbApp, show ctx.usbApp.any (·.running) = false from husb]
  simp only [Option.toList_none, List.countP_nil, Bool.false_eq_true, if_false]
  omega

/-- **What a tick adds.** -/
theorem sessions_tick (ctx : TrayContext) :
    sessions ctx.processDeviceCommands = sessions ctx + startsNow ctx := by
  have hreaped := sessions_reapRetired ctx
  rw [startsNow]
  rcases processDeviceCommands_cases ctx with ⟨heq, hidle⟩ | ⟨heq, hs, hw, hp⟩ |
    ⟨heq, hs, hdown, hp⟩ | ⟨command, rest, heq, hs, -⟩
  · rw [heq, hreaped, if_neg]
    · rfl
    · rintro ⟨hs, hw⟩
      rcases hidle with ⟨-, hwaits⟩ | ⟨hclear, -⟩
      · rw [hw] at hwaits
        cases hwaits
      · rw [hs] at hclear
        cases hclear
  · rw [heq, if_pos ⟨hs, hw⟩, @sessions_finishRestart ctx.reapRetired hp hw, hreaped]
    rfl
  · have hw : ctx.waits = false := by
      rw [waits, if_neg (Bool.not_eq_true _ ▸ hp)]
      exact hdown
    rw [heq, if_pos ⟨hs, hw⟩, @sessions_finishSwitch ctx.reapRetired hp hw, hreaped]
    rfl
  · rw [heq, if_neg (fun h => Bool.false_ne_true (hs.symm.trans h.1)), ← hreaped,
      beginCommand_frame, sessions, sessions]
    dsimp only
    rw [countP_requestStop, countP_usb, countP_usb, Option.any_map]
    rfl

/-! ### Steps that start nothing -/

theorem sessions_click (ctx : TrayContext) (command : DeviceCommand) :
    sessions (ctx.queueDeviceCommand command) = sessions ctx := by
  obtain ⟨commands, flow, heq, -⟩ := queueDeviceCommand_frame ctx command
  rw [heq]
  rfl

theorem sessions_moveUp (ctx : TrayContext) (selected : Nat) :
    sessions (ctx.moveUpDevice selected) = sessions ctx := by
  have hcount := (moveUpDevice_perm ctx selected).countP_eq (·.running)
  rw [sessions, sessions, ← hcount, moveUpDevice_frame]

/-- A removed sender runs on among the retired ones. -/
theorem sessions_remove (ctx : TrayContext) (selected : Nat) :
    sessions (ctx.removeDevice selected) = sessions ctx := by
  rcases removeDevice_cases ctx selected with heq | ⟨app, cfg, happ, -, heq⟩
  · rw [heq]
  · obtain ⟨hlt, rfl⟩ := List.getElem?_eq_some_iff.1 happ
    have hcount := (List.getElem_cons_eraseIdx_perm hlt).countP_eq (·.running)
    rw [List.countP_cons] at hcount
    rw [heq, sessions, sessions, ← hcount, List.countP_append, List.countP_singleton,
      SenderApp.requestStop_running]
    dsimp only
    omega

/-- An old sender that is taken over leaves the old ones. -/
theorem filterMap_set_none {α : Type} {l : List (Option α)} {found : Nat} {x : α}
    (h : l[found]? = some (some x)) :
    (x :: (l.set found none).filterMap id).Perm (l.filterMap id) := by
  obtain ⟨hlt, hx⟩ := List.getElem?_eq_some_iff.1 h
  have hset := (List.set_perm_cons_eraseIdx hlt none).filterMap id
  have hall := (List.getElem_cons_eraseIdx_perm hlt).filterMap id
  rw [hx] at hall
  exact (hset.cons x).trans hall

/-- The workers of the senders dealt out and of the old ones left over. -/
def heldWorkers (state : Takeover) : Nat :=
  state.apps.countP (·.running) + (state.oldApps.filterMap id).countP (·.running)

/-- One round of `ApplyAndRestart` keeps every worker. -/
theorem heldWorkers_step (oldDevices : List DeviceConfig) (reconnect : List Bytes)
    (restartActive : Bool) (state : Takeover) (device : DeviceConfig) (next : Nat) :
    heldWorkers (state.step oldDevices reconnect restartActive (device, next)) =
      heldWorkers state := by
  rcases Takeover.step_cases oldDevices reconnect restartActive state device next with
    ⟨app, found, restart, hfound, -, heq⟩ | ⟨wasRunning, -, heq⟩
  · have hcount := (filterMap_set_none hfound).countP_eq (·.running)
    rw [List.countP_cons] at hcount
    have hsame : (if restart then app.requestStop else app).running = app.running := by
      cases restart <;> rfl
    rw [heq, heldWorkers, heldWorkers, ← hcount]
    dsimp only
    rw [List.countP_append, List.countP_singleton, hsame]
    omega
  · rw [heq, heldWorkers, heldWorkers]
    dsimp only
    rw [List.countP_append, List.countP_singleton]
    rfl

theorem heldWorkers_foldl (oldDevices : List DeviceConfig) (reconnect : List Bytes)
    (restartActive : Bool) (entries : List (DeviceConfig × Nat)) (state : Takeover) :
    heldWorkers (entries.foldl (Takeover.step oldDevices reconnect restartActive) state) =
      heldWorkers state := by
  induction entries generalizing state with
  | nil => rfl
  | cons entry entries ih =>
    rw [List.foldl_cons, ih]
    exact heldWorkers_step oldDevices reconnect restartActive state entry.1 entry.2

/-- `ApplyAndRestart` keeps every worker and starts none. -/
theorem sessions_saved (ctx : TrayContext) (cfg : Config) (restartActive : Bool) :
    sessions (saved ctx cfg restartActive) = sessions ctx := by
  have htaken : heldWorkers ({ ctx with cfg := cfg }.takeover ctx.cfg.devices ctx.runningAddresses
      restartActive) = ctx.apps.countP (·.running) := by
    rw [takeover, heldWorkers_foldl, heldWorkers]
    simp
  rw [saved, applyAndRestart]
  generalize ({ ctx with cfg := cfg }.takeover ctx.cfg.devices ctx.runningAddresses
    restartActive) = taken at htaken ⊢
  rw [heldWorkers, ← countP_requestStop (taken.oldApps.filterMap id)] at htaken
  obtain ⟨usbApp, restartUsbTarget, husb, hresult⟩ := scheduleRestart_cases
    { ctx with
      cfg := cfg
      apps := taken.apps
      retiredApps := ctx.retiredApps ++ (taken.oldApps.filterMap id).map SenderApp.requestStop
      restartAfterStop := taken.restartAfterStop
      nextObject := taken.nextObject } restartActive
  have hcable : usbApp.toList.countP (·.running) = ctx.usbApp.toList.countP (·.running) := by
    rcases husb with ⟨-, rfl, -⟩ | ⟨rfl, -⟩
    · rw [countP_usb, countP_usb, Option.any_map]
      rfl
    · rfl
  rcases hresult with ⟨-, -, heq⟩ | ⟨-, heq⟩
  all_goals
    rw [heq, sessions, sessions]
    dsimp only
    rw [hcable, List.countP_append]
    omega

theorem sessions_save (ctx : TrayContext) (form : PanelForm) (accepted : Bool) :
    sessions (ctx.savePanelSettings form accepted).1 = sessions ctx := by
  rw [savePanelSettings]
  split
  · rfl
  · dsimp only
    split
    · rfl
    · split
      · exact sessions_saved ctx _ _
      · rfl

theorem countP_modify_finish (apps : List SenderApp) (index : Nat) :
    (apps.modify index SenderApp.finish).countP (·.running) ≤ apps.countP (·.running) := by
  induction apps generalizing index with
  | nil => rw [List.modify_nil]
  | cons app apps ih =>
    cases index with
    | zero =>
      rw [List.modify_zero_cons, List.countP_cons, List.countP_cons, SenderApp.finish_running]
      simp
    | succ index =>
      rw [List.modify_succ_cons, List.countP_cons, List.countP_cons]
      exact Nat.add_le_add_right (ih index) _

/-- A worker that leaves is one session less. -/
theorem sessions_exit {ctx ctx' : TrayContext} {worker : Worker}
    (h : ctx.workerStep worker SenderApp.finish = some ctx') : sessions ctx' ≤ sessions ctx := by
  rw [workerStep, Option.ite_none_right_eq_some, Option.some.injEq] at h
  obtain ⟨-, rfl⟩ := h
  cases worker with
  | wifi index =>
    have happs := countP_modify_finish ctx.apps index
    rw [sessions, sessions, updateSender]
    dsimp only
    omega
  | usb =>
    have husb : (ctx.usbApp.map SenderApp.finish).toList.countP (·.running) = 0 := by
      rw [countP_usb, Option.any_map]
      cases ctx.usbApp <;> rfl
    rw [sessions, sessions, updateSender]
    dsimp only
    omega
  | retired index =>
    have hretired := countP_modify_finish ctx.retiredApps index
    rw [sessions, sessions, updateSender]
    dsimp only
    omega

/-! ### The condition on a tick -/

/-- A step leaves at most one session, and starts a sender only when no worker runs. -/
def OneAtATime (ctx : TrayContext) (event : Event) : Prop :=
  ∀ ctx', step ctx event = some ctx' →
    sessions ctx' ≤ 1 ∧ (sessions ctx < sessions ctx' → sessions ctx = 0)

/-- A tick that is about to start something finds every retired worker down, and a settings
restart stands for one sender, with no other configured sender running. -/
def ClearToStart (ctx : TrayContext) : Event → Prop
  | .tick => ctx.switching = true → ctx.waits = false → starts ctx ≠ 0 →
    (∀ app ∈ ctx.retiredApps, app.running = false) ∧
      (ctx.restartPending = true → starts ctx = 1 ∧ ∀ i ∈ active ctx, i ∈ ctx.restartAfterStop)
  | _ => True

instance (ctx : TrayContext) : ∀ event, Decidable (ClearToStart ctx event)
  | .tick => inferInstanceAs (Decidable (_ → _ → _ → _ ∧ _))
  | .click _ | .moveUp _ | .remove _ | .save _ _ | .exit _ => inferInstanceAs (Decidable True)

theorem sessions_eq_zero {ctx : TrayContext} :
    sessions ctx = 0 ↔ ctx.usbRunning = false ∧ ctx.wifiRunning = false ∧
      ∀ app ∈ ctx.retiredApps, app.running = false := by
  rw [sessions, Nat.add_eq_zero_iff, Nat.add_eq_zero_iff, and_assoc, countP_usb,
    List.countP_eq_zero, List.countP_eq_zero]
  refine and_congr ?_ (and_congr ?_ ?_)
  · rw [usbRunning]
    cases ctx.usbApp.any (·.running) <;> simp
  · rw [wifiRunning, List.any_eq_false]
  · simp only [Bool.not_eq_true]

/-- Without a settings restart at most one sender is started. -/
theorem starts_le_one {ctx : TrayContext} (hp : ctx.restartPending = false) : starts ctx ≤ 1 := by
  rw [starts, if_neg (Bool.not_eq_true _ ▸ hp)]
  split
  · exact Nat.le_refl 1
  · exact Nat.zero_le 1

/-- A tick is clear to start exactly when it starts one sender over no session, or none. -/
theorem clearToStart_iff (ctx : TrayContext) :
    ClearToStart ctx .tick ↔ startsNow ctx = 0 ∨ (sessions ctx = 0 ∧ startsNow ctx = 1) := by
  by_cases hnow : ctx.switching = true ∧ ctx.waits = false
  · rw [startsNow, if_pos hnow]
    by_cases hstarts : starts ctx = 0
    · exact ⟨fun _ => .inl hstarts, fun _ _ _ hne => absurd hstarts hne⟩
    · rw [or_iff_right hstarts, sessions_eq_zero]
      constructor
      · intro hclear
        obtain ⟨hretired, hrestart⟩ := hclear hnow.1 hnow.2 hstarts
        have hw := hnow.2
        cases hp : ctx.restartPending with
        | true =>
          obtain ⟨hone, hlisted⟩ := hrestart hp
          rw [waits, if_pos hp, Bool.or_eq_false_iff, List.any_eq_false] at hw
          refine ⟨⟨hw.2, ?_, hretired⟩, hone⟩
          rw [wifiRunning, List.any_eq_false]
          intro app hmem hup
          obtain ⟨i, hi⟩ := List.mem_iff_getElem?.1 hmem
          have hrunning : ctx.appRunning i = true := by
            rw [appRunning, hi]
            exact hup
          exact hw.1 i (hlisted i (mem_active.2 hrunning)) hrunning
        | false =>
          rw [waits, if_neg (Bool.not_eq_true _ ▸ hp), anyRunning_eq, Bool.or_eq_false_iff] at hw
          exact ⟨⟨hw.1, hw.2, hretired⟩, Nat.le_antisymm (starts_le_one hp)
            (Nat.pos_of_ne_zero hstarts)⟩
      · rintro ⟨⟨-, hwifi, hretired⟩, hone⟩ - - -
        refine ⟨hretired, fun _ => ⟨hone, fun i hup => ?_⟩⟩
        rw [mem_active, appRunning_of_not_wifiRunning hwifi i] at hup
        cases hup
  · rw [startsNow, if_neg hnow]
    exact ⟨fun _ => .inl rfl, fun _ hs hw => absurd ⟨hs, hw⟩ hnow⟩

/-- Every event but a tick keeps the number of sessions or lowers it. -/
theorem sessions_step {ctx ctx' : TrayContext} {event : Event} (h : step ctx event = some ctx') :
    (event = .tick ∧ sessions ctx' = sessions ctx + startsNow ctx) ∨
      (event ≠ .tick ∧ sessions ctx' ≤ sessions ctx) := by
  cases event with
  | tick =>
    cases h
    exact .inl ⟨rfl, sessions_tick ctx⟩
  | click command =>
    cases h
    exact .inr ⟨nofun, (sessions_click ctx command).le⟩
  | moveUp selected =>
    cases h
    exact .inr ⟨nofun, (sessions_moveUp ctx selected).le⟩
  | remove selected =>
    cases h
    exact .inr ⟨nofun, (sessions_remove ctx selected).le⟩
  | save form saved =>
    cases h
    exact .inr ⟨nofun, (sessions_save ctx form saved).le⟩
  | exit worker => exact .inr ⟨nofun, sessions_exit h⟩

theorem clearToStart_of_ne (ctx : TrayContext) {event : Event} (h : event ≠ .tick) :
    ClearToStart ctx event := by
  cases event with
  | tick => exact absurd rfl h
  | _ => trivial

/-- **One step.** -/
theorem oneAtATime_iff {ctx : TrayContext} (h : sessions ctx ≤ 1) (event : Event) :
    OneAtATime ctx event ↔ ClearToStart ctx event := by
  by_cases htick : event = .tick
  · subst htick
    rw [clearToStart_iff]
    have htick := sessions_tick ctx
    constructor
    · intro hone
      obtain ⟨hle, hfree⟩ := hone ctx.processDeviceCommands rfl
      omega
    · intro hclear ctx' hstep
      cases hstep
      omega
  · refine ⟨fun _ => clearToStart_of_ne ctx htick, fun _ ctx' hstep => ?_⟩
    rcases sessions_step hstep with ⟨htick', -⟩ | ⟨-, hle⟩
    · exact absurd htick' htick
    · omega

/-- **At most one session.**  In a run that starts with at most one session, every state has at
most one and every start finds no worker running, exactly when every tick that is about to start
something is clear to start. -/
theorem one_session_iff {ctx : TrayContext} (h : sessions ctx ≤ 1) (events : List Event) :
    Along step OneAtATime ctx events ↔ Along step ClearToStart ctx events :=
  along_iff (I := fun ctx => sessions ctx ≤ 1) (fun _ event hone => oneAtATime_iff hone event)
    (fun _ _ ctx' _ hone hstep => (hone ctx' hstep).1) h

/-- Two devices that have been added by their addresses. -/
def twoEntries : TrayContext := fresh { devices := [entry "10.0.0.1" 0, entry "10.0.0.2" 1] }

/-- The user switches from the first device to the second, whose old worker leaves in between. -/
theorem one_session_iff_switch :
    Along step OneAtATime twoEntries [.click ⟨.switch, 0⟩, .tick, .tick, .click ⟨.switch, 1⟩,
      .tick, .exit (.wifi 0), .tick] :=
  (one_session_iff (by decide +kernel) _).2 (by decide +kernel)

/-- An address edited in place, and a removed device: both times the tick starts the next target
while the old worker still runs, so two sessions run. -/
theorem one_session_fails_retired :
    (∃ t, run step twoEntries [.click ⟨.switch, 0⟩, .tick, .tick,
        .save (listForm [entry "10.0.0.3" 0, entry "10.0.0.2" 1]) true, .tick] = some t ∧
      sessions t = 2) ∧
    ∃ t, run step twoEntries [.click ⟨.switch, 0⟩, .tick, .tick, .remove 0,
        .click ⟨.switch, 0⟩, .tick, .tick] = some t ∧ sessions t = 2 :=
  ⟨⟨_, by rfl, by decide +kernel⟩, _, by rfl, by decide +kernel⟩

end SecondDisplay.OneSession
