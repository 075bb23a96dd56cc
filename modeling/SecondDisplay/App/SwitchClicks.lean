import SecondDisplay.App.RoutineSteps
import SecondDisplay.App.SavedTargets
import SecondDisplay.App.Switching

/-!
# A refused click is on its way (`QueueDeviceCommand`, `DeviceCoordinator`)

`QueueDeviceCommand` drops a click on Switch when the coordinator is in `UserSwitching` with the
same target.  In every run the target is queued or the switch to it is in progress, as long as no
save that schedules a restart arrives while that switch is in progress: `ApplyAndRestart` clears
`switchingTo` and leaves the coordinator in `UserSwitching`.
-/

namespace SecondDisplay.SwitchClicks

open TrayContext Transitions FirstFit Switching
open SavedTargets hiding Event step

/-! ### What a click relies on -/

/-- A command for the target is in the queue, or the switch to it is in progress. -/
def OnItsWay (ctx : TrayContext) (target : Nat) : Prop :=
  (∃ command ∈ ctx.commands, CommandFor target command) ∨ ctx.switchingTo = some target

/-- The target of the coordinator is on its way. -/
def Claimed (ctx : TrayContext) : Prop :=
  ∀ target, userTarget ctx.deviceFlow = some target → OnItsWay ctx target

structure Inv (ctx : TrayContext) : Prop where
  aligned : ctx.apps.length = ctx.cfg.devices.length
  chosen : ctx.switchingTo ≠ none → ctx.switching = true
  restart : ctx.restartPending = true → ctx.switching = true ∧ ctx.switchingTo = none
  claimed : Claimed ctx

/-! ### Saves that schedule a restart -/

/-- The new device at position `i` is put on the restart list. -/
def Restarted (ctx : TrayContext) (cfg : Config) (restartActive : Bool) (i : Nat) : Prop :=
  (∃ j ∈ active ctx, taken fits ctx.cfg.devices cfg.devices i = some j ∧
      (restartActive = true ∨
        (cfg.devices[i]?).map splitDeviceAddress ≠
          (ctx.cfg.devices[j]?).map splitDeviceAddress)) ∨
    Held ctx cfg i

/-- The save schedules a restart: of a Wi-Fi sender or of the cable session. -/
def Schedules (ctx : TrayContext) (cfg : Config) (restartActive : Bool) : Prop :=
  (∃ i < cfg.devices.length, Restarted ctx cfg restartActive i) ∨
    (restartActive = true ∧ ctx.usbRunning = true ∧ ctx.activeUsbTarget ≠ [])

instance (ctx : TrayContext) (cfg : Config) (restartActive : Bool) (i : Nat) :
    Decidable (Restarted ctx cfg restartActive i) :=
  inferInstanceAs (Decidable (_ ∨ _))

instance (ctx : TrayContext) (cfg : Config) (restartActive : Bool) :
    Decidable (Schedules ctx cfg restartActive) :=
  inferInstanceAs (Decidable (_ ∨ _))

/-- A sender that is dealt out is listed exactly when its position is restarted. -/
theorem restarted_of_dealt {ctx : TrayContext} {cfg : Config} {restartActive : Bool} {i : Nat}
    {device : DeviceConfig} (hdevice : cfg.devices[i]? = some device) {d : SenderApp × Bool}
    (h : Dealt ctx.apps ctx.cfg.devices ctx.runningAddresses restartActive device i
      (taken fits ctx.cfg.devices cfg.devices i) d) :
    d.2 = true ↔ Restarted ctx cfg restartActive i := by
  generalize htaken : taken fits ctx.cfg.devices cfg.devices i = position at h
  cases h with
  | @taken j app old happ hold =>
    have hactive := mem_active_of_app happ
    have hchanged := address_ne_iff hdevice hold
    dsimp only
    rw [restarts, decide_eq_true_eq]
    constructor
    · rintro ⟨hup, hwhy⟩
      exact .inl ⟨j, hactive.2 hup, htaken, hwhy.imp id hchanged.2⟩
    · rintro (⟨k, hk, hkeeps, hwhy⟩ | hheld)
      · obtain rfl : j = k := Option.some.inj (htaken.symm.trans hkeeps)
        exact ⟨hactive.1 hk, hwhy.imp id hchanged.1⟩
      · rw [Held, htaken] at hheld
        cases hheld.1
  | fresh object =>
    constructor
    · exact fun hheld => .inr (held_iff.2 ⟨htaken, hheld⟩)
    · rintro (⟨j, -, hkeeps, -⟩ | hheld)
      · rw [htaken] at hkeeps
        cases hkeeps
      · exact (held_iff.1 hheld).2

/-- What a save leaves of the switch in progress. -/
theorem saved_switch (ctx : TrayContext) (cfg : Config) (restartActive : Bool) :
    (saved ctx cfg restartActive).apps.length =
        (saved ctx cfg restartActive).cfg.devices.length ∧
      (saved ctx cfg restartActive).deviceFlow = ctx.deviceFlow ∧
      (saved ctx cfg restartActive).commands = ctx.commands ∧
      (((saved ctx cfg restartActive).restartPending = true ∧
          (saved ctx cfg restartActive).switching = true ∧
          (saved ctx cfg restartActive).switchingTo = none) ∨
        ((saved ctx cfg restartActive).restartPending = false ∧
          (saved ctx cfg restartActive).switching = ctx.switching ∧
          (saved ctx cfg restartActive).switchingTo = ctx.switchingTo)) := by
  obtain ⟨-, hlength⟩ := takeover_sound { ctx with cfg := cfg } ctx.cfg.devices
    ctx.runningAddresses restartActive
  rw [saved, applyAndRestart]
  generalize ({ ctx with cfg := cfg }.takeover ctx.cfg.devices ctx.runningAddresses
    restartActive) = taken at hlength ⊢
  obtain ⟨usbApp, restartUsbTarget, -, ⟨hlist, htarget, heq⟩ | ⟨hpending, heq⟩⟩ :=
    scheduleRestart_cases
      { ctx with
        cfg := cfg
        apps := taken.apps
        retiredApps := ctx.retiredApps ++ (taken.oldApps.filterMap id).map SenderApp.requestStop
        restartAfterStop := taken.restartAfterStop
        nextObject := taken.nextObject } restartActive
  · rw [heq]
    exact ⟨hlength, rfl, rfl, .inr ⟨restartPending_eq_false.2 ⟨hlist, htarget⟩, rfl, rfl⟩⟩
  · rw [heq]
    refine ⟨hlength, rfl, rfl,
      .inl ⟨restartPending_eq_true.2 (hpending.imp (fun hne hnil => hne ?_) id), rfl, rfl⟩⟩
    rw [List.eq_nil_iff_forall_not_mem] at hnil ⊢
    exact fun x hx => hnil x (List.mem_dedup.2 (List.mem_mergeSort.2 hx))

/-- The cable target that is left to restart. -/
theorem saved_restartUsbTarget (ctx : TrayContext) (cfg : Config) (restartActive : Bool) :
    (saved ctx cfg restartActive).restartUsbTarget =
      if restartActive = true ∧ ctx.usbRunning = true then ctx.activeUsbTarget
      else ctx.restartUsbTarget := by
  simp only [saved, applyAndRestart, scheduleRestart]
  by_cases hactive : restartActive = true ∧ ctx.usbRunning = true
  · rw [if_pos hactive, if_pos (show restartActive = true ∧
      ctx.usbApp.any (·.running) = true from hactive)]
    split <;> rfl
  · rw [if_neg hactive, if_neg (show ¬(restartActive = true ∧
      ctx.usbApp.any (·.running) = true) from hactive)]
    split <;> rfl

/-- **When a save schedules a restart.** -/
theorem saved_restartPending {ctx : TrayContext}
    (aligned : ctx.apps.length = ctx.cfg.devices.length) (hnone : ctx.restartPending = false)
    (cfg : Config) (restartActive : Bool) :
    (saved ctx cfg restartActive).restartPending = true ↔ Schedules ctx cfg restartActive := by
  rw [restartPending_eq_false] at hnone
  obtain ⟨dealt, hlength, hall, -, hlist⟩ := saved_dealt aligned hnone.1 cfg restartActive
  have htarget := saved_restartUsbTarget ctx cfg restartActive
  rw [restartPending_eq_true, Schedules]
  refine or_congr ?_ ?_
  · constructor
    · intro hne
      obtain ⟨i, hi⟩ := List.exists_mem_of_ne_nil _ hne
      obtain ⟨d, hd, hlisted⟩ := (hlist i).1 hi
      have hlt := hlength ▸ (List.getElem?_eq_some_iff.1 hd).1
      have hdevice := List.getElem?_eq_getElem hlt
      exact ⟨i, hlt, (restarted_of_dealt hdevice (hall i _ d hdevice hd)).1 hlisted⟩
    · rintro ⟨i, hlt, hrestarted⟩
      have hdevice := List.getElem?_eq_getElem hlt
      have hd := List.getElem?_eq_getElem (hlength.symm ▸ hlt)
      exact List.ne_nil_of_mem ((hlist i).2
        ⟨_, hd, (restarted_of_dealt hdevice (hall i _ _ hdevice hd)).2 hrestarted⟩)
  · rw [htarget]
    split
    · rename_i hactive
      exact ⟨fun hne => ⟨hactive.1, hactive.2, hne⟩, fun h => h.2.2⟩
    · rename_i hactive
      exact ⟨fun hne => absurd hnone.2 hne, fun h => absurd ⟨h.1, h.2.1⟩ hactive⟩

/-! ### Steps that keep the target on its way -/

theorem OnItsWay.routine {ctx ctx' : TrayContext} (h : Routine ctx ctx') {target : Nat}
    (hway : OnItsWay ctx target) : OnItsWay ctx' target := by
  rcases hway with ⟨command, hmem, hfor⟩ | hto
  · exact .inl ⟨command, h.commands.subset hmem, hfor⟩
  · exact .inr (h.switchingTo.trans hto)

theorem inv_routine {ctx ctx' : TrayContext} (hi : Inv ctx) (h : Routine ctx ctx') :
    Inv ctx' where
  aligned := by rw [h.appsLength, h.devicesLength, hi.aligned]
  chosen hto := by
    rw [h.switchingTo] at hto
    rw [show ctx'.switching = ctx.switching from congrArg Prod.fst h.pending]
    exact hi.chosen hto
  restart hpending := by
    rw [show ctx'.switching = ctx.switching from congrArg Prod.fst h.pending, h.switchingTo]
    apply hi.restart
    rw [restartPending, show ctx'.restartAfterStop = ctx.restartAfterStop from
      congrArg (·.2.1) h.pending, show ctx'.restartUsbTarget = ctx.restartUsbTarget from
      congrArg (·.2.2) h.pending] at hpending
    exact hpending
  claimed target htarget := by
    rcases h.target target htarget with hbefore | hqueued
    · exact (hi.claimed target hbefore).routine h
    · exact .inl hqueued

/-- A settings restart that is carried out: the switch in progress had no target. -/
theorem inv_finishRestart {ctx : TrayContext} (h : Inv ctx) (hp : ctx.restartPending = true) :
    Inv ctx.finishRestart := by
  have hlength := finishRestart_apps_length ctx
  have hnone := (h.restart hp).2
  rw [finishRestart_frame] at hlength ⊢
  exact ⟨hlength.trans h.aligned, fun hto => absurd hnone hto, nofun, h.claimed⟩

/-- A completed switch takes the coordinator out of `UserSwitching`. -/
theorem inv_finishSwitch {ctx : TrayContext} (h : Inv ctx) (hp : ctx.restartPending = false) :
    Inv ctx.finishSwitch := by
  have hlength := finishSwitch_apps_length ctx
  rw [finishSwitch_frame] at hlength ⊢
  refine ⟨hlength.trans h.aligned, fun hto => absurd rfl hto, fun hpending => ?_, ?_⟩
  · exact absurd (hp.symm.trans hpending) Bool.false_ne_true
  · intro target htarget
    have hended := DeviceCoordinator.completeSwitch_state ctx.deviceFlow false
    rw [userTarget_of_ne hended] at htarget
    cases htarget

/-- A command from the front of the queue becomes the switch in progress. -/
theorem inv_beginCommand {ctx : TrayContext} (h : Inv ctx) (hs : ctx.switching = false)
    {command : DeviceCommand} {rest : List DeviceCommand}
    (hqueue : ctx.commands = command :: rest) :
    Inv ({ ctx with commands := rest }.beginCommand command) := by
  have hpending : ctx.restartPending = false := by
    rw [← Bool.not_eq_true]
    intro hp
    rw [(h.restart hp).1] at hs
    cases hs
  have hnone : ctx.switchingTo = none := by
    by_contra hto
    rw [h.chosen hto] at hs
    cases hs
  rw [beginCommand_frame]
  refine ⟨(List.length_map ..).trans h.aligned, fun _ => rfl, fun hp => ?_, ?_⟩
  · exact absurd (hpending.symm.trans hp) Bool.false_ne_true
  · intro target htarget
    dsimp only at htarget
    split at htarget
    · cases htarget
    · rename_i htype
      rcases h.claimed target htarget with ⟨queued, hmem, hfor⟩ | hto
      · rw [hqueue, List.mem_cons] at hmem
        rcases hmem with rfl | hmem
        · exact .inr ((if_neg htype).trans (congrArg some hfor.2))
        · exact .inl ⟨queued, hmem, hfor⟩
      · rw [hnone] at hto
        cases hto

theorem routine_reapRetired (ctx : TrayContext) : Routine ctx ctx.reapRetired :=
  Routine.of_eq rfl rfl rfl rfl rfl (.inl rfl)

/-- **A tick keeps the target on its way.** -/
theorem inv_processDeviceCommands {ctx : TrayContext} (h : Inv ctx) :
    Inv ctx.processDeviceCommands := by
  have hreaped : Inv ctx.reapRetired := inv_routine h (routine_reapRetired ctx)
  rcases processDeviceCommands_cases ctx with ⟨heq, -⟩ | ⟨heq, -, -, hp⟩ | ⟨heq, -, -, hp⟩ |
    ⟨command, rest, heq, hs, hqueue⟩
  · rw [heq]
    exact hreaped
  · rw [heq]
    exact inv_finishRestart hreaped hp
  · rw [heq]
    exact inv_finishSwitch hreaped hp
  · rw [heq]
    exact inv_beginCommand hreaped hs hqueue

/-! ### Saves that override the switch in progress -/

/-- The switch in progress is the coordinator's, and no command for its target is queued. -/
def Unqueued (ctx : TrayContext) : Prop :=
  ctx.switchingTo ≠ none ∧ userTarget ctx.deviceFlow = ctx.switchingTo ∧
    ∀ command ∈ ctx.commands, command.type ≠ .stop → some command.index ≠ ctx.switchingTo

instance (ctx : TrayContext) : Decidable (Unqueued ctx) :=
  inferInstanceAs (Decidable (_ ∧ _))

/-- A save that schedules a restart while the switch in progress is unqueued. -/
def overrides (ctx : TrayContext) : Event → Bool
  | .save form saved =>
    match form.checked with
    | none => false
    | some (port, fps, bitrateMbps) =>
      let cfg := ctx.editedConfig form port fps bitrateMbps
      saved && decide (cfg.devices ≠ ctx.cfg.devices ∨ restartsActive ctx.cfg cfg) &&
        decide (Schedules ctx cfg (restartsActive ctx.cfg cfg)) && decide (Unqueued ctx)
  | _ => false

/-- One step of the tray that overrides no switch in progress. -/
def keepStep (ctx : TrayContext) (event : Event) : Option TrayContext :=
  if overrides ctx event then none else ctx.step event

theorem unqueued_of_not_queued {ctx : TrayContext} (h : Inv ctx) {target : Nat}
    (htarget : userTarget ctx.deviceFlow = some target)
    (hnone : ¬∃ command ∈ ctx.commands, CommandFor target command) : Unqueued ctx := by
  rcases h.claimed target htarget with hqueued | hto
  · exact absurd hqueued hnone
  · refine ⟨by rw [hto]; exact Option.some_ne_none _, htarget.trans hto.symm, ?_⟩
    intro command hmem htype hindex
    rw [hto, Option.some.injEq] at hindex
    exact hnone ⟨command, hmem, htype, hindex⟩

/-- A save keeps the target on its way unless it schedules a restart over an unqueued switch. -/
theorem inv_saved {ctx : TrayContext} (h : Inv ctx) {cfg : Config} {restartActive : Bool}
    (hkeeps : Schedules ctx cfg restartActive → ¬Unqueued ctx) :
    Inv (saved ctx cfg restartActive) := by
  obtain ⟨haligned, hflow, hcommands, hswitch⟩ := saved_switch ctx cfg restartActive
  rcases hswitch with ⟨hpending, hs, hto⟩ | ⟨hpending, hs, hto⟩
  · refine ⟨haligned, fun hne => absurd hto hne, fun _ => ⟨hs, hto⟩, fun target htarget => .inl ?_⟩
    rw [hflow] at htarget
    rw [hcommands]
    by_contra hnone
    have hunqueued := unqueued_of_not_queued h htarget hnone
    have hbefore : ctx.restartPending = false := by
      rw [← Bool.not_eq_true]
      exact fun hp => hunqueued.1 (h.restart hp).2
    exact hkeeps ((saved_restartPending h.aligned hbefore cfg restartActive).1 hpending) hunqueued
  · refine ⟨haligned, fun hne => ?_, fun hp => ?_, fun target htarget => ?_⟩
    · rw [hto] at hne
      rw [hs]
      exact h.chosen hne
    · exact absurd (hpending.symm.trans hp) Bool.false_ne_true
    · rw [hflow] at htarget
      rw [OnItsWay, hcommands, hto]
      exact h.claimed target htarget

/-- What `SavePanelSettings` does to the tray. -/
theorem save_cases (ctx : TrayContext) (form : PanelForm) (accepted : Bool) :
    ((ctx.savePanelSettings form accepted).1 = ctx ∧
        overrides ctx (.save form accepted) = false) ∨
      (∃ cfg, cfg.devices = ctx.cfg.devices ∧
        (ctx.savePanelSettings form accepted).1 = { ctx with cfg := cfg } ∧
        overrides ctx (.save form accepted) = false) ∨
      ∃ cfg, (ctx.savePanelSettings form accepted).1 = saved ctx cfg (restartsActive ctx.cfg cfg) ∧
        (overrides ctx (.save form accepted) = true ↔
          Schedules ctx cfg (restartsActive ctx.cfg cfg) ∧ Unqueued ctx) := by
  simp only [savePanelSettings, overrides]
  cases form.checked with
  | none => exact .inl ⟨rfl, rfl⟩
  | some numbers =>
    obtain ⟨port, fps, bitrateMbps⟩ := numbers
    cases accepted with
    | false => exact .inl ⟨rfl, rfl⟩
    | true =>
      dsimp only
      by_cases hchanged : (ctx.editedConfig form port fps bitrateMbps).devices ≠ ctx.cfg.devices ∨
          restartsActive ctx.cfg (ctx.editedConfig form port fps bitrateMbps)
      · refine .inr (.inr ⟨_, by rw [if_neg Bool.true_eq_false_eq_False, if_pos hchanged]; rfl, ?_⟩)
        simp [hchanged]
      · refine .inr (.inl ⟨ctx.editedConfig form port fps bitrateMbps, ?_, ?_, ?_⟩)
        · exact not_not.1 fun hne => hchanged (.inl hne)
        · rw [if_neg hchanged]
          rfl
        · simp [hchanged]

theorem inv_save {ctx : TrayContext} (h : Inv ctx) {form : PanelForm} {accepted : Bool}
    (hguard : overrides ctx (.save form accepted) = false) :
    Inv (ctx.savePanelSettings form accepted).1 := by
  rcases save_cases ctx form accepted with ⟨heq, -⟩ | ⟨cfg, hdevices, heq, -⟩ | ⟨cfg, heq, hover⟩
  · rw [heq]
    exact h
  · rw [heq]
    exact inv_routine h (.of_eq rfl (congrArg List.length hdevices) rfl rfl rfl (.inl rfl))
  · rw [heq]
    apply inv_saved h
    intro hschedules hunqueued
    rw [hover.2 ⟨hschedules, hunqueued⟩] at hguard
    cases hguard

theorem inv_timer {ctx : TrayContext} (h : Inv ctx) (outside : Outside) :
    Inv (ctx.onTimer outside) := by
  have hticked := inv_processDeviceCommands
    (inv_routine h (Routine.refreshUsbDevices ctx outside false))
  exact inv_routine hticked ((Routine.advanceStartupAutoConnect _ outside).trans
    (Routine.rememberSuccessfulTransport _ outside))

/-- **Every step keeps the invariant.** -/
theorem inv_step {ctx ctx' : TrayContext} {event : Event} (h : Inv ctx)
    (hstep : keepStep ctx event = some ctx') : Inv ctx' := by
  rw [keepStep, Option.ite_none_left_eq_some, Bool.not_eq_true] at hstep
  obtain ⟨hguard, hstep⟩ := hstep
  by_cases htimer : ∃ outside, event = .timer outside
  · obtain ⟨outside, rfl⟩ := htimer
    cases hstep
    exact inv_timer h outside
  · by_cases hsave : ∃ form accepted, event = .save form accepted
    · obtain ⟨form, accepted, rfl⟩ := hsave
      cases hstep
      exact inv_save h hguard
    · push Not at htimer hsave
      exact inv_routine h (Routine.step hstep htimer hsave)

/-! ### Whole runs -/

theorem inv_fresh (cfg : Config) : Inv (fresh cfg) where
  aligned := by simp [fresh]
  chosen hto := absurd rfl hto
  restart := nofun
  claimed := nofun

theorem inv_runTray (cfg : Config) (resume : Option (List Bytes)) (outside : Outside) :
    Inv (runTray cfg resume outside) := by
  simp only [runTray]
  generalize { cfg with
    devices := cfg.devices.filter fun device => !isUsbMuxTarget (splitDeviceAddress device) } = kept
  have hfresh := inv_fresh kept
  cases resume with
  | some addresses => exact inv_routine hfresh (Routine.startEach _ _)
  | none =>
    dsimp only
    split
    · exact inv_routine hfresh (Routine.beginStartupAutoConnect _ outside)
    · exact hfresh

/-- A click on a device of the list finds the device on its way, or puts it there. -/
theorem onItsWay_click {ctx : TrayContext} (h : Inv ctx) {target : Nat}
    (hrange : target < ctx.cfg.devices.length) :
    OnItsWay (ctx.queueDeviceCommand ⟨.switch, target⟩) target := by
  have hin : ctx.outOfRange ⟨.switch, target⟩ = false := by
    simp [outOfRange, hrange]
  rw [queueDeviceCommand, hin, if_neg Bool.false_ne_true]
  split
  · rename_i hto
    exact .inr hto.2
  · split
    · -- The coordinator refuses the click: it is in `UserSwitching` with this target.
      rename_i hrefused
      rw [DeviceCoordinator.requestSwitch_snd] at hrefused
      have hclick : ctx.deviceFlow.refusesSwitch target = true := by simpa using hrefused
      simp only [DeviceCoordinator.refusesSwitch, Bool.and_eq_true, decide_eq_true_eq] at hclick
      exact h.claimed target ((if_pos hclick.1).trans hclick.2)
    · refine .inl ⟨⟨.switch, target⟩, ?_, by rintro ⟨⟩, rfl⟩
      dsimp only
      split
      · assumption
      · exact List.mem_append_right _ List.mem_cons_self

/-- An overriding save leaves a target in the coordinator that nothing carries out. -/
theorem not_claimed_of_overrides {ctx ctx' : TrayContext} {event : Event} (h : Inv ctx)
    (hguard : overrides ctx event = true) (hstep : ctx.step event = some ctx') :
    ¬Claimed ctx' := by
  cases event with
  | save form accepted =>
    cases hstep
    rcases save_cases ctx form accepted with ⟨-, hnot⟩ | ⟨-, -, -, hnot⟩ | ⟨cfg, heq, hover⟩
    · rw [hnot] at hguard
      cases hguard
    · rw [hnot] at hguard
      cases hguard
    · obtain ⟨hschedules, hto, htarget, hnone⟩ := hover.1 hguard
      obtain ⟨-, hflow, hcommands, hswitch⟩ :=
        saved_switch ctx cfg (restartsActive ctx.cfg cfg)
      have hbefore : ctx.restartPending = false := by
        rw [← Bool.not_eq_true]
        exact fun hp => hto (h.restart hp).2
      have hpending := (saved_restartPending h.aligned hbefore cfg _).2 hschedules
      obtain ⟨target, htarget'⟩ := Option.ne_none_iff_exists'.1 hto
      rw [heq]
      intro hclaimed
      rcases hclaimed target (by rw [hflow, htarget, htarget']) with ⟨command, hmem, hfor⟩ | hstill
      · rw [hcommands] at hmem
        exact hnone command hmem hfor.1 (by rw [hfor.2, htarget'])
      · rcases hswitch with ⟨-, -, hcleared⟩ | ⟨hnot, -⟩
        · rw [hcleared] at hstill
          cases hstill
        · exact absurd (hnot.symm.trans hpending) Bool.false_ne_true
  | _ => cases hguard

/-- **A refused click is on its way.**  In every run in which no save schedules a restart over an
unqueued switch in progress, the target of the coordinator is queued or in progress, and so is
every device after a click on Switch.  The condition is exact: right after such a save the
coordinator holds a target that nothing carries out. -/
theorem switch_click (cfg : Config) (resume : Option (List Bytes)) (outside : Outside)
    (events : List Event) (ctx : TrayContext)
    (h : run keepStep (runTray cfg resume outside) events = some ctx) :
    Claimed ctx ∧
      (∀ target < ctx.cfg.devices.length,
        OnItsWay (ctx.queueDeviceCommand ⟨.switch, target⟩) target) ∧
      ∀ event ctx', overrides ctx event = true → ctx.step event = some ctx' → ¬Claimed ctx' := by
  have hinv : Inv ctx := run_invariant (P := Inv) (fun _ _ _ h hstep => inv_step h hstep)
    (inv_runTray cfg resume outside) h
  exact ⟨hinv.claimed, fun _ hrange => onItsWay_click hinv hrange,
    fun _ _ hguard hstep => not_claimed_of_overrides hinv hguard hstep⟩

/-- The settings of one device, with another frame rate. -/
def slowerForm : PanelForm where
  port := some 9000
  fps := some 30
  bitrateMbps := some 30
  devices := [{ lastIpv4 := ascii "10.0.0.1" }]
  autoReconnect := false
  requirePrivateNetwork := true

/-- A device that was switched to runs; a save without a switch in progress keeps it so. -/
theorem switch_click_saved :
    ∃ ctx, run keepStep (runTray (manual [{ lastIpv4 := ascii "10.0.0.1" }]) none ⟨0, 0, []⟩)
        [.command ⟨.switch, 0⟩, .timer ⟨250, 0, []⟩, .timer ⟨500, 0, []⟩,
          .save slowerForm true] = some ctx ∧
      OnItsWay (ctx.queueDeviceCommand ⟨.switch, 0⟩) 0 := by
  refine ⟨_, by rfl, ?_⟩
  exact (switch_click (manual [{ lastIpv4 := ascii "10.0.0.1" }]) none ⟨0, 0, []⟩
    [.command ⟨.switch, 0⟩, .timer ⟨250, 0, []⟩, .timer ⟨500, 0, []⟩, .save slowerForm true] _
    (by rfl)).2.1 0 (by decide +kernel)

/-- The device runs and the user switches to it again; while its old worker leaves, the user saves
another frame rate.  The coordinator keeps a target that is neither queued nor in progress, and
the next click on it is dropped. -/
theorem switch_click_lost :
    ∃ ctx, run step (runTray (manual [{ lastIpv4 := ascii "10.0.0.1" }]) none ⟨0, 0, []⟩)
        [.command ⟨.switch, 0⟩, .timer ⟨250, 0, []⟩, .timer ⟨500, 0, []⟩,
          .command ⟨.switch, 0⟩, .timer ⟨750, 0, []⟩, .save slowerForm true] = some ctx ∧
      ¬Claimed ctx ∧ ctx.queueDeviceCommand ⟨.switch, 0⟩ = ctx := by
  refine ⟨_, by rfl, fun hclaimed => ?_, by decide +kernel⟩
  rcases hclaimed 0 (by decide +kernel) with ⟨command, hmem, -⟩ | hto
  · cases hmem
  · cases hto

end SecondDisplay.SwitchClicks
