import SecondDisplay.App.DeviceList
import Mathlib.Data.List.Nodup

/-!
# A queued command and its device (`QueueDeviceCommand`, `ProcessDeviceCommands`)

Commands and `switchingTo` hold a position, and the panel may move and remove devices before the
command is carried out.  The sender that is started then belongs to the device the user chose
exactly when that device is back at the position of the command (`carriedOut_iff`).
-/

namespace SecondDisplay.ChosenDevice

open TrayContext hiding Event step
open DeviceList Transitions

/-! ### Following a device -/

/-- Where a device goes when the one at `selected` moves up. -/
def movedUp (selected position : Nat) : Nat :=
  if position = selected then selected - 1
  else if position = selected - 1 then selected
  else position

/-- Where a device goes when the one at `selected` is removed. -/
def removed (selected position : Nat) : Option Nat :=
  if position = selected then none
  else some (if selected < position then position - 1 else position)

/-- The number of devices and the position of one of them, followed through an event. -/
def follow : Nat × Option Nat → Event → Nat × Option Nat
  | (count, position), .moveUp selected =>
    if 0 < selected ∧ selected < count then (count, position.map (movedUp selected))
    else (count, position)
  | (count, position), .remove selected =>
    if selected < count then (count - 1, position.bind (removed selected)) else (count, position)
  | place, _ => place

/-! ### Sender objects -/

/-- The sender objects of the configured devices, in their order. -/
def objects (ctx : TrayContext) : List Nat := ctx.apps.map (·.object)

theorem length_objects (ctx : TrayContext) : (objects ctx).length = ctx.apps.length :=
  List.length_map ..

theorem map_object_modify {f : SenderApp → SenderApp} (hf : ∀ app, (f app).object = app.object)
    (apps : List SenderApp) (index : Nat) :
    (apps.modify index f).map (·.object) = apps.map (·.object) := by
  induction apps generalizing index with
  | nil => rw [List.modify_nil]
  | cons app apps ih =>
    cases index with
    | zero => rw [List.modify_zero_cons, List.map_cons, List.map_cons, hf]
    | succ index => rw [List.modify_succ_cons, List.map_cons, List.map_cons, ih]

theorem objects_startApp (ctx : TrayContext) (index : Nat) (target : Bytes) :
    objects (ctx.startApp index target) = objects ctx :=
  map_object_modify (fun _ => SenderApp.start_object ..) _ _

theorem objects_startEach (ctx : TrayContext) (targets : List (Nat × Bytes)) :
    objects (ctx.startEach targets) = objects ctx := by
  induction targets generalizing ctx with
  | nil => rfl
  | cons p targets ih => exact (ih (ctx.startApp p.1 p.2)).trans (objects_startApp ..)

theorem objects_startChosen (ctx : TrayContext) : objects ctx.startChosen = objects ctx := by
  rw [startChosen]
  split
  · rfl
  · split
    · rfl
    · exact objects_startApp ..

/-- A tick leaves every sender object in its place. -/
theorem objects_processDeviceCommands (ctx : TrayContext) :
    objects ctx.processDeviceCommands = objects ctx := by
  rcases processDeviceCommands_cases ctx with ⟨heq, -⟩ | ⟨heq, -⟩ | ⟨heq, -⟩ |
    ⟨command, rest, heq, -⟩
  · rw [heq]
    rfl
  · rw [heq, finishRestart, restartUsb]
    split <;> exact objects_startEach ctx.reapRetired _
  · rw [heq, finishSwitch]
    exact objects_startChosen ctx.reapRetired.stopUsbSession
  · rw [heq, beginCommand_frame]
    exact List.map_map

theorem objects_updateSender (ctx : TrayContext) (worker : Worker) :
    objects (ctx.updateSender SenderApp.finish worker) = objects ctx := by
  cases worker with
  | wifi index => exact @map_object_modify SenderApp.finish (fun _ => rfl) _ _
  | usb => rfl
  | retired index => rfl

/-! ### The device list over a run -/

/-- Each device has a sender object of its own, and a pending settings restart keeps the flag
set. -/
structure Listed (ctx : TrayContext) : Prop where
  aligned : ctx.apps.length = ctx.cfg.devices.length
  distinct : (objects ctx).Nodup
  restart : ctx.restartPending = true → ctx.switching = true

/-- The sender object stands at the followed position. -/
structure StandsAt (ctx : TrayContext) (object : Nat) (place : Nat × Option Nat) : Prop where
  count : ctx.apps.length = place.1
  position : ∀ i, (objects ctx)[i]? = some object ↔ place.2 = some i

theorem movedUp_movedUp {selected : Nat} (hpos : 0 < selected) (i : Nat) :
    movedUp selected (movedUp selected i) = i := by
  simp only [movedUp]
  split_ifs <;> omega

/-- The element at a position after `std::swap` with the one before. -/
theorem getElem?_swap {α : Type} {l : List α} {selected : Nat} (hpos : 0 < selected)
    (hlt : selected < l.length) (i : Nat) :
    (l.swap selected (selected - 1))[i]? = l[movedUp selected i]? := by
  have hlt' : selected - 1 < l.length := Nat.lt_of_le_of_lt (Nat.sub_le selected 1) hlt
  rw [List.swap_eq_of_lt hlt hlt', movedUp]
  by_cases hi : i = selected - 1
  · rw [if_neg (by omega), if_pos hi, hi, List.getElem?_set_self (by rwa [List.length_set]),
      List.getElem?_eq_getElem hlt]
  · rw [List.getElem?_set_ne (Ne.symm hi), if_neg hi]
    by_cases hi' : i = selected
    · rw [if_pos hi', hi', List.getElem?_set_self hlt, List.getElem?_eq_getElem hlt']
    · rw [if_neg hi', List.getElem?_set_ne (Ne.symm hi')]

/-- A move up: the senders trade places, or the position is not in the list. -/
theorem moveUpDevice_cases {ctx : TrayContext}
    (aligned : ctx.apps.length = ctx.cfg.devices.length) (selected : Nat) :
    (0 < selected ∧ selected < ctx.apps.length ∧ ∀ i,
        (objects (ctx.moveUpDevice selected))[i]? = (objects ctx)[movedUp selected i]?) ∨
      (¬(0 < selected ∧ selected < ctx.apps.length) ∧ ctx.moveUpDevice selected = ctx) := by
  rw [moveUpDevice, ← aligned]
  split
  · rename_i h
    refine .inl ⟨h.1, h.2, fun i => ?_⟩
    rw [objects, objects, List.getElem?_map, List.getElem?_map]
    exact congrArg _ (getElem?_swap h.1 h.2 i)
  · rename_i h
    exact .inr ⟨h, rfl⟩

theorem standsAt_moveUp {ctx : TrayContext} (h : Listed ctx) {object : Nat}
    {place : Nat × Option Nat} (hat : StandsAt ctx object place) (selected : Nat) :
    StandsAt (ctx.moveUpDevice selected) object (follow place (.moveUp selected)) := by
  obtain ⟨count, position⟩ := place
  have hcount : ctx.apps.length = count := hat.count
  rcases moveUpDevice_cases h.aligned selected with ⟨hpos, hlt, hobjects⟩ | ⟨hout, hsame⟩
  · rw [follow, if_pos ⟨hpos, hcount ▸ hlt⟩]
    refine ⟨(moveUpDevice_perm ctx selected).length_eq.trans hcount, fun i => ?_⟩
    rw [hobjects, hat.position, Option.map_eq_some_iff]
    constructor
    · intro hp
      exact ⟨_, hp, movedUp_movedUp hpos i⟩
    · rintro ⟨p, hp, rfl⟩
      rw [movedUp_movedUp hpos]
      exact hp
  · rw [hsame, follow, if_neg (hcount ▸ hout)]
    exact hat

theorem objects_removeDevice {ctx : TrayContext}
    (aligned : ctx.apps.length = ctx.cfg.devices.length) (selected : Nat) :
    objects (ctx.removeDevice selected) = (objects ctx).eraseIdx selected := by
  rw [removeDevice]
  by_cases hlt : selected < ctx.apps.length
  · rw [List.getElem?_eq_getElem hlt, List.getElem?_eq_getElem (aligned ▸ hlt)]
    exact (List.eraseIdx_map ..).symm
  · have hout : ctx.apps.length ≤ selected := Nat.not_lt.1 hlt
    have herase : (objects ctx).eraseIdx selected = objects ctx :=
      List.eraseIdx_of_length_le ((length_objects ctx).symm ▸ hout)
    rw [herase, List.getElem?_eq_none hout, List.getElem?_eq_none (aligned ▸ hout)]

theorem standsAt_remove {ctx : TrayContext} (h : Listed ctx) {object : Nat}
    {place : Nat × Option Nat} (hat : StandsAt ctx object place) (selected : Nat) :
    StandsAt (ctx.removeDevice selected) object (follow place (.remove selected)) := by
  obtain ⟨count, position⟩ := place
  have hcount : ctx.apps.length = count := hat.count
  have hobjects := objects_removeDevice h.aligned selected
  have hlength : (ctx.removeDevice selected).apps.length =
      (objects (ctx.removeDevice selected)).length := (length_objects _).symm
  rw [hobjects, List.length_eraseIdx, length_objects, hcount] at hlength
  rw [follow]
  split
  · rename_i hlt
    rw [if_pos hlt] at hlength
    refine ⟨hlength, fun i => ?_⟩
    rw [hobjects, List.getElem?_eraseIdx, Option.bind_eq_some_iff]
    constructor
    · split
      · rename_i hi
        intro hp
        refine ⟨i, (hat.position i).1 hp, ?_⟩
        rw [removed, if_neg (by omega), if_neg (by omega)]
      · rename_i hi
        intro hp
        refine ⟨i + 1, (hat.position _).1 hp, ?_⟩
        rw [removed, if_neg (by omega), if_pos (by omega), Nat.add_sub_cancel]
    · rintro ⟨p, hp, hremoved⟩
      have hbefore := (hat.position p).2 hp
      rw [removed] at hremoved
      split at hremoved
      · cases hremoved
      · split at hremoved
        · obtain rfl := Option.some.inj hremoved
          rw [if_neg (by omega), Nat.sub_add_cancel (by omega)]
          exact hbefore
        · obtain rfl := Option.some.inj hremoved
          rw [if_pos (by omega)]
          exact hbefore
  · rename_i hout
    rw [if_neg hout] at hlength
    refine ⟨hlength, fun i => ?_⟩
    rw [hobjects, List.eraseIdx_of_length_le (by rw [length_objects]; omega), hat.position]

/-- Two trays with the same senders in their places. -/
theorem StandsAt.of_objects {ctx ctx' : TrayContext} {object : Nat} {place : Nat × Option Nat}
    (h : StandsAt ctx object place) (heq : objects ctx' = objects ctx) :
    StandsAt ctx' object place := by
  refine ⟨?_, fun i => heq ▸ h.position i⟩
  rw [← length_objects, heq, length_objects, h.count]

/-- A save of the settings. -/
def isSave : Event → Bool
  | .save _ _ => true
  | _ => false

/-- **Following works.** -/
theorem standsAt_step {ctx ctx' : TrayContext} {event : Event} (h : Listed ctx) {object : Nat}
    {place : Nat × Option Nat} (hat : StandsAt ctx object place) (hkind : isSave event = false)
    (hstep : step ctx event = some ctx') : StandsAt ctx' object (follow place event) := by
  cases event with
  | save form saved => cases hkind
  | click command =>
    cases hstep
    obtain ⟨commands, flow, heq, -⟩ := queueDeviceCommand_frame ctx command
    rw [heq]
    exact hat.of_objects rfl
  | moveUp selected =>
    cases hstep
    exact standsAt_moveUp h hat selected
  | remove selected =>
    cases hstep
    exact standsAt_remove h hat selected
  | tick =>
    cases hstep
    exact hat.of_objects (objects_processDeviceCommands ctx)
  | exit worker =>
    rw [step, workerStep, Option.ite_none_right_eq_some, Option.some.injEq] at hstep
    obtain ⟨-, rfl⟩ := hstep
    exact hat.of_objects (objects_updateSender ctx worker)

theorem Listed.of_frame {ctx ctx' : TrayContext} (h : Listed ctx)
    (hobjects : objects ctx' = objects ctx)
    (hdevices : ctx'.cfg.devices.length = ctx.cfg.devices.length)
    (hrestart : ctx'.restartPending = true → ctx'.switching = true) : Listed ctx' where
  aligned := by rw [← length_objects, hobjects, length_objects, hdevices, h.aligned]
  distinct := hobjects ▸ h.distinct
  restart := hrestart

theorem listed_tick {ctx : TrayContext} (h : Listed ctx) : Listed ctx.processDeviceCommands := by
  have hobjects := objects_processDeviceCommands ctx
  rcases processDeviceCommands_cases ctx with ⟨heq, -⟩ | ⟨heq, -⟩ | ⟨heq, -, -, hp⟩ |
    ⟨command, rest, heq, -⟩
  · rw [heq] at hobjects ⊢
    exact h.of_frame hobjects rfl h.restart
  · rw [heq] at hobjects ⊢
    refine h.of_frame hobjects ?_ ?_
    · rw [finishRestart_frame]
      rfl
    · rw [finishRestart_frame]
      exact nofun
  · rw [heq] at hobjects ⊢
    refine h.of_frame hobjects ?_ ?_
    · rw [finishSwitch_frame]
      rfl
    · rw [finishSwitch_frame]
      exact fun hp' => absurd (hp.symm.trans hp') Bool.false_ne_true
  · rw [heq] at hobjects ⊢
    refine h.of_frame hobjects ?_ ?_
    · rw [beginCommand_frame]
      rfl
    · rw [beginCommand_frame]
      exact fun _ => rfl

theorem listed_step {ctx ctx' : TrayContext} {event : Event} (h : Listed ctx)
    (hkind : isSave event = false) (hstep : step ctx event = some ctx') : Listed ctx' := by
  cases event with
  | save form saved => cases hkind
  | click command =>
    cases hstep
    obtain ⟨commands, flow, heq, -⟩ := queueDeviceCommand_frame ctx command
    rw [heq]
    exact h.of_frame rfl rfl h.restart
  | moveUp selected =>
    cases hstep
    have hperm := moveUpDevice_perm ctx selected
    refine ⟨?_, (hperm.map _).nodup_iff.2 h.distinct, ?_⟩
    · rw [hperm.length_eq, h.aligned, moveUpDevice]
      split
      · rw [length_renumber, (List.swap_perm ..).length_eq]
      · rfl
    · rw [moveUpDevice_frame]
      exact h.restart
  | remove selected =>
    cases hstep
    have hobjects := objects_removeDevice h.aligned selected
    refine ⟨?_, hobjects ▸ h.distinct.eraseIdx selected, ?_⟩
    · rcases removeDevice_cases ctx selected with heq | ⟨app, cfg, happ, hlength, heq⟩
      · rw [heq, h.aligned]
      · have hlt := (List.getElem?_eq_some_iff.1 happ).1
        have haligned := h.aligned
        rw [heq]
        dsimp only
        rw [List.length_eraseIdx_of_lt hlt]
        omega
    · rcases removeDevice_cases ctx selected with heq | ⟨app, cfg, -, -, heq⟩
      · rw [heq]
        exact h.restart
      · rw [heq]
        exact h.restart
  | tick =>
    cases hstep
    exact listed_tick h
  | exit worker =>
    rw [step, workerStep, Option.ite_none_right_eq_some, Option.some.injEq] at hstep
    obtain ⟨-, rfl⟩ := hstep
    refine h.of_frame (objects_updateSender ctx worker) ?_ ?_
    · cases worker <;> rfl
    · cases worker <;> exact h.restart

/-- The device list after a run, with the device followed through its events. -/
theorem followed_run {ctx ctx' : TrayContext} {events : List Event} (h : Listed ctx)
    {object : Nat} {place : Nat × Option Nat} (hat : StandsAt ctx object place)
    (hkind : ∀ event ∈ events, isSave event = false) (hrun : run step ctx events = some ctx') :
    Listed ctx' ∧ StandsAt ctx' object (events.foldl follow place) := by
  induction events generalizing ctx place with
  | nil =>
    cases hrun
    exact ⟨h, hat⟩
  | cons event events ih =>
    obtain ⟨next, hstep, hrest⟩ := run_cons_some.1 hrun
    have hevent := hkind event List.mem_cons_self
    exact ih (listed_step h hevent hstep) (standsAt_step h hat hevent hstep)
      (fun e he => hkind e (List.mem_cons_of_mem _ he)) hrest

/-! ### The switch of a command -/

/-- One step while the switch stays pending. -/
def pendingStep (ctx : TrayContext) (event : Event) : Option TrayContext :=
  if ctx.switching then step ctx event else none

theorem run_of_pending {ctx ctx' : TrayContext} {events : List Event}
    (h : run pendingStep ctx events = some ctx') : run step ctx events = some ctx' := by
  induction events generalizing ctx with
  | nil => exact h
  | cons event events ih =>
    obtain ⟨next, hstep, hrest⟩ := run_cons_some.1 h
    rw [pendingStep, Option.ite_none_right_eq_some] at hstep
    exact run_cons_some.2 ⟨next, hstep.2, ih hrest⟩

/-- While the flag is set, the switch has this target. -/
def SwitchTo (index : Nat) (ctx : TrayContext) : Prop :=
  ctx.switching = true → ctx.switchingTo = some index ∧ ctx.restartPending = false

/-- A pending switch keeps its target. -/
theorem switchTo_step {index : Nat} {ctx ctx' : TrayContext} {event : Event}
    (h : SwitchTo index ctx) (hkind : isSave event = false)
    (hstep : pendingStep ctx event = some ctx') : SwitchTo index ctx' := by
  rw [pendingStep, Option.ite_none_right_eq_some] at hstep
  obtain ⟨hs, hstep⟩ := hstep
  obtain ⟨hto, hp⟩ := h hs
  cases event with
  | save form saved => cases hkind
  | click command =>
    cases hstep
    obtain ⟨commands, flow, heq, -⟩ := queueDeviceCommand_frame ctx command
    rw [heq]
    exact fun _ => ⟨hto, hp⟩
  | moveUp selected =>
    cases hstep
    rw [moveUpDevice_frame]
    exact fun _ => ⟨hto, hp⟩
  | remove selected =>
    cases hstep
    rcases removeDevice_cases ctx selected with heq | ⟨app, cfg, -, -, heq⟩
    · rw [heq]
      exact h
    · rw [heq]
      exact fun _ => ⟨hto, hp⟩
  | tick =>
    cases hstep
    rcases processDeviceCommands_cases ctx with ⟨heq, -⟩ | ⟨-, -, -, hpending⟩ | ⟨heq, -⟩ |
      ⟨command, rest, -, hclear, -⟩
    · rw [heq]
      exact fun _ => ⟨hto, hp⟩
    · exact absurd (hp.symm.trans hpending) Bool.false_ne_true
    · rw [heq, finishSwitch_frame]
      exact nofun
    · exact absurd (hclear.symm.trans hs) Bool.false_ne_true
  | exit worker =>
    rw [step, workerStep, Option.ite_none_right_eq_some, Option.some.injEq] at hstep
    obtain ⟨-, rfl⟩ := hstep
    cases worker <;> exact fun _ => ⟨hto, hp⟩

theorem switchTo_run {index : Nat} {ctx ctx' : TrayContext} {events : List Event}
    (h : SwitchTo index ctx) (hkind : ∀ event ∈ events, isSave event = false)
    (hrun : run pendingStep ctx events = some ctx') : SwitchTo index ctx' := by
  induction events generalizing ctx with
  | nil =>
    cases hrun
    exact h
  | cons event events ih =>
    obtain ⟨next, hstep, hrest⟩ := run_cons_some.1 hrun
    exact ih (switchTo_step h (hkind event List.mem_cons_self) hstep)
      (fun e he => hkind e (List.mem_cons_of_mem _ he)) hrest

/-! ### What is started -/

/-- A step starts the sender object of a configured device. -/
def Starts (ctx ctx' : TrayContext) (object : Nat) : Prop :=
  ∃ (i : Nat) (app app' : SenderApp), ctx.apps[i]? = some app ∧ app.running = false ∧
    ctx'.apps[i]? = some app' ∧ app'.running = true ∧ app'.object = object

/-- There is a device at a position, with an address to connect to. -/
def Startable (ctx : TrayContext) (i : Nat) : Prop :=
  i < ctx.apps.length ∧ ctx.resolveDeviceTarget i ≠ []

/-- The tick that completes a switch starts the sender at the position of the command. -/
theorem starts_iff {ctx : TrayContext} {index : Nat} (hs : ctx.switching = true)
    (hto : SwitchTo index ctx) (hw : ctx.waits = false) (object : Nat) :
    Starts ctx ctx.processDeviceCommands object ↔
      Startable ctx index ∧ (objects ctx)[index]? = some object := by
  obtain ⟨hto, hp⟩ := hto hs
  have hwifi : ctx.wifiRunning = false := by
    rw [waits, if_neg (Bool.not_eq_true _ ▸ hp), anyRunning_eq, Bool.or_eq_false_iff] at hw
    exact hw.2
  have happs :
      ctx.processDeviceCommands.apps = ctx.reapRetired.stopUsbSession.startChosen.apps := by
    rcases processDeviceCommands_cases ctx with ⟨-, ⟨-, hwaits⟩ | ⟨hclear, -⟩⟩ |
      ⟨-, -, -, hpending⟩ | ⟨heq, -⟩ | ⟨command, rest, -, hclear, -⟩
    · exact absurd (hw.symm.trans hwaits) Bool.false_ne_true
    · exact absurd (hclear.symm.trans hs) Bool.false_ne_true
    · exact absurd (hp.symm.trans hpending) Bool.false_ne_true
    · rw [heq]
      rfl
    · exact absurd (hclear.symm.trans hs) Bool.false_ne_true
  rw [Starts, happs]
  by_cases htarget : ctx.resolveDeviceTarget index = []
  · -- Nothing starts, so no sender comes up.
    have hsame : ctx.reapRetired.stopUsbSession.startChosen = ctx.reapRetired.stopUsbSession := by
      rw [startChosen, show ctx.reapRetired.stopUsbSession.switchingTo = some index from hto]
      exact if_pos htarget
    rw [hsame]
    constructor
    · rintro ⟨i, app, app', happ, hdown, happ', hup, -⟩
      obtain rfl := Option.some.inj (happ.symm.trans happ')
      exact absurd (hdown.symm.trans hup) Bool.false_ne_true
    · rintro ⟨⟨-, hne⟩, -⟩
      exact absurd htarget hne
  · rw [@startChosen_some ctx.reapRetired.stopUsbSession _ hto htarget, startApp]
    dsimp only
    rw [objects, List.getElem?_map]
    constructor
    · rintro ⟨i, app, app', happ, hdown, happ', hup, rfl⟩
      rw [List.getElem?_modify, show ctx.reapRetired.stopUsbSession.apps = ctx.apps from rfl,
        happ] at happ'
      replace happ' := Option.some.inj happ'
      dsimp only at happ'
      by_cases hi : index = i
      · subst hi
        rw [if_pos rfl] at happ'
        refine ⟨⟨(List.getElem?_eq_some_iff.1 happ).1, htarget⟩, ?_⟩
        rw [happ, ← happ', SenderApp.start_object]
        rfl
      · rw [if_neg hi] at happ'
        rw [← happ', hdown] at hup
        cases hup
    · rintro ⟨⟨hlt, -⟩, hobject⟩
      obtain ⟨app, happ, rfl⟩ := Option.map_eq_some_iff.1 hobject
      have happ' : (ctx.startApp index (ctx.resolveDeviceTarget index)).apps[index]? =
          some (app.start (ctx.resolveDeviceTarget index) (ctx.devicePort index)
            (makeStreamSettings ctx.cfg false) (ctx.deviceId index)) := by
        simp [startApp, happ]
      refine ⟨index, app, _, happ, ?_, happ', SenderApp.start_running .., SenderApp.start_object ..⟩
      have hdown := appRunning_of_not_wifiRunning hwifi index
      rwa [appRunning, happ] at hdown

/-- The command is carried out for a sender object: the step starts exactly this object, if its
device is still listed and has an address, and nothing otherwise. -/
def CarriedOut (ctx ctx' : TrayContext) (object : Nat) : Prop :=
  ∀ started, Starts ctx ctx' started ↔
    started = object ∧ ∃ i, (objects ctx)[i]? = some object ∧ ctx.resolveDeviceTarget i ≠ []

/-- **The chosen device.**  A command is taken from the queue after some events and its switch is
completed after some more.  It is carried out for the device it was issued for exactly when this
device, followed through all the events, stands at the position of the command again, or neither
it nor the device at that position can be started. -/
theorem carriedOut_iff {ctx taken done : TrayContext} {command : DeviceCommand} {object : Nat}
    {before after : List Event} {rest : List DeviceCommand} (h : Listed ctx)
    (hstart : command.type ≠ .stop) (hchosen : (objects ctx)[command.index]? = some object)
    (hkind : ∀ event ∈ before ++ after, isSave event = false)
    (hbefore : run step ctx before = some taken) (hidle : taken.switching = false)
    (hfront : taken.commands = command :: rest)
    (hafter : run pendingStep taken.processDeviceCommands after = some done)
    (hpending : done.switching = true) (hdown : done.waits = false) :
    CarriedOut done done.processDeviceCommands object ↔
      ((before ++ after).foldl follow (ctx.apps.length, some command.index)).2 =
          some command.index ∨
        (¬Startable done command.index ∧ ∀ i,
          ((before ++ after).foldl follow (ctx.apps.length, some command.index)).2 = some i →
            ¬Startable done i) := by
  have hat : StandsAt ctx object (ctx.apps.length, some command.index) := by
    refine ⟨rfl, fun i => ?_⟩
    rw [Option.some.injEq]
    constructor
    · intro hi
      exact (List.getElem?_inj (List.getElem?_eq_some_iff.1 hchosen).1 h.distinct).1
        (hchosen.trans hi.symm)
    · rintro rfl
      exact hchosen
  obtain ⟨hlisted, hat⟩ := followed_run h hat
    (fun e he => hkind e (List.mem_append_left _ he)) hbefore
  -- The tick that takes the command makes its position the target of the switch.
  have hto : SwitchTo command.index taken.processDeviceCommands := by
    rcases processDeviceCommands_cases taken with ⟨-, ⟨hs, -⟩ | ⟨-, hnil⟩⟩ | ⟨-, hs, -⟩ |
      ⟨-, hs, -⟩ | ⟨front, others, heq, -, hqueue⟩
    · exact absurd (hidle.symm.trans hs) Bool.false_ne_true
    · rw [hfront] at hnil
      cases hnil
    · exact absurd (hidle.symm.trans hs) Bool.false_ne_true
    · exact absurd (hidle.symm.trans hs) Bool.false_ne_true
    · rw [hfront] at hqueue
      cases hqueue
      rw [heq, beginCommand_frame]
      refine fun _ => ⟨if_neg hstart, ?_⟩
      cases hp : taken.restartPending with
      | true => exact absurd (hidle.symm.trans (hlisted.restart hp)) Bool.false_ne_true
      | false => exact hp
  have hto := switchTo_run hto (fun e he => hkind e (List.mem_append_right _ he)) hafter
  obtain ⟨-, hat⟩ := followed_run (listed_tick hlisted)
    (hat.of_objects (objects_processDeviceCommands taken))
    (fun e he => hkind e (List.mem_append_right _ he)) (run_of_pending hafter)
  rw [List.foldl_append]
  generalize after.foldl follow (before.foldl follow (ctx.apps.length, some command.index)) =
    place at hat ⊢
  have hstarts := starts_iff hpending hto hdown
  have hin : ∀ i, (objects done)[i]? = some object → i < done.apps.length := fun i hi =>
    length_objects done ▸ (List.getElem?_eq_some_iff.1 hi).1
  constructor
  · intro hcarried
    by_cases hstartable : Startable done command.index
    · have hthere := List.getElem?_eq_getElem ((length_objects done).symm ▸ hstartable.1)
      obtain ⟨heq, -⟩ := (hcarried _).1 ((hstarts _).2 ⟨hstartable, hthere⟩)
      exact .inl ((hat.position _).1 (heq ▸ hthere))
    · refine .inr ⟨hstartable, fun i hi hother => ?_⟩
      have hplaced := (hat.position i).2 hi
      exact hstartable ((hstarts object).1 ((hcarried object).2 ⟨rfl, i, hplaced, hother.2⟩)).1
  · rintro (hback | ⟨hnone, hgone⟩) started
    · have hplaced := (hat.position _).2 hback
      rw [hstarts, hplaced, Option.some.injEq]
      constructor
      · rintro ⟨hstartable, rfl⟩
        exact ⟨rfl, command.index, hplaced, hstartable.2⟩
      · rintro ⟨rfl, i, hi, htarget⟩
        obtain rfl := Option.some.inj (((hat.position i).1 hi).symm.trans hback)
        exact ⟨⟨hin _ hi, htarget⟩, rfl⟩
    · rw [hstarts]
      constructor
      · exact fun hboth => absurd hboth.1 hnone
      · rintro ⟨-, i, hi, htarget⟩
        exact absurd ⟨hin i hi, htarget⟩ (hgone i ((hat.position i).1 hi))

/-- Two devices that have been added by their addresses. -/
def twoEntries : TrayContext :=
  fresh { devices := [{ lastIpv4 := ascii "10.0.0.1" }, { lastIpv4 := ascii "10.0.0.2" }] }

theorem twoEntries_listed : Listed twoEntries := ⟨rfl, by decide, nofun⟩

/-- The second device is chosen, moved up and down again: its sender starts. -/
theorem carriedOut_iff_moved_back :
    ∃ taken done, run step twoEntries [.click ⟨.switch, 1⟩, .moveUp 1] = some taken ∧
      run pendingStep taken.processDeviceCommands [.moveUp 1] = some done ∧
      CarriedOut done done.processDeviceCommands 1 :=
  ⟨_, _, by rfl, by rfl, (@carriedOut_iff twoEntries _ _ ⟨.switch, 1⟩ 1
    [.click ⟨.switch, 1⟩, .moveUp 1] [.moveUp 1] [] twoEntries_listed nofun rfl (by simp [isSave])
    (by rfl) rfl rfl (by rfl) rfl (by decide +kernel)).2 (.inl rfl)⟩

/-- The second device is chosen and then moved up: the first device's sender starts instead. -/
theorem carriedOut_fails_moved :
    ∃ taken, run step twoEntries [.click ⟨.switch, 1⟩, .moveUp 1] = some taken ∧
      (objects twoEntries)[1]? = some 1 ∧
      ¬CarriedOut taken.processDeviceCommands taken.processDeviceCommands.processDeviceCommands 1 ∧
      Starts taken.processDeviceCommands taken.processDeviceCommands.processDeviceCommands 0 := by
  refine ⟨_, by rfl, rfl, fun hcarried => ?_, 1, _, _, by rfl, by rfl, by rfl, by rfl, by rfl⟩
  obtain ⟨heq, -⟩ := (hcarried 0).1 ⟨1, _, _, by rfl, by rfl, by rfl, by rfl, by rfl⟩
  cases heq

end SecondDisplay.ChosenDevice
