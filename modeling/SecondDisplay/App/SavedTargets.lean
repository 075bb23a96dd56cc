import SecondDisplay.App.TrayHandlers
import SecondDisplay.Library.FirstFit
import SecondDisplay.Library.Transitions

/-!
# What a save keeps active (`ApplyAndRestart`, `ProcessDeviceCommands`)

A save deals the senders out to the new devices: each new device takes the first old sender of
the same id or address that is not taken yet.  A device that takes none gets a new sender, which
is started if the *position* held an active address before.  `preserves_iff` says exactly when
this keeps the active devices active and starts no other: as many positions must be brought back
in this way as active senders are dropped.
-/

namespace SecondDisplay.SavedTargets

open TrayContext FirstFit Switching Transitions

/-! ### The pairing of old and new devices -/

/-- A device is an entry of the old list: it has its id or its address. -/
def fits (device old : DeviceConfig) : Bool :=
  (decide (device.id ≠ []) && decide (device.id = old.id)) ||
    decide (splitDeviceAddress device = splitDeviceAddress old)

/-- The senders that nobody has taken. -/
def pool (apps : List SenderApp) (used : List Nat) : List (Option SenderApp) :=
  apps.zipIdx.map fun (app, j) => if used.contains j then none else some app

theorem length_pool (apps : List SenderApp) (used : List Nat) :
    (pool apps used).length = apps.length := by
  rw [pool, List.length_map, List.length_zipIdx]

theorem getElem?_pool (apps : List SenderApp) (used : List Nat) (j : Nat) :
    (pool apps used)[j]? =
      (apps[j]?).map fun app => if used.contains j then none else some app := by
  rw [pool, List.getElem?_map, List.getElem?_zipIdx, Option.map_map]
  simp [Function.comp_def]

/-- The search of `ApplyAndRestart` finds what first-fit finds. -/
theorem find_takesOver {apps : List SenderApp} {oldDevices : List DeviceConfig}
    (aligned : apps.length = oldDevices.length) (used : List Nat) (device : DeviceConfig) :
    (((pool apps used).zip oldDevices).zipIdx.find? fun (p, _) => takesOver device p).map
      (fun x => (x.1.2, x.2)) =
    oldDevices.zipIdx.find? fun (old, j) => !used.contains j && fits device old := by
  have hsnd : ((pool apps used).zip oldDevices).map Prod.snd = oldDevices :=
    List.map_snd_zip (by rw [length_pool, aligned])
  have hzip : oldDevices.zipIdx =
      ((pool apps used).zip oldDevices).zipIdx.map fun x => (x.1.2, x.2) := by
    conv_lhs => rw [← hsnd, List.zipIdx_map]
    rfl
  rw [hzip, List.find?_map]
  congr 1
  refine List.find?_congr fun x hx => ?_
  obtain ⟨⟨taken, old⟩, j⟩ := x
  rw [List.mk_mem_zipIdx_iff_getElem?, List.getElem?_zip_eq_some, getElem?_pool] at hx
  obtain ⟨app, -, rfl⟩ := Option.map_eq_some_iff.1 hx.1
  dsimp only [Function.comp_apply]
  cases used.contains j <;> rfl

/-- The sender of an old device is restarted with the new one. -/
def restarts (restartActive : Bool) (app : SenderApp) (device old : DeviceConfig) : Bool :=
  decide (app.running = true ∧
    (restartActive = true ∨ splitDeviceAddress device ≠ splitDeviceAddress old))

/-- The sender that a new device gets, and whether it is put on the restart list. -/
inductive Dealt (apps : List SenderApp) (oldDevices : List DeviceConfig) (reconnect : List Bytes)
    (restartActive : Bool) (device : DeviceConfig) (next : Nat) :
    Option Nat → SenderApp × Bool → Prop
  | taken {j : Nat} {app : SenderApp} {old : DeviceConfig} (happ : apps[j]? = some app)
      (hold : oldDevices[j]? = some old) :
      Dealt apps oldDevices reconnect restartActive device next (some j)
        (if restarts restartActive app device old then app.requestStop else app,
          restarts restartActive app device old)
  | fresh (object : Nat) :
      Dealt apps oldDevices reconnect restartActive device next none
        ({ object := object },
          (oldDevices[next]?).any fun old => decide (splitDeviceAddress old ∈ reconnect))

/-- One round of the loop. -/
theorem step_pool {apps : List SenderApp} {oldDevices : List DeviceConfig}
    (aligned : apps.length = oldDevices.length) (reconnect : List Bytes) (restartActive : Bool)
    {state : Takeover} {used : List Nat} (hpool : state.oldApps = pool apps used)
    (device : DeviceConfig) (next : Nat) :
    ∃ dealt, Dealt apps oldDevices reconnect restartActive device next
        (first fits oldDevices used device) dealt ∧
      ∃ nextObject, Takeover.step oldDevices reconnect restartActive state (device, next) =
        { oldApps := pool apps ((first fits oldDevices used device).toList ++ used)
          apps := state.apps ++ [dealt.1]
          restartAfterStop :=
            if dealt.2 then state.restartAfterStop ++ [next] else state.restartAfterStop
          nextObject := nextObject } := by
  have hfind := find_takesOver aligned used device
  simp only [first, ← hfind, Takeover.step, hpool]
  cases hfound : (((pool apps used).zip oldDevices).zipIdx.find? fun (p, _) =>
      takesOver device p) with
  | none =>
    exact ⟨_, .fresh state.nextObject, _, rfl⟩
  | some x =>
    obtain ⟨⟨taken, old⟩, j⟩ := x
    have hmem := List.mem_of_find?_eq_some hfound
    have htakes : takesOver device (taken, old) = true :=
      List.find?_some (p := fun x : (Option SenderApp × DeviceConfig) × Nat =>
        takesOver device x.1) hfound
    rw [List.mk_mem_zipIdx_iff_getElem?, List.getElem?_zip_eq_some, getElem?_pool] at hmem
    obtain ⟨app, happ, heq⟩ := Option.map_eq_some_iff.1 hmem.1
    dsimp only at heq
    by_cases hused : used.contains j = true
    · rw [if_pos hused] at heq
      rw [← heq] at htakes
      cases htakes
    · rw [if_neg hused] at heq
      obtain rfl := heq
      refine ⟨_, .taken happ hmem.2, state.nextObject, ?_⟩
      have hset : (pool apps used).set j none = pool apps ([j] ++ used) := by
        apply List.ext_getElem?
        intro i
        rw [List.getElem?_set, getElem?_pool, getElem?_pool, length_pool]
        by_cases hij : j = i
        · subst hij
          simp [(List.getElem?_eq_some_iff.1 happ).1]
        · have hother : ([j] ++ used).contains i = used.contains i := by
            simp [Ne.symm hij]
          rw [if_neg hij, hother]
      simp only [Option.map_some, Option.toList_some, hset, restarts, decide_eq_true_eq]

/-- The whole loop. -/
theorem foldl_pool {apps : List SenderApp} {oldDevices : List DeviceConfig}
    (aligned : apps.length = oldDevices.length) (reconnect : List Bytes) (restartActive : Bool)
    (devices : List DeviceConfig) {state : Takeover} {used : List Nat}
    (hpool : state.oldApps = pool apps used) :
    ∃ dealt : List (SenderApp × Bool), dealt.length = devices.length ∧
      (∀ i asg device d, (assign fits oldDevices used devices)[i]? = some asg →
        devices[i]? = some device → dealt[i]? = some d →
        Dealt apps oldDevices reconnect restartActive device (state.apps.length + i) asg d) ∧
      ((devices.zipIdx state.apps.length).foldl
        (Takeover.step oldDevices reconnect restartActive) state).apps =
          state.apps ++ dealt.map Prod.fst ∧
      ∀ x, x ∈ ((devices.zipIdx state.apps.length).foldl
          (Takeover.step oldDevices reconnect restartActive) state).restartAfterStop ↔
        x ∈ state.restartAfterStop ∨
          ∃ i d, dealt[i]? = some d ∧ d.2 = true ∧ x = state.apps.length + i := by
  induction devices generalizing state used with
  | nil => exact ⟨[], rfl, by simp [assign], by simp, by simp⟩
  | cons device devices ih =>
    obtain ⟨d, hdealt, nextObject, hstep⟩ :=
      step_pool aligned reconnect restartActive hpool device state.apps.length
    rw [List.zipIdx_cons, List.foldl_cons, hstep]
    obtain ⟨dealt, hlength, hall, happs, hlist⟩ := @ih
      { oldApps := pool apps ((first fits oldDevices used device).toList ++ used)
        apps := state.apps ++ [d.1]
        restartAfterStop :=
          if d.2 then state.restartAfterStop ++ [state.apps.length] else state.restartAfterStop
        nextObject := nextObject } _ rfl
    simp only [List.length_append, List.length_singleton] at hall happs hlist
    refine ⟨d :: dealt, by rw [List.length_cons, List.length_cons, hlength], ?_, ?_, ?_⟩
    · intro i asg device' d' hasg hdevice hd
      cases i with
      | zero =>
        cases hasg
        cases hdevice
        cases hd
        exact hdealt
      | succ i =>
        have hnext := hall i asg device' d' hasg hdevice hd
        rwa [show state.apps.length + (i + 1) = state.apps.length + 1 + i by omega]
    · rw [happs, List.append_assoc, List.map_cons]
      rfl
    · intro x
      rw [hlist]
      constructor
      · rintro (hx | ⟨i, d', hd', hlisted, rfl⟩)
        · split at hx
          · rename_i hlisted
            rcases List.mem_append.1 hx with hx | hx
            · exact .inl hx
            · exact .inr ⟨0, d, rfl, hlisted, List.mem_singleton.1 hx⟩
          · exact .inl hx
        · exact .inr ⟨i + 1, d', hd', hlisted, by omega⟩
      · rintro (hx | ⟨i, d', hd', hlisted, rfl⟩)
        · left
          split
          · exact List.mem_append_left _ hx
          · exact hx
        · cases i with
          | zero =>
            cases hd'
            left
            rw [if_pos hlisted]
            exact List.mem_append_right _ (List.mem_singleton.2 rfl)
          | succ i => exact .inr ⟨i, d', hd', hlisted, by omega⟩

/-- The senders and the restart list that the loop hands over when no restart is pending. -/
theorem takeover_dealt {ctx : TrayContext} {oldDevices : List DeviceConfig}
    (aligned : ctx.apps.length = oldDevices.length) (hlist : ctx.restartAfterStop = [])
    (reconnect : List Bytes) (restartActive : Bool) :
    ∃ dealt : List (SenderApp × Bool), dealt.length = ctx.cfg.devices.length ∧
      (∀ i device d, ctx.cfg.devices[i]? = some device → dealt[i]? = some d →
        Dealt ctx.apps oldDevices reconnect restartActive device i
          (taken fits oldDevices ctx.cfg.devices i) d) ∧
      (ctx.takeover oldDevices reconnect restartActive).apps = dealt.map Prod.fst ∧
      ∀ x, x ∈ (ctx.takeover oldDevices reconnect restartActive).restartAfterStop ↔
        ∃ d, dealt[x]? = some d ∧ d.2 = true := by
  have hstart : ctx.apps.map some = pool ctx.apps [] := by
    apply List.ext_getElem?
    intro j
    rw [getElem?_pool, List.getElem?_map]
    rfl
  obtain ⟨dealt, hlength, hall, happs, hmem⟩ := @foldl_pool _ _ aligned reconnect restartActive
    ctx.cfg.devices
    { oldApps := ctx.apps.map some
      restartAfterStop := ctx.restartAfterStop
      nextObject := ctx.nextObject } _ hstart
  refine ⟨dealt, hlength, fun i device d hdevice hd => ?_, happs, fun x => ?_⟩
  · have hlt : i < (assign fits oldDevices [] ctx.cfg.devices).length := by
      rw [length_assign]
      exact (List.getElem?_eq_some_iff.1 hdevice).1
    have hasg := List.getElem?_eq_getElem hlt
    have hdealt := hall i _ device d hasg hdevice hd
    rw [taken, hasg]
    simpa using hdealt
  · refine (hmem x).trans ?_
    simp [hlist]

/-! ### Ticks after the save -/

/-- What happens after a save. -/
inductive Event where
  /-- A tick of the timer, as far as the queue is concerned. -/
  | tick
  /-- A worker that was asked to stop leaves. -/
  | exit (worker : Worker)

/-- One step. -/
def step (ctx : TrayContext) : Event → Option TrayContext
  | .tick => some ctx.processDeviceCommands
  | .exit worker =>
    if (ctx.senderOf worker).any fun app => app.running && app.stopRequested then
      some (ctx.updateSender SenderApp.finish worker)
    else none

/-- No restart is under way, and the workers that were asked to stop have left. -/
def Settled (ctx : TrayContext) : Prop :=
  ctx.switching = false ∧
    ∀ app ∈ ctx.apps, app.running = true → app.stopRequested = false

/-- On the way to a state in which exactly the wanted positions are active: those on the restart
list have been asked to stop, the others are as they shall be. -/
structure Restoring (wanted : Nat → Prop) (ctx : TrayContext) : Prop where
  commands : ctx.commands = []
  switching : ctx.switching = ctx.restartPending
  usb : ctx.switching = true → ∀ app, ctx.usbApp = some app → app.running = true →
    app.stopRequested = true
  listed : ∀ (i : Nat) (app : SenderApp), i ∈ ctx.restartAfterStop → ctx.apps[i]? = some app →
    wanted i ∧ (app.running = true → app.stopRequested = true)
  others : ∀ (i : Nat) (app : SenderApp), i ∉ ctx.restartAfterStop → ctx.apps[i]? = some app →
    ((app.running = true ∧ app.stopRequested = false) ↔ wanted i)

variable {wanted : Nat → Prop} {ctx ctx' t : TrayContext}

theorem restoring_tick (h : Restoring wanted ctx) :
    Restoring wanted ctx.processDeviceCommands := by
  have hreaped : Restoring wanted ctx.reapRetired :=
    ⟨h.commands, h.switching, h.usb, h.listed, h.others⟩
  rcases processDeviceCommands_cases ctx with ⟨heq, -⟩ | ⟨heq, -, hwaits, hp⟩ |
    ⟨-, hs, -, hp⟩ | ⟨command, rest, -, -, hqueue⟩
  · rw [heq]
    exact hreaped
  · have hlength := finishRestart_apps_length ctx.reapRetired
    rw [waits, if_pos hp, Bool.or_eq_false_iff, List.any_eq_false] at hwaits
    have hcommands : ctx.reapRetired.finishRestart.commands = ctx.commands := by
      rw [finishRestart_frame]
      rfl
    have hcleared : ctx.reapRetired.finishRestart.switching = false := rfl
    have hlist : ctx.reapRetired.finishRestart.restartAfterStop = [] := rfl
    have htarget : ctx.reapRetired.finishRestart.restartUsbTarget = [] := rfl
    refine ⟨?_, ?_, ?_, ?_, ?_⟩
    · rw [heq, hcommands, h.commands]
    · rw [heq, hcleared, restartPending_eq_false.2 ⟨hlist, htarget⟩]
    · intro hs
      rw [heq, hcleared] at hs
      cases hs
    · intro i app hmem
      rw [heq, hlist] at hmem
      cases hmem
    · intro i app' _ happ'
      rw [heq] at happ'
      obtain ⟨app, happ, ⟨hmem, rfl⟩ | ⟨hmem, hstarted⟩⟩ := getElem?_finishRestart happ'
      · exact h.others i app' hmem happ
      · have hdown : app.running = false := by
          have hwait := hwaits.1 i hmem
          rw [appRunning, show ctx.apps[i]? = some app from happ] at hwait
          exact Bool.eq_false_iff.2 hwait
        have hwanted := (h.listed i app hmem happ).1
        exact ⟨fun _ => hwanted, fun _ => ⟨hstarted.running, hstarted.fresh hdown⟩⟩
  · rw [h.switching, hp] at hs
    cases hs
  · rw [h.commands] at hqueue
    cases hqueue

/-- A worker that leaves was asked to stop, so it is not one of those that go on. -/
theorem restoring_exit (h : Restoring wanted ctx) {worker : Worker}
    (hstep : step ctx (.exit worker) = some ctx') : Restoring wanted ctx' := by
  rw [step, Option.ite_none_right_eq_some, Option.some.injEq] at hstep
  obtain ⟨hleaves, rfl⟩ := hstep
  cases worker with
  | retired index => exact ⟨h.commands, h.switching, h.usb, h.listed, h.others⟩
  | usb =>
    refine ⟨h.commands, h.switching, fun _ app happ hup => ?_, h.listed, h.others⟩
    obtain ⟨old, -, rfl⟩ := Option.map_eq_some_iff.1 happ
    cases hup
  | wifi index =>
    -- The sender at each position afterwards, in terms of the one before.
    have hbefore : ∀ (i : Nat) (app' : SenderApp),
        (ctx.updateSender SenderApp.finish (.wifi index)).apps[i]? = some app' →
        ∃ app : SenderApp, ctx.apps[i]? = some app ∧
          app' = if index = i then app.finish else app := by
      intro i app' happ'
      rw [updateSender, List.getElem?_modify] at happ'
      obtain ⟨app, happ, heq⟩ := Option.map_eq_some_iff.1 happ'
      exact ⟨app, happ, heq.symm⟩
    refine ⟨h.commands, h.switching, h.usb, fun i app' hmem happ' => ?_,
      fun i app' hmem happ' => ?_⟩
    · obtain ⟨app, happ, rfl⟩ := hbefore i app' happ'
      refine ⟨(h.listed i app hmem happ).1, fun hup => ?_⟩
      by_cases hindex : index = i
      · rw [if_pos hindex] at hup
        cases hup
      · rw [if_neg hindex] at hup ⊢
        exact (h.listed i app hmem happ).2 hup
    · obtain ⟨app, happ, rfl⟩ := hbefore i app' happ'
      rw [← h.others i app hmem happ]
      by_cases hindex : index = i
      · subst hindex
        rw [senderOf, happ, Option.any_some, Bool.and_eq_true] at hleaves
        simp [SenderApp.finish, hleaves.2]
      · rw [if_neg hindex]

theorem restoring_step {event : Event} (h : Restoring wanted ctx)
    (hstep : step ctx event = some ctx') : Restoring wanted ctx' := by
  cases event with
  | tick =>
    cases hstep
    exact restoring_tick h
  | exit worker => exact restoring_exit h hstep

theorem apps_length_step {event : Event} (hstep : step ctx event = some ctx') :
    ctx'.apps.length = ctx.apps.length := by
  cases event with
  | tick =>
    cases hstep
    exact processDeviceCommands_apps_length ctx
  | exit worker =>
    rw [step, Option.ite_none_right_eq_some, Option.some.injEq] at hstep
    rw [← hstep.2]
    exact updateSender_apps_length ctx _ worker

/-- The positions of the configured senders that run. -/
def active (ctx : TrayContext) : Finset Nat :=
  (Finset.range ctx.apps.length).filter fun i => ctx.appRunning i = true

theorem mem_active {i : Nat} : i ∈ active ctx ↔ ctx.appRunning i = true := by
  rw [active, Finset.mem_filter, Finset.mem_range, and_iff_right_iff_imp]
  intro hup
  obtain ⟨app, happ, -⟩ := (Option.any_eq_true _ _).1 hup
  exact (List.getElem?_eq_some_iff.1 happ).1

/-- Once everything is settled, the wanted positions are active. -/
theorem appRunning_of_settled (h : Restoring wanted ctx) (hsettled : Settled ctx) {i : Nat}
    (hi : i < ctx.apps.length) : ctx.appRunning i = true ↔ wanted i := by
  have hpending := h.switching.symm.trans hsettled.1
  have hlist : i ∉ ctx.restartAfterStop := by
    rw [(restartPending_eq_false.1 hpending).1]
    exact List.not_mem_nil
  have happ := List.getElem?_eq_getElem hi
  rw [← h.others i _ hlist happ, appRunning, happ, Option.any_some]
  exact ⟨fun hup => ⟨hup, hsettled.2 _ (List.getElem_mem hi) hup⟩, fun hup => hup.1⟩

/-! ### The ticks come to an end -/

/-- The worker has been asked to stop and still runs. -/
def leaving (app : SenderApp) : Bool := app.running && app.stopRequested

/-- Workers that were asked to stop can all leave. -/
theorem exists_quiet (h : Restoring wanted ctx) :
    ∃ events t, run step ctx events = some t ∧ Restoring wanted t ∧
      (∀ app ∈ t.apps, leaving app = false) ∧ ∀ app ∈ t.usbApp, leaving app = false := by
  induction hn : ctx.apps.countP leaving + (ctx.usbApp.toList).countP leaving using
    Nat.strongRecOn generalizing ctx with
  | ind n ih =>
    by_cases husb : ∃ app ∈ ctx.usbApp, leaving app = true
    · -- The worker of the cable sender leaves first.
      obtain ⟨app, happ, hleaving⟩ := husb
      have hstep : step ctx (.exit .usb) = some (ctx.updateSender SenderApp.finish .usb) := by
        rw [step, senderOf, Option.mem_def.1 happ]
        exact if_pos hleaving
      obtain ⟨events, t, hrun, ht⟩ := ih _ (by
        have hgone : leaving app.finish = false := rfl
        rw [← hn, updateSender, Option.mem_def.1 happ, Option.map_some, Option.toList_some,
          Option.toList_some, List.countP_singleton, List.countP_singleton, hgone, hleaving]
        exact Nat.lt_succ_self _) (restoring_exit h hstep) rfl
      exact ⟨.exit .usb :: events, t, run_cons_some.2 ⟨_, hstep, hrun⟩, ht⟩
    · by_cases hwifi : ∃ app ∈ ctx.apps, leaving app = true
      · obtain ⟨app, hmem, hleaving⟩ := hwifi
        obtain ⟨i, hi⟩ := List.mem_iff_getElem?.1 hmem
        have hstep : step ctx (.exit (.wifi i)) =
            some (ctx.updateSender SenderApp.finish (.wifi i)) := by
          rw [step, senderOf, hi]
          exact if_pos hleaving
        have hless : (ctx.apps.modify i SenderApp.finish).countP leaving <
            ctx.apps.countP leaving := by
          obtain ⟨hlt, hget⟩ := List.getElem?_eq_some_iff.1 hi
          have hpos : 0 < ctx.apps.countP leaving := List.countP_pos_iff.2 ⟨app, hmem, hleaving⟩
          have hgone : leaving app.finish = false := rfl
          have : Inhabited SenderApp := ⟨app⟩
          rw [List.modify_eq_set, hi, Option.getD_some, List.countP_set hlt, hget, hleaving, hgone]
          exact Nat.sub_lt hpos Nat.one_pos
        obtain ⟨events, t, hrun, ht⟩ := ih _ (by
          rw [← hn, updateSender]
          exact Nat.add_lt_add_right hless _) (restoring_exit h hstep) rfl
        exact ⟨.exit (.wifi i) :: events, t, run_cons_some.2 ⟨_, hstep, hrun⟩, ht⟩
      · push Not at husb hwifi
        exact ⟨[], ctx, rfl, h, fun app hmem => Bool.eq_false_iff.2 (hwifi app hmem),
          fun app hmem => Bool.eq_false_iff.2 (husb app hmem)⟩

/-- **The ticks come to an end.** -/
theorem exists_settled (h : Restoring wanted ctx) :
    ∃ events t, run step ctx events = some t ∧ Settled t := by
  obtain ⟨events, quiet, hrun, hquiet, happs, husb⟩ := exists_quiet h
  have hasked : ∀ app ∈ quiet.apps, app.running = true → app.stopRequested = false := by
    intro app hmem hup
    have hstays := happs app hmem
    rw [leaving, hup, Bool.true_and] at hstays
    exact hstays
  cases hs : quiet.switching with
  | false => exact ⟨events, quiet, hrun, hs, hasked⟩
  | true =>
    -- One more tick carries out the restart.
    refine ⟨events ++ [.tick], quiet.processDeviceCommands, ?_, ?_⟩
    · rw [run_append, hrun]
      rfl
    have hp := hquiet.switching.symm.trans hs
    have hdown : ∀ (i : Nat) (app : SenderApp), i ∈ quiet.restartAfterStop →
        quiet.apps[i]? = some app → app.running = false := by
      intro i app hmem happ
      rw [← Bool.not_eq_true]
      intro hup
      have hstop := (hquiet.listed i app hmem happ).2 hup
      rw [hasked app (List.mem_of_getElem? happ) hup] at hstop
      cases hstop
    have hwaits : quiet.waits = false := by
      rw [waits, if_pos hp, Bool.or_eq_false_iff, List.any_eq_false]
      refine ⟨fun i hmem hup => ?_, ?_⟩
      · obtain ⟨app, happ, hrunning⟩ := (Option.any_eq_true _ _).1 hup
        exact Bool.false_ne_true ((hdown i app hmem happ).symm.trans hrunning)
      · rw [← Bool.not_eq_true]
        intro hup
        obtain ⟨app, happ, hrunning⟩ := (Option.any_eq_true _ _).1 hup
        have hleaving := husb app happ
        rw [leaving, hrunning, hquiet.usb hs app happ hrunning] at hleaving
        cases hleaving
    rcases processDeviceCommands_cases quiet with ⟨-, ⟨-, hw⟩ | ⟨hclear, -⟩⟩ | ⟨heq, -⟩ |
      ⟨-, -, -, hnot⟩ | ⟨-, -, -, hclear, -⟩
    · rw [hwaits] at hw
      cases hw
    · rw [hs] at hclear
      cases hclear
    · rw [heq]
      refine ⟨rfl, fun app' hmem hup => ?_⟩
      obtain ⟨i, happ'⟩ := List.mem_iff_getElem?.1 hmem
      obtain ⟨app, happ, ⟨-, rfl⟩ | ⟨hlisted, hstarted⟩⟩ := getElem?_finishRestart happ'
      · exact hasked app' (List.mem_of_getElem? happ) hup
      · exact hstarted.fresh (hdown i app hlisted happ)
    · rw [hp] at hnot
      cases hnot
    · rw [hs] at hclear
      cases hclear

/-! ### The state right after the save -/

/-- The new device at position `i` is an entry of the old list at position `j`. -/
def Matches (ctx : TrayContext) (cfg : Config) (i j : Nat) : Prop :=
  ∃ device old, cfg.devices[i]? = some device ∧ ctx.cfg.devices[j]? = some old ∧
    fits device old = true

/-- The new device at position `i` keeps the sender at position `j`: it takes the sender, which
either goes on or starts again. -/
def Keeps (ctx : TrayContext) (cfg : Config) (restartActive : Bool) (i j : Nat) : Prop :=
  taken fits ctx.cfg.devices cfg.devices i = some j ∧
    ((ctx.apps[j]?).all (fun app => !app.stopRequested) = true ∨ restartActive = true ∨
      (cfg.devices[i]?).map splitDeviceAddress ≠ (ctx.cfg.devices[j]?).map splitDeviceAddress)

/-- The new device at position `i` takes no sender, and its position held an active address. -/
def Held (ctx : TrayContext) (cfg : Config) (i : Nat) : Prop :=
  taken fits ctx.cfg.devices cfg.devices i = none ∧
    (ctx.cfg.devices[i]?).any (fun old => ctx.runningAddresses.contains (splitDeviceAddress old)) =
      true

theorem held_iff {ctx : TrayContext} {cfg : Config} {i : Nat} :
    Held ctx cfg i ↔ taken fits ctx.cfg.devices cfg.devices i = none ∧
      (ctx.cfg.devices[i]?).any (fun old =>
        decide (splitDeviceAddress old ∈ ctx.runningAddresses)) = true := by
  simp only [Held, List.contains_eq_mem]

instance (ctx : TrayContext) (cfg : Config) (restartActive : Bool) (i j : Nat) :
    Decidable (Keeps ctx cfg restartActive i j) :=
  inferInstanceAs (Decidable (_ ∧ (_ ∨ _ ∨ _)))

instance (ctx : TrayContext) (cfg : Config) (i : Nat) : Decidable (Held ctx cfg i) :=
  inferInstanceAs (Decidable (_ ∧ _))

/-- The positions that are active once the save is settled. -/
def Wanted (ctx : TrayContext) (cfg : Config) (restartActive : Bool) (i : Nat) : Prop :=
  (∃ j ∈ active ctx, Keeps ctx cfg restartActive i j) ∨ Held ctx cfg i

/-- The tray after `ApplyAndRestart`. -/
def saved (ctx : TrayContext) (cfg : Config) (restartActive : Bool) : TrayContext :=
  { ctx with cfg := cfg }.applyAndRestart ctx.cfg.devices ctx.runningAddresses restartActive

/-- A sender object is at an active position when it runs. -/
theorem mem_active_of_app {j : Nat} {app : SenderApp} (happ : ctx.apps[j]? = some app) :
    j ∈ active ctx ↔ app.running = true := by
  rw [mem_active, appRunning, happ, Option.any_some]

/-- Two positions differ in address when the devices there do. -/
theorem address_ne_iff {devices devices' : List DeviceConfig} {i j : Nat}
    {device old : DeviceConfig} (hdevice : devices[i]? = some device)
    (hold : devices'[j]? = some old) :
    (devices[i]?).map splitDeviceAddress ≠ (devices'[j]?).map splitDeviceAddress ↔
      splitDeviceAddress device ≠ splitDeviceAddress old := by
  rw [hdevice, hold, Option.map_some, Option.map_some, Ne, Option.some.injEq]

/-- A sender that is dealt out is on its way to what its position shall be. -/
theorem wanted_of_dealt {cfg : Config} {restartActive : Bool} {i : Nat} {device : DeviceConfig}
    (hdevice : cfg.devices[i]? = some device) {d : SenderApp × Bool}
    (h : Dealt ctx.apps ctx.cfg.devices ctx.runningAddresses restartActive device i
      (taken fits ctx.cfg.devices cfg.devices i) d) :
    if d.2 then Wanted ctx cfg restartActive i ∧ (d.1.running = true → d.1.stopRequested = true)
    else (d.1.running = true ∧ d.1.stopRequested = false) ↔ Wanted ctx cfg restartActive i := by
  generalize htaken : taken fits ctx.cfg.devices cfg.devices i = position at h
  cases h with
  | @taken j app old happ hold =>
    have hactive := mem_active_of_app happ
    have hchanged := address_ne_iff hdevice hold
    cases hrestarts : restarts restartActive app device old with
    | true =>
      rw [restarts, decide_eq_true_eq] at hrestarts
      simp only [if_true]
      refine ⟨.inl ⟨j, hactive.2 hrestarts.1, htaken, .inr ?_⟩, fun _ => rfl⟩
      exact hrestarts.2.imp id hchanged.2
    | false =>
      rw [restarts, decide_eq_false_iff_not] at hrestarts
      simp only [Bool.false_eq_true, if_false]
      constructor
      · rintro ⟨hup, hstop⟩
        refine .inl ⟨j, hactive.2 hup, htaken, .inl ?_⟩
        rw [happ, Option.all_some, hstop]
        rfl
      · rintro (⟨k, hk, hkeeps⟩ | hheld)
        · obtain rfl : j = k := Option.some.inj (htaken.symm.trans hkeeps.1)
          have hup := hactive.1 hk
          refine ⟨hup, ?_⟩
          rcases hkeeps.2 with hstop | hactive' | haddress
          · rwa [happ, Option.all_some, Bool.not_eq_true'] at hstop
          · exact absurd ⟨hup, .inl hactive'⟩ hrestarts
          · exact absurd ⟨hup, .inr (hchanged.1 haddress)⟩ hrestarts
        · rw [Held, htaken] at hheld
          cases hheld.1
  | fresh object =>
    dsimp only
    split
    · rename_i hheld
      exact ⟨.inr (held_iff.2 ⟨htaken, hheld⟩), fun hup => (Bool.false_ne_true hup).elim⟩
    · rename_i hheld
      refine ⟨fun hup => (Bool.false_ne_true hup.1).elim, ?_⟩
      rintro (⟨j, -, hkeeps⟩ | hheld')
      · rw [Keeps, htaken] at hkeeps
        cases hkeeps.1
      · exact absurd (held_iff.1 hheld').2 hheld

/-- The senders and the restart list after `ApplyAndRestart`. -/
theorem saved_dealt (aligned : ctx.apps.length = ctx.cfg.devices.length)
    (hlist : ctx.restartAfterStop = []) (cfg : Config) (restartActive : Bool) :
    ∃ dealt : List (SenderApp × Bool), dealt.length = cfg.devices.length ∧
      (∀ i device d, cfg.devices[i]? = some device → dealt[i]? = some d →
        Dealt ctx.apps ctx.cfg.devices ctx.runningAddresses restartActive device i
          (taken fits ctx.cfg.devices cfg.devices i) d) ∧
      (saved ctx cfg restartActive).apps = dealt.map Prod.fst ∧
      ∀ x, x ∈ (saved ctx cfg restartActive).restartAfterStop ↔
        ∃ d, dealt[x]? = some d ∧ d.2 = true := by
  obtain ⟨dealt, hlength, hall, happs, hlisted⟩ := @takeover_dealt { ctx with cfg := cfg }
    ctx.cfg.devices aligned hlist ctx.runningAddresses restartActive
  refine ⟨dealt, hlength, hall, ?_⟩
  rw [saved, applyAndRestart]
  generalize ({ ctx with cfg := cfg }.takeover ctx.cfg.devices ctx.runningAddresses
    restartActive) = taken at happs hlisted ⊢
  obtain ⟨usbApp, restartUsbTarget, -, ⟨-, -, heq⟩ | ⟨-, heq⟩⟩ := scheduleRestart_cases
    { ctx with
      cfg := cfg
      apps := taken.apps
      retiredApps := ctx.retiredApps ++ (taken.oldApps.filterMap id).map SenderApp.requestStop
      restartAfterStop := taken.restartAfterStop
      nextObject := taken.nextObject } restartActive
  · rw [heq]
    exact ⟨happs, hlisted⟩
  · rw [heq]
    refine ⟨happs, fun x => ?_⟩
    rw [← hlisted]
    exact List.mem_dedup.trans List.mem_mergeSort

theorem restoring_saved (h : Rest ctx) (hqueue : ctx.commands = []) (cfg : Config)
    (restartActive : Bool) :
    Restoring (Wanted ctx cfg restartActive) (saved ctx cfg restartActive) := by
  obtain ⟨dealt, hlength, hall, happs, hlist⟩ :=
    saved_dealt h.aligned h.restartAfterStop cfg restartActive
  have hsaved : Saved ctx (saved ctx cfg restartActive) :=
    saved_applyAndRestart h.aligned cfg restartActive fun hp => by
      rw [restartPending_eq_false.2 ⟨h.restartAfterStop, h.restartUsbTarget⟩] at hp
      cases hp
  have hposition : ∀ (i : Nat) (app : SenderApp),
      (saved ctx cfg restartActive).apps[i]? = some app →
      ∃ d : SenderApp × Bool, dealt[i]? = some d ∧
        if d.2 then
          Wanted ctx cfg restartActive i ∧ (app.running = true → app.stopRequested = true)
        else (app.running = true ∧ app.stopRequested = false) ↔ Wanted ctx cfg restartActive i := by
    intro i app happ
    rw [happs, List.getElem?_map] at happ
    obtain ⟨d, hd, rfl⟩ := Option.map_eq_some_iff.1 happ
    have hdevice := List.getElem?_eq_getElem (hlength ▸ (List.getElem?_eq_some_iff.1 hd).1)
    exact ⟨d, hd, wanted_of_dealt hdevice (hall i _ d hdevice hd)⟩
  refine ⟨hsaved.commands.trans hqueue, ?_, ?_, ?_, ?_⟩
  · rcases hsaved.switching with ⟨hp, hs⟩ | ⟨hp, hs⟩
    · rw [hp, hs, h.switching]
    · rw [hp, hs]
  · intro hs app husb hup
    rcases hsaved.usb with ⟨-, heq, -⟩ | ⟨heq, htarget⟩
    · obtain ⟨old, -, rfl⟩ := Option.map_eq_some_iff.1 (heq ▸ husb)
      rfl
    · -- The restart is one of Wi-Fi senders, so no cable session runs.
      have hwifi : ctx.wifiRunning = true := by
        rcases hsaved.switching with ⟨-, hsame⟩ | ⟨hp, -⟩
        · rw [hsame, h.switching] at hs
          cases hs
        · rcases restartPending_eq_true.1 hp with hne | hne
          · exact (hsaved.grown hne).resolve_left (absurd h.restartAfterStop)
          · exact absurd (htarget.trans h.restartUsbTarget) hne
      have hdown : ctx.usbRunning = true := by
        rw [usbRunning, ← heq, husb]
        exact hup
      rw [h.exclusive hdown] at hwifi
      cases hwifi
  · intro i app hmem happ
    obtain ⟨d, hd, hwanted⟩ := hposition i app happ
    obtain ⟨d', hd', hlisted⟩ := (hlist i).1 hmem
    rw [hd, Option.some.injEq] at hd'
    rwa [hd', if_pos hlisted] at hwanted
  · intro i app hmem happ
    obtain ⟨d, hd, hwanted⟩ := hposition i app happ
    rwa [if_neg fun hlisted => hmem ((hlist i).2 ⟨d, hd, hlisted⟩)] at hwanted

/-! ### Exactly when the active devices stay active -/

instance (ctx : TrayContext) (cfg : Config) (restartActive : Bool) (i : Nat) :
    Decidable (Wanted ctx cfg restartActive i) :=
  inferInstanceAs (Decidable (_ ∨ _))

/-- Every new entry that matches an active device is active, and no more senders are active than
before. -/
def Preserves (ctx : TrayContext) (cfg : Config) (t : TrayContext) : Prop :=
  (∀ i < cfg.devices.length, (∃ j ∈ active ctx, Matches ctx cfg i j) → i ∈ active t) ∧
    (active t).card ≤ (active ctx).card

/-- At most as many positions are brought back as active senders are dropped, and an entry that
matches an active device keeps an active sender or is brought back. -/
def Balanced (ctx : TrayContext) (cfg : Config) (restartActive : Bool) : Prop :=
  ((Finset.range cfg.devices.length).filter (Held ctx cfg)).card ≤
      ((active ctx).filter fun j =>
        ¬∃ i < cfg.devices.length, Keeps ctx cfg restartActive i j).card ∧
    ∀ i < cfg.devices.length, (∃ j ∈ active ctx, Matches ctx cfg i j) →
      Wanted ctx cfg restartActive i

/-- How many positions are wanted. -/
theorem card_wanted (ctx : TrayContext) (cfg : Config) (restartActive : Bool) :
    ((Finset.range cfg.devices.length).filter (Wanted ctx cfg restartActive)).card +
        ((active ctx).filter fun j =>
          ¬∃ i < cfg.devices.length, Keeps ctx cfg restartActive i j).card =
      (active ctx).card + ((Finset.range cfg.devices.length).filter (Held ctx cfg)).card := by
  have hsplit : (Finset.range cfg.devices.length).filter (Wanted ctx cfg restartActive) =
      ((Finset.range cfg.devices.length).filter fun i =>
        ∃ j ∈ active ctx, Keeps ctx cfg restartActive i j) ∪
      (Finset.range cfg.devices.length).filter (Held ctx cfg) := Finset.filter_or _ _ _
  have hdisjoint : Disjoint ((Finset.range cfg.devices.length).filter fun i =>
        ∃ j ∈ active ctx, Keeps ctx cfg restartActive i j)
      ((Finset.range cfg.devices.length).filter (Held ctx cfg)) := by
    rw [Finset.disjoint_filter]
    rintro i - ⟨j, -, hkeeps⟩ hheld
    rw [Held, hkeeps.1] at hheld
    cases hheld.1
  have hkept := @card_taken _ _ fits ctx.cfg.devices cfg.devices (active ctx)
    (Keeps ctx cfg restartActive) _ fun _ _ hkeeps => hkeeps.1
  have hactive := Finset.card_filter_add_card_filter_not (s := active ctx)
    fun j => ∃ i < cfg.devices.length, Keeps ctx cfg restartActive i j
  rw [hsplit, Finset.card_union_of_disjoint hdisjoint, hkept]
  omega

/-- **Exactly when a save preserves what is active.**  From any tray at rest, whatever list and
settings are saved, the ticks after the save come to an end, and where they do the active devices
are preserved if and only if the save is balanced. -/
theorem preserves_iff {ctx : TrayContext} (h : Rest ctx) (hqueue : ctx.commands = [])
    (cfg : Config) (restartActive : Bool) :
    (∃ events t, run step (saved ctx cfg restartActive) events = some t ∧ Settled t) ∧
    ∀ events t, run step (saved ctx cfg restartActive) events = some t → Settled t →
      (Preserves ctx cfg t ↔ Balanced ctx cfg restartActive) := by
  have hrestoring := restoring_saved h hqueue cfg restartActive
  refine ⟨exists_settled hrestoring, fun events t hrun hsettled => ?_⟩
  have hend : Restoring (Wanted ctx cfg restartActive) t :=
    run_invariant (fun _ _ _ hs hstep => restoring_step hs hstep) hrestoring hrun
  have hlength : t.apps.length = cfg.devices.length := by
    rw [run_constant (P := fun _ => True) (f := fun ctx : TrayContext => ctx.apps.length)
      (fun _ _ _ _ hstep => ⟨trivial, apps_length_step hstep⟩) trivial hrun]
    obtain ⟨dealt, hdealt, -, happs, -⟩ :=
      saved_dealt h.aligned h.restartAfterStop cfg restartActive
    rw [happs, List.length_map, hdealt]
  have hactive : active t =
      (Finset.range cfg.devices.length).filter (Wanted ctx cfg restartActive) := by
    ext i
    rw [active, Finset.mem_filter, Finset.mem_filter, hlength, Finset.mem_range]
    exact and_congr_right fun hi => appRunning_of_settled hend hsettled (hlength ▸ hi)
  have hcard := card_wanted ctx cfg restartActive
  rw [Preserves, Balanced, hactive, and_comm]
  refine and_congr (by omega) (forall_congr' fun i => forall_congr' fun hi => ?_)
  rw [Finset.mem_filter, Finset.mem_range, and_iff_right hi]

/-- What `ParseDeviceEntriesText` makes of a line that holds an address. -/
def entry (address : String) (priority : UInt32) : DeviceConfig :=
  { name := ascii address, lastIpv4 := ascii address, priority := priority }

/-- One device, which is active. -/
def oneActive : TrayContext :=
  (fresh { devices := [entry "10.0.0.1" 0] }).startApp 0 (ascii "10.0.0.1")

/-- What the panel holds when the user has changed nothing but the list. -/
def listForm (devices : List DeviceConfig) : PanelForm where
  port := some 9000
  fps := some 60
  bitrateMbps := some 30
  devices := devices
  autoReconnect := true
  requirePrivateNetwork := true

theorem oneActive_rest : Rest oneActive where
  aligned := rfl
  pending := rfl
  exclusive := nofun
  usbTarget := nofun

/-- The active address is edited in place: its position is brought back. -/
theorem preserves_iff_edited :
    ∃ t, run step (saved oneActive { devices := [entry "10.0.0.2" 0] } false) [.tick] = some t ∧
      Preserves oneActive { devices := [entry "10.0.0.2" 0] } t :=
  ⟨_, rfl, ((preserves_iff oneActive_rest rfl { devices := [entry "10.0.0.2" 0] } false).2
    [.tick] _ rfl ⟨by decide +kernel, by decide +kernel⟩).2
      ⟨by decide +kernel, fun i hi _ => .inr (by
        obtain rfl : i = 0 := Nat.lt_one_iff.1 hi
        decide +kernel)⟩⟩

/-- A device is inserted in front of the active one, in the panel.  The new entry takes no
sender, and its position held the active address: both devices are active afterwards. -/
theorem preserves_fails_inserted :
    let devices := [entry "10.0.0.2" 0, entry "10.0.0.1" 1]
    (oneActive.savePanelSettings (listForm devices) true).1 =
        saved oneActive { devices := devices } false ∧
      ∃ t, run step (saved oneActive { devices := devices } false) [.tick] = some t ∧
        Settled t ∧ ¬Preserves oneActive { devices := devices } t := by
  refine ⟨by decide +kernel, _, rfl, ⟨by decide +kernel, by decide +kernel⟩,
    fun hpreserves => ?_⟩
  exact absurd hpreserves.2 (by decide +kernel)

end SecondDisplay.SavedTargets
