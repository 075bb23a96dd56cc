import SecondDisplay.App.CalmSteps

/-!
# Saving the settings (`ApplyAndRestart`)

A save deals the old senders out to the new devices.  Whatever the new list looks like, no
sender runs afterwards that did not run before, and every sender that the save puts on the
restart list has been asked to stop.  If the list of devices stays the same, every sender keeps
its position.
-/

namespace SecondDisplay.TrayContext

namespace Takeover

/-! ### One round -/

/-- An old sender goes to the new device, asked to stop if it is to be restarted; or the device
gets a new sender. -/
theorem step_cases (oldDevices : List DeviceConfig) (reconnect : List Bytes)
    (restartActive : Bool) (state : Takeover) (device : DeviceConfig) (next : Nat) :
    (∃ app found restart, state.oldApps[found]? = some (some app) ∧
      (restart = true → app.running = true) ∧
      step oldDevices reconnect restartActive state (device, next) =
        { state with
          oldApps := state.oldApps.set found none
          apps := state.apps ++ [if restart then app.requestStop else app]
          restartAfterStop :=
            if restart then state.restartAfterStop ++ [next] else state.restartAfterStop }) ∨
    ∃ wasRunning, (wasRunning = true → reconnect ≠ []) ∧
      step oldDevices reconnect restartActive state (device, next) =
        { state with
          apps := state.apps ++ [{ object := state.nextObject }]
          restartAfterStop :=
            if wasRunning then state.restartAfterStop ++ [next] else state.restartAfterStop
          nextObject := state.nextObject + 1 } := by
  simp only [step]
  split
  · rename_i app old found hfound
    have hmem := List.mem_of_find?_eq_some hfound
    rw [List.mk_mem_zipIdx_iff_getElem?, List.getElem?_zip_eq_some] at hmem
    refine .inl ⟨app, found, decide (app.running = true ∧ (restartActive = true ∨
      splitDeviceAddress device ≠ splitDeviceAddress old)), hmem.1, fun h => ?_, ?_⟩
    · exact (of_decide_eq_true h).1
    · simp only [decide_eq_true_eq]
  · refine .inr ⟨_, fun h => ?_, rfl⟩
    obtain ⟨old, -, hold⟩ := (Option.any_eq_true _ _).1 h
    exact List.ne_nil_of_mem (of_decide_eq_true hold)

/-! ### The loop -/

/-- The senders dealt out so far. -/
structure Sound (ctx : TrayContext) (reconnect : List Bytes) (state : Takeover) : Prop where
  oldApps : ∀ app : SenderApp, some app ∈ state.oldApps → app ∈ ctx.apps
  apps : ∀ app' ∈ state.apps, app'.running = true → ∃ app ∈ ctx.apps, app.Continues app'
  asked : ∀ i ∈ state.restartAfterStop, i ∈ ctx.restartAfterStop ∨
    (i < state.apps.length ∧ ∀ app' : SenderApp, state.apps[i]? = some app' →
      app'.running = true → app'.stopRequested = true)
  kept : ∀ i ∈ ctx.restartAfterStop, i ∈ state.restartAfterStop
  grown : state.restartAfterStop ≠ ctx.restartAfterStop →
    ctx.wifiRunning = true ∨ reconnect ≠ []

/-- One round keeps what is known about the senders, with one more sender dealt out. -/
theorem sound_add {ctx : TrayContext} {reconnect : List Bytes} {state state' : Takeover}
    {app' : SenderApp} {restart : Bool} (h : Sound ctx reconnect state)
    (hpool : ∀ app : SenderApp, some app ∈ state'.oldApps → some app ∈ state.oldApps)
    (happ : app'.running = true → ∃ app ∈ ctx.apps, app.Continues app')
    (hasked : restart = true → app'.running = true → app'.stopRequested = true)
    (hgrown : restart = true → ctx.wifiRunning = true ∨ reconnect ≠ [])
    (happs : state'.apps = state.apps ++ [app'])
    (hlist : state'.restartAfterStop = if restart then
      state.restartAfterStop ++ [state.apps.length] else state.restartAfterStop) :
    Sound ctx reconnect state' where
  oldApps app hmem := h.oldApps app (hpool app hmem)
  apps other hmem hrunning := by
    rw [happs, List.mem_append, List.mem_singleton] at hmem
    rcases hmem with hmem | rfl
    · exact h.apps other hmem hrunning
    · exact happ hrunning
  asked i hi := by
    have hold : i ∈ state.restartAfterStop → i ∈ ctx.restartAfterStop ∨
        (i < state'.apps.length ∧ ∀ app' : SenderApp, state'.apps[i]? = some app' →
          app'.running = true → app'.stopRequested = true) := fun hi => by
      refine (h.asked i hi).imp id fun ⟨hlt, hstop⟩ => ⟨?_, fun other hother => ?_⟩
      · rw [happs, List.length_append]
        omega
      · rw [happs, List.getElem?_append_left hlt] at hother
        exact hstop other hother
    rw [hlist] at hi
    cases restart with
    | false => exact hold hi
    | true =>
      rcases List.mem_append.1 hi with hi | hi
      · exact hold hi
      · -- The sender dealt out in this round.
        rw [List.mem_singleton.1 hi, happs]
        refine .inr ⟨by simp, fun other hother => ?_⟩
        rw [List.getElem?_concat_length, Option.some.injEq] at hother
        rw [← hother]
        exact hasked rfl
  kept i hi := by
    rw [hlist]
    split
    · exact List.mem_append_left _ (h.kept i hi)
    · exact h.kept i hi
  grown hne := by
    cases restart with
    | true => exact hgrown rfl
    | false => exact h.grown fun heq => hne (hlist.trans heq)

theorem sound_step {ctx : TrayContext} (oldDevices : List DeviceConfig) {reconnect : List Bytes}
    (restartActive : Bool) {state : Takeover} (h : Sound ctx reconnect state)
    (device : DeviceConfig) :
    Sound ctx reconnect
        (step oldDevices reconnect restartActive state (device, state.apps.length)) ∧
      (step oldDevices reconnect restartActive state (device, state.apps.length)).apps.length =
        state.apps.length + 1 := by
  rcases step_cases oldDevices reconnect restartActive state device state.apps.length with
    ⟨app, found, restart, hfound, hrunning, heq⟩ | ⟨wasRunning, hwas, heq⟩
  · have hmem : app ∈ ctx.apps := h.oldApps app (List.mem_of_getElem? hfound)
    rw [heq]
    refine ⟨sound_add h (fun other hother => ?_) (fun hup => ⟨app, hmem, ?_⟩)
      (fun hrestart _ => ?_) (fun hrestart => .inl ?_) rfl rfl, by simp⟩
    · rcases List.mem_or_eq_of_mem_set hother with hother | hother
      · exact hother
      · cases hother
    · cases restart with
      | true => exact SenderApp.tame_requestStop app hup
      | false => exact .refl hup
    · rw [if_pos hrestart]
      rfl
    · exact List.any_eq_true.2 ⟨app, hmem, hrunning hrestart⟩
  · rw [heq]
    exact ⟨sound_add h (fun _ => id) (fun hup => by cases hup) (fun _ hup => by cases hup)
      (fun hw => .inr (hwas hw)) rfl rfl, by simp⟩

theorem sound_foldl {ctx : TrayContext} (oldDevices : List DeviceConfig) {reconnect : List Bytes}
    (restartActive : Bool) (devices : List DeviceConfig) {state : Takeover}
    (h : Sound ctx reconnect state) :
    Sound ctx reconnect ((devices.zipIdx state.apps.length).foldl
        (step oldDevices reconnect restartActive) state) ∧
      ((devices.zipIdx state.apps.length).foldl
        (step oldDevices reconnect restartActive) state).apps.length =
          state.apps.length + devices.length := by
  induction devices generalizing state with
  | nil => exact ⟨h, rfl⟩
  | cons device devices ih =>
    obtain ⟨hstep, hlength⟩ := sound_step oldDevices restartActive h device
    have hrest := ih hstep
    rw [hlength] at hrest
    rw [List.zipIdx_cons, List.foldl_cons, List.length_cons]
    refine ⟨hrest.1, hrest.2.trans ?_⟩
    omega

/-! ### The same list -/

/-- A sender that keeps its position, asked to stop or as it was. -/
def Kept (app' app : SenderApp) : Prop := app' = app ∨ app' = app.requestStop

theorem Kept.continues {app' app : SenderApp} (h : Kept app' app) (hup : app'.running = true) :
    app.Continues app' := by
  rcases h with rfl | rfl
  · exact .refl hup
  · exact SenderApp.tame_requestStop app hup

/-- The senders before a device are taken, so the device finds its own. -/
theorem find_own (device : DeviceConfig) (app : SenderApp) (apps : List SenderApp)
    (done devices : List DeviceConfig) :
    (((List.replicate done.length none ++ (app :: apps).map some).zip
        (done ++ device :: devices)).zipIdx.find? fun (p, _) => takesOver device p) =
      some ((some app, device), done.length) := by
  rw [List.zip_append (by simp), List.zipIdx_append, List.find?_append,
    List.find?_eq_none.2 ?_, Option.none_or]
  · have hown : takesOver device (some app, device) = true := by simp [takesOver]
    simp [hown]
  · rintro ⟨⟨taken, old⟩, i⟩ hmem
    have hzip := (List.mem_zipIdx hmem).2.2
    have htaken : taken = none := by
      have := (List.of_mem_zip (hzip ▸ List.getElem_mem _)).1
      exact List.eq_of_mem_replicate this
    simp [htaken, takesOver]

/-- **The same list.**  When no device has changed, every sender keeps its position. -/
theorem foldl_same (reconnect : List Bytes) (restartActive : Bool)
    (devices done : List DeviceConfig) (apps : List SenderApp) (state : Takeover)
    (hlength : apps.length = devices.length)
    (hpool : state.oldApps = List.replicate done.length none ++ apps.map some) :
    ∃ dealt, ((devices.zipIdx done.length).foldl
        (step (done ++ devices) reconnect restartActive) state).apps = state.apps ++ dealt ∧
      ∀ (i : Nat) (app' : SenderApp), dealt[i]? = some app' →
        ∃ app, apps[i]? = some app ∧ Kept app' app := by
  induction devices generalizing done apps state with
  | nil =>
    obtain rfl := List.length_eq_zero_iff.1 hlength
    exact ⟨[], by simp, by simp⟩
  | cons device devices ih =>
    cases apps with
    | nil => cases hlength
    | cons app apps =>
      have hfind := find_own device app apps done devices
      rw [List.zipIdx_cons, List.foldl_cons]
      have hstep : ∃ app' list, Kept app' app ∧
          step (done ++ device :: devices) reconnect restartActive state
            (device, done.length) =
          { state with
            oldApps := state.oldApps.set done.length none
            apps := state.apps ++ [app']
            restartAfterStop := list } := by
        simp only [step, hpool, hfind]
        refine ⟨_, _, ?_, rfl⟩
        split
        · exact .inr rfl
        · exact .inl rfl
      obtain ⟨app', list, hkept, hstep⟩ := hstep
      have hpool' : state.oldApps.set done.length none =
          List.replicate (done ++ [device]).length none ++ apps.map some := by
        rw [hpool, List.map_cons, List.set_append_right _ _ (by simp)]
        simp [List.replicate_succ']
      obtain ⟨dealt, hdealt, hall⟩ := ih (done ++ [device]) apps
        { state with
          oldApps := state.oldApps.set done.length none
          apps := state.apps ++ [app']
          restartAfterStop := list } (Nat.succ.inj hlength) hpool'
      rw [List.append_assoc, List.length_append] at hdealt
      refine ⟨app' :: dealt, ?_, fun i other hother => ?_⟩
      · rw [hstep]
        refine hdealt.trans ?_
        rw [List.append_assoc]
        rfl
      · cases i with
        | zero => exact ⟨app, rfl, Option.some.inj hother ▸ hkept⟩
        | succ i => exact hall i other hother

end Takeover

/-! ### The whole function -/

/-- What the loop leaves behind. -/
theorem takeover_sound (ctx : TrayContext) (oldDevices : List DeviceConfig)
    (reconnect : List Bytes) (restartActive : Bool) :
    Takeover.Sound ctx reconnect (ctx.takeover oldDevices reconnect restartActive) ∧
      (ctx.takeover oldDevices reconnect restartActive).apps.length =
        ctx.cfg.devices.length := by
  have hstart : Takeover.Sound ctx reconnect
      { oldApps := ctx.apps.map some
        restartAfterStop := ctx.restartAfterStop
        nextObject := ctx.nextObject } := by
    refine ⟨fun app hmem => ?_, fun _ hmem => ?_, fun i hi => .inl hi, fun _ => id,
      fun hne => absurd rfl hne⟩
    · obtain ⟨other, hother, heq⟩ := List.mem_map.1 hmem
      exact Option.some.inj heq ▸ hother
    · cases hmem
  have hloop := Takeover.sound_foldl oldDevices restartActive ctx.cfg.devices hstart
  refine ⟨hloop.1, hloop.2.trans ?_⟩
  simp

/-- With the same devices every sender keeps its position. -/
theorem takeover_same {ctx : TrayContext} (aligned : ctx.apps.length = ctx.cfg.devices.length)
    (reconnect : List Bytes) (restartActive : Bool) (i : Nat) (app' : SenderApp)
    (h : (ctx.takeover ctx.cfg.devices reconnect restartActive).apps[i]? = some app')
    (hup : app'.running = true) :
    ∃ app : SenderApp, ctx.apps[i]? = some app ∧ app.Continues app' := by
  obtain ⟨dealt, hdealt, hall⟩ := Takeover.foldl_same reconnect restartActive ctx.cfg.devices []
    ctx.apps
    { oldApps := ctx.apps.map some
      restartAfterStop := ctx.restartAfterStop
      nextObject := ctx.nextObject } aligned rfl
  have happs : (ctx.takeover ctx.cfg.devices reconnect restartActive).apps = dealt := hdealt
  obtain ⟨app, happ, hkept⟩ := hall i app' (happs ▸ h)
  exact ⟨app, happ, hkept.continues hup⟩

end SecondDisplay.TrayContext
