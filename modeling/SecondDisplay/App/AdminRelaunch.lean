import SecondDisplay.App.TraySteps
import SecondDisplay.Display.ResolutionHelper

/-!
# Restarting as an administrator (`IDM_RUNASADMIN` in `app/TrayApp.cpp` and `main.cpp`)

The tray stops its senders and starts the program again behind a prompt, with the addresses of the
senders that ran on the command line.  If the prompt is accepted, the second process starts them
from there; if not, the first one does.  Either way one tray is left, and in it exactly the senders
run whose device is configured with one of these addresses (`relaunch_resumes`).
-/

namespace SecondDisplay.AdminRelaunch

open TrayContext
open ResolutionSlots (isBlank splitArguments splitArguments_word splitArguments_blank
  splitArguments_eq)

/-! ### The program's arguments -/

/-- What `main` does. -/
inductive Mode where
  | registerResolution | removeDisplay | browseMdns | cleanupMonitors | listDisplays | listUsb
  | captureExisting
  | resume (addresses : List Bytes)
  | previewUi
  | headless (ip : Bytes)
  | tray
  deriving DecidableEq

/-- The branch that `main` takes. -/
def modeOf (argv : List Bytes) : Mode :=
  match argv.drop 1 with
  | [] => .tray
  | command :: rest =>
    if command = ascii "--register-resolution" then .registerResolution
    else if command = ascii "--remove-display" then .removeDisplay
    else if command = ascii "--browse-mdns" then .browseMdns
    else if command = ascii "--cleanup-monitors" then .cleanupMonitors
    else if command = ascii "--list-displays" then .listDisplays
    else if command = ascii "--list-usb" then .listUsb
    else if command = ascii "--capture-existing" then .captureExisting
    else if command = ascii "--resume" then .resume rest
    else if command = ascii "--preview-ui" then .previewUi
    else .headless command

/-- The tray of a process, if it has one. -/
def trayOf (mode : Mode) (cfg : Config) (outside : Outside) : Option TrayContext :=
  match mode with
  | .resume addresses => some (runTray cfg (some addresses) outside)
  | .previewUi => some (runTray cfg (some []) outside)
  | .tray => some (runTray cfg none outside)
  | _ => none

/-! ### The menu entry -/

/-- A `std::set` of some addresses, in its order. -/
def addressSet (addresses : List Bytes) : List Bytes :=
  addresses.dedup.mergeSort fun a b => !decide (b < a)

/-- `resumeParameters`. -/
def resumeParameters (addresses : List Bytes) : Bytes :=
  ascii "--resume" ++ addresses.flatMap fun address => 0x20 :: address

/-- What the entry meets: whether the path of the program fits its buffer, and whether the prompt
is accepted. -/
structure Prompt where
  pathFits : Bool
  accepted : Bool

/-- `IDM_RUNASADMIN`: the tray afterwards, unless it closes, and the command line of the second
process, if there is one. -/
def runAsAdmin (ctx : TrayContext) (prompt : Prompt) : Option TrayContext × Option Bytes :=
  let resumeOnFailure := addressSet ctx.runningAddresses
  let ctx := ctx.stopUsbSession.stopConfiguredSenders
  if prompt.pathFits = false then (some (ctx.startAddresses resumeOnFailure), none)
  else if prompt.accepted then (none, some (resumeParameters resumeOnFailure))
  else if resumeOnFailure ≠ [] then (some (ctx.startAddresses resumeOnFailure), none)
  else (some ctx, none)

/-- The trays that are there afterwards: that of the first process, and that of the second one,
which loads its configuration. -/
def traysAfter (ctx : TrayContext) (prompt : Prompt) (exe : Bytes) (cfg : Config)
    (outside : Outside) : List TrayContext :=
  let after := runAsAdmin ctx prompt
  after.1.toList ++ (after.2.bind fun line =>
    trayOf (modeOf (exe :: splitArguments line)) cfg outside).toList

/-! ### The command line -/

/-- A byte of an argument that needs no quotes and is the same in every code page. -/
def isArgumentByte (b : UInt8) : Bool := 0x21 ≤ b && b ≤ 0x7E && b != 0x22 && b != 0x5C

/-- An argument that stands for itself on a command line. -/
def PlainArgument (argument : Bytes) : Prop :=
  argument ≠ [] ∧ ∀ b ∈ argument, isArgumentByte b = true

theorem not_isBlank_of_isArgumentByte : ∀ b, isArgumentByte b = true → isBlank b = false := by
  decide +kernel

theorem splitArguments_nil : splitArguments [] = [] := by
  rw [splitArguments_eq]
  rfl

/-- Arguments with a blank in front of each. -/
theorem splitArguments_flatMap {arguments : List Bytes}
    (h : ∀ argument ∈ arguments, PlainArgument argument) :
    splitArguments (arguments.flatMap fun argument => 0x20 :: argument) = arguments := by
  induction arguments with
  | nil => exact splitArguments_nil
  | cons argument rest ih =>
    obtain ⟨hne, hbytes⟩ := h argument List.mem_cons_self
    have hrest := ih fun other hmem => h other (List.mem_cons_of_mem argument hmem)
    have hword : ∀ b ∈ argument, isBlank b = false :=
      fun b hb => not_isBlank_of_isArgumentByte b (hbytes b hb)
    have hnext : ∀ b ∈ (rest.flatMap fun argument => 0x20 :: argument).head?,
        isBlank b = true := by
      cases rest with
      | nil => intro b hb; cases hb
      | cons other more => intro b hb; cases hb; rfl
    rw [List.flatMap_cons, List.cons_append, splitArguments_blank,
      splitArguments_word hne hword hnext, hrest]

/-- **The second process gets the addresses.** -/
theorem modeOf_resume (exe : Bytes) {addresses : List Bytes}
    (h : ∀ address ∈ addresses, PlainArgument address) :
    modeOf (exe :: splitArguments (resumeParameters addresses)) = .resume addresses := by
  have hnext : ∀ b ∈ (addresses.flatMap fun address => 0x20 :: address).head?,
      isBlank b = true := by
    cases addresses with
    | nil => intro b hb; cases hb
    | cons other more => intro b hb; cases hb; rfl
  have hline : splitArguments (resumeParameters addresses) = ascii "--resume" :: addresses := by
    rw [resumeParameters, splitArguments_word (by decide) (by decide +kernel) hnext,
      splitArguments_flatMap h]
  rw [hline]
  rfl

/-! ### Starting by address -/

theorem mem_addressSet {address : Bytes} {addresses : List Bytes} :
    address ∈ addressSet addresses ↔ address ∈ addresses := by
  rw [addressSet, List.mem_mergeSort, List.mem_dedup]

/-- A sender after a loop of starts in which every position has one target at most. -/
theorem startEach_target {ctx : TrayContext} {targets : List (Nat × Bytes)} {i : Nat}
    {app' : SenderApp} (honly : ∀ a b, (i, a) ∈ targets → (i, b) ∈ targets → a = b)
    (h : (ctx.startEach targets).apps[i]? = some app') :
    ∃ app, ctx.apps[i]? = some app ∧
      (((∀ a, (i, a) ∉ targets) ∧ app' = app) ∨
        ∃ a, (i, a) ∈ targets ∧ app' = app.start a (ctx.devicePort i)
          (makeStreamSettings ctx.cfg false) (ctx.deviceId i)) := by
  induction targets generalizing ctx with
  | nil => exact ⟨app', h, .inl ⟨fun a => List.not_mem_nil, rfl⟩⟩
  | cons p targets ih =>
    obtain ⟨position, target⟩ := p
    have hrest : ∀ a b, (i, a) ∈ targets → (i, b) ∈ targets → a = b :=
      fun a b ha hb => honly a b (List.mem_cons_of_mem _ ha) (List.mem_cons_of_mem _ hb)
    obtain ⟨next, hnext, hcases⟩ := @ih (ctx.startApp position target) hrest h
    rw [startApp, List.getElem?_modify] at hnext
    obtain ⟨app, happ, hstart⟩ := Option.map_eq_some_iff.1 hnext
    refine ⟨app, happ, ?_⟩
    by_cases hi : position = i
    · subst hi
      rw [if_pos rfl] at hstart
      subst hstart
      refine .inr ⟨target, List.mem_cons_self, ?_⟩
      obtain ⟨-, rfl⟩ | ⟨a, -, rfl⟩ := hcases
      · rfl
      · exact if_pos (SenderApp.start_running ..)
    · rw [if_neg hi] at hstart
      subst hstart
      obtain ⟨hnone, rfl⟩ | ⟨a, ha, rfl⟩ := hcases
      · refine .inl ⟨fun a hmem => ?_, rfl⟩
        obtain hhead | hmem := List.mem_cons.1 hmem
        · exact hi (Prod.mk.inj hhead).1.symm
        · exact hnone a hmem
      · exact .inr ⟨a, List.mem_cons_of_mem _ ha, rfl⟩

/-- A sender that has been resumed if its device has one of some addresses. -/
structure Resumed (addresses : List Bytes) (device : DeviceConfig) (app : SenderApp) : Prop where
  running : app.running = true ↔ splitDeviceAddress device ∈ addresses
  target : app.running = true → app.ip = splitDeviceAddress device ∧
    app.expectedDeviceId = device.id ∧ app.stopRequested = false

/-- What `StartAddresses` starts at the position of a device. -/
theorem mem_addressed {devices : List DeviceConfig} {i : Nat} {device : DeviceConfig}
    (hdevice : devices[i]? = some device) (addresses : List Bytes) (a : Bytes) :
    (i, a) ∈ ((devices.map splitDeviceAddress).zipIdx.filterMap
      fun p => if p.1 ∈ addresses then some (p.2, p.1) else none) ↔
      a = splitDeviceAddress device ∧ a ∈ addresses := by
  rw [List.mem_filterMap]
  constructor
  · intro h
    obtain ⟨⟨address, index⟩, hzip, hsome⟩ := h
    rw [List.mem_zipIdx_iff_getElem?] at hzip
    dsimp only at hzip hsome
    split at hsome
    · rename_i hin
      cases hsome
      rw [List.getElem?_map, hdevice, Option.map_some, Option.some.injEq] at hzip
      exact ⟨hzip.symm, hin⟩
    · cases hsome
  · intro h
    obtain ⟨rfl, hin⟩ := h
    refine ⟨(splitDeviceAddress device, i), ?_, if_pos hin⟩
    rw [List.mem_zipIdx_iff_getElem?, List.getElem?_map, hdevice]
    rfl

/-- **Starting by address,** where no sender runs. -/
theorem resumed_startAddresses {ctx : TrayContext} (hidle : ∀ app ∈ ctx.apps, app.running = false)
    {addresses : List Bytes} {i : Nat} {device : DeviceConfig} {app' : SenderApp}
    (hdevice : ctx.cfg.devices[i]? = some device)
    (happ : (ctx.startAddresses addresses).apps[i]? = some app') :
    Resumed addresses device app' := by
  have hmem := mem_addressed hdevice addresses
  have honly : ∀ a b, (i, a) ∈ _ → (i, b) ∈ _ → a = b :=
    fun a b ha hb => ((hmem a).1 ha).1.trans ((hmem b).1 hb).1.symm
  obtain ⟨app, hold, hcases⟩ := startEach_target honly happ
  have hstopped := hidle app (List.mem_of_getElem? hold)
  obtain ⟨hnone, rfl⟩ | ⟨a, ha, rfl⟩ := hcases
  · refine ⟨⟨fun hrunning => ?_, fun hin => ?_⟩, fun hrunning => ?_⟩
    · rw [hstopped] at hrunning
      cases hrunning
    · exact absurd ((hmem _).2 ⟨rfl, hin⟩) (hnone _)
    · rw [hstopped] at hrunning
      cases hrunning
  · obtain ⟨rfl, hin⟩ := (hmem a).1 ha
    refine ⟨⟨fun _ => hin, fun _ => SenderApp.start_running ..⟩, fun _ => ?_⟩
    have hid : ctx.deviceId i = device.id := by
      rw [deviceId, hdevice]
      rfl
    rw [SenderApp.start, if_neg (by rw [hstopped]; decide), hid]
    exact ⟨rfl, rfl, rfl⟩

/-! ### Afterwards -/

theorem mem_runningAddresses {ctx : TrayContext} {address : Bytes} :
    address ∈ ctx.runningAddresses ↔ ∃ (i : Nat) (app : SenderApp) (device : DeviceConfig),
      ctx.apps[i]? = some app ∧ ctx.cfg.devices[i]? = some device ∧ app.running = true ∧
        splitDeviceAddress device = address := by
  rw [runningAddresses, List.mem_map]
  constructor
  · rintro ⟨⟨app, device⟩, hmem, rfl⟩
    obtain ⟨hzip, hrunning⟩ := List.mem_filter.1 hmem
    obtain ⟨i, hi⟩ := List.mem_iff_getElem?.1 hzip
    obtain ⟨happ, hdevice⟩ := List.getElem?_zip_eq_some.1 hi
    exact ⟨i, app, device, happ, hdevice, hrunning, rfl⟩
  · rintro ⟨i, app, device, happ, hdevice, hrunning, rfl⟩
    refine ⟨(app, device), List.mem_filter.2 ⟨?_, hrunning⟩, rfl⟩
    exact List.mem_iff_getElem?.2 ⟨i, List.getElem?_zip_eq_some.2 ⟨happ, hdevice⟩⟩

/-- A tray in which the senders of some addresses have been resumed. -/
structure ResumedTray (devices : List DeviceConfig) (addresses : List Bytes) (tray : TrayContext) :
    Prop where
  usb : tray.usbApp = none
  devices_eq : tray.cfg.devices = devices
  aligned : tray.apps.length = devices.length
  resumed : ∀ (i : Nat) (device : DeviceConfig) (app : SenderApp), devices[i]? = some device →
    tray.apps[i]? = some app → Resumed addresses device app

/-- Starting by address in a tray without a running sender. -/
theorem resumedTray_startAddresses {ctx : TrayContext} (husb : ctx.usbApp = none)
    (hlength : ctx.apps.length = ctx.cfg.devices.length)
    (hidle : ∀ app ∈ ctx.apps, app.running = false) {addresses wanted : List Bytes}
    (hsame : ∀ address, address ∈ addresses ↔ address ∈ wanted) :
    ResumedTray ctx.cfg.devices wanted (ctx.startAddresses addresses) := by
  have hframe : ctx.startAddresses addresses =
      { ctx with apps := (ctx.startAddresses addresses).apps } := startEach_frame ..
  refine ⟨?_, ?_, ?_, ?_⟩
  · rw [hframe]
    exact husb
  · rw [hframe]
  · rw [startAddresses, startEach_apps_length]
    exact hlength
  · intro i device app hdevice happ
    have hresumed := resumed_startAddresses hidle hdevice happ
    exact ⟨hresumed.running.trans (hsame _), hresumed.target⟩

/-- The tray with all its senders stopped. -/
theorem idle_stopped (ctx : TrayContext) :
    ∀ app ∈ (ctx.stopUsbSession.stopConfiguredSenders).apps, app.running = false := by
  intro app happ
  obtain ⟨old, -, rfl⟩ := List.mem_map.1 happ
  exact SenderApp.stop_running old

/-- The prompt is declined, or the program cannot be started again. -/
theorem resumedTray_kept {ctx : TrayContext} (hlength : ctx.apps.length = ctx.cfg.devices.length) :
    ResumedTray ctx.cfg.devices ctx.runningAddresses
      (ctx.stopUsbSession.stopConfiguredSenders.startAddresses
        (addressSet ctx.runningAddresses)) := by
  refine @resumedTray_startAddresses ctx.stopUsbSession.stopConfiguredSenders rfl ?_
    (idle_stopped ctx) _ _ fun _ => mem_addressSet
  exact (List.length_map ..).trans hlength

/-- Nothing has to be started if no sender ran. -/
theorem resumedTray_idle {ctx : TrayContext} (hlength : ctx.apps.length = ctx.cfg.devices.length)
    (hnone : addressSet ctx.runningAddresses = []) :
    ResumedTray ctx.cfg.devices ctx.runningAddresses
      ctx.stopUsbSession.stopConfiguredSenders := by
  have hkept := resumedTray_kept hlength
  have hstart : ctx.stopUsbSession.stopConfiguredSenders.startAddresses [] =
      ctx.stopUsbSession.stopConfiguredSenders := by
    simp [startAddresses, startEach]
  rwa [hnone, hstart] at hkept

/-- The devices of a configuration without the cable entries of old versions. -/
def withoutCables (devices : List DeviceConfig) : List DeviceConfig :=
  devices.filter fun device => !isUsbMuxTarget (splitDeviceAddress device)

/-- The second process starts the senders of its command line. -/
theorem resumedTray_elevated (ctx : TrayContext) (cfg : Config) (outside : Outside) :
    ResumedTray (withoutCables cfg.devices) ctx.runningAddresses
      (runTray cfg (some (addressSet ctx.runningAddresses)) outside) := by
  refine @resumedTray_startAddresses (fresh { cfg with devices := withoutCables cfg.devices }) rfl
    ?_ ?_ _ _ fun _ => mem_addressSet
  · exact (List.length_map ..).trans List.length_range
  · intro app happ
    obtain ⟨i, -, rfl⟩ := List.mem_map.1 happ
    rfl

/-- In a resumed tray every sender runs that ran, and others only for an address they share. -/
theorem ResumedTray.appRunning {ctx tray : TrayContext}
    (h : ResumedTray ctx.cfg.devices ctx.runningAddresses tray)
    (hlength : ctx.apps.length = ctx.cfg.devices.length) :
    (∀ i, ctx.appRunning i = true → tray.appRunning i = true) ∧
      ((ctx.cfg.devices.map splitDeviceAddress).Nodup →
        ∀ i, tray.appRunning i = ctx.appRunning i) := by
  have hresumed : ∀ i, tray.appRunning i = true ↔ ∃ device, ctx.cfg.devices[i]? = some device ∧
      splitDeviceAddress device ∈ ctx.runningAddresses := by
    intro i
    rw [TrayContext.appRunning, Option.any_eq_true]
    constructor
    · rintro ⟨app, happ, hrunning⟩
      have hlt : i < ctx.cfg.devices.length := by
        rw [← h.aligned]
        exact (List.getElem?_eq_some_iff.1 happ).1
      have hdevice := List.getElem?_eq_getElem hlt
      exact ⟨_, hdevice, (h.resumed i _ app hdevice happ).running.1 hrunning⟩
    · rintro ⟨device, hdevice, hmem⟩
      have hlt : i < tray.apps.length := by
        rw [h.aligned]
        exact (List.getElem?_eq_some_iff.1 hdevice).1
      have happ := List.getElem?_eq_getElem hlt
      exact ⟨_, happ, (h.resumed i device _ hdevice happ).running.2 hmem⟩
  have hran : ∀ i, ctx.appRunning i = true → ∃ device, ctx.cfg.devices[i]? = some device ∧
      splitDeviceAddress device ∈ ctx.runningAddresses := by
    intro i hi
    rw [TrayContext.appRunning, Option.any_eq_true] at hi
    obtain ⟨app, happ, hrunning⟩ := hi
    have hlt : i < ctx.cfg.devices.length := by
      rw [← hlength]
      exact (List.getElem?_eq_some_iff.1 happ).1
    have hdevice := List.getElem?_eq_getElem hlt
    exact ⟨_, hdevice, mem_runningAddresses.2 ⟨i, app, _, happ, hdevice, hrunning, rfl⟩⟩
  refine ⟨fun i hi => (hresumed i).2 (hran i hi), fun hnodup i => ?_⟩
  rw [Bool.eq_iff_iff]
  refine ⟨fun hi => ?_, fun hi => (hresumed i).2 (hran i hi)⟩
  obtain ⟨device, hdevice, hmem⟩ := (hresumed i).1 hi
  obtain ⟨j, app, other, happ, hother, hrunning, hsame⟩ := mem_runningAddresses.1 hmem
  -- No other device has the address.
  have hij : i = j := by
    refine (List.getElem?_inj ?_ hnodup).1 ?_
    · rw [List.length_map]
      exact (List.getElem?_eq_some_iff.1 hdevice).1
    · rw [List.getElem?_map, List.getElem?_map, hdevice, hother, Option.map_some, Option.map_some,
        hsame]
  subst hij
  rw [TrayContext.appRunning, Option.any_eq_true]
  exact ⟨app, happ, hrunning⟩

/-- **The senders run again.**  Whether the prompt is accepted or not, one tray is left.  In it
exactly the configured senders run, each at the address of its device and with its id, whose device
has the address of a device whose sender ran before; so every sender that ran runs again, and no
other one if the devices have addresses of their own.  A cable session is not resumed. -/
theorem relaunch_resumes {ctx : TrayContext} (hlength : ctx.apps.length = ctx.cfg.devices.length)
    (prompt : Prompt) (exe : Bytes) {cfg : Config} (outside : Outside)
    (hplain : ∀ address ∈ ctx.runningAddresses, PlainArgument address)
    (hdevices : withoutCables cfg.devices = ctx.cfg.devices) :
    ∃ tray, traysAfter ctx prompt exe cfg outside = [tray] ∧
      ResumedTray ctx.cfg.devices ctx.runningAddresses tray ∧
      (∀ i, ctx.appRunning i = true → tray.appRunning i = true) ∧
      ((ctx.cfg.devices.map splitDeviceAddress).Nodup →
        ∀ i, tray.appRunning i = ctx.appRunning i) := by
  have hone : ∃ tray, traysAfter ctx prompt exe cfg outside = [tray] ∧
      ResumedTray ctx.cfg.devices ctx.runningAddresses tray := by
    rw [traysAfter, runAsAdmin]
    split
    · exact ⟨_, rfl, resumedTray_kept hlength⟩
    · split
      · have hmode : modeOf (exe :: splitArguments (resumeParameters
            (addressSet ctx.runningAddresses))) = .resume (addressSet ctx.runningAddresses) :=
          modeOf_resume exe fun address hmem => hplain address (mem_addressSet.1 hmem)
        have hresumed := resumedTray_elevated ctx cfg outside
        rw [hdevices] at hresumed
        refine ⟨_, ?_, hresumed⟩
        rw [Option.bind_some, hmode]
        rfl
      · split
        · exact ⟨_, rfl, resumedTray_kept hlength⟩
        · rename_i hnone
          exact ⟨_, rfl, resumedTray_idle hlength (not_not.1 hnone)⟩
  obtain ⟨tray, htrays, hresumed⟩ := hone
  exact ⟨tray, htrays, hresumed, hresumed.appRunning hlength⟩

/-- One of two senders runs, and the prompt is accepted. -/
theorem relaunch_resumes_one :
    let devices : List DeviceConfig :=
      [{ lastIpv4 := ascii "10.0.0.1" }, { lastIpv4 := ascii "10.0.0.2" }]
    let cfg : Config := { devices := devices }
    let ctx := (fresh cfg).startApp 1 (ascii "10.0.0.2")
    ctx.runningAddresses = [ascii "10.0.0.2"] ∧
      ∃ tray, traysAfter ctx ⟨true, true⟩ (ascii "app.exe") cfg ⟨0, 0, []⟩ = [tray] ∧
        ResumedTray devices [ascii "10.0.0.2"] tray ∧
        (∀ i, ctx.appRunning i = true → tray.appRunning i = true) ∧
        ((devices.map splitDeviceAddress).Nodup →
          ∀ i, tray.appRunning i = ctx.appRunning i) := by
  intro devices cfg ctx
  have hran : ctx.runningAddresses = [ascii "10.0.0.2"] := by decide
  refine ⟨hran, ?_⟩
  rw [← hran]
  refine relaunch_resumes rfl ⟨true, true⟩ (ascii "app.exe") ⟨0, 0, []⟩ ?_ (by decide)
  rw [hran]
  intro address hmem
  rw [List.mem_singleton.1 hmem]
  exact ⟨by decide, List.all_eq_true.1 (by decide)⟩

end SecondDisplay.AdminRelaunch
