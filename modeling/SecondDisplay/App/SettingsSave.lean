import SecondDisplay.App.ConfigFile
import SecondDisplay.App.UneditedSave

/-!
# The save button of the panel (`SavePanelSettings`)

The handler checks the numbers, writes the edited settings over the configuration in place and
saves it; if the save fails it puts the kept values back, one by one.  `restore_eq_iff` says what
that takes: whatever was overwritten is among the values that are kept.  So a save that fails leaves
the tray as it was (`savePanelSettings_failed`), and what a save does to the tray is what
`TrayContext.savePanelSettings` says (`savePanelSettings_tray`).

While a message box is open its message loop may call other handlers; these are steps of their own.
-/

namespace SecondDisplay.SettingsSave

open Transitions UiModel

/-! ### The window -/

/-- The controls of the panel that belong to the settings. -/
structure Panel where
  /-- The text of `panelDevices`. -/
  devices : List UInt16
  /-- What `GetDlgItemInt` reads from the three boxes, if they hold a number. -/
  port : Option Nat
  fps : Option Nat
  bitrate : Option Nat
  autoReconnect : Bool
  requirePrivateNetwork : Bool
  streamProfile : StreamProfile

/-- What the handler works on. -/
structure Window where
  tray : TrayContext
  panel : Panel
  files : ConfigFile.Files
  /-- The last text of a message box or of the notice. -/
  shown : String

/-- What the panel holds, as `TrayContext.savePanelSettings` takes it. -/
def Window.form (conversion : TextConversion) (w : Window) : PanelForm :=
  TrayContext.panelForm conversion w.panel.devices w.panel.port w.panel.fps w.panel.bitrate
    w.panel.autoReconnect w.panel.requirePrivateNetwork

/-- `SyncPanelSettingsFromConfig`. -/
def Window.syncPanel (conversion : TextConversion) (w : Window) : Window :=
  { w with
    panel :=
      { devices := devicesText conversion w.tray.cfg.devices
        port := some w.tray.cfg.port.toNat
        fps := some w.tray.cfg.fps.toNat
        bitrate := some w.tray.cfg.bitrateMbps.toNat
        autoReconnect := w.tray.cfg.autoReconnect
        requirePrivateNetwork := w.tray.cfg.requirePrivateNetwork
        streamProfile := w.tray.cfg.streamProfile } }

/-! ### Saving -/

/-- What Windows answers to `Config::Save`. -/
structure Answers where
  /-- `CreateDirectoryW` has made the directory, or it was there already. -/
  directory : Bool
  /-- The calls of `Config::SaveToFile`. -/
  calls : List ConfigFile.Call

/-- `Config::Save`: the files afterwards and what it returns (`none` if the calls are not those of
a whole save). -/
def save (cfg : Config) (files : ConfigFile.Files) (answers : Answers) :
    Option (ConfigFile.Files × Bool) :=
  if answers.directory = false then some (files, false)
  else
    match run (ConfigFile.step cfg.serialize) (ConfigFile.Save.start files) answers.calls with
    | some ⟨.returned replaced, files⟩ => some (files, replaced)
    | _ => none

/-- The values that are kept before the configuration is overwritten. -/
structure Old where
  devices : List DeviceConfig
  runningBeforeSettings : List Bytes
  port : UInt16
  fps : UInt32
  bitrate : UInt32
  networkPolicy : Bool
  autoReconnect : Bool
  streamProfile : StreamProfile

/-- They are taken from the tray. -/
def Old.keep (tray : TrayContext) : Old where
  devices := tray.cfg.devices
  runningBeforeSettings := tray.runningAddresses
  port := tray.cfg.port
  fps := tray.cfg.fps
  bitrate := tray.cfg.bitrateMbps
  networkPolicy := tray.cfg.requirePrivateNetwork
  autoReconnect := tray.cfg.autoReconnect
  streamProfile := tray.cfg.streamProfile

/-- The configuration is overwritten in place. -/
def Window.overwrite (conversion : TextConversion) (old : Old) (port fps bitrate : Nat)
    (w : Window) : Window :=
  let editedDevices :=
    (parseDeviceEntriesText conversion (TrayContext.controlText w.panel.devices)
      (UInt16.ofNat port)).map (PanelForm.withKnown old.devices)
  let w := { w with tray.cfg.devices := editedDevices }
  let w := { w with tray.cfg.port := UInt16.ofNat port }
  let w := { w with tray.cfg.fps := UInt32.ofNat fps }
  let w := { w with tray.cfg.bitrateMbps := UInt32.ofNat bitrate }
  let w := { w with tray.cfg.streamProfile := inferStreamProfile fps bitrate }
  let w := { w with panel.streamProfile := w.tray.cfg.streamProfile }
  let w := { w with tray.cfg.autoReconnect := w.panel.autoReconnect }
  { w with tray.cfg.requirePrivateNetwork := w.panel.requirePrivateNetwork }

/-- The kept values are put back, one by one. -/
def Old.restore (old : Old) (cfg : Config) : Config :=
  let cfg := { cfg with devices := old.devices }
  let cfg := { cfg with port := old.port }
  let cfg := { cfg with fps := old.fps }
  let cfg := { cfg with bitrateMbps := old.bitrate }
  let cfg := { cfg with requirePrivateNetwork := old.networkPolicy }
  let cfg := { cfg with autoReconnect := old.autoReconnect }
  { cfg with streamProfile := old.streamProfile }

/-- The text for numbers out of range. -/
def invalidText : String := "请填写有效的连接参数：端口 1–65535、帧率 30–120、码率 5–100 Mbps。"

/-- The text for a save that failed. -/
def failedText : String := "配置保存失败，原配置保持不变。请检查 AppData 目录权限或磁盘空间。"

/-- The notice of a save. -/
def savedText : String := "连接设置已保存"

/-- One of the settings that a session depends on is not what it was. -/
def Old.restarts (old : Old) (cfg : Config) : Bool :=
  decide (cfg.port ≠ old.port) || decide (cfg.fps ≠ old.fps) ||
    decide (cfg.bitrateMbps ≠ old.bitrate) ||
    decide (cfg.requirePrivateNetwork ≠ old.networkPolicy)

/-- `ApplyAndRestart` is called if the devices or one of these settings changed. -/
def Old.apply (old : Old) (tray : TrayContext) : TrayContext :=
  if tray.cfg.devices ≠ old.devices ∨ old.restarts tray.cfg then
    tray.applyAndRestart old.devices old.runningBeforeSettings (old.restarts tray.cfg)
  else tray

/-- `SavePanelSettings`: the window afterwards and what it returns. -/
def savePanelSettings (conversion : TextConversion) (w : Window) (answers : Answers) :
    Option (Window × Bool) :=
  match (w.form conversion).checked with
  | none => some ({ w with shown := invalidText }, false)
  | some (port, fps, bitrate) =>
    let old := Old.keep w.tray
    let w := w.overwrite conversion old port fps bitrate
    match save w.tray.cfg w.files answers with
    | none => none
    | some (files, false) =>
      let w := { w with files := files, tray.cfg := old.restore w.tray.cfg }
      some ({ w.syncPanel conversion with shown := failedText }, false)
    | some (files, true) =>
      let w := { w with files := files, tray := old.apply w.tray }
      some ({ w.syncPanel conversion with shown := savedText }, true)

/-! ### What the handler overwrites -/

/-- The settings that the kept values do not cover are the same. -/
structure SameElsewhere (cfg cfg' : Config) : Prop where
  version : cfg'.version = cfg.version
  showLauncher : cfg'.showLauncher = cfg.showLauncher
  launcherMode : cfg'.launcherMode = cfg.launcherMode
  darkTheme : cfg'.darkTheme = cfg.darkTheme
  taskbarRouting : cfg'.taskbarRouting = cfg.taskbarRouting
  preferredDeviceId : cfg'.preferredDeviceId = cfg.preferredDeviceId
  lastConnectionTransport : cfg'.lastConnectionTransport = cfg.lastConnectionTransport
  lastWifiAddress : cfg'.lastWifiAddress = cfg.lastWifiAddress
  lastUsbTarget : cfg'.lastUsbTarget = cfg.lastUsbTarget

/-- **What the rollback needs.**  Putting the kept values back gives the old configuration exactly
if nothing else was overwritten. -/
theorem restore_eq_iff (tray : TrayContext) (cfg : Config) :
    (Old.keep tray).restore cfg = tray.cfg ↔ SameElsewhere tray.cfg cfg := by
  constructor
  · intro h
    have hfield : ∀ {β : Type} (f : Config → β), f ((Old.keep tray).restore cfg) = f tray.cfg :=
      fun f => congrArg f h
    exact
      { version := hfield (·.version)
        showLauncher := hfield (·.showLauncher)
        launcherMode := hfield (·.launcherMode)
        darkTheme := hfield (·.darkTheme)
        taskbarRouting := hfield (·.taskbarRouting)
        preferredDeviceId := hfield (·.preferredDeviceId)
        lastConnectionTransport := hfield (·.lastConnectionTransport)
        lastWifiAddress := hfield (·.lastWifiAddress)
        lastUsbTarget := hfield (·.lastUsbTarget) }
  · intro same
    simp only [Old.restore, Old.keep, same.version, same.showLauncher, same.launcherMode,
      same.darkTheme, same.taskbarRouting, same.preferredDeviceId, same.lastConnectionTransport,
      same.lastWifiAddress, same.lastUsbTarget]

variable {conversion : TextConversion} {w w' : Window} {answers : Answers}

/-- The handler overwrites no other setting. -/
theorem overwrite_sameElsewhere (old : Old) (port fps bitrate : Nat) :
    SameElsewhere w.tray.cfg (w.overwrite conversion old port fps bitrate).tray.cfg :=
  ⟨rfl, rfl, rfl, rfl, rfl, rfl, rfl, rfl, rfl⟩

/-- It overwrites nothing of the tray but the configuration. -/
theorem overwrite_tray (old : Old) (port fps bitrate : Nat) :
    (w.overwrite conversion old port fps bitrate).tray =
      { w.tray with cfg := (w.overwrite conversion old port fps bitrate).tray.cfg } := rfl

/-- The numbers that pass the checks are those of the panel. -/
theorem checked_port {form : PanelForm} {port fps bitrate : Nat}
    (h : form.checked = some (port, fps, bitrate)) : form.port = some port := by
  rw [PanelForm.checked] at h
  split at h
  · rename_i port' fps' bitrate' hport hfps hbitrate
    split at h
    · cases h
    · cases h
      exact hport
  · cases h

/-- The configuration that the handler tries to save. -/
theorem overwrite_cfg {port fps bitrate : Nat}
    (h : (w.form conversion).checked = some (port, fps, bitrate)) :
    (w.overwrite conversion (Old.keep w.tray) port fps bitrate).tray.cfg =
      w.tray.editedConfig (w.form conversion) port fps bitrate := by
  have hport : w.panel.port = some port := checked_port h
  have hdevices : (w.form conversion).devices =
      parseDeviceEntriesText conversion (TrayContext.controlText w.panel.devices)
        (UInt16.ofNat port) := by
    show parseDeviceEntriesText conversion (TrayContext.controlText w.panel.devices)
      (UInt16.ofNat (w.panel.port.getD 0)) = _
    rw [hport, Option.getD_some]
  rw [TrayContext.editedConfig, PanelForm.editedDevices, hdevices]
  rfl

/-! ### A save that fails -/

/-- **A save that fails changes nothing of the tray**: neither the configuration nor a sender, the
retired senders or what is to be restarted, whether the numbers were refused or `Config::Save`
failed. -/
theorem savePanelSettings_failed (h : savePanelSettings conversion w answers = some (w', false)) :
    w'.tray = w.tray := by
  rw [savePanelSettings] at h
  split at h
  · cases h
    rfl
  · rename_i port fps bitrate hchecked
    dsimp only at h
    split at h
    · cases h
    · rename_i files hsave
      cases h
      have hsame : SameElsewhere w.tray.cfg
          (w.overwrite conversion (Old.keep w.tray) port fps bitrate).tray.cfg :=
        overwrite_sameElsewhere (Old.keep w.tray) port fps bitrate
      have hcfg := (restore_eq_iff w.tray _).2 hsame
      show { (w.overwrite conversion (Old.keep w.tray) port fps bitrate).tray with
        cfg := (Old.keep w.tray).restore
          (w.overwrite conversion (Old.keep w.tray) port fps bitrate).tray.cfg } = w.tray
      rw [hcfg, overwrite_tray]
    · cases h

/-- The panel of the default configuration. -/
def opened : Window where
  tray := { apps := [{ object := 0, running := true }] }
  panel := ⟨[], some 9001, some 30, some 5, false, false, .balanced⟩
  files := ⟨none, none, none⟩
  shown := ""

/-- With edits that cannot be saved: the temporary file cannot be made. -/
theorem savePanelSettings_failed_opened :
    ∃ w', savePanelSettings unicode opened ⟨true, [.createFile false]⟩ = some (w', false) ∧
      w'.shown = failedText ∧ w'.tray = opened.tray := by
  have hfailed : savePanelSettings unicode opened ⟨true, [.createFile false]⟩ = some (_, false) :=
    rfl
  exact ⟨_, hfailed, rfl, savePanelSettings_failed hfailed⟩

/-! ### What a save does to the tray -/

/-- **The handler does to the tray what `TrayContext.savePanelSettings` does**, with what
`Config::Save` returned: the old values that it keeps and puts back are those of the tray. -/
theorem savePanelSettings_tray {result : Bool}
    (h : savePanelSettings conversion w answers = some (w', result)) :
    (w'.tray, result) = w.tray.savePanelSettings (w.form conversion) result := by
  cases result with
  | false =>
    rw [savePanelSettings_failed h, TrayContext.savePanelSettings]
    split <;> rfl
  | true =>
    rw [savePanelSettings] at h
    split at h
    · cases h
    · rename_i port fps bitrate hchecked
      dsimp only at h
      split at h
      · cases h
      · cases h
      · rename_i files hsave
        cases h
        rw [TrayContext.savePanelSettings, hchecked]
        dsimp only
        have htray : (w.overwrite conversion (Old.keep w.tray) port fps bitrate).tray =
            { w.tray with cfg := w.tray.editedConfig (w.form conversion) port fps bitrate } := by
          rw [overwrite_tray, overwrite_cfg hchecked]
        show (Old.apply (Old.keep w.tray)
          (w.overwrite conversion (Old.keep w.tray) port fps bitrate).tray, true) = _
        rw [if_neg (Bool.noConfusion : ¬true = false), htray, Old.apply]
        by_cases hchanged : (w.tray.editedConfig (w.form conversion) port fps bitrate).devices ≠
              w.tray.cfg.devices ∨
            TrayContext.restartsActive w.tray.cfg
              (w.tray.editedConfig (w.form conversion) port fps bitrate)
        · exact (congrArg (·, true) (if_pos hchanged)).trans (if_pos hchanged).symm
        · exact (congrArg (·, true) (if_neg hchanged)).trans (if_neg hchanged).symm

end SecondDisplay.SettingsSave
