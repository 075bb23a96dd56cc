import SecondDisplay.App.DeviceText
import SecondDisplay.App.TrayApp

/-!
# Saving unedited settings (`app/TrayApp.cpp`)

The panel fills its boxes from the configuration (`SyncPanelSettingsFromConfig`) and reads them back
when the user saves (`SavePanelSettings`): the devices are read from their lines, and what a line
does not carry is taken over from the old device with the same address.  Some fields are neither
carried nor taken over; `unedited_save_iff` says for which devices that does no harm.

The box is filled with a C string, so a null character ends its text.
-/

namespace SecondDisplay

open Encoding UiModel

namespace TrayContext

/-! ### The panel -/

/-- What the box shows after `SetWindowTextW`. -/
def controlText (text : List UInt16) : List UInt16 := text.takeWhile fun unit => !(unit == 0)

/-- What `SavePanelSettings` reads from the panel. -/
def panelForm (conversion : TextConversion) (text : List UInt16)
    (port fps bitrateMbps : Option Nat) (autoReconnect requirePrivateNetwork : Bool) :
    PanelForm where
  port := port
  fps := fps
  bitrateMbps := bitrateMbps
  devices := parseDeviceEntriesText conversion (controlText text) (UInt16.ofNat (port.getD 0))
  autoReconnect := autoReconnect
  requirePrivateNetwork := requirePrivateNetwork

/-- What the panel holds after `SyncPanelSettingsFromConfig`, with the check boxes in any state. -/
def syncedForm (conversion : TextConversion) (cfg : Config)
    (autoReconnect requirePrivateNetwork : Bool) : PanelForm :=
  panelForm conversion (devicesText conversion cfg.devices) (some cfg.port.toNat)
    (some cfg.fps.toNat) (some cfg.bitrateMbps.toNat) autoReconnect requirePrivateNetwork

/-! ### The devices after a save -/

theorem scheduleRestart_cfg (ctx : TrayContext) (restartActive : Bool) :
    (ctx.scheduleRestart restartActive).cfg = ctx.cfg := by
  rw [scheduleRestart]
  split <;> split <;> rfl

theorem applyAndRestart_cfg (ctx : TrayContext) (oldDevices : List DeviceConfig)
    (reconnect : List Bytes) (restartActive : Bool) :
    (ctx.applyAndRestart oldDevices reconnect restartActive).cfg = ctx.cfg := by
  rw [applyAndRestart, scheduleRestart_cfg]

/-- A save that is carried out installs the devices of the form. -/
theorem savePanelSettings_devices (ctx : TrayContext) (form : PanelForm) (saved : Bool) :
    (ctx.savePanelSettings form saved).1.cfg.devices =
      if saved = true ∧ form.checked.isSome = true then form.editedDevices ctx.cfg.devices
      else ctx.cfg.devices := by
  rw [savePanelSettings]
  cases hchecked : form.checked with
  | none => rw [if_neg fun hand => Bool.false_ne_true hand.2]
  | some numbers =>
    obtain ⟨port, fps, bitrateMbps⟩ := numbers
    cases saved with
    | false => rw [if_neg fun hand => Bool.false_ne_true hand.1]; rfl
    | true =>
      rw [if_pos ⟨rfl, rfl⟩]
      dsimp only
      rw [if_neg (Bool.noConfusion : ¬true = false)]
      split
      · rw [applyAndRestart_cfg]
        rfl
      · rfl

/-! ### Reading the box back -/

/-- The part of a text before its first null character. -/
def cString (text : Bytes) : Bytes := text.takeWhile fun b => !(b == 0)

/-- The code point of the null character. -/
def nullCode (n : Nat) : Bool := n == 0

theorem nullCode_ascii : ∀ n, nullCode n = true → n < 0x80 := by
  intro n hn
  rw [nullCode, beq_iff_eq] at hn
  omega

theorem utf8_null : Marks String.utf8EncodeChar (fun c => nullCode c.toNat) (· == 0) := by
  have heq : (fun b : UInt8 => nullCode b.toNat) = (· == 0) := by
    funext b
    rw [Bool.eq_iff_iff, nullCode, beq_iff_eq, beq_iff_eq, ← UInt8.toNat_inj]
    rfl
  exact heq ▸ utf8_marks nullCode_ascii

theorem utf16_null : Marks utf16Char (fun c => nullCode c.toNat) (· == 0) := by
  have heq : (fun unit : UInt16 => nullCode unit.toNat) = (· == 0) := by
    funext unit
    rw [Bool.eq_iff_iff, nullCode, beq_iff_eq, beq_iff_eq, ← UInt16.toNat_inj]
    rfl
  exact heq ▸ utf16_marks nullCode_ascii

/-- The box is read as the bytes before the first null character. -/
theorem parse_controlText (conversion : TextConversion) (port : UInt16)
    {devices : List DeviceConfig} (h : ∀ device ∈ devices, Writable device) :
    parseDeviceEntriesText conversion (controlText (devicesText conversion devices)) port =
      readText port (cString (bytesText devices)) := by
  obtain ⟨cs, hwide, hbytes⟩ := devicesText_utf16 conversion h
  rw [hwide, hbytes, controlText, cString, utf16, utf16_null.takeWhile, utf8, utf8_null.takeWhile]
  exact parse_utf16 conversion port _

theorem cString_eq {text : Bytes} (h : ∀ b ∈ text, b ≠ 0) : cString text = text := by
  have hall : ∀ b ∈ text, (!(b == 0)) = true := fun b hb => by
    rw [Bool.not_eq_true', beq_eq_false_iff_ne]
    exact h b hb
  have happend := Marks.takeWhile_append_of_all hall []
  rw [List.append_nil, List.takeWhile_nil, List.append_nil] at happend
  exact happend

theorem ne_zero_of_mem_cString {text : Bytes} {b : UInt8} (h : b ∈ cString text) : b ≠ 0 := by
  have hb := List.mem_takeWhile_imp h
  rw [Bool.not_eq_true', beq_eq_false_iff_ne] at hb
  exact hb

/-- The text of devices without null characters has none. -/
theorem bytesText_ne_zero {devices : List DeviceConfig}
    (hwritable : ∀ device ∈ devices, Writable device)
    (h : ∀ device ∈ devices, (∀ b ∈ endpoint device, b ≠ 0) ∧ ∀ b ∈ device.name, b ≠ 0) :
    ∀ b ∈ bytesText devices, b ≠ 0 := by
  induction devices using List.reverseRecOn with
  | nil => exact fun b hb => by cases hb
  | append_singleton devices device ih =>
    have hlast : device ∈ devices ++ [device] := List.mem_append_right _ List.mem_cons_self
    obtain ⟨hendpoint, hname⟩ := h device hlast
    have hline : ∀ b ∈ entryLine device, b ≠ 0 := by
      intro b hb
      rw [entryLine_eq (hwritable device hlast), List.mem_append] at hb
      obtain hb | hb := hb
      · exact hendpoint b hb
      · split at hb
        · cases hb
        · obtain rfl | hb := List.mem_cons.1 hb
          · decide
          · exact hname b hb
    have hrest := ih (fun d hd => hwritable d (List.mem_append_left _ hd))
      (fun d hd => h d (List.mem_append_left _ hd))
    rw [bytesText, List.foldl_append, List.foldl_cons, List.foldl_nil, ← bytesText, writeLine]
    intro b hb
    obtain hb | hb := List.mem_append.1 hb
    · split at hb
      · obtain hb | hb := List.mem_append.1 hb
        · exact hrest b hb
        · simp only [List.mem_cons, List.not_mem_nil, or_false] at hb
          obtain rfl | rfl := hb <;> decide
      · exact hrest b hb
    · exact hline b hb

/-! ### Merging with the old devices -/

/-- A field that the merge does not restore has the value that it resets it to, and the box can
show the device. -/
structure Restorable (cfg : Config) (i : Nat) (device : DeviceConfig) : Prop where
  address : device.lastIpv4 ≠ []
  port : device.port = cfg.port
  autoConnect : device.autoConnect = true
  priority : device.priority = UInt32.ofNat i
  address_null : ∀ b ∈ device.lastIpv4, b ≠ 0
  name_null : ∀ b ∈ device.name, b ≠ 0

theorem endpoint_of_address {device : DeviceConfig} (h : device.lastIpv4 ≠ []) :
    endpoint device = device.lastIpv4 := if_pos h

/-- The fields that the merge leaves alone. -/
theorem withKnown_fields (oldDevices : List DeviceConfig) (edited : DeviceConfig) :
    (PanelForm.withKnown oldDevices edited).name = edited.name ∧
      (PanelForm.withKnown oldDevices edited).lastIpv4 = edited.lastIpv4 ∧
      (PanelForm.withKnown oldDevices edited).port = edited.port ∧
      (PanelForm.withKnown oldDevices edited).autoConnect = edited.autoConnect ∧
      (PanelForm.withKnown oldDevices edited).priority = edited.priority := by
  rw [PanelForm.withKnown]
  split <;> exact ⟨rfl, rfl, rfl, rfl, rfl⟩

/-- The entry of a device with its own address takes over the rest of the record. -/
theorem withKnown_eq {cfg : Config} {i : Nat} {device : DeviceConfig}
    (hi : cfg.devices[i]? = some device) (hrestorable : Restorable cfg i device)
    (hdistinct : (cfg.devices.map endpoint).Nodup) :
    PanelForm.withKnown cfg.devices
      { lastIpv4 := endpoint device
        name := device.name
        port := cfg.port
        priority := UInt32.ofNat i } = device := by
  have hmem : device ∈ cfg.devices := List.mem_of_getElem? hi
  have hendpoint := endpoint_of_address hrestorable.address
  rw [PanelForm.withKnown, hendpoint]
  split
  · rename_i old hfind
    have hold := List.mem_of_find?_eq_some hfind
    have hsame : old.lastIpv4 = device.lastIpv4 := by
      have hpred := List.find?_some hfind
      simpa using hpred
    have hold_eq : old = device := by
      refine List.inj_on_of_nodup_map hdistinct hold hmem ?_
      rw [hendpoint, ← hsame]
      exact endpoint_of_address (hsame ▸ hrestorable.address)
    rw [hold_eq]
    obtain ⟨id, name, lastIpv4, bonjourHost, port, preferredTransport, priority, autoConnect,
      lastSeen, macHint⟩ := device
    obtain ⟨-, hport, hauto, hpriority, -, -⟩ := hrestorable
    dsimp only at hport hauto hpriority ⊢
    rw [hport, hauto, hpriority]
  · rename_i hnone
    have := List.find?_eq_none.1 hnone device hmem
    simp at this

/-- The devices of the unedited form. -/
theorem syncedForm_devices (conversion : TextConversion) {cfg : Config}
    (h : ∀ device ∈ cfg.devices, Writable device) (autoReconnect requirePrivateNetwork : Bool) :
    (syncedForm conversion cfg autoReconnect requirePrivateNetwork).devices =
      readText cfg.port (cString (bytesText cfg.devices)) := by
  show parseDeviceEntriesText conversion (controlText (devicesText conversion cfg.devices))
    (UInt16.ofNat ((some cfg.port.toNat).getD 0)) = _
  rw [Option.getD_some, UInt16.ofNat_toNat, parse_controlText conversion cfg.port h]

/-- What comes back unchanged has nothing that the merge resets. -/
theorem restorable_of_same {cfg : Config}
    (hsame : (readText cfg.port (cString (bytesText cfg.devices))).map
      (PanelForm.withKnown cfg.devices) = cfg.devices) {i : Nat} {device : DeviceConfig}
    (hi : cfg.devices[i]? = some device) : Restorable cfg i device := by
  have hread : ((readText cfg.port (cString (bytesText cfg.devices))).map
      (PanelForm.withKnown cfg.devices))[i]? = some device := by rw [hsame, hi]
  rw [List.getElem?_map, Option.map_eq_some_iff] at hread
  obtain ⟨read, hread, rfl⟩ := hread
  obtain ⟨hname, haddress, hport, hauto, hpriority⟩ := withKnown_fields cfg.devices read
  have hlisted := listed_readText cfg.port (cString (bytesText cfg.devices))
  obtain ⟨-, hport', hauto', hpriority'⟩ := hlisted.fields i read hread
  obtain ⟨hnames, haddresses⟩ := mem_readText (List.mem_of_getElem? hread)
  exact
    { address := haddress ▸ hlisted.address i read hread
      port := hport.trans hport'
      autoConnect := hauto.trans hauto'
      priority := hpriority.trans hpriority'
      address_null := fun b hb => ne_zero_of_mem_cString (haddresses b (haddress ▸ hb)).1
      name_null := fun b hb => ne_zero_of_mem_cString (hnames b (hname ▸ hb)).1 }

/-- What the merge can restore comes back unchanged. -/
theorem same_of_restorable {cfg : Config} (hwritable : ∀ device ∈ cfg.devices, Writable device)
    (hdistinct : (cfg.devices.map endpoint).Nodup)
    (hlines : ∀ device ∈ cfg.devices, ∀ b ∈ device.name, isBreakByte b = false)
    (h : ∀ (i : Nat) (device : DeviceConfig), cfg.devices[i]? = some device →
      Restorable cfg i device) :
    (readText cfg.port (cString (bytesText cfg.devices))).map
      (PanelForm.withKnown cfg.devices) = cfg.devices := by
  have hnull : ∀ b ∈ bytesText cfg.devices, b ≠ 0 := by
    refine bytesText_ne_zero hwritable fun device hmem => ?_
    obtain ⟨i, hi⟩ := List.getElem?_of_mem hmem
    have hdevice := h i device hi
    rw [endpoint_of_address hdevice.address]
    exact ⟨hdevice.address_null, hdevice.name_null⟩
  rw [cString_eq hnull, readText_shown cfg.port hwritable hdistinct hlines]
  apply List.ext_getElem?
  intro i
  rw [List.getElem?_map, shown, List.getElem?_mapIdx]
  cases hi : cfg.devices[i]? with
  | none => rfl
  | some device => exact congrArg some (withKnown_eq hi (h i device hi) hdistinct)

/-- **When saving unedited settings keeps every device record.**  The save is refused or fails, or
every device has its own address and the port of the configuration, connects by itself, has its
position as its priority, and has no null character in its address and name. -/
theorem unedited_save_iff (conversion : TextConversion) (ctx : TrayContext)
    (autoReconnect requirePrivateNetwork saved : Bool)
    (hwritable : ∀ device ∈ ctx.cfg.devices, Writable device)
    (hdistinct : (ctx.cfg.devices.map endpoint).Nodup)
    (hlines : ∀ device ∈ ctx.cfg.devices, ∀ b ∈ device.name, b ≠ 0x0D ∧ b ≠ 0x0A) :
    (ctx.savePanelSettings (syncedForm conversion ctx.cfg autoReconnect requirePrivateNetwork)
        saved).1.cfg.devices = ctx.cfg.devices ↔
      saved = false ∨
      (syncedForm conversion ctx.cfg autoReconnect requirePrivateNetwork).checked = none ∨
      ∀ (i : Nat) (device : DeviceConfig), ctx.cfg.devices[i]? = some device →
        Restorable ctx.cfg i device := by
  have hbreaks : ∀ device ∈ ctx.cfg.devices, ∀ b ∈ device.name, isBreakByte b = false := by
    intro device hmem b hb
    rw [isBreakByte, Bool.or_eq_false_iff, beq_eq_false_iff_ne, beq_eq_false_iff_ne]
    exact hlines device hmem b hb
  rw [savePanelSettings_devices, PanelForm.editedDevices, syncedForm_devices conversion hwritable]
  by_cases hsaves : saved = true ∧ (syncedForm conversion ctx.cfg autoReconnect
      requirePrivateNetwork).checked.isSome = true
  · rw [if_pos hsaves]
    constructor
    · exact fun hsame => .inr (.inr fun i device hi => restorable_of_same hsame hi)
    · rintro (hfailed | hrefused | hall)
      · rw [hfailed] at hsaves
        cases hsaves.1
      · rw [hrefused] at hsaves
        cases hsaves.2
      · exact same_of_restorable hwritable hdistinct hbreaks hall
  · rw [if_neg hsaves]
    refine ⟨fun _ => ?_, fun _ => rfl⟩
    rw [not_and_or, Bool.not_eq_true, Option.not_isSome_iff_eq_none] at hsaves
    exact hsaves.imp id .inl

/-- A configuration with two devices that share its port. -/
def plainConfig : Config where
  devices :=
    [{ id := ascii "pro", name := ascii "iPad Pro", lastIpv4 := ascii "192.168.1.42",
       bonjourHost := ascii "Pro.local", lastSeen := 1700000000 },
      { name := ascii "10.0.0.8", lastIpv4 := ascii "10.0.0.8", priority := 1 }]

theorem plainConfig_writable : ∀ device ∈ plainConfig.devices, Writable device := by
  intro device hmem
  obtain rfl | rfl : device = plainConfig.devices[0] ∨ device = plainConfig.devices[1] := by
    simpa [plainConfig] using hmem
  · exact ⟨⟨"192.168.1.42".toList, by decide +kernel⟩, by decide, by decide +kernel,
      ⟨"iPad Pro".toList, by decide +kernel⟩, by decide, by decide +kernel, by decide +kernel⟩
  · exact ⟨⟨"10.0.0.8".toList, by decide +kernel⟩, by decide, by decide +kernel,
      ⟨"10.0.0.8".toList, by decide +kernel⟩, by decide, by decide +kernel, by decide +kernel⟩

theorem plainConfig_restorable (i : Nat) (device : DeviceConfig)
    (hi : plainConfig.devices[i]? = some device) : Restorable plainConfig i device := by
  match i, hi with
  | 0, hi =>
    obtain rfl := Option.some.inj hi
    exact ⟨by decide, rfl, rfl, rfl, by decide +kernel, by decide +kernel⟩
  | 1, hi =>
    obtain rfl := Option.some.inj hi
    exact ⟨by decide, rfl, rfl, rfl, by decide +kernel, by decide +kernel⟩

/-- Its records are kept. -/
theorem unedited_save_iff_plain :
    (({ cfg := plainConfig } : TrayContext).savePanelSettings
      (syncedForm unicode plainConfig true true) true).1.cfg.devices = plainConfig.devices :=
  (unedited_save_iff unicode { cfg := plainConfig } true true true plainConfig_writable
    (by decide) (by decide +kernel)).2 (.inr (.inr plainConfig_restorable))

/-- The same devices, the first one on a port of its own. -/
def ownPort : Config where
  devices := [{ name := ascii "iPad Pro", lastIpv4 := ascii "192.168.1.42", port := 9001 }]

theorem ownPort_writable : ∀ device ∈ ownPort.devices, Writable device := by
  intro device hmem
  obtain rfl : device = ownPort.devices[0] := by simpa [ownPort] using hmem
  exact ⟨⟨"192.168.1.42".toList, by decide +kernel⟩, by decide, by decide +kernel,
    ⟨"iPad Pro".toList, by decide +kernel⟩, by decide, by decide +kernel, by decide +kernel⟩

/-- The port of a device is reset. -/
theorem unedited_save_fails_ownPort :
    ¬∀ (conversion : TextConversion) (ctx : TrayContext)
      (autoReconnect requirePrivateNetwork saved : Bool),
      (∀ device ∈ ctx.cfg.devices, Writable device) → (ctx.cfg.devices.map endpoint).Nodup →
      (∀ device ∈ ctx.cfg.devices, ∀ b ∈ device.name, b ≠ 0x0D ∧ b ≠ 0x0A) →
      (ctx.savePanelSettings (syncedForm conversion ctx.cfg autoReconnect requirePrivateNetwork)
        saved).1.cfg.devices = ctx.cfg.devices := by
  intro hall
  have hsame := hall unicode { cfg := ownPort } true true true ownPort_writable (by decide)
    (by decide +kernel)
  have hports : ((({ cfg := ownPort } : TrayContext).savePanelSettings
      (syncedForm unicode ownPort true true) true).1.cfg.devices).map (·.port) = [9000] := by
    decide +kernel
  rw [hsame] at hports
  exact absurd hports (by decide)

end TrayContext

end SecondDisplay
