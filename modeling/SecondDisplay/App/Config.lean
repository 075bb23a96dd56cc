import SecondDisplay.App.Json
import Mathlib.Algebra.Ring.Int.Defs

/-!
# The configuration file (`app/Config.cpp`)

`Serialize` builds the file with a string stream, `TryParseConfig` reads it back through
`JsonParser`: it clamps numbers, migrates legacy device entries, sorts the devices by priority,
drops repeated ones and numbers the rest.  Fields that a text does not set keep the defaults of
`Config`.
-/

namespace SecondDisplay

/-! ### Data -/

/-- `StreamProfile`. -/
inductive StreamProfile where
  | balanced | lowBandwidth | sharp | custom
  deriving DecidableEq, Repr

/-- `LauncherMode`. -/
inductive LauncherMode where
  | hidden | fullscreen | region
  deriving DecidableEq, Repr

/-- The number of a profile. -/
def StreamProfile.toNat : StreamProfile → Nat
  | .balanced => 0
  | .lowBandwidth => 1
  | .sharp => 2
  | .custom => 3

/-- The profile of a number in range. -/
def StreamProfile.ofInt (n : Int) : Option StreamProfile :=
  if n = 0 then some .balanced
  else if n = 1 then some .lowBandwidth
  else if n = 2 then some .sharp
  else if n = 3 then some .custom
  else none

/-- The number of a mode. -/
def LauncherMode.toNat : LauncherMode → Nat
  | .hidden => 0
  | .fullscreen => 1
  | .region => 2

/-- The mode of a number in range. -/
def LauncherMode.ofInt (n : Int) : Option LauncherMode :=
  if n = 0 then some .hidden
  else if n = 1 then some .fullscreen
  else if n = 2 then some .region
  else none

/-- `DeviceConfig`. -/
structure DeviceConfig where
  id : Bytes := []
  name : Bytes := []
  lastIpv4 : Bytes := []
  bonjourHost : Bytes := []
  port : UInt16 := 9000
  preferredTransport : Bytes := []
  priority : UInt32 := 0
  autoConnect : Bool := true
  lastSeen : Int64 := 0
  macHint : Bytes := []
  deriving DecidableEq

/-- `Config::CurrentVersion`. -/
def currentVersion : UInt32 := 2

/-- `Config`. -/
structure Config where
  version : UInt32 := currentVersion
  devices : List DeviceConfig := []
  port : UInt16 := 9000
  autoReconnect : Bool := true
  fps : UInt32 := 60
  bitrateMbps : UInt32 := 30
  streamProfile : StreamProfile := .balanced
  requirePrivateNetwork : Bool := true
  showLauncher : Bool := true
  launcherMode : LauncherMode := .fullscreen
  darkTheme : Bool := false
  taskbarRouting : Bool := false
  preferredDeviceId : Bytes := []
  lastConnectionTransport : Bytes := []
  lastWifiAddress : Bytes := []
  lastUsbTarget : Bytes := []
  deriving DecidableEq

namespace Config

/-! ### Reading -/

/-- `StringField`. -/
def stringField (object : Json.Object) (key : String) : Bytes :=
  match Json.field object (ascii key) with
  | some (.string text) => text
  | _ => []

/-- `BoolField`. -/
def boolField (object : Json.Object) (key : String) : Option Bool :=
  match Json.field object (ascii key) with
  | some (.bool flag) => some flag
  | _ => none

/-- `IntField`. -/
def intField (object : Json.Object) (key : String) : Option Int :=
  match Json.field object (ascii key) with
  | some (.number n) => some n.toInt
  | _ => none

/-- `IntField` and a check of the range. -/
def intFieldIn (object : Json.Object) (key : String) (low high : Int) : Option Nat :=
  match intField object key with
  | some n => if low ≤ n ∧ n ≤ high then some n.toNat else none
  | none => none

/-- The separators of a legacy device entry. -/
def isBlank (b : UInt8) : Bool := b == 0x20 || b == 0x09

/-- `LegacyDevice`. -/
def legacyDevice (value : Bytes) (defaultPort : UInt16) (priority : UInt32) : DeviceConfig :=
  let lastIpv4 := value.takeWhile fun b => !isBlank b
  let name := (value.dropWhile fun b => !isBlank b).dropWhile isBlank
  { port := defaultPort
    priority := priority
    lastIpv4 := lastIpv4
    name := if name = [] then lastIpv4 else name }

/-- A device object of the `devices` array. -/
def deviceOf (port : UInt16) (count : Nat) (object : Json.Object) : DeviceConfig where
  id := stringField object "id"
  name := stringField object "name"
  lastIpv4 := stringField object "lastIpv4"
  bonjourHost := stringField object "bonjourHost"
  preferredTransport := stringField object "preferredTransport"
  macHint := stringField object "macHint"
  port := ((intFieldIn object "port" 1 65535).map UInt16.ofNat).getD port
  priority := ((intFieldIn object "priority" 0 (2 ^ 32 - 1)).map UInt32.ofNat).getD
    (UInt32.ofNat count)
  autoConnect := (boolField object "autoConnect").getD true
  lastSeen := ((intField object "lastSeen").map Int64.ofInt).getD 0

/-- One turn of the loop over the `devices` array. -/
def addDevice (port : UInt16) (devices : List DeviceConfig) : Json → List DeviceConfig
  | .string legacy =>
    if legacy = [] then devices
    else devices ++ [legacyDevice legacy port (UInt32.ofNat devices.length)]
  | .object object =>
    let device := deviceOf port devices.length object
    if device.id ≠ [] ∨ device.lastIpv4 ≠ [] ∨ device.bonjourHost ≠ [] then devices ++ [device]
    else devices
  | _ => devices

/-- When `device` repeats `existing`. -/
def isDuplicate (device existing : DeviceConfig) : Bool :=
  (device.id ≠ [] && device.id == existing.id) ||
    (device.id = [] && existing.id = [] && device.lastIpv4 ≠ [] &&
      device.lastIpv4 == existing.lastIpv4 && device.port == existing.port)

/-- `uniqueDevices`. -/
def uniqueDevices (devices : List DeviceConfig) : List DeviceConfig :=
  devices.foldl (fun unique device =>
    if unique.any (isDuplicate device) then unique else unique ++ [device]) []

/-- The devices get their positions as priorities. -/
def renumber (devices : List DeviceConfig) : List DeviceConfig :=
  devices.mapIdx fun i device => { device with priority := UInt32.ofNat i }

/-- The devices of a parsed text, before they are sorted. -/
def parsedDevices (object : Json.Object) (port : UInt16) : List DeviceConfig :=
  let devices :=
    match Json.field object (ascii "devices") with
    | some (.array items) => items.foldl (addDevice port) []
    | _ => []
  let ip := stringField object "ip"
  if devices = [] ∧ ip ≠ [] then [legacyDevice ip port 0] else devices

/-- The configuration of a parsed object. -/
def ofObject (object : Json.Object) : Config :=
  let hasVersion := (intField object "version").isSome
  let port := ((intFieldIn object "port" 1 65535).map UInt16.ofNat).getD 9000
  let devices := (parsedDevices object port).mergeSort fun a b => a.priority ≤ b.priority
  let fps := ((intFieldIn object "fps" 30 120).map UInt32.ofNat).getD 60
  let bitrateMbps := ((intFieldIn object "bitrateMbps" 5 100).map UInt32.ofNat).getD 30
  let showLauncher := (boolField object "showLauncher").getD true
  let launcherMode := ((intField object "launcherMode").bind LauncherMode.ofInt).getD
    (if showLauncher then .fullscreen else .hidden)
  { version := currentVersion
    devices := renumber (uniqueDevices devices)
    port := port
    autoReconnect := (boolField object "autoReconnect").getD true
    fps := fps
    bitrateMbps := bitrateMbps
    streamProfile := ((intField object "streamProfile").bind StreamProfile.ofInt).getD
      (if fps ≠ 60 ∨ bitrateMbps ≠ 30 then .custom else .balanced)
    requirePrivateNetwork := (boolField object "requirePrivateNetwork").getD true
    showLauncher := launcherMode ≠ .hidden
    launcherMode := launcherMode
    darkTheme := (boolField object "darkTheme").getD false
    taskbarRouting := (boolField object "taskbarRouting").getD (!hasVersion)
    preferredDeviceId := stringField object "preferredDeviceId"
    lastConnectionTransport := stringField object "lastConnectionTransport"
    lastWifiAddress := stringField object "lastWifiAddress"
    lastUsbTarget := stringField object "lastUsbTarget" }

/-- `TryParseConfig`. -/
def tryParse (json : Bytes) : Option Config :=
  match JsonParser.parse json with
  | some (.object object) => some (ofObject object)
  | _ => none

/-! ### Writing -/

/-- A natural number in plain decimal. -/
def decimal (n : Nat) : Bytes :=
  if n < 10 then [UInt8.ofNat (0x30 + n)] else decimal (n / 10) ++ [UInt8.ofNat (0x30 + n % 10)]
termination_by n
decreasing_by omega

/-- An integer in plain decimal. -/
def decimalInt (n : Int) : Bytes := (if n < 0 then [0x2D] else []) ++ decimal n.natAbs

/-- `hex`. -/
def hexDigit (n : UInt8) : UInt8 := if n < 10 then 0x30 + n else 0x61 + (n - 10)

/-- What `EscapeJson` writes for a byte. -/
def escapeByte (c : UInt8) : Bytes :=
  if c = 0x22 then ascii "\\\""
  else if c = 0x5C then ascii "\\\\"
  else if c = 0x08 then ascii "\\b"
  else if c = 0x0C then ascii "\\f"
  else if c = 0x0A then ascii "\\n"
  else if c = 0x0D then ascii "\\r"
  else if c = 0x09 then ascii "\\t"
  else if c < 0x20 then ascii "\\u00" ++ [hexDigit (c >>> 4), hexDigit (c &&& 15)]
  else [c]

/-- `EscapeJson`. -/
def escapeJson (value : Bytes) : Bytes := value.flatMap escapeByte

/-- `"true"` or `"false"`. -/
def boolText (b : Bool) : Bytes := if b then ascii "true" else ascii "false"

/-- One turn of the loop of `Serialize` over the devices. -/
def deviceText (i : Nat) (d : DeviceConfig) : Bytes :=
  (if i = 0 then ascii "\n" else ascii ",\n") ++ (ascii "    \x7b\"id\":\"" ++ (escapeJson d.id ++
  (ascii "\",\"name\":\"" ++ (escapeJson d.name ++
  (ascii "\",\"lastIpv4\":\"" ++ (escapeJson d.lastIpv4 ++
  (ascii "\",\"bonjourHost\":\"" ++ (escapeJson d.bonjourHost ++
  (ascii "\",\"port\":" ++ (decimal d.port.toNat ++
  (ascii ",\"preferredTransport\":\"" ++ (escapeJson d.preferredTransport ++
  (ascii "\",\"priority\":" ++ (decimal i ++
  (ascii ",\"autoConnect\":" ++ (boolText d.autoConnect ++
  (ascii ",\"lastSeen\":" ++ (decimalInt d.lastSeen.toInt ++
  (ascii ",\"macHint\":\"" ++ (escapeJson d.macHint ++ ascii "\"\x7d"))))))))))))))))))))

/-- The loop of `Serialize` over the devices, from index `i` on. -/
def devicesText (i : Nat) : List DeviceConfig → Bytes
  | [] => []
  | d :: devices => deviceText i d ++ devicesText (i + 1) devices

/-- What `Serialize` writes behind the devices. -/
def settingsText (c : Config) : Bytes :=
  ascii "  ],\n  \"port\": " ++ (decimal c.port.toNat ++
  (ascii ",\n  \"autoReconnect\": " ++ (boolText c.autoReconnect ++
  (ascii ",\n  \"fps\": " ++ (decimal c.fps.toNat ++
  (ascii ",\n  \"bitrateMbps\": " ++ (decimal c.bitrateMbps.toNat ++
  (ascii ",\n  \"streamProfile\": " ++ (decimal c.streamProfile.toNat ++
  (ascii ",\n  \"requirePrivateNetwork\": " ++ (boolText c.requirePrivateNetwork ++
  (ascii ",\n  \"showLauncher\": " ++ (boolText c.showLauncher ++
  (ascii ",\n  \"launcherMode\": " ++ (decimal c.launcherMode.toNat ++
  (ascii ",\n  \"darkTheme\": " ++ (boolText c.darkTheme ++
  (ascii ",\n  \"taskbarRouting\": " ++ (boolText c.taskbarRouting ++
  (ascii ",\n  \"preferredDeviceId\": \"" ++ (escapeJson c.preferredDeviceId ++
  (ascii "\",\n  \"lastConnectionTransport\": \"" ++ (escapeJson c.lastConnectionTransport ++
  (ascii "\",\n  \"lastWifiAddress\": \"" ++ (escapeJson c.lastWifiAddress ++
  (ascii "\",\n  \"lastUsbTarget\": \"" ++ (escapeJson c.lastUsbTarget ++
    ascii "\"\n\x7d\n")))))))))))))))))))))))))))

/-- `Serialize`. -/
def serialize (c : Config) : Bytes :=
  ascii "\x7b\n  \"version\": " ++ (decimal currentVersion.toNat ++ (ascii ",\n  \"devices\": [" ++
    (devicesText 0 c.devices ++ ((if c.devices = [] then [] else ascii "\n") ++ settingsText c))))

end Config

end SecondDisplay
