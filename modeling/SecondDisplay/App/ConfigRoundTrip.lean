import SecondDisplay.App.JsonParse
import SecondDisplay.App.Config
import SecondDisplay.Library.KeepFirst

/-!
# A configuration survives its file

`Serialize` writes the text of a JSON tree, `configValue c` (`serialize_eq`); so the parser reads
that tree back, and what `TryParseConfig` makes of it is the configuration again, provided it is
in the normal form that clamping, sorting and de-duplication leave alone (`tryParse_serialize`).
-/

namespace SecondDisplay.Config

open SecondDisplay.JsonText SecondDisplay.JsonParser

/-! ### Strings -/

theorem escapeDigits_ok : ∀ c : UInt8, (isHexDigit 0x30 && isHexDigit 0x30 &&
    isHexDigit (hexDigit (c >>> 4)) && isHexDigit (hexDigit (c &&& 15))) = true := by
  decide +kernel

/-- The item that `EscapeJson` writes for a byte. -/
def escapeItem (c : UInt8) : StringItem :=
  if h : isPlain c = true then .plain c h
  else if c = 0x22 then .short 0x22 rfl
  else if c = 0x5C then .short 0x5C rfl
  else if c = 0x08 then .short 0x62 rfl
  else if c = 0x0C then .short 0x66 rfl
  else if c = 0x0A then .short 0x6E rfl
  else if c = 0x0D then .short 0x72 rfl
  else if c = 0x09 then .short 0x74 rfl
  else .unicode 0x30 0x30 (hexDigit (c >>> 4)) (hexDigit (c &&& 15)) (escapeDigits_ok c)

theorem escapeItem_render : ∀ c, (escapeItem c).render = escapeByte c := by
  decide +kernel

theorem escapeItem_decode : ∀ c, (escapeItem c).decode = [c] := by
  decide +kernel

/-- The string literal that `Serialize` writes. -/
def escapeText (s : Bytes) : StringText := s.map escapeItem

theorem escapeText_raw (s : Bytes) : StringText.raw (escapeText s) = escapeJson s := by
  simp only [escapeText, StringText.raw, escapeJson, List.flatMap_map, escapeItem_render]

/-- **Escaping loses nothing**, whatever the bytes. -/
theorem escapeText_decode (s : Bytes) : StringText.decode (escapeText s) = s := by
  simp only [escapeText, StringText.decode, List.flatMap_map, escapeItem_decode]
  exact List.flatMap_singleton' s

/-! ### Numbers -/

theorem decimalByte : ∀ d, d < 10 →
    isDigit (UInt8.ofNat (0x30 + d)) = true ∧ (UInt8.ofNat (0x30 + d)).toNat - 0x30 = d := by
  decide

theorem decimal_all_digits (n : Nat) : ∀ b ∈ decimal n, isDigit b = true := by
  fun_induction decimal n with
  | case1 n hn =>
    intro b hb
    rw [List.mem_singleton] at hb
    rw [hb]
    exact (decimalByte n hn).1
  | case2 n hn ih =>
    intro b hb
    rw [List.mem_append, List.mem_singleton] at hb
    obtain hb | rfl := hb
    · exact ih b hb
    · exact (decimalByte (n % 10) (by omega)).1

theorem decimal_ne_nil (n : Nat) : decimal n ≠ [] := by
  rw [decimal]
  split <;> simp

theorem decimal_head (n : Nat) (hn : 0 < n) : (decimal n).head? ≠ some 0x30 := by
  fun_induction decimal n with
  | case1 n hlt =>
    rw [List.head?_cons, Ne, Option.some.injEq]
    intro heq
    have hval := (decimalByte n hlt).2
    rw [heq] at hval
    simp at hval
    omega
  | case2 n hge ih =>
    rw [List.head?_append_of_ne_nil _ (decimal_ne_nil _)]
    exact ih (by omega)

theorem digitsValue_decimal (n : Nat) : digitsValue (decimal n) = n := by
  fun_induction decimal n with
  | case1 n hn =>
    rw [digitsValue, List.foldl_cons, List.foldl_nil, (decimalByte n hn).2]
    omega
  | case2 n hn ih =>
    unfold digitsValue at ih ⊢
    rw [List.foldl_append, ih, List.foldl_cons, List.foldl_nil,
      (decimalByte (n % 10) (by omega)).2]
    omega

/-- The number that `Serialize` writes for an integer. -/
def decimalText (n : Int) : NumberText where
  negative := n < 0
  whole := ⟨decimal n.natAbs, decimal_ne_nil _, List.all_eq_true.2 (decimal_all_digits _)⟩
  no_leading_zero := by
    intro hzero
    by_cases hn : 0 < n.natAbs
    · exact absurd hzero (decimal_head n.natAbs hn)
    · rw [show n.natAbs = 0 by omega]
      decide +kernel
  fraction := none
  exponent := none

theorem decimalText_render (n : Int) : (decimalText n).render = decimalInt n := by
  simp [NumberText.render, decimalText, decimalInt]

theorem decimalInt_nat (n : Nat) : decimalInt n = decimal n := by
  rw [decimalInt, if_neg (by omega)]
  rfl

/-- **Numbers come back**, if 64 bits hold them. -/
theorem decimalText_json {n : Int} (hlow : Int64.minValue.toInt ≤ n)
    (hhigh : n ≤ Int64.maxValue.toInt) :
    (decimalText n).json = some (.number (Int64.ofInt n)) := by
  have hvalue : (if decide (n < 0) = true then -(digitsValue (decimal n.natAbs) : Int)
      else digitsValue (decimal n.natAbs)) = n := by
    rw [digitsValue_decimal]
    split
    · rename_i hneg
      have hneg : n < 0 := of_decide_eq_true hneg
      omega
    · rename_i hpos
      have hpos : ¬ n < 0 := fun h => hpos (decide_eq_true h)
      omega
  show (fromChars (decide (n < 0)) (decimal n.natAbs)).map Json.number = _
  rw [fromChars, hvalue, if_pos ⟨hlow, hhigh⟩]
  rfl

/-! ### The tree that is written -/

/-- Whitespace written as a literal. -/
def blank (s : String) (h : (ascii s).all isWs = true := by decide) : Ws := ⟨ascii s, h⟩

/-- A string value. -/
def textValue (s : Bytes) : Value := .string (escapeText s)

/-- An integer value. -/
def intValue (n : Int) : Value := .number (decimalText n)

/-- A member of a device. -/
def deviceMember (key : String) (value : Value) (rest : Members) : Members :=
  .cons .none (escapeText (ascii key)) .none .none value .none rest

/-- A member of the root, on a line of its own. -/
def rootMember (key : String) (value : Value) (rest : Members) : Members :=
  .cons (blank "\n  ") (escapeText (ascii key)) .none (blank " ") value .none rest

/-- The object of a device. -/
def deviceValue (i : Nat) (d : DeviceConfig) : Value :=
  .object .none (deviceMember "id" (textValue d.id) (deviceMember "name" (textValue d.name)
    (deviceMember "lastIpv4" (textValue d.lastIpv4)
    (deviceMember "bonjourHost" (textValue d.bonjourHost)
    (deviceMember "port" (intValue d.port.toNat)
    (deviceMember "preferredTransport" (textValue d.preferredTransport)
    (deviceMember "priority" (intValue i) (deviceMember "autoConnect" (.bool d.autoConnect)
    (deviceMember "lastSeen" (intValue d.lastSeen.toInt)
    (deviceMember "macHint" (textValue d.macHint) .nil))))))))))

/-- The elements of the `devices` array, from index `i` on. -/
def deviceElements (i : Nat) : List DeviceConfig → Elements
  | [] => .nil
  | [d] => .cons (blank "\n    ") (deviceValue i d) (blank "\n  ") .nil
  | d :: devices => .cons (blank "\n    ") (deviceValue i d) .none (deviceElements (i + 1) devices)

/-- The value of the file. -/
def configValue (c : Config) : Value :=
  .object .none (rootMember "version" (intValue currentVersion.toNat)
    (rootMember "devices" (.array (if c.devices = [] then blank "  " else .none)
      (deviceElements 0 c.devices))
    (rootMember "port" (intValue c.port.toNat) (rootMember "autoReconnect" (.bool c.autoReconnect)
    (rootMember "fps" (intValue c.fps.toNat)
    (rootMember "bitrateMbps" (intValue c.bitrateMbps.toNat)
    (rootMember "streamProfile" (intValue c.streamProfile.toNat)
    (rootMember "requirePrivateNetwork" (.bool c.requirePrivateNetwork)
    (rootMember "showLauncher" (.bool c.showLauncher)
    (rootMember "launcherMode" (intValue c.launcherMode.toNat)
    (rootMember "darkTheme" (.bool c.darkTheme)
    (rootMember "taskbarRouting" (.bool c.taskbarRouting)
    (rootMember "preferredDeviceId" (textValue c.preferredDeviceId)
    (rootMember "lastConnectionTransport" (textValue c.lastConnectionTransport)
    (rootMember "lastWifiAddress" (textValue c.lastWifiAddress)
    (.cons (blank "\n  ") (escapeText (ascii "lastUsbTarget")) .none (blank " ")
      (textValue c.lastUsbTarget) (blank "\n") .nil))))))))))))))))

theorem textValue_render (s : Bytes) : (textValue s).render = 0x22 :: (escapeJson s ++ [0x22]) := by
  rw [textValue, Value.render, StringText.render, escapeText_raw]
  rfl

theorem intValue_render (n : Int) : (intValue n).render = decimalInt n := by
  rw [intValue, Value.render, decimalText_render]

theorem boolValue_render (b : Bool) : (Value.bool b).render = boolText b := by
  cases b <;> rfl

theorem object_render (gap : Ws) (members : Members) :
    (Value.object gap members).render = 0x7B :: (gap.bytes ++ (members.render ++ [0x7D])) := by
  rw [Value.render, List.append_assoc]

theorem array_render (gap : Ws) (elements : Elements) :
    (Value.array gap elements).render = 0x5B :: (gap.bytes ++ (elements.render ++ [0x5D])) := by
  rw [Value.render, List.append_assoc]

set_option maxRecDepth 4000 in
theorem deviceValue_render (i : Nat) (d : DeviceConfig) :
    (if i = 0 then [] else [0x2C]) ++ (blank "\n    ").bytes ++ (deviceValue i d).render =
      deviceText i d := by
  have hfirst : (if i = 0 then ascii "\n" else ascii ",\n") =
      (if i = 0 then [] else [0x2C]) ++ ascii "\n" := by
    split <;> rfl
  simp only [deviceValue, deviceText, deviceMember, object_render, Members.render,
    Members.separator, textValue_render, intValue_render, decimalInt_nat, boolValue_render,
    hfirst, List.append_assoc, List.cons_append, List.nil_append]
  rfl

/-- The text of the devices, with the line break that follows the last one. -/
theorem deviceElements_render (i : Nat) (devices : List DeviceConfig) (hne : devices ≠ []) :
    (if i = 0 then [] else [0x2C]) ++ (deviceElements i devices).render =
      devicesText i devices ++ (blank "\n  ").bytes := by
  induction devices generalizing i with
  | nil => exact absurd rfl hne
  | cons d devices ih =>
    cases devices with
    | nil =>
      simp only [deviceElements, Elements.render, Elements.separator, devicesText,
        ← deviceValue_render, List.append_assoc, List.append_nil]
    | cons d' devices =>
      have hmore := ih (i + 1) (by simp)
      rw [if_neg (Nat.succ_ne_zero i)] at hmore
      have hcomma : (deviceElements (i + 1) (d' :: devices)).separator = [0x2C] := by
        cases devices <;> rfl
      rw [devicesText, List.append_assoc, ← hmore, ← deviceValue_render, deviceElements,
        Elements.render, hcomma]
      · simp only [List.append_assoc, Ws.none, List.nil_append]
      · simp

set_option maxRecDepth 8000 in
/-- **`Serialize` writes a JSON text.** -/
theorem serialize_eq (c : Config) :
    (Text.mk .none (configValue c) (blank "\n")).render = serialize c := by
  have hdevices : (Value.array (if c.devices = [] then blank "  " else .none)
      (deviceElements 0 c.devices)).render =
      0x5B :: (devicesText 0 c.devices ++ ((if c.devices = [] then [] else ascii "\n") ++
        ascii "  ]")) := by
    by_cases hnil : c.devices = []
    · rw [if_pos hnil, if_pos hnil, hnil]
      rfl
    · have h := deviceElements_render 0 c.devices hnil
      rw [if_pos rfl, List.nil_append] at h
      rw [if_neg hnil, if_neg hnil, array_render, h, List.append_assoc]
      rfl
  simp only [Text.render, configValue, rootMember, object_render, Members.render,
    Members.separator, textValue_render, intValue_render, decimalInt_nat, boolValue_render,
    hdevices, serialize, settingsText, List.append_assoc, List.cons_append, List.nil_append]
  rfl

/-! ### The tree that is read back -/

open Json (field assignAll field_assignAll_of_mem)

theorem textValue_json (s : Bytes) : (textValue s).json = some (.string s) := by
  rw [textValue, Value.json, escapeText_decode]

theorem intValue_json {n : Int} (hlow : Int64.minValue.toInt ≤ n)
    (hhigh : n ≤ Int64.maxValue.toInt) :
    (intValue n).json = some (.number (Int64.ofInt n)) :=
  decimalText_json hlow hhigh

theorem natValue_json {n : Nat} (h : n < 2 ^ 63) :
    (intValue n).json = some (.number (Int64.ofInt n)) := by
  have hmin : Int64.minValue.toInt = -9223372036854775808 := rfl
  have hmax : Int64.maxValue.toInt = 9223372036854775807 := rfl
  exact intValue_json (by omega) (by omega)

theorem lastSeen_json (n : Int64) : (intValue n.toInt).json = some (.number n) := by
  rw [intValue_json (Int64.le_toInt n) (Int64.toInt_le n), Int64.ofInt_toInt]

/-- The members of a device that are read back. -/
def deviceFields (i : Nat) (d : DeviceConfig) : List (Bytes × Json) :=
  [(ascii "id", .string d.id), (ascii "name", .string d.name),
    (ascii "lastIpv4", .string d.lastIpv4), (ascii "bonjourHost", .string d.bonjourHost),
    (ascii "port", .number (Int64.ofInt d.port.toNat)),
    (ascii "preferredTransport", .string d.preferredTransport),
    (ascii "priority", .number (Int64.ofInt i)), (ascii "autoConnect", .bool d.autoConnect),
    (ascii "lastSeen", .number d.lastSeen), (ascii "macHint", .string d.macHint)]

/-- The object of a device that is read back. -/
def deviceObject (i : Nat) (d : DeviceConfig) : Json.Object := assignAll (deviceFields i d) []

theorem deviceValue_json {i : Nat} (hi : i < 2 ^ 63) (d : DeviceConfig) :
    (deviceValue i d).json = some (.object (deviceObject i d)) := by
  have hport : d.port.toNat < 2 ^ 63 := Nat.lt_trans d.port.toNat_lt (by decide)
  simp only [deviceValue, deviceMember, Value.json, Members.json, textValue_json,
    natValue_json hport, natValue_json hi, lastSeen_json, escapeText_decode, Option.map_some,
    deviceObject, deviceFields, assignAll, List.foldl_cons, List.foldl_nil]

/-- The `devices` array that is read back, from index `i` on. -/
def deviceObjects (i : Nat) : List DeviceConfig → List Json
  | [] => []
  | d :: devices => .object (deviceObject i d) :: deviceObjects (i + 1) devices

theorem deviceElements_json (i : Nat) (devices : List DeviceConfig)
    (hlen : i + devices.length ≤ 2 ^ 63) (array : List Json) :
    (deviceElements i devices).json array = some (array ++ deviceObjects i devices) := by
  induction devices generalizing i array with
  | nil => rw [deviceElements, Elements.json, deviceObjects, List.append_nil]
  | cons d devices ih =>
    rw [List.length_cons] at hlen
    have hvalue := deviceValue_json (show i < 2 ^ 63 by omega) d
    cases devices with
    | nil => simp only [deviceElements, Elements.json, hvalue, deviceObjects]
    | cons d' devices =>
      have hmore := ih (i + 1) (by omega) (array ++ [.object (deviceObject i d)])
      rw [deviceElements, Elements.json, hvalue]
      · simp only [hmore, deviceObjects, List.append_assoc, List.singleton_append]
      · simp

/-- The members of the file that are read back. -/
def rootFields (c : Config) : List (Bytes × Json) :=
  [(ascii "version", .number (Int64.ofInt currentVersion.toNat)),
    (ascii "devices", .array (deviceObjects 0 c.devices)),
    (ascii "port", .number (Int64.ofInt c.port.toNat)),
    (ascii "autoReconnect", .bool c.autoReconnect),
    (ascii "fps", .number (Int64.ofInt c.fps.toNat)),
    (ascii "bitrateMbps", .number (Int64.ofInt c.bitrateMbps.toNat)),
    (ascii "streamProfile", .number (Int64.ofInt c.streamProfile.toNat)),
    (ascii "requirePrivateNetwork", .bool c.requirePrivateNetwork),
    (ascii "showLauncher", .bool c.showLauncher),
    (ascii "launcherMode", .number (Int64.ofInt c.launcherMode.toNat)),
    (ascii "darkTheme", .bool c.darkTheme), (ascii "taskbarRouting", .bool c.taskbarRouting),
    (ascii "preferredDeviceId", .string c.preferredDeviceId),
    (ascii "lastConnectionTransport", .string c.lastConnectionTransport),
    (ascii "lastWifiAddress", .string c.lastWifiAddress),
    (ascii "lastUsbTarget", .string c.lastUsbTarget)]

/-- The object of the file that is read back. -/
def rootObject (c : Config) : Json.Object := assignAll (rootFields c) []

theorem configValue_json (c : Config) (hlen : c.devices.length ≤ 2 ^ 63) :
    (configValue c).json = some (.object (rootObject c)) := by
  have hversion : currentVersion.toNat < 2 ^ 63 := by decide
  have hport : c.port.toNat < 2 ^ 63 := Nat.lt_trans c.port.toNat_lt (by decide)
  have hfps : c.fps.toNat < 2 ^ 63 := Nat.lt_trans c.fps.toNat_lt (by decide)
  have hbitrate : c.bitrateMbps.toNat < 2 ^ 63 := Nat.lt_trans c.bitrateMbps.toNat_lt (by decide)
  have hprofile : c.streamProfile.toNat < 2 ^ 63 := by cases c.streamProfile <;> decide
  have hmode : c.launcherMode.toNat < 2 ^ 63 := by cases c.launcherMode <;> decide
  have hdevices := deviceElements_json 0 c.devices (by omega) []
  simp only [configValue, rootMember, Value.json, Members.json, textValue_json, hdevices,
    natValue_json hversion, natValue_json hport, natValue_json hfps, natValue_json hbitrate,
    natValue_json hprofile, natValue_json hmode, escapeText_decode, Option.map_some,
    List.nil_append, rootObject, rootFields, assignAll, List.foldl_cons, List.foldl_nil]

/-- **The parser reads back** the tree that `Serialize` wrote. -/
theorem parse_serialize (c : Config) (hlen : c.devices.length ≤ 2 ^ 63) :
    parse (serialize c) = some (.object (rootObject c)) := by
  rw [← serialize_eq]
  exact parse_render _ (configValue_json c hlen)

/-! ### The fields that are read back -/

/-- The keys of a device. -/
def deviceKeys : List Bytes :=
  [ascii "id", ascii "name", ascii "lastIpv4", ascii "bonjourHost", ascii "port",
    ascii "preferredTransport", ascii "priority", ascii "autoConnect", ascii "lastSeen",
    ascii "macHint"]

/-- The keys of the file. -/
def rootKeys : List Bytes :=
  [ascii "version", ascii "devices", ascii "port", ascii "autoReconnect", ascii "fps",
    ascii "bitrateMbps", ascii "streamProfile", ascii "requirePrivateNetwork",
    ascii "showLauncher", ascii "launcherMode", ascii "darkTheme", ascii "taskbarRouting",
    ascii "preferredDeviceId", ascii "lastConnectionTransport", ascii "lastWifiAddress",
    ascii "lastUsbTarget"]

theorem deviceKeys_nodup : deviceKeys.Nodup := by decide +kernel

theorem rootKeys_nodup : rootKeys.Nodup := by decide +kernel

/-- The member of a device at position `k`. -/
theorem device_field {i : Nat} {d : DeviceConfig} {key : Bytes} {value : Json} (k : Nat)
    (h : (deviceFields i d)[k]? = some (key, value)) : field (deviceObject i d) key = some value :=
  field_assignAll_of_mem [] deviceKeys_nodup (List.mem_of_getElem? h)

/-- The member of the file at position `k`. -/
theorem root_field {c : Config} {key : Bytes} {value : Json} (k : Nat)
    (h : (rootFields c)[k]? = some (key, value)) : field (rootObject c) key = some value :=
  field_assignAll_of_mem [] rootKeys_nodup (List.mem_of_getElem? h)

theorem stringField_of {object : Json.Object} {key : String} {s : Bytes}
    (h : field object (ascii key) = some (.string s)) : stringField object key = s := by
  rw [stringField, h]

theorem boolField_of {object : Json.Object} {key : String} {b : Bool}
    (h : field object (ascii key) = some (.bool b)) : boolField object key = some b := by
  rw [boolField, h]

theorem intField_of {object : Json.Object} {key : String} {n : Int64}
    (h : field object (ascii key) = some (.number n)) : intField object key = some n.toInt := by
  rw [intField, h]

/-- A natural number that was written is read as itself. -/
theorem natField_of {object : Json.Object} {key : String} {n : Nat} (hn : n < 2 ^ 63)
    (h : field object (ascii key) = some (.number (Int64.ofInt n))) :
    intField object key = some (n : Int) := by
  rw [intField_of h, Int64.toInt_ofInt_of_le (by omega) (by omega)]

theorem natFieldIn_of {object : Json.Object} {key : String} {n : Nat} {low high : Int}
    (hn : n < 2 ^ 63) (h : field object (ascii key) = some (.number (Int64.ofInt n)))
    (hlow : low ≤ n) (hhigh : n ≤ high) : intFieldIn object key low high = some n := by
  simp only [intFieldIn, natField_of hn h, if_pos (And.intro hlow hhigh), Int.toNat_natCast]

/-- A device that was written is read as itself; a position beyond 32 bits gives way to the number
of devices that were read before it. -/
theorem deviceOf_deviceObject {i : Nat} {d : DeviceConfig} (hi : i < 2 ^ 63)
    (hport : 1 ≤ d.port.toNat) (port : UInt16) (count : Nat) :
    deviceOf port count (deviceObject i d) =
      { d with priority := UInt32.ofNat (if i < 2 ^ 32 then i else count) } := by
  have hlt : d.port.toNat < 2 ^ 16 := d.port.toNat_lt
  have hportField : intFieldIn (deviceObject i d) "port" 1 65535 = some d.port.toNat :=
    natFieldIn_of (by omega) (device_field 4 rfl) (by omega) (by omega)
  have hpriorityField : intFieldIn (deviceObject i d) "priority" 0 (2 ^ 32 - 1) =
      if i < 2 ^ 32 then some i else none := by
    simp only [intFieldIn, natField_of hi (device_field 6 rfl)]
    by_cases hsmall : i < 2 ^ 32
    · rw [if_pos (by omega), if_pos hsmall, Int.toNat_natCast]
    · rw [if_neg (by omega), if_neg hsmall]
  have hpriority : ((if i < 2 ^ 32 then some i else none).map UInt32.ofNat).getD
      (UInt32.ofNat count) = UInt32.ofNat (if i < 2 ^ 32 then i else count) := by
    split <;> rfl
  have hlast : intField (deviceObject i d) "lastSeen" = some d.lastSeen.toInt :=
    intField_of (device_field 8 rfl)
  rw [deviceOf, stringField_of (device_field 0 rfl), stringField_of (device_field 1 rfl),
    stringField_of (device_field 2 rfl), stringField_of (device_field 3 rfl),
    stringField_of (device_field 5 rfl), stringField_of (device_field 9 rfl), hportField,
    hpriorityField, boolField_of (device_field 7 rfl), hlast, hpriority]
  simp

/-- A device that the filter of the `devices` array lets through. -/
def Addressed (d : DeviceConfig) : Prop := d.id ≠ [] ∨ d.lastIpv4 ≠ [] ∨ d.bonjourHost ≠ []

instance decidableAddressed (d : DeviceConfig) : Decidable (Addressed d) :=
  inferInstanceAs (Decidable (_ ∨ _ ∨ _))

/-- The loop over the `devices` array collects the devices that were written. -/
theorem foldl_addDevice (port : UInt16) (devices before : List DeviceConfig)
    (hlen : before.length + devices.length ≤ 2 ^ 63) (hport : ∀ d ∈ devices, 1 ≤ d.port.toNat)
    (hpriority : ∀ (k : Nat) (d : DeviceConfig), devices[k]? = some d →
      d.priority = UInt32.ofNat (before.length + k))
    (haddressed : ∀ d ∈ devices, Addressed d) :
    (deviceObjects before.length devices).foldl (addDevice port) before = before ++ devices := by
  induction devices generalizing before with
  | nil => exact (List.append_nil before).symm
  | cons d devices ih =>
    rw [List.length_cons] at hlen
    have hread := deviceOf_deviceObject (show before.length < 2 ^ 63 by omega)
      (hport d List.mem_cons_self) port before.length
    have hfirst : d.priority = UInt32.ofNat before.length := hpriority 0 d rfl
    have hd : deviceOf port before.length (deviceObject before.length d) = d := by
      rw [hread, ite_self, ← hfirst]
    have hadd : addDevice port before (.object (deviceObject before.length d)) =
        before ++ [d] := by
      rw [addDevice, hd]
      exact if_pos (haddressed d List.mem_cons_self)
    have hlength : (before ++ [d]).length = before.length + 1 := List.length_append
    have hrest := ih (before ++ [d]) (by rw [hlength]; omega)
      (fun x hx => hport x (List.mem_cons_of_mem d hx))
      (fun k x hx => by rw [hpriority (k + 1) x hx, hlength, Nat.add_assoc, Nat.add_comm 1 k])
      (fun x hx => haddressed x (List.mem_cons_of_mem d hx))
    rw [hlength] at hrest
    rw [deviceObjects, List.foldl_cons, hadd, hrest, List.append_assoc]
    rfl

theorem uniqueDevices_keepFirst (devices : List DeviceConfig) :
    uniqueDevices devices = KeepFirst.keepFirst isDuplicate devices := rfl

/-- The priority of every device is its position. -/
def Numbered (devices : List DeviceConfig) : Prop :=
  ∀ (i : Nat) (d : DeviceConfig), devices[i]? = some d → d.priority.toNat = i

/-- Numbered devices keep their priorities. -/
theorem renumber_eq {devices : List DeviceConfig} (h : Numbered devices) :
    renumber devices = devices := by
  apply List.ext_getElem?
  intro i
  rw [renumber, List.getElem?_mapIdx]
  cases hd : devices[i]? with
  | none => rfl
  | some d =>
    rw [Option.map_some, ← h i d hd]
    simp

/-- Numbered devices are sorted. -/
theorem sort_eq {devices : List DeviceConfig} (h : Numbered devices) :
    devices.mergeSort (fun a b => a.priority ≤ b.priority) = devices := by
  apply List.mergeSort_of_pairwise
  rw [List.pairwise_iff_getElem]
  intro i j hi hj hij
  have h1 := h i _ (List.getElem?_eq_getElem hi)
  have h2 := h j _ (List.getElem?_eq_getElem hj)
  rw [decide_eq_true_eq, UInt32.le_iff_toNat_le, h1, h2]
  omega

/-! ### Round trip -/

/-- What clamping, sorting and de-duplication leave alone. -/
structure NormalForm (c : Config) : Prop where
  version : c.version = currentVersion
  port_pos : 1 ≤ c.port.toNat
  few_devices : c.devices.length < 2 ^ 32
  device_port : ∀ d ∈ c.devices, 1 ≤ d.port.toNat
  numbered : Numbered c.devices
  addressed : ∀ d ∈ c.devices, d.id ≠ [] ∨ d.lastIpv4 ≠ [] ∨ d.bonjourHost ≠ []
  ids_distinct : c.devices.Pairwise fun a b => a.id ≠ [] → a.id ≠ b.id
  addresses_distinct : c.devices.Pairwise fun a b => a.id = [] → b.id = [] → a.lastIpv4 ≠ [] →
    ¬ (a.lastIpv4 = b.lastIpv4 ∧ a.port = b.port)
  fps : 30 ≤ c.fps.toNat ∧ c.fps.toNat ≤ 120
  bitrateMbps : 5 ≤ c.bitrateMbps.toNat ∧ c.bitrateMbps.toNat ≤ 100
  launcher : c.showLauncher = true ↔ c.launcherMode ≠ .hidden

theorem NormalForm.no_duplicate {c : Config} (h : NormalForm c) :
    c.devices.Pairwise fun a b => isDuplicate b a = false := by
  refine (h.ids_distinct.and h.addresses_distinct).imp fun {a b} hab => ?_
  obtain ⟨hids, haddresses⟩ := hab
  simp only [isDuplicate, Bool.or_eq_false_iff, Bool.and_eq_false_iff, decide_eq_false_iff_not,
    beq_eq_false_iff_ne]
  by_cases ha : a.id = []
  · by_cases hb : b.id = []
    · refine ⟨Or.inl (by simp [hb]), ?_⟩
      by_cases hip : a.lastIpv4 = b.lastIpv4
      · by_cases hport : a.port = b.port
        · have hempty : a.lastIpv4 = [] := by
            by_contra hne
            exact haddresses ha hb hne ⟨hip, hport⟩
          exact Or.inl (Or.inl (Or.inr (by rw [← hip, hempty]; simp)))
        · exact Or.inr fun heq => hport heq.symm
      · exact Or.inl (Or.inr fun heq => hip heq.symm)
    · exact ⟨Or.inr fun heq => hb (heq.trans ha), Or.inl (Or.inl (Or.inl (Or.inl hb)))⟩
  · exact ⟨Or.inr fun heq => hids ha heq.symm, Or.inl (Or.inl (Or.inl (Or.inr ha)))⟩

/-- The devices of the text that was written, before they are sorted. -/
theorem parsedDevices_rootObject (c : Config) (port : UInt16) :
    parsedDevices (rootObject c) port = (deviceObjects 0 c.devices).foldl (addDevice port) [] := by
  have hip : stringField (rootObject c) "ip" = [] := by
    rw [stringField, show field (rootObject c) (ascii "ip") = none from
      Json.field_assignAll_of_notMem [] (show ascii "ip" ∉ rootKeys by decide +kernel)]
  have hdevices : field (rootObject c) (ascii "devices") =
      some (.array (deviceObjects 0 c.devices)) := root_field 1 rfl
  simp only [parsedDevices, hip, hdevices]
  simp

/-- What clamping leaves alone, devices apart. -/
structure NormalSettings (c : Config) : Prop where
  version : c.version = currentVersion
  port_pos : 1 ≤ c.port.toNat
  fps : 30 ≤ c.fps.toNat ∧ c.fps.toNat ≤ 120
  bitrateMbps : 5 ≤ c.bitrateMbps.toNat ∧ c.bitrateMbps.toNat ≤ 100
  launcher : c.showLauncher = true ↔ c.launcherMode ≠ .hidden

theorem NormalForm.settings {c : Config} (h : NormalForm c) : NormalSettings c :=
  ⟨h.version, h.port_pos, h.fps, h.bitrateMbps, h.launcher⟩

/-- The settings of the object that was written are the settings. -/
theorem ofObject_settings {c : Config} (h : NormalSettings c) :
    ofObject (rootObject c) =
      { c with
        devices := renumber (uniqueDevices ((parsedDevices (rootObject c) c.port).mergeSort
          fun a b => a.priority ≤ b.priority)) } := by
  have hportLt : c.port.toNat < 2 ^ 16 := c.port.toNat_lt
  have hfpsBounds := h.fps
  have hbitrateBounds := h.bitrateMbps
  have hport : intFieldIn (rootObject c) "port" 1 65535 = some c.port.toNat :=
    natFieldIn_of (by omega) (root_field 2 rfl) (by have := h.port_pos; omega) (by omega)
  have hfps : intFieldIn (rootObject c) "fps" 30 120 = some c.fps.toNat :=
    natFieldIn_of (by omega) (root_field 4 rfl) (by omega) (by omega)
  have hbitrate : intFieldIn (rootObject c) "bitrateMbps" 5 100 = some c.bitrateMbps.toNat :=
    natFieldIn_of (by omega) (root_field 5 rfl) (by omega) (by omega)
  have hprofile : (intField (rootObject c) "streamProfile").bind StreamProfile.ofInt =
      some c.streamProfile := by
    rw [natField_of (by cases c.streamProfile <;> decide) (root_field 6 rfl)]
    cases c.streamProfile <;> rfl
  have hmode : (intField (rootObject c) "launcherMode").bind LauncherMode.ofInt =
      some c.launcherMode := by
    rw [natField_of (by cases c.launcherMode <;> decide) (root_field 9 rfl)]
    cases c.launcherMode <;> rfl
  have hshow : decide (c.launcherMode ≠ .hidden) = c.showLauncher := by
    rw [Bool.eq_iff_iff, decide_eq_true_eq]
    exact h.launcher.symm
  simp only [ofObject, hport, hfps, hbitrate, hprofile, hmode, hshow, Option.map_some,
    Option.getD_some, UInt16.ofNat_toNat, UInt32.ofNat_toNat,
    boolField_of (root_field (c := c) 3 rfl), boolField_of (root_field (c := c) 7 rfl),
    boolField_of (root_field (c := c) 10 rfl), boolField_of (root_field (c := c) 11 rfl),
    stringField_of (root_field (c := c) 12 rfl), stringField_of (root_field (c := c) 13 rfl),
    stringField_of (root_field (c := c) 14 rfl), stringField_of (root_field (c := c) 15 rfl),
    ← h.version]

/-- The configuration of the object that was written is the configuration. -/
theorem ofObject_rootObject {c : Config} (h : NormalForm c) : ofObject (rootObject c) = c := by
  have hfew := h.few_devices
  have hnumbered : ∀ (k : Nat) (d : DeviceConfig), c.devices[k]? = some d →
      d.priority = UInt32.ofNat (0 + k) := by
    intro k d hd
    rw [Nat.zero_add, ← h.numbered k d hd, UInt32.ofNat_toNat]
  have hfold : (deviceObjects 0 c.devices).foldl (addDevice c.port) [] = c.devices :=
    foldl_addDevice c.port c.devices [] (show 0 + c.devices.length ≤ 2 ^ 63 by omega) h.device_port
      hnumbered h.addressed
  have hdevices : renumber (uniqueDevices ((parsedDevices (rootObject c) c.port).mergeSort
      fun a b => a.priority ≤ b.priority)) = c.devices := by
    rw [parsedDevices_rootObject, hfold, sort_eq h.numbered, uniqueDevices_keepFirst,
      KeepFirst.keepFirst_eq h.no_duplicate, renumber_eq h.numbered]
  rw [ofObject_settings h.settings, hdevices]

/-- **Round trip of the configuration file.**  What `Serialize` writes for a configuration in
normal form, `TryParseConfig` reads back as that configuration, field by field and device by
device, whatever bytes its strings hold. -/
theorem tryParse_serialize (c : Config) (h : NormalForm c) : tryParse (serialize c) = some c := by
  have hfew := h.few_devices
  rw [tryParse, parse_serialize c (by omega)]
  exact congrArg some (ofObject_rootObject h)

/-- Two devices, one known by an id with a quote and a backslash, one by its address, with control
bytes in its name. -/
theorem tryParse_serialize_quoted :
    let c : Config :=
      { devices := [{ id := ascii "install-\"id\\path", lastSeen := -1 },
          { lastIpv4 := ascii "192.168.1.9", name := [0, 10, 0x22, 0xE4], priority := 1 }]
        fps := 90 }
    NormalForm c ∧ tryParse (serialize c) = some c := by
  intro c
  have h : NormalForm c :=
    { version := rfl
      port_pos := by decide
      few_devices := by decide
      device_port := by decide
      numbered := fun i d hd => by
        match i, hd with
        | 0, hd => cases hd; rfl
        | 1, hd => cases hd; rfl
        | i + 2, hd => cases hd
      addressed := by decide
      ids_distinct := by decide
      addresses_distinct := by decide
      fps := by decide
      bitrateMbps := by decide
      launcher := by decide }
  exact ⟨h, tryParse_serialize c h⟩

end SecondDisplay.Config
