import SecondDisplay.App.Config
import SecondDisplay.Library.Encoding

/-!
# The device box of the panel (`app/UiModel.cpp`)

The panel shows one line for each device, its endpoint and its name, and reads the lines back when
the user saves.  A line is cut at its first blank; there is no escaping.  The box holds UTF-16, the
configuration UTF-8: the two conversions are functions of Windows, of which only what it documents
about well-formed text is used (`TextConversion`).
-/

namespace SecondDisplay

open Encoding

/-- `MultiByteToWideChar` and `WideCharToMultiByte` with `CP_UTF8`. -/
structure TextConversion where
  widen : Bytes → List UInt16
  narrow : List UInt16 → Bytes
  widen_utf8 : ∀ cs, widen (utf8 cs) = utf16 cs
  narrow_utf16 : ∀ cs, narrow (utf16 cs) = utf8 cs

namespace UiModel

/-! ### Writing -/

/-- `endpoint` of `DeviceEntryText`. -/
def endpoint (device : DeviceConfig) : Bytes :=
  if device.lastIpv4 ≠ [] then device.lastIpv4 else device.bonjourHost

/-- `line` of `DeviceEntryText`. -/
def entryLine (device : DeviceConfig) : Bytes :=
  let line :=
    if device.name ≠ [] ∧ device.name ≠ endpoint device then
      endpoint device ++ 0x20 :: device.name
    else endpoint device
  if line = [] then device.id else line

/-- `DeviceEntryText`. -/
def deviceEntryText (conversion : TextConversion) (device : DeviceConfig) : List UInt16 :=
  conversion.widen (entryLine device)

/-- The loop of `SyncPanelSettingsFromConfig` over the devices. -/
def devicesText (conversion : TextConversion) (devices : List DeviceConfig) : List UInt16 :=
  devices.foldl (fun text device =>
    (if text ≠ [] then text ++ [0x0D, 0x0A] else text) ++ deviceEntryText conversion device) []

/-! ### Reading -/

/-- `L"\r\n"`, either of them. -/
def isLineBreak (unit : UInt16) : Bool := unit == 0x0D || unit == 0x0A

/-- `L" \t"`, either of them. -/
def isWideBlank (unit : UInt16) : Bool := unit == 0x20 || unit == 0x09

/-- A device read before has the address. -/
def known (devices : List DeviceConfig) (address : Bytes) : Bool :=
  devices.any fun existing => decide (existing.lastIpv4 = address) ||
    (decide (existing.bonjourHost ≠ []) && decide (existing.bonjourHost = address))

/-- One turn of the loop of `ParseDeviceEntriesText`. -/
def parseLine (conversion : TextConversion) (defaultPort : UInt16) (devices : List DeviceConfig)
    (line : List UInt16) : List DeviceConfig :=
  let trimmed := (line.dropWhile isWideBlank).rdropWhile isWideBlank
  if trimmed = [] then devices
  else
    let device := conversion.narrow trimmed
    let address := device.takeWhile fun b => !Config.isBlank b
    if address ≠ [] ∧ known devices address = false then
      let name := (device.dropWhile fun b => !Config.isBlank b).dropWhile Config.isBlank
      devices ++ [{
        lastIpv4 := address
        port := defaultPort
        priority := UInt32.ofNat devices.length
        name := if name = [] then address else name }]
    else devices

/-- `ParseDeviceEntriesText`. -/
def parseDeviceEntriesText (conversion : TextConversion) (text : List UInt16)
    (defaultPort : UInt16) : List DeviceConfig :=
  (text.splitOnP isLineBreak).foldl (parseLine conversion defaultPort) []

end UiModel

end SecondDisplay
