import SecondDisplay.App.Json
import SecondDisplay.Library.Search
import Mathlib.Data.List.DropRight

/-!
# Devices on the cable (`net/UsbMux.cpp`)

`ListUsbMuxDevices` asks Apple's service for its list of devices and searches the answer, a property
list as text, for the keys it needs: from each serial number back to the message that holds it, and
from there forwards to the number of the device and to the type of its connection.
-/

namespace SecondDisplay

/-- `UsbMuxDevice`. -/
structure UsbMuxDevice where
  deviceId : UInt32 := 0
  udid : Bytes
  deriving DecidableEq

/-- `MakeUsbMuxTarget`. -/
def makeUsbMuxTarget (udid : Bytes) : Bytes := ascii "usb:" ++ udid

/-- `IsUsbMuxTarget`. -/
def isUsbMuxTarget (target : Bytes) : Bool :=
  decide (4 < target.length) && decide (target.take 4 = ascii "usb:")

/-- A cable target is never empty. -/
theorem makeUsbMuxTarget_ne_nil (udid : Bytes) : makeUsbMuxTarget udid ≠ [] :=
  List.append_ne_nil_of_left_ne_nil (by decide) udid

namespace UsbMux

open Search (find rfind)

/-! ### Values of keys -/

/-- What `ValueForKey` searches for. -/
def keyNeedle (key : Bytes) : Bytes := ascii "<key>" ++ key ++ ascii "</key>"

/-- A value without the white space around it. -/
def trimSpace (value : Bytes) : Bytes := (value.dropWhile isSpace).rdropWhile isSpace

/-- `ValueForKey`. -/
def valueForKey (plist key : Bytes) (start : Nat) : Option Bytes :=
  match find (keyNeedle key) plist start with
  | none => none
  | some pos =>
    match find [0x3E] plist (pos + (keyNeedle key).length) with
    | none => none
    | some close =>
      match find [0x3C] plist (close + 1) with
      | none => none
      | some valueEnd =>
        some (trimSpace ((plist.drop (close + 1)).take (valueEnd - (close + 1))))

/-- `std::strtoul` in base 10, where `unsigned long` has 32 bits: the value, and what follows the
number. -/
def strtoul (text : Bytes) : Nat × Bytes :=
  let body := text.dropWhile isSpace
  let digits := if body.head? = some 0x2D ∨ body.head? = some 0x2B then body.tail else body
  let n := JsonParser.digitsValue (digits.takeWhile isDigit)
  if digits.takeWhile isDigit = [] then (0, text)
  else
    (if 2 ^ 32 ≤ n then 2 ^ 32 - 1
      else if body.head? = some 0x2D then (2 ^ 32 - n) % 2 ^ 32
      else n,
      digits.dropWhile isDigit)

/-- `NumberForKey`.  The number is read from a C string, which ends at the first zero byte. -/
def numberForKey (plist key : Bytes) (start : Nat) : Option UInt32 :=
  match valueForKey plist key start with
  | none => none
  | some value =>
    if value = [] then none
    else
      let text := value.takeWhile fun b => b ≠ 0
      let number := strtoul text
      if number.2 = text ∨ number.2 ≠ [] ∨ 2 ^ 32 - 1 < number.1 then none
      else some (UInt32.ofNat number.1)

/-! ### Serial numbers -/

/-- `std::isalnum` in the C locale. -/
def isAlnum (b : UInt8) : Bool :=
  isDigit b || (0x41 ≤ b && b ≤ 0x5A) || (0x61 ≤ b && b ≤ 0x7A)

/-- `EqualsUdid`.  The cursors are what is left of the two texts. -/
def equalsUdid (a b : Bytes) : Bool :=
  match h : a.dropWhile (fun x => !isAlnum x) with
  | [] => (b.dropWhile fun y => !isAlnum y).isEmpty
  | x :: a' =>
    match b.dropWhile fun y => !isAlnum y with
    | [] => false
    | y :: b' => if toLower x ≠ toLower y then false else equalsUdid a' b'
termination_by a.length
decreasing_by
  have hle := (List.dropWhile_suffix (l := a) fun x => !isAlnum x).length_le
  rw [h] at hle
  exact hle

/-! ### The list of devices -/

def kSerialNumber : Bytes := ascii "SerialNumber"
def kDeviceId : Bytes := ascii "DeviceID"
def kConnectionType : Bytes := ascii "ConnectionType"

/-- The message type that marks a device, as the text of its key and its value. -/
def attachedNeedle : Bytes := ascii "<key>MessageType</key><string>Attached</string>"

/-- Where the message of a serial number begins. -/
def entryOf (response : Bytes) (serialKey : Nat) : Nat :=
  match rfind attachedNeedle response serialKey with
  | none => 0
  | some attached => (rfind (ascii "<dict>") response attached).getD 0

/-- One turn of the loop of `ListUsbMuxDevices`. -/
def addDevice (response : Bytes) (devices : List UsbMuxDevice) (serialKey : Nat) :
    List UsbMuxDevice :=
  let entry := entryOf response serialKey
  match numberForKey response kDeviceId entry, valueForKey response kConnectionType entry,
    valueForKey response kSerialNumber serialKey with
  | some id, some type, some udid =>
    if type = ascii "USB" then
      if devices.any fun current => decide (current.deviceId = id) || equalsUdid current.udid udid
      then devices
      else devices ++ [{ deviceId := id, udid := udid }]
    else devices
  | _, _, _ => devices

/-- The loop of `ListUsbMuxDevices`. -/
def listFrom (response : Bytes) (cursor : Nat) (devices : List UsbMuxDevice) : List UsbMuxDevice :=
  match h : find (keyNeedle kSerialNumber) response cursor with
  | none => devices
  | some serialKey => listFrom response (serialKey + 1) (addDevice response devices serialKey)
termination_by response.length - cursor
decreasing_by
  obtain ⟨hle, hoccurs, -⟩ := Search.find_eq_some_iff.1 h
  have hlt := hoccurs.lt_length (by decide)
  omega

/-- `ListUsbMuxDevices`, with the answer of the service. -/
def listUsbMuxDevices (response : Option Bytes) : List UsbMuxDevice :=
  match response with
  | none => []
  | some response => listFrom response 0 []

end UsbMux

end SecondDisplay
