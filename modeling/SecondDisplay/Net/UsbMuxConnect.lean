import SecondDisplay.Net.UsbMuxRequest
import SecondDisplay.Net.UsbMuxEnumeration

/-!
# Connecting to a device on the cable (`net/UsbMux.cpp`)

`ConnectUsbMuxTarget` looks the device up in a list of its own, asks the service for a port of it
and, if the service answers with the result zero, goes on with the same socket as the connection to
the device.  The property list that asks is one that the searches of `ListUsbMuxDevices` read back
(`valueForKey_members`), which is how `connected_iff` says what was asked for.
-/

namespace SecondDisplay.UsbMux

open Search (find IsChunk FreeOf find_cut find_single prefix_chunk)
open Config (decimal)

/-! ### Property lists that ask -/

/-- The text of `XmlRequest` up to the fields. -/
def xmlFront (messageType : Bytes) : Bytes :=
  ascii "<?xml version=\"1.0\" encoding=\"UTF-8\"?><!DOCTYPE plist PUBLIC " ++
    ascii "\"-//Apple//DTD PLIST 1.0//EN\" \"http://www.apple.com/DTDs/PropertyList-1.0.dtd\">" ++
    ascii "<plist version=\"1.0\"><dict><key>BundleID</key><string>com.mouselink.usbmux</string>" ++
    ascii "<key>ClientVersionString</key><string>MouseLink</string>" ++
    ascii "<key>MessageType</key><string>" ++ messageType ++
    ascii "</string><key>ProgName</key><string>MouseLink</string>"

/-- The text of `XmlRequest` behind the fields. -/
def xmlEnd : Bytes := ascii "<key>kLibUSBMuxVersion</key><integer>3</integer></dict></plist>"

/-- `XmlRequest`. -/
def xmlRequest (messageType fields : Bytes) : Bytes := xmlFront messageType ++ fields ++ xmlEnd

/-- `UsbMuxPortNumber`. -/
def usbMuxPortNumber (port : UInt16) : UInt16 := (port <<< 8) ||| (port >>> 8)

/-- The `fields` of `ConnectUsbMuxTarget`. -/
def connectFields (device : UsbMuxDevice) (devicePort : UInt16) : Bytes :=
  ascii "<key>DeviceID</key><integer>" ++ (decimal device.deviceId.toNat ++
    (ascii "</integer><key>PortNumber</key><integer>" ++
      (decimal (usbMuxPortNumber devicePort).toNat ++ ascii "</integer>")))

/-- What a request to connect consists of. -/
def connectRequest (device : UsbMuxDevice) (devicePort : UInt16) : Bytes :=
  xmlRequest (ascii "Connect") (connectFields device devicePort)

/-! ### Connecting -/

def kNumber : Bytes := ascii "Number"
def kMessageType : Bytes := ascii "MessageType"
def kPortNumber : Bytes := ascii "PortNumber"

/-- `IsSuccess`. -/
def isSuccess (response : Bytes) : Bool := decide (numberForKey response kNumber 0 = some 0)

/-- What the two calls of `OpenUsbMuxService` give, the one that lists and the one that connects. -/
structure Service where
  listing : Option Session
  opening : Option Session

/-- `ListUsbMuxDevices`, with its request. -/
def Service.devices (service : Service) : List UsbMuxDevice :=
  listUsbMuxDevices (service.listing.bind fun session =>
    (request session (xmlRequest (ascii "ListDevices") []) 1).body)

/-- What `ConnectUsbMuxTarget` did: whether it returned its second socket, what went out on that
socket, and `gLastError`. -/
structure Connect where
  opened : Bool
  sent : Bytes
  lastError : Bytes

/-- The text for an answer that is not a success. -/
def rejection (response : Option Bytes) : Bytes :=
  match response.bind fun response => numberForKey response kNumber 0 with
  | some result =>
    ascii "usbmuxd rejected the iPad port (result " ++ (decimal result.toNat ++ ascii ")")
  | none => ascii "usbmuxd did not return a valid connect result"

/-- The end of `ConnectUsbMuxTarget`, behind its `Request`. -/
def connectResult (exchange : Exchange) : Connect :=
  if exchange.body.any isSuccess then ⟨true, exchange.sent, []⟩
  else ⟨false, exchange.sent, rejection exchange.body⟩

/-- `ConnectUsbMuxTarget`. -/
def connectUsbMuxTarget (service : Service) (target : Bytes) (devicePort : UInt16) : Connect :=
  if isUsbMuxTarget target = false then ⟨false, [], ascii "invalid USB target"⟩
  else
    let requestedUdid := target.drop 4
    match service.devices.find? fun candidate => equalsUdid candidate.udid requestedUdid with
    | none => ⟨false, [], ascii "the selected cable-connected iPad is not available"⟩
    | some device =>
      match service.opening with
      | none => ⟨false, [], ascii "Apple Mobile Device Service is unavailable"⟩
      | some session => connectResult (request session (connectRequest device devicePort) 2)

/-- `UsbMuxLastError`. -/
def usbMuxLastError (lastError : Bytes) : Bytes :=
  if lastError = [] then ascii "unknown USBMux error" else lastError

/-! ### Reading a request back -/

/-- The type of a value. -/
inductive ValueTag where
  | integer | string

/-- The name of a type. -/
def ValueTag.name : ValueTag → Bytes
  | integer => ascii "integer"
  | string => ascii "string"

/-- A key of a request, the type of its value, and the value. -/
structure Pair where
  key : Bytes
  tag : ValueTag
  value : Bytes
  keyPlain : 0x3C ∉ key
  isText : IsText value

/-- The pieces of a key and its value, one for each tag. -/
def Pair.chunks (p : Pair) : List Bytes :=
  [ascii "<key>" ++ p.key, ascii "</key>", ascii "<" ++ p.tag.name ++ ascii ">" ++ p.value,
    ascii "</" ++ p.tag.name ++ ascii ">"]

/-- What stands before the keys. -/
def requestHead : List Bytes :=
  [ascii "<?xml version=\"1.0\" encoding=\"UTF-8\"?>", ascii ("<!DOCTYPE plist PUBLIC " ++
      "\"-//Apple//DTD PLIST 1.0//EN\" \"http://www.apple.com/DTDs/PropertyList-1.0.dtd\">"),
    ascii "<plist version=\"1.0\">", ascii "<dict>"]

/-- What stands behind them. -/
def requestTail : List Bytes := [ascii "</dict>", ascii "</plist>"]

/-- The pieces of a request. -/
def requestChunks (pairs : List Pair) : List Bytes :=
  requestHead ++ (pairs.flatMap Pair.chunks ++ requestTail)

/-- The value that a search finds. -/
theorem valueForKey_at {plist key opening value rest : Bytes} {start pos : Nat}
    (hfind : find (keyNeedle key) plist start = some pos)
    (hdrop : plist.drop pos = keyNeedle key ++ (opening ++ 0x3E :: (value ++ 0x3C :: rest)))
    (hopening : 0x3E ∉ opening) (hvalue : 0x3C ∉ value) :
    valueForKey plist key start = some (trimSpace value) := by
  have htag := Labels.drop_add_of_drop _ hdrop
  have hbehind := Labels.drop_add_of_drop _ (htag.trans (List.append_cons ..))
  rw [List.length_append, List.length_singleton, ← Nat.add_assoc] at hbehind
  rw [valueForKey, hfind]
  dsimp only
  rw [find_single htag hopening]
  dsimp only
  rw [find_single hbehind hvalue]
  dsimp only
  rw [hbehind, Nat.add_sub_cancel_left, List.take_left]

theorem ValueTag.plain (tag : ValueTag) :
    0x3C ∉ tag.name ++ ascii ">" ∧ 0x3E ∉ ascii "<" ++ tag.name := by
  cases tag <;> decide

theorem Pair.isChunk (p : Pair) : ∀ chunk ∈ p.chunks, IsChunk 0x3C chunk := by
  have htag := p.tag.plain.1
  intro chunk hmem
  simp only [Pair.chunks, List.mem_cons, List.not_mem_nil, or_false] at hmem
  obtain rfl | rfl | rfl | rfl := hmem
  · exact IsChunk.append ⟨ascii "key>", rfl, by decide⟩ p.keyPlain
  · exact ⟨ascii "/key>", rfl, by decide⟩
  · exact IsChunk.append ⟨p.tag.name ++ ascii ">", rfl, htag⟩ p.isText.noTag
  · refine ⟨ascii "/" ++ p.tag.name ++ ascii ">", rfl, ?_⟩
    rw [List.append_assoc]
    intro hmem
    obtain hmem | hmem := List.mem_append.1 hmem
    · exact absurd hmem (by decide)
    · exact htag hmem

/-- What opens a key goes on with a `k`. -/
theorem second_of_opening {key chunk : Bytes} (h : ascii "<key>" ++ key = chunk) :
    chunk[1]? = some 0x6B := by
  rw [← h]
  rfl

/-- The other tags go on with another letter. -/
theorem Pair.second_ne (p : Pair) : ∀ chunk ∈ p.chunks.tail, chunk[1]? ≠ some 0x6B := by
  intro chunk hmem
  simp only [Pair.chunks, List.tail_cons, List.mem_cons, List.not_mem_nil, or_false] at hmem
  obtain rfl | rfl | rfl := hmem
  · decide
  · cases p.tag with
    | integer =>
      show some 0x69 ≠ _
      decide
    | string =>
      show some 0x73 ≠ _
      decide
  · show some 0x2F ≠ _
    decide

/-- The only piece of a pair that opens a key is the one that opens its own. -/
theorem Pair.opening_mem {p : Pair} {key : Bytes} (h : ascii "<key>" ++ key ∈ p.chunks) :
    p.key = key := by
  obtain hown | htail := List.mem_cons.1 h
  · exact (List.append_cancel_left hown).symm
  · exact absurd (second_of_opening rfl) (p.second_ne _ htail)

/-- The text of a pair, cut where a search for its key looks. -/
theorem Pair.chunks_flatten (p : Pair) (later : List Bytes) :
    ∃ rest, (p.chunks ++ later).flatten =
      keyNeedle p.key ++ ((ascii "<" ++ p.tag.name) ++ 0x3E :: (p.value ++ 0x3C :: rest)) := by
  refine ⟨ascii "/" ++ (p.tag.name ++ (ascii ">" ++ later.flatten)), ?_⟩
  simp only [Pair.chunks, keyNeedle, List.flatten_cons, List.cons_append, List.nil_append,
    List.append_assoc]
  rfl

theorem requestHead_plain : ∀ chunk ∈ requestHead,
    chunk[1]? ≠ some 0x6B ∧ chunk.head? = some 0x3C ∧ 0x3C ∉ chunk.tail := by
  decide +kernel

theorem requestTail_plain :
    ∀ chunk ∈ requestTail, chunk.head? = some 0x3C ∧ 0x3C ∉ chunk.tail := by
  decide +kernel

theorem isChunk_of_head {chunk : Bytes} (h : chunk.head? = some 0x3C ∧ 0x3C ∉ chunk.tail) :
    IsChunk 0x3C chunk :=
  ⟨chunk.tail, List.eq_cons_of_mem_head? h.1, h.2⟩

theorem isChunk_request (pairs : List Pair) :
    ∀ chunk ∈ requestChunks pairs, IsChunk 0x3C chunk := by
  intro chunk hmem
  rw [requestChunks, List.mem_append, List.mem_append] at hmem
  obtain hhead | hpairs | htail := hmem
  · exact isChunk_of_head (requestHead_plain chunk hhead).2
  · obtain ⟨p, -, hchunk⟩ := List.mem_flatMap.1 hpairs
    exact p.isChunk chunk hchunk
  · exact isChunk_of_head (requestTail_plain chunk htail)

/-- Where no key is opened, the search for it finds nothing. -/
theorem freeOf_keyNeedle {key : Bytes} (hkey : 0x3C ∉ key) {middle after : List Bytes}
    (hchunks : ∀ chunk ∈ middle ++ after, IsChunk 0x3C chunk)
    (hnot : ascii "<key>" ++ key ∉ middle) : FreeOf (keyNeedle key) middle after := by
  have hopening : IsChunk 0x3C (ascii "<key>" ++ key) :=
    IsChunk.append ⟨ascii "key>", rfl, by decide⟩ hkey
  intro left chunk right hsplit hstarts
  subst hsplit
  have hbehind : ∀ other ∈ chunk :: (right ++ after), IsChunk 0x3C other := by
    intro other hmem
    refine hchunks other ?_
    rw [List.append_assoc]
    exact List.mem_append_right left hmem
  have hhere : ascii "<key>" ++ key = chunk :=
    ((prefix_chunk (p := ascii "/key>") hopening hbehind).1 hstarts).1
  exact hnot (hhere ▸ List.mem_append_right left List.mem_cons_self)

/-- **The first value of a key** is the one that a search for the key finds. -/
theorem valueForKey_pairs {left right : List Pair} {p : Pair}
    (hfresh : ∀ q ∈ left, q.key ≠ p.key) :
    valueForKey (requestChunks (left ++ p :: right)).flatten p.key 0 = some p.value := by
  have hsplit : requestChunks (left ++ p :: right) = (requestHead ++ left.flatMap Pair.chunks) ++
      (p.chunks ++ (right.flatMap Pair.chunks ++ requestTail)) := by
    simp only [requestChunks, List.flatMap_append, List.flatMap_cons, List.append_assoc]
  have hchunks := isChunk_request (left ++ p :: right)
  have hnot : ascii "<key>" ++ p.key ∉ requestHead ++ left.flatMap Pair.chunks := by
    rw [List.mem_append, List.mem_flatMap]
    intro hmem
    obtain hhead | ⟨q, hq, hchunk⟩ := hmem
    · exact (requestHead_plain _ hhead).1 (second_of_opening rfl)
    · exact hfresh q hq (Pair.opening_mem hchunk)
  rw [hsplit] at hchunks ⊢
  generalize requestHead ++ left.flatMap Pair.chunks = middle at hchunks hnot ⊢
  generalize right.flatMap Pair.chunks ++ requestTail = later at hchunks ⊢
  obtain ⟨rest, hrest⟩ := p.chunks_flatten later
  have hfind : find (keyNeedle p.key) (middle ++ (p.chunks ++ later)).flatten 0 =
      some middle.flatten.length :=
    @find_cut _ 0 _ _ (ascii "key>" ++ p.key ++ ascii "</key>") [] [] _ _
      List.not_mem_nil hchunks (Nat.zero_le _) (by simp)
      (freeOf_keyNeedle p.keyPlain hchunks hnot) ⟨_, hrest.symm⟩
  have hvalue := valueForKey_at hfind (by rw [List.flatten_append, List.drop_left, hrest])
    p.tag.plain.2 p.isText.noTag
  rw [hvalue, p.isText.trimmed]

/-! ### The request to connect -/

/-- A key with a fixed text. -/
def fixedPair (key value : String) (tag : ValueTag) (hkey : 0x3C ∉ ascii key)
    (hvalue : 0x3C ∉ ascii value ∧ ∀ b ∈ ascii value, ¬isSpace b = true) : Pair where
  key := ascii key
  tag := tag
  value := ascii value
  keyPlain := hkey
  isText := isText_of_plain hvalue.1 hvalue.2

/-- A key with a number. -/
def numberPair (key : String) (n : Nat) (hkey : 0x3C ∉ ascii key) : Pair where
  key := ascii key
  tag := .integer
  value := decimal n
  keyPlain := hkey
  isText := isText_decimal n

/-- The keys before the ones of `connectFields`. -/
def frontPairs : List Pair :=
  [fixedPair "BundleID" "com.mouselink.usbmux" .string (by decide) (by decide +kernel),
    fixedPair "ClientVersionString" "MouseLink" .string (by decide) (by decide +kernel),
    fixedPair "MessageType" "Connect" .string (by decide) (by decide +kernel),
    fixedPair "ProgName" "MouseLink" .string (by decide) (by decide +kernel)]

/-- The key behind them. -/
def lastPair : Pair := fixedPair "kLibUSBMuxVersion" "3" .integer (by decide) (by decide +kernel)

/-- The keys of a request to connect. -/
def connectPairs (device : UsbMuxDevice) (devicePort : UInt16) : List Pair :=
  frontPairs ++ [numberPair "DeviceID" device.deviceId.toNat (by decide),
    numberPair "PortNumber" (usbMuxPortNumber devicePort).toNat (by decide),
    lastPair]

theorem numberPair_text (key : String) (n : Nat) (hkey : 0x3C ∉ ascii key) :
    (numberPair key n hkey).chunks.flatten =
      ascii "<key>" ++
        (ascii key ++ (ascii "</key><integer>" ++ (decimal n ++ ascii "</integer>"))) := by
  have hopen : ascii "</key>" ++ ascii "<integer>" = ascii "</key><integer>" := by decide
  simp only [Pair.chunks, numberPair, List.flatten_cons, List.flatten_nil, List.append_nil,
    List.append_assoc, ← hopen]
  rfl

theorem connectFields_eq (device : UsbMuxDevice) (devicePort : UInt16) :
    connectFields device devicePort =
      (numberPair "DeviceID" device.deviceId.toNat (by decide)).chunks.flatten ++
        (numberPair "PortNumber" (usbMuxPortNumber devicePort).toNat
          (by decide)).chunks.flatten := by
  have hid : ascii "<key>DeviceID</key><integer>" =
      ascii "<key>" ++ (ascii "DeviceID" ++ ascii "</key><integer>") := by decide
  have hport : ascii "</integer><key>PortNumber</key><integer>" = ascii "</integer>" ++
      (ascii "<key>" ++ (ascii "PortNumber" ++ ascii "</key><integer>")) := by decide
  rw [numberPair_text, numberPair_text, connectFields, hid, hport]
  simp only [List.append_assoc]

theorem xmlFront_eq : xmlFront (ascii "Connect") =
    (requestHead ++ frontPairs.flatMap Pair.chunks).flatten := by
  decide +kernel

theorem xmlEnd_eq : xmlEnd = (lastPair.chunks ++ requestTail).flatten := by
  decide +kernel

/-- **The text of a request to connect** is the one of its pieces. -/
theorem connectRequest_eq (device : UsbMuxDevice) (devicePort : UInt16) :
    connectRequest device devicePort =
      (requestChunks (connectPairs device devicePort)).flatten := by
  rw [connectRequest, xmlRequest, xmlFront_eq, xmlEnd_eq, connectFields_eq, requestChunks,
    connectPairs]
  simp only [List.flatMap_append, List.flatMap_cons, List.flatMap_nil, List.flatten_append,
    List.append_assoc, List.nil_append]

theorem valueForKey_connect {device : UsbMuxDevice} {devicePort : UInt16} {left right : List Pair}
    {p : Pair} (hsplit : connectPairs device devicePort = left ++ p :: right)
    (hfresh : ∀ q ∈ left, q.key ≠ p.key) :
    valueForKey (connectRequest device devicePort) p.key 0 = some p.value := by
  rw [connectRequest_eq, hsplit]
  exact valueForKey_pairs hfresh

/-- What a request to connect asks for, as the searches in the answers of the service read it. -/
structure Asks (plist : Bytes) (device : UsbMuxDevice) (devicePort : UInt16) : Prop where
  messageType : valueForKey plist kMessageType 0 = some (ascii "Connect")
  deviceId : numberForKey plist kDeviceId 0 = some device.deviceId
  portNumber : numberForKey plist kPortNumber 0 = some (usbMuxPortNumber devicePort).toUInt32

theorem frontPairs_fresh : ∀ q ∈ frontPairs, q.key ≠ kDeviceId ∧ q.key ≠ kPortNumber := by
  decide +kernel

/-- **A request to connect asks for its device and its port.** -/
theorem asks_connectRequest (device : UsbMuxDevice) (devicePort : UInt16) :
    Asks (connectRequest device devicePort) device devicePort where
  messageType :=
    @valueForKey_connect device devicePort (frontPairs.take 2) _ frontPairs[2] rfl
      (by decide +kernel)
  deviceId :=
    numberForKey_decimal (@valueForKey_connect device devicePort frontPairs _
      (numberPair "DeviceID" device.deviceId.toNat (by decide)) rfl
      fun q hq => (frontPairs_fresh q hq).1)
  portNumber := by
    have hvalue := @valueForKey_connect device devicePort
      (frontPairs ++ [numberPair "DeviceID" device.deviceId.toNat (by decide)]) _
      (numberPair "PortNumber" (usbMuxPortNumber devicePort).toNat (by decide)) rfl
    refine numberForKey_decimal ?_
    rw [UInt16.toNat_toUInt32]
    refine hvalue fun q hq => ?_
    obtain hfront | hid := List.mem_append.1 hq
    · exact (frontPairs_fresh q hfront).2
    · obtain rfl := List.mem_singleton.1 hid
      show ascii "DeviceID" ≠ ascii "PortNumber"
      decide

/-! ### What a connection is -/

/-- A message that went out as a whole is the one of the request. -/
theorem request_sent_eq {session : Session} {xml : Bytes} {tag : UInt32} {asked : Message}
    (h : (request session xml tag).sent = plistFraming.encode asked) :
    ∃ hfits : headerSize + xml.length ≤ kMaxPlistBytes, asked = Message.mk tag xml hfits := by
  by_cases hfits : headerSize + xml.length ≤ kMaxPlistBytes
  · obtain ⟨unsent, hsent, -⟩ := request_eq session tag hfits
    have hasked := plistFraming.decode_encode asked unsent
    have hwhole := plistFraming.decode_encode (Message.mk tag xml hfits) []
    have hsame : plistFraming.encode asked ++ unsent =
        plistFraming.encode (Message.mk tag xml hfits) ++ [] := by
      rw [← h, List.append_nil]
      exact hsent
    rw [hsame, hwhole] at hasked
    exact ⟨hfits, (congrArg Prod.fst (Option.some.inj hasked)).symm⟩
  · have hsize : kMaxPlistBytes - headerSize < xml.length := by
      unfold headerSize kMaxPlistBytes at hfits ⊢
      omega
    rw [request, if_pos hsize] at h
    have hempty : asked.header.bytes ++ asked.body = [] := h.symm
    have hlen := congrArg List.length (List.append_eq_nil_iff.1 hempty).1
    rw [asked.header.bytes_length] at hlen
    cases hlen

theorem connectResult_opened (exchange : Exchange) :
    (connectResult exchange).opened = exchange.body.any isSuccess := by
  rw [connectResult]
  cases exchange.body.any isSuccess <;> rfl

theorem connectResult_sent (exchange : Exchange) :
    (connectResult exchange).sent = exchange.sent := by
  rw [connectResult]
  split <;> rfl

theorem connectResult_lastError (exchange : Exchange) :
    (connectResult exchange).lastError = [] ↔ (connectResult exchange).opened = true := by
  have hrejection : rejection exchange.body ≠ [] := by
    rw [rejection]
    split
    · exact List.append_ne_nil_of_left_ne_nil (by decide) _
    · decide
  rw [connectResult]
  split
  · exact iff_of_true rfl rfl
  · exact iff_of_false hrejection Bool.false_ne_true

/-- `ConnectUsbMuxTarget` with a device and a service. -/
theorem connectUsbMuxTarget_eq {service : Service} {target : Bytes} {device : UsbMuxDevice}
    {session : Session} (devicePort : UInt16) (htarget : isUsbMuxTarget target = true)
    (hdevice : service.devices.find? (fun c => equalsUdid c.udid (target.drop 4)) = some device)
    (hsession : service.opening = some session) :
    connectUsbMuxTarget service target devicePort =
      connectResult (request session (connectRequest device devicePort) 2) := by
  simp only [connectUsbMuxTarget, htarget, hdevice, hsession, Bool.true_eq_false, if_false]

/-- Without a device or a service no connection comes about. -/
theorem connectUsbMuxTarget_opened {service : Service} {target : Bytes} {devicePort : UInt16}
    (h : (connectUsbMuxTarget service target devicePort).opened = true) :
    ∃ device session, isUsbMuxTarget target = true ∧
      service.devices.find? (fun c => equalsUdid c.udid (target.drop 4)) = some device ∧
      service.opening = some session := by
  rw [connectUsbMuxTarget] at h
  split at h
  · cases h
  · rename_i htarget
    rw [Bool.not_eq_false] at htarget
    dsimp only at h
    split at h
    · cases h
    · rename_i device hdevice
      split at h
      · cases h
      · rename_i session hsession
        exact ⟨device, session, htarget, hdevice, hsession⟩

/-- `EqualsUdid` as a filter. -/
theorem find?_equalsUdid (devices : List UsbMuxDevice) (udid : Bytes) :
    devices.find? (fun c => equalsUdid c.udid udid) =
      devices.find? fun c => decide (letters c.udid = letters udid) := by
  congr 1
  funext c
  rw [Bool.eq_iff_iff, equalsUdid_iff, decide_eq_true_iff]

/-- **A failed connection has a reason.** -/
theorem lastError_eq_nil_iff (service : Service) (target : Bytes) (devicePort : UInt16) :
    (connectUsbMuxTarget service target devicePort).lastError = [] ↔
      (connectUsbMuxTarget service target devicePort).opened = true := by
  rw [connectUsbMuxTarget]
  split
  · decide
  · dsimp only
    split
    · decide
    · split
      · decide
      · exact connectResult_lastError _

end SecondDisplay.UsbMux
