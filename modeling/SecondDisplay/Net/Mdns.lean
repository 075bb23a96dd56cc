import SecondDisplay.Library.Labels
import SecondDisplay.Library.Search
import SecondDisplay.Net.DiscoveryCache
import Std.Data.ExtTreeMap

/-!
# The answers of the receivers (`net/Mdns.cpp`)

A browse asks the local network for receivers and hands every packet that comes back to
`ParseResponse`, with one map of receivers by their full instance names.  A packet is walked record
by record; PTR, SRV and TXT records change the receiver of an instance, A and AAAA records collect
the addresses of a host, and after the last record each receiver takes over the addresses of its
host.  `inetNtop6` stands for `inet_ntop` on IPv6 addresses.
-/

namespace SecondDisplay.Mdns

/-! ### Numbers and names -/

/-- `kService`. -/
def kService : Bytes := ascii "_opensidecar._tcp.local"

def kTypeA : UInt16 := 1
def kTypePtr : UInt16 := 12
def kTypeTxt : UInt16 := 16
def kTypeAaaa : UInt16 := 28
def kTypeSrv : UInt16 := 33

/-- `PutUint16`. -/
def putUint16 (value : UInt16) : Bytes := [(value >>> 8).toUInt8, (value &&& 0xFF).toUInt8]

/-- `readUint16`. -/
def readUint16 (data : Bytes) (pos : Nat) : UInt16 :=
  ((data.getD pos 0).toUInt16 <<< 8) ||| (data.getD (pos + 1) 0).toUInt16

/-- `readUint32`. -/
def readUint32 (data : Bytes) (pos : Nat) : UInt32 :=
  ((data.getD pos 0).toUInt32 <<< 24) ||| ((data.getD (pos + 1) 0).toUInt32 <<< 16) |||
    ((data.getD (pos + 2) 0).toUInt32 <<< 8) ||| (data.getD (pos + 3) 0).toUInt32

/-- The loop of `ReadName`.  `after` is where the record stream goes on behind the first
compression pointer, `0` before there was one. -/
def readNameFrom (data : Bytes) (cursor after hops : Nat) (out : Bytes) : Option (Bytes × Nat) :=
  match h : data.drop cursor with
  | [] => none
  | length :: tail =>
    if length = 0 then some (out, if after ≠ 0 then after else cursor + 1)
    else if length &&& 0xC0 = 0xC0 then
      match tail with
      | [] => none
      | low :: _ =>
        -- a pointer loop ends at the seventeenth pointer
        if 16 < hops + 1 then none
        else
          readNameFrom data (((length &&& 0x3F).toNat <<< 8) ||| low.toNat)
            (if after = 0 then cursor + 2 else after) (hops + 1) out
    else if tail.length < length.toNat then none
    else
      readNameFrom data (cursor + 1 + length.toNat) after hops
        ((if out ≠ [] then out ++ [0x2E] else out) ++ tail.take length.toNat)
termination_by (17 - hops) * (data.length + 1) + (data.length - cursor)
decreasing_by
  · obtain ⟨n, hn⟩ : ∃ n, 17 - hops = n + 1 := ⟨16 - hops, by omega⟩
    rw [show 17 - (hops + 1) = n by omega, hn, Nat.succ_mul]
    omega
  · have hlt := Labels.lt_length_of_drop h
    omega

/-- `ReadName`: the name and where it ends. -/
def readName (data : Bytes) (pos : Nat) : Option (Bytes × Nat) := readNameFrom data pos 0 0 []

/-! ### Records -/

/-- `std::map<std::string, MdnsReceiver>`, by full instance names. -/
abbrev Found := Std.ExtTreeMap Bytes DiscoveryRecord

/-- `HostAddress`. -/
structure HostAddress where
  addresses : List Bytes := []
  ttl : UInt32 := 120
  deriving DecidableEq

/-- `addressByHost`. -/
abbrev Hosts := Std.ExtTreeMap Bytes HostAddress

/-- What one record says. -/
inductive Record where
  | ptr (instanceName : Bytes) (ttl : UInt32)
  | srv (name : Bytes) (ttl : UInt32) (port : UInt16) (host : Option Bytes)
  | txt (name : Bytes) (ttl : UInt32) (id : Option Bytes)
  | a (name : Bytes) (ttl : UInt32) (text : Bytes)
  | aaaa (name : Bytes) (ttl : UInt32) (text : Bytes)
  | ignored
  deriving DecidableEq

/-- The id that the strings of a TXT record give; the last one counts. -/
def txtId (id : Option Bytes) : Bytes → Option Bytes
  | [] => id
  | length :: tail =>
    -- a length that runs past the record ends the record
    if tail.length < length.toNat then id
    else
      let entry := tail.take length.toNat
      txtId (if ascii "id=" <+: entry then some (entry.drop 3) else id) (tail.drop length.toNat)
termination_by rdata => rdata.length
decreasing_by
  rw [List.length_drop, List.length_cons]
  omega

/-- `inet_ntop` on an IPv4 address. -/
def inetNtop4 (octets : Bytes) : Bytes :=
  [0x2E].intercalate (octets.map fun octet => ascii (toString octet.toNat))

section

variable (inetNtop6 : Bytes → Bytes)

/-- The record of a packet with the owner `name`. -/
def recordAt (data name : Bytes) (type : UInt16) (ttl : UInt32) (recordStart dataLength : Nat) :
    Record :=
  let rdata := (data.drop recordStart).take dataLength
  if type = kTypePtr then
    match readName data recordStart with
    | some (instanceName, _) => .ptr instanceName ttl
    | none => .ignored
  else if type = kTypeSrv then
    if dataLength < 7 then .ignored
    else
      .srv name ttl (readUint16 data (recordStart + 4))
        ((readName data (recordStart + 6)).map Prod.fst)
  else if type = kTypeTxt then .txt name ttl (txtId none rdata)
  else if type = kTypeA then
    if dataLength ≠ 4 then .ignored else .a name ttl (inetNtop4 rdata)
  else if type = kTypeAaaa then
    if dataLength ≠ 16 then .ignored else .aaaa name ttl (inetNtop6 rdata)
  else .ignored

/-- `map[key]`, changed by `f`. -/
def upsert {α : Type} (map : Std.ExtTreeMap Bytes α) (key : Bytes) (fallback : α) (f : α → α) :
    Std.ExtTreeMap Bytes α :=
  map.alter key fun old => some (f (old.getD fallback))

/-- The name of a service is its first label. -/
def firstLabel (name : Bytes) : Bytes := name.takeWhile fun b => b ≠ 0x2E

/-- The receiver and the name behind a record. -/
def named (name : Bytes) (receiver : DiscoveryRecord) : DiscoveryRecord :=
  { receiver with instanceName := firstLabel name, name := firstLabel name }

/-- A PTR record at its instance. -/
def onPtr (instanceName : Bytes) (ttl : UInt32) (receiver : DiscoveryRecord) : DiscoveryRecord :=
  { named instanceName receiver with ttlSeconds := ttl, goodbye := decide (ttl = 0) }

/-- An SRV record at its owner. -/
def onSrv (name : Bytes) (ttl : UInt32) (port : UInt16) (host : Option Bytes)
    (receiver : DiscoveryRecord) : DiscoveryRecord :=
  { named name receiver with
    port := port
    ttlSeconds := min receiver.ttlSeconds ttl
    goodbye := receiver.goodbye || decide (ttl = 0)
    host := host.getD receiver.host }

/-- A TXT record at its owner. -/
def onTxt (name : Bytes) (ttl : UInt32) (id : Option Bytes) (receiver : DiscoveryRecord) :
    DiscoveryRecord :=
  { named name receiver with
    ttlSeconds := min receiver.ttlSeconds ttl
    goodbye := receiver.goodbye || decide (ttl = 0)
    id := id.getD receiver.id }

/-- An address record at its owner. -/
def onAddress (ttl : UInt32) (text : Bytes) (host : HostAddress) : HostAddress :=
  { addresses := host.addresses ++ [text], ttl := min host.ttl ttl }

/-- One turn of the record loop, on the two maps. -/
def Record.apply (maps : Found × Hosts) : Record → Found × Hosts
  | .ptr instanceName ttl => (upsert maps.1 instanceName {} (onPtr instanceName ttl), maps.2)
  | .srv name ttl port host => (upsert maps.1 name {} (onSrv name ttl port host), maps.2)
  | .txt name ttl id => (upsert maps.1 name {} (onTxt name ttl id), maps.2)
  | .a name ttl text => (maps.1, upsert maps.2 name {} (onAddress ttl text))
  | .aaaa name ttl text => (maps.1, upsert maps.2 name {} (onAddress ttl text))
  | .ignored => maps

/-- The address that a receiver shows: the first without a colon, else the first. -/
def preferred (addresses : List Bytes) : Bytes :=
  match addresses.find? fun value => 0x3A ∉ value with
  | some ipv4 => ipv4
  | none => addresses.headD []

/-- A receiver at the end of a packet, with what the packet says of its host. -/
def joined (receiver : DiscoveryRecord) (host : Option HostAddress) : DiscoveryRecord :=
  let receiver := match host with
    | some host =>
      { receiver with
        addresses := host.addresses
        address := preferred host.addresses
        ttlSeconds := min receiver.ttlSeconds host.ttl
        goodbye := receiver.goodbye || decide (host.ttl = 0) }
    | none => receiver
  { receiver with online := !receiver.goodbye }

/-- The loop after the records. -/
def joinHosts (maps : Found × Hosts) : Found :=
  maps.1.map fun _ receiver => joined receiver maps.2[receiver.host]?

/-- The record loop.  A packet that breaks off leaves the receivers without their addresses. -/
def readRecords (data : Bytes) : Nat → Nat → Found × Hosts → Found
  | 0, _, maps => joinHosts maps
  | n + 1, pos, maps =>
    match readName data pos with
    | none => maps.1
    | some (name, pos) =>
      if data.length < pos + 10 then maps.1
      else
        let type := readUint16 data pos
        let ttl := readUint32 data (pos + 4)
        let dataLength := (readUint16 data (pos + 8)).toNat
        if data.length < pos + 10 + dataLength then maps.1
        else
          readRecords data n (pos + 10 + dataLength)
            ((recordAt inetNtop6 data name type ttl (pos + 10) dataLength).apply maps)

/-- The question loop: where the records begin. -/
def skipQuestions (data : Bytes) : Nat → Nat → Option Nat
  | 0, pos => some pos
  | n + 1, pos =>
    match readName data pos with
    | none => none
    | some (_, pos) => if data.length < pos + 4 then none else skipQuestions data n (pos + 4)

/-- `ParseResponse`. -/
def parseResponse (data : Bytes) (found : Found) : Found :=
  if data.length < 12 then found
  else
    let records :=
      (readUint16 data 6).toNat + (readUint16 data 8).toNat + (readUint16 data 10).toNat
    match skipQuestions data (readUint16 data 4).toNat 12 with
    | none => found
    | some pos => readRecords inetNtop6 data records pos (found, ∅)

/-- The receivers after some packets. -/
def browsed (packets : List Bytes) (found : Found) : Found :=
  packets.foldl (fun found packet => parseResponse inetNtop6 packet found) found

/-- The entries that a browse returns: a name without an address is of use only as a goodbye. -/
def returned (found : Found) : List (Bytes × DiscoveryRecord) :=
  found.toList.filter fun entry => decide (entry.2.address ≠ []) || entry.2.goodbye

/-- `BrowseReceivers`, with the packets that arrive until its deadline. -/
def browseReceivers (packets : List Bytes) (now : Int) : List DiscoveryRecord :=
  (returned (browsed inetNtop6 packets ∅)).map fun entry =>
    { entry.2 with
      lastSeen := now
      expiresAt := now + seconds entry.2.ttlSeconds }

end

/-! ### Packets of the self-check -/

/-- Where a label of a name ends: at the next dot, or with the name. -/
def labelEnd (name : Bytes) (start : Nat) : Nat :=
  match Search.find [0x2E] name start with
  | none => name.length
  | some dot => dot

theorem le_labelEnd {name : Bytes} {start : Nat} (h : start ≤ name.length) :
    start ≤ labelEnd name start := by
  rw [labelEnd]
  split
  · exact h
  · rename_i hfind
    exact (Search.find_eq_some_iff.1 hfind).1

/-- The loop of `AppendName`. -/
def appendLabels (out name : Bytes) (start : Nat) : Bytes :=
  if h : start ≤ name.length then
    let dot := labelEnd name start
    appendLabels (out ++ UInt8.ofNat (dot - start) :: (name.drop start).take (dot - start)) name
      (dot + 1)
  else out
termination_by name.length + 1 - start
decreasing_by
  have hle := le_labelEnd h
  omega

/-- `AppendName`. -/
def appendName (out name : Bytes) : Bytes := appendLabels out name 0 ++ [0]

/-- `AppendRecord`. -/
def appendRecord (out name : Bytes) (type : UInt16) (payload : Bytes) (ttl : UInt32) : Bytes :=
  appendName out name ++ putUint16 type ++ putUint16 1 ++ putUint16 (ttl >>> 16).toUInt16 ++
    putUint16 (ttl &&& 0xFFFF).toUInt16 ++ putUint16 (UInt16.ofNat payload.length) ++ payload

/-- `ResponseHeader`. -/
def responseHeader (answers : UInt16) : Bytes :=
  putUint16 0 ++ putUint16 0x8400 ++ putUint16 0 ++ putUint16 answers ++ putUint16 0 ++ putUint16 0

/-- The full name of an instance of the service. -/
def instanceOf (label : Bytes) : Bytes := label ++ 0x2E :: kService

/-- The packet that `GoodResponse` builds, with what it says as parameters. -/
def response (label host : Bytes) (port : UInt16) (id : Bytes) (octets : Bytes) (ttl : UInt32) :
    Bytes :=
  let ptr := appendName [] (instanceOf label)
  let srv := appendName (putUint16 0 ++ putUint16 0 ++ putUint16 port) host
  let entry := ascii "id=" ++ id
  let txt := UInt8.ofNat entry.length :: entry
  let packet := appendRecord (responseHeader 4) kService kTypePtr ptr ttl
  let packet := appendRecord packet (instanceOf label) kTypeSrv srv ttl
  let packet := appendRecord packet (instanceOf label) kTypeTxt txt ttl
  appendRecord packet host kTypeA octets ttl

/-- `GoodResponse`. -/
def goodResponse : Bytes :=
  response (ascii "iPad") (ascii "iPad-Pro.local") 9000
    (ascii "5C2B9E14-0000-4A00-B000-1234567890AB") [192, 0, 2, 42] 120

end SecondDisplay.Mdns
