import SecondDisplay.Library.Transitions
import SecondDisplay.Library.Bytes
import Mathlib.Data.List.Basic
import Mathlib.Tactic.Common

/-!
# The discovery cache (`net/Mdns.cpp`)

The tray keeps what it has discovered in one list of records.  `Merge` takes the answers of a
browse one after the other: an answer belongs to the first record with its id, or, when it has no
id, to the first one with its instance name.  `Expire` takes the records offline whose time is up.
Time points are those of the steady clock, in nanoseconds; its default time point is `0`.
-/

namespace SecondDisplay

/-! ### Records -/

/-- `DiscoveryRecord`: what a receiver advertises. -/
structure DiscoveryRecord where
  id : Bytes := []
  name : Bytes := []
  address : Bytes := []
  addresses : List Bytes := []
  instanceName : Bytes := []
  host : Bytes := []
  port : UInt16 := 0
  source : Bytes := ascii "mdns"
  ttlSeconds : UInt32 := 120
  lastSeen : Int := 0
  expiresAt : Int := 0
  online : Bool := true
  goodbye : Bool := false
  deriving DecidableEq

/-- `std::chrono::seconds`. -/
def seconds (n : UInt32) : Int := n.toNat * 1000000000

/-- `DiscoveryCache::FindById`. -/
def findById (records : List DiscoveryRecord) (id : Bytes) : Option DiscoveryRecord :=
  if id = [] then none else records.find? fun record => decide (record.id = id)

namespace DiscoveryCache

/-! ### Merging and expiring -/

/-- `matches`: the stored record that an answer belongs to. -/
def belongs (incoming existing : DiscoveryRecord) : Bool :=
  (decide (incoming.id ≠ []) && decide (existing.id = incoming.id)) ||
    (decide (incoming.id = []) && decide (incoming.instanceName ≠ []) &&
      decide (existing.instanceName = incoming.instanceName))

/-- The answer takes its device offline. -/
def leaving (incoming : DiscoveryRecord) : Bool :=
  incoming.goodbye || decide (incoming.ttlSeconds = 0)

/-- A stored record whose device has left. -/
def gone (now : Int) (existing : DiscoveryRecord) : DiscoveryRecord :=
  { existing with online := false, goodbye := true, lastSeen := now, expiresAt := now }

/-- The record that a live answer is stored as. -/
def fresh (now : Int) (incoming : DiscoveryRecord) : DiscoveryRecord :=
  { incoming with
    online := true
    goodbye := false
    lastSeen := now
    expiresAt := now + seconds (if incoming.ttlSeconds = 0 then 1 else incoming.ttlSeconds)
    addresses :=
      if incoming.addresses = [] ∧ incoming.address ≠ [] then [incoming.address]
      else incoming.addresses }

/-- The addresses of the replaced record follow as fallbacks. -/
def withFallbacks (addresses known : List Bytes) : List Bytes :=
  known.foldl (fun addresses address =>
    if address ∈ addresses then addresses else addresses ++ [address]) addresses

/-- A live answer replaces a stored record. -/
def renewed (now : Int) (incoming existing : DiscoveryRecord) : DiscoveryRecord :=
  { fresh now incoming with
    addresses := withFallbacks (fresh now incoming).addresses existing.addresses }

/-- One turn of the loop of `Merge`. -/
def mergeRecord (now : Int) (records : List DiscoveryRecord) (incoming : DiscoveryRecord) :
    List DiscoveryRecord :=
  match records.findIdx? (belongs incoming) with
  | some i =>
    if leaving incoming then records.modify i (gone now)
    else records.modify i (renewed now incoming)
  | none => if leaving incoming then records else records ++ [fresh now incoming]

/-- `Merge`. -/
def merge (records : List DiscoveryRecord) (incoming : List DiscoveryRecord) (now : Int) :
    List DiscoveryRecord :=
  incoming.foldl (mergeRecord now) records

/-- `Expire` on one record. -/
def expireRecord (now : Int) (record : DiscoveryRecord) : DiscoveryRecord :=
  if record.online ∧ record.expiresAt ≠ 0 ∧ record.expiresAt ≤ now then
    { record with online := false }
  else record

/-- `Expire`. -/
def expire (records : List DiscoveryRecord) (now : Int) : List DiscoveryRecord :=
  records.map (expireRecord now)

/-- A call of the cache. -/
inductive Call where
  /-- `Merge`. -/
  | merge (incoming : List DiscoveryRecord) (now : Int)
  /-- `Expire`. -/
  | expire (now : Int)

/-- What a call makes of the records. -/
def Call.apply (records : List DiscoveryRecord) : Call → List DiscoveryRecord
  | .merge incoming now => DiscoveryCache.merge records incoming now
  | .expire now => DiscoveryCache.expire records now

/-- The records after a list of calls on an empty cache. -/
def after (calls : List Call) : List DiscoveryRecord := calls.foldl Call.apply []

end DiscoveryCache

end SecondDisplay
