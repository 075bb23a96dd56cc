import SecondDisplay.Net.MdnsRoundTrip
import Mathlib.Data.List.Perm.Basic
import Mathlib.Data.List.Nodup

/-!
# The order of the records (`net/Mdns.cpp`)

Each record changes the entry of its instance, or the addresses of its host, by a rule of its own.
SRV, TXT and address records take minima and give the same receivers in every order; a PTR record
sets the TTL of its instance, and what other records said before it is lost.  The order matters
exactly if that loses anything (`order_irrelevant_iff`).
-/

namespace SecondDisplay.Mdns

/-! ### One entry at a time -/

/-- A record at the entry of `key`. -/
def onEntry (key : Bytes) (entry : Option DiscoveryRecord) : Record → Option DiscoveryRecord
  | .ptr instanceName ttl =>
    if instanceName = key then some (onPtr instanceName ttl (entry.getD {})) else entry
  | .srv name ttl port host =>
    if name = key then some (onSrv name ttl port host (entry.getD {})) else entry
  | .txt name ttl id => if name = key then some (onTxt name ttl id (entry.getD {})) else entry
  | .a .. | .aaaa .. | .ignored => entry

/-- A record at the addresses of `name`. -/
def onHost (name : Bytes) (host : Option HostAddress) : Record → Option HostAddress
  | .a owner ttl text => if owner = name then some (onAddress ttl text (host.getD {})) else host
  | .aaaa owner ttl text => if owner = name then some (onAddress ttl text (host.getD {})) else host
  | .ptr .. | .srv .. | .txt .. | .ignored => host

theorem getElem?_upsert_eq {α : Type} (map : Std.ExtTreeMap Bytes α) (key : Bytes) (fallback : α)
    (f : α → α) (key' : Bytes) :
    (upsert map key fallback f)[key']? =
      if key = key' then some (f (map[key']?.getD fallback)) else map[key']? := by
  rw [getElem?_upsert]
  by_cases heq : key = key'
  · rw [if_pos heq, if_pos heq, heq]
  · rw [if_neg heq, if_neg heq]

theorem apply_entry (maps : Found × Hosts) (record : Record) (key : Bytes) :
    (record.apply maps).1[key]? = onEntry key maps.1[key]? record := by
  cases record with
  | ptr instanceName ttl => exact getElem?_upsert_eq ..
  | srv name ttl port host => exact getElem?_upsert_eq ..
  | txt name ttl id => exact getElem?_upsert_eq ..
  | a name ttl text => rfl
  | aaaa name ttl text => rfl
  | ignored => rfl

theorem apply_host (maps : Found × Hosts) (record : Record) (name : Bytes) :
    (record.apply maps).2[name]? = onHost name maps.2[name]? record := by
  cases record with
  | ptr instanceName ttl => rfl
  | srv name ttl port host => rfl
  | txt name ttl id => rfl
  | a name ttl text => exact getElem?_upsert_eq ..
  | aaaa name ttl text => exact getElem?_upsert_eq ..
  | ignored => rfl

theorem foldl_entry (records : List Record) (maps : Found × Hosts) (key : Bytes) :
    (records.foldl Record.apply maps).1[key]? = records.foldl (onEntry key) maps.1[key]? := by
  induction records generalizing maps with
  | nil => rfl
  | cons record records ih => rw [List.foldl_cons, List.foldl_cons, ih, apply_entry]

theorem foldl_host (records : List Record) (maps : Found × Hosts) (name : Bytes) :
    (records.foldl Record.apply maps).2[name]? = records.foldl (onHost name) maps.2[name]? := by
  induction records generalizing maps with
  | nil => rfl
  | cons record records ih => rw [List.foldl_cons, List.foldl_cons, ih, apply_host]

/-- **The entry of an instance after a packet.** -/
theorem answer_entry (records : List Record) (found : Found) (key : Bytes) :
    (answer records found)[key]? = (records.foldl (onEntry key) found[key]?).map fun receiver =>
      joined receiver (records.foldl (onHost receiver.host) none) := by
  rw [answer, joinHosts, Std.ExtTreeMap.getElem?_map, foldl_entry]
  congr 1
  funext receiver
  rw [foldl_host, Std.ExtTreeMap.getElem?_empty]

/-! ### What is compared -/

/-- A receiver without the list of its addresses. -/
def seenReceiver (receiver : DiscoveryRecord) : DiscoveryRecord := { receiver with addresses := [] }

/-- The receivers without the lists of their addresses. -/
def seen (found : Found) : Found := found.map fun _ receiver => seenReceiver receiver

/-- What a receiver takes over from its host: the address it shows and the TTL. -/
def HostAddress.shown (host : HostAddress) : Bytes × UInt32 := (preferred host.addresses, host.ttl)

/-- A TTL, limited by that of the host. -/
def cap (host : Option (Bytes × UInt32)) (ttl : UInt32) : UInt32 :=
  match host with
  | some shown => min ttl shown.2
  | none => ttl

/-- A receiver that has taken over what its host shows. -/
def capped (host : Option (Bytes × UInt32)) (receiver : DiscoveryRecord) : DiscoveryRecord :=
  { receiver with
    addresses := []
    address := (host.map Prod.fst).getD receiver.address
    ttlSeconds := cap host receiver.ttlSeconds
    goodbye := receiver.goodbye || decide ((host.map Prod.snd) = some 0)
    online := !(receiver.goodbye || decide ((host.map Prod.snd) = some 0)) }

theorem seenReceiver_joined (receiver : DiscoveryRecord) (host : Option HostAddress) :
    seenReceiver (joined receiver host) = capped (host.map HostAddress.shown) receiver := by
  cases host with
  | none => simp [seenReceiver, joined, capped, cap]
  | some host => simp [seenReceiver, joined, capped, cap, HostAddress.shown]

/-- **What is seen of an instance after a packet.** -/
theorem seen_answer (records : List Record) (found : Found) (key : Bytes) :
    (seen (answer records found))[key]? = (records.foldl (onEntry key) found[key]?).map
      fun receiver => capped ((records.foldl (onHost receiver.host) none).map HostAddress.shown)
        receiver := by
  rw [seen, Std.ExtTreeMap.getElem?_map, answer_entry, Option.map_map]
  congr 1
  funext receiver
  exact seenReceiver_joined receiver _

/-! ### Records that go together -/

/-- The owner and the type of a record that changes the entry of its owner. -/
def Record.slot : Record → Option (Bytes × UInt16)
  | .srv name _ _ _ => some (name, kTypeSrv)
  | .txt name _ _ => some (name, kTypeTxt)
  | .a name _ _ => some (name, kTypeA)
  | .aaaa name _ _ => some (name, kTypeAaaa)
  | .ptr .. | .ignored => none

/-- Records of one packet: each owner has each type once, and of the addresses exactly those of
IPv6 have a colon. -/
structure Regular (records : List Record) : Prop where
  once : ∀ x ∈ records, ∀ y ∈ records, x.slot ≠ none → x.slot = y.slot → x = y
  ipv4 : ∀ name ttl text, .a name ttl text ∈ records → 0x3A ∉ text
  ipv6 : ∀ name ttl text, .aaaa name ttl text ∈ records → 0x3A ∈ text

theorem Regular.perm {records records' : List Record} (h : Regular records)
    (hperm : records'.Perm records) : Regular records' where
  once := fun x hx y hy => h.once x (hperm.mem_iff.1 hx) y (hperm.mem_iff.1 hy)
  ipv4 := fun name ttl text hmem => h.ipv4 name ttl text (hperm.mem_iff.1 hmem)
  ipv6 := fun name ttl text hmem => h.ipv6 name ttl text (hperm.mem_iff.1 hmem)

/-! ### The addresses of a host -/

/-- What a host shows after one more address. -/
def showing (shown : Option (Bytes × UInt32)) (ttl : UInt32) (text : Bytes) : Bytes × UInt32 :=
  match shown with
  | none => (text, min 120 ttl)
  | some (address, limit) =>
    (if 0x3A ∉ address then address else if 0x3A ∉ text then text else address, min limit ttl)

theorem preferred_append {addresses : List Bytes} (hne : addresses ≠ []) (text : Bytes) :
    preferred (addresses ++ [text]) =
      if 0x3A ∉ preferred addresses then preferred addresses
      else if 0x3A ∉ text then text else preferred addresses := by
  obtain ⟨first, addresses, rfl⟩ := List.exists_cons_of_ne_nil hne
  rw [preferred, preferred, List.find?_append]
  cases hfind : (first :: addresses).find? fun value => decide (0x3A ∉ value) with
  | some ipv4 =>
    have hcolon := List.find?_some hfind
    rw [decide_eq_true_eq] at hcolon
    simp [hcolon]
  | none =>
    have hfirst := List.find?_eq_none.1 hfind first List.mem_cons_self
    have hcolon : 0x3A ∈ first := by simpa using hfirst
    by_cases htext : 0x3A ∈ text
    · simp [htext, hcolon]
    · simp [htext, hcolon]

/-- A record at what `name` shows. -/
def onShown (name : Bytes) (shown : Option (Bytes × UInt32)) :
    Record → Option (Bytes × UInt32)
  | .a owner ttl text => if owner = name then some (showing shown ttl text) else shown
  | .aaaa owner ttl text => if owner = name then some (showing shown ttl text) else shown
  | .ptr .. | .srv .. | .txt .. | .ignored => shown

theorem shown_onAddress {host : Option HostAddress} (h : ∀ known ∈ host, known.addresses ≠ [])
    (ttl : UInt32) (text : Bytes) :
    (onAddress ttl text (host.getD {})).shown = showing (host.map HostAddress.shown) ttl text := by
  cases host with
  | none => simp [onAddress, HostAddress.shown, showing, preferred_single]
  | some known =>
    have hne : known.addresses ≠ [] := h known rfl
    show (preferred (known.addresses ++ [text]), min known.ttl ttl) = _
    rw [preferred_append hne]
    rfl

theorem shown_foldl (records : List Record) (name : Bytes) (host : Option HostAddress)
    (h : ∀ known ∈ host, known.addresses ≠ []) :
    (records.foldl (onHost name) host).map HostAddress.shown =
      records.foldl (onShown name) (host.map HostAddress.shown) := by
  induction records generalizing host with
  | nil => rfl
  | cons record records ih =>
    have added (ttl : UInt32) (text : Bytes) :
        ∀ known ∈ some (onAddress ttl text (host.getD {})), known.addresses ≠ [] := by
      intro known hknown
      obtain rfl := Option.some.inj hknown
      exact List.append_ne_nil_of_right_ne_nil _ (List.cons_ne_nil _ _)
    have atAddress (owner : Bytes) (ttl : UInt32) (text : Bytes) :
        (records.foldl (onHost name)
            (if owner = name then some (onAddress ttl text (host.getD {})) else host)).map
          HostAddress.shown =
        records.foldl (onShown name)
          (if owner = name then some (showing (host.map HostAddress.shown) ttl text)
            else host.map HostAddress.shown) := by
      by_cases howner : owner = name
      · rw [if_pos howner, if_pos howner, ih _ (added ttl text), Option.map_some,
          shown_onAddress h]
      · rw [if_neg howner, if_neg howner, ih host h]
    rw [List.foldl_cons, List.foldl_cons]
    cases record with
    | a owner ttl text => exact atAddress owner ttl text
    | aaaa owner ttl text => exact atAddress owner ttl text
    | ptr instanceName ttl => exact ih host h
    | srv owner ttl port target => exact ih host h
    | txt owner ttl id => exact ih host h
    | ignored => exact ih host h

theorem min_right_comm (x y z : UInt32) : min (min x y) z = min (min x z) y := by
  apply UInt32.toNat_inj.1
  rw [toNat_min, toNat_min, toNat_min, toNat_min, Nat.min_right_comm]

/-- An IPv4 address is shown before and after an IPv6 address. -/
theorem showing_comm (shown : Option (Bytes × UInt32)) {ttl4 ttl6 : UInt32} {text4 text6 : Bytes}
    (h4 : 0x3A ∉ text4) (h6 : 0x3A ∈ text6) :
    showing (some (showing shown ttl4 text4)) ttl6 text6 =
      showing (some (showing shown ttl6 text6)) ttl4 text4 := by
  cases shown with
  | none => simp [showing, h4, h6, min_right_comm]
  | some known =>
    obtain ⟨address, limit⟩ := known
    by_cases haddress : 0x3A ∈ address
    · simp [showing, haddress, h4, h6, min_right_comm limit ttl4]
    · simp [showing, haddress, min_right_comm limit ttl4]

/-- Only an address record of the host changes what it shows. -/
theorem onShown_cases (name : Bytes) (record : Record) :
    (∀ shown, onShown name shown record = shown) ∨
      (∃ ttl text, record = .a name ttl text) ∨ ∃ ttl text, record = .aaaa name ttl text := by
  cases record with
  | a owner ttl text =>
    by_cases howner : owner = name
    · exact .inr (.inl ⟨ttl, text, by rw [howner]⟩)
    · exact .inl fun shown => if_neg howner
  | aaaa owner ttl text =>
    by_cases howner : owner = name
    · exact .inr (.inr ⟨ttl, text, by rw [howner]⟩)
    · exact .inl fun shown => if_neg howner
  | ptr instanceName ttl => exact .inl fun shown => rfl
  | srv owner ttl port target => exact .inl fun shown => rfl
  | txt owner ttl id => exact .inl fun shown => rfl
  | ignored => exact .inl fun shown => rfl

theorem onShown_comm {records : List Record} (h : Regular records) (name : Bytes) {x y : Record}
    (hx : x ∈ records) (hy : y ∈ records) (shown : Option (Bytes × UInt32)) :
    onShown name (onShown name shown x) y = onShown name (onShown name shown y) x := by
  obtain hskip | ⟨ttl, text, rfl⟩ | ⟨ttl, text, rfl⟩ := onShown_cases name x
  · rw [hskip, hskip]
  · obtain hskip | ⟨ttl', text', rfl⟩ | ⟨ttl', text', rfl⟩ := onShown_cases name y
    · rw [hskip, hskip]
    · rw [h.once _ hx _ hy (Option.some_ne_none _) rfl]
    · simp only [onShown, if_true]
      rw [showing_comm shown (h.ipv4 name ttl text hx) (h.ipv6 name ttl' text' hy)]
  · obtain hskip | ⟨ttl', text', rfl⟩ | ⟨ttl', text', rfl⟩ := onShown_cases name y
    · rw [hskip, hskip]
    · simp only [onShown, if_true]
      rw [showing_comm shown (h.ipv4 name ttl' text' hy) (h.ipv6 name ttl text hx)]
    · rw [h.once _ hx _ hy (Option.some_ne_none _) rfl]

/-- **What a host shows does not depend on the order of the records.** -/
theorem shown_perm {records records' : List Record} (h : Regular records)
    (hperm : records'.Perm records) (name : Bytes) (shown : Option (Bytes × UInt32)) :
    records'.foldl (onShown name) shown = records.foldl (onShown name) shown :=
  (hperm.symm.foldl_eq' (fun _ hx _ hy => onShown_comm h name hx hy) shown).symm

/-! ### The entry of an instance -/

theorem onEntry_ptr (key : Bytes) (entry : Option DiscoveryRecord) (ttl : UInt32) :
    onEntry key entry (.ptr key ttl) = some (onPtr key ttl (entry.getD {})) := if_pos rfl

theorem onEntry_srv (key : Bytes) (entry : Option DiscoveryRecord) (ttl : UInt32) (port : UInt16)
    (host : Option Bytes) :
    onEntry key entry (.srv key ttl port host) =
      some (onSrv key ttl port host (entry.getD {})) := if_pos rfl

theorem onEntry_txt (key : Bytes) (entry : Option DiscoveryRecord) (ttl : UInt32)
    (id : Option Bytes) :
    onEntry key entry (.txt key ttl id) = some (onTxt key ttl id (entry.getD {})) := if_pos rfl

/-- Only a PTR, SRV or TXT record of the instance changes its entry. -/
theorem onEntry_cases (key : Bytes) (record : Record) :
    (∀ entry, onEntry key entry record = entry) ∨ (∃ ttl, record = .ptr key ttl) ∨
      (∃ ttl port host, record = .srv key ttl port host) ∨ ∃ ttl id, record = .txt key ttl id := by
  cases record with
  | ptr instanceName ttl =>
    by_cases hkey : instanceName = key
    · exact .inr (.inl ⟨ttl, by rw [hkey]⟩)
    · exact .inl fun entry => if_neg hkey
  | srv name ttl port host =>
    by_cases hkey : name = key
    · exact .inr (.inr (.inl ⟨ttl, port, host, by rw [hkey]⟩))
    · exact .inl fun entry => if_neg hkey
  | txt name ttl id =>
    by_cases hkey : name = key
    · exact .inr (.inr (.inr ⟨ttl, id, by rw [hkey]⟩))
    · exact .inl fun entry => if_neg hkey
  | a owner ttl text => exact .inl fun entry => rfl
  | aaaa owner ttl text => exact .inl fun entry => rfl
  | ignored => exact .inl fun entry => rfl

/-- The SRV target of an instance after a record. -/
def onTarget (key : Bytes) (target : Bytes) : Record → Bytes
  | .srv name _ _ host => if name = key then host.getD target else target
  | .ptr .. | .txt .. | .a .. | .aaaa .. | .ignored => target

/-- The host of an instance: the target of its SRV record, else the host it had. -/
def targetOf (records : List Record) (found : Found) (key : Bytes) : Bytes :=
  records.foldl (onTarget key) (found[key]?.getD {}).host

theorem onEntry_host (key : Bytes) (entry : Option DiscoveryRecord) (record : Record) :
    ((onEntry key entry record).getD {}).host = onTarget key (entry.getD {}).host record := by
  cases record with
  | ptr instanceName ttl =>
    rw [onEntry]
    split <;> rfl
  | srv name ttl port host =>
    rw [onEntry, onTarget]
    split <;> rfl
  | txt name ttl id =>
    rw [onEntry]
    split <;> rfl
  | a owner ttl text => rfl
  | aaaa owner ttl text => rfl
  | ignored => rfl

theorem foldl_entry_host (records : List Record) (key : Bytes) (entry : Option DiscoveryRecord) :
    ((records.foldl (onEntry key) entry).getD {}).host =
      records.foldl (onTarget key) (entry.getD {}).host := by
  induction records generalizing entry with
  | nil => rfl
  | cons record records ih => rw [List.foldl_cons, List.foldl_cons, ih, onEntry_host]

theorem onTarget_comm {records : List Record} (h : Regular records) (key : Bytes) {x y : Record}
    (hx : x ∈ records) (hy : y ∈ records) (target : Bytes) :
    onTarget key (onTarget key target x) y = onTarget key (onTarget key target y) x := by
  have cases' (record : Record) : (∀ target, onTarget key target record = target) ∨
      ∃ ttl port host, record = .srv key ttl port host := by
    cases record with
    | srv name ttl port host =>
      by_cases hkey : name = key
      · exact .inr ⟨ttl, port, host, by rw [hkey]⟩
      · exact .inl fun target => if_neg hkey
    | ptr instanceName ttl => exact .inl fun target => rfl
    | txt name ttl id => exact .inl fun target => rfl
    | a owner ttl text => exact .inl fun target => rfl
    | aaaa owner ttl text => exact .inl fun target => rfl
    | ignored => exact .inl fun target => rfl
  obtain hskip | ⟨ttl, port, host, rfl⟩ := cases' x
  · rw [hskip, hskip]
  · obtain hskip | ⟨ttl', port', host', rfl⟩ := cases' y
    · rw [hskip, hskip]
    · rw [h.once _ hx _ hy (Option.some_ne_none _) rfl]

theorem target_perm {records records' : List Record} (h : Regular records)
    (hperm : records'.Perm records) (found : Found) (key : Bytes) :
    targetOf records' found key = targetOf records found key :=
  (hperm.symm.foldl_eq' (fun _ hx _ hy => onTarget_comm h key hx hy) _).symm

/-- What the host of an instance shows after a packet. -/
def hostShown (records : List Record) (found : Found) (key : Bytes) : Option (Bytes × UInt32) :=
  records.foldl (onShown (targetOf records found key)) none

/-- **What is seen of an instance**, with the host of its own. -/
theorem seen_entry (records : List Record) (found : Found) (key : Bytes) :
    (seen (answer records found))[key]? = (records.foldl (onEntry key) found[key]?).map
      (capped (hostShown records found key)) := by
  rw [seen_answer, hostShown]
  have hhost := foldl_entry_host records key found[key]?
  cases hfold : records.foldl (onEntry key) found[key]? with
  | none => rfl
  | some receiver =>
    rw [hfold, Option.getD_some] at hhost
    rw [Option.map_some, Option.map_some, targetOf, ← hhost,
      shown_foldl records receiver.host none (by intro known hknown; cases hknown)]
    rfl

/-! ### Limits -/

/-- The host shows a TTL of zero. -/
def hostLeaves (host : Option (Bytes × UInt32)) : Bool := decide (host.map Prod.snd = some 0)

theorem cap_eq_zero (host : Option (Bytes × UInt32)) (ttl : UInt32) :
    (decide (ttl = 0) || hostLeaves host) = decide (cap host ttl = 0) := by
  rw [hostLeaves, ← Bool.decide_or]
  apply decide_eq_decide.2
  cases host with
  | none => simp [cap]
  | some shown =>
    rw [cap, ← UInt32.toNat_inj, ← UInt32.toNat_inj, toNat_min]
    show ttl.toNat = 0 ∨ some shown.2 = some 0 ↔ min ttl.toNat shown.2.toNat = 0
    rw [Option.some.injEq, ← UInt32.toNat_inj]
    show ttl.toNat = 0 ∨ shown.2.toNat = 0 ↔ min ttl.toNat shown.2.toNat = 0
    omega

theorem cap_min (host : Option (Bytes × UInt32)) (x y : UInt32) :
    cap host (min x y) = min (cap host x) y := by
  cases host with
  | none => rfl
  | some shown => exact min_right_comm x y shown.2

theorem cap_cap (host : Option (Bytes × UInt32)) (ttl : UInt32) :
    cap host (cap host ttl) = cap host ttl := by
  cases host with
  | none => rfl
  | some shown =>
    apply UInt32.toNat_inj.1
    show (min (min ttl shown.2) shown.2).toNat = (min ttl shown.2).toNat
    rw [toNat_min, toNat_min]
    omega

theorem min_eq_iff (x y : UInt32) : min x y = x ↔ x ≤ y := by
  rw [← UInt32.toNat_inj, toNat_min, UInt32.le_iff_toNat_le]
  omega

theorem leaves_again (x y z : Bool) : (x || y || z || y) = (x || z || y) := by
  cases x <;> cases y <;> cases z <;> rfl

/-- Capping twice is capping once, whatever a record does in between. -/
theorem capped_onEntry (host : Option (Bytes × UInt32)) (key : Bytes)
    (entry : Option DiscoveryRecord) (record : Record) :
    (onEntry key (entry.map (capped host)) record).map (capped host) =
      (onEntry key entry record).map (capped host) := by
  have haddress (address : Bytes) : (host.map Prod.fst).getD ((host.map Prod.fst).getD address) =
      (host.map Prod.fst).getD address := by cases host <;> rfl
  cases entry with
  | none => rfl
  | some receiver =>
    obtain hskip | ⟨ttl, rfl⟩ | ⟨ttl, port, target, rfl⟩ | ⟨ttl, id, rfl⟩ :=
      onEntry_cases key record
    · rw [hskip, hskip]
      simp only [Option.map_some, capped, cap_cap, Bool.or_assoc, Bool.or_self, haddress]
    · simp only [onEntry, if_true, Option.map_some, Option.getD_some, capped, onPtr, named,
        haddress]
    · simp only [onEntry, if_true, Option.map_some, Option.getD_some, capped, onSrv, named,
        haddress, cap_min, cap_cap, leaves_again]
    · simp only [onEntry, if_true, Option.map_some, Option.getD_some, capped, onTxt, named,
        haddress, cap_min, cap_cap, leaves_again]

theorem capped_foldl (host : Option (Bytes × UInt32)) (key : Bytes) (records : List Record)
    (entry : Option DiscoveryRecord) :
    (records.foldl (onEntry key) entry).map (capped host) =
      records.foldl (fun entry record => (onEntry key entry record).map (capped host))
        (entry.map (capped host)) := by
  induction records generalizing entry with
  | nil => rfl
  | cons record records ih => rw [List.foldl_cons, List.foldl_cons, ih, capped_onEntry]

/-- At `key` the PTR records agree on the TTL once it is limited, and no SRV or TXT record has a
smaller one. -/
def SettledAt (records : List Record) (key : Bytes) (limit : UInt32 → UInt32) : Prop :=
  ∀ ttl, .ptr key ttl ∈ records →
    (∀ ttl', .ptr key ttl' ∈ records → limit ttl' = limit ttl) ∧
      (∀ ttl' port host, .srv key ttl' port host ∈ records → limit ttl ≤ ttl') ∧
      ∀ ttl' id, .txt key ttl' id ∈ records → limit ttl ≤ ttl'

/-- A TTL that is no less than the limited one leaves the instance as it is. -/
theorem leaves_min {host : Option (Bytes × UInt32)} {ttl ttl' : UInt32}
    (hle : cap host ttl ≤ ttl') :
    (decide (ttl = 0) || decide (ttl' = 0) || hostLeaves host) =
      (decide (ttl = 0) || hostLeaves host) := by
  rw [Bool.or_right_comm, cap_eq_zero]
  by_cases hzero : ttl' = 0
  · have hcap : cap host ttl = 0 := by
      rw [hzero] at hle
      exact UInt32.toNat_inj.1 (Nat.le_zero.1 (UInt32.le_iff_toNat_le.1 hle))
    rw [decide_eq_true hcap, Bool.true_or]
  · rw [decide_eq_false hzero, Bool.or_false]

/-- **Two records of a settled packet commute**, once the TTL is limited. -/
theorem onEntry_comm {records : List Record} (h : Regular records) (key : Bytes)
    (host : Option (Bytes × UInt32)) (hsettled : SettledAt records key (cap host)) {x y : Record}
    (hx : x ∈ records) (hy : y ∈ records) (entry : Option DiscoveryRecord) :
    (onEntry key (onEntry key entry x) y).map (capped host) =
      (onEntry key (onEntry key entry y) x).map (capped host) := by
  have ptrFirst (ttl ttl' : UInt32) (hle : cap host ttl ≤ ttl') :
      min (cap host ttl) ttl' = cap host ttl := (min_eq_iff ..).2 hle
  have ptrSrv (ttl ttl' : UInt32) (port : UInt16) (target : Option Bytes)
      (hptr : .ptr key ttl ∈ records) (hsrv : .srv key ttl' port target ∈ records) :
      (onEntry key (onEntry key entry (.ptr key ttl)) (.srv key ttl' port target)).map
          (capped host) =
        (onEntry key (onEntry key entry (.srv key ttl' port target)) (.ptr key ttl)).map
          (capped host) := by
    have hle := (hsettled ttl hptr).2.1 ttl' port target hsrv
    have hleaves := leaves_min hle
    rw [hostLeaves] at hleaves
    simp only [onEntry, if_true, Option.map_some, Option.getD_some, capped, onPtr, onSrv, named,
      cap_min, ptrFirst ttl ttl' hle, hleaves]
  have ptrTxt (ttl ttl' : UInt32) (id : Option Bytes) (hptr : .ptr key ttl ∈ records)
      (htxt : .txt key ttl' id ∈ records) :
      (onEntry key (onEntry key entry (.ptr key ttl)) (.txt key ttl' id)).map (capped host) =
        (onEntry key (onEntry key entry (.txt key ttl' id)) (.ptr key ttl)).map (capped host) := by
    have hle := (hsettled ttl hptr).2.2 ttl' id htxt
    have hleaves := leaves_min hle
    rw [hostLeaves] at hleaves
    simp only [onEntry, if_true, Option.map_some, Option.getD_some, capped, onPtr, onTxt, named,
      cap_min, ptrFirst ttl ttl' hle, hleaves]
  have srvTxt (ttl ttl' : UInt32) (port : UInt16) (target id : Option Bytes) :
      onEntry key (onEntry key entry (.srv key ttl port target)) (.txt key ttl' id) =
        onEntry key (onEntry key entry (.txt key ttl' id)) (.srv key ttl port target) := by
    simp only [onEntry, if_true, Option.getD_some, onTxt, onSrv, named, min_right_comm _ ttl ttl',
      Bool.or_right_comm _ (decide (ttl = 0)) (decide (ttl' = 0))]
  obtain hskip | ⟨ttl, rfl⟩ | ⟨ttl, port, target, rfl⟩ | ⟨ttl, id, rfl⟩ := onEntry_cases key x
  · rw [hskip, hskip]
  · obtain hskip | ⟨ttl', rfl⟩ | ⟨ttl', port, target, rfl⟩ | ⟨ttl', id, rfl⟩ := onEntry_cases key y
    · rw [hskip, hskip]
    · have hsame := (hsettled ttl hx).1 ttl' hy
      have hleaves :
          (decide (ttl' = 0) || hostLeaves host) = (decide (ttl = 0) || hostLeaves host) := by
        rw [cap_eq_zero, cap_eq_zero, hsame]
      rw [hostLeaves] at hleaves
      simp only [onEntry, if_true, Option.map_some, Option.getD_some, capped, onPtr, named, hsame,
        hleaves]
    · exact ptrSrv ttl ttl' port target hx hy
    · exact ptrTxt ttl ttl' id hx hy
  · obtain hskip | ⟨ttl', rfl⟩ | ⟨ttl', port', target', rfl⟩ | ⟨ttl', id, rfl⟩ :=
      onEntry_cases key y
    · rw [hskip, hskip]
    · exact (ptrSrv ttl' ttl port target hy hx).symm
    · rw [h.once _ hx _ hy (Option.some_ne_none _) rfl]
    · rw [srvTxt]
  · obtain hskip | ⟨ttl', rfl⟩ | ⟨ttl', port, target, rfl⟩ | ⟨ttl', id', rfl⟩ := onEntry_cases key y
    · rw [hskip, hskip]
    · exact (ptrTxt ttl' ttl id hy hx).symm
    · rw [srvTxt]
    · rw [h.once _ hx _ hy (Option.some_ne_none _) rfl]

/-! ### Every order -/

theorem hostShown_perm {records records' : List Record} (h : Regular records)
    (hperm : records'.Perm records) (found : Found) (key : Bytes) :
    hostShown records' found key = hostShown records found key := by
  rw [hostShown, target_perm h hperm, shown_perm h hperm]
  rfl

/-- **Settled records give the same receivers in every order.** -/
theorem seen_perm {records records' : List Record} (h : Regular records) (found : Found)
    (hsettled : ∀ key, SettledAt records key (cap (hostShown records found key)))
    (hperm : records'.Perm records) :
    seen (answer records' found) = seen (answer records found) := by
  apply Std.ExtTreeMap.ext_getElem?
  intro key
  have hhost := hostShown_perm h hperm found key
  rw [seen_entry, seen_entry, hhost, capped_foldl, capped_foldl]
  refine (hperm.symm.foldl_eq' (fun x hx y hy entry => ?_) _).symm
  rw [capped_onEntry, capped_onEntry]
  exact onEntry_comm h key _ (hsettled key) hx hy entry

theorem exists_perm_last {α : Type} {items : List α} {x : α} (hx : x ∈ items) :
    ∃ rest, (rest ++ [x]).Perm items := by
  obtain ⟨before, after, rfl⟩ := List.append_of_mem hx
  refine ⟨before ++ after, ?_⟩
  rw [List.append_assoc]
  exact List.Perm.append_left before List.perm_append_comm

theorem exists_perm_last_two {α : Type} {items : List α} {x y : α} (hx : x ∈ items)
    (hy : y ∈ items) (hne : x ≠ y) : ∃ rest, (rest ++ [x, y]).Perm items := by
  obtain ⟨rest, hrest⟩ := exists_perm_last hy
  have hmem : x ∈ rest := by
    have hboth := hrest.mem_iff.2 hx
    rw [List.mem_append, List.mem_singleton] at hboth
    exact hboth.resolve_right hne
  obtain ⟨rest', hrest'⟩ := exists_perm_last hmem
  refine ⟨rest', List.Perm.trans ?_ hrest⟩
  rw [show rest' ++ [x, y] = rest' ++ [x] ++ [y] by rw [List.append_assoc]; rfl]
  exact hrest'.append_right [y]

/-- The TTL that is seen at `key`. -/
def seenTtl (records : List Record) (found : Found) (key : Bytes) : Option UInt32 :=
  (seen (answer records found))[key]?.map DiscoveryRecord.ttlSeconds

theorem seenTtl_ptr (records : List Record) (found : Found) (key : Bytes) (ttl : UInt32) :
    seenTtl (records ++ [.ptr key ttl]) found key =
      some (cap (hostShown (records ++ [.ptr key ttl]) found key) ttl) := by
  rw [seenTtl, seen_entry, List.foldl_append, List.foldl_cons, List.foldl_nil, onEntry_ptr]
  rfl

theorem seenTtl_srv (records : List Record) (found : Found) (key : Bytes) (ttl ttl' : UInt32)
    (port : UInt16) (target : Option Bytes) :
    seenTtl (records ++ [.ptr key ttl, .srv key ttl' port target]) found key = some
      (min (cap (hostShown (records ++ [.ptr key ttl, .srv key ttl' port target]) found key) ttl)
        ttl') := by
  rw [← cap_min, seenTtl, seen_entry, List.foldl_append, List.foldl_cons, List.foldl_cons,
    List.foldl_nil, onEntry_ptr, onEntry_srv]
  rfl

theorem seenTtl_txt (records : List Record) (found : Found) (key : Bytes) (ttl ttl' : UInt32)
    (id : Option Bytes) :
    seenTtl (records ++ [.ptr key ttl, .txt key ttl' id]) found key = some
      (min (cap (hostShown (records ++ [.ptr key ttl, .txt key ttl' id]) found key) ttl) ttl') := by
  rw [← cap_min, seenTtl, seen_entry, List.foldl_append, List.foldl_cons, List.foldl_cons,
    List.foldl_nil, onEntry_ptr, onEntry_txt]
  rfl

/-- **Records that give the same receivers in every order are settled.** -/
theorem settled_of_perm {α : Type} (content : α → Record) {items : List α}
    (h : Regular (items.map content)) (found : Found)
    (hall : ∀ items' : List α, items'.Perm items →
      seen (answer (items'.map content) found) = seen (answer (items.map content) found))
    (key : Bytes) :
    SettledAt (items.map content) key (cap (hostShown (items.map content) found key)) := by
  have sameTtl (items' : List α) (hperm : items'.Perm items) :
      seenTtl (items'.map content) found key = seenTtl (items.map content) found key := by
    rw [seenTtl, hall items' hperm]
    rfl
  have ptrLast (ttl : UInt32) (hptr : .ptr key ttl ∈ items.map content) :
      seenTtl (items.map content) found key =
        some (cap (hostShown (items.map content) found key) ttl) := by
    obtain ⟨x, hx, hcontent⟩ := List.mem_map.1 hptr
    obtain ⟨rest, hperm⟩ := exists_perm_last hx
    have hlast : (rest ++ [x]).map content = rest.map content ++ [.ptr key ttl] := by
      rw [List.map_append, ← hcontent]
      rfl
    rw [← sameTtl _ hperm, ← hostShown_perm h (hperm.map content), hlast, seenTtl_ptr]
  have bothLast (ttl : UInt32) (hptr : .ptr key ttl ∈ items.map content) (y : Record)
      (hy : y ∈ items.map content) (hne : .ptr key ttl ≠ y) :
      ∃ rest : List α, (rest.map content ++ [.ptr key ttl, y]).Perm (items.map content) ∧
        seenTtl (rest.map content ++ [.ptr key ttl, y]) found key =
          some (cap (hostShown (items.map content) found key) ttl) := by
    obtain ⟨item, hitem, hcontent⟩ := List.mem_map.1 hptr
    obtain ⟨item', hitem', hcontent'⟩ := List.mem_map.1 hy
    have hdistinct : item ≠ item' := by
      intro heq
      rw [← hcontent, ← hcontent', heq] at hne
      exact hne rfl
    obtain ⟨rest, hperm⟩ := exists_perm_last_two hitem hitem' hdistinct
    have hlast : (rest ++ [item, item']).map content = rest.map content ++ [.ptr key ttl, y] := by
      rw [List.map_append, ← hcontent, ← hcontent']
      rfl
    refine ⟨rest, ?_, ?_⟩
    · rw [← hlast]
      exact hperm.map content
    · rw [← ptrLast ttl hptr, ← sameTtl _ hperm, hlast]
  intro ttl hptr
  refine ⟨fun ttl' hptr' => ?_, fun ttl' port host hsrv => ?_, fun ttl' id htxt => ?_⟩
  · exact Option.some.inj ((ptrLast ttl' hptr').symm.trans (ptrLast ttl hptr))
  · obtain ⟨rest, hperm, hlast⟩ := bothLast ttl hptr _ hsrv (by simp)
    rw [seenTtl_srv, hostShown_perm h hperm] at hlast
    exact (min_eq_iff ..).1 (Option.some.inj hlast)
  · obtain ⟨rest, hperm, hlast⟩ := bothLast ttl hptr _ htxt (by simp)
    rw [seenTtl_txt, hostShown_perm h hperm] at hlast
    exact (min_eq_iff ..).1 (Option.some.inj hlast)

/-! ### The condition on the records -/

/-- The TTLs of the addresses of a host. -/
def addressTtls (records : List Record) (host : Bytes) : List UInt32 :=
  records.filterMap fun
    | .a owner ttl _ => if owner = host then some ttl else none
    | .aaaa owner ttl _ => if owner = host then some ttl else none
    | .ptr .. | .srv .. | .txt .. | .ignored => none

/-- A TTL, limited by those of the addresses and, if there are any, by 120. -/
def limited (ttls : List UInt32) (ttl : UInt32) : UInt32 :=
  if ttls = [] then ttl else ttls.foldl min (min ttl 120)

/-- **The condition.**  For each instance the PTR records agree on the TTL, limited by the addresses
of its host, and neither its SRV record nor its TXT record has a smaller TTL. -/
def Settled (records : List Record) (found : Found) : Prop :=
  ∀ key, SettledAt records key (limited (addressTtls records (targetOf records found key)))

theorem foldl_min (ttls : List UInt32) (x y : UInt32) :
    ttls.foldl min (min x y) = min x (ttls.foldl min y) := by
  induction ttls generalizing y with
  | nil => rfl
  | cons ttl ttls ih =>
    have hassoc : min (min x y) ttl = min x (min y ttl) := by
      apply UInt32.toNat_inj.1
      rw [toNat_min, toNat_min, toNat_min, toNat_min, Nat.min_assoc]
    rw [List.foldl_cons, List.foldl_cons, hassoc, ih]

theorem addressTtls_cons (record : Record) (records : List Record) (host : Bytes) :
    addressTtls (record :: records) host =
      addressTtls [record] host ++ addressTtls records host := by
  rw [addressTtls, addressTtls, addressTtls, ← List.filterMap_append]
  rfl

/-- The TTL that a host shows after a record. -/
theorem onShown_ttl (name : Bytes) (shown : Option (Bytes × UInt32)) (record : Record) :
    (onShown name shown record).map Prod.snd =
      if addressTtls [record] name = [] then shown.map Prod.snd
      else some ((addressTtls [record] name).foldl min ((shown.map Prod.snd).getD 120)) := by
  have atAddress (owner : Bytes) (ttl : UInt32) (text : Bytes) :
      (if owner = name then some (showing shown ttl text) else shown).map Prod.snd =
        if addressTtls [.a owner ttl text] name = [] then shown.map Prod.snd
        else some ((addressTtls [.a owner ttl text] name).foldl min
          ((shown.map Prod.snd).getD 120)) := by
    by_cases howner : owner = name
    · have httls : addressTtls [.a owner ttl text] name = [ttl] := by simp [addressTtls, howner]
      rw [if_pos howner, httls, if_neg (List.cons_ne_nil _ _)]
      cases shown <;> rfl
    · have httls : addressTtls [.a owner ttl text] name = [] := by simp [addressTtls, howner]
      rw [if_neg howner, httls, if_pos rfl]
  cases record with
  | a owner ttl text => exact atAddress owner ttl text
  | aaaa owner ttl text => exact atAddress owner ttl text
  | ptr instanceName ttl => rfl
  | srv owner ttl port target => rfl
  | txt owner ttl id => rfl
  | ignored => rfl

theorem foldl_onShown_ttl (records : List Record) (name : Bytes)
    (shown : Option (Bytes × UInt32)) :
    (records.foldl (onShown name) shown).map Prod.snd =
      if addressTtls records name = [] then shown.map Prod.snd
      else some ((addressTtls records name).foldl min ((shown.map Prod.snd).getD 120)) := by
  induction records generalizing shown with
  | nil => rfl
  | cons record records ih =>
    rw [List.foldl_cons, ih, onShown_ttl, addressTtls_cons record records]
    by_cases hrecord : addressTtls [record] name = []
    · rw [if_pos hrecord, hrecord, List.nil_append]
    · rw [if_neg hrecord, if_neg (List.append_ne_nil_of_left_ne_nil hrecord _), List.foldl_append,
        Option.getD_some]
      split
      · rename_i hnil
        rw [hnil]
        rfl
      · rfl

theorem cap_hostShown (records : List Record) (found : Found) (key : Bytes) :
    cap (hostShown records found key) =
      limited (addressTtls records (targetOf records found key)) := by
  funext ttl
  have httl := foldl_onShown_ttl records (targetOf records found key) none
  rw [hostShown, limited]
  generalize records.foldl (onShown (targetOf records found key)) none = shown at httl
  split at httl
  · rename_i hnil
    rw [if_pos hnil]
    cases shown with
    | none => rfl
    | some known => cases httl
  · rename_i hne
    rw [if_neg hne, foldl_min]
    cases shown with
    | none => cases httl
    | some known => exact congrArg (min ttl) (Option.some.inj httl)

/-- **When the order does not matter**, for what the records of a packet say. -/
theorem answer_perm_iff {α : Type} (content : α → Record) {items : List α}
    (h : Regular (items.map content)) (found : Found) :
    (∀ items' : List α, items'.Perm items →
        seen (answer (items'.map content) found) = seen (answer (items.map content) found)) ↔
      Settled (items.map content) found := by
  constructor
  · intro hall key
    rw [← cap_hostShown]
    exact settled_of_perm content h found hall key
  · intro hsettled items' hperm
    refine seen_perm h found (fun key => ?_) (hperm.map content)
    rw [cap_hostShown]
    exact hsettled key

/-! ### Packets -/

/-- An IPv4 address is written without a colon. -/
theorem inetNtop4_colon (octets : Bytes) : 0x3A ∉ inetNtop4 octets := by
  have hoctet : ∀ octet : UInt8, 0x3A ∉ ascii (toString octet.toNat) := by
    intro octet hmem
    rw [ascii, Nat.toString_eq_repr, Nat.toList_repr] at hmem
    obtain ⟨c, hc, hcolon⟩ := List.mem_map.1 hmem
    have hdigit := Nat.isDigit_of_mem_toDigits (by decide) (by decide) hc
    rw [Char.isDigit, Bool.and_eq_true, decide_eq_true_eq, decide_eq_true_eq] at hdigit
    have hsame : c.val.toNat % 256 = 0x3A := congrArg UInt8.toNat hcolon
    have hhigh : c.val.toNat ≤ 57 := hdigit.2
    omega
  intro hmem
  obtain hdot | ⟨part, hpart, hcolon⟩ := Labels.mem_dotted hmem
  · exact absurd hdot (by decide)
  · obtain ⟨octet, -, rfl⟩ := List.mem_map.1 hpart
    exact hoctet octet hcolon

section

variable {inetNtop6 : Bytes → Bytes}

/-- The owner and the type of a resource record. -/
def ResourceRecord.key (record : ResourceRecord) : Bytes × UInt16 :=
  (record.owner.text, record.rdata.type)

/-- What a plain record says, by its type. -/
theorem plainRecord_cases (inetNtop6 : Bytes → Bytes) (name : Bytes) (ttl : UInt32) (type : UInt16)
    (rdata : Bytes) : ResourceRecord.plainRecord inetNtop6 name ttl type rdata = .ignored ∨
      (type = kTypeTxt ∧ ResourceRecord.plainRecord inetNtop6 name ttl type rdata =
        .txt name ttl (txtId none rdata)) ∨
      (type = kTypeA ∧ ResourceRecord.plainRecord inetNtop6 name ttl type rdata =
        .a name ttl (inetNtop4 rdata)) ∨
      (type = kTypeAaaa ∧ rdata.length = 16 ∧
        ResourceRecord.plainRecord inetNtop6 name ttl type rdata =
          .aaaa name ttl (inetNtop6 rdata)) := by
  rw [ResourceRecord.plainRecord]
  by_cases htxt : type = kTypeTxt
  · exact .inr (.inl ⟨htxt, if_pos htxt⟩)
  · rw [if_neg htxt]
    by_cases ha : type = kTypeA
    · rw [if_pos ha]
      by_cases hfour : rdata.length = 4
      · exact .inr (.inr (.inl ⟨ha, if_neg (not_not_intro hfour)⟩))
      · exact .inl (if_pos hfour)
    · rw [if_neg ha]
      by_cases haaaa : type = kTypeAaaa
      · rw [if_pos haaaa]
        by_cases hsixteen : rdata.length = 16
        · exact .inr (.inr (.inr ⟨haaaa, hsixteen, if_neg (not_not_intro hsixteen)⟩))
        · exact .inl (if_pos hsixteen)
      · exact .inl (if_neg haaaa)

/-- The slot of what a record says is its owner and its type. -/
theorem slot_content (record : ResourceRecord) {slot : Bytes × UInt16}
    (h : (record.content inetNtop6).slot = some slot) : slot = record.key := by
  rw [ResourceRecord.content] at h
  rw [ResourceRecord.key]
  cases hrdata : record.rdata with
  | ptr target =>
    rw [hrdata] at h
    cases h
  | srv priority weight port target =>
    rw [hrdata] at h
    exact (Option.some.inj h).symm
  | plain type bytes other =>
    rw [hrdata] at h
    dsimp only at h
    obtain hcontent | ⟨htype, hcontent⟩ | ⟨htype, hcontent⟩ | ⟨htype, -, hcontent⟩ :=
      plainRecord_cases inetNtop6 record.owner.text record.ttl type bytes
    · rw [hcontent] at h
      cases h
    · rw [hcontent] at h
      rw [RData.type, htype]
      exact (Option.some.inj h).symm
    · rw [hcontent] at h
      rw [RData.type, htype]
      exact (Option.some.inj h).symm
    · rw [hcontent] at h
      rw [RData.type, htype]
      exact (Option.some.inj h).symm

/-- The text of an address record of a packet. -/
theorem address_content (record : ResourceRecord) {name : Bytes} {ttl : UInt32} {text : Bytes} :
    (record.content inetNtop6 = .a name ttl text → ∃ octets, text = inetNtop4 octets) ∧
      (record.content inetNtop6 = .aaaa name ttl text →
        ∃ octets, octets.length = 16 ∧ text = inetNtop6 octets) := by
  rw [ResourceRecord.content]
  cases hrdata : record.rdata with
  | ptr target => exact ⟨fun h => (by cases h), fun h => (by cases h)⟩
  | srv priority weight port target => exact ⟨fun h => (by cases h), fun h => (by cases h)⟩
  | plain type bytes other =>
    dsimp only
    obtain hcontent | ⟨-, hcontent⟩ | ⟨-, hcontent⟩ | ⟨-, hlength, hcontent⟩ := plainRecord_cases
      inetNtop6 record.owner.text record.ttl type bytes
    · rw [hcontent]
      exact ⟨fun h => (by cases h), fun h => (by cases h)⟩
    · rw [hcontent]
      exact ⟨fun h => (by cases h), fun h => (by cases h)⟩
    · rw [hcontent]
      exact ⟨fun h => ⟨bytes, (Record.a.inj h).2.2.symm⟩, fun h => (by cases h)⟩
    · rw [hcontent]
      exact ⟨fun h => (by cases h), fun h => ⟨bytes, hlength, (Record.aaaa.inj h).2.2.symm⟩⟩

theorem regular_content {records : List ResourceRecord}
    (hcolon : ∀ octets : Bytes, octets.length = 16 → 0x3A ∈ inetNtop6 octets)
    (honce : (records.map ResourceRecord.key).Nodup) :
    Regular (records.map (ResourceRecord.content inetNtop6)) where
  once := by
    intro x hx y hy hsome hslot
    obtain ⟨record, hrecord, rfl⟩ := List.mem_map.1 hx
    obtain ⟨record', hrecord', rfl⟩ := List.mem_map.1 hy
    obtain ⟨slot, hsome⟩ := Option.ne_none_iff_exists'.1 hsome
    have hkey : record.key = record'.key :=
      (slot_content record hsome).symm.trans (slot_content record' (hslot.symm.trans hsome))
    rw [List.inj_on_of_nodup_map honce hrecord hrecord' hkey]
  ipv4 := by
    intro name ttl text hmem
    obtain ⟨record, -, hcontent⟩ := List.mem_map.1 hmem
    obtain ⟨octets, rfl⟩ := (address_content record).1 hcontent
    exact inetNtop4_colon octets
  ipv6 := by
    intro name ttl text hmem
    obtain ⟨record, -, hcontent⟩ := List.mem_map.1 hmem
    obtain ⟨octets, hlength, rfl⟩ := (address_content record).2 hcontent
    exact hcolon octets hlength

end

/-- A packet with its records in another order. -/
def Packet.reorder (packet : Packet) {records : List ResourceRecord}
    (h : records.Perm packet.records) : Packet :=
  { packet with
    records := records
    counts := packet.counts.trans h.length_eq.symm }

/-- **When the order of the records does not matter.**  In a packet in which each owner has each
type at most once, every order of the records gives the same receivers, but for the lists of their
addresses, exactly if the records are settled. -/
theorem order_irrelevant_iff (inetNtop6 : Bytes → Bytes)
    (hcolon : ∀ octets : Bytes, octets.length = 16 → 0x3A ∈ inetNtop6 octets) (packet : Packet)
    (honce : (packet.records.map ResourceRecord.key).Nodup) (found : Found) :
    (∀ (records : List ResourceRecord) (h : records.Perm packet.records),
        seen (parseResponse inetNtop6 (packet.reorder h).bytes found) =
          seen (parseResponse inetNtop6 packet.bytes found)) ↔
      Settled (packet.content inetNtop6) found := by
  have hparse (packet : Packet) : parseResponse inetNtop6 packet.bytes found =
      answer (packet.content inetNtop6) found := by
    have hread := parseResponse_packet inetNtop6 packet [] found
    rwa [List.append_nil] at hread
  rw [Packet.content, ← answer_perm_iff _ (regular_content hcolon honce) found]
  constructor
  · intro hall records hperm
    have hsame := hall records hperm
    rw [hparse, hparse] at hsame
    exact hsame
  · intro hall records hperm
    rw [hparse, hparse]
    exact hall records hperm

/-- An instance with two records: its PTR record and an SRV record with a TTL of its own. -/
def twoRecords (ttl : UInt32) : Packet :=
  let instanceName := nameOf (ascii "iPad" :: serviceLabels) isLabel_iPad
  { id := 0
    flags := 0x8400
    answers := 2
    authorities := 0
    additionals := 0
    questions := []
    records := [
      ⟨nameOf serviceLabels isLabel_service, 1, 120, .ptr instanceName, by decide⟩,
      ⟨instanceName, 1, ttl, .srv 0 0 9000 (nameOf [ascii "iPad", ascii "local"] (by decide)),
        by show _ < 65536; decide⟩]
    questions_lt := noQuestions_lt
    counts := twoAnswers_count }

theorem order_irrelevant_iff_sameTtl :
    seen (parseResponse (fun _ => ascii "::")
        ((twoRecords 120).reorder (List.reverse_perm (twoRecords 120).records)).bytes ∅) =
      seen (parseResponse (fun _ => ascii "::") (twoRecords 120).bytes ∅) := by
  refine (order_irrelevant_iff (fun _ => ascii "::") (fun _ _ => by decide) (twoRecords 120)
    (by decide) ∅).2 (fun key ttl hptr => ?_) _ (List.reverse_perm (twoRecords 120).records)
  have hlimit (ttl : UInt32) : limited (addressTtls ((twoRecords 120).content fun _ => ascii "::")
      (targetOf ((twoRecords 120).content fun _ => ascii "::") ∅ key)) ttl = ttl := rfl
  have hsame : ∀ record ∈ (twoRecords 120).content fun _ => ascii "::",
      (∀ key ttl, record = .ptr key ttl → ttl = 120) ∧
        (∀ key ttl port host, record = .srv key ttl port host → ttl = 120) ∧
          ∀ key ttl id, record ≠ .txt key ttl id := by
    intro record hmem
    obtain rfl | hmem := List.mem_cons.1 hmem
    · exact ⟨fun _ _ h => (Record.ptr.inj h).2.symm, fun _ _ _ _ h => (by cases h),
        fun _ _ _ h => (by cases h)⟩
    · obtain rfl := List.mem_singleton.1 hmem
      exact ⟨fun _ _ h => (by cases h), fun _ _ _ _ h => (Record.srv.inj h).2.1.symm,
        fun _ _ _ h => (by cases h)⟩
  refine ⟨fun ttl' hptr' => ?_, fun ttl' port host hsrv => ?_, fun ttl' id htxt => ?_⟩
  · rw [hlimit, hlimit, (hsame _ hptr).1 key ttl rfl, (hsame _ hptr').1 key ttl' rfl]
  · rw [hlimit, (hsame _ hptr).1 key ttl rfl, (hsame _ hsrv).2.1 key ttl' port host rfl]
    decide
  · exact absurd rfl ((hsame _ htxt).2.2 key ttl' id)

/-- A receiver that leaves by its SRV record is back if the PTR record comes last. -/
theorem order_irrelevant_fails_leaving :
    ¬∀ (inetNtop6 : Bytes → Bytes) (packet : Packet) (found : Found)
      (records : List ResourceRecord) (h : records.Perm packet.records),
      (∀ octets : Bytes, octets.length = 16 → 0x3A ∈ inetNtop6 octets) →
      (packet.records.map ResourceRecord.key).Nodup →
      seen (parseResponse inetNtop6 (packet.reorder h).bytes found) =
        seen (parseResponse inetNtop6 packet.bytes found) := by
  intro hall
  have hsame := hall (fun _ => ascii "::") (twoRecords 0) ∅ (twoRecords 0).records.reverse
    (List.reverse_perm _) (fun _ _ => by decide) (by decide)
  have hfirst : (seen (parseResponse (fun _ => ascii "::") (twoRecords 0).bytes ∅)).toList.map
      (fun entry => entry.2.online) = [false] := by decide +kernel
  have hlast : (seen (parseResponse (fun _ => ascii "::") ((twoRecords 0).reorder
      (List.reverse_perm (twoRecords 0).records)).bytes ∅)).toList.map
      (fun entry => entry.2.online) = [true] := by decide +kernel
  rw [hsame, hfirst] at hlast
  exact absurd hlast (by decide)

end SecondDisplay.Mdns
