import SecondDisplay.Library.Access
import SecondDisplay.Net.MdnsService

/-!
# Parsing a packet reads only the packet (`net/Mdns.cpp`)

Here `ReadName` and `ParseResponse` are written once more, with every `data[i]`, every range that
is copied and every `front()` of the source as a checked access behind the guards that the source
has.  Each of them returns a value on every packet, the same value as the function of
`SecondDisplay.Mdns` that it stands for (`readName_ok`, `parseResponse_ok`): no access is ever
outside.  The strings of a TXT record are read from the packet as it ends with the record.
-/

namespace SecondDisplay.MdnsReads

open SecondDisplay.Access
open Mdns (Found Hosts HostAddress Record)

/-! ### Names -/

/-- Where the loop of `ReadName` is. -/
structure Walk where
  cursor : Nat
  after : Nat
  hops : Nat
  out : Bytes

/-- The loop at its start. -/
def Walk.start (pos : Nat) : Walk := { cursor := pos, after := 0, hops := 0, out := [] }

/-- What a turn of the loop leads to: it returns, or goes on. -/
inductive Turn where
  | done (result : Option (Bytes × Nat))
  | next (walk : Walk)

/-- One turn of the loop, with the test at its head. -/
def turn (data : Bytes) (walk : Walk) : Checked Turn :=
  if walk.cursor < data.length then do
    let length ← get data walk.cursor
    if length = 0 then
      pure (.done (some (walk.out, if walk.after ≠ 0 then walk.after else walk.cursor + 1)))
    else if length &&& 0xC0 = 0xC0 then
      if data.length ≤ walk.cursor + 1 ∨ 16 < walk.hops + 1 then pure (.done none)
      else do
        let low ← get data (walk.cursor + 1)
        pure (.next
          { cursor := ((length &&& 0x3F).toNat <<< 8) ||| low.toNat
            after := if walk.after = 0 then walk.cursor + 2 else walk.after
            hops := walk.hops + 1
            out := walk.out })
    else if data.length < walk.cursor + 1 + length.toNat then pure (.done none)
    else do
      let label ← slice data (walk.cursor + 1) length.toNat
      pure (.next
        { walk with
          cursor := walk.cursor + 1 + length.toNat
          out := (if walk.out ≠ [] then walk.out ++ [0x2E] else walk.out) ++ label })
  else pure (.done none)

/-- A turn that goes on: it follows one of at most sixteen pointers, or the offset grows. -/
def Forward (walk next : Walk) : Prop :=
  (next.hops = walk.hops + 1 ∧ next.hops ≤ 16) ∨
    (next.hops = walk.hops ∧ walk.cursor < next.cursor)

/-- The rest of a name, as the unchecked loop reads it. -/
def Walk.read (data : Bytes) (walk : Walk) : Option (Bytes × Nat) :=
  Mdns.readNameFrom data walk.cursor walk.after walk.hops walk.out

/-- What a turn leads to fits the unchecked loop. -/
def Turn.Fits (data : Bytes) (walk : Walk) : Turn → Prop
  | .done result => walk.read data = result
  | .next further =>
    walk.cursor < data.length ∧ Forward walk further ∧ walk.read data = further.read data

/-- **A turn of the loop.**  It reads only the packet, does what the unchecked loop does, and goes
forward if the loop goes on. -/
theorem turn_ok (data : Bytes) (walk : Walk) :
    ∃ result, turn data walk = .ok result ∧ result.Fits data walk := by
  by_cases hinside : walk.cursor < data.length
  · have hdrop : data.drop walk.cursor = data[walk.cursor] :: data.drop (walk.cursor + 1) :=
      List.drop_eq_getElem_cons hinside
    rw [turn, if_pos hinside, get_of_lt hinside, ok_bind]
    generalize data[walk.cursor] = length at hdrop ⊢
    by_cases hzero : length = 0
    · rw [if_pos hzero, pure_eq]
      rw [hzero] at hdrop
      exact ⟨_, rfl, Mdns.readNameFrom_zero hdrop ..⟩
    · rw [if_neg hzero]
      by_cases hmask : length &&& 0xC0 = 0xC0
      · rw [if_pos hmask]
        by_cases hcut : data.length ≤ walk.cursor + 1
        · rw [if_pos (.inl hcut), pure_eq]
          rw [List.drop_eq_nil_of_le hcut] at hdrop
          exact ⟨_, rfl, Mdns.readNameFrom_cut hdrop hzero hmask ..⟩
        · have hlow := Nat.lt_of_not_le hcut
          rw [List.drop_eq_getElem_cons hlow] at hdrop
          have hread := Mdns.readNameFrom_pointer hdrop hzero hmask walk.after walk.hops walk.out
          by_cases hhops : 16 < walk.hops + 1
          · rw [if_pos (.inr hhops), pure_eq]
            rw [if_pos hhops] at hread
            exact ⟨_, rfl, hread⟩
          · rw [if_neg (not_or.2 ⟨hcut, hhops⟩), get_of_lt hlow, ok_bind, pure_eq]
            rw [if_neg hhops] at hread
            exact ⟨_, rfl, hinside, .inl ⟨rfl, Nat.le_of_not_lt hhops⟩, hread⟩
      · rw [if_neg hmask]
        have hread := Mdns.readNameFrom_length hdrop hzero hmask walk.after walk.hops walk.out
        have hroom : (data.drop (walk.cursor + 1)).length < length.toNat ↔
            data.length < walk.cursor + 1 + length.toNat := by
          rw [List.length_drop]
          omega
        by_cases hcut : data.length < walk.cursor + 1 + length.toNat
        · rw [if_pos hcut, pure_eq]
          rw [if_pos (hroom.2 hcut)] at hread
          exact ⟨_, rfl, hread⟩
        · rw [if_neg hcut, slice_of_le (Nat.le_of_not_lt hcut), ok_bind, pure_eq]
          rw [if_neg fun h => hcut (hroom.1 h)] at hread
          refine ⟨_, rfl, hinside, .inr ⟨rfl, ?_⟩, hread⟩
          show walk.cursor < walk.cursor + 1 + length.toNat
          omega
  · rw [turn, if_neg hinside, pure_eq]
    exact ⟨_, rfl, Mdns.readNameFrom_outside (Nat.le_of_not_lt hinside) ..⟩

/-- A turn that goes on is inside the packet and goes forward. -/
theorem forward_of_turn {data : Bytes} {walk further : Walk}
    (h : turn data walk = .ok (.next further)) :
    walk.cursor < data.length ∧ Forward walk further := by
  obtain ⟨result, hturn, hfits⟩ := turn_ok data walk
  rw [h, Except.ok.injEq] at hturn
  subst hturn
  exact ⟨hfits.1, hfits.2.1⟩

/-- How many turns there can still be: all offsets for every pointer left, and those behind the
cursor. -/
def Walk.left (data : Bytes) (walk : Walk) : Nat :=
  (16 - walk.hops) * (data.length + 1) + (data.length - walk.cursor)

theorem left_lt_of_turn {data : Bytes} {walk further : Walk}
    (h : turn data walk = .ok (.next further)) : further.left data < walk.left data := by
  obtain ⟨hinside, ⟨hhops, hle⟩ | ⟨hhops, hlt⟩⟩ := forward_of_turn h
  · obtain ⟨n, hn⟩ : ∃ n, 16 - walk.hops = n + 1 := ⟨15 - walk.hops, by omega⟩
    rw [Walk.left, Walk.left, show 16 - further.hops = n by omega, hn, Nat.succ_mul]
    omega
  · rw [Walk.left, Walk.left, hhops]
    omega

/-- The loop of `ReadName`. -/
def readNameFrom (data : Bytes) (walk : Walk) : Checked (Option (Bytes × Nat)) :=
  match _ : turn data walk with
  | .error fault => .error fault
  | .ok (.done result) => .ok result
  | .ok (.next further) => readNameFrom data further
termination_by walk.left data
decreasing_by exact left_lt_of_turn (by assumption)

/-- `ReadName`. -/
def readName (data : Bytes) (pos : Nat) : Checked (Option (Bytes × Nat)) :=
  readNameFrom data (.start pos)

theorem readNameFrom_ok (data : Bytes) (walk : Walk) :
    readNameFrom data walk = .ok (walk.read data) := by
  induction hleft : walk.left data using Nat.strongRecOn generalizing walk with
  | ind left ih =>
    obtain ⟨result, hturn, hfits⟩ := turn_ok data walk
    rw [readNameFrom]
    split
    · rename_i fault hfault
      rw [hturn] at hfault
      cases hfault
    · rename_i result' hdone
      rw [hturn, Except.ok.injEq] at hdone
      subst hdone
      rw [← show walk.read data = result' from hfits]
    · rename_i further hnext
      rw [ih _ (hleft ▸ left_lt_of_turn hnext) further rfl]
      rw [hturn, Except.ok.injEq] at hnext
      subst hnext
      rw [hfits.2.2]

theorem readName_ok (data : Bytes) (pos : Nat) :
    readName data pos = .ok (Mdns.readName data pos) := readNameFrom_ok data (.start pos)

/-- The loop goes on with `further`. -/
def Goes (data : Bytes) (walk further : Walk) : Prop := turn data walk = .ok (.next further)

/-- The loop ends, wherever it is. -/
theorem goes_wellFounded (data : Bytes) : WellFounded fun further walk => Goes data walk further :=
  Subrelation.wf (fun h => left_lt_of_turn h) (InvImage.wf (Walk.left data) Nat.lt_wfRel.wf)

/-- It follows sixteen pointers at most. -/
theorem hops_le {data : Bytes} {pos : Nat} {walk : Walk}
    (h : Relation.ReflTransGen (Goes data) (.start pos) walk) : walk.hops ≤ 16 := by
  induction h with
  | refl => exact Nat.zero_le 16
  | tail _ hgoes ih =>
    obtain ⟨-, ⟨-, hle⟩ | ⟨hsame, -⟩⟩ := forward_of_turn hgoes
    · exact hle
    · rw [hsame]
      exact ih

/-- Where a name ends that starts at `start`: behind the first pointer, or else behind the
cursor. -/
def EndsBehind (data : Bytes) (start cursor after : Nat) : Prop :=
  (after = 0 ∧ start ≤ cursor) ∨ (start < after ∧ after ≤ data.length)

theorem readNameFrom_bounds {data : Bytes} {cursor after hops : Nat} {out : Bytes} {start : Nat}
    (hbehind : EndsBehind data start cursor after) {found : Bytes × Nat}
    (h : Mdns.readNameFrom data cursor after hops out = some found) :
    start < found.2 ∧ found.2 ≤ data.length := by
  fun_induction Mdns.readNameFrom data cursor after hops out with
  | case1 => cases h
  | case2 cursor after hops out tail hdrop =>
    have hlt := Labels.lt_length_of_drop hdrop
    cases h
    obtain ⟨rfl, hle⟩ | ⟨hlt', hle⟩ := hbehind
    · rw [if_neg (not_not_intro rfl)]
      exact ⟨Nat.lt_succ_of_le hle, hlt⟩
    · rw [if_pos (Nat.ne_of_gt (Nat.zero_lt_of_lt hlt'))]
      exact ⟨hlt', hle⟩
  | case3 => cases h
  | case4 => cases h
  | case5 cursor after hops out length hzero hmask low tail hdrop hhops _ ih =>
    refine ih ?_ h
    have hcut : data.drop cursor = [length, low] ++ tail := hdrop
    have hroom := Labels.le_length_of_drop hcut (List.cons_ne_nil _ _)
    obtain ⟨rfl, hle⟩ | ⟨hlt, hle⟩ := hbehind
    · rw [dif_pos rfl]
      exact .inr ⟨by omega, hroom⟩
    · rw [dif_neg (Nat.ne_of_gt (Nat.zero_lt_of_lt hlt))]
      exact .inr ⟨hlt, hle⟩
  | case6 => cases h
  | case7 cursor after hops out length tail hdrop hzero hmask hroom ih =>
    refine ih ?_ h
    obtain ⟨hnone, hle⟩ | hpointer := hbehind
    · exact .inl ⟨hnone, by omega⟩
    · exact .inr hpointer

/-- A name ends behind its start, inside the packet. -/
theorem readName_bounds {data : Bytes} {pos : Nat} {found : Bytes × Nat}
    (h : Mdns.readName data pos = some found) : pos < found.2 ∧ found.2 ≤ data.length :=
  readNameFrom_bounds (.inl ⟨rfl, Nat.le_refl pos⟩) h

/-! ### Records -/

/-- `readUint16`. -/
def readUint16 (data : Bytes) (pos : Nat) : Checked UInt16 := do
  let high ← get data pos
  let low ← get data (pos + 1)
  pure ((high.toUInt16 <<< 8) ||| low.toUInt16)

/-- `readUint32`. -/
def readUint32 (data : Bytes) (pos : Nat) : Checked UInt32 := do
  let highest ← get data pos
  let high ← get data (pos + 1)
  let low ← get data (pos + 2)
  let lowest ← get data (pos + 3)
  pure ((highest.toUInt32 <<< 24) ||| (high.toUInt32 <<< 16) ||| (low.toUInt32 <<< 8) |||
    lowest.toUInt32)

/-- The loop over the strings of a TXT record.  `record` is the packet up to the end of the
record. -/
def txtIdFrom (record : Bytes) (cursor : Nat) (id : Option Bytes) : Checked (Option Bytes) :=
  if cursor < record.length then do
    let length ← get record cursor
    if record.length < cursor + 1 + length.toNat then pure id
    else do
      let entry ← slice record (cursor + 1) length.toNat
      if ascii "id=" <+: entry then do
        let text ← substr entry 3 entry.length
        txtIdFrom record (cursor + 1 + length.toNat) (some text)
      else txtIdFrom record (cursor + 1 + length.toNat) id
  else pure id
termination_by record.length - cursor

section

variable (inetNtop6 : Bytes → Bytes)

/-- The record of a packet with the owner `name`. -/
def recordAt (data name : Bytes) (type : UInt16) (ttl : UInt32) (recordStart dataLength : Nat) :
    Checked Record :=
  if type = Mdns.kTypePtr then do
    let target ← readName data recordStart
    match target with
    | some (instanceName, _) => pure (.ptr instanceName ttl)
    | none => pure .ignored
  else if type = Mdns.kTypeSrv then
    if dataLength < 7 then pure .ignored
    else do
      let port ← readUint16 data (recordStart + 4)
      let host ← readName data (recordStart + 6)
      pure (.srv name ttl port (host.map Prod.fst))
  else if type = Mdns.kTypeTxt then do
    let id ← txtIdFrom (data.take (recordStart + dataLength)) recordStart none
    pure (.txt name ttl id)
  else if type = Mdns.kTypeA then
    if dataLength ≠ 4 then pure .ignored
    else do
      let octets ← slice data recordStart 4
      pure (.a name ttl (Mdns.inetNtop4 octets))
  else if type = Mdns.kTypeAaaa then
    if dataLength ≠ 16 then pure .ignored
    else do
      let octets ← slice data recordStart 16
      pure (.aaaa name ttl (inetNtop6 octets))
  else pure .ignored

/-- The address that a receiver shows; `front()` reads the first of the list. -/
def preferred (addresses : List Bytes) : Checked Bytes :=
  match addresses.find? fun value => 0x3A ∉ value with
  | some ipv4 => pure ipv4
  | none => get addresses 0

/-- A receiver at the end of a packet, with what the packet says of its host. -/
def joined (receiver : DiscoveryRecord) (host : Option HostAddress) : Checked DiscoveryRecord := do
  let receiver ← match host with
    | some host => do
      let address ← preferred host.addresses
      pure { receiver with
        addresses := host.addresses
        address := address
        ttlSeconds := min receiver.ttlSeconds host.ttl
        goodbye := receiver.goodbye || decide (host.ttl = 0) }
    | none => pure receiver
  pure { receiver with online := !receiver.goodbye }

/-- The loop after the records, over the entries of the map. -/
def joinHosts (maps : Found × Hosts) : Checked Found := do
  let entries ← maps.1.toList.mapM fun entry => do
    let receiver ← joined entry.2 maps.2[entry.2.host]?
    pure (entry.1, receiver)
  pure (Std.ExtTreeMap.ofList entries)

/-- The record loop, which counts the records it has read. -/
def readRecords (data : Bytes) : Nat → Nat → Nat → Found × Hosts → Checked (Nat × Found)
  | 0, _, count, maps => do
    let found ← joinHosts maps
    pure (count, found)
  | n + 1, pos, count, maps => do
    let owner ← readName data pos
    match owner with
    | none => pure (count, maps.1)
    | some (name, pos) =>
      if data.length < pos + 10 then pure (count, maps.1)
      else do
        let type ← readUint16 data pos
        let ttl ← readUint32 data (pos + 4)
        let dataLength ← readUint16 data (pos + 8)
        if data.length < pos + 10 + dataLength.toNat then pure (count, maps.1)
        else do
          let record ← recordAt inetNtop6 data name type ttl (pos + 10) dataLength.toNat
          readRecords data n (pos + 10 + dataLength.toNat) (count + 1) (record.apply maps)

/-- The question loop: where the records begin. -/
def skipQuestions (data : Bytes) : Nat → Nat → Checked (Option Nat)
  | 0, pos => pure (some pos)
  | n + 1, pos => do
    let question ← readName data pos
    match question with
    | none => pure none
    | some (_, pos) =>
      if data.length < pos + 4 then pure none else skipQuestions data n (pos + 4)

/-- `ParseResponse`: how many records were read, and the receivers. -/
def parseResponse (data : Bytes) (found : Found) : Checked (Nat × Found) :=
  if data.length < 12 then pure (0, found)
  else do
    let questions ← readUint16 data 4
    let answers ← readUint16 data 6
    let authorities ← readUint16 data 8
    let additionals ← readUint16 data 10
    let records := answers.toNat + authorities.toNat + additionals.toNat
    let start ← skipQuestions data questions.toNat 12
    match start with
    | none => pure (0, found)
    | some pos => readRecords inetNtop6 data records pos 0 (found, ∅)

/-! ### It stays inside -/

theorem getD_eq {data : Bytes} {pos : Nat} (h : pos < data.length) :
    get data pos = .ok (data.getD pos 0) := by
  rw [get_of_lt h, List.getD_eq_getElem _ _ h]

theorem readUint16_ok {data : Bytes} {pos : Nat} (h : pos + 2 ≤ data.length) :
    readUint16 data pos = .ok (Mdns.readUint16 data pos) := by
  rw [readUint16, getD_eq (by omega), ok_bind, getD_eq (by omega), ok_bind, pure_eq]
  rfl

theorem readUint32_ok {data : Bytes} {pos : Nat} (h : pos + 4 ≤ data.length) :
    readUint32 data pos = .ok (Mdns.readUint32 data pos) := by
  rw [readUint32, getD_eq (by omega), ok_bind, getD_eq (by omega), ok_bind, getD_eq (by omega),
    ok_bind, getD_eq (by omega), ok_bind, pure_eq]
  rfl

theorem txtIdFrom_ok (record : Bytes) (cursor : Nat) (id : Option Bytes) :
    txtIdFrom record cursor id = .ok (Mdns.txtId id (record.drop cursor)) := by
  induction hleft : record.length - cursor using Nat.strongRecOn generalizing cursor id with
  | ind left ih =>
    rw [txtIdFrom]
    by_cases hinside : cursor < record.length
    · have hdrop := List.drop_eq_getElem_cons hinside
      rw [if_pos hinside, get_of_lt hinside, ok_bind, hdrop]
      generalize record[cursor] = length at hdrop ⊢
      rw [Mdns.txtId, List.length_drop]
      by_cases hcut : record.length < cursor + 1 + length.toNat
      · rw [if_pos hcut, if_pos (by omega), pure_eq]
      · have hnext (id : Option Bytes) : txtIdFrom record (cursor + 1 + length.toNat) id =
            .ok (Mdns.txtId id ((record.drop (cursor + 1)).drop length.toNat)) := by
          rw [ih _ (by omega) _ id rfl, List.drop_drop]
        rw [if_neg hcut, if_neg (by omega), slice_of_le (by omega), ok_bind]
        by_cases hid : ascii "id=" <+: (record.drop (cursor + 1)).take length.toNat
        · rw [if_pos hid, substr_of_le (show 3 ≤ _ from hid.length_le), ok_bind, hnext,
            List.take_of_length_le (by rw [List.length_drop]; omega)]
          simp only [if_pos hid]
        · rw [if_neg hid, hnext]
          simp only [if_neg hid]
    · rw [if_neg hinside, pure_eq, List.drop_eq_nil_of_le (Nat.le_of_not_lt hinside), Mdns.txtId]

theorem recordAt_ok {data : Bytes} (name : Bytes) (type : UInt16) (ttl : UInt32)
    {recordStart dataLength : Nat} (hroom : recordStart + dataLength ≤ data.length) :
    recordAt inetNtop6 data name type ttl recordStart dataLength =
      .ok (Mdns.recordAt inetNtop6 data name type ttl recordStart dataLength) := by
  rw [recordAt, Mdns.recordAt]
  by_cases hptr : type = Mdns.kTypePtr
  · rw [if_pos hptr, if_pos hptr, readName_ok, ok_bind]
    cases Mdns.readName data recordStart with
    | none => rfl
    | some found => rfl
  · rw [if_neg hptr, if_neg hptr]
    by_cases hsrv : type = Mdns.kTypeSrv
    · rw [if_pos hsrv, if_pos hsrv]
      by_cases hshort : dataLength < 7
      · rw [if_pos hshort, if_pos hshort, pure_eq]
      · rw [if_neg hshort, if_neg hshort, readUint16_ok (by omega), ok_bind, readName_ok, ok_bind,
          pure_eq]
    · rw [if_neg hsrv, if_neg hsrv]
      by_cases htxt : type = Mdns.kTypeTxt
      · rw [if_pos htxt, if_pos htxt, txtIdFrom_ok, ok_bind, pure_eq, List.drop_take,
          Nat.add_sub_cancel_left]
      · rw [if_neg htxt, if_neg htxt]
        by_cases ha : type = Mdns.kTypeA
        · rw [if_pos ha, if_pos ha]
          by_cases hfour : dataLength ≠ 4
          · rw [if_pos hfour, if_pos hfour, pure_eq]
          · rw [if_neg hfour, if_neg hfour, slice_of_le (by omega), ok_bind, pure_eq,
              Decidable.not_not.1 hfour]
        · rw [if_neg ha, if_neg ha]
          by_cases haaaa : type = Mdns.kTypeAaaa
          · rw [if_pos haaaa, if_pos haaaa]
            by_cases hsixteen : dataLength ≠ 16
            · rw [if_pos hsixteen, if_pos hsixteen, pure_eq]
            · rw [if_neg hsixteen, if_neg hsixteen, slice_of_le (by omega), ok_bind, pure_eq,
                Decidable.not_not.1 hsixteen]
          · rw [if_neg haaaa, if_neg haaaa, pure_eq]

/-! ### No host without an address -/

/-- Every host that a packet names has an address. -/
def HaveAddresses (hosts : Hosts) : Prop :=
  ∀ (name : Bytes) (host : HostAddress), hosts[name]? = some host → host.addresses ≠ []

theorem haveAddresses_empty : HaveAddresses ∅ := by
  intro name host h
  rw [Std.ExtTreeMap.getElem?_empty] at h
  cases h

theorem HaveAddresses.upsert {hosts : Hosts} (h : HaveAddresses hosts) (key : Bytes) (ttl : UInt32)
    (text : Bytes) : HaveAddresses (Mdns.upsert hosts key {} (Mdns.onAddress ttl text)) := by
  intro name host hname
  rw [Mdns.getElem?_upsert] at hname
  by_cases hkey : key = name
  · rw [if_pos hkey, Option.some.injEq] at hname
    rw [← hname]
    exact List.append_ne_nil_of_right_ne_nil _ (List.cons_ne_nil text [])
  · rw [if_neg hkey] at hname
    exact h name host hname

/-- A record leaves no host without an address. -/
theorem HaveAddresses.apply {maps : Found × Hosts} (h : HaveAddresses maps.2) (record : Record) :
    HaveAddresses (record.apply maps).2 := by
  cases record with
  | ptr => exact h
  | srv => exact h
  | txt => exact h
  | a name ttl text => exact h.upsert name ttl text
  | aaaa name ttl text => exact h.upsert name ttl text
  | ignored => exact h

theorem preferred_ok {addresses : List Bytes} (h : addresses ≠ []) :
    preferred addresses = .ok (Mdns.preferred addresses) := by
  rw [preferred, Mdns.preferred]
  cases addresses.find? fun value => 0x3A ∉ value with
  | some ipv4 => rfl
  | none =>
    cases addresses with
    | nil => exact absurd rfl h
    | cons first addresses => rfl

theorem joined_ok {receiver : DiscoveryRecord} {host : Option HostAddress}
    (h : ∀ known ∈ host, known.addresses ≠ []) :
    joined receiver host = .ok (Mdns.joined receiver host) := by
  cases host with
  | none => rfl
  | some host =>
    simp only [joined, preferred_ok (h host rfl), ok_bind, pure_eq]
    rfl

/-- The entries of a map make the map. -/
theorem ofList_toList (found : Found) : Std.ExtTreeMap.ofList found.toList = found := by
  apply Std.ExtTreeMap.ext_getElem?
  intro key
  cases hkey : found[key]? with
  | none =>
    refine Std.ExtTreeMap.getElem?_ofList_of_contains_eq_false ?_
    rw [Std.ExtTreeMap.map_fst_toList_eq_keys, Std.ExtTreeMap.contains_keys,
      Std.ExtTreeMap.contains_eq_isSome_getElem?, hkey, Option.isSome_none]
  | some receiver =>
    refine Std.ExtTreeMap.getElem?_ofList_of_mem Std.ReflCmp.compare_self
      Std.ExtTreeMap.distinct_keys_toList ?_
    exact Std.ExtTreeMap.mem_toList_iff_getElem?_eq_some.2 hkey

theorem joinHosts_ok {maps : Found × Hosts} (h : HaveAddresses maps.2) :
    joinHosts maps = .ok (Mdns.joinHosts maps) := by
  have hturn : ∀ entry ∈ maps.1.toList,
      (do let receiver ← joined entry.2 maps.2[entry.2.host]?; pure (entry.1, receiver) :
        Checked (Bytes × DiscoveryRecord)) =
      .ok (entry.1, Mdns.joined entry.2 maps.2[entry.2.host]?) := by
    intro entry _
    rw [joined_ok fun known hknown => h _ known hknown, ok_bind, pure_eq]
  rw [joinHosts, mapM_ok hturn, ok_bind, pure_eq, Mdns.joinHosts, ← ofList_toList (maps.1.map _),
    Std.ExtTreeMap.toList_map]

/-! ### Packets -/

theorem readRecords_ok (data : Bytes) (n pos count : Nat) {maps : Found × Hosts}
    (h : HaveAddresses maps.2) :
    readRecords inetNtop6 data n pos count maps =
      .ok (count + (Mdns.recordsFrom inetNtop6 data n pos).length,
        Mdns.readRecords inetNtop6 data n pos maps) := by
  induction n generalizing pos count maps with
  | zero =>
    rw [readRecords, joinHosts_ok h, ok_bind, pure_eq]
    rfl
  | succ n ih =>
    rw [readRecords, Mdns.readRecords, Mdns.recordsFrom, readName_ok, ok_bind]
    cases Mdns.readName data pos with
    | none => rfl
    | some owner =>
      obtain ⟨name, pos⟩ := owner
      dsimp only
      by_cases hfields : data.length < pos + 10
      · rw [if_pos hfields, if_pos hfields, if_pos hfields, pure_eq]
        rfl
      · rw [if_neg hfields, if_neg hfields, if_neg hfields, readUint16_ok (by omega), ok_bind,
          readUint32_ok (by omega), ok_bind, readUint16_ok (by omega), ok_bind]
        by_cases hdata : data.length < pos + 10 + (Mdns.readUint16 data (pos + 8)).toNat
        · rw [if_pos hdata, if_pos hdata, if_pos hdata, pure_eq]
          rfl
        · rw [if_neg hdata, if_neg hdata, if_neg hdata, recordAt_ok inetNtop6 _ _ _ (by omega),
            ok_bind, ih _ _ (h.apply _), List.length_cons, Nat.add_right_comm, Nat.add_assoc]

theorem skipQuestions_ok (data : Bytes) (n pos : Nat) :
    skipQuestions data n pos = .ok (Mdns.skipQuestions data n pos) := by
  induction n generalizing pos with
  | zero => rfl
  | succ n ih =>
    rw [skipQuestions, Mdns.skipQuestions, readName_ok, ok_bind]
    cases Mdns.readName data pos with
    | none => rfl
    | some question =>
      dsimp only
      by_cases hcut : data.length < question.2 + 4
      · rw [if_pos hcut, if_pos hcut, pure_eq]
      · rw [if_neg hcut, if_neg hcut, ih]

theorem parseResponse_ok (data : Bytes) (found : Found) :
    parseResponse inetNtop6 data found =
      .ok ((Mdns.recordsOf inetNtop6 data).length, Mdns.parseResponse inetNtop6 data found) := by
  rw [parseResponse, Mdns.parseResponse, Mdns.recordsOf]
  by_cases hshort : data.length < 12
  · rw [if_pos hshort, if_pos hshort, if_pos hshort, pure_eq]
    rfl
  · rw [if_neg hshort, if_neg hshort, if_neg hshort, readUint16_ok (by omega), ok_bind,
      readUint16_ok (by omega), ok_bind, readUint16_ok (by omega), ok_bind,
      readUint16_ok (by omega), ok_bind, skipQuestions_ok, ok_bind]
    cases Mdns.skipQuestions data (Mdns.readUint16 data 4).toNat 12 with
    | none => rfl
    | some pos =>
      dsimp only
      rw [readRecords_ok inetNtop6 data _ _ _ haveAddresses_empty, Nat.zero_add]

/-- How many records a packet announces. -/
def announced (data : Bytes) : Nat :=
  (Mdns.readUint16 data 6).toNat + (Mdns.readUint16 data 8).toNat +
    (Mdns.readUint16 data 10).toNat

theorem recordsFrom_length_le (data : Bytes) (n pos : Nat) :
    (Mdns.recordsFrom inetNtop6 data n pos).length ≤ n := by
  induction n generalizing pos with
  | zero => exact Nat.le_refl 0
  | succ n ih =>
    rw [Mdns.recordsFrom]
    split
    · exact Nat.zero_le _
    · split
      · exact Nat.zero_le _
      · dsimp only
        split
        · exact Nat.zero_le _
        · rw [List.length_cons]
          exact Nat.succ_le_succ (ih _)

theorem recordsOf_length_le (data : Bytes) :
    (Mdns.recordsOf inetNtop6 data).length ≤ announced data := by
  rw [Mdns.recordsOf]
  split
  · exact Nat.zero_le _
  · split
    · exact Nat.zero_le _
    · exact recordsFrom_length_le inetNtop6 data _ _

/-- **Parsing is safe on any packet.**  From every offset, `ReadName` ends: a turn of its loop that
goes on follows one of at most sixteen pointers or moves to a larger offset.  It returns what the
unchecked loop returns, so none of its reads is outside, and a name ends behind its start, inside
the packet.  `ParseResponse` returns a value on every packet as well: it reads inside the packet,
the strings of a TXT record inside the record and the front of no empty list, and it processes no
more records than the packet announces. -/
theorem mdns_parsing_safe (data : Bytes) :
    ((WellFounded fun further walk => Goes data walk further) ∧
      (∀ walk further, Goes data walk further → walk.cursor < data.length ∧ Forward walk further) ∧
      ∀ pos,
        (∀ walk, Relation.ReflTransGen (Goes data) (.start pos) walk → walk.hops ≤ 16) ∧
        readName data pos = .ok (Mdns.readName data pos) ∧
        ∀ found ∈ Mdns.readName data pos, pos < found.2 ∧ found.2 ≤ data.length) ∧
    ∀ found, ∃ count ≤ announced data, parseResponse inetNtop6 data found =
      .ok (count, Mdns.parseResponse inetNtop6 data found) := by
  refine ⟨⟨goes_wellFounded data, fun walk further hgoes => forward_of_turn hgoes, fun pos =>
    ⟨fun walk hwalk => hops_le hwalk, readName_ok data pos, ?_⟩⟩, fun found => ?_⟩
  · intro found hfound
    exact readName_bounds hfound
  · exact ⟨_, recordsOf_length_le inetNtop6 data, parseResponse_ok inetNtop6 data found⟩

end

end SecondDisplay.MdnsReads
