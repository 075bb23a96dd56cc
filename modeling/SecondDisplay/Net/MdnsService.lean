import SecondDisplay.Net.MdnsRoundTrip

/-!
# Whose receivers are reported (`net/Mdns.cpp`)

The query goes to everybody, and everybody may answer with any services.  `ParseResponse` makes an
entry for the name of every PTR, SRV and TXT record (`mem_found_iff`) and asks for no service: what
a browse returns belongs to `_opensidecar._tcp.local` as long as all these names do
(`returned_inService`).
-/

namespace SecondDisplay.Mdns

/-! ### The records that are read -/

/-- The entry that a record makes or changes. -/
def Record.entry : Record → Option Bytes
  | .ptr instanceName _ => some instanceName
  | .srv name _ _ _ => some name
  | .txt name _ _ => some name
  | .a .. | .aaaa .. | .ignored => none

/-- A full instance name ends in the name of the service. -/
def InService (name : Bytes) : Prop := kService <:+ name.map toLower

instance decidableInService (name : Bytes) : Decidable (InService name) :=
  inferInstanceAs (Decidable (kService <:+ name.map toLower))

variable (inetNtop6 : Bytes → Bytes)

/-- The records that the record loop reads. -/
def recordsFrom (data : Bytes) : Nat → Nat → List Record
  | 0, _ => []
  | n + 1, pos =>
    match readName data pos with
    | none => []
    | some (name, pos) =>
      if data.length < pos + 10 then []
      else
        let dataLength := (readUint16 data (pos + 8)).toNat
        if data.length < pos + 10 + dataLength then []
        else
          recordAt inetNtop6 data name (readUint16 data pos) (readUint32 data (pos + 4)) (pos + 10)
            dataLength :: recordsFrom data n (pos + 10 + dataLength)

/-- The records that are read of a packet. -/
def recordsOf (data : Bytes) : List Record :=
  if data.length < 12 then []
  else
    match skipQuestions data (readUint16 data 4).toNat 12 with
    | none => []
    | some pos =>
      recordsFrom inetNtop6 data
        ((readUint16 data 6).toNat + (readUint16 data 8).toNat + (readUint16 data 10).toNat) pos

/-- All the names for which a packet makes an entry belong to the service. -/
def OwnService (data : Bytes) : Prop :=
  ∀ record ∈ recordsOf inetNtop6 data, ∀ name ∈ record.entry, InService name

instance decidableOwnService (data : Bytes) : Decidable (OwnService inetNtop6 data) :=
  inferInstanceAs (Decidable (∀ record ∈ recordsOf inetNtop6 data, ∀ name ∈ record.entry,
    InService name))

/-! ### The entries -/

theorem mem_upsert {α : Type} (map : Std.ExtTreeMap Bytes α) (key : Bytes) (fallback : α)
    (f : α → α) (key' : Bytes) : key' ∈ upsert map key fallback f ↔ key' ∈ map ∨ key = key' := by
  rw [Std.ExtTreeMap.mem_iff_isSome_getElem?, Std.ExtTreeMap.mem_iff_isSome_getElem?,
    getElem?_upsert]
  by_cases heq : key = key'
  · simp [heq]
  · simp [heq]

/-- A record makes the entry of its name, and no other. -/
theorem mem_apply (maps : Found × Hosts) (record : Record) (key : Bytes) :
    key ∈ (record.apply maps).1 ↔ key ∈ maps.1 ∨ key ∈ record.entry := by
  cases record with
  | ptr instanceName ttl => simp [Record.apply, Record.entry, mem_upsert]
  | srv name ttl port host => simp [Record.apply, Record.entry, mem_upsert]
  | txt name ttl id => simp [Record.apply, Record.entry, mem_upsert]
  | a name ttl text => simp [Record.apply, Record.entry]
  | aaaa name ttl text => simp [Record.apply, Record.entry]
  | ignored => simp [Record.apply, Record.entry]

theorem mem_joinHosts (maps : Found × Hosts) (key : Bytes) :
    key ∈ joinHosts maps ↔ key ∈ maps.1 := by
  rw [joinHosts, Std.ExtTreeMap.mem_map]

theorem mem_readRecords (data : Bytes) (n pos : Nat) (maps : Found × Hosts) (key : Bytes) :
    key ∈ readRecords inetNtop6 data n pos maps ↔
      key ∈ maps.1 ∨ ∃ record ∈ recordsFrom inetNtop6 data n pos, key ∈ record.entry := by
  induction n generalizing pos maps with
  | zero => simp [readRecords, recordsFrom, mem_joinHosts]
  | succ n ih =>
    rw [readRecords, recordsFrom]
    cases readName data pos with
    | none => simp
    | some named =>
      obtain ⟨name, pos⟩ := named
      dsimp only
      split
      · simp
      · split
        · simp
        · rw [ih, mem_apply, or_assoc]
          simp

/-- **The entries after a packet** are those before it and those of its records. -/
theorem mem_parseResponse (data : Bytes) (found : Found) (key : Bytes) :
    key ∈ parseResponse inetNtop6 data found ↔
      key ∈ found ∨ ∃ record ∈ recordsOf inetNtop6 data, key ∈ record.entry := by
  rw [parseResponse, recordsOf]
  by_cases hshort : data.length < 12
  · simp [hshort]
  · rw [if_neg hshort, if_neg hshort]
    dsimp only
    cases skipQuestions data (readUint16 data 4).toNat 12 with
    | none => simp
    | some pos => exact mem_readRecords ..

/-- **The entries after a browse** are those of the records that were read. -/
theorem mem_found_iff (packets : List Bytes) (found : Found) (key : Bytes) :
    key ∈ browsed inetNtop6 packets found ↔
      key ∈ found ∨
        ∃ packet ∈ packets, ∃ record ∈ recordsOf inetNtop6 packet, key ∈ record.entry := by
  induction packets generalizing found with
  | nil => simp [browsed]
  | cons packet packets ih =>
    rw [browsed, List.foldl_cons]
    show key ∈ browsed inetNtop6 packets (parseResponse inetNtop6 packet found) ↔ _
    rw [ih, mem_parseResponse, or_assoc]
    simp

/-- **When all entries belong to the service.** -/
theorem entries_inService_iff (packets : List Bytes) :
    (∀ name ∈ browsed inetNtop6 packets ∅, InService name) ↔
      ∀ packet ∈ packets, OwnService inetNtop6 packet := by
  constructor
  · intro hall packet hpacket record hrecord name hname
    exact hall name ((mem_found_iff inetNtop6 packets ∅ name).2
      (.inr ⟨packet, hpacket, record, hrecord, hname⟩))
  · intro hown name hmem
    obtain hbefore | ⟨packet, hpacket, record, hrecord, hname⟩ :=
      (mem_found_iff inetNtop6 packets ∅ name).1 hmem
    · exact absurd hbefore Std.ExtTreeMap.not_mem_empty
    · exact hown packet hpacket record hrecord name hname

/-- **Own receivers only.**  If no packet makes an entry for a name outside the service, all that
`BrowseReceivers` returns belongs to the service. -/
theorem returned_inService (packets : List Bytes)
    (hown : ∀ packet ∈ packets, OwnService inetNtop6 packet) :
    ∀ entry ∈ returned (browsed inetNtop6 packets ∅), InService entry.1 := by
  intro entry hentry
  have hget := Std.ExtTreeMap.mem_toList_iff_getElem?_eq_some.1 (List.mem_of_mem_filter hentry)
  have hmem : entry.1 ∈ browsed inetNtop6 packets ∅ := by
    rw [Std.ExtTreeMap.mem_iff_isSome_getElem?, hget]
    rfl
  exact (entries_inService_iff inetNtop6 packets).2 hown entry.1 hmem

theorem returned_inService_iPad :
    ¬∃ entry ∈ returned (browsed (fun _ => []) [goodResponse, goodResponse] ∅),
      ¬InService entry.1 := by
  rintro ⟨entry, hmem, hnot⟩
  exact hnot (returned_inService (fun _ => []) [goodResponse, goodResponse] (by decide +kernel)
    entry hmem)

/-- The answer of a receiver of another service. -/
def otherService : Packet :=
  let tv : WireName :=
    { labels := [ascii "TV", ascii "_airplay", ascii "_tcp", ascii "local"], sizes := by decide }
  let host : WireName := { labels := [ascii "tv", ascii "local"], sizes := by decide }
  { id := 0
    flags := 0x8400
    answers := 2
    authorities := 0
    additionals := 0
    questions := []
    records := [
      ⟨tv, 1, 120, .srv 0 0 7000 host, by show _ < 65536; decide⟩,
      ⟨host, 1, 120, aData 192 168 1 40, by show 4 < 65536; decide⟩]
    questions_lt := noQuestions_lt
    counts := twoAnswers_count }

theorem returned_inService_fails_airplay :
    ¬∀ (inetNtop6 : Bytes → Bytes) (packets : List Packet),
      ∀ entry ∈ returned (browsed inetNtop6 (packets.map Packet.bytes) ∅), InService entry.1 := by
  intro hall
  have hnames :
      (returned (browsed (fun _ => []) ([otherService].map Packet.bytes) ∅)).map Prod.fst =
      [ascii "TV._airplay._tcp.local"] := by decide +kernel
  have hmem : ascii "TV._airplay._tcp.local" ∈
      (returned (browsed (fun _ => []) ([otherService].map Packet.bytes) ∅)).map Prod.fst := by
    rw [hnames]
    exact List.mem_singleton.2 rfl
  obtain ⟨entry, hentry, hname⟩ := List.mem_map.1 hmem
  have hservice := hall (fun _ => []) [otherService] entry hentry
  rw [hname] at hservice
  exact absurd hservice (by decide +kernel)

end SecondDisplay.Mdns
