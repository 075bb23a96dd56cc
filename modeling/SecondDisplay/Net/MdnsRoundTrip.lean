import SecondDisplay.Net.MdnsPacket

/-!
# Reading what the packet builder writes (`net/Mdns.cpp`)

The self-check builds the packet with which an iPad answers and reads it.  It is read as exactly one
receiver with everything that the packet says (`parseResponse_response`), for every label, host,
port, id, address and TTL, as long as the data of the SRV record has a 16-bit size.
-/

namespace SecondDisplay.Mdns

open Labels (wire dotted)

/-! ### One entry of a map -/

theorem getElem?_upsert {α : Type} (map : Std.ExtTreeMap Bytes α) (key : Bytes) (fallback : α)
    (f : α → α) (key' : Bytes) :
    (upsert map key fallback f)[key']? =
      if key = key' then some (f (map[key]?.getD fallback)) else map[key']? := by
  rw [upsert, Std.ExtTreeMap.getElem?_alter]
  simp only [Std.LawfulEqCmp.compare_eq_iff_eq]

theorem upsert_empty {α : Type} (key : Bytes) (fallback : α) (f : α → α) :
    upsert ∅ key fallback f = (∅ : Std.ExtTreeMap Bytes α).insert key (f fallback) := by
  apply Std.ExtTreeMap.ext_getElem?
  intro key'
  rw [getElem?_upsert, Std.ExtTreeMap.getElem?_insert]
  simp

theorem upsert_single {α : Type} (key : Bytes) (value fallback : α) (f : α → α) :
    upsert ((∅ : Std.ExtTreeMap Bytes α).insert key value) key fallback f =
      (∅ : Std.ExtTreeMap Bytes α).insert key (f value) := by
  apply Std.ExtTreeMap.ext_getElem?
  intro key'
  rw [getElem?_upsert, Std.ExtTreeMap.getElem?_insert, Std.ExtTreeMap.getElem?_insert,
    Std.ExtTreeMap.getElem?_insert]
  simp only [Std.LawfulEqCmp.compare_eq_iff_eq]
  split
  · simp
  · rfl

theorem map_single {α β : Type} (key : Bytes) (value : α) (f : Bytes → α → β) :
    ((∅ : Std.ExtTreeMap Bytes α).insert key value).map f =
      (∅ : Std.ExtTreeMap Bytes β).insert key (f key value) := by
  apply Std.ExtTreeMap.ext_getElem?
  intro key'
  rw [Std.ExtTreeMap.getElem?_map, Std.ExtTreeMap.getElem?_insert, Std.ExtTreeMap.getElem?_insert]
  simp only [Std.LawfulEqCmp.compare_eq_iff_eq]
  split
  · rename_i heq
    rw [heq, Option.map_some]
  · simp

theorem toList_single {α : Type} (key : Bytes) (value : α) :
    ((∅ : Std.ExtTreeMap Bytes α).insert key value).toList = [(key, value)] := rfl

/-! ### Names -/

/-- A label as DNS has it. -/
structure IsLabel (label : Bytes) : Prop where
  pos : 0 < label.length
  le : label.length ≤ 63
  dotless : 0x2E ∉ label

instance decidableIsLabel (label : Bytes) : Decidable (IsLabel label) :=
  decidable_of_iff (0 < label.length ∧ label.length ≤ 63 ∧ 0x2E ∉ label)
    ⟨fun h => ⟨h.1, h.2.1, h.2.2⟩, fun h => ⟨h.pos, h.le, h.dotless⟩⟩

/-- The name of labels. -/
def nameOf (labels : List Bytes) (h : ∀ label ∈ labels, IsLabel label) : WireName :=
  { labels := labels
    sizes := fun label hmem =>
      ⟨(h label hmem).pos, Nat.lt_of_le_of_lt (h label hmem).le (by decide)⟩ }

/-- The labels of the service. -/
def serviceLabels : List Bytes := [ascii "_opensidecar", ascii "_tcp", ascii "local"]

theorem isLabel_service : ∀ label ∈ serviceLabels, IsLabel label := by decide

theorem isLabel_instance {label : Bytes} (h : IsLabel label) :
    ∀ other ∈ label :: serviceLabels, IsLabel other := by
  intro other hmem
  obtain rfl | hservice := List.mem_cons.1 hmem
  · exact h
  · exact isLabel_service other hservice

theorem kService_eq : kService = dotted serviceLabels := by decide

theorem instanceOf_eq (label : Bytes) : instanceOf label = dotted (label :: serviceLabels) := by
  rw [instanceOf, kService_eq]
  exact (Labels.dotted_cons_cons label (ascii "_opensidecar") _).symm

/-- What is written does not depend on what stands before it. -/
theorem appendLabels_append (out written name : Bytes) (start : Nat) :
    appendLabels (out ++ written) name start = out ++ appendLabels written name start := by
  fun_induction appendLabels written name start with
  | case1 written start h dot ih =>
    rw [appendLabels, dif_pos h, ← ih]
    simp only [List.append_assoc]
    rfl
  | case2 written start h => rw [appendLabels, dif_neg h]

theorem appendName_append (out name : Bytes) : appendName out name = out ++ appendName [] name := by
  have hlabels := appendLabels_append out [] name 0
  rw [List.append_nil] at hlabels
  rw [appendName, appendName, hlabels, List.append_assoc]

/-- **The loop of `AppendName`** writes each label behind its length. -/
theorem appendLabels_dotted {name : Bytes} {labels : List Bytes} (hne : labels ≠ [])
    (hdots : ∀ label ∈ labels, 0x2E ∉ label) (out : Bytes) {start : Nat}
    (hstart : start ≤ name.length) (hname : name.drop start = dotted labels) :
    appendLabels out name start =
      out ++ labels.flatMap fun label => UInt8.ofNat label.length :: label := by
  induction labels generalizing out start with
  | nil => exact absurd rfl hne
  | cons label labels ih =>
    rw [appendLabels, dif_pos hstart]
    cases labels with
    | nil =>
      rw [Labels.dotted_singleton] at hname
      have hdot : 0x2E ∉ name.drop start := hname ▸ hdots label List.mem_cons_self
      have hend : labelEnd name start = name.length := by
        rw [labelEnd, Search.find_of_not_mem hdot]
      have hlength : name.length - start = label.length := by rw [← hname, List.length_drop]
      dsimp only
      rw [hend, hlength, hname, List.take_length, appendLabels, dif_neg (by omega),
        List.flatMap_singleton]
    | cons next labels =>
      rw [Labels.dotted_cons_cons] at hname
      have hend : labelEnd name start = start + label.length := by
        rw [labelEnd, Search.find_single hname (hdots label List.mem_cons_self)]
      have hupTo : name.drop start = (label ++ [0x2E]) ++ dotted (next :: labels) := by simp [hname]
      have hbehind := Labels.drop_add_of_drop _ hupTo
      have hle := Labels.le_length_of_drop hupTo (by simp)
      rw [List.length_append, List.length_singleton, ← Nat.add_assoc] at hbehind hle
      have hrest := ih (List.cons_ne_nil _ _)
        (fun other hmem => hdots other (List.mem_cons_of_mem _ hmem))
        (out ++ UInt8.ofNat label.length :: label) hle hbehind
      dsimp only
      rw [hend, Nat.add_sub_cancel_left, hname, List.take_left, hrest,
        List.flatMap_cons (x := label), List.append_assoc]

theorem appendName_dotted (out : Bytes) {labels : List Bytes} (hne : labels ≠ [])
    (h : ∀ label ∈ labels, IsLabel label) :
    appendName out (dotted labels) = out ++ wire labels := by
  have hlabels := appendLabels_dotted hne (fun label hmem => (h label hmem).dotless) out
    (Nat.zero_le (dotted labels).length) rfl
  rw [appendName, hlabels, List.append_assoc]
  rfl

/-- **A name that is written anywhere in a packet is read back**, up to its end. -/
theorem readName_appendName (labels : List Bytes) (hne : labels ≠ [])
    (h : ∀ label ∈ labels, IsLabel label) (front behind : Bytes) :
    readName (appendName front (dotted labels) ++ behind) front.length =
      some (dotted labels, (appendName front (dotted labels)).length) := by
  have hwritten := appendName_dotted front hne h
  have hstands : (appendName front (dotted labels) ++ behind).drop front.length =
      (nameOf labels h).bytes ++ behind := by
    rw [hwritten, List.append_assoc, List.drop_left]
    rfl
  rw [readName_wire (nameOf labels h) hstands, hwritten, List.length_append]
  rfl

/-- Two labels between other bytes. -/
theorem readName_appendName_iPad :
    readName (appendName [7, 0] (ascii "iPad.local") ++ [0, 1]) 2 =
      some (ascii "iPad.local", (appendName [7, 0] (ascii "iPad.local")).length) := by
  have hread := readName_appendName [ascii "iPad", ascii "local"] (by decide) (by decide) [7, 0]
    [0, 1]
  rwa [show dotted [ascii "iPad", ascii "local"] = ascii "iPad.local" by decide] at hread

/-- **The wire form is two bytes longer than the text.** -/
theorem wire_length {labels : List Bytes} (hne : labels ≠ []) :
    (wire labels).length = (dotted labels).length + 2 := by
  induction labels with
  | nil => exact absurd rfl hne
  | cons label labels ih =>
    rw [Labels.wire_cons, List.length_cons, List.length_append]
    cases labels with
    | nil => rw [Labels.dotted_singleton]; rfl
    | cons next labels =>
      rw [ih (List.cons_ne_nil _ _), Labels.dotted_cons_cons, List.length_append, List.length_cons]
      omega

/-! ### The packet -/

theorem appendRecord_eq (out : Bytes) {labels : List Bytes} (hne : labels ≠ [])
    (h : ∀ label ∈ labels, IsLabel label) (ttl : UInt32) (rdata : RData)
    (size : rdata.bytes.length < 2 ^ 16) :
    appendRecord out (dotted labels) rdata.type rdata.bytes ttl =
      out ++ ResourceRecord.bytes ⟨nameOf labels h, 1, ttl, rdata, size⟩ := by
  rw [appendRecord, appendName_dotted out hne h, ResourceRecord.bytes, ResourceRecord.fields,
    putUint32]
  simp only [List.append_assoc]
  rfl

/-- The data of the PTR record. -/
def ptrData {label : Bytes} (h : IsLabel label) : RData :=
  .ptr (nameOf (label :: serviceLabels) (isLabel_instance h))

/-- The data of the SRV record. -/
def srvData (port : UInt16) (hostLabels : List Bytes) (h : ∀ label ∈ hostLabels, IsLabel label) :
    RData := .srv 0 0 port (nameOf hostLabels h)

/-- The one string of the TXT record. -/
def txtData (id : Bytes) : RData :=
  .plain kTypeTxt (UInt8.ofNat (ascii "id=" ++ id).length :: (ascii "id=" ++ id))
    ⟨by decide, fun h => absurd h (by decide)⟩

/-- The data of the A record. -/
def aData (a b c d : UInt8) : RData :=
  .plain kTypeA [a, b, c, d] ⟨by decide, fun h => absurd h (by decide)⟩

theorem txtId_entry {id : Bytes} (hid : id.length + 3 ≤ 255) :
    txtId none (UInt8.ofNat (ascii "id=" ++ id).length :: (ascii "id=" ++ id)) = some id := by
  have hlength : (UInt8.ofNat (ascii "id=" ++ id).length).toNat = (ascii "id=" ++ id).length := by
    refine UInt8.toNat_ofNat_of_lt' ?_
    rw [List.length_append]
    show 3 + id.length < 256
    omega
  rw [txtId, hlength, if_neg (Nat.lt_irrefl _), List.take_length, List.drop_length]
  dsimp only
  rw [if_pos (List.prefix_append _ _), txtId]
  rfl

theorem ptrData_length {label : Bytes} (h : IsLabel label) :
    (ptrData h).bytes.length < 2 ^ 16 := by
  show (wire (label :: serviceLabels)).length < 2 ^ 16
  have hle := h.le
  have hservice : (wire serviceLabels).length = 25 := by decide
  rw [Labels.wire_cons, List.length_cons, List.length_append, hservice]
  omega

theorem srvData_length (port : UInt16) {hostLabels : List Bytes}
    (h : ∀ label ∈ hostLabels, IsLabel label) :
    (srvData port hostLabels h).bytes.length = 6 + (wire hostLabels).length := by
  simp only [srvData, RData.bytes, List.length_append, putUint16_length, WireName.bytes, nameOf]
  omega

theorem txtData_length {id : Bytes} (hid : id.length + 3 ≤ 255) :
    (txtData id).bytes.length < 2 ^ 16 := by
  rw [txtData, RData.bytes, List.length_cons, List.length_append]
  show 3 + id.length + 1 < 2 ^ 16
  omega

theorem appendRecord_ptr (out : Bytes) {label : Bytes} (hlabel : IsLabel label) (ttl : UInt32) :
    appendRecord out kService kTypePtr (appendName [] (instanceOf label)) ttl =
      out ++ ResourceRecord.bytes ⟨nameOf serviceLabels isLabel_service, 1, ttl, ptrData hlabel,
        ptrData_length hlabel⟩ := by
  rw [instanceOf_eq, appendName_dotted [] (List.cons_ne_nil _ _) (isLabel_instance hlabel),
    List.nil_append, kService_eq]
  exact appendRecord_eq out (by decide) isLabel_service ttl (ptrData hlabel) (ptrData_length hlabel)

/-- The four records of an answer. -/
def goodRecords {label : Bytes} (hlabel : IsLabel label) {hostLabels : List Bytes}
    (hhost : ∀ label ∈ hostLabels, IsLabel label) (port : UInt16)
    (hsize : 6 + (wire hostLabels).length < 2 ^ 16) {id : Bytes} (hid : id.length + 3 ≤ 255)
    (a b c d : UInt8) (ttl : UInt32) : List ResourceRecord :=
  let service := nameOf serviceLabels isLabel_service
  let instanceName := nameOf (label :: serviceLabels) (isLabel_instance hlabel)
  [⟨service, 1, ttl, ptrData hlabel, ptrData_length hlabel⟩,
    ⟨instanceName, 1, ttl, srvData port hostLabels hhost, by rw [srvData_length]; exact hsize⟩,
    ⟨instanceName, 1, ttl, txtData id, txtData_length hid⟩,
    ⟨nameOf hostLabels hhost, 1, ttl, aData a b c d, by show 4 < 2 ^ 16; decide⟩]

/-- The packet of an answer. -/
def goodPacket {label : Bytes} (hlabel : IsLabel label) {hostLabels : List Bytes}
    (hhost : ∀ label ∈ hostLabels, IsLabel label) (port : UInt16)
    (hsize : 6 + (wire hostLabels).length < 2 ^ 16) {id : Bytes} (hid : id.length + 3 ≤ 255)
    (a b c d : UInt8) (ttl : UInt32) : Packet :=
  { id := 0
    flags := 0x8400
    answers := 4
    authorities := 0
    additionals := 0
    questions := []
    records := goodRecords hlabel hhost port hsize hid a b c d ttl
    questions_lt := noQuestions_lt
    counts := rfl }

/-- **The builder writes the packet of the answer.** -/
theorem response_eq {label : Bytes} (hlabel : IsLabel label) {hostLabels : List Bytes}
    (hne : hostLabels ≠ []) (hhost : ∀ label ∈ hostLabels, IsLabel label) (port : UInt16)
    (hsize : 6 + (wire hostLabels).length < 2 ^ 16) {id : Bytes} (hid : id.length + 3 ≤ 255)
    (a b c d : UInt8) (ttl : UInt32) :
    response label (dotted hostLabels) port id [a, b, c, d] ttl =
      (goodPacket hlabel hhost port hsize hid a b c d ttl).bytes := by
  have hinstance := isLabel_instance hlabel
  have hname : instanceOf label = dotted (label :: serviceLabels) := instanceOf_eq label
  have hsrv (out : Bytes) : appendRecord out (instanceOf label) kTypeSrv
      (appendName (putUint16 0 ++ putUint16 0 ++ putUint16 port) (dotted hostLabels)) ttl =
        out ++ ResourceRecord.bytes ⟨nameOf (label :: serviceLabels) hinstance, 1, ttl,
          srvData port hostLabels hhost, by rw [srvData_length]; exact hsize⟩ := by
    rw [hname, appendName_dotted _ hne hhost, List.append_assoc, List.append_assoc]
    exact appendRecord_eq out (List.cons_ne_nil _ _) hinstance ttl (srvData port hostLabels hhost) _
  have htxt (out : Bytes) : appendRecord out (instanceOf label) kTypeTxt
      (UInt8.ofNat (ascii "id=" ++ id).length :: (ascii "id=" ++ id)) ttl =
        out ++ ResourceRecord.bytes ⟨nameOf (label :: serviceLabels) hinstance, 1, ttl, txtData id,
          txtData_length hid⟩ := by
    rw [hname]
    exact appendRecord_eq out (List.cons_ne_nil _ _) hinstance ttl (txtData id) _
  have ha (out : Bytes) : appendRecord out (dotted hostLabels) kTypeA [a, b, c, d] ttl =
      out ++ ResourceRecord.bytes ⟨nameOf hostLabels hhost, 1, ttl, aData a b c d, by
        show 4 < 2 ^ 16; decide⟩ :=
    appendRecord_eq out hne hhost ttl (aData a b c d) _
  have hheader : (goodPacket hlabel hhost port hsize hid a b c d ttl).bytes = responseHeader 4 ++
      (goodRecords hlabel hhost port hsize hid a b c d ttl).flatMap ResourceRecord.bytes := rfl
  rw [response, appendRecord_ptr _ hlabel, hsrv, htxt, ha, hheader]
  simp only [goodRecords, List.flatMap_cons, List.flatMap_nil, List.append_nil, List.append_assoc]

/-! ### The round trip -/

/-- What a receiver that answers is known as. -/
def receiver (label host : Bytes) (port : UInt16) (id : Bytes) (address : Bytes) (ttl : UInt32) :
    DiscoveryRecord :=
  { id := id
    name := label
    address := address
    addresses := [address]
    instanceName := label
    host := host
    port := port
    ttlSeconds := ttl
    online := true
    goodbye := false }

theorem firstLabel_dotted {label : Bytes} (h : IsLabel label) (labels : List Bytes) :
    firstLabel (dotted (label :: labels)) = label :=
  Labels.takeWhile_dotted labels h.dotless

theorem preferred_single (address : Bytes) : preferred [address] = address := by
  rw [preferred]
  split
  · rename_i ipv4 hfind
    exact List.mem_singleton.1 (List.mem_of_find?_eq_some hfind)
  · rfl

/-- What the four records make of no receivers. -/
theorem answer_good {label host : Bytes} (h : IsLabel label) (labels : List Bytes) (port : UInt16)
    (id address : Bytes) {ttl : UInt32} (hpos : ttl ≠ 0) (hle : ttl ≤ 120) :
    answer [.ptr (dotted (label :: labels)) ttl,
        .srv (dotted (label :: labels)) ttl port (some host),
        .txt (dotted (label :: labels)) ttl (some id), .a host ttl address] ∅ =
      (∅ : Found).insert (dotted (label :: labels)) (receiver label host port id address ttl) := by
  rw [answer]
  simp only [List.foldl_cons, List.foldl_nil, Record.apply, upsert_empty, upsert_single]
  rw [joinHosts, map_single]
  congr 1
  have hmin : min (120 : UInt32) ttl = ttl := by
    apply UInt32.toNat_inj.1
    rw [toNat_min]
    exact Nat.min_eq_right (UInt32.le_iff_toNat_le.1 hle)
  have hself : min ttl ttl = ttl := by
    apply UInt32.toNat_inj.1
    rw [toNat_min, Nat.min_self]
  have hnone : decide (ttl = 0) = false := decide_eq_false hpos
  simp only [joined, onTxt, onSrv, onPtr, named, onAddress, firstLabel_dotted h,
    Std.ExtTreeMap.getElem?_insert_self, Option.getD_some, List.nil_append, preferred_single, hmin,
    hself, hnone, Bool.or_false, Bool.not_false]
  rfl

/-- **The round trip.**  The packet of an answer is read as exactly one receiver, with the label,
the host, the port, the id, the address and the TTL that were written, online and not leaving. -/
theorem parseResponse_response (inetNtop6 : Bytes → Bytes) (label : Bytes) (hlabel : IsLabel label)
    (hostLabels : List Bytes) (hne : hostLabels ≠ [])
    (hhost : ∀ label ∈ hostLabels, IsLabel label) (hsize : (dotted hostLabels).length ≤ 65527)
    (port : UInt16) (id : Bytes) (hid : id.length + 3 ≤ 255) (a b c d : UInt8) (ttl : UInt32)
    (hpos : 1 ≤ ttl) (hle : ttl ≤ 120) :
    (parseResponse inetNtop6 (response label (dotted hostLabels) port id [a, b, c, d] ttl)
        ∅).toList =
      [(instanceOf label,
        receiver label (dotted hostLabels) port id (inetNtop4 [a, b, c, d]) ttl)] := by
  have hwire : 6 + (wire hostLabels).length < 2 ^ 16 := by
    rw [wire_length hne]
    omega
  have hzero : ttl ≠ 0 := by
    rintro rfl
    exact absurd hpos (by decide)
  have hparse := parseResponse_packet inetNtop6
    (goodPacket hlabel hhost port hwire hid a b c d ttl) [] ∅
  have hcontent : (goodPacket hlabel hhost port hwire hid a b c d ttl).content inetNtop6 =
      [.ptr (dotted (label :: serviceLabels)) ttl,
        .srv (dotted (label :: serviceLabels)) ttl port (some (dotted hostLabels)),
        .txt (dotted (label :: serviceLabels)) ttl (some id),
        .a (dotted hostLabels) ttl (inetNtop4 [a, b, c, d])] := by
    rw [← txtId_entry hid]
    rfl
  rw [List.append_nil, ← response_eq hlabel hne hhost port hwire hid, hcontent,
    answer_good hlabel serviceLabels port id _ hzero hle, ← instanceOf_eq] at hparse
  rw [hparse, toList_single]

theorem parseResponse_response_iPad :
    (parseResponse (fun _ => []) goodResponse ∅).toList =
      [(ascii "iPad._opensidecar._tcp.local",
        receiver (ascii "iPad") (ascii "iPad-Pro.local") 9000
          (ascii "5C2B9E14-0000-4A00-B000-1234567890AB") (ascii "192.0.2.42") 120)] := by
  have hhost : dotted [ascii "iPad-Pro", ascii "local"] = ascii "iPad-Pro.local" := by decide
  have haddress : inetNtop4 [192, 0, 2, 42] = ascii "192.0.2.42" := by decide
  rw [goodResponse, ← hhost, ← haddress]
  exact parseResponse_response (fun _ => []) (ascii "iPad") (by decide)
    [ascii "iPad-Pro", ascii "local"] (by decide) (by decide) (by decide) 9000
    (ascii "5C2B9E14-0000-4A00-B000-1234567890AB") (by decide) 192 0 2 42 120 (by decide)
    (by decide)

/-! ### A host name that is too long -/

/-- The first label of a long host name. -/
def zeroLabel : Bytes := List.replicate 63 0

/-- The other labels. -/
def moreLabels : List Bytes := List.replicate 1022 zeroLabel ++ [List.replicate 56 0]

theorem isLabel_long : ∀ label ∈ zeroLabel :: moreLabels, IsLabel label := by
  intro label hmem
  rw [List.mem_cons, moreLabels, List.mem_append, List.mem_replicate, List.mem_singleton] at hmem
  obtain rfl | ⟨-, rfl⟩ | rfl := hmem
  · decide
  · decide
  · decide

theorem wire_append (labels labels' : List Bytes) :
    (wire (labels ++ labels')).length + 1 = (wire labels).length + (wire labels').length := by
  rw [wire, wire, wire, List.flatMap_append]
  simp only [List.length_append, List.length_singleton]
  omega

theorem wire_replicate (label : Bytes) (n : Nat) :
    (wire (List.replicate n label)).length = n * (label.length + 1) + 1 := by
  induction n with
  | zero => rw [Nat.zero_mul]; rfl
  | succ n ih =>
    rw [List.replicate_succ, Labels.wire_cons, List.length_cons, List.length_append, ih,
      Nat.succ_mul]
    omega

theorem wire_long : (wire (zeroLabel :: moreLabels)).length = 65530 := by
  have hmore := wire_append (List.replicate 1022 zeroLabel) [List.replicate 56 0]
  have hlast : (wire [List.replicate 56 (0 : UInt8)]).length = 58 := by decide
  have hzero : zeroLabel.length = 63 := List.length_replicate
  rw [wire_replicate, hlast, hzero] at hmore
  rw [Labels.wire_cons, List.length_cons, List.length_append, hzero, moreLabels]
  omega

/-- The name without labels. -/
def rootName : WireName := { labels := [], sizes := fun label hmem => by cases hmem }

/-- A record without data, of any type but PTR. -/
def emptyRecord (owner : WireName) (type : UInt16) (recordClass : UInt16) (ttl : UInt32)
    (htype : type ≠ kTypePtr) : ResourceRecord :=
  { owner := owner
    recordClass := recordClass
    ttl := ttl
    rdata := .plain type [] ⟨htype, fun _ => by decide⟩
    size := by show 0 < 2 ^ 16; decide }

theorem isLabel_iPad : ∀ label ∈ ascii "iPad" :: serviceLabels, IsLabel label :=
  isLabel_instance (by decide)

/-- The packet that a reader sees: the SRV record ends before its data, which is read as two
records of type 0. -/
def longPacket : Packet :=
  let instanceName := nameOf (ascii "iPad" :: serviceLabels) isLabel_iPad
  { id := 0
    flags := 0x8400
    answers := 4
    authorities := 0
    additionals := 0
    questions := []
    records := [
      ⟨nameOf serviceLabels isLabel_service, 1, 120, @ptrData (ascii "iPad") (by decide),
        ptrData_length _⟩,
      emptyRecord instanceName kTypeSrv 1 120 (by decide),
      emptyRecord rootName 0 0 0x003F0000 (by decide),
      emptyRecord rootName 0 0 0 (by decide)]
    questions_lt := noQuestions_lt
    counts := rfl }

theorem appendRecord_out (out name : Bytes) (type : UInt16) (payload : Bytes) (ttl : UInt32) :
    appendRecord out name type payload ttl = out ++ appendRecord [] name type payload ttl := by
  rw [appendRecord, appendName_append, appendRecord]
  simp only [List.append_assoc]

/-- A size of 65536 is written as none. -/
theorem appendRecord_long (out : Bytes) {label : Bytes} (hlabel : IsLabel label) {payload : Bytes}
    (hlength : payload.length = 2 ^ 16) (ttl : UInt32) :
    appendRecord out (instanceOf label) kTypeSrv payload ttl =
      out ++ ((emptyRecord (nameOf (label :: serviceLabels) (isLabel_instance hlabel)) kTypeSrv 1
        ttl (by decide)).bytes ++ payload) := by
  rw [instanceOf_eq, appendRecord,
    appendName_dotted out (List.cons_ne_nil _ _) (isLabel_instance hlabel), hlength, emptyRecord,
    ResourceRecord.bytes, ResourceRecord.fields, RData.bytes, putUint32]
  simp only [List.append_assoc, List.nil_append]
  rfl

/-- The data of the SRV record begins with two records. -/
theorem longData :
    ∃ rest, putUint16 0 ++ putUint16 0 ++ putUint16 0 ++ wire (zeroLabel :: moreLabels) =
      (emptyRecord rootName 0 0 0x003F0000 (by decide)).bytes ++
        ((emptyRecord rootName 0 0 0 (by decide)).bytes ++ rest) := by
  rw [Labels.wire_cons]
  generalize wire moreLabels = more
  exact ⟨List.replicate 48 0 ++ more, rfl⟩

/-- What the builder writes for a long host name is the packet that a reader sees. -/
theorem response_long :
    ∃ rest, response (ascii "iPad") (dotted (zeroLabel :: moreLabels)) 0 [] [0, 0, 0, 0] 120 =
      longPacket.bytes ++ rest := by
  have hlabel : IsLabel (ascii "iPad") := by decide
  have hlength : (putUint16 0 ++ putUint16 0 ++ putUint16 0 ++
      wire (zeroLabel :: moreLabels)).length = 2 ^ 16 := by
    simp only [List.length_append, putUint16_length, wire_long]
    rfl
  obtain ⟨rest, hrest⟩ := longData
  rw [response, appendRecord_ptr _ hlabel, appendName_dotted _ (List.cons_ne_nil _ _) isLabel_long,
    appendRecord_long _ hlabel hlength, hrest, appendRecord_out,
    appendRecord_out (_ ++ _) _ kTypeTxt]
  have hpacket : longPacket.bytes = responseHeader 4 ++
      longPacket.records.flatMap ResourceRecord.bytes := rfl
  rw [hpacket, longPacket]
  simp only [List.flatMap_cons, List.flatMap_nil, List.append_nil, List.append_assoc]
  exact ⟨_, rfl⟩

theorem parseResponse_response_fails_longHost :
    ¬∀ (inetNtop6 : Bytes → Bytes) (label : Bytes) (hostLabels : List Bytes) (port : UInt16)
      (id : Bytes) (a b c d : UInt8) (ttl : UInt32), IsLabel label → hostLabels ≠ [] →
      (∀ label ∈ hostLabels, IsLabel label) → id.length + 3 ≤ 255 → 1 ≤ ttl → ttl ≤ 120 →
      (parseResponse inetNtop6 (response label (dotted hostLabels) port id [a, b, c, d] ttl)
          ∅).toList =
        [(instanceOf label,
          receiver label (dotted hostLabels) port id (inetNtop4 [a, b, c, d]) ttl)] := by
  intro hall
  have hsame := hall (fun _ => []) (ascii "iPad") (zeroLabel :: moreLabels) 0 [] 0 0 0 0 120
    (by decide) (List.cons_ne_nil _ _) isLabel_long (by decide) (by decide) (by decide)
  obtain ⟨rest, hrest⟩ := response_long
  rw [hrest, parseResponse_packet] at hsame
  have hread : (answer (longPacket.content fun _ => []) ∅).toList.map (fun entry => entry.2.host) =
      [[]] := by decide +kernel
  rw [hsame] at hread
  have hhost : dotted (zeroLabel :: moreLabels) = [] := List.head_eq_of_cons_eq hread
  have hlength := wire_length (List.cons_ne_nil zeroLabel moreLabels)
  rw [wire_long, hhost] at hlength
  exact absurd hlength (by decide)

end SecondDisplay.Mdns
