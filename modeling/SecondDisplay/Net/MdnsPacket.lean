import SecondDisplay.Net.Mdns
import SecondDisplay.Net.Connection

/-!
# Well-formed packets (`net/Mdns.cpp`)

A packet is a header, questions and resource records, with names that are written out label by
label.  `ParseResponse` reads such a packet record by record as what it says, whatever follows the
last record (`parseResponse_packet`).
-/

namespace SecondDisplay.Mdns

open Labels (wire dotted joinFrom drop_add_of_drop le_length_of_drop getD_of_drop)

/-! ### Names -/

/-- A name without compression.  The length of a label leaves one of the two top bits clear. -/
structure WireName where
  labels : List Bytes
  sizes : ∀ label ∈ labels, 0 < label.length ∧ label.length < 0xC0

/-- The bytes of a name. -/
def WireName.bytes (name : WireName) : Bytes := wire name.labels

/-- The text that `ReadName` makes of a name. -/
def WireName.text (name : WireName) : Bytes := dotted name.labels

theorem labelLength : ∀ n, 0 < n → n < 0xC0 →
    UInt8.ofNat n ≠ 0 ∧ UInt8.ofNat n &&& 0xC0 ≠ 0xC0 ∧ (UInt8.ofNat n).toNat = n := by
  have hall : ∀ n : Fin 0xC0, 0 < n.val →
      UInt8.ofNat n ≠ 0 ∧ UInt8.ofNat n &&& 0xC0 ≠ 0xC0 ∧ (UInt8.ofNat n).toNat = n := by
    decide +kernel
  exact fun n hpos hlt => hall ⟨n, hlt⟩ hpos

theorem readNameFrom_outside {data : Bytes} {cursor : Nat} (h : data.length ≤ cursor)
    (after hops : Nat) (out : Bytes) : readNameFrom data cursor after hops out = none := by
  rw [readNameFrom]
  split
  · rfl
  · rename_i hcons
    rw [List.drop_eq_nil_of_le h] at hcons
    cases hcons

/-- The end of a name. -/
theorem readNameFrom_zero {data rest : Bytes} {cursor : Nat} (h : data.drop cursor = 0 :: rest)
    (after hops : Nat) (out : Bytes) : readNameFrom data cursor after hops out =
      some (out, if after ≠ 0 then after else cursor + 1) := by
  rw [readNameFrom]
  split
  · rename_i hnil
    rw [h] at hnil
    cases hnil
  · rename_i hcons
    obtain ⟨rfl, rfl⟩ := List.cons.inj (h.symm.trans hcons)
    rw [if_pos rfl]

/-- A pointer without its second byte. -/
theorem readNameFrom_cut {data : Bytes} {cursor : Nat} {length : UInt8}
    (h : data.drop cursor = [length]) (hzero : length ≠ 0) (hmask : length &&& 0xC0 = 0xC0)
    (after hops : Nat) (out : Bytes) : readNameFrom data cursor after hops out = none := by
  rw [readNameFrom]
  split
  · rfl
  · rename_i hcons
    obtain ⟨rfl, rfl⟩ := List.cons.inj (h.symm.trans hcons)
    rw [if_neg hzero, if_pos hmask]

/-- A pointer, the seventeenth or one before. -/
theorem readNameFrom_pointer {data rest : Bytes} {cursor : Nat} {length low : UInt8}
    (h : data.drop cursor = length :: low :: rest) (hzero : length ≠ 0)
    (hmask : length &&& 0xC0 = 0xC0) (after hops : Nat) (out : Bytes) :
    readNameFrom data cursor after hops out = if 16 < hops + 1 then none else
      readNameFrom data (((length &&& 0x3F).toNat <<< 8) ||| low.toNat)
        (if after = 0 then cursor + 2 else after) (hops + 1) out := by
  rw [readNameFrom]
  split
  · rename_i hnil
    rw [h] at hnil
    cases hnil
  · rename_i hcons
    obtain ⟨rfl, rfl⟩ := List.cons.inj (h.symm.trans hcons)
    rw [if_neg hzero, if_pos hmask]

/-- A label, whole or cut off. -/
theorem readNameFrom_length {data tail : Bytes} {cursor : Nat} {length : UInt8}
    (h : data.drop cursor = length :: tail) (hzero : length ≠ 0) (hmask : length &&& 0xC0 ≠ 0xC0)
    (after hops : Nat) (out : Bytes) :
    readNameFrom data cursor after hops out = if tail.length < length.toNat then none else
      readNameFrom data (cursor + 1 + length.toNat) after hops
        ((if out ≠ [] then out ++ [0x2E] else out) ++ tail.take length.toNat) := by
  rw [readNameFrom]
  split
  · rename_i hnil
    rw [h] at hnil
    cases hnil
  · rename_i hcons
    obtain ⟨rfl, rfl⟩ := List.cons.inj (h.symm.trans hcons)
    rw [if_neg hzero, if_neg hmask]

/-- A label of a name. -/
theorem readNameFrom_label {data label rest : Bytes} {cursor : Nat}
    (h : data.drop cursor = UInt8.ofNat label.length :: (label ++ rest))
    (hsize : 0 < label.length ∧ label.length < 0xC0) (after hops : Nat) (out : Bytes) :
    readNameFrom data cursor after hops out =
      readNameFrom data (cursor + 1 + label.length) after hops
        ((if out ≠ [] then out ++ [0x2E] else out) ++ label) := by
  obtain ⟨hzero, hmask, hlength⟩ := labelLength label.length hsize.1 hsize.2
  rw [readNameFrom_length h hzero hmask, hlength, if_neg (by rw [List.length_append]; omega),
    List.take_left]

theorem readNameFrom_wire {data rest : Bytes} {labels : List Bytes}
    (hsizes : ∀ label ∈ labels, 0 < label.length ∧ label.length < 0xC0) {cursor : Nat}
    (h : data.drop cursor = wire labels ++ rest) (hops : Nat) (out : Bytes) :
    readNameFrom data cursor 0 hops out =
      some (joinFrom out labels, cursor + (wire labels).length) := by
  induction labels generalizing cursor out with
  | nil => exact readNameFrom_zero h 0 hops out
  | cons label labels ih =>
    rw [Labels.wire_cons, List.cons_append, List.append_assoc] at h
    have hnext : data.drop (cursor + 1 + label.length) = wire labels ++ rest := by
      have hdrop := drop_add_of_drop (UInt8.ofNat label.length :: label) h
      rwa [List.length_cons, Nat.add_comm label.length 1, ← Nat.add_assoc] at hdrop
    rw [readNameFrom_label h (hsizes label List.mem_cons_self),
      ih (fun other hmem => hsizes other (List.mem_cons_of_mem _ hmem)) hnext,
      Labels.joinFrom_cons, Labels.wire_cons, List.length_cons, List.length_append]
    congr 2
    omega

/-- **A name that is written out is read as its text.** -/
theorem readName_wire {data rest : Bytes} {pos : Nat} (name : WireName)
    (h : data.drop pos = name.bytes ++ rest) :
    readName data pos = some (name.text, pos + name.bytes.length) := by
  have hne : ∀ label ∈ name.labels, label ≠ [] := by
    intro label hmem hnil
    have hpos := (name.sizes label hmem).1
    rw [hnil] at hpos
    exact absurd hpos (Nat.lt_irrefl 0)
  rw [readName, readNameFrom_wire name.sizes h, Labels.joinFrom_nil hne]
  rfl

theorem WireName.bytes_ne_nil (name : WireName) : name.bytes ≠ [] := Labels.wire_ne_nil _

/-! ### Numbers -/

theorem uint16_bytes (value : UInt16) :
    ((value >>> 8).toUInt8.toUInt16 <<< 8) ||| (value &&& 0xFF).toUInt8.toUInt16 = value := by
  have hlt := value.toNat_lt
  have hmask := Nat.and_two_pow_sub_one_eq_mod value.toNat 8
  simp only [Nat.reducePow, Nat.add_one_sub_one] at hmask
  apply UInt16.toNat_inj.1
  simp only [UInt16.toNat_or, UInt16.toNat_shiftLeft, UInt8.toNat_toUInt16, UInt16.toNat_toUInt8,
    UInt16.toNat_shiftRight, UInt16.toNat_and, UInt16.reduceToNat, Nat.reduceMod, hmask]
  rw [Nat.shiftRight_eq_div_pow, Nat.mod_eq_of_lt (show value.toNat / 2 ^ 8 < 2 ^ 8 by omega),
    Nat.mod_eq_of_lt (show value.toNat % 256 < 2 ^ 8 by omega), Nat.shiftLeft_eq,
    Nat.mod_eq_of_lt (show value.toNat / 2 ^ 8 * 2 ^ 8 < 2 ^ 16 by omega), Nat.mul_comm,
    ← Nat.two_pow_add_eq_or_of_lt (by omega)]
  omega

@[simp] theorem putUint16_length (value : UInt16) : (putUint16 value).length = 2 := rfl

theorem readUint16_of_drop {data rest : Bytes} {pos : Nat} {value : UInt16}
    (h : data.drop pos = putUint16 value ++ rest) : readUint16 data pos = value := by
  have hzero := getD_of_drop h 0 (by simp)
  have hone := getD_of_drop h 1 (by simp)
  rw [readUint16, hone, show data.getD pos 0 = _ from hzero]
  exact uint16_bytes value

/-- The four bytes of a TTL. -/
def putUint32 (value : UInt32) : Bytes :=
  putUint16 (value >>> 16).toUInt16 ++ putUint16 (value &&& 0xFFFF).toUInt16

@[simp] theorem putUint32_length (value : UInt32) : (putUint32 value).length = 4 := rfl

theorem uint32_bytes (value : UInt32) :
    Connection.frameLength ((value >>> 16).toUInt16 >>> 8).toUInt8
      ((value >>> 16).toUInt16 &&& 0xFF).toUInt8 ((value &&& 0xFFFF).toUInt16 >>> 8).toUInt8
      ((value &&& 0xFFFF).toUInt16 &&& 0xFF).toUInt8 = value := by
  have hlt := value.toNat_lt
  have hhigh := Nat.and_two_pow_sub_one_eq_mod (value.toNat / 2 ^ 16 % 2 ^ 16) 8
  have hlow := Nat.and_two_pow_sub_one_eq_mod value.toNat 16
  have hlowest := Nat.and_two_pow_sub_one_eq_mod (value.toNat % 2 ^ 16 % 2 ^ 16) 8
  simp only [Nat.reducePow, Nat.add_one_sub_one] at hhigh hlow hlowest
  apply UInt32.toNat_inj.1
  rw [Connection.frameLength_toNat]
  simp only [UInt16.toNat_toUInt8, UInt16.toNat_shiftRight, UInt32.toNat_toUInt16,
    UInt32.toNat_shiftRight, UInt16.toNat_and, UInt32.toNat_and, UInt32.reduceToNat,
    UInt16.reduceToNat, Nat.reduceMod, Nat.reducePow, Nat.shiftRight_eq_div_pow, hhigh, hlow,
    hlowest]
  omega

theorem readUint32_of_drop {data rest : Bytes} {pos : Nat} {value : UInt32}
    (h : data.drop pos = putUint32 value ++ rest) : readUint32 data pos = value := by
  have hzero := getD_of_drop h 0 (by simp)
  have hone := getD_of_drop h 1 (by simp)
  have htwo := getD_of_drop h 2 (by simp)
  have hthree := getD_of_drop h 3 (by simp)
  rw [readUint32, hone, htwo, hthree, show data.getD pos 0 = _ from hzero]
  exact uint32_bytes value

/-- The smaller of two TTLs. -/
theorem toNat_min (x y : UInt32) : (min x y).toNat = min x.toNat y.toNat := by
  show (if x ≤ y then x else y).toNat = _
  by_cases hle : x ≤ y
  · rw [if_pos hle, Nat.min_eq_left (UInt32.le_iff_toNat_le.1 hle)]
  · have hge : y.toNat ≤ x.toNat := Nat.le_of_not_le fun h => hle (UInt32.le_iff_toNat_le.2 h)
    rw [if_neg hle, Nat.min_eq_right hge]

/-! ### Resource records -/

/-- The data of a record.  PTR and SRV records hold a name, but for SRV records that are too short
to be read; the others hold any bytes. -/
inductive RData where
  | ptr (target : WireName)
  | srv (priority weight port : UInt16) (target : WireName)
  | plain (type : UInt16) (bytes : Bytes)
      (other : type ≠ kTypePtr ∧ (type = kTypeSrv → bytes.length < 7))

/-- The type of a record. -/
def RData.type : RData → UInt16
  | .ptr _ => kTypePtr
  | .srv .. => kTypeSrv
  | .plain type _ _ => type

/-- The data on the wire. -/
def RData.bytes : RData → Bytes
  | .ptr target => target.bytes
  | .srv priority weight port target =>
    putUint16 priority ++ (putUint16 weight ++ (putUint16 port ++ target.bytes))
  | .plain _ bytes _ => bytes

/-- A resource record.  The size of its data is a 16-bit number. -/
structure ResourceRecord where
  owner : WireName
  recordClass : UInt16
  ttl : UInt32
  rdata : RData
  size : rdata.bytes.length < 2 ^ 16

namespace ResourceRecord

/-- The fields between the owner and the data. -/
def fields (record : ResourceRecord) : Bytes :=
  putUint16 record.rdata.type ++ (putUint16 record.recordClass ++ (putUint32 record.ttl ++
    putUint16 (UInt16.ofNat record.rdata.bytes.length)))

/-- A record on the wire. -/
def bytes (record : ResourceRecord) : Bytes :=
  record.owner.bytes ++ (record.fields ++ record.rdata.bytes)

/-- What a record of another type says. -/
def plainRecord (inetNtop6 : Bytes → Bytes) (name : Bytes) (ttl : UInt32) (type : UInt16)
    (rdata : Bytes) : Record :=
  if type = kTypeTxt then .txt name ttl (txtId none rdata)
  else if type = kTypeA then
    if rdata.length ≠ 4 then .ignored else .a name ttl (inetNtop4 rdata)
  else if type = kTypeAaaa then
    if rdata.length ≠ 16 then .ignored else .aaaa name ttl (inetNtop6 rdata)
  else .ignored

/-- What a record says. -/
def content (inetNtop6 : Bytes → Bytes) (record : ResourceRecord) : Record :=
  match record.rdata with
  | .ptr target => .ptr target.text record.ttl
  | .srv _ _ port target => .srv record.owner.text record.ttl port (some target.text)
  | .plain type bytes _ => plainRecord inetNtop6 record.owner.text record.ttl type bytes

theorem fields_length (record : ResourceRecord) : record.fields.length = 10 := rfl

theorem bytes_length (record : ResourceRecord) :
    record.bytes.length = record.owner.bytes.length + 10 + record.rdata.bytes.length := by
  rw [bytes, List.length_append, List.length_append, fields_length, Nat.add_assoc]

/-- **A record is read as what it says.** -/
theorem recordAt_rdata (inetNtop6 : Bytes → Bytes) (record : ResourceRecord) {data rest : Bytes}
    {pos : Nat} (h : data.drop pos = record.rdata.bytes ++ rest) :
    recordAt inetNtop6 data record.owner.text record.rdata.type record.ttl pos
      record.rdata.bytes.length = record.content inetNtop6 := by
  rw [content]
  cases hrdata : record.rdata with
  | ptr target =>
    rw [hrdata] at h
    rw [recordAt, RData.type, if_pos rfl, readName_wire target h]
  | srv priority weight port target =>
    rw [hrdata] at h
    have hport : data.drop (pos + 4) = putUint16 port ++ (target.bytes ++ rest) :=
      drop_add_of_drop (putUint16 priority ++ putUint16 weight) (by
        rw [h, RData.bytes]; simp only [List.append_assoc])
    have htarget : data.drop (pos + 6) = target.bytes ++ rest :=
      drop_add_of_drop (putUint16 priority ++ putUint16 weight ++ putUint16 port) (by
        rw [h, RData.bytes]; simp only [List.append_assoc])
    have hlength : 7 ≤ (RData.srv priority weight port target).bytes.length := by
      have hpos := List.length_pos_iff.2 target.bytes_ne_nil
      simp only [RData.bytes, List.length_append, putUint16_length]
      omega
    rw [recordAt, RData.type, if_neg (by decide), if_pos rfl, if_neg (Nat.not_lt.2 hlength),
      readUint16_of_drop hport, readName_wire target htarget]
    rfl
  | plain type bytes other =>
    rw [hrdata] at h
    have hslice : (data.drop pos).take bytes.length = bytes := by
      rw [h]
      exact List.take_left
    rw [recordAt, RData.type, if_neg other.1]
    show (if type = kTypeSrv then _ else _) = plainRecord inetNtop6 _ _ type bytes
    rw [show (RData.plain type bytes other).bytes = bytes from rfl, hslice, plainRecord]
    by_cases hsrv : type = kTypeSrv
    · rw [if_pos hsrv, if_pos (other.2 hsrv), hsrv]
      rfl
    · rw [if_neg hsrv]

end ResourceRecord

/-- **The fields of a record** are read as they were written. -/
theorem ResourceRecord.reads (record : ResourceRecord) {data rest : Bytes} {pos : Nat}
    (h : data.drop pos = record.bytes ++ rest) :
    readName data pos = some (record.owner.text, pos + record.owner.bytes.length) ∧
      pos + record.owner.bytes.length + 10 + record.rdata.bytes.length ≤ data.length ∧
      readUint16 data (pos + record.owner.bytes.length) = record.rdata.type ∧
      readUint32 data (pos + record.owner.bytes.length + 4) = record.ttl ∧
      (readUint16 data (pos + record.owner.bytes.length + 8)).toNat =
        record.rdata.bytes.length ∧
      data.drop (pos + record.owner.bytes.length + 10) = record.rdata.bytes ++ rest := by
  rw [ResourceRecord.bytes, List.append_assoc, List.append_assoc] at h
  have hfields := drop_add_of_drop _ h
  have hrdata := drop_add_of_drop _ hfields
  have hparts := hfields
  rw [ResourceRecord.fields] at hparts
  simp only [List.append_assoc] at hparts
  have httl := drop_add_of_drop _ (drop_add_of_drop _ hparts)
  have hroom : pos + record.owner.bytes.length + (record.fields ++ record.rdata.bytes).length ≤
      data.length := by
    refine le_length_of_drop (hfields.trans (List.append_assoc ..).symm) ?_
    refine List.ne_nil_of_length_pos ?_
    rw [List.length_append, record.fields_length]
    omega
  rw [List.length_append, record.fields_length] at hroom
  rw [record.fields_length] at hrdata
  refine ⟨readName_wire record.owner h, by omega, readUint16_of_drop hparts,
    readUint32_of_drop httl, ?_, hrdata⟩
  rw [show readUint16 data (pos + record.owner.bytes.length + 8) = _ from
    readUint16_of_drop (drop_add_of_drop _ httl), UInt16.toNat_ofNat_of_lt' record.size]

/-- What the records of a packet make of the receivers. -/
def answer (records : List Record) (found : Found) : Found :=
  joinHosts (records.foldl Record.apply (found, ∅))

/-- The record loop over well-formed records. -/
theorem readRecords_wire (inetNtop6 : Bytes → Bytes) (records : List ResourceRecord)
    {data rest : Bytes} {pos : Nat}
    (h : data.drop pos = records.flatMap ResourceRecord.bytes ++ rest) (maps : Found × Hosts) :
    readRecords inetNtop6 data records.length pos maps =
      joinHosts ((records.map (ResourceRecord.content inetNtop6)).foldl Record.apply maps) := by
  induction records generalizing pos maps with
  | nil => rfl
  | cons record records ih =>
    rw [List.flatMap_cons, List.append_assoc] at h
    obtain ⟨howner, hroom, htype, httl, hsize, hrdata⟩ := record.reads h
    have hnext := drop_add_of_drop _ hrdata
    rw [List.length_cons, readRecords, howner]
    dsimp only
    rw [if_neg (by omega), hsize, if_neg (by omega), htype, httl,
      record.recordAt_rdata inetNtop6 hrdata]
    exact ih hnext _

/-! ### Packets -/

/-- A question: its name, its type and its class. -/
structure Question where
  name : WireName
  type : UInt16
  questionClass : UInt16

/-- A question on the wire. -/
def Question.bytes (question : Question) : Bytes :=
  question.name.bytes ++ (putUint16 question.type ++ putUint16 question.questionClass)

/-- A packet, with the numbers of its questions and of the records of its three sections. -/
structure Packet where
  id : UInt16
  flags : UInt16
  answers : UInt16
  authorities : UInt16
  additionals : UInt16
  questions : List Question
  records : List ResourceRecord
  questions_lt : questions.length < 2 ^ 16
  counts : answers.toNat + authorities.toNat + additionals.toNat = records.length

theorem noQuestions_lt : ([] : List Question).length < 2 ^ 16 := by decide

theorem twoAnswers_count :
    (2 : UInt16).toNat + (0 : UInt16).toNat + (0 : UInt16).toNat = 2 := by decide

namespace Packet

/-- The header of a packet. -/
def header (packet : Packet) : Bytes :=
  putUint16 packet.id ++ (putUint16 packet.flags ++
    (putUint16 (UInt16.ofNat packet.questions.length) ++ (putUint16 packet.answers ++
      (putUint16 packet.authorities ++ putUint16 packet.additionals))))

/-- A packet on the wire. -/
def bytes (packet : Packet) : Bytes :=
  packet.header ++ (packet.questions.flatMap Question.bytes ++
    packet.records.flatMap ResourceRecord.bytes)

/-- What the records of a packet say. -/
def content (inetNtop6 : Bytes → Bytes) (packet : Packet) : List Record :=
  packet.records.map (ResourceRecord.content inetNtop6)

end Packet

theorem skipQuestions_wire (questions : List Question) {data rest : Bytes} {pos : Nat}
    (h : data.drop pos = questions.flatMap Question.bytes ++ rest) :
    skipQuestions data questions.length pos =
      some (pos + (questions.flatMap Question.bytes).length) := by
  induction questions generalizing pos with
  | nil => rfl
  | cons question questions ih =>
    rw [List.flatMap_cons, List.append_assoc, Question.bytes, List.append_assoc] at h
    have hfields := drop_add_of_drop _ h
    have hnext := drop_add_of_drop _ hfields
    have hroom := le_length_of_drop hfields (by simp [putUint16])
    rw [List.length_append, putUint16_length, putUint16_length] at hroom hnext
    rw [List.length_cons, skipQuestions, readName_wire question.name h]
    dsimp only
    rw [if_neg (by omega), ih hnext, List.flatMap_cons, List.length_append, Question.bytes,
      List.length_append, List.length_append, putUint16_length, putUint16_length]
    congr 1
    omega

/-- **The header of a packet** is read as it was written, and the records begin behind the
questions. -/
theorem Packet.reads (packet : Packet) (rest : Bytes) :
    12 ≤ (packet.bytes ++ rest).length ∧
      (readUint16 (packet.bytes ++ rest) 6).toNat + (readUint16 (packet.bytes ++ rest) 8).toNat +
        (readUint16 (packet.bytes ++ rest) 10).toNat = packet.records.length ∧
      ∃ pos, skipQuestions (packet.bytes ++ rest)
          (readUint16 (packet.bytes ++ rest) 4).toNat 12 = some pos ∧
        (packet.bytes ++ rest).drop pos =
          packet.records.flatMap ResourceRecord.bytes ++ rest := by
  have hlength : 12 ≤ (packet.bytes ++ rest).length := by
    simp only [Packet.bytes, Packet.header, List.length_append, putUint16_length]
    omega
  generalize hdata : packet.bytes ++ rest = data at hlength ⊢
  have hid : data.drop 0 = packet.header ++ (packet.questions.flatMap Question.bytes ++
      (packet.records.flatMap ResourceRecord.bytes ++ rest)) := by
    rw [List.drop_zero, ← hdata, Packet.bytes, List.append_assoc, List.append_assoc]
  have hbody := drop_add_of_drop _ hid
  have hrecords := drop_add_of_drop _ hbody
  rw [Packet.header] at hid
  simp only [List.append_assoc] at hid
  have hquestions := drop_add_of_drop _ (drop_add_of_drop _ hid)
  have hanswers := drop_add_of_drop _ hquestions
  have hauthorities := drop_add_of_drop _ hanswers
  have hadditionals := drop_add_of_drop _ hauthorities
  refine ⟨hlength, ?_, _, ?_, hrecords⟩
  · rw [show readUint16 data 6 = _ from readUint16_of_drop hanswers,
      show readUint16 data 8 = _ from readUint16_of_drop hauthorities,
      show readUint16 data 10 = _ from readUint16_of_drop hadditionals, packet.counts]
  · rw [show readUint16 data 4 = _ from readUint16_of_drop hquestions,
      UInt16.toNat_ofNat_of_lt' packet.questions_lt]
    exact skipQuestions_wire packet.questions hbody

/-- **A well-formed packet is read as what its records say**, whatever follows them. -/
theorem parseResponse_packet (inetNtop6 : Bytes → Bytes) (packet : Packet) (rest : Bytes)
    (found : Found) :
    parseResponse inetNtop6 (packet.bytes ++ rest) found =
      answer (packet.content inetNtop6) found := by
  obtain ⟨hlength, hcounts, pos, hquestions, hrecords⟩ := packet.reads rest
  rw [parseResponse, if_neg (Nat.not_lt.2 hlength)]
  dsimp only
  rw [hcounts, hquestions]
  exact readRecords_wire inetNtop6 packet.records hrecords (found, ∅)

end SecondDisplay.Mdns
