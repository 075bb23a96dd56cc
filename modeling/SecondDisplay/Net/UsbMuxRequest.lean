import SecondDisplay.Net.Connection
import SecondDisplay.Net.UsbMux

/-!
# Requests to the service of the cable (`net/UsbMux.cpp`)

`Request` sends a header of four words and a property list, and takes one such message off the
answer.  Both go over a local stream socket in as many pieces as the system likes.  What a call
returns depends on the stream of the answer only (`readResponse_eq`), and the messages are a framing
of it (`plistFraming`), so that a request has exactly the answers that `request_some_iff` says.
-/

namespace SecondDisplay.UsbMux

open Connection (lenBytes frameLength frameLength_lenBytes lenBytes_frameLength readPieces
  readPieces_some readPieces_none intMax)

/-! ### The header -/

/-- `Header`. -/
structure Header where
  length : UInt32 := 0
  version : UInt32 := 0
  message : UInt32 := 0
  tag : UInt32 := 0
  deriving DecidableEq, Repr

def kPlistVersion : UInt32 := 1
def kPlistMessage : UInt32 := 8
def kMaxPlistBytes : Nat := 1048576

/-- `sizeof(Header)`. -/
def headerSize : Nat := 16

/-- A word as it lies in memory, the low byte first. -/
def wordBytes (n : UInt32) : Bytes := (lenBytes n).reverse

/-- The word of four bytes. -/
def word (b0 b1 b2 b3 : UInt8) : UInt32 := frameLength b3 b2 b1 b0

/-- The bytes of a header. -/
def Header.bytes (header : Header) : Bytes :=
  wordBytes header.length ++ (wordBytes header.version ++
    (wordBytes header.message ++ wordBytes header.tag))

/-- The header that sixteen bytes are. -/
def Header.ofBytes : Bytes → Option Header
  | [l0, l1, l2, l3, v0, v1, v2, v3, m0, m1, m2, m3, t0, t1, t2, t3] =>
    some {
      length := word l0 l1 l2 l3
      version := word v0 v1 v2 v3
      message := word m0 m1 m2 m3
      tag := word t0 t1 t2 t3 }
  | _ => none

theorem wordBytes_word (b0 b1 b2 b3 : UInt8) : wordBytes (word b0 b1 b2 b3) = [b0, b1, b2, b3] := by
  rw [wordBytes, word, lenBytes_frameLength]
  rfl

theorem exists_wordBytes (n : UInt32) :
    ∃ b0 b1 b2 b3, wordBytes n = [b0, b1, b2, b3] ∧ word b0 b1 b2 b3 = n :=
  ⟨_, _, _, _, rfl, frameLength_lenBytes n⟩

theorem Header.bytes_length (header : Header) : header.bytes.length = headerSize := rfl

theorem Header.ofBytes_bytes (header : Header) : Header.ofBytes header.bytes = some header := by
  obtain ⟨l0, l1, l2, l3, hlength, hl⟩ := exists_wordBytes header.length
  obtain ⟨v0, v1, v2, v3, hversion, hv⟩ := exists_wordBytes header.version
  obtain ⟨m0, m1, m2, m3, hmessage, hm⟩ := exists_wordBytes header.message
  obtain ⟨t0, t1, t2, t3, htag, ht⟩ := exists_wordBytes header.tag
  rw [Header.bytes, hlength, hversion, hmessage, htag]
  simp only [List.cons_append, List.nil_append, Header.ofBytes, hl, hv, hm, ht]

theorem Header.bytes_ofBytes {bytes : Bytes} {header : Header}
    (h : Header.ofBytes bytes = some header) : header.bytes = bytes := by
  unfold Header.ofBytes at h
  split at h
  · obtain rfl := Option.some.inj h
    simp only [Header.bytes, wordBytes_word, List.cons_append, List.nil_append]
  · cases h

/-! ### Sending and receiving -/

/-- A socket of `OpenUsbMuxService`: what `send` returns from call to call, and the pieces of what
the service answers to the bytes it was sent. -/
structure Session where
  sends : List Int
  answer : Bytes → List Bytes

/-- What a call of `SendAll` did: its result, the bytes that went out, and the calls of `send` that
it left. -/
structure Sent where
  ok : Bool
  bytes : Bytes
  later : List Int

/-- `SendAll`. -/
def sendAll : Bytes → List Int → Sent
  | [], sends => ⟨true, [], sends⟩
  | _ :: _, [] => ⟨false, [], []⟩
  | b :: rest, sent :: sends =>
    if sent ≤ 0 then ⟨false, [], sends⟩
    else
      -- `send` takes at most what it is offered.
      let n := min sent.toNat (min (b :: rest).length intMax)
      let later := sendAll ((b :: rest).drop n) sends
      ⟨later.ok, (b :: rest).take n ++ later.bytes, later.later⟩

/-- `ReceiveAll`. -/
def receiveAll (size : Nat) (pieces : List Bytes) : Option (Bytes × List Bytes) :=
  readPieces size pieces

/-- What goes out is a beginning of the buffer, and all of it if the call returns true. -/
theorem sendAll_bytes (bytes : Bytes) (sends : List Int) :
    ∃ unsent, (sendAll bytes sends).bytes ++ unsent = bytes ∧
      ((sendAll bytes sends).ok = true ↔ unsent = []) := by
  induction sends generalizing bytes with
  | nil =>
    cases bytes with
    | nil => exact ⟨[], rfl, by simp [sendAll]⟩
    | cons b rest => exact ⟨b :: rest, rfl, by simp [sendAll]⟩
  | cons sent sends ih =>
    cases bytes with
    | nil => exact ⟨[], rfl, by simp [sendAll]⟩
    | cons b rest =>
      rw [sendAll]
      split
      · exact ⟨b :: rest, rfl, by simp⟩
      · obtain ⟨unsent, hbytes, hok⟩ :=
          ih ((b :: rest).drop (min sent.toNat (min (b :: rest).length intMax)))
        refine ⟨unsent, ?_, hok⟩
        show (b :: rest).take _ ++ _ ++ unsent = b :: rest
        rw [List.append_assoc, hbytes, List.take_append_drop]

/-! ### Messages -/

/-- A property list that fits into a message, and the tag of the message. -/
structure Message where
  tag : UInt32
  body : Bytes
  fits : headerSize + body.length ≤ kMaxPlistBytes

/-- The header that `Request` fills in for a property list of some size. -/
def Header.plist (size : Nat) (tag : UInt32) : Header where
  length := UInt32.ofNat (headerSize + size)
  version := kPlistVersion
  message := kPlistMessage
  tag := tag

/-- The header of a message. -/
def Message.header (message : Message) : Header := .plist message.body.length message.tag

/-- The bytes of a message. -/
def Message.bytes (message : Message) : Bytes := message.header.bytes ++ message.body

/-- Whether `Request` goes on to the body after the header of an answer. -/
def Header.Accepted (header : Header) : Prop :=
  headerSize ≤ header.length.toNat ∧ header.length.toNat ≤ kMaxPlistBytes ∧
    header.version = kPlistVersion ∧ header.message = kPlistMessage

instance (header : Header) : Decidable header.Accepted :=
  inferInstanceAs (Decidable (_ ∧ _ ∧ _ ∧ _))

/-- The second half of `Request`: the answer. -/
def readResponse (pieces : List Bytes) : Option Bytes :=
  match receiveAll headerSize pieces with
  | none => none
  | some (bytes, rest) =>
    match Header.ofBytes bytes with
    | none => none
    | some response =>
      if response.Accepted then
        let size := response.length.toNat - headerSize
        if size = 0 then some [] else (receiveAll size rest).map (·.1)
      else none

/-- What a call of `Request` did: its result, and the bytes that went out. -/
structure Exchange where
  body : Option Bytes
  sent : Bytes

/-- `Request`. -/
def request (session : Session) (xml : Bytes) (tag : UInt32) : Exchange :=
  if kMaxPlistBytes - headerSize < xml.length then ⟨none, []⟩
  else
    let first := sendAll (Header.plist xml.length tag).bytes session.sends
    if first.ok = false then ⟨none, first.bytes⟩
    else
      let second := sendAll xml first.later
      if second.ok = false then ⟨none, first.bytes ++ second.bytes⟩
      else
        ⟨readResponse (session.answer (first.bytes ++ second.bytes)), first.bytes ++ second.bytes⟩

/-! ### The messages of a stream -/

theorem Message.header_length (message : Message) :
    message.header.length.toNat = headerSize + message.body.length := by
  have hfits := message.fits
  show (UInt32.ofNat (headerSize + message.body.length)).toNat = _
  rw [UInt32.toNat_ofNat']
  refine Nat.mod_eq_of_lt ?_
  unfold kMaxPlistBytes at hfits
  omega

theorem Message.accepted (message : Message) : message.header.Accepted := by
  refine ⟨?_, ?_, rfl, rfl⟩
  · rw [message.header_length]
    exact Nat.le_add_right _ _
  · rw [message.header_length]
    exact message.fits

/-- The message of an accepted header and the bytes behind it. -/
def Message.ofHeader (header : Header) (rest : Bytes) (h : header.Accepted) : Message where
  tag := header.tag
  body := rest.take (header.length.toNat - headerSize)
  fits := by
    have hle := List.length_take_le (header.length.toNat - headerSize) rest
    have hmin := h.1
    have hmax := h.2.1
    omega

/-- Take one message off a stream, with no account of pieces. -/
def takeMessage (stream : Bytes) : Option (Message × Bytes) :=
  match Header.ofBytes (stream.take headerSize) with
  | none => none
  | some header =>
    let rest := stream.drop headerSize
    if h : header.Accepted ∧ header.length.toNat - headerSize ≤ rest.length then
      some (.ofHeader header rest h.1, rest.drop (header.length.toNat - headerSize))
    else none

/-- An accepted header is the one of the message that it begins. -/
theorem Message.header_ofHeader {header : Header} {rest : Bytes} (h : header.Accepted)
    (hlen : header.length.toNat - headerSize ≤ rest.length) :
    (Message.ofHeader header rest h).header = header := by
  obtain ⟨hmin, -, hversion, hmessage⟩ := h
  have hlength : UInt32.ofNat (headerSize +
      (rest.take (header.length.toNat - headerSize)).length) = header.length := by
    rw [List.length_take, Nat.min_eq_left hlen, Nat.add_sub_cancel' hmin, UInt32.ofNat_toNat]
  show Header.plist (rest.take (header.length.toNat - headerSize)).length header.tag = header
  rw [Header.plist, hlength, ← hversion, ← hmessage]

theorem takeMessage_bytes (message : Message) (rest : Bytes) :
    takeMessage (message.bytes ++ rest) = some (message, rest) := by
  have hlen := message.header.bytes_length
  have hbody : message.header.length.toNat - headerSize = message.body.length := by
    rw [message.header_length, Nat.add_sub_cancel_left]
  have hfits : message.header.Accepted ∧
      message.header.length.toNat - headerSize ≤ (message.body ++ rest).length := by
    rw [hbody, List.length_append]
    exact ⟨message.accepted, Nat.le_add_right _ _⟩
  have htake : (message.bytes ++ rest).take headerSize = message.header.bytes := by
    rw [Message.bytes, List.append_assoc, List.take_left' hlen]
  have hdrop : (message.bytes ++ rest).drop headerSize = message.body ++ rest := by
    rw [Message.bytes, List.append_assoc, List.drop_left' hlen]
  rw [hbody] at hfits
  simp only [takeMessage, htake, hdrop, Header.ofBytes_bytes, Message.ofHeader, hbody,
    List.take_left, List.drop_left]
  rw [dif_pos hfits]
  rfl

theorem bytes_takeMessage {stream rest : Bytes} {message : Message}
    (h : takeMessage stream = some (message, rest)) : stream = message.bytes ++ rest := by
  rw [takeMessage] at h
  split at h
  · cases h
  · rename_i header hheader
    dsimp only at h
    split at h
    · rename_i hfits
      obtain ⟨rfl, rfl⟩ := Prod.mk.inj (Option.some.inj h)
      rw [Message.bytes, Message.header_ofHeader hfits.1 hfits.2, Header.bytes_ofBytes hheader,
        List.append_assoc]
      show stream = _ ++ (List.take _ _ ++ List.drop _ _)
      rw [List.take_append_drop, List.take_append_drop]
    · cases h

/-- **The messages of the service** are a framing of the stream. -/
def plistFraming : Framing Message where
  encode := Message.bytes
  decode := takeMessage
  decode_encode := takeMessage_bytes
  encode_decode := bytes_takeMessage

/-- **An answer does not depend on its pieces.**  It is the body of the message that the stream
begins with. -/
theorem readResponse_eq (pieces : List Bytes) :
    readResponse pieces = (takeMessage pieces.flatten).map fun taken => taken.1.body := by
  rw [readResponse, takeMessage]
  simp only [receiveAll]
  by_cases hshort : pieces.flatten.length < headerSize
  · rw [readPieces_none hshort]
    have hnone : Header.ofBytes (pieces.flatten.take headerSize) = none := by
      cases hheader : Header.ofBytes (pieces.flatten.take headerSize) with
      | none => rfl
      | some header =>
        have hlen := congrArg List.length (Header.bytes_ofBytes hheader)
        rw [header.bytes_length, List.length_take] at hlen
        omega
    rw [hnone]
    rfl
  · obtain ⟨rest, hread, hrest⟩ := readPieces_some (Nat.le_of_not_lt hshort)
    rw [hread]
    dsimp only
    split
    · rfl
    · rename_i header hheader
      by_cases haccepted : header.Accepted
      · rw [if_pos haccepted]
        by_cases hlen : header.length.toNat - headerSize ≤ (pieces.flatten.drop headerSize).length
        · rw [dif_pos ⟨haccepted, hlen⟩]
          split
          · rename_i hzero
            simp [Message.ofHeader, hzero]
          · rw [← hrest] at hlen
            obtain ⟨later, hbody, -⟩ := readPieces_some hlen
            rw [hbody, hrest]
            rfl
        · rw [dif_neg fun h => hlen h.2, if_neg (by omega),
            readPieces_none (by rw [hrest]; omega)]
          rfl
      · rw [if_neg haccepted, dif_neg fun h => haccepted h.1]
        rfl

/-! ### Requests -/

/-- **What a request does** with a property list that fits: it sends a beginning of its message,
and looks at the answer once all of it is out. -/
theorem request_eq (session : Session) {xml : Bytes} (tag : UInt32)
    (hfits : headerSize + xml.length ≤ kMaxPlistBytes) :
    ∃ unsent, (request session xml tag).sent ++ unsent = (Message.mk tag xml hfits).bytes ∧
      (request session xml tag).body =
        if unsent = [] then readResponse (session.answer (Message.mk tag xml hfits).bytes)
        else none := by
  have hsize : ¬kMaxPlistBytes - headerSize < xml.length := by omega
  have hwhole : (Message.mk tag xml hfits).bytes = (Header.plist xml.length tag).bytes ++ xml := rfl
  rw [hwhole, request, if_neg hsize]
  obtain ⟨unsent, hheader, hfirst⟩ :=
    sendAll_bytes (Header.plist xml.length tag).bytes session.sends
  generalize (Header.plist xml.length tag).bytes = header at hheader hfirst ⊢
  generalize sendAll header session.sends = first at hheader hfirst ⊢
  dsimp only
  by_cases hok : first.ok = false
  · -- The header stopped short, so there is more to send than the body.
    have hne : unsent ≠ [] := by
      intro hnil
      rw [hfirst.2 hnil] at hok
      cases hok
    rw [if_pos hok]
    refine ⟨unsent ++ xml, ?_, ?_⟩
    · rw [← List.append_assoc, hheader]
    · rw [if_neg (List.append_ne_nil_of_left_ne_nil hne xml)]
  · rw [Bool.not_eq_false] at hok
    rw [hfirst.1 hok, List.append_nil] at hheader
    rw [if_neg (by rw [hok]; decide), hheader]
    obtain ⟨unsent, hbody, hsecond⟩ := sendAll_bytes xml first.later
    generalize sendAll xml first.later = second at hbody hsecond ⊢
    refine ⟨unsent, ?_, ?_⟩
    · rw [← hbody, ← List.append_assoc]
      split <;> rfl
    · by_cases hall : second.ok = false
      · rw [if_pos hall, if_neg]
        intro hnil
        rw [hsecond.2 hnil] at hall
        cases hall
      · rw [Bool.not_eq_false] at hall
        rw [hsecond.1 hall, List.append_nil] at hbody
        rw [if_neg (by rw [hall]; decide), if_pos (hsecond.1 hall), hbody]

/-- **What a request returns.**  It has an answer exactly if its property list fits into a message,
all of the message went out, and the answer of the service begins with a whole message of the
accepted kind, in whatever pieces it arrives; the tag of the answer does not matter. -/
theorem request_some_iff (session : Session) (xml : Bytes) (tag : UInt32) (body : Bytes) :
    (request session xml tag).body = some body ↔
      ∃ hfits : headerSize + xml.length ≤ kMaxPlistBytes,
        (request session xml tag).sent = (Message.mk tag xml hfits).bytes ∧
          ∃ message rest, (session.answer (Message.mk tag xml hfits).bytes).flatten =
            plistFraming.encode message ++ rest ∧ message.body = body := by
  by_cases hfits : headerSize + xml.length ≤ kMaxPlistBytes
  · obtain ⟨unsent, hsent, hbody⟩ := request_eq session tag hfits
    have hwhole : unsent = [] ↔
        (request session xml tag).sent = (Message.mk tag xml hfits).bytes := by
      rw [← hsent]
      simp
    rw [hbody]
    constructor
    · intro h
      split at h
      · rename_i hnil
        refine ⟨hfits, hwhole.1 hnil, ?_⟩
        rw [readResponse_eq, Option.map_eq_some_iff] at h
        obtain ⟨⟨message, rest⟩, htake, hmessage⟩ := h
        exact ⟨message, rest, plistFraming.encode_decode htake, hmessage⟩
      · cases h
    · intro h
      obtain ⟨_, hall, message, rest, hanswer, hmessage⟩ := h
      rw [if_pos (hwhole.2 hall), readResponse_eq, hanswer, ← hmessage]
      have htake : takeMessage (plistFraming.encode message ++ rest) = some (message, rest) :=
        plistFraming.decode_encode message rest
      rw [htake, Option.map_some]
  · have hsize : kMaxPlistBytes - headerSize < xml.length := by
      unfold headerSize kMaxPlistBytes at hfits ⊢
      omega
    rw [request, if_pos hsize]
    constructor
    · intro h
      cases h
    · intro h
      exact absurd h.1 hfits

end SecondDisplay.UsbMux
