import SecondDisplay.Library.Framing
import Mathlib.Data.Nat.Bitwise

/-!
# Frames on a connection (`net/Connection.cpp`)

`SendFrame` writes a four-byte big-endian length and the payload through two loops of partial
sends; `ReadFrame` takes the length apart again and reads the payload through a loop of partial
receives.  What a receive hands out depends on how the network cut the stream; what `ReadFrame`
returns does not (`readExact_eq`), so it is the decoder of a framing (`wireFraming`) and whole
streams round trip (`readFrames_sendFrames`).
-/

namespace SecondDisplay.Connection

/-! ### The length field -/

/-- The payload of a call of `SendFrame`: its size is a `uint32_t`. -/
structure Payload where
  /-- The bytes. -/
  bytes : Bytes
  size_lt : bytes.length < 2 ^ 32

/-- The parameter `size`. -/
def Payload.size (p : Payload) : UInt32 := UInt32.ofNat p.bytes.length

/-- `lenBytes` as `SendFrame` fills it. -/
def lenBytes (size : UInt32) : Bytes :=
  [((size >>> 24) &&& 0xFF).toUInt8, ((size >>> 16) &&& 0xFF).toUInt8,
    ((size >>> 8) &&& 0xFF).toUInt8, (size &&& 0xFF).toUInt8]

/-- The `len` that `ReadFrame` assembles. -/
def frameLength (b0 b1 b2 b3 : UInt8) : UInt32 :=
  (b0.toUInt32 <<< 24) ||| (b1.toUInt32 <<< 16) ||| (b2.toUInt32 <<< 8) ||| b3.toUInt32

/-- The bytes of a complete frame. -/
def frame (p : Payload) : Bytes := lenBytes p.size ++ p.bytes

theorem or_bytes {a b c d : Nat} (hb : b < 256) (hc : c < 256) (hd : d < 256) :
    a <<< 24 ||| b <<< 16 ||| c <<< 8 ||| d = a * 2 ^ 24 + b * 2 ^ 16 + c * 2 ^ 8 + d := by
  have h1 : a <<< 24 ||| b <<< 16 = 2 ^ 16 * (2 ^ 8 * a + b) := by
    rw [show a <<< 24 = 2 ^ 24 * a by rw [Nat.shiftLeft_eq, Nat.mul_comm],
      ← Nat.two_pow_add_eq_or_of_lt (by rw [Nat.shiftLeft_eq]; omega), Nat.shiftLeft_eq]
    omega
  have h2 : 2 ^ 16 * (2 ^ 8 * a + b) ||| c <<< 8 = 2 ^ 8 * (2 ^ 16 * a + 2 ^ 8 * b + c) := by
    rw [← Nat.two_pow_add_eq_or_of_lt (by rw [Nat.shiftLeft_eq]; omega), Nat.shiftLeft_eq]
    omega
  rw [h1, h2, ← Nat.two_pow_add_eq_or_of_lt (by omega)]
  omega

theorem frameLength_toNat (b0 b1 b2 b3 : UInt8) :
    (frameLength b0 b1 b2 b3).toNat =
      b0.toNat * 2 ^ 24 + b1.toNat * 2 ^ 16 + b2.toNat * 2 ^ 8 + b3.toNat := by
  have h0 := b0.toNat_lt
  have h1 := b1.toNat_lt
  have h2 := b2.toNat_lt
  have h3 := b3.toNat_lt
  have s0 : b0.toNat <<< 24 % 4294967296 = b0.toNat <<< 24 := by
    rw [Nat.shiftLeft_eq]; omega
  have s1 : b1.toNat <<< 16 % 4294967296 = b1.toNat <<< 16 := by
    rw [Nat.shiftLeft_eq]; omega
  have s2 : b2.toNat <<< 8 % 4294967296 = b2.toNat <<< 8 := by
    rw [Nat.shiftLeft_eq]; omega
  rw [← or_bytes h1 h2 h3]
  simp [frameLength, s0, s1, s2]

theorem lenByte_toNat (size k : UInt32) (hk : k.toNat < 32) :
    ((size >>> k) &&& 0xFF).toUInt8.toNat = size.toNat / 2 ^ k.toNat % 256 := by
  have hmask := Nat.and_two_pow_sub_one_eq_mod (size.toNat / 2 ^ k.toNat % 256) 8
  simp only [Nat.reducePow, Nat.add_one_sub_one, Nat.mod_mod] at hmask
  simpa [Nat.shiftRight_eq_div_pow, Nat.mod_eq_of_lt hk] using hmask

theorem lowByte_toNat (size : UInt32) : (size &&& 0xFF).toUInt8.toNat = size.toNat % 256 := by
  have hmask := Nat.and_two_pow_sub_one_eq_mod (size.toNat % 256) 8
  simp only [Nat.reducePow, Nat.add_one_sub_one, Nat.mod_mod] at hmask
  simpa using hmask

/-- **The reader's length is the sender's.** -/
theorem frameLength_lenBytes (size : UInt32) :
    frameLength ((size >>> 24) &&& 0xFF).toUInt8 ((size >>> 16) &&& 0xFF).toUInt8
      ((size >>> 8) &&& 0xFF).toUInt8 (size &&& 0xFF).toUInt8 = size := by
  have h24 := lenByte_toNat size 24 (by decide)
  have h16 := lenByte_toNat size 16 (by decide)
  have h8 := lenByte_toNat size 8 (by decide)
  have hlt := size.toNat_lt
  simp only [UInt32.reduceToNat] at h24 h16 h8
  apply UInt32.toNat_inj.1
  rw [frameLength_toNat, h24, h16, h8, lowByte_toNat size]
  omega

/-- **The sender's length bytes are the reader's.** -/
theorem lenBytes_frameLength (b0 b1 b2 b3 : UInt8) :
    lenBytes (frameLength b0 b1 b2 b3) = [b0, b1, b2, b3] := by
  have hlen := frameLength_toNat b0 b1 b2 b3
  have h0 := b0.toNat_lt
  have h1 := b1.toNat_lt
  have h2 := b2.toNat_lt
  have h3 := b3.toNat_lt
  have h24 := lenByte_toNat (frameLength b0 b1 b2 b3) 24 (by decide)
  have h16 := lenByte_toNat (frameLength b0 b1 b2 b3) 16 (by decide)
  have h8 := lenByte_toNat (frameLength b0 b1 b2 b3) 8 (by decide)
  have hlow := lowByte_toNat (frameLength b0 b1 b2 b3)
  simp only [UInt32.reduceToNat] at h24 h16 h8
  simp only [lenBytes, List.cons.injEq, and_true]
  refine ⟨UInt8.toNat_inj.1 ?_, UInt8.toNat_inj.1 ?_, UInt8.toNat_inj.1 ?_,
    UInt8.toNat_inj.1 ?_⟩
  · rw [h24]; omega
  · rw [h16]; omega
  · rw [h8]; omega
  · rw [hlow]; omega

@[simp] theorem lenBytes_length (size : UInt32) : (lenBytes size).length = 4 := rfl

@[simp] theorem Payload.size_toNat (p : Payload) : p.size.toNat = p.bytes.length := by
  rw [Payload.size, UInt32.toNat_ofNat']
  exact Nat.mod_eq_of_lt p.size_lt

theorem frame_ne_nil (p : Payload) : frame p ≠ [] := by
  simp [frame, lenBytes]

/-! ### Sending -/

/-- The socket of a connection: whether `socket_` still holds a handle, and whether
`shutdown` has been called on it. -/
structure Socket where
  valid : Bool
  shutDown : Bool
  deriving DecidableEq, Repr

/-- What one turn of the loop of `WriteExactUntil` meets: the clock in nanoseconds, whether
`setsockopt` succeeds, and what `send` would return on a socket that is not shut down. -/
structure Attempt where
  now : Nat
  timeoutSet : Bool
  sent : Int
  deriving DecidableEq, Repr

/-- `send`: at most the bytes offered, and an error on a socket that is shut down. -/
def Socket.send (socket : Socket) (chunk : Nat) (sent : Int) : Int :=
  if socket.shutDown then -1 else min sent chunk

/-- The largest `int`. -/
def intMax : Nat := 2 ^ 31 - 1

/-- One turn of the loop of `WriteExactUntil` with `rest` still to write: the number of bytes
written, or `none` where the loop returns false. -/
def writeTurn (socket : Socket) (deadline : Nat) (rest : Bytes) (turn : Attempt) : Option Nat :=
  if socket.valid = false then none
  else if deadline ≤ turn.now then none
  else if turn.timeoutSet = false then none
  else
    let n := socket.send (min rest.length intMax) turn.sent
    if n ≤ 0 then none else some n.toNat

theorem writeTurn_some {socket : Socket} {deadline : Nat} {rest : Bytes} {turn : Attempt}
    {n : Nat} (h : writeTurn socket deadline rest turn = some n) :
    socket.valid = true ∧ socket.shutDown = false ∧ 0 < n ∧ n ≤ rest.length := by
  unfold writeTurn Socket.send at h
  split at h
  · cases h
  · split at h
    · cases h
    · split at h
      · cases h
      · split at h
        · simp at h
        · simp only [] at h
          split at h
          · cases h
          · cases h
            refine ⟨by simp_all, by simp_all, by omega, by omega⟩

/-- What a write loop or a call of `SendFrame` did: its result, the bytes that went out, and
the turns it left. -/
structure Written where
  ok : Bool
  bytes : Bytes
  later : List (Socket × Attempt)

/-- `WriteExactUntil`.  Where the list of turns ends, so does the time until the deadline. -/
def writeExactUntil (deadline : Nat) : Bytes → List (Socket × Attempt) → Written
  | [], turns => ⟨true, [], turns⟩
  | _ :: _, [] => ⟨false, [], []⟩
  | b :: rest, (socket, turn) :: turns =>
    match writeTurn socket deadline (b :: rest) turn with
    | none => ⟨false, [], turns⟩
    | some n =>
      let w := writeExactUntil deadline ((b :: rest).drop n) turns
      ⟨w.ok, (b :: rest).take n ++ w.bytes, w.later⟩

/-- `milliseconds(timeoutMs)` on the clock. -/
def nanoseconds (timeoutMs : Int) : Nat := timeoutMs.toNat * 1000000

/-- A call of `SendFrame`: its arguments, the clock at its start and the turns it meets. -/
structure SendCall where
  payload : Payload
  timeoutMs : Int
  start : Nat
  /-- The socket at the check on entry. -/
  entry : Socket
  turns : List (Socket × Attempt)

/-- `SendFrame`, once it holds `sendMutex_`.  The third component of the source's effect, the
`Interrupt` after a failed write, is `SendLock`'s. -/
def sendFrame (call : SendCall) : Written :=
  if call.entry.valid = false then ⟨false, [], call.turns⟩
  else if call.timeoutMs ≤ 0 then ⟨false, [], call.turns⟩
  else
    let deadline := call.start + nanoseconds call.timeoutMs
    let header := writeExactUntil deadline (lenBytes call.payload.size) call.turns
    if header.ok = false then header
    else if call.payload.size > 0 then
      let body := writeExactUntil deadline call.payload.bytes header.later
      ⟨body.ok, header.bytes ++ body.bytes, body.later⟩
    else header

/-- The write loop writes a prefix of its buffer, and the whole buffer if it succeeds. -/
theorem writeExactUntil_bytes (deadline : Nat) (rest : Bytes) (turns : List (Socket × Attempt)) :
    ∃ unsent, (writeExactUntil deadline rest turns).bytes ++ unsent = rest ∧
      ((writeExactUntil deadline rest turns).ok = true ↔ unsent = []) := by
  induction turns generalizing rest with
  | nil =>
    cases rest with
    | nil => exact ⟨[], rfl, by simp [writeExactUntil]⟩
    | cons b rest => exact ⟨b :: rest, rfl, by simp [writeExactUntil]⟩
  | cons head turns ih =>
    cases rest with
    | nil => exact ⟨[], rfl, by simp [writeExactUntil]⟩
    | cons b rest =>
      obtain ⟨socket, turn⟩ := head
      cases hturn : writeTurn socket deadline (b :: rest) turn with
      | none =>
        refine ⟨b :: rest, ?_, ?_⟩
        · simp only [writeExactUntil, hturn, List.nil_append]
        · simp [writeExactUntil, hturn]
      | some n =>
        obtain ⟨unsent, hbytes, hok⟩ := ih ((b :: rest).drop n)
        refine ⟨unsent, ?_, ?_⟩
        · simp only [writeExactUntil, hturn, List.append_assoc]
          rw [hbytes, List.take_append_drop]
        · simp only [writeExactUntil, hturn]
          exact hok

/-- **What a call puts on the wire.**  A prefix of its frame, and the whole frame exactly when
it returns true. -/
theorem sendFrame_bytes (call : SendCall) :
    ∃ unsent, (sendFrame call).bytes ++ unsent = frame call.payload ∧
      ((sendFrame call).ok = true ↔ unsent = []) := by
  have hnone : ([] : Bytes) ++ frame call.payload = frame call.payload ∧
      (false = true ↔ frame call.payload = []) :=
    ⟨rfl, by simp [frame_ne_nil]⟩
  unfold sendFrame
  split
  · exact ⟨_, hnone⟩
  · split
    · exact ⟨_, hnone⟩
    · simp only []
      obtain ⟨unsent, hheader, hok⟩ := writeExactUntil_bytes
        (call.start + nanoseconds call.timeoutMs) (lenBytes call.payload.size) call.turns
      split
      · rename_i hfail
        refine ⟨unsent ++ call.payload.bytes, ?_, ?_⟩
        · rw [← List.append_assoc, hheader]; rfl
        · rw [hok, List.append_eq_nil_iff]
          refine ⟨fun h => absurd (hok.2 h) (by simp [hfail]), fun h => h.1⟩
      · rename_i hheaderOk
        rw [Bool.not_eq_false] at hheaderOk
        have hall := hok.1 hheaderOk
        subst hall
        rw [List.append_nil] at hheader
        split
        · obtain ⟨unsentBody, hbody, hbodyOk⟩ := writeExactUntil_bytes
            (call.start + nanoseconds call.timeoutMs) call.payload.bytes
            (writeExactUntil (call.start + nanoseconds call.timeoutMs)
              (lenBytes call.payload.size) call.turns).later
          refine ⟨unsentBody, ?_, hbodyOk⟩
          rw [List.append_assoc, hbody, hheader]; rfl
        · rename_i hempty
          have hnil : call.payload.bytes = [] := by
            have hzero : ¬ 0 < call.payload.size.toNat := hempty
            rw [Payload.size_toNat] at hzero
            exact List.length_eq_zero_iff.1 (by omega)
          refine ⟨[], ?_, by simp [hheaderOk]⟩
          rw [hheader, frame, hnil]

theorem sendFrame_ok {call : SendCall} (h : (sendFrame call).ok = true) :
    (sendFrame call).bytes = frame call.payload := by
  obtain ⟨unsent, hbytes, hok⟩ := sendFrame_bytes call
  rw [hok.1 h, List.append_nil] at hbytes
  exact hbytes

/-! ### Reading -/

/-- What a connection still has to receive: whether `socket_` holds a handle, and the bytes on
their way, cut into the pieces in which they arrive.  After the last piece `recv` fails. -/
structure Inbound where
  valid : Bool
  chunks : List Bytes
  deriving DecidableEq, Repr

/-- The bytes on their way. -/
def Inbound.stream (input : Inbound) : Bytes := input.chunks.flatten

/-- `recv` for up to `want` bytes: what it hands out comes from one piece, and never is empty. -/
def recv (want : Nat) : List Bytes → Option (Bytes × List Bytes)
  | [] => none
  | [] :: chunks => recv want chunks
  | (b :: chunk) :: chunks =>
    if want = 0 then none
    else some ((b :: chunk).take want, (b :: chunk).drop want :: chunks)

theorem recv_some {want : Nat} {chunks rest : List Bytes} {got : Bytes}
    (h : recv want chunks = some (got, rest)) :
    0 < got.length ∧ got.length ≤ want ∧ chunks.flatten = got ++ rest.flatten := by
  induction chunks with
  | nil => cases h
  | cons chunk chunks ih =>
    cases chunk with
    | nil => exact ih h
    | cons b chunk =>
      rw [recv] at h
      split at h
      · cases h
      · cases h
        refine ⟨by rw [List.length_take, List.length_cons]; omega, List.length_take_le _ _, ?_⟩
        rw [List.flatten_cons, List.flatten_cons, ← List.append_assoc, List.take_append_drop]

theorem recv_none {want : Nat} {chunks : List Bytes} (hwant : want ≠ 0)
    (h : recv want chunks = none) : chunks.flatten = [] := by
  induction chunks with
  | nil => rfl
  | cons chunk chunks ih =>
    cases chunk with
    | nil => exact ih h
    | cons b chunk =>
      rw [recv, if_neg hwant] at h
      cases h

/-- `ReadExact`: the buffer filled, and what is left to receive. -/
def readExact (size : Nat) (input : Inbound) : Option (Bytes × Inbound) :=
  if size = 0 then some ([], input)
  else if input.valid = false then none
  else
    match _ : recv size input.chunks with
    | none => none
    | some (got, chunks) =>
      (readExact (size - got.length) { input with chunks := chunks }).map fun r =>
        (got ++ r.1, r.2)
termination_by size
decreasing_by
  have hgot := recv_some (by assumption)
  omega

/-- `kMaxInboundFrame`. -/
def kMaxInboundFrame : UInt32 := (1 : UInt32) <<< 20

/-- `ReadFrame`: the payload and what is left to receive, or `none` for `nullopt`. -/
def readFrame (input : Inbound) : Option (Bytes × Inbound) :=
  if input.valid = false then none
  else
    match readExact 4 input with
    | some ([b0, b1, b2, b3], rest) =>
      let len := frameLength b0 b1 b2 b3
      if len > kMaxInboundFrame then none
      else if len > 0 then readExact len.toNat rest
      else some ([], rest)
    | _ => none

/-- Up to `n` calls of `ReadFrame`, as the reader loop makes them: it leaves at the first
`nullopt`. -/
def readFrames : Nat → Inbound → List Bytes
  | 0, _ => []
  | n + 1, input =>
    match readFrame input with
    | none => []
    | some (payload, rest) => payload :: readFrames n rest

/-! ### What is read does not depend on the pieces -/

/-- **`ReadExact` sees the stream only.**  It takes the first `size` bytes if there are so many,
and fails otherwise, however they are cut. -/
theorem readExact_eq (size : Nat) (input : Inbound) (hvalid : input.valid = true) :
    (size ≤ input.stream.length → ∃ rest, readExact size input =
        some (input.stream.take size, rest) ∧ rest.valid = true ∧
          rest.stream = input.stream.drop size) ∧
      (input.stream.length < size → readExact size input = none) := by
  fun_induction readExact size input with
  | case1 input =>
    refine ⟨fun _ => ⟨input, rfl, hvalid, rfl⟩, fun h => absurd h (by omega)⟩
  | case2 size input hsize hclosed => simp [hvalid] at hclosed
  | case3 size input hsize hopen hrecv =>
    have hempty : input.stream = [] := recv_none hsize hrecv
    refine ⟨fun h => ?_, fun _ => rfl⟩
    rw [hempty, List.length_nil] at h
    omega
  | case4 size input hsize hopen got chunks hrecv ih =>
    obtain ⟨hpos, hle, hflat⟩ := recv_some hrecv
    obtain ⟨ihSome, ihNone⟩ := ih hvalid
    have hstream : input.stream = got ++ chunks.flatten := hflat
    have htail : ({ input with chunks := chunks } : Inbound).stream = chunks.flatten := rfl
    rw [htail] at ihSome ihNone
    rw [hstream]
    refine ⟨fun h => ?_, fun h => ?_⟩
    · rw [List.length_append] at h
      obtain ⟨rest, hread, hrestValid, hrest⟩ := ihSome (by omega)
      refine ⟨rest, ?_, hrestValid, ?_⟩
      · rw [hread, Option.map_some, List.take_append,
          List.take_of_length_le (by omega : got.length ≤ size)]
      · rw [hrest, List.drop_append, List.drop_eq_nil_of_le (by omega : got.length ≤ size),
          List.nil_append]
    · rw [List.length_append] at h
      rw [ihNone (by omega), Option.map_none]

/-- Where a stream has no readable frame: it ends inside the header, its length field exceeds
the cap, or it ends inside the payload. -/
def Unreadable : Bytes → Prop
  | b0 :: b1 :: b2 :: b3 :: rest =>
    kMaxInboundFrame < frameLength b0 b1 b2 b3 ∨ rest.length < (frameLength b0 b1 b2 b3).toNat
  | _ => True

instance : DecidablePred Unreadable := fun stream =>
  match stream with
  | _ :: _ :: _ :: _ :: _ => inferInstanceAs (Decidable (_ ∨ _))
  | [] | [_] | [_, _] | [_, _, _] => inferInstanceAs (Decidable True)

/-- A payload `ReadFrame` accepts: at most 1 MiB. -/
structure InboundPayload extends Payload where
  within_cap : bytes.length ≤ kMaxInboundFrame.toNat

/-- The first `size` bytes, `size` being within the cap. -/
def InboundPayload.ofTake (bytes : Bytes) (size : Nat) (h : size ≤ kMaxInboundFrame.toNat) :
    InboundPayload where
  bytes := bytes.take size
  size_lt := Nat.lt_of_le_of_lt (Nat.le_trans (List.length_take_le _ _) h)
    kMaxInboundFrame.toNat_lt
  within_cap := Nat.le_trans (List.length_take_le _ _) h

/-- Take one frame off a stream, with no account of pieces. -/
def takeFrame : Bytes → Option (InboundPayload × Bytes)
  | b0 :: b1 :: b2 :: b3 :: rest =>
    if h : (frameLength b0 b1 b2 b3).toNat ≤ kMaxInboundFrame.toNat ∧
        (frameLength b0 b1 b2 b3).toNat ≤ rest.length then
      some (.ofTake rest (frameLength b0 b1 b2 b3).toNat h.1,
        rest.drop (frameLength b0 b1 b2 b3).toNat)
    else none
  | _ => none

theorem takeFrame_none_iff (stream : Bytes) : takeFrame stream = none ↔ Unreadable stream := by
  match stream with
  | [] | [_] | [_, _] | [_, _, _] => simp [takeFrame, Unreadable]
  | b0 :: b1 :: b2 :: b3 :: rest =>
    simp only [takeFrame, Unreadable, dite_eq_right_iff, reduceCtorEq, imp_false, not_and_or,
      Nat.not_le, UInt32.lt_iff_toNat_lt]

theorem takeFrame_of_fits {b0 b1 b2 b3 : UInt8} {p : InboundPayload} {rest : Bytes}
    (hlen : (frameLength b0 b1 b2 b3).toNat = p.bytes.length) :
    takeFrame (b0 :: b1 :: b2 :: b3 :: (p.bytes ++ rest)) = some (p, rest) := by
  have hfits : (frameLength b0 b1 b2 b3).toNat ≤ kMaxInboundFrame.toNat ∧
      (frameLength b0 b1 b2 b3).toNat ≤ (p.bytes ++ rest).length := by
    rw [hlen, List.length_append]
    exact ⟨p.within_cap, Nat.le_add_right _ _⟩
  rw [takeFrame, dif_pos hfits]
  simp only [InboundPayload.ofTake, hlen, List.take_left, List.drop_left]

theorem takeFrame_frame (p : InboundPayload) (rest : Bytes) :
    takeFrame (frame p.toPayload ++ rest) = some (p, rest) := by
  have hbody : frame p.toPayload ++ rest = lenBytes p.toPayload.size ++ (p.bytes ++ rest) :=
    List.append_assoc ..
  rw [hbody]
  apply takeFrame_of_fits
  rw [frameLength_lenBytes]
  exact Payload.size_toNat p.toPayload

theorem frame_takeFrame {stream rest : Bytes} {p : InboundPayload}
    (h : takeFrame stream = some (p, rest)) : stream = frame p.toPayload ++ rest := by
  match stream with
  | [] | [_] | [_, _] | [_, _, _] => simp [takeFrame] at h
  | b0 :: b1 :: b2 :: b3 :: tail =>
    rw [takeFrame] at h
    split at h
    · rename_i hfits
      cases h
      have hsize : frameLength b0 b1 b2 b3 =
          (InboundPayload.ofTake tail (frameLength b0 b1 b2 b3).toNat hfits.1).size := by
        apply UInt32.toNat_inj.1
        rw [Payload.size_toNat]
        exact (List.length_take_of_le hfits.2).symm
      rw [frame, ← hsize, lenBytes_frameLength, List.append_assoc]
      show _ = [b0, b1, b2, b3] ++ (tail.take _ ++ tail.drop _)
      rw [List.take_append_drop]
      rfl
    · cases h

/-- The framing of the wire, for the payloads a reader accepts. -/
def wireFraming : Framing InboundPayload where
  encode p := frame p.toPayload
  decode := takeFrame
  decode_encode := takeFrame_frame
  encode_decode := frame_takeFrame

theorem readExact_some (size : Nat) {input : Inbound} (hvalid : input.valid = true)
    (h : size ≤ input.stream.length) :
    ∃ rest, readExact size input = some (input.stream.take size, rest) ∧ rest.valid = true ∧
      rest.stream = input.stream.drop size :=
  (readExact_eq size input hvalid).1 h

theorem readExact_none {size : Nat} {input : Inbound} (hvalid : input.valid = true)
    (h : input.stream.length < size) : readExact size input = none :=
  (readExact_eq size input hvalid).2 h

/-- The payload of a frame, once its length is known to be within the cap. -/
theorem readFrame_of_header {input rest : Inbound} {b0 b1 b2 b3 : UInt8}
    (hvalid : input.valid = true) (hheader : readExact 4 input = some ([b0, b1, b2, b3], rest))
    (hcap : ¬ frameLength b0 b1 b2 b3 > kMaxInboundFrame) :
    readFrame input = readExact (frameLength b0 b1 b2 b3).toNat rest := by
  simp only [readFrame, hvalid, hheader, Bool.true_eq_false, if_false, if_neg hcap]
  split
  · rfl
  · rename_i hzero
    have hlen : (frameLength b0 b1 b2 b3).toNat = 0 := by
      have hnot : ¬ 0 < (frameLength b0 b1 b2 b3).toNat := hzero
      omega
    rw [hlen, readExact, if_pos rfl]

/-- **`ReadFrame` decodes the framing of the wire**, whatever the pieces. -/
theorem readFrame_eq (input : Inbound) (hvalid : input.valid = true) :
    match takeFrame input.stream with
    | none => readFrame input = none
    | some (p, tail) => ∃ rest, readFrame input = some (p.bytes, rest) ∧ rest.valid = true ∧
        rest.stream = tail := by
  have hshort : input.stream.length < 4 → readFrame input = none := fun h => by
    simp only [readFrame, hvalid, readExact_none hvalid h, Bool.true_eq_false, if_false]
  match hstream : input.stream with
  | [] | [_] | [_, _] | [_, _, _] => exact hshort (by rw [hstream]; simp)
  | b0 :: b1 :: b2 :: b3 :: tail =>
    obtain ⟨rest, hheader, hrestValid, hrest⟩ :=
      readExact_some 4 hvalid (by rw [hstream]; simp)
    rw [hstream] at hheader hrest
    have hrest : rest.stream = tail := hrest
    have hheader : readExact 4 input = some ([b0, b1, b2, b3], rest) := hheader
    by_cases hcap : frameLength b0 b1 b2 b3 > kMaxInboundFrame
    · have hnone : takeFrame (b0 :: b1 :: b2 :: b3 :: tail) = none :=
        (takeFrame_none_iff _).2 (Or.inl hcap)
      rw [hnone]
      simp only [readFrame, hvalid, hheader, Bool.true_eq_false, if_false, if_pos hcap]
    · have hle : (frameLength b0 b1 b2 b3).toNat ≤ kMaxInboundFrame.toNat := by
        rw [gt_iff_lt, UInt32.lt_iff_toNat_lt] at hcap
        omega
      rw [readFrame_of_header hvalid hheader hcap, takeFrame]
      by_cases hbody : (frameLength b0 b1 b2 b3).toNat ≤ tail.length
      · rw [dif_pos ⟨hle, hbody⟩]
        obtain ⟨last, hread, hlastValid, hlast⟩ :=
          readExact_some (frameLength b0 b1 b2 b3).toNat hrestValid (by rw [hrest]; exact hbody)
        rw [hrest] at hread hlast
        exact ⟨last, hread, hlastValid, hlast⟩
      · rw [dif_neg (fun h => hbody h.2)]
        exact readExact_none hrestValid (by rw [hrest]; omega)

theorem readFrame_none_iff (input : Inbound) (hvalid : input.valid = true) :
    readFrame input = none ↔ Unreadable input.stream := by
  have h := readFrame_eq input hvalid
  rw [← takeFrame_none_iff]
  cases htake : takeFrame input.stream with
  | none => simp only [htake] at h; simp [h]
  | some r =>
    simp only [htake] at h
    obtain ⟨rest, hread, _⟩ := h
    simp [hread]

/-- A payload that is returned is a whole frame off the front of the stream. -/
theorem readFrame_some {input rest : Inbound} {payload : Bytes} (hvalid : input.valid = true)
    (h : readFrame input = some (payload, rest)) :
    ∃ p : Payload, p.bytes = payload ∧ input.stream = frame p ++ rest.stream := by
  have hread := readFrame_eq input hvalid
  cases htake : takeFrame input.stream with
  | none =>
    simp only [htake] at hread
    rw [hread] at h
    cases h
  | some r =>
    obtain ⟨p, tail⟩ := r
    simp only [htake] at hread
    obtain ⟨last, hlast, _, hstream⟩ := hread
    rw [h] at hlast
    cases hlast
    exact ⟨p.toPayload, rfl, by rw [frame_takeFrame htake, hstream]⟩

/-- Repeated `ReadFrame` decodes frame after frame. -/
theorem readFrames_eq (n : Nat) (input : Inbound) (hvalid : input.valid = true) :
    readFrames n input = ((wireFraming.decodeUpTo n input.stream).1).map fun p => p.bytes := by
  induction n generalizing input with
  | zero => rfl
  | succ n ih =>
    have hread := readFrame_eq input hvalid
    cases htake : takeFrame input.stream with
    | none =>
      simp only [htake] at hread
      rw [wireFraming.decodeUpTo_stuck htake, readFrames, hread]
      rfl
    | some r =>
      obtain ⟨p, tail⟩ := r
      simp only [htake] at hread
      obtain ⟨rest, hsome, hrestValid, hrest⟩ := hread
      rw [readFrames, hsome, Framing.decodeUpTo,
        show wireFraming.decode input.stream = _ from htake]
      show p.bytes :: readFrames n rest = p.bytes :: _
      rw [ih rest hrestValid, hrest]

/-- **Nothing is invented.**  The payloads that repeated `ReadFrame` returns are those of the frames
at the front of the stream. -/
theorem readFrames_front (n : Nat) (input : Inbound) (hvalid : input.valid = true) :
    ∃ payloads : List InboundPayload, (payloads.map fun p => p.bytes) = readFrames n input ∧
      wireFraming.encodeAll payloads <+: input.stream := by
  refine ⟨(wireFraming.decodeUpTo n input.stream).1, (readFrames_eq n input hvalid).symm, ?_⟩
  exact ⟨_, wireFraming.encodeAll_decodeUpTo n input.stream⟩

/-- The stream of successful calls is the framing's stream of their payloads. -/
theorem sentStream_eq (calls : List SendCall) (hok : ∀ call ∈ calls, (sendFrame call).ok = true)
    (payloads : List InboundPayload)
    (hpayloads : (payloads.map fun p => p.bytes) = calls.map fun call => call.payload.bytes) :
    (calls.map fun call => (sendFrame call).bytes).flatten = wireFraming.encodeAll payloads := by
  induction calls generalizing payloads with
  | nil =>
    rw [List.map_nil, List.map_eq_nil_iff] at hpayloads
    rw [hpayloads]
    rfl
  | cons call calls ih =>
    cases payloads with
    | nil => cases hpayloads
    | cons p payloads =>
      rw [List.map_cons, List.map_cons, List.cons.injEq] at hpayloads
      obtain ⟨hp, hrest⟩ := hpayloads
      have hframe : frame call.payload = wireFraming.encode p := by
        show frame call.payload = frame p.toPayload
        rw [frame, frame, Payload.size, Payload.size, hp]
      rw [List.map_cons, List.flatten_cons, Framing.encodeAll_cons,
        sendFrame_ok (hok call List.mem_cons_self), hframe,
        ih (fun c hc => hok c (List.mem_cons_of_mem _ hc)) payloads hrest]

/-- **Frames round trip over any segmentation.**  However the stream of successful `SendFrame`
calls, each of at most 1 MiB, is cut into pieces, repeated `ReadFrame` returns their payloads in
order; a single `ReadFrame` fails exactly where the stream has no complete frame within the cap,
and what it returns otherwise is a whole frame off the front of the stream. -/
theorem readFrames_sendFrames (calls : List SendCall)
    (hok : ∀ call ∈ calls, (sendFrame call).ok = true)
    (hcap : ∀ call ∈ calls, call.payload.bytes.length ≤ 2 ^ 20)
    (input : Inbound) (hvalid : input.valid = true) (tail : Bytes)
    (hcut : input.chunks.flatten = (calls.map fun call => (sendFrame call).bytes).flatten ++ tail) :
    (Unreadable tail →
      ∀ n, readFrames n input = (calls.map fun call => call.payload.bytes).take n) ∧
    (∀ later : Inbound, later.valid = true →
      (readFrame later = none ↔ Unreadable later.chunks.flatten) ∧
      (∀ payload rest, readFrame later = some (payload, rest) →
        ∃ p : Payload, p.bytes = payload ∧
          later.chunks.flatten = frame p ++ rest.chunks.flatten)) := by
  refine ⟨fun htail n => ?_, fun later hlater =>
    ⟨readFrame_none_iff later hlater, fun payload rest h => readFrame_some hlater h⟩⟩
  have hmax : kMaxInboundFrame.toNat = 2 ^ 20 := by decide
  let payloads : List InboundPayload := calls.attach.map fun call =>
    ⟨call.1.payload, by rw [hmax]; exact hcap call.1 call.2⟩
  have hpayloads : (payloads.map fun p => p.bytes) = calls.map fun call => call.payload.bytes := by
    rw [List.map_map]
    exact List.attach_map_val (f := fun call : SendCall => call.payload.bytes)
  have hstream : input.stream = wireFraming.encodeAll payloads ++ tail := by
    rw [← sentStream_eq calls hok payloads hpayloads]
    exact hcut
  rw [readFrames_eq n input hvalid, hstream,
    wireFraming.decodeUpTo_encodeAll payloads ((takeFrame_none_iff tail).2 htail), List.map_take,
    hpayloads]

/-- Three frames, the middle one empty, received in pieces that split headers and payloads, and
a fourth that breaks off in its header. -/
theorem readFrames_sendFrames_split :
    let turn : Socket × Attempt := (⟨true, false⟩, ⟨0, true, 3⟩)
    let call (bytes : Bytes) (h : bytes.length < 2 ^ 32) : SendCall :=
      ⟨⟨bytes, h⟩, 1000, 0, ⟨true, false⟩, List.replicate 8 turn⟩
    let calls := [call [1, 2, 3, 4] (by decide), call [] (by decide), call [5] (by decide)]
    let input : Inbound :=
      ⟨true, [[0, 0], [0], [], [4, 1, 2], [3, 4, 0, 0, 0, 0, 0], [0, 0, 1, 5, 0]]⟩
    ((∀ call ∈ calls, (sendFrame call).ok = true) ∧
      (∀ call ∈ calls, call.payload.bytes.length ≤ 2 ^ 20) ∧ input.valid = true ∧
      input.chunks.flatten = (calls.map fun call => (sendFrame call).bytes).flatten ++ [0] ∧
      Unreadable [0]) ∧
    ∀ n, readFrames n input = [[1, 2, 3, 4], [], [5]].take n := by
  intro turn call calls input
  refine ⟨⟨by decide, by decide, rfl, by decide, by decide⟩, ?_⟩
  exact (readFrames_sendFrames calls (by decide) (by decide) input rfl [0] (by decide)).1
    (by decide)

/-! ### Reading from a socket that stays valid -/

/-- The loop of `ReadExact` on pieces alone: the buffer filled, and the pieces that are left. -/
def readPieces (size : Nat) (pieces : List Bytes) : Option (Bytes × List Bytes) :=
  (readExact size { valid := true, chunks := pieces }).map fun r => (r.1, r.2.chunks)

theorem readPieces_some {size : Nat} {pieces : List Bytes} (h : size ≤ pieces.flatten.length) :
    ∃ rest, readPieces size pieces = some (pieces.flatten.take size, rest) ∧
      rest.flatten = pieces.flatten.drop size := by
  obtain ⟨rest, hread, -, hrest⟩ :=
    @readExact_some size { valid := true, chunks := pieces } rfl h
  exact ⟨rest.chunks, by rw [readPieces, hread]; rfl, hrest⟩

theorem readPieces_none {size : Nat} {pieces : List Bytes} (h : pieces.flatten.length < size) :
    readPieces size pieces = none := by
  rw [readPieces, @readExact_none size { valid := true, chunks := pieces } rfl h]
  rfl

end SecondDisplay.Connection
