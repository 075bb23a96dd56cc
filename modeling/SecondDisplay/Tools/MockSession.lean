import SecondDisplay.Encode.H264Encoder
import SecondDisplay.Net.SendLock
import SecondDisplay.Net.SenderPing

/-!
# The session of the mock receiver (`main` in `tools/mock_receiver.py`)

The receiver takes frame after frame off its socket and sorts them into control messages and video,
by their first byte and their size.  Here it stands at the other end of a connection whose senders
run in any order (`SendLock`).  However the bytes are cut and wherever they break off, it gets the
payloads of the successful calls in the order in which these took the lock, and takes the sender's
messages for control messages and its access units for video (`mainLoop_apart`).
-/

namespace SecondDisplay.MockReceiver

open SecondDisplay.Connection SecondDisplay.SendLock SecondDisplay.Transitions
open SecondDisplay.AnnexB SecondDisplay.Protocol SecondDisplay.Pong SecondDisplay.SenderPing

/-! ### Reading -/

/-- `recv_exact`, `none` where it raises. -/
def recvExact (n : Nat) (pieces : List Bytes) : Option (Bytes × List Bytes) := readPieces n pieces

/-- `read_frame`. -/
def readFrame (pieces : List Bytes) : Option (Bytes × List Bytes) :=
  match recvExact 4 pieces with
  | some ([b0, b1, b2, b3], rest) => recvExact (frameLength b0 b1 b2 b3).toNat rest
  | _ => none

/-- `is_control`. -/
def isControl (payload : Bytes) : Bool :=
  decide (payload.length < 32768) && decide (payload.take 1 = [0x7B]) && !payload.contains 0

/-- What `main` has seen: the payloads that it took for control messages, and those that it took for
video and would write to the dump. -/
structure Session where
  control : List Bytes := []
  video : List Bytes := []
  deriving DecidableEq, Repr

/-- One turn of the loop of `main`. -/
def Session.receive (session : Session) (payload : Bytes) : Session :=
  if isControl payload then { session with control := session.control ++ [payload] }
  else { session with video := session.video ++ [payload] }

/-- Up to `n` turns of the loop of `main`, which ends where `read_frame` raises. -/
def mainLoop : Nat → List Bytes → Session → Session
  | 0, _, session => session
  | n + 1, pieces, session =>
    match readFrame pieces with
    | none => session
    | some (payload, rest) => mainLoop n rest (session.receive payload)

/-! ### The frames of a stream -/

/-- Take one frame off a stream, of any length. -/
def takePayload : Bytes → Option (Payload × Bytes)
  | b0 :: b1 :: b2 :: b3 :: rest =>
    if (frameLength b0 b1 b2 b3).toNat ≤ rest.length then
      some (⟨rest.take (frameLength b0 b1 b2 b3).toNat,
        Nat.lt_of_le_of_lt (List.length_take_le _ _) (frameLength b0 b1 b2 b3).toNat_lt⟩,
        rest.drop (frameLength b0 b1 b2 b3).toNat)
    else none
  | _ => none

theorem takePayload_of_fits {b0 b1 b2 b3 : UInt8} {p : Payload} {rest : Bytes}
    (hlen : (frameLength b0 b1 b2 b3).toNat = p.bytes.length) :
    takePayload (b0 :: b1 :: b2 :: b3 :: (p.bytes ++ rest)) = some (p, rest) := by
  have hfits : (frameLength b0 b1 b2 b3).toNat ≤ (p.bytes ++ rest).length := by
    rw [hlen, List.length_append]
    exact Nat.le_add_right _ _
  rw [takePayload, if_pos hfits]
  simp only [hlen, List.take_left, List.drop_left]

theorem takePayload_frame (p : Payload) (rest : Bytes) :
    takePayload (frame p ++ rest) = some (p, rest) := by
  have hbody : frame p ++ rest = lenBytes p.size ++ (p.bytes ++ rest) := List.append_assoc ..
  rw [hbody]
  apply takePayload_of_fits
  rw [frameLength_lenBytes]
  exact p.size_toNat

theorem frame_takePayload {stream rest : Bytes} {p : Payload}
    (h : takePayload stream = some (p, rest)) : stream = frame p ++ rest := by
  match stream with
  | [] | [_] | [_, _] | [_, _, _] => simp [takePayload] at h
  | b0 :: b1 :: b2 :: b3 :: tail =>
    rw [takePayload] at h
    split at h
    · rename_i hfits
      obtain ⟨rfl, rfl⟩ := Prod.mk.inj (Option.some.inj h)
      have hsize : frameLength b0 b1 b2 b3 = Payload.size
          ⟨tail.take (frameLength b0 b1 b2 b3).toNat,
            Nat.lt_of_le_of_lt (List.length_take_le _ _) (frameLength b0 b1 b2 b3).toNat_lt⟩ := by
        apply UInt32.toNat_inj.1
        rw [Payload.size_toNat]
        exact (List.length_take_of_le hfits).symm
      rw [frame, ← hsize, lenBytes_frameLength, List.append_assoc]
      show _ = [b0, b1, b2, b3] ++ (tail.take _ ++ tail.drop _)
      rw [List.take_append_drop]
      rfl
    · cases h

/-- **The frames, of any length,** are a framing of the stream. -/
def frameFraming : Framing Payload where
  encode := frame
  decode := takePayload
  decode_encode := takePayload_frame
  encode_decode := frame_takePayload

/-- `read_frame` takes a frame off the stream, in whatever pieces that arrives. -/
theorem readFrame_some {pieces : List Bytes} {p : Payload} {left : Bytes}
    (h : takePayload pieces.flatten = some (p, left)) :
    ∃ rest, readFrame pieces = some (p.bytes, rest) ∧ rest.flatten = left := by
  have hstream : pieces.flatten = lenBytes p.size ++ (p.bytes ++ left) :=
    (frame_takePayload h).trans (List.append_assoc ..)
  have hsize := frameLength_lenBytes p.size
  obtain ⟨body, hheader, hbody⟩ := @readPieces_some 4 pieces (by
    rw [hstream, List.length_append, lenBytes_length]
    omega)
  rw [hstream, List.take_left' (lenBytes_length _)] at hheader
  rw [hstream, List.drop_left' (lenBytes_length _)] at hbody
  obtain ⟨rest, hpayload, hrest⟩ := @readPieces_some p.bytes.length body (by
    rw [hbody, List.length_append]
    omega)
  rw [hbody, List.take_left] at hpayload
  rw [hbody, List.drop_left] at hrest
  refine ⟨rest, ?_, hrest⟩
  rw [readFrame, recvExact, hheader]
  show recvExact (frameLength _ _ _ _).toNat body = _
  rw [hsize, Payload.size_toNat, recvExact, hpayload]

theorem readFrame_none {pieces : List Bytes} (h : takePayload pieces.flatten = none) :
    readFrame pieces = none := by
  rw [readFrame, recvExact]
  by_cases hshort : pieces.flatten.length < 4
  · rw [readPieces_none hshort]
  · obtain ⟨rest, hread, hrest⟩ := readPieces_some (Nat.le_of_not_lt hshort)
    rw [hread]
    match hstream : pieces.flatten with
    | [] | [_] | [_, _] | [_, _, _] => rw [hstream] at hshort; simp at hshort
    | b0 :: b1 :: b2 :: b3 :: tail =>
      rw [hstream] at h hrest
      have htail : rest.flatten = tail := hrest
      show recvExact (frameLength b0 b1 b2 b3).toNat rest = none
      rw [takePayload] at h
      split at h
      · cases h
      · rename_i hlong
        rw [recvExact, readPieces_none]
        rw [htail]
        exact Nat.lt_of_not_le hlong

/-- **The session depends on the stream only.** -/
theorem mainLoop_eq (n : Nat) (pieces : List Bytes) (session : Session) :
    mainLoop n pieces session =
      ((frameFraming.decodeUpTo n pieces.flatten).1.map Payload.bytes).foldl Session.receive
        session := by
  induction n generalizing pieces session with
  | zero => rfl
  | succ n ih =>
    rw [mainLoop]
    cases htake : takePayload pieces.flatten with
    | none =>
      rw [readFrame_none htake, frameFraming.decodeUpTo_stuck htake]
      rfl
    | some taken =>
      obtain ⟨p, left⟩ := taken
      obtain ⟨rest, hread, hrest⟩ := readFrame_some htake
      have hdecode : frameFraming.decode pieces.flatten = some (p, left) := htake
      rw [hread, Framing.decodeUpTo, hdecode]
      dsimp only
      rw [ih, hrest, List.map_cons, List.foldl_cons]

/-! ### What the senders have written -/

/-- Behind the frames of the successful calls the wire holds less than a frame. -/
theorem wire_frames {τ : Type} [DecidableEq τ] {events : List (Event τ)} {s : State τ}
    (h : run step (State.fresh τ) events = some s) :
    ∃ (tail left : Bytes) (p : Payload), s.wire = frameFraming.encodeAll (succeeded s.log) ++ tail ∧
      left ≠ [] ∧ tail ++ left = frame p := by
  obtain ⟨-, settled, residue, sent, inv⟩ := run_inv h
  have hopen : succeeded s.openEntry = [] := by
    cases hunsent : s.unsent with
    | none => rw [openEntry_none hunsent]; rfl
    | some call => rw [openEntry_some hunsent]; rfl
  have hlog : succeeded s.log = succeeded settled := by
    rw [inv.log, succeeded_append, hopen, List.append_nil]
  have hwire : s.wire = frameFraming.encodeAll (succeeded s.log) ++ (residue ++ sent) := by
    rw [hlog, inv.wire, List.append_assoc]
    rfl
  obtain hnone | ⟨hnone, -, p, -, left, hleft, hwhole⟩ := inv.residue
  · cases hunsent : s.unsent with
    | none =>
      refine ⟨residue ++ sent, frame ⟨[], by decide⟩, ⟨[], by decide⟩, hwire, frame_ne_nil _, ?_⟩
      rw [hnone, inv.sent_nil hunsent]
      rfl
    | some call =>
      obtain ⟨hleft, hwhole⟩ := inv.whole call.1 call.2 hunsent
      refine ⟨residue ++ sent, call.2, call.1, hwire, hleft, ?_⟩
      rw [hnone]
      exact hwhole
  · refine ⟨residue ++ sent, left, p, hwire, hleft, ?_⟩
    rw [hnone, List.append_nil]
    exact hwhole

/-- **What is received,** of any beginning of the wire and in any pieces, are the first of the
successful calls, and all of them if the wire is whole and the loop goes on for long enough. -/
theorem mainLoop_received {τ : Type} [DecidableEq τ] {events : List (Event τ)} {s : State τ}
    (h : run step (State.fresh τ) events = some s) {pieces : List Bytes}
    (hpieces : pieces.flatten <+: s.wire) (n : Nat) :
    ∃ received, received <+: succeeded s.log ∧
      (pieces.flatten = s.wire → received = (succeeded s.log).take n) ∧
      mainLoop n pieces {} = (received.map Payload.bytes).foldl Session.receive {} := by
  obtain ⟨tail, left, p, hwire, hleft, hwhole⟩ := wire_frames h
  have hstuck : ∀ start, start <+: tail → frameFraming.decode start = none := by
    intro start hstart
    obtain ⟨more, rfl⟩ := hstart
    rw [List.append_assoc] at hwhole
    refine frameFraming.decode_broken hwhole ?_
    intro hnil
    exact hleft (List.append_eq_nil_iff.1 hnil).2
  refine ⟨(frameFraming.decodeUpTo n pieces.flatten).1, ?_, ?_, mainLoop_eq n pieces {}⟩
  · rw [hwire] at hpieces
    exact frameFraming.decodeUpTo_start hstuck hpieces n
  · intro hall
    rw [hall, hwire]
    exact frameFraming.decodeUpTo_encodeAll _ (hstuck tail List.prefix_rfl) n

/-! ### Control messages and video -/

section
variable {D : Type} (doubles : Doubles D) (chars : DoubleChars D)

/-- What the sender hands to `SendFrame`, and whether it is a control message: the welcome, pings,
pongs of the size that the protocol allows, and the frames of the encoder. -/
inductive Sent : Bytes → Bool → Prop where
  | welcome : Sent serializeWelcome true
  | ping (stats : SenderPingStats D) : Sent (serializeSenderPing doubles chars stats) true
  | pong {echoedT : Bytes} {now : Int} {json : Bytes}
      (answer : serializePong doubles echoedT now = some json) (short : json.length < 32768) :
      Sent json true
  | video {earlier : List (Option Bytes)} {data : Bytes} {frame : EncodedFrame}
      (encoded : (extractFrame (encoderCacheAfter earlier) (some data)).2 = some frame) :
      Sent frame.annexB false

/-- `is_control` is `IsControlPayload`. -/
theorem isControl_eq (payload : Bytes) : isControl payload = isControlPayload payload := by
  cases payload with
  | nil => rfl
  | cons b rest =>
    have hlength : ((b :: rest).length != 0) = true := rfl
    rw [isControl, isControlPayload, hlength, Bool.true_and]
    simp [beq_eq_decide]

theorem head_of_zero {payload : Bytes} (h : payload.head? = some 0) :
    isControl payload = false := by
  cases payload with
  | nil => cases h
  | cons b rest =>
    cases h
    simp [isControl]

/-- An access unit begins with a start code. -/
theorem annexB_head {earlier : List (Option Bytes)} {data : Bytes} {frame : EncodedFrame}
    (h : (extractFrame (encoderCacheAfter earlier) (some data)).2 = some frame) :
    frame.annexB.head? = some 0 := by
  obtain ⟨hnals, hframe⟩ := extractFrame_some h
  have hunits : ∀ nals : List NalUnit, nals ≠ [] → (buildAccessUnit nals).head? = some 0 := by
    intro nals hne
    cases nals with
    | nil => exact absurd rfl hne
    | cons nal rest => rfl
  rw [hframe]
  refine hunits _ ?_
  obtain ⟨-, ⟨hsame, -⟩ | ⟨sps, pps, -, -, -, -, hmore⟩⟩ := ensureParameterSets_cases
    (cacheAfter (earlier.map sampleUnits)) (scanStartCodes data)
  · rw [hsame]
    exact hnals
  · rw [hmore]
    exact List.cons_ne_nil _ _

/-- **The receiver takes everything for what it is.** -/
theorem isControl_sent {payload : Bytes} {control : Bool} (h : Sent doubles chars payload control) :
    isControl payload = control := by
  cases h with
  | welcome => decide +kernel
  | ping stats =>
    rw [isControl_eq]
    exact isControlPayload_ping doubles chars stats
  | pong answer short =>
    obtain ⟨⟨⟨n, rfl⟩, -⟩, hjson⟩ := (serializePong_eq_some_iff doubles _ _ _).1 answer
    rw [← pongText_render] at hjson
    subst hjson
    rw [pongText_length] at short
    rw [isControl_eq, isControlPayload_pongText]
    omega
  | video encoded => exact head_of_zero (annexB_head encoded)

/-- The payloads that are received stay apart. -/
theorem foldl_receive {control : Payload → Bool} {received : List Payload}
    (h : ∀ p ∈ received, isControl p.bytes = control p) (session : Session) :
    (received.map Payload.bytes).foldl Session.receive session =
      ⟨session.control ++ (received.filter control).map Payload.bytes,
        session.video ++ (received.filter fun p => !control p).map Payload.bytes⟩ := by
  induction received generalizing session with
  | nil => simp
  | cons p rest ih =>
    have hfirst := h p List.mem_cons_self
    have hrest := fun session => ih (fun q hq => h q (List.mem_cons_of_mem p hq)) session
    rw [List.map_cons, List.foldl_cons, hrest, Session.receive, hfirst]
    cases hp : control p with
    | true => simp [hp]
    | false => simp [hp]

/-- **Control messages and video stay apart.**  Whatever threads call `SendFrame` in whatever order,
however the bytes on the wire are cut and wherever they break off: if every call that succeeded was
one of the sender's, the receiver gets the payloads of the first of these calls, in the order in
which they took the lock, the messages as control messages and the access units as video, and
nothing else.  Of a whole wire it gets all of them. -/
theorem mainLoop_apart {τ : Type} [DecidableEq τ] {events : List (Event τ)} {s : State τ}
    (h : run step (State.fresh τ) events = some s) {control : Payload → Bool}
    (hsent : ∀ p ∈ succeeded s.log, Sent doubles chars p.bytes (control p))
    {pieces : List Bytes} (hpieces : pieces.flatten <+: s.wire) (n : Nat) :
    ∃ received, received <+: succeeded s.log ∧
      (pieces.flatten = s.wire → received = (succeeded s.log).take n) ∧
      mainLoop n pieces {} =
        ⟨(received.filter control).map Payload.bytes,
          (received.filter fun p => !control p).map Payload.bytes⟩ := by
  obtain ⟨received, hstart, hall, hsession⟩ := mainLoop_received h hpieces n
  refine ⟨received, hstart, hall, ?_⟩
  rw [hsession, foldl_receive fun p hp => isControl_sent doubles chars (hsent p (hstart.mem hp))]
  rfl

/-- The reader thread sends the welcome and the worker its first frame, and the bytes come in two
pieces. -/
theorem mainLoop_apart_two :
    let unit : Bytes := [0, 0, 0, 1, 0x41, 0x9A]
    let welcome : Payload := ⟨serializeWelcome, by decide⟩
    let video : Payload := ⟨unit, by decide⟩
    let events : List (Event Bool) :=
      [.call true welcome 50, .call false video 50, .lock true, .enter 0, .write ⟨1, true, 4⟩,
        .write ⟨2, true, 34⟩, .unlock, .lock false, .enter 3, .write ⟨4, true, 4⟩,
        .write ⟨5, true, 2⟩, .write ⟨6, true, 4⟩, .unlock]
    ∃ s, run step (State.fresh Bool) events = some s ∧
      ∃ received, received <+: succeeded s.log ∧
        ([s.wire.take 20, s.wire.drop 20].flatten = s.wire →
          received = (succeeded s.log).take 9) ∧
        mainLoop 9 [s.wire.take 20, s.wire.drop 20] {} =
          ⟨(received.filter fun p => p.bytes.head? == some 0x7B).map Payload.bytes,
            (received.filter fun p => !(p.bytes.head? == some 0x7B)).map Payload.bytes⟩ := by
  intro unit welcome video events
  let doubles : Doubles Unit := ⟨fun _ => some (), fun _ => true, fun _ => none, (), ()⟩
  let chars : DoubleChars Unit := ⟨fun _ => none, fun _ _ h => (by cases h)⟩
  have hrun : (run step (State.fresh Bool) events).isSome := by decide +kernel
  obtain ⟨s, hs⟩ := Option.isSome_iff_exists.1 hrun
  have hlog : (run step (State.fresh Bool) events).map
      (fun s => (succeeded s.log).map Payload.bytes) = some [serializeWelcome, unit] := by
    decide +kernel
  rw [hs, Option.map_some, Option.some.injEq] at hlog
  have hframe : (extractFrame (encoderCacheAfter []) (some unit)).2 = some ⟨unit, false⟩ := by
    decide +kernel
  refine ⟨s, hs, mainLoop_apart doubles chars hs ?_ ?_ 9⟩
  · intro p hp
    have hbytes := List.mem_map_of_mem hp (f := Payload.bytes)
    rw [hlog, List.mem_cons, List.mem_singleton] at hbytes
    obtain hwelcome | hvideo := hbytes
    · rw [hwelcome]
      exact .welcome
    · rw [hvideo]
      exact .video hframe
  · have hsame := List.take_append_drop 20 s.wire
    simp only [List.flatten_cons, List.flatten_nil, List.append_nil]
    exact ⟨[], (List.append_nil _).trans hsame⟩

end

end SecondDisplay.MockReceiver
