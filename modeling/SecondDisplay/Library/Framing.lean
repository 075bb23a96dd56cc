import SecondDisplay.Library.Bytes

/-!
# Framing a byte stream

A framing lays payloads out one after the other in a byte stream and takes them off its front
again.  Its two laws say that a frame is recognised whatever follows it, and that nothing but a
frame is recognised; the round trip of whole streams, `decodeUpTo_encodeAll`, and its converse,
`encodeAll_decodeUpTo`, follow from them by induction on the payloads.
-/

namespace SecondDisplay

/-- A framing of payloads of type `π`, with its two laws. -/
structure Framing (π : Type) where
  /-- The frame of a payload. -/
  encode : π → Bytes
  /-- Take one frame off the front of a stream. -/
  decode : Bytes → Option (π × Bytes)
  decode_encode : ∀ p rest, decode (encode p ++ rest) = some (p, rest)
  encode_decode : ∀ {stream p rest}, decode stream = some (p, rest) → stream = encode p ++ rest

namespace Framing

variable {π : Type} (F : Framing π)

/-- The stream of a list of payloads. -/
def encodeAll (payloads : List π) : Bytes := (payloads.map F.encode).flatten

/-- Take off up to `n` frames, stopping where none can be read; also the stream left over. -/
def decodeUpTo : Nat → Bytes → List π × Bytes
  | 0, stream => ([], stream)
  | n + 1, stream =>
    match F.decode stream with
    | none => ([], stream)
    | some (p, rest) => (p :: (decodeUpTo n rest).1, (decodeUpTo n rest).2)

@[simp] theorem encodeAll_nil : F.encodeAll [] = [] := rfl

@[simp] theorem encodeAll_cons (p : π) (payloads : List π) :
    F.encodeAll (p :: payloads) = F.encode p ++ F.encodeAll payloads := rfl

/-- Where no frame can be read, none is. -/
theorem decodeUpTo_stuck {stream : Bytes} (h : F.decode stream = none) (n : Nat) :
    F.decodeUpTo n stream = ([], stream) := by
  cases n with
  | zero => rfl
  | succ n => rw [decodeUpTo, h]

/-- **Round trip of a stream.**  Reading back the stream of some payloads, followed by bytes at
which no frame can be read, gives the payloads in order, however often one reads. -/
theorem decodeUpTo_encodeAll (payloads : List π) {tail : Bytes} (h : F.decode tail = none)
    (n : Nat) : (F.decodeUpTo n (F.encodeAll payloads ++ tail)).1 = payloads.take n := by
  induction n generalizing payloads with
  | zero => rfl
  | succ n ih =>
    cases payloads with
    | nil => rw [encodeAll_nil, List.nil_append, F.decodeUpTo_stuck h, List.take_nil]
    | cons p payloads =>
      rw [encodeAll_cons, List.append_assoc, decodeUpTo, F.decode_encode, List.take_succ_cons]
      show p :: (F.decodeUpTo n (F.encodeAll payloads ++ tail)).1 = _
      rw [ih]

/-- **Nothing is invented.**  The frames read and the bytes left over make up the stream. -/
theorem encodeAll_decodeUpTo (n : Nat) (stream : Bytes) :
    F.encodeAll (F.decodeUpTo n stream).1 ++ (F.decodeUpTo n stream).2 = stream := by
  induction n generalizing stream with
  | zero => rfl
  | succ n ih =>
    cases h : F.decode stream with
    | none => rw [F.decodeUpTo_stuck h]; rfl
    | some frame =>
      obtain ⟨p, rest⟩ := frame
      rw [decodeUpTo, h]
      show F.encodeAll (p :: (F.decodeUpTo n rest).1) ++ (F.decodeUpTo n rest).2 = stream
      rw [encodeAll_cons, List.append_assoc, ih, ← F.encode_decode h]

/-- A frame that breaks off is not read. -/
theorem decode_broken {p : π} {start left : Bytes} (h : start ++ left = F.encode p)
    (hleft : left ≠ []) : F.decode start = none := by
  cases hread : F.decode start with
  | none => rfl
  | some frame =>
    obtain ⟨q, rest⟩ := frame
    have hwhole : F.encode q ++ (rest ++ left) = F.encode p ++ [] := by
      rw [← List.append_assoc, ← F.encode_decode hread, h, List.append_nil]
    have hsame := F.decode_encode q (rest ++ left)
    rw [hwhole, F.decode_encode] at hsame
    have hnil : rest ++ left = [] := (congrArg Prod.snd (Option.some.inj hsame)).symm
    exact absurd (List.append_eq_nil_iff.1 hnil).2 hleft

/-- **A stream that is cut off.**  What is read of a beginning of the stream of some payloads,
followed by bytes at no beginning of which a frame can be read, are the first of the payloads. -/
theorem decodeUpTo_start {payloads : List π} {tail stream : Bytes}
    (htail : ∀ start, start <+: tail → F.decode start = none)
    (hstream : stream <+: F.encodeAll payloads ++ tail) (n : Nat) :
    (F.decodeUpTo n stream).1 <+: payloads := by
  induction payloads generalizing stream n with
  | nil =>
    have hstuck := F.decodeUpTo_stuck (htail stream hstream) n
    simp [hstuck]
  | cons p payloads ih =>
    rw [encodeAll_cons, List.append_assoc] at hstream
    obtain ⟨left, hleft⟩ := hstream
    obtain ⟨broken, hwhole, -⟩ | ⟨rest, rfl, hrest⟩ := List.append_eq_append_iff.1 hleft
    · -- The stream ends within the first frame, or with it.
      by_cases hnil : broken = []
      · subst hnil
        rw [List.append_nil] at hwhole
        cases n with
        | zero => exact List.nil_prefix
        | succ n =>
          have hread := F.decode_encode p []
          rw [List.append_nil, hwhole] at hread
          rw [decodeUpTo, hread]
          have hempty := @ih [] List.nil_prefix n
          exact (List.prefix_cons_inj p).2 hempty
      · rw [F.decodeUpTo_stuck (F.decode_broken hwhole.symm hnil)]
        exact List.nil_prefix
    · cases n with
      | zero => exact List.nil_prefix
      | succ n =>
        rw [decodeUpTo, F.decode_encode]
        exact (List.prefix_cons_inj p).2 (ih ⟨left, hrest.symm⟩ n)

end Framing

end SecondDisplay
