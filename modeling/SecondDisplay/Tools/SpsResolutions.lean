import SecondDisplay.Library.BitString

/-!
# The resolutions of parameter sets (`tools/sps_resolutions.py`)

The tool reads the size of the picture out of a sequence parameter set.  `Bits` reads fields of a
fixed number of bits and fields in Exp-Golomb code, behind bytes from which the emulation prevention
is removed.  For its own test the tool writes small parameter sets with `BitWriter`.
-/

namespace SecondDisplay.SpsResolutions

open BitString (toBits ofChunks)

/-! ### Reading -/

/-- `Bits`. -/
structure Bits where
  data : Bytes
  pos : Nat
  deriving DecidableEq

/-- What the tool raises, or the interpreter. -/
inductive Fault where
  | indexError
  | valueError (message : String)
  deriving DecidableEq

/-- A method of `Bits`. -/
abbrev Read := StateT Bits (Except Fault)

/-- A turn of the loop of `Bits.u`. -/
def bit : Read Nat := fun b =>
  match b.data[b.pos >>> 3]? with
  | none => .error .indexError
  | some byte => .ok ((byte.toNat >>> (7 - (b.pos &&& 7))) &&& 1, { b with pos := b.pos + 1 })

/-- The loop of `Bits.u`. -/
def uLoop : Nat → Nat → Read Nat
  | 0, v => pure v
  | n + 1, v => do
    let next ← bit
    uLoop n (v <<< 1 ||| next)

/-- `Bits.u`. -/
def u (n : Nat) : Read Nat := uLoop n 0

/-- The loop of `Bits.ue`. -/
def zerosLoop (zeros : Nat) : Read Nat := do
  let next ← u 1
  if next = 0 then
    if zeros + 1 > 32 then throw (.valueError "kaputter Exp-Golomb-Code")
    else zerosLoop (zeros + 1)
  else pure zeros
termination_by 32 - zeros

/-- `Bits.ue`. -/
def ue : Read Nat := do
  let zeros ← zerosLoop 0
  let rest ← (if zeros ≠ 0 then u zeros else pure 0)
  pure ((1 <<< zeros) - 1 + rest)

/-- `Bits.se`. -/
def se : Read Int := do
  let k ← ue
  pure (if k % 2 ≠ 0 then ((k + 1) / 2 : Nat) else -((k / 2 : Nat) : Int))

/-- `unescape`. -/
def unescape : Bytes → Bytes
  | [] => []
  | b :: rest =>
    if b = 0 ∧ rest.take 2 = [0, 3] then 0 :: 0 :: unescape (rest.drop 2) else b :: unescape rest
termination_by nal => nal.length

/-! ### The size of the picture -/

/-- The profiles with a format of the colours. -/
def highProfiles : List Nat := [100, 110, 122, 244, 44, 83, 86, 118, 128, 138, 139, 134, 135]

/-- The values of a scaling list. -/
def scalingList : Nat → Int → Int → Read Unit
  | 0, _, _ => pure ()
  | n + 1, last, next => do
    let next ← (if next ≠ 0 then do
        let delta ← se
        pure ((last + delta + 256) % 256)
      else pure next)
    scalingList n (if next ≠ 0 then next else last) next

/-- The scaling lists from a number on. -/
def scalingLists (bound : Nat) (i : Nat) : Read Unit :=
  if i < bound then do
    let present ← u 1
    let _ ← (if present ≠ 0 then scalingList (if i < 6 then 16 else 64) 8 8 else pure ())
    scalingLists bound (i + 1)
  else pure ()
termination_by bound - i

/-- The fields of the high profiles; gives `chroma`. -/
def highFields (profile : Nat) : Read Nat :=
  if profile ∈ highProfiles then do
    let chroma ← ue
    let _ ← (if chroma = 3 then u 1 else pure 0)
    let _ ← ue
    let _ ← ue
    let _ ← u 1
    let present ← u 1
    let _ ← (if present ≠ 0 then scalingLists (if chroma ≠ 3 then 8 else 12) 0 else pure ())
    pure chroma
  else pure 1

/-- As many signed fields. -/
def skipSigned : Nat → Read Unit
  | 0 => pure ()
  | n + 1 => do
    let _ ← se
    skipSigned n

/-- The fields of `poc_type`. -/
def pocFields (pocType : Nat) : Read Unit :=
  if pocType = 0 then do
    let _ ← ue
  else if pocType = 1 then do
    let _ ← u 1
    let _ ← se
    let _ ← se
    let count ← ue
    skipSigned count
  else pure ()

/-- `crop`. -/
structure Crop where
  left : Nat
  right : Nat
  top : Nat
  bottom : Nat

/-- The fields of `crop`. -/
def cropFields : Read Crop := do
  let flag ← u 1
  if flag ≠ 0 then
    let left ← ue
    let right ← ue
    let top ← ue
    let bottom ← ue
    pure ⟨left, right, top, bottom⟩
  else pure ⟨0, 0, 0, 0⟩

/-- `sub_w` and `sub_h`. -/
def subSampling (chroma : Nat) : Int × Int :=
  if chroma = 0 then (1, 1)
  else if chroma = 1 then (2, 2)
  else if chroma = 2 then (2, 1)
  else (1, 1)

/-- The width and the height. -/
def frameSize (chroma widthMbs heightMap frameMbsOnly : Nat) (crop : Crop) : Int × Int :=
  let width : Int := widthMbs * 16
  let height : Int := heightMap * 16 * (2 - frameMbsOnly)
  let (subW, subH) := subSampling chroma
  (width - (crop.left + crop.right) * subW,
    height - (crop.top + crop.bottom) * subH * (2 - frameMbsOnly))

/-- The body of `sps_size`. -/
def spsFields : Read (Int × Int) := do
  let profile ← u 8
  let _ ← u 8
  let _ ← u 8
  let _ ← ue
  let chroma ← highFields profile
  let _ ← ue
  let pocType ← ue
  pocFields pocType
  let _ ← ue
  let _ ← u 1
  let widthMbs ← ue
  let heightMap ← ue
  let frameMbsOnly ← u 1
  let _ ← (if frameMbsOnly = 0 then u 1 else pure 0)
  let _ ← u 1
  let crop ← cropFields
  pure (frameSize chroma (widthMbs + 1) (heightMap + 1) frameMbsOnly crop)

/-- `sps_size`. -/
def spsSize (nal : Bytes) : Except Fault (Int × Int) :=
  (spsFields ⟨unescape (nal.drop 1), 0⟩).map Prod.fst

/-! ### Writing -/

/-- `BitWriter`. -/
structure BitWriter where
  bits : List Bool

/-- `int.bit_length`. -/
def bitLength (value : Nat) : Nat := if value = 0 then 0 else value.log2 + 1

/-- `BitWriter.u`. -/
def BitWriter.u (w : BitWriter) (value n : Nat) : BitWriter := ⟨w.bits ++ toBits n value⟩

/-- `BitWriter.ue`. -/
def BitWriter.ue (w : BitWriter) (value : Nat) : BitWriter :=
  let n := bitLength (value + 1)
  (w.u 0 (n - 1)).u (value + 1) n

/-- The loop of `BitWriter.bytes`. -/
def padded (bits : List Bool) : List Bool :=
  if bits.length % 8 ≠ 0 then padded (bits ++ [false]) else bits
termination_by (8 - bits.length % 8) % 8
decreasing_by
  rw [List.length_append, List.length_singleton]
  omega

/-- `BitWriter.bytes`. -/
def BitWriter.bytes (w : BitWriter) : Bytes := ofChunks (padded w.bits)

/-- `mbs_w` and `mbs_h`. -/
def macroblocks (size : Nat) : Nat := (-(-(size : Int) / 16)).toNat

/-- `crop_r` and `crop_b`. -/
def cropOf (size : Nat) : Nat := (macroblocks size * 16 - size) / 2

/-- The fields that `baue_sps` writes.  The sizes are at least 1. -/
def spsWriter (width height : Nat) : BitWriter :=
  let w := (BitWriter.mk []).u 0x67 8 |>.u 66 8 |>.u 0 8 |>.u 31 8
    |>.ue 0 |>.ue 0 |>.ue 2 |>.ue 1 |>.u 0 1
    |>.ue (macroblocks width - 1) |>.ue (macroblocks height - 1) |>.u 1 1 |>.u 1 1
  let w := if cropOf width ≠ 0 ∨ cropOf height ≠ 0 then
      w.u 1 1 |>.ue 0 |>.ue (cropOf width) |>.ue 0 |>.ue (cropOf height)
    else w.u 0 1
  w.u 0 1

/-- `baue_sps`. -/
def baueSps (width height : Nat) : Bytes := (spsWriter width height).bytes

end SecondDisplay.SpsResolutions
