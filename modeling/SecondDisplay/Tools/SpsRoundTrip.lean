import SecondDisplay.Library.Consumes
import SecondDisplay.Tools.SpsResolutions

/-!
# Parameter sets read back (`tools/sps_resolutions.py`)

What `BitWriter` writes for a field is what `Bits` consumes for it (`u_consumes`, `ue_consumes`), so
fields are read back at any position (`readFields_bytes`).  In the parameter sets that `baue_sps`
writes no three bytes look like an emulation prevention (`EmulationFree`), and `sps_size` gives the
size back (`spsSize_baueSps`).
-/

namespace SecondDisplay.SpsResolutions

open BitString (toBits ofBits bitsOf)

/-! ### What is read -/

/-- The bits that are still ahead. -/
def Bits.ahead (b : Bits) : List Bool := (bitsOf b.data).drop b.pos

theorem and_one_eq_testBit (value i : Nat) : (value >>> i) &&& 1 = (value.testBit i).toNat := by
  rw [Nat.and_one_is_mod, Nat.shiftRight_eq_div_pow, Nat.toNat_testBit]

theorem shiftLeft_or (v : Nat) (next : Bool) : v <<< 1 ||| next.toNat = 2 * v + next.toNat := by
  have hlt : next.toNat < 2 ^ 1 := Bool.toNat_lt next
  rw [Nat.shiftLeft_eq, Nat.mul_comm, Nat.two_pow_add_eq_or_of_lt hlt, Nat.pow_one]

theorem bit_consumes (next : Bool) : Consumes Bits.ahead bit [next] next.toNat := by
  intro b rest hahead
  have hget : (bitsOf b.data)[b.pos]? = some next := by
    rw [← List.head?_drop]
    exact congrArg List.head? hahead
  rw [BitString.getElem?_bitsOf, Option.map_eq_some_iff] at hget
  obtain ⟨byte, hbyte, hnext⟩ := hget
  refine ⟨{ b with pos := b.pos + 1 }, ?_, ?_⟩
  · rw [bit, Nat.shiftRight_eq_div_pow, hbyte]
    show Except.ok ((byte.toNat >>> (7 - (b.pos &&& 7))) &&& 1, _) = _
    rw [show b.pos &&& 7 = b.pos % 8 from Nat.and_two_pow_sub_one_eq_mod b.pos 3,
      and_one_eq_testBit, hnext]
  · show (bitsOf b.data).drop (b.pos + 1) = rest
    rw [← List.drop_drop]
    exact congrArg (List.drop 1) hahead

theorem uLoop_consumes (bits : List Bool) (v : Nat) :
    Consumes Bits.ahead (uLoop bits.length v) bits
      (bits.foldl (fun value bit => 2 * value + bit.toNat) v) := by
  induction bits generalizing v with
  | nil => exact Consumes.pure v
  | cons next bits ih =>
    refine (bit_consumes next).bind ?_
    show Consumes Bits.ahead (uLoop bits.length (v <<< 1 ||| next.toNat)) bits _
    rw [shiftLeft_or]
    exact ih (2 * v + next.toNat)

/-- **A field of a fixed number of bits** is read back, as far as it fits. -/
theorem u_consumes (n value : Nat) :
    Consumes Bits.ahead (u n) (toBits n value) (value % 2 ^ n) := by
  have h := uLoop_consumes (toBits n value) 0
  rwa [BitString.length_toBits, BitString.foldl_toBits, Nat.zero_mul, Nat.zero_add] at h

theorem flag_consumes (next : Bool) : Consumes Bits.ahead (u 1) [next] next.toNat := by
  have h := u_consumes 1 next.toNat
  cases next
  · exact h
  · exact h

/-- What `BitWriter.ue` writes. -/
def ueBits (value : Nat) : List Bool :=
  toBits (bitLength (value + 1) - 1) 0 ++ toBits (bitLength (value + 1)) (value + 1)

theorem zerosLoop_consumes (k zeros : Nat) (h : zeros + k ≤ 32) :
    Consumes Bits.ahead (zerosLoop zeros) (List.replicate k false ++ [true]) (zeros + k) := by
  induction k generalizing zeros with
  | zero =>
    rw [zerosLoop]
    exact (flag_consumes true).bind (Consumes.pure zeros)
  | succ k ih =>
    rw [zerosLoop, List.replicate_succ, List.cons_append]
    refine (flag_consumes false).bind ?_
    rw [if_pos (show false.toNat = 0 from rfl), if_neg (by omega), Nat.add_comm k,
      ← Nat.add_assoc]
    exact ih (zeros + 1) (by omega)

/-- Zeros, a one, and the bits of the successor behind its highest one. -/
theorem ueBits_eq (value : Nat) :
    ueBits value = List.replicate (value + 1).log2 false ++ [true] ++
      toBits (value + 1).log2 (value + 1) := by
  have hhigh : (value + 1).testBit (value + 1).log2 = true :=
    Nat.testBit_log2 (Nat.succ_ne_zero value)
  rw [ueBits, bitLength, if_neg (Nat.succ_ne_zero value), Nat.add_sub_cancel,
    BitString.toBits_of_zero, BitString.toBits_succ, hhigh, List.append_assoc,
    List.singleton_append]

/-- **A field in Exp-Golomb code** is read back. -/
theorem ue_consumes {value : Nat} (h : value < 2 ^ 32) :
    Consumes Bits.ahead ue (ueBits value) value := by
  have hle : 2 ^ (value + 1).log2 ≤ value + 1 := Nat.log2_self_le (Nat.succ_ne_zero value)
  have hlt : value + 1 < 2 ^ ((value + 1).log2 + 1) := Nat.lt_log2_self
  have hbound : (value + 1).log2 ≤ 32 := by
    by_contra hlarge
    have hpow : 2 ^ 33 ≤ 2 ^ (value + 1).log2 := Nat.pow_le_pow_right (by decide) (by omega)
    omega
  have hvalue : 2 ^ (value + 1).log2 - 1 + (value + 1) % 2 ^ (value + 1).log2 = value := by
    rw [Nat.pow_succ] at hlt
    rw [Nat.mod_eq_sub_mod hle, Nat.mod_eq_of_lt (by omega)]
    omega
  have hzeros := zerosLoop_consumes (value + 1).log2 0 (by omega)
  rw [Nat.zero_add] at hzeros
  have hrest : Consumes Bits.ahead
      (if (value + 1).log2 ≠ 0 then u (value + 1).log2 else pure 0)
      (toBits (value + 1).log2 (value + 1)) ((value + 1) % 2 ^ (value + 1).log2) := by
    by_cases hzero : (value + 1).log2 = 0
    · rw [if_neg (not_not.2 hzero), hzero, Nat.pow_zero, Nat.mod_one]
      exact Consumes.pure 0
    · rw [if_pos hzero]
      exact u_consumes _ _
  have hmap := hrest.map (f := fun rest => (1 <<< (value + 1).log2) - 1 + rest)
  rw [Nat.one_shiftLeft, hvalue] at hmap
  rw [ueBits_eq]
  exact hzeros.bind (by rwa [Nat.one_shiftLeft])

/-! ### Fields in any order -/

/-- A call of a method of `BitWriter`. -/
inductive Field where
  | u (value n : Nat)
  | ue (value : Nat)

/-- The value of a field. -/
def Field.value : Field → Nat
  | .u value _ => value
  | .ue value => value

/-- The value fits in the bits of the field. -/
def Field.Fits : Field → Prop
  | .u value n => value < 2 ^ n
  | .ue _ => True

/-- As much of the value as the field has. -/
def Field.held : Field → Nat
  | .u value n => value % 2 ^ n
  | .ue value => value

theorem Field.held_eq {field : Field} (h : field.Fits) : field.held = field.value := by
  cases field with
  | u value n => exact Nat.mod_eq_of_lt h
  | ue value => rfl

/-- The bits of a field. -/
def Field.bits : Field → List Bool
  | .u value n => toBits n value
  | .ue value => ueBits value

/-- The field is written. -/
def BitWriter.put (w : BitWriter) : Field → BitWriter
  | .u value n => w.u value n
  | .ue value => w.ue value

/-- The field is read. -/
def Field.read : Field → Read Nat
  | .u _ n => SpsResolutions.u n
  | .ue _ => SpsResolutions.ue

/-- The fields are read, one after the other. -/
def readFields : List Field → Read (List Nat)
  | [] => pure []
  | field :: fields => do
    let value ← field.read
    let values ← readFields fields
    pure (value :: values)

@[simp] theorem BitWriter.bits_ue (w : BitWriter) (value : Nat) :
    (w.ue value).bits = w.bits ++ ueBits value := List.append_assoc ..

theorem BitWriter.bits_put (w : BitWriter) (field : Field) :
    (w.put field).bits = w.bits ++ field.bits := by
  cases field with
  | u value n => rfl
  | ue value => exact w.bits_ue value

theorem bits_foldl_put (fields : List Field) (w : BitWriter) :
    (fields.foldl BitWriter.put w).bits = w.bits ++ fields.flatMap Field.bits := by
  induction fields generalizing w with
  | nil => exact (List.append_nil _).symm
  | cons field fields ih =>
    rw [List.foldl_cons, ih, BitWriter.bits_put, List.flatMap_cons, List.append_assoc]

theorem Field.read_consumes {field : Field} (h : field.value < 2 ^ 32) :
    Consumes Bits.ahead field.read field.bits field.held := by
  cases field with
  | u value n => exact u_consumes n value
  | ue value => exact ue_consumes h

theorem readFields_consumes {fields : List Field} (h : ∀ field ∈ fields, field.value < 2 ^ 32) :
    Consumes Bits.ahead (readFields fields) (fields.flatMap Field.bits)
      (fields.map Field.held) := by
  induction fields with
  | nil => exact Consumes.pure []
  | cons field fields ih =>
    obtain ⟨hhead, htail⟩ := List.forall_mem_cons.1 h
    rw [List.flatMap_cons, List.map_cons]
    exact (Field.read_consumes hhead).bind (ih htail).map

/-! ### Bytes -/

/-- Zeros are added up to a multiple of 8. -/
theorem padded_eq (bits : List Bool) :
    (padded bits).length % 8 = 0 ∧ ∃ k < 8, padded bits = bits ++ List.replicate k false := by
  suffices key : ∀ k < 8, (bits.length + k) % 8 = 0 →
      padded bits = bits ++ List.replicate k false by
    have hlength := Nat.mod_lt bits.length (show 0 < 8 by decide)
    have hpadded := key ((8 - bits.length % 8) % 8) (Nat.mod_lt _ (by decide)) (by omega)
    refine ⟨?_, _, Nat.mod_lt _ (by decide), hpadded⟩
    rw [hpadded, List.length_append, List.length_replicate]
    omega
  intro k hk hsum
  induction k generalizing bits with
  | zero => rw [padded, if_neg (by omega), List.replicate_zero, List.append_nil]
  | succ k ih =>
    rw [padded, if_pos (by omega), ih (bits ++ [false]) (by omega), List.append_assoc,
      List.replicate_succ, List.singleton_append]
    rw [List.length_append, List.length_singleton]
    omega

/-- The bits of the bytes are those that were written, and zeros. -/
theorem bitsOf_bytes (w : BitWriter) :
    ∃ k < 8, bitsOf w.bytes = w.bits ++ List.replicate k false := by
  obtain ⟨hlength, k, hk, hpadded⟩ := padded_eq w.bits
  exact ⟨k, hk, by rw [BitWriter.bytes, BitString.bitsOf_ofChunks hlength, hpadded]⟩

/-- **Fields are read back**, at whatever bit they begin. -/
theorem readFields_bytes {fields : List Field} (h : ∀ field ∈ fields, field.value < 2 ^ 32) :
    (readFields fields ⟨(fields.foldl BitWriter.put ⟨[]⟩).bytes, 0⟩).map Prod.fst =
      .ok (fields.map Field.held) := by
  obtain ⟨k, -, hbits⟩ := bitsOf_bytes (fields.foldl BitWriter.put ⟨[]⟩)
  rw [bits_foldl_put, List.nil_append] at hbits
  exact (readFields_consumes h).run_value hbits

/-! ### Emulation prevention -/

/-- Bits that look like an emulation prevention, if a byte begins there. -/
structure Window (bits : List Bool) (q : Nat) : Prop where
  zeros : ∀ i < 22, bits[q + i]? = some false
  first : bits[q + 22]? = some true
  second : bits[q + 23]? = some true

/-- No three bytes look like an emulation prevention. -/
def EmulationFree (bits : List Bool) : Prop := ∀ q, q % 8 = 0 → ¬Window bits q

theorem getElem?_behind {left right : List Bool} (k : Nat) :
    (left ++ right)[left.length + k]? = right[k]? := by
  rw [List.getElem?_append_right (Nat.le_add_right _ _), Nat.add_sub_cancel_left]

theorem window_of_escape (rest : Bytes) : Window (bitsOf (0 :: 0 :: 3 :: rest)) 0 := by
  have hget (i : Nat) (hi : i < 24) :
      (bitsOf (0 :: 0 :: 3 :: rest))[i]? = (bitsOf [0, 0, 3])[i]? := by
    rw [show bitsOf (0 :: 0 :: 3 :: rest) = bitsOf [0, 0, 3] ++ bitsOf rest from rfl]
    exact List.getElem?_append_left hi
  refine ⟨fun i hi => ?_, ?_, ?_⟩
  · rw [Nat.zero_add, hget i (by omega)]
    have hall : ∀ i < 22, (bitsOf [0, 0, 3])[i]? = some false := by decide +kernel
    exact hall i hi
  · exact hget 22 (by decide)
  · exact hget 23 (by decide)

theorem Window.shift {b : UInt8} {data : Bytes} {q : Nat} (h : Window (bitsOf data) q) :
    Window (bitsOf (b :: data)) (8 + q) := by
  have hget (i : Nat) : (bitsOf (b :: data))[8 + q + i]? = (bitsOf data)[q + i]? := by
    rw [Nat.add_assoc]
    exact getElem?_behind (q + i)
  exact ⟨fun i hi => (hget i).trans (h.zeros i hi), (hget 22).trans h.first,
    (hget 23).trans h.second⟩

/-- **Without emulation prevention the bytes stay.** -/
theorem unescape_eq {nal : Bytes} (h : EmulationFree (bitsOf nal)) : unescape nal = nal := by
  induction nal with
  | nil => rw [unescape]
  | cons b rest ih =>
    have hnot : ¬(b = 0 ∧ rest.take 2 = [0, 3]) := by
      intro hescape
      obtain ⟨rfl, htake⟩ := hescape
      refine h 0 rfl ?_
      rw [← List.take_append_drop 2 rest, htake]
      exact window_of_escape _
    rw [unescape, if_neg hnot, ih]
    intro q hq hwindow
    exact h (8 + q) (by omega) hwindow.shift

/-! ### The parameter sets of `baue_sps` -/

/-- The fields from `profile_idc` to `gaps_in_frame_num_value_allowed_flag`. -/
def fixedBits : List Bool :=
  toBits 8 66 ++ (toBits 8 0 ++ (toBits 8 31 ++ (ueBits 0 ++ (ueBits 0 ++ (ueBits 2 ++
    (ueBits 1 ++ toBits 1 0))))))

/-- The fields of the size, then ones, and what follows. -/
def sizedBits (a b ones : Nat) (others : List Bool) : List Bool :=
  fixedBits ++ (ueBits (a - 1) ++ (ueBits (b - 1) ++ (List.replicate ones true ++ others)))

theorem ueBits_pred {a : Nat} (ha : 1 ≤ a) :
    ueBits (a - 1) = List.replicate a.log2 false ++ [true] ++ toBits a.log2 a := by
  rw [ueBits_eq, Nat.sub_add_cancel ha]

theorem length_ueBits_pred {a : Nat} (ha : 1 ≤ a) : (ueBits (a - 1)).length = 2 * a.log2 + 1 := by
  rw [ueBits_pred ha, List.length_append, List.length_append, List.length_replicate,
    List.length_singleton, BitString.length_toBits]
  omega

/-- The bits of a number in Exp-Golomb code. -/
theorem getElem?_ueBits_zero {a i : Nat} (ha : 1 ≤ a) (hi : i < a.log2) (rest : List Bool) :
    (ueBits (a - 1) ++ rest)[i]? = some false := by
  rw [ueBits_pred ha, List.append_assoc, List.append_assoc,
    List.getElem?_append_left (by rwa [List.length_replicate]), List.getElem?_replicate, if_pos hi]

theorem getElem?_ueBits_one {a : Nat} (ha : 1 ≤ a) (rest : List Bool) :
    (ueBits (a - 1) ++ rest)[a.log2]? = some true := by
  have h : (List.replicate a.log2 false ++ ([true] ++ (toBits a.log2 a ++ rest)))[
      (List.replicate a.log2 false).length + 0]? = some true := getElem?_behind 0
  rw [List.length_replicate, Nat.add_zero] at h
  rwa [ueBits_pred ha, List.append_assoc, List.append_assoc]

section

variable {a b ones : Nat} {others : List Bool}

/-- The positions behind the fixed fields. -/
theorem getElem?_sized_width (k : Nat) : (sizedBits a b ones others)[33 + k]? =
    (ueBits (a - 1) ++ (ueBits (b - 1) ++ (List.replicate ones true ++ others)))[k]? :=
  getElem?_behind k

theorem getElem?_sized_height (ha : 1 ≤ a) (k : Nat) :
    (sizedBits a b ones others)[34 + 2 * a.log2 + k]? =
      (ueBits (b - 1) ++ (List.replicate ones true ++ others))[k]? := by
  rw [show 34 + 2 * a.log2 + k = 33 + ((2 * a.log2 + 1) + k) by omega, getElem?_sized_width,
    ← length_ueBits_pred ha]
  exact getElem?_behind k

theorem getElem?_sized_ones (ha : 1 ≤ a) (hb : 1 ≤ b) (k : Nat) :
    (sizedBits a b ones others)[35 + 2 * a.log2 + 2 * b.log2 + k]? =
      (List.replicate ones true ++ others)[k]? := by
  rw [show 35 + 2 * a.log2 + 2 * b.log2 + k = 34 + 2 * a.log2 + ((2 * b.log2 + 1) + k) by omega,
    getElem?_sized_height ha, ← length_ueBits_pred hb]
  exact getElem?_behind k

theorem length_sizedBits (ha : 1 ≤ a) (hb : 1 ≤ b) : (sizedBits a b ones others).length =
    35 + 2 * a.log2 + 2 * b.log2 + ones + others.length := by
  rw [sizedBits]
  simp only [List.length_append, length_ueBits_pred ha, length_ueBits_pred hb,
    List.length_replicate]
  rw [show fixedBits.length = 33 from rfl]
  omega

/-- A one is not among the zeros of a window. -/
theorem Window.apart {bits : List Bool} {q p : Nat} (h : Window bits q)
    (hone : bits[p]? = some true) : p < q ∨ q + 22 ≤ p := by
  by_contra hinside
  obtain ⟨i, rfl⟩ := Nat.exists_eq_add_of_le (show q ≤ p by omega)
  rw [h.zeros i (by omega)] at hone
  cases hone

theorem log2_le {a : Nat} (ha : 1 ≤ a) (ha' : a ≤ 4096) : a.log2 ≤ 12 :=
  Nat.le_of_lt_succ ((Nat.log2_lt (by omega)).2 (Nat.lt_succ_of_le (ha'.trans (by decide))))

/-- **Where a window could be**: at zeros with which the width ends and the height begins. -/
theorem window_end (ha : 1 ≤ a) (hb : 1 ≤ b) (ha' : a ≤ 4096) (hb' : b ≤ 4096) (hones : 1 ≤ ones)
    (hothers : others.length < 24) {q : Nat} (hq : q % 8 = 0)
    (h : Window (sizedBits a b ones others) q) : q + 22 = 34 + 2 * a.log2 + b.log2 := by
  have hi := log2_le ha ha'
  have hj := log2_le hb hb'
  have hfixed (p : Nat) (hp : p < 33) (hone : fixedBits[p]? = some true) : p < q ∨ q + 22 ≤ p := by
    refine h.apart ?_
    rw [sizedBits, List.getElem?_append_left (by exact hp), hone]
  have h6 := hfixed 6 (by decide) (by decide +kernel)
  have h19 := hfixed 19 (by decide) (by decide +kernel)
  have h30 := hfixed 30 (by decide) (by decide +kernel)
  have hwidth := h.apart ((getElem?_sized_width a.log2).trans (getElem?_ueBits_one ha _))
  have hheight := h.apart ((getElem?_sized_height ha b.log2).trans (getElem?_ueBits_one hb _))
  have hone (k : Nat) (hk : k < ones) := h.apart ((getElem?_sized_ones ha hb k).trans (by
    rw [List.getElem?_append_left (by rwa [List.length_replicate]), List.getElem?_replicate,
      if_pos hk]))
  have hend := (List.getElem?_eq_some_iff.1 h.second).1
  rw [length_sizedBits ha hb] at hend
  obtain hbehind | hfront := hheight
  · have hfirst := hone 0 hones
    -- the window would begin among the ones, or end behind the bits
    by_cases hk : q - (35 + 2 * a.log2 + 2 * b.log2) < ones
    · have hself := hone _ hk
      omega
    · omega
  · by_contra hne
    by_cases hinside : 34 + 2 * a.log2 ≤ q + 22
    · -- in front of the height there are zeros
      have hzero : (sizedBits a b ones others)[
          34 + 2 * a.log2 + (q + 22 - (34 + 2 * a.log2))]? = some false :=
        (getElem?_sized_height ha _).trans (getElem?_ueBits_zero hb (by omega) _)
      rw [Nat.add_sub_cancel' hinside, h.first] at hzero
      cases hzero
    · omega

/-- **`baue_sps` needs no emulation prevention.**  A height of more than 12 bits goes on with a
zero, and with fewer bits no byte begins where the window would. -/
theorem emulationFree_sizedBits (ha : 1 ≤ a) (hb : 1 ≤ b) (ha' : a ≤ 4096) (hb' : b ≤ 4096)
    (hones : 1 ≤ ones) (hothers : others.length < 24) :
    EmulationFree (sizedBits a b ones others) := by
  intro q hq h
  have hi := log2_le ha ha'
  have hj := log2_le hb hb'
  have hend := window_end ha hb ha' hb' hones hothers hq h
  have hwidth := h.apart ((getElem?_sized_width a.log2).trans (getElem?_ueBits_one ha _))
  by_cases hlong : b.log2 = 12
  · obtain rfl : b = 4096 := by
      have hle := Nat.log2_self_le (show b ≠ 0 by omega)
      rw [hlong] at hle
      omega
    have hsecond : (sizedBits a 4096 ones others)[34 + 2 * a.log2 + 13]? = some false := by
      rw [getElem?_sized_height ha, List.getElem?_append_left (by decide +kernel)]
      decide +kernel
    rw [hlong] at hend
    rw [show 34 + 2 * a.log2 + 13 = q + 23 by omega, h.second] at hsecond
    cases hsecond
  · omega

end

/-! ### The size -/

theorem highFields_baseline : Consumes Bits.ahead (highFields 66) [] 1 := by
  rw [highFields, if_neg (by decide)]
  exact Consumes.pure 1

theorem pocFields_two : Consumes Bits.ahead (pocFields 2) [] () := by
  rw [pocFields, if_neg (by decide), if_neg (by decide)]
  exact Consumes.pure ()

/-- **`sps_size` reads the fields of `baue_sps`.** -/
theorem spsFields_consumes {a b : Nat} (ha : 1 ≤ a) (hb : 1 ≤ b) (ha' : a ≤ 4096) (hb' : b ≤ 4096)
    {cropBits : List Bool} {crop : Crop} (hcrop : Consumes Bits.ahead cropFields cropBits crop) :
    Consumes Bits.ahead spsFields
      (fixedBits ++ (ueBits (a - 1) ++ (ueBits (b - 1) ++ ([true] ++ ([true] ++ cropBits)))))
      (frameSize 1 a b 1 crop) := by
  have hprofile : Consumes Bits.ahead (u 8) (toBits 8 66) 66 := u_consumes 8 66
  have hgaps : Consumes Bits.ahead (u 1) (toBits 1 0) 0 := u_consumes 1 0
  have hone : Consumes Bits.ahead (u 1) [true] 1 := flag_consumes true
  have hsmall {value : Nat} (hvalue : value < 4096) : Consumes Bits.ahead ue (ueBits value) value :=
    ue_consumes (hvalue.trans (by decide))
  have hframe : Consumes Bits.ahead (if 1 = 0 then u 1 else pure 0) [] 0 := Consumes.pure 0
  rw [spsFields, fixedBits]
  simp only [List.append_assoc]
  refine hprofile.bind ((u_consumes 8 0).bind ((u_consumes 8 31).bind
    ((hsmall (by decide)).bind (highFields_baseline.bind_nil ((hsmall (by decide)).bind
      ((hsmall (by decide)).bind (pocFields_two.bind_nil ((hsmall (by decide)).bind
        (hgaps.bind ((hsmall (by omega)).bind ((hsmall (by omega)).bind (hone.bind
          (hframe.bind_nil (hone.bind ?_))))))))))))))
  have hsize := hcrop.map (f := frameSize 1 (a - 1 + 1) (b - 1 + 1) 1)
  rw [Nat.sub_add_cancel ha, Nat.sub_add_cancel hb] at hsize
  rwa [Nat.sub_add_cancel ha, Nat.sub_add_cancel hb]

/-- The fields of `crop` that `baue_sps` writes. -/
def cropBits (right bottom : Nat) : List Bool :=
  if right ≠ 0 ∨ bottom ≠ 0 then
    [true] ++ (ueBits 0 ++ (ueBits right ++ (ueBits 0 ++ ueBits bottom)))
  else [false]

theorem cropFields_consumes {right bottom : Nat} (hright : right < 8) (hbottom : bottom < 8) :
    Consumes Bits.ahead cropFields (cropBits right bottom) ⟨0, right, 0, bottom⟩ := by
  have hsmall {value : Nat} (hvalue : value < 8) : Consumes Bits.ahead ue (ueBits value) value :=
    ue_consumes (hvalue.trans (by decide))
  rw [cropBits]
  split
  · exact (flag_consumes true).bind ((hsmall (by decide)).bind ((hsmall hright).bind
      ((hsmall (by decide)).bind (hsmall hbottom).map)))
  · rename_i hnone
    rw [not_or, not_not, not_not] at hnone
    rw [hnone.1, hnone.2]
    exact (flag_consumes false).bind (Consumes.pure _)

theorem length_ueBits_small {value : Nat} (h : value < 8) : (ueBits value).length ≤ 7 := by
  have hall : ∀ value < 8, (ueBits value).length ≤ 7 := by decide +kernel
  exact hall value h

/-- Behind the size stand ones, and less than three bytes. -/
theorem ones_cropBits {right bottom : Nat} (hright : right < 8) (hbottom : bottom < 8) :
    ∃ ones others,
      [true] ++ ([true] ++ cropBits right bottom) = List.replicate ones true ++ others ∧
      1 ≤ ones ∧ others.length < 16 := by
  have hlengthRight := length_ueBits_small hright
  have hlengthBottom := length_ueBits_small hbottom
  rw [cropBits]
  split
  · refine ⟨4, ueBits right ++ (ueBits 0 ++ ueBits bottom), rfl, by decide, ?_⟩
    rw [List.length_append, List.length_append, show (ueBits 0).length = 1 from rfl]
    omega
  · exact ⟨2, [false], rfl, by decide, by decide⟩

theorem spsWriter_bits (width height : Nat) : (spsWriter width height).bits =
    toBits 8 0x67 ++ (fixedBits ++ (ueBits (macroblocks width - 1) ++
      (ueBits (macroblocks height - 1) ++ ([true] ++ ([true] ++
        (cropBits (cropOf width) (cropOf height) ++ [false])))))) := by
  rw [spsWriter, cropBits, fixedBits]
  split
  · simp only [BitWriter.u, BitWriter.bits_ue, List.append_assoc, List.nil_append]
    rfl
  · simp only [BitWriter.u, BitWriter.bits_ue, List.append_assoc, List.nil_append]
    rfl

theorem macroblocks_eq (size : Nat) : macroblocks size = (size + 15) / 16 := by
  rw [macroblocks]
  omega

theorem cropOf_lt (size : Nat) : cropOf size < 8 := by
  rw [cropOf, macroblocks_eq]
  omega

theorem frameSize_crop {width height : Nat} (hwidth : width % 2 = 0) (hheight : height % 2 = 0) :
    frameSize 1 (macroblocks width) (macroblocks height) 1 ⟨0, cropOf width, 0, cropOf height⟩ =
      ((width : Int), (height : Int)) := by
  have hsize (size : Nat) (heven : size % 2 = 0) :
      (macroblocks size : Int) * 16 - cropOf size * 2 = size := by
    rw [cropOf, macroblocks_eq]
    omega
  refine Prod.ext ?_ ?_
  · show (macroblocks width : Int) * 16 - ((0 : Nat) + cropOf width) * 2 = width
    rw [Int.natCast_zero, Int.zero_add, hsize width hwidth]
  · show (macroblocks height : Int) * 16 * (2 - (1 : Nat)) -
      ((0 : Nat) + cropOf height) * 2 * (2 - (1 : Nat)) = height
    rw [show (2 - (1 : Nat) : Int) = 1 from rfl, Int.mul_one, Int.mul_one, Int.natCast_zero,
      Int.zero_add, hsize height hheight]

/-- What `sps_size` has to read, and what it leaves. -/
theorem bitsOf_baueSps (width height : Nat) : ∃ rest, rest.length < 9 ∧
    bitsOf ((baueSps width height).drop 1) =
      fixedBits ++ (ueBits (macroblocks width - 1) ++ (ueBits (macroblocks height - 1) ++
        ([true] ++ ([true] ++ cropBits (cropOf width) (cropOf height))))) ++ rest := by
  obtain ⟨k, hk, hbits⟩ := bitsOf_bytes (spsWriter width height)
  refine ⟨[false] ++ List.replicate k false, ?_, ?_⟩
  · rw [List.length_append, List.length_replicate, List.length_singleton]
    omega
  · rw [← BitString.bitsOf_drop, baueSps, hbits, spsWriter_bits, List.append_assoc,
      List.drop_left' (BitString.length_toBits 8 0x67)]
    simp only [List.append_assoc]

/-- **A parameter set is read back.** -/
theorem spsSize_baueSps {width height : Nat} (hwidth : width % 2 = 0) (hheight : height % 2 = 0)
    (hwidth2 : 2 ≤ width) (hheight2 : 2 ≤ height) (hwidth' : width ≤ 65534)
    (hheight' : height ≤ 65534) :
    spsSize (baueSps width height) = .ok ((width : Int), (height : Int)) := by
  have hblocks (size : Nat) (hlow : 2 ≤ size) (hhigh : size ≤ 65534) :
      1 ≤ macroblocks size ∧ macroblocks size ≤ 4096 := by
    rw [macroblocks_eq]
    omega
  obtain ⟨ha, ha'⟩ := hblocks width hwidth2 hwidth'
  obtain ⟨hb, hb'⟩ := hblocks height hheight2 hheight'
  obtain ⟨rest, hrest, hbits⟩ := bitsOf_baueSps width height
  have hfree : EmulationFree (bitsOf ((baueSps width height).drop 1)) := by
    obtain ⟨ones, others, hsplit, hones, hothers⟩ :=
      ones_cropBits (cropOf_lt width) (cropOf_lt height)
    have hsized := emulationFree_sizedBits ha hb ha' hb' hones
      (show (others ++ rest).length < 24 by rw [List.length_append]; omega)
    rw [hbits, hsplit]
    simpa only [sizedBits, List.append_assoc] using hsized
  have hread := spsFields_consumes ha hb ha' hb'
    (cropFields_consumes (cropOf_lt width) (cropOf_lt height))
  rw [frameSize_crop hwidth hheight] at hread
  rw [spsSize, unescape_eq hfree]
  exact hread.run_value hbits

/-! ### What the checker rests on -/

/-- **The checker reads back what it writes**: the size of a parameter set, and any fields in their
order, each as far as it fits in its bits. -/
theorem sps_read_back :
    (∀ width height : Nat, width % 2 = 0 → height % 2 = 0 → 2 ≤ width → 2 ≤ height →
      width ≤ 65534 → height ≤ 65534 →
        spsSize (baueSps width height) = .ok ((width : Int), (height : Int))) ∧
    (∀ fields : List Field, (∀ field ∈ fields, field.value < 2 ^ 32) →
      (readFields fields ⟨(fields.foldl BitWriter.put ⟨[]⟩).bytes, 0⟩).map Prod.fst =
        .ok (fields.map Field.held)) ∧
    ∀ fields : List Field, (∀ field ∈ fields, field.value < 2 ^ 32 ∧ field.Fits) →
      (readFields fields ⟨(fields.foldl BitWriter.put ⟨[]⟩).bytes, 0⟩).map Prod.fst =
        .ok (fields.map Field.value) := by
  refine ⟨fun width height hwidth hheight hwidth2 hheight2 hwidth' hheight' =>
    spsSize_baueSps hwidth hheight hwidth2 hheight2 hwidth' hheight',
    fun fields h => readFields_bytes h, fun fields h => ?_⟩
  rw [readFields_bytes fun field hmem => (h field hmem).1]
  exact congrArg Except.ok (List.map_congr_left fun field hmem => Field.held_eq (h field hmem).2)

/-- The size of the test of the tool that is not a multiple of 16. -/
theorem sps_read_back_cropped : spsSize (baueSps 2732 2048) = .ok (2732, 2048) ∧
    (readFields [.ue 4294967295, .u 5 3, .ue 0]
      ⟨([.ue 4294967295, .u 5 3, .ue 0].foldl BitWriter.put ⟨[]⟩).bytes, 0⟩).map Prod.fst =
        .ok [4294967295, 5, 0] :=
  ⟨sps_read_back.1 2732 2048 (by decide) (by decide) (by decide) (by decide) (by decide)
    (by decide),
    sps_read_back.2.1 [.ue 4294967295, .u 5 3, .ue 0] (by decide)⟩

end SecondDisplay.SpsResolutions
