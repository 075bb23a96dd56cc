import SecondDisplay.Library.Bytes
import Mathlib.Data.Nat.Bitwise
import Mathlib.Tactic.Ring

/-!
# Bits of numbers and of bytes

The first bit is the highest one.  A number has its lowest bits as a string of a given length
(`toBits`), and a string of bits is a number (`ofBits`).  A string whose length is a multiple of 8
is cut into bytes, and these have the bits of the string (`bitsOf_ofChunks`).
-/

namespace SecondDisplay.BitString

/-! ### Bits of numbers -/

/-- The lowest bits of a number. -/
def toBits (n value : Nat) : List Bool := (List.range n).map fun i => value.testBit (n - 1 - i)

/-- The number of a string of bits. -/
def ofBits (bits : List Bool) : Nat := bits.foldl (fun value bit => 2 * value + bit.toNat) 0

@[simp] theorem length_toBits (n value : Nat) : (toBits n value).length = n := by
  rw [toBits, List.length_map, List.length_range]

theorem toBits_zero (value : Nat) : toBits 0 value = [] := rfl

theorem toBits_succ (n value : Nat) : toBits (n + 1) value = value.testBit n :: toBits n value := by
  rw [toBits, toBits, List.range_succ_eq_map, List.map_cons, List.map_map]
  congr 1
  refine List.map_congr_left fun i _ => ?_
  show value.testBit (n + 1 - 1 - (i + 1)) = value.testBit (n - 1 - i)
  congr 1
  omega

theorem toBits_of_zero (n : Nat) : toBits n 0 = List.replicate n false := by
  induction n with
  | zero => rfl
  | succ n ih => rw [toBits_succ, ih, Nat.zero_testBit, List.replicate_succ]

theorem mod_two_pow_succ (value n : Nat) :
    value % 2 ^ (n + 1) = (value.testBit n).toNat * 2 ^ n + value % 2 ^ n := by
  rw [Nat.mod_pow_succ, Nat.toNat_testBit, Nat.mul_comm, Nat.add_comm]

/-- Reading bits on behind a number. -/
theorem foldl_toBits (start n value : Nat) :
    (toBits n value).foldl (fun value bit => 2 * value + bit.toNat) start =
      start * 2 ^ n + value % 2 ^ n := by
  induction n generalizing start with
  | zero => rw [toBits_zero, List.foldl_nil, Nat.pow_zero, Nat.mod_one, Nat.mul_one, Nat.add_zero]
  | succ n ih =>
    rw [toBits_succ, List.foldl_cons, ih, mod_two_pow_succ, Nat.pow_succ]
    ring

/-- **A number has its lowest bits.** -/
theorem ofBits_toBits (n value : Nat) : ofBits (toBits n value) = value % 2 ^ n := by
  rw [ofBits, foldl_toBits, Nat.zero_mul, Nat.zero_add]

theorem foldl_eq (bits : List Bool) (start : Nat) :
    bits.foldl (fun value bit => 2 * value + bit.toNat) start =
      2 ^ bits.length * start + ofBits bits := by
  induction bits generalizing start with
  | nil =>
    show start = 2 ^ 0 * start + 0
    rw [Nat.pow_zero, Nat.one_mul, Nat.add_zero]
  | cons bit bits ih =>
    rw [ofBits, List.foldl_cons, List.foldl_cons, ih, ih, List.length_cons, Nat.pow_succ]
    ring

theorem ofBits_cons (bit : Bool) (bits : List Bool) :
    ofBits (bit :: bits) = 2 ^ bits.length * bit.toNat + ofBits bits := by
  rw [ofBits, List.foldl_cons, Nat.mul_zero, Nat.zero_add, foldl_eq]

theorem ofBits_lt (bits : List Bool) : ofBits bits < 2 ^ bits.length := by
  induction bits with
  | nil => exact Nat.one_pos
  | cons bit bits ih =>
    have hbit : 2 ^ bits.length * bit.toNat ≤ 2 ^ bits.length * 1 :=
      Nat.mul_le_mul_left _ (Bool.toNat_le bit)
    rw [ofBits_cons, List.length_cons, Nat.pow_succ]
    omega

/-- Higher bits do not count. -/
theorem toBits_mul_add (n high : Nat) {low : Nat} (h : low < 2 ^ n) :
    toBits n (2 ^ n * high + low) = toBits n low := by
  refine List.map_congr_left fun i hi => ?_
  rw [List.mem_range] at hi
  rw [Nat.testBit_two_pow_mul_add high h, if_pos (by omega)]

/-- **A string of bits is the string of its number.** -/
theorem toBits_ofBits (bits : List Bool) : toBits bits.length (ofBits bits) = bits := by
  induction bits with
  | nil => rfl
  | cons bit bits ih =>
    have hbit : bit.toNat.testBit 0 = bit := by
      cases bit
      · rfl
      · rfl
    rw [List.length_cons, toBits_succ, ofBits_cons, toBits_mul_add _ _ (ofBits_lt bits), ih,
      Nat.testBit_two_pow_mul_add _ (ofBits_lt bits), if_neg (Nat.lt_irrefl _), Nat.sub_self, hbit]

/-! ### Bits of bytes -/

/-- The bits of bytes. -/
def bitsOf (data : Bytes) : List Bool := data.flatMap fun b => toBits 8 b.toNat

theorem bitsOf_cons (b : UInt8) (data : Bytes) :
    bitsOf (b :: data) = toBits 8 b.toNat ++ bitsOf data :=
  List.flatMap_cons

theorem length_bitsOf (data : Bytes) : (bitsOf data).length = 8 * data.length := by
  induction data with
  | nil => rfl
  | cons b data ih =>
    rw [bitsOf_cons, List.length_append, length_toBits, ih, List.length_cons]
    omega

theorem bitsOf_drop (data : Bytes) (n : Nat) :
    (bitsOf data).drop (8 * n) = bitsOf (data.drop n) := by
  induction data generalizing n with
  | nil =>
    rw [List.drop_nil]
    exact List.drop_nil
  | cons b data ih =>
    cases n with
    | zero => rfl
    | succ n =>
      rw [List.drop_succ_cons, ← ih, bitsOf_cons, Nat.mul_succ, Nat.add_comm, ← List.drop_drop]
      congr 1

/-- **The bit at a position** is one of the bits of a byte. -/
theorem getElem?_bitsOf (data : Bytes) (pos : Nat) :
    (bitsOf data)[pos]? = data[pos / 8]?.map fun b => b.toNat.testBit (7 - pos % 8) := by
  have hblock : (bitsOf data)[pos]? = (bitsOf (data.drop (pos / 8)))[pos % 8]? := by
    rw [← bitsOf_drop, List.getElem?_drop, Nat.div_add_mod]
  have hbyte : data[pos / 8]? = (data.drop (pos / 8)).head? := List.head?_drop.symm
  rw [hblock, hbyte]
  have hlt := Nat.mod_lt pos (show 0 < 8 by decide)
  cases data.drop (pos / 8) with
  | nil => rfl
  | cons b rest =>
    rw [bitsOf_cons, List.getElem?_append_left (by rwa [length_toBits]), toBits,
      List.getElem?_map, List.getElem?_range hlt]
    rfl

/-! ### Cutting into bytes -/

/-- The bytes of a string whose length is a multiple of 8. -/
def ofChunks (bits : List Bool) : Bytes :=
  (List.range (bits.length / 8)).map fun i => UInt8.ofNat (ofBits ((bits.drop (8 * i)).take 8))

theorem flatMap_chunks (bits : List Bool) (count : Nat) :
    ((List.range count).flatMap fun i => (bits.drop (8 * i)).take 8) = bits.take (8 * count) := by
  induction count with
  | zero => rfl
  | succ count ih =>
    rw [List.range_succ, List.flatMap_append, ih, List.flatMap_singleton, Nat.mul_succ,
      List.take_add]

/-- **The bytes have the bits of the string.** -/
theorem bitsOf_ofChunks {bits : List Bool} (h : bits.length % 8 = 0) :
    bitsOf (ofChunks bits) = bits := by
  have hchunk : ∀ i ∈ List.range (bits.length / 8),
      toBits 8 (UInt8.ofNat (ofBits ((bits.drop (8 * i)).take 8))).toNat =
        (bits.drop (8 * i)).take 8 := by
    intro i hi
    rw [List.mem_range] at hi
    have hlength : ((bits.drop (8 * i)).take 8).length = 8 := by
      rw [List.length_take, List.length_drop]
      omega
    generalize (bits.drop (8 * i)).take 8 = chunk at hlength
    have hlt := ofBits_lt chunk
    rw [hlength] at hlt
    have hback := toBits_ofBits chunk
    rw [hlength] at hback
    rw [UInt8.toNat_ofNat', Nat.mod_eq_of_lt hlt, hback]
  rw [bitsOf, ofChunks, List.flatMap_map, List.flatMap_congr hchunk, flatMap_chunks,
    Nat.mul_div_cancel' (Nat.dvd_of_mod_eq_zero h), List.take_length]

end SecondDisplay.BitString
