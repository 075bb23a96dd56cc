import Mathlib.Data.List.Basic

/-!
# Byte strings

`std::string`, `std::string_view` and `std::vector<uint8_t>` are all lists of bytes here.
`ascii` writes an ASCII literal as bytes; the character classes are those of the C locale.
-/

namespace SecondDisplay

/-- A byte string. -/
abbrev Bytes := List UInt8

/-- The bytes of an ASCII string literal. -/
def ascii (s : String) : Bytes := s.toList.map Char.toUInt8

/-- `std::isspace` in the C locale. -/
def isSpace (b : UInt8) : Bool := b == 0x20 || (0x09 ≤ b && b ≤ 0x0D)

/-- `std::isdigit`. -/
def isDigit (b : UInt8) : Bool := 0x30 ≤ b && b ≤ 0x39

/-- `std::tolower` in the C locale. -/
def toLower (b : UInt8) : UInt8 := if 0x41 ≤ b ∧ b ≤ 0x5A then b + 0x20 else b

theorem isSpace_iff {b : UInt8} :
    isSpace b = true ↔ b.toNat = 0x20 ∨ 0x09 ≤ b.toNat ∧ b.toNat ≤ 0x0D := by
  simp [isSpace, ← UInt8.toNat_inj, UInt8.le_iff_toNat_le]

theorem isDigit_iff {b : UInt8} : isDigit b = true ↔ 0x30 ≤ b.toNat ∧ b.toNat ≤ 0x39 := by
  simp [isDigit, UInt8.le_iff_toNat_le]

/-- A byte that is in a class differs from one that is not. -/
theorem ne_of_class {p : UInt8 → Bool} {b c : UInt8} (hb : p b = true) (hc : p c = false) :
    b ≠ c := by
  intro h
  rw [h, hc] at hb
  cases hb

theorem isSpace_of_isDigit {b : UInt8} (h : isDigit b = true) : isSpace b = false := by
  rw [Bool.eq_false_iff, ne_eq, isSpace_iff]
  rw [isDigit_iff] at h
  omega

instance lawfulBEqBytes : LawfulBEq Bytes := inferInstance

/-- A decidable property of all bytes can be checked byte by byte. -/
instance (priority := low) decidableForallByte {p : UInt8 → Prop} [DecidablePred p] :
    Decidable (∀ b, p b) :=
  decidable_of_iff (∀ n : Fin 256, p (UInt8.ofFin n))
    ⟨fun h b => by simpa using h b.toFin, fun h n => h (UInt8.ofFin n)⟩

end SecondDisplay
