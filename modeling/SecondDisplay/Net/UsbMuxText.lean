import SecondDisplay.Net.UsbMux

/-!
# Serial numbers and numbers in the answers (`net/UsbMux.cpp`)

`EqualsUdid` walks through two serial numbers with one cursor each and skips what is neither a
letter nor a digit; what it compares are the letters and digits without their case
(`equalsUdid_iff_letters`).

`NumberForKey` leaves the reading of a number to `strtoul` and checks the range of the result.  On
the target platform that result always is in range: what is too large is read as the largest number,
and a sign is taken as well (`numberForKey_exact_iff`).
-/

namespace SecondDisplay.UsbMux

open JsonParser (digitsValue)

/-! ### Serial numbers -/

/-- What counts of a serial number. -/
def letters (udid : Bytes) : Bytes := (udid.filter isAlnum).map toLower

/-- What is skipped does not count. -/
theorem letters_dropWhile (udid : Bytes) :
    letters (udid.dropWhile fun b => !isAlnum b) = letters udid := by
  induction udid with
  | nil => rfl
  | cons b udid ih =>
    cases hb : isAlnum b with
    | true => simp [hb]
    | false =>
      rw [List.dropWhile_cons_of_pos (by simp [hb]), ih]
      simp [letters, hb]

/-- Behind what is skipped a letter or digit follows. -/
theorem letters_of_dropWhile {udid rest : Bytes} {b : UInt8}
    (h : udid.dropWhile (fun b => !isAlnum b) = b :: rest) :
    letters udid = toLower b :: letters rest := by
  have hb : isAlnum b = true := by
    have hhead := List.head?_dropWhile_not (fun b => !isAlnum b) udid
    rw [h] at hhead
    simpa using hhead
  rw [← letters_dropWhile, h]
  simp [letters, hb]

theorem letters_of_dropWhile_nil {udid : Bytes}
    (h : udid.dropWhile (fun b => !isAlnum b) = []) : letters udid = [] := by
  rw [← letters_dropWhile, h]
  rfl

/-- **What `EqualsUdid` compares.** -/
theorem equalsUdid_iff (a b : Bytes) : equalsUdid a b = true ↔ letters a = letters b := by
  fun_induction equalsUdid a b with
  | case1 a b ha =>
    rw [letters_of_dropWhile_nil ha]
    cases hb : b.dropWhile fun y => !isAlnum y with
    | nil => simp [letters_of_dropWhile_nil hb]
    | cons y b' => simp [letters_of_dropWhile hb]
  | case2 a b x a' ha hb => simp [letters_of_dropWhile ha, letters_of_dropWhile_nil hb]
  | case3 a b x a' ha y b' hb hne =>
    simp [letters_of_dropWhile ha, letters_of_dropWhile hb, hne]
  | case4 a b x a' ha y b' hb heq ih =>
    have hsame : toLower x = toLower y := not_not.1 heq
    simp [letters_of_dropWhile ha, letters_of_dropWhile hb, hsame, ih]

/-- **`EqualsUdid` ignores formatting only.**  Two serial numbers are equal if and only if their
letters and digits are, up to case; so it is an equivalence. -/
theorem equalsUdid_ignores_formatting :
    (∀ a b : Bytes, equalsUdid a b = true ↔
      (a.filter isAlnum).map toLower = (b.filter isAlnum).map toLower) ∧
    Equivalence fun a b : Bytes => equalsUdid a b = true := by
  refine ⟨equalsUdid_iff, ?_, ?_, ?_⟩
  · intro a
    rw [equalsUdid_iff]
  · intro a b hab
    rw [equalsUdid_iff] at hab ⊢
    exact hab.symm
  · intro a b c hab hbc
    rw [equalsUdid_iff] at hab hbc ⊢
    exact hab.trans hbc

/-! ### Numbers -/

/-- A decimal number. -/
def IsDecimal (text : Bytes) : Prop := text ≠ [] ∧ ∀ b ∈ text, isDigit b = true

/-- A text without its sign. -/
def unsigned (text : Bytes) : Bytes :=
  if text.head? = some 0x2D ∨ text.head? = some 0x2B then text.tail else text

/-- What `strtoul` takes as a whole: a decimal number, maybe behind a sign. -/
def IsNumeral (text : Bytes) : Prop := IsDecimal (unsigned text)

/-- A text up to its first zero byte. -/
def cString (text : Bytes) : Bytes := text.takeWhile fun b => b ≠ 0

/-- What `strtoul` makes of the value of the digits, behind a minus or not. -/
def clipped (minus : Bool) (n : Nat) : Nat :=
  if 2 ^ 32 ≤ n then 2 ^ 32 - 1 else if minus then (2 ^ 32 - n) % 2 ^ 32 else n

theorem clipped_lt (minus : Bool) (n : Nat) : clipped minus n < 2 ^ 32 := by
  rw [clipped]
  split
  · omega
  · split
    · omega
    · omega

/-- The parts of a text that is all digits. -/
theorem isDecimal_iff {text : Bytes} :
    IsDecimal text ↔ text.takeWhile isDigit ≠ [] ∧ text.dropWhile isDigit = [] := by
  rw [IsDecimal, List.dropWhile_eq_nil_iff]
  constructor
  · intro h
    obtain ⟨hne, hall⟩ := h
    exact ⟨by rwa [List.takeWhile_eq_self_iff.2 hall], hall⟩
  · intro h
    obtain ⟨hne, hall⟩ := h
    exact ⟨by rwa [List.takeWhile_eq_self_iff.2 hall] at hne, hall⟩

/-- A decimal number has no sign. -/
theorem IsDecimal.head?_ne {digits : Bytes} (h : IsDecimal digits) {b : UInt8}
    (hb : isDigit b = false) : digits.head? ≠ some b := by
  intro hhead
  exact ne_of_class (h.2 b (List.mem_of_head? hhead)) hb rfl

theorem IsDecimal.unsigned {digits : Bytes} (h : IsDecimal digits) :
    unsigned digits = digits := by
  rw [UsbMux.unsigned, if_neg]
  intro hsign
  obtain hminus | hplus := hsign
  · exact h.head?_ne rfl hminus
  · exact h.head?_ne rfl hplus

theorem IsDecimal.isNumeral {digits : Bytes} (h : IsDecimal digits) : IsNumeral digits := by
  rw [IsNumeral, h.unsigned]
  exact h

/-- A decimal number has no zero byte. -/
theorem IsDecimal.cString {digits : Bytes} (h : IsDecimal digits) : cString digits = digits := by
  refine List.takeWhile_eq_self_iff.2 fun b hmem => ?_
  simpa using ne_of_class (h.2 b hmem) rfl

/-- `strtoul` on a text that does not begin with white space. -/
theorem strtoul_eq {text : Bytes} (hspace : text.dropWhile isSpace = text) :
    strtoul text = if (unsigned text).takeWhile isDigit = [] then (0, text)
      else (clipped (text.head? = some 0x2D) (digitsValue ((unsigned text).takeWhile isDigit)),
        (unsigned text).dropWhile isDigit) := by
  rw [strtoul, hspace, clipped]
  simp only [decide_eq_true_eq]
  rfl

/-- `NumberForKey` takes a text that `strtoul` takes as a whole, and no other. -/
theorem refused_iff {text : Bytes} (hspace : text.dropWhile isSpace = text) :
    ((strtoul text).2 = text ∨ (strtoul text).2 ≠ [] ∨ 2 ^ 32 - 1 < (strtoul text).1) ↔
      ¬IsNumeral text := by
  rw [IsNumeral, isDecimal_iff, strtoul_eq hspace]
  split
  · rename_i hnil
    simp [hnil]
  · rename_i hne
    have hlt := clipped_lt (text.head? = some 0x2D)
      (digitsValue ((unsigned text).takeWhile isDigit))
    have hnot : ¬2 ^ 32 - 1 < clipped (text.head? = some 0x2D)
        (digitsValue ((unsigned text).takeWhile isDigit)) := by omega
    simp only [hnot, or_false, hne, ne_eq, not_false_eq_true, true_and]
    refine or_iff_right_of_imp fun hwhole hrest => ?_
    obtain rfl : text = [] := hwhole.symm.trans hrest
    exact hne rfl

/-- What begins a text without white space at its front has none there either. -/
theorem dropWhile_of_prefix {text whole : Bytes} (hstarts : text <+: whole)
    (hspace : whole.dropWhile isSpace = whole) : text.dropWhile isSpace = text := by
  cases text with
  | nil => rfl
  | cons b rest =>
    obtain ⟨behind, rfl⟩ := hstarts
    refine List.dropWhile_cons_of_neg fun hb => ?_
    have hlength := congrArg List.length hspace
    rw [List.cons_append, List.dropWhile_cons_of_pos hb] at hlength
    have hle := (List.dropWhile_suffix (l := rest ++ behind) isSpace).length_le
    rw [List.length_cons] at hlength
    omega

/-- The value of a key begins with no white space. -/
theorem cString_space {plist key value : Bytes} {start : Nat}
    (h : valueForKey plist key start = some value) :
    (cString value).dropWhile isSpace = cString value := by
  have htrim : ∃ text, value = trimSpace text := by
    rw [valueForKey] at h
    split at h
    · cases h
    · split at h
      · cases h
      · split at h
        · cases h
        · exact ⟨_, (Option.some.inj h).symm⟩
  obtain ⟨text, rfl⟩ := htrim
  refine dropWhile_of_prefix ((List.takeWhile_prefix _).trans (List.rdropWhile_prefix _ _)) ?_
  exact List.dropWhile_idempotent isSpace text

/-- **What `NumberForKey` reads**: a number from every value that is a numeral up to its first zero
byte, and none from any other. -/
theorem numberForKey_eq {plist key value : Bytes} {start : Nat}
    (h : valueForKey plist key start = some value) :
    (IsNumeral (cString value) → numberForKey plist key start =
      some (UInt32.ofNat (strtoul (cString value)).1)) ∧
    (¬IsNumeral (cString value) → numberForKey plist key start = none) := by
  have hrefused := refused_iff (cString_space h)
  have hread : numberForKey plist key start = if value = [] then none
      else if (strtoul (cString value)).2 = cString value ∨ (strtoul (cString value)).2 ≠ [] ∨
        2 ^ 32 - 1 < (strtoul (cString value)).1 then none
      else some (UInt32.ofNat (strtoul (cString value)).1) := by
    rw [numberForKey, h]
    rfl
  rw [hread]
  constructor
  · intro hnumeral
    rw [if_neg, if_neg]
    · exact fun hno => hrefused.1 hno hnumeral
    · intro hnil
      rw [hnil] at hnumeral
      exact hnumeral.1 rfl
  · intro hnot
    rw [if_pos (hrefused.2 hnot), ite_self]

/-- A decimal number below 2^32 is read as it is. -/
theorem strtoul_of_isDecimal {text : Bytes} (hdecimal : IsDecimal text)
    (hlt : digitsValue text < 2 ^ 32) : strtoul text = (digitsValue text, []) := by
  have hspace : text.dropWhile isSpace = text := by
    obtain ⟨b, rest, rfl⟩ := List.exists_cons_of_ne_nil hdecimal.1
    have hb := isSpace_of_isDigit (hdecimal.2 b List.mem_cons_self)
    exact List.dropWhile_cons_of_neg (by simp [hb])
  have hwhole : text.takeWhile isDigit = text := List.takeWhile_eq_self_iff.2 hdecimal.2
  have hminus : text.head? ≠ some 0x2D := hdecimal.head?_ne rfl
  rw [strtoul_eq hspace, hdecimal.unsigned, hwhole, if_neg hdecimal.1,
    List.dropWhile_eq_nil_iff.2 hdecimal.2, clipped, if_neg (Nat.not_le.2 hlt)]
  simp [hminus]

/-- **When `NumberForKey` reads exactly.**  The number is the one that the value denotes, and there
is none if the value denotes no number below 2^32, if and only if no value that is a numeral up to
its first zero byte has a sign, a zero byte, or is too large. -/
theorem numberForKey_exact_iff (plist key : Bytes) (start : Nat) (value : Bytes)
    (h : valueForKey plist key start = some value) :
    (∀ n : UInt32, numberForKey plist key start = some n ↔
      IsDecimal value ∧ digitsValue value = n.toNat) ↔
    (IsNumeral (cString value) → IsDecimal value ∧ digitsValue value < 2 ^ 32) := by
  obtain ⟨hsome, hnone⟩ := numberForKey_eq h
  constructor
  · intro hexact hnumeral
    obtain ⟨hdecimal, hvalue⟩ := (hexact _).1 (hsome hnumeral)
    exact ⟨hdecimal, hvalue ▸ UInt32.toNat_lt _⟩
  · intro hcondition n
    by_cases hnumeral : IsNumeral (cString value)
    · obtain ⟨hdecimal, hlt⟩ := hcondition hnumeral
      rw [hsome hnumeral, hdecimal.cString, strtoul_of_isDecimal hdecimal hlt, Option.some.injEq,
        ← UInt32.toNat_inj, UInt32.toNat_ofNat_of_lt' hlt]
      exact (and_iff_right hdecimal).symm
    · rw [hnone hnumeral]
      refine iff_of_false (fun hno => by cases hno) fun hdenotes => hnumeral ?_
      obtain ⟨hdecimal, -⟩ := hdenotes
      rw [hdecimal.cString]
      exact hdecimal.isNumeral

/-- An answer of the service with one number in it. -/
def resultPlist (text : String) : Bytes :=
  ascii "<key>Number</key>" ++ ascii "<integer>" ++ ascii text ++ ascii "</integer>"

theorem numberForKey_exact_iff_zero :
    numberForKey (resultPlist "0") (ascii "Number") 0 = some 0 ↔
      IsDecimal (ascii "0") ∧ digitsValue (ascii "0") = (0 : UInt32).toNat :=
  (numberForKey_exact_iff (resultPlist "0") (ascii "Number") 0 (ascii "0") (by decide +kernel)).2
    (fun _ => ⟨⟨by decide, by decide +kernel⟩, by decide +kernel⟩) 0

/-- 2^32 is read as 2^32 - 1. -/
theorem numberForKey_fails_overflow : ¬∀ (plist key : Bytes) (start : Nat) (value : Bytes),
    valueForKey plist key start = some value →
      ∀ n : UInt32, numberForKey plist key start = some n ↔
        IsDecimal value ∧ digitsValue value = n.toNat := by
  intro h
  have hread := (h (resultPlist "4294967296") (ascii "Number") 0 (ascii "4294967296")
    (by decide +kernel) 4294967295).1 (by decide +kernel)
  exact absurd hread.2 (by decide +kernel)

example : numberForKey (resultPlist " -1 ") (ascii "Number") 0 = some 4294967295 := by
  decide +kernel

end SecondDisplay.UsbMux
