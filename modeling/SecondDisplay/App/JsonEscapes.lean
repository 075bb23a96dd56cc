import SecondDisplay.App.JsonParse
import SecondDisplay.Library.JsonSpelling

/-!
# The escapes of a string (`AppendUtf8`, `ParseString`)

`ParseString` turns every escape into the UTF-8 bytes of its number.  For a character of the basic
plane these are the bytes of the character, however it is spelled.  A character beyond it can be
spelled by the numbers of its two surrogates, and each of them becomes three bytes of its own: the
string is decoded exactly if no character is spelled so (`parseString_spelled_iff`).
-/

namespace SecondDisplay.JsonText

open SecondDisplay.JsonParser SecondDisplay.Encoding

/-! ### Numbers of escapes -/

theorem hexValue_digitValue : ∀ b, isHexDigit b = true →
    ∃ d, hexValue b = some d ∧ d.toNat = digitValue b ∧ digitValue b < 16 := by
  have hall : ∀ b, isHexDigit b = true → (hexValue b).isSome = true ∧
      ((hexValue b).getD 0).toNat = digitValue b ∧ digitValue b < 16 := by
    decide +kernel
  intro b hb
  obtain ⟨hsome, hvalue, hlt⟩ := hall b hb
  obtain ⟨d, hd⟩ := Option.isSome_iff_exists.1 hsome
  rw [hd] at hvalue
  exact ⟨d, hd, hvalue, hlt⟩

/-- One more digit. -/
theorem toNat_digit {cp d : UInt32} (hcp : cp.toNat < 2 ^ 28) (hd : d.toNat < 16) :
    (cp <<< 4 ||| d).toNat = cp.toNat * 16 + d.toNat := by
  have hshift : (cp <<< 4).toNat = cp.toNat * 16 := by
    rw [UInt32.toNat_shiftLeft]
    simp only [UInt32.reduceToNat, Nat.reduceMod, Nat.shiftLeft_eq, Nat.reducePow]
    omega
  rw [UInt32.toNat_or, hshift, Nat.mul_comm,
    ← Nat.two_pow_add_eq_or_of_lt (show d.toNat < 2 ^ 4 from hd)]

/-- The number of four digits. -/
theorem codepoint_value (u : HexUnit) :
    ∃ cp, codepoint u.h0 u.h1 u.h2 u.h3 = some cp ∧ cp.toNat = u.value ∧ u.value < 2 ^ 16 := by
  have hok := u.ok
  simp only [Bool.and_eq_true] at hok
  obtain ⟨⟨⟨h0, h1⟩, h2⟩, h3⟩ := hok
  obtain ⟨d0, hd0, hv0, hlt0⟩ := hexValue_digitValue u.h0 h0
  obtain ⟨d1, hd1, hv1, hlt1⟩ := hexValue_digitValue u.h1 h1
  obtain ⟨d2, hd2, hv2, hlt2⟩ := hexValue_digitValue u.h2 h2
  obtain ⟨d3, hd3, hv3, hlt3⟩ := hexValue_digitValue u.h3 h3
  have hzero : (0 : UInt32).toNat = 0 := rfl
  have hn0 := toNat_digit (show (0 : UInt32).toNat < 2 ^ 28 by decide) (hv0 ▸ hlt0)
  have hn1 := toNat_digit (by rw [hn0]; omega) (hv1 ▸ hlt1)
  have hn2 := toNat_digit (by rw [hn1, hn0]; omega) (hv2 ▸ hlt2)
  have hn3 := toNat_digit (by rw [hn2, hn1, hn0]; omega) (hv3 ▸ hlt3)
  refine ⟨_, ?_, hn3.trans ?_, ?_⟩
  · rw [codepoint, hd0, hd1, hd2, hd3]
    rfl
  · rw [hn2, hn1, hn0, HexUnit.value]
    omega
  · rw [HexUnit.value]
    omega

/-! ### Bytes of escapes -/

/-- A byte with marked top bits. -/
theorem toUInt8_mark {mark x : UInt32} {i a : Nat} (hmark : mark.toNat = 2 ^ i * a)
    (hx : x.toNat < 2 ^ i) (hbyte : mark.toNat + x.toNat < 256) :
    (mark ||| x).toUInt8 = UInt8.ofNat (mark.toNat + x.toNat) := by
  apply UInt8.toNat_inj.1
  rw [UInt32.toNat_toUInt8, UInt32.toNat_or, UInt8.toNat_ofNat_of_lt' hbyte, hmark,
    ← Nat.two_pow_add_eq_or_of_lt hx]
  rw [hmark] at hbyte
  omega

theorem toNat_shift (cp : UInt32) (k : UInt32) (hk : k.toNat < 32) :
    (cp >>> k).toNat = cp.toNat / 2 ^ k.toNat := by
  rw [UInt32.toNat_shiftRight, Nat.mod_eq_of_lt hk, Nat.shiftRight_eq_div_pow]

theorem toNat_low (x : UInt32) : (x &&& 0x3F).toNat = x.toNat % 64 := by
  rw [UInt32.toNat_and]
  exact Nat.and_two_pow_sub_one_eq_mod x.toNat 6

/-- **`AppendUtf8` writes a character of the basic plane as UTF-8 does.** -/
theorem appendUtf8_eq {cp : UInt32} {c : Char} (hcp : cp.toNat = c.toNat) (hc : c.toNat < 2 ^ 16) :
    appendUtf8 cp = String.utf8EncodeChar c := by
  have hval : c.val.toNat = c.toNat := rfl
  have hhigh := toNat_shift cp 6 (by decide)
  have htop := toNat_shift cp 12 (by decide)
  have hlow := toNat_low cp
  have hmid := toNat_low (cp >>> 6)
  rw [show (6 : UInt32).toNat = 6 from rfl] at hhigh
  rw [show (12 : UInt32).toNat = 12 from rfl] at htop
  have hmark80 : (0x80 : UInt32).toNat = 2 ^ 6 * 2 := rfl
  have hmarkC0 : (0xC0 : UInt32).toNat = 2 ^ 6 * 3 := rfl
  have hmarkE0 : (0xE0 : UInt32).toNat = 2 ^ 5 * 7 := rfl
  rw [appendUtf8, String.utf8EncodeChar]
  simp only [hval, UInt32.le_iff_toNat_le, hcp]
  by_cases hone : c.toNat ≤ 0x7F
  · rw [if_pos (show c.toNat ≤ (0x7F : UInt32).toNat from hone), if_pos hone]
    congr 1
    apply UInt8.toNat_inj.1
    rw [UInt32.toNat_toUInt8, hcp, UInt8.toNat_ofNat']
  · rw [if_neg (show ¬c.toNat ≤ (0x7F : UInt32).toNat from hone), if_neg hone]
    by_cases htwo : c.toNat ≤ 0x7FF
    · rw [if_pos (show c.toNat ≤ (0x7FF : UInt32).toNat from htwo), if_pos htwo,
        toUInt8_mark hmarkC0 (by omega) (by omega), toUInt8_mark hmark80 (by omega) (by omega),
        hmarkC0, hmark80, hhigh, hlow, hcp,
        show 2 ^ 6 * 3 + c.toNat / 2 ^ 6 = c.toNat / 64 % 32 + 192 by omega,
        show 2 ^ 6 * 2 + c.toNat % 64 = c.toNat % 64 + 128 by omega]
    · rw [if_neg (show ¬c.toNat ≤ (0x7FF : UInt32).toNat from htwo), if_neg htwo,
        if_pos (show c.toNat ≤ 0xFFFF by omega),
        toUInt8_mark hmarkE0 (by omega) (by omega), toUInt8_mark hmark80 (by omega) (by omega),
        toUInt8_mark hmark80 (by omega) (by omega), hmarkE0, hmark80, htop, hmid, hhigh, hlow, hcp,
        show 2 ^ 5 * 7 + c.toNat / 2 ^ 12 = c.toNat / 4096 % 16 + 224 by omega,
        show 2 ^ 6 * 2 + c.toNat / 2 ^ 6 % 64 = c.toNat / 64 % 64 + 128 by omega,
        show 2 ^ 6 * 2 + c.toNat % 64 = c.toNat % 64 + 128 by omega]

/-! ### Spellings -/

/-- Whether the character is written by the numbers of two surrogates. -/
def CharSpelling.isPair : CharSpelling → Bool
  | .literal .. => false
  | .short .. => false
  | .unit .. => false
  | .pair .. => true

theorem decode_plain {bytes : Bytes} (h : ∀ b ∈ bytes, isPlain b = true) :
    StringText.decode (bytes.pmap StringItem.plain h) = bytes := by
  induction bytes with
  | nil => rfl
  | cons b bytes ih =>
    show b :: StringText.decode (bytes.pmap StringItem.plain _) = b :: bytes
    rw [ih]

theorem shortEscape_value : ∀ letter : UInt8, isShortEscape letter = true →
    (shortEscape letter).toList = String.utf8EncodeChar (shortValue letter) := by
  intro letter h
  obtain rfl | rfl | rfl | rfl | rfl | rfl | rfl | rfl := isShortEscape_iff.1 h <;> rfl

theorem decode_item (u : HexUnit) : ∃ cp, u.item.decode = appendUtf8 cp ∧
    cp.toNat = u.value ∧ u.value < 2 ^ 16 := by
  obtain ⟨cp, hcp, hvalue⟩ := codepoint_value u
  refine ⟨cp, ?_, hvalue⟩
  rw [HexUnit.item, StringItem.decode, hcp]
  rfl

theorem toNat_ofNat {n : Nat} (h : n.isValidChar) : (Char.ofNat n).toNat = n := by
  rw [Char.ofNat, dif_pos h]
  rfl

/-- A character that is not written by two numbers is decoded to its bytes. -/
theorem decode_items {t : CharSpelling} (h : t.isPair = false) :
    StringText.decode t.items = String.utf8EncodeChar t.value := by
  cases t with
  | literal c ok => exact decode_plain _
  | short letter ok =>
    rw [← List.append_nil (String.utf8EncodeChar _)]
    show (shortEscape letter).toList ++ [] = _
    rw [shortEscape_value letter ok]
    rfl
  | unit u ok =>
    obtain ⟨cp, hdecode, hvalue, hlt⟩ := decode_item u
    have hchar : (Char.ofNat u.value).toNat = u.value := by
      refine toNat_ofNat ?_
      by_cases hlow : u.value < 0xD800
      · exact .inl hlow
      · exact .inr ⟨by omega, by omega⟩
    show u.item.decode ++ [] = String.utf8EncodeChar (Char.ofNat u.value)
    rw [List.append_nil, hdecode]
    exact appendUtf8_eq (hvalue.trans hchar.symm) (by omega)
  | pair high low highOk lowOk => cases h

theorem appendUtf8_length {cp : UInt32} (h : 0x800 ≤ cp.toNat) : (appendUtf8 cp).length = 3 := by
  have hone : ¬cp ≤ 0x7F := by
    rw [UInt32.le_iff_toNat_le]
    show ¬cp.toNat ≤ 127
    omega
  have htwo : ¬cp ≤ 0x7FF := by
    rw [UInt32.le_iff_toNat_le]
    show ¬cp.toNat ≤ 2047
    omega
  rw [appendUtf8, if_neg hone, if_neg htwo]
  rfl

/-- Two surrogates become six bytes, and no character has that many. -/
theorem decode_pair {t : CharSpelling} (h : t.isPair = true) :
    (StringText.decode t.items).length = 6 := by
  cases t with
  | literal c ok => cases h
  | short letter ok => cases h
  | unit u ok => cases h
  | pair high low highOk lowOk =>
    obtain ⟨cp, hdecode, hvalue, -⟩ := decode_item high
    obtain ⟨cp', hdecode', hvalue', -⟩ := decode_item low
    show (high.item.decode ++ (low.item.decode ++ [])).length = 6
    rw [List.append_nil, List.length_append, hdecode, hdecode', appendUtf8_length (by omega),
      appendUtf8_length (by omega)]

theorem decode_spelledText_cons (t : CharSpelling) (spelling : List CharSpelling) :
    StringText.decode (spelledText (t :: spelling)) =
      StringText.decode t.items ++ StringText.decode (spelledText spelling) := by
  rw [spelledText, List.flatMap_cons, StringText.decode, List.flatMap_append]
  rfl

/-- What is decoded is never shorter than the text, and longer if there is a pair. -/
theorem length_decode (spelling : List CharSpelling) :
    (utf8 (spelledValue spelling)).length ≤ (StringText.decode (spelledText spelling)).length ∧
      ((∃ t ∈ spelling, t.isPair = true) → (utf8 (spelledValue spelling)).length <
        (StringText.decode (spelledText spelling)).length) := by
  induction spelling with
  | nil =>
    refine ⟨Nat.le_refl _, ?_⟩
    rintro ⟨t, ht, -⟩
    cases ht
  | cons t spelling ih =>
    rw [utf8_spelledValue_cons, decode_spelledText_cons, List.length_append, List.length_append]
    obtain ⟨hle, hlt⟩ := ih
    cases hpair : t.isPair with
    | false =>
      rw [decode_items hpair]
      refine ⟨Nat.add_le_add_left hle _, ?_⟩
      rintro ⟨t', ht', hpair'⟩
      obtain rfl | hmem := List.mem_cons.1 ht'
      · rw [hpair] at hpair'
        cases hpair'
      · exact Nat.add_lt_add_left (hlt ⟨t', hmem, hpair'⟩) _
    | true =>
      have hvalue := length_utf8EncodeChar_le t.value
      rw [decode_pair hpair]
      exact ⟨by omega, fun _ => by omega⟩

theorem decode_spelledText {spelling : List CharSpelling} (h : ∀ t ∈ spelling, t.isPair = false) :
    StringText.decode (spelledText spelling) = utf8 (spelledValue spelling) := by
  induction spelling with
  | nil => rfl
  | cons t spelling ih =>
    rw [decode_spelledText_cons, utf8_spelledValue_cons, decode_items (h t List.mem_cons_self),
      ih fun t' ht' => h t' (List.mem_cons_of_mem t ht')]

/-- **When a string is decoded.**  `ParseString` returns the UTF-8 bytes of a text, in whatever way
it is spelled, if and only if none of its characters is spelled by two surrogates. -/
theorem parseString_spelled_iff (leading : Ws) (spelling : List CharSpelling) (rest : Bytes) :
    parseString (leading.bytes ++ (StringText.render (spelledText spelling) ++ rest)) =
      some (utf8 (spelledValue spelling), rest) ↔ ∀ t ∈ spelling, t.isPair = false := by
  rw [parseString_render _ leading.spaces, Option.some.injEq, Prod.mk.injEq,
    and_iff_left rfl]
  constructor
  · intro heq
    by_contra hnot
    have hpair : ∃ t ∈ spelling, t.isPair = true := by
      simpa using hnot
    have hlt := (length_decode spelling).2 hpair
    rw [heq] at hlt
    exact Nat.lt_irrefl _ hlt
  · exact decode_spelledText

/-- The digits `d83d`. -/
def grinHigh : HexUnit := ⟨0x64, 0x38, 0x33, 0x64, by decide⟩

/-- The digits `de00`. -/
def grinLow : HexUnit := ⟨0x64, 0x65, 0x30, 0x30, by decide⟩

/-- An emoji, written by its two surrogates. -/
def grin : CharSpelling := .pair grinHigh grinLow (by decide) (by decide)

/-- The emoji becomes two three-byte sequences, which are not UTF-8, in place of its four bytes. -/
theorem parseString_fails_pair :
    grin.value = Char.ofNat 0x1F600 ∧
    parseString (ascii "\"\\ud83d\\ude00\"") =
      some ([0xED, 0xA0, 0xBD, 0xED, 0xB8, 0x80], []) ∧
    StringText.render (spelledText [grin]) = ascii "\"\\ud83d\\ude00\"" ∧
    utf8 (spelledValue [grin]) = [0xF0, 0x9F, 0x98, 0x80] ∧
    ¬∀ (spelling : List CharSpelling) (rest : Bytes),
      parseString (StringText.render (spelledText spelling) ++ rest) =
        some (utf8 (spelledValue spelling), rest) := by
  have hread : parseString (ascii "\"\\ud83d\\ude00\"") =
      some ([0xED, 0xA0, 0xBD, 0xED, 0xB8, 0x80], []) := by decide +kernel
  have htext : StringText.render (spelledText [grin]) = ascii "\"\\ud83d\\ude00\"" := by
    decide +kernel
  have hvalue : utf8 (spelledValue [grin]) = [0xF0, 0x9F, 0x98, 0x80] := by decide +kernel
  refine ⟨by decide +kernel, hread, htext, hvalue, fun hall => ?_⟩
  have hsame := hall [grin] []
  rw [List.append_nil, htext, hread, hvalue] at hsame
  exact absurd hsame (by decide)

end SecondDisplay.JsonText
