import SecondDisplay.Library.Encoding
import SecondDisplay.Library.JsonText

/-!
# How a text can be spelled in a JSON string

A character of a JSON string can stand for itself, unless it is a control character, a quote or a
backslash; it can be escaped by a letter, by the number of its only UTF-16 unit, or by the numbers
of its two.  `CharSpelling` lists these ways, so that a list of spellings is a way to write the text
of its values.  An escape takes more bytes than the character (`length_raw_lt`), and a quote stands
in the string only as the escape of a quote (`value_of_quote`).
-/

namespace SecondDisplay.JsonText

open SecondDisplay.Encoding

/-! ### The ways to write a character -/

/-- A code point that has to be escaped. -/
def mustEscape (n : Nat) : Bool := n < 0x20 || n == 0x22 || n == 0x5C

/-- The character that a letter behind a backslash stands for. -/
def shortValue (letter : UInt8) : Char :=
  if letter = 0x62 then Char.ofNat 0x08
  else if letter = 0x66 then Char.ofNat 0x0C
  else if letter = 0x6E then Char.ofNat 0x0A
  else if letter = 0x72 then Char.ofNat 0x0D
  else if letter = 0x74 then Char.ofNat 0x09
  else Char.ofNat letter.toNat

/-- The value of a hexadecimal digit. -/
def digitValue (b : UInt8) : Nat :=
  if isDigit b then b.toNat - 0x30
  else if 0x61 ≤ b then b.toNat - 0x61 + 10
  else b.toNat - 0x41 + 10

/-- Four hexadecimal digits. -/
structure HexUnit where
  h0 : UInt8
  h1 : UInt8
  h2 : UInt8
  h3 : UInt8
  ok : (isHexDigit h0 && isHexDigit h1 && isHexDigit h2 && isHexDigit h3) = true

/-- The number that four digits stand for. -/
def HexUnit.value (u : HexUnit) : Nat :=
  ((digitValue u.h0 * 16 + digitValue u.h1) * 16 + digitValue u.h2) * 16 + digitValue u.h3

/-- The item with these digits. -/
def HexUnit.item (u : HexUnit) : StringItem := .unicode u.h0 u.h1 u.h2 u.h3 u.ok

/-- A way to write one character of a string. -/
inductive CharSpelling where
  /-- The character itself. -/
  | literal (c : Char) (ok : mustEscape c.toNat = false)
  /-- A backslash and a letter. -/
  | short (letter : UInt8) (ok : isShortEscape letter = true)
  /-- The number of the only unit. -/
  | unit (u : HexUnit) (ok : ¬(0xD800 ≤ u.value ∧ u.value < 0xE000))
  /-- The numbers of a high and a low surrogate. -/
  | pair (high low : HexUnit) (highOk : 0xD800 ≤ high.value ∧ high.value < 0xDC00)
      (lowOk : 0xDC00 ≤ low.value ∧ low.value < 0xE000)

namespace CharSpelling

/-- The character that is written. -/
def value : CharSpelling → Char
  | literal c _ => c
  | short letter _ => shortValue letter
  | unit u _ => Char.ofNat u.value
  | pair high low _ _ =>
    Char.ofNat (0x10000 + (high.value - 0xD800) * 0x400 + (low.value - 0xDC00))

/-- Whether the character stands for itself. -/
def isLiteral : CharSpelling → Bool
  | literal .. => true
  | short .. => false
  | unit .. => false
  | pair .. => false

theorem mustEscape_marks : Marks String.utf8EncodeChar (fun c => mustEscape c.toNat)
    (fun b => mustEscape b.toNat) := by
  refine utf8_marks fun n hn => ?_
  simp only [mustEscape, Bool.or_eq_true, decide_eq_true_eq, beq_iff_eq] at hn
  omega

theorem isPlain_of_not_mustEscape : ∀ b : UInt8, mustEscape b.toNat = false → isPlain b = true := by
  intro b h
  simp only [mustEscape, Bool.or_eq_false_iff, decide_eq_false_iff_not, beq_eq_false_iff_ne] at h
  simp only [isPlain, Bool.and_eq_true, decide_eq_true_eq, bne_iff_ne, ne_eq,
    ← UInt8.toNat_inj, UInt8.le_iff_toNat_le]
  obtain ⟨⟨hcontrol, hquote⟩, hslash⟩ := h
  exact ⟨⟨Nat.le_of_not_lt hcontrol, hquote⟩, hslash⟩

/-- The bytes of a character that stands for itself do so too. -/
theorem isPlain_utf8 {c : Char} (ok : mustEscape c.toNat = false) :
    ∀ b ∈ String.utf8EncodeChar c, isPlain b = true :=
  fun b hb => isPlain_of_not_mustEscape b ((mustEscape_marks.plain c ok).2 b hb)

/-- The items of the string that write the character. -/
def items : CharSpelling → StringText
  | literal c ok => (String.utf8EncodeChar c).pmap StringItem.plain (isPlain_utf8 ok)
  | short letter ok => [.short letter ok]
  | unit u _ => [u.item]
  | pair high low _ _ => [high.item, low.item]

end CharSpelling

/-- The string that a list of spellings makes up. -/
def spelledText (spelling : List CharSpelling) : StringText :=
  spelling.flatMap CharSpelling.items

/-- The text that is spelled. -/
def spelledValue (spelling : List CharSpelling) : List Char := spelling.map CharSpelling.value

/-! ### What the spelling looks like -/

theorem raw_plain {bytes : Bytes} (h : ∀ b ∈ bytes, isPlain b = true) :
    StringText.raw (bytes.pmap StringItem.plain h) = bytes := by
  induction bytes with
  | nil => rfl
  | cons b bytes ih =>
    show b :: StringText.raw (bytes.pmap StringItem.plain _) = b :: bytes
    rw [ih]

theorem raw_spelledText_cons (t : CharSpelling) (spelling : List CharSpelling) :
    StringText.raw (spelledText (t :: spelling)) =
      StringText.raw t.items ++ StringText.raw (spelledText spelling) := by
  rw [spelledText, List.flatMap_cons, StringText.raw, List.flatMap_append]
  rfl

theorem utf8_spelledValue_cons (t : CharSpelling) (spelling : List CharSpelling) :
    utf8 (spelledValue (t :: spelling)) =
      String.utf8EncodeChar t.value ++ utf8 (spelledValue spelling) := rfl

theorem raw_literal {c : Char} (ok : mustEscape c.toNat = false) :
    StringText.raw (CharSpelling.literal c ok).items = String.utf8EncodeChar c := raw_plain _

theorem length_utf8EncodeChar_le (c : Char) : (String.utf8EncodeChar c).length ≤ 4 := by
  rw [String.length_utf8EncodeChar]
  exact c.utf8Size_le_four

theorem length_shortValue : ∀ letter : UInt8, isShortEscape letter = true →
    (String.utf8EncodeChar (shortValue letter)).length = 1 := by
  intro letter h
  obtain rfl | rfl | rfl | rfl | rfl | rfl | rfl | rfl := isShortEscape_iff.1 h <;> rfl

/-- An escape takes more bytes than the character. -/
theorem length_raw_lt {t : CharSpelling} (h : t.isLiteral = false) :
    (String.utf8EncodeChar t.value).length < (StringText.raw t.items).length := by
  cases t with
  | literal c ok => cases h
  | short letter ok =>
    have hraw : (StringText.raw (CharSpelling.short letter ok).items).length = 2 := rfl
    have hvalue : (String.utf8EncodeChar (CharSpelling.short letter ok).value).length = 1 :=
      length_shortValue letter ok
    omega
  | unit u ok =>
    have hraw : (StringText.raw (CharSpelling.unit u ok).items).length = 6 := rfl
    have hvalue := length_utf8EncodeChar_le (CharSpelling.unit u ok).value
    omega
  | pair high low highOk lowOk =>
    have hraw : (StringText.raw (CharSpelling.pair high low highOk lowOk).items).length = 12 := rfl
    have hvalue := length_utf8EncodeChar_le (CharSpelling.pair high low highOk lowOk).value
    omega

/-- A spelling takes at least the bytes of the text, more if there is an escape. -/
theorem length_utf8_le (spelling : List CharSpelling) :
    (utf8 (spelledValue spelling)).length ≤ (StringText.raw (spelledText spelling)).length ∧
      ((∃ t ∈ spelling, t.isLiteral = false) →
        (utf8 (spelledValue spelling)).length <
          (StringText.raw (spelledText spelling)).length) := by
  induction spelling with
  | nil =>
    refine ⟨Nat.le_refl _, ?_⟩
    rintro ⟨t, ht, -⟩
    cases ht
  | cons t spelling ih =>
    rw [utf8_spelledValue_cons, raw_spelledText_cons, List.length_append, List.length_append]
    obtain ⟨hle, hlt⟩ := ih
    have hhead : (String.utf8EncodeChar t.value).length ≤ (StringText.raw t.items).length ∧
        (t.isLiteral = false →
          (String.utf8EncodeChar t.value).length < (StringText.raw t.items).length) := by
      refine ⟨?_, length_raw_lt⟩
      cases hliteral : t.isLiteral with
      | false => exact Nat.le_of_lt (length_raw_lt hliteral)
      | true =>
        cases t with
        | literal c ok =>
          rw [raw_literal]
          exact Nat.le_refl _
        | short letter ok => cases hliteral
        | unit u ok => cases hliteral
        | pair high low highOk lowOk => cases hliteral
    refine ⟨by omega, ?_⟩
    rintro ⟨t', ht', hescape⟩
    obtain rfl | hmem := List.mem_cons.1 ht'
    · have := hhead.2 hescape
      omega
    · have := hlt ⟨t', hmem, hescape⟩
      omega

/-- Without an escape the spelling is the text. -/
theorem raw_of_literal {spelling : List CharSpelling} (h : ∀ t ∈ spelling, t.isLiteral = true) :
    StringText.raw (spelledText spelling) = utf8 (spelledValue spelling) := by
  induction spelling with
  | nil => rfl
  | cons t spelling ih =>
    rw [raw_spelledText_cons, utf8_spelledValue_cons,
      ih fun t' ht' => h t' (List.mem_cons_of_mem t ht')]
    have hliteral := h t List.mem_cons_self
    cases t with
    | literal c ok =>
      rw [raw_literal]
      rfl
    | short letter ok => cases hliteral
    | unit u ok => cases hliteral
    | pair high low highOk lowOk => cases hliteral

theorem quote_notMem_item (u : HexUnit) : (0x22 : UInt8) ∉ u.item.render := by
  have hok := u.ok
  simp only [Bool.and_eq_true] at hok
  obtain ⟨⟨⟨h0, h1⟩, h2⟩, h3⟩ := hok
  intro hmem
  have hcases : (0x22 : UInt8) = 0x5C ∨ (0x22 : UInt8) = 0x75 ∨ 0x22 = u.h0 ∨ 0x22 = u.h1 ∨
      0x22 = u.h2 ∨ 0x22 = u.h3 := by
    simpa [HexUnit.item, StringItem.render] using hmem
  obtain h | h | h | h | h | h := hcases
  · cases h
  · cases h
  · exact ne_of_class h0 rfl h.symm
  · exact ne_of_class h1 rfl h.symm
  · exact ne_of_class h2 rfl h.symm
  · exact ne_of_class h3 rfl h.symm

/-- A quote inside a string belongs to the escape of a quote. -/
theorem value_of_quote {t : CharSpelling} (h : (0x22 : UInt8) ∈ StringText.raw t.items) :
    (0x22 : UInt8) ∈ String.utf8EncodeChar t.value := by
  cases t with
  | literal c ok =>
    rw [raw_literal] at h
    exact absurd rfl (ne_of_class (CharSpelling.isPlain_utf8 ok _ h) rfl)
  | short letter ok =>
    have hletter : letter = 0x22 := by
      have hcases : (0x22 : UInt8) = 0x5C ∨ 0x22 = letter := by
        simpa [CharSpelling.items, StringText.raw, StringItem.render] using h
      obtain hslash | hquote := hcases
      · cases hslash
      · exact hquote.symm
    subst hletter
    show (0x22 : UInt8) ∈ String.utf8EncodeChar (shortValue 0x22)
    decide
  | unit u ok =>
    have hmem : (0x22 : UInt8) ∈ u.item.render := by
      simpa [CharSpelling.items, StringText.raw] using h
    exact absurd hmem (quote_notMem_item u)
  | pair high low highOk lowOk =>
    have hmem : (0x22 : UInt8) ∈ high.item.render ∨ (0x22 : UInt8) ∈ low.item.render := by
      simpa [CharSpelling.items, StringText.raw] using h
    obtain hhigh | hlow := hmem
    · exact absurd hhigh (quote_notMem_item high)
    · exact absurd hlow (quote_notMem_item low)

theorem quote_mem_utf8 {spelling : List CharSpelling}
    (h : (0x22 : UInt8) ∈ StringText.raw (spelledText spelling)) :
    (0x22 : UInt8) ∈ utf8 (spelledValue spelling) := by
  induction spelling with
  | nil => cases h
  | cons t spelling ih =>
    rw [raw_spelledText_cons, List.mem_append] at h
    rw [utf8_spelledValue_cons, List.mem_append]
    exact h.imp value_of_quote ih

/-- **What a reader up to the next quote gets.**  The bytes in front of the first quote are the
text exactly if nothing is escaped. -/
theorem takeWhile_quote_iff (spelling : List CharSpelling) :
    (StringText.raw (spelledText spelling)).takeWhile (fun b => b != 0x22) =
      utf8 (spelledValue spelling) ↔ ∀ t ∈ spelling, t.isLiteral = true := by
  constructor
  · intro heq
    by_contra hnot
    have hescape : ∃ t ∈ spelling, t.isLiteral = false := by
      simpa using hnot
    -- a quote would be missing from the bytes in front of it, and without one they are too long
    by_cases hquote : (0x22 : UInt8) ∈ StringText.raw (spelledText spelling)
    · have hmem := quote_mem_utf8 hquote
      rw [← heq] at hmem
      have hne := List.all_eq_true.1 List.all_takeWhile _ hmem
      exact absurd hne (by decide)
    · have hall : ∀ b ∈ StringText.raw (spelledText spelling), (b != 0x22) = true := by
        intro b hb
        rw [bne_iff_ne]
        rintro rfl
        exact hquote hb
      have htake := @List.takeWhile_append_of_pos _ _ _ [] hall
      rw [List.append_nil, List.takeWhile_nil, List.append_nil] at htake
      have hlt := (length_utf8_le spelling).2 hescape
      rw [← heq, htake] at hlt
      exact Nat.lt_irrefl _ hlt
  · intro hall
    have hraw := raw_of_literal hall
    have hnoquote : ∀ b ∈ StringText.raw (spelledText spelling), (b != 0x22) = true := by
      intro b hb
      rw [bne_iff_ne]
      rintro rfl
      rw [hraw, utf8, List.mem_flatMap] at hb
      obtain ⟨c, hc, hb⟩ := hb
      obtain ⟨t, ht, rfl⟩ := List.mem_map.1 hc
      have hliteral := hall t ht
      cases t with
      | literal c ok =>
        exact ne_of_class (CharSpelling.isPlain_utf8 ok _ hb) rfl rfl
      | short letter ok => cases hliteral
      | unit u ok => cases hliteral
      | pair high low highOk lowOk => cases hliteral
    have htake := @List.takeWhile_append_of_pos _ _ _ [] hnoquote
    rw [List.append_nil, List.takeWhile_nil, List.append_nil] at htake
    rw [htake, hraw]

end SecondDisplay.JsonText
