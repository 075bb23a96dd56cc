import SecondDisplay.Library.Bytes

/-!
# JSON texts

The syntax trees of JSON texts: values with all their whitespace, strings as sequences of
literal bytes and escapes, numbers by the JSON grammar.  Well-formedness is in the types, so
`render` gives exactly the JSON texts.  `Members.find` says where in an object the value of a
member stands.
-/

namespace SecondDisplay.JsonText

/-! ### Tokens -/

/-- JSON whitespace. -/
def isWs (b : UInt8) : Bool := b == 0x20 || b == 0x09 || b == 0x0A || b == 0x0D

/-- A run of whitespace between tokens. -/
structure Ws where
  bytes : Bytes
  all_ws : bytes.all isWs = true

/-- No whitespace. -/
def Ws.none : Ws := ⟨[], rfl⟩

/-- A byte that stands for itself in a string: no control byte, quote or backslash. -/
def isPlain (b : UInt8) : Bool := 0x20 ≤ b && b != 0x22 && b != 0x5C

/-- The letter of a two-byte escape: one of `"`, `\`, `/`, `b`, `f`, `n`, `r`, `t`. -/
def isShortEscape (b : UInt8) : Bool :=
  b == 0x22 || b == 0x5C || b == 0x2F || b == 0x62 || b == 0x66 || b == 0x6E || b == 0x72 ||
    b == 0x74

/-- The letters of two-byte escapes, one by one. -/
theorem isShortEscape_iff {b : UInt8} : isShortEscape b = true ↔ b = 0x22 ∨ b = 0x5C ∨ b = 0x2F ∨
    b = 0x62 ∨ b = 0x66 ∨ b = 0x6E ∨ b = 0x72 ∨ b = 0x74 := by
  simp only [isShortEscape, Bool.or_eq_true, beq_iff_eq, or_assoc]

/-- A hexadecimal digit. -/
def isHexDigit (b : UInt8) : Bool :=
  isDigit b || (0x61 ≤ b && b ≤ 0x66) || (0x41 ≤ b && b ≤ 0x46)

/-- An item of a string. -/
inductive StringItem where
  /-- A byte for itself. -/
  | plain (b : UInt8) (ok : isPlain b = true)
  /-- A backslash and a letter. -/
  | short (letter : UInt8) (ok : isShortEscape letter = true)
  /-- A backslash, `u` and four hexadecimal digits. -/
  | unicode (h0 h1 h2 h3 : UInt8)
      (ok : (isHexDigit h0 && isHexDigit h1 && isHexDigit h2 && isHexDigit h3) = true)

/-- The bytes of an item. -/
def StringItem.render : StringItem → Bytes
  | .plain b _ => [b]
  | .short letter _ => [0x5C, letter]
  | .unicode h0 h1 h2 h3 _ => [0x5C, 0x75, h0, h1, h2, h3]

/-- A string literal. -/
abbrev StringText := List StringItem

/-- The bytes between the quotes. -/
def StringText.raw (s : StringText) : Bytes := s.flatMap StringItem.render

/-- The literal with its quotes. -/
def StringText.render (s : StringText) : Bytes := 0x22 :: StringText.raw s ++ [0x22]

/-- A non-empty run of digits. -/
structure Digits where
  bytes : Bytes
  ne_nil : bytes ≠ []
  all_digits : bytes.all isDigit = true

/-- The exponent of a number: the letter, a sign, digits. -/
structure Exponent where
  letter : UInt8
  letter_ok : letter = 0x65 ∨ letter = 0x45
  sign : Option UInt8
  sign_ok : ∀ b ∈ sign, b = 0x2B ∨ b = 0x2D
  digits : Digits

/-- A number by the JSON grammar. -/
structure NumberText where
  negative : Bool
  whole : Digits
  no_leading_zero : whole.bytes.head? = some 0x30 → whole.bytes.length = 1
  fraction : Option Digits
  exponent : Option Exponent

/-- The bytes of an exponent. -/
def Exponent.render (e : Exponent) : Bytes := e.letter :: e.sign.toList ++ e.digits.bytes

/-- The bytes of a number. -/
def NumberText.render (n : NumberText) : Bytes :=
  (if n.negative then [0x2D] else []) ++ n.whole.bytes ++
    (n.fraction.elim [] fun digits => 0x2E :: digits.bytes) ++
    n.exponent.elim [] Exponent.render

/-! ### Values -/

mutual

/-- A JSON value as it is written. -/
inductive Value where
  | null
  | bool (b : Bool)
  | number (n : NumberText)
  | string (s : StringText)
  | array (gap : Ws) (elements : Elements)
  | object (gap : Ws) (members : Members)

/-- The elements of an array, each with the whitespace around it. -/
inductive Elements where
  | nil
  | cons (before : Ws) (value : Value) (after : Ws) (rest : Elements)

/-- The members of an object, with the whitespace around keys and values. -/
inductive Members where
  | nil
  | cons (before : Ws) (key : StringText) (afterKey beforeValue : Ws) (value : Value)
      (after : Ws) (rest : Members)

end

/-- The comma in front of further elements. -/
def Elements.separator : Elements → Bytes
  | .nil => []
  | .cons .. => [0x2C]

/-- The comma in front of further members. -/
def Members.separator : Members → Bytes
  | .nil => []
  | .cons .. => [0x2C]

mutual

/-- The text of a value. -/
def Value.render : Value → Bytes
  | .null => ascii "null"
  | .bool true => ascii "true"
  | .bool false => ascii "false"
  | .number n => n.render
  | .string s => s.render
  | .array gap elements => 0x5B :: (gap.bytes ++ elements.render ++ [0x5D])
  | .object gap members => 0x7B :: (gap.bytes ++ members.render ++ [0x7D])

/-- The text of the elements, with their commas. -/
def Elements.render : Elements → Bytes
  | .nil => []
  | .cons before value after rest =>
    before.bytes ++ value.render ++ after.bytes ++ rest.separator ++ rest.render

/-- The text of the members, with their commas. -/
def Members.render : Members → Bytes
  | .nil => []
  | .cons before key afterKey beforeValue value after rest =>
    before.bytes ++ key.render ++ afterKey.bytes ++ [0x3A] ++ beforeValue.bytes ++
      value.render ++ after.bytes ++ rest.separator ++ rest.render

end

/-- A text: one value with whitespace around it. -/
structure Text where
  leading : Ws
  value : Value
  trailing : Ws

/-- The bytes of a text. -/
def Text.render (t : Text) : Bytes := t.leading.bytes ++ (t.value.render ++ t.trailing.bytes)

/-! ### Members of an object -/

/-- The value of the first member whose raw key text is `key`, and the text in front of it. -/
def Members.find (key : Bytes) : Members → Option (Bytes × Value)
  | .nil => none
  | .cons before k afterKey beforeValue value after rest =>
    let front := before.bytes ++ StringText.render k ++ afterKey.bytes ++ [0x3A] ++
      beforeValue.bytes
    if StringText.raw k = key then some (front, value)
    else (rest.find key).map fun found =>
      (front ++ value.render ++ after.bytes ++ rest.separator ++ found.1, found.2)

/-- What `find` returns stands in the text. -/
theorem Members.render_find {key : Bytes} {members : Members} {front : Bytes} {value : Value}
    (h : members.find key = some (front, value)) :
    ∃ behind, members.render = front ++ value.render ++ behind := by
  match members with
  | .nil => cases h
  | .cons before k afterKey beforeValue v after rest =>
    rw [Members.find] at h
    split at h
    · cases h
      exact ⟨after.bytes ++ rest.separator ++ rest.render, by
        simp only [Members.render, List.append_assoc]⟩
    · obtain ⟨⟨t, w⟩, hfound, heq⟩ := Option.map_eq_some_iff.1 h
      cases heq
      obtain ⟨behind, hbehind⟩ := Members.render_find hfound
      refine ⟨behind, ?_⟩
      simp only [Members.render, hbehind, List.append_assoc]

/-! ### What the bytes of a token are not -/

/-- The bytes at which structure begins or ends: quote, comma, colon, brackets, braces. -/
def isStructural (b : UInt8) : Bool :=
  b == 0x22 || b == 0x2C || b == 0x3A || b == 0x5B || b == 0x5D || b == 0x7B || b == 0x7D

theorem isWs_isSpace {b : UInt8} (h : isWs b = true) : isSpace b = true := by
  simp only [isWs, Bool.or_eq_true, beq_iff_eq] at h
  obtain ((rfl | rfl) | rfl) | rfl := h <;> rfl

theorem isStructural_iff {b : UInt8} : isStructural b = true ↔ b.toNat = 0x22 ∨ b.toNat = 0x2C ∨
    b.toNat = 0x3A ∨ b.toNat = 0x5B ∨ b.toNat = 0x5D ∨ b.toNat = 0x7B ∨ b.toNat = 0x7D := by
  simp [isStructural, ← UInt8.toNat_inj, or_assoc]

theorem not_isStructural_of_isSpace : ∀ b, isSpace b = true → isStructural b = false := by
  intro b h
  rw [isSpace_iff] at h
  rw [Bool.eq_false_iff, ne_eq, isStructural_iff]
  omega

theorem not_isStructural_of_isDigit : ∀ b, isDigit b = true → isStructural b = false := by
  intro b h
  rw [isDigit_iff] at h
  rw [Bool.eq_false_iff, ne_eq, isStructural_iff]
  omega

theorem Digits.not_isStructural (d : Digits) : ∀ b ∈ d.bytes, isStructural b = false :=
  fun b hb => not_isStructural_of_isDigit b (List.all_eq_true.1 d.all_digits b hb)

theorem Exponent.not_isStructural (e : Exponent) : ∀ b ∈ e.render, isStructural b = false := by
  intro b hb
  rw [Exponent.render, List.cons_append, List.mem_cons, List.mem_append] at hb
  obtain rfl | hb | hb := hb
  · obtain h | h := e.letter_ok <;> rw [h] <;> rfl
  · obtain rfl | rfl := e.sign_ok b (Option.mem_toList.1 hb) <;> rfl
  · exact e.digits.not_isStructural b hb

theorem NumberText.not_isStructural (n : NumberText) : ∀ b ∈ n.render, isStructural b = false := by
  intro b hb
  simp only [NumberText.render, List.mem_append] at hb
  obtain ((hb | hb) | hb) | hb := hb
  · split at hb
    · rw [List.mem_singleton] at hb
      rw [hb]; rfl
    · cases hb
  · exact n.whole.not_isStructural b hb
  · cases hf : n.fraction with
    | none => rw [hf] at hb; cases hb
    | some digits =>
      rw [hf, Option.elim_some, List.mem_cons] at hb
      obtain rfl | hb := hb
      · rfl
      · exact digits.not_isStructural b hb
  · cases he : n.exponent with
    | none => rw [he] at hb; cases hb
    | some e =>
      rw [he, Option.elim_some] at hb
      exact e.not_isStructural b hb

theorem numberHead_not_isSpace : ∀ b, b = 0x2D ∨ isDigit b = true → isSpace b = false := by
  intro b h
  obtain rfl | h := h
  · rfl
  · exact isSpace_of_isDigit h

/-- A number begins with no other byte. -/
theorem numberHead_ne {b c : UInt8} (h : b = 0x2D ∨ isDigit b = true)
    (hc : (c == 0x2D || isDigit c) = false) : b ≠ c := by
  refine ne_of_class (p := fun b => b == 0x2D || isDigit b) ?_ hc
  rw [Bool.or_eq_true, beq_iff_eq]
  exact h

theorem numberHead_ne_quote : ∀ b, b = 0x2D ∨ isDigit b = true → b ≠ 0x22 :=
  fun _ h => numberHead_ne h rfl

/-- A number begins with its sign or a digit. -/
theorem NumberText.render_head (n : NumberText) :
    ∃ c tail, n.render = c :: tail ∧ (c = 0x2D ∨ isDigit c = true) := by
  obtain ⟨d, digits, hd⟩ := List.exists_cons_of_ne_nil n.whole.ne_nil
  have hdigit : isDigit d = true :=
    List.all_eq_true.1 n.whole.all_digits d (by rw [hd]; exact List.mem_cons_self)
  rw [NumberText.render, hd]
  cases n.negative with
  | true => exact ⟨0x2D, _, rfl, Or.inl rfl⟩
  | false => exact ⟨d, _, rfl, Or.inr hdigit⟩

/-- A value begins with a byte that is no whitespace, with a quote only if it is a string. -/
theorem Value.render_head (v : Value) :
    ∃ c tail, v.render = c :: tail ∧ isSpace c = false ∧ (c = 0x22 ↔ ∃ s, v = .string s) := by
  cases v with
  | null => exact ⟨_, _, rfl, by decide, by simp; decide⟩
  | bool b => cases b <;> exact ⟨_, _, rfl, by decide, by simp; decide⟩
  | number n =>
    obtain ⟨c, tail, hrender, hc⟩ := n.render_head
    refine ⟨c, tail, hrender, numberHead_not_isSpace c hc, fun h => ?_, fun ⟨s, hs⟩ => ?_⟩
    · exact absurd h (numberHead_ne_quote c hc)
    · cases hs
  | string s => exact ⟨_, _, rfl, by decide, fun _ => ⟨s, rfl⟩, fun _ => rfl⟩
  | array gap elements =>
    refine ⟨_, _, rfl, by decide, fun h => ?_, fun ⟨s, hs⟩ => ?_⟩
    · exact absurd h (by decide)
    · cases hs
  | object gap members =>
    refine ⟨_, _, rfl, by decide, fun h => ?_, fun ⟨s, hs⟩ => ?_⟩
    · exact absurd h (by decide)
    · cases hs

theorem numberHead_ne_close : ∀ b, b = 0x2D ∨ isDigit b = true → b ≠ 0x5D :=
  fun _ h => numberHead_ne h rfl

/-- A value does not begin with a closing bracket. -/
theorem Value.render_head_ne_close {v : Value} {c : UInt8} {tail : Bytes}
    (h : v.render = c :: tail) : c ≠ 0x5D := by
  cases v with
  | null => cases h; decide
  | bool b => cases b <;> (cases h; decide)
  | number n =>
    obtain ⟨d, rest, hrender, hd⟩ := n.render_head
    have hcd : d = c := by
      rw [Value.render, hrender] at h
      exact (List.cons.inj h).1
    rw [← hcd]
    exact numberHead_ne_close d hd
  | string s => cases h; decide
  | array gap elements => cases h; decide
  | object gap members => cases h; decide

end SecondDisplay.JsonText
