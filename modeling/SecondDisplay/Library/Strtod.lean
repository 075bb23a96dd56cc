import SecondDisplay.Library.JsonText
import Mathlib.Data.List.TakeWhile

/-!
# What `strtod` takes for a number

In the C locale `strtod` skips whitespace and takes the longest number at the front of the text: a
sign and then a decimal number, a hexadecimal one, an infinity or a NaN.  `subject` is the text that
it takes.  A JSON number is taken whole, whatever follows it in a JSON text (`subject_number`), and
from the other values of JSON nothing is taken (`subject_other`).
-/

namespace SecondDisplay.Strtod

open SecondDisplay.JsonText

/-! ### The subject sequence -/

/-- An exponent at the front of a text: one of the letters, a sign, digits; nothing without
digits. -/
def exponentSubject (letters text : Bytes) : Bytes :=
  match text with
  | [] => []
  | letter :: after =>
    if letters.contains letter then
      let sign := after.take (if after.head? = some 0x2B ∨ after.head? = some 0x2D then 1 else 0)
      let digits := (after.drop sign.length).takeWhile isDigit
      if digits = [] then [] else letter :: (sign ++ digits)
    else []

/-- Digits that may contain a point, and then an exponent; nothing without digits. -/
def mantissaSubject (isDigitHere : UInt8 → Bool) (letters text : Bytes) : Bytes :=
  let whole := text.takeWhile isDigitHere
  let behind := text.dropWhile isDigitHere
  let fraction :=
    if behind.head? = some 0x2E then 0x2E :: behind.tail.takeWhile isDigitHere else []
  if whole = [] ∧ fraction.length ≤ 1 then []
  else whole ++ fraction ++ exponentSubject letters (behind.drop fraction.length)

/-- `0x` and a hexadecimal number. -/
def hexSubject (text : Bytes) : Bytes :=
  if text.take 2 = ascii "0x" ∨ text.take 2 = ascii "0X" then
    let mantissa := mantissaSubject isHexDigit (ascii "pP") (text.drop 2)
    if mantissa = [] then [] else text.take 2 ++ mantissa
  else []

/-- A character that may stand in the brackets behind `nan`. -/
def isNanCharacter (b : UInt8) : Bool :=
  isDigit b || (0x61 ≤ toLower b && toLower b ≤ 0x7A) || b == 0x5F

/-- `inf`, `infinity`, `nan` or `nan(...)`, in any case. -/
def wordSubject (text : Bytes) : Bytes :=
  let lower := text.map toLower
  if ascii "infinity" <+: lower then text.take 8
  else if ascii "inf" <+: lower then text.take 3
  else if ascii "nan" <+: lower then
    let inside := (text.drop 4).takeWhile isNanCharacter
    if text[3]? = some 0x28 ∧ text[4 + inside.length]? = some 0x29 then
      text.take (5 + inside.length)
    else text.take 3
  else []

/-- The first text that is not empty. -/
def firstOf (texts : List Bytes) : Option Bytes := texts.find? fun text => text ≠ []

/-- The text that `strtod` takes from the front of `text`. -/
def subject (text : Bytes) : Option Bytes :=
  let trimmed := text.dropWhile isSpace
  let sign :=
    trimmed.take (if trimmed.head? = some 0x2B ∨ trimmed.head? = some 0x2D then 1 else 0)
  let unsigned := trimmed.drop sign.length
  (firstOf [wordSubject unsigned, hexSubject unsigned,
    mantissaSubject isDigit (ascii "eE") unsigned]).map fun number => sign ++ number

/-! ### Numbers of JSON -/

/-- A byte with which no number goes on. -/
def endsNumber (b : UInt8) : Bool :=
  !(isDigit b || b == 0x2E || b == 0x65 || b == 0x45 || b == 0x78 || b == 0x58)

/-- A text in front of which a number ends. -/
def Ends (tail : Bytes) : Prop := ∀ b ∈ tail.head?, endsNumber b = true

theorem takeWhile_digits {p : UInt8 → Bool} {digits tail : Bytes}
    (hdigits : ∀ b ∈ digits, p b = true) (htail : ∀ b ∈ tail.head?, p b = false) :
    (digits ++ tail).takeWhile p = digits ∧ (digits ++ tail).dropWhile p = tail := by
  rw [List.takeWhile_append_of_pos hdigits, List.dropWhile_append_of_pos hdigits]
  cases tail with
  | nil => exact ⟨List.append_nil digits, rfl⟩
  | cons b tail =>
    have hb : ¬p b = true := by
      rw [htail b rfl]
      exact Bool.false_ne_true
    rw [List.takeWhile_cons_of_neg hb, List.dropWhile_cons_of_neg hb]
    exact ⟨List.append_nil digits, rfl⟩

theorem endsNumber_not_isDigit : ∀ b, endsNumber b = true → isDigit b = false := by
  decide +kernel

theorem Ends.not_digit {tail : Bytes} (h : Ends tail) : ∀ b ∈ tail.head?, isDigit b = false :=
  fun b hb => endsNumber_not_isDigit b (h b hb)

theorem Ends.head_ne {tail : Bytes} (h : Ends tail) {b : UInt8} (hb : endsNumber b = false) :
    tail.head? ≠ some b := by
  intro heq
  rw [h b heq] at hb
  cases hb

/-- The exponent of a JSON number is taken whole. -/
theorem exponentSubject_render (exponent : Option Exponent) {tail : Bytes} (h : Ends tail) :
    exponentSubject (ascii "eE") (exponent.elim [] Exponent.render ++ tail) =
      exponent.elim [] Exponent.render := by
  cases exponent with
  | none =>
    rw [Option.elim_none, List.nil_append]
    cases tail with
    | nil => rfl
    | cons b tail =>
      have hb : (ascii "eE").contains b = false := by
        have hlower := h.head_ne (b := 0x65) rfl
        have hupper := h.head_ne (b := 0x45) rfl
        have hneLower : b ≠ 0x65 := fun heq => hlower (by rw [heq]; rfl)
        have hneUpper : b ≠ 0x45 := fun heq => hupper (by rw [heq]; rfl)
        rw [show ascii "eE" = [0x65, 0x45] from rfl]
        simp [hneLower, hneUpper]
      rw [exponentSubject, if_neg (by rw [hb]; exact Bool.false_ne_true)]
  | some e =>
    obtain ⟨d, more, hd⟩ := List.exists_cons_of_ne_nil e.digits.ne_nil
    have hdigits := List.all_eq_true.1 e.digits.all_digits
    have hletter : (ascii "eE").contains e.letter = true := by
      obtain hletter | hletter := e.letter_ok <;> rw [hletter] <;> rfl
    have hsign : (e.sign.toList ++ (e.digits.bytes ++ tail)).take
        (if (e.sign.toList ++ (e.digits.bytes ++ tail)).head? = some 0x2B ∨
            (e.sign.toList ++ (e.digits.bytes ++ tail)).head? = some 0x2D then 1 else 0) =
          e.sign.toList := by
      cases hs : e.sign with
      | none =>
        have hdigit : isDigit d = true := hdigits d (by rw [hd]; exact List.mem_cons_self)
        have hno : ¬(some d = some 0x2B ∨ some d = some (0x2D : UInt8)) := by
          rintro (heq | heq) <;> cases heq <;> exact absurd hdigit (by decide)
        rw [Option.toList_none, List.nil_append, hd, List.cons_append, List.head?_cons,
          if_neg hno, List.take_zero]
      | some c =>
        have hc : some c = some 0x2B ∨ some c = some (0x2D : UInt8) :=
          (e.sign_ok c (by rw [hs]; rfl)).imp (congrArg some) (congrArg some)
        rw [Option.toList_some, List.singleton_append, List.head?_cons, if_pos hc]
        rfl
    have hne : e.digits.bytes ≠ [] := e.digits.ne_nil
    rw [Option.elim_some, Exponent.render, List.cons_append, List.cons_append, List.append_assoc,
      exponentSubject, if_pos hletter]
    dsimp only
    rw [hsign, List.drop_left, (takeWhile_digits hdigits h.not_digit).1, if_neg hne]

/-- The bytes of a fraction. -/
def fractionOf (fraction : Option Digits) : Bytes :=
  fraction.elim [] fun digits => 0x2E :: digits.bytes

/-- Behind the integer part of a JSON number stands no digit and no `x`, behind its fraction
neither a digit nor a point. -/
theorem Ends.behind {tail : Bytes} (h : Ends tail) (fraction : Option Digits)
    (exponent : Option Exponent) :
    (∀ b ∈ (fractionOf fraction ++ (exponent.elim [] Exponent.render ++ tail)).head?,
      isDigit b = false ∧ b ≠ 0x78 ∧ b ≠ 0x58) ∧
    ∀ b ∈ (exponent.elim [] Exponent.render ++ tail).head?, isDigit b = false ∧ b ≠ 0x2E := by
  have hends : ∀ b, endsNumber b = true → isDigit b = false ∧ b ≠ 0x78 ∧ b ≠ 0x58 ∧ b ≠ 0x2E := by
    decide +kernel
  have hexponent : ∀ b ∈ (exponent.elim [] Exponent.render ++ tail).head?,
      isDigit b = false ∧ b ≠ 0x78 ∧ b ≠ 0x58 ∧ b ≠ 0x2E := by
    intro b hb
    cases exponent with
    | none => exact hends b (h b hb)
    | some e =>
      cases hb
      obtain hletter | hletter := e.letter_ok <;> rw [hletter] <;> decide
  constructor
  · intro b hb
    cases fraction with
    | none =>
      obtain ⟨hdigit, hlower, hupper, -⟩ := hexponent b hb
      exact ⟨hdigit, hlower, hupper⟩
    | some digits =>
      cases hb
      decide
  · intro b hb
    obtain ⟨hdigit, -, -, hpoint⟩ := hexponent b hb
    exact ⟨hdigit, hpoint⟩

/-- The decimal form of a JSON number is taken whole. -/
theorem mantissaSubject_render (n : NumberText) {tail : Bytes} (h : Ends tail) :
    mantissaSubject isDigit (ascii "eE") (n.whole.bytes ++
        (fractionOf n.fraction ++ (n.exponent.elim [] Exponent.render ++ tail))) =
      n.whole.bytes ++ fractionOf n.fraction ++ n.exponent.elim [] Exponent.render := by
  obtain ⟨hbehindWhole, hbehindFraction⟩ := h.behind n.fraction n.exponent
  obtain ⟨hwhole, hbehind⟩ := takeWhile_digits (List.all_eq_true.1 n.whole.all_digits)
    fun b hb => (hbehindWhole b hb).1
  have hfraction : (if (fractionOf n.fraction ++ (n.exponent.elim [] Exponent.render ++ tail)).head?
        = some 0x2E then
      0x2E :: (fractionOf n.fraction ++
        (n.exponent.elim [] Exponent.render ++ tail)).tail.takeWhile isDigit
      else []) = fractionOf n.fraction := by
    cases n.fraction with
    | none =>
      have hpoint : (fractionOf none ++ (n.exponent.elim [] Exponent.render ++ tail)).head? ≠
          some 0x2E := fun heq => (hbehindFraction 0x2E heq).2 rfl
      rw [if_neg hpoint]
      rfl
    | some digits =>
      have hdigits := (takeWhile_digits (List.all_eq_true.1 digits.all_digits)
        fun b hb => (hbehindFraction b hb).1).1
      have hpoint : (fractionOf (some digits) ++
          (n.exponent.elim [] Exponent.render ++ tail)).head? = some 0x2E := rfl
      rw [if_pos hpoint]
      show 0x2E :: (digits.bytes ++ (n.exponent.elim [] Exponent.render ++ tail)).takeWhile isDigit
        = 0x2E :: digits.bytes
      rw [hdigits]
  have hne : ¬(n.whole.bytes = [] ∧ (fractionOf n.fraction).length ≤ 1) :=
    fun hnil => n.whole.ne_nil hnil.1
  rw [mantissaSubject, hwhole, hbehind]
  rw [hfraction, if_neg hne, List.drop_left, exponentSubject_render n.exponent h]

theorem hexSubject_of_second {c : UInt8} {rest : Bytes}
    (h : rest.head? ≠ some 0x78 ∧ rest.head? ≠ some 0x58) : hexSubject (c :: rest) = [] := by
  have hne : ¬((c :: rest).take 2 = ascii "0x" ∨ (c :: rest).take 2 = ascii "0X") := by
    cases rest with
    | nil =>
      rintro (heq | heq) <;> cases heq
    | cons d rest =>
      rintro (heq | heq)
      · exact h.1 (congrArg some (List.cons.inj (List.cons.inj heq).2).1)
      · exact h.2 (congrArg some (List.cons.inj (List.cons.inj heq).2).1)
  rw [hexSubject, if_neg hne]

/-- A word begins with an `i` or an `n`. -/
theorem wordSubject_of_head {c : UInt8} {rest : Bytes}
    (h : toLower c ≠ 0x69 ∧ toLower c ≠ 0x6E) : wordSubject (c :: rest) = [] := by
  have hno : ∀ (letter : UInt8) (word : Bytes), toLower c ≠ letter →
      ¬(letter :: word) <+: (c :: rest).map toLower := by
    intro letter word hne hstarts
    rw [List.map_cons, List.cons_prefix_cons] at hstarts
    exact hne hstarts.1.symm
  rw [wordSubject, show ascii "infinity" = 0x69 :: ascii "nfinity" from rfl,
    show ascii "inf" = 0x69 :: ascii "nf" from rfl, show ascii "nan" = 0x6E :: ascii "an" from rfl]
  dsimp only
  rw [if_neg (hno 0x69 _ h.1), if_neg (hno 0x69 _ h.1), if_neg (hno 0x6E _ h.2)]

theorem digit_no_word : ∀ c, isDigit c = true →
    toLower c ≠ 0x69 ∧ toLower c ≠ 0x6E ∧ c ≠ 0x78 ∧ c ≠ 0x58 ∧ c ≠ 0x2B ∧ c ≠ 0x2D := by
  decide +kernel

/-- Without its sign a JSON number is taken as a decimal number. -/
theorem firstOf_render (n : NumberText) {tail : Bytes} (h : Ends tail) :
    let unsigned := n.whole.bytes ++
      (fractionOf n.fraction ++ (n.exponent.elim [] Exponent.render ++ tail))
    firstOf [wordSubject unsigned, hexSubject unsigned,
        mantissaSubject isDigit (ascii "eE") unsigned] =
      some (n.whole.bytes ++ fractionOf n.fraction ++ n.exponent.elim [] Exponent.render) := by
  intro unsigned
  obtain ⟨d, digits, hd⟩ := List.exists_cons_of_ne_nil n.whole.ne_nil
  have hdigits := List.all_eq_true.1 n.whole.all_digits
  obtain ⟨hi, hn, -, -, -, -⟩ := digit_no_word d (hdigits d (by rw [hd]; exact List.mem_cons_self))
  have hunsigned : unsigned = d :: (digits ++ (fractionOf n.fraction ++
      (n.exponent.elim [] Exponent.render ++ tail))) := by
    show n.whole.bytes ++ _ = _
    rw [hd, List.cons_append]
  have hsecond : ∀ b ∈ (digits ++ (fractionOf n.fraction ++
      (n.exponent.elim [] Exponent.render ++ tail))).head?, b ≠ 0x78 ∧ b ≠ 0x58 := by
    intro b hb
    cases digits with
    | nil =>
      obtain ⟨-, hlower, hupper⟩ := (h.behind n.fraction n.exponent).1 b hb
      exact ⟨hlower, hupper⟩
    | cons d2 digits =>
      cases hb
      obtain ⟨-, -, hlower, hupper, -, -⟩ := digit_no_word b (hdigits b (by rw [hd]; simp))
      exact ⟨hlower, hupper⟩
  have hword : wordSubject unsigned = [] := by
    rw [hunsigned]
    exact wordSubject_of_head ⟨hi, hn⟩
  have hhex : hexSubject unsigned = [] := by
    rw [hunsigned]
    exact hexSubject_of_second ⟨fun heq => (hsecond 0x78 heq).1 rfl,
      fun heq => (hsecond 0x58 heq).2 rfl⟩
  have hmantissa := mantissaSubject_render n h
  have hne : n.whole.bytes ++ fractionOf n.fraction ++ n.exponent.elim [] Exponent.render ≠ [] := by
    rw [hd]
    exact List.cons_ne_nil _ _
  rw [hword, hhex, hmantissa, firstOf]
  simp only [List.find?_cons, ne_eq, not_true_eq_false, decide_false, hne, not_false_eq_true,
    decide_true]

/-- **A JSON number is taken whole.** -/
theorem subject_number {space tail : Bytes} (hspace : ∀ b ∈ space, isSpace b = true)
    (n : NumberText) (h : Ends tail) : subject (space ++ (n.render ++ tail)) = some n.render := by
  obtain ⟨c, more, hrender, hc⟩ := n.render_head
  have hhead : ∀ b ∈ (n.render ++ tail).head?, isSpace b = false := by
    intro b hb
    rw [hrender] at hb
    cases hb
    exact numberHead_not_isSpace c hc
  have htrimmed := (takeWhile_digits hspace hhead).2
  obtain ⟨d, digits, hd⟩ := List.exists_cons_of_ne_nil n.whole.ne_nil
  obtain ⟨-, -, -, -, hplus, hminus⟩ := digit_no_word d
    (List.all_eq_true.1 n.whole.all_digits d (by rw [hd]; exact List.mem_cons_self))
  have hsplit : n.render ++ tail = (if n.negative then [0x2D] else []) ++ (n.whole.bytes ++
      (fractionOf n.fraction ++ (n.exponent.elim [] Exponent.render ++ tail))) := by
    rw [NumberText.render]
    simp only [List.append_assoc]
    rfl
  have hsign : (n.render ++ tail).take (if (n.render ++ tail).head? = some 0x2B ∨
      (n.render ++ tail).head? = some 0x2D then 1 else 0) =
        if n.negative then [0x2D] else [] := by
    rw [hsplit]
    cases n.negative with
    | true =>
      have hhead : (([0x2D] : Bytes) ++ (n.whole.bytes ++ (fractionOf n.fraction ++
          (n.exponent.elim [] Exponent.render ++ tail)))).head? = some 0x2D := rfl
      rw [if_pos rfl, if_pos (.inr hhead)]
      rfl
    | false =>
      have hno : ¬(some d = some 0x2B ∨ some d = some (0x2D : UInt8)) := by
        rintro (heq | heq)
        · exact hplus (Option.some.inj heq)
        · exact hminus (Option.some.inj heq)
      rw [if_neg Bool.false_ne_true, List.nil_append, hd, List.cons_append, List.head?_cons,
        if_neg hno, List.take_zero]
  rw [subject, htrimmed]
  rw [hsign, hsplit, List.drop_left, firstOf_render n h, Option.map_some, NumberText.render]
  simp only [List.append_assoc]
  rfl

/-! ### Other values of JSON -/

theorem firstOf_nil : firstOf [[], [], []] = none := by decide

/-- From a text that begins with no number nothing is taken. -/
theorem subject_none {space rest : Bytes} {c : UInt8} (hspace : ∀ b ∈ space, isSpace b = true)
    (hnospace : isSpace c = false) (hsign : c ≠ 0x2B ∧ c ≠ 0x2D) (hdigit : isDigit c = false)
    (hpoint : c ≠ 0x2E) (hword : wordSubject (c :: rest) = []) :
    subject (space ++ c :: rest) = none := by
  have htrimmed := (@takeWhile_digits _ _ (c :: rest) hspace
    fun b hb => (by cases hb; exact hnospace)).2
  have hno : ¬((c :: rest).head? = some 0x2B ∨ (c :: rest).head? = some 0x2D) := by
    rintro (heq | heq)
    · exact hsign.1 (Option.some.inj heq)
    · exact hsign.2 (Option.some.inj heq)
  have hmantissa : mantissaSubject isDigit (ascii "eE") (c :: rest) = [] := by
    have hc : ¬isDigit c = true := by
      rw [hdigit]
      exact Bool.false_ne_true
    have hhead : (c :: rest).head? ≠ some 0x2E := fun heq => hpoint (Option.some.inj heq)
    rw [mantissaSubject, List.takeWhile_cons_of_neg hc, List.dropWhile_cons_of_neg hc]
    rw [if_neg hhead]
    rfl
  have hhex : hexSubject (c :: rest) = [] := by
    have hne : ¬((c :: rest).take 2 = ascii "0x" ∨ (c :: rest).take 2 = ascii "0X") := by
      have hzero : c ≠ 0x30 := by
        rintro rfl
        cases hdigit
      rintro (heq | heq)
      · exact hzero (List.cons.inj heq).1
      · exact hzero (List.cons.inj heq).1
    rw [hexSubject, if_neg hne]
  rw [subject, htrimmed]
  rw [if_neg hno, List.take_zero, List.length_nil, List.drop_zero, hword, hhex, hmantissa,
    firstOf_nil]
  rfl

/-- **From another value nothing is taken.** -/
theorem subject_other {space : Bytes} (hspace : ∀ b ∈ space, isSpace b = true) {v : Value}
    (hv : ∀ n, v ≠ .number n) (tail : Bytes) : subject (space ++ (v.render ++ tail)) = none := by
  have hfirst : ∀ {c : UInt8} (rest : Bytes), isSpace c = false → c ≠ 0x2B → c ≠ 0x2D →
      isDigit c = false → c ≠ 0x2E → toLower c ≠ 0x69 → toLower c ≠ 0x6E →
        subject (space ++ c :: rest) = none := by
    intro c rest hnospace hplus hminus hdigit hpoint hi hn
    exact subject_none hspace hnospace ⟨hplus, hminus⟩ hdigit hpoint (wordSubject_of_head ⟨hi, hn⟩)
  cases v with
  | null => exact subject_none hspace rfl (by decide) rfl (by decide) rfl
  | bool b =>
    cases b with
    | true => exact hfirst _ rfl (by decide) (by decide) rfl (by decide) (by decide) (by decide)
    | false => exact hfirst _ rfl (by decide) (by decide) rfl (by decide) (by decide) (by decide)
  | number n => exact absurd rfl (hv n)
  | string s => exact hfirst _ rfl (by decide) (by decide) rfl (by decide) (by decide) (by decide)
  | array gap elements =>
    exact hfirst _ rfl (by decide) (by decide) rfl (by decide) (by decide) (by decide)
  | object gap members =>
    exact hfirst _ rfl (by decide) (by decide) rfl (by decide) (by decide) (by decide)

end SecondDisplay.Strtod
