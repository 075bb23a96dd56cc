import SecondDisplay.Net.ProtocolScan
import Mathlib.Data.List.TakeWhile

/-!
# The number grammar of the field scanner

`FindNumberField` goes over a number by hand: sign, integer part, fraction, exponent, and then
the byte that has to follow.  `numberEnd_eq_some_iff` says that it succeeds exactly where a JSON
number stands in front of a comma or a closing brace, and that it ends where the number ends.
`FindNumberToken` looks for the end a second time, by the bytes that a number may contain;
`skipWhile_isNumberByte` says that both ends are the same.
-/

namespace SecondDisplay.Protocol

open SecondDisplay.JsonText

/-! ### The value starts inside the text -/

theorem skipWhile_le (p : UInt8 → Bool) {json : Bytes} {pos : Nat} (h : pos ≤ json.length) :
    skipWhile p json pos ≤ json.length := by
  fun_induction skipWhile p json pos with
  | case1 pos hpos hp ih => exact ih hpos
  | case2 pos hpos hp => exact h
  | case3 pos hpos => exact h

theorem valueAfterName_le {json : Bytes} {stringEnd start : Nat}
    (h : valueAfterName json stringEnd = some start) : start ≤ json.length := by
  rw [valueAfterName] at h
  split at h
  · rename_i hcolon
    have hinside := (List.getElem?_eq_some_iff.1 hcolon).1
    rw [← Option.some.inj h]
    exact skipWhile_le isSpace hinside
  · cases h

theorem findFrom_le {json key : Bytes} {root depth pos start : Nat}
    (h : findFrom json key root depth pos = some start) : start ≤ json.length := by
  fun_induction findFrom json key root depth pos with
  | case1 depth pos hpos hopen ih => exact ih h
  | case2 depth pos hpos hopen hclose ih => exact ih h
  | case3 depth pos hpos hopen hclose hquote ih => exact ih h
  | case4 depth pos hpos hopen hclose hquote hend => cases h
  | case5 depth pos hpos hopen hclose hquote stringEnd keyHasEscape hend hname =>
    exact valueAfterName_le h
  | case6 depth pos hpos hopen hclose hquote stringEnd keyHasEscape hend hname ih => exact ih h
  | case7 depth pos hpos => cases h

theorem findValueStart_le {json key : Bytes} {start : Nat}
    (h : findValueStart json key = some start) : start ≤ json.length := by
  rw [findValueStart] at h
  split at h
  · exact findFrom_le h
  · cases h

/-! ### The parts of the grammar -/

/-- The end of the integer part that begins at `whole`. -/
def wholeEnd (json : Bytes) (whole : Nat) : Option Nat :=
  match json[whole]? with
  | none => none
  | some c =>
    if c = 0x30 then
      if json[whole + 1]?.any isDigit then none else some (whole + 1)
    else if 0x31 ≤ c ∧ c ≤ 0x39 then some (skipWhile isDigit json (whole + 1))
    else none

/-- The end of the fraction that may begin at `pos`. -/
def fractionEnd (json : Bytes) (pos : Nat) : Option Nat :=
  if json[pos]? = some 0x2E then
    let stop := skipWhile isDigit json (pos + 1)
    if stop = pos + 1 then none else some stop
  else some pos

/-- The end of the exponent that may begin at `pos`. -/
def exponentEnd (json : Bytes) (pos : Nat) : Option Nat :=
  if json[pos]? = some 0x65 ∨ json[pos]? = some 0x45 then
    let digits :=
      if json[pos + 1]? = some 0x2B ∨ json[pos + 1]? = some 0x2D then pos + 2 else pos + 1
    let stop := skipWhile isDigit json digits
    if stop = digits then none else some stop
  else some pos

/-- The end of a number, if a comma or a closing brace follows. -/
def delimitedEnd (json : Bytes) (stop : Nat) : Option Nat :=
  let delimiter := skipWhile isSpace json stop
  if json[delimiter]? = some 0x2C ∨ json[delimiter]? = some 0x7D then some stop else none

theorem ite_bind {α β : Type} {c : Prop} [Decidable c] (x y : Option α) (f : α → Option β) :
    (if c then x else y).bind f = if c then x.bind f else y.bind f := by
  split <;> rfl

theorem numberEnd_eq (json : Bytes) (start : Nat) :
    numberEnd json start =
      (wholeEnd json (if json[start]? = some 0x2D then start + 1 else start)).bind fun whole =>
        (fractionEnd json whole).bind fun fraction =>
          (exponentEnd json fraction).bind fun stop => delimitedEnd json stop := by
  unfold numberEnd wholeEnd
  dsimp only
  cases json[if json[start]? = some 0x2D then start + 1 else start]? with
  | none => rfl
  | some c =>
    simp only [ite_bind, fractionEnd, exponentEnd]
    rfl

/-! ### Each part at a place in the text -/

variable {json before rest : Bytes} {stop : Nat}

/-- The first byte of what is left. -/
theorem getElem?_rest (h : json = before ++ rest) : json[before.length]? = rest.head? := by
  rw [h, List.getElem?_append_right (Nat.le_refl _), Nat.sub_self, List.head?_eq_getElem?]

theorem stops_dropWhile (p : UInt8 → Bool) (bytes : Bytes) : Stops p (bytes.dropWhile p) := by
  cases hdrop : bytes.dropWhile p with
  | nil => trivial
  | cons c tail =>
    have hc := List.head?_dropWhile_not p bytes
    rw [hdrop] at hc
    exact hc

/-- A skipping loop takes all that `takeWhile` takes. -/
theorem skipWhile_eq (p : UInt8 → Bool) (h : json = before ++ rest) :
    skipWhile p json before.length = (before ++ rest.takeWhile p).length := by
  have hsplit : json = before ++ (rest.takeWhile p ++ rest.dropWhile p) := by
    rw [List.takeWhile_append_dropWhile, h]
  exact skipWhile_over hsplit (fun b hb => List.mem_takeWhile_imp hb) (stops_dropWhile p rest)

/-- Digits that are followed by no further digit. -/
structure DigitsAt (bytes rest : Bytes) : Prop where
  digits : ∀ b ∈ bytes, isDigit b = true
  stops : Stops isDigit rest

/-- A run of digits is all that `takeWhile` takes. -/
theorem DigitsAt.takeWhile {bytes tail : Bytes} (h : DigitsAt bytes tail) :
    (bytes ++ tail).takeWhile isDigit = bytes := by
  rw [List.takeWhile_append_of_pos h.digits]
  cases tail with
  | nil => rw [List.takeWhile_nil, List.append_nil]
  | cons c tail =>
    rw [List.takeWhile_cons_of_neg (by rw [show isDigit c = false from h.stops]; simp),
      List.append_nil]

theorem digitsAt_takeWhile (bytes : Bytes) :
    DigitsAt (bytes.takeWhile isDigit) (bytes.dropWhile isDigit) :=
  ⟨fun _ hb => List.mem_takeWhile_imp hb, stops_dropWhile isDigit bytes⟩

/-- What the integer part of a number looks like. -/
structure IsWhole (bytes : Bytes) : Prop where
  ne_nil : bytes ≠ []
  digits : ∀ b ∈ bytes, isDigit b = true
  no_leading_zero : bytes.head? = some 0x30 → bytes.length = 1

theorem isDigit_cases : ∀ c, isDigit c = true ↔ c = 0x30 ∨ (0x31 ≤ c ∧ c ≤ 0x39) := by
  decide +kernel

theorem not_zero_of_ge : ∀ c : UInt8, 0x31 ≤ c ∧ c ≤ 0x39 → c ≠ 0x30 := by
  intro c h hzero
  rw [hzero] at h
  exact absurd h.1 (by decide)

/-- The integer part at a place. -/
theorem wholeEnd_eq_some_iff (h : json = before ++ rest) :
    wholeEnd json before.length = some stop ↔
      ∃ bytes tail, rest = bytes ++ tail ∧ IsWhole bytes ∧ Stops isDigit tail ∧
        stop = (before ++ bytes).length := by
  rw [wholeEnd, getElem?_rest h]
  cases rest with
  | nil =>
    constructor
    · intro hnone
      cases hnone
    · rintro ⟨bytes, tail, hrest, hwhole, -, -⟩
      exact absurd (List.append_eq_nil_iff.1 hrest.symm).1 hwhole.ne_nil
  | cons c rest =>
    have hnext : json = (before ++ [c]) ++ rest := by rw [h]; simp
    have hread : json[before.length + 1]? = rest.head? := by
      rw [length_snoc before c]
      exact getElem?_rest hnext
    simp only [List.head?_cons, hread]
    constructor
    · intro hend
      split at hend
      · rename_i hzero
        split at hend
        · cases hend
        · rename_i hnodigit
          cases hend
          refine ⟨[c], rest, rfl, ⟨by simp, ?_, fun _ => rfl⟩, ?_, length_snoc before c⟩
          · intro b hb
            rw [List.mem_singleton.1 hb, hzero]
            rfl
          · cases rest with
            | nil => trivial
            | cons d tail =>
              show isDigit d = false
              simpa using hnodigit
      · split at hend
        · rename_i hnonzero hrange
          rw [length_snoc before c, skipWhile_eq isDigit hnext, Option.some.injEq] at hend
          refine ⟨c :: rest.takeWhile isDigit, rest.dropWhile isDigit, ?_, ⟨by simp, ?_, ?_⟩,
            stops_dropWhile isDigit rest, ?_⟩
          · rw [List.cons_append, List.takeWhile_append_dropWhile]
          · intro b hb
            obtain rfl | hb := List.mem_cons.1 hb
            · exact (isDigit_cases b).2 (.inr hrange)
            · exact List.mem_takeWhile_imp hb
          · intro hhead
            exact absurd (Option.some.inj hhead) hnonzero
          · rw [← hend]
            simp
        · cases hend
    · rintro ⟨bytes, tail, hrest, hwhole, hstop, rfl⟩
      obtain ⟨d, digits, rfl⟩ := List.exists_cons_of_ne_nil hwhole.ne_nil
      rw [List.cons_append, List.cons.injEq] at hrest
      obtain ⟨rfl, rfl⟩ := hrest
      have hdigits : DigitsAt digits tail :=
        ⟨fun b hb => hwhole.digits b (List.mem_cons_of_mem c hb), hstop⟩
      obtain hzero | hrange := (isDigit_cases c).1 (hwhole.digits c List.mem_cons_self)
      · have hnil : digits = [] := by
          have hlength := hwhole.no_leading_zero (by rw [hzero]; rfl)
          exact List.length_eq_zero_iff.1 (Nat.succ.inj hlength)
        subst hnil
        have hnodigit : ([] ++ tail : Bytes).head?.any isDigit = false := by
          cases tail with
          | nil => rfl
          | cons d tail => exact hstop
        rw [if_pos hzero, hnodigit, if_neg (by simp), length_snoc before c]
      · rw [if_neg (not_zero_of_ge c hrange), if_pos hrange, length_snoc before c,
          skipWhile_eq isDigit hnext, hdigits.takeWhile, List.append_assoc, List.singleton_append]

/-- The digits of a run that is not empty. -/
def digitsOf (bytes : Bytes) (hne : bytes ≠ []) (hdigits : ∀ b ∈ bytes, isDigit b = true) :
    Digits := ⟨bytes, hne, List.all_eq_true.2 hdigits⟩

/-- The digits that the loop finds behind `before`. -/
theorem skipWhile_isDigit (h : json = before ++ rest) :
    (skipWhile isDigit json before.length = before.length ∧ rest.takeWhile isDigit = []) ∨
      ∃ digits : Digits, ∃ tail, rest = digits.bytes ++ tail ∧ Stops isDigit tail ∧
        skipWhile isDigit json before.length = (before ++ digits.bytes).length ∧
        skipWhile isDigit json before.length ≠ before.length := by
  have hloop := skipWhile_eq isDigit h
  by_cases hne : rest.takeWhile isDigit = []
  · rw [hne, List.append_nil] at hloop
    exact .inl ⟨hloop, hne⟩
  · have hpos := List.length_pos_iff.2 hne
    refine .inr ⟨digitsOf (rest.takeWhile isDigit) hne (digitsAt_takeWhile rest).digits,
      rest.dropWhile isDigit, List.takeWhile_append_dropWhile.symm, stops_dropWhile isDigit rest,
      hloop, ?_⟩
    rw [hloop, List.length_append]
    omega

/-- The loop goes over digits that are there. -/
theorem skipWhile_digits (h : json = before ++ rest) {digits : Digits} {tail : Bytes}
    (hrest : rest = digits.bytes ++ tail) (hstop : Stops isDigit tail) :
    skipWhile isDigit json before.length = (before ++ digits.bytes).length ∧
      (before ++ digits.bytes).length ≠ before.length := by
  have hpos := List.length_pos_iff.2 digits.ne_nil
  constructor
  · exact skipWhile_over (h.trans (by rw [hrest])) (List.all_eq_true.1 digits.all_digits) hstop
  · rw [List.length_append]
    omega

/-- The bytes of a fraction that may be missing. -/
def fractionBytes (fraction : Option Digits) : Bytes :=
  fraction.elim [] fun digits => 0x2E :: digits.bytes

/-- A fraction that the loop takes is one. -/
theorem fractionEnd_some (h : json = before ++ rest) (hrest : Stops isDigit rest)
    (hend : fractionEnd json before.length = some stop) :
    ∃ fraction tail, rest = fractionBytes fraction ++ tail ∧ Stops isDigit tail ∧
      stop = (before ++ fractionBytes fraction).length := by
  rw [fractionEnd, getElem?_rest h] at hend
  split at hend
  · rename_i hpoint
    obtain ⟨after, rfl⟩ := List.head?_eq_some_iff.1 hpoint
    have hnext : json = (before ++ [0x2E]) ++ after := by rw [h]; simp
    rw [length_snoc before 0x2E] at hend
    dsimp only at hend
    obtain ⟨hloop, -⟩ | ⟨digits, tail, hafter, hstop, hloop, hmoved⟩ := skipWhile_isDigit hnext
    · rw [if_pos hloop] at hend
      cases hend
    · rw [if_neg hmoved, Option.some.injEq, hloop] at hend
      refine ⟨some digits, tail, by rw [hafter]; rfl, hstop, ?_⟩
      rw [← hend]
      simp [fractionBytes]
  · cases hend
    exact ⟨none, rest, rfl, hrest, by rw [fractionBytes, Option.elim_none, List.append_nil]⟩

/-- A fraction that is there is taken. -/
theorem fractionEnd_of (fraction : Option Digits) {tail : Bytes}
    (h : json = before ++ (fractionBytes fraction ++ tail)) (hstop : Stops isDigit tail)
    (hpoint : tail.head? ≠ some 0x2E) :
    fractionEnd json before.length = some (before ++ fractionBytes fraction).length := by
  rw [fractionEnd, getElem?_rest h]
  cases fraction with
  | none =>
    rw [fractionBytes, Option.elim_none, List.nil_append, if_neg hpoint, List.append_nil]
  | some digits =>
    have hnext : json = (before ++ [0x2E]) ++ (digits.bytes ++ tail) := by
      rw [h]; simp [fractionBytes]
    obtain ⟨hloop, hmoved⟩ := skipWhile_digits hnext rfl hstop
    have hhead : (fractionBytes (some digits) ++ tail).head? = some 0x2E := rfl
    rw [if_pos hhead, length_snoc before 0x2E]
    dsimp only
    rw [hloop, if_neg hmoved]
    simp [fractionBytes]

/-- The bytes of an exponent that may be missing. -/
def exponentBytes (exponent : Option Exponent) : Bytes := exponent.elim [] Exponent.render

/-- The sign that an exponent may have, and where its digits begin. -/
theorem exponentSign (h : json = before ++ rest) :
    ∃ sign : Option UInt8, ∃ after, (∀ b ∈ sign, b = 0x2B ∨ b = 0x2D) ∧
      rest = sign.toList ++ after ∧
      (if json[before.length]? = some 0x2B ∨ json[before.length]? = some 0x2D then
        before.length + 1 else before.length) = (before ++ sign.toList).length := by
  rw [getElem?_rest h]
  by_cases hsign : rest.head? = some 0x2B ∨ rest.head? = some 0x2D
  · have hhead : ∃ c, rest.head? = some c ∧ (c = 0x2B ∨ c = 0x2D) := by
      obtain hplus | hminus := hsign
      · exact ⟨0x2B, hplus, .inl rfl⟩
      · exact ⟨0x2D, hminus, .inr rfl⟩
    obtain ⟨c, hc, hcases⟩ := hhead
    obtain ⟨after, rfl⟩ := List.head?_eq_some_iff.1 hc
    refine ⟨some c, after, fun b hb => ?_, rfl, ?_⟩
    · cases hb
      exact hcases
    · rw [if_pos hsign]
      exact length_snoc before c
  · exact ⟨none, rest, fun b hb => (by cases hb), rfl, by
      rw [if_neg hsign, Option.toList_none, List.append_nil]⟩

/-- An exponent that the loop takes is one. -/
theorem exponentEnd_some (h : json = before ++ rest)
    (hend : exponentEnd json before.length = some stop) :
    ∃ exponent tail, rest = exponentBytes exponent ++ tail ∧
      stop = (before ++ exponentBytes exponent).length := by
  rw [exponentEnd, getElem?_rest h] at hend
  split at hend
  · rename_i hletter
    have hhead : ∃ c, rest.head? = some c ∧ (c = 0x65 ∨ c = 0x45) := by
      obtain hlower | hupper := hletter
      · exact ⟨0x65, hlower, .inl rfl⟩
      · exact ⟨0x45, hupper, .inr rfl⟩
    obtain ⟨c, hc, hcases⟩ := hhead
    obtain ⟨behind, rfl⟩ := List.head?_eq_some_iff.1 hc
    have hnext : json = (before ++ [c]) ++ behind := by rw [h]; simp
    obtain ⟨sign, after, hsign, rfl, hdigits⟩ := exponentSign hnext
    have hafter : json = (before ++ [c] ++ sign.toList) ++ after := by rw [hnext]; simp
    rw [← length_snoc before c] at hdigits
    dsimp only at hend
    rw [show before.length + 2 = before.length + 1 + 1 from rfl, hdigits] at hend
    obtain ⟨hloop, -⟩ | ⟨digits, tail, htail, -, hloop, hmoved⟩ := skipWhile_isDigit hafter
    · rw [if_pos hloop] at hend
      cases hend
    · rw [if_neg hmoved, Option.some.injEq, hloop] at hend
      refine ⟨some ⟨c, hcases, sign, hsign, digits⟩, tail, ?_, ?_⟩
      · rw [htail]
        simp [exponentBytes, Exponent.render]
      · rw [← hend]
        simp [exponentBytes, Exponent.render]
  · cases hend
    exact ⟨none, rest, rfl, by rw [exponentBytes, Option.elim_none, List.append_nil]⟩

theorem digit_no_sign : ∀ b, isDigit b = true → ¬(b = 0x2B ∨ b = 0x2D) :=
  fun _ h => not_or.2 ⟨ne_of_class h rfl, ne_of_class h rfl⟩

/-- An exponent that is there is taken. -/
theorem exponentEnd_of (exponent : Option Exponent) {tail : Bytes}
    (h : json = before ++ (exponentBytes exponent ++ tail)) (hstop : Stops isDigit tail)
    (hletter : ¬(tail.head? = some 0x65 ∨ tail.head? = some 0x45)) :
    exponentEnd json before.length = some (before ++ exponentBytes exponent).length := by
  rw [exponentEnd, getElem?_rest h]
  cases exponent with
  | none =>
    rw [exponentBytes, Option.elim_none, List.nil_append, if_neg hletter, List.append_nil]
  | some e =>
    have hhead : (exponentBytes (some e) ++ tail).head? = some 0x65 ∨
        (exponentBytes (some e) ++ tail).head? = some 0x45 := by
      show some e.letter = some 0x65 ∨ some e.letter = some 0x45
      obtain hlower | hupper := e.letter_ok
      · exact .inl (congrArg some hlower)
      · exact .inr (congrArg some hupper)
    have hnext : json = (before ++ [e.letter]) ++ (e.sign.toList ++ (e.digits.bytes ++ tail)) := by
      rw [h]; simp [exponentBytes, Exponent.render]
    have hafter : json = (before ++ [e.letter] ++ e.sign.toList) ++ (e.digits.bytes ++ tail) := by
      rw [hnext]; simp
    have hdigits : (if json[before.length + 1]? = some 0x2B ∨ json[before.length + 1]? = some 0x2D
        then before.length + 2 else before.length + 1) =
        (before ++ [e.letter] ++ e.sign.toList).length := by
      rw [length_snoc before e.letter, getElem?_rest hnext]
      cases hsign : e.sign with
      | none =>
        obtain ⟨d, digits, hd⟩ := List.exists_cons_of_ne_nil e.digits.ne_nil
        have hdigit : isDigit d = true :=
          List.all_eq_true.1 e.digits.all_digits d (by rw [hd]; exact List.mem_cons_self)
        have hno := digit_no_sign d hdigit
        rw [hd, if_neg (by simpa using hno), Option.toList_none, List.append_nil]
      | some c =>
        have hc := e.sign_ok c (by rw [hsign]; rfl)
        rw [if_pos (by simpa using hc)]
        simp
    obtain ⟨hloop, hmoved⟩ := skipWhile_digits hafter rfl hstop
    rw [if_pos hhead]
    dsimp only
    rw [hdigits, hloop, if_neg hmoved]
    simp [exponentBytes, Exponent.render]

/-! ### What has to follow -/

/-- Whitespace and then a comma or a closing brace. -/
def Delimited (rest : Bytes) : Prop :=
  ∃ ws c tail, rest = ws ++ c :: tail ∧ (∀ b ∈ ws, isSpace b = true) ∧ (c = 0x2C ∨ c = 0x7D)

theorem delimitedEnd_eq_some_iff (h : json = before ++ rest) :
    delimitedEnd json before.length = some stop ↔ stop = before.length ∧ Delimited rest := by
  have hsplit : json = (before ++ rest.takeWhile isSpace) ++ rest.dropWhile isSpace := by
    rw [List.append_assoc, List.takeWhile_append_dropWhile, h]
  rw [delimitedEnd, skipWhile_eq isSpace h, getElem?_rest hsplit]
  constructor
  · intro hend
    split at hend
    · rename_i hmark
      have hhead : ∃ c, (rest.dropWhile isSpace).head? = some c ∧ (c = 0x2C ∨ c = 0x7D) := by
        obtain hcomma | hbrace := hmark
        · exact ⟨0x2C, hcomma, .inl rfl⟩
        · exact ⟨0x7D, hbrace, .inr rfl⟩
      obtain ⟨c, hc, hcases⟩ := hhead
      obtain ⟨tail, htail⟩ := List.head?_eq_some_iff.1 hc
      refine ⟨(Option.some.inj hend).symm, rest.takeWhile isSpace, c, tail, ?_,
        fun b hb => List.mem_takeWhile_imp hb, hcases⟩
      rw [← htail, List.takeWhile_append_dropWhile]
    · cases hend
  · rintro ⟨rfl, ws, c, tail, rfl, hws, hc⟩
    have hstop : isSpace c = false := by
      obtain rfl | rfl := hc <;> rfl
    have hdrop : (ws ++ c :: tail).dropWhile isSpace = c :: tail := by
      rw [List.dropWhile_append_of_pos hws, List.dropWhile_cons_of_neg (by rw [hstop]; simp)]
    rw [hdrop]
    refine if_pos ?_
    show some c = some 0x2C ∨ some c = some 0x7D
    obtain rfl | rfl := hc
    · exact .inl rfl
    · exact .inr rfl

/-- A byte that may follow a number in a delimited place. -/
def isFollower (b : UInt8) : Bool := isSpace b || b == 0x2C || b == 0x7D

theorem Delimited.head {rest : Bytes} (h : Delimited rest) :
    ∃ c tail, rest = c :: tail ∧ isFollower c = true := by
  obtain ⟨ws, c, tail, rfl, hws, hc⟩ := h
  cases ws with
  | nil =>
    refine ⟨c, tail, rfl, ?_⟩
    obtain rfl | rfl := hc <;> rfl
  | cons w ws =>
    refine ⟨w, ws ++ c :: tail, rfl, ?_⟩
    rw [isFollower, hws w List.mem_cons_self]
    rfl

theorem isFollower_not_isNumberByte : ∀ b, isFollower b = true → isNumberByte b = false := by
  decide +kernel

theorem isNumberByte_of_isDigit : ∀ b, isDigit b = true → isNumberByte b = true := by
  decide +kernel

/-- No byte of a number stands where a number is delimited. -/
theorem Delimited.stops {rest : Bytes} (h : Delimited rest) : Stops isNumberByte rest := by
  obtain ⟨c, tail, rfl, hc⟩ := h.head
  exact isFollower_not_isNumberByte c hc

theorem Delimited.stops_digit {rest : Bytes} (h : Delimited rest) : Stops isDigit rest := by
  obtain ⟨c, tail, rfl, hc⟩ := h.head
  show isDigit c = false
  by_contra hdigit
  rw [Bool.not_eq_false] at hdigit
  have hno := isFollower_not_isNumberByte c hc
  rw [isNumberByte_of_isDigit c hdigit] at hno
  cases hno

theorem Delimited.head_ne {rest : Bytes} (h : Delimited rest) {b : UInt8}
    (hb : isNumberByte b = true) : rest.head? ≠ some b := by
  obtain ⟨c, tail, rfl, hc⟩ := h.head
  intro heq
  have hno := isFollower_not_isNumberByte c hc
  rw [Option.some.inj heq, hb] at hno
  cases hno

/-! ### The whole number -/

/-- The sign of a number. -/
def signBytes (negative : Bool) : Bytes := if negative then [0x2D] else []

theorem NumberText.render_eq (n : NumberText) :
    n.render = signBytes n.negative ++
      (n.whole.bytes ++ (fractionBytes n.fraction ++ exponentBytes n.exponent)) := by
  rw [NumberText.render, List.append_assoc, List.append_assoc]
  rfl

theorem isWhole_of (n : NumberText) : IsWhole n.whole.bytes :=
  ⟨n.whole.ne_nil, List.all_eq_true.1 n.whole.all_digits, n.no_leading_zero⟩

theorem isDigit_ne_minus : ∀ b, isDigit b = true → b ≠ 0x2D :=
  fun _ h => ne_of_class h rfl

/-- The sign that a number may have, and where its integer part begins. -/
theorem numberSign (before rest : Bytes) :
    ∃ negative unsigned, rest = signBytes negative ++ unsigned ∧
      (if rest.head? = some 0x2D then before.length + 1 else before.length) =
        (before ++ signBytes negative).length := by
  by_cases hminus : rest.head? = some 0x2D
  · obtain ⟨unsigned, rfl⟩ := List.head?_eq_some_iff.1 hminus
    refine ⟨true, unsigned, rfl, ?_⟩
    rw [if_pos hminus]
    exact length_snoc before 0x2D
  · refine ⟨false, rest, rfl, ?_⟩
    rw [if_neg hminus, signBytes, if_neg Bool.false_ne_true, List.append_nil]

/-- The integer part begins behind the sign that is there. -/
theorem numberSign_of (before : Bytes) (negative : Bool) {d : UInt8} (hdigit : isDigit d = true)
    (rest : Bytes) :
    (if (signBytes negative ++ d :: rest).head? = some 0x2D then before.length + 1
      else before.length) = (before ++ signBytes negative).length := by
  cases negative with
  | true =>
    have hminus : (signBytes true ++ d :: rest).head? = some 0x2D := rfl
    rw [if_pos hminus]
    exact length_snoc before 0x2D
  | false =>
    have hne : (signBytes false ++ d :: rest).head? ≠ some 0x2D :=
      fun heq => isDigit_ne_minus d hdigit (Option.some.inj heq)
    rw [if_neg hne, signBytes, if_neg Bool.false_ne_true, List.append_nil]

/-- What the grammar takes is a number. -/
theorem numberEnd_some (h : json = before ++ rest)
    (hend : numberEnd json before.length = some stop) :
    ∃ (n : NumberText) (tail : Bytes), rest = n.render ++ tail ∧ Delimited tail ∧
      stop = (before ++ n.render).length := by
  rw [numberEnd_eq, getElem?_rest h] at hend
  obtain ⟨whole, hwhole, hend⟩ := Option.bind_eq_some_iff.1 hend
  obtain ⟨fraction, hfraction, hend⟩ := Option.bind_eq_some_iff.1 hend
  obtain ⟨exponent, hexponent, hend⟩ := Option.bind_eq_some_iff.1 hend
  -- the sign, then the three parts, each behind what has been read
  obtain ⟨negative, unsigned, rfl, hstart⟩ := numberSign before rest
  rw [hstart] at hwhole
  have hjson : json = (before ++ signBytes negative) ++ unsigned := by
    rw [h, List.append_assoc]
  obtain ⟨w, rest1, rfl, hw, hstop1, rfl⟩ := (wholeEnd_eq_some_iff hjson).1 hwhole
  have hjson1 : json = (before ++ signBytes negative ++ w) ++ rest1 := by
    rw [hjson, List.append_assoc _ w]
  obtain ⟨f, rest2, rfl, hstop2, rfl⟩ := fractionEnd_some hjson1 hstop1 hfraction
  have hjson2 : json = (before ++ signBytes negative ++ w ++ fractionBytes f) ++ rest2 := by
    rw [hjson1, List.append_assoc _ (fractionBytes f)]
  obtain ⟨e, rest3, rfl, rfl⟩ := exponentEnd_some hjson2 hexponent
  have hjson3 : json = (before ++ signBytes negative ++ w ++ fractionBytes f ++
      exponentBytes e) ++ rest3 := by
    rw [hjson2, List.append_assoc _ (exponentBytes e)]
  obtain ⟨hstop, hdelimited⟩ := (delimitedEnd_eq_some_iff hjson3).1 hend
  let n : NumberText := ⟨negative, digitsOf w hw.ne_nil hw.digits, hw.no_leading_zero, f, e⟩
  have hrender : n.render = signBytes negative ++ (w ++ (fractionBytes f ++ exponentBytes e)) :=
    NumberText.render_eq n
  refine ⟨n, rest3, ?_, hdelimited, ?_⟩
  · rw [hrender]
    simp only [List.append_assoc]
  · rw [hstop, hrender]
    simp only [List.append_assoc]

/-- What may follow the integer part of a number, and what its fraction. -/
theorem Delimited.behindWhole {tail : Bytes} (h : Delimited tail) (fraction : Option Digits)
    (exponent : Option Exponent) :
    Stops isDigit (fractionBytes fraction ++ (exponentBytes exponent ++ tail)) ∧
      Stops isDigit (exponentBytes exponent ++ tail) ∧
      (exponentBytes exponent ++ tail).head? ≠ some 0x2E := by
  have hexponent : Stops isDigit (exponentBytes exponent ++ tail) ∧
      (exponentBytes exponent ++ tail).head? ≠ some 0x2E := by
    cases exponent with
    | none => exact ⟨h.stops_digit, h.head_ne rfl⟩
    | some e =>
      constructor
      · show isDigit e.letter = false
        obtain hletter | hletter := e.letter_ok <;> rw [hletter] <;> rfl
      · show some e.letter ≠ some 0x2E
        obtain hletter | hletter := e.letter_ok <;> rw [hletter] <;> decide
  refine ⟨?_, hexponent⟩
  cases fraction with
  | none => exact hexponent.1
  | some digits => rfl

/-- A delimited number is taken. -/
theorem numberEnd_of (n : NumberText) {tail : Bytes} (h : json = before ++ (n.render ++ tail))
    (hdelimited : Delimited tail) :
    numberEnd json before.length = some (before ++ n.render).length := by
  obtain ⟨hstop1, hstop2, hpoint⟩ := hdelimited.behindWhole n.fraction n.exponent
  have hletter : ¬(tail.head? = some 0x65 ∨ tail.head? = some 0x45) :=
    not_or.2 ⟨hdelimited.head_ne rfl, hdelimited.head_ne rfl⟩
  obtain ⟨d, digits, hd⟩ := List.exists_cons_of_ne_nil n.whole.ne_nil
  have hdigit : isDigit d = true :=
    List.all_eq_true.1 n.whole.all_digits d (by rw [hd]; exact List.mem_cons_self)
  have hsign := numberSign_of before n.negative hdigit
    (digits ++ (fractionBytes n.fraction ++ (exponentBytes n.exponent ++ tail)))
  rw [← List.cons_append, ← hd] at hsign
  rw [NumberText.render_eq] at h ⊢
  simp only [List.append_assoc] at h
  have hjson : json = (before ++ signBytes n.negative) ++ (n.whole.bytes ++
      (fractionBytes n.fraction ++ (exponentBytes n.exponent ++ tail))) := by
    rw [h, List.append_assoc]
  have hjson1 : json = (before ++ signBytes n.negative ++ n.whole.bytes) ++
      (fractionBytes n.fraction ++ (exponentBytes n.exponent ++ tail)) := by
    rw [hjson, List.append_assoc _ n.whole.bytes]
  have hjson2 : json = (before ++ signBytes n.negative ++ n.whole.bytes ++
      fractionBytes n.fraction) ++ (exponentBytes n.exponent ++ tail) := by
    rw [hjson1, List.append_assoc _ (fractionBytes n.fraction)]
  have hjson3 : json = (before ++ signBytes n.negative ++ n.whole.bytes ++
      fractionBytes n.fraction ++ exponentBytes n.exponent) ++ tail := by
    rw [hjson2, List.append_assoc _ (exponentBytes n.exponent)]
  rw [numberEnd_eq, getElem?_rest h, hsign, (wholeEnd_eq_some_iff hjson).2
      ⟨n.whole.bytes, _, rfl, isWhole_of n, hstop1, rfl⟩, Option.bind_some,
    fractionEnd_of n.fraction hjson1 hstop2 hpoint, Option.bind_some,
    exponentEnd_of n.exponent hjson2 hdelimited.stops_digit hletter, Option.bind_some,
    (delimitedEnd_eq_some_iff hjson3).2 ⟨rfl, hdelimited⟩]
  simp only [List.append_assoc]

/-- **The number grammar.**  `FindNumberField` takes what stands at a place as a number exactly
if a JSON number stands there in front of a comma or a closing brace, and it ends where that
number ends. -/
theorem numberEnd_eq_some_iff (h : json = before ++ rest) :
    numberEnd json before.length = some stop ↔
      ∃ (n : NumberText) (tail : Bytes), rest = n.render ++ tail ∧ Delimited tail ∧
        stop = (before ++ n.render).length := by
  constructor
  · exact numberEnd_some h
  · rintro ⟨n, tail, rfl, hdelimited, rfl⟩
    exact numberEnd_of n h hdelimited

/-! ### The end that `FindNumberToken` finds -/

theorem isNumberByte_exponent (e : Exponent) : ∀ b ∈ e.render, isNumberByte b = true := by
  intro b hb
  rw [Exponent.render, List.cons_append, List.mem_cons, List.mem_append] at hb
  obtain rfl | hb | hb := hb
  · obtain h | h := e.letter_ok <;> rw [h] <;> rfl
  · obtain rfl | rfl := e.sign_ok b (Option.mem_toList.1 hb) <;> rfl
  · exact isNumberByte_of_isDigit b (List.all_eq_true.1 e.digits.all_digits b hb)

/-- A number consists of bytes that the token may contain. -/
theorem isNumberByte_render (n : NumberText) : ∀ b ∈ n.render, isNumberByte b = true := by
  intro b hb
  rw [NumberText.render_eq] at hb
  simp only [List.mem_append] at hb
  obtain hb | hb | hb | hb := hb
  · rw [signBytes] at hb
    split at hb
    · rw [List.mem_singleton.1 hb]
      rfl
    · cases hb
  · exact isNumberByte_of_isDigit b (List.all_eq_true.1 n.whole.all_digits b hb)
  · cases hf : n.fraction with
    | none =>
      rw [hf] at hb
      cases hb
    | some digits =>
      rw [hf, fractionBytes, Option.elim_some, List.mem_cons] at hb
      obtain rfl | hb := hb
      · rfl
      · exact isNumberByte_of_isDigit b (List.all_eq_true.1 digits.all_digits b hb)
  · cases he : n.exponent with
    | none =>
      rw [he] at hb
      cases hb
    | some e =>
      rw [he] at hb
      exact isNumberByte_exponent e b hb

/-- **Both ends are the same.**  The loop over the bytes of a token ends where the grammar does. -/
theorem skipWhile_isNumberByte (n : NumberText) {tail : Bytes}
    (h : json = before ++ (n.render ++ tail)) (hdelimited : Delimited tail) :
    skipWhile isNumberByte json before.length = (before ++ n.render).length :=
  skipWhile_over h (isNumberByte_render n) hdelimited.stops

end SecondDisplay.Protocol
