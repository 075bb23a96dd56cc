import SecondDisplay.Library.Bytes
import Mathlib.Order.Basic
import Mathlib.Algebra.Order.Group.Nat

/-!
# The JSON parser of the configuration (`app/Config.cpp`)

`JsonParser` is a recursive descent over the text.  Here every function takes the text from
`pos_` on and returns what it parsed with the text that is left; `none` is `nullopt`.  The
recursion runs on a fuel which `Parse` sets to more than twice the length of the text: of two
calls below another at least one has consumed a byte, so it never runs out (`parseValue_fuel`).
-/

namespace SecondDisplay

/-- `Json`: an object is a map, sorted by key. -/
inductive Json where
  | null
  | bool (b : Bool)
  | number (n : Int64)
  | string (s : Bytes)
  | object (members : List (Bytes × Json))
  | array (items : List Json)

namespace Json

/-- `Json::Object`. -/
abbrev Object := List (Bytes × Json)

/-- `insert_or_assign`. -/
def insertOrAssign (key : Bytes) (value : Json) : Object → Object
  | [] => [(key, value)]
  | (k, v) :: rest =>
    if key = k then (k, value) :: rest
    else if key < k then (key, value) :: (k, v) :: rest
    else (k, v) :: insertOrAssign key value rest

/-- `Field`. -/
def field (object : Object) (key : Bytes) : Option Json := object.lookup key

theorem field_cons (key k : Bytes) (value : Json) (rest : Object) :
    field ((k, value) :: rest) key = if key = k then some value else field rest key := by
  rw [field, List.lookup_cons, beq_eq_decide]
  by_cases h : key = k
  · rw [decide_eq_true h, if_pos h]
  · rw [decide_eq_false h, if_neg h]; rfl

/-- What a member reads as after an assignment. -/
theorem field_insertOrAssign (key k : Bytes) (value : Json) (object : Object) :
    field (insertOrAssign k value object) key =
      if key = k then some value else field object key := by
  induction object with
  | nil => exact field_cons key k value []
  | cons entry rest ih =>
    obtain ⟨k', v'⟩ := entry
    rw [insertOrAssign]
    split
    · rename_i hsame
      rw [field_cons, field_cons, ← hsame]
      split <;> rfl
    · rename_i hne
      split
      · rw [field_cons]
      · rw [field_cons, field_cons, ih]
        by_cases h : key = k'
        · rw [if_pos h, if_pos h, if_neg fun hk => hne (hk.symm.trans h)]
        · rw [if_neg h, if_neg h]

/-- The object that assignments in order make. -/
def assignAll (members : List (Bytes × Json)) (object : Object) : Object :=
  members.foldl (fun object member => insertOrAssign member.1 member.2 object) object

/-- A key that is not assigned keeps its value. -/
theorem field_assignAll_of_notMem {key : Bytes} {members : List (Bytes × Json)} (object : Object)
    (h : key ∉ members.map Prod.fst) : field (assignAll members object) key = field object key := by
  induction members generalizing object with
  | nil => rfl
  | cons member members ih =>
    rw [List.map_cons, List.mem_cons, not_or] at h
    show field (assignAll members _) key = _
    rw [ih _ h.2, field_insertOrAssign, if_neg h.1]

/-- A key that is assigned once has the assigned value. -/
theorem field_assignAll_of_mem {key : Bytes} {value : Json} {members : List (Bytes × Json)}
    (object : Object) (hnodup : (members.map Prod.fst).Nodup) (h : (key, value) ∈ members) :
    field (assignAll members object) key = some value := by
  induction members generalizing object with
  | nil => cases h
  | cons member members ih =>
    rw [List.map_cons, List.nodup_cons] at hnodup
    show field (assignAll members _) key = _
    obtain rfl | h := List.mem_cons.1 h
    · rw [field_assignAll_of_notMem _ hnodup.1, field_insertOrAssign, if_pos rfl]
    · exact ih _ hnodup.2 h

end Json

/-! ### The parser -/

namespace JsonParser

/-- `Skip`. -/
def skip (text : Bytes) : Bytes := text.dropWhile isSpace

/-- `Consume`. -/
def consume (c : UInt8) (text : Bytes) : Option Bytes :=
  match skip text with
  | [] => none
  | d :: rest => if d = c then some rest else none

/-- `AppendUtf8`: the bytes appended for a code point. -/
def appendUtf8 (codepoint : UInt32) : Bytes :=
  if codepoint ≤ 0x7F then [codepoint.toUInt8]
  else if codepoint ≤ 0x7FF then
    [((0xC0 : UInt32) ||| (codepoint >>> 6)).toUInt8,
      ((0x80 : UInt32) ||| (codepoint &&& 0x3F)).toUInt8]
  else
    [((0xE0 : UInt32) ||| (codepoint >>> 12)).toUInt8,
      ((0x80 : UInt32) ||| ((codepoint >>> 6) &&& 0x3F)).toUInt8,
      ((0x80 : UInt32) ||| (codepoint &&& 0x3F)).toUInt8]

/-- The value of a hexadecimal digit in an escape. -/
def hexValue (h : UInt8) : Option UInt32 :=
  if 0x30 ≤ h ∧ h ≤ 0x39 then some (h - 0x30).toUInt32
  else if 0x61 ≤ h ∧ h ≤ 0x66 then some (h - 0x61 + 10).toUInt32
  else if 0x41 ≤ h ∧ h ≤ 0x46 then some (h - 0x41 + 10).toUInt32
  else none

/-- The code point of four hexadecimal digits. -/
def codepoint (h0 h1 h2 h3 : UInt8) : Option UInt32 := do
  let d0 ← hexValue h0
  let d1 ← hexValue h1
  let d2 ← hexValue h2
  let d3 ← hexValue h3
  return (((((0 : UInt32) <<< 4 ||| d0) <<< 4 ||| d1) <<< 4 ||| d2) <<< 4 ||| d3)

/-- The byte a short escape stands for. -/
def shortEscape (e : UInt8) : Option UInt8 :=
  if e = 0x22 ∨ e = 0x5C ∨ e = 0x2F then some e
  else if e = 0x62 then some 0x08
  else if e = 0x66 then some 0x0C
  else if e = 0x6E then some 0x0A
  else if e = 0x72 then some 0x0D
  else if e = 0x74 then some 0x09
  else none

/-- The loop of `ParseString` behind the opening quote. -/
def parseStringBody (out : Bytes) : Bytes → Option (Bytes × Bytes)
  | [] => none
  | c :: rest =>
    if c = 0x22 then some (out, rest)
    else if c < 0x20 then none
    else if c ≠ 0x5C then parseStringBody (out ++ [c]) rest
    else
      match rest with
      | [] => none
      | e :: rest =>
        if e = 0x75 then
          match rest with
          | h0 :: h1 :: h2 :: h3 :: rest =>
            match codepoint h0 h1 h2 h3 with
            | none => none
            | some cp => parseStringBody (out ++ appendUtf8 cp) rest
          | _ => none
        else
          match shortEscape e with
          | none => none
          | some b => parseStringBody (out ++ [b]) rest

/-- `ParseString`. -/
def parseString (text : Bytes) : Option (Bytes × Bytes) :=
  match consume 0x22 text with
  | none => none
  | some rest => parseStringBody [] rest

/-- The number of a run of decimal digits. -/
def digitsValue (digits : Bytes) : Nat := digits.foldl (fun n b => 10 * n + (b.toNat - 0x30)) 0

/-- `from_chars` for `int64_t`: `none` where the number is out of range. -/
def fromChars (negative : Bool) (digits : Bytes) : Option Int64 :=
  let n : Int := if negative then -digitsValue digits else digitsValue digits
  if Int64.minValue.toInt ≤ n ∧ n ≤ Int64.maxValue.toInt then some (Int64.ofInt n) else none

/-- The digits of a number, behind its sign. -/
def parseDigits (negative : Bool) (text : Bytes) : Option (Json × Bytes) :=
  if text.takeWhile isDigit = [] then none
  else
    (fromChars negative (text.takeWhile isDigit)).map fun n =>
      (.number n, text.dropWhile isDigit)

/-- The end of `ParseValue`: a number. -/
def parseNumber (text : Bytes) : Option (Json × Bytes) :=
  if text.head? = some 0x2D then parseDigits true text.tail else parseDigits false text

/-- `ParseObject`, given the loop over the members. -/
def parseObject (members : Json.Object → Bytes → Option (Json × Bytes)) (text : Bytes) :
    Option (Json × Bytes) :=
  match consume 0x7B text with
  | none => none
  | some rest =>
    match consume 0x7D rest with
    | some rest => some (.object [], rest)
    | none => members [] rest

/-- `ParseArray`, given the loop over the elements. -/
def parseArray (elements : List Json → Bytes → Option (Json × Bytes)) (text : Bytes) :
    Option (Json × Bytes) :=
  match consume 0x5B text with
  | none => none
  | some rest =>
    match consume 0x5D rest with
    | some rest => some (.array [], rest)
    | none => elements [] rest

mutual

/-- `ParseValue`. -/
def parseValue : Nat → Bytes → Option (Json × Bytes)
  | 0, _ => none
  | fuel + 1, text =>
    match skip text with
    | [] => none
    | c :: rest =>
      if c = 0x22 then (parseString (c :: rest)).map fun r => (.string r.1, r.2)
      else if c = 0x7B then parseObject (parseMembers fuel) (c :: rest)
      else if c = 0x5B then parseArray (parseElements fuel) (c :: rest)
      else if (c :: rest).take 4 = ascii "true" then some (.bool true, (c :: rest).drop 4)
      else if (c :: rest).take 5 = ascii "false" then some (.bool false, (c :: rest).drop 5)
      else if (c :: rest).take 4 = ascii "null" then some (.null, (c :: rest).drop 4)
      else parseNumber (c :: rest)

/-- The loop of `ParseObject`. -/
def parseMembers : Nat → Json.Object → Bytes → Option (Json × Bytes)
  | 0, _, _ => none
  | fuel + 1, object, text =>
    match parseString text with
    | none => none
    | some (key, rest) =>
      match consume 0x3A rest with
      | none => none
      | some rest =>
        match parseValue fuel rest with
        | none => none
        | some (value, rest) =>
          match consume 0x7D rest with
          | some rest => some (.object (Json.insertOrAssign key value object), rest)
          | none =>
            match consume 0x2C rest with
            | none => none
            | some rest => parseMembers fuel (Json.insertOrAssign key value object) rest

/-- The loop of `ParseArray`. -/
def parseElements : Nat → List Json → Bytes → Option (Json × Bytes)
  | 0, _, _ => none
  | fuel + 1, array, text =>
    match parseValue fuel text with
    | none => none
    | some (value, rest) =>
      match consume 0x5D rest with
      | some rest => some (.array (array ++ [value]), rest)
      | none =>
        match consume 0x2C rest with
        | none => none
        | some rest => parseElements fuel (array ++ [value]) rest

end

/-- `Parse`. -/
def parse (text : Bytes) : Option Json :=
  match parseValue (2 * text.length + 1) text with
  | none => none
  | some (value, rest) => if skip rest = [] then some value else none

/-! ### The fuel does not run out -/

theorem skip_length (text : Bytes) : (skip text).length ≤ text.length :=
  (List.dropWhile_suffix _).length_le

theorem consume_shorter {c : UInt8} {text rest : Bytes} (h : consume c text = some rest) :
    rest.length < text.length := by
  have hskip := skip_length text
  unfold consume at h
  split at h
  · cases h
  · rename_i d tail heq
    split at h
    · cases h
      rw [heq, List.length_cons] at hskip
      omega
    · cases h

theorem parseStringBody_shorter {out text s rest : Bytes}
    (h : parseStringBody out text = some (s, rest)) : rest.length < text.length := by
  fun_induction parseStringBody out text with
  | case2 => cases h; exact Nat.lt_succ_self _
  | case4 out c tail hquote hcontrol hplain ih =>
    exact Nat.lt_trans (ih h) (Nat.lt_succ_self _)
  | case7 out c hquote hcontrol hslash h0 h1 h2 h3 tail cp hcp ih =>
    have := ih h
    simp only [List.length_cons]
    omega
  | case10 out c hquote hcontrol hslash e tail hu b hb ih =>
    have := ih h
    simp only [List.length_cons]
    omega
  | _ => cases h

theorem parseString_shorter {text s rest : Bytes} (h : parseString text = some (s, rest)) :
    rest.length < text.length := by
  unfold parseString at h
  split at h
  · cases h
  · rename_i tail hconsume
    exact Nat.lt_trans (parseStringBody_shorter h) (consume_shorter hconsume)

theorem parseDigits_shorter {negative : Bool} {text rest : Bytes} {value : Json}
    (h : parseDigits negative text = some (value, rest)) : rest.length < text.length := by
  unfold parseDigits at h
  split at h
  · cases h
  · rename_i hdigits
    obtain ⟨n, _, heq⟩ := Option.map_eq_some_iff.1 h
    cases heq
    have hsplit := congrArg List.length (List.takeWhile_append_dropWhile (p := isDigit)
      (l := text))
    rw [List.length_append] at hsplit
    have hpos := List.length_pos_iff.2 hdigits
    omega

theorem parseNumber_shorter {text rest : Bytes} {value : Json}
    (h : parseNumber text = some (value, rest)) : rest.length < text.length := by
  unfold parseNumber at h
  split at h
  · have hlt := parseDigits_shorter h
    rw [List.length_tail] at hlt
    omega
  · exact parseDigits_shorter h

theorem parseObject_shorter {members : Json.Object → Bytes → Option (Json × Bytes)}
    {text rest : Bytes} {value : Json}
    (hmembers : ∀ text value rest, members [] text = some (value, rest) →
      rest.length < text.length)
    (h : parseObject members text = some (value, rest)) : rest.length < text.length := by
  unfold parseObject at h
  split at h
  · cases h
  · rename_i tail hopen
    have hlt := consume_shorter hopen
    split at h
    · rename_i hclose
      cases h
      exact Nat.lt_trans (consume_shorter hclose) hlt
    · exact Nat.lt_trans (hmembers _ _ _ h) hlt

theorem parseArray_shorter {elements : List Json → Bytes → Option (Json × Bytes)}
    {text rest : Bytes} {value : Json}
    (helements : ∀ text value rest, elements [] text = some (value, rest) →
      rest.length < text.length)
    (h : parseArray elements text = some (value, rest)) : rest.length < text.length := by
  unfold parseArray at h
  split at h
  · cases h
  · rename_i tail hopen
    have hlt := consume_shorter hopen
    split at h
    · rename_i hclose
      cases h
      exact Nat.lt_trans (consume_shorter hclose) hlt
    · exact Nat.lt_trans (helements _ _ _ h) hlt

mutual

/-- Every parsed value has consumed a byte. -/
theorem parseValue_shorter (fuel : Nat) {text rest : Bytes} {value : Json}
    (h : parseValue fuel text = some (value, rest)) : rest.length < text.length := by
  match fuel with
  | 0 => cases h
  | fuel + 1 =>
    have hskip := skip_length text
    rw [parseValue] at h
    split at h
    · cases h
    · rename_i c tail heq
      rw [heq] at hskip
      refine Nat.lt_of_lt_of_le ?_ hskip
      split at h
      · obtain ⟨r, hr, hval⟩ := Option.map_eq_some_iff.1 h
        cases hval
        exact parseString_shorter hr
      · split at h
        · exact parseObject_shorter (fun _ _ _ => parseMembers_shorter fuel) h
        · split at h
          · exact parseArray_shorter (fun _ _ _ => parseElements_shorter fuel) h
          · split at h
            · cases h; simp only [List.length_drop, List.length_cons]; omega
            · split at h
              · cases h; simp only [List.length_drop, List.length_cons]; omega
              · split at h
                · cases h; simp only [List.length_drop, List.length_cons]; omega
                · exact parseNumber_shorter h

theorem parseMembers_shorter (fuel : Nat) {object : Json.Object} {text rest : Bytes} {value : Json}
    (h : parseMembers fuel object text = some (value, rest)) : rest.length < text.length := by
  match fuel with
  | 0 => cases h
  | fuel + 1 =>
    rw [parseMembers] at h
    split at h
    · cases h
    · rename_i key afterKey hkey
      have h1 := parseString_shorter hkey
      split at h
      · cases h
      · rename_i afterColon hcolon
        have h2 := consume_shorter hcolon
        split at h
        · cases h
        · rename_i v afterValue hvalue
          have h3 := parseValue_shorter fuel hvalue
          split at h
          · rename_i hclose
            cases h
            have h4 := consume_shorter hclose
            omega
          · split at h
            · cases h
            · rename_i afterComma hcomma
              have h4 := consume_shorter hcomma
              have h5 := parseMembers_shorter fuel h
              omega

theorem parseElements_shorter (fuel : Nat) {array : List Json} {text rest : Bytes} {value : Json}
    (h : parseElements fuel array text = some (value, rest)) : rest.length < text.length := by
  match fuel with
  | 0 => cases h
  | fuel + 1 =>
    rw [parseElements] at h
    split at h
    · cases h
    · rename_i v afterValue hvalue
      have h1 := parseValue_shorter fuel hvalue
      split at h
      · rename_i hclose
        cases h
        have h2 := consume_shorter hclose
        omega
      · split at h
        · cases h
        · rename_i afterComma hcomma
          have h2 := consume_shorter hcomma
          have h3 := parseElements_shorter fuel h
          omega

end

theorem parseObject_congr {members members' : Json.Object → Bytes → Option (Json × Bytes)}
    {text : Bytes} (h : ∀ rest : Bytes, rest.length < text.length →
      members' [] rest = members [] rest) :
    parseObject members' text = parseObject members text := by
  unfold parseObject
  split
  · rfl
  · rename_i tail hopen
    rw [h tail (consume_shorter hopen)]

theorem parseArray_congr {elements elements' : List Json → Bytes → Option (Json × Bytes)}
    {text : Bytes} (h : ∀ rest : Bytes, rest.length < text.length →
      elements' [] rest = elements [] rest) :
    parseArray elements' text = parseArray elements text := by
  unfold parseArray
  split
  · rfl
  · rename_i tail hopen
    rw [h tail (consume_shorter hopen)]

mutual

/-- **The fuel of `Parse` is enough**: more of it changes nothing. -/
theorem parseValue_fuel (fuel : Nat) (text : Bytes) (hfuel : 2 * text.length < fuel) :
    parseValue (fuel + 1) text = parseValue fuel text := by
  match fuel with
  | 0 => omega
  | fuel + 1 =>
    rw [parseValue, parseValue]
    have hskip := skip_length text
    split
    · rfl
    · rename_i c tail heq
      rw [heq] at hskip
      have hobject : parseObject (parseMembers (fuel + 1)) (c :: tail) =
          parseObject (parseMembers fuel) (c :: tail) :=
        parseObject_congr fun rest hrest => parseMembers_fuel fuel [] rest (by omega)
      have harray : parseArray (parseElements (fuel + 1)) (c :: tail) =
          parseArray (parseElements fuel) (c :: tail) :=
        parseArray_congr fun rest hrest => parseElements_fuel fuel [] rest (by omega)
      rw [hobject, harray]

theorem parseMembers_fuel (fuel : Nat) (object : Json.Object) (text : Bytes)
    (hfuel : 2 * text.length + 1 < fuel) :
    parseMembers (fuel + 1) object text = parseMembers fuel object text := by
  match fuel with
  | 0 => omega
  | fuel + 1 =>
    rw [parseMembers, parseMembers]
    split
    · rfl
    · rename_i key afterKey hkey
      have h1 := parseString_shorter hkey
      split
      · rfl
      · rename_i afterColon hcolon
        have h2 := consume_shorter hcolon
        rw [parseValue_fuel fuel afterColon (by omega)]
        split
        · rfl
        · rename_i v afterValue hvalue
          have h3 := parseValue_shorter fuel hvalue
          split
          · rfl
          · split
            · rfl
            · rename_i afterComma hcomma
              have h4 := consume_shorter hcomma
              exact parseMembers_fuel fuel _ afterComma (by omega)

theorem parseElements_fuel (fuel : Nat) (array : List Json) (text : Bytes)
    (hfuel : 2 * text.length + 1 < fuel) :
    parseElements (fuel + 1) array text = parseElements fuel array text := by
  match fuel with
  | 0 => omega
  | fuel + 1 =>
    rw [parseElements, parseElements, parseValue_fuel fuel text (by omega)]
    split
    · rfl
    · rename_i v afterValue hvalue
      have h1 := parseValue_shorter fuel hvalue
      split
      · rfl
      · split
        · rfl
        · rename_i afterComma hcomma
          have h2 := consume_shorter hcomma
          exact parseElements_fuel fuel _ afterComma (by omega)

end

theorem parseValue_enough {text : Bytes} {fuel more : Nat} (hfuel : 2 * text.length < fuel)
    (hmore : fuel ≤ more) : parseValue more text = parseValue fuel text := by
  induction more, hmore using Nat.le_induction with
  | base => rfl
  | succ more hle ih => rw [parseValue_fuel more text (by omega), ih]

end JsonParser

end SecondDisplay
