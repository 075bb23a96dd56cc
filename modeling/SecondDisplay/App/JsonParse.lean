import SecondDisplay.Library.JsonText
import SecondDisplay.App.Json
import Mathlib.Data.List.TakeWhile

/-!
# The parser reads the tree (`JsonParser` on JSON texts)

`Value.json` is what a JSON value means to the configuration: its strings decoded, its numbers
64-bit integers, its objects maps in which a later member replaces an earlier one.
`parse_render` proves that `Parse` returns the meaning of every text that has one.
-/

namespace SecondDisplay.JsonText

open SecondDisplay.JsonParser

/-! ### What a value means -/

/-- The bytes an item of a string stands for. -/
def StringItem.decode : StringItem → Bytes
  | .plain b _ => [b]
  | .short letter _ => (shortEscape letter).toList
  | .unicode h0 h1 h2 h3 _ => (codepoint h0 h1 h2 h3).elim [] appendUtf8

/-- The bytes a string stands for. -/
def StringText.decode (s : StringText) : Bytes := s.flatMap StringItem.decode

/-- The integer a number stands for, if it is one and has 64 bits. -/
def NumberText.json (n : NumberText) : Option Json :=
  if n.fraction.isNone && n.exponent.isNone then
    (fromChars n.negative n.whole.bytes).map .number
  else none

mutual

/-- The tree a value stands for. -/
def Value.json : Value → Option Json
  | .null => some .null
  | .bool b => some (.bool b)
  | .number n => n.json
  | .string s => some (.string (StringText.decode s))
  | .array _ elements => (elements.json []).map .array
  | .object _ members => (members.json []).map .object

/-- The list behind `array` that elements add up to. -/
def Elements.json (array : List Json) : Elements → Option (List Json)
  | .nil => some array
  | .cons _ value _ rest =>
    match value.json with
    | none => none
    | some v => rest.json (array ++ [v])

/-- The object that members make of `object`. -/
def Members.json (object : Json.Object) : Members → Option Json.Object
  | .nil => some object
  | .cons _ key _ _ value _ rest =>
    match value.json with
    | none => none
    | some v => rest.json (Json.insertOrAssign (StringText.decode key) v object)

end

/-! ### Tokens -/

/-- Only whitespace. -/
def Spaces (sp : Bytes) : Prop := ∀ b ∈ sp, isSpace b = true

theorem Ws.spaces (ws : Ws) : Spaces ws.bytes :=
  fun b hb => isWs_isSpace (List.all_eq_true.1 ws.all_ws b hb)

theorem Spaces.append {xs ys : Bytes} (hx : Spaces xs) (hy : Spaces ys) : Spaces (xs ++ ys) :=
  fun b hb => (List.mem_append.1 hb).elim (hx b) (hy b)

theorem skip_spaces {sp rest : Bytes} {c : UInt8} (hsp : Spaces sp) (hc : isSpace c = false) :
    skip (sp ++ c :: rest) = c :: rest := by
  rw [skip, List.dropWhile_append_of_pos hsp, List.dropWhile_cons_of_neg (by rw [hc]; simp)]

theorem skip_all {sp : Bytes} (hsp : Spaces sp) : skip sp = [] := by
  exact List.dropWhile_eq_nil_iff.2 hsp

theorem consume_same {sp rest : Bytes} {c : UInt8} (hsp : Spaces sp) (hc : isSpace c = false) :
    consume c (sp ++ c :: rest) = some rest := by
  rw [consume, skip_spaces hsp hc]
  exact if_pos rfl

theorem consume_other {sp rest : Bytes} {c d : UInt8} (hsp : Spaces sp) (hd : isSpace d = false)
    (hne : d ≠ c) : consume c (sp ++ d :: rest) = none := by
  rw [consume, skip_spaces hsp hd]
  exact if_neg hne

theorem shortEscape_ok : ∀ b, isShortEscape b = true → (shortEscape b).isSome = true := by
  intro b h
  obtain rfl | rfl | rfl | rfl | rfl | rfl | rfl | rfl := isShortEscape_iff.1 h <;> rfl

theorem shortEscape_ne_u : ∀ b, isShortEscape b = true → b ≠ 0x75 :=
  fun _ h => ne_of_class h rfl

theorem hexValue_ok : ∀ b, isHexDigit b = true → (hexValue b).isSome = true := by
  intro b h
  simp only [isHexDigit, isDigit, Bool.or_eq_true, Bool.and_eq_true, decide_eq_true_eq,
    or_assoc] at h
  rw [hexValue]
  split
  · rfl
  · rename_i hdigit
    split
    · rfl
    · rename_i hlower
      rw [if_pos ((h.resolve_left hdigit).resolve_left hlower)]
      rfl

theorem plain_ok : ∀ b, isPlain b = true → b ≠ 0x22 ∧ ¬ b < 0x20 ∧ b ≠ 0x5C := by
  intro b h
  simp only [isPlain, Bool.and_eq_true, decide_eq_true_eq, bne_iff_ne] at h
  obtain ⟨⟨hcontrol, hquote⟩, hslash⟩ := h
  exact ⟨hquote, UInt8.not_lt.2 hcontrol, hslash⟩

theorem codepoint_ok {h0 h1 h2 h3 : UInt8}
    (ok : (isHexDigit h0 && isHexDigit h1 && isHexDigit h2 && isHexDigit h3) = true) :
    ∃ cp, codepoint h0 h1 h2 h3 = some cp := by
  simp only [Bool.and_eq_true] at ok
  obtain ⟨⟨⟨ok0, ok1⟩, ok2⟩, ok3⟩ := ok
  obtain ⟨d0, hd0⟩ := Option.isSome_iff_exists.1 (hexValue_ok h0 ok0)
  obtain ⟨d1, hd1⟩ := Option.isSome_iff_exists.1 (hexValue_ok h1 ok1)
  obtain ⟨d2, hd2⟩ := Option.isSome_iff_exists.1 (hexValue_ok h2 ok2)
  obtain ⟨d3, hd3⟩ := Option.isSome_iff_exists.1 (hexValue_ok h3 ok3)
  exact ⟨_, by rw [codepoint, hd0, hd1, hd2, hd3]; rfl⟩

/-- One item of a string. -/
theorem parseStringBody_item (item : StringItem) (out rest : Bytes) :
    parseStringBody out (item.render ++ rest) = parseStringBody (out ++ item.decode) rest := by
  cases item with
  | plain b ok =>
    obtain ⟨hquote, hcontrol, hslash⟩ := plain_ok b ok
    show parseStringBody out (b :: rest) = _
    rw [parseStringBody.eq_def]
    simp only [if_neg hquote, if_neg hcontrol, if_pos hslash, StringItem.decode]
  | short letter ok =>
    obtain ⟨b, hb⟩ := Option.isSome_iff_exists.1 (shortEscape_ok letter ok)
    show parseStringBody out (0x5C :: letter :: rest) = _
    rw [parseStringBody.eq_def]
    simp only [if_neg (shortEscape_ne_u letter ok), StringItem.decode, hb, Option.toList_some]
    rfl
  | unicode h0 h1 h2 h3 ok =>
    obtain ⟨cp, hcp⟩ := codepoint_ok ok
    show parseStringBody out (0x5C :: 0x75 :: h0 :: h1 :: h2 :: h3 :: rest) = _
    rw [parseStringBody.eq_def]
    simp only [StringItem.decode, hcp, Option.elim_some]
    rfl

theorem parseStringBody_raw (s : StringText) (out rest : Bytes) :
    parseStringBody out (StringText.raw s ++ 0x22 :: rest) =
      some (out ++ StringText.decode s, rest) := by
  induction s generalizing out with
  | nil =>
    rw [show StringText.raw [] ++ 0x22 :: rest = 0x22 :: rest from rfl, parseStringBody.eq_def]
    simp [StringText.decode]
  | cons item s ih =>
    have hraw : StringText.raw (item :: s) ++ 0x22 :: rest =
        item.render ++ (StringText.raw s ++ 0x22 :: rest) := by
      simp [StringText.raw]
    rw [hraw, parseStringBody_item, ih]
    simp [StringText.decode]

/-- **`ParseString` decodes a string.** -/
theorem parseString_render (s : StringText) {sp rest : Bytes} (hsp : Spaces sp) :
    parseString (sp ++ (s.render ++ rest)) = some (StringText.decode s, rest) := by
  have htext : sp ++ (s.render ++ rest) = sp ++ 0x22 :: (StringText.raw s ++ 0x22 :: rest) := by
    simp [StringText.render]
  rw [parseString, htext, consume_same hsp (by decide)]
  exact parseStringBody_raw s [] rest

theorem space_not_isDigit : ∀ b, isSpace b = true → isDigit b = false := by
  intro b h
  rw [Bool.eq_false_iff]
  intro hdigit
  rw [isSpace_of_isDigit hdigit] at h
  cases h

/-- Not the beginning of more digits. -/
def NoDigit (rest : Bytes) : Prop := ∀ c ∈ rest.head?, isDigit c = false

theorem NoDigit.cons {c : UInt8} {rest : Bytes} (h : isDigit c = false) : NoDigit (c :: rest) := by
  intro d hd
  rw [List.head?_cons, Option.mem_some_iff] at hd
  rw [← hd]
  exact h

theorem parseDigits_append {negative : Bool} (digits : Digits) {rest : Bytes} {n : Int64}
    (hn : fromChars negative digits.bytes = some n) (hrest : NoDigit rest) :
    parseDigits negative (digits.bytes ++ rest) = some (.number n, rest) := by
  have hall : ∀ b ∈ digits.bytes, isDigit b = true := List.all_eq_true.1 digits.all_digits
  have hstop : rest.takeWhile isDigit = [] ∧ rest.dropWhile isDigit = rest := by
    cases rest with
    | nil => exact ⟨rfl, rfl⟩
    | cons c rest =>
      have hc : isDigit c = false := hrest c rfl
      exact ⟨List.takeWhile_cons_of_neg (by rw [hc]; simp),
        List.dropWhile_cons_of_neg (by rw [hc]; simp)⟩
  rw [parseDigits, List.takeWhile_append_of_pos hall, List.dropWhile_append_of_pos hall, hstop.1,
    hstop.2, List.append_nil, if_neg digits.ne_nil, hn]
  rfl

/-- **A number** that means an integer is read as it. -/
theorem parseNumber_render {n : NumberText} {j : Json} (h : n.json = some j) {rest : Bytes}
    (hrest : NoDigit rest) : parseNumber (n.render ++ rest) = some (j, rest) := by
  rw [NumberText.json] at h
  split at h
  · rename_i hplain
    rw [Bool.and_eq_true, Option.isNone_iff_eq_none, Option.isNone_iff_eq_none] at hplain
    obtain ⟨m, hm, rfl⟩ := Option.map_eq_some_iff.1 h
    have hrender : n.render = (if n.negative then [0x2D] else []) ++ n.whole.bytes := by
      rw [NumberText.render, hplain.1, hplain.2]
      simp
    rw [hrender]
    cases hneg : n.negative with
    | true =>
      rw [hneg] at hm
      show parseNumber (0x2D :: (n.whole.bytes ++ rest)) = _
      rw [parseNumber, if_pos (by rfl)]
      exact parseDigits_append n.whole hm hrest
    | false =>
      rw [hneg] at hm
      obtain ⟨d, digits, hd⟩ := List.exists_cons_of_ne_nil n.whole.ne_nil
      have hdigit : isDigit d = true :=
        List.all_eq_true.1 n.whole.all_digits d (by rw [hd]; exact List.mem_cons_self)
      have hnot : ¬ (n.whole.bytes ++ rest).head? = some 0x2D := by
        rw [hd]
        intro hhead
        cases hhead
        exact absurd hdigit (by decide)
      show parseNumber (n.whole.bytes ++ rest) = _
      rw [parseNumber, if_neg hnot]
      exact parseDigits_append n.whole hm hrest
  · cases h

/-! ### Values -/

/-- With enough fuel, the text is parsed whatever whitespace is in front and follows. -/
def Parses (text : Bytes) (j : Json) : Prop :=
  ∃ n, ∀ fuel, n ≤ fuel → ∀ sp rest, Spaces sp → NoDigit rest →
    parseValue fuel (sp ++ (text ++ rest)) = some (j, rest)

/-- The same whatever follows: the text says itself where it ends. -/
def Closes (text : Bytes) (j : Json) : Prop :=
  ∃ n, ∀ fuel, n ≤ fuel → ∀ sp rest, Spaces sp →
    parseValue fuel (sp ++ (text ++ rest)) = some (j, rest)

theorem Closes.parses {text : Bytes} {j : Json} (h : Closes text j) : Parses text j := by
  obtain ⟨n, hn⟩ := h
  exact ⟨n, fun fuel hfuel sp rest hsp _ => hn fuel hfuel sp rest hsp⟩

/-- How `parseValue` decides, once the whitespace is gone. -/
theorem parseValue_head {fuel : Nat} {sp rest : Bytes} {c : UInt8} (hsp : Spaces sp)
    (hc : isSpace c = false) :
    parseValue (fuel + 1) (sp ++ c :: rest) =
      if c = 0x22 then (parseString (c :: rest)).map fun r => (.string r.1, r.2)
      else if c = 0x7B then parseObject (parseMembers fuel) (c :: rest)
      else if c = 0x5B then parseArray (parseElements fuel) (c :: rest)
      else if (c :: rest).take 4 = ascii "true" then some (.bool true, (c :: rest).drop 4)
      else if (c :: rest).take 5 = ascii "false" then some (.bool false, (c :: rest).drop 5)
      else if (c :: rest).take 4 = ascii "null" then some (.null, (c :: rest).drop 4)
      else parseNumber (c :: rest) := by
  rw [parseValue, skip_spaces hsp hc]

/-- A literal name is read as its value. -/
theorem Parses.nullName : Parses (ascii "null") .null := by
  refine ⟨1, fun fuel hfuel sp rest hsp hrest => ?_⟩
  obtain ⟨fuel, rfl⟩ := Nat.exists_eq_add_of_le' hfuel
  exact (parseValue_head hsp (by decide)).trans rfl

theorem Parses.trueName : Parses (ascii "true") (.bool true) := by
  refine ⟨1, fun fuel hfuel sp rest hsp hrest => ?_⟩
  obtain ⟨fuel, rfl⟩ := Nat.exists_eq_add_of_le' hfuel
  exact (parseValue_head hsp (by decide)).trans rfl

theorem Parses.falseName : Parses (ascii "false") (.bool false) := by
  refine ⟨1, fun fuel hfuel sp rest hsp hrest => ?_⟩
  obtain ⟨fuel, rfl⟩ := Nat.exists_eq_add_of_le' hfuel
  exact (parseValue_head hsp (by decide)).trans rfl

theorem Closes.string (s : StringText) :
    Closes s.render (.string (StringText.decode s)) := by
  refine ⟨1, fun fuel hfuel sp rest hsp => ?_⟩
  obtain ⟨fuel, rfl⟩ := Nat.exists_eq_add_of_le' hfuel
  have hparse : parseString (s.render ++ rest) = some (StringText.decode s, rest) :=
    @parseString_render s [] rest (fun b hb => by cases hb)
  have hhead : s.render ++ rest = 0x22 :: (StringText.raw s ++ [0x22] ++ rest) := rfl
  rw [hhead] at hparse ⊢
  rw [parseValue_head hsp (by decide), if_pos rfl, hparse]
  rfl

theorem numberHead_other : ∀ b, b = 0x2D ∨ isDigit b = true →
    b ≠ 0x22 ∧ b ≠ 0x7B ∧ b ≠ 0x5B ∧ b ≠ 0x74 ∧ b ≠ 0x66 ∧ b ≠ 0x6E :=
  fun _ h => ⟨numberHead_ne h rfl, numberHead_ne h rfl, numberHead_ne h rfl, numberHead_ne h rfl,
    numberHead_ne h rfl, numberHead_ne h rfl⟩

theorem Parses.number {n : NumberText} {j : Json} (h : n.json = some j) : Parses n.render j := by
  refine ⟨1, fun fuel hfuel sp rest hsp hrest => ?_⟩
  obtain ⟨fuel, rfl⟩ := Nat.exists_eq_add_of_le' hfuel
  obtain ⟨c, tail, hhead, hc⟩ := n.render_head
  have hparse := parseNumber_render h hrest
  rw [hhead, List.cons_append] at hparse ⊢
  obtain ⟨h1, h2, h3, h4, h5, h6⟩ := numberHead_other c hc
  have hword : ∀ (k : Nat) (d : UInt8) (word : Bytes), c ≠ d →
      ¬ (c :: (tail ++ rest)).take (k + 1) = d :: word := by
    intro k d word hne heq
    rw [List.take_succ_cons] at heq
    exact hne (List.cons.inj heq).1
  have htrue : ¬ (c :: (tail ++ rest)).take 4 = ascii "true" := hword 3 0x74 _ h4
  have hfalse : ¬ (c :: (tail ++ rest)).take 5 = ascii "false" := hword 4 0x66 _ h5
  have hnull : ¬ (c :: (tail ++ rest)).take 4 = ascii "null" := hword 3 0x6E _ h6
  rw [parseValue_head hsp (numberHead_not_isSpace c hc), if_neg h1, if_neg h2, if_neg h3,
    if_neg htrue, if_neg hfalse, if_neg hnull, hparse]

/-- What stands behind a value in an array or object is no digit. -/
theorem noDigit_behind {after rest : Bytes} {c : UInt8} (hafter : Spaces after)
    (hc : isDigit c = false) : NoDigit (after ++ c :: rest) := by
  cases after with
  | nil => exact NoDigit.cons hc
  | cons b after =>
    have hb : isSpace b = true := hafter b List.mem_cons_self
    exact NoDigit.cons (space_not_isDigit b hb)

/-- The loop over elements reads a text up to the closing bracket. -/
def ParsesElements (body : Bytes) (array array' : List Json) : Prop :=
  ∃ n, ∀ fuel, n ≤ fuel → ∀ sp rest, Spaces sp →
    parseElements fuel array (sp ++ (body ++ 0x5D :: rest)) = some (.array array', rest)

/-- The loop over members reads a text up to the closing brace. -/
def ParsesMembers (body : Bytes) (object object' : Json.Object) : Prop :=
  ∃ n, ∀ fuel, n ≤ fuel → ∀ sp rest, Spaces sp →
    parseMembers fuel object (sp ++ (body ++ 0x7D :: rest)) = some (.object object', rest)

section

variable {text body before after afterKey beforeValue gap : Bytes} {v : Json}

/-- The last element. -/
theorem ParsesElements.last (hvalue : Parses text v) (hbefore : Spaces before)
    (hafter : Spaces after) (array : List Json) :
    ParsesElements (before ++ (text ++ after)) array (array ++ [v]) := by
  obtain ⟨n, hn⟩ := hvalue
  refine ⟨n + 1, fun fuel hfuel sp rest hsp => ?_⟩
  obtain ⟨fuel, rfl⟩ := Nat.exists_eq_add_of_le' (Nat.le_of_add_left_le hfuel)
  have htext : sp ++ (before ++ (text ++ after) ++ 0x5D :: rest) =
      (sp ++ before) ++ (text ++ (after ++ 0x5D :: rest)) := by
    simp only [List.append_assoc]
  have hstop : NoDigit (after ++ 0x5D :: rest) := noDigit_behind hafter (by decide)
  rw [htext, parseElements, hn fuel (by omega) _ _ (hsp.append hbefore) hstop]
  simp only [consume_same hafter (show isSpace 0x5D = false from rfl)]

/-- An element in front of others. -/
theorem ParsesElements.more (hvalue : Parses text v) (hbefore : Spaces before)
    (hafter : Spaces after) {array array' : List Json}
    (hbody : ParsesElements body (array ++ [v]) array') :
    ParsesElements (before ++ (text ++ (after ++ 0x2C :: body))) array array' := by
  obtain ⟨n, hn⟩ := hvalue
  obtain ⟨m, hm⟩ := hbody
  refine ⟨n + m + 1, fun fuel hfuel sp rest hsp => ?_⟩
  obtain ⟨fuel, rfl⟩ := Nat.exists_eq_add_of_le' (Nat.le_of_add_left_le hfuel)
  have htext : sp ++ (before ++ (text ++ (after ++ 0x2C :: body)) ++ 0x5D :: rest) =
      (sp ++ before) ++ (text ++ (after ++ 0x2C :: (body ++ 0x5D :: rest))) := by
    simp only [List.append_assoc, List.cons_append]
  have hstop : NoDigit (after ++ 0x2C :: (body ++ 0x5D :: rest)) :=
    noDigit_behind hafter (by decide)
  rw [htext, parseElements, hn fuel (by omega) _ _ (hsp.append hbefore) hstop]
  simp only [consume_other hafter (show isSpace 0x2C = false from rfl)
    (show (0x2C : UInt8) ≠ 0x5D by decide),
    consume_same hafter (show isSpace 0x2C = false from rfl)]
  exact hm fuel (by omega) [] rest (fun b hb => by cases hb)

/-- A member up to its value, in the loop of `ParseObject`. -/
theorem parseMembers_head {fuel : Nat} {object : Json.Object} (key : StringText)
    (hbefore : Spaces before) (hafterKey : Spaces afterKey) {sp tail : Bytes} (hsp : Spaces sp)
    (hvalue : parseValue fuel (beforeValue ++ (text ++ tail)) = some (v, tail)) :
    parseMembers (fuel + 1) object ((sp ++ before) ++ (key.render ++ (afterKey ++
        0x3A :: (beforeValue ++ (text ++ tail))))) =
      match consume 0x7D tail with
      | some rest =>
        some (.object (Json.insertOrAssign (StringText.decode key) v object), rest)
      | none =>
        match consume 0x2C tail with
        | none => none
        | some rest =>
          parseMembers fuel (Json.insertOrAssign (StringText.decode key) v object) rest := by
  rw [parseMembers, parseString_render key (hsp.append hbefore)]
  simp only [consume_same hafterKey (show isSpace 0x3A = false from rfl), hvalue] <;> rfl

/-- The last member. -/
theorem ParsesMembers.last (hvalue : Parses text v) (hbefore : Spaces before)
    (hafterKey : Spaces afterKey) (hbeforeValue : Spaces beforeValue) (hafter : Spaces after)
    (key : StringText) (object : Json.Object) :
    ParsesMembers (before ++ (key.render ++ (afterKey ++ 0x3A :: (beforeValue ++
      (text ++ after))))) object (Json.insertOrAssign (StringText.decode key) v object) := by
  obtain ⟨n, hn⟩ := hvalue
  refine ⟨n + 1, fun fuel hfuel sp rest hsp => ?_⟩
  obtain ⟨fuel, rfl⟩ := Nat.exists_eq_add_of_le' (Nat.le_of_add_left_le hfuel)
  have htext : sp ++ (before ++ (key.render ++ (afterKey ++ 0x3A :: (beforeValue ++
      (text ++ after)))) ++ 0x7D :: rest) = (sp ++ before) ++ (key.render ++ (afterKey ++
        0x3A :: (beforeValue ++ (text ++ (after ++ 0x7D :: rest))))) := by
    simp only [List.append_assoc, List.cons_append]
  have hstop : NoDigit (after ++ 0x7D :: rest) := noDigit_behind hafter (by decide)
  rw [htext, parseMembers_head key hbefore hafterKey hsp
    (hn fuel (by omega) _ _ hbeforeValue hstop)]
  simp only [consume_same hafter (show isSpace 0x7D = false from rfl)]

/-- A member in front of others. -/
theorem ParsesMembers.more (hvalue : Parses text v) (hbefore : Spaces before)
    (hafterKey : Spaces afterKey) (hbeforeValue : Spaces beforeValue) (hafter : Spaces after)
    (key : StringText) {object object' : Json.Object}
    (hbody : ParsesMembers body (Json.insertOrAssign (StringText.decode key) v object) object') :
    ParsesMembers (before ++ (key.render ++ (afterKey ++ 0x3A :: (beforeValue ++
      (text ++ (after ++ 0x2C :: body)))))) object object' := by
  obtain ⟨n, hn⟩ := hvalue
  obtain ⟨m, hm⟩ := hbody
  refine ⟨n + m + 1, fun fuel hfuel sp rest hsp => ?_⟩
  obtain ⟨fuel, rfl⟩ := Nat.exists_eq_add_of_le' (Nat.le_of_add_left_le hfuel)
  have htext : sp ++ (before ++ (key.render ++ (afterKey ++ 0x3A :: (beforeValue ++
      (text ++ (after ++ 0x2C :: body))))) ++ 0x7D :: rest) = (sp ++ before) ++ (key.render ++
        (afterKey ++ 0x3A :: (beforeValue ++ (text ++ (after ++ 0x2C ::
          (body ++ 0x7D :: rest)))))) := by
    simp only [List.append_assoc, List.cons_append]
  have hstop : NoDigit (after ++ 0x2C :: (body ++ 0x7D :: rest)) :=
    noDigit_behind hafter (by decide)
  rw [htext, parseMembers_head key hbefore hafterKey hsp
    (hn fuel (by omega) _ _ hbeforeValue hstop)]
  simp only [consume_other hafter (show isSpace 0x2C = false from rfl)
    (show (0x2C : UInt8) ≠ 0x7D by decide),
    consume_same hafter (show isSpace 0x2C = false from rfl)]
  exact hm fuel (by omega) [] rest (fun b hb => by cases hb)

theorem Closes.emptyArray (hgap : Spaces gap) : Closes (0x5B :: (gap ++ [0x5D])) (.array []) := by
  refine ⟨1, fun fuel hfuel sp rest hsp => ?_⟩
  obtain ⟨fuel, rfl⟩ := Nat.exists_eq_add_of_le' hfuel
  have htext : sp ++ (0x5B :: (gap ++ [0x5D]) ++ rest) = sp ++ 0x5B :: (gap ++ 0x5D :: rest) := by
    simp only [List.append_assoc, List.cons_append, List.nil_append]
  have hopen : consume 0x5B (0x5B :: (gap ++ 0x5D :: rest)) = some (gap ++ 0x5D :: rest) := rfl
  rw [htext, parseValue_head hsp (by decide), if_neg (by decide), if_neg (by decide), if_pos rfl,
    parseArray, hopen]
  simp only [consume_same hgap (show isSpace 0x5D = false from rfl)]

/-- An array whose text does not close at once. -/
theorem Closes.array {items : List Json} (hgap : Spaces gap)
    (hfirst : ∀ rest, consume 0x5D (gap ++ (body ++ 0x5D :: rest)) = none)
    (h : ParsesElements body [] items) :
    Closes (0x5B :: (gap ++ (body ++ [0x5D]))) (.array items) := by
  obtain ⟨n, hn⟩ := h
  refine ⟨n + 1, fun fuel hfuel sp rest hsp => ?_⟩
  obtain ⟨fuel, rfl⟩ := Nat.exists_eq_add_of_le' (Nat.le_of_add_left_le hfuel)
  have htext : sp ++ (0x5B :: (gap ++ (body ++ [0x5D])) ++ rest) =
      sp ++ 0x5B :: (gap ++ (body ++ 0x5D :: rest)) := by
    simp only [List.append_assoc, List.cons_append, List.nil_append]
  have hopen : consume 0x5B (0x5B :: (gap ++ (body ++ 0x5D :: rest))) =
      some (gap ++ (body ++ 0x5D :: rest)) := rfl
  rw [htext, parseValue_head hsp (by decide), if_neg (by decide), if_neg (by decide), if_pos rfl,
    parseArray, hopen]
  simp only [hfirst]
  exact hn fuel (by omega) gap rest hgap

theorem Closes.emptyObject (hgap : Spaces gap) :
    Closes (0x7B :: (gap ++ [0x7D])) (.object []) := by
  refine ⟨1, fun fuel hfuel sp rest hsp => ?_⟩
  obtain ⟨fuel, rfl⟩ := Nat.exists_eq_add_of_le' hfuel
  have htext : sp ++ (0x7B :: (gap ++ [0x7D]) ++ rest) = sp ++ 0x7B :: (gap ++ 0x7D :: rest) := by
    simp only [List.append_assoc, List.cons_append, List.nil_append]
  have hopen : consume 0x7B (0x7B :: (gap ++ 0x7D :: rest)) = some (gap ++ 0x7D :: rest) := rfl
  rw [htext, parseValue_head hsp (by decide), if_neg (by decide), if_pos rfl, parseObject, hopen]
  simp only [consume_same hgap (show isSpace 0x7D = false from rfl)]

/-- An object whose text does not close at once. -/
theorem Closes.object {object : Json.Object} (hgap : Spaces gap)
    (hfirst : ∀ rest, consume 0x7D (gap ++ (body ++ 0x7D :: rest)) = none)
    (h : ParsesMembers body [] object) :
    Closes (0x7B :: (gap ++ (body ++ [0x7D]))) (.object object) := by
  obtain ⟨n, hn⟩ := h
  refine ⟨n + 1, fun fuel hfuel sp rest hsp => ?_⟩
  obtain ⟨fuel, rfl⟩ := Nat.exists_eq_add_of_le' (Nat.le_of_add_left_le hfuel)
  have htext : sp ++ (0x7B :: (gap ++ (body ++ [0x7D])) ++ rest) =
      sp ++ 0x7B :: (gap ++ (body ++ 0x7D :: rest)) := by
    simp only [List.append_assoc, List.cons_append, List.nil_append]
  have hopen : consume 0x7B (0x7B :: (gap ++ (body ++ 0x7D :: rest))) =
      some (gap ++ (body ++ 0x7D :: rest)) := rfl
  rw [htext, parseValue_head hsp (by decide), if_neg (by decide), if_pos rfl, parseObject, hopen]
  simp only [hfirst]
  exact hn fuel (by omega) gap rest hgap

end

/-! ### Trees -/

theorem consume_elements {elements : Elements} (hne : elements ≠ .nil) (gap : Ws) (rest : Bytes) :
    consume 0x5D (gap.bytes ++ (elements.render ++ 0x5D :: rest)) = none := by
  cases elements with
  | nil => exact absurd rfl hne
  | cons before value after more =>
    obtain ⟨c, tail, hrender, hc, _⟩ := value.render_head
    have hbracket : c ≠ 0x5D := value.render_head_ne_close hrender
    have hsplit : gap.bytes ++ ((Elements.cons before value after more).render ++
        0x5D :: rest) = (gap.bytes ++ before.bytes) ++ c :: (tail ++ (after.bytes ++
          (more.separator ++ (more.render ++ 0x5D :: rest)))) := by
      simp [Elements.render, hrender]
    rw [hsplit, consume_other (gap.spaces.append before.spaces) hc hbracket]

theorem consume_members {members : Members} (hne : members ≠ .nil) (gap : Ws) (rest : Bytes) :
    consume 0x7D (gap.bytes ++ (members.render ++ 0x7D :: rest)) = none := by
  cases members with
  | nil => exact absurd rfl hne
  | cons before key afterKey beforeValue value after more =>
    have hsplit : gap.bytes ++ ((Members.cons before key afterKey beforeValue value after
        more).render ++ 0x7D :: rest) = (gap.bytes ++ before.bytes) ++ 0x22 ::
          (StringText.raw key ++ [0x22] ++ (afterKey.bytes ++ ([0x3A] ++ (beforeValue.bytes ++
            (value.render ++ (after.bytes ++ (more.separator ++ (more.render ++
              0x7D :: rest)))))))) := by
      simp [Members.render, StringText.render]
    rw [hsplit, consume_other (gap.spaces.append before.spaces) (by decide) (by decide)]

mutual

/-- **Every value is parsed to its meaning.** -/
theorem parses_value (value : Value) {j : Json} (h : value.json = some j) :
    Parses value.render j := by
  match value with
  | .null =>
    cases h
    exact Parses.nullName
  | .bool true =>
    cases h
    exact Parses.trueName
  | .bool false =>
    cases h
    exact Parses.falseName
  | .number n => exact Parses.number h
  | .string s =>
    cases h
    exact (Closes.string s).parses
  | .array gap .nil =>
    cases h
    rw [Value.render, Elements.render, List.append_nil]
    exact (Closes.emptyArray gap.spaces).parses
  | .array gap (.cons before v after rest) =>
    obtain ⟨items, hitems, rfl⟩ := Option.map_eq_some_iff.1 h
    rw [Value.render, List.append_assoc]
    exact (Closes.array gap.spaces (consume_elements (by simp) gap)
      (parses_elements (.cons before v after rest) (by simp) hitems)).parses
  | .object gap .nil =>
    cases h
    rw [Value.render, Members.render, List.append_nil]
    exact (Closes.emptyObject gap.spaces).parses
  | .object gap (.cons before key afterKey beforeValue v after rest) =>
    obtain ⟨object, hobject, rfl⟩ := Option.map_eq_some_iff.1 h
    rw [Value.render, List.append_assoc]
    exact (Closes.object gap.spaces (consume_members (by simp) gap)
      (parses_members (.cons before key afterKey beforeValue v after rest) (by simp)
        hobject)).parses

theorem parses_elements (elements : Elements) (hne : elements ≠ .nil) {array array' : List Json}
    (h : elements.json array = some array') : ParsesElements elements.render array array' := by
  match elements with
  | .nil => exact absurd rfl hne
  | .cons before value after rest =>
    rw [Elements.json] at h
    split at h
    · cases h
    · rename_i v hv
      have hvalue := parses_value value hv
      match rest with
      | .nil =>
        cases h
        have hlast := ParsesElements.last hvalue before.spaces after.spaces array
        simpa [Elements.render, Elements.separator] using hlast
      | .cons before' value' after' rest' =>
        have hmore := ParsesElements.more hvalue before.spaces after.spaces
          (parses_elements (.cons before' value' after' rest') (by simp) h)
        rw [Elements.render]
        simpa only [Elements.separator, List.append_assoc, List.cons_append, List.nil_append]
          using hmore

theorem parses_members (members : Members) (hne : members ≠ .nil)
    {object object' : Json.Object} (h : members.json object = some object') :
    ParsesMembers members.render object object' := by
  match members with
  | .nil => exact absurd rfl hne
  | .cons before key afterKey beforeValue value after rest =>
    rw [Members.json] at h
    split at h
    · cases h
    · rename_i v hv
      have hvalue := parses_value value hv
      match rest with
      | .nil =>
        cases h
        have hlast := ParsesMembers.last hvalue before.spaces afterKey.spaces beforeValue.spaces
          after.spaces key object
        simpa [Members.render, Members.separator] using hlast
      | .cons before' key' afterKey' beforeValue' value' after' rest' =>
        have hmore := ParsesMembers.more hvalue before.spaces afterKey.spaces beforeValue.spaces
          after.spaces key
          (parses_members (.cons before' key' afterKey' beforeValue' value' after' rest')
            (by simp) h)
        rw [Members.render]
        simpa only [Members.separator, List.append_assoc, List.cons_append, List.nil_append]
          using hmore

end

/-- What `Parse` finds behind its own fuel. -/
theorem parse_of_parseValue {text rest : Bytes} {j : Json} {n : Nat}
    (h : ∀ fuel, n ≤ fuel → parseValue fuel text = some (j, rest)) :
    parse text = if skip rest = [] then some j else none := by
  have hfuel : parseValue (n + (2 * text.length + 1)) text =
      parseValue (2 * text.length + 1) text :=
    parseValue_enough (by omega) (by omega)
  rw [parse, ← hfuel, h _ (by omega)]

/-- A text that is parsed, with whitespace around it. -/
theorem parse_of_parses {text leading trailing : Bytes} {j : Json} (h : Parses text j)
    (hleading : Spaces leading) (htrailing : Spaces trailing) :
    parse (leading ++ (text ++ trailing)) = some j := by
  obtain ⟨n, hn⟩ := h
  have hstop : NoDigit trailing := by
    intro c hc
    exact space_not_isDigit c (htrailing c (List.mem_of_mem_head? hc))
  rw [parse_of_parseValue fun fuel hfuel => hn fuel hfuel leading trailing hleading hstop,
    if_pos (skip_all htrailing)]

/-- A text that closes, with more than whitespace behind it. -/
theorem parse_of_closes {text leading between rest : Bytes} {j : Json} {c : UInt8}
    (h : Closes text j) (hleading : Spaces leading) (hbetween : Spaces between)
    (hc : isSpace c = false) : parse (leading ++ (text ++ (between ++ c :: rest))) = none := by
  obtain ⟨n, hn⟩ := h
  rw [parse_of_parseValue fun fuel hfuel => hn fuel hfuel leading (between ++ c :: rest) hleading,
    skip_spaces hbetween hc, if_neg (List.cons_ne_nil c rest)]

/-- **`Parse` reads every text** that has a meaning, and returns it. -/
theorem parse_render (t : Text) {j : Json} (h : t.value.json = some j) :
    parse t.render = some j :=
  parse_of_parses (parses_value t.value h) t.leading.spaces t.trailing.spaces

end SecondDisplay.JsonText
