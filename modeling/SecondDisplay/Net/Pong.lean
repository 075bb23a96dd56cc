import SecondDisplay.App.ConfigRoundTrip
import SecondDisplay.Net.ProtocolNumber

/-!
# The answer to a ping (`SerializePong`)

The receiver's `t` is taken over into the pong as it is spelled.  What makes this safe is that the
token has been checked against the number grammar: `isValidJsonNumber_iff` says that exactly the
JSON numbers pass that `from_chars` takes, so the pong is an object text whatever has been put into
`t` (`serializePong_exact`).  The pong is longer than the ping that asked for it, so that it can
pass the size limit of a control payload where the ping did not (`pong_isControlPayload_iff`).
-/

namespace SecondDisplay.Pong

open SecondDisplay.JsonText SecondDisplay.Protocol SecondDisplay.Config

variable {D : Type} (doubles : Doubles D)

/-- `IsValidJsonNumber`. -/
def isValidJsonNumber (token : Bytes) : Bool :=
  let object := ascii "\x7b\"n\":" ++ token ++ [0x7D]
  (findNumberToken doubles object (ascii "n")).any fun parsed => parsed.length == token.length

/-- `SerializePong` at the time `now`. -/
def serializePong (echoedT : Bytes) (now : Int) : Option Bytes :=
  if isValidJsonNumber doubles echoedT then
    some (ascii "\x7b\"type\":\"pong\",\"t\":" ++ echoedT ++ ascii ",\"mt\":" ++ decimalInt now ++
      [0x7D])
  else none

/-! ### The token of a member -/

/-- `from_chars` takes the token without an error, and the value is finite. -/
def Accepted (token : Bytes) : Prop :=
  ∃ value, doubles.fromChars token = some value ∧ doubles.isFinite value = true

/-- One JSON number that `from_chars` takes. -/
def IsNumberToken (token : Bytes) : Prop :=
  (∃ n : NumberText, token = n.render) ∧ Accepted doubles token

/-- `FindNumberToken` returns the number that stands, delimited, where the value begins. -/
theorem findNumberToken_eq_some_iff {json key before rest token : Bytes}
    (hstart : findValueStart json key = some before.length) (h : json = before ++ rest) :
    findNumberToken doubles json key = some token ↔
      ∃ (n : NumberText) (tail : Bytes), rest = n.render ++ tail ∧ Delimited tail ∧
        token = n.render ∧ Accepted doubles token := by
  have hfield : ∀ value, findNumberField doubles json key = some value ↔
      ∃ stop, numberEnd json before.length = some stop ∧
        doubles.fromChars (substr json before.length stop) = some value ∧
        doubles.isFinite value = true := by
    intro value
    rw [findNumberField, hstart]
    simp only [Option.bind_eq_bind, Option.bind_some, Option.bind_eq_some_iff]
    constructor
    · rintro ⟨stop, hstop, value', hvalue, hfinite⟩
      split at hfinite
      · cases hfinite
        exact ⟨stop, hstop, hvalue, by assumption⟩
      · cases hfinite
    · rintro ⟨stop, hstop, hvalue, hfinite⟩
      exact ⟨stop, hstop, value, hvalue, if_pos hfinite⟩
  have hnumber : ∀ (n : NumberText) (tail : Bytes), rest = n.render ++ tail →
      substr json before.length (before ++ n.render).length = n.render := by
    intro n tail hrest
    rw [h, hrest, substr_middle]
  constructor
  · intro htoken
    obtain ⟨start, hstart', htoken⟩ := Option.bind_eq_some_iff.1 htoken
    rw [hstart, Option.some.injEq] at hstart'
    subst hstart'
    obtain ⟨value, hvalue, htoken⟩ := Option.bind_eq_some_iff.1 htoken
    obtain ⟨stop, hstop, hchars, hfinite⟩ := (hfield value).1 hvalue
    obtain ⟨n, tail, hrest, hdelimited, rfl⟩ := (numberEnd_eq_some_iff h).1 hstop
    have hsame := skipWhile_isNumberByte n (h.trans (by rw [hrest])) hdelimited
    have heq : token = n.render := by
      rw [← Option.some.inj htoken, hsame, hnumber n tail hrest]
    rw [hnumber n tail hrest, ← heq] at hchars
    exact ⟨n, tail, hrest, hdelimited, heq, value, hchars, hfinite⟩
  · rintro ⟨n, tail, hrest, hdelimited, rfl, value, hchars, hfinite⟩
    have hjson : json = before ++ (n.render ++ tail) := by rw [h, hrest]
    have hvalue : findNumberField doubles json key = some value :=
      (hfield value).2 ⟨_, numberEnd_of n hjson hdelimited, by rw [hnumber n tail hrest, hchars],
        hfinite⟩
    rw [findNumberToken, hstart, Option.bind_eq_bind, Option.bind_some, hvalue,
      Option.bind_eq_bind, Option.bind_some, skipWhile_isNumberByte n hjson hdelimited,
      hnumber n tail hrest]
    rfl

/-- Every token that `FindNumberToken` returns is a number that `from_chars` takes. -/
theorem isNumberToken_of_found {json key token : Bytes}
    (h : findNumberToken doubles json key = some token) : IsNumberToken doubles token := by
  obtain ⟨start, hstart, -⟩ := Option.bind_eq_some_iff.1 h
  have hle := findValueStart_le hstart
  have hlength : (json.take start).length = start := by
    rw [List.length_take]
    omega
  rw [← hlength] at hstart
  obtain ⟨n, tail, -, -, heq, haccepted⟩ := (findNumberToken_eq_some_iff doubles hstart
    (List.take_append_drop start json).symm).1 h
  exact ⟨⟨n, heq⟩, haccepted⟩

/-! ### Which tokens pass -/

/-- The value behind a name that a colon follows at once. -/
theorem valueAfterName_colon {json before rest : Bytes}
    (h : json = before ++ 0x22 :: 0x3A :: rest) :
    valueAfterName json before.length =
      some (before ++ 0x22 :: 0x3A :: rest.takeWhile isSpace).length := by
  have hcolon : json = (before ++ [0x22]) ++ 0x3A :: rest := by rw [h]; simp
  have hvalue : json = (before ++ [0x22] ++ [0x3A]) ++ rest := by rw [hcolon]; simp
  have hread : json[(before ++ [0x22]).length]? = some 0x3A := by
    rw [hcolon]
    exact getElem?_at _ _ _
  have hstop : skipWhile isSpace json (before ++ [0x22]).length = (before ++ [0x22]).length :=
    skipWhile_stop hcolon rfl
  rw [valueAfterName, length_snoc before 0x22, hstop]
  simp only [if_pos hread]
  rw [length_snoc _ 0x3A, skipWhile_eq isSpace hvalue]
  simp

/-- The value behind the name of the object that the token is wrapped in. -/
theorem findValueStart_wrapped (rest : Bytes) :
    findValueStart (ascii "\x7b\"n\":" ++ rest) (ascii "n") =
      some (ascii "\x7b\"n\":" ++ rest.takeWhile isSpace).length := by
  let json := ascii "\x7b\"n\":" ++ rest
  let name := escapeText (ascii "n")
  have hkey : ∀ b ∈ ascii "n", isPlain b = true := List.all_eq_true.1 (by decide)
  have hraw : StringText.raw name = ascii "n" := by
    rw [escapeText_raw]
    decide
  have hbrace : json = [] ++ 0x7B :: (0x22 :: 0x6E :: 0x22 :: 0x3A :: rest) := rfl
  have hname : json = [0x7B] ++ (name.render ++ (0x3A :: rest)) := by
    rw [StringText.render, hraw]
    rfl
  have hbehind : json = ([0x7B] ++ 0x22 :: StringText.raw name) ++ 0x22 :: 0x3A :: rest := by
    rw [hraw]
    rfl
  have hroot : skipWhile isSpace json 0 = 0 := skipWhile_stop hbrace rfl
  have hread : json[0]? = some 0x7B := rfl
  have hb : Behind 0 [0x7B, 0x2C] [0x7B] :=
    ⟨[], 0x7B, [], rfl, List.mem_cons_self, rfl, fun b hb => (by cases hb), Nat.le_refl 0⟩
  show findValueStart json (ascii "n") = _
  rw [findValueStart, hroot]
  simp only [if_pos hread]
  show findFrom json (ascii "n") 0 1 ([0x7B] : Bytes).length = _
  rw [findFrom_name hkey name hname hb, if_pos hraw, valueAfterName_colon hbehind, hraw]
  rfl

/-- A number begins with no whitespace. -/
theorem takeWhile_isSpace_render (n : NumberText) (rest : Bytes) :
    (n.render ++ rest).takeWhile isSpace = [] := by
  obtain ⟨c, tail, hrender, hc⟩ := n.render_head
  rw [hrender, List.cons_append, List.takeWhile_cons_of_neg]
  rw [numberHead_not_isSpace c hc]
  exact Bool.false_ne_true

/-- A text of the length of the token is the token: nothing in front of it, the brace behind. -/
theorem wrapped_eq {token number tail : Bytes}
    (hsplit : (token ++ [0x7D]).dropWhile isSpace = number ++ tail) (htail : tail ≠ [])
    (hlength : number.length = token.length) : token = number := by
  have htotal : (token ++ [0x7D]).takeWhile isSpace ++ (number ++ tail) = token ++ [0x7D] := by
    rw [← hsplit, List.takeWhile_append_dropWhile]
  have hsizes := congrArg List.length htotal
  simp only [List.length_append, List.length_singleton] at hsizes
  have hpos := List.length_pos_iff.2 htail
  have hnospace : (token ++ [0x7D]).takeWhile isSpace = [] :=
    List.length_eq_zero_iff.1 (by omega)
  rw [hnospace, List.nil_append] at htotal
  exact (List.append_inj_left htotal hlength).symm

/-- **What the check lets through**: the JSON numbers that `from_chars` takes, alone. -/
theorem isValidJsonNumber_iff (token : Bytes) :
    isValidJsonNumber doubles token = true ↔ IsNumberToken doubles token := by
  have hobject : ascii "\x7b\"n\":" ++ token ++ [0x7D] =
      (ascii "\x7b\"n\":" ++ (token ++ [0x7D]).takeWhile isSpace) ++
        (token ++ [0x7D]).dropWhile isSpace := by
    rw [List.append_assoc, List.append_assoc, List.takeWhile_append_dropWhile]
  have hstart : findValueStart (ascii "\x7b\"n\":" ++ token ++ [0x7D]) (ascii "n") =
      some (ascii "\x7b\"n\":" ++ (token ++ [0x7D]).takeWhile isSpace).length := by
    rw [List.append_assoc]
    exact findValueStart_wrapped _
  have hfound := fun parsed =>
    @findNumberToken_eq_some_iff D doubles _ _ _ _ parsed hstart hobject
  rw [isValidJsonNumber]
  simp only [Option.any_eq_true, beq_iff_eq]
  constructor
  · rintro ⟨parsed, hparsed, hlength⟩
    obtain ⟨n, tail, hsplit, hdelimited, rfl, haccepted⟩ := (hfound parsed).1 hparsed
    obtain ⟨c, tail', htail, -⟩ := hdelimited.head
    have heq : token = n.render :=
      wrapped_eq hsplit (by rw [htail]; exact List.cons_ne_nil c tail') hlength
    exact ⟨⟨n, heq⟩, by rw [heq]; exact haccepted⟩
  · rintro ⟨⟨n, rfl⟩, haccepted⟩
    refine ⟨n.render, (hfound n.render).2 ⟨n, [0x7D], ?_, ?_, rfl, haccepted⟩, rfl⟩
    · have hsplit := List.takeWhile_append_dropWhile (p := isSpace) (l := n.render ++ [0x7D])
      rw [takeWhile_isSpace_render, List.nil_append] at hsplit
      exact hsplit
    · exact ⟨[], 0x7D, [], rfl, fun b hb => (by cases hb), .inr rfl⟩

theorem serializePong_eq_some_iff (echoedT : Bytes) (now : Int) (json : Bytes) :
    serializePong doubles echoedT now = some json ↔
      IsNumberToken doubles echoedT ∧
        json = ascii "\x7b\"type\":\"pong\",\"t\":" ++ echoedT ++ ascii ",\"mt\":" ++
          decimalInt now ++ [0x7D] := by
  rw [serializePong]
  by_cases hvalid : isValidJsonNumber doubles echoedT = true
  · rw [if_pos hvalid, Option.some.injEq]
    exact ⟨fun heq => ⟨(isValidJsonNumber_iff doubles echoedT).1 hvalid, heq.symm⟩,
      fun h => h.2.symm⟩
  · rw [if_neg hvalid]
    exact ⟨fun hnone => (by cases hnone),
      fun h => absurd ((isValidJsonNumber_iff doubles echoedT).2 h.1) hvalid⟩

/-! ### The pong as an object text -/

/-- The members of a pong. -/
def pongMembers (n : NumberText) (now : Int) : Members :=
  .cons .none (escapeText (ascii "type")) .none .none (.string (escapeText (ascii "pong"))) .none
    (.cons .none (escapeText (ascii "t")) .none .none (.number n) .none
      (.cons .none (escapeText (ascii "mt")) .none .none (.number (decimalText now)) .none .nil))

/-- The text of a pong: an object with the members `type`, `t` and `mt`. -/
def pongText (n : NumberText) (now : Int) : Text :=
  ⟨.none, .object .none (pongMembers n now), .none⟩

theorem pongText_render (n : NumberText) (now : Int) :
    (pongText n now).render =
      ascii "\x7b\"type\":\"pong\",\"t\":" ++ n.render ++ ascii ",\"mt\":" ++ decimalInt now ++
        [0x7D] := by
  have htype : StringText.render (escapeText (ascii "type")) = ascii "\"type\"" := by decide
  have hpong : StringText.render (escapeText (ascii "pong")) = ascii "\"pong\"" := by decide
  have ht : StringText.render (escapeText (ascii "t")) = ascii "\"t\"" := by decide
  have hmt : StringText.render (escapeText (ascii "mt")) = ascii "\"mt\"" := by decide
  have hfront : ascii "\x7b\"type\":\"pong\",\"t\":" = [0x7B] ++ ascii "\"type\"" ++ [0x3A] ++
      ascii "\"pong\"" ++ [0x2C] ++ ascii "\"t\"" ++ [0x3A] := by decide
  have hclock : ascii ",\"mt\":" = [0x2C] ++ ascii "\"mt\"" ++ [0x3A] := by decide
  rw [hfront, hclock]
  simp only [Text.render, pongText, Value.render, pongMembers, Members.render,
    Members.separator, Ws.none, htype, hpong, ht, hmt, decimalText_render, List.append_assoc,
    List.nil_append, List.append_nil, List.cons_append]

theorem plain_type : ∀ b ∈ ascii "type", isPlain b = true := List.all_eq_true.1 (by decide)

theorem plain_t : ∀ b ∈ ascii "t", isPlain b = true := List.all_eq_true.1 (by decide)

theorem find_type (n : NumberText) (now : Int) :
    (pongMembers n now).find (ascii "type") =
      some (ascii "\"type\":", .string (escapeText (ascii "pong"))) := rfl

theorem find_t (n : NumberText) (now : Int) :
    (pongMembers n now).find (ascii "t") =
      some (ascii "\"type\":\"pong\",\"t\":", .number n) := rfl

/-- Scanning the pong again yields its type. -/
theorem findStringField_pong (n : NumberText) (now : Int) :
    findStringField (pongText n now).render (ascii "type") = some (ascii "pong") := by
  rw [pongText, findStringField_eq plain_type, find_type]
  rfl

/-- Scanning the pong again yields its number token. -/
theorem findNumberToken_pong (n : NumberText) (now : Int) (haccepted : Accepted doubles n.render) :
    findNumberToken doubles (pongText n now).render (ascii "t") = some n.render := by
  have hstart : findValueStart (pongText n now).render (ascii "t") =
      some (ascii "\x7b\"type\":\"pong\",\"t\":").length := by
    rw [pongText, findValueStart_eq plain_t, find_t]
    rfl
  have hsplit : (pongText n now).render = ascii "\x7b\"type\":\"pong\",\"t\":" ++
      (n.render ++ (ascii ",\"mt\":" ++ decimalInt now ++ [0x7D])) := by
    rw [pongText_render]
    simp only [List.append_assoc]
  refine (findNumberToken_eq_some_iff doubles hstart hsplit).2 ⟨n, _, rfl, ?_, rfl, haccepted⟩
  exact ⟨[], 0x2C, _, rfl, fun b hb => (by cases hb), .inl rfl⟩

/-- Only a ping has a token, the one of its member `t`. -/
theorem ping_of_parsed (payload : Bytes) :
    ∀ msg ∈ parseControlMessage doubles payload, msg.ping = [] ∨
      findStringField payload (ascii "type") = some (ascii "ping") ∧
        findNumberToken doubles payload (ascii "t") = some msg.ping := by
  rw [parseControlMessage]
  cases findStringField payload (ascii "type") with
  | none =>
    intro msg hmsg
    cases hmsg
  | some type =>
    refine forall_mem_ite (forall_mem_some (.inl rfl)) ?_
    by_cases hping : type = ascii "ping"
    · rw [if_pos hping]
      refine forall_mem_some ?_
      cases findNumberToken doubles payload (ascii "t") with
      | none => exact .inl rfl
      | some token => exact .inr ⟨congrArg some hping, rfl⟩
    · rw [if_neg hping]
      iterate 8 refine forall_mem_ite (forall_mem_some (.inl rfl)) ?_
      exact forall_mem_some (.inl rfl)

/-- Every token of a ping is a number that `from_chars` takes. -/
theorem isNumberToken_ping {payload : Bytes} {msg : ControlMessage D}
    (hmsg : msg ∈ parseControlMessage doubles payload) (ht : msg.ping ≠ []) :
    IsNumberToken doubles msg.ping := by
  obtain hnil | ⟨-, hfound⟩ := ping_of_parsed doubles payload msg hmsg
  · exact absurd hnil ht
  · exact isNumberToken_of_found doubles hfound

/-- **Ping echo is exact and injection-free.**  `SerializePong` answers exactly the JSON numbers
that `from_chars` takes, with an object that has them unchanged as its member `t`; it answers every
`t` that `ParseControlMessage` returns; and scanning the pong yields its type and its token. -/
theorem serializePong_exact :
    (∀ (echoedT : Bytes) (now : Int), (∃ json, serializePong doubles echoedT now = some json) ↔
      (∃ n : NumberText, echoedT = n.render) ∧ Accepted doubles echoedT) ∧
    (∀ (echoedT : Bytes) (now : Int), ∀ json ∈ serializePong doubles echoedT now,
      json = ascii "\x7b\"type\":\"pong\",\"t\":" ++ echoedT ++ ascii ",\"mt\":" ++
        decimalInt now ++ [0x7D] ∧
      (∃ n : NumberText, echoedT = n.render ∧ json = (pongText n now).render) ∧
      findStringField json (ascii "type") = some (ascii "pong") ∧
      findNumberToken doubles json (ascii "t") = some echoedT) ∧
    (∀ (payload : Bytes) (now : Int), ∀ msg ∈ parseControlMessage doubles payload,
      msg.ping ≠ [] → ∃ json, serializePong doubles msg.ping now = some json) := by
  refine ⟨?_, ?_, ?_⟩
  · intro echoedT now
    constructor
    · rintro ⟨json, hjson⟩
      exact ((serializePong_eq_some_iff doubles echoedT now json).1 hjson).1
    · intro htoken
      exact ⟨_, (serializePong_eq_some_iff doubles echoedT now _).2 ⟨htoken, rfl⟩⟩
  · intro echoedT now json hjson
    obtain ⟨⟨⟨n, rfl⟩, haccepted⟩, rfl⟩ :=
      (serializePong_eq_some_iff doubles echoedT now json).1 hjson
    rw [← pongText_render]
    exact ⟨rfl, ⟨n, rfl, rfl⟩, findStringField_pong n now,
      findNumberToken_pong doubles n now haccepted⟩
  · intro payload now msg hmsg ht
    exact ⟨_, (serializePong_eq_some_iff doubles msg.ping now _).2
      ⟨isNumberToken_ping doubles hmsg ht, rfl⟩⟩

/-- A number that `from_chars` takes comes back from a pong of the year 2023. -/
theorem serializePong_exact_zero :
    let doubles : Doubles Unit := ⟨fun _ => some (), fun _ => true, fun _ => none, (), ()⟩
    ∃ json, serializePong doubles (ascii "0") 1700000000000 = some json := by
  intro doubles
  exact ((serializePong_exact doubles).1 (ascii "0") 1700000000000).2
    ⟨⟨⟨false, ⟨ascii "0", by decide, by decide⟩, by decide, none, none⟩, rfl⟩, (), rfl, rfl⟩

/-! ### The size of a pong -/

theorem isNumberByte_ne_zero : ∀ b, isNumberByte b = true → b ≠ 0 :=
  fun _ h => ne_of_class h rfl

theorem zero_notMem_render (n : NumberText) : (0 : UInt8) ∉ n.render := fun hmem =>
  isNumberByte_ne_zero 0 (isNumberByte_render n 0 hmem) rfl

theorem isControlPayload_eq_true_iff (data : Bytes) :
    isControlPayload data = true ↔
      data.length < 32768 ∧ data.head? = some 0x7B ∧ (0 : UInt8) ∉ data := by
  rw [isControlPayload]
  simp only [Bool.and_eq_true, bne_iff_ne, ne_eq, decide_eq_true_eq, beq_iff_eq,
    Bool.not_eq_true', List.contains_eq_mem, decide_eq_false_iff_not]
  constructor
  · rintro ⟨⟨⟨-, hlength⟩, hhead⟩, hzero⟩
    exact ⟨hlength, hhead, hzero⟩
  · rintro ⟨hlength, hhead, hzero⟩
    refine ⟨⟨⟨?_, hlength⟩, hhead⟩, hzero⟩
    intro hempty
    rw [List.length_eq_zero_iff.1 hempty] at hhead
    cases hhead

/-- The pong is 26 bytes longer than its token and its time. -/
theorem pongText_length (n : NumberText) (now : Int) :
    (pongText n now).render.length = n.render.length + (decimalInt now).length + 26 := by
  have hfront : (ascii "\x7b\"type\":\"pong\",\"t\":").length = 19 := by decide
  have hclock : (ascii ",\"mt\":").length = 6 := by decide
  rw [pongText_render]
  simp only [List.length_append, hfront, hclock, List.length_singleton]
  omega

/-- Whether a pong is a control payload is a matter of its size. -/
theorem isControlPayload_pongText (n : NumberText) (now : Int) :
    isControlPayload (pongText n now).render = true ↔
      n.render.length + (decimalInt now).length < 32742 := by
  have hzero : (0 : UInt8) ∉ (pongText n now).render := by
    rw [pongText_render]
    simp only [List.mem_append, not_or]
    refine ⟨⟨⟨⟨by decide, zero_notMem_render n⟩, by decide⟩, ?_⟩, by decide⟩
    rw [← decimalText_render]
    exact zero_notMem_render (decimalText now)
  have hhead : (pongText n now).render.head? = some 0x7B := rfl
  rw [isControlPayload_eq_true_iff, pongText_length]
  constructor
  · rintro ⟨hlength, -, -⟩
    omega
  · intro hlength
    exact ⟨by omega, hhead, hzero⟩

/-- **When a pong stays a control payload.**  The pong that answers a ping is a control payload
exactly if the ping's `t` and the decimal text of the time have fewer than 32742 bytes together:
the pong adds 26 bytes to them. -/
theorem pong_isControlPayload_iff {payload : Bytes} {msg : ControlMessage D} (now : Int)
    (hmsg : parseControlMessage doubles payload = some msg) (ht : msg.ping ≠ []) :
    (∃ json, serializePong doubles msg.ping now = some json ∧ isControlPayload json = true) ↔
      msg.ping.length + (decimalInt now).length < 32742 := by
  have htoken := isNumberToken_ping doubles hmsg ht
  obtain ⟨n, hn⟩ := htoken.1
  have hpong : serializePong doubles msg.ping now = some (pongText n now).render :=
    (serializePong_eq_some_iff doubles msg.ping now _).2 ⟨htoken, by rw [hn, pongText_render]⟩
  rw [hpong, hn, ← isControlPayload_pongText n now]
  constructor
  · rintro ⟨json, hjson, hcontrol⟩
    rw [Option.some.inj hjson]
    exact hcontrol
  · intro hcontrol
    exact ⟨_, rfl, hcontrol⟩

/-- The members of a ping. -/
def pingMembers (n : NumberText) : Members :=
  .cons .none (escapeText (ascii "type")) .none .none (.string (escapeText (ascii "ping"))) .none
    (.cons .none (escapeText (ascii "t")) .none .none (.number n) .none .nil)

/-- The text of a ping: an object with the members `type` and `t`. -/
def pingText (n : NumberText) : Text := ⟨.none, .object .none (pingMembers n), .none⟩

theorem pingText_render (n : NumberText) :
    (pingText n).render = ascii "\x7b\"type\":\"ping\",\"t\":" ++ (n.render ++ [0x7D]) := by
  have htype : StringText.render (escapeText (ascii "type")) = ascii "\"type\"" := by decide
  have hping : StringText.render (escapeText (ascii "ping")) = ascii "\"ping\"" := by decide
  have ht : StringText.render (escapeText (ascii "t")) = ascii "\"t\"" := by decide
  have hfront : ascii "\x7b\"type\":\"ping\",\"t\":" = [0x7B] ++ ascii "\"type\"" ++ [0x3A] ++
      ascii "\"ping\"" ++ [0x2C] ++ ascii "\"t\"" ++ [0x3A] := by decide
  rw [hfront]
  simp only [Text.render, pingText, Value.render, pingMembers, Members.render,
    Members.separator, Ws.none, htype, hping, ht, List.append_assoc, List.nil_append,
    List.append_nil, List.cons_append]

/-- The message of a ping. -/
def pingMessage (n : NumberText) : ControlMessage D :=
  { ControlMessage.default doubles with type := .ping, ping := n.render }

theorem parseControlMessage_ping (n : NumberText) (haccepted : Accepted doubles n.render) :
    parseControlMessage doubles (pingText n).render = some (pingMessage doubles n) := by
  have htype : findStringField (pingText n).render (ascii "type") = some (ascii "ping") := by
    rw [pingText, findStringField_eq plain_type]
    rfl
  have hstart : findValueStart (pingText n).render (ascii "t") =
      some (ascii "\x7b\"type\":\"ping\",\"t\":").length := by
    rw [pingText, findValueStart_eq plain_t]
    rfl
  have htoken : findNumberToken doubles (pingText n).render (ascii "t") = some n.render :=
    (findNumberToken_eq_some_iff doubles hstart (pingText_render n)).2
      ⟨n, [0x7D], rfl, ⟨[], 0x7D, [], rfl, fun b hb => (by cases hb), .inr rfl⟩, rfl, haccepted⟩
  rw [parseControlMessage, htype, htoken]
  rfl

/-- One, written with `zeros + 1` zeros behind the point. -/
def longOne (zeros : Nat) : NumberText where
  negative := false
  whole := ⟨ascii "1", by decide, by decide⟩
  no_leading_zero := by decide
  fraction := some ⟨List.replicate (zeros + 1) 0x30, by simp, by simp [isDigit]⟩
  exponent := none

theorem longOne_render (zeros : Nat) :
    (longOne zeros).render = ascii "1." ++ List.replicate (zeros + 1) 0x30 := by
  rw [show ascii "1." = ascii "1" ++ [0x2E] from rfl]
  simp [NumberText.render, longOne]

theorem longOne_length (zeros : Nat) : (longOne zeros).render.length = zeros + 3 := by
  rw [longOne_render, List.length_append, List.length_replicate,
    show (ascii "1.").length = 2 from rfl]
  omega

/-- Doubles that can read `1.` with zeros behind it. -/
def oneDoubles : Doubles Int where
  fromChars token :=
    if token.take 2 = ascii "1." ∧ token.drop 2 = List.replicate (token.length - 2) 0x30 then some 1
    else none
  isFinite _ := true
  toInteger n := some n
  zero := 0
  upright := 1

theorem longOne_accepted (zeros : Nat) : Accepted oneDoubles (longOne zeros).render := by
  refine ⟨1, ?_, rfl⟩
  rw [longOne_render]
  exact if_pos (by simp [ascii])

theorem pong_isControlPayload_iff_short :
    (∃ json, serializePong oneDoubles (longOne 0).render 1700000000000 = some json ∧
      isControlPayload json = true) ↔
        (longOne 0).render.length + (decimalInt 1700000000000).length < 32742 :=
  pong_isControlPayload_iff oneDoubles 1700000000000
    (parseControlMessage_ping oneDoubles (longOne 0) (longOne_accepted 0)) (by decide)

theorem pong_isControlPayload_fails_long :
    ¬∀ (payload : Bytes) (msg : ControlMessage Int) (now : Int), isControlPayload payload = true →
      parseControlMessage oneDoubles payload = some msg → msg.type = .ping → msg.ping ≠ [] →
        ∃ json, serializePong oneDoubles msg.ping now = some json ∧
          isControlPayload json = true := by
  intro hall
  have hlength : (longOne 32737).render.length = 32740 := longOne_length 32737
  have hcontrol : isControlPayload (pingText (longOne 32737)).render = true := by
    rw [isControlPayload_eq_true_iff, pingText_render]
    refine ⟨?_, rfl, ?_⟩
    · rw [List.length_append, List.length_append, hlength]
      decide
    · simp only [List.mem_append, not_or]
      exact ⟨by decide, zero_notMem_render _, by decide⟩
  have hparsed := parseControlMessage_ping oneDoubles (longOne 32737) (longOne_accepted 32737)
  have hne : (longOne 32737).render ≠ [] := by
    intro hnil
    rw [hnil] at hlength
    cases hlength
  have hpong := (pong_isControlPayload_iff oneDoubles 1700000000000 hparsed hne).1
    (hall _ _ 1700000000000 hcontrol hparsed rfl hne)
  have hclock : (decimalInt 1700000000000).length = 13 := by decide +kernel
  rw [show (pingMessage oneDoubles (longOne 32737)).ping = (longOne 32737).render from rfl,
    hlength, hclock] at hpong
  omega

end SecondDisplay.Pong
