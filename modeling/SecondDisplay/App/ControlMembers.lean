import SecondDisplay.App.ReceiverStats
import SecondDisplay.Net.SenderPing

/-!
# A control message and the members of its text

On the text of a JSON object every field function of the parser reads the first root member of its
name, and what it returns depends on the kind and the text of that member alone.  So a control
message does not depend on the layout of its text, on the order of its members, on what is nested in
them, or on members with other names (`parseControlMessage_layout`); and the statistics of a ping
come back (`findNumberToken_senderPing_iff`).
-/

namespace SecondDisplay.ControlMembers

open SecondDisplay.JsonText SecondDisplay.Protocol SecondDisplay.Pong SecondDisplay.SenderPing
open Config (escapeText decimalText)
open ReceiverStats (rootNumber findNumberField_root delimited_behind)

variable {D : Type} (doubles : Doubles D)

/-! ### What the fields are -/

/-- The first part of the first root member with the name, if it is a string. -/
def rootString (members : Members) (key : Bytes) : Option Bytes :=
  match members.find key with
  | some (_, .string s) => some (firstPart s)
  | _ => none

/-- The first root member with the name, if it is a Boolean. -/
def rootBool (members : Members) (key : Bytes) : Option Bool :=
  match members.find key with
  | some (_, .bool b) => some b
  | _ => none

/-- The text of the first root member with the name, if `from_chars` takes it. -/
def rootToken (members : Members) (key : Bytes) : Option Bytes :=
  match members.find key with
  | some (_, .number n) => (rootNumber doubles members key).map fun _ => n.render
  | _ => none

section
variable {key front : Bytes} {members : Members} {value : Value}

/-- Where the value of a root member stands. -/
theorem text_value (leading gap trailing : Ws) (h : members.find key = some (front, value)) :
    ∃ behind, (Text.mk leading (.object gap members) trailing).render =
      (rootFront leading gap ++ front) ++ (value.render ++ behind) ∧ Delimited behind := by
  obtain ⟨behind, hbehind, hdelimited⟩ := delimited_behind h trailing
  refine ⟨behind, ?_, hdelimited⟩
  have hmembers : (Text.mk leading (.object gap members) trailing).render =
      rootFront leading gap ++ (members.render ++ 0x7D :: trailing.bytes) := by
    simp [rootFront, Text.render, Value.render]
  rw [hmembers, hbehind, List.append_assoc]

theorem rootNumber_some {number : D} (h : rootNumber doubles members key = some number) :
    ∃ front n, members.find key = some (front, .number n) ∧ Accepted doubles n.render := by
  rw [rootNumber] at h
  split at h
  · rename_i front n hfind
    obtain ⟨value, hvalue, hfinite⟩ := Option.bind_eq_some_iff.1 h
    split at hfinite
    · rename_i hyes
      exact ⟨front, n, hfind, value, hvalue, hyes⟩
    · cases hfinite
  · cases h

theorem rootToken_eq_some_iff {token : Bytes} : rootToken doubles members key = some token ↔
    ∃ front n, members.find key = some (front, .number n) ∧ token = n.render ∧
      Accepted doubles token := by
  constructor
  · intro h
    rw [rootToken] at h
    split at h
    · rename_i front n hfind
      obtain ⟨number, hnumber, rfl⟩ := Option.map_eq_some_iff.1 h
      obtain ⟨front', m, hfind', haccepted⟩ := rootNumber_some doubles hnumber
      rw [hfind] at hfind'
      obtain ⟨rfl, hsame⟩ := Prod.mk.inj (Option.some.inj hfind')
      cases hsame
      exact ⟨front, n, hfind, rfl, haccepted⟩
    · cases h
  · rintro ⟨front, n, hfind, rfl, number, hnumber, hfinite⟩
    rw [rootToken, hfind]
    dsimp only
    rw [rootNumber, hfind]
    dsimp only
    rw [hnumber, Option.bind_some, if_pos hfinite]
    rfl

/-- **`FindNumberToken` reads the root member.** -/
theorem findNumberToken_root (hkey : ∀ b ∈ key, isPlain b = true) (leading gap trailing : Ws)
    (members : Members) :
    findNumberToken doubles (Text.mk leading (.object gap members) trailing).render key =
      rootToken doubles members key := by
  have hstart := findValueStart_eq hkey leading gap trailing members
  rw [findNumberToken, hstart, findNumberField_root doubles hkey]
  cases hnumber : rootNumber doubles members key with
  | none =>
    have hnone : rootToken doubles members key = none := by
      rw [rootToken, hnumber]
      split <;> rfl
    rw [hnone]
    cases members.find key <;> rfl
  | some number =>
    obtain ⟨front, n, hfind, -⟩ := rootNumber_some doubles hnumber
    obtain ⟨behind, htext, hdelimited⟩ := text_value leading gap trailing hfind
    rw [rootToken, hfind]
    dsimp only [Option.map_some, Option.bind_eq_bind, Option.bind_some]
    rw [hnumber, Option.map_some, skipWhile_isNumberByte n htext hdelimited, htext]
    exact congrArg some (substr_middle ..)

/-- The first byte of a value that is not a Boolean. -/
theorem render_noBool (h : ∀ b, value ≠ .bool b) :
    ∃ c tail, value.render = c :: tail ∧ c ≠ 0x74 ∧ c ≠ 0x66 := by
  cases value with
  | null => exact ⟨_, _, rfl, by decide, by decide⟩
  | bool b => exact absurd rfl (h b)
  | number n =>
    obtain ⟨c, tail, hrender, hc⟩ := n.render_head
    refine ⟨c, tail, hrender, ?_, ?_⟩
    · intro hsame
      rw [hsame] at hc
      exact absurd hc (by decide)
    · intro hsame
      rw [hsame] at hc
      exact absurd hc (by decide)
  | string s => exact ⟨_, _, rfl, by decide, by decide⟩
  | array gap elements => exact ⟨_, _, rfl, by decide, by decide⟩
  | object gap members => exact ⟨_, _, rfl, by decide, by decide⟩

/-- **`FindBoolField` reads the root member.** -/
theorem findBoolField_root (hkey : ∀ b ∈ key, isPlain b = true) (leading gap trailing : Ws)
    (members : Members) :
    findBoolField (Text.mk leading (.object gap members) trailing).render key =
      rootBool members key := by
  rw [findBoolField, findValueStart_eq hkey leading gap trailing members, rootBool]
  cases hfind : members.find key with
  | none => rfl
  | some found =>
    obtain ⟨front, value⟩ := found
    obtain ⟨behind, htext, -⟩ := text_value leading gap trailing hfind
    rw [Option.map_some]
    dsimp only
    rw [htext, List.drop_left]
    by_cases hbool : ∃ b, value = .bool b
    · obtain ⟨b, rfl⟩ := hbool
      cases b <;> rfl
    · have hother : ∀ b, value ≠ .bool b := fun b hb => hbool ⟨b, hb⟩
      obtain ⟨c, tail, hrender, htrue, hfalse⟩ := render_noBool hother
      have hno : ∀ (word : Bytes) (d : UInt8), c ≠ d →
          (d :: word).isPrefixOf (c :: (tail ++ behind)) = false := by
        intro word d hne
        simp [List.isPrefixOf, Ne.symm hne]
      rw [hrender, List.cons_append]
      rw [if_neg (by rw [show ascii "true" = 0x74 :: ascii "rue" from rfl, hno _ _ htrue]; decide),
        if_neg (by rw [show ascii "false" = 0x66 :: ascii "alse" from rfl, hno _ _ hfalse]; decide)]
      cases value with
      | bool b => exact absurd rfl (hother b)
      | _ => rfl

end

/-! ### What a message is -/

/-- The names that `ParseControlMessage` looks for. -/
def messageKeys : List Bytes :=
  [ascii "type", ascii "pixelsWide", ascii "pixelsHigh", ascii "scale", ascii "device",
    ascii "id", ascii "pv", ascii "t", ascii "phase", ascii "x", ascii "y", ascii "dx",
    ascii "dy", ascii "pressure", ascii "azimuth", ascii "altitude", ascii "entering"]

theorem messageKeys_plain {key : Bytes} (h : key ∈ messageKeys) :
    ∀ b ∈ key, isPlain b = true := by
  have hall : messageKeys.all (fun key => key.all isPlain) = true := by decide
  exact List.all_eq_true.1 (List.all_eq_true.1 hall key h)

/-- Two texts in which every field of a message is the same. -/
structure SameFields (json json' : Bytes) : Prop where
  string : ∀ key ∈ messageKeys, findStringField json key = findStringField json' key
  number : ∀ key ∈ messageKeys,
    findNumberField doubles json key = findNumberField doubles json' key
  token : ∀ key ∈ messageKeys,
    findNumberToken doubles json key = findNumberToken doubles json' key
  bool : ∀ key ∈ messageKeys, findBoolField json key = findBoolField json' key

/-- A message whose text for statistics is that of another text. -/
def withStats (json : Bytes) (msg : ControlMessage D) : ControlMessage D :=
  { msg with stats := if msg.type = .stats then json else [] }

/-- One branch of the dispatch. -/
theorem ite_withStats {c : Prop} [Decidable c] {json : Bytes} {yes yes' : ControlMessage D}
    {no no' : Option (ControlMessage D)} (hyes : yes' = withStats json yes)
    (hno : no' = no.map (withStats json)) :
    (if c then some yes' else no') = (if c then some yes else no).map (withStats json) := by
  by_cases hc : c
  · rw [if_pos hc, if_pos hc, hyes, Option.map_some]
  · rw [if_neg hc, if_neg hc, hno]

/-- **The message is its fields.** -/
theorem parseControlMessage_of_same {json json' : Bytes} (h : SameFields doubles json json') :
    parseControlMessage doubles json' =
      (parseControlMessage doubles json).map (withStats json') := by
  have hmem : ∀ key, messageKeys.contains key = true → key ∈ messageKeys :=
    fun key hkey => List.contains_iff_mem.1 hkey
  unfold parseControlMessage
  rw [h.string _ (hmem (ascii "type") (by decide))]
  cases findStringField json' (ascii "type") with
  | none => rfl
  | some type =>
    dsimp only
    simp only [h.string _ (hmem (ascii "device") (by decide)),
      h.string _ (hmem (ascii "id") (by decide)), h.string _ (hmem (ascii "phase") (by decide)),
      h.number _ (hmem (ascii "pixelsWide") (by decide)),
      h.number _ (hmem (ascii "pixelsHigh") (by decide)),
      h.number _ (hmem (ascii "scale") (by decide)), h.number _ (hmem (ascii "pv") (by decide)),
      h.number _ (hmem (ascii "x") (by decide)), h.number _ (hmem (ascii "y") (by decide)),
      h.number _ (hmem (ascii "dx") (by decide)), h.number _ (hmem (ascii "dy") (by decide)),
      h.number _ (hmem (ascii "pressure") (by decide)),
      h.number _ (hmem (ascii "azimuth") (by decide)),
      h.number _ (hmem (ascii "altitude") (by decide)),
      h.token _ (hmem (ascii "t") (by decide)), h.bool _ (hmem (ascii "entering") (by decide))]
    iterate 10 refine ite_withStats rfl ?_
    rfl

/-- The first root member with the name, if it is a number, a string or a Boolean. -/
def scalar (members : Members) (key : Bytes) : Option Value :=
  match members.find key with
  | some (_, .number n) => some (.number n)
  | some (_, .string s) => some (.string s)
  | some (_, .bool b) => some (.bool b)
  | _ => none

section
variable {key : Bytes} (members : Members)

theorem rootString_scalar : rootString members key =
    match scalar members key with
    | some (.string s) => some (firstPart s)
    | _ => none := by
  rw [rootString, scalar]
  cases members.find key with
  | none => rfl
  | some found => obtain ⟨front, value⟩ := found; cases value <;> rfl

theorem rootBool_scalar : rootBool members key =
    match scalar members key with
    | some (.bool b) => some b
    | _ => none := by
  rw [rootBool, scalar]
  cases members.find key with
  | none => rfl
  | some found => obtain ⟨front, value⟩ := found; cases value <;> rfl

theorem rootNumber_scalar : rootNumber doubles members key =
    match scalar members key with
    | some (.number n) => (doubles.fromChars n.render).bind fun value =>
      if doubles.isFinite value then some value else none
    | _ => none := by
  rw [rootNumber, scalar]
  cases members.find key with
  | none => rfl
  | some found => obtain ⟨front, value⟩ := found; cases value <;> rfl

theorem rootToken_scalar : rootToken doubles members key =
    match scalar members key with
    | some (.number n) => (rootNumber doubles members key).map fun _ => n.render
    | _ => none := by
  rw [rootToken, scalar]
  cases members.find key with
  | none => rfl
  | some found => obtain ⟨front, value⟩ := found; cases value <;> rfl

end

/-- Object texts with the same scalars have the same fields. -/
theorem sameFields_of_scalar (leading gap trailing leading' gap' trailing' : Ws)
    {members members' : Members}
    (h : ∀ key ∈ messageKeys, scalar members key = scalar members' key) :
    SameFields doubles (Text.mk leading (.object gap members) trailing).render
      (Text.mk leading' (.object gap' members') trailing').render := by
  have hnumber : ∀ key ∈ messageKeys, rootNumber doubles members key =
      rootNumber doubles members' key := by
    intro key hkey
    rw [rootNumber_scalar, rootNumber_scalar, h key hkey]
  constructor
  · intro key hkey
    have hplain := messageKeys_plain hkey
    rw [findStringField_eq hplain, findStringField_eq hplain]
    show rootString members key = rootString members' key
    rw [rootString_scalar, rootString_scalar, h key hkey]
  · intro key hkey
    have hplain := messageKeys_plain hkey
    rw [findNumberField_root doubles hplain, findNumberField_root doubles hplain]
    exact hnumber key hkey
  · intro key hkey
    have hplain := messageKeys_plain hkey
    rw [findNumberToken_root doubles hplain, findNumberToken_root doubles hplain,
      rootToken_scalar, rootToken_scalar, h key hkey, hnumber key hkey]
  · intro key hkey
    have hplain := messageKeys_plain hkey
    rw [findBoolField_root hplain, findBoolField_root hplain, rootBool_scalar, rootBool_scalar,
      h key hkey]

/-- **The layout does not matter.**  If in two object texts the first root members of the names that
`ParseControlMessage` looks for are the same numbers, strings and Booleans, or none of these, then
both are the same message, or none, whatever the whitespace, the order of the members, the members
nested in them and the members with other names are.  Only statistics keep their text. -/
theorem parseControlMessage_layout (leading gap trailing leading' gap' trailing' : Ws)
    {members members' : Members}
    (h : ∀ key ∈ messageKeys, scalar members key = scalar members' key) :
    parseControlMessage doubles (Text.mk leading' (.object gap' members') trailing').render =
      (parseControlMessage doubles (Text.mk leading (.object gap members) trailing).render).map
        (withStats (Text.mk leading' (.object gap' members') trailing').render) :=
  parseControlMessage_of_same doubles
    (sameFields_of_scalar doubles leading gap trailing leading' gap' trailing' h)

/-- A scroll message, and the same one in another order, with a member in front that holds another
message. -/
theorem parseControlMessage_layout_scroll :
    let doubles : Doubles Nat :=
      ⟨fun token => some token.length, fun _ => true, fun _ => none, 0, 0⟩
    let member (key : String) (value : Value) (rest : Members) : Members :=
      .cons .none (escapeText (ascii key)) .none .none value .none rest
    let scroll : Members := member "type" (.string (escapeText (ascii "scroll")))
      (member "dx" (.number (decimalText 5)) (member "dy" (.number (decimalText (-12))) .nil))
    let shuffled : Members := member "extra" (.object .none (member "type"
        (.string (escapeText (ascii "touch"))) (member "dy" (.number (decimalText 7)) .nil)))
      (member "dy" (.number (decimalText (-12)))
        (member "type" (.string (escapeText (ascii "scroll")))
          (member "dx" (.number (decimalText 5)) .nil)))
    parseControlMessage doubles (Text.mk .none (.object .none shuffled) .none).render =
      (parseControlMessage doubles (Text.mk .none (.object .none scroll) .none).render).map
        (withStats (Text.mk .none (.object .none shuffled) .none).render) := by
  intro doubles member scroll shuffled
  refine parseControlMessage_layout doubles .none .none .none .none .none .none ?_
  simp only [messageKeys, List.forall_mem_cons, List.not_mem_nil, false_implies, implies_true,
    and_true]
  exact ⟨rfl, rfl, rfl, rfl, rfl, rfl, rfl, rfl, rfl, rfl, rfl, rfl, rfl, rfl, rfl, rfl, rfl⟩

/-! ### A ping read again -/

/-- A number of a ping under a name. -/
theorem find_ping (chars : DoubleChars D) (stats : SenderPingStats D) (key : Bytes)
    (n : NumberText) :
    (∃ front, (Members.cons .none (escapeText (ascii "type")) .none .none
        (.string (escapeText (ascii "ping"))) .none
        (membersOf (numbers doubles chars stats))).find key = some (front, .number n)) ↔
      (key, some n) ∈ numbers doubles chars stats := by
  have hraw : StringText.raw (escapeText (ascii "type")) = ascii "type" := by decide
  have hnodup : ((numbers doubles chars stats).map Prod.fst).Nodup := by
    rw [numbers_keys]
    decide
  have hlater := find_membersOf (plainKey_numbers doubles chars stats) hnodup key (.number n)
  rw [Members.find, hraw]
  by_cases htype : ascii "type" = key
  · subst htype
    rw [if_pos rfl]
    constructor
    · rintro ⟨front, hfront⟩
      cases hfront
    · intro hmem
      have htype : ascii "type" ∈ kKeys := mem_kKeys doubles chars hmem
      exact absurd htype (by decide)
  · have hsame : (∃ m, (key, some m) ∈ numbers doubles chars stats ∧
        Value.number n = .number m) ↔ (key, some n) ∈ numbers doubles chars stats := by
      constructor
      · rintro ⟨m, hm, heq⟩
        rwa [Value.number.inj heq]
      · exact fun hn => ⟨n, hn, rfl⟩
    rw [if_neg htype, ← hsame, ← hlater]
    cases (membersOf (numbers doubles chars stats)).find key with
    | none => simp
    | some found => simp

/-- **The statistics of a ping come back.**  A ping is a control payload of that type.  Whatever
statistics it carries, `FindNumberToken` finds under a plain name exactly the number that was
written for this name, as it was written, and where none was written it finds none. -/
theorem findNumberToken_senderPing_iff (chars : DoubleChars D) (stats : SenderPingStats D)
    {key : Bytes} (hkey : ∀ b ∈ key, isPlain b = true) (token : Bytes) :
    isControlPayload (serializeSenderPing doubles chars stats) = true ∧
      findStringField (serializeSenderPing doubles chars stats) (ascii "type") =
        some (ascii "ping") ∧
      (findNumberToken doubles (serializeSenderPing doubles chars stats) key = some token ↔
        ∃ n, (key, some n) ∈ numbers doubles chars stats ∧ token = n.render ∧
          Accepted doubles token) := by
  refine ⟨isControlPayload_ping doubles chars stats, ?_⟩
  rw [← senderPingText_render, senderPingText]
  refine ⟨?_, ?_⟩
  · rw [findStringField_eq plain_type]
    rfl
  · rw [findNumberToken_root doubles hkey, rootToken_eq_some_iff, exists_comm]
    refine exists_congr fun n => ?_
    rw [← find_ping, exists_and_right]

/-- What waits to be sent, in a ping that says nothing else. -/
theorem findNumberToken_senderPing_iff_pending :
    let doubles : Doubles Nat :=
      ⟨fun token => some token.length, fun _ => true, fun _ => none, 0, 0⟩
    let chars : DoubleChars Nat := ⟨fun _ => none, fun _ _ h => (by cases h)⟩
    let stats : SenderPingStats Nat := { pending := some 3 }
    isControlPayload (serializeSenderPing doubles chars stats) = true ∧
      findStringField (serializeSenderPing doubles chars stats) (ascii "type") =
        some (ascii "ping") ∧
      (findNumberToken doubles (serializeSenderPing doubles chars stats) (ascii "pending") =
          some (ascii "3") ↔
        ∃ n, (ascii "pending", some n) ∈ numbers doubles chars stats ∧ ascii "3" = n.render ∧
          Accepted doubles (ascii "3")) := by
  intro doubles chars stats
  exact findNumberToken_senderPing_iff doubles chars stats (List.all_eq_true.1 (by decide))
    (ascii "3")

end SecondDisplay.ControlMembers
