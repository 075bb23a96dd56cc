import SecondDisplay.Library.JsonSpelling
import SecondDisplay.Net.ProtocolScan
import SecondDisplay.App.RunLoop

/-!
# String members of a control message

`FindStringField` takes the bytes from the opening quote up to the next one, as they stand in the
text.  For a string in which every character stands for itself these are the string.  For every
other spelling they are something else (`string_members_iff`): an escape is kept as it is written,
and an escaped quote ends the string.  `ParseControlMessage` dispatches by these bytes, and the
receiver's id is compared as these bytes (`parsed_fields`).
-/

namespace SecondDisplay.RunLoop

open SecondDisplay.JsonText SecondDisplay.Protocol SecondDisplay.Encoding

variable {D : Type} (doubles : Doubles D)

/-! ### Where the strings of a message come from -/

/-- What a message has from the string members of its text. -/
structure FieldsOf (json : Bytes) (msg : ControlMessage D) : Prop where
  hello : msg.type = .hello →
    msg.hello.device = (findStringField json (ascii "device")).getD [] ∧
      msg.hello.id = (findStringField json (ascii "id")).getD []
  touch : msg.type = .touch →
    msg.touch.phase = parseTouchPhase ((findStringField json (ascii "phase")).getD [])
  pencil : msg.type = .pencil →
    msg.pencil.phase = parsePencilPhase ((findStringField json (ascii "phase")).getD [])

/-- A message of another type has no such member. -/
theorem fieldsOf_other {json : Bytes} {msg : ControlMessage D} (hhello : msg.type ≠ .hello)
    (htouch : msg.type ≠ .touch) (hpencil : msg.type ≠ .pencil) : FieldsOf json msg :=
  ⟨fun h => absurd h hhello, fun h => absurd h htouch, fun h => absurd h hpencil⟩

/-- Every message has its strings from `FindStringField`. -/
theorem parsed_fields (json : Bytes) :
    ∀ msg ∈ parseControlMessage doubles json, FieldsOf json msg := by
  have other : ∀ (type : ControlType) {msg : ControlMessage D}, msg.type = type →
      (type ≠ .hello ∧ type ≠ .touch ∧ type ≠ .pencil) → ∀ m ∈ some msg, FieldsOf json m := by
    intro type msg htype hother
    subst htype
    exact forall_mem_some (fieldsOf_other hother.1 hother.2.1 hother.2.2)
  rw [parseControlMessage]
  cases findStringField json (ascii "type") with
  | none =>
    intro msg hmsg
    cases hmsg
  | some type =>
    refine forall_mem_ite (forall_mem_some ?_) ?_
    · exact ⟨fun _ => ⟨rfl, rfl⟩, fun h => (by cases h), fun h => (by cases h)⟩
    refine forall_mem_ite (other .ping rfl (by decide)) ?_
    refine forall_mem_ite (forall_mem_some ?_) ?_
    · exact ⟨fun h => (by cases h), fun _ => rfl, fun h => (by cases h)⟩
    refine forall_mem_ite (other .scroll rfl (by decide)) ?_
    refine forall_mem_ite (forall_mem_some ?_) ?_
    · exact ⟨fun h => (by cases h), fun h => (by cases h), fun _ => rfl⟩
    refine forall_mem_ite (other .proximity rfl (by decide)) ?_
    refine forall_mem_ite (other .kf rfl (by decide)) ?_
    refine forall_mem_ite (other .stats rfl (by decide)) ?_
    refine forall_mem_ite (other .sleeping rfl (by decide)) ?_
    exact forall_mem_ite (other .closing rfl (by decide)) (other .unknown rfl (by decide))

/-! ### When they are the strings -/

/-- The members that are read as strings. -/
def stringKeys : List Bytes := [ascii "type", ascii "device", ascii "id", ascii "phase"]

theorem stringKeys_plain {key : Bytes} (h : key ∈ stringKeys) : ∀ b ∈ key, isPlain b = true := by
  have hall : stringKeys.all (fun key => key.all isPlain) = true := by decide
  exact List.all_eq_true.1 (List.all_eq_true.1 hall key h)

/-- `FindStringField` returns a spelled string exactly if nothing in it is escaped. -/
theorem findStringField_spelled_iff {key : Bytes} (hkey : ∀ b ∈ key, isPlain b = true)
    (leading gap trailing : Ws) {members : Members} {front : Bytes} {spelling : List CharSpelling}
    (hmember : members.find key = some (front, .string (spelledText spelling))) :
    findStringField (Text.mk leading (.object gap members) trailing).render key =
        some (utf8 (spelledValue spelling)) ↔
      ∀ t ∈ spelling, t.isLiteral = true := by
  rw [findStringField_eq hkey, hmember]
  dsimp only
  rw [Option.some.injEq, firstPart]
  exact takeWhile_quote_iff spelling

/-- `HelloMatchesExpectedDevice`, said of the id itself. -/
def MatchesId (id : List Char) (expectedId : Bytes) : Prop :=
  expectedId = [] ∨ (id ≠ [] ∧ utf8 id = expectedId)

theorem helloMatchesExpectedDevice_iff (hello : HelloMsg) (expectedId : Bytes) :
    helloMatchesExpectedDevice hello expectedId = true ↔
      expectedId = [] ∨ (hello.id ≠ [] ∧ hello.id = expectedId) := by
  simp [helloMatchesExpectedDevice, List.isEmpty_iff]

theorem utf8_eq_nil_iff (text : List Char) : utf8 text = [] ↔ text = [] := by
  cases text with
  | nil => exact ⟨fun _ => rfl, fun _ => rfl⟩
  | cons c text =>
    constructor
    · intro hnil
      have hlength := congrArg List.length (List.append_eq_nil_iff.1 hnil).1
      rw [String.length_utf8EncodeChar] at hlength
      exact absurd hlength (Nat.ne_of_gt c.utf8Size_pos)
    · intro hnil
      cases hnil

/-- The id is matched as itself against every expected one exactly if it was read as itself. -/
theorem matches_iff (hello : HelloMsg) (id : List Char) :
    (∀ expectedId, helloMatchesExpectedDevice hello expectedId = true ↔ MatchesId id expectedId) ↔
      hello.id = utf8 id := by
  constructor
  · intro hall
    have hread := hall hello.id
    have hself := hall (utf8 id)
    rw [helloMatchesExpectedDevice_iff, MatchesId] at hread hself
    by_cases hnil : hello.id = []
    · by_contra hne
      rw [hnil] at hne hself
      have hid : id ≠ [] := fun h => hne ((utf8_eq_nil_iff id).2 h).symm
      obtain h | h := hself.2 (.inr ⟨hid, rfl⟩)
      · exact hne h.symm
      · exact h.1 rfl
    · obtain h | h := hread.1 (.inr ⟨hnil, rfl⟩)
      · exact absurd h hnil
      · exact h.2.symm
  · intro hsame expectedId
    rw [helloMatchesExpectedDevice_iff, MatchesId, hsame, Ne, utf8_eq_nil_iff]

/-- **When string members are read as JSON strings.**  The string that `ParseControlMessage` works
with for a root member `type`, `device`, `id` or `phase` is the string that is spelled there exactly
if every character of it stands for itself; and exactly then `HelloMatchesExpectedDevice` takes the
receiver for the one that its id names, and for no other. -/
theorem string_members_iff (leading gap trailing : Ws) {members : Members} {key front : Bytes}
    {spelling : List CharSpelling} (hkey : key ∈ stringKeys)
    (hmember : members.find key = some (front, .string (spelledText spelling))) :
    let text := (Text.mk leading (.object gap members) trailing).render
    (findStringField text key = some (utf8 (spelledValue spelling)) ↔
      ∀ t ∈ spelling, t.isLiteral = true) ∧
    ∀ msg ∈ parseControlMessage doubles text,
      (∃ type, findStringField text (ascii "type") = some type ∧ msg.type = controlTypeOf type) ∧
      FieldsOf text msg ∧
      (msg.type = .hello → key = ascii "id" →
        ((∀ expectedId, helloMatchesExpectedDevice msg.hello expectedId = true ↔
            MatchesId (spelledValue spelling) expectedId) ↔
          ∀ t ∈ spelling, t.isLiteral = true)) := by
  intro text
  have hread := findStringField_spelled_iff (stringKeys_plain hkey) leading gap trailing hmember
  refine ⟨hread, ?_⟩
  intro msg hmsg
  have hfields := parsed_fields doubles text msg hmsg
  refine ⟨?_, hfields, ?_⟩
  · have htype := parseControlMessage_type doubles text
    rw [hmsg, Option.map_some] at htype
    obtain ⟨type, hfound, hdispatch⟩ := Option.map_eq_some_iff.1 htype.symm
    exact ⟨type, hfound, hdispatch.symm⟩
  · rintro hhello rfl
    have hfound : findStringField text (ascii "id") = some (firstPart (spelledText spelling)) := by
      rw [findStringField_eq (stringKeys_plain hkey), hmember]
    have hid : msg.hello.id = firstPart (spelledText spelling) := by
      rw [(hfields.hello hhello).2, hfound, Option.getD_some]
    rw [matches_iff, hid, ← hread, hfound, Option.some.injEq]

/-- The members of a hello whose id is `a/b`, with the slash escaped. -/
def escapedHello : Members :=
  let plain (text : String) : StringText :=
    (ascii text).filterMap fun b => if h : isPlain b = true then some (.plain b h) else none
  .cons .none (plain "type") .none .none (.string (plain "hello")) .none
    (.cons .none (plain "id") .none .none
      (.string (spelledText [.literal 'a' (by decide), .short 0x2F (by decide),
        .literal 'b' (by decide)])) .none .nil)

theorem escapedHello_id : escapedHello.find (ascii "id") =
    some (ascii "\"type\":\"hello\",\"id\":", .string (spelledText
      [.literal 'a' (by decide), .short 0x2F (by decide), .literal 'b' (by decide)])) := rfl

theorem string_members_iff_slash :
    ¬findStringField (Text.mk .none (.object .none escapedHello) .none).render (ascii "id") =
      some (ascii "a/b") := by
  intro hread
  have hall := (string_members_iff noNumbers .none .none .none (by decide) escapedHello_id).1.1
    hread
  exact absurd hall (by decide)

theorem string_members_fails_slash :
    ¬∀ (leading gap trailing : Ws) (members : Members) (key front : Bytes)
      (spelling : List CharSpelling), key ∈ stringKeys →
        members.find key = some (front, .string (spelledText spelling)) →
          Char.ofNat 0 ∉ spelledValue spelling →
            findStringField (Text.mk leading (.object gap members) trailing).render key =
              some (utf8 (spelledValue spelling)) := by
  intro hall
  have hread := hall .none .none .none escapedHello (ascii "id") _ _ (by decide) escapedHello_id
    (by decide)
  have hliteral := (findStringField_spelled_iff (List.all_eq_true.1 (by decide)) .none .none .none
    escapedHello_id).1 hread
  exact absurd hliteral (by decide)

end SecondDisplay.RunLoop
