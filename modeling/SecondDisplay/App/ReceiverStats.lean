import SecondDisplay.Library.Search
import SecondDisplay.Library.Strtod
import SecondDisplay.Net.ProtocolNumber

/-!
# Receiver statistics (`SenderApp::PublishReceiverStats`)

The statistics of the receiver are free-form JSON, and the sender stores four numbers of it.  It
looks for the key in quotes anywhere in the text, for the next colon, and takes the number behind
it: not what `FindNumberField` does, which reads the root member of that name.  Both agree where
the key does not stand in quotes in front of that member (`stats_agree_iff`).
-/

namespace SecondDisplay.ReceiverStats

open SecondDisplay.JsonText SecondDisplay.Protocol

/-! ### The code -/

-- `strtodValue` is the value that `strtod` gives the number it takes
variable {D : Type} (doubles : Doubles D) (strtodValue : Bytes → D)

/-- The key in quotes. -/
def quoted (key : Bytes) : Bytes := 0x22 :: key ++ [0x22]

/-- The number that `strtod` reads at the front of a text, if it is finite. -/
def numberAt (text : Bytes) : Option D :=
  (Strtod.subject text).bind fun token =>
    if doubles.isFinite (strtodValue token) then some (strtodValue token) else none

/-- `JsonNumber`. -/
def jsonNumber (json key : Bytes) : Option D :=
  match Search.find (quoted key) json 0 with
  | none => none
  | some pos =>
    match Search.find [0x3A] json (pos + (quoted key).length) with
    | none => none
    | some colon => numberAt doubles strtodValue (json.drop (colon + 1))

/-- What `PublishReceiverStats` stores. -/
structure Stats (D : Type) where
  /-- `receiverRttMs_`. -/
  rtt : D
  /-- `receiverMbps_`. -/
  mbps : D
  /-- `actualFps_`. -/
  fps : D
  /-- `receiverStalls_`. -/
  stalls : Int
deriving DecidableEq

/-- The four values, taken over from the numbers of the keys; `toInt` is the cast to `int`. -/
def publish (toInt : D → Int) (number : Bytes → Option D) (stats : Stats D) : Stats D where
  rtt := (number (ascii "rtt")).getD stats.rtt
  mbps := (number (ascii "mbps")).getD stats.mbps
  fps :=
    match number (ascii "fps") with
    | some value => value
    | none => (number (ascii "actualFps")).getD stats.fps
  stalls := ((number (ascii "stalls")).map toInt).getD stats.stalls

/-- `PublishReceiverStats`. -/
def publishReceiverStats (toInt : D → Int) (stats : Stats D) (json : Bytes) : Stats D :=
  publish toInt (jsonNumber doubles strtodValue json) stats

/-! ### The root member of a name -/

/-- The number of the first root member with the name, if `from_chars` takes it. -/
def rootNumber (members : Members) (key : Bytes) : Option D :=
  match members.find key with
  | some (_, .number n) =>
    (doubles.fromChars n.render).bind fun value =>
      if doubles.isFinite value then some value else none
  | _ => none

/-- The text of the members in front of the name of the first one with the name `key`. -/
def nameFront (key : Bytes) : Members → Option Bytes
  | .nil => none
  | .cons before k afterKey beforeValue value after rest =>
    if StringText.raw k = key then some before.bytes
    else (nameFront key rest).map fun name =>
      before.bytes ++ StringText.render k ++ afterKey.bytes ++ [0x3A] ++ beforeValue.bytes ++
        value.render ++ after.bytes ++ rest.separator ++ name

/-- In front of a value stands its name, and in between only whitespace and a colon. -/
theorem find_nameFront {key : Bytes} {members : Members} {front : Bytes} {value : Value}
    (h : members.find key = some (front, value)) :
    ∃ (name : Bytes) (afterKey beforeValue : Ws), nameFront key members = some name ∧
      front = name ++ (quoted key ++ (afterKey.bytes ++ 0x3A :: beforeValue.bytes)) := by
  match members with
  | .nil => cases h
  | .cons before k afterKey beforeValue v after rest =>
    rw [Members.find] at h
    rw [nameFront]
    split at h
    · rename_i hkey
      cases h
      refine ⟨before.bytes, afterKey, beforeValue, if_pos hkey, ?_⟩
      rw [StringText.render, hkey, quoted]
      simp only [List.append_assoc, List.cons_append, List.nil_append]
    · rename_i hkey
      obtain ⟨⟨inner, w⟩, hfound, heq⟩ := Option.map_eq_some_iff.1 h
      cases heq
      obtain ⟨name, afterKey', beforeValue', hname, hinner⟩ := find_nameFront hfound
      rw [if_neg hkey, hname]
      exact ⟨_, afterKey', beforeValue', rfl, by rw [hinner]; simp only [List.append_assoc]⟩

/-- Where no value is found there is no name. -/
theorem nameFront_eq_none {key : Bytes} {members : Members} (h : members.find key = none) :
    nameFront key members = none := by
  match members with
  | .nil => rfl
  | .cons before k afterKey beforeValue v after rest =>
    rw [Members.find] at h
    rw [nameFront]
    split at h
    · cases h
    · rename_i hkey
      rw [if_neg hkey, nameFront_eq_none (Option.map_eq_none_iff.1 h)]
      rfl

/-- What follows the members of an object ends a value. -/
theorem delimited_behind {key : Bytes} {members : Members} {front : Bytes} {value : Value}
    (h : members.find key = some (front, value)) (trailing : Ws) :
    ∃ behind, members.render ++ 0x7D :: trailing.bytes = front ++ (value.render ++ behind) ∧
      Delimited behind := by
  have hspace : ∀ ws : Ws, ∀ b ∈ ws.bytes, isSpace b = true :=
    fun ws b hb => isWs_isSpace (List.all_eq_true.1 ws.all_ws b hb)
  match members with
  | .nil => cases h
  | .cons before k afterKey beforeValue v after rest =>
    rw [Members.find] at h
    split at h
    · cases h
      refine ⟨after.bytes ++ (rest.separator ++ (rest.render ++ 0x7D :: trailing.bytes)), ?_, ?_⟩
      · simp only [Members.render, List.append_assoc]
      · cases rest with
        | nil => exact ⟨after.bytes, 0x7D, trailing.bytes, rfl, hspace after, .inr rfl⟩
        | cons => exact ⟨after.bytes, 0x2C, _, rfl, hspace after, .inl rfl⟩
    · obtain ⟨⟨inner, w⟩, hfound, heq⟩ := Option.map_eq_some_iff.1 h
      cases heq
      obtain ⟨behind, hbehind, hdelimited⟩ := delimited_behind hfound trailing
      refine ⟨behind, ?_, hdelimited⟩
      simp only [Members.render, List.append_assoc, hbehind]

/-- A value that begins as a number does is one. -/
theorem number_of_render {value : Value} {n : NumberText} {behind tail : Bytes}
    (h : value.render ++ behind = n.render ++ tail) : ∃ m, value = .number m := by
  obtain ⟨c, more, hrender, hc⟩ := n.render_head
  rw [hrender, List.cons_append] at h
  have hother : ∀ (d : UInt8) (rest : Bytes), value.render ++ behind = d :: rest →
      ¬(d = 0x2D ∨ isDigit d = true) → False := by
    intro d rest hd hno
    rw [hd] at h
    rw [(List.cons.inj h).1] at hno
    exact hno hc
  cases value with
  | number m => exact ⟨m, rfl⟩
  | null => exact (hother _ _ rfl (by decide)).elim
  | bool b => cases b <;> exact (hother _ _ rfl (by decide)).elim
  | string s => exact (hother _ _ rfl (by decide)).elim
  | array gap elements => exact (hother _ _ rfl (by decide)).elim
  | object gap members => exact (hother _ _ rfl (by decide)).elim

theorem rootNumber_number {key : Bytes} {members : Members} {front : Bytes} {n : NumberText}
    (h : members.find key = some (front, .number n)) :
    rootNumber doubles members key = (doubles.fromChars n.render).bind fun value =>
      if doubles.isFinite value then some value else none := by
  rw [rootNumber, h]

theorem rootNumber_other {key : Bytes} {members : Members} {front : Bytes} {value : Value}
    (h : members.find key = some (front, value)) (hother : ∀ n, value ≠ .number n) :
    rootNumber doubles members key = none := by
  rw [rootNumber, h]
  cases value with
  | number n => exact absurd rfl (hother n)
  | _ => rfl

/-- **`FindNumberField` reads the root member.** -/
theorem findNumberField_root {key : Bytes} (hkey : ∀ b ∈ key, isPlain b = true)
    (leading gap trailing : Ws) (members : Members) :
    findNumberField doubles (Text.mk leading (.object gap members) trailing).render key =
      rootNumber doubles members key := by
  let json := (Text.mk leading (.object gap members) trailing).render
  have hmembers : json = rootFront leading gap ++ (members.render ++
      (0x7D :: trailing.bytes)) := by
    simp [json, rootFront, Text.render, Value.render]
  have hstart := findValueStart_eq hkey leading gap trailing members
  show findNumberField doubles json key = _
  rw [findNumberField, hstart]
  cases hfind : members.find key with
  | none =>
    rw [rootNumber, hfind]
    rfl
  | some found =>
    obtain ⟨front, value⟩ := found
    obtain ⟨behind, hbehind, hdelimited⟩ := delimited_behind hfind trailing
    have hjson : json = (rootFront leading gap ++ front) ++ (value.render ++ behind) := by
      rw [hmembers, hbehind, List.append_assoc]
    rw [Option.map_some]
    show (numberEnd json (rootFront leading gap ++ front).length).bind _ = _
    by_cases hnumber : ∃ n, value = .number n
    · obtain ⟨n, rfl⟩ := hnumber
      have htoken : substr json (rootFront leading gap ++ front).length
          (rootFront leading gap ++ front ++ n.render).length = n.render := by
        rw [hjson]
        exact substr_middle ..
      rw [numberEnd_of n hjson hdelimited, Option.bind_some, rootNumber_number doubles hfind]
      show (doubles.fromChars (substr json (rootFront leading gap ++ front).length _)).bind _ = _
      rw [htoken]
    · have hnone : numberEnd json (rootFront leading gap ++ front).length = none := by
        refine Option.eq_none_iff_forall_ne_some.2 fun stop hstop => ?_
        obtain ⟨n, tail, hrest, -, -⟩ := numberEnd_some hjson hstop
        exact hnumber (number_of_render hrest)
      rw [hnone, rootNumber_other doubles hfind fun n hn => hnumber ⟨n, hn⟩]
      rfl

/-! ### What `JsonNumber` reads -/

/-- `rest` stands behind the first colon after the first place where the key stands in quotes. -/
def ColonBehind (json key rest : Bytes) : Prop :=
  ∃ pos between, Search.OccursAt (quoted key) json pos ∧
    (∀ before, before < pos → ¬Search.OccursAt (quoted key) json before) ∧
    json.drop (pos + (quoted key).length) = between ++ 0x3A :: rest ∧ 0x3A ∉ between

theorem find_quoted {json key : Bytes} {pos : Nat} (h : Search.OccursAt (quoted key) json pos)
    (hfirst : ∀ before, before < pos → ¬Search.OccursAt (quoted key) json before) :
    Search.find (quoted key) json 0 = some pos :=
  Search.find_eq_some_iff.2 ⟨Nat.zero_le pos, h, fun before _ hlt => hfirst before hlt⟩

/-- `JsonNumber` takes the number behind that colon. -/
theorem jsonNumber_eq {json key rest : Bytes} (h : ColonBehind json key rest) :
    jsonNumber doubles strtodValue json key = numberAt doubles strtodValue rest := by
  obtain ⟨pos, between, hoccurs, hfirst, hdrop, hbetween⟩ := h
  have hrest : json.drop (pos + (quoted key).length + between.length + 1) = rest := by
    rw [Nat.add_assoc, ← List.drop_drop, hdrop, ← List.drop_drop, List.drop_left]
    rfl
  rw [jsonNumber, find_quoted hoccurs hfirst]
  dsimp only
  rw [Search.find_single hdrop hbetween]
  dsimp only
  rw [hrest]

/-- Without such a colon it takes nothing. -/
theorem jsonNumber_none {json key : Bytes} (h : ∀ rest, ¬ColonBehind json key rest) :
    jsonNumber doubles strtodValue json key = none := by
  rw [jsonNumber]
  cases hkey : Search.find (quoted key) json 0 with
  | none => rfl
  | some pos =>
    obtain ⟨-, hoccurs, hfirst⟩ := Search.find_eq_some_iff.1 hkey
    dsimp only
    cases hcolon : Search.find [0x3A] json (pos + (quoted key).length) with
    | none => rfl
    | some colon =>
      obtain ⟨hle, hat, -⟩ := Search.find_eq_some_iff.1 hcolon
      have hmem : 0x3A ∈ json.drop (pos + (quoted key).length) := by
        obtain ⟨k, rfl⟩ := Nat.exists_eq_add_of_le hle
        rw [Search.OccursAt, ← List.drop_drop] at hat
        exact List.mem_of_mem_drop (hat.subset List.mem_cons_self)
      obtain ⟨between, rest, hdrop, hbetween⟩ := List.eq_append_cons_of_mem hmem
      exact absurd ⟨pos, between, hoccurs, fun before => hfirst before (Nat.zero_le before), hdrop,
        hbetween⟩ (h rest)

/-! ### Where the root member is read -/

/-- In front of the name of the root member, or anywhere if there is no such member, stands the
key in quotes. -/
def Earlier (leading gap : Ws) (members : Members) (json key : Bytes) : Prop :=
  ∃ pos, Search.OccursAt (quoted key) json pos ∧
    ∀ name ∈ nameFront key members, pos < (rootFront leading gap ++ name).length

/-- If `from_chars` does not take the number of the root member (it is too small or too large),
then what `strtod` makes of it is not finite. -/
def InRange (members : Members) (key : Bytes) : Prop :=
  ∀ front n, members.find key = some (front, .number n) → doubles.fromChars n.render = none →
    doubles.isFinite (strtodValue n.render) = false

theorem endsNumber_of_isFollower : ∀ b, isFollower b = true → Strtod.endsNumber b = true := by
  decide +kernel

theorem ends_of_delimited {tail : Bytes} (h : Delimited tail) : Strtod.Ends tail := by
  obtain ⟨c, rest, rfl, hc⟩ := h.head
  intro b hb
  cases hb
  exact endsNumber_of_isFollower c hc

/-- At the root member both readings agree. -/
theorem numberAt_eq_rootNumber_iff
    (hsame : ∀ n value, doubles.fromChars (NumberText.render n) = some value →
      strtodValue n.render = value)
    {key : Bytes} {members : Members} {front : Bytes} {value : Value} {tail : Bytes}
    (h : members.find key = some (front, value)) (space : Ws) (htail : Delimited tail) :
    numberAt doubles strtodValue (space.bytes ++ (value.render ++ tail)) =
      rootNumber doubles members key ↔ InRange doubles strtodValue members key := by
  have hspace : ∀ b ∈ space.bytes, isSpace b = true :=
    fun b hb => isWs_isSpace (List.all_eq_true.1 space.all_ws b hb)
  by_cases hnumber : ∃ n, value = .number n
  · obtain ⟨n, rfl⟩ := hnumber
    have hrange : InRange doubles strtodValue members key ↔ (doubles.fromChars n.render = none →
        doubles.isFinite (strtodValue n.render) = false) := by
      constructor
      · exact fun hin => hin front n h
      · intro hin front' m hm
        rw [h] at hm
        cases hm
        exact hin
    have htaken := Strtod.subject_number hspace n (ends_of_delimited htail)
    rw [rootNumber_number doubles h, hrange, numberAt, show (Value.number n).render = n.render from
      rfl, htaken, Option.bind_some]
    cases hchars : doubles.fromChars n.render with
    | none => simp
    | some v => simp [hsame n v hchars]
  · have hother : ∀ n, value ≠ .number n := fun n hn => hnumber ⟨n, hn⟩
    have hnone : numberAt doubles strtodValue (space.bytes ++ (value.render ++ tail)) = none := by
      rw [numberAt, Strtod.subject_other hspace hother]
      rfl
    rw [hnone, rootNumber_other doubles h hother]
    refine ⟨fun _ front' m hm => ?_, fun _ => rfl⟩
    rw [h] at hm
    cases hm
    exact absurd rfl (hother m)

section
variable (leading gap trailing : Ws) {members : Members} {key : Bytes}

/-- What stands in front of and behind the root member's name. -/
theorem text_name {front : Bytes} {value : Value} (h : members.find key = some (front, value)) :
    ∃ (name : Bytes) (afterKey beforeValue : Ws) (behind : Bytes),
      nameFront key members = some name ∧ Delimited behind ∧
      (Text.mk leading (.object gap members) trailing).render =
        (rootFront leading gap ++ name) ++ (quoted key ++
          (afterKey.bytes ++ 0x3A :: (beforeValue.bytes ++ (value.render ++ behind)))) := by
  obtain ⟨name, afterKey, beforeValue, hname, hfront⟩ := find_nameFront h
  obtain ⟨behind, hbehind, hdelimited⟩ := delimited_behind h trailing
  have htext : (Text.mk leading (.object gap members) trailing).render =
      rootFront leading gap ++ (members.render ++ 0x7D :: trailing.bytes) := by
    simp [rootFront, Text.render, Value.render]
  refine ⟨name, afterKey, beforeValue, behind, hname, hdelimited, ?_⟩
  rw [htext, hbehind, hfront]
  simp only [List.append_assoc, List.cons_append]

theorem colon_not_mem (ws : Ws) : 0x3A ∉ ws.bytes := by
  intro hmem
  have hws := List.all_eq_true.1 ws.all_ws 0x3A hmem
  cases hws

/-- If the key does not stand earlier, the colon is that of the root member. -/
theorem colonBehind_root {front : Bytes} {value : Value}
    (h : members.find key = some (front, value))
    (hnot : ¬Earlier leading gap members
      (Text.mk leading (.object gap members) trailing).render key) :
    ∃ (space : Ws) (tail : Bytes), Delimited tail ∧
      ColonBehind (Text.mk leading (.object gap members) trailing).render key
        (space.bytes ++ (value.render ++ tail)) := by
  obtain ⟨name, afterKey, beforeValue, behind, hname, hdelimited, htext⟩ :=
    text_name leading gap trailing h
  refine ⟨beforeValue, behind, hdelimited, (rootFront leading gap ++ name).length, afterKey.bytes,
    ?_, ?_, ?_, colon_not_mem afterKey⟩
  · rw [htext, Search.OccursAt, List.drop_left]
    exact List.prefix_append ..
  · intro before hlt hoccurs
    refine hnot ⟨before, hoccurs, fun other hother => ?_⟩
    rw [hname] at hother
    cases hother
    exact hlt
  · rw [htext, ← List.drop_drop, List.drop_left, List.drop_left]

/-- If the key stands earlier, a colon follows. -/
theorem colonBehind_earlier {front : Bytes} {value : Value}
    (h : members.find key = some (front, value))
    (hearlier : Earlier leading gap members
      (Text.mk leading (.object gap members) trailing).render key) :
    ∃ rest, ColonBehind (Text.mk leading (.object gap members) trailing).render key rest := by
  obtain ⟨name, afterKey, beforeValue, behind, hname, -, htext⟩ :=
    text_name leading gap trailing h
  obtain ⟨later, hlater, hlt⟩ := hearlier
  have hlt := hlt name hname
  revert hlater
  generalize (Text.mk leading (.object gap members) trailing).render = json at htext ⊢
  intro hlater
  cases hfind : Search.find (quoted key) json 0 with
  | none => exact absurd hlater (Search.find_eq_none_iff.1 hfind later (Nat.zero_le later))
  | some pos =>
    obtain ⟨-, hoccurs, hfirst⟩ := Search.find_eq_some_iff.1 hfind
    have hle : pos ≤ later := Nat.le_of_not_lt fun hlt' =>
      hfirst later (Nat.zero_le later) hlt' hlater
    have hcolon : json = ((rootFront leading gap ++ name) ++ quoted key ++ afterKey.bytes) ++
        0x3A :: (beforeValue.bytes ++ (value.render ++ behind)) := by
      rw [htext]
      simp only [List.append_assoc]
    have hmem : 0x3A ∈ json.drop (pos + (quoted key).length) := by
      have hfront : pos + (quoted key).length ≤
          ((rootFront leading gap ++ name) ++ quoted key ++ afterKey.bytes).length := by
        simp only [List.length_append] at hlt ⊢
        omega
      rw [hcolon, List.drop_append_of_le_length hfront]
      exact List.mem_append_right _ List.mem_cons_self
    obtain ⟨between, rest, hdrop, hbetween⟩ := List.eq_append_cons_of_mem hmem
    exact ⟨rest, pos, between, hoccurs, fun before => hfirst before (Nat.zero_le before), hdrop,
      hbetween⟩

end

/-! ### The agreement -/

/-- What `strtod` makes of the text behind the colon happens to be the number of the root
member. -/
def ByChance (members : Members) (json key : Bytes) : Prop :=
  ∀ rest, ColonBehind json key rest →
    numberAt doubles strtodValue rest = rootNumber doubles members key

/-- The keys that are read, with the number that each key has. -/
def readKeys (number : Bytes → Option D) : List Bytes :=
  [ascii "rtt", ascii "mbps", ascii "fps", ascii "stalls"] ++
    if (number (ascii "fps")).isNone then [ascii "actualFps"] else []

theorem plain_readKeys {number : Bytes → Option D} {key : Bytes} (h : key ∈ readKeys number) :
    ∀ b ∈ key, isPlain b = true := by
  rw [readKeys, List.mem_append] at h
  have hall : ∀ key ∈ [ascii "rtt", ascii "mbps", ascii "fps", ascii "stalls", ascii "actualFps"],
      key.all isPlain = true := by decide
  refine List.all_eq_true.1 (hall key ?_)
  obtain h | h := h
  · exact List.mem_append_left [ascii "actualFps"] h
  · split at h
    · exact List.mem_append_right [ascii "rtt", ascii "mbps", ascii "fps", ascii "stalls"] h
    · cases h

/-- **One key.** -/
theorem jsonNumber_eq_iff
    (hsame : ∀ n value, doubles.fromChars (NumberText.render n) = some value →
      strtodValue n.render = value)
    (leading gap trailing : Ws) (members : Members) (key : Bytes) :
    let json := (Text.mk leading (.object gap members) trailing).render
    jsonNumber doubles strtodValue json key = rootNumber doubles members key ↔
      (¬Earlier leading gap members json key ∧ InRange doubles strtodValue members key) ∨
        (Earlier leading gap members json key ∧
          ByChance doubles strtodValue members json key) := by
  intro json
  by_cases hearlier : Earlier leading gap members json key
  · have hchance : jsonNumber doubles strtodValue json key = rootNumber doubles members key ↔
        ByChance doubles strtodValue members json key := by
      constructor
      · intro heq rest hrest
        rw [← jsonNumber_eq doubles strtodValue hrest, heq]
      · intro hall
        by_cases hcolon : ∃ rest, ColonBehind json key rest
        · obtain ⟨rest, hrest⟩ := hcolon
          rw [jsonNumber_eq doubles strtodValue hrest, hall rest hrest]
        · have hno : ∀ rest, ¬ColonBehind json key rest := fun rest hrest => hcolon ⟨rest, hrest⟩
          rw [jsonNumber_none doubles strtodValue hno, rootNumber]
          cases hfind : members.find key with
          | none => rfl
          | some found =>
            exact absurd (colonBehind_earlier leading gap trailing hfind hearlier) hcolon
    simp only [hearlier, not_true_eq_false, false_and, false_or, true_and, hchance]
  · simp only [hearlier, not_false_eq_true, true_and, false_and, or_false]
    cases hfind : members.find key with
    | none =>
      have hnowhere : ∀ rest, ¬ColonBehind json key rest := by
        rintro rest ⟨pos, between, hoccurs, -, -, -⟩
        refine hearlier ⟨pos, hoccurs, fun name hname => ?_⟩
        rw [nameFront_eq_none hfind] at hname
        cases hname
      have hrange : InRange doubles strtodValue members key := by
        intro front n hn
        rw [hfind] at hn
        cases hn
      rw [jsonNumber_none doubles strtodValue hnowhere, rootNumber, hfind]
      exact ⟨fun _ => hrange, fun _ => rfl⟩
    | some found =>
      obtain ⟨front, value⟩ := found
      obtain ⟨space, tail, htail, hcolon⟩ := colonBehind_root leading gap trailing hfind
        hearlier
      rw [jsonNumber_eq doubles strtodValue hcolon]
      exact numberAt_eq_rootNumber_iff doubles strtodValue hsame hfind space htail

/-- What is stored depends on the keys that are read only. -/
theorem publish_congr {found number : Bytes → Option D}
    (h : ∀ key ∈ readKeys number, found key = number key) (toInt : D → Int) (stats : Stats D) :
    publish toInt found stats = publish toInt number stats := by
  have hfour : ∀ key ∈ [ascii "rtt", ascii "mbps", ascii "fps", ascii "stalls"],
      found key = number key := fun key hkey => h key (List.mem_append_left _ hkey)
  have hfps : (match found (ascii "fps") with
      | some value => value
      | none => (found (ascii "actualFps")).getD stats.fps) =
      (match number (ascii "fps") with
      | some value => value
      | none => (number (ascii "actualFps")).getD stats.fps) := by
    rw [hfour (ascii "fps") (by decide)]
    cases habsent : number (ascii "fps") with
    | some value => rfl
    | none =>
      have hactual : ascii "actualFps" ∈ readKeys number := by
        rw [readKeys, habsent]
        exact List.mem_append_right _ List.mem_cons_self
      rw [h _ hactual]
  rw [publish, publish, hfour (ascii "rtt") (by decide), hfour (ascii "mbps") (by decide), hfps,
    hfour (ascii "stalls") (by decide)]

/-- **When the statistics come from the root.**  `from_chars` and `strtod` give a number the same
value.  Then `JsonNumber` reads of an object text what `FindNumberField` reads exactly if each key
that is read does not stand in quotes in front of its root member (and the number there is none
that only `from_chars` finds out of range), or what stands behind the first such place happens to
have the value of the root member.  Where that is so, the root members are stored. -/
theorem stats_agree_iff
    (hsame : ∀ n value, doubles.fromChars (NumberText.render n) = some value →
      strtodValue n.render = value)
    (leading gap trailing : Ws) (members : Members) :
    let json := (Text.mk leading (.object gap members) trailing).render
    let keys := readKeys (rootNumber doubles members)
    ((∀ key ∈ keys, jsonNumber doubles strtodValue json key = findNumberField doubles json key) ↔
      ∀ key ∈ keys,
        (¬Earlier leading gap members json key ∧ InRange doubles strtodValue members key) ∨
          (Earlier leading gap members json key ∧
            ByChance doubles strtodValue members json key)) ∧
    (∀ key ∈ keys, findNumberField doubles json key = rootNumber doubles members key) ∧
    ((∀ key ∈ keys, jsonNumber doubles strtodValue json key = findNumberField doubles json key) →
      ∀ toInt stats, publishReceiverStats doubles strtodValue toInt stats json =
        publish toInt (rootNumber doubles members) stats) := by
  intro json keys
  have hroot : ∀ key ∈ keys, findNumberField doubles json key = rootNumber doubles members key :=
    fun key hkey => findNumberField_root doubles (plain_readKeys hkey) leading gap trailing members
  refine ⟨?_, hroot, ?_⟩
  · refine forall_congr' fun key => forall_congr' fun hkey => ?_
    rw [hroot key hkey]
    exact jsonNumber_eq_iff doubles strtodValue hsame leading gap trailing members key
  · intro hagree toInt stats
    exact publish_congr (fun key hkey => (hagree key hkey).trans (hroot key hkey)) toInt stats

/-! ### A nested member -/

/-- The number that digits stand for. -/
def digitsValue (token : Bytes) : Int :=
  token.foldl (fun n digit => 10 * n + (digit.toNat - 0x30 : Nat)) 0

/-- `double` where the texts have numbers of digits only. -/
def digitNumbers : Doubles Int where
  fromChars token := if token.all isDigit then some (digitsValue token) else none
  isFinite _ := true
  toInteger := some
  zero := 0
  upright := 0

theorem digitNumbers_same (n : NumberText) (value : Int)
    (h : digitNumbers.fromChars n.render = some value) : digitsValue n.render = value := by
  have htaken : (if n.render.all isDigit then some (digitsValue n.render) else none) =
      some value := h
  split at htaken
  · exact Option.some.inj htaken
  · cases htaken

/-- A string without escapes. -/
def plainText (text : String) : StringText :=
  (ascii text).filterMap fun b => if h : isPlain b = true then some (.plain b h) else none

/-- The number nine hundred or twelve. -/
def wholeNumber (digits : Digits) (h : digits.bytes.head? ≠ some 0x30) : NumberText :=
  ⟨false, digits, fun hzero => absurd hzero h, none, none⟩

/-- Statistics whose round trip is twelve, behind those of an earlier report. -/
def nestedStats : Members :=
  .cons .none (plainText "type") .none .none (.string (plainText "stats")) .none
    (.cons .none (plainText "last") .none .none
      (.object .none (.cons .none (plainText "rtt") .none .none
        (.number (wholeNumber ⟨ascii "900", by decide, by decide⟩ (by decide))) .none .nil)) .none
      (.cons .none (plainText "rtt") .none .none
        (.number (wholeNumber ⟨ascii "12", by decide, by decide⟩ (by decide))) .none .nil))

theorem nestedStats_render : (Text.mk .none (.object .none nestedStats) .none).render =
    ascii "\x7b\"type\":\"stats\",\"last\":\x7b\"rtt\":900\x7d,\"rtt\":12\x7d" := by
  decide +kernel

/-- Statistics without a nested member. -/
def flatStats : Members :=
  .cons .none (plainText "rtt") .none .none
    (.number (wholeNumber ⟨ascii "12", by decide, by decide⟩ (by decide))) .none .nil

theorem stats_agree_iff_flat :
    publishReceiverStats digitNumbers digitsValue id ⟨0, 0, 0, 0⟩
      (Text.mk .none (.object .none flatStats) .none).render = ⟨12, 0, 0, 0⟩ :=
  ((stats_agree_iff digitNumbers digitsValue digitNumbers_same .none .none .none flatStats).2.2
    (by decide +kernel) id ⟨0, 0, 0, 0⟩).trans (by decide +kernel)

theorem stats_agree_fails_nested :
    ¬∀ (leading gap trailing : Ws) (members : Members) (stats : Stats Int),
      let json := (Text.mk leading (.object gap members) trailing).render
      (parseControlMessage digitNumbers json).map (fun msg => msg.type) = some .stats →
        publishReceiverStats digitNumbers digitsValue id stats json =
          publish id (findNumberField digitNumbers json) stats := by
  intro hall
  have hstored := hall .none .none .none nestedStats ⟨0, 0, 0, 0⟩
  rw [nestedStats_render] at hstored
  exact absurd (hstored (by decide +kernel)) (by decide +kernel)

end SecondDisplay.ReceiverStats
