import SecondDisplay.App.ConfigRoundTrip

/-!
# The parser reads every tree (`JsonParser`, `EscapeJson`)

A tree of values is written with any whitespace between its tokens, with its strings as `EscapeJson`
writes them and its integers in decimal.  `Parse` reads every such text as its tree, where of the
members of an object with one key the last one counts (`parse_renders`), and refuses a string, an
array or an object with more than whitespace behind it.
-/

namespace SecondDisplay.JsonTree

open JsonText JsonParser
open Config (escapeJson escapeText escapeText_raw escapeText_decode boolText decimalInt decimalText
  decimalText_render decimalText_json)

/-! ### Trees -/

/-- A tree of values.  The members of an object stand in the order of the text, with repeated
keys. -/
inductive Tree where
  | null
  | bool (b : Bool)
  | number (n : Int64)
  | string (s : Bytes)
  | array (items : List Tree)
  | object (members : List (Bytes × Tree))

mutual

/-- What the parser is to return for a tree. -/
def Tree.json : Tree → Json
  | .null => .null
  | .bool b => .bool b
  | .number n => .number n
  | .string s => .string s
  | .array items => .array (itemsJson items)
  | .object members => .object (membersJson [] members)

/-- The items of an array. -/
def itemsJson : List Tree → List Json
  | [] => []
  | item :: items => item.json :: itemsJson items

/-- The members of an object, each assigned to its key. -/
def membersJson (object : Json.Object) : List (Bytes × Tree) → Json.Object
  | [] => object
  | (key, value) :: members => membersJson (Json.insertOrAssign key value.json object) members

end

/-- **The last member of a key counts.** -/
theorem field_membersJson (key : Bytes) (members : List (Bytes × Tree)) (object : Json.Object) :
    Json.field (membersJson object members) key =
      ((members.reverse.lookup key).map Tree.json).or (Json.field object key) := by
  induction members generalizing object with
  | nil => rfl
  | cons member members ih =>
    obtain ⟨k, value⟩ := member
    rw [membersJson, ih, Json.field_insertOrAssign, List.reverse_cons, List.lookup_append]
    cases members.reverse.lookup key with
    | some found => rfl
    | none =>
      by_cases hkey : key = k
      · simp [hkey]
      · have hother : (key == k) = false := by simpa using hkey
        simp [hkey, List.lookup_cons, hother]

/-! ### Texts -/

/-- A string between its quotes. -/
def quoted (s : Bytes) : Bytes := 0x22 :: (escapeJson s ++ [0x22])

mutual

/-- A text of a tree, without whitespace around it. -/
inductive Renders : Tree → Bytes → Prop
  | null : Renders .null (ascii "null")
  | bool (b : Bool) : Renders (.bool b) (boolText b)
  | number (n : Int64) : Renders (.number n) (decimalInt n.toInt)
  | string (s : Bytes) : Renders (.string s) (quoted s)
  | emptyArray {gap : Bytes} (hgap : Spaces gap) : Renders (.array []) (0x5B :: (gap ++ [0x5D]))
  | array {items : List Tree} {body : Bytes} (h : RendersItems items body) :
      Renders (.array items) (0x5B :: (body ++ [0x5D]))
  | emptyObject {gap : Bytes} (hgap : Spaces gap) : Renders (.object []) (0x7B :: (gap ++ [0x7D]))
  | object {members : List (Bytes × Tree)} {body : Bytes} (h : RendersMembers members body) :
      Renders (.object members) (0x7B :: (body ++ [0x7D]))

/-- The items of an array, with whitespace around each and commas between them. -/
inductive RendersItems : List Tree → Bytes → Prop
  | last {item : Tree} {before text after : Bytes} (hbefore : Spaces before)
      (h : Renders item text) (hafter : Spaces after) :
      RendersItems [item] (before ++ (text ++ after))
  | more {item : Tree} {items : List Tree} {before text after body : Bytes}
      (hbefore : Spaces before) (h : Renders item text) (hafter : Spaces after)
      (hbody : RendersItems items body) :
      RendersItems (item :: items) (before ++ (text ++ (after ++ 0x2C :: body)))

/-- The members of an object, with whitespace around keys and values. -/
inductive RendersMembers : List (Bytes × Tree) → Bytes → Prop
  | last {key : Bytes} {value : Tree} {before afterKey beforeValue text after : Bytes}
      (hbefore : Spaces before) (hafterKey : Spaces afterKey) (hbeforeValue : Spaces beforeValue)
      (h : Renders value text) (hafter : Spaces after) :
      RendersMembers [(key, value)]
        (before ++ (quoted key ++ (afterKey ++ 0x3A :: (beforeValue ++ (text ++ after)))))
  | more {key : Bytes} {value : Tree} {members : List (Bytes × Tree)}
      {before afterKey beforeValue text after body : Bytes}
      (hbefore : Spaces before) (hafterKey : Spaces afterKey) (hbeforeValue : Spaces beforeValue)
      (h : Renders value text) (hafter : Spaces after) (hbody : RendersMembers members body) :
      RendersMembers ((key, value) :: members)
        (before ++ (quoted key ++ (afterKey ++ 0x3A :: (beforeValue ++
          (text ++ (after ++ 0x2C :: body))))))

end

theorem quoted_eq (s : Bytes) : quoted s = (escapeText s).render := by
  rw [quoted, StringText.render, escapeText_raw]
  rfl

/-- A text does not begin with whitespace or a closing bracket. -/
theorem Renders.head {tree : Tree} {text : Bytes} (h : Renders tree text) :
    ∃ c tail, text = c :: tail ∧ isSpace c = false ∧ c ≠ 0x5D := by
  cases h with
  | null => exact ⟨_, _, rfl, by decide, by decide⟩
  | bool b =>
    cases b with
    | true => exact ⟨_, _, rfl, by decide, by decide⟩
    | false => exact ⟨_, _, rfl, by decide, by decide⟩
  | number n =>
    obtain ⟨c, tail, hrender, hc⟩ := (decimalText n.toInt).render_head
    rw [decimalText_render] at hrender
    exact ⟨c, tail, hrender, numberHead_not_isSpace c hc, numberHead_ne_close c hc⟩
  | string s => exact ⟨_, _, rfl, by decide, by decide⟩
  | emptyArray hgap => exact ⟨_, _, rfl, by decide, by decide⟩
  | array h => exact ⟨_, _, rfl, by decide, by decide⟩
  | emptyObject hgap => exact ⟨_, _, rfl, by decide, by decide⟩
  | object h => exact ⟨_, _, rfl, by decide, by decide⟩

theorem RendersItems.consume_close {items : List Tree} {body : Bytes} (h : RendersItems items body)
    (rest : Bytes) : consume 0x5D ([] ++ (body ++ 0x5D :: rest)) = none := by
  obtain ⟨before, c, tail, hbefore, hc, hclose, rfl⟩ : ∃ before c tail, Spaces before ∧
      isSpace c = false ∧ c ≠ 0x5D ∧ body = before ++ c :: tail := by
    cases h with
    | last hbefore h hafter =>
      obtain ⟨c, tail, rfl, hc, hclose⟩ := h.head
      exact ⟨_, c, _, hbefore, hc, hclose, rfl⟩
    | more hbefore h hafter hbody =>
      obtain ⟨c, tail, rfl, hc, hclose⟩ := h.head
      exact ⟨_, c, _, hbefore, hc, hclose, rfl⟩
  rw [List.nil_append, List.append_assoc, List.cons_append]
  exact consume_other hbefore hc hclose

theorem RendersMembers.consume_close {members : List (Bytes × Tree)} {body : Bytes}
    (h : RendersMembers members body) (rest : Bytes) :
    consume 0x7D ([] ++ (body ++ 0x7D :: rest)) = none := by
  obtain ⟨before, tail, hbefore, rfl⟩ : ∃ before tail, Spaces before ∧
      body = before ++ 0x22 :: tail := by
    cases h with
    | last hbefore => exact ⟨_, _, hbefore, rfl⟩
    | more hbefore => exact ⟨_, _, hbefore, rfl⟩
  rw [List.nil_append, List.append_assoc, List.cons_append]
  exact consume_other hbefore (by decide) (by decide)

theorem spaces_nil : Spaces [] := by
  intro b hb
  cases hb

/-! ### Parsing -/

mutual

/-- **Every text of a tree is parsed to it.** -/
theorem Renders.parses {tree : Tree} {text : Bytes} (h : Renders tree text) :
    Parses text tree.json := by
  match h with
  | .null => exact Parses.nullName
  | .bool true => exact Parses.trueName
  | .bool false => exact Parses.falseName
  | .number n =>
    have hnumber := decimalText_json (Int64.le_toInt n) (Int64.toInt_le n)
    rw [Int64.ofInt_toInt] at hnumber
    rw [← decimalText_render]
    exact Parses.number hnumber
  | .string s =>
    have hstring := (Closes.string (escapeText s)).parses
    rw [escapeText_decode, ← quoted_eq] at hstring
    exact hstring
  | .emptyArray hgap => exact (Closes.emptyArray hgap).parses
  | .array hitems =>
    exact (Closes.array spaces_nil hitems.consume_close (hitems.parses [])).parses
  | .emptyObject hgap => exact (Closes.emptyObject hgap).parses
  | .object hmembers =>
    exact (Closes.object spaces_nil hmembers.consume_close (hmembers.parses [])).parses

theorem RendersItems.parses {items : List Tree} {body : Bytes} (h : RendersItems items body)
    (array : List Json) : ParsesElements body array (array ++ itemsJson items) := by
  match h with
  | .last hbefore hitem hafter => exact ParsesElements.last hitem.parses hbefore hafter array
  | @RendersItems.more item _ _ _ _ _ hbefore hitem hafter hbody =>
    have hrest := hbody.parses (array ++ [item.json])
    rw [List.append_assoc] at hrest
    exact ParsesElements.more hitem.parses hbefore hafter hrest

theorem RendersMembers.parses {members : List (Bytes × Tree)} {body : Bytes}
    (h : RendersMembers members body) (object : Json.Object) :
    ParsesMembers body object (membersJson object members) := by
  match h with
  | @RendersMembers.last key _ _ _ _ _ _ hbefore hafterKey hbeforeValue hvalue hafter =>
    have hlast := ParsesMembers.last hvalue.parses hbefore hafterKey hbeforeValue hafter
      (escapeText key) object
    rw [escapeText_decode, ← quoted_eq] at hlast
    exact hlast
  | @RendersMembers.more key value _ _ _ _ _ _ _ hbefore hafterKey hbeforeValue hvalue hafter
      hbody =>
    have hrest := hbody.parses (Json.insertOrAssign key value.json object)
    rw [quoted_eq]
    refine ParsesMembers.more hvalue.parses hbefore hafterKey hbeforeValue hafter
      (escapeText key) ?_
    rw [escapeText_decode]
    exact hrest

end

/-- A tree whose text says itself where it ends: a string, an array or an object. -/
def Tree.Delimited : Tree → Prop
  | .string _ | .array _ | .object _ => True
  | .null | .bool _ | .number _ => False

theorem Renders.closes {tree : Tree} {text : Bytes} (h : Renders tree text)
    (hdelimited : tree.Delimited) : Closes text tree.json := by
  cases h with
  | null => exact hdelimited.elim
  | bool b => exact hdelimited.elim
  | number n => exact hdelimited.elim
  | string s =>
    have hstring := Closes.string (escapeText s)
    rw [escapeText_decode, ← quoted_eq] at hstring
    exact hstring
  | emptyArray hgap => exact Closes.emptyArray hgap
  | array hitems => exact Closes.array spaces_nil hitems.consume_close (hitems.parses [])
  | emptyObject hgap => exact Closes.emptyObject hgap
  | object hmembers => exact Closes.object spaces_nil hmembers.consume_close (hmembers.parses [])

/-- **The parser reads every tree.**  Every text of a tree, with any whitespace around it, is parsed
to the tree; of the members of an object with one key the last one counts.  Behind a string, an
array or an object `Parse` accepts nothing but whitespace. -/
theorem parse_renders :
    (∀ (tree : Tree) (text leading trailing : Bytes), Renders tree text → Spaces leading →
      Spaces trailing → parse (leading ++ (text ++ trailing)) = some tree.json) ∧
    (∀ (key : Bytes) (members : List (Bytes × Tree)),
      Json.field (membersJson [] members) key = (members.reverse.lookup key).map Tree.json) ∧
    ∀ (tree : Tree) (text leading between rest : Bytes) (c : UInt8), tree.Delimited →
      Renders tree text → Spaces leading → Spaces between → isSpace c = false →
      parse (leading ++ (text ++ (between ++ c :: rest))) = none := by
  refine ⟨fun tree text leading trailing h hleading htrailing => ?_, fun key members => ?_,
    fun tree text leading between rest c hdelimited h hleading hbetween hc => ?_⟩
  · exact parse_of_parses h.parses hleading htrailing
  · rw [field_membersJson]
    exact Option.or_none
  · exact parse_of_closes (h.closes hdelimited) hleading hbetween hc

end SecondDisplay.JsonTree
