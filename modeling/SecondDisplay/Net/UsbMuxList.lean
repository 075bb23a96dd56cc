import SecondDisplay.Net.UsbMuxText
import SecondDisplay.App.ConfigRoundTrip
import SecondDisplay.Library.Labels
import Mathlib.Data.List.Nodup

/-!
# The list of devices as a property list (`net/UsbMux.cpp`)

The service answers with one dictionary for each device: the number of the device and the type of
the message, and then its properties, among them the type of the connection and the serial number.
White space may stand between all tags and around all values, and there may be other keys.
`ListUsbMuxDevices` finds the dictionary of a serial number by the message type before it, which it
searches for without white space: the own one if there is none (`DeviceList.entryOf_own`), otherwise
the last one before it without white space (`DeviceList.entryOf_earlier`), or the beginning of the
list (`DeviceList.entryOf_none`).
-/

namespace SecondDisplay.UsbMux

open Search (find rfind IsChunk FreeOf find_cut find_cut_none rfind_cut rfind_cut_none find_single
  prefix_chunk prefix_last freeOf_nil cut_lt)

/-! ### Keys and values -/

/-- White space. -/
abbrev Gap := { gap : Bytes // ∀ b ∈ gap, isSpace b = true }

/-- The keys that are searched for. -/
inductive Field where
  | deviceId | messageType | connectionType | serialNumber
  deriving DecidableEq

/-- The name of a key. -/
def Field.key : Field → Bytes
  | .deviceId => kDeviceId
  | .messageType => ascii "MessageType"
  | .connectionType => kConnectionType
  | .serialNumber => kSerialNumber

/-- The type of the value of a key. -/
def Field.tag : Field → Bytes
  | .deviceId => ascii "integer"
  | .messageType | .connectionType | .serialNumber => ascii "string"

/-- The opening tag of a key, and its name. -/
def Field.opening (field : Field) : Bytes := ascii "<key>" ++ field.key

/-- The text of a value, without a tag in it and without white space at its ends. -/
structure IsText (value : Bytes) : Prop where
  noTag : 0x3C ∉ value
  trimmed : trimSpace value = value

/-- A key and its value. -/
structure Member where
  field : Field
  value : Bytes
  isText : IsText value
  afterKey : Gap
  beforeValue : Gap
  afterValue : Gap
  afterTag : Gap

namespace Member

/-- The tag and the value. -/
def valueChunk (m : Member) : Bytes :=
  ascii "<" ++ m.field.tag ++ ascii ">" ++ (m.beforeValue.1 ++ (m.value ++ m.afterValue.1))

/-- The pieces of a member, one for each tag. -/
def chunks (m : Member) : List Bytes :=
  [m.field.opening, ascii "</key>" ++ m.afterKey.1, m.valueChunk,
    ascii "</" ++ m.field.tag ++ ascii ">" ++ m.afterTag.1]

end Member

/-- A piece that opens none of the keys. -/
structure IsOther (chunk : Bytes) : Prop where
  isChunk : IsChunk 0x3C chunk
  noField : ∀ field : Field, chunk ≠ field.opening

/-- What stands in a dictionary: the keys that are searched for, and pieces of anything else. -/
inductive Item where
  | member (m : Member)
  | other (chunk : Bytes) (h : IsOther chunk)

/-- The pieces of an item. -/
def Item.chunks : Item → List Bytes
  | .member m => m.chunks
  | .other chunk _ => [chunk]

/-- The pieces of some items. -/
def chunksOf (items : List Item) : List Bytes := items.flatMap Item.chunks

/-- The keys among some items. -/
def fieldsOf (items : List Item) : List Field :=
  items.filterMap fun
    | .member m => some m.field
    | .other .. => none

/-- The first member of a key. -/
def memberOf (field : Field) (items : List Item) : Option Member :=
  items.findSome? fun
    | .member m => if m.field = field then some m else none
    | .other .. => none

/-! ### Lists of devices -/

/-- The dictionary of a device.  `DeviceID` and `MessageType` come before the properties, in either
order; the properties have `ConnectionType`, `DeviceID` and `SerialNumber` in any order. -/
structure Entry where
  id : UInt32
  type : Bytes
  udid : Bytes
  outer : List Item
  inner : List Item
  after : List Item
  openGap : Gap
  propertiesGap : Gap
  innerGap : Gap
  innerEndGap : Gap
  endGap : Gap
  outerFields : (fieldsOf outer).Perm [.deviceId, .messageType]
  innerFields : (fieldsOf inner).Perm [.connectionType, .deviceId, .serialNumber]
  afterFields : fieldsOf after = []
  flat : ∀ chunk ∈ chunksOf outer, ¬ascii "<dict>" <+: chunk
  number : (memberOf .deviceId outer).map Member.value = some (Config.decimal id.toNat)
  attached : (memberOf .messageType outer).map Member.value = some (ascii "Attached")
  connection : (memberOf .connectionType inner).map Member.value = some type
  serial : (memberOf .serialNumber inner).map Member.value = some udid

namespace Entry

/-- The beginning of the properties. -/
def propertiesOpening (entry : Entry) : List Bytes :=
  [ascii "<key>Properties", ascii "</key>" ++ entry.propertiesGap.1,
    ascii "<dict>" ++ entry.innerGap.1]

/-- The end of a dictionary. -/
def closing (entry : Entry) : List Bytes :=
  (ascii "</dict>" ++ entry.innerEndGap.1) ::
    (chunksOf entry.after ++ [ascii "</dict>" ++ entry.endGap.1])

/-- The pieces of a dictionary. -/
def chunks (entry : Entry) : List Bytes :=
  (ascii "<dict>" ++ entry.openGap.1) ::
    (chunksOf entry.outer ++ (entry.propertiesOpening ++ (chunksOf entry.inner ++ entry.closing)))

/-- The message type is written without white space up to the end of its value. -/
def Tight (entry : Entry) : Prop :=
  ∃ m ∈ memberOf .messageType entry.outer,
    m.afterKey.1 = [] ∧ m.beforeValue.1 = [] ∧ m.afterValue.1 = []

instance decidableTight (entry : Entry) : Decidable entry.Tight :=
  match h : memberOf .messageType entry.outer with
  | none => .isFalse (by rintro ⟨m, hm, -⟩; rw [h] at hm; cases hm)
  | some m => decidable_of_iff (m.afterKey.1 = [] ∧ m.beforeValue.1 = [] ∧ m.afterValue.1 = [])
      ⟨fun hall => ⟨m, h, hall⟩, fun ⟨m', hm', hall⟩ => by
        obtain rfl := Option.some.inj (h.symm.trans hm')
        exact hall⟩

/-- The device of a dictionary. -/
def device (entry : Entry) : UsbMuxDevice := { deviceId := entry.id, udid := entry.udid }

/-- The device is on the cable. -/
def onCable (entry : Entry) : Bool := decide (entry.type = ascii "USB")

end Entry

/-- The answer of the service. -/
structure DeviceList where
  lead : Bytes
  prologue : List Bytes
  entries : List Entry
  epilogue : List Bytes
  lead_noTag : 0x3C ∉ lead
  prologue_other : ∀ chunk ∈ prologue, IsOther chunk
  epilogue_other : ∀ chunk ∈ epilogue, IsOther chunk

/-- The answer as text. -/
def DeviceList.text (list : DeviceList) : Bytes :=
  list.lead ++ (list.prologue ++ (list.entries.flatMap Entry.chunks ++ list.epilogue)).flatten

/-! ### The pieces -/

theorem not_mem_gap (gap : Gap) : 0x3C ∉ gap.1 ∧ 0x3E ∉ gap.1 :=
  ⟨fun hmem => absurd (gap.2 _ hmem) (by decide), fun hmem => absurd (gap.2 _ hmem) (by decide)⟩

theorem Member.isChunk (m : Member) : ∀ chunk ∈ m.chunks, IsChunk 0x3C chunk := by
  have hopening : ∀ field : Field, 0x3C ∉ field.opening.tail := by
    intro field; cases field <;> decide
  have htag : ∀ field : Field, 0x3C ∉ field.tag ++ ascii ">" := by
    intro field; cases field <;> decide
  have hvalue : 0x3C ∉ m.beforeValue.1 ++ (m.value ++ m.afterValue.1) := by
    rw [List.mem_append, List.mem_append]
    rintro (hgap | hvalue | hgap)
    · exact (not_mem_gap _).1 hgap
    · exact m.isText.noTag hvalue
    · exact (not_mem_gap _).1 hgap
  intro chunk hmem
  obtain rfl | rfl | rfl | rfl : chunk = m.field.opening ∨ chunk = ascii "</key>" ++ m.afterKey.1 ∨
      chunk = m.valueChunk ∨ chunk = ascii "</" ++ m.field.tag ++ ascii ">" ++ m.afterTag.1 := by
    simpa [Member.chunks] using hmem
  · exact ⟨m.field.opening.tail, rfl, hopening m.field⟩
  · exact IsChunk.append ⟨ascii "/key>", rfl, by decide⟩ (not_mem_gap _).1
  · refine IsChunk.append ?_ hvalue
    exact ⟨m.field.tag ++ ascii ">", rfl, htag m.field⟩
  · refine IsChunk.append ?_ (not_mem_gap _).1
    refine ⟨ascii "/" ++ (m.field.tag ++ ascii ">"), by rw [← List.append_assoc]; rfl, ?_⟩
    rw [List.mem_append]
    rintro (hslash | hmem)
    · exact absurd hslash (by decide)
    · exact htag m.field hmem

theorem Item.isChunk (item : Item) : ∀ chunk ∈ item.chunks, IsChunk 0x3C chunk := by
  intro chunk hmem
  cases item with
  | member m => exact m.isChunk chunk hmem
  | other own h =>
    obtain rfl := List.mem_singleton.1 hmem
    exact h.isChunk

theorem isChunk_chunksOf (items : List Item) : ∀ chunk ∈ chunksOf items, IsChunk 0x3C chunk := by
  intro chunk hmem
  obtain ⟨item, -, hchunk⟩ := List.mem_flatMap.1 hmem
  exact item.isChunk chunk hchunk

theorem isChunk_dict (gap : Gap) :
    IsChunk 0x3C (ascii "<dict>" ++ gap.1) ∧ IsChunk 0x3C (ascii "</dict>" ++ gap.1) :=
  ⟨IsChunk.append ⟨ascii "dict>", rfl, by decide⟩ (not_mem_gap gap).1,
    IsChunk.append ⟨ascii "/dict>", rfl, by decide⟩ (not_mem_gap gap).1⟩

theorem Entry.isChunk (entry : Entry) : ∀ chunk ∈ entry.chunks, IsChunk 0x3C chunk := by
  intro chunk hmem
  simp only [Entry.chunks, Entry.propertiesOpening, Entry.closing, List.mem_cons, List.mem_append,
    List.not_mem_nil, or_false] at hmem
  obtain rfl | houter | (rfl | rfl | rfl) | hinner | rfl | hafter | rfl := hmem
  · exact (isChunk_dict _).1
  · exact isChunk_chunksOf _ chunk houter
  · exact ⟨ascii "key>Properties", rfl, by decide⟩
  · exact IsChunk.append ⟨ascii "/key>", rfl, by decide⟩ (not_mem_gap _).1
  · exact (isChunk_dict _).1
  · exact isChunk_chunksOf _ chunk hinner
  · exact (isChunk_dict _).2
  · exact isChunk_chunksOf _ chunk hafter
  · exact (isChunk_dict _).2

theorem DeviceList.isChunk (list : DeviceList) :
    ∀ chunk ∈ list.prologue ++ (list.entries.flatMap Entry.chunks ++ list.epilogue),
      IsChunk 0x3C chunk := by
  intro chunk hmem
  rw [List.mem_append, List.mem_append] at hmem
  obtain hprologue | hentries | hepilogue := hmem
  · exact (list.prologue_other chunk hprologue).isChunk
  · obtain ⟨entry, -, hchunk⟩ := List.mem_flatMap.1 hentries
    exact entry.isChunk chunk hchunk
  · exact (list.epilogue_other chunk hepilogue).isChunk

/-! ### Where the keys stand -/

theorem opening_injective {field field' : Field} (h : field.opening = field'.opening) :
    field = field' := by
  have hall : ∀ field field' : Field, field.opening = field'.opening → field = field' := by
    intro field field'
    cases field <;> cases field' <;> decide
  exact hall field field' h

theorem Member.opening_mem (m : Member) {field : Field} (h : field.opening ∈ m.chunks) :
    m.field = field := by
  have hclose : ∀ field : Field, ¬ascii "</" <+: field.opening := by
    intro field; cases field <;> decide
  have htag : ∀ field field' : Field,
      ¬(ascii "<" ++ field.tag ++ ascii ">") <+: field'.opening := by
    intro field field'; cases field <;> cases field' <;> decide
  obtain hopening | hkey | hvalue | hend : field.opening = m.field.opening ∨
      field.opening = ascii "</key>" ++ m.afterKey.1 ∨ field.opening = m.valueChunk ∨
        field.opening = ascii "</" ++ m.field.tag ++ ascii ">" ++ m.afterTag.1 := by
    simpa [Member.chunks] using h
  · exact (opening_injective hopening).symm
  · exact absurd (hkey ▸ ⟨ascii "key>" ++ m.afterKey.1, rfl⟩) (hclose field)
  · exact absurd (hvalue ▸ List.prefix_append _ _) (htag m.field field)
  · refine absurd ?_ (hclose field)
    rw [hend, List.append_assoc, List.append_assoc]
    exact List.prefix_append _ _

theorem opening_mem_chunksOf {items : List Item} {field : Field}
    (h : field.opening ∈ chunksOf items) : field ∈ fieldsOf items := by
  obtain ⟨item, hitem, hchunk⟩ := List.mem_flatMap.1 h
  refine List.mem_filterMap.2 ⟨item, hitem, ?_⟩
  cases item with
  | member m => exact congrArg some (m.opening_mem hchunk)
  | other own hother => exact absurd (List.mem_singleton.1 hchunk).symm (hother.noField field)

theorem fieldsOf_append (items items' : List Item) :
    fieldsOf (items ++ items') = fieldsOf items ++ fieldsOf items' := List.filterMap_append

theorem chunksOf_append (items items' : List Item) :
    chunksOf (items ++ items') = chunksOf items ++ chunksOf items' := List.flatMap_append

/-- The first member of a key, and what stands before it. -/
theorem memberOf_split {field : Field} {items : List Item} {m : Member}
    (h : memberOf field items = some m) :
    ∃ left right, items = left ++ .member m :: right ∧ m.field = field ∧ field ∉ fieldsOf left := by
  induction items with
  | nil => cases h
  | cons item items ih =>
    rw [memberOf, List.findSome?_cons] at h
    cases item with
    | other own hother =>
      obtain ⟨left, right, rfl, hfield, hfree⟩ := ih h
      exact ⟨.other own hother :: left, right, rfl, hfield, hfree⟩
    | member own =>
      dsimp only at h
      by_cases hown : own.field = field
      · rw [if_pos hown] at h
        obtain rfl := Option.some.inj h
        exact ⟨[], items, rfl, hown, List.not_mem_nil⟩
      · rw [if_neg hown] at h
        obtain ⟨left, right, rfl, hfield, hfree⟩ := ih h
        refine ⟨.member own :: left, right, rfl, hfield, fun hmem => ?_⟩
        obtain heq | hmem := List.mem_cons.1 hmem
        · exact hown heq.symm
        · exact hfree hmem

/-- A list of keys without repetitions holds the key of a member once. -/
theorem not_mem_fieldsOf {left right : List Item} {m : Member} {fields : List Field}
    (hperm : (fieldsOf (left ++ .member m :: right)).Perm fields) (hnodup : fields.Nodup) :
    m.field ∉ fieldsOf left ∧ m.field ∉ fieldsOf right := by
  have hlist : (fieldsOf left ++ m.field :: fieldsOf right).Nodup := by
    rw [fieldsOf_append] at hperm
    exact hperm.nodup_iff.2 hnodup
  rw [List.nodup_middle, List.nodup_cons, List.mem_append, not_or] at hlist
  exact hlist.1

/-! ### Searching for a key -/

theorem keyNeedle_eq (field : Field) :
    keyNeedle field.key = field.opening ++ 0x3C :: ascii "/key>" := rfl

theorem isChunk_opening (field : Field) : IsChunk 0x3C field.opening := by
  have hopening : ∀ field : Field, 0x3C ∉ field.opening.tail := by
    intro field; cases field <;> decide
  exact ⟨field.opening.tail, rfl, hopening field⟩

/-- Pieces without the opening of a key are free of it. -/
theorem freeOf_key {middle after : List Bytes} (field : Field)
    (hchunks : ∀ chunk ∈ middle ++ after, IsChunk 0x3C chunk) (hnot : field.opening ∉ middle) :
    FreeOf (keyNeedle field.key) middle after := by
  rintro left chunk right rfl hstarts
  rw [keyNeedle_eq, prefix_chunk (isChunk_opening field)] at hstarts
  · exact hnot (hstarts.1 ▸ List.mem_append_right _ List.mem_cons_self)
  · intro other hmem
    refine hchunks other ?_
    rw [List.append_assoc, List.cons_append]
    exact List.mem_append_right _ hmem

/-- A member begins with its key. -/
theorem keyNeedle_begins (m : Member) (rest : List Bytes) :
    keyNeedle m.field.key <+: (m.chunks ++ rest).flatten := by
  refine ⟨m.afterKey.1 ++ (m.valueChunk ++
    (ascii "</" ++ m.field.tag ++ ascii ">" ++ m.afterTag.1 ++ rest.flatten)), ?_⟩
  rw [keyNeedle_eq]
  simp only [Member.chunks, List.flatten_append, List.flatten_cons, List.flatten_nil,
    List.append_assoc, List.nil_append]
  rfl

theorem trimSpace_gaps {value : Bytes} (h : trimSpace value = value) (before after : Gap) :
    trimSpace (before.1 ++ (value ++ after.1)) = value := by
  have hdrop : value.dropWhile isSpace = value := by
    refine (List.dropWhile_suffix isSpace).eq_of_length_le ?_
    have hle := (List.rdropWhile_prefix isSpace (value.dropWhile isSpace)).length_le
    rw [show (value.dropWhile isSpace).rdropWhile isSpace = value from h] at hle
    exact hle
  have hrdrop : value.rdropWhile isSpace = value := by
    rw [trimSpace, hdrop] at h
    exact h
  rw [trimSpace, List.dropWhile_append_of_pos before.2]
  cases value with
  | nil =>
    rw [List.nil_append, List.dropWhile_eq_nil_iff.2 after.2]
    rfl
  | cons b value =>
    have hb : isSpace b = false := by
      cases hspace : isSpace b with
      | false => rfl
      | true =>
        rw [List.dropWhile_cons_of_pos hspace] at hdrop
        have hle := (List.dropWhile_suffix (l := value) isSpace).length_le
        rw [hdrop] at hle
        exact absurd hle (Nat.not_succ_le_self _)
    rw [List.cons_append, List.dropWhile_cons_of_neg (by rw [hb]; exact Bool.false_ne_true),
      ← List.cons_append, List.rdropWhile, List.reverse_append,
      List.dropWhile_append_of_pos fun x hx => after.2 x (List.mem_reverse.1 hx)]
    exact hrdrop

/-- **The value of a key** that is found at a member. -/
theorem valueForKey_cut {lead : Bytes} {before middle rest : List Bytes} {next : Bytes}
    {start : Nat} (m : Member) (hlead : 0x3C ∉ lead)
    (hchunks : ∀ chunk ∈ before ++ (middle ++ (m.chunks ++ next :: rest)), IsChunk 0x3C chunk)
    (hle : start ≤ (lead ++ before.flatten).length)
    (hgt : ∀ left chunk right, before = left ++ chunk :: right →
      (lead ++ left.flatten).length < start)
    (hnot : m.field.opening ∉ middle) :
    valueForKey (lead ++ (before ++ (middle ++ (m.chunks ++ next :: rest))).flatten) m.field.key
      start = some m.value := by
  have hfind : find (keyNeedle m.field.key)
      (lead ++ (before ++ (middle ++ (m.chunks ++ next :: rest))).flatten) start =
        some (lead ++ (before ++ middle).flatten).length :=
    find_cut (p := ascii "key>" ++ m.field.key ++ ascii "</key>") hlead hchunks hle hgt
      (freeOf_key m.field (fun chunk hmem => hchunks chunk (List.mem_append_right _ hmem)) hnot)
      (keyNeedle_begins m (next :: rest))
  have hkey : (lead ++ (before ++ (middle ++ (m.chunks ++ next :: rest))).flatten).drop
      (lead ++ (before ++ middle).flatten).length =
        keyNeedle m.field.key ++ ((m.afterKey.1 ++ (ascii "<" ++ m.field.tag)) ++
          0x3E :: ((m.beforeValue.1 ++ (m.value ++ m.afterValue.1)) ++ 0x3C :: (ascii "/" ++
            (m.field.tag ++ ascii ">" ++ m.afterTag.1) ++ (next :: rest).flatten))) := by
    have hsplit : lead ++ (before ++ (middle ++ (m.chunks ++ next :: rest))).flatten =
        (lead ++ (before ++ middle).flatten) ++ (m.chunks ++ next :: rest).flatten := by
      simp only [List.flatten_append, List.append_assoc]
    rw [hsplit, List.drop_left, keyNeedle_eq]
    simp only [Member.chunks, Member.valueChunk, List.flatten_append, List.flatten_cons,
      List.flatten_nil, List.append_assoc, List.nil_append]
    rfl
  generalize lead ++ (before ++ (middle ++ (m.chunks ++ next :: rest))).flatten = plist
    at hfind hkey ⊢
  generalize (lead ++ (before ++ middle).flatten).length = pos at hfind hkey
  have htag := Labels.drop_add_of_drop _ hkey
  have hnoClose : 0x3E ∉ m.afterKey.1 ++ (ascii "<" ++ m.field.tag) := by
    have hall : ∀ field : Field, 0x3E ∉ ascii "<" ++ field.tag := by
      intro field; cases field <;> decide
    rw [List.mem_append]
    rintro (hgap | htag)
    · exact (not_mem_gap _).2 hgap
    · exact hall m.field htag
  have hvalue := Labels.drop_add_of_drop _ (htag.trans (List.append_cons ..))
  rw [List.length_append, List.length_singleton, ← Nat.add_assoc] at hvalue
  have hnoOpen : 0x3C ∉ m.beforeValue.1 ++ (m.value ++ m.afterValue.1) := by
    rw [List.mem_append, List.mem_append]
    rintro (hgap | htext | hgap)
    · exact (not_mem_gap _).1 hgap
    · exact m.isText.noTag htext
    · exact (not_mem_gap _).1 hgap
  rw [valueForKey, hfind]
  dsimp only
  rw [find_single htag hnoClose]
  dsimp only
  rw [find_single hvalue hnoOpen]
  dsimp only
  rw [hvalue, Nat.add_sub_cancel_left, List.take_left, trimSpace_gaps m.isText.trimmed]

/-! ### Numbers -/

theorem isDecimal_decimal (n : Nat) : IsDecimal (Config.decimal n) :=
  ⟨Config.decimal_ne_nil n, Config.decimal_all_digits n⟩

theorem numberForKey_decimal {plist key : Bytes} {start : Nat} {id : UInt32}
    (h : valueForKey plist key start = some (Config.decimal id.toNat)) :
    numberForKey plist key start = some id := by
  have hdecimal := isDecimal_decimal id.toNat
  have hvalue : JsonParser.digitsValue (Config.decimal id.toNat) = id.toNat :=
    Config.digitsValue_decimal _
  have hlt : JsonParser.digitsValue (Config.decimal id.toNat) < 2 ^ 32 := by
    rw [hvalue]
    exact id.toNat_lt
  have hread := (numberForKey_eq h).1
  rw [hdecimal.cString, strtoul_of_isDecimal hdecimal hlt, hvalue, UInt32.ofNat_toNat] at hread
  exact hread hdecimal.isNumeral

/-! ### The message type -/

theorem attachedNeedle_eq : attachedNeedle = Field.messageType.opening ++ 0x3C ::
    (ascii "/key>" ++ 0x3C :: (ascii "string>Attached" ++ 0x3C :: ascii "/string>")) := rfl

/-- Where the message type stands without white space. -/
theorem attached_prefix_iff {m : Member} {rest : List Bytes} (hfield : m.field = .messageType)
    (hvalue : m.value = ascii "Attached") (hrest : ∀ chunk ∈ rest, IsChunk 0x3C chunk) :
    attachedNeedle <+: (m.chunks ++ rest).flatten ↔
      m.afterKey.1 = [] ∧ m.beforeValue.1 = [] ∧ m.afterValue.1 = [] := by
  have hchunks : ∀ chunk ∈ m.chunks ++ rest, IsChunk 0x3C chunk := by
    intro chunk hmem
    obtain hown | hrest' := List.mem_append.1 hmem
    · exact m.isChunk chunk hown
    · exact hrest chunk hrest'
  have htag : m.field.tag = ascii "string" := by rw [hfield]; rfl
  have hgap : ascii "</key>" = ascii "</key>" ++ m.afterKey.1 ↔ m.afterKey.1 = [] :=
    List.self_eq_append_right
  have hchunk : ascii "<string>Attached" = m.valueChunk ↔
      m.beforeValue.1 = [] ∧ m.afterValue.1 = [] := by
    rw [Member.valueChunk, htag, hvalue]
    constructor
    · intro h
      have hlength := congrArg List.length h
      simp only [List.length_append] at hlength
      rw [show (ascii "<string>Attached").length = 16 from rfl,
        show (ascii "<").length = 1 from rfl, show (ascii "string").length = 6 from rfl,
        show (ascii ">").length = 1 from rfl,
        show (ascii "Attached").length = 8 from rfl] at hlength
      exact ⟨List.eq_nil_of_length_eq_zero (by omega), List.eq_nil_of_length_eq_zero (by omega)⟩
    · rintro ⟨hbefore, hafter⟩
      rw [hbefore, hafter]
      rfl
  have hkeyTag : (Field.messageType.opening ++ 0x3C :: (ascii "/key>" ++ 0x3C ::
      (ascii "string>Attached" ++ 0x3C :: ascii "/string>"))) <+: (m.chunks ++ rest).flatten ↔
        Field.messageType.opening = m.field.opening ∧
          (0x3C :: (ascii "/key>" ++ 0x3C :: (ascii "string>Attached" ++
            0x3C :: ascii "/string>"))) <+: (m.chunks.tail ++ rest).flatten :=
    prefix_chunk (isChunk_opening _) hchunks
  have hclose : (0x3C :: (ascii "/key>" ++ 0x3C :: (ascii "string>Attached" ++
      0x3C :: ascii "/string>"))) <+: (m.chunks.tail ++ rest).flatten ↔
        ascii "</key>" = ascii "</key>" ++ m.afterKey.1 ∧ (0x3C :: (ascii "string>Attached" ++
          0x3C :: ascii "/string>")) <+: (m.chunks.tail.tail ++ rest).flatten :=
    prefix_chunk ⟨ascii "/key>", rfl, by decide⟩
      fun chunk hmem => hchunks chunk (List.mem_cons_of_mem _ hmem)
  have hopen : (0x3C :: (ascii "string>Attached" ++ 0x3C :: ascii "/string>")) <+:
      (m.chunks.tail.tail ++ rest).flatten ↔ ascii "<string>Attached" = m.valueChunk ∧
        (0x3C :: ascii "/string>") <+: (m.chunks.tail.tail.tail ++ rest).flatten :=
    prefix_chunk ⟨ascii "string>Attached", rfl, by decide⟩
      fun chunk hmem => hchunks chunk (List.mem_cons_of_mem _ (List.mem_cons_of_mem _ hmem))
  have hend : (0x3C :: ascii "/string>") <+: (m.chunks.tail.tail.tail ++ rest).flatten := by
    show _ <+: (ascii "</" ++ m.field.tag ++ ascii ">" ++ m.afterTag.1) ++ rest.flatten
    rw [htag]
    exact ⟨m.afterTag.1 ++ rest.flatten, rfl⟩
  rw [attachedNeedle_eq, hkeyTag, hclose, hopen, hgap, hchunk, hfield]
  exact ⟨fun h => ⟨h.2.1, h.2.2.1⟩, fun h => ⟨rfl, h.1, h.2, hend⟩⟩

/-- Pieces without the key of the message type are free of it. -/
theorem freeOf_attached {middle after : List Bytes}
    (hchunks : ∀ chunk ∈ middle ++ after, IsChunk 0x3C chunk)
    (hnot : Field.messageType.opening ∉ middle) : FreeOf attachedNeedle middle after := by
  rintro left chunk right rfl hstarts
  rw [attachedNeedle_eq, prefix_chunk (isChunk_opening .messageType)] at hstarts
  · exact hnot (hstarts.1 ▸ List.mem_append_right _ List.mem_cons_self)
  · intro other hmem
    refine hchunks other ?_
    rw [List.append_assoc, List.cons_append]
    exact List.mem_append_right _ hmem

theorem Member.not_opening_mem_tail (m : Member) : m.field.opening ∉ m.chunks.tail := by
  have hclose : ∀ field : Field, ¬ascii "</" <+: field.opening := by
    intro field; cases field <;> decide
  have htag : ∀ field : Field, ¬(ascii "<" ++ field.tag ++ ascii ">") <+: field.opening := by
    intro field; cases field <;> decide
  intro hmem
  obtain hkey | hvalue | hend : m.field.opening = ascii "</key>" ++ m.afterKey.1 ∨
      m.field.opening = m.valueChunk ∨
        m.field.opening = ascii "</" ++ m.field.tag ++ ascii ">" ++ m.afterTag.1 := by
    simpa [Member.chunks] using hmem
  · exact hclose m.field (hkey ▸ ⟨ascii "key>" ++ m.afterKey.1, rfl⟩)
  · exact htag m.field (hvalue ▸ List.prefix_append _ _)
  · refine hclose m.field ?_
    rw [hend, List.append_assoc, List.append_assoc]
    exact List.prefix_append _ _

/-- The message type of a dictionary, and the items around it. -/
theorem Entry.messageType_split (entry : Entry) :
    ∃ left m right, entry.outer = left ++ .member m :: right ∧ m.field = .messageType ∧
      m.value = ascii "Attached" ∧ memberOf .messageType entry.outer = some m ∧
      .messageType ∉ fieldsOf left ∧ .messageType ∉ fieldsOf right := by
  obtain ⟨m, hm, hvalue⟩ := Option.map_eq_some_iff.1 entry.attached
  obtain ⟨left, right, hsplit, hfield, -⟩ := memberOf_split hm
  have hnot := not_mem_fieldsOf (hsplit ▸ entry.outerFields) (by decide)
  rw [hfield] at hnot
  exact ⟨left, m, right, hsplit, hfield, hvalue, hm, hnot.1, hnot.2⟩

/-- A dictionary with white space around its message type is free of the text searched for. -/
theorem Entry.outer_free {entry : Entry} (h : ¬entry.Tight) {after : List Bytes}
    (hafter : ∀ chunk ∈ after, IsChunk 0x3C chunk) :
    FreeOf attachedNeedle (chunksOf entry.outer) after := by
  obtain ⟨left, m, right, hsplit, hfield, hvalue, hm, hleft, hright⟩ := entry.messageType_split
  have hbehind : ∀ chunk ∈ chunksOf right ++ after, IsChunk 0x3C chunk := by
    intro chunk hmem
    obtain hown | hmem := List.mem_append.1 hmem
    · exact isChunk_chunksOf right chunk hown
    · exact hafter chunk hmem
  have htail : ∀ chunk ∈ m.chunks.tail ++ (chunksOf right ++ after), IsChunk 0x3C chunk := by
    intro chunk hmem
    obtain hown | hmem := List.mem_append.1 hmem
    · exact m.isChunk chunk (List.mem_of_mem_tail hown)
    · exact hbehind chunk hmem
  have hmember : FreeOf attachedNeedle m.chunks (chunksOf right ++ after) := by
    refine FreeOf.cons (freeOf_attached htail (hfield ▸ m.not_opening_mem_tail)) fun hstarts => h ?_
    exact ⟨m, hm, (attached_prefix_iff hfield hvalue hbehind).1 hstarts⟩
  have hitems : chunksOf entry.outer = chunksOf left ++ (m.chunks ++ chunksOf right) := by
    rw [hsplit, chunksOf_append]
    rfl
  rw [hitems]
  refine FreeOf.append (freeOf_attached ?_ fun hmem => hleft (opening_mem_chunksOf hmem))
    (hmember.append (freeOf_attached hbehind fun hmem => hright (opening_mem_chunksOf hmem)))
  intro chunk hmem
  rw [List.append_assoc, List.mem_append, List.mem_append] at hmem
  obtain hown | hown | hmem := hmem
  · exact isChunk_chunksOf left chunk hown
  · exact m.isChunk chunk hown
  · exact hbehind chunk hmem

/-! ### Dictionaries -/

/-- The pieces around the items open none of the keys. -/
theorem Entry.opening_not_mem (entry : Entry) (field : Field) :
    field.opening ≠ ascii "<dict>" ++ entry.openGap.1 ∧ field.opening ∉ entry.propertiesOpening ∧
      field.opening ∉ entry.closing := by
  have hdict : ∀ field : Field, ¬ascii "<dict>" <+: field.opening := by
    intro field; cases field <;> decide
  have hend : ∀ field : Field, ¬ascii "</" <+: field.opening := by
    intro field; cases field <;> decide
  have hproperties : ∀ field : Field, field.opening ≠ ascii "<key>Properties" := by
    intro field; cases field <;> decide
  refine ⟨fun heq => hdict field (heq ▸ List.prefix_append _ _), fun hmem => ?_, fun hmem => ?_⟩
  · obtain heq | heq | heq : field.opening = ascii "<key>Properties" ∨
        field.opening = ascii "</key>" ++ entry.propertiesGap.1 ∨
          field.opening = ascii "<dict>" ++ entry.innerGap.1 := by
      simpa [Entry.propertiesOpening] using hmem
    · exact hproperties field heq
    · exact hend field (heq ▸ ⟨ascii "key>" ++ entry.propertiesGap.1, rfl⟩)
    · exact hdict field (heq ▸ List.prefix_append _ _)
  · rw [Entry.closing, List.mem_cons, List.mem_append, List.mem_singleton] at hmem
    obtain heq | hafter | heq := hmem
    · exact hend field (heq ▸ ⟨ascii "dict>" ++ entry.innerEndGap.1, rfl⟩)
    · have hfield := opening_mem_chunksOf hafter
      rw [entry.afterFields] at hfield
      cases hfield
    · exact hend field (heq ▸ ⟨ascii "dict>" ++ entry.endGap.1, rfl⟩)

/-- A member stands in a dictionary, and its key stands nowhere before it. -/
structure Stands (entry : Entry) (left : List Bytes) (m : Member) (right : List Bytes) : Prop where
  split : entry.chunks = left ++ (m.chunks ++ right)
  fresh : m.field.opening ∉ left
  right_ne : right ≠ []

theorem Entry.outer_stands (entry : Entry) {field : Field} {m : Member}
    (h : memberOf field entry.outer = some m) : ∃ left right, Stands entry left m right := by
  obtain ⟨left, right, hsplit, rfl, hfresh⟩ := memberOf_split h
  refine ⟨(ascii "<dict>" ++ entry.openGap.1) :: chunksOf left,
    chunksOf right ++ (entry.propertiesOpening ++ (chunksOf entry.inner ++ entry.closing)),
    ?_, ?_, ?_⟩
  · rw [Entry.chunks, hsplit, chunksOf_append]
    show _ :: (chunksOf left ++ (m.chunks ++ chunksOf right) ++ _) = _
    simp only [List.append_assoc, List.cons_append]
  · intro hmem
    obtain heq | hmem := List.mem_cons.1 hmem
    · exact (entry.opening_not_mem m.field).1 heq
    · exact hfresh (opening_mem_chunksOf hmem)
  · exact List.append_ne_nil_of_right_ne_nil _
      (List.append_ne_nil_of_left_ne_nil (List.cons_ne_nil _ _) _)

theorem Entry.inner_stands (entry : Entry) {field : Field} {m : Member}
    (h : memberOf field entry.inner = some m) (houter : field ∉ fieldsOf entry.outer) :
    ∃ left right, entry.inner = left ++ .member m :: right ∧ m.field = field ∧
      Stands entry ((ascii "<dict>" ++ entry.openGap.1) :: (chunksOf entry.outer ++
        (entry.propertiesOpening ++ chunksOf left))) m (chunksOf right ++ entry.closing) := by
  obtain ⟨left, right, hsplit, rfl, hfresh⟩ := memberOf_split h
  refine ⟨left, right, hsplit, rfl, ?_, ?_, ?_⟩
  · rw [Entry.chunks, hsplit, chunksOf_append]
    show _ :: (_ ++ (_ ++ (chunksOf left ++ (m.chunks ++ chunksOf right) ++ _))) = _
    simp only [List.append_assoc, List.cons_append]
  · intro hmem
    rw [List.mem_cons, List.mem_append, List.mem_append] at hmem
    obtain heq | hmem | hmem | hmem := hmem
    · exact (entry.opening_not_mem m.field).1 heq
    · exact houter (opening_mem_chunksOf hmem)
    · exact (entry.opening_not_mem m.field).2.1 hmem
    · exact hfresh (opening_mem_chunksOf hmem)
  · exact List.append_ne_nil_of_right_ne_nil _ (List.cons_ne_nil _ _)

theorem Entry.outer_fields (entry : Entry) (field : Field) :
    field ∈ fieldsOf entry.outer ↔ field = .deviceId ∨ field = .messageType := by
  rw [entry.outerFields.mem_iff, List.mem_cons, List.mem_singleton]

/-! ### The text of a list -/

namespace DeviceList

/-- The pieces of a list. -/
def pieces (list : DeviceList) : List Bytes :=
  list.prologue ++ (list.entries.flatMap Entry.chunks ++ list.epilogue)

/-- The pieces up to a dictionary. -/
def upTo (list : DeviceList) (done : List Entry) : List Bytes :=
  list.prologue ++ done.flatMap Entry.chunks

/-- The position behind some pieces. -/
def offset (list : DeviceList) (pieces : List Bytes) : Nat := (list.lead ++ pieces.flatten).length

theorem pieces_split {list : DeviceList} {done rest : List Entry} {entry : Entry}
    (h : list.entries = done ++ entry :: rest) :
    list.pieces =
      list.upTo done ++ (entry.chunks ++ (rest.flatMap Entry.chunks ++ list.epilogue)) := by
  rw [pieces, h, upTo, List.flatMap_append, List.flatMap_cons]
  simp only [List.append_assoc]

/-- The value of a member is found from its dictionary, and for the first one from the beginning. -/
theorem value_found {list : DeviceList} {done rest : List Entry} {entry : Entry}
    (h : list.entries = done ++ entry :: rest) {start : Nat}
    (hstart : start = list.offset (list.upTo done) ∨ (start = 0 ∧ done = []))
    {left right : List Bytes} {m : Member} (hm : Stands entry left m right) :
    valueForKey list.text m.field.key start = some m.value := by
  obtain ⟨next, right, rfl⟩ := List.exists_cons_of_ne_nil hm.right_ne
  have hpieces := pieces_split h
  rw [hm.split] at hpieces
  have hall := list.isChunk
  rw [show list.prologue ++ _ = list.pieces from rfl] at hall
  have htext : list.text = list.lead ++ list.pieces.flatten := rfl
  obtain rfl | ⟨rfl, rfl⟩ := hstart
  · have hsplit : list.pieces = list.upTo done ++ (left ++ (m.chunks ++
        next :: (right ++ (rest.flatMap Entry.chunks ++ list.epilogue)))) := by
      rw [hpieces]
      simp only [List.append_assoc, List.cons_append]
    rw [hsplit] at hall
    rw [htext, hsplit]
    refine valueForKey_cut m list.lead_noTag hall (Nat.le_refl _) ?_ hm.fresh
    intro before chunk behind hbefore
    have hlater : ∀ other ∈ chunk :: behind, IsChunk 0x3C other := by
      intro other hmem
      refine hall other (List.mem_append_left _ ?_)
      rw [hbefore]
      exact List.mem_append_right _ hmem
    rw [offset, hbefore]
    exact cut_lt list.lead before hlater (List.cons_ne_nil _ _)
  · have hsplit : list.pieces = [] ++ ((list.prologue ++ left) ++ (m.chunks ++
        next :: (right ++ (rest.flatMap Entry.chunks ++ list.epilogue)))) := by
      rw [hpieces, upTo]
      simp only [List.flatMap_nil, List.append_nil, List.nil_append, List.append_assoc,
        List.cons_append]
    rw [hsplit] at hall
    rw [htext, hsplit]
    refine valueForKey_cut m list.lead_noTag hall (Nat.zero_le _) ?_ ?_
    · intro before chunk behind hbefore
      cases before <;> cases hbefore
    · intro hmem
      obtain hprologue | hleft := List.mem_append.1 hmem
      · exact (list.prologue_other _ hprologue).noField m.field rfl
      · exact hm.fresh hleft

/-- **What is found from a dictionary**: its number and the type of its connection. -/
theorem entry_found {list : DeviceList} {done rest : List Entry} {entry : Entry}
    (h : list.entries = done ++ entry :: rest) {start : Nat}
    (hstart : start = list.offset (list.upTo done) ∨ (start = 0 ∧ done = [])) :
    numberForKey list.text kDeviceId start = some entry.id ∧
      valueForKey list.text kConnectionType start = some entry.type := by
  constructor
  · obtain ⟨m, hm, hvalue⟩ := Option.map_eq_some_iff.1 entry.number
    obtain ⟨-, -, -, hfield, -⟩ := memberOf_split hm
    obtain ⟨left, right, hstands⟩ := entry.outer_stands hm
    have hfound := value_found h hstart hstands
    rw [hfield, hvalue] at hfound
    exact numberForKey_decimal hfound
  · obtain ⟨m, hm, hvalue⟩ := Option.map_eq_some_iff.1 entry.connection
    obtain ⟨left, right, -, hfield, hstands⟩ := entry.inner_stands hm (by
      rw [entry.outer_fields]
      decide)
    have hfound := value_found h hstart hstands
    rw [hfield, hvalue] at hfound
    exact hfound

end DeviceList

/-! ### The dictionary of a serial number -/

/-- The pieces of a dictionary before its serial number, which stands behind `left`. -/
def Entry.beforeSerial (entry : Entry) (left : List Item) : List Bytes :=
  (ascii "<dict>" ++ entry.openGap.1) ::
    (chunksOf entry.outer ++ (entry.propertiesOpening ++ chunksOf left))

/-- The serial number of a dictionary, and the items around it. -/
theorem Entry.serial_stands (entry : Entry) :
    ∃ left m right, entry.inner = left ++ .member m :: right ∧ m.field = .serialNumber ∧
      m.value = entry.udid ∧
      Stands entry (entry.beforeSerial left) m (chunksOf right ++ entry.closing) ∧
      .serialNumber ∉ fieldsOf right := by
  obtain ⟨m, hm, hvalue⟩ := Option.map_eq_some_iff.1 entry.serial
  obtain ⟨left, right, hsplit, hfield, hstands⟩ := entry.inner_stands hm (by
    rw [entry.outer_fields]
    decide)
  have hnot := not_mem_fieldsOf (hsplit ▸ entry.innerFields) (by decide)
  rw [hfield] at hnot
  exact ⟨left, m, right, hsplit, hfield, hvalue, hstands, hnot.2⟩

theorem Entry.not_messageType_inner (entry : Entry) : .messageType ∉ fieldsOf entry.inner := by
  rw [entry.innerFields.mem_iff]
  decide

/-- Behind its outer items a dictionary has no message type. -/
theorem Entry.messageType_not_mem (entry : Entry) {items : List Item}
    (hitems : .messageType ∉ fieldsOf items) :
    Field.messageType.opening ∉ entry.propertiesOpening ++ chunksOf items := by
  rw [List.mem_append]
  rintro (hopening | hitem)
  · exact (entry.opening_not_mem .messageType).2.1 hopening
  · exact hitems (opening_mem_chunksOf hitem)

/-- Up to a point behind its outer items, a dictionary with white space around its message type is
free of the text searched for. -/
theorem Entry.beginning_free {entry : Entry} (h : ¬entry.Tight) {inner after : List Bytes}
    (hinner : Field.messageType.opening ∉ inner)
    (hchunks : ∀ chunk ∈ inner ++ after, IsChunk 0x3C chunk) :
    FreeOf attachedNeedle ((ascii "<dict>" ++ entry.openGap.1) :: (chunksOf entry.outer ++ inner))
      after := by
  have hall : ∀ chunk ∈ chunksOf entry.outer ++ (inner ++ after), IsChunk 0x3C chunk := by
    intro chunk hmem
    obtain hown | hmem := List.mem_append.1 hmem
    · exact isChunk_chunksOf _ chunk hown
    · exact hchunks chunk hmem
  refine FreeOf.cons ((entry.outer_free h hchunks).append (freeOf_attached hchunks hinner)) ?_
  rw [attachedNeedle_eq, prefix_chunk (isChunk_opening .messageType)]
  · exact fun hstarts => (entry.opening_not_mem .messageType).1 hstarts.1
  · intro chunk hmem
    obtain rfl | hmem := List.mem_cons.1 hmem
    · exact (isChunk_dict _).1
    · rw [List.append_assoc] at hmem
      exact hall chunk hmem

theorem Entry.free {entry : Entry} (h : ¬entry.Tight) {after : List Bytes}
    (hafter : ∀ chunk ∈ after, IsChunk 0x3C chunk) : FreeOf attachedNeedle entry.chunks after := by
  refine entry.beginning_free h ?_ ?_
  · rw [← List.append_assoc, List.mem_append]
    rintro (hinner | hclosing)
    · exact entry.messageType_not_mem entry.not_messageType_inner hinner
    · exact (entry.opening_not_mem .messageType).2.2 hclosing
  · intro chunk hmem
    obtain hmem | hmem := List.mem_append.1 hmem
    · refine entry.isChunk chunk ?_
      rw [Entry.chunks]
      exact List.mem_cons_of_mem _ (List.mem_append_right _ hmem)
    · exact hafter chunk hmem

theorem entries_free {entries : List Entry} (h : ∀ entry ∈ entries, ¬entry.Tight)
    {after : List Bytes} (hafter : ∀ chunk ∈ after, IsChunk 0x3C chunk) :
    FreeOf attachedNeedle (entries.flatMap Entry.chunks) after := by
  induction entries with
  | nil => exact freeOf_nil
  | cons entry entries ih =>
    rw [List.flatMap_cons]
    refine FreeOf.append (Entry.free (h entry List.mem_cons_self) ?_)
      (ih fun other hmem => h other (List.mem_cons_of_mem _ hmem))
    intro chunk hmem
    obtain hmem | hmem := List.mem_append.1 hmem
    · obtain ⟨other, -, hchunk⟩ := List.mem_flatMap.1 hmem
      exact other.isChunk chunk hchunk
    · exact hafter chunk hmem

/-- **The search back from a serial number** ends at the last dictionary whose message type is
written without white space. -/
theorem entryOf_cut {lead : Bytes} {before middle after : List Bytes} {entry : Entry}
    {left right : List Item} {m : Member} (hlead : 0x3C ∉ lead)
    (houter : entry.outer = left ++ .member m :: right) (hfield : m.field = .messageType)
    (hvalue : m.value = ascii "Attached")
    (htight : m.afterKey.1 = [] ∧ m.beforeValue.1 = [] ∧ m.afterValue.1 = [])
    (hchunks : ∀ chunk ∈ before ++ (((ascii "<dict>" ++ entry.openGap.1) :: chunksOf left) ++
      ((m.chunks ++ middle) ++ after)), IsChunk 0x3C chunk)
    (hfree : FreeOf attachedNeedle middle after) (hnot : ¬attachedNeedle <+: after.flatten) :
    entryOf (lead ++ (before ++ (((ascii "<dict>" ++ entry.openGap.1) :: chunksOf left) ++
        ((m.chunks ++ middle) ++ after))).flatten)
      (lead ++ ((before ++ ((ascii "<dict>" ++ entry.openGap.1) :: chunksOf left)) ++
        (m.chunks ++ middle)).flatten).length = (lead ++ before.flatten).length := by
  have hbehind : ∀ chunk ∈ m.chunks ++ (middle ++ after), IsChunk 0x3C chunk := by
    intro chunk hmem
    refine hchunks chunk (List.mem_append_right _ (List.mem_append_right _ ?_))
    rwa [List.append_assoc]
  have hmiddle : ∀ chunk ∈ middle ++ after, IsChunk 0x3C chunk := fun chunk hmem =>
    hbehind chunk (List.mem_append_right _ hmem)
  have htail : FreeOf attachedNeedle m.chunks.tail (middle ++ after) := by
    refine freeOf_attached (fun chunk hmem => ?_) (hfield ▸ m.not_opening_mem_tail)
    obtain hown | hmem := List.mem_append.1 hmem
    · exact m.isChunk chunk (List.mem_of_mem_tail hown)
    · exact hmiddle chunk hmem
  have hattached : rfind attachedNeedle (lead ++ (before ++ (((ascii "<dict>" ++
      entry.openGap.1) :: chunksOf left) ++ ((m.chunks ++ middle) ++ after))).flatten)
        (lead ++ ((before ++ ((ascii "<dict>" ++ entry.openGap.1) :: chunksOf left)) ++
          (m.chunks ++ middle)).flatten).length = some (lead ++ (before ++ ((ascii "<dict>" ++
            entry.openGap.1) :: chunksOf left)).flatten).length := by
    rw [← List.append_assoc before]
    refine rfind_cut (p := attachedNeedle.tail) hlead ?_ (List.cons_ne_nil _ _) ?_
      (htail.append hfree) hnot
    · rwa [List.append_assoc before]
    · rw [List.append_assoc]
      exact (attached_prefix_iff hfield hvalue hmiddle).2 htight
  have hflat : ∀ chunk ∈ chunksOf left, ¬ascii "<dict>" <+: chunk := by
    intro chunk hmem
    refine entry.flat chunk ?_
    rw [houter, chunksOf_append]
    exact List.mem_append_left _ hmem
  have hdict : rfind (ascii "<dict>") (lead ++ (before ++ (((ascii "<dict>" ++
      entry.openGap.1) :: chunksOf left) ++ ((m.chunks ++ middle) ++ after))).flatten)
        (lead ++
          (before ++ ((ascii "<dict>" ++ entry.openGap.1) :: chunksOf left)).flatten).length =
          some (lead ++ before.flatten).length := by
    refine rfind_cut (p := ascii "dict>") hlead hchunks (List.cons_ne_nil _ _) ?_ ?_ ?_
    · exact ⟨entry.openGap.1 ++ (chunksOf left ++ ((m.chunks ++ middle) ++ after)).flatten, by
        simp only [List.cons_append, List.flatten_cons, List.append_assoc]; rfl⟩
    · rintro first chunk last hsplit hstarts
      have hsplit : chunksOf left = first ++ chunk :: last := hsplit
      refine hflat chunk (hsplit ▸ List.mem_append_right _ List.mem_cons_self)
        ((prefix_last (by decide) ?_).1 hstarts)
      intro other hmem
      refine hchunks other (List.mem_append_right _ ?_)
      rw [hsplit]
      simp only [List.mem_cons, List.mem_append] at hmem ⊢
      tauto
    · intro hstarts
      have hown : ascii "<dict>" <+: m.field.opening := (prefix_last (by decide) (by
        rw [List.append_assoc] at hstarts
        exact hbehind)).1 (by rw [List.append_assoc] at hstarts; exact hstarts)
      rw [hfield] at hown
      exact absurd hown (by decide)
  rw [entryOf, hattached]
  dsimp only
  rw [hdict, Option.getD_some]

/-- A serial number is no message type. -/
theorem serial_not_attached {m : Member} (hfield : m.field = .serialNumber) {rest : List Bytes}
    (hchunks : ∀ chunk ∈ m.chunks ++ rest, IsChunk 0x3C chunk) :
    ¬attachedNeedle <+: (m.chunks ++ rest).flatten := by
  intro hstarts
  rw [attachedNeedle_eq] at hstarts
  have hopening := ((prefix_chunk (isChunk_opening .messageType) hchunks).1 hstarts).1
  exact absurd ((opening_injective hopening).trans hfield) (by decide)

namespace DeviceList

/-- The position of the serial number of a dictionary. -/
def serialAt (list : DeviceList) (done : List Entry) (entry : Entry) (left : List Item) : Nat :=
  list.offset (list.upTo done ++ entry.beforeSerial left)

/-- A dictionary whose message type has no white space is found from its own serial number. -/
theorem entryOf_own {list : DeviceList} {done rest : List Entry} {entry : Entry}
    (h : list.entries = done ++ entry :: rest) (htight : entry.Tight) {left right : List Item}
    {serial : Member} (hinner : entry.inner = left ++ .member serial :: right)
    (hfield : serial.field = .serialNumber)
    (hstands : Stands entry (entry.beforeSerial left) serial (chunksOf right ++ entry.closing)) :
    entryOf list.text (list.serialAt done entry left) = list.offset (list.upTo done) := by
  obtain ⟨first, m, last, houter, htype, hvalue, hm, -, hlast⟩ := entry.messageType_split
  obtain ⟨m', hm', htight⟩ := htight
  obtain rfl := Option.some.inj (hm.symm.trans hm')
  have hleft : .messageType ∉ fieldsOf left := by
    intro hmem
    refine entry.not_messageType_inner ?_
    rw [hinner, fieldsOf_append]
    exact List.mem_append_left _ hmem
  have hbefore : entry.beforeSerial left =
      ((ascii "<dict>" ++ entry.openGap.1) :: chunksOf first) ++
      (m.chunks ++ (chunksOf last ++ (entry.propertiesOpening ++ chunksOf left))) := by
    rw [Entry.beforeSerial, houter, chunksOf_append]
    show _ :: (chunksOf first ++ (m.chunks ++ chunksOf last) ++ _) = _
    simp only [List.append_assoc, List.cons_append]
  have hpieces : list.pieces = list.upTo done ++ (((ascii "<dict>" ++ entry.openGap.1) ::
      chunksOf first) ++ ((m.chunks ++ (chunksOf last ++ (entry.propertiesOpening ++
        chunksOf left))) ++ (serial.chunks ++ (chunksOf right ++ entry.closing ++
          (rest.flatMap Entry.chunks ++ list.epilogue))))) := by
    rw [pieces_split h, hstands.split, hbefore]
    simp only [List.append_assoc]
  have hall : ∀ chunk ∈ list.pieces, IsChunk 0x3C chunk := list.isChunk
  rw [hpieces] at hall
  have hbehind := fun chunk hmem => hall chunk (List.mem_append_right _ (List.mem_append_right _
    hmem))
  have hposition : list.serialAt done entry left = (list.lead ++ ((list.upTo done ++
      ((ascii "<dict>" ++ entry.openGap.1) :: chunksOf first)) ++ (m.chunks ++ (chunksOf last ++
        (entry.propertiesOpening ++ chunksOf left)))).flatten).length := by
    rw [serialAt, offset, hbefore, List.append_assoc (list.upTo done)]
  rw [hposition, show list.text = list.lead ++ list.pieces.flatten from rfl, hpieces]
  refine entryOf_cut list.lead_noTag houter htype hvalue htight hall ?_
    (serial_not_attached hfield fun chunk hmem => hbehind chunk (List.mem_append_right _ hmem))
  refine freeOf_attached (fun chunk hmem => hbehind chunk ?_) ?_
  · rw [List.append_assoc]
    exact List.mem_append_right _ hmem
  · rw [List.mem_append]
    rintro (hmem | hmem)
    · exact hlast (opening_mem_chunksOf hmem)
    · exact entry.messageType_not_mem hleft hmem

/-- From the serial number of a dictionary with white space there, the last one before it is found
that has none. -/
theorem entryOf_earlier {list : DeviceList} {done between rest : List Entry} {source entry : Entry}
    (h : list.entries = done ++ source :: (between ++ entry :: rest)) (htight : source.Tight)
    (hbetween : ∀ other ∈ between, ¬other.Tight) (hentry : ¬entry.Tight) {left right : List Item}
    {serial : Member} (hinner : entry.inner = left ++ .member serial :: right)
    (hfield : serial.field = .serialNumber)
    (hstands : Stands entry (entry.beforeSerial left) serial (chunksOf right ++ entry.closing)) :
    entryOf list.text (list.serialAt (done ++ source :: between) entry left) =
      list.offset (list.upTo done) := by
  obtain ⟨first, m, last, houter, htype, hvalue, hm, -, hlast⟩ := source.messageType_split
  obtain ⟨m', hm', htight⟩ := htight
  obtain rfl := Option.some.inj (hm.symm.trans hm')
  have hleft : .messageType ∉ fieldsOf left := by
    intro hmem
    refine entry.not_messageType_inner ?_
    rw [hinner, fieldsOf_append]
    exact List.mem_append_left _ hmem
  have hsource : source.chunks = ((ascii "<dict>" ++ source.openGap.1) :: chunksOf first) ++
      (m.chunks ++ (chunksOf last ++ (source.propertiesOpening ++ (chunksOf source.inner ++
        source.closing)))) := by
    rw [Entry.chunks, houter, chunksOf_append]
    show _ :: (chunksOf first ++ (m.chunks ++ chunksOf last) ++ _) = _
    simp only [List.append_assoc, List.cons_append]
  have hpieces : list.pieces = list.upTo done ++ (((ascii "<dict>" ++ source.openGap.1) ::
      chunksOf first) ++ ((m.chunks ++ ((chunksOf last ++ (source.propertiesOpening ++
        (chunksOf source.inner ++ source.closing))) ++ (between.flatMap Entry.chunks ++
          entry.beforeSerial left))) ++ (serial.chunks ++ (chunksOf right ++ entry.closing ++
            (rest.flatMap Entry.chunks ++ list.epilogue))))) := by
    rw [pieces_split h, hsource, List.flatMap_append, List.flatMap_cons, hstands.split]
    simp only [List.append_assoc]
  have hall : ∀ chunk ∈ list.pieces, IsChunk 0x3C chunk := list.isChunk
  rw [hpieces] at hall
  have hbehind := fun chunk hmem => hall chunk (List.mem_append_right _ (List.mem_append_right _
    hmem))
  have hposition : list.serialAt (done ++ source :: between) entry left = (list.lead ++
      ((list.upTo done ++ ((ascii "<dict>" ++ source.openGap.1) :: chunksOf first)) ++ (m.chunks ++
        ((chunksOf last ++ (source.propertiesOpening ++ (chunksOf source.inner ++
          source.closing))) ++ (between.flatMap Entry.chunks ++
            entry.beforeSerial left)))).flatten).length := by
    rw [serialAt, offset, upTo, upTo, List.flatMap_append, List.flatMap_cons, hsource]
    simp only [List.append_assoc]
  have hafter : ∀ chunk ∈ serial.chunks ++ (chunksOf right ++ entry.closing ++
      (rest.flatMap Entry.chunks ++ list.epilogue)), IsChunk 0x3C chunk :=
    fun chunk hmem => hbehind chunk (List.mem_append_right _ hmem)
  have hbeginning : ∀ chunk ∈ entry.beforeSerial left ++ (serial.chunks ++ (chunksOf right ++
      entry.closing ++ (rest.flatMap Entry.chunks ++ list.epilogue))), IsChunk 0x3C chunk := by
    intro chunk hmem
    refine hbehind chunk ?_
    simp only [List.mem_append] at hmem ⊢
    tauto
  rw [hposition, show list.text = list.lead ++ list.pieces.flatten from rfl, hpieces]
  refine entryOf_cut list.lead_noTag houter htype hvalue htight hall ?_
    (serial_not_attached hfield hafter)
  refine FreeOf.append (freeOf_attached (fun chunk hmem => hbehind chunk ?_) ?_)
    ((entries_free hbetween hbeginning).append (entry.beginning_free hentry
      (entry.messageType_not_mem hleft) fun chunk hmem => hbeginning chunk ?_))
  · simp only [List.mem_append] at hmem ⊢
    tauto
  · rw [List.mem_append, ← List.append_assoc, List.mem_append]
    rintro (hmem | hmem | hmem)
    · exact hlast (opening_mem_chunksOf hmem)
    · exact source.messageType_not_mem source.not_messageType_inner hmem
    · exact (source.opening_not_mem .messageType).2.2 hmem
  · rw [Entry.beforeSerial]
    simp only [List.mem_append, List.mem_cons] at hmem ⊢
    tauto

/-- If all dictionaries so far have white space there, the beginning of the list is found. -/
theorem entryOf_none {list : DeviceList} {done rest : List Entry} {entry : Entry}
    (h : list.entries = done ++ entry :: rest) (hdone : ∀ other ∈ done, ¬other.Tight)
    (hentry : ¬entry.Tight) {left right : List Item} {serial : Member}
    (hinner : entry.inner = left ++ .member serial :: right)
    (hfield : serial.field = .serialNumber)
    (hstands : Stands entry (entry.beforeSerial left) serial (chunksOf right ++ entry.closing)) :
    entryOf list.text (list.serialAt done entry left) = 0 := by
  have hleft : .messageType ∉ fieldsOf left := by
    intro hmem
    refine entry.not_messageType_inner ?_
    rw [hinner, fieldsOf_append]
    exact List.mem_append_left _ hmem
  have hpieces : list.pieces = (list.upTo done ++ entry.beforeSerial left) ++ (serial.chunks ++
      (chunksOf right ++ entry.closing ++ (rest.flatMap Entry.chunks ++ list.epilogue))) := by
    rw [pieces_split h, hstands.split]
    simp only [List.append_assoc]
  have hall : ∀ chunk ∈ list.pieces, IsChunk 0x3C chunk := list.isChunk
  rw [hpieces] at hall
  have hafter := fun chunk hmem => hall chunk (List.mem_append_right _ hmem)
  have hbeginning : ∀ chunk ∈ entry.beforeSerial left ++ (serial.chunks ++ (chunksOf right ++
      entry.closing ++ (rest.flatMap Entry.chunks ++ list.epilogue))), IsChunk 0x3C chunk := by
    intro chunk hmem
    refine hall chunk ?_
    simp only [List.mem_append] at hmem ⊢
    tauto
  have hfree : FreeOf attachedNeedle (list.upTo done ++ entry.beforeSerial left) (serial.chunks ++
      (chunksOf right ++ entry.closing ++ (rest.flatMap Entry.chunks ++ list.epilogue))) := by
    rw [upTo, List.append_assoc]
    refine FreeOf.append (freeOf_attached (fun chunk hmem => hall chunk ?_) ?_)
      ((entries_free hdone hbeginning).append (entry.beginning_free hentry
        (entry.messageType_not_mem hleft) fun chunk hmem => hbeginning chunk ?_))
    · rw [upTo]
      simp only [List.mem_append] at hmem ⊢
      tauto
    · intro hmem
      exact (list.prologue_other _ hmem).noField .messageType rfl
    · rw [Entry.beforeSerial]
      simp only [List.mem_append, List.mem_cons] at hmem ⊢
      tauto
  have hnone : rfind attachedNeedle list.text (list.serialAt done entry left) = none := by
    rw [serialAt, show list.text = list.lead ++ list.pieces.flatten from rfl, hpieces]
    exact rfind_cut_none (p := attachedNeedle.tail) list.lead_noTag hall hfree
      (serial_not_attached hfield hafter)
  rw [entryOf, hnone]

end DeviceList

end SecondDisplay.UsbMux
