import SecondDisplay.Net.UsbMuxList

/-!
# The devices that are found (`net/UsbMux.cpp`)

Each serial number is taken together with the number and the connection of the dictionary that the
search back from it ends at (`source`).  So `ListUsbMuxDevices` returns exactly the devices on the
cable if and only if every one of them but the first dictionary has its message type written
without white space, and no two of them have the same serial number up to case and punctuation
(`enumeration_iff`).
-/

namespace SecondDisplay.UsbMux

open Search (find IsChunk FreeOf find_cut find_cut_none cut_lt)

/-! ### What the loop does with a dictionary -/

/-- The dictionary whose number and connection go with the serial number of `entry`. -/
def source (done : List Entry) (entry : Entry) : Entry :=
  if entry.Tight then entry
  else (done.reverse.find? fun other => decide other.Tight).getD (done.head?.getD entry)

/-- A serial number with what was found for it. -/
def addEntry (devices : List UsbMuxDevice) (found entry : Entry) : List UsbMuxDevice :=
  if found.onCable then
    if devices.any fun current =>
        decide (current.deviceId = found.id) || equalsUdid current.udid entry.udid
    then devices
    else devices ++ [{ deviceId := found.id, udid := entry.udid }]
  else devices

/-- The loop over the dictionaries. -/
def addEntries (done : List Entry) (devices : List UsbMuxDevice) :
    List Entry → List UsbMuxDevice
  | [] => devices
  | entry :: rest => addEntries (done ++ [entry]) (addEntry devices (source done entry) entry) rest

/-- **The three ways the search back can end.** -/
theorem source_cases (done : List Entry) (entry : Entry) :
    (entry.Tight ∧ source done entry = entry) ∨
      (¬entry.Tight ∧ ∃ before between, done = before ++ source done entry :: between ∧
        (source done entry).Tight ∧ ∀ other ∈ between, ¬other.Tight) ∨
      (¬entry.Tight ∧ (∀ other ∈ done, ¬other.Tight) ∧
        source done entry = done.head?.getD entry) := by
  by_cases hentry : entry.Tight
  · exact .inl ⟨hentry, if_pos hentry⟩
  · rw [source, if_neg hentry]
    cases hfound : done.reverse.find? fun other => decide other.Tight with
    | none =>
      refine .inr (.inr ⟨hentry, fun other hmem htight => ?_, rfl⟩)
      exact List.find?_eq_none.1 hfound other (List.mem_reverse.2 hmem) (decide_eq_true htight)
    | some found =>
      obtain ⟨htight, later, earlier, hsplit, hlater⟩ := List.find?_eq_some_iff_append.1 hfound
      refine .inr (.inl ⟨hentry, earlier.reverse, later.reverse, ?_, of_decide_eq_true htight,
        fun other hmem htight' => ?_⟩)
      · rw [← List.reverse_reverse done, hsplit, List.reverse_append, List.reverse_cons,
          List.append_assoc]
        rfl
      · have hnot := hlater other (List.mem_reverse.1 hmem)
        rw [decide_eq_true htight'] at hnot
        cases hnot

/-- The dictionary is the own one, or an earlier one. -/
theorem source_mem (done : List Entry) (entry : Entry) :
    source done entry = entry ∨ source done entry ∈ done := by
  obtain ⟨-, heq⟩ | ⟨-, before, between, hdone, -⟩ | ⟨-, -, heq⟩ := source_cases done entry
  · exact .inl heq
  · have hmem : source done entry ∈ before ++ source done entry :: between :=
      List.mem_append_right _ List.mem_cons_self
    rw [← hdone] at hmem
    exact .inr hmem
  · cases done with
    | nil => exact .inl heq
    | cons first done =>
      right
      rw [heq]
      exact List.mem_cons_self

/-- Without white space, and at the first dictionary, it is the own one. -/
theorem source_own {done : List Entry} {entry : Entry} (h : done = [] ∨ entry.Tight) :
    source done entry = entry := by
  obtain ⟨-, heq⟩ | ⟨hnot, before, between, hdone, -⟩ | ⟨hnot, -, heq⟩ := source_cases done entry
  · exact heq
  · obtain rfl | htight := h
    · cases before <;> cases hdone
    · exact absurd htight hnot
  · obtain rfl | htight := h
    · exact heq
    · exact absurd htight hnot

/-- A later dictionary with white space is never the one found. -/
theorem source_other {done : List Entry} {entry : Entry} (hne : done ≠ []) (h : ¬entry.Tight) :
    source done entry ∈ done := by
  obtain ⟨htight, -⟩ | ⟨-, before, between, hdone, -⟩ | ⟨-, -, heq⟩ := source_cases done entry
  · exact absurd htight h
  · have hmem : source done entry ∈ before ++ source done entry :: between :=
      List.mem_append_right _ List.mem_cons_self
    rwa [← hdone] at hmem
  · obtain ⟨first, done, rfl⟩ := List.exists_cons_of_ne_nil hne
    rw [heq]
    exact List.mem_cons_self

/-! ### One turn of the loop -/

namespace DeviceList

variable {list : DeviceList} {done rest : List Entry} {entry : Entry}

/-- **The search back** ends at the dictionary that is found. -/
theorem entryOf_source (h : list.entries = done ++ entry :: rest) {left right : List Item}
    {serial : Member} (hinner : entry.inner = left ++ .member serial :: right)
    (hfield : serial.field = .serialNumber)
    (hstands : Stands entry (entry.beforeSerial left) serial (chunksOf right ++ entry.closing)) :
    numberForKey list.text kDeviceId (entryOf list.text (list.serialAt done entry left)) =
        some (source done entry).id ∧
      valueForKey list.text kConnectionType (entryOf list.text (list.serialAt done entry left)) =
        some (source done entry).type := by
  obtain ⟨htight, heq⟩ | ⟨hnot, before, between, hdone, htight, hbetween⟩ | ⟨hnot, hdone, heq⟩ :=
    source_cases done entry
  · rw [heq, entryOf_own h htight hinner hfield hstands]
    exact entry_found h (.inl rfl)
  · generalize source done entry = found at hdone htight ⊢
    subst hdone
    rw [List.append_assoc, List.cons_append] at h
    rw [entryOf_earlier h htight hbetween hnot hinner hfield hstands]
    exact entry_found h (.inl rfl)
  · rw [heq, entryOf_none h hdone hnot hinner hfield hstands]
    cases done with
    | nil => exact entry_found h (.inr ⟨rfl, rfl⟩)
    | cons first done =>
      have hfirst : list.entries = [] ++ first :: (done ++ entry :: rest) := h
      exact entry_found hfirst (.inr ⟨rfl, rfl⟩)

/-- The serial number itself is read where it was found. -/
theorem serial_found (h : list.entries = done ++ entry :: rest) {left right : List Item}
    {serial : Member} (hfield : serial.field = .serialNumber) (hvalue : serial.value = entry.udid)
    (hstands : Stands entry (entry.beforeSerial left) serial (chunksOf right ++ entry.closing)) :
    valueForKey list.text kSerialNumber (list.serialAt done entry left) = some entry.udid := by
  obtain ⟨next, behind, hbehind⟩ := List.exists_cons_of_ne_nil hstands.right_ne
  have hpieces : list.pieces = (list.upTo done ++ entry.beforeSerial left) ++ ([] ++
      (serial.chunks ++ next :: (behind ++ (rest.flatMap Entry.chunks ++ list.epilogue)))) := by
    rw [pieces_split h, hstands.split, hbehind]
    simp only [List.append_assoc, List.cons_append, List.nil_append]
  have hall : ∀ chunk ∈ list.pieces, IsChunk 0x3C chunk := list.isChunk
  rw [hpieces] at hall
  have hfound : valueForKey (list.lead ++ list.pieces.flatten) serial.field.key
      (list.serialAt done entry left) = some serial.value := by
    rw [hpieces]
    refine valueForKey_cut serial list.lead_noTag hall (Nat.le_refl _) ?_ List.not_mem_nil
    intro before chunk after hbefore
    rw [serialAt, offset, hbefore]
    refine cut_lt list.lead before (fun other hmem => hall other (List.mem_append_left _ ?_))
      (List.cons_ne_nil _ _)
    rw [hbefore]
    exact List.mem_append_right _ hmem
  rw [hfield, hvalue] at hfound
  exact hfound

/-- **One turn of the loop.** -/
theorem addDevice_entry (h : list.entries = done ++ entry :: rest) {left right : List Item}
    {serial : Member} (hinner : entry.inner = left ++ .member serial :: right)
    (hfield : serial.field = .serialNumber) (hvalue : serial.value = entry.udid)
    (hstands : Stands entry (entry.beforeSerial left) serial (chunksOf right ++ entry.closing))
    (devices : List UsbMuxDevice) :
    addDevice list.text devices (list.serialAt done entry left) =
      addEntry devices (source done entry) entry := by
  obtain ⟨hid, htype⟩ := entryOf_source h hinner hfield hstands
  rw [addDevice, hid, htype, serial_found h hfield hvalue hstands, addEntry, Entry.onCable]
  simp only [decide_eq_true_eq]

/-! ### The loop -/

/-- The cursor stands behind all serial numbers of the dictionaries so far. -/
def Behind (list : DeviceList) (done : List Entry) (cursor : Nat) : Prop :=
  ∃ before middle, list.upTo done = before ++ middle ∧ cursor ≤ list.offset before ∧
    (∀ left chunk right, before = left ++ chunk :: right → list.offset left < cursor) ∧
    Field.serialNumber.opening ∉ middle

theorem behind_start (list : DeviceList) : list.Behind [] 0 := by
  refine ⟨[], list.prologue, ?_, Nat.zero_le _, ?_, ?_⟩
  · rw [upTo, List.flatMap_nil, List.append_nil, List.nil_append]
  · intro left chunk right hsplit
    cases left <;> cases hsplit
  · intro hmem
    exact (list.prologue_other _ hmem).noField .serialNumber rfl

/-- Up to its serial number a dictionary has no other one. -/
theorem not_mem_beforeSerial {left : List Item} {serial : Member} {behind : List Bytes}
    (hfield : serial.field = .serialNumber)
    (hstands : Stands entry (entry.beforeSerial left) serial behind) :
    Field.serialNumber.opening ∉ entry.beforeSerial left :=
  hfield ▸ hstands.fresh

/-- The next serial number is the one of the next dictionary. -/
theorem serial_next (h : list.entries = done ++ entry :: rest) {cursor : Nat}
    (hcursor : list.Behind done cursor) {left : List Item} {serial : Member}
    {behind : List Bytes} (hfield : serial.field = .serialNumber)
    (hstands : Stands entry (entry.beforeSerial left) serial behind) :
    find (keyNeedle kSerialNumber) list.text cursor = some (list.serialAt done entry left) := by
  obtain ⟨before, middle, hsplit, hle, hgt, hnot⟩ := hcursor
  have hpieces : list.pieces = before ++ ((middle ++ entry.beforeSerial left) ++
      (serial.chunks ++ (behind ++ (rest.flatMap Entry.chunks ++ list.epilogue)))) := by
    rw [pieces_split h, hstands.split, hsplit]
    simp only [List.append_assoc]
  have hall : ∀ chunk ∈ list.pieces, IsChunk 0x3C chunk := list.isChunk
  rw [hpieces] at hall
  have hserial : Field.serialNumber.opening ∉ middle ++ entry.beforeSerial left := by
    rw [List.mem_append, not_or]
    exact ⟨hnot, not_mem_beforeSerial hfield hstands⟩
  have hfound : find (keyNeedle kSerialNumber) (list.lead ++ list.pieces.flatten) cursor =
      some (list.lead ++ (before ++ (middle ++ entry.beforeSerial left)).flatten).length := by
    rw [hpieces]
    refine find_cut (p := (keyNeedle kSerialNumber).tail) list.lead_noTag hall hle hgt ?_ ?_
    · exact freeOf_key .serialNumber (fun chunk hmem => hall chunk (List.mem_append_right _ hmem))
        hserial
    · have hstarts := keyNeedle_begins serial
        (behind ++ (rest.flatMap Entry.chunks ++ list.epilogue))
      rw [hfield] at hstarts
      exact hstarts
  rw [← List.append_assoc, ← hsplit] at hfound
  exact hfound

/-- Behind its serial number the cursor is behind all of its dictionary. -/
theorem behind_next {left right : List Item} {serial : Member}
    (hfield : serial.field = .serialNumber)
    (hstands : Stands entry (entry.beforeSerial left) serial (chunksOf right ++ entry.closing))
    (hright : .serialNumber ∉ fieldsOf right) :
    list.Behind (done ++ [entry]) (list.serialAt done entry left + 1) := by
  refine ⟨(list.upTo done ++ entry.beforeSerial left) ++ [serial.field.opening],
    serial.chunks.tail ++ (chunksOf right ++ entry.closing), ?_, ?_, ?_, ?_⟩
  · rw [upTo, upTo, List.flatMap_append, List.flatMap_singleton, hstands.split]
    simp only [List.append_assoc, List.singleton_append]
    rfl
  · have hpos := List.length_pos_iff.2 (isChunk_opening serial.field).ne_nil
    simp only [serialAt, offset, List.flatten_append, List.flatten_singleton, List.length_append]
    omega
  · intro before chunk after hbefore
    have hstarts : before <+: list.upTo done ++ entry.beforeSerial left := by
      obtain ⟨same, rfl, hsame⟩ | ⟨other, same, hsplit, -⟩ := Search.split_or_split hbefore
      · cases same with
        | nil => exact ⟨[], by rw [List.append_nil, List.append_nil]⟩
        | cons other same =>
          exact absurd (List.cons.inj hsame).2.symm
            (List.append_ne_nil_of_right_ne_nil same (List.cons_ne_nil _ _))
      · exact hsplit ▸ List.prefix_append _ _
    obtain ⟨more, hmore⟩ := hstarts
    rw [serialAt, ← hmore]
    simp only [offset, List.flatten_append, List.length_append]
    omega
  · rw [List.mem_append, List.mem_append, not_or, not_or]
    refine ⟨hfield ▸ serial.not_opening_mem_tail, fun hmem => hright (opening_mem_chunksOf hmem),
      (entry.opening_not_mem .serialNumber).2.2⟩

/-- Behind the last dictionary there is no serial number. -/
theorem serial_none {cursor : Nat} (hcursor : list.Behind list.entries cursor) :
    find (keyNeedle kSerialNumber) list.text cursor = none := by
  obtain ⟨before, middle, hsplit, -, hgt, hnot⟩ := hcursor
  have hpieces : list.pieces = before ++ (middle ++ list.epilogue) := by
    rw [← List.append_assoc, ← hsplit, upTo, List.append_assoc]
    rfl
  have hall : ∀ chunk ∈ list.pieces, IsChunk 0x3C chunk := list.isChunk
  rw [hpieces] at hall
  have hepilogue : Field.serialNumber.opening ∉ middle ++ list.epilogue := by
    rw [List.mem_append, not_or]
    exact ⟨hnot, fun hmem => (list.epilogue_other _ hmem).noField .serialNumber rfl⟩
  rw [show list.text = list.lead ++ list.pieces.flatten from rfl, hpieces]
  refine find_cut_none (p := (keyNeedle kSerialNumber).tail) list.lead_noTag hall hgt
    (freeOf_key .serialNumber (fun chunk hmem => ?_) hepilogue)
  rw [List.append_nil] at hmem
  exact hall chunk (List.mem_append_right _ hmem)

/-- **The loop over the text** is the loop over the dictionaries. -/
theorem listFrom_entries (h : list.entries = done ++ rest) {cursor : Nat}
    (hcursor : list.Behind done cursor) (devices : List UsbMuxDevice) :
    listFrom list.text cursor devices = addEntries done devices rest := by
  induction rest generalizing done cursor devices with
  | nil =>
    rw [List.append_nil] at h
    rw [listFrom, serial_none (h ▸ hcursor)]
    rfl
  | cons entry rest ih =>
    obtain ⟨left, serial, right, hinner, hfield, hvalue, hstands, hright⟩ := entry.serial_stands
    rw [listFrom, serial_next h hcursor hfield hstands]
    show listFrom list.text (list.serialAt done entry left + 1)
      (addDevice list.text devices (list.serialAt done entry left)) = _
    rw [addDevice_entry h hinner hfield hvalue hstands, addEntries]
    refine ih ?_ (behind_next hfield hstands hright) _
    rw [h, List.append_assoc, List.singleton_append]

/-- `ListUsbMuxDevices` goes through the dictionaries. -/
theorem listUsbMuxDevices_text (list : DeviceList) :
    listUsbMuxDevices (some list.text) = addEntries [] [] list.entries :=
  listFrom_entries rfl list.behind_start []

end DeviceList

/-! ### Which devices are found -/

/-- No two devices have the same serial number, as `EqualsUdid` compares them. -/
def Distinct (devices : List UsbMuxDevice) : Prop :=
  devices.Pairwise fun device other => equalsUdid device.udid other.udid = false

theorem distinct_addEntry {devices : List UsbMuxDevice} (h : Distinct devices)
    (found entry : Entry) : Distinct (addEntry devices found entry) := by
  rw [addEntry]
  split
  · split
    · exact h
    · rename_i hany
      refine List.pairwise_append.2
        ⟨h, List.pairwise_singleton _ _, fun device hmem other hother => ?_⟩
      obtain rfl := List.mem_singleton.1 hother
      cases hequal : equalsUdid device.udid entry.udid with
      | false => rfl
      | true =>
        refine absurd (List.any_eq_true.2 ⟨device, hmem, ?_⟩) hany
        rw [hequal, Bool.or_true]
  · exact h

/-- No serial number is found twice. -/
theorem distinct_addEntries {done rest : List Entry} {devices : List UsbMuxDevice}
    (h : Distinct devices) : Distinct (addEntries done devices rest) := by
  induction rest generalizing done devices with
  | nil => exact h
  | cons entry rest ih => exact ih (distinct_addEntry h _ entry)

theorem mem_addEntry {devices : List UsbMuxDevice} {found entry : Entry} {device : UsbMuxDevice}
    (h : device ∈ addEntry devices found entry) :
    device ∈ devices ∨ device = { deviceId := found.id, udid := entry.udid } := by
  rw [addEntry] at h
  split at h
  · split at h
    · exact .inl h
    · rwa [List.mem_append, List.mem_singleton] at h
  · exact .inl h

/-- **Every device that is found** has its serial number, and the number of the dictionary found
for that. -/
theorem mem_addEntries {done rest : List Entry} {devices : List UsbMuxDevice}
    {device : UsbMuxDevice} (h : device ∈ addEntries done devices rest) :
    device ∈ devices ∨ ∃ before entry after, rest = before ++ entry :: after ∧
      device = { deviceId := (source (done ++ before) entry).id, udid := entry.udid } := by
  induction rest generalizing done devices with
  | nil => exact .inl h
  | cons entry rest ih =>
    obtain hmem | ⟨before, other, after, rfl, heq⟩ := ih h
    · obtain hmem | heq := mem_addEntry hmem
      · exact .inl hmem
      · exact .inr ⟨[], entry, rest, rfl, by rw [List.append_nil]; exact heq⟩
    · rw [List.append_assoc, List.singleton_append] at heq
      exact .inr ⟨entry :: before, other, after, rfl, heq⟩

/-- The devices on the cable. -/
def cableDevices (entries : List Entry) : List UsbMuxDevice :=
  (entries.filter Entry.onCable).map Entry.device

/-- **What one dictionary adds**, when all devices so far were found exactly. -/
theorem addEntry_exact {done : List Entry} {entry : Entry}
    (hown : entry.onCable = true → done = [] ∨ entry.Tight) (hid : entry.id ∉ done.map Entry.id)
    (hudid : entry.onCable = true → ∀ other ∈ done, other.onCable = true →
      equalsUdid other.udid entry.udid = false) :
    addEntry (cableDevices done) (source done entry) entry = cableDevices (done ++ [entry]) := by
  rw [cableDevices, cableDevices, List.filter_append, List.map_append, addEntry]
  cases hcable : entry.onCable with
  | true =>
    rw [source_own (hown hcable), hcable, if_pos rfl, if_neg]
    · rw [List.filter_cons_of_pos hcable]
      rfl
    · rw [List.any_eq_true]
      intro hany
      obtain ⟨device, hmem, hequal⟩ := hany
      obtain ⟨other, hother, rfl⟩ := List.mem_map.1 hmem
      obtain ⟨hdone, hother⟩ := List.mem_filter.1 hother
      rw [show equalsUdid other.device.udid entry.udid = false from
        hudid hcable other hdone hother, Bool.or_false, decide_eq_true_eq] at hequal
      exact hid (List.mem_map.2 ⟨other, hdone, hequal⟩)
  | false =>
    have hnone : [entry].filter Entry.onCable = [] :=
      List.filter_cons_of_neg (by rw [hcable]; exact Bool.false_ne_true)
    rw [hnone, List.map_nil, List.append_nil]
    obtain heq | hmem := source_mem done entry
    · rw [heq, hcable, if_neg Bool.false_ne_true]
    · cases hsource : (source done entry).onCable with
      | false => rw [if_neg Bool.false_ne_true]
      | true =>
        rw [if_pos rfl, if_pos]
        refine List.any_eq_true.2 ⟨(source done entry).device, ?_, ?_⟩
        · exact List.mem_map_of_mem (List.mem_filter.2 ⟨hmem, hsource⟩)
        · rw [Bool.or_eq_true, decide_eq_true_eq]
          exact .inl rfl

/-- The loop finds the devices on the cable exactly. -/
theorem addEntries_exact {done rest : List Entry}
    (hown : ∀ entry ∈ (done ++ rest).tail, entry.onCable = true → entry.Tight)
    (hids : ((done ++ rest).map Entry.id).Nodup) (hudids : Distinct (cableDevices (done ++ rest))) :
    addEntries done (cableDevices done) rest = cableDevices (done ++ rest) := by
  induction rest generalizing done with
  | nil => rw [List.append_nil]; rfl
  | cons entry rest ih =>
    rw [List.append_cons] at hown hids hudids ⊢
    rw [addEntries, addEntry_exact, ih hown hids hudids]
    · intro hcable
      cases done with
      | nil => exact .inl rfl
      | cons first done =>
        refine .inr (hown entry ?_ hcable)
        simp
    · rw [List.map_append, List.map_append, List.append_assoc, List.nodup_append] at hids
      intro hmem
      exact hids.2.2 _ hmem _ (List.mem_append_left _ List.mem_cons_self) rfl
    · intro hcable other hmem hother
      rw [cableDevices, List.filter_append, List.filter_append, List.map_append, List.map_append,
        Distinct, List.append_assoc, List.pairwise_append] at hudids
      refine hudids.2.2 other.device (List.mem_map_of_mem (List.mem_filter.2 ⟨hmem, hother⟩))
        entry.device (List.mem_append_left _ ?_)
      rw [List.filter_cons_of_pos hcable]
      exact List.mem_cons_self

theorem Member.flat (m : Member) : ∀ chunk ∈ m.chunks, ¬ascii "<dict>" <+: chunk := by
  have hopening : ∀ field : Field, ¬ascii "<dict>" <+: field.opening := by
    intro field; cases field <;> decide
  have hclose (rest : Bytes) : ¬ascii "<dict>" <+: ascii "</" ++ rest := by
    rintro ⟨tail, h⟩
    have hbegin : ascii "<d" = ascii "</" := congrArg (List.take 2) h
    exact absurd hbegin (by decide)
  have hvalue (field : Field) (rest : Bytes) :
      ¬ascii "<dict>" <+: ascii "<" ++ field.tag ++ ascii ">" ++ rest := by
    have htag : ∀ field : Field, ascii "<d" ≠ (ascii "<" ++ field.tag).take 2 := by
      intro field; cases field <;> decide
    rintro ⟨tail, h⟩
    have hbegin : ascii "<d" = (ascii "<" ++ field.tag).take 2 := by
      cases field <;> exact congrArg (List.take 2) h
    exact htag field hbegin
  intro chunk hmem
  obtain rfl | rfl | rfl | rfl : chunk = m.field.opening ∨ chunk = ascii "</key>" ++ m.afterKey.1 ∨
      chunk = m.valueChunk ∨ chunk = ascii "</" ++ m.field.tag ++ ascii ">" ++ m.afterTag.1 := by
    simpa [Member.chunks] using hmem
  · exact hopening m.field
  · exact hclose (ascii "key>" ++ m.afterKey.1)
  · exact hvalue m.field _
  · rw [List.append_assoc, List.append_assoc]
    exact hclose _

/-- A text without tags and white space. -/
theorem isText_of_plain {value : Bytes} (hno : 0x3C ∉ value) (h : ∀ b ∈ value, ¬isSpace b = true) :
    IsText value where
  noTag := hno
  trimmed := by
    rw [trimSpace, List.dropWhile_eq_self_iff.2 fun _ => h _ (List.getElem_mem _),
      List.rdropWhile_eq_self_iff.2 fun _ => h _ (List.getLast_mem _)]

theorem isText_decimal (n : Nat) : IsText (Config.decimal n) := by
  have hdigit : ∀ b, isDigit b = true → ¬isSpace b = true := by decide +kernel
  have hdigits := Config.decimal_all_digits n
  exact isText_of_plain (fun hmem => absurd (hdigits _ hmem) (by decide))
    fun b hmem => hdigit b (hdigits b hmem)

/-- A line break. -/
def lineBreak : Gap := ⟨ascii "\n", by decide +kernel⟩

/-- No white space. -/
def noGap : Gap := ⟨[], by decide +kernel⟩

/-- A key and its value on lines of their own. -/
def onLines (field : Field) {value : Bytes} (h : IsText value) : Item :=
  .member { field, value, isText := h, afterKey := lineBreak, beforeValue := lineBreak,
            afterValue := lineBreak, afterTag := lineBreak }

/-- The message type, with a gap between its key and its value. -/
def messageType (gap : Gap) : Item :=
  .member { field := .messageType, value := ascii "Attached", isText := ⟨by decide, by decide⟩,
            afterKey := gap, beforeValue := noGap, afterValue := noGap, afterTag := lineBreak }

/-- A dictionary on lines. -/
def written (id : UInt32) (type udid : Bytes) (htype : IsText type) (hudid : IsText udid)
    (gap : Gap) : Entry where
  id := id
  type := type
  udid := udid
  outer := [onLines .deviceId (isText_decimal id.toNat), messageType gap]
  inner := [onLines .connectionType htype, onLines .deviceId (isText_decimal id.toNat),
            onLines .serialNumber hudid]
  after := []
  openGap := lineBreak
  propertiesGap := lineBreak
  innerGap := lineBreak
  innerEndGap := lineBreak
  endGap := lineBreak
  outerFields := List.Perm.refl _
  innerFields := List.Perm.refl _
  afterFields := rfl
  flat := by
    intro chunk hmem
    obtain ⟨item, hitem, hchunk⟩ := List.mem_flatMap.1 hmem
    obtain rfl | rfl : item = onLines .deviceId (isText_decimal id.toNat) ∨
        item = messageType gap := by simpa using hitem
    · exact Member.flat _ chunk hchunk
    · exact Member.flat _ chunk hchunk
  number := rfl
  attached := rfl
  connection := rfl
  serial := rfl

theorem isOther_iff (chunk : Bytes) : IsOther chunk ↔
    (chunk.head? = some 0x3C ∧ 0x3C ∉ chunk.tail) ∧
      ∀ field ∈ [Field.deviceId, .messageType, .connectionType, .serialNumber],
        chunk ≠ field.opening := by
  constructor
  · intro h
    obtain ⟨tail, rfl, hfree⟩ := h.isChunk
    exact ⟨⟨rfl, hfree⟩, fun field _ => h.noField field⟩
  · rintro ⟨⟨hhead, hfree⟩, hno⟩
    refine ⟨⟨chunk.tail, (List.cons_head?_tail hhead).symm, hfree⟩, fun field => hno field ?_⟩
    cases field <;> simp

instance decidableIsOther : DecidablePred IsOther :=
  fun chunk => decidable_of_iff _ (isOther_iff chunk).symm

/-- The document that the service sends. -/
def document (entries : List Entry) : DeviceList where
  lead := []
  prologue := [ascii "<plist version=\"1.0\">", ascii "<dict>", ascii "<key>DeviceList",
               ascii "</key>", ascii "<array>"]
  entries := entries
  epilogue := [ascii "</array>", ascii "</dict>", ascii "</plist>"]
  lead_noTag := List.not_mem_nil
  prologue_other := by decide +kernel
  epilogue_other := by decide +kernel

theorem isText_usb : IsText (ascii "USB") := isText_of_plain (by decide) (by decide +kernel)

theorem isText_network : IsText (ascii "Network") :=
  isText_of_plain (by decide) (by decide +kernel)

/-- A tablet on the cable, one in the network, and another one on the cable, whose message type has
`gap` between its key and its value. -/
def threeTablets (gap : Gap) : List Entry :=
  [written 3 (ascii "USB") (ascii "00008030-0012") isText_usb
      (isText_of_plain (by decide) (by decide +kernel)) noGap,
    written 4 (ascii "Network") (ascii "00008030-0034") isText_network
      (isText_of_plain (by decide) (by decide +kernel)) lineBreak,
    written 5 (ascii "USB") (ascii "00008030-0056") isText_usb
      (isText_of_plain (by decide) (by decide +kernel)) gap]

end SecondDisplay.UsbMux
