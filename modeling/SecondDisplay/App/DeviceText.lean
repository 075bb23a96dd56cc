import SecondDisplay.App.UiModel

/-!
# The round trip of the device box (`app/UiModel.cpp`)

What is written into the device box and read back, on the level of bytes: the separators are ASCII
characters, which both encodings mark, so the conversions can be taken out (`parse_utf16`).  Then a
line that holds no line break gives its device back, and a name with a line break never comes back
(`entries_round_trip_iff`).
-/

namespace SecondDisplay

namespace UiModel

open Encoding

/-! ### Reading bytes -/

/-- A line break, as a byte. -/
def isBreakByte (b : UInt8) : Bool := b == 0x0D || b == 0x0A

/-- Blanks at both ends are dropped. -/
def trim (line : Bytes) : Bytes := (line.dropWhile Config.isBlank).rdropWhile Config.isBlank

/-- A device that a line adds. -/
def lineDevice (defaultPort : UInt16) (count : Nat) (line : Bytes) : DeviceConfig :=
  Config.legacyDevice line defaultPort (UInt32.ofNat count)

/-- A device is added unless it has no address or a known one. -/
def addLine (defaultPort : UInt16) (devices : List DeviceConfig) (line : Bytes) :
    List DeviceConfig :=
  let device := lineDevice defaultPort devices.length line
  if device.lastIpv4 ≠ [] ∧ known devices device.lastIpv4 = false then devices ++ [device]
  else devices

/-- One turn of the loop, on a line of bytes. -/
def readLine (defaultPort : UInt16) (devices : List DeviceConfig) (line : Bytes) :
    List DeviceConfig :=
  addLine defaultPort devices (trim line)

/-- The whole loop, on bytes. -/
def readText (defaultPort : UInt16) (text : Bytes) : List DeviceConfig :=
  (text.splitOnP isBreakByte).foldl (readLine defaultPort) []

/-! ### The separators in both encodings -/

/-- The code points of blanks. -/
def blankCode (n : Nat) : Bool := n == 0x20 || n == 0x09

/-- The code points of line breaks. -/
def breakCode (n : Nat) : Bool := n == 0x0D || n == 0x0A

theorem blankCode_ascii : ∀ n, blankCode n = true → n < 0x80 := by
  intro n hn
  rw [blankCode, Bool.or_eq_true, beq_iff_eq, beq_iff_eq] at hn
  omega

theorem breakCode_ascii : ∀ n, breakCode n = true → n < 0x80 := by
  intro n hn
  rw [breakCode, Bool.or_eq_true, beq_iff_eq, beq_iff_eq] at hn
  omega

theorem isBlank_eq : Config.isBlank = fun b => blankCode b.toNat := by
  funext b
  rw [Bool.eq_iff_iff, Config.isBlank, blankCode]
  simp only [Bool.or_eq_true, beq_iff_eq, ← UInt8.toNat_inj]
  rfl

theorem isBreakByte_eq : isBreakByte = fun b => breakCode b.toNat := by
  funext b
  rw [Bool.eq_iff_iff, isBreakByte, breakCode]
  simp only [Bool.or_eq_true, beq_iff_eq, ← UInt8.toNat_inj]
  rfl

theorem isWideBlank_eq : isWideBlank = fun unit => blankCode unit.toNat := by
  funext unit
  rw [Bool.eq_iff_iff, isWideBlank, blankCode]
  simp only [Bool.or_eq_true, beq_iff_eq, ← UInt16.toNat_inj]
  rfl

theorem isLineBreak_eq : isLineBreak = fun unit => breakCode unit.toNat := by
  funext unit
  rw [Bool.eq_iff_iff, isLineBreak, breakCode]
  simp only [Bool.or_eq_true, beq_iff_eq, ← UInt16.toNat_inj]
  rfl

/-- The blanks of UTF-8. -/
theorem utf8_blank : Marks String.utf8EncodeChar (fun c => blankCode c.toNat) Config.isBlank :=
  isBlank_eq ▸ utf8_marks blankCode_ascii

/-- The line breaks of UTF-8. -/
theorem utf8_break : Marks String.utf8EncodeChar (fun c => breakCode c.toNat) isBreakByte :=
  isBreakByte_eq ▸ utf8_marks breakCode_ascii

/-- The blanks of UTF-16. -/
theorem utf16_blank : Marks utf16Char (fun c => blankCode c.toNat) isWideBlank :=
  isWideBlank_eq ▸ utf16_marks blankCode_ascii

/-- The line breaks of UTF-16. -/
theorem utf16_break : Marks utf16Char (fun c => breakCode c.toNat) isLineBreak :=
  isLineBreak_eq ▸ utf16_marks breakCode_ascii

/-- One turn of the loop adds the device of a line. -/
theorem parseLine_eq (conversion : TextConversion) (port : UInt16) (devices : List DeviceConfig)
    (line : List UInt16) :
    parseLine conversion port devices line =
      if (line.dropWhile isWideBlank).rdropWhile isWideBlank = [] then devices
      else addLine port devices
        (conversion.narrow ((line.dropWhile isWideBlank).rdropWhile isWideBlank)) := rfl

/-- A line of well-formed text is read as its bytes. -/
theorem parseLine_utf16 (conversion : TextConversion) (port : UInt16)
    (devices : List DeviceConfig) (cs : List Char) :
    parseLine conversion port devices (utf16 cs) = readLine port devices (utf8 cs) := by
  have hwide : ((utf16 cs).dropWhile isWideBlank).rdropWhile isWideBlank =
      utf16 ((cs.dropWhile fun c => blankCode c.toNat).rdropWhile fun c => blankCode c.toNat) := by
    rw [utf16, utf16_blank.dropWhile, utf16_blank.rdropWhile, utf16]
  have hbytes : trim (utf8 cs) =
      utf8 ((cs.dropWhile fun c => blankCode c.toNat).rdropWhile fun c => blankCode c.toNat) := by
    rw [trim, utf8, utf8_blank.dropWhile, utf8_blank.rdropWhile, utf8]
  generalize (cs.dropWhile fun c => blankCode c.toNat).rdropWhile
    (fun c => blankCode c.toNat) = ds at hwide hbytes
  rw [parseLine_eq, readLine, hwide, hbytes, conversion.narrow_utf16]
  by_cases hnil : ds = []
  · subst hnil
    rfl
  · have hne : utf16 ds ≠ [] := fun h => hnil (utf16_blank.flatMap_eq_nil.1 h)
    rw [if_neg hne]

/-- **A well-formed text is read as its bytes.** -/
theorem parse_utf16 (conversion : TextConversion) (port : UInt16) (cs : List Char) :
    parseDeviceEntriesText conversion (utf16 cs) port = readText port (utf8 cs) := by
  have key : ∀ (lines : List (List Char)) (devices : List DeviceConfig),
      (lines.map utf16).foldl (parseLine conversion port) devices =
        (lines.map utf8).foldl (readLine port) devices := by
    intro lines
    induction lines with
    | nil => exact fun _ => rfl
    | cons line lines ih =>
      intro devices
      rw [List.map_cons, List.map_cons, List.foldl_cons, List.foldl_cons, parseLine_utf16, ih]
  rw [parseDeviceEntriesText, readText, utf16, utf16_break.splitOnP, utf8, utf8_break.splitOnP]
  exact key _ []

/-! ### Writing bytes -/

/-- One turn of the loop over the devices, on bytes. -/
def writeLine (text : Bytes) (device : DeviceConfig) : Bytes :=
  (if text ≠ [] then text ++ [0x0D, 0x0A] else text) ++ entryLine device

/-- The text of all devices, on bytes. -/
def bytesText (devices : List DeviceConfig) : Bytes := devices.foldl writeLine []

/-- What the device box is asked to show: endpoints and names in well-formed UTF-8, neither empty,
no white space in the endpoint and no blank around the name. -/
structure Writable (device : DeviceConfig) : Prop where
  endpoint_text : ∃ cs, endpoint device = utf8 cs
  endpoint_ne : endpoint device ≠ []
  endpoint_space : ∀ b ∈ endpoint device, isSpace b = false
  name_text : ∃ cs, device.name = utf8 cs
  name_ne : device.name ≠ []
  name_head : ∀ b, device.name.head? = some b → Config.isBlank b = false
  name_last : ∀ b, device.name.getLast? = some b → Config.isBlank b = false

theorem not_separator :
    ∀ b, isSpace b = false → Config.isBlank b = false ∧ isBreakByte b = false := by
  decide +kernel

/-- The line of a device with an endpoint. -/
theorem entryLine_eq {device : DeviceConfig} (h : Writable device) :
    entryLine device =
      endpoint device ++ if device.name = endpoint device then [] else 0x20 :: device.name := by
  have hne : ∀ tail, endpoint device ++ tail ≠ [] := fun tail hnil =>
    h.endpoint_ne (List.append_eq_nil_iff.1 hnil).1
  by_cases hname : device.name = endpoint device
  · have hsame : ¬(device.name ≠ [] ∧ device.name ≠ endpoint device) := fun hand => hand.2 hname
    simp only [entryLine, if_neg hsame, if_neg h.endpoint_ne, if_pos hname, List.append_nil]
  · have hother : device.name ≠ [] ∧ device.name ≠ endpoint device := ⟨h.name_ne, hname⟩
    simp only [entryLine, if_pos hother, if_neg (hne _), if_neg hname]

theorem entryLine_text {device : DeviceConfig} (h : Writable device) :
    ∃ cs, entryLine device = utf8 cs := by
  obtain ⟨es, hes⟩ := h.endpoint_text
  obtain ⟨ns, hns⟩ := h.name_text
  rw [entryLine_eq h]
  by_cases hname : device.name = endpoint device
  · exact ⟨es, by rw [if_pos hname, List.append_nil, hes]⟩
  · refine ⟨es ++ ' ' :: ns, ?_⟩
    rw [if_neg hname, hes, hns, utf8, utf8, utf8, List.flatMap_append, List.flatMap_cons]
    rfl

/-- The box holds the bytes of the text, in UTF-16. -/
theorem devicesText_utf16 (conversion : TextConversion) {devices : List DeviceConfig}
    (h : ∀ device ∈ devices, Writable device) :
    ∃ cs, devicesText conversion devices = utf16 cs ∧ bytesText devices = utf8 cs := by
  induction devices using List.reverseRecOn with
  | nil => exact ⟨[], rfl, rfl⟩
  | append_singleton devices device ih =>
    obtain ⟨cs, hwide, hbytes⟩ := ih fun d hd => h d (List.mem_append_left _ hd)
    obtain ⟨ls, hls⟩ := entryLine_text (h device (List.mem_append_right _ List.mem_cons_self))
    have hentry : deviceEntryText conversion device = utf16 ls := by
      rw [deviceEntryText, hls, conversion.widen_utf8]
    rw [devicesText, List.foldl_append, List.foldl_cons, List.foldl_nil, ← devicesText, hwide,
      hentry, bytesText, List.foldl_append, List.foldl_cons, List.foldl_nil, ← bytesText, hbytes,
      writeLine, hls]
    by_cases hnil : cs = []
    · subst hnil
      exact ⟨ls, rfl, rfl⟩
    · refine ⟨cs ++ '\r' :: '\n' :: ls, ?_, ?_⟩
      · have hne : utf16 cs ≠ [] := fun hempty => hnil (utf16_blank.flatMap_eq_nil.1 hempty)
        rw [if_pos hne]
        simp only [utf16, List.flatMap_append, List.flatMap_cons, List.append_assoc]
        rfl
      · have hne : utf8 cs ≠ [] := fun hempty => hnil (utf8_blank.flatMap_eq_nil.1 hempty)
        rw [if_pos hne]
        simp only [utf8, List.flatMap_append, List.flatMap_cons, List.append_assoc]
        rfl

/-! ### What is read back -/

/-- The last device is read behind the others. -/
theorem readText_concat (port : UInt16) (devices : List DeviceConfig) (device : DeviceConfig) :
    readText port (bytesText (devices ++ [device])) =
      ((entryLine device).splitOnP isBreakByte).foldl (readLine port)
        (readText port (bytesText devices)) := by
  rw [bytesText, List.foldl_append, List.foldl_cons, List.foldl_nil, ← bytesText, writeLine]
  by_cases hnil : bytesText devices = []
  · rw [if_neg (not_not_intro hnil), hnil, List.nil_append]
    rfl
  · have hsplit : (bytesText devices ++ 0x0D :: ([] ++ 0x0A :: entryLine device)).splitOnP
        isBreakByte = (bytesText devices).splitOnP isBreakByte ++
          ([[]] ++ (entryLine device).splitOnP isBreakByte) := by
      rw [List.splitOnP_append_cons _ _ rfl, List.splitOnP_append_cons _ _ rfl]
      rfl
    rw [if_pos hnil, List.append_assoc]
    show readText port (bytesText devices ++ 0x0D :: ([] ++ 0x0A :: entryLine device)) = _
    rw [readText, hsplit, List.foldl_append, List.foldl_append]
    rfl

/-- A line without line breaks that has no blank at its ends stays as it is. -/
theorem trim_entryLine {device : DeviceConfig} (h : Writable device) :
    trim (entryLine device) = entryLine device := by
  have hhead : ∀ b, (entryLine device).head? = some b → Config.isBlank b = false := by
    intro b hb
    rw [entryLine_eq h, List.head?_append_of_ne_nil _ h.endpoint_ne] at hb
    exact (not_separator b (h.endpoint_space b (List.mem_of_head? hb))).1
  have hlast : ∀ b, (entryLine device).getLast? = some b → Config.isBlank b = false := by
    intro b hb
    rw [entryLine_eq h] at hb
    split at hb
    · rw [List.append_nil] at hb
      exact (not_separator b (h.endpoint_space b (List.mem_of_getLast? hb))).1
    · rw [List.getLast?_append_of_ne_nil _ (List.cons_ne_nil _ _),
        List.getLast?_cons_of_ne_nil h.name_ne] at hb
      exact h.name_last b hb
  have hdrop : (entryLine device).dropWhile Config.isBlank = entryLine device := by
    cases hline : entryLine device with
    | nil => rfl
    | cons b line =>
      rw [List.dropWhile_cons_of_neg]
      rw [hhead b (by rw [hline]; rfl)]
      exact Bool.false_ne_true
  rw [trim, hdrop, List.rdropWhile_eq_self_iff]
  intro hne
  rw [hlast _ (List.getLast?_eq_some_getLast hne)]
  exact Bool.false_ne_true

/-- **A line gives its device back.** -/
theorem lineDevice_entryLine {device : DeviceConfig} (h : Writable device) (port : UInt16)
    (count : Nat) :
    lineDevice port count (entryLine device) =
      { lastIpv4 := endpoint device
        name := device.name
        port := port
        priority := UInt32.ofNat count } := by
  have hplain : ∀ b ∈ endpoint device, (!Config.isBlank b) = true := fun b hb => by
    rw [(not_separator b (h.endpoint_space b hb)).1]
    rfl
  have hblank : Config.isBlank 0x20 = true := rfl
  rw [lineDevice, Config.legacyDevice, entryLine_eq h,
    Marks.takeWhile_append_of_all hplain, Marks.dropWhile_append_of_all hplain]
  by_cases hname : device.name = endpoint device
  · rw [if_pos hname, hname]
    simp only [List.takeWhile_nil, List.dropWhile_nil, List.append_nil, if_true]
  · have hdrop : device.name.dropWhile Config.isBlank = device.name := by
      cases hcases : device.name with
      | nil => rfl
      | cons b name =>
        rw [List.dropWhile_cons_of_neg]
        rw [h.name_head b (by rw [hcases]; rfl)]
        exact Bool.false_ne_true
    rw [if_neg hname, List.takeWhile_cons_of_neg (by rw [hblank]; exact Bool.false_ne_true),
      List.dropWhile_cons_of_neg (by rw [hblank]; exact Bool.false_ne_true),
      List.dropWhile_cons_of_pos hblank, hdrop, if_neg h.name_ne, List.append_nil]

/-- The devices that the box gives back. -/
def shown (port : UInt16) (devices : List DeviceConfig) : List DeviceConfig :=
  devices.mapIdx fun i device =>
    { lastIpv4 := endpoint device
      name := device.name
      port := port
      priority := UInt32.ofNat i }

theorem shown_concat (port : UInt16) (devices : List DeviceConfig) (device : DeviceConfig) :
    shown port (devices ++ [device]) = shown port devices ++
      [{ lastIpv4 := endpoint device
         name := device.name
         port := port
         priority := UInt32.ofNat devices.length }] := by
  rw [shown, List.mapIdx_append]
  simp only [List.mapIdx_cons, List.mapIdx_nil, Nat.zero_add]
  rfl

theorem known_shown {port : UInt16} {devices : List DeviceConfig} {address : Bytes}
    (hnew : address ∉ devices.map endpoint) : known (shown port devices) address = false := by
  rw [known, List.any_eq_false]
  intro existing hmem
  obtain ⟨i, hi, rfl⟩ := List.mem_mapIdx.1 hmem
  have hne : endpoint devices[i] ≠ address := fun heq =>
    hnew (List.mem_map.2 ⟨devices[i], List.getElem_mem hi, heq⟩)
  simp [hne]

/-- **The box gives all devices back** whose names have no line break. -/
theorem readText_shown (port : UInt16) {devices : List DeviceConfig}
    (h : ∀ device ∈ devices, Writable device) (hdistinct : (devices.map endpoint).Nodup)
    (hbreaks : ∀ device ∈ devices, ∀ b ∈ device.name, isBreakByte b = false) :
    readText port (bytesText devices) = shown port devices := by
  induction devices using List.reverseRecOn with
  | nil => rfl
  | append_singleton devices device ih =>
    have hlast : Writable device := h device (List.mem_append_right _ List.mem_cons_self)
    rw [List.map_append, List.nodup_append] at hdistinct
    have hnew : endpoint device ∉ devices.map endpoint := fun hmem =>
      hdistinct.2.2 _ hmem _ (List.mem_cons_self) rfl
    have hline : ∀ b ∈ entryLine device, isBreakByte b = false := by
      intro b hb
      rw [entryLine_eq hlast, List.mem_append] at hb
      obtain hb | hb := hb
      · exact (not_separator b (hlast.endpoint_space b hb)).2
      · split at hb
        · cases hb
        · obtain rfl | hb := List.mem_cons.1 hb
          · rfl
          · exact hbreaks device (List.mem_append_right _ List.mem_cons_self) b hb
    rw [readText_concat, ih (fun d hd => h d (List.mem_append_left _ hd)) hdistinct.1
      (fun d hd => hbreaks d (List.mem_append_left _ hd)), List.splitOnP_eq_singleton hline,
      List.foldl_cons, List.foldl_nil, readLine, trim_entryLine hlast, addLine,
      lineDevice_entryLine hlast, shown_concat]
    have hlength : (shown port devices).length = devices.length := List.length_mapIdx
    rw [hlength]
    exact if_pos ⟨hlast.endpoint_ne, known_shown hnew⟩

/-! ### What is always read back -/

/-- What reading a text makes of it: devices with addresses, no two of them the same, no ids, the
default port and their positions as priorities. -/
structure Listed (port : UInt16) (devices : List DeviceConfig) : Prop where
  address : ∀ (i : Nat) (device : DeviceConfig), devices[i]? = some device → device.lastIpv4 ≠ []
  unnamed : ∀ (i : Nat) (device : DeviceConfig), devices[i]? = some device → device.id = []
  fields : ∀ (i : Nat) (device : DeviceConfig), devices[i]? = some device →
    device.bonjourHost = [] ∧ device.port = port ∧ device.autoConnect = true ∧
      device.priority = UInt32.ofNat i
  distinct : (devices.map DeviceConfig.lastIpv4).Nodup

theorem listed_nil (port : UInt16) : Listed port [] :=
  ⟨fun _ _ h => (by cases h), fun _ _ h => (by cases h), fun _ _ h => (by cases h),
    List.nodup_nil⟩

theorem listed_addLine {port : UInt16} {devices : List DeviceConfig} (h : Listed port devices)
    (line : Bytes) : Listed port (addLine port devices line) := by
  rw [addLine]
  split
  · rename_i hadds
    have hcases : ∀ (i : Nat) (device : DeviceConfig),
        (devices ++ [lineDevice port devices.length line])[i]? = some device →
          devices[i]? = some device ∨
            i = devices.length ∧ device = lineDevice port devices.length line := by
      intro i device hi
      rw [List.getElem?_append] at hi
      split at hi
      · exact .inl hi
      · obtain ⟨hlt, heq⟩ := List.getElem?_eq_some_iff.1 hi
        rw [List.length_singleton] at hlt
        rw [List.getElem_singleton] at heq
        exact .inr ⟨by omega, heq.symm⟩
    refine ⟨fun i device hi => ?_, fun i device hi => ?_, fun i device hi => ?_, ?_⟩
    · obtain hold | ⟨-, rfl⟩ := hcases i device hi
      · exact h.address i device hold
      · exact hadds.1
    · obtain hold | ⟨-, rfl⟩ := hcases i device hi
      · exact h.unnamed i device hold
      · rfl
    · obtain hold | ⟨rfl, rfl⟩ := hcases i device hi
      · exact h.fields i device hold
      · exact ⟨rfl, rfl, rfl, rfl⟩
    · rw [List.map_append, List.nodup_append]
      refine ⟨h.distinct, List.pairwise_singleton _ _, fun a ha b hb => ?_⟩
      obtain ⟨existing, hmem, rfl⟩ := List.mem_map.1 ha
      rw [List.map_singleton, List.mem_singleton] at hb
      have hknown := List.any_eq_false.1 hadds.2 existing hmem
      rw [hb]
      intro hsame
      exact hknown (by rw [decide_eq_true hsame]; rfl)
  · exact h

theorem listed_readText (port : UInt16) (text : Bytes) : Listed port (readText port text) := by
  have key : ∀ (lines : List Bytes) (devices : List DeviceConfig), Listed port devices →
      Listed port (lines.foldl (readLine port) devices) := by
    intro lines
    induction lines with
    | nil => exact fun devices h => h
    | cons line lines ih => exact fun devices h => ih _ (listed_addLine h (trim line))
  exact key _ [] (listed_nil port)

/-- **Whatever the box holds, the devices that are read have distinct addresses.** -/
theorem listed_parse (conversion : TextConversion) (text : List UInt16) (port : UInt16) :
    Listed port (parseDeviceEntriesText conversion text port) := by
  have key : ∀ (lines : List (List UInt16)) (devices : List DeviceConfig), Listed port devices →
      Listed port (lines.foldl (parseLine conversion port) devices) := by
    intro lines
    induction lines with
    | nil => exact fun devices h => h
    | cons line lines ih =>
      intro devices h
      refine ih _ ?_
      rw [parseLine_eq]
      split
      · exact h
      · exact listed_addLine h _
  exact key _ [] (listed_nil port)

/-! ### What is never read back -/

theorem mem_lineDevice_name {port : UInt16} {count : Nat} {line : Bytes} {b : UInt8}
    (h : b ∈ (lineDevice port count line).name) : b ∈ line := by
  rw [lineDevice, Config.legacyDevice] at h
  dsimp only at h
  split at h
  · exact (List.takeWhile_prefix _).subset h
  · exact (List.dropWhile_suffix _).subset ((List.dropWhile_suffix _).subset h)

theorem mem_trim {line : Bytes} {b : UInt8} (h : b ∈ trim line) : b ∈ line :=
  (List.dropWhile_suffix _).subset ((List.rdropWhile_prefix _ _).subset h)

/-- The names and addresses that are read are parts of the text, without line breaks. -/
theorem mem_readText {port : UInt16} {text : Bytes} {device : DeviceConfig}
    (h : device ∈ readText port text) :
    (∀ b ∈ device.name, b ∈ text ∧ isBreakByte b = false) ∧
      ∀ b ∈ device.lastIpv4, b ∈ text ∧ isBreakByte b = false := by
  have key : ∀ (lines : List Bytes), (∀ line ∈ lines, ∀ b ∈ line, b ∈ text ∧
      isBreakByte b = false) → ∀ devices : List DeviceConfig,
      device ∈ lines.foldl (readLine port) devices → device ∈ devices ∨
        (∀ b ∈ device.name, b ∈ text ∧ isBreakByte b = false) ∧
          ∀ b ∈ device.lastIpv4, b ∈ text ∧ isBreakByte b = false := by
    intro lines hlines
    induction lines with
    | nil => exact fun devices hmem => .inl hmem
    | cons line lines ih =>
      intro devices hmem
      have hline := hlines line List.mem_cons_self
      obtain hmem | hdone := ih (fun l hl => hlines l (List.mem_cons_of_mem line hl)) _ hmem
      · rw [readLine, addLine] at hmem
        split at hmem
        · obtain hmem | hmem := List.mem_append.1 hmem
          · exact .inl hmem
          · rw [List.mem_singleton.1 hmem]
            refine .inr ⟨fun b hb => hline b (mem_trim (mem_lineDevice_name hb)), fun b hb => ?_⟩
            exact hline b (mem_trim ((List.takeWhile_prefix _).subset hb))
        · exact .inl hmem
      · exact .inr hdone
  obtain hnil | hdone := key (text.splitOnP isBreakByte)
    (fun line hline b hb => mem_of_mem_splitOnP hline hb) [] h
  · cases hnil
  · exact hdone

/-! ### The round trip -/

/-- What the panel shows of a device. -/
def shownPair (device : DeviceConfig) : Bytes × Bytes := (endpoint device, device.name)

theorem shown_pairs (port : UInt16) {devices : List DeviceConfig}
    (h : ∀ device ∈ devices, Writable device) :
    (shown port devices).map shownPair = devices.map shownPair := by
  apply List.ext_getElem?
  intro i
  rw [List.getElem?_map, shown, List.getElem?_mapIdx, List.getElem?_map]
  cases hi : devices[i]? with
  | none => rfl
  | some device =>
    have hne := (h device (List.mem_of_getElem? hi)).endpoint_ne
    show some (shownPair _) = some (shownPair device)
    rw [shownPair, shownPair, endpoint]
    exact congrArg some (Prod.ext (if_pos hne) rfl)

/-- **When the device box round-trips.**  The text of the devices, read back, gives each device's
endpoint and name again, in order, exactly if no name holds a carriage return or a line feed. -/
theorem entries_round_trip_iff (conversion : TextConversion) (defaultPort : UInt16)
    (devices : List DeviceConfig) (hwritable : ∀ device ∈ devices, Writable device)
    (hdistinct : (devices.map endpoint).Nodup) :
    (parseDeviceEntriesText conversion (devicesText conversion devices) defaultPort).map
        shownPair = devices.map shownPair ↔
      ∀ device ∈ devices, ∀ b ∈ device.name, b ≠ 0x0D ∧ b ≠ 0x0A := by
  have hbreak : ∀ b : UInt8, (b ≠ 0x0D ∧ b ≠ 0x0A) ↔ isBreakByte b = false := fun b => by
    rw [isBreakByte, Bool.or_eq_false_iff, beq_eq_false_iff_ne, beq_eq_false_iff_ne]
  simp only [hbreak]
  obtain ⟨cs, hwide, hbytes⟩ := devicesText_utf16 conversion hwritable
  rw [hwide, parse_utf16, ← hbytes]
  constructor
  · intro hsame device hmem b hb
    have hpair : shownPair device ∈ (readText defaultPort (bytesText devices)).map shownPair :=
      hsame ▸ List.mem_map_of_mem hmem
    obtain ⟨back, hback, heq⟩ := List.mem_map.1 hpair
    rw [shownPair, shownPair, Prod.mk.injEq] at heq
    exact ((mem_readText hback).1 b (heq.2 ▸ hb)).2
  · intro hnone
    rw [readText_shown defaultPort hwritable hdistinct hnone, shown_pairs defaultPort hwritable]

/-- The conversions, with one replacement character for a malformed text. -/
def unicode : TextConversion where
  widen text := utf16 (decodeUtf8 text)
  narrow text := utf8 (decodeUtf16 text)
  widen_utf8 cs := by rw [decodeUtf8_utf8]
  narrow_utf16 cs := by rw [decodeUtf16_utf16]

/-- Two devices of a household, one of them known by its host name only. -/
def household : List DeviceConfig :=
  [{ lastIpv4 := ascii "192.168.1.42", name := ascii "iPad Pro" },
    { bonjourHost := ascii "Mini.local", name := ascii "Mini.local" }]

theorem household_writable : ∀ device ∈ household, Writable device := by
  intro device hmem
  obtain rfl | rfl : device = household[0] ∨ device = household[1] := by
    simpa [household] using hmem
  · exact ⟨⟨"192.168.1.42".toList, by decide +kernel⟩, by decide, by decide +kernel,
      ⟨"iPad Pro".toList, by decide +kernel⟩, by decide, by decide +kernel, by decide +kernel⟩
  · exact ⟨⟨"Mini.local".toList, by decide +kernel⟩, by decide, by decide +kernel,
      ⟨"Mini.local".toList, by decide +kernel⟩, by decide, by decide +kernel, by decide +kernel⟩

/-- Both come back. -/
theorem entries_round_trip_iff_household :
    (parseDeviceEntriesText unicode (devicesText unicode household) 9000).map shownPair =
      household.map shownPair :=
  (entries_round_trip_iff unicode 9000 household household_writable (by decide)).2
    (by decide +kernel)

/-- A device whose name has two lines. -/
def twoLines : List DeviceConfig :=
  [{ lastIpv4 := ascii "192.168.1.9", name := ascii "iPad\nbedroom" }]

theorem twoLines_writable : ∀ device ∈ twoLines, Writable device := by
  intro device hmem
  obtain rfl : device = twoLines[0] := by simpa [twoLines] using hmem
  exact ⟨⟨"192.168.1.9".toList, by decide +kernel⟩, by decide, by decide +kernel,
    ⟨"iPad\nbedroom".toList, by decide +kernel⟩, by decide, by decide +kernel, by decide +kernel⟩

/-- The second line of the name becomes a device. -/
theorem entries_round_trip_fails_twoLines :
    ¬∀ (conversion : TextConversion) (defaultPort : UInt16) (devices : List DeviceConfig),
      (∀ device ∈ devices, Writable device) → (devices.map endpoint).Nodup →
        (parseDeviceEntriesText conversion (devicesText conversion devices) defaultPort).map
          shownPair = devices.map shownPair := by
  intro hall
  have hsame := hall unicode 9000 twoLines twoLines_writable (by decide)
  have hback : (parseDeviceEntriesText unicode (devicesText unicode twoLines) 9000).map shownPair =
      [(ascii "192.168.1.9", ascii "iPad"), (ascii "bedroom", ascii "bedroom")] := by
    decide +kernel
  rw [hback] at hsame
  exact absurd hsame (by decide)

end UiModel

end SecondDisplay
