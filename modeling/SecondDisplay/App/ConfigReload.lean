import SecondDisplay.App.ConfigRoundTrip

/-!
# Loading is stable under saving (`Config::Parse`, `Config::Serialize`)

`Parse` takes a wide, partly legacy language and leaves a configuration whose settings and devices
`Serialize` and `Parse` keep as they are, with one exception: a legacy text that begins with a blank
becomes a device without an address, which the filter of the `devices` array does not let through
again.  Together with the order of more than 2^32 devices this is all that a second start can lose
(`reload_iff`).
-/

namespace SecondDisplay.ConfigReload

open SecondDisplay.Config SecondDisplay.KeepFirst

/-- `Config::Parse`. -/
def parse (json : Bytes) : Config := (tryParse json).getD {}

/-! ### Legacy texts -/

/-- The legacy text of an element of the `devices` array. -/
def legacyText : Json → Option Bytes
  | .string legacy => if legacy = [] then none else some legacy
  | _ => none

/-- The elements of the `devices` array. -/
def deviceItems (object : Json.Object) : List Json :=
  match Json.field object (ascii "devices") with
  | some (.array items) => items
  | _ => []

/-- The texts that `LegacyDevice` gets from an object. -/
def legacyEntries (object : Json.Object) (port : UInt16) : List Bytes :=
  let ip := stringField object "ip"
  if (deviceItems object).foldl (addDevice port) [] = [] ∧ ip ≠ [] then [ip]
  else (deviceItems object).filterMap legacyText

/-- The texts that `LegacyDevice` gets from a file. -/
def legacyTexts (json : Bytes) : List Bytes :=
  match JsonParser.parse json with
  | some (.object object) => legacyEntries object (ofObject object).port
  | _ => []

/-- A separator stands where the address should. -/
def beginsBlank (entry : Bytes) : Bool := entry.head?.any isBlank

theorem legacyDevice_addressed {entry : Bytes} (hne : entry ≠ []) (port : UInt16)
    (priority : UInt32) :
    Addressed (legacyDevice entry port priority) ↔ beginsBlank entry = false := by
  obtain ⟨b, rest, rfl⟩ := List.exists_cons_of_ne_nil hne
  show ([] ≠ [] ∨ (b :: rest).takeWhile (fun b => !isBlank b) ≠ [] ∨ [] ≠ []) ↔ isBlank b = false
  cases hb : isBlank b with
  | true => simp [hb]
  | false => simp [hb]

/-- An element of the array adds a device without an address only as a text that begins with a
blank. -/
theorem addDevice_addressed (port : UInt16) (devices : List DeviceConfig) (item : Json) :
    (∀ d ∈ addDevice port devices item, Addressed d) ↔
      (∀ d ∈ devices, Addressed d) ∧ ∀ entry ∈ legacyText item, beginsBlank entry = false := by
  cases item with
  | string legacy =>
    by_cases hne : legacy = []
    · simp [addDevice, legacyText, hne]
    · simp [addDevice, legacyText, hne, or_imp, forall_and, legacyDevice_addressed hne]
  | object object =>
    by_cases hd : Addressed (deviceOf port devices.length object)
    · have hadd : addDevice port devices (.object object) =
          devices ++ [deviceOf port devices.length object] := if_pos hd
      simp [hadd, legacyText, or_imp, forall_and, hd]
    · have hadd : addDevice port devices (.object object) = devices := if_neg hd
      simp [hadd, legacyText]
  | null | bool _ | number _ | array _ => simp [addDevice, legacyText]

theorem foldl_addressed (port : UInt16) (items : List Json) (devices : List DeviceConfig) :
    (∀ d ∈ items.foldl (addDevice port) devices, Addressed d) ↔
      (∀ d ∈ devices, Addressed d) ∧
        ∀ entry ∈ items.filterMap legacyText, beginsBlank entry = false := by
  induction items generalizing devices with
  | nil => simp
  | cons item items ih =>
    rw [List.foldl_cons, ih, addDevice_addressed, List.filterMap_cons, and_assoc]
    cases legacyText item with
    | none => simp
    | some entry => simp

theorem parsedDevices_eq (object : Json.Object) (port : UInt16) :
    parsedDevices object port =
      if (deviceItems object).foldl (addDevice port) [] = [] ∧ stringField object "ip" ≠ [] then
        [legacyDevice (stringField object "ip") port 0]
      else (deviceItems object).foldl (addDevice port) [] := by
  unfold parsedDevices deviceItems
  cases Json.field object (ascii "devices") with
  | none => rfl
  | some value => cases value <;> rfl

/-- **Devices without an address.**  They come from legacy texts that begin with a blank. -/
theorem parsedDevices_addressed (object : Json.Object) (port : UInt16) :
    (∀ d ∈ parsedDevices object port, Addressed d) ↔
      ∀ entry ∈ legacyEntries object port, beginsBlank entry = false := by
  rw [parsedDevices_eq, legacyEntries]
  split
  case isTrue h =>
    rw [List.forall_mem_singleton, List.forall_mem_singleton, legacyDevice_addressed h.2]
  case isFalse =>
    rw [foldl_addressed, and_iff_right (by rintro d ⟨⟩)]

/-! ### What the devices of a parsed text are like -/

/-- A device with another priority is the same device. -/
theorem isDuplicate_priority (a b : DeviceConfig) (p q : UInt32) :
    isDuplicate { a with priority := p } { b with priority := q } = isDuplicate a b := rfl

theorem isDuplicate_comm {a b : DeviceConfig} (h : isDuplicate a b = false) :
    isDuplicate b a = false := by
  rw [← Bool.not_eq_true, isDuplicate, Bool.or_eq_true, Bool.and_eq_true] at h ⊢
  simp only [Bool.and_eq_true, decide_eq_true_eq, beq_iff_eq] at h ⊢
  intro hsame
  apply h
  obtain ⟨hid, heq⟩ | ⟨⟨⟨⟨hb, ha⟩, hip⟩, hipeq⟩, hport⟩ := hsame
  · left
    exact ⟨heq ▸ hid, heq.symm⟩
  · right
    exact ⟨⟨⟨⟨ha, hb⟩, hipeq ▸ hip⟩, hipeq.symm⟩, hport.symm⟩

/-- A device without an address repeats nothing. -/
theorem isDuplicate_unaddressed {d : DeviceConfig} (h : ¬Addressed d) (e : DeviceConfig) :
    isDuplicate d e = false := by
  simp only [Addressed, not_or, not_not] at h
  simp [isDuplicate, h.1, h.2.1]

theorem mem_renumber {devices : List DeviceConfig} {d : DeviceConfig} :
    d ∈ renumber devices ↔ ∃ (k : Nat) (hk : k < devices.length),
      { devices[k] with priority := UInt32.ofNat k } = d :=
  List.mem_mapIdx

/-- What does not depend on the priority is kept. -/
theorem forall_renumber {P : DeviceConfig → Prop}
    (hP : ∀ (d : DeviceConfig) (p : UInt32), P { d with priority := p } ↔ P d)
    (devices : List DeviceConfig) : (∀ d ∈ renumber devices, P d) ↔ ∀ d ∈ devices, P d := by
  constructor
  · intro h d hd
    obtain ⟨k, hk, rfl⟩ := List.getElem_of_mem hd
    exact (hP _ _).1 (h _ (mem_renumber.2 ⟨k, hk, rfl⟩))
  · intro h d hd
    obtain ⟨k, hk, rfl⟩ := mem_renumber.1 hd
    exact (hP _ _).2 (h _ (List.getElem_mem hk))

theorem addressed_priority (d : DeviceConfig) (p : UInt32) :
    Addressed { d with priority := p } ↔ Addressed d := Iff.rfl

theorem unique_addressed (devices : List DeviceConfig) :
    (∀ d ∈ uniqueDevices devices, Addressed d) ↔ ∀ d ∈ devices, Addressed d := by
  rw [uniqueDevices_keepFirst]
  constructor
  · intro h d hd
    by_contra hnot
    exact hnot (h d (mem_keepFirst hd (isDuplicate_unaddressed hnot)))
  · intro h d hd
    exact h d (mem_of_mem_keepFirst hd)

/-- Sorting, de-duplication and numbering leave the addresses alone. -/
theorem cleaned_addressed (devices : List DeviceConfig) :
    (∀ d ∈ renumber (uniqueDevices (devices.mergeSort fun a b => a.priority ≤ b.priority)),
      Addressed d) ↔ ∀ d ∈ devices, Addressed d := by
  rw [forall_renumber addressed_priority, unique_addressed]
  simp only [List.mem_mergeSort]

/-- What the devices of a parsed text have in common. -/
structure Cleaned (devices : List DeviceConfig) : Prop where
  ports : ∀ d ∈ devices, 1 ≤ d.port.toNat
  numbered : ∀ (k : Nat) (d : DeviceConfig), devices[k]? = some d → d.priority = UInt32.ofNat k
  distinct : devices.Pairwise fun a b => isDuplicate b a = false

theorem distinct_renumber {devices : List DeviceConfig}
    (h : devices.Pairwise fun a b => isDuplicate b a = false) :
    (renumber devices).Pairwise fun a b => isDuplicate b a = false := by
  rw [List.pairwise_iff_getElem] at h ⊢
  intro i j hi hj hij
  have hlength : (renumber devices).length = devices.length := List.length_mapIdx
  have hij' := h i j (hlength ▸ hi) (hlength ▸ hj) hij
  simp only [renumber, List.getElem_mapIdx, isDuplicate_priority, hij']

/-- **Sorting, de-duplication and numbering.** -/
theorem cleaned {devices : List DeviceConfig} (hports : ∀ d ∈ devices, 1 ≤ d.port.toNat) :
    Cleaned (renumber (uniqueDevices (devices.mergeSort fun a b => a.priority ≤ b.priority))) := by
  refine ⟨?_, fun k d hd => ?_, distinct_renumber (keepFirst_pairwise _)⟩
  · refine (forall_renumber (fun _ _ => Iff.rfl) _).2 fun d hd => ?_
    exact hports d (List.mem_mergeSort.1 (mem_of_mem_keepFirst hd))
  · rw [renumber, List.getElem?_mapIdx, Option.map_eq_some_iff] at hd
    obtain ⟨e, -, rfl⟩ := hd
    rfl

/-! ### What the settings of a parsed text are like -/

/-- A number that is taken is in its range. -/
theorem intFieldIn_bounds {object : Json.Object} {key : String} {low high : Int} {n : Nat}
    (hlow : 0 ≤ low) (h : intFieldIn object key low high = some n) : low ≤ n ∧ n ≤ high := by
  unfold intFieldIn at h
  split at h
  case h_1 value hvalue =>
    obtain ⟨hbounds, hvalue⟩ := Option.ite_none_right_eq_some.1 h
    have hn : value.toNat = n := Option.some.inj hvalue
    omega
  case h_2 => cases h

theorem portOf_pos {object : Json.Object} {port : UInt16} (hport : 1 ≤ port.toNat) :
    1 ≤ (((intFieldIn object "port" 1 65535).map UInt16.ofNat).getD port).toNat := by
  cases hfield : intFieldIn object "port" 1 65535 with
  | none => exact hport
  | some n =>
    have hbounds := intFieldIn_bounds (by decide) hfield
    rw [Option.map_some, Option.getD_some, UInt16.toNat_ofNat']
    omega

theorem settingOf_bounds (object : Json.Object) (key : String) (low high : Nat)
    (hhigh : high < 2 ^ 32) {value : UInt32} (hvalue : low ≤ value.toNat ∧ value.toNat ≤ high) :
    let setting := ((intFieldIn object key low high).map UInt32.ofNat).getD value
    low ≤ setting.toNat ∧ setting.toNat ≤ high := by
  intro setting
  cases hfield : intFieldIn object key low high with
  | none =>
    have hsetting : setting = value := by
      simp only [setting, hfield, Option.map_none, Option.getD_none]
    rw [hsetting]
    exact hvalue
  | some n =>
    have hbounds := intFieldIn_bounds (Int.natCast_nonneg low) hfield
    have hsetting : setting.toNat = n % 2 ^ 32 := by
      simp only [setting, hfield, Option.map_some, Option.getD_some, UInt32.toNat_ofNat']
    rw [hsetting]
    omega

theorem ofObject_normal (object : Json.Object) : NormalSettings (ofObject object) where
  version := rfl
  port_pos := portOf_pos (by decide)
  fps := settingOf_bounds object "fps" 30 120 (by decide) (by decide)
  bitrateMbps := settingOf_bounds object "bitrateMbps" 5 100 (by decide) (by decide)
  launcher := decide_eq_true_iff

theorem addDevice_ports {port : UInt16} (hport : 1 ≤ port.toNat) {devices : List DeviceConfig}
    (h : ∀ d ∈ devices, 1 ≤ d.port.toNat) (item : Json) :
    ∀ d ∈ addDevice port devices item, 1 ≤ d.port.toNat := by
  have happend : ∀ device : DeviceConfig, 1 ≤ device.port.toNat →
      ∀ d ∈ devices ++ [device], 1 ≤ d.port.toNat := by
    intro device hdevice d hd
    obtain hold | hnew := List.mem_append.1 hd
    · exact h d hold
    · rw [List.mem_singleton.1 hnew]
      exact hdevice
  cases item with
  | string legacy =>
    by_cases hempty : legacy = []
    · rw [show addDevice port devices (.string legacy) = devices from if_pos hempty]
      exact h
    · rw [show addDevice port devices (.string legacy) =
        devices ++ [legacyDevice legacy port (UInt32.ofNat devices.length)] from if_neg hempty]
      exact happend _ hport
  | object object =>
    by_cases hd : Addressed (deviceOf port devices.length object)
    · rw [show addDevice port devices (.object object) =
        devices ++ [deviceOf port devices.length object] from if_pos hd]
      exact happend _ (portOf_pos hport)
    · rw [show addDevice port devices (.object object) = devices from if_neg hd]
      exact h
  | null | bool _ | number _ | array _ => exact h

theorem foldl_ports {port : UInt16} (hport : 1 ≤ port.toNat) (items : List Json)
    {devices : List DeviceConfig} (h : ∀ d ∈ devices, 1 ≤ d.port.toNat) :
    ∀ d ∈ items.foldl (addDevice port) devices, 1 ≤ d.port.toNat := by
  induction items generalizing devices with
  | nil => exact h
  | cons item items ih => exact ih (addDevice_ports hport h item)

theorem parsedDevices_ports (object : Json.Object) {port : UInt16} (hport : 1 ≤ port.toNat) :
    ∀ d ∈ parsedDevices object port, 1 ≤ d.port.toNat := by
  rw [parsedDevices_eq]
  split
  · exact List.forall_mem_singleton.2 hport
  · exact foldl_ports hport _ (by rintro d ⟨⟩)

/-- **The devices of a parsed text.** -/
theorem ofObject_cleaned (object : Json.Object) : Cleaned (ofObject object).devices :=
  cleaned (parsedDevices_ports object (portOf_pos (by decide)))

/-! ### The second start -/

/-- The 32-bit priorities, sorted and numbered again, leave the devices as they are. -/
def InOrder (devices : List DeviceConfig) : Prop :=
  renumber (devices.mergeSort fun a b => a.priority ≤ b.priority) = devices

/-- Up to 2^32 devices are in order. -/
theorem inOrder_of_few {devices : List DeviceConfig} (h : Cleaned devices)
    (hfew : devices.length ≤ 2 ^ 32) : InOrder devices := by
  have hnumbered : Numbered devices := by
    intro k d hd
    have hk : k < devices.length := (List.getElem?_eq_some_iff.1 hd).1
    rw [h.numbered k d hd, UInt32.toNat_ofNat']
    omega
  rw [InOrder, sort_eq hnumbered, renumber_eq hnumbered]

theorem legacyText_deviceObjects (i : Nat) (devices : List DeviceConfig) :
    (deviceObjects i devices).filterMap legacyText = [] := by
  induction devices generalizing i with
  | nil => rfl
  | cons d devices ih => exact ih (i + 1)

/-- What `Parse` makes of a text that was written. -/
theorem parse_written {c : Config} (hsettings : NormalSettings c)
    (hlen : c.devices.length ≤ 2 ^ 63) :
    parse (serialize c) =
      { c with
        devices := renumber (uniqueDevices
          (((deviceObjects 0 c.devices).foldl (addDevice c.port) []).mergeSort
            fun a b => a.priority ≤ b.priority)) } := by
  rw [parse, tryParse, parse_serialize c hlen]
  show ofObject (rootObject c) = _
  rw [ofObject_settings hsettings, parsedDevices_rootObject]

/-- **A second start loads no device without an address.** -/
theorem written_addressed {c : Config} (hsettings : NormalSettings c)
    (hlen : c.devices.length ≤ 2 ^ 63) : ∀ d ∈ (parse (serialize c)).devices, Addressed d := by
  rw [parse_written hsettings hlen]
  refine (cleaned_addressed _).2 ((foldl_addressed _ _ _).2 ⟨by rintro d ⟨⟩, ?_⟩)
  rw [legacyText_deviceObjects]
  rintro entry ⟨⟩

/-- The devices of a written text, if they all have an address. -/
theorem written_devices {c : Config} (hsettings : NormalSettings c) (hcleaned : Cleaned c.devices)
    (hlen : c.devices.length ≤ 2 ^ 63) (haddressed : ∀ d ∈ c.devices, Addressed d) :
    parse (serialize c) =
      { c with devices := renumber (c.devices.mergeSort fun a b => a.priority ≤ b.priority) } := by
  have hfold : (deviceObjects 0 c.devices).foldl (addDevice c.port) [] = c.devices :=
    foldl_addDevice c.port c.devices [] (show 0 + c.devices.length ≤ 2 ^ 63 by omega)
      hcleaned.ports
      (fun k d hd => by
        rw [hcleaned.numbered k d hd]
        exact congrArg UInt32.ofNat (Nat.zero_add k).symm)
      haddressed
  have hdistinct := hcleaned.distinct.perm
    (List.mergeSort_perm c.devices fun a b => a.priority ≤ b.priority).symm isDuplicate_comm
  rw [parse_written hsettings hlen, hfold, uniqueDevices_keepFirst, keepFirst_eq hdistinct]

/-- **A cleaned configuration.**  It is loaded again as it was saved if and only if its devices all
have an address and are in order. -/
theorem written_iff {c : Config} (hsettings : NormalSettings c) (hcleaned : Cleaned c.devices)
    (hlen : c.devices.length ≤ 2 ^ 63) :
    parse (serialize c) = c ↔ (∀ d ∈ c.devices, Addressed d) ∧ InOrder c.devices := by
  constructor
  · intro hsame
    have haddressed : ∀ d ∈ c.devices, Addressed d := by
      have hwritten := written_addressed hsettings hlen
      rwa [hsame] at hwritten
    refine ⟨haddressed, ?_⟩
    rw [written_devices hsettings hcleaned hlen haddressed] at hsame
    exact congrArg Config.devices hsame
  · intro hboth
    obtain ⟨haddressed, horder⟩ := hboth
    rw [written_devices hsettings hcleaned hlen haddressed, horder]

/-- `Parse` reads an object or returns the defaults. -/
theorem parse_cases (json : Bytes) :
    (∃ object, parse json = ofObject object ∧
        legacyTexts json = legacyEntries object (ofObject object).port) ∨
      parse json = {} ∧ legacyTexts json = [] := by
  unfold parse tryParse legacyTexts
  cases JsonParser.parse json with
  | none => exact Or.inr ⟨rfl, rfl⟩
  | some value =>
    cases value with
    | object object => exact Or.inl ⟨object, rfl, rfl⟩
    | null | bool _ | number _ | string _ | array _ => exact Or.inr ⟨rfl, rfl⟩

theorem parse_normal (json : Bytes) : NormalSettings (parse json) := by
  obtain ⟨object, hparse, -⟩ | ⟨hparse, -⟩ := parse_cases json
  · rw [hparse]
    exact ofObject_normal object
  · rw [hparse]
    exact ⟨rfl, by decide, by decide, by decide, by decide⟩

theorem parse_cleaned (json : Bytes) : Cleaned (parse json).devices := by
  obtain ⟨object, hparse, -⟩ | ⟨hparse, -⟩ := parse_cases json
  · rw [hparse]
    exact ofObject_cleaned object
  · rw [hparse]
    exact ⟨by rintro d ⟨⟩, by rintro k d ⟨⟩, List.Pairwise.nil⟩

theorem parse_addressed (json : Bytes) :
    (∀ d ∈ (parse json).devices, Addressed d) ↔
      ∀ entry ∈ legacyTexts json, beginsBlank entry = false := by
  obtain ⟨object, hparse, htexts⟩ | ⟨hparse, htexts⟩ := parse_cases json
  · rw [hparse, htexts, ← parsedDevices_addressed]
    exact cleaned_addressed _
  · rw [hparse, htexts]
    exact iff_of_true (by rintro d ⟨⟩) (by rintro entry ⟨⟩)

/-- **Loading is stable under saving.**  What `Parse` makes of a text is what it makes of the text
that `Serialize` writes for it, if and only if no legacy text in it begins with a blank and its
devices are in order, which up to 2^32 of them always are.  (A vector has fewer than 2^63
elements.) -/
theorem reload_iff (json : Bytes) (hfits : (parse json).devices.length < 2 ^ 63) :
    parse (serialize (parse json)) = parse json ↔
      (∀ entry ∈ legacyTexts json, beginsBlank entry = false) ∧ InOrder (parse json).devices := by
  rw [written_iff (parse_normal json) (parse_cleaned json) (Nat.le_of_lt hfits), parse_addressed]

/-- A file of the first version. -/
def legacyFile : Bytes := ascii "\x7b\"ip\":\"10.0.0.1 iPad\",\"fps\":30\x7d"

theorem reload_iff_legacyFile : (parse legacyFile).devices.length = 1 ∧
    parse (serialize (parse legacyFile)) = parse legacyFile := by
  have hone : (parse legacyFile).devices.length = 1 := by decide +kernel
  refine ⟨hone, (reload_iff legacyFile (by omega)).2 ⟨by decide +kernel, ?_⟩⟩
  exact inOrder_of_few (parse_cleaned legacyFile) (by omega)

/-- The same file with a blank in front of the address. -/
def blankFile : Bytes := ascii "\x7b\"ip\":\" 10.0.0.1 iPad\",\"fps\":30\x7d"

/-- The first load has a device without an address, and the second start has no device. -/
theorem reload_fails_blankFile : (parse blankFile).devices.length = 1 ∧
    (parse (serialize (parse blankFile))).devices = [] ∧
    parse (serialize (parse blankFile)) ≠ parse blankFile := by
  have hone : (parse blankFile).devices.length = 1 := by decide +kernel
  have hlost : (deviceObjects 0 (parse blankFile).devices).foldl
      (addDevice (parse blankFile).port) [] = [] := by decide +kernel
  have hnone : (parse (serialize (parse blankFile))).devices = [] := by
    rw [parse_written (parse_normal blankFile) (by omega), hlost, List.mergeSort_nil]
    rfl
  refine ⟨hone, hnone, fun hsame => ?_⟩
  rw [← hsame, hnone] at hone
  cases hone

end SecondDisplay.ConfigReload
