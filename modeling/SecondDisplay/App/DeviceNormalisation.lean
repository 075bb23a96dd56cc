import SecondDisplay.App.ConfigReload
import SecondDisplay.Library.StableSort

/-!
# The device list of a file (`app/Config.cpp`)

Texts and objects of the `devices` array are recognised as devices, with a priority of their own or
with the number of the devices before them.  They are sorted by priority, of each device the first
entry is kept, and the priorities become the positions (`devices_normalised`).
-/

namespace SecondDisplay.Config

open KeepFirst (keepFirst firsts keepFirst_eq_firsts)
open StableSort (Sorts sorts_mergeSort)
open ConfigReload (parse deviceItems parsedDevices_eq)

/-! ### Recognised entries -/

/-- The device that an element of the array is recognised as, behind `count` others. -/
def recognise (port : UInt16) (count : Nat) : Json → Option DeviceConfig
  | .string legacy =>
    if legacy = [] then none else some (legacyDevice legacy port (UInt32.ofNat count))
  | .object object =>
    if Addressed (deviceOf port count object) then some (deviceOf port count object) else none
  | _ => none

/-- The devices of the array, behind `count` others. -/
def recognised (port : UInt16) : Nat → List Json → List DeviceConfig
  | _, [] => []
  | count, item :: items =>
    match recognise port count item with
    | none => recognised port count items
    | some device => device :: recognised port (count + 1) items

/-- The recognised entries of a file: those of the array, or else the address of an old file. -/
def entriesOf (object : Json.Object) (port : UInt16) : List DeviceConfig :=
  let entries := recognised port 0 (deviceItems object)
  let ip := stringField object "ip"
  if entries = [] ∧ ip ≠ [] then [legacyDevice ip port 0] else entries

theorem addDevice_eq (port : UInt16) (devices : List DeviceConfig) (item : Json) :
    addDevice port devices item = devices ++ (recognise port devices.length item).toList := by
  cases item with
  | string legacy =>
    rw [addDevice, recognise]
    split
    · exact (List.append_nil devices).symm
    · rfl
  | object object =>
    rw [recognise]
    by_cases hd : Addressed (deviceOf port devices.length object)
    · rw [if_pos hd]
      exact if_pos hd
    · rw [if_neg hd, Option.toList_none, List.append_nil]
      exact if_neg hd
  | null | bool _ | number _ | array _ => exact (List.append_nil devices).symm

theorem foldl_addDevice_eq (port : UInt16) (items : List Json) (devices : List DeviceConfig) :
    items.foldl (addDevice port) devices = devices ++ recognised port devices.length items := by
  induction items generalizing devices with
  | nil => exact (List.append_nil devices).symm
  | cons item items ih =>
    rw [List.foldl_cons, ih, addDevice_eq, recognised]
    cases recognise port devices.length item with
    | none => rw [Option.toList_none, List.append_nil]
    | some device =>
      rw [Option.toList_some, List.append_assoc, List.length_append]
      rfl

theorem parsedDevices_entries (object : Json.Object) (port : UInt16) :
    parsedDevices object port = entriesOf object port := by
  rw [parsedDevices_eq, foldl_addDevice_eq]
  rfl

/-! ### Identity -/

/-- Two entries are of one device: they share an id, or neither has one and they share an address
and its port. -/
def SameDevice (a b : DeviceConfig) : Prop :=
  (a.id ≠ [] ∧ a.id = b.id) ∨
    (a.id = [] ∧ b.id = [] ∧ a.lastIpv4 ≠ [] ∧ a.lastIpv4 = b.lastIpv4 ∧ a.port = b.port)

instance decidableSameDevice (a b : DeviceConfig) : Decidable (SameDevice a b) :=
  inferInstanceAs (Decidable (_ ∨ _))

theorem isDuplicate_eq (a b : DeviceConfig) : isDuplicate a b = decide (SameDevice a b) := by
  rw [Bool.eq_iff_iff, decide_eq_true_eq, isDuplicate, SameDevice]
  simp only [Bool.or_eq_true, Bool.and_eq_true, decide_eq_true_eq, beq_iff_eq, and_assoc]

theorem SameDevice.trans {a b c : DeviceConfig} (hab : SameDevice a b) (hbc : SameDevice b c) :
    SameDevice a c := by
  obtain ⟨hid, hsame⟩ | ⟨ha, hb, hip, hipSame, hport⟩ := hab
  · obtain ⟨-, hsame'⟩ | ⟨hb, -⟩ := hbc
    · exact .inl ⟨hid, hsame.trans hsame'⟩
    · exact absurd (hsame.trans hb) hid
  · obtain ⟨hb', -⟩ | ⟨-, hc, -, hipSame', hport'⟩ := hbc
    · exact absurd hb hb'
    · exact .inr ⟨ha, hc, hip, hipSame.trans hipSame', hport.trans hport'⟩

/-- `uniqueDevices` keeps the first entry of each device. -/
theorem uniqueDevices_firsts (devices : List DeviceConfig) :
    uniqueDevices devices = firsts (fun a b => decide (SameDevice a b)) devices := by
  have hsame : isDuplicate = fun a b => decide (SameDevice a b) := by
    funext a b
    exact isDuplicate_eq a b
  rw [uniqueDevices_keepFirst, hsame]
  refine keepFirst_eq_firsts (fun a b c hab hbc => ?_) devices
  exact decide_eq_true ((of_decide_eq_true hab).trans (of_decide_eq_true hbc))

/-! ### The list -/

/-- The port of a file is the one its devices are read with. -/
theorem ofObject_devices (object : Json.Object) :
    (ofObject object).devices = renumber (uniqueDevices ((parsedDevices object
      (ofObject object).port).mergeSort fun a b => a.priority ≤ b.priority)) := rfl

theorem renumber_priorities (devices : List DeviceConfig) :
    (renumber devices).map DeviceConfig.priority =
      (List.range devices.length).map UInt32.ofNat := by
  apply List.ext_getElem
  · rw [List.length_map, renumber, List.length_mapIdx, List.length_map, List.length_range]
  · intro i hi hi'
    simp [renumber]

/-- **The device list of a file.**  The recognised entries are sorted by priority, stable; of each
device the first entry is kept, and everything of it but the priority, which becomes the
position. -/
theorem devices_normalised (json : Bytes) (c : Config) (h : tryParse json = some c) :
    ∃ (object : Json.Object) (sorted : List DeviceConfig),
      JsonParser.parse json = some (.object object) ∧
      Sorts DeviceConfig.priority (entriesOf object c.port) sorted ∧
      c.devices = renumber (firsts (fun a b => decide (SameDevice a b)) sorted) ∧
      c.devices.map DeviceConfig.priority = (List.range c.devices.length).map UInt32.ofNat ∧
      (c.devices.length ≤ 2 ^ 32 →
        c.devices.map (fun d => d.priority.toNat) = List.range c.devices.length) := by
  rw [tryParse] at h
  split at h
  · rename_i object hparse
    rw [Option.some.injEq] at h
    subst h
    have hdevices := ofObject_devices object
    rw [uniqueDevices_firsts, parsedDevices_entries] at hdevices
    have hpriorities : (ofObject object).devices.map DeviceConfig.priority =
        (List.range (ofObject object).devices.length).map UInt32.ofNat := by
      rw [hdevices, renumber_priorities, renumber, List.length_mapIdx]
    refine ⟨object, _, hparse, sorts_mergeSort DeviceConfig.priority _, hdevices, hpriorities,
      fun hfits => ?_⟩
    have hnumbers := congrArg (List.map UInt32.toNat) hpriorities
    rw [List.map_map, List.map_map] at hnumbers
    rw [show (fun d : DeviceConfig => d.priority.toNat) = UInt32.toNat ∘ DeviceConfig.priority from
      rfl, hnumbers]
    refine (List.map_congr_left fun i hi => ?_).trans (List.map_id _)
    exact UInt32.toNat_ofNat_of_lt' (Nat.lt_of_lt_of_le (List.mem_range.1 hi) hfits)
  · cases h

/-- A file with texts, objects with and without a priority of their own, and repetitions. -/
def mixedFile : Bytes :=
  ascii "\x7b\"devices\":[\"10.0.0.1 A\",\x7b\"id\":\"x\",\"priority\":7\x7d,\"10.0.0.1 B\"]\x7d"

theorem devices_normalised_mixedFile :
    ∃ c, tryParse mixedFile = some c ∧ ∃ (object : Json.Object) (sorted : List DeviceConfig),
      JsonParser.parse mixedFile = some (.object object) ∧
      Sorts DeviceConfig.priority (entriesOf object c.port) sorted ∧
      c.devices = renumber (firsts (fun a b => decide (SameDevice a b)) sorted) := by
  have hparses : (tryParse mixedFile).isSome = true := by decide +kernel
  obtain ⟨c, hc⟩ := Option.isSome_iff_exists.1 hparses
  obtain ⟨object, sorted, hobject, hsorts, hdevices, -⟩ := devices_normalised mixedFile c hc
  exact ⟨c, hc, object, sorted, hobject, hsorts, hdevices⟩

end SecondDisplay.Config
