import SecondDisplay.Display.VirtualDisplay
import SecondDisplay.Input.InputInjector
import Mathlib.Logic.Function.Basic

/-!
# Where the monitors stood (`src/display/VirtualDisplay.cpp`)

Windows forgets the place of a virtual monitor, so each sender keeps it in the registry: two values
under a name that is made from the address of its iPad.  A sender without a place of its own takes
over the one of the single-iPad layout, or that of an older installation.

The senders share one key, and `Answers` says which accesses of a call are granted.  Whose places
are kept apart is `saves_apart_iff`.
-/

namespace SecondDisplay.SavedPosition

open VirtualDisplay (WString wide towlower)
open InputInjector (Rect Point)

/-! ### The registry -/

/-- `identity_`, the bytes of a `std::string`. -/
abbrev Identity := List UInt8

/-- A value: what `RegQueryValueExW` puts into a `DWORD` of type `REG_DWORD`, or anything else. -/
inductive Value where
  | dword (v : UInt32)
  | other
  deriving DecidableEq

/-- The registry takes upper and lower case in the name of a value for the same. -/
def folded (name : WString) : WString := name.map towlower

/-- The values of a key, under their folded names. -/
abbrev Values := WString → Option Value

/-- `RegSetValueExW`, where it is granted. -/
def Values.set (values : Values) (granted : Bool) (name : WString) (v : UInt32) : Values :=
  if granted then Function.update values (folded name) (some (.dword v)) else values

/-- `RegDeleteValueW`, where it is granted. -/
def Values.delete (values : Values) (granted : Bool) (name : WString) : Values :=
  if granted then Function.update values (folded name) none else values

/-- The two keys under `HKEY_CURRENT_USER\Software`. -/
structure Registry where
  mouseLink : Option Values
  /-- `opendisplay-win`. -/
  legacy : Option Values

/-- What Windows grants during one call. -/
structure Answers where
  openMouseLink : Bool := true
  deleteX : Bool := true
  deleteY : Bool := true
  openLegacy : Bool := true
  create : Bool := true
  setX : Bool := true
  setY : Bool := true

/-- `plain`. -/
def plain (c : UInt8) : Bool :=
  (48 ≤ c && c ≤ 57) || (97 ≤ c && c ≤ 122) || (65 ≤ c && c ≤ 90)

/-- What a character of the identity becomes. -/
def cleaned (c : UInt8) : UInt16 := if plain c then c.toUInt16 else 95

/-- `VirtualDisplay::PositionValueName`. -/
def positionValueName (identity : Identity) (base : WString) : WString :=
  if identity.isEmpty then base else base ++ [95] ++ identity.map cleaned

/-- `getDword`. -/
def getDword (source : Values) (name : WString) : Option Int32 :=
  match source (folded name) with
  | some (.dword value) => some value.toInt32
  | _ => none

/-- Two reads in a row. -/
def getPoint (source : Values) (nameX nameY : WString) : Option Point := do
  let x ← getDword source nameX
  let y ← getDword source nameY
  return ⟨x, y⟩

def monitorX : WString := wide "monitorX"
def monitorY : WString := wide "monitorY"

/-- The values of this identity. -/
def ownPosition (identity : Identity) (source : Values) : Option Point :=
  getPoint source (positionValueName identity monitorX) (positionValueName identity monitorY)

/-- The values of the single-iPad layout, for an identity that has a name. -/
def sharedPosition (identity : Identity) (source : Values) : Option Point :=
  if identity.isEmpty then none else getPoint source monitorX monitorY

/-- `VirtualDisplay::SavePosition`. -/
def savePosition (identity : Identity) (answers : Answers) (p : Point) (registry : Registry) :
    Registry :=
  if answers.create then
    let key : Values := registry.mouseLink.getD fun _ => none
    let key := key.set answers.setX (positionValueName identity monitorX) p.x.toUInt32
    { registry with
      mouseLink := some (key.set answers.setY (positionValueName identity monitorY) p.y.toUInt32) }
  else registry

/-- The part of `LoadSavedPosition` that reads MouseLink's own key. -/
def loadMouseLink (identity : Identity) (answers : Answers) (registry : Registry) :
    Option Point × Registry :=
  match if answers.openMouseLink then registry.mouseLink else none with
  | none => (none, registry)
  | some key =>
    match ownPosition identity key with
    | some p => (some p, registry)
    | none =>
      match sharedPosition identity key with
      | some p =>
        let key := (key.delete answers.deleteX monitorX).delete answers.deleteY monitorY
        (some p, { registry with mouseLink := some key })
      | none => (none, registry)

/-- What the older installation has for this identity. -/
def legacyPosition (identity : Identity) (answers : Answers) (registry : Registry) : Option Point :=
  (if answers.openLegacy then registry.legacy else none).bind fun key =>
    (ownPosition identity key).or (sharedPosition identity key)

/-- `VirtualDisplay::LoadSavedPosition`. -/
def loadSavedPosition (identity : Identity) (answers : Answers) (registry : Registry) :
    Option Point × Registry :=
  match loadMouseLink identity answers registry with
  | (some p, registry) => (some p, registry)
  | (none, registry) =>
    match legacyPosition identity answers registry with
    | some p => (some p, savePosition identity answers p registry)
    | none => (none, registry)

/-- The virtual desktop, `GetSystemMetrics` of `SM_XVIRTUALSCREEN`, `SM_YVIRTUALSCREEN` and
`SM_CXVIRTUALSCREEN`. -/
structure Desktop where
  x : Int32
  y : Int32
  width : Int32

/-- Where `FindMonitorGeometry` puts the monitor, and the registry after that. -/
def chosenPosition (identity : Identity) (answers : Answers) (desktop : Desktop)
    (registry : Registry) : Point × Registry :=
  match loadSavedPosition identity answers registry with
  | (some p, registry) => (p, registry)
  | (none, registry) =>
    let p : Point := ⟨desktop.x + desktop.width, desktop.y⟩
    (p, savePosition identity answers p registry)

/-! ### Slots -/

/-- What tells the names of two identities apart. -/
def slot (identity : Identity) : WString := identity.map fun c => towlower (cleaned c)

theorem slot_eq_nil {identity : Identity} : slot identity = [] ↔ identity = [] :=
  List.map_eq_nil_iff

/-- The folded name of a value. -/
theorem folded_positionValueName (identity : Identity) (base : WString) :
    folded (positionValueName identity base) =
      folded base ++ if identity.isEmpty then [] else 95 :: slot identity := by
  cases identity with
  | nil => simp [positionValueName]
  | cons c identity =>
    simp only [positionValueName, List.isEmpty_cons, Bool.false_eq_true, if_false, folded,
      List.map_append, List.map_map, List.append_assoc, slot]
    rfl

/-- Two names over one base are the same value exactly if the slots are the same. -/
theorem folded_positionValueName_inj {a b : Identity} {base : WString} :
    folded (positionValueName a base) = folded (positionValueName b base) ↔ slot a = slot b := by
  rw [folded_positionValueName, folded_positionValueName, List.append_cancel_left_eq]
  cases a with
  | nil => cases b <;> simp [slot]
  | cons c a => cases b <;> simp [slot]

/-- An abscissa is never stored where an ordinate is. -/
theorem folded_monitorX_ne (a b : Identity) :
    folded (positionValueName a monitorX) ≠ folded (positionValueName b monitorY) := by
  rw [folded_positionValueName, folded_positionValueName]
  intro h
  have hx : folded monitorX = folded monitorY := (List.append_inj h (by decide)).1
  exact absurd hx (by decide)

/-! ### What a key holds -/

/-- The values of MouseLink's key. -/
def Registry.values (registry : Registry) : Values := registry.mouseLink.getD fun _ => none

/-- What is stored for an identity; for no identity, what the single-iPad layout stored. -/
def saved (identity : Identity) (registry : Registry) : Option Point :=
  ownPosition identity registry.values

/-- MouseLink's key without the shared values, as far as Windows grants it. -/
def dropShared (answers : Answers) (registry : Registry) : Registry :=
  let key := registry.values.delete answers.deleteX monitorX
  { registry with mouseLink := some (key.delete answers.deleteY monitorY) }

theorem getDword_eq (source : Values) (name : WString) :
    getDword source name = match source (folded name) with
      | some (.dword value) => some value.toInt32
      | _ => none := rfl

/-- Reading depends on the value under the folded name only. -/
theorem getDword_congr {source source' : Values} {name : WString}
    (h : source (folded name) = source' (folded name)) :
    getDword source name = getDword source' name := by
  rw [getDword_eq, getDword_eq, h]

theorem Values.set_of_ne {values : Values} {granted : Bool} {name other : WString} {v : UInt32}
    (h : folded other ≠ folded name) : values.set granted name v (folded other) =
      values (folded other) := by
  cases granted with
  | false => rfl
  | true => exact Function.update_of_ne h _ _

theorem Values.delete_of_ne {values : Values} {granted : Bool} {name other : WString}
    (h : folded other ≠ folded name) : values.delete granted name (folded other) =
      values (folded other) := by
  cases granted with
  | false => rfl
  | true => exact Function.update_of_ne h _ _

theorem getDword_set_self (values : Values) (name : WString) (x : Int32) :
    getDword (values.set true name x.toUInt32) name = some x := by
  have hv : values.set true name x.toUInt32 (folded name) = some (.dword x.toUInt32) :=
    Function.update_self _ _ _
  rw [getDword_eq, hv]
  simp only [Int32.toInt32_toUInt32]

/-- Both values of a slot decide what is read for it. -/
theorem ownPosition_congr {identity : Identity} {source source' : Values}
    (hx : source (folded (positionValueName identity monitorX)) =
      source' (folded (positionValueName identity monitorX)))
    (hy : source (folded (positionValueName identity monitorY)) =
      source' (folded (positionValueName identity monitorY))) :
    ownPosition identity source = ownPosition identity source' := by
  simp only [ownPosition, getPoint, getDword_congr hx, getDword_congr hy]

theorem values_savePosition (identity : Identity) (answers : Answers) (p : Point)
    (registry : Registry) : (savePosition identity answers p registry).values =
      if answers.create then
        (registry.values.set answers.setX (positionValueName identity monitorX) p.x.toUInt32).set
          answers.setY (positionValueName identity monitorY) p.y.toUInt32
      else registry.values := by
  unfold savePosition
  split <;> rfl

theorem legacy_savePosition (a : Identity) (answers : Answers) (p : Point) (registry : Registry) :
    (savePosition a answers p registry).legacy = registry.legacy := by
  unfold savePosition
  split <;> rfl

/-- Saving touches no other slot. -/
theorem saved_savePosition_of_ne {a b : Identity} (h : slot a ≠ slot b) (answers : Answers)
    (p : Point) (registry : Registry) :
    saved b (savePosition a answers p registry) = saved b registry := by
  have hne (base : WString) :
      folded (positionValueName b base) ≠ folded (positionValueName a base) := by
    intro hname
    exact h (folded_positionValueName_inj.1 hname).symm
  rw [saved, values_savePosition]
  split
  · apply ownPosition_congr
    · rw [Values.set_of_ne (folded_monitorX_ne b a), Values.set_of_ne (hne monitorX)]
    · rw [Values.set_of_ne (hne monitorY), Values.set_of_ne (folded_monitorX_ne a b).symm]
  · rfl

/-- All accesses of `SavePosition` are granted. -/
def Answers.savesAll (answers : Answers) : Prop :=
  answers.create = true ∧ answers.setX = true ∧ answers.setY = true

instance (answers : Answers) : Decidable answers.savesAll := inferInstanceAs (Decidable (_ ∧ _))

/-- What is saved is read back, negative coordinates too. -/
theorem saved_savePosition {answers : Answers} (h : answers.savesAll) (identity : Identity)
    (p : Point) (registry : Registry) :
    saved identity (savePosition identity answers p registry) = some p := by
  obtain ⟨hcreate, hx, hy⟩ := h
  rw [saved, values_savePosition, if_pos hcreate, hx, hy, ownPosition, getPoint]
  have hkeep := getDword_congr (@Values.set_of_ne
    (registry.values.set true (positionValueName identity monitorX) p.x.toUInt32) true _ _
    p.y.toUInt32 (folded_monitorX_ne identity identity))
  rw [hkeep, getDword_set_self, getDword_set_self]
  rfl

/-- Only the identities without a name lose something with the shared values. -/
theorem saved_dropShared {identity : Identity} (h : identity ≠ []) (answers : Answers)
    (registry : Registry) : saved identity (dropShared answers registry) =
      saved identity registry := by
  have hne (base : WString) : folded (positionValueName identity base) ≠ folded base := by
    intro hname
    exact h (slot_eq_nil.1 (folded_positionValueName_inj (b := []).1 hname))
  have hxy : folded (positionValueName identity monitorX) ≠ folded monitorY :=
    folded_monitorX_ne identity []
  have hyx : folded (positionValueName identity monitorY) ≠ folded monitorX :=
    (folded_monitorX_ne [] identity).symm
  show ownPosition identity ((registry.values.delete _ _).delete _ _) = _
  apply ownPosition_congr
  · rw [Values.delete_of_ne hxy, Values.delete_of_ne (hne monitorX)]
  · rw [Values.delete_of_ne (hne monitorY), Values.delete_of_ne hyx]

theorem getDword_delete_self (values : Values) (name : WString) :
    getDword (values.delete true name) name = none := by
  have hv : values.delete true name (folded name) = none := Function.update_self _ _ _
  rw [getDword_eq, hv]

theorem Values.delete_false (values : Values) (name : WString) :
    values.delete false name = values := rfl

theorem values_dropShared (answers : Answers) (registry : Registry) :
    (dropShared answers registry).values =
      (registry.values.delete answers.deleteX monitorX).delete answers.deleteY monitorY := rfl

/-- No identity owns the shared values. -/
theorem ownPosition_nil (source : Values) :
    ownPosition [] source = getPoint source monitorX monitorY := rfl

/-- Without one of its values the shared position is gone. -/
theorem saved_nil_dropShared {answers : Answers}
    (h : answers.deleteX = true ∨ answers.deleteY = true) (registry : Registry) :
    saved [] (dropShared answers registry) = none := by
  rw [saved, ownPosition_nil, values_dropShared]
  cases hy : answers.deleteY with
  | true => simp [getPoint, getDword_delete_self]
  | false =>
    have hx : answers.deleteX = true := by simpa [hy] using h
    rw [hx, Values.delete_false]
    simp [getPoint, getDword_delete_self]

/-! ### Choosing a place -/

/-- The right edge of the desktop. -/
def Desktop.rightEdge (desktop : Desktop) : Point := ⟨desktop.x + desktop.width, desktop.y⟩

/-- What a claim reads out of MouseLink's key for its own identity. -/
def readOwn (identity : Identity) (answers : Answers) (registry : Registry) : Option Point :=
  if answers.openMouseLink then saved identity registry else none

/-- What a claim takes over from the single-iPad layout. -/
def takeShared (identity : Identity) (answers : Answers) (registry : Registry) : Option Point :=
  if answers.openMouseLink ∧ saved identity registry = none ∧ identity ≠ [] then saved [] registry
  else none

/-- Without a key there is nothing to read. -/
theorem ownPosition_none (identity : Identity) : ownPosition identity (fun _ => none) = none := rfl

theorem loadMouseLink_eq (identity : Identity) (answers : Answers) (registry : Registry) :
    loadMouseLink identity answers registry =
      match readOwn identity answers registry with
      | some p => (some p, registry)
      | none =>
        match takeShared identity answers registry with
        | some p => (some p, dropShared answers registry)
        | none => (none, registry) := by
  cases hopen : answers.openMouseLink with
  | false => simp [loadMouseLink, readOwn, takeShared, hopen]
  | true =>
    cases hkey : registry.mouseLink with
    | none =>
      have hnone (b : Identity) : saved b registry = none := by
        rw [saved, Registry.values, hkey, Option.getD_none, ownPosition_none]
      simp [loadMouseLink, readOwn, takeShared, hopen, hkey, hnone]
    | some key =>
      have hvalues : registry.values = key := by rw [Registry.values, hkey, Option.getD_some]
      have hshared : sharedPosition identity key = if identity ≠ [] then saved [] registry
          else none := by
        rw [sharedPosition, saved, hvalues]
        cases identity <;> rfl
      simp only [loadMouseLink, readOwn, takeShared, hopen, hkey, if_true, hshared, true_and,
        saved, hvalues]
      cases ownPosition identity key with
      | some p => rfl
      | none => simp only [true_and, dropShared, hvalues]

/-- **What a claim does**: it takes its own place, or the shared one, which it removes; otherwise
the one of the older installation or the right edge, which it saves. -/
theorem chosenPosition_eq (identity : Identity) (answers : Answers) (desktop : Desktop)
    (registry : Registry) : chosenPosition identity answers desktop registry =
      match readOwn identity answers registry with
      | some p => (p, registry)
      | none =>
        match takeShared identity answers registry with
        | some p => (p, dropShared answers registry)
        | none =>
          let p := (legacyPosition identity answers registry).getD desktop.rightEdge
          (p, savePosition identity answers p registry) := by
  rw [chosenPosition, loadSavedPosition, loadMouseLink_eq]
  cases readOwn identity answers registry with
  | some p => rfl
  | none =>
    cases takeShared identity answers registry with
    | some p => rfl
    | none =>
      simp only
      cases legacyPosition identity answers registry <;> rfl

theorem fst_loadSavedPosition (identity : Identity) (answers : Answers) (registry : Registry) :
    (loadSavedPosition identity answers registry).1 =
      ((readOwn identity answers registry).or (takeShared identity answers registry)).or
        (legacyPosition identity answers registry) := by
  rw [loadSavedPosition, loadMouseLink_eq]
  cases readOwn identity answers registry with
  | some p => rfl
  | none =>
    cases takeShared identity answers registry with
    | some p => rfl
    | none =>
      simp only [Option.none_or]
      cases legacyPosition identity answers registry <;> rfl

/-- Saving changes nothing for an identity with another slot, if the saving one has a name. -/
theorem readOwn_savePosition_of_ne {a b : Identity} (h : slot a ≠ slot b)
    (answers answers' : Answers) (p : Point) (registry : Registry) :
    readOwn b answers' (savePosition a answers p registry) = readOwn b answers' registry := by
  rw [readOwn, saved_savePosition_of_ne h]
  rfl

theorem takeShared_savePosition_of_ne {a b : Identity} (ha : a ≠ []) (h : slot a ≠ slot b)
    (answers answers' : Answers) (p : Point) (registry : Registry) :
    takeShared b answers' (savePosition a answers p registry) = takeShared b answers' registry := by
  have hshared : slot a ≠ slot [] := mt slot_eq_nil.1 ha
  rw [takeShared, saved_savePosition_of_ne h, saved_savePosition_of_ne hshared]
  rfl

theorem legacyPosition_congr {registry registry' : Registry}
    (h : registry'.legacy = registry.legacy) (identity : Identity) (answers : Answers) :
    legacyPosition identity answers registry' = legacyPosition identity answers registry := by
  rw [legacyPosition, legacyPosition, h]

/-- Two identities with one slot have one place. -/
theorem saved_of_slot_eq {a b : Identity} (h : slot a = slot b) (registry : Registry) :
    saved a registry = saved b registry := by
  have hread (base : WString) : getDword registry.values (positionValueName a base) =
      getDword registry.values (positionValueName b base) := by
    rw [getDword_eq, getDword_eq, folded_positionValueName_inj.2 h]
  simp only [saved, ownPosition, getPoint, hread]

/-- **Whose places are kept apart.**  What one sender saves never changes what another one loads
exactly if the first has an address at all, and the two addresses differ in more than the case of
their letters and which other character stands where. -/
theorem saves_apart_iff (a b : Identity) :
    (∀ registry answers answers' p,
      (loadSavedPosition b answers' (savePosition a answers p registry)).1 =
        (loadSavedPosition b answers' registry).1) ↔ a ≠ [] ∧ slot a ≠ slot b := by
  constructor
  · intro hsame
    have hempty := hsame ⟨none, none⟩ {} {} {}
    have hbefore : (loadSavedPosition b {} ⟨none, none⟩).1 = none := rfl
    rw [hbefore, fst_loadSavedPosition] at hempty
    have hsaved (c : Identity) (hc : slot a = slot c) :
        saved c (savePosition a {} {} ⟨none, none⟩) = some {} := by
      rw [← saved_of_slot_eq hc]
      exact saved_savePosition (by decide) a {} ⟨none, none⟩
    constructor
    · intro ha
      subst ha
      by_cases hb : b = []
      · subst hb
        simp [readOwn, hsaved [] rfl] at hempty
      · by_cases hown : saved b (savePosition [] {} {} ⟨none, none⟩) = none
        · simp [readOwn, takeShared, hown, hb, hsaved [] rfl] at hempty
        · simp [readOwn, hown] at hempty
    · intro hslot
      simp [readOwn, hsaved b hslot] at hempty
  · intro ⟨ha, hslot⟩ registry answers answers' p
    rw [fst_loadSavedPosition, fst_loadSavedPosition, readOwn_savePosition_of_ne hslot,
      takeShared_savePosition_of_ne ha hslot,
      legacyPosition_congr (legacy_savePosition a answers p registry)]

end SecondDisplay.SavedPosition
