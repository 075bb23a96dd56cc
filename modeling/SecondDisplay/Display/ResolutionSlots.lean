import Mathlib.Data.List.Basic
import Mathlib.Logic.Function.Basic

/-!
# Custom resolutions in the registry (`RegisterResolutions`)

The driver takes its custom modes from five registry keys.  `RegisterResolutions` reads them, adds a
resolution and its rotation where they are missing, and writes the last five of the list back.  What
falls off the front may be one of the two: a full list whose first slot alone has one orientation
loses it when the other one is added (`registers_iff`).
-/

namespace SecondDisplay.ResolutionSlots

/-! ### The registry -/

/-- `Res`. -/
structure Res where
  w : UInt32
  h : UInt32
  hz : UInt32
  deriving DecidableEq

/-- The values of one key, where they are there and of the type `REG_DWORD`. -/
structure Slot where
  width : Option UInt32 := none
  height : Option UInt32 := none
  hz : Option UInt32 := none
  deriving DecidableEq

/-- The keys `SOFTWARE\Parsec\vdd\0`, `\1` and so on. -/
abbrev Registry := Nat → Option Slot

/-- A slot counts if it has both sizes and neither is zero. -/
def slotRes (slot : Slot) : Option Res :=
  match slot.width, slot.height with
  | some w, some h => if w ≠ 0 ∧ h ≠ 0 then some ⟨w, h, slot.hz.getD 60⟩ else none
  | _, _ => none

/-- `ReadRegisteredResolutions`. -/
def readRegisteredResolutions (registry : Registry) : List Res :=
  (List.range 5).filterMap fun i => (registry i).bind slotRes

/-- The list has the resolution. -/
def registered (list : List Res) (w h : UInt32) : Bool :=
  list.any fun r => decide (r.w = w) && decide (r.h = h)

/-- `IsResolutionRegistered`. -/
def isResolutionRegistered (registry : Registry) (w h : UInt32) : Bool :=
  registered (readRegisteredResolutions registry) w h

/-- Which of the calls on the keys succeed. -/
structure Writes where
  /-- `RegCreateKeyExW`. -/
  created : Nat → Bool
  /-- `RegSetValueExW`, for each of the three values. -/
  width : Nat → Bool
  height : Nat → Bool
  hz : Nat → Bool
  /-- `RegDeleteKeyW`. -/
  deleted : Nat → Bool

/-- All of them do. -/
def Writes.succeed : Writes :=
  ⟨fun _ => true, fun _ => true, fun _ => true, fun _ => true, fun _ => true⟩

/-- `RegSetValueExW`. -/
def setValue (ok : Bool) (value : UInt32) (old : Option UInt32) : Option UInt32 :=
  if ok then some value else old

/-- The three values of a key. -/
def setSlot (writes : Writes) (i : Nat) (r : Res) (slot : Slot) : Slot :=
  ⟨setValue (writes.width i) r.w slot.width, setValue (writes.height i) r.h slot.height,
    setValue (writes.hz i) r.hz slot.hz⟩

/-- The loop of `WriteResolutionSlots` over the slots that are left. -/
def writeSlots (list : List Res) (writes : Writes) : List Nat → Registry → Registry × Bool
  | [], registry => (registry, true)
  | i :: slots, registry =>
    match list[i]? with
    | some r =>
      if writes.created i = false then (registry, false)
      else
        writeSlots list writes slots
          (Function.update registry i (some (setSlot writes i r ((registry i).getD {}))))
    | none =>
      writeSlots list writes slots
        (if writes.deleted i then Function.update registry i none else registry)

/-- `WriteResolutionSlots`. -/
def writeResolutionSlots (list : List Res) (writes : Writes) (registry : Registry) :
    Registry × Bool :=
  writeSlots list writes (List.range 5) registry

/-- `ensure`. -/
def ensure (list : List Res) (w h : UInt32) : List Res :=
  if registered list w h then list else list ++ [⟨w, h, 60⟩]

/-- The last five. -/
def evict (list : List Res) : List Res :=
  if 5 < list.length then list.drop (list.length - 5) else list

/-- The list that is written back. -/
def wanted (list : List Res) (width height : UInt32) : List Res :=
  evict (ensure (ensure list width height) height width)

/-- `RegisterResolutions`: the registry afterwards and what it returns. -/
def registerResolutions (width height : UInt32) (writes : Writes) (registry : Registry) :
    Registry × Bool :=
  writeResolutionSlots (wanted (readRegisteredResolutions registry) width height) writes registry

/-! ### The list -/

variable {list added : List Res} {w h : UInt32} {registry : Registry}

theorem registered_iff : registered list w h = true ↔ ∃ r ∈ list, r.w = w ∧ r.h = h := by
  simp only [registered, List.any_eq_true, Bool.and_eq_true, decide_eq_true_eq]

theorem registered_append :
    registered (list ++ added) w h = (registered list w h || registered added w h) :=
  List.any_append

theorem registered_self (hz : UInt32) : registered [⟨w, h, hz⟩] w h = true :=
  registered_iff.2 ⟨_, List.mem_singleton_self _, rfl, rfl⟩

/-- At most five entries stay. -/
theorem length_evict (list : List Res) : (evict list).length ≤ 5 := by
  rw [evict]
  split
  · rw [List.length_drop]
    omega
  · omega

/-- What was added stays, if it fits; the front of the list makes room. -/
theorem evict_append (hadded : added.length ≤ 5) :
    evict (list ++ added) = list.drop (list.length + added.length - 5) ++ added := by
  rw [evict, List.length_append]
  split
  · exact List.drop_append_of_le_length (by omega)
  · have hzero : list.length + added.length - 5 = 0 := by omega
    rw [hzero, List.drop_zero]

/-- What the two calls of `ensure` add: the missing orientations, each once. -/
def missing (list : List Res) (w h : UInt32) : List Res :=
  (if registered list w h then [] else [⟨w, h, 60⟩]) ++
    if registered list h w ∨ w = h then [] else [⟨h, w, 60⟩]

theorem ensure_eq : ensure list w h =
    list ++ if registered list w h then [] else [⟨w, h, 60⟩] := by
  rw [ensure]
  split
  · rw [List.append_nil]
  · rfl

theorem ensure_twice : ensure (ensure list w h) h w = list ++ missing list w h := by
  rw [ensure_eq, ensure_eq, missing, List.append_assoc]
  congr 2
  rw [registered_append]
  by_cases hsame : w = h
  · subst hsame
    cases hthere : registered list w w with
    | true => simp
    | false => simp [registered_self]
  · have hother : registered (if registered list w h then [] else [⟨w, h, 60⟩]) h w = false := by
      split
      · rfl
      · simp [registered, hsame]
    rw [hother, Bool.or_false]
    simp [hsame]

theorem length_missing : (missing list w h).length ≤ 2 := by
  rw [missing]
  split <;> split <;> simp

/-- The list that is written back: its front makes room for the missing orientations. -/
theorem wanted_eq : wanted list w h =
    list.drop (list.length + (missing list w h).length - 5) ++ missing list w h := by
  rw [wanted, ensure_twice, evict_append (Nat.le_trans length_missing (by decide))]

/-- What is added was asked for and was not there. -/
theorem mem_missing {r : Res} (hr : r ∈ missing list w h) :
    (r = ⟨w, h, 60⟩ ∨ r = ⟨h, w, 60⟩) ∧ r ∉ list := by
  have hnew : ∀ {a b : UInt32}, registered list a b = false → (⟨a, b, 60⟩ : Res) ∉ list := by
    intro a b hno hmem
    rw [registered_iff.2 ⟨_, hmem, rfl, rfl⟩] at hno
    cases hno
  rw [missing] at hr
  obtain hr | hr := List.mem_append.1 hr
  · split at hr
    · cases hr
    · rename_i hno
      obtain rfl := List.mem_singleton.1 hr
      exact ⟨.inl rfl, hnew (Bool.eq_false_iff.2 hno)⟩
  · split at hr
    · cases hr
    · rename_i hno
      obtain rfl := List.mem_singleton.1 hr
      exact ⟨.inr rfl, hnew (Bool.eq_false_iff.2 fun h => hno (.inl h))⟩

/-- The list has the resolution in its first slot and nowhere else. -/
def OnlyFirst (list : List Res) (w h : UInt32) : Prop :=
  registered list w h = true ∧ registered list.tail w h = false

/-- A full list has one of the orientations, in its first slot only, and not the other one. -/
def Evicts (list : List Res) (w h : UInt32) : Prop :=
  list.length = 5 ∧
    (OnlyFirst list w h ∧ registered list h w = false ∨
      OnlyFirst list h w ∧ registered list w h = false)

/-- An orientation that is added is on the list. -/
theorem registered_missing (hno : registered list w h = false) :
    registered (missing list w h) w h = true ∧ registered (missing list h w) w h = true := by
  constructor
  · rw [missing, registered_append, hno]
    simp [registered_self]
  · rw [missing, registered_append, hno]
    by_cases hsame : w = h
    · subst hsame
      simp [hno, registered_self]
    · simp [Ne.symm hsame, registered_self]

/-- One orientation is missing and is added. -/
theorem missing_of_one (hyes : registered list w h = true) (hno : registered list h w = false) :
    missing list w h = [⟨h, w, 60⟩] ∧ missing list h w = [⟨h, w, 60⟩] ∧
      registered [⟨h, w, 60⟩] w h = false := by
  have hne : w ≠ h := by
    rintro rfl
    rw [hyes] at hno
    cases hno
  refine ⟨?_, ?_, ?_⟩
  · rw [missing, hyes, hno]
    simp [hne]
  · rw [missing, hyes, hno]
    simp
  · simp [registered, hne, Ne.symm hne]

/-- The one that was there stays, unless it was the first of five. -/
theorem registered_drop (hlen : list.length ≤ 5) (hyes : registered list w h = true) :
    registered (list.drop (list.length + 1 - 5)) w h = true ↔
      ¬(list.length = 5 ∧ OnlyFirst list w h) := by
  by_cases hfull : list.length = 5
  · have hone : list.length + 1 - 5 = 1 := by omega
    rw [hone, List.drop_one]
    constructor
    · rintro htail ⟨-, -, hno⟩
      rw [htail] at hno
      cases hno
    · intro h
      by_contra hno
      exact h ⟨hfull, hyes, Bool.eq_false_iff.2 hno⟩
  · have hzero : list.length + 1 - 5 = 0 := by omega
    rw [hzero, List.drop_zero]
    exact ⟨fun _ hand => hfull hand.1, fun _ => hyes⟩

/-- What becomes of the orientations if one of them was there. -/
theorem wanted_of_one (hlen : list.length ≤ 5) (hyes : registered list w h = true)
    (hno : registered list h w = false) :
    (registered (wanted list w h) w h = true ∧ registered (wanted list w h) h w = true ↔
        ¬(list.length = 5 ∧ OnlyFirst list w h)) ∧
      (registered (wanted list h w) h w = true ∧ registered (wanted list h w) w h = true ↔
        ¬(list.length = 5 ∧ OnlyFirst list w h)) := by
  obtain ⟨hadd, hadd', hother⟩ := missing_of_one hyes hno
  have hnew : registered [(⟨h, w, 60⟩ : Res)] h w = true := registered_self 60
  have hdrop := registered_drop hlen hyes
  constructor
  · rw [wanted_eq, hadd, registered_append, registered_append, hother, hnew, Bool.or_false,
      Bool.or_true, List.length_singleton, hdrop]
    exact and_iff_left rfl
  · rw [wanted_eq, hadd', registered_append, registered_append, hother, hnew, Bool.or_false,
      Bool.or_true, List.length_singleton, hdrop]
    exact and_iff_right rfl

/-- **Both orientations are on the list that is written back**, unless the one that was there
falls off its front. -/
theorem registered_wanted_iff (hlen : list.length ≤ 5) :
    registered (wanted list w h) w h = true ∧ registered (wanted list w h) h w = true ↔
      ¬Evicts list w h := by
  cases hfirst : registered list w h with
  | true =>
    cases hsecond : registered list h w with
    | true =>
      have hnone : missing list w h = [] := by simp [missing, hfirst, hsecond]
      have hzero : list.length + 0 - 5 = 0 := by omega
      rw [wanted_eq, hnone, List.append_nil, List.length_nil, hzero, List.drop_zero, hfirst,
        hsecond, Evicts, hfirst, hsecond]
      simp
    | false =>
      rw [(wanted_of_one hlen hfirst hsecond).1, Evicts, OnlyFirst, OnlyFirst, hfirst, hsecond]
      simp
  | false =>
    cases hsecond : registered list h w with
    | true =>
      rw [(wanted_of_one hlen hsecond hfirst).2, Evicts, OnlyFirst, OnlyFirst, hfirst, hsecond]
      simp
    | false =>
      have hfirst' := (registered_missing hfirst).1
      have hsecond' := (registered_missing hsecond).2
      rw [wanted_eq, registered_append, registered_append, hfirst', hsecond', Bool.or_true,
        Bool.or_true, Evicts, OnlyFirst, OnlyFirst, hfirst, hsecond]
      simp

/-! ### Writing and reading back -/

/-- What a successful write leaves in a slot. -/
def slotOf (r : Res) : Slot := ⟨some r.w, some r.h, some r.hz⟩

theorem writeSlots_cons (j : Nat) (slots : List Nat) (registry : Registry) :
    writeSlots list .succeed (j :: slots) registry =
      writeSlots list .succeed slots (Function.update registry j (list[j]?.map slotOf)) := by
  rw [writeSlots]
  cases list[j]? <;> rfl

/-- A write that succeeds throughout: the slots hold the list, further keys stay. -/
theorem writeSlots_succeed {slots : List Nat} (hnodup : slots.Nodup) (registry : Registry) :
    (writeSlots list .succeed slots registry).2 = true ∧
      ∀ i, (writeSlots list .succeed slots registry).1 i =
        if i ∈ slots then list[i]?.map slotOf else registry i := by
  induction slots generalizing registry with
  | nil => exact ⟨rfl, fun i => (if_neg List.not_mem_nil).symm⟩
  | cons j slots ih =>
    obtain ⟨hfresh, hnodup⟩ := List.nodup_cons.1 hnodup
    rw [writeSlots_cons]
    obtain ⟨hok, hslots⟩ := ih hnodup (Function.update registry j (list[j]?.map slotOf))
    refine ⟨hok, fun i => ?_⟩
    rw [hslots i]
    by_cases hij : i = j
    · subst hij
      rw [if_neg hfresh, if_pos List.mem_cons_self, Function.update_self]
    · rw [Function.update_of_ne hij]
      exact if_congr (by rw [List.mem_cons, or_iff_right hij]) rfl rfl

/-- Reading the elements of a list by their indices. -/
theorem filterMap_range_getElem? {α : Type} (xs : List α) (n : Nat) :
    (List.range n).filterMap (fun i => xs[i]?) = xs.take n := by
  induction n with
  | zero => rfl
  | succ n ih =>
    rw [List.range_succ, List.filterMap_append, ih, List.take_add_one, List.filterMap_cons,
      List.filterMap_nil]
    cases xs[n]? <;> rfl

/-- A mode that is read back has both sizes. -/
def whole (r : Res) : Bool := decide (r.w ≠ 0) && decide (r.h ≠ 0)

theorem slotRes_slotOf (r : Res) : slotRes (slotOf r) = if whole r then some r else none := by
  have hwhole : r.w ≠ 0 ∧ r.h ≠ 0 ↔ whole r = true := by
    rw [whole, Bool.and_eq_true, decide_eq_true_eq, decide_eq_true_eq]
  exact if_congr hwhole rfl rfl

theorem whole_of_read {r : Res} (hr : r ∈ readRegisteredResolutions registry) :
    whole r = true := by
  obtain ⟨i, -, hi⟩ := List.mem_filterMap.1 hr
  obtain ⟨slot, -, hslot⟩ := Option.bind_eq_some_iff.1 hi
  rw [slotRes] at hslot
  split at hslot
  · split at hslot
    · rename_i hboth
      obtain rfl := Option.some.inj hslot
      rw [whole, Bool.and_eq_true, decide_eq_true_eq, decide_eq_true_eq]
      exact hboth
    · cases hslot
  · cases hslot

theorem length_read (registry : Registry) : (readRegisteredResolutions registry).length ≤ 5 :=
  List.length_filterMap_le _ _

/-- **A list that is written is read back**, but for modes with a size of zero. -/
theorem read_write (hlen : list.length ≤ 5) (registry : Registry) :
    readRegisteredResolutions (writeResolutionSlots list .succeed registry).1 =
      list.filter whole := by
  have hslots : ∀ i, (writeSlots list .succeed (List.range 5) registry).1 i = _ :=
    (writeSlots_succeed List.nodup_range registry).2
  have hread : ∀ i ∈ List.range 5,
      ((writeResolutionSlots list .succeed registry).1 i).bind slotRes =
        list[i]?.bind fun r => if whole r then some r else none := by
    intro i hi
    rw [writeResolutionSlots, hslots i, if_pos hi, Option.bind_map]
    exact congrArg _ (funext slotRes_slotOf)
  calc readRegisteredResolutions (writeResolutionSlots list .succeed registry).1
      = (List.range 5).filterMap fun i =>
          list[i]?.bind fun r => if whole r then some r else none :=
        List.filterMap_congr hread
    _ = ((List.range 5).filterMap fun i => list[i]?).filterMap
          fun r => if whole r then some r else none := by rw [List.filterMap_filterMap]
    _ = list.filterMap fun r => if whole r then some r else none := by
        rw [filterMap_range_getElem?, List.take_of_length_le hlen]
    _ = list.filter whole := by rw [← List.filterMap_eq_filter]; rfl

/-! ### What a registration leaves -/

/-- What is expected of a registration of a resolution. -/
structure Registers (w h : UInt32) (before after : Registry) : Prop where
  /-- Both orientations are registered. -/
  both : isResolutionRegistered after w h = true ∧ isResolutionRegistered after h w = true
  /-- No more than five slots are used. -/
  slots : (readRegisteredResolutions after).length ≤ 5 ∧ ∀ i, 5 ≤ i → after i = before i
  /-- No mode appears that was neither there nor asked for. -/
  known : ∀ r ∈ readRegisteredResolutions after,
    r ∈ readRegisteredResolutions before ∨ r = ⟨w, h, 60⟩ ∨ r = ⟨h, w, 60⟩
  /-- The modes that survive keep their order. -/
  order : ((readRegisteredResolutions after).filter fun r =>
    decide (r ∈ readRegisteredResolutions before)).Sublist (readRegisteredResolutions before)

/-- What is read back after a registration. -/
theorem read_register (w h : UInt32) (registry : Registry) :
    readRegisteredResolutions (registerResolutions w h .succeed registry).1 =
      (wanted (readRegisteredResolutions registry) w h).filter whole :=
  read_write (length_evict _) registry

/-- Nothing is lost by reading back if neither size is zero. -/
theorem filter_wanted (hw : w ≠ 0) (hh : h ≠ 0) :
    (wanted (readRegisteredResolutions registry) w h).filter whole =
      wanted (readRegisteredResolutions registry) w h := by
  rw [List.filter_eq_self]
  intro r hr
  rw [wanted_eq] at hr
  obtain hr | hr := List.mem_append.1 hr
  · exact whole_of_read (List.mem_of_mem_drop hr)
  · obtain ⟨rfl | rfl, -⟩ := mem_missing hr
    · simp [whole, hw, hh]
    · simp [whole, hw, hh]

/-- A mode of size zero is never registered. -/
theorem ne_zero_of_registered (h' : isResolutionRegistered registry w h = true) :
    w ≠ 0 ∧ h ≠ 0 := by
  obtain ⟨r, hr, rfl, rfl⟩ := registered_iff.1 h'
  have hwhole := whole_of_read hr
  rw [whole, Bool.and_eq_true, decide_eq_true_eq, decide_eq_true_eq] at hwhole
  exact hwhole

theorem known_register {r : Res}
    (hr : r ∈ readRegisteredResolutions (registerResolutions w h .succeed registry).1) :
    r ∈ readRegisteredResolutions registry ∨ r = ⟨w, h, 60⟩ ∨ r = ⟨h, w, 60⟩ := by
  rw [read_register, wanted_eq] at hr
  obtain hr | hr := List.mem_append.1 (List.mem_filter.1 hr).1
  · exact .inl (List.mem_of_mem_drop hr)
  · exact .inr (mem_missing hr).1

theorem order_register (w h : UInt32) (registry : Registry) :
    ((readRegisteredResolutions (registerResolutions w h .succeed registry).1).filter fun r =>
      decide (r ∈ readRegisteredResolutions registry)).Sublist
        (readRegisteredResolutions registry) := by
  have hadded : (missing (readRegisteredResolutions registry) w h).filter
      (fun r => decide (r ∈ readRegisteredResolutions registry)) = [] := by
    rw [List.filter_eq_nil_iff]
    intro r hr
    rw [decide_eq_true_eq]
    exact (mem_missing hr).2
  rw [read_register, wanted_eq]
  refine (List.filter_sublist.filter _).trans ?_
  rw [List.filter_append, hadded, List.append_nil]
  exact List.filter_sublist.trans (List.drop_sublist _ _)

theorem slots_register (w h : UInt32) (registry : Registry) {i : Nat} (hi : 5 ≤ i) :
    (registerResolutions w h .succeed registry).1 i = registry i := by
  have hout : i ∉ List.range 5 := by
    rw [List.mem_range]
    omega
  exact ((writeSlots_succeed List.nodup_range registry).2 i).trans (if_neg hout)

/-- **When a registration that succeeds does what is expected of it.**  Neither size is zero, and
it does not evict one orientation from a full list as it adds the other one. -/
theorem registers_iff (w h : UInt32) (registry : Registry) :
    (registerResolutions w h .succeed registry).2 = true ∧
      (Registers w h registry (registerResolutions w h .succeed registry).1 ↔
        w ≠ 0 ∧ h ≠ 0 ∧ ¬Evicts (readRegisteredResolutions registry) w h) := by
  refine ⟨(writeSlots_succeed List.nodup_range registry).1, ?_⟩
  have hread := read_register w h registry
  constructor
  · intro registers
    obtain ⟨hw, hh⟩ := ne_zero_of_registered registers.both.1
    rw [filter_wanted hw hh] at hread
    have hboth := registers.both
    rw [isResolutionRegistered, isResolutionRegistered, hread] at hboth
    exact ⟨hw, hh, (registered_wanted_iff (length_read registry)).1 hboth⟩
  · rintro ⟨hw, hh, hkept⟩
    rw [filter_wanted hw hh] at hread
    have hboth := (registered_wanted_iff (length_read registry)).2 hkept
    rw [← hread] at hboth
    exact
      { both := hboth
        slots := ⟨length_read _, fun i hi => slots_register w h registry hi⟩
        known := fun r hr => known_register hr
        order := order_register w h registry }

/-- Five registered modes; the landscape of the request comes first, its portrait is missing. -/
def fullRegistry : Registry := fun i =>
  ([⟨2388, 1668, 60⟩, ⟨2732, 2048, 60⟩, ⟨2048, 2732, 60⟩, ⟨2360, 1640, 60⟩,
    ⟨1640, 2360, 60⟩] : List Res)[i]?.map slotOf

/-- The landscape is gone when the portrait has been registered. -/
theorem registers_fails_full :
    ¬∀ (w h : UInt32) (registry : Registry),
      (registerResolutions w h .succeed registry).2 = true →
        Registers w h registry (registerResolutions w h .succeed registry).1 := by
  intro hall
  have hboth := (hall 1668 2388 fullRegistry (by decide)).both.2
  exact absurd hboth (by decide)

/-- What `EnsureResolution` asks for, because it is missing, is registered afterwards. -/
theorem registered_request (hw : w ≠ 0) (hh : h ≠ 0)
    (hmissing : isResolutionRegistered registry w h = false) :
    isResolutionRegistered (registerResolutions w h .succeed registry).1 w h = true := by
  rw [isResolutionRegistered, read_register, filter_wanted hw hh, wanted_eq, registered_append,
    (registered_missing hmissing).1, Bool.or_true]

/-- Without the right to write, nothing is written. -/
theorem write_denied (r : Res) (list : List Res) (writes : Writes) (registry : Registry)
    (hdenied : writes.created 0 = false) :
    writeResolutionSlots (r :: list) writes registry = (registry, false) :=
  if_pos hdenied

end SecondDisplay.ResolutionSlots
