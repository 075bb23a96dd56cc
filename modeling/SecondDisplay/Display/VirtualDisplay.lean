import SecondDisplay.Library.Transitions
import Mathlib.Data.List.Infix

/-!
# The virtual display (`src/display/VirtualDisplay.cpp`)

A `VirtualDisplay` plugs one monitor into the driver, finds out which active display path it got,
attaches it to the desktop and sets its mode.  The driver, the registry and Windows answer every
call as they like, and Windows changes the desktop at any time, so each answer is a step of its own.
The log of the driver calls tells which displays are plugged in: at every return it is the one
whose index the object holds, or none (`outstanding_at_return`).
-/

namespace SecondDisplay.VirtualDisplay

open SecondDisplay.Transitions

/-! ### Active Parsec paths -/

/-- `std::wstring`. -/
abbrev WString := List UInt16

/-- A wide literal. -/
def wide (s : String) : WString := s.toList.map fun c => c.toNat.toUInt16

/-- `std::towlower` in the C locale. -/
def towlower (ch : UInt16) : UInt16 := if 65 ≤ ch ∧ ch ≤ 90 then ch + 32 else ch

/-- The loop over `hay` and `want`. -/
def startsInsensitive : WString → WString → Bool
  | _, [] => true
  | [], _ :: _ => false
  | h :: hay, w :: want => towlower h == towlower w && startsInsensitive hay want

/-- `ContainsInsensitive`. -/
def containsInsensitive (text needle : WString) : Bool :=
  !needle.isEmpty && text.tails.any fun start => !start.isEmpty && startsInsensitive start needle

/-- `MonitorKey`. -/
def monitorKey (monitorId : WString) : WString := monitorId.map towlower

/-- `DISPLAYCONFIG_TARGET_DEVICE_NAME`. -/
structure TargetDeviceName where
  monitorDevicePath : WString
  monitorFriendlyDeviceName : WString

/-- `DISPLAYCONFIG_PATH_INFO`, with what `DisplayConfigGetDeviceInfo` answers for its two ends. -/
structure PathInfo where
  /-- `DISPLAYCONFIG_PATH_ACTIVE` is set. -/
  active : Bool
  targetAvailable : Bool
  target : Option TargetDeviceName
  /-- `viewGdiDeviceName`. -/
  source : Option WString

structure ParsecPathBinding where
  monitorPath : WString
  monitorKey : WString
  deviceName : WString
  deriving DecidableEq

/-- The body of the loop over the paths. -/
def bindingOf (path : PathInfo) : Option ParsecPathBinding :=
  if !path.active || !path.targetAvailable then none
  else
    match path.target with
    | none => none
    | some target =>
      if !containsInsensitive target.monitorDevicePath (wide "DISPLAY#PSCCDD0#") &&
          !containsInsensitive target.monitorFriendlyDeviceName (wide "ParsecVDA") then none
      else
        match path.source with
        | none => none
        | some name =>
          if name.isEmpty then none
          else
            let key := monitorKey target.monitorDevicePath
            if key.isEmpty then none else some ⟨target.monitorDevicePath, key, name⟩

/-- What one attempt to read the display configuration meets. -/
inductive Query where
  /-- `GetDisplayConfigBufferSizes` fails. -/
  | noSizes
  /-- `ERROR_INSUFFICIENT_BUFFER`. -/
  | insufficientBuffer
  /-- Any other error of `QueryDisplayConfig`. -/
  | failed
  | paths (paths : List PathInfo)

/-- The attempts that are left, and what they meet. -/
def activePathsFrom : Nat → List Query → List ParsecPathBinding
  | 0, _ => []
  | _ + 1, [] => []
  | attempts + 1, query :: queries =>
    match query with
    | .noSizes => []
    | .insufficientBuffer => activePathsFrom attempts queries
    | .failed => []
    | .paths paths => paths.filterMap bindingOf

/-- `ActiveParsecPaths`: an answer that has no path and one that failed look the same. -/
def activeParsecPaths (queries : List Query) : List ParsecPathBinding := activePathsFrom 3 queries

/-- `ActiveParsecPathKeys`. -/
def activeParsecPathKeys (queries : List Query) : List WString :=
  (activeParsecPaths queries).map (·.monitorKey)

/-- The paths that have appeared since the snapshot. -/
def candidates (before : List WString) (queries : List Query) : List ParsecPathBinding :=
  (activeParsecPaths queries).filter fun binding => !before.contains binding.monitorKey

/-- A candidate is an active path that the snapshot does not have. -/
theorem mem_candidates {before : List WString} {queries : List Query} {claimed : ParsecPathBinding}
    (h : claimed ∈ candidates before queries) :
    claimed.monitorKey ∈ activeParsecPathKeys queries ∧ claimed.monitorKey ∉ before := by
  obtain ⟨hactive, hnew⟩ := List.mem_filter.1 h
  refine ⟨List.mem_map_of_mem hactive, ?_⟩
  intro hbefore
  rw [List.contains_iff_mem.2 hbefore] at hnew
  exact Bool.noConfusion hnew

/-! ### The object -/

/-- Size and refresh rate. -/
structure Mode where
  width : UInt32
  height : UInt32
  hz : UInt32
  deriving DecidableEq

/-- What is kept of a call. -/
inductive Act where
  /-- `VddAddDisplay` has returned an index. -/
  | added (idx : Int)
  /-- `VddRemoveDisplay`. -/
  | removed (idx : Int)
  /-- `EnsureResolution` has returned, with the mode of the claimed monitor at that moment. -/
  | ensured (request : Mode) (result : Bool) (current : Option Mode)
  deriving DecidableEq

/-- Where `EnsureResolution` stands. -/
inductive Stage where
  /-- Before the registration of the mode. -/
  | register
  /-- Before the removal of the old display. -/
  | remove
  /-- Before `VddClaimLock`. -/
  | lock
  /-- Before the snapshot of the active paths. -/
  | snapshot
  /-- Before `VddAddDisplay`. -/
  | add (pathKeysBefore : List WString)
  /-- Waiting for the new path, in `FindMonitorGeometry`. -/
  | poll (pathKeysBefore : List WString) (waited : Nat)
  /-- Before the first `ChangeDisplaySettingsEx`. -/
  | attach
  /-- Waiting for the monitor on the desktop, behind the extended topology or not. -/
  | appear (extended : Bool) (waited : Nat)
  /-- Before `ApplyExtendedTopology`. -/
  | extend
  /-- Before the exact mode is set. -/
  | exactMode
  /-- Waiting for the exact mode. -/
  | settle (waited : Nat)
  /-- `FindMonitorGeometry` has failed. -/
  | drop
  deriving DecidableEq

inductive Pc where
  /-- Not in a call. -/
  | idle
  | ensuring (request : Mode) (stage : Stage)
  deriving DecidableEq

/-- The object, with the desktop and the acts, the latest first. -/
structure Display where
  /-- `device_` is open. -/
  device : Bool
  displayIndex : Int
  /-- `targetWidth_`, `targetHeight_` and `targetHz_`. -/
  target : Mode
  deviceName : WString
  monitorPathKey : WString
  pc : Pc
  /-- The attached monitors by device name, and their current modes. -/
  desktop : List (WString × Mode)
  log : List Act
  deriving DecidableEq

/-- A new object. -/
def start : Display := ⟨false, -1, ⟨0, 0, 60⟩, [], [], .idle, [], []⟩

/-- The mode of the claimed monitor, if it is attached. -/
def Display.currentMode (s : Display) : Option Mode := s.desktop.lookup s.deviceName

/-- `QueryMonitorRect`, where the enumeration works or not. -/
def Display.queryMonitorRect (s : Display) (queried : Bool) : Bool :=
  queried && s.currentMode.isSome

/-- `EnsureResolution` goes on. -/
def Display.goes (s : Display) (request : Mode) (stage : Stage) : Display :=
  { s with pc := .ensuring request stage }

/-- `EnsureResolution` returns. -/
def Display.returns (s : Display) (request : Mode) (result : Bool) : Display :=
  { s with pc := .idle, log := .ensured request result s.currentMode :: s.log }

/-- `VddRemoveDisplay`, and what is forgotten behind it. -/
def Display.remove (s : Display) : Display :=
  { s with
    displayIndex := -1
    deviceName := []
    monitorPathKey := []
    log := .removed s.displayIndex :: s.log }

/-- `Close`: the names stay. -/
def Display.close (s : Display) : Display :=
  if 0 ≤ s.displayIndex ∧ s.device = true then
    { s with device := false, displayIndex := -1, log := .removed s.displayIndex :: s.log }
  else { s with device := false }

/-- The head of `EnsureResolution`. -/
def Display.ensureResolution (s : Display) (request : Mode) (queried : Bool) : Display :=
  if s.device = false then s.returns request false
  else if 0 ≤ s.displayIndex ∧ s.target = request ∧ s.queryMonitorRect queried = true then
    s.returns request true
  else { s with target := request, pc := .ensuring request .register }

/-- `VddAddDisplay` has returned. -/
def Display.add (s : Display) (request : Mode) (before : List WString) (idx : Int) : Display :=
  if idx < 0 then s.returns request false
  else
    { s with
      displayIndex := idx
      pc := .ensuring request (.poll before 0)
      log := .added idx :: s.log }

/-- `WaitUntil` has not met its condition: another look in 150 ms, or `failed`. -/
def waitUntil (timeoutMs waited : Nat) (again : Nat → Stage) (failed : Stage) : Stage :=
  if waited < timeoutMs then again (waited + 150) else failed

/-- One look at the active paths. -/
def Display.poll (s : Display) (request : Mode) (before : List WString) (waited : Nat)
    (queries : List Query) : Display :=
  match candidates before queries with
  | [] => s.goes request (waitUntil 3000 waited (.poll before) .drop)
  | [claimed] =>
    { s with
      deviceName := claimed.deviceName
      monitorPathKey := claimed.monitorKey
      pc := .ensuring request .attach }
  | _ :: _ :: _ => s.goes request .drop

/-- One look at the current mode. -/
def Display.settle (s : Display) (request : Mode) (waited : Nat) (rect mode : Bool) : Display :=
  if s.queryMonitorRect rect = true ∧ mode = true ∧ s.currentMode = some s.target then
    s.returns request true
  else s.goes request (waitUntil 5000 waited .settle .drop)

/-- The calls, and what the driver and Windows answer. -/
inductive Event where
  /-- `Open`. -/
  | openDevice (opened : Bool)
  /-- `Close`. -/
  | close
  /-- `EnsureResolution` is called; `queried` is for the `QueryMonitorRect` at its head. -/
  | ensureResolution (request : Mode) (queried : Bool)
  /-- `IsResolutionRegistered`, `RegisterResolutions` and `SelfElevateRegister`. -/
  | register (known direct elevated : Bool)
  /-- `VddRemoveDisplay`, and the wait behind it. -/
  | remove
  /-- `VddClaimLock`. -/
  | lock (held : Bool)
  /-- `ActiveParsecPathKeys`. -/
  | snapshot (queries : List Query)
  /-- `VddAddDisplay`. -/
  | add (idx : Int)
  /-- `ActiveParsecPaths`, in `FindMonitorGeometry`. -/
  | poll (queries : List Query)
  /-- The target mode is advertised, and how setting it and applying the topology end. -/
  | attach (targetModeFound dev apply ccd : Bool)
  /-- `QueryMonitorRect`, waiting for the monitor. -/
  | appear (queried : Bool)
  /-- `ApplyExtendedTopology`. -/
  | extend (applied : Bool)
  /-- The two calls that set the exact mode. -/
  | exactMode (dev apply : Bool)
  /-- `QueryMonitorRect` and `EnumDisplaySettings`, waiting for the exact mode. -/
  | settle (rect mode : Bool)
  /-- Windows or another sender changes the desktop. -/
  | windows (desktop : List (WString × Mode))

/-- One step, or `none` where the event cannot happen. -/
def step (s : Display) : Event → Option Display
  | .windows desktop => some { s with desktop := desktop }
  | .openDevice opened =>
    if s.pc = .idle ∧ s.device = false then some { s with device := opened } else none
  | .close => if s.pc = .idle then some s.close else none
  | .ensureResolution request queried =>
    if s.pc = .idle then some (s.ensureResolution request queried) else none
  | .register known direct elevated =>
    match s.pc with
    | .ensuring request .register =>
      if known || direct || elevated then
        some (s.goes request (if 0 ≤ s.displayIndex then .remove else .lock))
      else some (s.returns request false)
    | _ => none
  | .remove =>
    match s.pc with
    | .ensuring request .remove => some (s.remove.goes request .lock)
    | .ensuring request .drop => some (s.remove.returns request false)
    | _ => none
  | .lock held =>
    match s.pc with
    | .ensuring request .lock =>
      some (if held then s.goes request .snapshot else s.returns request false)
    | _ => none
  | .snapshot queries =>
    match s.pc with
    | .ensuring request .snapshot => some (s.goes request (.add (activeParsecPathKeys queries)))
    | _ => none
  | .add idx =>
    match s.pc with
    | .ensuring request (.add before) => some (s.add request before idx)
    | _ => none
  | .poll queries =>
    match s.pc with
    | .ensuring request (.poll before waited) => some (s.poll request before waited queries)
    | _ => none
  | .attach targetModeFound dev apply ccd =>
    match s.pc with
    | .ensuring request .attach =>
      let attached := targetModeFound && (if dev then apply else ccd)
      some (s.goes request (if attached then .appear false 0 else .drop))
    | _ => none
  | .appear queried =>
    match s.pc with
    | .ensuring request (.appear extended waited) =>
      some (s.goes request
        (if s.queryMonitorRect queried then .exactMode
        else if extended then waitUntil 5000 waited (.appear true) .drop
        else waitUntil 1500 waited (.appear false) .extend))
    | _ => none
  | .extend applied =>
    match s.pc with
    | .ensuring request .extend =>
      some (s.goes request (if applied then .appear true 0 else .drop))
    | _ => none
  | .exactMode dev apply =>
    match s.pc with
    | .ensuring request .exactMode =>
      some (s.goes request (if dev && apply then .settle 0 else .drop))
    | _ => none
  | .settle rect mode =>
    match s.pc with
    | .ensuring request (.settle waited) => some (s.settle request waited rect mode)
    | _ => none

/-! ### What one step does -/

/-- A stage between the claim and the return. -/
def Stage.placing : Stage → Bool
  | .attach | .appear _ _ | .extend | .exactMode | .settle _ | .drop => true
  | .register | .remove | .lock | .snapshot | .add _ | .poll _ _ => false

/-- An answer that leads from one such stage to another. -/
def Event.placing : Event → Bool
  | .attach _ _ _ _ | .appear _ | .extend _ | .exactMode _ _ => true
  | .openDevice _ | .close | .ensureResolution _ _ | .register _ _ _ | .remove | .lock _
  | .snapshot _ | .add _ | .poll _ | .settle _ _ | .windows _ => false

/-- The steps, each with the place it is taken at. -/
inductive Moves (s : Display) : Event → Display → Prop where
  | windows (desktop : List (WString × Mode)) :
    Moves s (.windows desktop) { s with desktop := desktop }
  | openDevice (opened : Bool) (hpc : s.pc = .idle) (hclosed : s.device = false) :
    Moves s (.openDevice opened) { s with device := opened }
  | close (hpc : s.pc = .idle) : Moves s .close s.close
  | ensureResolution (request : Mode) (queried : Bool) (hpc : s.pc = .idle) :
    Moves s (.ensureResolution request queried) (s.ensureResolution request queried)
  | registered {request : Mode} (known direct elevated : Bool)
      (hpc : s.pc = .ensuring request .register) :
    Moves s (.register known direct elevated)
      (s.goes request (if 0 ≤ s.displayIndex then .remove else .lock))
  | notRegistered {request : Mode} (known direct elevated : Bool)
      (hpc : s.pc = .ensuring request .register) :
    Moves s (.register known direct elevated) (s.returns request false)
  | remove {request : Mode} (hpc : s.pc = .ensuring request .remove) :
    Moves s .remove (s.remove.goes request .lock)
  | drop {request : Mode} (hpc : s.pc = .ensuring request .drop) :
    Moves s .remove (s.remove.returns request false)
  | locked {request : Mode} (hpc : s.pc = .ensuring request .lock) :
    Moves s (.lock true) (s.goes request .snapshot)
  | notLocked {request : Mode} (hpc : s.pc = .ensuring request .lock) :
    Moves s (.lock false) (s.returns request false)
  | snapshot {request : Mode} (queries : List Query) (hpc : s.pc = .ensuring request .snapshot) :
    Moves s (.snapshot queries) (s.goes request (.add (activeParsecPathKeys queries)))
  | add {request : Mode} {before : List WString} (idx : Int)
      (hpc : s.pc = .ensuring request (.add before)) :
    Moves s (.add idx) (s.add request before idx)
  | poll {request : Mode} {before : List WString} {waited : Nat} (queries : List Query)
      (hpc : s.pc = .ensuring request (.poll before waited)) :
    Moves s (.poll queries) (s.poll request before waited queries)
  | place {e : Event} {request : Mode} {stage next : Stage} (he : e.placing = true)
      (hpc : s.pc = .ensuring request stage) (hstage : stage.placing = true)
      (hnext : next.placing = true) : Moves s e (s.goes request next)
  | settle {request : Mode} {waited : Nat} (rect mode : Bool)
      (hpc : s.pc = .ensuring request (.settle waited)) :
    Moves s (.settle rect mode) (s.settle request waited rect mode)

variable {s s' : Display} {request : Mode} {stage : Stage}

theorem placing_ite (c : Bool) {yes no : Stage} (hyes : yes.placing = true)
    (hno : no.placing = true) : (if c then yes else no).placing = true := by
  cases c with
  | true => exact hyes
  | false => exact hno

theorem placing_waitUntil (timeoutMs waited : Nat) {again : Nat → Stage} {failed : Stage}
    (hagain : ∀ n, (again n).placing = true) (hfailed : failed.placing = true) :
    (waitUntil timeoutMs waited again failed).placing = true := by
  unfold waitUntil
  split
  · exact hagain _
  · exact hfailed

/-- **Inversion.**  Every step is one of these. -/
theorem step_cases {e : Event} (h : step s e = some s') : Moves s e s' := by
  cases e with
  | windows desktop =>
    cases h
    exact .windows desktop
  | openDevice opened =>
    obtain ⟨⟨hpc, hclosed⟩, ⟨⟩⟩ := Option.ite_none_right_eq_some.1 h
    exact .openDevice opened hpc hclosed
  | close =>
    obtain ⟨hpc, ⟨⟩⟩ := Option.ite_none_right_eq_some.1 h
    exact .close hpc
  | ensureResolution request queried =>
    obtain ⟨hpc, ⟨⟩⟩ := Option.ite_none_right_eq_some.1 h
    exact .ensureResolution request queried hpc
  | register known direct elevated =>
    simp only [step] at h
    split at h
    case h_1 request hpc =>
      split at h <;> cases h
      · exact .registered known direct elevated hpc
      · exact .notRegistered known direct elevated hpc
    case h_2 => cases h
  | remove =>
    simp only [step] at h
    split at h <;> cases h
    case h_1 request hpc => exact .remove hpc
    case h_2 request hpc => exact .drop hpc
  | lock held =>
    simp only [step] at h
    split at h <;> cases h
    case h_1 request hpc =>
      cases held with
      | true => exact .locked hpc
      | false => exact .notLocked hpc
  | snapshot queries =>
    simp only [step] at h
    split at h <;> cases h
    case h_1 request hpc => exact .snapshot queries hpc
  | add idx =>
    simp only [step] at h
    split at h <;> cases h
    case h_1 request before hpc => exact .add idx hpc
  | poll queries =>
    simp only [step] at h
    split at h <;> cases h
    case h_1 request before waited hpc => exact .poll queries hpc
  | attach targetModeFound dev apply ccd =>
    simp only [step] at h
    split at h <;> cases h
    case h_1 request hpc => exact .place rfl hpc rfl (placing_ite _ rfl rfl)
  | appear queried =>
    simp only [step] at h
    split at h <;> cases h
    case h_1 request extended waited hpc =>
      refine .place rfl hpc rfl (placing_ite _ rfl (placing_ite _ ?_ ?_))
      · exact placing_waitUntil 5000 waited (fun _ => rfl) rfl
      · exact placing_waitUntil 1500 waited (fun _ => rfl) rfl
  | extend applied =>
    simp only [step] at h
    split at h <;> cases h
    case h_1 request hpc => exact .place rfl hpc rfl (placing_ite _ rfl rfl)
  | exactMode dev apply =>
    simp only [step] at h
    split at h <;> cases h
    case h_1 request hpc => exact .place rfl hpc rfl (placing_ite _ rfl rfl)
  | settle rect mode =>
    simp only [step] at h
    split at h <;> cases h
    case h_1 request waited hpc => exact .settle rect mode hpc

/-! ### Displays that are plugged in -/

/-- The indices added and not yet removed. -/
def outstanding : List Act → List Int
  | [] => []
  | .added idx :: log => idx :: outstanding log
  | .removed idx :: log => (outstanding log).erase idx
  | .ensured _ _ _ :: log => outstanding log

/-- Every removal is of a display that is plugged in. -/
def RemovesPlugged : List Act → Prop
  | [] => True
  | .removed idx :: log => idx ∈ outstanding log ∧ RemovesPlugged log
  | _ :: log => RemovesPlugged log

/-- The display of the object is the one that is plugged in. -/
structure Balanced (s : Display) : Prop where
  outstanding : outstanding s.log = if s.displayIndex < 0 then [] else [s.displayIndex]
  removes : RemovesPlugged s.log
  unset : s.displayIndex < 0 → s.displayIndex = -1

/-- At each stage there is a display or none; `register` may have one of an earlier call. -/
def Stage.Places (index : Int) : Stage → Prop
  | .register => True
  | .lock | .snapshot | .add _ => index < 0
  | _ => 0 ≤ index

/-- What holds between the steps. -/
structure Inv (s : Display) : Prop where
  balanced : Balanced s
  closed : s.device = false → s.displayIndex < 0 ∧ s.pc = .idle
  places : ∀ request stage, s.pc = .ensuring request stage → stage.Places s.displayIndex

theorem inv_start : Inv start :=
  ⟨⟨rfl, trivial, fun _ => rfl⟩, fun _ => ⟨by decide, rfl⟩, by rintro _ _ ⟨⟩⟩

/-- A call is made on an open device only. -/
theorem Inv.isOpen (hi : Inv s) (hpc : s.pc = .ensuring request stage) : s.device = true := by
  cases hdevice : s.device with
  | true => rfl
  | false =>
    have hidle := (hi.closed hdevice).2
    rw [hpc] at hidle
    cases hidle

theorem inv_goes (hb : Balanced s) (hopen : s.device = true)
    (hplaces : stage.Places s.displayIndex) : Inv (s.goes request stage) := by
  refine ⟨⟨hb.outstanding, hb.removes, hb.unset⟩, ?_, ?_⟩
  · intro hclosed
    exact absurd (hopen.symm.trans hclosed) (by decide)
  · rintro _ _ ⟨⟩
    exact hplaces

theorem inv_returns (hb : Balanced s) (hclosed : s.device = false → s.displayIndex < 0)
    (result : Bool) : Inv (s.returns request result) := by
  refine ⟨⟨hb.outstanding, hb.removes, hb.unset⟩, ?_, by rintro _ _ ⟨⟩⟩
  intro h
  exact ⟨hclosed h, rfl⟩

/-- The only display is removed. -/
theorem balanced_removed {log : List Act} {index : Int} (hout : outstanding log = [index])
    (hremoves : RemovesPlugged log) :
    outstanding (.removed index :: log) = [] ∧ RemovesPlugged (.removed index :: log) := by
  constructor
  · show (outstanding log).erase index = []
    rw [hout, List.erase_cons_head]
  · refine ⟨?_, hremoves⟩
    rw [hout]
    exact List.mem_singleton_self index

theorem Balanced.plugged (hb : Balanced s) (hindex : 0 ≤ s.displayIndex) :
    VirtualDisplay.outstanding s.log = [s.displayIndex] := by
  rw [hb.outstanding, if_neg (Int.not_lt.2 hindex)]

theorem balanced_remove (hb : Balanced s) (hindex : 0 ≤ s.displayIndex) : Balanced s.remove := by
  obtain ⟨hout, hremoves⟩ := balanced_removed (hb.plugged hindex) hb.removes
  exact ⟨hout, hremoves, fun _ => rfl⟩

/-- `Close` leaves no display. -/
theorem inv_close (hi : Inv s) (hpc : s.pc = .idle) :
    Inv s.close ∧ s.close.device = false ∧ s.close.displayIndex = -1 := by
  unfold Display.close
  split
  case isTrue h =>
    obtain ⟨hout, hremoves⟩ := balanced_removed (hi.balanced.plugged h.1) hi.balanced.removes
    refine ⟨⟨⟨hout, hremoves, fun _ => rfl⟩, fun _ => ⟨show (-1 : Int) < 0 by decide, hpc⟩, ?_⟩,
      rfl, rfl⟩
    intro request stage h'
    exact absurd (hpc.symm.trans h') (by rintro ⟨⟩)
  case isFalse h =>
    have hindex : s.displayIndex < 0 := by
      cases hdevice : s.device with
      | false => exact (hi.closed hdevice).1
      | true => exact Int.not_le.1 fun hle => h ⟨hle, hdevice⟩
    refine ⟨⟨⟨hi.balanced.outstanding, hi.balanced.removes, hi.balanced.unset⟩,
      fun _ => ⟨hindex, hpc⟩, ?_⟩, rfl, hi.balanced.unset hindex⟩
    intro request stage h'
    exact absurd (hpc.symm.trans h') (by rintro ⟨⟩)

theorem inv_ensureResolution (hi : Inv s) (queried : Bool) :
    Inv (s.ensureResolution request queried) := by
  have hclosed : s.device = false → s.displayIndex < 0 := fun h => (hi.closed h).1
  unfold Display.ensureResolution
  split
  case isTrue => exact inv_returns hi.balanced hclosed false
  case isFalse hopen =>
    split
    case isTrue => exact inv_returns hi.balanced hclosed true
    case isFalse =>
      refine ⟨⟨hi.balanced.outstanding, hi.balanced.removes, hi.balanced.unset⟩, ?_, ?_⟩
      · exact fun h => absurd h hopen
      · rintro _ _ ⟨⟩
        trivial

theorem inv_add {before : List WString} (hi : Inv s)
    (hpc : s.pc = .ensuring request (.add before)) (idx : Int) :
    Inv (s.add request before idx) := by
  have hindex : s.displayIndex < 0 := hi.places _ _ hpc
  unfold Display.add
  split
  case isTrue => exact inv_returns hi.balanced (fun _ => hindex) false
  case isFalse hidx =>
    refine ⟨⟨?_, hi.balanced.removes, fun h => absurd h hidx⟩, ?_, ?_⟩
    · show idx :: outstanding s.log = if idx < 0 then [] else [idx]
      rw [hi.balanced.outstanding, if_pos hindex, if_neg hidx]
    · exact fun h => absurd ((hi.isOpen hpc).symm.trans h) (by decide)
    · rintro _ _ ⟨⟩
      exact Int.not_lt.1 hidx

theorem places_of_placing (hstage : stage.placing = true) (index : Int) :
    stage.Places index ↔ 0 ≤ index := by
  cases stage <;> first | exact Iff.rfl | cases hstage

theorem inv_poll {before : List WString} {waited : Nat} (hi : Inv s)
    (hpc : s.pc = .ensuring request (.poll before waited)) (queries : List Query) :
    Inv (s.poll request before waited queries) := by
  have hindex : 0 ≤ s.displayIndex := hi.places _ _ hpc
  have hopen := hi.isOpen hpc
  unfold Display.poll
  split
  · refine inv_goes hi.balanced hopen ?_
    unfold waitUntil
    split <;> exact hindex
  · refine ⟨⟨hi.balanced.outstanding, hi.balanced.removes, hi.balanced.unset⟩, ?_, ?_⟩
    · exact fun h => absurd (hopen.symm.trans h) (by decide)
    · rintro _ _ ⟨⟩
      exact hindex
  · exact inv_goes hi.balanced hopen hindex

/-- A stage between the claim and the return leads to another one. -/
theorem inv_place {next : Stage} (hi : Inv s) (hpc : s.pc = .ensuring request stage)
    (hstage : stage.placing = true) (hnext : next.placing = true) : Inv (s.goes request next) := by
  have hindex := (places_of_placing hstage s.displayIndex).1 (hi.places _ _ hpc)
  exact inv_goes hi.balanced (hi.isOpen hpc) ((places_of_placing hnext _).2 hindex)

theorem inv_settle {waited : Nat} (hi : Inv s) (hpc : s.pc = .ensuring request (.settle waited))
    (rect mode : Bool) : Inv (s.settle request waited rect mode) := by
  unfold Display.settle
  split
  · exact inv_returns hi.balanced (fun h => (hi.closed h).1) true
  · exact inv_place hi hpc rfl (placing_waitUntil 5000 waited (fun _ => rfl) rfl)

/-- **Every step keeps the invariant.** -/
theorem inv_step (hi : Inv s) {e : Event} (h : step s e = some s') : Inv s' := by
  have hclosed : s.device = false → s.displayIndex < 0 := fun h => (hi.closed h).1
  have hunset : (-1 : Int) < 0 := by decide
  cases step_cases h with
  | windows desktop =>
    exact ⟨⟨hi.balanced.outstanding, hi.balanced.removes, hi.balanced.unset⟩, hi.closed, hi.places⟩
  | openDevice opened hpc hdevice =>
    exact ⟨⟨hi.balanced.outstanding, hi.balanced.removes, hi.balanced.unset⟩,
      fun _ => hi.closed hdevice, hi.places⟩
  | close hpc => exact (inv_close hi hpc).1
  | ensureResolution request queried hpc => exact inv_ensureResolution hi queried
  | registered known direct elevated hpc =>
    refine inv_goes hi.balanced (hi.isOpen hpc) ?_
    split
    case isTrue hindex => exact hindex
    case isFalse hindex => exact Int.not_le.1 hindex
  | notRegistered known direct elevated hpc => exact inv_returns hi.balanced hclosed false
  | remove hpc =>
    exact inv_goes (balanced_remove hi.balanced (hi.places _ _ hpc)) (hi.isOpen hpc) hunset
  | drop hpc =>
    exact inv_returns (balanced_remove hi.balanced (hi.places _ _ hpc)) (fun _ => hunset) false
  | locked hpc =>
    have hindex : s.displayIndex < 0 := hi.places _ _ hpc
    exact inv_goes hi.balanced (hi.isOpen hpc) hindex
  | notLocked hpc => exact inv_returns hi.balanced hclosed false
  | snapshot queries hpc =>
    have hindex : s.displayIndex < 0 := hi.places _ _ hpc
    exact inv_goes hi.balanced (hi.isOpen hpc) hindex
  | add idx hpc => exact inv_add hi hpc idx
  | poll queries hpc => exact inv_poll hi hpc queries
  | place he hpc hstage hnext => exact inv_place hi hpc hstage hnext
  | settle rect mode hpc => exact inv_settle hi hpc rect mode

/-- What every run from a new object has kept. -/
theorem inv_run {events : List Event} (h : run step start events = some s) : Inv s :=
  run_invariant (P := Inv) (fun _ _ _ hi hstep => inv_step hi hstep) inv_start h

/-- **No leaked display.**  Whatever the driver, the registry and Windows answer, at every return
the displays added and not removed are none or the one whose index the object holds, every removal
is of a display that was plugged in, and `Close` leaves none. -/
theorem outstanding_at_return {events : List Event} (h : run step start events = some s) :
    (s.pc = .idle → s.displayIndex = -1 ∧ outstanding s.log = [] ∨
      0 ≤ s.displayIndex ∧ outstanding s.log = [s.displayIndex]) ∧
    RemovesPlugged s.log ∧ (events.getLast? = some .close → outstanding s.log = []) := by
  have hi := inv_run h
  refine ⟨fun _ => ?_, hi.balanced.removes, fun hlast => ?_⟩
  · by_cases hindex : s.displayIndex < 0
    · left
      refine ⟨hi.balanced.unset hindex, ?_⟩
      rw [hi.balanced.outstanding, if_pos hindex]
    · right
      exact ⟨Int.not_lt.1 hindex, hi.balanced.plugged (Int.not_lt.1 hindex)⟩
  · obtain ⟨past, rfl⟩ := List.getLast?_eq_some_iff.1 hlast
    rw [run_append] at h
    obtain ⟨t, hpast, hclose⟩ := Option.bind_eq_some_iff.1 h
    obtain ⟨s'', hstep, ⟨⟩⟩ := run_cons_some.1 hclose
    obtain ⟨hpc, ⟨⟩⟩ := Option.ite_none_right_eq_some.1 hstep
    rw [hi.balanced.outstanding, (inv_close (inv_run hpast) hpc).2.2]
    rfl

/-- A path of the driver. -/
def parsecPath (monitorPath name : String) : PathInfo :=
  ⟨true, true, some ⟨wide monitorPath, wide "ParsecVDA"⟩, some (wide name)⟩

/-- The mode of the runs. -/
def panel : Mode := ⟨2388, 1668, 60⟩

/-- `EnsureResolution` up to the claim, with the paths that its snapshot and its poll see. -/
def addAndClaim (idx : Int) (before after : List PathInfo) : List Event :=
  [.register true false false, .lock true, .snapshot [.paths before], .add idx,
    .poll [.paths after]]

/-- `Open`, a claim and a monitor that comes up in its mode. -/
def pluggedIn : List Event :=
  [.openDevice true, .ensureResolution panel true] ++
    addAndClaim 0 [] [parsecPath "DISPLAY#PSCCDD0#1" "DISPLAY21"] ++
    [.attach true true true true, .windows [(wide "DISPLAY21", panel)], .appear true,
      .exactMode true true, .settle true true]

/-- A rotation removes the first display and cannot tell which path the second one has got; `Close`
finds nothing to remove. -/
def rotated : List Event :=
  pluggedIn ++ [.ensureResolution ⟨1668, 2388, 60⟩ true, .register true false false, .remove,
    .lock true, .snapshot [.failed], .add 1,
    .poll [.paths [parsecPath "DISPLAY#PSCCDD0#2" "DISPLAY22",
      parsecPath "DISPLAY#PSCCDD0#3" "DISPLAY23"]],
    .remove, .close]

theorem outstanding_at_return_rotated :
    ∃ s, run step start rotated = some s ∧ s.displayIndex = -1 ∧ RemovesPlugged s.log ∧
      outstanding s.log = [] := by
  have hrun : run step start rotated = some
      { start with
        target := ⟨1668, 2388, 60⟩
        desktop := [(wide "DISPLAY21", panel)]
        log := [.ensured ⟨1668, 2388, 60⟩ false none, .removed 1, .added 1, .removed 0,
          .ensured panel true (some panel), .added 0] } := by
    decide +kernel
  obtain ⟨-, hremoves, hclosed⟩ := outstanding_at_return hrun
  exact ⟨_, hrun, rfl, hremoves, hclosed rfl⟩

end SecondDisplay.VirtualDisplay
