import SecondDisplay.App.DeviceIds
import SecondDisplay.Library.Transitions
import Std.Data.ExtTreeMap

/-!
# The discovered devices in the panel (`RunDiscovery`, `SyncPanelDiscovery`, `app/TrayApp.cpp`)

A background thread browses and lists who is online, by address.  The timer copies the list into a
box of the panel, and the add button takes the device whose row is selected there.  The box and the
addresses that the button reads are kept apart; still the button always adds the device that the
selected row shows (`add_is_selected`).  When the list changes, the selection keeps its position, so
it stays on its device only if as many addresses sort in front of it as before
(`sync_keeps_selected_iff`).
-/

namespace SecondDisplay.PanelDiscovery

open TrayContext (addSelectedDiscoveredDevice)
open Transitions

/-! ### Data -/

/-- A row of the box. -/
inductive Row where
  /-- That nothing has been discovered. -/
  | hint
  /-- A name, or the address for an empty one, and behind it the address. -/
  | device (shown address : Bytes)
  deriving DecidableEq

/-- The address in a row. -/
def Row.address? : Row → Option Bytes
  | .hint => none
  | .device _ address => some address

/-- The box: its rows, and `CB_GETCURSEL` unless that is negative. -/
structure Box where
  rows : List Row := []
  cursel : Option Nat := none
  enabled : Bool := true
  deriving DecidableEq

/-- What the browse, the box and the add button work on. -/
structure State where
  ctx : TrayContext
  /-- `TrayContext::discovered`. -/
  discovered : Std.ExtTreeMap Bytes Bytes
  /-- `panelDiscovery`, if there is a panel. -/
  box : Option Box
  /-- `panelDiscoveryAddresses`. -/
  addresses : List Bytes

/-- What happens, in any order. -/
inductive Event where
  /-- A turn of the loop of `RunDiscovery`. -/
  | browse (answers : List DiscoveryRecord) (now : Int)
  /-- `WM_TIMER`. -/
  | tick
  /-- The panel opens (`CreatePanelSettingsControls`). -/
  | opens
  /-- The panel closes (`WM_NCDESTROY`). -/
  | closes
  /-- The user selects a row. -/
  | select (row : Nat)
  /-- The add button. -/
  | add
  /-- The tray does something else. -/
  | other (ctx : TrayContext)

/-! ### The handlers -/

/-- What `RunDiscovery` lists of the records of the cache. -/
def listed (records : List DiscoveryRecord) : Std.ExtTreeMap Bytes Bytes :=
  records.foldl (fun discovered record =>
    if record.online = true ∧ record.address ≠ [] then
      discovered.insert record.address (receiverLabel record)
    else discovered) ∅

/-- The locked part of the loop of `RunDiscovery`. -/
def State.browse (s : State) (answers : List DiscoveryRecord) (now : Int) : State :=
  let records := DiscoveryCache.expire (DiscoveryCache.merge s.ctx.discoveryCache answers now) now
  { s with ctx := { s.ctx with discoveryCache := records }, discovered := listed records }

/-- The row of a device. -/
def rowOf (entry : Bytes × Bytes) : Row :=
  .device (if entry.2 = [] then entry.1 else entry.2) entry.1

/-- The position that is selected among `count` new rows. -/
def newSelection (count : Nat) : Option Nat → Nat
  | none => 0
  | some previous => if previous < count then previous else 0

/-- `SyncPanelDiscovery`. -/
def State.syncPanelDiscovery (s : State) : State :=
  match s.box with
  | none => s
  | some box =>
    let receivers := s.discovered.toList
    let addresses := receivers.map Prod.fst
    if addresses = s.addresses then s
    else if receivers = [] then
      { s with addresses := addresses, box := some ⟨[.hint], some 0, false⟩ }
    else
      { s with
        addresses := addresses
        box := some ⟨receivers.map rowOf, some (newSelection receivers.length box.cursel), true⟩ }

/-- `AddSelectedDiscoveredDevice`. -/
def State.addSelected (s : State) : State × Bool :=
  match s.box with
  | none => (s, false)
  | some box =>
    if s.addresses = [] then (s, false)
    else
      match box.cursel.bind fun selected => s.addresses[selected]? with
      | none => (s, false)
      | some address =>
        ({ s with ctx :=
          addSelectedDiscoveredDevice s.ctx address ((s.discovered[address]?).getD []) }, true)

/-- One step. -/
def step (s : State) : Event → Option State
  | .browse answers now => some (s.browse answers now)
  | .tick => some s.syncPanelDiscovery
  | .opens => if s.box = none then some { s with box := some {} }.syncPanelDiscovery else none
  | .closes => some { s with box := none, addresses := [] }
  | .select row =>
    match s.box with
    | none => none
    | some box =>
      if box.enabled = true ∧ row < box.rows.length then
        some { s with box := some { box with cursel := some row } }
      else none
  | .add => some s.addSelected.1
  | .other ctx => some { s with ctx := ctx }

/-- Nothing has been discovered, and there is no panel. -/
def start (ctx : TrayContext) : State := ⟨ctx, ∅, none, []⟩

/-- The address in the row that is selected. -/
def State.selectedAddress (s : State) : Option Bytes :=
  s.box.bind fun box => box.cursel.bind fun selected => box.rows[selected]?.bind Row.address?

/-! ### The box shows the addresses -/

/-- A list of addresses in order. -/
def Increasing (addresses : List Bytes) : Prop :=
  addresses.Pairwise fun a b => compare a b = .lt

/-- The box shows the addresses that the button reads, in order, and has one of them selected. -/
structure Shown (s : State) : Prop where
  closed : s.box = none → s.addresses = []
  empty : ∀ box ∈ s.box, s.addresses = [] → ∀ row ∈ box.rows, row = .hint
  rows : ∀ box ∈ s.box, s.addresses ≠ [] → box.rows.map Row.address? = s.addresses.map some
  selected : ∀ box ∈ s.box, s.addresses ≠ [] → ∃ k, k < s.addresses.length ∧ box.cursel = some k
  increasing : Increasing s.addresses

theorem increasing_keys (discovered : Std.ExtTreeMap Bytes Bytes) :
    Increasing (discovered.toList.map Prod.fst) := by
  rw [Increasing, List.pairwise_map]
  exact Std.ExtTreeMap.ordered_keys_toList

theorem rowOf_addresses (receivers : List (Bytes × Bytes)) :
    (receivers.map rowOf).map Row.address? = (receivers.map Prod.fst).map some := by
  simp only [List.map_map]
  rfl

theorem newSelection_lt {count : Nat} (h : 0 < count) (previous : Option Nat) :
    newSelection count previous < count := by
  cases previous with
  | none => exact h
  | some k =>
    rw [newSelection]
    split
    · assumption
    · exact h

theorem shown_sync {s : State} (h : Shown s) : Shown s.syncPanelDiscovery := by
  rw [State.syncPanelDiscovery]
  split
  · exact h
  · rename_i box hbox
    dsimp only
    split
    · exact h
    · split
      · rename_i hnone
        rw [hnone]
        refine ⟨fun hclosed => ?_, fun box hmem _ row hrow => ?_, fun _ _ hne => ?_,
          fun _ _ hne => ?_, List.Pairwise.nil⟩
        · cases hclosed
        · cases hmem
          exact List.mem_singleton.1 hrow
        · exact absurd rfl hne
        · exact absurd rfl hne
      · rename_i hsome
        have hpos : 0 < s.discovered.toList.length := List.length_pos_iff.2 hsome
        refine ⟨fun hclosed => ?_, fun box hmem hnil => ?_, fun box hmem _ => ?_,
          fun box hmem _ => ?_, increasing_keys s.discovered⟩
        · cases hclosed
        · exact absurd (List.map_eq_nil_iff.1 hnil) hsome
        · cases hmem
          exact rowOf_addresses _
        · cases hmem
          refine ⟨_, ?_, rfl⟩
          rw [List.length_map]
          exact newSelection_lt hpos box.cursel

theorem addSelected_frame (s : State) :
    s.addSelected.1 = { s with ctx := s.addSelected.1.ctx } := by
  rw [State.addSelected]
  split
  · rfl
  · split
    · rfl
    · split <;> rfl

/-- The tray does not matter to the box. -/
theorem Shown.other {s : State} (h : Shown s) (ctx : TrayContext) : Shown { s with ctx := ctx } :=
  ⟨h.closed, h.empty, h.rows, h.selected, h.increasing⟩

/-- Without a panel there is nothing to show. -/
theorem shown_closed (ctx : TrayContext) (discovered : Std.ExtTreeMap Bytes Bytes) :
    Shown ⟨ctx, discovered, none, []⟩ := by
  refine ⟨fun _ => rfl, fun _ hmem => ?_, fun _ hmem => ?_, fun _ hmem => ?_, List.Pairwise.nil⟩
  · cases hmem
  · cases hmem
  · cases hmem

theorem shown_step {s s' : State} {e : Event} (h : Shown s) (hstep : step s e = some s') :
    Shown s' := by
  cases e with
  | browse answers now =>
    cases hstep
    exact ⟨h.closed, h.empty, h.rows, h.selected, h.increasing⟩
  | tick =>
    cases hstep
    exact shown_sync h
  | opens =>
    rw [step] at hstep
    split at hstep
    · rename_i hclosed
      cases hstep
      refine shown_sync ⟨fun hbox => ?_, fun box hmem _ row hrow => ?_, fun box hmem hne => ?_,
        fun box hmem hne => ?_, h.increasing⟩
      · cases hbox
      · cases hmem
        cases hrow
      · exact absurd (h.closed hclosed) hne
      · exact absurd (h.closed hclosed) hne
    · cases hstep
  | closes =>
    cases hstep
    exact shown_closed s.ctx s.discovered
  | select row =>
    rw [step] at hstep
    split at hstep
    · cases hstep
    · rename_i box hbox
      split at hstep
      · rename_i hrow
        cases hstep
        refine ⟨fun hclosed => ?_, fun other hmem => ?_, fun other hmem => ?_,
          fun other hmem hne => ?_, h.increasing⟩
        · cases hclosed
        · cases hmem
          exact h.empty box hbox
        · cases hmem
          exact h.rows box hbox
        · cases hmem
          have hlength := congrArg List.length (h.rows box hbox hne)
          rw [List.length_map, List.length_map] at hlength
          exact ⟨row, hlength ▸ hrow.2, rfl⟩
      · cases hstep
  | add =>
    cases hstep
    rw [addSelected_frame]
    exact h.other _
  | other ctx =>
    cases hstep
    exact h.other ctx

theorem shown_run {ctx : TrayContext} {events : List Event} {s : State}
    (h : run step (start ctx) events = some s) : Shown s :=
  run_invariant (fun _ _ _ hs hstep => shown_step hs hstep)
    (shown_closed ctx ∅) h

/-! ### The button adds what is shown -/

theorem selectedAddress_of_shown {s : State} (h : Shown s) :
    s.selectedAddress = s.box.bind fun box => box.cursel.bind fun selected =>
      s.addresses[selected]? := by
  rw [State.selectedAddress]
  cases hbox : s.box with
  | none => rfl
  | some box =>
    rw [Option.bind_some, Option.bind_some]
    refine congrArg _ (funext fun selected => ?_)
    by_cases hnil : s.addresses = []
    · rw [hnil, List.getElem?_nil]
      cases hrow : box.rows[selected]? with
      | none => rfl
      | some row =>
        rw [h.empty box hbox hnil row (List.mem_of_getElem? hrow)]
        rfl
    · have hrows := congrArg (fun rows => rows[selected]?) (h.rows box hbox hnil)
      rw [List.getElem?_map, List.getElem?_map] at hrows
      cases hrow : box.rows[selected]? with
      | none =>
        rw [hrow] at hrows
        rw [Option.map_eq_none_iff.1 hrows.symm]
        rfl
      | some row =>
        rw [hrow] at hrows
        obtain ⟨address, haddress, hsame⟩ := Option.map_eq_some_iff.1 hrows.symm
        rw [haddress, Option.bind_some, ← hsame]

/-- **The button adds the device that is shown.**  After any events: if the selected row shows a
device, then the add button adds the device with the address in this row, under the name that it is
listed with; and if not, the button does nothing and says so. -/
theorem add_is_selected (ctx : TrayContext) (events : List Event) (s : State)
    (h : run step (start ctx) events = some s) :
    s.addSelected =
      match s.selectedAddress with
      | none => (s, false)
      | some address =>
        let details := (s.discovered[address]?).getD []
        ({ s with ctx := addSelectedDiscoveredDevice s.ctx address details }, true) := by
  have hshown := shown_run h
  rw [selectedAddress_of_shown hshown, State.addSelected]
  cases s.box with
  | none => rfl
  | some box =>
    rw [Option.bind_some]
    dsimp only
    split
    · rename_i hnil
      have hnone : (box.cursel.bind fun selected => s.addresses[selected]?) = none := by
        rw [hnil]
        cases box.cursel <;> rfl
      rw [hnone]
    · rfl

/-- An answer of a device. -/
def answer (id address : String) : DiscoveryRecord :=
  { id := ascii id, instanceName := ascii id, address := ascii address, ttlSeconds := 120 }

theorem add_is_selected_one :
    ∃ s, run step (start {}) [.browse [answer "B" "10.0.0.2"] 1, .opens] = some s ∧
      s.selectedAddress = some (ascii "10.0.0.2") ∧
      s.addSelected =
        match s.selectedAddress with
        | none => (s, false)
        | some address =>
          ({ s with ctx :=
            addSelectedDiscoveredDevice s.ctx address ((s.discovered[address]?).getD []) },
            true) := by
  have hselected : (run step (start {}) [.browse [answer "B" "10.0.0.2"] 1, .opens]).map
      State.selectedAddress = some (some (ascii "10.0.0.2")) := by decide +kernel
  obtain ⟨s, hs, haddress⟩ := Option.map_eq_some_iff.1 hselected
  exact ⟨s, hs, haddress, add_is_selected {} _ s hs⟩

/-! ### What a new list does to the selection -/

/-- How many of some addresses sort in front of one. -/
def before (addresses : List Bytes) (address : Bytes) : Nat :=
  addresses.countP fun other => compare other address == .lt

/-- Nothing sorts in front of the first address. -/
theorem before_first {first : Bytes} {rest : List Bytes} (h : Increasing (first :: rest)) :
    before (first :: rest) first = 0 := by
  rw [before, List.countP_eq_zero]
  intro other hmem
  obtain rfl | hmem := List.mem_cons.1 hmem
  · simp
  · rw [Std.OrientedCmp.gt_of_lt ((List.pairwise_cons.1 h).1 other hmem)]
    decide

/-- The position of an address in a list in order. -/
theorem getElem?_increasing {addresses : List Bytes} (h : Increasing addresses) {k : Nat}
    {address : Bytes} :
    addresses[k]? = some address ↔ address ∈ addresses ∧ before addresses address = k := by
  induction addresses generalizing k with
  | nil => simp
  | cons first rest ih =>
    have hbefore : ∀ other ∈ rest, before (first :: rest) other = before rest other + 1 := by
      intro other hmem
      rw [before, List.countP_cons_of_pos (by rw [(List.pairwise_cons.1 h).1 other hmem]; rfl)]
      rfl
    cases k with
    | zero =>
      rw [List.getElem?_cons_zero, Option.some.injEq]
      constructor
      · rintro rfl
        exact ⟨List.mem_cons_self, before_first h⟩
      · rintro ⟨hmem, hzero⟩
        obtain rfl | hmem := List.mem_cons.1 hmem
        · rfl
        · rw [hbefore address hmem] at hzero
          cases hzero
    | succ k =>
      rw [List.getElem?_cons_succ, ih (List.pairwise_cons.1 h).2]
      constructor
      · rintro ⟨hmem, hcount⟩
        exact ⟨List.mem_cons_of_mem first hmem, by rw [hbefore address hmem, hcount]⟩
      · rintro ⟨hmem, hcount⟩
        obtain rfl | hmem := List.mem_cons.1 hmem
        · rw [before_first h] at hcount
          cases hcount
        · rw [hbefore address hmem] at hcount
          exact ⟨hmem, Nat.succ.inj hcount⟩

theorem before_lt {addresses : List Bytes} (h : Increasing addresses) {address : Bytes}
    (hmem : address ∈ addresses) : before addresses address < addresses.length :=
  (List.getElem?_eq_some_iff.1 ((getElem?_increasing h).2 ⟨hmem, rfl⟩)).1

/-- The selection of a box with new rows, for one whose old selection is at `k`. -/
theorem newSelection_eq_iff {count k j : Nat} (hj : j < count) :
    newSelection count (some k) = j ↔ j = k ∨ j = 0 ∧ count ≤ k := by
  rw [newSelection]
  split <;> omega

/-- **When the selection stays on its device.**  After any events the panel is synchronised with a
list of discovered devices.  The device that was selected is selected still exactly if it is listed,
and behind as many addresses as before, or in front of all of them with the list ending before the
old position. -/
theorem sync_keeps_selected_iff (ctx : TrayContext) (events : List Event) {s : State}
    (h : run step (start ctx) events = some s) {address : Bytes}
    (hselected : s.selectedAddress = some address) :
    s.syncPanelDiscovery.selectedAddress = some address ↔
      address ∈ s.discovered.toList.map Prod.fst ∧
        (before (s.discovered.toList.map Prod.fst) address = before s.addresses address ∨
          before (s.discovered.toList.map Prod.fst) address = 0 ∧
            s.discovered.toList.length ≤ before s.addresses address) := by
  have hshown := shown_run h
  have hnew := increasing_keys s.discovered
  rw [selectedAddress_of_shown (shown_sync hshown)]
  rw [selectedAddress_of_shown hshown] at hselected
  obtain ⟨box, hbox, hcursel⟩ := Option.bind_eq_some_iff.1 hselected
  obtain ⟨k, hk, hat⟩ := Option.bind_eq_some_iff.1 hcursel
  obtain ⟨hmem, hold⟩ := (getElem?_increasing hshown.increasing).1 hat
  rw [State.syncPanelDiscovery, hbox]
  dsimp only
  by_cases hsame : s.discovered.toList.map Prod.fst = s.addresses
  · rw [if_pos hsame, hsame]
    exact ⟨fun _ => ⟨hmem, .inl rfl⟩, fun _ => hselected⟩
  · rw [if_neg hsame]
    by_cases hnil : s.discovered.toList = []
    · rw [if_pos hnil, hnil]
      simp
    · rw [if_neg hnil]
      dsimp only [Option.bind_some]
      rw [hk, getElem?_increasing hnew, hold]
      refine and_congr_right fun hlisted => ?_
      have hlt := before_lt hnew hlisted
      rw [List.length_map] at hlt
      rw [eq_comm, newSelection_eq_iff hlt]

/-- Another device is discovered in front of the selected one, and is selected from then on. -/
theorem sync_keeps_selected_iff_moved :
    let events : List Event := [.browse [answer "B" "10.0.0.2"] 1, .opens,
      .browse [answer "A" "10.0.0.1"] 2]
    ∃ s, run step (start {}) events = some s ∧ s.selectedAddress = some (ascii "10.0.0.2") ∧
      s.syncPanelDiscovery.selectedAddress = some (ascii "10.0.0.1") ∧
      (s.syncPanelDiscovery.selectedAddress = some (ascii "10.0.0.2") ↔
        ascii "10.0.0.2" ∈ s.discovered.toList.map Prod.fst ∧
          (before (s.discovered.toList.map Prod.fst) (ascii "10.0.0.2") =
              before s.addresses (ascii "10.0.0.2") ∨
            before (s.discovered.toList.map Prod.fst) (ascii "10.0.0.2") = 0 ∧
              s.discovered.toList.length ≤ before s.addresses (ascii "10.0.0.2"))) := by
  intro events
  have hselected : (run step (start {}) events).map
      (fun s => (s.selectedAddress, s.syncPanelDiscovery.selectedAddress)) =
        some (some (ascii "10.0.0.2"), some (ascii "10.0.0.1")) := by decide +kernel
  obtain ⟨s, hs, haddresses⟩ := Option.map_eq_some_iff.1 hselected
  obtain ⟨hold, hnew⟩ := Prod.mk.inj haddresses
  exact ⟨s, hs, hold, hnew, sync_keeps_selected_iff {} events hs hold⟩

end SecondDisplay.PanelDiscovery
