import SecondDisplay.App.Config
import Mathlib.Data.List.Nodup

/-!
# The device coordinator (`app/DeviceCoordinator.cpp`)

A state machine over device indices.  It holds the order in which startup tries the devices and
the target of a switch that the user has asked for.
-/

namespace SecondDisplay

/-- `AutoConnectState`. -/
inductive AutoConnectState where
  | idle | trying | waitingNext | streaming | userSwitching | exhausted | blocked
  deriving DecidableEq, Repr

/-- `DeviceFailureClass`. -/
inductive DeviceFailureClass where
  | device | global
  deriving DecidableEq, Repr

/-- `DeviceCoordinator`. -/
structure DeviceCoordinator where
  state : AutoConnectState := .idle
  order : List Nat := []
  position : Nat := 0
  switchTarget : Option Nat := none
  streamingDeviceId : Bytes := []
  deriving DecidableEq

namespace DeviceCoordinator

/-- `Reset`. -/
def reset : DeviceCoordinator := {}

/-- The first loop of `Begin`: the preferred device. -/
def preferredOrder (devices : List DeviceConfig) (preferredDeviceId : Bytes) : List Nat :=
  if preferredDeviceId = [] then []
  else devices.zipIdx.filterMap fun (device, i) =>
    if device.autoConnect ∧ device.id = preferredDeviceId then some i else none

/-- The second loop of `Begin`: every device that is not in the order yet. -/
def appendOthers (devices : List DeviceConfig) (order : List Nat) : List Nat :=
  devices.zipIdx.foldl
    (fun order (device, i) => if device.autoConnect ∧ i ∉ order then order ++ [i] else order) order

/-- `Begin`, with the candidate it returns. -/
def begin (devices : List DeviceConfig) (preferredDeviceId : Bytes) :
    DeviceCoordinator × Option Nat :=
  match appendOthers devices (preferredOrder devices preferredDeviceId) with
  | [] => ({ reset with state := .exhausted }, none)
  | first :: rest => ({ reset with order := first :: rest, state := .trying }, some first)

/-- `ReportFailure`, with the candidate it returns. -/
def reportFailure (flow : DeviceCoordinator) (failureClass : DeviceFailureClass) :
    DeviceCoordinator × Option Nat :=
  if failureClass = .global then ({ flow with state := .blocked }, none)
  else if flow.order.length ≤ flow.position + 1 then ({ flow with state := .exhausted }, none)
  else
    ({ flow with position := flow.position + 1, state := .waitingNext },
      flow.order[flow.position + 1]?)

/-- `ReportStreaming`. -/
def reportStreaming (flow : DeviceCoordinator) (deviceId : Bytes) : DeviceCoordinator :=
  { flow with state := .streaming, streamingDeviceId := deviceId }

/-- The test on which `RequestSwitch` returns false: the target is the one already asked for. -/
def refusesSwitch (flow : DeviceCoordinator) (index : Nat) : Bool :=
  decide (flow.state = .userSwitching) && decide (flow.switchTarget = some index)

/-- `RequestSwitch`, with what it returns. -/
def requestSwitch (flow : DeviceCoordinator) (index : Nat) : DeviceCoordinator × Bool :=
  if flow.refusesSwitch index then (flow, false)
  else ({ flow with switchTarget := some index, state := .userSwitching }, true)

/-- `CompleteSwitch`. -/
def completeSwitch (flow : DeviceCoordinator) (streaming : Bool) : DeviceCoordinator :=
  { flow with state := if streaming then .streaming else .trying, switchTarget := none }

/-- `Current`. -/
def current (flow : DeviceCoordinator) : Option Nat :=
  if flow.state = .userSwitching then flow.switchTarget
  else if flow.position < flow.order.length then flow.order[flow.position]? else none

/-- `NextCandidate`. -/
def nextCandidate (flow : DeviceCoordinator) : Option Nat :=
  if flow.position + 1 < flow.order.length then flow.order[flow.position + 1]? else none

/-- A switch is only refused while the coordinator is in `UserSwitching`. -/
theorem state_of_refusesSwitch {flow : DeviceCoordinator} {index : Nat}
    (h : flow.refusesSwitch index = true) : flow.state = .userSwitching := by
  simp only [refusesSwitch, Bool.and_eq_true, decide_eq_true_eq] at h
  exact h.1

theorem requestSwitch_snd (flow : DeviceCoordinator) (index : Nat) :
    (flow.requestSwitch index).2 = !flow.refusesSwitch index := by
  rw [requestSwitch]
  cases flow.refusesSwitch index <;> rfl

/-- Completing a switch leaves `UserSwitching`. -/
theorem completeSwitch_state (flow : DeviceCoordinator) (streaming : Bool) :
    (flow.completeSwitch streaming).state ≠ .userSwitching := by
  cases streaming <;> simp [completeSwitch]

/-! ### The order -/

/-- The devices of a configuration that startup may connect to. -/
def Connectable (devices : List DeviceConfig) (i : Nat) : Prop :=
  ∃ device, devices[i]? = some device ∧ device.autoConnect = true

/-- The positions of some devices, in the order of the list. -/
theorem positions_sublist (p : DeviceConfig × Nat → Prop) [DecidablePred p]
    (entries : List (DeviceConfig × Nat)) :
    (entries.filterMap fun entry => if p entry then some entry.2 else none).Sublist
      (entries.map Prod.snd) := by
  induction entries with
  | nil => exact .slnil
  | cons entry entries ih =>
    rw [List.filterMap_cons, List.map_cons]
    by_cases hp : p entry
    · rw [if_pos hp]
      exact ih.cons_cons _
    · rw [if_neg hp]
      exact ih.cons _

/-- They ascend. -/
theorem positions_pairwise (devices : List DeviceConfig) (p : DeviceConfig × Nat → Prop)
    [DecidablePred p] :
    (devices.zipIdx.filterMap fun entry => if p entry then some entry.2 else none).Pairwise
      (· < ·) := by
  refine List.Pairwise.sublist (positions_sublist p devices.zipIdx) ?_
  rw [List.zipIdx_map_snd]
  exact List.pairwise_lt_range'

/-- The positions of the preferred devices ascend. -/
theorem preferredOrder_pairwise (devices : List DeviceConfig) (preferredDeviceId : Bytes) :
    (preferredOrder devices preferredDeviceId).Pairwise (· < ·) := by
  rw [preferredOrder]
  split
  · exact .nil
  · exact positions_pairwise devices fun entry =>
      entry.1.autoConnect = true ∧ entry.1.id = preferredDeviceId

theorem preferredOrder_nodup (devices : List DeviceConfig) (preferredDeviceId : Bytes) :
    (preferredOrder devices preferredDeviceId).Nodup :=
  (preferredOrder_pairwise devices preferredDeviceId).imp fun h => Nat.ne_of_lt h

theorem mem_preferredOrder {devices : List DeviceConfig} {preferredDeviceId : Bytes} {i : Nat}
    (h : i ∈ preferredOrder devices preferredDeviceId) : Connectable devices i := by
  rw [preferredOrder] at h
  split at h
  · cases h
  · obtain ⟨⟨device, j⟩, hmem, heq⟩ := List.mem_filterMap.1 h
    dsimp only at heq
    split at heq
    · rename_i hauto
      cases heq
      exact ⟨device, List.mk_mem_zipIdx_iff_getElem?.1 hmem, hauto.1⟩
    · cases heq

/-- One round of the second loop of `Begin`. -/
theorem appendOthers_foldl {entries : List (DeviceConfig × Nat)} {order : List Nat}
    (h : order.Nodup) :
    (entries.foldl (fun order (device, i) =>
        if device.autoConnect ∧ i ∉ order then order ++ [i] else order) order).Nodup ∧
      ∀ i, i ∈ entries.foldl (fun order (device, i) =>
          if device.autoConnect ∧ i ∉ order then order ++ [i] else order) order ↔
        i ∈ order ∨ ∃ device, (device, i) ∈ entries ∧ device.autoConnect = true := by
  induction entries generalizing order with
  | nil => exact ⟨h, fun i => by simp⟩
  | cons entry entries ih =>
    obtain ⟨device, j⟩ := entry
    rw [List.foldl_cons]
    by_cases hnew : device.autoConnect = true ∧ j ∉ order
    · have hnodup : (order ++ [j]).Nodup :=
        List.nodup_append.2 ⟨h, List.nodup_singleton j, fun a ha b hb heq => by
          rw [List.mem_singleton] at hb
          exact hnew.2 (hb ▸ heq ▸ ha)⟩
      obtain ⟨hrest, hmem⟩ := ih hnodup
      simp only [if_pos hnew]
      refine ⟨hrest, fun i => ?_⟩
      rw [hmem i, List.mem_append, List.mem_singleton]
      constructor
      · rintro ((hold | rfl) | ⟨d, hd, hauto⟩)
        · exact .inl hold
        · exact .inr ⟨device, List.mem_cons_self, hnew.1⟩
        · exact .inr ⟨d, List.mem_cons_of_mem _ hd, hauto⟩
      · rintro (hold | ⟨d, hd, hauto⟩)
        · exact .inl (.inl hold)
        · rcases List.mem_cons.1 hd with heq | hd
          · cases heq
            exact .inl (.inr rfl)
          · exact .inr ⟨d, hd, hauto⟩
    · obtain ⟨hrest, hmem⟩ := ih h
      simp only [if_neg hnew]
      refine ⟨hrest, fun i => ?_⟩
      rw [hmem i]
      constructor
      · rintro (hold | ⟨d, hd, hauto⟩)
        · exact .inl hold
        · exact .inr ⟨d, List.mem_cons_of_mem _ hd, hauto⟩
      · rintro (hold | ⟨d, hd, hauto⟩)
        · exact .inl hold
        · rcases List.mem_cons.1 hd with heq | hd
          · cases heq
            exact .inl (not_not.1 fun hout => hnew ⟨hauto, hout⟩)
          · exact .inr ⟨d, hd, hauto⟩

/-- The order that `Begin` installs. -/
theorem begin_order (devices : List DeviceConfig) (preferredDeviceId : Bytes) :
    (begin devices preferredDeviceId).1.order =
      appendOthers devices (preferredOrder devices preferredDeviceId) := by
  rw [begin]
  split
  · rename_i heq
    exact heq.symm
  · rename_i heq
    exact heq.symm

/-- **The order.**  `Begin` puts every device that startup may connect to into the order once. -/
theorem begin_order_spec (devices : List DeviceConfig) (preferredDeviceId : Bytes) :
    (begin devices preferredDeviceId).1.order.Nodup ∧
      ∀ i, i ∈ (begin devices preferredDeviceId).1.order ↔ Connectable devices i := by
  rw [begin_order]
  obtain ⟨hnodup, hmem⟩ := @appendOthers_foldl devices.zipIdx _
    (preferredOrder_nodup devices preferredDeviceId)
  refine ⟨hnodup, fun i => (hmem i).trans ?_⟩
  simp only [List.mk_mem_zipIdx_iff_getElem?]
  exact or_iff_right_of_imp mem_preferredOrder

end DeviceCoordinator

end SecondDisplay
