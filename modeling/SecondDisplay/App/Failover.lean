import SecondDisplay.App.DeviceCoordinator
import SecondDisplay.Library.Transitions

/-!
# Failover (`app/DeviceCoordinator.cpp`)

`Begin` puts the preferred devices in front of the others, and every failure of a device leads to
the next one of the order, until none is left (`failover_order`).  Whatever is called, the position
stays inside the order, so that `Current` is a device of it.
-/

namespace SecondDisplay

namespace DeviceCoordinator

/-! ### The order of `Begin` -/

/-- The device at a position is the preferred one. -/
def Preferred (devices : List DeviceConfig) (preferredDeviceId : Bytes) (i : Nat) : Prop :=
  preferredDeviceId ≠ [] ∧ ∃ device, devices[i]? = some device ∧ device.id = preferredDeviceId

theorem mem_preferredOrder_iff (devices : List DeviceConfig) (preferredDeviceId : Bytes)
    (i : Nat) : i ∈ preferredOrder devices preferredDeviceId ↔
      Connectable devices i ∧ Preferred devices preferredDeviceId i := by
  rw [preferredOrder]
  by_cases hempty : preferredDeviceId = []
  · rw [if_pos hempty]
    simp [Preferred, hempty]
  · rw [if_neg hempty, List.mem_filterMap]
    constructor
    · rintro ⟨⟨device, j⟩, hmem, heq⟩
      have hdevice := List.mk_mem_zipIdx_iff_getElem?.1 hmem
      dsimp only at heq
      split at heq
      · rename_i hboth
        cases heq
        exact ⟨⟨device, hdevice, hboth.1⟩, hempty, device, hdevice, hboth.2⟩
      · cases heq
    · rintro ⟨⟨device, hdevice, hauto⟩, -, other, hother, hid⟩
      rw [hdevice, Option.some.injEq] at hother
      subst hother
      exact ⟨(device, i), List.mk_mem_zipIdx_iff_getElem?.2 hdevice, if_pos ⟨hauto, hid⟩⟩

/-- The second loop of `Begin` adds, in the order of the list, what was not there before it. -/
theorem appendOthers_eq {entries : List (DeviceConfig × Nat)} (order : List Nat)
    (h : (entries.map Prod.snd).Nodup) :
    entries.foldl (fun order (device, i) =>
        if device.autoConnect ∧ i ∉ order then order ++ [i] else order) order =
      order ++ entries.filterMap fun entry =>
        if entry.1.autoConnect = true ∧ entry.2 ∉ order then some entry.2 else none := by
  induction entries generalizing order with
  | nil => exact (List.append_nil order).symm
  | cons entry entries ih =>
    obtain ⟨device, j⟩ := entry
    rw [List.map_cons, List.nodup_cons] at h
    rw [List.foldl_cons, List.filterMap_cons]
    dsimp only
    by_cases hnew : device.autoConnect = true ∧ j ∉ order
    · rw [if_pos hnew, if_pos hnew, ih _ h.2, List.append_assoc]
      -- a later position is another one than the one just added
      have hsame : ∀ entry ∈ entries,
          (if entry.1.autoConnect = true ∧ entry.2 ∉ order ++ [j] then some entry.2 else none) =
            if entry.1.autoConnect = true ∧ entry.2 ∉ order then some entry.2 else none := by
        intro entry hentry
        have hne : entry.2 ≠ j := by
          rintro rfl
          exact h.1 (List.mem_map.2 ⟨entry, hentry, rfl⟩)
        simp [hne]
      rw [List.filterMap_congr hsame]
      rfl
    · rw [if_neg hnew, if_neg hnew, ih _ h.2]

/-- The devices that `Begin` tries after the preferred ones. -/
def others (devices : List DeviceConfig) (order : List Nat) : List Nat :=
  devices.zipIdx.filterMap fun entry =>
    if entry.1.autoConnect = true ∧ entry.2 ∉ order then some entry.2 else none

theorem begin_order_eq (devices : List DeviceConfig) (preferredDeviceId : Bytes) :
    (begin devices preferredDeviceId).1.order =
      preferredOrder devices preferredDeviceId ++
        others devices (preferredOrder devices preferredDeviceId) := by
  rw [begin_order, appendOthers, appendOthers_eq _ (by
    rw [List.zipIdx_map_snd]
    exact List.nodup_range'), others]

theorem mem_others_iff (devices : List DeviceConfig) (preferredDeviceId : Bytes) (i : Nat) :
    i ∈ others devices (preferredOrder devices preferredDeviceId) ↔
      Connectable devices i ∧ ¬Preferred devices preferredDeviceId i := by
  rw [others, List.mem_filterMap]
  constructor
  · rintro ⟨⟨device, j⟩, hmem, heq⟩
    dsimp only at heq
    split at heq
    · rename_i hboth
      cases heq
      have hconnectable : Connectable devices i :=
        ⟨device, List.mk_mem_zipIdx_iff_getElem?.1 hmem, hboth.1⟩
      exact ⟨hconnectable, fun hpreferred =>
        hboth.2 ((mem_preferredOrder_iff ..).2 ⟨hconnectable, hpreferred⟩)⟩
    · cases heq
  · rintro ⟨⟨device, hdevice, hauto⟩, hnot⟩
    refine ⟨(device, i), List.mk_mem_zipIdx_iff_getElem?.2 hdevice, if_pos ⟨hauto, fun hmem => ?_⟩⟩
    exact hnot ((mem_preferredOrder_iff ..).1 hmem).2

theorem others_pairwise (devices : List DeviceConfig) (order : List Nat) :
    (others devices order).Pairwise (· < ·) :=
  positions_pairwise devices fun entry => entry.1.autoConnect = true ∧ entry.2 ∉ order

/-- The candidate that `Begin` returns is the first of the order. -/
theorem begin_snd (devices : List DeviceConfig) (preferredDeviceId : Bytes) :
    (begin devices preferredDeviceId).2 = (begin devices preferredDeviceId).1.order.head? := by
  rw [begin]
  split
  · rfl
  · rfl

/-! ### Failures -/

/-- The failures of devices, one after the other, with the candidates they lead to. -/
def failures : Nat → DeviceCoordinator → DeviceCoordinator × List (Option Nat)
  | 0, flow => (flow, [])
  | n + 1, flow =>
    let (next, candidate) := flow.reportFailure .device
    let (last, candidates) := failures n next
    (last, candidate :: candidates)

/-- Failures lead through what is left of the order, and then to nothing. -/
theorem failures_snd (n : Nat) (flow : DeviceCoordinator) :
    (failures n flow).2 =
      ((flow.order.drop (flow.position + 1)).map some ++ List.replicate n none).take n := by
  induction n generalizing flow with
  | zero => rfl
  | succ n ih =>
    rw [failures]
    dsimp only
    rw [ih, reportFailure, if_neg (by decide)]
    by_cases hlast : flow.order.length ≤ flow.position + 1
    · rw [if_pos hlast, List.drop_eq_nil_of_le hlast, List.map_nil, List.nil_append,
        List.nil_append, List.replicate_succ, List.take_succ_cons]
    · have hlt := Nat.lt_of_not_le hlast
      rw [if_neg hlast]
      dsimp only
      rw [List.drop_eq_getElem_cons hlt, List.getElem?_eq_getElem hlt, List.map_cons,
        List.cons_append, List.take_succ_cons]
      congr 1
      rw [List.replicate_succ', ← List.append_assoc]
      refine (List.take_append_of_le_length ?_).symm
      rw [List.length_append, List.length_replicate]
      omega

/-- After the last device of the order has failed, the state is `Exhausted`. -/
theorem failures_state {n : Nat} {flow : DeviceCoordinator} (hn : 0 < n)
    (hlast : flow.order.length ≤ flow.position + n) : (failures n flow).1.state = .exhausted := by
  induction n generalizing flow with
  | zero => exact absurd hn (Nat.lt_irrefl 0)
  | succ n ih =>
    rw [failures]
    dsimp only
    cases n with
    | zero =>
      rw [failures, reportFailure, if_neg (by decide), if_pos (by omega)]
    | succ n =>
      refine ih (Nat.succ_pos n) ?_
      rw [reportFailure, if_neg (by decide)]
      by_cases hnow : flow.order.length ≤ flow.position + 1
      · rw [if_pos hnow]
        show flow.order.length ≤ flow.position + (n + 1)
        omega
      · rw [if_neg hnow]
        show flow.order.length ≤ flow.position + 1 + (n + 1)
        omega

/-! ### Every run -/

/-- A call of the coordinator. -/
inductive Call where
  /-- `Begin`. -/
  | begin (devices : List DeviceConfig) (preferredDeviceId : Bytes)
  /-- `ReportFailure`. -/
  | reportFailure (failureClass : DeviceFailureClass)
  /-- `ReportStreaming`. -/
  | reportStreaming (deviceId : Bytes)
  /-- `RequestSwitch`. -/
  | requestSwitch (index : Nat)
  /-- `CompleteSwitch`. -/
  | completeSwitch (streaming : Bool)
  /-- `Reset`. -/
  | reset

/-- What a call makes of the coordinator. -/
def Call.apply (flow : DeviceCoordinator) : Call → DeviceCoordinator
  | .begin devices preferredDeviceId => (DeviceCoordinator.begin devices preferredDeviceId).1
  | .reportFailure failureClass => (flow.reportFailure failureClass).1
  | .reportStreaming deviceId => flow.reportStreaming deviceId
  | .requestSwitch index => (flow.requestSwitch index).1
  | .completeSwitch streaming => flow.completeSwitch streaming
  | .reset => DeviceCoordinator.reset

/-- Every call can be made in every state. -/
def Call.step (flow : DeviceCoordinator) (call : Call) : Option DeviceCoordinator :=
  some (call.apply flow)

/-- The position is inside the order, if there is one. -/
def InOrder (flow : DeviceCoordinator) : Prop :=
  flow.order = [] ∨ flow.position < flow.order.length

theorem inOrder_begin (devices : List DeviceConfig) (preferredDeviceId : Bytes) :
    InOrder (begin devices preferredDeviceId).1 := by
  rw [begin]
  split
  · exact .inl rfl
  · exact .inr (Nat.succ_pos _)

/-- **Every call keeps the position inside the order.** -/
theorem InOrder.apply {flow : DeviceCoordinator} (h : InOrder flow) (call : Call) :
    InOrder (call.apply flow) := by
  cases call with
  | begin devices preferredDeviceId => exact inOrder_begin devices preferredDeviceId
  | reportFailure failureClass =>
    show InOrder (flow.reportFailure failureClass).1
    rw [DeviceCoordinator.reportFailure]
    split
    · exact h
    · split
      · exact h
      · rename_i hlast
        exact .inr (Nat.lt_of_not_le hlast)
  | reportStreaming deviceId => exact h
  | requestSwitch index =>
    show InOrder (flow.requestSwitch index).1
    rw [DeviceCoordinator.requestSwitch]
    split
    · exact h
    · exact h
  | completeSwitch streaming => exact h
  | reset => exact .inl rfl

/-- The position stays inside the order along every run. -/
theorem inOrder_run {calls : List Call} {flow : DeviceCoordinator}
    (h : Transitions.run Call.step {} calls = some flow) : InOrder flow := by
  refine Transitions.run_invariant (P := InOrder) (fun s call s' hs hstep => ?_) (.inl rfl) h
  rw [← Option.some.inj hstep]
  exact hs.apply call

/-- Outside `UserSwitching`, the current device is one of the order, or there is no order. -/
theorem current_of_inOrder {flow : DeviceCoordinator} (h : InOrder flow)
    (hstate : flow.state ≠ .userSwitching) :
    (∃ i ∈ flow.order, flow.current = some i) ∨ flow.order = [] ∧ flow.current = none := by
  rw [current, if_neg hstate]
  obtain hempty | hlt := h
  · rw [hempty]
    exact .inr ⟨rfl, rfl⟩
  · rw [if_pos hlt, List.getElem?_eq_getElem hlt]
    exact .inl ⟨_, List.getElem_mem hlt, rfl⟩

/-- **Failover.**  `Begin` orders the devices that startup may connect to, each once, the preferred
ones in front of the others and both in the order of the list, and returns the first; failures of
devices then lead through the rest of the order, and after it to nothing, with the state `Exhausted`
for ever.  Outside `UserSwitching`, `Current` is a device of the order in every state that any calls
lead to, or absent when the order is empty. -/
theorem failover_order :
    (∀ (devices : List DeviceConfig) (preferredDeviceId : Bytes),
      let flow := (begin devices preferredDeviceId).1
      (∃ chosen rest, flow.order = chosen ++ rest ∧ chosen.Pairwise (· < ·) ∧
        rest.Pairwise (· < ·) ∧
        (∀ i, i ∈ chosen ↔ Connectable devices i ∧ Preferred devices preferredDeviceId i) ∧
        ∀ i, i ∈ rest ↔ Connectable devices i ∧ ¬Preferred devices preferredDeviceId i) ∧
      flow.order.Nodup ∧ (∀ i, i ∈ flow.order ↔ Connectable devices i) ∧
      (begin devices preferredDeviceId).2 = flow.order.head? ∧
      ∀ n, (failures n flow).2 = (flow.order.tail.map some ++ List.replicate n none).take n ∧
        (flow.order.length ≤ n → (failures n flow).1.state = .exhausted)) ∧
    ∀ (calls : List Call) (flow : DeviceCoordinator),
      Transitions.run Call.step {} calls = some flow → flow.state ≠ .userSwitching →
      (∃ i ∈ flow.order, flow.current = some i) ∨ flow.order = [] ∧ flow.current = none := by
  refine ⟨fun devices preferredDeviceId => ?_, fun calls flow hrun hstate =>
    current_of_inOrder (inOrder_run hrun) hstate⟩
  obtain ⟨hnodup, hmem⟩ := begin_order_spec devices preferredDeviceId
  have hposition : (begin devices preferredDeviceId).1.position = 0 := by
    rw [begin]
    split
    · rfl
    · rfl
  refine ⟨⟨_, _, begin_order_eq devices preferredDeviceId, preferredOrder_pairwise ..,
    others_pairwise .., mem_preferredOrder_iff devices preferredDeviceId,
    mem_others_iff devices preferredDeviceId⟩, hnodup, hmem, begin_snd devices preferredDeviceId,
    fun n => ⟨?_, fun hlast => ?_⟩⟩
  · rw [failures_snd, hposition, Nat.zero_add, List.drop_one]
  · cases n with
    | zero =>
      have hempty : (begin devices preferredDeviceId).1.order = [] :=
        List.length_eq_zero_iff.1 (Nat.le_zero.1 hlast)
      show (begin devices preferredDeviceId).1.state = .exhausted
      rw [begin] at hempty ⊢
      split
      · rfl
      · rename_i hcons
        rw [hcons] at hempty
        cases hempty
    | succ n =>
      refine failures_state (Nat.succ_pos n) ?_
      rw [hposition, Nat.zero_add]
      exact hlast

end DeviceCoordinator

end SecondDisplay
