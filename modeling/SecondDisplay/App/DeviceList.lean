import SecondDisplay.App.TraySteps
import SecondDisplay.Library.Transitions
import Mathlib.Data.List.Perm.Basic

/-!
# The device list of the panel (`ControlPanelProc`)

The panel moves a configured device up by one position and removes a device.  Both handlers change
the devices and the senders together, so that they stay aligned, and number the devices again.  A
removed sender is asked to stop and waits among the retired ones until its worker has left.
-/

namespace SecondDisplay

namespace TrayContext

/-! ### The two handlers -/

/-- Every device gets its position as its priority. -/
def renumber (devices : List DeviceConfig) : List DeviceConfig :=
  devices.zipIdx.map fun (device, i) => { device with priority := UInt32.ofNat i }

/-- The device up button (`IDC_PANEL_DEVICE_UP`). -/
def moveUpDevice (ctx : TrayContext) (selected : Nat) : TrayContext :=
  if 0 < selected ∧ selected < ctx.cfg.devices.length then
    { ctx with
      apps := ctx.apps.swap selected (selected - 1)
      cfg := { ctx.cfg with devices := renumber (ctx.cfg.devices.swap selected (selected - 1)) } }
  else ctx

/-- The device remove button (`IDC_PANEL_DEVICE_REMOVE`), once the user has confirmed. -/
def removeDevice (ctx : TrayContext) (selected : Nat) : TrayContext :=
  match ctx.cfg.devices[selected]?, ctx.apps[selected]? with
  | some device, some app =>
    { ctx with
      apps := ctx.apps.eraseIdx selected
      retiredApps := ctx.retiredApps ++ [app.requestStop]
      cfg := { ctx.cfg with
        devices := renumber (ctx.cfg.devices.eraseIdx selected)
        preferredDeviceId :=
          if device.id ≠ [] ∧ ctx.cfg.preferredDeviceId = device.id then []
          else ctx.cfg.preferredDeviceId } }
  | _, _ => ctx

end TrayContext

namespace DeviceList

open TrayContext

/-! ### Events -/

/-- What happens while the user works on the device list. -/
inductive Event where
  /-- A command through `QueueDeviceCommand`. -/
  | click (command : DeviceCommand)
  /-- The device up button. -/
  | moveUp (selected : Nat)
  /-- The device remove button. -/
  | remove (selected : Nat)
  /-- The save button of the panel. -/
  | save (form : PanelForm) (saved : Bool)
  /-- A tick of the timer, as far as the queue is concerned. -/
  | tick
  /-- A worker leaves `RunLoop`. -/
  | exit (worker : Worker)

/-- One step. -/
def step (ctx : TrayContext) : Event → Option TrayContext
  | .click command => some (ctx.queueDeviceCommand command)
  | .moveUp selected => some (ctx.moveUpDevice selected)
  | .remove selected => some (ctx.removeDevice selected)
  | .save form saved => some (ctx.savePanelSettings form saved).1
  | .tick => some ctx.processDeviceCommands
  | .exit worker => ctx.workerStep worker SenderApp.finish

/-! ### The senders after a move and a removal -/

@[simp] theorem length_renumber (devices : List DeviceConfig) :
    (renumber devices).length = devices.length := by
  rw [renumber, List.length_map, List.length_zipIdx]

/-- A move only permutes the senders. -/
theorem moveUpDevice_perm (ctx : TrayContext) (selected : Nat) :
    (ctx.moveUpDevice selected).apps.Perm ctx.apps := by
  rw [moveUpDevice]
  split
  · exact List.swap_perm ..
  · exact List.Perm.refl _

/-- A move changes the devices and the senders only. -/
theorem moveUpDevice_frame (ctx : TrayContext) (selected : Nat) :
    ctx.moveUpDevice selected =
      { ctx with
        apps := (ctx.moveUpDevice selected).apps, cfg := (ctx.moveUpDevice selected).cfg } := by
  rw [moveUpDevice]
  split <;> rfl

/-- A removal takes a sender from the configured ones and asks it to stop, or does nothing. -/
theorem removeDevice_cases (ctx : TrayContext) (selected : Nat) :
    ctx.removeDevice selected = ctx ∨
      ∃ app cfg, ctx.apps[selected]? = some app ∧
        cfg.devices.length + 1 = ctx.cfg.devices.length ∧
        ctx.removeDevice selected =
          { ctx with
            apps := ctx.apps.eraseIdx selected
            retiredApps := ctx.retiredApps ++ [app.requestStop]
            cfg := cfg } := by
  rw [removeDevice]
  split
  · rename_i device app hdevice happ
    refine .inr ⟨app, _, happ, ?_, rfl⟩
    have hlt := (List.getElem?_eq_some_iff.1 hdevice).1
    rw [length_renumber, List.length_eraseIdx_of_lt hlt]
    omega
  · exact .inl rfl

end DeviceList

end SecondDisplay
