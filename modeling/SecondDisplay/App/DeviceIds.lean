import SecondDisplay.App.ConfigRoundTrip
import SecondDisplay.App.DeviceList
import SecondDisplay.App.UneditedSave

/-!
# The ids of the configured devices (`app/TrayApp.cpp`)

The configuration drops a device that repeats an id when it is loaded (`uniqueDevices`), so the ids
must stay distinct while the tray changes the devices: it adds what it has discovered, learns the id
of a device that streams, saves the panel, moves a device up and removes one.  Only learning can
bring an id in twice, when another entry has it already (`ids_stay_unique_iff`).
-/

namespace SecondDisplay

namespace TrayContext

/-- The device that `AddSelectedDiscoveredDevice` finds under an address: its id, its host and its
port. -/
def discoveredAt (ctx : TrayContext) (address : Bytes) : Bytes × Bytes × UInt16 :=
  match ctx.discoveryCache.find? fun record => decide (record.address = address) with
  | some record => (record.id, record.host, if record.port ≠ 0 then record.port else ctx.cfg.port)
  | none => ([], [], ctx.cfg.port)

/-- `AddSelectedDiscoveredDevice`, with the address that is selected and its name in
`discovered`. -/
def addSelectedDiscoveredDevice (ctx : TrayContext) (address name : Bytes) : TrayContext :=
  if ctx.cfg.devices.any fun entry => decide (splitDeviceAddress entry = address) then ctx
  else
    let (id, host, port) := ctx.discoveredAt address
    match ctx.cfg.devices.findIdx? fun device => decide (id ≠ []) && decide (device.id = id) with
    | some i =>
      { ctx with cfg := { ctx.cfg with
        devices := ctx.cfg.devices.modify i fun stable =>
          { stable with
            lastIpv4 := address
            bonjourHost := host
            port := port
            name := if name ≠ [] then name else stable.name } } }
    | none =>
      { ctx with
        cfg := { ctx.cfg with
          devices := ctx.cfg.devices ++
            [{ id := id
               name := if name = [] then address else name
               lastIpv4 := address
               bonjourHost := host
               port := port
               priority := UInt32.ofNat ctx.cfg.devices.length }] }
        apps := ctx.apps ++ [{ object := ctx.nextObject }]
        nextObject := ctx.nextObject + 1 }

end TrayContext

namespace DeviceIds

open TrayContext hiding Event step
open Config (uniqueDevices isDuplicate)

/-! ### Events -/

/-- What happens to the devices, and what happens around them. -/
inductive Event where
  /-- The add button of the panel. -/
  | add (address name : Bytes)
  /-- `RememberSuccessfulTransport`. -/
  | remember (outside : Outside)
  /-- The save button of the panel, with what its boxes hold. -/
  | save (conversion : TextConversion) (text : List UInt16) (port fps bitrateMbps : Option Nat)
      (autoReconnect requirePrivateNetwork saved : Bool)
  /-- The device up button. -/
  | moveUp (selected : Nat)
  /-- The device remove button. -/
  | remove (selected : Nat)
  /-- The background browse has merged its answers into the cache. -/
  | discovered (records : List DiscoveryRecord)
  /-- The senders change in any other way. -/
  | senders (apps : List SenderApp) (usbApp : Option SenderApp)

/-- One step. -/
def step (ctx : TrayContext) : Event → Option TrayContext
  | .add address name => some (ctx.addSelectedDiscoveredDevice address name)
  | .remember outside => some (ctx.rememberSuccessfulTransport outside)
  | .save conversion text port fps bitrateMbps autoReconnect requirePrivateNetwork saved =>
    some (ctx.savePanelSettings (panelForm conversion text port fps bitrateMbps autoReconnect
      requirePrivateNetwork) saved).1
  | .moveUp selected => some (ctx.moveUpDevice selected)
  | .remove selected => some (ctx.removeDevice selected)
  | .discovered records => some { ctx with discoveryCache := records }
  | .senders apps usbApp => some { ctx with apps := apps, usbApp := usbApp }

/-! ### Distinct ids -/

/-- The ids of the devices that have one. -/
def ids (devices : List DeviceConfig) : List Bytes :=
  (devices.map DeviceConfig.id).filter fun id => decide (id ≠ [])

/-- No two devices share an id. -/
def UniqueIds (devices : List DeviceConfig) : Prop := (ids devices).Nodup

theorem ids_append (devices devices' : List DeviceConfig) :
    ids (devices ++ devices') = ids devices ++ ids devices' := by
  rw [ids, List.map_append, List.filter_append]
  rfl

theorem mem_ids {devices : List DeviceConfig} {id : Bytes} :
    id ∈ ids devices ↔ id ≠ [] ∧ ∃ device ∈ devices, device.id = id := by
  rw [ids, List.mem_filter, List.mem_map, decide_eq_true_eq, and_comm]

theorem UniqueIds.perm {devices devices' : List DeviceConfig} (h : UniqueIds devices)
    (hperm : devices'.Perm devices) : UniqueIds devices' :=
  ((hperm.map DeviceConfig.id).filter _).nodup_iff.2 h

/-- Of the devices before one with an id, none has the same. -/
theorem UniqueIds.before {before after : List DeviceConfig} {device : DeviceConfig}
    (h : UniqueIds (before ++ device :: after)) (hid : device.id ≠ []) :
    ∀ other ∈ before, other.id ≠ device.id := by
  intro other hother hsame
  rw [UniqueIds, ids_append, List.nodup_append] at h
  have hleft : device.id ∈ ids before := mem_ids.2 ⟨hid, other, hother, hsame⟩
  have hright : device.id ∈ ids (device :: after) :=
    mem_ids.2 ⟨hid, device, List.mem_cons_self, rfl⟩
  exact h.2.2 _ hleft _ hright rfl

/-- The devices with an id that the de-duplication of a load keeps. -/
def KeptByLoad (devices : List DeviceConfig) : Prop :=
  ∀ loaded : List DeviceConfig, loaded.Perm devices →
    ∀ device ∈ loaded, device.id ≠ [] → device ∈ uniqueDevices loaded

/-- **Distinct ids survive the next load**, in whatever order it sorts the devices. -/
theorem UniqueIds.keptByLoad {devices : List DeviceConfig} (h : UniqueIds devices) :
    KeptByLoad devices := by
  intro loaded hperm device hmem hid
  obtain ⟨before, after, rfl⟩ := List.append_of_mem hmem
  have hbefore := (h.perm hperm).before hid
  rw [Config.uniqueDevices_keepFirst]
  refine KeepFirst.mem_keepFirst_of_before fun other hother => ?_
  have hne : (device.id == other.id) = false :=
    beq_eq_false_iff_ne.2 fun hsame => hbefore other hother hsame.symm
  rw [isDuplicate, hne, Bool.and_false, Bool.false_or, decide_eq_false hid]
  rfl

/-! ### Operations that keep the ids distinct -/

/-- Changes of other fields leave the ids. -/
theorem ids_of_map_eq {devices devices' : List DeviceConfig}
    (h : devices'.map DeviceConfig.id = devices.map DeviceConfig.id) :
    ids devices' = ids devices := by
  rw [ids, ids, h]

theorem map_id_renumber (devices : List DeviceConfig) :
    (renumber devices).map DeviceConfig.id = devices.map DeviceConfig.id := by
  apply List.ext_getElem?
  intro i
  rw [renumber, List.map_map, List.getElem?_map, List.getElem?_map, List.getElem?_zipIdx]
  cases devices[i]? with
  | none => rfl
  | some device => rfl

theorem unique_moveUp {ctx : TrayContext} (h : UniqueIds ctx.cfg.devices) (selected : Nat) :
    UniqueIds (ctx.moveUpDevice selected).cfg.devices := by
  rw [moveUpDevice]
  split
  · show UniqueIds (renumber (ctx.cfg.devices.swap selected (selected - 1)))
    rw [UniqueIds, ids_of_map_eq (map_id_renumber _)]
    exact h.perm (List.swap_perm ..)
  · exact h

theorem unique_remove {ctx : TrayContext} (h : UniqueIds ctx.cfg.devices) (selected : Nat) :
    UniqueIds (ctx.removeDevice selected).cfg.devices := by
  rw [removeDevice]
  split
  · show UniqueIds (renumber (ctx.cfg.devices.eraseIdx selected))
    rw [UniqueIds, ids_of_map_eq (map_id_renumber _)]
    exact h.sublist (((List.eraseIdx_sublist ctx.cfg.devices selected).map _).filter _)
  · exact h

/-- A discovered device is added only if no entry has its id. -/
theorem unique_add {ctx : TrayContext} (h : UniqueIds ctx.cfg.devices) (address name : Bytes) :
    UniqueIds (ctx.addSelectedDiscoveredDevice address name).cfg.devices := by
  rw [addSelectedDiscoveredDevice]
  split
  · exact h
  · obtain ⟨id, host, port⟩ := ctx.discoveredAt address
    dsimp only
    split
    · rename_i i _
      refine Eq.mpr (congrArg List.Nodup (ids_of_map_eq ?_)) h
      apply List.ext_getElem?
      intro j
      rw [List.getElem?_map, List.getElem?_map, List.getElem?_modify]
      cases ctx.cfg.devices[j]? with
      | none => rfl
      | some device =>
        show some (DeviceConfig.id (if i = j then _ else device)) = some device.id
        split <;> rfl
    · rename_i hnone
      show UniqueIds (ctx.cfg.devices ++ [_])
      rw [UniqueIds, ids_append, List.nodup_append]
      refine ⟨h, (List.pairwise_singleton _ _).filter _, fun x hx y hy hsame => ?_⟩
      obtain ⟨hid, device, hmem, hdevice⟩ := mem_ids.1 hx
      obtain ⟨-, new, hnew, hy⟩ := mem_ids.1 hy
      rw [List.mem_singleton] at hnew
      have hpred := List.findIdx?_eq_none_iff.1 hnone device hmem
      have hsame' : device.id = id := by rw [hdevice, hsame, ← hy, hnew]
      rw [hsame', decide_eq_true (show id ≠ [] from hsame' ▸ hdevice ▸ hid),
        decide_eq_true rfl] at hpred
      cases hpred

/-- What an entry of the box takes over is the record with its address. -/
theorem withKnown_id {devices : List DeviceConfig} {edited : DeviceConfig}
    (hhost : edited.bonjourHost = []) (hedited : edited.id = [])
    (hid : (PanelForm.withKnown devices edited).id ≠ []) :
    ∃ old ∈ devices, old.lastIpv4 = edited.lastIpv4 ∧
      old.id = (PanelForm.withKnown devices edited).id := by
  rw [PanelForm.withKnown] at hid ⊢
  split at hid
  · rename_i old hfind
    refine ⟨old, List.mem_of_find?_eq_some hfind, ?_, rfl⟩
    have hpred := List.find?_some hfind
    rw [hhost, Bool.or_eq_true, Bool.and_eq_true, decide_eq_true_eq, decide_eq_true_eq,
      decide_eq_true_eq] at hpred
    exact hpred.resolve_right fun hand => hand.1 hand.2
  · exact absurd hedited hid

/-- Devices of distinct addresses take over distinct ids. -/
theorem unique_edited {devices entries : List DeviceConfig} (h : UniqueIds devices)
    (hlisted : ∀ entry ∈ entries, entry.bonjourHost = [] ∧ entry.id = [])
    (hdistinct : (entries.map DeviceConfig.lastIpv4).Nodup) :
    UniqueIds (entries.map (PanelForm.withKnown devices)) := by
  rw [List.nodup_iff_pairwise_ne, List.pairwise_map] at hdistinct
  rw [UniqueIds, ids, List.map_map, List.nodup_iff_pairwise_ne, List.pairwise_filter,
    List.pairwise_map]
  refine hdistinct.imp_of_mem fun {a b} ha hb hne hida hidb hsame => hne ?_
  rw [decide_eq_true_eq] at hida hidb
  obtain ⟨olda, hmema, haddressa, hola⟩ := withKnown_id (hlisted a ha).1 (hlisted a ha).2 hida
  obtain ⟨oldb, hmemb, haddressb, holb⟩ := withKnown_id (hlisted b hb).1 (hlisted b hb).2 hidb
  have hsame' : olda.id = oldb.id := hola.trans (hsame.trans holb.symm)
  have hold : olda = oldb := by
    have hnodup : ((devices.filter fun d => decide (d.id ≠ [])).map DeviceConfig.id).Nodup := by
      rw [UniqueIds, ids, List.filter_map] at h
      exact h
    refine List.inj_on_of_nodup_map hnodup ?_ ?_ hsame'
    · exact List.mem_filter.2 ⟨hmema, decide_eq_true (hola ▸ hida)⟩
    · exact List.mem_filter.2 ⟨hmemb, decide_eq_true (holb ▸ hidb)⟩
  rw [← haddressa, hold, haddressb]

theorem unique_save {ctx : TrayContext} (h : UniqueIds ctx.cfg.devices)
    (conversion : TextConversion) (text : List UInt16) (port fps bitrateMbps : Option Nat)
    (autoReconnect requirePrivateNetwork saved : Bool) :
    UniqueIds (ctx.savePanelSettings (panelForm conversion text port fps bitrateMbps autoReconnect
      requirePrivateNetwork) saved).1.cfg.devices := by
  rw [savePanelSettings_devices]
  split
  · have hlisted := UiModel.listed_parse conversion (controlText text) (UInt16.ofNat (port.getD 0))
    refine unique_edited h (fun entry hmem => ?_) hlisted.distinct
    obtain ⟨i, hi⟩ := List.getElem?_of_mem hmem
    exact ⟨(hlisted.fields i entry hi).1, hlisted.unnamed i entry hi⟩
  · exact h

/-! ### Learning an id -/

/-- The Wi-Fi device whose sender streams first, when no cable streams. -/
def streamingDevice (ctx : TrayContext) : Option ((SenderApp × DeviceConfig) × Nat) :=
  if ctx.isTransportStreaming .usb then none
  else (ctx.apps.zip ctx.cfg.devices).zipIdx.find? fun ((app, _), _) =>
    decide (app.state = .streaming)

/-- The id that a streaming sender reports for a device without one. -/
def reportedId (ctx : TrayContext) : Option Bytes :=
  match streamingDevice ctx with
  | some ((app, device), _) =>
    if device.id = [] ∧ app.deviceId ≠ [] then some app.deviceId else none
  | none => none

/-- No entry has the id that is learned. -/
def LearnsNewId (ctx : TrayContext) : Event → Prop
  | .remember _ => ∀ id ∈ reportedId ctx, ∀ device ∈ ctx.cfg.devices, device.id ≠ id
  | _ => True

instance decidableLearnsNewId (ctx : TrayContext) : ∀ e, Decidable (LearnsNewId ctx e)
  | .remember _ => inferInstanceAs
    (Decidable (∀ id ∈ reportedId ctx, ∀ device ∈ ctx.cfg.devices, device.id ≠ id))
  | .add .. | .save .. | .moveUp _ | .remove _ | .discovered _ | .senders .. =>
    inferInstanceAs (Decidable True)

/-- The record of the streaming device is rewritten in its place. -/
theorem rememberWifi_devices {ctx : TrayContext} (outside : Outside) {index : Nat}
    (app : SenderApp) {device : DeviceConfig} (hi : ctx.cfg.devices[index]? = some device) :
    ∃ device', (ctx.rememberWifi outside index app device).cfg.devices =
        ctx.cfg.devices.set index device' ∧
      device'.id = if device.id = [] ∧ app.deviceId ≠ [] then app.deviceId else device.id := by
  rw [rememberWifi]
  refine iteInduction (motive := fun ctx' : TrayContext => ∃ device', ctx'.cfg.devices =
    ctx.cfg.devices.set index device' ∧ device'.id = if device.id = [] ∧ app.deviceId ≠ [] then
      app.deviceId else device.id) (fun _ => ⟨_, rfl, rfl⟩) (fun hsame => ⟨device, ?_, ?_⟩)
  · apply List.ext_getElem?
    intro j
    rw [List.getElem?_set]
    split
    · rename_i heq
      subst heq
      rw [if_pos (List.getElem?_eq_some_iff.1 hi).1, hi]
    · rfl
  · rw [if_neg fun hlearns => hsame (.inr (.inr (.inl hlearns)))]

/-- The devices after `RememberSuccessfulTransport`: as before, or the record of the streaming
device has changed, and its id is the one that its sender reports if it had none. -/
theorem remember_cases (ctx : TrayContext) (outside : Outside) :
    ((ctx.rememberSuccessfulTransport outside).cfg.devices = ctx.cfg.devices ∧
        reportedId ctx = none) ∨
      ∃ (index : Nat) (device device' : DeviceConfig), ctx.cfg.devices[index]? = some device ∧
        (ctx.rememberSuccessfulTransport outside).cfg.devices =
          ctx.cfg.devices.set index device' ∧
        ((reportedId ctx = none ∧ device'.id = device.id) ∨
          (reportedId ctx = some device'.id ∧ device.id = [] ∧ device'.id ≠ [])) := by
  rw [rememberSuccessfulTransport, reportedId, streamingDevice]
  by_cases husb : ctx.isTransportStreaming .usb = true
  · rw [if_pos husb, if_pos husb]
    exact .inl ⟨rfl, rfl⟩
  · rw [if_neg husb, if_neg husb]
    cases hfind : (ctx.apps.zip ctx.cfg.devices).zipIdx.find? fun ((app, _), _) =>
        decide (app.state = .streaming) with
    | none => exact .inl ⟨rfl, rfl⟩
    | some found =>
      obtain ⟨⟨app, device⟩, index⟩ := found
      have hmem := List.mem_of_find?_eq_some hfind
      rw [List.mk_mem_zipIdx_iff_getElem?, List.getElem?_zip_eq_some] at hmem
      obtain ⟨device', hset, hid⟩ := rememberWifi_devices outside app hmem.2
      refine .inr ⟨index, device, device', hmem.2, hset, ?_⟩
      by_cases hlearns : device.id = [] ∧ app.deviceId ≠ []
      · rw [if_pos hlearns] at hid
        refine .inr ⟨?_, hlearns.1, hid ▸ hlearns.2⟩
        rw [hid]
        exact if_pos hlearns
      · rw [if_neg hlearns] at hid
        exact .inl ⟨if_neg hlearns, hid⟩

theorem ids_set_of_same {devices : List DeviceConfig} {index : Nat} {device device' : DeviceConfig}
    (hi : devices[index]? = some device) (hid : device'.id = device.id) :
    ids (devices.set index device') = ids devices := by
  refine ids_of_map_eq (List.ext_getElem? fun j => ?_)
  rw [List.getElem?_map, List.getElem?_map, List.getElem?_set]
  split
  · rename_i heq
    subst heq
    rw [if_pos (List.getElem?_eq_some_iff.1 hi).1, hi, Option.map_some, Option.map_some, hid]
  · rfl

/-- An id that a device gets in place of none joins the others. -/
theorem unique_set_iff {devices : List DeviceConfig} (h : UniqueIds devices) {index : Nat}
    {device device' : DeviceConfig} (hi : devices[index]? = some device) (hnone : device.id = [])
    (hid : device'.id ≠ []) :
    UniqueIds (devices.set index device') ↔ ∀ other ∈ devices, other.id ≠ device'.id := by
  have hsplit := List.getElem?_eq_some_iff.1 hi
  obtain ⟨hlt, hget⟩ := hsplit
  have hbefore : devices = devices.take index ++ device :: devices.drop (index + 1) := by
    rw [← hget, ← List.drop_eq_getElem_cons hlt, List.take_append_drop]
  have hafter : devices.set index device' =
      devices.take index ++ device' :: devices.drop (index + 1) := by
    rw [List.set_eq_take_append_cons_drop, if_pos hlt]
  generalize devices.take index = before at hbefore hafter
  generalize devices.drop (index + 1) = after at hbefore hafter
  rw [hafter]
  subst hbefore
  have hold : ids (before ++ device :: after) = ids before ++ ids after := by
    rw [ids_append]
    show ids before ++ ids (device :: after) = _
    rw [ids, ids, ids, List.map_cons, List.filter_cons_of_neg (by simp [hnone])]
  have hnew : ids (before ++ device' :: after) = ids before ++ device'.id :: ids after := by
    rw [ids_append]
    show ids before ++ ids (device' :: after) = _
    rw [ids, ids, ids, List.map_cons, List.filter_cons_of_pos (by simp [hid])]
  rw [UniqueIds, hold] at h
  rw [UniqueIds, hnew, List.nodup_middle, List.nodup_cons]
  have hmem : device'.id ∉ ids before ++ ids after ↔
      ∀ other ∈ before ++ device :: after, other.id ≠ device'.id := by
    rw [← hold, mem_ids]
    constructor
    · exact fun hnot other hother hsame => hnot ⟨hid, other, hother, hsame⟩
    · rintro hall ⟨-, other, hother, hsame⟩
      exact hall other hother hsame
  rw [hmem]
  exact ⟨fun hand => hand.1, fun hall => ⟨hall, h⟩⟩

/-- **When learning keeps the ids distinct.** -/
theorem unique_remember_iff {ctx : TrayContext} (h : UniqueIds ctx.cfg.devices)
    (outside : Outside) :
    UniqueIds (ctx.rememberSuccessfulTransport outside).cfg.devices ↔
      ∀ id ∈ reportedId ctx, ∀ device ∈ ctx.cfg.devices, device.id ≠ id := by
  obtain ⟨hsame, hnone⟩ | ⟨index, device, device', hi, hset, hcase⟩ := remember_cases ctx outside
  · rw [hsame, hnone]
    exact ⟨fun _ id hid => (by cases hid), fun _ => h⟩
  · rw [hset]
    obtain ⟨hnone, hid⟩ | ⟨hreported, hnone, hid⟩ := hcase
    · rw [hnone, UniqueIds, ids_set_of_same hi hid]
      exact ⟨fun _ id hid => (by cases hid), fun _ => h⟩
    · rw [unique_set_iff h hi hnone hid, hreported]
      constructor
      · intro hall id hmem
        obtain rfl := Option.some.inj hmem
        exact hall
      · exact fun hall => hall _ rfl

/-! ### Every run -/

/-- **When a step keeps the ids distinct.** -/
theorem unique_step_iff {ctx : TrayContext} (h : UniqueIds ctx.cfg.devices) (e : Event) :
    (∀ ctx', step ctx e = some ctx' → UniqueIds ctx'.cfg.devices) ↔ LearnsNewId ctx e := by
  have always : ∀ ctx'', step ctx e = some ctx'' → UniqueIds ctx''.cfg.devices →
      LearnsNewId ctx e → ((∀ ctx', step ctx e = some ctx' → UniqueIds ctx'.cfg.devices) ↔
        LearnsNewId ctx e) := by
    intro ctx'' hstep hunique hlearns
    refine ⟨fun _ => hlearns, fun _ ctx' hstep' => ?_⟩
    obtain rfl := Option.some.inj (hstep.symm.trans hstep')
    exact hunique
  cases e with
  | add address name => exact always _ rfl (unique_add h address name) trivial
  | remember outside =>
    show _ ↔ ∀ id ∈ reportedId ctx, ∀ device ∈ ctx.cfg.devices, device.id ≠ id
    rw [← unique_remember_iff h outside]
    constructor
    · exact fun hall => hall _ rfl
    · intro hunique ctx' hstep
      obtain rfl := Option.some.inj hstep
      exact hunique
  | save conversion text port fps bitrateMbps autoReconnect requirePrivateNetwork saved =>
    exact always _ rfl (unique_save h conversion text port fps bitrateMbps autoReconnect
      requirePrivateNetwork saved) trivial
  | moveUp selected => exact always _ rfl (unique_moveUp h selected) trivial
  | remove selected => exact always _ rfl (unique_remove h selected) trivial
  | discovered records => exact always _ rfl h trivial
  | senders apps usbApp => exact always _ rfl h trivial

/-- **When the ids stay distinct.**  From devices of distinct ids, every state that a list of events
leads through has devices of distinct ids, all of which the next load keeps, exactly if no step
learns an id that an entry has already. -/
theorem ids_stay_unique_iff (ctx : TrayContext) (hunique : UniqueIds ctx.cfg.devices)
    (events : List Event) :
    Transitions.Along step (fun ctx e => ∀ ctx', step ctx e = some ctx' →
        UniqueIds ctx'.cfg.devices ∧ KeptByLoad ctx'.cfg.devices) ctx events ↔
      Transitions.Along step LearnsNewId ctx events := by
  refine Transitions.along_iff (I := fun ctx => UniqueIds ctx.cfg.devices) ?_ ?_ hunique
  · intro ctx e h
    rw [← unique_step_iff h e]
    exact ⟨fun hall ctx' hstep => (hall ctx' hstep).1,
      fun hall ctx' hstep => ⟨hall ctx' hstep, (hall ctx' hstep).keptByLoad⟩⟩
  · exact fun ctx e ctx' _ hall hstep => (hall ctx' hstep).1

/-- One device with an id. -/
def oneDevice : TrayContext :=
  { apps := [{ object := 0 }]
    cfg := { devices := [{ id := ascii "A", lastIpv4 := ascii "192.168.1.20" }] }
    nextObject := 1 }

/-- A second address is added that nothing is known of, and its sender streams and reports `id`. -/
def secondAddress (id : Bytes) : List Event :=
  [.add (ascii "192.168.1.30") (ascii "iPad"),
    .senders [{ object := 0 }, { object := 1, state := .streaming, deviceId := id }] none,
    .remember { now := 0 }]

theorem ids_stay_unique_iff_twoDevices :
    Transitions.Along step (fun ctx e => ∀ ctx', step ctx e = some ctx' →
        UniqueIds ctx'.cfg.devices ∧ KeptByLoad ctx'.cfg.devices) oneDevice
      (secondAddress (ascii "B") ++ [.moveUp 1, .remove 1]) :=
  (ids_stay_unique_iff oneDevice (by show List.Nodup _; decide) _).2 (by decide +kernel)

/-- The iPad of the first entry answers at the second address: both entries get its id, and the
next load keeps one of them. -/
theorem ids_stay_unique_fails_secondAddress :
    ¬∀ (ctx : TrayContext) (events : List Event), UniqueIds ctx.cfg.devices →
      ∀ ctx', Transitions.run step ctx events = some ctx' →
        UniqueIds ctx'.cfg.devices ∧ KeptByLoad ctx'.cfg.devices := by
  intro hall
  have hrun : (Transitions.run step oneDevice (secondAddress (ascii "A"))).map
      (fun ctx => ids ctx.cfg.devices) = some [ascii "A", ascii "A"] := by decide +kernel
  obtain ⟨ctx', hctx', hids⟩ := Option.map_eq_some_iff.1 hrun
  have hunique := (hall oneDevice (secondAddress (ascii "A")) (by show List.Nodup _; decide) ctx'
    hctx').1
  rw [UniqueIds, hids] at hunique
  exact absurd hunique (by decide)

end DeviceIds

end SecondDisplay
