import SecondDisplay.App.Config
import SecondDisplay.App.LauncherItems
import Mathlib.Logic.Function.Basic

/-!
# The launcher windows (`app/DisplayLauncher.cpp`)

The manager keeps one window for each display that is streamed to.  `Sync` is told all of them once
a second; what it no longer hears of, it destroys.  The windows Windows has are part of the state:
after any calls they are the ones the manager holds, in the place of their displays, and none shows
while the launcher is hidden (`launcher_sound`).
-/

namespace SecondDisplay.DisplayLauncher

open InputInjector (Rect)
open WindowRouting (stdClamp)
open VirtualDisplay (WString)

/-- `LauncherDisplay`. -/
structure LauncherDisplay where
  target : List UInt8
  label : WString
  rect : Rect

/-- `DisplayLauncherManager::Window` without its icons. -/
structure LauncherWindow where
  target : List UInt8
  label : WString
  monitorRect : Rect
  rect : Rect
  handle : Option Nat
  deriving DecidableEq

/-- A window as Windows has it. -/
@[ext]
structure Surface where
  rect : Rect
  visible : Bool
  deriving DecidableEq

/-- `DisplayLauncherManager`, with the windows that exist. -/
structure Manager where
  enabled : Bool := true
  mode : LauncherMode := .fullscreen
  windows : List LauncherWindow := []
  surfaces : Nat → Option Surface := fun _ => none
  /-- The next handle. -/
  next : Nat := 1

/-- `SurfaceRect`. -/
def surfaceRect (mode : LauncherMode) (displayRect : Rect) : Rect :=
  if mode ≠ .region then displayRect
  else
    let monitorWidth := max 1 (displayRect.right - displayRect.left)
    let regionWidth := stdClamp (monitorWidth * 2 / 5) (94 * 3 + 2 * 12) monitorWidth
    { displayRect with right := displayRect.left + regionWidth }

/-- A call that changes one window, if there is a handle. -/
def Manager.alter (m : Manager) (handle : Option Nat) (g : Option Surface → Option Surface) :
    Manager :=
  match handle with
  | none => m
  | some h => { m with surfaces := Function.update m.surfaces h (g (m.surfaces h)) }

/-- `Window::Reposition`, for the window with this target. -/
def LauncherWindow.reposition (mode : LauncherMode) (display : LauncherDisplay)
    (window : LauncherWindow) : LauncherWindow :=
  { window with
    monitorRect := display.rect
    rect := surfaceRect mode display.rect
    label := display.label }

/-- `Window::Reposition`. -/
def Manager.repositionAt (m : Manager) (i : Nat) (display : LauncherDisplay) : Manager :=
  match m.windows[i]? with
  | none => m
  | some window =>
    let window := window.reposition m.mode display
    { m with windows := m.windows.set i window }.alter window.handle
      (Option.map fun surface => { surface with rect := window.rect })

/-- `Window::Show`. -/
def Manager.showWindow (m : Manager) (window : LauncherWindow) : Manager :=
  m.alter window.handle (Option.map fun _ => ⟨window.rect, true⟩)

/-- `Window::Hide`. -/
def Manager.hideWindow (m : Manager) (window : LauncherWindow) : Manager :=
  m.alter window.handle (Option.map fun surface => { surface with visible := false })

/-- `DestroyWindow`. -/
def Manager.destroyWindow (m : Manager) (window : LauncherWindow) : Manager :=
  m.alter window.handle fun _ => none

/-- The second half of the loop body of `Sync`: a new window, which `CreateWindowExW` may refuse. -/
def Manager.addWindow (m : Manager) (display : LauncherDisplay) (created : Bool) : Manager :=
  let window : LauncherWindow :=
    { target := display.target
      label := display.label
      monitorRect := display.rect
      rect := surfaceRect m.mode display.rect
      handle := if created then some m.next else none }
  if created then
    let m' : Manager :=
      { m with
        surfaces := Function.update m.surfaces m.next (some ⟨display.rect, false⟩)
        next := m.next + 1 }
    let m' := if m.enabled then m'.showWindow window else m'
    { m' with windows := m'.windows ++ [window] }
  else { m with windows := m.windows ++ [window] }

/-- An empty rectangle. -/
def Empty (r : Rect) : Prop := r.right ≤ r.left ∨ r.bottom ≤ r.top

instance (r : Rect) : Decidable (Empty r) := inferInstanceAs (Decidable (_ ∨ _))

/-- The loop body of `Sync`. -/
def Manager.syncDisplay (m : Manager) (entry : LauncherDisplay × Bool) : Manager :=
  if Empty entry.1.rect then m
  else
    match m.windows.findIdx? fun window => window.target == entry.1.target with
    | some i => m.repositionAt i entry.1
    | none => m.addWindow entry.1 entry.2

/-- `Sync`, for the displays and whether a window can be created for each. -/
def Manager.sync (m : Manager) (displays : List (LauncherDisplay × Bool)) : Manager :=
  let m := displays.foldl Manager.syncDisplay m
  let gone := m.windows.filter fun window =>
    !displays.any fun entry => entry.1.target == window.target
  let m' := gone.foldl Manager.destroyWindow m
  { m' with windows := m.windows.filter fun window =>
      displays.any fun entry => entry.1.target == window.target }

/-- `ShowAll`. -/
def Manager.showAll (m : Manager) : Manager :=
  if m.enabled then m.windows.foldl Manager.showWindow m else m

/-- The part of `RevealDesktop` that is about these windows. -/
def Manager.revealDesktop (m : Manager) : Manager :=
  if m.enabled then m.windows.foldl Manager.showWindow m else m

/-- A turn of the first loop of `SetMode`. -/
def Manager.repositionSame (m : Manager) (i : Nat) : Manager :=
  match m.windows[i]? with
  | none => m
  | some window => m.repositionAt i ⟨window.target, window.label, window.monitorRect⟩

/-- `SetMode`. -/
def Manager.setMode (m : Manager) (mode : LauncherMode) : Manager :=
  let m := { m with mode, enabled := mode != LauncherMode.hidden }
  let m := (List.range m.windows.length).foldl Manager.repositionSame m
  if m.enabled then m.showAll else m.windows.foldl Manager.hideWindow m

/-- `Shutdown`. -/
def Manager.shutdown (m : Manager) : Manager :=
  { m.windows.foldl Manager.destroyWindow m with windows := [] }

/-- What happens to the launcher. -/
inductive Call where
  | sync (displays : List (LauncherDisplay × Bool))
  | setMode (mode : LauncherMode)
  | revealDesktop
  | shutdown
  /-- Escape, in the window with this place in the list. -/
  | escape (i : Nat)

def Manager.call (m : Manager) : Call → Manager
  | .sync displays => m.sync displays
  | .setMode mode => m.setMode mode
  | .revealDesktop => m.revealDesktop
  | .shutdown => m.shutdown
  | .escape i =>
    match m.windows[i]? with
    | none => m
    | some window => m.hideWindow window

/-! ### Windows and their handles -/

/-- The target and the handle of a window, which never change. -/
def LauncherWindow.id (window : LauncherWindow) : List UInt8 × Option Nat :=
  (window.target, window.handle)

/-- The manager has one window for each target, and Windows has the ones with a handle. -/
structure Linked (ids : List (List UInt8 × Option Nat)) (surfaces : Nat → Option Surface)
    (next : Nat) : Prop where
  unique : (ids.map (·.1)).Nodup
  apart : ids.Pairwise fun a b => ∀ h, a.2 = some h → b.2 ≠ some h
  fresh : ∀ id ∈ ids, ∀ h, id.2 = some h → h < next
  held : ∀ h, (surfaces h).isSome = true ↔ ∃ id ∈ ids, id.2 = some h

/-- A window that is placed as its display and the mode want it. -/
structure Placed (mode : LauncherMode) (surfaces : Nat → Option Surface)
    (window : LauncherWindow) : Prop where
  sized : ¬Empty window.monitorRect
  rect : window.rect = surfaceRect mode window.monitorRect
  surface : ∀ h, window.handle = some h → ∃ visible, surfaces h = some ⟨window.rect, visible⟩

/-- The manager after any calls. -/
structure Manager.Sound (m : Manager) : Prop where
  linked : Linked (m.windows.map LauncherWindow.id) m.surfaces m.next
  placed : ∀ window ∈ m.windows, Placed m.mode m.surfaces window
  mode : m.enabled = (m.mode != LauncherMode.hidden)
  hidden : m.enabled = false → ∀ h surface, m.surfaces h = some surface → surface.visible = false

variable {m : Manager}

theorem Linked.handle_ne {ids : List (List UInt8 × Option Nat)} {surfaces : Nat → Option Surface}
    {next : Nat} (h : Linked ids surfaces next) {i j : Nat} {a b : List UInt8 × Option Nat}
    (hi : ids[i]? = some a) (hj : ids[j]? = some b) (hij : i ≠ j) {handle : Nat}
    (ha : a.2 = some handle) : b.2 ≠ some handle := by
  obtain ⟨hi', rfl⟩ := List.getElem?_eq_some_iff.1 hi
  obtain ⟨hj', rfl⟩ := List.getElem?_eq_some_iff.1 hj
  rcases Nat.lt_or_gt_of_ne hij with hlt | hgt
  · exact List.pairwise_iff_getElem.1 h.apart i j hi' hj' hlt handle ha
  · intro hb
    exact List.pairwise_iff_getElem.1 h.apart j i hj' hi' hgt handle hb ha

/-- A handle belongs to one window. -/
theorem Linked.handle_inj (h : Linked (m.windows.map LauncherWindow.id) m.surfaces m.next)
    {a b : LauncherWindow} (ha : a ∈ m.windows) (hb : b ∈ m.windows) {handle : Nat}
    (hah : a.handle = some handle) (hbh : b.handle = some handle) : a = b := by
  obtain ⟨i, hi⟩ := List.mem_iff_getElem?.1 ha
  obtain ⟨j, hj⟩ := List.mem_iff_getElem?.1 hb
  have hi' : (m.windows.map LauncherWindow.id)[i]? = some a.id := by simp [hi]
  have hj' : (m.windows.map LauncherWindow.id)[j]? = some b.id := by simp [hj]
  by_cases hij : i = j
  · subst hij
    exact Option.some.inj (hi.symm.trans hj)
  · exact absurd hbh (h.handle_ne hi' hj' hij hah)

/-- Windows keeps its windows when one of them is moved, shown or hidden. -/
theorem Linked.congr {ids : List (List UInt8 × Option Nat)}
    {surfaces surfaces' : Nat → Option Surface} {next : Nat} (h : Linked ids surfaces next)
    (hsame : ∀ handle, (surfaces' handle).isSome = (surfaces handle).isSome) :
    Linked ids surfaces' next where
  unique := h.unique
  apart := h.apart
  fresh := h.fresh
  held handle := by rw [hsame, h.held]

theorem alter_windows (handle : Option Nat) (g : Option Surface → Option Surface) :
    (m.alter handle g).windows = m.windows := by
  cases handle <;> rfl

theorem alter_mode (handle : Option Nat) (g : Option Surface → Option Surface) :
    (m.alter handle g).mode = m.mode := by
  cases handle <;> rfl

theorem alter_enabled (handle : Option Nat) (g : Option Surface → Option Surface) :
    (m.alter handle g).enabled = m.enabled := by
  cases handle <;> rfl

theorem alter_next (handle : Option Nat) (g : Option Surface → Option Surface) :
    (m.alter handle g).next = m.next := by
  cases handle <;> rfl

theorem surfaces_alter (handle : Option Nat) (g : Option Surface → Option Surface) (h : Nat) :
    (m.alter handle g).surfaces h =
      if handle = some h then g (m.surfaces h) else m.surfaces h := by
  cases handle with
  | none => rfl
  | some k =>
    show Function.update m.surfaces k _ h = _
    by_cases hk : h = k
    · rw [hk, Function.update_self, if_pos rfl]
    · rw [Function.update_of_ne hk, if_neg]
      intro hsome
      exact hk (Option.some.inj hsome).symm

/-- **One call for each of these windows** touches their surfaces and nothing else. -/
theorem foldl_alter {g : Option Surface → Option Surface} (hg : ∀ x, g (g x) = g x)
    (windows : List LauncherWindow) (m : Manager) :
    (windows.foldl (fun m window => m.alter window.handle g) m).windows = m.windows ∧
      (windows.foldl (fun m window => m.alter window.handle g) m).mode = m.mode ∧
      (windows.foldl (fun m window => m.alter window.handle g) m).enabled = m.enabled ∧
      (windows.foldl (fun m window => m.alter window.handle g) m).next = m.next ∧
      ∀ h, (windows.foldl (fun m window => m.alter window.handle g) m).surfaces h =
        if ∃ window ∈ windows, window.handle = some h then g (m.surfaces h) else m.surfaces h := by
  induction windows generalizing m with
  | nil => exact ⟨rfl, rfl, rfl, rfl, fun _ => (if_neg (by simp)).symm⟩
  | cons window windows ih =>
    obtain ⟨hwindows, hmode, henabled, hnext, hsurfaces⟩ := ih (m.alter window.handle g)
    rw [alter_windows] at hwindows
    rw [alter_mode] at hmode
    rw [alter_enabled] at henabled
    rw [alter_next] at hnext
    refine ⟨hwindows, hmode, henabled, hnext, ?_⟩
    intro h
    rw [List.foldl_cons, hsurfaces h, surfaces_alter]
    by_cases hfirst : window.handle = some h
    · by_cases hlater : ∃ other ∈ windows, other.handle = some h
      · simp [hfirst, hlater, hg]
      · simp [hfirst, hlater]
    · simp [hfirst]

theorem isSome_alter (handle : Option Nat) (f : Surface → Surface) (h : Nat) :
    ((m.alter handle (Option.map f)).surfaces h).isSome = (m.surfaces h).isSome := by
  rw [surfaces_alter]
  split
  · rw [Option.isSome_map]
  · rfl

/-! ### Showing and hiding -/

/-- Changing the surface of one window, as its place wants it. -/
theorem sound_alter (hm : m.Sound) {window : LauncherWindow} (hwindow : window ∈ m.windows)
    {f : Surface → Surface} (hrect : ∀ surface, surface.rect = window.rect →
      (f surface).rect = window.rect)
    (hvisible : m.enabled = false → ∀ surface, surface.visible = false →
      (f surface).visible = false) : (m.alter window.handle (Option.map f)).Sound where
  linked := by
    rw [alter_windows, alter_next]
    exact hm.linked.congr fun handle => isSome_alter window.handle f handle
  placed := by
    rw [alter_windows, alter_mode]
    intro x hx
    obtain ⟨hsized, hxrect, hsurface⟩ := hm.placed x hx
    refine ⟨hsized, hxrect, ?_⟩
    intro h hxh
    obtain ⟨visible, hold⟩ := hsurface h hxh
    rw [surfaces_alter, hold]
    split
    · rename_i hown
      have hsame := hm.linked.handle_inj hx hwindow hxh hown
      subst hsame
      exact ⟨_, congrArg some (Surface.ext (hrect _ rfl) rfl)⟩
    · exact ⟨visible, rfl⟩
  mode := by rw [alter_enabled, alter_mode, hm.mode]
  hidden := by
    rw [alter_enabled]
    intro hoff h surface hsurface
    rw [surfaces_alter] at hsurface
    split at hsurface
    · obtain ⟨old, hold, rfl⟩ := Option.map_eq_some_iff.1 hsurface
      exact hvisible hoff old (hm.hidden hoff h old hold)
    · exact hm.hidden hoff h surface hsurface

theorem sound_showWindow (hm : m.Sound) (hon : m.enabled = true) {window : LauncherWindow}
    (hwindow : window ∈ m.windows) : (m.showWindow window).Sound :=
  sound_alter hm hwindow (fun _ _ => rfl) fun hoff => absurd (hon.symm.trans hoff) (by simp)

theorem sound_hideWindow (hm : m.Sound) {window : LauncherWindow}
    (hwindow : window ∈ m.windows) : (m.hideWindow window).Sound :=
  sound_alter hm hwindow (fun _ h => h) fun _ _ _ => rfl

theorem sound_foldl_show (hm : m.Sound) (hon : m.enabled = true) (windows : List LauncherWindow)
    (hsub : ∀ window ∈ windows, window ∈ m.windows) :
    (windows.foldl Manager.showWindow m).Sound := by
  induction windows generalizing m with
  | nil => exact hm
  | cons window windows ih =>
    have hwindow := hsub window List.mem_cons_self
    refine ih (sound_showWindow hm hon hwindow) ?_ ?_
    · rw [Manager.showWindow, alter_enabled, hon]
    · rw [Manager.showWindow, alter_windows]
      exact fun x hx => hsub x (List.mem_cons_of_mem _ hx)

theorem sound_showAll (hm : m.Sound) : m.showAll.Sound := by
  unfold Manager.showAll
  split
  · exact sound_foldl_show hm ‹_› m.windows fun _ h => h
  · exact hm

/-! ### Moving -/

theorem id_reposition (mode : LauncherMode) (display : LauncherDisplay) (window : LauncherWindow) :
    (window.reposition mode display).id = window.id := rfl

theorem repositionAt_eq {i : Nat} {window : LauncherWindow} (hi : m.windows[i]? = some window)
    (display : LauncherDisplay) : m.repositionAt i display =
      { m with windows := m.windows.set i (window.reposition m.mode display) }.alter window.handle
        (Option.map fun surface => { surface with rect := surfaceRect m.mode display.rect }) := by
  rw [Manager.repositionAt, hi]
  rfl

theorem windows_repositionAt {i : Nat} {window : LauncherWindow}
    (hi : m.windows[i]? = some window) (display : LauncherDisplay) :
    (m.repositionAt i display).windows =
      m.windows.set i (window.reposition m.mode display) := by
  rw [repositionAt_eq hi, alter_windows]

theorem map_id_set {windows : List LauncherWindow} {i : Nat} {window window' : LauncherWindow}
    (hi : windows[i]? = some window) (hid : window'.id = window.id) :
    (windows.set i window').map LauncherWindow.id = windows.map LauncherWindow.id := by
  apply List.ext_getElem?
  intro j
  rw [List.getElem?_map, List.getElem?_map, List.getElem?_set]
  split
  · rename_i hij
    subst hij
    obtain ⟨hlt, -⟩ := List.getElem?_eq_some_iff.1 hi
    rw [if_pos hlt, hi, Option.map_some, Option.map_some, hid]
  · rfl

/-- What a turn of `SetMode` or `Sync` needs to be true of the windows it has not come to. -/
structure Manager.Steady (m : Manager) : Prop where
  linked : Linked (m.windows.map LauncherWindow.id) m.surfaces m.next
  mode : m.enabled = (m.mode != LauncherMode.hidden)

/-- **Moving one window** leaves the other ones where they are. -/
theorem repositionAt_spec (hm : m.Steady) {i : Nat} {window : LauncherWindow}
    (hi : m.windows[i]? = some window) {display : LauncherDisplay} (hsize : ¬Empty display.rect) :
    (m.repositionAt i display).Steady ∧ (m.repositionAt i display).mode = m.mode ∧
      (m.repositionAt i display).enabled = m.enabled ∧
      Placed m.mode (m.repositionAt i display).surfaces (window.reposition m.mode display) ∧
      ∀ j x, j ≠ i → m.windows[j]? = some x → Placed m.mode m.surfaces x →
        Placed m.mode (m.repositionAt i display).surfaces x := by
  have hids := map_id_set hi (id_reposition m.mode display window)
  rw [repositionAt_eq hi]
  refine ⟨⟨?_, ?_⟩, ?_, ?_, ⟨hsize, rfl, ?_⟩, ?_⟩
  · rw [alter_windows, alter_next]
    show Linked ((m.windows.set i _).map LauncherWindow.id) _ m.next
    rw [hids]
    exact hm.linked.congr fun handle => isSome_alter window.handle _ handle
  · rw [alter_enabled, alter_mode]
    exact hm.mode
  · rw [alter_mode]
  · rw [alter_enabled]
  · intro h hh
    have hheld : (m.surfaces h).isSome = true :=
      (hm.linked.held h).2 ⟨window.id, List.mem_map_of_mem (List.mem_of_getElem? hi), hh⟩
    obtain ⟨surface, hsurface⟩ := Option.isSome_iff_exists.1 hheld
    refine ⟨surface.visible, ?_⟩
    have hown : window.handle = some h := hh
    rw [surfaces_alter, if_pos hown]
    show (m.surfaces h).map _ = _
    rw [hsurface]
    rfl
  · intro j x hji hj hx
    refine ⟨hx.sized, hx.rect, ?_⟩
    intro h hh
    have hi' : (m.windows.map LauncherWindow.id)[i]? = some window.id := by simp [hi]
    have hj' : (m.windows.map LauncherWindow.id)[j]? = some x.id := by simp [hj]
    have hother : window.handle ≠ some h := hm.linked.handle_ne hj' hi' hji hh
    rw [surfaces_alter, if_neg hother]
    exact hx.surface h hh

theorem Manager.Sound.steady (hm : m.Sound) : m.Steady := ⟨hm.linked, hm.mode⟩

/-- A surface keeps its place when any window is hidden. -/
theorem placed_hide {mode : LauncherMode} {surfaces surfaces' : Nat → Option Surface}
    {window : LauncherWindow} (h : Placed mode surfaces window)
    (hsame : ∀ k, surfaces' k = surfaces k ∨
      surfaces' k = (surfaces k).map fun surface => { surface with visible := false }) :
    Placed mode surfaces' window := by
  refine ⟨h.sized, h.rect, ?_⟩
  intro k hk
  obtain ⟨visible, hsurface⟩ := h.surface k hk
  rcases hsame k with hsame | hsame
  · exact ⟨visible, hsame.trans hsurface⟩
  · rw [hsurface] at hsame
    exact ⟨false, hsame⟩

/-- Hiding all windows. -/
theorem sound_hideAll (hm : m.Steady) (hplaced : ∀ window ∈ m.windows,
    Placed m.mode m.surfaces window) : (m.windows.foldl Manager.hideWindow m).Sound := by
  obtain ⟨hwindows, hmode, henabled, hnext, hsurfaces⟩ := foldl_alter
    (g := Option.map fun surface : Surface => { surface with visible := false })
    (fun x => by cases x <;> rfl) m.windows m
  have hfold : m.windows.foldl Manager.hideWindow m = m.windows.foldl (fun m window =>
    m.alter window.handle (Option.map fun surface => { surface with visible := false })) m := rfl
  rw [← hfold] at hwindows hmode henabled hnext hsurfaces
  refine ⟨?_, ?_, ?_, ?_⟩
  · rw [hwindows, hnext]
    refine hm.linked.congr fun handle => ?_
    rw [hsurfaces]
    split
    · rw [Option.isSome_map]
    · rfl
  · rw [hwindows, hmode]
    intro window hwindow
    refine placed_hide (hplaced window hwindow) fun k => ?_
    rw [hsurfaces]
    split
    · exact Or.inr rfl
    · exact Or.inl rfl
  · rw [henabled, hmode, hm.mode]
  · intro _ h surface hsurface
    rw [hsurfaces] at hsurface
    split at hsurface
    · obtain ⟨old, -, rfl⟩ := Option.map_eq_some_iff.1 hsurface
      rfl
    · -- Windows has no window but those of the manager.
      rename_i hnone
      have hsome : (m.surfaces h).isSome = true := by rw [hsurface, Option.isSome_some]
      obtain ⟨id, hid, hhandle⟩ := (hm.linked.held h).1 hsome
      obtain ⟨window, hwindow, rfl⟩ := List.mem_map.1 hid
      exact absurd ⟨window, hwindow, hhandle⟩ hnone

/-- The manager in the middle of `SetMode`: the first `k` windows have been moved. -/
structure Manager.Moved (m : Manager) (k : Nat) : Prop where
  steady : m.Steady
  sized : ∀ window ∈ m.windows, ¬Empty window.monitorRect
  placed : ∀ j window, j < k → m.windows[j]? = some window → Placed m.mode m.surfaces window

theorem moved_repositionSame {k : Nat} (h : m.Moved k) : (m.repositionSame k).Moved (k + 1) := by
  unfold Manager.repositionSame
  cases hk : m.windows[k]? with
  | none =>
    show m.Moved (k + 1)
    refine ⟨h.steady, h.sized, ?_⟩
    intro j window hj hwindow
    refine h.placed j window ?_ hwindow
    have hlength := List.getElem?_eq_none_iff.1 hk
    obtain ⟨hlt, -⟩ := List.getElem?_eq_some_iff.1 hwindow
    omega
  | some window =>
    have hsize : ¬Empty (LauncherDisplay.mk window.target window.label window.monitorRect).rect :=
      h.sized window (List.mem_of_getElem? hk)
    obtain ⟨hsteady, hmode, -, hown, hothers⟩ := repositionAt_spec h.steady hk hsize
    refine ⟨hsteady, ?_, ?_⟩
    · simp only [windows_repositionAt hk]
      intro x hx
      rcases List.mem_or_eq_of_mem_set hx with hx | hx
      · exact h.sized x hx
      · rw [hx]
        exact hsize
    · simp only [windows_repositionAt hk, hmode]
      intro j x hj hx
      rw [List.getElem?_set] at hx
      split at hx
      · split at hx
        · rw [← Option.some.inj hx]
          exact hown
        · cases hx
      · rename_i hkj
        exact hothers j x (Ne.symm hkj) hx (h.placed j x (by omega) hx)

theorem moved_foldl (h : m.Moved 0) (k : Nat) :
    ((List.range k).foldl Manager.repositionSame m).Moved k := by
  induction k with
  | zero => exact h
  | succ k ih =>
    rw [List.range_succ, List.foldl_append]
    exact moved_repositionSame ih

theorem length_repositionSame (k : Nat) :
    (m.repositionSame k).windows.length = m.windows.length := by
  unfold Manager.repositionSame
  cases hk : m.windows[k]? with
  | none => rfl
  | some window => simp only [windows_repositionAt hk, List.length_set]

theorem length_foldl (m : Manager) (k : Nat) :
    ((List.range k).foldl Manager.repositionSame m).windows.length = m.windows.length := by
  induction k with
  | zero => rfl
  | succ k ih =>
    rw [List.range_succ, List.foldl_append]
    exact (length_repositionSame k).trans ih

theorem sound_setMode (hm : m.Sound) (mode : LauncherMode) : (m.setMode mode).Sound := by
  have hstart : ({ m with mode, enabled := mode != LauncherMode.hidden } : Manager).Moved 0 :=
    ⟨⟨hm.linked, rfl⟩, fun window hwindow => (hm.placed window hwindow).sized,
      fun _ _ hj => absurd hj (Nat.not_lt_zero _)⟩
  have hmoved := moved_foldl hstart m.windows.length
  have hlength := length_foldl { m with mode, enabled := mode != LauncherMode.hidden }
    m.windows.length
  unfold Manager.setMode
  simp only
  generalize (List.range m.windows.length).foldl Manager.repositionSame
    { m with mode, enabled := mode != LauncherMode.hidden } = moved at hmoved hlength
  have hplaced : ∀ window ∈ moved.windows, Placed moved.mode moved.surfaces window := by
    intro window hwindow
    obtain ⟨j, hj⟩ := List.mem_iff_getElem?.1 hwindow
    obtain ⟨hlt, -⟩ := List.getElem?_eq_some_iff.1 hj
    exact hmoved.placed j window (by rw [hlength] at hlt; exact hlt) hj
  split
  · rename_i hon
    have hsound : moved.Sound := ⟨hmoved.steady.linked, hplaced, hmoved.steady.mode,
      fun hoff => absurd (hon.symm.trans hoff) (by simp)⟩
    exact sound_showAll hsound
  · exact sound_hideAll hmoved.steady hplaced

/-! ### Creating and destroying -/

/-- What is not there is not at any handle from the next one on. -/
theorem Linked.surfaces_next (h : Linked (m.windows.map LauncherWindow.id) m.surfaces m.next) :
    m.surfaces m.next = none := by
  rw [← Option.not_isSome_iff_eq_none]
  intro hsome
  obtain ⟨id, hid, hhandle⟩ := (h.held m.next).1 hsome
  exact Nat.lt_irrefl _ (h.fresh id hid m.next hhandle)

/-- A new window of the manager, for which Windows has a surface or not. -/
theorem linked_append (h : Linked (m.windows.map LauncherWindow.id) m.surfaces m.next)
    {window : LauncherWindow} (hnew : ∀ other ∈ m.windows, other.target ≠ window.target)
    {surfaces : Nat → Option Surface} {next : Nat} (hnext : m.next ≤ next)
    (hhandle : ∀ k, window.handle = some k → k = m.next ∧ k < next)
    (hsurfaces : ∀ k, (surfaces k).isSome = true ↔
      (m.surfaces k).isSome = true ∨ window.handle = some k) :
    Linked ((m.windows ++ [window]).map LauncherWindow.id) surfaces next := by
  rw [List.map_append, List.map_singleton]
  refine ⟨?_, ?_, ?_, ?_⟩
  · rw [List.map_append, List.map_singleton, List.nodup_append]
    refine ⟨h.unique, List.pairwise_singleton _ _, ?_⟩
    intro target htarget target' htarget' heq
    obtain ⟨id, hid, rfl⟩ := List.mem_map.1 htarget
    obtain ⟨other, hother, rfl⟩ := List.mem_map.1 hid
    rw [List.mem_singleton.1 htarget'] at heq
    exact hnew other hother heq
  · refine List.pairwise_append.2 ⟨h.apart, List.pairwise_singleton _ _, ?_⟩
    intro id hid id' hid' k hk hk'
    rw [List.mem_singleton.1 hid'] at hk'
    obtain ⟨rfl, -⟩ := hhandle k hk'
    exact Nat.lt_irrefl _ (h.fresh id hid _ hk)
  · intro id hid k hk
    rcases List.mem_append.1 hid with hid | hid
    · exact Nat.lt_of_lt_of_le (h.fresh id hid k hk) hnext
    · rw [List.mem_singleton.1 hid] at hk
      exact (hhandle k hk).2
  · intro k
    rw [hsurfaces, h.held]
    constructor
    · intro hk
      rcases hk with ⟨id, hid, hk⟩ | hk
      · exact ⟨id, List.mem_append_left _ hid, hk⟩
      · exact ⟨window.id, List.mem_append_right _ (List.mem_singleton_self _), hk⟩
    · intro ⟨id, hid, hk⟩
      rcases List.mem_append.1 hid with hid | hid
      · exact Or.inl ⟨id, hid, hk⟩
      · rw [List.mem_singleton.1 hid] at hk
        exact Or.inr hk

/-- Where the launcher is hidden, a window has the whole display. -/
theorem surfaceRect_of_ne_region {mode : LauncherMode} (h : mode ≠ .region) (r : Rect) :
    surfaceRect mode r = r := if_pos h

/-- The window `Sync` makes for a display. -/
def Manager.newWindow (m : Manager) (display : LauncherDisplay) (created : Bool) : LauncherWindow :=
  { target := display.target
    label := display.label
    monitorRect := display.rect
    rect := surfaceRect m.mode display.rect
    handle := if created then some m.next else none }

theorem addWindow_refused (display : LauncherDisplay) :
    m.addWindow display false = { m with windows := m.windows ++ [m.newWindow display false] } :=
  rfl

/-- A created window has its place, and shows unless the launcher is hidden. -/
theorem addWindow_created (hm : m.Sound) (display : LauncherDisplay) :
    m.addWindow display true =
      { m with
        windows := m.windows ++ [m.newWindow display true]
        surfaces := Function.update m.surfaces m.next
          (some ⟨surfaceRect m.mode display.rect, m.enabled⟩)
        next := m.next + 1 } := by
  cases hon : m.enabled with
  | true =>
    simp only [Manager.addWindow, if_true, hon, Manager.showWindow, Manager.alter,
      Function.update_self, Option.map_some, Function.update_idem, Manager.newWindow]
  | false =>
    have hmode : m.mode ≠ .region := by
      intro hregion
      have hoff := hm.mode
      rw [hon, hregion] at hoff
      exact absurd hoff (by decide)
    simp only [Manager.addWindow, if_true, hon, Bool.false_eq_true, if_false, Manager.newWindow,
      surfaceRect_of_ne_region hmode]

theorem sound_addWindow (hm : m.Sound) {display : LauncherDisplay} (hsize : ¬Empty display.rect)
    (hnew : ∀ other ∈ m.windows, other.target ≠ display.target) (created : Bool) :
    (m.addWindow display created).Sound := by
  have hfree := hm.linked.surfaces_next
  cases created with
  | false =>
    rw [addWindow_refused]
    refine ⟨?_, ?_, hm.mode, hm.hidden⟩
    · exact linked_append hm.linked hnew (Nat.le_refl _)
        (fun k hk => absurd hk (by simp [Manager.newWindow])) fun k => by simp [Manager.newWindow]
    · intro window hwindow
      rcases List.mem_append.1 hwindow with hwindow | hwindow
      · exact hm.placed window hwindow
      · rw [List.mem_singleton.1 hwindow]
        exact ⟨hsize, rfl, fun k hk => absurd hk (by simp [Manager.newWindow])⟩
  | true =>
    rw [addWindow_created hm]
    refine ⟨?_, ?_, hm.mode, ?_⟩
    · refine linked_append hm.linked hnew (Nat.le_succ _) ?_ ?_
      · intro k hk
        obtain rfl : m.next = k := Option.some.inj hk
        exact ⟨rfl, Nat.lt_succ_self _⟩
      · intro k
        show (Function.update m.surfaces m.next _ k).isSome = true ↔
          _ ∨ some m.next = some k
        by_cases hk : k = m.next
        · rw [hk, Function.update_self]
          simp
        · rw [Function.update_of_ne hk]
          simp [Ne.symm hk]
    · intro window hwindow
      rcases List.mem_append.1 hwindow with hwindow | hwindow
      · obtain ⟨hsized, hrect, hsurface⟩ := hm.placed window hwindow
        refine ⟨hsized, hrect, ?_⟩
        intro k hk
        have hlt := hm.linked.fresh window.id (List.mem_map_of_mem hwindow) k hk
        show ∃ visible, Function.update m.surfaces m.next _ k = _
        rw [Function.update_of_ne (Nat.ne_of_lt hlt)]
        exact hsurface k hk
      · rw [List.mem_singleton.1 hwindow]
        refine ⟨hsize, rfl, ?_⟩
        intro k hk
        obtain rfl : m.next = k := Option.some.inj hk
        exact ⟨m.enabled, Function.update_self _ _ _⟩
    · intro hoff k surface hsurface
      have hoff' : m.enabled = false := hoff
      have hsurface' : Function.update m.surfaces m.next _ k = some surface := hsurface
      by_cases hk : k = m.next
      · rw [hk, Function.update_self] at hsurface'
        rw [← Option.some.inj hsurface']
        exact hoff'
      · rw [Function.update_of_ne hk] at hsurface'
        exact hm.hidden hoff' k surface hsurface'

theorem sound_syncDisplay (hm : m.Sound) (entry : LauncherDisplay × Bool) :
    (m.syncDisplay entry).Sound := by
  unfold Manager.syncDisplay
  split
  · exact hm
  · rename_i hsize
    cases hfind : m.windows.findIdx? fun window => window.target == entry.1.target with
    | none =>
      refine sound_addWindow hm hsize ?_ entry.2
      intro other hother
      simpa using List.findIdx?_eq_none_iff.1 hfind other hother
    | some i =>
      obtain ⟨hi, -, -⟩ := List.findIdx?_eq_some_iff_getElem.1 hfind
      have hwindow : m.windows[i]? = some m.windows[i] := List.getElem?_eq_getElem hi
      obtain ⟨hsteady, hmode, henabled, hown, hothers⟩ :=
        repositionAt_spec hm.steady hwindow hsize
      refine ⟨hsteady.linked, ?_, hsteady.mode, ?_⟩
      · simp only [windows_repositionAt hwindow, hmode]
        intro x hx
        obtain ⟨j, hj⟩ := List.mem_iff_getElem?.1 hx
        rw [List.getElem?_set] at hj
        split at hj
        · rw [← Option.some.inj hj]
          exact hown
        · rename_i hij
          exact hothers j x (Ne.symm hij) hj (hm.placed x (List.mem_of_getElem? hj))
      · intro hoff k surface hsurface
        rw [henabled] at hoff
        simp only [repositionAt_eq hwindow, surfaces_alter] at hsurface
        split at hsurface
        · obtain ⟨old, hold, rfl⟩ := Option.map_eq_some_iff.1 hsurface
          exact hm.hidden hoff k old hold
        · exact hm.hidden hoff k surface hsurface

theorem sound_foldl_syncDisplay (hm : m.Sound) (displays : List (LauncherDisplay × Bool)) :
    (displays.foldl Manager.syncDisplay m).Sound := by
  induction displays generalizing m with
  | nil => exact hm
  | cons entry displays ih => exact ih (sound_syncDisplay hm entry)

/-- Windows that are destroyed and forgotten. -/
theorem sound_remove (hm : m.Sound) (keep : LauncherWindow → Bool) :
    ({ (m.windows.filter fun window => !keep window).foldl Manager.destroyWindow m with
        windows := m.windows.filter keep } : Manager).Sound := by
  have hspec := foldl_alter (g := fun _ => none) (fun _ => rfl)
    (m.windows.filter fun window => !keep window) m
  have hfold : (m.windows.filter fun window => !keep window).foldl Manager.destroyWindow m =
      (m.windows.filter fun window => !keep window).foldl
        (fun m window => m.alter window.handle fun _ => none) m := rfl
  rw [← hfold] at hspec
  generalize (m.windows.filter fun window => !keep window).foldl Manager.destroyWindow m = left
    at hspec
  obtain ⟨-, hmode, henabled, hnext, hsurfaces⟩ := hspec
  have hkept {window : LauncherWindow} (hwindow : window ∈ m.windows.filter keep) {k : Nat}
      (hk : window.handle = some k) :
      ¬∃ other ∈ m.windows.filter fun window => !keep window, other.handle = some k := by
    intro ⟨other, hother, hother'⟩
    obtain ⟨hmem, hkeep⟩ := List.mem_filter.1 hwindow
    obtain ⟨hmem', hgone⟩ := List.mem_filter.1 hother
    have hsame := hm.linked.handle_inj hmem hmem' hk hother'
    rw [← hsame, hkeep] at hgone
    exact Bool.noConfusion hgone
  refine ⟨⟨?_, ?_, ?_, ?_⟩, ?_, ?_, ?_⟩
  · exact hm.linked.unique.sublist ((List.filter_sublist.map _).map _)
  · exact hm.linked.apart.sublist (List.filter_sublist.map _)
  · intro id hid k hk
    show k < left.next
    rw [hnext]
    exact hm.linked.fresh id ((List.filter_sublist.map _).subset hid) k hk
  · intro k
    show (left.surfaces k).isSome = true ↔ _
    rw [hsurfaces]
    constructor
    · intro hsome
      split at hsome
      · exact absurd hsome (by simp)
      · rename_i hgone
        obtain ⟨id, hid, hk⟩ := (hm.linked.held k).1 hsome
        obtain ⟨window, hwindow, rfl⟩ := List.mem_map.1 hid
        refine ⟨window.id, List.mem_map_of_mem (List.mem_filter.2 ⟨hwindow, ?_⟩), hk⟩
        by_contra hkeep
        exact hgone ⟨window, List.mem_filter.2 ⟨hwindow, by simpa using hkeep⟩, hk⟩
    · intro ⟨id, hid, hk⟩
      obtain ⟨window, hwindow, rfl⟩ := List.mem_map.1 hid
      rw [if_neg (hkept hwindow hk)]
      exact (hm.linked.held k).2
        ⟨window.id, List.mem_map_of_mem (List.mem_filter.1 hwindow).1, hk⟩
  · intro window hwindow
    obtain ⟨hsized, hrect, hsurface⟩ := hm.placed window (List.mem_filter.1 hwindow).1
    refine ⟨hsized, ?_, ?_⟩
    · show _ = surfaceRect left.mode _
      rw [hmode]
      exact hrect
    · intro k hk
      show ∃ visible, left.surfaces k = _
      rw [hsurfaces, if_neg (hkept hwindow hk)]
      exact hsurface k hk
  · show left.enabled = (left.mode != _)
    rw [henabled, hmode]
    exact hm.mode
  · intro hoff k surface hsurface
    have hoff' : m.enabled = false := henabled.symm.trans hoff
    have hsurface' : (if ∃ window ∈ m.windows.filter fun window => !keep window,
        window.handle = some k then none else m.surfaces k) = some surface := by
      rw [← hsurfaces]
      exact hsurface
    split at hsurface'
    · exact absurd hsurface' (by simp)
    · exact hm.hidden hoff' k surface hsurface'

theorem sound_sync (hm : m.Sound) (displays : List (LauncherDisplay × Bool)) :
    (m.sync displays).Sound :=
  sound_remove (sound_foldl_syncDisplay hm displays) fun window =>
    displays.any fun entry => entry.1.target == window.target

theorem sound_shutdown (hm : m.Sound) : m.shutdown.Sound := by
  have hall : (m.windows.filter fun window => !(fun _ : LauncherWindow => false) window) =
      m.windows := List.filter_eq_self.2 fun _ _ => rfl
  have hnone : m.windows.filter (fun _ => false) = [] := List.filter_eq_nil_iff.2 (by simp)
  have hsound := sound_remove hm fun _ => false
  rw [hall, hnone] at hsound
  exact hsound

/-- After any calls, whichever windows could be created, each target has one window, and Windows has
the windows of the manager and no others. -/
theorem sound_calls (calls : List Call) : (calls.foldl Manager.call {}).Sound := by
  have hstep (m : Manager) (hm : m.Sound) (call : Call) : (m.call call).Sound := by
    cases call with
    | sync displays => exact sound_sync hm displays
    | setMode mode => exact sound_setMode hm mode
    | revealDesktop => exact sound_showAll hm
    | shutdown => exact sound_shutdown hm
    | escape i =>
      cases hi : m.windows[i]? with
      | none =>
        simp only [Manager.call, hi]
        exact hm
      | some window =>
        simp only [Manager.call, hi]
        exact sound_hideWindow hm (List.mem_of_getElem? hi)
  have hstart : ({} : Manager).Sound := by
    refine ⟨⟨List.nodup_nil, List.Pairwise.nil, by simp, by simp⟩, by simp, rfl, ?_⟩
    intro hoff
    exact absurd hoff (by decide)
  induction calls using List.reverseRecOn with
  | nil => exact hstart
  | append_singleton calls call ih =>
    rw [List.foldl_append]
    exact hstep _ ih call

end SecondDisplay.DisplayLauncher
