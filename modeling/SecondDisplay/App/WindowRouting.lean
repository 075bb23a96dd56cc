import SecondDisplay.Display.VirtualDisplay
import SecondDisplay.Input.InputInjector

/-!
# Moving windows between monitors (`app/WindowRouting.cpp`)

A window goes to another monitor at the place it had on its own one, as far as the work area there
has room for it.  Windows answers each call about a window as it likes.  All coordinates are the
machine's `int`; what is placed lies inside the work area whatever the differences in between wrap
around to (`moved_inside`).
-/

namespace SecondDisplay.WindowRouting

open VirtualDisplay (WString wide)
open InputInjector (Rect)

/-- `HWND` and `HMONITOR`; `0` is `nullptr`. -/
abbrev Handle := UInt64

/-- What Windows answers about a window while `MoveWindowToMonitor` runs. -/
structure Window where
  handle : Handle
  isWindow : Bool
  visible : Bool
  className : WString
  style : UInt64
  /-- `MonitorFromWindow` with `MONITOR_DEFAULTTONULL`. -/
  monitor : Handle
  /-- `rcWork` of the nearest monitor. -/
  sourceWork : Option Rect
  showCmd : UInt32
  /-- `GetWindowRect`, once the window is restored. -/
  rect : Option Rect
  /-- `SetWindowPos` is carried out. -/
  positions : Bool

/-- `IsShellWindow`. -/
def isShellWindow (className : WString) : Bool :=
  className == wide "Shell_TrayWnd" || className == wide "Shell_SecondaryTrayWnd" ||
    className == wide "Progman" || className == wide "WorkerW" ||
    className == wide "TaskListThumbnailWnd"

/-- `WS_CHILD`. -/
def wsChild : UInt64 := 0x40000000

/-- `IsRoutableTopLevelWindow`. -/
def isRoutableTopLevelWindow (window : Window) : Bool :=
  if window.handle == 0 || !window.isWindow || !window.visible ||
      isShellWindow window.className then false
  else window.style &&& wsChild == 0

/-- `std::clamp`. -/
def stdClamp (value low high : Int32) : Int32 :=
  if value < low then low else if high < value then high else value

/-- `Clamp`. -/
def clamp (value minimum maximum : Int32) : Int32 := stdClamp value minimum (max minimum maximum)

/-- A call that changes a window. -/
inductive Act where
  | show (cmd : UInt32)
  | setPos (x y width height : Int32)
  deriving DecidableEq

def swShowMaximized : UInt32 := 3
def swMaximize : UInt32 := 3
def swRestore : UInt32 := 9

/-- The position and the size `SetWindowPos` is called with. -/
def newPosition (source current work : Rect) : Act :=
  let width := max 1 (current.right - current.left)
  let height := max 1 (current.bottom - current.top)
  let targetWidth := work.right - work.left
  let targetHeight := work.bottom - work.top
  let width := min width targetWidth
  let height := min height targetHeight
  let relativeX := current.left - source.left
  let relativeY := current.top - source.top
  let x := clamp (work.left + relativeX) work.left (work.right - width)
  let y := clamp (work.top + relativeY) work.top (work.bottom - height)
  .setPos x y width height

/-- `MoveWindowToMonitor`: what it does to the window, and what it returns. -/
def moveWindowToMonitor (window : Window) (target : Handle) (targetWork : Option Rect) :
    List Act × Bool :=
  if !isRoutableTopLevelWindow window || target == 0 || window.monitor == target then ([], false)
  else
    match window.sourceWork, targetWork with
    | some source, some work =>
      let maximized := window.showCmd == swShowMaximized
      let restored : List Act := if maximized then [.show swRestore] else []
      match window.rect with
      | none => (restored, false)
      | some current =>
        let placed := restored ++ [newPosition source current work]
        if window.positions then
          (placed ++ if maximized then [.show swMaximize] else [], true)
        else (placed, false)
    | _, _ => ([], false)

/-- `FindProcessWindow` over the windows in their order: the first routable one of the process
that nothing owns. -/
def findProcessWindow (processId : UInt32) (windows : List (UInt32 × Bool × Window)) :
    Option Window :=
  (windows.find? fun entry =>
    !(entry.1 != processId || !isRoutableTopLevelWindow entry.2.2 || entry.2.1)).map (·.2.2)

/-! ### One side -/

/-- A work area has a size, and an `int` holds it. -/
structure Proper (work : Rect) : Prop where
  width : work.left.toInt < work.right.toInt ∧ work.right.toInt - work.left.toInt < 2 ^ 31
  height : work.top.toInt < work.bottom.toInt ∧ work.bottom.toInt - work.top.toInt < 2 ^ 31

theorem toInt_max (a b : Int32) : (max a b).toInt = max a.toInt b.toInt := by
  show (if a ≤ b then b else a).toInt = _
  by_cases h : a ≤ b
  · have hle := Int32.le_iff_toInt_le.1 h
    rw [if_pos h]
    omega
  · have hlt := mt Int32.le_iff_toInt_le.2 h
    rw [if_neg h]
    omega

theorem toInt_min (a b : Int32) : (min a b).toInt = min a.toInt b.toInt := by
  show (if a ≤ b then a else b).toInt = _
  by_cases h : a ≤ b
  · have hle := Int32.le_iff_toInt_le.1 h
    rw [if_pos h]
    omega
  · have hlt := mt Int32.le_iff_toInt_le.2 h
    rw [if_neg h]
    omega

/-- A difference that fits is exact. -/
theorem toInt_sub_of_fits {a b : Int32} (hlow : -2 ^ 31 ≤ a.toInt - b.toInt)
    (hhigh : a.toInt - b.toInt < 2 ^ 31) : (a - b).toInt = a.toInt - b.toInt := by
  rw [Int32.toInt_sub]
  exact Int.bmod_eq_of_le (by omega) (by omega)

theorem toInt_add_of_fits {a b : Int32} (hlow : -2 ^ 31 ≤ a.toInt + b.toInt)
    (hhigh : a.toInt + b.toInt < 2 ^ 31) : (a + b).toInt = a.toInt + b.toInt := by
  rw [Int32.toInt_add]
  exact Int.bmod_eq_of_le (by omega) (by omega)

theorem toInt_clamp (value minimum maximum : Int32) (h : minimum.toInt ≤ maximum.toInt) :
    (clamp value minimum maximum).toInt =
      max minimum.toInt (min value.toInt maximum.toInt) := by
  have hmax : (max minimum maximum).toInt = maximum.toInt := by
    rw [toInt_max]
    omega
  unfold clamp stdClamp
  by_cases hlow : value < minimum
  · have hlt := Int32.lt_iff_toInt_lt.1 hlow
    rw [if_pos hlow]
    omega
  · have hge := mt Int32.lt_iff_toInt_lt.2 hlow
    rw [if_neg hlow]
    by_cases hhigh : max minimum maximum < value
    · have hlt := Int32.lt_iff_toInt_lt.1 hhigh
      rw [if_pos hhigh]
      omega
    · have hle := mt Int32.lt_iff_toInt_lt.2 hhigh
      rw [if_neg hhigh]
      omega

/-- The size along one side: at least one, and no more than the work area has. -/
theorem toInt_size (size : Int32) {low high : Int32} (hlt : low.toInt < high.toInt)
    (hfits : high.toInt - low.toInt < 2 ^ 31) :
    (min (max 1 size) (high - low)).toInt =
      min (max 1 size.toInt) (high.toInt - low.toInt) := by
  have hone : (1 : Int32).toInt = 1 := rfl
  rw [toInt_min, toInt_max, toInt_sub_of_fits (by omega) hfits, hone]

/-- **One side.**  What is placed along a side starts and ends within the work area, as near to
where it is wanted as that allows. -/
theorem toInt_place (value size : Int32) {low high : Int32} (hlt : low.toInt < high.toInt)
    (hfits : high.toInt - low.toInt < 2 ^ 31) :
    (clamp value low (high - min (max 1 size) (high - low))).toInt =
      max low.toInt
        (min value.toInt (high.toInt - (min (max 1 size) (high - low)).toInt)) := by
  have hsize := toInt_size size hlt hfits
  have hlow := low.le_toInt
  have hhigh := high.toInt_lt
  have hdiff : (high - min (max 1 size) (high - low)).toInt =
      high.toInt - (min (max 1 size) (high - low)).toInt :=
    toInt_sub_of_fits (by omega) (by omega)
  rw [toInt_clamp _ _ _ (by omega), hdiff]

/-! ### A moved window -/

/-- A rectangle within the work area, with at least one pixel. -/
structure Inside (work : Rect) (x y width height : Int32) : Prop where
  left : work.left.toInt ≤ x.toInt
  right : x.toInt + width.toInt ≤ work.right.toInt
  top : work.top.toInt ≤ y.toInt
  bottom : y.toInt + height.toInt ≤ work.bottom.toInt
  size : 1 ≤ width.toInt ∧ 1 ≤ height.toInt

/-- Coordinates as every desktop has them. -/
def Ordinary (r : Rect) : Prop :=
  ∀ side ∈ [r.left, r.top, r.right, r.bottom], -2 ^ 28 ≤ side.toInt ∧ side.toInt ≤ 2 ^ 28

instance (r : Rect) : Decidable (Ordinary r) := inferInstanceAs (Decidable (∀ _ ∈ _, _))

/-- What is placed lies inside the work area. -/
theorem newPosition_inside {source current work : Rect} (hwork : Proper work)
    {x y width height : Int32} (h : newPosition source current work = .setPos x y width height) :
    Inside work x y width height := by
  obtain ⟨⟨hwidth, hwfits⟩, ⟨hheight, hhfits⟩⟩ := hwork
  simp only [newPosition, Act.setPos.injEq] at h
  obtain ⟨hx, hy, hw, hh⟩ := h
  have hsizeX := toInt_size (current.right - current.left) hwidth hwfits
  have hsizeY := toInt_size (current.bottom - current.top) hheight hhfits
  have hplaceX := toInt_place (work.left + (current.left - source.left))
    (current.right - current.left) hwidth hwfits
  have hplaceY := toInt_place (work.top + (current.top - source.top))
    (current.bottom - current.top) hheight hhfits
  rw [hx, hw] at hplaceX
  rw [hy, hh] at hplaceY
  rw [hw] at hsizeX
  rw [hh] at hsizeY
  exact ⟨by omega, by omega, by omega, by omega, ⟨by omega, by omega⟩⟩

/-- Between ordinary rectangles a window keeps its distance from the upper left corner, as far as
the work area has room for it. -/
theorem newPosition_offset {source current work : Rect} (hwork : Proper work)
    (hordinary : Ordinary source ∧ Ordinary current ∧ Ordinary work) {x y width height : Int32}
    (h : newPosition source current work = .setPos x y width height) :
    x.toInt - work.left.toInt = max 0 (min (current.left.toInt - source.left.toInt)
        (work.right.toInt - work.left.toInt - width.toInt)) ∧
      y.toInt - work.top.toInt = max 0 (min (current.top.toInt - source.top.toInt)
        (work.bottom.toInt - work.top.toInt - height.toInt)) := by
  obtain ⟨⟨hwidth, hwfits⟩, ⟨hheight, hhfits⟩⟩ := hwork
  simp only [Ordinary, List.forall_mem_cons, List.not_mem_nil, false_implies, implies_true,
    and_true] at hordinary
  obtain ⟨⟨hsl, hst, hsr, hsb⟩, ⟨hcl, hct, hcr, hcb⟩, ⟨hwl, hwt, hwr, hwb⟩⟩ := hordinary
  simp only [newPosition, Act.setPos.injEq] at h
  obtain ⟨hx, hy, hw, hh⟩ := h
  have hplaceX := toInt_place (work.left + (current.left - source.left))
    (current.right - current.left) hwidth hwfits
  have hplaceY := toInt_place (work.top + (current.top - source.top))
    (current.bottom - current.top) hheight hhfits
  rw [hx, hw] at hplaceX
  rw [hy, hh] at hplaceY
  have hoffX : (current.left - source.left).toInt = current.left.toInt - source.left.toInt :=
    toInt_sub_of_fits (by omega) (by omega)
  have hoffY : (current.top - source.top).toInt = current.top.toInt - source.top.toInt :=
    toInt_sub_of_fits (by omega) (by omega)
  have hwantX : (work.left + (current.left - source.left)).toInt =
      work.left.toInt + (current.left.toInt - source.left.toInt) := by
    rw [toInt_add_of_fits (by omega) (by omega), hoffX]
  have hwantY : (work.top + (current.top - source.top)).toInt =
      work.top.toInt + (current.top.toInt - source.top.toInt) := by
    rw [toInt_add_of_fits (by omega) (by omega), hoffY]
  rw [hwantX] at hplaceX
  rw [hwantY] at hplaceY
  constructor
  · omega
  · omega

/-- A window that is given a position is a routable one on another monitor. -/
theorem moveWindowToMonitor_cases {window : Window} {target : Handle} {targetWork : Option Rect}
    {x y width height : Int32}
    (h : Act.setPos x y width height ∈ (moveWindowToMonitor window target targetWork).1) :
    isRoutableTopLevelWindow window = true ∧ window.monitor ≠ target ∧
      ∃ source current work, window.sourceWork = some source ∧ window.rect = some current ∧
        targetWork = some work ∧ newPosition source current work = .setPos x y width height := by
  unfold moveWindowToMonitor at h
  split at h
  · simp at h
  · rename_i hguard
    simp only [Bool.or_eq_true, Bool.not_eq_true', beq_iff_eq, not_or, Bool.not_eq_false] at hguard
    obtain ⟨⟨hroutable, -⟩, hother⟩ := hguard
    refine ⟨hroutable, hother, ?_⟩
    cases hsource : window.sourceWork with
    | none => simp [hsource] at h
    | some source =>
      cases targetWork with
      | none => simp [hsource] at h
      | some work =>
        cases hrect : window.rect with
        | none =>
          simp only [hsource, hrect] at h
          split at h <;> simp at h
        | some current =>
          refine ⟨source, current, work, rfl, rfl, rfl, ?_⟩
          simp only [hsource, hrect] at h
          split at h <;> split at h <;> simpa [eq_comm] using h

/-- **Where a window goes.**  Only a routable window of another monitor is given a position.  It
lies inside the work area there, and where all coordinates are ordinary it is as far from the corner
of the work area as it was on its own monitor, if there is room. -/
theorem moved_inside {window : Window} {target : Handle} {work : Rect} (hwork : Proper work)
    {x y width height : Int32}
    (h : Act.setPos x y width height ∈ (moveWindowToMonitor window target (some work)).1) :
    isRoutableTopLevelWindow window = true ∧ window.monitor ≠ target ∧
      Inside work x y width height ∧
      ∀ source current, window.sourceWork = some source → window.rect = some current →
        Ordinary source ∧ Ordinary current ∧ Ordinary work →
        x.toInt - work.left.toInt = max 0 (min (current.left.toInt - source.left.toInt)
            (work.right.toInt - work.left.toInt - width.toInt)) ∧
          y.toInt - work.top.toInt = max 0 (min (current.top.toInt - source.top.toInt)
            (work.bottom.toInt - work.top.toInt - height.toInt)) := by
  obtain ⟨hroutable, hother, source, current, work', hsource, hrect, hwork', hnew⟩ :=
    moveWindowToMonitor_cases h
  cases hwork'
  refine ⟨hroutable, hother, newPosition_inside hwork hnew, ?_⟩
  intro source' current' hsource' hrect' hordinary
  rw [hsource] at hsource'
  rw [hrect] at hrect'
  cases hsource'
  cases hrect'
  exact newPosition_offset hwork hordinary hnew

/-! A window of 1000 by 700 pixels near the right edge of a full-HD monitor goes to a tablet of
800 by 600 pixels on its left. -/

def wideWindow : Window where
  handle := 1
  isWindow := true
  visible := true
  className := wide "Notepad"
  style := 0
  monitor := 7
  sourceWork := some ⟨0, 0, 1920, 1040⟩
  showCmd := swShowMaximized
  rect := some ⟨900, 100, 1900, 800⟩
  positions := true

theorem moved_inside_tablet :
    (moveWindowToMonitor wideWindow 8 (some ⟨-800, 0, 0, 600⟩)).1 =
        [.show swRestore, .setPos (-800) 0 800 600, .show swMaximize] ∧
      Inside ⟨-800, 0, 0, 600⟩ (-800) 0 800 600 :=
  ⟨by decide, (@moved_inside wideWindow 8 _ ⟨by decide, by decide⟩ _ _ _ _
    (by decide)).2.2.1⟩

end SecondDisplay.WindowRouting
