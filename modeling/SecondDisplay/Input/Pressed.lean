import SecondDisplay.Input.InputInjector
import SecondDisplay.Library.EventLog

/-!
# Nothing stays pressed (`input/InputInjector.cpp`)

A connection can end between the beginning and the end of a touch or a stroke, and messages come in
any order.  What is pressed is read off from what was injected: the last event of the left button,
and the last frame of the pen.  The flags of the injector always agree with that (`Inv`), nothing is
released that is not pressed, and behind `EndSession` nothing is (`nothing_stays_pressed`).
-/

namespace SecondDisplay.InputInjector

open EventLog (lastOf lastOf_append Legal legal_nil)
open Protocol (TouchMsg ScrollMsg PencilMsg ProximityMsg)

variable {D : Type}

/-! ### What was injected -/

/-- The flags of a mouse event that are among some flags. -/
def Injected.hasMouse (flags : UInt32) : Injected → Bool
  | .mouse given _ _ _ => given &&& flags != 0
  | .pen _ => false

/-- The flags of a frame of the pen that are among some flags. -/
def Injected.hasPen (flags : UInt32) : Injected → Bool
  | .mouse .. => false
  | .pen frame => frame.flags &&& flags != 0

def Injected.isPenFrame : Injected → Bool
  | .mouse .. => false
  | .pen _ => true

/-- The last event of the left button is a press. -/
def pressed (log : List Injected) : Bool :=
  (lastOf (Injected.hasMouse (mouseLeftDown ||| mouseLeftUp)) log).any
    (Injected.hasMouse mouseLeftDown)

/-- The last time the pen came down or went up, it came down. -/
def penIsDown (log : List Injected) : Bool :=
  (lastOf (Injected.hasPen (pointerDown ||| pointerUp)) log).any (Injected.hasPen pointerDown)

/-- The last frame of the pen has it in range. -/
def penIsInRange (log : List Injected) : Bool :=
  (lastOf Injected.isPenFrame log).any (Injected.hasPen pointerInRange)

/-- What may be injected: a release of the button only while it is pressed, a frame that lifts the
pen, or updates it in contact, only while it is down, and one that takes it out of range only while
it is not. -/
structure Allowed (log : List Injected) (e : Injected) : Prop where
  release : e.hasMouse mouseLeftUp = true → pressed log = true
  up : e.hasPen pointerUp = true → penIsDown log = true
  contact : e.hasPen pointerInContact = true → e.hasPen pointerUpdate = true →
    penIsDown log = true
  leave : e.isPenFrame = true → e.hasPen pointerInRange = false → penIsDown log = false

/-- The flags of the injector agree with what was injected. -/
structure Inv (s : Injector) : Prop where
  button : s.isDown = pressed s.injected
  down : s.penDown = penIsDown s.injected
  range : s.penInRange = penIsInRange s.injected
  inRange : s.penDown = true → s.penInRange = true
  device : s.penInRange = true → s.penDevice = true
  legal : Legal Allowed s.injected

theorem inv_start : Inv {} := by
  refine ⟨rfl, rfl, rfl, ?_, ?_, legal_nil⟩
  · intro h
    cases h
  · intro h
    cases h

/-- **One more event** keeps the flags in agreement, if they change with it. -/
theorem Inv.add {s s' : Injector} (inv : Inv s) (e : Injected) (he : Allowed s.injected e)
    (hlog : s'.injected = s.injected ++ [e])
    (hbutton : s'.isDown = if e.hasMouse (mouseLeftDown ||| mouseLeftUp) then
      e.hasMouse mouseLeftDown else s.isDown)
    (hdown : s'.penDown = if e.hasPen (pointerDown ||| pointerUp) then e.hasPen pointerDown
      else s.penDown)
    (hrange : s'.penInRange = if e.isPenFrame then e.hasPen pointerInRange else s.penInRange)
    (hinRange : s'.penDown = true → s'.penInRange = true)
    (hdevice : s'.penInRange = true → s'.penDevice = true) : Inv s' := by
  refine ⟨?_, ?_, ?_, hinRange, hdevice, hlog ▸ inv.legal.append he⟩
  · rw [hbutton, hlog, pressed, lastOf_append, inv.button]
    split
    · rfl
    · rfl
  · rw [hdown, hlog, penIsDown, lastOf_append, inv.down]
    split
    · rfl
    · rfl
  · rw [hrange, hlog, penIsInRange, lastOf_append, inv.range]
    split
    · rfl
    · rfl

/-! ### The mouse -/

variable {s : Injector}

theorem allowed_mouse {log : List Injected} {flags : UInt32} (dx dy mouseData : Int32)
    (h : (flags &&& mouseLeftUp != 0) = true → pressed log = true) :
    Allowed log (.mouse flags dx dy mouseData) where
  release := h
  up hup := by cases hup
  contact hcontact := by cases hcontact
  leave hframe := by cases hframe

/-- A mouse event without the left button. -/
theorem Inv.mouse (inv : Inv s) {flags : UInt32}
    (hleft : (flags &&& (mouseLeftDown ||| mouseLeftUp) != 0) = false)
    (hup : (flags &&& mouseLeftUp != 0) = false) (dx dy mouseData : Int32) :
    Inv (s.sendMouseInput flags dx dy mouseData) := by
  refine inv.add (.mouse flags dx dy mouseData) (allowed_mouse dx dy mouseData ?_) rfl ?_ rfl rfl
    inv.inRange inv.device
  · intro h
    rw [hup] at h
    cases h
  · show s.isDown = if (flags &&& (mouseLeftDown ||| mouseLeftUp) != 0) = true then _ else s.isDown
    rw [hleft, if_neg Bool.false_ne_true]

theorem Inv.press (inv : Inv s) (dx dy : Int32) :
    Inv { s.sendMouseInput (mouseLeftDown ||| mouseAbsolute ||| mouseVirtualDesk) dx dy 0 with
      isDown := true } :=
  inv.add (.mouse _ dx dy 0) (allowed_mouse dx dy 0 fun h => by cases h) rfl rfl rfl rfl
    inv.inRange inv.device

/-- The button is released, with or without a position, while it is pressed. -/
theorem Inv.release (inv : Inv s) (hdown : s.isDown = true) {flags : UInt32}
    (hflags : flags = mouseLeftUp ||| mouseAbsolute ||| mouseVirtualDesk ∨ flags = mouseLeftUp)
    (dx dy : Int32) : Inv { s.sendMouseInput flags dx dy 0 with isDown := false } := by
  have hpressed : pressed s.injected = true := inv.button ▸ hdown
  refine inv.add (.mouse flags dx dy 0) (allowed_mouse dx dy 0 fun _ => hpressed) rfl ?_ rfl rfl
    inv.inRange inv.device
  obtain rfl | rfl := hflags
  · rfl
  · rfl

/-- A touch. -/
theorem Inv.handleTouch (inv : Inv s) (a : Arithmetic D) (screen : VirtualScreen)
    (touch : TouchMsg D) : Inv (s.handleTouch a screen touch) := by
  rw [Injector.handleTouch]
  have hmove (dx dy : Int32) :
      Inv (s.sendMouseInput (mouseMove ||| mouseAbsolute ||| mouseVirtualDesk) dx dy 0) :=
    inv.mouse rfl rfl dx dy 0
  have hend (dx dy : Int32) {s' : Injector} (inv' : Inv s') :
      Inv { (if s'.isDown then
        s'.sendMouseInput (mouseLeftUp ||| mouseAbsolute ||| mouseVirtualDesk) dx dy 0
          else s') with isDown := false } := by
    cases hdown : s'.isDown with
    | true => exact inv'.release hdown (.inl rfl) dx dy
    | false =>
      rw [if_neg Bool.false_ne_true, ← hdown]
      exact inv'
  cases touch.phase with
  | began => exact (hmove _ _).press _ _
  | moved => exact hmove _ _
  | ended => exact hend _ _ (hmove _ _)
  | cancelled => exact hend _ _ (hmove _ _)
  | unknown => exact inv

theorem Inv.handleScroll (inv : Inv s) (a : Arithmetic D) (scroll : ScrollMsg D) :
    Inv (s.handleScroll a scroll) := by
  have hwheel {s' : Injector} (inv' : Inv s') {flags : UInt32}
      (hleft : (flags &&& (mouseLeftDown ||| mouseLeftUp) != 0) = false)
      (hup : (flags &&& mouseLeftUp != 0) = false) (distance : D) :
      Inv (s'.scrollBy a flags distance) := by
    rw [Injector.scrollBy]
    split
    · exact inv'
    · dsimp only
      split
      · exact inv'
      · exact inv'.mouse hleft hup _ _ _
  exact hwheel (hwheel inv rfl rfl scroll.dy) rfl rfl scroll.dx

/-! ### The pen -/

variable {a : Arithmetic D} {windows : Windows}

/-- **One more frame of the pen** keeps the flags in agreement, if they change with its flags. -/
theorem Inv.pen {s' : Injector} (inv : Inv s) (frame : PenFrame) (flags : UInt32)
    (hflags : frame.flags = flags) (hlog : s'.injected = s.injected ++ [.pen frame])
    (hbutton : s'.isDown = s.isDown)
    (hdown : s'.penDown = if flags &&& (pointerDown ||| pointerUp) != 0 then
      flags &&& pointerDown != 0 else s.penDown)
    (hrange : s'.penInRange = (flags &&& pointerInRange != 0))
    (hinRange : s'.penDown = true → s'.penInRange = true)
    (hdevice : s'.penInRange = true → s'.penDevice = true)
    (hcontact : (flags &&& pointerUp != 0) = true ∨ (flags &&& pointerInContact != 0) = true ∧
      (flags &&& pointerUpdate != 0) = true → s.penDown = true)
    (hleave : (flags &&& pointerInRange != 0) = false → s.penDown = false) : Inv s' := by
  subst hflags
  refine inv.add (.pen frame) ⟨?_, ?_, ?_, ?_⟩ hlog hbutton hdown hrange hinRange hdevice
  · intro h
    cases h
  · exact fun h => inv.down ▸ hcontact (.inl h)
  · exact fun hin hupdate => inv.down ▸ hcontact (.inr ⟨hin, hupdate⟩)
  · exact fun _ h => inv.down ▸ hleave h

/-- The pen comes down. -/
theorem Inv.penDown (inv : Inv s) (hdevice : s.penDevice = true) (pt : Point)
    (pressure azimuth altitude : D) :
    Inv { s.injectPen a windows (pointerInRange ||| pointerInContact ||| pointerDown) pt pressure
      azimuth altitude with penDown := true, penInRange := true } := by
  refine inv.pen _ (pointerInRange ||| pointerInContact ||| pointerDown) rfl rfl rfl rfl rfl
    (fun _ => rfl) (fun _ => hdevice) ?_ fun h => by cases h
  intro h
  obtain h | h := h
  · cases h
  · cases h.2

/-- A stroke goes on. -/
theorem Inv.penStroke (inv : Inv s) (hdown : s.penDown = true) (pt : Point)
    (pressure azimuth altitude : D) :
    Inv { s.injectPen a windows (pointerInRange ||| pointerInContact ||| pointerUpdate) pt pressure
      azimuth altitude with penInRange := true } :=
  inv.pen _ (pointerInRange ||| pointerInContact ||| pointerUpdate) rfl rfl rfl rfl rfl
    (fun _ => rfl) (fun _ => inv.device (inv.inRange hdown)) (fun _ => hdown) fun h => by cases h

/-- The pen hovers. -/
theorem Inv.penHover (inv : Inv s) (hdevice : s.penDevice = true) (pt : Point)
    (pressure azimuth altitude : D) :
    Inv { s.injectPen a windows (pointerInRange ||| pointerUpdate) pt pressure azimuth
      altitude with penInRange := true } := by
  refine inv.pen _ (pointerInRange ||| pointerUpdate) rfl rfl rfl rfl rfl (fun _ => rfl)
    (fun _ => hdevice) ?_ fun h => by cases h
  intro h
  obtain h | h := h
  · cases h
  · cases h.1

/-- The pen leaves while it is up. -/
theorem Inv.penLeave (inv : Inv s) (hup : s.penDown = false) (pt : Point)
    (pressure azimuth altitude : D) :
    Inv { s.injectPen a windows pointerUpdate pt pressure azimuth altitude with
      penInRange := false } := by
  refine inv.pen _ pointerUpdate rfl rfl rfl rfl rfl ?_ (fun h => by cases h) ?_ fun _ => hup
  · intro h
    exact absurd (hup.symm.trans h) Bool.false_ne_true
  · intro h
    obtain h | h := h
    · cases h
    · cases h.1

/-- The pen is lifted if it is down. -/
theorem Inv.releasePenIfDown (inv : Inv s) (pt : Point) :
    Inv (s.releasePenIfDown a windows pt) := by
  rw [Injector.releasePenIfDown]
  cases hdown : s.penDown with
  | false => exact inv
  | true =>
    have hrange := inv.inRange hdown
    exact inv.pen _ (pointerInRange ||| pointerUp) rfl rfl rfl rfl hrange (fun h => by cases h)
      inv.device (fun _ => hdown) fun h => by cases h

theorem releasePenIfDown_penDown (s : Injector) (pt : Point) :
    (s.releasePenIfDown a windows pt).penDown = false := by
  rw [Injector.releasePenIfDown]
  cases hdown : s.penDown with
  | false => exact hdown
  | true => rfl

/-- Lifting the pen changes neither its device nor whether it is in range. -/
theorem releasePenIfDown_same (s : Injector) (pt : Point) :
    (s.releasePenIfDown a windows pt).penDevice = s.penDevice ∧
      (s.releasePenIfDown a windows pt).penInRange = s.penInRange ∧
      (s.releasePenIfDown a windows pt).isDown = s.isDown := by
  rw [Injector.releasePenIfDown]
  split
  · exact ⟨rfl, rfl, rfl⟩
  · exact ⟨rfl, rfl, rfl⟩

/-- The device is there where `EnsurePenDevice` says so. -/
theorem Inv.ensurePenDevice (inv : Inv s) (windows : Windows) :
    Inv (s.ensurePenDevice windows).1 ∧ ((s.ensurePenDevice windows).2 = true →
      (s.ensurePenDevice windows).1.penDevice = true) := by
  have hsame {s' : Injector} (hdevice : s.penDevice = true → s'.penDevice = true)
      (hrest : s'.isDown = s.isDown ∧ s'.penDown = s.penDown ∧ s'.penInRange = s.penInRange ∧
        s'.injected = s.injected) : Inv s' := by
    obtain ⟨hbutton, hdown, hrange, hlog⟩ := hrest
    refine ⟨?_, ?_, ?_, ?_, ?_, hlog ▸ inv.legal⟩
    · rw [hbutton, hlog, inv.button]
    · rw [hdown, hlog, inv.down]
    · rw [hrange, hlog, inv.range]
    · rw [hdown, hrange]
      exact inv.inRange
    · rw [hrange]
      exact fun h => hdevice (inv.device h)
  rw [Injector.ensurePenDevice]
  split
  · rename_i hthere
    exact ⟨inv, fun _ => hthere⟩
  · split
    · exact ⟨inv, fun h => by cases h⟩
    · split
      · exact ⟨hsame (fun _ => rfl) ⟨rfl, rfl, rfl, rfl⟩, fun _ => rfl⟩
      · exact ⟨hsame id ⟨rfl, rfl, rfl, rfl⟩, fun h => by cases h⟩

theorem Inv.handlePencil (inv : Inv s) (pencil : PencilMsg D) :
    Inv (s.handlePencil a windows pencil) := by
  rw [Injector.handlePencil]
  obtain ⟨inv', hdevice⟩ := inv.ensurePenDevice windows
  generalize s.ensurePenDevice windows = answer at inv' hdevice ⊢
  obtain ⟨s', there⟩ := answer
  cases there with
  | false => exact inv'
  | true =>
    have hdevice' : s'.penDevice = true := hdevice rfl
    dsimp only
    cases pencil.phase with
    | down => exact inv'.penDown hdevice' _ _ _ _
    | move =>
      dsimp only
      cases hdown : s'.penDown with
      | true => exact inv'.penStroke hdown _ _ _ _
      | false => exact inv'.penHover hdevice' _ _ _ _
    | up => exact inv'.releasePenIfDown _
    | hover =>
      refine (inv'.releasePenIfDown _).penHover ?_ _ _ _ _
      rw [(releasePenIfDown_same s' _).1]
      exact hdevice'
    | unknown => exact inv'

theorem Inv.handleProximity (inv : Inv s) (proximity : ProximityMsg D) :
    Inv (s.handleProximity a windows proximity) := by
  rw [Injector.handleProximity]
  obtain ⟨inv', hdevice⟩ := inv.ensurePenDevice windows
  generalize s.ensurePenDevice windows = answer at inv' hdevice ⊢
  obtain ⟨s', there⟩ := answer
  cases there with
  | false => exact inv'
  | true =>
    dsimp only
    split
    · exact inv'
    · cases hentering : proximity.entering with
      | true => exact inv'.penHover (hdevice rfl) _ _ _ _
      | false => exact (inv'.releasePenIfDown _).penLeave (releasePenIfDown_penDown s' _) _ _ _ _

/-! ### The end of a session -/

/-- The button is released and the pen is up and out of range, for the injector and for Windows. -/
structure Released (s : Injector) : Prop where
  button : s.isDown = false ∧ pressed s.injected = false
  pen : s.penDown = false ∧ penIsDown s.injected = false
  range : s.penInRange = false ∧ penIsInRange s.injected = false

theorem Inv.released (inv : Inv s) (hbutton : s.isDown = false) (hrange : s.penInRange = false) :
    Released s := by
  have hdown : s.penDown = false := by
    cases h : s.penDown with
    | false => rfl
    | true => exact absurd (hrange.symm.trans (inv.inRange h)) Bool.false_ne_true
  exact ⟨⟨hbutton, inv.button ▸ hbutton⟩, ⟨hdown, inv.down ▸ hdown⟩, hrange, inv.range ▸ hrange⟩

/-- **The end of a session** releases what is pressed. -/
theorem Inv.endSession (inv : Inv s) :
    Inv (s.endSession a windows) ∧ Released (s.endSession a windows) := by
  rw [Injector.endSession]
  obtain ⟨s', hs', inv', hbutton⟩ : ∃ s', (if s.isDown then
      { s.sendMouseInput mouseLeftUp 0 0 0 with isDown := false } else s) = s' ∧ Inv s' ∧
        s'.isDown = false := by
    cases hdown : s.isDown with
    | true => exact ⟨_, rfl, inv.release hdown (.inr rfl) 0 0, rfl⟩
    | false => exact ⟨s, rfl, inv, hdown⟩
  rw [hs']
  dsimp only
  cases hdevice : s'.penDevice with
  | false =>
    have hrange : s'.penInRange = false := by
      cases h : s'.penInRange with
      | false => rfl
      | true => exact absurd (hdevice.symm.trans (inv'.device h)) Bool.false_ne_true
    exact ⟨inv', inv'.released hbutton hrange⟩
  | true =>
    have lifted : Inv (s'.releasePenIfDown a windows s'.lastPenPoint) := inv'.releasePenIfDown _
    have hsame : (s'.releasePenIfDown a windows s'.lastPenPoint).isDown = s'.isDown :=
      (releasePenIfDown_same s' s'.lastPenPoint).2.2
    have hup : (s'.releasePenIfDown a windows s'.lastPenPoint).penDown = false :=
      releasePenIfDown_penDown s' s'.lastPenPoint
    rw [if_pos rfl]
    split
    · suffices hleft : Inv _ from ⟨hleft, hleft.released (hsame.trans hbutton) rfl⟩
      exact lifted.penLeave hup _ _ _ _
    · rename_i hrange
      exact ⟨lifted, lifted.released (hsame.trans hbutton) (Bool.eq_false_iff.2 hrange)⟩

/-! ### Runs -/

/-- **One call.** -/
theorem Inv.after (inv : Inv s) (call : Call D) : Inv (s.after a call) := by
  cases call with
  | setMonitorRect rect =>
    exact ⟨inv.button, inv.down, inv.range, inv.inRange, inv.device, inv.legal⟩
  | touch screen msg => exact inv.handleTouch a screen msg
  | scroll msg => exact inv.handleScroll a msg
  | pencil windows msg => exact inv.handlePencil msg
  | proximity windows msg => exact inv.handleProximity msg
  | endSession windows => exact inv.endSession.1

/-- **All calls.** -/
theorem inv_run (a : Arithmetic D) (calls : List (Call D)) : Inv (run a calls) := by
  suffices key : ∀ s : Injector, Inv s → Inv (calls.foldl (Injector.after a) s) from
    key {} inv_start
  induction calls with
  | nil => exact fun s inv => inv
  | cons call calls ih => exact fun s inv => ih (s.after a call) (inv.after call)

/-- **Nothing stays pressed.**  Behind any calls the flags of the injector say what Windows holds
pressed, every release and every frame of the pen was allowed where it was injected, and behind
`EndSession` nothing is pressed. -/
theorem nothing_stays_pressed (a : Arithmetic D) (calls : List (Call D)) :
    ((run a calls).isDown = true ↔ pressed (run a calls).injected = true) ∧
    ((run a calls).penDown = true ↔ penIsDown (run a calls).injected = true) ∧
    ((run a calls).penDown = true →
      (run a calls).penInRange = true ∧ (run a calls).penDevice = true) ∧
    Legal Allowed (run a calls).injected ∧
    ∀ windows, Released ((run a calls).endSession a windows) := by
  have inv := inv_run a calls
  refine ⟨?_, ?_, ?_, inv.legal, fun windows => inv.endSession.2⟩
  · rw [inv.button]
  · rw [inv.down]
  · exact fun hdown => ⟨inv.inRange hdown, inv.device (inv.inRange hdown)⟩

end SecondDisplay.InputInjector
