import SecondDisplay.Net.Protocol

/-!
# Touches and strokes on the desktop (`input/InputInjector.cpp`)

The messages of a receiver become input of Windows: a finger is the mouse with its left button, and
the Apple Pencil is a pen device of its own, which is created when it is first needed.  The injector
keeps what is pressed, so that it can be released when the connection ends.  All injections so far
are part of the state, in their order.
-/

namespace SecondDisplay.InputInjector

open Protocol (TouchMsg ScrollMsg PencilMsg ProximityMsg)

/-! ### Windows -/

/-- `RECT`. -/
structure Rect where
  left : Int32 := 0
  top : Int32 := 0
  right : Int32 := 0
  bottom : Int32 := 0
  deriving DecidableEq

/-- `POINT`. -/
structure Point where
  x : Int32 := 0
  y : Int32 := 0
  deriving DecidableEq

/-- The virtual screen, as `GetSystemMetrics` describes it. -/
structure VirtualScreen where
  /-- `SM_XVIRTUALSCREEN`. -/
  x : Int32
  /-- `SM_YVIRTUALSCREEN`. -/
  y : Int32
  /-- `SM_CXVIRTUALSCREEN`. -/
  width : Int32
  /-- `SM_CYVIRTUALSCREEN`. -/
  height : Int32

/-- `POINTER_PEN_INFO`, as far as it differs from frame to frame. -/
structure PenFrame where
  flags : UInt32
  point : Point
  pressure : UInt32
  tiltX : Int32
  tiltY : Int32
  deriving DecidableEq

/-- What is injected: an `INPUT` of the mouse, or a frame of the pen. -/
inductive Injected where
  | mouse (flags : UInt32) (dx dy mouseData : Int32)
  | pen (frame : PenFrame)
  deriving DecidableEq

/-- What Windows answers during a call. -/
structure Windows where
  screen : VirtualScreen
  /-- `CreateSyntheticPointerDevice` gives a device. -/
  createsPen : Bool
  /-- What `InjectSyntheticPointerInput` returns for a frame. -/
  accepts : PenFrame → Bool

def mouseMove : UInt32 := 0x0001
def mouseLeftDown : UInt32 := 0x0002
def mouseLeftUp : UInt32 := 0x0004
def mouseWheel : UInt32 := 0x0800
def mouseHWheel : UInt32 := 0x1000
def mouseVirtualDesk : UInt32 := 0x4000
def mouseAbsolute : UInt32 := 0x8000

def pointerInRange : UInt32 := 0x00000002
def pointerInContact : UInt32 := 0x00000004
def pointerDown : UInt32 := 0x00010000
def pointerUpdate : UInt32 := 0x00020000
def pointerUp : UInt32 := 0x00040000

/-- `WHEEL_DELTA`. -/
def wheelDelta : Int := 120

/-! ### Coordinates -/

/-- The operations on `double` that the injector uses. -/
structure Arithmetic (D : Type) where
  ofInt : Int → D
  less : D → D → Bool
  equal : D → D → Bool
  mul : D → D → D
  div : D → D → D
  /-- `static_cast<LONG>`. -/
  toLong : D → Int32
  lround : D → Int32
  /-- `DeriveTilt`: the tilt of an azimuth and an altitude, in degrees. -/
  deriveTilt : D → D → Int32 × Int32
  /-- `kPencilAltitudeUpright`. -/
  upright : D

variable {D : Type} (a : Arithmetic D)

/-- `std::clamp`. -/
def clamp (value low high : D) : D :=
  if a.less value low then low else if a.less high value then high else value

/-- `Normalized`. -/
def normalized (value : D) : D := clamp a value (a.ofInt 0) (a.ofInt 1)

/-- The pixel of a normalized position in the monitor, with one of the two roundings. -/
def pixelIn (round : D → Int32) (rect : Rect) (x y : D) : Point where
  x := rect.left + round (a.mul (normalized a x) (a.ofInt (rect.right - rect.left).toInt))
  y := rect.top + round (a.mul (normalized a y) (a.ofInt (rect.bottom - rect.top).toInt))

/-- `screenX` and `screenY` of `HandleTouch`. -/
def touchPixel (rect : Rect) (touch : TouchMsg D) : Point :=
  pixelIn a a.toLong rect touch.x touch.y

/-- The pixel of `ScreenPoint`, before it is shifted. -/
def penPixel (rect : Rect) (x y : D) : Point := pixelIn a a.lround rect x y

/-- `NormalizeToVirtualDesktop`. -/
def normalizeToVirtualDesktop (screenCoord origin extent : Int32) : Int32 :=
  if extent ≤ 0 then 0
  else a.toLong (a.div (a.mul (a.ofInt (screenCoord - origin).toInt) (a.ofInt 65535))
    (a.ofInt extent.toInt))

/-! ### The injector -/

/-- `InputInjector`. -/
structure Injector where
  monitorRect : Rect := {}
  isDown : Bool := false
  /-- `penDevice_` is not null. -/
  penDevice : Bool := false
  penDeviceFailed : Bool := false
  injectFailed : Bool := false
  penDown : Bool := false
  penInRange : Bool := false
  lastPenPoint : Point := {}
  /-- All that was injected so far. -/
  injected : List Injected := []

namespace Injector

/-- `SetMonitorRect`. -/
def setMonitorRect (s : Injector) (rect : Rect) : Injector := { s with monitorRect := rect }

/-- `SendMouseInput`. -/
def sendMouseInput (s : Injector) (flags : UInt32) (dx dy mouseData : Int32) : Injector :=
  { s with injected := s.injected ++ [.mouse flags dx dy mouseData] }

/-- `HandleTouch`. -/
def handleTouch (s : Injector) (screen : VirtualScreen) (touch : TouchMsg D) : Injector :=
  let pixel := touchPixel a s.monitorRect touch
  let normX := normalizeToVirtualDesktop a pixel.x screen.x screen.width
  let normY := normalizeToVirtualDesktop a pixel.y screen.y screen.height
  let moveFlags := mouseMove ||| mouseAbsolute ||| mouseVirtualDesk
  match touch.phase with
  | .began =>
    let s := s.sendMouseInput moveFlags normX normY 0
    let s := s.sendMouseInput (mouseLeftDown ||| mouseAbsolute ||| mouseVirtualDesk) normX normY 0
    { s with isDown := true }
  | .moved => s.sendMouseInput moveFlags normX normY 0
  | .ended | .cancelled =>
    let s := s.sendMouseInput moveFlags normX normY 0
    let s :=
      if s.isDown then
        s.sendMouseInput (mouseLeftUp ||| mouseAbsolute ||| mouseVirtualDesk) normX normY 0
      else s
    { s with isDown := false }
  | .unknown => s

/-- The turn of a wheel for a distance in one direction. -/
def scrollBy (s : Injector) (flags : UInt32) (distance : D) : Injector :=
  if a.equal distance (a.ofInt 0) then s
  else
    let pixels := clamp a distance (a.ofInt (-10000)) (a.ofInt 10000)
    let delta := a.toLong (a.mul (a.div pixels (a.ofInt 100)) (a.ofInt wheelDelta))
    if delta = 0 then s else s.sendMouseInput flags 0 0 delta

/-- `HandleScroll`. -/
def handleScroll (s : Injector) (scroll : ScrollMsg D) : Injector :=
  (s.scrollBy a mouseWheel scroll.dy).scrollBy a mouseHWheel scroll.dx

/-- `ScreenPoint`. -/
def screenPoint (s : Injector) (screen : VirtualScreen) (nx ny : D) : Point :=
  let pixel := penPixel a s.monitorRect nx ny
  { x := pixel.x - screen.x, y := pixel.y - screen.y }

/-- `EnsurePenDevice`. -/
def ensurePenDevice (s : Injector) (windows : Windows) : Injector × Bool :=
  if s.penDevice then (s, true)
  else if s.penDeviceFailed then (s, false)
  else if windows.createsPen then ({ s with penDevice := true }, true)
  else ({ s with penDeviceFailed := true }, false)

/-- `InjectPen`. -/
def injectPen (s : Injector) (windows : Windows) (flags : UInt32) (pt : Point)
    (pressure azimuth altitude : D) : Injector :=
  let tilt := a.deriveTilt azimuth altitude
  let frame : PenFrame :=
    { flags := flags
      point := pt
      pressure := (a.lround (a.mul (clamp a pressure (a.ofInt 0) (a.ofInt 1))
        (a.ofInt 1024))).toUInt32
      tiltX := tilt.1
      tiltY := tilt.2 }
  { s with
    lastPenPoint := pt
    injectFailed := s.injectFailed || !windows.accepts frame
    injected := s.injected ++ [.pen frame] }

/-- `ReleasePenIfDown`. -/
def releasePenIfDown (s : Injector) (windows : Windows) (pt : Point) : Injector :=
  if s.penDown then
    let s := s.injectPen a windows (pointerInRange ||| pointerUp) pt (a.ofInt 0) (a.ofInt 0)
      a.upright
    { s with penDown := false }
  else s

/-- `HandlePencil`. -/
def handlePencil (s : Injector) (windows : Windows) (pencil : PencilMsg D) : Injector :=
  match s.ensurePenDevice windows with
  | (s, false) => s
  | (s, true) =>
    let pt := s.screenPoint a windows.screen pencil.x pencil.y
    match pencil.phase with
    | .down =>
      let s := s.injectPen a windows (pointerInRange ||| pointerInContact ||| pointerDown) pt
        pencil.pressure pencil.azimuth pencil.altitude
      { s with penDown := true, penInRange := true }
    | .move =>
      let s :=
        if s.penDown then
          s.injectPen a windows (pointerInRange ||| pointerInContact ||| pointerUpdate) pt
            pencil.pressure pencil.azimuth pencil.altitude
        else
          s.injectPen a windows (pointerInRange ||| pointerUpdate) pt (a.ofInt 0) pencil.azimuth
            pencil.altitude
      { s with penInRange := true }
    | .up => s.releasePenIfDown a windows pt
    | .hover =>
      -- a stroke that ran off the edge of the panel comes back as hovering
      let s := s.releasePenIfDown a windows pt
      let s := s.injectPen a windows (pointerInRange ||| pointerUpdate) pt (a.ofInt 0)
        pencil.azimuth pencil.altitude
      { s with penInRange := true }
    | .unknown => s

/-- `EndSession`. -/
def endSession (s : Injector) (windows : Windows) : Injector :=
  let s :=
    if s.isDown then { s.sendMouseInput mouseLeftUp 0 0 0 with isDown := false } else s
  if s.penDevice then
    let s := s.releasePenIfDown a windows s.lastPenPoint
    if s.penInRange then
      let s := s.injectPen a windows pointerUpdate s.lastPenPoint (a.ofInt 0) (a.ofInt 0) a.upright
      { s with penInRange := false }
    else s
  else s

/-- `HandleProximity`. -/
def handleProximity (s : Injector) (windows : Windows) (proximity : ProximityMsg D) : Injector :=
  match s.ensurePenDevice windows with
  | (s, false) => s
  | (s, true) =>
    if proximity.entering = s.penInRange then s
    else
      let pt := s.screenPoint a windows.screen proximity.x proximity.y
      let s :=
        if proximity.entering then
          s.injectPen a windows (pointerInRange ||| pointerUpdate) pt (a.ofInt 0) (a.ofInt 0)
            a.upright
        else
          let s := s.releasePenIfDown a windows pt
          s.injectPen a windows pointerUpdate pt (a.ofInt 0) (a.ofInt 0) a.upright
      { s with penInRange := proximity.entering }

end Injector

/-- A call of the injector, with the answers that it gets. -/
inductive Call (D : Type) where
  | setMonitorRect (rect : Rect)
  | touch (screen : VirtualScreen) (msg : TouchMsg D)
  | scroll (msg : ScrollMsg D)
  | pencil (windows : Windows) (msg : PencilMsg D)
  | proximity (windows : Windows) (msg : ProximityMsg D)
  | endSession (windows : Windows)

/-- The injector behind a call. -/
def Injector.after (s : Injector) : Call D → Injector
  | .setMonitorRect rect => s.setMonitorRect rect
  | .touch screen msg => s.handleTouch a screen msg
  | .scroll msg => s.handleScroll a msg
  | .pencil windows msg => s.handlePencil a windows msg
  | .proximity windows msg => s.handleProximity a windows msg
  | .endSession windows => s.endSession a windows

/-- The injector behind some calls. -/
def run (calls : List (Call D)) : Injector := calls.foldl (Injector.after a) {}

end SecondDisplay.InputInjector
