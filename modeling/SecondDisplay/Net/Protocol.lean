import SecondDisplay.Library.Bytes
import Mathlib.Algebra.Ring.Int.Defs

/-!
# Control messages (`net/Protocol.cpp`)

The receiver's control messages are flat JSON objects, read by a field scanner instead of a
parser: `FindValueStart` walks over the text once, counting brackets and skipping strings, and
returns the position of the value of a root member.  `npos` and `nullopt` are `none`; the depth
counter cannot pass the length of the text, so it is a natural number.  What `double` does is
left open: `Doubles` has the operations the code uses.
-/

namespace SecondDisplay.Protocol

/-! ### The scanner -/

/-- A loop that moves `pos` on while the byte there satisfies `p`. -/
def skipWhile (p : UInt8 → Bool) (json : Bytes) (pos : Nat) : Nat :=
  if h : pos < json.length then
    if p json[pos] then skipWhile p json (pos + 1) else pos
  else pos
termination_by json.length - pos

/-- The loop that moves `previous` back over whitespace, not beyond `root`. -/
def skipSpaceBack (json : Bytes) (root : Nat) : Nat → Nat
  | 0 => 0
  | previous + 1 =>
    if root < previous + 1 ∧ json[previous]?.any isSpace = true then
      skipSpaceBack json root previous
    else previous + 1

/-- `substr` from `start` up to `stop`. -/
def substr (json : Bytes) (start stop : Nat) : Bytes := (json.drop start).take (stop - start)

/-- The loop over the bytes of a string: `stringEnd` at the closing quote, and `keyHasEscape`. -/
def stringEndFrom (json : Bytes) (pos : Nat) (escaped keyHasEscape : Bool) :
    Option (Nat × Bool) :=
  if h : pos < json.length then
    if escaped then stringEndFrom json (pos + 1) false true
    else if json[pos] = 0x5C then stringEndFrom json (pos + 1) true keyHasEscape
    else if json[pos] = 0x22 then some (pos, keyHasEscape)
    else stringEndFrom json (pos + 1) false keyHasEscape
  else none
termination_by json.length - pos

theorem stringEndFrom_ge {json : Bytes} {pos stringEnd : Nat} {escaped keyHasEscape esc : Bool}
    (h : stringEndFrom json pos escaped keyHasEscape = some (stringEnd, esc)) :
    pos ≤ stringEnd ∧ stringEnd < json.length := by
  fun_induction stringEndFrom json pos escaped keyHasEscape with
  | case1 pos keyHasEscape hpos ih => exact ⟨by have := ih h; omega, (ih h).2⟩
  | case2 pos escaped keyHasEscape hpos hplain hslash ih =>
    exact ⟨by have := ih h; omega, (ih h).2⟩
  | case3 pos escaped keyHasEscape hpos hplain hslash hquote =>
    cases h
    exact ⟨Nat.le_refl _, hpos⟩
  | case4 pos escaped keyHasEscape hpos hplain hslash hquote ih =>
    exact ⟨by have := ih h; omega, (ih h).2⟩
  | case5 pos escaped keyHasEscape hpos => cases h

/-- `memberName` for the string whose opening quote is at `pos`. -/
def isMemberName (json : Bytes) (root depth pos : Nat) : Bool :=
  let previous := skipSpaceBack json root pos
  depth == 1 && root < previous &&
    (json[previous - 1]? == some 0x7B || json[previous - 1]? == some 0x2C)

/-- The position of the value behind the member name that ends at `stringEnd`. -/
def valueAfterName (json : Bytes) (stringEnd : Nat) : Option Nat :=
  let colon := skipWhile isSpace json (stringEnd + 1)
  if json[colon]? = some 0x3A then some (skipWhile isSpace json (colon + 1)) else none

/-- The loop of `FindValueStart` at `pos`. -/
def findFrom (json key : Bytes) (root depth pos : Nat) : Option Nat :=
  if h : pos < json.length ∧ 0 < depth then
    if json[pos] = 0x7B ∨ json[pos] = 0x5B then findFrom json key root (depth + 1) (pos + 1)
    else if json[pos] = 0x7D ∨ json[pos] = 0x5D then findFrom json key root (depth - 1) (pos + 1)
    else if json[pos] ≠ 0x22 then findFrom json key root depth (pos + 1)
    else
      match _ : stringEndFrom json (pos + 1) false false with
      | none => none
      | some (stringEnd, keyHasEscape) =>
        if isMemberName json root depth pos && !keyHasEscape &&
            substr json (pos + 1) stringEnd == key then valueAfterName json stringEnd
        else findFrom json key root depth (stringEnd + 1)
  else none
termination_by json.length - pos
decreasing_by
  all_goals first
    | omega
    | (have hend := stringEndFrom_ge (by assumption); omega)

/-- `FindValueStart`. -/
def findValueStart (json key : Bytes) : Option Nat :=
  let root := skipWhile isSpace json 0
  if json[root]? = some 0x7B then findFrom json key root 1 (root + 1) else none

/-! ### Fields -/

/-- `find` for a byte from `pos` on. -/
def findByte (c : UInt8) (json : Bytes) (pos : Nat) : Option Nat :=
  let stop := skipWhile (fun b => b != c) json pos
  if stop < json.length then some stop else none

/-- `FindStringField`. -/
def findStringField (json key : Bytes) : Option Bytes :=
  match findValueStart json key with
  | none => none
  | some start =>
    if json[start]? = some 0x22 then
      (findByte 0x22 json (start + 1)).map fun stop => substr json (start + 1) stop
    else none

/-- The operations on `double` that the parser uses. -/
structure Doubles (D : Type) where
  /-- `from_chars` where it takes the whole token without an error. -/
  fromChars : Bytes → Option D
  isFinite : D → Bool
  /-- The integer a value is, if it is one. -/
  toInteger : D → Option Int
  zero : D
  /-- `kPencilAltitudeUpright`. -/
  upright : D

/-- The number grammar of `FindNumberField`: the end of the number that starts at `start`, if
it is one and a comma or a closing brace follows. -/
def numberEnd (json : Bytes) (start : Nat) : Option Nat := do
  let whole := if json[start]? = some 0x2D then start + 1 else start
  let wholeEnd ←
    match json[whole]? with
    | none => none
    | some c =>
      if c = 0x30 then
        if json[whole + 1]?.any isDigit then none else some (whole + 1)
      else if 0x31 ≤ c ∧ c ≤ 0x39 then some (skipWhile isDigit json (whole + 1))
      else none
  let fractionEnd ←
    if json[wholeEnd]? = some 0x2E then
      let stop := skipWhile isDigit json (wholeEnd + 1)
      if stop = wholeEnd + 1 then none else some stop
    else some wholeEnd
  let exponentEnd ←
    if json[fractionEnd]? = some 0x65 ∨ json[fractionEnd]? = some 0x45 then
      let digits :=
        if json[fractionEnd + 1]? = some 0x2B ∨ json[fractionEnd + 1]? = some 0x2D then
          fractionEnd + 2
        else fractionEnd + 1
      let stop := skipWhile isDigit json digits
      if stop = digits then none else some stop
    else some fractionEnd
  let delimiter := skipWhile isSpace json exponentEnd
  if json[delimiter]? = some 0x2C ∨ json[delimiter]? = some 0x7D then some exponentEnd
  else none

variable {D : Type} (doubles : Doubles D)

/-- `FindNumberField`. -/
def findNumberField (json key : Bytes) : Option D := do
  let start ← findValueStart json key
  let stop ← numberEnd json start
  let value ← doubles.fromChars (substr json start stop)
  if doubles.isFinite value then some value else none

/-- A byte of the token that `FindNumberToken` takes. -/
def isNumberByte (b : UInt8) : Bool :=
  isDigit b || b == 0x2D || b == 0x2B || b == 0x2E || b == 0x65 || b == 0x45

/-- `FindNumberToken`. -/
def findNumberToken (json key : Bytes) : Option Bytes := do
  let start ← findValueStart json key
  let _ ← findNumberField doubles json key
  return substr json start (skipWhile isNumberByte json start)

/-- `NumberToInt`. -/
def numberToInt (value : Option D) (fallback : Int) : Int :=
  match value.bind doubles.toInteger with
  | none => fallback
  | some n => if -2 ^ 31 ≤ n ∧ n ≤ 2 ^ 31 - 1 then n else fallback

/-- `FindBoolField`. -/
def findBoolField (json key : Bytes) : Option Bool :=
  match findValueStart json key with
  | none => none
  | some start =>
    let rest := json.drop start
    if (ascii "true").isPrefixOf rest then some true
    else if (ascii "false").isPrefixOf rest then some false
    else none

/-! ### Messages -/

/-- `ControlType`. -/
inductive ControlType where
  | hello | ping | touch | scroll | pencil | proximity | kf | stats | sleeping | closing | unknown
  deriving DecidableEq, Repr

/-- `TouchPhase`. -/
inductive TouchPhase where
  | began | moved | ended | cancelled | unknown
  deriving DecidableEq, Repr

/-- `PencilPhase`. -/
inductive PencilPhase where
  | hover | down | move | up | unknown
  deriving DecidableEq, Repr

/-- `HelloMsg`. -/
structure HelloMsg where
  pixelsWide : Int := 0
  pixelsHigh : Int := 0
  scale : Int := 1
  device : Bytes := []
  id : Bytes := []
  pv : Int := 1

/-- `TouchMsg`. -/
structure TouchMsg (D : Type) where
  phase : TouchPhase
  x : D
  y : D

/-- `ScrollMsg`. -/
structure ScrollMsg (D : Type) where
  dx : D
  dy : D

/-- `PencilMsg`. -/
structure PencilMsg (D : Type) where
  phase : PencilPhase
  x : D
  y : D
  pressure : D
  azimuth : D
  altitude : D

/-- `ProximityMsg`. -/
structure ProximityMsg (D : Type) where
  entering : Bool
  x : D
  y : D

/-- `ControlMessage`. -/
structure ControlMessage (D : Type) where
  type : ControlType
  hello : HelloMsg
  /-- `PingMsg::t`. -/
  ping : Bytes
  touch : TouchMsg D
  scroll : ScrollMsg D
  pencil : PencilMsg D
  proximity : ProximityMsg D
  /-- `StatsMsg::json`. -/
  stats : Bytes

/-- `ControlMessage{}`. -/
def ControlMessage.default : ControlMessage D where
  type := .unknown
  hello := {}
  ping := []
  touch := ⟨.unknown, doubles.zero, doubles.zero⟩
  scroll := ⟨doubles.zero, doubles.zero⟩
  pencil := ⟨.unknown, doubles.zero, doubles.zero, doubles.zero, doubles.zero, doubles.upright⟩
  proximity := ⟨false, doubles.zero, doubles.zero⟩
  stats := []

/-- `ParseTouchPhase`. -/
def parseTouchPhase (phase : Bytes) : TouchPhase :=
  if phase = ascii "began" then .began
  else if phase = ascii "moved" then .moved
  else if phase = ascii "ended" then .ended
  else if phase = ascii "cancelled" then .cancelled
  else .unknown

/-- `ParsePencilPhase`. -/
def parsePencilPhase (phase : Bytes) : PencilPhase :=
  if phase = ascii "hover" then .hover
  else if phase = ascii "down" then .down
  else if phase = ascii "move" then .move
  else if phase = ascii "up" then .up
  else .unknown

/-- `IsControlPayload`. -/
def isControlPayload (data : Bytes) : Bool :=
  data.length != 0 && data.length < 32768 && data.head? == some 0x7B && !data.contains 0x00

/-- `ParseControlMessage`. -/
def parseControlMessage (json : Bytes) : Option (ControlMessage D) :=
  let number (key : String) (absent : D) : D :=
    (findNumberField doubles json (ascii key)).getD absent
  let integer (key : String) (fallback : Int) : Int :=
    numberToInt doubles (findNumberField doubles json (ascii key)) fallback
  let text (key : String) : Bytes := (findStringField json (ascii key)).getD []
  let msg := ControlMessage.default doubles
  match findStringField json (ascii "type") with
  | none => none
  | some type =>
    if type = ascii "hello" then
      some { msg with
        type := .hello
        hello := ⟨integer "pixelsWide" 0, integer "pixelsHigh" 0, integer "scale" 1,
          text "device", text "id", integer "pv" 1⟩ }
    else if type = ascii "ping" then
      some { msg with
        type := .ping
        ping := (findNumberToken doubles json (ascii "t")).getD [] }
    else if type = ascii "touch" then
      some { msg with
        type := .touch
        touch := ⟨parseTouchPhase (text "phase"), number "x" doubles.zero,
          number "y" doubles.zero⟩ }
    else if type = ascii "scroll" then
      some { msg with
        type := .scroll
        scroll := ⟨number "dx" doubles.zero, number "dy" doubles.zero⟩ }
    else if type = ascii "pencil" then
      some { msg with
        type := .pencil
        pencil := ⟨parsePencilPhase (text "phase"), number "x" doubles.zero,
          number "y" doubles.zero, number "pressure" doubles.zero,
          number "azimuth" doubles.zero, number "altitude" doubles.upright⟩ }
    else if type = ascii "proximity" then
      some { msg with
        type := .proximity
        proximity := ⟨(findBoolField json (ascii "entering")).getD false,
          number "x" doubles.zero, number "y" doubles.zero⟩ }
    else if type = ascii "kf" then some { msg with type := .kf }
    else if type = ascii "stats" then some { msg with type := .stats, stats := json }
    else if type = ascii "sleeping" then some { msg with type := .sleeping }
    else if type = ascii "closing" then some { msg with type := .closing }
    else some { msg with type := .unknown }

end SecondDisplay.Protocol
