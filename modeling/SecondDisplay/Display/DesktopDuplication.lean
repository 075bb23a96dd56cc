import SecondDisplay.Display.CompositePointer
import SecondDisplay.Library.Transitions

/-!
# Capturing frames (`src/display/DesktopDuplication.cpp`)

Every frame may come with a new position or a new shape of the cursor.  For a new shape the buffer
is resized first and then filled, and its description is replaced only if that succeeds; so after a
failure an old description stands beside a new buffer, and what is drawn next may read behind it.
`draws_covered` says for which frames this does not happen: where the shape cannot be fetched, the
new buffer is not smaller than the old description.

The drawn frame is then converted (`ConvertBgraToNv12`), which changes no member.
-/

namespace SecondDisplay.DesktopDuplication

open CompositePointer InPlace Transitions

/-! ### The cursor of a frame -/

/-- `DXGI_OUTDUPL_FRAME_INFO`. -/
structure FrameInfo where
  lastMouseUpdateTime : Int64 := 0
  visible : Bool := false
  x : Int32 := 0
  y : Int32 := 0
  pointerShapeBufferSize : UInt32 := 0

/-- What `GetFramePointerShape` does: what it writes into the buffer, and the description if it
succeeds. -/
structure ShapeAnswer where
  written : Bytes
  info : Option ShapeInfo

/-- `std::vector::resize`. -/
def resize (size : Nat) (buffer : Bytes) : Bytes :=
  buffer.take size ++ List.replicate (size - buffer.length) 0

/-- A buffer whose beginning is written over. -/
def fill (buffer written : Bytes) : Bytes :=
  written.take buffer.length ++ buffer.drop written.length

/-- The part of `UpdatePointer` for the position. -/
def updatePosition (p : Pointer) (info : FrameInfo) : Pointer :=
  if info.lastMouseUpdateTime ≠ 0 then { p with visible := info.visible, x := info.x, y := info.y }
  else p

/-- `UpdatePointer`. -/
def updatePointer (p : Pointer) (info : FrameInfo) (answer : ShapeAnswer) : Pointer :=
  let p := updatePosition p info
  if info.pointerShapeBufferSize ≠ 0 then
    let p := { p with shape := resize info.pointerShapeBufferSize.toNat p.shape }
    let p := { p with shape := fill p.shape answer.written }
    match answer.info with
    | some shapeInfo => { p with info := shapeInfo }
    | none => p
  else p

theorem length_resize (size : Nat) (buffer : Bytes) : (resize size buffer).length = size := by
  rw [resize, List.length_append, List.length_take, List.length_replicate]
  omega

theorem length_fill (buffer written : Bytes) : (fill buffer written).length = buffer.length := by
  rw [fill, List.length_append, List.length_take, List.length_drop]
  omega

theorem updatePosition_shape (p : Pointer) (info : FrameInfo) :
    (updatePosition p info).shape = p.shape ∧ (updatePosition p info).info = p.info := by
  rw [updatePosition]
  split <;> exact ⟨rfl, rfl⟩

/-- No new shape is announced. -/
theorem updatePointer_same {p : Pointer} {info : FrameInfo} (answer : ShapeAnswer)
    (h : info.pointerShapeBufferSize = 0) :
    updatePointer p info answer = updatePosition p info := if_neg (not_not_intro h)

/-- The size of the buffer and the description after a new shape was announced. -/
theorem updatePointer_new {p : Pointer} {info : FrameInfo} (answer : ShapeAnswer)
    (h : info.pointerShapeBufferSize ≠ 0) :
    (updatePointer p info answer).shape.length = info.pointerShapeBufferSize.toNat ∧
      (updatePointer p info answer).info = answer.info.getD p.info := by
  rw [updatePointer, if_pos h]
  dsimp only
  cases answer.info with
  | none =>
    refine ⟨?_, (updatePosition_shape p info).2⟩
    rw [length_fill, length_resize]
  | some shapeInfo =>
    refine ⟨?_, rfl⟩
    rw [length_fill, length_resize]

/-! ### Capturing -/

/-- A call of `CompositePointer`. -/
structure Draw where
  pointer : Pointer
  bgra : Bytes
  stride : UInt32
  frameW : UInt32
  frameH : UInt32

/-- What it makes of the frame. -/
def Draw.result (draw : Draw) : Except Fault Bytes :=
  compositePointer draw.pointer draw.stride draw.frameW draw.frameH draw.bgra

/-- `DesktopDuplication`. -/
structure Duplication where
  /-- `duplication_` is set. -/
  duplicating : Bool := false
  /-- `staging_` is set. -/
  staging : Bool := false
  reportedLoss : Bool := false
  width : UInt32 := 0
  height : UInt32 := 0
  pointer : Pointer := {}
  /-- The calls of `CompositePointer`, the last one first. -/
  draws : List Draw := []

/-- How `Open` ends. -/
inductive Opening where
  /-- Before `DuplicateOutput` is reached. -/
  | noOutput
  /-- `DuplicateOutput` fails. -/
  | noDuplication
  | opened (width height : UInt32)

/-- `Open`. -/
def Duplication.openOutput (d : Duplication) : Opening → Duplication × Bool
  | .noOutput => (d, false)
  | .noDuplication => ({ d with duplicating := false }, false)
  | .opened width height =>
    ({ d with duplicating := true, width := width, height := height }, true)

/-- `Close`. -/
def Duplication.close (d : Duplication) : Duplication :=
  { d with duplicating := false, staging := false }

/-- `Reopen`. -/
def Duplication.reopen (d : Duplication) (opening : Opening) : Duplication × Bool :=
  d.close.openOutput opening

/-- `D3D11_MAPPED_SUBRESOURCE`. -/
structure Mapped where
  rowPitch : UInt32
  data : Bytes

/-- A frame that was acquired, with what the calls on the way answer. -/
structure Frame where
  info : FrameInfo
  shape : ShapeAnswer
  /-- The size of the texture, if the resource is one. -/
  texture : Option (UInt32 × UInt32)
  /-- `CreateTexture2D`. -/
  created : Bool
  /-- `Map`. -/
  mapped : Option Mapped

/-- What `AcquireNextFrame` answers. -/
inductive Acquiring where
  | timeout
  /-- Any other error; the duplication is opened again. -/
  | failed (opening : Opening)
  | frame (frame : Frame)

/-- `CaptureFrameNv12` from the mapped frame on. -/
def Duplication.drawn (d : Duplication) (frameW frameH : UInt32) :
    Option Mapped → Duplication × Bool
  | none => (d, false)
  | some mapped =>
    if d.pointer.visible ∧ d.pointer.shape ≠ [] then
      ({ d with draws := ⟨d.pointer, mapped.data, mapped.rowPitch, frameW, frameH⟩ :: d.draws },
        true)
    else (d, true)

/-- A frame of another size is followed. -/
def Duplication.follow (d : Duplication) (frameW frameH : UInt32) : Duplication :=
  if frameW ≠ d.width ∨ frameH ≠ d.height then
    { d with width := frameW, height := frameH, staging := false }
  else d

/-- The duplication works, and the cursor of the frame is taken over. -/
def Duplication.pointed (d : Duplication) (frame : Frame) : Duplication :=
  { d with
    reportedLoss := false
    pointer := updatePointer d.pointer frame.info frame.shape }

/-- `CaptureFrameNv12` from the acquired frame on. -/
def Duplication.acquired (d : Duplication) (frame : Frame) : Duplication × Bool :=
  let d := d.pointed frame
  match frame.texture with
  | none => (d, false)
  | some (frameW, frameH) =>
    let d := d.follow frameW frameH
    if d.staging = false ∧ frame.created = false then (d, false)
    else { d with staging := true }.drawn frameW frameH frame.mapped

/-- The beginning of `CaptureFrameNv12`: a lost duplication is opened again. -/
def Duplication.ready (d : Duplication) (opening : Opening) : Duplication × Bool :=
  if d.duplicating then (d, true) else d.reopen opening

/-- `CaptureFrameNv12`. -/
def Duplication.captureFrameNv12 (d : Duplication) (opening : Opening) (acquiring : Acquiring) :
    Duplication × Bool :=
  let (d, ready) := d.ready opening
  if ready = false then (d, false)
  else
    match acquiring with
    | .timeout => (d, false)
    | .failed opening => (({ d with reportedLoss := true }.reopen opening).1, false)
    | .frame frame => d.acquired frame

/-- A call from outside, with what the system answers to it. -/
inductive Event where
  | openOutput (opening : Opening)
  | close
  | captureFrameNv12 (opening : Opening) (acquiring : Acquiring)

/-- One call. -/
def step (d : Duplication) : Event → Option Duplication
  | .openOutput opening => some (d.openOutput opening).1
  | .close => some d.close
  | .captureFrameNv12 opening acquiring => some (d.captureFrameNv12 opening acquiring).1

/-! ### The buffer and its description -/

/-- A shape that is delivered fits into the buffer. -/
def Frame.Delivers (frame : Frame) : Prop :=
  ∀ info ∈ frame.shape.info,
    info.pitch.toNat * info.height.toNat ≤ frame.info.pointerShapeBufferSize.toNat

/-- Where a new shape is announced and cannot be fetched, the new buffer is not smaller than the
old description. -/
def Frame.Keeps (frame : Frame) (info : ShapeInfo) : Prop :=
  frame.info.pointerShapeBufferSize ≠ 0 → frame.shape.info = none →
    info.pitch.toNat * info.height.toNat ≤ frame.info.pointerShapeBufferSize.toNat

instance decidableFrameDelivers (frame : Frame) : Decidable frame.Delivers :=
  inferInstanceAs (Decidable (∀ info ∈ frame.shape.info, _ ≤ _))

instance decidableFrameKeeps (frame : Frame) (info : ShapeInfo) : Decidable (frame.Keeps info) :=
  inferInstanceAs (Decidable (_ → _ → _))

/-- The frame of a call, if one is acquired. -/
def Event.frame (d : Duplication) : Event → Option Frame
  | .captureFrameNv12 opening (.frame frame) => if (d.ready opening).2 then some frame else none
  | _ => none

/-- The frame of the call delivers what fits. -/
def Delivers (d : Duplication) (e : Event) : Prop := ∀ frame ∈ e.frame d, frame.Delivers

/-- The frame of the call keeps the description inside the buffer. -/
def Keeps (d : Duplication) (e : Event) : Prop :=
  ∀ frame ∈ e.frame d, frame.Keeps d.pointer.info

instance decidableDelivers (d : Duplication) (e : Event) : Decidable (Delivers d e) :=
  inferInstanceAs (Decidable (∀ frame ∈ e.frame d, _))

instance decidableKeeps (d : Duplication) (e : Event) : Decidable (Keeps d e) :=
  inferInstanceAs (Decidable (∀ frame ∈ e.frame d, _))

/-- **What an update does to the buffer and its description.**  They fit together afterwards
exactly if a failed fetch has not made the buffer too small. -/
theorem updatePointer_covered_iff {p : Pointer} (hcovered : Covered p) {frame : Frame}
    (delivers : frame.Delivers) :
    Covered (updatePointer p frame.info frame.shape) ↔ frame.Keeps p.info := by
  by_cases hnew : frame.info.pointerShapeBufferSize = 0
  · obtain ⟨hshape, hinfo⟩ := updatePosition_shape p frame.info
    rw [updatePointer_same frame.shape hnew, Covered, hshape, hinfo]
    exact ⟨fun _ hannounced => absurd hnew hannounced, fun _ => hcovered⟩
  · obtain ⟨hlength, hinfo⟩ := updatePointer_new (p := p) frame.shape hnew
    rw [Covered, hlength, hinfo]
    cases hfetched : frame.shape.info with
    | none =>
      rw [Option.getD_none]
      exact ⟨fun h _ _ => h, fun keeps => keeps hnew hfetched⟩
    | some info =>
      rw [Option.getD_some]
      refine ⟨fun _ _ hfailed => ?_, fun _ => delivers info hfetched⟩
      rw [hfetched] at hfailed
      cases hfailed

/-! ### Runs -/

/-- The buffer holds what its description promises, now and in all that was drawn. -/
structure Inv (d : Duplication) : Prop where
  pointer : Covered d.pointer
  draws : ∀ draw ∈ d.draws, Covered draw.pointer

theorem inv_start : Inv {} := ⟨Nat.le_refl 0, fun _ h => by cases h⟩

variable {d d' : Duplication}

/-- A step that leaves the cursor and what was drawn alone keeps the invariant. -/
theorem Inv.same (inv : Inv d) (hpointer : d'.pointer = d.pointer) (hdraws : d'.draws = d.draws) :
    Inv d' := ⟨hpointer ▸ inv.pointer, hdraws ▸ inv.draws⟩

theorem Inv.openOutput (inv : Inv d) (opening : Opening) : Inv (d.openOutput opening).1 := by
  cases opening <;> exact inv.same rfl rfl

theorem Inv.reopen (inv : Inv d) (opening : Opening) : Inv (d.reopen opening).1 := by
  have hclosed : Inv d.close := inv.same rfl rfl
  exact hclosed.openOutput opening

theorem Inv.ready (inv : Inv d) (opening : Opening) : Inv (d.ready opening).1 := by
  rw [Duplication.ready]
  split
  · exact inv
  · exact inv.reopen opening

theorem ready_pointer (d : Duplication) (opening : Opening) :
    (d.ready opening).1.pointer = d.pointer := by
  rw [Duplication.ready]
  split
  · rfl
  · cases opening <;> rfl

theorem Inv.drawn (inv : Inv d) (frameW frameH : UInt32) (mapped : Option Mapped) :
    Inv (d.drawn frameW frameH mapped).1 := by
  cases mapped with
  | none => exact inv
  | some mapped =>
    rw [Duplication.drawn]
    split
    · refine ⟨inv.pointer, fun draw hmem => ?_⟩
      obtain rfl | hmem := List.mem_cons.1 hmem
      · exact inv.pointer
      · exact inv.draws draw hmem
    · exact inv

theorem Inv.follow (inv : Inv d) (frameW frameH : UInt32) : Inv (d.follow frameW frameH) := by
  rw [Duplication.follow]
  split
  · exact inv.same rfl rfl
  · exact inv

/-- **A frame keeps the invariant** if its cursor fits. -/
theorem Inv.acquired (inv : Inv d) {frame : Frame}
    (hcovered : Covered (updatePointer d.pointer frame.info frame.shape)) :
    Inv (d.acquired frame).1 := by
  have hpointed : Inv (d.pointed frame) := ⟨hcovered, inv.draws⟩
  rw [Duplication.acquired]
  dsimp only
  split
  · exact hpointed
  · rename_i frameW frameH htexture
    have hfollowed := hpointed.follow frameW frameH
    split
    · exact hfollowed
    · have hstaged : Inv { (d.pointed frame).follow frameW frameH with staging := true } :=
        hfollowed.same rfl rfl
      exact hstaged.drawn frameW frameH frame.mapped

/-- **Every call keeps the invariant** whose frame delivers what fits and keeps the description
inside the buffer. -/
theorem step_inv {e : Event} (inv : Inv d) (delivers : Delivers d e) (keeps : Keeps d e)
    (h : step d e = some d') : Inv d' := by
  cases e with
  | openOutput opening =>
    cases h
    exact inv.openOutput opening
  | close =>
    cases h
    exact inv.same rfl rfl
  | captureFrameNv12 opening acquiring =>
    cases h
    have hready := inv.ready opening
    rw [Duplication.captureFrameNv12]
    dsimp only
    split
    · exact hready
    · rename_i hopen
      rw [Bool.not_eq_false] at hopen
      cases acquiring with
      | timeout => exact hready
      | failed opening' =>
        have hlost : Inv { (d.ready opening).1 with reportedLoss := true } := hready.same rfl rfl
        exact hlost.reopen opening'
      | frame frame =>
        have hframe : frame ∈ Event.frame d (.captureFrameNv12 opening (.frame frame)) :=
          if_pos hopen
        refine hready.acquired ?_
        rw [ready_pointer]
        exact (updatePointer_covered_iff inv.pointer (delivers frame hframe)).2
          (keeps frame hframe)

/-- **What is drawn fits together.**  Along every run whose shapes fit when they are delivered, and
in which no failed fetch makes the buffer too small, the cursor has a buffer that holds what its
description promises whenever `CompositePointer` is called; so nothing outside the buffer is read,
if the rows of the shape are as long as its width asks for. -/
theorem draws_covered {events : List Event} (delivers : Along step Delivers {} events)
    (keeps : Along step Keeps {} events) (h : run step {} events = some d) :
    ∀ draw ∈ d.draws, Covered draw.pointer ∧
      (RowsFit draw.pointer.info → Avoids Outside draw.result) := by
  have inv : Inv d := by
    refine along_invariant (P := fun d e => Delivers d e ∧ Keeps d e) ?_ inv_start
      (delivers.and keeps) h
    intro d e d' inv hstep heq
    exact step_inv inv hstep.1 hstep.2 heq
  intro draw hmem
  have hcovered := inv.draws draw hmem
  exact ⟨hcovered, fun hrows => reads_inside hcovered hrows _ _ _ _⟩

/-- A frame of one column and two rows, with an arrow of that size at its origin. -/
def arrow : Frame where
  info := { lastMouseUpdateTime := 1, visible := true, pointerShapeBufferSize := 8 }
  shape := ⟨List.replicate 8 255, some ⟨2, 1, 2, 4⟩⟩
  texture := some (1, 2)
  created := true
  mapped := some ⟨4, List.replicate 8 0⟩

/-- A frame that announces a shape of the given size, and `GetFramePointerShape` fails. -/
def missed (size : UInt32) : Frame where
  info := { pointerShapeBufferSize := size }
  shape := ⟨[], none⟩
  texture := some (1, 2)
  created := true
  mapped := some ⟨4, List.replicate 8 0⟩

/-- The arrow is captured, and then such a frame. -/
def arrowThenMissed (size : UInt32) : List Event :=
  [.openOutput (.opened 1 2), .captureFrameNv12 .noOutput (.frame arrow),
    .captureFrameNv12 .noOutput (.frame (missed size))]

/-- A fetch that fails does no harm if the buffer grows. -/
theorem draws_covered_grown :
    ∃ d, run step {} (arrowThenMissed 12) = some d ∧ d.draws.length = 2 ∧
      ∀ draw ∈ d.draws, Covered draw.pointer ∧
        (RowsFit draw.pointer.info → Avoids Outside draw.result) := by
  have hrun : run step {} (arrowThenMissed 12) = some _ := rfl
  exact ⟨_, hrun, rfl, draws_covered (by decide) (by decide) hrun⟩

/-- If it shrinks, the arrow is drawn from a buffer that is too short for it. -/
theorem draws_covered_fails_shrunk :
    ¬∀ (events : List Event) (d : Duplication), Along step Delivers {} events →
      run step {} events = some d → ∀ draw ∈ d.draws, Covered draw.pointer ∧
        (RowsFit draw.pointer.info → Avoids Outside draw.result) := by
  intro hall
  have hrun : run step {} (arrowThenMissed 4) = some _ := rfl
  have hdrawn := (hall _ _ (by decide) hrun _ List.mem_cons_self).1
  exact absurd hdrawn (by decide)

/-- The second row of the arrow is read from behind the buffer. -/
theorem shrunk_reads_outside :
    ∃ d, run step {} (arrowThenMissed 4) = some d ∧
      d.draws.head?.map Draw.result = some (.error .shape) :=
  ⟨_, rfl, by decide⟩

end SecondDisplay.DesktopDuplication
