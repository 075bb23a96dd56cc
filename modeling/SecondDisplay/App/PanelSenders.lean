import SecondDisplay.App.PanelRegistry
import SecondDisplay.App.RunLoopSteps

/-!
# The senders of the panel registry

Every sender of a process works with a panel size of its own, `width` and `height` in `RunLoop`,
for which it asks the registry when it connects and when the receiver turns.  The registry refuses
a turn while another sender is attached, and a rotation made in Windows does not ask it.  The model
is any number of senders, each a run of the step relation of `RunLoop`, with one registry: a sender
that has not turned against the registry works with the registry's size (`one_panel`).
-/

namespace SecondDisplay.PanelSenders

open SecondDisplay.RunLoop hiding Event step
open SecondDisplay.Panel hiding Event step Process
open SecondDisplay.Protocol SecondDisplay.Transitions

/-! ### Senders -/

/-- What a sender has of the registry. -/
structure Share where
  /-- The size granted last, by `AcquirePanel` or by `RetunePanel`. -/
  granted : Option (UInt32 × UInt32) := none
  /-- Since then `RetunePanel` has refused it a rotation, which it made all the same, or it has
  followed a rotation made in Windows. -/
  turned : Bool := false

/-- A sender with its share. -/
structure Sender where
  args : Arguments
  state : State
  share : Share

/-- The size the sender works with. -/
def Sender.size (sender : Sender) : UInt32 × UInt32 := (sender.state.width, sender.state.height)

/-- The worker is in the streaming loop. -/
def Sender.streaming (sender : Sender) : Bool :=
  match sender.state.pc with
  | .sessionTest _ | .turn _ => true
  | _ => false

/-- The registry with the senders of a process. -/
structure Process where
  panel : PanelState
  senders : List Sender

/-! ### What a step does to the registry -/

/-- The other size for which a turn of the streaming loop rebuilds the pipeline. -/
def requestedResize (args : Arguments) (s : State) (answers : Turn) : Option (UInt32 × UInt32) :=
  if !answers.allowed ∧ !isUsbMuxTarget args.ip then none
  else s.pendingResize.filter fun size => size != (s.width, s.height)

/-- The registry and the share behind the resize: the turn goes on when `RetunePanel` refuses. -/
def resizeShare (panel : PanelState) (share : Share) :
    Option (UInt32 × UInt32) → PanelState × Share
  | none => (panel, share)
  | some size =>
    match retunePanel panel size.1 size.2 with
    | some panel => (panel, ⟨some size, false⟩)
    | none => (panel, { share with turned := true })

/-- The capture has been rotated in Windows: `std::swap(width, height)`. -/
def rotatedInWindows (size : UInt32 × UInt32) (answers : Turn) : Bool :=
  answers.captured == (size.2, size.1) && size.1 != size.2

/-- A turn of the streaming loop asks the registry once. -/
def turnShare (panel : PanelState) (sender : Sender) (answers : Turn) : PanelState × Share :=
  let requested := requestedResize sender.args sender.state answers
  let after := resizeShare panel sender.share requested
  let rotated := rotatedInWindows (requested.getD sender.size) answers
  (after.1, { after.2 with turned := after.2.turned || rotated })

/-- `~PanelHolder` runs where the step ends the iteration. -/
def leaveShare (panel : PanelState) (sender : Sender) (state : State) : PanelState × Share :=
  if sender.state.panelHeld && !state.panelHeld then (releasePanel panel, {})
  else (panel, sender.share)

/-- The registry and the share behind a step that leads the sender to `state`. -/
def shareAfter (panel : PanelState) (sender : Sender) (event : RunLoop.Event) (state : State) :
    PanelState × Share :=
  match event, sender.state.pc with
  | .acquire _, .acquire _ width height =>
    if sender.args.managedDisplay then
      match acquirePanel panel width height with
      | .ok panel => (panel, ⟨some (width, height), false⟩)
      | .error _ => (panel, sender.share)
    else (panel, sender.share)
  | .turn answers, .turn _ =>
    if sender.args.managedDisplay then turnShare panel sender answers else (panel, sender.share)
  | _, _ => leaveShare panel sender state

/-- `AcquirePanel` answers for the registry as it is. -/
def answered (panel : PanelState) (sender : Sender) : RunLoop.Event → Bool
  | .acquire free =>
    match sender.state.pc with
    | .acquire _ width height =>
      !sender.args.managedDisplay || free == (acquirePanel panel width height).isOk
    | _ => true
  | _ => true

/-- The events, in any order. -/
inductive Event where
  /-- `RunLoop` is called. -/
  | launch (args : Arguments) (left : SenderState)
  /-- A step of a sender. -/
  | sender (i : Nat) (event : RunLoop.Event)

variable {D : Type} (doubles : Doubles D)

/-- One step, or `none` where the event cannot happen. -/
def step (s : Process) : Event → Option Process
  | .launch args left => some { s with senders := s.senders ++ [⟨args, start left, {}⟩] }
  | .sender i event =>
    match s.senders[i]? with
    | none => none
    | some sender =>
      if answered s.panel sender event then
        (RunLoop.step doubles sender.args sender.state event).map fun state =>
          let after := shareAfter s.panel sender event state
          ⟨after.1, s.senders.set i ⟨sender.args, state, after.2⟩⟩
      else none

/-- No sender has been started yet. -/
def Process.start : Process := ⟨{}, []⟩

/-! ### The size a turn leaves -/

variable {args : Arguments} {s : State} {c : Nat} {answers : Turn}

theorem followCapture_size (s : State) (answers : Turn) :
    (followCapture args s answers).panelHeld = s.panelHeld ∧
      (followCapture args s answers).pendingResize = s.pendingResize ∧
      (rotatedInWindows (s.width, s.height) answers = false →
        ((followCapture args s answers).width, (followCapture args s answers).height) =
          (s.width, s.height)) := by
  have hsquare (hswap : answers.captured = (s.height, s.width))
      (hrotated : rotatedInWindows (s.width, s.height) answers = false) :
      (s.height, s.width) = (s.width, s.height) := by
    simp only [rotatedInWindows, hswap, BEq.rfl, Bool.true_and, bne_eq_false_iff_eq] at hrotated
    rw [hrotated]
  simp only [followCapture]
  cases answers.reconfigured with
  | true =>
    rw [if_pos rfl]
    split
    case isTrue hswap => exact ⟨rfl, rfl, hsquare hswap.2⟩
    case isFalse => exact ⟨rfl, rfl, fun _ => rfl⟩
  | false =>
    rw [if_neg Bool.false_ne_true]
    split
    case isTrue hswap => exact ⟨rfl, rfl, hsquare hswap.2⟩
    case isFalse => exact ⟨rfl, rfl, fun _ => rfl⟩

/-- The sends leave the size alone. -/
theorem sendTurn_size (t : State) (c : Nat) (answers : Turn) :
    (sendTurn t c answers).panelHeld = t.panelHeld ∧
      (sendTurn t c answers).pendingResize = t.pendingResize ∧
      (sendTurn t c answers).width = t.width ∧ (sendTurn t c answers).height = t.height := by
  unfold sendTurn
  cases answers.sent with
  | true => exact ⟨rfl, rfl, rfl, rfl⟩
  | false => exact ⟨rfl, rfl, rfl, rfl⟩

theorem captureTurn_size (args : Arguments) (s : State) (c : Nat) (answers : Turn) :
    (captureTurn args s c answers).panelHeld = s.panelHeld ∧
      (captureTurn args s c answers).pendingResize = s.pendingResize ∧
      (rotatedInWindows (s.width, s.height) answers = false →
        ((captureTurn args s c answers).width, (captureTurn args s c answers).height) =
          (s.width, s.height)) := by
  have hsame : (captureTurn args s c answers).panelHeld =
        (followCapture args s answers).panelHeld ∧
      (captureTurn args s c answers).pendingResize =
        (followCapture args s answers).pendingResize ∧
      (captureTurn args s c answers).width = (followCapture args s answers).width ∧
      (captureTurn args s c answers).height = (followCapture args s answers).height := by
    unfold captureTurn
    generalize followCapture args s answers = t
    dsimp only
    split
    case isTrue => exact sendTurn_size { t with sizeRebuildDone := false } c answers
    case isFalse =>
      split
      case isTrue => exact sendTurn_size t c answers
      case isFalse =>
        cases answers.sizeRebuild with
        | none => exact sendTurn_size t c answers
        | some failed =>
          cases failed with
          | some failure => exact sendTurn_size _ c answers
          | none => exact ⟨rfl, rfl, rfl, rfl⟩
  obtain ⟨hheld, hpending, hwidth, hheight⟩ := hsame
  rw [hheld, hpending, hwidth, hheight]
  exact followCapture_size s answers

/-- A turn that goes on leaves the size that was requested, or the one there was. -/
theorem sessionTurn_size (args : Arguments) (s : State) (c : Nat) (answers : Turn) :
    (sessionTurn args s c answers).panelHeld = s.panelHeld ∧
      ((sessionTurn args s c answers).pendingResize = none ∨
        (sessionTurn args s c answers).pendingResize = s.pendingResize) ∧
      ((sessionTurn args s c answers).pc = .sessionTest c →
        rotatedInWindows ((requestedResize args s answers).getD (s.width, s.height)) answers =
          false →
        ((sessionTurn args s c answers).width, (sessionTurn args s c answers).height) =
          (requestedResize args s answers).getD (s.width, s.height)) := by
  simp only [sessionTurn, requestedResize]
  split
  case isTrue => exact ⟨rfl, Or.inr rfl, by rintro ⟨⟩⟩
  case isFalse =>
    cases hpending : s.pendingResize with
    | none =>
      obtain ⟨hheld, hkept, hsize⟩ := captureTurn_size args s c answers
      exact ⟨hheld, Or.inr (hkept.trans hpending), fun _ => hsize⟩
    | some size =>
      dsimp only
      by_cases hsame : size = (s.width, s.height)
      · obtain ⟨hheld, hkept, hsize⟩ :=
          captureTurn_size args { s with pendingResize := none } c answers
        rw [if_pos hsame, Option.filter_some, if_neg (by simp [hsame])]
        exact ⟨hheld, Or.inl hkept, fun _ => hsize⟩
      · rw [if_neg hsame, Option.filter_some, if_pos (by simp [hsame])]
        cases answers.rebuild with
        | some failure => exact ⟨rfl, Or.inl rfl, by rintro ⟨⟩⟩
        | none =>
          obtain ⟨hheld, hkept, hsize⟩ := captureTurn_size args
            { s with pendingResize := none, width := size.1, height := size.2 } c answers
          exact ⟨hheld, Or.inl hkept, fun _ => hsize⟩

/-- The reader only leaves a size for the worker, one that is not empty. -/
theorem readerRead_size {doubles : Doubles D} {s' : State} {frame : Option Bytes} {sent : Bool}
    (h : RunLoop.step doubles args s (.readerRead frame sent) = some s') :
    s'.panelHeld = s.panelHeld ∧ s'.width = s.width ∧ s'.height = s.height ∧ s'.pc = s.pc ∧
      (s'.pendingResize = s.pendingResize ∨
        ∃ size : UInt32 × UInt32, s'.pendingResize = some size ∧ size.1 ≠ 0) := by
  have hmessage (c : Nat) (msg : ControlMessage D) :
      (readMessage args s c sent msg).panelHeld = s.panelHeld ∧
        (readMessage args s c sent msg).width = s.width ∧
        (readMessage args s c sent msg).height = s.height ∧
        (readMessage args s c sent msg).pc = s.pc ∧
        ((readMessage args s c sent msg).pendingResize = s.pendingResize ∨
          ∃ size : UInt32 × UInt32,
            (readMessage args s c sent msg).pendingResize = some size ∧ size.1 ≠ 0) := by
    simp only [readMessage]
    split
    · split <;> exact ⟨rfl, rfl, rfl, rfl, Or.inl rfl⟩
    · split
      · exact ⟨rfl, rfl, rfl, rfl, Or.inl rfl⟩
      split
      · exact ⟨rfl, rfl, rfl, rfl, Or.inl rfl⟩
      split
      · exact ⟨rfl, rfl, rfl, rfl, Or.inl rfl⟩
      · rename_i size hsize
        exact ⟨rfl, rfl, rfl, rfl, Or.inr ⟨size, rfl, normalizePanelSize_pos hsize⟩⟩
    · exact ⟨rfl, rfl, rfl, rfl, Or.inl rfl⟩
    · exact ⟨rfl, rfl, rfl, rfl, Or.inl rfl⟩
    · exact ⟨rfl, rfl, rfl, rfl, Or.inl rfl⟩
  simp only [RunLoop.step] at h
  split at h
  case h_2 => cases h
  case h_1 c hreader =>
    split at h
    · cases h
      exact ⟨rfl, rfl, rfl, rfl, Or.inl rfl⟩
    · split at h
      · cases h
        exact ⟨rfl, rfl, rfl, rfl, Or.inl rfl⟩
      · cases h
        exact hmessage c _

/-- The worker asks the registry for a size that is not empty. -/
theorem asked_wide {s' : State} {hello : HelloMsg} {c' : Nat} {width height : UInt32}
    (hpc : s.pc = .panel c hello) (h : work args s = some s')
    (hacquire : s'.pc = .acquire c' width height) : width ≠ 0 := by
  simp only [work, hpc] at h
  split at h
  case h_1 =>
    cases h
    cases hacquire
  case h_2 hsize =>
    cases h
    cases hacquire
    exact normalizePanelSize_pos hsize

/-! ### What a sender holds -/

/-- The places where a `PanelHolder` can hold a share. -/
def mayHold : Pc → Bool
  | .pipeline _ | .sessionTest _ | .turn _ | .sessionEnd _ | .joining _ => true
  | .sleepTest conn _ _ | .sleepSlice conn _ _ => conn.isSome
  | _ => false

/-- The places where the sender works with its size. -/
def worksWithSize : Pc → Bool
  | .pipeline _ | .sessionTest _ | .turn _ => true
  | _ => false

/-- A sender and its share agree. -/
structure Held (sender : Sender) : Prop where
  granted : sender.share.granted.isSome = sender.state.panelHeld
  managed : sender.state.panelHeld = true → sender.args.managedDisplay = true
  place : sender.state.panelHeld = true → mayHold sender.state.pc = true
  works : worksWithSize sender.state.pc = true → sender.args.managedDisplay = true →
    sender.state.panelHeld = true
  size : worksWithSize sender.state.pc = true → sender.args.managedDisplay = true →
    sender.share.turned = false → sender.share.granted = some sender.size
  asked : ∀ c width height, sender.state.pc = .acquire c width height → width ≠ 0
  pending : ∀ size : UInt32 × UInt32, sender.state.pendingResize = some size → size.1 ≠ 0

/-- What a step does to the registry and to the share of the sender that takes it. -/
inductive Call (panel : PanelState) :
    Option (UInt32 × UInt32) → PanelState → Option (UInt32 × UInt32) → Prop where
  | none (granted : Option (UInt32 × UInt32)) : Call panel granted panel granted
  | acquire {panel' : PanelState} {w h : UInt32} (wide : w ≠ 0)
      (ok : acquirePanel panel w h = .ok panel') : Call panel .none panel' (some (w, h))
  | retune {panel' : PanelState} {size : UInt32 × UInt32} (old : UInt32 × UInt32)
      (wide : size.1 ≠ 0) (ok : retunePanel panel size.1 size.2 = some panel') :
      Call panel (some old) panel' (some size)
  | release (old : UInt32 × UInt32) : Call panel (some old) (releasePanel panel) .none

theorem accounted_call {panel panel' : PanelState} {granted : Grants} {i : Nat}
    {old new : Option (UInt32 × UInt32)} (hacc : Accounted panel granted)
    (hi : granted[i]? = some old) (hcall : Call panel old panel' new) :
    Accounted panel' (granted.set i new) := by
  cases hcall with
  | none =>
    obtain ⟨hlt, rfl⟩ := List.getElem?_eq_some_iff.1 hi
    rw [List.set_getElem_self]
    exact hacc
  | acquire wide ok => exact hacc.acquire hi wide ok
  | retune old wide ok => exact hacc.retune hi wide ok
  | release old => exact hacc.release hi

/-- The registry and the share behind a step are what they should be. -/
def Booked (panel : PanelState) (sender : Sender) (state : State) (after : PanelState × Share) :
    Prop :=
  Call panel sender.share.granted after.1 after.2.granted ∧ Held ⟨sender.args, state, after.2⟩

/-- A step that asks the registry nothing: it goes on with the share, or gives it back. -/
theorem booked_leave {panel : PanelState} {sender : Sender} {state : State} (h : Held sender)
    (hwidth : state.width = sender.state.width) (hheight : state.height = sender.state.height)
    (hpending : ∀ size : UInt32 × UInt32, state.pendingResize = some size →
      sender.state.pendingResize = some size ∨ size.1 ≠ 0)
    (hasked : ∀ c width height, state.pc = .acquire c width height → width ≠ 0)
    (hheld : state.panelHeld = sender.state.panelHeld ∧
        (mayHold sender.state.pc = true → mayHold state.pc = true) ∧
        (worksWithSize state.pc = true → worksWithSize sender.state.pc = true) ∨
      state.panelHeld = false ∧ worksWithSize state.pc = false) :
    Booked panel sender state (leaveShare panel sender state) := by
  have hkept : ∀ size : UInt32 × UInt32, state.pendingResize = some size → size.1 ≠ 0 :=
    fun size hsize => (hpending size hsize).elim (h.pending size) id
  rw [leaveShare]
  rcases hheld with ⟨hsame, hmay, hworks⟩ | ⟨hfree, hworks⟩
  · rw [hsame, Bool.and_not_self, if_neg Bool.false_ne_true]
    refine ⟨.none _, ?_, ?_, ?_, ?_, ?_, hasked, hkept⟩
    · exact h.granted.trans hsame.symm
    · exact fun hholds => h.managed (hsame.symm.trans hholds)
    · exact fun hholds => hmay (h.place (hsame.symm.trans hholds))
    · exact fun hin hmanaged => hsame.trans (h.works (hworks hin) hmanaged)
    · intro hin hmanaged hturned
      rw [Sender.size, hwidth, hheight]
      exact h.size (hworks hin) hmanaged hturned
  · have hout (hin : worksWithSize state.pc = true) : False :=
      Bool.false_ne_true (hworks.symm.trans hin)
    have hempty (hin : state.panelHeld = true) : False :=
      Bool.false_ne_true (hfree.symm.trans hin)
    cases hholds : sender.state.panelHeld with
    | true =>
      rw [hfree, if_pos (by decide)]
      obtain ⟨old, hold⟩ := Option.isSome_iff_exists.1 (h.granted.trans hholds)
      refine ⟨?_, hfree.symm, fun hin => (hempty hin).elim, fun hin => (hempty hin).elim,
        fun hin => (hout hin).elim, fun hin => (hout hin).elim, hasked, hkept⟩
      rw [hold]
      exact .release old
    | false =>
      rw [Bool.false_and, if_neg Bool.false_ne_true]
      exact ⟨.none _, (h.granted.trans hholds).trans hfree.symm, fun hin => (hempty hin).elim,
        fun hin => (hempty hin).elim, fun hin => (hout hin).elim, fun hin => (hout hin).elim,
        hasked, hkept⟩

/-- `AcquirePanel`. -/
theorem booked_acquire {doubles : Doubles D} {panel : PanelState} {sender : Sender} {state : State}
    {free : Bool} (h : Held sender) (hanswered : answered panel sender (.acquire free) = true)
    (hstep : RunLoop.step doubles sender.args sender.state (.acquire free) = some state) :
    Booked panel sender state (shareAfter panel sender (.acquire free) state) := by
  cases hpc : sender.state.pc with
  | acquire c width height =>
    have hholds : sender.state.panelHeld = false := by
      by_contra hheld
      have hplace := h.place (Bool.not_eq_false _ ▸ hheld)
      rw [hpc] at hplace
      cases hplace
    have hnone : sender.share.granted = none :=
      Option.not_isSome_iff_eq_none.1 (by rw [h.granted, hholds]; decide)
    simp only [RunLoop.step, hpc] at hstep
    simp only [answered, hpc, Bool.or_eq_true, Bool.not_eq_true', beq_iff_eq] at hanswered
    simp only [shareAfter, hpc]
    cases hmanaged : sender.args.managedDisplay with
    | false =>
      rw [hmanaged, Bool.false_and, if_neg Bool.false_ne_true] at hstep
      cases hstep
      rw [if_neg Bool.false_ne_true]
      refine ⟨.none _, h.granted.trans hholds, by rintro ⟨⟩, by rintro ⟨⟩, fun _ hyes => ?_,
        fun _ hyes => ?_, by rintro _ _ _ ⟨⟩, h.pending⟩ <;>
        exact absurd (hmanaged.symm.trans hyes) Bool.false_ne_true
    | true =>
      rw [hmanaged, Bool.true_and] at hstep
      rw [if_pos rfl]
      have hfree := hanswered.resolve_left (by rw [hmanaged]; decide)
      cases hask : acquirePanel panel width height with
      | error active =>
        obtain rfl : free = false := by rw [hfree, hask]; rfl
        cases hstep
        exact ⟨.none _, h.granted, h.managed, fun hheld => absurd (hholds.symm.trans hheld)
          Bool.false_ne_true, by rintro ⟨⟩, by rintro ⟨⟩, by rintro _ _ _ ⟨⟩, h.pending⟩
      | ok panel' =>
        obtain rfl : free = true := by rw [hfree, hask]; rfl
        cases hstep
        refine ⟨?_, rfl, fun _ => hmanaged, fun _ => rfl, fun _ _ => rfl, fun _ _ _ => rfl,
          by rintro _ _ _ ⟨⟩, h.pending⟩
        rw [hnone]
        exact .acquire (h.asked c width height hpc) hask
  | _ =>
    simp only [RunLoop.step, hpc] at hstep
    cases hstep

/-- A holder asks for a resize, and is granted it or turns all the same. -/
theorem resizeShare_held (panel : PanelState) {share : Share} {old size : UInt32 × UInt32}
    (requested : Option (UInt32 × UInt32)) (hold : share.granted = some old)
    (hsize : share.turned = false → share.granted = some size)
    (hwide : ∀ other : UInt32 × UInt32, requested = some other → other.1 ≠ 0) :
    Call panel share.granted (resizeShare panel share requested).1
        (resizeShare panel share requested).2.granted ∧
      (resizeShare panel share requested).2.granted.isSome = true ∧
      ((resizeShare panel share requested).2.turned = false →
        (resizeShare panel share requested).2.granted = some (requested.getD size)) := by
  cases requested with
  | none => exact ⟨.none _, by rw [resizeShare, hold]; rfl, hsize⟩
  | some other =>
    rw [resizeShare]
    cases hask : retunePanel panel other.1 other.2 with
    | none => exact ⟨.none _, by rw [hold]; rfl, by rintro ⟨⟩⟩
    | some panel' =>
      refine ⟨?_, rfl, fun _ => rfl⟩
      rw [hold]
      exact .retune old (hwide other rfl) hask

/-- What is requested is the size that the reader has left. -/
theorem pending_of_requestedResize {size : UInt32 × UInt32}
    (h : requestedResize args s answers = some size) : s.pendingResize = some size := by
  rw [requestedResize] at h
  split at h
  · cases h
  · exact (Option.filter_eq_some_iff.1 h).1

/-- `RetunePanel`, and a rotation made in Windows. -/
theorem booked_turn {doubles : Doubles D} {panel : PanelState} {sender : Sender} {state : State}
    {answers : Turn} (h : Held sender)
    (hstep : RunLoop.step doubles sender.args sender.state (.turn answers) = some state) :
    Booked panel sender state (shareAfter panel sender (.turn answers) state) := by
  cases hpc : sender.state.pc with
  | turn c =>
    simp only [RunLoop.step, hpc] at hstep
    cases hstep
    have hin : worksWithSize sender.state.pc = true := by rw [hpc]; rfl
    obtain ⟨hheld, hpending, hsize⟩ :=
      sessionTurn_size sender.args sender.state c answers
    obtain ⟨-, -, hstays⟩ := sessionTurn_streams sender.args sender.state c answers
    have hmay : mayHold (sessionTurn sender.args sender.state c answers).pc = true := by
      rcases hstays with hstays | hstays <;> rw [hstays] <;> rfl
    have htest (hworks : worksWithSize (sessionTurn sender.args sender.state c answers).pc = true) :
        (sessionTurn sender.args sender.state c answers).pc = .sessionTest c := by
      rcases hstays with hstays | hstays
      · exact hstays
      · rw [hstays] at hworks
        cases hworks
    have hasked : ∀ c' width height,
        (sessionTurn sender.args sender.state c answers).pc = .acquire c' width height →
          width ≠ 0 := by
      intro c' width height hacquire
      rcases hstays with hstays | hstays <;> cases hstays.symm.trans hacquire
    have hkept : ∀ size : UInt32 × UInt32,
        (sessionTurn sender.args sender.state c answers).pendingResize = some size →
          size.1 ≠ 0 := by
      intro size hsome
      rcases hpending with hnone | hsame
      · cases hnone.symm.trans hsome
      · exact h.pending size (hsame.symm.trans hsome)
    simp only [shareAfter, hpc]
    cases hmanaged : sender.args.managedDisplay with
    | false =>
      rw [if_neg Bool.false_ne_true]
      refine ⟨.none _, h.granted.trans hheld.symm, fun hyes => h.managed (hheld.symm.trans hyes),
        fun _ => hmay, fun _ hyes => ?_, fun _ hyes => ?_, hasked, hkept⟩ <;>
        exact absurd (hmanaged.symm.trans hyes) Bool.false_ne_true
    | true =>
      rw [if_pos rfl, turnShare]
      have hholds := h.works hin hmanaged
      obtain ⟨old, hold⟩ := Option.isSome_iff_exists.1 (h.granted.trans hholds)
      obtain ⟨hcall, hsome, hgranted⟩ := resizeShare_held panel
        (requestedResize sender.args sender.state answers) hold (h.size hin hmanaged)
        fun other hother => h.pending other (pending_of_requestedResize hother)
      refine ⟨hcall, hsome.trans (hheld.trans hholds).symm, fun _ => hmanaged, fun _ => hmay,
        fun _ _ => hheld.trans hholds, fun hworks _ hturned => ?_, hasked, hkept⟩
      rw [Bool.or_eq_false_iff] at hturned
      exact (hgranted hturned.1).trans (congrArg some (hsize (htest hworks) hturned.2).symm)
  | _ =>
    simp only [RunLoop.step, hpc] at hstep
    cases hstep

/-- **Every step of a sender.**  What it does to the registry is one of the three calls, and the
sender and its share go on agreeing. -/
theorem booked_step {doubles : Doubles D} {panel : PanelState} {sender : Sender} {state : State}
    {event : RunLoop.Event} (h : Held sender) (hanswered : answered panel sender event = true)
    (hstep : RunLoop.step doubles sender.args sender.state event = some state) :
    Booked panel sender state (shareAfter panel sender event state) := by
  have goes (hwidth : state.width = sender.state.width)
      (hheight : state.height = sender.state.height)
      (hpending : state.pendingResize = sender.state.pendingResize ∨ state.pendingResize = none)
      (hasked : ∀ c width height, state.pc = .acquire c width height → width ≠ 0)
      (hheld : state.panelHeld = sender.state.panelHeld ∧
          (mayHold sender.state.pc = true → mayHold state.pc = true) ∧
          (worksWithSize state.pc = true → worksWithSize sender.state.pc = true) ∨
        state.panelHeld = false ∧ worksWithSize state.pc = false) :
      Booked panel sender state (leaveShare panel sender state) := by
    refine booked_leave h hwidth hheight (fun size hsome => ?_) hasked hheld
    rcases hpending with hsame | hnone
    · exact Or.inl (hsame.symm.trans hsome)
    · cases hnone.symm.trans hsome
  have moves (hsame : state.width = sender.state.width ∧ state.height = sender.state.height ∧
      state.pendingResize = sender.state.pendingResize ∧
      state.panelHeld = sender.state.panelHeld ∧ state.pc = sender.state.pc) :
      Booked panel sender state (leaveShare panel sender state) := by
    obtain ⟨hwidth, hheight, hpending, hheld, hpc⟩ := hsame
    refine goes hwidth hheight (Or.inl hpending) (hpc ▸ h.asked) (Or.inl ⟨hheld, ?_, ?_⟩)
    · exact hpc ▸ id
    · exact hpc ▸ id
  cases does_of_step hstep with
  | panelBusy hpc | panelAcquired hpc => exact booked_acquire h hanswered hstep
  | turn hpc => exact booked_turn h hstep
  | readerRead =>
    obtain ⟨hheld, hwidth, hheight, hpc, hpending⟩ := readerRead_size hstep
    refine booked_leave h hwidth hheight (fun size hsome => ?_) (hpc ▸ h.asked)
      (Or.inl ⟨hheld, hpc ▸ id, hpc ▸ id⟩)
    rcases hpending with hsame | ⟨left, hleft, hwide⟩
    · exact Or.inl (hsame.symm.trans hsome)
    · cases hleft.symm.trans hsome
      exact Or.inr hwide
  | readerReads | readerLeaves | requestStop | callerLocks | callerFindsNone | callerInterrupts
  | callerUnlocks | stopReturns =>
    exact moves ⟨rfl, rfl, rfl, rfl, rfl⟩
  | @validPanel c hello hpc width height =>
    exact goes rfl rfl (Or.inl rfl) (fun c width height hacquire => asked_wide hpc hstep hacquire)
      (Or.inl ⟨rfl, by rw [hpc]; exact id, by rintro ⟨⟩⟩)
  | @wakes conn ms waited hpc =>
    cases conn with
    | none =>
      exact goes rfl rfl (Or.inl rfl) (by rintro _ _ _ ⟨⟩)
        (Or.inl ⟨rfl, by rw [hpc]; exact id, by rintro ⟨⟩⟩)
    | some c => exact goes rfl rfl (Or.inl rfl) (by rintro _ _ _ ⟨⟩) (Or.inr ⟨rfl, rfl⟩)
  | built hpc =>
    exact goes rfl rfl (Or.inr rfl) (by rintro _ _ _ ⟨⟩)
      (Or.inl ⟨rfl, fun _ => rfl, fun _ => by rw [hpc]; rfl⟩)
  | noHello | mismatch | joinsClosing | joinsQuietly | joins =>
    exact goes rfl rfl (Or.inl rfl) (by rintro _ _ _ ⟨⟩) (Or.inr ⟨rfl, rfl⟩)
  | guardFails hpc | guardExists hpc | guardTaken hpc | refused hpc | leavesLoop hpc
  | entersLoop hpc | allowed hpc | blocked hpc | connected hpc | unreachable hpc | locksIn hpc
  | registers hpc | stopsHandshake hpc | reads hpc | readsEnd hpc | readsOther hpc
  | readsHello hpc | matching hpc | welcomed hpc | notWelcomed hpc | invalidPanel hpc
  | notBuilt _ hpc | endsSession hpc | entersTurn hpc | interrupts hpc | locksOut hpc
  | goesRound hpc | breaks hpc | returns hpc | sleepsOn hpc | slice hpc | tearsDown hpc
  | tearsDownStopped hpc =>
    refine goes rfl rfl (Or.inl rfl) (by rintro _ _ _ ⟨⟩) (Or.inl ⟨rfl, ?_, ?_⟩) <;> rw [hpc] <;>
      first
      | exact id
      | exact fun _ => rfl

/-! ### Any number of senders -/

/-- The registry and the senders agree. -/
structure Inv (s : Process) : Prop where
  accounted : Accounted s.panel (s.senders.map fun sender => sender.share.granted)
  held : ∀ sender ∈ s.senders, Held sender

theorem held_start (args : Arguments) (left : SenderState) : Held ⟨args, start left, {}⟩ :=
  ⟨rfl, by rintro ⟨⟩, by rintro ⟨⟩, by rintro ⟨⟩, by rintro ⟨⟩, by rintro _ _ _ ⟨⟩, by rintro _ ⟨⟩⟩

theorem inv_step {doubles : Doubles D} {s s' : Process} {e : Event} (h : Inv s)
    (hstep : step doubles s e = some s') : Inv s' := by
  cases e with
  | launch args left =>
    cases hstep
    constructor
    · rw [List.map_append]
      exact h.accounted.launch
    · intro sender hmem
      rcases List.mem_append.1 hmem with hmem | hmem
      · exact h.held sender hmem
      · rw [List.mem_singleton.1 hmem]
        exact held_start args left
  | sender i event =>
    simp only [step] at hstep
    split at hstep
    case h_1 => cases hstep
    case h_2 sender hsender =>
      split at hstep
      case isFalse => cases hstep
      case isTrue hanswered =>
        obtain ⟨state, hstate, rfl⟩ := Option.map_eq_some_iff.1 hstep
        have hbooked := booked_step (h.held sender (List.mem_of_getElem? hsender)) hanswered hstate
        constructor
        · have hi : (s.senders.map fun sender => sender.share.granted)[i]? =
              some sender.share.granted := by
            rw [List.getElem?_map, hsender, Option.map_some]
          rw [List.map_set]
          exact accounted_call h.accounted hi hbooked.1
        · intro other hmem
          rcases List.mem_or_eq_of_mem_set hmem with hmem | rfl
          · exact h.held other hmem
          · exact hbooked.2

theorem inv_run {doubles : Doubles D} {events : List Event} {s : Process}
    (hrun : run (step doubles) .start events = some s) : Inv s :=
  run_invariant (fun _ _ _ h hstep => inv_step h hstep)
    ⟨Accounted.start 0, fun _ hmem => absurd hmem List.not_mem_nil⟩ hrun

/-- A sender that is in its streaming loop and has not turned works with the registry's size. -/
theorem size_of_streaming {s : Process} {i : Nat} {sender : Sender} (h : Inv s)
    (hi : s.senders[i]? = some sender) (hmanaged : sender.args.managedDisplay = true)
    (hstreaming : sender.streaming = true) (hturned : sender.share.turned = false) :
    sender.size = (s.panel.width, s.panel.height) := by
  have hworks : worksWithSize sender.state.pc = true := by
    cases hpc : sender.state.pc with
    | sessionTest | turn => rfl
    | _ =>
      rw [Sender.streaming, hpc] at hstreaming
      cases hstreaming
  have hgranted := (h.held sender (List.mem_of_getElem? hi)).size hworks hmanaged hturned
  refine h.accounted.size i _ ?_
  rw [List.getElem?_map, hi, Option.map_some, hgranted]

/-- **One panel.**  In every run of any number of senders, the managed senders that are in their
streaming loops, and have not turned without the registry since it granted them their size, work
with one size, and it is the registry's. -/
theorem one_panel (doubles : Doubles D) (events : List Event) (s : Process)
    (hrun : run (step doubles) .start events = some s) (i j : Nat) (x y : Sender)
    (hx : s.senders[i]? = some x) (hy : s.senders[j]? = some y)
    (hmanaged : x.args.managedDisplay = true ∧ y.args.managedDisplay = true)
    (hstreaming : x.streaming = true ∧ y.streaming = true)
    (hturned : x.share.turned = false ∧ y.share.turned = false) :
    x.size = y.size ∧ x.size = (s.panel.width, s.panel.height) := by
  have hinv := inv_run hrun
  have hsizex := size_of_streaming hinv hx hmanaged.1 hstreaming.1 hturned.1
  have hsizey := size_of_streaming hinv hy hmanaged.2 hstreaming.2 hturned.2
  exact ⟨hsizex.trans hsizey.symm, hsizex⟩

/-! ### Two receivers -/

/-- `double` where the messages have whole numbers only. -/
def wholeNumbers : Doubles Int where
  fromChars digits := some (digits.foldl (fun n c => 10 * n + (c.toNat - 0x30 : Nat)) 0)
  isFinite _ := true
  toInteger := some
  zero := 0
  upright := 0

/-- The hello of a device with its panel. -/
def helloWith (id pixelsWide pixelsHigh : String) : Bytes :=
  ascii "\x7b\"type\":\"hello\",\"id\":\"" ++ ascii id ++ ascii "\",\"pixelsWide\":" ++
    ascii pixelsWide ++ ascii ",\"pixelsHigh\":" ++ ascii pixelsHigh ++ ascii "\x7d"

/-- The way into the streaming loop. -/
def toStreaming (hello : Bytes) : List RunLoop.Event :=
  toHandshake ++
    [.read (some hello), .work, .welcome true, .work, .acquire true, .build none, .work]

/-- The second of two devices with one panel size. -/
def secondTablet : Arguments := ⟨ascii "192.168.1.6", 9000, ascii "B", true⟩

/-- Two senders of one panel size stream. -/
def together : List Event :=
  [.launch tablet .idle, .launch secondTablet .idle] ++
    (toStreaming (helloWith "A" "2732" "2048")).map (.sender 0) ++
    (toStreaming (helloWith "B" "2732" "2048")).map (.sender 1)

/-- The first device is turned. -/
def rotating : List Event :=
  together ++ [.readerTest, .readerRead (some (helloWith "A" "2048" "2732")) true,
    .turn ⟨true, none, true, (2048, 2732), none, true⟩].map (.sender 0)

/-- The two senders stream, with these sizes. -/
def streamsAt (first second : UInt32 × UInt32) (s : Process) : Bool :=
  match s.senders with
  | [x, y] =>
    x.args.managedDisplay && y.args.managedDisplay && x.streaming && y.streaming &&
      x.size == first && y.size == second && !y.share.turned
  | _ => false

theorem streamsAt_iff {first second : UInt32 × UInt32} {s : Process} :
    streamsAt first second s = true ↔ ∃ x y, s.senders = [x, y] ∧
      x.args.managedDisplay = true ∧ y.args.managedDisplay = true ∧ x.streaming = true ∧
      y.streaming = true ∧ x.size = first ∧ y.size = second ∧ y.share.turned = false := by
  rw [streamsAt]
  split
  case h_1 x y hsenders =>
    constructor
    · intro hstreams
      simp only [Bool.and_eq_true, beq_iff_eq, Bool.not_eq_true'] at hstreams
      exact ⟨x, y, hsenders, by simpa only [and_assoc] using hstreams⟩
    · rintro ⟨x', y', hsame, hstreams⟩
      cases hsenders.symm.trans hsame
      simpa [and_assoc] using hstreams
  case h_2 hother =>
    constructor
    · rintro ⟨⟩
    · rintro ⟨x, y, hsenders, -⟩
      exact absurd hsenders (hother x y)

/-- The first sender turns although the second one is attached, and works with a size that is
neither the second one's nor the registry's. -/
theorem one_panel_fails_rotating :
    ∃ s x y, run (step wholeNumbers) .start rotating = some s ∧ s.senders = [x, y] ∧
      x.args.managedDisplay = true ∧ y.args.managedDisplay = true ∧ x.streaming = true ∧
      y.streaming = true ∧ x.size = (2048, 2732) ∧ y.size = (2732, 2048) ∧
      s.panel = ⟨2732, 2048, 2⟩ := by
  have hends : ((run (step wholeNumbers) .start rotating).any fun s =>
      streamsAt (2048, 2732) (2732, 2048) s && s.panel == ⟨2732, 2048, 2⟩) = true := by
    decide +kernel
  obtain ⟨s, hrun, hs⟩ := (Option.any_eq_true _ _).1 hends
  rw [Bool.and_eq_true, beq_iff_eq] at hs
  obtain ⟨x, y, hsenders, hx, hy, hinx, hiny, hsizex, hsizey, -⟩ := streamsAt_iff.1 hs.1
  exact ⟨s, x, y, hrun, hsenders, hx, hy, hinx, hiny, hsizex, hsizey, hs.2⟩

theorem one_panel_together :
    ∃ s x y, run (step wholeNumbers) .start together = some s ∧ s.senders = [x, y] ∧
      x.streaming = true ∧ x.size = y.size ∧ x.size = (s.panel.width, s.panel.height) := by
  have hends : ((run (step wholeNumbers) .start together).any fun s =>
      streamsAt (2732, 2048) (2732, 2048) s && s.senders.all fun x => !x.share.turned) = true := by
    decide +kernel
  obtain ⟨s, hrun, hs⟩ := (Option.any_eq_true _ _).1 hends
  rw [Bool.and_eq_true, List.all_eq_true] at hs
  obtain ⟨x, y, hsenders, hx, hy, hinx, hiny, -, -, hturned⟩ := streamsAt_iff.1 hs.1
  have hmem : x ∈ s.senders := by rw [hsenders]; exact List.mem_cons_self
  have hfirst : x.share.turned = false := by simpa using hs.2 x hmem
  exact ⟨s, x, y, hrun, hsenders, hinx, one_panel wholeNumbers together s hrun 0 1 x y
    (by rw [hsenders]; rfl) (by rw [hsenders]; rfl) ⟨hx, hy⟩ ⟨hinx, hiny⟩ ⟨hfirst, hturned⟩⟩

end SecondDisplay.PanelSenders
