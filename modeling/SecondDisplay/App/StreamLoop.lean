import SecondDisplay.Encode.H264Encoder
import SecondDisplay.Library.Transitions

/-!
# What a streaming session sends (the loop of `RunLoop` in `app/SenderApp.cpp`)

Every turn of the streaming loop encodes a picture and sends the frames that come out.  A frame for
which the socket has no room is dropped, and the loop asks the encoder for a key frame, from which
the receiver can go on.  The request reaches the next picture that is fed, but the encoder may
still hold the one before.  `resynced_iff` says in which runs a drop is followed by a key frame all
the same.
-/

namespace SecondDisplay.StreamLoop

open SecondDisplay.AnnexB SecondDisplay.Transitions

/-! ### The encoder -/

/-- The picture of a sample can be decoded without an earlier one. -/
def isIdr (sample : Bytes) : Bool :=
  (scanStartCodes sample).any fun nal => nal.type == kNalTypeIdrSlice

/-- `H264Encoder` with its transform. -/
structure Encoder where
  configured : Bool
  forceKeyFrame : Bool
  /-- The next input becomes an IDR picture: the transform is new, or
  `CODECAPI_AVEncVideoForceKeyFrame` has been set for it. -/
  forced : Bool
  /-- The pictures that have been fed and have not come out. -/
  held : List Bytes
  spsPpsCache : SpsPpsCache

/-- `Configure`, which makes a new transform. -/
def Encoder.configure (encoder : Encoder) (ok : Bool) : Encoder :=
  { encoder with configured := ok, forced := true, held := [], spsPpsCache := .empty }

/-- `RequestKeyFrame`. -/
def Encoder.requestKeyFrame (encoder : Encoder) : Encoder := { encoder with forceKeyFrame := true }

/-- What the transform does in a call of `EncodeNv12`. -/
structure Pass where
  /-- `size` is not below `expected`. -/
  whole : Bool
  /-- It takes the picture. -/
  accepted : Bool
  /-- The sample it codes the picture into. -/
  coded : Bytes
  /-- How many samples come out, in the order in which they were fed. -/
  outputs : Nat

/-- `ExtractFrame` on every sample that comes out. -/
def extractFrames (cache : SpsPpsCache) : List Bytes → SpsPpsCache × List EncodedFrame
  | [] => (cache, [])
  | sample :: samples =>
    let first := extractFrame cache (some sample)
    let rest := extractFrames first.1 samples
    (rest.1, first.2.toList ++ rest.2)

/-- `EncodeNv12`, `none` where the transform does not keep to its contract: a picture that is forced
is an IDR picture, and at most one picture stays inside. -/
def encodeNv12 (encoder : Encoder) (pass : Pass) : Option (Encoder × List EncodedFrame) :=
  if !encoder.configured || !pass.whole then some (encoder, [])
  else
    let forced := encoder.forced || encoder.forceKeyFrame
    let fed := if pass.accepted then encoder.held ++ [pass.coded] else encoder.held
    if pass.accepted && forced && !isIdr pass.coded || 1 < (fed.drop pass.outputs).length then none
    else
      let out := extractFrames encoder.spsPpsCache (fed.take pass.outputs)
      some ({ encoder with
        forceKeyFrame := false
        forced := forced && !pass.accepted
        held := fed.drop pass.outputs
        spsPpsCache := out.1 }, out.2)

/-! ### The loop -/

/-- What `WaitWritable` and `SendFrame` answer for a frame. -/
inductive Send where
  | sent
  /-- The socket has no room. -/
  | full
  /-- `SendFrame` fails. -/
  | failed
  deriving DecidableEq

/-- What becomes of the frames. -/
inductive Act where
  | sent (frame : EncodedFrame)
  /-- Dropped for backpressure. -/
  | dropped (frame : EncodedFrame)
  deriving DecidableEq

/-- How far `buildPipeline` gets. -/
inductive Build where
  | ready
  /-- `Configure` fails. -/
  | encoderFails
  /-- It fails before `Configure`. -/
  | failsEarlier
  deriving DecidableEq

/-- `buildPipeline`. -/
def Encoder.build (encoder : Encoder) : Build → Encoder
  | .ready => encoder.configure true
  | .encoderFails => encoder.configure false
  | .failsEarlier => encoder

/-- What a turn of the loop meets. -/
structure Turn where
  /-- `liveSafety.allowed`. -/
  allowed : Bool := true
  /-- `requestedResize`, and the rebuild if the size is another one. -/
  resize : Option (Option Build) := none
  /-- The capture has another size than the encoder, and `Configure` is called. -/
  reconfigure : Option Bool := none
  /-- The monitor has been on a wrong size for too long. -/
  sizeRebuild : Option Build := none
  /-- The picture is encoded: `active || keepaliveDue`. -/
  encode : Option Pass := none
  /-- What the sends answer, one after the other. -/
  sends : List Send := []

/-- A session. -/
structure Session where
  encoder : Encoder
  keyFrameRequested : Bool
  running : Bool
  log : List Act

/-- The loop over the frames, with the answer that ends it. -/
def sendFrames : List EncodedFrame → List Send → List Act × Send
  | frame :: frames, .sent :: sends =>
    (.sent frame :: (sendFrames frames sends).1, (sendFrames frames sends).2)
  | frame :: _, .full :: _ => ([.dropped frame], .full)
  | _ :: _, .failed :: _ => ([], .failed)
  | _, _ => ([], .sent)

/-- `requestedResize`: the session, and whether the turn goes on. -/
def resizeTurn (s : Session) : Option (Option Build) → Session × Bool
  | none => (s, true)
  | some none => ({ s with keyFrameRequested := true }, true)
  | some (some .ready) =>
    ({ s with encoder := s.encoder.build .ready, keyFrameRequested := true }, true)
  | some (some build) => ({ s with encoder := s.encoder.build build, running := false }, false)

/-- `keyFrameRequested.exchange(false)`. -/
def takeRequest (s : Session) : Session :=
  if s.keyFrameRequested then
    { s with encoder := s.encoder.requestKeyFrame, keyFrameRequested := false }
  else s

/-- The encoder follows the capture. -/
def reconfigureTurn (s : Session) : Option Bool → Session
  | none => s
  | some true => { s with encoder := (s.encoder.configure true).requestKeyFrame }
  | some false => { s with encoder := s.encoder.configure false, running := false }

/-- The monitor is put back on the panel's size: a rebuild that succeeds ends the turn. -/
def rebuildTurn (s : Session) : Option Build → Session × Bool
  | none => (s, true)
  | some build => ({ s with encoder := s.encoder.build build }, build != .ready)

/-- The turn up to the picture: the session, and whether the turn goes on. -/
def prepare (s : Session) (t : Turn) : Session × Bool :=
  if !t.allowed then ({ s with running := false }, false)
  else
    let resized := resizeTurn s t.resize
    if !resized.2 then (resized.1, false)
    else rebuildTurn (reconfigureTurn (takeRequest resized.1) t.reconfigure) t.sizeRebuild

/-- The frames are sent. -/
def sendTurn (s : Session) (encoder : Encoder) (frames : List EncodedFrame) (sends : List Send) :
    Session :=
  let out := sendFrames frames sends
  { s with
    encoder := if out.2 = .full then encoder.requestKeyFrame else encoder
    running := s.running && out.2 != .failed
    log := s.log ++ out.1 }

/-- The picture is encoded and the frames are sent. -/
def encodeTurn (s : Session) (t : Turn) : Option Session :=
  match if s.running then t.encode else none with
  | none => some s
  | some pass =>
    match encodeNv12 s.encoder pass with
    | none => none
    | some out =>
      if out.2.length ≤ t.sends.length then some (sendTurn s out.1 out.2 t.sends) else none

/-- The steps of the worker, and what the reader does to it. -/
inductive Event where
  | turn (answers : Turn)
  /-- The reader takes a request for a key frame. -/
  | kf
  /-- The reader ends the session. -/
  | stop

/-- One step, or `none` where the event cannot happen. -/
def step (s : Session) : Event → Option Session
  | .turn t =>
    if s.running then
      let prepared := prepare s t
      if prepared.2 then encodeTurn prepared.1 t else some prepared.1
    else none
  | .kf => some { s with keyFrameRequested := true }
  | .stop => some { s with running := false }

/-- The pipeline has been built, and the encoder may have been left with a request. -/
def start (forceKeyFrame : Bool) : Session where
  encoder := ⟨true, forceKeyFrame, true, [], .empty⟩
  keyFrameRequested := false
  running := true
  log := []

/-! ### Drops and key frames -/

/-- After every drop, the next frame that is sent is a key frame. -/
def Resynced (log : List Act) : Prop :=
  ∀ before frame mid next after, log = before ++ .dropped frame :: (mid ++ .sent next :: after) →
    (∀ sent, Act.sent sent ∉ mid) → next.isKeyFrame = true

/-- The first frame that is sent is a key frame. -/
def FirstIsKey (log : List Act) : Prop :=
  ∀ mid next after, log = mid ++ .sent next :: after → (∀ sent, Act.sent sent ∉ mid) →
    next.isKeyFrame = true

/-- A key frame is owed behind these acts: the last of them is a drop. -/
def owed : Bool → List Act → Bool
  | before, [] => before
  | _, .dropped _ :: acts => owed true acts
  | _, .sent _ :: acts => owed false acts

/-- How often a frame was sent in place of a key frame that was owed. -/
def lateFrames : Bool → List Act → Int
  | _, [] => 0
  | _, .dropped _ :: acts => lateFrames true acts
  | before, .sent frame :: acts =>
    (if before && !frame.isKeyFrame then 1 else 0) + lateFrames false acts

theorem owed_append (before : Bool) (xs ys : List Act) :
    owed before (xs ++ ys) = owed (owed before xs) ys := by
  induction xs generalizing before with
  | nil => rfl
  | cons act xs ih => cases act <;> exact ih _

theorem lateFrames_append (before : Bool) (xs ys : List Act) :
    lateFrames before (xs ++ ys) = lateFrames before xs + lateFrames (owed before xs) ys := by
  induction xs generalizing before with
  | nil => exact (Int.zero_add _).symm
  | cons act xs ih =>
    cases act with
    | sent frame =>
      simp only [List.cons_append, lateFrames, owed, ih]
      omega
    | dropped frame => exact ih true

theorem lateFrames_nonneg (before : Bool) (acts : List Act) : 0 ≤ lateFrames before acts := by
  induction acts generalizing before with
  | nil => exact Int.le_refl 0
  | cons act acts ih =>
    cases act with
    | sent frame =>
      have hrest := ih false
      rw [lateFrames]
      split <;> omega
    | dropped frame => exact ih true

theorem firstIsKey_sent (frame : EncodedFrame) (acts : List Act) :
    FirstIsKey (.sent frame :: acts) ↔ frame.isKeyFrame = true := by
  constructor
  · intro h
    exact h [] frame acts rfl fun _ => List.not_mem_nil
  · intro h mid next after hlog hmid
    cases mid with
    | nil =>
      cases hlog
      exact h
    | cons act mid =>
      cases hlog
      exact absurd List.mem_cons_self (hmid frame)

theorem firstIsKey_dropped (frame : EncodedFrame) (acts : List Act) :
    FirstIsKey (.dropped frame :: acts) ↔ FirstIsKey acts := by
  constructor
  · intro h mid next after hlog hmid
    refine h (.dropped frame :: mid) next after (by rw [hlog, List.cons_append]) fun sent hmem => ?_
    rcases List.mem_cons.1 hmem with hsent | hmem
    · cases hsent
    · exact hmid sent hmem
  · intro h mid next after hlog hmid
    cases mid with
    | nil => cases hlog
    | cons act mid =>
      cases hlog
      exact h mid next after rfl fun sent hmem => hmid sent (List.mem_cons_of_mem _ hmem)

theorem resynced_sent (frame : EncodedFrame) (acts : List Act) :
    Resynced (.sent frame :: acts) ↔ Resynced acts := by
  constructor
  · intro h before drop mid next after hlog hmid
    exact h (.sent frame :: before) drop mid next after (by rw [hlog, List.cons_append]) hmid
  · intro h before drop mid next after hlog hmid
    cases before with
    | nil => cases hlog
    | cons act before =>
      cases hlog
      exact h before drop mid next after rfl hmid

theorem resynced_dropped (frame : EncodedFrame) (acts : List Act) :
    Resynced (.dropped frame :: acts) ↔ FirstIsKey acts ∧ Resynced acts := by
  constructor
  · intro h
    refine ⟨fun mid next after hlog hmid => ?_, fun before drop mid next after hlog hmid => ?_⟩
    · exact h [] frame mid next after (by rw [hlog, List.nil_append]) hmid
    · exact h (.dropped frame :: before) drop mid next after (by rw [hlog, List.cons_append]) hmid
  · rintro ⟨hfirst, hrest⟩ before drop mid next after hlog hmid
    cases before with
    | nil =>
      cases hlog
      exact hfirst mid next after rfl hmid
    | cons act before =>
      cases hlog
      exact hrest before drop mid next after rfl hmid

theorem lateFrames_eq_zero (before : Bool) (log : List Act) :
    lateFrames before log = 0 ↔ (before = true → FirstIsKey log) ∧ Resynced log := by
  induction log generalizing before with
  | nil =>
    refine ⟨fun _ => ⟨fun _ mid next after hlog => ?_, fun _ _ _ _ _ hlog => ?_⟩, fun _ => rfl⟩
    · exact absurd hlog (by simp)
    · exact absurd hlog (by simp)
  | cons act log ih =>
    cases act with
    | dropped frame =>
      rw [lateFrames, ih, resynced_dropped, firstIsKey_dropped]
      constructor
      · intro h
        exact ⟨fun _ => h.1 rfl, h.1 rfl, h.2⟩
      · intro h
        exact ⟨fun _ => h.2.1, h.2.2⟩
    | sent frame =>
      have hnonneg := lateFrames_nonneg false log
      rw [resynced_sent, firstIsKey_sent, lateFrames]
      have hrest := ih false
      cases before with
      | false =>
        rw [Bool.false_and, if_neg Bool.false_ne_true, Int.zero_add, hrest]
        exact and_congr_left fun _ => ⟨by rintro _ ⟨⟩, by rintro _ ⟨⟩⟩
      | true =>
        cases hkey : frame.isKeyFrame with
        | true =>
          rw [Bool.not_true, Bool.and_false, if_neg Bool.false_ne_true, Int.zero_add, hrest]
          exact and_congr_left fun _ => ⟨fun _ _ => rfl, by rintro _ ⟨⟩⟩
        | false =>
          rw [Bool.not_false, Bool.and_true, if_pos rfl]
          constructor
          · intro h
            omega
          · intro h
            cases h.1 rfl

theorem resynced_iff_lateFrames (log : List Act) : Resynced log ↔ lateFrames false log = 0 := by
  rw [lateFrames_eq_zero]
  exact ⟨fun h => ⟨by rintro ⟨⟩, h⟩, fun h => h.2⟩

/-! ### What comes out of the encoder -/

/-- A key frame is on its way: one is requested, or forced, or is the picture inside. -/
def Armed (encoder : Encoder) : Prop :=
  encoder.forceKeyFrame = true ∨ encoder.forced = true ∨
    ∃ sample, encoder.held = [sample] ∧ isIdr sample = true

/-- The picture inside comes out, as this frame. -/
def FromHeld (encoder : Encoder) (pass : Pass) (frame : EncodedFrame) : Prop :=
  encoder.configured = true ∧ pass.whole = true ∧ 1 ≤ pass.outputs ∧
    ∃ sample, encoder.held.head? = some sample ∧
      (extractFrame encoder.spsPpsCache (some sample)).2 = some frame

/-- An IDR picture makes a key frame. -/
theorem extractFrame_idr (cache : SpsPpsCache) {sample : Bytes} (h : isIdr sample = true) :
    ∃ frame, (extractFrame cache (some sample)).2 = some frame ∧ frame.isKeyFrame = true := by
  have hnals : (scanStartCodes sample).isEmpty = false := by
    cases hscan : scanStartCodes sample with
    | nil =>
      rw [isIdr, hscan] at h
      cases h
    | cons nal nals => rfl
  simp only [extractFrame, hnals, Bool.false_eq_true, if_false]
  refine ⟨_, rfl, ?_⟩
  dsimp only
  obtain ⟨-, ⟨hout, -⟩ | ⟨sps, pps, -, -, -, -, hout⟩⟩ :=
    ensureParameterSets_cases cache (scanStartCodes sample)
  · rw [hout]
    exact h
  · rw [hout, List.any_cons, List.any_cons]
    exact Bool.or_eq_true_iff.2 (Or.inr (Bool.or_eq_true_iff.2 (Or.inr h)))

/-- The samples come out in order. -/
theorem extractFrames_head (cache : SpsPpsCache) (sample : Bytes) (samples : List Bytes)
    {frame : EncodedFrame} (h : (extractFrame cache (some sample)).2 = some frame) :
    (extractFrames cache (sample :: samples)).2.head? = some frame := by
  simp only [extractFrames, h]
  rfl

theorem extractFrames_none (cache : SpsPpsCache) (sample : Bytes) (samples : List Bytes)
    (h : (extractFrame cache (some sample)).2 = none) :
    (extractFrames cache (sample :: samples)).2 =
      (extractFrames (extractFrame cache (some sample)).1 samples).2 := by
  simp only [extractFrames, h]
  rfl

theorem extractFrames_idr (cache : SpsPpsCache) {sample : Bytes} (samples : List Bytes)
    (h : isIdr sample = true) :
    ∃ frame, (extractFrames cache (sample :: samples)).2.head? = some frame ∧
      frame.isKeyFrame = true := by
  obtain ⟨frame, hframe, hkey⟩ := extractFrame_idr cache h
  exact ⟨frame, extractFrames_head cache sample samples hframe, hkey⟩

/-- An IDR picture that is last comes out as a key frame, or stays inside. -/
theorem extractFrames_last (cache : SpsPpsCache) {sample : Bytes} (h : isIdr sample = true)
    (n : Nat) :
    ((extractFrames cache ([sample].take n)).2 = [] → [sample].drop n = [sample]) ∧
      ∀ frame, (extractFrames cache ([sample].take n)).2.head? = some frame →
        frame.isKeyFrame = true := by
  cases n with
  | zero => exact ⟨fun _ => rfl, by rintro _ ⟨⟩⟩
  | succ n =>
    rw [List.take_succ_cons, List.take_nil]
    obtain ⟨key, hkey, hiskey⟩ := extractFrames_idr cache [] h
    constructor
    · intro hnone
      rw [hnone] at hkey
      cases hkey
    · intro frame hframe
      cases hkey.symm.trans hframe
      exact hiskey

/-- Take a call of `EncodeNv12` apart. -/
theorem encodeNv12_cases {encoder : Encoder} {pass : Pass} {out : Encoder × List EncodedFrame}
    (h : encodeNv12 encoder pass = some out) :
    out = (encoder, []) ∧ ¬(encoder.configured = true ∧ pass.whole = true) ∨
      encoder.configured = true ∧ pass.whole = true ∧ ∃ fed : List Bytes,
        fed = (if pass.accepted then encoder.held ++ [pass.coded] else encoder.held) ∧
        (pass.accepted = true → encoder.forced || encoder.forceKeyFrame → isIdr pass.coded = true) ∧
        (fed.drop pass.outputs).length ≤ 1 ∧
        out.1.held = fed.drop pass.outputs ∧
        out.1.forced = ((encoder.forced || encoder.forceKeyFrame) && !pass.accepted) ∧
        out.2 = (extractFrames encoder.spsPpsCache (fed.take pass.outputs)).2 := by
  rw [encodeNv12] at h
  split at h
  case isTrue hidle =>
    cases h
    refine Or.inl ⟨rfl, ?_⟩
    rintro ⟨hconfigured, hwhole⟩
    rw [hconfigured, hwhole] at hidle
    cases hidle
  case isFalse hready =>
    simp only [Bool.or_eq_true, Bool.not_eq_true', not_or, Bool.not_eq_false] at hready
    dsimp only at h
    generalize hfed : (if pass.accepted = true then encoder.held ++ [pass.coded]
      else encoder.held) = fed at h
    split at h
    case isTrue => cases h
    case isFalse hcontract =>
      cases h
      simp only [Bool.or_eq_true, decide_eq_true_eq, Bool.and_eq_true, Bool.not_eq_true', not_or,
        not_and, Bool.not_eq_false, Nat.not_lt] at hcontract
      refine Or.inr ⟨hready.1, hready.2, fed, rfl, fun haccepted hforced => ?_, hcontract.2, rfl,
        rfl, rfl⟩
      exact hcontract.1 ⟨haccepted, Bool.or_eq_true_iff.1 hforced⟩

/-- **A key frame that is on its way comes first**, unless the picture inside comes out before
it. -/
theorem encodeNv12_armed {encoder : Encoder} {pass : Pass} {out : Encoder × List EncodedFrame}
    (hheld : encoder.held.length ≤ 1) (harmed : Armed encoder)
    (h : encodeNv12 encoder pass = some out) :
    (out.2 = [] → Armed out.1) ∧
      ∀ frame, out.2.head? = some frame → frame.isKeyFrame = false →
        FromHeld encoder pass frame := by
  obtain ⟨rfl, -⟩ | ⟨hconfigured, hwhole, fed, hfed, hidr, hleft, hheld', hforced', hframes⟩ :=
    encodeNv12_cases h
  · exact ⟨fun _ => harmed, by rintro _ ⟨⟩⟩
  -- Either the next picture is forced, or the one inside is the key frame.
  have hcases : (encoder.forced || encoder.forceKeyFrame) = true ∨
      ∃ sample, encoder.held = [sample] ∧ isIdr sample = true := by
    rcases harmed with hforce | hforced | hsample
    · exact Or.inl (by rw [hforce, Bool.or_true])
    · exact Or.inl (by rw [hforced, Bool.true_or])
    · exact Or.inr hsample
  have stays (hleft' : fed.drop pass.outputs = [pass.coded]) (hcoded : isIdr pass.coded = true) :
      Armed out.1 :=
    Or.inr (Or.inr ⟨pass.coded, hheld'.trans hleft', hcoded⟩)
  have comesOut {sample : Bytes} {frame : EncodedFrame} {n : Nat}
      (hinside : encoder.held = [sample]) (hn : pass.outputs = n + 1)
      (hframe : (extractFrame encoder.spsPpsCache (some sample)).2 = some frame) :
      FromHeld encoder pass frame :=
    ⟨hconfigured, hwhole, by omega, sample, by rw [hinside]; rfl, hframe⟩
  rw [hframes]
  cases hinside : encoder.held with
  | nil =>
    have hforced : (encoder.forced || encoder.forceKeyFrame) = true := by
      refine hcases.resolve_right ?_
      rintro ⟨sample, hsample, -⟩
      cases hinside.symm.trans hsample
    cases haccepted : pass.accepted with
    | false =>
      rw [hinside, haccepted, if_neg Bool.false_ne_true] at hfed
      rw [hfed, List.take_nil]
      exact ⟨fun _ => Or.inr (Or.inl (by rw [hforced', hforced, haccepted]; rfl)), by rintro _ ⟨⟩⟩
    | true =>
      rw [hinside, haccepted, if_pos rfl, List.nil_append] at hfed
      have hcoded := hidr haccepted hforced
      obtain ⟨hnone, hkey⟩ := extractFrames_last encoder.spsPpsCache hcoded pass.outputs
      rw [hfed]
      refine ⟨fun hempty => stays (hfed ▸ hnone hempty) hcoded, fun frame hframe hother => ?_⟩
      cases (hkey frame hframe).symm.trans hother
  | cons sample rest =>
    have hrest : rest = [] := by
      rw [hinside, List.length_cons] at hheld
      exact List.length_eq_zero_iff.1 (by omega)
    subst hrest
    have hfed' : fed = sample :: (if pass.accepted then [pass.coded] else []) := by
      rw [hfed, hinside]
      split <;> rfl
    cases hn : pass.outputs with
    | zero =>
      -- Nothing comes out, so nothing is taken in.
      rw [hn, hfed', List.drop_zero] at hleft hheld'
      have hrefused : pass.accepted = false := by
        by_contra haccepted
        rw [Bool.not_eq_false] at haccepted
        rw [haccepted, if_pos rfl] at hleft
        exact absurd hleft (by simp)
      rw [List.take_zero]
      refine ⟨fun _ => ?_, by rintro _ ⟨⟩⟩
      rcases hcases with hforced | ⟨other, hother, hkey⟩
      · exact Or.inr (Or.inl (by rw [hforced', hforced, hrefused]; rfl))
      · cases hinside.symm.trans hother
        rw [hrefused, if_neg Bool.false_ne_true] at hheld'
        exact Or.inr (Or.inr ⟨sample, hheld', hkey⟩)
    | succ n =>
      rw [hfed', List.take_succ_cons]
      cases hframe : (extractFrame encoder.spsPpsCache (some sample)).2 with
      | some first =>
        rw [extractFrames_head _ _ _ hframe]
        refine ⟨fun hempty => ?_, ?_⟩
        · have hhead := extractFrames_head _ _ (List.take n
            (if pass.accepted then [pass.coded] else [])) hframe
          rw [hempty] at hhead
          cases hhead
        · rintro frame ⟨⟩ -
          exact comesOut hinside hn hframe
      | none =>
        rw [extractFrames_none _ _ _ hframe]
        have hforced : (encoder.forced || encoder.forceKeyFrame) = true := by
          refine hcases.resolve_right ?_
          rintro ⟨other, hother, hkey⟩
          cases hinside.symm.trans hother
          obtain ⟨frame, hsome, -⟩ := extractFrame_idr encoder.spsPpsCache hkey
          cases hframe.symm.trans hsome
        cases haccepted : pass.accepted with
        | false =>
          rw [if_neg Bool.false_ne_true, List.take_nil]
          exact ⟨fun _ => Or.inr (Or.inl (by rw [hforced', hforced, haccepted]; rfl)),
            by rintro _ ⟨⟩⟩
        | true =>
          rw [if_pos rfl]
          have hcoded := hidr haccepted hforced
          obtain ⟨hnone, hkey⟩ :=
            extractFrames_last (extractFrame encoder.spsPpsCache (some sample)).1 hcoded n
          refine ⟨fun hempty => stays ?_ hcoded, fun frame hout hother => ?_⟩
          · rw [hfed', hn, haccepted, if_pos rfl, List.drop_succ_cons]
            exact hnone hempty
          · cases (hkey frame hout).symm.trans hother

/-- The picture inside comes out first. -/
theorem head_of_fromHeld {encoder : Encoder} {pass : Pass} {out : Encoder × List EncodedFrame}
    {frame : EncodedFrame} (hfrom : FromHeld encoder pass frame)
    (h : encodeNv12 encoder pass = some out) : out.2.head? = some frame := by
  obtain ⟨hconfigured, hwhole, houtputs, sample, hsample, hframe⟩ := hfrom
  obtain ⟨-, hidle⟩ | ⟨-, -, fed, hfed, -, -, -, -, hframes⟩ := encodeNv12_cases h
  · exact absurd ⟨hconfigured, hwhole⟩ hidle
  · obtain ⟨rest, hinside⟩ := List.head?_eq_some_iff.1 hsample
    obtain ⟨n, hn⟩ := Nat.exists_eq_add_of_le' houtputs
    have hfed' : fed = sample :: (if pass.accepted then rest ++ [pass.coded] else rest) := by
      rw [hfed, hinside]
      split <;> rfl
    rw [hframes, hfed', hn, List.take_succ_cons]
    exact extractFrames_head _ _ _ hframe

/-! ### What is sent -/

theorem lateFrames_sendFrames_false (frames : List EncodedFrame) (sends : List Send) :
    lateFrames false (sendFrames frames sends).1 = 0 := by
  induction frames generalizing sends with
  | nil => rfl
  | cons frame frames ih =>
    cases sends with
    | nil => rfl
    | cons send sends =>
      cases send with
      | sent =>
        rw [sendFrames, lateFrames, Bool.false_and, if_neg Bool.false_ne_true, Int.zero_add]
        exact ih sends
      | full | failed => rfl

/-- Only the first frame of a turn can be late. -/
theorem lateFrames_sendFrames (before : Bool) (frames : List EncodedFrame) (sends : List Send) :
    lateFrames before (sendFrames frames sends).1 =
      if before && frames.head?.any (fun frame => !frame.isKeyFrame) &&
        sends.head? == some .sent then 1 else 0 := by
  cases frames with
  | nil => cases before <;> rfl
  | cons frame frames =>
    cases sends with
    | nil => simp [sendFrames, lateFrames]
    | cons send sends =>
      cases send with
      | sent =>
        rw [sendFrames, lateFrames, lateFrames_sendFrames_false, Int.add_zero]
        simp
      | full | failed => simp [sendFrames, lateFrames]

/-- A key frame is owed behind a turn that has dropped a frame, or has sent none. -/
theorem owed_sendFrames {before : Bool} {frames : List EncodedFrame} {sends : List Send}
    (hsends : frames.length ≤ sends.length) (h : owed before (sendFrames frames sends).1 = true) :
    (sendFrames frames sends).2 = .full ∨ (sendFrames frames sends).2 = .failed ∨
      before = true ∧ frames = [] := by
  induction frames generalizing before sends with
  | nil => exact Or.inr (Or.inr ⟨h, rfl⟩)
  | cons frame frames ih =>
    cases sends with
    | nil => exact absurd hsends (by simp)
    | cons send sends =>
      cases send with
      | sent =>
        rw [sendFrames] at h ⊢
        rcases ih (Nat.le_of_succ_le_succ hsends) h with hfull | hfailed | ⟨hbefore, -⟩
        · exact Or.inl hfull
        · exact Or.inr (Or.inl hfailed)
        · cases hbefore
      | full => exact Or.inl rfl
      | failed => exact Or.inr (Or.inl rfl)

/-! ### The turns -/

/-- The turn does not touch the encoder before the picture. -/
def Turn.keepsEncoder (t : Turn) : Bool :=
  t.allowed && (t.resize == none || t.resize == some none) && t.reconfigure == none &&
    (t.sizeRebuild == none || t.sizeRebuild == some .failsEarlier)

/-- The turn sends a picture that was inside when a key frame was owed already. -/
def late (s : Session) (t : Turn) : Bool :=
  owed false s.log && t.keepsEncoder && s.encoder.configured &&
    t.encode.any (fun pass => pass.whole && 1 ≤ pass.outputs) &&
    s.encoder.held.head?.any (fun sample =>
      (extractFrame s.encoder.spsPpsCache (some sample)).2.any fun frame => !frame.isKeyFrame) &&
    t.sends.head? == some .sent

/-- No picture that was inside is sent while a key frame is owed. -/
def Timely (s : Session) : Event → Prop
  | .turn t => late s t = false
  | _ => True

/-- What holds between the steps. -/
structure Inv (s : Session) : Prop where
  held : s.encoder.held.length ≤ 1
  armed : s.running = true → owed false s.log = true → Armed s.encoder

variable {s s' : Session} {t : Turn}

theorem armed_request {encoder : Encoder} : Armed encoder.requestKeyFrame := Or.inl rfl

theorem armed_configure {encoder : Encoder} (ok : Bool) : Armed (encoder.configure ok) :=
  Or.inr (Or.inl rfl)

theorem build_armed {encoder : Encoder} (build : Build) (h : Armed encoder) :
    Armed (encoder.build build) := by
  cases build with
  | ready => exact armed_configure true
  | encoderFails => exact armed_configure false
  | failsEarlier => exact h

theorem build_held (encoder : Encoder) (build : Build) :
    (encoder.build build).held.length ≤ encoder.held.length := by
  cases build with
  | ready | encoderFails => exact Nat.zero_le _
  | failsEarlier => exact Nat.le_refl _

/-- A part of a turn before the picture. -/
structure Prepares (s s' : Session) : Prop where
  log : s'.log = s.log
  running : s'.running = true → s.running = true
  held : s'.encoder.held.length ≤ s.encoder.held.length
  armed : Armed s.encoder → Armed s'.encoder

/-- The session is about to end, or nothing is left in the encoder. -/
def Renewed (s : Session) : Prop := s.running = false ∨ s.encoder.held.length = 0

namespace Prepares

theorem refl (s : Session) : Prepares s s := ⟨rfl, id, Nat.le_refl _, id⟩

theorem trans {s'' : Session} (h : Prepares s s') (h' : Prepares s' s'') : Prepares s s'' :=
  ⟨h'.log.trans h.log, fun hrunning => h.running (h'.running hrunning), Nat.le_trans h'.held h.held,
    fun harmed => h'.armed (h.armed harmed)⟩

theorem renewed (h : Prepares s s') (hrenewed : Renewed s) : Renewed s' := by
  rcases hrenewed with hover | hempty
  · refine Or.inl ?_
    by_contra hrunning
    rw [Bool.not_eq_false] at hrunning
    cases hover.symm.trans (h.running hrunning)
  · exact Or.inr (Nat.le_zero.1 (hempty ▸ h.held))

end Prepares

theorem resizeTurn_spec (s : Session) (resize : Option (Option Build)) :
    Prepares s (resizeTurn s resize).1 ∧
      (resize = none ∨ resize = some none ∨ Renewed (resizeTurn s resize).1) := by
  cases resize with
  | none => exact ⟨.refl s, Or.inl rfl⟩
  | some size =>
    cases size with
    | none => exact ⟨⟨rfl, id, Nat.le_refl _, id⟩, Or.inr (Or.inl rfl)⟩
    | some build =>
      cases build with
      | ready =>
        exact ⟨⟨rfl, id, Nat.zero_le _, fun _ => armed_configure true⟩,
          Or.inr (Or.inr (Or.inr rfl))⟩
      | encoderFails =>
        exact ⟨⟨rfl, by rintro ⟨⟩, build_held _ _, build_armed _⟩, Or.inr (Or.inr (Or.inl rfl))⟩
      | failsEarlier =>
        exact ⟨⟨rfl, by rintro ⟨⟩, build_held _ _, build_armed _⟩, Or.inr (Or.inr (Or.inl rfl))⟩

theorem takeRequest_spec (s : Session) : Prepares s (takeRequest s) := by
  rw [takeRequest]
  split
  · exact ⟨rfl, id, Nat.le_refl _, fun _ => armed_request⟩
  · exact .refl s

theorem reconfigureTurn_spec (s : Session) (reconfigure : Option Bool) :
    Prepares s (reconfigureTurn s reconfigure) ∧
      (reconfigure = none ∨ Renewed (reconfigureTurn s reconfigure)) := by
  cases reconfigure with
  | none => exact ⟨.refl s, Or.inl rfl⟩
  | some ok =>
    cases ok with
    | true => exact ⟨⟨rfl, id, Nat.zero_le _, fun _ => armed_request⟩, Or.inr (Or.inr rfl)⟩
    | false =>
      exact ⟨⟨rfl, by rintro ⟨⟩, Nat.zero_le _, fun _ => armed_configure false⟩,
        Or.inr (Or.inl rfl)⟩

theorem rebuildTurn_spec (s : Session) (sizeRebuild : Option Build) :
    Prepares s (rebuildTurn s sizeRebuild).1 ∧
      (sizeRebuild = none ∨ sizeRebuild = some .failsEarlier ∨
        Renewed (rebuildTurn s sizeRebuild).1) := by
  cases sizeRebuild with
  | none => exact ⟨.refl s, Or.inl rfl⟩
  | some build =>
    refine ⟨⟨rfl, id, build_held _ _, build_armed _⟩, ?_⟩
    cases build with
    | ready | encoderFails => exact Or.inr (Or.inr (Or.inr rfl))
    | failsEarlier => exact Or.inr (Or.inl rfl)

/-- **The turn before the picture** keeps what is on its way, and leaves the encoder with what was
inside only where it does not touch it. -/
theorem prepare_spec (s : Session) (t : Turn) :
    Prepares s (prepare s t).1 ∧ (t.keepsEncoder = true ∨ Renewed (prepare s t).1) := by
  rw [prepare]
  split
  · exact ⟨⟨rfl, by rintro ⟨⟩, Nat.le_refl _, id⟩, Or.inr (Or.inl rfl)⟩
  rename_i hallowed
  obtain ⟨hresize, hresized⟩ := resizeTurn_spec s t.resize
  dsimp only
  split
  · rename_i hleaves
    refine ⟨hresize, ?_⟩
    rcases hresized with hnone | hsame | hrenewed
    · rw [hnone] at hleaves
      cases hleaves
    · rw [hsame] at hleaves
      cases hleaves
    · exact Or.inr hrenewed
  · have hrequest := takeRequest_spec (resizeTurn s t.resize).1
    obtain ⟨hreconfigure, hreconfigured⟩ :=
      reconfigureTurn_spec (takeRequest (resizeTurn s t.resize).1) t.reconfigure
    obtain ⟨hrebuild, hrebuilt⟩ := rebuildTurn_spec
      (reconfigureTurn (takeRequest (resizeTurn s t.resize).1) t.reconfigure) t.sizeRebuild
    have hbehind := (hrequest.trans hreconfigure).trans hrebuild
    refine ⟨hresize.trans hbehind, ?_⟩
    by_cases hsize : t.resize = none ∨ t.resize = some none
    · rcases hreconfigured with hsame | hrenewed
      · by_cases hpanel : t.sizeRebuild = none ∨ t.sizeRebuild = some .failsEarlier
        · left
          simp only [Turn.keepsEncoder, Bool.and_eq_true, Bool.or_eq_true, beq_iff_eq]
          exact ⟨⟨⟨by simpa using hallowed, hsize⟩, hsame⟩, hpanel⟩
        · rw [not_or] at hpanel
          exact Or.inr ((hrebuilt.resolve_left hpanel.1).resolve_left hpanel.2)
      · exact Or.inr (hrebuild.renewed hrenewed)
    · rw [not_or] at hsize
      exact Or.inr (hbehind.renewed ((hresized.resolve_left hsize.1).resolve_left hsize.2))

/-- A turn that does not touch the encoder goes on to the picture. -/
theorem prepare_keeps (s : Session) (h : t.keepsEncoder = true) :
    (prepare s t).2 = true ∧ (prepare s t).1.running = s.running ∧
      ((prepare s t).1.encoder = s.encoder ∨
        (prepare s t).1.encoder = s.encoder.requestKeyFrame) := by
  simp only [Turn.keepsEncoder, Bool.and_eq_true, Bool.or_eq_true, beq_iff_eq] at h
  obtain ⟨⟨⟨hallowed, hsize⟩, hsame⟩, hpanel⟩ := h
  have hresized : (resizeTurn s t.resize).2 = true ∧
      (resizeTurn s t.resize).1.running = s.running ∧
      (resizeTurn s t.resize).1.encoder = s.encoder := by
    rcases hsize with hnone | hnone <;> rw [hnone] <;> exact ⟨rfl, rfl, rfl⟩
  have hrequested : (takeRequest (resizeTurn s t.resize).1).running = s.running ∧
      ((takeRequest (resizeTurn s t.resize).1).encoder = s.encoder ∨
        (takeRequest (resizeTurn s t.resize).1).encoder = s.encoder.requestKeyFrame) := by
    rw [takeRequest]
    split
    · exact ⟨hresized.2.1, Or.inr (congrArg Encoder.requestKeyFrame hresized.2.2)⟩
    · exact ⟨hresized.2.1, Or.inl hresized.2.2⟩
  rw [prepare, hallowed, hsame]
  simp only [Bool.not_true, Bool.false_eq_true, if_false, hresized.1, reconfigureTurn]
  rcases hpanel with hnone | hfails
  · rw [hnone]
    exact ⟨rfl, hrequested⟩
  · rw [hfails]
    exact ⟨rfl, hrequested⟩

/-! ### The picture -/

/-- The picture that is inside comes out as a frame, and is sent in place of a key frame. -/
def LateNow (s : Session) (t : Turn) : Prop :=
  owed false s.log = true ∧ ∃ pass frame, t.encode = some pass ∧
    FromHeld s.encoder pass frame ∧ frame.isKeyFrame = false ∧ t.sends.head? = some .sent

theorem late_iff : late s t = true ↔ t.keepsEncoder = true ∧ LateNow s t := by
  simp only [late, LateNow, FromHeld, Bool.and_eq_true, Option.any_eq_true, decide_eq_true_eq,
    beq_iff_eq, Bool.not_eq_true']
  constructor
  · rintro ⟨⟨⟨⟨⟨howed, hkeeps⟩, hconfigured⟩, pass, hpass, hwhole, houtputs⟩, sample, hsample,
      frame, hframe, hother⟩, hsent⟩
    exact ⟨hkeeps, howed, pass, frame, hpass,
      ⟨hconfigured, hwhole, houtputs, sample, hsample, hframe⟩, hother, hsent⟩
  · rintro ⟨hkeeps, howed, pass, frame, hpass,
      ⟨hconfigured, hwhole, houtputs, sample, hsample, hframe⟩, hother, hsent⟩
    exact ⟨⟨⟨⟨⟨howed, hkeeps⟩, hconfigured⟩, pass, hpass, hwhole, houtputs⟩, sample, hsample, frame,
      hframe, hother⟩, hsent⟩

/-- At most one picture stays inside. -/
theorem encodeNv12_held {encoder : Encoder} {pass : Pass} {out : Encoder × List EncodedFrame}
    (hheld : encoder.held.length ≤ 1) (h : encodeNv12 encoder pass = some out) :
    out.1.held.length ≤ 1 := by
  obtain ⟨rfl, -⟩ | ⟨-, -, fed, -, -, hleft, hout, -, -⟩ := encodeNv12_cases h
  · exact hheld
  · rw [hout]
    exact hleft

/-- Encode a picture and send what comes out. -/
theorem encodeTurn_spec (h : Inv s) (hturn : encodeTurn s t = some s') :
    Inv s' ∧ (¬(s.running = true ∧ LateNow s t) ∧
        lateFrames false s'.log = lateFrames false s.log ∨
      (s.running = true ∧ LateNow s t) ∧
        lateFrames false s.log < lateFrames false s'.log) := by
  rw [encodeTurn] at hturn
  split at hturn
  case h_1 hidle =>
    cases hturn
    refine ⟨h, Or.inl ⟨?_, rfl⟩⟩
    rintro ⟨hrunning, -, pass, frame, hpass, -⟩
    rw [hrunning, if_pos rfl, hpass] at hidle
    cases hidle
  case h_2 pass hpass =>
    obtain ⟨hrunning, hencode⟩ : s.running = true ∧ t.encode = some pass := by
      split at hpass
      · exact ⟨‹_›, hpass⟩
      · cases hpass
    split at hturn
    · cases hturn
    rename_i out hout
    split at hturn
    case isFalse => cases hturn
    case isTrue hsends =>
      cases hturn
      have hlate : lateFrames false (sendTurn s out.1 out.2 t.sends).log =
          lateFrames false s.log + lateFrames (owed false s.log) (sendFrames out.2 t.sends).1 :=
        lateFrames_append false s.log _
      rw [lateFrames_sendFrames] at hlate
      refine ⟨⟨?_, fun hrunning' howed => ?_⟩, ?_⟩
      · have hheld := encodeNv12_held h.held hout
        simp only [sendTurn]
        split <;> exact hheld
      · -- Behind a drop the request has been made, and else nothing has come out.
        rw [show (sendTurn s out.1 out.2 t.sends).log = s.log ++ (sendFrames out.2 t.sends).1
          from rfl, owed_append] at howed
        simp only [sendTurn] at hrunning' ⊢
        rcases owed_sendFrames hsends howed with hfull | hfailed | ⟨hbefore, hnone⟩
        · rw [if_pos hfull]
          exact armed_request
        · rw [hfailed] at hrunning'
          simp at hrunning'
        · have harmed := (encodeNv12_armed h.held (h.armed hrunning hbefore) hout).1 hnone
          split
          · exact armed_request
          · exact harmed
      · cases howed : owed false s.log with
        | false =>
          refine Or.inl ⟨fun hlateNow => ?_, ?_⟩
          · cases howed.symm.trans hlateNow.2.1
          · rw [hlate, howed]
            simp
        | true =>
          have hfirst := (encodeNv12_armed h.held (h.armed hrunning howed) hout).2
          rw [howed, Bool.true_and] at hlate
          split at hlate
          case isTrue hcond =>
            simp only [Bool.and_eq_true, Option.any_eq_true, Bool.not_eq_true', beq_iff_eq] at hcond
            obtain ⟨⟨frame, hframe, hother⟩, hsent⟩ := hcond
            refine Or.inr ⟨⟨hrunning, howed, pass, frame, hencode, hfirst frame hframe hother,
              hother, hsent⟩, ?_⟩
            rw [hlate]
            exact Int.lt_add_one_iff.2 (Int.le_refl _)
          case isFalse hcond =>
            refine Or.inl ⟨?_, hlate.trans (Int.add_zero _)⟩
            rintro ⟨-, -, pass', frame, hencode', hfrom, hother, hsent⟩
            cases hencode.symm.trans hencode'
            refine hcond ?_
            rw [head_of_fromHeld hfrom hout, hsent]
            simp [hother]

theorem fromHeld_request {encoder : Encoder} {pass : Pass} {frame : EncodedFrame} :
    FromHeld encoder.requestKeyFrame pass frame ↔ FromHeld encoder pass frame := Iff.rfl

/-- A turn is late exactly if its picture is. -/
theorem late_iff_prepared (hrunning : s.running = true) :
    late s t = true ↔ (prepare s t).2 = true ∧ (prepare s t).1.running = true ∧
      LateNow (prepare s t).1 t := by
  obtain ⟨hprepares, hcases⟩ := prepare_spec s t
  rw [late_iff]
  constructor
  · rintro ⟨hkeeps, howed, pass, frame, hpass, hfrom, hrest⟩
    obtain ⟨hgoes, hsame, hencoder⟩ := prepare_keeps s hkeeps
    refine ⟨hgoes, hsame.trans hrunning, hprepares.log ▸ howed, pass, frame, hpass, ?_, hrest⟩
    rcases hencoder with hencoder | hencoder
    · rw [hencoder]
      exact hfrom
    · rw [hencoder]
      exact fromHeld_request.2 hfrom
  · rintro ⟨-, hrunning', howed, pass, frame, hpass, hfrom, hrest⟩
    rcases hcases with hkeeps | hover | hempty
    · obtain ⟨-, -, hencoder⟩ := prepare_keeps s hkeeps
      refine ⟨hkeeps, hprepares.log ▸ howed, pass, frame, hpass, ?_, hrest⟩
      rcases hencoder with hencoder | hencoder
      · rw [← hencoder]
        exact hfrom
      · rw [hencoder] at hfrom
        exact fromHeld_request.1 hfrom
    · cases hrunning'.symm.trans hover
    · obtain ⟨-, -, -, sample, hsample, -⟩ := hfrom
      rw [List.length_eq_zero_iff.1 hempty] at hsample
      cases hsample

/-- **Every step.**  A frame is sent in place of a key frame exactly where the picture inside comes
out too late. -/
theorem step_counts {e : Event} (h : Inv s) (hstep : step s e = some s') :
    Inv s' ∧ (Timely s e ∧ lateFrames false s'.log = lateFrames false s.log ∨
      ¬Timely s e ∧ lateFrames false s.log < lateFrames false s'.log) := by
  cases e with
  | kf =>
    cases hstep
    exact ⟨⟨h.held, h.armed⟩, Or.inl ⟨trivial, rfl⟩⟩
  | stop =>
    cases hstep
    exact ⟨⟨h.held, by rintro ⟨⟩⟩, Or.inl ⟨trivial, rfl⟩⟩
  | turn t =>
    simp only [step] at hstep
    split at hstep
    case isFalse => cases hstep
    case isTrue hrunning =>
      obtain ⟨hprepares, -⟩ := prepare_spec s t
      have hinv : Inv (prepare s t).1 := by
        refine ⟨Nat.le_trans hprepares.held h.held, fun hgoes howed => ?_⟩
        rw [hprepares.log] at howed
        exact hprepares.armed (h.armed hrunning howed)
      have htimely : Timely s (.turn t) ↔ ¬((prepare s t).2 = true ∧
          (prepare s t).1.running = true ∧ LateNow (prepare s t).1 t) := by
        rw [← late_iff_prepared hrunning, Bool.not_eq_true]
        rfl
      rw [htimely, not_not, ← hprepares.log]
      split at hstep
      case isTrue hgoes =>
        obtain ⟨hinv', hcases⟩ := encodeTurn_spec hinv hstep
        refine ⟨hinv', hcases.imp ?_ ?_⟩
        · rintro ⟨hnot, hsame⟩
          exact ⟨fun hlate => hnot hlate.2, hsame⟩
        · rintro ⟨hlate, hless⟩
          exact ⟨⟨hgoes, hlate⟩, hless⟩
      case isFalse hleaves =>
        cases hstep
        exact ⟨hinv, Or.inl ⟨fun hlate => hleaves hlate.1, rfl⟩⟩

theorem inv_start (forceKeyFrame : Bool) : Inv (start forceKeyFrame) :=
  ⟨Nat.zero_le _, by rintro _ ⟨⟩⟩

/-- **A drop is followed by a key frame** exactly in the runs in which no picture that was in the
encoder at the drop comes out of it and is sent before the key frame. -/
theorem resynced_iff (forceKeyFrame : Bool) (events : List Event) (s : Session)
    (hrun : run step (start forceKeyFrame) events = some s) :
    Resynced s.log ↔ Along step Timely (start forceKeyFrame) events := by
  obtain ⟨-, hiff⟩ := along_iff_counter (f := fun s => lateFrames false s.log) (P := Timely)
    (fun _ _ _ h hstep => step_counts h hstep) (inv_start forceKeyFrame) hrun
  rw [resynced_iff_lateFrames]
  exact hiff

/-! ### Two encoders -/

/-- An IDR picture, and one that builds on the picture before. -/
def idrPicture : Bytes := [0, 0, 0, 1, 0x65]

def nextPicture (n : UInt8) : Bytes := [0, 0, 0, 1, 0x41, n]

/-- A turn that encodes a picture. -/
def pictureTurn (coded : Bytes) (outputs : Nat) (sends : List Send) : Event :=
  .turn { encode := some ⟨true, true, coded, outputs⟩, sends := sends }

instance decidableTimely (s : Session) : ∀ e, Decidable (Timely s e)
  | .turn t => inferInstanceAs (Decidable (late s t = false))
  | .kf | .stop => inferInstanceAs (Decidable True)

/-- Every picture comes out in its own turn, and the second one is dropped. -/
def promptEncoder : List Event :=
  [pictureTurn idrPicture 1 [.sent], pictureTurn (nextPicture 1) 1 [.full],
    pictureTurn idrPicture 1 [.sent], pictureTurn (nextPicture 2) 1 [.sent]]

theorem resynced_iff_prompt :
    ∃ s, run step (start false) promptEncoder = some s ∧
      Act.dropped ⟨nextPicture 1, false⟩ ∈ s.log ∧ Resynced s.log := by
  have hends : ((run step (start false) promptEncoder).any fun s =>
      s.log.contains (.dropped ⟨nextPicture 1, false⟩)) = true := by decide +kernel
  obtain ⟨s, hrun, hs⟩ := (Option.any_eq_true _ _).1 hends
  refine ⟨s, hrun, List.contains_iff_mem.1 hs, (resynced_iff false promptEncoder s hrun).2 ?_⟩
  decide +kernel

/-- Every picture comes out when the next one is fed, and the second one is dropped. -/
def holdingEncoder : List Event :=
  [pictureTurn idrPicture 0 [], pictureTurn (nextPicture 1) 1 [.sent],
    pictureTurn (nextPicture 2) 1 [.full], pictureTurn idrPicture 1 [.sent]]

/-- The third picture was in the encoder when the second one was dropped, and is sent next. -/
theorem resynced_fails_holding :
    ∃ s, run step (start false) holdingEncoder = some s ∧
      s.log = [.sent ⟨idrPicture, true⟩, .dropped ⟨nextPicture 1, false⟩,
        .sent ⟨nextPicture 2, false⟩] ∧ ¬Resynced s.log := by
  have hends : ((run step (start false) holdingEncoder).any fun s =>
      s.log == [.sent ⟨idrPicture, true⟩, .dropped ⟨nextPicture 1, false⟩,
        .sent ⟨nextPicture 2, false⟩]) = true := by decide +kernel
  obtain ⟨s, hrun, hs⟩ := (Option.any_eq_true _ _).1 hends
  rw [beq_iff_eq] at hs
  refine ⟨s, hrun, hs, fun hresynced => ?_⟩
  have hkey := hresynced [.sent ⟨idrPicture, true⟩] ⟨nextPicture 1, false⟩ []
    ⟨nextPicture 2, false⟩ [] hs (fun _ => List.not_mem_nil)
  exact absurd hkey Bool.false_ne_true

end SecondDisplay.StreamLoop
