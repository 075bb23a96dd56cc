import SecondDisplay.Encode.ParameterSets

/-!
# From encoder samples to access units (`ExtractFrame` in `encode/H264Encoder.cpp`)

Every output sample of the transform is scanned, completed by the parameter-set cache and
reassembled.  A sample whose buffer cannot be locked, and one without a NAL unit, emits nothing.
-/

namespace SecondDisplay.AnnexB

/-- `EncodedFrame`: one access unit as it goes on the wire. -/
structure EncodedFrame where
  annexB : Bytes
  isKeyFrame : Bool
deriving DecidableEq, Repr

/-- `H264Encoder::Impl::ExtractFrame`; the sample is `none` when there is none or its buffer
cannot be made contiguous and locked. -/
def extractFrame (spsPpsCache : SpsPpsCache) (sample : Option Bytes) :
    SpsPpsCache × Option EncodedFrame :=
  match sample with
  | none => (spsPpsCache, none)
  | some data =>
    let nals := scanStartCodes data
    if nals.isEmpty then (spsPpsCache, none)
    else
      let fixed := spsPpsCache.ensureParameterSets nals
      (fixed.1, some
        { annexB := buildAccessUnit fixed.2
          isKeyFrame := fixed.2.any fun n => n.type == kNalTypeIdrSlice })

/-- The units of a sample. -/
def sampleUnits (sample : Option Bytes) : List NalUnit := (sample.map scanStartCodes).getD []

/-- The encoder's cache after a sequence of samples. -/
def encoderCacheAfter (samples : List (Option Bytes)) : SpsPpsCache :=
  samples.foldl (fun cache sample => (extractFrame cache sample).1) .empty

theorem extractFrame_cache (cache : SpsPpsCache) (sample : Option Bytes) :
    (extractFrame cache sample).1 = (cache.ensureParameterSets (sampleUnits sample)).1 := by
  rw [(ensureParameterSets_cases cache _).1]
  cases sample with
  | none => rfl
  | some data =>
    simp only [extractFrame, sampleUnits, Option.map_some, Option.getD_some]
    cases hnals : scanStartCodes data with
    | nil => rfl
    | cons nal nals =>
      rw [if_neg (by simp)]
      exact (ensureParameterSets_cases cache (nal :: nals)).1

/-- The encoder's cache is the cache of the scanned stream. -/
theorem encoderCacheAfter_eq (samples : List (Option Bytes)) :
    encoderCacheAfter samples = cacheAfter (samples.map sampleUnits) := by
  simp only [encoderCacheAfter, cacheAfter, List.foldl_map, extractFrame_cache]

/-- The units of a stream are well formed. -/
theorem sampleUnits_wellFormed {sample : Option Bytes} {nal : NalUnit}
    (h : nal ∈ sampleUnits sample) : nal.WellFormed := by
  cases sample with
  | none => simp [sampleUnits] at h
  | some data => exact scanStartCodes_wellFormed h

/-- **An emitted frame** is a reassembled non-empty list of well-formed units: the output of the
cache for the sample's units. -/
theorem extractFrame_some {earlier : List (Option Bytes)} {data : Bytes} {frame : EncodedFrame}
    (h : (extractFrame (encoderCacheAfter earlier) (some data)).2 = some frame) :
    scanStartCodes data ≠ [] ∧
      frame.annexB = buildAccessUnit
        ((cacheAfter (earlier.map sampleUnits)).ensureParameterSets (scanStartCodes data)).2 := by
  rw [extractFrame, encoderCacheAfter_eq] at h
  by_cases hnals : scanStartCodes data = []
  · simp [hnals] at h
  · rw [if_neg (by simpa using hnals)] at h
    obtain rfl := Option.some.inj h
    exact ⟨hnals, rfl⟩

theorem ensureParameterSets_wellFormed (earlier : List (Option Bytes)) {unit : List NalUnit}
    (hunit : ∀ nal ∈ unit, nal.WellFormed) :
    ∀ nal ∈ ((cacheAfter (earlier.map sampleUnits)).ensureParameterSets unit).2,
      nal.WellFormed := by
  have hstream : ∀ nal ∈ (earlier.map sampleUnits).flatten ++ unit, nal.WellFormed := by
    intro nal hnal
    rcases List.mem_append.mp hnal with h | h
    · obtain ⟨units, hunits, hmem⟩ := List.mem_flatten.mp h
      obtain ⟨sample, -, rfl⟩ := List.mem_map.mp hunits
      exact sampleUnits_wellFormed hmem
    · exact hunit nal h
  obtain ⟨-, ⟨hout, -⟩ | ⟨s, p, hs, hp, -, -, hout⟩⟩ :=
    ensureParameterSets_cases (cacheAfter (earlier.map sampleUnits)) unit
  · rw [hout]
    exact hunit
  · rw [foldl_remember_cacheAfter_sps] at hs
    rw [foldl_remember_cacheAfter_pps] at hp
    rw [hout]
    intro nal hnal
    rcases List.mem_cons.mp hnal with rfl | hnal
    · exact hstream nal (latest_mem hs)
    rcases List.mem_cons.mp hnal with rfl | hnal
    · exact hstream nal (latest_mem hp)
    · exact hunit nal hnal

end SecondDisplay.AnnexB
