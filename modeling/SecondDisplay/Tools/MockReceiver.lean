import SecondDisplay.Encode.H264Encoder

/-!
# The receiver's framing rules (`tools/mock_receiver.py`)

The mock receiver checks every video payload structurally: only four-byte start codes, and in a
unit with an IDR slice the first SPS before the first PPS before the first IDR slice.  The
sender's cache only asks that both sets *occur* before the IDR slice.  The two notions differ in
exactly one case, the sets standing there in the other order:
`validateAnnexbFrame_extractFrame` proves that a frame passes exactly outside it.
-/

namespace SecondDisplay.MockReceiver

open SecondDisplay.AnnexB SecondDisplay.StartCodes

/-- The loop of `find_start_codes` from index `i` on, yielding offsets and code lengths. -/
def findStartCodesFrom (payload : Bytes) (i : Nat) : List (Nat × Nat) :=
  if i + 2 < payload.length then
    if payload[i]? = some 0 ∧ payload[i + 1]? = some 0 then
      if i + 3 < payload.length ∧ payload[i + 2]? = some 0 ∧ payload[i + 3]? = some 1 then
        (i, 4) :: findStartCodesFrom payload (i + 4)
      else if payload[i + 2]? = some 1 then (i, 3) :: findStartCodesFrom payload (i + 3)
      else findStartCodesFrom payload (i + 1)
    else findStartCodesFrom payload (i + 1)
  else []
termination_by payload.length - i

/-- `find_start_codes`. -/
def findStartCodes (payload : Bytes) : List (Nat × Nat) := findStartCodesFrom payload 0

/-- `nal_types`: `none` where a code ends the payload. -/
def nalTypes (payload : Bytes) : List (Option Nat) :=
  (findStartCodes payload).map fun code =>
    payload[code.1 + code.2]?.map fun byte => (byte &&& 0x1F).toNat

/-- The text of a list of types in a problem message. -/
def reprTypes (types : List (Option Nat)) : String :=
  "[" ++ ", ".intercalate (types.map fun t => (t.map toString).getD "None") ++ "]"

/-- `validate_annexb_frame`: the list of problems, empty when the frame looks correct. -/
def validateAnnexbFrame (payload : Bytes) : List String :=
  let codes := findStartCodes payload
  if codes.isEmpty then ["no start codes found"]
  else
    let problems :=
      if codes.any fun code => code.2 == 3 then
        ["found 3-byte start code(s) - must be normalized to 4-byte"]
      else []
    let types := nalTypes payload
    if types.contains (some 5) then
      if !types.contains (some 7) || !types.contains (some 8) then
        problems ++ ["IDR present but SPS/PPS missing (types seen: " ++ reprTypes types ++ ")"]
      else
        let idrPos := types.idxOf (some 5)
        let spsPos := types.idxOf (some 7)
        let ppsPos := types.idxOf (some 8)
        if !(spsPos < ppsPos && ppsPos < idrPos) then
          problems ++ ["SPS/PPS not immediately before IDR (order: " ++ reprTypes types ++ ")"]
        else problems
    else problems

/-! ### Sender and receiver find the same codes -/

theorem findStartCodesFrom_eq (payload : Bytes) (i : Nat) :
    findStartCodesFrom payload i =
      (findMarkersFrom payload i).map fun m => (m.codeBegin, m.payloadBegin - m.codeBegin) := by
  fun_induction findStartCodesFrom payload i with
  | case1 i hlen hzero hcode ih =>
    rw [findMarkersFrom, if_pos (by omega), if_pos hzero, if_pos hcode, ih]
    simp
  | case2 i hlen hzero hcode h3 ih =>
    rw [findMarkersFrom, if_pos (by omega), if_pos hzero, if_neg hcode, if_pos ⟨hlen, h3⟩, ih]
    simp
  | case3 i hlen hzero hcode h3 ih =>
    rw [findMarkersFrom, if_pos (by omega), if_pos hzero, if_neg hcode,
      if_neg (fun h => h3 h.2), ih]
  | case4 i hlen hzero ih =>
    rw [findMarkersFrom, if_pos (by omega), if_neg hzero, ih]
  | case5 i hlen =>
    by_cases h : i + 1 < payload.length
    · -- two bytes are left: the markers' loop looks at them and finds no room for a code
      have hnext : findMarkersFrom payload (i + 1) = [] := findMarkersFrom_of_le (by omega)
      rw [findMarkersFrom, if_pos h]
      split
      · rw [if_neg (fun h4 => by omega), if_neg (fun h3 => hlen h3.1), hnext]
        rfl
      · rw [hnext]
        rfl
    · rw [findMarkersFrom_of_le (by omega)]
      rfl

/-- The codes of a built access unit: one four-byte code per unit. -/
theorem findStartCodes_buildAccessUnit {nals : List NalUnit}
    (h : ∀ nal ∈ nals, nal.WellFormed) :
    findStartCodes (buildAccessUnit nals) =
      (markersOf 0 (fourSections (nals.map NalUnit.payload))).map
        fun m => (m.codeBegin, m.payloadBegin - m.codeBegin) := by
  have hmarkers := findMarkers_eq (buildAccessUnit nals)
  rw [split_buildAccessUnit h] at hmarkers
  rw [findStartCodes, findStartCodesFrom_eq, ← findMarkers, hmarkers, List.length_nil]

theorem markersOf_four (start : Nat) (payloads : List Bytes) :
    ∀ m ∈ markersOf start (fourSections payloads), m.payloadBegin - m.codeBegin = 4 := by
  induction payloads generalizing start with
  | nil => simp [fourSections, markersOf]
  | cons p payloads ih =>
    intro m hm
    rcases List.mem_cons.mp hm with rfl | hm
    · simp [StartCode.length]
    · exact ih _ m hm

theorem getElem?_markersOf (before : Bytes) {nals : List NalUnit}
    (h : ∀ nal ∈ nals, nal.WellFormed) :
    (markersOf before.length (fourSections (nals.map NalUnit.payload))).map (fun m =>
        (before ++ buildAccessUnit nals)[m.codeBegin + (m.payloadBegin - m.codeBegin)]?.map
          fun byte => (byte &&& 0x1F).toNat) =
      nals.map fun nal => some nal.type := by
  induction nals generalizing before with
  | nil => rfl
  | cons nal nals ih =>
    have hnal := h nal List.mem_cons_self
    have hrest := ih (before ++ ([0, 0, 0, 1] ++ nal.payload))
      fun n hn => h n (List.mem_cons_of_mem nal hn)
    have hbuild : before ++ ([0, 0, 0, 1] ++ nal.payload) ++ buildAccessUnit nals =
        before ++ buildAccessUnit (nal :: nals) := by
      simp [buildAccessUnit]
    have hlen : (before ++ ([0, 0, 0, 1] ++ nal.payload)).length =
        before.length + (⟨.four, nal.payload⟩ : Section).bytes.length := by
      simp [Section.bytes, StartCode.bytes]
    rw [hbuild, hlen] at hrest
    obtain ⟨b, payload, hpayload⟩ := List.exists_cons_of_ne_nil hnal.nonempty
    have hhead : (before ++ buildAccessUnit (nal :: nals))[before.length + 4]? = some b := by
      rw [getElem?_append_add]
      simp [buildAccessUnit, hpayload]
    have htype : nal.type = (b &&& 0x1F).toNat := by
      rw [hnal.type_eq, hpayload, List.headD_cons]
    simp only [List.map_cons, fourSections, markersOf] at hrest ⊢
    rw [hrest, show before.length + (before.length + StartCode.four.length - before.length) =
      before.length + 4 by simp [StartCode.length], hhead, htype, Option.map_some]

/-- The receiver sees the types of the units that were built. -/
theorem nalTypes_buildAccessUnit {nals : List NalUnit} (h : ∀ nal ∈ nals, nal.WellFormed) :
    nalTypes (buildAccessUnit nals) = nals.map fun nal => some nal.type := by
  rw [nalTypes, findStartCodes_buildAccessUnit h, List.map_map]
  exact getElem?_markersOf [] h

/-! ### When a frame passes -/

theorem codes_buildAccessUnit {nals : List NalUnit} (h : ∀ nal ∈ nals, nal.WellFormed)
    (hne : nals ≠ []) :
    (findStartCodes (buildAccessUnit nals)).isEmpty = false ∧
      (findStartCodes (buildAccessUnit nals)).any (fun code => code.2 == 3) = false := by
  rw [findStartCodes_buildAccessUnit h]
  refine ⟨?_, ?_⟩
  · obtain ⟨nal, nals, rfl⟩ := List.exists_cons_of_ne_nil hne
    simp [fourSections, markersOf]
  · rw [List.any_eq_false]
    intro code hcode
    obtain ⟨m, hm, rfl⟩ := List.mem_map.mp hcode
    simp [markersOf_four 0 _ m hm]

/-- The index of the first unit of type `t`. -/
def firstOf (t : Nat) (nals : List NalUnit) : Nat := nals.findIdx fun nal => nal.type == t

theorem firstOf_cons (t : Nat) (nal : NalUnit) (nals : List NalUnit) :
    firstOf t (nal :: nals) = if nal.type = t then 0 else firstOf t nals + 1 := by
  by_cases h : nal.type = t
  · simp [firstOf, List.findIdx_cons, h]
  · have hbeq : (nal.type == t) = false := by simpa using h
    simp [firstOf, List.findIdx_cons, hbeq, h]

theorem idxOf_types (t : Nat) (nals : List NalUnit) :
    (nals.map fun nal => some nal.type).idxOf (some t) = firstOf t nals := by
  induction nals with
  | nil => rfl
  | cons nal nals ih =>
    simp only [List.map_cons, List.idxOf_cons, firstOf, List.findIdx_cons, ih,
      Option.some_beq_some]

theorem contains_types (t : Nat) (nals : List NalUnit) :
    (nals.map fun nal => some nal.type).contains (some t) = true ↔
      ∃ nal ∈ nals, nal.type = t := by
  simp

/-- A built access unit passes the receiver's check exactly when, if it has an IDR slice, it has
both sets and they stand in the order SPS, PPS, IDR. -/
theorem validateAnnexbFrame_buildAccessUnit {nals : List NalUnit}
    (h : ∀ nal ∈ nals, nal.WellFormed) (hne : nals ≠ []) :
    validateAnnexbFrame (buildAccessUnit nals) = [] ↔
      (HasIdr nals → (∃ nal ∈ nals, nal.type = kNalTypeSps) ∧
        (∃ nal ∈ nals, nal.type = kNalTypePps) ∧
        firstOf kNalTypeSps nals < firstOf kNalTypePps nals ∧
        firstOf kNalTypePps nals < firstOf kNalTypeIdrSlice nals) := by
  obtain ⟨hcodes, hthree⟩ := codes_buildAccessUnit h hne
  simp only [validateAnnexbFrame, hcodes, hthree, nalTypes_buildAccessUnit h, idxOf_types]
  have h5 := contains_types 5 nals
  have h7 := contains_types 7 nals
  have h8 := contains_types 8 nals
  simp only [HasIdr, kNalTypeIdrSlice, kNalTypeSps, kNalTypePps, ← h5, ← h7, ← h8]
  cases (nals.map fun nal => some nal.type).contains (some 5) <;>
    cases (nals.map fun nal => some nal.type).contains (some 7) <;>
      cases (nals.map fun nal => some nal.type).contains (some 8) <;> simp

/-- Sets before the first IDR slice have smaller indices than it. -/
theorem firstOf_lt_of_beforeIdr {t : Nat} {nals : List NalUnit} (hidr : HasIdr nals)
    (h : ∃ nal ∈ beforeIdr nals, nal.type = t) :
    firstOf t nals < firstOf kNalTypeIdrSlice nals := by
  induction nals with
  | nil => obtain ⟨_, hmem, -⟩ := hidr; simp at hmem
  | cons nal nals ih =>
    by_cases hnal : nal.type = kNalTypeIdrSlice
    · obtain ⟨_, hmem, -⟩ := h
      simp [beforeIdr, hnal] at hmem
    have hidr' : HasIdr nals := by
      obtain ⟨n, hmem, htype⟩ := hidr
      rcases List.mem_cons.mp hmem with rfl | hmem
      · exact absurd htype hnal
      · exact ⟨n, hmem, htype⟩
    obtain ⟨n, hmem, htype⟩ := h
    rw [beforeIdr, List.takeWhile_cons, if_pos (by simpa using hnal)] at hmem
    rw [firstOf_cons, firstOf_cons, if_neg hnal]
    by_cases ht : nal.type = t
    · rw [if_pos ht]
      omega
    · rw [if_neg ht]
      rcases List.mem_cons.mp hmem with rfl | hmem
      · exact absurd htype ht
      · exact Nat.succ_lt_succ (ih hidr' ⟨n, hmem, htype⟩)

/-- The parameter sets of a keyframe are in the receiver's order: when both stand before the
first IDR slice, the first SPS comes before the first PPS. -/
def SetsInOrder (nals : List NalUnit) : Prop :=
  HasIdr nals → SetsBeforeIdr nals → firstOf kNalTypeSps nals < firstOf kNalTypePps nals

/-- Cached sets in front of a unit are in order. -/
theorem validate_prepended {sps pps : NalUnit} (hsps : sps.type = kNalTypeSps)
    (hpps : pps.type = kNalTypePps) {nals : List NalUnit}
    (h : ∀ nal ∈ sps :: pps :: nals, nal.WellFormed) :
    validateAnnexbFrame (buildAccessUnit (sps :: pps :: nals)) = [] := by
  rw [validateAnnexbFrame_buildAccessUnit h (by simp)]
  intro _
  refine ⟨⟨sps, by simp, hsps⟩, ⟨pps, by simp, hpps⟩, ?_⟩
  simp [firstOf_cons, hsps, hpps, kNalTypeSps, kNalTypePps, kNalTypeIdrSlice]

/-- A keyframe with both sets before its IDR slice passes exactly when they are in order. -/
theorem validate_complete {nals : List NalUnit} (h : ∀ nal ∈ nals, nal.WellFormed)
    (hidr : HasIdr nals) (hsets : SetsBeforeIdr nals) :
    validateAnnexbFrame (buildAccessUnit nals) = [] ↔
      firstOf kNalTypeSps nals < firstOf kNalTypePps nals := by
  have hne : nals ≠ [] := by
    rintro rfl
    obtain ⟨_, hmem, -⟩ := hidr
    simp at hmem
  have hmem : ∀ t, (∃ nal ∈ beforeIdr nals, nal.type = t) → ∃ nal ∈ nals, nal.type = t :=
    fun t ⟨nal, hnal, ht⟩ => ⟨nal, (List.takeWhile_prefix _).subset hnal, ht⟩
  rw [validateAnnexbFrame_buildAccessUnit h hne]
  constructor
  · exact fun hall => (hall hidr).2.2.1
  · exact fun hlt _ => ⟨hmem _ hsets.1, hmem _ hsets.2, hlt, firstOf_lt_of_beforeIdr hidr hsets.2⟩

/-- **When an emitted frame passes.**  After any earlier samples, once an SPS and a PPS have
occurred, the frame emitted for a sample passes the receiver's check if and only if the sample
does not bring both sets before its IDR slice with the PPS first. -/
theorem validateAnnexbFrame_extractFrame (earlier : List (Option Bytes)) (sample : Bytes)
    (frame : EncodedFrame)
    (hframe : (extractFrame (encoderCacheAfter earlier) (some sample)).2 = some frame)
    (hsps : ∃ nal ∈ (earlier.map sampleUnits).flatten ++ scanStartCodes sample,
      nal.type = kNalTypeSps)
    (hpps : ∃ nal ∈ (earlier.map sampleUnits).flatten ++ scanStartCodes sample,
      nal.type = kNalTypePps) :
    validateAnnexbFrame frame.annexB = [] ↔
      SetsInOrder (unitsOfSections (split sample).2) := by
  obtain ⟨hne, hbytes⟩ := extractFrame_some hframe
  have hunit : ∀ nal ∈ scanStartCodes sample, nal.WellFormed := fun _ => scanStartCodes_wellFormed
  have hwf := ensureParameterSets_wellFormed earlier hunit
  rw [hbytes, ← scanStartCodes_eq_split]
  obtain ⟨sps, hlsps⟩ := latest_isSome hsps
  obtain ⟨pps, hlpps⟩ := latest_isSome hpps
  obtain ⟨-, ⟨hout, hwhy⟩ | ⟨s, p, hs, hp, hidr, hno, hout⟩⟩ :=
    ensureParameterSets_cases (cacheAfter (earlier.map sampleUnits)) (scanStartCodes sample)
  · rw [foldl_remember_cacheAfter_sps, foldl_remember_cacheAfter_pps, hlsps, hlpps] at hwhy
    rw [hout]
    by_cases hidr : HasIdr (scanStartCodes sample)
    · have hsets : SetsBeforeIdr (scanStartCodes sample) := by simpa [hidr] using hwhy
      rw [validate_complete hunit hidr hsets]
      exact ⟨fun h _ _ => h, fun h => h hidr hsets⟩
    · rw [validateAnnexbFrame_buildAccessUnit hunit hne]
      exact ⟨fun _ h => absurd h hidr, fun _ h => absurd h hidr⟩
  · -- the cached sets were put in front: the frame passes, and the order is not in question
    rw [hout] at hwf ⊢
    have hpass := validate_prepended (SpsPpsCache.sps_type _ s hs) (SpsPpsCache.pps_type _ p hp) hwf
    exact ⟨fun _ _ hsets => absurd hsets hno, fun _ => hpass⟩

/-- A keyframe with its sets in order: SPS, PPS, IDR slice. -/
theorem validateAnnexbFrame_extractFrame_ordered :
    validateAnnexbFrame [0, 0, 0, 1, 0x67, 0, 0, 0, 1, 0x68, 0, 0, 0, 1, 0x65] = [] ↔
      SetsInOrder (unitsOfSections
        (split [0, 0, 1, 0x67, 0, 0, 1, 0x68, 0, 0, 1, 0x65]).2) :=
  validateAnnexbFrame_extractFrame [] [0, 0, 1, 0x67, 0, 0, 1, 0x68, 0, 0, 1, 0x65]
    ⟨[0, 0, 0, 1, 0x67, 0, 0, 0, 1, 0x68, 0, 0, 0, 1, 0x65], true⟩
    (by decide +kernel) (by decide +kernel) (by decide +kernel)

/-- **A keyframe whose PPS comes first is refused**: the cache finds both sets before the IDR
slice and leaves the unit alone. -/
theorem validateAnnexbFrame_pps_first :
    ¬ ∀ (earlier : List (Option Bytes)) (sample : Bytes) (frame : EncodedFrame),
      (extractFrame (encoderCacheAfter earlier) (some sample)).2 = some frame →
      (∃ nal ∈ (earlier.map sampleUnits).flatten ++ scanStartCodes sample,
        nal.type = kNalTypeSps) →
      (∃ nal ∈ (earlier.map sampleUnits).flatten ++ scanStartCodes sample,
        nal.type = kNalTypePps) →
      validateAnnexbFrame frame.annexB = [] := by
  intro h
  have hpass := h [] [0, 0, 0, 1, 0x68, 0, 0, 0, 1, 0x67, 0, 0, 0, 1, 0x65]
    ⟨[0, 0, 0, 1, 0x68, 0, 0, 0, 1, 0x67, 0, 0, 0, 1, 0x65], true⟩
    (by decide +kernel) (by decide +kernel) (by decide +kernel)
  revert hpass
  decide +kernel

end SecondDisplay.MockReceiver
