import SecondDisplay.Library.StartCodes

/-!
# Annex-B byte format (`encode/AnnexB.cpp`)

The encoder output is scanned into NAL units whichever start codes the transform emitted, and
reassembled with four-byte codes only.  `findMarkers`, `scanStartCodes` and `buildAccessUnit`
keep the offsets of the source; `scanStartCodes_eq_split` says what they compute in the terms of
`StartCodes.split`, and everything later rests on that and not on offsets.
-/

namespace SecondDisplay.AnnexB

open SecondDisplay.StartCodes

def kNalTypeSps : Nat := 7
def kNalTypePps : Nat := 8
def kNalTypeIdrSlice : Nat := 5

/-- `NalUnit`: the type is the first payload byte `& 0x1F`, the start code is excluded. -/
structure NalUnit where
  type : Nat
  payload : Bytes
deriving DecidableEq, Repr

/-- `Marker`: where a start code begins and where its payload begins. -/
structure Marker where
  codeBegin : Nat
  payloadBegin : Nat
deriving DecidableEq, Repr

/-- The loop of `FindMarkers` from index `i` on. -/
def findMarkersFrom (data : Bytes) (i : Nat) : List Marker :=
  if i + 1 < data.length then
    if data[i]? = some 0 ∧ data[i + 1]? = some 0 then
      if i + 3 < data.length ∧ data[i + 2]? = some 0 ∧ data[i + 3]? = some 1 then
        ⟨i, i + 4⟩ :: findMarkersFrom data (i + 4)
      else if i + 2 < data.length ∧ data[i + 2]? = some 1 then
        ⟨i, i + 3⟩ :: findMarkersFrom data (i + 3)
      else findMarkersFrom data (i + 1)
    else findMarkersFrom data (i + 1)
  else []
termination_by data.length - i

/-- `FindMarkers`. -/
def findMarkers (data : Bytes) : List Marker := findMarkersFrom data 0

/-- The NAL unit at `data[payloadBegin, payloadEnd)`. -/
def unitAt (data : Bytes) (payloadBegin payloadEnd : Nat) : NalUnit where
  type := (data.getD payloadBegin 0 &&& 0x1F).toNat
  payload := (data.drop payloadBegin).take (payloadEnd - payloadBegin)

/-- The loop of `ScanStartCodes` over the markers: a payload ends where the next code begins. -/
def unitsOf (data : Bytes) : List Marker → List NalUnit
  | [] => []
  | marker :: rest =>
    let payloadEnd := (rest.head?.map Marker.codeBegin).getD data.length
    if marker.payloadBegin ≥ payloadEnd then unitsOf data rest
    else unitAt data marker.payloadBegin payloadEnd :: unitsOf data rest

/-- `ScanStartCodes`. -/
def scanStartCodes (data : Bytes) : List NalUnit := unitsOf data (findMarkers data)

/-- `BuildAccessUnit`. -/
def buildAccessUnit (nals : List NalUnit) : Bytes :=
  nals.flatMap fun nal => [0x00, 0x00, 0x00, 0x01] ++ nal.payload

/-! ### The markers are the section boundaries -/

/-- The markers of sections laid out from offset `start` on. -/
def markersOf (start : Nat) : List Section → List Marker
  | [] => []
  | s :: rest => ⟨start, start + s.code.length⟩ :: markersOf (start + s.bytes.length) rest

theorem getElem?_append_add (before data : Bytes) (k : Nat) :
    (before ++ data)[before.length + k]? = data[k]? := by
  simp [List.getElem?_append_right]

/-- Past the last two bytes no code fits. -/
theorem findMarkersFrom_of_le {data : Bytes} {i : Nat} (h : data.length ≤ i + 1) :
    findMarkersFrom data i = [] := by
  rw [findMarkersFrom, if_neg (by omega)]

/-- Where neither code stands the loop moves on by one byte. -/
theorem findMarkersFrom_step (before : Bytes) {b : UInt8} {rest : Bytes}
    (h4 : ∀ r, b :: rest ≠ 0 :: 0 :: 0 :: 1 :: r) (h3 : ∀ r, b :: rest ≠ 0 :: 0 :: 1 :: r) :
    findMarkersFrom (before ++ b :: rest) before.length =
      findMarkersFrom (before ++ b :: rest) (before.length + 1) := by
  have hget := getElem?_append_add before (b :: rest)
  have h0 := hget 0
  rw [Nat.add_zero] at h0
  conv_lhs => rw [findMarkersFrom]
  rcases rest with _ | ⟨x, rest⟩
  · rw [if_neg (by simp), findMarkersFrom_of_le (by simp)]
  rcases rest with _ | ⟨y, rest⟩
  · simp
  rcases rest with _ | ⟨z, rest⟩
  · simp only [hget, h0]
    simp
    rintro rfl rfl rfl
    exact absurd rfl (h3 [])
  · simp only [hget, h0]
    simp
    rintro rfl rfl
    rw [if_neg (by rintro ⟨rfl, rfl⟩; exact h4 rest rfl), if_neg (by rintro rfl; exact h3 _ rfl)]

/-- The loop finds the section boundaries of what is left of the buffer. -/
theorem findMarkersFrom_append (before data : Bytes) :
    findMarkersFrom (before ++ data) before.length =
      markersOf (before.length + (split data).1.length) (split data).2 := by
  fun_induction split data generalizing before with
  | case1 rest ih =>
    have hrest := ih (before ++ [0, 0, 0, 1])
    rw [findMarkersFrom]
    simp only [List.append_assoc, List.cons_append, List.nil_append, List.length_append,
      List.length_cons, List.length_nil, Nat.zero_add] at hrest
    simp [hrest, markersOf, Section.bytes_length, StartCode.length, Nat.add_assoc]
  | case2 rest ih =>
    have hrest := ih (before ++ [0, 0, 1])
    rw [findMarkersFrom]
    simp only [List.append_assoc, List.cons_append, List.nil_append, List.length_append,
      List.length_cons, List.length_nil, Nat.zero_add] at hrest
    simp [hrest, markersOf, Section.bytes_length, StartCode.length, Nat.add_assoc]
  | case3 b rest h4 h3 ih =>
    have hrest := ih (before ++ [b])
    rw [List.append_assoc, List.singleton_append, List.length_append, List.length_singleton]
      at hrest
    rw [findMarkersFrom_step before (fun r h => h4 r (List.cons.inj h).1 (List.cons.inj h).2)
      (fun r h => h3 r (List.cons.inj h).1 (List.cons.inj h).2), hrest]
    simp [Nat.add_assoc, Nat.add_comm]
  | case4 =>
    rw [findMarkersFrom_of_le (by simp)]
    rfl

theorem findMarkers_eq (data : Bytes) :
    findMarkers data = markersOf (split data).1.length (split data).2 := by
  simpa [findMarkers] using findMarkersFrom_append [] data

/-! ### The units are the non-empty sections -/

/-- The NAL unit a payload holds. -/
def NalUnit.ofPayload (payload : Bytes) : NalUnit :=
  ⟨(payload.headD 0 &&& 0x1F).toNat, payload⟩

/-- The units of a list of sections: empty payloads are skipped. -/
def unitsOfSections (sections : List Section) : List NalUnit :=
  (sections.filter fun s => s.payload ≠ []).map fun s => NalUnit.ofPayload s.payload

theorem unitAt_append (before payload after : Bytes) (h : payload ≠ []) :
    unitAt (before ++ payload ++ after) before.length (before.length + payload.length) =
      NalUnit.ofPayload payload := by
  obtain ⟨b, rest, rfl⟩ := List.exists_cons_of_ne_nil h
  simp [unitAt, NalUnit.ofPayload]

/-- The marker loop reads off the non-empty sections of the bytes from `before` on. -/
theorem unitsOf_markersOf (before : Bytes) (sections : List Section) :
    unitsOf (before ++ sections.flatMap Section.bytes) (markersOf before.length sections) =
      unitsOfSections sections := by
  induction sections generalizing before with
  | nil => rfl
  | cons s sections ih =>
    have hrest := ih (before ++ s.bytes)
    rw [List.append_assoc, ← List.flatMap_cons, List.length_append] at hrest
    have hend : ((markersOf (before.length + s.bytes.length) sections).head?.map
          Marker.codeBegin).getD (before ++ (s :: sections).flatMap Section.bytes).length =
        before.length + s.code.length + s.payload.length := by
      cases sections <;> simp [markersOf, Section.bytes_length, Nat.add_assoc]
    have hdata : before ++ (s :: sections).flatMap Section.bytes =
        before ++ s.code.bytes ++ s.payload ++ sections.flatMap Section.bytes := by
      simp [Section.bytes]
    have hbegin : before.length + s.code.length = (before ++ s.code.bytes).length := by
      rw [List.length_append, StartCode.bytes_length]
    simp only [markersOf, unitsOf, hend, hrest]
    by_cases hs : s.payload = []
    · simp [unitsOfSections, hs]
    · have hpos : 0 < s.payload.length := List.length_pos_iff.mpr hs
      rw [if_neg (by omega), hdata, hbegin, unitAt_append _ _ _ hs]
      simp [unitsOfSections, hs]

/-- **What `ScanStartCodes` computes**: the non-empty sections of the stream, as NAL units. -/
theorem scanStartCodes_eq_split (data : Bytes) :
    scanStartCodes data = unitsOfSections (split data).2 := by
  have hdata : (split data).1 ++ (split data).2.flatMap Section.bytes = data := join_split data
  have h := unitsOf_markersOf (split data).1 (split data).2
  rw [hdata] at h
  rw [scanStartCodes, findMarkers_eq, h]

/-! ### Well-formed units -/

/-- What the scanner produces: a non-empty payload without a start code, typed by its first
byte. -/
structure NalUnit.WellFormed (nal : NalUnit) : Prop where
  nonempty : nal.payload ≠ []
  codeFree : CodeFree nal.payload
  type_eq : nal.type = (nal.payload.headD 0 &&& 0x1F).toNat

theorem NalUnit.WellFormed.eq_ofPayload {nal : NalUnit} (h : nal.WellFormed) :
    NalUnit.ofPayload nal.payload = nal := by
  rw [NalUnit.ofPayload, ← h.type_eq]

/-- Every scanned unit is well formed. -/
theorem scanStartCodes_wellFormed {data : Bytes} {nal : NalUnit}
    (h : nal ∈ scanStartCodes data) : nal.WellFormed := by
  rw [scanStartCodes_eq_split, unitsOfSections, List.mem_map] at h
  obtain ⟨s, hs, rfl⟩ := h
  rw [List.mem_filter] at hs
  exact ⟨by simpa [NalUnit.ofPayload] using hs.2, split_codeFree_payload hs.1, rfl⟩

theorem buildAccessUnit_eq (nals : List NalUnit) :
    buildAccessUnit nals = (fourSections (nals.map NalUnit.payload)).flatMap Section.bytes := by
  simp [buildAccessUnit, fourSections, List.flatMap_map, Section.bytes, StartCode.bytes]

theorem split_buildAccessUnit {nals : List NalUnit} (h : ∀ nal ∈ nals, nal.WellFormed) :
    split (buildAccessUnit nals) = ([], fourSections (nals.map NalUnit.payload)) := by
  rw [buildAccessUnit_eq]
  refine split_sections fun p hp => ?_
  obtain ⟨nal, hnal, rfl⟩ := List.mem_map.mp hp
  exact (h nal hnal).codeFree

/-- **Building then scanning is the identity.**  The scanner finds every code the builder wrote,
also where a payload's trailing zeros run into it. -/
theorem scanStartCodes_buildAccessUnit (nals : List NalUnit) (h : ∀ nal ∈ nals, nal.WellFormed) :
    scanStartCodes (buildAccessUnit nals) = nals := by
  rw [scanStartCodes_eq_split, split_buildAccessUnit h, unitsOfSections, fourSections]
  induction nals with
  | nil => rfl
  | cons nal nals ih =>
    have hnal := h nal List.mem_cons_self
    have hrest := ih fun n hn => h n (List.mem_cons_of_mem nal hn)
    simpa [hnal.nonempty, hnal.eq_ofPayload] using hrest

/-- Two units, the first ending in a zero byte. -/
theorem scanStartCodes_buildAccessUnit_trailing_zero :
    scanStartCodes (buildAccessUnit [⟨7, [0x67, 0x00]⟩, ⟨5, [0x65]⟩]) =
      [⟨7, [0x67, 0x00]⟩, ⟨5, [0x65]⟩] :=
  scanStartCodes_buildAccessUnit _ fun nal h => by
    simp only [List.mem_cons, List.not_mem_nil, or_false] at h
    rcases h with rfl | rfl
    · exact ⟨by decide, by decide, by decide⟩
    · exact ⟨by decide, by decide, by decide⟩

/-! ### Scanning loses nothing -/

/-- The bytes of the code that a marker stands for. -/
def Marker.code (data : Bytes) (marker : Marker) : Bytes :=
  (data.drop marker.codeBegin).take (marker.payloadBegin - marker.codeBegin)

/-- The buffer, cut up at the found start codes: `before` ends where the first code begins, and
from there on the codes and the payloads alternate. -/
structure Partition (data before : Bytes) (codes payloads : List Bytes) : Prop where
  codes_eq : codes = (findMarkers data).map (Marker.code data)
  code_bytes : ∀ code ∈ codes, code = [0, 0, 1] ∨ code = [0, 0, 0, 1]
  first : ∀ marker ∈ (findMarkers data).head?, marker.codeBegin = before.length
  no_earlier : ∀ offset < before.length,
    ¬ [0, 0, 1] <+: data.drop offset ∧ ¬ [0, 0, 0, 1] <+: data.drop offset
  same_length : payloads.length = codes.length
  bytes : data = before ++ (List.zipWith (· ++ ·) codes payloads).flatten
  units : (scanStartCodes data).map NalUnit.payload = payloads.filter fun p => p ≠ []

/-- The markers of sections read the sections' codes. -/
theorem codes_markersOf (before : Bytes) (sections : List Section) :
    (markersOf before.length sections).map
        (Marker.code (before ++ sections.flatMap Section.bytes)) =
      sections.map fun s => s.code.bytes := by
  induction sections generalizing before with
  | nil => rfl
  | cons s sections ih =>
    have hrest := ih (before ++ s.bytes)
    rw [List.append_assoc, ← List.flatMap_cons, List.length_append] at hrest
    have hcode : Marker.code (before ++ (s :: sections).flatMap Section.bytes)
        ⟨before.length, before.length + s.code.length⟩ = s.code.bytes := by
      show ((before ++ (s :: sections).flatMap Section.bytes).drop before.length).take
        (before.length + s.code.length - before.length) = s.code.bytes
      rw [List.drop_left, Nat.add_sub_cancel_left, ← StartCode.bytes_length, List.flatMap_cons,
        Section.bytes, List.append_assoc, List.take_left]
    rw [markersOf, List.map_cons, hcode, hrest, List.map_cons]

theorem scanStartCodes_payloads (data : Bytes) :
    (scanStartCodes data).map NalUnit.payload =
      ((split data).2.map Section.payload).filter fun p => p ≠ [] := by
  rw [scanStartCodes_eq_split, unitsOfSections, List.map_map, List.filter_map]
  rfl

/-- The sections of the buffer are its partition. -/
theorem partition_split (data : Bytes) :
    Partition data (split data).1 ((split data).2.map fun s => s.code.bytes)
      ((split data).2.map Section.payload) where
  codes_eq := by
    have hcodes := codes_markersOf (split data).1 (split data).2
    have hdata : (split data).1 ++ (split data).2.flatMap Section.bytes = data := join_split data
    rw [hdata] at hcodes
    rw [findMarkers_eq, hcodes]
  code_bytes := by
    intro code hcode
    obtain ⟨s, -, rfl⟩ := List.mem_map.1 hcode
    cases s.code with
    | three => exact .inl rfl
    | four => exact .inr rfl
  first := by
    rw [findMarkers_eq]
    intro marker hmarker
    cases hsections : (split data).2 with
    | nil =>
      rw [hsections] at hmarker
      cases hmarker
    | cons s rest =>
      rw [hsections] at hmarker
      cases hmarker
      rfl
  no_earlier := by
    intro offset hoffset
    exact ⟨not_code_before .three hoffset, not_code_before .four hoffset⟩
  same_length := by rw [List.length_map, List.length_map]
  bytes := by
    have hzip : List.zipWith (· ++ ·) ((split data).2.map fun s => s.code.bytes)
        ((split data).2.map Section.payload) = (split data).2.map Section.bytes := by
      rw [List.zipWith_map, List.zipWith_self]
      rfl
    rw [hzip, ← List.flatMap_def]
    exact (join_split data).symm
  units := scanStartCodes_payloads data

/-- **Scanning loses nothing, normalising is idempotent.**  Every unit is non-empty, free of start
codes and typed by its first byte; codes and payloads make up the buffer from its first start code
on; and scanning what is built from the units gives the units back. -/
theorem scanStartCodes_partition (data : Bytes) :
    (∀ nal ∈ scanStartCodes data, nal.payload ≠ [] ∧ ¬ [0, 0, 1] <:+: nal.payload ∧
      nal.type = (nal.payload.headD 0 &&& 0x1F).toNat) ∧
    (∃ before codes payloads, Partition data before codes payloads) ∧
    scanStartCodes (buildAccessUnit (scanStartCodes data)) = scanStartCodes data := by
  refine ⟨?_, ⟨_, _, _, partition_split data⟩, ?_⟩
  · intro nal hnal
    have hwell := scanStartCodes_wellFormed hnal
    exact ⟨hwell.nonempty, hwell.codeFree, hwell.type_eq⟩
  · exact scanStartCodes_buildAccessUnit _ fun nal hnal => scanStartCodes_wellFormed hnal

end SecondDisplay.AnnexB
