import SecondDisplay.Encode.AnnexB

/-!
# The SPS/PPS cache (`SpsPpsCache` in `encode/AnnexB.cpp`)

A receiver cannot decode a keyframe without the parameter sets in front of it, and an encoder
need not repeat them.  The cache remembers the last SPS and PPS of the stream and puts them in
front of an access unit whose IDR slice comes without them.

`ensureParameterSets_cases` is the one description of a call that later proofs use;
`cacheAfter_sps` and `cacheAfter_pps` say what the cache holds after any stream.
-/

namespace SecondDisplay.AnnexB

/-- `SpsPpsCache`: whatever is cached has the type it is cached as. -/
structure SpsPpsCache where
  sps : Option NalUnit := none
  pps : Option NalUnit := none
  sps_type : ∀ nal ∈ sps, nal.type = kNalTypeSps := by simp
  pps_type : ∀ nal ∈ pps, nal.type = kNalTypePps := by simp

/-- The cache of a new encoder. -/
def SpsPpsCache.empty : SpsPpsCache := {}

@[simp] theorem SpsPpsCache.empty_sps : SpsPpsCache.empty.sps = none := rfl

@[simp] theorem SpsPpsCache.empty_pps : SpsPpsCache.empty.pps = none := rfl

/-- The cache update for one unit. -/
def SpsPpsCache.remember (cache : SpsPpsCache) (nal : NalUnit) : SpsPpsCache :=
  if h : nal.type = kNalTypeSps then { cache with sps := some nal, sps_type := by simpa using h }
  else if h : nal.type = kNalTypePps then
    { cache with pps := some nal, pps_type := by simpa using h }
  else cache

/-- `SpsPpsCache::EnsureParameterSets`. -/
def SpsPpsCache.ensureParameterSets (cache : SpsPpsCache) (nals : List NalUnit) :
    SpsPpsCache × List NalUnit :=
  let cache := nals.foldl remember cache
  match nals.findIdx? fun nal => nal.type == kNalTypeIdrSlice with
  | none => (cache, nals) -- not a keyframe access unit, nothing to ensure
  | some idrIndex =>
    let hasSpsBefore := (nals.take idrIndex).any fun nal => nal.type == kNalTypeSps
    let hasPpsBefore := (nals.take idrIndex).any fun nal => nal.type == kNalTypePps
    if hasSpsBefore && hasPpsBefore then (cache, nals)
    else match cache.sps, cache.pps with
      | some sps, some pps => (cache, sps :: pps :: nals)
      | _, _ => (cache, nals)

/-! ### What the cache holds -/

/-- The last unit of type `t`. -/
def latest (t : Nat) (nals : List NalUnit) : Option NalUnit :=
  (nals.filter fun nal => nal.type = t).getLast?

theorem latest_append (t : Nat) (a b : List NalUnit) :
    latest t (a ++ b) = (latest t b).or (latest t a) := by
  simp [latest, List.getLast?_append]

theorem latest_cons (t : Nat) (nal : NalUnit) (nals : List NalUnit) :
    latest t (nal :: nals) = (latest t nals).or (latest t [nal]) :=
  latest_append t [nal] nals

theorem latest_singleton (t : Nat) (nal : NalUnit) :
    latest t [nal] = if nal.type = t then some nal else none := by
  by_cases h : nal.type = t <;> simp [latest, h]

theorem latest_eq_none {t : Nat} {nals : List NalUnit} :
    latest t nals = none ↔ ∀ nal ∈ nals, nal.type ≠ t := by
  simp [latest]

theorem latest_mem {t : Nat} {nals : List NalUnit} {nal : NalUnit} (h : latest t nals = some nal) :
    nal ∈ nals :=
  (List.mem_filter.mp (List.mem_of_getLast? h)).1

theorem latest_isSome {t : Nat} {nals : List NalUnit} (h : ∃ nal ∈ nals, nal.type = t) :
    ∃ nal, latest t nals = some nal := by
  obtain ⟨nal, hmem, htype⟩ := h
  cases hl : latest t nals with
  | none => exact absurd htype (latest_eq_none.mp hl nal hmem)
  | some found => exact ⟨found, rfl⟩

theorem remember_sps (cache : SpsPpsCache) (nal : NalUnit) :
    (cache.remember nal).sps = (latest kNalTypeSps [nal]).or cache.sps := by
  rw [latest_singleton, SpsPpsCache.remember]
  split
  · rfl
  · split <;> rfl

theorem remember_pps (cache : SpsPpsCache) (nal : NalUnit) :
    (cache.remember nal).pps = (latest kNalTypePps [nal]).or cache.pps := by
  rw [latest_singleton, SpsPpsCache.remember]
  split
  · rename_i h
    rw [if_neg (by rw [h]; decide)]
    rfl
  · split <;> rfl

theorem foldl_remember_sps (cache : SpsPpsCache) (nals : List NalUnit) :
    (nals.foldl SpsPpsCache.remember cache).sps = (latest kNalTypeSps nals).or cache.sps := by
  induction nals generalizing cache with
  | nil => rfl
  | cons nal nals ih =>
    rw [List.foldl_cons, ih, remember_sps, latest_cons _ nal nals, Option.or_assoc]

theorem foldl_remember_pps (cache : SpsPpsCache) (nals : List NalUnit) :
    (nals.foldl SpsPpsCache.remember cache).pps = (latest kNalTypePps nals).or cache.pps := by
  induction nals generalizing cache with
  | nil => rfl
  | cons nal nals ih =>
    rw [List.foldl_cons, ih, remember_pps, latest_cons _ nal nals, Option.or_assoc]

/-! ### One call -/

/-- The units before the first IDR slice: all of them when there is none. -/
def beforeIdr (nals : List NalUnit) : List NalUnit :=
  nals.takeWhile fun nal => nal.type ≠ kNalTypeIdrSlice

/-- The unit is a keyframe. -/
def HasIdr (nals : List NalUnit) : Prop := ∃ nal ∈ nals, nal.type = kNalTypeIdrSlice

/-- An SPS and a PPS stand before the first IDR slice. -/
def SetsBeforeIdr (nals : List NalUnit) : Prop :=
  (∃ nal ∈ beforeIdr nals, nal.type = kNalTypeSps) ∧
    ∃ nal ∈ beforeIdr nals, nal.type = kNalTypePps

theorem take_idrIndex {nals : List NalUnit} {i : Nat}
    (h : nals.findIdx? (fun nal => nal.type == kNalTypeIdrSlice) = some i) :
    nals.take i = beforeIdr nals ∧ HasIdr nals := by
  induction nals generalizing i with
  | nil => simp at h
  | cons nal nals ih =>
    by_cases hnal : nal.type = kNalTypeIdrSlice
    · obtain rfl : 0 = i := by simpa [List.findIdx?_cons, hnal] using h
      exact ⟨by simp [beforeIdr, hnal], nal, List.mem_cons_self, hnal⟩
    · obtain ⟨j, hj, rfl⟩ : ∃ j, nals.findIdx? (fun n => n.type == kNalTypeIdrSlice) = some j ∧
          j + 1 = i := by simpa [List.findIdx?_cons, hnal] using h
      obtain ⟨htake, n, hn, hidr⟩ := ih hj
      refine ⟨?_, n, List.mem_cons_of_mem nal hn, hidr⟩
      rw [List.take_succ_cons, htake]
      simp [beforeIdr, hnal]

/-- **What one call does.**  The cache takes up the unit; the unit is passed on as it is when it
has no IDR slice, has both sets before it, or one set is still unknown, and else behind the
cached sets. -/
theorem ensureParameterSets_cases (cache : SpsPpsCache) (nals : List NalUnit) :
    (cache.ensureParameterSets nals).1 = nals.foldl SpsPpsCache.remember cache ∧
      (((cache.ensureParameterSets nals).2 = nals ∧
          (¬ HasIdr nals ∨ SetsBeforeIdr nals ∨
            (nals.foldl SpsPpsCache.remember cache).sps = none ∨
            (nals.foldl SpsPpsCache.remember cache).pps = none)) ∨
        ∃ sps pps, (nals.foldl SpsPpsCache.remember cache).sps = some sps ∧
          (nals.foldl SpsPpsCache.remember cache).pps = some pps ∧
          HasIdr nals ∧ ¬ SetsBeforeIdr nals ∧
          (cache.ensureParameterSets nals).2 = sps :: pps :: nals) := by
  cases hidx : nals.findIdx? fun nal => nal.type == kNalTypeIdrSlice with
  | none =>
    have hcall : cache.ensureParameterSets nals =
        (nals.foldl SpsPpsCache.remember cache, nals) := by
      simp only [SpsPpsCache.ensureParameterSets, hidx]
    have hno : ¬ HasIdr nals := by
      rintro ⟨nal, hmem, htype⟩
      simpa [htype] using List.findIdx?_eq_none_iff.mp hidx nal hmem
    rw [hcall]
    exact ⟨rfl, .inl ⟨rfl, .inl hno⟩⟩
  | some i =>
    have hcall : cache.ensureParameterSets nals =
        if (nals.take i).any (fun nal => nal.type == kNalTypeSps) &&
            (nals.take i).any fun nal => nal.type == kNalTypePps then
          (nals.foldl SpsPpsCache.remember cache, nals)
        else match (nals.foldl SpsPpsCache.remember cache).sps,
            (nals.foldl SpsPpsCache.remember cache).pps with
          | some sps, some pps =>
            (nals.foldl SpsPpsCache.remember cache, sps :: pps :: nals)
          | _, _ => (nals.foldl SpsPpsCache.remember cache, nals) := by
      simp only [SpsPpsCache.ensureParameterSets, hidx]
    obtain ⟨htake, hidr⟩ := take_idrIndex hidx
    have hsets : ((nals.take i).any (fun nal => nal.type == kNalTypeSps) &&
        (nals.take i).any fun nal => nal.type == kNalTypePps) = true ↔ SetsBeforeIdr nals := by
      simp [htake, SetsBeforeIdr]
    by_cases hbefore : SetsBeforeIdr nals
    · rw [hcall, if_pos (hsets.mpr hbefore)]
      exact ⟨rfl, .inl ⟨rfl, .inr (.inl hbefore)⟩⟩
    · rw [hcall, if_neg (hsets.not.mpr hbefore)]
      cases hsps : (nals.foldl SpsPpsCache.remember cache).sps with
      | none => exact ⟨rfl, .inl ⟨rfl, by simp⟩⟩
      | some sps =>
        cases hpps : (nals.foldl SpsPpsCache.remember cache).pps with
        | none => exact ⟨rfl, .inl ⟨rfl, by simp⟩⟩
        | some pps => exact ⟨rfl, .inr ⟨sps, pps, rfl, rfl, hidr, hbefore, rfl⟩⟩

/-- Sets in front of a unit stand before its first IDR slice. -/
theorem setsBeforeIdr_cons {sps pps : NalUnit} (hsps : sps.type = kNalTypeSps)
    (hpps : pps.type = kNalTypePps) (nals : List NalUnit) :
    SetsBeforeIdr (sps :: pps :: nals) := by
  have h : beforeIdr (sps :: pps :: nals) = sps :: pps :: beforeIdr nals := by
    simp [beforeIdr, hsps, hpps, kNalTypeSps, kNalTypePps, kNalTypeIdrSlice]
  exact ⟨⟨sps, by simp [h], hsps⟩, ⟨pps, by simp [h], hpps⟩⟩

/-! ### Streams of access units -/

/-- The cache after a stream of access units, from a fresh one. -/
def cacheAfter (units : List (List NalUnit)) : SpsPpsCache :=
  units.foldl (fun cache unit => (cache.ensureParameterSets unit).1) .empty

theorem cacheAfter_eq (units : List (List NalUnit)) :
    cacheAfter units = units.flatten.foldl SpsPpsCache.remember .empty := by
  have h : ∀ cache, units.foldl (fun c unit => (c.ensureParameterSets unit).1) cache =
      units.flatten.foldl SpsPpsCache.remember cache := by
    induction units with
    | nil => exact fun _ => rfl
    | cons unit units ih =>
      intro cache
      rw [List.foldl_cons, ih, (ensureParameterSets_cases cache unit).1, List.flatten_cons,
        List.foldl_append]
  exact h .empty

/-- The cached SPS is the last one of the stream. -/
theorem cacheAfter_sps (units : List (List NalUnit)) :
    (cacheAfter units).sps = latest kNalTypeSps units.flatten := by
  rw [cacheAfter_eq, foldl_remember_sps, SpsPpsCache.empty_sps, Option.or_none]

/-- The cached PPS is the last one of the stream. -/
theorem cacheAfter_pps (units : List (List NalUnit)) :
    (cacheAfter units).pps = latest kNalTypePps units.flatten := by
  rw [cacheAfter_eq, foldl_remember_pps, SpsPpsCache.empty_pps, Option.or_none]

theorem foldl_remember_cacheAfter_sps (earlier : List (List NalUnit)) (unit : List NalUnit) :
    (unit.foldl SpsPpsCache.remember (cacheAfter earlier)).sps =
      latest kNalTypeSps (earlier.flatten ++ unit) := by
  rw [foldl_remember_sps, cacheAfter_sps, latest_append]

theorem foldl_remember_cacheAfter_pps (earlier : List (List NalUnit)) (unit : List NalUnit) :
    (unit.foldl SpsPpsCache.remember (cacheAfter earlier)).pps =
      latest kNalTypePps (earlier.flatten ++ unit) := by
  rw [foldl_remember_pps, cacheAfter_pps, latest_append]

/-- Both sets have been seen: a keyframe leaves with both in front of its first IDR slice. -/
theorem ensureParameterSets_keyframe {earlier : List (List NalUnit)} {unit : List NalUnit}
    (hsps : ∃ nal ∈ earlier.flatten ++ unit, nal.type = kNalTypeSps)
    (hpps : ∃ nal ∈ earlier.flatten ++ unit, nal.type = kNalTypePps)
    (hidr : HasIdr ((cacheAfter earlier).ensureParameterSets unit).2) :
    SetsBeforeIdr ((cacheAfter earlier).ensureParameterSets unit).2 := by
  obtain ⟨sps, hsps'⟩ := latest_isSome hsps
  obtain ⟨pps, hpps'⟩ := latest_isSome hpps
  obtain ⟨-, ⟨hout, hwhy⟩ | ⟨s, p, hs, hp, -, -, hout⟩⟩ :=
    ensureParameterSets_cases (cacheAfter earlier) unit
  · rw [foldl_remember_cacheAfter_sps, foldl_remember_cacheAfter_pps, hsps', hpps'] at hwhy
    rw [hout] at hidr ⊢
    rcases hwhy with hno | hbefore | h | h
    · exact absurd hidr hno
    · exact hbefore
    · cases h
    · cases h
  · rw [hout]
    exact setsBeforeIdr_cons (SpsPpsCache.sps_type _ s hs) (SpsPpsCache.pps_type _ p hp) unit

/-- An output that is fed straight back is passed on as it is. -/
theorem ensureParameterSets_twice (cache : SpsPpsCache) (unit : List NalUnit) :
    ((cache.ensureParameterSets unit).1.ensureParameterSets (cache.ensureParameterSets unit).2).2 =
      (cache.ensureParameterSets unit).2 := by
  obtain ⟨hcache, ⟨hout, hwhy⟩ | ⟨s, p, hs, hp, -, -, hout⟩⟩ :=
    ensureParameterSets_cases cache unit
  · rw [hcache, hout]
    set once := unit.foldl SpsPpsCache.remember cache with honce
    have hsame : (unit.foldl SpsPpsCache.remember once).sps = once.sps ∧
        (unit.foldl SpsPpsCache.remember once).pps = once.pps := by
      rw [foldl_remember_sps, foldl_remember_pps, honce, foldl_remember_sps, foldl_remember_pps,
        ← Option.or_assoc, ← Option.or_assoc, Option.or_self, Option.or_self]
      exact ⟨rfl, rfl⟩
    obtain ⟨-, ⟨hout', -⟩ | ⟨s', p', hs', hp', hidr, hno, -⟩⟩ :=
      ensureParameterSets_cases once unit
    · exact hout'
    · -- prepending now would have been prepending before
      rw [hsame.1] at hs'
      rw [hsame.2] at hp'
      rw [hs', hp'] at hwhy
      rcases hwhy with h | h | h | h
      · exact absurd hidr h
      · exact absurd h hno
      · cases h
      · cases h
  · rw [hcache, hout]
    set once := unit.foldl SpsPpsCache.remember cache
    obtain ⟨-, ⟨hout', -⟩ | ⟨-, -, -, -, -, hno, -⟩⟩ :=
      ensureParameterSets_cases once (s :: p :: unit)
    · exact hout'
    · exact absurd (setsBeforeIdr_cons (once.sps_type s hs) (once.pps_type p hp) unit) hno

/-- **The cache over whole streams.**  After any earlier units, a unit leaves unchanged or behind
the latest SPS and PPS; a keyframe leaves with both sets before its first IDR slice once both
have occurred; and what leaves is a fixed point of the cache. -/
theorem ensureParameterSets_stream (earlier : List (List NalUnit)) (unit : List NalUnit) :
    let cache := cacheAfter earlier
    let output := (cache.ensureParameterSets unit).2
    (output = unit ∨ ∃ sps pps, latest kNalTypeSps (earlier.flatten ++ unit) = some sps ∧
        latest kNalTypePps (earlier.flatten ++ unit) = some pps ∧ output = sps :: pps :: unit) ∧
      (HasIdr output → (∃ nal ∈ earlier.flatten ++ unit, nal.type = kNalTypeSps) →
        (∃ nal ∈ earlier.flatten ++ unit, nal.type = kNalTypePps) → SetsBeforeIdr output) ∧
      ((cache.ensureParameterSets unit).1.ensureParameterSets output).2 = output := by
  refine ⟨?_, fun hidr hsps hpps => ensureParameterSets_keyframe hsps hpps hidr,
    ensureParameterSets_twice _ unit⟩
  obtain ⟨-, ⟨hout, -⟩ | ⟨s, p, hs, hp, -, -, hout⟩⟩ :=
    ensureParameterSets_cases (cacheAfter earlier) unit
  · exact .inl hout
  · rw [foldl_remember_cacheAfter_sps] at hs
    rw [foldl_remember_cacheAfter_pps] at hp
    exact .inr ⟨s, p, hs, hp, hout⟩

end SecondDisplay.AnnexB
