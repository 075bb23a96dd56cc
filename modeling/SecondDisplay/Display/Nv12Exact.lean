import SecondDisplay.Display.Nv12

/-!
# The samples of NV12

With an even height and width `ConvertBgraToNv12` writes every byte of the vector once: the
brightness of each pixel, and the two colours of each block of two by two pixels.  The log of the
loops is known (`convertBgraToNv12_eq`), and in it an index belongs to the turn of one row and one
column (`valuesAt_grid`).
-/

namespace SecondDisplay.Nv12

open Logged (forEach forEach_eq ok_bind)

/-! ### Writes -/

/-- The values written at an index, in order. -/
def valuesAt (index : Nat) : List Access → List UInt8
  | [] => []
  | .read _ :: log => valuesAt index log
  | .write other value :: log =>
    if other = index then value :: valuesAt index log else valuesAt index log

theorem valuesAt_append (index : Nat) (log log' : List Access) :
    valuesAt index (log ++ log') = valuesAt index log ++ valuesAt index log' := by
  induction log with
  | nil => rfl
  | cons access log ih =>
    cases access with
    | read other => exact ih
    | write other value =>
      rw [List.cons_append, valuesAt, valuesAt, ih]
      split
      · rfl
      · rfl

theorem valuesAt_flatMap {ι : Type} (index : Nat) (is : List ι) (logs : ι → List Access) :
    valuesAt index (is.flatMap logs) = is.flatMap fun i => valuesAt index (logs i) := by
  induction is with
  | nil => rfl
  | cons i is ih => rw [List.flatMap_cons, List.flatMap_cons, valuesAt_append, ih]

/-- If all turns but one leave an index alone, it gets what that one writes. -/
theorem flatMap_eq_of_unique {ι β : Type} {is : List ι} {f : ι → List β} {i : ι} (hnodup : is.Nodup)
    (hmem : i ∈ is) (hothers : ∀ j ∈ is, j ≠ i → f j = []) : is.flatMap f = f i := by
  induction is with
  | nil => cases hmem
  | cons j is ih =>
    obtain ⟨hhead, htail⟩ := List.nodup_cons.1 hnodup
    rw [List.flatMap_cons]
    by_cases heq : j = i
    · subst heq
      have hrest : is.flatMap f = [] := by
        refine List.flatMap_eq_nil_iff.2 fun k hk => hothers k (List.mem_cons_of_mem j hk) ?_
        intro hkj
        exact hhead (hkj ▸ hk)
      rw [hrest, List.append_nil]
    · rw [hothers j List.mem_cons_self heq, List.nil_append]
      exact ih htail (List.mem_of_ne_of_mem (Ne.symm heq) hmem) fun k hk =>
        hothers k (List.mem_cons_of_mem j hk)

section

variable {rows cols : List Nat} {logs : Nat → Nat → List Access} {index : Nat}

/-- An index that no turn writes. -/
theorem valuesAt_grid_nil (h : ∀ row ∈ rows, ∀ col ∈ cols, valuesAt index (logs row col) = []) :
    valuesAt index (rows.flatMap fun row => cols.flatMap (logs row)) = [] := by
  rw [valuesAt_flatMap]
  refine List.flatMap_eq_nil_iff.2 fun row hrow => ?_
  rw [valuesAt_flatMap]
  exact List.flatMap_eq_nil_iff.2 (h row hrow)

/-- **An index that only the turn of one row and one column writes.** -/
theorem valuesAt_grid (hrows : rows.Nodup) (hcols : cols.Nodup) {row col : Nat} (hrow : row ∈ rows)
    (hcol : col ∈ cols) (hothers : ∀ row' ∈ rows, ∀ col' ∈ cols, (row', col') ≠ (row, col) →
      valuesAt index (logs row' col') = []) :
    valuesAt index (rows.flatMap fun row => cols.flatMap (logs row)) =
      valuesAt index (logs row col) := by
  rw [valuesAt_flatMap, flatMap_eq_of_unique hrows hrow, valuesAt_flatMap,
    flatMap_eq_of_unique hcols hcol]
  · intro col' hcol' hne
    exact hothers row hrow col' hcol' fun h => hne (Prod.mk.inj h).2
  · intro row' hrow' hne
    rw [valuesAt_flatMap]
    exact List.flatMap_eq_nil_iff.2 fun col' hcol' =>
      hothers row' hrow' col' hcol' fun h => hne (Prod.mk.inj h).1

end

/-! ### The log -/

section

variable (bgra : Nat → UInt8) (rowPitch width height : UInt32)

/-- The accesses of `sample`. -/
def sampleLog (row c : Nat) : List Access :=
  [.read (row + c * 4), .read (row + c * 4 + 1), .read (row + c * 4 + 2)]

theorem sample_eq (row c : Nat) : sample bgra row c = ⟨sampleLog row c, .ok (pixel bgra row c)⟩ :=
  rfl

theorem write_eq {size index : Nat} (h : index < size) (value : UInt8) :
    write size index value = ⟨[.write index value], .ok ()⟩ := by
  rw [write, if_pos h]
  rfl

/-- The accesses of `lumaPixel`. -/
def lumaLog (row col : Nat) : List Access :=
  sampleLog (row * rowPitch.toNat) col ++
    [.write (row * width.toNat + col) (clamp8 (luma (pixel bgra (row * rowPitch.toNat) col)))]

/-- The mean of the block with a pixel at its upper left corner. -/
def blockMean (row col : Nat) : Rgb :=
  mean (pixel bgra (row * rowPitch.toNat) col) (pixel bgra (row * rowPitch.toNat) (col + 1))
    (pixel bgra ((row + 1) * rowPitch.toNat) col)
    (pixel bgra ((row + 1) * rowPitch.toNat) (col + 1))

/-- The accesses of `chromaBlock`. -/
def chromaLog (row col : Nat) : List Access :=
  sampleLog (row * rowPitch.toNat) col ++ (sampleLog (row * rowPitch.toNat) (col + 1) ++
    (sampleLog ((row + 1) * rowPitch.toNat) col ++
      (sampleLog ((row + 1) * rowPitch.toNat) (col + 1) ++
        [.write (width.toNat * height.toNat + row / 2 * width.toNat + col)
            (clamp8 (chromaU (blockMean bgra rowPitch row col))),
          .write (width.toNat * height.toNat + row / 2 * width.toNat + (col + 1))
            (clamp8 (chromaV (blockMean bgra rowPitch row col)))])))

/-- The accesses of the loops. -/
def nv12Log : List Access :=
  ((List.range height.toNat).flatMap fun row =>
      (List.range width.toNat).flatMap (lumaLog bgra rowPitch width row)) ++
    (evens height.toNat).flatMap fun row =>
      (evens width.toNat).flatMap (chromaLog bgra rowPitch width height row)

variable {bgra rowPitch width height}

theorem lumaPixel_eq {row col : Nat}
    (h : row * width.toNat + col < nv12Size width height) :
    lumaPixel bgra rowPitch width height row col =
      ⟨lumaLog bgra rowPitch width row col, .ok ()⟩ := by
  rw [lumaPixel, sample_eq, ok_bind, write_eq h]
  rfl

theorem chromaBlock_eq {row col : Nat} (hrow : row + 1 < height.toNat)
    (hcol : col + 1 < width.toNat)
    (h : width.toNat * height.toNat + row / 2 * width.toNat + (col + 1) < nv12Size width height) :
    chromaBlock bgra rowPitch width height row col =
      ⟨chromaLog bgra rowPitch width height row col, .ok ()⟩ := by
  simp only [chromaBlock]
  rw [Nat.min_eq_left (Nat.le_sub_one_of_lt hrow), Nat.min_eq_left (Nat.le_sub_one_of_lt hcol)]
  simp only [sample_eq, ok_bind]
  have hfirst : width.toNat * height.toNat + row / 2 * width.toNat + col <
      nv12Size width height := Nat.lt_of_succ_lt h
  rw [write_eq hfirst, write_eq h]
  rfl

/-- **The log of the conversion.** -/
theorem convertBgraToNv12_eq (hwidth : width.toNat % 2 = 0) (hheight : height.toNat % 2 = 0)
    (hpitch : 4 * width.toNat ≤ rowPitch.toNat) :
    convertBgraToNv12 bgra rowPitch width height =
      ⟨nv12Log bgra rowPitch width height, .ok ()⟩ := by
  have harea := area_eq width.toNat height.toNat
  rw [hheight] at harea
  have hluma : ∀ row ∈ List.range height.toNat, (forEach (List.range width.toNat) fun col =>
      lumaPixel bgra rowPitch width height row col) =
        ⟨(List.range width.toNat).flatMap (lumaLog bgra rowPitch width row), .ok ()⟩ := by
    intro row hrow
    refine forEach_eq fun col hcol => lumaPixel_eq ?_
    rw [List.mem_range] at hrow hcol
    have hlt := index_lt hrow hcol
    rw [Nat.mul_comm height.toNat] at hlt
    rw [nv12Size_eq hpitch]
    omega
  have hchroma : ∀ row ∈ evens height.toNat, (forEach (evens width.toNat) fun col =>
      chromaBlock bgra rowPitch width height row col) =
        ⟨(evens width.toNat).flatMap (chromaLog bgra rowPitch width height row), .ok ()⟩ := by
    intro row hrow
    refine forEach_eq fun col hcol => ?_
    rw [mem_evens_iff] at hrow hcol
    refine chromaBlock_eq (by omega) (by omega) ?_
    have hlt := index_lt (show row / 2 < height.toNat / 2 by omega)
      (show col + 1 < width.toNat by omega)
    rw [nv12Size_eq hpitch]
    omega
  rw [convertBgraToNv12, forEach_eq hluma, forEach_eq hchroma]
  rfl

end

/-! ### Values -/

theorem clamp8_toNat {v : Int} (hlow : 16 ≤ v) (hhigh : v ≤ 240) :
    ((clamp8 v).toNat : Int) = v := by
  rw [clamp8, if_neg (by omega), if_neg (by omega), UInt8.toNat_ofNat', Nat.mod_eq_of_lt (by omega)]
  omega

/-- A pixel of three bytes. -/
def Rgb.Bytes (p : Rgb) : Prop := p.r ≤ 255 ∧ p.g ≤ 255 ∧ p.b ≤ 255

theorem pixel_bytes (bgra : Nat → UInt8) (row c : Nat) : (pixel bgra row c).Bytes :=
  ⟨Nat.le_of_lt_succ (UInt8.toNat_lt _), Nat.le_of_lt_succ (UInt8.toNat_lt _),
    Nat.le_of_lt_succ (UInt8.toNat_lt _)⟩

theorem mean_bytes {p q s t : Rgb} (hp : p.Bytes) (hq : q.Bytes) (hs : s.Bytes) (ht : t.Bytes) :
    (mean p q s t).Bytes := by
  simp only [Rgb.Bytes, mean] at hp hq hs ht ⊢
  omega

theorem blockMean_bytes (bgra : Nat → UInt8) (rowPitch : UInt32) (row col : Nat) :
    (blockMean bgra rowPitch row col).Bytes :=
  mean_bytes (pixel_bytes bgra _ _) (pixel_bytes bgra _ _) (pixel_bytes bgra _ _)
    (pixel_bytes bgra _ _)

theorem luma_range {p : Rgb} (h : p.Bytes) : 16 ≤ luma p ∧ luma p ≤ 235 := by
  obtain ⟨hr, hg, hb⟩ := h
  rw [luma, Int.shiftRight_eq_div_pow]
  omega

theorem chromaU_range {p : Rgb} (h : p.Bytes) : 16 ≤ chromaU p ∧ chromaU p ≤ 240 := by
  obtain ⟨hr, hg, hb⟩ := h
  rw [chromaU, Int.shiftRight_eq_div_pow]
  omega

theorem chromaV_range {p : Rgb} (h : p.Bytes) : 16 ≤ chromaV p ∧ chromaV p ≤ 240 := by
  obtain ⟨hr, hg, hb⟩ := h
  rw [chromaV, Int.shiftRight_eq_div_pow]
  omega

section

variable {bgra : Nat → UInt8} {rowPitch width height : UInt32}

theorem valuesAt_lumaLog (index row col : Nat) :
    valuesAt index (lumaLog bgra rowPitch width row col) =
      if row * width.toNat + col = index then
        [clamp8 (luma (pixel bgra (row * rowPitch.toNat) col))] else [] := rfl

theorem valuesAt_chromaLog (index row col : Nat) :
    valuesAt index (chromaLog bgra rowPitch width height row col) =
      if width.toNat * height.toNat + row / 2 * width.toNat + col = index then
        [clamp8 (chromaU (blockMean bgra rowPitch row col))]
      else if width.toNat * height.toNat + row / 2 * width.toNat + (col + 1) = index then
        [clamp8 (chromaV (blockMean bgra rowPitch row col))] else [] := by
  show (if _ then _ :: (if _ then _ else _) else if _ then _ else _) = _
  by_cases h : width.toNat * height.toNat + row / 2 * width.toNat + col = index
  · rw [if_pos h, if_pos h, if_neg (by omega), valuesAt]
  · rw [if_neg h, if_neg h]
    rfl

/-- Brightness stands at the index of its pixel. -/
theorem valuesAt_luma {row col : Nat} (hrow : row < height.toNat) (hcol : col < width.toNat) :
    valuesAt (row * width.toNat + col) (nv12Log bgra rowPitch width height) =
      [clamp8 (luma (pixel bgra (row * rowPitch.toNat) col))] := by
  have hlt := index_lt hrow hcol
  rw [Nat.mul_comm height.toNat] at hlt
  rw [nv12Log, valuesAt_append,
    valuesAt_grid List.nodup_range List.nodup_range (List.mem_range.2 hrow) (List.mem_range.2 hcol),
    valuesAt_grid_nil, valuesAt_lumaLog, if_pos rfl, List.append_nil]
  · intro row' _ col' _
    rw [valuesAt_chromaLog, if_neg (by omega), if_neg (by omega)]
  · intro row' _ col' hcol' hne
    rw [valuesAt_lumaLog, if_neg]
    intro heq
    obtain ⟨rfl, rfl⟩ := InPlace.row_column (List.mem_range.1 hcol') hcol heq
    exact hne rfl

theorem nodup_evens (bound : Nat) : (evens bound).Nodup :=
  List.Pairwise.map (2 * ·) (fun _ _ hne heq => hne (Nat.eq_of_mul_eq_mul_left (by decide) heq))
    List.nodup_range

/-- **The colours of a block** are written behind the brightness, in the turn of the block only. -/
theorem valuesAt_chroma (hwidth : width.toNat % 2 = 0) {row col which : Nat}
    (hrow : row ∈ evens height.toNat) (hcol : col ∈ evens width.toNat) (hwhich : which < 2) :
    valuesAt (width.toNat * height.toNat + row / 2 * width.toNat + (col + which))
        (nv12Log bgra rowPitch width height) =
      valuesAt (width.toNat * height.toNat + row / 2 * width.toNat + (col + which))
        (chromaLog bgra rowPitch width height row col) := by
  rw [nv12Log, valuesAt_append, valuesAt_grid_nil, List.nil_append,
    valuesAt_grid (nodup_evens _) (nodup_evens _) hrow hcol]
  · intro row' hrow' col' hcol' hne
    rw [mem_evens_iff] at hrow hcol hrow' hcol'
    -- an index of the table of colours has one row, and one column of the pair
    have hother (which' : Nat) (hwhich' : which' < 2) :
        width.toNat * height.toNat + row' / 2 * width.toNat + (col' + which') ≠
          width.toNat * height.toNat + row / 2 * width.toNat + (col + which) := by
      intro heq
      rw [Nat.add_assoc, Nat.add_assoc _ (row / 2 * _)] at heq
      obtain ⟨hsame, hpair⟩ := InPlace.row_column (by omega) (by omega) (Nat.add_left_cancel heq)
      refine hne (Prod.ext ?_ ?_)
      · show row' = row
        omega
      · show col' = col
        omega
    have hfirst := hother 0 (by decide)
    rw [Nat.add_zero] at hfirst
    rw [valuesAt_chromaLog, if_neg hfirst, if_neg (hother 1 (by decide))]
  · intro row' hrow' col' hcol'
    have hlt := index_lt (List.mem_range.1 hrow') (List.mem_range.1 hcol')
    rw [Nat.mul_comm height.toNat] at hlt
    rw [valuesAt_lumaLog, if_neg (by omega)]

theorem valuesAt_chromaU (hwidth : width.toNat % 2 = 0) {row col : Nat}
    (hrow : row ∈ evens height.toNat) (hcol : col ∈ evens width.toNat) :
    valuesAt (width.toNat * height.toNat + row / 2 * width.toNat + col)
        (nv12Log bgra rowPitch width height) =
      [clamp8 (chromaU (blockMean bgra rowPitch row col))] := by
  refine (valuesAt_chroma hwidth hrow hcol Nat.zero_lt_two).trans ?_
  rw [Nat.add_zero, valuesAt_chromaLog, if_pos rfl]

theorem valuesAt_chromaV (hwidth : width.toNat % 2 = 0) {row col : Nat}
    (hrow : row ∈ evens height.toNat) (hcol : col ∈ evens width.toNat) :
    valuesAt (width.toNat * height.toNat + row / 2 * width.toNat + (col + 1))
        (nv12Log bgra rowPitch width height) =
      [clamp8 (chromaV (blockMean bgra rowPitch row col))] := by
  rw [valuesAt_chroma hwidth hrow hcol (by decide), valuesAt_chromaLog, if_neg (by omega),
    if_pos rfl]

/-- Nothing is written behind the vector. -/
theorem valuesAt_beyond (hwidth : width.toNat % 2 = 0) (hheight : height.toNat % 2 = 0)
    {index : Nat} (hindex : width.toNat * height.toNat * 3 / 2 ≤ index) :
    valuesAt index (nv12Log bgra rowPitch width height) = [] := by
  have harea := area_eq width.toNat height.toNat
  rw [hheight] at harea
  rw [nv12Log, valuesAt_append, valuesAt_grid_nil, valuesAt_grid_nil, List.append_nil]
  · intro row hrow col hcol
    rw [mem_evens_iff] at hrow hcol
    have hlt := index_lt (show row / 2 < height.toNat / 2 by omega)
      (show col + 1 < width.toNat by omega)
    rw [valuesAt_chromaLog, if_neg (by omega), if_neg (by omega)]
  · intro row hrow col hcol
    have hlt := index_lt (List.mem_range.1 hrow) (List.mem_range.1 hcol)
    rw [Nat.mul_comm height.toNat] at hlt
    rw [valuesAt_lumaLog, if_neg (by omega)]

/-- Every index of the vector belongs to a pixel or to one of the colours of a block. -/
theorem index_cases (hwidth : width.toNat % 2 = 0) (hheight : height.toNat % 2 = 0) {index : Nat}
    (hindex : index < width.toNat * height.toNat * 3 / 2) :
    (∃ row < height.toNat, ∃ col < width.toNat, index = row * width.toNat + col) ∨
      ∃ row ∈ evens height.toNat, ∃ col ∈ evens width.toNat,
        index = width.toNat * height.toNat + row / 2 * width.toNat + col ∨
          index = width.toNat * height.toNat + row / 2 * width.toNat + (col + 1) := by
  have harea := area_eq width.toNat height.toNat
  rw [hheight] at harea
  have hpos : 0 < width.toNat := by
    refine Nat.pos_of_ne_zero fun hzero => ?_
    rw [hzero, Nat.zero_mul] at hindex
    exact absurd hindex (Nat.not_lt_zero _)
  by_cases hluma : index < width.toNat * height.toNat
  · exact .inl ⟨index / width.toNat, Nat.div_lt_of_lt_mul hluma, index % width.toNat,
      Nat.mod_lt _ hpos, (Nat.div_add_mod' _ _).symm⟩
  · obtain ⟨rest, rfl⟩ := Nat.exists_eq_add_of_le (Nat.le_of_not_lt hluma)
    have hrow : rest / width.toNat < height.toNat / 2 := by
      rw [Nat.div_lt_iff_lt_mul hpos]
      omega
    have hcol := Nat.mod_lt rest hpos
    have hrest := Nat.div_add_mod' rest width.toNat
    refine .inr ⟨rest / width.toNat * 2, mem_evens_iff.2 ⟨by omega, by omega⟩,
      rest % width.toNat / 2 * 2, mem_evens_iff.2 ⟨by omega, by omega⟩, ?_⟩
    rw [Nat.mul_div_cancel _ (by decide)]
    omega

end

/-- **The conversion is exact**: for even sizes it writes every byte of the vector once, each with
the brightness of a pixel or a colour of a block, and the clamp changes none. -/
theorem convertBgraToNv12_exact (bgra : Nat → UInt8) (rowPitch width height : UInt32)
    (hwidth : width.toNat % 2 = 0) (hheight : height.toNat % 2 = 0)
    (hpitch : 4 * width.toNat ≤ rowPitch.toNat) :
    (convertBgraToNv12 bgra rowPitch width height).value = .ok () ∧
      (∀ index < nv12Size width height, ∃ value,
        valuesAt index (convertBgraToNv12 bgra rowPitch width height).log = [value]) ∧
      (∀ index, nv12Size width height ≤ index →
        valuesAt index (convertBgraToNv12 bgra rowPitch width height).log = []) ∧
      (∀ row < height.toNat, ∀ col < width.toNat, ∃ y,
        valuesAt (row * width.toNat + col)
            (convertBgraToNv12 bgra rowPitch width height).log = [y] ∧
          (y.toNat : Int) = luma (pixel bgra (row * rowPitch.toNat) col) ∧
            16 ≤ y.toNat ∧ y.toNat ≤ 235) ∧
      ∀ row < height.toNat, row % 2 = 0 → ∀ col < width.toNat, col % 2 = 0 → ∃ u v,
        valuesAt (width.toNat * height.toNat + row / 2 * width.toNat + col)
            (convertBgraToNv12 bgra rowPitch width height).log = [u] ∧
          valuesAt (width.toNat * height.toNat + row / 2 * width.toNat + (col + 1))
            (convertBgraToNv12 bgra rowPitch width height).log = [v] ∧
          (u.toNat : Int) = chromaU (blockMean bgra rowPitch row col) ∧
          (v.toNat : Int) = chromaV (blockMean bgra rowPitch row col) ∧
          (16 ≤ u.toNat ∧ u.toNat ≤ 240) ∧ (16 ≤ v.toNat ∧ v.toNat ≤ 240) := by
  rw [convertBgraToNv12_eq hwidth hheight hpitch, nv12Size_eq hpitch]
  refine ⟨rfl, fun index hindex => ?_, fun index hindex => valuesAt_beyond hwidth hheight hindex,
    fun row hrow col hcol => ?_, fun row hrow hrow2 col hcol hcol2 => ?_⟩
  · obtain ⟨row, hrow, col, hcol, rfl⟩ | ⟨row, hrow, col, hcol, rfl | rfl⟩ :=
      index_cases hwidth hheight hindex
    · exact ⟨_, valuesAt_luma hrow hcol⟩
    · exact ⟨_, valuesAt_chromaU hwidth hrow hcol⟩
    · exact ⟨_, valuesAt_chromaV hwidth hrow hcol⟩
  · have hrange := luma_range (pixel_bytes bgra (row * rowPitch.toNat) col)
    have hvalue := clamp8_toNat hrange.1 (hrange.2.trans (by decide))
    exact ⟨_, valuesAt_luma hrow hcol, hvalue, by omega, by omega⟩
  · have hu := chromaU_range (blockMean_bytes bgra rowPitch row col)
    have hv := chromaV_range (blockMean_bytes bgra rowPitch row col)
    have hu' := clamp8_toNat hu.1 hu.2
    have hv' := clamp8_toNat hv.1 hv.2
    have hrow := mem_evens_iff.2 ⟨hrow, hrow2⟩
    have hcol := mem_evens_iff.2 ⟨hcol, hcol2⟩
    exact ⟨_, _, valuesAt_chromaU hwidth hrow hcol, valuesAt_chromaV hwidth hrow hcol, hu', hv',
      ⟨by omega, by omega⟩, by omega, by omega⟩

/-- A white picture of one block. -/
theorem convertBgraToNv12_exact_white :
    ∃ y, valuesAt 3 (convertBgraToNv12 (fun _ => 255) 8 2 2).log = [y] ∧ y.toNat = 235 := by
  obtain ⟨-, -, -, hluma, -⟩ :=
    convertBgraToNv12_exact (fun _ => 255) 8 2 2 (by decide) (by decide) (by decide)
  obtain ⟨y, hy, hvalue, -⟩ := hluma 1 (by decide) 1 (by decide)
  have hwhite : luma (pixel (fun _ => 255) (1 * (8 : UInt32).toNat) 1) = 235 := by decide
  exact ⟨y, hy, by omega⟩

end SecondDisplay.Nv12
