import SecondDisplay.App.LauncherItems

/-!
# Drawing and tapping the icons (`app/DisplayLauncher.cpp`)

`Paint` draws the icons in their order, so that a later one covers an earlier one, and leaves out
what would lie behind the taskbar; `ItemAt` goes through them backwards.  A tap therefore meets the
icon that is seen there (`itemAt_eq_some_iff`).  The icons without a position do not cover each
other (`fallback_cells_apart`).
-/

namespace SecondDisplay.DisplayLauncher

open InputInjector (Rect Point)
open WindowRouting (toInt_max toInt_sub_of_fits toInt_add_of_fits)

def desktopMarginX : Int32 := 12
def desktopMarginY : Int32 := 10
def desktopCellWidth : Int32 := 94
def desktopCellHeight : Int32 := 106
def taskbarReserve : Int32 := 58

/-- `MulDiv`: the quotient of the exact product, rounded to the nearest integer, a half away from
zero; `-1` where that does not fit. -/
def mulDiv (number numerator denominator : Int32) : Int32 :=
  if denominator = 0 then -1
  else
    let product := number.toInt * numerator.toInt
    let half := denominator.toInt.natAbs / 2
    let size : Int := (product.natAbs + half) / denominator.toInt.natAbs
    let quotient := if (0 ≤ product) = (0 ≤ denominator.toInt) then size else -size
    if -2 ^ 31 ≤ quotient ∧ quotient < 2 ^ 31 then Int32.ofInt quotient else -1

/-- The height there is for icons. -/
def contentHeight (client : Rect) : Int32 := max 1 (client.bottom - taskbarReserve)

/-- The rows of the grid. -/
def gridRows (client : Rect) : Int32 :=
  max 1 (max 1 (contentHeight client - desktopMarginY) / desktopCellHeight)

/-- The cell of the grid with this number. -/
def gridCell (client : Rect) (fallbackIndex : Nat) : Rect :=
  let rows := (gridRows client).toInt.toNat
  let column := Int32.ofNat (fallbackIndex / rows)
  let row := Int32.ofNat (fallbackIndex % rows)
  { left := desktopMarginX + column * desktopCellWidth
    top := desktopMarginY + row * desktopCellHeight
    right := desktopMarginX + (column + 1) * desktopCellWidth
    bottom := desktopMarginY + (row + 1) * desktopCellHeight }

/-- How many of the icons have no position. -/
def fallbackIndex (items : List LauncherItem) : Nat :=
  items.countP fun item => item.desktopPosition.isNone

/-- `CellForItem`; `source` is the work area of the primary monitor. -/
def cellForItem (items : List LauncherItem) (source client : Rect) (item : LauncherItem)
    (itemIndex : Nat) : Rect :=
  match item.desktopPosition with
  | some position =>
    let sourceWidth := max 1 (source.right - source.left)
    let sourceHeight := max 1 (source.bottom - source.top)
    let x := mulDiv position.x client.right sourceWidth
    let y := mulDiv position.y (contentHeight client) sourceHeight
    { left := x, top := y, right := x + desktopCellWidth, bottom := y + desktopCellHeight }
  | none => gridCell client (fallbackIndex (items.take itemIndex))

/-- `PtInRect`. -/
def ptInRect (r : Rect) (p : Point) : Bool :=
  decide (r.left ≤ p.x) && decide (p.x < r.right) && decide (r.top ≤ p.y) && decide (p.y < r.bottom)

/-- `IntersectRect`. -/
def intersects (a b : Rect) : Bool :=
  decide (max a.left b.left < min a.right b.right) &&
    decide (max a.top b.top < min a.bottom b.bottom)

/-- What `Paint` draws: the icons with their cells, in their order. -/
def painted (items : List LauncherItem) (source client : Rect) : List (Nat × Rect) :=
  (items.zipIdx.map fun entry =>
    (entry.2, cellForItem items source client entry.1 entry.2)).filter fun entry =>
      intersects entry.2 client && decide (entry.2.top < client.bottom - taskbarReserve)

/-- The loop of `ItemAt` over the icons, the last one first. -/
def itemFrom (items : List LauncherItem) (source client : Rect) (point : Point) :
    List (LauncherItem × Nat) → Option Nat
  | [] => none
  | (item, index) :: rest =>
    if ptInRect (cellForItem items source client item index) point then some index
    else itemFrom items source client point rest

/-- `ItemAt`. -/
def itemAt (items : List LauncherItem) (source client : Rect) (point : Point) : Option Nat :=
  if point.x < 0 || point.y < 0 || point.y ≥ client.bottom - taskbarReserve then none
  else itemFrom items source client point items.zipIdx.reverse

/-! ### Tapping -/

theorem itemFrom_eq (items : List LauncherItem) (source client : Rect) (point : Point)
    (entries : List (LauncherItem × Nat)) :
    itemFrom items source client point entries =
      (entries.find? fun entry =>
        ptInRect (cellForItem items source client entry.1 entry.2) point).map (·.2) := by
  induction entries with
  | nil => rfl
  | cons entry entries ih =>
    rw [itemFrom, List.find?_cons, ih]
    split
    · rename_i hin
      rw [hin]
      rfl
    · rename_i hout
      rw [Bool.not_eq_true] at hout
      rw [hout]

/-- A point that two rectangles share makes them meet. -/
theorem intersects_of_mem {a b : Rect} {p : Point} (ha : ptInRect a p = true)
    (hb : ptInRect b p = true) : intersects a b = true := by
  simp only [ptInRect, Bool.and_eq_true, decide_eq_true_eq, Int32.le_iff_toInt_le,
    Int32.lt_iff_toInt_lt] at ha hb
  simp only [intersects, Bool.and_eq_true, decide_eq_true_eq, Int32.lt_iff_toInt_lt, toInt_max,
    WindowRouting.toInt_min]
  omega

/-- What is seen at a point is what is painted last there. -/
def seenAt (items : List LauncherItem) (source client : Rect) (point : Point) : Option Nat :=
  ((painted items source client).reverse.find? fun entry => ptInRect entry.2 point).map (·.1)

def corner : LauncherItem := { path := [65], launchPath := [65], label := [65],
                               desktopPosition := some ⟨0, 0⟩ }

def unplaced : LauncherItem := { path := [66], launchPath := [66], label := [66] }

theorem toInt_mul_of_fits {a b : Int32} (hlow : -2 ^ 31 ≤ a.toInt * b.toInt)
    (hhigh : a.toInt * b.toInt < 2 ^ 31) : (a * b).toInt = a.toInt * b.toInt := by
  rw [Int32.toInt_mul]
  exact Int.bmod_eq_of_le (by omega) (by omega)

/-- The rows of the grid as a number. -/
def rowCount (client : Rect) : Nat := (gridRows client).toInt.toNat

theorem toInt_contentHeight {client : Rect} (hbottom : 0 ≤ client.bottom.toInt) :
    (contentHeight client).toInt = max 1 (client.bottom.toInt - 58) := by
  have hhigh := client.bottom.toInt_lt
  have hdiff : (client.bottom - taskbarReserve).toInt = client.bottom.toInt - 58 :=
    toInt_sub_of_fits (b := taskbarReserve) (by show -2 ^ 31 ≤ client.bottom.toInt - 58; omega)
      (by show client.bottom.toInt - 58 < 2 ^ 31; omega)
  rw [contentHeight, toInt_max, hdiff]
  rfl

/-- As many rows as fit, but one at least. -/
theorem rowCount_eq {client : Rect} (hbottom : 0 ≤ client.bottom.toInt) :
    (rowCount client : Int) = max 1 ((max 1 (client.bottom.toInt - 58) - 10) / 106) := by
  have hhigh := client.bottom.toInt_lt
  have hcontent := toInt_contentHeight hbottom
  have husable : (max 1 (contentHeight client - desktopMarginY)).toInt =
      max 1 (max 1 (client.bottom.toInt - 58) - 10) := by
    have hdiff : (contentHeight client - desktopMarginY).toInt =
        (contentHeight client).toInt - 10 :=
      toInt_sub_of_fits (b := desktopMarginY)
        (by show -2 ^ 31 ≤ (contentHeight client).toInt - 10; omega)
        (by show (contentHeight client).toInt - 10 < 2 ^ 31; omega)
    rw [toInt_max, hdiff, hcontent]
    rfl
  have hdiv : (max 1 (contentHeight client - desktopMarginY) / desktopCellHeight).toInt =
      max 1 (max 1 (client.bottom.toInt - 58) - 10) / 106 := by
    rw [Int32.toInt_div_of_ne_right _ _ (by decide), husable]
    exact Int.tdiv_eq_ediv_of_nonneg (by omega)
  have hrows : (gridRows client).toInt =
      max 1 (max 1 (max 1 (client.bottom.toInt - 58) - 10) / 106) := by
    rw [gridRows, toInt_max, hdiv]
    rfl
  rw [rowCount, hrows]
  omega

/-- The coordinates of a cell of the grid. -/
structure GridCell (client : Rect) (index : Nat) (cell : Rect) : Prop where
  left : cell.left.toInt = 12 + (index / rowCount client : Nat) * 94
  top : cell.top.toInt = 10 + (index % rowCount client : Nat) * 106
  right : cell.right.toInt = 12 + ((index / rowCount client : Nat) + 1) * 94
  bottom : cell.bottom.toInt = 10 + ((index % rowCount client : Nat) + 1) * 106

/-- A multiple of a cell and the margin in front of it. -/
theorem toInt_offset {margin size : Int32} {n : Nat}
    (hmargin : 0 ≤ margin.toInt ∧ margin.toInt < 16)
    (hsize : 0 < size.toInt ∧ size.toInt < 128) (hn : (n : Int) * size.toInt < 2 ^ 31 - 16) :
    (margin + Int32.ofNat n * size).toInt = margin.toInt + n * size.toInt := by
  have hle : (n : Int) * 1 ≤ n * size.toInt := Int.mul_le_mul_of_nonneg_left (by omega) (by omega)
  have hcount : (Int32.ofNat n).toInt = n := Int32.toInt_ofNat_of_lt (by omega)
  have hproduct : (Int32.ofNat n * size).toInt = n * size.toInt := by
    rw [toInt_mul_of_fits (by rw [hcount]; omega) (by rw [hcount]; omega), hcount]
  rw [toInt_add_of_fits (by omega) (by omega), hproduct]

theorem gridCell_spec {client : Rect} (hbottom : 0 ≤ client.bottom.toInt) {index : Nat}
    (hindex : index < 16777216) : GridCell client index (gridCell client index) := by
  have hhigh := client.bottom.toInt_lt
  have hrows := rowCount_eq hbottom
  have hpos : 0 < rowCount client := by omega
  have hcolumn : index / rowCount client ≤ index := Nat.div_le_self _ _
  have hrow : index % rowCount client < rowCount client := Nat.mod_lt _ hpos
  have hsucc (n : Nat) : Int32.ofNat n + 1 = Int32.ofNat (n + 1) := (Int32.ofNat_add n 1).symm
  have hwidth (n : Nat) (hn : n ≤ 16777216) :
      (desktopMarginX + Int32.ofNat n * desktopCellWidth).toInt = 12 + n * 94 :=
    toInt_offset (by decide) (by decide) (by show (n : Int) * 94 < _; omega)
  have hheight (n : Nat) (hn : n ≤ rowCount client) :
      (desktopMarginY + Int32.ofNat n * desktopCellHeight).toInt = 10 + n * 106 :=
    toInt_offset (by decide) (by decide) (by show (n : Int) * 106 < _; omega)
  refine ⟨?_, ?_, ?_, ?_⟩
  · exact hwidth (index / rowCount client) (by omega)
  · exact hheight (index % rowCount client) (by omega)
  · show (desktopMarginX + (Int32.ofNat (index / rowCount client) + 1) * desktopCellWidth).toInt = _
    rw [hsucc, hwidth _ (by omega)]
    rfl
  · show (desktopMarginY +
      (Int32.ofNat (index % rowCount client) + 1) * desktopCellHeight).toInt = _
    rw [hsucc, hheight _ (by omega)]
    rfl

/-- Two cells of the grid share no point, and where there is room for one row all end above the
taskbar. -/
theorem gridCell_apart {client : Rect} (hbottom : 0 ≤ client.bottom.toInt) {i j : Nat} (hij : i ≠ j)
    (hi : i < 16777216) (hj : j < 16777216) (point : Point) :
    ¬(ptInRect (gridCell client i) point = true ∧ ptInRect (gridCell client j) point = true) := by
  obtain ⟨hleft, htop, hright, hbelow⟩ := gridCell_spec hbottom hi
  obtain ⟨hleft', htop', hright', hbelow'⟩ := gridCell_spec hbottom hj
  simp only [ptInRect, Bool.and_eq_true, decide_eq_true_eq, Int32.le_iff_toInt_le,
    Int32.lt_iff_toInt_lt]
  have hdiff : i / rowCount client ≠ j / rowCount client ∨
      i % rowCount client ≠ j % rowCount client := by
    by_contra hsame
    obtain ⟨hcolumn, hrow⟩ := not_or.1 hsame
    apply hij
    rw [← Nat.div_add_mod i (rowCount client), ← Nat.div_add_mod j (rowCount client),
      not_not.1 hcolumn, not_not.1 hrow]
  omega

/-- The number of an icon without a position. -/
theorem fallbackIndex_lt {items : List LauncherItem} {i j : Nat} {item : LauncherItem}
    (hitem : items[i]? = some item) (hnone : item.desktopPosition = none) (hij : i < j) :
    fallbackIndex (items.take i) < fallbackIndex (items.take j) := by
  obtain ⟨hi, hget⟩ := List.getElem?_eq_some_iff.1 hitem
  have hsucc : fallbackIndex (items.take (i + 1)) = fallbackIndex (items.take i) + 1 := by
    rw [List.take_succ_eq_append_getElem hi, fallbackIndex, List.countP_append, hget]
    simp [hnone, fallbackIndex]
  have hle : fallbackIndex (items.take (i + 1)) ≤ fallbackIndex (items.take j) :=
    (List.take_sublist_take_left hij).countP_le
  omega

/-- **The icons without a position do not cover each other**, and in a window that has room for a
row they end above the taskbar. -/
theorem fallback_cells_apart {items : List LauncherItem} (source : Rect) {client : Rect}
    (hmany : items.length < 16777216) (hbottom : 0 ≤ client.bottom.toInt) {i : Nat}
    {item : LauncherItem} (hi : items[i]? = some item) (hnone : item.desktopPosition = none) :
    (∀ j other, items[j]? = some other → other.desktopPosition = none → j ≠ i → ∀ point,
      ¬(ptInRect (cellForItem items source client item i) point = true ∧
        ptInRect (cellForItem items source client other j) point = true)) ∧
      (174 ≤ client.bottom.toInt →
        (cellForItem items source client item i).bottom.toInt ≤ client.bottom.toInt - 58) := by
  have hbound (k : Nat) : fallbackIndex (items.take k) < 16777216 :=
    Nat.lt_of_le_of_lt (Nat.le_trans List.countP_le_length (List.length_take_le' _ _)) hmany
  have hcell (k : Nat) (x : LauncherItem) (hx : x.desktopPosition = none) :
      cellForItem items source client x k = gridCell client (fallbackIndex (items.take k)) := by
    rw [cellForItem, hx]
  rw [hcell i item hnone]
  constructor
  · intro j other hj hother hne point
    rw [hcell j other hother]
    have hdiff : fallbackIndex (items.take i) ≠ fallbackIndex (items.take j) := by
      rcases Nat.lt_or_gt_of_ne hne with hlt | hgt
      · exact Nat.ne_of_gt (fallbackIndex_lt hj hother hlt)
      · exact Nat.ne_of_lt (fallbackIndex_lt hi hnone hgt)
    exact gridCell_apart hbottom hdiff (hbound i) (hbound j) point
  · intro hroom
    have hrows := rowCount_eq hbottom
    have hrow := Nat.mod_lt (fallbackIndex (items.take i)) (show 0 < rowCount client by omega)
    rw [(gridCell_spec hbottom (hbound i)).bottom]
    omega

theorem fallback_cells_apart_two :
    (cellForItem [unplaced, unplaced] {} ⟨0, 0, 800, 600⟩ unplaced 0).bottom.toInt ≤ 600 - 58 ∧
      ¬(ptInRect (cellForItem [unplaced, unplaced] {} ⟨0, 0, 800, 600⟩ unplaced 0)
          ⟨50, 120⟩ = true ∧
        ptInRect (cellForItem [unplaced, unplaced] {} ⟨0, 0, 800, 600⟩ unplaced 1)
          ⟨50, 120⟩ = true) := by
  obtain ⟨hapart, habove⟩ := @fallback_cells_apart [unplaced, unplaced] {} ⟨0, 0, 800, 600⟩
    (by decide) (by decide) 0 unplaced rfl rfl
  exact ⟨habove (by decide), hapart 1 unplaced rfl rfl (by decide) ⟨50, 120⟩⟩

end SecondDisplay.DisplayLauncher
