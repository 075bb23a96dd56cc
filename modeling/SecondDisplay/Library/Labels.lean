import SecondDisplay.Library.Bytes
import Mathlib.Data.List.TakeWhile
import Mathlib.Tactic.Common

/-!
# Names of labels

A domain name is a list of labels.  On the wire each label follows its length and a zero ends the
name; as text the labels are joined by dots.  A byte string is read at an offset: what stands there
is `data.drop pos`.
-/

namespace SecondDisplay.Labels

/-! ### Reading at an offset -/

variable {data rest : Bytes} {b : UInt8} {pos : Nat}

theorem lt_length_of_drop (h : data.drop pos = b :: rest) : pos < data.length := by
  by_contra hge
  rw [List.drop_eq_nil_of_le (Nat.le_of_not_lt hge)] at h
  cases h

theorem drop_add_of_drop (xs : Bytes) (h : data.drop pos = xs ++ rest) :
    data.drop (pos + xs.length) = rest := by
  rw [← List.drop_drop, h, List.drop_left]

theorem le_length_of_drop {xs : Bytes} (h : data.drop pos = xs ++ rest) (hxs : xs ≠ []) :
    pos + xs.length ≤ data.length := by
  have hlength := congrArg List.length h
  have hpos := List.length_pos_iff.2 hxs
  rw [List.length_drop, List.length_append] at hlength
  omega

theorem getD_of_drop {xs : Bytes} (h : data.drop pos = xs ++ rest) (i : Nat)
    (hi : i < xs.length) : data.getD (pos + i) 0 = xs.getD i 0 := by
  rw [List.getD_eq_getElem?_getD, List.getD_eq_getElem?_getD, ← List.getElem?_drop, h,
    List.getElem?_append_left hi]

/-! ### Wire form and text -/

/-- The labels behind their lengths, and the zero that ends a name. -/
def wire (labels : List Bytes) : Bytes :=
  (labels.flatMap fun label => UInt8.ofNat label.length :: label) ++ [0]

/-- The labels joined by dots. -/
def dotted (labels : List Bytes) : Bytes := [0x2E].intercalate labels

@[simp] theorem wire_nil : wire [] = [0] := rfl

theorem wire_cons (label : Bytes) (labels : List Bytes) :
    wire (label :: labels) = UInt8.ofNat label.length :: (label ++ wire labels) := by
  rw [wire, List.flatMap_cons, List.cons_append, List.cons_append, List.append_assoc]
  rfl

theorem wire_ne_nil (labels : List Bytes) : wire labels ≠ [] :=
  List.append_ne_nil_of_right_ne_nil _ (List.cons_ne_nil 0 [])

@[simp] theorem dotted_nil : dotted [] = [] := rfl

@[simp] theorem dotted_singleton (label : Bytes) : dotted [label] = label := by
  simp [dotted, List.intercalate]

theorem dotted_cons_cons (label next : Bytes) (labels : List Bytes) :
    dotted (label :: next :: labels) = label ++ 0x2E :: dotted (next :: labels) := by
  simp [dotted, List.intercalate]

/-- A byte of the text is a dot or stands in a label. -/
theorem mem_dotted {labels : List Bytes} {b : UInt8} (h : b ∈ dotted labels) :
    b = 0x2E ∨ ∃ label ∈ labels, b ∈ label := by
  induction labels with
  | nil => cases h
  | cons label labels ih =>
    cases labels with
    | nil =>
      rw [dotted_singleton] at h
      exact .inr ⟨label, List.mem_cons_self, h⟩
    | cons next labels =>
      rw [dotted_cons_cons, List.mem_append, List.mem_cons] at h
      obtain hlabel | hdot | hrest := h
      · exact .inr ⟨label, List.mem_cons_self, hlabel⟩
      · exact .inl hdot
      · obtain hdot | ⟨other, hother, hmem⟩ := ih hrest
        · exact .inl hdot
        · exact .inr ⟨other, List.mem_cons_of_mem _ hother, hmem⟩

/-- Text that grows label by label. -/
def joinFrom (out : Bytes) (labels : List Bytes) : Bytes :=
  labels.foldl (fun out label => (if out ≠ [] then out ++ [0x2E] else out) ++ label) out

theorem joinFrom_cons (out label : Bytes) (labels : List Bytes) :
    joinFrom out (label :: labels) =
      joinFrom ((if out ≠ [] then out ++ [0x2E] else out) ++ label) labels := rfl

theorem joinFrom_of_ne_nil {out : Bytes} (hout : out ≠ []) (label : Bytes) (labels : List Bytes) :
    joinFrom out (label :: labels) = out ++ 0x2E :: dotted (label :: labels) := by
  induction labels generalizing out label with
  | nil => rw [joinFrom_cons, if_pos hout, dotted_singleton]; simp [joinFrom]
  | cons next labels ih =>
    have hgrown : out ++ [0x2E] ++ label ≠ [] := by simp
    rw [joinFrom_cons, if_pos hout, ih hgrown, dotted_cons_cons]
    simp

/-- Text that starts empty is the text of the labels, if none of them is empty. -/
theorem joinFrom_nil {labels : List Bytes} (hlabels : ∀ label ∈ labels, label ≠ []) :
    joinFrom [] labels = dotted labels := by
  cases labels with
  | nil => rfl
  | cons label labels =>
    rw [joinFrom_cons, if_neg (not_not_intro rfl), List.nil_append]
    cases labels with
    | nil => rw [dotted_singleton]; rfl
    | cons next labels =>
      rw [joinFrom_of_ne_nil (hlabels label List.mem_cons_self), dotted_cons_cons]

/-- Labels without dots come back from the text. -/
theorem splitOn_dotted {labels : List Bytes} (hne : labels ≠ [])
    (hdots : ∀ label ∈ labels, 0x2E ∉ label) : (dotted labels).splitOn 0x2E = labels :=
  List.splitOn_intercalate 0x2E hdots hne

/-- The text up to its first dot is the first label. -/
theorem takeWhile_dotted {label : Bytes} (labels : List Bytes) (hdots : 0x2E ∉ label) :
    (dotted (label :: labels)).takeWhile (fun b => b ≠ 0x2E) = label := by
  have hall : ∀ b ∈ label, decide (b ≠ 0x2E) = true := by
    intro b hb
    exact decide_eq_true fun heq => hdots (heq ▸ hb)
  cases labels with
  | nil =>
    rw [dotted_singleton, List.takeWhile_eq_self_iff.2 hall]
  | cons next labels =>
    rw [dotted_cons_cons, List.takeWhile_append_of_pos hall]
    simp

end SecondDisplay.Labels
