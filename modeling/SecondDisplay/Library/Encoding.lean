import Mathlib.Data.List.DropRight
import Mathlib.Data.List.Basic

/-!
# Text in two encodings

A text is a list of characters, and an encoding writes each character as a few units.  A class of
characters is marked by an encoding when each of them is a single unit that occurs in no other
character (`Marks`).  Then cutting the encoded text at the marked units is the same as cutting the
characters (`Marks.takeWhile`, `Marks.dropWhile`, `Marks.trim`, `Marks.splitOnP`).

UTF-8 and UTF-16 both mark every class of ASCII characters (`utf8_marks`, `utf16_marks`).
-/

namespace SecondDisplay.Encoding

variable {α β : Type*}

/-! ### Marked characters -/

/-- The encoding writes the characters of class `p` as single units of class `q`, and no unit of
class `q` occurs in the others. -/
structure Marks (encode : α → List β) (p : α → Bool) (q : β → Bool) : Prop where
  marked : ∀ c, p c = true → ∃ b, encode c = [b] ∧ q b = true
  plain : ∀ c, p c = false → encode c ≠ [] ∧ ∀ b ∈ encode c, q b = false

namespace Marks

variable {encode : α → List β} {p : α → Bool} {q : β → Bool}

theorem encode_ne_nil (h : Marks encode p q) (c : α) : encode c ≠ [] := by
  cases hc : p c with
  | true =>
    obtain ⟨b, hb, -⟩ := h.marked c hc
    rw [hb]
    exact List.cons_ne_nil b []
  | false => exact (h.plain c hc).1

theorem flatMap_eq_nil (h : Marks encode p q) {cs : List α} :
    cs.flatMap encode = [] ↔ cs = [] := by
  cases cs with
  | nil => exact ⟨fun _ => rfl, fun _ => rfl⟩
  | cons c cs =>
    rw [List.flatMap_cons, List.append_eq_nil_iff]
    exact ⟨fun hnil => absurd hnil.1 (h.encode_ne_nil c), fun hnil => by cases hnil⟩

theorem forall_mem_flatMap (h : Marks encode p q) {cs : List α} :
    (∀ b ∈ cs.flatMap encode, q b = false) ↔ ∀ c ∈ cs, p c = false := by
  constructor
  · intro hall c hc
    by_contra hp
    rw [Bool.not_eq_false] at hp
    obtain ⟨b, hb, hq⟩ := h.marked c hp
    have hmem : b ∈ cs.flatMap encode :=
      List.mem_flatMap.2 ⟨c, hc, hb ▸ List.mem_singleton.2 rfl⟩
    rw [hall b hmem] at hq
    cases hq
  · intro hall b hb
    obtain ⟨c, hc, hmem⟩ := List.mem_flatMap.1 hb
    exact (h.plain c (hall c hc)).2 b hmem

theorem takeWhile_append_of_all {r : β → Bool} {xs : List β} (hall : ∀ b ∈ xs, r b = true)
    (ys : List β) : (xs ++ ys).takeWhile r = xs ++ ys.takeWhile r := by
  induction xs with
  | nil => rfl
  | cons x xs ih =>
    rw [List.cons_append, List.takeWhile_cons_of_pos (hall x List.mem_cons_self),
      ih fun b hb => hall b (List.mem_cons_of_mem x hb), List.cons_append]

theorem dropWhile_append_of_all {r : β → Bool} {xs : List β} (hall : ∀ b ∈ xs, r b = true)
    (ys : List β) : (xs ++ ys).dropWhile r = ys.dropWhile r := by
  induction xs with
  | nil => rfl
  | cons x xs ih =>
    rw [List.cons_append, List.dropWhile_cons_of_pos (hall x List.mem_cons_self),
      ih fun b hb => hall b (List.mem_cons_of_mem x hb)]

/-- What stands before the first marked character. -/
theorem takeWhile (h : Marks encode p q) (cs : List α) :
    (cs.flatMap encode).takeWhile (fun b => !q b) =
      (cs.takeWhile fun c => !p c).flatMap encode := by
  induction cs with
  | nil => rfl
  | cons c cs ih =>
    rw [List.flatMap_cons]
    cases hc : p c with
    | true =>
      obtain ⟨b, hb, hq⟩ := h.marked c hc
      rw [hb, List.singleton_append, List.takeWhile_cons_of_neg (by simp [hq]),
        List.takeWhile_cons_of_neg (by simp [hc]), List.flatMap_nil]
    | false =>
      rw [takeWhile_append_of_all (fun b hb => by simp [(h.plain c hc).2 b hb]), ih,
        List.takeWhile_cons_of_pos (by simp [hc]), List.flatMap_cons]

theorem getLast?_flatMap (h : Marks encode p q) {c : α} (hc : p c = false) (cs : List α) :
    ∃ ys b, (cs ++ [c]).flatMap encode = ys ++ [b] ∧ q b = false := by
  obtain ⟨hne, hall⟩ := h.plain c hc
  refine ⟨cs.flatMap encode ++ (encode c).dropLast, (encode c).getLast hne, ?_,
    hall _ (List.getLast_mem hne)⟩
  rw [List.flatMap_append, List.flatMap_singleton, List.append_assoc,
    List.dropLast_append_getLast hne]

/-- Marked characters dropped from the front. -/
theorem dropWhile (h : Marks encode p q) (cs : List α) :
    (cs.flatMap encode).dropWhile q = (cs.dropWhile p).flatMap encode := by
  induction cs with
  | nil => rfl
  | cons c cs ih =>
    cases hc : p c with
    | true =>
      obtain ⟨b, hb, hq⟩ := h.marked c hc
      rw [List.flatMap_cons, hb, List.singleton_append, List.dropWhile_cons_of_pos hq, ih,
        List.dropWhile_cons_of_pos hc]
    | false =>
      obtain ⟨hne, hall⟩ := h.plain c hc
      rw [List.dropWhile_cons_of_neg (by simp [hc]), List.flatMap_cons]
      cases hcode : encode c with
      | nil => exact absurd hcode hne
      | cons b bs =>
        rw [List.cons_append, List.dropWhile_cons_of_neg]
        rw [hall b (hcode ▸ List.mem_cons_self)]
        exact Bool.false_ne_true

/-- Marked characters dropped from the end. -/
theorem rdropWhile (h : Marks encode p q) (cs : List α) :
    (cs.flatMap encode).rdropWhile q = (cs.rdropWhile p).flatMap encode := by
  induction cs using List.reverseRecOn with
  | nil => rfl
  | append_singleton cs c ih =>
    cases hc : p c with
    | true =>
      obtain ⟨b, hb, hq⟩ := h.marked c hc
      rw [List.flatMap_append, List.flatMap_singleton, hb, List.rdropWhile_concat_pos _ _ _ hq, ih,
        List.rdropWhile_concat_pos _ _ _ hc]
    | false =>
      obtain ⟨ys, b, heq, hq⟩ := h.getLast?_flatMap hc cs
      rw [List.rdropWhile_concat_neg _ _ _ (by simp [hc]), heq,
        List.rdropWhile_concat_neg _ _ _ (by simp [hq])]

/-- The pieces between marked characters. -/
theorem splitOnP (h : Marks encode p q) (cs : List α) :
    (cs.flatMap encode).splitOnP q = (cs.splitOnP p).map (·.flatMap encode) := by
  suffices key : ∀ acc : List α, (∀ c ∈ acc, p c = false) →
      ((acc ++ cs).flatMap encode).splitOnP q = ((acc ++ cs).splitOnP p).map (·.flatMap encode) from
    key [] fun c hc => by cases hc
  induction cs with
  | nil =>
    intro acc hacc
    rw [List.append_nil, List.splitOnP_eq_singleton hacc,
      List.splitOnP_eq_singleton (h.forall_mem_flatMap.2 hacc)]
    rfl
  | cons c cs ih =>
    intro acc hacc
    cases hc : p c with
    | true =>
      obtain ⟨b, hb, hq⟩ := h.marked c hc
      have hrest := ih [] fun c hc => by cases hc
      rw [List.nil_append] at hrest
      rw [List.splitOnP_append_cons acc cs hc, List.flatMap_append, List.flatMap_cons, hb,
        List.singleton_append, List.splitOnP_append_cons _ _ hq, hrest,
        List.splitOnP_eq_singleton hacc,
        List.splitOnP_eq_singleton (h.forall_mem_flatMap.2 hacc), List.map_append]
      rfl
    | false =>
      rw [← List.singleton_append, ← List.append_assoc]
      refine ih (acc ++ [c]) fun d hd => ?_
      obtain hd | hd := List.mem_append.1 hd
      · exact hacc d hd
      · rw [List.mem_singleton.1 hd, hc]

end Marks

/-- The pieces of a list hold its elements, but no separator. -/
theorem mem_of_mem_splitOnP {p : α → Bool} {xs piece : List α} (hpiece : piece ∈ xs.splitOnP p)
    {x : α} (hx : x ∈ piece) : x ∈ xs ∧ p x = false := by
  induction xs generalizing piece with
  | nil =>
    rw [List.splitOnP_nil, List.mem_singleton] at hpiece
    rw [hpiece] at hx
    cases hx
  | cons y xs ih =>
    rw [List.splitOnP_cons_eq_if_modifyHead] at hpiece
    cases hy : p y with
    | true =>
      rw [if_pos hy, List.mem_cons] at hpiece
      obtain rfl | hpiece := hpiece
      · cases hx
      · obtain ⟨hmem, hp⟩ := ih hpiece hx
        exact ⟨List.mem_cons_of_mem y hmem, hp⟩
    | false =>
      obtain ⟨first, rest, hsplit⟩ := List.exists_cons_of_ne_nil (List.splitOnP_ne_nil p xs)
      rw [hsplit] at ih
      rw [if_neg (by simp [hy]), hsplit, List.modifyHead_cons, List.mem_cons] at hpiece
      obtain rfl | hpiece := hpiece
      · obtain rfl | hx := List.mem_cons.1 hx
        · exact ⟨List.mem_cons_self, hy⟩
        · obtain ⟨hmem, hp⟩ := ih List.mem_cons_self hx
          exact ⟨List.mem_cons_of_mem y hmem, hp⟩
      · obtain ⟨hmem, hp⟩ := ih (List.mem_cons_of_mem first hpiece) hx
        exact ⟨List.mem_cons_of_mem y hmem, hp⟩

/-! ### UTF-8 and UTF-16 -/

/-- A text in UTF-8. -/
def utf8 (cs : List Char) : List UInt8 := cs.flatMap String.utf8EncodeChar

/-- A character in UTF-16. -/
def utf16Char (c : Char) : List UInt16 :=
  if c.toNat < 0x10000 then [UInt16.ofNat c.toNat]
  else [UInt16.ofNat (0xD800 + (c.toNat - 0x10000) / 0x400),
    UInt16.ofNat (0xDC00 + (c.toNat - 0x10000) % 0x400)]

/-- A text in UTF-16. -/
def utf16 (cs : List Char) : List UInt16 := cs.flatMap utf16Char

/-- UTF-8 marks the ASCII characters. -/
theorem utf8_marks {q : Nat → Bool} (hascii : ∀ n, q n = true → n < 0x80) :
    Marks String.utf8EncodeChar (fun c => q c.toNat) (fun b => q b.toNat) := by
  have plainByte : ∀ n, 0x80 ≤ n → n < 0x100 → q (UInt8.ofNat n).toNat = false := by
    intro n hlow hhigh
    rw [UInt8.toNat_ofNat_of_lt' hhigh]
    by_contra hq
    rw [Bool.not_eq_false] at hq
    have := hascii n hq
    omega
  constructor
  · intro c hc
    have hlt := hascii _ hc
    refine ⟨UInt8.ofNat c.toNat, ?_, ?_⟩
    · rw [String.utf8EncodeChar]
      exact if_pos (show c.toNat ≤ 0x7F by omega)
    · rw [UInt8.toNat_ofNat_of_lt' (show c.toNat < 2 ^ 8 by omega)]
      exact hc
  · intro c hc
    rw [String.utf8EncodeChar]
    have hval : c.val.toNat = c.toNat := rfl
    simp only [hval]
    split
    · refine ⟨List.cons_ne_nil _ _, fun b hb => ?_⟩
      rw [List.mem_singleton.1 hb, UInt8.toNat_ofNat_of_lt' (show c.toNat < 2 ^ 8 by omega)]
      exact hc
    · split
      · refine ⟨List.cons_ne_nil _ _, fun b hb => ?_⟩
        simp only [List.mem_cons, List.not_mem_nil, or_false] at hb
        obtain rfl | rfl := hb <;> exact plainByte _ (by omega) (by omega)
      · split
        · refine ⟨List.cons_ne_nil _ _, fun b hb => ?_⟩
          simp only [List.mem_cons, List.not_mem_nil, or_false] at hb
          obtain rfl | rfl | rfl := hb <;> exact plainByte _ (by omega) (by omega)
        · refine ⟨List.cons_ne_nil _ _, fun b hb => ?_⟩
          simp only [List.mem_cons, List.not_mem_nil, or_false] at hb
          obtain rfl | rfl | rfl | rfl := hb <;> exact plainByte _ (by omega) (by omega)

theorem toNat_unit {n : Nat} (h : n < 0x10000) : (UInt16.ofNat n).toNat = n :=
  UInt16.toNat_ofNat_of_lt' h

/-- UTF-16 marks the ASCII characters. -/
theorem utf16_marks {q : Nat → Bool} (hascii : ∀ n, q n = true → n < 0x80) :
    Marks utf16Char (fun c => q c.toNat) (fun b => q b.toNat) := by
  have plainUnit : ∀ n, 0x80 ≤ n → n < 0x10000 → q (UInt16.ofNat n).toNat = false := by
    intro n hlow hhigh
    rw [toNat_unit hhigh]
    by_contra hq
    rw [Bool.not_eq_false] at hq
    have := hascii n hq
    omega
  have hmax : ∀ c : Char, c.toNat < 0x110000 := fun c => by
    have := c.valid
    have hval : c.val.toNat = c.toNat := rfl
    simp only [UInt32.isValidChar, Nat.isValidChar] at this
    omega
  constructor
  · intro c hc
    have hlt := hascii _ hc
    refine ⟨UInt16.ofNat c.toNat, if_pos (by omega), ?_⟩
    rw [toNat_unit (by omega)]
    exact hc
  · intro c hc
    have hlt := hmax c
    rw [utf16Char]
    split
    · rename_i hsmall
      refine ⟨List.cons_ne_nil _ _, fun b hb => ?_⟩
      rw [List.mem_singleton.1 hb, toNat_unit hsmall]
      exact hc
    · refine ⟨List.cons_ne_nil _ _, fun b hb => ?_⟩
      simp only [List.mem_cons, List.not_mem_nil, or_false] at hb
      obtain rfl | rfl := hb <;> exact plainUnit _ (by omega) (by omega)

/-! ### Decoding -/

/-- The text of UTF-8 units; malformed units give one replacement character. -/
def decodeUtf8 (units : List UInt8) : List Char :=
  match units.toByteArray.utf8Decode? with
  | some cs => cs.toList
  | none => [Char.ofNat 0xFFFD]

theorem decodeUtf8_utf8 (cs : List Char) : decodeUtf8 (utf8 cs) = cs := by
  have hdecode : (utf8 cs).toByteArray.utf8Decode? = some cs.toArray :=
    List.utf8Decode?_utf8Encode
  rw [decodeUtf8, hdecode]

/-- A unit of its own; a lone surrogate gives a replacement character. -/
def decodeUnit (unit : UInt16) : Char :=
  if 0xD800 ≤ unit.toNat ∧ unit.toNat < 0xE000 then Char.ofNat 0xFFFD else Char.ofNat unit.toNat

/-- A pair of surrogates. -/
def decodePair (high low : UInt16) : Char :=
  Char.ofNat (0x10000 + (high.toNat - 0xD800) * 0x400 + (low.toNat - 0xDC00))

/-- The text of UTF-16 units. -/
def decodeUtf16 : List UInt16 → List Char
  | [] => []
  | [unit] => [decodeUnit unit]
  | unit :: next :: units =>
    if 0xD800 ≤ unit.toNat ∧ unit.toNat < 0xDC00 ∧ 0xDC00 ≤ next.toNat ∧ next.toNat < 0xE000 then
      decodePair unit next :: decodeUtf16 units
    else decodeUnit unit :: decodeUtf16 (next :: units)

theorem toNat_cases (c : Char) :
    c.toNat < 0xD800 ∨ (0xE000 ≤ c.toNat ∧ c.toNat < 0x110000) := by
  have hvalid := c.valid
  have hval : c.val.toNat = c.toNat := rfl
  simp only [UInt32.isValidChar, Nat.isValidChar] at hvalid
  omega

theorem decodeUnit_of_small {c : Char} (hsmall : c.toNat < 0x10000) :
    decodeUnit (UInt16.ofNat c.toNat) = c := by
  rw [decodeUnit, toNat_unit hsmall, if_neg (by have := toNat_cases c; omega), Char.ofNat_toNat]

theorem decodePair_of_large {c : Char} (hlarge : 0x10000 ≤ c.toNat) :
    decodePair (UInt16.ofNat (0xD800 + (c.toNat - 0x10000) / 0x400))
      (UInt16.ofNat (0xDC00 + (c.toNat - 0x10000) % 0x400)) = c := by
  have hcases := toNat_cases c
  rw [decodePair, toNat_unit (by omega), toNat_unit (by omega),
    show 0x10000 + (0xD800 + (c.toNat - 0x10000) / 0x400 - 0xD800) * 0x400 +
      (0xDC00 + (c.toNat - 0x10000) % 0x400 - 0xDC00) = c.toNat from by omega, Char.ofNat_toNat]

theorem decodeUtf16_utf16 (cs : List Char) : decodeUtf16 (utf16 cs) = cs := by
  induction cs with
  | nil => rfl
  | cons c cs ih =>
    have hcases := toNat_cases c
    show decodeUtf16 (utf16Char c ++ utf16 cs) = c :: cs
    by_cases hsmall : c.toNat < 0x10000
    · rw [utf16Char, if_pos hsmall, List.singleton_append]
      cases hrest : utf16 cs with
      | nil =>
        rw [hrest] at ih
        rw [decodeUtf16, decodeUnit_of_small hsmall, ← ih]
        rfl
      | cons next units =>
        rw [hrest] at ih
        rw [decodeUtf16, if_neg (by rw [toNat_unit hsmall]; omega), decodeUnit_of_small hsmall, ih]
    · rw [utf16Char, if_neg hsmall]
      show decodeUtf16 (_ :: _ :: utf16 cs) = _
      rw [decodeUtf16,
        if_pos (by rw [toNat_unit (by omega), toNat_unit (by omega)]; omega),
        decodePair_of_large (by omega), ih]

end SecondDisplay.Encoding
