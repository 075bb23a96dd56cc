import SecondDisplay.Library.Bytes

/-!
# Splitting a byte stream at start codes

A byte stream that may mix the two start codes `00 00 01` and `00 00 00 01` falls apart, in one
left-to-right pass that prefers the longer code, into leading bytes and a list of *sections*,
each a start code and the payload that follows it.  This file is the format alone: it says
nothing about offsets, buffers or what a payload means.

* `join_split`: the split loses no byte.
* `split_codeFree_payload`: no part of a split contains a start code.
* `split_sections`: the split undoes writing code-free payloads behind four-byte codes, however
  many zero bytes the payloads end in.
-/

namespace SecondDisplay.StartCodes

/-- The two start codes. -/
inductive StartCode
  | three
  | four
deriving DecidableEq, Repr

/-- The bytes of a start code. -/
def StartCode.bytes : StartCode → Bytes
  | .three => [0, 0, 1]
  | .four => [0, 0, 0, 1]

/-- The length of a start code. -/
def StartCode.length : StartCode → Nat
  | .three => 3
  | .four => 4

theorem StartCode.bytes_length (c : StartCode) : c.bytes.length = c.length := by
  cases c <;> rfl

/-- A start code and the bytes up to the next one. -/
structure Section where
  code : StartCode
  payload : Bytes
deriving DecidableEq, Repr

/-- The bytes a section occupies. -/
def Section.bytes (s : Section) : Bytes := s.code.bytes ++ s.payload

theorem Section.bytes_length (s : Section) :
    s.bytes.length = s.code.length + s.payload.length := by
  simp [Section.bytes, StartCode.bytes_length]

/-- The bytes before the first start code, and the sections from there on. -/
def split : Bytes → Bytes × List Section
  | 0 :: 0 :: 0 :: 1 :: rest => ([], ⟨.four, (split rest).1⟩ :: (split rest).2)
  | 0 :: 0 :: 1 :: rest => ([], ⟨.three, (split rest).1⟩ :: (split rest).2)
  | b :: rest => (b :: (split rest).1, (split rest).2)
  | [] => ([], [])

/-- The stream that leading bytes and sections came from. -/
def join (parts : Bytes × List Section) : Bytes := parts.1 ++ parts.2.flatMap Section.bytes

theorem join_split (data : Bytes) : join (split data) = data := by
  fun_induction split data with
  | case1 rest ih => simpa [join, Section.bytes, StartCode.bytes] using ih
  | case2 rest ih => simpa [join, Section.bytes, StartCode.bytes] using ih
  | case3 b rest _ _ ih => simpa [join] using ih
  | case4 => rfl

/-! ### Code-free strings -/

/-- No start code occurs in `p`: the longer code contains the shorter one. -/
def CodeFree (p : Bytes) : Prop := ¬ [0, 0, 1] <:+: p

instance (p : Bytes) : Decidable (CodeFree p) := inferInstanceAs (Decidable (¬ _))

theorem codeFree_nil : CodeFree [] := by decide

theorem CodeFree.tail {b : UInt8} {p : Bytes} (h : CodeFree (b :: p)) : CodeFree p :=
  fun hin => h (hin.trans (List.suffix_cons b p).isInfix)

theorem CodeFree.head_ne {x y z : UInt8} {p : Bytes} (h : CodeFree (x :: y :: z :: p)) :
    ¬ (x = 0 ∧ y = 0 ∧ z = 1) := by
  rintro ⟨rfl, rfl, rfl⟩
  exact h ⟨[], p, rfl⟩

/-- One byte in front of a code-free string makes a code only from two more bytes `0 1`. -/
theorem codeFree_cons {b : UInt8} {p : Bytes} (hp : CodeFree p)
    (hb : ∀ rest, b :: p ≠ 0 :: 0 :: 1 :: rest) : CodeFree (b :: p) := by
  rintro ⟨before, after, heq⟩
  cases before with
  | nil => exact hb after (by simpa using heq.symm)
  | cons c before =>
    have htail : before ++ [0, 0, 1] ++ after = p := by simpa using (List.cons.inj heq).2
    exact hp ⟨before, after, htail⟩

/-- The leading bytes of a split that is continued by one byte cannot start a code. -/
theorem split_codeFree (data : Bytes) :
    CodeFree (split data).1 ∧ ∀ s ∈ (split data).2, CodeFree s.payload := by
  fun_induction split data with
  | case1 rest ih =>
    refine ⟨codeFree_nil, fun s hs => ?_⟩
    rcases List.mem_cons.mp hs with rfl | hs
    · exact ih.1
    · exact ih.2 s hs
  | case2 rest ih =>
    refine ⟨codeFree_nil, fun s hs => ?_⟩
    rcases List.mem_cons.mp hs with rfl | hs
    · exact ih.1
    · exact ih.2 s hs
  | case3 b rest h4 h3 ih =>
    refine ⟨codeFree_cons ih.1 (fun tail heq => ?_), ih.2⟩
    have hjoin : rest = (split rest).1 ++ (split rest).2.flatMap Section.bytes :=
      (join_split rest).symm
    have hrest : (split rest).1 = 0 :: 1 :: tail := (List.cons.inj heq).2
    rw [hrest] at hjoin
    exact h3 _ (List.cons.inj heq).1 hjoin
  | case4 => exact ⟨codeFree_nil, by simp⟩

theorem split_codeFree_payload {data : Bytes} {s : Section} (h : s ∈ (split data).2) :
    CodeFree s.payload := (split_codeFree data).2 s h

/-- **The first code is found.**  No start code, of either length, begins in the leading bytes. -/
theorem not_code_before (code : StartCode) {data : Bytes} {offset : Nat}
    (h : offset < (split data).1.length) : ¬ code.bytes <+: data.drop offset := by
  fun_induction split data generalizing offset with
  | case1 rest => exact absurd h (Nat.not_lt_zero offset)
  | case2 rest => exact absurd h (Nat.not_lt_zero offset)
  | case3 b rest h4 h3 ih =>
    cases offset with
    | zero =>
      rintro ⟨tail, heq⟩
      rw [List.drop_zero] at heq
      cases code with
      | three => exact h3 tail (List.cons.inj heq).1.symm (List.cons.inj heq).2.symm
      | four => exact h4 tail (List.cons.inj heq).1.symm (List.cons.inj heq).2.symm
    | succ offset =>
      rw [List.drop_succ_cons]
      exact ih (Nat.lt_of_succ_lt_succ h)
  | case4 => exact absurd h (Nat.not_lt_zero offset)

/-! ### Splitting what was written -/

/-- A code-free string has no section. -/
theorem split_of_codeFree {p : Bytes} (h : CodeFree p) : split p = (p, []) := by
  fun_induction split p with
  | case1 rest => exact absurd h.tail.head_ne (by simp)
  | case2 rest => exact absurd h.head_ne (by simp)
  | case3 b rest _ _ ih => rw [ih h.tail]
  | case4 => rfl

/-- **The code is found at the right offset.**  Zero bytes that end a code-free string and run
straight into a four-byte code stay with the string. -/
theorem split_append_four {p : Bytes} (h : CodeFree p) (rest : Bytes) :
    split (p ++ 0 :: 0 :: 0 :: 1 :: rest) = (p, ⟨.four, (split rest).1⟩ :: (split rest).2) := by
  induction p with
  | nil => simp [split]
  | cons b p ih =>
    have h4 : ∀ r, b :: (p ++ 0 :: 0 :: 0 :: 1 :: rest) ≠ 0 :: 0 :: 0 :: 1 :: r := by
      -- three bytes of `p` decide: fewer are zeros of the code, more would contain a code
      rcases p with _ | ⟨x, _ | ⟨y, _ | ⟨z, p⟩⟩⟩
      · simp
      · simp
      · simp
      · intro r heq
        simp only [List.cons_append, List.cons.injEq] at heq
        exact h.tail.head_ne ⟨heq.2.1, heq.2.2.1, heq.2.2.2.1⟩
    have h3 : ∀ r, b :: (p ++ 0 :: 0 :: 0 :: 1 :: rest) ≠ 0 :: 0 :: 1 :: r := by
      rcases p with _ | ⟨x, _ | ⟨y, p⟩⟩
      · simp
      · simp
      · intro r heq
        simp only [List.cons_append, List.cons.injEq] at heq
        exact h.head_ne ⟨heq.1, heq.2.1, heq.2.2.1⟩
    rw [List.cons_append, split, ih h.tail]
    · exact fun r hb hr => h4 r (by rw [hb, hr])
    · exact fun r hb hr => h3 r (by rw [hb, hr])

/-- Sections that all carry the four-byte code. -/
def fourSections (payloads : List Bytes) : List Section := payloads.map fun p => ⟨.four, p⟩

/-- **The split undoes the writer.**  Code-free payloads written behind four-byte codes come back
as they were. -/
theorem split_sections {payloads : List Bytes} (h : ∀ p ∈ payloads, CodeFree p) :
    split ((fourSections payloads).flatMap Section.bytes) = ([], fourSections payloads) := by
  induction payloads with
  | nil => rfl
  | cons p payloads ih =>
    have hp : CodeFree p := h p List.mem_cons_self
    have ih' := ih fun q hq => h q (List.mem_cons_of_mem p hq)
    have hsplit : split (p ++ (fourSections payloads).flatMap Section.bytes) =
        (p, fourSections payloads) := by
      cases payloads with
      | nil => simpa [fourSections] using split_of_codeFree hp
      | cons q payloads =>
        simp only [fourSections, List.map_cons, List.flatMap_cons, Section.bytes,
          StartCode.bytes, List.cons_append, List.nil_append, split] at ih' ⊢
        rw [split_append_four hp]
        rw [Prod.mk.injEq] at ih'
        rw [ih'.2]
    simp only [fourSections, List.map_cons, List.flatMap_cons, Section.bytes, StartCode.bytes,
      List.cons_append, List.nil_append, split]
    rw [show payloads.map (fun p => (⟨.four, p⟩ : Section)) = fourSections payloads from rfl,
      hsplit]

end SecondDisplay.StartCodes
