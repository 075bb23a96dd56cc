import SecondDisplay.Library.SortUnique

/-!
# What the safety scripts use of PowerShell

The scripts compare texts with `-eq` and `-ceq`, sort them, match a few patterns and convert the
values of JSON.  The comparisons depend on the culture, so they are a parameter here: `Culture` has
them with the few laws that the proofs use.
-/

namespace SecondDisplay.PowerShell

open SortUnique (Order sortUnique)

abbrev Text := List Char

/-- The characters of a literal. -/
abbrev text (literal : String) : Text := literal.toList

/-- Text operations that depend on the culture. -/
structure Culture where
  /-- `-eq` and `-ieq` on texts. -/
  eq : Text → Text → Bool
  eq_refl : ∀ s, eq s s = true
  eq_symm : ∀ s t, eq s t = true → eq t s = true
  /-- `-ceq` on texts. -/
  ceq : Text → Text → Bool
  ceq_refl : ∀ s, ceq s s = true
  ceq_symm : ∀ s t, ceq s t = true → ceq t s = true
  ceq_trans : ∀ s t u, ceq s t = true → ceq t u = true → ceq s u = true
  /-- `Sort-Object`. -/
  order : Order Text
  /-- Letters of which a pattern takes one for the other. -/
  fold : Char → Char
  /-- `Char.IsWhiteSpace`. -/
  isWhite : Char → Bool
  white_blank : isWhite ' ' = true
  /-- What matches a character of `oem0.inf` is no white space and no wildcard. -/
  plain_inf : ∀ c : Char, c.isDigit = true ∨ (∃ letter ∈ text "oem.inf", fold c = fold letter) →
    isWhite c = false ∧ c ∉ ['*', '?', '[', ']']
  /-- `ToUpperInvariant`. -/
  upper : Text → Text
  upper_upper : ∀ s, upper (upper s) = upper s
  /-- `[string]` of a number. -/
  numberText : Int → Text
  /-- `-eq` on a number and a text. -/
  numberEq : Int → Text → Bool
  /-- `[int]` of a text. -/
  parseInt : Text → Option Int

variable (culture : Culture)

/-! ### Texts -/

/-- `IsNullOrWhiteSpace`. -/
def isBlank (s : Text) : Bool := s.all culture.isWhite

/-- `Trim`. -/
def trim (s : Text) : Text :=
  ((s.dropWhile culture.isWhite).reverse.dropWhile culture.isWhite).reverse

/-- `($s -split '\s+')[0]`. -/
def firstToken (s : Text) : Text := s.takeWhile fun c => !culture.isWhite c

/-- Texts that a pattern takes for the same. -/
def sameLetters (pattern s : Text) : Bool := pattern.map culture.fold == s.map culture.fold

/-- `-match '^oem[0-9]+\.inf$'`; the `$` also stands in front of a last line feed. -/
def isPublishedInf (s : Text) : Bool :=
  let name := if s.getLast? = some '\n' then s.dropLast else s
  decide (8 ≤ name.length) && sameLetters culture (text "oem") (name.take 3) &&
    ((name.drop 3).take (name.length - 7)).all Char.isDigit &&
    sameLetters culture (text ".inf") (name.drop (name.length - 4))

/-- `-match '(?i)Parsec'`. -/
def namesParsec : Text → Bool
  | [] => false
  | c :: rest =>
    sameLetters culture (text "Parsec") ((c :: rest).take 6) || namesParsec rest

/-- `-like 'DISPLAY\PSCCDD0\*'`. -/
def isParsecMonitor (instanceId : Text) : Bool :=
  sameLetters culture (text "DISPLAY\\PSCCDD0\\") (instanceId.take 16)

/-- `Test-NoWildcardToken`. -/
def testNoWildcardToken (value : Text) : Bool :=
  !isBlank culture value && !value.any fun c => ['*', '?', '[', ']'].contains c

/-- `$value -eq 'text'`, where `$value` may be null. -/
def eqText (value : Option Text) (s : Text) : Bool := value.any fun t => culture.eq t s

/-! ### Values of JSON -/

/-- A value of JSON that is neither an array nor an object. -/
inductive Datum where
  | null
  | flag (b : Bool)
  | number (n : Int)
  | text (s : Text)
deriving DecidableEq

/-- `[string]$value`. -/
def Datum.castText : Datum → Text
  | .null => []
  | .flag b => if b then PowerShell.text "True" else PowerShell.text "False"
  | .number n => culture.numberText n
  | .text s => s

/-- `$value -eq 'text'`: the text is converted to the type of the value. -/
def Datum.eqText (value : Datum) (s : Text) : Bool :=
  match value with
  | .null => false
  | .flag b => b == !s.isEmpty
  | .number n => culture.numberEq n s
  | .text t => culture.eq t s

/-- `$value -eq $true`. -/
def Datum.eqTrue : Datum → Bool
  | .null => false
  | .flag b => b
  | .number n => n == 1
  | .text s => culture.eq s (PowerShell.text "True")

/-- `[bool]$value`. -/
def Datum.truth : Datum → Bool
  | .null => false
  | .flag b => b
  | .number n => n != 0
  | .text s => !s.isEmpty

/-- `[int]$value`. -/
def Datum.toInt : Datum → Option Int
  | .null => some 0
  | .flag b => some (if b then 1 else 0)
  | .number n => if -2147483648 ≤ n ∧ n ≤ 2147483647 then some n else none
  | .text s => culture.parseInt s

/-- `$value -ceq $other`. -/
def Datum.ceq (value other : Datum) : Bool :=
  match value, other with
  | .null, .null => true
  | .null, _ | _, .null => false
  | .flag b, other => b == other.truth
  | .number n, .number m => n == m
  | .number n, .flag b => n == if b then 1 else 0
  | .number n, .text s => culture.numberEq n s
  | .text s, other => culture.ceq s (other.castText culture)

/-! ### The letters of ASCII -/

theorem toUpper_toUpper (c : Char) : c.toUpper.toUpper = c.toUpper := by
  have ha : 'a'.val.toNat = 97 := rfl
  have hz : 'z'.val.toNat = 122 := rfl
  have hshift : ('A'.val - 'a'.val).toNat = 4294967264 := rfl
  unfold Char.toUpper
  split
  · rename_i hlower
    rw [dif_neg]
    intro hupper
    simp only [UInt32.le_iff_toNat_le, UInt32.toNat_add, ha, hz, hshift] at hlower hupper
    omega
  · rfl

theorem plain_of_oem_inf (c : Char)
    (h : c.isDigit = true ∨ ∃ letter ∈ text "oem.inf", c.toLower = letter.toLower) :
    c.isWhitespace = false ∧ c ∉ ['*', '?', '[', ']'] := by
  have hother : [' ', '\t', '\r', '\n', '*', '?', '[', ']'].all (fun c => !c.isDigit &&
      (text "oem.inf").all fun letter => c.toLower != letter.toLower) = true := by decide +kernel
  have hc : c ∉ [' ', '\t', '\r', '\n', '*', '?', '[', ']'] := by
    intro hc
    have hplain := List.all_eq_true.1 hother c hc
    rw [Bool.and_eq_true, Bool.not_eq_true', List.all_eq_true] at hplain
    obtain h | ⟨letter, hmem, h⟩ := h
    · rw [hplain.1] at h
      cases h
    · exact bne_iff_ne.1 (hplain.2 letter hmem) h
  simp only [List.mem_cons, not_or] at hc
  simp [Char.isWhitespace, hc]

/-- A culture that knows the letters of ASCII. -/
def asciiCulture : Culture where
  eq s t := s.map Char.toLower == t.map Char.toLower
  eq_refl _ := beq_self_eq_true _
  eq_symm _ _ h := beq_iff_eq.2 (beq_iff_eq.1 h).symm
  ceq s t := s == t
  ceq_refl _ := beq_self_eq_true _
  ceq_symm _ _ h := beq_iff_eq.2 (beq_iff_eq.1 h).symm
  ceq_trans _ _ _ h₁ h₂ := beq_iff_eq.2 ((beq_iff_eq.1 h₁).trans (beq_iff_eq.1 h₂))
  order := {
    le := fun s t => !List.lex (t.map Char.toLower) (s.map Char.toLower)
    total := fun s t => by
      simp only [Bool.not_eq_true', List.lex_eq_false_iff_ge]
      exact List.le_total (s.map Char.toLower) (t.map Char.toLower)
    trans := fun s t u h₁ h₂ => by
      simp only [Bool.not_eq_true', List.lex_eq_false_iff_ge] at h₁ h₂ ⊢
      exact List.le_trans h₁ h₂ }
  fold := Char.toLower
  isWhite := Char.isWhitespace
  white_blank := rfl
  plain_inf := plain_of_oem_inf
  upper s := s.map Char.toUpper
  upper_upper s := by
    rw [List.map_map]
    exact List.map_congr_left fun c _ => toUpper_toUpper c
  numberText n := (toString n).toList
  numberEq n s := (toString n).toList == s
  parseInt s := (String.ofList s).toInt?

end SecondDisplay.PowerShell
