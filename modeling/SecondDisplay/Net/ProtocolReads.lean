import SecondDisplay.Library.Access
import SecondDisplay.Net.ProtocolNumber

/-!
# The field scanner reads only its input (`net/Protocol.cpp`)

Here the functions of the field scanner are written once more, with every `json[i]` and every
`substr` of the source as a checked access behind the guards that the source has.  Each of them
returns a value on every text (`findValueStart_ok` and the lemmas behind it), the same value as
the function of `SecondDisplay.Protocol` that it stands for: no access is ever outside.
-/

namespace SecondDisplay.ProtocolReads

open SecondDisplay.Access

/-! ### The scanner with checked accesses -/

/-- The loop that moves `previous` back over whitespace. -/
def skipSpaceBack (json : Bytes) (root : Nat) : Nat → Checked Nat
  | 0 => pure 0
  | previous + 1 =>
    if root < previous + 1 then do
      let c ← get json previous
      if isSpace c then skipSpaceBack json root previous else pure (previous + 1)
    else pure (previous + 1)

/-- The loop over the bytes of a string; `stringEnd` is the size if no quote closes it. -/
def stringEndFrom (json : Bytes) (pos : Nat) (escaped keyHasEscape : Bool) :
    Checked (Nat × Bool) :=
  if h : pos < json.length then do
    let sc ← get json pos
    if escaped then stringEndFrom json (pos + 1) false true
    else if sc = 0x5C then stringEndFrom json (pos + 1) true keyHasEscape
    else if sc = 0x22 then pure (pos, keyHasEscape)
    else stringEndFrom json (pos + 1) false keyHasEscape
  else pure (pos, keyHasEscape)
termination_by json.length - pos

/-- What the loop over a string returns: the index it stopped at, and what the unchecked loop
makes of it. -/
theorem stringEndFrom_ok (json : Bytes) (pos : Nat) (escaped keyHasEscape : Bool) :
    ∃ found, stringEndFrom json pos escaped keyHasEscape = .ok found ∧ pos ≤ found.1 ∧
      Protocol.stringEndFrom json pos escaped keyHasEscape =
        if found.1 < json.length then some found else none := by
  fun_induction Protocol.stringEndFrom json pos escaped keyHasEscape with
  | case1 pos keyHasEscape hpos ih =>
    obtain ⟨found, hok, hle, hsame⟩ := ih
    refine ⟨found, ?_, by omega, hsame⟩
    rw [stringEndFrom, dif_pos hpos, get_of_lt hpos, ok_bind, if_pos rfl, hok]
  | case2 pos escaped keyHasEscape hpos hplain hslash ih =>
    obtain ⟨found, hok, hle, hsame⟩ := ih
    refine ⟨found, ?_, by omega, hsame⟩
    rw [stringEndFrom, dif_pos hpos, get_of_lt hpos, ok_bind, if_neg hplain, if_pos hslash, hok]
  | case3 pos escaped keyHasEscape hpos hplain hslash hquote =>
    refine ⟨(pos, keyHasEscape), ?_, Nat.le_refl pos, (if_pos hpos).symm⟩
    rw [stringEndFrom, dif_pos hpos, get_of_lt hpos, ok_bind, if_neg hplain, if_neg hslash,
      if_pos hquote, pure_eq]
  | case4 pos escaped keyHasEscape hpos hplain hslash hquote ih =>
    obtain ⟨found, hok, hle, hsame⟩ := ih
    refine ⟨found, ?_, by omega, hsame⟩
    rw [stringEndFrom, dif_pos hpos, get_of_lt hpos, ok_bind, if_neg hplain, if_neg hslash,
      if_neg hquote, hok]
  | case5 pos escaped keyHasEscape hpos =>
    refine ⟨(pos, keyHasEscape), ?_, Nat.le_refl pos, (if_neg hpos).symm⟩
    rw [stringEndFrom, dif_neg hpos, pure_eq]

theorem stringEndFrom_ge {json : Bytes} {pos : Nat} {escaped keyHasEscape : Bool}
    {found : Nat × Bool} (h : stringEndFrom json pos escaped keyHasEscape = .ok found) :
    pos ≤ found.1 := by
  obtain ⟨found', hok, hle, -⟩ := stringEndFrom_ok json pos escaped keyHasEscape
  rw [h, Except.ok.injEq] at hok
  rw [hok]
  exact hle

/-- `memberName`. -/
def isMemberName (json : Bytes) (root depth pos : Nat) : Checked Bool := do
  let previous ← skipSpaceBack json root pos
  if depth = 1 ∧ root < previous then do
    let c ← get json (previous - 1)
    pure (c == 0x7B || c == 0x2C)
  else pure false

/-- The comparison of a member name with the key. -/
def isKey (json key : Bytes) (memberName keyHasEscape : Bool) (stringStart stringEnd : Nat) :
    Checked Bool :=
  if memberName && !keyHasEscape then do
    let name ← substr json stringStart (stringEnd - stringStart)
    pure (name == key)
  else pure false

/-- The position of the value behind the member name that ends at `stringEnd`. -/
def valueAfterName (json : Bytes) (stringEnd : Nat) : Checked (Option Nat) := do
  let colon ← skipWhile isSpace json (stringEnd + 1)
  if json.length ≤ colon then pure none
  else do
    let c ← get json colon
    if c = 0x3A then do
      let start ← skipWhile isSpace json (colon + 1)
      pure (some start)
    else pure none

/-- The loop of `FindValueStart` at `pos`. -/
def findFrom (json key : Bytes) (root depth pos : Nat) : Checked (Option Nat) :=
  if _h : pos < json.length ∧ 0 < depth then do
    let c ← get json pos
    if c = 0x7B ∨ c = 0x5B then findFrom json key root (depth + 1) (pos + 1)
    else if c = 0x7D ∨ c = 0x5D then findFrom json key root (depth - 1) (pos + 1)
    else if c ≠ 0x22 then findFrom json key root depth (pos + 1)
    else
      match _ : stringEndFrom json (pos + 1) false false with
      | .error fault => .error fault
      | .ok (stringEnd, keyHasEscape) =>
        if json.length ≤ stringEnd then pure none
        else do
          let memberName ← isMemberName json root depth pos
          let found ← isKey json key memberName keyHasEscape (pos + 1) stringEnd
          if found then valueAfterName json stringEnd
          else findFrom json key root depth (stringEnd + 1)
  else pure none
termination_by json.length - pos
decreasing_by
  all_goals first
    | omega
    | (have hend := stringEndFrom_ge (by assumption); omega)

/-- `FindValueStart`. -/
def findValueStart (json key : Bytes) : Checked (Option Nat) := do
  let root ← skipWhile isSpace json 0
  if json.length ≤ root then pure none
  else do
    let c ← get json root
    if c = 0x7B then findFrom json key root 1 (root + 1) else pure none

/-! ### It stays inside -/

theorem skipWhile_ok (p : UInt8 → Bool) (json : Bytes) (pos : Nat) :
    skipWhile p json pos = .ok (Protocol.skipWhile p json pos) := by
  fun_induction Protocol.skipWhile p json pos with
  | case1 pos hpos hp ih =>
    rw [skipWhile, dif_pos hpos, get_of_lt hpos, ok_bind, if_pos hp, ih]
  | case2 pos hpos hp =>
    rw [skipWhile, dif_pos hpos, get_of_lt hpos, ok_bind, if_neg hp, pure_eq]
  | case3 pos hpos => rw [skipWhile, dif_neg hpos, pure_eq]

theorem skipSpaceBack_ok {json : Bytes} {root pos : Nat} (hpos : pos ≤ json.length) :
    skipSpaceBack json root pos = .ok (Protocol.skipSpaceBack json root pos) ∧
      Protocol.skipSpaceBack json root pos ≤ pos := by
  induction pos with
  | zero => exact ⟨rfl, Nat.le_refl 0⟩
  | succ previous ih =>
    have hread : json[previous]? = some json[previous] := List.getElem?_eq_getElem hpos
    obtain ⟨hok, hle⟩ := ih (by omega)
    rw [skipSpaceBack, Protocol.skipSpaceBack, hread, Option.any_some]
    by_cases hroot : root < previous + 1
    · rw [if_pos hroot, get_of_lt hpos, ok_bind]
      by_cases hspace : isSpace json[previous] = true
      · rw [if_pos hspace, if_pos ⟨hroot, hspace⟩, hok]
        exact ⟨rfl, by omega⟩
      · rw [if_neg hspace, if_neg (fun h => hspace h.2), pure_eq]
        exact ⟨rfl, Nat.le_refl _⟩
    · rw [if_neg hroot, if_neg (fun h => hroot h.1), pure_eq]
      exact ⟨rfl, Nat.le_refl _⟩

theorem isMemberName_ok {json : Bytes} (root depth : Nat) {pos : Nat} (hpos : pos < json.length) :
    isMemberName json root depth pos = .ok (Protocol.isMemberName json root depth pos) := by
  obtain ⟨hok, hle⟩ := @skipSpaceBack_ok json root pos (Nat.le_of_lt hpos)
  rw [isMemberName, Protocol.isMemberName, hok, ok_bind]
  by_cases hname : depth = 1 ∧ root < Protocol.skipSpaceBack json root pos
  · have hinside : Protocol.skipSpaceBack json root pos - 1 < json.length := by omega
    rw [if_pos hname, get_of_lt hinside, ok_bind, pure_eq, List.getElem?_eq_getElem hinside]
    simp [hname]
  · rw [if_neg hname, pure_eq]
    congr 1
    by_cases hdepth : depth = 1
    · have hroot : ¬ root < Protocol.skipSpaceBack json root pos := fun h => hname ⟨hdepth, h⟩
      simp [hroot]
    · simp [hdepth]

theorem isKey_ok (json key : Bytes) (memberName keyHasEscape : Bool) {stringStart : Nat}
    (hstart : stringStart ≤ json.length) (stringEnd : Nat) :
    isKey json key memberName keyHasEscape stringStart stringEnd =
      .ok (memberName && !keyHasEscape &&
        Protocol.substr json stringStart stringEnd == key) := by
  rw [isKey, substr_of_le hstart, ok_bind, pure_eq, pure_eq]
  cases memberName && !keyHasEscape with
  | true => rfl
  | false => rfl

theorem valueAfterName_ok (json : Bytes) (stringEnd : Nat) :
    valueAfterName json stringEnd = .ok (Protocol.valueAfterName json stringEnd) := by
  rw [valueAfterName, Protocol.valueAfterName, skipWhile_ok, ok_bind]
  by_cases hcolon : json.length ≤ Protocol.skipWhile isSpace json (stringEnd + 1)
  · rw [if_pos hcolon, pure_eq, List.getElem?_eq_none hcolon]
    rfl
  · have hinside := Nat.lt_of_not_le hcolon
    rw [if_neg hcolon, get_of_lt hinside, ok_bind, List.getElem?_eq_getElem hinside]
    simp only [Option.some.injEq]
    split
    · rw [skipWhile_ok]
      rfl
    · rfl

/-- A string that is closed: the wanted name leads to its value, the loop goes on behind another. -/
theorem findFrom_quote {json key : Bytes} {root depth pos stringEnd : Nat} {keyHasEscape : Bool}
    (hpos : pos < json.length) (hdepth : 0 < depth)
    (hopen : ¬(json[pos] = 0x7B ∨ json[pos] = 0x5B))
    (hclose : ¬(json[pos] = 0x7D ∨ json[pos] = 0x5D)) (hquote : ¬json[pos] ≠ 0x22)
    (hend : Protocol.stringEndFrom json (pos + 1) false false = some (stringEnd, keyHasEscape)) :
    findFrom json key root depth pos =
      if (Protocol.isMemberName json root depth pos && !keyHasEscape &&
          Protocol.substr json (pos + 1) stringEnd == key) = true then
        .ok (Protocol.valueAfterName json stringEnd)
      else findFrom json key root depth (stringEnd + 1) := by
  obtain ⟨found, hok, -, hsame⟩ := stringEndFrom_ok json (pos + 1) false false
  rw [hend] at hsame
  have hinside : found.1 < json.length := by
    by_contra hout
    rw [if_neg hout] at hsame
    cases hsame
  rw [if_pos hinside, Option.some.injEq] at hsame
  rw [findFrom, dif_pos ⟨hpos, hdepth⟩, get_of_lt hpos, ok_bind, if_neg hopen, if_neg hclose,
    if_neg hquote]
  split
  · rename_i fault hfault
    rw [hok] at hfault
    cases hfault
  · rename_i stringEnd' keyHasEscape' hfound
    rw [hok, ← hsame, Except.ok.injEq, Prod.mk.injEq] at hfound
    obtain ⟨rfl, rfl⟩ := hfound
    rw [← hsame] at hinside
    rw [if_neg (Nat.not_le_of_lt hinside), isMemberName_ok root depth hpos, ok_bind,
      isKey_ok json key _ _ hpos, ok_bind, valueAfterName_ok]

theorem findFrom_ok (json key : Bytes) (root depth pos : Nat) :
    findFrom json key root depth pos = .ok (Protocol.findFrom json key root depth pos) := by
  fun_induction Protocol.findFrom json key root depth pos with
  | case1 depth pos hpos hopen ih =>
    rw [findFrom, dif_pos hpos, get_of_lt hpos.1, ok_bind, if_pos hopen, ih]
  | case2 depth pos hpos hopen hclose ih =>
    rw [findFrom, dif_pos hpos, get_of_lt hpos.1, ok_bind, if_neg hopen, if_pos hclose, ih]
  | case3 depth pos hpos hopen hclose hquote ih =>
    rw [findFrom, dif_pos hpos, get_of_lt hpos.1, ok_bind, if_neg hopen, if_neg hclose,
      if_pos hquote, ih]
  | case4 depth pos hpos hopen hclose hquote hend =>
    obtain ⟨found, hok, -, hsame⟩ := stringEndFrom_ok json (pos + 1) false false
    have hout : json.length ≤ found.1 := by
      by_contra hlt
      rw [hend, if_pos (by omega)] at hsame
      cases hsame
    rw [findFrom, dif_pos hpos, get_of_lt hpos.1, ok_bind, if_neg hopen, if_neg hclose,
      if_neg hquote]
    split
    · rename_i fault hfault
      rw [hok] at hfault
      cases hfault
    · rename_i stringEnd keyHasEscape hfound
      rw [hok, Except.ok.injEq] at hfound
      subst hfound
      rw [if_pos hout, pure_eq]
  | case5 depth pos hpos hopen hclose hquote stringEnd keyHasEscape hend hname =>
    rw [findFrom_quote hpos.1 hpos.2 hopen hclose hquote hend, if_pos hname]
  | case6 depth pos hpos hopen hclose hquote stringEnd keyHasEscape hend hname ih =>
    rw [findFrom_quote hpos.1 hpos.2 hopen hclose hquote hend, if_neg hname, ih]
  | case7 depth pos hpos => rw [findFrom, dif_neg hpos, pure_eq]

theorem findValueStart_ok (json key : Bytes) :
    findValueStart json key = .ok (Protocol.findValueStart json key) := by
  rw [findValueStart, Protocol.findValueStart, skipWhile_ok, ok_bind]
  by_cases hroot : json.length ≤ Protocol.skipWhile isSpace json 0
  · rw [if_pos hroot, pure_eq]
    simp only [List.getElem?_eq_none hroot]
    rfl
  · have hinside := Nat.lt_of_not_le hroot
    rw [if_neg hroot, get_of_lt hinside, ok_bind]
    simp only [List.getElem?_eq_getElem hinside, Option.some.injEq]
    split
    · exact findFrom_ok json key _ 1 _
    · rfl

/-! ### Fields -/

/-- `find` for a byte from `pos` on: `npos` behind the end, no access there. -/
def findByte (c : UInt8) (json : Bytes) (pos : Nat) : Checked (Option Nat) := do
  let stop ← skipWhile (fun b => b != c) json pos
  pure (if stop < json.length then some stop else none)

/-- `FindStringField`. -/
def findStringField (json key : Bytes) : Checked (Option Bytes) := do
  match ← findValueStart json key with
  | none => pure none
  | some start =>
    if json.length ≤ start then pure none
    else do
      let c ← get json start
      if c ≠ 0x22 then pure none
      else do
        match ← findByte 0x22 json (start + 1) with
        | none => pure none
        | some stop => do
          let text ← substr json (start + 1) (stop - start - 1)
          pure (some text)

theorem findByte_ok (c : UInt8) (json : Bytes) (pos : Nat) :
    findByte c json pos = .ok (Protocol.findByte c json pos) := by
  rw [findByte, skipWhile_ok, ok_bind, pure_eq]
  rfl

theorem findStringField_ok (json key : Bytes) :
    findStringField json key = .ok (Protocol.findStringField json key) := by
  rw [findStringField, Protocol.findStringField, findValueStart_ok, ok_bind]
  cases Protocol.findValueStart json key with
  | none => rfl
  | some start =>
    dsimp only
    by_cases hstart : json.length ≤ start
    · rw [if_pos hstart, List.getElem?_eq_none hstart, if_neg (by simp), pure_eq]
    · have hinside := Nat.lt_of_not_le hstart
      rw [if_neg hstart, get_of_lt hinside, ok_bind, List.getElem?_eq_getElem hinside]
      by_cases hquote : json[start] = 0x22
      · rw [if_neg (fun h => h hquote), if_pos (congrArg some hquote), findByte_ok, ok_bind]
        cases Protocol.findByte 0x22 json (start + 1) with
        | none => rfl
        | some stop =>
          dsimp only
          rw [substr_of_le hinside, ok_bind, pure_eq, Option.map_some, Protocol.substr,
            Nat.sub_sub]
      · rw [if_pos hquote, if_neg (fun h => hquote (Option.some.inj h)), pure_eq]

/-! ### Numbers -/

/-- Whether one of some bytes stands at a place, which may be behind the end. -/
def isAt (marks json : Bytes) (pos : Nat) : Checked Bool :=
  if pos < json.length then do
    let c ← get json pos
    pure (marks.contains c)
  else pure false

/-- The end of the integer part that begins at `whole`. -/
def wholeEnd (json : Bytes) (whole : Nat) : Checked (Option Nat) :=
  if json.length ≤ whole then pure none
  else do
    let c ← get json whole
    if c = 0x30 then
      if whole + 1 < json.length then do
        let d ← get json (whole + 1)
        pure (if isDigit d then none else some (whole + 1))
      else pure (some (whole + 1))
    else if 0x31 ≤ c ∧ c ≤ 0x39 then do
      let stop ← skipWhile isDigit json (whole + 1)
      pure (some stop)
    else pure none

/-- The end of the fraction that may begin at `pos`. -/
def fractionEnd (json : Bytes) (pos : Nat) : Checked (Option Nat) := do
  if ← isAt [0x2E] json pos then do
    let stop ← skipWhile isDigit json (pos + 1)
    pure (if stop = pos + 1 then none else some stop)
  else pure (some pos)

/-- The end of the exponent that may begin at `pos`. -/
def exponentEnd (json : Bytes) (pos : Nat) : Checked (Option Nat) := do
  if ← isAt [0x65, 0x45] json pos then do
    let signed ← isAt [0x2B, 0x2D] json (pos + 1)
    let digits := if signed then pos + 2 else pos + 1
    let stop ← skipWhile isDigit json digits
    pure (if stop = digits then none else some stop)
  else pure (some pos)

/-- The end of a number, if a comma or a closing brace follows. -/
def delimitedEnd (json : Bytes) (stop : Nat) : Checked (Option Nat) := do
  let delimiter ← skipWhile isSpace json stop
  if json.length ≤ delimiter then pure none
  else do
    let c ← get json delimiter
    pure (if c = 0x2C ∨ c = 0x7D then some stop else none)

/-- Go on with what was found. -/
def andThen {α β : Type} (found : Option α) (next : α → Checked (Option β)) :
    Checked (Option β) :=
  match found with
  | none => pure none
  | some x => next x

/-- The number grammar of `FindNumberField`. -/
def numberEnd (json : Bytes) (start : Nat) : Checked (Option Nat) := do
  let signed ← isAt [0x2D] json start
  let whole ← wholeEnd json (if signed then start + 1 else start)
  andThen whole fun whole => do
    let fraction ← fractionEnd json whole
    andThen fraction fun fraction => do
      let exponent ← exponentEnd json fraction
      andThen exponent fun stop => delimitedEnd json stop

variable {D : Type} (doubles : Protocol.Doubles D)

/-- `FindNumberField`. -/
def findNumberField (json key : Bytes) : Checked (Option D) := do
  let start ← findValueStart json key
  andThen start fun start => do
    let stop ← numberEnd json start
    andThen stop fun stop => do
      let token ← substr json start (stop - start)
      pure ((doubles.fromChars token).bind fun value =>
        if doubles.isFinite value then some value else none)

/-- `FindNumberToken`. -/
def findNumberToken (json key : Bytes) : Checked (Option Bytes) := do
  let start ← findValueStart json key
  andThen start fun start => do
    let value ← findNumberField doubles json key
    andThen value fun _ => do
      let stop ← skipWhile Protocol.isNumberByte json start
      let token ← substr json start (stop - start)
      pure (some token)

/-- `FindBoolField`. -/
def findBoolField (json key : Bytes) : Checked (Option Bool) := do
  let start ← findValueStart json key
  andThen start fun start => do
    let rest ← substr json start json.length
    if (ascii "true").isPrefixOf rest then pure (some true)
    else if (ascii "false").isPrefixOf rest then pure (some false)
    else pure none

theorem isAt_ok (marks json : Bytes) (pos : Nat) :
    isAt marks json pos = .ok (json[pos]?.any fun c => marks.contains c) := by
  rw [isAt]
  by_cases hpos : pos < json.length
  · rw [if_pos hpos, get_of_lt hpos, ok_bind, List.getElem?_eq_getElem hpos]
    rfl
  · rw [if_neg hpos, List.getElem?_eq_none (Nat.le_of_not_lt hpos)]
    rfl

theorem wholeEnd_ok (json : Bytes) (whole : Nat) :
    wholeEnd json whole = .ok (Protocol.wholeEnd json whole) := by
  rw [wholeEnd, Protocol.wholeEnd]
  by_cases hwhole : json.length ≤ whole
  · rw [if_pos hwhole, List.getElem?_eq_none hwhole, pure_eq]
  · have hinside := Nat.lt_of_not_le hwhole
    rw [if_neg hwhole, get_of_lt hinside, ok_bind, List.getElem?_eq_getElem hinside]
    dsimp only
    split
    · by_cases hnext : whole + 1 < json.length
      · rw [if_pos hnext, get_of_lt hnext, ok_bind, List.getElem?_eq_getElem hnext, pure_eq,
          Option.any_some]
      · rw [if_neg hnext, List.getElem?_eq_none (Nat.le_of_not_lt hnext), pure_eq]
        rfl
    · split
      · rw [skipWhile_ok, ok_bind, pure_eq]
      · rw [pure_eq]

theorem any_singleton (found : Option UInt8) (mark : UInt8) :
    (found.any fun c => [mark].contains c) = true ↔ found = some mark := by
  cases found with
  | none => simp
  | some c => simp

theorem any_pair (found : Option UInt8) (first second : UInt8) :
    (found.any fun c => [first, second].contains c) = true ↔
      found = some first ∨ found = some second := by
  cases found with
  | none => simp
  | some c => simp

theorem fractionEnd_ok (json : Bytes) (pos : Nat) :
    fractionEnd json pos = .ok (Protocol.fractionEnd json pos) := by
  rw [fractionEnd, Protocol.fractionEnd, isAt_ok, ok_bind]
  simp only [any_singleton]
  split
  · rw [skipWhile_ok, ok_bind, pure_eq]
  · rw [pure_eq]

theorem exponentEnd_ok (json : Bytes) (pos : Nat) :
    exponentEnd json pos = .ok (Protocol.exponentEnd json pos) := by
  rw [exponentEnd, Protocol.exponentEnd, isAt_ok, ok_bind]
  simp only [any_pair]
  split
  · rw [isAt_ok, ok_bind]
    simp only [any_pair]
    rw [skipWhile_ok, ok_bind, pure_eq]
  · rw [pure_eq]

theorem delimitedEnd_ok (json : Bytes) (stop : Nat) :
    delimitedEnd json stop = .ok (Protocol.delimitedEnd json stop) := by
  rw [delimitedEnd, Protocol.delimitedEnd, skipWhile_ok, ok_bind]
  by_cases hend : json.length ≤ Protocol.skipWhile isSpace json stop
  · rw [if_pos hend, List.getElem?_eq_none hend, pure_eq]
    rfl
  · have hinside := Nat.lt_of_not_le hend
    rw [if_neg hend, get_of_lt hinside, ok_bind, List.getElem?_eq_getElem hinside, pure_eq]
    simp only [Option.some.injEq]

/-- What is found without a fault is gone on with. -/
theorem andThen_ok {α β : Type} (found : Option α) {next : α → Checked (Option β)}
    {f : α → Option β} (hnext : ∀ x, found = some x → next x = .ok (f x)) :
    andThen found next = .ok (found.bind f) := by
  cases found with
  | none => rfl
  | some x => exact hnext x rfl

theorem numberEnd_ok (json : Bytes) (start : Nat) :
    numberEnd json start = .ok (Protocol.numberEnd json start) := by
  rw [numberEnd, Protocol.numberEnd_eq, isAt_ok, ok_bind]
  simp only [any_singleton]
  rw [wholeEnd_ok, ok_bind]
  refine andThen_ok _ fun whole _ => ?_
  rw [fractionEnd_ok, ok_bind]
  refine andThen_ok _ fun fraction _ => ?_
  rw [exponentEnd_ok, ok_bind]
  exact andThen_ok _ fun stop _ => delimitedEnd_ok json stop

theorem findNumberField_ok (json key : Bytes) :
    findNumberField doubles json key = .ok (Protocol.findNumberField doubles json key) := by
  rw [findNumberField, findValueStart_ok, ok_bind]
  refine andThen_ok _ fun start hstart => ?_
  rw [numberEnd_ok, ok_bind]
  refine andThen_ok _ fun stop _ => ?_
  rw [substr_of_le (Protocol.findValueStart_le hstart), ok_bind, pure_eq]
  rfl

theorem findNumberToken_ok (json key : Bytes) :
    findNumberToken doubles json key = .ok (Protocol.findNumberToken doubles json key) := by
  rw [findNumberToken, findValueStart_ok, ok_bind]
  refine andThen_ok _ fun start hstart => ?_
  rw [findNumberField_ok, ok_bind]
  refine andThen_ok _ fun value _ => ?_
  rw [skipWhile_ok, ok_bind, substr_of_le (Protocol.findValueStart_le hstart), ok_bind, pure_eq]
  rfl

theorem findBoolField_ok (json key : Bytes) :
    findBoolField json key = .ok (Protocol.findBoolField json key) := by
  rw [findBoolField, Protocol.findBoolField, findValueStart_ok, ok_bind]
  cases hfound : Protocol.findValueStart json key with
  | none => rfl
  | some start =>
    have htake : (json.drop start).take json.length = json.drop start :=
      List.take_of_length_le (by rw [List.length_drop]; omega)
    show (substr json start json.length >>= _) = _
    rw [substr_of_le (Protocol.findValueStart_le hfound), ok_bind, htake]
    dsimp only
    split
    · rfl
    · split
      · rfl
      · rfl

/-! ### Messages -/

/-- A number member, or `absent`. -/
def numberOr (json : Bytes) (key : String) (absent : D) : Checked D := do
  let value ← findNumberField doubles json (ascii key)
  pure (value.getD absent)

/-- An integer member, or `fallback`. -/
def integerOr (json : Bytes) (key : String) (fallback : Int) : Checked Int := do
  let value ← findNumberField doubles json (ascii key)
  pure (Protocol.numberToInt doubles value fallback)

/-- A string member, or the empty string. -/
def textOr (json : Bytes) (key : String) : Checked Bytes := do
  let text ← findStringField json (ascii key)
  pure (text.getD [])

/-- `ParseControlMessage`. -/
def parseControlMessage (json : Bytes) : Checked (Option (Protocol.ControlMessage D)) := do
  let msg := Protocol.ControlMessage.default doubles
  let type ← findStringField json (ascii "type")
  andThen type fun type =>
    if type = ascii "hello" then do
      let pixelsWide ← integerOr doubles json "pixelsWide" 0
      let pixelsHigh ← integerOr doubles json "pixelsHigh" 0
      let scale ← integerOr doubles json "scale" 1
      let device ← textOr json "device"
      let id ← textOr json "id"
      let pv ← integerOr doubles json "pv" 1
      pure (some { msg with
        type := .hello
        hello := ⟨pixelsWide, pixelsHigh, scale, device, id, pv⟩ })
    else if type = ascii "ping" then do
      let timestamp ← findNumberToken doubles json (ascii "t")
      pure (some { msg with type := .ping, ping := timestamp.getD [] })
    else if type = ascii "touch" then do
      let phase ← textOr json "phase"
      let x ← numberOr doubles json "x" doubles.zero
      let y ← numberOr doubles json "y" doubles.zero
      pure (some { msg with
        type := .touch
        touch := ⟨Protocol.parseTouchPhase phase, x, y⟩ })
    else if type = ascii "scroll" then do
      let dx ← numberOr doubles json "dx" doubles.zero
      let dy ← numberOr doubles json "dy" doubles.zero
      pure (some { msg with type := .scroll, scroll := ⟨dx, dy⟩ })
    else if type = ascii "pencil" then do
      let phase ← textOr json "phase"
      let x ← numberOr doubles json "x" doubles.zero
      let y ← numberOr doubles json "y" doubles.zero
      let pressure ← numberOr doubles json "pressure" doubles.zero
      let azimuth ← numberOr doubles json "azimuth" doubles.zero
      let altitude ← numberOr doubles json "altitude" doubles.upright
      pure (some { msg with
        type := .pencil
        pencil := ⟨Protocol.parsePencilPhase phase, x, y, pressure, azimuth, altitude⟩ })
    else if type = ascii "proximity" then do
      let entering ← findBoolField json (ascii "entering")
      let x ← numberOr doubles json "x" doubles.zero
      let y ← numberOr doubles json "y" doubles.zero
      pure (some { msg with type := .proximity, proximity := ⟨entering.getD false, x, y⟩ })
    else if type = ascii "kf" then pure (some { msg with type := .kf })
    else if type = ascii "stats" then pure (some { msg with type := .stats, stats := json })
    else if type = ascii "sleeping" then pure (some { msg with type := .sleeping })
    else if type = ascii "closing" then pure (some { msg with type := .closing })
    else pure (some { msg with type := .unknown })

theorem numberOr_ok (json : Bytes) (key : String) (absent : D) :
    numberOr doubles json key absent =
      .ok ((Protocol.findNumberField doubles json (ascii key)).getD absent) := by
  rw [numberOr, findNumberField_ok, ok_bind, pure_eq]

theorem integerOr_ok (json : Bytes) (key : String) (fallback : Int) :
    integerOr doubles json key fallback = .ok (Protocol.numberToInt doubles
      (Protocol.findNumberField doubles json (ascii key)) fallback) := by
  rw [integerOr, findNumberField_ok, ok_bind, pure_eq]

theorem textOr_ok (json : Bytes) (key : String) :
    textOr json key = .ok ((Protocol.findStringField json (ascii key)).getD []) := by
  rw [textOr, findStringField_ok, ok_bind, pure_eq]

/-- One branch of the dispatch. -/
theorem ite_ok {α : Type} {c : Prop} [Decidable c] {yes no : Checked α} {x y : α}
    (hyes : yes = .ok x) (hno : no = .ok y) :
    (if c then yes else no) = .ok (if c then x else y) := by
  by_cases hc : c
  · rw [if_pos hc, if_pos hc, hyes]
  · rw [if_neg hc, if_neg hc, hno]

theorem parseControlMessage_ok (json : Bytes) :
    parseControlMessage doubles json = .ok (Protocol.parseControlMessage doubles json) := by
  rw [parseControlMessage, Protocol.parseControlMessage, findStringField_ok, ok_bind]
  cases Protocol.findStringField json (ascii "type") with
  | none => rfl
  | some type =>
    refine ite_ok ?_ (ite_ok ?_ (ite_ok ?_ (ite_ok ?_ (ite_ok ?_ (ite_ok ?_ (ite_ok rfl
      (ite_ok rfl (ite_ok rfl (ite_ok rfl rfl)))))))))
    · simp only [integerOr_ok, textOr_ok, ok_bind, pure_eq]
    · simp only [findNumberToken_ok, ok_bind, pure_eq]
    · simp only [textOr_ok, numberOr_ok, ok_bind, pure_eq]
    · simp only [numberOr_ok, ok_bind, pure_eq]
    · simp only [textOr_ok, numberOr_ok, ok_bind, pure_eq]
    · simp only [findBoolField_ok, numberOr_ok, ok_bind, pure_eq]

/-! ### What is returned is part of the input -/

theorem substr_part (json : Bytes) (start stop : Nat) :
    Protocol.substr json start stop <:+: json :=
  (List.take_prefix _ _).isInfix.trans (List.drop_suffix _ _).isInfix

theorem findStringField_part {json key text : Bytes}
    (h : Protocol.findStringField json key = some text) : text <:+: json := by
  rw [Protocol.findStringField] at h
  split at h
  · cases h
  · split at h
    · obtain ⟨stop, -, rfl⟩ := Option.map_eq_some_iff.1 h
      exact substr_part json _ stop
    · cases h

theorem findNumberToken_part {json key token : Bytes}
    (h : Protocol.findNumberToken doubles json key = some token) : token <:+: json := by
  obtain ⟨start, -, h⟩ := Option.bind_eq_some_iff.1 h
  obtain ⟨value, -, h⟩ := Option.bind_eq_some_iff.1 h
  rw [← Option.some.inj h]
  exact substr_part json start _

theorem getD_part {found : Option Bytes} {json : Bytes}
    (h : ∀ text, found = some text → text <:+: json) : found.getD [] <:+: json := by
  cases found with
  | none => exact List.nil_infix
  | some text => exact h text rfl

/-- The texts that a message carries. -/
def texts (msg : Protocol.ControlMessage D) : List Bytes :=
  [msg.hello.device, msg.hello.id, msg.ping, msg.stats]

/-- Every text of a returned message is part of the input. -/
def PartsOf (json : Bytes) (msg : Option (Protocol.ControlMessage D)) : Prop :=
  ∀ m ∈ msg, ∀ text ∈ texts m, text <:+: json

theorem partsOf_some {json : Bytes} {msg : Protocol.ControlMessage D}
    (h : ∀ text ∈ texts msg, text = [] ∨ text <:+: json) : PartsOf json (some msg) := by
  intro m hm text htext
  cases hm
  obtain rfl | hpart := h text htext
  · exact List.nil_infix
  · exact hpart

/-- A message that carries no text. -/
theorem partsOf_empty {json : Bytes} {msg : Protocol.ControlMessage D}
    (h : texts msg = [[], [], [], []]) : PartsOf json (some msg) := by
  refine partsOf_some fun text htext => .inl ?_
  rw [h] at htext
  simpa using htext

theorem parseControlMessage_part (json : Bytes) :
    PartsOf json (Protocol.parseControlMessage doubles json) := by
  have htext : ∀ key : Bytes, (Protocol.findStringField json key).getD [] <:+: json :=
    fun key => getD_part fun text h => findStringField_part h
  have htoken : (Protocol.findNumberToken doubles json (ascii "t")).getD [] <:+: json :=
    getD_part fun token h => findNumberToken_part doubles h
  rw [Protocol.parseControlMessage]
  cases Protocol.findStringField json (ascii "type") with
  | none =>
    intro m hm
    cases hm
  | some type =>
    refine Protocol.forall_mem_ite ?_ (Protocol.forall_mem_ite ?_ (Protocol.forall_mem_ite
      (partsOf_empty rfl) (Protocol.forall_mem_ite (partsOf_empty rfl) (Protocol.forall_mem_ite
        (partsOf_empty rfl) (Protocol.forall_mem_ite (partsOf_empty rfl) (Protocol.forall_mem_ite
          (partsOf_empty rfl) (Protocol.forall_mem_ite ?_ (Protocol.forall_mem_ite
            (partsOf_empty rfl) (Protocol.forall_mem_ite (partsOf_empty rfl)
              (partsOf_empty rfl))))))))))
    · refine partsOf_some fun text hmem => ?_
      obtain rfl | rfl | rfl | rfl :
          text = (Protocol.findStringField json (ascii "device")).getD [] ∨
            text = (Protocol.findStringField json (ascii "id")).getD [] ∨
              text = [] ∨ text = [] := by
        simpa [texts, Protocol.ControlMessage.default] using hmem
      · exact .inr (htext (ascii "device"))
      · exact .inr (htext (ascii "id"))
      · exact .inl rfl
      · exact .inl rfl
    · refine partsOf_some fun text hmem => ?_
      obtain rfl | rfl : text = [] ∨
          text = (Protocol.findNumberToken doubles json (ascii "t")).getD [] := by
        simpa [texts, Protocol.ControlMessage.default, or_comm] using hmem
      · exact .inl rfl
      · exact .inr htoken
    · refine partsOf_some fun text hmem => ?_
      obtain rfl | rfl : text = [] ∨ text = json := by
        simpa [texts, Protocol.ControlMessage.default] using hmem
      · exact .inl rfl
      · exact .inr List.infix_rfl

/-- **Control parsing is safe on any bytes.**  Every function of the scanner returns a value on
every text, whatever the key: no index it reads is outside, no `substr` starts behind the end.
Every text that it returns is a contiguous part of the input. -/
theorem control_parsing_safe (json key : Bytes) :
    (findValueStart json key = .ok (Protocol.findValueStart json key) ∧
      findStringField json key = .ok (Protocol.findStringField json key) ∧
      findNumberField doubles json key = .ok (Protocol.findNumberField doubles json key) ∧
      findNumberToken doubles json key = .ok (Protocol.findNumberToken doubles json key) ∧
      findBoolField json key = .ok (Protocol.findBoolField json key) ∧
      parseControlMessage doubles json = .ok (Protocol.parseControlMessage doubles json)) ∧
    (∀ text ∈ Protocol.findStringField json key, text <:+: json) ∧
    (∀ token ∈ Protocol.findNumberToken doubles json key, token <:+: json) ∧
    (∀ msg ∈ Protocol.parseControlMessage doubles json, ∀ text ∈ texts msg, text <:+: json) := by
  refine ⟨⟨findValueStart_ok json key, findStringField_ok json key,
    findNumberField_ok doubles json key, findNumberToken_ok doubles json key,
    findBoolField_ok json key, parseControlMessage_ok doubles json⟩, ?_, ?_, ?_⟩
  · intro text htext
    exact findStringField_part htext
  · intro token htoken
    exact findNumberToken_part doubles htoken
  · exact parseControlMessage_part doubles json

end SecondDisplay.ProtocolReads
