import SecondDisplay.App.Redaction
import SecondDisplay.Library.Runs

/-!
# IPv4 addresses in reports (`app/UiModel.cpp`)

Reports are meant to hold no IPv4 address.  The second pass of `RedactDiagnosticsText` takes the
digits and dots that stand together for one text and replaces it if it is an address.  The full stop
of a sentence is one of these dots, so an address in front of it stays, and only such a one does
(`addresses_removed_iff`).
-/

namespace SecondDisplay.Redaction

open Blanks (blank Fills Begins HasRun RunAt shownAt)

/-! ### Addresses -/

/-- A dotted quad. -/
def IsQuad (address : Bytes) : Prop :=
  ∃ a b c d, (∀ octet ∈ [a, b, c, d], isOctet octet = true) ∧
    address = a ++ 0x2E :: (b ++ 0x2E :: (c ++ 0x2E :: d))

/-- An address remains in a text: in front of it stands neither a digit nor a dot, and behind it
neither, or a full stop that no digit follows. -/
def Remains (address text : Bytes) : Prop :=
  ∃ left right, text = left ++ (address ++ right) ∧
    (∀ b ∈ left.getLast?, isAddressByte b = false) ∧
    ((∀ b ∈ right.head?, isAddressByte b = false) ∨
      ∃ rest, right = 0x2E :: rest ∧ ∀ b ∈ rest.head?, isDigit b = false)

/-- In the report without the profile paths, an address is followed by a full stop that no digit
follows, and it is not part of the identifier of a device. -/
def BeforeStop (userProfile text : Bytes) : Prop :=
  ∃ left address right, IsQuad address ∧
    withoutProfiles userProfile text = left ++ (address.map some ++ some 0x2E :: right) ∧
    ¬Begins isAddressByte left.reverse ∧ ¬Begins isDigit right ∧
    ¬InDevice (withoutAddresses userProfile text) left.length

theorem isOctet_iff {part : Bytes} : isOctet part = true ↔ part ≠ [] ∧ part.length ≤ 3 ∧
    (∀ b ∈ part, isDigit b = true) ∧ JsonParser.digitsValue part ≤ 255 := by
  rw [isOctet]
  simp only [Bool.and_eq_true, decide_eq_true_eq, List.all_eq_true, and_assoc]

theorem isDigit_ne_dot : ∀ b, isDigit b = true → b ≠ 0x2E :=
  fun _ h => ne_of_class h rfl

theorem intercalate_four (a b c d : Bytes) : ([0x2E] : Bytes).intercalate [a, b, c, d] =
    a ++ 0x2E :: (b ++ 0x2E :: (c ++ 0x2E :: d)) := by
  show a ++ ([0x2E] ++ (b ++ ([0x2E] ++ (c ++ ([0x2E] ++ (d ++ [])))))) = _
  rw [List.append_nil]
  rfl

theorem dot_not_mem_octet {part : Bytes} (h : isOctet part = true) : 0x2E ∉ part := by
  intro hmem
  exact isDigit_ne_dot 0x2E ((isOctet_iff.1 h).2.2.1 _ hmem) rfl

/-- `IsIpv4` takes the dotted quads. -/
theorem isIpv4_iff {value : Bytes} : isIpv4 value = true ↔ IsQuad value := by
  rw [isIpv4, Bool.and_eq_true, decide_eq_true_eq, List.all_eq_true]
  constructor
  · rintro ⟨hall, hlength⟩
    obtain ⟨a, b, c, d, hparts⟩ : ∃ a b c d, value.splitOn 0x2E = [a, b, c, d] := by
      match hsplit : value.splitOn 0x2E with
      | [a, b, c, d] => exact ⟨a, b, c, d, rfl⟩
      | [] | [_] | [_, _] | [_, _, _] | _ :: _ :: _ :: _ :: _ :: _ =>
        rw [hsplit] at hlength
        simp at hlength
    refine ⟨a, b, c, d, by rwa [hparts] at hall, ?_⟩
    rw [← intercalate_four, ← hparts]
    exact (List.intercalate_splitOn 0x2E).symm
  · rintro ⟨a, b, c, d, hall, rfl⟩
    have hparts : (([0x2E] : Bytes).intercalate [a, b, c, d]).splitOn 0x2E = [a, b, c, d] :=
      List.splitOn_intercalate 0x2E (fun part hpart => dot_not_mem_octet (hall part hpart))
        (List.cons_ne_nil _ _)
    rw [intercalate_four] at hparts
    rw [hparts]
    exact ⟨hall, rfl⟩

section
variable {address : Bytes}

theorem IsQuad.inside (h : IsQuad address) : ∀ b ∈ address, isAddressByte b = true := by
  obtain ⟨a, b, c, d, hall, rfl⟩ := h
  have hdigit : ∀ part ∈ [a, b, c, d], ∀ x ∈ part, isAddressByte x = true := by
    intro part hpart x hx
    rw [isAddressByte, (isOctet_iff.1 (hall part hpart)).2.2.1 x hx, Bool.true_or]
  simp only [List.forall_mem_cons] at hdigit
  obtain ⟨ha, hb, hc, hd, -⟩ := hdigit
  intro x hx
  simp only [List.mem_append, List.mem_cons] at hx
  obtain hx | rfl | hx | rfl | hx | rfl | hx := hx
  · exact ha x hx
  · rfl
  · exact hb x hx
  · rfl
  · exact hc x hx
  · rfl
  · exact hd x hx

theorem IsQuad.count (h : IsQuad address) : address.count 0x2E = 3 := by
  obtain ⟨a, b, c, d, hall, rfl⟩ := h
  have hnone : ∀ part ∈ [a, b, c, d], part.count 0x2E = 0 := fun part hpart =>
    List.count_eq_zero_of_not_mem (dot_not_mem_octet (hall part hpart))
  simp only [List.forall_mem_cons] at hnone
  obtain ⟨ha, hb, hc, hd, -⟩ := hnone
  simp only [List.count_append, List.count_cons_self, ha, hb, hc, hd]

theorem IsQuad.head (h : IsQuad address) : ∃ b rest, address = b :: rest ∧ isDigit b = true := by
  obtain ⟨a, b, c, d, hall, rfl⟩ := h
  obtain ⟨hne, -, hdigits, -⟩ := isOctet_iff.1 (hall a List.mem_cons_self)
  obtain ⟨x, rest, rfl⟩ := List.exists_cons_of_ne_nil hne
  exact ⟨x, _, rfl, hdigits x List.mem_cons_self⟩

theorem IsQuad.taken (h : IsQuad address) : isAddress address = true := by
  rw [isAddress, h.count, isIpv4_iff.2 h]
  rfl

/-- With a further dot it is none. -/
theorem IsQuad.not_taken (h : IsQuad address) (rest : Bytes) :
    isAddress (address ++ 0x2E :: rest) = false := by
  rw [isAddress, List.count_append, h.count, List.count_cons_self,
    decide_eq_false (by omega), Bool.false_and]

end

/-! ### Runs that show an address -/

/-- A run of digits and dots that is an address, or begins with one and a full stop. -/
def ShowsAddress (run : Bytes) : Prop :=
  ∃ address, IsQuad address ∧
    (run = address ∨ ∃ rest, run = address ++ 0x2E :: rest ∧ ∀ b ∈ rest.head?, isDigit b = false)

theorem ShowsAddress.head {run : Bytes} (h : ShowsAddress run) :
    ∃ b rest, run = b :: rest ∧ isDigit b = true := by
  obtain ⟨address, hquad, hrun⟩ := h
  obtain ⟨b, rest, rfl, hdigit⟩ := hquad.head
  obtain rfl | ⟨more, rfl, -⟩ := hrun
  · exact ⟨b, rest, rfl, hdigit⟩
  · exact ⟨b, _, rfl, hdigit⟩

theorem ShowsAddress.ne_nil {run : Bytes} (h : ShowsAddress run) : run ≠ [] := by
  obtain ⟨b, rest, rfl, -⟩ := h.head
  exact List.cons_ne_nil b rest

theorem begins_map_iff {p : UInt8 → Bool} {bytes : Bytes} :
    Begins p (bytes.map some) ↔ ∃ b ∈ bytes.head?, p b = true := by
  cases bytes with
  | nil =>
    constructor
    · exact fun h => absurd h Blanks.not_begins_nil
    · rintro ⟨b, hb, -⟩
      cases hb
  | cons b rest =>
    rw [List.map_cons, Blanks.begins_map_cons]
    constructor
    · exact fun hb => ⟨b, rfl, hb⟩
    · rintro ⟨c, hc, hp⟩
      cases hc
      exact hp

theorem not_begins_map_iff {p : UInt8 → Bool} {bytes : Bytes} :
    ¬Begins p (bytes.map some) ↔ ∀ b ∈ bytes.head?, p b = false := by
  rw [begins_map_iff]
  constructor
  · intro hno b hb
    exact Bool.eq_false_iff.2 fun hp => hno ⟨b, hb, hp⟩
  · rintro hall ⟨b, hb, hp⟩
    rw [hall b hb] at hp
    cases hp

theorem isAddressByte_of_isDigit (b : UInt8) (h : isAddressByte b = false) : isDigit b = false :=
  (Bool.or_eq_false_iff.1 h).1

theorem isDot_of_isDigit (b : UInt8) (h : isDigit b = true) : isDot b = false := by
  rw [isDot, beq_eq_false_iff_ne]
  rintro rfl
  cases h

theorem isStop_not_address (b : UInt8) (h : isStop b = true) : isAddressByte b = false := by
  simp only [isStop, isSpace, Bool.or_eq_true, Bool.and_eq_true, beq_iff_eq, decide_eq_true_eq,
    UInt8.le_iff_toNat_le] at h
  rw [isAddressByte, isDigit, isDot, Bool.or_eq_false_iff, Bool.and_eq_false_iff,
    beq_eq_false_iff_ne, decide_eq_false_iff_not, decide_eq_false_iff_not]
  obtain (rfl | hspace) | rfl := h
  · decide
  · have hhigh : b.toNat ≤ 13 := hspace.2
    refine ⟨.inl fun hlow => ?_, ?_⟩
    · have hdigit : 48 ≤ b.toNat := hlow
      omega
    · rintro rfl
      exact absurd hhigh (by decide)
  · decide

/-- Addresses remain as runs. -/
theorem exists_remains_iff {text : Bytes} :
    (∃ address, IsQuad address ∧ Remains address text) ↔
      ∃ run, ShowsAddress run ∧ (∀ b ∈ run, isAddressByte b = true) ∧
        HasRun isAddressByte run false (text.map some) := by
  constructor
  · rintro ⟨address, hquad, left, right, rfl, hleft, hright⟩
    have hbefore : ¬Begins isAddressByte (left.map some).reverse := by
      rw [← List.map_reverse, not_begins_map_iff, List.head?_reverse]
      exact hleft
    obtain hbehind | ⟨rest, rfl, hrest⟩ := hright
    · have hshows : ShowsAddress address := ⟨address, hquad, .inl rfl⟩
      refine ⟨address, hshows, hquad.inside, (Blanks.hasRun_iff hshows.ne_nil).2
        ⟨left.map some, right.map some, ?_, fun _ => rfl, hbefore, not_begins_map_iff.2 hbehind⟩⟩
      rw [List.map_append, List.map_append]
    · -- the run goes on to the end of the digits and dots
      obtain ⟨stretch, behind, hsplit, hstretch, hbehind⟩ :
          ∃ stretch behind, rest = stretch ++ behind ∧ (∀ b ∈ stretch, isAddressByte b = true) ∧
            ∀ b ∈ behind.head?, isAddressByte b = false :=
        ⟨rest.takeWhile isAddressByte, rest.dropWhile isAddressByte,
          List.takeWhile_append_dropWhile.symm, fun b hb => List.mem_takeWhile_imp hb,
          fun b hb => by
            have hno := List.head?_dropWhile_not isAddressByte rest
            rw [Option.mem_def.1 hb] at hno
            exact hno⟩
      have hhead : ∀ b ∈ stretch.head?, isDigit b = false := by
        intro b hb
        refine hrest b ?_
        rw [hsplit, List.head?_append, Option.mem_def.1 hb]
        rfl
      have hshows : ShowsAddress (address ++ 0x2E :: stretch) :=
        ⟨address, hquad, .inr ⟨stretch, rfl, hhead⟩⟩
      refine ⟨address ++ 0x2E :: stretch, hshows, ?_, (Blanks.hasRun_iff hshows.ne_nil).2
        ⟨left.map some, behind.map some, ?_, fun _ => rfl, hbefore,
          not_begins_map_iff.2 hbehind⟩⟩
      · intro b hb
        obtain hb | hb := List.mem_append.1 hb
        · exact hquad.inside b hb
        · obtain rfl | hb := List.mem_cons.1 hb
          · rfl
          · exact hstretch b hb
      · rw [hsplit]
        simp only [List.map_append, List.map_cons, List.append_assoc, List.cons_append]
  · rintro ⟨run, hshows, hinside, hrun⟩
    obtain ⟨left, right, hsplit, -, hbefore, hbehind⟩ :=
      (Blanks.hasRun_iff hshows.ne_nil).1 hrun
    obtain ⟨left, tail, rfl, rfl, htail⟩ := List.map_eq_append_iff.1 hsplit
    obtain ⟨run', right, rfl, hsame, rfl⟩ := List.map_eq_append_iff.1 htail
    obtain rfl := List.map_injective_iff.2 (fun _ _ => Option.some.inj) hsame
    rw [← List.map_reverse, not_begins_map_iff, List.head?_reverse] at hbefore
    rw [not_begins_map_iff] at hbehind
    obtain ⟨address, hquad, rfl | ⟨rest, rfl, hrest⟩⟩ := hshows
    · exact ⟨_, hquad, left, right, rfl, hbefore, .inl hbehind⟩
    · refine ⟨address, hquad, left, 0x2E :: (rest ++ right), ?_, hbefore, .inr ⟨_, rfl, ?_⟩⟩
      · simp only [List.append_assoc, List.cons_append]
      · intro b hb
        cases rest with
        | nil => exact isAddressByte_of_isDigit b (hbehind b hb)
        | cons c rest => exact hrest b hb

/-! ### Which runs the passes leave -/

section
variable {marked : List (Option UInt8)} {run : Bytes} {pos place : Nat}

/-- An identifier goes on as long as no stop shows. -/
theorem inDevice_succ {b : UInt8} (h : InDevice marked place)
    (hb : shownAt marked (place + 1) = some b) (hstop : isStop b = false) :
    InDevice marked (place + 1) := by
  obtain ⟨left, rest, right, hsplit, hrest, hle, hlt⟩ := h
  by_cases hinside : place + 1 < left.length + 9 + rest.length
  · exact ⟨left, rest, right, hsplit, hrest, by omega, hinside⟩
  · have hplace : place + 1 = (left ++ (scheme.map some ++ rest)).length + 0 := by
      simp only [List.length_append, List.length_map, show scheme.length = 9 from rfl]
      omega
    have hmarked : marked = (left ++ (scheme.map some ++ rest)) ++ right := by
      rw [hsplit]
      simp only [List.append_assoc]
    rw [hmarked, hplace, Blanks.shownAt_append] at hb
    cases right with
    | nil => cases hb
    | cons x right =>
      have hx : x = some b := by
        cases x with
        | none => cases hb
        | some c => exact hb
      refine ⟨left, rest ++ [some b], right, ?_, ?_, by omega, ?_⟩
      · rw [hsplit, hx, List.append_assoc]
        rfl
      · intro c hc
        obtain hc | hc := List.mem_append.1 hc
        · exact hrest c hc
        · rw [Option.some.inj (List.mem_singleton.1 hc)]
          exact hstop
      · rw [List.length_append, List.length_singleton]
        omega

/-- It begins behind the slash of the scheme. -/
theorem inDevice_pred {b : UInt8} (h : InDevice marked (place + 1))
    (hb : shownAt marked place = some b) (hslash : b ≠ 0x2F) : InDevice marked place := by
  obtain ⟨left, rest, right, hsplit, hrest, hle, hlt⟩ := h
  by_cases hinside : left.length + 9 ≤ place
  · exact ⟨left, rest, right, hsplit, hrest, hinside, by omega⟩
  · have hplace : place = left.length + 8 := by omega
    have hslashThere : shownAt marked place = some 0x2F := by
      rw [hsplit, hplace, Blanks.shownAt_append]
      rfl
    rw [hslashThere] at hb
    exact absurd (Option.some.inj hb).symm hslash

theorem runAt_of_stretch {left right : List (Option UInt8)} {stretch : Bytes}
    (h : Stretch marked left stretch right) (hne : stretch ≠ []) :
    RunAt isAddressByte marked left.length stretch :=
  (Blanks.runAt_iff hne).2 ⟨h.inside, left, right, h.split, rfl, h.before, h.behind⟩

/-- If something of a run is replaced, it is an address behind its dots. -/
theorem isAddress_of_inAddress (h : RunAt isAddressByte marked pos run) (hle : pos ≤ place)
    (hlt : place < pos + run.length) (hgone : InAddress marked place) :
    isAddress (run.dropWhile isDot) = true := by
  obtain ⟨left, stretch, right, hstretch, haddress, hfrom, hto⟩ := hgone
  have hne : stretch ≠ [] := by
    rintro rfl
    exact absurd hto (by rw [List.length_nil]; omega)
  obtain ⟨-, rfl⟩ := (runAt_of_stretch hstretch hne).unique h ⟨by omega, hto⟩ ⟨hle, hlt⟩
  exact haddress

/-- Behind its dots a run is replaced as a whole, or not at all. -/
theorem inAddress_runAt (h : RunAt isAddressByte marked pos run)
    (hle : pos + (run.takeWhile isDot).length ≤ place) (hlt : place < pos + run.length) :
    InAddress marked place ↔ isAddress (run.dropWhile isDot) = true := by
  constructor
  · exact isAddress_of_inAddress h (by omega) hlt
  · intro haddress
    have hne : run ≠ [] := by
      rintro rfl
      exact absurd hlt (by rw [List.length_nil]; omega)
    obtain ⟨hinside, left, right, hsplit, hlength, hbefore, hbehind⟩ :=
      (Blanks.runAt_iff hne).1 h
    exact ⟨left, run, right, ⟨hsplit, hinside, hbefore, hbehind⟩, haddress, by omega, by omega⟩

/-- **Which runs the third pass leaves**: those that begin in no identifier. -/
theorem runAt_blank_device (hne : run ≠ []) :
    RunAt isAddressByte (blank marked (InDevice marked)) pos run ↔
      RunAt isAddressByte marked pos run ∧ ¬InDevice marked pos := by
  have hbyte : ∀ b, isAddressByte b = true → isStop b = false ∧ b ≠ 0x2F := by
    refine fun b hb => ⟨Bool.eq_false_iff.2 fun hstop => ?_, ?_⟩
    · rw [isStop_not_address b hstop] at hb
      cases hb
    · rintro rfl
      cases hb
  have hpos := List.length_pos_iff.2 hne
  constructor
  · intro h
    have hshown := fun i hi => h.shows (pos + i) (Nat.le_add_right pos i)
      (Nat.add_lt_add_left hi pos)
    obtain ⟨b, hb, hpb⟩ := hshown 0 hpos
    obtain ⟨hbefore, hfirst⟩ := Blanks.shownAt_blank_eq_some_iff.1 hb
    obtain ⟨hrun, hkept⟩ := h.of_blank
      (fun i x hi hgone _ => by
        subst hi
        exact absurd (inDevice_succ hgone hbefore (hbyte b hpb).1) hfirst)
      (fun x hgone _ => by
        obtain ⟨c, hc, hpc⟩ := hshown (run.length - 1) (by omega)
        obtain ⟨hlast, hkept⟩ := Blanks.shownAt_blank_eq_some_iff.1 hc
        have hplace : pos + run.length = pos + (run.length - 1) + 1 := by omega
        rw [hplace] at hgone
        exact absurd (inDevice_pred hgone hlast (hbyte c hpc).2) hkept)
    exact ⟨hrun, hfirst⟩
  · rintro ⟨h, hfirst⟩
    refine h.kept fun i hi => ?_
    -- an identifier in the run would begin where the run does
    induction i with
    | zero => exact hfirst
    | succ i ih =>
      intro hgone
      obtain ⟨c, hc, hpc⟩ := h.shows (pos + i) (Nat.le_add_right pos i)
        (Nat.add_lt_add_left (Nat.lt_of_succ_lt hi) pos)
      exact ih (Nat.lt_of_succ_lt hi) (inDevice_pred hgone hc (hbyte c hpc).2)

/-- The first byte of a run that is no dot. -/
theorem shows_behind_dots (h : RunAt isAddressByte marked pos run)
    (hne : run.dropWhile isDot ≠ []) :
    ∃ b, shownAt marked (pos + (run.takeWhile isDot).length) = some b ∧ isDot b = false := by
  obtain ⟨b, rest, hdrop⟩ := List.exists_cons_of_ne_nil hne
  have hsplit : run = run.takeWhile isDot ++ b :: rest := by
    rw [← hdrop, List.takeWhile_append_dropWhile]
  have hget : run[(run.takeWhile isDot).length]? = some b := by
    conv_lhs => rw [hsplit]
    rw [List.getElem?_append_right (Nat.le_of_eq (by rw [← hsplit])), ← hsplit, Nat.sub_self]
    rfl
  have hlt := (List.getElem?_eq_some_iff.1 hget).1
  refine ⟨b, by rw [h.here _ hlt, hget], ?_⟩
  have hnot := List.head?_dropWhile_not isDot run
  rw [hdrop] at hnot
  exact hnot

/-- **Which runs the second pass leaves**, of those with more than dots: what is no address. -/
theorem runAt_blank_address (hne : run.dropWhile isDot ≠ []) :
    RunAt isAddressByte (blank marked (InAddress marked)) pos run ↔
      RunAt isAddressByte marked pos run ∧ isAddress (run.dropWhile isDot) = false := by
  constructor
  · intro h
    have hshown := fun i hi => h.shows (pos + i) (Nat.le_add_right pos i)
      (Nat.add_lt_add_left hi pos)
    obtain ⟨d, hd, hnotDot⟩ := shows_behind_dots h hne
    obtain ⟨hd, hkeptDigit⟩ := Blanks.shownAt_blank_eq_some_iff.1 hd
    have hlength : (run.takeWhile isDot).length < run.length := by
      have hsplit := congrArg List.length (List.takeWhile_append_dropWhile (p := isDot) (l := run))
      rw [List.length_append] at hsplit
      have hpos := List.length_pos_iff.2 hne
      omega
    obtain ⟨b, hb, hpb⟩ := hshown 0 (by omega)
    obtain ⟨hfirst, hkeptFirst⟩ := Blanks.shownAt_blank_eq_some_iff.1 hb
    obtain ⟨hafter, hkept⟩ := h.of_blank
      (fun i x hi hgone _ => by
        subst hi
        obtain ⟨left, stretch, right, hstretch, haddress, hfrom, hto⟩ := hgone
        have hne : stretch ≠ [] := by
          rintro rfl
          exact absurd hto (by rw [List.length_nil]; omega)
        -- the address would go on into the run, or end in front of it
        by_cases hinside : i + 1 < left.length + stretch.length
        · exact absurd ⟨left, stretch, right, hstretch, haddress, by omega, hinside⟩ hkeptFirst
        · have hend : left.length + stretch.length = i + 1 := by omega
          have hno := (runAt_of_stretch hstretch hne).behind b (by rw [hend]; exact hfirst)
          rw [hpb] at hno
          cases hno)
      (fun x hgone hx => by
        obtain ⟨left, stretch, right, hstretch, haddress, hfrom, hto⟩ := hgone
        have hne : stretch ≠ [] := by
          rintro rfl
          exact absurd hto (by rw [List.length_nil]; omega)
        have hat := runAt_of_stretch hstretch hne
        -- the address would begin in the run, or in front of what is no dot
        have hle : left.length ≤ pos := by
          by_contra hlater
          obtain ⟨c, hc, hpc⟩ := hshown (left.length - 1 - pos) (by omega)
          have hplace : pos + (left.length - 1 - pos) = left.length - 1 := by omega
          rw [hplace] at hc
          have hno := hat.before (left.length - 1) c (by omega)
            (Blanks.shownAt_blank_eq_some_iff.1 hc).1
          rw [hpc] at hno
          cases hno
        have hdots : left.length + (stretch.takeWhile isDot).length ≤
            pos + (run.takeWhile isDot).length := by
          by_contra hlater
          obtain ⟨i, hi⟩ := Nat.exists_eq_add_of_le
            (show left.length ≤ pos + (run.takeWhile isDot).length by omega)
          have hlt : i < (stretch.takeWhile isDot).length := by omega
          have hshort : (stretch.takeWhile isDot).length ≤ stretch.length :=
            (List.takeWhile_prefix isDot).length_le
          have hthere := hat.here i (by omega)
          rw [← hi, hd, List.getElem?_eq_getElem (by omega),
            ← (List.takeWhile_prefix isDot).getElem hlt] at hthere
          have hdot : isDot d = true := by
            rw [Option.some.inj hthere]
            exact List.mem_takeWhile_imp (List.getElem_mem hlt)
          rw [hnotDot] at hdot
          cases hdot
        exact absurd ⟨left, stretch, right, hstretch, haddress, hdots, by omega⟩ hkeptDigit)
    refine ⟨hafter, Bool.eq_false_iff.2 fun haddress => hkeptDigit ?_⟩
    exact (inAddress_runAt hafter (Nat.le_refl _) (by omega)).2 haddress
  · rintro ⟨h, haddress⟩
    refine h.kept fun i hi hgone => ?_
    have hyes := isAddress_of_inAddress h (Nat.le_add_right pos i)
      (Nat.add_lt_add_left hi pos) hgone
    rw [haddress] at hyes
    cases hyes

end

/-! ### Which addresses remain -/

/-- The runs that show an address and that both passes leave begin with an address in front of a
full stop. -/
theorem exists_shows_iff (text userProfile : Bytes) :
    (∃ run, ShowsAddress run ∧ ∃ pos, (RunAt isAddressByte (withoutProfiles userProfile text) pos
        run ∧ isAddress run = false) ∧ ¬InDevice (withoutAddresses userProfile text) pos) ↔
      BeforeStop userProfile text := by
  constructor
  · rintro ⟨run, hshows, pos, ⟨hrun, hno⟩, hdevice⟩
    obtain ⟨-, left, right, hsplit, rfl, hbefore, hbehind⟩ :=
      (Blanks.runAt_iff hshows.ne_nil).1 hrun
    obtain ⟨address, hquad, rfl | ⟨rest, rfl, hrest⟩⟩ := hshows
    · rw [hquad.taken] at hno
      cases hno
    · refine ⟨left, address, rest.map some ++ right, hquad, ?_, hbefore, ?_, hdevice⟩
      · rw [hsplit]
        simp only [List.map_append, List.map_cons, List.append_assoc, List.cons_append]
      · cases rest with
        | nil =>
          rintro ⟨b, more, rfl, hb⟩
          refine hbehind (Blanks.begins_map_cons.2 ?_)
          rw [isAddressByte, hb, Bool.true_or]
        | cons c rest =>
          rw [List.map_cons, List.cons_append, Blanks.begins_map_cons, hrest c rfl]
          exact Bool.false_ne_true
  · rintro ⟨left, address, right, hquad, hsplit, hbefore, hdigit, hdevice⟩
    obtain ⟨stretch, behind, rfl, hstretch, hbehind⟩ :=
      Blanks.exists_stretch isAddressByte right
    have hshows : ShowsAddress (address ++ 0x2E :: stretch) := by
      refine ⟨address, hquad, .inr ⟨stretch, rfl, fun b hb => ?_⟩⟩
      obtain ⟨more, rfl⟩ := List.head?_eq_some_iff.1 (Option.mem_def.1 hb)
      rw [List.map_cons, List.cons_append, Blanks.begins_map_cons] at hdigit
      exact Bool.eq_false_iff.2 hdigit
    refine ⟨address ++ 0x2E :: stretch, hshows, left.length, ⟨(Blanks.runAt_iff hshows.ne_nil).2
      ⟨?_, left, behind, ?_, rfl, hbefore, hbehind⟩, hquad.not_taken stretch⟩, hdevice⟩
    · intro b hb
      obtain hb | hb := List.mem_append.1 hb
      · exact hquad.inside b hb
      · obtain rfl | hb := List.mem_cons.1 hb
        · rfl
        · exact hstretch b hb
    · rw [hsplit]
      simp only [List.map_append, List.map_cons, List.append_assoc, List.cons_append]

theorem isFilling_not_address : ∀ filling, IsFilling filling →
    filling ≠ [] ∧ ∀ b ∈ filling, isAddressByte b = false :=
  forall_filling (by decide +kernel) (by decide +kernel) (by decide +kernel)

/-- **When a report is without addresses.**  Behind `RedactDiagnosticsText` no address remains if
and only if no address stands in front of a full stop: without the profile paths and outside the
identifiers of devices, every other address is replaced. -/
theorem addresses_removed_iff (text userProfile : Bytes) :
    (∀ address, IsQuad address → ¬Remains address (redactDiagnosticsText text userProfile)) ↔
      ¬BeforeStop userProfile text := by
  have hruns : (∃ address, IsQuad address ∧
      Remains address (redactDiagnosticsText text userProfile)) ↔
        BeforeStop userProfile text := by
    rw [exists_remains_iff, ← exists_shows_iff]
    refine exists_congr fun run => ?_
    refine and_congr_right fun hshows => ?_
    obtain ⟨b, rest, hrun, hdigit⟩ := hshows.head
    -- from the text that is written back to the report, pass by pass
    have hpasses (pos : Nat) : RunAt isAddressByte (blank (shown text) (Replaced userProfile text))
        pos run ↔ (RunAt isAddressByte (withoutProfiles userProfile text) pos run ∧
          isAddress run = false) ∧ ¬InDevice (withoutAddresses userProfile text) pos := by
      rw [blank_replaced, runAt_blank_device hshows.ne_nil]
      refine and_congr_left fun _ => ?_
      have hdrop : run.dropWhile isDot = run := by
        rw [hrun]
        exact List.dropWhile_cons_of_neg (by
          rw [isDot_of_isDigit b hdigit]
          exact Bool.false_ne_true)
      have hne := hshows.ne_nil
      rw [← hdrop] at hne
      rw [withoutAddresses, runAt_blank_address hne, hdrop]
    constructor
    · rintro ⟨hinside, hhas⟩
      rw [(redactDiagnosticsText_fills text userProfile).hasRun_iff isFilling_not_address
        isStop_not_address hshows.ne_nil hinside,
        Blanks.exists_runAt_iff hshows.ne_nil hinside] at hhas
      obtain ⟨pos, hpos⟩ := hhas
      exact ⟨pos, (hpasses pos).1 hpos⟩
    · rintro ⟨pos, hpos⟩
      have hinside := hpos.1.1.inside
      rw [(redactDiagnosticsText_fills text userProfile).hasRun_iff isFilling_not_address
        isStop_not_address hshows.ne_nil hinside, Blanks.exists_runAt_iff hshows.ne_nil hinside]
      exact ⟨hinside, pos, (hpasses pos).2 hpos⟩
  rw [← hruns, not_exists]
  exact forall_congr' fun address => not_and.symm

/-- The address of a receiver at the end of a sentence. -/
def sentence : Bytes := ascii "Connected to 192.168.1.42."

theorem addresses_removed_fails_sentence :
    ¬∀ text userProfile address : Bytes, IsQuad address →
      ¬Remains address (redactDiagnosticsText text userProfile) := by
  intro hall
  have hsame : redactDiagnosticsText sentence [] = sentence := by decide +kernel
  refine hall sentence [] (ascii "192.168.1.42")
    ⟨ascii "192", ascii "168", ascii "1", ascii "42", by decide +kernel, by decide⟩ ?_
  rw [hsame]
  refine ⟨ascii "Connected to ", ascii ".", by decide, ?_, .inr ⟨[], by decide, ?_⟩⟩
  · intro b hb
    obtain rfl : 0x20 = b := Option.some.inj hb
    rfl
  · intro b hb
    cases hb

end SecondDisplay.Redaction
