import SecondDisplay.App.Json
import SecondDisplay.Library.Blanks
import Mathlib.Data.List.TakeWhile

/-!
# Reports for sharing (`app/UiModel.cpp`)

`RedactDiagnosticsText` takes the profile path, IPv4 addresses and the identifiers of devices on the
cable out of a report, in three passes.  What a pass replaces is said here of the report as it is
shown so far: the profile paths that a search from left to right finds (`InProfile`), the stretches
of digits and dots that are an address (`InAddress`), and what follows the scheme of a device
(`InDevice`).  `redactDiagnosticsText_fills` has all three.
-/

namespace SecondDisplay.Redaction

open Search (find OccursAt)
open Blanks (blank Fills Begins Stops)

/-! ### The three passes -/

/-- The first loop of `RedactDiagnosticsText`. -/
def replaceProfile (userProfile : Bytes) (h : userProfile ≠ []) (text : Bytes) (start : Nat) :
    Bytes :=
  match hfind : find userProfile text start with
  | none => text
  | some pos =>
    replaceProfile userProfile h
      (text.take pos ++ (ascii "<profile>" ++ text.drop (pos + userProfile.length))) (pos + 9)
termination_by text.length - start
decreasing_by
  obtain ⟨hle, ⟨rest, hrest⟩, -⟩ := Search.find_eq_some_iff.1 hfind
  have hlength := congrArg List.length hrest
  have hpos := List.length_pos_iff.2 h
  simp only [List.length_append, List.length_drop, List.length_take] at hlength ⊢
  rw [show (ascii "<profile>").length = 9 from rfl]
  omega

/-- A part of an address. -/
def isOctet (part : Bytes) : Bool :=
  decide (part ≠ []) && decide (part.length ≤ 3) && part.all isDigit &&
    decide (JsonParser.digitsValue part ≤ 255)

/-- `IsIpv4`. -/
def isIpv4 (value : Bytes) : Bool :=
  let parts := value.splitOn 0x2E
  parts.all isOctet && decide (parts.length = 4)

/-- What stands between the parts of an address. -/
def isDot (b : UInt8) : Bool := b == 0x2E

/-- A byte of an address. -/
def isAddressByte (b : UInt8) : Bool := isDigit b || isDot b

/-- What is taken for an address. -/
def isAddress (run : Bytes) : Bool := decide (run.count 0x2E = 3) && isIpv4 run

/-- The second loop of `RedactDiagnosticsText`. -/
def redactAddresses (text : Bytes) (start : Nat) : Bytes :=
  match hrest : text.drop start with
  | [] => text
  | b :: rest =>
    if hdigit : isDigit b then
      let run := (b :: rest).takeWhile isAddressByte
      if isAddress run then
        redactAddresses
          (text.take start ++ (ascii "<ip>" ++ text.drop (start + run.length))) (start + 4)
      else redactAddresses text (start + run.length)
    else redactAddresses text (start + 1)
termination_by text.length - start
decreasing_by
  · have hlength := congrArg List.length hrest
    have hrun : 0 < ((b :: rest).takeWhile isAddressByte).length := by
      rw [List.takeWhile_cons_of_pos (by rw [isAddressByte, hdigit]; rfl)]
      exact Nat.zero_lt_succ _
    simp only [List.length_append, List.length_drop, List.length_take, List.length_cons]
      at hlength ⊢
    rw [show (ascii "<ip>").length = 4 from rfl]
    omega
  · have hlength := congrArg List.length hrest
    have hrun : 0 < ((b :: rest).takeWhile isAddressByte).length := by
      rw [List.takeWhile_cons_of_pos (by rw [isAddressByte, hdigit]; rfl)]
      exact Nat.zero_lt_succ _
    simp only [List.length_drop, List.length_cons] at hlength
    omega
  · have hlength := congrArg List.length hrest
    simp only [List.length_drop, List.length_cons] at hlength
    omega

/-- What the identifiers of devices are found by. -/
def scheme : Bytes := ascii "usbmux://"

/-- The end of an identifier. -/
def isStop (b : UInt8) : Bool := isSpace b || b == 0x5D

/-- The third loop of `RedactDiagnosticsText`. -/
def redactDevices (text : Bytes) (start : Nat) : Bytes :=
  match hfind : find scheme text start with
  | none => text
  | some pos =>
    let identifier := (text.drop (pos + 9)).takeWhile fun b => !isStop b
    redactDevices
      (text.take pos ++ (ascii "usbmux://<device>" ++ text.drop (pos + 9 + identifier.length)))
      (pos + 18)
termination_by text.length - start
decreasing_by
  obtain ⟨hle, ⟨rest, hrest⟩, -⟩ := Search.find_eq_some_iff.1 hfind
  have hlength := congrArg List.length hrest
  simp only [List.length_append, List.length_drop, List.length_take] at hlength ⊢
  rw [show scheme.length = 9 from rfl] at hlength
  rw [show (ascii "usbmux://<device>").length = 17 from rfl]
  omega

/-- `RedactDiagnosticsText`. -/
def redactDiagnosticsText (text userProfile : Bytes) : Bytes :=
  let withoutProfile :=
    if h : userProfile ≠ [] then replaceProfile userProfile h text 0 else text
  redactDevices (redactAddresses withoutProfile 0) 0

/-! ### What is replaced -/

/-- The profile paths that are replaced: the first one, and always the next one behind the last. -/
inductive Found (userProfile text : Bytes) : Nat → Prop
  | first {pos : Nat} (h : find userProfile text 0 = some pos) : Found userProfile text pos
  | next {last pos : Nat} (hlast : Found userProfile text last)
      (h : find userProfile text (last + userProfile.length) = some pos) :
      Found userProfile text pos

/-- The positions of the profile paths. -/
def InProfile (userProfile text : Bytes) (place : Nat) : Prop :=
  ∃ pos, Found userProfile text pos ∧ pos ≤ place ∧ place < pos + userProfile.length

/-- A stretch of digits and dots that shows, as long as it can be. -/
structure Stretch (marked left : List (Option UInt8)) (stretch : Bytes)
    (right : List (Option UInt8)) : Prop where
  split : marked = left ++ (stretch.map some ++ right)
  inside : ∀ b ∈ stretch, isAddressByte b = true
  before : ¬Begins isAddressByte left.reverse
  behind : ¬Begins isAddressByte right

/-- The positions of the addresses: a stretch of digits and dots, without the dots it begins
with. -/
def InAddress (marked : List (Option UInt8)) (place : Nat) : Prop :=
  ∃ left stretch right, Stretch marked left stretch right ∧
    isAddress (stretch.dropWhile isDot) = true ∧
    left.length + (stretch.takeWhile isDot).length ≤ place ∧
    place < left.length + stretch.length

/-- The positions of the identifiers: behind the scheme, up to white space or a bracket. -/
def InDevice (marked : List (Option UInt8)) (place : Nat) : Prop :=
  ∃ left rest right, marked = left ++ (scheme.map some ++ (rest ++ right)) ∧
    (∀ b, some b ∈ rest → isStop b = false) ∧
    left.length + 9 ≤ place ∧ place < left.length + 9 + rest.length

/-! ### The first pass -/

/-- What is written for what is replaced. -/
def IsFilling (text : Bytes) : Prop :=
  text = ascii "<profile>" ∨ text = ascii "<ip>" ∨ text = ascii "<device>"

theorem forall_filling {p : Bytes → Prop} (hprofile : p (ascii "<profile>"))
    (hip : p (ascii "<ip>")) (hdevice : p (ascii "<device>")) (text : Bytes)
    (h : IsFilling text) : p text := by
  obtain rfl | rfl | rfl := h
  · exact hprofile
  · exact hip
  · exact hdevice

theorem find_append (pattern done rest : Bytes) (start : Nat) :
    find pattern (done ++ rest) (done.length + start) =
      (find pattern rest start).map (done.length + ·) := by
  rw [find, find, ← List.drop_drop, List.drop_left, Option.map_map]
  congr 1
  funext pos
  show pos + (done.length + start) = done.length + (pos + start)
  omega

/-- Behind the first profile path the search goes on as in what follows it. -/
theorem found_iff {userProfile left right : Bytes}
    (h : find userProfile (left ++ (userProfile ++ right)) 0 = some left.length) (pos : Nat) :
    Found userProfile (left ++ (userProfile ++ right)) pos ↔ pos = left.length ∨
      ∃ later, pos = left.length + userProfile.length + later ∧ Found userProfile right later := by
  have hbehind (start : Nat) : find userProfile (left ++ (userProfile ++ right))
      (left.length + userProfile.length + start) =
        (find userProfile right start).map (left.length + userProfile.length + ·) := by
    rw [← List.append_assoc, ← List.length_append, find_append]
  constructor
  · intro hfound
    induction hfound with
    | first hfirst => exact .inl (Option.some.inj (hfirst.symm.trans h))
    | @next last pos hlast hnext ih =>
      right
      obtain rfl | ⟨later, rfl, hlater⟩ := ih
      · rw [← Nat.add_zero (left.length + userProfile.length), hbehind] at hnext
        obtain ⟨later, hlater, rfl⟩ := Option.map_eq_some_iff.1 hnext
        exact ⟨later, rfl, Found.first hlater⟩
      · rw [Nat.add_assoc _ later, hbehind] at hnext
        obtain ⟨next, hright, rfl⟩ := Option.map_eq_some_iff.1 hnext
        exact ⟨next, rfl, Found.next hlater hright⟩
  · intro hpos
    obtain rfl | ⟨later, rfl, hlater⟩ := hpos
    · exact Found.first h
    · induction hlater with
      | first hfirst =>
        refine Found.next (Found.first h) ?_
        rw [← Nat.add_zero (left.length + userProfile.length), hbehind, hfirst]
        rfl
      | @next last pos hlast hnext ih =>
        refine Found.next ih ?_
        rw [Nat.add_assoc _ last, hbehind, hnext]
        rfl

/-- The positions of the profile paths, from the first one on. -/
theorem blank_profile {userProfile left right : Bytes}
    (h : find userProfile (left ++ (userProfile ++ right)) 0 = some left.length) :
    blank ((left ++ (userProfile ++ right)).map some)
        (InProfile userProfile (left ++ (userProfile ++ right))) =
      left.map some ++ (List.replicate userProfile.length none ++
        blank (right.map some) (InProfile userProfile right)) := by
  have hin (place : Nat) : InProfile userProfile (left ++ (userProfile ++ right)) place ↔
      (left.length ≤ place ∧ place < left.length + userProfile.length) ∨
        ∃ later, place = left.length + userProfile.length + later ∧
          InProfile userProfile right later := by
    constructor
    · rintro ⟨pos, hfound, hle, hlt⟩
      obtain rfl | ⟨later, rfl, hlater⟩ := (found_iff h pos).1 hfound
      · exact .inl ⟨hle, hlt⟩
      · refine .inr ⟨place - (left.length + userProfile.length), by omega, later, hlater, ?_, ?_⟩
        · omega
        · omega
    · rintro (⟨hle, hlt⟩ | ⟨place, rfl, pos, hfound, hle, hlt⟩)
      · exact ⟨left.length, Found.first h, hle, hlt⟩
      · refine ⟨left.length + userProfile.length + pos,
          (found_iff h _).2 (.inr ⟨pos, rfl, hfound⟩), ?_, ?_⟩
        · omega
        · omega
  rw [List.map_append, List.map_append, Blanks.blank_append, Blanks.blank_append,
    Blanks.blank_none, Blanks.blank_all, List.length_map, List.length_map]
  · congr 2
    refine Blanks.blank_congr fun place => ?_
    rw [hin]
    constructor
    · rintro (⟨-, hlt⟩ | ⟨later, heq, hlater⟩)
      · omega
      · obtain rfl : place = later := by omega
        exact hlater
    · intro hplace
      exact .inr ⟨place, by omega, hplace⟩
  · intro place hlt
    simp only [List.length_map] at hlt ⊢
    exact (hin _).2 (.inl ⟨by omega, by omega⟩)
  · intro place hlt hplace
    rw [List.length_map] at hlt
    obtain ⟨hle, -⟩ | ⟨later, heq, -⟩ := (hin _).1 hplace
    · omega
    · omega

theorem not_found {userProfile text : Bytes} (h : find userProfile text 0 = none) {pos : Nat}
    (hfound : Found userProfile text pos) : False := by
  induction hfound with
  | first hfirst =>
    rw [h] at hfirst
    cases hfirst
  | next hlast hnext ih => exact ih

/-- **The first pass** replaces the profile paths. -/
theorem replaceProfile_fills {userProfile : Bytes} (h : userProfile ≠ []) (done rest : Bytes) :
    ∃ out, replaceProfile userProfile h (done ++ rest) done.length = done ++ out ∧
      Fills IsFilling isStop (blank (rest.map some) (InProfile userProfile rest)) out := by
  induction hn : rest.length using Nat.strong_induction_on generalizing done rest with
  | h n ih =>
    have hfind := find_append userProfile done rest 0
    rw [Nat.add_zero] at hfind
    cases hfirst : find userProfile rest 0 with
    | none =>
      rw [hfirst, Option.map_none] at hfind
      refine ⟨rest, by rw [replaceProfile, hfind], ?_⟩
      rw [Blanks.blank_none fun place _ ⟨pos, hfound, _⟩ => not_found hfirst hfound]
      exact Fills.of_map rest
    | some pos =>
      rw [hfirst, Option.map_some] at hfind
      obtain ⟨-, ⟨right, hright⟩, -⟩ := Search.find_eq_some_iff.1 hfirst
      have hrest : rest = rest.take pos ++ (userProfile ++ right) := by
        rw [hright, List.take_append_drop]
      have hpos : (rest.take pos).length = pos := by
        have hlength := congrArg List.length hright
        have hne := List.length_pos_iff.2 h
        rw [List.length_append, List.length_drop] at hlength
        rw [List.length_take]
        omega
      generalize rest.take pos = left at hrest hpos
      subst hpos hrest
      obtain ⟨out, hout, hfills⟩ := ih right.length (by
        have hpos := List.length_pos_iff.2 h
        simp only [List.length_append] at hn
        omega) (done ++ (left ++ ascii "<profile>")) right rfl
      refine ⟨left ++ (ascii "<profile>" ++ out), ?_, ?_⟩
      · have hleft : (done ++ (left ++ (userProfile ++ right))).take (done.length + left.length) =
            done ++ left := by
          rw [← List.append_assoc, ← List.length_append, List.take_left]
        have hright : (done ++ (left ++ (userProfile ++ right))).drop
            (done.length + left.length + userProfile.length) = right := by
          rw [← List.drop_drop, ← List.append_assoc, ← List.length_append, List.drop_left,
            List.drop_left]
        rw [replaceProfile, hfind]
        dsimp only
        rw [hleft, hright]
        have hbehind : (done ++ (left ++ ascii "<profile>")).length =
            done.length + left.length + 9 := by
          rw [List.length_append, List.length_append, ← Nat.add_assoc]
          rfl
        rw [hbehind] at hout
        simpa only [List.append_assoc] using hout
      · rw [blank_profile hfirst]
        refine Fills.append (Fills.fill userProfile.length (.inl rfl) ?_ hfills)
        intro hzero
        exact absurd (List.eq_nil_of_length_eq_zero hzero) h

/-- A pass leaves what is replaced already: it has no blank at what it replaces, and keeps a stop
that it begins with. -/
theorem fills_blanks {gone : List (Option UInt8) → Nat → Prop}
    (hnone : ∀ marked, blank (none :: marked) (gone (none :: marked)) =
      none :: blank marked (gone marked))
    (hkeep : ∀ b marked, isStop b = true → blank (some b :: marked) (gone (some b :: marked)) =
      some b :: blank marked (gone marked))
    {blanks : Nat} {text out : Bytes} {marked : List (Option UInt8)} (htext : IsFilling text)
    (hstop : blanks = 0 → Stops isStop marked)
    (h : Fills IsFilling isStop (blank marked (gone marked)) out) :
    Fills IsFilling isStop (blank (List.replicate blanks none ++ marked)
      (gone (List.replicate blanks none ++ marked))) (text ++ out) := by
  have hblanks : ∀ blanks, blank (List.replicate blanks none ++ marked)
      (gone (List.replicate blanks none ++ marked)) =
        List.replicate blanks none ++ blank marked (gone marked) := by
    intro blanks
    induction blanks with
    | zero => rfl
    | succ blanks ih => rw [List.replicate_succ, List.cons_append, hnone, ih, List.cons_append]
  rw [hblanks]
  refine Fills.fill blanks htext (fun hzero => ?_) h
  obtain rfl | ⟨b, behind, rfl, hb⟩ := hstop hzero
  · exact .inl rfl
  · rw [hkeep b behind hb]
    exact .inr (Blanks.begins_map_cons.2 hb)

/-! ### The second pass -/

/-- Before a byte that does not begin an address nothing changes. -/
theorem inAddress_cons {x : Option UInt8} (hx : ∀ b, x = some b → isDigit b = false)
    (marked : List (Option UInt8)) (place : Nat) :
    InAddress (x :: marked) place ↔ ∃ later, place = later + 1 ∧ InAddress marked later := by
  constructor
  · rintro ⟨left, stretch, right, hstretch, haddress, hle, hlt⟩
    cases left with
    | nil =>
      cases stretch with
      | nil => exact absurd hlt (Nat.not_lt_zero _)
      | cons b stretch =>
        obtain ⟨rfl, rfl⟩ := List.cons.inj hstretch.split
        have hinside := hstretch.inside b List.mem_cons_self
        have hdot : isDot b = true := by
          rw [isAddressByte, hx b rfl] at hinside
          exact hinside
        rw [List.dropWhile_cons_of_pos hdot] at haddress
        rw [List.takeWhile_cons_of_pos hdot] at hle
        simp only [List.length_nil, List.length_cons] at hle hlt
        refine ⟨place - 1, by omega, [], stretch, right, ⟨rfl, ?_, Blanks.not_begins_nil,
          hstretch.behind⟩, haddress, ?_, ?_⟩
        · exact fun c hmem => hstretch.inside c (List.mem_cons_of_mem _ hmem)
        · rw [List.length_nil]
          omega
        · rw [List.length_nil]
          omega
    | cons y left =>
      obtain ⟨rfl, hsplit⟩ := List.cons.inj hstretch.split
      rw [List.length_cons] at hle hlt
      refine ⟨place - 1, by omega, left, stretch, right, ⟨hsplit, hstretch.inside, ?_,
        hstretch.behind⟩, haddress, by omega, by omega⟩
      intro hbegins
      have hbefore := hstretch.before
      rw [List.reverse_cons, Blanks.begins_append] at hbefore
      · exact hbefore hbegins
      · intro hnil
        rw [hnil] at hbegins
        exact Blanks.not_begins_nil hbegins
  · rintro ⟨later, rfl, left, stretch, right, hstretch, haddress, hle, hlt⟩
    obtain ⟨rfl, hinside⟩ | hout : (x = some 0x2E ∧ left = []) ∨
        ¬Begins isAddressByte (x :: left).reverse := by
      by_cases hleft : left = []
      · by_cases hdot : x = some 0x2E
        · exact .inl ⟨hdot, hleft⟩
        · right
          rw [hleft]
          rintro ⟨b, rest, heq, hb⟩
          obtain ⟨rfl, -⟩ := List.cons.inj heq
          rw [isAddressByte, hx b rfl, Bool.false_or, isDot, beq_iff_eq] at hb
          exact hdot (congrArg some hb)
      · right
        rw [List.reverse_cons,
          Blanks.begins_append fun hnil => hleft (List.reverse_eq_nil_iff.1 hnil)]
        exact hstretch.before
    · subst hinside
      refine ⟨[], 0x2E :: stretch, right, ⟨?_, ?_, Blanks.not_begins_nil, hstretch.behind⟩,
        haddress, ?_, ?_⟩
      · rw [hstretch.split]
        rfl
      · intro b hmem
        obtain rfl | hmem := List.mem_cons.1 hmem
        · rfl
        · exact hstretch.inside b hmem
      · rw [List.takeWhile_cons_of_pos rfl, List.length_cons]
        omega
      · rw [List.length_cons]
        omega
    · refine ⟨x :: left, stretch, right, ⟨?_, hstretch.inside, hout, hstretch.behind⟩, haddress,
        ?_, ?_⟩
      · rw [hstretch.split]
        rfl
      · rw [List.length_cons]
        omega
      · rw [List.length_cons]
        omega

theorem blank_address_cons {x : Option UInt8} (hx : ∀ b, x = some b → isDigit b = false)
    (marked : List (Option UInt8)) :
    blank (x :: marked) (InAddress (x :: marked)) = x :: blank marked (InAddress marked) := by
  rw [Blanks.blank_cons]
  · congr 1
    refine Blanks.blank_congr fun place => ?_
    rw [inAddress_cons hx]
    constructor
    · rintro ⟨later, heq, hlater⟩
      rwa [Nat.succ.inj heq]
    · exact fun hplace => ⟨place, rfl, hplace⟩
  · rw [inAddress_cons hx]
    rintro ⟨later, heq, -⟩
    cases heq

/-- A stretch that begins with a digit is an address as a whole, or not at all. -/
theorem inAddress_stretch {b : UInt8} {stretch : Bytes} {marked : List (Option UInt8)}
    (hdigit : isDigit b = true) (hinside : ∀ c ∈ b :: stretch, isAddressByte c = true)
    (hbehind : ¬Begins isAddressByte marked) (place : Nat) :
    InAddress ((b :: stretch).map some ++ marked) place ↔
      (isAddress (b :: stretch) = true ∧ place < (b :: stretch).length) ∨
        ∃ later, place = (b :: stretch).length + later ∧ InAddress marked later := by
  have hdot : ¬isDot b = true := by
    have hall : ∀ b, isDigit b = true → ¬isDot b = true := by decide +kernel
    exact hall b hdigit
  -- a stretch that begins later begins behind this one
  have hends {left : List (Option UInt8)} (hne : left ≠ [])
      (hstarts : left <+: (b :: stretch).map some) : Begins isAddressByte left.reverse := by
    obtain ⟨x, rest, hrest⟩ := List.exists_cons_of_ne_nil (List.reverse_ne_nil_iff.2 hne)
    have hmem : x ∈ (b :: stretch).map some :=
      hstarts.subset (List.mem_reverse.1 (hrest ▸ List.mem_cons_self))
    obtain ⟨c, hc, rfl⟩ := List.mem_map.1 hmem
    rw [hrest]
    exact Blanks.begins_map_cons.2 (hinside c hc)
  constructor
  · rintro ⟨left, own, right, hstretch, haddress, hle, hlt⟩
    obtain ⟨mid, rfl, hmarked⟩ | ⟨mid, hrun, hown⟩ := List.append_eq_append_iff.1 hstretch.split
    · right
      have hmid : mid ≠ [] := by
        rintro rfl
        rw [List.append_nil] at hstretch
        exact hstretch.before (hends (List.cons_ne_nil _ _) List.prefix_rfl)
      have hbefore := hstretch.before
      rw [List.reverse_append, Blanks.begins_append (List.reverse_ne_nil_iff.2 hmid)] at hbefore
      rw [List.length_append, List.length_map] at hle hlt
      exact ⟨place - (b :: stretch).length, by omega, mid, own, right,
        ⟨hmarked, hstretch.inside, hbefore, hstretch.behind⟩, haddress, by omega, by omega⟩
    · left
      have hleft : left = [] := by
        by_contra hne
        exact hstretch.before (hends hne (hrun ▸ List.prefix_append left mid))
      subst hleft
      rw [List.nil_append] at hrun
      rw [← hrun] at hown
      obtain ⟨rfl, -⟩ := Blanks.stretch_unique hown hstretch.inside hinside hstretch.behind hbehind
      rw [List.dropWhile_cons_of_neg hdot] at haddress
      exact ⟨haddress, by rwa [List.length_nil, Nat.zero_add] at hlt⟩
  · rintro (⟨haddress, hlt⟩ | ⟨later, rfl, left, own, right, hstretch, haddress, hle, hlt⟩)
    · refine ⟨[], b :: stretch, marked, ⟨rfl, hinside, Blanks.not_begins_nil, hbehind⟩, ?_, ?_, ?_⟩
      · rwa [List.dropWhile_cons_of_neg hdot]
      · rw [List.takeWhile_cons_of_neg hdot]
        exact Nat.zero_le _
      · rwa [List.length_nil, Nat.zero_add]
    · have hleft : left ≠ [] := by
        rintro rfl
        obtain ⟨c, own, rfl⟩ := List.exists_cons_of_ne_nil (l := own) (by
          rintro rfl
          exact absurd hlt (Nat.not_lt_zero _))
        refine hbehind ?_
        rw [hstretch.split]
        exact Blanks.begins_map_cons.2 (hstretch.inside c List.mem_cons_self)
      refine ⟨(b :: stretch).map some ++ left, own, right, ⟨?_, hstretch.inside, ?_,
        hstretch.behind⟩, haddress, ?_, ?_⟩
      · rw [hstretch.split, List.append_assoc]
      · rw [List.reverse_append, Blanks.begins_append (List.reverse_ne_nil_iff.2 hleft)]
        exact hstretch.before
      · rw [List.length_append, List.length_map]
        omega
      · rw [List.length_append, List.length_map]
        omega

theorem blank_address_stretch {b : UInt8} {stretch : Bytes} {marked : List (Option UInt8)}
    (hdigit : isDigit b = true) (hinside : ∀ c ∈ b :: stretch, isAddressByte c = true)
    (hbehind : ¬Begins isAddressByte marked) :
    blank ((b :: stretch).map some ++ marked) (InAddress ((b :: stretch).map some ++ marked)) =
      (if isAddress (b :: stretch) = true then List.replicate (b :: stretch).length none
        else (b :: stretch).map some) ++ blank marked (InAddress marked) := by
  have hin := inAddress_stretch hdigit hinside hbehind
  generalize hrun : b :: stretch = run at hin ⊢
  rw [Blanks.blank_append]
  congr 1
  · split
    · rename_i haddress
      rw [Blanks.blank_all, List.length_map]
      intro place hlt
      rw [List.length_map] at hlt
      exact (hin place).2 (.inl ⟨haddress, hlt⟩)
    · rename_i haddress
      refine Blanks.blank_none fun place hlt hplace => ?_
      rw [List.length_map] at hlt
      obtain ⟨hyes, -⟩ | ⟨later, heq, -⟩ := (hin place).1 hplace
      · exact haddress hyes
      · omega
  · refine Blanks.blank_congr fun place => ?_
    rw [hin, List.length_map]
    constructor
    · rintro (⟨-, hlt⟩ | ⟨later, heq, hlater⟩)
      · omega
      · obtain rfl : place = later := by omega
        exact hlater
    · exact fun hplace => .inr ⟨place, rfl, hplace⟩

/-- Without a digit the search goes on behind the text. -/
theorem redactAddresses_skip (done rest : Bytes) {text : Bytes}
    (h : ∀ b ∈ text, isDigit b = false) :
    redactAddresses (done ++ (text ++ rest)) done.length =
      redactAddresses (done ++ text ++ rest) (done ++ text).length := by
  induction text generalizing done with
  | nil => rw [List.append_nil, List.nil_append]
  | cons b text ih =>
    have hb : ¬isDigit b = true := by
      rw [h b List.mem_cons_self]
      exact Bool.false_ne_true
    have hstep : redactAddresses (done ++ (b :: text ++ rest)) done.length =
        redactAddresses (done ++ (b :: text ++ rest)) (done.length + 1) := by
      rw [redactAddresses, List.drop_left]
      dsimp only [List.cons_append]
      rw [dif_neg hb]
    have hnext := ih (done ++ [b]) fun c hmem => h c (List.mem_cons_of_mem _ hmem)
    rw [hstep]
    simpa only [List.append_assoc, List.nil_append, List.cons_append, List.length_append,
      List.length_nil, List.length_cons, Nat.zero_add, Nat.add_assoc, Nat.add_comm 1] using hnext

/-- **The second pass** replaces the addresses. -/
theorem redactAddresses_fills {marked : List (Option UInt8)} (done rest : Bytes)
    (h : Fills IsFilling isStop marked rest) :
    ∃ out, redactAddresses (done ++ rest) done.length = done ++ out ∧
      Fills IsFilling isStop (blank marked (InAddress marked)) out := by
  induction hn : rest.length using Nat.strong_induction_on generalizing done rest marked with
  | h n ih =>
    cases h with
    | nil =>
      refine ⟨[], ?_, Fills.nil⟩
      rw [redactAddresses, List.drop_left]
    | @keep b marked rest hrest =>
      cases hdigit : isDigit b with
      | true =>
        have hwhole : Fills IsFilling isStop (some b :: marked) (b :: rest) := Fills.keep b hrest
        obtain ⟨marked', hmarked, hbehind, hfills⟩ :=
          hwhole.stretch (p := isAddressByte)
            (forall_filling ⟨0x3C, _, rfl, rfl⟩ ⟨0x3C, _, rfl, rfl⟩ ⟨0x3C, _, rfl, rfl⟩)
            (by decide +kernel)
        have hfirst : isAddressByte b = true := by rw [isAddressByte, hdigit, Bool.true_or]
        have hinside : ∀ c ∈ (b :: rest).takeWhile isAddressByte, isAddressByte c = true :=
          fun c hmem => List.mem_takeWhile_imp hmem
        have hsplit := (List.takeWhile_append_dropWhile (p := isAddressByte) (l := b :: rest)).symm
        have hstep := redactAddresses.eq_def (done ++ b :: rest) done.length
        rw [List.drop_left] at hstep
        dsimp only at hstep
        rw [dif_pos hdigit] at hstep
        rw [List.takeWhile_cons_of_pos hfirst] at hmarked hinside hsplit hstep
        generalize rest.takeWhile isAddressByte = stretch at hmarked hinside hsplit hstep
        generalize (b :: rest).dropWhile isAddressByte = behind at hfills hsplit
        rw [hmarked, blank_address_stretch hdigit hinside hbehind]
        have hlt : behind.length < n := by
          rw [← hn, hsplit, List.length_append, List.length_cons]
          omega
        rw [hsplit] at hstep ⊢
        by_cases haddress : isAddress (b :: stretch) = true
        · rw [if_pos haddress, List.take_left, ← List.drop_drop, List.drop_left, List.drop_left]
            at hstep
          rw [if_pos haddress]
          obtain ⟨out, hout, hfills⟩ :=
            ih behind.length hlt (done ++ ascii "<ip>") behind hfills rfl
          rw [List.length_append, List.append_assoc] at hout
          refine ⟨ascii "<ip>" ++ out, ?_, Fills.fill _ (.inr (.inl rfl)) ?_ hfills⟩
          · rw [hstep, ← List.append_assoc done (ascii "<ip>") out]
            exact hout
          · intro hzero
            cases hzero
        · rw [if_neg haddress] at hstep ⊢
          obtain ⟨out, hout, hfills⟩ :=
            ih behind.length hlt (done ++ b :: stretch) behind hfills rfl
          rw [List.length_append, List.append_assoc] at hout
          exact ⟨b :: stretch ++ out, by rw [hstep, hout, List.append_assoc], hfills.append⟩
      | false =>
        have hno : ∀ c, some b = some c → isDigit c = false := by
          intro c hc
          rw [← Option.some.inj hc, hdigit]
        obtain ⟨out, hout, hfills⟩ := ih rest.length (by rw [← hn]; exact Nat.lt_succ_self _)
          (done ++ [b]) rest hrest rfl
        refine ⟨b :: out, ?_, ?_⟩
        · have hskip : redactAddresses (done ++ ([b] ++ rest)) done.length =
              redactAddresses (done ++ [b] ++ rest) (done ++ [b]).length := by
            refine redactAddresses_skip done rest fun c hmem => ?_
            rw [List.mem_singleton.1 hmem, hdigit]
          rw [List.singleton_append] at hskip
          rw [hskip, hout, List.append_assoc, List.singleton_append]
        · rw [blank_address_cons hno]
          exact Fills.keep b hfills
    | @fill blanks text marked rest htext hstop hrest =>
      have hskip := redactAddresses_skip done rest
        (forall_filling (p := fun text => ∀ b ∈ text, isDigit b = false)
          (by decide +kernel) (by decide +kernel) (by decide +kernel) text htext)
      obtain ⟨out, hout, hfills⟩ := ih rest.length (by
        have hpos := List.length_pos_iff.2
          (forall_filling (p := (· ≠ [])) (by decide) (by decide) (by decide) text htext)
        rw [List.length_append] at hn
        omega) (done ++ text) rest hrest rfl
      refine ⟨text ++ out, by rw [hskip, hout, List.append_assoc], ?_⟩
      refine fills_blanks (fun marked => blank_address_cons (fun b hb => by cases hb) marked)
        (fun b marked hb => blank_address_cons (fun c hc => ?_) marked) htext hstop hfills
      have hall : ∀ c, isStop c = true → isDigit c = false := by decide +kernel
      exact Option.some.inj hc ▸ hall b hb

/-! ### The third pass -/

/-- Where no scheme stands nothing changes. -/
theorem inDevice_cons {x : Option UInt8} {marked : List (Option UInt8)}
    (h : ¬scheme.map some <+: x :: marked) (place : Nat) :
    InDevice (x :: marked) place ↔ ∃ later, place = later + 1 ∧ InDevice marked later := by
  constructor
  · rintro ⟨left, rest, right, hsplit, hrest, hle, hlt⟩
    cases left with
    | nil => exact absurd ⟨rest ++ right, hsplit.symm⟩ h
    | cons y left =>
      obtain ⟨-, hsplit⟩ := List.cons.inj hsplit
      rw [List.length_cons] at hle hlt
      exact ⟨place - 1, by omega, left, rest, right, hsplit, hrest, by omega, by omega⟩
  · rintro ⟨later, rfl, left, rest, right, hsplit, hrest, hle, hlt⟩
    refine ⟨x :: left, rest, right, by rw [hsplit]; rfl, hrest, ?_, ?_⟩
    · rw [List.length_cons]
      omega
    · rw [List.length_cons]
      omega

/-- No scheme begins with a stop. -/
theorem not_scheme_of_stop {b : UInt8} (hb : isStop b = true) (marked : List (Option UInt8)) :
    ¬scheme.map some <+: some b :: marked := by
  intro hscheme
  have hletter : 0x75 = b := Option.some.inj (List.cons_prefix_cons.1 hscheme).1
  rw [← hletter] at hb
  cases hb

theorem blank_device_cons {x : Option UInt8} {marked : List (Option UInt8)}
    (h : ¬scheme.map some <+: x :: marked) :
    blank (x :: marked) (InDevice (x :: marked)) = x :: blank marked (InDevice marked) := by
  rw [Blanks.blank_cons]
  · congr 1
    refine Blanks.blank_congr fun place => ?_
    rw [inDevice_cons h]
    constructor
    · rintro ⟨later, heq, hlater⟩
      rwa [Nat.succ.inj heq]
    · exact fun hplace => ⟨place, rfl, hplace⟩
  · rw [inDevice_cons h]
    rintro ⟨later, heq, -⟩
    cases heq

/-- Without a stop nothing reaches over the next stop. -/
theorem length_le_of_no_stop {shown right before after : List (Option UInt8)}
    (h : before ++ after = shown ++ right) (hshown : ∀ b, some b ∈ shown → isStop b = false)
    (hafter : Stops isStop after) : shown.length ≤ before.length := by
  obtain ⟨mid, rfl, hmid⟩ | ⟨mid, rfl, -⟩ := List.append_eq_append_iff.1 h
  · cases mid with
    | nil => rw [List.append_nil]
    | cons x mid =>
      obtain rfl | ⟨b, rest, rfl, hb⟩ := hafter
      · cases hmid
      · have hno := hshown b
          (List.mem_append_right _ ((List.cons.inj hmid).1 ▸ List.mem_cons_self))
        rw [hb] at hno
        cases hno
  · rw [List.length_append]
    exact Nat.le_add_right ..

/-- No scheme begins within another one. -/
theorem scheme_no_border : ∀ skipped < 9, 0 < skipped →
    ¬(scheme.map some).drop skipped <+: scheme.map some := by decide

/-- **Behind a scheme** all is replaced up to the next stop. -/
theorem inDevice_scheme {before after : List (Option UInt8)}
    (hbefore : ∀ b, some b ∈ before → isStop b = false) (hafter : Stops isStop after)
    (place : Nat) :
    InDevice (scheme.map some ++ (before ++ after)) place ↔
      (9 ≤ place ∧ place < 9 + before.length) ∨
        ∃ later, place = 9 + before.length + later ∧ InDevice after later := by
  have hscheme : ∀ b, some b ∈ scheme.map some → isStop b = false := by
    intro b hmem
    obtain ⟨c, hc, heq⟩ := List.mem_map.1 hmem
    have hall : ∀ c ∈ scheme, isStop c = false := by decide +kernel
    exact Option.some.inj heq ▸ hall c hc
  constructor
  · rintro ⟨left, rest, right, hsplit, hrest, hle, hlt⟩
    -- a scheme behind this one
    have hlater {mid : List (Option UInt8)} (hleft : left = scheme.map some ++ mid)
        (hmid : before ++ after = mid ++ (scheme.map some ++ (rest ++ right))) :
        (9 ≤ place ∧ place < 9 + before.length) ∨
          ∃ later, place = 9 + before.length + later ∧ InDevice after later := by
      rw [hleft, List.length_append, List.length_map, show scheme.length = 9 from rfl] at hle hlt
      obtain ⟨more, rfl, hmore⟩ | ⟨more, rfl, hmore⟩ := List.append_eq_append_iff.1 hmid
      · rw [List.length_append] at hle hlt
        exact .inr ⟨place - (9 + before.length), by omega, more, rest, right, hmore, hrest,
          by omega, by omega⟩
      · left
        have hwhole : mid ++ more ++ after = (mid ++ (scheme.map some ++ rest)) ++ right := by
          rw [hmid]
          simp only [List.append_assoc]
        have hbound := length_le_of_no_stop hwhole (by
          intro b hmem
          rw [List.mem_append, List.mem_append] at hmem
          obtain hmem | hmem | hmem := hmem
          · exact hbefore b (List.mem_append_left _ hmem)
          · exact hscheme b hmem
          · exact hrest b hmem) hafter
        simp only [List.length_append, List.length_map, show scheme.length = 9 from rfl]
          at hbound ⊢
        omega
    obtain ⟨mid, hleft, hmid⟩ | ⟨mid, hmap, hmid⟩ := List.append_eq_append_iff.1 hsplit
    · exact hlater hleft hmid
    · by_cases hnil : left = []
      · left
        rw [hnil, List.nil_append] at hmap
        rw [← hmap, List.append_cancel_left_eq] at hmid
        have hbound := length_le_of_no_stop hmid.symm hrest hafter
        rw [hnil, List.length_nil] at hle hlt
        omega
      · obtain rfl | hne := eq_or_ne mid []
        · rw [List.append_nil] at hmap
          have hbehind : before ++ after = [] ++ (scheme.map some ++ (rest ++ right)) := hmid.symm
          exact hlater (by rw [hmap, List.append_nil]) hbehind
        · have hlength := congrArg List.length hmap
          have hleft := List.length_pos_iff.2 hnil
          have hmidPos := List.length_pos_iff.2 hne
          rw [List.length_append, List.length_map, show scheme.length = 9 from rfl] at hlength
          have hborder : mid = (scheme.map some).drop left.length := by
            rw [hmap, List.drop_left]
          have hstarts : mid <+: scheme.map some :=
            List.prefix_of_prefix_length_le ⟨_, hmid.symm⟩ (List.prefix_append _ _) (by
              rw [List.length_map, show scheme.length = 9 from rfl]
              omega)
          rw [hborder] at hstarts
          exact absurd hstarts (scheme_no_border left.length (by omega) hleft)
  · rintro (⟨hle, hlt⟩ | ⟨later, rfl, left, rest, right, rfl, hrest, hle, hlt⟩)
    · refine ⟨[], before, after, rfl, hbefore, ?_, ?_⟩
      · rwa [List.length_nil, Nat.zero_add]
      · rwa [List.length_nil, Nat.zero_add]
    · refine ⟨scheme.map some ++ (before ++ left), rest, right, ?_, hrest, ?_, ?_⟩
      · simp only [List.append_assoc]
      · simp only [List.length_append, List.length_map, show scheme.length = 9 from rfl]
        omega
      · simp only [List.length_append, List.length_map, show scheme.length = 9 from rfl]
        omega

theorem blank_device_scheme {before after : List (Option UInt8)}
    (hbefore : ∀ b, some b ∈ before → isStop b = false) (hafter : Stops isStop after) :
    blank (scheme.map some ++ (before ++ after))
        (InDevice (scheme.map some ++ (before ++ after))) =
      scheme.map some ++
        (List.replicate before.length none ++ blank after (InDevice after)) := by
  have hin := inDevice_scheme hbefore hafter
  have hlength : (scheme.map some).length = 9 := rfl
  rw [Blanks.blank_append, Blanks.blank_append, Blanks.blank_none, Blanks.blank_all]
  · congr 2
    refine Blanks.blank_congr fun place => ?_
    rw [hin, hlength]
    constructor
    · rintro (⟨-, hlt⟩ | ⟨later, heq, hlater⟩)
      · omega
      · obtain rfl : place = later := by omega
        exact hlater
    · exact fun hplace => .inr ⟨place, by omega, hplace⟩
  · intro place hlt
    rw [hin, hlength]
    exact .inl ⟨by omega, by omega⟩
  · intro place hlt hplace
    rw [hlength] at hlt
    obtain ⟨hle, -⟩ | ⟨later, heq, -⟩ := (hin place).1 hplace
    · omega
    · omega

theorem redactDevices_end {text : Bytes} {start : Nat} (h : text.length ≤ start) :
    redactDevices text start = text := by
  have hfind : find scheme text start = none := by
    rw [find, List.drop_eq_nil_of_le h]
    rfl
  rw [redactDevices, hfind]

/-- Where no scheme stands the search goes on. -/
theorem redactDevices_step {done rest : Bytes} {b : UInt8} (h : ¬scheme <+: b :: rest) :
    redactDevices (done ++ b :: rest) done.length =
      redactDevices (done ++ b :: rest) (done.length + 1) := by
  have hfind : find scheme (done ++ b :: rest) done.length =
      find scheme (done ++ b :: rest) (done.length + 1) := by
    rw [find, find, List.drop_left, ← List.drop_drop, List.drop_left, List.drop_succ_cons,
      List.drop_zero, Search.first, if_neg h, Option.map_map]
    congr 1
    funext pos
    show pos + 1 + done.length = pos + (done.length + 1)
    omega
  rw [redactDevices.eq_def, hfind, ← redactDevices.eq_def]

/-- Where no scheme stands the search goes on behind the text. -/
theorem redactDevices_skip (done : Bytes) {text rest : Bytes}
    (h : ∀ left b right, text = left ++ b :: right → ¬scheme <+: b :: (right ++ rest)) :
    redactDevices (done ++ (text ++ rest)) done.length =
      redactDevices (done ++ text ++ rest) (done ++ text).length := by
  induction text generalizing done with
  | nil => rw [List.append_nil, List.nil_append]
  | cons b text ih =>
    have hstep : redactDevices (done ++ (b :: text ++ rest)) done.length =
        redactDevices (done ++ (b :: text ++ rest)) (done.length + 1) :=
      redactDevices_step (h [] b text rfl)
    have hnext := ih (done ++ [b]) fun left c right hsplit =>
      h (b :: left) c right (by rw [hsplit]; rfl)
    rw [hstep]
    simpa only [List.append_assoc, List.nil_append, List.cons_append, List.length_append,
      List.length_nil, List.length_cons, Nat.zero_add, Nat.add_assoc, Nat.add_comm 1] using hnext

theorem isStop_of_dropWhile (rest : Bytes) (b : UInt8) (tail : Bytes)
    (h : (rest.dropWhile fun b => !isStop b) = b :: tail) : isStop b = true := by
  have hnot := List.head?_dropWhile_not (fun b => !isStop b) rest
  rw [h] at hnot
  simpa using hnot

/-- Where a scheme stands the search goes on behind the stop that ends its identifier. -/
theorem redactDevices_scheme (done rest : Bytes) :
    redactDevices (done ++ (scheme ++ rest)) done.length =
      redactDevices
        (done ++ (ascii "usbmux://<device>" ++ rest.dropWhile fun b => !isStop b))
        (done.length + 18) := by
  have hfind : find scheme (done ++ (scheme ++ rest)) done.length = some done.length := by
    refine Search.find_eq_some_iff.2 ⟨Nat.le_refl _, ?_, fun earlier hle hlt =>
      absurd hlt (Nat.not_lt_of_le hle)⟩
    rw [OccursAt, List.drop_left]
    exact List.prefix_append _ _
  have hidentifier : (done ++ (scheme ++ rest)).drop (done.length + 9) = rest := by
    rw [← List.drop_drop, List.drop_left]
    show (scheme ++ rest).drop scheme.length = rest
    rw [List.drop_left]
  have hbehind : ((rest.takeWhile fun b => !isStop b) ++ rest.dropWhile fun b => !isStop b).drop
      (rest.takeWhile fun b => !isStop b).length = rest.dropWhile fun b => !isStop b :=
    List.drop_left
  rw [List.takeWhile_append_dropWhile] at hbehind
  have hstep := redactDevices.eq_def (done ++ (scheme ++ rest)) done.length
  rw [hfind] at hstep
  dsimp only at hstep
  rwa [List.take_left, ← List.drop_drop, hidentifier, hbehind] at hstep

/-- **The third pass** replaces the identifiers of devices. -/
theorem redactDevices_fills {marked : List (Option UInt8)} (done rest : Bytes)
    (h : Fills IsFilling isStop marked rest) :
    ∃ out, redactDevices (done ++ rest) done.length = done ++ out ∧
      Fills IsFilling isStop (blank marked (InDevice marked)) out := by
  have hforeign : Blanks.Foreign IsFilling scheme :=
    forall_filling ⟨0x3C, _, rfl, by decide⟩ ⟨0x3C, _, rfl, by decide⟩ ⟨0x3C, _, rfl, by decide⟩
  have hscheme : ∀ b ∈ scheme, isStop b = false := by decide +kernel
  induction hn : rest.length using Nat.strong_induction_on generalizing done rest marked with
  | h n ih =>
    by_cases hstarts : scheme <+: rest
    · obtain ⟨marked, rest, rfl, rfl, hrest⟩ := h.prefix_split hforeign hscheme hstarts
      obtain ⟨before, after, rfl, hbefore, hafter⟩ := hrest.upTo_stop
        (forall_filling (by decide +kernel) (by decide +kernel) (by decide +kernel))
      have hstep := redactDevices_scheme done rest
      have hlength : (rest.dropWhile fun b => !isStop b).length ≤ rest.length :=
        (List.dropWhile_suffix _).length_le
      have hstops := isStop_of_dropWhile rest
      generalize rest.dropWhile (fun b => !isStop b) = behind at hstep hlength hstops hafter
      -- the search goes on one byte behind the next stop
      have hrest : ∃ out, redactDevices (done ++ (ascii "usbmux://<device>" ++ behind))
          (done.length + 18) = done ++ (ascii "usbmux://<device>" ++ out) ∧
            Fills IsFilling isStop (blank after (InDevice after)) out ∧
              Stops isStop after ∧ Stops isStop (blank after (InDevice after)) := by
        cases behind with
        | nil =>
          obtain rfl := hafter.eq_nil (forall_filling (by decide) (by decide) (by decide))
          refine ⟨[], redactDevices_end ?_, Fills.nil, .inl rfl, .inl rfl⟩
          rw [List.append_nil, List.length_append]
          exact Nat.add_le_add_left (by decide) _
        | cons b tail =>
          have hb := hstops b tail rfl
          obtain ⟨after, rfl, htail⟩ := hafter.of_stop hb
            (forall_filling ⟨0x3C, _, rfl, rfl⟩ ⟨0x3C, _, rfl, rfl⟩ ⟨0x3C, _, rfl, rfl⟩)
          obtain ⟨out, hout, hfills⟩ := ih tail.length (by
            rw [List.length_append] at hn
            rw [List.length_cons] at hlength
            omega) (done ++ (ascii "usbmux://<device>" ++ [b])) tail htail rfl
          have hmarked : ¬scheme.map some <+: some b :: after := not_scheme_of_stop hb after
          refine ⟨b :: out, ?_, ?_, .inr (Blanks.begins_map_cons.2 hb), ?_⟩
          · rw [List.length_append, show (ascii "usbmux://<device>" ++ [b]).length = 18 from rfl]
              at hout
            simpa only [List.append_assoc, List.singleton_append] using hout
          · rw [blank_device_cons hmarked]
            exact Fills.keep b hfills
          · rw [blank_device_cons hmarked]
            exact .inr (Blanks.begins_map_cons.2 hb)
      obtain ⟨out, hout, hfills, hstop, hblank⟩ := hrest
      refine ⟨ascii "usbmux://<device>" ++ out, hstep.trans hout, ?_⟩
      rw [blank_device_scheme hbefore hstop]
      exact Fills.append (Fills.fill before.length (.inr (.inr rfl)) (fun _ => hblank) hfills)
    · have hmarked := fun hmap => hstarts ((h.prefix_iff hforeign hscheme).2 hmap)
      cases h with
      | nil => exact ⟨[], redactDevices_end (by rw [List.append_nil]), Fills.nil⟩
      | @keep b marked rest hrest =>
        obtain ⟨out, hout, hfills⟩ := ih rest.length (by rw [← hn]; exact Nat.lt_succ_self _)
          (done ++ [b]) rest hrest rfl
        rw [List.length_append, List.append_assoc] at hout
        refine ⟨b :: out, ?_, ?_⟩
        · rw [redactDevices_step hstarts]
          rw [List.append_assoc] at hout
          exact hout
        · rw [blank_device_cons hmarked]
          exact Fills.keep b hfills
      | @fill blanks text marked rest htext hstop hrest =>
        have hskip : redactDevices (done ++ (text ++ rest)) done.length =
            redactDevices (done ++ text ++ rest) (done ++ text).length := by
          refine redactDevices_skip done fun left b right hsplit hscheme => ?_
          have hletter : 0x75 ∉ text := forall_filling (p := fun text => 0x75 ∉ text)
            (by decide) (by decide) (by decide) text htext
          have hb : 0x75 = b := (List.cons_prefix_cons.1 hscheme).1
          rw [hsplit, hb] at hletter
          exact hletter (List.mem_append_right _ List.mem_cons_self)
        obtain ⟨out, hout, hfills⟩ := ih rest.length (by
          have hpos := List.length_pos_iff.2
            (forall_filling (p := (· ≠ [])) (by decide) (by decide) (by decide) text htext)
          rw [List.length_append] at hn
          omega) (done ++ text) rest hrest rfl
        refine ⟨text ++ out, by rw [hskip, hout, List.append_assoc],
          fills_blanks (fun marked => blank_device_cons ?_)
            (fun b marked hb => blank_device_cons ?_) htext hstop hfills⟩
        · intro hscheme
          cases (List.cons_prefix_cons.1 hscheme).1
        · exact not_scheme_of_stop hb marked

/-! ### The three passes together -/

/-- A report that shows all its bytes. -/
abbrev shown (text : Bytes) : List (Option UInt8) := text.map some

/-- The report behind the first pass. -/
noncomputable def withoutProfiles (userProfile text : Bytes) : List (Option UInt8) :=
  blank (shown text) (InProfile userProfile text)

/-- The report behind the second pass. -/
noncomputable def withoutAddresses (userProfile text : Bytes) : List (Option UInt8) :=
  blank (withoutProfiles userProfile text) (InAddress (withoutProfiles userProfile text))

/-- **What is replaced** at all: a profile path, an address in what is left then, or what follows
the scheme of a device in what is left after that. -/
def Replaced (userProfile text : Bytes) (place : Nat) : Prop :=
  InProfile userProfile text place ∨ InAddress (withoutProfiles userProfile text) place ∨
    InDevice (withoutAddresses userProfile text) place

/-- The report behind the third pass. -/
theorem blank_replaced (text userProfile : Bytes) :
    blank (shown text) (Replaced userProfile text) =
      blank (withoutAddresses userProfile text) (InDevice (withoutAddresses userProfile text)) := by
  conv_rhs => rw [withoutAddresses, withoutProfiles, Blanks.blank_blank, Blanks.blank_blank]
  rfl

/-- **What `RedactDiagnosticsText` writes.** -/
theorem redactDiagnosticsText_fills (text userProfile : Bytes) :
    Fills IsFilling isStop (blank (shown text) (Replaced userProfile text))
      (redactDiagnosticsText text userProfile) := by
  have hprofile : ∃ out, (if h : userProfile ≠ [] then replaceProfile userProfile h text 0
      else text) = out ∧ Fills IsFilling isStop (withoutProfiles userProfile text) out := by
    by_cases h : userProfile ≠ []
    · rw [dif_pos h]
      exact replaceProfile_fills h [] text
    · refine ⟨text, by rw [dif_neg h], ?_⟩
      rw [withoutProfiles, Blanks.blank_none]
      · exact Fills.of_map text
      · rintro place - ⟨pos, -, hle, hlt⟩
        rw [not_not.1 h, List.length_nil] at hlt
        omega
  obtain ⟨first, hfirst, hfills⟩ := hprofile
  obtain ⟨second, hsecond, hfills⟩ := redactAddresses_fills [] first hfills
  obtain ⟨third, hthird, hfills⟩ := redactDevices_fills [] second hfills
  have hout : redactDevices (redactAddresses first 0) 0 = third := by
    rw [show redactAddresses first 0 = second from hsecond]
    exact hthird
  rw [redactDiagnosticsText, hfirst, blank_replaced]
  exact hout ▸ hfills

end SecondDisplay.Redaction
