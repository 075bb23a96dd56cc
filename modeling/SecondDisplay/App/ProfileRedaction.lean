import SecondDisplay.App.AddressRedaction

/-!
# The profile path in reports (`app/UiModel.cpp`)

A profile path has a backslash and no angle brackets, and all that `RedactDiagnosticsText` writes is
in angle brackets and has no backslash.  So no new profile path comes about next to what is written,
and none of the old ones is left.  A second run finds no profile path, no address and only
identifiers that are `<device>` already (`profile_removed`).
-/

namespace SecondDisplay.Redaction

open Search (find OccursAt)
open Blanks (blank Fills RunAt)

/-! ### The first pass -/

section

variable {text userProfile : Bytes}

/-- A search up to an occurrence finds that one, or one in front of it. -/
theorem exists_find_le {start pos : Nat} (hle : start ≤ pos) (h : OccursAt userProfile text pos) :
    ∃ first, find userProfile text start = some first ∧ start ≤ first ∧ first ≤ pos := by
  cases hfind : find userProfile text start with
  | none => exact absurd h (Search.find_eq_none_iff.1 hfind pos hle)
  | some first =>
    obtain ⟨hstart, -, hleast⟩ := Search.find_eq_some_iff.1 hfind
    exact ⟨first, rfl, hstart, Nat.le_of_not_lt fun hlt => hleast pos hle hlt h⟩

/-- From one profile path that is replaced to the last one in front of an occurrence. -/
theorem inProfile_of_found (hne : userProfile ≠ []) {last pos : Nat}
    (hlast : Found userProfile text last) (hle : last ≤ pos)
    (h : OccursAt userProfile text pos) : InProfile userProfile text pos := by
  induction hn : pos - last using Nat.strong_induction_on generalizing last with
  | h n ih =>
    by_cases hlt : pos < last + userProfile.length
    · exact ⟨last, hlast, hle, hlt⟩
    · obtain ⟨next, hnext, hstart, hbound⟩ := exists_find_le (Nat.le_of_not_lt hlt) h
      have hpos := List.length_pos_iff.2 hne
      exact ih (pos - next) (by omega) (Found.next hlast hnext) hbound rfl

/-- **Of every profile path the first byte is replaced.** -/
theorem inProfile_of_occursAt (hne : userProfile ≠ []) {pos : Nat}
    (h : OccursAt userProfile text pos) : InProfile userProfile text pos := by
  obtain ⟨first, hfirst, -, hbound⟩ := exists_find_le (Nat.zero_le pos) h
  exact inProfile_of_found hne (Found.first hfirst) hbound h

/-- **No profile path is left.** -/
theorem profile_not_written (text : Bytes) (hbackslash : 0x5C ∈ userProfile)
    (hopen : 0x3C ∉ userProfile) (hclose : 0x3E ∉ userProfile) :
    ¬userProfile <:+: redactDiagnosticsText text userProfile := by
  intro hstands
  have hne := List.ne_nil_of_mem hbackslash
  have hshown := (redactDiagnosticsText_fills text userProfile).stands_of
    (forall_filling ⟨ascii "profile", rfl⟩ ⟨ascii "ip", rfl⟩ ⟨ascii "device", rfl⟩) hopen hclose
    hbackslash (forall_filling (by decide) (by decide) (by decide)) hstands
  obtain ⟨pos, hoccurs, hkept⟩ := Blanks.map_infix_blank.1 hshown
  exact hkept 0 (List.length_pos_iff.2 hne) (.inl (inProfile_of_occursAt hne hoccurs))

theorem replaceProfile_of_absent (hne : userProfile ≠ []) (h : ¬userProfile <:+: text) :
    replaceProfile userProfile hne text 0 = text := by
  have hnone : find userProfile text 0 = none :=
    Search.find_eq_none_iff.2 fun pos _ hoccurs =>
      h (Blanks.infix_iff_occursAt.2 ⟨pos, hoccurs⟩)
  rw [replaceProfile, hnone]

end

/-! ### The second pass -/

/-- No run of digits and dots is an address, behind its dots. -/
def WithoutAddress (marked : List (Option UInt8)) : Prop :=
  ∀ pos run, RunAt isAddressByte marked pos run → isAddress (run.dropWhile isDot) = false

theorem not_isAddress_nil : isAddress [] = false := by decide +kernel

/-- What is behind the second pass and the third one. -/
theorem withoutAddress_replaced (text userProfile : Bytes) :
    WithoutAddress (blank (shown text) (Replaced userProfile text)) := by
  intro pos run hrun
  by_cases hne : run.dropWhile isDot = []
  · rw [hne, not_isAddress_nil]
  · have hnil : run ≠ [] := fun hnil => hne (by rw [hnil]; rfl)
    rw [blank_replaced, runAt_blank_device hnil, withoutAddresses, runAt_blank_address hne] at hrun
    exact hrun.1.2

/-- **The fillings make no address.** -/
theorem withoutAddress_redactDiagnosticsText (text userProfile : Bytes) :
    WithoutAddress (shown (redactDiagnosticsText text userProfile)) := by
  intro pos run hrun
  by_cases hnil : run = []
  · rw [hnil]
    exact not_isAddress_nil
  · have hhas := (Blanks.exists_runAt_iff hnil hrun.inside).2 ⟨pos, hrun⟩
    rw [(redactDiagnosticsText_fills text userProfile).hasRun_iff isFilling_not_address
      isStop_not_address hnil hrun.inside, Blanks.exists_runAt_iff hnil hrun.inside] at hhas
    obtain ⟨pos', hrun'⟩ := hhas
    exact withoutAddress_replaced text userProfile pos' run hrun'

/-- A text behind which a run begins, or has had only dots so far. -/
def AtRun (done : Bytes) : Prop :=
  ∃ front dots, done = front ++ dots ∧ (∀ b ∈ dots, isDot b = true) ∧
    ∀ b ∈ front.getLast?, isAddressByte b = false

theorem atRun_nil : AtRun [] := by
  refine ⟨[], [], rfl, fun b hmem => ?_, fun b hmem => ?_⟩
  · cases hmem
  · cases hmem

theorem atRun_other {done : Bytes} {b : UInt8} (hb : isAddressByte b = false) :
    AtRun (done ++ [b]) := by
  refine ⟨done ++ [b], [], (List.append_nil _).symm, fun c hmem => ?_, fun c hmem => ?_⟩
  · cases hmem
  · rw [List.getLast?_concat] at hmem
    obtain rfl := Option.some.inj hmem
    exact hb

theorem AtRun.dot {done : Bytes} {b : UInt8} (h : AtRun done) (hb : isDot b = true) :
    AtRun (done ++ [b]) := by
  obtain ⟨front, dots, rfl, hdots, hfront⟩ := h
  refine ⟨front, dots ++ [b], List.append_assoc .., fun c hmem => ?_, hfront⟩
  obtain hmem | hmem := List.mem_append.1 hmem
  · exact hdots c hmem
  · rw [List.mem_singleton.1 hmem]
    exact hb

theorem AtRun.next {done : Bytes} {b : UInt8} (h : AtRun done) (hb : isDigit b = false) :
    AtRun (done ++ [b]) := by
  cases hdot : isDot b with
  | true => exact h.dot hdot
  | false => exact atRun_other (by rw [isAddressByte, hb, hdot]; rfl)

/-- The run that the second pass takes, with the dots in front of it. -/
theorem AtRun.runAt {done run behind : Bytes} {b : UInt8} (h : AtRun done)
    (hrun : ∀ c ∈ b :: run, isAddressByte c = true)
    (hbehind : ∀ c ∈ behind.head?, isAddressByte c = false) :
    ∃ pos dots, (∀ c ∈ dots, isDot c = true) ∧
      RunAt isAddressByte (shown (done ++ (b :: run ++ behind))) pos (dots ++ b :: run) := by
  obtain ⟨front, dots, rfl, hdots, hfront⟩ := h
  refine ⟨front.length, dots, hdots, (Blanks.runAt_iff (by
    rw [ne_eq, List.append_eq_nil_iff]
    rintro ⟨-, hnil⟩
    cases hnil)).2 ⟨fun c hmem => ?_, shown front, shown behind, ?_, ?_, ?_, ?_⟩⟩
  · obtain hmem | hmem := List.mem_append.1 hmem
    · rw [isAddressByte, hdots c hmem, Bool.or_true]
    · exact hrun c hmem
  · simp only [shown, List.map_append, List.append_assoc]
  · exact List.length_map _
  · rw [← List.map_reverse, not_begins_map_iff, List.head?_reverse]
    exact hfront
  · rwa [not_begins_map_iff]

/-- A byte that is no digit is passed over. -/
theorem redactAddresses_next {done tail : Bytes} {b : UInt8} (hb : isDigit b = false) :
    redactAddresses (done ++ b :: tail) done.length =
      redactAddresses (done ++ [b] ++ tail) (done ++ [b]).length := by
  have hskip : redactAddresses (done ++ ([b] ++ tail)) done.length =
      redactAddresses (done ++ [b] ++ tail) (done ++ [b]).length := by
    refine redactAddresses_skip done tail fun c hmem => ?_
    rw [List.mem_singleton.1 hmem, hb]
  exact hskip

/-- A run that is no address is passed over. -/
theorem redactAddresses_run {done run behind : Bytes} {b : UInt8} (hdigit : isDigit b = true)
    (hrun : ∀ c ∈ b :: run, isAddressByte c = true)
    (hbehind : ∀ c ∈ behind.head?, isAddressByte c = false) (hno : isAddress (b :: run) = false) :
    redactAddresses (done ++ (b :: run ++ behind)) done.length =
      redactAddresses (done ++ b :: run ++ behind) (done ++ b :: run).length := by
  have htake : (b :: run ++ behind).takeWhile isAddressByte = b :: run := by
    rw [List.takeWhile_append_of_pos hrun]
    cases behind with
    | nil => rw [List.takeWhile_nil, List.append_nil]
    | cons c rest =>
      rw [List.takeWhile_cons_of_neg (by rw [hbehind c rfl]; exact Bool.false_ne_true),
        List.append_nil]
  have hstep := redactAddresses.eq_def (done ++ (b :: run ++ behind)) done.length
  rw [List.drop_left] at hstep
  dsimp only [List.cons_append] at hstep
  rw [dif_pos hdigit, ← List.cons_append, htake, hno, if_neg Bool.false_ne_true] at hstep
  rw [hstep, List.append_assoc, List.length_append]

/-- **Without an address the second pass changes nothing.** -/
theorem redactAddresses_of_withoutAddress {done rest : Bytes} (hdone : AtRun done)
    (h : WithoutAddress (shown (done ++ rest))) :
    redactAddresses (done ++ rest) done.length = done ++ rest := by
  induction hn : rest.length using Nat.strong_induction_on generalizing done rest with
  | h n ih =>
    cases rest with
    | nil => rw [redactAddresses, List.drop_left]
    | cons b tail =>
      cases hdigit : isDigit b with
      | false =>
        rw [List.append_cons done b tail] at h
        rw [redactAddresses_next hdigit, List.append_cons done b tail]
        exact ih tail.length (by rw [← hn]; exact Nat.lt_succ_self _) (hdone.next hdigit) h rfl
      | true =>
        have hb : isAddressByte b = true := by rw [isAddressByte, hdigit, Bool.true_or]
        obtain ⟨run, behind, rfl, hrun, hbehind⟩ :
            ∃ run behind, tail = run ++ behind ∧ (∀ c ∈ b :: run, isAddressByte c = true) ∧
              ∀ c ∈ behind.head?, isAddressByte c = false := by
          refine ⟨tail.takeWhile isAddressByte, tail.dropWhile isAddressByte,
            List.takeWhile_append_dropWhile.symm, fun c hc => ?_, fun c hc => ?_⟩
          · obtain rfl | hc := List.mem_cons.1 hc
            · exact hb
            · exact List.mem_takeWhile_imp hc
          · have hno := List.head?_dropWhile_not isAddressByte tail
            rw [Option.mem_def.1 hc] at hno
            exact hno
        rw [← List.cons_append] at h ⊢
        have hno : isAddress (b :: run) = false := by
          obtain ⟨pos, dots, hdots, hat⟩ := hdone.runAt hrun hbehind
          have hwithout := h pos _ hat
          rwa [List.dropWhile_append_of_pos hdots, List.dropWhile_cons_of_neg (by
            rw [isDot_of_isDigit b hdigit]; exact Bool.false_ne_true)] at hwithout
        rw [redactAddresses_run hdigit hrun hbehind hno]
        cases behind with
        | nil => rw [redactAddresses, List.drop_left, List.append_assoc]
        | cons c rest =>
          have hc : isAddressByte c = false := hbehind c rfl
          rw [← List.append_assoc, List.append_cons (done ++ b :: run) c rest] at h
          rw [redactAddresses_next (isAddressByte_of_isDigit c hc), ← List.append_assoc,
            List.append_cons (done ++ b :: run) c rest]
          refine ih rest.length ?_ (atRun_other hc) h rfl
          rw [← hn]
          simp only [List.length_cons, List.length_append]
          omega

/-! ### The third pass -/

/-- Behind a byte at which no scheme stands, none does when the text that follows is the same as far
as a scheme reaches. -/
theorem not_scheme_of_take {b : UInt8} {rest out : Bytes} (h : ¬scheme <+: b :: rest)
    (hsame : out.take 9 = rest.take 9) : ¬scheme <+: b :: out := by
  have htake (text : Bytes) : scheme <+: b :: text ↔ scheme = b :: (text.take 9).take 8 := by
    rw [List.prefix_iff_eq_take, List.take_take]
    exact Iff.rfl
  rwa [htake, hsame, ← htake]

theorem redactDevices_next {done tail : Bytes} {b : UInt8} (h : ¬scheme <+: b :: tail) :
    redactDevices (done ++ b :: tail) done.length =
      redactDevices (done ++ [b] ++ tail) (done ++ [b]).length := by
  rw [redactDevices_step h, List.append_cons done b tail, List.length_append]
  rfl

/-- What the third pass writes. -/
def device : Bytes := ascii "usbmux://<device>"

/-- An identifier that is replaced already stays. -/
theorem redactDevices_device (done : Bytes) {behind : Bytes}
    (hstops : ∀ b tail, behind = b :: tail → isStop b = true) :
    redactDevices (done ++ (device ++ behind)) done.length =
      redactDevices (done ++ (device ++ behind)) (done.length + 18) := by
  have hdrop : (ascii "<device>" ++ behind).dropWhile (fun b => !isStop b) = behind := by
    rw [List.dropWhile_append_of_pos (by decide +kernel)]
    cases behind with
    | nil => rfl
    | cons b tail =>
      rw [List.dropWhile_cons_of_neg]
      rw [hstops b tail rfl]
      exact Bool.false_ne_true
  have hstep := redactDevices_scheme done (ascii "<device>" ++ behind)
  rw [hdrop, ← List.append_assoc scheme] at hstep
  exact hstep

/-- The search goes on behind the stop. -/
theorem redactDevices_behind (done tail : Bytes) (b : UInt8) :
    redactDevices (done ++ (device ++ b :: tail)) (done.length + 18) =
      redactDevices (done ++ (device ++ [b]) ++ tail) (done ++ (device ++ [b])).length := by
  rw [List.length_append, show (device ++ [b]).length = 18 from rfl]
  simp only [List.append_assoc, List.singleton_append]

/-- **The third pass changes nothing behind itself.**  It writes as much of a text as a scheme is
long, so no scheme comes about where there was none. -/
theorem redactDevices_again (done rest : Bytes) :
    ∃ out, redactDevices (done ++ rest) done.length = done ++ out ∧
      out.take 9 = rest.take 9 ∧
        ∀ done', redactDevices (done' ++ out) done'.length = done' ++ out := by
  induction hn : rest.length using Nat.strong_induction_on generalizing done rest with
  | h n ih =>
    by_cases hstarts : scheme <+: rest
    · obtain ⟨rest, rfl⟩ := hstarts
      have hstep : redactDevices (done ++ (scheme ++ rest)) done.length = redactDevices
          (done ++ (device ++ rest.dropWhile fun b => !isStop b)) (done.length + 18) :=
        redactDevices_scheme done rest
      have hlength : (rest.dropWhile fun b => !isStop b).length ≤ rest.length :=
        (List.dropWhile_suffix _).length_le
      have hstops := isStop_of_dropWhile rest
      generalize rest.dropWhile (fun b => !isStop b) = behind at hstep hlength hstops
      cases behind with
      | nil =>
        have hend (front : Bytes) : redactDevices (front ++ (device ++ [])) (front.length + 18) =
            front ++ (device ++ []) := by
          refine redactDevices_end ?_
          rw [List.append_nil, List.length_append]
          exact Nat.add_le_add_left (by decide) _
        exact ⟨device ++ [], by rw [hstep, hend], rfl,
          fun done' => by rw [redactDevices_device done' hstops, hend]⟩
      | cons b tail =>
        obtain ⟨out, hout, -, hagain⟩ := ih tail.length (by
          rw [List.length_append] at hn
          rw [List.length_cons] at hlength
          omega) (done ++ (device ++ [b])) tail rfl
        have hstop (c : UInt8) (more : Bytes) (h : b :: out = c :: more) : isStop c = true := by
          rw [← (List.cons.inj h).1]
          exact hstops b tail rfl
        have hwhole (front : Bytes) : front ++ (device ++ [b]) ++ out =
            front ++ (device ++ b :: out) := by
          simp only [List.append_assoc, List.singleton_append]
        refine ⟨device ++ b :: out, ?_, rfl, fun done' => ?_⟩
        · rw [hstep, redactDevices_behind, hout, hwhole]
        · rw [redactDevices_device done' hstop, redactDevices_behind, hagain, hwhole]
    · cases rest with
      | nil =>
        refine ⟨[], redactDevices_end ?_, rfl, fun done' => redactDevices_end ?_⟩
        · rw [List.append_nil]
        · rw [List.append_nil]
      | cons b tail =>
        obtain ⟨out, hout, hsame, hagain⟩ := ih tail.length (by rw [← hn]; exact Nat.lt_succ_self _)
          (done ++ [b]) tail rfl
        have hnone := not_scheme_of_take hstarts hsame
        refine ⟨b :: out, ?_, ?_, fun done' => ?_⟩
        · rw [redactDevices_next hstarts, hout, List.append_cons done b out]
        · rw [List.take_succ_cons, List.take_succ_cons]
          have htake := congrArg (List.take 8) hsame
          rw [List.take_take, List.take_take] at htake
          exact congrArg (b :: ·) htake
        · rw [redactDevices_next hnone, hagain, List.append_cons done' b out]

/-! ### The three passes together -/

/-- **The profile path never stays in a report**, and a second run changes nothing. -/
theorem profile_removed (text userProfile : Bytes) (hbackslash : 0x5C ∈ userProfile)
    (hopen : 0x3C ∉ userProfile) (hclose : 0x3E ∉ userProfile) :
    ¬userProfile <:+: redactDiagnosticsText text userProfile ∧
      redactDiagnosticsText (redactDiagnosticsText text userProfile) userProfile =
        redactDiagnosticsText text userProfile := by
  have hne := List.ne_nil_of_mem hbackslash
  have hgone := profile_not_written text hbackslash hopen hclose
  refine ⟨hgone, ?_⟩
  -- pass by pass over what was written
  have haddresses : redactAddresses (redactDiagnosticsText text userProfile) 0 =
      redactDiagnosticsText text userProfile :=
    redactAddresses_of_withoutAddress atRun_nil
      (withoutAddress_redactDiagnosticsText text userProfile)
  have hdevices : redactDevices (redactDiagnosticsText text userProfile) 0 =
      redactDiagnosticsText text userProfile := by
    obtain ⟨out, hout, -, hagain⟩ := redactDevices_again [] (redactAddresses
      (if h : userProfile ≠ [] then replaceProfile userProfile h text 0 else text) 0)
    have hwritten : redactDiagnosticsText text userProfile = out := hout
    rw [hwritten]
    exact hagain []
  conv_lhs => rw [redactDiagnosticsText]
  rw [dif_pos hne, replaceProfile_of_absent hne hgone, haddresses, hdevices]

/-- A path and the file in it. -/
theorem profile_removed_tester :
    ¬ascii "C:\\Users\\Tester" <:+: redactDiagnosticsText
      (ascii "C:\\Users\\Tester\\AppData") (ascii "C:\\Users\\Tester") :=
  (profile_removed (ascii "C:\\Users\\Tester\\AppData") (ascii "C:\\Users\\Tester")
    (by decide +kernel) (by decide +kernel) (by decide +kernel)).1

end SecondDisplay.Redaction
