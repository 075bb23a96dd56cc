import SecondDisplay.App.RunLoop
import SecondDisplay.Display.ResolutionSlots
import SecondDisplay.Net.UsbMuxList

/-!
# Registering a resolution with a prompt (`EnsureResolution`, `SelfElevateRegister` and `main.cpp`)

Only an administrator can write the custom modes.  `EnsureResolution` tries it, and otherwise starts
the program a second time, with the size on its command line and behind one prompt; the second
process reads the size back with checks of its own and registers it.  The two ends have the same
idea of a size (`parseSafeResolution_iff`), so that one accepted prompt is enough for every panel
(`registerStage_unelevated`).
-/

namespace SecondDisplay.ResolutionSlots

open Config (decimal)
open UsbMux (strtoul unsigned IsDecimal isDecimal_decimal strtoul_of_isDecimal)
open RunLoop (normalizePanelSize)

/-! ### The command line -/

/-- `errno == ERANGE` after `strtoul`. -/
def outOfRange (text : Bytes) : Bool :=
  decide (4294967296 ≤ JsonParser.digitsValue
    ((unsigned (text.dropWhile isSpace)).takeWhile isDigit))

/-- `parseAxis`.  A text is an argument, or missing. -/
def parseAxis : Option Bytes → Option UInt32
  | none => none
  | some text =>
    if text = [] then none
    else
      let parsed := strtoul text
      if outOfRange text = true ∨ parsed.2 = text ∨ parsed.2 ≠ [] ∨ parsed.1 < 320 ∨
          8192 < parsed.1 ∨ parsed.1 % 2 ≠ 0 then none
      else some (UInt32.ofNat parsed.1)

/-- `ParseSafeResolution`. -/
def parseSafeResolution (widthText heightText : Option Bytes) : Option (UInt32 × UInt32) :=
  match parseAxis widthText, parseAxis heightText with
  | some width, some height =>
    if width.toNat * height.toNat ≤ 8192 * 4096 then some (width, height) else none
  | _, _ => none

/-- What separates the arguments of a command line. -/
def isBlank (b : UInt8) : Bool := b == 0x20 || b == 0x09

/-- The arguments of a command line without quotes and backslashes. -/
def splitArguments (line : Bytes) : List Bytes :=
  match _ : line.dropWhile isBlank with
  | [] => []
  | b :: rest =>
    (b :: rest.takeWhile fun c => !isBlank c) ::
      splitArguments (rest.dropWhile fun c => !isBlank c)
termination_by line.length
decreasing_by
  have hline := (List.dropWhile_suffix (l := line) isBlank).length_le
  have hrest := (List.dropWhile_suffix (l := rest) fun c => !isBlank c).length_le
  rename_i hsplit
  rw [hsplit, List.length_cons] at hline
  omega

/-- `--register-resolution`. -/
def kRegister : Bytes := ascii "--register-resolution"

/-- The `args` of `SelfElevateRegister`. -/
def helperArguments (width height : UInt32) : Bytes :=
  kRegister ++ (0x20 :: (decimal width.toNat ++ (0x20 :: decimal height.toNat)))

/-! ### The second process -/

/-- What the second process meets: its path, whether `WSAStartup` succeeds, and which of the calls
on the keys do. -/
structure Helper where
  exe : Bytes
  started : Bool
  writes : Writes

/-- The branch of `main` for `--register-resolution`: the registry afterwards and the exit code. -/
def helperMain (argv : List Bytes) (helper : Helper) (registry : Registry) : Registry × Int :=
  if helper.started = false then (registry, 1)
  else if argv.length ≠ 4 then (registry, 2)
  else
    match parseSafeResolution argv[2]? argv[3]? with
    | none => (registry, 2)
    | some (w, h) =>
      let after := registerResolutions w h helper.writes registry
      (after.1, if after.2 then 0 else 1)

/-- `SelfElevateRegister`.  There is no second process if the prompt is declined. -/
def selfElevateRegister (width height : UInt32) (helper : Option Helper) (registry : Registry) :
    Registry × Bool :=
  match helper with
  | none => (registry, false)
  | some helper =>
    let argv := helper.exe :: splitArguments (helperArguments width height)
    let after := helperMain argv helper registry
    (after.1, decide (after.2 = 0) && isResolutionRegistered after.1 width height)

/-- The part of `EnsureResolution` that sees to the registration. -/
def registerStage (width height : UInt32) (direct : Writes) (helper : Option Helper)
    (registry : Registry) : Registry × Bool :=
  if isResolutionRegistered registry width height then (registry, true)
  else
    let after := registerResolutions width height direct registry
    if after.2 then (after.1, true) else selfElevateRegister width height helper after.1

/-! ### The same sizes at both ends -/

/-- A size that both ends take. -/
structure Safe (w h : UInt32) : Prop where
  low : 320 ≤ w.toNat ∧ 320 ≤ h.toNat
  high : w.toNat ≤ 8192 ∧ h.toNat ≤ 8192
  even : w.toNat % 2 = 0 ∧ h.toNat % 2 = 0
  area : w.toNat * h.toNat ≤ 8192 * 4096

theorem parseAxis_some {text : Option Bytes} {n : UInt32} (h : parseAxis text = some n) :
    320 ≤ n.toNat ∧ n.toNat ≤ 8192 ∧ n.toNat % 2 = 0 := by
  unfold parseAxis at h
  split at h
  · cases h
  · split at h
    · cases h
    · dsimp only at h
      split at h
      · cases h
      · rename_i text hne hok
        obtain rfl := Option.some.inj h
        rw [UInt32.toNat_ofNat']
        omega

theorem parseAxis_decimal {n : UInt32} (hlow : 320 ≤ n.toNat) (hhigh : n.toNat ≤ 8192)
    (heven : n.toNat % 2 = 0) : parseAxis (some (decimal n.toNat)) = some n := by
  have hdecimal := isDecimal_decimal n.toNat
  have hvalue := Config.digitsValue_decimal n.toNat
  have hne := Config.decimal_ne_nil n.toNat
  have hlt : JsonParser.digitsValue (decimal n.toNat) < 2 ^ 32 := by
    rw [hvalue]
    exact n.toNat_lt
  have hspace : (decimal n.toNat).dropWhile isSpace = decimal n.toNat := by
    obtain ⟨b, rest, hcons⟩ := List.exists_cons_of_ne_nil hne
    have hb := hdecimal.2
    rw [hcons] at hb ⊢
    exact List.dropWhile_cons_of_neg (by simp [isSpace_of_isDigit (hb b List.mem_cons_self)])
  have hrange : outOfRange (decimal n.toNat) = false := by
    rw [outOfRange, hspace, hdecimal.unsigned, List.takeWhile_eq_self_iff.2 hdecimal.2, hvalue]
    have := n.toNat_lt
    exact decide_eq_false (by omega)
  rw [parseAxis, if_neg hne, strtoul_of_isDecimal hdecimal hlt, hrange, hvalue]
  dsimp only
  rw [if_neg, UInt32.ofNat_toNat]
  intro hbad
  obtain h | h | h | h | h | h := hbad
  · cases h
  · exact hne h.symm
  · exact h rfl
  · omega
  · omega
  · exact h heven

/-- What the second process takes. -/
theorem parseSafeResolution_some {widthText heightText : Option Bytes} {w h : UInt32}
    (hparse : parseSafeResolution widthText heightText = some (w, h)) : Safe w h := by
  rw [parseSafeResolution] at hparse
  split at hparse
  · rename_i width height hw hh
    split at hparse
    · rename_i harea
      obtain ⟨rfl, rfl⟩ := Prod.mk.inj (Option.some.inj hparse)
      obtain ⟨hlow, hhigh, heven⟩ := parseAxis_some hw
      obtain ⟨hlow', hhigh', heven'⟩ := parseAxis_some hh
      exact ⟨⟨hlow, hlow'⟩, ⟨hhigh, hhigh'⟩, ⟨heven, heven'⟩, harea⟩
    · cases hparse
  · cases hparse

theorem parseSafeResolution_decimal {w h : UInt32} (hsafe : Safe w h) :
    parseSafeResolution (some (decimal w.toNat)) (some (decimal h.toNat)) = some (w, h) := by
  rw [parseSafeResolution, parseAxis_decimal hsafe.low.1 hsafe.high.1 hsafe.even.1,
    parseAxis_decimal hsafe.low.2 hsafe.high.2 hsafe.even.2]
  exact if_pos hsafe.area

/-- A size without its lowest bit. -/
theorem toNat_clearLow {n : Nat} (hn : n ≤ 8192) :
    (UInt32.ofNat n &&& ~~~1).toNat = n / 2 * 2 := by
  have hhalf : (n &&& 4294967294) / 2 = n / 2 := by
    rw [Nat.and_div_two]
    have hmod := Nat.and_two_pow_sub_one_eq_mod (n / 2) 31
    simp only [Nat.reducePow, Nat.add_one_sub_one] at hmod
    show n / 2 &&& 2147483647 = n / 2
    rw [hmod]
    omega
  have heven : (n &&& 4294967294) % 2 = 0 := by
    have hmod := Nat.and_mod_two_pow (a := n) (b := 4294967294) (n := 1)
    simpa using hmod
  have hvalue : (UInt32.ofNat n &&& ~~~1).toNat = n &&& 4294967294 := by
    rw [UInt32.toNat_and, UInt32.toNat_ofNat']
    show n % 4294967296 &&& 4294967294 = _
    rw [Nat.mod_eq_of_lt (by omega)]
  omega

/-- What `NormalizePanelSize` takes. -/
theorem normalizePanelSize_some {rawWidth rawHeight : Int} {w h : UInt32}
    (hsize : normalizePanelSize rawWidth rawHeight = some (w, h)) : Safe w h := by
  rw [normalizePanelSize] at hsize
  split at hsize
  · cases hsize
  · rename_i hraw
    dsimp only at hsize
    split at hsize
    · obtain ⟨rfl, rfl⟩ := Prod.mk.inj (Option.some.inj hsize)
      have hw := toNat_clearLow (n := rawWidth.toNat) (by omega)
      have hh := toNat_clearLow (n := rawHeight.toNat) (by omega)
      have harea : rawWidth.toNat / 2 * 2 * (rawHeight.toNat / 2 * 2) ≤
          rawWidth.toNat * rawHeight.toNat :=
        Nat.mul_le_mul (Nat.div_mul_le_self _ 2) (Nat.div_mul_le_self _ 2)
      refine ⟨?_, ?_, ?_, ?_⟩
      · omega
      · omega
      · omega
      · rw [hw, hh]
        omega
    · cases hsize

theorem normalizePanelSize_of_safe {w h : UInt32} (hsafe : Safe w h) :
    normalizePanelSize w.toNat h.toNat = some (w, h) := by
  have hclear : ∀ n : UInt32, n.toNat ≤ 8192 → n.toNat % 2 = 0 →
      UInt32.ofNat (n.toNat : Int).toNat &&& ~~~1 = n := by
    intro n hle heven
    apply UInt32.toNat_inj.1
    rw [Int.toNat_natCast, toNat_clearLow hle]
    omega
  obtain ⟨⟨hw, hh⟩, ⟨hw', hh'⟩, ⟨hwe, hhe⟩, harea⟩ := hsafe
  rw [normalizePanelSize, if_neg]
  · rw [hclear w hw' hwe, hclear h hh' hhe]
    have htwo : ∀ n : UInt32, 320 ≤ n.toNat → 2 ≤ n := by
      intro n hle
      rw [UInt32.le_iff_toNat_le]
      show 2 ≤ n.toNat
      omega
    exact if_pos ⟨htwo w hw, htwo h hh⟩
  · intro hbad
    rw [Int.toNat_natCast, Int.toNat_natCast] at hbad
    omega

/-- **Both ends take the same sizes.**  The second process takes a size, from whatever texts, if and
only if it is one that a sender makes of a panel. -/
theorem parseSafeResolution_iff (w h : UInt32) :
    (∃ widthText heightText, parseSafeResolution widthText heightText = some (w, h)) ↔
      ∃ rawWidth rawHeight, normalizePanelSize rawWidth rawHeight = some (w, h) := by
  constructor
  · intro hparse
    obtain ⟨widthText, heightText, hparse⟩ := hparse
    exact ⟨w.toNat, h.toNat, normalizePanelSize_of_safe (parseSafeResolution_some hparse)⟩
  · intro hsize
    obtain ⟨rawWidth, rawHeight, hsize⟩ := hsize
    exact ⟨some (decimal w.toNat), some (decimal h.toNat),
      parseSafeResolution_decimal (normalizePanelSize_some hsize)⟩

/-! ### The command line of the second process -/

theorem splitArguments_eq (line : Bytes) :
    splitArguments line =
      match line.dropWhile isBlank with
      | [] => []
      | b :: rest => (b :: rest.takeWhile fun c => !isBlank c) ::
          splitArguments (rest.dropWhile fun c => !isBlank c) := by
  rw [splitArguments]
  split
  · rename_i hnil
    rw [hnil]
  · rename_i b rest hcons
    rw [hcons]

/-- The first argument of a line, and what is behind it. -/
theorem splitArguments_word {word rest : Bytes} (hne : word ≠ [])
    (hword : ∀ b ∈ word, isBlank b = false) (hrest : ∀ b ∈ rest.head?, isBlank b = true) :
    splitArguments (word ++ rest) = word :: splitArguments rest := by
  obtain ⟨b, word, rfl⟩ := List.exists_cons_of_ne_nil hne
  have hb : ¬isBlank b = true := by simp [hword b List.mem_cons_self]
  have htail : ∀ c ∈ word, (!isBlank c) = true := by
    intro c hc
    simp [hword c (List.mem_cons_of_mem b hc)]
  have hstop : rest.takeWhile (fun c => !isBlank c) = [] ∧
      rest.dropWhile (fun c => !isBlank c) = rest := by
    cases rest with
    | nil => exact ⟨rfl, rfl⟩
    | cons c rest =>
      have hc : isBlank c = true := hrest c rfl
      simp [hc]
  rw [splitArguments_eq, List.cons_append, List.dropWhile_cons_of_neg hb]
  dsimp only
  rw [List.takeWhile_append_of_pos htail, List.dropWhile_append_of_pos htail, hstop.1, hstop.2,
    List.append_nil]

/-- The blank before an argument. -/
theorem splitArguments_blank (rest : Bytes) :
    splitArguments (0x20 :: rest) = splitArguments rest := by
  rw [splitArguments_eq, splitArguments_eq rest, List.dropWhile_cons_of_pos (by decide)]

theorem isBlank_decimal (n : Nat) : ∀ b ∈ decimal n, isBlank b = false := by
  have hdigit : ∀ b, isDigit b = true → isBlank b = false := by decide +kernel
  intro b hb
  exact hdigit b (Config.decimal_all_digits n b hb)

/-- **The second process gets the texts of the size.** -/
theorem splitArguments_helper (width height : UInt32) :
    splitArguments (helperArguments width height) =
      [kRegister, decimal width.toNat, decimal height.toNat] := by
  have hlast : splitArguments (decimal height.toNat) = [decimal height.toNat] := by
    have hword := @splitArguments_word (decimal height.toNat) []
      (Config.decimal_ne_nil height.toNat) (isBlank_decimal height.toNat) (by simp)
    rw [List.append_nil] at hword
    rw [hword, splitArguments_eq]
    rfl
  rw [helperArguments, splitArguments_word (by decide) (by decide +kernel) (by simp [isBlank]),
    splitArguments_blank, splitArguments_word (Config.decimal_ne_nil width.toNat)
      (isBlank_decimal width.toNat) (by simp [isBlank]), splitArguments_blank, hlast]

/-! ### The registration -/

/-- What the second process does with the size of a panel. -/
theorem helperMain_safe {w h : UInt32} (hsafe : Safe w h) (exe : Bytes) (registry : Registry) :
    helperMain (exe :: splitArguments (helperArguments w h)) ⟨exe, true, .succeed⟩ registry =
      ((registerResolutions w h .succeed registry).1, 0) := by
  have hdone : (registerResolutions w h .succeed registry).2 = true :=
    (writeSlots_succeed List.nodup_range registry).1
  rw [helperMain, splitArguments_helper, if_neg (by simp), if_neg (by simp)]
  show (match parseSafeResolution (some (decimal w.toNat)) (some (decimal h.toNat)) with
    | none => (registry, (2 : Int))
    | some (w, h) => _) = _
  rw [parseSafeResolution_decimal hsafe]
  dsimp only
  rw [hdone]
  rfl

/-- The answers that the stage combines, as in the steps of a virtual display. -/
theorem registerStage_answer (w h : UInt32) (direct : Writes) (helper : Option Helper)
    (registry : Registry) :
    (registerStage w h direct helper registry).2 =
      (isResolutionRegistered registry w h || (registerResolutions w h direct registry).2 ||
        (selfElevateRegister w h helper (registerResolutions w h direct registry).1).2) := by
  rw [registerStage]
  cases isResolutionRegistered registry w h with
  | true => rfl
  | false =>
    dsimp only
    cases (registerResolutions w h direct registry).2 with
    | true => rfl
    | false => rfl

/-- Without the right to write, a resolution that is missing cannot be registered. -/
theorem registerResolutions_denied {w h : UInt32} {registry : Registry} {direct : Writes}
    (hmissing : isResolutionRegistered registry w h = false) (hdenied : direct.created 0 = false) :
    registerResolutions w h direct registry = (registry, false) := by
  have hwanted : registered (wanted (readRegisteredResolutions registry) w h) w h = true := by
    rw [wanted_eq, registered_append, (registered_missing hmissing).1, Bool.or_true]
  rw [registerResolutions]
  cases hlist : wanted (readRegisteredResolutions registry) w h with
  | nil =>
    rw [hlist] at hwanted
    cases hwanted
  | cons r list => exact write_denied r list direct registry hdenied

/-- **One accepted prompt is enough for every panel.**  Let a sender without the right to write see
to the registration of the size of a panel.  If the prompt is declined, nothing changes, and the
stage fails unless the size is registered.  If it is accepted and the second process can write, the
size is registered afterwards, in five slots at most, no mode has appeared but the size and its
rotation, and the modes that are left are in their old order. -/
theorem registerStage_unelevated {rawWidth rawHeight : Int} {w h : UInt32}
    (hsize : normalizePanelSize rawWidth rawHeight = some (w, h)) {direct : Writes}
    (hdenied : direct.created 0 = false) (registry : Registry) :
    registerStage w h direct none registry = (registry, isResolutionRegistered registry w h) ∧
      ∀ exe, ∃ after, registerStage w h direct (some ⟨exe, true, .succeed⟩) registry =
          (after, true) ∧
        isResolutionRegistered after w h = true ∧
        (readRegisteredResolutions after).length ≤ 5 ∧ (∀ i, 5 ≤ i → after i = registry i) ∧
        (∀ r ∈ readRegisteredResolutions after,
          r ∈ readRegisteredResolutions registry ∨ r = ⟨w, h, 60⟩ ∨ r = ⟨h, w, 60⟩) ∧
        ((readRegisteredResolutions after).filter fun r =>
          decide (r ∈ readRegisteredResolutions registry)).Sublist
            (readRegisteredResolutions registry) := by
  cases hknown : isResolutionRegistered registry w h with
  | true =>
    refine ⟨by rw [registerStage, if_pos hknown], fun exe => ⟨registry, ?_, hknown,
      length_read registry, fun i _ => rfl, fun r hr => .inl hr, List.filter_sublist⟩⟩
    rw [registerStage, if_pos hknown]
  | false =>
    have hsafe := normalizePanelSize_some hsize
    have hne : ∀ n : UInt32, 320 ≤ n.toNat → n ≠ 0 := by
      intro n hle hzero
      rw [hzero] at hle
      cases hle
    have hasked := registered_request (hne w hsafe.low.1) (hne h hsafe.low.2) hknown
    have hstage : ∀ helper, registerStage w h direct helper registry =
        selfElevateRegister w h helper registry := by
      intro helper
      rw [registerStage, registerResolutions_denied hknown hdenied, if_neg (by simp [hknown])]
      rfl
    refine ⟨hstage none, fun exe => ⟨(registerResolutions w h .succeed registry).1, ?_, hasked,
      length_read _, fun i hi => slots_register w h registry hi, fun r hr => known_register hr,
      order_register w h registry⟩⟩
    rw [hstage, selfElevateRegister]
    dsimp only
    rw [helperMain_safe hsafe, hasked]
    rfl

/-- An iPad Air in landscape, its size raised to odd numbers, and an empty registry. -/
theorem registerStage_unelevated_fresh :
    normalizePanelSize 2361 1641 = some (2360, 1640) ∧
      isResolutionRegistered
        (registerStage 2360 1640 { Writes.succeed with created := fun _ => false }
          (some ⟨ascii "sender.exe", true, .succeed⟩) fun _ => none).1 2360 1640 = true := by
  have hsize : normalizePanelSize 2361 1641 = some (2360, 1640) := by decide
  have hdenied : ({ Writes.succeed with created := fun _ => false } : Writes).created 0 = false :=
    rfl
  obtain ⟨after, hafter, hasked, -⟩ :=
    (registerStage_unelevated hsize hdenied fun _ => none).2 (ascii "sender.exe")
  rw [hafter]
  exact ⟨hsize, hasked⟩

end SecondDisplay.ResolutionSlots
