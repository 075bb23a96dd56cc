import SecondDisplay.App.RunLoop
import SecondDisplay.Library.Transitions

/-!
# The panel registry (`PanelState` in `app/SenderApp.cpp`)

All senders of a process share one panel size: `AcquirePanel` takes a share of it, `RetunePanel`
turns it for its only holder, and `~PanelHolder` gives the share back.  The registry keeps a count
and a size; `Accounted` says that they are those of the shares that have been taken and not given
back, and each of the three calls keeps it (`accounting`).
-/

namespace SecondDisplay.Panel

open SecondDisplay.RunLoop hiding Event step
open SecondDisplay.Transitions

/-! ### The registry -/

/-- `PanelState`. -/
structure PanelState where
  width : UInt32 := 0
  height : UInt32 := 0
  holders : Int := 0
  deriving DecidableEq

/-- `AcquirePanel`: the registry with one share more, or `activeW` and `activeH`. -/
def acquirePanel (panel : PanelState) (w h : UInt32) : Except (UInt32 × UInt32) PanelState :=
  if 0 < panel.holders ∧ (panel.width ≠ w ∨ panel.height ≠ h) then
    .error (panel.width, panel.height)
  else .ok ⟨w, h, panel.holders + 1⟩

/-- `ReleasePanel`. -/
def releasePanel (panel : PanelState) : PanelState :=
  if panel.holders - 1 ≤ 0 then ⟨0, 0, 0⟩ else { panel with holders := panel.holders - 1 }

/-- `RetunePanel`, `none` where it returns false. -/
def retunePanel (panel : PanelState) (w h : UInt32) : Option PanelState :=
  if 1 < panel.holders then none else some { panel with width := w, height := h }

/-! ### The shares -/

/-- The size that was last granted to each sender, `none` for a sender that holds no share. -/
abbrev Grants := List (Option (UInt32 × UInt32))

/-- The registry and the shares agree. -/
structure Accounted (panel : PanelState) (granted : Grants) : Prop where
  holders : panel.holders = granted.countP Option.isSome
  size : ∀ (i : Nat) size, granted[i]? = some (some size) → size = (panel.width, panel.height)
  rest : panel.holders = 0 → panel.width = 0 ∧ panel.height = 0
  busy : 0 < panel.holders → panel.width ≠ 0

variable {panel panel' : PanelState} {granted : Grants} {i : Nat} {w h : UInt32}

theorem count_set {old : Option (UInt32 × UInt32)} (new : Option (UInt32 × UInt32))
    (hi : granted[i]? = some old) :
    (granted.set i new).countP Option.isSome + old.isSome.toNat =
      granted.countP Option.isSome + new.isSome.toNat := by
  obtain ⟨hlt, rfl⟩ := List.getElem?_eq_some_iff.1 hi
  rw [List.countP_set hlt]
  have hpos : granted[i].isSome = true → 0 < granted.countP Option.isSome := fun hsome =>
    List.countP_pos_iff.2 ⟨_, List.getElem_mem hlt, hsome⟩
  cases hold : granted[i].isSome with
  | true =>
    have hlive := hpos hold
    cases new.isSome <;> simp only [if_true, Bool.false_eq_true, if_false, Bool.toNat_true,
      Bool.toNat_false] <;> omega
  | false =>
    cases new.isSome <;> simp only [if_true, Bool.false_eq_true, if_false, Bool.toNat_true,
      Bool.toNat_false] <;> omega

/-- A share that is held. -/
theorem count_pos {size : UInt32 × UInt32} (hi : granted[i]? = some (some size)) :
    0 < granted.countP Option.isSome :=
  List.countP_pos_iff.2 ⟨_, List.mem_of_getElem? hi, rfl⟩

/-- With one share only, whoever holds one holds it. -/
theorem eq_of_count_le_one {j : Nat} {a b : UInt32 × UInt32}
    (hone : granted.countP Option.isSome ≤ 1) (hi : granted[i]? = some (some a))
    (hj : granted[j]? = some (some b)) : j = i := by
  by_contra hne
  have hrest : (granted.set i none)[j]? = some (some b) := by
    rw [List.getElem?_set_ne (Ne.symm hne)]
    exact hj
  have hpos := count_pos hrest
  have hcount := count_set none hi
  simp only [Option.isSome_some, Option.isSome_none, Bool.toNat_true, Bool.toNat_false] at hcount
  omega

/-- A share that was taken or turned, once nobody holds another size. -/
theorem size_set {size : UInt32 × UInt32}
    (hothers : ∀ (j : Nat) other, j ≠ i → granted[j]? = some (some other) → other = size) :
    ∀ (j : Nat) other, (granted.set i (some size))[j]? = some (some other) → other = size := by
  intro j other hj
  by_cases hji : j = i
  · subst hji
    rw [List.getElem?_set_self'] at hj
    cases hg : granted[j]? with
    | none => rw [hg] at hj; cases hj
    | some old => rw [hg] at hj; cases hj; rfl
  · rw [List.getElem?_set_ne (Ne.symm hji)] at hj
    exact hothers j other hji hj

namespace Accounted

theorem start (n : Nat) : Accounted {} (List.replicate n none) where
  holders := by simp [List.countP_replicate]
  size j size hj := by
    rw [List.getElem?_replicate] at hj
    split at hj <;> cases hj
  rest _ := ⟨rfl, rfl⟩
  busy hpos := absurd hpos (Int.lt_irrefl 0)

/-- `AcquirePanel` succeeds. -/
theorem acquire (hacc : Accounted panel granted) (hi : granted[i]? = some none) (hw : w ≠ 0)
    (hok : acquirePanel panel w h = .ok panel') :
    Accounted panel' (granted.set i (some (w, h))) := by
  rw [acquirePanel] at hok
  split at hok
  · cases hok
  rename_i hfree
  cases hok
  have hcount := count_set (some (w, h)) hi
  simp only [Option.isSome_some, Option.isSome_none, Bool.toNat_true, Bool.toNat_false,
    Nat.add_zero] at hcount
  refine ⟨?_, size_set fun j other hji hj => ?_, fun hzero => ?_, fun _ => hw⟩
  · rw [hcount, hacc.holders]
    rfl
  · -- Somebody holds a share, so the size is the one that was asked for.
    have hpos := count_pos hj
    rw [hacc.holders] at hfree
    have hsame : ¬(panel.width ≠ w ∨ panel.height ≠ h) := fun hdiffers =>
      hfree ⟨by omega, hdiffers⟩
    rw [not_or, not_not, not_not] at hsame
    rw [hacc.size j other hj, hsame.1, hsame.2]
  · have hnonneg := hacc.holders
    dsimp only at hzero
    omega

/-- `RetunePanel` succeeds for a holder. -/
theorem retune (hacc : Accounted panel granted) {old : UInt32 × UInt32}
    (hi : granted[i]? = some (some old)) (hw : w ≠ 0)
    (hok : retunePanel panel w h = some panel') :
    Accounted panel' (granted.set i (some (w, h))) := by
  rw [retunePanel] at hok
  split at hok
  · cases hok
  rename_i hsole
  cases hok
  have hcount := count_set (some (w, h)) hi
  have hpos := count_pos hi
  have hholders := hacc.holders
  simp only [Option.isSome_some, Bool.toNat_true] at hcount
  refine ⟨?_, size_set fun j other hji hj => ?_, fun hzero => ?_, fun _ => hw⟩
  · dsimp only
    omega
  · exact absurd (eq_of_count_le_one (by omega) hi hj) hji
  · dsimp only at hzero
    omega

/-- `~PanelHolder` gives a share back. -/
theorem release (hacc : Accounted panel granted) {old : UInt32 × UInt32}
    (hi : granted[i]? = some (some old)) :
    Accounted (releasePanel panel) (granted.set i none) := by
  have hcount := count_set none hi
  have hpos := count_pos hi
  have hholders := hacc.holders
  simp only [Option.isSome_some, Option.isSome_none, Bool.toNat_true, Bool.toNat_false,
    Nat.add_zero] at hcount
  have hsizes : ∀ (j : Nat) other, (granted.set i none)[j]? = some (some other) →
      other = (panel.width, panel.height) := by
    intro j other hj
    by_cases hji : j = i
    · subst hji
      rw [List.getElem?_set_self', hi] at hj
      cases hj
    · rw [List.getElem?_set_ne (Ne.symm hji)] at hj
      exact hacc.size j other hj
  rw [releasePanel]
  split
  · refine ⟨?_, fun j other hj => ?_, fun _ => ⟨rfl, rfl⟩, fun hlt => absurd hlt (Int.lt_irrefl 0)⟩
    · dsimp only
      omega
    · have hleft := count_pos hj
      omega
  · refine ⟨?_, hsizes, fun hzero => ?_, fun _ => hacc.busy (by omega)⟩
    · dsimp only
      omega
    · dsimp only at hzero
      omega

/-- A sender that holds nothing comes along. -/
theorem launch (hacc : Accounted panel granted) : Accounted panel (granted ++ [none]) := by
  refine ⟨?_, fun j size hj => ?_, hacc.rest, hacc.busy⟩
  · rw [List.countP_append, hacc.holders]
    simp
  · rcases List.mem_append.1 (List.mem_of_getElem? hj) with hmem | hmem
    · obtain ⟨k, hk⟩ := List.mem_iff_getElem?.1 hmem
      exact hacc.size k size hk
    · cases List.mem_singleton.1 hmem

/-- **Nobody waits for nothing.**  `AcquirePanel` fails only at a holder of another size, which it
reports. -/
theorem refused (hacc : Accounted panel granted) {active : UInt32 × UInt32}
    (herror : acquirePanel panel w h = .error active) :
    ∃ (j : Nat) (held : UInt32 × UInt32), granted[j]? = some (some held) ∧ held ≠ (w, h) ∧
      active = held := by
  rw [acquirePanel] at herror
  split at herror
  · rename_i hbusy
    cases herror
    have hpos : 0 < granted.countP Option.isSome := by
      have hholders := hacc.holders
      omega
    obtain ⟨share, hmem, hsome⟩ := List.countP_pos_iff.1 hpos
    obtain ⟨held, rfl⟩ := Option.isSome_iff_exists.1 hsome
    obtain ⟨j, hj⟩ := List.mem_iff_getElem?.1 hmem
    have hheld := hacc.size j held hj
    refine ⟨j, held, hj, ?_, hheld.symm⟩
    rw [hheld, Ne, Prod.mk.injEq, not_and_or]
    exact hbusy.2
  · cases herror

end Accounted

/-! ### Any number of senders -/

/-- The registry with the shares of the senders of a process. -/
structure Process where
  panel : PanelState
  granted : Grants
  deriving DecidableEq

/-- The calls, in any order.  A size is that of a hello, in pixels. -/
inductive Event where
  | launch
  | acquire (i : Nat) (pixelsWide pixelsHigh : Int)
  | retune (i : Nat) (pixelsWide pixelsHigh : Int)
  /-- `~PanelHolder`. -/
  | release (i : Nat)

/-- One call.  A sender takes a share only while it holds none, turns and gives back only a share
that it holds, and calls with a size that `NormalizePanelSize` lets through. -/
def step (s : Process) : Event → Option Process
  | .launch => some { s with granted := s.granted ++ [none] }
  | .acquire i pixelsWide pixelsHigh =>
    match s.granted[i]?, normalizePanelSize pixelsWide pixelsHigh with
    | some none, some (w, h) =>
      match acquirePanel s.panel w h with
      | .ok panel => some ⟨panel, s.granted.set i (some (w, h))⟩
      | .error _ => some s
    | _, _ => none
  | .retune i pixelsWide pixelsHigh =>
    match s.granted[i]?, normalizePanelSize pixelsWide pixelsHigh with
    | some (some _), some (w, h) =>
      match retunePanel s.panel w h with
      | some panel => some ⟨panel, s.granted.set i (some (w, h))⟩
      | none => some s
    | _, _ => none
  | .release i =>
    match s.granted[i]? with
    | some (some _) => some ⟨releasePanel s.panel, s.granted.set i none⟩
    | _ => none

/-- No sender has been started yet. -/
def Process.start : Process := ⟨{}, []⟩

/-- A size that is let through is not empty. -/
theorem normalizePanelSize_pos {pixelsWide pixelsHigh : Int}
    (hsize : normalizePanelSize pixelsWide pixelsHigh = some (w, h)) : w ≠ 0 := by
  rw [normalizePanelSize] at hsize
  split at hsize
  · cases hsize
  dsimp only at hsize
  split at hsize
  · rename_i hlow
    cases hsize
    intro hzero
    rw [hzero] at hlow
    exact absurd hlow.1 (by decide)
  · cases hsize

theorem accounted_step {s s' : Process} {e : Event} (hacc : Accounted s.panel s.granted)
    (hstep : step s e = some s') : Accounted s'.panel s'.granted := by
  cases e with
  | launch =>
    cases hstep
    exact hacc.launch
  | acquire i pixelsWide pixelsHigh =>
    simp only [step] at hstep
    split at hstep
    case h_2 => cases hstep
    case h_1 hi hsize =>
      split at hstep
      case h_1 hok => cases hstep; exact hacc.acquire hi (normalizePanelSize_pos hsize) hok
      case h_2 => cases hstep; exact hacc
  | retune i pixelsWide pixelsHigh =>
    simp only [step] at hstep
    split at hstep
    case h_2 => cases hstep
    case h_1 hi hsize =>
      split at hstep
      case h_1 hok => cases hstep; exact hacc.retune hi (normalizePanelSize_pos hsize) hok
      case h_2 => cases hstep; exact hacc
  | release i =>
    simp only [step] at hstep
    split at hstep
    case h_1 hi => cases hstep; exact hacc.release hi
    case h_2 => cases hstep

/-- **The books balance.**  After any calls of any number of senders the registry counts the shares
that are held, its size is 0 x 0 exactly if there is none and the one last granted to every holder
otherwise, and `AcquirePanel` fails only at a holder of another size, which it reports. -/
theorem accounting (events : List Event) (s : Process) (hrun : run step .start events = some s) :
    s.panel.holders = s.granted.countP Option.isSome ∧
      (s.panel.holders = 0 ↔ s.panel.width = 0 ∧ s.panel.height = 0) ∧
      (∀ w h active, acquirePanel s.panel w h = .error active →
        ∃ (i : Nat) (held : UInt32 × UInt32), s.granted[i]? = some (some held) ∧ held ≠ (w, h) ∧
          active = held) ∧
      ∀ (i : Nat) size, s.granted[i]? = some (some size) →
        size = (s.panel.width, s.panel.height) := by
  have hacc : Accounted s.panel s.granted :=
    run_invariant (P := fun s => Accounted s.panel s.granted)
      (fun _ _ _ hacc hstep => accounted_step hacc hstep) (Accounted.start 0) hrun
  refine ⟨hacc.holders, ⟨hacc.rest, fun hsize => ?_⟩, fun _ _ _ => hacc.refused, hacc.size⟩
  by_contra hne
  have hnonneg := hacc.holders
  exact hacc.busy (by omega) hsize.1

/-- Two senders share a size, a third is refused, and once the first has left the second turns. -/
def turning : List Event :=
  [.launch, .launch, .launch, .acquire 0 2732 2048, .acquire 1 2732 2048, .acquire 2 2388 1668,
    .retune 1 2048 2732, .release 0, .retune 1 2048 2732]

theorem accounting_turning :
    ∃ s, run step .start turning = some s ∧ s.panel = ⟨2048, 2732, 1⟩ ∧
      s.panel.holders = s.granted.countP Option.isSome := by
  have hrun : run step .start turning =
      some ⟨⟨2048, 2732, 1⟩, [none, some (2048, 2732), none]⟩ := by decide +kernel
  exact ⟨_, hrun, rfl, (accounting turning _ hrun).1⟩

end SecondDisplay.Panel
