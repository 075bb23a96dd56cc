import SecondDisplay.App.SenderExit
import Mathlib.Data.List.Forall2

/-!
# The connection guard across processes

Before it connects, a sender creates a named mutex and refuses to run if it exists already.  The
name comes from the device id, or from the address where there is none, with dots and colons turned
into underscores.  The model is the senders of all processes with one table of open handles; two
senders keep each other out exactly if their names agree (`neverBoth_iff`, `neverExclude_iff`), and
the names agree exactly if the identities are alike (`mutexName_eq_iff`).
-/

namespace SecondDisplay.ConnectionGuard

open SecondDisplay.RunLoop hiding Event step
open SecondDisplay.Protocol SecondDisplay.Transitions

/-! ### Senders and processes -/

/-- A run of `RunLoop` in a process. -/
structure Sender where
  process : Nat
  args : Arguments
  state : State

/-- The names of the mutexes to which anybody has an open handle. -/
def openHandles (senders : List Sender) : List (List UInt16) :=
  senders.flatMap fun sender => handles sender.args sender.state

/-- The events, in any order. -/
inductive Event where
  /-- A process calls `RunLoop`. -/
  | launch (process : Nat) (args : Arguments) (left : SenderState)
  /-- A step of a sender. -/
  | sender (i : Nat) (event : RunLoop.Event)
  /-- A process ends: its threads are gone and its handles are closed. -/
  | exit (process : Nat)

/-- `CreateMutexW` finds the mutex exactly if somebody has a handle to it. -/
def answered (senders : List Sender) (args : Arguments) : RunLoop.Event → Bool
  | .create (some found) => found == existed (openHandles senders) (mutexName args)
  | _ => true

variable {D : Type} (doubles : Doubles D)

/-- One step, or `none` where the event cannot happen. -/
def step (senders : List Sender) : Event → Option (List Sender)
  | .launch process args left => some (senders ++ [⟨process, args, start left⟩])
  | .sender i event =>
    match senders[i]? with
    | none => none
    | some sender =>
      if answered senders sender.args event then
        (RunLoop.step doubles sender.args sender.state event).map fun state =>
          senders.set i { sender with state := state }
      else none
  | .exit process => some (senders.filter fun sender => sender.process != process)

/-- The worker has passed the guard and not left yet. -/
def Sender.inside (sender : Sender) : Bool :=
  match sender.state.pc with
  | .guard | .refused | .done => false
  | _ => true

/-- The sender at `i` is about to create its mutex, and finds it only because of the handle that the
sender at `j` has open. -/
def Excludes (senders : List Sender) (i j : Nat) : Prop :=
  ∃ sender, senders[i]? = some sender ∧ sender.state.pc = .guard ∧
    existed (openHandles senders) (mutexName sender.args) = true ∧
    existed (openHandles (senders.eraseIdx j)) (mutexName sender.args) = false

/-- Two senders with these arguments are never inside at a time. -/
def NeverBoth (a b : Arguments) : Prop :=
  ∀ events senders, run (step doubles) [] events = some senders → ∀ (i j : Nat) (x y : Sender),
    i ≠ j → senders[i]? = some x → senders[j]? = some y → x.args = a → y.args = b →
    ¬(x.inside = true ∧ y.inside = true)

/-- Neither of two senders with these arguments ever keeps the other one out. -/
def NeverExclude (a b : Arguments) : Prop :=
  ∀ events senders, run (step doubles) [] events = some senders → ∀ (i j : Nat) (x y : Sender),
    i ≠ j → senders[i]? = some x → senders[j]? = some y → x.args = a → y.args = b →
    ¬Excludes senders i j ∧ ¬Excludes senders j i

/-! ### Who is inside -/

/-- Two senders with one name are not both inside. -/
def Exclusive (x y : Sender) : Prop :=
  mutexName x.args = mutexName y.args → ¬(x.inside = true ∧ y.inside = true)

theorem Exclusive.symm {x y : Sender} (h : Exclusive x y) : Exclusive y x :=
  fun hname hboth => h hname.symm hboth.symm

/-- Every sender holds its guard as `Guarded` says, and two with one name are never both inside. -/
structure Inv (senders : List Sender) : Prop where
  guarded : ∀ sender ∈ senders, Guarded sender.state
  exclusive : senders.Pairwise Exclusive

variable {doubles} {senders senders' : List Sender}

theorem holds_of_inside {sender : Sender} (h : Guarded sender.state)
    (hinside : sender.inside = true) : sender.state.ipLock = true := by
  refine h.inside ?_ ?_ <;>
    · intro hpc
      rw [Sender.inside, hpc] at hinside
      cases hinside

/-- A sender gets inside only through the guard. -/
theorem inside_step {args : Arguments} {s s' : State} {e : RunLoop.Event} {process : Nat}
    (hstep : RunLoop.step doubles args s e = some s')
    (hinside : Sender.inside ⟨process, args, s'⟩ = true) :
    Sender.inside ⟨process, args, s⟩ = true ∨ e = .create (some false) := by
  cases does_of_step hstep with
  | guardTaken => exact Or.inr rfl
  | guardFails | guardExists | refused | returns | tearsDown | tearsDownStopped => cases hinside
  | turn hpc => exact Or.inl (by simp [Sender.inside, hpc])
  | readerRead _ _ hpc => exact Or.inl (by simpa [Sender.inside, hpc] using hinside)
  | readerReads | readerLeaves | requestStop | callerLocks | callerFindsNone | callerInterrupts
  | callerUnlocks | stopReturns =>
    exact Or.inl hinside
  | _ => exact Or.inl (by simp [Sender.inside, *])

theorem mem_openHandles {name : List UInt16} :
    name ∈ openHandles senders ↔
      ∃ sender ∈ senders, sender.state.ipLock = true ∧ name = mutexName sender.args := by
  simp only [openHandles, List.mem_flatMap, handles]
  refine exists_congr fun sender => and_congr_right fun _ => ?_
  split <;> simp_all

/-- One element of a list is replaced. -/
theorem pairwise_set {x : Sender} {i : Nat} (h : senders.Pairwise Exclusive)
    (hnew : ∀ (j : Nat) (y : Sender), j ≠ i → senders[j]? = some y → Exclusive x y) :
    (senders.set i x).Pairwise Exclusive := by
  rw [List.pairwise_iff_getElem] at h ⊢
  intro j k hj hk hjk
  rw [List.length_set] at hj hk
  rw [List.getElem_set, List.getElem_set]
  split
  · rename_i hij
    rw [if_neg (by omega)]
    exact hnew k _ (by omega) (List.getElem?_eq_getElem hk)
  · split
    · exact (hnew j _ (by omega) (List.getElem?_eq_getElem hj)).symm
    · exact h j k hj hk hjk

theorem Inv.at {i j : Nat} {x y : Sender} (h : Inv senders) (hij : i ≠ j)
    (hx : senders[i]? = some x) (hy : senders[j]? = some y) : Exclusive x y := by
  obtain ⟨hi, rfl⟩ := List.getElem?_eq_some_iff.1 hx
  obtain ⟨hj, rfl⟩ := List.getElem?_eq_some_iff.1 hy
  have hpairs := List.pairwise_iff_getElem.1 h.exclusive
  rcases Nat.lt_or_gt_of_ne hij with hlt | hlt
  · exact hpairs i j hi hj hlt
  · exact (hpairs j i hj hi hlt).symm

theorem inv_step {e : Event} (h : Inv senders) (hstep : step doubles senders e = some senders') :
    Inv senders' := by
  cases e with
  | launch process args left =>
    simp only [step, Option.some.injEq] at hstep
    subst hstep
    refine ⟨fun sender hsender => ?_, ?_⟩
    · rcases List.mem_append.1 hsender with hsender | hsender
      · exact h.guarded sender hsender
      · rw [List.mem_singleton.1 hsender]
        exact guarded_start left
    · refine List.pairwise_append.2 ⟨h.exclusive, List.pairwise_singleton _ _, ?_⟩
      intro x _ y hy _ hboth
      rw [List.mem_singleton.1 hy] at hboth
      exact nomatch hboth.2
  | sender i event =>
    simp only [step] at hstep
    split at hstep
    · cases hstep
    case h_2 sender hsender =>
      split at hstep
      case isFalse => cases hstep
      case isTrue hanswered =>
        obtain ⟨s', hs', rfl⟩ := Option.map_eq_some_iff.1 hstep
        have hguarded := h.guarded sender (List.mem_of_getElem? hsender)
        refine ⟨fun x hx => ?_, pairwise_set h.exclusive fun j y hj hy hname hboth => ?_⟩
        · rcases List.mem_or_eq_of_mem_set hx with hx | rfl
          · exact h.guarded x hx
          · exact guarded_step hguarded hs'
        · rcases inside_step hs' hboth.1 with hinside | rfl
          · exact h.at hj.symm hsender hy hname ⟨hinside, hboth.2⟩
          · -- The other one has a handle to the mutex, and the answer is that it exists.
            have hmem := List.mem_of_getElem? hy
            have hfound : mutexName sender.args ∈ openHandles senders :=
              mem_openHandles.2 ⟨y, hmem, holds_of_inside (h.guarded y hmem) hboth.2, hname⟩
            simp [answered, existed, hfound] at hanswered
  | exit process =>
    simp only [step, Option.some.injEq] at hstep
    subst hstep
    exact ⟨fun sender hsender => h.guarded sender (List.mem_of_mem_filter hsender),
      h.exclusive.filter _⟩

theorem inv_run {events : List Event} (h : run (step doubles) [] events = some senders) :
    Inv senders :=
  run_invariant (fun _ _ _ hs hstep => inv_step hs hstep)
    ⟨fun _ hnil => absurd hnil List.not_mem_nil, List.Pairwise.nil⟩ h

/-! ### Two senders -/

/-- Two processes start a sender each, and the first one passes the guard. -/
def oneInside (a b : Arguments) : List Event :=
  [.launch 0 a .idle, .launch 1 b .idle, .sender 0 (.create (some false))]

/-- A sender that has just passed the guard. -/
def passed (process : Nat) (args : Arguments) : Sender :=
  ⟨process, args, { start .idle with ipLock := true }.goTo .outerTest⟩

/-- What the two are then. -/
def oneInsideSenders (a b : Arguments) : List Sender := [passed 0 a, ⟨1, b, start .idle⟩]

theorem run_oneInside (a b : Arguments) :
    run (step doubles) [] (oneInside a b) = some (oneInsideSenders a b) := by
  simp [oneInside, oneInsideSenders, passed, run, step, answered, existed, openHandles, handles,
    RunLoop.step, start]

theorem openHandles_oneInside (a b : Arguments) :
    openHandles (oneInsideSenders a b) = [mutexName a] := by
  simp [oneInsideSenders, passed, openHandles, handles, start]

/-- **Never both.**  Two senders are never inside at a time exactly if their mutexes have one
name. -/
theorem neverBoth_iff (doubles : Doubles D) (a b : Arguments) :
    NeverBoth doubles a b ↔ mutexName a = mutexName b := by
  constructor
  · intro h
    by_contra hname
    have hanswer : answered (oneInsideSenders a b) b (.create (some false)) = true := by
      simp [answered, openHandles_oneInside, existed, Ne.symm hname]
    have hstep : step doubles (oneInsideSenders a b) (.sender 1 (.create (some false))) =
        some [passed 0 a, passed 1 b] := by
      show (if answered (oneInsideSenders a b) b (.create (some false)) then _ else none) = _
      rw [if_pos hanswer]
      rfl
    have hrun : run (step doubles) [] (oneInside a b ++ [.sender 1 (.create (some false))]) =
        some [passed 0 a, passed 1 b] := by
      rw [run_append, run_oneInside, Option.bind_some, run_cons, hstep]
      rfl
    exact h _ _ hrun 0 1 _ _ (by decide) rfl rfl rfl rfl ⟨rfl, rfl⟩
  · rintro hname events senders hrun i j x y hij hx hy rfl rfl
    exact (inv_run hrun).at hij hx hy hname

/-- The other senders' handles, and those of the sender at `j`. -/
theorem existed_eraseIdx {j : Nat} {y : Sender} {name : List UInt16} (hy : senders[j]? = some y)
    (hfound : existed (openHandles senders) name = true)
    (hothers : existed (openHandles (senders.eraseIdx j)) name = false) :
    name = mutexName y.args := by
  rw [existed, List.contains_iff_mem, mem_openHandles] at hfound
  obtain ⟨sender, hmem, hlock, hname⟩ := hfound
  obtain ⟨k, hk⟩ := List.mem_iff_getElem?.1 hmem
  by_cases hkj : k = j
  · rw [hkj, hy] at hk
    cases hk
    exact hname
  · -- Its handle would still be open without the sender at `j`.
    have hstill : name ∈ openHandles (senders.eraseIdx j) :=
      mem_openHandles.2 ⟨sender, List.mem_eraseIdx_iff_getElem?.2 ⟨k, hkj, hk⟩, hlock, hname⟩
    rw [existed, List.contains_eq_mem, decide_eq_false_iff_not] at hothers
    exact absurd hstill hothers

/-- **Never exclude.**  Two senders never keep each other out exactly if their mutexes have
different names. -/
theorem neverExclude_iff (doubles : Doubles D) (a b : Arguments) :
    NeverExclude doubles a b ↔ mutexName a ≠ mutexName b := by
  constructor
  · intro h hname
    refine (h _ _ (run_oneInside a b) 0 1 _ _ (by decide) rfl rfl rfl rfl).2 ?_
    refine ⟨_, rfl, rfl, ?_, ?_⟩
    · simp [openHandles_oneInside, existed, hname]
    · simp [oneInsideSenders, passed, openHandles, handles, start, existed]
  · rintro hname events senders hrun i j x y hij hx hy rfl rfl
    constructor
    · rintro ⟨sender, hsender, -, hfound, hothers⟩
      cases hx.symm.trans hsender
      exact hname (existed_eraseIdx hy hfound hothers)
    · rintro ⟨sender, hsender, -, hfound, hothers⟩
      cases hy.symm.trans hsender
      exact hname (existed_eraseIdx hx hfound hothers).symm

/-! ### Names and identities -/

/-- Two characters stand for one in a name: dots, colons and underscores are not told apart. -/
def AlikeCharacters (c d : UInt8) : Prop :=
  c = d ∨ (c = 0x2E ∨ c = 0x3A ∨ c = 0x5F) ∧ (d = 0x2E ∨ d = 0x3A ∨ d = 0x5F)

/-- Two identities are alike up to their first NUL. -/
def Alike (xs ys : Bytes) : Prop :=
  List.Forall₂ AlikeCharacters (xs.takeWhile (· ≠ 0)) (ys.takeWhile (· ≠ 0))

theorem widen_back (c : UInt8) : c.toInt8.toInt16.toUInt16.toUInt8 = c := by
  apply UInt8.toBitVec_inj.1
  simp only [UInt16.toBitVec_toUInt8, Int16.toBitVec_toUInt16, Int8.toBitVec_toInt16,
    UInt8.toBitVec_toInt8]
  ext i hi
  simp [BitVec.getLsbD_signExtend, hi]
  omega

theorem widen_injective {c d : UInt8}
    (h : c.toInt8.toInt16.toUInt16 = d.toInt8.toInt16.toUInt16) : c = d := by
  rw [← widen_back c, h, widen_back]

theorem lockCharacter_eq_iff (c d : UInt8) :
    lockCharacter c = lockCharacter d ↔ AlikeCharacters c d := by
  have hunderscore (x : UInt8) (hx : (0x5F : UInt16) = x.toInt8.toInt16.toUInt16) : x = 0x5F :=
    widen_injective (hx.symm.trans (by decide))
  unfold lockCharacter AlikeCharacters
  constructor
  · intro h
    split at h <;> split at h
    case isTrue.isTrue hc hd => exact Or.inr ⟨hc.imp_right Or.inl, hd.imp_right Or.inl⟩
    case isTrue.isFalse hc hd =>
      exact Or.inr ⟨hc.imp_right Or.inl, Or.inr (Or.inr (hunderscore d h))⟩
    case isFalse.isTrue hc hd =>
      exact Or.inr ⟨Or.inr (Or.inr (hunderscore c h.symm)), hd.imp_right Or.inl⟩
    case isFalse.isFalse => exact Or.inl (widen_injective h)
  · rintro (rfl | ⟨hc, hd⟩)
    · rfl
    · rcases hc with rfl | rfl | rfl <;> rcases hd with rfl | rfl | rfl <;> decide

theorem lockCharacter_eq_zero (c : UInt8) : lockCharacter c = 0 ↔ c = 0 :=
  (lockCharacter_eq_iff c 0).trans (by simp [AlikeCharacters])

/-- **Names.**  The mutexes of two senders have one name exactly if their identities are alike. -/
theorem mutexName_eq_iff (a b : Arguments) :
    mutexName a = mutexName b ↔ Alike (lockIdentity a) (lockIdentity b) := by
  have hname (args : Arguments) : mutexName args =
      (ascii "Global\\opendisplay-win-").map UInt8.toUInt16 ++
        ((lockIdentity args).takeWhile (· ≠ 0)).map lockCharacter := by
    have hlead : ∀ c ∈ (ascii "Global\\opendisplay-win-").map UInt8.toUInt16,
        decide (c ≠ 0) = true :=
      List.all_eq_true.1 rfl
    rw [mutexName, lockName, List.takeWhile_append_of_pos hlead, List.takeWhile_map]
    congr 2
    exact congrArg (List.takeWhile · _) (funext fun c => by simp [lockCharacter_eq_zero])
  rw [hname, hname, List.append_cancel_left_eq, ← List.forall₂_eq_eq_eq,
    List.forall₂_map_left_iff, List.forall₂_map_right_iff]
  simp only [lockCharacter_eq_iff]
  rfl

/-! ### One connection for each device -/

/-- Two senders that aim at one address and port are never inside at a time, and two with
different addresses and different ids never keep each other out. -/
def Right (doubles : Doubles D) (a b : Arguments) : Prop :=
  (a.ip = b.ip ∧ a.port = b.port → NeverBoth doubles a b) ∧
    (a.ip ≠ b.ip ∧ a.expectedDeviceId ≠ b.expectedDeviceId → NeverExclude doubles a b)

/-- **One connection for each device.**  Two senders are guarded rightly in every run exactly if,
where they aim at one address and port, their identities are alike, and, where their addresses and
their ids differ, their identities are not alike. -/
theorem right_iff (doubles : Doubles D) (a b : Arguments) :
    Right doubles a b ↔
      (a.ip = b.ip ∧ a.port = b.port → Alike (lockIdentity a) (lockIdentity b)) ∧
        (a.ip ≠ b.ip ∧ a.expectedDeviceId ≠ b.expectedDeviceId →
          ¬Alike (lockIdentity a) (lockIdentity b)) := by
  simp only [Right, neverBoth_iff, neverExclude_iff, ne_eq, mutexName_eq_iff]

/-- The sender of the command line for the address of `tablet`. -/
def commandLine : Arguments := ⟨tablet.ip, tablet.port, [], true⟩

/-- A sender of the tray for another address, by id. -/
def trayFor (ip id : String) : Arguments := ⟨ascii ip, 9000, ascii id, true⟩

/-- The tray with an id and the command line without one are both let in at one address; two ids
that differ in a dot and a colon keep each other out at two. -/
theorem right_fails :
    ¬Right noNumbers tablet commandLine ∧
      ¬Right noNumbers (trayFor "192.168.1.6" "A.1") (trayFor "192.168.1.7" "A:1") := by
  refine ⟨fun h => ?_, fun h => ?_⟩
  · exact absurd ((neverBoth_iff _ _ _).1 (h.1 ⟨rfl, rfl⟩)) (by decide +kernel)
  · exact (neverExclude_iff _ _ _).1 (h.2 (by decide +kernel)) (by decide +kernel)

end SecondDisplay.ConnectionGuard
