import SecondDisplay.Display.VirtualDisplay
import Mathlib.Data.Fintype.Basic
import Mathlib.Logic.Function.Basic

/-!
# Claiming a monitor (`VddClaimLock`, `FindMonitorGeometry`)

The senders of a machine add their displays one after the other, and each takes for its own the
active path that its snapshot did not have.  Windows shows the paths when it likes and its queries
may fail; a failed query leaves an empty snapshot, in which every path looks new.  If the snapshots
are complete, no sender claims what was there before and no two senders claim the same monitor
(`claims_own`).
-/

namespace SecondDisplay.VddClaim

open SecondDisplay.Transitions
open SecondDisplay.VirtualDisplay hiding Event step start Inv

/-! ### The senders of a machine -/

/-- `EnsureResolution` is under `VddClaimLock`. -/
def locked : Stage → Bool
  | .register | .remove | .lock => false
  | _ => true

/-- The object holds the claim mutex. -/
def claiming (s : Display) : Bool :=
  match s.pc with
  | .idle => false
  | .ensuring _ stage => locked stage

/-- The path that a step claims. -/
def claimOf (s : Display) : VirtualDisplay.Event → Option WString
  | .poll queries =>
    match s.pc with
    | .ensuring _ (.poll before _) =>
      match candidates before queries with
      | [claimed] => some claimed.monitorKey
      | _ => none
    | _ => none
  | _ => none

/-- The snapshot behind which a step adds a display. -/
def addedTo (s : Display) : VirtualDisplay.Event → Option (List WString)
  | .add idx =>
    match s.pc with
    | .ensuring _ (.add before) => if 0 ≤ idx then some before else none
    | _ => none
  | _ => none

/-- A sender, with what its display was added to. -/
structure Sender where
  display : Display
  /-- A monitor has been claimed for the display that is plugged in. -/
  holds : Bool
  /-- The paths that were active at the last `VddAddDisplay`. -/
  activeAtAdd : List WString

/-- The monitor key of a sender that holds a claimed monitor. -/
def Sender.claimed (s : Sender) : Option WString :=
  if s.holds then some s.display.monitorPathKey else none

/-- A claim, with the paths that were active at its `VddAddDisplay` and those active when it was
made. -/
structure Claim (ι : Type*) where
  sender : ι
  key : WString
  activeAtAdd : List WString
  activeAtClaim : List WString

/-- The senders, the paths that Windows shows as active, and the mutex. -/
structure Machine (ι : Type*) where
  senders : ι → Sender
  active : List WString
  mutex : Option ι
  claims : List (Claim ι)

inductive Event (ι : Type*) where
  | sender (i : ι) (event : VirtualDisplay.Event)
  /-- Windows shows other paths as active. -/
  | topology (active : List WString)
  /-- The process ends; its mutex is abandoned. -/
  | killed (i : ι)

/-- No sender has been started. -/
def newSender : Sender := ⟨VirtualDisplay.start, false, []⟩

def start {ι : Type*} : Machine ι := ⟨fun _ => newSender, [], none, []⟩

variable {ι : Type*}

/-- The mutex is free where it is granted, and a query shows active paths only. -/
def Machine.allows (m : Machine ι) : VirtualDisplay.Event → Bool
  | .lock held => !held || m.mutex.isNone
  | .snapshot queries | .poll queries => (activeParsecPathKeys queries).all m.active.contains
  | _ => true

/-- A step adds a display. -/
def adds : VirtualDisplay.Event → Bool
  | .add _ => true
  | _ => false

/-- A sender behind its step. -/
def Sender.advance (s : Sender) (active : List WString) (e : VirtualDisplay.Event)
    (next : Display) : Sender :=
  { display := next
    holds := decide (0 ≤ next.displayIndex) && ((claimOf s.display e).isSome || s.holds)
    activeAtAdd := if adds e then active else s.activeAtAdd }

variable [DecidableEq ι]

/-- The machine behind a step of a sender. -/
def Machine.advance (m : Machine ι) (i : ι) (e : VirtualDisplay.Event) (next : Display) :
    Machine ι :=
  { senders := Function.update m.senders i ((m.senders i).advance m.active e next)
    active := m.active
    mutex := if claiming next then some i else if m.mutex = some i then none else m.mutex
    claims :=
      match claimOf (m.senders i).display e with
      | some key => ⟨i, key, (m.senders i).activeAtAdd, m.active⟩ :: m.claims
      | none => m.claims }

/-- One step, or `none` where the event cannot happen. -/
def step (m : Machine ι) : Event ι → Option (Machine ι)
  | .sender i e =>
    if m.allows e then (VirtualDisplay.step (m.senders i).display e).map (m.advance i e) else none
  | .topology active => some { m with active := active }
  | .killed i =>
    some { m with
      senders := Function.update m.senders i newSender
      mutex := if m.mutex = some i then none else m.mutex }

/-! ### The condition -/

/-- A snapshot has every path of a list and every monitor that another sender has claimed. -/
def Lists (m : Machine ι) (i : ι) (before active : List WString) : Prop :=
  (∀ key ∈ active, key ∈ before) ∧ ∀ j, j ≠ i → ∀ key ∈ (m.senders j).claimed, key ∈ before

/-- Where a display is added, the snapshot has every path that is active then and every monitor
that another sender has claimed. -/
def Complete (m : Machine ι) : Event ι → Prop
  | .sender i e => ∀ before ∈ addedTo (m.senders i).display e, Lists m i before m.active
  | .topology _ | .killed _ => True

/-! ### What one object does -/

variable {s next : Display} {e : VirtualDisplay.Event}

theorem claiming_of_pc {request : Mode} {stage : Stage} (hpc : s.pc = .ensuring request stage)
    (hlocked : locked stage = true) : claiming s = true := by
  rw [claiming, hpc]
  exact hlocked

theorem locked_of_placing {stage : Stage} (h : stage.placing = true) : locked stage = true := by
  cases stage <;> first | rfl | cases h

theorem poll_not_placing {stage : Stage} {before : List WString} {waited : Nat}
    (h : stage.placing = true) : stage ≠ .poll before waited := by
  rintro rfl
  cases h

theorem close_pc (s : Display) : s.close.pc = s.pc := by
  unfold Display.close
  split <;> rfl

/-- The call itself is outside the claim section. -/
theorem ensureResolution_claiming (s : Display) (request : Mode) (queried : Bool) :
    claiming (s.ensureResolution request queried) = false := by
  unfold Display.ensureResolution
  split
  · rfl
  · split <;> rfl

theorem not_claiming_of_idle (hpc : s.pc = .idle) : claiming s = false := by
  rw [claiming, hpc]

/-- The claim section is entered with the mutex. -/
theorem claiming_of_step (h : VirtualDisplay.step s e = some next) (hnext : claiming next = true) :
    claiming s = true ∨ e = .lock true := by
  cases step_cases h with
  | windows desktop => exact Or.inl hnext
  | openDevice opened hpc hclosed => exact Or.inl hnext
  | close hpc =>
    rw [not_claiming_of_idle ((close_pc s).trans hpc)] at hnext
    cases hnext
  | ensureResolution request queried hpc =>
    rw [ensureResolution_claiming] at hnext
    cases hnext
  | registered known direct elevated hpc =>
    by_cases hindex : 0 ≤ s.displayIndex
    · rw [if_pos hindex] at hnext
      cases hnext
    · rw [if_neg hindex] at hnext
      cases hnext
  | locked hpc => exact Or.inr rfl
  | notRegistered _ _ _ hpc | remove hpc | drop hpc | notLocked hpc => cases hnext
  | snapshot _ hpc | add _ hpc | poll _ hpc | settle _ _ hpc =>
    exact Or.inl (claiming_of_pc hpc rfl)
  | place he hpc hstage hnext =>
    exact Or.inl (claiming_of_pc hpc (locked_of_placing hstage))

theorem stage_of_goes {request request' : Mode} {stage stage' : Stage}
    (h : (s.goes request stage).pc = .ensuring request' stage') : stage = stage' := by
  cases h
  rfl

/-- The snapshot that a poll compares with is the one the display was added to. -/
theorem poll_of_step {request : Mode} {before : List WString} {waited : Nat}
    (h : VirtualDisplay.step s e = some next)
    (hnext : next.pc = .ensuring request (.poll before waited)) :
    (∃ idx, e = .add idx ∧ 0 ≤ idx ∧ s.pc = .ensuring request (.add before)) ∨
      adds e = false ∧ ∃ waited', s.pc = .ensuring request (.poll before waited') := by
  cases step_cases h with
  | windows desktop => exact Or.inr ⟨rfl, waited, hnext⟩
  | openDevice opened hpc hclosed => exact Or.inr ⟨rfl, waited, hnext⟩
  | close hpc => exact Or.inr ⟨rfl, waited, (close_pc s).symm.trans hnext⟩
  | ensureResolution request queried hpc =>
    have hclaiming := claiming_of_pc hnext rfl
    rw [ensureResolution_claiming] at hclaiming
    cases hclaiming
  | registered known direct elevated hpc =>
    have hstage := stage_of_goes hnext
    split at hstage <;> cases hstage
  | notRegistered _ _ _ hpc | remove hpc | drop hpc | locked hpc | notLocked hpc
  | snapshot _ hpc => cases hnext
  | add idx hpc =>
    unfold Display.add at hnext
    split at hnext
    case isTrue => cases hnext
    case isFalse hidx =>
      cases hnext
      exact Or.inl ⟨idx, rfl, Int.not_lt.1 hidx, hpc⟩
  | poll queries hpc =>
    right
    unfold Display.poll at hnext
    split at hnext
    case h_1 =>
      unfold waitUntil at hnext
      split at hnext <;> cases hnext
      exact ⟨rfl, _, hpc⟩
    case h_2 => cases hnext
    case h_3 => cases hnext
  | place he hpc hstage hplacing => exact absurd (stage_of_goes hnext) (poll_not_placing hplacing)
  | settle rect mode hpc =>
    unfold Display.settle at hnext
    split at hnext
    · cases hnext
    · refine absurd (stage_of_goes hnext) (poll_not_placing ?_)
      exact placing_waitUntil 5000 _ (fun _ => rfl) rfl

/-- A claim is of an active path that the snapshot does not have. -/
theorem claimOf_eq_some {key : WString} (h : claimOf s e = some key) :
    ∃ request before waited queries, s.pc = .ensuring request (.poll before waited) ∧
      e = .poll queries ∧ key ∈ activeParsecPathKeys queries ∧ key ∉ before := by
  unfold claimOf at h
  split at h <;> try cases h
  rename_i queries
  split at h <;> try cases h
  rename_i request before waited hpc
  split at h <;> cases h
  rename_i claimed hcandidates
  have hmem : claimed ∈ candidates before queries := by
    rw [hcandidates]
    exact List.mem_singleton_self claimed
  obtain ⟨hactive, hnew⟩ := mem_candidates hmem
  exact ⟨request, before, waited, queries, hpc, rfl, hactive, hnew⟩

theorem claimOf_placing (s : Display) (he : e.placing = true) : claimOf s e = none := by
  cases e <;> first | rfl | cases he

/-- The key of a plugged-in display changes where it is claimed. -/
theorem key_of_step (h : VirtualDisplay.step s e = some next) :
    claimOf s e = some next.monitorPathKey ∨
      claimOf s e = none ∧ (next.monitorPathKey = s.monitorPathKey ∨ next.displayIndex < 0) := by
  have hunset : (-1 : Int) < 0 := by decide
  cases step_cases h with
  | close hpc =>
    refine Or.inr ⟨rfl, Or.inl ?_⟩
    unfold Display.close
    split <;> rfl
  | ensureResolution request queried hpc =>
    refine Or.inr ⟨rfl, Or.inl ?_⟩
    unfold Display.ensureResolution
    split
    · rfl
    · split <;> rfl
  | remove hpc => exact Or.inr ⟨rfl, Or.inr hunset⟩
  | drop hpc => exact Or.inr ⟨rfl, Or.inr hunset⟩
  | add idx hpc =>
    refine Or.inr ⟨rfl, Or.inl ?_⟩
    unfold Display.add
    split <;> rfl
  | @poll request before waited queries hpc =>
    simp only [claimOf, hpc, Display.poll]
    rcases candidates before queries with - | ⟨claimed, - | ⟨other, rest⟩⟩
    · exact Or.inr ⟨rfl, Or.inl rfl⟩
    · exact Or.inl rfl
    · exact Or.inr ⟨rfl, Or.inl rfl⟩
  | place he hpc hstage hnext => exact Or.inr ⟨claimOf_placing s he, Or.inl rfl⟩
  | settle rect mode hpc =>
    refine Or.inr ⟨rfl, Or.inl ?_⟩
    unfold Display.settle
    split <;> rfl
  | windows _ | openDevice _ _ _ | registered _ _ _ _ | notRegistered _ _ _ _ | locked _
  | notLocked _ | snapshot _ _ => exact Or.inr ⟨rfl, Or.inl rfl⟩

/-- Behind a step a sender holds what it has just claimed or what it held. -/
theorem claimed_advance {t : Sender} {active : List WString} {key : WString}
    (h : VirtualDisplay.step t.display e = some next)
    (hkey : (t.advance active e next).claimed = some key) :
    claimOf t.display e = some key ∨ claimOf t.display e = none ∧ t.claimed = some key := by
  unfold Sender.claimed at hkey
  split at hkey <;> cases hkey
  case isTrue hholds =>
    obtain ⟨hindex, hholds⟩ := Bool.and_eq_true_iff.1 hholds
    rcases key_of_step h with hclaim | ⟨hnone, hsame | hunplugged⟩
    · exact Or.inl hclaim
    · right
      rw [hnone] at hholds
      have hheld : t.holds = true := hholds
      refine ⟨hnone, ?_⟩
      rw [Sender.claimed, if_pos hheld]
      exact congrArg some hsame.symm
    · exact absurd (of_decide_eq_true hindex) (Int.not_le.2 hunplugged)

/-! ### The invariant -/

/-- What holds between the steps. -/
structure Inv (m : Machine ι) : Prop where
  /-- Whoever is in the claim section holds the mutex. -/
  mutex : ∀ i, claiming (m.senders i).display = true → m.mutex = some i
  /-- A sender that waits for its path has a complete snapshot. -/
  lists : ∀ i request before waited,
    (m.senders i).display.pc = .ensuring request (.poll before waited) →
    Lists m i before (m.senders i).activeAtAdd
  distinct : ∀ i j key, (m.senders i).claimed = some key → (m.senders j).claimed = some key → i = j
  claims : ∀ claim ∈ m.claims, claim.key ∉ claim.activeAtAdd ∧ claim.key ∈ claim.activeAtClaim

omit [DecidableEq ι] in
theorem inv_start : Inv (start : Machine ι) where
  mutex := by rintro i ⟨⟩
  lists := by rintro i request before waited ⟨⟩
  distinct := by rintro i j key ⟨⟩
  claims := by rintro claim ⟨⟩

variable {m m' : Machine ι} {i : ι}

theorem senders_self (m : Machine ι) (i : ι) (e : VirtualDisplay.Event) (next : Display) :
    (m.advance i e next).senders i = (m.senders i).advance m.active e next :=
  Function.update_self i _ m.senders

theorem senders_of_ne {j : ι} (hne : j ≠ i) (m : Machine ι) (e : VirtualDisplay.Event)
    (next : Display) : (m.advance i e next).senders j = m.senders j :=
  Function.update_of_ne hne _ m.senders

omit [DecidableEq ι] in
/-- What the others hold may only become less. -/
theorem Lists.frame {before active : List WString} (h : Lists m i before active)
    (hfewer : ∀ j, j ≠ i → ∀ key, (m'.senders j).claimed = some key →
      (m.senders j).claimed = some key ∨ key ∈ before) : Lists m' i before active := by
  refine ⟨h.1, fun j hne key hkey => ?_⟩
  rcases hfewer j hne key hkey with hheld | hbefore
  · exact h.2 j hne key hheld
  · exact hbefore

omit [DecidableEq ι] in
/-- What a step claims was not there before and is nobody else's. -/
theorem fresh (hi : Inv m) {key : WString} (hclaim : claimOf (m.senders i).display e = some key) :
    key ∉ (m.senders i).activeAtAdd ∧ ∀ j, j ≠ i → (m.senders j).claimed ≠ some key := by
  obtain ⟨request, before, waited, queries, hpc, -, -, hnew⟩ := claimOf_eq_some hclaim
  have hlists := hi.lists i request before waited hpc
  refine ⟨fun hactive => hnew (hlists.1 key hactive), fun j hne hheld => ?_⟩
  exact hnew (hlists.2 j hne key hheld)

omit [DecidableEq ι] in
/-- Only one sender is in the claim section. -/
theorem alone (hi : Inv m) {j : ι} (hclaiming : claiming (m.senders i).display = true)
    (hother : claiming (m.senders j).display = true) : i = j := by
  have hmutex := (hi.mutex i hclaiming).symm.trans (hi.mutex j hother)
  exact Option.some.inj hmutex

theorem mutex_advance (hi : Inv m) (hallows : m.allows e = true)
    (h : VirtualDisplay.step (m.senders i).display e = some next) (j : ι)
    (hj : claiming ((m.advance i e next).senders j).display = true) :
    (m.advance i e next).mutex = some j := by
  by_cases hne : j = i
  · subst hne
    rw [senders_self] at hj
    exact if_pos hj
  · rw [senders_of_ne hne] at hj
    have hmutex := hi.mutex j hj
    show (if claiming next then some i else if m.mutex = some i then none else m.mutex) = some j
    split
    case isTrue hnext =>
      rcases claiming_of_step h hnext with hclaiming | rfl
      · exact absurd (alone hi hj hclaiming) hne
      · rw [Machine.allows, hmutex] at hallows
        cases hallows
    case isFalse =>
      rw [hmutex, if_neg (fun heq => hne (Option.some.inj heq))]

theorem lists_advance (hi : Inv m) (hcomplete : Complete m (.sender i e))
    (h : VirtualDisplay.step (m.senders i).display e = some next) (j : ι) (request : Mode)
    (before : List WString) (waited : Nat)
    (hj : ((m.advance i e next).senders j).display.pc = .ensuring request (.poll before waited)) :
    Lists (m.advance i e next) j before ((m.advance i e next).senders j).activeAtAdd := by
  by_cases hne : j = i
  · subst hne
    rw [senders_self] at hj ⊢
    have hfewer : ∀ k, k ≠ j → ∀ key, ((m.advance j e next).senders k).claimed = some key →
        (m.senders k).claimed = some key ∨ key ∈ before := by
      intro k hk key hkey
      rw [senders_of_ne hk] at hkey
      exact Or.inl hkey
    rcases poll_of_step h hj with ⟨idx, rfl, hidx, hpc⟩ | ⟨hadds, waited', hpc⟩
    · have hadded : addedTo (m.senders j).display (.add idx) = some before := by
        simp only [addedTo, hpc, if_pos hidx]
      exact (hcomplete before hadded).frame hfewer
    · have hactive : ((m.senders j).advance m.active e next).activeAtAdd =
          (m.senders j).activeAtAdd := by
        show (if adds e then m.active else (m.senders j).activeAtAdd) = _
        rw [hadds]
        rfl
      rw [hactive]
      exact (hi.lists j request before waited' hpc).frame hfewer
  · rw [senders_of_ne hne] at hj ⊢
    refine (hi.lists j request before waited hj).frame fun k hk key hkey => Or.inl ?_
    by_cases hki : k = i
    · subst hki
      rw [senders_self] at hkey
      rcases claimed_advance h hkey with hclaim | ⟨-, hheld⟩
      · obtain ⟨_, _, _, _, hpc, -⟩ := claimOf_eq_some hclaim
        exact absurd (alone hi (claiming_of_pc hj rfl) (claiming_of_pc hpc rfl)) hne
      · exact hheld
    · rw [senders_of_ne hki] at hkey
      exact hkey

theorem distinct_advance (hi : Inv m)
    (h : VirtualDisplay.step (m.senders i).display e = some next) (a b : ι) (key : WString)
    (ha : ((m.advance i e next).senders a).claimed = some key)
    (hb : ((m.advance i e next).senders b).claimed = some key) : a = b := by
  -- against a sender that has not moved
  have hother : ∀ c, c ≠ i → ((m.advance i e next).senders i).claimed = some key →
      (m.senders c).claimed ≠ some key := by
    intro c hc hkey hheld
    rw [senders_self] at hkey
    rcases claimed_advance h hkey with hclaim | ⟨-, hheld'⟩
    · exact (fresh hi hclaim).2 c hc hheld
    · exact hc (hi.distinct c i key hheld hheld')
  by_cases hai : a = i
  · by_cases hbi : b = i
    · rw [hai, hbi]
    · subst hai
      rw [senders_of_ne hbi] at hb
      exact absurd hb (hother b hbi ha)
  · rw [senders_of_ne hai] at ha
    by_cases hbi : b = i
    · subst hbi
      exact absurd ha (hother a hai hb)
    · rw [senders_of_ne hbi] at hb
      exact hi.distinct a b key ha hb

theorem claims_advance (hi : Inv m) (hallows : m.allows e = true) (next : Display) :
    ∀ claim ∈ (m.advance i e next).claims,
      claim.key ∉ claim.activeAtAdd ∧ claim.key ∈ claim.activeAtClaim := by
  intro claim hmem
  simp only [Machine.advance] at hmem
  split at hmem
  case h_1 key hclaim =>
    rcases List.mem_cons.1 hmem with rfl | hold
    · obtain ⟨_, _, _, queries, -, rfl, hactive, -⟩ := claimOf_eq_some hclaim
      refine ⟨(fresh hi hclaim).1, ?_⟩
      exact List.contains_iff_mem.1 (List.all_eq_true.1 hallows key hactive)
    · exact hi.claims claim hold
  case h_2 => exact hi.claims claim hmem

/-- A process that has ended claims nothing and holds nothing. -/
theorem inv_killed (hi : Inv m) (i : ι) :
    Inv { m with
      senders := Function.update m.senders i newSender
      mutex := if m.mutex = some i then none else m.mutex } := by
  have hclaimed : ∀ j key, (Function.update m.senders i newSender j).claimed = some key →
      (m.senders j).claimed = some key := by
    intro j key hkey
    by_cases hne : j = i
    · subst hne
      rw [Function.update_self] at hkey
      cases hkey
    · rwa [Function.update_of_ne hne] at hkey
  refine ⟨fun j hj => ?_, fun j request before waited hj => ?_, fun a b key ha hb => ?_, hi.claims⟩
  · by_cases hne : j = i
    · subst hne
      simp only [Function.update_self] at hj
      cases hj
    · simp only [Function.update_of_ne hne] at hj
      show (if m.mutex = some i then none else m.mutex) = some j
      rw [hi.mutex j hj, if_neg (fun heq => hne (Option.some.inj heq))]
  · by_cases hne : j = i
    · subst hne
      simp only [Function.update_self] at hj
      cases hj
    · simp only [Function.update_of_ne hne] at hj ⊢
      exact (hi.lists j request before waited hj).frame fun k _ key hkey =>
        Or.inl (hclaimed k key hkey)
  · exact hi.distinct a b key (hclaimed a key ha) (hclaimed b key hb)

/-- **Every step with a complete snapshot keeps the invariant.** -/
theorem inv_step (hi : Inv m) {e : Event ι} (hcomplete : Complete m e) (h : step m e = some m') :
    Inv m' := by
  cases e with
  | topology active =>
    cases h
    exact ⟨hi.mutex, hi.lists, hi.distinct, hi.claims⟩
  | sender i e =>
    obtain ⟨hallows, h⟩ := Option.ite_none_right_eq_some.1 h
    obtain ⟨next, hnext, rfl⟩ := Option.map_eq_some_iff.1 h
    exact ⟨mutex_advance hi hallows hnext, lists_advance hi hcomplete hnext,
      distinct_advance hi hnext, claims_advance hi hallows next⟩
  | killed i =>
    cases h
    exact inv_killed hi i

/-- **Claims.**  Let the senders of a machine make their calls in any order, Windows show the paths
when it likes and the queries fail as they like.  If at every `VddAddDisplay` the snapshot has each
path that is active then and each monitor that another sender has claimed, then every claim is of a
path that has become active behind its own `VddAddDisplay`, and no two senders hold monitors with
the same key. -/
theorem claims_own {events : List (Event ι)} (h : run step start events = some m)
    (hcomplete : Along step Complete start events) :
    (∀ claim ∈ m.claims, claim.key ∉ claim.activeAtAdd ∧ claim.key ∈ claim.activeAtClaim) ∧
      ∀ i j key, (m.senders i).claimed = some key → (m.senders j).claimed = some key → i = j := by
  have hi : Inv m :=
    along_invariant (I := Inv) (fun _ _ _ hi hc hstep => inv_step hi hc hstep) inv_start hcomplete h
  exact ⟨hi.claims, hi.distinct⟩

/-! ### Two senders -/

instance decidableLists [Fintype ι] (m : Machine ι) (i : ι) (before active : List WString) :
    Decidable (Lists m i before active) :=
  have : ∀ j, Decidable (∀ key ∈ (m.senders j).claimed, key ∈ before) := fun j =>
    Option.decidableForallMem (p := fun key => key ∈ before) (m.senders j).claimed
  inferInstanceAs (Decidable (_ ∧ ∀ j, j ≠ i → ∀ key ∈ (m.senders j).claimed, key ∈ before))

instance decidableComplete [Fintype ι] (m : Machine ι) : ∀ e, Decidable (Complete m e)
  | .sender i e =>
    Option.decidableForallMem (p := fun before => Lists m i before m.active)
      (addedTo (m.senders i).display e)
  | .topology _ | .killed _ => .isTrue trivial

/-- The paths of two displays. -/
def first : PathInfo := parsecPath "DISPLAY#PSCCDD0#1" "DISPLAY21"

def second : PathInfo := parsecPath "DISPLAY#PSCCDD0#2" "DISPLAY22"

/-- A sender up to its claim: what its snapshot meets, the paths that become active behind the add,
and what its poll sees. -/
def claims (i : Bool) (idx : Int) (snapshot : Query) (active : List WString)
    (seen : List PathInfo) : List (Event Bool) :=
  [.openDevice true, .ensureResolution panel true, .register true false false, .lock true,
      .snapshot [snapshot], .add idx].map (.sender i) ++
    [.topology active, .sender i (.poll [.paths seen])]

/-- The rest of the call. -/
def comesUp (i : Bool) (desktop : List (WString × Mode)) : List (Event Bool) :=
  [.attach true true true true, .windows desktop, .appear true, .exactMode true true,
    .settle true true].map (.sender i)

/-- Both senders, one after the other. -/
def sideBySide : List (Event Bool) :=
  claims false 0 (.paths []) [wide "display#psccdd0#1"] [first] ++
    comesUp false [(wide "DISPLAY21", panel)] ++
    claims true 1 (.paths [first]) [wide "display#psccdd0#1", wide "display#psccdd0#2"]
      [first, second]

theorem claims_own_sideBySide :
    ∃ m, run step start sideBySide = some m ∧
      (m.senders false).claimed = some (wide "display#psccdd0#1") ∧
      (m.senders true).claimed = some (wide "display#psccdd0#2") ∧
      ∀ i j key, (m.senders i).claimed = some key → (m.senders j).claimed = some key → i = j := by
  have hheld : (run step start sideBySide).map (fun m =>
      ((m.senders false).claimed, (m.senders true).claimed)) =
        some (some (wide "display#psccdd0#1"), some (wide "display#psccdd0#2")) := by
    decide +kernel
  obtain ⟨m, hrun, hclaimed⟩ := Option.map_eq_some_iff.1 hheld
  obtain ⟨hfalse, htrue⟩ := Prod.mk.inj hclaimed
  exact ⟨m, hrun, hfalse, htrue, (claims_own hrun (by decide +kernel)).2⟩

/-- The query of the second sender's snapshot fails, and its own path is late. -/
def hijacked : List (Event Bool) :=
  claims false 0 (.paths []) [wide "display#psccdd0#1"] [first] ++
    comesUp false [(wide "DISPLAY21", panel)] ++
    claims true 1 .noSizes [wide "display#psccdd0#1"] [first]

/-- It takes the first sender's monitor for its own, which was there before its add. -/
theorem claims_own_fails_hijacked :
    ∃ m, run step start hijacked = some m ∧
      (¬∀ claim ∈ m.claims, claim.key ∉ claim.activeAtAdd) ∧
      ¬∀ i j key, (m.senders i).claimed = some key → (m.senders j).claimed = some key → i = j := by
  have hheld : (run step start hijacked).map (fun m =>
      ((m.senders false).claimed, (m.senders true).claimed,
        decide (∀ claim ∈ m.claims, claim.key ∉ claim.activeAtAdd))) =
        some (some (wide "display#psccdd0#1"), some (wide "display#psccdd0#1"), false) := by
    decide +kernel
  obtain ⟨m, hrun, hclaimed⟩ := Option.map_eq_some_iff.1 hheld
  obtain ⟨hfalse, hclaimed⟩ := Prod.mk.inj hclaimed
  obtain ⟨htrue, hclaims⟩ := Prod.mk.inj hclaimed
  refine ⟨m, hrun, of_decide_eq_false hclaims, fun hall => ?_⟩
  exact Bool.noConfusion (hall false true _ hfalse htrue)

end SecondDisplay.VddClaim
