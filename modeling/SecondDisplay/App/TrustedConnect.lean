import SecondDisplay.Net.NetworkSafety
import SecondDisplay.App.RunLoopSteps
import SecondDisplay.Library.Transitions
import Mathlib.Data.List.Induction

/-!
# The network check and the connection it is for

Every iteration of `RunLoop` resolves its target, checks every address of the answer, and then
connects to the numeric text of the first one, which `Connection::Connect` takes back to an address
without a resolver.  The model puts the check and the dialling under the step relation of
`RunLoop`, with a resolver that may answer differently each time: what is dialled has been checked
in the same iteration, with everything else the name resolved to (`dials_trusted`).
-/

namespace SecondDisplay.TrustedConnect

open SecondDisplay.RunLoop hiding State Event Act step start
open SecondDisplay.NetworkSafety SecondDisplay.Protocol SecondDisplay.Transitions

/-! ### `Connection::Connect` -/

/-- What `socket` and `ConnectWithTimeout` answer for an address. -/
inductive Attempt where
  | noSocket | failed | connected

/-- What the worker does with the network. -/
inductive Act where
  /-- The body of `while (!stopRequested_)` begins. -/
  | iteration
  /-- `CheckTrustedLan` with the addresses it has resolved. -/
  | checked (addresses : List ResolvedAddress)
  /-- `ConnectUsbMuxTarget`. -/
  | usbMux
  /-- `ConnectWithTimeout`. -/
  | dial (address : Address)

/-- The loop over the addresses: those it dials, and whether it ends with a connection. -/
def dialEach : List Address → List Attempt → List Address × Bool
  | _ :: rest, .noSocket :: attempts => dialEach rest attempts
  | address :: rest, .failed :: attempts =>
    (address :: (dialEach rest attempts).1, (dialEach rest attempts).2)
  | address :: _, .connected :: _ => ([address], true)
  | _, _ => ([], false)

/-- `getaddrinfo` with `AI_NUMERICHOST`. -/
abbrev NumericHost := Bytes → Option (List Address)

/-- `Connection::Connect`. -/
def connect (numericHost : NumericHost) (ip : Bytes) (attempts : List Attempt) (usb : Bool) :
    List Act × Bool :=
  if isUsbMuxTarget ip then ([.usbMux], usb)
  else
    match numericHost ip with
    | none => ([], false)
    | some addresses =>
      ((dialEach addresses attempts).1.map .dial, (dialEach addresses attempts).2)

theorem mem_of_dialEach {addresses : List Address} {attempts : List Attempt} {address : Address}
    (h : address ∈ (dialEach addresses attempts).1) : address ∈ addresses := by
  induction addresses generalizing attempts with
  | nil =>
    cases attempts <;> exact absurd h List.not_mem_nil
  | cons first rest ih =>
    cases attempts with
    | nil => exact absurd h List.not_mem_nil
    | cons attempt attempts =>
      cases attempt with
      | noSocket => exact List.mem_cons_of_mem _ (ih h)
      | failed =>
        rcases List.mem_cons.1 h with rfl | h
        · exact List.mem_cons_self
        · exact List.mem_cons_of_mem _ (ih h)
      | connected =>
        rw [List.mem_singleton.1 h]
        exact List.mem_cons_self

/-! ### The worker -/

/-- A sender with the result of its last check. -/
structure Worker where
  run : RunLoop.State
  networkSafety : NetworkSafetyResult
  log : List Act

/-- The steps, with what the network answers. -/
inductive Event where
  /-- The check, with the answer of the resolver. -/
  | check (answer : Option (List Item))
  /-- The connection. -/
  | connect (attempts : List Attempt) (usb : Bool)
  /-- Any other step of the three threads. -/
  | other (event : RunLoop.Event)

/-- The worker passes `while (!stopRequested_)`. -/
def begun : Pc → Pc → List Act
  | .outerTest, .network => [.iteration]
  | _, _ => []

variable {D : Type} (doubles : Doubles D) (numericHost : NumericHost) (args : Arguments)
  (requirePrivateNetwork : Bool)

/-- One step, or `none` where the event cannot happen. -/
def step (s : Worker) : Event → Option Worker
  | .check answer =>
    if isUsbMuxTarget args.ip then
      (RunLoop.step doubles args s.run (.network true)).map fun run =>
        { s with run := run, networkSafety := ⟨true, "direct USB cable", args.ip⟩ }
    else
      let networkSafety := checkTrustedLan answer requirePrivateNetwork
      (RunLoop.step doubles args s.run (.network networkSafety.allowed)).map fun run =>
        ⟨run, networkSafety, s.log ++ [.checked (resolveTarget answer)]⟩
  | .connect attempts usb =>
    let resolvedTarget := s.networkSafety.resolvedTarget
    let made := connect numericHost (if resolvedTarget.isEmpty then args.ip else resolvedTarget)
      attempts usb
    (RunLoop.step doubles args s.run (.connect made.2)).map fun run =>
      { s with run := run, log := s.log ++ made.1 }
  | .other event =>
    match event with
    | .network _ | .connect _ => none
    | _ =>
      (RunLoop.step doubles args s.run event).map fun run =>
        { s with run := run, log := s.log ++ begun s.run.pc run.pc }

/-- `RunLoop` is called. -/
def start (left : SenderState) : Worker := ⟨RunLoop.start left, {}, []⟩

/-! ### What the log says -/

/-- An iteration that has checked these addresses, all of them trusted, and dialled. -/
def Checked (log : List Act) (addresses : List ResolvedAddress) : Prop :=
  (∃ (before : List Act) (dialled : List Address),
      log = before ++ [.iteration, .checked addresses] ++ dialled.map Act.dial) ∧
    ∀ entry ∈ addresses, Trusted entry

/-- Whatever is dialled is among the addresses that the iteration has checked. -/
def Justified (log : List Act) : Prop :=
  ∀ before address after, log = before ++ .dial address :: after →
    ∃ addresses, Checked before addresses ∧ address ∈ addresses.map (·.address)

theorem Justified.snoc {log : List Act} {act : Act} (h : Justified log)
    (hact : ∀ address, act = .dial address →
      ∃ addresses, Checked log addresses ∧ address ∈ addresses.map (·.address)) :
    Justified (log ++ [act]) := by
  intro before address after hlog
  rcases List.eq_nil_or_concat after with rfl | ⟨init, last, rfl⟩
  · obtain ⟨rfl, hlast⟩ := List.append_inj' hlog rfl
    exact hact address (List.singleton_inj.1 hlast)
  · rw [List.concat_eq_append, ← List.cons_append, ← List.append_assoc] at hlog
    exact h before address init (List.append_inj' hlog rfl).1

/-- The addresses are dialled one after the other. -/
theorem Justified.dials {log : List Act} {addresses : List ResolvedAddress} (h : Justified log)
    (hchecked : Checked log addresses) (dialled : List Address)
    (hmem : ∀ address ∈ dialled, address ∈ addresses.map (·.address)) :
    Justified (log ++ dialled.map .dial) := by
  induction dialled using List.reverseRecOn with
  | nil => rwa [List.map_nil, List.append_nil]
  | append_singleton dialled last ih =>
    rw [List.map_append, ← List.append_assoc]
    refine (ih fun address hin => hmem address (List.mem_append_left _ hin)).snoc ?_
    rintro address ⟨⟩
    obtain ⟨⟨before, earlier, rfl⟩, htrusted⟩ := hchecked
    refine ⟨addresses, ⟨⟨before, earlier ++ dialled, ?_⟩, htrusted⟩, ?_⟩
    · rw [List.map_append, List.append_assoc _ (earlier.map Act.dial)]
    · exact hmem last (List.mem_append_right _ List.mem_cons_self)

/-- What has been checked last, when something is dialled, is trusted. -/
theorem Justified.trusted {log before mid after : List Act} {addresses : List ResolvedAddress}
    {address : Address} (h : Justified log)
    (hlog : log = before ++ .checked addresses :: (mid ++ .dial address :: after))
    (hmid : Act.iteration ∉ mid) : ∀ entry ∈ addresses, Trusted entry := by
  obtain ⟨others, ⟨⟨pre, dialled, hbefore⟩, htrusted⟩, -⟩ :=
    h (before ++ .checked addresses :: mid) address after
      (by rw [hlog, List.append_assoc, List.cons_append])
  rw [show pre ++ [Act.iteration, .checked others] ++ dialled.map Act.dial =
    (pre ++ [.iteration]) ++ .checked others :: dialled.map Act.dial by simp] at hbefore
  -- It is the check that the dialling goes back to: behind that one there is no other check, and
  -- before it an iteration begins.
  rcases List.append_eq_append_iff.1 hbefore with ⟨gap, hpre, hrest⟩ | ⟨gap, -, hrest⟩
  · cases gap with
    | nil =>
      cases hrest
      exact htrusted
    | cons act gap =>
      obtain ⟨rfl, hmid'⟩ := List.cons.inj hrest
      rcases List.eq_nil_or_concat gap with rfl | ⟨init, last, rfl⟩
      · cases (List.append_inj' hpre rfl).2
      · rw [List.concat_eq_append, ← List.cons_append, ← List.append_assoc] at hpre
        cases (List.append_inj' hpre rfl).2
        exact absurd (by rw [hmid']; simp) hmid
  · cases gap with
    | nil =>
      cases hrest
      exact htrusted
    | cons act gap =>
      have hmem : Act.checked addresses ∈ dialled.map Act.dial := by
        rw [(List.cons.inj hrest).2]
        simp
      obtain ⟨_, -, hdial⟩ := List.mem_map.1 hmem
      cases hdial

/-! ### Where the worker is -/

variable {doubles numericHost args requirePrivateNetwork} {s s' : Worker}

/-- The worker gets to the check from the head of the loop, and to the connection from the check. -/
theorem place_of_step {t t' : RunLoop.State} {event : RunLoop.Event}
    (hstep : RunLoop.step doubles args t event = some t') :
    (t'.pc = .network → t.pc = .network ∨ t.pc = .outerTest) ∧
      (t'.pc = .connect → t.pc = .connect ∨ ∃ allowed, event = .network allowed) := by
  cases does_of_step hstep with
  | allowed => exact ⟨by rintro ⟨⟩, fun _ => Or.inr ⟨_, rfl⟩⟩
  | entersLoop hpc => exact ⟨fun _ => Or.inr hpc, by rintro ⟨⟩⟩
  | turn _ _ _ hstays =>
    rcases hstays with hstays | hstays <;> rw [hstays] <;> exact ⟨by rintro ⟨⟩, by rintro ⟨⟩⟩
  | @wakes conn => cases conn <;> exact ⟨by rintro ⟨⟩, by rintro ⟨⟩⟩
  | readerRead _ _ hpc =>
    exact ⟨fun h => Or.inl (hpc.symm.trans h), fun h => Or.inl (hpc.symm.trans h)⟩
  | readerReads | readerLeaves | requestStop | callerLocks | callerFindsNone | callerInterrupts
  | callerUnlocks | stopReturns =>
    exact ⟨fun h => Or.inl h, fun h => Or.inl h⟩
  | _ => exact ⟨by rintro ⟨⟩, by rintro ⟨⟩⟩

theorem network_step {t t' : RunLoop.State} {allowed : Bool}
    (hstep : RunLoop.step doubles args t (.network allowed) = some t') :
    t.pc = .network ∧ t'.pc ≠ .network ∧ (t'.pc = .connect → allowed = true) := by
  cases does_of_step hstep with
  | allowed hpc => exact ⟨hpc, by rintro ⟨⟩, fun _ => rfl⟩
  | blocked hpc => exact ⟨hpc, by rintro ⟨⟩, by rintro ⟨⟩⟩

theorem connect_step {t t' : RunLoop.State} {ok : Bool}
    (hstep : RunLoop.step doubles args t (.connect ok) = some t') :
    t.pc = .connect ∧ t'.pc ≠ .network ∧ t'.pc ≠ .connect := by
  cases does_of_step hstep with
  | connected hpc | unreachable hpc => exact ⟨hpc, by rintro ⟨⟩, by rintro ⟨⟩⟩

/-- What holds between the steps of a worker that requires a private network. -/
structure Inv (numericHost : NumericHost) (s : Worker) : Prop where
  begun : s.run.pc = .network → ∃ before, s.log = before ++ [.iteration]
  checked : s.run.pc = .connect → ∃ before front rest,
    s.log = before ++ [.iteration, .checked (front :: rest)] ∧
      s.networkSafety.resolvedTarget = front.numeric ∧
      numericHost front.numeric = some [front.address] ∧ ∀ entry ∈ front :: rest, Trusted entry
  noUsb : Act.usbMux ∉ s.log
  justified : Justified s.log

/-- The texts of an answer parse back. -/
def ParsesBack (numericHost : NumericHost) : Event → Prop
  | .check answer =>
    ∀ entry ∈ resolveTarget answer, numericHost entry.numeric = some [entry.address]
  | _ => True

theorem inv_check {answer : Option (List Item)} (hlan : isUsbMuxTarget args.ip = false)
    (hback : ParsesBack numericHost (.check answer)) (h : Inv numericHost s)
    (hstep : step doubles numericHost args true s (.check answer) = some s') :
    Inv numericHost s' := by
  simp only [step, hlan, Bool.false_eq_true, if_false] at hstep
  obtain ⟨t, ht, rfl⟩ := Option.map_eq_some_iff.1 hstep
  obtain ⟨hpc, hnot, hallowed⟩ := network_step ht
  refine ⟨fun hnetwork => absurd hnetwork hnot, fun hconnect => ?_, ?_, ?_⟩
  · obtain ⟨before, hlog⟩ := h.begun hpc
    obtain ⟨front, rest, hresolved, htarget, htrusted⟩ :=
      trusted_of_checkTrustedLan (hallowed hconnect)
    refine ⟨before, front, rest, ?_, htarget, ?_, htrusted⟩
    · show s.log ++ [Act.checked (resolveTarget answer)] = _
      rw [hlog, hresolved, List.append_assoc]
      rfl
    · exact hback front (by rw [hresolved]; exact List.mem_cons_self)
  · intro hmem
    rcases List.mem_append.1 hmem with hmem | hmem
    · exact h.noUsb hmem
    · cases List.mem_singleton.1 hmem
  · exact h.justified.snoc (by rintro _ ⟨⟩)

theorem inv_connect {attempts : List Attempt} {usb : Bool}
    (hnumeric : ∀ text, text = [] ∨ isUsbMuxTarget text = true → numericHost text = none)
    (h : Inv numericHost s)
    (hstep : step doubles numericHost args requirePrivateNetwork s (.connect attempts usb) =
      some s') :
    Inv numericHost s' := by
  simp only [step] at hstep
  obtain ⟨t, ht, rfl⟩ := Option.map_eq_some_iff.1 hstep
  obtain ⟨hpc, hnetwork, hconnect⟩ := connect_step ht
  obtain ⟨before, front, rest, hlog, htarget, hparses, htrusted⟩ := h.checked hpc
  -- The text is a numeric one, so it is neither empty nor a cable target.
  have hempty : front.numeric.isEmpty = false := by
    cases hnil : front.numeric with
    | nil =>
      rw [hnil, hnumeric [] (Or.inl rfl)] at hparses
      cases hparses
    | cons byte bytes => rfl
  have hlan : isUsbMuxTarget front.numeric = false := by
    by_contra husb
    rw [hnumeric _ (Or.inr (Bool.not_eq_false _ ▸ husb))] at hparses
    cases hparses
  have hacts : (connect numericHost front.numeric attempts usb).1 =
      (dialEach [front.address] attempts).1.map .dial := by
    rw [connect, hlan, if_neg Bool.false_ne_true, hparses]
  refine ⟨fun hat => absurd hat hnetwork, fun hat => absurd hat hconnect, ?_, ?_⟩ <;>
    rw [htarget, hempty, if_neg Bool.false_ne_true, hacts]
  · intro hmem
    rcases List.mem_append.1 hmem with hmem | hmem
    · exact h.noUsb hmem
    · obtain ⟨address, -, hdial⟩ := List.mem_map.1 hmem
      cases hdial
  · refine h.justified.dials ⟨⟨before, [], ?_⟩, htrusted⟩ _ fun address hmem => ?_
    · rw [hlog, List.map_nil, List.append_nil]
    · rw [List.mem_singleton.1 (mem_of_dialEach hmem)]
      exact List.mem_cons_self

theorem inv_other {event : RunLoop.Event} (h : Inv numericHost s)
    (hstep : step doubles numericHost args requirePrivateNetwork s (.other event) = some s') :
    Inv numericHost s' := by
  have key (t : RunLoop.State) (ht : RunLoop.step doubles args s.run event = some t)
      (hother : ∀ allowed, event ≠ .network allowed) :
      Inv numericHost { s with run := t, log := s.log ++ begun s.run.pc t.pc } := by
    obtain ⟨hnetwork, hconnect⟩ := place_of_step ht
    have hbegun : begun s.run.pc t.pc = [] ∨ begun s.run.pc t.pc = [.iteration] := by
      unfold begun
      split
      · exact Or.inr rfl
      · exact Or.inl rfl
    refine ⟨fun hat => ?_, fun hat => ?_, fun hmem => ?_, ?_⟩
    · dsimp only at hat ⊢
      rcases hnetwork hat with hpc | hpc
      · obtain ⟨before, hlog⟩ := h.begun hpc
        exact ⟨before, by rw [hpc, hat, begun, List.append_nil, hlog]; rintro ⟨⟩⟩
      · exact ⟨s.log, by rw [hpc, hat, begun]⟩
    · dsimp only at hat ⊢
      rcases hconnect hat with hpc | ⟨allowed, hevent⟩
      · obtain ⟨before, front, rest, hlog, hrest⟩ := h.checked hpc
        exact ⟨before, front, rest,
          by rw [hpc, hat, begun, List.append_nil, hlog]; rintro ⟨⟩, hrest⟩
      · exact absurd hevent (hother allowed)
    · rcases List.mem_append.1 hmem with hmem | hmem
      · exact h.noUsb hmem
      · rcases hbegun with hnone | hone
        · rw [hnone] at hmem
          cases hmem
        · rw [hone] at hmem
          cases List.mem_singleton.1 hmem
    · dsimp only
      rcases hbegun with hnone | hone
      · rw [hnone, List.append_nil]
        exact h.justified
      · rw [hone]
        exact h.justified.snoc (by rintro _ ⟨⟩)
  simp only [step] at hstep
  split at hstep
  · cases hstep
  · cases hstep
  case h_3 hother _ =>
    obtain ⟨t, ht, rfl⟩ := Option.map_eq_some_iff.1 hstep
    exact key t ht fun allowed hevent => hother allowed hevent

theorem inv_step {event : Event} (hlan : isUsbMuxTarget args.ip = false)
    (hnumeric : ∀ text, text = [] ∨ isUsbMuxTarget text = true → numericHost text = none)
    (hback : ParsesBack numericHost event) (h : Inv numericHost s)
    (hstep : step doubles numericHost args true s event = some s') : Inv numericHost s' := by
  cases event with
  | check answer => exact inv_check hlan hback h hstep
  | connect attempts usb => exact inv_connect hnumeric h hstep
  | other event => exact inv_other h hstep

theorem inv_start (left : SenderState) : Inv numericHost (start left) :=
  ⟨by rintro ⟨⟩, by rintro ⟨⟩, List.not_mem_nil, fun _ _ _ hlog => absurd hlog (by simp [start])⟩

/-- **The check is for the address that is dialled.**  A sender that requires a private network and
has no cable target makes no connection but to an address of the list that the same iteration has
checked, right before, and everything on that list is trusted; where anything on a list is not,
nothing is dialled until the next iteration begins. -/
theorem dials_trusted (doubles : Doubles D) (numericHost : NumericHost) (args : Arguments)
    (left : SenderState) (hlan : isUsbMuxTarget args.ip = false)
    (hnumeric : ∀ text, text = [] ∨ isUsbMuxTarget text = true → numericHost text = none)
    (events : List Event) (hback : ∀ event ∈ events, ParsesBack numericHost event) (s : Worker)
    (hrun : run (step doubles numericHost args true) (start left) events = some s) :
    Act.usbMux ∉ s.log ∧
      (∀ before address after, s.log = before ++ .dial address :: after →
        ∃ (pre : List Act) (addresses : List ResolvedAddress) (dialled : List Address),
          before = pre ++ [.iteration, .checked addresses] ++ dialled.map Act.dial ∧
          address ∈ addresses.map (·.address) ∧ ∀ entry ∈ addresses, Trusted entry) ∧
      ∀ before addresses mid address after,
        s.log = before ++ .checked addresses :: (mid ++ .dial address :: after) →
        Act.iteration ∉ mid → ∀ entry ∈ addresses, Trusted entry := by
  have hinv : (∀ event ∈ events, ParsesBack numericHost event) → Inv numericHost s := by
    refine run_history (P := fun past s => (∀ event ∈ past, ParsesBack numericHost event) →
      Inv numericHost s) (fun _ => inv_start left) ?_ hrun
    intro past t event t' hpast hstep hall
    refine inv_step hlan hnumeric (hall event (List.mem_append_right _ List.mem_cons_self)) ?_ hstep
    exact hpast fun earlier hmem => hall earlier (List.mem_append_left _ hmem)
  refine ⟨(hinv hback).noUsb, fun before address after hlog => ?_,
    fun _ _ _ _ _ hlog hmid => (hinv hback).justified.trusted hlog hmid⟩
  obtain ⟨addresses, ⟨⟨pre, dialled, hbefore⟩, htrusted⟩, hmem⟩ :=
    (hinv hback).justified before address after hlog
  exact ⟨pre, addresses, dialled, hbefore, hmem, htrusted⟩

/-! ### A name with two addresses -/

/-- The sender of the command line for a name. -/
def byName : Arguments := ⟨ascii "ipad.local", 9000, [], true⟩

/-- The route over a network that Windows has as Private. -/
def homeRoute : Route := ⟨some 1, some [.connection (some 2) (some true) (some .publicNetwork),
  .connection (some 1) (some true) (some .privateNetwork)]⟩

/-- 192.168.1.5, and the same device on `fe80`. -/
def homeAnswer : Option (List Item) :=
  some [.inet (.v4 0xC0A80105) (some (ascii "192.168.1.5")) homeRoute,
    .inet (.v6 #v[0xFE, 0x80, 0, 0, 0, 0, 0, 0, 0, 0, 0, 0, 0, 0, 0, 5] 4)
      (some (ascii "fe80::5%4")) homeRoute]

/-- `getaddrinfo` for three texts. -/
def homeNumericHost : NumericHost := fun text =>
  if text = ascii "192.168.1.5" then some [.v4 0xC0A80105]
  else if text = ascii "fe80::5%4" then
    some [.v6 #v[0xFE, 0x80, 0, 0, 0, 0, 0, 0, 0, 0, 0, 0, 0, 0, 0, 5] 4]
  else if text = ascii "8.8.8.8" then some [.v4 0x08080808]
  else none

/-- The check lets the name pass, and the worker connects; the next time the name has been bound
to a public address. -/
def rebound : List Event :=
  [.other (.create (some false)), .other .work, .check homeAnswer, .connect [.connected] false,
    .other .lock, .other .work, .other .work, .other (.read none), .other .work, .other .lock,
    .other .work, .other .work, .check (some [.inet (.v4 0x08080808) (some (ascii "8.8.8.8"))
      homeRoute])]

/-- The act dials an address. -/
def Act.dials (address : Address) : Act → Bool
  | .dial dialled => dialled == address
  | _ => false

theorem dials_trusted_rebound :
    ∃ s, run (step noNumbers homeNumericHost byName true) (start .idle) rebound = some s ∧
      s.networkSafety.allowed = false ∧ Act.dial (.v4 0xC0A80105) ∈ s.log ∧
      Act.usbMux ∉ s.log := by
  have hends : ((run (step noNumbers homeNumericHost byName true) (start .idle) rebound).any
      fun s => !s.networkSafety.allowed && s.log.any (Act.dials (.v4 0xC0A80105))) = true := by
    decide +kernel
  obtain ⟨s, hrun, hs⟩ := (Option.any_eq_true _ _).1 hends
  rw [Bool.and_eq_true, Bool.not_eq_true', List.any_eq_true] at hs
  obtain ⟨hblocked, act, hmem, hdials⟩ := hs
  have hnumeric : ∀ text, text = [] ∨ isUsbMuxTarget text = true →
      homeNumericHost text = none := by
    intro text htext
    have hother (known : Bytes) (hempty : known ≠ []) (hlan : isUsbMuxTarget known = false) :
        text ≠ known := by
      rintro rfl
      exact htext.elim hempty fun husb => Bool.false_ne_true (hlan.symm.trans husb)
    rw [homeNumericHost, if_neg (hother _ (by decide) (by decide)),
      if_neg (hother _ (by decide) (by decide)), if_neg (hother _ (by decide) (by decide))]
  have hback : ∀ event ∈ rebound, ParsesBack homeNumericHost event := by
    simp only [rebound, List.mem_cons, List.not_mem_nil, or_false, forall_eq_or_imp, forall_eq,
      ParsesBack, homeAnswer, resolveTarget, resolvedAddresses, true_and]
    exact ⟨⟨rfl, rfl⟩, rfl⟩
  have hguarded := dials_trusted noNumbers homeNumericHost byName .idle (by decide) hnumeric
    rebound hback s hrun
  refine ⟨s, hrun, hblocked, ?_, hguarded.1⟩
  cases act with
  | dial address =>
    rw [Act.dials, beq_iff_eq] at hdials
    rwa [← hdials]
  | _ => cases hdials

end SecondDisplay.TrustedConnect
