import SecondDisplay.Net.Connection
import SecondDisplay.Library.Transitions

/-!
# Concurrent senders on one connection (`Connection::SendFrame` under `sendMutex_`)

The capture thread sends video while the reader thread answers pings, both through `SendFrame`.
The model is a step relation: any thread may call, the lock goes to one waiting thread at a time,
its holder writes header and payload through partial sends, and anybody may interrupt or close
the connection between any two steps.  `wire_of_run` says what is on the wire in every reachable
state: the complete frames of the successful calls in lock order, and after them at most the
beginning of one frame.  If that frame has failed, nothing is ever written behind it.
-/

namespace SecondDisplay.SendLock

open SecondDisplay.Connection SecondDisplay.Transitions

/-! ### State and steps -/

/-- Where the holder of `sendMutex_` stands in `SendFrame`. -/
inductive Stage where
  /-- Before the checks on entry. -/
  | entered
  /-- In the loop that writes `lenBytes`, with `rest` still to write. -/
  | header (deadline : Nat) (rest : Bytes)
  /-- In the loop that writes the payload. -/
  | body (deadline : Nat) (rest : Bytes)
  /-- A write has failed, and `Interrupt` comes next. -/
  | failing
  /-- About to release the lock and return. -/
  | returning

/-- The thread in `SendFrame` that holds the lock. -/
structure Holder (τ : Type) where
  thread : τ
  payload : Payload
  timeoutMs : Int
  stage : Stage

/-- A connection and its senders.  That `holder` is one thread at most is the mutex. -/
structure State (τ : Type) where
  socket : Socket
  /-- The arguments of the threads that wait for the lock. -/
  waiting : τ → Option (Payload × Int)
  holder : Option (Holder τ)
  /-- Every byte that `send` accepted. -/
  wire : Bytes
  /-- The calls in the order in which they took the lock, with what they return once that is
  settled. -/
  log : List (Payload × Option Bool)

/-- A fresh connection. -/
def State.fresh (τ : Type) : State τ := ⟨⟨true, false⟩, fun _ => none, none, [], []⟩

/-- The events, in any order. -/
inductive Event (τ : Type) where
  /-- A thread calls `SendFrame`. -/
  | call (thread : τ) (payload : Payload) (timeoutMs : Int)
  /-- A waiting thread gets the lock. -/
  | lock (thread : τ)
  /-- The holder makes its checks on entry and sets the deadline. -/
  | enter (now : Nat)
  /-- The holder makes a turn of a write loop. -/
  | write (turn : Attempt)
  /-- The holder calls `Interrupt` after a failed write. -/
  | poison
  /-- The holder releases the lock and returns. -/
  | unlock
  /-- Somebody else calls `Interrupt`. -/
  | interrupt
  /-- Somebody calls `Close`. -/
  | close

/-- `Interrupt`. -/
def interruptSocket (socket : Socket) : Socket :=
  { socket with shutDown := socket.shutDown || socket.valid }

/-- `Close`. -/
def closeSocket (socket : Socket) : Socket :=
  ⟨false, socket.shutDown || socket.valid⟩

variable {τ : Type}

/-- The holder goes on to a stage. -/
def State.goOn (s : State τ) (h : Holder τ) (stage : Stage) : State τ :=
  { s with holder := some { h with stage := stage } }

/-- The holder goes on, and what its call returns is settled. -/
def State.settle (s : State τ) (h : Holder τ) (ok : Bool) (stage : Stage) : State τ :=
  { s with
    holder := some { h with stage := stage }
    log := s.log.dropLast ++ [(h.payload, some ok)] }

/-- `send` has accepted bytes. -/
def State.put (s : State τ) (bytes : Bytes) : State τ := { s with wire := s.wire ++ bytes }

/-- A turn of a write loop of the holder, at the head of `rest`: `again` is the loop's stage for
what it leaves, `done` what comes after the loop. -/
def State.turn (s : State τ) (h : Holder τ) (deadline : Nat) (rest : Bytes) (turn : Attempt)
    (again : Bytes → Stage) (done : State τ → State τ) : State τ :=
  match writeTurn s.socket deadline rest turn with
  | none => s.settle h false .failing
  | some n =>
    if rest.drop n = [] then done (s.put (rest.take n))
    else (s.put (rest.take n)).goOn h (again (rest.drop n))

/-- One step, or `none` where the event cannot happen. -/
def step [DecidableEq τ] (s : State τ) : Event τ → Option (State τ)
  | .call t payload timeoutMs =>
    if s.waiting t = none ∧ (s.holder.map Holder.thread) ≠ some t then
      some { s with waiting := Function.update s.waiting t (some (payload, timeoutMs)) }
    else none
  | .lock t =>
    match s.holder, s.waiting t with
    | none, some (payload, timeoutMs) =>
      some { s with
        waiting := Function.update s.waiting t none
        holder := some ⟨t, payload, timeoutMs, .entered⟩
        log := s.log ++ [(payload, none)] }
    | _, _ => none
  | .enter now =>
    match s.holder with
    | some ⟨t, payload, timeoutMs, .entered⟩ =>
      let h : Holder τ := ⟨t, payload, timeoutMs, .entered⟩
      if s.socket.valid = false then some (s.settle h false .returning)
      else if timeoutMs ≤ 0 then some (s.settle h false .returning)
      else some (s.goOn h (.header (now + nanoseconds timeoutMs) (lenBytes payload.size)))
    | _ => none
  | .write turn =>
    match s.holder with
    | some ⟨t, payload, timeoutMs, .header deadline rest⟩ =>
      let h : Holder τ := ⟨t, payload, timeoutMs, .header deadline rest⟩
      some (s.turn h deadline rest turn (.header deadline) fun s' =>
        if payload.size > 0 then s'.goOn h (.body deadline payload.bytes)
        else s'.settle h true .returning)
    | some ⟨t, payload, timeoutMs, .body deadline rest⟩ =>
      let h : Holder τ := ⟨t, payload, timeoutMs, .body deadline rest⟩
      some (s.turn h deadline rest turn (.body deadline) fun s' => s'.settle h true .returning)
    | _ => none
  | .poison =>
    match s.holder with
    | some ⟨t, payload, timeoutMs, .failing⟩ =>
      some (({ s with socket := interruptSocket s.socket }).goOn
        ⟨t, payload, timeoutMs, .failing⟩ .returning)
    | _ => none
  | .unlock =>
    match s.holder with
    | some ⟨_, _, _, .returning⟩ => some { s with holder := none }
    | _ => none
  | .interrupt => some { s with socket := interruptSocket s.socket }
  | .close => some { s with socket := closeSocket s.socket }

/-! ### What a step can do -/

/-- The payload and the unwritten part of the frame of the call in progress. -/
def Holder.unsent (h : Holder τ) : Option (Payload × Bytes) :=
  match h.stage with
  | .entered => some (h.payload, frame h.payload)
  | .header _ rest => some (h.payload, rest ++ h.payload.bytes)
  | .body _ rest => some (h.payload, rest)
  | .failing | .returning => none

/-- The call in progress whose result is open. -/
def State.unsent (s : State τ) : Option (Payload × Bytes) := s.holder.bind Holder.unsent

/-- No byte will go out any more: the socket is shut down, or its holder is about to do that. -/
def State.Poisoned (s : State τ) : Prop :=
  s.socket.shutDown = true ∨ s.holder.map Holder.stage = some .failing

/-- A socket without a handle has been shut down. -/
def State.CloseShutsDown (s : State τ) : Prop :=
  s.socket.valid = false → s.socket.shutDown = true

/-- What a step does to the wire, the log and the call in progress. -/
inductive Effect (s s' : State τ) : Prop where
  /-- Nothing. -/
  | idle (unsent : s'.unsent = s.unsent) (wire : s'.wire = s.wire) (log : s'.log = s.log)
  /-- A call takes the lock. -/
  | begins (p : Payload) (before : s.unsent = none) (unsent : s'.unsent = some (p, frame p))
      (wire : s'.wire = s.wire) (log : s'.log = s.log ++ [(p, none)])
  /-- Some bytes of the frame go out, and some are left. -/
  | writes (p : Payload) (out left : Bytes) (before : s.unsent = some (p, out ++ left))
      (left_ne : left ≠ []) (clean : ¬ s.Poisoned) (unsent : s'.unsent = some (p, left))
      (wire : s'.wire = s.wire ++ out) (log : s'.log = s.log)
  /-- The last bytes of the frame go out. -/
  | succeeds (p : Payload) (out : Bytes) (before : s.unsent = some (p, out))
      (clean : ¬ s.Poisoned) (unsent : s'.unsent = none) (wire : s'.wire = s.wire ++ out)
      (log : s'.log = s.log.dropLast ++ [(p, some true)])
  /-- The call fails, with nothing written yet or poisoning what is. -/
  | fails (p : Payload) (left : Bytes) (before : s.unsent = some (p, left))
      (broken : left = frame p ∨ s'.Poisoned) (unsent : s'.unsent = none)
      (wire : s'.wire = s.wire) (log : s'.log = s.log.dropLast ++ [(p, some false)])


theorem step_enter {s s' : State τ} [DecidableEq τ] {now : Nat}
    (h : step s (.enter now) = some s') : Effect s s' := by
  simp only [step] at h
  split at h
  case h_2 => cases h
  case h_1 t payload timeoutMs hholder =>
    have hbefore : s.unsent = some (payload, frame payload) := by
      rw [State.unsent, hholder]; rfl
    have hrefused : Effect s (s.settle ⟨t, payload, timeoutMs, .entered⟩ false .returning) :=
      .fails payload (frame payload) hbefore (Or.inl rfl) rfl rfl rfl
    split at h
    · cases h; exact hrefused
    · split at h
      · cases h; exact hrefused
      · cases h
        exact .idle hbefore.symm rfl rfl

/-- A turn of a write loop, `tail` being what follows the loop's buffer in the frame. -/
theorem turn_effect {s : State τ} {h : Holder τ} {deadline : Nat} {rest : Bytes} (tail : Bytes)
    {turn : Attempt} {again : Bytes → Stage} {done : State τ → State τ}
    (hholder : s.holder = some h) (hstage : h.stage ≠ .failing)
    (hbefore : h.unsent = some (h.payload, rest ++ tail))
    (hagain : ∀ left, ({ h with stage := again left } : Holder τ).unsent =
      some (h.payload, left ++ tail))
    (hdone : ¬ s.Poisoned → Effect s (done (s.put rest))) :
    Effect s (s.turn h deadline rest turn again done) := by
  have hunsent : s.unsent = some (h.payload, rest ++ tail) := by
    rw [State.unsent, hholder]; exact hbefore
  unfold State.turn
  cases hturn : writeTurn s.socket deadline rest turn with
  | none => exact .fails h.payload (rest ++ tail) hunsent (Or.inr (Or.inr rfl)) rfl rfl rfl
  | some n =>
    obtain ⟨_, hup, _, _⟩ := writeTurn_some hturn
    have hclean : ¬ s.Poisoned := by
      rintro (hdown | hfailing)
      · rw [hup] at hdown; cases hdown
      · rw [hholder] at hfailing
        exact hstage (Option.some.inj hfailing)
    simp only []
    split
    · rename_i hdrop
      have htake : rest.take n = rest := by
        rw [← List.append_nil (rest.take n), ← hdrop, List.take_append_drop]
      rw [htake]
      exact hdone hclean
    · rename_i hdrop
      refine .writes h.payload (rest.take n) (rest.drop n ++ tail) ?_ ?_ hclean ?_ rfl rfl
      · rw [← List.append_assoc, List.take_append_drop]; exact hunsent
      · intro hnil
        exact hdrop (List.append_eq_nil_iff.1 hnil).1
      · exact hagain (rest.drop n)

theorem step_write {s s' : State τ} [DecidableEq τ] {turn : Attempt}
    (h : step s (.write turn) = some s') : Effect s s' := by
  simp only [step] at h
  split at h
  case h_3 => cases h
  case h_1 t payload timeoutMs deadline rest hholder =>
    cases h
    refine turn_effect payload.bytes hholder (by simp) rfl (fun _ => rfl) fun hclean => ?_
    have hbefore : s.unsent = some (payload, rest ++ payload.bytes) := by
      rw [State.unsent, hholder]; rfl
    split
    · rename_i hsize
      refine .writes payload rest payload.bytes hbefore ?_ hclean rfl rfl rfl
      intro hnil
      have hpos : 0 < payload.size.toNat := hsize
      rw [Payload.size_toNat, hnil] at hpos
      exact absurd hpos (Nat.lt_irrefl 0)
    · rename_i hsize
      have hnil : payload.bytes = [] := by
        have hzero : ¬ 0 < payload.size.toNat := hsize
        rw [Payload.size_toNat] at hzero
        exact List.length_eq_zero_iff.1 (by omega)
      rw [hnil, List.append_nil] at hbefore
      exact .succeeds payload rest hbefore hclean rfl rfl rfl
  case h_2 t payload timeoutMs deadline rest hholder =>
    cases h
    have hbefore : s.unsent = some (payload, rest) := by
      rw [State.unsent, hholder]; rfl
    exact turn_effect [] hholder (by simp)
      (by rw [List.append_nil]; rfl) (fun _ => by rw [List.append_nil]; rfl)
      fun hclean => .succeeds payload rest hbefore hclean rfl rfl rfl

/-- **What one step does.** -/
theorem step_effect [DecidableEq τ] {s s' : State τ} {e : Event τ} (h : step s e = some s') :
    Effect s s' := by
  cases e with
  | call t payload timeoutMs =>
    simp only [step] at h
    split at h
    · cases h; exact .idle rfl rfl rfl
    · cases h
  | lock t =>
    simp only [step] at h
    split at h
    · rename_i payload timeoutMs hholder hwaiting
      cases h
      refine .begins payload ?_ rfl rfl rfl
      rw [State.unsent, hholder]; rfl
    · cases h
  | enter now => exact step_enter h
  | write turn => exact step_write h
  | poison =>
    simp only [step] at h
    split at h
    · rename_i t payload timeoutMs hholder
      cases h
      refine .idle ?_ rfl rfl
      rw [State.unsent, State.unsent, hholder]; rfl
    · cases h
  | unlock =>
    simp only [step] at h
    split at h
    · rename_i hholder
      cases h
      refine .idle ?_ rfl rfl
      rw [State.unsent, State.unsent, hholder]; rfl
    · cases h
  | interrupt => cases h; exact .idle rfl rfl rfl
  | close => cases h; exact .idle rfl rfl rfl

/-! ### A poisoned connection stays poisoned -/

theorem turn_socket (s : State τ) (h : Holder τ) (deadline : Nat) (rest : Bytes)
    (turn : Attempt) (again : Bytes → Stage) (done : State τ → State τ)
    (hdone : ∀ x, (done x).socket = x.socket) :
    (s.turn h deadline rest turn again done).socket = s.socket := by
  unfold State.turn
  split
  · rfl
  · split
    · rw [hdone]; rfl
    · rfl

/-- Only `Interrupt` and `Close` touch the socket. -/
theorem step_socket [DecidableEq τ] {s s' : State τ} {e : Event τ} (h : step s e = some s') :
    s'.socket = s.socket ∨ s'.socket = interruptSocket s.socket ∨
      s'.socket = closeSocket s.socket := by
  cases e with
  | call t payload timeoutMs =>
    simp only [step] at h
    split at h
    · cases h; exact Or.inl rfl
    · cases h
  | lock t =>
    simp only [step] at h
    split at h
    · cases h; exact Or.inl rfl
    · cases h
  | enter now =>
    simp only [step] at h
    split at h
    · split at h
      · cases h; exact Or.inl rfl
      · split at h <;> (cases h; exact Or.inl rfl)
    · cases h
  | write turn =>
    simp only [step] at h
    split at h
    · cases h
      refine Or.inl (turn_socket _ _ _ _ _ _ _ fun x => ?_)
      split <;> rfl
    · cases h
      exact Or.inl (turn_socket _ _ _ _ _ _ _ fun x => rfl)
    · cases h
  | poison =>
    simp only [step] at h
    split at h
    · cases h; exact Or.inr (Or.inl rfl)
    · cases h
  | unlock =>
    simp only [step] at h
    split at h
    · cases h; exact Or.inl rfl
    · cases h
  | interrupt => cases h; exact Or.inr (Or.inl rfl)
  | close => cases h; exact Or.inr (Or.inr rfl)

theorem step_closeShutsDown [DecidableEq τ] {s s' : State τ} {e : Event τ}
    (hs : s.CloseShutsDown) (h : step s e = some s') : s'.CloseShutsDown := by
  unfold State.CloseShutsDown at *
  obtain hsame | hdown | hclose := step_socket h
  · rw [hsame]; exact hs
  · rw [hdown]
    intro hvalid
    have hdown : s.socket.shutDown = true := hs hvalid
    simp [interruptSocket, hdown]
  · rw [hclose]
    intro _
    cases hvalid : s.socket.valid with
    | true => simp [closeSocket, hvalid]
    | false => simp [closeSocket, hs hvalid]

theorem step_shutDown [DecidableEq τ] {s s' : State τ} {e : Event τ}
    (hdown : s.socket.shutDown = true) (h : step s e = some s') :
    s'.socket.shutDown = true := by
  obtain hsame | hinterrupt | hclose := step_socket h
  · rw [hsame]; exact hdown
  · rw [hinterrupt, interruptSocket, hdown]; rfl
  · rw [hclose, closeSocket, hdown]; rfl

/-- **Poison lasts.** -/
theorem step_poisoned [DecidableEq τ] {s s' : State τ} {e : Event τ}
    (hclosed : s.CloseShutsDown) (hs : s.Poisoned) (h : step s e = some s') : s'.Poisoned := by
  obtain hdown | hfailing := hs
  · exact Or.inl (step_shutDown hdown h)
  · obtain ⟨hd, hholder, hstage⟩ := Option.map_eq_some_iff.1 hfailing
    obtain ⟨t, payload, timeoutMs, stage⟩ := hd
    have hstage : stage = .failing := hstage
    subst hstage
    cases e with
    | call t payload timeoutMs =>
      simp only [step] at h
      split at h
      · cases h; exact Or.inr hfailing
      · cases h
    | poison =>
      simp only [step, hholder] at h
      cases h
      left
      show (s.socket.shutDown || s.socket.valid) = true
      cases hvalid : s.socket.valid with
      | true => exact Bool.or_true _
      | false => rw [hclosed hvalid]; rfl
    | interrupt => cases h; exact Or.inr hfailing
    | close => cases h; exact Or.inr hfailing
    | lock t => simp [step, hholder] at h
    | enter now => simp [step, hholder] at h
    | write turn => simp [step, hholder] at h
    | unlock => simp [step, hholder] at h

theorem step_poisoned_wire [DecidableEq τ] {s s' : State τ} {e : Event τ}
    (hs : s.Poisoned) (h : step s e = some s') : s'.wire = s.wire := by
  cases step_effect h with
  | idle unsent wire log => exact wire
  | begins p before unsent wire log => exact wire
  | writes p out left before left_ne clean unsent wire log => exact absurd hs clean
  | succeeds p out before clean unsent wire log => exact absurd hs clean
  | fails p left before broken unsent wire log => exact wire

/-- **Behind a poisoned stream nothing is written.** -/
theorem run_poisoned_wire [DecidableEq τ] {s s' : State τ} {events : List (Event τ)}
    (hclosed : s.CloseShutsDown) (hs : s.Poisoned) (h : run step s events = some s') :
    s'.wire = s.wire :=
  run_constant (P := fun x => x.CloseShutsDown ∧ x.Poisoned) (f := State.wire)
    (fun _ _ _ hx hstep =>
      ⟨⟨step_closeShutsDown hx.1 hstep, step_poisoned hx.1 hx.2 hstep⟩,
        step_poisoned_wire hx.2 hstep⟩)
    ⟨hclosed, hs⟩ h

/-! ### What is on the wire -/

/-- The payloads of the successful calls, in lock order. -/
def succeeded (log : List (Payload × Option Bool)) : List Payload :=
  log.filterMap fun entry => if entry.2 = some true then some entry.1 else none

/-- The complete frames of some payloads. -/
def frames (payloads : List Payload) : Bytes := (payloads.map frame).flatten

/-- A proper beginning. -/
def StrictPrefix (bytes whole : Bytes) : Prop := ∃ left, left ≠ [] ∧ bytes ++ left = whole

theorem succeeded_append (xs ys : List (Payload × Option Bool)) :
    succeeded (xs ++ ys) = succeeded xs ++ succeeded ys := List.filterMap_append

theorem frames_append (xs ys : List Payload) : frames (xs ++ ys) = frames xs ++ frames ys := by
  simp [frames]

/-- The entry of the call in progress. -/
def State.openEntry (s : State τ) : List (Payload × Option Bool) :=
  s.unsent.toList.map fun call => (call.1, none)

theorem openEntry_some {s : State τ} {p : Payload} {left : Bytes}
    (h : s.unsent = some (p, left)) : s.openEntry = [(p, none)] := by
  rw [State.openEntry, h]; rfl

theorem openEntry_none {s : State τ} (h : s.unsent = none) : s.openEntry = [] := by
  rw [State.openEntry, h]; rfl

/-- The invariant.  The wire holds the frames of the successful calls among the settled ones,
`residue` of one that failed, and what the call in progress has `sent`. -/
structure Inv (s : State τ) (settled : List (Payload × Option Bool)) (residue sent : Bytes) :
    Prop where
  log : s.log = settled ++ s.openEntry
  wire : s.wire = frames (succeeded settled) ++ residue ++ sent
  residue : residue = [] ∨ sent = [] ∧ s.Poisoned ∧
    ∃ p, (p, some false) ∈ settled ∧ StrictPrefix residue (frame p)
  whole : ∀ p left, s.unsent = some (p, left) → left ≠ [] ∧ sent ++ left = frame p
  sent_nil : s.unsent = none → sent = []

namespace Inv

variable {s s' : State τ} {settled : List (Payload × Option Bool)} {residue sent : Bytes}

theorem residue_nil (inv : Inv s settled residue sent) (h : ¬ s.Poisoned) : residue = [] :=
  inv.residue.resolve_right fun hr => h hr.2.1

/-- A settled call takes the place of the open entry. -/
theorem log_settle (inv : Inv s settled residue sent) {p : Payload} {left : Bytes} {ok : Bool}
    (before : s.unsent = some (p, left)) (unsent : s'.unsent = none)
    (log : s'.log = s.log.dropLast ++ [(p, some ok)]) :
    s'.log = (settled ++ [(p, some ok)]) ++ s'.openEntry := by
  rw [log, inv.log, openEntry_some before, openEntry_none unsent, List.dropLast_concat,
    List.append_nil]

theorem idle (inv : Inv s settled residue sent) (poison : s.Poisoned → s'.Poisoned)
    (unsent : s'.unsent = s.unsent) (wire : s'.wire = s.wire) (log : s'.log = s.log) :
    Inv s' settled residue sent where
  log := by rw [log, inv.log, State.openEntry, State.openEntry, unsent]
  wire := wire.trans inv.wire
  residue := inv.residue.imp_right fun hr => ⟨hr.1, poison hr.2.1, hr.2.2⟩
  whole := by rw [unsent]; exact inv.whole
  sent_nil := by rw [unsent]; exact inv.sent_nil

theorem begins (inv : Inv s settled residue sent) (poison : s.Poisoned → s'.Poisoned)
    {p : Payload} (before : s.unsent = none) (unsent : s'.unsent = some (p, frame p))
    (wire : s'.wire = s.wire) (log : s'.log = s.log ++ [(p, none)]) :
    Inv s' settled residue sent where
  log := by
    rw [log, inv.log, openEntry_none before, openEntry_some unsent, List.append_nil]
  wire := wire.trans inv.wire
  residue := inv.residue.imp_right fun hr => ⟨hr.1, poison hr.2.1, hr.2.2⟩
  whole := by
    intro q left hq
    rw [unsent] at hq
    cases hq
    rw [inv.sent_nil before]
    exact ⟨frame_ne_nil p, rfl⟩
  sent_nil := by
    intro hnone
    rw [unsent] at hnone
    cases hnone

theorem writes (inv : Inv s settled residue sent) {p : Payload} {out left : Bytes}
    (before : s.unsent = some (p, out ++ left)) (left_ne : left ≠ []) (clean : ¬ s.Poisoned)
    (unsent : s'.unsent = some (p, left)) (wire : s'.wire = s.wire ++ out)
    (log : s'.log = s.log) : Inv s' settled [] (sent ++ out) where
  log := by rw [log, inv.log, openEntry_some before, openEntry_some unsent]
  wire := by
    rw [wire, inv.wire, inv.residue_nil clean, List.append_nil, List.append_assoc]
  residue := Or.inl rfl
  whole := by
    intro q rest hq
    rw [unsent] at hq
    cases hq
    refine ⟨left_ne, ?_⟩
    rw [List.append_assoc]
    exact (inv.whole p _ before).2
  sent_nil := by
    intro hnone
    rw [unsent] at hnone
    cases hnone

theorem succeeds (inv : Inv s settled residue sent) {p : Payload} {out : Bytes}
    (before : s.unsent = some (p, out)) (clean : ¬ s.Poisoned) (unsent : s'.unsent = none)
    (wire : s'.wire = s.wire ++ out) (log : s'.log = s.log.dropLast ++ [(p, some true)]) :
    Inv s' (settled ++ [(p, some true)]) [] [] where
  log := inv.log_settle before unsent log
  wire := by
    have hone : succeeded [(p, some true)] = [p] := rfl
    have hframe : frames [p] = frame p := List.append_nil _
    rw [wire, inv.wire, inv.residue_nil clean, succeeded_append, hone, frames_append, hframe,
      List.append_nil, List.append_nil, List.append_nil, List.append_assoc,
      (inv.whole p out before).2]
  residue := Or.inl rfl
  whole := by
    intro q left hq
    rw [unsent] at hq
    cases hq
  sent_nil := fun _ => rfl

theorem fails (inv : Inv s settled residue sent) (poison : s.Poisoned → s'.Poisoned)
    {p : Payload} {left : Bytes} (before : s.unsent = some (p, left))
    (broken : left = frame p ∨ s'.Poisoned) (unsent : s'.unsent = none)
    (wire : s'.wire = s.wire) (log : s'.log = s.log.dropLast ++ [(p, some false)]) :
    Inv s' (settled ++ [(p, some false)]) (residue ++ sent) [] where
  log := inv.log_settle before unsent log
  wire := by
    have hone : succeeded [(p, some false)] = [] := rfl
    rw [wire, inv.wire, succeeded_append, hone, List.append_nil, List.append_nil,
      List.append_assoc]
  residue := by
    obtain ⟨hleft, hwhole⟩ := inv.whole p left before
    obtain rfl | ⟨rfl, hpoisoned, q, hq, hstarts⟩ := inv.residue
    · rw [List.nil_append]
      obtain hall | hpoisoned := broken
      · left
        rw [hall] at hwhole
        exact List.append_left_eq_self.1 hwhole
      · exact Or.inr ⟨rfl, hpoisoned, p, by simp, left, hleft, hwhole⟩
    · rw [List.append_nil]
      exact Or.inr ⟨rfl, poison hpoisoned, q, List.mem_append_left _ hq, hstarts⟩
  whole := by
    intro q rest hq
    rw [unsent] at hq
    cases hq
  sent_nil := fun _ => rfl

end Inv

/-- **One step keeps the invariant.** -/
theorem step_inv [DecidableEq τ] {s s' : State τ} {e : Event τ}
    {settled : List (Payload × Option Bool)} {residue sent : Bytes}
    (hclosed : s.CloseShutsDown) (inv : Inv s settled residue sent) (h : step s e = some s') :
    ∃ settled' residue' sent', Inv s' settled' residue' sent' := by
  have poison : s.Poisoned → s'.Poisoned := fun hs => step_poisoned hclosed hs h
  cases step_effect h with
  | idle unsent wire log => exact ⟨_, _, _, inv.idle poison unsent wire log⟩
  | begins p before unsent wire log => exact ⟨_, _, _, inv.begins poison before unsent wire log⟩
  | writes p out left before left_ne clean unsent wire log =>
    exact ⟨_, _, _, inv.writes before left_ne clean unsent wire log⟩
  | succeeds p out before clean unsent wire log =>
    exact ⟨_, _, _, inv.succeeds before clean unsent wire log⟩
  | fails p left before broken unsent wire log =>
    exact ⟨_, _, _, inv.fails poison before broken unsent wire log⟩

theorem run_inv [DecidableEq τ] {s : State τ} {events : List (Event τ)}
    (h : run step (State.fresh τ) events = some s) :
    s.CloseShutsDown ∧ ∃ settled residue sent, Inv s settled residue sent := by
  refine run_invariant
    (P := fun x => x.CloseShutsDown ∧ ∃ settled residue sent, Inv x settled residue sent)
    ?_ ⟨?_, [], [], [], ?_⟩ h
  · rintro x e x' ⟨hclosed, settled, residue, sent, inv⟩ hstep
    exact ⟨step_closeShutsDown hclosed hstep, step_inv hclosed inv hstep⟩
  · intro hvalid
    cases hvalid
  · exact ⟨rfl, rfl, Or.inl rfl, fun _ _ hsome => (by cases hsome), fun _ => rfl⟩

/-- **The wire under concurrent senders.**  In every state that any interleaving reaches, the
wire holds the complete frames of the successful calls in lock order and then nothing, or a
proper beginning of the frame of the call that holds the lock, or a proper beginning of the
frame of one failed call; in the last case no later step writes a byte. -/
theorem wire_of_run [DecidableEq τ] (events : List (Event τ)) (s : State τ)
    (h : run step (State.fresh τ) events = some s) :
    ∃ tail, s.wire = frames (succeeded s.log) ++ tail ∧
      (tail = [] ∨
        (∃ p left, s.unsent = some (p, left) ∧ left ≠ [] ∧ tail ++ left = frame p) ∨
        (∃ p, (p, some false) ∈ s.log ∧ StrictPrefix tail (frame p) ∧
          ∀ later s', run step s later = some s' → s'.wire = s.wire)) := by
  obtain ⟨hclosed, settled, residue, sent, inv⟩ := run_inv h
  have hopen : succeeded s.log = succeeded settled := by
    have hnone : succeeded s.openEntry = [] := by
      cases hunsent : s.unsent with
      | none => rw [openEntry_none hunsent]; rfl
      | some call => rw [openEntry_some hunsent]; rfl
    rw [inv.log, succeeded_append, hnone, List.append_nil]
  refine ⟨residue ++ sent, ?_, ?_⟩
  · rw [hopen, inv.wire, List.append_assoc]
  · obtain rfl | ⟨rfl, hpoisoned, p, hp, hstarts⟩ := inv.residue
    · cases hunsent : s.unsent with
      | none => exact Or.inl (inv.sent_nil hunsent)
      | some call =>
        obtain ⟨p, left⟩ := call
        exact Or.inr (Or.inl ⟨p, left, rfl, inv.whole p left hunsent⟩)
    · refine Or.inr (Or.inr ⟨p, ?_, ?_, fun later s' hrun => ?_⟩)
      · rw [inv.log]; exact List.mem_append_left _ hp
      · rw [List.append_nil]; exact hstarts
      · exact run_poisoned_wire hclosed hpoisoned hrun

/-- The worker's frame breaks off in its header while the reader thread waits with a pong: three
bytes are on the wire, and they stay the only ones. -/
theorem wire_of_run_interrupted :
    let video : Payload := ⟨[9, 9], by decide⟩
    let pong : Payload := ⟨[7], by decide⟩
    let events : List (Event Bool) :=
      [.call true video 50, .lock true, .enter 0, .call false pong 50, .write ⟨1, true, 3⟩,
        .interrupt, .write ⟨2, true, 1⟩, .poison, .unlock, .lock false, .enter 3,
        .write ⟨4, true, 5⟩, .poison, .unlock]
    (run step (State.fresh Bool) events).map State.wire = some [0, 0, 0] ∧
      ∃ s, run step (State.fresh Bool) events = some s ∧
      ∃ tail, s.wire = frames (succeeded s.log) ++ tail ∧
        (tail = [] ∨
          (∃ p left, s.unsent = some (p, left) ∧ left ≠ [] ∧ tail ++ left = frame p) ∨
          (∃ p, (p, some false) ∈ s.log ∧ StrictPrefix tail (frame p) ∧
            ∀ later s', run step s later = some s' → s'.wire = s.wire)) := by
  intro video pong events
  have hrun : (run step (State.fresh Bool) events).isSome := rfl
  obtain ⟨s, hs⟩ := Option.isSome_iff_exists.1 hrun
  exact ⟨by decide, s, hs, wire_of_run events s hs⟩

end SecondDisplay.SendLock
