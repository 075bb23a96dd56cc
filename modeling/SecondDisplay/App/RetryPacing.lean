import SecondDisplay.App.StopRequest
import SecondDisplay.Library.Pacing

/-!
# Countdowns and connection attempts

Most ways back to the top of the reconnect loop publish a countdown and sleep for as long.  Two do
not: a handshake that ends without a hello, and the end of a streaming session.  What these owe is
paid only by a round that the network policy blocks.  `paced_iff` says that along every run the
countdowns are kept exactly if no connection attempt follows one of the two without such a round
between them.
-/

namespace SecondDisplay.RunLoop

open SecondDisplay.Protocol SecondDisplay.Transitions SecondDisplay.Pacing

/-- Countdowns, sleeps and connection attempts, in milliseconds. -/
def sleeps : Pace Act where
  demand
    | .publish status => status.retryInMs
    | _ => 0
  rest
    | .sleep ms => ms
    | _ => 0
  attempt
    | .connect => true
    | _ => false

/-- A handshake that reads the end of its stream, or a session that starts; a round that the network
policy blocks; and connection attempts. -/
def rounds : Pace Event where
  demand
    | .read none | .build none => 1
    | _ => 0
  rest
    | .network false => 1
    | _ => 0
  attempt
    | .connect _ => true
    | _ => false

/-- What is owed in milliseconds against what is due in rounds, place by place.  A worker that will
find the flag set makes no further attempt. -/
def Balance (pc : Pc) (stop sleeping : Bool) (owed due : Nat) : Prop :=
  match pc with
  | .network | .connect => 0 < owed ↔ 0 < due
  | .outerTest | .leaving _ .again | .unregistering _ .again =>
    stop = false → (0 < owed ↔ 0 < due)
  | .register _ | .registering _ | .helloTest _ | .helloRead _ | .gotHello _ _ | .welcome _ _
  | .panel _ _ | .acquire _ _ _ | .pipeline _ => owed = 0 ∧ due = 0
  | .noHello _ => stop = false → 0 < due
  | .sessionTest _ | .turn _ | .sessionEnd _ | .joining _ =>
    0 < due ∧ (sleeping = true → 0 < owed)
  | .sleepTest _ ms _ | .sleepSlice _ ms _ => owed ≤ ms ∧ due = 0
  | .guard | .refused => owed = 0 ∧ due = 0
  | .leaving _ _ | .unregistering _ _ | .teardown | .done => True

/-- What holds after the events `past`. -/
structure Tally (past : List Event) (s : State) : Prop where
  inv : Inv s
  paced : Paced sleeps s.log ↔ Paced rounds past
  short : ∀ act ∈ s.log, sleeps.demand act ≤ blockedRetryMs
  balance : Balance s.pc s.stopRequested s.receiverSleeping (owed sleeps s.log)
    (owed rounds past)

theorem Tally.due_le {past : List Event} : owed rounds past ≤ 1 :=
  owed_le fun e _ => by
    unfold rounds
    dsimp only
    split <;> omega

variable {D : Type} {doubles : Doubles D} {args : Arguments} {s s' : State}
variable {past : List Event} {e : Event}

/-- An event that stands for nothing. -/
structure Event.Idle (e : Event) : Prop where
  demand : rounds.demand e = 0
  rest : rounds.rest e = 0
  attempt : rounds.attempt e = false

theorem Event.Idle.owed_eq (h : e.Idle) : owed rounds (past ++ [e]) = owed rounds past := by
  rw [owed_snoc, charge_idle h.attempt h.rest h.demand]

theorem Event.Idle.paced_past (h : e.Idle) : Paced rounds (past ++ [e]) ↔ Paced rounds past := by
  rw [paced_snoc, h.attempt]
  simp

theorem owed_publish (log : List Act) (status : Status) :
    owed sleeps (log ++ [.publish status]) = max (owed sleeps log) status.retryInMs := by
  rw [owed_snoc, charge_quiet rfl rfl]
  rfl

theorem paced_publish (log : List Act) (status : Status) :
    Paced sleeps (log ++ [.publish status]) ↔ Paced sleeps log := by
  rw [paced_snoc]
  simp [sleeps]

theorem reconnect_le_blocked : reconnectDelayMs ≤ blockedRetryMs := by decide

/-- The worker goes on in silence. -/
theorem Tally.silent (h : Tally past s) (hstep : step doubles args s e = some s') (he : e.Idle)
    (hlog : s'.log = s.log)
    (hbalance : ∀ owed due, Balance s.pc s.stopRequested s.receiverSleeping owed due →
      Balance s'.pc s'.stopRequested s'.receiverSleeping owed due) : Tally (past ++ [e]) s' where
  inv := inv_step h.inv hstep
  paced := by rw [hlog, he.paced_past, h.paced]
  short := hlog ▸ h.short
  balance := by
    rw [hlog, he.owed_eq]
    exact hbalance _ _ h.balance

/-- The worker goes on and publishes a status. -/
theorem Tally.publish {status : Status} (h : Tally past s)
    (hstep : step doubles args s e = some s') (he : e.Idle)
    (hlog : s'.log = s.log ++ [.publish status]) (hshort : status.retryInMs ≤ blockedRetryMs)
    (hbalance : ∀ owed due, Balance s.pc s.stopRequested s.receiverSleeping owed due →
      Balance s'.pc s'.stopRequested s'.receiverSleeping (max owed status.retryInMs) due) :
    Tally (past ++ [e]) s' where
  inv := inv_step h.inv hstep
  paced := by rw [hlog, paced_publish, he.paced_past, h.paced]
  short := by
    rw [hlog]
    exact List.forall_mem_append.2 ⟨h.short, List.forall_mem_singleton.2 hshort⟩
  balance := by
    rw [hlog, owed_publish, he.owed_eq]
    exact hbalance _ _ h.balance

/-- In a session a round is due, and a receiver that has gone to sleep has left a countdown. -/
theorem balance_session {pc : Pc} {c : Nat} (h : pc.session = some c) (stop sleeping : Bool)
    (owed due : Nat) :
    Balance pc stop sleeping owed due ↔ 0 < due ∧ (sleeping = true → 0 < owed) := by
  cases pc <;> first | rfl | cases h

/-- A stop request makes nothing due. -/
theorem balance_stop {pc : Pc} {stop sleeping : Bool} {owed due : Nat}
    (h : Balance pc stop sleeping owed due) : Balance pc true sleeping owed due := by
  unfold Balance at h ⊢
  split at h <;> first | exact h | exact nofun

/-- The worker or the reader goes on in a session. -/
theorem Tally.streams {c : Nat} (h : Tally past s) (hstep : step doubles args s e = some s')
    (he : e.Idle) (hstreams : Streams s s') (hsession : s.pc.session = some c)
    (hsession' : s'.pc.session = some c) : Tally (past ++ [e]) s' := by
  obtain ⟨statuses, hlog, hshort, hsleeping⟩ := hstreams.log
  have hquiet : ∀ act ∈ statuses.map Act.publish,
      sleeps.attempt act = false ∧ sleeps.rest act = 0 := by simp [sleeps]
  obtain ⟨hpaced, howed, hdemands⟩ := paced_append_quiet s.log hquiet
  obtain ⟨hdue, hcountdown⟩ := (balance_session hsession _ _ _ _).1 h.balance
  refine
    { inv := inv_step h.inv hstep
      paced := by rw [hlog, hpaced, he.paced_past, h.paced]
      short := ?_
      balance := (balance_session hsession' _ _ _ _).2 ⟨by rwa [he.owed_eq], fun hs' => ?_⟩ }
  · rw [hlog]
    refine List.forall_mem_append.2 ⟨h.short, List.forall_mem_map.2 fun status hmem => ?_⟩
    exact Nat.le_trans (hshort status hmem) reconnect_le_blocked
  · rw [hlog]
    rcases hsleeping hs' with hs | ⟨status, hmem, hpos⟩
    · exact Nat.lt_of_lt_of_le (hcountdown hs) howed
    · exact Nat.lt_of_lt_of_le hpos (hdemands _ (List.mem_map.2 ⟨status, hmem, rfl⟩))

/-- `Connection::Connect` is called: here the balance decides. -/
theorem Tally.connect (ok : Bool) (h : Tally past s) (hpc : s.pc = .connect) :
    (Paced sleeps (s.log ++ [.connect]) ↔ Paced rounds (past ++ [.connect ok])) ∧
      owed sleeps (s.log ++ [.connect]) = 0 ∧ owed rounds (past ++ [.connect ok]) = 0 := by
  have hbalance := h.balance
  rw [hpc, Balance] at hbalance
  have hsame : owed sleeps s.log = 0 ↔ owed rounds past = 0 := by omega
  refine ⟨?_, ?_, ?_⟩
  · rw [paced_snoc, paced_snoc, h.paced, hsame]
    rfl
  · rw [owed_snoc, charge_attempt rfl]
    rfl
  · rw [owed_snoc, charge_attempt rfl]
    rfl

theorem tally_step (h : Tally past s) (hstep : step doubles args s e = some s') :
    Tally (past ++ [e]) s' := by
  have hinv := inv_step h.inv hstep
  have hbalance := h.balance
  cases does_of_step hstep with
  | blocked hpc =>
    -- Whatever was due is paid, and the new countdown is the longest there is.
    have howed := owed_le h.short
    refine ⟨hinv, ?_, ?_, ?_, ?_⟩
    · rw [State.sleep, State.goTo, State.publish, State.enter, paced_publish, h.paced, paced_snoc]
      simp [rounds]
    · exact List.forall_mem_append.2 ⟨h.short, List.forall_mem_singleton.2 (Nat.le_refl _)⟩
    · exact (owed_publish _ _).trans_le (max_le howed (Nat.le_refl _))
    · rw [owed_snoc, charge_rest Tally.due_le]
      rfl
  | connected hpc =>
    obtain ⟨hpaced, howed, hdue⟩ := h.connect true hpc
    refine ⟨hinv, hpaced, ?_, howed, hdue⟩
    exact List.forall_mem_append.2 ⟨h.short, List.forall_mem_singleton.2 (Nat.zero_le _)⟩
  | unreachable hpc =>
    obtain ⟨hpaced, howed, hdue⟩ := h.connect false hpc
    refine ⟨hinv, (paced_publish _ _).trans hpaced, ?_, ?_, hdue⟩
    · refine List.forall_mem_append.2 ⟨?_, List.forall_mem_singleton.2 reconnect_le_blocked⟩
      exact List.forall_mem_append.2 ⟨h.short, List.forall_mem_singleton.2 (Nat.zero_le _)⟩
    · exact (owed_publish _ _).trans_le (max_le (howed.trans_le (Nat.zero_le _)) (Nat.le_refl _))
  | readsEnd hpc =>
    refine ⟨hinv, ?_, h.short, fun _ => ?_⟩
    · rw [State.goTo, h.paced, paced_snoc]
      simp [rounds]
    · rw [owed_snoc]
      exact Nat.lt_of_lt_of_le Nat.one_pos (demand_le_charge (p := rounds) _ (.read none))
  | built hpc =>
    refine ⟨hinv, ?_, ?_, ?_, nofun⟩
    · rw [State.goTo, State.publish, State.enter, paced_publish, h.paced, paced_snoc]
      simp [rounds]
    · exact List.forall_mem_append.2 ⟨h.short, List.forall_mem_singleton.2 (Nat.zero_le _)⟩
    · rw [owed_snoc]
      exact Nat.lt_of_lt_of_le Nat.one_pos (demand_le_charge (p := rounds) _ (.build none))
  | @wakes conn ms waited hpc hrested =>
    rw [hpc] at hbalance
    obtain ⟨howed, hdue⟩ := hbalance
    have he : Event.work.Idle := ⟨rfl, rfl, rfl⟩
    have hbalanced : s.stopRequested = false →
        (0 < owed sleeps (s.log ++ [.sleep waited]) ↔ 0 < owed rounds (past ++ [.work])) := by
      intro hclear
      have hslept := hrested.resolve_right (by rw [hclear]; nofun)
      rw [owed_snoc, charge_rest (Nat.le_trans howed hslept), he.owed_eq, hdue]
      rfl
    have hpaced : Paced sleeps (s.log ++ [.sleep waited]) ↔ Paced rounds (past ++ [.work]) := by
      rw [he.paced_past, ← h.paced, paced_snoc]
      simp [sleeps]
    have hshort : ∀ act ∈ s.log ++ [Act.sleep waited], sleeps.demand act ≤ blockedRetryMs :=
      List.forall_mem_append.2 ⟨h.short, List.forall_mem_singleton.2 (Nat.zero_le _)⟩
    cases conn <;> exact ⟨hinv, hpaced, hshort, hbalanced⟩
  | turn hpc hstreams _ hstays =>
    refine h.streams hstep ⟨rfl, rfl, rfl⟩ hstreams (by rw [hpc]; rfl) ?_
    rcases hstays with hstays | hstays <;> rw [hstays] <;> rfl
  | readerRead hreader hstreams hpc =>
    have hsession := h.inv.reader _ (by rw [hreader]; rfl)
    exact h.streams hstep ⟨rfl, rfl, rfl⟩ hstreams hsession (hpc ▸ hsession)
  | noHello hpc | joins hpc =>
    refine h.publish hstep ⟨rfl, rfl, rfl⟩ rfl reconnect_le_blocked fun owed due => ?_
    have hpos : 0 < max owed reconnectDelayMs := lt_max_of_lt_right (by decide)
    simp +contextual [Balance, hpc, hpos]
  | notWelcomed hpc | invalidPanel hpc | notBuilt _ hpc =>
    refine h.publish hstep ⟨rfl, rfl, rfl⟩ rfl reconnect_le_blocked fun owed due => ?_
    rw [hpc]
    rintro ⟨rfl, rfl⟩
    exact ⟨Nat.le_refl _, rfl⟩
  | panelBusy hpc =>
    refine h.publish hstep ⟨rfl, rfl, rfl⟩ rfl (Nat.le_refl _) fun owed due => ?_
    rw [hpc]
    rintro ⟨rfl, rfl⟩
    exact ⟨Nat.le_refl _, rfl⟩
  | refused hpc | guardFails hpc | stopReturns hpc | mismatch hpc | tearsDownStopped hpc
  | allowed hpc | registers hpc | validPanel hpc =>
    refine h.publish hstep ⟨rfl, rfl, rfl⟩ rfl (Nat.zero_le _) fun owed due => ?_
    simp [Balance, hpc]
  | readerReads | readerLeaves | callerLocks | callerFindsNone | callerInterrupts
  | callerUnlocks =>
    exact h.silent hstep ⟨rfl, rfl, rfl⟩ rfl fun owed due => id
  | requestStop =>
    exact h.silent hstep ⟨rfl, rfl, rfl⟩ rfl fun owed due => balance_stop
  | entersLoop hpc hstop | stopsHandshake hpc hstop =>
    refine h.silent hstep ⟨rfl, rfl, rfl⟩ rfl fun owed due => ?_
    simp [Balance, hpc, hstop]
  | joinsQuietly hpc _ hquiet =>
    refine h.silent hstep ⟨rfl, rfl, rfl⟩ rfl fun owed due => ?_
    rw [hpc]
    rintro ⟨hdue, hcountdown⟩ hclear
    have hgoing : s.stopRequested = false := hclear
    have := hcountdown (hquiet.resolve_left (by rw [hgoing]; nofun))
    omega
  | @locksOut c next hpc =>
    refine h.silent hstep ⟨rfl, rfl, rfl⟩ rfl fun owed due => ?_
    cases next <;> simp [Balance, hpc]
  | leavesLoop hpc | locksIn hpc | reads hpc | readsOther hpc | readsHello hpc | matching hpc
  | welcomed hpc | panelAcquired hpc | guardExists hpc | guardTaken hpc | endsSession hpc
  | entersTurn hpc | interrupts hpc | joinsClosing hpc | goesRound hpc | breaks hpc
  | returns hpc | sleepsOn hpc | slice hpc | tearsDown hpc =>
    refine h.silent hstep ⟨rfl, rfl, rfl⟩ rfl fun owed due => ?_
    simp +contextual [Balance, hpc]

theorem tally_run {left : SenderState} {events : List Event}
    (h : run (step doubles args) (start left) events = some s) : Tally events s := by
  refine run_history ⟨inv_start left, ?_, nofun, rfl, rfl⟩ (fun _ _ _ _ => tally_step) h
  exact ⟨fun _ => paced_nil rounds, fun _ => paced_nil sleeps⟩

/-- **Countdowns and attempts.**  Along every run, each countdown is followed by a sleep of at least
its length before the next connection attempt, exactly if between a handshake that has read the end
of its stream, or the start of a streaming session, and the next connection attempt the network
policy blocks a round. -/
theorem paced_iff {D : Type} (doubles : Doubles D) (args : Arguments) (left : SenderState)
    (events : List Event) (s : State)
    (h : run (step doubles args) (start left) events = some s) :
    Paced sleeps s.log ↔ Paced rounds events :=
  (tally_run h).paced

/-- A connection is refused, and the worker sleeps for two seconds before it tries again. -/
def refusedOnce : List Event :=
  [.create (some false), .work, .network true, .connect false] ++ List.replicate 41 .work ++
    [.work, .network true, .connect true]

theorem paced_iff_refused :
    ∃ s, run (step noNumbers tablet) (start .idle) refusedOnce = some s ∧
      Act.publish ⟨.reconnecting, .receiverUnavailable, 2000⟩ ∈ s.log ∧ Paced sleeps s.log := by
  have hends : ((run (step noNumbers tablet) (start .idle) refusedOnce).any fun s =>
      s.log.contains (.publish ⟨.reconnecting, .receiverUnavailable, 2000⟩)) = true := by
    decide +kernel
  obtain ⟨s, hrun, hs⟩ := (Option.any_eq_true _ _).1 hends
  refine ⟨s, hrun, by simpa using hs, (paced_iff noNumbers tablet .idle refusedOnce s hrun).2 ?_⟩
  refine paced_of_calm fun e he => ?_
  simp only [refusedOnce, List.mem_append, List.mem_replicate, List.mem_cons, List.not_mem_nil,
    or_false] at he
  rcases he with ((rfl | rfl | rfl | rfl) | ⟨-, rfl⟩) | rfl | rfl | rfl <;> rfl

/-- The receiver accepts the connection and closes it. -/
def acceptsAndCloses : List Event :=
  toHandshake ++ [.read none, .work, .lock, .work, .work, .network true, .connect true]

/-- The worker publishes a countdown of two seconds and tries again at once. -/
theorem paced_fails_silent :
    ∃ s, run (step noNumbers tablet) (start .idle) acceptsAndCloses = some s ∧
      s.log = [.publish ⟨.connecting, .none, 0⟩, .connect,
        .publish ⟨.waitingHello, .openDisplayUnavailable, 0⟩,
        .publish ⟨.reconnecting, .openDisplayUnavailable, 2000⟩,
        .publish ⟨.connecting, .none, 0⟩, .connect] ∧ ¬Paced sleeps s.log := by
  refine ⟨_, rfl, rfl, fun hpaced => ?_⟩
  obtain ⟨act, hact, hslept⟩ := hpaced
    [.publish ⟨.connecting, .none, 0⟩, .connect,
      .publish ⟨.waitingHello, .openDisplayUnavailable, 0⟩]
    (.publish ⟨.reconnecting, .openDisplayUnavailable, 2000⟩)
    [.publish ⟨.connecting, .none, 0⟩] .connect [] rfl (by decide) rfl (by simp [sleeps])
  rw [List.mem_singleton.1 hact] at hslept
  exact absurd hslept (by decide)

end SecondDisplay.RunLoop
