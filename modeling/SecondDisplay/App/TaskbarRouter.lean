import SecondDisplay.App.WindowRouting
import Mathlib.Data.List.Perm.Subperm
import Mathlib.Logic.Function.Basic

/-!
# Following a click on the taskbar (`app/TaskbarRouter.cpp`)

A click on a taskbar names a monitor; the next process that comes to the foreground is taken to be
the one that was clicked, and for twelve seconds its windows, and those of its descendants, are
moved to that monitor.  `route_iff` says which windows that are, after any sequence of clicks and
window events.
-/

namespace SecondDisplay.TaskbarRouter

open InputInjector (Point)
open WindowRouting (Handle Window isRoutableTopLevelWindow)

/-! ### Families of processes -/

/-- `PROCESSENTRY32W`. -/
structure ProcessEntry where
  processId : UInt32
  parentProcessId : UInt32

/-- The loop of `IsProcessInFamily`, with the number of rounds that are left. -/
def climb (snapshot : List ProcessEntry) (processId rootProcessId : UInt32) : Nat → UInt32 → Bool
  | 0, _ => false
  | depth + 1, current =>
    if current == 0 then false
    else
      match snapshot.find? fun entry => entry.processId == current with
      | none => false
      | some entry =>
        if entry.parentProcessId == 0 || entry.parentProcessId == processId then false
        else if entry.parentProcessId == rootProcessId then true
        else climb snapshot processId rootProcessId depth entry.parentProcessId

/-- `IsProcessInFamily`, with the processes of the snapshot if there is one. -/
def isProcessInFamily (snapshot : Option (List ProcessEntry)) (processId rootProcessId : UInt32) :
    Bool :=
  if processId == 0 || rootProcessId == 0 then false
  else if processId == rootProcessId then true
  else
    match snapshot with
    | none => false
    | some snapshot => climb snapshot processId rootProcessId 16 processId

/-- The parent of a process, as the snapshot has it; there is no process `0`. -/
def parent (snapshot : List ProcessEntry) (processId : UInt32) : Option UInt32 :=
  if processId = 0 then none
  else (snapshot.find? fun entry => entry.processId == processId).map (·.parentProcessId)

/-- The parent of the parent, and so on. -/
def ancestor (snapshot : List ProcessEntry) : Nat → UInt32 → Option UInt32
  | 0, processId => some processId
  | n + 1, processId => (parent snapshot processId).bind (ancestor snapshot n)

theorem ancestor_add (snapshot : List ProcessEntry) (m n : Nat) (processId : UInt32) :
    ancestor snapshot (m + n) processId =
      (ancestor snapshot m processId).bind (ancestor snapshot n) := by
  induction m generalizing processId with
  | zero =>
    rw [Nat.zero_add]
    rfl
  | succ m ih =>
    rw [Nat.add_right_comm]
    show (parent snapshot processId).bind (ancestor snapshot (m + n)) =
      ((parent snapshot processId).bind (ancestor snapshot m)).bind (ancestor snapshot n)
    cases parent snapshot processId with
    | none => rfl
    | some up => exact ih up

theorem ancestor_zero_process (snapshot : List ProcessEntry) (n : Nat) :
    ancestor snapshot (n + 1) 0 = none := rfl

/-- One round of the loop. -/
theorem climb_succ (snapshot : List ProcessEntry) (processId rootProcessId : UInt32) (depth : Nat)
    (current : UInt32) : climb snapshot processId rootProcessId (depth + 1) current =
      match parent snapshot current with
      | none => false
      | some up =>
        if up == 0 || up == processId then false
        else if up == rootProcessId then true
        else climb snapshot processId rootProcessId depth up := by
  rw [climb, parent]
  by_cases hzero : current = 0
  · simp [hzero]
  · simp only [beq_iff_eq, hzero, if_false]
    cases snapshot.find? fun entry => entry.processId == current <;> rfl

/-- **The loop** finds the root exactly if it is an ancestor that can be reached without passing the
process again. -/
theorem climb_iff {snapshot : List ProcessEntry} {processId rootProcessId : UInt32}
    (hroot : rootProcessId ≠ 0) (depth : Nat) (current : UInt32) :
    climb snapshot processId rootProcessId depth current = true ↔
      ∃ n, n < depth ∧ ancestor snapshot (n + 1) current = some rootProcessId ∧
        ∀ k, k ≤ n → ancestor snapshot (k + 1) current ≠ some processId := by
  induction depth generalizing current with
  | zero => simp [climb]
  | succ depth ih =>
    rw [climb_succ]
    have hstep (n : Nat) : ancestor snapshot (n + 1) current =
        (parent snapshot current).bind (ancestor snapshot n) := rfl
    cases hparent : parent snapshot current with
    | none =>
      simp only [hstep, hparent]
      simp
    | some up =>
      have hup (n : Nat) : ancestor snapshot (n + 1) current = ancestor snapshot n up := by
        rw [hstep, hparent]
        rfl
      simp only [hup]
      by_cases hstop : up = 0 ∨ up = processId
      · have hcond : (up == 0 || up == processId) = true := by simpa using hstop
        rw [hcond]
        constructor
        · intro h
          simp at h
        · intro ⟨n, _, hreach, havoid⟩
          rcases hstop with hzero | hself
          · subst hzero
            cases n with
            | zero => exact absurd (Option.some.inj hreach).symm hroot
            | succ n => simp [ancestor_zero_process] at hreach
          · exact absurd (congrArg some hself) (havoid 0 (Nat.zero_le n))
      · have hcond : (up == 0 || up == processId) = false := by simpa using hstop
        rw [hcond]
        simp only [Bool.false_eq_true, if_false]
        by_cases hfound : up = rootProcessId
        · rw [if_pos (by simpa using hfound)]
          refine iff_of_true rfl ⟨0, Nat.succ_pos depth, congrArg some hfound, ?_⟩
          intro k hk hself
          obtain rfl : k = 0 := Nat.le_zero.1 hk
          exact hstop (Or.inr (Option.some.inj hself))
        · rw [if_neg (by simpa using hfound), ih up]
          constructor
          · intro ⟨n, hn, hreach, havoid⟩
            refine ⟨n + 1, by omega, hreach, ?_⟩
            intro k hk
            cases k with
            | zero => exact fun hself => hstop (Or.inr (Option.some.inj hself))
            | succ k => exact havoid k (by omega)
          · intro ⟨n, hn, hreach, havoid⟩
            cases n with
            | zero => exact absurd (Option.some.inj hreach) hfound
            | succ n => exact ⟨n, by omega, hreach, fun k hk => havoid (k + 1) (by omega)⟩

/-- An ancestor can be reached without passing the process again. -/
theorem exists_direct {snapshot : List ProcessEntry} {processId rootProcessId : UInt32}
    (hne : processId ≠ rootProcessId) {n : Nat}
    (h : ancestor snapshot n processId = some rootProcessId) :
    ∃ m, m < n ∧ ancestor snapshot (m + 1) processId = some rootProcessId ∧
      ∀ k, k ≤ m → ancestor snapshot (k + 1) processId ≠ some processId := by
  induction n using Nat.strongRecOn with
  | ind n ih =>
    cases n with
    | zero => exact absurd (Option.some.inj h) hne
    | succ n =>
      by_cases hagain : ∃ k, k ≤ n ∧ ancestor snapshot (k + 1) processId = some processId
      · -- From where the process is passed again, the way is shorter.
        obtain ⟨k, hk, hself⟩ := hagain
        have hrest : ancestor snapshot (n - k) processId = some rootProcessId := by
          have hsplit : n + 1 = (k + 1) + (n - k) := by omega
          rw [hsplit, ancestor_add, hself] at h
          exact h
        obtain ⟨m, hm, hreach, havoid⟩ := ih (n - k) (by omega) hrest
        exact ⟨m, by omega, hreach, havoid⟩
      · exact ⟨n, Nat.lt_succ_self n, h, fun k hk hself => hagain ⟨k, hk, hself⟩⟩

/-- **Who belongs to a family**: the process itself, and whom at most sixteen steps from child to
parent lead to it.  Neither the check for a process that comes round again nor the order of the
entries loses one. -/
theorem isProcessInFamily_iff (snapshot : Option (List ProcessEntry))
    (processId rootProcessId : UInt32) :
    isProcessInFamily snapshot processId rootProcessId = true ↔
      processId ≠ 0 ∧ rootProcessId ≠ 0 ∧
        ∃ n, n ≤ 16 ∧ ancestor (snapshot.getD []) n processId = some rootProcessId := by
  unfold isProcessInFamily
  by_cases hzero : processId = 0 ∨ rootProcessId = 0
  · rw [if_pos (by simpa using hzero)]
    refine iff_of_false Bool.false_ne_true fun h => ?_
    exact hzero.elim h.1 h.2.1
  · obtain ⟨hprocess, hroot⟩ := not_or.1 hzero
    rw [if_neg (by simpa using hzero)]
    by_cases hself : processId = rootProcessId
    · rw [if_pos (by simpa using hself)]
      exact iff_of_true rfl ⟨hprocess, hroot, 0, Nat.zero_le _, congrArg some hself⟩
    · rw [if_neg (by simpa using hself)]
      cases snapshot with
      | none =>
        refine iff_of_false Bool.false_ne_true fun ⟨_, _, n, _, hreach⟩ => ?_
        cases n with
        | zero => exact hself (Option.some.inj hreach)
        | succ n => simp [ancestor, parent] at hreach
      | some snapshot =>
        show climb snapshot processId rootProcessId 16 processId = true ↔ _
        rw [climb_iff hroot]
        constructor
        · intro ⟨n, hn, hreach, _⟩
          exact ⟨hprocess, hroot, n + 1, hn, hreach⟩
        · intro ⟨_, _, n, hn, hreach⟩
          obtain ⟨m, hm, hdirect⟩ := exists_direct hself hreach
          exact ⟨m, by omega, hdirect⟩

/-! ### The router -/

/-- The data under `mutex_`; the clock counts nanoseconds, and `0` is `time_point{}`. -/
structure Router where
  lastClick : Point := {}
  lastClickAt : Nat := 0
  routedProcessId : UInt32 := 0
  routedMonitor : Handle := 0
  routedUntil : Nat := 0

/-- `RememberTaskbarClick`. -/
def Router.rememberTaskbarClick (_ : Router) (point : Point) (now : Nat) : Router :=
  { lastClick := point, lastClickAt := now }

/-- An event of a window, with what Windows answers while it is handled. -/
structure WindowEvent where
  /-- `EVENT_SYSTEM_FOREGROUND`. -/
  foreground : Bool
  window : Window
  processId : UInt32
  now : Nat
  snapshot : Option (List ProcessEntry)
  /-- `MonitorFromPoint` with `MONITOR_DEFAULTTONULL`. -/
  monitorFromPoint : Point → Handle

/-- 2500 ms. -/
def clickTime : Nat := 2500000000
/-- 12 s. -/
def followTime : Nat := 12000000000

/-- `RouteWindowEvent`, with the monitor the window is moved to; `0` where it stays. -/
def Router.routeWindowEvent (router : Router) (event : WindowEvent) : Router × Handle :=
  if !isRoutableTopLevelWindow event.window then (router, 0)
  else if event.processId == 0 then (router, 0)
  else if router.routedUntil != 0 && decide (event.now < router.routedUntil) &&
      isProcessInFamily event.snapshot event.processId router.routedProcessId then
    (router, router.routedMonitor)
  else if event.foreground && router.lastClickAt != 0 &&
      decide (event.now - router.lastClickAt ≤ clickTime) then
    let target := event.monitorFromPoint router.lastClick
    let routed : Router :=
      if target != 0 then
        { router with
          routedProcessId := event.processId
          routedMonitor := target
          routedUntil := event.now + followTime }
      else router
    ({ routed with lastClickAt := 0 }, target)
  else (router, 0)

/-- What the hooks report. -/
inductive Input where
  | click (point : Point) (now : Nat)
  | window (event : WindowEvent)

def Router.apply (router : Router) : Input → Router
  | .click point now => router.rememberTaskbarClick point now
  | .window event => (router.routeWindowEvent event).1

/-- The router after all that the hooks have reported. -/
def after (inputs : List Input) : Router := inputs.foldl Router.apply {}

theorem after_append_window (inputs : List Input) (event : WindowEvent) :
    after (inputs ++ [.window event]) = ((after inputs).routeWindowEvent event).1 := by
  rw [after, List.foldl_append]
  rfl

/-! ### What a click leads to -/

/-- The windows the router looks at. -/
def WindowEvent.relevant (event : WindowEvent) : Bool :=
  isRoutableTopLevelWindow event.window && event.processId != 0

/-- The event of a window that comes to the foreground soon after a click. -/
def WindowEvent.answers (event : WindowEvent) (clickedAt : Nat) : Bool :=
  event.relevant && event.foreground && clickedAt != 0 &&
    decide (event.now - clickedAt ≤ clickTime)

/-- The router when a click has been followed by these window events. -/
def followed (point : Point) (clickedAt : Nat) (later : List WindowEvent) : Router :=
  match later.find? (·.answers clickedAt) with
  | none => { lastClick := point, lastClickAt := clickedAt }
  | some first =>
    if first.monitorFromPoint point = 0 then { lastClick := point }
    else
      { lastClick := point
        routedProcessId := first.processId
        routedMonitor := first.monitorFromPoint point
        routedUntil := first.now + followTime }

/-- Where a window goes, told from the click and the window events since then. -/
def destination (point : Point) (clickedAt : Nat) (later : List WindowEvent)
    (event : WindowEvent) : Handle :=
  if event.relevant then
    match later.find? (·.answers clickedAt) with
    | none => if event.answers clickedAt then event.monitorFromPoint point else 0
    | some first =>
      if event.now < first.now + followTime ∧
          isProcessInFamily event.snapshot event.processId first.processId = true then
        first.monitorFromPoint point
      else 0
  else 0

/-- An event of no interest. -/
theorem routeWindowEvent_of_not_relevant {event : WindowEvent} (h : event.relevant = false)
    (router : Router) : router.routeWindowEvent event = (router, 0) := by
  unfold Router.routeWindowEvent
  split
  · rfl
  · rename_i hroutable
    have hshown : isRoutableTopLevelWindow event.window = true := by simpa using hroutable
    have hprocess : event.processId = 0 := by simpa [WindowEvent.relevant, hshown] using h
    simp [hprocess]

/-- An event of interest. -/
theorem routeWindowEvent_of_relevant {event : WindowEvent} (h : event.relevant = true)
    (router : Router) : router.routeWindowEvent event =
      if router.routedUntil ≠ 0 ∧ event.now < router.routedUntil ∧
          isProcessInFamily event.snapshot event.processId router.routedProcessId = true then
        (router, router.routedMonitor)
      else if event.answers router.lastClickAt = true then
        if event.monitorFromPoint router.lastClick = 0 then ({ router with lastClickAt := 0 }, 0)
        else
          ({ router with
              lastClickAt := 0
              routedProcessId := event.processId
              routedMonitor := event.monitorFromPoint router.lastClick
              routedUntil := event.now + followTime }, event.monitorFromPoint router.lastClick)
      else (router, 0) := by
  obtain ⟨hroutable, hprocess⟩ : isRoutableTopLevelWindow event.window = true ∧
      event.processId ≠ 0 := by simpa [WindowEvent.relevant] using h
  have hanswers : event.answers router.lastClickAt = (event.foreground &&
      router.lastClickAt != 0 && decide (event.now - router.lastClickAt ≤ clickTime)) := by
    simp [WindowEvent.answers, h]
  rw [hanswers]
  simp only [Router.routeWindowEvent, hroutable, Bool.not_true, Bool.false_eq_true, if_false,
    beq_iff_eq, hprocess, Bool.and_eq_true, bne_iff_ne, decide_eq_true_eq, and_assoc]
  split
  · rfl
  · split
    · split <;> simp_all
    · rfl

theorem answers_of_not_relevant {event : WindowEvent} (h : event.relevant = false) (t : Nat) :
    event.answers t = false := by
  rw [WindowEvent.answers, h]
  rfl

/-- **One window event.**  The router stays what the click and the events since then make it, and
sends the window where they say. -/
theorem routeWindowEvent_followed (point : Point) (clickedAt : Nat) (later : List WindowEvent)
    (event : WindowEvent) : (followed point clickedAt later).routeWindowEvent event =
      (followed point clickedAt (later ++ [event]), destination point clickedAt later event) := by
  unfold followed destination
  rw [List.find?_append]
  cases hrelevant : event.relevant with
  | false =>
    have hanswers := answers_of_not_relevant hrelevant clickedAt
    rw [routeWindowEvent_of_not_relevant hrelevant]
    simp [hanswers]
  | true =>
    rw [routeWindowEvent_of_relevant hrelevant]
    cases hfirst : later.find? (·.answers clickedAt) with
    | none =>
      -- The click is still to be answered, and nothing is followed.
      cases hanswers : event.answers clickedAt with
      | false => simp [hanswers]
      | true =>
        by_cases hnone : event.monitorFromPoint point = 0
        · simp [hanswers, hnone]
        · simp [hanswers, hnone]
    | some first =>
      -- The click has been answered, so no event answers it any more.
      have hspent : event.answers 0 = false := by simp [WindowEvent.answers]
      by_cases hnone : first.monitorFromPoint point = 0
      · simp [hnone, hspent]
      · have hfollow : followTime ≠ 0 := by decide
        by_cases hfollowed : event.now < first.now + followTime ∧
            isProcessInFamily event.snapshot event.processId first.processId = true
        · simp [hnone, hfollow, hfollowed]
        · simp [hnone, hspent, hfollow, hfollowed]

/-- Before the first click there is nothing to follow. -/
theorem routeWindowEvent_fresh (event : WindowEvent) :
    Router.routeWindowEvent {} event = ({}, 0) := by
  cases hrelevant : event.relevant with
  | false => exact routeWindowEvent_of_not_relevant hrelevant _
  | true =>
    rw [routeWindowEvent_of_relevant hrelevant]
    simp [WindowEvent.answers]

theorem after_windows (events : List WindowEvent) : after (events.map .window) = {} := by
  induction events using List.reverseRecOn with
  | nil => rfl
  | append_singleton events event ih =>
    rw [List.map_append, List.map_singleton, after_append_window, ih, routeWindowEvent_fresh]

/-- **From the last click on** the router is what the click and the window events since then make
it, whatever came before. -/
theorem after_click (before : List Input) (point : Point) (clickedAt : Nat)
    (later : List WindowEvent) :
    after (before ++ .click point clickedAt :: later.map .window) =
      followed point clickedAt later := by
  induction later using List.reverseRecOn with
  | nil =>
    rw [after, List.foldl_append]
    rfl
  | append_singleton later event ih =>
    rw [List.map_append, List.map_singleton, ← List.cons_append, ← List.append_assoc,
      after_append_window, ih, routeWindowEvent_followed]

theorem last_click (inputs : List Input) : (∃ events : List WindowEvent,
    inputs = events.map .window) ∨ ∃ before point clickedAt, ∃ later : List WindowEvent,
      inputs = before ++ .click point clickedAt :: later.map .window := by
  induction inputs using List.reverseRecOn with
  | nil => exact Or.inl ⟨[], rfl⟩
  | append_singleton inputs input ih =>
    cases input with
    | click point now => exact Or.inr ⟨inputs, point, now, [], rfl⟩
    | window event =>
      rcases ih with ⟨events, hevents⟩ | ⟨before, point, clickedAt, later, hinputs⟩
      · exact Or.inl ⟨events ++ [event], by simp [hevents]⟩
      · exact Or.inr ⟨before, point, clickedAt, later ++ [event], by simp [hinputs]⟩

/-- How a click leads a window to a monitor: the window answers it, or the first event that did was
one of the same family, not more than twelve seconds ago. -/
inductive Leads (point : Point) (clickedAt : Nat) (later : List WindowEvent) (event : WindowEvent) :
    Handle → Prop
  | answer (unanswered : ∀ other ∈ later, other.answers clickedAt = false)
      (answers : event.answers clickedAt = true) :
      Leads point clickedAt later event (event.monitorFromPoint point)
  | follow (before : List WindowEvent) (first : WindowEvent) (between : List WindowEvent)
      (order : later = before ++ first :: between)
      (unanswered : ∀ other ∈ before, other.answers clickedAt = false)
      (answered : first.answers clickedAt = true) (relevant : event.relevant = true)
      (soon : event.now < first.now + followTime)
      (family : isProcessInFamily event.snapshot event.processId first.processId = true) :
      Leads point clickedAt later event (first.monitorFromPoint point)

theorem destination_eq_iff {point : Point} {clickedAt : Nat} {later : List WindowEvent}
    {event : WindowEvent} {monitor : Handle} (hmonitor : monitor ≠ 0) :
    destination point clickedAt later event = monitor ↔
      Leads point clickedAt later event monitor := by
  unfold destination
  constructor
  · intro h
    split at h
    · rename_i hrelevant
      cases hfirst : later.find? (·.answers clickedAt) with
      | none =>
        rw [hfirst] at h
        simp only at h
        split at h
        · rename_i hanswers
          rw [← h]
          exact .answer (by simpa using List.find?_eq_none.1 hfirst) hanswers
        · exact absurd h.symm hmonitor
      | some first =>
        rw [hfirst] at h
        simp only at h
        obtain ⟨hanswered, before, between, horder, hbefore⟩ :=
          List.find?_eq_some_iff_append.1 hfirst
        split at h
        · rename_i hfollowed
          rw [← h]
          exact .follow before first between horder (by simpa using hbefore) hanswered hrelevant
            hfollowed.1 hfollowed.2
        · exact absurd h.symm hmonitor
    · exact absurd h.symm hmonitor
  · intro h
    cases h with
    | answer unanswered answers =>
      have hrelevant : event.relevant = true := by
        by_contra hnot
        rw [answers_of_not_relevant (by simpa using hnot)] at answers
        exact Bool.false_ne_true answers
      have hnone : later.find? (·.answers clickedAt) = none := by
        simpa using unanswered
      rw [if_pos hrelevant, hnone]
      exact if_pos answers
    | follow before first between order unanswered answered relevant soon family =>
      have hfirst : later.find? (·.answers clickedAt) = some first :=
        List.find?_eq_some_iff_append.2
          ⟨answered, before, between, order, by simpa using unanswered⟩
      rw [if_pos relevant, hfirst]
      exact if_pos ⟨soon, family⟩

/-- **Which windows follow a click.**  After any clicks and window events, a window is sent to a
monitor exactly if the last click leads it there. -/
theorem route_iff (inputs : List Input) (event : WindowEvent) {monitor : Handle}
    (hmonitor : monitor ≠ 0) :
    ((after inputs).routeWindowEvent event).2 = monitor ↔
      ∃ before point clickedAt later, inputs = before ++ .click point clickedAt ::
        later.map .window ∧ Leads point clickedAt later event monitor := by
  constructor
  · intro h
    rcases last_click inputs with ⟨events, hevents⟩ | ⟨before, point, clickedAt, later, hinputs⟩
    · rw [hevents, after_windows, routeWindowEvent_fresh] at h
      exact absurd h.symm hmonitor
    · rw [hinputs, after_click, routeWindowEvent_followed] at h
      exact ⟨before, point, clickedAt, later, hinputs, (destination_eq_iff hmonitor).1 h⟩
  · intro ⟨before, point, clickedAt, later, hinputs, hleads⟩
    rw [hinputs, after_click, routeWindowEvent_followed]
    exact (destination_eq_iff hmonitor).2 hleads

/-! Steam is clicked on the taskbar of the tablet; its window comes from a helper process. -/

def helperWindow : WindowEvent where
  foreground := false
  window := WindowRouting.wideWindow
  processId := 44
  now := 9000000000
  snapshot := some [⟨12, 4⟩, ⟨44, 43⟩, ⟨43, 12⟩]
  monitorFromPoint := fun _ => 7

def steamActivated : WindowEvent :=
  { helperWindow with
    foreground := true
    processId := 12
    now := 1500000000
    monitorFromPoint := fun point => if point.x < 0 then 8 else 7 }

theorem route_iff_steam :
    ((after [.click ⟨-400, 590⟩ 1000000000, .window steamActivated]).routeWindowEvent
      helperWindow).2 = 8 :=
  (route_iff _ helperWindow (by decide)).2 ⟨[], ⟨-400, 590⟩, 1000000000, [steamActivated], rfl,
    .follow [] steamActivated [] rfl (by simp) (by decide) (by decide) (by decide) (by decide)⟩

/-! ### Hooks -/

/-- The hook handles of a router. -/
structure Hooks where
  mouseHook : Option Nat := none
  foregroundHook : Option Nat := none
  windowStateHook : Option Nat := none
  deriving DecidableEq

/-- `Start` has nothing to do. -/
def Hooks.complete (hooks : Hooks) : Bool :=
  hooks.mouseHook.isSome && hooks.foregroundHook.isSome && hooks.windowStateHook.isSome

def Hooks.handles (hooks : Hooks) : List Nat :=
  hooks.mouseHook.toList ++ hooks.foregroundHook.toList ++ hooks.windowStateHook.toList

/-- The routers of the process and the hooks Windows keeps for them. -/
structure Desk (ι : Type*) where
  hooks : ι → Hooks := fun _ => {}
  /-- `instance_`. -/
  instance_ : Option ι := none
  /-- Set and not yet removed. -/
  live : List Nat := []
  /-- The next handle. -/
  next : Nat := 1

variable {ι : Type*} [DecidableEq ι]

/-- One of the three `Set…Hook` calls. -/
def Desk.setHook (desk : Desk ι) (succeeds : Bool) : Desk ι × Option Nat :=
  if succeeds then
    ({ desk with live := desk.next :: desk.live, next := desk.next + 1 }, some desk.next)
  else (desk, none)

/-- One of the three `Unhook…` calls of `Stop`. -/
def Desk.unhook (desk : Desk ι) : Option Nat → Desk ι
  | some handle => { desk with live := desk.live.erase handle }
  | none => desk

/-- `TaskbarRouter::Stop`. -/
def Desk.stop (desk : Desk ι) (i : ι) : Desk ι :=
  let desk' := desk.unhook (desk.hooks i).mouseHook
  let desk' := desk'.unhook (desk.hooks i).foregroundHook
  let desk' := desk'.unhook (desk.hooks i).windowStateHook
  { desk' with
    hooks := Function.update desk.hooks i {}
    instance_ := if desk.instance_ = some i then none else desk.instance_ }

/-- Which hooks Windows grants. -/
structure Grants where
  mouse : Bool
  foreground : Bool
  windowState : Bool

/-- The middle of `Start`: the router becomes the instance and sets its hooks. -/
def Desk.setHooks (desk : Desk ι) (i : ι) (grants : Grants) : Desk ι :=
  let (desk', mouse) := desk.setHook grants.mouse
  let (desk', foreground) := desk'.setHook grants.foreground
  let (desk', windowState) := desk'.setHook grants.windowState
  { desk' with
    hooks := Function.update desk.hooks i ⟨mouse, foreground, windowState⟩
    instance_ := some i }

/-- `TaskbarRouter::Start`, with what it returns. -/
def Desk.start (desk : Desk ι) (i : ι) (grants : Grants) : Desk ι × Bool :=
  if (desk.hooks i).complete then (desk, true)
  else if desk.instance_.isSome && desk.instance_ != some i then (desk, false)
  else
    let desk' := desk.setHooks i grants
    if (desk'.hooks i).complete then (desk', true) else (desk'.stop i, false)

inductive HookCall (ι : Type*) where
  | start (i : ι) (grants : Grants)
  | stop (i : ι)

def Desk.call (desk : Desk ι) : HookCall ι → Desk ι
  | .start i grants => (desk.start i grants).1
  | .stop i => desk.stop i

/-- Windows keeps the hooks of one router, all three of them, or none. -/
inductive Desk.Sound (desk : Desk ι) : Prop
  | none (free : desk.instance_ = .none) (hooks : ∀ i, desk.hooks i = {}) (live : desk.live = [])
  | one (i : ι) (owner : desk.instance_ = some i) (complete : (desk.hooks i).complete = true)
      (others : ∀ j, j ≠ i → desk.hooks j = {}) (live : desk.live.Perm (desk.hooks i).handles)

/-- A router without hooks that is not the instance has nothing to stop. -/
theorem stop_of_empty {desk : Desk ι} {i : ι} (hhooks : desk.hooks i = {})
    (howner : desk.instance_ ≠ some i) : desk.stop i = desk := by
  have hsame : Function.update desk.hooks i {} = desk.hooks := by
    rw [← hhooks, Function.update_eq_self]
  simp only [Desk.stop, hhooks, Desk.unhook, if_neg howner, hsame]

/-- Stopping takes the handles of the router out of Windows. -/
theorem live_stop (desk : Desk ι) (i : ι) :
    (desk.stop i).live = desk.live.diff (desk.hooks i).handles := by
  rw [List.diff_eq_foldl]
  cases h : desk.hooks i with
  | mk mouse foreground windowState =>
    cases mouse <;> cases foreground <;> cases windowState <;>
      simp [Desk.stop, Desk.unhook, Hooks.handles, h]

theorem hooks_stop (desk : Desk ι) (i j : ι) :
    (desk.stop i).hooks j = if j = i then {} else desk.hooks j := Function.update_apply _ _ _ _

theorem instance_stop (desk : Desk ι) (i : ι) : (desk.stop i).instance_ =
    if desk.instance_ = some i then none else desk.instance_ := rfl

theorem diff_of_perm {live handles : List Nat} (h : live.Perm handles) :
    live.diff handles = [] := by
  have hself : handles.diff handles = [] := by
    clear h
    induction handles with
    | nil => rfl
    | cons handle handles ih => rw [List.diff_cons, List.erase_cons_head, ih]
  have hperm := h.diff_right handles
  rw [hself] at hperm
  exact hperm.eq_nil

/-- When the instance stops, nothing is left in Windows. -/
theorem sound_stop_owner {desk : Desk ι} {i : ι} (howner : desk.instance_ = some i)
    (hothers : ∀ j, j ≠ i → desk.hooks j = {}) (hlive : desk.live.Perm (desk.hooks i).handles) :
    (desk.stop i).Sound := by
  refine .none ?_ ?_ ?_
  · rw [instance_stop, if_pos howner]
  · intro j
    rw [hooks_stop]
    split
    · rfl
    · exact hothers j ‹_›
  · rw [live_stop, diff_of_perm hlive]

theorem sound_stop {desk : Desk ι} (h : desk.Sound) (i : ι) : (desk.stop i).Sound := by
  cases h with
  | none free hooks live =>
    rw [stop_of_empty (hooks i) (by simp [free])]
    exact .none free hooks live
  | one owner howner complete others live =>
    by_cases hi : i = owner
    · subst hi
      exact sound_stop_owner howner others live
    · rw [stop_of_empty (others i hi) (by simp [howner, Ne.symm hi])]
      exact .one owner howner complete others live

theorem hooks_setHooks_of_ne (desk : Desk ι) (grants : Grants) {i j : ι} (h : j ≠ i) :
    (desk.setHooks i grants).hooks j = desk.hooks j := Function.update_of_ne h _ _

theorem instance_setHooks (desk : Desk ι) (i : ι) (grants : Grants) :
    (desk.setHooks i grants).instance_ = some i := rfl

/-- What is set is written down. -/
theorem live_setHooks {desk : Desk ι} (hlive : desk.live = []) (i : ι) (grants : Grants) :
    (desk.setHooks i grants).live.Perm ((desk.setHooks i grants).hooks i).handles := by
  obtain ⟨mouse, foreground, windowState⟩ := grants
  have hreverse : (desk.setHooks i ⟨mouse, foreground, windowState⟩).live =
      ((desk.setHooks i ⟨mouse, foreground, windowState⟩).hooks i).handles.reverse := by
    cases mouse <;> cases foreground <;> cases windowState <;>
      simp [Desk.setHooks, Desk.setHook, Hooks.handles, hlive]
  rw [hreverse]
  exact List.reverse_perm _

/-- **Starting** either ends with all three hooks of this router or leaves none of its hooks, and
returns which. -/
theorem sound_start {desk : Desk ι} (h : desk.Sound) (i : ι) (grants : Grants) :
    (desk.start i grants).1.Sound ∧
      (desk.start i grants).2 = ((desk.start i grants).1.hooks i).complete := by
  unfold Desk.start
  cases hcomplete : (desk.hooks i).complete with
  | true =>
    rw [if_pos rfl]
    exact ⟨h, hcomplete.symm⟩
  | false =>
    rw [if_neg Bool.false_ne_true]
    cases h with
    | one owner howner complete others live =>
      have hi : i ≠ owner := by
        intro hi
        rw [hi, complete] at hcomplete
        exact Bool.noConfusion hcomplete
      rw [if_pos (by simp [howner, Ne.symm hi])]
      exact ⟨.one owner howner complete others live, hcomplete.symm⟩
    | none free hooks live =>
      rw [if_neg (by simp [free])]
      have hothers : ∀ j, j ≠ i → (desk.setHooks i grants).hooks j = {} := by
        intro j hj
        rw [hooks_setHooks_of_ne desk grants hj, hooks j]
      have hlive := live_setHooks live i grants
      have howner := instance_setHooks desk i grants
      cases hset : ((desk.setHooks i grants).hooks i).complete with
      | true =>
        show (ite _ _ _ : Desk ι × Bool).1.Sound ∧ (ite _ _ _ : Desk ι × Bool).2 = _
        rw [if_pos hset]
        exact ⟨.one i howner hset hothers hlive, hset.symm⟩
      | false =>
        show (ite _ _ _ : Desk ι × Bool).1.Sound ∧ (ite _ _ _ : Desk ι × Bool).2 = _
        rw [if_neg (by simp [hset])]
        refine ⟨sound_stop_owner howner hothers hlive, ?_⟩
        rw [hooks_stop, if_pos rfl]
        rfl

/-- **No hook is left behind.**  After any calls of `Start` and `Stop` of any routers, whichever
hooks Windows grants, it keeps the three hooks of one router or none at all, and a `Start` returns
whether its router has them. -/
theorem hooks_sound (calls : List (HookCall ι)) (i : ι) (grants : Grants) :
    (calls.foldl Desk.call {}).Sound ∧
      ((calls.foldl Desk.call {}).start i grants).2 =
        (((calls.foldl Desk.call {}).start i grants).1.hooks i).complete := by
  have hsound : (calls.foldl Desk.call ({} : Desk ι)).Sound := by
    induction calls using List.reverseRecOn with
    | nil => exact .none rfl (fun _ => rfl) rfl
    | append_singleton calls call ih =>
      rw [List.foldl_append]
      cases call with
      | start j grants' => exact (sound_start ih j grants').1
      | stop j => exact sound_stop ih j
  exact ⟨hsound, (sound_start hsound i grants).2⟩

end SecondDisplay.TaskbarRouter
