import SecondDisplay.App.DisplayLauncher

/-!
# Which launcher windows there are (`app/DisplayLauncher.cpp`)

After a `Sync` the displays it has listed have a window, and no others (`launcher_sound`).  A window
is created once and stays as long as its display is listed, whether Windows has let it come into
being or not (`handle_kept`).
-/

namespace SecondDisplay.DisplayLauncher

open InputInjector (Rect)

variable {m : Manager}

/-! ### How long a window lasts -/

/-- A window for this target with this handle. -/
def Manager.Has (m : Manager) (id : List UInt8 × Option Nat) : Prop :=
  ∃ window ∈ m.windows, window.id = id

theorem has_repositionAt (i : Nat) (display : LauncherDisplay) {id : List UInt8 × Option Nat}
    (h : m.Has id) : (m.repositionAt i display).Has id := by
  cases hi : m.windows[i]? with
  | none =>
    rw [Manager.repositionAt, hi]
    exact h
  | some window =>
    have hids := map_id_set hi (id_reposition m.mode display window)
    unfold Manager.Has at h ⊢
    rw [windows_repositionAt hi]
    rw [← List.mem_map] at h ⊢
    rwa [hids]

theorem windows_addWindow (display : LauncherDisplay) (created : Bool) :
    (m.addWindow display created).windows = m.windows ++ [m.newWindow display created] := by
  cases created with
  | false => rfl
  | true =>
    cases hon : m.enabled with
    | true => simp [Manager.addWindow, hon, Manager.showWindow, alter_windows, Manager.newWindow]
    | false => simp [Manager.addWindow, hon, Manager.newWindow]

theorem has_syncDisplay (entry : LauncherDisplay × Bool) {id : List UInt8 × Option Nat}
    (h : m.Has id) : (m.syncDisplay entry).Has id := by
  unfold Manager.syncDisplay
  split
  · exact h
  · cases m.windows.findIdx? fun window => window.target == entry.1.target with
    | none =>
      obtain ⟨window, hwindow, hid⟩ := h
      refine ⟨window, ?_, hid⟩
      rw [windows_addWindow]
      exact List.mem_append_left _ hwindow
    | some i => exact has_repositionAt i entry.1 h

theorem has_sync {displays : List (LauncherDisplay × Bool)} {id : List UInt8 × Option Nat}
    (hlisted : ∃ entry ∈ displays, entry.1.target = id.1) (h : m.Has id) :
    (m.sync displays).Has id := by
  have hloop : (displays.foldl Manager.syncDisplay m).Has id := by
    clear hlisted
    induction displays generalizing m with
    | nil => exact h
    | cons entry displays ih => exact ih (has_syncDisplay entry h)
  obtain ⟨window, hwindow, hid⟩ := hloop
  obtain ⟨entry, hentry, htarget⟩ := hlisted
  refine ⟨window, List.mem_filter.2 ⟨hwindow, ?_⟩, hid⟩
  rw [List.any_eq_true]
  refine ⟨entry, hentry, ?_⟩
  rw [htarget, ← hid]
  exact beq_self_eq_true _

theorem windows_foldl_alter {g : Option Surface → Option Surface} (windows : List LauncherWindow)
    (m : Manager) : (windows.foldl (fun m window => m.alter window.handle g) m).windows =
      m.windows := by
  induction windows generalizing m with
  | nil => rfl
  | cons window windows ih => exact (ih _).trans (alter_windows _ _)

theorem windows_showAll : m.showAll.windows = m.windows := by
  unfold Manager.showAll
  split
  · have hloop : ∀ (windows : List LauncherWindow) (m : Manager),
        (windows.foldl Manager.showWindow m).windows = m.windows := by
      intro windows
      induction windows with
      | nil => exact fun _ => rfl
      | cons window windows ih => exact fun m => (ih _).trans (alter_windows _ _)
    exact hloop m.windows m
  · rfl

theorem has_repositionSame {id : List UInt8 × Option Nat} (k : Nat) (h : m.Has id) :
    ((List.range k).foldl Manager.repositionSame m).Has id := by
  induction k with
  | zero => exact h
  | succ k ih =>
    rw [List.range_succ, List.foldl_append]
    show (Manager.repositionSame _ k).Has id
    unfold Manager.repositionSame
    split
    · exact ih
    · exact has_repositionAt k _ ih

theorem has_setMode {id : List UInt8 × Option Nat} (mode : LauncherMode) (h : m.Has id) :
    (m.setMode mode).Has id := by
  have hloop := has_repositionSame (m := { m with mode, enabled := mode != LauncherMode.hidden })
    m.windows.length h
  unfold Manager.setMode
  simp only
  generalize (List.range m.windows.length).foldl Manager.repositionSame
    { m with mode, enabled := mode != LauncherMode.hidden } = moved at hloop
  split
  · unfold Manager.Has
    rw [windows_showAll]
    exact hloop
  · unfold Manager.Has
    rw [show (moved.windows.foldl Manager.hideWindow moved).windows = moved.windows from
      windows_foldl_alter moved.windows moved]
    exact hloop

/-- The calls that leave the window of a target alone. -/
def Call.Keeps (target : List UInt8) : Call → Prop
  | .sync displays => ∃ entry ∈ displays, entry.1.target = target
  | .shutdown => False
  | _ => True

/-- **A window lasts as long as its display is listed**, under the handle it was created with; so a
window that could not be created is not tried again. -/
theorem handle_kept {past later : List Call} {window : LauncherWindow}
    (hwindow : window ∈ (past.foldl Manager.call {}).windows)
    (hkeeps : ∀ call ∈ later, call.Keeps window.target) {window' : LauncherWindow}
    (hwindow' : window' ∈ ((past ++ later).foldl Manager.call {}).windows)
    (htarget : window'.target = window.target) : window'.handle = window.handle := by
  have hhas : ((past ++ later).foldl Manager.call {}).Has window.id := by
    rw [List.foldl_append]
    have hstart : (past.foldl Manager.call {}).Has window.id := ⟨window, hwindow, rfl⟩
    generalize past.foldl Manager.call {} = m at hstart
    clear hwindow hwindow'
    induction later generalizing m with
    | nil => exact hstart
    | cons call later ih =>
      refine ih (fun other hother => hkeeps other (List.mem_cons_of_mem _ hother)) _ ?_
      have hcall := hkeeps call List.mem_cons_self
      cases call with
      | sync displays => exact has_sync hcall hstart
      | setMode mode => exact has_setMode mode hstart
      | revealDesktop =>
        obtain ⟨known, hknown, hid⟩ := hstart
        refine ⟨known, ?_, hid⟩
        show known ∈ m.showAll.windows
        rw [windows_showAll]
        exact hknown
      | shutdown => exact absurd hcall id
      | escape i =>
        obtain ⟨known, hknown, hid⟩ := hstart
        refine ⟨known, ?_, hid⟩
        cases hi : m.windows[i]? with
        | none =>
          simp only [Manager.call, hi]
          exact hknown
        | some other =>
          simp only [Manager.call, hi, Manager.hideWindow, alter_windows]
          exact hknown
  obtain ⟨known, hknown, hid⟩ := hhas
  -- There is one window for each target.
  have hsame : known.id = window'.id :=
    List.inj_on_of_nodup_map (sound_calls (past ++ later)).linked.unique
      (List.mem_map_of_mem hknown) (List.mem_map_of_mem hwindow')
      ((congrArg (·.1) hid).trans htarget.symm)
  exact congrArg (·.2) (hsame.symm.trans hid)

/-! A tablet whose window could not be created, in the mode for the whole display and for a part. -/

def tablet : LauncherDisplay := ⟨[65], [65], ⟨1920, 0, 2720, 600⟩⟩

def refused : List Call := [.sync [(tablet, false)]]

def asked : List Call := [.setMode .region, .sync [(tablet, true)]]

theorem asked_keeps : ∀ call ∈ asked, call.Keeps [65] := by
  intro call hcall
  simp only [asked, List.mem_cons, List.not_mem_nil, or_false] at hcall
  rcases hcall with hcall | hcall <;> subst hcall
  · trivial
  · exact ⟨(tablet, true), List.mem_singleton_self _, rfl⟩

theorem handle_kept_refused :
    ∃ window ∈ ((refused ++ asked).foldl Manager.call {}).windows,
      window.rect = ⟨1920, 0, 2240, 600⟩ ∧ window.handle = none :=
  ⟨_, List.mem_singleton_self _, by decide, @handle_kept refused asked _
    (List.mem_singleton_self _) asked_keeps _ (List.mem_singleton_self _) rfl⟩

/-! ### Which displays have a window -/

theorem target_syncDisplay (m : Manager) (entry : LauncherDisplay × Bool) (target : List UInt8) :
    (∃ window ∈ (m.syncDisplay entry).windows, window.target = target) ↔
      (∃ window ∈ m.windows, window.target = target) ∨
        ¬Empty entry.1.rect ∧ entry.1.target = target := by
  unfold Manager.syncDisplay
  split
  · rename_i hempty
    simp [hempty]
  · rename_i hsize
    cases hfind : m.windows.findIdx? fun window => window.target == entry.1.target with
    | none =>
      rw [windows_addWindow]
      simp only [List.mem_append, List.mem_singleton, or_and_right, exists_or, exists_eq_left]
      simp [Manager.newWindow, hsize]
    | some i =>
      obtain ⟨hi, htarget, -⟩ := List.findIdx?_eq_some_iff_getElem.1 hfind
      have hknown : m.windows[i]? = some m.windows[i] := List.getElem?_eq_getElem hi
      have hids := congrArg (List.map (·.1))
        (map_id_set hknown (id_reposition m.mode entry.1 m.windows[i]))
      rw [List.map_map, List.map_map] at hids
      simp only [windows_repositionAt hknown]
      have hmem (windows : List LauncherWindow) : (∃ window ∈ windows, window.target = target) ↔
          target ∈ windows.map ((·.1) ∘ LauncherWindow.id) := List.mem_map.symm
      rw [hmem, hmem, hids, ← hmem]
      refine ⟨Or.inl, fun h => ?_⟩
      rcases h with h | ⟨-, h⟩
      · exact h
      · exact ⟨m.windows[i], List.getElem_mem hi, (beq_iff_eq.1 htarget).trans h⟩

theorem target_foldl_syncDisplay (displays : List (LauncherDisplay × Bool)) (m : Manager)
    (target : List UInt8) :
    (∃ window ∈ (displays.foldl Manager.syncDisplay m).windows, window.target = target) ↔
      (∃ window ∈ m.windows, window.target = target) ∨
        ∃ entry ∈ displays, ¬Empty entry.1.rect ∧ entry.1.target = target := by
  induction displays generalizing m with
  | nil => simp
  | cons entry displays ih =>
    rw [List.foldl_cons, ih, target_syncDisplay, or_assoc]
    simp only [List.mem_cons, exists_eq_or_imp]

/-- **The launcher's windows.**  After any calls, whichever windows could be created, each target
has one window, which has the place its display and the mode want and shows only if the mode is not
`Hidden`; Windows has these windows and no others.  A `Sync` leaves a window to the displays it
lists, as soon as they have had a size once. -/
theorem launcher_sound (calls : List Call) :
    (calls.foldl Manager.call {}).Sound ∧
      ∀ displays target,
        (∃ window ∈ ((calls.foldl Manager.call {}).sync displays).windows,
          window.target = target) ↔
        (∃ entry ∈ displays, entry.1.target = target) ∧
          ((∃ window ∈ (calls.foldl Manager.call {}).windows, window.target = target) ∨
            ∃ entry ∈ displays, ¬Empty entry.1.rect ∧ entry.1.target = target) := by
  refine ⟨sound_calls calls, ?_⟩
  intro displays target
  rw [← target_foldl_syncDisplay]
  have hlisted (window : LauncherWindow) :
      (displays.any fun entry => entry.1.target == window.target) = true ↔
        ∃ entry ∈ displays, entry.1.target = window.target := by
    simp [List.any_eq_true]
  constructor
  · intro ⟨window, hwindow, htarget⟩
    obtain ⟨hmem, hkeep⟩ := List.mem_filter.1 hwindow
    rw [hlisted, htarget] at hkeep
    exact ⟨hkeep, window, hmem, htarget⟩
  · intro ⟨hkeep, window, hmem, htarget⟩
    rw [← htarget, ← hlisted] at hkeep
    exact ⟨window, List.mem_filter.2 ⟨hmem, hkeep⟩, htarget⟩

end SecondDisplay.DisplayLauncher
