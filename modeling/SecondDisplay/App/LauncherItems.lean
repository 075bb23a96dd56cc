import SecondDisplay.App.WindowRouting
import Mathlib.Data.List.Nodup

/-!
# The icons of the launcher (`app/DisplayLauncher.cpp`)

The launcher shows what is on the desktop of the PC: the entries of the two desktop folders that can
be launched, and those of the shell that are no files.  An icon that Explorer has a position for is
drawn there, scaled to the tablet; the others fill a grid.  A tap launches the icon that is drawn on
top where it falls.
-/

namespace SecondDisplay.DisplayLauncher

open VirtualDisplay (WString wide towlower)
open InputInjector (Rect Point)
open WindowRouting (toInt_max toInt_min toInt_sub_of_fits toInt_add_of_fits)

/-! ### Collecting -/

/-- `LauncherItem` without its pictures. -/
structure LauncherItem where
  path : WString
  launchPath : WString
  launchParameters : WString := []
  launchDirectory : WString := []
  label : WString
  desktopPosition : Option Point := none
  deriving DecidableEq

/-- `DesktopPosition`. -/
structure DesktopPosition where
  path : WString
  label : WString
  point : Point

/-- The name from its last dot on. -/
def fromLastDot (name : WString) : Option WString :=
  if name.contains 46 then some (46 :: (name.reverse.takeWhile (· != 46)).reverse) else none

/-- `LowerExtension`. -/
def lowerExtension (name : WString) : WString := ((fromLastDot name).getD []).map towlower

/-- `HasLaunchableExtension`. -/
def hasLaunchableExtension (name : WString) : Bool :=
  match fromLastDot name with
  | none => false
  | some suffix =>
    let extension := suffix.map towlower
    extension == wide ".lnk" || extension == wide ".url" || extension == wide ".exe"

/-- `LabelForPath`. -/
def labelForPath (path : WString) : WString :=
  let name := (path.reverse.takeWhile fun c => c != 92 && c != 47).reverse
  let name :=
    if name.contains 46 then name.take (name.length - ((fromLastDot name).getD []).length) else name
  if name.isEmpty then wide "应用" else name

/-- What the shell and the files say. -/
structure Shell where
  /-- The table `CompareStringOrdinal` takes upper and lower case for the same with. -/
  upper : UInt16 → UInt16
  /-- What `ConfigureShortcutLaunch` reads of a `.lnk` with a target that exists. -/
  shortcut : WString → Option (WString × WString × WString)
  /-- `URL` of a `.url`. -/
  url : WString → WString

/-- `CompareStringOrdinal(…, TRUE) == CSTR_EQUAL`. -/
def Shell.same (shell : Shell) (a b : WString) : Bool := a.map shell.upper == b.map shell.upper

/-- `IsUsableInternetShortcut`. -/
def isUsableInternetShortcut (shell : Shell) (path : WString) : Bool :=
  let value := shell.url path
  !value.isEmpty && (value.tails.any (wide "://").isPrefixOf || (wide "mailto:").isPrefixOf value ||
    (wide "shell:").isPrefixOf value)

/-- `kMaximumItems`. -/
def maximumItems : Nat := 120

/-- The item for a path, if it is a folder or can be launched. -/
def desktopItem (shell : Shell) (path : WString) (folder : Bool) : Option LauncherItem :=
  let item : LauncherItem := { path, launchPath := path, label := labelForPath path }
  if folder then some item
  else if lowerExtension path == wide ".lnk" then
    (shell.shortcut path).map fun (target, arguments, directory) =>
      { item with
        launchPath := target
        launchParameters := arguments
        launchDirectory := directory }
  else if lowerExtension path == wide ".url" && !isUsableInternetShortcut shell path then none
  else some item

/-- `AddDesktopItem`. -/
def addDesktopItem (shell : Shell) (items : List LauncherItem) (path : WString) (folder : Bool) :
    List LauncherItem :=
  if maximumItems ≤ items.length || (!folder && !hasLaunchableExtension path) then items
  else if items.any fun item => shell.same item.path path then items
  else
    match desktopItem shell path folder with
    | none => items
    | some item => items ++ [item]

/-- One turn of the loop of `CollectDesktopFolder`, for a name and whether it is a folder. -/
def collectEntry (shell : Shell) (folder : WString) (items : List LauncherItem)
    (entry : WString × Bool) : List LauncherItem :=
  if entry.1 == wide "." || entry.1 == wide ".." then items
  else addDesktopItem shell items (folder ++ [92] ++ entry.1) entry.2

/-- The loop of `CollectDesktopFolder`. -/
def collectEntries (shell : Shell) (folder : WString) :
    List LauncherItem → List (WString × Bool) → List LauncherItem
  | items, [] => items
  | items, entry :: entries =>
    if (collectEntry shell folder items entry).length < maximumItems then
      collectEntries shell folder (collectEntry shell folder items entry) entries
    else collectEntry shell folder items entry

/-- `CollectDesktopFolder`, with the entries of the folder if it can be listed. -/
def collectDesktopFolder (shell : Shell) (items : List LauncherItem) (folder : WString)
    (entries : Option (List (WString × Bool))) : List LauncherItem :=
  if maximumItems ≤ items.length || folder.isEmpty then items
  else
    match entries with
    | none => items
    | some entries => collectEntries shell folder items entries

/-- One turn of `ApplyExplorerDesktopPositions`. -/
def applyPosition (shell : Shell) (items : List LauncherItem) (position : DesktopPosition) :
    List LauncherItem :=
  match items.findIdx? fun item => shell.same item.path position.path with
  | some i => items.modify i fun item => { item with desktopPosition := some position.point }
  | none =>
    if !(wide "::\x7b").isPrefixOf position.path then items
    else
      items ++ [{ path := position.path, launchPath := position.path, label := position.label,
                  desktopPosition := some position.point }]

/-- The order of the icons; `labels` is `CompareStringOrdinal(…) == CSTR_LESS_THAN`. -/
def before (labels : WString → WString → Bool) (a b : LauncherItem) : Bool :=
  match a.desktopPosition, b.desktopPosition with
  | some p, some q => if p.x != q.x then decide (p.x < q.x) else decide (p.y < q.y)
  | some _, none => true
  | none, some _ => false
  | none, none => labels a.label b.label

/-- A desktop folder: its path, empty if there is none, and its entries. -/
structure DesktopFolder where
  path : WString
  entries : Option (List (WString × Bool))

/-- `CollectLauncherItems`; where the order leaves two icons open, `std::sort` may exchange
them. -/
def collectLauncherItems (shell : Shell) (labels : WString → WString → Bool)
    (user everyone : DesktopFolder) (positions : List DesktopPosition) : List LauncherItem :=
  let items := collectDesktopFolder shell [] user.path user.entries
  let items := collectDesktopFolder shell items everyone.path everyone.entries
  (positions.foldl (applyPosition shell) items).mergeSort fun a b => !before labels b a

/-! ### What is collected -/

/-- A path as it is compared. -/
def Shell.key (shell : Shell) (path : WString) : WString := path.map shell.upper

theorem Shell.same_iff {shell : Shell} {a b : WString} :
    shell.same a b = true ↔ shell.key a = shell.key b := beq_iff_eq

/-- The position Explorer named last for a path. -/
def lastPosition (shell : Shell) (positions : List DesktopPosition) (path : WString) :
    Option Point :=
  (positions.reverse.find? fun position => shell.same path position.path).map (·.point)

/-- What an icon may stand for: a folder, a file that can be launched, or an entry of the shell. -/
def Launchable (folders : WString → Prop) (path : WString) : Prop :=
  folders path ∨ hasLaunchableExtension path = true ∨ (wide "::\x7b").isPrefixOf path = true

/-- The icons when some of Explorer's positions have been applied. -/
structure Collected (shell : Shell) (folders : WString → Prop) (positions : List DesktopPosition)
    (items : List LauncherItem) : Prop where
  distinct : (items.map fun item => shell.key item.path).Nodup
  launchable : ∀ item ∈ items, Launchable folders item.path
  positioned : ∀ item ∈ items, item.desktopPosition = lastPosition shell positions item.path
  complete : ∀ position ∈ positions, (wide "::\x7b").isPrefixOf position.path = true →
    shell.key position.path ∈ items.map fun item => shell.key item.path
  bounded : items.length ≤ maximumItems + positions.length

variable {shell : Shell} {folders : WString → Prop} {items : List LauncherItem}
  {positions : List DesktopPosition}

theorem path_desktopItem {path : WString} {folder : Bool} {item : LauncherItem}
    (h : desktopItem shell path folder = some item) :
    item.path = path ∧ item.desktopPosition = none := by
  unfold desktopItem at h
  split at h
  · cases h
    exact ⟨rfl, rfl⟩
  · split at h
    · obtain ⟨_, _, rfl⟩ := Option.map_eq_some_iff.1 h
      exact ⟨rfl, rfl⟩
    · split at h
      · cases h
      · cases h
        exact ⟨rfl, rfl⟩

/-- An icon more. -/
theorem Collected.append (h : Collected shell folders [] items) {item : LauncherItem}
    (hroom : items.length < maximumItems)
    (hnew : (items.any fun other => shell.same other.path item.path) = false)
    (hlaunch : Launchable folders item.path) (hnone : item.desktopPosition = none) :
    Collected shell folders [] (items ++ [item]) where
  distinct := by
    rw [List.map_append, List.map_singleton, List.nodup_append]
    refine ⟨h.distinct, List.pairwise_singleton _ _, ?_⟩
    intro key hkey other hother heq
    obtain ⟨known, hknown, rfl⟩ := List.mem_map.1 hkey
    rw [List.mem_singleton.1 hother] at heq
    exact List.any_eq_false.1 hnew known hknown (Shell.same_iff.2 heq)
  launchable := by
    intro x hx
    rcases List.mem_append.1 hx with hx | hx
    · exact h.launchable x hx
    · rw [List.mem_singleton.1 hx]
      exact hlaunch
  positioned := by
    intro x hx
    rcases List.mem_append.1 hx with hx | hx
    · exact h.positioned x hx
    · rw [List.mem_singleton.1 hx]
      exact hnone
  complete := by simp
  bounded := by
    rw [List.length_append]
    exact hroom

theorem collected_addDesktopItem (h : Collected shell folders [] items) {path : WString}
    {folder : Bool} (hfolder : folder = true → folders path) :
    Collected shell folders [] (addDesktopItem shell items path folder) := by
  unfold addDesktopItem
  split
  · exact h
  · rename_i hguard
    split
    · exact h
    · rename_i hnew
      cases hitem : desktopItem shell path folder with
      | none => exact h
      | some item =>
        obtain ⟨hpath, hnone⟩ := path_desktopItem hitem
        simp only [Bool.or_eq_true, decide_eq_true_eq, Bool.and_eq_true, Bool.not_eq_true', not_or,
          not_and, Bool.not_eq_false, Nat.not_le] at hguard
        refine h.append hguard.1 ?_ ?_ hnone
        · rw [hpath]
          simpa using hnew
        · rw [hpath]
          cases hcase : folder with
          | true => exact Or.inl (hfolder hcase)
          | false => exact Or.inr (Or.inl (hguard.2 hcase))

theorem collected_collectEntries {folder : WString} {entries : List (WString × Bool)}
    (hentries : ∀ entry ∈ entries, entry.2 = true → folders (folder ++ [92] ++ entry.1))
    (h : Collected shell folders [] items) :
    Collected shell folders [] (collectEntries shell folder items entries) := by
  induction entries generalizing items with
  | nil => exact h
  | cons entry entries ih =>
    have hturn : Collected shell folders [] (collectEntry shell folder items entry) := by
      unfold collectEntry
      split
      · exact h
      · exact collected_addDesktopItem h (hentries entry List.mem_cons_self)
    have hrest : ∀ entry ∈ entries, entry.2 = true → folders (folder ++ [92] ++ entry.1) := by
      intro other hother
      exact hentries other (List.mem_cons_of_mem _ hother)
    unfold collectEntries
    split
    · exact ih hrest hturn
    · exact hturn

theorem collected_collectDesktopFolder {folder : WString} {entries : Option (List (WString × Bool))}
    (hentries : ∀ listed, entries = some listed → ∀ entry ∈ listed, entry.2 = true →
      folders (folder ++ [92] ++ entry.1)) (h : Collected shell folders [] items) :
    Collected shell folders [] (collectDesktopFolder shell items folder entries) := by
  unfold collectDesktopFolder
  split
  · exact h
  · cases entries with
    | none => exact h
    | some listed => exact collected_collectEntries (hentries listed rfl) h

theorem lastPosition_append (position : DesktopPosition) (path : WString) :
    lastPosition shell (positions ++ [position]) path =
      if shell.same path position.path = true then some position.point
      else lastPosition shell positions path := by
  unfold lastPosition
  rw [List.reverse_append, List.reverse_singleton, List.singleton_append, List.find?_cons]
  split <;> simp_all

/-- A changed item of a list is an item, or the changed one. -/
theorem getElem?_of_mem_modify {i : Nat} {f : LauncherItem → LauncherItem} {x : LauncherItem}
    (hx : x ∈ items.modify i f) :
    ∃ (j : Nat) (y : LauncherItem), items[j]? = some y ∧ x = if i = j then f y else y := by
  obtain ⟨j, hj⟩ := List.mem_iff_getElem?.1 hx
  rw [List.getElem?_modify] at hj
  obtain ⟨y, hy, hxy⟩ := Option.map_eq_some_iff.1 hj
  exact ⟨j, y, hy, by rw [← hxy]⟩

theorem index_of_key (h : (items.map fun item => shell.key item.path).Nodup) {i j : Nat}
    (hi : i < items.length) (hj : j < items.length)
    (hkeys : shell.key items[i].path = shell.key items[j].path) : i = j := by
  have hi' : i < (items.map fun item => shell.key item.path).length := by simpa using hi
  have hj' : j < (items.map fun item => shell.key item.path).length := by simpa using hj
  refine (@List.Nodup.getElem_inj_iff _ _ h i hi' j hj').1 ?_
  simpa using hkeys

theorem map_key_modify (shell : Shell) (items : List LauncherItem) (i : Nat) (point : Point) :
    (items.modify i fun item => { item with desktopPosition := some point }).map
      (fun item => shell.key item.path) = items.map fun item => shell.key item.path := by
  apply List.ext_getElem?
  intro j
  rw [List.getElem?_map, List.getElem?_map, List.getElem?_modify]
  cases items[j]? with
  | none => rfl
  | some y =>
    by_cases hij : i = j
    · simp [hij]
    · simp [hij]

/-- **One of Explorer's positions.** -/
theorem collected_applyPosition (h : Collected shell folders positions items)
    (position : DesktopPosition) :
    Collected shell folders (positions ++ [position]) (applyPosition shell items position) := by
  unfold applyPosition
  cases hfind : items.findIdx? fun item => shell.same item.path position.path with
  | some i =>
    obtain ⟨hi, hsame, -⟩ := List.findIdx?_eq_some_iff_getElem.1 hfind
    have hlength : (items.modify i fun item =>
        { item with desktopPosition := some position.point }).length = items.length :=
      List.length_modify _ _ _
    refine ⟨?_, ?_, ?_, ?_, ?_⟩
    · show (List.map _ (items.modify i _)).Nodup
      rw [map_key_modify]
      exact h.distinct
    · intro x hx
      obtain ⟨j, y, hy, rfl⟩ := getElem?_of_mem_modify hx
      have hlaunch := h.launchable y (List.mem_of_getElem? hy)
      split
      · exact hlaunch
      · exact hlaunch
    · intro x hx
      obtain ⟨j, y, hy, rfl⟩ := getElem?_of_mem_modify hx
      rw [lastPosition_append]
      by_cases hij : i = j
      · subst hij
        obtain ⟨_, rfl⟩ := List.getElem?_eq_some_iff.1 hy
        rw [if_pos rfl, if_pos hsame]
      · -- Another icon stands for another path.
        have hother : shell.same y.path position.path ≠ true := by
          intro hy'
          obtain ⟨hj, rfl⟩ := List.getElem?_eq_some_iff.1 hy
          have hkeys : shell.key items[i].path = shell.key items[j].path :=
            (Shell.same_iff.1 hsame).trans (Shell.same_iff.1 hy').symm
          exact hij (index_of_key h.distinct hi hj hkeys)
        rw [if_neg hij, if_neg hother]
        exact h.positioned y (List.mem_of_getElem? hy)
    · intro other hother hguid
      show _ ∈ List.map _ (items.modify i _)
      rw [map_key_modify]
      rcases List.mem_append.1 hother with hother | hother
      · exact h.complete other hother hguid
      · rw [List.mem_singleton.1 hother, ← Shell.same_iff.1 hsame]
        exact List.mem_map_of_mem (List.getElem_mem hi)
    · show (items.modify i _).length ≤ _
      rw [hlength, List.length_append]
      exact Nat.le_succ_of_le h.bounded
  | none =>
    have hnew : ∀ item ∈ items, ¬shell.same item.path position.path = true := by
      intro item hitem
      simpa using List.findIdx?_eq_none_iff.1 hfind item hitem
    have hkeep : ∀ item ∈ items,
        item.desktopPosition = lastPosition shell (positions ++ [position]) item.path := by
      intro item hitem
      rw [lastPosition_append, if_neg (hnew item hitem)]
      exact h.positioned item hitem
    simp only
    split
    · -- A file that was not collected stays away.
      rename_i hfile
      refine ⟨h.distinct, h.launchable, hkeep, ?_, ?_⟩
      · intro other hother hguid
        rcases List.mem_append.1 hother with hother | hother
        · exact h.complete other hother hguid
        · rw [List.mem_singleton.1 hother] at hguid
          simp [hguid] at hfile
      · rw [List.length_append]
        exact Nat.le_succ_of_le h.bounded
    · rename_i hshell
      have hguid : (wide "::\x7b").isPrefixOf position.path = true := by simpa using hshell
      refine ⟨?_, ?_, ?_, ?_, ?_⟩
      · rw [List.map_append, List.map_singleton, List.nodup_append]
        refine ⟨h.distinct, List.pairwise_singleton _ _, ?_⟩
        intro key hkey other hother heq
        obtain ⟨known, hknown, rfl⟩ := List.mem_map.1 hkey
        rw [List.mem_singleton.1 hother] at heq
        exact hnew known hknown (Shell.same_iff.2 heq)
      · intro x hx
        rcases List.mem_append.1 hx with hx | hx
        · exact h.launchable x hx
        · rw [List.mem_singleton.1 hx]
          exact Or.inr (Or.inr hguid)
      · intro x hx
        rcases List.mem_append.1 hx with hx | hx
        · exact hkeep x hx
        · rw [List.mem_singleton.1 hx, lastPosition_append, if_pos (Shell.same_iff.2 rfl)]
      · intro other hother hother'
        rw [List.map_append]
        rcases List.mem_append.1 hother with hother | hother
        · exact List.mem_append_left _ (h.complete other hother hother')
        · rw [List.mem_singleton.1 hother]
          exact List.mem_append_right _ (List.mem_singleton_self _)
      · rw [List.length_append, List.length_append]
        exact Nat.succ_le_succ h.bounded

theorem collected_positions {past : List DesktopPosition} (h : Collected shell folders past items) :
    Collected shell folders (past ++ positions) (positions.foldl (applyPosition shell) items) := by
  induction positions generalizing past items with
  | nil =>
    rw [List.append_nil]
    exact h
  | cons position positions ih =>
    have hrest := ih (collected_applyPosition h position)
    rwa [List.append_assoc, List.singleton_append] at hrest

/-- Putting the icons in order keeps them. -/
theorem Collected.perm {items' : List LauncherItem} (h : Collected shell folders positions items)
    (hperm : items'.Perm items) : Collected shell folders positions items' where
  distinct := (hperm.map _).nodup_iff.2 h.distinct
  launchable item hitem := h.launchable item (hperm.mem_iff.1 hitem)
  positioned item hitem := h.positioned item (hperm.mem_iff.1 hitem)
  complete position hposition hguid :=
    (hperm.map _).mem_iff.2 (h.complete position hposition hguid)
  bounded := hperm.length_eq ▸ h.bounded

/-- A path of a desktop folder whose entry is a folder itself. -/
def IsFolder (user everyone : DesktopFolder) (path : WString) : Prop :=
  ∃ folder, (folder = user ∨ folder = everyone) ∧ ∃ entries, folder.entries = some entries ∧
    ∃ entry ∈ entries, entry.2 = true ∧ path = folder.path ++ [92] ++ entry.1

end SecondDisplay.DisplayLauncher
