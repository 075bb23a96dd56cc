import SecondDisplay.App.ConfigRoundTrip
import SecondDisplay.Library.Transitions

/-!
# Saving the configuration (`Config::SaveToFile`, `Config::LoadFromFile`)

A save writes a temporary file, deletes the old backup and lets `ReplaceFile` exchange the files;
a load takes the main file if it parses and the backup otherwise.  The save is a machine that
makes one system call at a time, with every documented outcome; a process that dies leaves the
files of any state on the way.  `save_keeps_iff` says for which files this is safe: the backup is
deleted without a look at the main file, so a backup that is the only good copy is lost.
-/

namespace SecondDisplay.ConfigFile

open SecondDisplay.Config SecondDisplay.Transitions

/-! ### Loading -/

/-- The three files, each with its contents if it exists. -/
structure Files where
  /-- The file at `path`. -/
  main : Option Bytes
  /-- `path` with `.bak`. -/
  backup : Option Bytes
  /-- `path` with `.tmp`. -/
  temporary : Option Bytes
  deriving DecidableEq

/-- `ReadFile` and `TryParseConfig` on a file. -/
def readConfig (file : Option Bytes) : Option Config := file.bind tryParse

/-- `LoadFromFile` up to its last line: `none` where it falls through to the defaults. -/
def tryLoad (files : Files) : Option Config :=
  match readConfig files.main with
  | some c => some c
  | none => readConfig files.backup

/-- `LoadFromFile`. -/
def loadFromFile (files : Files) : Config := (tryLoad files).getD {}

/-! ### Saving -/

/-- The next system call of `SaveToFile`. -/
inductive Stage where
  | createFile
  | writeFile
  | flushFileBuffers
  | closeHandle (flushed : Bool)
  /-- `DeleteFileW(temporary)` after a failed write. -/
  | discard
  | getFileAttributes
  | deleteBackup
  | replaceFile
  | moveFileEx
  /-- `DeleteFileW(temporary)` after a failed exchange. -/
  | cleanUp
  | returned (replaced : Bool)
  deriving DecidableEq, Repr

/-- The documented outcomes of `ReplaceFileW`. -/
inductive Replacing where
  | success
  /-- Both files keep their names. -/
  | unchanged
  /-- `ERROR_UNABLE_TO_MOVE_REPLACEMENT_2`: the main file already has the backup's name. -/
  | movedToBackup
  deriving DecidableEq, Repr

/-- A system call and what comes of it. -/
inductive Call where
  | createFile (ok : Bool)
  /-- `WriteFile` with the number of bytes that reach the file. -/
  | writeFile (ok : Bool) (written : Nat)
  | flushFileBuffers (ok : Bool)
  | closeHandle
  | deleteTemporary (ok : Bool)
  | getFileAttributes
  | deleteBackup (ok : Bool)
  | replaceFile (outcome : Replacing)
  | moveFileEx (ok : Bool)
  deriving DecidableEq, Repr

/-- A save in progress. -/
structure Save where
  stage : Stage
  files : Files
  deriving DecidableEq

/-- `SaveToFile` is called. -/
def Save.start (files : Files) : Save := ⟨.createFile, files⟩

/-- `DeleteFileW` on a file. -/
def deleted (ok : Bool) (file : Option Bytes) : Option Bytes := if ok then none else file

/-- What `ReplaceFileW` leaves. -/
def Replacing.apply (files : Files) : Replacing → Files
  | .success => ⟨files.temporary, files.main, none⟩
  | .unchanged => files
  | .movedToBackup => ⟨none, files.main, files.temporary⟩

/-- One system call of `SaveToFile` for the text `json`; the number of bytes to write is a
`DWORD`. -/
def step (json : Bytes) (s : Save) : Call → Option Save
  | .createFile ok =>
    if s.stage = .createFile then
      if ok then some ⟨.writeFile, { s.files with temporary := some [] }⟩
      else some ⟨.returned false, s.files⟩
    else none
  | .writeFile ok written =>
    if s.stage = .writeFile ∧ written ≤ json.length % 2 ^ 32 then
      let files := { s.files with temporary := some (json.take written) }
      if ok ∧ written = json.length then some ⟨.flushFileBuffers, files⟩
      else some ⟨.closeHandle false, files⟩
    else none
  | .flushFileBuffers ok =>
    if s.stage = .flushFileBuffers then some ⟨.closeHandle ok, s.files⟩ else none
  | .closeHandle =>
    match s.stage with
    | .closeHandle flushed =>
      some ⟨if flushed then .getFileAttributes else .discard, s.files⟩
    | _ => none
  | .deleteTemporary ok =>
    if s.stage = .discard ∨ s.stage = .cleanUp then
      some ⟨.returned false, { s.files with temporary := deleted ok s.files.temporary }⟩
    else none
  | .getFileAttributes =>
    if s.stage = .getFileAttributes then
      some ⟨if s.files.main.isSome then .deleteBackup else .moveFileEx, s.files⟩
    else none
  | .deleteBackup ok =>
    if s.stage = .deleteBackup then
      some ⟨.replaceFile, { s.files with backup := deleted ok s.files.backup }⟩
    else none
  | .replaceFile outcome =>
    if s.stage = .replaceFile then
      some ⟨if outcome = .success then .returned true else .cleanUp, outcome.apply s.files⟩
    else none
  | .moveFileEx ok =>
    if s.stage = .moveFileEx then
      if ok then some ⟨.returned true, ⟨s.files.temporary, s.files.backup, none⟩⟩
      else some ⟨.cleanUp, s.files⟩
    else none

/-! ### What is on disk on the way -/

/-- The main file and the backup are those before the save. -/
def Untouched (files₀ files : Files) : Prop :=
  files.main = files₀.main ∧ files.backup = files₀.backup

/-- The main file is the one before the save, and the backup too unless it was deleted. -/
def Uncovered (files₀ files : Files) : Prop :=
  files.main = files₀.main ∧ (files.backup = files₀.backup ∨ files.backup = none)

/-- The text was written completely. -/
def Complete (json : Bytes) (files : Files) : Prop :=
  files.temporary = some json ∧ json.length < 2 ^ 32

/-- What is on disk once the exchange was tried: the new text, the old files, or the old main
file under the backup's name. -/
inductive Exchanged (json : Bytes) (files₀ files : Files) : Prop where
  | done (main : files.main = some json)
  | failed (untouched : Untouched files₀ files)
  | uncovered (main : files₀.main.isSome = true) (same : Uncovered files₀ files)
  | moved (main : files₀.main.isSome = true) (gone : files.main = none)
      (backup : files.backup = files₀.main)

/-- The invariant of a save that began with `files₀`. -/
def Inv (json : Bytes) (files₀ : Files) (s : Save) : Prop :=
  match s.stage with
  | .createFile | .writeFile | .discard | .closeHandle false => Untouched files₀ s.files
  | .flushFileBuffers | .closeHandle true | .getFileAttributes =>
    Untouched files₀ s.files ∧ Complete json s.files
  | .deleteBackup =>
    Untouched files₀ s.files ∧ Complete json s.files ∧ files₀.main.isSome = true
  | .replaceFile => Uncovered files₀ s.files ∧ Complete json s.files ∧ files₀.main.isSome = true
  | .moveFileEx => Untouched files₀ s.files ∧ Complete json s.files ∧ files₀.main = none
  | .cleanUp | .returned _ =>
    Exchanged json files₀ s.files ∧ (Untouched files₀ s.files ∨ json.length < 2 ^ 32)

theorem Exchanged.temporary {json : Bytes} {files₀ files : Files} (t : Option Bytes)
    (h : Exchanged json files₀ files) : Exchanged json files₀ { files with temporary := t } := by
  cases h with
  | done main => exact .done main
  | failed untouched => exact .failed untouched
  | uncovered main same => exact .uncovered main same
  | moved main gone backup => exact .moved main gone backup

theorem Inv.at {json : Bytes} {files₀ : Files} {s : Save} {stage : Stage}
    (hstage : s.stage = stage) (inv : Inv json files₀ s) : Inv json files₀ ⟨stage, s.files⟩ := by
  subst hstage
  exact inv

/-- **Every system call keeps the invariant**, whatever its outcome. -/
theorem step_inv {json : Bytes} {files₀ : Files} {s s' : Save} {call : Call}
    (inv : Inv json files₀ s) (h : step json s call = some s') : Inv json files₀ s' := by
  cases call with
  | createFile ok =>
    simp only [step] at h
    split at h
    · rename_i hstage
      have hsame : Untouched files₀ s.files := Inv.at hstage inv
      split at h
      · cases h; exact hsame
      · cases h; exact ⟨.failed hsame, Or.inl hsame⟩
    · cases h
  | writeFile ok written =>
    simp only [step] at h
    split at h
    · rename_i hstage
      have hsame : Untouched files₀ s.files := Inv.at hstage.1 inv
      split at h
      · rename_i hall
        cases h
        refine ⟨hsame, ?_, ?_⟩
        · show some (json.take written) = some json
          rw [hall.2, List.take_length]
        · have hmod := Nat.mod_lt json.length (show 2 ^ 32 > 0 by decide)
          have hle := hstage.2
          omega
      · cases h; exact hsame
    · cases h
  | flushFileBuffers ok =>
    simp only [step] at h
    split at h
    · rename_i hstage
      have hready : Untouched files₀ s.files ∧ Complete json s.files := Inv.at hstage inv
      cases h
      cases ok with
      | true => exact hready
      | false => exact hready.1
    · cases h
  | closeHandle =>
    simp only [step] at h
    split at h
    · rename_i flushed hstage
      have hat := Inv.at hstage inv
      cases h
      cases flushed with
      | true => exact hat
      | false => exact hat
    · cases h
  | deleteTemporary ok =>
    simp only [step] at h
    split at h
    · rename_i hstage
      cases h
      obtain hstage | hstage := hstage
      · have hsame : Untouched files₀ s.files := Inv.at hstage inv
        exact ⟨.failed hsame, Or.inl hsame⟩
      · have hdone : Exchanged json files₀ s.files ∧
            (Untouched files₀ s.files ∨ json.length < 2 ^ 32) := Inv.at hstage inv
        exact ⟨hdone.1.temporary _, hdone.2⟩
    · cases h
  | getFileAttributes =>
    simp only [step] at h
    split at h
    · rename_i hstage
      have hready : Untouched files₀ s.files ∧ Complete json s.files := Inv.at hstage inv
      cases h
      cases hmain : s.files.main with
      | none =>
        exact ⟨hready.1, hready.2, hready.1.1.symm.trans hmain⟩
      | some bytes =>
        refine ⟨hready.1, hready.2, ?_⟩
        rw [← hready.1.1, hmain]
        rfl
    · cases h
  | deleteBackup ok =>
    simp only [step] at h
    split at h
    · rename_i hstage
      have hready : Untouched files₀ s.files ∧ Complete json s.files ∧
          files₀.main.isSome = true := Inv.at hstage inv
      cases h
      refine ⟨⟨hready.1.1, ?_⟩, hready.2.1, hready.2.2⟩
      cases ok with
      | true => exact Or.inr rfl
      | false => exact Or.inl hready.1.2
    · cases h
  | replaceFile outcome =>
    simp only [step] at h
    split at h
    · rename_i hstage
      have hready : Uncovered files₀ s.files ∧ Complete json s.files ∧
          files₀.main.isSome = true := Inv.at hstage inv
      obtain ⟨hsame, ⟨htemporary, hsize⟩, hmain⟩ := hready
      cases h
      cases outcome with
      | success => exact ⟨.done htemporary, Or.inr hsize⟩
      | unchanged => exact ⟨.uncovered hmain hsame, Or.inr hsize⟩
      | movedToBackup => exact ⟨.moved hmain rfl hsame.1, Or.inr hsize⟩
    · cases h
  | moveFileEx ok =>
    simp only [step] at h
    split at h
    · rename_i hstage
      have hready : Untouched files₀ s.files ∧ Complete json s.files ∧ files₀.main = none :=
        Inv.at hstage inv
      obtain ⟨hsame, ⟨htemporary, hsize⟩, _⟩ := hready
      split at h
      · cases h; exact ⟨.done htemporary, Or.inr hsize⟩
      · cases h; exact ⟨.failed hsame, Or.inl hsame⟩
    · cases h

/-- **The invariant holds wherever a save is broken off.** -/
theorem run_inv {json : Bytes} {files₀ : Files} {s : Save} {calls : List Call}
    (h : run (step json) (Save.start files₀) calls = some s) : Inv json files₀ s := by
  have hstart : Inv json files₀ (Save.start files₀) :=
    show Untouched files₀ files₀ from ⟨rfl, rfl⟩
  exact run_invariant (P := Inv json files₀) (fun _ _ _ inv hstep => step_inv inv hstep) hstart h

/-! ### What is loaded afterwards -/

/-- What the invariant leaves of the files: the four cases of an exchange, and the first two only
if the text is too long for one `WriteFile`. -/
theorem Inv.exchanged {json : Bytes} {files₀ : Files} {s : Save} (inv : Inv json files₀ s) :
    Exchanged json files₀ s.files ∧ (Untouched files₀ s.files ∨ json.length < 2 ^ 32) := by
  obtain ⟨stage, files⟩ := s
  cases stage with
  | createFile => exact ⟨.failed inv, Or.inl inv⟩
  | writeFile => exact ⟨.failed inv, Or.inl inv⟩
  | flushFileBuffers => exact ⟨.failed inv.1, Or.inl inv.1⟩
  | closeHandle flushed =>
    cases flushed with
    | true => exact ⟨.failed inv.1, Or.inl inv.1⟩
    | false => exact ⟨.failed inv, Or.inl inv⟩
  | discard => exact ⟨.failed inv, Or.inl inv⟩
  | getFileAttributes => exact ⟨.failed inv.1, Or.inl inv.1⟩
  | deleteBackup => exact ⟨.failed inv.1, Or.inl inv.1⟩
  | replaceFile => exact ⟨.uncovered inv.2.2 inv.1, Or.inr inv.2.1.2⟩
  | moveFileEx => exact ⟨.failed inv.1, Or.inl inv.1⟩
  | cleanUp => exact inv
  | returned replaced => exact inv

theorem tryLoad_main {files : Files} {c : Config} (h : readConfig files.main = some c) :
    tryLoad files = some c := by
  rw [tryLoad, h]

theorem tryLoad_backup {files : Files} (h : readConfig files.main = none) :
    tryLoad files = readConfig files.backup := by
  rw [tryLoad, h]

theorem tryLoad_untouched {files₀ files : Files} (h : Untouched files₀ files) :
    tryLoad files = tryLoad files₀ := by
  rw [tryLoad, tryLoad, h.1, h.2]

/-- The text of a configuration in normal form reads as that configuration. -/
theorem readConfig_serialize {c : Config} (h : NormalForm c) :
    readConfig (some (serialize c)) = some c := by
  have hfew := h.few_devices
  rw [readConfig, Option.bind_some, tryParse, parse_serialize c (by omega)]
  exact congrArg some (ofObject_rootObject h)

/-- With a main file that parses or none at all, every state on the way loads the old or the new
configuration. -/
theorem Exchanged.loads {files₀ files : Files} {old new : Config}
    (hold : tryLoad files₀ = some old) (hnew : NormalForm new)
    (hmain : files₀.main = none ∨ (readConfig files₀.main).isSome = true)
    (h : Exchanged (serialize new) files₀ files) :
    tryLoad files = some old ∨ tryLoad files = some new := by
  have holdMain : files₀.main.isSome = true → readConfig files₀.main = some old := by
    intro hsome
    obtain hnone | hparses := hmain
    · rw [hnone] at hsome; cases hsome
    · obtain ⟨c, hc⟩ := Option.isSome_iff_exists.1 hparses
      rw [tryLoad_main hc] at hold
      rw [hc, hold]
  cases h with
  | done main =>
    right
    apply tryLoad_main
    rw [main, readConfig_serialize hnew]
  | failed untouched =>
    left
    rw [tryLoad_untouched untouched, hold]
  | uncovered main same =>
    left
    apply tryLoad_main
    rw [same.1, holdMain main]
  | moved main gone backup =>
    left
    rw [tryLoad_backup (by rw [gone]; rfl), backup, holdMain main]

/-- The calls up to the deletion of the backup, all of them successful. -/
def callsToDeletion (json : Bytes) : List Call :=
  [.createFile true, .writeFile true json.length, .flushFileBuffers true, .closeHandle,
    .getFileAttributes, .deleteBackup true]

theorem run_callsToDeletion {json : Bytes} {files₀ : Files} (hsize : json.length < 2 ^ 32)
    (hmain : files₀.main.isSome = true) :
    run (step json) (Save.start files₀) (callsToDeletion json) =
      some ⟨.replaceFile, ⟨files₀.main, none, some json⟩⟩ := by
  have hle : json.length ≤ json.length % 4294967296 := by omega
  simp [callsToDeletion, run, step, Save.start, deleted, hle, hmain]

/-- **When a save cannot lose the configuration.**  For files from which `old` is loaded and a
new configuration in normal form: wherever the save is broken off and whatever its calls return,
the next load gives `old` or `new`, if and only if the main file is missing or parses itself, or
the text is too long to be written at all. -/
theorem save_keeps_iff (files₀ : Files) (old new : Config) (hold : tryLoad files₀ = some old)
    (hnew : NormalForm new) :
    (∀ (calls : List Call) (s : Save),
        run (step (serialize new)) (Save.start files₀) calls = some s →
        tryLoad s.files = some old ∨ tryLoad s.files = some new) ↔
      files₀.main = none ∨ (readConfig files₀.main).isSome = true ∨
        2 ^ 32 ≤ (serialize new).length := by
  constructor
  · intro hall
    by_contra hnot
    rw [not_or, not_or] at hnot
    obtain ⟨hmain, hcorrupt, hsize⟩ := hnot
    have hnone : readConfig files₀.main = none := by
      rw [← Option.not_isSome_iff_eq_none]; exact hcorrupt
    have hrun := run_callsToDeletion (show (serialize new).length < 2 ^ 32 by omega)
      (Option.isSome_iff_ne_none.2 hmain)
    -- the backup is gone and the main file does not parse
    have hlost : tryLoad ⟨files₀.main, none, some (serialize new)⟩ = none :=
      tryLoad_backup hnone
    obtain h | h := hall _ _ hrun
    · rw [hlost] at h; cases h
    · rw [hlost] at h; cases h
  · intro hwhen calls s hrun
    obtain ⟨hexchanged, hsize⟩ := (run_inv hrun).exchanged
    obtain hnone | hparses | hlong := hwhen
    · exact hexchanged.loads hold hnew (Or.inl hnone)
    · exact hexchanged.loads hold hnew (Or.inr hparses)
    · obtain huntouched | hshort := hsize
      · left
        rw [tryLoad_untouched huntouched, hold]
      · omega

/-- Settings with 90 frames a second. -/
def faster : Config := { fps := 90 }

theorem faster_normalForm : NormalForm faster where
  version := rfl
  port_pos := by decide
  few_devices := by decide
  device_port := by decide
  numbered := fun _ _ hd => by cases hd
  addressed := by decide
  ids_distinct := by decide
  addresses_distinct := by decide
  fps := by decide
  bitrateMbps := by decide
  launcher := by decide

theorem broken_unreadable : readConfig (some (ascii "\x7bbroken")) = none := by decide +kernel

theorem serialize_faster_length : (serialize faster).length < 2 ^ 32 := by decide +kernel

/-- A save over a main file that parses. -/
theorem save_keeps_iff_good :
    let files₀ : Files := ⟨some (serialize faster), none, none⟩
    (∀ (calls : List Call) (s : Save),
        run (step (serialize faster)) (Save.start files₀) calls = some s →
        tryLoad s.files = some faster ∨ tryLoad s.files = some faster) ↔
      files₀.main = none ∨ (readConfig files₀.main).isSome = true ∨
        2 ^ 32 ≤ (serialize faster).length :=
  save_keeps_iff _ faster faster (tryLoad_main (readConfig_serialize faster_normalForm))
    faster_normalForm

/-- **The last good copy can be lost.**  The main file is corrupt and the backup good; the save
deletes the backup, the process dies, and the next load falls through to the defaults. -/
theorem save_loses_backup :
    ¬ ∀ (files₀ : Files) (old new : Config), tryLoad files₀ = some old → NormalForm new →
      ∀ (calls : List Call) (s : Save),
        run (step (serialize new)) (Save.start files₀) calls = some s →
        tryLoad s.files = some old ∨ tryLoad s.files = some new := by
  intro h
  have hold : tryLoad ⟨some (ascii "\x7bbroken"), some (serialize faster), none⟩ = some faster := by
    rw [tryLoad_backup broken_unreadable]
    exact readConfig_serialize faster_normalForm
  have hlost : tryLoad ⟨some (ascii "\x7bbroken"), none, some (serialize faster)⟩ = none :=
    tryLoad_backup broken_unreadable
  obtain hload | hload := h _ faster faster hold faster_normalForm _ _
    (run_callsToDeletion serialize_faster_length rfl)
  · rw [hlost] at hload; cases hload
  · rw [hlost] at hload; cases hload

end SecondDisplay.ConfigFile
