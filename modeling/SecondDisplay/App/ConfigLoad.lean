import SecondDisplay.App.ConfigFile

/-!
# Start-up (`Config::Load`)

`Load` asks first whether the product's `config.json` exists, then whether the file of the upstream
product does, and only `LoadFromFile` knows the backup.  So a good backup is recovered where the
main file exists, parseable or not, and is passed over where the main file is missing
(`load_recovers_iff`); a save leaves that behind only through `ReplaceFile`'s last documented
failure (`load_after_save`).
-/

namespace SecondDisplay.ConfigLoad

open SecondDisplay.Config SecondDisplay.ConfigFile SecondDisplay.Transitions

/-! ### Loading at start-up -/

/-- The files of the product and those of the upstream product.  A file that cannot be read is one
that does not parse. -/
structure Disk where
  product : Files
  legacy : Files

/-- `Config::Load`: what it returns, and the configuration that it saves, if any. -/
def load (disk : Disk) : Config × Option Config :=
  if disk.product.main.isSome then (loadFromFile disk.product, none)
  else if disk.legacy.main.isNone then ({}, none)
  else
    let cfg := loadFromFile disk.legacy
    (cfg, some cfg)

/-- The main file's configuration if it parses and otherwise the backup's, with nothing written. -/
def Recovers (disk : Disk) (backup : Config) : Prop :=
  load disk = ((readConfig disk.product.main).getD backup, none)

variable {disk : Disk} {backup : Config}

theorem loadFromFile_backup {files : Files} (hbackup : readConfig files.backup = some backup) :
    loadFromFile files = (readConfig files.main).getD backup := by
  rw [loadFromFile, tryLoad]
  cases hmain : readConfig files.main with
  | none => exact congrArg (Option.getD · {}) hbackup
  | some c => rfl

theorem readConfig_missing {file : Option Bytes} (h : file.isSome = false) :
    readConfig file = none := by
  rw [Option.isSome_eq_false_iff, Option.isNone_iff_eq_none] at h
  rw [h]
  rfl

/-- **When a start-up recovers.**  With a backup that parses, `Load` returns the main file's
configuration or the backup's, and writes nothing, exactly if the main file exists; or else if
there is no upstream file and the backup happens to hold the defaults. -/
theorem load_recovers_iff (disk : Disk) (backup : Config)
    (hbackup : readConfig disk.product.backup = some backup) :
    Recovers disk backup ↔
      disk.product.main.isSome = true ∨ disk.legacy.main = none ∧ backup = {} := by
  unfold Recovers load
  cases hmain : disk.product.main.isSome with
  | true =>
    rw [if_pos rfl, loadFromFile_backup hbackup]
    exact iff_of_true rfl (Or.inl rfl)
  | false =>
    rw [if_neg Bool.false_ne_true, readConfig_missing hmain, Option.getD_none]
    cases hlegacy : disk.legacy.main with
    | none =>
      constructor
      · intro hload
        exact Or.inr ⟨rfl, (Prod.mk.inj hload).1.symm⟩
      · intro hwhen
        obtain hfalse | ⟨-, hdefaults⟩ := hwhen
        · exact Bool.noConfusion hfalse
        · rw [hdefaults]
          rfl
    | some text =>
      constructor
      · intro hload
        cases (Prod.mk.inj hload).2
      · intro hwhen
        obtain hfalse | ⟨hnone, -⟩ := hwhen
        · exact Bool.noConfusion hfalse
        · cases hnone

/-- No file of the upstream product. -/
def noFiles : Files := ⟨none, none, none⟩

/-- A main file that does not parse. -/
def corrupted : Disk := ⟨⟨some (ascii "\x7bbroken"), some (serialize faster), none⟩, noFiles⟩

theorem load_recovers_iff_corrupted : readConfig corrupted.product.main = none ∧
    Recovers corrupted faster :=
  ⟨broken_unreadable,
    (load_recovers_iff corrupted faster (readConfig_serialize faster_normalForm)).2 (Or.inl rfl)⟩

/-! ### Behind a save -/

section

variable {json : Bytes} {files₀ : Files} {s s' : Save}

/-- A main file that exists goes away by one outcome of one call. -/
theorem main_of_step (hi : Inv json files₀ s) {call : Call} (h : step json s call = some s')
    (hcall : call ≠ .replaceFile .movedToBackup) (hmain : s.files.main.isSome = true) :
    s'.files.main.isSome = true := by
  cases call with
  | closeHandle =>
    simp only [step] at h
    split at h <;> cases h
    exact hmain
  | writeFile ok written =>
    obtain ⟨-, h⟩ := Option.ite_none_right_eq_some.1 h
    split at h <;> cases h <;> exact hmain
  | replaceFile outcome =>
    obtain ⟨hstage, ⟨⟩⟩ := Option.ite_none_right_eq_some.1 h
    have hready : Uncovered files₀ s.files ∧ Complete json s.files ∧ files₀.main.isSome = true :=
      Inv.at hstage hi
    cases outcome with
    | success =>
      show s.files.temporary.isSome = true
      rw [hready.2.1.1]
      rfl
    | unchanged => exact hmain
    | movedToBackup => exact absurd rfl hcall
  | moveFileEx ok =>
    obtain ⟨hstage, h⟩ := Option.ite_none_right_eq_some.1 h
    have hready : Untouched files₀ s.files ∧ Complete json s.files ∧ files₀.main = none :=
      Inv.at hstage hi
    split at h <;> cases h
    · show s.files.temporary.isSome = true
      rw [hready.2.1.1]
      rfl
    · exact hmain
  | createFile ok =>
    obtain ⟨-, h⟩ := Option.ite_none_right_eq_some.1 h
    split at h <;> cases h <;> exact hmain
  | flushFileBuffers _ | deleteTemporary _ | getFileAttributes | deleteBackup _ =>
    obtain ⟨-, ⟨⟩⟩ := Option.ite_none_right_eq_some.1 h
    exact hmain

theorem main_of_run (hmain : files₀.main.isSome = true) {calls : List Call}
    (h : run (step json) (Save.start files₀) calls = some s)
    (hcalls : Call.replaceFile .movedToBackup ∉ calls) : s.files.main.isSome = true := by
  have hstart : Inv json files₀ (Save.start files₀) :=
    show Untouched files₀ files₀ from ⟨rfl, rfl⟩
  have hrun := run_history (P := fun past s => Inv json files₀ s ∧
      (Call.replaceFile .movedToBackup ∉ past → s.files.main.isSome = true))
    ⟨hstart, fun _ => hmain⟩
    (fun past t call t' hkept hstep => ⟨step_inv hkept.1 hstep, fun hnot =>
      main_of_step hkept.1 hstep
        (fun hcall => hnot (List.mem_append_right past (List.mem_singleton.2 hcall.symm)))
        (hkept.2 fun hmem => hnot (List.mem_append_left _ hmem))⟩) h
  exact hrun.2 hcalls

/-- **A start-up behind a save.**  Wherever a save over a file that parses is broken off, `Load`
finds the old or the new configuration and writes nothing, unless `ReplaceFile` has moved the main
file away. -/
theorem load_after_save {old new : Config} (hold : readConfig files₀.main = some old)
    (hnew : NormalForm new) {calls : List Call}
    (h : run (step (serialize new)) (Save.start files₀) calls = some s)
    (hcalls : Call.replaceFile .movedToBackup ∉ calls) (legacy : Files) :
    load ⟨s.files, legacy⟩ = (old, none) ∨ load ⟨s.files, legacy⟩ = (new, none) := by
  have hexists : files₀.main.isSome = true := by
    cases hmain : files₀.main with
    | none => rw [hmain] at hold; cases hold
    | some text => rfl
  have hloads := (run_inv h).exchanged.1.loads (tryLoad_main hold) hnew
    (Or.inr (by rw [hold]; rfl))
  have hload : load ⟨s.files, legacy⟩ = (loadFromFile s.files, none) :=
    if_pos (main_of_run hexists h hcalls)
  rw [hload, loadFromFile]
  obtain hloads | hloads := hloads
  · left
    rw [hloads, Option.getD_some]
  · right
    rw [hloads, Option.getD_some]

end

/-- A save over good settings whose `ReplaceFile` has moved the main file away. -/
def movedAway : List Call :=
  callsToDeletion (serialize faster) ++ [.replaceFile .movedToBackup, .deleteTemporary true]

/-- The backup holds the settings, and the start-up loads the defaults. -/
theorem load_recovers_fails_moved :
    ∃ s, run (step (serialize faster)) (Save.start ⟨some (serialize faster), none, none⟩)
        movedAway = some s ∧
      readConfig s.files.backup = some faster ∧ load ⟨s.files, noFiles⟩ = ({}, none) ∧
      ¬Recovers ⟨s.files, noFiles⟩ faster := by
  have hrun : run (step (serialize faster)) (Save.start ⟨some (serialize faster), none, none⟩)
      (callsToDeletion (serialize faster)) =
        some ⟨.replaceFile, ⟨some (serialize faster), none, some (serialize faster)⟩⟩ :=
    run_callsToDeletion serialize_faster_length rfl
  refine ⟨⟨.returned false, ⟨none, some (serialize faster), none⟩⟩, ?_,
    readConfig_serialize faster_normalForm, rfl, ?_⟩
  · rw [movedAway, run_append, hrun]
    rfl
  · intro hrecovers
    have hfps := congrArg (fun loaded => loaded.1.fps) hrecovers
    exact absurd hfps (by decide)

end SecondDisplay.ConfigLoad
