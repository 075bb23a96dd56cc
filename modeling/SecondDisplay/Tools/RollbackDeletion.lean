import SecondDisplay.Tools.RollbackRun

/-!
# When a driver package is deleted (`tools/safety/Invoke-ReceiptRollback.ps1`)

Behind the removal of the devices the script asks for the installed drivers once more and deletes
the packages if no answer uses them.  Errors of this query are not shown, so that a query that
failed and one that found nothing count as a proof.  `deletesOnProof_iff` says when a deletion has
one.
-/

namespace SecondDisplay.Rollback

open PowerShell Safety Logged

/-- An answer that proves that none of the INFs is used: the query succeeded, it listed drivers, and
no device of them uses an INF. -/
structure IsProof (culture : Culture) (answer : CimAnswer) (infNames : List Text) : Prop where
  succeeded : answer.failed = false
  listed : answer.records ≠ []
  unused : Unused culture answer.records infNames

def Command.isRemoval : Command → Bool
  | .removeDevice _ => true
  | .deleteDriver _ => false

/-- What has run when the script asks for the drivers once more. -/
def removed (ran : History) : History := ran.filter fun entry => entry.1.isRemoval

/-- Where a package is deleted, the drivers were listed behind the removals, and no INF of the plan
was used. -/
def DeletesOnProof (culture : Culture) (machine : Machine) (driver : Driver) (options : Options)
    (file : Option ReceiptFile) : Prop :=
  ∀ infName exitCode, (Command.deleteDriver infName, exitCode) ∈
      (invokeReceiptRollback culture machine driver options file).ran →
    ∃ plan answer, (preflight culture machine options file).value = .ok plan ∧
      driver.afterRemoval
        (removed (invokeReceiptRollback culture machine driver options file).ran) = some answer ∧
      IsProof culture answer plan.infNames

/-- If the script gets as far as the second query, and it does not throw, it succeeds and lists
drivers, or some of those that it lists still uses an INF. -/
def AnswersOrShowsUse (culture : Culture) (machine : Machine) (driver : Driver) (options : Options)
    (file : Option ReceiptFile) : Prop :=
  options.apply = true → machine.elevated = true → ∀ plan,
    Passes (preflight culture machine options file) plan →
    invokeEach driver [] plan.removals = (done plan.removals, false) →
    ∀ answer, driver.afterRemoval (done plan.removals) = some answer →
      (answer.failed = false ∧ answer.records ≠ []) ∨
        ¬Unused culture answer.records plan.infNames

variable {culture : Culture} {machine : Machine} {driver : Driver} {options : Options}
  {file : Option ReceiptFile} {plan : Plan}

theorem removed_append {ran : History} (h : ∀ entry ∈ ran, entry.1 ∈ plan.deletions) :
    removed (done plan.removals ++ ran) = done plan.removals := by
  have hremovals : (done plan.removals).filter (fun entry => entry.1.isRemoval) =
      done plan.removals := by
    rw [List.filter_eq_self]
    intro entry hentry
    obtain ⟨instanceId, -, hcommand⟩ := List.mem_map.1 (mem_of_mem_done hentry)
    rw [← hcommand]
    rfl
  have hdeletions : ran.filter (fun entry => entry.1.isRemoval) = [] := by
    rw [List.filter_eq_nil_iff]
    intro entry hentry
    obtain ⟨infName, -, hcommand⟩ := List.mem_map.1 (h entry hentry)
    rw [← hcommand]
    nofun
  rw [removed, List.filter_append, hremovals, hdeletions, List.append_nil]

theorem infNames_ne_nil (h : Passes (preflight culture machine options file) plan) :
    plan.infNames ≠ [] := by
  obtain ⟨file', receipt, devices, packages, baseline, protectedId, protectedInf, -, happroved⟩ :=
    passes_preflight_iff.1 h
  intro hnil
  have hread := happroved.planned.infs_read
  rw [hnil, List.map_nil, List.map_eq_nil_iff] at hread
  exact happroved.planned.packages_there hread

/-- A deletion in what ran of a plan. -/
theorem Executed.of_deletion {ran : History} {pass : Bool} {infName : Text} {exitCode : Option Int}
    (h : Executed culture driver plan ran pass)
    (hmem : (Command.deleteDriver infName, exitCode) ∈ ran) :
    invokeEach driver [] plan.removals = (done plan.removals, false) ∧
      removed ran = done plan.removals ∧ ∃ answer,
        driver.afterRemoval (done plan.removals) = some answer ∧
          Unused culture answer.records plan.infNames := by
  cases h with
  | removal_failed h hran => exact absurd (h.mem hmem) not_mem_removals
  | unproved hremoved h => exact absurd (mem_of_mem_done hmem) not_mem_removals
  | deletion_failed hremoved hanswer hunused h =>
    exact ⟨hremoved, removed_append fun entry hentry => h.mem hentry, _, hanswer, hunused⟩
  | complete hremoved hanswer hunused =>
    exact ⟨hremoved, removed_append fun entry hentry => mem_of_mem_done hentry, _, hanswer,
      hunused⟩

/-- An answer without use leads to a deletion. -/
theorem Executed.exists_deletion {ran : History} {pass : Bool} {answer : CimAnswer}
    (h : Executed culture driver plan ran pass) (hplan : plan.infNames ≠ [])
    (hremoved : invokeEach driver [] plan.removals = (done plan.removals, false))
    (hanswer : driver.afterRemoval (done plan.removals) = some answer)
    (hunused : Unused culture answer.records plan.infNames) :
    ∃ infName exitCode, (Command.deleteDriver infName, exitCode) ∈ ran := by
  have hdeletion : ∀ {tail : History}, tail ≠ [] → (∀ entry ∈ tail, entry.1 ∈ plan.deletions) →
      ∃ infName exitCode,
        (Command.deleteDriver infName, exitCode) ∈ done plan.removals ++ tail := by
    intro tail hne hmem
    obtain ⟨entry, hentry⟩ := List.exists_mem_of_ne_nil tail hne
    obtain ⟨infName, -, hcommand⟩ := List.mem_map.1 (hmem entry hentry)
    refine ⟨infName, entry.2, List.mem_append_right _ ?_⟩
    rwa [hcommand]
  cases h with
  | removal_failed h hran =>
    rw [hremoved] at hran
    subst hran
    have hzero := h.allZero
    rw [allZero_done] at hzero
    cases hzero
  | unproved hremoved h => exact absurd hunused (h answer hanswer)
  | deletion_failed hremoved' hanswer' hunused' h =>
    exact hdeletion h.ne_nil fun entry hentry => h.mem hentry
  | complete hremoved' hanswer' hunused' =>
    refine hdeletion ?_ fun entry hentry => mem_of_mem_done hentry
    rw [done, Plan.deletions, List.map_map]
    intro hnil
    exact hplan (List.map_eq_nil_iff.1 hnil)

/-- **When packages are deleted on proof only.** Every deletion has a proof if and only if the
second query, where the script gets as far, lists the drivers or shows a use. -/
theorem deletesOnProof_iff (culture : Culture) (machine : Machine) (driver : Driver)
    (options : Options) (file : Option ReceiptFile) :
    DeletesOnProof culture machine driver options file ↔
      AnswersOrShowsUse culture machine driver options file := by
  constructor
  · intro h happly helevated plan hpass hremoved answer hanswer
    by_cases hunused : Unused culture answer.records plan.infNames
    · have hexecuted := executed_execute culture driver happly plan
        (preflight culture machine options file).log
      rw [← invoke_of_passes happly helevated hpass] at hexecuted
      obtain ⟨infName, exitCode, hmem⟩ :=
        hexecuted.exists_deletion (infNames_ne_nil hpass) hremoved hanswer hunused
      obtain ⟨plan', answer', hvalue, hanswer', hproof⟩ := h infName exitCode hmem
      obtain ⟨-, hran, -⟩ := hexecuted.of_deletion hmem
      rw [hran, hanswer, Option.some.injEq] at hanswer'
      subst hanswer'
      exact .inl ⟨hproof.succeeded, hproof.listed⟩
    · exact .inr hunused
  · intro h infName exitCode hmem
    by_cases hgo : options.apply = true ∧ machine.elevated = true ∧
        ∃ plan, Passes (preflight culture machine options file) plan
    · obtain ⟨happly, helevated, plan, hpass⟩ := hgo
      have hexecuted := executed_execute culture driver happly plan
        (preflight culture machine options file).log
      rw [← invoke_of_passes happly helevated hpass] at hexecuted
      obtain ⟨hremoved, hran, answer, hanswer, hunused⟩ := hexecuted.of_deletion hmem
      rw [hran]
      obtain ⟨hsucceeded, hlisted⟩ | huse := h happly helevated plan hpass hremoved answer hanswer
      · exact ⟨plan, answer, hpass.1, hanswer, hsucceeded, hlisted, hunused⟩
      · exact absurd hunused huse
    · rw [(invoke_of_not_passes driver hgo).1] at hmem
      cases hmem

/-! ### A query that fails -/

/-- The adapter of Parsec. -/
def adapterId : Text := text "ROOT\\DISPLAY\\0001"

/-- The adapter of GameViewer. -/
def gameViewerId : Text := text "ROOT\\DISPLAY\\0000"

def gameViewerHash : Text := text "5F70BF18A086007016E948B04AED3B82103A36BEA41755B6CDDFAF10ACE3C6EF"

/-- The record of the adapter. -/
def adapterRecord : SignedDriver where
  deviceId := adapterId
  deviceName := text "Parsec Virtual Display Adapter"
  infName := text "oem7.inf"
  driverVersion := text "0.45.0.0"
  providerName := text "Parsec Cloud, Inc."
  manufacturer := text "Parsec Cloud, Inc."
  hardwareId := text "Root\\Parsec\\VDA"
  isSigned := some true
  signer := text "Parsec Cloud, Inc."

/-- The approved installer. -/
def approvedInstaller : InstallerFile where
  length := 1048576
  hash := text "E23332448FDAF5AA017CB308DB5EF6855FAC526A7DED05D80C039404126D5362"
  fileVersion := text "0.45.0.0"
  productVersion := text "0.45.0.0"
  fileDescription := text "Parsec Virtual Display Driver"
  productName := text "Parsec Virtual Display Driver"
  companyName := text "Parsec Cloud, Inc."
  originalFilename := []
  status := text "Valid"
  signatureType := text "Authenticode"
  signer := some {
    subject := text "CN=Parsec Cloud"
    simpleName := text "Parsec Cloud"
    thumbprint := text "ED7876A8EAB9C88F7AFA770A00A4D5AE2A36059B"
    notBefore := text "2023-01-01T00:00:00.0000000Z"
    notAfter := text "2026-01-01T00:00:00.0000000Z" }
  timestamp := some {
    subject := text "CN=Timestamp"
    simpleName := text "Timestamp"
    thumbprint := text "66F02B32C2C2C90F825DCEAA8AC9C64F199CCF40"
    notBefore := text "2023-01-01T00:00:00.0000000Z"
    notAfter := text "2034-01-01T00:00:00.0000000Z" }

/-- A machine with both adapters. -/
def twoAdapters : Machine where
  machineName := text "DESKTOP-1"
  devices := [⟨gameViewerId, text "GameViewer Virtual Display Adapter", text "OK", true⟩,
    ⟨adapterId, text "Parsec Virtual Display Adapter", text "OK", true⟩]
  device := fun instanceId =>
    if instanceId = gameViewerId then
      some ⟨gameViewerId, text "GameViewer Virtual Display Adapter", text "OK", true⟩
    else if instanceId = adapterId then
      some ⟨adapterId, text "Parsec Virtual Display Adapter", text "OK", true⟩
    else none
  properties := fun instanceId =>
    if instanceId = gameViewerId then
      [⟨text "DEVPKEY_Device_DriverInfPath", [text "oem3.inf"]⟩,
        ⟨text "DEVPKEY_Device_DriverVersion", [text "1.2.3.4"]⟩]
    else if instanceId = adapterId then
      [⟨text "DEVPKEY_Device_HardwareIds", [text "Root\\Parsec\\VDA"]⟩,
        ⟨text "DEVPKEY_Device_DriverInfPath", [text "oem7.inf"]⟩,
        ⟨text "DEVPKEY_Device_DriverVersion", [text "0.45.0.0"]⟩,
        ⟨text "DEVPKEY_Device_DriverProvider", [text "Parsec Cloud, Inc."]⟩]
    else []
  signedDrivers := [adapterRecord]
  monitors := some []
  fileHash := fun path =>
    some (if path = text "C:\\GameViewer.dll" then some gameViewerHash else none)
  repositoryDlls := []
  networkProfiles := [⟨text "Ethernet", text "Private", text "Internet", text "NoTraffic"⟩]
  installer := fun path =>
    some (path, if path = text "C:\\parsec-vdd.exe" then some approvedInstaller else none)
  elevated := true

/-- A receipt of this machine. -/
def adapterReceipt : Receipt where
  schema := some (.text (text "MouseInterop.DriverReceipt/2"))
  machineName := some (.text (text "DESKTOP-1"))
  sourceArtifact :=
    (getDriverInstallerSnapshot asciiCulture twoAdapters (text "C:\\parsec-vdd.exe")).map
      InstallerSnapshot.property
  devices := some [⟨some adapterId, some [text "Root\\Parsec\\VDA"], some (text "oem7.inf")⟩]
  packages := some [{
    publishedInfName := some (text "oem7.inf")
    driverVersion := some (text "0.45.0.0")
    providerName := some (text "Parsec Cloud, Inc.")
    hardwareId := some (text "Root\\Parsec\\VDA")
    signature := some ⟨some (.flag true), some (text "Parsec Cloud, Inc.")⟩ }]
  gameViewer := some {
    instanceId := some gameViewerId
    driverVersion := some (text "1.2.3.4")
    dllSha256 := some gameViewerHash
    dllPath := some (text "C:\\GameViewer.dll")
    driverInfPath := some (text "oem3.inf") }

def receiptHash : Text := text "9F86D081884C7D659A2FEAA0C55AD015A3BF4F1B2B0B822CD15D6C15B0F00A08"

/-- Its file; the hash is given to the script. -/
def adapterReceiptFile : ReceiptFile := ⟨receiptHash, some adapterReceipt, none⟩

/-- Commands that succeed, and a second query that fails. -/
def failingQuery : Driver where
  pnputil := fun _ _ => some 0
  afterRemoval := fun _ => some ⟨[], true⟩

/-- The package of the receipt is deleted although nothing was listed. -/
theorem not_deletesOnProof_failingQuery : ¬DeletesOnProof asciiCulture twoAdapters failingQuery
    ⟨receiptHash, true⟩ (some adapterReceiptFile) := by
  intro h
  have hdeleted : (Command.deleteDriver (text "oem7.inf"), some 0) ∈ (invokeReceiptRollback
      asciiCulture twoAdapters failingQuery ⟨receiptHash, true⟩ (some adapterReceiptFile)).ran := by
    decide +kernel
  obtain ⟨plan, answer, -, hanswer, hproof⟩ := h _ _ hdeleted
  obtain rfl : ⟨[], true⟩ = answer := Option.some.inj hanswer
  exact hproof.listed rfl

end SecondDisplay.Rollback
