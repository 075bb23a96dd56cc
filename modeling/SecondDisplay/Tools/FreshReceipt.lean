import SecondDisplay.Tools.PostInstallReceipt
import SecondDisplay.Tools.RollbackDeletion

/-!
# Whether a fresh receipt can be used (`tools/safety`)

`New-PostInstallReceipt.ps1` and `Invoke-ReceiptRollback.ps1` look at the same machine with
different filters and comparisons.  `dryRun_accepts_iff` says for which machines the second script
accepts what the first one has just written.
-/

namespace SecondDisplay.PostInstallReceipt

open PowerShell Safety Rollback Logged
open SortUnique (sortUnique Alike)

variable {culture : Culture} {machine : Machine} {expected : Expected}

/-! ### Texts -/

theorem exists_letter {pattern s : Text} {c : Char} (h : sameLetters culture pattern s = true)
    (hc : c ∈ s) : ∃ letter ∈ pattern, culture.fold c = culture.fold letter := by
  have hmem : culture.fold c ∈ pattern.map culture.fold := by
    rw [beq_iff_eq.1 h]
    exact List.mem_map_of_mem hc
  obtain ⟨letter, hletter, hfold⟩ := List.mem_map.1 hmem
  exact ⟨letter, hletter, hfold.symm⟩

/-- The characters of a published name, up to a last line feed, are letters, digits and a dot. -/
theorem exists_name {s : Text} (h : isPublishedInf culture s = true) :
    ∃ name, name ≠ [] ∧ (s = name ∨ s = name ++ ['\n']) ∧
      ∀ c ∈ name, culture.isWhite c = false ∧ c ∉ ['*', '?', '[', ']'] := by
  rw [isPublishedInf] at h
  simp only [Bool.and_eq_true, decide_eq_true_eq] at h
  generalize hname : (if s.getLast? = some '\n' then s.dropLast else s) = name at h
  obtain ⟨⟨⟨hlength, hoem⟩, hdigits⟩, hinf⟩ := h
  refine ⟨name, ?_, ?_, ?_⟩
  · rintro rfl
    simp at hlength
  · rw [← hname]
    split
    · rename_i hlast
      obtain ⟨front, rfl⟩ := List.getLast?_eq_some_iff.1 hlast
      rw [List.dropLast_concat]
      exact .inr rfl
    · exact .inl rfl
  · intro c hc
    apply culture.plain_inf
    rw [← List.take_append_drop 3 name, List.mem_append] at hc
    obtain hc | hc := hc
    · obtain ⟨letter, hletter, hfold⟩ := exists_letter hoem hc
      exact .inr ⟨letter, List.mem_append_left (text ".inf") hletter, hfold⟩
    · rw [← List.take_append_drop (name.length - 7) (name.drop 3), List.mem_append] at hc
      obtain hc | hc := hc
      · exact .inl (List.all_eq_true.1 hdigits c hc)
      · rw [List.drop_drop, show 3 + (name.length - 7) = name.length - 4 by omega] at hc
        obtain ⟨letter, hletter, hfold⟩ := exists_letter hinf hc
        exact .inr ⟨letter, List.mem_append_right (text "oem") hletter, hfold⟩

/-- A published name of an INF is a token without wildcards. -/
theorem testNoWildcardToken_of_isPublishedInf {s : Text} (h : isPublishedInf culture s = true) :
    testNoWildcardToken culture s = true := by
  obtain ⟨name, hne, hs, hplain⟩ := exists_name h
  have hmem : ∀ c ∈ s, c ∈ name ∨ c = '\n' := by
    intro c hc
    obtain rfl | rfl := hs
    · exact .inl hc
    · exact (List.mem_append.1 hc).imp_right List.mem_singleton.1
  have hsub : ∀ c ∈ name, c ∈ s := by
    intro c hc
    obtain rfl | rfl := hs
    · exact hc
    · exact List.mem_append_left _ hc
  rw [testNoWildcardToken, Bool.and_eq_true, Bool.not_eq_true', Bool.not_eq_true']
  constructor
  · obtain ⟨c, hc⟩ := List.exists_mem_of_ne_nil name hne
    rw [isBlank, List.all_eq_false]
    exact ⟨c, hsub c hc, by rw [(hplain c hc).1]; nofun⟩
  · rw [List.any_eq_false]
    intro c hc hwild
    obtain hname | rfl := hmem c hc
    · exact (hplain c hname).2 (List.contains_iff_mem.1 hwild)
    · exact absurd hwild (by decide)

theorem dropWhile_white {s : Text} (h : ∀ c ∈ s, culture.isWhite c = false) :
    s.dropWhile culture.isWhite = s := by
  cases s with
  | nil => rfl
  | cons c s => rw [List.dropWhile_cons_of_neg (by rw [h c List.mem_cons_self]; nofun)]

theorem trim_eq_self {s : Text} (h : ∀ c ∈ s, culture.isWhite c = false) : trim culture s = s := by
  rw [trim, dropWhile_white h, dropWhile_white fun c hc => h c (List.mem_reverse.1 hc),
    List.reverse_reverse]

/-- Trimming keeps a text that has no white space, and behind it at most what stands there. -/
theorem trim_append {s : Text} (rest : Text) (hne : s ≠ [])
    (h : ∀ c ∈ s, culture.isWhite c = false) :
    ∃ kept, kept <+: rest ∧ trim culture (s ++ rest) = s ++ kept := by
  have hfront : (s ++ rest).dropWhile culture.isWhite = s ++ rest := by
    cases s with
    | nil => exact absurd rfl hne
    | cons c s =>
      rw [List.cons_append, List.dropWhile_cons_of_neg (by rw [h c List.mem_cons_self]; nofun)]
  rw [trim, hfront, List.reverse_append, List.dropWhile_append]
  split
  · refine ⟨[], List.nil_prefix, ?_⟩
    rw [dropWhile_white fun c hc => h c (List.mem_reverse.1 hc), List.reverse_reverse,
      List.append_nil]
  · refine ⟨(rest.reverse.dropWhile culture.isWhite).reverse, ?_, ?_⟩
    · rw [← List.reverse_suffix, List.reverse_reverse]
      exact List.dropWhile_suffix culture.isWhite
    · rw [List.reverse_append, List.reverse_reverse]

/-- The first token of a sidecar file is the hash in it. -/
theorem firstToken_trim {hash rest : Text} (hne : hash ≠ [])
    (h : ∀ c ∈ hash, culture.isWhite c = false) :
    firstToken culture (trim culture (hash ++ ' ' :: rest)) = hash := by
  obtain ⟨kept, hkept, htrim⟩ := trim_append (' ' :: rest) hne h
  rw [htrim, firstToken, List.takeWhile_append_of_pos fun c hc => by rw [h c hc]; rfl]
  cases kept with
  | nil => rw [List.takeWhile_nil, List.append_nil]
  | cons c kept =>
    obtain ⟨rfl, -⟩ := List.cons_prefix_cons.1 hkept
    rw [List.takeWhile_cons_of_neg (by rw [culture.white_blank]; nofun), List.append_nil]

/-! ### What the first script has checked -/

/-- What it means for the second script that the checks of the first one passed. -/
structure Accepted (culture : Culture) (machine : Machine) (expected : Expected)
    (preInstall : PreInstall) (findings : Findings) : Prop where
  artifact : ∃ baseline, preInstall.sourceArtifact = some baseline ∧
    Passes (artifactChecks culture machine baseline) findings.artifact
  game_viewer_read : preInstall.gameViewer = some findings.gameViewer
  game_viewer : Passes (gameViewerChecks culture machine findings.gameViewer) ()
  adapters : findings.adapterDevices = adapterDevices culture machine expected
  adapters_there : findings.adapterDevices ≠ []
  hardware : ∀ device ∈ findings.adapterDevices,
    hasExpectedHardwareId culture expected device = true
  infs : findings.publishedInfNames = publishedInfNames culture findings.adapterDevices
  infs_there : findings.publishedInfNames ≠ []
  published : ∀ infName ∈ findings.publishedInfNames, isPublishedInf culture infName = true
  records : findings.signedByInf = signedByInf culture machine findings.publishedInfNames
  signatures : ∀ infName ∈ findings.publishedInfNames,
    Passes (signatureChecks culture findings.signedByInf infName) ()

theorem passes_adapterChecks {devices : List ParsecDevice}
    (h : Passes (adapterChecks culture expected devices) ()) :
    devices ≠ [] ∧ ∀ device ∈ devices, hasExpectedHardwareId culture expected device = true := by
  rw [adapterChecks] at h
  simp only [passes_bind_iff, passes_addCheck_iff, Bool.and_eq_true, Bool.not_eq_true',
    List.isEmpty_eq_false_iff, List.all_eq_true] at h
  obtain ⟨-, hthere, -, -, -, ⟨-, hhardware⟩, -⟩ := h
  exact ⟨hthere, hhardware⟩

theorem passes_driverChecks {infNames : List Text} {records : List SignedDriver}
    (h : Passes (driverChecks culture infNames records) ()) :
    infNames ≠ [] ∧ (∀ infName ∈ infNames, isPublishedInf culture infName = true) ∧
      ∀ infName ∈ infNames, Passes (signatureChecks culture records infName) () := by
  rw [driverChecks] at h
  simp only [passes_bind_iff, passes_addCheck_iff, passes_forEach_iff, Bool.and_eq_true,
    Bool.not_eq_true', List.isEmpty_eq_false_iff, List.all_eq_true] at h
  obtain ⟨-, ⟨hthere, hpublished⟩, -, -, hsignatures⟩ := h
  exact ⟨hthere, hpublished, hsignatures⟩

theorem accepted_of_passes {preInstall : PreInstall} {findings : Findings}
    (h : Passes (postInstallAudit culture machine expected (some (some preInstall))) findings) :
    Accepted culture machine expected preInstall findings := by
  rw [postInstallAudit] at h
  simp only [passes_bind_iff, passes_need_iff, passes_read_iff, passes_pure_iff] at h
  obtain ⟨file, ⟨⟩, preInstall', ⟨⟩, -, -, baseline, hbaseline, current, hcurrent, gameViewer,
    hgameViewer, ⟨⟩, hpasses, networkAlias, -, -, -, ⟨⟩, hadapters, ⟨⟩, hdrivers, rfl⟩ := h
  obtain ⟨hadaptersThere, hhardware⟩ := passes_adapterChecks hadapters
  obtain ⟨hinfsThere, hpublished, hsignatures⟩ := passes_driverChecks hdrivers
  exact ⟨⟨baseline, hbaseline, hcurrent⟩, hgameViewer, hpasses, rfl, hadaptersThere, hhardware, rfl,
    hinfsThere, hpublished, rfl, hsignatures⟩

theorem newPostInstallReceipt_eq_some {preInstall : PreInstall} {hash fileName : Text}
    {file : ReceiptFile} (h : newPostInstallReceipt culture machine expected
      (some (some preInstall)) hash fileName = some file) :
    ∃ findings, Accepted culture machine expected preInstall findings ∧
      file = receiptFile culture machine expected findings hash fileName := by
  rw [newPostInstallReceipt] at h
  cases hvalue : (postInstallAudit culture machine expected (some (some preInstall))).value with
  | error fault =>
    simp only [hvalue, reduceCtorEq] at h
  | ok findings =>
    simp only [hvalue] at h
    split at h
    · rename_i hall
      obtain ⟨reportId, -, hfile⟩ := Option.map_eq_some_iff.1 h
      exact ⟨findings, accepted_of_passes ⟨hvalue, List.all_eq_true.1 hall⟩, hfile.symm⟩
    · cases h

/-! ### The installer -/

/-- The installer that the report from before the installation names, as it is now. -/
def installerFile (culture : Culture) (machine : Machine) (preInstall : PreInstall) :
    Option InstallerFile := do
  let baseline ← preInstall.sourceArtifact
  let path ← baseline .path
  let answer ← machine.installer (path.castText culture)
  answer.2

/-- The installer is the approved one. -/
structure ApprovedInstaller (culture : Culture) (file : InstallerFile) : Prop where
  sha256 : culture.ceq (culture.upper file.hash)
    (text "E23332448FDAF5AA017CB308DB5EF6855FAC526A7DED05D80C039404126D5362") = true
  signer : ∃ signer, file.signer = some signer ∧ culture.ceq (culture.upper signer.thumbprint)
    (text "ED7876A8EAB9C88F7AFA770A00A4D5AE2A36059B") = true
  timestamp : ∃ timestamp, file.timestamp = some timestamp ∧
    culture.ceq (culture.upper timestamp.thumbprint)
      (text "66F02B32C2C2C90F825DCEAA8AC9C64F199CCF40") = true

/-- What the first script has seen of the installer decides about the checks of the second one. -/
theorem passes_sourceArtifactChecks_receipt_iff {preInstall : PreInstall} {findings : Findings}
    (h : Accepted culture machine expected preInstall findings) :
    Passes (sourceArtifactChecks culture (some findings.artifact.property)) () ↔
      ∃ file, installerFile culture machine preInstall = some file ∧
        ApprovedInstaller culture file := by
  obtain ⟨baseline, hbaseline, hpasses⟩ := h.artifact
  rw [artifactChecks] at hpasses
  simp only [passes_bind_iff, passes_need_iff, passes_read_iff, passes_addCheck_iff,
    passes_forEach_iff, passes_pure_iff, Bool.not_eq_true', getDriverInstallerSnapshot,
    Option.map_eq_some_iff] at hpasses
  obtain ⟨path, hpath, current, ⟨answer, hanswer, rfl⟩, -, hfound, -, -, status, hstatus, -, hvalid,
    signerName, hsignerName, -, hsignerThere, timestamp, htimestamp, -, htimestampThere,
    hartifact⟩ := hpasses
  obtain ⟨fullPath, file⟩ := answer
  obtain ⟨file, rfl⟩ : ∃ there, file = some there := by
    cases file with
    | none => cases hfound
    | some file => exact ⟨file, rfl⟩
  have hfile : installerFile culture machine preInstall = some file := by
    rw [installerFile, hbaseline]
    simp [hpath, hanswer]
  obtain rfl : .text file.status = status := Option.some.inj hstatus
  obtain ⟨signer, hsigner⟩ : ∃ signer, file.signer = some signer := by
    cases hsigner : file.signer with
    | some signer => exact ⟨signer, rfl⟩
    | none =>
      obtain rfl : .null = signerName := by
        refine Option.some.inj (Eq.trans ?_ hsignerName)
        show some Datum.null = some (file.signer.elim .null _)
        rw [hsigner]
        rfl
      cases hsignerThere
  obtain ⟨stamp, hstamp⟩ : ∃ stamp, file.timestamp = some stamp := by
    rw [← Option.isSome_iff_exists]
    obtain rfl : .flag file.timestamp.isSome = timestamp := Option.some.inj htimestamp
    exact htimestampThere
  rw [passes_sourceArtifactChecks_iff, ← hartifact, hfile]
  simp only [Option.some.injEq, exists_eq_left']
  rw [Rollback.artifactChecks]
  simp only [passes_bind_iff, passes_read_iff, passes_addCheck_iff]
  have hsignerThumbprint : ∀ value, certificateValue file.signer (fun certificate =>
      culture.upper certificate.thumbprint) = value ↔
      .text (culture.upper signer.thumbprint) = value := fun value => by rw [hsigner]; rfl
  have hstampThumbprint : ∀ value, certificateValue file.timestamp (fun certificate =>
      culture.upper certificate.thumbprint) = value ↔
      .text (culture.upper stamp.thumbprint) = value := fun value => by rw [hstamp]; rfl
  constructor
  · rintro ⟨sha256, hsha256, -, hsha256Same, status, hstatus', -, -, thumbprint, hthumbprint, -,
      hthumbprintSame, stampThumbprint, hstampRead, hstampSame⟩
    obtain rfl : .text (culture.upper file.hash) = sha256 := Option.some.inj hsha256
    obtain rfl := (hsignerThumbprint thumbprint).1 (Option.some.inj hthumbprint)
    obtain rfl := (hstampThumbprint stampThumbprint).1 (Option.some.inj hstampRead)
    exact ⟨hsha256Same, ⟨signer, hsigner, hthumbprintSame⟩, stamp, hstamp, hstampSame⟩
  · intro happroved
    obtain ⟨signer', hsigner', hsignerSame⟩ := happroved.signer
    obtain rfl : signer = signer' := Option.some.inj (hsigner.symm.trans hsigner')
    obtain ⟨stamp', hstamp', hstampSame⟩ := happroved.timestamp
    obtain rfl : stamp = stamp' := Option.some.inj (hstamp.symm.trans hstamp')
    exact ⟨.text (culture.upper file.hash), rfl, (), happroved.sha256, .text file.status, rfl, (),
      hvalid, .text (culture.upper signer.thumbprint),
      congrArg some ((hsignerThumbprint _).2 rfl), (), hsignerSame,
      .text (culture.upper stamp.thumbprint), congrArg some ((hstampThumbprint _).2 rfl),
      hstampSame⟩

/-! ### The adapters -/

/-- An adapter that the second script accepts. -/
structure UsableAdapter (culture : Culture) (protectedId : Text) (device : ParsecDevice) :
    Prop where
  no_wildcard : testNoWildcardToken culture device.instanceId = true
  not_protected : culture.eq device.instanceId protectedId = false
  approved : ∃ hardwareId ∈ device.hardwareIds,
    culture.eq hardwareId (text "Root\\Parsec\\VDA") = true

theorem exists_listed {device : ParsecDevice}
    (h : device ∈ adapterDevices culture machine expected) :
    ∃ listed ∈ machine.devices, device = parsecDevice culture machine listed := by
  rw [adapterDevices, parsecDevices, List.mem_filter, List.mem_filter, List.mem_map] at h
  obtain ⟨⟨⟨listed, hlisted, rfl⟩, -⟩, -⟩ := h
  exact ⟨listed, (List.mem_filter.1 hlisted).1, rfl⟩

theorem passes_deviceChecks_receipt_iff {device : ParsecDevice} {protectedId : Text}
    (hmem : device ∈ adapterDevices culture machine expected)
    (hlisted : ∀ listed ∈ machine.devices, (machine.device listed.instanceId).isSome = true) :
    Passes (deviceChecks culture machine protectedId (deviceTarget device)) () ↔
      UsableAdapter culture protectedId device := by
  obtain ⟨listed, hlistedMem, rfl⟩ := exists_listed hmem
  rw [passes_deviceChecks_iff]
  constructor
  · rintro ⟨instanceId, hardwareIds, inf, h⟩
    obtain rfl := Option.some.inj h.instance_read
    exact ⟨h.no_wildcard, h.not_protected, List.any_eq_true.1 h.approved⟩
  · intro h
    obtain ⟨hardwareId, hhardware, happroved⟩ := h.approved
    refine ⟨listed.instanceId, _, _, rfl, rfl, rfl, h.no_wildcard, h.not_protected,
      hlisted listed hlistedMem, ?_, List.any_eq_true.2 ⟨hardwareId, hhardware, happroved⟩,
      culture.eq_refl _⟩
    rw [List.any_eq_true]
    exact ⟨hardwareId, hhardware, List.any_eq_true.2 ⟨hardwareId, hhardware, culture.eq_refl _⟩⟩

/-! ### The packages -/

/-- The records of an INF, of Parsec or not, that the second script accepts. -/
structure UsableRecords (culture : Culture) (machine : Machine) (expected : Expected)
    (infName : Text) : Prop where
  signed : ∀ record ∈ recordsOf culture machine infName, record.isSigned = some true
  same_signer : ∀ record ∈ recordsOf culture machine infName,
    ∀ other ∈ recordsOf culture machine infName, culture.ceq record.signer other.signer = true
  in_scope : ∀ record ∈ recordsOf culture machine infName,
    isBlank culture record.deviceId = true ∨
      ∃ device ∈ adapterDevices culture machine expected,
        culture.eq device.instanceId record.deviceId = true
  identity : ∃ first rest, infRecords culture (parsecSignedDrivers culture machine) infName =
    first :: rest ∧ ∃ record ∈ recordsOf culture machine infName,
      culture.eq record.driverVersion first.driverVersion = true ∧
      (isBlank culture first.providerName = true ∨
        culture.eq record.providerName first.providerName = true) ∧
      (culture.eq record.hardwareId expected.hardwareId = true ∨
        culture.eq record.deviceName (text "Parsec Virtual Display Adapter") = true)

theorem infRecords_signedByInf {infNames : List Text} {infName : Text} (h : infName ∈ infNames) :
    infRecords culture (signedByInf culture machine infNames) infName =
      infRecords culture (parsecSignedDrivers culture machine) infName := by
  rw [infRecords, signedByInf, List.filter_filter, infRecords]
  refine List.filter_congr fun record _ => ?_
  rw [Bool.and_eq_left_iff_imp]
  intro heq
  exact List.any_eq_true.2 ⟨infName, h, culture.eq_symm _ _ heq⟩

theorem mem_recordsOf_of_mem_infRecords {infName : Text} {record : SignedDriver}
    (h : record ∈ infRecords culture (parsecSignedDrivers culture machine) infName) :
    record ∈ recordsOf culture machine infName := by
  rw [infRecords, parsecSignedDrivers, List.mem_filter, List.mem_filter] at h
  exact List.mem_filter.2 ⟨h.1.1, h.2⟩

/-- The signer that the first script writes down is the one of a record. -/
theorem exists_signer {records : List SignedDriver} {infName : Text}
    (h : Passes (signatureChecks culture records infName) ()) :
    ∃ first rest signer, infRecords culture records infName = first :: rest ∧
      sortUnique culture.order ((infRecords culture records infName).map SignedDriver.signer) =
        [signer] ∧ isBlank culture signer = false ∧
      ∃ record ∈ infRecords culture records infName, record.signer = signer := by
  rw [signatureChecks] at h
  simp only [passes_bind_iff, passes_addCheck_iff, Bool.and_eq_true, Bool.not_eq_true',
    List.isEmpty_eq_false_iff, List.all_eq_true, beq_iff_eq] at h
  obtain ⟨-, hne, -, -, -, ⟨-, hthere⟩, hlength⟩ := h
  obtain ⟨first, rest, hrecords⟩ := List.exists_cons_of_ne_nil hne
  have hall : ((infRecords culture records infName).map SignedDriver.signer).filter
      (fun signer => !isBlank culture signer) =
      (infRecords culture records infName).map SignedDriver.signer := by
    rw [List.filter_eq_self]
    intro signer hsigner
    obtain ⟨record, hrecord, rfl⟩ := List.mem_map.1 hsigner
    rw [hthere record hrecord]
    rfl
  rw [hall] at hlength
  obtain ⟨signer, hsigner⟩ := List.length_eq_one_iff.1 hlength
  have hmem : signer ∈ sortUnique culture.order
      ((infRecords culture records infName).map SignedDriver.signer) := by
    rw [hsigner]
    exact List.mem_singleton_self signer
  obtain ⟨record, hrecord, rfl⟩ := List.mem_map.1 (SortUnique.mem_of_mem_sortUnique hmem)
  exact ⟨first, rest, record.signer, hrecords, hsigner, hthere record hrecord, record, hrecord, rfl⟩

/-- The package target of an INF, with what the second script reads in it. -/
theorem exists_packageTarget {preInstall : PreInstall} {findings : Findings}
    (h : Accepted culture machine expected preInstall findings) {infName : Text}
    (hmem : infName ∈ findings.publishedInfNames) :
    ∃ first rest signer, packageTarget culture expected findings infName =
      ⟨some infName, some first.driverVersion, some first.providerName, some expected.hardwareId,
        some ⟨some (.flag true), some signer⟩⟩ ∧
      infRecords culture (parsecSignedDrivers culture machine) infName = first :: rest ∧
      isBlank culture signer = false ∧
      ∃ record ∈ recordsOf culture machine infName, record.signer = signer := by
  obtain ⟨first, rest, signer, hrecords, hsigners, hblank, record, hrecord, hsigner⟩ :=
    exists_signer (h.signatures infName hmem)
  have htarget : packageTarget culture expected findings infName =
      ⟨some infName, some first.driverVersion, some first.providerName, some expected.hardwareId,
        some ⟨some (.flag true), some signer⟩⟩ := by
    rw [packageTarget, hsigners, hrecords]
    rfl
  have hinf : infRecords culture findings.signedByInf infName =
      infRecords culture (parsecSignedDrivers culture machine) infName := by
    rw [h.records]
    exact infRecords_signedByInf hmem
  rw [hinf] at hrecords hrecord
  exact ⟨first, rest, signer, htarget, hrecords, hblank, record,
    mem_recordsOf_of_mem_infRecords hrecord, hsigner⟩

theorem passes_packageChecks_receipt_iff {preInstall : PreInstall} {findings : Findings}
    (h : Accepted culture machine expected preInstall findings) {infName protectedInf : Text}
    (hmem : infName ∈ findings.publishedInfNames) :
    Passes (packageChecks culture machine protectedInf
      (findings.adapterDevices.map ParsecDevice.instanceId)
      (packageTarget culture expected findings infName)) () ↔
      culture.eq infName protectedInf = false ∧
        UsableRecords culture machine expected infName := by
  obtain ⟨first, rest, signer, htarget, hrecords, hblank, record, hthere, hsigner⟩ :=
    exists_packageTarget h hmem
  rw [passes_packageChecks_iff, htarget]
  constructor
  · rintro ⟨infName', signer', happroved⟩
    obtain rfl : infName = infName' := Option.some.inj happroved.name_read
    obtain ⟨value, hsignature, -⟩ := happroved.signature_read
    obtain rfl : signer = signer' := by
      simp only [Option.some.injEq, Signature.mk.injEq] at hsignature
      exact hsignature.2
    obtain ⟨version, provider, hardware, hversion, hprovider, hhardware, found, hfound,
      hidentity⟩ := happroved.identity
    obtain rfl : first.driverVersion = version := Option.some.inj hversion
    obtain rfl : first.providerName = provider := Option.some.inj hprovider
    obtain rfl : expected.hardwareId = hardware := Option.some.inj hhardware
    simp only [isIdentity, Bool.and_eq_true, Bool.or_eq_true] at hidentity
    obtain ⟨⟨⟨⟨hversionSame, hproviderSame⟩, -⟩, -⟩, hhardwareSame⟩ := hidentity
    refine ⟨happroved.not_protected, happroved.signed, ?_, ?_, first, rest, hrecords, found,
      hfound, hversionSame, hproviderSame, hhardwareSame⟩
    · intro record hrecord other hother
      exact culture.ceq_trans _ _ _ (happroved.same_signer record hrecord)
        (culture.ceq_symm _ _ (happroved.same_signer other hother))
    · intro record hrecord
      refine (happroved.in_scope record hrecord).imp_right ?_
      rintro ⟨instanceId, hinstance, heq⟩
      obtain ⟨device, hdevice, rfl⟩ := List.mem_map.1 hinstance
      exact ⟨device, h.adapters ▸ hdevice, heq⟩
  · rintro ⟨hprotected, husable⟩
    obtain ⟨first', rest', hrecords', found, hfound, hversion, hprovider, hhardware⟩ :=
      husable.identity
    obtain ⟨rfl, -⟩ : first = first' ∧ rest = rest' := by
      rw [hrecords, List.cons.injEq] at hrecords'
      exact hrecords'
    have hsame : ∀ other ∈ recordsOf culture machine infName,
        culture.ceq other.signer signer = true := by
      intro other hother
      rw [← hsigner]
      exact husable.same_signer other hother record hthere
    refine ⟨infName, signer, rfl,
      testNoWildcardToken_of_isPublishedInf (h.published infName hmem), h.published infName hmem,
      hprotected, ⟨.flag true, rfl, rfl⟩, hblank, List.ne_nil_of_mem hthere, husable.signed, hsame,
      ?_, ?_⟩
    · intro other hother
      refine (husable.in_scope other hother).imp_right ?_
      rintro ⟨device, hdevice, heq⟩
      rw [← h.adapters] at hdevice
      exact ⟨device.instanceId, List.mem_map_of_mem hdevice, heq⟩
    · refine ⟨first.driverVersion, first.providerName, expected.hardwareId, rfl, rfl, rfl, found,
        hfound, ?_⟩
      simp only [isIdentity, Bool.and_eq_true, Bool.or_eq_true, beq_iff_eq]
      exact ⟨⟨⟨⟨hversion, hprovider⟩, husable.signed found hfound⟩, hsame found hfound⟩, hhardware⟩

/-! ### The receipt -/

/-- A dry run that finds nothing wrong. -/
structure Accepts (outcome : Outcome) : Prop where
  not_stopped : outcome.fault = none
  all_pass : ∀ check ∈ outcome.checks, check.pass = true
  overall : outcome.overallPass = true

theorem accepts_iff {driver : Driver} {receiptSha256 : Text} {file : Option ReceiptFile} :
    Accepts (invokeReceiptRollback culture machine driver ⟨receiptSha256, false⟩ file) ↔
      ∃ plan, Passes (preflight culture machine ⟨receiptSha256, false⟩ file) plan := by
  rw [invokeReceiptRollback]
  cases hvalue : (preflight culture machine ⟨receiptSha256, false⟩ file).value with
  | error fault =>
    constructor
    · intro h
      cases h.not_stopped
    · rintro ⟨plan, hplan, -⟩
      rw [hvalue] at hplan
      cases hplan
  | ok plan =>
    simp only [Bool.false_and, Bool.false_eq_true, if_false]
    constructor
    · intro h
      exact ⟨plan, hvalue, h.all_pass⟩
    · rintro ⟨plan', -, hall⟩
      refine ⟨rfl, hall, ?_⟩
      show (List.all _ Check.pass && !false && (!false || _)) = true
      rw [List.all_eq_true.2 hall]
      rfl

/-- A machine whose fresh receipt the second script accepts. -/
structure Usable (culture : Culture) (machine : Machine) (expected : Expected)
    (preInstall : PreInstall) : Prop where
  installer : ∃ file, installerFile culture machine preInstall = some file ∧
    ApprovedInstaller culture file
  monitors : machine.monitors.isSome = true
  distinct : (adapterDevices culture machine expected).Pairwise fun device other =>
    ¬Alike culture.order device.instanceId other.instanceId
  adapters : ∀ baseline protectedId, preInstall.gameViewer = some baseline →
    baseline.instanceId = some protectedId →
    ∀ device ∈ adapterDevices culture machine expected, UsableAdapter culture protectedId device
  infs : ∀ baseline protectedInf, preInstall.gameViewer = some baseline →
    baseline.driverInfPath = some protectedInf →
    ∀ infName ∈ publishedInfNames culture (adapterDevices culture machine expected),
      culture.eq infName protectedInf = false
  records : ∀ infName ∈ publishedInfNames culture (adapterDevices culture machine expected),
    UsableRecords culture machine expected infName

theorem passes_gameViewerChecks_read {baseline : GameViewerBaseline}
    (h : Passes (gameViewerChecks culture machine baseline) ()) :
    ∃ protectedId protectedInf, baseline.instanceId = some protectedId ∧
      baseline.driverInfPath = some protectedInf := by
  rw [gameViewerChecks] at h
  simp only [passes_bind_iff, passes_need_iff, passes_read_iff, passes_addCheck_iff] at h
  obtain ⟨protectedId, hinstance, version, -, dll, -, path, -, current, -, -, -, -, -, protectedInf,
    hinf, -⟩ := h
  exact ⟨protectedId, protectedInf, hinstance, hinf⟩

/-- The hash in the sidecar file is the one of the receipt. -/
theorem passes_hashChecks {findings : Findings} {hash fileName : Text}
    (hne : culture.upper hash ≠ []) (hplain : ∀ c ∈ culture.upper hash, culture.isWhite c = false) :
    Passes (hashChecks culture ⟨[], false⟩
      (receiptFile culture machine expected findings hash fileName)) () := by
  have hsidecar : culture.upper hash ++ text "  " ++ fileName ++ text "\r\n" =
      culture.upper hash ++ ' ' :: (' ' :: (fileName ++ text "\r\n")) := by
    rw [List.append_assoc, List.append_assoc]
    rfl
  have hexpected : Passes (expectedReceiptHash culture ⟨[], false⟩
      (receiptFile culture machine expected findings hash fileName)) (culture.upper hash) := by
    rw [expectedReceiptHash]
    simp only [isBlank, List.all_nil, Bool.not_true, Bool.false_eq_true, if_false, receiptFile,
      passes_bind_iff, passes_need_iff, passes_pure_iff, Option.some.injEq, exists_eq_left']
    rw [hsidecar]
    exact firstToken_trim hne hplain
  rw [hashChecks]
  simp only [passes_bind_iff, passes_addCheck_iff]
  refine ⟨culture.upper hash, hexpected, ?_⟩
  show culture.eq (culture.upper hash) _ = true
  rw [trim_eq_self hplain, culture.upper_upper]
  exact culture.eq_refl _

/-- The checks of the second script on a receipt of the first one. -/
abbrev ApprovedReceipt (culture : Culture) (machine : Machine) (expected : Expected)
    (findings : Findings) (hash fileName protectedId protectedInf : Text) (plan : Plan) : Prop :=
  Approved culture machine ⟨[], false⟩
    (receiptFile culture machine expected findings hash fileName)
    (receiptOf culture machine expected findings) (findings.adapterDevices.map deviceTarget)
    (findings.publishedInfNames.map (packageTarget culture expected findings))
    findings.gameViewer protectedId protectedInf plan

theorem usable_of_approved {preInstall : PreInstall} {findings : Findings}
    {hash fileName protectedId protectedInf : Text} {plan : Plan}
    (h : Accepted culture machine expected preInstall findings)
    (hlisted : ∀ listed ∈ machine.devices, (machine.device listed.instanceId).isSome = true)
    (happroved : ApprovedReceipt culture machine expected findings hash fileName protectedId
      protectedInf plan) :
    Usable culture machine expected preInstall := by
  have hids : plan.instanceIds = findings.adapterDevices.map ParsecDevice.instanceId := by
    have hread := happroved.planned.instances_read
    rw [List.map_map] at hread
    refine (List.map_inj_right fun _ _ => Option.some.inj).1 (hread.symm.trans ?_)
    rw [List.map_map]
    rfl
  have hinfs : findings.publishedInfNames =
      publishedInfNames culture (adapterDevices culture machine expected) := by
    rw [h.infs, h.adapters]
  have hpackage : ∀ infName ∈ findings.publishedInfNames, culture.eq infName protectedInf = false ∧
      UsableRecords culture machine expected infName := by
    intro infName hmem
    have hchecks := happroved.packages_approved _ (List.mem_map_of_mem hmem)
    rw [hids] at hchecks
    exact (passes_packageChecks_receipt_iff h hmem).1 hchecks
  refine ⟨(passes_sourceArtifactChecks_receipt_iff h).1 happroved.genuine.artifact, ?_, ?_, ?_, ?_,
    ?_⟩
  · obtain ⟨monitors, hmonitors, -⟩ := passes_monitorChecks_iff.1 happroved.monitors
    rw [hmonitors]
    rfl
  · have hunique := happroved.planned.instances_unique
    rw [hids, List.length_map, ← List.length_map ParsecDevice.instanceId,
      SortUnique.length_sortUnique_iff, List.pairwise_map, h.adapters] at hunique
    exact hunique
  · intro baseline otherId hbaseline hother device hmem
    obtain rfl := Option.some.inj (h.game_viewer_read.symm.trans hbaseline)
    obtain rfl := Option.some.inj (happroved.baseline_instance.symm.trans hother)
    refine (passes_deviceChecks_receipt_iff hmem hlisted).1 (happroved.devices_approved _ ?_)
    rw [← h.adapters] at hmem
    exact List.mem_map_of_mem hmem
  · intro baseline otherInf hbaseline hother infName hmem
    obtain rfl := Option.some.inj (h.game_viewer_read.symm.trans hbaseline)
    obtain rfl := Option.some.inj (happroved.baseline_inf.symm.trans hother)
    exact (hpackage infName (hinfs ▸ hmem)).1
  · intro infName hmem
    exact (hpackage infName (hinfs ▸ hmem)).2

theorem approved_of_usable {preInstall : PreInstall} {findings : Findings}
    {hash fileName protectedId protectedInf : Text}
    (h : Accepted culture machine expected preInstall findings)
    (hne : culture.upper hash ≠ []) (hplain : ∀ c ∈ culture.upper hash, culture.isWhite c = false)
    (hlisted : ∀ listed ∈ machine.devices, (machine.device listed.instanceId).isSome = true)
    (hmonitors : ∀ monitors, machine.monitors = some monitors →
      ∀ instanceId ∈ monitors, isParsecMonitor culture instanceId = false)
    (hinstance : findings.gameViewer.instanceId = some protectedId)
    (hinf : findings.gameViewer.driverInfPath = some protectedInf)
    (husable : Usable culture machine expected preInstall) :
    ApprovedReceipt culture machine expected findings hash fileName protectedId protectedInf
      ⟨findings.adapterDevices.map ParsecDevice.instanceId, findings.publishedInfNames⟩ := by
  have hinfs : findings.publishedInfNames =
      publishedInfNames culture (adapterDevices culture machine expected) := by
    rw [h.infs, h.adapters]
  obtain ⟨monitors, hmonitorsRead⟩ := Option.isSome_iff_exists.1 husable.monitors
  have hplanned : Planned culture (findings.adapterDevices.map deviceTarget)
      (findings.publishedInfNames.map (packageTarget culture expected findings))
      ⟨findings.adapterDevices.map ParsecDevice.instanceId, findings.publishedInfNames⟩ := by
    refine ⟨fun hnil => h.adapters_there (List.map_eq_nil_iff.1 hnil),
      fun hnil => h.infs_there (List.map_eq_nil_iff.1 hnil), ?_, ?_, ?_, ?_⟩
    · rw [List.map_map, List.map_map]
      rfl
    · rw [List.length_map, ← List.length_map ParsecDevice.instanceId,
        SortUnique.length_sortUnique_iff, List.pairwise_map, h.adapters]
      exact husable.distinct
    · rw [List.map_map]
      rfl
    · rw [List.length_map, h.infs]
      exact SortUnique.length_sortUnique_sortUnique _
  refine {
    hash := passes_hashChecks hne hplain
    receipt_read := rfl
    genuine := ⟨⟨_, rfl, culture.eq_refl _⟩, ⟨_, rfl, culture.eq_refl _⟩,
      (passes_sourceArtifactChecks_receipt_iff h).2 husable.installer⟩
    devices_read := rfl
    packages_read := rfl
    planned := hplanned
    baseline_read := rfl
    game_viewer := h.game_viewer
    monitors := passes_monitorChecks_iff.2 ⟨monitors, hmonitorsRead,
      hmonitors monitors hmonitorsRead⟩
    baseline_instance := hinstance
    baseline_inf := hinf
    devices_approved := ?_
    packages_approved := ?_ }
  · intro target htarget
    obtain ⟨device, hmem, rfl⟩ := List.mem_map.1 htarget
    rw [h.adapters] at hmem
    exact (passes_deviceChecks_receipt_iff hmem hlisted).2
      (husable.adapters _ _ h.game_viewer_read hinstance device hmem)
  · intro target htarget
    obtain ⟨infName, hmem, rfl⟩ := List.mem_map.1 htarget
    exact (passes_packageChecks_receipt_iff h hmem).2
      ⟨husable.infs _ _ h.game_viewer_read hinf infName (hinfs ▸ hmem),
        husable.records infName (hinfs ▸ hmem)⟩

/-- **When a fresh receipt can be used.** On the machine on which it was written a dry run accepts
it if and only if the machine is `Usable`.  The hash is a word, listed devices are found by their
IDs, and no monitor of Parsec is active. -/
theorem dryRun_accepts_iff {preInstall : PreInstall} {hash fileName : Text} {file : ReceiptFile}
    (driver : Driver)
    (hemitted : newPostInstallReceipt culture machine expected (some (some preInstall)) hash
      fileName = some file)
    (hhash : culture.upper hash ≠ [] ∧ ∀ c ∈ culture.upper hash, culture.isWhite c = false)
    (hlisted : ∀ listed ∈ machine.devices, (machine.device listed.instanceId).isSome = true)
    (hmonitors : ∀ monitors, machine.monitors = some monitors →
      ∀ instanceId ∈ monitors, isParsecMonitor culture instanceId = false) :
    Accepts (invokeReceiptRollback culture machine driver ⟨[], false⟩ (some file)) ↔
      Usable culture machine expected preInstall := by
  obtain ⟨findings, h, rfl⟩ := newPostInstallReceipt_eq_some hemitted
  rw [accepts_iff]
  simp only [passes_preflight_iff]
  constructor
  · rintro ⟨plan, file', receipt, devices, packages, baseline, protectedId, protectedInf, hfile,
      happroved⟩
    obtain rfl := Option.some.inj hfile
    obtain rfl := Option.some.inj happroved.receipt_read
    obtain rfl := Option.some.inj happroved.devices_read
    obtain rfl := Option.some.inj happroved.packages_read
    obtain rfl := Option.some.inj happroved.baseline_read
    exact usable_of_approved h hlisted happroved
  · intro husable
    obtain ⟨protectedId, protectedInf, hinstance, hinf⟩ :=
      passes_gameViewerChecks_read h.game_viewer
    exact ⟨_, _, _, _, _, _, protectedId, protectedInf, rfl,
      approved_of_usable h hhash.1 hhash.2 hlisted hmonitors hinstance hinf husable⟩

/-- A report from before the installation. -/
def beforeInstall : PreInstall where
  schema := some (.text (text "MouseInterop.PreInstallSafety/2"))
  machineName := some (.text (text "DESKTOP-1"))
  overallPass := some (.flag true)
  existingParsecCount := some (.number 0)
  sourceArtifact := adapterReceipt.sourceArtifact
  gameViewer := adapterReceipt.gameViewer
  networkInterfaceAlias := some (text "Ethernet")
  reportId := some (.text (text "d2c1b0a9-0000-4000-8000-000000000001"))

def receiptName : Text := text "driver-install-receipt-20240101T000000000Z-0a1b2c3d.json"

theorem dryRun_accepts_iff_twoAdapters : ∃ file,
    newPostInstallReceipt asciiCulture twoAdapters {} (some (some beforeInstall)) receiptHash
      receiptName = some file ∧
    (Accepts (invokeReceiptRollback asciiCulture twoAdapters failingQuery ⟨[], false⟩ (some file)) ↔
      Usable asciiCulture twoAdapters {} beforeInstall) := by
  have hsome : (newPostInstallReceipt asciiCulture twoAdapters {} (some (some beforeInstall))
      receiptHash receiptName).isSome = true := by decide +kernel
  obtain ⟨file, hfile⟩ := Option.isSome_iff_exists.1 hsome
  have hword : (asciiCulture.upper receiptHash).all (fun c => !asciiCulture.isWhite c) = true := by
    decide +kernel
  refine ⟨file, hfile, dryRun_accepts_iff failingQuery hfile ⟨by decide +kernel, fun c hc => ?_⟩
    (by decide +kernel) ?_⟩
  · rw [← Bool.not_eq_true']
    exact List.all_eq_true.1 hword c hc
  · intro monitors hmonitors
    obtain rfl : [] = monitors := Option.some.inj hmonitors
    nofun

/-- A device that is no adapter and has the driver package of the adapter. -/
def audioRecord : SignedDriver :=
  { adapterRecord with
    deviceId := text "ROOT\\PARSEC\\0001"
    deviceName := text "Parsec Audio"
    hardwareId := text "Root\\Parsec\\Audio" }

/-- The machine with this device. -/
def sharedPackage : Machine :=
  { twoAdapters with
    devices := twoAdapters.devices ++
      [⟨audioRecord.deviceId, audioRecord.deviceName, text "OK", true⟩]
    device := fun instanceId =>
      if instanceId = audioRecord.deviceId then
        some ⟨audioRecord.deviceId, audioRecord.deviceName, text "OK", true⟩
      else twoAdapters.device instanceId
    properties := fun instanceId =>
      if instanceId = audioRecord.deviceId then
        [⟨text "DEVPKEY_Device_HardwareIds", [audioRecord.hardwareId]⟩,
          ⟨text "DEVPKEY_Device_DriverInfPath", [audioRecord.infName]⟩]
      else twoAdapters.properties instanceId
    signedDrivers := [adapterRecord, audioRecord] }

/-- A receipt is written for this machine, and the second script rejects it. -/
theorem not_accepts_sharedPackage : ∃ file,
    newPostInstallReceipt asciiCulture sharedPackage {} (some (some beforeInstall)) receiptHash
      receiptName = some file ∧ sharedPackage.monitors = some [] ∧
    ¬Accepts (invokeReceiptRollback asciiCulture sharedPackage failingQuery ⟨[], false⟩
      (some file)) := by
  have hrejected : (newPostInstallReceipt asciiCulture sharedPackage {} (some (some beforeInstall))
      receiptHash receiptName).any (fun file => !(invokeReceiptRollback asciiCulture sharedPackage
        failingQuery ⟨[], false⟩ (some file)).overallPass) = true := by decide +kernel
  obtain ⟨file, hfile, hfails⟩ := (Option.any_eq_true _ _).1 hrejected
  refine ⟨file, hfile, rfl, fun haccepts => ?_⟩
  rw [haccepts.overall] at hfails
  cases hfails

end SecondDisplay.PostInstallReceipt
