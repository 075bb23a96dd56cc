import SecondDisplay.Tools.Rollback

/-!
# What the checks of a rollback approve (`tools/safety/Invoke-ReceiptRollback.ps1`)

The checks of the script are spread over a long body with early exits.  Here it is said once what it
means that they all pass: for one device target, for one package target and for the whole receipt
(`passes_preflight_iff`).
-/

namespace SecondDisplay.Rollback

open PowerShell Safety Logged

variable {culture : Culture} {machine : Machine}

/-! ### What the checks say -/

/-- What it means that the checks of a device target pass. -/
structure DeviceApproved (culture : Culture) (machine : Machine) (baselineInstanceId : Text)
    (target : DeviceTarget) (instanceId : Text) (hardwareIds : List Text) (inf : Text) : Prop where
  instance_read : target.instanceId = some instanceId
  hardware_read : target.hardwareIds = some hardwareIds
  inf_read : target.driverInfPath = some inf
  no_wildcard : testNoWildcardToken culture instanceId = true
  not_protected : culture.eq instanceId baselineInstanceId = false
  there : (machine.device instanceId).isSome = true
  hardware : ((getPnpPropertyValue culture (machine.properties instanceId)
    "DEVPKEY_Device_HardwareIds").any fun hardwareId =>
      hardwareIds.any fun other => culture.eq other hardwareId) = true
  approved : ((getPnpPropertyValue culture (machine.properties instanceId)
    "DEVPKEY_Device_HardwareIds").any fun hardwareId =>
      culture.eq hardwareId (text "Root\\Parsec\\VDA")) = true
  same_inf : culture.eq (joined (getPnpPropertyValue culture (machine.properties instanceId)
    "DEVPKEY_Device_DriverInfPath")) inf = true

theorem passes_deviceChecks_iff {baselineInstanceId : Text} {target : DeviceTarget} :
    Passes (deviceChecks culture machine baselineInstanceId target) () ↔
      ∃ instanceId hardwareIds inf, DeviceApproved culture machine baselineInstanceId target
        instanceId hardwareIds inf := by
  rw [deviceChecks]
  simp only [passes_bind_iff, passes_read_iff, passes_addCheck_iff, Bool.and_eq_true,
    Bool.not_eq_true']
  constructor
  · rintro ⟨instanceId, hinstance, -, hsafe, hrest⟩
    rw [if_pos hsafe] at hrest
    cases hdevice : machine.device instanceId with
    | none =>
      rw [hdevice] at hrest
      simp only [passes_addCheck_iff, Bool.false_eq_true] at hrest
    | some device =>
      rw [hdevice] at hrest
      simp only [passes_bind_iff, passes_read_iff, passes_addCheck_iff, Bool.and_eq_true] at hrest
      obtain ⟨hardwareIds, hhardware, -, ⟨hmatches, happroved⟩, inf, hinf, hsame⟩ := hrest
      exact ⟨instanceId, hardwareIds, inf, hinstance, hhardware, hinf, hsafe.1, hsafe.2,
        by rw [hdevice]; rfl, hmatches, happroved, hsame⟩
  · rintro ⟨instanceId, hardwareIds, inf, h⟩
    have hsafe := And.intro h.no_wildcard h.not_protected
    obtain ⟨device, hdevice⟩ := Option.isSome_iff_exists.1 h.there
    refine ⟨instanceId, h.instance_read, (), hsafe, ?_⟩
    rw [if_pos hsafe, hdevice]
    simp only [passes_bind_iff, passes_read_iff, passes_addCheck_iff, Bool.and_eq_true]
    exact ⟨hardwareIds, h.hardware_read, (), ⟨h.hardware, h.approved⟩, inf, h.inf_read, h.same_inf⟩

/-- What it means that the checks of a package target pass. -/
structure PackageApproved (culture : Culture) (machine : Machine) (baselineInf : Text)
    (receiptDeviceIds : List Text) (target : PackageTarget) (infName signer : Text) : Prop where
  name_read : target.publishedInfName = some infName
  no_wildcard : testNoWildcardToken culture infName = true
  published : isPublishedInf culture infName = true
  not_protected : culture.eq infName baselineInf = false
  signature_read : ∃ isSigned, target.signature = some ⟨some isSigned, some signer⟩ ∧
    isSigned.eqTrue culture = true
  signer_there : isBlank culture signer = false
  found : recordsOf culture machine infName ≠ []
  signed : ∀ record ∈ recordsOf culture machine infName, record.isSigned = some true
  same_signer : ∀ record ∈ recordsOf culture machine infName,
    culture.ceq record.signer signer = true
  in_scope : ∀ record ∈ recordsOf culture machine infName, isBlank culture record.deviceId = true ∨
    ∃ instanceId ∈ receiptDeviceIds, culture.eq instanceId record.deviceId = true
  identity : ∃ driverVersion providerName hardwareId,
    target.driverVersion = some driverVersion ∧ target.providerName = some providerName ∧
      target.hardwareId = some hardwareId ∧ ∃ record ∈ recordsOf culture machine infName,
        isIdentity culture driverVersion providerName hardwareId signer record = true

theorem passes_readSignature_iff {signature : Option Signature} {isSigned : Bool} {signer : Text} :
    Passes (readSignature culture signature) (isSigned, signer) ↔
      (signature = none ∧ isSigned = false ∧ signer = []) ∨
        ∃ value, signature = some ⟨some value, some signer⟩ ∧ value.eqTrue culture = isSigned := by
  cases signature with
  | none =>
    rw [readSignature]
    simp only [passes_pure_iff, Prod.mk.injEq, true_and, reduceCtorEq, false_and, exists_false,
      or_false]
    exact and_congr eq_comm eq_comm
  | some signature =>
    obtain ⟨signed, name⟩ := signature
    rw [readSignature]
    simp only [passes_bind_iff, passes_read_iff, passes_pure_iff, Prod.mk.injEq, reduceCtorEq,
      false_and, false_or, Option.some.injEq, Signature.mk.injEq]
    constructor
    · rintro ⟨value, hvalue, name', hname, htrue, rfl⟩
      exact ⟨value, ⟨hvalue, hname⟩, htrue⟩
    · rintro ⟨value, ⟨hvalue, hname⟩, htrue⟩
      exact ⟨value, hvalue, signer, hname, htrue, rfl⟩

theorem passes_packageChecks_iff {baselineInf : Text} {receiptDeviceIds : List Text}
    {target : PackageTarget} :
    Passes (packageChecks culture machine baselineInf receiptDeviceIds target) () ↔
      ∃ infName signer, PackageApproved culture machine baselineInf receiptDeviceIds target infName
        signer := by
  rw [packageChecks]
  simp only [passes_bind_iff, passes_read_iff, passes_addCheck_iff, Bool.and_eq_true,
    Bool.not_eq_true', and_assoc]
  constructor
  · rintro ⟨infName, hname, -, hwildcard, hpublished, hprotected, hrest⟩
    rw [if_pos ⟨hwildcard, hpublished, hprotected⟩] at hrest
    simp only [passes_bind_iff, passes_read_iff, passes_addCheck_iff, Bool.and_eq_true,
      Bool.not_eq_true', List.isEmpty_eq_false_iff, List.all_eq_true, List.any_eq_true,
      beq_iff_eq, Bool.or_eq_true, Prod.exists, and_assoc] at hrest
    obtain ⟨isSigned, signer, hsignature, -, rfl, -, hblank, -, hfound, hsigned, -, -, hsame, -, -,
      hscope, version, hversion, provider, hprovider, hardware, hhardware, record, hrecord,
      hidentity⟩ := hrest
    obtain ⟨-, hno, -⟩ | ⟨value, htarget, htrue⟩ := passes_readSignature_iff.1 hsignature
    · cases hno
    · exact ⟨infName, signer, hname, hwildcard, hpublished, hprotected, ⟨value, htarget, htrue⟩,
        hblank, hfound, hsigned, hsame, hscope, version, provider, hardware, hversion, hprovider,
        hhardware, record, hrecord, hidentity⟩
  · rintro ⟨infName, signer, h⟩
    obtain ⟨value, htarget, htrue⟩ := h.signature_read
    obtain ⟨version, provider, hardware, hversion, hprovider, hhardware, record, hrecord,
      hidentity⟩ := h.identity
    refine ⟨infName, h.name_read, (), h.no_wildcard, h.published, h.not_protected, ?_⟩
    rw [if_pos ⟨h.no_wildcard, h.published, h.not_protected⟩]
    simp only [passes_bind_iff, passes_read_iff, passes_addCheck_iff, Bool.and_eq_true,
      Bool.not_eq_true', List.isEmpty_eq_false_iff, List.all_eq_true, List.any_eq_true,
      beq_iff_eq, Bool.or_eq_true, Prod.exists, and_assoc]
    exact ⟨true, signer, passes_readSignature_iff.2 (.inr ⟨value, htarget, htrue⟩), (), rfl, (),
      h.signer_there, (), h.found, h.signed, (), h.found, h.same_signer, h.signer_there, (),
      h.in_scope, version, hversion, provider, hprovider, hardware, hhardware, record, hrecord,
      hidentity⟩

theorem passes_sourceArtifactChecks_iff {sourceArtifact : Option Properties} :
    Passes (sourceArtifactChecks culture sourceArtifact) () ↔
      ∃ artifact, sourceArtifact = some artifact ∧ Passes (artifactChecks culture artifact) () := by
  cases sourceArtifact with
  | none =>
    rw [sourceArtifactChecks]
    simp only [passes_bind_iff, passes_addCheck_iff, Option.isSome_none, Bool.false_eq_true,
      false_and, exists_const, reduceCtorEq]
  | some artifact =>
    rw [sourceArtifactChecks]
    simp only [passes_bind_iff, passes_addCheck_iff, Option.isSome_some, true_and, exists_const,
      Option.some.injEq, exists_eq_left']

theorem passes_monitorChecks_iff : Passes (monitorChecks culture machine) () ↔
    ∃ monitors, machine.monitors = some monitors ∧
      ∀ instanceId ∈ monitors, isParsecMonitor culture instanceId = false := by
  rw [monitorChecks]
  simp only [passes_bind_iff, passes_addCheck_iff]
  cases machine.monitors with
  | none => simp
  | some monitors => simp

/-- What it means that the checks of the lists of targets pass. -/
structure Planned (culture : Culture) (devices : List DeviceTarget) (packages : List PackageTarget)
    (plan : Plan) : Prop where
  devices_there : devices ≠ []
  packages_there : packages ≠ []
  instances_read : devices.map DeviceTarget.instanceId = plan.instanceIds.map some
  instances_unique :
    (SortUnique.sortUnique culture.order plan.instanceIds).length = devices.length
  infs_read : packages.map PackageTarget.publishedInfName = plan.infNames.map some
  infs_unique : (SortUnique.sortUnique culture.order plan.infNames).length = packages.length

theorem passes_planChecks_iff {devices : List DeviceTarget} {packages : List PackageTarget}
    {plan : Plan} :
    Passes (planChecks culture devices packages) plan ↔ Planned culture devices packages plan := by
  rw [planChecks]
  simp only [passes_bind_iff, passes_needAll_iff, passes_addCheck_iff, passes_pure_iff,
    Bool.not_eq_true', List.isEmpty_eq_false_iff, beq_iff_eq]
  constructor
  · rintro ⟨-, hdevices, -, hpackages, instanceIds, hinstances, -, hunique, infNames, hinfs, -,
      hinfsUnique, rfl⟩
    exact ⟨hdevices, hpackages, hinstances, hunique, hinfs, hinfsUnique⟩
  · intro h
    exact ⟨(), h.devices_there, (), h.packages_there, plan.instanceIds, h.instances_read, (),
      h.instances_unique, plan.infNames, h.infs_read, (), h.infs_unique, rfl⟩

/-- What it means that the checks of where a receipt comes from pass. -/
structure Genuine (culture : Culture) (machine : Machine) (receipt : Receipt) : Prop where
  schema : ∃ schema, receipt.schema = some schema ∧
    schema.eqText culture (text "MouseInterop.DriverReceipt/2") = true
  machine_name : ∃ machineName, receipt.machineName = some machineName ∧
    machineName.eqText culture machine.machineName = true
  artifact : Passes (sourceArtifactChecks culture receipt.sourceArtifact) ()

theorem passes_originChecks_iff {receipt : Receipt} :
    Passes (originChecks culture machine receipt) () ↔ Genuine culture machine receipt := by
  rw [originChecks]
  simp only [passes_bind_iff, passes_read_iff, passes_addCheck_iff]
  constructor
  · rintro ⟨schema, hschema, -, hschemaEq, machineName, hname, -, hnameEq, hartifact⟩
    exact ⟨⟨schema, hschema, hschemaEq⟩, ⟨machineName, hname, hnameEq⟩, hartifact⟩
  · intro h
    obtain ⟨schema, hschema, hschemaEq⟩ := h.schema
    obtain ⟨machineName, hname, hnameEq⟩ := h.machine_name
    exact ⟨schema, hschema, (), hschemaEq, machineName, hname, (), hnameEq, h.artifact⟩

/-- What it means that all checks before the execution pass. -/
structure Approved (culture : Culture) (machine : Machine) (options : Options)
    (file : ReceiptFile) (receipt : Receipt) (devices : List DeviceTarget)
    (packages : List PackageTarget) (baseline : GameViewerBaseline)
    (baselineInstanceId baselineInf : Text) (plan : Plan) : Prop where
  hash : Passes (hashChecks culture options file) ()
  receipt_read : file.receipt = some receipt
  genuine : Genuine culture machine receipt
  devices_read : receipt.devices = some devices
  packages_read : receipt.packages = some packages
  planned : Planned culture devices packages plan
  baseline_read : receipt.gameViewer = some baseline
  game_viewer : Passes (gameViewerChecks culture machine baseline) ()
  monitors : Passes (monitorChecks culture machine) ()
  baseline_instance : baseline.instanceId = some baselineInstanceId
  baseline_inf : baseline.driverInfPath = some baselineInf
  devices_approved : ∀ target ∈ devices,
    Passes (deviceChecks culture machine baselineInstanceId target) ()
  packages_approved : ∀ target ∈ packages,
    Passes (packageChecks culture machine baselineInf plan.instanceIds target) ()

/-- **What the checks approve.** -/
theorem passes_preflight_iff {options : Options} {file : Option ReceiptFile} {plan : Plan} :
    Passes (preflight culture machine options file) plan ↔
      ∃ file' receipt devices packages baseline baselineInstanceId baselineInf,
        file = some file' ∧ Approved culture machine options file' receipt devices packages baseline
          baselineInstanceId baselineInf plan := by
  rw [preflight]
  simp only [passes_bind_iff, passes_need_iff, passes_read_iff, passes_forEach_iff,
    passes_pure_iff, passes_planChecks_iff]
  constructor
  · rintro ⟨file', rfl, ⟨⟩, hhash, receipt, hreceipt, ⟨⟩, horigin, devices, hdevices, packages,
      hpackages, plan', hplan, baseline, hbaseline, ⟨⟩, hgameViewer, ⟨⟩, hmonitors, instanceId,
      hinstance, inf, hinf, ⟨⟩, hdevicesApproved, ⟨⟩, hpackagesApproved, rfl⟩
    exact ⟨file', receipt, devices, packages, baseline, instanceId, inf, rfl, hhash, hreceipt,
      passes_originChecks_iff.1 horigin, hdevices, hpackages, hplan, hbaseline, hgameViewer,
      hmonitors, hinstance, hinf, hdevicesApproved, hpackagesApproved⟩
  · rintro ⟨file', receipt, devices, packages, baseline, instanceId, inf, rfl, h⟩
    exact ⟨file', rfl, (), h.hash, receipt, h.receipt_read, (),
      passes_originChecks_iff.2 h.genuine, devices, h.devices_read, packages, h.packages_read, plan,
      h.planned, baseline, h.baseline_read, (), h.game_viewer, (), h.monitors, instanceId,
      h.baseline_instance, inf, h.baseline_inf, (), h.devices_approved, (), h.packages_approved,
      rfl⟩

end SecondDisplay.Rollback
