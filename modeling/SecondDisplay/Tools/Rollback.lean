import SecondDisplay.Tools.Safety

/-!
# Rolling back a driver installation (`tools/safety/Invoke-ReceiptRollback.ps1`)

The script reads a receipt, checks it against the machine and, with `-Apply`, removes the devices
and then the driver packages of the receipt.  The checks do not change the machine; they are
`preflight`.  `pnputil` and the query between removal and deletion are answered by a `Driver`, which
knows all commands that have run.
-/

namespace SecondDisplay.Rollback

open PowerShell Safety

/-! ### The receipt -/

/-- A device in a receipt; `none` is a property that is missing. -/
structure DeviceTarget where
  instanceId : Option Text
  hardwareIds : Option (List Text)
  driverInfPath : Option Text

/-- The signature in a package target. -/
structure Signature where
  isSigned : Option Datum
  signer : Option Text

/-- A driver package in a receipt. -/
structure PackageTarget where
  publishedInfName : Option Text
  driverVersion : Option Text
  providerName : Option Text
  hardwareId : Option Text
  signature : Option Signature

/-- A receipt as it is read from JSON. -/
structure Receipt where
  schema : Option Datum
  machineName : Option Datum
  sourceArtifact : Option Properties
  /-- `RollbackTargets.Devices`. -/
  devices : Option (List DeviceTarget)
  /-- `RollbackTargets.DriverPackages`. -/
  packages : Option (List PackageTarget)
  /-- `ProtectedBaseline.GameViewer`. -/
  gameViewer : Option GameViewerBaseline

/-- The file of a receipt. -/
structure ReceiptFile where
  hash : Text
  /-- `none` if it is not JSON. -/
  receipt : Option Receipt
  /-- The text of the `.sha256` file next to it, if there is one. -/
  sidecar : Option Text

/-- The parameters of the script. -/
structure Options where
  receiptSha256 : Text
  apply : Bool

/-- What is to be removed and deleted, in this order. -/
structure Plan where
  instanceIds : List Text
  infNames : List Text
deriving DecidableEq

variable (culture : Culture) (machine : Machine)

/-! ### The checks -/

/-- The checks of the installer that the receipt records. -/
def artifactChecks (artifact : Properties) : Audit Unit := do
  let sha256 ← read (artifact .sha256)
  addCheck (text "receipt.source-artifact.sha256") (culture.ceq (sha256.castText culture)
    (text "E23332448FDAF5AA017CB308DB5EF6855FAC526A7DED05D80C039404126D5362"))
  let status ← read (artifact .authenticodeStatus)
  addCheck (text "receipt.source-artifact.signature-status")
    (culture.ceq (status.castText culture) (text "Valid"))
  let signer ← read (artifact .signerThumbprint)
  addCheck (text "receipt.source-artifact.signer-thumbprint") (culture.ceq
    (signer.castText culture) (text "ED7876A8EAB9C88F7AFA770A00A4D5AE2A36059B"))
  let timestamp ← read (artifact .timestampThumbprint)
  addCheck (text "receipt.source-artifact.timestamp-thumbprint") (culture.ceq
    (timestamp.castText culture) (text "66F02B32C2C2C90F825DCEAA8AC9C64F199CCF40"))

/-- The checks of the installer. -/
def sourceArtifactChecks (sourceArtifact : Option Properties) : Audit Unit := do
  addCheck (text "receipt.source-artifact.present") sourceArtifact.isSome
  match sourceArtifact with
  | none => pure ()
  | some artifact => artifactChecks culture artifact

/-- The checks of a device target. -/
def deviceChecks (baselineInstanceId : Text) (target : DeviceTarget) : Audit Unit := do
  let instanceId ← read target.instanceId
  let identifierSafe := testNoWildcardToken culture instanceId &&
    !culture.eq instanceId baselineInstanceId
  addCheck (text "target.device.identifier." ++ instanceId) identifierSafe
  if identifierSafe then
    match machine.device instanceId with
    | none => addCheck (text "target.device.exists." ++ instanceId) false
    | some _ => do
      let properties := machine.properties instanceId
      let hardwareIds := getPnpPropertyValue culture properties "DEVPKEY_Device_HardwareIds"
      let receiptHardwareIds ← read target.hardwareIds
      let hardwareMatches := hardwareIds.any fun hardwareId =>
        receiptHardwareIds.any fun other => culture.eq other hardwareId
      let isApprovedParsec := hardwareIds.any fun hardwareId =>
        culture.eq hardwareId (text "Root\\Parsec\\VDA")
      addCheck (text "target.device.identity." ++ instanceId) (hardwareMatches && isApprovedParsec)
      let currentInf :=
        joined (getPnpPropertyValue culture properties "DEVPKEY_Device_DriverInfPath")
      let driverInfPath ← read target.driverInfPath
      addCheck (text "target.device.inf." ++ instanceId) (culture.eq currentInf driverInfPath)

/-- What is read of the signature in a package target. -/
def readSignature (signature : Option Signature) : Audit (Bool × Text) :=
  match signature with
  | none => pure (false, [])
  | some signature => do
    let isSigned ← read signature.isSigned
    let signer ← read signature.signer
    pure (isSigned.eqTrue culture, signer)

/-- The records of the package with an INF. -/
def recordsOf (infName : Text) : List SignedDriver :=
  machine.signedDrivers.filter fun record => culture.eq record.infName infName

/-- A record shows that the package is the one of the receipt. -/
def isIdentity (driverVersion providerName hardwareId receiptSigner : Text)
    (record : SignedDriver) : Bool :=
  culture.eq record.driverVersion driverVersion &&
    (isBlank culture providerName || culture.eq record.providerName providerName) &&
    record.isSigned == some true && culture.ceq record.signer receiptSigner &&
    (culture.eq record.hardwareId hardwareId ||
      culture.eq record.deviceName (text "Parsec Virtual Display Adapter"))

/-- The checks of a package target. -/
def packageChecks (baselineInf : Text) (receiptDeviceIds : List Text) (target : PackageTarget) :
    Audit Unit := do
  let infName ← read target.publishedInfName
  let identifierSafe := testNoWildcardToken culture infName && isPublishedInf culture infName &&
    !culture.eq infName baselineInf
  addCheck (text "target.package.identifier." ++ infName) identifierSafe
  if identifierSafe then do
    let (receiptIsSigned, receiptSigner) ← readSignature culture target.signature
    addCheck (text "receipt.package.is-signed." ++ infName) receiptIsSigned
    addCheck (text "receipt.package.signer." ++ infName) (!isBlank culture receiptSigner)
    let signedMatches := recordsOf culture machine infName
    addCheck (text "target.package.current-is-signed." ++ infName)
      (!signedMatches.isEmpty && signedMatches.all fun record => record.isSigned == some true)
    addCheck (text "target.package.current-signer." ++ infName)
      (!signedMatches.isEmpty &&
        (signedMatches.all fun record => culture.ceq record.signer receiptSigner) &&
        !isBlank culture receiptSigner)
    addCheck (text "target.package.consumer-scope." ++ infName)
      (signedMatches.all fun record => isBlank culture record.deviceId ||
        receiptDeviceIds.any fun instanceId => culture.eq instanceId record.deviceId)
    let driverVersion ← read target.driverVersion
    let providerName ← read target.providerName
    let hardwareId ← read target.hardwareId
    addCheck (text "target.package.identity." ++ infName)
      (signedMatches.any (isIdentity culture driverVersion providerName hardwareId receiptSigner))

/-- The hash that the receipt file is expected to have. -/
def expectedReceiptHash (options : Options) (file : ReceiptFile) : Audit Text :=
  if !isBlank culture options.receiptSha256 then pure options.receiptSha256
  else do
    let sidecar ← Logged.need .missingSidecar file.sidecar
    pure (firstToken culture (trim culture sidecar))

/-- The check of the receipt's hash. -/
def hashChecks (options : Options) (file : ReceiptFile) : Audit Unit := do
  let expected ← expectedReceiptHash culture options file
  addCheck (text "receipt.sha256")
    (culture.eq (culture.upper file.hash) (culture.upper (trim culture expected)))

/-- The checks of where the receipt comes from. -/
def originChecks (receipt : Receipt) : Audit Unit := do
  let schema ← read receipt.schema
  addCheck (text "receipt.schema") (schema.eqText culture (text "MouseInterop.DriverReceipt/2"))
  let machineName ← read receipt.machineName
  addCheck (text "receipt.machine") (machineName.eqText culture machine.machineName)
  sourceArtifactChecks culture receipt.sourceArtifact

/-- The checks of the lists of targets, and the plan that they are. -/
def planChecks (deviceTargets : List DeviceTarget) (packageTargets : List PackageTarget) :
    Audit Plan := do
  addCheck (text "receipt.device-targets.present") (!deviceTargets.isEmpty)
  addCheck (text "receipt.package-targets.present") (!packageTargets.isEmpty)
  let instanceIds ← Logged.needAll .missingProperty (deviceTargets.map DeviceTarget.instanceId)
  addCheck (text "receipt.device-targets.unique")
    ((SortUnique.sortUnique culture.order instanceIds).length == deviceTargets.length)
  let infNames ← Logged.needAll .missingProperty
    (packageTargets.map PackageTarget.publishedInfName)
  addCheck (text "receipt.package-targets.unique")
    ((SortUnique.sortUnique culture.order infNames).length == packageTargets.length)
  pure ⟨instanceIds, infNames⟩

/-- The checks of the monitors. -/
def monitorChecks : Audit Unit := do
  addCheck (text "runtime.parsec-monitor-query") machine.monitors.isSome
  addCheck (text "runtime.parsec-monitors.inactive")
    (machine.monitors.any fun monitors => !monitors.any (isParsecMonitor culture))

/-- All that is done before anything is removed. -/
def preflight (options : Options) (file : Option ReceiptFile) : Audit Plan := do
  let file ← Logged.need .missingFile file
  hashChecks culture options file
  let receipt ← Logged.need .notJson file.receipt
  originChecks culture machine receipt
  let deviceTargets ← read receipt.devices
  let packageTargets ← read receipt.packages
  let plan ← planChecks culture deviceTargets packageTargets
  let baseline ← read receipt.gameViewer
  gameViewerChecks culture machine baseline
  monitorChecks culture machine
  let baselineInstanceId ← read baseline.instanceId
  let baselineInf ← read baseline.driverInfPath
  Logged.forEach deviceTargets (deviceChecks culture machine baselineInstanceId)
  Logged.forEach packageTargets (packageChecks culture machine baselineInf plan.instanceIds)
  pure plan

/-! ### Execution -/

/-- A command of `pnputil`. -/
inductive Command where
  | removeDevice (instanceId : Text)
  | deleteDriver (infName : Text)
deriving DecidableEq

/-- The arguments of a command. -/
def Command.arguments : Command → List Text
  | .removeDevice instanceId => [text "/remove-device", instanceId]
  | .deleteDriver infName => [text "/delete-driver", infName]

/-- The commands that have run, with their exit codes; without one the call threw. -/
abbrev History := List (Command × Option Int)

/-- The answer of a query whose errors are not shown: some records, and whether it failed. -/
structure CimAnswer where
  records : List SignedDriver
  failed : Bool

/-- What happens between the commands. -/
structure Driver where
  /-- `pnputil`. -/
  pnputil : History → Command → Option Int
  /-- `Get-CimInstance -ClassName Win32_PnPSignedDriver -ErrorAction SilentlyContinue`; it may
  throw. -/
  afterRemoval : History → Option CimAnswer

variable (driver : Driver)

/-- A loop over `Invoke-ExactPnpUtil`, up to the first command that does not exit with 0; the flag
says that one threw. -/
def invokeEach (history : History) : List Command → History × Bool
  | [] => (history, false)
  | command :: commands =>
    match driver.pnputil history command with
    | none => (history ++ [(command, none)], true)
    | some exitCode =>
      if exitCode = 0 then invokeEach (history ++ [(command, some exitCode)]) commands
      else (history ++ [(command, some exitCode)], false)

/-- No result has an exit code other than 0. -/
def allZero (history : History) : Bool := history.all fun entry => entry.2 == some 0

/-- A record of the second query that still uses an INF. -/
def isRemainingConsumer (infName : Text) (record : SignedDriver) : Bool :=
  culture.eq record.infName infName && !isBlank culture record.deviceId

/-- The checks behind the second query. -/
def unusedChecks (records : List SignedDriver) (infNames : List Text) : List Check :=
  infNames.map fun infName => ⟨text "post-remove.package-unused." ++ infName,
    !records.any (isRemainingConsumer culture infName)⟩

/-- What the script did and reports. -/
structure Outcome where
  ran : History
  checks : List Check
  fault : Option Fault
  overallPass : Bool

/-- The report of a script that was stopped. -/
def stopped (ran : History) (checks : List Check) (fault : Fault) : Outcome :=
  ⟨ran, checks, some fault, false⟩

/-- The report at the end of the script. -/
def finished (options : Options) (ran : History) (checks : List Check) (allChecksPass : Bool) :
    Outcome :=
  let commandSuccess := !options.apply || (!ran.isEmpty && allZero ran)
  ⟨ran, checks, none, allChecksPass && commandSuccess⟩

/-- The commands of a plan. -/
def Plan.removals (plan : Plan) : List Command := plan.instanceIds.map .removeDevice

def Plan.deletions (plan : Plan) : List Command := plan.infNames.map .deleteDriver

/-- The execution of a plan whose checks passed. -/
def execute (options : Options) (plan : Plan) (checks : List Check) : Outcome :=
  let (removed, threw) := invokeEach driver [] plan.removals
  if threw then stopped removed checks .command
  else if allZero removed then
    match driver.afterRemoval removed with
    | none => stopped removed checks .query
    | some answer =>
      let unused := unusedChecks culture answer.records plan.infNames
      if unused.all Check.pass then
        let (deleted, threw) := invokeEach driver removed plan.deletions
        if threw then stopped deleted (checks ++ unused) .command
        else finished options deleted (checks ++ unused) true
      else finished options removed (checks ++ unused) false
  else finished options removed checks true

/-- `Invoke-ReceiptRollback`. -/
def invokeReceiptRollback (options : Options) (file : Option ReceiptFile) : Outcome :=
  let audit := preflight culture machine options file
  match audit.value with
  | .error fault => stopped [] audit.log fault
  | .ok plan =>
    let refused := options.apply && !machine.elevated
    let checks := if refused then audit.log ++ [⟨text "execution.elevated", false⟩] else audit.log
    let allChecksPass := audit.log.all Check.pass && !refused
    if options.apply && allChecksPass then execute culture driver options plan checks
    else finished options [] checks allChecksPass

end SecondDisplay.Rollback
