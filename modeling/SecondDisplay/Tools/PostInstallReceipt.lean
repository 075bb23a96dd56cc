import SecondDisplay.Tools.Rollback

/-!
# The receipt of an installation (`tools/safety/New-PostInstallReceipt.ps1`)

The script compares the machine with the report from before the installation, looks for the adapters
of Parsec and the records of their drivers, and writes a receipt if all checks pass.
-/

namespace SecondDisplay.PostInstallReceipt

open PowerShell Safety Rollback
open SortUnique (sortUnique)

/-- The report from before the installation; `none` is a property that is missing. -/
structure PreInstall where
  schema : Option Datum
  machineName : Option Datum
  overallPass : Option Datum
  /-- `ProtectedBaseline.ExistingParsec.TotalCount`. -/
  existingParsecCount : Option Datum
  sourceArtifact : Option Properties
  /-- `ProtectedBaseline.GameViewer`. -/
  gameViewer : Option GameViewerBaseline
  /-- `Inputs.NetworkInterfaceAlias`. -/
  networkInterfaceAlias : Option Text
  reportId : Option Datum

/-- The parameters of the script. -/
structure Expected where
  friendlyName : Text := text "Parsec Virtual Display Adapter"
  hardwareId : Text := text "Root\\Parsec\\VDA"

/-- The only value that `ExpectedParsecDriverVersion` may have. -/
def expectedDriverVersion : Text := text "0.45.0.0"

/-- What the receipt is made of. -/
structure Findings where
  artifact : InstallerSnapshot
  gameViewer : GameViewerBaseline
  adapterDevices : List ParsecDevice
  publishedInfNames : List Text
  signedByInf : List SignedDriver
  reportId : Option Datum

variable (culture : Culture) (machine : Machine) (expected : Expected)

/-! ### The installer -/

def artifactFields : List ArtifactField :=
  [.path, .length, .sha256, .fileVersion, .productVersion, .fileDescription, .productName,
    .companyName, .originalFilename, .authenticodeStatus, .signatureType, .signerSubject,
    .signerName, .signerThumbprint, .signerNotBeforeUtc, .signerNotAfterUtc, .timestampPresent,
    .timestampSubject, .timestampName, .timestampThumbprint, .timestampNotBeforeUtc,
    .timestampNotAfterUtc]

/-- The checks of a field. -/
def fieldChecks (baseline current : Properties) (field : ArtifactField) : Audit Unit :=
  let name := field.name.map Char.toLower
  match baseline field, current field with
  | some baselineValue, some currentValue => do
    addCheck (text "artifact.field-present." ++ name) true
    addCheck (text "artifact.unchanged." ++ name) (currentValue.ceq culture baselineValue)
  | _, _ => addCheck (text "artifact.field-present." ++ name) false

/-- The checks of the installer. -/
def artifactChecks (baseline : Properties) : Audit InstallerSnapshot := do
  let path ← read (baseline .path)
  let current ← Logged.need .query
    (getDriverInstallerSnapshot culture machine (path.castText culture))
  addCheck (text "artifact.still-present") current.found
  Logged.forEach artifactFields (fieldChecks culture baseline current.property)
  let status ← read (current.property .authenticodeStatus)
  addCheck (text "artifact.signature.still-valid") (status.ceq culture (.text (text "Valid")))
  let signerName ← read (current.property .signerName)
  addCheck (text "artifact.signature.signer-present")
    (!isBlank culture (signerName.castText culture))
  let timestampPresent ← read (current.property .timestampPresent)
  addCheck (text "artifact.signature.timestamp-present") timestampPresent.truth
  pure current

/-! ### The adapters -/

/-- A device has the expected hardware ID. -/
def hasExpectedHardwareId (device : ParsecDevice) : Bool :=
  device.hardwareIds.any fun hardwareId => culture.eq hardwareId expected.hardwareId

/-- The devices that go into the receipt. -/
def adapterDevices : List ParsecDevice :=
  (parsecDevices culture machine).filter fun device =>
    culture.eq device.friendlyName expected.friendlyName ||
      hasExpectedHardwareId culture expected device

/-- The checks of the adapters. -/
def adapterChecks (devices : List ParsecDevice) : Audit Unit := do
  addCheck (text "parsec.adapter.present") (!devices.isEmpty)
  addCheck (text "parsec.adapter.status") (!devices.isEmpty && devices.all fun device =>
    device.present && culture.eq device.status (text "OK"))
  addCheck (text "parsec.adapter.hardware-id")
    (!devices.isEmpty && devices.all (hasExpectedHardwareId culture expected))
  addCheck (text "parsec.driver.version") (!devices.isEmpty && devices.all fun device =>
    culture.eq device.driverVersion expectedDriverVersion)

/-- `Sort-Object -Unique` on the INFs of devices. -/
def publishedInfNames (devices : List ParsecDevice) : List Text :=
  sortUnique culture.order (devices.map ParsecDevice.driverInfPath)

/-- The records of Parsec with one of the INFs. -/
def signedByInf (infNames : List Text) : List SignedDriver :=
  (parsecSignedDrivers culture machine).filter fun record =>
    infNames.any fun infName => culture.eq infName record.infName

/-- Those with one INF. -/
def infRecords (records : List SignedDriver) (infName : Text) : List SignedDriver :=
  records.filter fun record => culture.eq record.infName infName

/-- The checks of the records with an INF. -/
def signatureChecks (records : List SignedDriver) (infName : Text) : Audit Unit := do
  let infRecords := infRecords culture records infName
  let distinctSigners := sortUnique culture.order
    ((infRecords.map SignedDriver.signer).filter fun signer => !isBlank culture signer)
  addCheck (text "parsec.driver.signature-record." ++ infName) (!infRecords.isEmpty)
  addCheck (text "parsec.driver.is-signed." ++ infName)
    (!infRecords.isEmpty && infRecords.all fun record => record.isSigned == some true)
  addCheck (text "parsec.driver.signer-present." ++ infName)
    (!infRecords.isEmpty && infRecords.all fun record => !isBlank culture record.signer)
  addCheck (text "parsec.driver.signer-consistent." ++ infName) (distinctSigners.length == 1)

/-! ### The script -/

/-- The checks of the report from before the installation. -/
def baselineChecks (preInstall : PreInstall) : Audit Unit := do
  let schema ← read preInstall.schema
  addCheck (text "baseline.schema")
    (schema.eqText culture (text "MouseInterop.PreInstallSafety/2"))
  let machineName ← read preInstall.machineName
  addCheck (text "baseline.machine") (machineName.eqText culture machine.machineName)
  let overallPass ← read preInstall.overallPass
  addCheck (text "baseline.passed") overallPass.truth
  let totalCount ← read preInstall.existingParsecCount
  let count ← Logged.need .conversion (totalCount.toInt culture)
  addCheck (text "baseline.parsec-empty") (count == 0)

/-- The checks of the network. -/
def networkChecks (networkAlias : Text) : Audit Unit :=
  let networks := getNetworkProfileSnapshot culture machine networkAlias
  addCheck (text "network.still-private") (!networks.isEmpty && networks.all fun profile =>
    culture.eq profile.networkCategory (text "Private"))

/-- The checks of the drivers of the adapters. -/
def driverChecks (infNames : List Text) (records : List SignedDriver) : Audit Unit := do
  addCheck (text "parsec.driver.published-inf")
    (!infNames.isEmpty && infNames.all (isPublishedInf culture))
  addCheck (text "parsec.driver.signed-record") (!records.isEmpty)
  Logged.forEach infNames (signatureChecks culture records)

/-- All that is done before the receipt is written. -/
def postInstallAudit (preInstall : Option (Option PreInstall)) : Audit Findings := do
  let file ← Logged.need .missingFile preInstall
  let preInstall ← Logged.need .notJson file
  baselineChecks culture machine preInstall
  let baselineArtifact ← read preInstall.sourceArtifact
  let currentArtifact ← artifactChecks culture machine baselineArtifact
  let baselineGameViewer ← read preInstall.gameViewer
  gameViewerChecks culture machine baselineGameViewer
  let networkAlias ← read preInstall.networkInterfaceAlias
  networkChecks culture machine networkAlias
  let adapters := adapterDevices culture machine expected
  adapterChecks culture expected adapters
  let infNames := publishedInfNames culture adapters
  let records := signedByInf culture machine infNames
  driverChecks culture infNames records
  pure ⟨currentArtifact, baselineGameViewer, adapters, infNames, records, preInstall.reportId⟩

/-- A device in the receipt. -/
def deviceTarget (device : ParsecDevice) : DeviceTarget :=
  ⟨some device.instanceId, some device.hardwareIds, some device.driverInfPath⟩

/-- A package in the receipt. -/
def packageTarget (findings : Findings) (infName : Text) : PackageTarget :=
  let signed := infRecords culture findings.signedByInf infName
  let signers := sortUnique culture.order (signed.map SignedDriver.signer)
  { publishedInfName := some infName
    driverVersion := some (signed.head?.elim expectedDriverVersion SignedDriver.driverVersion)
    providerName := signed.head?.elim
      (findings.adapterDevices.head?.map ParsecDevice.driverProvider)
      fun record => some record.providerName
    hardwareId := some expected.hardwareId
    signature := some {
      isSigned := some (.flag true)
      -- `[string]` of the null that stands there otherwise is empty
      signer := some (if signers.length = 1 then signers.head?.getD [] else []) } }

/-- The receipt, as it is read back. -/
def receiptOf (findings : Findings) : Receipt where
  schema := some (.text (text "MouseInterop.DriverReceipt/2"))
  machineName := some (.text machine.machineName)
  sourceArtifact := some findings.artifact.property
  devices := some (findings.adapterDevices.map deviceTarget)
  packages := some (findings.publishedInfNames.map (packageTarget culture expected findings))
  gameViewer := some findings.gameViewer

/-- The file of the receipt with the file of its hash next to it. -/
def receiptFile (findings : Findings) (hash fileName : Text) : ReceiptFile where
  hash := hash
  receipt := some (receiptOf culture machine expected findings)
  sidecar := some (culture.upper hash ++ text "  " ++ fileName ++ text "\r\n")

/-- `New-PostInstallReceipt`: the file that it writes, if it writes one.  `hash` is what
`Get-FileHash` gives for it. -/
def newPostInstallReceipt (preInstall : Option (Option PreInstall)) (hash fileName : Text) :
    Option ReceiptFile :=
  let audit := postInstallAudit culture machine expected preInstall
  match audit.value with
  | .error _ => none
  | .ok findings =>
    if audit.log.all Check.pass then
      -- `$preInstall.ReportId` is read when the receipt is built
      findings.reportId.map fun _ => receiptFile culture machine expected findings hash fileName
    else none

end SecondDisplay.PostInstallReceipt
