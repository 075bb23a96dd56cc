import SecondDisplay.Library.Logged
import SecondDisplay.Tools.PowerShell

/-!
# What the safety scripts ask the machine (`tools/safety/Safety.Common.ps1`)

`Machine` has the answers to the queries of the scripts, each property as the text that `[string]`
makes of it.  The snapshots are taken from them as the common functions do it.
-/

namespace SecondDisplay.Safety

open PowerShell

/-! ### The machine -/

/-- A device as `Get-PnpDevice` returns it. -/
structure PnpDevice where
  instanceId : Text
  friendlyName : Text
  status : Text
  present : Bool

/-- A property of a device; `data` has one text for a string, several for an array and none for
null. -/
structure PnpProperty where
  keyName : Text
  data : List Text

/-- A record of `Win32_PnPSignedDriver`. -/
structure SignedDriver where
  deviceId : Text
  deviceName : Text
  infName : Text
  driverVersion : Text
  providerName : Text
  manufacturer : Text
  hardwareId : Text
  isSigned : Option Bool
  signer : Text

/-- A directory of the driver store with the INF and the DLL of GameViewer. -/
structure RepositoryDll where
  /-- The version behind `DriverVer` in the INF. -/
  version : Text
  /-- The hash of the DLL. -/
  hash : Text

/-- A connection profile of the network. -/
structure NetworkProfile where
  interfaceAlias : Text
  networkCategory : Text
  ipv4Connectivity : Text
  ipv6Connectivity : Text

/-- A certificate in the signature of an installer. -/
structure Certificate where
  subject : Text
  simpleName : Text
  thumbprint : Text
  notBefore : Text
  notAfter : Text

/-- A file with its version information and signature. -/
structure InstallerFile where
  length : Int
  hash : Text
  fileVersion : Text
  productVersion : Text
  fileDescription : Text
  productName : Text
  companyName : Text
  originalFilename : Text
  status : Text
  signatureType : Text
  signer : Option Certificate
  timestamp : Option Certificate

/-- The answers of the operating system.  Where a query may throw, `none` is that it does. -/
structure Machine where
  /-- `[Environment]::MachineName`. -/
  machineName : Text
  /-- `Get-PnpDevice`. -/
  devices : List PnpDevice
  /-- `Get-PnpDevice -InstanceId`. -/
  device : Text → Option PnpDevice
  /-- `Get-PnpDeviceProperty -InstanceId`. -/
  properties : Text → List PnpProperty
  /-- `Get-CimInstance -ClassName Win32_PnPSignedDriver`. -/
  signedDrivers : List SignedDriver
  /-- `Get-PnpDevice -Class Monitor -PresentOnly -ErrorAction Stop`: the instance IDs. -/
  monitors : Option (List Text)
  /-- The hash of the file at a path, if one is there. -/
  fileHash : Text → Option (Option Text)
  /-- The directories of the driver store. -/
  repositoryDlls : List RepositoryDll
  /-- `Get-NetConnectionProfile`. -/
  networkProfiles : List NetworkProfile
  /-- The full path of a file, and the file if one is there. -/
  installer : Text → Option (Text × Option InstallerFile)
  /-- `Test-IsElevated`. -/
  elevated : Bool

variable (culture : Culture) (machine : Machine)

/-! ### Devices -/

/-- `Get-PnpPropertyValue`, with `ConvertTo-StringArray`. -/
def getPnpPropertyValue (properties : List PnpProperty) (keyName : String) : List Text :=
  match properties.find? fun property => culture.eq property.keyName (text keyName) with
  | none => []
  | some property => property.data

/-- `[string]` of an array. -/
def joined (data : List Text) : Text := [' '].intercalate data

/-- What is recorded of the protected GameViewer device; `none` is a property that is missing. -/
structure GameViewerBaseline where
  instanceId : Option Text
  driverVersion : Option Text
  dllSha256 : Option Text
  dllPath : Option Text
  driverInfPath : Option Text

/-- What `Get-GameViewerSnapshot` returns. -/
structure GameViewerSnapshot where
  found : Bool
  present : Bool
  status : Option Text
  driverInfPath : Text
  driverVersion : Text
  dllSha256 : Option Text

/-- `Get-GameViewerSnapshot`. -/
def getGameViewerSnapshot (instanceId expectedVersion expectedDllSha256 gameViewerDllPath : Text) :
    Option GameViewerSnapshot := do
  let device := machine.device instanceId
  let properties := if device.isSome then machine.properties instanceId else []
  let dllCandidates ←
    if !isBlank culture gameViewerDllPath then
      (machine.fileHash gameViewerDllPath).map fun hash => (hash.map culture.upper).toList
    else
      some ((machine.repositoryDlls.filter fun dll => culture.eq dll.version expectedVersion).map
        fun dll => culture.upper dll.hash)
  let expectedHash := culture.upper (trim culture expectedDllSha256)
  let matchingDlls := dllCandidates.filter fun hash => culture.eq hash expectedHash
  some {
    found := device.isSome
    present := device.any fun device => device.present
    status := device.map fun device => device.status
    driverInfPath := joined (getPnpPropertyValue culture properties "DEVPKEY_Device_DriverInfPath")
    driverVersion := joined (getPnpPropertyValue culture properties "DEVPKEY_Device_DriverVersion")
    dllSha256 := if matchingDlls.length = 1 then matchingDlls.head? else none }

/-- `Get-NetworkProfileSnapshot`. -/
def getNetworkProfileSnapshot (interfaceAlias : Text) : List NetworkProfile :=
  if !isBlank culture interfaceAlias then
    machine.networkProfiles.filter fun profile => culture.eq profile.interfaceAlias interfaceAlias
  else
    machine.networkProfiles.filter fun profile =>
      !culture.eq profile.ipv4Connectivity (text "Disconnected") ||
        !culture.eq profile.ipv6Connectivity (text "Disconnected")

/-! ### The installer -/

/-- A property of the snapshot of an installer. -/
inductive ArtifactField where
  | path
  | length
  | sha256
  | fileVersion
  | productVersion
  | fileDescription
  | productName
  | companyName
  | originalFilename
  | authenticodeStatus
  | signatureType
  | signerSubject
  | signerName
  | signerThumbprint
  | signerNotBeforeUtc
  | signerNotAfterUtc
  | timestampPresent
  | timestampSubject
  | timestampName
  | timestampThumbprint
  | timestampNotBeforeUtc
  | timestampNotAfterUtc
deriving DecidableEq

/-- The name of the property. -/
def ArtifactField.name : ArtifactField → Text
  | .path => text "Path"
  | .length => text "Length"
  | .sha256 => text "Sha256"
  | .fileVersion => text "FileVersion"
  | .productVersion => text "ProductVersion"
  | .fileDescription => text "FileDescription"
  | .productName => text "ProductName"
  | .companyName => text "CompanyName"
  | .originalFilename => text "OriginalFilename"
  | .authenticodeStatus => text "AuthenticodeStatus"
  | .signatureType => text "SignatureType"
  | .signerSubject => text "SignerSubject"
  | .signerName => text "SignerName"
  | .signerThumbprint => text "SignerThumbprint"
  | .signerNotBeforeUtc => text "SignerNotBeforeUtc"
  | .signerNotAfterUtc => text "SignerNotAfterUtc"
  | .timestampPresent => text "TimestampPresent"
  | .timestampSubject => text "TimestampSubject"
  | .timestampName => text "TimestampName"
  | .timestampThumbprint => text "TimestampThumbprint"
  | .timestampNotBeforeUtc => text "TimestampNotBeforeUtc"
  | .timestampNotAfterUtc => text "TimestampNotAfterUtc"

/-- The properties of the snapshot of an installer, as far as they are there. -/
abbrev Properties := ArtifactField → Option Datum

/-- What `Get-DriverInstallerSnapshot` returns. -/
structure InstallerSnapshot where
  found : Bool
  property : Properties

/-- A property of a certificate that may be missing. -/
def certificateValue (certificate : Option Certificate) (value : Certificate → Text) : Datum :=
  certificate.elim .null fun certificate => .text (value certificate)

/-- What is recorded of a file with its full path. -/
def installerProperty (fullPath : Text) (file : InstallerFile) : ArtifactField → Datum
  | .path => .text fullPath
  | .length => .number file.length
  | .sha256 => .text (culture.upper file.hash)
  | .fileVersion => .text file.fileVersion
  | .productVersion => .text file.productVersion
  | .fileDescription => .text file.fileDescription
  | .productName => .text file.productName
  | .companyName => .text file.companyName
  | .originalFilename => .text file.originalFilename
  | .authenticodeStatus => .text file.status
  | .signatureType => .text file.signatureType
  | .signerSubject => certificateValue file.signer Certificate.subject
  | .signerName => certificateValue file.signer Certificate.simpleName
  | .signerThumbprint =>
    certificateValue file.signer fun certificate => culture.upper certificate.thumbprint
  | .signerNotBeforeUtc => certificateValue file.signer Certificate.notBefore
  | .signerNotAfterUtc => certificateValue file.signer Certificate.notAfter
  | .timestampPresent => .flag file.timestamp.isSome
  | .timestampSubject => certificateValue file.timestamp Certificate.subject
  | .timestampName => certificateValue file.timestamp Certificate.simpleName
  | .timestampThumbprint =>
    certificateValue file.timestamp fun certificate => culture.upper certificate.thumbprint
  | .timestampNotBeforeUtc => certificateValue file.timestamp Certificate.notBefore
  | .timestampNotAfterUtc => certificateValue file.timestamp Certificate.notAfter

/-- What is recorded of a path where no file is. -/
def missingProperty (fullPath : Text) : ArtifactField → Datum
  | .path => .text fullPath
  | .timestampPresent => .flag false
  | _ => .null

/-- `Get-DriverInstallerSnapshot`. -/
def getDriverInstallerSnapshot (literalPath : Text) : Option InstallerSnapshot :=
  (machine.installer literalPath).map fun (fullPath, file) =>
    match file with
    | none => ⟨false, fun field => some (missingProperty fullPath field)⟩
    | some file => ⟨true, fun field => some (installerProperty culture fullPath file field)⟩

/-! ### Parsec -/

/-- A device in `Get-ParsecInventory`. -/
structure ParsecDevice where
  instanceId : Text
  friendlyName : Text
  status : Text
  present : Bool
  hardwareIds : List Text
  driverInfPath : Text
  driverVersion : Text
  driverProvider : Text

/-- What is recorded of a device. -/
def parsecDevice (device : PnpDevice) : ParsecDevice :=
  let properties := machine.properties device.instanceId
  { instanceId := device.instanceId
    friendlyName := device.friendlyName
    status := device.status
    present := device.present
    hardwareIds := getPnpPropertyValue culture properties "DEVPKEY_Device_HardwareIds"
    driverInfPath := joined (getPnpPropertyValue culture properties "DEVPKEY_Device_DriverInfPath")
    driverVersion := joined (getPnpPropertyValue culture properties "DEVPKEY_Device_DriverVersion")
    driverProvider :=
      joined (getPnpPropertyValue culture properties "DEVPKEY_Device_DriverProvider") }

/-- The devices of `Get-ParsecInventory`. -/
def parsecDevices : List ParsecDevice :=
  let candidateDevices := machine.devices.filter fun device =>
    namesParsec culture device.friendlyName || namesParsec culture device.instanceId
  (candidateDevices.map (parsecDevice culture machine)).filter fun device =>
    namesParsec culture device.friendlyName || namesParsec culture device.driverProvider ||
      device.hardwareIds.any (namesParsec culture)

/-- The signed drivers of `Get-ParsecInventory`; the filter of the query and the one behind it
select the same records. -/
def parsecSignedDrivers : List SignedDriver :=
  machine.signedDrivers.filter fun record =>
    namesParsec culture record.deviceName || namesParsec culture record.manufacturer ||
      namesParsec culture record.providerName || namesParsec culture record.hardwareId

/-! ### Checks -/

/-- A check as it stands in a report. -/
structure Check where
  id : Text
  pass : Bool
deriving DecidableEq

/-- Why a script stops. -/
inductive Fault where
  | missingFile
  | missingSidecar
  | notJson
  | missingProperty
  | conversion
  | query
  | command
deriving DecidableEq

/-- What a script does before it acts: it adds checks, and it may stop. -/
abbrev Audit (α : Type) := Logged Check Fault α

/-- `Add-Check`. -/
def addCheck (id : Text) (pass : Bool) : Audit Unit := Logged.tell ⟨id, pass⟩

/-- A property that must be there. -/
def read {α : Type} (property : Option α) : Audit α := Logged.need .missingProperty property

/-- The checks of the protected device, the same in both scripts. -/
def gameViewerChecks (baseline : GameViewerBaseline) : Audit Unit := do
  let instanceId ← read baseline.instanceId
  let driverVersion ← read baseline.driverVersion
  let dllSha256 ← read baseline.dllSha256
  let dllPath ← read baseline.dllPath
  let current ← Logged.need .query
    (getGameViewerSnapshot culture machine instanceId driverVersion dllSha256 dllPath)
  addCheck (text "protected.gameviewer.present") (current.found && current.present)
  addCheck (text "protected.gameviewer.status") (eqText culture current.status (text "OK"))
  let driverInfPath ← read baseline.driverInfPath
  addCheck (text "protected.gameviewer.inf") (culture.eq current.driverInfPath driverInfPath)
  addCheck (text "protected.gameviewer.version") (culture.eq current.driverVersion driverVersion)
  addCheck (text "protected.gameviewer.dll") (eqText culture current.dllSha256 dllSha256)

/-- All checks of a computation pass, and it gives the value. -/
abbrev Passes {α : Type} (audit : Audit α) (value : α) : Prop :=
  Logged.Passes Check.pass audit value

@[simp] theorem passes_addCheck_iff {id : Text} {pass : Bool} {value : Unit} :
    Passes (addCheck id pass) value ↔ pass = true := Logged.passes_tell_iff

@[simp] theorem passes_read_iff {α : Type} {property : Option α} {value : α} :
    Passes (read property) value ↔ property = some value := Logged.passes_need_iff

end SecondDisplay.Safety
