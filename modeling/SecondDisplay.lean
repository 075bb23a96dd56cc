import SecondDisplay.Library.Bytes
import SecondDisplay.Library.StartCodes
import SecondDisplay.Encode.AnnexB
import SecondDisplay.Encode.ParameterSets
import SecondDisplay.Encode.H264Encoder
import SecondDisplay.Tools.MockReceiver
import SecondDisplay.Library.Framing
import SecondDisplay.Library.Transitions
import SecondDisplay.Library.FirstFit
import SecondDisplay.Library.Pacing
import SecondDisplay.Net.Connection
import SecondDisplay.Net.SendLock
import SecondDisplay.Library.JsonText
import SecondDisplay.Library.KeepFirst
import SecondDisplay.Net.Protocol
import SecondDisplay.Net.ProtocolScan
import SecondDisplay.Net.ProtocolNumber
import SecondDisplay.Library.Access
import SecondDisplay.Net.ProtocolReads
import SecondDisplay.App.Json
import SecondDisplay.App.JsonParse
import SecondDisplay.App.Config
import SecondDisplay.App.ConfigRoundTrip
import SecondDisplay.App.JsonTree
import SecondDisplay.App.ConfigReload
import SecondDisplay.Library.StableSort
import SecondDisplay.App.DeviceNormalisation
import SecondDisplay.App.ConfigFile
import SecondDisplay.App.ConfigLoad
import SecondDisplay.Net.Pong
import SecondDisplay.App.UiModel
import SecondDisplay.App.DeviceText
import SecondDisplay.Net.DiscoveryCache
import SecondDisplay.Net.DiscoveryHistory
import SecondDisplay.Library.Labels
import SecondDisplay.Net.Mdns
import SecondDisplay.Net.MdnsPacket
import SecondDisplay.Net.MdnsRoundTrip
import SecondDisplay.Net.MdnsOrder
import SecondDisplay.Net.MdnsService
import SecondDisplay.Net.MdnsReads
import SecondDisplay.Net.MdnsInstance
import SecondDisplay.Library.Search
import SecondDisplay.Net.UsbMux
import SecondDisplay.Net.UsbMuxRequest
import SecondDisplay.Net.UsbMuxConnect
import SecondDisplay.Net.UsbMuxText
import SecondDisplay.Net.UsbMuxList
import SecondDisplay.Net.UsbMuxEnumeration
import SecondDisplay.Library.Blanks
import SecondDisplay.App.Redaction
import SecondDisplay.App.TargetRedaction
import SecondDisplay.Library.Runs
import SecondDisplay.App.AddressRedaction
import SecondDisplay.Library.Encoding
import SecondDisplay.App.DeviceCoordinator
import SecondDisplay.App.Failover
import SecondDisplay.App.SenderApp
import SecondDisplay.App.TrayApp
import SecondDisplay.App.UneditedSave
import SecondDisplay.App.SettingsSave
import SecondDisplay.App.TraySteps
import SecondDisplay.App.CommandQueue
import SecondDisplay.App.CalmSteps
import SecondDisplay.App.ApplyAndRestart
import SecondDisplay.App.PendingSwitch
import SecondDisplay.App.TrayHandlers
import SecondDisplay.App.Switching
import SecondDisplay.App.SavedTargets
import SecondDisplay.App.RoutineSteps
import SecondDisplay.App.SwitchClicks
import SecondDisplay.App.DeviceList
import SecondDisplay.App.DeviceIds
import SecondDisplay.App.OneSession
import SecondDisplay.App.ChosenDevice
import SecondDisplay.App.StartupConnect
import SecondDisplay.App.StartupOrder
import SecondDisplay.App.RunLoop
import SecondDisplay.App.RunLoopSteps
import SecondDisplay.Library.JsonSpelling
import SecondDisplay.App.JsonEscapes
import SecondDisplay.App.StringMembers
import SecondDisplay.Library.Strtod
import SecondDisplay.App.ReceiverStats
import SecondDisplay.App.StopRequest
import SecondDisplay.App.SenderExit
import SecondDisplay.App.RetryPacing
import SecondDisplay.App.ConnectionGuard
import SecondDisplay.App.PanelRegistry
import SecondDisplay.App.PanelSenders
import SecondDisplay.Net.NetworkSafety
import SecondDisplay.App.TrustedConnect
import SecondDisplay.Encode.AsyncPump
import SecondDisplay.App.StreamLoop
import SecondDisplay.Display.VirtualDisplay
import SecondDisplay.Display.Resolution
import SecondDisplay.Display.VddClaim
import SecondDisplay.Display.ResolutionSlots
import SecondDisplay.Display.ResolutionHelper
import SecondDisplay.Library.InPlace
import SecondDisplay.Display.CompositePointer
import SecondDisplay.Display.DesktopDuplication
import SecondDisplay.Display.CursorPaint
import SecondDisplay.Library.Logged
import SecondDisplay.Library.SortUnique
import SecondDisplay.Tools.PowerShell
import SecondDisplay.Tools.Safety
import SecondDisplay.Tools.Rollback
import SecondDisplay.Tools.RollbackGate
import SecondDisplay.Tools.RollbackRun
import SecondDisplay.Tools.RollbackDeletion
import SecondDisplay.Tools.PostInstallReceipt
import SecondDisplay.Tools.FreshReceipt
import SecondDisplay.Library.EventLog
import SecondDisplay.Input.InputInjector
import SecondDisplay.Input.Pressed
import SecondDisplay.Library.Rounding
import SecondDisplay.Input.MonitorPixels
import SecondDisplay.Display.Nv12
import SecondDisplay.Display.Nv12Exact
import SecondDisplay.App.ProfileRedaction
import SecondDisplay.Library.BitString
import SecondDisplay.Library.Consumes
import SecondDisplay.Tools.SpsResolutions
import SecondDisplay.Tools.SpsRoundTrip
import SecondDisplay.Display.SavedPosition
import SecondDisplay.Display.PlacementRuns
import SecondDisplay.App.WindowRouting
import SecondDisplay.App.TaskbarRouter
import SecondDisplay.App.LauncherItems
import SecondDisplay.App.LauncherCells
import SecondDisplay.App.DisplayLauncher
import SecondDisplay.App.LauncherWindows
import SecondDisplay.Net.SenderPing
import SecondDisplay.Tools.MockSession
import SecondDisplay.App.ControlMembers
import SecondDisplay.App.AdminRelaunch
import SecondDisplay.App.PanelDiscovery
