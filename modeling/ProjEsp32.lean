import ProjEsp32.ReleaseInstallation
import ProjEsp32.UpdateCommands
import ProjEsp32.UpdateCadence
import ProjEsp32.ConfigurationLifecycle
import ProjEsp32.ComponentObservers
import ProjEsp32.NetworkConvergence
import ProjEsp32.InstallEntry
import ProjEsp32.InstallTransfer
import ProjEsp32.AvailablePackage
import ProjEsp32.PreparedPackages
import ProjEsp32.CheckedUrls
import ProjEsp32.DownloadLoops
import ProjEsp32.OrphanedWorkers
import ProjEsp32.UpdateScheduler
import ProjEsp32.PolicyUrls
import ProjEsp32.UploadRecords
import ProjEsp32.ConfigurationRollback
import ProjEsp32.ConfigurationClients
import ProjEsp32.ConfigurationRecovery
import ProjEsp32.FaultSafety
import ProjEsp32.EventDispatch
import ProjEsp32.IdCheckers
import ProjEsp32.RuleDiagnostics
import ProjEsp32.RuleEvents
import ProjEsp32.HysteresisRuns
import ProjEsp32.Hysteresis
import ProjEsp32.HealthSupervisor
import ProjEsp32.ProvidedRuntime
import ProjEsp32.ConfigurationAlternation
import ProjEsp32.MqttSettings
import ProjEsp32.SettingsPage
import ProjEsp32.ErrorTexts
import ProjEsp32.RemoteStatus
import ProjEsp32.PythonJson
import ProjEsp32.ReleaseManifest
import ProjEsp32.RuleAccounting
import ProjEsp32.RuntimeWiring
import ProjEsp32.ComponentViews
