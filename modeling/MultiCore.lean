import MultiCore.Daemon.Claim
import MultiCore.Daemon.Readiness
import MultiCore.Daemon.Truth
import MultiCore.Service.Ownership
import MultiCore.Service.Repair
import MultiCore.Service.Restarts
import MultiCore.Service.UpdaterSlot
import MultiCore.Backend.Warmth
import MultiCore.Host.Elevated
import MultiCore.Update.SwapSafety
import MultiCore.Daemon.ProxyRestore
import MultiCore.Host.GuardedPaths
import MultiCore.Host.LogDecoder
import MultiCore.Service.JournalPruning
import MultiCore.Service.LogPaging
import MultiCore.Service.ControllerPaths
import MultiCore.Service.ControllerRelay
import MultiCore.Update.Extraction
import MultiCore.Update.Download
import MultiCore.Update.Releases
import MultiCore.Update.Stages
import MultiCore.Daemon.Rollback
import MultiCore.Daemon.SessionTimes
import MultiCore.Daemon.EventLog
import MultiCore.Daemon.LocalProxyPort
import MultiCore.Daemon.CatalogLabels
import MultiCore.Daemon.LatencyRevisions
import MultiCore.Daemon.ShownRoutes
import MultiCore.Desktop.DeepLinks
import MultiCore.Desktop.PendingImports
import MultiCore.Desktop.Preferences
import MultiCore.Desktop.SessionLogs
import MultiCore.Desktop.ViewModel
import MultiCore.Desktop.RouteChoices
import MultiCore.Desktop.RouteLatencies
import MultiCore.Desktop.Mutations
import MultiCore.Desktop.Session
import MultiCore.Desktop.Holds
import MultiCore.Desktop.Attended
import MultiCore.Desktop.PowerSwitch
import MultiCore.Desktop.Measurements
import MultiCore.Desktop.LatencyBookkeeping
import MultiCore.Profiles.Adding
import MultiCore.Profiles.Catalogue
import MultiCore.Profiles.Logos
import MultiCore.Profiles.Selections
import MultiCore.Profiles.GroupIcons
import MultiCore.Service.Frames
import MultiCore.Subscription.SanitizedText
import MultiCore.Subscription.BodyHeaders
import MultiCore.Subscription.GlobalGroup
import MultiCore.Subscription.GroupMembers
import MultiCore.Subscription.FakeIp
import MultiCore.Subscription.Redirects
import MultiCore.Subscription.EndpointDomains
import MultiCore.Desktop.UpdateDates
import MultiCore.Daemon.ClockSkew
import MultiCore.Subscription.FakeIpPool
import MultiCore.Service.MihomoRest
import MultiCore.Daemon.PrivilegedFixes
import MultiCore.Daemon.UnmixedLogs
import MultiCore.Service.ControllerHead
