import Nexolab.SchedulerFairness
import Nexolab.RestartFixpoint
import Nexolab.InstalledRevisions
import Nexolab.ActivationRollback
import Nexolab.NodeReplays
import Nexolab.DeliveryRuns
import Nexolab.EnergyTotals
import Nexolab.StartupReconciliation
import Nexolab.LiveOutages
import Nexolab.LiveReplays
import Nexolab.EdgePublisher
import Nexolab.NodeStatusStream
import Nexolab.LateTelemetry
import Nexolab.ChannelHandover
import Nexolab.ActiveSessions
import Nexolab.ExclusiveSessions
import Nexolab.RecoveryPaths
import Nexolab.HistoryCompleteness
import Nexolab.HistoryWatermark
import Nexolab.DailySchedule
import Nexolab.AdministratorGuard
import Nexolab.LoginLockouts
import Nexolab.RefreshRotation
import Nexolab.ReportIsolation
import Nexolab.ControlledRuns
import Nexolab.VersionInclusion
import Nexolab.PlaneRecovery
import Nexolab.StreamHistory
import Nexolab.ResourceKeys
import Nexolab.SpoolTransactions
import Nexolab.AlertRuns
import Nexolab.CoordinatorRuns
import Nexolab.MonitoringListeners
import Nexolab.WebSocketRuns
import Nexolab.AnalogScaling
import Nexolab.BindingProgress
import Nexolab.ReportDurations
import Nexolab.DailyReportStatus
import Nexolab.ThermodynamicLaws
import Nexolab.DiscoveryHistory
import Nexolab.DiscoveryPolicy
import Nexolab.CapacityRecommendation
import Nexolab.EnrollmentAgreement
import Nexolab.RegistryEncoding
import Nexolab.DashboardMerge
import Nexolab.CadenceMutation
import Nexolab.ModbusRtu
import Nexolab.DeadlineLoops
import Nexolab.LatestValueStore
