import NetGuardian.Foundation.LabelledRun
import NetGuardian.Foundation.BoundedLog
import NetGuardian.Foundation.Broadcast
import NetGuardian.Foundation.CooperativeTasks
import NetGuardian.Primitives
import NetGuardian.Job
import NetGuardian.QueueManager
import NetGuardian.RetryEngine
import NetGuardian.CircuitBreaker
import NetGuardian.EventBus
import NetGuardian.Orchestrator
import NetGuardian.SharedRetryBudget
import NetGuardian.RuleEngine
import NetGuardian.RuleCooldown
import NetGuardian.Filenames
import NetGuardian.CacheManager
import NetGuardian.CacheReads
import NetGuardian.ProcessSupervisor
import NetGuardian.DownloadManager
import NetGuardian.Metrics
import NetGuardian.Executor
import NetGuardian.ExecuteNext
import NetGuardian.SelfDeadlock
import NetGuardian.JobControl
import NetGuardian.LostJobs
import NetGuardian.ExecuteLoop
import NetGuardian.Daemon
import NetGuardian.JobIsolation
import NetGuardian.FailureCount
import NetGuardian.Foundation.PlainText
import NetGuardian.Ipc
import NetGuardian.Storage
import NetGuardian.CommunityCli
import NetGuardian.JobStore
import NetGuardian.Foundation.PhaseTime
import NetGuardian.MetricsStore
import NetGuardian.Uptime
import NetGuardian.Shutdown
import NetGuardian.Accounting
import NetGuardian.Foundation.EndRecords
import NetGuardian.Reaping
import NetGuardian.SupervisorMethods
import NetGuardian.LateSignals
import NetGuardian.ChildOutput
import NetGuardian.Foundation.TicketLine
import NetGuardian.QueueHistory
import NetGuardian.QueueConservation
import NetGuardian.QueueLifecycle
import NetGuardian.QueueOrder
import NetGuardian.OpenCircuit
import NetGuardian.RetryGrants
import NetGuardian.NoMissedRule
import NetGuardian.MonitorTask
import NetGuardian.CacheWrites
import NetGuardian.CacheLimit
import NetGuardian.CacheFrame
import NetGuardian.CacheAccounting
import NetGuardian.ConnectivityEvents
import NetGuardian.Foundation.TryLock
import NetGuardian.MetricsLocking
import NetGuardian.Foundation.KeyedMap
import NetGuardian.JobStoreRoundTrip
import NetGuardian.JobStoreReopen
import NetGuardian.BreakerConfig
import NetGuardian.GroupSignals
import NetGuardian.PluginCycles
import NetGuardian.ConcurrencyLimit
import NetGuardian.RegistryRefinement
import NetGuardian.Foundation.LeastFirst
import NetGuardian.Foundation.SelectionLoop
import NetGuardian.QueueSelection
import NetGuardian.CommandLines
import NetGuardian.DownloadOutcomes
import NetGuardian.Refusals
import NetGuardian.Foundation.DecimalText
import NetGuardian.Timestamps
import NetGuardian.CacheVisibility
import NetGuardian.FailedPuts
import NetGuardian.SaveIfDirty
import NetGuardian.SnapshotEffects
import NetGuardian.Foundation.CappedGrowth
import NetGuardian.RetryDelays
import NetGuardian.DelayPanics
import NetGuardian.Foundation.CountedAdmission
import NetGuardian.PermanentFailures
import NetGuardian.RuleOrder
import NetGuardian.DefaultRules
import NetGuardian.OperationTotals
import NetGuardian.Foundation.SampleStatistics
import NetGuardian.SampleWindows
import NetGuardian.RetryBookkeeping
import NetGuardian.AdaptiveScheduler
import NetGuardian.ConcurrencySuggestions
import NetGuardian.UpdatedAt
import NetGuardian.ExitStatus
import NetGuardian.RegistryWrites
import NetGuardian.Foundation.TextLines
import NetGuardian.Connectivity
import NetGuardian.Foundation.HexText
import NetGuardian.Gateway
import NetGuardian.VersionOrder
import NetGuardian.DownloadPaths
import NetGuardian.Foundation.JsonText
import NetGuardian.IpcReplies
import NetGuardian.EventLog
import NetGuardian.RouteParser
import NetGuardian.VersionWeakOrder
import NetGuardian.Foundation.LogSimulation
import NetGuardian.Foundation.TakingTurns
import NetGuardian.Foundation.SoleHolder
import NetGuardian.Foundation.SerialReports
import NetGuardian.JobEvents
import NetGuardian.ReportedTotals
import NetGuardian.StoppedExecutor
import NetGuardian.Foundation.GhostHistory
import NetGuardian.SpawnOrigins
import NetGuardian.IdleExecutor
import NetGuardian.Foundation.LineReader
import NetGuardian.IpcListener
import NetGuardian.Foundation.ExpositionText
import NetGuardian.Prometheus
import NetGuardian.Foundation.FramedMessage
import NetGuardian.MetricsServer
import NetGuardian.MonitorCommand
import NetGuardian.MonitoredNetwork
import NetGuardian.Foundation.TextFields
import NetGuardian.PingReplies
import NetGuardian.NetworkReport
import NetGuardian.SystemFiles
import NetGuardian.Foundation.NamedCells
import NetGuardian.PluginTable
import NetGuardian.Foundation.KeyedSums
import NetGuardian.CacheStats
import NetGuardian.RegistryRefresh
import NetGuardian.CallTermination
import NetGuardian.LoopControls
import NetGuardian.Foundation.SharedLog
import NetGuardian.DaemonTasks
import NetGuardian.RuleTrends
import NetGuardian.Foundation.OwnedRecords
import NetGuardian.DownloadLedger
