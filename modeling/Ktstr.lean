import Ktstr.AarchTables
import Ktstr.BranchFolds
import Ktstr.BucketCharges
import Ktstr.BudgetSelection
import Ktstr.BulkAssembly
import Ktstr.CacheEntries
import Ktstr.CollectedReports
import Ktstr.ConsoleStreams
import Ktstr.ControlChannel
import Ktstr.DeepestQueues
import Ktstr.EventBursts
import Ktstr.ExitCodes
import Ktstr.FlattenedCgroups
import Ktstr.SnapshotLog
import Ktstr.FirmwareMap
import Ktstr.GroupCounts
import Ktstr.GuestCpuid
import Ktstr.GuestTopology
import Ktstr.KernelFilters
import Ktstr.KernelNames
import Ktstr.LlcPartition
import Ktstr.LockedShares
import Ktstr.MapBytes
import Ktstr.MapScan
import Ktstr.MemorySizing
import Ktstr.MergeOrder
import Ktstr.MergedSummaries
import Ktstr.MonotoneSeries
import Ktstr.NetLoopback
import Ktstr.NumaAlignment
import Ktstr.ReadHandlers
import Ktstr.RecordedVerdicts
import Ktstr.ResetBudget
import Ktstr.RetryWait
import Ktstr.RowComparison
import Ktstr.ScenarioCgroups
import Ktstr.SdtDump
import Ktstr.SidecarRuns
import Ktstr.SnapshotReplies
import Ktstr.StallGauge
import Ktstr.StallScan
import Ktstr.WatchCaptures
import Ktstr.WorkerThresholds
