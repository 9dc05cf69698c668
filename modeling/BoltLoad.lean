import BoltLoad.Library.Machine
import BoltLoad.ChunkPlanner.Model
import BoltLoad.ChunkPlanner.Invariant
import BoltLoad.ChunkPlanner.Operations
import BoltLoad.ChunkPlanner.Runs
import BoltLoad.Runner.Event
import BoltLoad.Runner.RunLoop
import BoltLoad.Runner.Run
import BoltLoad.Runner.Lifecycle
import BoltLoad.ChunkPlanner.Owners
import BoltLoad.RunnerManager.Generator
import BoltLoad.RunnerManager.Model
import BoltLoad.RunnerManager.Invariant
import BoltLoad.RunnerManager.Runs
import BoltLoad.RunnerManager.Run
import BoltLoad.RunnerManager.Protocol
import BoltLoad.ChunkPlanner.Completion
import BoltLoad.ChunkPlanner.Coverage
import BoltLoad.RunnerManager.Writes
import BoltLoad.RunnerManager.Completion
import BoltLoad.Runner.Effects
import BoltLoad.Transfer.Model
import BoltLoad.Transfer.Invariant
import BoltLoad.Transfer.Steps
import BoltLoad.Transfer.Ticks
import BoltLoad.Transfer.Limits
import BoltLoad.Transfer.Completion
import BoltLoad.Transfer.Deliveries
import BoltLoad.FileWriter.MmapWriter
import BoltLoad.Transfer.Writes
import BoltLoad.FileWriter.PendingWriter
import BoltLoad.FileWriter.Accounting
import BoltLoad.Strategy.ConcurrencyControl
import BoltLoad.Strategy.Dynamic
import BoltLoad.Strategy.Control
import BoltLoad.Strategy.FailurePolicy
import BoltLoad.DownloadLoop.Model
import BoltLoad.DownloadLoop.Run
import BoltLoad.DownloadLoop.Runs
import BoltLoad.DownloadLoop.Completion
import BoltLoad.DownloadLoop.Finish
import BoltLoad.Library.LatestValue
import BoltLoad.Sync.AtomicWaker
import BoltLoad.Sync.Slot
import BoltLoad.Sync.SlotRuns
import BoltLoad.Sync.SlotValues
import BoltLoad.Sync.SlotWakes
import BoltLoad.Http.ContentRange
import BoltLoad.Http.RangeResponse
import BoltLoad.Http.RangeBody
import BoltLoad.Runner.Buffering
import BoltLoad.Runner.Delivery
import BoltLoad.FileWriter.Backend
import BoltLoad.FileWriter.ExactFile
import BoltLoad.SingletonTask.Model
import BoltLoad.SingletonTask.Exact
import BoltLoad.Attempt.Concurrent
import BoltLoad.Task.Status
import BoltLoad.Attempt.Model
import BoltLoad.ChunkPlanner.Downloaded
import BoltLoad.ChunkPlanner.Available
import BoltLoad.ChunkPlanner.Errors
import BoltLoad.Transfer.Resizes
import BoltLoad.ChunkPlanner.Candidates
import BoltLoad.RunnerManager.Configuration
import BoltLoad.ChunkPlanner.Partition
import BoltLoad.DownloadLoop.Splits
import BoltLoad.DownloadLoop.SplitSizes
import BoltLoad.Strategy.Levels
import BoltLoad.Strategy.Trials
import BoltLoad.Runner.Errors
import BoltLoad.Transfer.Failures
import BoltLoad.DownloadLoop.Budgets
import BoltLoad.Attempt.Course
import BoltLoad.Attempt.Commit
import BoltLoad.Library.SlidingWindow
import BoltLoad.RunnerManager.Allocations
import BoltLoad.Strategy.OutcomeWindow
import BoltLoad.FileWriter.PoolWriter
import BoltLoad.Http.ContentCoding
import BoltLoad.Http.ContentRangeGrammar
import BoltLoad.Task.Destination
import BoltLoad.DownloadLoop.Deadlines
import BoltLoad.Runner.Promises
import BoltLoad.Runner.Progress
import BoltLoad.Runner.Allowance
import BoltLoad.Library.Fairness
import BoltLoad.Library.Mutex
import BoltLoad.Sync.Watch
import BoltLoad.Sync.WatchVersions
import BoltLoad.Sync.WatchProgress
import BoltLoad.Sync.WatchPublications
import BoltLoad.Library.Custody
import BoltLoad.FileWriter.QueuedRuns
import BoltLoad.Library.Quoted
import BoltLoad.Http.DispositionRoundTrip
import BoltLoad.Task.Handle
import BoltLoad.ConcurrentTask.Model
import BoltLoad.ConcurrentTask.Steps
