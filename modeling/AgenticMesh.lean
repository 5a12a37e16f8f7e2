import AgenticMesh.Base.JsonReordered
import AgenticMesh.Client.Answers
import AgenticMesh.Config.Resolver
import AgenticMesh.Config.DetectedChanges
import AgenticMesh.Config.WorkingTree
import AgenticMesh.Dashboard.PendingGates
import AgenticMesh.Database.Backup
import AgenticMesh.Documents.Cursors
import AgenticMesh.Documents.D8AProxy
import AgenticMesh.Documents.Opening
import AgenticMesh.Events.Delivery
import AgenticMesh.Flow.Bypass
import AgenticMesh.Flow.Finality
import AgenticMesh.Flow.Keys
import AgenticMesh.Flow.ManagedGates
import AgenticMesh.Flow.Recovery
import AgenticMesh.Flow.Requests
import AgenticMesh.Flow.Revision
import AgenticMesh.Flow.Snapshot
import AgenticMesh.Flow.SponsorEvents
import AgenticMesh.Import.InspectionRuns
import AgenticMesh.Import.PreviewHistory
import AgenticMesh.Import.QuestionHistory
import AgenticMesh.Lifecycle.RetryChain
import AgenticMesh.Manifest.CanonicalKeys
import AgenticMesh.Queue.HandoffCompletion
import AgenticMesh.Queue.HandoffDiscipline
import AgenticMesh.Queue.LeaseDiscipline
import AgenticMesh.Recovery.SupervisorResults
import AgenticMesh.Release.Upgrades
import AgenticMesh.Service.PoisonedItems
import AgenticMesh.Service.ThreadExclusion
import AgenticMesh.Service.WarmEngines
import AgenticMesh.Store.ThreadReseeds
import AgenticMesh.Teams.NonInterference
import AgenticMesh.Teams.ProgressWriters
import AgenticMesh.Usage.Capacity
import AgenticMesh.Worktree.Runs
