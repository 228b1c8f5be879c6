import GostlyProxy.Lib.Appenders
import GostlyProxy.Lib.Cell
import GostlyProxy.Lib.Chains
import GostlyProxy.Lib.Delimited
import GostlyProxy.Lib.Derive
import GostlyProxy.Lib.Descent
import GostlyProxy.Lib.Detached
import GostlyProxy.Lib.Glob
import GostlyProxy.Lib.HashMap
import GostlyProxy.Lib.JsonText
import GostlyProxy.Lib.LastWrite
import GostlyProxy.Lib.LineCodec
import GostlyProxy.Lib.Linearize
import GostlyProxy.Lib.Machine
import GostlyProxy.Lib.Rounds
import GostlyProxy.Lib.Segments
import GostlyProxy.Lib.Taint
import GostlyProxy.Lib.Text
import GostlyProxy.Lib.Threads
import GostlyProxy.Lib.Utf8
import GostlyProxy.Lib.WeightedDraw
import GostlyProxy.Lib.Withheld
import GostlyProxy.Lib.Words
import GostlyProxy.Model.Admin
import GostlyProxy.Model.AdminReads
import GostlyProxy.Model.Chaos
import GostlyProxy.Model.Disk
import GostlyProxy.Model.Files
import GostlyProxy.Model.Handler
import GostlyProxy.Model.Http
import GostlyProxy.Model.Injection
import GostlyProxy.Model.Json
import GostlyProxy.Model.Library
import GostlyProxy.Model.MarkovChaos
import GostlyProxy.Model.Matcher
import GostlyProxy.Model.Process
import GostlyProxy.Model.ResourceStore
import GostlyProxy.Model.Respond
import GostlyProxy.Model.Routes
import GostlyProxy.Model.Serde
import GostlyProxy.Model.Statechart
import GostlyProxy.Model.Tasks
import GostlyProxy.Model.Types
import GostlyProxy.Model.Workload
import GostlyProxy.Proofs.AdminReads
import GostlyProxy.Proofs.AppendLine
import GostlyProxy.Proofs.Canonical
import GostlyProxy.Proofs.Codec
import GostlyProxy.Proofs.CollectionPaths
import GostlyProxy.Proofs.Compaction
import GostlyProxy.Proofs.ConcurrentReplay
import GostlyProxy.Proofs.Created
import GostlyProxy.Proofs.DataFiles
import GostlyProxy.Proofs.Disk
import GostlyProxy.Proofs.DynamicSegments
import GostlyProxy.Proofs.EndpointRules
import GostlyProxy.Proofs.ErrorDraw
import GostlyProxy.Proofs.Evidence
import GostlyProxy.Proofs.Footprint
import GostlyProxy.Proofs.Framing
import GostlyProxy.Proofs.Handler
import GostlyProxy.Proofs.HotReload
import GostlyProxy.Proofs.IdExtraction
import GostlyProxy.Proofs.Inject
import GostlyProxy.Proofs.Injection
import GostlyProxy.Proofs.Isolation
import GostlyProxy.Proofs.Jsonl
import GostlyProxy.Proofs.Keys
import GostlyProxy.Proofs.Layers
import GostlyProxy.Proofs.Ledger
import GostlyProxy.Proofs.Library
import GostlyProxy.Proofs.LibraryRuns
import GostlyProxy.Proofs.Linked
import GostlyProxy.Proofs.LinkedMocks
import GostlyProxy.Proofs.MarkovClock
import GostlyProxy.Proofs.MarkovRuns
import GostlyProxy.Proofs.MilestoneRuns
import GostlyProxy.Proofs.Milestones
import GostlyProxy.Proofs.MockLog
import GostlyProxy.Proofs.MockTasks
import GostlyProxy.Proofs.ModeFile
import GostlyProxy.Proofs.Outages
import GostlyProxy.Proofs.Publishers
import GostlyProxy.Proofs.Reboot
import GostlyProxy.Proofs.RecordIds
import GostlyProxy.Proofs.Reload
import GostlyProxy.Proofs.Replay
import GostlyProxy.Proofs.ReplaySteps
import GostlyProxy.Proofs.ResourceFiles
import GostlyProxy.Proofs.ResourceLog
import GostlyProxy.Proofs.ResourceStore
import GostlyProxy.Proofs.Respond
import GostlyProxy.Proofs.Restart
import GostlyProxy.Proofs.ScrubPath
import GostlyProxy.Proofs.Secrets
import GostlyProxy.Proofs.SequenceFile
import GostlyProxy.Proofs.Sequences
import GostlyProxy.Proofs.Serde
import GostlyProxy.Proofs.SmartSwap
import GostlyProxy.Proofs.Sound
import GostlyProxy.Proofs.Specific
import GostlyProxy.Proofs.Substitutions
import GostlyProxy.Proofs.Swaps
import GostlyProxy.Proofs.Tenants
import GostlyProxy.Proofs.TextSwap
import GostlyProxy.Proofs.Upgrade
import GostlyProxy.Proofs.Upstream
import GostlyProxy.Proofs.Watcher
import GostlyProxy.Proofs.WordBoundary
