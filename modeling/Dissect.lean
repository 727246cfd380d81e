import Dissect.Address.Basic
import Dissect.Address.Composed
import Dissect.Address.Host
import Dissect.Address.Label
import Dissect.Address.LabelData
import Dissect.Address.Parser
import Dissect.Address.Percent
import Dissect.Address.Punycode
import Dissect.Analysis.Category
import Dissect.Analysis.Report
import Dissect.Analysis.Retry
import Dissect.Analysis.Run
import Dissect.Analysis.Stats
import Dissect.Backend.Basic
import Dissect.Backend.Reply
import Dissect.Backend.Request
import Dissect.Backend.Response
import Dissect.Call
import Dissect.CommandLine
import Dissect.Decimal.Binary
import Dissect.Decimal.Layout
import Dissect.Decimal.Reader
import Dissect.Decimal.Shortest
import Dissect.Digest.Blake3
import Dissect.FileTree
import Dissect.Job.Registry
import Dissect.Json.Access
import Dissect.Json.Basic
import Dissect.Json.Parser
import Dissect.Json.Printer
import Dissect.Main
import Dissect.Output.Store
import Dissect.Output.UnitFile
import Dissect.Partition.Basic
import Dissect.Partition.Coverage
import Dissect.Partition.FileStem
import Dissect.Partition.Split
import Dissect.Partition.Traversal
import Dissect.Path
import Dissect.Plan
import Dissect.Proofs.Analysis.Agreement
import Dissect.Proofs.Analysis.Attempts
import Dissect.Proofs.Analysis.Condensing
import Dissect.Proofs.Analysis.Containment
import Dissect.Proofs.Analysis.Conversation
import Dissect.Proofs.Analysis.Coverage
import Dissect.Proofs.Analysis.Reported
import Dissect.Proofs.Analysis.Samples
import Dissect.Proofs.Analysis.Shares
import Dissect.Proofs.Analysis.Stages
import Dissect.Proofs.Backend.Content
import Dissect.Proofs.Call.Replies
import Dissect.Proofs.CommandLine
import Dissect.Proofs.FileTree
import Dissect.Proofs.FileTree.Below
import Dissect.Proofs.FileTree.Fresh
import Dissect.Proofs.Job.Changes
import Dissect.Proofs.Job.Registry
import Dissect.Proofs.Json.Leaves
import Dissect.Proofs.Json.RoundTrip
import Dissect.Proofs.Json.Stored
import Dissect.Proofs.Outcome
import Dissect.Proofs.Output.GraphFile
import Dissect.Proofs.Output.Header
import Dissect.Proofs.Output.Listed
import Dissect.Proofs.Output.Merging
import Dissect.Proofs.Output.NameLength
import Dissect.Proofs.Output.SourceMap
import Dissect.Proofs.Output.Stubs
import Dissect.Proofs.Output.UnitFiles
import Dissect.Proofs.Partition.Bindings
import Dissect.Proofs.Partition.Described
import Dissect.Proofs.Partition.Files
import Dissect.Proofs.Partition.Findings
import Dissect.Proofs.Partition.FirstFault
import Dissect.Proofs.Partition.Groups
import Dissect.Proofs.Partition.Laminar
import Dissect.Proofs.Partition.LineCover
import Dissect.Proofs.Partition.LineLayout
import Dissect.Proofs.Partition.PatternDepth
import Dissect.Proofs.Partition.Placements
import Dissect.Proofs.Partition.Preorder
import Dissect.Proofs.Partition.Split
import Dissect.Proofs.Partition.Stems
import Dissect.Proofs.Partition.Sweep
import Dissect.Proofs.Partition.TextCover
import Dissect.Proofs.Path
import Dissect.Proofs.Plan.Advance
import Dissect.Proofs.Plan.Alike
import Dissect.Proofs.Plan.Lift
import Dissect.Proofs.Plan.Run
import Dissect.Proofs.Plan.Settled
import Dissect.Proofs.Plan.Step
import Dissect.Proofs.Reference.Distinct
import Dissect.Proofs.Reference.Queries
import Dissect.Proofs.Reference.Resolution
import Dissect.Proofs.Reference.Scan
import Dissect.Proofs.Runner.Artifacts
import Dissect.Proofs.Runner.Completed
import Dissect.Proofs.Runner.Interruption
import Dissect.Proofs.Runner.Stages
import Dissect.Proofs.Runner.Writing
import Dissect.Proofs.Service.Course
import Dissect.Proofs.Service.Lawful
import Dissect.Proofs.Service.Requests
import Dissect.Proofs.Service.StoredMap
import Dissect.Proofs.Session.Await
import Dissect.Proofs.Session.Directories
import Dissect.Proofs.Session.Endings
import Dissect.Proofs.Session.Fates
import Dissect.Proofs.Session.Finished
import Dissect.Proofs.Session.Lifecycle
import Dissect.Proofs.Session.Moves
import Dissect.Proofs.Session.RunDirectories
import Dissect.Proofs.Summary.Account
import Dissect.Proofs.Summary.Agreement
import Dissect.Proofs.Summary.Bounds
import Dissect.Proofs.Summary.ChunkCount
import Dissect.Proofs.Summary.ChunkEnds
import Dissect.Proofs.Summary.Chunks
import Dissect.Proofs.Summary.Documents
import Dissect.Proofs.Summary.Fidelity
import Dissect.Proofs.Summary.LastReply
import Dissect.Proofs.Summary.Overlap
import Dissect.Proofs.Summary.Rounds
import Dissect.Proofs.Summary.Soundness
import Dissect.Proofs.Summary.Totals
import Dissect.Proofs.Syntax.Nodes
import Dissect.Proofs.Text.Boundaries
import Dissect.Proofs.Text.Lines
import Dissect.Proofs.Text.Utf8
import Dissect.Reference.Graph
import Dissect.Reference.Scan
import Dissect.Runner
import Dissect.Server
import Dissect.Service
import Dissect.Session
import Dissect.Settings
import Dissect.Settings.Assembly
import Dissect.Settings.Record
import Dissect.Summary.Budget
import Dissect.Summary.Chunk
import Dissect.Summary.Reduce
import Dissect.Syntax.NodeType
import Dissect.Syntax.Record
import Dissect.Syntax.Tree
import Dissect.Text.Ascii
import Dissect.Text.Base64
import Dissect.Text.Blank
import Dissect.Text.Case
import Dissect.Text.CaseData
import Dissect.Text.Digit
import Dissect.Text.Encoding
import Dissect.Text.Lines
import Dissect.Text.Printable
import Dissect.Text.Quoted
import Dissect.Text.Slice
import Dissect.Text.Surrogate
import Dissect.Text.Utf8
import Dissect.UnitKind
