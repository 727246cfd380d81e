import Dissect.Analysis.Run
import Dissect.Output.Store
import Dissect.Reference.Scan
import Dissect.Partition.Split

namespace Dissect

open Syntax

inductive StageReport
  | partition (units : Nat)
  | files (unitFiles : Nat)
  | references (edges : Nat)
  | analysis (categories : Nat) (timedOut : Bool)
deriving DecidableEq, Repr

def StageReport.stage : StageReport → String
  | .partition _ => "partition"
  | .files _ => "artifacts"
  | .references _ => "dependencies"
  | .analysis .. => "analysis"

def StageReport.counts : StageReport → List (String × Json)
  | .partition n => [("units", .nat n)]
  | .files n => [("unit_files", .nat n)]
  | .references n => [("edges", .nat n)]
  | .analysis n timedOut => [("categories", .nat n), ("timed_out", .bool timedOut)]

/-- What a run does to its surroundings. -/
inductive Effect : Type → Type 1
  | call {α : Type} (c : Call α) : Effect α
  | look : Effect FileTree
  | write (path : Path) (content : Bytes) : Effect (Except FileFault Unit)
  | report (r : StageReport) : Effect Unit

inductive RunError
  | file (fault : FileFault)
  | split (e : Partition.SplitError)
  | tree (e : TreeError)
  | store (e : Output.StoreError)
  | setup (e : Analysis.SetupError)
  | sample (fault : Text.Utf8.Fault)

def RunError.message : RunError → String
  | .file f => f.message
  | .split e => e.message
  | .tree e => e.message
  | .store e => e.message
  | .setup e => e.message
  | .sample f => f.message

/-- The failure is one that callers are prepared for: the file system refuses a file, or what is read
from one is no source. -/
def RunError.isExpected : RunError → Bool
  | .file f => f.isAnswer
  | .split (.name _) => false
  | .split _ => true
  | .store e => e.isExpected
  | _ => false

structure Runner where
  parse : Parser
  strict : Bool
  provider : String
  concurrent : Bool
  budget : Summary.Budget
  maxRetries : Int
  interCallDelay : Float
  timeout : Option Float
  stubs : Bool

structure RunResult where
  partition : Partition
  graph : ReferenceGraph
  report : Analysis.Report
  store : Output.Store
  unitFiles : List Path

def RunResult.fields (r : RunResult) : List (String × Json) :=
  [("original_file", .str r.partition.sourceFile),
    ("output_dir", .str r.store.dir.toText),
    ("line_count", .nat r.partition.lineCount),
    ("units", .nat r.partition.units.length),
    ("units_by_kind", .obj (r.partition.groups.map fun g => (g.1.text, .nat g.2.length))),
    ("edges", .nat r.graph.edges.length),
    ("distinct_edges", .nat r.graph.distinctEdges.length),
    ("analysis_timed_out", .bool r.report.timedOut),
    ("fallback_categories", .texts r.report.standIns),
    ("sourcemap", .str r.store.sourceMapPath.toText),
    ("dependency_graph", .str r.store.graphPath.toText),
    ("analysis", .str r.store.analysisPath.toText)]

namespace Runner

/-- A step of a run that can end it. -/
abbrev Step (α : Type) := ExceptT RunError (Plan Effect) α

def Step.of {ε α : Type} (wrap : ε → RunError) (e : Except ε α) : Step α :=
  ExceptT.mk (.done (e.mapError wrap))

def Step.plan {α : Type} (p : Plan Effect α) : Step α := ExceptT.mk (p.bind fun a => .done (.ok a))

def report (r : StageReport) : Step PUnit := .plan (.perform (.report r))

def putText (path : Path) (content : String) : Step PUnit :=
  ExceptT.mk <| (Plan.perform (Effect.write path (Text.Utf8.encode content))).bind fun
    | .ok _ => .done (.ok ⟨⟩)
    | .error f => .done (.error (if f.isAnswer then .store (.write path.toText f) else .file f))

def writeUnitFiles (p : Runner) (store : Output.Store) (sourceFile : String) :
    List (SourceUnit × Placement) → Step (List Path)
  | [] => pure []
  | (u, e) :: rest => do
      let content ← Step.of .tree (store.unitContent p.parse sourceFile u)
      putText (store.pathFor e) content
      return store.pathFor e :: (← writeUnitFiles p store sourceFile rest)

def setup (p : Runner) : Analysis.Setup where
  provider := p.provider
  concurrent := p.concurrent
  budget := p.budget
  categories := Analysis.standardCategories
  maxRetries := p.maxRetries
  interCallDelay := p.interCallDelay
  timeout := p.timeout
  useFallback := true

def storedText (store : Output.Store) (files : FileTree) (partition : Partition)
    (u : SourceUnit) : Except Text.Utf8.Fault (Option String) :=
  match partition.placementOf? u with
  | none => .ok none
  | some e => store.loadUnit files e

def analysisStage (p : Runner) (store : Output.Store) (partition : Partition)
    (graph : ReferenceGraph) : Step Analysis.Report := do
  let (categories, last) ← Step.of .setup p.setup.check
  let files ← Step.plan (.perform .look)
  let subject : Analysis.Subject := ⟨partition, some graph, storedText store files partition⟩
  let plan := Analysis.runInTime p.setup subject categories last
  ExceptT.mk <| (plan.lift .call).bind fun outcome => .done (outcome.mapError .sample)

def document (r : Analysis.Report) (sourceFile : String) : String :=
  (r.document sourceFile).toOption.getD ""

/-- Run a source that is given, and leave its files in a directory. -/
def runText (p : Runner) (source : Bytes) (dir : Path) (sourceFile : String) :
    Step RunResult := do
  let partition ← Step.of .split (Partition.split p.parse p.strict source sourceFile)
  report (.partition partition.units.length)
  let store : Output.Store := ⟨dir, p.stubs⟩
  let unitFiles ← p.writeUnitFiles store sourceFile (partition.units.zip partition.entries)
  putText store.sourceMapPath partition.sourceMap.indented
  report (.files unitFiles.length)
  let graph ← Step.of .tree (Reference.graphOf p.parse partition.units none)
  putText store.graphPath (graph.toJson (Output.filesByName partition.entries)).indented
  report (.references graph.edges.length)
  let analysis ← p.analysisStage store partition graph
  putText store.analysisPath (document analysis sourceFile)
  report (.analysis analysis.results.length analysis.timedOut)
  return ⟨partition, graph, analysis, store, unitFiles⟩

def run (p : Runner) (source : Path) (dir : Path) : Step RunResult := do
  let files ← Step.plan (.perform .look)
  let content ← Step.of .file (files.read source)
  p.runText content dir source.name

end Runner

end Dissect
