import Dissect.Decimal.Layout
import Dissect.Json.Basic

namespace Dissect

namespace Job

inductive Status
  | queued
  | running
  | completed
  | failed
  | cancelled
deriving DecidableEq, Repr

def Status.text : Status → String
  | .queued => "queued"
  | .running => "running"
  | .completed => "completed"
  | .failed => "failed"
  | .cancelled => "cancelled"

/-- The job has not ended. -/
def Status.isOpen : Status → Bool
  | .queued => true
  | .running => true
  | _ => false

structure Progress where
  stage : String
  stagesCompleted : Nat
  totalStages : Int
  unitsExtracted : Int
  unitFilesWritten : Int
  edgesResolved : Int
  categoriesAnalyzed : Int
deriving DecidableEq, Repr

def Progress.initial : Progress := ⟨"", 0, 4, 0, 0, 0, 0⟩

/-- What a progress report tells; what it leaves out stays as it is. -/
structure Update where
  stage : Option String
  unitsExtracted : Option Int
  unitFilesWritten : Option Int
  edgesResolved : Option Int
  categoriesAnalyzed : Option Int
deriving DecidableEq, Repr

/-- The progress after a report; a report with a stage counts the stage as completed. -/
def Progress.apply (p : Progress) (u : Update) : Progress :=
  { stage := u.stage.getD p.stage
    stagesCompleted := if u.stage.isSome then p.stagesCompleted + 1 else p.stagesCompleted
    totalStages := p.totalStages
    unitsExtracted := u.unitsExtracted.getD p.unitsExtracted
    unitFilesWritten := u.unitFilesWritten.getD p.unitFilesWritten
    edgesResolved := u.edgesResolved.getD p.edgesResolved
    categoriesAnalyzed := u.categoriesAnalyzed.getD p.categoriesAnalyzed }

def Progress.percent (p : Progress) : Float :=
  if 0 < p.totalStages then
    Decimal.roundPlaces 2 (Float.ofNat p.stagesCompleted / Float.ofInt p.totalStages * 100.0)
  else 0.0

def Progress.toJson (p : Progress) : Json :=
  .obj [("stage", .str p.stage), ("stages_completed", .nat p.stagesCompleted),
    ("total_stages", .int p.totalStages), ("progress_pct", .float p.percent),
    ("units_extracted", .int p.unitsExtracted), ("unit_files_written", .int p.unitFilesWritten),
    ("edges_resolved", .int p.edgesResolved), ("categories_analyzed", .int p.categoriesAnalyzed)]

/-- The task that carries out a job: whether it has ended, and whether it was told to stop. -/
structure TaskMark where
  ended : Bool
  cancelled : Bool
deriving DecidableEq, Repr

end Job

structure Job where
  id : String
  sourcePath : String
  outputDir : String
  status : Job.Status
  createdAt : Float
  startedAt : Option Float
  completedAt : Option Float
  progress : Job.Progress
  error : Option String
  result : Option Json
  task : Option Job.TaskMark

namespace Job

def queued (id sourcePath outputDir : String) (now : Float) : Job :=
  ⟨id, sourcePath, outputDir, .queued, now, none, none, .initial, none, none, none⟩

inductive Event
  | started
  | progressed (u : Update)
  | completed (result : Json)
  | failed (error : String)

def apply (job : Job) (now : Float) : Event → Job
  | .started => { job with status := .running, startedAt := some now }
  | .progressed u => { job with progress := job.progress.apply u }
  | .completed result =>
      { job with status := .completed, completedAt := some now, result := some result }
  | .failed error =>
      { job with status := .failed, completedAt := some now, error := some error }

/-- A job after it was cancelled; its task is told to stop unless it has ended. -/
def cancel (job : Job) (now : Float) : Job :=
  { job with
    status := .cancelled
    completedAt := some now
    task := job.task.map fun t => if t.ended then t else { t with cancelled := true } }

/-- A time that is set; zero counts as not set. -/
def setTime (t : Option Float) : Option Float := t.filter (· != 0.0)

/-- A value that says nothing: null, zero, no, or without parts. -/
def isVoid : Json → Bool
  | .null => true
  | .bool b => !b
  | .int n => n == 0
  | .float x => x == 0.0
  | .str s => s.isEmpty
  | .arr items => items.isEmpty
  | .obj fields => fields.isEmpty

/-- The record of a job; what is not set is left out. -/
def fields (job : Job) (now : Float) : List (String × Json) :=
  let started := setTime job.startedAt
  let completed := setTime job.completedAt
  let span (a b : Float) : Json := .float (Decimal.roundPlaces 2 (b - a))
  [("job_id", .str job.id), ("source_path", .str job.sourcePath),
    ("output_dir", .str job.outputDir), ("status", .str job.status.text),
    ("created_at", .float job.createdAt), ("progress", job.progress.toJson)]
  ++ (started.elim [] fun t =>
    ("started_at", .float t)
      :: if job.status = .running then [("elapsed_seconds", span t now)] else [])
  ++ (completed.elim [] fun t =>
    ("completed_at", .float t) :: (started.elim [] fun s => [("total_seconds", span s t)]))
  ++ ((job.error.filter (!·.isEmpty)).elim [] fun e => [("error", .str e)])
  ++ ((job.result.filter (!isVoid ·)).elim [] fun r => [("result", r)])

abbrev Registry := List (String × Job)

namespace Registry

def find? (m : Registry) (id : String) : Option Job := m.lookup id

def put (job : Job) : Registry → Registry
  | [] => [(job.id, job)]
  | (k, old) :: rest => if k == job.id then (k, job) :: rest else (k, old) :: put job rest

/-- The jobs with the one of an identifier changed; nothing changes where there is none. -/
def modify (id : String) (f : Job → Job) (m : Registry) : Registry :=
  m.map fun (k, job) => if k == id then (k, f job) else (k, job)

def apply (m : Registry) (id : String) (now : Float) (e : Event) : Registry :=
  m.modify id (·.apply now e)

def cancel (m : Registry) (id : String) (now : Float) : Registry × Bool :=
  match m.find? id with
  | none => (m, false)
  | some job =>
      if job.status.isOpen then (m.modify id (·.cancel now), true) else (m, false)

def jobs (m : Registry) : List Job := m.map (·.2)

end Registry

end Job

end Dissect
