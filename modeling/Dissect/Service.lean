import Dissect.Job.Registry
import Dissect.Runner

namespace Dissect

/-- What a task does to its surroundings: the effects of a run, and what it has to do with jobs. -/
inductive TaskEffect : Type → Type 1
  | run {α : Type} (e : Effect α) : TaskEffect α
  | findJob (id : String) : TaskEffect (Option Job)
  | track (id : String) (e : Job.Event) : TaskEffect Unit

/-- The source map of a run does not have the shape that is asked of it. -/
inductive ShapeError
  | noFields (v : Json)
  | noItems (v : Json)
  | noLength (v : Json)

inductive ServiceError
  | run (e : RunError)
  | file (f : FileFault)
  | text (f : Text.Utf8.Fault)
  | shape (e : ShapeError)

structure Service where
  runner : Runner
  outputRoot : Path

namespace Service

def refusal (reason : String) : Json := .obj [("success", .bool false), ("error", .str reason)]

def success (fields : List (String × Json)) : Json := .obj (("success", .bool true) :: fields)

def noJob (id : String) : Json := refusal ("Job " ++ id ++ " not found")

/-- What is wrong with a path to a source: its type first, then that there is no such file. -/
def complaint (files : FileTree) (sourcePath : String) : Except FileFault (Option String) :=
  let path := Path.ofText sourcePath
  if !Syntax.isSourcePath path then
    .ok (some ("Unsupported file type: " ++ sourcePath ++ " (expected one of "
      ++ ", ".intercalate Syntax.extensions ++ ")"))
  else do
    return if ← files.isFile path then none else some ("Source file does not exist: " ++ sourcePath)

/-- The directory of a run: by its name, or the name of its source where it has none. -/
def runDirectory (root : Path) (sourcePath : String) (runName : Option String) : Path :=
  let name := (runName.filter (!·.isEmpty)).getD (Path.ofText sourcePath).stem
  root.join [Partition.fileStem name]

def dissect (t : Service) (sourcePath : String) (runName : Option String) :
    Plan Effect (Except ServiceError Json) := do
  let files ← Plan.perform Effect.look
  match complaint files sourcePath with
  | .error f => return .error (.file f)
  | .ok (some reason) => return .ok (refusal reason)
  | .ok none =>
      match ← t.runner.run (.ofText sourcePath) (runDirectory t.outputRoot sourcePath runName) with
      | .ok r => return .ok (success r.fields)
      | .error e =>
          if e.isExpected then return .ok (refusal e.message) else return .error (.run e)

def jobDirectory (t : Service) (sourcePath : String) (runName : Option String) (id : String) :
    Path :=
  let name := (runName.filter (!·.isEmpty)).getD ((Path.ofText sourcePath).stem ++ "_" ++ id)
  runDirectory t.outputRoot sourcePath (some name)

def startedAnswer (job : Job) : Json :=
  success [("job_id", .str job.id), ("output_dir", .str job.outputDir),
    ("message", .str
      ("Deconstruction started. Check progress with get_job_status('" ++ job.id ++ "')"))]

def updateOf (r : StageReport) : Job.Update :=
  match r with
  | .partition n => ⟨some r.stage, some n, none, none, none⟩
  | .files n => ⟨some r.stage, none, some n, none, none⟩
  | .references n => ⟨some r.stage, none, none, some n, none⟩
  | .analysis n _ => ⟨some r.stage, none, none, none, some n⟩

/-- An effect of the run of a job: the ends of stages go to the job. -/
def tracked (id : String) : {α : Type} → Effect α → TaskEffect α
  | _, .report r => .track id (.progressed (updateOf r))
  | _, e => .run e

/-- Carry out a job. A failure that was expected ends the job; any other ends its task alone. -/
def runJob (t : Service) (id : String) : Plan TaskEffect (Except ServiceError Json) := do
  match ← Plan.perform (TaskEffect.findJob id) with
  | none => return .ok (noJob id)
  | some job =>
      Plan.perform (.track id .started)
      let run := t.runner.run (.ofText job.sourcePath) (.ofText job.outputDir)
      match ← Plan.lift (tracked id) run with
      | .ok r =>
          Plan.perform (.track id (.completed (.obj r.fields)))
          return .ok (success r.fields)
      | .error e =>
          if e.isExpected then
            Plan.perform (.track id (.failed e.message))
            return .ok (refusal e.message)
          else return .error (.run e)

def isOfKind (kind : String) : Json → Except ShapeError Bool
  | .obj fields =>
      match fields.lookup "type" with
      | some (.str k) => .ok (k == kind)
      | _ => .ok false
  | v => .error (.noFields v)

/-- The parts that something gives one after another: the items of a list, the names of fields, the
characters of a text. -/
def items : Json → Except ShapeError (List Json)
  | .arr items => .ok items
  | .obj fields => .ok (fields.map fun f => .str f.1)
  | .str s => .ok (s.toList.map fun c => .str (String.ofList [c]))
  | v => .error (.noItems v)

def entriesOfKind (kind : Option String) (entries : Json) : Except ShapeError Json :=
  match kind.filter (!·.isEmpty) with
  | none => .ok entries
  | some kind => do return .arr (← (← items entries).filterM (isOfKind kind))

def count (v : Json) : Except ShapeError Nat :=
  match items v with
  | .ok l => .ok l.length
  | .error _ => .error (.noLength v)

def unitsAnswer (dir : Path) (kind : Option String) (sourceMap : Json) : Except ShapeError Json :=
  match sourceMap with
  | .obj fields => do
      let entries ← entriesOfKind kind ((fields.lookup "chunks").getD (.arr []))
      return success [("original_file", (fields.lookup "originalFile").getD .null),
        ("units_dir", .str (dir.join [Output.unitsName]).toText),
        ("total_units", .nat (← count entries)), ("units", entries)]
  | v => .error (.noFields v)

def listUnits (jobs : Job.Registry) (files : FileTree) (id : String) (kind : Option String) :
    Except ServiceError Json :=
  match jobs.find? id with
  | none => .ok (noJob id)
  | some job =>
      let dir := Path.ofText job.outputDir
      match Output.Store.loadSourceMap ⟨dir, true⟩ files with
      | .error e => if e.isExpected then .ok (refusal e.message) else .error (.run (.store e))
      | .ok sourceMap => (unitsAnswer dir kind sourceMap).mapError .shape

def summaryAnswer (kind : UnitKind) (directory : Path) :
    Except CallError Summary → Json
  | .error e => refusal e.message
  | .ok s =>
      success [("kind", .str kind.text), ("directory", .str directory.toText),
        ("summary", .str s.text), ("calls", .nat s.calls), ("dropped_chunks", .nat s.dropped)]

def summaryOfUnits (t : Service) (jobs : Job.Registry) (files : FileTree) (id kind : String) :
    Plan Call (Except ServiceError Json) :=
  match jobs.find? id with
  | none => return .ok (noJob id)
  | some job =>
      match UnitKind.ofText? kind with
      | none => return .ok (refusal ("Unknown unit kind: " ++ kind))
      | some k =>
          let directory := (Path.ofText job.outputDir).join [Output.unitsName, k.directory]
          match files.isDir directory with
          | .error f => return .error (.file f)
          | .ok false =>
              return .ok (refusal ("No " ++ k.directory ++ " written for job " ++ id))
          | .ok true =>
              let p := t.runner
              match Summary.ofDirectory p.concurrent p.budget files directory none with
              | .error f => return .error (.text f)
              | .ok plan => plan.bind fun s => .done (.ok (summaryAnswer k directory s))

end Service

end Dissect
