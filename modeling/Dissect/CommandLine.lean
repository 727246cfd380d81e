import Dissect.Session
import Dissect.Settings.Assembly

namespace Dissect.CommandLine

inductive Level
  | info
  | warning
  | error
deriving DecidableEq, Repr

def Level.text : Level → String
  | .info => "INFO"
  | .warning => "WARNING"
  | .error => "ERROR"

structure Entry where
  level : Level
  text : String
deriving DecidableEq, Repr

inductive Failure
  | settings (e : SettingsError)
  | assembly (e : AssemblyError)
  | file (f : FileFault)
  | run (e : RunError)

def Failure.message : Failure → String
  | .settings e => e.message
  | .assembly e => e.message
  | .file f => f.message
  | .run e => e.message

inductive Ending
  | code (n : Nat)
  | failure (f : Failure)

structure Outcome where
  log : List Entry
  files : FileTree
  ending : Ending

def variableNames : List String := ["SOURCE_PATH", "RUN_NAME"] ++ Settings.variableNames

/-- The value of a variable that is set; an empty one counts as not set. -/
def setVariable (env : Environment) (name : String) : Option String :=
  (env.lookup name).filter (!·.isEmpty)

/-- The path of the source: from the environment, else the first argument. -/
def sourceOf (env : Environment) (arguments : List String) : Option String :=
  (setVariable env "SOURCE_PATH").or (arguments.head?.filter (!·.isEmpty))

def refused (files : FileTree) (reason : String) : Outcome := ⟨[⟨.error, reason⟩], files, .code 1⟩

def rule : Entry := ⟨.info, String.ofList (List.replicate 60 '=')⟩

def kindCounts (groups : UnitGroups) : String :=
  "\x7b" ++ ", ".intercalate (groups.map fun g =>
    Text.quoted g.1.text ++ ": " ++ toString g.2.length) ++ "\x7d"

/-- What a report has to warn about: that it is a placeholder, else what it has stand-ins for. -/
def reportWarning (r : Analysis.Report) : List Entry :=
  if r.timedOut then [⟨.warning, "Analysis timed out; a placeholder report was written"⟩]
  else
    match r.standIns with
    | [] => []
    | names => [⟨.warning, "Fallback content used for: " ++ ", ".intercalate names⟩]

def summaryLog (r : RunResult) : List Entry :=
  [rule, ⟨.info, "DECONSTRUCTION COMPLETE"⟩, rule,
    ⟨.info, "Lines: " ++ toString r.partition.lineCount⟩,
    ⟨.info, "Units: " ++ toString r.partition.units.length ++ " "
      ++ kindCounts r.partition.groups⟩,
    ⟨.info, "Dependency edges: " ++ toString r.graph.edges.length ++ " ("
      ++ toString r.graph.distinctEdges.length ++ " distinct)"⟩]
  ++ reportWarning r.report
  ++ [⟨.info, "Analysis: " ++ r.store.analysisPath.toText⟩, rule]

def healthLog (p : Backend) : List Entry :=
  if p.isHealthyAlone then []
  else
    [⟨.warning, p.name ++ " health check failed; analysis will use fallback content"⟩]

def outcomeOf (log : List Entry) (files : FileTree) :
    Option (Except RunError RunResult) → Outcome
  | some (.ok r) => ⟨log ++ summaryLog r, files, .code 0⟩
  | some (.error e) =>
      if e.isExpected then
        ⟨log ++ [⟨.error, "Deconstruction failed: " ++ e.message⟩], files, .code 1⟩
      else ⟨log, files, .failure (.run e)⟩
  | none => ⟨log, files, .code 1⟩

def runWith (p : Backend) (runner : Runner) (source dir : Path) (log : List Entry)
    (files : FileTree) : Outcome :=
  let run := Plan.carryOut (Surroundings.effects p.alone) (runner.run source dir)
    ⟨files, 0.0, [], [], ()⟩
  outcomeOf log run.state.files run.plan.result?

def outputDir (s : Settings) (env : Environment) (source : Path) : Path :=
  s.outputDir.join [Partition.fileStem ((setVariable env "RUN_NAME").getD source.stem)]

def openingLog (s : Settings) (source dir : Path) : List Entry :=
  [⟨.info, "Deconstructing: " ++ source.toText⟩, ⟨.info, "Output directory: " ++ dir.toText⟩,
    ⟨.info, "LLM provider: " ++ s.provider⟩]

def runExisting (parse : Syntax.Parser) (s : Settings) (env : Environment) (source : Path)
    (files : FileTree) : Outcome :=
  let dir := outputDir s env source
  let log := openingLog s source dir
  match s.backend with
  | .error e => ⟨log, files, .failure (.assembly e)⟩
  | .ok p =>
      let log := log ++ healthLog p
      match s.runner parse p with
      | .error e => ⟨log, files, .failure (.assembly e)⟩
      | .ok runner => runWith p runner source dir log files

/-- Check a source, its type first and then that there is such a file, and run it. -/
def runChecked (parse : Syntax.Parser) (s : Settings) (env : Environment) (sourcePath : String)
    (files : FileTree) : Outcome :=
  let source := Path.ofText sourcePath
  if !Syntax.isSourcePath source then
    refused files ("Unsupported file type: " ++ sourcePath ++ " (expected one of "
      ++ ", ".intercalate Syntax.extensions ++ ")")
  else
    match files.isFile source with
    | .error f => ⟨[], files, .failure (.file f)⟩
    | .ok false => refused files ("Source file does not exist: " ++ sourcePath)
    | .ok true => runExisting parse s env source files

def run (parse : Syntax.Parser) (env : Environment) (arguments : List String) (files : FileTree) :
    Outcome :=
  match Settings.ofEnvironment env, sourceOf env arguments with
  | .error e, _ => ⟨[], files, .failure (.settings e)⟩
  | .ok _, none =>
      refused files "Set SOURCE_PATH or pass the JavaScript file as the first argument"
  | .ok s, some sourcePath => runChecked parse s env sourcePath files

end Dissect.CommandLine
