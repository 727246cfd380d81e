import Dissect.Analysis.Category
import Dissect.Analysis.Retry
import Dissect.Summary.Reduce

namespace Dissect.Analysis

open Text (Utf8.Fault)

structure Setup where
  provider : String
  concurrent : Bool
  budget : Summary.Budget
  categories : List Category
  maxRetries : Int
  interCallDelay : Float
  timeout : Option Float
  useFallback : Bool

inductive SetupError
  | noCategories
  | retryLimit (e : RetryLimitError)

def SetupError.message : SetupError → String
  | .noCategories => "At least one analysis category is required"
  | .retryLimit e => e.message

/-- What an analysis is about: the partition, its graph, and the text of the file of a unit, none
where the file cannot be opened. -/
structure Subject where
  partition : Partition
  graph : Option ReferenceGraph
  unitText : SourceUnit → Except Utf8.Fault (Option String)

def Subject.groups (s : Subject) : UnitGroups := s.partition.groups

def Subject.context (s : Subject) : PromptMaterial :=
  { sourceFile := s.partition.sourceFile
    stats := Stats.of s.groups s.partition.lineCount
    graph := s.graph
    samples := ""
    priorBlocks := [] }

/-- The samples of units, one section each; units whose files cannot be opened are left out. -/
def sampleSections (s : Subject) : List SourceUnit → Except Utf8.Fault (List String)
  | [] => .ok []
  | u :: rest => do
      let text ← s.unitText u
      let sections ← sampleSections s rest
      return (text.map (sampleText u)).toList ++ sections

def samplesFor (s : Subject) (category : Category) : Except Utf8.Fault String :=
  (sampleSections s (largestUnits s.groups category.kinds category.sampleLimit)).map
    ("\n\n".intercalate ·)

def compressionPrompt : String :=
  "Summarize these JavaScript code samples. Keep unit names, call patterns and notable constructs:"

/-- The prompt of a category. Samples that make it too long are summarised, and left out if that
fails. -/
def promptFor (setup : Setup) (s : Subject) (category : Category) (samples : String) :
    Plan Call String := do
  let full := category.prompt { s.context with samples }
  if samples.isEmpty || (Summary.tokenCount full : Int) ≤ setup.budget.contextLimit then
    return full
  else
    let summary ← Summary.ofText setup.concurrent setup.budget compressionPrompt samples 0
    let shorter := match summary with
      | .ok summary => summary.text
      | .error _ => ""
    return category.prompt { s.context with samples := shorter }

/-- A result with the title of its category; a failure becomes a result too. -/
def titled (setup : Setup) (category : Category) : Except CallError Result → Result
  | .ok r => { r with title := some category.title }
  | .error e => ⟨category.name, "", .error, setup.maxRetries, some e.message, some category.title⟩

def askCategory (setup : Setup) (s : Subject) (category : Category) :
    Plan Call (Except Utf8.Fault Result) :=
  match samplesFor s category with
  | .error f => return .error f
  | .ok samples => do
      let prompt ← promptFor setup s category samples
      let fallback :=
        if setup.useFallback then
          some (standInText category s.groups s.partition.lineCount)
        else none
      let outcome ← askUpTo prompt category.name fallback setup.maxRetries.toNat
      return .ok (titled setup category outcome)

/-- The content of a result for the last prompt. One that is over its budget is summarised, and cut
off if that fails. -/
def shorten (setup : Setup) (budget : Int) (r : Result) : Plan Call String := do
  let content := if r.status = .error then "Failed: " ++ r.error.getD "None" else r.content
  if (Summary.tokenCount content : Int) ≤ budget then return content
  else
    let prompt :=
      "Condense this " ++ r.heading ++ " analysis, keeping its key findings:"
    match ← Summary.ofText setup.concurrent setup.budget prompt content 0 with
    | .ok summary => return summary.text
    | .error _ => return Text.front content (budget * Summary.tokenLength)

/-- What each of `count` results may take of the last prompt, in tokens. -/
def blockBudget (setup : Setup) (count : Nat) : Int :=
  max (setup.budget.contextLimit.fdiv (max count 1 : Nat)) 1

def joinResults (setup : Setup) (s : Subject) (category : Category) (results : List Result) :
    Plan Call Result := do
  let budget := blockBudget setup results.length
  let blocks ← Plan.inOrder (results.map fun r => do
    return r.block (← shorten setup budget r))
  let prompt := category.prompt { s.context with priorBlocks := blocks }
  let fallback := if setup.useFallback then some (standInSynthesis results) else none
  let outcome ← askUpTo prompt category.name fallback setup.maxRetries.toNat
  return titled setup category outcome

/-- Put categories to the model one after another, a pause before each but the first; `found` are
the results so far, last first. -/
def inTurn (setup : Setup) (s : Subject) (found : List Result) :
    List Category → Plan Call (Except Utf8.Fault (List Result))
  | [] => return .ok found.reverse
  | c :: rest => do
      if !found.isEmpty then pause setup.interCallDelay
      match ← askCategory setup s c with
      | .error f => return .error f
      | .ok r => inTurn setup s (r :: found) rest

def categoryResults (setup : Setup) (s : Subject) (categories : List Category) :
    Plan Call (Except Utf8.Fault (List Result)) := do
  if setup.concurrent then
    return (← Plan.together (categories.map (askCategory setup s))).mapM id
  else
    let results ← inTurn setup s [] categories
    if !categories.isEmpty && results.isOk then pause setup.interCallDelay
    return results

def run (setup : Setup) (s : Subject) (categories : List Category) (last : Category) :
    Plan Call (Except Utf8.Fault Report) := do
  match ← categoryResults setup s categories with
  | .error f => return .error f
  | .ok results =>
      let synthesis ← joinResults setup s last results
      return .ok ⟨results, some synthesis, false, setup.provider, none⟩

/-- How long an analysis may take: as given, else by whether calls run side by side. -/
def Setup.limit (setup : Setup) : Float :=
  setup.timeout.getD (if setup.concurrent then 600.0 else 1800.0)

def Setup.check (setup : Setup) : Except SetupError (List Category × Category) :=
  match setup.categories.getLast? with
  | none => .error .noCategories
  | some last =>
      match attemptsAllowed setup.maxRetries with
      | .error e => .error (.retryLimit e)
      | .ok _ => .ok (setup.categories.dropLast, last)

/-- The report of an analysis: that of its run, or a placeholder where the run did not end in time.
-/
def reportOf (setup : Setup) : Option (Except Utf8.Fault Report) → Except Utf8.Fault Report
  | some outcome => outcome
  | none => .ok (.unfinished setup.limit setup.provider)

def runInTime (setup : Setup) (s : Subject) (categories : List Category) (last : Category) :
    Plan Call (Except Utf8.Fault Report) :=
  .within setup.limit (run setup s categories last) fun outcome => .done (reportOf setup outcome)

end Dissect.Analysis
