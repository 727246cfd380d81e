import Dissect.Decimal.Layout
import Dissect.Json.Basic
import Dissect.Text.Case

namespace Dissect.Analysis

inductive Status
  | ok
  | fallback
  | error
deriving DecidableEq, Repr

def Status.text : Status → String
  | .ok => "ok"
  | .fallback => "fallback"
  | .error => "error"

structure Result where
  category : String
  content : String
  status : Status
  attempts : Int
  error : Option String
  title : Option String
deriving DecidableEq, Repr

/-- The title of a result: its own, or its category in words. -/
def Result.heading (r : Result) : String :=
  match r.title.filter (!·.isEmpty) with
  | some title => title
  | none =>
      Text.title (String.ofList (r.category.toList.map fun c => if c == '_' then ' ' else c))

def Result.toJson (r : Result) : Json :=
  .obj [("category", .str r.category), ("title", .str r.heading),
    ("status", .str r.status.text), ("attempts", .int r.attempts), ("error", .ofText? r.error),
    ("content", .str r.content)]

def Result.section (r : Result) : String :=
  match r.status with
  | .error => "**Error**: Failed to analyze due to " ++ r.error.getD "None" ++ "\n"
  | .fallback =>
      "_Generated from unit statistics; the model was unavailable._\n\n" ++ r.content ++ "\n"
  | .ok => r.content ++ "\n"

def Result.block (r : Result) (content : String) : String :=
  "--- Analysis: " ++ r.heading ++ " ---\n" ++ content

structure Report where
  results : List Result
  synthesis : Option Result
  timedOut : Bool
  provider : String
  timeout : Option Float

/-- The report of an analysis that did not end in time. -/
def Report.unfinished (timeout : Float) (provider : String) : Report :=
  ⟨[], none, true, provider, some timeout⟩

def Report.standIns (r : Report) : List String :=
  (r.results.filter (·.status == .fallback)).map (·.category)

def Report.toJson (r : Report) : Json :=
  .obj [("provider", .str r.provider), ("timed_out", .bool r.timedOut),
    ("results", .arr (r.results.map Result.toJson)),
    ("synthesis", (r.synthesis.map Result.toJson).getD .null)]

/-- A report that ran out of time and does not say which. -/
inductive ReportError
  | noTimeout

def Report.document (r : Report) (sourceFile : String) : Except ReportError String :=
  let heading := "# LLM Analysis of " ++ sourceFile ++ "\n"
  if r.timedOut then
    match r.timeout with
    | none => .error .noTimeout
    | some timeout =>
        let provider := if r.provider.isEmpty then "the configured provider" else r.provider
        .ok <| "\n".intercalate [heading, "## Analysis timed out\n",
          "The analysis did not finish within " ++ Decimal.generalText timeout ++ " seconds using "
            ++ provider ++ ". Unit files, the sourcemap and the dependency graph are still "
            ++ "available.\n"]
  else
    let provider := if r.provider.isEmpty then [] else ["_Provider: " ++ r.provider ++ "_\n"]
    let sections := (r.results ++ r.synthesis.toList).flatMap fun s =>
      ["## " ++ s.heading ++ "\n", s.section]
    .ok ("\n".intercalate (heading :: provider ++ sections))

end Dissect.Analysis
