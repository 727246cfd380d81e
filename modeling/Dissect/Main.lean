import Dissect.CommandLine
import Dissect.Json.Parser
import Dissect.Syntax.Record

/-!
The program. Its first argument is the source; the second is a JSON file with sources and the rows
of their trees, from which sources are parsed. The log goes to the standard error.
-/

namespace Dissect

def readFile? (path : String) : IO (Option Bytes) := do
  try return some (← IO.FS.readBinFile path).toList
  catch _ => return none

def readEnvironment : IO Environment :=
  CommandLine.variableNames.filterMapM fun name => do
    return (← IO.getEnv name).map fun value => (name, value)

/-- The parser of a file of records; without one no source has a tree. -/
def readParser (path : Option String) : IO Syntax.Parser := do
  let content ← match path with
    | some path => readFile? path
    | none => pure none
  let text := (Text.Utf8.decode (content.getD [])).toOption
  return .ofRecords ((text.bind fun t => (Json.parse t).toOption).getD .null)

/-- The tree that holds nothing but the source. -/
def readSource (path : Option String) : IO FileTree := do
  let some path := path | return .empty
  match ← readFile? path with
  | some content => return (FileTree.empty.write (.ofText path) content).1
  | none => return .empty

/-- Write the files that are not in an earlier tree as they are now. -/
def writeChanges (before after : FileTree) : IO Unit :=
  after.files.forM fun (loc, content) => do
    if before.fileAt? loc != some content then
      IO.FS.createDirAll loc.up.toText
      IO.FS.writeBinFile loc.toText ⟨content.toArray⟩

end Dissect

open Dissect

def main (arguments : List String) : IO UInt32 := do
  let env ← readEnvironment
  let parse ← readParser arguments.tail.head?
  let files ← readSource (CommandLine.sourceOf env arguments)
  let outcome := CommandLine.run parse env arguments files
  writeChanges files outcome.files
  for entry in outcome.log do
    IO.eprintln (entry.level.text ++ " - " ++ entry.text)
  match outcome.ending with
  | .code n => return n.toUInt32
  | .failure f =>
      IO.eprintln f.message
      return 1
