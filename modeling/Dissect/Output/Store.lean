import Dissect.Output.UnitFile
import Dissect.Reference.Graph
import Dissect.FileTree
import Dissect.Json.Parser
import Dissect.Json.Printer

namespace Dissect.Output

open Syntax

def unitsName : String := "3_tree_sitter"
def sourceMapName : String := "sourcemap.json"
def graphName : String := "dependency_graph.json"
def analysisName : String := "llm_analysis.md"

structure Store where
  dir : Path
  stubs : Bool
deriving DecidableEq, Repr

namespace Store

def unitsDir (s : Store) : Path := s.dir.join [unitsName]
def sourceMapPath (s : Store) : Path := s.dir.join [sourceMapName]
def graphPath (s : Store) : Path := s.dir.join [graphName]
def analysisPath (s : Store) : Path := s.dir.join [analysisName]

def pathFor (s : Store) (e : Placement) : Path := s.unitsDir.join (Path.namesOf e.file.toList)

def unitContent (s : Store) (parse : Parser) (sourceFile : String) (u : SourceUnit) :
    Except TreeError String :=
  let content := withHeader u sourceFile
  if s.stubs then addStubs parse content else .ok content

end Store

inductive StoreError
  | write (path : String) (fault : FileFault)
  | open (path : String) (fault : FileFault)
  | decode (path : String) (fault : Text.Utf8.Fault)
  | parse (path : String) (text : String) (fault : Json.Fault)
  | nesting (e : Json.TooDeep)

def StoreError.message : StoreError → String
  | .write path fault => "Cannot write " ++ path ++ ": " ++ fault.message
  | .open path fault => "Cannot read sourcemap " ++ path ++ ": " ++ fault.message
  | .decode path fault => "Cannot read sourcemap " ++ path ++ ": " ++ fault.message
  | .parse path text fault => "Cannot read sourcemap " ++ path ++ ": " ++ fault.message text
  | .nesting e => e.message

/-- The failure is one that callers are prepared for. -/
def StoreError.isExpected : StoreError → Bool
  | .nesting _ => false
  | _ => true

namespace Store

def loadUnit (s : Store) (files : FileTree) (e : Placement) :
    Except Text.Utf8.Fault (Option String) :=
  match files.read (s.pathFor e) with
  | .error _ => .ok none
  | .ok content => (Text.read content).map some

def loadSourceMap (s : Store) (files : FileTree) : Except StoreError Json :=
  let path := s.sourceMapPath.toText
  match files.read s.sourceMapPath with
  | .error f => .error (.open path f)
  | .ok content =>
      match Text.read content with
      | .error f => .error (.decode path f)
      | .ok text =>
          match Json.parse text with
          | .error (.tooDeep e) => .error (.nesting e)
          | .error f => .error (.parse path text f)
          | .ok v => .ok v

end Store

/-- The files of each name, names in the order of their first units. -/
def filesByName (entries : List Placement) : List (String × List String) :=
  (distinct (entries.map (·.name))).map fun name =>
    (name, (entries.filter (·.name == name)).map fun e => unitsName ++ "/" ++ e.file)

end Dissect.Output
