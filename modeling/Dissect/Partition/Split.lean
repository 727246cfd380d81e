import Dissect.Partition.Coverage
import Dissect.Partition.Traversal

namespace Dissect.Partition

open Syntax Text

inductive SplitError
  | notUtf8 (file : String) (fault : Utf8.Fault)
  | noTree (file : String)
  | syntaxError (file : String) (line : Nat)
  | name (fault : NameFault)

def SplitError.message : SplitError → String
  | .notUtf8 file fault => file ++ " is not valid UTF-8: " ++ fault.message
  | .noTree file => "Parser returned no tree for " ++ file
  | .syntaxError file line => "Syntax error in " ++ file ++ " near line " ++ toString line
  | .name fault => fault.message

def unitOf (source : Bytes) (id : Nat) (d : Finding) : SourceUnit where
  id := id
  name := d.name
  kind := d.kind
  startLine := d.startLine
  endLine := d.endLine
  startByte := d.startByte
  endByte := d.endByte
  code := Utf8.decodeLenient (Utf8.slice source d.startByte d.endByte)
  parentName := d.parentName
  depth := d.depth
  spans := [(d.startLine, d.endLine)]

def unitsOf (source : Bytes) (found : List Finding) : List SourceUnit :=
  found.mapIdx fun i d => unitOf source i d

/-- The partition of a source that is text, by its tree. -/
def ofTree (strict : Bool) (source : Bytes) (text : String) (root : Tree) (sourceFile : String) :
    Except SplitError Partition :=
  if root.label.hasError && strict then
    .error (.syntaxError sourceFile (faultLine source root))
  else
    match traverse source root with
    | .error f => .error (.name f)
    | .ok found =>
        let lineCount := lineTotal text
        let units := unitsOf source found
        let units := units ++ (unclaimedUnit? units text lineCount).toList
        .ok (ofUnits units lineCount sourceFile root.label.hasError)

/-- The partition of a source: the units of its tree in pre-order, then the base unit. In the strict
mode a tree with errors is refused. -/
def split (parse : Parser) (strict : Bool) (source : Bytes) (sourceFile : String) :
    Except SplitError Partition :=
  match Utf8.decode source with
  | .error f => .error (.notUtf8 sourceFile f)
  | .ok text =>
      match parse source with
      | none => .error (.noTree sourceFile)
      | some root => ofTree strict source text root sourceFile

end Dissect.Partition
