import Dissect.Partition.Basic
import Dissect.Syntax.NodeType
import Dissect.Syntax.Tree

namespace Dissect.Output

open Syntax Text

/-- The code of a unit under a header that names its kind and its lines. -/
def withHeader (u : SourceUnit) (sourceFile : String) : String :=
  "// " ++ u.kind.text ++ ": " ++ u.name ++ "\n// Lines " ++ toString u.startLine ++ "-"
    ++ toString u.endLine ++ " from " ++ sourceFile ++ "\n\n" ++ u.code

/-- The stub for a function: its name, a line for each plain parameter, and a result. -/
def stub (name : String) (parameters : List String) : String :=
  "/**\n * Function " ++ name ++ "\n"
    ++ String.join (parameters.map fun p => " * @param \x7bany\x7d " ++ p ++ "\n")
    ++ " * @returns \x7bany\x7d\n */\n"

def texts (source : Bytes) : List Tree → Except Utf8.Fault (List String)
  | [] => .ok []
  | t :: rest => do return (← t.text source) :: (← texts source rest)

def stubOf (source : Bytes) (t : Tree) : Except Utf8.Fault String := do
  let name ← (t.child? "name").elim (.ok "anonymous") (·.text source)
  let parameters ← texts source
    (((t.child? "parameters").elim [] Tree.children).filter (·.label.type == "identifier"))
  return stub name parameters

abbrev Insertion := Nat × Bytes

def insertions (source : Bytes) : List Tree → Except Utf8.Fault (List Insertion)
  | [] => .ok []
  | t :: rest =>
      if takesStub t.label.type then do
        let s ← stubOf source t
        return (t.label.start, Utf8.encode s) :: (← insertions source rest)
      else insertions source rest

def octetsLe : Bytes → Bytes → Bool
  | [], _ => true
  | _ :: _, [] => false
  | a :: as, b :: bs => a < b || (a == b && octetsLe as bs)

def insertionGe (a b : Insertion) : Bool := b.1 < a.1 || (a.1 == b.1 && octetsLe b.2 a.2)

def insertAt (source : Bytes) (i : Insertion) : Bytes :=
  source.take i.1 ++ i.2 ++ source.drop i.1

/-- All insertions, back to front so that the offsets before them stay valid. -/
def insertAll (source : Bytes) (is : List Insertion) : Bytes :=
  (is.mergeSort insertionGe).foldl insertAt source

/-- The code with a stub before each function or method at the top of its tree. -/
def addStubs (parse : Parser) (code : String) : Except TreeError String :=
  let source := Utf8.encode code
  match parse source with
  | none => .error .noTree
  | some root =>
      match insertions source root.children with
      | .error f => .error (.notUtf8 f)
      | .ok is => (Utf8.decode (insertAll source is)).mapError .notUtf8

end Dissect.Output
