import Dissect.Reference.Graph
import Dissect.Partition.Basic
import Dissect.Syntax.NodeType
import Dissect.Syntax.Tree

namespace Dissect.Reference

open Syntax Text

/-- The text of a unit as it is parsed: a method stands inside a class. -/
def scannedSource (u : SourceUnit) : Bytes :=
  if u.kind = .method then
    Utf8.encode "class __unit__ \x7b\n" ++ Utf8.encode u.code ++ Utf8.encode "\n\x7d"
  else Utf8.encode u.code

/-- Whether a node is the name that its parent declares. -/
def isDeclaration (parent : Option Tree) (t : Tree) : Bool :=
  match parent with
  | none => false
  | some p =>
      declaresName p.label.type &&
        (p.child? "name").any fun name =>
          name.label.start == t.label.start && name.label.stop == t.label.stop

def isReference (parent : Option Tree) (t : Tree) : Bool :=
  refersToName t.label.type && !isDeclaration parent t

def remaining : List (Option Tree × Tree) → Nat
  | [] => 0
  | (_, t) :: work => t.size + remaining work

theorem remaining_children (p : Option Tree) (ts : List Tree) (work : List (Option Tree × Tree)) :
    remaining ((ts.map fun c => (p, c)) ++ work) = Tree.sizes ts + remaining work := by
  induction ts with
  | nil => simp [Tree.sizes]
  | cons t rest ih =>
      simp only [List.map_cons, List.cons_append, remaining, Tree.sizes, ih]
      omega

/-- Scan nodes in turn, each with its parent, the children of each before the nodes after it. -/
def scanOnto (source : Bytes) (found : Array String) :
    List (Option Tree × Tree) → Except Utf8.Fault (Array String)
  | [] => .ok found
  | (parent, t) :: work =>
      let next := (t.children.map fun c => (some t, c)) ++ work
      if isReference parent t then
        match t.text source with
        | .error f => .error f
        | .ok name => scanOnto source (found.push name) next
      else scanOnto source found next
termination_by work => remaining work
decreasing_by
  all_goals
    rw [remaining_children, remaining, Tree.size_eq]
    omega

def references (parse : Parser) (u : SourceUnit) : Except TreeError (List String) :=
  let source := scannedSource u
  match parse source with
  | none => .error .noTree
  | some root =>
      match scanOnto source #[] [(none, root)] with
      | .error f => .error (.notUtf8 f)
      | .ok names => .ok names.toList

def edgesOf (parse : Parser) (known : List String) :
    List SourceUnit → Except TreeError (List (String × String))
  | [] => .ok []
  | u :: rest => do
      let names ← references parse u
      return (names.filter known.contains).map (u.name, ·) ++ (← edgesOf parse known rest)

/-- The names of a graph: those of the units, then the other known ones in order. -/
def nodesOf (units : List SourceUnit) (known : List String) : List String :=
  let own := distinct (units.map (·.name))
  own ++ ((distinct known).filter fun k => !own.contains k).mergeSort (· ≤ ·)

/-- The graph of references between units. Known names are the names of the units, unless others are
given. -/
def graphOf (parse : Parser) (units : List SourceUnit) (names : Option (List String)) :
    Except TreeError ReferenceGraph := do
  let known := names.getD (units.map (·.name))
  return ⟨nodesOf units known, ← edgesOf parse known units⟩

end Dissect.Reference
