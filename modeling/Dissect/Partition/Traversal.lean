import Dissect.Partition.Basic
import Dissect.Syntax.NodeType
import Dissect.Syntax.Tree
import Dissect.Text.Blank
import Dissect.Text.Lines

namespace Dissect.Partition

open Syntax Text

/-- Why a name cannot be told: the text of a node cuts a character, or patterns stand inside too
many others. -/
inductive NameFault
  | notUtf8 (fault : Utf8.Fault)
  | tooDeep
deriving DecidableEq, Repr

def NameFault.message : NameFault → String
  | .notUtf8 fault => fault.message
  | .tooDeep => "maximum recursion depth exceeded"

/-- How many patterns can stand inside one another. -/
def nestingLimit : Nat := 980

def nameText (source : Bytes) (t : Tree) : Except NameFault String :=
  (t.text source).mapError .notUtf8

/-- The text of a field, trimmed; none for a pattern or where nothing is left. -/
def trimmedField (source : Bytes) (field : String) (t : Tree) :
    Except NameFault (Option String) :=
  match t.child? field with
  | none => .ok none
  | some child =>
      if child.label.type.endsWith "_pattern" then .ok none
      else do
        let name := trim (← nameText source child)
        return if name.isEmpty then none else some name

mutual

/-- The names that a declarator's name or pattern binds, in order; there is room for so many
patterns inside one another. -/
def boundNames (source : Bytes) : Nat → Tree → Except NameFault (List String)
  | 0, _ => .error .tooDeep
  | room + 1, .node label children =>
      if bindsName label.type then do
        return [← nameText source (.node label children)]
      else if hasDefault label.type then boundInField source "left" room children
      else if label.type == "pair_pattern" then boundInField source "value" room children
      else boundInNamed source room children
termination_by structural _ t => t

/-- The names bound in the first of several nodes that fills a field. -/
def boundInField (source : Bytes) (field : String) (room : Nat) :
    List Tree → Except NameFault (List String)
  | [] => .ok []
  | t :: rest =>
      if t.label.field == some field then boundNames source room t
      else boundInField source field room rest
termination_by structural ts => ts

def boundInNamed (source : Bytes) (room : Nat) : List Tree → Except NameFault (List String)
  | [] => .ok []
  | t :: rest =>
      if t.label.named then do
        return (← boundNames source room t) ++ (← boundInNamed source room rest)
      else boundInNamed source room rest
termination_by structural ts => ts

end

def declaratorNames (source : Bytes) : List Tree → Except NameFault (List String)
  | [] => .ok []
  | t :: rest =>
      match t.label.type == "variable_declarator", t.child? "name" with
      | true, some name => do
          return (← boundNames source nestingLimit name) ++ (← declaratorNames source rest)
      | _, _ => declaratorNames source rest

def unitName (source : Bytes) (kind : UnitKind) (parentName : Option String) (t : Tree) :
    Naming → Except NameFault (String × Bool)
  | .declared => do
      match ← trimmedField source "name" t with
      | some name => return (name, true)
      | none => return ("anonymous", false)
  | .declarators => do
      match ← declaratorNames source t.children with
      | [] => return ("anonymous", false)
      | names => return ("_".intercalate names, true)
  | .statement =>
      let first := t.children.find? fun c => c.label.named && c.label.type != "comment"
      .ok (kind.text ++ "_" ++ (first.elim "default" (·.label.type)), false)
  | .arrow =>
      match parentName with
      | none => .ok ("anonymous_arrow", false)
      | some name => .ok (if name.isEmpty then "anonymous_arrow" else name ++ "_arrow", false)

structure Finding where
  name : String
  kind : UnitKind
  startByte : Nat
  endByte : Nat
  startLine : Nat
  endLine : Nat
  parentName : Option String
  depth : Nat
deriving DecidableEq, Repr

/-- A node to visit: its nearest named ancestor and the number of units around it. -/
structure Visit where
  tree : Tree
  parentName : Option String
  depth : Nat

/-- What a visit finds: a finding if the node is a unit, and how its children are to be visited. -/
def visit (source : Bytes) (v : Visit) : Except NameFault (Option Finding × Option String × Nat) :=
  let label := v.tree.label
  match unitRule? label.type with
  | some (kind, naming) => do
      let (name, declared) ← unitName source kind v.parentName v.tree naming
      let finding : Finding :=
        ⟨name, kind, label.start, label.stop, lineFeedsBefore source label.start + 1,
          lineFeedsBefore source label.stop + 1, v.parentName, v.depth⟩
      return (some finding, if declared then some name else v.parentName, v.depth + 1)
  | none => do
      let own ← trimmedField source "name" v.tree
      return (none, own.or v.parentName, v.depth)

def pending : List Visit → Nat
  | [] => 0
  | v :: work => v.tree.size + pending work

theorem pending_children (parentName : Option String) (depth : Nat) (ts : List Tree)
    (work : List Visit) :
    pending ((ts.map fun c => ⟨c, parentName, depth⟩) ++ work)
      = Tree.sizes ts + pending work := by
  induction ts with
  | nil => simp [Tree.sizes]
  | cons t rest ih =>
      simp only [List.map_cons, List.cons_append, pending, Tree.sizes, ih]
      omega

/-- Visit nodes in turn, the children of each before the nodes after it. -/
def traverseOnto (source : Bytes) (found : Array Finding) :
    List Visit → Except NameFault (Array Finding)
  | [] => .ok found
  | v :: work =>
      match visit source v with
      | .error f => .error f
      | .ok (finding?, parentName, depth) =>
          let found := match finding? with
            | some d => found.push d
            | none => found
          traverseOnto source found
            ((v.tree.children.map fun c => ⟨c, parentName, depth⟩) ++ work)
termination_by work => pending work
decreasing_by
  rw [pending_children, pending, Tree.size_eq]
  omega

def traverse (source : Bytes) (root : Tree) : Except NameFault (List Finding) :=
  (traverseOnto source #[] [⟨root, none, 0⟩]).map Array.toList

/-- The first node that is an error or missing, looked for below nodes with the error mark only. -/
def firstFault? : List Tree → Option Tree
  | [] => none
  | t :: work =>
      if t.label.type == "ERROR" || t.label.missing then some t
      else if t.label.hasError then firstFault? (t.children ++ work)
      else firstFault? work
termination_by work => Tree.sizes work
decreasing_by
  · simp only [Tree.sizes_append, Tree.sizes, Tree.size_eq t]; omega
  · simp only [Tree.sizes, Tree.size_eq t]; omega

/-- The line of the first error of a tree, or of its root. -/
def faultLine (source : Bytes) (root : Tree) : Nat :=
  lineFeedsBefore source ((firstFault? [root]).getD root).label.start + 1

end Dissect.Partition
