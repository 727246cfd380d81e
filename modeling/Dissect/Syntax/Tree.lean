import Dissect.Text.Utf8

namespace Dissect.Syntax

structure Label where
  type : String
  named : Bool
  missing : Bool
  hasError : Bool
  start : Nat
  stop : Nat
  field : Option String
deriving DecidableEq, Repr, Inhabited

inductive Tree
  | node (label : Label) (children : List Tree)
deriving Inhabited

namespace Tree

def label : Tree → Label
  | .node l _ => l

def children : Tree → List Tree
  | .node _ cs => cs

def child? (field : String) (t : Tree) : Option Tree :=
  t.children.find? fun c => c.label.field == some field

def octets (source : Bytes) (t : Tree) : Bytes :=
  Text.Utf8.slice source t.label.start t.label.stop

/-- The text of a node; its range may cut a character. -/
def text (source : Bytes) (t : Tree) : Except Text.Utf8.Fault String :=
  Text.Utf8.decode (t.octets source)

mutual

def size : Tree → Nat
  | .node _ cs => sizes cs + 1

def sizes : List Tree → Nat
  | [] => 0
  | t :: rest => t.size + sizes rest

end

theorem size_eq (t : Tree) : t.size = sizes t.children + 1 := by
  cases t with
  | node l cs => rw [size]; rfl

theorem sizes_append (as bs : List Tree) : sizes (as ++ bs) = sizes as + sizes bs := by
  induction as with
  | nil => simp [sizes]
  | cons t rest ih => simp only [List.cons_append, sizes, ih]; omega

end Tree

/-- A parser: the tree of a source, unless it gives none. -/
abbrev Parser := Bytes → Option Tree

inductive TreeError
  | noTree
  | notUtf8 (fault : Text.Utf8.Fault)

def TreeError.message : TreeError → String
  | .noTree => "'NoneType' object has no attribute 'root_node'"
  | .notUtf8 fault => fault.message

end Dissect.Syntax
