import Dissect.Json.Access
import Dissect.Syntax.Tree

/-!
Recorded trees. A record lists the nodes of a tree, each before its children, as rows: the type, the
marks, the first octet, the octet behind the last, the number of children, and the field if the node
fills one. A parser that works from records looks sources up.
-/

namespace Dissect.Syntax

/-- The label and the number of children in a row; the marks are bits, `named` the lowest. -/
def Label.ofRow? : List Json → Option (Label × Nat)
  | type :: marks :: start :: stop :: count :: rest => do
      let marks ← marks.natural?
      return (⟨← type.text?, marks % 2 == 1, marks / 2 % 2 == 1, marks / 4 % 2 == 1,
        ← start.natural?, ← stop.natural?, rest.head?.bind Json.text?⟩, ← count.natural?)
  | _ => none

/-- The trees of rows, last row first: a node takes its children from the trees behind it. -/
def Tree.ofRowsBack (built : List Tree) : List Json → List Tree
  | [] => built
  | row :: rest =>
      match Label.ofRow? row.elements with
      | some (label, count) =>
          ofRowsBack (.node label (built.take count) :: built.drop count) rest
      | none => ofRowsBack built rest

def Tree.ofRows? (rows : List Json) : Option Tree := (Tree.ofRowsBack [] rows.reverse).head?

def Tree.ofRecord? : Json → Option Tree
  | .arr rows => Tree.ofRows? rows
  | _ => none

def Parser.ofTable (table : List (Bytes × Option Tree)) : Parser :=
  fun source => (table.lookup source).join

def sourceRecord (record : Json) : Bytes × Option Tree :=
  match record.elements with
  | [.str source, rows] => (Text.Utf8.encode source, Tree.ofRecord? rows)
  | _ => ([], none)

def Parser.ofRecords (records : Json) : Parser :=
  Parser.ofTable (records.elements.map sourceRecord)

end Dissect.Syntax
