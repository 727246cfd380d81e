import Dissect.Path
import Dissect.Text.Case
import Dissect.UnitKind

namespace Dissect.Syntax

inductive Naming
  | declared
  /-- from all names that its declarators bind -/
  | declarators
  /-- from the kind and its first named child -/
  | statement
  /-- from the nearest named ancestor -/
  | arrow
deriving DecidableEq, Repr

/-- The kind and the naming of the units that nodes of a type become. -/
def unitRule? : String → Option (UnitKind × Naming)
  | "function_declaration" => some (.function, .declared)
  | "generator_function_declaration" => some (.function, .declared)
  | "method_definition" => some (.method, .declared)
  | "arrow_function" => some (.arrowFunction, .arrow)
  | "class_declaration" => some (.classDecl, .declared)
  | "variable_declaration" => some (.variable, .declarators)
  | "lexical_declaration" => some (.constant, .declarators)
  | "import_statement" => some (.import, .statement)
  | "export_statement" => some (.export, .statement)
  | _ => none

def bindsName (type : String) : Bool :=
  type == "identifier" || type == "shorthand_property_identifier_pattern"

/-- Node types of a binding with a default value: the binding is on the left. -/
def hasDefault (type : String) : Bool :=
  type == "assignment_pattern" || type == "object_assignment_pattern"

def refersToName (type : String) : Bool :=
  type == "identifier" || type == "shorthand_property_identifier"

def declaresName (type : String) : Bool :=
  ["function_declaration", "generator_function_declaration", "function_expression",
    "class_declaration", "class", "variable_declarator"].contains type

def takesStub (type : String) : Bool :=
  type == "function_declaration" || type == "method_definition"

def extensions : List String := [".js", ".mjs", ".cjs", ".jsx"]

def isSourcePath (p : Path) : Bool := extensions.contains (Text.lower p.suffix)

end Dissect.Syntax
