namespace Dissect

/-- The kind of a unit; `base` is what no other unit claims. -/
inductive UnitKind
  | function
  | method
  | arrowFunction
  | classDecl
  | variable
  | constant
  | import
  | export
  | base
deriving DecidableEq, Repr, Inhabited

namespace UnitKind

def all : List UnitKind :=
  [.function, .method, .arrowFunction, .classDecl, .variable, .constant, .import, .export, .base]

def text : UnitKind → String
  | .function => "function"
  | .method => "method"
  | .arrowFunction => "arrow_function"
  | .classDecl => "class"
  | .variable => "variable"
  | .constant => "constant"
  | .import => "import"
  | .export => "export"
  | .base => "base"

def ofText? (s : String) : Option UnitKind := all.find? (·.text == s)

def directory (k : UnitKind) : String := k.text ++ "s"

end UnitKind

end Dissect
