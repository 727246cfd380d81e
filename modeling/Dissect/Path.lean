import Dissect.Text.Lines

namespace Dissect

/-- A path. The root is empty for a relative path, and one or two slashes otherwise. -/
structure Path where
  root : String
  parts : List String
deriving DecidableEq, Repr, Inhabited

namespace Path

/-- The root that a text begins with: exactly two slashes are kept as two. -/
def rootOf : List Char → String
  | '/' :: '/' :: '/' :: _ => "/"
  | '/' :: '/' :: _ => "//"
  | '/' :: _ => "/"
  | _ => ""

def namesOf (cs : List Char) : List String :=
  ((Text.cut (· == '/') cs).filter fun name => name != [] && name != ['.']).map String.ofList

/-- The steps that a text takes: its names, single dots included, and one more dot for a slash at
its end. -/
def stepsOf (cs : List Char) : List String :=
  let names := ((Text.cut (· == '/') cs).filter (· != [])).map String.ofList
  if cs.getLast? = some '/' then names ++ ["."] else names

def ofText (text : String) : Path := ⟨rootOf text.toList, namesOf text.toList⟩

/-- The text of a path; the empty relative path is a single dot. -/
def toText (p : Path) : String :=
  if p.root.isEmpty && p.parts.isEmpty then "." else p.root ++ "/".intercalate p.parts

def join (p : Path) (names : List String) : Path := ⟨p.root, p.parts ++ names⟩

def name (p : Path) : String := p.parts.getLast?.getD ""

def parent (p : Path) : Path := ⟨p.root, p.parts.dropLast⟩

/-- A name cut before its last dot, unless that dot is its first or its last character. -/
def splitName (name : String) : String × String :=
  let cs := name.toList
  let tail := (cs.reverse.takeWhile (· != '.')).reverse
  let front := cs.take (cs.length - tail.length - 1)
  if tail.isEmpty || front.isEmpty || !cs.contains '.' then (name, "")
  else (String.ofList front, String.ofList ('.' :: tail))

def suffix (p : Path) : String := (splitName p.name).2

def stem (p : Path) : String := (splitName p.name).1

end Path

end Dissect
