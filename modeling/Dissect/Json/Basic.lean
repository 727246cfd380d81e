namespace Dissect

inductive Json
  | null
  | bool (b : Bool)
  | int (n : Int)
  | float (x : Float)
  | str (s : String)
  | arr (items : List Json)
  | obj (fields : List (String × Json))
deriving Inhabited

namespace Json

def field? (key : String) : Json → Option Json
  | .obj fields => fields.lookup key
  | _ => none

/-- The fields with `key` set to `v`: in its old place if there is one, else at the end. -/
def setField (key : String) (v : Json) : List (String × Json) → List (String × Json)
  | [] => [(key, v)]
  | (k, old) :: rest => if k == key then (k, v) :: rest else (k, old) :: setField key v rest

def ofText? : Option String → Json
  | some s => .str s
  | none => .null

def nat (n : Nat) : Json := .int n

def texts (ss : List String) : Json := .arr (ss.map .str)

end Json

end Dissect
