import Dissect.Decimal.Layout
import Dissect.Json.Basic

namespace Dissect.Json

def get (v : Json) (key : String) : Json := (v.field? key).getD .null

def elements : Json → List Json
  | .arr items => items
  | _ => []

def text? : Json → Option String
  | .str s => some s
  | _ => none

def truth? : Json → Option Bool
  | .bool b => some b
  | _ => none

def whole? : Json → Option Int
  | .int n => some n
  | _ => none

def real? : Json → Option Float
  | .float x => some x
  | .int n => some (Decimal.nearest (n < 0) n.natAbs 0)
  | _ => none

def natural? (v : Json) : Option Nat := v.whole?.map Int.toNat

end Dissect.Json
