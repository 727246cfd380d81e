import Dissect.Plan
import Dissect.Text.Blank

namespace Dissect

/-- A call to a model failed; a failure of the transport has no status. -/
structure CallError where
  message : String
  status : Option Int
deriving DecidableEq, Repr

/-- Whether another attempt could succeed: a refusal by the server is final, unless it was about
time or rate. -/
def statusMayPass : Option Int → Bool
  | none => true
  | some status => !(400 ≤ status && status < 500) || status == 408 || status == 429

def CallError.mayPass (e : CallError) : Bool := statusMayPass e.status

/-- What stands for a reply without a recognisable text. -/
def noTextReply : String := "Unexpected response format"

/-- The reply is of use: neither blank nor without a recognisable text. -/
def isUsable (reply : String) : Bool := !Text.blank reply && reply != noTextReply

inductive Call : Type → Type 1
  | ask (prompt : String) : Call (Except CallError String)
  | pause (seconds : Float) : Call Unit

def ask (prompt : String) : Plan Call (Except CallError String) := .perform (.ask prompt)

def pause (seconds : Float) : Plan Call PUnit := .perform (.pause seconds)

end Dissect
