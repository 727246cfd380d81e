import Dissect.Analysis.Report
import Dissect.Call

namespace Dissect.Analysis

structure RetryLimitError where
  limit : Int
deriving DecidableEq, Repr

def RetryLimitError.message (e : RetryLimitError) : String :=
  "max_retries must be at least 1, got " ++ toString e.limit

/-- The number of attempts that a limit allows. -/
def attemptsAllowed (limit : Int) : Except RetryLimitError Nat :=
  if limit < 1 then .error ⟨limit⟩ else .ok limit.toNat

def backOff (attempt : Nat) : Float := Float.ofNat (Nat.pow 2 attempt)

def standIn (category content : String) (attempts : Nat) (error : String) : Result :=
  ⟨category, content, .fallback, attempts, some error, none⟩

/-- The end after the last attempt: the fallback, or an error. -/
def giveUp (category : String) (fallback : Option String) (attempts : Nat) (lastError : String) :
    Except CallError Result :=
  match fallback with
  | some content => .ok (standIn category content attempts lastError)
  | none =>
      .error ⟨category ++ " failed after " ++ toString attempts ++ " attempts: " ++ lastError, none⟩

def noContent (category : String) : String := category ++ " returned no usable content"

/-- Attempt number `attempt` with `left` more to go. -/
def attemptFrom (prompt category : String) (fallback : Option String) :
    Nat → Nat → Plan Call (Except CallError Result)
  | left, attempt => do
      match ← ask prompt with
      | .ok reply =>
          if isUsable reply then return .ok ⟨category, reply, .ok, attempt, none, none⟩
          else
            match fallback with
            | some content => return .ok (standIn category content attempt (noContent category))
            | none =>
                match left with
                | 0 => return giveUp category fallback attempt (noContent category)
                | left + 1 =>
                    pause (backOff attempt)
                    attemptFrom prompt category fallback left (attempt + 1)
      | .error e =>
          match left with
          | 0 => return giveUp category fallback attempt e.message
          | left + 1 =>
              if e.mayPass then
                pause (backOff attempt)
                attemptFrom prompt category fallback left (attempt + 1)
              else return giveUp category fallback attempt e.message

def askUpTo (prompt category : String) (fallback : Option String) (allowed : Nat) :
    Plan Call (Except CallError Result) :=
  attemptFrom prompt category fallback (allowed - 1) 1

end Dissect.Analysis
