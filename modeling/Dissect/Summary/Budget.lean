import Dissect.Summary.Chunk

namespace Dissect.Summary

structure Budget where
  chunkSize : Int
  /-- what consecutive chunks share -/
  overlapSize : Int
  /-- how many levels are reduced before a text is cut off -/
  recursionLimit : Int
  /-- the largest text of one call -/
  contextLimit : Int
deriving DecidableEq, Repr

def Budget.standard : Budget := ⟨3500, 100, 3, 3800⟩

inductive BudgetError
  | size (e : SizeError)
  | negativeLimit
deriving DecidableEq, Repr

def BudgetError.message : BudgetError → String
  | .size e => e.message
  | .negativeLimit => "recursion_limit must not be negative"

/-- A budget is accepted if its chunks are longer than what they share and its limit on levels is
not negative. -/
def Budget.check (b : Budget) : Except BudgetError Budget :=
  if b.chunkSize ≤ b.overlapSize then .error (.size ⟨b.chunkSize, b.overlapSize⟩)
  else if b.recursionLimit < 0 then .error .negativeLimit
  else .ok b

end Dissect.Summary
