import Dissect.Partition.Basic
import Dissect.Text.Lines

namespace Dissect.Partition

open Text

/-- The gaps between ranges of lines from line `next` on, and the tail up to the last line. -/
def uncoveredFrom (lineCount next : Nat) : List (Nat × Nat) → List (Nat × Nat)
  | [] => if next ≤ lineCount then [(next, lineCount)] else []
  | (start, stop) :: rest =>
      let tail := uncoveredFrom lineCount (max next (stop + 1)) rest
      if next < start then (next, start - 1) :: tail else tail

def uncoveredSpans (ranges : List (Nat × Nat)) (lineCount : Nat) : List (Nat × Nat) :=
  uncoveredFrom lineCount 1 ranges

def rangeLe (a b : Nat × Nat) : Bool := a.1 < b.1 || (a.1 == b.1 && a.2 ≤ b.2)

def claimedRanges (units : List SourceUnit) : List (Nat × Nat) :=
  ((units.filter (·.isOutermost)).map fun u => (u.startLine, u.endLine)).mergeSort rangeLe

def linesBetween (lines : List α) (span : Nat × Nat) : List α :=
  (lines.drop (span.1 - 1)).take (span.2 - (span.1 - 1))

/-- The number of octets before line `n`, counted from zero, each line with its line feed. -/
def lineOffset (lines : List String) (n : Nat) : Nat :=
  (lines.take n).foldr (fun line size => line.utf8ByteSize + 1 + size) 0

/-- The unit of the unclaimed lines, unless all lines are claimed. -/
def unclaimedUnit? (units : List SourceUnit) (text : String) (lineCount : Nat) :
    Option SourceUnit :=
  match uncoveredSpans (claimedRanges units) lineCount with
  | [] => none
  | first :: rest =>
      let spans := first :: rest
      let lines := splitLines text
      let last := (spans.getLast?.getD first).2
      some {
        id := units.length
        name := "base"
        kind := .base
        startLine := first.1
        endLine := last
        startByte := lineOffset lines (first.1 - 1)
        endByte := lineOffset lines (last - 1) + (lines[last - 1]?.getD "").utf8ByteSize
        code := "\n".intercalate (spans.flatMap (linesBetween lines))
        parentName := none
        depth := 0
        spans := spans }

end Dissect.Partition
