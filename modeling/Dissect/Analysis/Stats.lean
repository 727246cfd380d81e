import Dissect.Decimal.Layout
import Dissect.Partition.Basic

namespace Dissect.Analysis

structure Stats where
  counts : List (UnitKind × Nat)
  total : Nat
  dominant : Option (UnitKind × Nat)
  coveredLines : Nat
  lineCount : Nat
deriving Repr

/-- The first entry of the largest count. -/
def largestCount : List (UnitKind × Nat) → Option (UnitKind × Nat)
  | [] => none
  | c :: rest =>
      match largestCount rest with
      | none => some c
      | some d => if c.2 < d.2 then some d else some c

def claiming (groups : UnitGroups) : List SourceUnit :=
  (groups.filter (·.1 != .base)).flatMap fun g => g.2.filter (·.isOutermost)

def isClaimed (units : List SourceUnit) (line : Nat) : Bool :=
  units.any fun u => u.startLine ≤ line && line ≤ u.endLine

/-- How many lines top-level units claim, each line counted once. -/
def countClaimed (groups : UnitGroups) : Nat :=
  let units := claiming groups
  (List.range ((units.map (·.endLine)).foldl max 0 + 1)).countP (isClaimed units)

/-- The counts over grouped units; kinds without units are left out, and the base unit is never the
dominant kind. -/
def Stats.of (groups : UnitGroups) (lineCount : Nat) : Stats :=
  let counts := (groups.filter fun g => !g.2.isEmpty).map fun g => (g.1, g.2.length)
  { counts
    total := counts.foldr (fun c n => c.2 + n) 0
    dominant := largestCount (counts.filter (·.1 != .base))
    coveredLines := countClaimed groups
    lineCount }

def Stats.claimedPercent (s : Stats) : Float :=
  if s.lineCount == 0 then 0.0
  else 100.0 * Float.ofNat s.coveredLines / Float.ofNat s.lineCount

def Stats.claimedText (s : Stats) : String := Decimal.fixedText 1 s.claimedPercent

def Stats.list (s : Stats) : String :=
  let sorted := s.counts.mergeSort fun a b => a.1.text ≤ b.1.text
  let lines := sorted.map fun c => "- " ++ c.1.text ++ ": " ++ toString c.2
  "\n".intercalate (lines ++ ["- total: " ++ toString s.total])

end Dissect.Analysis
