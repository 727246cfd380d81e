import Dissect.Digest.Blake3
import Dissect.Json.Basic
import Dissect.Partition.FileStem
import Dissect.UnitKind

namespace Dissect

/-- A named part of a source. Lines count from one and ranges of lines include both ends. -/
structure SourceUnit where
  id : Nat
  name : String
  kind : UnitKind
  startLine : Nat
  endLine : Nat
  startByte : Nat
  endByte : Nat
  code : String
  parentName : Option String
  depth : Nat
  spans : List (Nat × Nat)
deriving DecidableEq, Repr, Inhabited

namespace SourceUnit

def isOutermost (u : SourceUnit) : Bool := u.depth == 0

def lineCount (u : SourceUnit) : Int :=
  u.spans.foldr (fun s n => (s.2 : Int) - s.1 + 1 + n) 0

end SourceUnit

structure Placement where
  id : Nat
  name : String
  kind : UnitKind
  file : String
  startLine : Nat
  endLine : Nat
  fingerprint : String
deriving DecidableEq, Repr, Inhabited

def Placement.toJson (e : Placement) : Json :=
  .obj [("id", .nat e.id), ("name", .str e.name), ("type", .str e.kind.text),
    ("file", .str e.file), ("startLine", .nat e.startLine), ("endLine", .nat e.endLine),
    ("fingerprint", .str e.fingerprint)]

namespace Partition

def numberedName (used : List String) (stem : String) : Nat → Nat → String
  | 0, k => stem ++ "_" ++ toString k ++ ".js"
  | tries + 1, k =>
      let file := stem ++ "_" ++ toString k ++ ".js"
      if used.contains file then numberedName used stem tries (k + 1) else file

/-- The file for a unit beside the files used so far: the plain name, else the first free numbered
one, counted from two. -/
def fileFor (used : List String) (u : SourceUnit) : String :=
  let stem := u.kind.directory ++ "/" ++ fileStem u.name
  let plain := stem ++ ".js"
  if used.contains plain then numberedName used stem used.length 2 else plain

def placementOf (u : SourceUnit) (file : String) : Placement :=
  ⟨u.id, u.name, u.kind, file, u.startLine, u.endLine, Digest.fingerprint u.code⟩

def placementsFrom (used : List String) : List SourceUnit → List Placement
  | [] => []
  | u :: rest =>
      let file := fileFor used u
      placementOf u file :: placementsFrom (file :: used) rest

def placements (units : List SourceUnit) : List Placement := placementsFrom [] units

end Partition

structure Partition where
  units : List SourceUnit
  entries : List Placement
  lineCount : Nat
  sourceFile : String
  parseErrors : Bool

abbrev UnitGroups := List (UnitKind × List SourceUnit)

namespace UnitGroups

/-- Add a unit to the group of its kind, a new last group where there is none. -/
def add (u : SourceUnit) : UnitGroups → UnitGroups
  | [] => [(u.kind, [u])]
  | (k, us) :: rest =>
      if k = u.kind then (k, us ++ [u]) :: rest else (k, us) :: add u rest

/-- Units by kind: kinds in the order of their first units, units in order within each. -/
def ofUnits (units : List SourceUnit) : UnitGroups := units.foldl (fun g u => add u g) []

def get (g : UnitGroups) (k : UnitKind) : List SourceUnit := (g.lookup k).getD []

end UnitGroups

namespace Partition

def ofUnits (units : List SourceUnit) (lineCount : Nat) (sourceFile : String)
    (parseErrors : Bool) : Partition :=
  ⟨units, placements units, lineCount, sourceFile, parseErrors⟩

def names (p : Partition) : List String := p.units.map (·.name)

def outermostUnits (p : Partition) : List SourceUnit :=
  p.units.filter fun u => u.isOutermost && u.kind != .base

def base? (p : Partition) : Option SourceUnit := p.units.find? (·.kind == .base)

def groups (p : Partition) : UnitGroups := .ofUnits p.units

def placementOf? (p : Partition) (u : SourceUnit) : Option Placement := p.entries[u.id]?

/-- The source map: the source file, its number of lines, and where each unit went. -/
def sourceMap (p : Partition) : Json :=
  .obj [("originalFile", .str p.sourceFile), ("lineCount", .nat p.lineCount),
    ("chunks", .arr (p.entries.map Placement.toJson))]

end Partition

end Dissect
