import Dissect.Json.Basic

namespace Dissect

/-- The elements without repeats, in the order in which they first appear. -/
def distinct [BEq α] : List α → List α
  | [] => []
  | x :: rest => x :: (distinct rest).filter (· != x)

structure ReferenceGraph where
  nodes : List String
  edges : List (String × String)
deriving DecidableEq, Repr, Inhabited

namespace ReferenceGraph

def distinctEdges (g : ReferenceGraph) : List (String × String) := distinct g.edges

def multiplicities (g : ReferenceGraph) : List ((String × String) × Nat) :=
  g.distinctEdges.map fun e => (e, g.edges.count e)

def targetsOf (g : ReferenceGraph) (name : String) : List String :=
  (g.distinctEdges.filter (·.1 == name)).map (·.2)

def sourcesOf (g : ReferenceGraph) (name : String) : List String :=
  (g.distinctEdges.filter (·.2 == name)).map (·.1)

/-- For each name that another refers to, by how many others. -/
def inDegrees (g : ReferenceGraph) : List (String × Nat) :=
  let targets := (g.distinctEdges.filter fun e => e.1 != e.2).map (·.2)
  (distinct targets).map fun t => (t, targets.count t)

/-- The names that most others refer to, at most `limit` of them; of equal ones the first seen come
first. -/
def topTargets (g : ReferenceGraph) (limit : Int) : List (String × Nat) :=
  (g.inDegrees.mergeSort fun a b => b.2 ≤ a.2).take limit.toNat

def toJson (g : ReferenceGraph) (files : List (String × List String)) : Json :=
  .obj [
    ("nodes", .arr (g.nodes.map fun name =>
      .obj [("id", .str name), ("files", .texts ((files.lookup name).getD []))])),
    ("edges", .arr (g.edges.map fun e => .obj [("from", .str e.1), ("to", .str e.2)]))]

end ReferenceGraph

end Dissect
