import Dissect.Text.Slice

namespace Dissect.Summary

open Text

/-- Characters for each token. -/
def tokenLength : Nat := 4

/-- The tokens of a text, the last one perhaps not full. -/
def tokenCount (text : String) : Nat := (text.length + (tokenLength - 1)) / tokenLength

/-- The boundaries at which a chunk may end, strongest first: paragraph, line, sentence,
statement. -/
def boundaries : List (List Char) := [['\n', '\n'], ['\n'], ['.', ' '], [';']]

def standsAt (text : Array Char) : List Char → Nat → Bool
  | [], _ => true
  | c :: rest, i => text[i]? == some c && standsAt text rest (i + 1)

def lastOf (text : Array Char) (pattern : List Char) (low : Nat) : Nat → Option Nat
  | 0 => none
  | count + 1 =>
      if standsAt text pattern (low + count) then some (low + count)
      else lastOf text pattern low count

def lastBetween (text : Array Char) (pattern : List Char) (start stop : Int) : Option Nat :=
  let low := position text.size start
  lastOf text pattern low (position text.size stop + 1 - (low + pattern.length))

/-- The end of a chunk that is not the last: behind the last boundary, of the strongest kind there
is, in the back half of the window and past the overlap. -/
def chunkEnd (text : Array Char) (start stop overlap : Int) : Int :=
  let low := start + max ((stop - start).fdiv 2) (overlap + 1)
  let ends := boundaries.findSome? fun b =>
    (lastBetween text b low stop).map fun i : Nat => (i + b.length : Int)
  ends.getD stop

/-- The chunks from `start` on, behind those found so far. A later chunk begins `overlap` characters
before the end of the one in front of it. -/
def chunksOnto (text : Array Char) (window overlap : Int) (found : Array String) (start : Int) :
    Array String :=
  if start < text.size then
    let limit := min (start + window) text.size
    let stop := if limit < text.size then chunkEnd text start limit overlap else limit
    let found := found.push (String.ofList (between text start stop))
    if text.size ≤ stop then found
    else chunksOnto text window overlap found (max (stop - overlap) (start + 1))
  else found
termination_by (text.size - start).toNat
decreasing_by omega

structure SizeError where
  chunkSize : Int
  overlapSize : Int
deriving DecidableEq, Repr

def SizeError.message (e : SizeError) : String :=
  "chunk_size (" ++ toString e.chunkSize ++ ") must be larger than overlap_size ("
    ++ toString e.overlapSize ++ ")"

/-- The chunks of a text for sizes that fit together. -/
def chunks (text : String) (chunkSize overlapSize : Int) : List String :=
  (chunksOnto text.toList.toArray (chunkSize * tokenLength) (overlapSize * tokenLength) #[] 0
    ).toList

def cutText (text : String) (chunkSize overlapSize : Int) : Except SizeError (List String) :=
  if chunkSize ≤ overlapSize then .error ⟨chunkSize, overlapSize⟩
  else .ok (chunks text chunkSize overlapSize)

end Dissect.Summary
