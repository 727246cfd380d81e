import Dissect.Address.LabelData
import Dissect.Text.Case

/-!
Composed form. A text is taken apart into letters and marks, the marks of a letter are put in the
order of their classes, and what can be composed is composed again; a text that this leaves as it is
is in composed form. Syllables of Hangul are not taken apart, as their parts are in no label.
-/

namespace Dissect.Address

open LabelData

def markClass (c : Char) : Nat :=
  ((markClasses.find? fun e => e.1 ≤ c.toNat && c.toNat ≤ e.2.1).map (·.2.2)).getD 0

def takeApart (codes : List Nat) (entry : Nat × Nat × Nat) : List Nat :=
  codes.flatMap fun n => if n = entry.2.2 then [entry.1, entry.2.1] else [n]

def parts (c : Char) : List Char := (compositions.foldl takeApart [c.toNat]).map Char.ofNat

def composition? (a b : Char) : Option Char :=
  (compositions.find? fun e => e.1 = a.toNat && e.2.1 = b.toNat).map fun e => Char.ofNat e.2.2

/-- Put a character behind others, last first: a mark goes in front of marks of higher classes. -/
def insertMark (c : Char) : List Char → List Char
  | [] => [c]
  | d :: rest =>
      if 0 < markClass c && markClass c < markClass d then d :: insertMark c rest
      else c :: d :: rest

def ordered (cs : List Char) : List Char :=
  (cs.foldl (fun found c => insertMark c found) []).reverse

/-- Compose what can be composed: `done` stands in front of the last letter, and `marks` of that
letter could not be composed with it; all are last first. -/
def composeFrom (done : List Char) (letter : Char) (marks : List Char) : List Char → List Char
  | [] => done.reverse ++ letter :: marks.reverse
  | c :: rest =>
      let isFree := marks.head?.all fun m => markClass m < markClass c
      match isFree, composition? letter c with
      | true, some whole => composeFrom done whole marks rest
      | _, _ =>
          if markClass c = 0 then composeFrom (marks ++ letter :: done) c [] rest
          else composeFrom done letter (c :: marks) rest

def composed (cs : List Char) : List Char :=
  match ordered (cs.flatMap parts) with
  | [] => []
  | c :: rest => composeFrom [] c [] rest

def isComposed (cs : List Char) : Bool := composed cs == cs

end Dissect.Address
