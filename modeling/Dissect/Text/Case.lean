import Dissect.Text.CaseData

namespace Dissect.Text

open CaseData

def inRanges (ranges : List (Nat × Nat)) (c : Char) : Bool :=
  ranges.any fun r => r.1 ≤ c.toNat && c.toNat ≤ r.2

/-- A full mapping: the special entry of a character, else its simple image. -/
def mapCase (special : List (Nat × List Nat)) (runs : List Run) (c : Char) : List Char :=
  match special.lookup c.toNat with
  | some image => image.map Char.ofNat
  | none =>
      match runs.find? (·.covers c.toNat) with
      | some run => [Char.ofNat (run.image c.toNat)]
      | none => [c]

def isCased (c : Char) : Bool :=
  if c.toNat < 128 then c.isAlpha else inRanges casedRanges c

/-- The character is passed over when a word is looked at for its end. -/
def isCaseIgnorable (c : Char) : Bool := inRanges ignorableRanges c

def opensCased (cs : List Char) : Bool :=
  match cs.dropWhile isCaseIgnorable with
  | [] => false
  | c :: _ => isCased c

/-- The lower case of a character between the characters `before`, nearest first, and `after`: a
capital sigma that ends a word becomes a final one. -/
def lowerAt (before : List Char) (c : Char) (after : List Char) : List Char :=
  if c.toNat < 128 then [c.toLower]
  else if c == 'Σ' then
    if opensCased before && !opensCased after then ['ς'] else ['σ']
  else mapCase lowerSpecial lowerRuns c

def lowerOnto (found : Array Char) (before : List Char) : List Char → Array Char
  | [] => found
  | c :: rest => lowerOnto (found ++ lowerAt before c rest) (c :: before) rest

def lower (text : String) : String := String.ofList (lowerOnto #[] [] text.toList).toList

/-- Title case: a character after a cased one is put in lower case, any other in title case. -/
def titleOnto (found : Array Char) (before : List Char) : List Char → Array Char
  | [] => found
  | c :: rest =>
      let image :=
        if before.head?.any isCased then lowerAt before c rest
        else mapCase titleSpecial titleRuns c
      titleOnto (found ++ image) (c :: before) rest

def title (text : String) : String := String.ofList (titleOnto #[] [] text.toList).toList

end Dissect.Text
