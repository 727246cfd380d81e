import Dissect.Address.Composed
import Dissect.Address.Punycode
import Dissect.Text.Lines

/-!
The labels of a host name, by the rules for international domain names. A label is in composed form
and begins with no mark; its hyphens stand inside, and not at the places of those of a prefix; it
holds valid characters, some of them only between certain others; and its directions agree.
-/

namespace Dissect.Address

open LabelData Text

/-- The label holds the hyphens of a prefix, or one at an end. -/
def hasBadHyphens (label : List Char) : Bool :=
  (label.drop 2).take 2 == ['-', '-'] || label.head? == some '-' || label.getLast? == some '-'

def isMark (c : Char) : Bool := inRanges nonspacing c || inRanges spacing c

/-- A character in a label, with those in front of it, nearest first, and those behind it. -/
structure Spot where
  before : List Char
  char : Char
  after : List Char

def spotsFrom (before : List Char) : List Char → List Spot
  | [] => []
  | c :: rest => ⟨before, c, rest⟩ :: spotsFrom (c :: before) rest

def Spot.followsVirama (s : Spot) : Bool := s.before.head?.any fun c => markClass c == 9

def opensWith (ranges : List (Nat × Nat)) (cs : List Char) : Bool :=
  (cs.dropWhile (inRanges nonspacing)).head?.any (inRanges ranges)

/-- Whether a character that is valid only in its place is so in a label: the joiners, the middle
dot of Catalan, the numeral sign of Greek, the marks of Hebrew, the middle dot of Katakana, and
Arabic digits, of which a label has one kind. -/
def Spot.isInPlace (label : List Char) (s : Spot) : Bool :=
  let n := s.char.toNat
  if n = 0x200C then
    s.followsVirama ||
      opensWith (joiningForward ++ joiningBoth) s.before
        && opensWith (joiningBack ++ joiningBoth) s.after
  else if n = 0x200D then s.followsVirama
  else if n = 0xB7 then s.before.head? == some 'l' && s.after.head? == some 'l'
  else if n = 0x375 then s.after.head?.any (inRanges greek)
  else if n = 0x5F3 || n = 0x5F4 then s.before.head?.any (inRanges hebrew)
  else if n = 0x30FB then label.any (inRanges japanese)
  else if 0x660 ≤ n && n ≤ 0x669 then !label.any (inRanges [(0x6F0, 0x6F9)])
  else if 0x6F0 ≤ n && n ≤ 0x6F9 then !label.any (inRanges [(0x660, 0x669)])
  else false

def isValid (c : Char) : Bool := validSpans.any (·.covers c.toNat)

inductive Direction
  | left
  | right
  | arabic
  | european
  | arabicDigit
  | nonspacing
  | neutral
deriving DecidableEq, Repr

def directionOf (c : Char) : Direction :=
  if inRanges rightToLeft c then .right
  else if inRanges arabicLetters c then .arabic
  else if inRanges europeanDigits c then .european
  else if inRanges arabicDigits c then .arabicDigit
  else if inRanges nonspacing c then .nonspacing
  else if inRanges neutral c then .neutral
  else .left

def Direction.isBackward : Direction → Bool
  | .right | .arabic | .arabicDigit => true
  | _ => false

/-- The directions of a label agree: where some character runs from right to left, the first is a
letter that does, no letter runs the other way, digits are of one kind, and the last but for marks
is a letter or a digit. -/
def directionsAgree (label : List Char) : Bool :=
  let directions := label.map directionOf
  let last := (directions.reverse.dropWhile (· = .nonspacing)).head?
  !directions.any Direction.isBackward
    || directions.head?.any (fun d => d = .right || d = .arabic)
      && !directions.contains .left
      && !(directions.contains .european && directions.contains .arabicDigit)
      && last.any (· != .neutral)

def readLimit : Nat := 254

def isLabel (label : List Char) : Bool :=
  !label.isEmpty && label.length ≤ readLimit && isComposed label && !hasBadHyphens label
    && !label.head?.any isMark
    && (spotsFrom [] label).all (fun s => isValid s.char || s.isInPlace label)
    && directionsAgree label

def codedLabel? : List Char → Option (List Char)
  | 'x' :: 'n' :: '-' :: '-' :: rest => some rest
  | _ => none

def labelLimit : Nat := 63
def nameLimit : Nat := 253

/-- A label in ASCII, none for a text that is no label. What is in ASCII already is checked too, by
what it stands for. -/
def asciiLabel? (label : List Char) : Option (List Char) :=
  let coded :=
    if label.all (·.toNat < 128) then
      let isGood :=
        match codedLabel? label with
        | none => isLabel label
        | some rest =>
            !rest.isEmpty && rest.getLast? != some '-'
              && (Punycode.decode? rest).any isLabel
      if isGood then some label else none
    else if isLabel label then some ("xn--".toList ++ Punycode.encode label)
    else none
  coded.filter (·.length ≤ labelLimit)

def isDot (c : Char) : Bool := c == '.' || c == '\u3002' || c == '\uFF0E' || c == '\uFF61'

/-- A host name in ASCII, none for a text that is no name. A dot at the end is kept. -/
def asciiName? (name : List Char) : Option (List Char) := do
  let labels := cut isDot name
  let isClosed := labels.getLast? == some []
  let labels := if isClosed then labels.dropLast else labels
  let coded ← labels.mapM asciiLabel?
  let text := ['.'].intercalate coded
  if text.length ≤ nameLimit then some (if isClosed then text ++ ['.'] else text) else none

end Dissect.Address
