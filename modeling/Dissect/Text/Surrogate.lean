/-!
Units of sixteen bits. A character beyond the first plane is a pair of units, a high half and a low
one; half a pair alone is no character.
-/

namespace Dissect.Text

def isHighSurrogate (n : Nat) : Bool := 0xD800 ≤ n && n ≤ 0xDBFF

def isLowSurrogate (n : Nat) : Bool := 0xDC00 ≤ n && n ≤ 0xDFFF

def pairChar (high low : Nat) : Char :=
  Char.ofNat (0x10000 + (high - 0xD800) * 0x400 + (low - 0xDC00))

/-- The character of one unit. Half a pair alone is kept as the private character of the last plane
that ends in the same sixteen bits. -/
def unitChar (n : Nat) : Char :=
  if isHighSurrogate n || isLowSurrogate n then Char.ofNat (0x100000 + n) else Char.ofNat n

def halfOf? (c : Char) : Option Nat :=
  let n := c.toNat - 0x100000
  if isHighSurrogate n || isLowSurrogate n then some n else none

def charsOfUnits : List Nat → List Char
  | high :: low :: rest =>
      if isHighSurrogate high && isLowSurrogate low then pairChar high low :: charsOfUnits rest
      else unitChar high :: charsOfUnits (low :: rest)
  | [n] => [unitChar n]
  | [] => []

end Dissect.Text
