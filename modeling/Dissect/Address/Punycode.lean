/-!
Labels beyond ASCII written in letters, digits and hyphens. The characters of ASCII come first; the
others follow in ascending order, each as the distance from the one before in a count that goes
through the positions of the text first and through the characters second. A distance is a number
in base thirty-six whose digits end where one is below a threshold, and the thresholds adapt to the
distances.

Reading is a fold over the digits. Writing is a fold over the characters to be written, and each
number in it ends because its rest shrinks.
-/

namespace Dissect.Address.Punycode

def digitChar (n : Nat) : Char :=
  if n < 26 then Char.ofNat (0x61 + n) else Char.ofNat (0x30 + (n - 26))

def digitValue? (c : Char) : Option Nat :=
  if 'a' ≤ c && c ≤ 'z' then some (c.toNat - 0x61)
  else if 'A' ≤ c && c ≤ 'Z' then some (c.toNat - 0x41)
  else if c.isDigit then some (c.toNat - 0x30 + 26)
  else none

/-- The threshold of a digit at a place; the first place is 36 and each further one 36 more. -/
def threshold (place bias : Nat) : Nat := max 1 (min 26 (place - bias))

theorem threshold_pos (place bias : Nat) : 0 < threshold place bias := by
  unfold threshold
  omega

/-- The bias that a scaled distance leads to, counted up from `bias`. -/
def scaled (bias delta : Nat) : Nat :=
  if 455 < delta then scaled (bias + 36) (delta / 35) else bias + 36 * delta / (delta + 38)
termination_by delta
decreasing_by omega

/-- The bias after a distance, for a text of `count` characters; the first distance counts for less.
-/
def adapt (delta count : Nat) (isFirst : Bool) : Nat :=
  let delta := if isFirst then delta / 700 else delta / 2
  scaled 0 (delta + delta / count)

def numberDigits (bias place n : Nat) : List Char :=
  let t := threshold place bias
  if n < t then [digitChar n]
  else
    digitChar (t + (n - t) % (36 - t)) :: numberDigits bias (place + 36) ((n - t) / (36 - t))
termination_by n
decreasing_by
  have := threshold_pos place bias
  exact Nat.lt_of_le_of_lt (Nat.div_le_self ..) (by omega)

structure Writer where
  digits : List Char
  delta : Nat
  bias : Nat
  count : Nat

/-- Pass a character of the text while those of a code point are written; `isFirst` tells whether
none beyond ASCII was written so far. -/
def Writer.pass (basics code : Nat) (w : Writer) (c : Char) : Writer :=
  if c.toNat < code then { w with delta := w.delta + 1 }
  else if c.toNat = code then
    { digits := w.digits ++ numberDigits w.bias 36 w.delta
      delta := 0
      bias := adapt w.delta (w.count + 1) (w.count == basics)
      count := w.count + 1 }
  else w

/-- Write the characters of ascending code points, the next of which is counted from `next`. -/
def Writer.writeAll (text : List Char) (basics : Nat) : Nat → Writer → List Nat → Writer
  | _, w, [] => w
  | next, w, code :: rest =>
      let w := { w with delta := w.delta + (code - next) * (w.count + 1) }
      let w := text.foldl (pass basics code) w
      writeAll text basics (code + 1) { w with delta := w.delta + 1 } rest

def extendedCodes (text : List Char) : List Nat :=
  ((text.map Char.toNat).filter (128 ≤ ·)).mergeSort.eraseDups

def encode (text : List Char) : List Char :=
  let basics := text.filter (·.toNat < 128)
  let w := Writer.writeAll text basics.length 128 ⟨[], 0, 72, basics.length⟩ (extendedCodes text)
  if basics.isEmpty then w.digits else basics ++ '-' :: w.digits

/-- A text being read: the characters so far, the last code point and the position behind its
character, the bias, and the number whose digits are being read. -/
structure Reader where
  text : List Char
  code : Nat
  position : Nat
  bias : Nat
  isFirst : Bool
  delta : Nat
  weight : Nat
  place : Nat

def Reader.start (basics : List Char) : Reader := ⟨basics, 128, 0, 72, true, 0, 1, 36⟩

/-- Put in the character that a distance leads to; none where there is no such character. -/
def Reader.insert? (r : Reader) (delta : Nat) : Option Reader :=
  let count := r.text.length + 1
  let index := r.position + delta
  let code := r.code + index / count
  let position := index % count
  if code.isValidChar then
    some {
      text := r.text.insertIdx position (Char.ofNat code)
      code
      position := position + 1
      bias := adapt delta count r.isFirst
      isFirst := false
      delta := 0
      weight := 1
      place := 36 }
  else none

def Reader.read? (r : Reader) (c : Char) : Option Reader := do
  let digit ← digitValue? c
  let t := threshold r.place r.bias
  let delta := r.delta + digit * r.weight
  if digit < t then r.insert? delta
  else some { r with delta, weight := r.weight * (36 - t), place := r.place + 36 }

/-- The text that letters, digits and hyphens write; a number must not lack its end. -/
def decode? (coded : List Char) : Option (List Char) := do
  let tail := (coded.reverse.takeWhile (· != '-')).reverse
  let basics := coded.take (coded.length - tail.length - 1)
  let r ← tail.foldlM Reader.read? (Reader.start basics)
  if r.place = 36 then some r.text else none

end Dissect.Address.Punycode
