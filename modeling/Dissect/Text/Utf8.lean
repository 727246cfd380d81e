/-!
UTF-8 as octet lists. `pieces` cuts any octet list into whole characters and maximal ill-formed
stretches; the strict and the lenient reading are two views of that one cut.
-/

namespace Dissect

abbrev Bytes := List UInt8

namespace Text.Utf8

def encode (text : String) : Bytes := text.toList.flatMap String.utf8EncodeChar

inductive Reason
  | invalidStart
  | invalidContinuation
  | unexpectedEnd
deriving DecidableEq, Repr

def Reason.message : Reason → String
  | .invalidStart => "invalid start byte"
  | .invalidContinuation => "invalid continuation byte"
  | .unexpectedEnd => "unexpected end of data"

/-- One stretch of the cut: a character, or `width` octets that begin no character. -/
inductive Piece
  | char (c : Char) (width : Nat)
  | bad (width : Nat) (reason : Reason)
deriving Repr

def Piece.width : Piece → Nat
  | .char _ n => n
  | .bad n _ => n

/-- What a leading octet announces: how many octets follow, and the range of the first of them. -/
def leadRange (b : UInt8) : Option (Nat × UInt8 × UInt8) :=
  if 0xC2 ≤ b && b ≤ 0xDF then some (1, 0x80, 0xBF)
  else if b == 0xE0 then some (2, 0xA0, 0xBF)
  else if b == 0xED then some (2, 0x80, 0x9F)
  else if 0xE1 ≤ b && b ≤ 0xEF then some (2, 0x80, 0xBF)
  else if b == 0xF0 then some (3, 0x90, 0xBF)
  else if b == 0xF4 then some (3, 0x80, 0x8F)
  else if 0xF1 ≤ b && b ≤ 0xF3 then some (3, 0x80, 0xBF)
  else none

/-- Read `count` continuation octets, of which the next lies in `lo` to `hi`, after `width` octets
that hold the bits `bits`. -/
def continuation : Nat → UInt8 → UInt8 → Nat → Nat → Bytes → Piece
  | 0, _, _, width, bits, _ => .char (Char.ofNat bits) width
  | _ + 1, _, _, width, _, [] => .bad width .unexpectedEnd
  | count + 1, lo, hi, width, bits, b :: rest =>
      if lo ≤ b && b ≤ hi then
        continuation count 0x80 0xBF (width + 1) (bits * 64 + (b.toNat - 0x80)) rest
      else .bad width .invalidContinuation

def leadBits (b : UInt8) (count : Nat) : Nat :=
  b.toNat % Nat.pow 2 (6 - count)

def piece (b : UInt8) (rest : Bytes) : Piece :=
  if b < 0x80 then .char (Char.ofNat b.toNat) 1
  else
    match leadRange b with
    | none => .bad 1 .invalidStart
    | some (count, lo, hi) => continuation count lo hi 1 (leadBits b count) rest

def piecesOnto (found : Array Piece) : Bytes → Array Piece
  | [] => found
  | b :: rest =>
      let p := piece b rest
      piecesOnto (found.push p) (rest.drop (p.width - 1))
termination_by bs => bs.length
decreasing_by simp only [List.length_drop, List.length_cons]; omega

def pieces (bs : Bytes) : List Piece := (piecesOnto #[] bs).toList

structure Fault where
  first : UInt8
  position : Nat
  width : Nat
  reason : Reason
deriving DecidableEq, Repr

def hexOctet (b : UInt8) : String :=
  String.ofList [Nat.digitChar (b.toNat / 16), Nat.digitChar (b.toNat % 16)]

/-- The wording of a fault: the octet is shown when it stands alone, else the range. -/
def Fault.message (f : Fault) : String :=
  if f.width ≤ 1 then
    "'utf-8' codec can't decode byte 0x" ++ hexOctet f.first ++ " in position "
      ++ toString f.position ++ ": " ++ f.reason.message
  else
    "'utf-8' codec can't decode bytes in position " ++ toString f.position ++ "-"
      ++ toString (f.position + f.width - 1) ++ ": " ++ f.reason.message

/-- The characters of a cut without ill-formed stretches, from octet `position` on. -/
def characters (bs : Bytes) : Nat → List Char → List Piece → Except Fault (List Char)
  | _, found, [] => .ok found.reverse
  | position, found, .char c width :: rest => characters bs (position + width) (c :: found) rest
  | position, _, .bad width reason :: _ =>
      .error ⟨bs.getD position 0, position, width, reason⟩

def decode (bs : Bytes) : Except Fault String :=
  (characters bs 0 [] (pieces bs)).map String.ofList

/-- Lenient reading: each ill-formed stretch becomes one replacement character. -/
def decodeLenient (bs : Bytes) : String :=
  String.ofList <| (pieces bs).map fun
    | .char c _ => c
    | .bad .. => Char.ofNat 0xFFFD

/-- The octets from `start` up to, not including, `stop`. -/
def slice (bs : Bytes) (start stop : Nat) : Bytes :=
  (bs.drop start).take (stop - start)

end Text.Utf8

end Dissect
