import Dissect.Text.Surrogate
import Dissect.Text.Utf8

/-!
Octets in any of the encodings that a JSON text can have. A byte order mark tells the encoding;
where there is none, the zeros among the first octets do, as a JSON text begins with a character of
ASCII.
-/

namespace Dissect.Text

inductive ByteOrder
  | big
  | little
deriving DecidableEq, Repr

inductive Encoding
  | utf8
  | utf16 (order : ByteOrder)
  | utf32 (order : ByteOrder)
deriving DecidableEq, Repr

namespace Encoding

/-- The encoding that the zeros among the first octets tell. -/
def ofZeros : Bytes → Encoding
  | 0 :: 0 :: _ :: _ :: _ => .utf32 .big
  | 0 :: _ :: _ :: _ :: _ => .utf16 .big
  | _ :: 0 :: 0 :: 0 :: _ => .utf32 .little
  | _ :: 0 :: _ :: _ :: _ => .utf16 .little
  | [0, _] => .utf16 .big
  | [_, 0] => .utf16 .little
  | _ => .utf8

def detect : Bytes → Encoding × Bytes
  | 0x00 :: 0x00 :: 0xFE :: 0xFF :: rest => (.utf32 .big, rest)
  | 0xFF :: 0xFE :: 0x00 :: 0x00 :: rest => (.utf32 .little, rest)
  | 0xFE :: 0xFF :: rest => (.utf16 .big, rest)
  | 0xFF :: 0xFE :: rest => (.utf16 .little, rest)
  | 0xEF :: 0xBB :: 0xBF :: rest => (.utf8, rest)
  | bs => (ofZeros bs, bs)

def unitValue (order : ByteOrder) (octets : Bytes) : Nat :=
  let octets := match order with
    | .big => octets
    | .little => octets.reverse
  octets.foldl (fun n b => n * 256 + b.toNat) 0

/-- The units of two octets each; none where one octet is left over. -/
def units16? (order : ByteOrder) : Bytes → Option (List Nat)
  | [] => some []
  | [_] => none
  | a :: b :: rest => (units16? order rest).map (unitValue order [a, b] :: ·)

/-- The characters of units of four octets each; none where octets are left over or a unit is too
large. -/
def chars32? (order : ByteOrder) : Bytes → Option (List Char)
  | [] => some []
  | a :: b :: c :: d :: rest =>
      let n := unitValue order [a, b, c, d]
      if n < 0x110000 then (chars32? order rest).map (unitChar n :: ·) else none
  | _ => none

def chars? : Encoding → Bytes → Option (List Char)
  | .utf8, bs => (Utf8.decode bs).toOption.map (·.toList)
  | .utf16 order, bs => (units16? order bs).map charsOfUnits
  | .utf32 order, bs => chars32? order bs

end Encoding

def charsOfBytes? (bs : Bytes) : Option (List Char) :=
  let (encoding, rest) := Encoding.detect bs
  encoding.chars? rest

end Dissect.Text
