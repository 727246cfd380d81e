import Dissect.Text.Utf8

namespace Dissect.Text.Base64

def digitChar (n : Nat) : Char :=
  if n < 26 then Char.ofNat (0x41 + n)
  else if n < 52 then Char.ofNat (0x61 + (n - 26))
  else if n < 62 then Char.ofNat (0x30 + (n - 52))
  else if n = 62 then '+'
  else '/'

def digits (a b c : UInt8) : List Char :=
  [digitChar (a.toNat / 4), digitChar (a.toNat % 4 * 16 + b.toNat / 16),
    digitChar (b.toNat % 16 * 4 + c.toNat / 64), digitChar (c.toNat % 64)]

def encodeChars : Bytes → List Char
  | a :: b :: c :: rest => digits a b c ++ encodeChars rest
  | [a, b] => (digits a b 0).take 3 ++ ['=']
  | [a] => (digits a 0 0).take 2 ++ ['=', '=']
  | [] => []

def encode (bs : Bytes) : String := String.ofList (encodeChars bs)

end Dissect.Text.Base64
