import Dissect.Text.Digit
import Dissect.Text.Quoted
import Dissect.Text.Utf8

namespace Dissect.Address

def isGraphic (c : Char) : Bool := 32 < c.toNat && c.toNat < 127

def graphicBut (hidden : String) (c : Char) : Bool := isGraphic c && !hidden.toList.contains c

/-- What the parts of an address show: a fragment, a query, a path and a user with a password. -/
def shownInFragment : Char → Bool := graphicBut "\"<>`"
def shownInQuery : Char → Bool := graphicBut "\"#<>"
def shownInPath : Char → Bool := graphicBut "\"#<>?`\x7b\x7d"
def shownInUser : Char → Bool := graphicBut "\"#<>?`\x7b\x7d/;=@[\\]^|"

def shownInHost : Char → Bool := graphicBut "#/:<>?@[]^"

def percentOctet (b : UInt8) : List Char := '%' :: (Text.hexDigits 2 b.toNat).map Char.toUpper

def percentChar (c : Char) : List Char := (String.utf8EncodeChar c).flatMap percentOctet

def percentCoded (isShown : Char → Bool) (text : List Char) : String :=
  String.ofList (text.flatMap fun c => if isShown c then [c] else percentChar c)

/-- The octets of a text with coded characters; a percent sign without two digits stands for itself.
-/
def octets : List Char → Bytes
  | '%' :: a :: b :: rest =>
      match Text.hexValue? a, Text.hexValue? b with
      | some high, some low => (16 * high + low).toUInt8 :: octets rest
      | _, _ => 37 :: octets (a :: b :: rest)
  | c :: rest => String.utf8EncodeChar c ++ octets rest
  | [] => []

def percentDecoded (text : List Char) : String := Text.Utf8.decodeLenient (octets text)

end Dissect.Address
