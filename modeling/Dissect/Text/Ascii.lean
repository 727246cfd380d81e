import Dissect.Text.Quoted

namespace Dissect.Text

/-- The first stretch of a text that is beyond ASCII: its first character, its position and its
length. -/
structure AsciiFault where
  char : Char
  position : Nat
  width : Nat
deriving DecidableEq, Repr

/-- The wording of a fault: the character is shown when it stands alone, else the range. -/
def AsciiFault.message (f : AsciiFault) : String :=
  (if f.width ≤ 1 then
    "'ascii' codec can't encode character '" ++ String.ofList (numbered f.char) ++ "' in position "
      ++ toString f.position
  else
    "'ascii' codec can't encode characters in position " ++ toString f.position ++ "-"
      ++ toString (f.position + f.width - 1))
  ++ ": ordinal not in range(128)"

def asciiFault? (text : String) : Option AsciiFault :=
  let isAscii (c : Char) : Bool := c.toNat < 128
  let rest := text.toList.dropWhile isAscii
  rest.head?.map fun c => ⟨c, text.length - rest.length, (rest.takeWhile (!isAscii ·)).length⟩

end Dissect.Text
