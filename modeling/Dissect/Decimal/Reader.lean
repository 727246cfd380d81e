import Dissect.Decimal.Layout
import Dissect.Text.Blank
import Dissect.Text.Digit

namespace Dissect.Decimal

/-- The text in plain characters: digits of any script as `0` to `9`, white space beyond the first
128 code points as a space, anything else beyond them as a question mark. -/
def plain (text : String) : List Char :=
  text.toList.map fun c =>
    if c.toNat < 127 then c
    else if Text.isBlank c then ' '
    else
      match Text.digitValue? c with
      | some d => Nat.digitChar d
      | none => '?'

def isMargin (c : Char) : Bool := c == ' ' || (9 ≤ c.toNat && c.toNat ≤ 13)

def withoutMargin (cs : List Char) : List Char :=
  ((cs.dropWhile isMargin).reverse.dropWhile isMargin).reverse

def takeSign : List Char → Bool × List Char
  | '-' :: rest => (true, rest)
  | '+' :: rest => (false, rest)
  | cs => (false, cs)

def underscoresBetween (previous : Char) : List Char → Bool
  | [] => previous != '_'
  | c :: rest =>
      (if c == '_' then previous.isDigit
       else previous != '_' || c.isDigit) && underscoresBetween c rest

def digitsValue (cs : List Char) : Nat :=
  (cs.filter (· != '_')).foldl (fun n c => n * 10 + (c.toNat - 48)) 0

/-- The most digits that a whole number is read from. -/
def digitLimit : Nat := 4300

structure TooManyDigits where
  count : Nat
deriving DecidableEq, Repr

def TooManyDigits.message (e : TooManyDigits) : String :=
  "Exceeds the limit (" ++ toString digitLimit
    ++ " digits) for integer string conversion: value has " ++ toString e.count
    ++ " digits; use sys.set_int_max_str_digits() to increase the limit"

def wholeValue (negative : Bool) (cs : List Char) : Except TooManyDigits Int :=
  let count := cs.countP (· != '_')
  if digitLimit < count then .error ⟨count⟩
  else
    let n : Int := digitsValue cs
    .ok (if negative then -n else n)

inductive IntFault
  | malformed
  | tooLong (e : TooManyDigits)
deriving DecidableEq, Repr

/-- A whole number. Digits that are too many count before what stands behind them. -/
def readInt (text : String) : Except IntFault Int :=
  let (negative, cs) := takeSign (withoutMargin (plain text))
  let isPart (c : Char) : Bool := c.isDigit || c == '_'
  let digits := cs.takeWhile isPart
  if digits.isEmpty || !underscoresBetween ' ' digits then .error .malformed
  else
    match wholeValue negative digits, cs.dropWhile isPart with
    | .error e, _ => .error (.tooLong e)
    | .ok n, [] => .ok n
    | .ok _, _ => .error .malformed

def readExponent? : List Char → Option Int
  | [] => some 0
  | c :: rest =>
      if c == 'e' || c == 'E' then
        let (negative, digits) := takeSign rest
        if !digits.isEmpty && digits.all Char.isDigit then
          let n : Int := digitsValue digits
          some (if negative then -n else n)
        else none
      else none

/-- A decimal: digits with or without a point, at least one of them, and an exponent. -/
def readDecimal? (negative : Bool) (cs : List Char) : Option Float :=
  let whole := cs.takeWhile Char.isDigit
  let rest := cs.dropWhile Char.isDigit
  let (fraction, rest) :=
    match rest with
    | '.' :: rest => (rest.takeWhile Char.isDigit, rest.dropWhile Char.isDigit)
    | rest => ([], rest)
  if whole.isEmpty && fraction.isEmpty then none
  else (readExponent? rest).map fun e =>
    nearest negative (digitsValue (whole ++ fraction)) (e - fraction.length)

/-- A number: a decimal, an infinity or no number at all, in letters of either case. -/
def readFloat? (text : String) : Option Float :=
  let all := withoutMargin (plain text)
  if underscoresBetween ' ' all then
    let (negative, cs) := takeSign (all.filter (· != '_'))
    let word := String.ofList (cs.map Char.toLower)
    if all.contains '_' then readDecimal? negative cs
    else if word == "inf" || word == "infinity" then
      some (if negative then Float.ofBits 0xFFF0000000000000 else Float.ofBits 0x7FF0000000000000)
    else if word == "nan" then some (Float.ofBits 0x7FF8000000000000)
    else readDecimal? negative cs
  else none

end Dissect.Decimal
