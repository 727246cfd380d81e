import Dissect.Decimal.Shortest

namespace Dissect.Decimal

structure Digits where
  digits : List Char
  power : Int

/-- The digits of `c * 10 ^ k`. -/
def Digits.of (c : Nat) (k : Int) : Digits :=
  let ds := Nat.toDigits 10 c
  let kept := (ds.reverse.dropWhile (· == '0')).reverse
  ⟨if kept.isEmpty then ['0'] else kept, k + ds.length - 1⟩

/-- Which powers of ten are written without an exponent, and whether a whole number keeps a
fraction of zero. -/
structure Layout where
  least : Int
  bound : Int
  wholePart : Bool

/-- The form that reads back: positional from `10 ^ -4` up to, not including, `10 ^ 16`. -/
def exactLayout : Layout := ⟨-4, 16, true⟩

/-- The general form of six digits: positional up to, not including, `10 ^ 6`. -/
def generalLayout : Layout := ⟨-4, 6, false⟩

def exponentText (power : Int) : List Char :=
  let ds := Nat.toDigits 10 power.natAbs
  'e' :: (if power < 0 then '-' else '+') :: (if ds.length < 2 then '0' :: ds else ds)

def Layout.write (layout : Layout) (d : Digits) : List Char :=
  if layout.least ≤ d.power && d.power < layout.bound then
    if d.power < 0 then
      '0' :: '.' :: List.replicate ((-d.power).toNat - 1) '0' ++ d.digits
    else
      let whole := d.power.toNat + 1
      let front := d.digits.take whole ++ List.replicate (whole - d.digits.length) '0'
      match d.digits.drop whole with
      | [] => front ++ (if layout.wholePart then ['.', '0'] else [])
      | fraction => front ++ '.' :: fraction
  else
    match d.digits with
    | [] => []
    | [c] => c :: exponentText d.power
    | c :: rest => c :: '.' :: rest ++ exponentText d.power

def signed (negative : Bool) (text : List Char) : String :=
  String.ofList (if negative then '-' :: text else text)

def textBy (x : Float) (finite : Nat → Int → List Char) : String :=
  match value x with
  | .nan => "nan"
  | .infinite negative => signed negative "inf".toList
  | .finite negative m q => signed negative (finite m q)

def exactText (x : Float) : String :=
  textBy x fun m q =>
    if m == 0 then exactLayout.write (.of 0 0)
    else exactLayout.write (.of (shortest m q).1 (shortest m q).2)

def significant (count : Nat) (m : Nat) (q : Int) : Digits :=
  let k := leadingPower m q - (count - 1)
  let (num, den) := scaleDown (quotient m q) k
  .of (roundDiv num den) k

def generalText (x : Float) : String :=
  textBy x fun m q => generalLayout.write (if m == 0 then .of 0 0 else significant 6 m q)

/-- The magnitude in units of the last of `places` places, rounded. -/
def inPlaces (places : Nat) (m : Nat) (q : Int) : Nat :=
  let (num, den) := scaleDown (quotient m q) (-(places : Int))
  roundDiv num den

def fixedText (places : Nat) (x : Float) : String :=
  textBy x fun m q =>
    let ds := Nat.toDigits 10 (inPlaces places m q)
    let padded := List.replicate (places + 1 - ds.length) '0' ++ ds
    padded.take (padded.length - places) ++ '.' :: padded.drop (padded.length - places)

/-- The number nearest to `c * 10 ^ k`; powers far outside the range need no arithmetic. -/
def nearest (negative : Bool) (c : Nat) (k : Int) : Float :=
  let size := k + (Nat.toDigits 10 c).length
  let magnitude : Float :=
    if c == 0 || size < -400 then 0.0
    else if 400 < size then Float.ofBits 0x7FF0000000000000
    else Float.ofScientific c (k < 0) k.natAbs
  if negative then -magnitude else magnitude

def roundPlaces (places : Nat) (x : Float) : Float :=
  match value x with
  | .finite negative m q => nearest negative (inPlaces places m q) (-(places : Int))
  | _ => x

end Dissect.Decimal
