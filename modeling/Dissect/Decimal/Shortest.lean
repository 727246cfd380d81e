import Dissect.Decimal.Binary

namespace Dissect.Decimal

/-- The numbers that round to `m * 2 ^ q`, in units of `2 ^ (q - 2)`: from the lower to the upper
end. Below a power of two the neighbour is only half as far. -/
def readBack (m : Nat) (q : Int) : Nat × Nat :=
  (if m == 0x10000000000000 && -1074 < q then 4 * m - 1 else 4 * m - 2, 4 * m + 2)

/-- Whether `c * 10 ^ k` reads back as `m * 2 ^ q`; the ends do when `m` is even. -/
def readsBack (m : Nat) (q : Int) (c : Nat) (k : Int) : Bool :=
  let (low, high) := readBack m q
  let (lowNum, lowDen) := scaleDown (quotient low (q - 2)) k
  let (highNum, highDen) := scaleDown (quotient high (q - 2)) k
  if m % 2 == 0 then lowNum ≤ c * lowDen && c * highDen ≤ highNum
  else lowNum < c * lowDen && c * highDen < highNum

def neighbour? (m : Nat) (q : Int) (k : Int) : Option Nat :=
  let (num, den) := scaleDown (quotient m q) k
  let low := num / den
  match readsBack m q low k, readsBack m q (low + 1) k with
  | true, true => some (roundDiv num den)
  | true, false => some low
  | false, true => some (low + 1)
  | false, false => none

/-- Try `tries` grids from the multiples of `10 ^ k` on, each ten times as fine as the one before.
-/
def finer (m : Nat) (q : Int) : Nat → Int → Nat × Int
  | 0, k => (roundDiv (scaleDown (quotient m q) k).1 (scaleDown (quotient m q) k).2, k)
  | tries + 1, k =>
      match neighbour? m q k with
      | some c => (c, k)
      | none => finer m q tries (k - 1)

/-- The shortest decimal `c * 10 ^ k` that reads back as `m * 2 ^ q`, for positive `m`. -/
def shortest (m : Nat) (q : Int) : Nat × Int := finer m q 17 (leadingPower m q)

end Dissect.Decimal
