namespace Dissect.Decimal

/-- What a floating-point number stands for: `m * 2 ^ q`, with a sign, or no finite value. -/
inductive Value
  | nan
  | infinite (negative : Bool)
  | finite (negative : Bool) (m : Nat) (q : Int)
deriving DecidableEq, Repr

/-- The value of a bit pattern: one sign bit, eleven exponent bits, fifty-two fraction bits. -/
def valueOfBits (bits : UInt64) : Value :=
  let negative := bits >>> 63 == 1
  let exponent := ((bits >>> 52) &&& 0x7FF).toNat
  let fraction := (bits &&& 0xFFFFFFFFFFFFF).toNat
  if exponent == 0x7FF then
    if fraction == 0 then .infinite negative else .nan
  else if exponent == 0 then .finite negative fraction (-1074)
  else .finite negative (fraction + 0x10000000000000) (exponent - 1075)

def value (x : Float) : Value := valueOfBits x.toBits

def roundDiv (num den : Nat) : Nat :=
  let low := num / den
  let twice := 2 * (num % den)
  if twice < den then low
  else if den < twice then low + 1
  else if low % 2 == 0 then low else low + 1

def quotient (m : Nat) (q : Int) : Nat × Nat :=
  if 0 ≤ q then (m * Nat.pow 2 q.toNat, 1) else (m, Nat.pow 2 (-q).toNat)

def scaleDown (frac : Nat × Nat) (k : Int) : Nat × Nat :=
  if 0 ≤ k then (frac.1, frac.2 * Nat.pow 10 k.toNat)
  else (frac.1 * Nat.pow 10 (-k).toNat, frac.2)

/-- The power of ten of the leading decimal digit of `m * 2 ^ q`, for positive `m`. The estimate by
the power of two is exact or one too low. -/
def leadingPower (m : Nat) (q : Int) : Int :=
  let estimate := (((m.log2 : Int) + q) * 30103).fdiv 100000
  let (num, den) := scaleDown (quotient m q) (estimate + 1)
  if den ≤ num then estimate + 1 else estimate

end Dissect.Decimal
