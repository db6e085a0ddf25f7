import KeyPrecedence.Number.Basic

/-!
Double precision: what a bit pattern stands for, and which numbers round to a given one. A number
is the nearest double of everything less than half a step away from it.
-/

namespace KeyPrecedence.Number

def pow2 (e : Int) : Rat := (2 : Rat) ^ e

/-- The exponent of the smallest step; below it there are no further doubles. -/
def leastExponent : Int := -1074

/-- Digits of a full mantissa after its first. -/
def mantissaBits : Nat := 52

/-- The first digit of a full mantissa. -/
def mantissaUnit : Nat := 0x10000000000000

/-- The number a bit pattern stands for. The two zeros are one number. -/
def ofBits (bits : UInt64) : Number :=
  let negative := bits >>> 63 == 1
  let exponent := ((bits >>> 52) &&& 0x7ff).toNat
  let fraction := (bits &&& 0xfffffffffffff).toNat
  if exponent = 0x7ff then
    if fraction = 0 then infinite negative else nan
  else
    let magnitude : Rat :=
      if exponent = 0 then fraction * pow2 leastExponent
      else (mantissaUnit + fraction : Nat) * pow2 (leastExponent + exponent - 1)
    finite (if negative then -magnitude else magnitude)

/-- The binary exponent of a positive number: `2 ^ e ≤ q < 2 ^ (e + 1)`. -/
def binaryExponent (q : Rat) : Int :=
  let guess : Int := q.num.toNat.log2 - q.den.log2
  if pow2 guess ≤ q then guess else guess - 1

/-- The exponent of the distance from a positive double to the next larger one. -/
def stepExponent (q : Rat) : Int :=
  max (binaryExponent q - mantissaBits) leastExponent

/-- Whether reading `x` gives back the positive double `q`. An exact half goes to the even mantissa,
and below a power of two the steps are half as long. -/
def readsAs (q x : Rat) : Bool :=
  let exponent := stepExponent q
  let above := pow2 exponent / 2
  let below :=
    if q = pow2 (exponent + mantissaBits) ∧ leastExponent < exponent then above / 2 else above
  let even := (q / pow2 exponent).floor % 2 == 0
  if even then decide (q - below ≤ x ∧ x ≤ q + above)
  else decide (q - below < x ∧ x < q + above)

end KeyPrecedence.Number
