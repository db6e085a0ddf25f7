import KeyPrecedence.Number.Binary

/-!
Arithmetic in double precision. A result that is no double goes to the nearest one, an exact half to
the one with the even mantissa, and what is too large for every double becomes infinite.
-/

namespace KeyPrecedence.Number

/-- The nearest whole number; an exact half goes to the even one. -/
def nearestWhole (q : Rat) : Int :=
  let below := q.floor
  let left := q - below
  let right := (below + 1 : Int) - q
  if left < right then below
  else if right < left then below + 1
  else if below % 2 = 0 then below else below + 1

/-- All doubles lie below. -/
def doubleBound : Rat := pow2 1024

def roundPositive (q : Rat) : Number :=
  let step := pow2 (stepExponent q)
  let rounded := nearestWhole (q / step) * step
  if doubleBound ≤ rounded then infinite false else finite rounded

def neg : Number → Number
  | finite value => finite (-value)
  | nan => nan
  | infinite negative => infinite !negative

/-- The double nearest to an exact value. -/
def round (q : Rat) : Number :=
  if q = 0 then finite 0
  else if q < 0 then (roundPositive (-q)).neg
  else roundPositive q

def add : Number → Number → Number
  | finite a, finite b => round (a + b)
  | infinite a, infinite b => if a = b then infinite a else nan
  | infinite a, finite _ => infinite a
  | finite _, infinite b => infinite b
  | _, _ => nan

end KeyPrecedence.Number
