/-!
The numbers a host hands over: durations, list positions, setting values.
-/

namespace KeyPrecedence

/-- An exact value, or one of the results of arithmetic that have none. -/
inductive Number
  | finite (value : Rat)
  | nan
  | infinite (negative : Bool)
  deriving DecidableEq, Repr

namespace Number

instance : Inhabited Number := ⟨finite 0⟩

def ofNat (n : Nat) : Number := finite n

/-- No comparison with `nan` holds. -/
def lt : Number → Number → Bool
  | nan, _ => false
  | _, nan => false
  | finite a, finite b => decide (a < b)
  | infinite negative, finite _ => negative
  | finite _, infinite negative => !negative
  | infinite a, infinite b => a && !b

def le (a b : Number) : Bool :=
  a.lt b || (a == b && a != nan)

/-- The number without its fraction; what has no value counts as zero. -/
def truncate : Number → Int
  | finite value => if value < 0 then value.ceil else value.floor
  | _ => 0

/-- The value, when it is a natural number. -/
def toNat? : Number → Option Nat
  | finite value => if value.den = 1 ∧ 0 ≤ value.num then some value.num.toNat else none
  | _ => none

end Number
end KeyPrecedence
