import KeyPrecedence.Number.Binary

/-!
Numbers as decimal text: the fewest digits that read back, of those the nearest, and of two
equally near the even one.
-/

namespace KeyPrecedence.Number

/-- `digits * 10 ^ exponent`. -/
structure Decimal where
  digits : Nat
  exponent : Int
  deriving DecidableEq, Repr

def pow10 (e : Int) : Rat := (10 : Rat) ^ e

namespace Decimal

def value (d : Decimal) : Rat := d.digits * pow10 d.exponent

/-- Trailing zeros move from the digits into the exponent. -/
def strip (d : Decimal) : Nat → Decimal
  | 0 => d
  | fuel + 1 =>
    if d.digits ≠ 0 ∧ d.digits % 10 = 0 then strip ⟨d.digits / 10, d.exponent + 1⟩ fuel else d

end Decimal

def digitCount (n : Nat) : Nat := (Nat.toDigits 10 n).length

/-- The decimal exponent of a positive number: `10 ^ e ≤ q < 10 ^ (e + 1)`. -/
def decimalExponent (q : Rat) : Int :=
  if 1 ≤ q then (digitCount q.floor.toNat : Int) - 1
  else -(digitCount (q⁻¹.ceil.toNat - 1) : Int)

/-- The neighbours of `q` among the decimals with `count` digits. -/
def neighbours (q : Rat) (count : Nat) : Decimal × Decimal :=
  let exponent := decimalExponent q - count + 1
  let below := (q / pow10 exponent).floor.toNat
  (⟨below, exponent⟩, ⟨below + 1, exponent⟩)

/-- Of two decimals around `q` the nearer one, or the even one. -/
def nearer (q : Rat) (a b : Decimal) : Decimal :=
  let left := q - a.value
  let right := b.value - q
  if left < right then a
  else if right < left then b
  else if a.digits % 2 = 0 then a else b

/-- The best decimal with `count` digits that reads back as `q`, if there is one. -/
def candidate (q : Rat) (count : Nat) : Option Decimal :=
  let (a, b) := neighbours q count
  match readsAs q a.value, readsAs q b.value with
  | true, true => some (nearer q a b)
  | true, false => some a
  | false, true => some b
  | false, false => none

/-- Seventeen digits tell any two doubles apart, so a longer search never finds more. -/
def mostDigits : Nat := 17

/-- The shortest decimal that reads back as the positive double `q`. -/
def shortest (q : Rat) : Decimal :=
  let counts := (List.range mostDigits).map (· + 1)
  let found := (counts.findSome? (candidate q)).getD (neighbours q mostDigits).1
  found.strip mostDigits

/-- Where the point may stand among plain digits; beyond these bounds an exponent is written. -/
structure Layout where
  /-- Zeros allowed between the point and the first digit. -/
  leadingZeros : Nat
  /-- Digits allowed in front of the point. -/
  wholeDigits : Nat

def layout : Layout := ⟨5, 21⟩

def exponentText (e : Int) : String :=
  if e < 0 then s!"e-{e.natAbs}" else s!"e+{e.natAbs}"

/-- A decimal without trailing zeros as text. -/
def Decimal.text (d : Decimal) : String :=
  let digits := Nat.toDigits 10 d.digits
  let point : Int := digits.length + d.exponent
  if 0 ≤ d.exponent ∧ point ≤ layout.wholeDigits then
    String.ofList (digits ++ List.replicate d.exponent.toNat '0')
  else if 0 < point ∧ point ≤ layout.wholeDigits then
    String.ofList (digits.take point.toNat ++ '.' :: digits.drop point.toNat)
  else if -(layout.leadingZeros : Int) ≤ point ∧ point ≤ 0 then
    String.ofList ('0' :: '.' :: List.replicate (-point).toNat '0' ++ digits)
  else
    match digits with
    | [] => ""
    | [first] => String.ofList [first] ++ exponentText (point - 1)
    | first :: rest => String.ofList (first :: '.' :: rest) ++ exponentText (point - 1)

def text : Number → String
  | nan => "NaN"
  | infinite negative => if negative then "-Infinity" else "Infinity"
  | finite value =>
    if value = 0 then "0"
    else if value < 0 then "-" ++ (shortest (-value)).text
    else (shortest value).text

end KeyPrecedence.Number
