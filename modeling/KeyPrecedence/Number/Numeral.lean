import KeyPrecedence.Number.Decimal
import KeyPrecedence.Number.Rounding
import KeyPrecedence.Text.Blank

/-!
Reading numbers: decimals with or without an exponent, whole numbers to the base 2, 8 or 16, and
infinity. Blanks around a numeral do not count, and nothing at all reads as zero.
-/

namespace KeyPrecedence.Number

def digitValue (c : Char) : Nat :=
  if c.isDigit then c.toNat - '0'.toNat
  else if 'a' ≤ c ∧ c ≤ 'z' then c.toNat - 'a'.toNat + 10
  else if 'A' ≤ c ∧ c ≤ 'Z' then c.toNat - 'A'.toNat + 10
  else 36

def isDigitIn (base : Nat) (c : Char) : Bool := digitValue c < base

def digitsValue (base : Nat) (digits : List Char) : Nat :=
  digits.foldl (fun n c => base * n + digitValue c) 0

/-- Beyond this many digits in front of the point a number is infinite, and with this many zeros
behind it a number is zero. -/
def farthestDigit : Nat := 400

/-- The double nearest to `digits * 10 ^ exponent`. -/
def ofDecimal (digits : Nat) (exponent : Int) : Number :=
  let size := digitCount digits + exponent
  if digits = 0 ∨ size < -farthestDigit then finite 0
  else if farthestDigit < size then infinite false
  else round (digits * pow10 exponent)

/-- An exponent behind its mark, with or without a sign. -/
def readExponent? (cs : List Char) : Option Int :=
  let (negative, digits) : Bool × List Char := match cs with
    | '-' :: rest => (true, rest)
    | '+' :: rest => (false, rest)
    | rest => (false, rest)
  if digits.isEmpty || !digits.all Char.isDigit then none
  else
    let size : Int := digitsValue 10 digits
    some (if negative then -size else size)

/-- A decimal without a sign. A digit is needed on one side of the point at least. -/
def readDecimal? (cs : List Char) : Option Number :=
  let whole := cs.takeWhile Char.isDigit
  let rest := cs.dropWhile Char.isDigit
  let (fraction, rest) : List Char × List Char := match rest with
    | '.' :: behind => (behind.takeWhile Char.isDigit, behind.dropWhile Char.isDigit)
    | rest => ([], rest)
  let exponent? := match rest with
    | [] => some 0
    | 'e' :: behind | 'E' :: behind => readExponent? behind
    | _ => none
  if whole.isEmpty && fraction.isEmpty then none
  else exponent?.map fun exponent =>
    ofDecimal (digitsValue 10 (whole ++ fraction)) (exponent - fraction.length)

def readMagnitude? (cs : List Char) : Option Number :=
  if cs = "Infinity".toList then some (infinite false) else readDecimal? cs

/-- The base that two characters announce. -/
def base? : Char → Char → Option Nat
  | '0', 'x' | '0', 'X' => some 16
  | '0', 'o' | '0', 'O' => some 8
  | '0', 'b' | '0', 'B' => some 2
  | _, _ => none

def readWhole? (base : Nat) (digits : List Char) : Option Number :=
  if digits.isEmpty || !digits.all (isDigitIn base) then none
  else some (round (digitsValue base digits))

/-- The number a text stands for, if it stands for one. Only decimals take a sign. -/
def ofText? (text : List Char) : Option Number :=
  match Text.trim text with
  | [] => some (finite 0)
  | '-' :: rest => (readMagnitude? rest).map neg
  | '+' :: rest => readMagnitude? rest
  | a :: b :: rest =>
    match base? a b with
    | some base => readWhole? base rest
    | none => readMagnitude? (a :: b :: rest)
  | cs => readMagnitude? cs

end KeyPrecedence.Number
