/-!
Names that stand for a position in a list.
-/

namespace KeyPrecedence.Text

/-- Positions end below the largest number of 32 bits. -/
def mostPositions : Nat := 0xffffffff

/-- The position a name stands for; positions are written without leading zeros. -/
def position? (name : String) : Option Nat :=
  let digits := name.toList
  if digits.isEmpty || !digits.all Char.isDigit then none
  else
    let position := digits.foldl (fun n c => 10 * n + (c.toNat - '0'.toNat)) 0
    if Nat.toDigits 10 position = digits ∧ position < mostPositions then some position else none

end KeyPrecedence.Text
