/-!
Text measured in UTF-16 units. A character beyond the first plane takes two units, a high and a low
half.
-/

namespace KeyPrecedence.Text

def isHighHalf (unit : Nat) : Bool := 0xd800 ≤ unit && unit < 0xdc00

def isLowHalf (unit : Nat) : Bool := 0xdc00 ≤ unit && unit < 0xe000

/-- The character of a high half and the low half that follows it. -/
def joinHalves (high low : Nat) : Char :=
  Char.ofNat (0x10000 + (high - 0xd800) * 0x400 + (low - 0xdc00))

def unitsOf (c : Char) : List Nat :=
  if c.toNat < 0x10000 then [c.toNat]
  else
    let beyond := c.toNat - 0x10000
    [0xd800 + beyond / 0x400, 0xdc00 + beyond % 0x400]

def units (cs : List Char) : List Nat := cs.flatMap unitsOf

/-- The characters that have these units. A half that stands alone belongs to none. -/
def ofUnits? : List Nat → Option (List Char)
  | [] => some []
  | [unit] => if isHighHalf unit || isLowHalf unit then none else some [Char.ofNat unit]
  | unit :: next :: rest =>
    if isHighHalf unit then
      if isLowHalf next then (ofUnits? rest).map (joinHalves unit next :: ·) else none
    else if isLowHalf unit then none
    else (ofUnits? (next :: rest)).map (Char.ofNat unit :: ·)

/-- The character, when the text is a single unit. -/
def single? (s : String) : Option Char :=
  match s.toList with
  | [c] => if (unitsOf c).length = 1 then some c else none
  | _ => none

end KeyPrecedence.Text
