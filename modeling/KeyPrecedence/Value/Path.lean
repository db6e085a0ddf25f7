import KeyPrecedence.Number.Numeral
import KeyPrecedence.Text.Position
import KeyPrecedence.Text.Units
import KeyPrecedence.Value

/-!
Paths into a value, such as `user.name` or `rows[0]["full name"]`. A step goes to a field by its
name or to a place in a list by its number. A path that is not well formed leads nowhere, and so
does one with a step for which there is nothing.
-/

namespace KeyPrecedence

namespace Value

inductive Step
  | field (name : String)
  | place (index : Number)
  deriving DecidableEq, Repr

/-- Names that a path never leads to, whether there is such a field or not. -/
def hiddenFields : List String := ["__proto__", "prototype", "constructor"]

/-- A field of a value. The fields of a list are its positions and its length; text has none. -/
def field (value : Value) (name : String) : Value :=
  if hiddenFields.contains name then missing
  else
    match value with
    | record fields => (fields.lookup name).getD missing
    | list items =>
      if name = "length" then number (.ofNat items.length)
      else ((Text.position? name).bind fun position => items[position]?).getD missing
    | _ => missing

def take (value : Value) : Step → Value
  | .field name => value.field name
  | .place index =>
    match value with
    | list items => (index.toNat?.bind fun position => items[position]?).getD missing
    | _ => missing

/-- The value a path leads to. -/
def follow (value : Value) (steps : List Step) : Value := steps.foldl take value

end Value

namespace Path

open Value (Step)

/-- The unit that a text gives in base 16. The text may begin with blanks, a sign and the mark of
the base, and is read as far as its digits go. -/
def unit? (text : List Char) : Option Nat :=
  let text := Text.trimLeft text
  let (negative, text) : Bool × List Char := match text with
    | '-' :: rest => (true, rest)
    | '+' :: rest => (false, rest)
    | rest => (false, rest)
  let text := match text with
    | '0' :: 'x' :: rest | '0' :: 'X' :: rest => rest
    | rest => rest
  let digits := text.takeWhile (Number.isDigitIn 16)
  if digits.isEmpty then none
  else
    let unit := Number.digitsValue 16 digits
    some (if negative then (0x10000 - unit) % 0x10000 else unit)

/-- How many units an escaped unit is written with. -/
def unitWidth : Nat := 4

/-- The unit written behind the mark of an escaped unit. Halves of characters are no digits. -/
def unitAt? (units : List Nat) : Option Nat :=
  if units.length < unitWidth then none else unit? ((units.take unitWidth).map Char.ofNat)

/-- The unit that a character stands for behind a backslash. -/
def escaped (unit : Nat) : Nat :=
  match Char.ofNat unit with
  | 'n' => 0x0a
  | 't' => 0x09
  | 'r' => 0x0d
  | 'b' => 0x08
  | 'f' => 0x0c
  | 'v' => 0x0b
  | '0' => 0x00
  | _ => unit

/-- The units up to a closing quote, and those behind it; `skip` units have been read already. The
mark of an escaped unit stands for itself when no unit can be read behind it. -/
def quoted (quote : Char) : Nat → List Nat → Option (List Nat × List Nat)
  | _, [] => none
  | skip + 1, _ :: rest => quoted quote skip rest
  | 0, unit :: rest =>
    if unit = quote.toNat then some ([], rest)
    else if unit = '\\'.toNat then
      match rest with
      | [] => none
      | mark :: rest =>
        let read? := if mark = 'u'.toNat then unitAt? rest else none
        let (unit, width) : Nat × Nat := match read? with
          | some unit => (unit, unitWidth)
          | none => (escaped mark, 0)
        (quoted quote width rest).map fun (name, rest) => (unit :: name, rest)
    else (quoted quote 0 rest).map fun (name, rest) => (unit :: name, rest)

/-- Behind the closing bracket; a path may end without it. -/
def afterBracket (cs : List Char) : List Char := (cs.dropWhile (· ≠ ']')).drop 1

def isQuote (c : Char) : Bool := c = '"' || c = '\''

/-- Without quotes, what reads as a number is one. -/
def bareStep (text : List Char) : Step :=
  match Number.ofText? text with
  | some index => .place index
  | none => .field (String.ofList text)

/-- The step in brackets, and what follows them. A name that is no text leads nowhere. -/
def bracketStep : List Char → Option (Step × List Char)
  | [] => none
  | c :: rest =>
    if isQuote c then do
      let (name, rest) ← quoted c 0 (Text.units rest)
      return (.field (String.ofList (← Text.ofUnits? name)), afterBracket (← Text.ofUnits? rest))
    else
      let ends (c : Char) : Bool := c = ']' || isQuote c
      let text := (c :: rest).takeWhile (!ends ·)
      match (c :: rest).dropWhile (!ends ·) with
      | [] => none
      | after => if text.isEmpty then none else some (bareStep text, afterBracket after)

/-- The characters that end a name. -/
def endsName (c : Char) : Bool := c = '.' || c = '[' || c = '?' || c = ']'

/-- The first step of a path, and what follows it. -/
def firstStep : List Char → Option (Step × List Char)
  | '[' :: rest => bracketStep rest
  | cs =>
    let name := cs.takeWhile (!endsName ·)
    if name.isEmpty then none
    else some (.field (String.ofList name), cs.dropWhile (!endsName ·))

/-- A question mark with a point in front of a step changes nothing. -/
def dropOptional : List Char → List Char
  | '?' :: '.' :: rest => rest
  | cs => cs

def dropPoint : List Char → List Char
  | '.' :: rest => rest
  | cs => cs

/-- The steps of a path that takes at most so many. -/
def stepsWithin : Nat → List Char → Option (List Step)
  | _, [] => some []
  | 0, _ => none
  | count + 1, cs => do
    let (step, rest) ← firstStep (dropOptional cs)
    return step :: (← stepsWithin count (dropPoint rest))

/-- The steps of a path. Each takes a character at least. -/
def steps? (path : List Char) : Option (List Step) :=
  if path.isEmpty || path.getLast? = some '.' then none else stepsWithin path.length path

/-- The value that a path leads to. -/
def resolve (value : Value) (path : List Char) : Value :=
  match steps? path with
  | some steps => value.follow steps
  | none => .missing

end Path
end KeyPrecedence
