import KeyPrecedence.Number.Decimal

/-!
Values of any kind, as a host may offer them for a setting or name them in a log message.
-/

namespace KeyPrecedence

/-- `missing` is a value that was not given; `null` is given, and stands for none. -/
inductive Value
  | missing
  | null
  | bool (b : Bool)
  | number (n : Number)
  | text (s : String)
  | list (items : List Value)
  | record (fields : List (String × Value))
  | routine (name : String)

namespace Value

instance : Inhabited Value := ⟨missing⟩

/-- The kind named in messages. What has parts counts as an object, and so does `null`. -/
def kind : Value → String
  | missing => "undefined"
  | bool _ => "boolean"
  | number _ => "number"
  | text _ => "string"
  | routine _ => "function"
  | null | list _ | record _ => "object"

/-- The text of a routine that has no source to show. -/
def routineText (name : String) : String := s!"function {name}() \x7b [native code] \x7d"

/-- The field by which a record is made into text. No value of a host's can do that job. -/
def textField : String := "toString"

mutual

/-- The text of a value inside a message, if it has one. -/
def text? : Value → Option String
  | missing => some "undefined"
  | null => some "null"
  | bool b => some (if b then "true" else "false")
  | number n => some n.text
  | text s => some s
  | list items => (texts? items).map (",".intercalate ·)
  | record fields =>
    if (fields.lookup textField).isSome then none else some "[object Object]"
  | routine name => some (routineText name)

/-- Inside a list, a value that stands for none leaves its place empty. -/
def texts? : List Value → Option (List String)
  | [] => some []
  | missing :: rest => (texts? rest).map ("" :: ·)
  | null :: rest => (texts? rest).map ("" :: ·)
  | value :: rest => do return (← text? value) :: (← texts? rest)

end

/-- The routines every record has, apart from the one that makes records. -/
def inheritedRoutines : List String :=
  ["toString", "valueOf", "hasOwnProperty", "isPrototypeOf", "propertyIsEnumerable",
    "toLocaleString", "__defineGetter__", "__defineSetter__", "__lookupGetter__",
    "__lookupSetter__"]

/-- What a record answers with for a name that none of its fields has. -/
def inherited? (name : String) : Option Value :=
  if name = "constructor" then some (routine "Object")
  else if name = "__proto__" then some (record [])
  else if inheritedRoutines.contains name then some (routine name)
  else none

end Value
end KeyPrecedence
