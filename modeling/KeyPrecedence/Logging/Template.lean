import KeyPrecedence.Text.Blank
import KeyPrecedence.Value.Path

/-!
Message templates. A name in braces stands for a value, put in as it is, so that braces inside a
value are text. Doubled braces write one; a brace that is never closed is text.
-/

namespace KeyPrecedence.Template

/-- The name that stands for all values together. -/
def allValues : List Char := ['*']

/-- The value of a name: one that was given, or one that every record has. -/
def named (values : List (String × Value)) (name : List Char) : Value :=
  let name := String.ofList name
  match values.lookup name with
  | some value => value
  | none => (Value.inherited? name).getD .missing

/-- A name that holds a point or a bracket may be a path. -/
def mayBePath (name : List Char) : Bool := name.contains '.' || name.contains '['

/-- The value of a name, also when blanks stand around it. A name without a value is missing, unless
it is a path that leads to one. -/
def valueOf (values : List (String × Value)) (name : List Char) : Value :=
  let trimmed := Text.trim name
  let given := values.lookup (String.ofList name)
  if trimmed = allValues then
    (given <|> values.lookup (String.ofList allValues)).getD (.record values)
  else
    match given.getD (named values trimmed) with
    | .missing => if mayBePath trimmed then Path.resolve (.record values) trimmed else .missing
    | value => value

theorem length_after_dropWhile {p : Char → Bool} {cs after : List Char} {c : Char}
    (h : cs.dropWhile p = c :: after) : after.length < cs.length := by
  have sub := (List.dropWhile_sublist p (l := cs)).length_le
  rw [h, List.length_cons] at sub
  exact sub

/-- The text of a template, unless one of its values has none. -/
def fill (values : List (String × Value)) : List Char → Option (List Char)
  | [] => some []
  | '\x7b' :: '\x7b' :: rest => (fill values rest).map ('\x7b' :: ·)
  | '\x7d' :: '\x7d' :: rest => (fill values rest).map ('\x7d' :: ·)
  | '\x7b' :: rest =>
    match h : rest.dropWhile (· ≠ '\x7d') with
    | [] => (fill values rest).map ('\x7b' :: ·)
    | _ :: after => do
      have : after.length < rest.length := length_after_dropWhile h
      let text ← (valueOf values (rest.takeWhile (· ≠ '\x7d'))).text?
      return text.toList ++ (← fill values after)
  | c :: rest => (fill values rest).map (c :: ·)
termination_by cs => cs.length

/-- A template without an opening brace is taken as it is. -/
def expand? (template : String) (values : List (String × Value)) : Option String :=
  let cs := template.toList
  if cs.contains '\x7b' then (fill values cs).map String.ofList else some template

end KeyPrecedence.Template
