import KeyPrecedence.Text.Units
import KeyPrecedence.Text.Uppercase
import KeyPrecedence.Value

/-!
How a key is named in a shortcut: single characters in upper case, named keys by a table.
-/

namespace KeyPrecedence

inductive Platform
  | mac
  | other
  deriving DecidableEq, Repr

def Platform.ofName (name : String) : Platform :=
  if name = "darwin" then .mac else .other

/-- Named keys that every platform shows alike. -/
def commonKeyNames : List (String × String) :=
  [("Tab", "Tab"), ("ArrowUp", "↑"), ("ArrowDown", "↓"), ("ArrowLeft", "←"), ("ArrowRight", "→"),
    (" ", "Space"), ("PageUp", "PgUp"), ("PageDown", "PgDn"), ("Home", "Home"), ("End", "End")]

def Platform.ownKeyNames : Platform → List (String × String)
  | mac => [("Backspace", "⌫"), ("Delete", "⌦"), ("Enter", "↩"), ("Return", "↩"), ("Escape", "⎋")]
  | other => [("Backspace", "Backspace"), ("Delete", "Delete"), ("Enter", "Enter"),
      ("Return", "Enter"), ("Escape", "Esc")]

def Platform.keyNames (platform : Platform) : List (String × String) :=
  platform.ownKeyNames ++ commonKeyNames

/-- The entry for a key. The table is a record, so it also answers to the names that every record
has. -/
def Platform.namedKey? (platform : Platform) (key : String) : Option String :=
  match platform.keyNames.lookup key with
  | some name => some name
  | none => (Value.inherited? key).bind (·.text?)

/-- The display name of a key. A text of one UTF-16 unit is a character, except the space, which
has a name; a key that no table knows keeps the name the host gave it. -/
def Platform.keyName (platform : Platform) (key : String) : String :=
  match Text.single? key with
  | some c => if c = ' ' then (platform.namedKey? key).getD key else Text.upper c
  | none => (platform.namedKey? key).getD key

end KeyPrecedence
