/-!
What a key event says about the keyboard: the key, the modifiers held with it, and the phase.
-/

namespace KeyPrecedence

/-- A physical key is pressed, may type text, and is released. -/
inductive Phase
  | pressed
  | typed
  | released
  deriving DecidableEq, Repr

def Phase.name : Phase → String
  | pressed => "pressed"
  | typed => "typed"
  | released => "released"

/-- `logo` is the key marked ⌘ or with the system's logo. -/
structure Modifiers where
  ctrl : Bool := false
  alt : Bool := false
  altGraph : Bool := false
  shift : Bool := false
  logo : Bool := false
  deriving DecidableEq, Repr

/-- Whether text editing leaves the key alone. Shift only selects another character. -/
def Modifiers.reserveKey (m : Modifiers) : Bool :=
  m.alt || m.altGraph || m.logo || m.ctrl

/-- `key` is the name the host reports, such as `p`, `Escape` or `F1`. -/
structure KeyInput where
  key : String
  modifiers : Modifiers := {}
  deriving DecidableEq, Repr

/-- The names of keys that never make a keystroke of their own. -/
def modifierKeys : List String := ["Meta", "Control", "Alt", "AltGraph", "Shift", "OS"]

def KeyInput.isModifierKey (input : KeyInput) : Bool := modifierKeys.contains input.key

def KeyInput.isModified (input : KeyInput) : Bool := input.modifiers.reserveKey

end KeyPrecedence
