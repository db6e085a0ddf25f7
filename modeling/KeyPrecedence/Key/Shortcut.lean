import KeyPrecedence.Key.Input
import KeyPrecedence.Key.Name

/-!
Shortcut texts, such as `Ctrl+Shift+P` or `⌘⇧P`. Commands and bindings are found by them.
-/

namespace KeyPrecedence

/-- The marks of the modifiers held, in the order a platform shows them. AltGraph has no mark on a
Mac. -/
def Platform.marks : Platform → Modifiers → List String
  | .mac, m =>
    [(m.logo, "⌘"), (m.ctrl, "⌃"), (m.alt, "⌥"), (m.shift, "⇧")].filterMap
      fun (held, mark) => if held then some mark else none
  | .other, m =>
    [(m.ctrl, "Ctrl"), (m.alt, "Alt"), (m.altGraph, "AltGr"), (m.shift, "Shift"),
      (m.logo, "Win")].filterMap fun (held, mark) => if held then some mark else none

/-- A Mac writes the parts next to each other, the others put a plus sign between. -/
def Platform.join : Platform → List String → String
  | .mac, parts => String.join parts
  | .other, parts => "+".intercalate parts

/-- Modifier keys appear as marks only. -/
def Platform.shortcut (platform : Platform) (input : KeyInput) : String :=
  let marks := platform.marks input.modifiers
  platform.join (if input.isModifierKey then marks else marks ++ [platform.keyName input.key])

/-- What bindings are looked up by. -/
structure Keystroke where
  shortcut : String
  phase : Phase
  deriving DecidableEq, Repr

def Platform.keystroke (platform : Platform) (input : KeyInput) (phase : Phase) : Keystroke :=
  ⟨platform.shortcut input, phase⟩

end KeyPrecedence
