import KeyPrecedence.Command.Registry
import KeyPrecedence.Key.Shortcut
import KeyPrecedence.Scope

/-!
Which command a keystroke stands for in a window.
-/

namespace KeyPrecedence

/-- The scope a window goes by: its own, or that of the nearest owner whose scope is known. -/
def Window.scopeIn (table : ScopeTable) (fallback : String) : Window → String
  | .free _ scope => if table.knows scope then scope else fallback
  | .owned _ scope owner => if table.knows scope then scope else owner.scopeIn table fallback

/-- Several commands of one scope have the shortcut. -/
structure Ambiguity where
  shortcut : String
  commandIds : List String
  scope : String
  deriving DecidableEq, Repr

/-- The command found, and the ambiguity there was in choosing it. -/
structure Resolution (κ : Type) where
  command : Option (Command κ)
  ambiguity : Option Ambiguity := none
  deriving DecidableEq, Repr

namespace Registry

variable {κ : Type}

/-- The commands of a scope that have a shortcut, in the order of registration. -/
def candidates (registry : Registry κ) (scope shortcut : String) : List (Command κ) :=
  registry.commands.filter fun command =>
    command.scope = scope && (registry.effective command.id).contains shortcut

/-- The first scope with a candidate decides, and in it the first candidate. -/
def resolveIn (registry : Registry κ) (shortcut : String) : List String → Resolution κ
  | [] => ⟨none, none⟩
  | scope :: scopes =>
    match registry.candidates scope shortcut with
    | [] => registry.resolveIn shortcut scopes
    | [command] => ⟨some command, none⟩
    | command :: others =>
      ⟨some command, some ⟨shortcut, (command :: others).map (·.id), scope⟩⟩

/-- Commands are bound on the press of a key only. -/
def resolve (registry : Registry κ) (table : ScopeTable) (fallback : String)
    (keystroke : Keystroke) (window : Window) : Resolution κ :=
  if keystroke.phase = .pressed ∧ keystroke.shortcut ≠ "" then
    registry.resolveIn keystroke.shortcut (table.active (window.scopeIn table fallback))
  else ⟨none, none⟩

end Registry
end KeyPrecedence
