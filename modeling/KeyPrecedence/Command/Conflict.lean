import KeyPrecedence.Command.Registry
import KeyPrecedence.Scope

/-!
Commands that share a shortcut in overlapping scopes.
-/

namespace KeyPrecedence

/-- A shortcut and the commands that contest it. -/
structure Conflict where
  shortcut : String
  commandIds : List String
  deriving DecidableEq, Repr

namespace Registry

variable {κ : Type}

/-- The commands that would get in the way of a shortcut in a scope. The empty shortcut is a
placeholder and is in nobody's way. -/
def conflictsFor (registry : Registry κ) (table : ScopeTable) (shortcut scope : String)
    (exclude : Option String) : List (Command κ) :=
  if shortcut = "" then []
  else registry.commands.filter fun command =>
    some command.id ≠ exclude && (registry.effective command.id).contains shortcut &&
      table.overlap command.scope scope

def hasConflicts (registry : Registry κ) (table : ScopeTable) (id : String) : Bool :=
  match registry.get? id with
  | none => false
  | some command => (registry.effective id).any fun shortcut =>
      !(registry.conflictsFor table shortcut command.scope (some id)).isEmpty

/-- The commands contesting a shortcut, as seen from one that has it: those it overlaps with, less
any that overlaps with none of the others. -/
def contestants (registry : Registry κ) (table : ScopeTable) (command : Command κ)
    (shortcut : String) : List (Command κ) :=
  match registry.conflictsFor table shortcut command.scope (some command.id) with
  | [] => []
  | others =>
    let sharing := command :: others
    sharing.filter fun c =>
      sharing.any fun other => other.id ≠ c.id && table.overlap c.scope other.scope

/-- The shortcuts seen to be contested, and the conflicts reported for them. -/
structure Survey where
  seen : List String := []
  conflicts : List Conflict := []

/-- Looks at one shortcut of a command. A shortcut is reported as its first contested owner sees
it. -/
def Survey.visit (registry : Registry κ) (table : ScopeTable) (command : Command κ)
    (survey : Survey) (shortcut : String) : Survey :=
  if survey.seen.contains shortcut then survey
  else if (registry.conflictsFor table shortcut command.scope (some command.id)).isEmpty then survey
  else
    let ids := (registry.contestants table command shortcut).map (·.id)
    let found : List Conflict := if 1 < ids.length then [⟨shortcut, ids⟩] else []
    { seen := survey.seen ++ [shortcut], conflicts := survey.conflicts ++ found }

def Survey.visitCommand (registry : Registry κ) (table : ScopeTable) (survey : Survey)
    (command : Command κ) : Survey :=
  let shortcuts := (registry.effective command.id).filter (· ≠ "")
  shortcuts.foldl (Survey.visit registry table command) survey

/-- All conflicts, in the order their first contested owners were registered. -/
def conflicts (registry : Registry κ) (table : ScopeTable) : List Conflict :=
  (registry.commands.foldl (Survey.visitCommand registry table) {}).conflicts

/-- The commands with a conflict, each once, in the order of the report. -/
def conflictIds (registry : Registry κ) (table : ScopeTable) : List String :=
  ((registry.conflicts table).flatMap (·.commandIds)).foldl
    (fun ids id => if ids.contains id then ids else ids ++ [id]) []

end Registry
end KeyPrecedence
