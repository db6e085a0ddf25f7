import KeyPrecedence.Fault
import KeyPrecedence.Table
import KeyPrecedence.Command.Basic

/-!
The commands of a host in the order of registration, and the shortcuts given to them since. A
command has an override only while its shortcuts differ from its defaults.
-/

namespace KeyPrecedence

structure Registry (κ : Type) where
  commands : List (Command κ) := []
  overrides : Table String (List String) := {}

namespace Registry

variable {κ : Type}

instance : Inhabited (Registry κ) := ⟨{}⟩

def get? (registry : Registry κ) (id : String) : Option (Command κ) :=
  registry.commands.find? (·.id = id)

def contains (registry : Registry κ) (id : String) : Bool := (registry.get? id).isSome

/-- Ids without a command have no shortcuts. -/
def defaults (registry : Registry κ) (id : String) : List String :=
  match registry.get? id with
  | some command => command.shortcuts
  | none => []

def effective (registry : Registry κ) (id : String) : List String :=
  (registry.overrides.find? id).getD (registry.defaults id)

def isModified (registry : Registry κ) (id : String) : Bool := registry.overrides.contains id

def register (registry : Registry κ) (definition : Definition κ) :
    Except Fault (Command κ × Registry κ) :=
  if registry.contains definition.id then
    .error (.registry definition.id .alreadyRegistered)
  else
    let command := definition.command
    .ok (command, { registry with commands := registry.commands ++ [command] })

/-- Forgets the command and its override. -/
def unregister (registry : Registry κ) (id : String) : Bool × Registry κ :=
  (registry.contains id,
    { commands := registry.commands.filter (·.id ≠ id), overrides := registry.overrides.erase id })

/-- Gives a command a list of shortcuts; its defaults need no override. -/
def rebind (registry : Registry κ) (id : String) (shortcuts : List String) : Registry κ :=
  if shortcuts = registry.defaults id then
    { registry with overrides := registry.overrides.erase id }
  else { registry with overrides := registry.overrides.insert id shortcuts }

/-- Writes at a position, or behind the last one. A position between two whole numbers is in range
when it lies below the length, but there is nothing there to write to. -/
def setAt (current : List String) (index : Number) (shortcut : String) : Option (List String) :=
  if (Number.ofNat 0).le index && index.lt (.ofNat current.length) then
    match index.toNat? with
    | some position => some (current.set position shortcut)
    | none => some current
  else if index = .ofNat current.length then some (current ++ [shortcut])
  else none

/-- Removes at a position; the fraction of a position does not count, and only what compares as
outside is refused. -/
def removeAt (current : List String) (index : Number) : Option (List String) :=
  if index.lt (.ofNat 0) || (Number.ofNat current.length).le index then none
  else some (current.eraseIdx index.truncate.toNat)

/-- Changes the shortcuts of a registered command. -/
def revise (registry : Registry κ) (id : String)
    (change : List String → Except RegistryRefusal (List String)) : Except Fault (Registry κ) :=
  if registry.contains id then
    match change (registry.effective id) with
    | .ok shortcuts => .ok (registry.rebind id shortcuts)
    | .error refusal => .error (.registry id refusal)
  else .error (.registry id .notRegistered)

def setShortcut (registry : Registry κ) (id : String) (index : Number) (shortcut : String) :
    Except Fault (Registry κ) :=
  registry.revise id fun current =>
    match setAt current index shortcut with
    | some shortcuts => .ok shortcuts
    | none => .error (.indexOutOfRange index)

def addShortcut (registry : Registry κ) (id shortcut : String) : Except Fault (Registry κ) :=
  registry.revise id fun current => .ok (current ++ [shortcut])

def removeShortcut (registry : Registry κ) (id : String) (index : Number) :
    Except Fault (Registry κ) :=
  registry.revise id fun current =>
    match removeAt current index with
    | some shortcuts => .ok shortcuts
    | none => .error (.indexOutOfRange index)

/-- Back to the defaults. Gives nothing when the command has them already. -/
def resetShortcut (registry : Registry κ) (id : String) : Except Fault (Option (Registry κ)) :=
  if registry.contains id then
    .ok (if registry.isModified id then
      some { registry with overrides := registry.overrides.erase id } else none)
  else .error (.registry id .notRegistered)

/-- Drops all overrides and gives the ids that had one, in the order they got it. -/
def resetAll (registry : Registry κ) : List String × Registry κ :=
  (registry.overrides.keys, { registry with overrides := {} })

/-- The commands that have a shortcut, whatever their scope. -/
def withShortcut (registry : Registry κ) (shortcut : String) : List (Command κ) :=
  registry.commands.filter fun command => (registry.effective command.id).contains shortcut

end Registry
end KeyPrecedence
