import KeyPrecedence.Subscribers
import KeyPrecedence.Command.Registry
import KeyPrecedence.Logging.Notice

/-!
The registry on a running host: changes are logged, and subscribers hear of every command whose
shortcuts may have changed.
-/

namespace KeyPrecedence

/-- What the registry needs of its host; `ν` are the subscribers to changes. -/
structure RegistryHost (σ κ ν : Type) where
  registry : Slot σ (Registry κ)
  subscribers : Slot σ (Subscribers ν)
  call : ν → String → Act σ Unit
  log : Notice → Act σ Unit
  /-- How many calls one round of notification may take. -/
  allowance : Nat

namespace RegistryHost

variable {σ κ ν : Type} [DecidableEq ν] (host : RegistryHost σ κ ν)

/-- A subscriber that fails is logged and does not keep the others from being called. -/
def announce (id : String) : Act σ Unit :=
  Subscribers.callAll host.subscribers host.allowance fun member =>
    (host.call member id).guarded fun fault => host.log (.shortcutListenerFailed fault)

def announceAll : List String → Act σ Unit
  | [] => pure ()
  | id :: ids => do
    host.announce id
    announceAll ids

def register (definition : Definition κ) : Act σ (Command κ) := do
  let (command, registry) ← .ofExcept ((← host.registry.read).register definition)
  host.registry.write registry
  host.log (.registered command.id command.precedence.name command.scope)
  return command

def unregister (id : String) : Act σ Bool := do
  let (found, registry) := (← host.registry.read).unregister id
  host.registry.write registry
  return found

/-- Keeps a changed registry and tells the subscribers. -/
def adopt (id : String) (changed : Except Fault (Registry κ)) : Act σ Unit := do
  host.registry.write (← .ofExcept changed)
  host.announce id

def setShortcut (id : String) (index : Number) (shortcut : String) : Act σ Unit := do
  let registry ← host.registry.read
  if registry.contains id then
    host.log (.settingShortcut id index shortcut)
  host.adopt id (registry.setShortcut id index shortcut)

def addShortcut (id shortcut : String) : Act σ Unit := do
  host.adopt id ((← host.registry.read).addShortcut id shortcut)

def removeShortcut (id : String) (index : Number) : Act σ Unit := do
  host.adopt id ((← host.registry.read).removeShortcut id index)

/-- A command that has its defaults already is not announced. -/
def resetShortcut (id : String) : Act σ Unit := do
  match ← .ofExcept ((← host.registry.read).resetShortcut id) with
  | none => pure ()
  | some registry => do
    host.registry.write registry
    host.announce id

def resetAll : Act σ Unit := do
  let (ids, registry) := (← host.registry.read).resetAll
  host.registry.write registry
  host.announceAll ids

end RegistryHost

/-- The command a keystroke stands for in a window, by the registry as it is now. An ambiguous
choice is logged. -/
def ScopeTable.commandFor {σ κ : Type} (table : ScopeTable) (fallback : String)
    (registry : Slot σ (Registry κ)) (log : Notice → Act σ Unit) (keystroke : Keystroke)
    (window : Window) : Act σ (Option (Command κ)) := do
  let resolution := (← registry.read).resolve table fallback keystroke window
  if let some ambiguity := resolution.ambiguity then log (.ambiguous ambiguity)
  return resolution.command

end KeyPrecedence
