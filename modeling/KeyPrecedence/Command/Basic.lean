import KeyPrecedence.Scope

/-!
Commands and the focus they are resolved against. Callbacks of the host are values of a type `κ`;
what calling one means is up to the host.
-/

namespace KeyPrecedence

/-- A widget of the host. Hosts may give several widgets one id, so they are told apart by a
stamp as well. -/
structure Widget where
  id : String
  stamp : Nat
  deriving DecidableEq, Repr

/-- A top-level window with its shortcut scope. Dialogs are owned by another window. -/
inductive Window
  | free (id scope : String)
  | owned (id scope : String) (owner : Window)
  deriving DecidableEq, Repr

namespace Window

def id : Window → String
  | free id _ => id
  | owned id _ _ => id

def scope : Window → String
  | free _ scope => scope
  | owned _ scope _ => scope

end Window

/-- The focus at the time a command was resolved. -/
structure Context where
  focusOwner : Option Widget
  activeWindow : Option Window
  deriving DecidableEq, Repr

/-- The steps of key processing a command can sit at, highest first. -/
inductive Tier
  | system
  | localListener
  | localBinding
  | toolDefault
  deriving DecidableEq, Repr

namespace Tier

def all : List Tier := [system, localListener, localBinding, toolDefault]

def name : Tier → String
  | system => "system"
  | localListener => "localListener"
  | localBinding => "localBinding"
  | toolDefault => "toolDefault"

end Tier

/-- The precedence a command declares; hosts may declare one that no tier goes by. -/
inductive Precedence
  | tier (tier : Tier)
  | unknown (name : String)
  deriving DecidableEq, Repr

namespace Precedence

def ofName (name : String) : Precedence :=
  match Tier.all.find? (·.name = name) with
  | some t => tier t
  | none => unknown name

def name : Precedence → String
  | tier t => t.name
  | unknown name => name

end Precedence

/-- How the user learns that a valid command cannot run right now. -/
inductive Feedback (κ : Type)
  | toast
  | silent
  | custom (callback : κ)
  deriving DecidableEq, Repr

/-- A command. Without a predicate of its own it is always valid, or always enabled. -/
structure Command (κ : Type) where
  id : String
  name : String
  scope : String
  precedence : Precedence
  shortcuts : List String
  description : Option String
  valid : Option κ
  enabled : Option κ
  execute : κ
  feedback : Feedback κ
  deriving DecidableEq, Repr

/-- What a host provides for a command; the rest has defaults. -/
structure Definition (κ : Type) where
  id : String
  name : String
  execute : κ
  scope : Option String := none
  precedence : Option Precedence := none
  shortcuts : Option (List String) := none
  description : Option String := none
  valid : Option κ := none
  enabled : Option κ := none
  feedback : Option (Feedback κ) := none
  deriving DecidableEq, Repr

instance {κ : Type} [Inhabited κ] : Inhabited (Definition κ) :=
  ⟨{ id := "", name := "", execute := default }⟩

/-- Fills in the defaults. -/
def Definition.command {κ : Type} (d : Definition κ) : Command κ where
  id := d.id
  name := d.name
  scope := d.scope.getD ScopeTable.appScope
  precedence := d.precedence.getD (.tier .toolDefault)
  shortcuts := d.shortcuts.getD []
  description := d.description
  valid := d.valid
  enabled := d.enabled
  execute := d.execute
  feedback := d.feedback.getD .toast

end KeyPrecedence
