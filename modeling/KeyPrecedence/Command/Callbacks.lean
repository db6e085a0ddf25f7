import KeyPrecedence.Act
import KeyPrecedence.Command.Basic

/-!
Calling a command: its predicates, the command itself and the feedback.
-/

namespace KeyPrecedence

/-- What the callbacks of commands do on a host whose code is written in `m`: predicates decide,
commands run, and those with feedback of their own report. -/
structure Callbacks (m : Type → Type) (κ : Type) where
  decide : κ → Context → m Bool
  run : κ → Context → m Unit
  report : κ → Context → m Unit
  /-- The toast about the command of a given name and id that cannot run. -/
  toast : String → String → m Unit

/-- A command bound to the focus of one keystroke. -/
structure Bound (κ : Type) where
  command : Command κ
  context : Context
  deriving DecidableEq, Repr

namespace Bound

variable {σ κ : Type} (calls : Callbacks (Act σ) κ) (bound : Bound κ)

def ask (predicate : Option κ) : Act σ Bool :=
  match predicate with
  | none => pure true
  | some callback => calls.decide callback bound.context

def isValid : Act σ Bool := bound.ask calls bound.command.valid

def isEnabled : Act σ Bool := bound.ask calls bound.command.enabled

def execute : Act σ Unit := calls.run bound.command.execute bound.context

def giveFeedback : Act σ Unit :=
  match bound.command.feedback with
  | .toast => calls.toast bound.command.name bound.command.id
  | .silent => pure ()
  | .custom callback => calls.report callback bound.context

end Bound

/-- A bound command that remembers what its predicates said. A predicate that fails says nothing
and is asked again. -/
structure Considered (κ : Type) where
  bound : Bound κ
  valid : Option Bool := none
  enabled : Option Bool := none
  deriving DecidableEq, Repr

namespace Considered

variable {σ κ : Type} (calls : Callbacks (Act σ) κ) (slot : Slot σ (Considered κ))

def isValid : Act σ Bool := do
  let considered ← slot.read
  match considered.valid with
  | some answer => return answer
  | none =>
    let answer ← considered.bound.isValid calls
    slot.update fun c => { c with valid := some answer }
    return answer

def isEnabled : Act σ Bool := do
  let considered ← slot.read
  match considered.enabled with
  | some answer => return answer
  | none =>
    let answer ← considered.bound.isEnabled calls
    slot.update fun c => { c with enabled := some answer }
    return answer

end Considered
end KeyPrecedence
