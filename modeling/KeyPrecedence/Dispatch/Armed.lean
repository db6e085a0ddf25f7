import KeyPrecedence.Act
import KeyPrecedence.Dispatch.Host
import KeyPrecedence.Logging.Notice

/-!
The command that won a keystroke is armed on the press and runs on the release. Until then every
event is absorbed, other keys included. A release that goes elsewhere forfeits the command.
-/

namespace KeyPrecedence

/-- An armed command and the widget its event went to. -/
structure Armed (ρ : Type) where
  command : ρ
  target : Option Widget
  deriving DecidableEq, Repr

/-- What an armed command does with an event. -/
inductive Verdict
  | absorb
  | execute
  | forfeit
  deriving DecidableEq, Repr

/-- Only the release decides, and only the target it was armed for lets it run. -/
def Armed.verdict {ρ : Type} (armed : Armed ρ) (phase : Phase) (destination : Option Widget) :
    Verdict :=
  if phase ≠ .released then .absorb
  else if destination = armed.target then .execute
  else .forfeit

/-- The place of the one command that may be armed. -/
structure Holder (σ ρ : Type) where
  armed : Slot σ (Option (Armed ρ))
  commandId : ρ → String
  execute : ρ → Act σ Unit
  log : Notice → Act σ Unit

namespace Holder

variable {σ ρ : Type} (holder : Holder σ ρ)

/-- Whether the event is absorbed. The command is let go of before it runs, so one that fails is no
longer armed. -/
def continues (event : KeyEvent) (destination : Option Widget) : Act σ Bool := do
  match ← holder.armed.read with
  | none => return false
  | some armed =>
    let id := holder.commandId armed.command
    match armed.verdict event.phase destination with
    | .absorb => return true
    | .forfeit =>
      holder.armed.write none
      holder.log (.forfeited id event.phase event.input.key (destination.map (·.id)))
      return false
    | .execute =>
      holder.armed.write none
      holder.log (.executing id event.input.key)
      match ← (holder.execute armed.command).attempt with
      | .ok () => return true
      | .error fault =>
        holder.log (.executionFailed id fault)
        .fail fault

/-- Arms a command unless one is armed already. -/
def arm (command : ρ) (target : Option Widget) : Act σ Bool := do
  match ← holder.armed.read with
  | some armed =>
    holder.log (.stillArmed (holder.commandId command) (holder.commandId armed.command))
    return false
  | none =>
    holder.armed.write (some ⟨command, target⟩)
    holder.log (.armed (holder.commandId command))
    return true

/-- Drops the armed command without running it. -/
def reset : Act σ Unit := holder.armed.write none

end Holder
end KeyPrecedence
