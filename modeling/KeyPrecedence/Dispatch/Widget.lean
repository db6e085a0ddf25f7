import KeyPrecedence.Act
import KeyPrecedence.Dispatch.Host
import KeyPrecedence.Logging.Notice

/-!
Who takes a key event before any command does: nobody may see it, a text editor needs it, or the
focused widget has a listener or a binding for it.
-/

namespace KeyPrecedence

variable {σ : Type}

namespace Toolkit

variable (toolkit : Toolkit (Act σ))

/-- Whether no one may see the event, the host included. A source that was removed while an earlier
event of the same key was handled has no root container. -/
def isBlocked (log : Notice → Act σ Unit) (event : KeyEvent) : Act σ Bool := do
  match event.source with
  | none => return false
  | some source =>
    match ← toolkit.rootOf source with
    | none =>
      log (.sourceGone event.phase event.input.key source.id)
      return true
    | some isBusy =>
      if ← isBusy then
        log (.overlayBusy event.phase event.input.key)
        return true
      else return false

/-- Whether the widget has a binding for the keystroke, usable or not. -/
def hasBinding (widget : Widget) (keystroke : Keystroke) : Act σ Bool := do
  return (← toolkit.bindingOf widget keystroke).isSome

/-- Whether the widget has a binding that would run right now. -/
def hasUsableBinding (widget : Widget) (keystroke : Keystroke) : Act σ Bool := do
  if ← toolkit.isEnabled widget then
    match ← toolkit.bindingOf widget keystroke with
    | none => return false
    | some binding =>
      if ← binding.accept widget then binding.isEnabled else return false
  else return false

/-- Whether a text editor needs the event. Escape goes to an editor inside a cell being edited and
is otherwise left for closing windows. Read-only editors count: they need copy and navigation. -/
def goesToText (event : KeyEvent) (destination : Widget) (keystroke : Keystroke) : Act σ Bool := do
  if ← toolkit.isTextEditor destination then
    if event.input.key = "Escape" then toolkit.ancestorIsEditing destination
    else if event.input.isModified then toolkit.hasBinding destination keystroke
    else return true
  else return false

/-- Calls the listeners from a position on. -/
def callListeners (listenerAt : Nat → Act σ (Option (KeyListener (Act σ)))) (event : KeyEvent) :
    Nat → Nat → Act σ Unit
  | 0, _ => .exhausted
  | allowance + 1, position => do
    match ← listenerAt position with
    | none => pure ()
    | some listener =>
      match listener.handler event.phase with
      | none => pure ()
      | some handle => handle event
      callListeners listenerAt event allowance (position + 1)

/-- Runs the widget's listeners, all of them even when one consumes the event, and gives whether
the event is consumed. -/
def offerToListeners (consumed : KeyEvent → Slot σ Bool) (allowance : Nat) (widget : Widget)
    (event : KeyEvent) : Act σ Bool := do
  let listenerAt ← toolkit.listenersOf widget
  callListeners listenerAt event allowance 0
  (consumed event).read

end Toolkit
end KeyPrecedence
