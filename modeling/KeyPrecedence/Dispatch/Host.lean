import KeyPrecedence.Command.Basic
import KeyPrecedence.Key.Shortcut

/-!
What key dispatch asks of the host. The host's widgets are never looked into: every capability is
a question, and asking may change the host's state like any other step. Questions are put in the
monad `m` in which the host's code is written.
-/

namespace KeyPrecedence

/-- A key event. `source` is the widget it was delivered to, if any; `serial` tells events apart
that say the same. Whether the event is consumed is part of the host's state. -/
structure KeyEvent where
  input : KeyInput
  phase : Phase
  source : Option Widget
  serial : Nat
  deriving DecidableEq, Repr

/-- A listener on a widget, with what it does in each phase it listens to. -/
structure KeyListener (m : Type → Type) where
  handler : Phase → Option (KeyEvent → m Unit)

/-- A binding on a widget. Accepting a widget may be stricter than being enabled. -/
structure Binding (m : Type → Type) where
  accept : Widget → m Bool
  isEnabled : m Bool

/-- The questions put to the host's toolkit. -/
structure Toolkit (m : Type → Type) where
  /-- The layer of a widget's window, given as the question whether a busy overlay covers it. A
  widget that was removed has none. -/
  rootOf : Widget → m (Option (m Bool))
  /-- Whether the widget records a new key assignment. -/
  isKeyCapture : Widget → m Bool
  isTextEditor : Widget → m Bool
  /-- Whether a table or tree around the widget is editing a cell. -/
  ancestorIsEditing : Widget → m Bool
  isEnabled : Widget → m Bool
  /-- The listeners of a widget by position. The list is read as it stands each time. -/
  listenersOf : Widget → m (Nat → m (Option (KeyListener m)))
  bindingOf : Widget → Keystroke → m (Option (Binding m))

/-- What has the focus right now. -/
structure Focus (m : Type → Type) where
  owner : m (Option Widget)
  window : m (Option Window)

end KeyPrecedence
