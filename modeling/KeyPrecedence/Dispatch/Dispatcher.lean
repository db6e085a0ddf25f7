import KeyPrecedence.Command.Callbacks
import KeyPrecedence.Dispatch.Armed
import KeyPrecedence.Dispatch.Widget

/-!
The place of commands in key processing. System commands come first; then the listeners and the
bindings of the focused widget; then the other commands; then whatever the host does by itself.
Key capture fields and text editors are exceptions: the first may record any key, the second need
theirs for editing.
-/

namespace KeyPrecedence

/-- A dispatcher on a host with state `σ`. -/
structure Dispatcher (σ κ : Type) where
  platform : Platform
  toolkit : Toolkit (Act σ)
  focus : Focus (Act σ)
  /-- The command bound to a keystroke in the active window. -/
  commandFor : Keystroke → Window → Act σ (Option (Command κ))
  /-- Whether the event drove an open menu; hosts without menus have none. -/
  menu : Option (KeyEvent → Act σ Bool)
  calls : Callbacks (Act σ) κ
  consumed : KeyEvent → Slot σ Bool
  armed : Slot σ (Option (Armed (Bound κ)))
  log : Notice → Act σ Unit
  /-- How many listeners may be called for one event. -/
  allowance : Nat

namespace Dispatcher

variable {σ κ : Type} (dispatcher : Dispatcher σ κ)

def holder : Holder σ (Bound κ) where
  armed := dispatcher.armed
  commandId bound := bound.command.id
  execute bound := bound.execute dispatcher.calls
  log := dispatcher.log

@[simp]
theorem holder_armed : dispatcher.holder.armed = dispatcher.armed := rfl

@[simp]
theorem holder_commandId (bound : Bound κ) : dispatcher.holder.commandId bound = bound.command.id :=
  rfl

@[simp]
theorem holder_log : dispatcher.holder.log = dispatcher.log := rfl

/-- The widget an event is headed for: its source, or what has the focus. -/
def destinationOf (event : KeyEvent) : Act σ (Option Widget) :=
  match event.source with
  | some source => pure (some source)
  | none => dispatcher.focus.owner

def drivesMenu (event : KeyEvent) : Act σ Bool :=
  match dispatcher.menu with
  | none => pure false
  | some processes => processes event

/-- Arms the command and consumes the event, also when another command keeps its place. -/
def award (bound : Bound κ) (event : KeyEvent) (destination : Option Widget) : Act σ Unit := do
  let _ ← dispatcher.holder.arm bound destination
  (dispatcher.consumed event).write true

/-- Whether the destination records a key assignment. -/
def isRecording (destination : Option Widget) : Act σ Bool :=
  match destination with
  | none => pure false
  | some widget => dispatcher.toolkit.isKeyCapture widget

def offerToListeners (widget : Widget) (event : KeyEvent) : Act σ Bool :=
  dispatcher.toolkit.offerToListeners dispatcher.consumed dispatcher.allowance widget event

/-- Whether somebody else takes the event before a command of one of the lower tiers; `some`
result is then that of the dispatch. -/
def takenBefore (event : KeyEvent) (destination focusOwner : Option Widget)
    (keystroke : Keystroke) : Act σ (Option Bool) := do
  if let some widget := destination then
    if ← dispatcher.toolkit.goesToText event widget keystroke then
      dispatcher.log (.leftToEditor keystroke.shortcut widget.id)
      return some false
  if let some widget := focusOwner then
    if ← dispatcher.offerToListeners widget event then
      dispatcher.log (.takenByListener keystroke.shortcut widget.id)
      return some true
    if ← dispatcher.toolkit.hasUsableBinding widget keystroke then
      dispatcher.log (.leftToBinding keystroke.shortcut widget.id)
      return some false
  return none

/-- A command that is not valid leaves the key to the host. One that is valid but cannot run keeps
it, so that the host does nothing unrelated with it. -/
def dispatchCommand (bound : Bound κ) (event : KeyEvent) (destination : Option Widget)
    (keystroke : Keystroke) : Act σ Bool := do
  if !(← bound.isValid dispatcher.calls) then return false
  if !(← bound.isEnabled dispatcher.calls) then
    dispatcher.log (.notEnabled bound.command.id)
    bound.giveFeedback dispatcher.calls
    return true
  match bound.command.precedence with
  | .tier tier =>
    dispatcher.award bound event destination
    dispatcher.log (.armedAt keystroke.shortcut bound.command.id tier)
    return true
  | .unknown name =>
    let fault := Fault.unknownPrecedence bound.command.id name
    dispatcher.log (.unhandled fault)
    .fail fault

/-- Dispatches an event for which a command was found. A system command is armed whether valid or
not, unless the keystroke is being recorded; then the host gets the key. -/
def dispatchFound (bound : Bound κ) (event : KeyEvent) (destination : Option Widget)
    (keystroke : Keystroke) : Act σ Bool := do
  let recording ← dispatcher.isRecording destination
  if bound.command.precedence = .tier .system then
    if recording then return false
    dispatcher.award bound event destination
    dispatcher.log (.armedSystem keystroke.shortcut bound.command.id)
    return true
  else
    match ← dispatcher.takenBefore event destination bound.context.focusOwner keystroke with
    | some handled => return handled
    | none => dispatcher.dispatchCommand bound event destination keystroke

/-- Dispatches an event that no armed command absorbs. -/
def dispatchFree (event : KeyEvent) (destination : Option Widget) : Act σ Bool := do
  if ← dispatcher.drivesMenu event then return true
  match ← dispatcher.focus.window with
  | none => return false
  | some window =>
    if event.input.isModifierKey then return false
    let keystroke := dispatcher.platform.keystroke event.input event.phase
    match ← dispatcher.commandFor keystroke window with
    | none => return false
    | some command =>
      let bound : Bound κ := ⟨command, ⟨← dispatcher.focus.owner, some window⟩⟩
      dispatcher.dispatchFound bound event destination keystroke

/-- Where the event is headed, or `none` when nobody may see it. -/
def arrival (event : KeyEvent) : Act σ (Option (Option Widget)) := do
  if ← dispatcher.toolkit.isBlocked dispatcher.log event then return none
  return some (← dispatcher.destinationOf event)

/-- Gives whether the event was fully handled, so that the host must not process it. -/
def dispatch (event : KeyEvent) : Act σ Bool := do
  match ← dispatcher.arrival event with
  | none => return true
  | some destination =>
    if ← dispatcher.holder.continues event destination then return true
    dispatcher.dispatchFree event destination

end Dispatcher
end KeyPrecedence
