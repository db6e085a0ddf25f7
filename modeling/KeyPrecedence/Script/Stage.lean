import KeyPrecedence.Command.Host
import KeyPrecedence.Dispatch.Dispatcher
import KeyPrecedence.Script.World
import KeyPrecedence.Setting.Host
import KeyPrecedence.Setting.Verbosity
import KeyPrecedence.Toast.NotEnabled

/-!
The scripted host put together: its callbacks, its toolkit, and what the registry, the settings,
the toasts and the dispatchers need of it.
-/

namespace KeyPrecedence.Script

/-- How callbacks take their steps, and how long rounds and lists may be. -/
structure Stage where
  nested : Step → Act World Reply
  allowance : Nat

/-- Counts a call and gives how many there were before. -/
def countCall (number : Nat) : Act World Nat := do
  let calls := ((← get).calls.find? number).getD 0
  modify fun world => { world with calls := world.calls.insert number (calls + 1) }
  return calls

namespace Stage

variable (stage : Stage)

/-- A nested step that fails is noted and does not keep the next one from being taken. -/
def takeSteps : List (Labelled Step) → Act World Unit
  | [] => pure ()
  | labelled :: rest => do
    mark (.step labelled.label (← (stage.nested labelled.step).attempt))
    takeSteps rest

/-- Does what a callback does; `event` is what it was given to handle, if anything. -/
def play (cell : Cell (Behaviour Step)) (event : Option KeyEvent) : Act World Unit := do
  let behaviour := cell.body
  let calls ← countCall cell.number
  if behaviour.limit.any (· ≤ calls) then return
  stage.takeSteps behaviour.steps
  if behaviour.consume then
    if let some event := event then (World.consumedSlot event).write true
  if let some text := behaviour.failure then .fail (.raised text)

/-- The answer of a predicate in a context. -/
def judge (cell : Cell (Predicate Step)) (context : Context) : Act World Bool := do
  stage.takeSteps cell.body.steps
  match cell.body.answer with
  | .constant b => return b
  | .flag name => return ((← get).flags.find? name).getD false
  | .focused handle => return context.focusOwner = (← widgetOf? handle)
  | .active windowId => return context.activeWindow.map (·.id) = windowId
  | .sequence answers =>
    let calls ← countCall cell.number
    return (answers[min calls (answers.length - 1)]?).getD false
  | .failure text => .fail (.raised text)

def markCommand (callback : Callback) (context : Context) : Act World Unit := do
  let world ← get
  mark (.command callback.role callback.commandId (world.handleOf? context.focusOwner)
    (context.activeWindow.map (·.id)))

/-- What the commands of a script do. A behaviour answers no question, and a predicate does nothing
else. -/
def decide (callback : Callback) (context : Context) : Act World Bool := do
  markCommand callback context
  match callback.routine.body with
  | .tells predicate => stage.judge ⟨callback.routine.number, predicate⟩ context
  | .does _ => return true

def runRoutine (callback : Callback) (context : Context) : Act World Unit := do
  markCommand callback context
  match callback.routine.body with
  | .does behaviour => stage.play ⟨callback.routine.number, behaviour⟩ none
  | .tells _ => pure ()

/-- Calls the subscriber of a name. -/
def playSubscriber (topic : Topic) (name : String) : Act World Unit := do
  match (← get).subscriptions.find? (topic, name) with
  | none => pure ()
  | some cell => stage.play cell none

def registryHost : RegistryHost World Callback String where
  registry := World.registrySlot
  subscribers := World.shortcutMembersSlot
  call name commandId := do
    mark (.shortcutChange name commandId)
    stage.playSubscriber .shortcuts name
  log := say
  allowance := stage.allowance

/-- Ids for toasts that came without one count up. -/
def freshToastId : Act World String := do
  let count := (← get).toastIds + 1
  modify fun world => { world with toastIds := count }
  return s!"auto-{count}"

def toastHost : ToastHost World String where
  board := World.boardSlot
  subscribers := World.toastMembersSlot
  call name toasts := do
    mark (.toasts name (toasts.map (·.id)))
    stage.playSubscriber .toasts name
  freshId := freshToastId
  timerFailed fault := mark (.timerFailed fault)
  allowance := stage.allowance

def leavePending (pending : Logger.Pending) : Act World Unit :=
  modify fun world => { world with pending := world.pending ++ [pending] }

/-- Switches the logger and gives what is left to be done. -/
def switchLogger (on : Bool) : Act World Logger.Pending := do
  let (logger, pending) := (← get).logger.switch on
  modify fun world => { world with logger }
  return pending

/-- Lets the caller know at once when configuring fails. -/
def awaitPending (pending : Logger.Pending) : Act World Unit :=
  match pending with
  | .failure text => .fail (.raised text)
  | pending => leavePending pending

/-- Whether configuring fails shows only after the step; nobody waits for it. -/
def verbosity : Verbosity World SettingsMember where
  settings := World.settingsSlot
  subscribers := World.settingsMembersSlot
  follower := .follower
  switch on := do leavePending (← switchLogger on)
  log := say

def settingsHost : SettingsHost World SettingsMember where
  settings := World.settingsSlot
  subscribers := World.settingsMembersSlot
  call member key value :=
    match member with
    | .follower => verbosity.heed key value
    | .named name => do
      mark (.settingChange name key.name value)
      stage.playSubscriber .settings name
  log := say
  allowance := stage.allowance

def calls : Callbacks (Act World) Callback where
  decide := stage.decide
  run := stage.runRoutine
  report := stage.runRoutine
  toast := showNotEnabled World.settingsSlot stage.toastHost

def listener (script : ListenerScript) : KeyListener (Act World) where
  handler phase := (script.handler phase).map fun cell event => do
    let world ← get
    mark (.listener script.name event.input.key event.phase (world.handleOf? event.source)
      (world.isConsumed event))
    stage.play cell (some event)

def binding (script : BindingScript) : Binding (Act World) where
  accept widget := do
    match script.accept with
    | none => return true
    | some cell =>
      mark (.accept script.shortcut ((← get).handleOf widget))
      stage.judge cell ⟨some widget, none⟩
  isEnabled := do
    match script.enabled with
    | none => return true
    | some cell =>
      mark (.bindingEnabled script.shortcut)
      stage.judge cell ⟨none, none⟩

def toolkit : Toolkit (Act World) where
  rootOf widget := do
    match (← get).widgets.find? widget.id with
    | none => return none
    | some state => return if state.removed then none else some (pure state.overlayBusy)
  isKeyCapture widget := do return (← stateOf widget).keyCapture
  isTextEditor widget := do return (← stateOf widget).textEditor
  ancestorIsEditing widget := do return (← stateOf widget).editingAncestor
  isEnabled widget := do return (← stateOf widget).enabled
  listenersOf widget := do
    let list := (← stateOf widget).listeners
    return fun position => do
      let scripts := ((← get).listeners.find? list).getD []
      return scripts[position]?.map stage.listener
  bindingOf widget keystroke := do
    return ((← stateOf widget).bindings.find? keystroke).map stage.binding

/-- What a dispatcher's focus source reports. The source may be swapped at any time. -/
def focusOf (number : Nat) : Act World FocusState := do
  let world ← get
  let name := (world.dispatchers.find? number).map (·.focus)
  return (name.bind world.focuses.find?).getD {}

def commandFor (lookup : Lookup) (keystroke : Keystroke) (window : Window) :
    Act World (Option (Command Callback)) := do
  match lookup with
  | .table rows =>
    let registry := (← get).registry
    return (rows.find? (·.keystroke = keystroke)).bind fun row => registry.get? row.commandId
  | .scopes table fallback => table.commandFor fallback World.registrySlot say keystroke window

def dispatcher (number : Nat) (state : DispatcherState) : Dispatcher World Callback where
  platform := state.platform
  toolkit := stage.toolkit
  focus :=
    { owner := do return (← focusOf number).owner
      window := do return (← focusOf number).window }
  commandFor := commandFor state.lookup
  menu := state.menu.map fun menu event => do
    mark (.menu event.input.key event.phase)
    stage.play menu.behaviour (some event)
    return menu.keys.contains event.input.key
  calls := stage.calls
  consumed := World.consumedSlot
  armed := World.armedSlot number
  log := say
  allowance := stage.allowance

/-- Dispatches an event by a dispatcher's number. -/
def dispatch (event : KeyEvent) (number : Nat) : Act World Bool := do
  match (← get).dispatchers.find? number with
  | none => return false
  | some state => (stage.dispatcher number state).dispatch event

/-- A holder of its own, apart from any dispatcher. -/
def holder (name : String) : Holder World KeptRef where
  armed := World.holderSlot name
  commandId ref := ref.bound.command.id
  execute ref := ref.bound.execute stage.calls
  log := say

end Stage
end KeyPrecedence.Script
