import KeyPrecedence.Command.Callbacks
import KeyPrecedence.Command.Conflict
import KeyPrecedence.Dispatch.Armed
import KeyPrecedence.Dispatch.Installation
import KeyPrecedence.Logging.Logger
import KeyPrecedence.Script.Language
import KeyPrecedence.Setting.Basic
import KeyPrecedence.Subscribers

/-!
The state of a scripted host.
-/

namespace KeyPrecedence.Script

/-- A callback in use. Its cell counts the calls, so two callbacks that do the same are told
apart. -/
structure Cell (α : Type) where
  number : Nat
  body : α

/-- Which callback of a command this is. -/
inductive Role
  | execute
  | isValid
  | isEnabled
  | report
  deriving DecidableEq, Repr

/-- A callback of a command in use. -/
structure Callback where
  role : Role
  commandId : String
  routine : Cell (Routine Step)

/-- A command in short. -/
structure CommandSummary where
  id : String
  name : String
  scope : String
  precedence : String
  shortcuts : List String
  description : Option String
  reports : Bool

def CommandSummary.of {κ : Type} (command : Command κ) : CommandSummary where
  id := command.id
  name := command.name
  scope := command.scope
  precedence := command.precedence.name
  shortcuts := command.shortcuts
  description := command.description
  reports := match command.feedback with
    | .silent => false
    | _ => true

/-- An event that was left to the host. `source` is a handle. -/
structure LeftEvent where
  key : String
  phase : Phase
  source : Option String
  consumed : Bool

/-- What a step gives. -/
inductive Reply
  | nothing
  | bool (b : Bool)
  | text (s : String)
  | texts (items : List String)
  | value (v : Value)
  | dispatched (handled consumed : Bool)
  | failed (fault : Fault) (consumed : Bool)
  | command (summary : CommandSummary)
  | pipeline (attached : Nat) (left : List LeftEvent)
  | conflicts (conflicts : List Conflict)
  | holding (command target : Option String)

def Reply.ofText? : Option String → Reply
  | none => nothing
  | some s => text s

/-- A call that reached a callback, or the outcome of a nested step. Widgets are written as
handles. -/
inductive Mark
  | menu (key : String) (phase : Phase)
  | command (role : Role) (commandId : String) (focusOwner windowId : Option String)
  | listener (name key : String) (phase : Phase) (source : Option String) (consumed : Bool)
  | accept (shortcut : String) (widget : Option String)
  | bindingEnabled (shortcut : String)
  | shortcutChange (name commandId : String)
  | settingChange (name settingId : String) (value : Value)
  | toasts (name : String) (ids : List String)
  | step (label : String) (outcome : Except Fault Reply)
  | timerFailed (fault : Fault)

structure ListenerScript where
  name : String
  pressed : Option (Cell (Behaviour Step))
  typed : Option (Cell (Behaviour Step))
  released : Option (Cell (Behaviour Step))

def ListenerScript.handler (listener : ListenerScript) : Phase → Option (Cell (Behaviour Step))
  | .pressed => listener.pressed
  | .typed => listener.typed
  | .released => listener.released

structure BindingScript where
  shortcut : String
  accept : Option (Cell (Predicate Step))
  enabled : Option (Cell (Predicate Step))

/-- What the host knows of a widget id. `listeners` is the number of its list of listeners. -/
structure WidgetState where
  removed : Bool := false
  overlayBusy : Bool := false
  textEditor : Bool
  keyCapture : Bool
  editingAncestor : Bool
  enabled : Bool
  listeners : Nat
  bindings : Table Keystroke BindingScript := {}

structure FocusState where
  owner : Option Widget := none
  window : Option Window := none

structure MenuScript where
  keys : List String
  behaviour : Cell (Behaviour Step)

structure DispatcherState where
  platform : Platform
  lookup : Lookup
  menu : Option MenuScript
  focus : String
  armed : Option (Armed (Bound Callback)) := none

/-- A resolved command; the stamp tells it from others kept under the same name. -/
structure Kept where
  stamp : Nat
  considered : Considered Callback

/-- What a holder arms. -/
structure KeptRef where
  stamp : Nat
  bound : Bound Callback

/-- A subscriber to the settings: the one that keeps the logger in step, or one by name. -/
inductive SettingsMember
  | follower
  | named (name : String)
  deriving DecidableEq, Repr

structure World where
  /-- Numbers given out to cells, widgets, lists and events. -/
  issued : Nat := 0
  calls : Table Nat Nat := {}
  /-- What the current step has left behind so far, the latest first. -/
  marks : List Mark := []
  records : List Record := []
  logger : Logger := {}
  /-- Configurations of the logger that end with the step. -/
  pending : List Logger.Pending := []
  settings : Settings := {}
  settingsMembers : Subscribers SettingsMember := {}
  registry : Registry Callback := {}
  shortcutMembers : Subscribers String := {}
  board : ToastBoard := {}
  toastMembers : Subscribers String := {}
  /-- Ids given to toasts that came without one. -/
  toastIds : Nat := 0
  subscriptions : Table (Topic × String) (Cell (Behaviour Step)) := {}
  /-- The topic each name last subscribed to. -/
  topics : Table String Topic := {}
  scopes : ScopeTable := .default
  handles : Table String Widget := {}
  widgets : Table String WidgetState := {}
  listeners : Table Nat (List ListenerScript) := {}
  flags : Table String Bool := {}
  focuses : Table String FocusState := {}
  dispatchers : Table Nat DispatcherState := {}
  installation : Installation Nat := {}
  events : Table String KeyEvent := {}
  consumed : List Nat := []
  kept : Table String Kept := {}
  holders : Table String (Armed KeptRef) := {}

namespace World

def handleOf (world : World) (widget : Widget) : Option String :=
  (world.handles.entries.find? (·.2 = widget)).map (·.1)

def handleOf? (world : World) (widget : Option Widget) : Option String :=
  widget.bind world.handleOf

def isConsumed (world : World) (event : KeyEvent) : Bool := world.consumed.contains event.serial

def consumedSlot (event : KeyEvent) : Slot World Bool where
  get world := world.isConsumed event
  set consumed world :=
    let others := world.consumed.filter (· ≠ event.serial)
    { world with consumed := if consumed then event.serial :: others else others }

/-- The armed command of a dispatcher. -/
def armedSlot (number : Nat) : Slot World (Option (Armed (Bound Callback))) where
  get world := (world.dispatchers.find? number).bind (·.armed)
  set armed world :=
    match world.dispatchers.find? number with
    | none => world
    | some state =>
      { world with dispatchers := world.dispatchers.insert number { state with armed } }

def pipelineSlot (name : String) : Slot World (Pipeline Nat) where
  get world := world.installation.pipeline name
  set pipeline world :=
    { world with installation := world.installation.withPipeline name pipeline }

def installationSlot : Slot World (Installation Nat) where
  get := installation
  set value world := { world with installation := value }

def registrySlot : Slot World (Registry Callback) where
  get := registry
  set value world := { world with registry := value }

def shortcutMembersSlot : Slot World (Subscribers String) where
  get := shortcutMembers
  set value world := { world with shortcutMembers := value }

def settingsSlot : Slot World Settings where
  get := settings
  set value world := { world with settings := value }

def settingsMembersSlot : Slot World (Subscribers SettingsMember) where
  get := settingsMembers
  set value world := { world with settingsMembers := value }

def boardSlot : Slot World ToastBoard where
  get := board
  set value world := { world with board := value }

def toastMembersSlot : Slot World (Subscribers String) where
  get := toastMembers
  set value world := { world with toastMembers := value }

/-- The command a holder has armed. -/
def holderSlot (name : String) : Slot World (Option (Armed KeptRef)) where
  get world := world.holders.find? name
  set armed world :=
    match armed with
    | none => { world with holders := world.holders.erase name }
    | some a => { world with holders := world.holders.insert name a }

end World

/-- A number no one else has. -/
def freshNumber : Act World Nat := do
  let number := (← get).issued
  modify fun world => { world with issued := number + 1 }
  return number

def newCell {α : Type} (body : α) : Act World (Cell α) := do
  return ⟨← freshNumber, body⟩

def newCell? {α : Type} : Option α → Act World (Option (Cell α))
  | none => pure none
  | some body => do return some (← newCell body)

def mark (m : Mark) : Act World Unit :=
  modify fun world => { world with marks := m :: world.marks }

/-- Records appear when the threshold in force lets them through. -/
def say (notice : Notice) : Act World Unit :=
  modify fun world =>
    if world.logger.admits notice.level then
      { world with records := notice.record :: world.records }
    else world

/-- The widget of a handle. A handle no widget was added under stands for a widget the host does
not know, always the same one. -/
def widgetOf (handle : String) : Act World Widget := do
  match (← get).handles.find? handle with
  | some widget => return widget
  | none =>
    let widget : Widget := ⟨handle, ← freshNumber⟩
    modify fun world => { world with handles := world.handles.insert handle widget }
    return widget

def widgetOf? : Option String → Act World (Option Widget)
  | none => pure none
  | some handle => do return some (← widgetOf handle)

/-- What the host knows of a widget; about others it cannot be asked. -/
def stateOf (widget : Widget) : Act World WidgetState := do
  match (← get).widgets.find? widget.id with
  | some state => return state
  | none => .fail (.unknownWidget widget.id)

def setState (widget : Widget) (change : WidgetState → WidgetState) : Act World Unit := do
  let state ← stateOf widget
  modify fun world => { world with widgets := world.widgets.insert widget.id (change state) }

/-- The event of a specification: a kept one as it is, or a new one. -/
def eventOf (spec : EventSpec) : Act World KeyEvent := do
  match spec.keptAs.bind (← get).events.find? with
  | some event => return event
  | none =>
    let event : KeyEvent := ⟨spec.input, spec.phase, ← widgetOf? spec.source, ← freshNumber⟩
    if spec.consumed then (World.consumedSlot event).write true
    if let some name := spec.keptAs then
      modify fun world => { world with events := world.events.insert name event }
    return event

end KeyPrecedence.Script
