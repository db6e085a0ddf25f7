import KeyPrecedence.Command.Conflict
import KeyPrecedence.Proofs.Command.Edit
import KeyPrecedence.Proofs.Dispatch.Annotated
import KeyPrecedence.Proofs.Dispatch.Scene
import KeyPrecedence.Proofs.Routine
import KeyPrecedence.Toast.NotEnabled
import KeyPrecedence.Toast.Operation

/-!
# A host with all its parts

* `Desktop`: a registry of commands, the toasts and any number of dispatchers, on a host with a
  state of its own; with a journal of all that can be noticed, and the records that were logged;
* `DesktopOp`: what code of the host may do with them, also within a callback;
* `DesktopSurroundings`: all that is called on such a host;
* `DesktopSurroundings.perform`: an operation, with the callbacks' own operations in it.
-/

namespace KeyPrecedence

open Act

variable {σ τ κ ν δ α : Type}

/-- What may be done on a host with dispatchers `δ`, and with subscribers `ν` to changes of
shortcuts and to toasts. -/
inductive DesktopOp (κ ν δ : Type)
  | dispatch (dispatcher : δ) (event : KeyEvent)
  | reset (dispatcher : δ)
  | armed (dispatcher : δ)
  | register (definition : Definition κ)
  | unregister (id : String)
  | edit (edit : ShortcutEdit Number)
  | ask (query : RegistryQuery)
  | resolve (table : ScopeTable) (fallback : String) (keystroke : Keystroke) (window : Window)
  | conflictsFor (table : ScopeTable) (shortcut scope : String) (exclude : Option String)
  | hasConflicts (table : ScopeTable) (id : String)
  | conflicts (table : ScopeTable)
  | subscribe (member : ν)
  | unsubscribe (member : ν)
  | toast (operation : ToastOp ν)

inductive DesktopAnswer (κ : Type)
  | nothing
  | truth (holds : Bool)
  | armed (armed : Option (Armed (Bound κ)))
  | registry (answer : RegistryAnswer κ)
  | found (command : Option (Command κ))
  | conflicts (conflicts : List Conflict)
  | toast (answer : ToastAnswer)

/-- Any code on a host with state `τ`. -/
abbrev DesktopCode (τ κ ν δ α : Type) := Routine τ (DesktopOp κ ν δ) (DesktopAnswer κ) α

/-- What can be noticed. Of an armed command there is its id and its target. -/
inductive Happening (κ ν δ : Type)
  | called (dispatcher : δ) (call : Call κ)
  | told (member : ν) (commandId : String)
  | shown (member : ν) (toasts : List Toast)
  | timerFailed (fault : Fault)
  /-- A dispatch has come to its end, and the event is consumed or not. -/
  | dispatched (dispatcher : δ) (event : KeyEvent) (result : Except Fault Bool) (consumed : Bool)
  /-- What is armed and what is shown after an operation. -/
  | after (armed : δ → Option (String × Option Widget)) (toasts : List Toast)

/-- A host with all its parts. The journal and the records only grow, and nobody reads them. -/
structure Desktop (τ κ ν δ : Type) where
  host : τ
  registry : Registry κ := {}
  members : Subscribers ν := {}
  board : ToastBoard := {}
  listeners : Subscribers ν := {}
  armed : δ → Option (Armed (Bound κ)) := fun _ => none
  journal : List (Happening κ ν δ) := []
  records : List Notice := []

namespace Desktop

def hostSlot : Slot (Desktop τ κ ν δ) τ where
  get := host
  set host desktop := { desktop with host }

/-- A part of the host's own state. -/
def part (slot : Slot τ α) : Slot (Desktop τ κ ν δ) α where
  get desktop := slot.get desktop.host
  set value desktop := { desktop with host := slot.set value desktop.host }

def registrySlot : Slot (Desktop τ κ ν δ) (Registry κ) where
  get := registry
  set registry desktop := { desktop with registry }

def membersSlot : Slot (Desktop τ κ ν δ) (Subscribers ν) where
  get := members
  set members desktop := { desktop with members }

def boardSlot : Slot (Desktop τ κ ν δ) ToastBoard where
  get := board
  set board desktop := { desktop with board }

def listenersSlot : Slot (Desktop τ κ ν δ) (Subscribers ν) where
  get := listeners
  set listeners desktop := { desktop with listeners }

def armedSlot [DecidableEq δ] (dispatcher : δ) :
    Slot (Desktop τ κ ν δ) (Option (Armed (Bound κ))) where
  get desktop := desktop.armed dispatcher
  set armed desktop := { desktop with
    armed := fun other => if other = dispatcher then armed else desktop.armed other }

def note (happening : Happening κ ν δ) (desktop : Desktop τ κ ν δ) : Desktop τ κ ν δ :=
  { desktop with journal := desktop.journal ++ [happening] }

def log (notice : Notice) (desktop : Desktop τ κ ν δ) : Desktop τ κ ν δ :=
  { desktop with records := desktop.records ++ [notice] }

/-- The ids of the armed commands, with their targets. -/
def held (desktop : Desktop τ κ ν δ) (dispatcher : δ) : Option (String × Option Widget) :=
  (desktop.armed dispatcher).map fun armed => (armed.command.command.id, armed.target)

/-- It is noticed what is armed and shown. -/
def look (desktop : Desktop τ κ ν δ) : Desktop τ κ ν δ :=
  desktop.note (.after desktop.held desktop.board.toasts)

end Desktop

/-- Runs code whose operations are performed by `nested`. -/
abbrev DesktopCode.within (nested : DesktopOp κ ν δ → Act (Desktop τ κ ν δ) (DesktopAnswer κ))
    (code : DesktopCode τ κ ν δ α) : Act (Desktop τ κ ν δ) α :=
  code.run Desktop.hostSlot nested

/-! ## Calls that are noted -/

section
variable (note : Call κ → Act σ Unit)

def KeyListener.noted (widget : Widget) (position : Nat) (listener : KeyListener (Act σ)) :
    KeyListener (Act σ) where
  handler phase := (listener.handler phase).map fun handle event => do
    note (.listener widget position event)
    handle event

def Binding.noted (keystroke : Keystroke) (widget : Widget) (binding : Binding (Act σ)) :
    Binding (Act σ) where
  accept asked := do
    note (.accepts asked keystroke)
    binding.accept asked
  isEnabled := do
    note (.usable widget keystroke)
    binding.isEnabled

/-- The toolkit, where calls of listeners and bindings are noted. -/
def Toolkit.noted (toolkit : Toolkit (Act σ)) : Toolkit (Act σ) where
  rootOf := toolkit.rootOf
  isKeyCapture := toolkit.isKeyCapture
  isTextEditor := toolkit.isTextEditor
  ancestorIsEditing := toolkit.ancestorIsEditing
  isEnabled := toolkit.isEnabled
  listenersOf widget :=
    (fun listenerAt position =>
      Option.map (KeyListener.noted note widget position) <$> listenerAt position)
      <$> toolkit.listenersOf widget
  bindingOf widget keystroke :=
    Option.map (Binding.noted note keystroke widget) <$> toolkit.bindingOf widget keystroke

end

/-! ## The code around -/

/-- All that is called on a host: its toolkit, and for each dispatcher its focus source, resolver
and menu; what the callbacks of commands do; and who hears of shortcuts and toasts. -/
structure DesktopSurroundings (τ κ ν δ : Type) where
  platform : δ → Platform
  toolkit : Toolkit (DesktopCode τ κ ν δ)
  focus : δ → Focus (DesktopCode τ κ ν δ)
  commandFor : δ → Keystroke → Window → DesktopCode τ κ ν δ (Option (Command κ))
  menu : δ → Option (KeyEvent → DesktopCode τ κ ν δ Bool)
  decide : κ → Context → DesktopCode τ κ ν δ Bool
  run : κ → Context → DesktopCode τ κ ν δ Unit
  report : κ → Context → DesktopCode τ κ ν δ Unit
  told : ν → String → DesktopCode τ κ ν δ Unit
  shown : ν → List Toast → DesktopCode τ κ ν δ Unit
  freshToastId : DesktopCode τ κ ν δ String
  timerFailed : Fault → DesktopCode τ κ ν δ Unit
  consumed : KeyEvent → Slot τ Bool
  settings : Slot τ Settings
  allowance : Nat

namespace DesktopSurroundings

variable (around : DesktopSurroundings τ κ ν δ)
  (nested : DesktopOp κ ν δ → Act (Desktop τ κ ν δ) (DesktopAnswer κ))

def registryHost : RegistryHost (Desktop τ κ ν δ) κ ν where
  registry := Desktop.registrySlot
  subscribers := Desktop.membersSlot
  call member id := do
    modify (Desktop.note (.told member id))
    DesktopCode.within nested (around.told member id)
  log notice := modify (Desktop.log notice)
  allowance := around.allowance

def toasts : ToastHost (Desktop τ κ ν δ) ν where
  board := Desktop.boardSlot
  subscribers := Desktop.listenersSlot
  call member toasts := do
    modify (Desktop.note (.shown member toasts))
    DesktopCode.within nested (around.shown member toasts)
  freshId := DesktopCode.within nested around.freshToastId
  timerFailed fault := do
    modify (Desktop.note (.timerFailed fault))
    DesktopCode.within nested (around.timerFailed fault)
  allowance := around.allowance

variable [DecidableEq ν]

/-- The callbacks of commands, as a dispatcher calls them. -/
def calls (dispatcher : δ) : Callbacks (Act (Desktop τ κ ν δ)) κ where
  decide callback context := do
    modify (Desktop.note (.called dispatcher (.decides callback context)))
    DesktopCode.within nested (around.decide callback context)
  run callback context := do
    modify (Desktop.note (.called dispatcher (.runs callback context)))
    DesktopCode.within nested (around.run callback context)
  report callback context := do
    modify (Desktop.note (.called dispatcher (.reports callback context)))
    DesktopCode.within nested (around.report callback context)
  toast name id := do
    modify (Desktop.note (.called dispatcher (.toast name id)))
    showNotEnabled (Desktop.part around.settings) (around.toasts nested) name id

variable [DecidableEq δ]

def dispatcher (dispatcher : δ) : Dispatcher (Desktop τ κ ν δ) κ where
  platform := around.platform dispatcher
  toolkit := (around.toolkit.map (DesktopCode.within nested)).noted fun call =>
    modify (Desktop.note (.called dispatcher call))
  focus :=
    { owner := DesktopCode.within nested (around.focus dispatcher).owner
      window := DesktopCode.within nested (around.focus dispatcher).window }
  commandFor keystroke window := do
    modify (Desktop.note (.called dispatcher (.resolver keystroke window)))
    DesktopCode.within nested (around.commandFor dispatcher keystroke window)
  menu := (around.menu dispatcher).map fun processes event => do
    modify (Desktop.note (.called dispatcher (.menu event)))
    DesktopCode.within nested (processes event)
  calls := around.calls nested dispatcher
  consumed event := Desktop.part (around.consumed event)
  armed := Desktop.armedSlot dispatcher
  log notice := modify (Desktop.log notice)
  allowance := around.allowance

def operate : DesktopOp κ ν δ → Act (Desktop τ κ ν δ) (DesktopAnswer κ)
  | .dispatch dispatcher event => do
    let result ← ((around.dispatcher nested dispatcher).dispatch event).attempt
    let consumed ← (Desktop.part (around.consumed event)).read
    modify (Desktop.note (.dispatched dispatcher event result consumed))
    return .truth (← .ofExcept result)
  | .reset dispatcher => do
    (around.dispatcher nested dispatcher).holder.reset
    return .nothing
  | .armed dispatcher => do return .armed (← (Desktop.armedSlot dispatcher).read)
  | .register definition => do
    return .registry (.command (← (around.registryHost nested).register definition))
  | .unregister id => do return .truth (← (around.registryHost nested).unregister id)
  | .edit edit => do
    (around.registryHost nested).edit edit
    return .nothing
  | .ask query => do return .registry ((← Desktop.registrySlot.read).answer query)
  | .resolve table fallback keystroke window => do
    return .found (← table.commandFor fallback Desktop.registrySlot
      (around.registryHost nested).log keystroke window)
  | .conflictsFor table shortcut scope exclude => do
    return .registry (.commands
      ((← Desktop.registrySlot.read).conflictsFor table shortcut scope exclude))
  | .hasConflicts table id => do
    return .truth ((← Desktop.registrySlot.read).hasConflicts table id)
  | .conflicts table => do return .conflicts ((← Desktop.registrySlot.read).conflicts table)
  | .subscribe member => do
    Desktop.membersSlot.update (·.add member)
    return .nothing
  | .unsubscribe member => do
    Desktop.membersSlot.update (·.remove member)
    return .nothing
  | .toast operation => do return .toast (← (around.toasts nested).perform operation)

/-- Performs an operation, where callbacks may perform further ones so many deep. It is noticed
what is armed and shown after each, also when it failed. -/
def perform : Nat → DesktopOp κ ν δ → Act (Desktop τ κ ν δ) (DesktopAnswer κ) :=
  Act.nesting fun nested operation =>
    (around.operate nested operation).followedBy (modify Desktop.look)

theorem perform_succ (depth : Nat) (operation : DesktopOp κ ν δ) :
    around.perform (depth + 1) operation =
      (around.operate (around.perform depth) operation).followedBy (modify Desktop.look) :=
  rfl

/-- Runs code of the host. -/
def play (depth : Nat) (code : DesktopCode τ κ ν δ α) : Act (Desktop τ κ ν δ) α :=
  code.within (around.perform depth)

end DesktopSurroundings
end KeyPrecedence
