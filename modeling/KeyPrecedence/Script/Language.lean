import KeyPrecedence.Command.Basic
import KeyPrecedence.Key.Shortcut
import KeyPrecedence.Scope
import KeyPrecedence.Toast.Basic
import KeyPrecedence.Value

/-!
Scripts that a host is played from: what happens to it step by step, and what its callbacks do.
A callback may itself take steps, so the types are over the steps `ς` it takes.
-/

namespace KeyPrecedence.Script

/-- A nested step with the label under which its outcome is noted. -/
structure Labelled (ς : Type) where
  label : String
  step : ς

/-- What a callback does, in this order. After `limit` calls it does nothing more. -/
structure Behaviour (ς : Type) where
  limit : Option Nat := none
  steps : List (Labelled ς) := []
  consume : Bool := false
  failure : Option String := none

instance {ς : Type} : Inhabited (Behaviour ς) := ⟨{}⟩

/-- What a predicate answers. -/
inductive Answer
  | constant (b : Bool)
  | flag (name : String)
  /-- The focus owner of the context is the widget of this handle. -/
  | focused (handle : Option String)
  /-- The active window of the context has this id. -/
  | active (windowId : Option String)
  /-- One answer per call; the last is repeated. -/
  | sequence (answers : List Bool)
  | failure (text : String)

/-- A predicate takes its steps before it answers. -/
structure Predicate (ς : Type) where
  steps : List (Labelled ς) := []
  answer : Answer

instance {ς : Type} : Inhabited (Predicate ς) := ⟨{ answer := .constant true }⟩

/-- A callback of a command. -/
inductive Routine (ς : Type)
  | does (behaviour : Behaviour ς)
  | tells (predicate : Predicate ς)

instance {ς : Type} : Inhabited (Routine ς) := ⟨.does {}⟩

/-- An event to make, or one kept under a name. `source` is a handle. -/
structure EventSpec where
  input : KeyInput
  phase : Phase := .pressed
  source : Option String := none
  consumed : Bool := false
  keptAs : Option String := none

/-- A row of a fixed table of keystrokes. -/
structure TableRow where
  keystroke : Keystroke
  commandId : String

/-- How a dispatcher finds commands: by a table of its own, or by scopes. -/
inductive Lookup
  | table (rows : List TableRow)
  | scopes (table : ScopeTable) (fallback : String)

/-- A menu that takes the keys listed. -/
structure Menu (ς : Type) where
  keys : List String
  behaviour : Behaviour ς

structure DispatcherSpec (ς : Type) where
  platform : Platform
  lookup : Lookup
  menu : Option (Menu ς) := none
  focus : String

instance {ς : Type} : Inhabited (DispatcherSpec ς) :=
  ⟨{ platform := .other, lookup := .table [], focus := "" }⟩

/-- What a widget is added with. -/
structure WidgetSpec where
  id : String
  handle : String
  textEditor : Bool := false
  keyCapture : Bool := false
  editingAncestor : Bool := false
  enabled : Bool := true

inductive HostStep (ς : Type)
  | addWidget (spec : WidgetSpec)
  | removeWidget (widget : String)
  | setOverlay (widget : String) (busy : Bool)
  | addListener (widget name : String) (pressed typed released : Option (Behaviour ς))
  | addBinding (widget : String) (keystroke : Keystroke) (accept enabled : Option (Predicate ς))
  | setFlag (name : String) (value : Bool)
  | setFocus (focus : String) (widget : Option String)
  | setWindow (focus : String) (window : Option Window)

/-- Dispatchers are meant by their number. -/
inductive DispatchStep (ς : Type)
  | create (spec : DispatcherSpec ς)
  | dispatch (dispatcher : Nat) (event : EventSpec)
  | deliver (pipeline : String) (event : EventSpec)
  | reset (dispatcher : Nat)
  | setFocusSource (dispatcher : Nat) (focus : String)
  | attach (dispatcher : Nat) (pipeline : String)
  | detach (dispatcher : Nat) (pipeline : String)
  | describe (pipeline : String)
  | install (spec : DispatcherSpec ς) (pipeline : String)
  | uninstall
  | installed
  | start (spec : DispatcherSpec ς) (pipeline : String) (settings : List (String × Value))

/-- Single parts of key dispatch. -/
inductive PartStep (ς : Type)
  | isBlocked (event : EventSpec)
  | goesToText (event : EventSpec) (destination : String) (keystroke : Keystroke)
  | offerToListeners (widget : String) (event : EventSpec)
  | hasBinding (widget : String) (keystroke : Keystroke)
  | hasUsableBinding (widget : String) (keystroke : Keystroke)
  | resolve (name : String) (definition : Definition (Routine ς)) (widget : Option String)
      (window : Option Window)
  | isValid (name : String)
  | isEnabled (name : String)
  | execute (name : String)
  | giveFeedback (name : String)
  | arm (holder name : String) (target : Option String)
  | continues (holder : String) (event : EventSpec) (destination : Option String)
  | resetHolder (holder : String)
  | holderState (holder : String)

inductive RegistryStep (ς : Type)
  | define (definition : Definition (Routine ς))
  | register (definition : Definition (Routine ς))
  | get (id : String)
  | unregister (id : String)
  | list
  | effective (id : String)
  | defaults (id : String)
  | isModified (id : String)
  | setShortcut (id : String) (index : Number) (shortcut : String)
  | addShortcut (id shortcut : String)
  | removeShortcut (id : String) (index : Number)
  | resetShortcut (id : String)
  | resetAll
  | find (shortcut : String)
  | lookup (keystroke : Keystroke) (window : Window) (fallback : String)
  | conflictsFor (shortcut scope : String) (exclude : Option String)
  | hasConflicts (id : String)
  | conflicts
  | conflictIds

/-- What one can subscribe to. -/
inductive Topic
  | shortcuts
  | settings
  | toasts
  deriving DecidableEq, Repr

inductive SubscriptionStep (ς : Type)
  | subscribe (topic : Topic) (name : String) (behaviour : Behaviour ς)
  | unsubscribe (name : String)

inductive SettingStep
  | load (entries : List (String × Value))
  | get (name : String)
  | set (name : String) (value : Value)
  | reset (name : String)
  | exists (name : String)
  | default (name : String)
  | validate (name : String) (value : Value)
  | follow
  | unfollow
  | switchVerbose (on : Bool)
  | obstructLogging (text : Option String)

inductive ToastStep
  | add (content : String) (options : ToastOptions)
  | dismiss (id : String)
  | dismissTransient
  | clear
  | notEnabled (name commandId : String)
  | advance (ms : Number)

inductive Step
  | host (step : HostStep Step)
  | dispatch (step : DispatchStep Step)
  | part (step : PartStep Step)
  | registry (step : RegistryStep Step)
  | subscription (step : SubscriptionStep Step)
  | setting (step : SettingStep)
  | toast (step : ToastStep)

instance : Inhabited Step := ⟨.toast .clear⟩

end KeyPrecedence.Script
