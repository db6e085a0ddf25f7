import KeyPrecedence.Fault
import KeyPrecedence.Table
import KeyPrecedence.Value

/-!
The settings and what they may be. A `Settings` holds valid values only, so reading one never has
to check it.
-/

namespace KeyPrecedence

inductive SettingId
  | notEnabledFeedback
  | notEnabledToastDuration
  | verboseLogging
  deriving DecidableEq, Repr

namespace SettingId

def all : List SettingId := [notEnabledFeedback, notEnabledToastDuration, verboseLogging]

def name : SettingId → String
  | notEnabledFeedback => "keyboard.notEnabledFeedback"
  | notEnabledToastDuration => "keyboard.notEnabledToastDuration"
  | verboseLogging => "developer.verboseLogging"

def ofName? (name : String) : Option SettingId := all.find? (·.name = name)

end SettingId

/-- What a setting is asked for by. The definitions are a record, so they also answer to names that
every record has; such a name has no kind, no bounds and no default. -/
inductive SettingKey
  | defined (id : SettingId)
  | inherited (name : String)
  deriving DecidableEq, Repr

namespace SettingKey

def name : SettingKey → String
  | defined id => id.name
  | inherited name => name

def ofName? (name : String) : Option SettingKey :=
  match SettingId.ofName? name with
  | some id => some (defined id)
  | none => if (Value.inherited? name).isSome then some (inherited name) else none

end SettingKey

def leastDuration : Nat := 500

def mostDuration : Nat := 30000

/-- How long a toast stays up, in ms. -/
structure Duration where
  ms : Rat
  least_le : leastDuration ≤ ms
  le_most : ms ≤ mostDuration

def Duration.default : Duration := ⟨3000, by decide, by decide⟩

structure Settings where
  /-- Whether a toast says that a command is not available. -/
  notEnabledFeedback : Bool := true
  notEnabledToastDuration : Duration := .default
  /-- Whether every decision is logged. -/
  verboseLogging : Bool := false
  /-- What was put under names that have no definition. -/
  inherited : Table String Rat := {}

namespace Settings

def valueOf (settings : Settings) : SettingId → Value
  | .notEnabledFeedback => .bool settings.notEnabledFeedback
  | .notEnabledToastDuration => .number (.finite settings.notEnabledToastDuration.ms)
  | .verboseLogging => .bool settings.verboseLogging

def get (settings : Settings) : SettingKey → Value
  | .defined id => settings.valueOf id
  | .inherited name =>
    match settings.inherited.find? name with
    | some ms => .number (.finite ms)
    | none => .missing

end Settings

def SettingKey.default (key : SettingKey) : Value := ({} : Settings).get key

def readBool : Value → Except SettingRefusal Bool
  | .bool b => .ok b
  | value => .error (.notBoolean value.kind)

/-- A duration is a finite number within its bounds, the bounds included. -/
def readDuration : Value → Except SettingRefusal Duration
  | .number (.finite ms) =>
    if h : leastDuration ≤ ms ∧ ms ≤ mostDuration then .ok ⟨ms, h.1, h.2⟩
    else .error (.outOfRange leastDuration mostDuration (.finite ms))
  | _ => .error .notDuration

/-- Without bounds every finite number is a duration. -/
def readUnbounded : Value → Except SettingRefusal Rat
  | .number (.finite ms) => .ok ms
  | _ => .error .notDuration

namespace Settings

def change (settings : Settings) (id : SettingId) (value : Value) :
    Except SettingRefusal Settings :=
  match id with
  | .notEnabledFeedback => (readBool value).map fun b => { settings with notEnabledFeedback := b }
  | .notEnabledToastDuration =>
    (readDuration value).map fun d => { settings with notEnabledToastDuration := d }
  | .verboseLogging => (readBool value).map fun b => { settings with verboseLogging := b }

/-- Changes one setting, or says why the value does not fit it. -/
def put (settings : Settings) (key : SettingKey) (value : Value) : Except Fault Settings :=
  let checked : Except SettingRefusal Settings :=
    match key with
    | .defined id => settings.change id value
    | .inherited name => (readUnbounded value).map fun ms =>
        { settings with inherited := settings.inherited.insert name ms }
  checked.mapError (.setting key.name)

/-- Puts the entries on top of the given settings and counts them. A missing value is no entry, a
name needs a definition, and the first entry that does not fit is reported. -/
def putAll : List (String × Value) → Settings × Nat → Except Fault (Settings × Nat)
  | [], result => .ok result
  | (_, .missing) :: rest, result => putAll rest result
  | (name, value) :: rest, (settings, count) =>
    match SettingId.ofName? name with
    | none => .error (.setting name .unknown)
    | some id => do
      let settings ← settings.put (.defined id) value
      putAll rest (settings, count + 1)

/-- The settings a host starts with; what it does not give has its default. -/
def load (entries : List (String × Value)) : Except Fault (Settings × Nat) :=
  putAll entries ({}, 0)

end Settings

def validate (key : SettingKey) (value : Value) : Except Fault Unit :=
  (({} : Settings).put key value).map fun _ => ()

end KeyPrecedence
