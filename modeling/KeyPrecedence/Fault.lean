import KeyPrecedence.Number.Decimal

/-!
Why an operation failed.
-/

namespace KeyPrecedence

/-- What the command registry refuses. -/
inductive RegistryRefusal
  | notRegistered
  | alreadyRegistered
  | indexOutOfRange (index : Number)
  deriving DecidableEq, Repr

def RegistryRefusal.reason : RegistryRefusal → String
  | notRegistered => "not registered"
  | alreadyRegistered => "already registered"
  | indexOutOfRange index => s!"shortcut index {index.text} is out of range"

/-- Why a value does not fit a setting. -/
inductive SettingRefusal
  | unknown
  | notBoolean (kind : String)
  | notDuration
  | outOfRange (least most : Nat) (got : Number)
  deriving DecidableEq, Repr

def SettingRefusal.reason : SettingRefusal → String
  | unknown => "Unknown setting"
  | notBoolean kind => s!"Expected boolean, got {kind}"
  | notDuration => "Expected a duration in ms"
  | outOfRange least most got =>
    s!"Duration must be between {least} and {most} ms, got {got.text}"

/-- `noSuchSetting` is asking for the definition of a setting that has none, `reservedFeature` is
logging under a name that every record answers to; `raised` is what a callback of the host failed
with. -/
inductive Fault
  | registry (commandId : String) (refusal : RegistryRefusal)
  | setting (settingId : String) (refusal : SettingRefusal)
  | noSuchSetting (settingId : String)
  | reservedFeature (feature : String)
  | unknownPrecedence (commandId precedence : String)
  | unknownWidget (widgetId : String)
  | raised (text : String)
  deriving DecidableEq, Repr

namespace Fault

/-- The name of the kind of failure. -/
def name : Fault → String
  | registry .. => "CommandRegistryError"
  | setting .. => "SettingValidationError"
  | noSuchSetting _ | reservedFeature _ => "TypeError"
  | unknownPrecedence .. => "UnknownPrecedenceError"
  | unknownWidget _ | raised _ => "Error"

def message : Fault → String
  | registry commandId refusal => s!"Command '{commandId}': {refusal.reason}"
  | setting settingId refusal => s!"Invalid value for setting '{settingId}': {refusal.reason}"
  | noSuchSetting settingId => s!"No setting '{settingId}'"
  | reservedFeature feature => s!"No feature '{feature}'"
  | unknownPrecedence commandId precedence =>
    s!"Command '{commandId}' has precedence '{precedence}', which no dispatch step handles. " ++
      "New precedence tier added?"
  | unknownWidget widgetId => s!"Unknown widget '{widgetId}'"
  | raised text => text

/-- The text of a failure inside a message. A failure with nothing to say is just named. -/
def render (fault : Fault) : String :=
  if fault.message = "" then fault.name else s!"{fault.name}: {fault.message}"

end Fault
end KeyPrecedence
