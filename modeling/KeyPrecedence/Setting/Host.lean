import KeyPrecedence.Subscribers
import KeyPrecedence.Logging.Notice
import KeyPrecedence.Setting.Basic

/-!
The settings of a running host. Subscribers hear of every accepted change, but not of settings
loaded as a whole. Settings are asked for by name, and a name may belong to none.
-/

namespace KeyPrecedence

/-- What the settings need of their host. -/
structure SettingsHost (σ ν : Type) where
  settings : Slot σ Settings
  subscribers : Slot σ (Subscribers ν)
  call : ν → SettingKey → Value → Act σ Unit
  log : Notice → Act σ Unit
  allowance : Nat

/-- The setting of a name. -/
def SettingKey.named {σ : Type} (name : String) : Act σ SettingKey :=
  match SettingKey.ofName? name with
  | some key => pure key
  | none => Act.fail (.noSuchSetting name)

namespace SettingsHost

variable {σ ν : Type} [DecidableEq ν] (host : SettingsHost σ ν)

def load (entries : List (String × Value)) : Act σ Unit := do
  let (settings, count) ← .ofExcept (Settings.load entries)
  host.settings.write settings
  host.log (.settingsLoaded count)

def get (name : String) : Act σ Value := do
  let key ← SettingKey.named name
  return (← host.settings.read).get key

/-- A subscriber that fails is logged and does not keep the others from being called. -/
def announce (key : SettingKey) (value : Value) : Act σ Unit :=
  Subscribers.callAll host.subscribers host.allowance fun member =>
    (host.call member key value).guarded fun fault => host.log (.settingListenerFailed fault)

/-- A value that has no text is not logged. -/
def set (name : String) (value : Value) : Act σ Unit := do
  if let some text := value.text? then host.log (.settingValue name text)
  let key ← SettingKey.named name
  let settings ← .ofExcept ((← host.settings.read).put key value)
  host.settings.write settings
  host.announce key value

def reset (name : String) : Act σ Unit := do
  let key ← SettingKey.named name
  host.set name key.default

end SettingsHost
end KeyPrecedence
