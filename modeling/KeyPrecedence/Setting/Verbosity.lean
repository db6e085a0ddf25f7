import KeyPrecedence.Subscribers
import KeyPrecedence.Logging.Notice
import KeyPrecedence.Setting.Basic

/-!
The verbose logging setting, applied to the logger when it is first followed and on every change
that is announced from then on.
-/

namespace KeyPrecedence

/-- What following the setting needs of the host. The follower is one of the subscribers to the
settings, and `switch` sets the logger's mode. -/
structure Verbosity (σ ν : Type) where
  settings : Slot σ Settings
  subscribers : Slot σ (Subscribers ν)
  follower : ν
  switch : Bool → Act σ Unit
  log : Notice → Act σ Unit

namespace Verbosity

variable {σ ν : Type} [DecidableEq ν] (verbosity : Verbosity σ ν)

/-- What the follower does when a setting changes. -/
def heed (key : SettingKey) (value : Value) : Act σ Unit := do
  if let some text := value.text? then verbosity.log (.settingChanged key.name text)
  match key, value with
  | .defined .verboseLogging, .bool on => verbosity.switch on
  | _, _ => pure ()

/-- Following again changes nothing. -/
def follow : Act σ Unit := do
  if (← verbosity.subscribers.read).contains verbosity.follower then pure ()
  else
    verbosity.switch (← verbosity.settings.read).verboseLogging
    verbosity.subscribers.update (·.add verbosity.follower)

def unfollow : Act σ Unit := verbosity.subscribers.update (·.remove verbosity.follower)

end Verbosity
end KeyPrecedence
