import KeyPrecedence.Dispatch.Installation
import KeyPrecedence.Setting.Host
import KeyPrecedence.Setting.Verbosity

/-!
Starting a host: first the settings, then logging, then the key dispatcher. Settings that are not
valid stop the start before anything has changed.
-/

namespace KeyPrecedence

structure Launch (σ ν δ : Type) where
  settings : SettingsHost σ ν
  verbosity : Verbosity σ ν
  startLogger : Bool → Act σ Unit
  installation : Slot σ (Installation δ)

/-- Gives the dispatcher that is installed afterwards. -/
def Launch.start {σ ν δ : Type} [DecidableEq ν] [DecidableEq δ] (launch : Launch σ ν δ)
    (entries : List (String × Value)) (make : Act σ δ) (pipeline : String) : Act σ δ := do
  launch.settings.load entries
  launch.startLogger (← launch.settings.settings.read).verboseLogging
  launch.verbosity.follow
  Installation.install launch.installation launch.settings.log make pipeline

end KeyPrecedence
