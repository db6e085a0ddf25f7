import KeyPrecedence.Setting.Basic
import KeyPrecedence.Toast.Host

/-!
The toast about a command that is valid but cannot run right now.
-/

namespace KeyPrecedence

/-- One such toast per command: asking again starts its time over. -/
def notEnabledOptions (settings : Settings) (commandId : String) : ToastOptions where
  id := some s!"not-enabled:{commandId}"
  severity := .warn
  timeout := .finite settings.notEnabledToastDuration.ms

/-- Shows the toast, unless the settings ask for none. -/
def showNotEnabled {σ ν : Type} [DecidableEq ν] (settings : Slot σ Settings)
    (toasts : ToastHost σ ν) (name commandId : String) : Act σ Unit := do
  let current ← settings.read
  if current.notEnabledFeedback then
    let _ ← toasts.add s!"{name} is not available right now" (notEnabledOptions current commandId)

end KeyPrecedence
