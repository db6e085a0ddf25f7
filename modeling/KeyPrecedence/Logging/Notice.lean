import KeyPrecedence.Fault
import KeyPrecedence.Command.Resolution
import KeyPrecedence.Logging.Record

/-!
Everything the program says about itself, with its level, its feature and its words.
-/

namespace KeyPrecedence

inductive Notice
  | registered (commandId precedence scope : String)
  | settingShortcut (commandId : String) (index : Number) (shortcut : String)
  | shortcutListenerFailed (fault : Fault)
  | ambiguous (ambiguity : Ambiguity)
  | sourceGone (phase : Phase) (key widgetId : String)
  | overlayBusy (phase : Phase) (key : String)
  | armed (commandId : String)
  | stillArmed (commandId armedId : String)
  | executing (commandId key : String)
  | executionFailed (commandId : String) (fault : Fault)
  | forfeited (commandId : String) (phase : Phase) (key : String) (widgetId : Option String)
  | armedSystem (shortcut commandId : String)
  | armedAt (shortcut commandId : String) (tier : Tier)
  | leftToEditor (shortcut widgetId : String)
  | takenByListener (shortcut widgetId : String)
  | leftToBinding (shortcut widgetId : String)
  | notEnabled (commandId : String)
  | unhandled (fault : Fault)
  | installed
  | alreadyInstalled
  | uninstalled
  | settingsLoaded (count : Nat)
  | settingValue (settingId value : String)
  | settingListenerFailed (fault : Fault)
  | settingChanged (settingId value : String)
  | loggingFailed (fault : Fault)
  | loggerVerbose
  | verboseSwitched (on : Bool)

namespace Notice

def level : Notice → Level
  | ambiguous _ | stillArmed .. => .warning
  | shortcutListenerFailed _ | executionFailed .. | settingListenerFailed _ | loggingFailed _ =>
    .error
  | unhandled _ => .fatal
  | installed | uninstalled | settingsLoaded _ | loggerVerbose | verboseSwitched _ => .info
  | _ => .debug

def feature : Notice → String
  | registered .. | settingShortcut .. | shortcutListenerFailed _ => "commands"
  | ambiguous _ => "shortcuts"
  | settingsLoaded _ | settingValue .. | settingListenerFailed _ => "settings"
  | settingChanged .. | loggingFailed _ => "settings-applier"
  | loggerVerbose | verboseSwitched _ => "logger"
  | _ => "keyDispatch"

def text : Notice → String
  | registered commandId precedence scope => s!"Registered {commandId} ({precedence}) in {scope}"
  | settingShortcut commandId index shortcut =>
    s!"setShortcut({commandId}, {index.text}, {shortcut})"
  | shortcutListenerFailed fault => s!"Shortcut change listener error: {fault.render}"
  | ambiguous ambiguity =>
    let ids := ", ".intercalate ambiguity.commandIds
    s!"Shortcut {ambiguity.shortcut} is bound to {ids} in {ambiguity.scope}, using the first"
  | sourceGone phase key widgetId =>
    s!"Blocked {phase.name} {key}: {widgetId} has no root container"
  | overlayBusy phase key => s!"Blocked {phase.name} {key}: overlay busy"
  | armed commandId => s!"Armed {commandId}"
  | stillArmed commandId armedId => s!"Not arming {commandId}: {armedId} is still armed"
  | executing commandId key => s!"Executing {commandId} on release of {key}"
  | executionFailed commandId fault => s!"Command {commandId} failed: {fault.render}"
  | forfeited commandId phase key widgetId =>
    let place := widgetId.getD "nothing"
    s!"Forfeited {commandId}: {phase.name} {key} went to {place}"
  | armedSystem shortcut commandId => s!"{shortcut} armed system command {commandId}"
  | armedAt shortcut commandId tier => s!"{shortcut} armed {commandId} at {tier.name}"
  | leftToEditor shortcut widgetId => s!"{shortcut} left to text editor {widgetId}"
  | takenByListener shortcut widgetId => s!"{shortcut} consumed by a key listener on {widgetId}"
  | leftToBinding shortcut widgetId => s!"{shortcut} left to a binding on {widgetId}"
  | notEnabled commandId => s!"{commandId} is not enabled"
  | unhandled fault => fault.message
  | installed => "Key dispatcher installed"
  | alreadyInstalled => "Key dispatcher already installed, skipping"
  | uninstalled => "Key dispatcher uninstalled"
  | settingsLoaded count => s!"Settings initialized, {count} set, the rest default"
  | settingValue settingId value => s!"setSetting({settingId}, {value})"
  | settingListenerFailed fault => s!"Setting change listener error: {fault.render}"
  | settingChanged settingId value => s!"Setting changed: {settingId} = {value}"
  | loggingFailed fault => s!"Failed to reconfigure logger: {fault.render}"
  | loggerVerbose => "Logger initialized in verbose mode"
  | verboseSwitched on =>
    let state := if on then "on" else "off"
    s!"Verbose logging {state}"

def record (notice : Notice) : Record := ⟨notice.level, notice.feature, notice.text⟩

end Notice
end KeyPrecedence
