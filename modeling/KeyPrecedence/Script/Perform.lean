import KeyPrecedence.Command.Conflict
import KeyPrecedence.Script.Stage
import KeyPrecedence.Launch

/-!
What each step of a script does on the scripted host, and what it gives.
-/

namespace KeyPrecedence.Script

def callbackOf (role : Role) (commandId : String) (routine : Routine Step) :
    Act World Callback := do
  return ⟨role, commandId, ← newCell routine⟩

def callbackOf? (role : Role) (commandId : String) :
    Option (Routine Step) → Act World (Option Callback)
  | none => pure none
  | some routine => do return some (← callbackOf role commandId routine)

def feedbackOf (commandId : String) : Feedback (Routine Step) → Act World (Feedback Callback)
  | .toast => pure .toast
  | .silent => pure .silent
  | .custom routine => do return .custom (← callbackOf .report commandId routine)

/-- A definition with callbacks of its own. -/
def instantiate (d : Definition (Routine Step)) : Act World (Definition Callback) := do
  let feedback ← match d.feedback with
    | none => pure none
    | some feedback => do pure (some (← feedbackOf d.id feedback))
  return {
    id := d.id
    name := d.name
    execute := ← callbackOf .execute d.id d.execute
    scope := d.scope
    precedence := d.precedence
    shortcuts := d.shortcuts
    description := d.description
    valid := ← callbackOf? .isValid d.id d.valid
    enabled := ← callbackOf? .isEnabled d.id d.enabled
    feedback }

def dispatcherName (number : Nat) : String := s!"d{number}"

/-- Adds a dispatcher that is attached to nothing. -/
def createDispatcher (spec : DispatcherSpec Step) : Act World Nat := do
  let menu ← match spec.menu with
    | none => pure none
    | some menu => do pure (some ⟨menu.keys, ← newCell menu.behaviour⟩)
  let number := (← get).dispatchers.entries.length
  let state : DispatcherState := ⟨spec.platform, spec.lookup, menu, spec.focus, none⟩
  modify fun world => { world with dispatchers := world.dispatchers.insert number state }
  return number

def performHost : HostStep Step → Act World Reply
  | .addWidget spec => do
    let widget : Widget := ⟨spec.id, ← freshNumber⟩
    let state : WidgetState :=
      { textEditor := spec.textEditor, keyCapture := spec.keyCapture
        editingAncestor := spec.editingAncestor, enabled := spec.enabled
        listeners := ← freshNumber }
    modify fun world => { world with
      handles := world.handles.insert spec.handle widget
      widgets := world.widgets.insert spec.id state }
    return .nothing
  | .removeWidget handle => do
    setState (← widgetOf handle) fun state => { state with removed := true }
    return .nothing
  | .setOverlay handle busy => do
    setState (← widgetOf handle) fun state => { state with overlayBusy := busy }
    return .nothing
  | .addListener handle name pressed typed released => do
    let list := (← stateOf (← widgetOf handle)).listeners
    let script : ListenerScript :=
      ⟨name, ← newCell? pressed, ← newCell? typed, ← newCell? released⟩
    modify fun world => { world with
      listeners := world.listeners.insert list ((world.listeners.find? list).getD [] ++ [script]) }
    return .nothing
  | .addBinding handle keystroke accept enabled => do
    let script : BindingScript := ⟨keystroke.shortcut, ← newCell? accept, ← newCell? enabled⟩
    setState (← widgetOf handle) fun state =>
      { state with bindings := state.bindings.insert keystroke script }
    return .nothing
  | .setFlag name value => do
    modify fun world => { world with flags := world.flags.insert name value }
    return .nothing
  | .setFocus focus handle => do
    let owner ← widgetOf? handle
    let state := ((← get).focuses.find? focus).getD {}
    modify fun world => { world with focuses := world.focuses.insert focus { state with owner } }
    return .nothing
  | .setWindow focus window => do
    let state := ((← get).focuses.find? focus).getD {}
    modify fun world => { world with focuses := world.focuses.insert focus { state with window } }
    return .nothing

/-- The outcome of a dispatch with whether the event is consumed afterwards. -/
def replyDispatch (event : KeyEvent) (act : Act World Bool) : Act World Reply := do
  match ← act.attempt with
  | .ok handled => return .dispatched handled ((← get).isConsumed event)
  | .error fault => return .failed fault ((← get).isConsumed event)

namespace Stage

variable (stage : Stage)

def launch : Launch World SettingsMember Nat where
  settings := stage.settingsHost
  verbosity := verbosity
  startLogger on := do
    let (logger, pending) := (← get).logger.start (some on)
    modify fun world => { world with logger }
    awaitPending pending
  installation := World.installationSlot

def performDispatch : DispatchStep Step → Act World Reply
  | .create spec => do return .text (dispatcherName (← createDispatcher spec))
  | .dispatch number spec => do
    let event ← eventOf spec
    replyDispatch event (stage.dispatch event number)
  | .deliver pipeline spec => do
    let event ← eventOf spec
    replyDispatch event
      (Pipeline.deliver (World.pipelineSlot pipeline) stage.allowance (stage.dispatch event) event)
  | .reset number => do
    (World.armedSlot number).write none
    return .nothing
  | .setFocusSource number focus => do
    modify fun world =>
      match world.dispatchers.find? number with
      | none => world
      | some state =>
        { world with dispatchers := world.dispatchers.insert number { state with focus } }
    return .nothing
  | .attach number pipeline => do
    World.installationSlot.update (·.attach pipeline number)
    return .nothing
  | .detach number pipeline => do
    World.installationSlot.update (·.detach pipeline number)
    return .nothing
  | .describe name => do
    let world ← get
    let pipeline := world.installation.pipeline name
    return .pipeline pipeline.attached.length <| pipeline.hostProcessed.map fun event =>
      ⟨event.input.key, event.phase, world.handleOf? event.source, world.isConsumed event⟩
  | .install spec pipeline => do
    return .text (dispatcherName
      (← Installation.install World.installationSlot say (createDispatcher spec) pipeline))
  | .uninstall => do
    Installation.uninstall World.installationSlot say fun number =>
      (World.armedSlot number).write none
    return .nothing
  | .installed => do
    return .ofText? ((← get).installation.installed.map fun (number, _) => dispatcherName number)
  | .start spec pipeline settings => do
    return .text (dispatcherName (← stage.launch.start settings (createDispatcher spec) pipeline))

/-- The place where a resolved command is kept. One that was replaced remembers nothing more. -/
def keptSlot (name : String) (kept : Kept) : Slot World (Considered Callback) where
  get world :=
    match (world.kept.find? name).filter (·.stamp = kept.stamp) with
    | some current => current.considered
    | none => kept.considered
  set considered world :=
    match (world.kept.find? name).filter (·.stamp = kept.stamp) with
    | some _ => { world with kept := world.kept.insert name { kept with considered } }
    | none => world

/-- Does something with the command kept under a name. -/
def withKept (name : String) (use : Slot World (Considered Callback) → Kept → Act World Reply) :
    Act World Reply := do
  match (← get).kept.find? name with
  | none => return .nothing
  | some kept => use (keptSlot name kept) kept

def performPart : PartStep Step → Act World Reply
  | .isBlocked spec => do
    let event ← eventOf spec
    return .bool (← stage.toolkit.isBlocked say event)
  | .goesToText spec destination keystroke => do
    let event ← eventOf spec
    return .bool (← stage.toolkit.goesToText event (← widgetOf destination) keystroke)
  | .offerToListeners handle spec => do
    let widget ← widgetOf handle
    let event ← eventOf spec
    return .bool (← stage.toolkit.offerToListeners World.consumedSlot stage.allowance widget event)
  | .hasBinding handle keystroke => do
    return .bool (← stage.toolkit.hasBinding (← widgetOf handle) keystroke)
  | .hasUsableBinding handle keystroke => do
    return .bool (← stage.toolkit.hasUsableBinding (← widgetOf handle) keystroke)
  | .resolve name definition handle window => do
    let command := (← instantiate definition).command
    let bound : Bound Callback := ⟨command, ⟨← widgetOf? handle, window⟩⟩
    let kept : Kept := ⟨← freshNumber, { bound }⟩
    modify fun world => { world with kept := world.kept.insert name kept }
    return .text command.precedence.name
  | .isValid name => withKept name fun slot _ => do
    return .bool (← Considered.isValid stage.calls slot)
  | .isEnabled name => withKept name fun slot _ => do
    return .bool (← Considered.isEnabled stage.calls slot)
  | .execute name => withKept name fun _ kept => do
    kept.considered.bound.execute stage.calls
    return .nothing
  | .giveFeedback name => withKept name fun _ kept => do
    kept.considered.bound.giveFeedback stage.calls
    return .nothing
  | .arm holder name target => withKept name fun _ kept => do
    let target ← widgetOf? target
    return .bool (← (stage.holder holder).arm ⟨kept.stamp, kept.considered.bound⟩ target)
  | .continues holder spec destination => do
    let event ← eventOf spec
    return .bool (← (stage.holder holder).continues event (← widgetOf? destination))
  | .resetHolder holder => do
    (stage.holder holder).reset
    return .nothing
  | .holderState holder => do
    let world ← get
    match world.holders.find? holder with
    | none => return .text "idle"
    | some armed =>
      let name := (world.kept.entries.find? (·.2.stamp = armed.command.stamp)).map (·.1)
      return .holding name (world.handleOf? armed.target)

def performRegistry : RegistryStep Step → Act World Reply
  | .define definition => do
    return .command (.of (← instantiate definition).command)
  | .register definition => do
    return .command (.of (← stage.registryHost.register (← instantiate definition)))
  | .get id => do
    match (← MonadState.get).registry.get? id with
    | none => return .nothing
    | some command => return .command (.of command)
  | .unregister id => do return .bool (← stage.registryHost.unregister id)
  | .list => do return .texts ((← get).registry.commands.map (·.id))
  | .effective id => do return .texts ((← get).registry.effective id)
  | .defaults id => do return .texts ((← get).registry.defaults id)
  | .isModified id => do return .bool ((← get).registry.isModified id)
  | .setShortcut id index shortcut => do
    stage.registryHost.setShortcut id index shortcut
    return .nothing
  | .addShortcut id shortcut => do
    stage.registryHost.addShortcut id shortcut
    return .nothing
  | .removeShortcut id index => do
    stage.registryHost.removeShortcut id index
    return .nothing
  | .resetShortcut id => do
    stage.registryHost.resetShortcut id
    return .nothing
  | .resetAll => do
    stage.registryHost.resetAll
    return .nothing
  | .find shortcut => do return .texts (((← get).registry.withShortcut shortcut).map (·.id))
  | .lookup keystroke window fallback => do
    let lookup := Lookup.scopes (← get).scopes fallback
    return .ofText? ((← commandFor lookup keystroke window).map (·.id))
  | .conflictsFor shortcut scope exclude => do
    let world ← get
    return .texts ((world.registry.conflictsFor world.scopes shortcut scope exclude).map (·.id))
  | .hasConflicts id => do
    let world ← get
    return .bool (world.registry.hasConflicts world.scopes id)
  | .conflicts => do
    let world ← get
    return .conflicts (world.registry.conflicts world.scopes)
  | .conflictIds => do
    let world ← get
    return .texts (world.registry.conflictIds world.scopes)

end Stage

/-- Enters a name into a topic, or takes it out. -/
def changeMembers (topic : Topic) (name : String) (enter : Bool) : Act World Unit :=
  let change {ν : Type} [DecidableEq ν] (member : ν) (members : Subscribers ν) : Subscribers ν :=
    if enter then members.add member else members.remove member
  match topic with
  | .shortcuts => World.shortcutMembersSlot.update (change name)
  | .toasts => World.toastMembersSlot.update (change name)
  | .settings => World.settingsMembersSlot.update (change (.named name))

/-- A name keeps the behaviour it first came with. -/
def performSubscription : SubscriptionStep Step → Act World Reply
  | .subscribe topic name behaviour => do
    unless (← get).subscriptions.contains (topic, name) do
      let cell ← newCell behaviour
      modify fun world => { world with
        subscriptions := world.subscriptions.insert (topic, name) cell }
    modify fun world => { world with topics := world.topics.insert name topic }
    changeMembers topic name true
    return .nothing
  | .unsubscribe name => do
    match (← get).topics.find? name with
    | none => return .nothing
    | some topic =>
      changeMembers topic name false
      return .nothing

namespace Stage

variable (stage : Stage)

def performSetting : SettingStep → Act World Reply
  | .load entries => do
    stage.settingsHost.load entries
    return .nothing
  | .get name => do return .value (← stage.settingsHost.get name)
  | .set name value => do
    stage.settingsHost.set name value
    return .nothing
  | .reset name => do
    stage.settingsHost.reset name
    return .nothing
  | .exists name => return .bool (SettingId.ofName? name).isSome
  | .default name => do return .value (← SettingKey.named name).default
  | .validate name value => do
    let key ← SettingKey.named name
    Act.ofExcept (KeyPrecedence.validate key value)
    return .nothing
  | .follow => do
    verbosity.follow
    return .nothing
  | .unfollow => do
    verbosity.unfollow
    return .nothing
  | .switchVerbose on => do
    awaitPending (← switchLogger on)
    return .nothing
  | .obstructLogging text => do
    modify fun world => { world with logger := { world.logger with obstacle := text } }
    return .nothing

def performToast : ToastStep → Act World Reply
  | .add content options => do return .text (← stage.toastHost.add content options)
  | .dismiss id => do
    stage.toastHost.dismiss id
    return .nothing
  | .dismissTransient => do
    stage.toastHost.dismissTransient
    return .nothing
  | .clear => do
    stage.toastHost.clear
    return .nothing
  | .notEnabled name commandId => do
    stage.calls.toast name commandId
    return .nothing
  | .advance ms => do
    stage.toastHost.advance ms
    return .nothing

def perform : Step → Act World Reply
  | .host step => performHost step
  | .dispatch step => stage.performDispatch step
  | .part step => stage.performPart step
  | .registry step => stage.performRegistry step
  | .subscription step => performSubscription step
  | .setting step => stage.performSetting step
  | .toast step => stage.performToast step

end Stage

/-- A round of listeners, subscribers or timers may go on for so long. -/
def longestRound : Nat := 1000000

/-- A step on a host where steps may be nested so many deep. -/
def perform : Nat → Step → Act World Reply :=
  Act.nesting fun perform => Stage.perform ⟨perform, longestRound⟩

end KeyPrecedence.Script
