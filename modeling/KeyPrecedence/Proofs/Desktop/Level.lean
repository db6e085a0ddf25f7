import KeyPrecedence.Proofs.Command.Level
import KeyPrecedence.Proofs.Desktop.Scene
import KeyPrecedence.Proofs.Dispatch.Alike
import KeyPrecedence.Proofs.Toast.Alike

/-!
# The arbitrated tiers are interchangeable

* `DesktopOp.Level`, `DesktopCode.Level`, `DesktopSurroundings.Level`: operations, code and hosts
  that are the same, but for the arbitrated tiers of the commands they register or look at;
* `Desktop.Level`: two hosts on which the same has been noticed, and commands differ in their
  arbitrated tier only;
* `DesktopSurroundings.Level.operate`: each operation keeps them so;
* `arbitrated_tiers_interchangeable`: so does any run;
* `DesktopCode.level_byScopes`: finding commands by scopes is such code.
-/

namespace KeyPrecedence

open Act

variable {τ κ ν δ α α' : Type}

/-- The same operation, or the same command registered at another of the arbitrated tiers. -/
inductive DesktopOp.Level : DesktopOp κ ν δ → DesktopOp κ ν δ → Prop
  | same (operation : DesktopOp κ ν δ) : Level operation operation
  | register {definition definition' : Definition κ} (level : definition.Level definition') :
    Level (.register definition) (.register definition')

/-- The same answer, but for the arbitrated tiers of the commands in it. -/
inductive DesktopAnswer.Level : DesktopAnswer κ → DesktopAnswer κ → Prop
  | same (answer : DesktopAnswer κ) : Level answer answer
  | armed {armed armed' : Option (Armed (Bound κ))}
    (level : Option.Rel (Armed.Akin (Bound.Akin Command.Level)) armed armed') :
    Level (.armed armed) (.armed armed')
  | registry {answer answer' : RegistryAnswer κ} (level : answer.levelled = answer'.levelled) :
    Level (.registry answer) (.registry answer')
  | found {command command' : Option (Command κ)}
    (level : Option.Rel Command.Level command command') : Level (.found command) (.found command')

/-- Code that does the same, but for the arbitrated tiers of the commands it registers, and does not
act on those of the commands it is told of. -/
abbrev DesktopCode.Level (values : α → α' → Prop) :
    DesktopCode τ κ ν δ α → DesktopCode τ κ ν δ α' → Prop :=
  Routine.Akin DesktopOp.Level DesktopAnswer.Level values

def KeyListener.Level (listener other : KeyListener (DesktopCode τ κ ν δ)) : Prop :=
  ∀ phase, Option.Rel
    (fun handle handle' => ∀ event, DesktopCode.Level Eq (handle event) (handle' event))
    (listener.handler phase) (other.handler phase)

structure Binding.Level (binding other : Binding (DesktopCode τ κ ν δ)) : Prop where
  accept : ∀ widget, DesktopCode.Level Eq (binding.accept widget) (other.accept widget)
  isEnabled : DesktopCode.Level Eq binding.isEnabled other.isEnabled

structure Toolkit.Level (toolkit other : Toolkit (DesktopCode τ κ ν δ)) : Prop where
  rootOf : ∀ widget, DesktopCode.Level (Option.Rel (DesktopCode.Level Eq))
    (toolkit.rootOf widget) (other.rootOf widget)
  isKeyCapture : ∀ widget,
    DesktopCode.Level Eq (toolkit.isKeyCapture widget) (other.isKeyCapture widget)
  isTextEditor : ∀ widget,
    DesktopCode.Level Eq (toolkit.isTextEditor widget) (other.isTextEditor widget)
  ancestorIsEditing : ∀ widget,
    DesktopCode.Level Eq (toolkit.ancestorIsEditing widget) (other.ancestorIsEditing widget)
  isEnabled : ∀ widget, DesktopCode.Level Eq (toolkit.isEnabled widget) (other.isEnabled widget)
  listenersOf : ∀ widget, DesktopCode.Level
    (fun listenerAt listenerAt' => ∀ position,
      DesktopCode.Level (Option.Rel KeyListener.Level) (listenerAt position) (listenerAt' position))
    (toolkit.listenersOf widget) (other.listenersOf widget)
  bindingOf : ∀ widget keystroke, DesktopCode.Level (Option.Rel Binding.Level)
    (toolkit.bindingOf widget keystroke) (other.bindingOf widget keystroke)

/-- All that is called on two hosts does the same, but for the arbitrated tiers. -/
structure DesktopSurroundings.Level (around other : DesktopSurroundings τ κ ν δ) : Prop where
  platform : around.platform = other.platform
  toolkit : around.toolkit.Level other.toolkit
  owner : ∀ dispatcher,
    DesktopCode.Level Eq (around.focus dispatcher).owner (other.focus dispatcher).owner
  window : ∀ dispatcher,
    DesktopCode.Level Eq (around.focus dispatcher).window (other.focus dispatcher).window
  commandFor : ∀ dispatcher keystroke window, DesktopCode.Level (Option.Rel Command.Level)
    (around.commandFor dispatcher keystroke window) (other.commandFor dispatcher keystroke window)
  menu : ∀ dispatcher, Option.Rel
    (fun processes processes' => ∀ event,
      DesktopCode.Level Eq (processes event) (processes' event))
    (around.menu dispatcher) (other.menu dispatcher)
  decide : ∀ callback context,
    DesktopCode.Level Eq (around.decide callback context) (other.decide callback context)
  run : ∀ callback context,
    DesktopCode.Level Eq (around.run callback context) (other.run callback context)
  report : ∀ callback context,
    DesktopCode.Level Eq (around.report callback context) (other.report callback context)
  told : ∀ member id, DesktopCode.Level Eq (around.told member id) (other.told member id)
  shown : ∀ member toasts,
    DesktopCode.Level Eq (around.shown member toasts) (other.shown member toasts)
  freshToastId : DesktopCode.Level Eq around.freshToastId other.freshToastId
  timerFailed : ∀ fault, DesktopCode.Level Eq (around.timerFailed fault) (other.timerFailed fault)
  consumed : around.consumed = other.consumed
  settings : around.settings = other.settings
  allowance : around.allowance = other.allowance

/-- The same has been noticed, all is the same, and the commands differ in their arbitrated tiers at
most, as do the records in naming them. -/
structure Desktop.Level (desktop other : Desktop τ κ ν δ) : Prop where
  host : desktop.host = other.host
  registry : desktop.registry.Level other.registry
  members : desktop.members = other.members
  board : desktop.board = other.board
  listeners : desktop.listeners = other.listeners
  armed : ∀ dispatcher, Option.Rel (Armed.Akin (Bound.Akin Command.Level))
    (desktop.armed dispatcher) (other.armed dispatcher)
  journal : desktop.journal = other.journal
  records : desktop.records.map Notice.levelled = other.records.map Notice.levelled

/-! ## The parts of a host -/

namespace Desktop

variable {desktop other : Desktop τ κ ν δ}

namespace Level

variable (level : desktop.Level other)

include level

theorem note (happening : Happening κ ν δ) : (desktop.note happening).Level (other.note happening) :=
  { level with journal := congrArg (· ++ [happening]) level.journal }

theorem log {notice notice' : Notice} (same : notice.Level notice') :
    (desktop.log notice).Level (other.log notice') :=
  { level with
    records := by
      simp only [Desktop.log, List.map_append, level.records, List.map_cons, List.map_nil]
      rw [show notice.levelled = notice'.levelled from same] }

/-- What is armed has the same id and the same target. -/
theorem held : desktop.held = other.held := by
  funext dispatcher
  have armed := level.armed dispatcher
  unfold Desktop.held
  generalize desktop.armed dispatcher = one at armed ⊢
  generalize other.armed dispatcher = two at armed ⊢
  cases armed with
  | none => rfl
  | some same =>
    obtain ⟨precedence, -, commands⟩ := Command.level_iff.mp same.command.command
    simp only [Option.map_some, same.target, commands]

theorem look : desktop.look.Level other.look := by
  unfold Desktop.look
  rw [level.held, level.board]
  exact level.note _

end Level

theorem alike_note (happening : Happening κ ν δ) :
    Act.Alike Level Eq (modify (note happening) : Act (Desktop τ κ ν δ) PUnit)
      (modify (note happening)) :=
  alike_modify fun _ _ level => level.note happening

theorem alike_log {notice notice' : Notice} (same : notice.Level notice') :
    Act.Alike Level Eq (modify (log notice) : Act (Desktop τ κ ν δ) PUnit) (modify (log notice')) :=
  alike_modify fun _ _ level => level.log same

theorem alike_hostSlot : (hostSlot : Slot (Desktop τ κ ν δ) τ).Alike Level hostSlot where
  get _ _ level := level.host
  set _ _ _ level := { level with host := rfl }

theorem alike_part (slot : Slot τ α) :
    (part slot : Slot (Desktop τ κ ν δ) α).Alike Level (part slot) where
  get _ _ level := congrArg slot.get level.host
  set value _ _ level := { level with host := congrArg (slot.set value) level.host }

theorem akin_registrySlot :
    (registrySlot : Slot (Desktop τ κ ν δ) (Registry κ)).Akin Level Registry.Level registrySlot where
  get _ _ level := level.registry
  set _ _ registries _ _ level := { level with registry := registries }

theorem alike_membersSlot :
    (membersSlot : Slot (Desktop τ κ ν δ) (Subscribers ν)).Alike Level membersSlot where
  get _ _ level := level.members
  set _ _ _ level := { level with members := rfl }

theorem alike_boardSlot : (boardSlot : Slot (Desktop τ κ ν δ) ToastBoard).Alike Level boardSlot where
  get _ _ level := level.board
  set _ _ _ level := { level with board := rfl }

theorem alike_listenersSlot :
    (listenersSlot : Slot (Desktop τ κ ν δ) (Subscribers ν)).Alike Level listenersSlot where
  get _ _ level := level.listeners
  set _ _ _ level := { level with listeners := rfl }

theorem akin_armedSlot [DecidableEq δ] (dispatcher : δ) :
    (armedSlot dispatcher : Slot (Desktop τ κ ν δ) (Option (Armed (Bound κ)))).Akin Level
      (Option.Rel (Armed.Akin (Bound.Akin Command.Level))) (armedSlot dispatcher) where
  get _ _ level := level.armed dispatcher
  set armed armed' same desktop other level :=
    { level with
      armed := by
        intro number
        simp only [armedSlot]
        split
        · exact same
        · exact level.armed number }

end Desktop

/-! ## Toolkits -/

section
variable {σ σ' : Type} {states : σ → σ' → Prop} {note : Call κ → Act σ Unit}
  {note' : Call κ → Act σ' Unit}

/-- The calls of toolkits that end alike are noted alike. -/
theorem Toolkit.Alike.noted {toolkit : Toolkit (Act σ)} {other : Toolkit (Act σ')}
    (alike : toolkit.Alike states other)
    (noted : ∀ call, Act.Alike states Eq (note call) (note' call)) :
    (toolkit.noted note).Alike states (other.noted note') :=
  { alike with
    listenersOf := fun widget => alike_map (alike.listenersOf widget) fun _ _ same position =>
      alike_map (same position) fun _ _ found => rel_map (fun _ _ listeners phase =>
        rel_map (fun _ _ handles event => alike_bind_eq (noted _) fun _ => handles event)
          (listeners phase)) found
    bindingOf := fun widget keystroke => alike_map (alike.bindingOf widget keystroke) fun _ _ found =>
      rel_map (fun _ _ bindings =>
        { accept := fun asked => alike_bind_eq (noted _) fun _ => bindings.accept asked
          isEnabled := alike_bind_eq (noted _) fun _ => bindings.isEnabled }) found }

end

/-! ## Operations -/

section
variable {nested nested' : DesktopOp κ ν δ → Act (Desktop τ κ ν δ) (DesktopAnswer κ)}

/-- Operations that correspond end alike on hosts that do. -/
def DesktopOp.EndAlike (nested nested' : DesktopOp κ ν δ → Act (Desktop τ κ ν δ) (DesktopAnswer κ)) :
    Prop :=
  ∀ operation operation', DesktopOp.Level operation operation' →
    Act.Alike Desktop.Level DesktopAnswer.Level (nested operation) (nested' operation')

/-- Code that is told alike goes on alike. -/
theorem DesktopOp.EndAlike.run (inner : DesktopOp.EndAlike nested nested') {values : α → α' → Prop}
    {code : DesktopCode τ κ ν δ α} {code' : DesktopCode τ κ ν δ α'}
    (level : DesktopCode.Level values code code') :
    Act.Alike Desktop.Level values (code.within nested) (code'.within nested') :=
  Routine.alike_run Desktop.alike_hostSlot inner level

/-- What is noted and then done. -/
theorem DesktopOp.EndAlike.noted (inner : DesktopOp.EndAlike nested nested') {values : α → α' → Prop}
    {code : DesktopCode τ κ ν δ α} {code' : DesktopCode τ κ ν δ α'} (happening : Happening κ ν δ)
    (level : DesktopCode.Level values code code') : Act.Alike Desktop.Level values
      (do modify (Desktop.note happening); DesktopCode.within nested code)
      (do modify (Desktop.note happening); DesktopCode.within nested' code') :=
  alike_bind_eq (Desktop.alike_note happening) fun _ => inner.run level

theorem Toolkit.Level.alike_map (inner : DesktopOp.EndAlike nested nested')
    {toolkit other : Toolkit (DesktopCode τ κ ν δ)} (level : toolkit.Level other) :
    (toolkit.map (DesktopCode.within nested)).Alike Desktop.Level
      (other.map (DesktopCode.within nested')) where
  rootOf widget := Act.alike_map (inner.run (level.rootOf widget)) fun _ _ same =>
    rel_map (fun _ _ asked => inner.run asked) same
  isKeyCapture widget := inner.run (level.isKeyCapture widget)
  isTextEditor widget := inner.run (level.isTextEditor widget)
  ancestorIsEditing widget := inner.run (level.ancestorIsEditing widget)
  isEnabled widget := inner.run (level.isEnabled widget)
  listenersOf widget := Act.alike_map (inner.run (level.listenersOf widget)) fun _ _ same position =>
    Act.alike_map (inner.run (same position)) fun _ _ found =>
      rel_map (fun _ _ listeners phase => rel_map (fun _ _ handles event => inner.run (handles event))
        (listeners phase)) found
  bindingOf widget keystroke :=
    Act.alike_map (inner.run (level.bindingOf widget keystroke)) fun _ _ found =>
      rel_map (fun _ _ bindings =>
        ⟨fun asked => inner.run (bindings.accept asked), inner.run bindings.isEnabled⟩) found

namespace DesktopSurroundings.Level

variable {around other : DesktopSurroundings τ κ ν δ} (level : around.Level other)
  (inner : DesktopOp.EndAlike nested nested')

include level inner

theorem registryHost :
    (around.registryHost nested).Level Desktop.Level (other.registryHost nested') where
  registry := Desktop.akin_registrySlot
  subscribers := Desktop.alike_membersSlot
  call member id := inner.noted _ (level.told member id)
  log _ _ same := Desktop.alike_log same
  allowance := level.allowance

theorem toasts : (around.toasts nested).Alike Desktop.Level (other.toasts nested') where
  board := Desktop.alike_boardSlot
  subscribers := Desktop.alike_listenersSlot
  call member toasts := inner.noted _ (level.shown member toasts)
  freshId := inner.run level.freshToastId
  timerFailed fault := inner.noted _ (level.timerFailed fault)
  allowance := level.allowance

variable [DecidableEq ν]

theorem calls (dispatcher : δ) :
    (around.calls nested dispatcher).Alike Desktop.Level (other.calls nested' dispatcher) where
  decide callback context := inner.noted _ (level.decide callback context)
  run callback context := inner.noted _ (level.run callback context)
  report callback context := inner.noted _ (level.report callback context)
  toast name id := by
    apply alike_bind_eq (Desktop.alike_note _)
    intro _
    rw [level.settings]
    exact (level.toasts inner).showNotEnabled (Desktop.alike_part _) name id

variable [DecidableEq δ]

/-- A dispatcher treats commands on a level alike. -/
theorem treats (dispatcher : δ) {command command' : Command κ} (same : command.Level command') :
    (around.dispatcher nested dispatcher).Treats Desktop.Level (other.dispatcher nested' dispatcher)
      command command' := by
  have calls := level.calls inner dispatcher
  obtain ⟨precedence, precedences, rfl⟩ := Command.level_iff.mp same
  exact
    { id := rfl
      precedence := by
        rcases Precedence.levelled_eq_iff.mp precedences with
          equal | ⟨tier, lower, tier', lower', one, two⟩
        · exact .inl equal
        · refine .inr ⟨tier, lower, tier', lower', one, two, fun shortcut => Desktop.alike_log ?_⟩
          have tiers := Tier.levelled_eq_iff.mpr (.inr ⟨lower, lower'⟩)
          exact congrArg (Notice.armedAt shortcut command.id) tiers
      valid := fun context => calls.ask ⟨command, context⟩ command.valid
      enabled := fun context => calls.ask ⟨command, context⟩ command.enabled
      execute := fun context => calls.run command.execute context
      feedback := fun context => calls.giveFeedback ⟨command, context⟩ }

/-- A dispatcher is asked and answered alike on both hosts. -/
theorem dispatcher (dispatcher : δ) :
    (around.dispatcher nested dispatcher).Akin Desktop.Level Command.Level
      (other.dispatcher nested' dispatcher) where
  platform := congrFun level.platform dispatcher
  allowance := level.allowance
  toolkit := (level.toolkit.alike_map inner).noted fun _ => Desktop.alike_note _
  owner := inner.run (level.owner dispatcher)
  window := inner.run (level.window dispatcher)
  commandFor keystroke window := inner.noted _ (level.commandFor dispatcher keystroke window)
  menu := rel_map (fun _ _ processes event => inner.noted _ (processes event))
    (level.menu dispatcher)
  treats _ _ same := level.treats inner dispatcher same
  consumed event := by
    simp only [DesktopSurroundings.dispatcher]
    rw [level.consumed]
    exact Desktop.alike_part _
  armed := Desktop.akin_armedSlot dispatcher
  log _ := Desktop.alike_log rfl

/-- An operation, performed where callbacks perform theirs alike. -/
theorem operate : DesktopOp.EndAlike (around.operate nested) (other.operate nested') := by
  have registry := level.registryHost inner
  intro operation operation' asked
  cases asked with
  | register registered =>
    exact alike_bind (registry.register registered) fun _ _ commands =>
      alike_pure (.registry (congrArg RegistryAnswer.command commands))
  | same => ?_
  cases operation with
  | dispatch dispatcher event =>
    apply alike_bind_eq (alike_attempt ((level.dispatcher inner dispatcher).dispatch event))
    intro result
    have consumed := (level.dispatcher inner dispatcher).consumed event
    apply alike_bind_eq consumed.read
    intro consumed
    apply alike_bind_eq (Desktop.alike_note _)
    intro _
    cases result with
    | ok handled => exact alike_pure (.same _)
    | error fault => exact alike_fail fault
  | reset dispatcher =>
    exact alike_bind_eq (level.dispatcher inner dispatcher).holder.reset fun _ => alike_pure (.same _)
  | armed dispatcher =>
    exact alike_bind (Desktop.akin_armedSlot dispatcher).read fun _ _ same => alike_pure (.armed same)
  | register definition =>
    exact alike_bind (registry.register rfl) fun _ _ commands =>
      alike_pure (.registry (congrArg RegistryAnswer.command commands))
  | unregister id => exact alike_bind_eq (registry.unregister id) fun _ => alike_pure (.same _)
  | edit edit => exact alike_bind_eq (registry.edit edit) fun _ => alike_pure (.same _)
  | ask query =>
    exact alike_bind Desktop.akin_registrySlot.read fun _ _ registries =>
      alike_pure (.registry (registries.answer query))
  | resolve table fallback keystroke window =>
    exact alike_bind (registry.commandFor table fallback keystroke window) fun _ _ commands =>
      alike_pure (.found commands)
  | conflictsFor table shortcut scope exclude =>
    exact alike_bind Desktop.akin_registrySlot.read fun _ _ registries =>
      alike_pure (.registry
        (congrArg RegistryAnswer.commands (registries.conflictsFor table shortcut scope exclude)))
  | hasConflicts table id =>
    apply alike_bind Desktop.akin_registrySlot.read
    intro registry registry' registries
    rw [registries.hasConflicts]
    exact alike_pure (.same _)
  | conflicts table =>
    apply alike_bind Desktop.akin_registrySlot.read
    intro registry registry' registries
    rw [registries.conflicts]
    exact alike_pure (.same _)
  | subscribe member =>
    exact alike_bind_eq (Desktop.alike_membersSlot.update _) fun _ => alike_pure (.same _)
  | unsubscribe member =>
    exact alike_bind_eq (Desktop.alike_membersSlot.update _) fun _ => alike_pure (.same _)
  | toast operation =>
    exact alike_bind_eq ((level.toasts inner).perform operation) fun _ => alike_pure (.same _)

end DesktopSurroundings.Level
end

/-! ## Whole runs -/

section
variable [DecidableEq ν] [DecidableEq δ] {around other : DesktopSurroundings τ κ ν δ}

/-- However deep operations are nested, they end alike. -/
theorem DesktopSurroundings.Level.perform (level : around.Level other) :
    ∀ depth, DesktopOp.EndAlike (around.perform depth) (other.perform depth)
  | 0, _, _, _ => alike_exhausted
  | depth + 1, operation, operation', asked =>
    alike_followedBy (level.operate (perform level depth) operation operation' asked)
      (alike_modify fun _ _ same => same.look)

/-- Let two hosts be the same but for the precedence of commands, which may be another one of the
tiers below the system's, in the commands they start with and in those that are registered as they
run; and let nobody act on which of these tiers a command has. Whatever happens on them then, also
within callbacks: every operation gives the same, the same calls are made in the same order, every
dispatch has the same result or fault and leaves the same events consumed, the same commands are
armed for the same targets after each operation, and the same toasts are shown. Only the precedence
of the commands themselves differs, and the tiers named in what is logged. -/
theorem arbitrated_tiers_interchangeable (level : around.Level other) {values : α → α' → Prop}
    {code : DesktopCode τ κ ν δ α} {code' : DesktopCode τ κ ν δ α'}
    (same : DesktopCode.Level values code code') (depth : Nat) {desktop desktop' : Desktop τ κ ν δ}
    (begun : desktop.Level desktop') :
    Outcome.Alike Desktop.Level values ((around.play depth code).run desktop)
      ((other.play depth code').run desktop') :=
  (level.perform depth).run same desktop desktop' begun

end

/-! ## A host that finds its commands by scopes -/

/-- A command by the scopes of the active window. -/
def DesktopCode.byScopes (table : ScopeTable) (fallback : String) (keystroke : Keystroke)
    (window : Window) : DesktopCode τ κ ν δ (Option (Command κ)) :=
  .perform (.resolve table fallback keystroke window) fun
    | .ok (.found command) => .done command
    | .ok _ => .done none
    | .error fault => .failed fault

/-- Finding a command does not act on its tier. -/
theorem DesktopCode.level_byScopes (table : ScopeTable) (fallback : String) (keystroke : Keystroke)
    (window : Window) : DesktopCode.Level (τ := τ) (κ := κ) (ν := ν) (δ := δ)
      (Option.Rel Command.Level) (byScopes table fallback keystroke window)
      (byScopes table fallback keystroke window) := by
  apply Routine.Akin.perform (.same _)
  intro result result' results
  cases results with
  | error fault => exact .failed fault
  | ok answers =>
    cases answers with
    | found level => exact .done level
    | armed level => exact .done .none
    | registry level => exact .done .none
    | same =>
      rename_i answer
      cases answer with
      | found command => exact .done (rel_self Command.Level.refl command)
      | nothing | truth | armed | registry | conflicts | toast => exact .done .none

namespace Retiered

def command (id : String) (shortcuts : List String) (tier : Tier) : Definition Unit where
  id := id
  name := id
  execute := ()
  precedence := some (.tier tier)
  shortcuts := some shortcuts

/-- A window with nothing in it. Commands are found by scopes, and running one registers another
one, of a tier that is given. -/
def around (tier : Tier) : DesktopSurroundings Bool Unit Unit Unit where
  platform _ := .other
  toolkit :=
    { rootOf := fun _ => .done none
      isKeyCapture := fun _ => .done false
      isTextEditor := fun _ => .done false
      ancestorIsEditing := fun _ => .done false
      isEnabled := fun _ => .done false
      listenersOf := fun _ => .done fun _ => .done none
      bindingOf := fun _ _ => .done none }
  focus _ := { owner := .done none, window := .done (some (.free "main" "Main window")) }
  commandFor _ := DesktopCode.byScopes .default ScopeTable.appScope
  menu _ := none
  decide _ _ := .done true
  run _ _ := .perform (.register (command "next" [] tier)) fun _ => .done ()
  report _ _ := .done ()
  told _ _ := .done ()
  shown _ _ := .done ()
  freshToastId := .done "toast"
  timerFailed _ := .done ()
  consumed _ := ⟨fun consumed => consumed, fun consumed _ => consumed⟩
  settings := ⟨fun _ => {}, fun _ consumed => consumed⟩
  allowance := 5

/-- A command of a tier is registered, and its key pressed and released. -/
def stroke (tier : Tier) : DesktopCode Bool Unit Unit Unit Unit :=
  Routine.inTurn [
    .register (command "save" ["F2"] tier),
    .dispatch () ⟨⟨"F2", {}⟩, .pressed, none, 0⟩,
    .dispatch () ⟨⟨"F2", {}⟩, .released, none, 1⟩]

section
variable {tier tier' : Tier} (same : tier.levelled = tier'.levelled)

include same

theorem level_command (id : String) (shortcuts : List String) :
    (command id shortcuts tier).Level (command id shortcuts tier') := by
  simp [Definition.Level, Definition.levelled, command, Precedence.levelled, same]

theorem level_around : (around tier).Level (around tier') where
  platform := rfl
  toolkit :=
    { rootOf := fun _ => .done .none
      isKeyCapture := fun _ => .done rfl
      isTextEditor := fun _ => .done rfl
      ancestorIsEditing := fun _ => .done rfl
      isEnabled := fun _ => .done rfl
      listenersOf := fun _ => .done fun _ => .done .none
      bindingOf := fun _ _ => .done .none }
  owner _ := .done rfl
  window _ := .done rfl
  commandFor _ := DesktopCode.level_byScopes _ _
  menu _ := .none
  decide _ _ := .done rfl
  run _ _ := .perform (.register (level_command same _ _)) fun _ _ _ => .done rfl
  report _ _ := .done rfl
  told _ _ := .done rfl
  shown _ _ := .done rfl
  freshToastId := .done rfl
  timerFailed _ := .done rfl
  consumed := rfl
  settings := rfl
  allowance := rfl

theorem level_stroke : DesktopCode.Level Eq (stroke tier) (stroke tier') := by
  have registered : DesktopOp.Level (ν := Unit) (δ := Unit) (.register (command "save" ["F2"] tier))
      (.register (command "save" ["F2"] tier')) := .register (level_command same _ _)
  have others (operation : DesktopOp Unit Unit Unit) : DesktopOp.Level operation operation :=
    .same operation
  exact .perform registered fun _ _ _ =>
    .perform (others _) fun _ _ _ => .perform (others _) fun _ _ _ => .done rfl

end

/-- The command of a listener's tier and that of a tool's are armed and run alike, and both register
another one. -/
theorem stroke_alike :
    (around .localListener).Level (around .toolDefault) ∧
    DesktopCode.Level Eq (stroke .localBinding) (stroke .localListener) ∧
    Desktop.Level ({ host := false } : Desktop Bool Unit Unit Unit) { host := false } ∧
    Outcome.Alike Desktop.Level Eq
      (((around .localListener).play 3 (stroke .localBinding)).run { host := false })
      (((around .toolDefault).play 3 (stroke .localListener)).run { host := false }) ∧
    (match ((around .localListener).play 3 (stroke .localBinding)).run { host := false } with
      | .done () desktop => desktop.registry.commands.map fun command =>
          (command.id, command.precedence.name)
      | _ => []) = [("save", "localBinding"), ("next", "localListener")] := by
  have level : (around .localListener).Level (around .toolDefault) := level_around rfl
  have same : DesktopCode.Level Eq (stroke .localBinding) (stroke .localListener) := level_stroke rfl
  have begun : Desktop.Level ({ host := false } : Desktop Bool Unit Unit Unit) { host := false } :=
    ⟨rfl, rfl, rfl, rfl, rfl, fun _ => .none, rfl, rfl⟩
  exact ⟨level, same, begun, arbitrated_tiers_interchangeable level same 3 begun, by decide +kernel⟩

end Retiered
end KeyPrecedence
