import KeyPrecedence.Dispatch.Dispatcher
import KeyPrecedence.Proofs.Alike

/-!
# Dispatchers that are asked and answered alike

* `Toolkit.Alike`, `Dispatcher.Alike`: two dispatchers on two hosts, all of whose parts end alike;
* `Dispatcher.Treats`, `Dispatcher.Akin`: two dispatchers of commands of two kinds, which they treat
  alike;
* `Dispatcher.Akin.dispatch`, `Dispatcher.Alike.dispatch`: then every dispatch ends alike.
-/

namespace KeyPrecedence

open Act

variable {σ σ' κ : Type} {states : σ → σ' → Prop}

def KeyListener.Alike (states : σ → σ' → Prop) (listener : KeyListener (Act σ))
    (other : KeyListener (Act σ')) : Prop :=
  ∀ phase, Option.Rel
    (fun handle handle' => ∀ event, Act.Alike states Eq (handle event) (handle' event))
    (listener.handler phase) (other.handler phase)

structure Binding.Alike (states : σ → σ' → Prop) (binding : Binding (Act σ))
    (other : Binding (Act σ')) : Prop where
  accept : ∀ widget, Act.Alike states Eq (binding.accept widget) (other.accept widget)
  isEnabled : Act.Alike states Eq binding.isEnabled other.isEnabled

/-- Every question to the toolkit ends alike, and so does what the answers lead to. -/
structure Toolkit.Alike (states : σ → σ' → Prop) (toolkit : Toolkit (Act σ))
    (other : Toolkit (Act σ')) : Prop where
  rootOf : ∀ widget, Act.Alike states (Option.Rel (Act.Alike states Eq))
    (toolkit.rootOf widget) (other.rootOf widget)
  isKeyCapture : ∀ widget,
    Act.Alike states Eq (toolkit.isKeyCapture widget) (other.isKeyCapture widget)
  isTextEditor : ∀ widget,
    Act.Alike states Eq (toolkit.isTextEditor widget) (other.isTextEditor widget)
  ancestorIsEditing : ∀ widget,
    Act.Alike states Eq (toolkit.ancestorIsEditing widget) (other.ancestorIsEditing widget)
  isEnabled : ∀ widget, Act.Alike states Eq (toolkit.isEnabled widget) (other.isEnabled widget)
  listenersOf : ∀ widget, Act.Alike states
    (fun listenerAt listenerAt' => ∀ position, Act.Alike states
      (Option.Rel (KeyListener.Alike states)) (listenerAt position) (listenerAt' position))
    (toolkit.listenersOf widget) (other.listenersOf widget)
  bindingOf : ∀ widget keystroke, Act.Alike states (Option.Rel (Binding.Alike states))
    (toolkit.bindingOf widget keystroke) (other.bindingOf widget keystroke)

structure Callbacks.Alike (states : σ → σ' → Prop) (calls : Callbacks (Act σ) κ)
    (other : Callbacks (Act σ') κ) : Prop where
  decide : ∀ callback context,
    Act.Alike states Eq (calls.decide callback context) (other.decide callback context)
  run : ∀ callback context,
    Act.Alike states Eq (calls.run callback context) (other.run callback context)
  report : ∀ callback context,
    Act.Alike states Eq (calls.report callback context) (other.report callback context)
  toast : ∀ name id, Act.Alike states Eq (calls.toast name id) (other.toast name id)

structure Dispatcher.Alike (states : σ → σ' → Prop) (dispatcher : Dispatcher σ κ)
    (other : Dispatcher σ' κ) : Prop where
  platform : dispatcher.platform = other.platform
  allowance : dispatcher.allowance = other.allowance
  toolkit : dispatcher.toolkit.Alike states other.toolkit
  owner : Act.Alike states Eq dispatcher.focus.owner other.focus.owner
  window : Act.Alike states Eq dispatcher.focus.window other.focus.window
  commandFor : ∀ keystroke window,
    Act.Alike states Eq (dispatcher.commandFor keystroke window) (other.commandFor keystroke window)
  menu : Option.Rel
    (fun processes processes' => ∀ event, Act.Alike states Eq (processes event) (processes' event))
    dispatcher.menu other.menu
  calls : dispatcher.calls.Alike states other.calls
  consumed : ∀ event, (dispatcher.consumed event).Alike states (other.consumed event)
  armed : dispatcher.armed.Alike states other.armed
  log : ∀ notice, Act.Alike states Eq (dispatcher.log notice) (other.log notice)

/-! ## Where an event is headed -/

section
variable {toolkit : Toolkit (Act σ)} {toolkit' : Toolkit (Act σ')}

/-- The gate asks for the layer of the source, and nothing else. -/
theorem Toolkit.alike_isBlocked
    (rootOf : ∀ widget, Act.Alike states (Option.Rel (Act.Alike states Eq))
      (toolkit.rootOf widget) (toolkit'.rootOf widget))
    {log : Notice → Act σ Unit} {log' : Notice → Act σ' Unit}
    (hl : ∀ notice, Act.Alike states Eq (log notice) (log' notice)) (event : KeyEvent) :
    Act.Alike states Eq (toolkit.isBlocked log event) (toolkit'.isBlocked log' event) := by
  unfold Toolkit.isBlocked
  cases event.source with
  | none => exact alike_pure rfl
  | some source =>
    refine alike_bind (rootOf source) ?_
    rintro _ _ (hb | _)
    · refine alike_bind_eq hb ?_
      rintro (_ | _)
      · exact alike_pure rfl
      · exact alike_bind_eq (hl _) fun _ => alike_pure rfl
    · exact alike_bind_eq (hl _) fun _ => alike_pure rfl

theorem Dispatcher.alike_arrival {κ' : Type} {dispatcher : Dispatcher σ κ} {other : Dispatcher σ' κ'}
    (rootOf : ∀ widget, Act.Alike states (Option.Rel (Act.Alike states Eq))
      (dispatcher.toolkit.rootOf widget) (other.toolkit.rootOf widget))
    (owner : Act.Alike states Eq dispatcher.focus.owner other.focus.owner)
    (log : ∀ notice, Act.Alike states Eq (dispatcher.log notice) (other.log notice))
    (event : KeyEvent) :
    Act.Alike states Eq (dispatcher.arrival event) (other.arrival event) := by
  have headed : Act.Alike states Eq (dispatcher.destinationOf event) (other.destinationOf event) := by
    unfold Dispatcher.destinationOf
    cases event.source with
    | none => exact owner
    | some source => exact alike_pure rfl
  refine alike_bind_eq (Toolkit.alike_isBlocked rootOf log event) ?_
  rintro (_ | _)
  · exact alike_bind_eq headed fun _ => alike_pure rfl
  · exact alike_pure rfl

end

/-! ## Who takes the event before any command -/

/-- A text editor is asked what it is, and whether it has a binding, but never called. -/
theorem Toolkit.alike_goesToText {toolkit : Toolkit (Act σ)} {toolkit' : Toolkit (Act σ')}
    (isTextEditor : ∀ widget,
      Act.Alike states Eq (toolkit.isTextEditor widget) (toolkit'.isTextEditor widget))
    (ancestorIsEditing : ∀ widget,
      Act.Alike states Eq (toolkit.ancestorIsEditing widget) (toolkit'.ancestorIsEditing widget))
    (hasBinding : ∀ widget keystroke, Act.Alike states Eq (toolkit.hasBinding widget keystroke)
      (toolkit'.hasBinding widget keystroke))
    (event : KeyEvent) (widget : Widget) (keystroke : Keystroke) :
    Act.Alike states Eq (toolkit.goesToText event widget keystroke)
      (toolkit'.goesToText event widget keystroke) := by
  apply alike_bind_eq (isTextEditor widget)
  rintro (_ | _)
  · exact alike_pure rfl
  simp only [if_true]
  split
  · exact ancestorIsEditing widget
  split
  · exact hasBinding widget keystroke
  · exact alike_pure rfl

/-- The listeners are called one after another, and each ends alike. -/
theorem Toolkit.alike_callListeners {listenerAt : Nat → Act σ (Option (KeyListener (Act σ)))}
    {listenerAt' : Nat → Act σ' (Option (KeyListener (Act σ')))}
    (h : ∀ position, Act.Alike states (Option.Rel (KeyListener.Alike states)) (listenerAt position)
      (listenerAt' position)) (event : KeyEvent) :
    ∀ allowance position, Act.Alike states Eq
      (Toolkit.callListeners listenerAt event allowance position)
      (Toolkit.callListeners listenerAt' event allowance position)
  | 0, _ => alike_exhausted
  | allowance + 1, position => by
    have rest := alike_callListeners h event allowance (position + 1)
    refine alike_bind (h position) ?_
    rintro _ _ (hl | _)
    · rename_i listener other
      have handled := hl event.phase
      dsimp only
      generalize listener.handler event.phase = one at handled ⊢
      generalize other.handler event.phase = two at handled ⊢
      cases handled with
      | none => exact rest
      | some handled => exact alike_bind_eq (handled event) fun _ => rest
    · exact alike_pure rfl

namespace Toolkit.Alike

variable {toolkit : Toolkit (Act σ)} {other : Toolkit (Act σ')}
  (alike : toolkit.Alike states other)

include alike

theorem hasBinding (widget : Widget) (keystroke : Keystroke) :
    Act.Alike states Eq (toolkit.hasBinding widget keystroke) (other.hasBinding widget keystroke) := by
  refine alike_bind (alike.bindingOf widget keystroke) ?_
  rintro _ _ (_ | _) <;> exact alike_pure rfl

theorem hasUsableBinding (widget : Widget) (keystroke : Keystroke) :
    Act.Alike states Eq (toolkit.hasUsableBinding widget keystroke)
      (other.hasUsableBinding widget keystroke) := by
  refine alike_bind_eq (alike.isEnabled widget) ?_
  rintro (_ | _)
  · exact alike_pure rfl
  refine alike_bind (alike.bindingOf widget keystroke) ?_
  rintro _ _ (hb | _)
  · refine alike_bind_eq (hb.accept widget) ?_
    rintro (_ | _)
    · exact alike_pure rfl
    · exact hb.isEnabled
  · exact alike_pure rfl

theorem goesToText (event : KeyEvent) (widget : Widget) (keystroke : Keystroke) :
    Act.Alike states Eq (toolkit.goesToText event widget keystroke)
      (other.goesToText event widget keystroke) :=
  alike_goesToText alike.isTextEditor alike.ancestorIsEditing alike.hasBinding event widget keystroke

theorem offerToListeners {consumed : KeyEvent → Slot σ Bool} {consumed' : KeyEvent → Slot σ' Bool}
    (hc : ∀ event, (consumed event).Alike states (consumed' event)) (allowance : Nat)
    (widget : Widget) (event : KeyEvent) :
    Act.Alike states Eq (toolkit.offerToListeners consumed allowance widget event)
      (other.offerToListeners consumed' allowance widget event) := by
  refine alike_bind (alike.listenersOf widget) ?_
  intro listenerAt listenerAt' hl
  exact alike_bind_eq (alike_callListeners hl event allowance 0) fun _ => (hc event).read

end Toolkit.Alike

/-! ## Commands -/

namespace Callbacks.Alike

variable {calls : Callbacks (Act σ) κ} {other : Callbacks (Act σ') κ}
  (alike : calls.Alike states other) (bound : Bound κ)

include alike

theorem ask (predicate : Option κ) :
    Act.Alike states Eq (bound.ask calls predicate) (bound.ask other predicate) := by
  cases predicate with
  | none => exact alike_pure rfl
  | some callback => exact alike.decide callback bound.context

theorem giveFeedback :
    Act.Alike states Eq (bound.giveFeedback calls) (bound.giveFeedback other) := by
  unfold Bound.giveFeedback
  cases bound.command.feedback with
  | toast => exact alike.toast _ _
  | silent => exact alike_pure rfl
  | custom callback => exact alike.report callback bound.context

end Callbacks.Alike

/-! ## The armed command -/

section
variable {ρ ρ' : Type} {kin : ρ → ρ' → Prop}

structure Armed.Akin (kin : ρ → ρ' → Prop) (armed : Armed ρ) (other : Armed ρ') : Prop where
  command : kin armed.command other.command
  target : armed.target = other.target

/-- Holders of commands that correspond. -/
structure Holder.Akin (states : σ → σ' → Prop) (kin : ρ → ρ' → Prop) (holder : Holder σ ρ)
    (other : Holder σ' ρ') : Prop where
  armed : holder.armed.Akin states (Option.Rel (Armed.Akin kin)) other.armed
  commandId : ∀ command command', kin command command' →
    holder.commandId command = other.commandId command'
  execute : ∀ command command', kin command command' →
    Act.Alike states Eq (holder.execute command) (other.execute command')
  log : ∀ notice, Act.Alike states Eq (holder.log notice) (other.log notice)

namespace Holder.Akin

variable {holder : Holder σ ρ} {other : Holder σ' ρ'} (akin : holder.Akin states kin other)

include akin

theorem continues (event : KeyEvent) (destination : Option Widget) :
    Act.Alike states Eq (holder.continues event destination) (other.continues event destination) := by
  apply alike_bind akin.armed.read
  rintro _ _ (same | _)
  case none => exact alike_pure rfl
  rename_i armed armed'
  have verdict : armed'.verdict event.phase destination = armed.verdict event.phase destination := by
    rw [Armed.verdict, Armed.verdict, same.target]
  dsimp only
  rw [verdict, akin.commandId _ _ same.command]
  have written := akin.armed.write Option.Rel.none
  cases armed.verdict event.phase destination with
  | absorb => exact alike_pure rfl
  | forfeit =>
    exact alike_bind_eq written fun _ => alike_bind_eq (akin.log _) fun _ => alike_pure rfl
  | execute =>
    apply alike_bind_eq written fun _ => alike_bind_eq (akin.log _) fun _ => ?_
    apply alike_bind_eq (alike_attempt (akin.execute _ _ same.command))
    rintro (fault | _)
    · exact alike_bind_eq (akin.log _) fun _ => alike_fail fault
    · exact alike_pure rfl

theorem arm {command : ρ} {command' : ρ'} (h : kin command command') (target : Option Widget) :
    Act.Alike states Eq (holder.arm command target) (other.arm command' target) := by
  apply alike_bind akin.armed.read
  rintro _ _ (same | _)
  · dsimp only
    rw [akin.commandId _ _ h, akin.commandId _ _ same.command]
    exact alike_bind_eq (akin.log _) fun _ => alike_pure rfl
  · dsimp only
    rw [akin.commandId _ _ h]
    exact alike_bind_eq (akin.armed.write (.some ⟨h, rfl⟩)) fun _ =>
      alike_bind_eq (akin.log _) fun _ => alike_pure rfl

theorem reset : Act.Alike states Eq holder.reset other.reset := akin.armed.write .none

end Holder.Akin
end

/-! ## Dispatchers -/

structure Bound.Akin {κ' : Type} (kin : Command κ → Command κ' → Prop) (bound : Bound κ)
    (other : Bound κ') : Prop where
  command : kin bound.command other.command
  context : bound.context = other.context

/-- Two dispatchers do the same with two commands. The precedences are equal or of lower tiers, and
arming the commands there is logged alike. -/
structure Dispatcher.Treats {κ' : Type} (states : σ → σ' → Prop) (dispatcher : Dispatcher σ κ)
    (other : Dispatcher σ' κ') (command : Command κ) (command' : Command κ') : Prop where
  id : command.id = command'.id
  precedence : command.precedence = command'.precedence ∨
    ∃ tier ≠ .system, ∃ tier' ≠ .system,
      command.precedence = .tier tier ∧ command'.precedence = .tier tier' ∧
      ∀ shortcut, Act.Alike states Eq (dispatcher.log (.armedAt shortcut command.id tier))
        (other.log (.armedAt shortcut command'.id tier'))
  valid : ∀ context, Act.Alike states Eq (Bound.isValid dispatcher.calls ⟨command, context⟩)
    (Bound.isValid other.calls ⟨command', context⟩)
  enabled : ∀ context, Act.Alike states Eq (Bound.isEnabled dispatcher.calls ⟨command, context⟩)
    (Bound.isEnabled other.calls ⟨command', context⟩)
  execute : ∀ context, Act.Alike states Eq (Bound.execute dispatcher.calls ⟨command, context⟩)
    (Bound.execute other.calls ⟨command', context⟩)
  feedback : ∀ context, Act.Alike states Eq (Bound.giveFeedback dispatcher.calls ⟨command, context⟩)
    (Bound.giveFeedback other.calls ⟨command', context⟩)

/-- Two dispatchers that are asked and answered alike, for commands that correspond and are treated
alike. -/
structure Dispatcher.Akin {κ' : Type} (states : σ → σ' → Prop) (kin : Command κ → Command κ' → Prop)
    (dispatcher : Dispatcher σ κ) (other : Dispatcher σ' κ') : Prop where
  platform : dispatcher.platform = other.platform
  allowance : dispatcher.allowance = other.allowance
  toolkit : dispatcher.toolkit.Alike states other.toolkit
  owner : Act.Alike states Eq dispatcher.focus.owner other.focus.owner
  window : Act.Alike states Eq dispatcher.focus.window other.focus.window
  commandFor : ∀ keystroke window, Act.Alike states (Option.Rel kin)
    (dispatcher.commandFor keystroke window) (other.commandFor keystroke window)
  menu : Option.Rel
    (fun processes processes' => ∀ event, Act.Alike states Eq (processes event) (processes' event))
    dispatcher.menu other.menu
  treats : ∀ command command', kin command command' →
    dispatcher.Treats states other command command'
  consumed : ∀ event, (dispatcher.consumed event).Alike states (other.consumed event)
  armed : dispatcher.armed.Akin states (Option.Rel (Armed.Akin (Bound.Akin kin))) other.armed
  log : ∀ notice, Act.Alike states Eq (dispatcher.log notice) (other.log notice)

namespace Dispatcher.Akin

variable {κ' : Type} {kin : Command κ → Command κ' → Prop} {dispatcher : Dispatcher σ κ}
  {other : Dispatcher σ' κ'} (akin : dispatcher.Akin states kin other)

include akin

theorem holder : dispatcher.holder.Akin states (Bound.Akin kin) other.holder where
  armed := akin.armed
  commandId _ _ same := (akin.treats _ _ same.command).id
  execute := by
    rintro ⟨command, context⟩ ⟨command', _⟩ ⟨same, rfl⟩
    exact (akin.treats _ _ same).execute context
  log := akin.log

theorem drivesMenu (event : KeyEvent) :
    Act.Alike states Eq (dispatcher.drivesMenu event) (other.drivesMenu event) := by
  unfold Dispatcher.drivesMenu
  have menus := akin.menu
  generalize dispatcher.menu = one at menus ⊢
  generalize other.menu = two at menus ⊢
  cases menus with
  | none => exact alike_pure rfl
  | some processes => exact processes event

theorem isRecording (destination : Option Widget) :
    Act.Alike states Eq (dispatcher.isRecording destination) (other.isRecording destination) := by
  cases destination with
  | none => exact alike_pure rfl
  | some widget => exact akin.toolkit.isKeyCapture widget

theorem award {bound : Bound κ} {bound' : Bound κ'} (same : bound.Akin kin bound') (event : KeyEvent)
    (destination : Option Widget) :
    Act.Alike states Eq (dispatcher.award bound event destination)
      (other.award bound' event destination) :=
  alike_bind_eq (akin.holder.arm same destination) fun _ => (akin.consumed event).write true

theorem offerToListeners (widget : Widget) (event : KeyEvent) :
    Act.Alike states Eq (dispatcher.offerToListeners widget event)
      (other.offerToListeners widget event) := by
  unfold Dispatcher.offerToListeners
  rw [akin.allowance]
  exact akin.toolkit.offerToListeners akin.consumed _ widget event

theorem takenBefore (event : KeyEvent) (destination focusOwner : Option Widget)
    (keystroke : Keystroke) :
    Act.Alike states Eq (dispatcher.takenBefore event destination focusOwner keystroke)
      (other.takenBefore event destination focusOwner keystroke) := by
  have log (notice : Notice) (handled : Option Bool) : Act.Alike states Eq
      (do dispatcher.log notice; return handled) (do other.log notice; return handled) :=
    alike_bind_eq (akin.log notice) fun _ => alike_pure rfl
  have owned : Act.Alike states Eq (dispatcher.takenBefore event none focusOwner keystroke)
      (other.takenBefore event none focusOwner keystroke) := by
    cases focusOwner with
    | none => exact alike_pure rfl
    | some widget =>
      refine alike_bind_eq (akin.offerToListeners widget event) ?_
      rintro (_ | _)
      case true => exact log _ _
      refine alike_bind_eq (akin.toolkit.hasUsableBinding widget keystroke) ?_
      rintro (_ | _)
      · exact alike_pure rfl
      · exact log _ _
  cases destination with
  | none => exact owned
  | some widget =>
    refine alike_bind_eq (akin.toolkit.goesToText event widget keystroke) ?_
    rintro (_ | _)
    · exact owned
    · exact log _ _

theorem dispatchCommand {bound : Bound κ} {bound' : Bound κ'} (same : bound.Akin kin bound')
    (event : KeyEvent) (destination : Option Widget) (keystroke : Keystroke) :
    Act.Alike states Eq (dispatcher.dispatchCommand bound event destination keystroke)
      (other.dispatchCommand bound' event destination keystroke) := by
  have awarded := akin.award same event destination
  obtain ⟨command, context⟩ := bound
  obtain ⟨command', _⟩ := bound'
  obtain ⟨kin, rfl⟩ := same
  have treats := akin.treats _ _ kin
  unfold Dispatcher.dispatchCommand
  apply alike_bind_eq (treats.valid context)
  rintro (_ | _)
  · exact alike_pure rfl
  apply alike_bind_eq (treats.enabled context)
  rintro (_ | _)
  · dsimp only
    rw [treats.id]
    exact alike_bind_eq (akin.log _) fun _ =>
      alike_bind_eq (treats.feedback context) fun _ => alike_pure rfl
  dsimp only
  rcases treats.precedence with equal | ⟨tier, -, tier', -, one, two, logged⟩
  · rw [treats.id, equal]
    cases command'.precedence with
    | tier tier =>
      exact alike_bind_eq awarded fun _ => alike_bind_eq (akin.log _) fun _ => alike_pure rfl
    | unknown name => exact alike_bind_eq (akin.log _) fun _ => alike_fail _
  · rw [one, two]
    exact alike_bind_eq awarded fun _ => alike_bind_eq (logged _) fun _ => alike_pure rfl

theorem dispatchFound {bound : Bound κ} {bound' : Bound κ'} (same : bound.Akin kin bound')
    (event : KeyEvent) (destination : Option Widget) (keystroke : Keystroke) :
    Act.Alike states Eq (dispatcher.dispatchFound bound event destination keystroke)
      (other.dispatchFound bound' event destination keystroke) := by
  have treats := akin.treats _ _ same.command
  have system : bound.command.precedence = .tier .system ↔
      bound'.command.precedence = .tier .system := by
    rcases treats.precedence with equal | ⟨tier, lower, tier', lower', one, two, -⟩
    · rw [equal]
    · simp [one, two, lower, lower']
  apply alike_bind_eq (akin.isRecording destination)
  intro recording
  simp only [system]
  split
  · cases recording with
    | true => exact alike_pure rfl
    | false =>
      rw [treats.id]
      exact alike_bind_eq (akin.award same event destination) fun _ =>
        alike_bind_eq (akin.log _) fun _ => alike_pure rfl
  rw [same.context]
  apply alike_bind_eq (akin.takenBefore _ _ _ _)
  rintro (_ | handled)
  · exact akin.dispatchCommand same event destination keystroke
  · exact alike_pure rfl

theorem dispatchFree (event : KeyEvent) (destination : Option Widget) :
    Act.Alike states Eq (dispatcher.dispatchFree event destination)
      (other.dispatchFree event destination) := by
  unfold Dispatcher.dispatchFree
  apply alike_bind_eq (akin.drivesMenu event)
  rintro (_ | _)
  case true => exact alike_pure rfl
  apply alike_bind_eq akin.window
  rintro (_ | window)
  · exact alike_pure rfl
  dsimp only
  split
  · exact alike_pure rfl
  rw [akin.platform]
  apply alike_bind (akin.commandFor _ window)
  rintro _ _ (same | _)
  · exact alike_bind_eq akin.owner fun owner => akin.dispatchFound ⟨same, rfl⟩ event destination _
  · exact alike_pure rfl

/-- From hosts that correspond, the two dispatchers handle an event alike. -/
theorem dispatch (event : KeyEvent) :
    Act.Alike states Eq (dispatcher.dispatch event) (other.dispatch event) := by
  apply alike_bind_eq (alike_arrival akin.toolkit.rootOf akin.owner akin.log event)
  rintro (_ | destination)
  · exact alike_pure rfl
  apply alike_bind_eq (akin.holder.continues event destination)
  rintro (_ | _)
  · exact akin.dispatchFree event destination
  · exact alike_pure rfl

end Dispatcher.Akin

/-! ## Dispatchers of the same commands -/

/-- Armed commands correspond to themselves only, where commands do. -/
theorem Armed.rel_eq_iff {armed other : Option (Armed (Bound κ))} :
    Option.Rel (Armed.Akin (Bound.Akin Eq)) armed other ↔ armed = other := by
  constructor
  · rintro (same | _)
    · rename_i one two
      obtain ⟨⟨command, context⟩, target⟩ := one
      obtain ⟨⟨command', context'⟩, target'⟩ := two
      obtain ⟨⟨rfl, rfl⟩, rfl⟩ := same
      rfl
    · rfl
  · rintro rfl
    exact rel_self (fun _ => ⟨⟨rfl, rfl⟩, rfl⟩) armed

namespace Dispatcher.Alike

variable {dispatcher : Dispatcher σ κ} {other : Dispatcher σ' κ}
  (alike : dispatcher.Alike states other)

include alike

theorem akin : dispatcher.Akin states Eq other where
  platform := alike.platform
  allowance := alike.allowance
  toolkit := alike.toolkit
  owner := alike.owner
  window := alike.window
  commandFor keystroke window := by
    apply alike_mono (alike.commandFor keystroke window)
    rintro found _ rfl
    exact rel_self (fun _ => rfl) found
  menu := alike.menu
  treats := by
    rintro command _ rfl
    exact
      { id := rfl
        precedence := .inl rfl
        valid := fun context => alike.calls.ask ⟨command, context⟩ _
        enabled := fun context => alike.calls.ask ⟨command, context⟩ _
        execute := fun context => alike.calls.run _ context
        feedback := fun context => alike.calls.giveFeedback ⟨command, context⟩ }
  consumed := alike.consumed
  armed :=
    { get := fun state state' hs => Armed.rel_eq_iff.2 (alike.armed.get state state' hs)
      set := by
        intro value value' same
        rw [← Armed.rel_eq_iff.1 same]
        exact alike.armed.set value }
  log := alike.log

theorem continues (event : KeyEvent) (destination : Option Widget) :
    Act.Alike states Eq (dispatcher.holder.continues event destination)
      (other.holder.continues event destination) :=
  alike.akin.holder.continues event destination

theorem dispatchFree (event : KeyEvent) (destination : Option Widget) :
    Act.Alike states Eq (dispatcher.dispatchFree event destination)
      (other.dispatchFree event destination) :=
  alike.akin.dispatchFree event destination

theorem dispatch (event : KeyEvent) :
    Act.Alike states Eq (dispatcher.dispatch event) (other.dispatch event) :=
  alike.akin.dispatch event

end Dispatcher.Alike
end KeyPrecedence
