import KeyPrecedence.Dispatch.Dispatcher
import KeyPrecedence.Proofs.Ends

/-!
# What everybody else keeps, a dispatch keeps

* `Toolkit.Keeps`, `Dispatcher.OthersKeep`: a condition on the host's state lasts through all that a
  dispatcher calls, apart from the focus source and the commands themselves;
* `Holder.keeps_continues`: it lasts through the end of a keystroke, where a fact about the armed
  command is at hand as the command runs;
* `keeps_dispatchFree`: if arming keeps it too, so does the dispatch of an event nobody absorbs.
-/

namespace KeyPrecedence

open Act

variable {σ κ α β : Type} {inv : σ → Prop}

/-- A step that keeps a condition and whose values are good. -/
def Act.Gives (inv : σ → Prop) (good : α → Prop) (act : Act σ α) : Prop :=
  ∀ state, inv state → act.Ends state fun result reached =>
    inv reached ∧ ∀ value, result = .ok value → good value

theorem Act.Gives.bind {good : α → Prop} {act : Act σ α} {next : α → Act σ β}
    (h : act.Gives inv good) (hn : ∀ value, good value → Keeps inv (next value)) :
    Keeps inv (act >>= next) := fun state hs =>
  (h state hs).bind (fun value reached hr => hn value (hr.2 value rfl) reached hr.1)
    fun _ _ hr => hr.1

theorem Act.Gives.of_map {good : β → Prop} {act : Act σ α} {f : α → β} (h : Keeps inv act)
    (hf : ∀ value, good (f value)) : (f <$> act).Gives inv good := fun state hs =>
  (h state hs).bind (fun value reached hr => ⟨hr, by rintro _ ⟨⟩; exact hf value⟩)
    fun _ _ hr => ⟨hr, by rintro _ ⟨⟩⟩

theorem Act.Gives.keeps {good : α → Prop} {act : Act σ α} (h : act.Gives inv good) : Keeps inv act :=
  fun state hs => (h state hs).mono fun _ _ hr => hr.1

theorem Act.gives_pure {good : α → Prop} {value : α} (h : good value) :
    (pure value : Act σ α).Gives inv good := fun _ hs => ⟨hs, by rintro _ ⟨⟩; exact h⟩

theorem Act.gives_bind {good : β → Prop} {act : Act σ α} {next : α → Act σ β} (h : Keeps inv act)
    (hn : ∀ value, (next value).Gives inv good) : (act >>= next).Gives inv good := fun state hs =>
  (h state hs).bind (fun value reached hr => hn value reached hr) fun _ _ hr => ⟨hr, nofun⟩

def KeyListener.Keeps (inv : σ → Prop) (listener : KeyListener (Act σ)) : Prop :=
  ∀ phase handle event, listener.handler phase = some handle → Act.Keeps inv (handle event)

def Binding.Keeps (inv : σ → Prop) (binding : Binding (Act σ)) : Prop :=
  (∀ widget, Act.Keeps inv (binding.accept widget)) ∧ Act.Keeps inv binding.isEnabled

/-- A condition lasts through every question to the toolkit, and through what the answers lead
to. -/
structure Toolkit.Keeps (inv : σ → Prop) (toolkit : Toolkit (Act σ)) : Prop where
  rootOf : ∀ widget, (toolkit.rootOf widget).Gives inv fun root =>
    ∀ isBusy, root = some isBusy → Act.Keeps inv isBusy
  isKeyCapture : ∀ widget, Act.Keeps inv (toolkit.isKeyCapture widget)
  isTextEditor : ∀ widget, Act.Keeps inv (toolkit.isTextEditor widget)
  ancestorIsEditing : ∀ widget, Act.Keeps inv (toolkit.ancestorIsEditing widget)
  isEnabled : ∀ widget, Act.Keeps inv (toolkit.isEnabled widget)
  listenersOf : ∀ widget, (toolkit.listenersOf widget).Gives inv fun listenerAt =>
    ∀ position, (listenerAt position).Gives inv fun found =>
      ∀ listener, found = some listener → listener.Keeps inv
  bindingOf : ∀ widget keystroke, (toolkit.bindingOf widget keystroke).Gives inv fun found =>
    ∀ binding, found = some binding → binding.Keeps inv

/-- The listeners are called one after another, and each keeps the condition. -/
theorem Toolkit.keeps_callListeners {listenerAt : Nat → Act σ (Option (KeyListener (Act σ)))}
    (h : ∀ position, (listenerAt position).Gives inv fun found =>
      ∀ listener, found = some listener → listener.Keeps inv) (event : KeyEvent) :
    ∀ allowance position,
      Act.Keeps inv (Toolkit.callListeners listenerAt event allowance position)
  | 0, _ => keeps_exhausted
  | allowance + 1, position => by
    refine (h position).bind ?_
    rintro (_ | listener) hl
    · exact keeps_pure _
    dsimp only
    cases hh : listener.handler event.phase with
    | none => exact keeps_callListeners h event allowance (position + 1)
    | some handle =>
      exact keeps_bind (hl listener rfl _ handle event hh) fun _ =>
        keeps_callListeners h event allowance (position + 1)

namespace Toolkit.Keeps

variable {toolkit : Toolkit (Act σ)} (keeps : toolkit.Keeps inv)

include keeps

theorem isBlocked {log : Notice → Act σ Unit} (hl : ∀ notice, Act.Keeps inv (log notice))
    (event : KeyEvent) : Act.Keeps inv (toolkit.isBlocked log event) := by
  unfold Toolkit.isBlocked
  cases event.source with
  | none => exact keeps_pure _
  | some source =>
    refine (keeps.rootOf source).bind ?_
    rintro (_ | isBusy) hb
    · exact keeps_bind (hl _) fun _ => keeps_pure _
    · refine keeps_bind (hb isBusy rfl) ?_
      rintro (_ | _)
      · exact keeps_pure _
      · exact keeps_bind (hl _) fun _ => keeps_pure _

theorem hasBinding (widget : Widget) (keystroke : Keystroke) :
    Act.Keeps inv (toolkit.hasBinding widget keystroke) :=
  (keeps.bindingOf widget keystroke).bind fun _ _ => keeps_pure _

theorem hasUsableBinding (widget : Widget) (keystroke : Keystroke) :
    Act.Keeps inv (toolkit.hasUsableBinding widget keystroke) := by
  unfold Toolkit.hasUsableBinding
  refine keeps_bind (keeps.isEnabled widget) ?_
  rintro (_ | _)
  · exact keeps_pure _
  refine (keeps.bindingOf widget keystroke).bind ?_
  rintro (_ | binding) hb
  · exact keeps_pure _
  refine keeps_bind ((hb binding rfl).1 widget) ?_
  rintro (_ | _)
  · exact keeps_pure _
  · exact (hb binding rfl).2

theorem goesToText (event : KeyEvent) (widget : Widget) (keystroke : Keystroke) :
    Act.Keeps inv (toolkit.goesToText event widget keystroke) := by
  unfold Toolkit.goesToText
  refine keeps_bind (keeps.isTextEditor widget) ?_
  rintro (_ | _)
  · exact keeps_pure _
  simp only [if_true]
  split
  · exact keeps.ancestorIsEditing widget
  split
  · exact keeps.hasBinding widget keystroke
  · exact keeps_pure _

theorem offerToListeners (consumed : KeyEvent → Slot σ Bool) (allowance : Nat) (widget : Widget)
    (event : KeyEvent) : Act.Keeps inv (toolkit.offerToListeners consumed allowance widget event) :=
  (keeps.listenersOf widget).bind fun _ hl =>
    keeps_bind (keeps_callListeners hl event allowance 0) fun _ => Slot.keeps_read

end Toolkit.Keeps

/-- A condition lasts through all that a dispatcher calls, apart from its focus source and the
commands it runs. -/
structure Dispatcher.OthersKeep (inv : σ → Prop) (dispatcher : Dispatcher σ κ) : Prop where
  toolkit : dispatcher.toolkit.Keeps inv
  commandFor : ∀ keystroke window, Act.Keeps inv (dispatcher.commandFor keystroke window)
  menu : ∀ processes event, dispatcher.menu = some processes → Act.Keeps inv (processes event)
  decide : ∀ callback context, Act.Keeps inv (dispatcher.calls.decide callback context)
  report : ∀ callback context, Act.Keeps inv (dispatcher.calls.report callback context)
  toast : ∀ name id, Act.Keeps inv (dispatcher.calls.toast name id)
  consumed : ∀ event value state, inv state → inv ((dispatcher.consumed event).set value state)
  log : ∀ notice, Act.Keeps inv (dispatcher.log notice)

namespace Dispatcher.OthersKeep

variable {dispatcher : Dispatcher σ κ} (keep : dispatcher.OthersKeep inv)

include keep

theorem isBlocked (event : KeyEvent) :
    Act.Keeps inv (dispatcher.toolkit.isBlocked dispatcher.log event) :=
  keep.toolkit.isBlocked keep.log event

theorem drivesMenu (event : KeyEvent) : Act.Keeps inv (dispatcher.drivesMenu event) := by
  unfold Dispatcher.drivesMenu
  cases h : dispatcher.menu with
  | none => exact keeps_pure _
  | some processes => exact keep.menu processes event h

theorem isRecording (destination : Option Widget) :
    Act.Keeps inv (dispatcher.isRecording destination) := by
  cases destination with
  | none => exact keeps_pure _
  | some widget => exact keep.toolkit.isKeyCapture widget

theorem takenBefore (event : KeyEvent) (destination focusOwner : Option Widget)
    (keystroke : Keystroke) :
    Act.Keeps inv (dispatcher.takenBefore event destination focusOwner keystroke) := by
  have owned : Act.Keeps inv (dispatcher.takenBefore event none focusOwner keystroke) := by
    cases focusOwner with
    | none => exact keeps_pure _
    | some widget =>
      refine keeps_bind (keep.toolkit.offerToListeners _ _ widget event) ?_
      rintro (_ | _)
      · refine keeps_bind (keep.toolkit.hasUsableBinding widget keystroke) ?_
        rintro (_ | _)
        · exact keeps_pure _
        · exact keeps_bind (keep.log _) fun _ => keeps_pure _
      · exact keeps_bind (keep.log _) fun _ => keeps_pure _
  cases destination with
  | none => exact owned
  | some widget =>
    refine keeps_bind (keep.toolkit.goesToText event widget keystroke) ?_
    rintro (_ | _)
    · exact owned
    · exact keeps_bind (keep.log _) fun _ => keeps_pure _

theorem ask (predicate : Option κ) (bound : Bound κ) :
    Act.Keeps inv (bound.ask dispatcher.calls predicate) := by
  cases predicate with
  | none => exact keeps_pure _
  | some callback => exact keep.decide callback bound.context

theorem giveFeedback (bound : Bound κ) : Act.Keeps inv (bound.giveFeedback dispatcher.calls) := by
  unfold Bound.giveFeedback
  cases bound.command.feedback with
  | toast => exact keep.toast _ _
  | silent => exact keeps_pure _
  | custom callback => exact keep.report callback bound.context

theorem dispatchCommand {bound : Bound κ} {event : KeyEvent} {destination : Option Widget}
    (keystroke : Keystroke) (award : Act.Keeps inv (dispatcher.award bound event destination)) :
    Act.Keeps inv (dispatcher.dispatchCommand bound event destination keystroke) := by
  unfold Dispatcher.dispatchCommand
  refine keeps_bind (keep.ask _ bound) ?_
  rintro (_ | _)
  · exact keeps_pure _
  refine keeps_bind (keep.ask _ bound) ?_
  rintro (_ | _)
  · exact keeps_bind (keep.log _) fun _ => keeps_bind (keep.giveFeedback bound) fun _ => keeps_pure _
  dsimp only
  cases bound.command.precedence with
  | tier tier => exact keeps_bind award fun _ => keeps_bind (keep.log _) fun _ => keeps_pure _
  | unknown name => exact keeps_bind (keep.log _) fun _ => keeps_fail _

theorem dispatchFound {bound : Bound κ} {event : KeyEvent} {destination : Option Widget}
    (keystroke : Keystroke) (award : Act.Keeps inv (dispatcher.award bound event destination)) :
    Act.Keeps inv (dispatcher.dispatchFound bound event destination keystroke) := by
  unfold Dispatcher.dispatchFound
  refine keeps_bind (keep.isRecording destination) fun recording => ?_
  split
  · cases recording with
    | true => exact keeps_pure _
    | false => exact keeps_bind award fun _ => keeps_bind (keep.log _) fun _ => keeps_pure _
  refine keeps_bind (keep.takenBefore _ _ _ _) ?_
  rintro (_ | handled)
  · exact keep.dispatchCommand keystroke award
  · exact keeps_pure _

theorem award (bound : Bound κ) (event : KeyEvent) (destination : Option Widget)
    (arms : ∀ armed state, inv state → inv (dispatcher.armed.set (some armed) state)) :
    Act.Keeps inv (dispatcher.award bound event destination) := by
  have arm : Act.Keeps inv (dispatcher.holder.arm bound destination) := by
    apply keeps_bind Slot.keeps_read
    rintro (_ | armed)
    · apply keeps_bind (Slot.keeps_write (arms _))
      intro _
      exact keeps_bind (keep.log _) fun _ => keeps_pure _
    · exact keeps_bind (keep.log _) fun _ => keeps_pure _
  exact keeps_bind arm fun _ => Slot.keeps_write (keep.consumed event true)

theorem keeps_dispatchFree (owner : Act.Keeps inv dispatcher.focus.owner)
    (window : Act.Keeps inv dispatcher.focus.window)
    (arms : ∀ armed state, inv state → inv (dispatcher.armed.set (some armed) state))
    (event : KeyEvent) (destination : Option Widget) :
    Act.Keeps inv (dispatcher.dispatchFree event destination) := by
  apply keeps_bind (keep.drivesMenu event)
  rintro (_ | _)
  case true => exact keeps_pure _
  apply keeps_bind window
  rintro (_ | window)
  · exact keeps_pure _
  dsimp only
  split
  · exact keeps_pure _
  apply keeps_bind (keep.commandFor _ window)
  rintro (_ | command)
  · exact keeps_pure _
  apply keeps_bind owner
  intro owner
  exact keep.dispatchFound _ (keep.award _ event destination arms)

end Dispatcher.OthersKeep

/-- A command that is let go of runs at once, so what is due for it then is what was known while it
was armed. -/
theorem Holder.keeps_continues {ρ : Type} {holder : Holder σ ρ} (due : ρ → σ → Prop)
    (lets : ∀ armed state, inv state → holder.armed.get state = some armed →
      inv (holder.armed.set none state) ∧ due armed.command (holder.armed.set none state))
    (log : ∀ notice command, Keeps (fun state => inv state ∧ due command state) (holder.log notice))
    (told : ∀ notice, Keeps inv (holder.log notice))
    (execute : ∀ command state, inv state → due command state →
      (holder.execute command).Ends state fun _ reached => inv reached)
    (event : KeyEvent) (destination : Option Widget) :
    Keeps inv (holder.continues event destination) := by
  intro state h
  apply Slot.ends_read_bind.mpr
  cases found : holder.armed.get state with
  | none => exact h
  | some armed =>
    obtain ⟨freed, ready⟩ := lets armed state h found
    dsimp only
    cases armed.verdict event.phase destination with
    | absorb => exact h
    | forfeit => exact keeps_bind (told _) (fun _ => keeps_pure false) _ freed
    | execute =>
      apply Slot.ends_write_bind.mpr
      apply (log _ armed.command _ ⟨freed, ready⟩).bind _ fun _ _ hr => hr.1
      rintro _ informed ⟨hi, hd⟩
      have executed : (holder.execute armed.command).attempt.Ends informed fun _ reached =>
          inv reached := ends_attempt.mpr (execute armed.command informed hi hd)
      apply executed.bind _ fun _ _ hr => hr
      rintro (fault | _) reached hr
      · exact keeps_bind (told _) (fun _ => keeps_fail fault) reached hr
      · exact hr

end KeyPrecedence
