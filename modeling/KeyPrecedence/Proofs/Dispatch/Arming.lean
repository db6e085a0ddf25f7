import KeyPrecedence.Proofs.Dispatch.Annotated
import KeyPrecedence.Proofs.Dispatch.Ruling
import KeyPrecedence.Proofs.Dispatch.SystemTier

/-!
# Exactly when a command is armed

* `Situation`: the answers of a host that stays as it is while an event is dispatched;
* `Situation.Arms`: the conditions under which a command is armed there;
* `Dispatcher.Faces`: a dispatcher that gets these answers;
* `arms_iff`: dispatching an event arms a command exactly under these conditions.
-/

namespace KeyPrecedence

open Act

variable {σ κ : Type}

/-- Whether a binding accepts its widget, and whether it is enabled. -/
structure Usability where
  accepts : Bool
  enabled : Bool

/-- What a host answers about an event. -/
structure Situation (κ : Type) where
  /-- Whether a busy overlay covers the window of a widget; `none` once the widget was removed. -/
  overlay : Widget → Option Bool
  owner : Option Widget
  window : Option Window
  menuTakes : Bool
  commandFor : Keystroke → Window → Option (Command κ)
  isKeyCapture : Widget → Bool
  isTextEditor : Widget → Bool
  ancestorIsEditing : Widget → Bool
  isEnabled : Widget → Bool
  /-- For each listener of a widget whether it consumes the event. -/
  consumes : Widget → List Bool
  binding : Widget → Keystroke → Option Usability
  decides : κ → Context → Bool

namespace Situation

variable (situation : Situation κ)

def destination (event : KeyEvent) : Option Widget := event.source.or situation.owner

/-- The source was removed, or a busy overlay covers its window. -/
def blocks (event : KeyEvent) : Bool :=
  event.source.any fun source => situation.overlay source != some false

/-- Whether a text editor claims the key: Escape if an ancestor is editing, and any other key if no
modifier but Shift is held or the editor has a binding for the keystroke, usable or not. -/
def claimsKey (event : KeyEvent) (keystroke : Keystroke) (widget : Widget) : Bool :=
  situation.isTextEditor widget &&
    if event.input.key = "Escape" then situation.ancestorIsEditing widget
    else !event.input.isModified || (situation.binding widget keystroke).isSome

/-- Whether a binding of the widget would run right now. -/
def hasUsableBinding (widget : Widget) (keystroke : Keystroke) : Bool :=
  situation.isEnabled widget &&
    (situation.binding widget keystroke).any fun usability => usability.accepts && usability.enabled

def allows (predicate : Option κ) (context : Context) : Bool :=
  predicate.all fun callback => situation.decides callback context

/-- Nobody takes the event before a command of one of the lower tiers: no text editor it is headed
for, and neither a listener nor a binding of what has the focus. -/
structure Spares (event : KeyEvent) (keystroke : Keystroke) : Prop where
  text : ∀ widget, situation.destination event = some widget →
    situation.claimsKey event keystroke widget = false
  listeners : ∀ widget, situation.owner = some widget →
    ∀ consumes ∈ situation.consumes widget, consumes = false
  bindings : ∀ widget, situation.owner = some widget →
    situation.hasUsableBinding widget keystroke = false

theorem spares_iff (event : KeyEvent) (keystroke : Keystroke) :
    situation.Spares event keystroke ↔
      (situation.destination event).any (situation.claimsKey event keystroke) = false ∧
      situation.owner.any (fun widget => (situation.consumes widget).any id ||
        situation.hasUsableBinding widget keystroke) = false := by
  constructor
  · intro spares
    refine ⟨by simpa [Option.any_eq_false] using spares.text, ?_⟩
    simp only [Option.any_eq_false]
    intro widget focused
    have unheard := spares.listeners widget focused
    have unbound := spares.bindings widget focused
    simpa [unbound] using unheard
  · rintro ⟨text, focus⟩
    simp only [Option.any_eq_false, Bool.or_eq_false_iff] at text focus
    refine ⟨by simpa using text, ?_, ?_⟩
    · intro widget focused
      simpa using (focus widget focused).1
    · intro widget focused
      exact (focus widget focused).2

/-- A system command wins unless the destination records keys. A command of another tier wins what
is spared, if it is valid and enabled. -/
def Wins (event : KeyEvent) (keystroke : Keystroke) (bound : Bound κ) : Prop :=
  (bound.command.precedence = .tier .system ∧
    ∀ widget, situation.destination event = some widget → situation.isKeyCapture widget = false) ∨
  ((∃ tier ≠ .system, bound.command.precedence = .tier tier) ∧
    situation.Spares event keystroke ∧
    situation.allows bound.command.valid bound.context = true ∧
    situation.allows bound.command.enabled bound.context = true)

/-- What is armed is the command found for the keystroke in the active window, in the context of
this moment and for the event's destination, provided that the event gets as far and the command
wins. -/
structure Arms (platform : Platform) (event : KeyEvent) (armed : Armed (Bound κ)) : Prop where
  unblocked : situation.blocks event = false
  declined : situation.menuTakes = false
  plain : event.input.isModifierKey = false
  found : ∃ window, situation.window = some window ∧
    situation.commandFor (platform.keystroke event.input event.phase) window =
      some armed.command.command ∧
    armed.command.context = ⟨situation.owner, some window⟩
  target : armed.target = situation.destination event
  wins : situation.Wins event (platform.keystroke event.input event.phase) armed.command

end Situation

/-- A listener that consumes the event in its phase, or does not, and changes nothing else. `states`
are the states of the host before and after the event is consumed. -/
def KeyListener.Hears (listener : KeyListener (Act σ)) (event : KeyEvent) (states : Bool → σ → Prop)
    (consumes : Bool) : Prop :=
  match listener.handler event.phase with
  | none => consumes = false
  | some handle => ∀ consumed state, states consumed state →
      ∃ reached, (handle event).run state = .done () reached ∧ states (consumed || consumes) reached

/-- The listeners are called one after another; one that consumes the event is enough. -/
theorem Toolkit.run_callListeners {listenerAt : Nat → Act σ (Option (KeyListener (Act σ)))}
    {event : KeyEvent} {states : Bool → σ → Prop} {listeners : List Bool}
    (heard : ∀ position consumed, (listenerAt position).Answers (states consumed) fun found =>
      Option.Rel (fun listener consumes => listener.Hears event states consumes)
        found listeners[position]?)
    (allowance position : Nat) (within : position ≤ listeners.length)
    (room : listeners.length < allowance + position) {consumed : Bool} {state : σ}
    (h : states consumed state) :
    ∃ reached, (callListeners listenerAt event allowance position).run state = .done () reached ∧
      states (consumed || (listeners.drop position).any id) reached := by
  induction allowance generalizing position consumed state with
  | zero => omega
  | succ allowance ih =>
    obtain ⟨found, asked, ha, same, hr⟩ := (heard position consumed).run_bind h _
    unfold callListeners
    rw [hr]
    by_cases last : position = listeners.length
    · have none_left : listeners[position]? = none := by simp [last]
      rw [none_left] at same
      cases same
      refine ⟨asked, rfl, ?_⟩
      simpa [last] using ha
    have inside : position < listeners.length := by omega
    rw [List.getElem?_eq_getElem inside] at same
    rw [List.drop_eq_getElem_cons inside, List.any_cons, ← Bool.or_assoc]
    cases same with
    | some hears =>
      rename_i listener
      unfold KeyListener.Hears at hears
      dsimp only
      cases handled : listener.handler event.phase with
      | none =>
        rw [handled] at hears
        rw [hears, id, Bool.or_false]
        exact ih (position + 1) inside (by omega) ha
      | some handle =>
        rw [handled] at hears
        obtain ⟨called, hc, during⟩ := hears consumed asked ha
        rw [run_bind_of_done hc]
        exact ih (position + 1) inside (by omega) during

namespace Dispatcher

/-- The host is at rest and the event consumed or not. -/
def During (dispatcher : Dispatcher σ κ) (event : KeyEvent) (calm : σ → Prop) (consumed : Bool)
    (state : σ) : Prop :=
  calm state ∧ (dispatcher.consumed event).get state = consumed

/-- A dispatcher on a host that stays at rest and gives the answers of a situation. Nobody asked
before the listeners consumes the event, unless a menu takes it. -/
structure Faces (dispatcher : Dispatcher σ κ) (event : KeyEvent) (situation : Situation κ)
    (calm : σ → Prop) : Prop where
  idle : ∀ state, calm state → dispatcher.armed.get state = none
  log : ∀ notice consumed,
    (dispatcher.log notice).Answers (dispatcher.During event calm consumed) fun _ => True
  rootOf : ∀ widget, (dispatcher.toolkit.rootOf widget).Answers (dispatcher.During event calm false)
    fun root => Option.Rel (fun isBusy busy =>
      isBusy.Answers (dispatcher.During event calm false) (· = busy)) root (situation.overlay widget)
  owner : dispatcher.focus.owner.Answers (dispatcher.During event calm false) (· = situation.owner)
  window : dispatcher.focus.window.Answers (dispatcher.During event calm false) (· = situation.window)
  menu : ∀ state, dispatcher.During event calm false state →
    ∃ reached, (dispatcher.drivesMenu event).run state = .done situation.menuTakes reached ∧
      calm reached ∧ (situation.menuTakes = false → dispatcher.During event calm false reached)
  commandFor : ∀ keystroke window, (dispatcher.commandFor keystroke window).Answers
    (dispatcher.During event calm false) (· = situation.commandFor keystroke window)
  isKeyCapture : ∀ widget, (dispatcher.toolkit.isKeyCapture widget).Answers
    (dispatcher.During event calm false) (· = situation.isKeyCapture widget)
  isTextEditor : ∀ widget, (dispatcher.toolkit.isTextEditor widget).Answers
    (dispatcher.During event calm false) (· = situation.isTextEditor widget)
  ancestorIsEditing : ∀ widget, (dispatcher.toolkit.ancestorIsEditing widget).Answers
    (dispatcher.During event calm false) (· = situation.ancestorIsEditing widget)
  registered : ∀ widget keystroke, (dispatcher.toolkit.bindingOf widget keystroke).Answers
    (dispatcher.During event calm false) (·.isSome = (situation.binding widget keystroke).isSome)
  listenersOf : ∀ widget, (dispatcher.toolkit.listenersOf widget).Answers
    (dispatcher.During event calm false) fun listenerAt => ∀ position consumed,
      (listenerAt position).Answers (dispatcher.During event calm consumed) fun found =>
        Option.Rel (fun listener consumes =>
          listener.Hears event (dispatcher.During event calm) consumes)
          found (situation.consumes widget)[position]?
  room : ∀ widget, situation.owner = some widget →
    (situation.consumes widget).length < dispatcher.allowance
  isEnabled : ∀ widget,
    (dispatcher.toolkit.isEnabled widget).Answers calm (· = situation.isEnabled widget)
  bindingOf : ∀ widget keystroke, (dispatcher.toolkit.bindingOf widget keystroke).Answers calm
    fun found => Option.Rel (fun binding usability =>
      (binding.accept widget).Answers calm (· = usability.accepts) ∧
        binding.isEnabled.Answers calm (· = usability.enabled))
      found (situation.binding widget keystroke)
  decide : ∀ callback context, (dispatcher.calls.decide callback context).Answers calm
    (· = situation.decides callback context)
  report : ∀ callback context,
    (dispatcher.calls.report callback context).Answers calm fun _ => True
  toast : ∀ name id, (dispatcher.calls.toast name id).Answers calm fun _ => True

/-- A step that rules without a fault, and in favour of those commands that `wins` says. -/
def Rules (calm : σ → Prop) (act : Act σ (Ruling κ)) (wins : Bound κ → Prop) (state : σ) : Prop :=
  ∃ ruling reached, act.run state = .done ruling reached ∧ calm reached ∧
    ∀ bound, (∃ notice, ruling = .arm bound notice) ↔ wins bound

namespace Faces

variable {dispatcher : Dispatcher σ κ} {event : KeyEvent} {situation : Situation κ}
  {calm : σ → Prop} (faces : dispatcher.Faces event situation calm)

include faces

theorem log_calm (notice : Notice) : (dispatcher.log notice).Answers calm fun _ => True := by
  intro state h
  obtain ⟨_, reached, hr, ⟨h, -⟩, -⟩ := faces.log notice _ state ⟨h, rfl⟩
  exact ⟨_, reached, hr, h, trivial⟩

/-! ## Where the event is headed -/

theorem isBlocked : (dispatcher.toolkit.isBlocked dispatcher.log event).Answers
    (dispatcher.During event calm false) (· = situation.blocks event) := by
  unfold Toolkit.isBlocked Situation.blocks
  cases event.source with
  | none => exact answers_pure rfl
  | some source =>
    apply (faces.rootOf source).bind
    intro root same
    rw [Option.any_some]
    generalize situation.overlay source = overlay at same
    cases same with
    | none => exact (faces.log _ false).bind fun _ _ => answers_pure rfl
    | some covered =>
      apply Answers.bind covered
      intro busy same
      subst same
      cases busy with
      | false => exact answers_pure rfl
      | true => exact (faces.log _ false).bind fun _ _ => answers_pure rfl

theorem arrival : (dispatcher.arrival event).Answers (dispatcher.During event calm false)
    (· = if situation.blocks event then none else some (situation.destination event)) := by
  apply faces.isBlocked.bind
  rintro _ rfl
  cases situation.blocks event with
  | true => exact answers_pure rfl
  | false =>
    unfold destinationOf Situation.destination
    cases event.source with
    | some source => exact answers_pure rfl
    | none =>
      apply faces.owner.bind
      rintro _ rfl
      exact answers_pure rfl

theorem run_continues (destination : Option Widget) {state : σ} (h : calm state) :
    (dispatcher.holder.continues event destination).run state = .done false state := by
  unfold Holder.continues
  rw [holder_armed, run_bind, Slot.run_read, faces.idle state h]
  rfl

/-! ## Who takes the event before a command -/

theorem isRecording (destination : Option Widget) : (dispatcher.isRecording destination).Answers
    (dispatcher.During event calm false) (· = destination.any situation.isKeyCapture) := by
  cases destination with
  | none => exact answers_pure rfl
  | some widget => exact faces.isKeyCapture widget

theorem goesToText (widget : Widget) (keystroke : Keystroke) :
    (dispatcher.toolkit.goesToText event widget keystroke).Answers
      (dispatcher.During event calm false) (· = situation.claimsKey event keystroke widget) := by
  apply (faces.isTextEditor widget).bind
  rintro _ rfl
  unfold Situation.claimsKey
  cases situation.isTextEditor widget with
  | false => exact answers_pure rfl
  | true =>
    simp only [if_true, Bool.true_and]
    by_cases escape : event.input.key = "Escape"
    · simp only [escape, if_true]
      exact faces.ancestorIsEditing widget
    simp only [escape, if_false]
    cases event.input.isModified with
    | false => exact answers_pure rfl
    | true =>
      apply (faces.registered widget keystroke).bind
      intro found same
      exact answers_pure same

theorem hasUsableBinding (widget : Widget) (keystroke : Keystroke) :
    (dispatcher.toolkit.hasUsableBinding widget keystroke).Answers calm
      (· = situation.hasUsableBinding widget keystroke) := by
  apply (faces.isEnabled widget).bind
  rintro _ rfl
  unfold Situation.hasUsableBinding
  cases situation.isEnabled widget with
  | false => exact answers_pure rfl
  | true =>
    apply (faces.bindingOf widget keystroke).bind
    intro found same
    generalize situation.binding widget keystroke = binding at same
    cases same with
    | none => exact answers_pure rfl
    | some usable =>
      apply usable.1.bind
      rintro _ rfl
      rename_i usability
      cases accepts : usability.accepts with
      | false => exact answers_pure (by simp [accepts])
      | true => simpa [accepts] using usable.2

theorem run_offerToListeners {widget : Widget} (focused : situation.owner = some widget) {state : σ}
    (h : dispatcher.During event calm false state) :
    ∃ reached, (dispatcher.offerToListeners widget event).run state =
        .done ((situation.consumes widget).any id) reached ∧ calm reached := by
  obtain ⟨listenerAt, asked, ha, heard, hr⟩ := (faces.listenersOf widget).run_bind h _
  obtain ⟨reached, hc, during⟩ := Toolkit.run_callListeners heard dispatcher.allowance 0
    (Nat.zero_le _) (faces.room widget focused) ha
  rw [List.drop_zero, Bool.false_or] at during
  refine ⟨reached, ?_, during.1⟩
  unfold offerToListeners Toolkit.offerToListeners
  rw [hr, run_bind_of_done hc, Slot.run_read, during.2]

/-- Nobody takes the event exactly when the situation spares it. -/
theorem run_takenBefore (keystroke : Keystroke) {state : σ}
    (h : dispatcher.During event calm false state) :
    ∃ taken reached, (dispatcher.takenBefore event (situation.destination event) situation.owner
        keystroke).run state = .done taken reached ∧ calm reached ∧
      (taken = none ↔ situation.Spares event keystroke) := by
  have leave (notice : Notice) (taken : Bool) {state : σ} (h : calm state) :
      ∃ reached, (do dispatcher.log notice; return some taken : Act σ (Option Bool)).run state =
        .done (some taken) reached ∧ calm reached := by
    obtain ⟨_, told, hl, ht, -⟩ := faces.log_calm notice state h
    exact ⟨told, run_bind_of_done hl, ht⟩
  have focused {state : σ} (h : dispatcher.During event calm false state) :
      ∃ taken reached, (dispatcher.takenBefore event none situation.owner keystroke).run state =
          .done taken reached ∧ calm reached ∧
        (taken = none ↔ situation.owner.any (fun widget => (situation.consumes widget).any id ||
          situation.hasUsableBinding widget keystroke) = false) := by
    cases owner : situation.owner with
    | none => exact ⟨none, state, rfl, h.1, by simp⟩
    | some widget =>
      obtain ⟨heard, ho, hh⟩ := faces.run_offerToListeners owner h
      rw [Option.any_some]
      cases consumed : (situation.consumes widget).any id with
      | true =>
        obtain ⟨told, hl, ht⟩ := leave (.takenByListener keystroke.shortcut widget.id) true hh
        refine ⟨some true, told, ?_, ht, by simp⟩
        rw [consumed] at ho
        exact (run_bind_of_done ho).trans hl
      | false =>
        rw [consumed] at ho
        obtain ⟨_, asked, hb, ha, rfl⟩ := faces.hasUsableBinding widget keystroke heard hh
        have answered : (dispatcher.takenBefore event none (some widget) keystroke).run state =
            (if situation.hasUsableBinding widget keystroke then (do
                dispatcher.log (.leftToBinding keystroke.shortcut widget.id)
                return some false : Act σ (Option Bool))
              else return none).run asked :=
          (run_bind_of_done ho).trans (run_bind_of_done hb)
        rw [answered]
        cases situation.hasUsableBinding widget keystroke with
        | true =>
          obtain ⟨told, hl, ht⟩ := leave (.leftToBinding keystroke.shortcut widget.id) false ha
          exact ⟨some false, told, hl, ht, by simp⟩
        | false => exact ⟨none, asked, rfl, ha, by simp⟩
  rw [situation.spares_iff]
  cases headed : situation.destination event with
  | none => simpa using focused h
  | some widget =>
    obtain ⟨_, asked, hg, ha, rfl⟩ := faces.goesToText widget keystroke state h
    rw [Option.any_some]
    cases claims : situation.claimsKey event keystroke widget with
    | true =>
      obtain ⟨told, hl, ht⟩ := leave (.leftToEditor keystroke.shortcut widget.id) false ha.1
      rw [claims] at hg
      exact ⟨some false, told, (run_bind_of_done hg).trans hl, ht, by simp⟩
    | false =>
      rw [claims] at hg
      obtain ⟨taken, reached, hf, hc, same⟩ := focused ha
      exact ⟨taken, reached, (run_bind_of_done hg).trans hf, hc, by simpa using same⟩

/-! ## Who gets the event -/

theorem allows (predicate : Option κ) (bound : Bound κ) :
    (bound.ask dispatcher.calls predicate).Answers calm
      (· = situation.allows predicate bound.context) := by
  cases predicate with
  | none => exact answers_pure rfl
  | some callback => exact faces.decide callback bound.context

theorem rules_judgeCommand (bound : Bound κ) (keystroke : Keystroke) {state : σ} (h : calm state) :
    Rules calm (dispatcher.judgeCommand bound keystroke) (fun winner => winner = bound ∧
      (∃ tier, bound.command.precedence = .tier tier) ∧
      situation.allows bound.command.valid bound.context = true ∧
      situation.allows bound.command.enabled bound.context = true) state := by
  obtain ⟨_, asked, hv, ha, rfl⟩ := faces.allows bound.command.valid bound state h
  change (bound.isValid dispatcher.calls).run state = _ at hv
  unfold judgeCommand Rules
  rw [run_bind_of_done hv]
  cases situation.allows bound.command.valid bound.context with
  | false => exact ⟨.left, asked, rfl, ha, by simp⟩
  | true =>
    obtain ⟨_, weighed, he, hw, rfl⟩ := faces.allows bound.command.enabled bound asked ha
    change (bound.isEnabled dispatcher.calls).run asked = _ at he
    simp only [Bool.not_true, Bool.false_eq_true, if_false]
    rw [run_bind_of_done he]
    cases situation.allows bound.command.enabled bound.context with
    | false => exact ⟨.refuse bound, weighed, rfl, hw, by simp⟩
    | true =>
      cases bound.command.precedence with
      | tier tier => exact ⟨_, weighed, rfl, hw, by simp [eq_comm]⟩
      | unknown name => exact ⟨_, weighed, rfl, hw, by simp⟩

theorem rules_judgeFound (bound : Bound κ) (keystroke : Keystroke)
    (focused : bound.context.focusOwner = situation.owner) {state : σ}
    (h : dispatcher.During event calm false state) :
    Rules calm (dispatcher.judgeFound bound event (situation.destination event) keystroke)
      (fun winner => winner = bound ∧ situation.Wins event keystroke bound) state := by
  obtain ⟨_, asked, hr, ha, rfl⟩ := faces.isRecording (situation.destination event) state h
  unfold judgeFound Rules
  rw [run_bind_of_done hr, focused]
  by_cases system : bound.command.precedence = .tier .system
  · rw [if_pos system]
    have wins : situation.Wins event keystroke bound ↔
        (situation.destination event).any situation.isKeyCapture = false := by
      simp [Situation.Wins, system, Option.any_eq_false]
    rw [wins]
    cases (situation.destination event).any situation.isKeyCapture with
    | true => exact ⟨.left, asked, rfl, ha.1, by simp⟩
    | false => exact ⟨_, asked, rfl, ha.1, by simp [eq_comm]⟩
  · rw [if_neg system]
    obtain ⟨taken, weighed, ht, hw, spared⟩ := faces.run_takenBefore keystroke ha
    rw [run_bind_of_done ht]
    have wins : situation.Wins event keystroke bound ↔ taken = none ∧
        (∃ tier, bound.command.precedence = .tier tier) ∧
        situation.allows bound.command.valid bound.context = true ∧
        situation.allows bound.command.enabled bound.context = true := by
      rw [spared]
      constructor
      · rintro (⟨first, -⟩ | ⟨⟨tier, -, ht⟩, spares, valid, enabled⟩)
        · exact absurd first system
        · exact ⟨spares, ⟨tier, ht⟩, valid, enabled⟩
      · rintro ⟨spares, ⟨tier, ht⟩, valid, enabled⟩
        have lower : tier ≠ .system := by
          rintro rfl
          exact system ht
        exact .inr ⟨⟨tier, lower, ht⟩, spares, valid, enabled⟩
    rw [wins]
    cases taken with
    | none =>
      have rules := faces.rules_judgeCommand bound keystroke hw
      simpa [Rules] using rules
    | some handled =>
      cases handled with
      | true => exact ⟨.taken, weighed, rfl, hw, by simp⟩
      | false => exact ⟨.left, weighed, rfl, hw, by simp⟩

/-- The questions about an event favour the command that is found for it, if that wins. -/
theorem rules_judge {state : σ} (h : dispatcher.During event calm false state) :
    Rules calm (dispatcher.judge event (situation.destination event)) (fun winner =>
      situation.menuTakes = false ∧ event.input.isModifierKey = false ∧
      (∃ window, situation.window = some window ∧
        situation.commandFor (dispatcher.platform.keystroke event.input event.phase) window =
          some winner.command ∧ winner.context = ⟨situation.owner, some window⟩) ∧
      situation.Wins event (dispatcher.platform.keystroke event.input event.phase) winner) state := by
  obtain ⟨asked, hm, calm, fresh⟩ := faces.menu state h
  unfold judge Rules
  rw [run_bind_of_done hm]
  cases menu : situation.menuTakes with
  | true => exact ⟨.taken, asked, rfl, calm, by simp⟩
  | false =>
    obtain ⟨_, opened, hw, ho, rfl⟩ := faces.window asked (fresh menu)
    simp only [Bool.false_eq_true, if_false, true_and]
    rw [run_bind_of_done hw]
    cases opens : situation.window with
    | none => exact ⟨.left, opened, rfl, ho.1, by simp⟩
    | some window =>
      cases modifier : event.input.isModifierKey with
      | true => exact ⟨.left, opened, rfl, ho.1, by simp⟩
      | false =>
        let keystroke := dispatcher.platform.keystroke event.input event.phase
        obtain ⟨_, found, hc, hf, rfl⟩ := faces.commandFor keystroke window opened ho
        simp only [Bool.false_eq_true, if_false]
        rw [run_bind_of_done hc]
        cases finds : situation.commandFor keystroke window with
        | none => exact ⟨.left, found, rfl, hf.1, by simp [keystroke, finds]⟩
        | some command =>
          obtain ⟨_, focused, hr, ha, rfl⟩ := faces.owner found hf
          let bound : Bound κ := ⟨command, ⟨situation.owner, some window⟩⟩
          obtain ⟨ruling, reached, hd, calm, wins⟩ := faces.rules_judgeFound bound keystroke rfl ha
          refine ⟨ruling, reached, (run_bind_of_done hr).trans hd, calm, ?_⟩
          intro winner
          rw [wins]
          constructor
          · rintro ⟨rfl, wins⟩
            exact ⟨trivial, ⟨window, rfl, finds, rfl⟩, wins⟩
          · rintro ⟨-, ⟨_, ⟨⟩, same, context⟩, wins⟩
            have command : winner.command = command := Option.some.inj (same.symm.trans finds)
            have same : winner = bound := by
              cases winner
              simp_all [bound]
            exact ⟨same, same ▸ wins⟩

/-- What is ruled is done: a command is armed if the ruling is in its favour, and nothing else
is. -/
theorem run_carryOut (tidy : dispatcher.Tidy event) (destination : Option Widget)
    (ruling : Ruling κ) {state : σ} (h : calm state) :
    ∃ reached, ((∃ handled, (dispatcher.carryOut event destination ruling).run state =
        .done handled reached) ∨
      ∃ fault, (dispatcher.carryOut event destination ruling).run state = .failed fault reached) ∧
    ∀ armed, dispatcher.armed.get reached = some armed ↔
      (∃ notice, ruling = .arm armed.command notice) ∧ armed.target = destination := by
  have unarmed {reached : σ} (h : calm reached) (armed : Armed (Bound κ)) :
      dispatcher.armed.get reached ≠ some armed := by
    rw [faces.idle reached h]
    nofun
  cases ruling with
  | left => exact ⟨state, .inl ⟨_, rfl⟩, by simp [unarmed h]⟩
  | taken => exact ⟨state, .inl ⟨_, rfl⟩, by simp [unarmed h]⟩
  | refuse bound =>
    obtain ⟨_, told, hl, ht, -⟩ := faces.log_calm (.notEnabled bound.command.id) state h
    have given : (bound.giveFeedback dispatcher.calls).Answers calm fun _ => True := by
      unfold Bound.giveFeedback
      cases bound.command.feedback with
      | toast => exact faces.toast _ _
      | silent => exact answers_pure trivial
      | custom callback => exact faces.report callback bound.context
    obtain ⟨_, reached, hg, hr, -⟩ := given told ht
    exact ⟨reached, .inl ⟨true, (run_bind_of_done hl).trans (run_bind_of_done hg)⟩,
      by simp [unarmed hr]⟩
  | arm bound notice =>
    obtain ⟨awarded, hw, armed, consumed⟩ := tidy.run_award bound destination (faces.idle state h)
    obtain ⟨_, told, hl, ⟨ha, -⟩, -⟩ := tidy.log notice _ _ awarded ⟨armed, consumed⟩
    refine ⟨told, .inl ⟨true, (run_bind_of_done hw).trans (run_bind_of_done hl)⟩, ?_⟩
    rintro ⟨winner, target⟩
    rw [ha]
    simp [eq_comm]
  | unknown bound name =>
    obtain ⟨_, told, hl, ht, -⟩ := faces.log_calm
      (.unhandled (.unknownPrecedence bound.command.id name)) state h
    exact ⟨told, .inr ⟨_, run_bind_of_done hl⟩, by simp [unarmed ht]⟩

end Faces
end Dispatcher

/-- On a host that stays as it is, dispatching an event that is not consumed yet comes to an end,
and a command is armed then exactly if the situation says so. -/
theorem arms_iff {dispatcher : Dispatcher σ κ} {event : KeyEvent} {situation : Situation κ}
    {calm : σ → Prop} (faces : dispatcher.Faces event situation calm) (tidy : dispatcher.Tidy event)
    {state : σ} (h : dispatcher.During event calm false state) :
    ∃ reached, ((∃ handled, (dispatcher.dispatch event).run state = .done handled reached) ∨
        ∃ fault, (dispatcher.dispatch event).run state = .failed fault reached) ∧
      ∀ armed, dispatcher.armed.get reached = some armed ↔
        situation.Arms dispatcher.platform event armed := by
  obtain ⟨_, arrived, hr, ha, rfl⟩ := faces.arrival state h
  cases blocked : situation.blocks event with
  | true =>
    rw [blocked] at hr
    refine ⟨arrived, .inl ⟨true, run_bind_of_done hr⟩, ?_⟩
    intro armed
    rw [faces.idle arrived ha.1]
    constructor
    · nofun
    · intro arms
      exact absurd arms.unblocked (by simp [blocked])
  | false =>
    rw [blocked] at hr
    obtain ⟨ruling, judged, hj, hc, wins⟩ := faces.rules_judge ha
    obtain ⟨reached, ends, armed⟩ := faces.run_carryOut tidy (situation.destination event) ruling hc
    have dispatched : (dispatcher.dispatch event).run state =
        (dispatcher.carryOut event (situation.destination event) ruling).run judged := by
      refine (run_bind_of_done hr).trans ((run_bind_of_done (faces.run_continues _ ha.1)).trans ?_)
      simp only [Bool.false_eq_true, if_false]
      rw [Dispatcher.dispatchFree_eq, run_bind_of_done hj]
    refine ⟨reached, by rw [dispatched]; exact ends, ?_⟩
    intro winner
    rw [armed, wins]
    constructor
    · rintro ⟨⟨declined, plain, found, wins⟩, target⟩
      exact ⟨blocked, declined, plain, found, target, wins⟩
    · intro arms
      exact ⟨⟨arms.declined, arms.plain, arms.found, arms.wins⟩, arms.target⟩

/-! ## Every situation occurs -/

/-- What changes on a host that gives the answers of a situation and is otherwise as it is. -/
structure Still (κ : Type) where
  armed : Option (Armed (Bound κ)) := none
  consumed : Bool := false

namespace Situation

variable (situation : Situation κ)

/-- A dispatcher on a host that gives the answers of the situation. -/
def dispatcher (platform : Platform) : Dispatcher (Still κ) κ where
  platform
  toolkit :=
    { rootOf := fun widget => pure ((situation.overlay widget).map pure)
      isKeyCapture := fun widget => pure (situation.isKeyCapture widget)
      isTextEditor := fun widget => pure (situation.isTextEditor widget)
      ancestorIsEditing := fun widget => pure (situation.ancestorIsEditing widget)
      isEnabled := fun widget => pure (situation.isEnabled widget)
      listenersOf := fun widget => pure fun position =>
        pure ((situation.consumes widget)[position]?.map fun consumes =>
          { handler := fun _ => some fun _ =>
              modify fun still => { still with consumed := still.consumed || consumes } })
      bindingOf := fun widget keystroke =>
        pure ((situation.binding widget keystroke).map fun usability =>
          { accept := fun _ => pure usability.accepts, isEnabled := pure usability.enabled }) }
  focus := { owner := pure situation.owner, window := pure situation.window }
  commandFor keystroke window := pure (situation.commandFor keystroke window)
  menu := some fun _ => pure situation.menuTakes
  calls :=
    { decide := fun callback context => pure (situation.decides callback context)
      run := fun _ _ => pure ()
      report := fun _ _ => pure ()
      toast := fun _ _ => pure () }
  consumed _ := ⟨Still.consumed, fun consumed still => { still with consumed }⟩
  armed := ⟨Still.armed, fun armed still => { still with armed }⟩
  log _ := pure ()
  allowance := (situation.owner.elim 0 fun widget => (situation.consumes widget).length) + 1

variable (platform : Platform) (event : KeyEvent)

theorem tidy : (situation.dispatcher platform).Tidy event where
  armed _ _ := rfl
  consumed _ _ := rfl
  apart _ _ := rfl
  log _ _ _ := answers_pure trivial

theorem faces : (situation.dispatcher platform).Faces event situation (·.armed = none) where
  idle _ h := h
  log _ _ := answers_pure trivial
  rootOf widget := by
    apply answers_pure
    apply rel_map_self
    intro busy
    exact answers_pure rfl
  owner := answers_pure rfl
  window := answers_pure rfl
  menu state h := ⟨state, rfl, h.1, fun _ => h⟩
  commandFor _ _ := answers_pure rfl
  isKeyCapture _ := answers_pure rfl
  isTextEditor _ := answers_pure rfl
  ancestorIsEditing _ := answers_pure rfl
  registered widget keystroke := answers_pure (by simp)
  listenersOf widget := by
    apply answers_pure
    intro position consumed
    apply answers_pure
    apply rel_map_self
    rintro consumes consumed state ⟨idle, rfl⟩
    exact ⟨_, rfl, idle, rfl⟩
  room widget focused := by simp [dispatcher, focused]
  isEnabled _ := answers_pure rfl
  bindingOf widget keystroke := by
    apply answers_pure
    apply rel_map_self
    intro usability
    exact ⟨answers_pure rfl, answers_pure rfl⟩
  decide _ _ := answers_pure rfl
  report _ _ := answers_pure trivial
  toast _ _ := answers_pure trivial

end Situation

/-! ## A command on a key with a modifier, typed into an editor -/

namespace Still

def editor : Widget := ⟨"editor", 0⟩

def list : Widget := ⟨"list", 0⟩

def save : Command Bool where
  id := "save"
  name := "Save"
  scope := ScopeTable.appScope
  precedence := .tier .localBinding
  shortcuts := ["Ctrl+S"]
  description := none
  valid := some true
  enabled := some true
  execute := true
  feedback := .toast

/-- The list has the focus: its listener lets the key pass, and its binding is disabled. -/
def saving : Situation Bool where
  overlay _ := some false
  owner := some list
  window := some Bare.main
  menuTakes := false
  commandFor keystroke _ := if keystroke = ⟨"Ctrl+S", .pressed⟩ then some save else none
  isKeyCapture _ := false
  isTextEditor widget := widget = editor
  ancestorIsEditing _ := true
  isEnabled _ := true
  consumes widget := if widget = list then [false] else [true]
  binding widget _ := if widget = list then some ⟨true, false⟩ else none
  decides callback _ := callback

def pressS (modifiers : Modifiers) : KeyEvent := ⟨⟨"s", modifiers⟩, .pressed, some editor, 0⟩

/-- With Ctrl the key passes the editor and the list, and the command is armed. -/
theorem save_armed_with_ctrl :
    ((saving.dispatcher .other).Faces (pressS { ctrl := true }) saving (·.armed = none) ∧
      (saving.dispatcher .other).Tidy (pressS { ctrl := true }) ∧
      (saving.dispatcher .other).During (pressS { ctrl := true }) (·.armed = none) false {}) ∧
    ∃ reached, ((∃ handled, ((saving.dispatcher .other).dispatch (pressS { ctrl := true })).run {} =
        .done handled reached) ∨
      ∃ fault, ((saving.dispatcher .other).dispatch (pressS { ctrl := true })).run {} =
        .failed fault reached) ∧
      reached.armed = some ⟨⟨save, ⟨some list, some Bare.main⟩⟩, some editor⟩ := by
  have faces := saving.faces .other (pressS { ctrl := true })
  have tidy := saving.tidy .other (pressS { ctrl := true })
  have start : (saving.dispatcher .other).During (pressS { ctrl := true }) (·.armed = none) false {} :=
    ⟨rfl, rfl⟩
  refine ⟨⟨faces, tidy, start⟩, ?_⟩
  obtain ⟨reached, ends, armed⟩ := arms_iff faces tidy start
  refine ⟨reached, ends, (armed _).mpr ?_⟩
  have keystroke : Platform.other.keystroke ⟨"s", { ctrl := true }⟩ .pressed =
      ⟨"Ctrl+S", .pressed⟩ := by
    decide
  have finds : saving.commandFor (Platform.other.keystroke ⟨"s", { ctrl := true }⟩ .pressed)
      Bare.main = some save := by
    rw [keystroke]
    simp only [saving, if_true]
  have spares : saving.Spares (pressS { ctrl := true }) ⟨"Ctrl+S", .pressed⟩ := by
    refine ⟨?_, ?_, ?_⟩
    · rintro _ ⟨⟩
      decide
    · rintro _ ⟨⟩
      decide
    · rintro _ ⟨⟩
      decide
  exact
    { unblocked := rfl
      declined := rfl
      plain := by decide
      found := ⟨Bare.main, rfl, finds, rfl⟩
      target := rfl
      wins := .inr ⟨⟨.localBinding, nofun, rfl⟩, keystroke ▸ spares, rfl, rfl⟩ }

end Still

end KeyPrecedence
