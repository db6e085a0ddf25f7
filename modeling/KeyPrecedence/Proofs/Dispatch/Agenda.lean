import KeyPrecedence.Proofs.Dispatch.Arming
import KeyPrecedence.Proofs.Dispatch.Minutes

/-!
# Who is called about an event, and when

* `Occasion`: what stays the same on a host while an event is dispatched for which a command is
  found;
* `Replies`: what those who are called answer;
* `Occasion.minutes`: the calls that are due then, in order;
* `Dispatcher.Meets`: a dispatcher on such a host;
* `minutes_exact`: these calls are made, each once, and no others.
-/

namespace KeyPrecedence

open Act Annotated Minuted

variable {σ κ : Type}

/-- A command has been found for an event that nobody has absorbed. -/
structure Occasion (κ : Type) where
  event : KeyEvent
  keystroke : Keystroke
  /-- Whether the event was consumed before it was dispatched. -/
  consumed : Bool
  destination : Option Widget
  owner : Option Widget
  window : Window
  /-- Whether there is a menu, which does not take the event. -/
  menu : Bool
  command : Command κ
  /-- Whether the event goes to a text editor. -/
  routed : Bool
  /-- For each listener of what has the focus whether it listens to the event's phase. -/
  listens : List Bool
  /-- Whether what has the focus is enabled. -/
  isEnabled : Bool
  /-- Whether it has a binding for the keystroke. -/
  isBound : Bool

/-- What those who may be called answer. -/
structure Replies where
  /-- The positions of listeners that were called, and whether the event was consumed after each. -/
  heard : List (Nat × Bool)
  accepts : Bool
  usable : Bool
  valid : Bool
  enabled : Bool

namespace Occasion

variable (occasion : Occasion κ)

def context : Context := ⟨occasion.owner, some occasion.window⟩

/-- The positions of the listeners that listen, in the order of registration. -/
def listening : List Nat := (occasion.listens.zipIdx.filter (·.1)).map (·.2)

/-- What stands for the answers when nobody is called. -/
def unasked : Replies :=
  ⟨occasion.listening.map fun position => (position, false), false, false, false, false⟩

theorem unasked_heard : occasion.unasked.heard.map (·.1) = occasion.listening := by
  simp [unasked, Function.comp_def]

def ofListeners (widget : Widget) (heard : List (Nat × Bool)) : List (Minute κ) :=
  heard.map fun (position, consumed) => ⟨.listener widget position occasion.event, consumed⟩

/-- Whether the event is consumed once the listeners have been called. -/
def consumedAfter (heard : List (Nat × Bool)) : Bool :=
  (heard.getLast?.map (·.2)).getD occasion.consumed

/-- A binding is asked whether it is enabled only when it accepts the widget. -/
def ofBinding (widget : Widget) (accepts usable : Bool) : List (Minute κ) :=
  if occasion.isEnabled && occasion.isBound then
    ⟨.accepts widget occasion.keystroke, accepts⟩ ::
      if accepts then [⟨.usable widget occasion.keystroke, usable⟩] else []
  else []

def hasUsableBinding (accepts usable : Bool) : Bool :=
  occasion.isEnabled && occasion.isBound && accepts && usable

def ofPredicate (predicate : Option κ) (answer : Bool) : List (Minute κ) :=
  predicate.toList.map fun callback => ⟨.decides callback occasion.context, answer⟩

/-- A command without a predicate needs no answer. -/
def allows (predicate : Option κ) (answer : Bool) : Bool := predicate.isNone || answer

def ofFeedback : List (Minute κ) :=
  match occasion.command.feedback with
  | .toast => [⟨.toast occasion.command.name occasion.command.id, true⟩]
  | .silent => []
  | .custom callback => [⟨.reports callback occasion.context, true⟩]

/-- Only a valid command is asked whether it is enabled, and feedback is given only if it is not. -/
def ofCommand (valid enabled : Bool) : List (Minute κ) :=
  occasion.ofPredicate occasion.command.valid valid ++
    if allows occasion.command.valid valid then
      occasion.ofPredicate occasion.command.enabled enabled ++
        if allows occasion.command.enabled enabled then [] else occasion.ofFeedback
    else []

/-- What has the focus: all its listeners, then its binding unless the event is consumed by then. -/
def ofFocus (replies : Replies) : List (Minute κ) :=
  match occasion.owner with
  | none => []
  | some widget =>
    occasion.ofListeners widget replies.heard ++
      if occasion.consumedAfter replies.heard then []
      else occasion.ofBinding widget replies.accepts replies.usable

/-- Whether the command has its turn after that. -/
def passes (replies : Replies) : Bool :=
  occasion.owner.isNone || !(occasion.consumedAfter replies.heard ||
    occasion.hasUsableBinding replies.accepts replies.usable)

/-- The menu and the resolver are called about every event. -/
def opening : List (Minute κ) :=
  (if occasion.menu then [⟨.menu occasion.event, some false⟩] else []) ++
    [⟨.resolver occasion.keystroke occasion.window, some true⟩]

/-- The calls that are due once the command is found. For a system command, or an event for a text
editor, there are none. -/
def afterFound (replies : Replies) : List (Minute κ) :=
  if occasion.command.precedence = .tier .system ∨ occasion.routed = true then []
  else occasion.ofFocus replies ++
    if occasion.passes replies then occasion.ofCommand replies.valid replies.enabled else []

def minutes (replies : Replies) : List (Minute κ) :=
  occasion.opening ++ occasion.afterFound replies

end Occasion

/-- A listener that may consume the event, if it listens to its phase. `states` are the states of
the host while the event is consumed or not. -/
def KeyListener.Listens (listener : KeyListener (Act σ)) (event : KeyEvent)
    (states : Bool → σ → Prop) (listens : Bool) : Prop :=
  match listener.handler event.phase with
  | none => listens = false
  | some handle => listens = true ∧ ∀ consumed state, states consumed state →
      ∃ after reached, (handle event).run state = .done () reached ∧ states after reached

/-- A dispatcher on a host where an occasion arises. Nothing is armed, the host and the focus stay
as they are, and whoever is called gives any answer but does not fail. -/
structure Dispatcher.Meets (dispatcher : Dispatcher σ κ) (occasion : Occasion κ) (calm : σ → Prop) :
    Prop where
  keystroke : occasion.keystroke =
    dispatcher.platform.keystroke occasion.event.input occasion.event.phase
  plain : occasion.event.input.isModifierKey = false
  idle : ∀ state, calm state → dispatcher.armed.get state = none
  log : ∀ notice consumed,
    (dispatcher.log notice).Answers (dispatcher.During occasion.event calm consumed) fun _ => True
  arrival : (dispatcher.arrival occasion.event).Answers
    (dispatcher.During occasion.event calm occasion.consumed) (· = some occasion.destination)
  hasMenu : occasion.menu = dispatcher.menu.isSome
  menu : ∀ processes, dispatcher.menu = some processes → (processes occasion.event).Answers
    (dispatcher.During occasion.event calm occasion.consumed) (· = false)
  window : dispatcher.focus.window.Answers
    (dispatcher.During occasion.event calm occasion.consumed) (· = some occasion.window)
  commandFor : (dispatcher.commandFor occasion.keystroke occasion.window).Answers
    (dispatcher.During occasion.event calm occasion.consumed) (· = some occasion.command)
  owner : dispatcher.focus.owner.Answers
    (dispatcher.During occasion.event calm occasion.consumed) (· = occasion.owner)
  isRecording : (dispatcher.isRecording occasion.destination).Answers
    (dispatcher.During occasion.event calm occasion.consumed) fun _ => True
  goesToText : ∀ widget, occasion.destination = some widget →
    (dispatcher.toolkit.goesToText occasion.event widget occasion.keystroke).Answers
      (dispatcher.During occasion.event calm occasion.consumed) (· = occasion.routed)
  unheaded : occasion.destination = none → occasion.routed = false
  listenersOf : ∀ widget, occasion.owner = some widget →
    (dispatcher.toolkit.listenersOf widget).Answers
      (dispatcher.During occasion.event calm occasion.consumed) fun listenerAt =>
        ∀ position consumed, (listenerAt position).Answers
          (dispatcher.During occasion.event calm consumed) fun found =>
            Option.Rel (fun listener listens =>
              listener.Listens occasion.event (dispatcher.During occasion.event calm) listens)
              found occasion.listens[position]?
  room : occasion.listens.length < dispatcher.allowance
  isEnabled : ∀ widget, occasion.owner = some widget →
    (dispatcher.toolkit.isEnabled widget).Answers calm (· = occasion.isEnabled)
  bindingOf : ∀ widget, occasion.owner = some widget →
    (dispatcher.toolkit.bindingOf widget occasion.keystroke).Answers calm fun found =>
      found.isSome = occasion.isBound ∧ ∀ binding, found = some binding →
        ((binding.accept widget).Answers calm fun _ => True) ∧
          binding.isEnabled.Answers calm fun _ => True
  decide : ∀ callback context, (dispatcher.calls.decide callback context).Answers calm fun _ => True
  report : ∀ callback context, (dispatcher.calls.report callback context).Answers calm fun _ => True
  toast : ∀ name id, (dispatcher.calls.toast name id).Answers calm fun _ => True

/-- Every listener that listens is called once and in order, whatever the ones before it did. -/
theorem Toolkit.adds_callListeners {slot : KeyEvent → Slot σ Bool} {event : KeyEvent}
    {states : Bool → σ → Prop}
    (read : ∀ consumed state, states consumed state → (slot event).get state = consumed)
    {listens : List Bool} {listenerAt : Nat → Act σ (Option (KeyListener (Act σ)))}
    (heard : ∀ position consumed, (listenerAt position).Answers (states consumed) fun found =>
      Option.Rel (fun listener listens => listener.Listens event states listens)
        found listens[position]?)
    (widget : Widget) (allowance position : Nat) (within : position ≤ listens.length)
    (room : listens.length < allowance + position) {consumed : Bool} {state : σ}
    (h : states consumed state) :
    ∃ (calls : List (Nat × Bool)) (reached : σ),
      Adds (callListeners (fun position =>
          Option.map (KeyListener.annotated .minutes slot widget position) <$>
            asked Notes.minutes.failure (listenerAt position))
          event allowance position) state (.ok ()) reached
        (calls.map fun (position, consumed) =>
          (⟨.listener widget position event, consumed⟩ : Minute κ)) ∧
      states ((calls.getLast?.map (·.2)).getD consumed) reached ∧
      calls.map (·.1) = (((listens.drop position).zipIdx position).filter (·.1)).map (·.2) := by
  induction allowance generalizing position consumed state with
  | zero => omega
  | succ allowance ih =>
    obtain ⟨found, asked, hr, ha, same⟩ := heard position consumed state h
    have looked := adds_map_asked (κ := κ)
      (Option.map (KeyListener.annotated (.minutes (κ := κ)) slot widget position)) hr
    by_cases last : position = listens.length
    · have none_left : listens[position]? = none := by simp [last]
      rw [none_left] at same
      cases same
      refine ⟨[], asked, looked.bind (adds_pure ()), ha, ?_⟩
      simp [last]
    · have inside : position < listens.length := by omega
      rw [List.getElem?_eq_getElem inside] at same
      rw [List.drop_eq_getElem_cons inside, List.zipIdx_cons]
      cases same with
      | some listens =>
        rename_i listener
        unfold KeyListener.Listens at listens
        cases handled : listener.handler event.phase with
        | none =>
          rw [handled] at listens
          obtain ⟨calls, reached, rest, hd, order⟩ := ih (position + 1) inside (by omega) ha
          refine ⟨calls, reached, looked.bind ?_, hd, ?_⟩
          · simp only [Option.map_some, KeyListener.annotated, handled, Option.map_none]
            exact rest
          · simpa [listens] using order
        | some handle =>
          rw [handled] at listens
          obtain ⟨listens, handles⟩ := listens
          obtain ⟨after, called, hc, during⟩ := handles consumed asked ha
          obtain ⟨calls, reached, rest, hd, order⟩ := ih (position + 1) inside (by omega) during
          refine ⟨(position, after) :: calls, reached, looked.bind ?_, ?_, ?_⟩
          · simp only [Option.map_some, KeyListener.annotated, handled]
            have entered := adds_called (.listener widget position event : Call κ)
              (fun _ host => (slot event).get host) hc
            rw [read after called during] at entered
            exact entered.bind rest
          · rw [List.getLast?_cons]
            cases hl : calls.getLast? with
            | none => simpa [hl] using hd
            | some call => simpa [hl] using hd
          · simpa [listens] using order

namespace Dispatcher.Meets

variable {dispatcher : Dispatcher σ κ} {occasion : Occasion κ} {calm : σ → Prop}
  (meets : dispatcher.Meets occasion calm)

include meets

/-- A notice changes nothing, and is no call. -/
theorem adds_log {consumed : Bool} {state : σ}
    (h : dispatcher.During occasion.event calm consumed state) (notice : Notice) :
    ∃ told, Adds (dispatcher.minuted.log notice) state (.ok ()) told [] ∧
      dispatcher.During occasion.event calm consumed told := by
  obtain ⟨_, told, hr, ht, -⟩ := meets.log notice consumed state h
  exact ⟨told, adds_asked hr, ht⟩

theorem adds_notice {consumed : Bool} {state : σ} {α : Type}
    (h : dispatcher.During occasion.event calm consumed state) (notice : Notice) (value : α) :
    ∃ told, Adds (do dispatcher.minuted.log notice; return value) state (.ok value) told [] ∧
      dispatcher.During occasion.event calm consumed told := by
  obtain ⟨told, hl, ht⟩ := meets.adds_log h notice
  exact ⟨told, hl.bind (adds_pure value), ht⟩

/-! ## The listeners -/

theorem adds_offerToListeners {widget : Widget} (focused : occasion.owner = some widget) {state : σ}
    (h : dispatcher.During occasion.event calm occasion.consumed state) :
    ∃ (heard : List (Nat × Bool)) (reached : σ), calm reached ∧
      heard.map (·.1) = occasion.listening ∧
      Adds (dispatcher.minuted.offerToListeners widget occasion.event) state
        (.ok (occasion.consumedAfter heard)) reached (occasion.ofListeners widget heard) := by
  obtain ⟨listenerAt, asked, hr, ha, sound⟩ := meets.listenersOf widget focused state h
  obtain ⟨heard, reached, called, during, order⟩ := Toolkit.adds_callListeners
    (fun _ _ during => during.2) sound widget dispatcher.allowance 0 (Nat.zero_le _) meets.room ha
  have read : Adds (slot (dispatcher.consumed occasion.event)).read reached
      (.ok (occasion.consumedAfter heard)) reached ([] : List (Minute κ)) := by
    intro minutes
    unfold Occasion.consumedAfter
    rw [List.append_nil, ← during.2]
    rfl
  refine ⟨heard, reached, during.1, order, ?_⟩
  apply (adds_map_asked (κ := κ) _ hr).bind
  exact called.bind_quiet read

/-! ## The binding -/

theorem adds_hasUsableBinding {widget : Widget} (focused : occasion.owner = some widget) {state : σ}
    (h : calm state) :
    ∃ (accepts usable : Bool) (reached : σ), calm reached ∧
      Adds (dispatcher.minuted.toolkit.hasUsableBinding widget occasion.keystroke) state
        (.ok (occasion.hasUsableBinding accepts usable)) reached
        (occasion.ofBinding widget accepts usable) := by
  obtain ⟨_, asked, hr, ha, rfl⟩ := meets.isEnabled widget focused state h
  have able := adds_asked (κ := κ) hr
  unfold Toolkit.hasUsableBinding Occasion.hasUsableBinding Occasion.ofBinding
  cases enabled : occasion.isEnabled with
  | false =>
    rw [enabled] at able
    exact ⟨false, false, asked, ha, able.bind (adds_pure false)⟩
  | true =>
    rw [enabled] at able
    obtain ⟨found, looked, hb, hl, bound, sound⟩ := meets.bindingOf widget focused asked ha
    have sought := adds_map_asked (κ := κ)
      (Option.map (Binding.annotated (.minutes (κ := κ)) occasion.keystroke widget)) hb
    rw [← bound]
    cases found with
    | none => exact ⟨false, false, looked, hl, able.bind (sought.bind (adds_pure false))⟩
    | some binding =>
      obtain ⟨accepting, enabling⟩ := sound binding rfl
      obtain ⟨accepts, weighed, hw, hc, -⟩ := accepting looked hl
      have accepted := adds_called (.accepts widget occasion.keystroke : Call κ)
        (fun answer _ => answer) hw
      cases accepts with
      | false =>
        refine ⟨false, false, weighed, hc, ?_⟩
        exact able.bind (sought.bind (accepted.bind_quiet (adds_pure false)))
      | true =>
        obtain ⟨usable, reached, hu, hd, -⟩ := enabling weighed hc
        have used := adds_called (.usable widget occasion.keystroke : Call κ)
          (fun answer _ => answer) hu
        exact ⟨true, usable, reached, hd, able.bind (sought.bind (accepted.bind used))⟩

/-! ## The command -/

theorem adds_ask (predicate : Option κ) {state : σ} (h : calm state) :
    ∃ (answer : Bool) (reached : σ), calm reached ∧
      Adds (Bound.ask dispatcher.minuted.calls ⟨occasion.command, occasion.context⟩ predicate) state
        (.ok (Occasion.allows predicate answer)) reached (occasion.ofPredicate predicate answer) := by
  cases predicate with
  | none => exact ⟨true, state, h, adds_pure true⟩
  | some callback =>
    obtain ⟨answer, reached, hr, hc, -⟩ := meets.decide callback occasion.context state h
    exact ⟨answer, reached, hc, adds_called _ _ hr⟩

theorem adds_giveFeedback {state : σ} (h : calm state) :
    ∃ reached, calm reached ∧
      Adds (Bound.giveFeedback dispatcher.minuted.calls ⟨occasion.command, occasion.context⟩) state
        (.ok ()) reached occasion.ofFeedback := by
  unfold Bound.giveFeedback Occasion.ofFeedback
  cases occasion.command.feedback with
  | toast =>
    obtain ⟨_, reached, hr, hc, -⟩ := meets.toast occasion.command.name occasion.command.id state h
    exact ⟨reached, hc, adds_called _ _ hr⟩
  | silent => exact ⟨state, h, adds_pure ()⟩
  | custom callback =>
    obtain ⟨_, reached, hr, hc, -⟩ := meets.report callback occasion.context state h
    exact ⟨reached, hc, adds_called _ _ hr⟩

/-- Nobody is called when a command is armed. -/
theorem adds_arm (tidy : dispatcher.Tidy occasion.event) (notice : Notice) {state : σ}
    (h : calm state) :
    ∃ reached, Adds (do
        dispatcher.minuted.award ⟨occasion.command, occasion.context⟩ occasion.event
          occasion.destination
        dispatcher.minuted.log notice
        return true) state (.ok true) reached [] := by
  obtain ⟨awarded, hw, armed, consumed⟩ := tidy.run_award ⟨occasion.command, occasion.context⟩
    occasion.destination (meets.idle state h)
  obtain ⟨_, told, hl, -, -⟩ := tidy.log notice _ _ awarded ⟨armed, consumed⟩
  have award := adds_asked (κ := κ) hw
  rw [← dispatcher.minuted_award] at award
  have log := adds_asked (κ := κ) hl
  exact ⟨told, award.bind (log.bind (adds_pure true))⟩

theorem adds_dispatchCommand (tidy : dispatcher.Tidy occasion.event) {state : σ} (h : calm state) :
    ∃ (valid enabled : Bool) (result : Except Fault Bool) (reached : σ),
      Adds (dispatcher.minuted.dispatchCommand ⟨occasion.command, occasion.context⟩ occasion.event
        occasion.destination occasion.keystroke) state result reached
        (occasion.ofCommand valid enabled) := by
  unfold dispatchCommand Occasion.ofCommand
  obtain ⟨valid, asked, ha, decided⟩ := meets.adds_ask occasion.command.valid h
  cases allowed : Occasion.allows occasion.command.valid valid with
  | false =>
    rw [allowed] at decided
    refine ⟨valid, true, .ok false, asked, ?_⟩
    rw [allowed]
    exact decided.bind (adds_pure false)
  | true =>
    rw [allowed] at decided
    obtain ⟨enabled, weighed, hw, answered⟩ := meets.adds_ask occasion.command.enabled ha
    cases able : Occasion.allows occasion.command.enabled enabled with
    | false =>
      rw [able] at answered
      obtain ⟨told, logged, ht, -⟩ := meets.adds_log ⟨hw, rfl⟩ (.notEnabled occasion.command.id)
      obtain ⟨reached, -, given⟩ := meets.adds_giveFeedback ht
      refine ⟨valid, enabled, .ok true, reached, ?_⟩
      rw [allowed, able]
      apply decided.bind
      apply answered.bind
      apply logged.bind
      exact given.bind_quiet (adds_pure true)
    | true =>
      rw [able] at answered
      -- What the command declares decides how this ends, and adds nothing.
      cases declared : occasion.command.precedence with
      | tier tier =>
        obtain ⟨reached, armed⟩ := meets.adds_arm tidy
          (.armedAt occasion.keystroke.shortcut occasion.command.id tier) hw
        refine ⟨valid, enabled, .ok true, reached, ?_⟩
        rw [allowed, able]
        exact decided.bind (answered.bind armed)
      | unknown name =>
        let fault := Fault.unknownPrecedence occasion.command.id name
        obtain ⟨told, logged, -⟩ := meets.adds_log ⟨hw, rfl⟩ (.unhandled fault)
        refine ⟨valid, enabled, .error fault, told, ?_⟩
        rw [allowed, able]
        exact decided.bind (answered.bind (logged.bind (adds_fail _)))

/-! ## What has the focus, then the command -/

/-- What has the focus takes the event exactly when the command does not have its turn. -/
theorem adds_focus {state : σ} (h : dispatcher.During occasion.event calm occasion.consumed state) :
    ∃ (replies : Replies) (taken : Option Bool) (reached : σ), calm reached ∧
      replies.heard.map (·.1) = occasion.listening ∧ taken.isNone = occasion.passes replies ∧
      Adds (dispatcher.minuted.takenBefore occasion.event none occasion.owner occasion.keystroke)
        state (.ok taken) reached (occasion.ofFocus replies) := by
  unfold Occasion.passes Occasion.ofFocus
  cases focused : occasion.owner with
  | none =>
    exact ⟨occasion.unasked, none, state, h.1, occasion.unasked_heard, rfl, adds_pure none⟩
  | some widget =>
    obtain ⟨heard, offered, ho, order, offer⟩ := meets.adds_offerToListeners focused h
    cases consumed : occasion.consumedAfter heard with
    | true =>
      rw [consumed] at offer
      obtain ⟨told, logged, ht, -⟩ := meets.adds_notice ⟨ho, rfl⟩
        (.takenByListener occasion.keystroke.shortcut widget.id) (some true)
      refine ⟨⟨heard, false, false, false, false⟩, some true, told, ht, order, ?_, ?_⟩
      · simp [consumed]
      · rw [consumed]
        exact offer.bind logged
    | false =>
      rw [consumed] at offer
      obtain ⟨accepts, usable, asked, ha, answered⟩ := meets.adds_hasUsableBinding focused ho
      cases left : occasion.hasUsableBinding accepts usable with
      | true =>
        rw [left] at answered
        obtain ⟨told, logged, ht, -⟩ := meets.adds_notice ⟨ha, rfl⟩
          (.leftToBinding occasion.keystroke.shortcut widget.id) (some false)
        refine ⟨⟨heard, accepts, usable, false, false⟩, some false, told, ht, order, ?_, ?_⟩
        · simp [consumed, left]
        · rw [consumed]
          exact offer.bind (answered.bind_quiet logged)
      | false =>
        rw [left] at answered
        refine ⟨⟨heard, accepts, usable, false, false⟩, none, asked, ha, order, ?_, ?_⟩
        · simp [consumed, left]
        · rw [consumed]
          exact offer.bind (answered.bind_quiet (adds_pure none))

/-- An event for a text editor is left to it, and any other goes on to what has the focus. -/
theorem adds_takenBefore {state : σ}
    (h : dispatcher.During occasion.event calm occasion.consumed state) :
    ∃ (replies : Replies) (taken : Option Bool) (reached : σ), calm reached ∧
      replies.heard.map (·.1) = occasion.listening ∧
      taken.isNone = (!occasion.routed && occasion.passes replies) ∧
      Adds (dispatcher.minuted.takenBefore occasion.event occasion.destination occasion.owner
        occasion.keystroke) state (.ok taken) reached
        (if occasion.routed then [] else occasion.ofFocus replies) := by
  cases headed : occasion.destination with
  | none =>
    rw [meets.unheaded headed]
    exact meets.adds_focus h
  | some widget =>
    obtain ⟨_, asked, hr, ha, rfl⟩ := meets.goesToText widget headed state h
    have routed := adds_asked (κ := κ) hr
    rw [← dispatcher.toolkit.annotated_goesToText _ dispatcher.consumed] at routed
    cases goes : occasion.routed with
    | true =>
      rw [goes] at routed
      obtain ⟨told, logged, ht, -⟩ := meets.adds_notice ha
        (.leftToEditor occasion.keystroke.shortcut widget.id) (some false)
      exact ⟨occasion.unasked, some false, told, ht, occasion.unasked_heard, rfl,
        routed.bind logged⟩
    | false =>
      rw [goes] at routed
      obtain ⟨replies, taken, reached, hc, order, passes, focus⟩ := meets.adds_focus ha
      exact ⟨replies, taken, reached, hc, order, passes, routed.bind focus⟩

theorem adds_dispatchFound (tidy : dispatcher.Tidy occasion.event) {state : σ}
    (h : dispatcher.During occasion.event calm occasion.consumed state) :
    ∃ (replies : Replies) (result : Except Fault Bool) (reached : σ),
      replies.heard.map (·.1) = occasion.listening ∧
      Adds (dispatcher.minuted.dispatchFound ⟨occasion.command, occasion.context⟩ occasion.event
        occasion.destination occasion.keystroke) state result reached
        (occasion.afterFound replies) := by
  obtain ⟨recording, asked, hr, ha, -⟩ := meets.isRecording state h
  have recorded := adds_asked (κ := κ) hr
  rw [← dispatcher.annotated_isRecording] at recorded
  unfold dispatchFound Occasion.afterFound
  by_cases system : occasion.command.precedence = .tier .system
  · simp only [system, if_true, true_or]
    cases recording with
    | true =>
      exact ⟨occasion.unasked, _, asked, occasion.unasked_heard, recorded.bind (adds_pure false)⟩
    | false =>
      obtain ⟨reached, armed⟩ := meets.adds_arm tidy
        (.armedSystem occasion.keystroke.shortcut occasion.command.id) ha.1
      exact ⟨occasion.unasked, _, reached, occasion.unasked_heard, recorded.bind armed⟩
  · simp only [system, if_false, false_or]
    obtain ⟨replies, taken, weighed, hw, order, passes, took⟩ := meets.adds_takenBefore ha
    cases taken with
    | some handled =>
      have heard : (if occasion.routed = true then [] else occasion.ofFocus replies ++
          if occasion.passes replies then occasion.ofCommand replies.valid replies.enabled else []) =
          if occasion.routed = true then [] else occasion.ofFocus replies := by
        cases routed : occasion.routed with
        | true => rfl
        | false =>
          have turn : occasion.passes replies = false := by simpa [routed] using passes.symm
          simp [turn]
      refine ⟨replies, .ok handled, weighed, order, ?_⟩
      rw [heard]
      exact recorded.bind (took.bind_quiet (adds_pure handled))
    | none =>
      obtain ⟨unrouted, turn⟩ : occasion.routed = false ∧ occasion.passes replies = true := by
        simpa using passes.symm
      rw [unrouted] at took ⊢
      obtain ⟨valid, enabled, result, reached, asks⟩ := meets.adds_dispatchCommand tidy hw
      refine ⟨{ replies with valid, enabled }, result, reached, order, ?_⟩
      have turn : occasion.passes { replies with valid, enabled } = true := turn
      rw [turn]
      exact recorded.bind (took.bind asks)

/-- The menu and the resolver are called, and then those whose turn it is. -/
theorem adds_dispatchFree (tidy : dispatcher.Tidy occasion.event) {state : σ}
    (h : dispatcher.During occasion.event calm occasion.consumed state) :
    ∃ (replies : Replies) (result : Except Fault Bool) (reached : σ),
      replies.heard.map (·.1) = occasion.listening ∧
      Adds (dispatcher.minuted.dispatchFree occasion.event occasion.destination) state result reached
        (occasion.minutes replies) := by
  have declined : ∃ asked, dispatcher.During occasion.event calm occasion.consumed asked ∧
      Adds (dispatcher.minuted.drivesMenu occasion.event) state (.ok false) asked
        (if occasion.menu then [⟨.menu occasion.event, some false⟩] else []) := by
    rw [meets.hasMenu]
    unfold drivesMenu minuted annotated
    cases menu : dispatcher.menu with
    | none => exact ⟨state, h, adds_pure false⟩
    | some processes =>
      obtain ⟨_, asked, hr, ha, rfl⟩ := meets.menu processes menu state h
      exact ⟨asked, ha, adds_called _ _ hr⟩
  obtain ⟨asked, ha, menu⟩ := declined
  obtain ⟨_, opened, hw, ho, rfl⟩ := meets.window asked ha
  obtain ⟨_, found, hc, hf, rfl⟩ := meets.commandFor opened ho
  obtain ⟨_, focused, hr, hd, rfl⟩ := meets.owner found hf
  obtain ⟨replies, result, reached, order, rest⟩ := meets.adds_dispatchFound tidy hd
  refine ⟨replies, result, reached, order, ?_⟩
  unfold dispatchFree Occasion.minutes Occasion.opening
  rw [List.append_assoc]
  apply menu.bind
  have window := adds_asked (κ := κ) hw
  apply window.bind
  simp only [meets.plain, Bool.false_eq_true, if_false]
  have resolved := adds_called (.resolver occasion.keystroke occasion.window : Call κ)
    (fun found _ => found.isSome) hc
  rw [meets.keystroke] at resolved rest ⊢
  apply resolved.bind
  have owner := adds_asked (κ := κ) hr
  exact owner.bind rest

theorem adds_continues {state : σ} (h : calm state) :
    Adds (dispatcher.minuted.holder.continues occasion.event occasion.destination) state (.ok false)
      state [] := by
  intro minutes
  have idle : dispatcher.minuted.armed.get ⟨state, minutes⟩ = none := meets.idle state h
  unfold Holder.continues
  rw [holder_armed, run_attempt, run_bind, Slot.run_read, idle]
  simp

end Dispatcher.Meets

/-- Dispatching an event from rest, when a command is found for it, calls whoever is due, once and
in order, and nobody else. The listeners of what has the focus come first, all that listen and
however often the event is consumed. Its binding is asked only if the event is not consumed then,
and the command only if there is no usable binding. None of them is called for a system command or
about an event for a text editor. -/
theorem minutes_exact {dispatcher : Dispatcher σ κ} {occasion : Occasion κ} {calm : σ → Prop}
    (meets : dispatcher.Meets occasion calm) (tidy : dispatcher.Tidy occasion.event) {state : σ}
    (h : dispatcher.During occasion.event calm occasion.consumed state) :
    ∃ (replies : Replies) (result : Except Fault Bool) (reached : σ),
      replies.heard.map (·.1) = occasion.listening ∧
      (dispatcher.dispatch occasion.event).attempt.run state = .done result reached ∧
      (dispatcher.minuted.dispatch occasion.event).attempt.run ⟨state, []⟩ =
        .done result ⟨reached, occasion.minutes replies⟩ := by
  obtain ⟨_, arrived, hr, ha, rfl⟩ := meets.arrival state h
  have arrival := adds_asked (κ := κ) hr
  rw [← dispatcher.annotated_arrival] at arrival
  obtain ⟨replies, result, reached, order, rest⟩ := meets.adds_dispatchFree tidy ha
  have dispatched : Adds (dispatcher.minuted.dispatch occasion.event) state result reached
      (occasion.minutes replies) := by
    apply arrival.bind
    exact (meets.adds_continues ha.1).bind rest
  have run := dispatched []
  have alike := alike_attempt ((dispatcher.annotated_alike .minutes).dispatch occasion.event)
  exact ⟨replies, result, reached, order, (run_host_eq_done alike).mpr ⟨_, run⟩, run⟩

/-! ## An occasion for every situation -/

namespace Situation

/-- A command has been found in a situation. All listeners of its host listen. -/
def occasion (situation : Situation κ) (platform : Platform) (event : KeyEvent) (window : Window)
    (command : Command κ) : Occasion κ :=
  let keystroke := platform.keystroke event.input event.phase
  { event
    keystroke
    consumed := false
    destination := situation.destination event
    owner := situation.owner
    window
    menu := true
    command
    routed := (situation.destination event).any (situation.claimsKey event keystroke)
    listens := situation.owner.elim [] fun widget => (situation.consumes widget).map fun _ => true
    isEnabled := situation.owner.any situation.isEnabled
    isBound := situation.owner.any fun widget => (situation.binding widget keystroke).isSome }

theorem meets (situation : Situation κ) (platform : Platform) {event : KeyEvent} {window : Window}
    {command : Command κ} (unblocked : situation.blocks event = false)
    (declined : situation.menuTakes = false) (plain : event.input.isModifierKey = false)
    (opened : situation.window = some window)
    (found : situation.commandFor (platform.keystroke event.input event.phase) window = some command) :
    (situation.dispatcher platform).Meets (situation.occasion platform event window command)
      (·.armed = none) where
  keystroke := rfl
  plain := plain
  idle _ idle := idle
  log := (situation.faces platform event).log
  arrival := by
    have arrival := (situation.faces platform event).arrival
    rwa [unblocked] at arrival
  hasMenu := rfl
  menu := by
    rintro _ ⟨⟩
    exact answers_pure declined
  window := answers_pure opened
  commandFor := answers_pure found
  owner := answers_pure rfl
  isRecording := ((situation.faces platform event).isRecording _).mono fun _ _ => trivial
  goesToText widget headed := by
    have headed : situation.destination event = some widget := headed
    have claims := (situation.faces platform event).goesToText widget
      (platform.keystroke event.input event.phase)
    simpa [occasion, headed] using claims
  unheaded headed := by
    have headed : situation.destination event = none := headed
    simp [occasion, headed]
  listenersOf widget focused := by
    have focused : situation.owner = some widget := focused
    apply answers_pure
    intro position consumed
    apply answers_pure
    simp only [occasion, focused, Option.elim_some, List.getElem?_map]
    cases (situation.consumes widget)[position]? with
    | none => exact .none
    | some consumes =>
      refine .some ⟨rfl, ?_⟩
      rintro _ state ⟨idle, rfl⟩
      exact ⟨_, _, rfl, idle, rfl⟩
  room := by
    cases focused : situation.owner <;> simp [occasion, dispatcher, focused]
  isEnabled widget focused := by
    have focused : situation.owner = some widget := focused
    simpa [occasion, focused] using (situation.faces platform event).isEnabled widget
  bindingOf widget focused := by
    have focused : situation.owner = some widget := focused
    apply answers_pure
    constructor
    · simp [occasion, focused]
    · intro binding held
      obtain ⟨usability, -, rfl⟩ := Option.map_eq_some_iff.mp held
      exact ⟨answers_pure trivial, answers_pure trivial⟩
  decide _ _ := answers_pure trivial
  report _ _ := answers_pure trivial
  toast _ _ := answers_pure trivial

end Situation

namespace Still

/-- With Ctrl the key passes the editor, and the list and its binding are asked before the
command. -/
theorem save_minuted :
    let event := pressS { ctrl := true }
    let dispatcher := saving.dispatcher .other
    let occasion := saving.occasion .other event Bare.main save
    (dispatcher.Meets occasion (·.armed = none) ∧ dispatcher.Tidy event ∧
      dispatcher.During event (·.armed = none) false {}) ∧
    ∃ (replies : Replies) (result : Except Fault Bool) (reached : Still Bool),
      replies.heard.map (·.1) = [0] ∧
      (dispatcher.dispatch event).attempt.run {} = .done result reached ∧
      (dispatcher.minuted.dispatch event).attempt.run ⟨{}, []⟩ =
        .done result ⟨reached, occasion.minutes replies⟩ := by
  intro event dispatcher occasion
  have keystroke : Platform.other.keystroke event.input event.phase = ⟨"Ctrl+S", .pressed⟩ := by
    decide
  have finds : saving.commandFor (Platform.other.keystroke event.input event.phase) Bare.main =
      some save := by
    rw [keystroke]
    simp only [saving, if_true]
  have meets : dispatcher.Meets occasion (·.armed = none) :=
    saving.meets .other rfl rfl (by decide) rfl finds
  have tidy : dispatcher.Tidy event := saving.tidy .other event
  have start : dispatcher.During event (·.armed = none) false {} := ⟨rfl, rfl⟩
  exact ⟨⟨meets, tidy, start⟩, minutes_exact meets tidy start⟩

end Still

end KeyPrecedence
