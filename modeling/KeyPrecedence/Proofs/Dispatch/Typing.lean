import KeyPrecedence.Proofs.Dispatch.Arming
import KeyPrecedence.Proofs.Key.Shortcut

/-!
# Typing in a text editor

* `Platform.reserveKey_of_lead`: a key that reads as if no modifier but Shift were held is left to
  editing, unless AltGraph is held on a Mac, where it has no mark;
* `Dispatcher.Typing`: a key in a text editor that gets as far as the commands;
* `Typing.answers_judge`: the editor gets it, or a system command does;
* `typing_spares_plain_keys`: so typing arms no other command and calls no listener.
-/

namespace KeyPrecedence

/-! ## What a shortcut tells of the modifiers -/

namespace Platform

/-- Every modifier has a mark, except for AltGraph on a Mac. -/
theorem reserveKey_of_lead {platform : Platform} {modifiers : Modifiers} {shift : Bool}
    (h : platform.lead modifiers = platform.lead { shift }) :
    modifiers.reserveKey = (platform = .mac && modifiers.altGraph) := by
  obtain ⟨ctrl, alt, altGraph, held, logo⟩ := modifiers
  revert ctrl alt altGraph held logo shift
  cases platform <;> decide

/-- What reads as plain and is left out of editing has AltGraph held on a Mac. -/
theorem altGraph_of_isModified {platform : Platform} {input : KeyInput} {shift : Bool}
    (plain : input.isModifierKey = false)
    (same : platform.shortcut input = platform.shortcut ⟨input.key, { shift }⟩)
    (modified : input.isModified = true) :
    platform = .mac ∧ input.modifiers.altGraph = true := by
  have plain' : (⟨input.key, { shift }⟩ : KeyInput).isModifierKey = false := plain
  rw [platform.shortcut_eq plain, platform.shortcut_eq plain'] at same
  have held := reserveKey_of_lead ((String.append_left_inj _).mp same)
  rw [KeyInput.isModified, held] at modified
  simpa using modified

end Platform

open Act

variable {σ κ α : Type}

/-! ## What the editor leaves to the commands -/

/-- A key is pressed in a text editor and gets as far as the commands, and every question on its way
is answered: the gate lets it through, nothing is armed, and no menu takes it. The states of the
host during this are those with `inv`. -/
structure Dispatcher.Typing (dispatcher : Dispatcher σ κ) (inv : σ → Prop) (event : KeyEvent)
    (editor : Widget) : Prop where
  arrival : (dispatcher.arrival event).Answers inv (· = some (some editor))
  idle : ∀ state, inv state → dispatcher.armed.get state = none
  unconsumed : ∀ state, inv state → (dispatcher.consumed event).get state = false
  menu : (dispatcher.drivesMenu event).Answers inv (· = false)
  window : dispatcher.focus.window.Answers inv fun _ => True
  commandFor : ∀ keystroke window,
    (dispatcher.commandFor keystroke window).Answers inv fun _ => True
  owner : dispatcher.focus.owner.Answers inv fun _ => True
  recording : (dispatcher.toolkit.isKeyCapture editor).Answers inv fun _ => True
  editable : (dispatcher.toolkit.isTextEditor editor).Answers inv (· = true)
  log : ∀ notice, (dispatcher.log notice).Answers inv fun _ => True

/-- The host keeps the key, or a system command wins it. -/
def Ruling.Spares : Ruling κ → Prop
  | .left => True
  | .arm bound _ => bound.command.precedence = .tier .system
  | .taken | .refuse _ | .unknown _ _ => False

namespace Dispatcher.Typing

variable {dispatcher : Dispatcher σ κ} {inv : σ → Prop} {event : KeyEvent} {editor : Widget}
  (typing : dispatcher.Typing inv event editor)

include typing

theorem goesToText {keystroke : Keystroke} (other : event.input.key ≠ "Escape")
    (bound : event.input.isModified = true →
      (dispatcher.toolkit.hasBinding editor keystroke).Answers inv (· = true)) :
    (dispatcher.toolkit.goesToText event editor keystroke).Answers inv (· = true) := by
  apply typing.editable.bind
  rintro _ rfl
  simp only [if_true, if_neg other]
  cases modified : event.input.isModified with
  | true => exact bound modified
  | false => exact answers_pure rfl

theorem answers_judgeFound {keystroke : Keystroke} (command : Bound κ)
    (text : (dispatcher.toolkit.goesToText event editor keystroke).Answers inv (· = true)) :
    (dispatcher.judgeFound command event (some editor) keystroke).Answers inv Ruling.Spares := by
  apply typing.recording.bind
  intro recording _
  by_cases system : command.command.precedence = .tier .system
  · rw [if_pos system]
    cases recording with
    | true => exact answers_pure trivial
    | false => exact answers_pure system
  · rw [if_neg system]
    have taken : (dispatcher.takenBefore event (some editor) command.context.focusOwner
        keystroke).Answers inv (· = some false) := by
      apply text.bind
      rintro _ rfl
      exact (typing.log _).bind fun _ _ => answers_pure rfl
    apply taken.bind
    rintro _ rfl
    exact answers_pure trivial

/-- A key that goes to text is ruled to be the host's, unless a system command has it. -/
theorem answers_judge (text : ∀ keystroke,
      keystroke = dispatcher.platform.keystroke event.input event.phase →
      (dispatcher.toolkit.goesToText event editor keystroke).Answers inv (· = true)) :
    (dispatcher.judge event (some editor)).Answers inv Ruling.Spares := by
  apply typing.menu.bind
  rintro _ rfl
  apply typing.window.bind
  rintro (_ | window) -
  · exact answers_pure trivial
  cases event.input.isModifierKey with
  | true => exact answers_pure trivial
  | false =>
    apply (typing.commandFor _ window).bind
    rintro (_ | command) -
    · exact answers_pure trivial
    · exact typing.owner.bind fun owner _ => typing.answers_judgeFound _ (text _ rfl)

/-- Nothing is armed or consumed, or a system command is. -/
theorem run_dispatch (tidy : dispatcher.Tidy event)
    (text : ∀ keystroke, keystroke = dispatcher.platform.keystroke event.input event.phase →
      (dispatcher.toolkit.goesToText event editor keystroke).Answers inv (· = true))
    {state : σ} (h : inv state) :
    ∃ handled reached, (dispatcher.dispatch event).run state = .done handled reached ∧
      ((handled = false ∧ inv reached) ∨
        ∃ armed, dispatcher.armed.get reached = some armed ∧
          armed.command.command.precedence = .tier .system) := by
  obtain ⟨_, arrived, ha, h, rfl⟩ := typing.arrival state h
  obtain ⟨ruling, judged, hj, h, spares⟩ := typing.answers_judge text arrived h
  have continues : (dispatcher.holder.continues event (some editor)).run arrived =
      .done false arrived := by
    unfold Holder.continues
    rw [holder_armed, run_bind, Slot.run_read, typing.idle arrived ‹_›]
    rfl
  have dispatched : (dispatcher.dispatch event).run state =
      (dispatcher.carryOut event (some editor) ruling).run judged := by
    refine (run_bind_of_done ha).trans ((run_bind_of_done continues).trans ?_)
    simp only [Bool.false_eq_true, if_false]
    rw [dispatchFree_eq, run_bind_of_done hj]
  rw [dispatched]
  cases ruling with
  | left => exact ⟨false, judged, rfl, .inl ⟨rfl, h⟩⟩
  | arm bound notice =>
    obtain ⟨awarded, hw, armed, consumed⟩ :=
      tidy.run_award bound (some editor) (typing.idle judged h)
    obtain ⟨_, told, hl, ⟨kept, -⟩, -⟩ := tidy.log notice _ _ awarded ⟨armed, consumed⟩
    exact ⟨true, told, (run_bind_of_done hw).trans (run_bind_of_done hl), .inr ⟨_, kept, spares⟩⟩
  | taken | refuse | unknown => exact spares.elim

end Dispatcher.Typing

/-! ## Who is called meanwhile -/

def Call.isListener : Call κ → Bool
  | .listener .. => true
  | _ => false

/-- The host is as wanted, and no listener is on the list. -/
structure Watched.Unheard (inv : σ → Prop) (watched : Watched σ κ) : Prop where
  host : inv watched.host
  calls : ∀ call ∈ watched.record, call.isListener = false

open Watched

section
variable {inv : σ → Prop} {good : α → Prop} {act : Act σ α}

theorem Annotated.answers_asked (h : act.Answers inv good) :
    (asked (Notes.calls (κ := κ)).failure act).Answers (Unheard inv) good := by
  intro watched unheard
  obtain ⟨value, reached, hr, hi, hg⟩ := h watched.host unheard.host
  exact ⟨value, _, run_asked_of_done hr, ⟨hi, unheard.calls⟩, hg⟩

theorem Notes.answers_called {call : Call κ} {answer : α → σ → Bool}
    (silent : call.isListener = false) (h : act.Answers inv good) :
    (Notes.calls.called call answer act).Answers (Unheard inv) good := by
  intro watched unheard
  obtain ⟨value, reached, hr, hi, hg⟩ := h watched.host unheard.host
  refine ⟨value, _, Annotated.run_step_of_done hr, ⟨hi, fun other hm => ?_⟩, hg⟩
  rcases List.mem_append.mp hm with hm | hm
  · exact unheard.calls other hm
  · rw [List.mem_singleton.mp hm, silent]

end

open Annotated Notes

/-- None of the questions about a key in an editor calls a listener. -/
theorem Dispatcher.Typing.watched {dispatcher : Dispatcher σ κ} {inv : σ → Prop} {event : KeyEvent}
    {editor : Widget} (typing : dispatcher.Typing inv event editor) :
    dispatcher.watched.Typing (Unheard inv) event editor where
  arrival := by
    rw [Dispatcher.annotated_arrival]
    exact answers_asked typing.arrival
  idle watched unheard := typing.idle watched.host unheard.host
  unconsumed watched unheard := typing.unconsumed watched.host unheard.host
  menu := by
    have menu := typing.menu
    unfold Dispatcher.drivesMenu at menu ⊢
    cases found : dispatcher.menu with
    | none =>
      simp only [Dispatcher.annotated, found, Option.map_none]
      exact answers_pure rfl
    | some processes =>
      rw [found] at menu
      simp only [Dispatcher.annotated, found, Option.map_some]
      exact answers_called rfl menu
  window := answers_asked typing.window
  commandFor keystroke window := answers_called rfl (typing.commandFor keystroke window)
  owner := answers_asked typing.owner
  recording := answers_asked typing.recording
  editable := answers_asked typing.editable
  log notice := answers_asked (typing.log notice)

theorem Dispatcher.Tidy.watched {dispatcher : Dispatcher σ κ} {event : KeyEvent}
    (tidy : dispatcher.Tidy event) : dispatcher.watched.Tidy event where
  armed value watched := tidy.armed value watched.host
  consumed value watched := tidy.consumed value watched.host
  apart value watched := tidy.apart value watched.host
  log notice armed consumed watched h := by
    obtain ⟨value, reached, hr, hi, hg⟩ := tidy.log notice armed consumed watched.host h
    exact ⟨value, _, run_asked_of_done hr, hi, hg⟩

/-- A key that reads as it would with no modifier, or with Shift alone, and is pressed in a text
editor arms no command but a system command. If none is armed, the host has the key: it is not
consumed, and no listener is called for it. On a Mac this needs a binding of the editor's for the
keystroke where AltGraph is held, which the shortcut does not tell. -/
theorem typing_spares_plain_keys {dispatcher : Dispatcher σ κ} {inv : σ → Prop} {event : KeyEvent}
    {editor : Widget} (typing : dispatcher.Typing inv event editor) (tidy : dispatcher.Tidy event)
    (plain : event.input.isModifierKey = false) (other : event.input.key ≠ "Escape") {shift : Bool}
    (same : dispatcher.platform.shortcut event.input =
      dispatcher.platform.shortcut ⟨event.input.key, { shift }⟩)
    (marked : dispatcher.platform = .mac → event.input.modifiers.altGraph = true →
      (dispatcher.toolkit.hasBinding editor
        (dispatcher.platform.keystroke event.input event.phase)).Answers inv (· = true))
    {state : σ} (h : inv state) :
    ∃ handled reached calls, (dispatcher.dispatch event).run state = .done handled reached ∧
      (dispatcher.watched.dispatch event).run ⟨state, []⟩ = .done handled ⟨reached, calls⟩ ∧
      ((∃ armed, dispatcher.armed.get reached = some armed ∧
          armed.command.command.precedence = .tier .system) ∨
        (handled = false ∧ dispatcher.armed.get reached = none ∧
          (dispatcher.consumed event).get reached = false ∧
          ∀ call ∈ calls, call.isListener = false)) := by
  have text : ∀ keystroke,
      keystroke = dispatcher.watched.platform.keystroke event.input event.phase →
      (dispatcher.watched.toolkit.goesToText event editor keystroke).Answers (Unheard inv)
        (· = true) := by
    rintro _ rfl
    apply typing.watched.goesToText other
    intro modified
    obtain ⟨mac, held⟩ := Platform.altGraph_of_isModified plain same modified
    have bound := answers_asked (κ := κ) (marked mac held)
    rwa [← Toolkit.annotated_hasBinding _ _ dispatcher.consumed] at bound
  have unheard : Unheard inv (⟨state, []⟩ : Watched σ κ) := ⟨h, by simp⟩
  obtain ⟨handled, ⟨reached, calls⟩, hr, ends⟩ :=
    typing.watched.run_dispatch tidy.watched text unheard
  have dispatched : (dispatcher.dispatch event).run state = .done handled reached :=
    (run_host_eq_done ((dispatcher.annotated_alike .calls).dispatch event)).mpr ⟨calls, hr⟩
  refine ⟨handled, reached, calls, dispatched, hr, ?_⟩
  rcases ends with ⟨rfl, unheard⟩ | system
  · exact .inr ⟨rfl, typing.idle _ unheard.host, typing.unconsumed _ unheard.host, unheard.calls⟩
  · exact .inl system

/-- A situation in which a key is pressed in a text editor and gets as far as the commands. -/
theorem Dispatcher.Faces.typing {dispatcher : Dispatcher σ κ} {event : KeyEvent}
    {situation : Situation κ} {calm : σ → Prop} (faces : dispatcher.Faces event situation calm)
    {editor : Widget} (unblocked : situation.blocks event = false)
    (headed : situation.destination event = some editor) (declined : situation.menuTakes = false)
    (editable : situation.isTextEditor editor = true) :
    dispatcher.Typing (dispatcher.During event calm false) event editor where
  arrival := by simpa [unblocked, headed] using faces.arrival
  idle state h := faces.idle state h.1
  unconsumed _ h := h.2
  menu state h := by
    obtain ⟨reached, hr, -, during⟩ := faces.menu state h
    exact ⟨_, reached, hr, during declined, declined⟩
  window := faces.window.mono fun _ _ => trivial
  commandFor keystroke window := (faces.commandFor keystroke window).mono fun _ _ => trivial
  owner := faces.owner.mono fun _ _ => trivial
  recording := (faces.isKeyCapture editor).mono fun _ _ => trivial
  editable := by simpa [editable] using faces.isTextEditor editor
  log notice := faces.log notice false

/-! ## A command on a plain key, typed into an editor -/

namespace Still

/-- The command of a tool on the key S alone. -/
def sketch : Command Bool :=
  { save with
    id := "sketch", name := "Sketch", precedence := .tier .toolDefault, shortcuts := ["S"] }

/-- The key is looked up in a registry. The list has the focus, with a listener that lets keys
pass. -/
def sketching : Situation Bool :=
  { saving with commandFor := fun keystroke window =>
      (({ commands := [sketch] } : Registry Bool).resolve .default ScopeTable.appScope keystroke
        window).command }

theorem sketching_typing (platform : Platform) (modifiers : Modifiers) :
    (sketching.dispatcher platform).Typing
      ((sketching.dispatcher platform).During (pressS modifiers) (·.armed = none) false)
      (pressS modifiers) editor :=
  (sketching.faces platform (pressS modifiers)).typing rfl rfl rfl (by decide)

/-- Pressed alone, the key S is the editor's. -/
theorem sketch_left_to_editor :
    ((sketching.dispatcher .mac).Typing ((sketching.dispatcher .mac).During
        (pressS {}) (·.armed = none) false) (pressS {}) editor ∧
      (sketching.dispatcher .mac).Tidy (pressS {}) ∧
      Platform.mac.shortcut (pressS {}).input = Platform.mac.shortcut ⟨"s", {}⟩) ∧
    ∃ handled reached calls,
      ((sketching.dispatcher .mac).dispatch (pressS {})).run {} = .done handled reached ∧
      ((sketching.dispatcher .mac).watched.dispatch (pressS {})).run ⟨{}, []⟩ =
        .done handled ⟨reached, calls⟩ ∧
      ((∃ armed, reached.armed = some armed ∧
          armed.command.command.precedence = .tier .system) ∨
        (handled = false ∧ reached.armed = none ∧ reached.consumed = false ∧
          ∀ call ∈ calls, call.isListener = false)) := by
  have typing := sketching_typing .mac {}
  have tidy := sketching.tidy .mac (pressS {})
  have same : Platform.mac.shortcut (pressS {}).input =
      Platform.mac.shortcut ⟨"s", { shift := false }⟩ := rfl
  have start : (sketching.dispatcher .mac).During (pressS {}) (·.armed = none) false {} :=
    ⟨rfl, rfl⟩
  exact ⟨⟨typing, tidy, same⟩,
    typing_spares_plain_keys typing tidy (by decide) (by decide) same (fun _ => nofun) start⟩

/-- On a Mac the key S arms the command while AltGraph is held, although the editor has the event
and the shortcut is that of the key alone. -/
theorem sketch_armed_with_altGraph :
    (sketching.dispatcher .mac).Typing ((sketching.dispatcher .mac).During
      (pressS { altGraph := true }) (·.armed = none) false) (pressS { altGraph := true }) editor ∧
    (sketching.dispatcher .mac).Tidy (pressS { altGraph := true }) ∧
    (pressS { altGraph := true }).input.isModifierKey = false ∧
    (pressS { altGraph := true }).input.key ≠ "Escape" ∧
    Platform.mac.shortcut (pressS { altGraph := true }).input = Platform.mac.shortcut ⟨"s", {}⟩ ∧
    ∃ reached, ((sketching.dispatcher .mac).dispatch (pressS { altGraph := true })).run {} =
        .done true reached ∧
      reached.armed = some ⟨⟨sketch, ⟨some list, some Bare.main⟩⟩, some editor⟩ ∧
      reached.consumed = true := by
  refine ⟨sketching_typing .mac _, sketching.tidy .mac _, by decide, by decide, by decide,
    { armed := some ⟨⟨sketch, ⟨some list, some Bare.main⟩⟩, some editor⟩, consumed := true },
    ?_, rfl, rfl⟩
  rfl

end Still

end KeyPrecedence
