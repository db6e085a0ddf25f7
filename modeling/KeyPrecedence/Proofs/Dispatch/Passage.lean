import KeyPrecedence.Proofs.Dispatch.Ruling

/-!
# What an event has gone past

* `Dispatcher.Finds`: an event arrives, goes past the armed command and the menu, and finds a
  command;
* `Dispatcher.Passes`: it goes past editor, listeners, bindings and predicates to the command;
* `Dispatcher.run_judge_unknown_iff`: whatever has no step for its precedence has been found and has
  been passed to.
-/

namespace KeyPrecedence

open Act

variable {σ κ : Type}

namespace Dispatcher

/-- No menu takes the event, and `bound` is the command for it in the active window. -/
def Resolves (dispatcher : Dispatcher σ κ) (event : KeyEvent) (bound : Bound κ) (free found : σ) :
    Prop :=
  ∃ declined opened looked window,
    (dispatcher.drivesMenu event).run free = .done false declined ∧
    dispatcher.focus.window.run declined = .done (some window) opened ∧
    event.input.isModifierKey = false ∧
    (dispatcher.commandFor (dispatcher.platform.keystroke event.input event.phase) window).run opened =
      .done (some bound.command) looked ∧
    dispatcher.focus.owner.run looked = .done bound.context.focusOwner found ∧
    bound.context.activeWindow = some window

/-- The event arrives, no armed command absorbs it, and `bound` is the command for it. -/
def Finds (dispatcher : Dispatcher σ κ) (event : KeyEvent) (destination : Option Widget)
    (bound : Bound κ) (state found : σ) : Prop :=
  ∃ arrived free,
    (dispatcher.arrival event).run state = .done (some destination) arrived ∧
    (dispatcher.holder.continues event destination).run arrived = .done false free ∧
    dispatcher.Resolves event bound free found

/-- The destination is no editor that needs the event. -/
def PassesText (dispatcher : Dispatcher σ κ) (event : KeyEvent) (keystroke : Keystroke) :
    Option Widget → σ → σ → Prop
  | none, state, reached => reached = state
  | some widget, state, reached =>
    (dispatcher.toolkit.goesToText event widget keystroke).run state = .done false reached

/-- No listener of the focus owner has consumed the event, and it has no binding that would run. -/
def PassesOwner (dispatcher : Dispatcher σ κ) (event : KeyEvent) (keystroke : Keystroke) :
    Option Widget → σ → σ → Prop
  | none, state, reached => reached = state
  | some widget, state, reached => ∃ heard,
    (dispatcher.offerToListeners widget event).run state = .done false heard ∧
    (dispatcher.toolkit.hasUsableBinding widget keystroke).run heard = .done false reached

/-- Nobody takes the event before the command, which is valid and enabled. -/
def Passes (dispatcher : Dispatcher σ κ) (event : KeyEvent) (destination : Option Widget)
    (bound : Bound κ) (found passed : σ) : Prop :=
  let keystroke := dispatcher.platform.keystroke event.input event.phase
  ∃ recording asked routed offered valid,
    (dispatcher.isRecording destination).run found = .done recording asked ∧
    dispatcher.PassesText event keystroke destination asked routed ∧
    dispatcher.PassesOwner event keystroke bound.context.focusOwner routed offered ∧
    (bound.isValid dispatcher.calls).run offered = .done true valid ∧
    (bound.isEnabled dispatcher.calls).run valid = .done true passed

variable {dispatcher : Dispatcher σ κ} {event : KeyEvent}

theorem run_takenBefore_none_iff {destination focusOwner : Option Widget} {keystroke : Keystroke}
    {state reached : σ} :
    (dispatcher.takenBefore event destination focusOwner keystroke).run state = .done none reached ↔
      ∃ routed, dispatcher.PassesText event keystroke destination state routed ∧
        dispatcher.PassesOwner event keystroke focusOwner routed reached := by
  have owned (state : σ) :
      (dispatcher.takenBefore event none focusOwner keystroke).run state = .done none reached ↔
        dispatcher.PassesOwner event keystroke focusOwner state reached := by
    cases focusOwner with
    | none =>
      constructor
      · rintro ⟨⟩
        rfl
      · rintro rfl
        rfl
    | some widget =>
      have told (notice : Notice) (handled : Bool) (state : σ) :
          (do dispatcher.log notice; return some handled : Act σ (Option Bool)).run state ≠
            .done none reached := by
        intro h
        obtain ⟨_, told, -, h⟩ := run_bind_eq_done.mp h
        cases h
      constructor
      · intro h
        obtain ⟨consumed, heard, ho, h⟩ := run_bind_eq_done.mp h
        cases consumed with
        | true => exact absurd h (told _ _ _)
        | false =>
          obtain ⟨usable, asked, hu, h⟩ := run_bind_eq_done.mp h
          cases usable with
          | true => exact absurd h (told _ _ _)
          | false =>
            cases h
            exact ⟨heard, ho, hu⟩
      · rintro ⟨heard, ho, hu⟩
        exact run_bind_eq_done.mpr ⟨false, heard, ho, run_bind_eq_done.mpr ⟨false, reached, hu, rfl⟩⟩
  cases destination with
  | none =>
    rw [owned]
    constructor
    · exact fun h => ⟨state, rfl, h⟩
    · rintro ⟨_, rfl, h⟩
      exact h
  | some widget =>
    constructor
    · intro h
      obtain ⟨text, routed, hg, h⟩ := run_bind_eq_done.mp h
      cases text with
      | true =>
        obtain ⟨_, told, -, h⟩ := run_bind_eq_done.mp h
        cases h
      | false => exact ⟨routed, hg, (owned routed).mp h⟩
    · rintro ⟨routed, hg, h⟩
      exact run_bind_eq_done.mpr ⟨false, routed, hg, (owned routed).mpr h⟩

theorem run_judgeCommand_unknown_iff {bound other : Bound κ} {name : String} {keystroke : Keystroke}
    {state reached : σ} :
    (dispatcher.judgeCommand bound keystroke).run state = .done (.unknown other name) reached ↔
      other = bound ∧ bound.command.precedence = .unknown name ∧ ∃ valid,
        (bound.isValid dispatcher.calls).run state = .done true valid ∧
        (bound.isEnabled dispatcher.calls).run valid = .done true reached := by
  constructor
  · intro h
    obtain ⟨answer, valid, hv, h⟩ := run_bind_eq_done.mp h
    cases answer with
    | false => cases h
    | true =>
      obtain ⟨answer, passed, he, h⟩ := run_bind_eq_done.mp h
      cases answer with
      | false => cases h
      | true =>
        cases hp : bound.command.precedence with
        | tier tier => simp [hp] at h
        | unknown held =>
          simp only [hp, Bool.not_true, Bool.false_eq_true, if_false, run_pure] at h
          cases h
          exact ⟨rfl, rfl, valid, hv, he⟩
  · rintro ⟨rfl, hp, valid, hv, he⟩
    refine run_bind_eq_done.mpr ⟨true, valid, hv, run_bind_eq_done.mpr ⟨true, reached, he, ?_⟩⟩
    simp [hp]

theorem run_judgeFound_unknown_iff {bound other : Bound κ} {name : String}
    {destination : Option Widget} {found passed : σ} :
    (dispatcher.judgeFound bound event destination
        (dispatcher.platform.keystroke event.input event.phase)).run found =
        .done (.unknown other name) passed ↔
      other = bound ∧ bound.command.precedence = .unknown name ∧
        dispatcher.Passes event destination bound found passed := by
  unfold judgeFound Passes
  rw [run_bind_eq_done]
  by_cases system : bound.command.precedence = .tier .system
  · constructor
    · rintro ⟨recording, asked, -, h⟩
      rw [if_pos system] at h
      cases recording <;> cases h
    · rintro ⟨-, hp, -⟩
      rw [hp] at system
      cases system
  · simp only [if_neg system]
    constructor
    · rintro ⟨recording, asked, hr, h⟩
      obtain ⟨taken, offered, ht, h⟩ := run_bind_eq_done.mp h
      cases taken with
      | some handled => cases handled <;> cases h
      | none =>
        obtain ⟨same, hp, valid, hv, he⟩ := run_judgeCommand_unknown_iff.mp h
        obtain ⟨routed, hg, ho⟩ := run_takenBefore_none_iff.mp ht
        exact ⟨same, hp, recording, asked, routed, offered, valid, hr, hg, ho, hv, he⟩
    · rintro ⟨same, hp, recording, asked, routed, offered, valid, hr, hg, ho, hv, he⟩
      have taken := run_takenBefore_none_iff.mpr ⟨routed, hg, ho⟩
      exact ⟨recording, asked, hr, run_bind_eq_done.mpr ⟨none, offered, taken,
        run_judgeCommand_unknown_iff.mpr ⟨same, hp, valid, hv, he⟩⟩⟩

theorem run_judge_unknown_iff {bound : Bound κ} {name : String} {destination : Option Widget}
    {free passed : σ} :
    (dispatcher.judge event destination).run free = .done (.unknown bound name) passed ↔
      bound.command.precedence = .unknown name ∧ ∃ found,
        dispatcher.Resolves event bound free found ∧
        dispatcher.Passes event destination bound found passed := by
  constructor
  · intro h
    obtain ⟨driven, declined, hd, h⟩ := run_bind_eq_done.mp h
    cases driven with
    | true => cases h
    | false =>
      obtain ⟨window, opened, hw, h⟩ := run_bind_eq_done.mp h
      cases window with
      | none => cases h
      | some window =>
        dsimp only at h
        by_cases modifier : event.input.isModifierKey
        · rw [if_pos modifier] at h
          cases h
        · rw [if_neg modifier] at h
          obtain ⟨command, looked, hc, h⟩ := run_bind_eq_done.mp h
          cases command with
          | none => cases h
          | some command =>
            obtain ⟨owner, found, ho, h⟩ := run_bind_eq_done.mp h
            obtain ⟨rfl, hp, passes⟩ := run_judgeFound_unknown_iff.mp h
            exact ⟨hp, found, ⟨declined, opened, looked, window, hd, hw, by simpa using modifier,
              hc, ho, rfl⟩, passes⟩
  · rintro ⟨hp, found, ⟨declined, opened, looked, window, hd, hw, modifier, hc, ho, hactive⟩, passes⟩
    obtain ⟨command, ⟨owner, active⟩⟩ := bound
    cases hactive
    refine run_bind_eq_done.mpr ⟨false, declined, hd,
      run_bind_eq_done.mpr ⟨some window, opened, hw, ?_⟩⟩
    dsimp only
    rw [if_neg (by simp [modifier])]
    refine run_bind_eq_done.mpr ⟨some command, looked, hc,
      run_bind_eq_done.mpr ⟨owner, found, ho, ?_⟩⟩
    exact run_judgeFound_unknown_iff.mpr ⟨rfl, hp, passes⟩

end Dispatcher
end KeyPrecedence
