import KeyPrecedence.Proofs.Dispatch.Others

/-!
# Questions first, deeds last

* `Ruling`: what the questions about an event come to;
* `Dispatcher.judge`: all that a dispatcher asks about an event which no armed command absorbs;
* `Dispatcher.carryOut`: what it then does about the event;
* `Dispatcher.dispatchFree_eq`: a dispatch is the one after the other;
* `Dispatcher.AllKeep.dispatch`: what all those asked keep, and arming keeps, a dispatch keeps.
-/

namespace KeyPrecedence

open Act

variable {σ κ : Type}

/-- What becomes of an event: the host has it, somebody else has taken it, or a command has won it.
The command may have to be refused, armed, or be of a precedence that there is no step for. -/
inductive Ruling (κ : Type)
  | left
  | taken
  | refuse (bound : Bound κ)
  | arm (bound : Bound κ) (notice : Notice)
  | unknown (bound : Bound κ) (name : String)

/-- If a command is to be armed, it is of a known tier. -/
def Ruling.Tiered : Ruling κ → Prop
  | .arm bound _ => ∃ tier, bound.command.precedence = .tier tier
  | .left | .taken | .refuse _ | .unknown _ _ => True

namespace Dispatcher

variable (dispatcher : Dispatcher σ κ)

def judgeCommand (bound : Bound κ) (keystroke : Keystroke) : Act σ (Ruling κ) := do
  if !(← bound.isValid dispatcher.calls) then return .left
  if !(← bound.isEnabled dispatcher.calls) then return .refuse bound
  match bound.command.precedence with
  | .tier tier => return .arm bound (.armedAt keystroke.shortcut bound.command.id tier)
  | .unknown name => return .unknown bound name

def judgeFound (bound : Bound κ) (event : KeyEvent) (destination : Option Widget)
    (keystroke : Keystroke) : Act σ (Ruling κ) := do
  let recording ← dispatcher.isRecording destination
  if bound.command.precedence = .tier .system then
    if recording then return .left
    return .arm bound (.armedSystem keystroke.shortcut bound.command.id)
  else
    match ← dispatcher.takenBefore event destination bound.context.focusOwner keystroke with
    | some true => return .taken
    | some false => return .left
    | none => dispatcher.judgeCommand bound keystroke

def judge (event : KeyEvent) (destination : Option Widget) : Act σ (Ruling κ) := do
  if ← dispatcher.drivesMenu event then return .taken
  match ← dispatcher.focus.window with
  | none => return .left
  | some window =>
    if event.input.isModifierKey then return .left
    let keystroke := dispatcher.platform.keystroke event.input event.phase
    match ← dispatcher.commandFor keystroke window with
    | none => return .left
    | some command =>
      let owner ← dispatcher.focus.owner
      dispatcher.judgeFound ⟨command, ⟨owner, some window⟩⟩ event destination keystroke

def carryOut (event : KeyEvent) (destination : Option Widget) : Ruling κ → Act σ Bool
  | .left => return false
  | .taken => return true
  | .refuse bound => do
    dispatcher.log (.notEnabled bound.command.id)
    bound.giveFeedback dispatcher.calls
    return true
  | .arm bound notice => do
    dispatcher.award bound event destination
    dispatcher.log notice
    return true
  | .unknown bound name => do
    dispatcher.log (.unhandled (.unknownPrecedence bound.command.id name))
    .fail (.unknownPrecedence bound.command.id name)

theorem dispatchCommand_eq (bound : Bound κ) (event : KeyEvent) (destination : Option Widget)
    (keystroke : Keystroke) :
    dispatcher.dispatchCommand bound event destination keystroke =
      dispatcher.judgeCommand bound keystroke >>= dispatcher.carryOut event destination := by
  unfold dispatchCommand judgeCommand
  rw [bind_assoc]
  apply bind_congr
  intro valid
  cases valid with
  | false => rfl
  | true =>
    simp only [Bool.not_true, Bool.false_eq_true, if_false, bind_assoc]
    apply bind_congr
    intro enabled
    cases enabled with
    | false => rfl
    | true => cases bound.command.precedence <;> rfl

theorem dispatchFound_eq (bound : Bound κ) (event : KeyEvent) (destination : Option Widget)
    (keystroke : Keystroke) :
    dispatcher.dispatchFound bound event destination keystroke =
      dispatcher.judgeFound bound event destination keystroke >>=
        dispatcher.carryOut event destination := by
  unfold dispatchFound judgeFound
  rw [bind_assoc]
  apply bind_congr
  intro recording
  by_cases system : bound.command.precedence = .tier .system
  · simp only [system, if_true]
    cases recording <;> rfl
  · simp only [system, if_false, bind_assoc]
    apply bind_congr
    rintro (_ | _ | _)
    · exact dispatcher.dispatchCommand_eq bound event destination keystroke
    · rfl
    · rfl

/-- Nobody is asked anything once the dispatcher acts. -/
theorem dispatchFree_eq (event : KeyEvent) (destination : Option Widget) :
    dispatcher.dispatchFree event destination =
      dispatcher.judge event destination >>= dispatcher.carryOut event destination := by
  unfold dispatchFree judge
  rw [bind_assoc]
  apply bind_congr
  rintro (_ | _)
  case true => rfl
  simp only [Bool.false_eq_true, if_false, bind_assoc]
  apply bind_congr
  rintro (_ | window)
  · rfl
  by_cases modifier : event.input.isModifierKey
  · simp only [modifier, if_true]
    rfl
  simp only [modifier, Bool.false_eq_true, if_false, bind_assoc]
  apply bind_congr
  rintro (_ | command)
  · rfl
  simp only [bind_assoc]
  apply bind_congr
  intro owner
  exact dispatcher.dispatchFound_eq _ event destination _

/-- Only the gate and the focus source are asked where an event is headed. -/
theorem keeps_arrival {dispatcher : Dispatcher σ κ} {event : KeyEvent} {inv : σ → Prop}
    (gate : Act.Keeps inv (dispatcher.toolkit.isBlocked dispatcher.log event))
    (owner : Act.Keeps inv dispatcher.focus.owner) : Act.Keeps inv (dispatcher.arrival event) := by
  apply keeps_bind gate
  intro blocked
  cases blocked with
  | true => exact keeps_pure _
  | false =>
    apply keeps_bind _ fun _ => keeps_pure _
    unfold destinationOf
    cases event.source with
    | none => exact owner
    | some source => exact keeps_pure _

theorem OthersKeep.keeps_dispatch {dispatcher : Dispatcher σ κ} {event : KeyEvent}
    {inv : σ → Prop} (keep : dispatcher.OthersKeep inv)
    (owner : Act.Keeps inv dispatcher.focus.owner) (window : Act.Keeps inv dispatcher.focus.window)
    (continues : ∀ destination, Act.Keeps inv (dispatcher.holder.continues event destination))
    (arms : ∀ armed state, inv state → inv (dispatcher.armed.set (some armed) state)) :
    Act.Keeps inv (dispatcher.dispatch event) := by
  apply keeps_bind (keeps_arrival (keep.isBlocked event) owner)
  rintro (_ | destination)
  · exact keeps_pure _
  apply keeps_bind (continues destination)
  rintro (_ | _)
  · exact keep.keeps_dispatchFree owner window arms event destination
  · exact keeps_pure _

/-- All that a dispatcher calls keeps a condition. -/
structure AllKeep (inv : σ → Prop) (dispatcher : Dispatcher σ κ) : Prop
    extends dispatcher.OthersKeep inv where
  owner : Act.Keeps inv dispatcher.focus.owner
  window : Act.Keeps inv dispatcher.focus.window
  run : ∀ callback context, Act.Keeps inv (dispatcher.calls.run callback context)

namespace AllKeep

variable {dispatcher : Dispatcher σ κ} {inv : σ → Prop} (keep : dispatcher.AllKeep inv)

include keep

theorem arrival (event : KeyEvent) : Act.Keeps inv (dispatcher.arrival event) :=
  keeps_arrival (keep.isBlocked event) keep.owner

theorem continues (event : KeyEvent) (destination : Option Widget)
    (clears : ∀ state, inv state → inv (dispatcher.armed.set none state)) :
    Act.Keeps inv (dispatcher.holder.continues event destination) := by
  apply Holder.keeps_continues fun _ _ => True
  · intro _ state h _
    exact ⟨clears state h, trivial⟩
  · intro notice _ state h
    exact (keep.log notice state h.1).mono fun _ _ hr => ⟨hr, trivial⟩
  · exact keep.log
  · intro _ state h _
    exact keep.run _ _ state h

theorem judgeCommand (bound : Bound κ) (keystroke : Keystroke) :
    (dispatcher.judgeCommand bound keystroke).Gives inv Ruling.Tiered := by
  apply gives_bind (keep.ask _ bound)
  rintro (_ | _)
  · exact gives_pure trivial
  apply gives_bind (keep.ask _ bound)
  rintro (_ | _)
  · exact gives_pure trivial
  cases hp : bound.command.precedence with
  | tier tier => exact gives_pure ⟨tier, hp⟩
  | unknown name => exact gives_pure trivial

theorem judgeFound (bound : Bound κ) (event : KeyEvent) (destination : Option Widget)
    (keystroke : Keystroke) :
    (dispatcher.judgeFound bound event destination keystroke).Gives inv Ruling.Tiered := by
  apply gives_bind (keep.isRecording destination)
  intro recording
  by_cases system : bound.command.precedence = .tier .system
  · rw [if_pos system]
    cases recording with
    | true => exact gives_pure trivial
    | false => exact gives_pure ⟨.system, system⟩
  · rw [if_neg system]
    apply gives_bind (keep.takenBefore _ _ _ _)
    rintro (_ | _ | _)
    · exact keep.judgeCommand bound keystroke
    · exact gives_pure trivial
    · exact gives_pure trivial

/-- Only a command of a known tier is ever to be armed. -/
theorem judge (event : KeyEvent) (destination : Option Widget) :
    (dispatcher.judge event destination).Gives inv Ruling.Tiered := by
  apply gives_bind (keep.drivesMenu event)
  rintro (_ | _)
  case true => exact gives_pure trivial
  apply gives_bind keep.window
  rintro (_ | window)
  · exact gives_pure trivial
  dsimp only
  split
  · exact gives_pure trivial
  apply gives_bind (keep.commandFor _ window)
  rintro (_ | command)
  · exact gives_pure trivial
  · exact gives_bind keep.owner fun owner => keep.judgeFound _ event destination _

theorem carryOut (event : KeyEvent) (destination : Option Widget) (ruling : Ruling κ)
    (arms : ∀ armed state, inv state → inv (dispatcher.armed.set (some armed) state)) :
    Act.Keeps inv (dispatcher.carryOut event destination ruling) := by
  cases ruling with
  | left => exact keeps_pure _
  | taken => exact keeps_pure _
  | refuse bound =>
    apply keeps_bind (keep.log _)
    intro _
    exact keeps_bind (keep.giveFeedback bound) fun _ => keeps_pure _
  | arm bound notice =>
    apply keeps_bind (keep.award bound event destination arms)
    intro _
    exact keeps_bind (keep.log _) fun _ => keeps_pure _
  | unknown bound name => exact keeps_bind (keep.log _) fun _ => keeps_fail _

theorem dispatch (event : KeyEvent)
    (writes : ∀ armed state, inv state → inv (dispatcher.armed.set armed state)) :
    Act.Keeps inv (dispatcher.dispatch event) := by
  have continues (destination : Option Widget) := keep.continues event destination (writes none)
  exact keep.keeps_dispatch keep.owner keep.window continues fun armed => writes (some armed)

end AllKeep
end Dispatcher
end KeyPrecedence
