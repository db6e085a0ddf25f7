import KeyPrecedence.Proofs.Dispatch.Annotated
import KeyPrecedence.Proofs.Dispatch.Ruling
import KeyPrecedence.Proofs.Dispatch.Scene

/-!
# The faults of those who are called

* `Notes.findings`: it is put down what those who are called fail with, and which events the
  dispatcher itself consumes; `Dispatcher.audited`: the dispatcher of which such notes are taken;
* `Notes.findings_called`: who is called and who is asked is not told apart;
* `Dispatcher.audited_judge`: what is ruled about an event fails as one of those who are called
  fails, or not at all.
-/

namespace KeyPrecedence

open Act

variable {σ κ α β : Type}

/-- The faults of those who are called, and the events the dispatcher has consumed. -/
structure Findings where
  thrown : List Fault := []
  marked : List KeyEvent := []
  deriving DecidableEq

def Findings.add (fault : Fault) (findings : Findings) : Findings :=
  { findings with thrown := findings.thrown ++ [fault] }

def Notes.findings : Notes κ Findings where
  call
    | _, .ok _, findings => findings
    | _, .error fault, findings => findings.add fault
  failure := Findings.add
  consumed event findings := { findings with marked := findings.marked ++ [event] }

/-- A host whose callbacks are audited. -/
abbrev Audited (σ : Type) := Annotated σ Findings

/-- The dispatcher on its host, with the faults of those it calls put down. -/
abbrev Dispatcher.audited (dispatcher : Dispatcher σ κ) : Dispatcher (Audited σ) κ :=
  dispatcher.annotated .findings

/-! ## Who can fail -/

/-- It does not matter whether the dispatcher calls or asks. -/
theorem Notes.findings_called (call : Call κ) (answer : α → σ → Bool) (act : Act σ α) :
    Notes.findings.called call answer act = Annotated.asked Findings.add act := by
  ext audited
  unfold Notes.called Annotated.asked
  rw [Annotated.run_step, Annotated.run_step]
  cases act.run audited.host <;> rfl

open Annotated Notes

namespace Toolkit

variable (toolkit : Toolkit (Act σ)) (consumed : KeyEvent → Slot σ Bool) (event : KeyEvent)

theorem audited_hasUsableBinding (widget : Widget) (keystroke : Keystroke) :
    (toolkit.annotated (findings (κ := κ)) consumed).hasUsableBinding widget keystroke =
      asked Findings.add (toolkit.hasUsableBinding widget keystroke) := by
  unfold hasUsableBinding
  rw [asked_bind]
  apply bind_congr
  rintro (_ | _)
  · rfl
  simp only [if_true]
  rw [asked_bind]
  apply (bind_map_left _ _ _).trans
  apply bind_congr
  rintro (_ | binding)
  · rfl
  · dsimp only [Option.map, Binding.annotated]
    rw [asked_bind, findings_called, findings_called]
    apply bind_congr
    rintro (_ | _) <;> rfl

/-- Whichever listener fails, the ones after it are not called. -/
theorem audited_callListeners (widget : Widget)
    (listenerAt : Nat → Act σ (Option (KeyListener (Act σ)))) (allowance position : Nat) :
    callListeners (fun position =>
        Option.map (KeyListener.annotated (findings (κ := κ)) consumed widget position) <$>
          asked Findings.add (listenerAt position)) event allowance position =
      asked Findings.add (callListeners listenerAt event allowance position) := by
  induction allowance generalizing position with
  | zero => rfl
  | succ allowance ih =>
    unfold callListeners
    rw [asked_bind]
    apply (bind_map_left _ _ _).trans
    apply bind_congr
    rintro (_ | listener)
    · rfl
    · dsimp only [Option.map, KeyListener.annotated]
      cases listener.handler event.phase with
      | none => exact ih (position + 1)
      | some handle =>
        dsimp only [Option.map]
        rw [asked_bind, findings_called]
        apply bind_congr
        intro _
        exact ih (position + 1)

end Toolkit

namespace Dispatcher

variable (dispatcher : Dispatcher σ κ) (event : KeyEvent)

theorem audited_arrival :
    dispatcher.audited.arrival event = asked Findings.add (dispatcher.arrival event) :=
  dispatcher.annotated_arrival _ event

theorem audited_offerToListeners (widget : Widget) :
    dispatcher.audited.offerToListeners widget event =
      asked Findings.add (dispatcher.offerToListeners widget event) := by
  unfold offerToListeners Toolkit.offerToListeners
  rw [asked_bind]
  apply (bind_map_left _ _ _).trans
  apply bind_congr
  intro listenerAt
  rw [asked_bind]
  exact congrArg (· >>= _) (Toolkit.audited_callListeners dispatcher.consumed event widget listenerAt
    dispatcher.allowance 0)

theorem audited_takenBefore (destination focusOwner : Option Widget) (keystroke : Keystroke) :
    dispatcher.audited.takenBefore event destination focusOwner keystroke =
      asked Findings.add (dispatcher.takenBefore event destination focusOwner keystroke) := by
  have focused : dispatcher.audited.takenBefore event none focusOwner keystroke =
      asked Findings.add (dispatcher.takenBefore event none focusOwner keystroke) := by
    cases focusOwner with
    | none => rfl
    | some widget =>
      show dispatcher.audited.offerToListeners widget event >>= _ = asked Findings.add (_ >>= _)
      rw [asked_bind, audited_offerToListeners]
      apply bind_congr
      rintro (_ | _)
      · simp only [Bool.false_eq_true, if_false]
        rw [asked_bind]
        apply (congrArg (· >>= _) (dispatcher.toolkit.audited_hasUsableBinding
          dispatcher.consumed widget keystroke)).trans
        apply bind_congr
        rintro (_ | _)
        · rfl
        · exact asked_tell _ _
      · exact asked_tell _ _
  cases destination with
  | none => exact focused
  | some widget =>
    show dispatcher.audited.toolkit.goesToText event widget keystroke >>= _ =
      asked Findings.add (_ >>= _)
    rw [asked_bind]
    apply (congrArg (· >>= _) (dispatcher.toolkit.annotated_goesToText findings
      dispatcher.consumed event widget keystroke)).trans
    apply bind_congr
    rintro (_ | _)
    · exact focused
    · exact asked_tell _ _

variable (bound : Bound κ)

theorem audited_ask (predicate : Option κ) :
    bound.ask dispatcher.audited.calls predicate =
      asked Findings.add (bound.ask dispatcher.calls predicate) := by
  cases predicate with
  | none => rfl
  | some callback => exact findings_called _ _ _

theorem audited_giveFeedback :
    bound.giveFeedback dispatcher.audited.calls =
      asked Findings.add (bound.giveFeedback dispatcher.calls) := by
  unfold Bound.giveFeedback
  cases bound.command.feedback with
  | silent => rfl
  | toast | custom => exact findings_called _ _ _

theorem audited_judgeCommand (keystroke : Keystroke) :
    dispatcher.audited.judgeCommand bound keystroke =
      asked Findings.add (dispatcher.judgeCommand bound keystroke) := by
  unfold judgeCommand Bound.isValid Bound.isEnabled
  rw [asked_bind, audited_ask]
  apply bind_congr
  rintro (_ | _)
  · rfl
  simp only [Bool.not_true, Bool.false_eq_true, if_false]
  rw [asked_bind, audited_ask]
  apply bind_congr
  rintro (_ | _)
  · rfl
  · cases bound.command.precedence <;> rfl

theorem audited_judgeFound (destination : Option Widget) (keystroke : Keystroke) :
    dispatcher.audited.judgeFound bound event destination keystroke =
      asked Findings.add (dispatcher.judgeFound bound event destination keystroke) := by
  unfold judgeFound
  rw [asked_bind]
  rw [dispatcher.annotated_isRecording]
  apply bind_congr
  intro recording
  split
  · cases recording <;> rfl
  · rw [asked_bind, audited_takenBefore]
    apply bind_congr
    rintro (_ | _ | _)
    · exact dispatcher.audited_judgeCommand bound keystroke
    · rfl
    · rfl

/-- Nothing is put down in judging but what somebody failed with, and that ends it. -/
theorem audited_judge (destination : Option Widget) :
    dispatcher.audited.judge event destination =
      asked Findings.add (dispatcher.judge event destination) := by
  unfold judge
  have driven : dispatcher.audited.drivesMenu event =
      asked Findings.add (dispatcher.drivesMenu event) := by
    unfold drivesMenu audited annotated
    cases dispatcher.menu with
    | none => rfl
    | some processes => exact findings_called _ _ _
  rw [asked_bind, driven]
  apply bind_congr
  rintro (_ | _)
  case true => rfl
  simp only [Bool.false_eq_true, if_false]
  rw [asked_bind]
  apply bind_congr
  rintro (_ | window)
  · rfl
  dsimp only
  split
  · rfl
  rw [asked_bind]
  apply bind_congr
  rintro (_ | command)
  · rfl
  dsimp only
  rw [asked_bind]
  apply bind_congr
  intro owner
  exact dispatcher.audited_judgeFound event _ destination _

end Dispatcher

end KeyPrecedence
