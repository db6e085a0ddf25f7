import KeyPrecedence.Proofs.Alike
import KeyPrecedence.Proofs.Subscribers
import KeyPrecedence.Toast.NotEnabled
import KeyPrecedence.Toast.Operation

/-!
# Toasts that are kept and published alike

* `ToastHost.Alike`: the toasts of two hosts, the same ones, whose subscribers are called alike;
* `ToastHost.Alike.publish`, `ToastHost.Alike.perform`: so they stay, whatever is shown and done and
  however the timers fire.
-/

namespace KeyPrecedence

open Act

variable {σ σ' ν : Type} {states : σ → σ' → Prop}

structure ToastHost.Alike (states : σ → σ' → Prop) (host : ToastHost σ ν) (other : ToastHost σ' ν) :
    Prop where
  board : host.board.Alike states other.board
  subscribers : host.subscribers.Alike states other.subscribers
  call : ∀ member toasts, Act.Alike states Eq (host.call member toasts) (other.call member toasts)
  freshId : Act.Alike states Eq host.freshId other.freshId
  timerFailed : ∀ fault, Act.Alike states Eq (host.timerFailed fault) (other.timerFailed fault)
  allowance : host.allowance = other.allowance

namespace ToastHost.Alike

variable {host : ToastHost σ ν} {other : ToastHost σ' ν} (alike : host.Alike states other)

include alike

theorem publish (board : ToastBoard) :
    Act.Alike states Eq (host.publish board) (other.publish board) := by
  apply alike_bind_eq (alike.board.write board)
  intro _
  rw [alike.allowance]
  apply Subscribers.alike_callAll alike.subscribers
  exact fun member => alike_bind_eq alike.board.read fun board => alike.call member board.toasts

theorem add (content : String) (options : ToastOptions) :
    Act.Alike states Eq (host.add content options) (other.add content options) := by
  unfold ToastHost.add
  cases options.id
  case' some id => apply alike_bind_eq (alike_pure rfl)
  case' none => apply alike_bind_eq alike.freshId
  all_goals
    intro id
    apply alike_bind_eq alike.board.read
    intro board
    cases board.place (options.toast id content) with
    | none => exact alike_pure rfl
    | some placed => exact alike_bind_eq (alike.publish placed) fun _ => alike_pure rfl

theorem dismiss (id : String) : Act.Alike states Eq (host.dismiss id) (other.dismiss id) := by
  apply alike_bind_eq alike.board.read
  intro board
  dsimp only
  split
  · exact alike.publish _
  · exact alike.board.write _

theorem dismissTransient : Act.Alike states Eq host.dismissTransient other.dismissTransient :=
  alike_bind_eq alike.board.read fun board => alike.publish board.removeTransient

theorem clear : Act.Alike states Eq host.clear other.clear :=
  alike_bind_eq alike.board.read fun board => alike.publish board.clear

theorem firing (timer : Timer) : Act.Alike states Eq (host.firing timer) (other.firing timer) :=
  alike_bind_eq (alike.board.update (·.fire timer)) fun _ =>
    alike_guarded (alike.dismiss timer.subject) alike.timerFailed

/-- The same timers fire. -/
theorem fireUntil (limit : Number) :
    ∀ allowance, Act.Alike states Eq (host.fireUntil limit allowance) (other.fireUntil limit allowance)
  | 0 => alike_exhausted
  | allowance + 1 => by
    apply alike_bind_eq alike.board.read
    intro board
    cases board.clock.next limit with
    | none => exact alike.board.update (·.setTime limit)
    | some timer => exact alike_bind_eq (alike.firing timer) fun _ => fireUntil limit allowance

theorem advance (ms : Number) : Act.Alike states Eq (host.advance ms) (other.advance ms) := by
  apply alike_bind_eq alike.board.read
  intro board
  rw [alike.allowance]
  exact alike.fireUntil _ _

theorem operate [DecidableEq ν] (call : ToastCall ν) :
    Act.Alike states Eq (host.operate call) (other.operate call) := by
  cases call with
  | add content options => exact alike_bind_eq (alike.add content options) fun _ => alike_pure rfl
  | dismiss id => exact alike_bind_eq (alike.dismiss id) fun _ => alike_pure rfl
  | dismissTransient => exact alike_bind_eq alike.dismissTransient fun _ => alike_pure rfl
  | clear => exact alike_bind_eq alike.clear fun _ => alike_pure rfl
  | glance glance =>
    cases glance with
    | list => exact alike_bind_eq alike.board.read fun _ => alike_pure rfl
    | subscribe => exact alike_bind_eq (alike.subscribers.update _) fun _ => alike_pure rfl
    | unsubscribe => exact alike_bind_eq (alike.subscribers.update _) fun _ => alike_pure rfl

theorem perform [DecidableEq ν] (operation : ToastOp ν) :
    Act.Alike states Eq (host.perform operation) (other.perform operation) := by
  cases operation with
  | call call => exact alike.operate call
  | wait ms => exact alike_bind_eq (alike.advance ms) fun _ => alike_pure rfl

theorem showNotEnabled [DecidableEq ν] {settings : Slot σ Settings} {settings' : Slot σ' Settings}
    (set : settings.Alike states settings') (name commandId : String) :
    Act.Alike states Eq (showNotEnabled settings host name commandId)
      (showNotEnabled settings' other name commandId) := by
  apply alike_bind_eq set.read
  intro current
  split
  · exact alike_bind_eq (alike.add _ _) fun _ => alike_pure rfl
  · exact alike_pure rfl

end ToastHost.Alike
end KeyPrecedence
