import KeyPrecedence.Toast.Host

/-!
What may be done with the toasts of a host, also by the listeners that it calls.
-/

namespace KeyPrecedence

/-- What may be done without a change of the toasts. -/
inductive ToastGlance (ν : Type)
  | list
  | subscribe (member : ν)
  | unsubscribe (member : ν)

/-- What may be done at one time. -/
inductive ToastCall (ν : Type)
  | add (content : String) (options : ToastOptions)
  | dismiss (id : String)
  | dismissTransient
  | clear
  | glance (glance : ToastGlance ν)

/-- What may be done as time goes on. -/
inductive ToastOp (ν : Type)
  | call (call : ToastCall ν)
  | wait (ms : Number)

inductive ToastAnswer
  | nothing
  | id (id : String)
  | toasts (toasts : List Toast)

variable {σ ν : Type} [DecidableEq ν]

def ToastGlance.perform (board : Slot σ ToastBoard) (subscribers : Slot σ (Subscribers ν)) :
    ToastGlance ν → Act σ ToastAnswer
  | list => do return .toasts (← board.read).toasts
  | subscribe member => do
    subscribers.update (·.add member)
    return .nothing
  | unsubscribe member => do
    subscribers.update (·.remove member)
    return .nothing

namespace ToastHost

variable (host : ToastHost σ ν)

def operate : ToastCall ν → Act σ ToastAnswer
  | .add content options => do return .id (← host.add content options)
  | .dismiss id => do
    host.dismiss id
    return .nothing
  | .dismissTransient => do
    host.dismissTransient
    return .nothing
  | .clear => do
    host.clear
    return .nothing
  | .glance glance => glance.perform host.board host.subscribers

def perform : ToastOp ν → Act σ ToastAnswer
  | .call call => host.operate call
  | .wait ms => do
    host.advance ms
    return .nothing

end ToastHost
end KeyPrecedence
