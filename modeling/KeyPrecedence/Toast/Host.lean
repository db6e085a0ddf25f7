import KeyPrecedence.Subscribers
import KeyPrecedence.Toast.Basic

/-!
The toasts of a running host. Every change is published: each subscriber is given the list as it
stands when its turn comes. A subscriber that fails ends the publication, and the change stays.
-/

namespace KeyPrecedence

/-- What the toasts need of their host. -/
structure ToastHost (σ ν : Type) where
  board : Slot σ ToastBoard
  subscribers : Slot σ (Subscribers ν)
  call : ν → List Toast → Act σ Unit
  /-- An id for a toast that was given none. -/
  freshId : Act σ String
  /-- What becomes of a failure while a timer fires. -/
  timerFailed : Fault → Act σ Unit
  allowance : Nat

namespace ToastHost

variable {σ ν : Type} [DecidableEq ν] (host : ToastHost σ ν)

def publish (board : ToastBoard) : Act σ Unit := do
  host.board.write board
  Subscribers.callAll host.subscribers host.allowance fun member => do
    host.call member (← host.board.read).toasts

/-- Gives the toast's id, also when there was no room for it. -/
def add (content : String) (options : ToastOptions) : Act σ String := do
  let id ← match options.id with
    | some id => pure id
    | none => host.freshId
  match (← host.board.read).place (options.toast id content) with
  | none => pure ()
  | some board => host.publish board
  return id

def dismiss (id : String) : Act σ Unit := do
  let (board, shown) := (← host.board.read).remove id
  if shown then host.publish board
  else host.board.write board

def dismissTransient : Act σ Unit := do
  host.publish (← host.board.read).removeTransient

def clear : Act σ Unit := do
  host.publish (← host.board.read).clear

/-- A timer fires and takes its toast off. -/
def firing (timer : Timer) : Act σ Unit := do
  host.board.update (·.fire timer)
  (host.dismiss timer.subject).guarded host.timerFailed

/-- Fires what is due up to a point in time, timers started meanwhile included. -/
def fireUntil (limit : Number) : Nat → Act σ Unit
  | 0 => .exhausted
  | allowance + 1 => do
    match (← host.board.read).clock.next limit with
    | none => host.board.update (·.setTime limit)
    | some timer => do
      host.firing timer
      fireUntil limit allowance

def advance (ms : Number) : Act σ Unit := do
  let board ← host.board.read
  host.fireUntil (board.clock.now.add ms) host.allowance

end ToastHost
end KeyPrecedence
