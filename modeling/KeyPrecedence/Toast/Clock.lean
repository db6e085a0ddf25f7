import KeyPrecedence.Number.Rounding

/-!
Timers on a clock that moves only when told to. Times are added in double precision. Timers fire in
the order they are due, and those due together in the order they were started.
-/

namespace KeyPrecedence

/-- A running timer; `subject` is what it was started for. -/
structure Timer where
  serial : Nat
  due : Number
  subject : String
  deriving DecidableEq, Repr

structure Clock where
  now : Number := .ofNat 0
  started : Nat := 0
  running : List Timer := []
  deriving DecidableEq, Repr

/-- The longest delay a timer takes. -/
def longestDelay : Nat := 2147483647

/-- The delay in whole ms. One that is too short or too long, or no number, is the shortest. -/
def delayOf (ms : Number) : Nat :=
  if (Number.ofNat 1).le ms && ms.le (.ofNat longestDelay) then ms.truncate.toNat else 1

namespace Clock

/-- Starts a timer and gives its serial number. -/
def start (clock : Clock) (ms : Number) (subject : String) : Nat × Clock :=
  let serial := clock.started
  (serial, { clock with
    started := serial + 1
    running := clock.running ++ [⟨serial, clock.now.add (.ofNat (delayOf ms)), subject⟩] })

def stop (clock : Clock) (serial : Nat) : Clock :=
  { clock with running := clock.running.filter (·.serial ≠ serial) }

/-- The timers run in the order they were started, so of those due first the first is next. -/
def earliest : List Timer → Option Timer
  | [] => none
  | timer :: rest =>
    match earliest rest with
    | none => some timer
    | some other => if timer.due.le other.due then some timer else some other

/-- The next timer to fire up to a point in time. -/
def next (clock : Clock) (limit : Number) : Option Timer :=
  (earliest clock.running).filter (·.due.le limit)

end Clock
end KeyPrecedence
