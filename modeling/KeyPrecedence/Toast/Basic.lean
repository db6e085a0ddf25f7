import KeyPrecedence.Table
import KeyPrecedence.Toast.Clock

/-!
Toasts and their timers. At most five toasts are kept: a new one takes the place of the oldest
transient one, and is dropped when all five are persistent.
-/

namespace KeyPrecedence

inductive Severity
  | info
  | warn
  | error
  deriving DecidableEq, Repr

def Severity.name : Severity → String
  | info => "info"
  | warn => "warn"
  | error => "error"

/-- A transient toast goes away by itself, a persistent one does not. -/
inductive Dismissal
  | transient
  | persistent
  deriving DecidableEq, Repr

def Dismissal.name : Dismissal → String
  | transient => "transient"
  | persistent => "persistent"

/-- Persistent toasts have a timeout of zero. -/
structure Toast where
  id : String
  content : String
  severity : Severity
  dismissal : Dismissal
  timeout : Number
  deriving DecidableEq, Repr

/-- What a toast is asked for with. -/
structure ToastOptions where
  id : Option String := none
  severity : Severity := .info
  dismissal : Dismissal := .transient
  timeout : Number := .ofNat 4000

def ToastOptions.toast (options : ToastOptions) (id content : String) : Toast where
  id := id
  content := content
  severity := options.severity
  dismissal := options.dismissal
  timeout := match options.dismissal with
    | .persistent => .ofNat 0
    | .transient => options.timeout

/-- The toasts shown, oldest first, and the timer of each that has one. -/
structure ToastBoard where
  toasts : List Toast := []
  timers : Table String Nat := {}
  clock : Clock := {}

namespace ToastBoard

def capacity : Nat := 5

def has (board : ToastBoard) (id : String) : Bool := board.toasts.any (·.id = id)

def stopTimer (board : ToastBoard) (id : String) : ToastBoard :=
  match board.timers.find? id with
  | none => board
  | some serial =>
    { board with timers := board.timers.erase id, clock := board.clock.stop serial }

/-- The toast's timer starts over; a persistent toast has none. -/
def startTimer (board : ToastBoard) (toast : Toast) : ToastBoard :=
  let board := board.stopTimer toast.id
  match toast.dismissal with
  | .persistent => board
  | .transient =>
    let (serial, clock) := board.clock.start toast.timeout toast.id
    { board with timers := board.timers.insert toast.id serial, clock }

/-- The board with a toast on it. A toast of the same id is replaced where it stands. Gives nothing
when there is no room. -/
def place (board : ToastBoard) (toast : Toast) : Option ToastBoard :=
  if board.has toast.id then
    let board := board.startTimer toast
    some { board with toasts := board.toasts.map fun t => if t.id = toast.id then toast else t }
  else if board.toasts.length < capacity then
    let board := board.startTimer toast
    some { board with toasts := board.toasts ++ [toast] }
  else
    match board.toasts.find? (·.dismissal = .transient) with
    | none => none
    | some oldest =>
      let board := (board.stopTimer oldest.id).startTimer toast
      some { board with toasts := board.toasts.erase oldest ++ [toast] }

/-- Takes a toast off. Gives nothing when it is not shown; its timer is stopped either way. -/
def remove (board : ToastBoard) (id : String) : ToastBoard × Bool :=
  let shown := board.has id
  let board := board.stopTimer id
  ({ board with toasts := board.toasts.filter (·.id ≠ id) }, shown)

def removeTransient (board : ToastBoard) : ToastBoard :=
  let transient := board.toasts.filter (·.dismissal = .transient)
  let board := transient.foldl (fun board toast => board.stopTimer toast.id) board
  { board with toasts := board.toasts.filter (·.dismissal = .persistent) }

def clear (board : ToastBoard) : ToastBoard :=
  { board with
    toasts := []
    timers := {}
    clock := board.timers.entries.foldl (fun clock (_, serial) => clock.stop serial) board.clock }

def setTime (board : ToastBoard) (now : Number) : ToastBoard :=
  { board with clock := { board.clock with now } }

/-- A timer that fires is no longer running, and the time is when it was due. -/
def fire (board : ToastBoard) (timer : Timer) : ToastBoard :=
  let clock := { board.clock.stop timer.serial with now := timer.due }
  { board with clock, timers := board.timers.erase timer.subject }

end ToastBoard
end KeyPrecedence
