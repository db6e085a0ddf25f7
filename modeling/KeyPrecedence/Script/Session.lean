import KeyPrecedence.Script.Perform

/-!
Playing a script: the host is set up, then the steps are taken one after another, and each is
answered with its result and with what can be seen of the host afterwards.
-/

namespace KeyPrecedence.Script

structure Setup where
  verbose : Bool := false
  scopes : ScopeTable := .default
  commands : List (Definition (Routine Step)) := []
  dispatcher : DispatcherSpec Step

/-- What can be seen after a step. Armed commands are listed with their dispatcher and target. -/
structure View where
  reply : Except Fault Reply
  marks : List Mark
  armed : List (String × String × Option String)
  toasts : List Toast
  timers : Nat
  records : List Record

/-- Steps may be nested so deep. -/
def deepestNesting : Nat := 10000

/-- The end of a step, when configurations of the logger take effect. -/
def World.settleOne (world : World) (pending : Logger.Pending) : World :=
  match pending with
  | .failure text =>
    let notice := Notice.loggingFailed (.raised text)
    if world.logger.admits notice.level then
      { world with records := notice.record :: world.records }
    else world
  | pending =>
    let (logger, records) := world.logger.settle pending
    { world with logger, records := records.reverse ++ world.records }

def World.settle (world : World) : World :=
  { world.pending.foldl World.settleOne world with pending := [] }

def World.armedCommands (world : World) : List (String × String × Option String) :=
  world.dispatchers.entries.filterMap fun (number, state) =>
    state.armed.map fun armed =>
      (dispatcherName number, armed.command.command.id, world.handleOf? armed.target)

def World.view (world : World) (reply : Except Fault Reply) : View where
  reply := reply
  marks := world.marks.reverse
  armed := world.armedCommands
  toasts := world.board.toasts
  timers := world.board.clock.running.length
  records := world.records.reverse

/-- Takes an action as one step. Gives nothing when it goes on for too long. -/
def World.take (world : World) (act : Act World Reply) : Option (View × World) :=
  match act.run { world with marks := [], records := [] } with
  | .done reply world =>
    let world := world.settle
    some (world.view (.ok reply), world)
  | .failed fault world =>
    let world := world.settle
    some (world.view (.error fault), world)
  | .exhausted => none

/-- A host with a logger that writes what is not verbose. -/
def World.initial : World :=
  let (logger, pending) := Logger.start {} none
  ({ logger, pending := [pending] } : World).settle

/-- Sets the host up: its commands are registered and its first dispatcher is made. -/
def Setup.build (setup : Setup) : Act World Reply := do
  modify fun world => { world with scopes := setup.scopes }
  let stage : Stage := ⟨perform deepestNesting, longestRound⟩
  for definition in setup.commands do
    let _ ← stage.registryHost.register (← instantiate definition)
  let _ ← createDispatcher setup.dispatcher
  return .nothing

def Setup.start (setup : Setup) : Option (View × World) := do
  let (_, world) ← World.initial.take do
    if setup.verbose then Stage.awaitPending (← Stage.switchLogger true)
    return .nothing
  world.take setup.build

/-- Takes the steps as far as they come to an end. -/
def World.play (world : World) : List Step → List View
  | [] => []
  | step :: steps =>
    match world.take (perform deepestNesting step) with
    | none => []
    | some (view, world) => view :: world.play steps

end KeyPrecedence.Script
