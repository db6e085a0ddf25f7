import KeyPrecedence.Logging.Notice

/-!
Which log records appear. The verbose mode is a wish, the threshold in force is what was last
configured; they differ before the first configuration and after one that failed.
-/

namespace KeyPrecedence

structure Logger where
  /-- In production only failures are logged, unless verbose mode is on. -/
  production : Bool := false
  verbose : Bool := false
  /-- The lowest level that appears; nothing appears until a first configuration. -/
  threshold : Option Level := none
  /-- While set, every attempt to configure fails with this text. -/
  obstacle : Option String := none
  deriving DecidableEq, Repr

namespace Logger

/-- Only this environment counts as production. -/
def productionName : String := "production"

def ofEnvironment (name : Option String) : Logger :=
  { production := name = some productionName }

/-- The lowest level of the current mode. -/
def wanted (logger : Logger) : Level :=
  if logger.verbose then .debug else if logger.production then .error else .info

def admits (logger : Logger) (level : Level) : Bool :=
  match logger.threshold with
  | none => false
  | some threshold => threshold.rank ≤ level.rank

def isConfigured (logger : Logger) : Bool := logger.threshold.isSome

/-- What a call leaves to be done: nothing, or a configuration that fails, or one that puts a
threshold in force and then says so. -/
inductive Pending
  | nothing
  | failure (text : String)
  | threshold (level : Level) (announcement : Option Notice)

def configure (logger : Logger) (announcement : Option Notice) : Pending :=
  match logger.obstacle with
  | some text => .failure text
  | none => .threshold logger.wanted announcement

/-- Starts writing records. Once configured, a further call changes nothing. -/
def start (logger : Logger) (verbose : Option Bool) : Logger × Pending :=
  if logger.isConfigured then (logger, .nothing)
  else
    let logger := { logger with verbose := verbose.getD logger.verbose }
    (logger, logger.configure (if logger.verbose then some .loggerVerbose else none))

/-- Switches verbose mode. Before the first configuration this only sets what that one will use. -/
def switch (logger : Logger) (verbose : Bool) : Logger × Pending :=
  let changed := verbose ≠ logger.verbose
  let logger := { logger with verbose }
  if changed ∧ logger.isConfigured then
    (logger, logger.configure (some (.verboseSwitched verbose)))
  else (logger, .nothing)

/-- Carries out what a call left to be done. The announcement is judged by the new threshold. -/
def settle (logger : Logger) : Pending → Logger × List Record
  | .threshold level announcement =>
    let logger := { logger with threshold := some level }
    (logger, (announcement.toList.map Notice.record).filter (logger.admits ·.level))
  | _ => (logger, [])

end Logger
end KeyPrecedence
