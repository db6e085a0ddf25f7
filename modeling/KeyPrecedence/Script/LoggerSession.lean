import KeyPrecedence.Logging.Logger
import KeyPrecedence.Logging.Template

/-!
Playing a script on a logger alone.
-/

namespace KeyPrecedence.Script

inductive LoggerStep
  | start (verbose : Option Bool)
  | switch (verbose : Bool)
  | emit (feature : String) (level : Level) (template : String) (values : List (String × Value))
  | obstruct (text : Option String)

/-- The records of a step, and its failure if it failed. -/
structure LoggerView where
  failure : Option Fault := none
  records : List Record := []

/-- The end of a step: a configuration takes effect, or the caller learns that it failed. -/
def endStep (step : Logger × Logger.Pending) : LoggerView × Logger :=
  match step with
  | (logger, .failure text) => ({ failure := some (.raised text) }, logger)
  | (logger, pending) =>
    let (logger, records) := logger.settle pending
    ({ records }, logger)

def LoggerStep.take (logger : Logger) : LoggerStep → LoggerView × Logger
  | start verbose => endStep (logger.start verbose)
  | switch verbose => endStep (logger.switch verbose)
  | emit feature level template values =>
    if (Value.inherited? feature).isSome then
      ({ failure := some (.reservedFeature feature) }, logger)
    else
      let record? := (Template.expand? template values).map fun text => Record.mk level feature text
      ({ records := record?.toList.filter (logger.admits ·.level) }, logger)
  | obstruct text => ({}, { logger with obstacle := text })

def playLogger (logger : Logger) : List LoggerStep → List LoggerView
  | [] => []
  | step :: steps =>
    let (view, logger) := step.take logger
    view :: playLogger logger steps

end KeyPrecedence.Script
