/-!
Log records and their levels.
-/

namespace KeyPrecedence

inductive Level
  | trace
  | debug
  | info
  | warning
  | error
  | fatal
  deriving DecidableEq, Repr

namespace Level

def rank : Level → Nat
  | trace => 0
  | debug => 1
  | info => 2
  | warning => 3
  | error => 4
  | fatal => 5

def name : Level → String
  | trace => "trace"
  | debug => "debug"
  | info => "info"
  | warning => "warning"
  | error => "error"
  | fatal => "fatal"

end Level

/-- `feature` is the part of the program that speaks. -/
structure Record where
  level : Level
  feature : String
  text : String
  deriving DecidableEq, Repr

/-- All features stand below one category. -/
def Record.category (record : Record) : String := "app." ++ record.feature

end KeyPrecedence
