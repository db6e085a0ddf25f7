import KeyPrecedence.Table
import KeyPrecedence.Text.Position

/-!
Named values from a list of pairs. A name given twice keeps its first place and its last value, and
names that are list positions come before all others, in ascending order.
-/

namespace KeyPrecedence.Script

def orderPairs {α : Type} (pairs : List (String × α)) : List (String × α) :=
  let entries := (Table.ofList pairs).entries
  let positioned := entries.filterMap fun entry => (Text.position? entry.1).map fun n => (n, entry)
  let others := entries.filter fun entry => (Text.position? entry.1).isNone
  (positioned.mergeSort fun a b => a.1 ≤ b.1).map (·.2) ++ others

end KeyPrecedence.Script
