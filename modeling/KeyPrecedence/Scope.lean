import KeyPrecedence.Table

/-!
Scopes: which commands can be reached from a window, and which can get in each other's way.
-/

namespace KeyPrecedence

/-- Each scope with the scopes whose shortcuts are active while it is current, the most specific
first. -/
structure ScopeTable where
  rows : Table String (List String)
  deriving Repr

namespace ScopeTable

/-- The scope of windows that have no other. -/
def appScope : String := "App"

def default : ScopeTable :=
  ⟨Table.ofList [("App", ["App"]), ("Main window", ["Main window", "App"]),
    ("Dialog", ["Dialog", "App"])]⟩

def ofList (rows : List (String × List String)) : ScopeTable := ⟨Table.ofList rows⟩

/-- Nothing is active in a scope the table does not know. -/
def active (table : ScopeTable) (scope : String) : List String :=
  (table.rows.find? scope).getD []

def knows (table : ScopeTable) (scope : String) : Bool := table.rows.contains scope

/-- Two scopes overlap when one is active in the other. A scope without active scopes overlaps
nothing. -/
def overlap (table : ScopeTable) (a b : String) : Bool :=
  let inA := table.active a
  let inB := table.active b
  !inA.isEmpty && !inB.isEmpty && (inA.contains b || inB.contains a)

end ScopeTable
end KeyPrecedence
