import KeyPrecedence.Act

/-!
Subscribers to a change, in order of subscription. They are called while the list may change: one
that leaves before its turn is not called, and one that joins is called in the same round.
-/

namespace KeyPrecedence

/-- Every subscription has a ticket, larger than those before it. -/
structure Subscribers (ν : Type) where
  issued : Nat := 0
  members : List (Nat × ν) := []
  deriving Repr

namespace Subscribers

variable {ν σ : Type} [DecidableEq ν]

def contains (subscribers : Subscribers ν) (member : ν) : Bool :=
  subscribers.members.any (·.2 = member)

/-- Subscribing again changes nothing while the first subscription lasts. -/
def add (subscribers : Subscribers ν) (member : ν) : Subscribers ν :=
  if subscribers.contains member then subscribers
  else
    let ticket := subscribers.issued + 1
    ⟨ticket, subscribers.members ++ [(ticket, member)]⟩

def remove (subscribers : Subscribers ν) (member : ν) : Subscribers ν :=
  { subscribers with members := subscribers.members.filter (·.2 ≠ member) }

/-- Who comes next after a ticket. -/
def after (subscribers : Subscribers ν) (ticket : Nat) : Option (Nat × ν) :=
  subscribers.members.find? (ticket < ·.1)

/-- Calls everyone after `last`, looking up who is next as the round goes on. -/
def callFrom (slot : Slot σ (Subscribers ν)) (call : ν → Act σ Unit) : Nat → Nat → Act σ Unit
  | 0, _ => .exhausted
  | allowance + 1, last => do
    match (← slot.read).after last with
    | none => pure ()
    | some (ticket, member) => do
      call member
      callFrom slot call allowance ticket

/-- One round of calls. -/
def callAll (slot : Slot σ (Subscribers ν)) (allowance : Nat) (call : ν → Act σ Unit) :
    Act σ Unit :=
  callFrom slot call allowance 0

end Subscribers
end KeyPrecedence
