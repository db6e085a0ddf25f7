import KeyPrecedence.Fault

/-!
Steps of a host. A step changes the host's state and gives a value or a fault; the state it had
reached stays after a fault. Callbacks may start further steps, so a run has an allowance, and one
that uses it up gives no answer at all.
-/

namespace KeyPrecedence

/-- How a step on a host with state `σ` ended. -/
inductive Outcome (σ α : Type)
  | done (value : α) (state : σ)
  | failed (fault : Fault) (state : σ)
  | exhausted
  deriving Repr

/-- A step on a host with state `σ`. -/
def Act (σ α : Type) := σ → Outcome σ α

namespace Act

variable {σ α β : Type}

def run (act : Act σ α) (state : σ) : Outcome σ α := act state

@[ext]
theorem ext {a b : Act σ α} (h : ∀ state, a.run state = b.run state) : a = b := funext h

/-- Nothing follows a fault. -/
instance : Monad (Act σ) where
  pure value := fun state => .done value state
  bind act next := fun state =>
    match act.run state with
    | .done value reached => (next value).run reached
    | .failed fault reached => .failed fault reached
    | .exhausted => .exhausted

instance : MonadStateOf σ (Act σ) where
  get := fun state => .done state state
  set state := fun _ => .done () state
  modifyGet change := fun state => .done (change state).1 (change state).2

def fail (fault : Fault) : Act σ α := fun state => .failed fault state

/-- The allowance is used up. Nothing that handles faults sees this. -/
def exhausted : Act σ α := fun _ => .exhausted

def ofExcept : Except Fault α → Act σ α
  | .ok value => pure value
  | .error fault => fail fault

/-- Runs a step and gives its end, a fault included, as a value. -/
def attempt (act : Act σ α) : Act σ (Except Fault α) := fun state =>
  match act.run state with
  | .done value reached => .done (.ok value) reached
  | .failed fault reached => .done (.error fault) reached
  | .exhausted => .exhausted

/-- Runs a step; a fault is passed to `report` and goes no further. -/
def guarded (act : Act σ Unit) (report : Fault → Act σ Unit) : Act σ Unit := do
  match ← act.attempt with
  | .ok () => pure ()
  | .error fault => report fault

/-- Runs a step and then another one, also after a fault, and ends as the first did. -/
def followedBy (act : Act σ α) (after : Act σ Unit) : Act σ α := do
  let result ← act.attempt
  after
  ofExcept result

/-- Operations whose callbacks may perform further ones so many deep. `level` is what an operation
does when they are performed by its argument. -/
def nesting {Op : Type} (level : (Op → Act σ α) → Op → Act σ α) : Nat → Op → Act σ α
  | 0 => fun _ => exhausted
  | depth + 1 => level (nesting level depth)

@[simp]
theorem run_pure (value : α) (state : σ) : (pure value : Act σ α).run state = .done value state :=
  rfl

@[simp]
theorem run_bind (act : Act σ α) (next : α → Act σ β) (state : σ) :
    (act >>= next).run state =
      match act.run state with
      | .done value reached => (next value).run reached
      | .failed fault reached => .failed fault reached
      | .exhausted => .exhausted :=
  rfl

@[simp]
theorem run_get (state : σ) : (get : Act σ σ).run state = .done state state := rfl

@[simp]
theorem run_set (value state : σ) : (set value : Act σ PUnit).run state = .done () value := rfl

@[simp]
theorem run_modify (change : σ → σ) (state : σ) :
    (modify change : Act σ PUnit).run state = .done () (change state) :=
  rfl

@[simp]
theorem run_fail (fault : Fault) (state : σ) :
    (fail fault : Act σ α).run state = .failed fault state :=
  rfl

@[simp]
theorem run_exhausted (state : σ) : (exhausted : Act σ α).run state = .exhausted := rfl

@[simp]
theorem run_attempt (act : Act σ α) (state : σ) :
    act.attempt.run state =
      match act.run state with
      | .done value reached => .done (.ok value) reached
      | .failed fault reached => .done (.error fault) reached
      | .exhausted => .exhausted :=
  rfl

theorem id_map (act : Act σ α) : id <$> act = act := by
  ext state
  show (act >>= fun value => pure (id value)).run state = act.run state
  simp only [run_bind, run_pure, id]
  cases act.run state <;> rfl

theorem bind_assoc {γ : Type} (act : Act σ α) (f : α → Act σ β) (g : β → Act σ γ) :
    act >>= f >>= g = act >>= fun value => f value >>= g := by
  ext state
  simp only [run_bind]
  cases act.run state <;> rfl

instance : LawfulMonad (Act σ) :=
  LawfulMonad.mk' (Act σ) (fun act => id_map act) (fun _ _ => rfl)
    fun act f g => bind_assoc act f g

end Act

/-- The place of one part in the state of a host. -/
structure Slot (σ τ : Type) where
  get : σ → τ
  set : τ → σ → σ

namespace Slot

variable {σ τ : Type} (slot : Slot σ τ)

def read : Act σ τ := fun state => .done (slot.get state) state

def write (value : τ) : Act σ Unit := fun state => .done () (slot.set value state)

def update (change : τ → τ) : Act σ Unit := fun state =>
  .done () (slot.set (change (slot.get state)) state)

@[simp]
theorem run_read (state : σ) : slot.read.run state = .done (slot.get state) state := rfl

@[simp]
theorem run_write (value : τ) (state : σ) :
    (slot.write value).run state = .done () (slot.set value state) :=
  rfl

@[simp]
theorem run_update (change : τ → τ) (state : σ) :
    (slot.update change).run state = .done () (slot.set (change (slot.get state)) state) :=
  rfl

end Slot
end KeyPrecedence
