import KeyPrecedence.Act
import KeyPrecedence.Table
import KeyPrecedence.Dispatch.Host
import KeyPrecedence.Logging.Notice

/-!
Event pipelines of the host, and the one dispatcher installed into them. Installing again has no
effect until that one is uninstalled.
-/

namespace KeyPrecedence

/-- A pipeline: the dispatchers attached to it, and the events none of them took. -/
structure Pipeline (δ : Type) where
  attached : List δ := []
  hostProcessed : List KeyEvent := []
  deriving Repr

instance {δ : Type} : Inhabited (Pipeline δ) := ⟨{}⟩

namespace Pipeline

variable {δ : Type} [DecidableEq δ]

/-- A dispatcher attached twice is offered every event twice. -/
def attach (pipeline : Pipeline δ) (dispatcher : δ) : Pipeline δ :=
  { pipeline with attached := pipeline.attached ++ [dispatcher] }

/-- Takes away the first occurrence. -/
def detach (pipeline : Pipeline δ) (dispatcher : δ) : Pipeline δ :=
  { pipeline with attached := pipeline.attached.erase dispatcher }

variable {σ : Type}

/-- Offers an event to the dispatchers from a position on; the pipeline may change meanwhile. What
nobody takes is left to the host. -/
def offerFrom (slot : Slot σ (Pipeline δ)) (dispatch : δ → Act σ Bool) (event : KeyEvent) :
    Nat → Nat → Act σ Bool
  | 0, _ => .exhausted
  | allowance + 1, position => do
    match (← slot.read).attached[position]? with
    | none =>
      slot.update fun p => { p with hostProcessed := p.hostProcessed ++ [event] }
      return false
    | some dispatcher =>
      if ← dispatch dispatcher then return true
      offerFrom slot dispatch event allowance (position + 1)

/-- Gives whether a dispatcher took the event. -/
def deliver (slot : Slot σ (Pipeline δ)) (allowance : Nat) (dispatch : δ → Act σ Bool)
    (event : KeyEvent) : Act σ Bool :=
  offerFrom slot dispatch event allowance 0

end Pipeline

/-- The pipelines of the host by name, and which dispatcher is installed where. -/
structure Installation (δ : Type) where
  pipelines : Table String (Pipeline δ) := {}
  installed : Option (δ × String) := none

namespace Installation

variable {δ : Type} [DecidableEq δ]

def pipeline (installation : Installation δ) (name : String) : Pipeline δ :=
  (installation.pipelines.find? name).getD {}

def withPipeline (installation : Installation δ) (name : String) (pipeline : Pipeline δ) :
    Installation δ :=
  { installation with pipelines := installation.pipelines.insert name pipeline }

def attach (installation : Installation δ) (name : String) (dispatcher : δ) : Installation δ :=
  installation.withPipeline name ((installation.pipeline name).attach dispatcher)

def detach (installation : Installation δ) (name : String) (dispatcher : δ) : Installation δ :=
  installation.withPipeline name ((installation.pipeline name).detach dispatcher)

variable {σ : Type} (slot : Slot σ (Installation δ)) (log : Notice → Act σ Unit)

/-- Makes a dispatcher and attaches it, unless one is installed already: then that one is given. -/
def install (make : Act σ δ) (name : String) : Act σ δ := do
  match (← slot.read).installed with
  | some (dispatcher, _) =>
    log .alreadyInstalled
    return dispatcher
  | none =>
    let dispatcher ← make
    slot.update fun i => { i.attach name dispatcher with installed := some (dispatcher, name) }
    log .installed
    return dispatcher

/-- Detaches the installed dispatcher and drops what it has armed. -/
def uninstall (reset : δ → Act σ Unit) : Act σ Unit := do
  match (← slot.read).installed with
  | none => pure ()
  | some (dispatcher, name) =>
    slot.update fun i => i.detach name dispatcher
    reset dispatcher
    slot.update fun i => { i with installed := none }
    log .uninstalled

end Installation
end KeyPrecedence
