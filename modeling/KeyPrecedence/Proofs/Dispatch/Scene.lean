import KeyPrecedence.Proofs.Dispatch.Others

/-!
# A dispatcher and the code around it

Any code may surround a dispatcher: it works on a state of its own, fails when it likes, and comes
back to the dispatcher only through what the dispatcher offers.

* `Code`: such code, with `dispatch`, `reset` and a look at what is armed as its only ways in;
* `Surroundings`: all that a dispatcher asks of its host, written in `Code`;
* `Scene`: the host's state beside the dispatcher's, with the history of what was armed and run;
* `Surroundings.handle`: one dispatch in a scene, by the dispatcher as it is.
-/

namespace KeyPrecedence

/-- Code on a host with state `τ` beside one dispatcher of commands with callbacks in `κ`. It gets
the fault of a dispatch that fails, and may go on all the same. -/
inductive Code (τ κ α : Type) where
  | done (value : α)
  | failed (fault : Fault)
  | endless
  | look (next : τ → Code τ κ α)
  | put (host : τ) (next : Code τ κ α)
  | dispatch (event : KeyEvent) (next : Except Fault Bool → Code τ κ α)
  | armed (next : Option (Armed (Bound κ)) → Code τ κ α)
  | reset (next : Code τ κ α)

/-- Code that leaves the dispatcher alone. -/
def Code.ofAct {τ κ α : Type} (act : Act τ α) : Code τ κ α :=
  .look fun host =>
    match act.run host with
    | .done value reached => .put reached (.done value)
    | .failed fault reached => .put reached (.failed fault)
    | .exhausted => .endless

/-- What the focus source said last while an event is handled. -/
structure Heard where
  owner : Option Widget := none
  window : Option Window := none
  deriving DecidableEq, Repr

/-- The handling of an event, so far. -/
structure Handling where
  event : KeyEvent
  heard : Heard
  deriving DecidableEq, Repr

/-- Where the event is headed: its source, or what has the focus. -/
def Handling.destination (handling : Handling) : Option Widget :=
  handling.event.source.or handling.heard.owner

def Handling.context (handling : Handling) : Context :=
  ⟨handling.heard.owner, handling.heard.window⟩

/-- What happens to the armed command: one is armed, whatever was armed is let go of, or the
dispatcher runs a command. -/
inductive Occurrence (κ : Type)
  | armed (during : Handling) (armed : Armed (Bound κ))
  | cleared
  | executed (during : Handling) (callback : κ) (context : Context)
  deriving DecidableEq, Repr

namespace Occurrence

variable {κ : Type}

@[simp]
def isArming : Occurrence κ → Bool
  | armed .. => true
  | _ => false

@[simp]
def isExecution : Occurrence κ → Bool
  | executed .. => true
  | _ => false

end Occurrence

/-- A host with one dispatcher. The history only grows, and nobody reads it. -/
structure Scene (τ κ : Type) where
  host : τ
  armed : Option (Armed (Bound κ)) := none
  heard : Heard := {}
  history : List (Occurrence κ) := []

namespace Scene

variable {τ κ α : Type}

def note (scene : Scene τ κ) (occurrence : Occurrence κ) : Scene τ κ :=
  { scene with history := scene.history ++ [occurrence] }

/-- Whatever was armed is let go of. -/
def clear (scene : Scene τ κ) : Scene τ κ := { scene.note .cleared with armed := none }

/-- The place of the armed command while an event is handled. -/
def armedSlot (event : KeyEvent) : Slot (Scene τ κ) (Option (Armed (Bound κ))) where
  get := armed
  set value scene :=
    match value with
    | some armed => { scene.note (.armed ⟨event, scene.heard⟩ armed) with armed := some armed }
    | none => scene.clear

def hostSlot (slot : Slot τ α) : Slot (Scene τ κ) α where
  get scene := slot.get scene.host
  set value scene := { scene with host := slot.set value scene.host }

/-- A step of the host, in a scene. -/
def onHost (act : Act τ α) : Act (Scene τ κ) α := fun scene =>
  match act.run scene.host with
  | .done value host => .done value { scene with host }
  | .failed fault host => .failed fault { scene with host }
  | .exhausted => .exhausted

theorem run_onHost (act : Act τ α) (scene : Scene τ κ) :
    (onHost act).run scene =
      match act.run scene.host with
      | .done value host => .done value { scene with host }
      | .failed fault host => .failed fault { scene with host }
      | .exhausted => .exhausted :=
  rfl

theorem onHost_bind {β : Type} (act : Act τ α) (next : α → Act τ β) :
    (onHost (act >>= next) : Act (Scene τ κ) β) = onHost act >>= fun value => onHost (next value) := by
  ext scene
  rw [run_onHost, Act.run_bind, Act.run_bind, run_onHost]
  cases act.run scene.host <;> rfl

end Scene

namespace Code

variable {τ κ α : Type}

/-- Runs code in a scene, where `dispatch` is what a dispatch does. -/
def run (dispatch : KeyEvent → Act (Scene τ κ) Bool) : Code τ κ α → Act (Scene τ κ) α
  | done value => pure value
  | failed fault => .fail fault
  | endless => .exhausted
  | look next => do run dispatch (next (← get).host)
  | put host next => do
    modify fun scene => { scene with host }
    run dispatch next
  | .dispatch event next => do run dispatch (next (← (dispatch event).attempt))
  | armed next => do run dispatch (next (← get).armed)
  | reset next => do
    modify Scene.clear
    run dispatch next

theorem run_ofAct (dispatch : KeyEvent → Act (Scene τ κ) Bool) (act : Act τ α) :
    (ofAct act : Code τ κ α).run dispatch = Scene.onHost act := by
  ext scene
  simp only [ofAct, run, Act.run_bind, Act.run_get, Scene.run_onHost]
  cases act.run scene.host <;> rfl

end Code

/-- The toolkit of a host whose code is run by `f`. -/
def Toolkit.map {m n : Type → Type} [Functor n] (f : {α : Type} → m α → n α)
    (toolkit : Toolkit m) : Toolkit n where
  rootOf widget := Option.map f <$> f (toolkit.rootOf widget)
  isKeyCapture widget := f (toolkit.isKeyCapture widget)
  isTextEditor widget := f (toolkit.isTextEditor widget)
  ancestorIsEditing widget := f (toolkit.ancestorIsEditing widget)
  isEnabled widget := f (toolkit.isEnabled widget)
  listenersOf widget :=
    (fun listenerAt position =>
      (Option.map fun listener =>
        { handler := fun phase => (listener.handler phase).map fun handle event =>
            f (handle event) : KeyListener n }) <$> f (listenerAt position))
      <$> f (toolkit.listenersOf widget)
  bindingOf widget keystroke :=
    (Option.map fun binding =>
      { accept := fun widget => f (binding.accept widget)
        isEnabled := f binding.isEnabled : Binding n })
      <$> f (toolkit.bindingOf widget keystroke)

/-- All that one dispatcher meets: the host's toolkit, focus source, menu and resolver, and the
callbacks of the commands. Logging alone may not come back to the dispatcher. -/
structure Surroundings (τ κ : Type) where
  platform : Platform
  toolkit : Toolkit (Code τ κ)
  focus : Focus (Code τ κ)
  commandFor : Keystroke → Window → Code τ κ (Option (Command κ))
  menu : Option (KeyEvent → Code τ κ Bool) := none
  calls : Callbacks (Code τ κ) κ
  consumed : KeyEvent → Slot τ Bool
  log : Notice → Act τ Unit
  allowance : Nat

namespace Surroundings

variable {τ κ : Type} (around : Surroundings τ κ)

/-- The dispatcher as it handles an event; the code around it dispatches by `dispatch`. The focus
source's answers are remembered, and the runs of commands noted. -/
def dispatcher (dispatch : KeyEvent → Act (Scene τ κ) Bool) (event : KeyEvent) :
    Dispatcher (Scene τ κ) κ where
  platform := around.platform
  toolkit := around.toolkit.map (Code.run dispatch)
  focus :=
    { owner := do
        let owner ← around.focus.owner.run dispatch
        modify fun scene => { scene with heard := { scene.heard with owner } }
        return owner
      window := do
        let window ← around.focus.window.run dispatch
        modify fun scene => { scene with heard := { scene.heard with window } }
        return window }
  commandFor keystroke window := (around.commandFor keystroke window).run dispatch
  menu := around.menu.map fun processes event => (processes event).run dispatch
  calls :=
    { decide := fun callback context => (around.calls.decide callback context).run dispatch
      run := fun callback context => do
        modify fun scene => scene.note (.executed ⟨event, scene.heard⟩ callback context)
        (around.calls.run callback context).run dispatch
      report := fun callback context => (around.calls.report callback context).run dispatch
      toast := fun name id => (around.calls.toast name id).run dispatch }
  consumed event := Scene.hostSlot (around.consumed event)
  armed := Scene.armedSlot event
  log notice := Scene.onHost (around.log notice)
  allowance := around.allowance

/-- Handles an event from its arrival to its end, within the handling of another one or not. -/
def handle (dispatch : KeyEvent → Act (Scene τ κ) Bool) (event : KeyEvent) :
    Act (Scene τ κ) Bool := do
  let outer := (← get).heard
  modify fun scene => { scene with heard := {} }
  let result ← ((around.dispatcher dispatch event).dispatch event).attempt
  modify fun scene => { scene with heard := outer }
  .ofExcept result

theorem ends_handle {dispatch : KeyEvent → Act (Scene τ κ) Bool} {event : KeyEvent}
    {scene : Scene τ κ} {post : Except Fault Bool → Scene τ κ → Prop} :
    (around.handle dispatch event).Ends scene post ↔
      ((around.dispatcher dispatch event).dispatch event).Ends { scene with heard := {} }
        fun result reached => post result { reached with heard := scene.heard } := by
  unfold handle
  rw [Act.ends_get_bind, Act.ends_modify_bind, Act.ends_bind, Act.ends_attempt]
  simp only [Act.Then, Act.ends_modify_bind, Act.ends_ofExcept]

/-- Dispatches an event where the code around may dispatch further ones so many deep. At depth one
no callback dispatches. -/
def dispatch : Nat → KeyEvent → Act (Scene τ κ) Bool :=
  Act.nesting around.handle

end Surroundings

/-! ## What code in a scene keeps -/

/-- A condition that no step of a host can touch, and that letting go of what is armed keeps. -/
structure Scene.Robust {τ κ : Type} (inv : Scene τ κ → Prop) : Prop where
  host : ∀ scene host, inv scene → inv { scene with host }
  clear : ∀ scene, inv scene → inv scene.clear

section
variable {τ κ α : Type} {inv : Scene τ κ → Prop}
  {dispatch : KeyEvent → Act (Scene τ κ) Bool}

theorem Scene.ends_onHost (act : Act τ α) (scene : Scene τ κ) :
    (Scene.onHost act).Ends scene fun _ reached => ∃ host, reached = { scene with host } := by
  unfold Act.Ends
  rw [Scene.run_onHost]
  cases act.run scene.host with
  | done value host => exact ⟨host, rfl⟩
  | failed fault host => exact ⟨host, rfl⟩
  | exhausted => trivial

theorem Scene.ends_onHost_of {act : Act τ α} {scene : Scene τ κ} {post : Except Fault α → τ → Prop}
    (h : act.Ends scene.host post) :
    (Scene.onHost act).Ends scene fun result reached => post result reached.host := by
  unfold Act.Ends at *
  rw [Scene.run_onHost]
  cases hr : act.run scene.host <;> simp_all

theorem Scene.Robust.keeps_onHost (robust : Scene.Robust inv) (act : Act τ α) :
    Act.Keeps inv (Scene.onHost act) := fun scene h =>
  (Scene.ends_onHost act scene).mono fun _ _ ⟨host, he⟩ => he ▸ robust.host scene host h

theorem Scene.Robust.keeps_run (robust : Scene.Robust inv)
    (inner : ∀ event, Act.Keeps inv (dispatch event)) (code : Code τ κ α) :
    Act.Keeps inv (code.run dispatch) := by
  induction code with
  | done value => exact Act.keeps_pure value
  | failed fault => exact Act.keeps_fail fault
  | endless => exact Act.keeps_exhausted
  | look next ih => exact fun scene h => ih scene.host scene h
  | put host next ih => exact fun scene h => ih _ (robust.host scene host h)
  | dispatch event next ih =>
    exact Act.keeps_bind (Act.keeps_attempt (inner event)) fun result => ih result
  | armed next ih => exact fun scene h => ih scene.armed scene h
  | reset next ih => exact fun scene h => ih _ (robust.clear scene h)

theorem Toolkit.keeps_map {m : Type → Type} {σ : Type} {inv : σ → Prop}
    {f : {α : Type} → m α → Act σ α} (h : ∀ {α : Type} (code : m α), Act.Keeps inv (f code))
    (toolkit : Toolkit m) : (toolkit.map f).Keeps inv where
  rootOf widget := .of_map (h _) fun root isBusy he => by
    obtain ⟨code, -, rfl⟩ := Option.map_eq_some_iff.mp he
    exact h code
  isKeyCapture widget := h _
  isTextEditor widget := h _
  ancestorIsEditing widget := h _
  isEnabled widget := h _
  listenersOf widget := .of_map (h _) fun listenerAt position =>
    .of_map (h _) fun found listener he phase handle event hh => by
      obtain ⟨own, -, rfl⟩ := Option.map_eq_some_iff.mp he
      obtain ⟨code, -, rfl⟩ := Option.map_eq_some_iff.mp hh
      exact h (code event)
  bindingOf widget keystroke := .of_map (h _) fun found binding he => by
    obtain ⟨own, -, rfl⟩ := Option.map_eq_some_iff.mp he
    exact ⟨fun widget => h _, h _⟩

theorem Surroundings.othersKeep (around : Surroundings τ κ) (robust : Scene.Robust inv)
    (inner : ∀ event, Act.Keeps inv (dispatch event)) (event : KeyEvent) :
    (around.dispatcher dispatch event).OthersKeep inv where
  toolkit := Toolkit.keeps_map (fun code => robust.keeps_run inner code) around.toolkit
  commandFor keystroke window := robust.keeps_run inner _
  menu processes event hm := by
    obtain ⟨own, -, rfl⟩ := Option.map_eq_some_iff.mp hm
    exact robust.keeps_run inner (own event)
  decide callback context := robust.keeps_run inner _
  report callback context := robust.keeps_run inner _
  toast name id := robust.keeps_run inner _
  consumed event value scene h := robust.host scene _ h
  log notice := robust.keeps_onHost _

end
end KeyPrecedence
