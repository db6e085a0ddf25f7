import KeyPrecedence.Proofs.Dispatch.Alike
import KeyPrecedence.Proofs.Dispatch.Scene
import KeyPrecedence.Proofs.Ends

/-!
# A dispatcher of which notes are taken

* `Call`: what a dispatcher may call beside its questions to the toolkit and the focus source;
* `Annotated`: a host with a record of what goes on, which nobody reads;
* `Notes`: what is put down of calls and how they end, of other failures, and of events the
  dispatcher consumes; `Dispatcher.annotated`: the dispatcher of which such notes are taken;
* `Dispatcher.annotated_alike`: taking notes changes nothing;
* `Dispatcher.Alike.annotated`: the same notes are taken of two dispatchers that end alike;
* `Dispatcher.annotated_arrival`: nobody is called before an armed command has had its say.
-/

namespace KeyPrecedence

open Act

variable {σ τ κ γ α β : Type}

/-- A call to somebody who may take the event, or to a callback of a command. -/
inductive Call (κ : Type)
  | menu (event : KeyEvent)
  | resolver (keystroke : Keystroke) (window : Window)
  /-- The listener at a position in the list of the widget's. -/
  | listener (widget : Widget) (position : Nat) (event : KeyEvent)
  | accepts (widget : Widget) (keystroke : Keystroke)
  | usable (widget : Widget) (keystroke : Keystroke)
  | decides (callback : κ) (context : Context)
  | runs (callback : κ) (context : Context)
  | reports (callback : κ) (context : Context)
  | toast (name id : String)
  deriving DecidableEq, Repr

/-- A host with a record of what goes on. -/
structure Annotated (σ γ : Type) where
  host : σ
  record : γ

/-- How a step ended, and what was put down meanwhile. -/
structure Observation (γ α : Type) where
  result : Except Fault α
  record : γ

def Observation.fault? (observation : Observation γ α) : Option Fault :=
  match observation.result with
  | .ok _ => none
  | .error fault => some fault

theorem Observation.fault?_eq_some {observation : Observation γ α} {fault : Fault} :
    observation.fault? = some fault ↔ observation.result = .error fault := by
  unfold fault?
  cases observation.result <;> simp

/-- What is put down in a record of a dispatch. -/
structure Notes (κ γ : Type) where
  /-- The answer of a call is what a question was answered, whether a command was found, or whether
  the event was consumed after a listener. -/
  call : Call κ → Except Fault Bool → γ → γ
  /-- The toolkit, the focus source or the log failed. -/
  failure : Fault → γ → γ
  /-- The dispatcher itself consumes an event. -/
  consumed : KeyEvent → γ → γ

namespace Annotated

/-- A step of the host, after which is put down how it ended. -/
def step (note : Except Fault α → σ → γ → γ) (act : Act σ α) : Act (Annotated σ γ) α :=
  fun annotated =>
    match act.run annotated.host with
    | .done value host => .done value ⟨host, note (.ok value) host annotated.record⟩
    | .failed fault host => .failed fault ⟨host, note (.error fault) host annotated.record⟩
    | .exhausted => .exhausted

def slot (part : Slot σ τ) : Slot (Annotated σ γ) τ where
  get annotated := part.get annotated.host
  set value annotated := ⟨part.set value annotated.host, annotated.record⟩

/-- Runs a step with a blank record, and gives what has become of it. -/
def observe (blank : γ) (act : Act (Annotated σ γ) α) : Act σ (Observation γ α) := fun host =>
  match act.run ⟨host, blank⟩ with
  | .done value annotated => .done ⟨.ok value, annotated.record⟩ annotated.host
  | .failed fault annotated => .done ⟨.error fault, annotated.record⟩ annotated.host
  | .exhausted => .exhausted

theorem run_step (note : Except Fault α → σ → γ → γ) (act : Act σ α) (annotated : Annotated σ γ) :
    (step note act).run annotated =
      match act.run annotated.host with
      | .done value host => .done value ⟨host, note (.ok value) host annotated.record⟩
      | .failed fault host => .failed fault ⟨host, note (.error fault) host annotated.record⟩
      | .exhausted => .exhausted :=
  rfl

theorem run_step_of_done {note : Except Fault α → σ → γ → γ} {act : Act σ α}
    {annotated : Annotated σ γ} {value : α} {host : σ}
    (h : act.run annotated.host = .done value host) :
    (step note act).run annotated = .done value ⟨host, note (.ok value) host annotated.record⟩ := by
  rw [run_step, h]

theorem run_observe (blank : γ) (act : Act (Annotated σ γ) α) (host : σ) :
    (observe blank act).run host =
      match act.run ⟨host, blank⟩ with
      | .done value annotated => .done ⟨.ok value, annotated.record⟩ annotated.host
      | .failed fault annotated => .done ⟨.error fault, annotated.record⟩ annotated.host
      | .exhausted => .exhausted :=
  rfl

/-- What is left when the record is forgotten. -/
def Hosts (annotated : Annotated σ γ) (host : σ) : Prop := annotated.host = host

theorem step_alike (note : Except Fault α → σ → γ → γ) (act : Act σ α) :
    Act.Alike Hosts Eq (step note act) act := by
  rintro annotated _ rfl
  rw [run_step]
  cases act.run annotated.host with
  | done value host => exact .done rfl rfl
  | failed fault host => exact .failed rfl
  | exhausted => exact .exhausted

/-- The host ends as it does without a record. -/
theorem run_host_eq_done {act : Act (Annotated σ γ) α} {other : Act σ α}
    (alike : Act.Alike Hosts Eq act other) {annotated : Annotated σ γ} {value : α} {host : σ} :
    other.run annotated.host = .done value host ↔
      ∃ record, act.run annotated = .done value ⟨host, record⟩ := by
  have parts := alike annotated annotated.host rfl
  generalize act.run annotated = one at parts ⊢
  generalize other.run annotated.host = two at parts ⊢
  cases parts with
  | done same reached =>
    cases same
    cases reached
    constructor
    · rintro ⟨⟩
      exact ⟨_, rfl⟩
    · rintro ⟨_, ⟨⟩⟩
      rfl
  | failed | exhausted => simp

/-- A step that is no call. -/
def asked (failure : Fault → γ → γ) (act : Act σ α) : Act (Annotated σ γ) α :=
  step (fun
    | .ok _, _ => id
    | .error fault, _ => failure fault) act

section
variable {failure : Fault → γ → γ}

theorem run_asked_of_done {act : Act σ α} {annotated : Annotated σ γ} {value : α} {host : σ}
    (h : act.run annotated.host = .done value host) :
    (asked failure act).run annotated = .done value ⟨host, annotated.record⟩ :=
  run_step_of_done h

/-- Only the first failure of a step ends it. -/
theorem asked_bind (act : Act σ α) (next : α → Act σ β) :
    asked failure (act >>= next) = asked failure act >>= fun value => asked failure (next value) := by
  ext annotated
  unfold asked
  rw [run_step, run_bind, run_bind, run_step]
  cases act.run annotated.host <;> rfl

theorem asked_tell (act : Act σ Unit) (value : α) :
    (do asked failure act; return value : Act (Annotated σ γ) α) =
      asked failure (do act; return value) :=
  (asked_bind act fun _ => pure value).symm

theorem asked_alike (act : Act σ α) : Act.Alike Hosts Eq (asked failure act) act :=
  step_alike _ act

/-- An answer of the host that is put another way. -/
theorem map_asked_alike {related : β → α → Prop} (act : Act σ α) {f : α → β}
    (hf : ∀ value, related (f value) value) :
    Act.Alike Hosts related (f <$> asked failure act) act := by
  have mapped : Act.Alike Hosts related (f <$> asked failure act) (id <$> act) :=
    alike_map (asked_alike act) fun value _ same => same ▸ hf value
  rwa [Act.id_map] at mapped

end

theorem slot_alike (part : Slot σ τ) :
    (slot part).Alike (Hosts : Annotated σ γ → σ → Prop) part where
  get := by rintro _ _ rfl; rfl
  set := by rintro _ _ _ rfl; rfl

end Annotated

namespace Notes

variable (notes : Notes κ γ)

/-- A call, which is put down with its answer once it is over. -/
def called (call : Call κ) (answer : α → σ → Bool) (act : Act σ α) : Act (Annotated σ γ) α :=
  Annotated.step (fun result host => notes.call call (result.map fun value => answer value host)) act

/-- The mark of an event that is consumed. -/
def mark (event : KeyEvent) (part : Slot σ Bool) : Slot (Annotated σ γ) Bool where
  get annotated := part.get annotated.host
  set value annotated := ⟨part.set value annotated.host, notes.consumed event annotated.record⟩

theorem run_called (call : Call κ) (answer : α → σ → Bool) (act : Act σ α)
    (annotated : Annotated σ γ) :
    (notes.called call answer act).run annotated =
      match act.run annotated.host with
      | .done value host =>
        .done value ⟨host, notes.call call (.ok (answer value host)) annotated.record⟩
      | .failed fault host => .failed fault ⟨host, notes.call call (.error fault) annotated.record⟩
      | .exhausted => .exhausted :=
  rfl

theorem called_alike (call : Call κ) (answer : α → σ → Bool) (act : Act σ α) :
    Act.Alike Annotated.Hosts Eq (notes.called call answer act) act :=
  Annotated.step_alike _ act

theorem mark_alike (event : KeyEvent) (part : Slot σ Bool) :
    (notes.mark event part).Alike Annotated.Hosts part where
  get := by rintro _ _ rfl; rfl
  set := by rintro _ _ _ rfl; rfl

end Notes

open Annotated

/-! ## Taking notes -/

section
variable (notes : Notes κ γ)

def KeyListener.annotated (consumed : KeyEvent → Slot σ Bool) (widget : Widget) (position : Nat)
    (listener : KeyListener (Act σ)) : KeyListener (Act (Annotated σ γ)) where
  handler phase := (listener.handler phase).map fun handle event =>
    notes.called (.listener widget position event) (fun _ host => (consumed event).get host)
      (handle event)

def Binding.annotated (keystroke : Keystroke) (widget : Widget) (binding : Binding (Act σ)) :
    Binding (Act (Annotated σ γ)) where
  accept asked :=
    notes.called (.accepts asked keystroke) (fun answer _ => answer) (binding.accept asked)
  isEnabled := notes.called (.usable widget keystroke) (fun answer _ => answer) binding.isEnabled

def Toolkit.annotated (consumed : KeyEvent → Slot σ Bool) (toolkit : Toolkit (Act σ)) :
    Toolkit (Act (Annotated σ γ)) where
  rootOf widget := Option.map (asked notes.failure) <$> asked notes.failure (toolkit.rootOf widget)
  isKeyCapture widget := asked notes.failure (toolkit.isKeyCapture widget)
  isTextEditor widget := asked notes.failure (toolkit.isTextEditor widget)
  ancestorIsEditing widget := asked notes.failure (toolkit.ancestorIsEditing widget)
  isEnabled widget := asked notes.failure (toolkit.isEnabled widget)
  listenersOf widget :=
    (fun listenerAt position =>
      Option.map (KeyListener.annotated notes consumed widget position) <$>
        asked notes.failure (listenerAt position))
      <$> asked notes.failure (toolkit.listenersOf widget)
  bindingOf widget keystroke :=
    Option.map (Binding.annotated notes keystroke widget) <$>
      asked notes.failure (toolkit.bindingOf widget keystroke)

def Callbacks.annotated (calls : Callbacks (Act σ) κ) : Callbacks (Act (Annotated σ γ)) κ where
  decide callback context :=
    notes.called (.decides callback context) (fun answer _ => answer) (calls.decide callback context)
  run callback context :=
    notes.called (.runs callback context) (fun _ _ => true) (calls.run callback context)
  report callback context :=
    notes.called (.reports callback context) (fun _ _ => true) (calls.report callback context)
  toast name id := notes.called (.toast name id) (fun _ _ => true) (calls.toast name id)

/-- The dispatcher on its host, with notes taken of it. -/
def Dispatcher.annotated (dispatcher : Dispatcher σ κ) : Dispatcher (Annotated σ γ) κ where
  platform := dispatcher.platform
  toolkit := dispatcher.toolkit.annotated notes dispatcher.consumed
  focus :=
    { owner := asked notes.failure dispatcher.focus.owner
      window := asked notes.failure dispatcher.focus.window }
  commandFor keystroke window :=
    notes.called (.resolver keystroke window) (fun found _ => found.isSome)
      (dispatcher.commandFor keystroke window)
  menu := dispatcher.menu.map fun processes event =>
    notes.called (.menu event) (fun answer _ => answer) (processes event)
  calls := dispatcher.calls.annotated notes
  consumed event := notes.mark event (dispatcher.consumed event)
  armed := slot dispatcher.armed
  log notice := asked notes.failure (dispatcher.log notice)
  allowance := dispatcher.allowance

end

/-! ## Taking notes changes nothing -/

theorem Toolkit.annotated_alike (notes : Notes κ γ) (consumed : KeyEvent → Slot σ Bool)
    (toolkit : Toolkit (Act σ)) : (toolkit.annotated notes consumed).Alike Hosts toolkit where
  rootOf _ := map_asked_alike _ (rel_map_self asked_alike)
  isKeyCapture _ := asked_alike _
  isTextEditor _ := asked_alike _
  ancestorIsEditing _ := asked_alike _
  isEnabled _ := asked_alike _
  listenersOf _ := map_asked_alike _ fun _ _ => map_asked_alike _ (rel_map_self fun _ _ =>
    rel_map_self (fun _ _ => notes.called_alike _ _ _) _)
  bindingOf _ _ := map_asked_alike _ (rel_map_self fun _ =>
    { accept := fun _ => notes.called_alike _ _ _, isEnabled := notes.called_alike _ _ _ })

theorem Dispatcher.annotated_alike (notes : Notes κ γ) (dispatcher : Dispatcher σ κ) :
    (dispatcher.annotated notes).Alike Hosts dispatcher where
  platform := rfl
  allowance := rfl
  toolkit := dispatcher.toolkit.annotated_alike notes dispatcher.consumed
  owner := asked_alike _
  window := asked_alike _
  commandFor _ _ := notes.called_alike _ _ _
  menu := rel_map_self (fun _ _ => notes.called_alike _ _ _) _
  calls :=
    { decide := fun _ _ => notes.called_alike _ _ _
      run := fun _ _ => notes.called_alike _ _ _
      report := fun _ _ => notes.called_alike _ _ _
      toast := fun _ _ => notes.called_alike _ _ _ }
  consumed event := notes.mark_alike event _
  armed := slot_alike _
  log _ := asked_alike _

/-! ## Two dispatchers of which notes are taken -/

namespace Annotated

variable {σ' α' : Type} {states : σ → σ' → Prop} {values : α → α' → Prop}

/-- The hosts correspond, and the same has been put down. -/
structure Same (states : σ → σ' → Prop) (annotated : Annotated σ γ) (other : Annotated σ' γ) :
    Prop where
  host : states annotated.host other.host
  record : annotated.record = other.record

theorem alike_step {note : Except Fault α → σ → γ → γ} {note' : Except Fault α' → σ' → γ → γ}
    {act : Act σ α} {other : Act σ' α'} (h : Act.Alike states values act other)
    (noted : ∀ {result result' host host'}, Result.Alike values result result' → states host host' →
      note result host = note' result' host') :
    Act.Alike (Same states) values (step note act) (step note' other) := by
  intro annotated annotated' same
  have parts := h _ _ same.host
  rw [run_step, run_step]
  generalize act.run annotated.host = one at parts ⊢
  generalize other.run annotated'.host = two at parts ⊢
  cases parts with
  | done value reached => exact .done value ⟨reached, by rw [noted (.ok value) reached, same.record]⟩
  | failed reached => exact .failed ⟨reached, by rw [noted (.error _) reached, same.record]⟩
  | exhausted => exact .exhausted

theorem alike_asked {failure : Fault → γ → γ} {act : Act σ α} {other : Act σ' α'}
    (h : Act.Alike states values act other) :
    Act.Alike (Same states) values (asked failure act) (asked failure other) :=
  alike_step h fun results _ => by cases results <;> rfl

theorem alike_slot {part : Slot σ τ} {other : Slot σ' τ} (h : part.Alike states other) :
    (slot part).Alike (Same states : Annotated σ γ → Annotated σ' γ → Prop) (slot other) where
  get _ _ same := h.get _ _ same.host
  set value _ _ same := ⟨h.set value _ _ same.host, same.record⟩

/-- What is observed is the same. -/
theorem alike_observe {blank : γ} {act : Act (Annotated σ γ) α} {other : Act (Annotated σ' γ) α}
    {state : σ} {state' : σ'}
    (h : Outcome.Alike (Same states) Eq (act.run ⟨state, blank⟩) (other.run ⟨state', blank⟩)) :
    Outcome.Alike states Eq ((observe blank act).run state) ((observe blank other).run state') := by
  rw [run_observe, run_observe]
  generalize act.run _ = one at h ⊢
  generalize other.run _ = two at h ⊢
  cases h with
  | done value reached => exact .done (by rw [value, reached.record]) reached.host
  | failed reached => exact .done (by rw [reached.record]) reached.host
  | exhausted => exact .exhausted

end Annotated

namespace Notes

variable {σ' : Type} {states : σ → σ' → Prop} {notes : Notes κ γ}

theorem alike_called {act : Act σ α} {other : Act σ' α} {answer : α → σ → Bool}
    {answer' : α → σ' → Bool} (call : Call κ) (h : Act.Alike states Eq act other)
    (answers : ∀ value host host', states host host' → answer value host = answer' value host') :
    Act.Alike (Same states) Eq (notes.called call answer act) (notes.called call answer' other) :=
  alike_step h fun {result _ _ _} results hosts => by
    cases results.eq
    cases result with
    | ok value => simp only [Except.map, answers value _ _ hosts]
    | error fault => rfl

theorem alike_answered {act : Act σ α} {other : Act σ' α} {answer : α → Bool} (call : Call κ)
    (h : Act.Alike states Eq act other) :
    Act.Alike (Same states) Eq (notes.called call (fun value _ => answer value) act)
      (notes.called call (fun value _ => answer value) other) :=
  alike_called call h fun _ _ _ _ => rfl

theorem alike_mark {event : KeyEvent} {part : Slot σ Bool} {other : Slot σ' Bool}
    (h : part.Alike states other) :
    (notes.mark event part).Alike (Same states) (notes.mark event other) where
  get _ _ same := h.get _ _ same.host
  set value _ _ same := ⟨h.set value _ _ same.host, congrArg (notes.consumed event) same.record⟩

end Notes

section
variable {σ' : Type} {states : σ → σ' → Prop} {notes : Notes κ γ}

theorem Toolkit.Alike.annotated {consumed : KeyEvent → Slot σ Bool}
    {consumed' : KeyEvent → Slot σ' Bool}
    (hc : ∀ event, (consumed event).Alike states (consumed' event)) {toolkit : Toolkit (Act σ)}
    {other : Toolkit (Act σ')} (alike : toolkit.Alike states other) :
    (toolkit.annotated notes consumed).Alike (Same states) (other.annotated notes consumed') where
  rootOf widget := alike_map (alike_asked (alike.rootOf widget)) fun _ _ same =>
    rel_map (fun _ _ => alike_asked) same
  isKeyCapture widget := alike_asked (alike.isKeyCapture widget)
  isTextEditor widget := alike_asked (alike.isTextEditor widget)
  ancestorIsEditing widget := alike_asked (alike.ancestorIsEditing widget)
  isEnabled widget := alike_asked (alike.isEnabled widget)
  listenersOf widget := alike_map (alike_asked (alike.listenersOf widget)) fun _ _ same position =>
    alike_map (alike_asked (same position)) fun _ _ found =>
      rel_map (fun _ _ listeners phase => rel_map (fun _ _ handles event =>
        Notes.alike_called _ (handles event) fun _ => (hc event).get) (listeners phase)) found
  bindingOf widget keystroke := alike_map (alike_asked (alike.bindingOf widget keystroke))
    fun _ _ same => rel_map (fun _ _ bindings =>
      { accept := fun asked => Notes.alike_answered _ (bindings.accept asked)
        isEnabled := Notes.alike_answered _ bindings.isEnabled }) same

/-- Of dispatchers that are asked and answered alike the same notes are taken. -/
theorem Dispatcher.Alike.annotated {dispatcher : Dispatcher σ κ} {other : Dispatcher σ' κ}
    (alike : dispatcher.Alike states other) :
    (dispatcher.annotated notes).Alike (Same states) (other.annotated notes) where
  platform := alike.platform
  allowance := alike.allowance
  toolkit := alike.toolkit.annotated alike.consumed
  owner := alike_asked alike.owner
  window := alike_asked alike.window
  commandFor keystroke window := Notes.alike_answered _ (alike.commandFor keystroke window)
  menu := rel_map (fun _ _ processes event => Notes.alike_answered _ (processes event)) alike.menu
  calls :=
    { decide := fun callback context => Notes.alike_answered _ (alike.calls.decide callback context)
      run := fun callback context => Notes.alike_answered _ (alike.calls.run callback context)
      report := fun callback context => Notes.alike_answered _ (alike.calls.report callback context)
      toast := fun name id => Notes.alike_answered _ (alike.calls.toast name id) }
  consumed event := Notes.alike_mark (alike.consumed event)
  armed := alike_slot alike.armed
  log notice := alike_asked (alike.log notice)

end

/-! ## Where nobody is called -/

section
variable (notes : Notes κ γ)

namespace Toolkit

variable (toolkit : Toolkit (Act σ)) (consumed : KeyEvent → Slot σ Bool) (event : KeyEvent)

theorem annotated_isBlocked (log : Notice → Act σ Unit) :
    (toolkit.annotated notes consumed).isBlocked (fun notice => asked notes.failure (log notice))
        event =
      asked notes.failure (toolkit.isBlocked log event) := by
  unfold isBlocked
  cases event.source with
  | none => rfl
  | some source =>
    dsimp only
    rw [asked_bind]
    apply (bind_map_left _ _ _).trans
    apply bind_congr
    rintro (_ | isBusy)
    · exact asked_tell _ _
    · rw [asked_bind]
      apply bind_congr
      rintro (_ | _)
      · rfl
      · exact asked_tell _ _

theorem annotated_hasBinding (widget : Widget) (keystroke : Keystroke) :
    (toolkit.annotated notes consumed).hasBinding widget keystroke =
      asked notes.failure (toolkit.hasBinding widget keystroke) := by
  unfold hasBinding
  rw [asked_bind]
  apply (bind_map_left _ _ _).trans
  apply bind_congr
  rintro (_ | binding) <;> rfl

theorem annotated_goesToText (widget : Widget) (keystroke : Keystroke) :
    (toolkit.annotated notes consumed).goesToText event widget keystroke =
      asked notes.failure (toolkit.goesToText event widget keystroke) := by
  unfold goesToText
  rw [asked_bind]
  apply bind_congr
  rintro (_ | _)
  · rfl
  simp only [if_true]
  split
  · rfl
  split
  · exact toolkit.annotated_hasBinding notes consumed widget keystroke
  · rfl

end Toolkit

namespace Dispatcher

variable (dispatcher : Dispatcher σ κ) (event : KeyEvent)

theorem annotated_isRecording (destination : Option Widget) :
    (dispatcher.annotated notes).isRecording destination =
      asked notes.failure (dispatcher.isRecording destination) := by
  cases destination <;> rfl

/-- Arming a command calls nobody. -/
theorem annotated_arm (bound : Bound κ) (destination : Option Widget) :
    (dispatcher.annotated notes).holder.arm bound destination =
      asked notes.failure (dispatcher.holder.arm bound destination) := by
  have read : (dispatcher.annotated notes).holder.armed.read =
      asked notes.failure dispatcher.holder.armed.read := rfl
  unfold Holder.arm
  rw [asked_bind, read]
  apply bind_congr
  rintro (_ | holding)
  · rw [asked_bind]
    apply bind_congr
    intro _
    exact asked_tell _ _
  · exact asked_tell _ _

theorem annotated_arrival :
    (dispatcher.annotated notes).arrival event = asked notes.failure (dispatcher.arrival event) := by
  unfold arrival
  rw [asked_bind]
  apply (congrArg (· >>= _) (dispatcher.toolkit.annotated_isBlocked notes dispatcher.consumed event
    dispatcher.log)).trans
  apply bind_congr
  rintro (_ | _)
  · simp only [Bool.false_eq_true, if_false]
    rw [asked_bind]
    unfold destinationOf
    cases event.source <;> rfl
  · rfl

variable {notes dispatcher event} {state arrived : σ} {record : γ}

theorem run_annotated_arrival {headed : Option (Option Widget)}
    (h : (dispatcher.arrival event).run state = .done headed arrived) :
    ((dispatcher.annotated notes).arrival event).run ⟨state, record⟩ =
      .done headed ⟨arrived, record⟩ := by
  rw [annotated_arrival]
  exact run_asked_of_done h

theorem run_annotated_blocked (h : (dispatcher.arrival event).run state = .done none arrived) :
    ((dispatcher.annotated notes).dispatch event).run ⟨state, record⟩ =
      .done true ⟨arrived, record⟩ :=
  run_bind_of_done (run_annotated_arrival h)

theorem run_annotated_arrived {destination : Option Widget}
    (h : (dispatcher.arrival event).run state = .done (some destination) arrived) :
    ((dispatcher.annotated notes).dispatch event).run ⟨state, record⟩ =
      (do
        if ← (dispatcher.annotated notes).holder.continues event destination then return true
        (dispatcher.annotated notes).dispatchFree event destination : Act (Annotated σ γ) Bool).run
          ⟨arrived, record⟩ :=
  run_bind_of_done (run_annotated_arrival h)

end Dispatcher
end

/-! ## Notes of one dispatch -/

namespace Surroundings

variable (around : Surroundings τ κ) (notes : Notes κ γ) (blank : γ) (depth : Nat) (event : KeyEvent)

/-- Dispatches an event with notes taken of it, but not of the dispatches that its callbacks
start. -/
def annotate : Act (Scene τ κ) (Observation γ Bool) := do
  let outer := (← get).heard
  modify fun scene => { scene with heard := {} }
  let observation ← Annotated.observe blank
    (((around.dispatcher (around.dispatch depth) event).annotated notes).dispatch event)
  modify fun scene => { scene with heard := outer }
  return observation

theorem run_annotate (scene : Scene τ κ) :
    (around.annotate notes blank depth event).run scene =
      match (((around.dispatcher (around.dispatch depth) event).annotated notes).dispatch event).run
        ⟨{ scene with heard := {} }, blank⟩ with
      | .done value annotated =>
        .done ⟨.ok value, annotated.record⟩ { annotated.host with heard := scene.heard }
      | .failed fault annotated =>
        .done ⟨.error fault, annotated.record⟩ { annotated.host with heard := scene.heard }
      | .exhausted => .exhausted := by
  unfold annotate
  simp only [run_bind, run_get, run_modify, run_observe]
  cases (Dispatcher.dispatch _ event).run _ <;> rfl

theorem result_annotate :
    Observation.result <$> around.annotate notes blank depth event =
      (around.dispatch (depth + 1) event).attempt := by
  ext scene
  have ends := ((around.dispatcher (around.dispatch depth) event).annotated_alike notes).dispatch
    event ⟨{ scene with heard := {} }, blank⟩ _ rfl
  show (around.annotate notes blank depth event >>= fun observation => pure observation.result).run
    scene = (around.handle (around.dispatch depth) event).attempt.run scene
  unfold handle
  simp only [run_attempt, run_bind, run_get, run_modify, run_annotate]
  generalize Act.run _ _ = one at ends ⊢
  generalize Act.run _ _ = two at ends ⊢
  cases ends with
  | done same reached => cases same; cases reached; rfl
  | failed reached => cases reached; rfl
  | exhausted => rfl

end Surroundings

/-! ## The calls -/

/-- Of each call there is an entry, and of nothing else. -/
def Notes.calls : Notes κ (List (Call κ)) where
  call call _ calls := calls ++ [call]
  failure _ calls := calls
  consumed _ calls := calls

/-- A host whose calls are listed. -/
abbrev Watched (σ κ : Type) := Annotated σ (List (Call κ))

/-- The dispatcher with its calls listed. -/
abbrev Dispatcher.watched (dispatcher : Dispatcher σ κ) : Dispatcher (Watched σ κ) κ :=
  dispatcher.annotated .calls

end KeyPrecedence
