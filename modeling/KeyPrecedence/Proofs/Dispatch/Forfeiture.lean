import KeyPrecedence.Proofs.Dispatch.Kin

/-!
# A command that is given up leaves no trace

* `Journaled`, `Surroundings.journaled`: a host that keeps a journal of what is logged, and never
  reads it;
* `Code.Reserved`, `Surroundings.Reserved`: the gate's questions and those about the focus do not
  come back to the dispatcher;
* `forfeiture_leaves_no_trace`: a release that goes elsewhere is dispatched as if the armed command
  had been dropped before, and so is all that comes later.
-/

namespace KeyPrecedence

open Act

variable {τ κ α β : Type}

namespace Code

def map (f : α → β) : Code τ κ α → Code τ κ β
  | done value => done (f value)
  | failed fault => failed fault
  | endless => endless
  | look next => look fun host => (next host).map f
  | put host next => put host (next.map f)
  | dispatch event next => .dispatch event fun result => (next result).map f
  | armed next => armed fun held => (next held).map f
  | reset next => reset (next.map f)

instance : Functor (Code τ κ) where
  map := map

theorem run_map (dispatch : KeyEvent → Act (Scene τ κ) Bool) (f : α → β) (code : Code τ κ α) :
    (f <$> code).run dispatch = f <$> code.run dispatch := by
  show (code.map f).run dispatch = code.run dispatch >>= fun value => pure (f value)
  induction code with
  | done value => rfl
  | failed fault => rfl
  | endless => rfl
  | look next ih => exact funext fun scene => congrFun (ih scene.host) scene
  | put host next ih => exact funext fun scene => congrFun ih { scene with host }
  | dispatch event next ih =>
    simp only [map, run, bind_assoc, ih]
  | armed next ih => exact funext fun scene => congrFun (ih scene.armed) scene
  | reset next ih => exact funext fun scene => congrFun ih scene.clear

end Code

/-- A host with a journal of what is logged. -/
structure Journaled (τ : Type) where
  host : τ
  records : List Notice := []

/-- Code of the host, which does not know of the journal. -/
def Code.journaled : Code τ κ α → Code (Journaled τ) κ α
  | done value => done value
  | failed fault => failed fault
  | endless => endless
  | look next => look fun journaled => (next journaled.host).journaled
  | put host next => look fun journaled => put { journaled with host } next.journaled
  | dispatch event next => .dispatch event fun result => (next result).journaled
  | armed next => armed fun held => (next held).journaled
  | reset next => reset next.journaled

/-- The same surroundings, but whatever is logged goes into the journal. -/
def Surroundings.journaled (around : Surroundings τ κ) : Surroundings (Journaled τ) κ where
  platform := around.platform
  toolkit := around.toolkit.map Code.journaled
  focus := { owner := around.focus.owner.journaled, window := around.focus.window.journaled }
  commandFor keystroke window := (around.commandFor keystroke window).journaled
  menu := around.menu.map fun processes event => (processes event).journaled
  calls :=
    { decide := fun callback context => (around.calls.decide callback context).journaled
      run := fun callback context => (around.calls.run callback context).journaled
      report := fun callback context => (around.calls.report callback context).journaled
      toast := fun name id => (around.calls.toast name id).journaled }
  consumed event :=
    { get := fun journaled => (around.consumed event).get journaled.host
      set := fun value journaled =>
        { journaled with host := (around.consumed event).set value journaled.host } }
  log notice := modify fun journaled => { journaled with records := journaled.records ++ [notice] }
  allowance := around.allowance

/-! ## Nobody reads the journal -/

/-- The same host, with one record more in the journal. -/
structure Journaled.OneMore (notice : Notice) (journaled other : Journaled τ) : Prop where
  host : journaled.host = other.host
  records : ∃ before after,
    journaled.records = before ++ notice :: after ∧ other.records = before ++ after

namespace Journaled.OneMore

variable {notice : Notice} {journaled other : Journaled τ} (more : OneMore notice journaled other)

include more

theorem withHost (host : τ) : OneMore notice { journaled with host } { other with host } :=
  ⟨rfl, more.records⟩

theorem log (logged : Notice) : OneMore notice
    { journaled with records := journaled.records ++ [logged] }
    { other with records := other.records ++ [logged] } := by
  obtain ⟨before, after, hr, ho⟩ := more.records
  refine ⟨more.host, before, after ++ [logged], ?_, ?_⟩
  · simp [hr]
  · simp [ho]

end Journaled.OneMore

theorem Code.Akin.map {α' β' : Type} {hosts : τ → τ → Prop} {values : α → α' → Prop}
    {results : β → β' → Prop} {code : Code τ κ α} {other : Code τ κ α'} {f : α → β} {f' : α' → β'}
    (akin : code.Akin hosts values other)
    (hf : ∀ value value', values value value' → results (f value) (f' value')) :
    (f <$> code).Akin hosts results (f' <$> other) := by
  intro p q dispatch dispatch' inner
  rw [run_map, run_map]
  exact alike_map (akin inner) hf

theorem Code.akin_journaled {values : α → α → Prop} (hv : ∀ value, values value value)
    (notice : Notice) (code : Code τ κ α) :
    code.journaled.Akin (Journaled.OneMore notice) values code.journaled := by
  intro p q dispatch dispatch' inner
  induction code with
  | done value => exact alike_pure (hv value)
  | failed fault => exact alike_fail fault
  | endless => exact alike_exhausted
  | look next ih =>
    apply alike_look
    intro journaled other more
    rw [more.host]
    exact ih other.host
  | put host next ih =>
    apply alike_look
    exact fun _ _ more _ _ kin => ih _ _ (kin.withHost (more.withHost host))
  | dispatch event next ih => exact alike_bind_eq (alike_attempt (inner event)) ih
  | armed next ih => exact alike_armed ih
  | reset next ih => exact fun _ _ kin => ih _ _ kin.clear

/-- With one record more in the journal, everything does the same. -/
theorem Surroundings.impartial_journaled (around : Surroundings τ κ) (notice : Notice) :
    around.journaled.Impartial (Journaled.OneMore notice) := by
  have akin {α : Type} (code : Code τ κ α) :
      code.journaled.Akin (Journaled.OneMore notice) Eq code.journaled :=
    Code.akin_journaled (fun _ => rfl) notice code
  have each {α β : Type} {results : β → β → Prop} {f : α → β}
      (hf : ∀ value, results (f value) (f value)) (found : Option α) :
      Option.Rel results (found.map f) (found.map f) :=
    rel_map (fun _ _ same => same ▸ hf _) (rel_self (fun _ => rfl) found)
  have answers {α β : Type} {results : β → β → Prop} {f : α → β}
      (hf : ∀ value, results (f value) (f value)) (code : Code τ κ (Option α)) :
      (Option.map f <$> code.journaled).Akin (Journaled.OneMore notice) (Option.Rel results)
        (Option.map f <$> code.journaled) :=
    (akin code).map fun found _ same => same ▸ each hf found
  refine ⟨?_, akin _, akin _, fun _ _ => akin _, ?_, fun _ _ => akin _, fun _ _ => akin _,
    fun _ _ => akin _, fun _ _ => akin _, ?_, ?_⟩
  · exact
      { rootOf := fun _ => answers akin _
        isKeyCapture := fun _ => akin _
        isTextEditor := fun _ => akin _
        ancestorIsEditing := fun _ => akin _
        isEnabled := fun _ => akin _
        listenersOf := fun _ => (akin _).map fun listenerAt _ same position => by
          rw [← same]
          exact answers (fun listener phase => each (fun _ _ => akin _) _) _
        bindingOf := fun _ _ => answers (fun _ => ⟨fun _ => akin _, akin _⟩) _ }
  · intro processes event hm
    obtain ⟨own, -, rfl⟩ := Option.map_eq_some_iff.mp hm
    exact akin (own event)
  · intro event
    constructor
    · intro journaled other more
      exact congrArg (around.consumed event).get more.host
    · intro value journaled other more
      exact ⟨congrArg ((around.consumed event).set value) more.host, more.records⟩
  · exact fun logged _ _ more => .done rfl (more.log logged)

/-! ## Up to the armed command -/

/-- Code that does not come back to the dispatcher, and whose values are good. -/
def Code.Reserved (good : α → Prop) : Code τ κ α → Prop
  | done value => good value
  | failed _ => True
  | endless => True
  | look next => ∀ host, (next host).Reserved good
  | put _ next => next.Reserved good
  | dispatch .. => False
  | armed _ => False
  | reset _ => False

/-- The gate's questions and those for the focus owner do not come back to the dispatcher. -/
structure Surroundings.Reserved (around : Surroundings τ κ) : Prop where
  rootOf : ∀ widget, (around.toolkit.rootOf widget).Reserved fun root =>
    ∀ isBusy, root = some isBusy → isBusy.Reserved fun _ => True
  owner : around.focus.owner.Reserved fun _ => True

/-- Only the host has changed since `start`, and in the other scene nothing is armed any more. -/
structure Scene.Cleared (start scene other : Scene τ κ) : Prop where
  since : ∃ host heard, scene = { start with host, heard }
  clear : other = scene.clear

theorem Code.Reserved.alike {good : α → Prop} {code : Code τ κ α} (reserved : code.Reserved good)
    (dispatch : KeyEvent → Act (Scene (Journaled τ) κ) Bool) (start : Scene (Journaled τ) κ) :
    Act.Alike start.Cleared (fun value other => value = other ∧ good value)
      (code.journaled.run dispatch) (code.journaled.run dispatch) := by
  induction code with
  | done value => exact alike_pure ⟨rfl, reserved⟩
  | failed fault => exact alike_fail fault
  | endless => exact alike_exhausted
  | look next ih =>
    rintro scene _ ⟨since, rfl⟩
    exact ih scene.host.host (reserved _) scene _ ⟨since, rfl⟩
  | put host next ih =>
    rintro _ _ ⟨⟨journaled, heard, rfl⟩, rfl⟩
    exact ih reserved _ _ ⟨⟨_, heard, rfl⟩, rfl⟩
  | dispatch | armed | reset => exact reserved.elim

namespace Surroundings.Reserved

variable {around : Surroundings τ κ} (reserved : around.Reserved)
  (dispatch : KeyEvent → Act (Scene (Journaled τ) κ) Bool) (event : KeyEvent)

include reserved

/-- Where an event is headed does not depend on what is armed. -/
theorem alike_arrival (start : Scene (Journaled τ) κ) : Act.Alike start.Cleared Eq
    ((around.journaled.dispatcher dispatch event).arrival event)
    ((around.journaled.dispatcher dispatch event).arrival event) := by
  have answer {good : Bool → Prop} {code : Code τ κ Bool} (quiet : code.Reserved good) :
      Act.Alike start.Cleared Eq (code.journaled.run dispatch) (code.journaled.run dispatch) :=
    fun scene other cleared => (quiet.alike dispatch start scene other cleared).mono
      (fun _ _ reached => reached) fun _ _ same => same.1
  apply Dispatcher.alike_arrival
  · intro widget
    have asked : (around.journaled.dispatcher dispatch event).toolkit.rootOf widget =
        (Option.map (Code.run dispatch) ∘ Option.map Code.journaled) <$>
          (around.toolkit.rootOf widget).journaled.run dispatch := by
      rw [comp_map, ← Code.run_map]
      rfl
    rw [asked]
    apply alike_map ((reserved.rootOf widget).alike dispatch start)
    rintro root _ ⟨rfl, quiet⟩
    cases root with
    | none => exact .none
    | some isBusy => exact .some (answer (quiet isBusy rfl))
  · apply alike_bind (reserved.owner.alike dispatch start)
    rintro owner _ ⟨rfl, -⟩ _ _ ⟨⟨host, heard, rfl⟩, rfl⟩
    exact .done rfl ⟨⟨host, _, rfl⟩, rfl⟩
  · rintro notice _ _ ⟨⟨host, heard, rfl⟩, rfl⟩
    exact .done rfl ⟨⟨_, heard, rfl⟩, rfl⟩

end Surroundings.Reserved

/-! ## Given up, or dropped before -/

namespace Surroundings

/-- Dispatches an event, and then runs what comes later. -/
def proceed (around : Surroundings τ κ) (depth : Nat) (event : KeyEvent) (later : Code τ κ α) :
    Act (Scene τ κ) (Observation (List (Call κ)) Bool × Except Fault α) := do
  let observation ← around.observe depth event
  let result ← (later.run (around.dispatch (depth + 1))).attempt
  return (observation, result)

variable {around : Surroundings τ κ} {depth : Nat} {event : KeyEvent}

theorem run_arrival_of_headed {scene : Scene τ κ} {destination : Option Widget}
    (hd : around.headed depth event scene = some destination) :
    ∃ arrived, ((around.dispatcher (around.dispatch depth) event).arrival event).run
      { scene with heard := {} } = .done (some destination) arrived := by
  unfold headed at hd
  split at hd
  · cases hd
    exact ⟨_, ‹_›⟩
  · cases hd

/-- The dispatcher finds nothing armed either way, with or without a record of it. -/
theorem Reserved.alike_observe (reserved : around.Reserved) {scene : Scene (Journaled τ) κ}
    {armed : Armed (Bound κ)} {destination : Option Widget} (ha : scene.armed = some armed)
    (released : event.phase = .released)
    (hd : around.journaled.headed depth event scene = some destination)
    (elsewhere : destination ≠ armed.target) :
    Outcome.Alike (Scene.Kin (Journaled.OneMore (.forfeited armed.command.command.id event.phase
        event.input.key (destination.map (·.id)))) scene.clear.history scene.clear.history) Eq
      ((around.journaled.observe depth event).run scene)
      ((around.journaled.observe depth event).run scene.clear) := by
  obtain ⟨arrived, hr⟩ := run_arrival_of_headed hd
  have arrivals := reserved.alike_arrival (around.journaled.dispatch depth) event
    { scene with heard := {} } { scene with heard := {} } { scene.clear with heard := {} }
    ⟨⟨_, _, rfl⟩, rfl⟩
  rw [hr] at arrivals
  generalize ho : ((around.journaled.dispatcher (around.journaled.dispatch depth) event).arrival
    event).run { scene.clear with heard := {} } = other at arrivals
  cases arrivals with
  | done same cleared =>
    cases same
    obtain ⟨⟨host, heard, rfl⟩, rfl⟩ := cleared
    let idle : Scene (Journaled τ) κ := ({ scene with host, heard } : Scene (Journaled τ) κ).clear
    let record : Notice := .forfeited armed.command.command.id event.phase event.input.key
      (destination.map (·.id))
    have forfeited : ((around.journaled.dispatcher (around.journaled.dispatch depth)
        event).watched.holder.continues event destination).run
          ⟨{ scene with host, heard }, []⟩ =
        .done false ⟨{ idle with host := { host with records := host.records ++ [record] } }, []⟩ :=
      Holder.run_continues_forfeited ha released elsewhere
    have dropped : ((around.journaled.dispatcher (around.journaled.dispatch depth)
        event).watched.holder.continues event destination).run ⟨idle, []⟩ =
        .done false ⟨idle, []⟩ := rfl
    apply alike_observe_of (show scene.heard = scene.clear.heard from rfl)
    rw [Dispatcher.run_annotated_arrived hr, run_bind_of_done forfeited]
    rw [Dispatcher.run_annotated_arrived ho, run_bind_of_done dropped]
    apply ((around.impartial_journaled record).alike_watched depth event).dispatchFree event
      destination
    have more : Journaled.OneMore record { host with records := host.records ++ [record] } host :=
      ⟨rfl, host.records, [], rfl, by simp⟩
    exact ⟨⟨more, rfl, rfl, [], by simp [idle, Scene.clear, Scene.note]⟩, rfl⟩

theorem Reserved.alike_proceed (reserved : around.Reserved) {scene : Scene (Journaled τ) κ}
    {armed : Armed (Bound κ)} {destination : Option Widget} (ha : scene.armed = some armed)
    (released : event.phase = .released)
    (hd : around.journaled.headed depth event scene = some destination)
    (elsewhere : destination ≠ armed.target) (later : Code τ κ α) :
    Outcome.Alike (Scene.Kin (Journaled.OneMore (.forfeited armed.command.command.id event.phase
        event.input.key (destination.map (·.id)))) scene.clear.history scene.clear.history) Eq
      ((around.journaled.proceed depth event later.journaled).run scene)
      ((around.journaled.proceed depth event later.journaled).run scene.clear) := by
  apply (reserved.alike_observe ha released hd elsewhere).bind
  rintro observation _ rfl
  have akin := later.akin_journaled (fun _ => rfl) (.forfeited armed.command.command.id event.phase
    event.input.key (destination.map (·.id)))
  apply alike_bind_eq (alike_attempt ((around.impartial_journaled _).alike_run akin (depth + 1)))
  exact fun _ => alike_pure rfl

/-- What runs, now and later, was armed before or is armed on the way. -/
theorem keeps_proceed (around : Surroundings τ κ) (depth : Nat) (event : KeyEvent)
    (later : Code τ κ α) (start : Scene τ κ) (heard : Heard) :
    Keeps (Scene.Recorded (fun _ => True) start heard) (around.proceed depth event later) := by
  have dispatches (event : KeyEvent) :
      Keeps (Scene.Recorded (fun _ => True) start heard) (around.dispatch (depth + 1) event) :=
    around.keeps_dispatch around.binds_true permits_any (depth + 1) heard event
  apply keeps_bind
  · exact fun scene h => ends_observe (dispatches event scene h)
  · intro observation
    apply keeps_bind _ fun _ => keeps_pure _
    exact keeps_attempt ((Scene.robust_recorded _ start heard).keeps_run dispatches later)

end Surroundings

theorem Outcome.Alike.of_ends {σ σ' α' : Type} {states : σ → σ' → Prop} {values : α → α' → Prop}
    {outcome : Outcome σ α} {act : Act σ' α'} {state : σ'} {post : σ' → Prop}
    (h : Alike states values outcome (act.run state))
    (he : act.Ends state fun _ reached => post reached) :
    Alike (fun reached other => states reached other ∧ post other) values outcome
      (act.run state) := by
  unfold Act.Ends at he
  generalize act.run state = ended at h he ⊢
  cases h with
  | done same reached => exact .done same ⟨reached, he⟩
  | failed reached => exact .failed ⟨reached, he⟩
  | exhausted => exact .exhausted

/-- A release that the gate lets through and that goes elsewhere gives up the armed command. It is
then dispatched just as if the command had been dropped before: the same comes of it, the same calls
are made, and the host is left the same, down to what is consumed, with the same command armed. Only
the journal has one record more. So all that comes later is the same, and of the commands that run,
each was armed since. -/
theorem forfeiture_leaves_no_trace (around : Surroundings τ κ) (reserved : around.Reserved)
    (depth : Nat) (event : KeyEvent) (scene : Scene (Journaled τ) κ) (armed : Armed (Bound κ))
    (ha : scene.armed = some armed) (released : event.phase = .released)
    (destination : Option Widget)
    (hd : around.journaled.headed depth event scene = some destination)
    (elsewhere : destination ≠ armed.target) (later : Code τ κ α) :
    let dispatcher := around.journaled.dispatcher (around.journaled.dispatch depth) event
    let proceed := around.journaled.proceed depth event later.journaled
    let record := .forfeited armed.command.command.id event.phase event.input.key
      (destination.map (·.id))
    Outcome.Alike
      (fun reached other =>
        (∃ host, reached.host.OneMore record host ∧ other = { reached with host }) ∧
        ∃ rest, reached.history = scene.history ++ [.cleared] ++ rest ∧
          Chronicle (fun _ => True) none rest reached.armed) Eq
      (proceed.run scene)
      ((do
        dispatcher.holder.reset
        proceed : Act _ _).run scene) := by
  intro dispatcher proceed record
  have alike := reserved.alike_proceed ha released hd elsewhere later
  have since : proceed.Ends scene.clear fun _ =>
      Scene.Recorded (fun _ => True) scene.clear scene.heard :=
    around.journaled.keeps_proceed depth event later.journaled scene.clear scene.heard scene.clear
      ⟨rfl, scene.clear.since_refl⟩
  apply (alike.of_ends since).mono _ fun _ _ same => same
  rintro reached ⟨host, armed, heard, history⟩ ⟨kin, -, rest, told, chronicle⟩
  obtain ⟨part, one, two⟩ := kin.history
  cases kin.armed
  cases kin.heard
  cases one.trans two.symm
  exact ⟨⟨host, kin.host, rfl⟩, rest, told, chronicle⟩

namespace Bare

theorem reserved (registry : Registry Unit) : (Surroundings.bare registry).Reserved where
  rootOf _ := by
    rintro isBusy ⟨⟩ host
    exact trivial
  owner := trivial

/-- The help is armed for a button. -/
def onButton : Armed (Bound Unit) := ⟨⟨help, ⟨some field, some main⟩⟩, some ⟨"button", 1⟩⟩

def pending : Scene (Journaled Bare) Unit where
  host := { host := {} }
  armed := some onButton

/-- F1 in the field. -/
def inField (phase : Phase) : KeyEvent := ⟨⟨"F1", {}⟩, phase, some field, 1⟩

/-- The field sees the release, and the next press arms the help for the field. The journal tells of
the command that was given up, and nothing else does. -/
theorem pending_forfeited :
    let around := Surroundings.bare { commands := [help] }
    let dispatcher := around.journaled.dispatcher (around.journaled.dispatch 1) (inField .released)
    let later : Code Bare Unit (Option (Armed (Bound Unit))) :=
      .dispatch (inField .pressed) fun _ => .armed .done
    let proceed := around.journaled.proceed 1 (inField .released) later.journaled
    around.Reserved ∧ pending.armed = some onButton ∧ (inField .released).phase = .released ∧
    around.journaled.headed 1 (inField .released) pending = some (some field) ∧
    some field ≠ onButton.target ∧
    ∃ value reached host, proceed.run pending = .done value reached ∧
      (do
        dispatcher.holder.reset
        proceed : Act _ _).run pending = .done value { reached with host } ∧
      reached.armed = some ⟨⟨help, ⟨some field, some main⟩⟩, some field⟩ ∧
      reached.host.OneMore (.forfeited "help" .released "F1" (some "field")) host := by
  intro around dispatcher later proceed
  refine ⟨reserved _, rfl, rfl, rfl, by decide, ?_⟩
  have alike := forfeiture_leaves_no_trace around (reserved _) 1 (inField .released) pending onButton
    rfl rfl (some field) rfl (by decide) later
  change Outcome.Alike _ _ (proceed.run pending)
    ((do
      dispatcher.holder.reset
      proceed : Act _ _).run pending) at alike
  have armed : proceed.seen? pending (fun _ reached => reached.armed) =
      some (some ⟨⟨help, ⟨some field, some main⟩⟩, some field⟩) := by decide +kernel
  obtain ⟨value, reached, hr, armed⟩ := seen?_eq_some.mp armed
  rw [hr] at alike
  generalize Act.run (do dispatcher.holder.reset; proceed) pending = other at alike ⊢
  cases alike with
  | done same traced =>
    cases same
    obtain ⟨⟨host, more, rfl⟩, -⟩ := traced
    exact ⟨value, reached, host, hr, rfl, armed, more⟩

end Bare

end KeyPrecedence
