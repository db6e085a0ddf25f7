import KeyPrecedence.Proofs.Dispatch.Annotated
import KeyPrecedence.Proofs.Dispatch.Execution

/-!
# While a command is armed

* `Surroundings.observe`: a dispatch, with the calls it makes itself;
* `Surroundings.Steady`: a host that always says where an event is headed;
* `Surroundings.Steady.run_observe_absorbed`: an event that is no release, or is blocked, is
  absorbed and nothing happens;
* `Surroundings.Steady.run_observe_executed`, `Surroundings.Steady.ends_observe_released`: the next
  release runs the command or gives it up;
* `armed_absorbs_until_release`: both together, over every sequence of events.
-/

namespace KeyPrecedence

open Act

variable {τ κ : Type}

namespace Holder

variable {σ ρ : Type} {holder : Holder σ ρ} {event : KeyEvent} {destination : Option Widget}
  {armed : Armed ρ} {state : σ}

theorem run_continues_absorbed (ha : holder.armed.get state = some armed)
    (held : event.phase ≠ .released) :
    (holder.continues event destination).run state = .done true state := by
  unfold continues
  rw [run_bind, Slot.run_read, ha]
  dsimp only
  rw [Armed.verdict, if_pos held]
  rfl

theorem run_continues_executed (ha : holder.armed.get state = some armed)
    (released : event.phase = .released) (target : destination = armed.target) :
    (holder.continues event destination).run state =
      (do
        holder.log (.executing (holder.commandId armed.command) event.input.key)
        match ← (holder.execute armed.command).attempt with
        | .ok () => return true
        | .error fault =>
          holder.log (.executionFailed (holder.commandId armed.command) fault)
          .fail fault : Act σ Bool).run (holder.armed.set none state) := by
  have execute : armed.verdict event.phase destination = .execute :=
    Armed.verdict_eq_execute.mpr ⟨released, target⟩
  unfold continues
  rw [run_bind, Slot.run_read, ha]
  dsimp only
  rw [execute]
  rfl

theorem run_continues_forfeited (ha : holder.armed.get state = some armed)
    (released : event.phase = .released) (elsewhere : destination ≠ armed.target) :
    (holder.continues event destination).run state =
      (do
        holder.log (.forfeited (holder.commandId armed.command) event.phase event.input.key
          (destination.map (·.id)))
        return false : Act σ Bool).run (holder.armed.set none state) := by
  unfold continues
  rw [run_bind, Slot.run_read, ha]
  dsimp only
  rw [Armed.verdict, if_neg (by simp [released]), if_neg elsewhere]
  rfl

end Holder

/-- A release that goes to the target calls the armed command and nobody else. -/
theorem Dispatcher.run_watched_executed {σ : Type} {dispatcher : Dispatcher σ κ} {event : KeyEvent}
    {armed : Armed (Bound κ)} {state arrived told : σ}
    (h : (dispatcher.arrival event).run state = .done (some armed.target) arrived)
    (ha : dispatcher.armed.get arrived = some armed) (released : event.phase = .released)
    (hl : (dispatcher.log (.executing armed.command.command.id event.input.key)).run
      (dispatcher.armed.set none arrived) = .done () told) :
    (dispatcher.watched.dispatch event).run ⟨state, []⟩ =
      match (dispatcher.calls.run armed.command.command.execute armed.command.context).run told with
      | .done () reached =>
        .done true ⟨reached, [.runs armed.command.command.execute armed.command.context]⟩
      | .failed fault reached =>
        (do
          dispatcher.watched.log (.executionFailed armed.command.command.id fault)
          .fail fault : Act (Watched σ κ) Bool).run
            ⟨reached, [.runs armed.command.command.execute armed.command.context]⟩
      | .exhausted => .exhausted := by
  have logged : (dispatcher.watched.log (.executing armed.command.command.id event.input.key)).run
      (dispatcher.watched.armed.set none ⟨arrived, []⟩) = .done () ⟨told, []⟩ :=
    Annotated.run_asked_of_done hl
  have executed : (dispatcher.watched.holder.execute armed.command).run ⟨told, []⟩ = _ :=
    Notes.run_called _ _ _ _ _
  have continued : (dispatcher.watched.holder.continues event armed.target).run ⟨arrived, []⟩ =
      _ := (Holder.run_continues_executed ha released rfl).trans (run_bind_of_done logged)
  rw [run_bind, run_attempt, executed] at continued
  refine (run_annotated_arrived h).trans ?_
  rw [run_bind, continued]
  cases (dispatcher.calls.run armed.command.command.execute armed.command.context).run told with
  | done value reached => rfl
  | failed fault reached =>
    dsimp only [holder_log, holder_commandId, Notes.calls, List.nil_append]
    rw [run_bind]
    cases (dispatcher.watched.log _).run _ <;> rfl
  | exhausted => rfl

/-- The host changes as it likes, then an event is dispatched. -/
structure Moment (τ : Type) where
  change : τ → τ
  event : KeyEvent

def Moment.enter (moment : Moment τ) (scene : Scene τ κ) : Scene τ κ :=
  { scene with host := moment.change scene.host }

/-- The dispatch of an event, between two scenes. -/
structure Dispatched (τ κ : Type) where
  event : KeyEvent
  before : Scene τ κ
  observation : Observation (List (Call κ)) Bool
  after : Scene τ κ

/-- What a release does to the armed command: it is let go of, and runs if the release goes to its
target. -/
def Armed.release (armed : Armed (Bound κ)) (during : Handling) : List (Occurrence κ) :=
  if during.destination = armed.target then
    [.cleared, .executed during armed.command.command.execute armed.command.context]
  else [.cleared]

namespace Surroundings

variable (around : Surroundings τ κ)

/-- Dispatches an event and lists the calls this makes. Those of dispatches that the callbacks start
are not among them. -/
def observe : Nat → KeyEvent → Act (Scene τ κ) (Observation (List (Call κ)) Bool) :=
  around.annotate .calls []

def observeAll (depth : Nat) : List (Moment τ) → Act (Scene τ κ) (List (Dispatched τ κ))
  | [] => pure []
  | moment :: moments => do
    modify moment.enter
    let before ← get
    let observation ← around.observe depth moment.event
    let after ← get
    return ⟨moment.event, before, observation, after⟩ :: (← observeAll depth moments)

/-- Where an event is headed that arrives now, or `none` when the gate lets nobody see it. -/
def headed (depth : Nat) (event : KeyEvent) (scene : Scene τ κ) : Option (Option Widget) :=
  match ((around.dispatcher (around.dispatch depth) event).arrival event).run
      { scene with heard := {} } with
  | .done destination _ => destination
  | _ => none

/-- Each event is pressed or typed, or the gate lets nobody see it when its turn comes. -/
def Held (depth : Nat) : List (Moment τ) → Scene τ κ → Prop
  | [], _ => True
  | moment :: moments, scene =>
    (moment.event.phase ≠ .released ∨ around.headed depth moment.event (moment.enter scene) = none) ∧
      ∀ observation reached,
        (around.observe depth moment.event).run (moment.enter scene) = .done observation reached →
        Held depth moments reached

/-- No event is consumed between two states of the host. -/
def SameConsumed (host reached : τ) : Prop :=
  ∀ event, (around.consumed event).get reached = (around.consumed event).get host

/-- A step that always gives an answer of a kind, consumes no event and changes the host alone, in a
way that does not depend on the dispatcher. -/
def Settles {α : Type} (act : (KeyEvent → Act (Scene τ κ) Bool) → Act (Scene τ κ) α)
    (good : α → Prop) : Prop :=
  ∀ host, ∃ value reached, good value ∧ around.SameConsumed host reached ∧
    ∀ dispatch scene, scene.host = host →
      (act dispatch).run scene = .done value { scene with host := reached }

/-- Code that always gives an answer of a kind, consumes no event and does not come back to the
dispatcher. -/
def Answers {α : Type} (code : Code τ κ α) (good : α → Prop) : Prop :=
  around.Settles (fun dispatch => code.run dispatch) good

/-- The gate's questions and those about the focus are always answered, and so is logging. -/
structure Steady (around : Surroundings τ κ) : Prop where
  rootOf : ∀ widget, around.Answers (around.toolkit.rootOf widget) fun root =>
    ∀ isBusy, root = some isBusy → around.Answers isBusy fun _ => True
  owner : around.Answers around.focus.owner fun _ => True
  log : ∀ notice, around.Answers (.ofAct (around.log notice)) fun _ => True

/-- A dispatch that the armed command absorbs: it says that the event was handled, calls nobody, and
leaves the command armed and every event as consumed as it was. -/
structure Absorbed (armed : Armed (Bound κ)) (dispatched : Dispatched τ κ) : Prop where
  handled : dispatched.observation.result = .ok true
  uncalled : dispatched.observation.record = []
  before : dispatched.before.armed = some armed
  after : dispatched.after.armed = some armed
  history : dispatched.after.history = dispatched.before.history
  consumed : around.SameConsumed dispatched.before.host dispatched.after.host

/-- A dispatch that starts the armed command in `started`, once. It calls nobody else, and ends as
the command does. -/
def Executes (depth : Nat) (event : KeyEvent) (bound : Bound κ) (scene started : Scene τ κ) : Prop :=
  let calls := [.runs bound.command.execute bound.context]
  match ((around.calls.run bound.command.execute bound.context).run (around.dispatch depth)).run
      started with
  | .done () reached =>
    (around.observe depth event).run scene =
      .done ⟨.ok true, calls⟩ { reached with heard := scene.heard }
  | .failed fault reached => ∃ host, around.SameConsumed reached.host host ∧
    (around.observe depth event).run scene =
      .done ⟨.error fault, calls⟩ { reached with host, heard := scene.heard }
  | .exhausted => (around.observe depth event).run scene = .exhausted

variable {around} {depth : Nat} {event : KeyEvent}

theorem ends_observe {scene : Scene τ κ} {post : Scene τ κ → Prop}
    (h : (around.dispatch (depth + 1) event).Ends scene fun _ => post) :
    (around.observe depth event).Ends scene fun _ => post := by
  have attempted : (around.dispatch (depth + 1) event).attempt.Ends scene fun _ => post :=
    ends_attempt.mpr h
  rw [← around.result_annotate .calls [] depth event] at attempted
  refine (ends_bind.mp attempted).mono ?_
  rintro (_ | _) reached hr <;> exact hr

theorem SameConsumed.trans {host asked reached : τ} (h : around.SameConsumed host asked)
    (hr : around.SameConsumed asked reached) : around.SameConsumed host reached :=
  fun event => (hr event).trans (h event)

section
variable {α β : Type} {good : α → Prop} {fine : β → Prop}
  {act : (KeyEvent → Act (Scene τ κ) Bool) → Act (Scene τ κ) α}

theorem settles_pure {value : α} (h : good value) : around.Settles (fun _ => pure value) good :=
  fun host => ⟨value, host, h, fun _ => rfl, fun _ _ he => he ▸ rfl⟩

theorem answers_done {value : α} (h : good value) : around.Answers (.done value) good :=
  settles_pure h

theorem Settles.congr {other : (KeyEvent → Act (Scene τ κ) Bool) → Act (Scene τ κ) α}
    (same : ∀ dispatch, act dispatch = other dispatch) (h : around.Settles other good) :
    around.Settles act good :=
  funext same ▸ h

theorem Settles.bind {next : α → (KeyEvent → Act (Scene τ κ) Bool) → Act (Scene τ κ) β}
    (h : around.Settles act good) (hn : ∀ value, good value → around.Settles (next value) fine) :
    around.Settles (fun dispatch => act dispatch >>= fun value => next value dispatch) fine := by
  intro host
  obtain ⟨value, asked, hg, first, hr⟩ := h host
  obtain ⟨answer, reached, hf, second, hd⟩ := hn value hg asked
  refine ⟨answer, reached, hf, first.trans second, fun dispatch scene he => ?_⟩
  rw [run_bind, hr dispatch scene he]
  exact hd dispatch { scene with host := asked } rfl

end

namespace Steady

variable (steady : around.Steady)

include steady

theorem settles_log (event : KeyEvent) (notice : Notice) :
    around.Settles (fun dispatch => (around.dispatcher dispatch event).log notice) fun _ => True := by
  have told := steady.log notice
  simp only [Answers, Code.run_ofAct] at told
  exact told

/-- The gate says whether it lets an event through. -/
theorem settles_isBlocked (event : KeyEvent) :
    around.Settles (fun dispatch => (around.dispatcher dispatch event).toolkit.isBlocked
      (around.dispatcher dispatch event).log event) fun _ => True := by
  have told (notice : Notice) : around.Settles (fun dispatch =>
      (do (around.dispatcher dispatch event).log notice; return true : Act (Scene τ κ) Bool))
      fun _ => True :=
    (steady.settles_log event notice).bind fun _ _ => settles_pure trivial
  unfold Toolkit.isBlocked
  cases event.source with
  | none => exact settles_pure trivial
  | some source =>
    refine Settles.congr (fun _ => bind_map_left _ _ _) ((steady.rootOf source).bind ?_)
    rintro (_ | isBusy) hb
    · exact told _
    · refine Settles.bind (hb isBusy rfl) ?_
      rintro (_ | _) -
      · exact settles_pure trivial
      · exact told _

/-- An event arrives somewhere or is blocked, and nothing else happens. -/
theorem run_arrival (depth : Nat) (event : KeyEvent) (scene : Scene τ κ) :
    ∃ host heard, around.SameConsumed scene.host host ∧
      (∀ destination, around.headed depth event scene = some destination →
        Handling.destination ⟨event, heard⟩ = destination) ∧
      ((around.dispatcher (around.dispatch depth) event).arrival event).run
        { scene with heard := {} } =
          .done (around.headed depth event scene) { scene with host, heard } := by
  suffices h : ∃ headed host heard, around.SameConsumed scene.host host ∧
      (∀ destination, headed = some destination →
        Handling.destination ⟨event, heard⟩ = destination) ∧
      ((around.dispatcher (around.dispatch depth) event).arrival event).run
        { scene with heard := {} } = .done headed { scene with host, heard } by
    obtain ⟨headed, host, heard, same, hd, hr⟩ := h
    have he : around.headed depth event scene = headed := by rw [Surroundings.headed, hr]
    exact ⟨host, heard, same, he ▸ hd, he ▸ hr⟩
  obtain ⟨blocked, gated, -, same, hb⟩ := steady.settles_isBlocked event scene.host
  have hb := hb (around.dispatch depth) { scene with heard := {} } rfl
  unfold Dispatcher.arrival
  rw [run_bind, hb]
  cases blocked with
  | true => exact ⟨none, gated, {}, same, nofun, rfl⟩
  | false =>
    cases hs : event.source with
    | some source =>
      refine ⟨some (some source), gated, {}, same, ?_, ?_⟩
      · rintro _ ⟨⟩
        simp [Handling.destination, hs]
      · simp [Dispatcher.destinationOf, hs]
    | none =>
      obtain ⟨owner, reached, -, asked, ho⟩ := steady.owner gated
      have ho := ho (around.dispatch depth) { scene with host := gated, heard := {} } rfl
      have told : (around.dispatcher (around.dispatch depth) event).focus.owner.run
          { scene with host := gated, heard := {} } =
            .done owner { scene with host := reached, heard := { owner } } := by
        unfold dispatcher
        rw [run_bind, ho]
        rfl
      refine ⟨some owner, reached, { owner }, same.trans asked, ?_, ?_⟩
      · rintro _ ⟨⟩
        simp [Handling.destination, hs]
      · simp only [Dispatcher.destinationOf, hs, Bool.false_eq_true, if_false]
        rw [run_bind, told]
        rfl

/-- What is no release, or is blocked, is absorbed. -/
theorem run_observe_absorbed (scene : Scene τ κ) {armed : Armed (Bound κ)}
    (ha : scene.armed = some armed)
    (held : event.phase ≠ .released ∨ around.headed depth event scene = none) :
    ∃ host, around.SameConsumed scene.host host ∧
      (around.observe depth event).run scene = .done ⟨.ok true, []⟩ { scene with host } := by
  obtain ⟨host, heard, same, -, hr⟩ := steady.run_arrival depth event scene
  refine ⟨host, same, ?_⟩
  have absorbed : ((around.dispatcher (around.dispatch depth) event).watched.dispatch event).run
      ⟨{ scene with heard := {} }, []⟩ = .done true ⟨{ scene with host, heard }, []⟩ := by
    cases hd : around.headed depth event scene with
    | none => exact Dispatcher.run_annotated_blocked (hd ▸ hr)
    | some destination =>
      have continued : ((around.dispatcher (around.dispatch depth) event).watched.holder.continues
          event destination).run ⟨{ scene with host, heard }, []⟩ = .done true _ :=
        Holder.run_continues_absorbed ha (held.resolve_right (by simp [hd]))
      exact (Dispatcher.run_annotated_arrived (hd ▸ hr)).trans (run_bind_of_done continued)
  unfold observe
  rw [run_annotate, absorbed]

/-- A release that goes to the target runs the command. -/
theorem run_observe_executed {scene : Scene τ κ} {armed : Armed (Bound κ)}
    (ha : scene.armed = some armed) (released : event.phase = .released)
    (hd : around.headed depth event scene = some armed.target) :
    ∃ started heard, Handling.destination ⟨event, heard⟩ = armed.target ∧ started.armed = none ∧
      started.history = scene.history ++ [.cleared,
        .executed ⟨event, heard⟩ armed.command.command.execute armed.command.context] ∧
      around.SameConsumed scene.host started.host ∧
      around.Executes depth event armed.command scene started := by
  obtain ⟨arrived, heard, same, destination, hr⟩ := steady.run_arrival depth event scene
  obtain ⟨⟨⟩, told, -, logged, hl⟩ := steady.settles_log event
    (.executing armed.command.command.id event.input.key) arrived
  let begun : Scene τ κ := ({ scene with host := told, heard } : Scene τ κ).clear
  let started : Scene τ κ :=
    begun.note (.executed ⟨event, heard⟩ armed.command.command.execute armed.command.context)
  refine ⟨started, heard, destination _ hd, rfl, by simp [started, begun, Scene.clear, Scene.note],
    same.trans logged, ?_⟩
  have tell : ((around.dispatcher (around.dispatch depth) event).log
      (.executing armed.command.command.id event.input.key)).run
        ({ scene with host := arrived, heard } : Scene τ κ).clear = .done () begun := hl _ _ rfl
  have executed := Dispatcher.run_watched_executed (hd ▸ hr) ha released tell
  have run : ((around.dispatcher (around.dispatch depth) event).calls.run
      armed.command.command.execute armed.command.context).run begun =
      ((around.calls.run armed.command.command.execute armed.command.context).run
        (around.dispatch depth)).run started := rfl
  unfold Executes observe
  simp only [run_annotate, executed, run, run_bind]
  cases ((around.calls.run armed.command.command.execute armed.command.context).run
      (around.dispatch depth)).run started with
  | done value reached => rfl
  | failed fault reached =>
    obtain ⟨⟨⟩, host, -, failed, hf⟩ := steady.settles_log event
      (.executionFailed armed.command.command.id fault) reached.host
    refine ⟨host, failed, ?_⟩
    dsimp only
    rw [show ((around.dispatcher (around.dispatch depth) event).watched.log _).run _ = _ from
      Annotated.run_asked_of_done (hf _ reached rfl)]
    rfl
  | exhausted => rfl

/-- A release lets go of the armed command, and what happens from then on is a chronicle of its
own. -/
theorem ends_observe_released {scene : Scene τ κ} {armed : Armed (Bound κ)}
    {destination : Option Widget} (ha : scene.armed = some armed)
    (released : event.phase = .released)
    (hd : around.headed depth event scene = some destination) :
    ∃ idle heard, Handling.destination ⟨event, heard⟩ = destination ∧ idle.armed = none ∧
      idle.history = scene.history ++ armed.release ⟨event, heard⟩ ∧
      (around.observe depth event).Ends scene fun _ =>
        Scene.Recorded (fun _ => True) idle scene.heard := by
  have inner (idle : Scene τ κ) (heard : Heard) (event : KeyEvent) :
      Keeps (Scene.Recorded (fun _ => True) idle heard) (around.dispatch depth event) :=
    keeps_dispatch around.binds_true permits_any depth heard event
  by_cases ht : destination = armed.target
  · subst ht
    obtain ⟨started, heard, target, idle, history, -, executes⟩ :=
      steady.run_observe_executed ha released hd
    refine ⟨started, heard, target, idle, by rw [history, Armed.release, if_pos target], ?_⟩
    have code := (Scene.robust_recorded (fun _ => True) started started.heard).keeps_run
      (inner started started.heard)
      (around.calls.run armed.command.command.execute armed.command.context) started
      ⟨rfl, started.since_refl⟩
    unfold Executes at executes
    unfold Ends at code ⊢
    cases hc : ((around.calls.run armed.command.command.execute armed.command.context).run
        (around.dispatch depth)).run started with
    | done value reached =>
      rw [hc] at code executes
      rw [executes]
      exact ⟨rfl, code.2⟩
    | failed fault reached =>
      rw [hc] at code executes
      obtain ⟨host, -, executes⟩ := executes
      rw [executes]
      exact ⟨rfl, code.2⟩
    | exhausted =>
      rw [hc] at executes
      rw [executes]
      trivial
  · obtain ⟨arrived, heard, -, target, hr⟩ := steady.run_arrival depth event scene
    obtain ⟨⟨⟩, told, -, -, hl⟩ := steady.settles_log event
      (.forfeited armed.command.command.id event.phase event.input.key (destination.map (·.id)))
      arrived
    let idle : Scene τ κ := ({ scene with host := told, heard } : Scene τ κ).clear
    have target := target _ hd
    refine ⟨idle, heard, target, rfl, ?_, ?_⟩
    · rw [Armed.release, target, if_neg ht]
      rfl
    have tell : ((around.dispatcher (around.dispatch depth) event).log (.forfeited
        armed.command.command.id event.phase event.input.key (destination.map (·.id)))).run
          ({ scene with host := arrived, heard } : Scene τ κ).clear = .done () idle := hl _ _ rfl
    have continued : ((around.dispatcher (around.dispatch depth) event).holder.continues event
        destination).run { scene with host := arrived, heard } = .done false idle :=
      (Holder.run_continues_forfeited ha released ht).trans (run_bind_of_done tell)
    refine ends_observe (around.ends_handle.mpr ((ends_bind_of_done (hd ▸ hr)).mpr
      ((ends_bind_of_done continued).mpr ?_)))
    exact (ends_dispatchFree around.binds_true (permits_any event) (inner idle)
      ⟨rfl, idle.since_refl⟩).mono fun _ _ hs => ⟨rfl, hs⟩

end Steady

/-- However many events there are, all of them are absorbed. -/
theorem Steady.run_observeAll (steady : around.Steady) {armed : Armed (Bound κ)}
    (moments : List (Moment τ)) {scene : Scene τ κ} (ha : scene.armed = some armed)
    (held : around.Held depth moments scene) :
    ∃ run last, (around.observeAll depth moments).run scene = .done run last ∧
      run.map (·.event) = moments.map (·.event) ∧
      (∀ dispatched ∈ run, around.Absorbed armed dispatched) ∧
      last.armed = some armed ∧ last.history = scene.history := by
  induction moments generalizing scene with
  | nil => exact ⟨[], scene, rfl, rfl, List.forall_mem_nil _, ha, rfl⟩
  | cons moment moments ih =>
    rw [Held] at held
    obtain ⟨held, later⟩ := held
    obtain ⟨host, same, hr⟩ := steady.run_observe_absorbed (moment.enter scene) ha held
    have stays : ({ moment.enter scene with host } : Scene τ κ).armed = some armed := ha
    obtain ⟨run, last, hl, events, absorbed, armed, history⟩ := ih stays (later _ _ hr)
    refine ⟨⟨moment.event, moment.enter scene, ⟨.ok true, []⟩,
      { moment.enter scene with host }⟩ :: run, last, ?_, by simp [events], ?_, armed, history⟩
    · unfold observeAll
      rw [run_bind, run_modify]
      dsimp only
      rw [run_bind, run_get]
      dsimp only
      rw [run_bind_of_done hr, run_bind, run_get]
      dsimp only
      rw [run_bind_of_done hl]
      rfl
    · rintro dispatched (_ | ⟨_, hm⟩)
      · exact ⟨rfl, rfl, ha, ha, rfl, same⟩
      · exact absorbed dispatched hm

end Surroundings

/-- While a command is armed, the dispatcher absorbs every event that is no release or that the gate
lets nobody see, whatever the host does in between: it says that the event was handled, calls
nobody, and leaves the command armed and the event as consumed as it was. The next release that the
gate lets through ends this. If it goes to the target, the command is started, once, and nobody else
is called; otherwise that arming never runs. Whatever is done from then on, what runs was armed
since. -/
theorem armed_absorbs_until_release (around : Surroundings τ κ) (steady : around.Steady)
    (depth : Nat) (scene : Scene τ κ) (armed : Armed (Bound κ)) (ha : scene.armed = some armed)
    (moments : List (Moment τ)) (held : around.Held depth moments scene) :
    ∃ run last, (around.observeAll depth moments).run scene = .done run last ∧
      run.map (·.event) = moments.map (·.event) ∧
      (∀ dispatched ∈ run, around.Absorbed armed dispatched) ∧
      last.armed = some armed ∧ last.history = scene.history ∧
      ∀ (moment : Moment τ) (destination : Option Widget), moment.event.phase = .released →
        around.headed depth moment.event (moment.enter last) = some destination →
        (destination = armed.target → ∃ started, started.armed = none ∧
          around.SameConsumed (moment.change last.host) started.host ∧
          around.Executes depth moment.event armed.command (moment.enter last) started) ∧
        ∃ heard, Handling.destination ⟨moment.event, heard⟩ = destination ∧
          ∀ {α : Type} (later : Code τ κ α),
            (do
              let _ ← around.observe depth moment.event
              later.run (around.dispatch (depth + 1))).Ends (moment.enter last) fun _ reached =>
                ∃ rest, reached.history =
                    last.history ++ armed.release ⟨moment.event, heard⟩ ++ rest ∧
                  Chronicle (fun _ => True) none rest reached.armed := by
  obtain ⟨run, last, hr, events, absorbed, armed', history⟩ := steady.run_observeAll moments ha held
  refine ⟨run, last, hr, events, absorbed, armed', history, ?_⟩
  intro moment destination released hd
  have hl : (moment.enter last).armed = some armed := armed'
  constructor
  · rintro rfl
    obtain ⟨started, -, -, idle, -, same, executes⟩ := steady.run_observe_executed hl released hd
    exact ⟨started, idle, same, executes⟩
  · obtain ⟨idle, heard, target, ha, history, ends⟩ := steady.ends_observe_released hl released hd
    refine ⟨heard, target, fun later => ends.bind ?_ ?_⟩
    · intro _ reached hs
      have dispatches (heard : Heard) (event : KeyEvent) :
          Keeps (Scene.Recorded (fun _ => True) idle heard) (around.dispatch (depth + 1) event) :=
        around.keeps_dispatch around.binds_true permits_any (depth + 1) heard event
      refine ((Scene.robust_recorded _ idle _).keeps_run (dispatches _) later reached hs).mono ?_
      rintro _ reached ⟨-, rest, hh, chronicle⟩
      exact ⟨rest, by rw [hh, history]; rfl, ha ▸ chronicle⟩
    · rintro _ reached ⟨-, rest, hh, chronicle⟩
      exact ⟨rest, by rw [hh, history]; rfl, ha ▸ chronicle⟩

namespace Bare

theorem steady (registry : Registry Unit) : (Surroundings.bare registry).Steady where
  rootOf _ := by
    refine Surroundings.answers_done ?_
    rintro _ ⟨⟩ host
    exact ⟨host.covered, host, trivial, fun _ => rfl, by rintro _ _ rfl; rfl⟩
  owner := Surroundings.answers_done trivial
  log _ host := ⟨(), host, trivial, fun _ => rfl, by rintro _ _ rfl; rfl⟩

/-- The help is armed for the field. -/
def helping : Scene Bare Unit where
  host := {}
  armed := some ⟨⟨help, ⟨some field, some main⟩⟩, some field⟩

/-- A key is pressed elsewhere; then F1 is released while an overlay covers the window. -/
def distractions : List (Moment Bare) :=
  [⟨id, ⟨⟨"a", {}⟩, .pressed, none, 0⟩⟩,
   ⟨fun host => { host with covered := true }, ⟨⟨"F1", {}⟩, .released, some field, 1⟩⟩]

/-- The overlay goes away, and the next release runs the help. -/
def relief : Moment Bare :=
  ⟨fun host => { host with covered := false }, ⟨⟨"a", {}⟩, .released, none, 2⟩⟩

theorem distractions_absorbed :
    let around := Surroundings.bare { commands := [help] }
    around.Steady ∧ helping.armed.isSome ∧ around.Held 1 distractions helping ∧
    ∃ run last, (around.observeAll 1 distractions).run helping = .done run last ∧
      run.length = 2 ∧ (∀ dispatched ∈ run, dispatched.observation.record = []) ∧
      around.headed 1 relief.event (relief.enter last) = some (some field) ∧
      ∃ started, around.Executes 1 relief.event ⟨help, ⟨some field, some main⟩⟩
        (relief.enter last) started := by
  intro around
  have held : around.Held 1 distractions helping := by
    refine ⟨.inl (by decide), ?_⟩
    rintro _ _ ⟨⟩
    refine ⟨.inr rfl, ?_⟩
    rintro _ _ ⟨⟩
    trivial
  refine ⟨steady _, rfl, held, ?_⟩
  obtain ⟨run, last, hr, events, absorbed, -, -, released⟩ :=
    armed_absorbs_until_release around (steady _) 1 helping _ rfl distractions held
  cases hr
  have runs := (released relief (some field) rfl rfl).1 rfl
  obtain ⟨started, -, -, executes⟩ := runs
  exact ⟨_, _, rfl, rfl, fun dispatched hm => (absorbed dispatched hm).uncalled, rfl, started,
    executes⟩

end Bare

end KeyPrecedence
