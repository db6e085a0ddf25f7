import KeyPrecedence.Proofs.Dispatch.Absorption

/-!
# Scenes that nobody around can tell apart

* `Scene.Kin`: two scenes with the same command armed, on hosts that are related, to which the same
  has happened since;
* `Code.Akin`: two pieces of code that end alike in such scenes;
* `Surroundings.Impartial`: all the code around a dispatcher is akin to itself;
* `Surroundings.Impartial.alike_dispatch`, `Surroundings.Impartial.alike_observe`: then every
  dispatch ends alike, however deep, and makes the same calls.
-/

namespace KeyPrecedence

open Act

variable {τ κ α β α' β' : Type} {hosts : τ → τ → Prop} {p q : List (Occurrence κ)}
  {dispatch dispatch' : KeyEvent → Act (Scene τ κ) Bool}

/-- The same command is armed, and the same has happened since the histories were `p` and `q`. -/
structure Scene.Kin (hosts : τ → τ → Prop) (p q : List (Occurrence κ)) (scene other : Scene τ κ) :
    Prop where
  host : hosts scene.host other.host
  armed : scene.armed = other.armed
  heard : scene.heard = other.heard
  history : ∃ part, scene.history = p ++ part ∧ other.history = q ++ part

namespace Scene

namespace Kin

variable {scene other : Scene τ κ} (kin : Kin hosts p q scene other)

include kin

theorem withHost {host host' : τ} (h : hosts host host') :
    Kin hosts p q { scene with host } { other with host := host' } :=
  ⟨h, kin.armed, kin.heard, kin.history⟩

theorem withHeard (heard : Heard) : Kin hosts p q { scene with heard } { other with heard } :=
  ⟨kin.host, kin.armed, rfl, kin.history⟩

theorem note (occurrence : Occurrence κ) :
    Kin hosts p q (scene.note occurrence) (other.note occurrence) := by
  obtain ⟨part, hp, hq⟩ := kin.history
  refine ⟨kin.host, kin.armed, kin.heard, part ++ [occurrence], ?_, ?_⟩
  · simp [Scene.note, hp]
  · simp [Scene.note, hq]

theorem withArmed (armed : Option (Armed (Bound κ))) :
    Kin hosts p q { scene with armed } { other with armed } :=
  ⟨kin.host, rfl, kin.heard, kin.history⟩

theorem clear : Kin hosts p q scene.clear other.clear := (kin.note .cleared).withArmed none

end Kin

theorem alike_armedSlot (event : KeyEvent) :
    (armedSlot event).Alike (Kin (κ := κ) hosts p q) (armedSlot event) where
  get _ _ kin := kin.armed
  set value scene other kin := by
    cases value with
    | none => exact kin.clear
    | some armed =>
      show Kin hosts p q { scene.note (.armed ⟨event, scene.heard⟩ armed) with armed := some armed }
        { other.note (.armed ⟨event, other.heard⟩ armed) with armed := some armed }
      rw [kin.heard]
      exact (kin.note _).withArmed (some armed)

theorem alike_hostSlot {slot : Slot τ α} (alike : slot.Alike hosts slot) :
    (hostSlot slot).Alike (Kin (κ := κ) hosts p q) (hostSlot slot) where
  get _ _ kin := alike.get _ _ kin.host
  set value _ _ kin := kin.withHost (alike.set value _ _ kin.host)

theorem alike_onHost {values : α → β → Prop} {act : Act τ α} {other : Act τ β}
    (h : Act.Alike hosts values act other) :
    Act.Alike (Kin (κ := κ) hosts p q) values (onHost act) (onHost other) := by
  intro scene scene' kin
  have parts := h _ _ kin.host
  rw [run_onHost, run_onHost]
  generalize act.run scene.host = one at parts ⊢
  generalize other.run scene'.host = two at parts ⊢
  cases parts with
  | done same reached => exact .done same (kin.withHost reached)
  | failed reached => exact .failed (kin.withHost reached)
  | exhausted => exact .exhausted

end Scene

/-! ## Code that ends alike -/

/-- From scenes that are kin the two end alike, if they dispatch alike. -/
def Code.Akin (hosts : τ → τ → Prop) (values : α → β → Prop) (code : Code τ κ α)
    (other : Code τ κ β) : Prop :=
  ∀ ⦃p q dispatch dispatch'⦄,
    (∀ event, Act.Alike (Scene.Kin hosts p q) Eq (dispatch event) (dispatch' event)) →
    Act.Alike (Scene.Kin hosts p q) values (code.run dispatch) (other.run dispatch')

theorem Code.alike_look {values : α → β → Prop} {next : τ → Code τ κ α} {next' : τ → Code τ κ β}
    (h : ∀ host host', hosts host host' → Act.Alike (Scene.Kin hosts p q) values
      ((next host).run dispatch) ((next' host').run dispatch')) :
    Act.Alike (Scene.Kin hosts p q) values ((look next).run dispatch) ((look next').run dispatch') :=
  fun scene other kin => h _ _ kin.host scene other kin

theorem Code.alike_armed {values : α → β → Prop} {next : Option (Armed (Bound κ)) → Code τ κ α}
    {next' : Option (Armed (Bound κ)) → Code τ κ β}
    (h : ∀ held, Act.Alike (Scene.Kin hosts p q) values
      ((next held).run dispatch) ((next' held).run dispatch')) :
    Act.Alike (Scene.Kin hosts p q) values ((armed next).run dispatch)
      ((armed next').run dispatch') := by
  intro scene other kin
  show Outcome.Alike _ _ _ (((next' other.armed).run dispatch').run other)
  rw [← kin.armed]
  exact h scene.armed scene other kin

/-- On the same host, any code ends alike. -/
theorem Code.akin_self {values : α → α → Prop} (hv : ∀ value, values value value)
    (code : Code τ κ α) : code.Akin Eq values code := by
  intro p q dispatch dispatch' inner
  induction code with
  | done value => exact alike_pure (hv value)
  | failed fault => exact alike_fail fault
  | endless => exact alike_exhausted
  | look next ih =>
    apply alike_look
    rintro host _ rfl
    exact ih host
  | put host next ih => exact fun _ _ kin => ih _ _ (kin.withHost rfl)
  | dispatch event next ih => exact alike_bind_eq (alike_attempt (inner event)) ih
  | armed next ih => exact alike_armed ih
  | reset next ih => exact fun _ _ kin => ih _ _ kin.clear

def KeyListener.Akin (hosts : τ → τ → Prop) (listener other : KeyListener (Code τ κ)) : Prop :=
  ∀ phase, Option.Rel (fun handle handle' => ∀ event, (handle event).Akin hosts Eq (handle' event))
    (listener.handler phase) (other.handler phase)

structure Binding.Akin (hosts : τ → τ → Prop) (binding other : Binding (Code τ κ)) : Prop where
  accept : ∀ widget, (binding.accept widget).Akin hosts Eq (other.accept widget)
  isEnabled : binding.isEnabled.Akin hosts Eq other.isEnabled

/-- Every question to the toolkit is akin to itself, and so is what the answers lead to. -/
structure Toolkit.Impartial (hosts : τ → τ → Prop) (toolkit : Toolkit (Code τ κ)) : Prop where
  rootOf : ∀ widget,
    (toolkit.rootOf widget).Akin hosts (Option.Rel (Code.Akin hosts Eq)) (toolkit.rootOf widget)
  isKeyCapture : ∀ widget, (toolkit.isKeyCapture widget).Akin hosts Eq (toolkit.isKeyCapture widget)
  isTextEditor : ∀ widget, (toolkit.isTextEditor widget).Akin hosts Eq (toolkit.isTextEditor widget)
  ancestorIsEditing : ∀ widget,
    (toolkit.ancestorIsEditing widget).Akin hosts Eq (toolkit.ancestorIsEditing widget)
  isEnabled : ∀ widget, (toolkit.isEnabled widget).Akin hosts Eq (toolkit.isEnabled widget)
  listenersOf : ∀ widget, (toolkit.listenersOf widget).Akin hosts
    (fun listenerAt listenerAt' => ∀ position,
      (listenerAt position).Akin hosts (Option.Rel (KeyListener.Akin hosts)) (listenerAt' position))
    (toolkit.listenersOf widget)
  bindingOf : ∀ widget keystroke, (toolkit.bindingOf widget keystroke).Akin hosts
    (Option.Rel (Binding.Akin hosts)) (toolkit.bindingOf widget keystroke)

/-- All around a dispatcher is akin to itself: on hosts that are related it does the same. -/
structure Surroundings.Impartial (hosts : τ → τ → Prop) (around : Surroundings τ κ) : Prop where
  toolkit : around.toolkit.Impartial hosts
  owner : around.focus.owner.Akin hosts Eq around.focus.owner
  window : around.focus.window.Akin hosts Eq around.focus.window
  commandFor : ∀ keystroke window,
    (around.commandFor keystroke window).Akin hosts Eq (around.commandFor keystroke window)
  menu : ∀ processes event, around.menu = some processes →
    (processes event).Akin hosts Eq (processes event)
  decide : ∀ callback context,
    (around.calls.decide callback context).Akin hosts Eq (around.calls.decide callback context)
  run : ∀ callback context,
    (around.calls.run callback context).Akin hosts Eq (around.calls.run callback context)
  report : ∀ callback context,
    (around.calls.report callback context).Akin hosts Eq (around.calls.report callback context)
  toast : ∀ name id, (around.calls.toast name id).Akin hosts Eq (around.calls.toast name id)
  consumed : ∀ event, (around.consumed event).Alike hosts (around.consumed event)
  log : ∀ notice, Act.Alike hosts Eq (around.log notice) (around.log notice)

/-- On the same host, everything does the same. -/
theorem Surroundings.impartial_self (around : Surroundings τ κ) : around.Impartial Eq where
  toolkit :=
    { rootOf := fun _ => Code.akin_self (rel_self (Code.akin_self fun _ => rfl)) _
      isKeyCapture := fun _ => Code.akin_self (fun _ => rfl) _
      isTextEditor := fun _ => Code.akin_self (fun _ => rfl) _
      ancestorIsEditing := fun _ => Code.akin_self (fun _ => rfl) _
      isEnabled := fun _ => Code.akin_self (fun _ => rfl) _
      listenersOf := fun _ => Code.akin_self (fun _ _ => Code.akin_self (rel_self fun _ _ =>
        rel_self (fun _ _ => Code.akin_self (fun _ => rfl) _) _) _) _
      bindingOf := fun _ _ => Code.akin_self (rel_self fun _ =>
        ⟨fun _ => Code.akin_self (fun _ => rfl) _, Code.akin_self (fun _ => rfl) _⟩) _ }
  owner := Code.akin_self (fun _ => rfl) _
  window := Code.akin_self (fun _ => rfl) _
  commandFor _ _ := Code.akin_self (fun _ => rfl) _
  menu _ _ _ := Code.akin_self (fun _ => rfl) _
  decide _ _ := Code.akin_self (fun _ => rfl) _
  run _ _ := Code.akin_self (fun _ => rfl) _
  report _ _ := Code.akin_self (fun _ => rfl) _
  toast _ _ := Code.akin_self (fun _ => rfl) _
  consumed _ := ⟨by rintro _ _ rfl; rfl, by rintro _ _ _ rfl; rfl⟩
  log _ := alike_self _

/-! ## Dispatches that end alike -/

/-- The toolkit ends alike where its code dispatches alike. -/
theorem Toolkit.Impartial.alike_map {toolkit : Toolkit (Code τ κ)} (fair : toolkit.Impartial hosts)
    (inner : ∀ event, Act.Alike (Scene.Kin hosts p q) Eq (dispatch event) (dispatch' event)) :
    (toolkit.map (Code.run dispatch)).Alike (Scene.Kin hosts p q)
      (toolkit.map (Code.run dispatch')) where
  rootOf widget := Act.alike_map (fair.rootOf widget inner) fun _ _ same =>
    rel_map (fun _ _ akin => akin inner) same
  isKeyCapture widget := fair.isKeyCapture widget inner
  isTextEditor widget := fair.isTextEditor widget inner
  ancestorIsEditing widget := fair.ancestorIsEditing widget inner
  isEnabled widget := fair.isEnabled widget inner
  listenersOf widget := Act.alike_map (fair.listenersOf widget inner) fun _ _ same position =>
    Act.alike_map (same position inner) fun _ _ found =>
      rel_map (fun _ _ akin phase => rel_map (fun _ _ handles event => handles event inner)
        (akin phase)) found
  bindingOf widget keystroke := Act.alike_map (fair.bindingOf widget keystroke inner) fun _ _ same =>
    rel_map (fun _ _ akin => ⟨fun asked => akin.accept asked inner, akin.isEnabled inner⟩) same

namespace Surroundings.Impartial

variable {around : Surroundings τ κ} (fair : around.Impartial hosts)

include fair

theorem alike_dispatcher
    (inner : ∀ event, Act.Alike (Scene.Kin hosts p q) Eq (dispatch event) (dispatch' event))
    (event : KeyEvent) : (around.dispatcher dispatch event).Alike (Scene.Kin hosts p q)
      (around.dispatcher dispatch' event) where
  platform := rfl
  allowance := rfl
  toolkit := fair.toolkit.alike_map inner
  owner := by
    apply alike_bind_eq (fair.owner inner)
    intro owner
    apply alike_bind_eq (alike_modify _) fun _ => alike_pure rfl
    intro scene other kin
    rw [kin.heard]
    exact kin.withHeard _
  window := by
    apply alike_bind_eq (fair.window inner)
    intro window
    apply alike_bind_eq (alike_modify _) fun _ => alike_pure rfl
    intro scene other kin
    rw [kin.heard]
    exact kin.withHeard _
  commandFor keystroke window := fair.commandFor keystroke window inner
  menu := by
    unfold Surroundings.dispatcher
    cases h : around.menu with
    | none => exact .none
    | some processes => exact .some fun event => fair.menu processes event h inner
  calls :=
    { decide := fun callback context => fair.decide callback context inner
      run := fun callback context => by
        apply alike_bind_eq (alike_modify _) fun _ => fair.run callback context inner
        intro scene other kin
        rw [kin.heard]
        exact kin.note _
      report := fun callback context => fair.report callback context inner
      toast := fun name id => fair.toast name id inner }
  consumed event := Scene.alike_hostSlot (fair.consumed event)
  armed := Scene.alike_armedSlot event
  log notice := Scene.alike_onHost (fair.log notice)

theorem alike_handle
    (inner : ∀ event, Act.Alike (Scene.Kin hosts p q) Eq (dispatch event) (dispatch' event))
    (event : KeyEvent) : Act.Alike (Scene.Kin hosts p q) Eq (around.handle dispatch event)
      (around.handle dispatch' event) := by
  intro scene other kin
  have ends := (fair.alike_dispatcher inner event).dispatch event _ _ (kin.withHeard {})
  unfold handle
  simp only [run_attempt, run_bind, run_get, run_modify]
  generalize ((around.dispatcher dispatch event).dispatch event).run _ = one at ends ⊢
  generalize ((around.dispatcher dispatch' event).dispatch event).run _ = two at ends ⊢
  rw [kin.heard]
  cases ends with
  | done same reached => exact .done same (reached.withHeard other.heard)
  | failed reached => exact .failed (reached.withHeard other.heard)
  | exhausted => exact .exhausted

/-- However deep dispatches are nested, they end alike. -/
theorem alike_dispatch (depth : Nat) (event : KeyEvent) :
    Act.Alike (Scene.Kin hosts p q) Eq (around.dispatch depth event)
      (around.dispatch depth event) := by
  induction depth generalizing event with
  | zero => exact alike_exhausted
  | succ depth ih => exact fair.alike_handle ih event

theorem alike_run {code : Code τ κ α} (akin : code.Akin hosts Eq code) (depth : Nat) :
    Act.Alike (Scene.Kin hosts p q) Eq (code.run (around.dispatch depth))
      (code.run (around.dispatch depth)) :=
  akin (fair.alike_dispatch depth)

theorem alike_watched (depth : Nat) (event : KeyEvent) :
    (around.dispatcher (around.dispatch depth) event).watched.Alike
      (Annotated.Same (Scene.Kin hosts p q))
      (around.dispatcher (around.dispatch depth) event).watched :=
  (fair.alike_dispatcher (fair.alike_dispatch depth) event).annotated

end Surroundings.Impartial

/-- Two dispatches that end alike are observed alike. -/
theorem Surroundings.alike_observe_of {around : Surroundings τ κ} {depth : Nat} {event : KeyEvent}
    {scene other : Scene τ κ} (heard : scene.heard = other.heard)
    (h : Outcome.Alike (Annotated.Same (Scene.Kin hosts p q)) Eq
      (((around.dispatcher (around.dispatch depth) event).watched.dispatch event).run
        ⟨{ scene with heard := {} }, []⟩)
      (((around.dispatcher (around.dispatch depth) event).watched.dispatch event).run
        ⟨{ other with heard := {} }, []⟩)) :
    Outcome.Alike (Scene.Kin hosts p q) Eq ((around.observe depth event).run scene)
      ((around.observe depth event).run other) := by
  unfold observe
  rw [run_annotate, run_annotate, heard]
  generalize Act.run _ _ = one at h ⊢
  generalize Act.run _ _ = two at h ⊢
  cases h with
  | done same reached =>
    exact .done (by rw [same, reached.record]) (reached.host.withHeard other.heard)
  | failed reached => exact .done (by rw [reached.record]) (reached.host.withHeard other.heard)
  | exhausted => exact .exhausted

theorem Surroundings.Impartial.alike_observe {around : Surroundings τ κ}
    (fair : around.Impartial hosts) (depth : Nat) (event : KeyEvent) :
    Act.Alike (Scene.Kin hosts p q) Eq
      (around.observe depth event) (around.observe depth event) :=
  fun _ _ kin => around.alike_observe_of kin.heard
    ((fair.alike_watched depth event).dispatch event _ _ ⟨kin.withHeard {}, rfl⟩)

end KeyPrecedence
