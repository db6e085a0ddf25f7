import KeyPrecedence.Proofs.Command.Resolution
import KeyPrecedence.Proofs.Dispatch.Chronicle

/-!
# Every run of a dispatcher leaves a chronicle

* `Surroundings.keeps_dispatch`: a dispatch, with all the dispatches nested in it, continues the
  chronicle, however it ends;
* `executions_use_up_armings`: what that says of the commands that run, over every run of any code
  around the dispatcher.
-/

namespace KeyPrecedence

open Act

variable {τ κ : Type} {ok : Occurrence κ → Prop} {may : Phase → Prop} {start : Scene τ κ}

theorem Armed.verdict_eq_execute {ρ : Type} {armed : Armed ρ} {phase : Phase}
    {destination : Option Widget} :
    armed.verdict phase destination = .execute ↔
      phase = .released ∧ destination = armed.target := by
  unfold Armed.verdict
  split
  · simp_all
  · split <;> simp_all

namespace Scene

/-- What happened since `start` is a chronicle that accounts for what is armed. -/
def Since (ok : Occurrence κ → Prop) (start scene : Scene τ κ) : Prop :=
  ∃ part, scene.history = start.history ++ part ∧ Chronicle ok start.armed part scene.armed

theorem since_refl (scene : Scene τ κ) : scene.Since ok scene := ⟨[], by simp, .start⟩

theorem Since.clear {scene : Scene τ κ} (h : start.Since ok scene) : start.Since ok scene.clear := by
  obtain ⟨part, hp, hc⟩ := h
  exact ⟨part ++ [.cleared], by simp [Scene.clear, note, hp], hc.clear⟩

theorem Since.arm {scene : Scene τ κ} {event : KeyEvent} {armed : Armed (Bound κ)}
    (h : start.Since ok scene) (idle : scene.armed = none)
    (fine : ok (.armed ⟨event, scene.heard⟩ armed))
    (context : armed.command.context = Handling.context ⟨event, scene.heard⟩) :
    start.Since ok ((armedSlot event).set (some armed) scene) := by
  obtain ⟨part, hp, hc⟩ := h
  rw [idle] at hc
  exact ⟨part ++ [.armed ⟨event, scene.heard⟩ armed], by simp [armedSlot, note, hp],
    .arm hc fine context⟩

theorem Since.execute {scene : Scene τ κ} {during : Handling} {armed : Armed (Bound κ)}
    (h : start.Since ok scene) (ha : scene.armed = some armed)
    (released : during.event.phase = .released) (target : during.destination = armed.target)
    (fine : ok (.executed during armed.command.command.execute armed.command.context)) :
    start.Since ok (scene.clear.note
      (.executed during armed.command.command.execute armed.command.context)) := by
  obtain ⟨part, hp, hc⟩ := h
  rw [ha] at hc
  exact ⟨_, by simp [Scene.clear, note, hp], .execute hc released target fine⟩

/-- `Since`, and `heard` is what the focus source said last. -/
def Recorded (ok : Occurrence κ → Prop) (start : Scene τ κ) (heard : Heard)
    (scene : Scene τ κ) : Prop :=
  scene.heard = heard ∧ start.Since ok scene

theorem robust_recorded (ok : Occurrence κ → Prop) (start : Scene τ κ) (heard : Heard) :
    Robust (Recorded ok start heard) where
  host _ _ h := h
  clear _ h := ⟨h.1, h.2.clear⟩

end Scene

/-- What is armed is armed in a phase that `may` allows. -/
def Occurrence.ArmsIn (may : Phase → Prop) : Occurrence κ → Prop
  | armed during _ => may during.event.phase
  | _ => True

/-- The condition allows an event to run commands if it is a release, and to arm them if a command
may be found in its phase. -/
structure Permits (ok : Occurrence κ → Prop) (may : Phase → Prop) (event : KeyEvent) : Prop where
  arming : ∀ heard armed, may event.phase → ok (.armed ⟨event, heard⟩ armed)
  running : ∀ heard callback context, event.phase = .released →
    ok (.executed ⟨event, heard⟩ callback context)

theorem permits_any (event : KeyEvent) :
    Permits (fun _ : Occurrence κ => True) (fun _ => True) event :=
  ⟨fun _ _ _ => trivial, fun _ _ _ _ => trivial⟩

/-- The state of a host with one window, which a busy overlay may cover. -/
structure Bare where
  covered : Bool := false
  consumed : Bool := false

def Bare.field : Widget := ⟨"field", 0⟩

def Bare.main : Window := .free "main" ScopeTable.appScope

/-- The help of the system, on F1. -/
def Bare.help : Command Unit where
  id := "help"
  name := "Help"
  scope := ScopeTable.appScope
  precedence := .tier .system
  shortcuts := ["F1"]
  description := none
  valid := none
  enabled := none
  execute := ()
  feedback := .toast

namespace Surroundings

/-- The resolver finds commands only for the phases that `may` allows. -/
def Binds (may : Phase → Prop) (around : Surroundings τ κ) : Prop :=
  ∀ dispatch keystroke window scene,
    ((around.commandFor keystroke window).run dispatch).Ends scene fun result _ =>
      ∀ command, result = .ok (some command) → may keystroke.phase

variable {around : Surroundings τ κ} {dispatch : KeyEvent → Act (Scene τ κ) Bool}
  {event : KeyEvent} {heard : Heard}

theorem keeps_award {bound : Bound κ} {destination : Option Widget}
    (fine : ∀ heard armed, ok (.armed ⟨event, heard⟩ armed))
    (hc : bound.context = Handling.context ⟨event, heard⟩) :
    Keeps (Scene.Recorded ok start heard)
      ((around.dispatcher dispatch event).award bound event destination) := by
  have robust := Scene.robust_recorded ok start heard
  have log (notice) := robust.keeps_onHost (around.log notice)
  have arm : Keeps (Scene.Recorded ok start heard)
      ((around.dispatcher dispatch event).holder.arm bound destination) := by
    intro scene h
    refine Slot.ends_read_bind.mpr ?_
    cases ha : (around.dispatcher dispatch event).holder.armed.get scene with
    | some armed => exact keeps_bind (log _) (fun _ => keeps_pure false) scene h
    | none =>
      refine keeps_bind (log _) (fun _ => keeps_pure true) _ ⟨h.1, ?_⟩
      exact h.2.arm ha (fine _ _) (h.1 ▸ hc)
  exact keeps_bind arm fun _ => Slot.keeps_write fun _ h => h

/-- The armed command runs at most once, right after it was let go of. -/
theorem keeps_continues {destination : Option Widget}
    (inner : ∀ event, Keeps (Scene.Recorded ok start heard) (dispatch event))
    (fine : ∀ heard callback context, event.phase = .released →
      ok (.executed ⟨event, heard⟩ callback context))
    (hd : destination = Handling.destination ⟨event, heard⟩) :
    Keeps (Scene.Recorded ok start heard)
      ((around.dispatcher dispatch event).holder.continues event destination) := by
  have robust := Scene.robust_recorded ok start heard
  have log (notice) := robust.keeps_onHost (around.log notice)
  intro scene h
  refine Slot.ends_read_bind.mpr ?_
  cases ha : (around.dispatcher dispatch event).holder.armed.get scene with
  | none => exact h
  | some armed =>
    dsimp only
    cases hv : armed.verdict event.phase destination with
    | absorb => exact h
    | forfeit => exact keeps_bind (log _) (fun _ => keeps_pure false) _ (robust.clear scene h)
    | execute =>
      obtain ⟨released, target⟩ := Armed.verdict_eq_execute.mp hv
      refine Slot.ends_write_bind.mpr ((Scene.ends_onHost (around.log _) _).bind ?_ ?_)
      · rintro _ _ ⟨host, rfl⟩
        have run : ((around.dispatcher dispatch event).holder.execute armed.command).attempt.Ends
            { scene.clear with host } fun _ => Scene.Recorded ok start heard := by
          refine ends_attempt.mpr (robust.keeps_run inner _ _ ⟨h.1, ?_⟩)
          have target : Handling.destination ⟨event, scene.heard⟩ = armed.target := by
            rw [← target, hd, ← h.1]
          exact h.2.execute ha released target (fine _ _ _ released)
        refine run.bind ?_ fun _ _ hr => hr
        rintro (fault | _) reached hr
        · exact keeps_bind (log _) (fun _ => keeps_fail fault) reached hr
        · exact hr
      · rintro _ _ ⟨host, rfl⟩
        exact ⟨h.1, h.2.clear⟩

/-- What a question to the focus source brings is heard. -/
theorem ends_hear {α : Type} (inner : ∀ event, Keeps (Scene.Recorded ok start heard) (dispatch event))
    (question : Code τ κ α) (hear : α → Heard → Heard) {scene : Scene τ κ}
    (h : Scene.Recorded ok start heard scene) :
    (do
      let answer ← question.run dispatch
      modify fun scene => { scene with heard := hear answer scene.heard }
      return answer : Act (Scene τ κ) α).Ends scene fun result reached =>
        start.Since ok reached ∧ ∀ answer, result = .ok answer →
          Scene.Recorded ok start (hear answer heard) reached := by
  refine ((Scene.robust_recorded ok start heard).keeps_run inner question scene h).bind ?_ ?_
  · rintro answer reached hr
    refine ends_modify_bind.mpr ⟨hr.2, ?_⟩
    rintro _ ⟨⟩
    exact ⟨by rw [hr.1], hr.2⟩
  · rintro fault reached hr
    exact ⟨hr.2, by rintro _ ⟨⟩⟩

theorem ends_owner (inner : ∀ event, Keeps (Scene.Recorded ok start heard) (dispatch event))
    {scene : Scene τ κ} (h : Scene.Recorded ok start heard scene) :
    (around.dispatcher dispatch event).focus.owner.Ends scene fun result reached =>
      start.Since ok reached ∧ ∀ owner, result = .ok owner →
        Scene.Recorded ok start { heard with owner } reached :=
  ends_hear inner around.focus.owner (fun owner heard => { heard with owner }) h

theorem ends_window (inner : ∀ event, Keeps (Scene.Recorded ok start heard) (dispatch event))
    {scene : Scene τ κ} (h : Scene.Recorded ok start heard scene) :
    (around.dispatcher dispatch event).focus.window.Ends scene fun result reached =>
      start.Since ok reached ∧ ∀ window, result = .ok window →
        Scene.Recorded ok start { heard with window } reached :=
  ends_hear inner around.focus.window (fun window heard => { heard with window }) h

theorem ends_destinationOf (inner : ∀ event, Keeps (Scene.Recorded ok start heard) (dispatch event))
    {scene : Scene τ κ} (h : Scene.Recorded ok start heard scene) :
    ((around.dispatcher dispatch event).destinationOf event).Ends scene fun result reached =>
      start.Since ok reached ∧ ∀ destination, result = .ok destination →
        ∃ heard, Scene.Recorded ok start heard reached ∧
          destination = Handling.destination ⟨event, heard⟩ := by
  unfold Dispatcher.destinationOf
  cases hs : event.source with
  | some source =>
    refine ⟨h.2, ?_⟩
    rintro _ ⟨⟩
    exact ⟨heard, h, by simp [Handling.destination, hs]⟩
  | none =>
    refine (ends_owner inner h).mono ?_
    rintro result reached ⟨hc, ho⟩
    refine ⟨hc, fun owner he => ⟨_, ho owner he, ?_⟩⟩
    simp [Handling.destination, hs]

theorem ends_arrival (inner : ∀ event, Keeps (Scene.Recorded ok start heard) (dispatch event))
    {scene : Scene τ κ} (h : Scene.Recorded ok start heard scene) :
    ((around.dispatcher dispatch event).arrival event).Ends scene fun result reached =>
      start.Since ok reached ∧ ∀ destination, result = .ok (some destination) →
        ∃ heard, Scene.Recorded ok start heard reached ∧
          destination = Handling.destination ⟨event, heard⟩ := by
  have others := around.othersKeep (Scene.robust_recorded ok start heard) inner event
  refine (others.isBlocked event scene h).bind ?_ fun _ _ hr => ⟨hr.2, by rintro _ ⟨⟩⟩
  rintro (_ | _) reached hr
  case true => exact ⟨hr.2, by rintro _ ⟨⟩⟩
  refine (ends_destinationOf inner hr).bind ?_ fun _ _ hr => ⟨hr.1, by rintro _ ⟨⟩⟩
  rintro destination reached ⟨hs, hd⟩
  refine ⟨hs, ?_⟩
  rintro _ ⟨⟩
  exact hd destination rfl

theorem ends_dispatchFree (binds : around.Binds may) (permits : Permits ok may event)
    (inner : ∀ heard event, Keeps (Scene.Recorded ok start heard) (dispatch event))
    {destination : Option Widget} {scene : Scene τ κ} (h : Scene.Recorded ok start heard scene) :
    ((around.dispatcher dispatch event).dispatchFree event destination).Ends scene
      fun _ reached => start.Since ok reached := by
  have others (heard : Heard) :=
    around.othersKeep (Scene.robust_recorded ok start heard) (inner heard) event
  refine ((others heard).drivesMenu event scene h).bind ?_ fun _ _ hr => hr.2
  rintro (_ | _) reached hr
  case true => exact hr.2
  refine (ends_window (inner heard) hr).bind ?_ fun _ _ hr => hr.1
  rintro (_ | window) reached ⟨hc, hw⟩
  case none => exact hc
  have hr := hw _ rfl
  dsimp only
  split
  · exact hc
  refine (ends_and ((others _).commandFor _ window reached hr)
    (binds dispatch _ window reached)).bind ?_ fun _ _ hr => hr.1.2
  rintro (_ | command) reached ⟨hr, hm⟩
  case none => exact hr.2
  refine (ends_owner (inner _) hr).bind ?_ fun _ _ hr => hr.1
  rintro owner reached ⟨-, ho⟩
  have fine (heard) (armed) := permits.arming heard armed (hm command rfl)
  exact ((others _).dispatchFound _ (keeps_award fine rfl) _ (ho owner rfl)).mono fun _ _ hr => hr.2

/-- A dispatch, with all that its callbacks do, continues the chronicle. -/
theorem ends_dispatch (binds : around.Binds may) (permits : Permits ok may event)
    (inner : ∀ heard event, Keeps (Scene.Recorded ok start heard) (dispatch event))
    {scene : Scene τ κ} (h : Scene.Recorded ok start heard scene) :
    ((around.dispatcher dispatch event).dispatch event).Ends scene fun _ reached =>
      start.Since ok reached := by
  refine (ends_arrival (inner heard) h).bind ?_ fun _ _ hr => hr.1
  rintro (_ | destination) reached ⟨hs, hd⟩
  case none => exact hs
  obtain ⟨heard, hr, hd⟩ := hd destination rfl
  refine (keeps_continues (inner heard) permits.running hd reached hr).bind ?_ fun _ _ hr => hr.2
  rintro (_ | _) reached hr
  case true => exact hr.2
  exact ends_dispatchFree binds permits inner hr

theorem keeps_handle (binds : around.Binds may) (permits : Permits ok may event)
    (inner : ∀ heard event, Keeps (Scene.Recorded ok start heard) (dispatch event)) :
    Keeps (Scene.Recorded ok start heard) (around.handle dispatch event) := by
  intro scene h
  have opening : Scene.Recorded ok start {} { scene with heard := {} } := ⟨rfl, h.2⟩
  exact around.ends_handle.mpr
    ((ends_dispatch binds permits inner opening).mono fun _ _ hr => ⟨h.1, hr⟩)

/-- However deep dispatches are nested, the history stays a chronicle. -/
theorem keeps_dispatch (binds : around.Binds may) (permits : ∀ event, Permits ok may event)
    (depth : Nat) (heard : Heard) (event : KeyEvent) :
    Keeps (Scene.Recorded ok start heard) (around.dispatch depth event) := by
  induction depth generalizing heard event with
  | zero => exact keeps_exhausted
  | succ depth ih => exact keeps_handle binds (permits event) ih

/-- The commands are found by scopes in a registry of the host's. -/
def Backed (around : Surroundings τ κ) : Prop :=
  ∃ (table : ScopeTable) (fallback : String) (registry : Slot τ (Registry κ))
    (log : Notice → Act τ Unit), ∀ keystroke window,
    around.commandFor keystroke window =
      .ofAct (table.commandFor fallback registry log keystroke window)

theorem binds_true (around : Surroundings τ κ) : around.Binds fun _ => True :=
  fun _ _ _ _ => ends_of_forall fun _ _ _ _ => trivial

theorem Backed.binds (backed : around.Backed) : around.Binds (· = .pressed) := by
  obtain ⟨table, fallback, registry, log, hc⟩ := backed
  intro dispatch keystroke window scene
  rw [hc, Code.run_ofAct]
  refine (Scene.ends_onHost_of ScopeTable.ends_commandFor).mono ?_
  exact fun _ _ hr command he => Registry.pressed_of_resolve (hr _ he)

/-- A field has the focus, and commands are all there is. -/
def bare (registry : Registry κ) : Surroundings Bare κ where
  platform := .other
  toolkit :=
    { rootOf := fun _ => .done (some (.look fun host => .done host.covered))
      isKeyCapture := fun _ => .done false
      isTextEditor := fun _ => .done false
      ancestorIsEditing := fun _ => .done false
      isEnabled := fun _ => .done true
      listenersOf := fun _ => .done fun _ => .done none
      bindingOf := fun _ _ => .done none }
  focus := { owner := .done (some Bare.field), window := .done (some Bare.main) }
  commandFor keystroke window :=
    .ofAct (ScopeTable.default.commandFor ScopeTable.appScope ⟨fun _ => registry, fun _ host => host⟩
      (fun _ => pure ()) keystroke window)
  calls :=
    { decide := fun _ _ => .done true
      run := fun _ _ => .done ()
      report := fun _ _ => .done ()
      toast := fun _ _ => .done () }
  consumed _ := { get := (·.consumed), set := fun value host => { host with consumed := value } }
  log _ := pure ()
  allowance := 1

theorem bare_backed (registry : Registry κ) : (bare registry).Backed :=
  ⟨_, _, _, _, fun _ _ => rfl⟩

end Surroundings

/-- Whatever surrounds a dispatcher and whatever is done with it, a command runs on a released event
headed for the target, and uses up the arming right before it: the same command, with the context
in which it was resolved. So there are never more executions than armings, a fresh arming lies
between two executions, and with commands found in a registry all armings are on presses. -/
theorem executions_use_up_armings {α : Type} (around : Surroundings τ κ) (depth : Nat)
    (code : Code τ κ α) (host : τ) :
    (code.run (around.dispatch depth)).Ends { host } fun _ scene =>
      (∀ before during callback context after,
        scene.history = before ++ .executed during callback context :: after →
        during.event.phase = .released ∧ ∃ earlier arming armed,
          before = earlier ++ [.armed arming armed, .cleared] ∧
          armed.target = during.destination ∧ callback = armed.command.command.execute ∧
          context = armed.command.context ∧ context = arming.context) ∧
      (∀ part, part <+: scene.history →
        part.countP Occurrence.isExecution ≤ part.countP Occurrence.isArming) ∧
      (∀ before first between second after, first.isExecution → second.isExecution →
        scene.history = before ++ first :: between ++ second :: after →
        ∃ arming armed, .armed arming armed ∈ between) ∧
      (around.Backed → ∀ arming armed, .armed arming armed ∈ scene.history →
        arming.event.phase = .pressed) := by
  have chronicled {may : Phase → Prop} (binds : around.Binds may) :
      (code.run (around.dispatch depth)).Ends { host } fun _ scene =>
        Chronicle (Occurrence.ArmsIn may) none scene.history scene.armed := by
    have robust := Scene.robust_recorded (Occurrence.ArmsIn may) ({ host } : Scene τ κ) {}
    have permits (event) : Permits (Occurrence.ArmsIn may : Occurrence κ → Prop) may event :=
      ⟨fun _ _ hm => hm, fun _ _ _ _ => trivial⟩
    refine (robust.keeps_run (around.keeps_dispatch binds permits depth {}) code { host }
      ⟨rfl, Scene.since_refl _⟩).mono ?_
    rintro _ scene ⟨-, part, hp, chronicle⟩
    rw [show scene.history = part from hp]
    exact chronicle
  refine (ends_and (chronicled around.binds_true)
    (ends_imp fun backed : around.Backed => chronicled backed.binds)).mono ?_
  rintro _ scene ⟨chronicle, backed⟩
  refine ⟨?_, fun part hp => chronicle.executions_le hp, ?_, ?_⟩
  · intro before during callback context after he
    obtain ⟨_, hp⟩ := chronicle.of_prefix (before ++ [.executed during callback context])
      ⟨after, by simp [he]⟩
    obtain ⟨released, armed, ht, hr, hc, ⟨-, hf⟩ | ⟨earlier, arming, hb, ha⟩⟩ := hp.executed_last
    · cases hf
    · exact ⟨released, earlier, arming, armed, hb, ht, hr, hc, ha⟩
  · intro before first between second after hf hs he
    exact chronicle.arming_between hf hs he
  · intro hb arming armed hm
    exact (backed hb).ok_of_mem hm nofun

end KeyPrecedence
