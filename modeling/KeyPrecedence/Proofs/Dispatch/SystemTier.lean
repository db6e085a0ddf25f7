import KeyPrecedence.Proofs.Command.Resolution
import KeyPrecedence.Proofs.Dispatch.Execution

/-!
# System commands before everything else

* `Dispatcher.Contest`: a pressed key that gets as far as the commands;
* `Dispatcher.Contest.run_dispatch`: the first command in the ranking is all that is considered;
* `system_command_wins`: a system command wins when it is the first, whoever else competes, and no
  system command is armed when another one is.
-/

namespace KeyPrecedence

open Act

variable {σ κ : Type}

/-- Arming, consuming and logging do not get in each other's way. -/
structure Dispatcher.Tidy (dispatcher : Dispatcher σ κ) (event : KeyEvent) : Prop where
  armed : ∀ value state, dispatcher.armed.get (dispatcher.armed.set value state) = value
  consumed : ∀ value state,
    (dispatcher.consumed event).get ((dispatcher.consumed event).set value state) = value
  apart : ∀ value state,
    dispatcher.armed.get ((dispatcher.consumed event).set value state) = dispatcher.armed.get state
  log : ∀ notice armed consumed, (dispatcher.log notice).Answers
    (fun state => dispatcher.armed.get state = armed ∧
      (dispatcher.consumed event).get state = consumed) fun _ => True

/-- A pressed key gets as far as the commands, and every question on its way is answered: the gate
lets it through, nothing is armed, no menu takes it, and its destination does not record keys. The
states of the host during this are those with `inv`. -/
structure Dispatcher.Contest (dispatcher : Dispatcher σ κ) (inv : σ → Prop) (event : KeyEvent)
    (destination : Option Widget) (window : Window) : Prop where
  pressed : event.phase = .pressed
  plain : event.input.isModifierKey = false
  named : dispatcher.platform.shortcut event.input ≠ ""
  arrival : (dispatcher.arrival event).Answers inv (· = some destination)
  idle : ∀ state, inv state → dispatcher.armed.get state = none
  menu : (dispatcher.drivesMenu event).Answers inv (· = false)
  window : dispatcher.focus.window.Answers inv (· = some window)
  owner : dispatcher.focus.owner.Answers inv fun _ => True
  recording : (dispatcher.isRecording destination).Answers inv (· = false)
  log : ∀ notice, (dispatcher.log notice).Answers inv fun _ => True

/-- The commands are found by scopes in a registry, which stays as it is. -/
def Dispatcher.Consults (dispatcher : Dispatcher σ κ) (inv : σ → Prop) (table : ScopeTable)
    (fallback : String) (registry : Registry κ) : Prop :=
  ∃ slot : Slot σ (Registry κ), (∀ state, inv state → slot.get state = registry) ∧
    ∀ keystroke window, dispatcher.commandFor keystroke window =
      table.commandFor fallback slot dispatcher.log keystroke window

/-- The commands that have the event's shortcut in the window, in the order in which they come into
question. -/
def Dispatcher.ranking (dispatcher : Dispatcher σ κ) (table : ScopeTable) (fallback : String)
    (registry : Registry κ) (event : KeyEvent) (window : Window) : List (Command κ) :=
  registry.ranking (dispatcher.platform.shortcut event.input)
    (table.active (window.scopeIn table fallback))

def Dispatcher.SystemUnarmed (dispatcher : Dispatcher σ κ) (state : σ) : Prop :=
  ∀ armed, dispatcher.armed.get state = some armed →
    armed.command.command.precedence ≠ .tier .system

namespace Dispatcher

variable {dispatcher : Dispatcher σ κ} {inv : σ → Prop} {event : KeyEvent}
  {destination : Option Widget} {window : Window} {table : ScopeTable} {fallback : String}
  {registry : Registry κ}

theorem Contest.system_unarmed (contest : dispatcher.Contest inv event destination window) {state : σ}
    (h : inv state) : dispatcher.SystemUnarmed state := by
  intro armed ha
  rw [contest.idle state h] at ha
  cases ha

/-- Only the first command of the ranking is considered, and only once. -/
theorem Contest.run_dispatch (contest : dispatcher.Contest inv event destination window)
    (consults : dispatcher.Consults inv table fallback registry) {state : σ} (h : inv state) :
    ∃ reached, inv reached ∧ (dispatcher.dispatch event).run state =
      (match (dispatcher.ranking table fallback registry event window).head? with
        | none => pure false
        | some command => do
          let owner ← dispatcher.focus.owner
          dispatcher.dispatchFound ⟨command, ⟨owner, some window⟩⟩ event destination
            (dispatcher.platform.keystroke event.input event.phase) : Act σ Bool).run reached := by
  obtain ⟨slot, held, backed⟩ := consults
  obtain ⟨_, arrived, h, rfl, ha⟩ := contest.arrival.run_bind h _
  have idle : (dispatcher.holder.continues event destination).run arrived = .done false arrived := by
    unfold Holder.continues
    rw [holder_armed, run_bind, Slot.run_read, contest.idle arrived h]
    rfl
  obtain ⟨_, unclaimed, h, rfl, hu⟩ := contest.menu.run_bind h _
  obtain ⟨_, asked, h, rfl, hw⟩ := contest.window.run_bind h _
  obtain ⟨_, found, h, rfl, hc⟩ := (ScopeTable.answers_commandFor held contest.log
    (dispatcher.platform.keystroke event.input event.phase) window).run_bind h _
  refine ⟨found, h, ?_⟩
  have resolved : (registry.resolve table fallback
      (dispatcher.platform.keystroke event.input event.phase) window).command =
        (dispatcher.ranking table fallback registry event window).head? :=
    Registry.resolve_command contest.pressed contest.named
  unfold dispatch
  rw [ha]
  dsimp only
  rw [run_bind, idle]
  unfold dispatchFree
  simp only [Bool.false_eq_true, if_false]
  rw [hu]
  simp only [Bool.false_eq_true, if_false]
  rw [hw]
  simp only [contest.plain, Bool.false_eq_true, if_false]
  rw [backed, ← resolved]
  refine hc.trans ?_
  cases (registry.resolve table fallback
    (dispatcher.platform.keystroke event.input event.phase) window).command <;> rfl

/-- When nothing is armed, a command that is awarded an event gets it. -/
theorem Tidy.run_award (tidy : dispatcher.Tidy event) (bound : Bound κ)
    (destination : Option Widget) {state : σ} (idle : dispatcher.armed.get state = none) :
    ∃ reached, (dispatcher.award bound event destination).run state = .done () reached ∧
      dispatcher.armed.get reached = some ⟨bound, destination⟩ ∧
      (dispatcher.consumed event).get reached = true := by
  have ha := tidy.armed (some ⟨bound, destination⟩) state
  obtain ⟨⟨⟩, told, ht, ⟨armed, -⟩, -⟩ := tidy.log (.armed bound.command.id) _ _ _ ⟨ha, rfl⟩
  have arm : (dispatcher.holder.arm bound destination).run state = .done true told := by
    unfold Holder.arm
    rw [holder_armed, holder_log, holder_commandId, run_bind, Slot.run_read, idle]
    dsimp only
    rw [run_bind, Slot.run_write]
    dsimp only
    rw [run_bind, ht]
    rfl
  refine ⟨(dispatcher.consumed event).set true told, ?_, ?_, tidy.consumed true told⟩
  · unfold award
    rw [run_bind, arm]
    rfl
  · rw [tidy.apart, armed]

/-- A system command is armed at once. -/
theorem Contest.run_system (contest : dispatcher.Contest inv event destination window)
    (tidy : dispatcher.Tidy event) {bound : Bound κ}
    (system : bound.command.precedence = .tier .system) (keystroke : Keystroke) {state : σ}
    (h : inv state) :
    ∃ reached, (dispatcher.dispatchFound bound event destination keystroke).run state =
        .done true reached ∧
      dispatcher.armed.get reached = some ⟨bound, destination⟩ ∧
      (dispatcher.consumed event).get reached = true := by
  obtain ⟨_, asked, hr, h, rfl⟩ := contest.recording state h
  obtain ⟨awarded, hw, armed, consumed⟩ := tidy.run_award bound destination (contest.idle asked h)
  obtain ⟨⟨⟩, told, hl, ⟨ha, hc⟩, -⟩ :=
    tidy.log (.armedSystem keystroke.shortcut bound.command.id) _ _ awarded ⟨armed, consumed⟩
  refine ⟨told, ?_, ha, hc⟩
  unfold dispatchFound
  rw [run_bind, hr]
  simp only [system, if_true, Bool.false_eq_true, if_false]
  rw [run_bind, hw]
  dsimp only
  rw [run_bind, hl]
  rfl

/-- No other command's being armed arms a system command. -/
theorem Tidy.keeps_award (tidy : dispatcher.Tidy event) {bound : Bound κ}
    (other : bound.command.precedence ≠ .tier .system) (destination : Option Widget) :
    Keeps dispatcher.SystemUnarmed (dispatcher.award bound event destination) := by
  have log (notice : Notice) : Keeps dispatcher.SystemUnarmed (dispatcher.log notice) := by
    intro state h
    obtain ⟨_, reached, hd, ⟨ha, -⟩, -⟩ := tidy.log notice _ _ state ⟨rfl, rfl⟩
    unfold Ends
    rw [hd]
    intro armed hr
    exact h armed (ha ▸ hr)
  refine keeps_bind ?_ fun _ => Slot.keeps_write ?_
  · intro state h
    refine Slot.ends_read_bind.mpr ?_
    cases dispatcher.holder.armed.get state with
    | some armed => exact keeps_bind (log _) (fun _ => keeps_pure false) state h
    | none =>
      refine keeps_bind (log _) (fun _ => keeps_pure true) _ ?_
      intro armed ha
      rw [holder_armed, tidy.armed] at ha
      cases ha
      exact other
  · intro state h armed ha
    exact h armed (tidy.apart _ _ ▸ ha)

end Dispatcher

/-- A system command gets a pressed key before everybody else, if no other command comes before it
in the ranking: dispatching the key arms a system command and consumes the event, whatever
listeners, bindings and editors there are. If another command is the first, no system command is
armed, unless the code that is asked arms it. -/
theorem system_command_wins {dispatcher : Dispatcher σ κ} {inv : σ → Prop} {event : KeyEvent}
    {destination : Option Widget} {window : Window} {table : ScopeTable} {fallback : String}
    {registry : Registry κ} (contest : dispatcher.Contest inv event destination window)
    (consults : dispatcher.Consults inv table fallback registry) (tidy : dispatcher.Tidy event)
    {state : σ} (h : inv state) :
    (∀ before command after,
      dispatcher.ranking table fallback registry event window = before ++ command :: after →
      (∀ other ∈ before, other.precedence = .tier .system) →
      command.precedence = .tier .system →
      ∃ armed reached, (dispatcher.dispatch event).run state = .done true reached ∧
        dispatcher.armed.get reached = some armed ∧ armed.target = destination ∧
        armed.command.command.precedence = .tier .system ∧
        (dispatcher.ranking table fallback registry event window).head? =
          some armed.command.command ∧
        (dispatcher.consumed event).get reached = true) ∧
    (dispatcher.OthersKeep dispatcher.SystemUnarmed →
      (∀ command, (dispatcher.ranking table fallback registry event window).head? = some command →
        command.precedence ≠ .tier .system) →
      (dispatcher.dispatch event).Ends state fun _ reached => dispatcher.SystemUnarmed reached) := by
  obtain ⟨found, hf, e⟩ := contest.run_dispatch consults h
  constructor
  · intro before command after ranked first system
    obtain ⟨winner, hw, hs⟩ : ∃ winner, (before ++ command :: after).head? = some winner ∧
        winner.precedence = .tier .system := by
      cases before with
      | nil => exact ⟨command, rfl, system⟩
      | cons other before => exact ⟨other, rfl, first other (.head _)⟩
    rw [ranked, hw] at e ⊢
    obtain ⟨owner, asked, ha, ho, -⟩ := contest.owner found hf
    let bound : Bound κ := ⟨winner, ⟨owner, some window⟩⟩
    have system : bound.command.precedence = .tier .system := hs
    obtain ⟨reached, hd, armed, consumed⟩ := contest.run_system tidy system
      (dispatcher.platform.keystroke event.input event.phase) ho
    refine ⟨_, reached, ?_, armed, rfl, hs, rfl, consumed⟩
    rw [e, run_bind, ha]
    exact hd
  · intro others first
    unfold Ends
    rw [e]
    cases hc : (dispatcher.ranking table fallback registry event window).head? with
    | none => exact contest.system_unarmed hf
    | some command =>
      obtain ⟨owner, asked, ha, ho, -⟩ := contest.owner found hf
      dsimp only
      rw [run_bind, ha]
      exact others.dispatchFound _ (tidy.keeps_award (first command hc) destination) asked
        (contest.system_unarmed ho)

/-- Looking a keystroke up on a host is looking it up in the scene around the host. -/
theorem ScopeTable.onHost_commandFor {τ ν : Type} (table : ScopeTable) (fallback : String)
    (registry : Slot τ (Registry κ)) (log : Notice → Act τ Unit) (keystroke : Keystroke)
    (window : Window) :
    (Scene.onHost (table.commandFor fallback registry log keystroke window) :
      Act (Scene τ ν) (Option (Command κ))) =
    table.commandFor fallback (Scene.hostSlot registry) (fun notice => Scene.onHost (log notice))
      keystroke window := by
  unfold commandFor
  rw [Scene.onHost_bind]
  refine bind_congr fun held => ?_
  dsimp only
  cases (held.resolve table fallback keystroke window).ambiguity with
  | none => rfl
  | some ambiguity => exact Scene.onHost_bind _ _

/-! ## A command of the host's own on the key of the help -/

namespace Bare

def own : Command Unit := { help with id := "own", name := "Own", precedence := .tier .toolDefault }

/-- F1 is pressed in the field. -/
def pressF1 : KeyEvent := ⟨⟨"F1", {}⟩, .pressed, some field, 0⟩

def dispatcher (commands : List (Command Unit)) : Dispatcher (Scene Bare Unit) Unit :=
  (Surroundings.bare { commands }).dispatcher (fun _ => .exhausted) pressF1

/-- The host is ready for a key. -/
def Ready (scene : Scene Bare Unit) : Prop := scene.host.covered = false ∧ scene.armed = none

theorem contest (commands : List (Command Unit)) :
    (dispatcher commands).Contest Ready pressF1 (some field) main where
  pressed := rfl
  plain := rfl
  named := by
    have f1 : (dispatcher commands).platform.shortcut pressF1.input = "F1" := rfl
    rw [f1]
    decide
  arrival := by
    rintro ⟨⟨_, _⟩, _, _, _⟩ ⟨rfl, rfl⟩
    exact ⟨_, _, rfl, ⟨rfl, rfl⟩, rfl⟩
  idle _ h := h.2
  menu scene h := ⟨_, scene, rfl, h, rfl⟩
  window _ h := ⟨_, _, rfl, h, rfl⟩
  owner _ h := ⟨_, _, rfl, h, trivial⟩
  recording scene h := ⟨_, scene, rfl, h, rfl⟩
  log _ scene h := ⟨_, scene, rfl, h, trivial⟩

theorem consults (commands : List (Command Unit)) :
    (dispatcher commands).Consults Ready .default ScopeTable.appScope { commands } := by
  refine ⟨⟨fun _ => { commands }, fun _ scene => scene⟩, fun _ _ => rfl, ?_⟩
  intro keystroke window
  exact (Code.run_ofAct _ _).trans (ScopeTable.onHost_commandFor _ _ _ _ _ _)

theorem tidy (commands : List (Command Unit)) : (dispatcher commands).Tidy pressF1 where
  armed value _ := by cases value <;> rfl
  consumed _ _ := rfl
  apart _ _ := rfl
  log _ _ _ scene h := ⟨_, scene, rfl, h, trivial⟩

theorem robust_systemUnarmed (commands : List (Command Unit)) :
    Scene.Robust (dispatcher commands).SystemUnarmed where
  host _ _ h := h
  clear _ _ _ ha := by cases ha

/-- The help is armed where it comes first, and not where the other command does. -/
theorem first_of_two_armed :
    (∃ armed reached, ((dispatcher [help, own]).dispatch pressF1).run { host := {} } =
        .done true reached ∧
      (dispatcher [help, own]).armed.get reached = some armed ∧
      armed.command.command.precedence = .tier .system) ∧
    ((dispatcher [own, help]).dispatch pressF1).Ends { host := {} } fun _ reached =>
      (dispatcher [own, help]).SystemUnarmed reached := by
  have ready : Ready { host := {} } := ⟨rfl, rfl⟩
  constructor
  · have wins := system_command_wins (contest [help, own]) (consults [help, own])
      (tidy [help, own]) ready
    obtain ⟨armed, reached, hr, ha, -, hs, -⟩ :=
      wins.1 [] help [own] rfl (by rintro _ ⟨⟩) rfl
    exact ⟨armed, reached, hr, ha, hs⟩
  · have wins := system_command_wins (contest [own, help]) (consults [own, help])
      (tidy [own, help]) ready
    refine wins.2 ?_ ?_
    · exact Surroundings.othersKeep _ (robust_systemUnarmed _) (fun _ => keeps_exhausted) pressF1
    · rintro _ ⟨⟩ ⟨⟩

/-- The help has the key in an active scope, and another command is armed. -/
theorem own_shadows_help :
    (dispatcher [own, help]).Contest Ready pressF1 (some field) main ∧ Ready { host := {} } ∧
    help ∈ (dispatcher [own, help]).ranking .default ScopeTable.appScope
      { commands := [own, help] } pressF1 main ∧
    help.precedence = .tier .system ∧
    ∃ armed reached, ((dispatcher [own, help]).dispatch pressF1).run { host := {} } =
        .done true reached ∧
      (dispatcher [own, help]).armed.get reached = some armed ∧
      armed.command.command.precedence = .tier .toolDefault := by
  refine ⟨contest _, ⟨rfl, rfl⟩, ?_, rfl, _, _, rfl, rfl, rfl⟩
  exact .tail _ (.head _)

end Bare

end KeyPrecedence
