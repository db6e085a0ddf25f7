import KeyPrecedence.Proofs.Desktop.Reach
import KeyPrecedence.Proofs.Toast.Warning

/-!
# A key for a command that cannot run

* `Dispatcher.Refuses`: the answers by which a command that has its turn is valid, but not enabled;
* `Dispatcher.Refuses.run_dispatch`: the dispatch comes down to the feedback;
* `DesktopSurroundings.Untouched`: nothing is armed, run or consumed, and no command or setting
  changes;
* `DesktopSurroundings.Quiet.run_showNotEnabled`: the feedback does no more than it is there for;
* `DesktopSurroundings.Press.run_perform`: so it is with the press as a whole;
* `DesktopSurroundings.Repeats.steady`: however often the key is pressed, the toasts stay as they
  are;
* `refused_press_warns`: all of this for a press from any desktop that was reached.
-/

namespace KeyPrecedence

open Act

variable {σ τ κ ν δ : Type}

/-- From one state to another, a dispatcher asks its questions about an event. Nobody takes it, a
command of another tier than system is found for it and has its turn, and it is valid but not
enabled. -/
inductive Dispatcher.Refuses (dispatcher : Dispatcher σ κ) (event : KeyEvent) (bound : Bound κ) :
    σ → σ → Prop
  | intro {destination : Option Widget} {window : Window} {recording : Bool}
      {start arrived free unclaimed active resolved focused routed passed checked asked : σ}
      (arrives : (dispatcher.arrival event).run start = .done (some destination) arrived)
      (continues : (dispatcher.holder.continues event destination).run arrived = .done false free)
      (menu : (dispatcher.drivesMenu event).run free = .done false unclaimed)
      (windowed : dispatcher.focus.window.run unclaimed = .done (some window) active)
      (key : event.input.isModifierKey = false)
      (finds : (dispatcher.commandFor (dispatcher.platform.keystroke event.input event.phase)
        window).run active = .done (some bound.command) resolved)
      (owned : dispatcher.focus.owner.run resolved = .done bound.context.focusOwner focused)
      (context : bound.context.activeWindow = some window)
      (records : (dispatcher.isRecording destination).run focused = .done recording routed)
      (tier : bound.command.precedence ≠ .tier .system)
      (untaken : (dispatcher.takenBefore event destination bound.context.focusOwner
        (dispatcher.platform.keystroke event.input event.phase)).run routed = .done none passed)
      (valid : (bound.isValid dispatcher.calls).run passed = .done true checked)
      (disabled : (bound.isEnabled dispatcher.calls).run checked = .done false asked) :
      Refuses dispatcher event bound start asked

namespace Dispatcher.Refuses

variable {dispatcher : Dispatcher σ κ} {event : KeyEvent} {bound : Bound κ} {start asked : σ}

/-- Once the questions are answered, nothing is done but to give feedback. -/
theorem run_dispatch (h : dispatcher.Refuses event bound start asked) :
    (dispatcher.dispatch event).run start = (do
      dispatcher.log (.notEnabled bound.command.id)
      bound.giveFeedback dispatcher.calls
      return true : Act σ Bool).run asked := by
  obtain ⟨arrives, continues, menu, windowed, key, finds, owned, context, records, tier, untaken,
    valid, disabled⟩ := h
  obtain ⟨command, focusOwner, activeWindow⟩ := bound
  dsimp only at context owned finds tier untaken
  subst context
  unfold dispatch
  rw [run_bind_of_done arrives]
  dsimp only
  rw [run_bind_of_done continues, if_neg Bool.false_ne_true]
  unfold dispatchFree
  rw [run_bind_of_done menu, if_neg Bool.false_ne_true, run_bind_of_done windowed]
  dsimp only
  rw [key, if_neg Bool.false_ne_true, run_bind_of_done finds]
  dsimp only
  rw [run_bind_of_done owned]
  unfold dispatchFound
  rw [run_bind_of_done records, if_neg tier, run_bind_of_done untaken]
  dsimp only
  unfold dispatchCommand
  rw [run_bind_of_done valid]
  simp only [Bool.not_true, Bool.false_eq_true, if_false]
  rw [run_bind_of_done disabled]
  simp only [Bool.not_false, if_true]

/-- What all those asked keep is still so when they have answered. -/
theorem keeps (h : dispatcher.Refuses event bound start asked) {inv : σ → Prop}
    (keep : dispatcher.AllKeep inv)
    (clears : ∀ state, inv state → inv (dispatcher.armed.set none state)) (begin : inv start) :
    inv asked := by
  obtain ⟨arrives, continues, menu, windowed, -, finds, owned, -, records, -, untaken, valid,
    disabled⟩ := h
  have begin := (keep.arrival event _ begin).of_done arrives
  have begin := (keep.continues event _ clears _ begin).of_done continues
  have begin := (keep.drivesMenu event _ begin).of_done menu
  have begin := (keep.window _ begin).of_done windowed
  have begin := (keep.commandFor _ _ _ begin).of_done finds
  have begin := (keep.owner _ begin).of_done owned
  have begin := (keep.isRecording _ _ begin).of_done records
  have begin := (keep.takenBefore _ _ _ _ _ begin).of_done untaken
  have begin := (keep.ask _ bound _ begin).of_done valid
  exact (keep.ask _ bound _ begin).of_done disabled

end Dispatcher.Refuses

/-! ## On a host with all its parts -/

namespace DesktopSurroundings

variable {around : DesktopSurroundings τ κ ν δ} {depth : Nat} {event : KeyEvent}
  {nested : DesktopOp κ ν δ → Act (Desktop τ κ ν δ) (DesktopAnswer κ)}
  {desktop before after later asked : Desktop τ κ ν δ}

/-- From one moment to another no command is armed, let go of or run, none changes, no setting does,
and the event is consumed or not as it was. -/
structure Untouched (around : DesktopSurroundings τ κ ν δ) (event : KeyEvent)
    (before after : Desktop τ κ ν δ) : Prop where
  armed : after.armed = before.armed
  registry : after.registry = before.registry
  settings : around.settings.get after.host = around.settings.get before.host
  consumed : (around.consumed event).get after.host = (around.consumed event).get before.host
  run : ∃ since, after.journal = before.journal ++ since ∧
    ∀ dispatcher callback context, .called dispatcher (.runs callback context) ∉ since

namespace Untouched

theorem refl (desktop : Desktop τ κ ν δ) : around.Untouched event desktop desktop where
  armed := rfl
  registry := rfl
  settings := rfl
  consumed := rfl
  run := ⟨[], by simp, fun _ _ _ hm => nomatch hm⟩

theorem trans (h : around.Untouched event before after) (h' : around.Untouched event after later) :
    around.Untouched event before later where
  armed := h'.armed.trans h.armed
  registry := h'.registry.trans h.registry
  settings := h'.settings.trans h.settings
  consumed := h'.consumed.trans h.consumed
  run := by
    obtain ⟨first, journal, none⟩ := h.run
    obtain ⟨second, journal', none'⟩ := h'.run
    refine ⟨first ++ second, by rw [journal', journal, List.append_assoc], ?_⟩
    intro dispatcher callback context hm
    obtain hm | hm := List.mem_append.mp hm
    · exact none _ _ _ hm
    · exact none' _ _ _ hm

/-- Noting anything but a run is not to touch anything. -/
theorem note (desktop : Desktop τ κ ν δ) (happening : Happening κ ν δ)
    (other : ∀ dispatcher callback context, happening ≠ .called dispatcher (.runs callback context)) :
    around.Untouched event desktop (desktop.note happening) where
  armed := rfl
  registry := rfl
  settings := rfl
  consumed := rfl
  run := ⟨[happening], rfl, fun _ _ _ hm => other _ _ _ (List.mem_singleton.mp hm).symm⟩

/-- Nor is it to change the toasts or to log something. -/
theorem beside (desktop : Desktop τ κ ν δ) (board : ToastBoard) (records : List Notice) :
    around.Untouched event desktop { desktop with board, records } where
  armed := rfl
  registry := rfl
  settings := rfl
  consumed := rfl
  run := ⟨[], by simp, fun _ _ _ hm => nomatch hm⟩

end Untouched

/-- Listeners to the toasts that do not fail, and touch neither commands nor settings nor toasts. -/
def Quiet (around : DesktopSurroundings τ κ ν δ) (event : KeyEvent)
    (nested : DesktopOp κ ν δ → Act (Desktop τ κ ν δ) (DesktopAnswer κ)) : Prop :=
  ∀ member toasts desktop, ∃ reached,
    (DesktopCode.within nested (around.shown member toasts)).run desktop = .done () reached ∧
      around.Untouched event desktop reached ∧ reached.board = desktop.board ∧
      reached.listeners = desktop.listeners

/-- Everybody is shown the toasts, and that is all. -/
theorem Quiet.run_publish (quiet : around.Quiet event nested)
    (enough : desktop.listeners.members.length < around.allowance) (board : ToastBoard) :
    ∃ reached, ((around.toasts nested).publish board).run desktop = .done () reached ∧
      around.Untouched event desktop reached ∧ reached.board = board := by
  let inv (reached : Desktop τ κ ν δ) : Prop :=
    around.Untouched event desktop reached ∧ reached.board = board ∧
      reached.listeners = desktop.listeners
  have calls (member : ν) : Answers inv (do
      (around.toasts nested).call member (← (around.toasts nested).board.read).toasts)
      fun _ => True := by
    rintro current ⟨untouched, same, listeners⟩
    let noted := current.note (.shown member current.board.toasts)
    obtain ⟨reached, run, since, same', listeners'⟩ := quiet member current.board.toasts noted
    have noticed : around.Untouched event current noted := .note _ _ (fun _ _ _ h => nomatch h)
    refine ⟨(), reached, run, ⟨(untouched.trans noticed).trans since, ?_, ?_⟩, trivial⟩
    · exact same'.trans same
    · exact listeners'.trans listeners
  have begun : inv { desktop with board } := ⟨.beside desktop board desktop.records, rfl, rfl⟩
  have stay : ∀ reached, inv reached → Desktop.listenersSlot.get reached = desktop.listeners :=
    fun _ h => h.2.2
  have round := Subscribers.answers_callAll stay calls enough
  obtain ⟨_, reached, run, ⟨untouched, same, -⟩, -⟩ := round _ begun
  exact ⟨reached, run, untouched, same⟩

variable [DecidableEq ν]

theorem Quiet.run_showNotEnabled (quiet : around.Quiet event nested) (h : desktop.Reached)
    (enough : desktop.listeners.members.length < around.allowance) (name commandId : String) :
    ∃ reached, (showNotEnabled (Desktop.part around.settings) (around.toasts nested) name
        commandId).run desktop = .done () reached ∧
      around.Untouched event desktop reached ∧
      desktop.board.Told (around.settings.get desktop.host) name commandId reached.board := by
  let settings := around.settings.get desktop.host
  let toast := notEnabledToast settings name commandId
  let content := s!"{name} is not available right now"
  let options := notEnabledOptions settings commandId
  obtain ⟨additions, sound⟩ := h.sound
  unfold showNotEnabled
  rw [run_bind_of_done (Slot.run_read ..)]
  change ∃ reached, Act.run (if settings.notEnabledFeedback = true then _ else _) _ = _ ∧ _
  cases on : settings.notEnabledFeedback with
  | false => exact ⟨desktop, rfl, .refl desktop, .off on⟩
  | true =>
    rw [if_pos rfl]
    cases placed : desktop.board.place toast with
    | none =>
      have added : ((around.toasts nested).add content options).run desktop =
          .done toast.id desktop := ToastHost.run_add_of_none _ rfl placed
      exact ⟨desktop, run_bind_of_done added, .refl desktop, .crowded on (sound.crowded placed)⟩
    | some board =>
      obtain ⟨reached, run, untouched, same⟩ := quiet.run_publish enough board
      have added : ((around.toasts nested).add content options).run desktop =
          .done toast.id reached := ToastHost.run_add_of_some _ rfl placed run
      have warned := sound.warned rfl placed
      rw [show toast.timeout = .finite settings.notEnabledToastDuration.ms from rfl,
        delayOf_duration] at warned
      exact ⟨reached, run_bind_of_done added, untouched, same ▸ .warned on warned⟩

variable [DecidableEq δ]

/-- A press, on a desktop that was reached, that finds a command with the toast for its feedback,
which cannot run. Listeners to the toasts are quiet, and their round fits the allowance. -/
structure Press (around : DesktopSurroundings τ κ ν δ) (depth : Nat) (dispatcher : δ)
    (event : KeyEvent) (bound : Bound κ) (start asked : Desktop τ κ ν δ) : Prop where
  reached : start.Reached
  refuses : (around.dispatcher (around.perform depth) dispatcher).Refuses event bound start asked
  feedback : bound.command.feedback = .toast
  quiet : around.Quiet event (around.perform depth)
  roomy : asked.listeners.members.length < around.allowance

/-- A dispatch that gives an answer is noticed, and so is what is armed and shown after it. -/
theorem run_perform_dispatch {dispatcher : δ} {start reached : Desktop τ κ ν δ} {handled : Bool}
    (run : ((around.dispatcher (around.perform depth) dispatcher).dispatch event).run start =
      .done handled reached) :
    (around.perform (depth + 1) (.dispatch dispatcher event)).run start =
      .done (.truth handled) (reached.note (.dispatched dispatcher event (.ok handled)
        ((around.consumed event).get reached.host))).look := by
  have attempted : ((around.dispatcher (around.perform depth) dispatcher).dispatch event).attempt.run
      start = .done (.ok handled) reached := by rw [run_attempt, run]
  have operated : (around.operate (around.perform depth) (.dispatch dispatcher event)).attempt.run
      start = .done (.ok (.truth handled)) (reached.note (.dispatched dispatcher event (.ok handled)
        ((around.consumed event).get reached.host))) := by
    rw [run_attempt]
    unfold operate
    rw [run_bind_of_done attempted]
    rfl
  rw [perform_succ, followedBy, run_bind_of_done operated]
  rfl

section
variable {dispatcher : δ} {bound : Bound κ} {start : Desktop τ κ ν δ}

theorem Press.run_perform (press : around.Press depth dispatcher event bound start asked) :
    ∃ reached, (around.perform (depth + 1) (.dispatch dispatcher event)).run start =
        .done (.truth true) reached ∧
      around.Untouched event asked reached ∧
      asked.board.Told (around.settings.get asked.host) bound.command.name bound.command.id
        reached.board := by
  have answered : asked.Reached := press.refuses.keeps (allKeep (keeps_perform around depth) ..)
    (fun _ h => h.elsewhere rfl) press.reached
  let logged := asked.log (.notEnabled bound.command.id)
  let noted := logged.note (.called dispatcher (.toast bound.command.name bound.command.id))
  have aside : around.Untouched event asked noted :=
    (Untouched.beside asked asked.board _).trans (.note logged _ fun _ _ _ h => nomatch h)
  have enough : noted.listeners.members.length < around.allowance := press.roomy
  have remains : noted.Reached := answered.elsewhere rfl
  obtain ⟨shown, run, untouched, told⟩ :=
    press.quiet.run_showNotEnabled remains enough bound.command.name bound.command.id
  have dispatched : ((around.dispatcher (around.perform depth) dispatcher).dispatch event).run start =
      .done true shown := by
    rw [press.refuses.run_dispatch]
    unfold Bound.giveFeedback
    rw [press.feedback]
    exact run_bind_of_done run
  let ended := shown.note (.dispatched dispatcher event (.ok true)
    ((around.consumed event).get shown.host))
  have noticed : around.Untouched event shown ended := .note _ _ fun _ _ _ h => nomatch h
  have looked : around.Untouched event ended ended.look :=
    .note ended (.after ended.held ended.board.toasts) fun _ _ _ h => nomatch h
  refine ⟨ended.look, run_perform_dispatch dispatched, ?_, told⟩
  exact ((aside.trans untouched).trans noticed).trans looked

/-- From one press, answered in `asked` and done in `reached`, the key of the same command is
pressed any number of times. The last press is answered and done in turn, and no toast comes or goes
but by the presses. -/
inductive Repeats (around : DesktopSurroundings τ κ ν δ) (id : String)
    (asked reached : Desktop τ κ ν δ) : Desktop τ κ ν δ → Desktop τ κ ν δ → Prop
  | none : Repeats around id asked reached asked reached
  | again {depth : Nat} {dispatcher : δ} {event : KeyEvent} {bound : Bound κ}
      {answer : DesktopAnswer κ} {earlier before start answered after : Desktop τ κ ν δ}
      (h : Repeats around id asked reached earlier before)
      (waits : start.board.toasts = before.board.toasts)
      (press : around.Press depth dispatcher event bound start answered) (same : bound.command.id = id)
      (asks : answered.board.toasts = start.board.toasts)
      (run : (around.perform (depth + 1) (.dispatch dispatcher event)).run start =
        .done answer after) :
      Repeats around id asked reached answered after

/-- However often the key is pressed, no toast comes, goes or moves, and the time starts over. -/
theorem Repeats.steady {id name : String} {reached answered last : Desktop τ κ ν δ}
    (h : around.Repeats id asked reached answered last)
    (told : asked.board.Told (around.settings.get asked.host) name id reached.board)
    (shown : reached.board.has ("not-enabled:" ++ id)) :
    reached.board.Steady ("not-enabled:" ++ id) last.board ∧
      ((around.settings.get answered.host).notEnabledFeedback = true →
        last.board.Due ("not-enabled:" ++ id)
          (around.settings.get answered.host).notEnabledToastDuration.ms.floor.toNat) := by
  induction h with
  | none => exact ⟨.of_toasts_eq rfl, fun on => told.due on shown⟩
  | again _ waits press same asks run ih =>
    obtain ⟨steady, -⟩ := ih
    obtain ⟨_, run', -, told'⟩ := press.run_perform
    cases run'.symm.trans run
    rw [same] at told'
    have steady := steady.trans (.of_toasts_eq (asks.trans waits))
    have steady := steady.trans (told'.steady (steady.has shown))
    exact ⟨steady, fun on => told'.due on (steady.has shown)⟩

end
end DesktopSurroundings

/-- A press for a valid command that cannot run is handled, and runs, arms and consumes nothing:
what the questions left alone is left alone to the end. The user is told by a toast, which a further
press starts over, or by nothing. -/
theorem refused_press_warns [DecidableEq ν] [DecidableEq δ] {around : DesktopSurroundings τ κ ν δ}
    {depth : Nat} {dispatcher : δ} {event : KeyEvent} {bound : Bound κ}
    {start asked : Desktop τ κ ν δ}
    (press : around.Press depth dispatcher event bound start asked) :
    ∃ reached, (around.perform (depth + 1) (.dispatch dispatcher event)).run start =
        .done (.truth true) reached ∧
      (∀ before, around.Untouched event before asked → around.Untouched event before reached) ∧
      asked.board.Told (around.settings.get asked.host) bound.command.name bound.command.id
        reached.board ∧
      500 ≤ (around.settings.get asked.host).notEnabledToastDuration.ms ∧
      (around.settings.get asked.host).notEnabledToastDuration.ms ≤ 30000 ∧
      ∀ answered last, around.Repeats bound.command.id asked reached answered last →
        reached.board.has ("not-enabled:" ++ bound.command.id) →
        reached.board.Steady ("not-enabled:" ++ bound.command.id) last.board ∧
        ((around.settings.get answered.host).notEnabledFeedback = true →
          last.board.Due ("not-enabled:" ++ bound.command.id)
            (around.settings.get answered.host).notEnabledToastDuration.ms.floor.toNat) := by
  obtain ⟨reached, run, untouched, told⟩ := press.run_perform
  let duration := (around.settings.get asked.host).notEnabledToastDuration
  have least : 500 ≤ duration.ms := duration.least_le
  have most : duration.ms ≤ 30000 := duration.le_most
  refine ⟨reached, run, fun _ since => since.trans untouched, told, least, most, ?_⟩
  exact fun _ _ repeats shown => repeats.steady told shown

namespace Unavailable

/-- A predicate that is false. -/
def print : Definition Bool where
  id := "print"
  name := "Print"
  execute := true
  shortcuts := some ["F2"]
  enabled := some false

/-- A window with nothing in it, where commands are found by scopes. -/
def around : DesktopSurroundings (Settings × Bool) Bool Unit Unit where
  platform _ := .other
  toolkit :=
    { rootOf := fun _ => .done none
      isKeyCapture := fun _ => .done false
      isTextEditor := fun _ => .done false
      ancestorIsEditing := fun _ => .done false
      isEnabled := fun _ => .done false
      listenersOf := fun _ => .done fun _ => .done none
      bindingOf := fun _ _ => .done none }
  focus _ := { owner := .done none, window := .done (some (.free "main" "Main window")) }
  commandFor _ keystroke window :=
    .perform (.resolve .default ScopeTable.appScope keystroke window) fun
      | .ok (.found command) => .done command
      | _ => .done none
  menu _ := none
  decide answer _ := .done answer
  run _ _ := .done ()
  report _ _ := .done ()
  told _ _ := .done ()
  shown _ _ := .done ()
  freshToastId := .done "toast"
  timerFailed _ := .done ()
  consumed _ := ⟨fun host => host.2, fun consumed host => (host.1, consumed)⟩
  settings := ⟨fun host => host.1, fun settings host => (settings, host.2)⟩
  allowance := 5

def main : Window := .free "main" "Main window"

def bound : Bound Bool := ⟨print.command, ⟨none, some main⟩⟩

def press : KeyEvent := ⟨⟨"F2", {}⟩, .pressed, none, 0⟩

/-- The command is registered, and somebody is shown the toasts. -/
def start : Desktop (Settings × Bool) Bool Unit Unit where
  host := ({}, false)
  registry := { commands := [print.command] }
  listeners := Subscribers.add {} ()

/-- The command was found, and its predicate asked. -/
def asked : Desktop (Settings × Bool) Bool Unit Unit :=
  let keystroke := Platform.other.keystroke press.input press.phase
  let found := start.note (.called () (.resolver keystroke main))
  found.look.note (.called () (.decides false bound.context))

theorem refused : around.Press 2 () press bound start asked where
  reached := by
    have begun : Desktop.Reached ({ host := start.host } : Desktop _ Bool Unit Unit) := .start _
    exact begun.elsewhere rfl
  refuses := by
    have window : (around.dispatcher (around.perform 2) ()).focus.window.run start =
        .done (some main) start := rfl
    have key : press.input.isModifierKey = false := by decide +kernel
    exact .intro rfl rfl rfl window key rfl rfl rfl rfl (by decide) rfl rfl rfl
  feedback := rfl
  quiet _ _ desktop := ⟨desktop, rfl, .refl desktop, rfl, rfl⟩
  roomy := by decide

/-- A resolver and a predicate are called, but no command is run. -/
theorem asking : around.Untouched press start asked where
  armed := rfl
  registry := rfl
  settings := rfl
  consumed := rfl
  run := ⟨asked.journal, rfl, by simp [asked, start, Desktop.look, Desktop.note]⟩

/-- The key is pressed, one second passes, and the key is pressed again: there is one toast, and its
timer has started over. -/
theorem print_warned :
    around.Press 2 () press bound start asked ∧
    (∃ reached, (around.perform 3 (.dispatch () press)).run start = .done (.truth true) reached ∧
      around.Untouched press start reached ∧ start.board.Told {} "Print" "print" reached.board) ∧
    (match (around.play 3 (Routine.inTurn [.dispatch () press, .toast (.wait (.ofNat 1000)),
        .dispatch () press])).run start with
      | .done () desktop => (desktop.board.toasts, desktop.board.clock.running)
      | _ => ([], [])) =
        ([notEnabledToast {} "Print" "print"], [⟨1, .ofNat 4000, "not-enabled:print"⟩]) := by
  obtain ⟨reached, run, untouched, told, -⟩ := refused_press_warns refused
  exact ⟨refused, ⟨reached, run, untouched start asking, told⟩, by decide +kernel⟩

end Unavailable
end KeyPrecedence
