import Mathlib.Logic.Relation
import KeyPrecedence.Proofs.Number.Rounding
import KeyPrecedence.Proofs.Toast.Placement

/-!
# What happens to toasts

* `ToastMoment`: the board, and the events that led to it;
* `ToastMoment.Step`, `ToastMoment.Reach`: one change, and any number of them;
* `ToastMoment.Reach.sound`: the board is sound at every moment;
* `ToastMoment.Reach.timely`: where time does not go back, no timer that runs is overdue.
-/

namespace KeyPrecedence

inductive ToastEvent
  | added (toast : Toast) (time : Number)
  | evicted (id : String)
  | dismissed (id : String)
  | dismissedTransient
  | cleared
  /-- The clock was brought to a time, and everything due by then has fired. -/
  | reached (time : Number)
  deriving DecidableEq

/-- The board at a moment, and what has happened so far, the latest first. -/
structure ToastMoment where
  board : ToastBoard := {}
  events : List ToastEvent := []

/-- What happens when a toast is put on the board. -/
def ToastBoard.arrival (board : ToastBoard) (toast : Toast) : List ToastEvent :=
  .added toast board.clock.now :: (board.displaced toast).toList.map (.evicted ·.id)

namespace ToastMoment

variable {forward : Prop} {moment later : ToastMoment}

/-- One change of the board. Where time only goes forward, it is brought to later times. -/
inductive Step (forward : Prop) (moment : ToastMoment) : ToastMoment → Prop
  | place (toast : Toast) {after : ToastBoard} (placed : moment.board.place toast = some after) :
      Step forward moment ⟨after, moment.board.arrival toast ++ moment.events⟩
  | dismiss (id : String) :
      Step forward moment ⟨(moment.board.remove id).1, .dismissed id :: moment.events⟩
  | dismissTransient :
      Step forward moment ⟨moment.board.removeTransient, .dismissedTransient :: moment.events⟩
  | clear : Step forward moment ⟨moment.board.clear, .cleared :: moment.events⟩
  | fire {limit : Number} {timer : Timer} (next : moment.board.clock.next limit = some timer) :
      Step forward moment ⟨((moment.board.fire timer).remove timer.subject).1, moment.events⟩
  | reach {limit : Number} (next : moment.board.clock.next limit = none)
      (ahead : forward → limit.IsTime ∧ moment.board.clock.now.le limit) :
      Step forward moment ⟨moment.board.setTime limit, .reached limit :: moment.events⟩

/-- The changes that may lead from one moment to another. -/
def Reach (forward : Prop) : ToastMoment → ToastMoment → Prop :=
  Relation.ReflTransGen (Step forward)

theorem Step.sound (step : moment.Step forward later)
    (h : ∃ additions, moment.board.Sound additions) : ∃ additions, later.board.Sound additions := by
  obtain ⟨additions, sound⟩ := h
  cases step with
  | place toast placed =>
    have kept := sound.place toast
    rw [placed] at kept
    exact ⟨_, kept⟩
  | dismiss id => exact ⟨_, sound.remove id⟩
  | dismissTransient => exact ⟨_, sound.removeTransient⟩
  | clear => exact ⟨_, sound.clear⟩
  | fire next =>
    rw [sound.remove_fire (Clock.mem_of_next next)]
    exact ⟨_, (sound.remove _).setTime _⟩
  | reach next ahead => exact ⟨_, sound.setTime _⟩

theorem Reach.sound (reach : Reach forward {} moment) :
    ∃ additions, moment.board.Sound additions := by
  induction reach with
  | refl => exact ⟨_, ToastBoard.sound_empty⟩
  | tail _ step ih => exact step.sound ih

end ToastMoment

/-! ## Time -/

namespace Clock

variable {clock : Clock} {limit : Number}

theorem earliest_eq_none : ∀ {running : List Timer}, earliest running = none → running = []
  | [], _ => rfl
  | first :: rest, h => by
    rw [earliest] at h
    cases hr : earliest rest with
    | none => simp [hr] at h
    | some other =>
      simp only [hr] at h
      split at h <;> cases h

/-- No timer is due before the one that is next. -/
theorem due_earliest_le : ∀ {running : List Timer} {first : Timer},
    (∀ timer ∈ running, timer.due ≠ .nan) → earliest running = some first →
      ∀ timer ∈ running, first.due.le timer.due
  | head :: rest, first, times, h => by
    obtain ⟨headTime, restTimes⟩ := List.forall_mem_cons.mp times
    rw [earliest] at h
    cases hr : earliest rest with
    | none =>
      rw [hr] at h
      cases h
      rw [earliest_eq_none hr]
      exact List.forall_mem_singleton.mpr (Number.le_refl headTime)
    | some other =>
      have least := due_earliest_le restTimes hr
      have otherTime : other.due ≠ .nan := restTimes other (mem_of_earliest hr)
      simp only [hr] at h
      split at h
      · rename_i first
        cases h
        refine List.forall_mem_cons.mpr ⟨Number.le_refl headTime, fun timer hm => ?_⟩
        exact Number.le_trans first (least timer hm)
      · rename_i later
        cases h
        have before := (Number.lt_iff_not_le otherTime headTime).mpr later
        exact List.forall_mem_cons.mpr ⟨Number.le_of_lt before, least⟩

/-- Once nothing is due up to a time, all timers that run are due later. -/
theorem lt_of_next_eq_none (times : ∀ timer ∈ clock.running, timer.due ≠ .nan) (limited : limit ≠ .nan)
    (h : clock.next limit = none) : ∀ timer ∈ clock.running, limit.lt timer.due := by
  intro timer running
  cases hf : earliest clock.running with
  | none => simp [earliest_eq_none hf] at running
  | some first =>
    have ahead : ¬ first.due.le limit := by
      unfold next at h
      rw [hf] at h
      simpa [Option.filter_some] using h
    refine (Number.lt_iff_not_le limited (times timer running)).mpr fun due => ahead ?_
    exact Number.le_trans (due_earliest_le times hf timer running) due

end Clock

/-- The clock shows a time, and no timer that runs is due before it. -/
structure ToastBoard.Timely (board : ToastBoard) : Prop where
  now : board.clock.now.IsTime
  due : ∀ timer ∈ board.clock.running, timer.due.IsTime
  ahead : ∀ timer ∈ board.clock.running, board.clock.now.le timer.due

namespace ToastBoard

variable {board after : ToastBoard} {additions : List Addition}

theorem Timely.of_subset (h : board.Timely) (now : after.clock.now = board.clock.now)
    (running : ∀ timer ∈ after.clock.running, timer ∈ board.clock.running) : after.Timely where
  now := now ▸ h.now
  due timer hm := h.due timer (running timer hm)
  ahead timer hm := now ▸ h.ahead timer (running timer hm)

theorem Timely.place (h : board.Timely) (sound : board.Sound additions) {toast : Toast}
    (placed : board.place toast = some after) : after.Timely := by
  have now := now_place placed
  have way := sound.placed toast
  rw [placed] at way
  have own : ∀ timer ∈ board.timerOf toast,
      timer.due = board.clock.now.add (.ofNat (delayOf toast.timeout)) := by
    intro timer hm
    rw [(mem_timerOf.mp hm).2]
  have later := h.now.later (Number.passed_ofNat (delayOf toast.timeout))
  refine ⟨now ▸ h.now, fun timer hm => ?_, fun timer hm => ?_⟩
  · obtain old | new := way.mem_running hm
    · exact h.due timer old
    · exact own timer new ▸ later.1
  · rw [now]
    obtain old | new := way.mem_running hm
    · exact h.ahead timer old
    · exact own timer new ▸ later.2

theorem now_stopAll (toasts : List Toast) (board : ToastBoard) :
    (toasts.foldl (fun board toast => board.stopTimer toast.id) board).clock.now =
      board.clock.now := by
  induction toasts generalizing board with
  | nil => rfl
  | cons toast toasts ih => exact (ih _).trans (now_stopTimer board toast.id)

theorem now_foldl_stop (entries : List (String × Nat)) (clock : Clock) :
    (entries.foldl (fun clock (_, serial) => clock.stop serial) clock).now = clock.now := by
  induction entries generalizing clock with
  | nil => rfl
  | cons entry entries ih => exact ih _

theorem now_removeTransient (board : ToastBoard) :
    board.removeTransient.clock.now = board.clock.now := now_stopAll _ board

theorem now_clear (board : ToastBoard) : board.clear.clock.now = board.clock.now :=
  now_foldl_stop _ board.clock

/-- The timer that fires first leaves the others ahead of the time it was due. -/
theorem Timely.fire (h : board.Timely) (sound : board.Sound additions) {limit : Number}
    {timer : Timer} (next : board.clock.next limit = some timer) :
    (((board.fire timer).remove timer.subject).1).Timely := by
  have running := Clock.mem_of_next next
  have times : ∀ other ∈ board.clock.running, other.due ≠ .nan :=
    fun other hm => (h.due other hm).ne_nan
  have least := Clock.due_earliest_le times (Option.filter_eq_some_iff.mp next).1
  rw [sound.remove_fire running]
  have kept : ∀ other ∈ (board.remove timer.subject).1.clock.running, other ∈ board.clock.running := by
    intro other hm
    have filtered := sound.running_stopTimer timer.subject
    exact List.mem_of_mem_filter (filtered ▸ hm)
  exact ⟨h.due timer running, fun other hm => h.due other (kept other hm),
    fun other hm => least other (kept other hm)⟩

end ToastBoard

namespace ToastMoment

variable {moment later : ToastMoment}

theorem Step.timely (step : moment.Step True later) (sound : ∃ additions, moment.board.Sound additions)
    (h : moment.board.Timely) : later.board.Timely := by
  obtain ⟨additions, sound⟩ := sound
  cases step with
  | place toast placed => exact h.place sound placed
  | dismiss id =>
    refine h.of_subset (ToastBoard.now_stopTimer _ id) fun timer hm => ?_
    have filtered := sound.running_stopTimer id
    exact List.mem_of_mem_filter (filtered ▸ hm)
  | dismissTransient =>
    refine h.of_subset (ToastBoard.now_removeTransient _) fun timer hm => ?_
    obtain ⟨-, -, filtered⟩ :=
      sound.stopAll (moment.board.toasts.filter (·.dismissal = .transient))
    exact List.mem_of_mem_filter (filtered ▸ hm)
  | clear =>
    exact h.of_subset (ToastBoard.now_clear _) fun timer hm => (Clock.mem_foldl_stop hm).1
  | fire next => exact h.fire sound next
  | reach next ahead =>
    obtain ⟨time, -⟩ := ahead trivial
    have times : ∀ timer ∈ moment.board.clock.running, timer.due ≠ .nan :=
      fun timer hm => (h.due timer hm).ne_nan
    have later := Clock.lt_of_next_eq_none times time.ne_nan next
    exact ⟨time, h.due, fun timer hm => Number.le_of_lt (later timer hm)⟩

theorem Reach.timely (reach : Reach True {} moment) : moment.board.Timely := by
  induction reach with
  | refl => exact ⟨Number.isTime_zero, nofun, nofun⟩
  | tail before step ih => exact step.timely (Reach.sound before) ih

end ToastMoment
end KeyPrecedence
