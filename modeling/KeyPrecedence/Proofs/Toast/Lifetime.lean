import KeyPrecedence.Proofs.Toast.Timeline

/-!
# How long a toast is shown

* `ToastEvent.ends`: what may end the time of a toast before it is over;
* `ToastBoard.Life`: what has become of a toast that nothing of this kind has met;
* `ToastMoment.Living`, `ToastMoment.Step.living`: every change of the board keeps account of it;
* `toast_lifetimes_exact`: so toasts are shown until they are due, and no longer.
-/

namespace KeyPrecedence

open Act

variable {τ ν : Type}

/-- What ends the time of the toast with an id. -/
def ToastEvent.ends (id : String) : ToastEvent → Bool
  | added toast _ => toast.id = id
  | evicted other => other = id
  | dismissed other => other = id
  | dismissedTransient => true
  | cleared => true
  | reached _ => false

/-- A transient toast is shown while its timer runs, which is not due at any time that was reached
since; or it is off, and was due by now. -/
inductive ToastBoard.Life (board : ToastBoard) (toast : Toast) (due : Number)
    (since : List ToastEvent) : Prop
  | shown (timer : Timer) (on : toast ∈ board.toasts) (running : timer ∈ board.clock.running)
      (own : timer.subject = toast.id) (time : timer.due = due)
      (ahead : ∀ time, .reached time ∈ since → time.lt due)
  | gone (off : board.has toast.id = false) (past : due.le board.clock.now)

/-- A toast is shown until it is due, and no longer once the clock was brought there. -/
structure ToastMoment.ShownUntil (moment : ToastMoment) (toast : Toast) (due : Number)
    (since : List ToastEvent) : Prop where
  before : moment.board.clock.now.lt due → toast ∈ moment.board.toasts
  after : ∀ time, .reached time ∈ since → due.le time → moment.board.has toast.id = false

namespace ToastBoard

variable {board after : ToastBoard} {toast : Toast} {due : Number} {since known : List ToastEvent}
  {additions : List Addition}

theorem Life.shownUntil {events : List ToastEvent} (h : board.Life toast due since) :
    ToastMoment.ShownUntil ⟨board, events⟩ toast due since := by
  cases h with
  | shown timer on running own time ahead =>
    refine ⟨fun _ => on, fun reached hm overdue => ?_⟩
    obtain ⟨dueTime, reachedTime⟩ := Number.ne_nan_of_le overdue
    exact absurd overdue ((Number.lt_iff_not_le reachedTime dueTime).mp (ahead reached hm))
  | gone off past =>
    refine ⟨fun early => ?_, fun _ _ _ => off⟩
    obtain ⟨dueTime, nowTime⟩ := Number.ne_nan_of_le past
    exact absurd past ((Number.lt_iff_not_le nowTime dueTime).mp early)

/-- A change that leaves a toast and its timer as they are. -/
theorem Life.transfer (h : board.Life toast due since)
    (on : toast ∈ board.toasts → toast ∈ after.toasts)
    (running : ∀ timer ∈ board.clock.running, timer.subject = toast.id → timer ∈ after.clock.running)
    (off : board.has toast.id = false → after.has toast.id = false)
    (now : after.clock.now = board.clock.now)
    (reached : ∀ time, .reached time ∈ known → .reached time ∈ since) :
    after.Life toast due known := by
  cases h with
  | shown timer shown runs own time ahead =>
    exact .shown timer (on shown) (running timer runs own) own time fun t hm => ahead t (reached t hm)
  | gone absent past => exact .gone (off absent) (now ▸ past)

theorem Life.remove (h : board.Life toast due since) (sound : board.Sound additions) {id : String}
    (other : id ≠ toast.id) (reached : ∀ time, .reached time ∈ known → .reached time ∈ since) :
    (board.remove id).1.Life toast due known := by
  have running := sound.running_stopTimer id
  refine h.transfer (fun on => ?_) (fun timer runs own => ?_) (fun off => ?_)
    (now_stopTimer board id) reached
  · exact List.mem_filter.mpr ⟨by simpa using on, by simpa using other.symm⟩
  · show timer ∈ (board.stopTimer id).clock.running
    rw [running]
    exact List.mem_filter.mpr ⟨runs, by simpa [own] using other.symm⟩
  · refine has_eq_false.mpr fun t hm => has_eq_false.mp off t ?_
    exact (board.toasts_stopTimer id) ▸ List.mem_of_mem_filter hm

/-- A toast that was put on the board leaves the others but the one that makes room as they are. -/
theorem Life.place (h : board.Life toast due since) (sound : board.Sound additions) {added : Toast}
    (placed : board.place added = some after) (other : added.id ≠ toast.id)
    (kept : ∀ oldest, board.displaced added = some oldest → oldest.id ≠ toast.id)
    (reached : ∀ time, .reached time ∈ known → .reached time ∈ since) :
    after.Life toast due known := by
  have way := sound.placed added
  rw [placed] at way
  refine h.transfer (way.kept other kept) (fun timer runs own => ?_) (fun off => ?_)
    (now_place placed) reached
  · exact way.kept_timer (own ▸ other) (own ▸ kept) runs
  · refine has_eq_false.mpr fun t hm => ?_
    obtain old | rfl := way.mem_toasts hm
    · exact has_eq_false.mp off t old
    · exact other

/-- Time goes on; what it is brought to, no timer that runs is due by. -/
theorem Life.later (h : board.Life toast due since) {limit : Number}
    (ahead : board.clock.now.le limit)
    (reached : ∀ time, .reached time ∈ known →
      .reached time ∈ since ∨ ∀ timer ∈ board.clock.running, time.lt timer.due) :
    (board.setTime limit).Life toast due known := by
  cases h with
  | shown timer on running own time before =>
    refine .shown timer on running own time fun t hm => ?_
    obtain past | early := reached t hm
    · exact before t past
    · exact time ▸ early timer running
  | gone off past => exact .gone off (Number.le_trans past ahead)

/-- The timer that fires takes its own toast off, which is due then, and no other. -/
theorem Life.fire (h : board.Life toast due since) (sound : board.Sound additions)
    (timely : board.Timely) {limit : Number} {timer : Timer}
    (next : board.clock.next limit = some timer) :
    (((board.fire timer).remove timer.subject).1).Life toast due since := by
  have runs := Clock.mem_of_next next
  rw [sound.remove_fire runs]
  by_cases own : timer.subject = toast.id
  · have off : ((board.remove timer.subject).1.setTime timer.due).has toast.id = false := by
      refine has_eq_false.mpr fun t hm => ?_
      simpa [own] using (List.mem_filter.mp hm).2
    refine .gone off ?_
    cases h with
    | shown other on running same time ahead =>
      obtain rfl : other = timer := sound.eq_of_subject running runs (same.trans own.symm)
      exact time ▸ Number.le_refl (timely.due other running).ne_nan
    | gone off past => exact Number.le_trans past (timely.ahead timer runs)
  · have kept := h.remove sound own fun _ hm => hm
    refine kept.later ?_ fun _ hm => .inl hm
    exact (now_stopTimer board timer.subject).symm ▸ timely.ahead timer runs

end ToastBoard

namespace ToastMoment

variable {moment later : ToastMoment}

/-- Account is kept of every transient toast whose time nothing has ended. -/
def Living (moment : ToastMoment) : Prop :=
  ∀ toast time since earlier, moment.events = since ++ .added toast time :: earlier →
    toast.dismissal = .transient → (∀ event ∈ since, event.ends toast.id = false) →
      moment.board.Life toast (time.add (.ofNat (delayOf toast.timeout))) since

/-- What is noted besides additions comes after all that was added. -/
theorem exists_of_append_eq {fresh events since earlier : List ToastEvent} {toast : Toast}
    {time : Number} (none : ∀ toast time, .added toast time ∉ fresh)
    (split : fresh ++ events = since ++ .added toast time :: earlier) :
    ∃ rest, since = fresh ++ rest ∧ events = rest ++ .added toast time :: earlier := by
  obtain ⟨rest, rfl, rfl⟩ | ⟨rest, rfl, tail⟩ := List.append_eq_append_iff.mp split
  · exact ⟨rest, rfl, rfl⟩
  · cases rest with
    | nil => exact ⟨[], by simp, tail.symm⟩
    | cons first rest =>
      obtain ⟨rfl, -⟩ := List.cons.inj tail
      exact absurd (by simp) (none toast time)

/-- A change without additions, by what it does to each toast that it does not end the time of. -/
theorem Living.change (h : moment.Living) {after : ToastBoard} (fresh : List ToastEvent)
    (none : ∀ toast time, .added toast time ∉ fresh)
    (kept : ∀ toast due since, (∀ event ∈ fresh, event.ends toast.id = false) →
      moment.board.Life toast due since → after.Life toast due (fresh ++ since)) :
    Living ⟨after, fresh ++ moment.events⟩ := by
  intro toast time since earlier split transient spared
  obtain ⟨rest, rfl, events⟩ := exists_of_append_eq none split
  obtain ⟨freshSpared, restSpared⟩ := List.forall_mem_append.mp spared
  exact kept toast _ rest freshSpared (h toast time rest earlier events transient restSpared)

theorem Living.place (h : moment.Living) {additions : List ToastBoard.Addition}
    (sound : moment.board.Sound additions) {added : Toast} {after : ToastBoard}
    (placed : moment.board.place added = some after) :
    Living ⟨after, moment.board.arrival added ++ moment.events⟩ := by
  have way := sound.placed added
  rw [placed] at way
  let fresh := (moment.board.displaced added).toList.map fun oldest => ToastEvent.evicted oldest.id
  intro toast time since earlier split transient spared
  obtain ⟨rfl, head⟩ | ⟨rest, rfl, tail⟩ := List.cons_eq_append_iff.mp split
  · -- The toast is the one that was added now, and its timer has just been started.
    obtain ⟨⟨rfl, rfl⟩, -⟩ : (toast = added ∧ time = moment.board.clock.now) ∧ _ := by
      simpa using head
    obtain ⟨timer, running, own, due⟩ := way.exists_timer transient
    exact .shown timer way.mem_self running own due nofun
  · have none : ∀ toast time, .added toast time ∉ fresh := by simp [fresh]
    obtain ⟨before, rfl, events⟩ := exists_of_append_eq none tail
    obtain ⟨other, restSpared⟩ := List.forall_mem_cons.mp spared
    obtain ⟨freshSpared, pastSpared⟩ := List.forall_mem_append.mp restSpared
    have life := h toast time before earlier events transient pastSpared
    refine life.place sound placed (by simpa [ToastEvent.ends] using other) ?_ ?_
    · intro oldest displaced
      have spared := freshSpared (.evicted oldest.id) (by simp [fresh, displaced])
      simpa [ToastEvent.ends] using spared
    · intro reached hm
      simpa [fresh] using hm

theorem Step.living (step : moment.Step True later) {additions : List ToastBoard.Addition}
    (sound : moment.board.Sound additions) (timely : moment.board.Timely) (h : moment.Living) :
    later.Living := by
  cases step with
  | place toast placed => exact h.place sound placed
  | dismiss id =>
    refine h.change [.dismissed id] (by simp) fun toast due since spared life => ?_
    have other : id ≠ toast.id := by simpa [ToastEvent.ends] using spared
    exact life.remove sound other (by simp)
  | dismissTransient => exact h.change [.dismissedTransient] (by simp) (by simp [ToastEvent.ends])
  | clear => exact h.change [.cleared] (by simp) (by simp [ToastEvent.ends])
  | fire next => exact h.change [] (by simp) fun _ _ _ _ life => life.fire sound timely next
  | @reach limit next ahead =>
    obtain ⟨time, later⟩ := ahead trivial
    have times : ∀ timer ∈ moment.board.clock.running, timer.due ≠ .nan :=
      fun timer hm => (timely.due timer hm).ne_nan
    have pending := Clock.lt_of_next_eq_none times time.ne_nan next
    refine h.change [.reached limit] (by simp) fun toast due since _ life => life.later later ?_
    intro reached hm
    obtain same | past := List.mem_cons.mp hm
    · cases same
      exact .inr pending
    · exact .inl past

theorem Reach.living (reach : Reach True {} moment) : moment.Living := by
  induction reach with
  | refl => exact fun _ _ since _ split => by simp at split
  | tail before step ih =>
    obtain ⟨additions, sound⟩ := Reach.sound before
    exact step.living sound (Reach.timely before) ih

end ToastMoment

/-- Whatever is done with the toasts as time goes on, and whatever listeners do with them when they
are called, also while timers fire: a transient toast that was put on the board at some time is
shown at every moment until it is due, and is off once the clock was brought there or further,
unless before it was added again, dismissed or evicted, or the transient toasts were dismissed or
all were cleared. Time that passes brings the clock to the sum, and whole ms add up to the same time
however they are divided. -/
theorem toast_lifetimes_exact [DecidableEq ν] (around : ToastListeners τ ν (ToastCall ν)) (depth : Nat)
    {α : Type} (code : Routine τ {step : ToastOp ν // step.Forward} ToastAnswer α) (host : τ) :
    ((code.run ToastTimeline.hostSlot fun step => around.step depth step.1).Ends { host }
      fun _ scene => ∀ moment ∈ scene.moment :: scene.moments, ∀ toast time since earlier,
        moment.events = since ++ .added toast time :: earlier → toast.dismissal = .transient →
          (∀ event ∈ since, event.ends toast.id = false) →
            moment.ShownUntil toast (time.add (.ofNat (delayOf toast.timeout))) since) ∧
    (∀ ms scene, (around.step depth (.wait ms)).Ends scene fun result reached =>
      result = .ok .nothing ∧
        reached.moment.board.clock.now = scene.moment.board.clock.now.add ms ∧
        reached.moment.events.head? = some (.reached (scene.moment.board.clock.now.add ms))) ∧
    ∀ (time : Nat) (waits : List Nat), time + waits.sum < 2 ^ 53 →
      waits.foldl (fun now ms => now.add (.ofNat ms)) (Number.ofNat time) =
        .ofNat (time + waits.sum) := by
  refine ⟨?_, around.ends_wait depth, fun time waits small => Number.foldl_add_ofNat small⟩
  have kept : Keeps (ToastTimeline.Recorded True)
      (code.run ToastTimeline.hostSlot fun step => around.step depth step.1) :=
    Routine.keeps_run (fun host _ h => h.free host)
      (fun step => around.keeps_step depth fun _ => step.2) code
  have recorded := kept { host } (ToastTimeline.recorded_start host)
  apply recorded.mono
  intro _ scene recorded moment hm toast time since earlier split transient spared
  have living := (recorded.reached moment hm).living
  exact (living toast time since earlier split transient spared).shownUntil

/-- A toast for four seconds is shown for 3999 ms, and off after 4000, however they are divided. -/
example :
    [[1500, 2499], [3999], [1500, 2500], [4000]].map (fun waits =>
      let still : ToastListeners Unit Unit (ToastCall Unit) :=
        ⟨fun _ _ => .done (), fun _ => ("", ()), fun _ _ => (), 5⟩
      let steps : List (ToastOp Unit) :=
        .call (.add "Saved" { id := some "saved" }) :: waits.map fun ms => .wait (.ofNat ms)
      match ((Routine.inTurn steps).run ToastTimeline.hostSlot (still.step 1)).run { host := () } with
      | .done () scene => some (scene.moment.board.has "saved")
      | _ => none) = [some true, some true, some false, some false] := by
  decide +kernel

end KeyPrecedence
