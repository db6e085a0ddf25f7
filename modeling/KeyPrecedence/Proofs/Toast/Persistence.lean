import KeyPrecedence.Proofs.Toast.Timeline

/-!
# What an addition does, and which toasts stay

* `ToastListeners.ends_add_quiet`: where listeners change no toasts, an addition goes one of the
  ways described, or changes nothing at all;
* `ToastMoment.KeepsPersistent`: persistent toasts are still there, in their order;
* `ToastMoment.Step.keepsPersistent`: every change of the board keeps them;
* `additions_exact_persistent_kept`: both, for whole runs.
-/

namespace KeyPrecedence

open Act

variable {τ ν : Type}

/-- What takes a persistent toast off, or something else in its place. -/
def ToastEvent.removes (id : String) : ToastEvent → Bool
  | added toast _ => toast.id = id
  | dismissed other => other = id
  | cleared => true
  | _ => false

/-- The persistent toasts, oldest first. -/
def ToastBoard.persistent (board : ToastBoard) : List Toast :=
  board.toasts.filter (·.dismissal = .persistent)

/-- The persistent toasts that nothing has removed since are still shown, and in the same order. -/
def ToastMoment.KeepsPersistent (earlier later : ToastMoment) : Prop :=
  ∃ between, later.events = between ++ earlier.events ∧
    (earlier.board.persistent.filter fun toast => between.all (!·.removes toast.id)).Sublist
      later.board.persistent

namespace ToastMoment

variable {forward : Prop} {earlier moment later : ToastMoment}

theorem KeepsPersistent.refl (moment : ToastMoment) : moment.KeepsPersistent moment :=
  ⟨[], rfl, List.filter_sublist⟩

theorem KeepsPersistent.trans (before : earlier.KeepsPersistent moment)
    (after : moment.KeepsPersistent later) : earlier.KeepsPersistent later := by
  obtain ⟨first, firstEvents, firstKept⟩ := before
  obtain ⟨second, secondEvents, secondKept⟩ := after
  refine ⟨second ++ first, by rw [secondEvents, firstEvents, List.append_assoc], ?_⟩
  have kept := (firstKept.filter fun toast => second.all (!·.removes toast.id)).trans secondKept
  simpa only [List.filter_filter, List.all_append] using kept

/-- It is enough to look at the toasts shown. -/
theorem keepsPersistent_of_sublist {board after : ToastBoard} {events : List ToastEvent}
    (fresh : List ToastEvent)
    (kept : (board.persistent.filter fun toast => fresh.all (!·.removes toast.id)).Sublist
      after.toasts) : KeepsPersistent ⟨board, events⟩ ⟨after, fresh ++ events⟩ := by
  have same : (board.persistent.filter fun toast => fresh.all (!·.removes toast.id)).filter
      (·.dismissal = .persistent) =
        board.persistent.filter fun toast => fresh.all (!·.removes toast.id) :=
    List.filter_eq_self.mpr fun toast hm => (List.mem_filter.mp (List.mem_of_mem_filter hm)).2
  exact ⟨fresh, rfl, same ▸ kept.filter (·.dismissal = .persistent)⟩

end ToastMoment

/-- A persistent toast makes room for no other, and only goes for one of the same id. -/
theorem ToastBoard.Placed.keepsPersistent {board : ToastBoard} {toast : Toast} {toasts : List Toast}
    {running : List Timer} (h : board.Placed toast toasts running) :
    (board.persistent.filter (toast.id ≠ ·.id)).Sublist toasts := by
  -- One toast may be missing, and the new one be in its place or behind.
  have around {before behind : List Toast} {gone : Toast}
      (goes : gone.dismissal = .transient ∨ toast.id = gone.id)
      (shown : board.toasts = before ++ gone :: behind) :
      (board.persistent.filter (toast.id ≠ ·.id)).Sublist (before ++ behind) := by
    let stays (other : Toast) : Bool := toast.id ≠ other.id && other.dismissal = .persistent
    have out : ¬ stays gone := by
      obtain transient | same := goes
      · simp [stays, transient]
      · simp [stays, same]
    have left : (before ++ gone :: behind).filter stays = (before ++ behind).filter stays := by
      rw [List.filter_append, List.filter_cons_of_neg out, ← List.filter_append]
    rw [persistent, List.filter_filter, shown]
    exact left ▸ List.filter_sublist
  cases h with
  | @replacing before behind old shown same =>
    have behind := (List.sublist_cons_self toast behind).append_left before
    exact (around (.inr same.symm) shown).trans behind
  | last fresh room =>
    exact (List.filter_sublist.trans List.filter_sublist).trans (List.sublist_append_left _ _)
  | @insteadOf before behind oldest fresh full shown transient first =>
    exact (around (.inl transient) shown).trans (List.sublist_append_left _ _)

namespace ToastMoment

variable {forward : Prop} {moment later : ToastMoment}

/-- A removal leaves the toasts of other ids, in their order. -/
theorem sublist_remove {board : ToastBoard} {id : String} {fresh : List ToastEvent}
    (noted : ∀ toast ∈ board.persistent, fresh.all (!·.removes toast.id) → id ≠ toast.id) :
    (board.persistent.filter fun toast => fresh.all (!·.removes toast.id)).Sublist
      (board.remove id).1.toasts := by
  have shown : (board.remove id).1.toasts = board.toasts.filter (·.id ≠ id) := by
    simp [ToastBoard.remove]
  let left := board.persistent.filter fun toast => fresh.all (!·.removes toast.id)
  have inside : left.Sublist board.toasts := List.filter_sublist.trans List.filter_sublist
  have apart : left.filter (·.id ≠ id) = left := List.filter_eq_self.mpr fun toast hm => by
    obtain ⟨hm, stays⟩ := List.mem_filter.mp hm
    simpa using (noted toast hm stays).symm
  show left.Sublist _
  rw [shown, ← apart]
  exact inside.filter (·.id ≠ id)

theorem Step.keepsPersistent (step : moment.Step forward later)
    {additions : List ToastBoard.Addition} (sound : moment.board.Sound additions) :
    moment.KeepsPersistent later := by
  cases step with
  | @place toast after placed =>
    have way := sound.placed toast
    rw [placed] at way
    refine keepsPersistent_of_sublist (moment.board.arrival toast) ?_
    refine (List.monotone_filter_right _ fun other stays => ?_).trans way.keepsPersistent
    have apart : (!(decide (toast.id = other.id))) = true := (List.all_eq_true.mp stays) _ (.head _)
    simpa using apart
  | dismiss id =>
    refine keepsPersistent_of_sublist [.dismissed id] (sublist_remove fun toast _ stays => ?_)
    simpa [ToastEvent.removes] using stays
  | dismissTransient =>
    refine keepsPersistent_of_sublist [.dismissedTransient] ?_
    have shown : moment.board.removeTransient.toasts = moment.board.persistent :=
      congrArg (List.filter _) (sound.stopAll _).2.1
    exact shown ▸ List.filter_sublist
  | clear =>
    refine keepsPersistent_of_sublist [.cleared] ?_
    simp [ToastEvent.removes]
  | @fire limit timer next =>
    refine keepsPersistent_of_sublist [] ?_
    rw [sound.remove_fire (Clock.mem_of_next next)]
    refine sublist_remove fun toast hm _ same => ?_
    -- The subject of a timer is the id of a transient toast, and no two have one id.
    obtain ⟨shown, persistent⟩ := List.mem_filter.mp hm
    have runs := Clock.mem_of_next next
    obtain ⟨own, on, he, transient⟩ :=
      (sound.transient timer.subject).mp (List.mem_map_of_mem runs)
    obtain rfl : own = toast := sound.eq_of_id on shown (he.trans same)
    simp [transient] at persistent
  | @reach limit next ahead =>
    exact keepsPersistent_of_sublist [.reached limit] (List.filter_sublist.trans List.filter_sublist)

theorem Reach.keepsPersistent {earlier : ToastMoment} (start : Reach forward {} earlier)
    (reach : Reach forward earlier later) : earlier.KeepsPersistent later := by
  induction reach with
  | refl => exact .refl earlier
  | tail before step ih =>
    obtain ⟨additions, sound⟩ := Reach.sound (start.trans before)
    exact ih.trans (step.keepsPersistent sound)

end ToastMoment

/-! ## One addition -/

namespace ToastListeners

variable [DecidableEq ν] {additions : List ToastBoard.Addition}

/-- Listeners that change no toasts leave the board as it was published. -/
theorem ends_publish_quiet (quiet : ToastListeners τ ν (ToastGlance ν))
    (named : String → ToastTimeline τ ν → ToastTimeline τ ν) (board : ToastBoard)
    (scene : ToastTimeline τ ν) :
    ((quiet.toasts ToastTimeline.glance named).publish board).Ends scene fun _ reached =>
      reached.moment.board = board := by
  have glance : ∀ operation, Keeps (fun scene : ToastTimeline τ ν => scene.moment.board = board)
      (ToastTimeline.glance operation) := by
    intro operation scene h
    cases operation <;> exact h
  exact ends_publish (fun _ _ h => h) (fun _ h => h) glance rfl

/-- Where listeners change no toasts: a toast that is added is put on the board in one of the ways
described, and the others stay as they are. When there is no room, nothing changes, and nobody is
told. -/
theorem ends_add_quiet (quiet : ToastListeners τ ν (ToastGlance ν)) (content : String)
    (options : ToastOptions) {scene : ToastTimeline τ ν}
    (sound : scene.moment.board.Sound additions) :
    (quiet.operate ToastTimeline.glance (.add content options)).Ends scene fun result reached =>
      ∃ id, (∀ given ∈ options.id, id = given) ∧ (∀ answer, result = .ok answer → answer = .id id) ∧
        (scene.moment.board.NoRoom (options.toast id content) ∧
            reached = { scene with host := reached.host } ∨
          scene.moment.board.Placed (options.toast id content) reached.moment.board.toasts
            reached.moment.board.clock.running) := by
  refine ends_add content options (fun id host given unplaced => ?_)
    fun id host board given placed => ?_
  · have way := sound.placed (options.toast id content)
    rw [unplaced] at way
    exact ⟨id, given, by rintro _ ⟨⟩; rfl, .inl ⟨way, rfl⟩⟩
  · have way := sound.placed (options.toast id content)
    rw [placed] at way
    refine (ends_publish_quiet quiet _ board _).mono fun result reached shown => ?_
    refine ⟨id, given, fun answer ok => ?_, .inr (shown ▸ way)⟩
    cases result with
    | ok _ => exact (Except.ok.inj ok).symm
    | error fault => cases ok

end ToastListeners

/-- On every board there may be, adding a toast, where no listener changes the toasts, does this: a
toast of the same id is replaced where it stands, and nothing else changes; or the toast comes last
while there are fewer than five; or the first transient toast goes with its timer, and the new one
comes last; or, when all five are persistent, nothing changes. And whatever is done, also by
listeners: a persistent toast that is shown at one moment is shown at every later one, in the same
order with the others, unless its id was dismissed or added again meanwhile, or all toasts were
cleared. -/
theorem additions_exact_persistent_kept [DecidableEq ν] (around : ToastListeners τ ν (ToastCall ν))
    (depth : Nat) {α : Type} (code : Routine τ (ToastOp ν) ToastAnswer α) (host : τ) :
    (code.run ToastTimeline.hostSlot (around.step depth)).Ends { host } fun _ scene =>
      (∀ moment ∈ scene.moment :: scene.moments, ∀ (quiet : ToastListeners τ ν (ToastGlance ν))
        (content : String) (options : ToastOptions) (state : ToastTimeline τ ν),
        (quiet.operate ToastTimeline.glance (.add content options)).Ends { state with moment }
          fun result reached => ∃ id, (∀ given ∈ options.id, id = given) ∧
            (∀ answer, result = .ok answer → answer = .id id) ∧
            (moment.board.NoRoom (options.toast id content) ∧
                reached = { state with moment, host := reached.host } ∨
              moment.board.Placed (options.toast id content) reached.moment.board.toasts
                reached.moment.board.clock.running)) ∧
      (scene.moment :: scene.moments).Pairwise fun later earlier => earlier.KeepsPersistent later := by
  have kept : Keeps (ToastTimeline.Recorded False)
      (code.run ToastTimeline.hostSlot (around.step depth)) :=
    Routine.keeps_run (fun host _ h => h.free host)
      (fun step => around.keeps_step depth fun never => never.elim) code
  refine (kept _ (ToastTimeline.recorded_start host)).mono fun _ scene recorded => ⟨?_, ?_⟩
  · intro moment hm quiet content options state
    obtain ⟨additions, sound⟩ := (recorded.reached moment hm).sound
    exact quiet.ends_add_quiet content options sound
  · refine recorded.chain.imp_of_mem fun _ hm reach => ?_
    exact (recorded.reached _ hm).keepsPersistent reach

end KeyPrecedence
