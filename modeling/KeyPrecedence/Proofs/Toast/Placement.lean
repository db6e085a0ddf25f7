import KeyPrecedence.Proofs.Toast.Board

/-!
# Where a toast goes

* `ToastBoard.Placed`: the three ways a toast may be put on the board, with what is shown and which
  timers run afterwards, and `ToastBoard.NoRoom`: when it is not;
* `ToastBoard.Sound.placed`: every addition goes one of these ways;
* `ToastBoard.Placed.kept`, `ToastBoard.Placed.kept_timer`: and leaves the other toasts as they are.
-/

namespace KeyPrecedence.ToastBoard

variable {board after : ToastBoard} {toast : Toast} {additions : List Addition}

/-- What is shown, and which timers run, after a toast was put on the board. -/
inductive Placed (board : ToastBoard) (toast : Toast) : List Toast → List Timer → Prop
  /-- A toast of the same id is replaced where it stands. -/
  | replacing {before behind : List Toast} {old : Toast}
      (shown : board.toasts = before ++ old :: behind) (same : old.id = toast.id) :
      Placed board toast (before ++ toast :: behind)
        (board.clock.running.filter (·.subject ≠ toast.id) ++ board.timerOf toast)
  | last (fresh : board.has toast.id = false) (room : board.toasts.length < capacity) :
      Placed board toast (board.toasts ++ [toast]) (board.clock.running ++ board.timerOf toast)
  /-- The first transient toast makes room, and its timer goes with it. -/
  | insteadOf {before behind : List Toast} {oldest : Toast} (fresh : board.has toast.id = false)
      (full : capacity ≤ board.toasts.length) (shown : board.toasts = before ++ oldest :: behind)
      (transient : oldest.dismissal = .transient)
      (first : ∀ other ∈ before, other.dismissal = .persistent) :
      Placed board toast (before ++ behind ++ [toast])
        (board.clock.running.filter (·.subject ≠ oldest.id) ++ board.timerOf toast)

/-- No toast can make room for another one. -/
structure NoRoom (board : ToastBoard) (toast : Toast) : Prop where
  fresh : board.has toast.id = false
  full : capacity ≤ board.toasts.length
  persistent : ∀ other ∈ board.toasts, other.dismissal = .persistent

theorem has_iff {id : String} : board.has id ↔ ∃ toast ∈ board.toasts, toast.id = id := by
  simp [has]

theorem has_eq_false {id : String} : board.has id = false ↔ ∀ toast ∈ board.toasts, toast.id ≠ id := by
  simp [has]

@[simp]
theorem now_startTimer (board : ToastBoard) (toast : Toast) :
    (board.startTimer toast).clock.now = board.clock.now := by
  unfold startTimer
  cases toast.dismissal <;> simp [Clock.start]

theorem timerOf_stopTimer (board : ToastBoard) (id : String) (toast : Toast) :
    (board.stopTimer id).timerOf toast = board.timerOf toast := by
  unfold timerOf
  simp

/-- The time is what it was. -/
theorem now_place (h : board.place toast = some after) : after.clock.now = board.clock.now := by
  unfold place at h
  split at h
  · cases h
    simp
  · split at h
    · cases h
      simp
    · split at h
      · cases h
      · cases h
        simp

theorem dismissal_ne {dismissal : Dismissal} :
    dismissal ≠ .transient ↔ dismissal = .persistent := by
  cases dismissal <;> simp

namespace Sound

/-- Timers of ids that are not shown do not run. -/
theorem subject_ne (h : board.Sound additions) {id : String} (fresh : board.has id = false) :
    board.clock.running.filter (·.subject ≠ id) = board.clock.running := by
  refine List.filter_eq_self.mpr fun timer running => decide_eq_true fun same => ?_
  obtain ⟨shown, hm, he, -⟩ := (h.transient id).mp (List.mem_map.mpr ⟨timer, running, same⟩)
  exact has_eq_false.mp fresh shown hm he

/-- There is one toast of an id at most, so one is replaced. -/
theorem map_replace (h : board.Sound additions) {before behind : List Toast} {old : Toast}
    (shown : board.toasts = before ++ old :: behind) (same : old.id = toast.id) :
    board.toasts.map (fun t => if t.id = toast.id then toast else t) = before ++ toast :: behind := by
  have distinct := h.ids
  rw [shown, List.map_append, List.map_cons, List.nodup_append, List.nodup_cons] at distinct
  obtain ⟨-, ⟨notBehind, -⟩, notBefore⟩ := distinct
  have kept {others : List Toast} (apart : ∀ t ∈ others, t.id ≠ old.id) :
      others.map (fun t => if t.id = toast.id then toast else t) = others := by
    refine (List.map_congr_left fun t ht => ?_).trans others.map_id
    simp [← same, apart t ht]
  have keptBefore := kept fun t ht => notBefore _ (List.mem_map_of_mem ht) _ (.head _)
  have keptBehind := kept fun t ht e => notBehind (List.mem_map.mpr ⟨t, ht, e⟩)
  rw [shown, List.map_append, List.map_cons, keptBefore, keptBehind]
  simp [same]

/-- One timer is stopped and another started. -/
theorem running_instead (h : board.Sound additions) (fresh : board.has toast.id = false)
    (id : String) :
    ((board.stopTimer id).startTimer toast).clock.running =
      board.clock.running.filter (·.subject ≠ id) ++ board.timerOf toast := by
  rw [(h.stopTimer id).running_startTimer, h.running_stopTimer, timerOf_stopTimer,
    List.filter_comm, h.subject_ne fresh]

/-- A toast is put on the board in one of the three ways, unless there is no room for it. -/
theorem placed (h : board.Sound additions) (toast : Toast) :
    match board.place toast with
    | none => board.NoRoom toast
    | some after => board.Placed toast after.toasts after.clock.running := by
  unfold ToastBoard.place
  cases fresh : board.has toast.id with
  | true =>
    obtain ⟨old, hm, same⟩ := has_iff.mp fresh
    obtain ⟨before, behind, shown⟩ := List.append_of_mem hm
    have replaced := Placed.replacing shown same
    simp only [if_true, toasts_startTimer, h.map_replace shown same, h.running_startTimer]
    exact replaced
  | false =>
    simp only [Bool.false_eq_true, if_false]
    by_cases room : board.toasts.length < capacity
    · have added := Placed.last fresh room
      simp only [room, if_true, toasts_startTimer, h.running_startTimer, h.subject_ne fresh]
      exact added
    · have full : capacity ≤ board.toasts.length := Nat.not_lt.mp room
      simp only [room, if_false]
      cases found : board.toasts.find? (·.dismissal = .transient) with
      | none =>
        refine ⟨fresh, full, fun other hm => dismissal_ne.mp ?_⟩
        simpa using List.find?_eq_none.mp found other hm
      | some oldest =>
        obtain ⟨transient, before, behind, shown, first⟩ := List.find?_eq_some_iff_append.mp found
        have transient : oldest.dismissal = .transient := by simpa using transient
        have first (other : Toast) (hm : other ∈ before) : other.dismissal = .persistent :=
          dismissal_ne.mp (by simpa using first other hm)
        have notBefore : oldest ∉ before := fun hm => by simp [first oldest hm] at transient
        have erased : board.toasts.erase oldest = before ++ behind := by
          rw [shown, List.erase_append_right _ notBefore, List.erase_cons_head]
        simp only [toasts_startTimer, toasts_stopTimer, erased, h.running_instead fresh]
        exact .insteadOf fresh full shown transient first

end Sound

/-! ## Who makes room -/

/-- The toast that makes room for another. -/
def displaced (board : ToastBoard) (toast : Toast) : Option Toast :=
  if board.has toast.id ∨ board.toasts.length < capacity then none
  else board.toasts.find? (·.dismissal = .transient)

theorem displaced_eq_some {before behind : List Toast} {oldest : Toast}
    (fresh : board.has toast.id = false) (full : capacity ≤ board.toasts.length)
    (shown : board.toasts = before ++ oldest :: behind) (transient : oldest.dismissal = .transient)
    (first : ∀ other ∈ before, other.dismissal = .persistent) :
    board.displaced toast = some oldest := by
  have found : board.toasts.find? (·.dismissal = .transient) = some oldest := by
    refine List.find?_eq_some_iff_append.mpr ⟨by simp [transient], before, behind, shown, ?_⟩
    intro other hm
    simp [first other hm]
  rw [displaced, if_neg, found]
  simp [fresh, full]

/-! ## What an addition leaves as it is -/

namespace Placed

variable {toasts : List Toast} {running : List Timer} {other : Toast} {timer : Timer}

theorem mem_self (h : board.Placed toast toasts running) : toast ∈ toasts := by
  cases h <;> simp

theorem mem_toasts (h : board.Placed toast toasts running) (hm : other ∈ toasts) :
    other ∈ board.toasts ∨ other = toast := by
  cases h with
  | replacing shown same =>
    simp only [shown, List.mem_append, List.mem_cons] at hm ⊢
    tauto
  | last fresh room => simpa using hm
  | insteadOf fresh full shown transient first =>
    simp only [shown, List.mem_append, List.mem_cons, List.not_mem_nil] at hm ⊢
    tauto

theorem mem_running (h : board.Placed toast toasts running) (hm : timer ∈ running) :
    timer ∈ board.clock.running ∨ timer ∈ board.timerOf toast := by
  cases h with
  | replacing shown same => exact (List.mem_append.mp hm).imp_left List.mem_of_mem_filter
  | last fresh room => exact List.mem_append.mp hm
  | insteadOf fresh full shown transient first =>
    exact (List.mem_append.mp hm).imp_left List.mem_of_mem_filter

theorem exists_timer (h : board.Placed toast toasts running)
    (transient : toast.dismissal = .transient) :
    ∃ timer ∈ running, timer.subject = toast.id ∧
      timer.due = board.clock.now.add (.ofNat (delayOf toast.timeout)) := by
  have own : ⟨board.clock.started, board.clock.now.add (.ofNat (delayOf toast.timeout)), toast.id⟩ ∈
      board.timerOf toast := mem_timerOf.mpr ⟨transient, rfl⟩
  cases h <;> exact ⟨_, List.mem_append_right _ own, rfl, rfl⟩

/-- Toasts of other ids stay, but for the one that makes room. -/
theorem kept (h : board.Placed toast toasts running) (apart : toast.id ≠ other.id)
    (stays : ∀ oldest, board.displaced toast = some oldest → oldest.id ≠ other.id)
    (on : other ∈ board.toasts) : other ∈ toasts := by
  cases h with
  | @replacing before behind old shown same =>
    have differs : other ≠ old := fun e => apart (e ▸ same.symm)
    have around : other ∈ before ∨ other ∈ behind := by simpa [shown, differs] using on
    exact List.mem_append.mpr (around.imp_right (List.mem_cons_of_mem toast))
  | last fresh room => exact List.mem_append_left _ on
  | @insteadOf before behind oldest fresh full shown transient first =>
    have differs : other ≠ oldest := fun e =>
      stays oldest (displaced_eq_some fresh full shown transient first) (e ▸ rfl)
    have around : other ∈ before ∨ other ∈ behind := by simpa [shown, differs] using on
    exact List.mem_append_left _ (List.mem_append.mpr around)

theorem kept_timer (h : board.Placed toast toasts running) (apart : toast.id ≠ timer.subject)
    (stays : ∀ oldest, board.displaced toast = some oldest → oldest.id ≠ timer.subject)
    (runs : timer ∈ board.clock.running) : timer ∈ running := by
  cases h with
  | replacing shown same =>
    exact List.mem_append_left _ (List.mem_filter.mpr ⟨runs, by simpa using apart.symm⟩)
  | last fresh room => exact List.mem_append_left _ runs
  | insteadOf fresh full shown transient first =>
    have differs := stays _ (displaced_eq_some fresh full shown transient first)
    exact List.mem_append_left _ (List.mem_filter.mpr ⟨runs, by simpa using differs.symm⟩)

end Placed
end KeyPrecedence.ToastBoard
