import Mathlib.Data.List.Nodup
import KeyPrecedence.Toast.Basic

/-!
# Toasts and their timers

* `ToastBoard.Linked`: the timers that run are those in the table, one for each subject;
* `Linked.stopTimer`, `Linked.startTimer`: what stopping and starting do to the timers that run;
* `ToastBoard.Sound`: what is true of the board at any time, with the additions so far;
* `Sound.place`, `Sound.remove`, `Sound.removeTransient`, `Sound.clear`: every change keeps it, and
  `Sound.fire` is the one a timer makes.
-/

namespace KeyPrecedence

namespace Table

variable {κ α : Type} [DecidableEq κ]

theorem mem_of_find? {table : Table κ α} {key : κ} {value : α} (h : table.find? key = some value) :
    (key, value) ∈ table.entries := by
  obtain ⟨entry, he, rfl⟩ := Option.map_eq_some_iff.mp h
  have hk : entry.1 = key := by simpa using List.find?_some he
  exact hk ▸ List.mem_of_find?_eq_some he

end Table

theorem Clock.mem_foldl_stop {entries : List (String × Nat)} {clock : Clock} {timer : Timer}
    (h : timer ∈ (entries.foldl (fun clock (_, serial) => clock.stop serial) clock).running) :
    timer ∈ clock.running ∧ ∀ entry ∈ entries, timer.serial ≠ entry.2 := by
  induction entries generalizing clock with
  | nil => exact ⟨h, nofun⟩
  | cons entry entries ih =>
    obtain ⟨hm, hs⟩ := ih h
    obtain ⟨hm, hn⟩ := List.mem_filter.mp hm
    exact ⟨hm, List.forall_mem_cons.mpr ⟨by simpa using hn, hs⟩⟩

theorem Clock.mem_of_earliest : ∀ {running : List Timer} {timer : Timer},
    earliest running = some timer → timer ∈ running
  | first :: rest, timer, h => by
    rw [earliest] at h
    cases hr : earliest rest with
    | none =>
      rw [hr] at h
      cases h
      exact .head _
    | some other =>
      simp only [hr] at h
      split at h <;> cases h
      · exact .head _
      · exact .tail _ (mem_of_earliest hr)

/-- Only a timer that runs fires. -/
theorem Clock.mem_of_next {clock : Clock} {limit : Number} {timer : Timer}
    (h : clock.next limit = some timer) : timer ∈ clock.running :=
  mem_of_earliest (Option.filter_eq_some_iff.mp h).1

namespace ToastBoard

variable {board : ToastBoard}

/-- The timers that run are those in the table: one for each subject, under the subject's id. -/
structure Linked (board : ToastBoard) : Prop where
  subjects : (board.clock.running.map (·.subject)).Nodup
  serials : (board.clock.running.map (·.serial)).Nodup
  fresh : ∀ timer ∈ board.clock.running, timer.serial < board.clock.started
  table : ∀ id, board.timers.find? id =
    (board.clock.running.find? (·.subject = id)).map (·.serial)

/-! ## Stopping and starting -/

@[simp]
theorem toasts_stopTimer (board : ToastBoard) (id : String) :
    (board.stopTimer id).toasts = board.toasts := by
  unfold stopTimer
  split <;> rfl

@[simp]
theorem now_stopTimer (board : ToastBoard) (id : String) :
    (board.stopTimer id).clock.now = board.clock.now := by
  unfold stopTimer
  split <;> rfl

@[simp]
theorem started_stopTimer (board : ToastBoard) (id : String) :
    (board.stopTimer id).clock.started = board.clock.started := by
  unfold stopTimer
  split <;> rfl

@[simp]
theorem toasts_startTimer (board : ToastBoard) (toast : Toast) :
    (board.startTimer toast).toasts = board.toasts := by
  unfold startTimer
  cases toast.dismissal <;> simp

/-- Timers do not depend on what else is shown. -/
theorem startTimer_with (board : ToastBoard) (toasts : List Toast) (toast : Toast) :
    startTimer { board with toasts } toast = { board.startTimer toast with toasts } := by
  unfold startTimer stopTimer
  cases board.timers.find? toast.id <;> cases toast.dismissal <;> rfl

theorem find?_stopTimer (board : ToastBoard) (id other : String) :
    (board.stopTimer id).timers.find? other =
      if id = other then none else board.timers.find? other := by
  unfold stopTimer
  cases hf : board.timers.find? id with
  | none =>
    by_cases he : id = other
    · simp [← he, hf]
    · simp [he]
  | some serial => exact board.timers.find?_erase id other

/-- The timer a toast gets, if it gets one. -/
def timerOf (board : ToastBoard) (toast : Toast) : List Timer :=
  match toast.dismissal with
  | .persistent => []
  | .transient =>
    [⟨board.clock.started, board.clock.now.add (.ofNat (delayOf toast.timeout)), toast.id⟩]

theorem mem_timerOf {toast : Toast} {timer : Timer} :
    timer ∈ board.timerOf toast ↔ toast.dismissal = .transient ∧
      timer = ⟨board.clock.started, board.clock.now.add (.ofNat (delayOf toast.timeout)),
        toast.id⟩ := by
  unfold timerOf
  cases toast.dismissal <;> simp

namespace Linked

theorem eq_of_subject (h : board.Linked) {timer other : Timer} (ht : timer ∈ board.clock.running)
    (ho : other ∈ board.clock.running) (same : timer.subject = other.subject) : timer = other :=
  List.inj_on_of_nodup_map h.subjects ht ho same

theorem eq_of_serial (h : board.Linked) {timer other : Timer} (ht : timer ∈ board.clock.running)
    (ho : other ∈ board.clock.running) (same : timer.serial = other.serial) : timer = other :=
  List.inj_on_of_nodup_map h.serials ht ho same

/-- The table knows the timer of a subject. -/
theorem find?_table (h : board.Linked) {timer : Timer} (ht : timer ∈ board.clock.running) :
    board.timers.find? timer.subject = some timer.serial := by
  rw [h.table]
  cases hf : board.clock.running.find? (·.subject = timer.subject) with
  | none => exact absurd (by simp) (List.find?_eq_none.mp hf timer ht)
  | some other =>
    have same : other.subject = timer.subject := by simpa using List.find?_some hf
    rw [h.eq_of_subject (List.mem_of_find?_eq_some hf) ht same]
    rfl

/-- Stopping a subject's timer is stopping the timer of that serial number. -/
theorem filter_serial (h : board.Linked) {timer : Timer} (ht : timer ∈ board.clock.running) :
    board.clock.running.filter (·.serial ≠ timer.serial) =
      board.clock.running.filter (·.subject ≠ timer.subject) := by
  refine List.filter_congr fun other ho => ?_
  refine decide_eq_decide.mpr (not_congr ⟨fun same => ?_, fun same => ?_⟩)
  · rw [h.eq_of_serial ho ht same]
  · rw [h.eq_of_subject ho ht same]

theorem running_stopTimer (h : board.Linked) (id : String) :
    (board.stopTimer id).clock.running = board.clock.running.filter (·.subject ≠ id) := by
  unfold ToastBoard.stopTimer
  have known := h.table id
  cases hf : board.clock.running.find? (·.subject = id) with
  | none =>
    rw [hf] at known
    rw [known]
    refine (List.filter_eq_self.mpr fun timer ht => ?_).symm
    simpa using List.find?_eq_none.mp hf timer ht
  | some timer =>
    rw [hf] at known
    rw [known]
    have hs : timer.subject = id := by simpa using List.find?_some hf
    exact hs ▸ h.filter_serial (List.mem_of_find?_eq_some hf)

theorem stopTimer (h : board.Linked) (id : String) : (board.stopTimer id).Linked := by
  have running := h.running_stopTimer id
  have kept : (board.stopTimer id).clock.running.Sublist board.clock.running :=
    running ▸ List.filter_sublist
  refine ⟨h.subjects.sublist (kept.map _), h.serials.sublist (kept.map _), ?_, fun other => ?_⟩
  · intro timer ht
    rw [started_stopTimer]
    exact h.fresh timer (kept.subset ht)
  · rw [find?_stopTimer, running, List.find?_filter, h.table]
    split
    · subst_vars
      rw [eq_comm, Option.map_eq_none_iff, List.find?_eq_none]
      simp
    · rename_i hn
      congr 2
      funext timer
      by_cases ht : timer.subject = other <;> simp [ht, Ne.symm hn]

/-- The timers of several toasts are stopped. -/
theorem stopAll (h : board.Linked) (toasts : List Toast) :
    (toasts.foldl (fun board toast => board.stopTimer toast.id) board).Linked ∧
      (toasts.foldl (fun board toast => board.stopTimer toast.id) board).toasts = board.toasts ∧
      (toasts.foldl (fun board toast => board.stopTimer toast.id) board).clock.running =
        board.clock.running.filter fun timer => toasts.all (·.id ≠ timer.subject) := by
  induction toasts generalizing board with
  | nil => exact ⟨h, rfl, by simp⟩
  | cons toast toasts ih =>
    obtain ⟨linked, shown, running⟩ := ih (h.stopTimer toast.id)
    refine ⟨linked, shown.trans (board.toasts_stopTimer _), running.trans ?_⟩
    rw [h.running_stopTimer, List.filter_filter]
    refine List.filter_congr fun timer _ => ?_
    simp [Bool.and_comm, eq_comm]

/-- The timers that a toast has from now on. -/
theorem running_startTimer (h : board.Linked) (toast : Toast) :
    (board.startTimer toast).clock.running =
      board.clock.running.filter (·.subject ≠ toast.id) ++ board.timerOf toast := by
  unfold ToastBoard.startTimer timerOf
  cases toast.dismissal with
  | persistent => simp [h.running_stopTimer]
  | transient => simp [Clock.start, h.running_stopTimer]

/-- A timer is started for a subject that has none. -/
theorem start (h : board.Linked) {id : String}
    (free : ∀ timer ∈ board.clock.running, timer.subject ≠ id) (ms : Number) :
    Linked { board with
      timers := board.timers.insert id board.clock.started
      clock := (board.clock.start ms id).2 } := by
  refine ⟨?_, ?_, ?_, fun other => ?_⟩
  · simp only [Clock.start, List.map_append, List.map_cons, List.map_nil]
    refine h.subjects.append (List.nodup_singleton _) (List.disjoint_singleton.mpr ?_)
    simpa using free
  · simp only [Clock.start, List.map_append, List.map_cons, List.map_nil]
    refine h.serials.append (List.nodup_singleton _) (List.disjoint_singleton.mpr ?_)
    simpa using fun timer ht => Nat.ne_of_lt (h.fresh timer ht)
  · intro timer ht
    obtain ht | ht := List.mem_append.mp ht
    · exact Nat.lt_succ_of_lt (h.fresh timer ht)
    · cases List.mem_singleton.mp ht
      exact Nat.lt_succ_self _
  · simp only [Clock.start, Table.find?_insert, List.find?_append, h.table]
    by_cases he : id = other
    · have none : board.clock.running.find? (·.subject = other) = none :=
        List.find?_eq_none.mpr fun timer ht => by simpa [← he] using free timer ht
      simp [none, he]
    · simp [he]

theorem startTimer (h : board.Linked) (toast : Toast) : (board.startTimer toast).Linked := by
  have stopped := h.stopTimer toast.id
  unfold ToastBoard.startTimer
  cases toast.dismissal with
  | persistent => exact stopped
  | transient =>
    refine stopped.start (fun timer ht => ?_) toast.timeout
    rw [h.running_stopTimer] at ht
    simpa using (List.mem_filter.mp ht).2

end Linked

/-! ## The board as a whole -/

/-- A toast is asked for under an id, at a time, and the timer it gets has a serial number. -/
structure Addition where
  id : String
  time : Number
  serial : Nat
  deriving DecidableEq, Repr

/-- The addition of a toast with an id to the board as it is. -/
def addition (board : ToastBoard) (id : String) : Addition :=
  ⟨id, board.clock.now, board.clock.started⟩

/-- What is true of the board after the additions so far, the last of them first: it holds at most
five toasts, no two of one id; the timers that run are those of the transient toasts, one for each;
and each is the one that the last addition of its toast started, due when that said. -/
structure Sound (board : ToastBoard) (additions : List Addition) : Prop extends board.Linked where
  room : board.toasts.length ≤ capacity
  ids : (board.toasts.map (·.id)).Nodup
  transient : ∀ id, id ∈ board.clock.running.map (·.subject) ↔
    ∃ toast ∈ board.toasts, toast.id = id ∧ toast.dismissal = .transient
  current : ∀ timer ∈ board.clock.running, ∀ toast ∈ board.toasts, toast.id = timer.subject →
    ∃ addition, additions.find? (·.id = toast.id) = some addition ∧
      timer.serial = addition.serial ∧
      timer.due = addition.time.add (.ofNat (delayOf toast.timeout))

theorem sound_empty : Sound {} [] where
  subjects := List.nodup_nil
  serials := List.nodup_nil
  fresh := nofun
  table _ := rfl
  room := Nat.zero_le _
  ids := List.nodup_nil
  transient := by simp
  current := nofun

namespace Sound

variable {additions : List Addition} {after : ToastBoard}

/-- Some toasts go, and their timers with them. -/
theorem restrict (h : board.Sound additions) (linked : after.Linked) (stays : String → Bool)
    (toasts : after.toasts = board.toasts.filter fun toast => stays toast.id)
    (running : after.clock.running = board.clock.running.filter fun timer => stays timer.subject) :
    after.Sound additions where
  toLinked := linked
  room := by
    rw [toasts]
    exact Nat.le_trans (List.length_filter_le _ _) h.room
  ids := by
    rw [toasts]
    exact h.ids.sublist (List.filter_sublist.map _)
  transient id := by
    have ht := h.transient id
    simp only [toasts, running, List.mem_map, List.mem_filter] at ht ⊢
    constructor
    · rintro ⟨timer, ⟨hm, hs⟩, rfl⟩
      obtain ⟨toast, hm, he, hd⟩ := ht.mp ⟨timer, hm, rfl⟩
      exact ⟨toast, ⟨hm, he ▸ hs⟩, he, hd⟩
    · rintro ⟨toast, ⟨hm, hs⟩, rfl, hd⟩
      obtain ⟨timer, hm, he⟩ := ht.mpr ⟨toast, hm, rfl, hd⟩
      exact ⟨timer, ⟨hm, he ▸ hs⟩, he⟩
  current timer ht toast hm := by
    rw [running] at ht
    rw [toasts] at hm
    exact h.current timer (List.mem_of_mem_filter ht) toast (List.mem_of_mem_filter hm)

/-- Two toasts of one id are the same. -/
theorem eq_of_id (h : board.Sound additions) {toast other : Toast} (ht : toast ∈ board.toasts)
    (ho : other ∈ board.toasts) (same : toast.id = other.id) : toast = other :=
  List.inj_on_of_nodup_map h.ids ht ho same

/-- A toast is put on the board, in the place of the one with its id or where there is room. -/
theorem put (h : board.Sound additions) (toast : Toast) {toasts : List Toast}
    (room : toasts.length ≤ capacity) (ids : (toasts.map (·.id)).Nodup)
    (members : ∀ t, t ∈ toasts ↔ (t ∈ board.toasts ∧ t.id ≠ toast.id) ∨ t = toast) :
    Sound { board.startTimer toast with toasts } (board.addition toast.id :: additions) where
  toLinked := { h.toLinked.startTimer toast with }
  room := room
  ids := ids
  transient id := by
    have ht := h.transient id
    simp only [h.running_startTimer, List.map_append, List.mem_append, List.mem_map, List.mem_filter,
      mem_timerOf, members] at ht ⊢
    constructor
    · rintro (⟨timer, ⟨hm, hs⟩, rfl⟩ | ⟨timer, ⟨hd, rfl⟩, rfl⟩)
      · obtain ⟨t, hm, he, hd⟩ := ht.mp ⟨timer, hm, rfl⟩
        exact ⟨t, .inl ⟨hm, by simpa [he] using hs⟩, he, hd⟩
      · exact ⟨toast, .inr rfl, rfl, hd⟩
    · rintro ⟨t, ⟨hm, hn⟩ | rfl, rfl, hd⟩
      · obtain ⟨timer, hm, he⟩ := ht.mpr ⟨t, hm, rfl, hd⟩
        exact .inl ⟨timer, ⟨hm, by simpa [he] using hn⟩, he⟩
      · exact .inr ⟨_, ⟨hd, rfl⟩, rfl⟩
  current timer ht t hm he := by
    rw [h.running_startTimer, List.mem_append, List.mem_filter, mem_timerOf] at ht
    obtain ⟨ht, hs⟩ | ⟨hd, rfl⟩ := ht
    · have hs : timer.subject ≠ toast.id := by simpa using hs
      have hn : toast.id ≠ t.id := fun e => hs (he ▸ e.symm)
      obtain ⟨hm, -⟩ | rfl := (members t).mp hm
      · rw [List.find?_cons_of_neg (by simp [addition, hn])]
        exact h.current timer ht t hm he
      · exact absurd rfl hn
    · obtain ⟨-, hn⟩ | rfl := (members t).mp hm
      · exact absurd he hn
      · exact ⟨_, List.find?_cons_of_pos (by simp [addition]), rfl, rfl⟩

/-- An addition that finds no room changes nothing, and nothing is due to it. -/
theorem drop (h : board.Sound additions) {id : String} (absent : board.has id = false) :
    board.Sound (board.addition id :: additions) :=
  { h with
    current := fun timer ht toast hm he => by
      have hn : id ≠ toast.id := by
        rintro rfl
        simp only [has, List.any_eq_false, decide_eq_true_eq] at absent
        exact absent toast hm rfl
      rw [List.find?_cons_of_neg (by simp [addition, hn])]
      exact h.current timer ht toast hm he }

theorem setTime (h : board.Sound additions) (now : Number) : (board.setTime now).Sound additions :=
  { h with }

theorem remove (h : board.Sound additions) (id : String) : (board.remove id).1.Sound additions :=
  h.restrict { h.stopTimer id with } (· ≠ id) (by simp [ToastBoard.remove]) (h.running_stopTimer id)

/-- A timer that fires takes the toast off that it was started for, as if that was dismissed. -/
theorem remove_fire (h : board.Sound additions) {timer : Timer} (ht : timer ∈ board.clock.running) :
    (board.fire timer).remove timer.subject =
      ((board.remove timer.subject).1.setTime timer.due, true) := by
  have shown : board.has timer.subject = true := by
    obtain ⟨toast, hm, he, -⟩ := (h.transient timer.subject).mp (List.mem_map_of_mem ht)
    exact List.any_eq_true.mpr ⟨toast, hm, by simpa using he⟩
  have stopped : (board.fire timer).stopTimer timer.subject = board.fire timer := by
    unfold ToastBoard.stopTimer
    rw [show (board.fire timer).timers.find? timer.subject = none from
      (board.timers.find?_erase _ _).trans (if_pos rfl)]
  unfold ToastBoard.remove
  rw [stopped]
  refine Prod.ext ?_ shown
  rw [ToastBoard.stopTimer, h.find?_table ht]
  rfl

/-- Of the transient toasts none is left. -/
theorem removeTransient (h : board.Sound additions) : board.removeTransient.Sound additions := by
  let gone : List Toast := board.toasts.filter (·.dismissal = .transient)
  obtain ⟨linked, shown, running⟩ := h.stopAll gone
  have kept : board.removeTransient.toasts = board.toasts.filter (·.dismissal = .persistent) :=
    congrArg (List.filter _) shown
  refine h.restrict { linked with } (fun id => gone.all (·.id ≠ id)) (kept.trans ?_) running
  refine List.filter_congr fun toast hm => ?_
  rw [Bool.eq_iff_iff, decide_eq_true_eq, List.all_eq_true]
  constructor
  · intro persistent other ho
    obtain ⟨ho, hd⟩ := List.mem_filter.mp ho
    refine decide_eq_true fun same => ?_
    rw [h.eq_of_id ho hm same, persistent] at hd
    cases hd
  · intro others
    cases hd : toast.dismissal with
    | persistent => rfl
    | transient =>
      have hn := others toast (List.mem_filter.mpr ⟨hm, by simp [hd]⟩)
      simp at hn

theorem clear (h : board.Sound additions) : board.clear.Sound additions := by
  have stopped : board.clear.clock.running = [] := by
    refine List.eq_nil_iff_forall_not_mem.mpr fun timer ht => ?_
    obtain ⟨ht, hs⟩ := Clock.mem_foldl_stop ht
    exact hs _ (Table.mem_of_find? (h.find?_table ht)) rfl
  refine h.restrict ⟨?_, ?_, ?_, ?_⟩ (fun _ => false) (by simp [ToastBoard.clear]) (by simp [stopped])
  · simp [stopped]
  · simp [stopped]
  · simp [stopped]
  · intro id
    rw [stopped]
    rfl

/-- A toast of an id that is not shown comes at the end. -/
theorem append (h : board.Sound additions) {toast : Toast} (absent : board.has toast.id = false)
    (room : board.toasts.length < capacity) :
    Sound { board.startTimer toast with toasts := board.toasts ++ [toast] }
      (board.addition toast.id :: additions) := by
  have others (t : Toast) (ht : t ∈ board.toasts) : t.id ≠ toast.id := by
    simpa using List.any_eq_false.mp absent t ht
  refine h.put toast (by rw [List.length_append]; exact room) ?_ fun t => ?_
  · simpa [List.nodup_append, h.ids] using others
  · rw [List.mem_append, List.mem_singleton]
    exact or_congr_left ⟨fun ht => ⟨ht, others t ht⟩, And.left⟩

/-- A toast of an id that is shown takes the other one's place. -/
theorem replace (h : board.Sound additions) {toast : Toast} (shown : board.has toast.id = true) :
    Sound { board.startTimer toast with
      toasts := board.toasts.map fun t => if t.id = toast.id then toast else t }
      (board.addition toast.id :: additions) := by
  have ids : (board.toasts.map fun t => if t.id = toast.id then toast else t).map (·.id) =
      board.toasts.map (·.id) := by
    rw [List.map_map]
    refine List.map_congr_left fun t _ => ?_
    simp only [Function.comp_apply]
    split <;> simp_all
  refine h.put toast (by rw [List.length_map]; exact h.room) (ids ▸ h.ids) fun t => ?_
  rw [List.mem_map]
  constructor
  · rintro ⟨other, hm, rfl⟩
    split
    · exact .inr rfl
    · exact .inl ⟨hm, ‹_›⟩
  · rintro (⟨hm, hn⟩ | rfl)
    · exact ⟨t, hm, if_neg hn⟩
    · obtain ⟨other, hm, he⟩ := List.any_eq_true.mp shown
      exact ⟨other, hm, if_pos (by simpa using he)⟩

/-- The oldest transient toast makes room. -/
theorem evict (h : board.Sound additions) {toast oldest : Toast}
    (absent : board.has toast.id = false) (member : oldest ∈ board.toasts) :
    Sound { (board.stopTimer oldest.id).startTimer toast with
      toasts := board.toasts.erase oldest ++ [toast] } (board.addition toast.id :: additions) := by
  have erased : board.toasts.erase oldest = board.toasts.filter (·.id ≠ oldest.id) := by
    rw [(h.ids.of_map _).erase_eq_filter]
    refine List.filter_congr fun t ht => ?_
    by_cases he : t = oldest
    · simp [he]
    · have hn : t.id ≠ oldest.id := fun same => he (h.eq_of_id ht member same)
      simp [he, hn]
  have removed : Sound { board.stopTimer oldest.id with toasts := board.toasts.erase oldest }
      additions :=
    h.restrict { h.stopTimer oldest.id with } (· ≠ oldest.id) erased (h.running_stopTimer _)
  have others : has { board.stopTimer oldest.id with toasts := board.toasts.erase oldest } toast.id =
      false :=
    List.any_eq_false.mpr fun t ht => List.any_eq_false.mp absent t (List.mem_of_mem_erase ht)
  have room : (board.toasts.erase oldest).length < capacity := by
    rw [List.length_erase_of_mem member]
    exact Nat.lt_of_lt_of_le (Nat.sub_one_lt_of_lt (List.length_pos_of_mem member)) h.room
  have added := removed.append others room
  rw [startTimer_with] at added
  simpa [addition] using added

/-- A toast that is added replaces the one of its id, or comes at the end, where the oldest
transient toast may have made room for it; or there is no room. -/
theorem place (h : board.Sound additions) (toast : Toast) :
    match board.place toast with
    | none => board.Sound (board.addition toast.id :: additions)
    | some after => after.Sound (board.addition toast.id :: additions) := by
  unfold ToastBoard.place
  cases hs : board.has toast.id with
  | true =>
    simp only [if_true, toasts_startTimer]
    exact h.replace hs
  | false =>
    simp only [Bool.false_eq_true, if_false]
    by_cases room : board.toasts.length < capacity
    · simp only [room, if_true, toasts_startTimer]
      exact h.append hs room
    · simp only [room, if_false]
      cases hf : board.toasts.find? (·.dismissal = .transient) with
      | none => exact h.drop hs
      | some oldest =>
        simp only [toasts_startTimer, toasts_stopTimer]
        exact h.evict hs (List.mem_of_find?_eq_some hf)

end Sound
end ToastBoard
end KeyPrecedence
