import Mathlib.Data.List.Nodup
import KeyPrecedence.Proofs.Toast.Placement
import KeyPrecedence.Toast.NotEnabled

/-!
# The toast about a command that cannot run

* `delayOf_duration`: a duration is a delay, but for its fraction;
* `notEnabledToast`: the toast as a whole;
* `ToastHost.run_add_of_none`, `ToastHost.run_add_of_some`: adding a toast of a given id;
* `ToastBoard.Crowded`: there is no room for another toast;
* `ToastBoard.Warned`: a toast is the only one of its id, and its timer has just started;
* `ToastBoard.Told`: what becomes of the toasts, by the settings;
* `ToastBoard.Told.steady`, `ToastBoard.Told.due`: a toast that is up keeps its place, and starts
  over;
* `ToastBoard.Sound.crowded`, `ToastBoard.Sound.warned`: the two ways of asking for a transient
  toast.
-/

namespace KeyPrecedence

/-- A duration is a delay, in whole ms. -/
theorem delayOf_duration (duration : Duration) :
    delayOf (.finite duration.ms) = duration.ms.floor.toNat := by
  have least : (500 : Rat) ≤ duration.ms := duration.least_le
  have most : duration.ms ≤ (30000 : Rat) := duration.le_most
  have above : (1 : Rat) < duration.ms := by grind
  have below : duration.ms < (2147483647 : Rat) := by grind
  have positive : ¬ duration.ms < 0 := by grind
  have long : (Number.ofNat 1).le (.finite duration.ms) = true := by
    simpa [Number.le, Number.lt, Number.ofNat] using .inl above
  have short : (Number.finite duration.ms).le (.ofNat longestDelay) = true := by
    simpa [Number.le, Number.lt, Number.ofNat, longestDelay] using .inl below
  simp [delayOf, long, short, Number.truncate, positive]

/-- The toast about a command of a given name and id. -/
def notEnabledToast (settings : Settings) (name commandId : String) : Toast where
  id := "not-enabled:" ++ commandId
  content := name ++ " is not available right now"
  severity := .warn
  dismissal := .transient
  timeout := .finite settings.notEnabledToastDuration.ms

namespace ToastHost

variable {σ ν : Type} (host : ToastHost σ ν) {content id : String} {options : ToastOptions}
  {state reached : σ}

theorem run_add_of_none (named : options.id = some id)
    (unplaced : (host.board.get state).place (options.toast id content) = none) :
    (host.add content options).run state = .done id state := by
  unfold add
  simp [named, unplaced]

theorem run_add_of_some {board : ToastBoard} (named : options.id = some id)
    (placed : (host.board.get state).place (options.toast id content) = some board)
    (run : (host.publish board).run state = .done () reached) :
    (host.add content options).run state = .done id reached := by
  unfold add
  simp [named, placed, run, -bind_pure_comp]

end ToastHost

/-- Among things told apart by a key, one is found by its key alone. -/
theorem filter_key {α β : Type} [DecidableEq β] {key : α → β} {items : List α} {item : α}
    (distinct : (items.map key).Nodup) (hm : item ∈ items) :
    items.filter (key · = key item) = [item] := by
  induction items with
  | nil => exact nomatch hm
  | cons first rest ih =>
    rw [List.map_cons, List.nodup_cons] at distinct
    obtain ⟨fresh, distinct⟩ := distinct
    obtain rfl | hm := List.mem_cons.mp hm
    · have none : rest.filter (key · = key item) = [] := by
        refine List.filter_eq_nil_iff.mpr fun other ho same => fresh ?_
        exact List.mem_map.mpr ⟨other, ho, by simpa using same⟩
      rw [List.filter_cons_of_pos (by simp), none]
    · have apart : key first ≠ key item := fun same => fresh (same ▸ List.mem_map_of_mem hm)
      rw [List.filter_cons_of_neg (by simpa using apart)]
      exact ih distinct hm

namespace ToastBoard

variable {board after : ToastBoard} {toast : Toast} {additions : List Addition}

/-- Five persistent toasts are up, and none of them has the id. -/
def Crowded (board : ToastBoard) (id : String) : Prop :=
  board.toasts.length = 5 ∧ ∀ toast ∈ board.toasts, toast.dismissal = .persistent ∧ toast.id ≠ id

/-- The only timer for an id is due so many ms from now. -/
def Due (board : ToastBoard) (id : String) (ms : Nat) : Prop :=
  ∃ serial, board.clock.running.filter (·.subject = id) =
    [⟨serial, board.clock.now.add (.ofNat ms), id⟩]

/-- No toast comes, goes or moves, and all but those of an id are as they were. -/
structure Steady (board : ToastBoard) (id : String) (after : ToastBoard) : Prop where
  ids : after.toasts.map (·.id) = board.toasts.map (·.id)
  others : after.toasts.filter (·.id ≠ id) = board.toasts.filter (·.id ≠ id)

/-- A toast is the only one of its id, and its timer has just started. If there was one of the id
before, it has taken its place, and all others and their timers are left alone. -/
structure Warned (board : ToastBoard) (toast : Toast) (ms : Nat) (after : ToastBoard) : Prop where
  only : after.toasts.filter (·.id = toast.id) = [toast]
  due : after.Due toast.id ms
  now : after.clock.now = board.clock.now
  inPlace : board.has toast.id → board.Steady toast.id after ∧
    after.clock.running.filter (·.subject ≠ toast.id) =
      board.clock.running.filter (·.subject ≠ toast.id)

/-- What becomes of the toasts when a command cannot run, by the settings. -/
inductive Told (settings : Settings) (name commandId : String) (board : ToastBoard) :
    ToastBoard → Prop
  | off (h : settings.notEnabledFeedback = false) : Told settings name commandId board board
  | crowded (h : settings.notEnabledFeedback = true)
      (crowded : board.Crowded ("not-enabled:" ++ commandId)) :
    Told settings name commandId board board
  | warned {after : ToastBoard} (h : settings.notEnabledFeedback = true)
      (warned : board.Warned (notEnabledToast settings name commandId)
        settings.notEnabledToastDuration.ms.floor.toNat after) :
    Told settings name commandId board after

namespace Steady

variable {id : String} {last : ToastBoard}

theorem of_toasts_eq (h : after.toasts = board.toasts) : board.Steady id after where
  ids := by rw [h]
  others := by rw [h]

theorem trans (h : board.Steady id after) (h' : after.Steady id last) : board.Steady id last where
  ids := h'.ids.trans h.ids
  others := h'.others.trans h.others

theorem has (h : board.Steady id after) (shown : board.has id) : after.has id := by
  have mem : id ∈ board.toasts.map (·.id) := by simpa [ToastBoard.has] using shown
  rw [← h.ids] at mem
  simpa [ToastBoard.has] using mem

end Steady

namespace Told

variable {settings : Settings} {name commandId : String}

/-- A toast that is up already keeps its place. -/
theorem steady (h : board.Told settings name commandId after)
    (shown : board.has ("not-enabled:" ++ commandId)) :
    board.Steady ("not-enabled:" ++ commandId) after := by
  cases h with
  | off => exact .of_toasts_eq rfl
  | crowded => exact .of_toasts_eq rfl
  | warned _ warned => exact (warned.inPlace shown).1

/-- And its timer starts over. -/
theorem due (h : board.Told settings name commandId after) (on : settings.notEnabledFeedback = true)
    (shown : after.has ("not-enabled:" ++ commandId)) :
    after.Due ("not-enabled:" ++ commandId) settings.notEnabledToastDuration.ms.floor.toNat := by
  cases h with
  | off off => simp [off] at on
  | crowded _ crowded =>
    obtain ⟨toast, hm, same⟩ := has_iff.mp shown
    exact absurd same (crowded.2 toast hm).2
  | warned _ warned => exact warned.due

end Told

theorem Placed.inPlace {toasts : List Toast} {timers : List Timer}
    (h : board.Placed toast toasts timers) (shown : board.has toast.id) :
    toasts.map (·.id) = board.toasts.map (·.id) ∧
    toasts.filter (·.id ≠ toast.id) = board.toasts.filter (·.id ≠ toast.id) ∧
    timers.filter (·.subject ≠ toast.id) = board.clock.running.filter (·.subject ≠ toast.id) := by
  have own : ∀ timer ∈ board.timerOf toast, timer.subject = toast.id :=
    fun timer hm => (mem_timerOf.mp hm).2 ▸ rfl
  cases h with
  | replacing split same => simpa [split, same, List.filter_append] using own
  | last fresh => simp [fresh] at shown
  | insteadOf fresh => simp [fresh] at shown

namespace Sound

/-- What does not fit on the board meets five persistent toasts. -/
theorem crowded (h : board.Sound additions) (unplaced : board.place toast = none) :
    board.Crowded toast.id := by
  have placed := h.placed toast
  rw [unplaced] at placed
  obtain ⟨fresh, full, persistent⟩ := placed
  refine ⟨Nat.le_antisymm h.room full, fun other hm => ⟨persistent other hm, ?_⟩⟩
  exact has_eq_false.mp fresh other hm

/-- What is put on the board has its place and its timer, and leaves the others theirs. -/
theorem warned (h : board.Sound additions) (transient : toast.dismissal = .transient)
    (result : board.place toast = some after) :
    board.Warned toast (delayOf toast.timeout) after := by
  have sound : after.Sound (board.addition toast.id :: additions) := by
    simpa [result] using h.place toast
  have placed : board.Placed toast after.toasts after.clock.running := by
    simpa [result] using h.placed toast
  obtain ⟨timer, running, subject, due⟩ := placed.exists_timer transient
  have now : after.clock.now = board.clock.now := now_place result
  refine ⟨filter_key sound.ids placed.mem_self, ⟨timer.serial, ?_⟩, now, ?_⟩
  · rw [now, ← subject, ← due]
    exact filter_key sound.subjects running
  · intro shown
    obtain ⟨ids, others, timers⟩ := placed.inPlace shown
    exact ⟨⟨ids, others⟩, timers⟩

end Sound
end ToastBoard
end KeyPrecedence
