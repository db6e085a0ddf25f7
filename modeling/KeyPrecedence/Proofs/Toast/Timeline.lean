import KeyPrecedence.Proofs.Routine
import KeyPrecedence.Proofs.Subscribers
import KeyPrecedence.Proofs.Toast.Moments
import KeyPrecedence.Proofs.Toast.Operation

/-!
# Toasts while time goes on

* `ToastTimeline`: the toasts of a host, with the moments they were looked at;
* `ToastListeners.perform`, `ToastListeners.step`: an operation, whose listeners may perform further
  ones, and time that passes;
* `ToastTimeline.Recorded`: each moment is reached from those before it by changes of the board;
* `ToastListeners.keeps_step`: so it stays, whatever is done;
* `ToastListeners.ends_wait`: time that passes brings the clock to the time it should.
-/

namespace KeyPrecedence

open Act

variable {τ ν Op : Type}

/-- Time that passes is not negative. -/
def ToastOp.Forward : ToastOp ν → Prop
  | call _ => True
  | wait ms => (Number.ofNat 0).le ms

/-- The toasts of a host with state `τ`. What has happened, and the moments the board was looked at,
the latest first, only grow, and nobody reads them. -/
structure ToastTimeline (τ ν : Type) where
  host : τ
  moment : ToastMoment := {}
  subscribers : Subscribers ν := {}
  moments : List ToastMoment := []

namespace ToastTimeline

def hostSlot : Slot (ToastTimeline τ ν) τ where
  get := host
  set host scene := { scene with host }

def boardSlot : Slot (ToastTimeline τ ν) ToastBoard where
  get scene := scene.moment.board
  set board scene := { scene with moment := { scene.moment with board } }

def subscribersSlot : Slot (ToastTimeline τ ν) (Subscribers ν) where
  get := subscribers
  set subscribers scene := { scene with subscribers }

def note (events : List ToastEvent) (scene : ToastTimeline τ ν) : ToastTimeline τ ν :=
  { scene with moment := { scene.moment with events := events ++ scene.moment.events } }

/-- What will have happened once a toast was added. -/
def arrive (content : String) (options : ToastOptions) (id : String) (scene : ToastTimeline τ ν) :
    ToastTimeline τ ν :=
  match scene.moment.board.place (options.toast id content) with
  | none => scene
  | some _ => scene.note (scene.moment.board.arrival (options.toast id content))

theorem place_arrive (content : String) (options : ToastOptions) (id : String)
    (scene : ToastTimeline τ ν) (toast : Toast) :
    (scene.arrive content options id).moment.board.place toast = scene.moment.board.place toast := by
  unfold arrive
  split <;> rfl

/-- What will have happened once a call is through. A toast that has no id yet is left to
`named`. -/
def foretell (call : ToastCall ν) (scene : ToastTimeline τ ν) : ToastTimeline τ ν :=
  match call with
  | .add content options => options.id.elim scene fun id => scene.arrive content options id
  | .dismiss id => scene.note [.dismissed id]
  | .dismissTransient => scene.note [.dismissedTransient]
  | .clear => scene.note [.cleared]
  | .glance _ => scene

/-- What will have happened, now that the toast that is added has an id. -/
def named (call : ToastCall ν) (id : String) (scene : ToastTimeline τ ν) : ToastTimeline τ ν :=
  match call with
  | .add content options => scene.arrive content options id
  | _ => scene

def glimpse (scene : ToastTimeline τ ν) : ToastTimeline τ ν :=
  { scene with moments := scene.moment :: scene.moments }

/-- The board is looked at after a step, also when it failed. -/
def looking {α : Type} (act : Act (ToastTimeline τ ν) α) : Act (ToastTimeline τ ν) α :=
  act.followedBy (modify glimpse)

def glance [DecidableEq ν] : ToastGlance ν → Act (ToastTimeline τ ν) ToastAnswer :=
  ToastGlance.perform boardSlot subscribersSlot

end ToastTimeline

/-- What the toasts meet: listeners, which may do anything of `Op` and may fail, a source of ids,
which may come up with ids in use, and what becomes of failures while timers fire. -/
structure ToastListeners (τ ν Op : Type) where
  call : ν → List Toast → Routine τ Op ToastAnswer Unit
  freshId : τ → String × τ
  timerFailed : Fault → τ → τ
  allowance : Nat

namespace ToastListeners

section
variable (around : ToastListeners τ ν Op) (nested : Op → Act (ToastTimeline τ ν) ToastAnswer)

/-- The toasts where listeners perform operations by `nested`. The board is looked at whenever one
is called. -/
def toasts (named : String → ToastTimeline τ ν → ToastTimeline τ ν) :
    ToastHost (ToastTimeline τ ν) ν where
  board := ToastTimeline.boardSlot
  subscribers := ToastTimeline.subscribersSlot
  call member toasts := do
    modify ToastTimeline.glimpse
    (around.call member toasts).run ToastTimeline.hostSlot nested
  freshId := do
    let (id, host) := around.freshId (← ToastTimeline.hostSlot.read)
    ToastTimeline.hostSlot.write host
    modify (named id)
    return id
  timerFailed fault := ToastTimeline.hostSlot.update (around.timerFailed fault)
  allowance := around.allowance

/-- Does what is called for. What happens is noted before, and an addition as soon as its id is
known. -/
def operate [DecidableEq ν] (call : ToastCall ν) : Act (ToastTimeline τ ν) ToastAnswer := do
  modify (ToastTimeline.foretell call)
  (around.toasts nested (ToastTimeline.named call)).operate call

end

variable [DecidableEq ν] (around : ToastListeners τ ν (ToastCall ν))

/-- Performs an operation, where listeners may perform further ones so many deep. -/
def perform : Nat → ToastCall ν → Act (ToastTimeline τ ν) ToastAnswer :=
  Act.nesting fun nested call => ToastTimeline.looking (around.operate nested call)

/-- An operation, or time that passes while timers fire. -/
def step (depth : Nat) : ToastOp ν → Act (ToastTimeline τ ν) ToastAnswer
  | .call call => around.perform depth call
  | .wait ms => ToastTimeline.looking do
    (around.toasts (around.perform depth) fun _ scene => scene).advance ms
    modify fun scene => scene.note [.reached scene.moment.board.clock.now]
    return .nothing

end ToastListeners

/-! ## Every moment is reached from those before it -/

namespace ToastTimeline

variable {forward : Prop} {now : Number} {scene : ToastTimeline τ ν}

/-- All moments, the present one included, are reached from an empty board, and each from those
before it. -/
structure Recorded (forward : Prop) (scene : ToastTimeline τ ν) : Prop where
  reached : ∀ moment ∈ scene.moment :: scene.moments, ToastMoment.Reach forward {} moment
  chain : (scene.moment :: scene.moments).Pairwise fun later earlier =>
    ToastMoment.Reach forward earlier later

theorem recorded_start (host : τ) : Recorded forward ({ host } : ToastTimeline τ ν) where
  reached := List.forall_mem_singleton.mpr .refl
  chain := List.pairwise_singleton _ _

/-- The state of the host has no part in it. -/
theorem Recorded.free (h : scene.Recorded forward) (host : τ) : Recorded forward { scene with host } :=
  ⟨h.reached, h.chain⟩

theorem Recorded.glimpse (h : scene.Recorded forward) : scene.glimpse.Recorded forward where
  reached := List.forall_mem_cons.mpr ⟨h.reached _ (.head _), h.reached⟩
  chain := by
    obtain ⟨past, -⟩ := List.pairwise_cons.mp h.chain
    exact List.pairwise_cons.mpr ⟨List.forall_mem_cons.mpr ⟨.refl, past⟩, h.chain⟩

theorem Recorded.step (h : scene.Recorded forward) {moment : ToastMoment}
    (step : scene.moment.Step forward moment) : Recorded forward { scene with moment } where
  reached := by
    obtain ⟨present, past⟩ := List.forall_mem_cons.mp h.reached
    exact List.forall_mem_cons.mpr ⟨present.tail step, past⟩
  chain := by
    obtain ⟨past, before⟩ := List.pairwise_cons.mp h.chain
    exact List.pairwise_cons.mpr ⟨fun earlier hm => (past earlier hm).tail step, before⟩

/-- The moments are recorded, and the clock shows a time. -/
structure At (forward : Prop) (now : Number) (scene : ToastTimeline τ ν) : Prop extends
    scene.Recorded forward where
  time : scene.moment.board.clock.now = now

theorem At.free (h : scene.At forward now) (host : τ) : At forward now { scene with host } :=
  ⟨h.toRecorded.free host, h.time⟩

theorem At.glimpse (h : scene.At forward now) : scene.glimpse.At forward now :=
  ⟨h.toRecorded.glimpse, h.time⟩

theorem ends_looking {α : Type} {act : Act (ToastTimeline τ ν) α} {inv : ToastTimeline τ ν → Prop}
    (kept : ∀ scene, inv scene → inv scene.glimpse) (h : act.Ends scene fun _ => inv) :
    (looking act).Ends scene fun _ => inv :=
  ends_followedBy_modify.mpr (h.mono fun _ reached => kept reached)

end ToastTimeline

namespace ToastListeners

variable {forward : Prop} {now : Number} {scene : ToastTimeline τ ν}

section
variable {around : ToastListeners τ ν Op} {nested : Op → Act (ToastTimeline τ ν) ToastAnswer}
  {named : String → ToastTimeline τ ν → ToastTimeline τ ν} {inv : ToastTimeline τ ν → Prop}

/-- What listeners leave as it is lasts through a publication. -/
theorem ends_publish (free : ∀ host scene, inv scene → inv { scene with host })
    (looked : ∀ scene, inv scene → inv scene.glimpse)
    (inner : ∀ operation, Keeps inv (nested operation)) {board : ToastBoard}
    (h : inv { scene with moment := { scene.moment with board } }) :
    ((around.toasts nested named).publish board).Ends scene fun _ => inv := by
  refine Slot.ends_write_bind.mpr (Subscribers.keeps_callAll (fun member => ?_) _ _ h)
  refine keeps_bind Slot.keeps_read fun board => ?_
  exact keeps_bind (keeps_modify looked) fun _ => Routine.keeps_run free inner _

/-- However the timers fire, what is left of them is that the clock was brought to the limit:
failures go no further. -/
theorem ends_fireUntil_limit (around : ToastListeners τ ν Op)
    (nested : Op → Act (ToastTimeline τ ν) ToastAnswer)
    (named : String → ToastTimeline τ ν → ToastTimeline τ ν) (limit : Number) (allowance : Nat)
    (scene : ToastTimeline τ ν) :
    ((around.toasts nested named).fireUntil limit allowance).Ends scene fun result reached =>
      result = .ok () ∧ reached.moment.board.clock.now = limit := by
  refine ToastHost.ends_fireUntil (fun _ => True) ?_ ?_ allowance scene trivial
  · intro scene timer _ _
    have guarded : (((around.toasts nested named).dismiss timer.subject).guarded
        (around.toasts nested named).timerFailed).Ends
          { scene with moment := { scene.moment with board := scene.moment.board.fire timer } }
          fun result _ => result = .ok () ∧ True :=
      ends_guarded ends_any fun _ _ _ => ⟨rfl, trivial⟩
    refine Slot.ends_update_bind.mpr (guarded.mono ?_)
    rintro _ _ ⟨rfl, -⟩
    trivial
  · exact fun _ _ _ => ⟨rfl, rfl⟩

/-- A toast is added under a given id. When there is room it is published after what happens was
noted. -/
theorem ends_add_named {post : Except Fault String → ToastTimeline τ ν → Prop} (content : String)
    (options : ToastOptions) (id : String)
    (unplaced : scene.moment.board.place (options.toast id content) = none → post (.ok id) scene)
    (placed : ∀ board, scene.moment.board.place (options.toast id content) = some board →
      ((around.toasts nested named).publish board).Ends
        (scene.note (scene.moment.board.arrival (options.toast id content)))
        fun result reached => post (result.map fun _ => id) reached) :
    ((around.toasts nested named).add content { options with id := some id }).Ends
      (scene.arrive content options id) post := by
  have same := scene.place_arrive content options id (options.toast id content)
  refine ToastHost.ends_add_named (fun room => ?_) fun board room => ?_
  · have room : scene.moment.board.place (options.toast id content) = none := same.symm.trans room
    have unchanged : scene.arrive content options id = scene := by
      simp only [ToastTimeline.arrive, room]
    rw [unchanged]
    exact unplaced room
  · have room : scene.moment.board.place (options.toast id content) = some board :=
      same.symm.trans room
    have noted : scene.arrive content options id =
        scene.note (scene.moment.board.arrival (options.toast id content)) := by
      simp only [ToastTimeline.arrive, room]
    exact noted ▸ placed board room

variable [DecidableEq ν]

/-- A toast is added under the id asked for, or under one the host comes up with. -/
theorem ends_add {post : Except Fault ToastAnswer → ToastTimeline τ ν → Prop} (content : String)
    (options : ToastOptions)
    (unplaced : ∀ id host, (∀ given ∈ options.id, id = given) →
      scene.moment.board.place (options.toast id content) = none →
        post (.ok (.id id)) { scene with host })
    (placed : ∀ id host board, (∀ given ∈ options.id, id = given) →
      scene.moment.board.place (options.toast id content) = some board →
        ((around.toasts nested (ToastTimeline.named (.add content options))).publish board).Ends
          ({ scene with host }.note (scene.moment.board.arrival (options.toast id content)))
          fun result reached => post (result.map fun _ => .id id) reached) :
    (around.operate nested (.add content options)).Ends scene post := by
  have answered (id : String) (host : τ) (given : ∀ given ∈ options.id, id = given) :
      ((around.toasts nested (ToastTimeline.named (.add content options))).add content
        { options with id := some id }).Ends
          (ToastTimeline.arrive content options id { scene with host })
          (Then (fun id => pure (.id id)) post) := by
    refine ends_add_named content options id (unplaced id host given) fun board room => ?_
    refine (placed id host board given room).mono ?_
    rintro (fault | _) reached h <;> exact h
  refine ends_modify_bind.mpr (ends_bind.mpr ?_)
  refine ToastHost.ends_add (fun id asked => ?_) fun unnamed => ?_
  · have foretold : scene.foretell (.add content options) = scene.arrive content options id :=
      congrArg (·.elim scene fun id => scene.arrive content options id) asked
    exact foretold ▸ answered id scene.host (by simp [asked])
  · have untold : scene.foretell (.add content options) = scene :=
      congrArg (·.elim scene fun id => scene.arrive content options id) unnamed
    rw [untold]
    exact answered _ _ (by simp [unnamed])

end

variable {around : ToastListeners τ ν (ToastCall ν)}
  {nested : ToastCall ν → Act (ToastTimeline τ ν) ToastAnswer}
  {named : String → ToastTimeline τ ν → ToastTimeline τ ν}

/-- Operations that take no time. -/
def Steady (forward : Prop) (nested : ToastCall ν → Act (ToastTimeline τ ν) ToastAnswer) : Prop :=
  ∀ now operation, Keeps (ToastTimeline.At forward now) (nested operation)

theorem ends_publish_at (inner : Steady forward nested) {board : ToastBoard}
    (h : ToastTimeline.At forward now { scene with moment := { scene.moment with board } }) :
    ((around.toasts nested named).publish board).Ends scene fun _ => ToastTimeline.At forward now :=
  ends_publish (fun host _ h => h.free host) (fun _ h => h.glimpse) (inner now) h

theorem ends_dismiss_at (inner : Steady forward nested) {id : String}
    (h : ToastTimeline.At forward now
      { scene with moment := { scene.moment with board := (scene.moment.board.remove id).1 } }) :
    ((around.toasts nested named).dismiss id).Ends scene fun _ => ToastTimeline.At forward now :=
  ToastHost.ends_dismiss (ends_publish_at inner h) fun _ => h

/-- A timer fires when it is due, and the clock shows that time until the next one. -/
theorem ends_firing_at (inner : Steady forward nested) (recorded : scene.Recorded forward)
    {limit : Number} {timer : Timer} (next : scene.moment.board.clock.next limit = some timer) :
    ((around.toasts nested named).firing timer).Ends scene
      fun _ => ToastTimeline.At forward timer.due := by
  have step := recorded.step (.fire next)
  have time : ((scene.moment.board.fire timer).remove timer.subject).1.clock.now = timer.due :=
    ToastBoard.now_stopTimer _ _
  exact ToastHost.ends_firing (ends_dismiss_at inner ⟨step, time⟩) fun _ _ h => h.free _

/-- Timers fire one after another, and then the clock is brought to the limit. -/
theorem ends_fireUntil (inner : Steady forward nested) (limit : Number) (allowance : Nat)
    (scene : ToastTimeline τ ν) (recorded : scene.Recorded forward)
    (ahead : forward → limit.IsTime ∧ scene.moment.board.clock.now.le limit) :
    ((around.toasts nested named).fireUntil limit allowance).Ends scene fun result reached =>
      match result with
      | .ok () => (reached.note [.reached reached.moment.board.clock.now]).Recorded forward
      | .error _ => reached.Recorded forward := by
  refine ToastHost.ends_fireUntil (fun scene => scene.Recorded forward ∧
    (forward → limit.IsTime ∧ scene.moment.board.clock.now.le limit)) ?_ ?_ allowance scene
      ⟨recorded, ahead⟩
  · rintro scene timer ⟨recorded, ahead⟩ next
    have due : timer.due.le limit := (Option.filter_eq_some_iff.mp next).2
    refine (ends_firing_at inner recorded next).mono ?_
    rintro (fault | _) reached h
    · exact h.toRecorded
    · exact ⟨h.toRecorded, fun hf => ⟨(ahead hf).1, h.time ▸ due⟩⟩
  · rintro scene ⟨recorded, ahead⟩ next
    have step := recorded.step (.reach next ahead)
    exact ⟨step.reached, step.chain⟩

variable [DecidableEq ν]

theorem keeps_operate (inner : Steady forward nested) :
    Steady forward (around.operate nested) := by
  intro now call scene h
  cases call with
  | add content options =>
    refine ends_add content options (fun id host _ _ => h.free host) ?_
    intro id host board _ placed
    have step := h.toRecorded.step (.place _ placed)
    have time := (ToastBoard.now_place placed).trans h.time
    exact ends_publish_at inner ⟨step.free host, time⟩
  | dismiss id =>
    have step := h.toRecorded.step (.dismiss id)
    have time := (ToastBoard.now_stopTimer _ id).trans h.time
    refine ends_modify_bind.mpr (Ends.bind_pure ?_)
    exact ends_dismiss_at inner ⟨step, time⟩
  | dismissTransient =>
    have step := h.toRecorded.step .dismissTransient
    have time := (ToastBoard.now_removeTransient _).trans h.time
    refine ends_modify_bind.mpr (Ends.bind_pure ?_)
    exact Slot.ends_read_bind.mpr (ends_publish_at inner ⟨step, time⟩)
  | clear =>
    have step := h.toRecorded.step .clear
    have time := (ToastBoard.now_clear _).trans h.time
    refine ends_modify_bind.mpr (Ends.bind_pure ?_)
    exact Slot.ends_read_bind.mpr (ends_publish_at inner ⟨step, time⟩)
  | glance glance => cases glance <;> exact ⟨⟨h.reached, h.chain⟩, h.time⟩

theorem steady_perform (around : ToastListeners τ ν (ToastCall ν)) :
    ∀ depth, Steady forward (around.perform depth) :=
  nesting_of_level (fun _ _ => keeps_exhausted) fun _ inner now call _ h =>
    ToastTimeline.ends_looking (fun _ h => h.glimpse) (keeps_operate inner now call _ h)

/-- Time that passes is recorded as well. Where it only goes forward, nothing is overdue before, so
the limit lies ahead. -/
theorem keeps_step (around : ToastListeners τ ν (ToastCall ν)) (depth : Nat) {step : ToastOp ν}
    (timely : forward → step.Forward) :
    Keeps (ToastTimeline.Recorded forward) (around.step depth step) := by
  intro scene h
  cases step with
  | call call =>
    exact (steady_perform around depth _ call scene ⟨h, rfl⟩).mono fun _ _ kept => kept.toRecorded
  | wait ms =>
    refine ToastTimeline.ends_looking (fun _ h => h.glimpse) ?_
    have ahead (hf : forward) : (scene.moment.board.clock.now.add ms).IsTime ∧
        scene.moment.board.clock.now.le (scene.moment.board.clock.now.add ms) := by
      obtain rfl := eq_true hf
      exact (h.reached _ (.head _)).timely.now.later (timely hf)
    have advanced : ((around.toasts (around.perform depth) fun _ scene => scene).advance ms).Ends
        scene _ :=
      Slot.ends_read_bind.mpr (ends_fireUntil (steady_perform around depth) _ _ scene h ahead)
    exact advanced.bind (fun _ _ kept => kept) fun _ _ kept => kept

/-- When time has passed, the clock shows the sum, and it is noted that it was brought there. -/
theorem ends_wait (around : ToastListeners τ ν (ToastCall ν)) (depth : Nat) (ms : Number)
    (scene : ToastTimeline τ ν) :
    (around.step depth (.wait ms)).Ends scene fun result reached =>
      result = .ok .nothing ∧
        reached.moment.board.clock.now = scene.moment.board.clock.now.add ms ∧
        reached.moment.events.head? = some (.reached (scene.moment.board.clock.now.add ms)) := by
  have brought := ends_fireUntil_limit around (around.perform depth) (fun _ scene => scene)
    (scene.moment.board.clock.now.add ms) around.allowance scene
  have advanced : ((around.toasts (around.perform depth) fun _ scene => scene).advance ms).Ends
      scene _ :=
    Slot.ends_read_bind.mpr brought
  refine ends_attempt_bind.mpr (advanced.bind ?_ ?_)
  · rintro _ reached ⟨-, now⟩
    exact ⟨rfl, now, congrArg (some <| ToastEvent.reached ·) now⟩
  · rintro _ _ ⟨⟨⟩, -⟩

end ToastListeners
end KeyPrecedence
