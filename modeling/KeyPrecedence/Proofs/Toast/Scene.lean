import KeyPrecedence.Proofs.Routine
import KeyPrecedence.Proofs.Subscribers
import KeyPrecedence.Proofs.Toast.Board
import KeyPrecedence.Proofs.Toast.Operation

/-!
# Toasts and the code around them

* `ToastScene`: the toasts of a host, with the additions so far and glimpses of the board;
* `ToastSurroundings.perform`: an operation, whose listeners may perform further ones and fail;
* `toasts_and_timers_agree`: the board is sound whenever it is looked at.
-/

namespace KeyPrecedence

open Act

variable {τ ν : Type}

/-- The id that a toast is to be added under, where the caller has one. -/
def ToastOp.givenId : ToastOp ν → Option String
  | call (.add _ options) => options.id
  | _ => none

/-- The toasts of a host with state `τ`. The additions, the last one first, and the glimpses of the
board only grow, and nobody reads them. -/
structure ToastScene (τ ν : Type) where
  host : τ
  board : ToastBoard := {}
  subscribers : Subscribers ν := {}
  additions : List ToastBoard.Addition := []
  glimpses : List (ToastBoard × List ToastBoard.Addition) := []

namespace ToastScene

def hostSlot : Slot (ToastScene τ ν) τ where
  get := host
  set host scene := { scene with host }

def boardSlot : Slot (ToastScene τ ν) ToastBoard where
  get := board
  set board scene := { scene with board }

def subscribersSlot : Slot (ToastScene τ ν) (Subscribers ν) where
  get := subscribers
  set subscribers scene := { scene with subscribers }

/-- A toast is about to be added under an id. -/
def adding (id : String) (scene : ToastScene τ ν) : ToastScene τ ν :=
  { scene with additions := scene.board.addition id :: scene.additions }

/-- A toast that an operation gives an id is about to be added under it. -/
def naming (operation : ToastOp ν) (scene : ToastScene τ ν) : ToastScene τ ν :=
  operation.givenId.elim scene scene.adding

def glimpse (scene : ToastScene τ ν) : ToastScene τ ν :=
  { scene with glimpses := scene.glimpses ++ [(scene.board, scene.additions)] }

end ToastScene

/-- What the toasts meet: listeners, which may do anything with the toasts and may fail, a source of
ids, which may come up with ids in use, and what becomes of failures while timers fire. -/
structure ToastSurroundings (τ ν : Type) where
  call : ν → List Toast → Routine τ (ToastOp ν) ToastAnswer Unit
  freshId : Act τ String
  timerFailed : Fault → Routine τ (ToastOp ν) ToastAnswer Unit
  allowance : Nat

namespace ToastSurroundings

variable [DecidableEq ν] (around : ToastSurroundings τ ν)

/-- The toasts where operations are performed by `perform`. The board is looked at whenever a
listener is called. -/
def toasts (perform : ToastOp ν → Act (ToastScene τ ν) ToastAnswer) :
    ToastHost (ToastScene τ ν) ν where
  board := ToastScene.boardSlot
  subscribers := ToastScene.subscribersSlot
  call member toasts := do
    modify ToastScene.glimpse
    (around.call member toasts).run ToastScene.hostSlot perform
  freshId := do
    let id ← ToastScene.hostSlot.act around.freshId
    modify (ToastScene.adding id)
    return id
  timerFailed fault := (around.timerFailed fault).run ToastScene.hostSlot perform
  allowance := around.allowance

/-- Does an operation. The id of an addition is noted when it is known. -/
def operate (perform : ToastOp ν → Act (ToastScene τ ν) ToastAnswer) (operation : ToastOp ν) :
    Act (ToastScene τ ν) ToastAnswer := do
  modify (ToastScene.naming operation)
  (around.toasts perform).perform operation

/-- Performs an operation, where listeners may perform further ones so many deep. The board is
looked at after each, also when it failed. -/
def perform : Nat → ToastOp ν → Act (ToastScene τ ν) ToastAnswer :=
  Act.nesting fun nested operation =>
    (around.operate nested operation).followedBy (modify ToastScene.glimpse)

end ToastSurroundings

/-! ## The board stays sound -/

namespace ToastScene

/-- The board is sound, and was whenever it was looked at. -/
def Good (scene : ToastScene τ ν) : Prop :=
  scene.board.Sound scene.additions ∧
    ∀ glimpse ∈ scene.glimpses, glimpse.1.Sound glimpse.2

theorem Good.glimpse {scene : ToastScene τ ν} (h : scene.Good) : scene.glimpse.Good :=
  ⟨h.1, by
    simp only [ToastScene.glimpse, List.mem_append, List.mem_singleton]
    rintro glimpse (hm | rfl)
    · exact h.2 glimpse hm
    · exact h.1⟩

end ToastScene

namespace ToastSurroundings

variable {around : ToastSurroundings τ ν} {perform : ToastOp ν → Act (ToastScene τ ν) ToastAnswer}

theorem keeps_code (inner : ∀ operation, Keeps ToastScene.Good (perform operation)) {α : Type}
    (code : Routine τ (ToastOp ν) ToastAnswer α) :
    Keeps ToastScene.Good (code.run ToastScene.hostSlot perform) :=
  Routine.keeps_run (fun _ _ h => h) inner code

/-- A sound board is published. -/
theorem ends_publish (inner : ∀ operation, Keeps ToastScene.Good (perform operation))
    {board : ToastBoard} {scene : ToastScene τ ν} (h : ToastScene.Good { scene with board }) :
    ((around.toasts perform).publish board).Ends scene fun _ => ToastScene.Good := by
  refine Slot.ends_write_bind.mpr (Subscribers.keeps_callAll (fun member => ?_) _ _ h)
  refine keeps_bind Slot.keeps_read fun board => ?_
  exact keeps_bind (keeps_modify fun _ h => h.glimpse) fun _ => keeps_code inner _

theorem ends_dismiss (inner : ∀ operation, Keeps ToastScene.Good (perform operation)) {id : String}
    {scene : ToastScene τ ν}
    (h : ToastScene.Good { scene with board := (scene.board.remove id).1 }) :
    ((around.toasts perform).dismiss id).Ends scene fun _ => ToastScene.Good :=
  ToastHost.ends_dismiss (ends_publish inner h) fun _ => h

/-- A timer that fires takes its own toast off. -/
theorem ends_firing (inner : ∀ operation, Keeps ToastScene.Good (perform operation))
    {limit : Number} {timer : Timer} {scene : ToastScene τ ν} (h : scene.Good)
    (next : scene.board.clock.next limit = some timer) :
    ((around.toasts perform).firing timer).Ends scene fun _ => ToastScene.Good := by
  have removed : ToastScene.Good
      { scene with board := ((scene.board.fire timer).remove timer.subject).1 } := by
    refine ⟨?_, h.2⟩
    rw [show ((scene.board.fire timer).remove timer.subject).1 = _ from
      congrArg Prod.fst (h.1.remove_fire (Clock.mem_of_next next))]
    exact (h.1.remove timer.subject).setTime timer.due
  exact ToastHost.ends_firing (ends_dismiss inner removed) fun _ => keeps_code inner _

/-- A toast is put on the board right after its addition is noted. -/
theorem ends_add_named (inner : ∀ operation, Keeps ToastScene.Good (perform operation))
    (content : String) (options : ToastOptions) (id : String) {scene : ToastScene τ ν}
    (h : scene.Good) :
    ((around.toasts perform).add content { options with id := some id }).Ends (scene.adding id)
      fun _ => ToastScene.Good := by
  have sound := h.1.place (options.toast id content)
  refine ToastHost.ends_add_named (fun full => ?_) fun board room => ?_
  · rw [show scene.board.place (options.toast id content) = none from full] at sound
    exact ⟨sound, h.2⟩
  · rw [show scene.board.place (options.toast id content) = some board from room] at sound
    exact ends_publish inner ⟨sound, h.2⟩

/-- The id is given, or the host comes up with one; either way its addition is noted at once. -/
theorem ends_add (inner : ∀ operation, Keeps ToastScene.Good (perform operation)) (content : String)
    (options : ToastOptions) {scene : ToastScene τ ν} (h : scene.Good) :
    ((around.toasts perform).add content options).Ends
      (scene.naming (.call (.add content options))) fun _ => ToastScene.Good := by
  refine ToastHost.ends_add (fun id given => ?_) fun unnamed => ?_
  · rw [show scene.naming (.call (.add content options)) = scene.adding id from
      congrArg (·.elim scene scene.adding) given]
    exact ends_add_named inner content options id h
  · rw [show scene.naming (.call (.add content options)) = scene from
      congrArg (·.elim scene scene.adding) unnamed]
    refine (Slot.ends_act _ _ scene).bind ?_ ?_
    · rintro id _ ⟨host, rfl⟩
      have free : ToastScene.Good { scene with host } := h
      exact ends_add_named inner content options id free
    · rintro fault _ ⟨host, rfl⟩
      exact h

variable [DecidableEq ν]

/-- Every operation leaves the board sound, with all that its listeners do. -/
theorem keeps_operate (inner : ∀ operation, Keeps ToastScene.Good (perform operation))
    (operation : ToastOp ν) : Keeps ToastScene.Good (around.operate perform operation) := by
  intro scene h
  refine ends_modify_bind.mpr ?_
  cases operation with
  | call call =>
    cases call with
    | add content options => exact (ends_add inner content options h).bind_pure
    | dismiss id => exact (ends_dismiss inner ⟨h.1.remove id, h.2⟩).bind_pure
    | dismissTransient =>
      exact Ends.bind_pure (Slot.ends_read_bind.mpr (ends_publish inner ⟨h.1.removeTransient, h.2⟩))
    | clear => exact Ends.bind_pure (Slot.ends_read_bind.mpr (ends_publish inner ⟨h.1.clear, h.2⟩))
    | glance glance => cases glance <;> exact h
  | wait ms =>
    refine Ends.bind_pure (ToastHost.keeps_advance ?_ ?_ ms scene h)
    · exact fun scene limit timer h next => ends_firing inner h next
    · exact fun scene now h => ⟨h.1.setTime now, h.2⟩

theorem keeps_perform (around : ToastSurroundings τ ν) :
    ∀ depth operation, Keeps ToastScene.Good (around.perform depth operation) :=
  keeps_nesting fun _ inner operation =>
    keeps_followedBy (keeps_operate inner operation) (keeps_modify fun _ h => h.glimpse)

end ToastSurroundings

/-- Whatever is done with the toasts, whatever listeners do meanwhile and whether they fail or not:
after every operation and whenever a listener is called, the board is sound. It holds at most five
toasts, no two of one id; the timers that run are those of its transient toasts, one for each; and
such a timer is the one that the last addition of its toast started, so that no earlier timer takes
the toast off. -/
theorem toasts_and_timers_agree [DecidableEq ν] (around : ToastSurroundings τ ν) (depth : Nat)
    {α : Type} (code : Routine τ (ToastOp ν) ToastAnswer α) (host : τ) :
    (code.run ToastScene.hostSlot (around.perform depth)).Ends { host } fun _ scene =>
      scene.board.Sound scene.additions ∧
        ∀ glimpse ∈ scene.glimpses, glimpse.1.Sound glimpse.2 :=
  ToastSurroundings.keeps_code (around.keeps_perform depth) code { host }
    ⟨ToastBoard.sound_empty, nofun⟩

end KeyPrecedence
