import KeyPrecedence.Proofs.Toast.Alike
import KeyPrecedence.Proofs.Toast.Timeline

/-!
# What subscribers to the toasts receive

* `ToastDelivery`: the toasts of a host, with the lists that listeners were given and what was there
  before and after every operation and every timer that fired;
* `ToastHost.fireUntilWatched`: timers that fire, each of them watched;
* `ToastDelivery.Follows`: the listeners a round of calls has come to have the present list;
* `ToastDelivery.Follows.turn`, `ToastDelivery.ends_publish`: one turn of a round, and a whole
  round, however many rounds it sets off;
* `ToastDelivery.attentive_perform`, `ToastDelivery.keeps_step`: so it stays through every operation
  and through time that passes;
* `ToastDelivery.alike_step`: what is noted of them makes no difference;
* `subscribers_end_up_current`: any run.
-/

namespace KeyPrecedence

open Act

/-- Taking off a toast that is not shown leaves the list as it is. -/
theorem ToastBoard.toasts_remove_of_not_has {board : ToastBoard} {id : String}
    (absent : board.has id = false) : (board.remove id).1.toasts = board.toasts := by
  have others := ToastBoard.has_eq_false.mp absent
  simpa [ToastBoard.remove, ToastBoard.toasts_stopTimer] using others

/-! ## Timers one by one -/

namespace ToastHost

variable {σ σ' ν : Type}

/-- Fires what is due up to a point in time, where somebody may watch each timer. -/
def fireUntilWatched (host : ToastHost σ ν) (watch : Act σ Unit → Act σ Unit) (limit : Number) :
    Nat → Act σ Unit
  | 0 => .exhausted
  | allowance + 1 => do
    match (← host.board.read).clock.next limit with
    | none => host.board.update (·.setTime limit)
    | some timer => do
      watch (host.firing timer)
      fireUntilWatched host watch limit allowance

/-- Where it makes no difference that a timer is watched, time passes as it does. -/
theorem Alike.fireUntilWatched {states : σ → σ' → Prop} {host : ToastHost σ ν}
    {other : ToastHost σ' ν} (alike : host.Alike states other) {watch : Act σ Unit → Act σ Unit}
    (watched : ∀ {act other}, Act.Alike states Eq act other → Act.Alike states Eq (watch act) other)
    (limit : Number) : ∀ allowance, Act.Alike states Eq
      (host.fireUntilWatched watch limit allowance) (other.fireUntil limit allowance)
  | 0 => alike_exhausted
  | allowance + 1 => by
    apply alike_bind_eq alike.board.read
    intro board
    cases board.clock.next limit with
    | none => exact alike.board.update (·.setTime limit)
    | some timer =>
      have rest := alike.fireUntilWatched watched limit allowance
      exact alike_bind_eq (watched (alike.firing timer)) fun _ => rest

end ToastHost

/-! ## Deliveries -/

/-- A listener is given a list, or some listener fails. -/
inductive Delivery (ν : Type)
  | given (member : ν) (toasts : List Toast)
  | failed
  deriving DecidableEq

/-- The last list a listener was given, where the deliveries come with the last one first. -/
def lastGiven {ν : Type} [DecidableEq ν] (member : ν) : List (Delivery ν) → Option (List Toast)
  | [] => none
  | .given other toasts :: earlier =>
    if other = member then some toasts else lastGiven member earlier
  | .failed :: earlier => lastGiven member earlier

/-- What is there at one moment. -/
structure DeliverySnapshot (ν : Type) where
  toasts : List Toast
  subscribers : Subscribers ν
  deliveries : List (Delivery ν)

/-- An operation or a timer that fired, from one moment to another. -/
structure DeliveryEpisode (ν : Type) where
  before : DeliverySnapshot ν
  after : DeliverySnapshot ν

variable {τ ν : Type}

/-- The toasts of a host with state `τ`. The deliveries and the episodes, the last one first, only
grow, and nobody reads them. -/
structure ToastDelivery (τ ν : Type) where
  host : τ
  board : ToastBoard := {}
  subscribers : Subscribers ν := {}
  deliveries : List (Delivery ν) := []
  episodes : List (DeliveryEpisode ν) := []

namespace ToastDelivery

def hostSlot : Slot (ToastDelivery τ ν) τ where
  get := host
  set host scene := { scene with host }

def boardSlot : Slot (ToastDelivery τ ν) ToastBoard where
  get := board
  set board scene := { scene with board }

def subscribersSlot : Slot (ToastDelivery τ ν) (Subscribers ν) where
  get := subscribers
  set subscribers scene := { scene with subscribers }

def deliver (delivery : Delivery ν) (scene : ToastDelivery τ ν) : ToastDelivery τ ν :=
  { scene with deliveries := delivery :: scene.deliveries }

def snapshot (scene : ToastDelivery τ ν) : DeliverySnapshot ν :=
  ⟨scene.board.toasts, scene.subscribers, scene.deliveries⟩

/-- What is there before and after a step is noted, also when it fails. -/
def noted {α : Type} (act : Act (ToastDelivery τ ν) α) : Act (ToastDelivery τ ν) α := do
  let before := (← get).snapshot
  act.followedBy (modify fun scene =>
    { scene with episodes := ⟨before, scene.snapshot⟩ :: scene.episodes })

variable (around : ToastListeners τ ν (ToastCall ν))

/-- The toasts where listeners perform operations by `nested`. -/
def toasts (nested : ToastCall ν → Act (ToastDelivery τ ν) ToastAnswer) :
    ToastHost (ToastDelivery τ ν) ν where
  board := boardSlot
  subscribers := subscribersSlot
  call member toasts := do
    modify (deliver (.given member toasts))
    match ← ((around.call member toasts).run hostSlot nested).attempt with
    | .ok () => pure ()
    | .error fault => do
      modify (deliver .failed)
      .fail fault
  freshId := do
    let (id, host) := around.freshId (← hostSlot.read)
    hostSlot.write host
    return id
  timerFailed fault := hostSlot.update (around.timerFailed fault)
  allowance := around.allowance

variable [DecidableEq ν]

/-- Performs an operation, where listeners may perform further ones so many deep. -/
def perform : Nat → ToastCall ν → Act (ToastDelivery τ ν) ToastAnswer :=
  Act.nesting fun nested => (toasts around nested).operate

/-- Time passes, and every timer that fires meanwhile is noted. -/
def wait (depth : Nat) (ms : Number) : Act (ToastDelivery τ ν) Unit := do
  let host := toasts around (perform around depth)
  let board ← boardSlot.read
  host.fireUntilWatched noted (board.clock.now.add ms) around.allowance

/-- What is done by nobody's listener: an operation, or time that passes. -/
def plainly (depth : Nat) : ToastOp ν → Act (ToastDelivery τ ν) ToastAnswer
  | .call call => perform around depth call
  | .wait ms => do
    (toasts around (perform around depth)).advance ms
    return .nothing

/-- The same, where it is noted as a whole, and so is every timer that fires. -/
def step (depth : Nat) : ToastOp ν → Act (ToastDelivery τ ν) ToastAnswer
  | .call call => noted (perform around depth call)
  | .wait ms => noted do
    wait around depth ms
    return .nothing

end ToastDelivery

/-! ## Nobody is left with an old list -/

/-- Where no listener fails, whoever is subscribed all the time was last given the list there is
afterwards, if given any; and was given one, if the list has changed. Tickets are issued once, so
whoever has the same one at both ends has not left in between. -/
def DeliveryEpisode.Delivered [DecidableEq ν] (episode : DeliveryEpisode ν) : Prop :=
  ∃ during, episode.after.deliveries = during ++ episode.before.deliveries ∧
    (.failed ∉ during → ∀ ticket member,
      (ticket, member) ∈ episode.before.subscribers.members →
      (ticket, member) ∈ episode.after.subscribers.members →
        (∀ toasts, lastGiven member during = some toasts → toasts = episode.after.toasts) ∧
        (episode.after.toasts ≠ episode.before.toasts → (lastGiven member during).isSome))

namespace ToastDelivery

variable [DecidableEq ν] {reach : Nat → Prop} {start : DeliverySnapshot ν}
  {scene : ToastDelivery τ ν} {ticket last : Nat} {member : ν}

/-- Since a moment, everybody whose ticket is in reach and is subscribed all the time has been given
the present list; whoever was given nothing has no need of it. -/
structure Follows (reach : Nat → Prop) (start : DeliverySnapshot ν) (scene : ToastDelivery τ ν) :
    Prop where
  ordered : scene.subscribers.Ordered
  delivered : ∀ episode ∈ scene.episodes, episode.Delivered
  issued : start.subscribers.issued ≤ scene.subscribers.issued
  current : ∃ during, scene.deliveries = during ++ start.deliveries ∧
    (.failed ∉ during → ∀ ticket member, (ticket, member) ∈ scene.subscribers.members →
      ticket ≤ start.subscribers.issued → reach ticket →
        (lastGiven member during).getD start.toasts = scene.board.toasts)

namespace Follows

theorem begin (ordered : scene.subscribers.Ordered)
    (delivered : ∀ episode ∈ scene.episodes, episode.Delivered) :
    Follows reach scene.snapshot scene :=
  ⟨ordered, delivered, Nat.le_refl _, [], rfl, fun _ _ _ _ _ _ => rfl⟩

theorem mono {further : Nat → Prop} (h : Follows reach start scene)
    (hw : ∀ ticket, further ticket → reach ticket) : Follows further start scene := by
  obtain ⟨during, log, current⟩ := h.current
  refine ⟨h.ordered, h.delivered, h.issued, during, log, fun sound ticket member hm old hr => ?_⟩
  exact current sound ticket member hm old (hw ticket hr)

/-- It does not depend on the timers. -/
theorem frame (h : Follows reach start scene) (host : τ) {board : ToastBoard}
    (same : board.toasts = scene.board.toasts) : Follows reach start { scene with host, board } := by
  obtain ⟨during, log, current⟩ := h.current
  refine ⟨h.ordered, h.delivered, h.issued, during, log, fun sound ticket member hm old hr => ?_⟩
  exact (current sound ticket member hm old hr).trans same.symm

/-- The list has changed, and nobody knows yet. -/
theorem change (h : Follows reach start scene) (board : ToastBoard) :
    Follows (· ≤ 0) start { scene with board } := by
  obtain ⟨during, log, -⟩ := h.current
  refine ⟨h.ordered, h.delivered, h.issued, during, log, fun _ ticket member hm _ none => ?_⟩
  exact absurd (h.ordered.within _ hm).1 (Nat.not_lt.mpr none)

theorem failed {further : Nat → Prop} (h : Follows reach start scene) :
    Follows further start (scene.deliver .failed) := by
  obtain ⟨during, log, -⟩ := h.current
  refine ⟨h.ordered, h.delivered, h.issued, .failed :: during, ?_, fun sound => ?_⟩
  · exact congrArg (Delivery.failed :: ·) log
  · exact absurd List.mem_cons_self sound

theorem add (h : Follows reach start scene) (member : ν) :
    Follows reach start { scene with subscribers := scene.subscribers.add member } := by
  obtain ⟨during, log, current⟩ := h.current
  refine ⟨h.ordered.add member, h.delivered, ?_, during, log, ?_⟩
  · exact Nat.le_trans h.issued (Subscribers.issued_le_add _ _)
  · intro sound ticket other hm old hr
    obtain hm | new := Subscribers.mem_add hm
    · exact current sound ticket other hm old hr
    · cases new
      exact absurd (Nat.le_trans old h.issued) (Nat.not_succ_le_self _)

theorem remove (h : Follows reach start scene) (member : ν) :
    Follows reach start { scene with subscribers := scene.subscribers.remove member } := by
  obtain ⟨during, log, current⟩ := h.current
  refine ⟨h.ordered.remove member, h.delivered, h.issued, during, log, ?_⟩
  intro sound ticket other hm old hr
  exact current sound ticket other (Subscribers.mem_remove hm) old hr

/-- One turn of a round of calls: whoever comes next is given the present list, and it is nobody's
turn in between. -/
theorem turn (h : Follows (· ≤ last) start scene)
    (next : scene.subscribers.after last = some (ticket, member)) :
    Follows (· ≤ ticket) start (scene.deliver (.given member scene.board.toasts)) := by
  obtain ⟨during, log, current⟩ := h.current
  have called := Subscribers.mem_of_after next
  refine ⟨h.ordered, h.delivered, h.issued, .given member scene.board.toasts :: during, ?_, ?_⟩
  · exact congrArg (Delivery.given member scene.board.toasts :: ·) log
  · intro sound other reader hm old reached
    by_cases own : member = reader
    · simp only [lastGiven, own, if_true]
      rfl
    · have sound : .failed ∉ during := fun hf => sound (.tail _ hf)
      have behind : other ≤ last := by
        by_contra ahead
        have first : ticket ≤ other := h.ordered.le_of_after next hm (Nat.lt_of_not_le ahead)
        have same : other = ticket := Nat.le_antisymm reached first
        subst same
        exact own (h.ordered.member_unique called hm)
      simp only [lastGiven, own, if_false]
      exact current sound other reader hm old behind

/-- A round that has come to its end has left nobody out. -/
theorem ended (h : Follows (· ≤ last) start scene) (none : scene.subscribers.after last = none) :
    Follows reach start scene := by
  obtain ⟨during, log, current⟩ := h.current
  refine ⟨h.ordered, h.delivered, h.issued, during, log, fun sound ticket member hm old _ => ?_⟩
  exact current sound ticket member hm old (Subscribers.le_of_after_none none hm)

/-- What has been kept since a moment is what was to be delivered. -/
theorem episode (h : Follows (fun _ => True) start scene) (ordered : start.subscribers.Ordered) :
    DeliveryEpisode.Delivered ⟨start, scene.snapshot⟩ := by
  obtain ⟨during, log, current⟩ := h.current
  refine ⟨during, log, fun sound ticket member before after => ?_⟩
  have old : ticket ≤ start.subscribers.issued := (ordered.within _ before).2
  have last := current sound ticket member after old trivial
  constructor
  · intro toasts given
    rw [given] at last
    exact last
  · intro changed
    cases given : lastGiven member during with
    | some toasts => rfl
    | none =>
      rw [given] at last
      exact absurd last.symm changed

end Follows

variable {around : ToastListeners τ ν (ToastCall ν)}
  {nested : ToastCall ν → Act (ToastDelivery τ ν) ToastAnswer}

/-- Operations after which those in reach still have the present list. -/
def Attentive (nested : ToastCall ν → Act (ToastDelivery τ ν) ToastAnswer) : Prop :=
  ∀ reach start call, Keeps (Follows reach start) (nested call)

/-- A listener is called when it is its turn. It may change the list, and then everybody in reach
has been told so by the end of its turn. -/
theorem ends_call (inner : Attentive nested) (h : Follows (· ≤ last) start scene)
    (next : scene.subscribers.after last = some (ticket, member)) :
    ((toasts around nested).call member scene.board.toasts).Ends scene
      fun result reached => match result with
        | .ok () => Follows (· ≤ ticket) start reached
        | .error _ => Follows (fun _ => True) start reached := by
  have code : Keeps (Follows (· ≤ ticket) start)
      ((around.call member scene.board.toasts).run hostSlot nested) :=
    Routine.keeps_run (fun host scene h => h.frame host rfl) (inner _ start) _
  refine ends_modify_bind.mpr (ends_attempt_bind.mpr ((code _ (h.turn next)).mono ?_))
  rintro (fault | _) reached kept
  · exact kept.failed
  · exact kept

/-- A round of calls that has come to a ticket. By its end everybody has the present list. -/
theorem ends_callFrom (inner : Attentive nested) :
    ∀ allowance {last : Nat} {scene : ToastDelivery τ ν}, Follows (· ≤ last) start scene →
      (Subscribers.callFrom subscribersSlot (fun member => do
        (toasts around nested).call member (← boardSlot.read).toasts) allowance last).Ends scene
          fun _ reached => Follows (fun _ => True) start reached
  | 0, _, _, _ => trivial
  | allowance + 1, last, scene, h => by
    refine Slot.ends_read_bind.mpr ?_
    split
    · rename_i none
      exact h.ended none
    · rename_i ticket member next
      have called : ((toasts around nested).call member scene.board.toasts).Ends scene _ :=
        ends_call inner h next
      refine (ends_bind.mpr (Slot.ends_read_bind.mpr (called.mono ?_)))
      rintro (fault | _) reached kept
      · exact kept
      · exact ends_callFrom inner allowance kept

/-- Whoever was behind before a publication is not behind after it. -/
theorem ends_publish (inner : Attentive nested) (h : Follows reach start scene)
    (board : ToastBoard) :
    ((toasts around nested).publish board).Ends scene
      fun _ reached => Follows (fun _ => True) start reached :=
  Slot.ends_write_bind.mpr (ends_callFrom inner _ (h.change board))

theorem ends_publish_reach (inner : Attentive nested) (h : Follows reach start scene)
    (board : ToastBoard) :
    ((toasts around nested).publish board).Ends scene fun _ => Follows reach start :=
  (ends_publish inner h board).mono fun _ _ kept => kept.mono fun _ _ => trivial

/-- A toast is taken off, or was not there and nobody need know. -/
theorem ends_dismiss (inner : Attentive nested) (h : Follows reach start scene) (id : String) :
    ((toasts around nested).dismiss id).Ends scene fun _ => Follows reach start := by
  refine ToastHost.ends_dismiss (ends_publish_reach inner h _) fun absent => ?_
  exact h.frame scene.host (ToastBoard.toasts_remove_of_not_has absent)

theorem keeps_add (inner : Attentive nested) (content : String) (options : ToastOptions) :
    Keeps (Follows reach start) ((toasts around nested).add content options) :=
  ToastHost.keeps_add (fun _ h => h.frame _ rfl) (fun h _ => ends_publish_reach inner h _) content
    options

theorem attentive_operate (inner : Attentive nested) : Attentive (toasts around nested).operate := by
  intro reach start call scene h
  cases call with
  | add content options => exact (keeps_add inner content options scene h).bind_pure
  | dismiss id => exact (ends_dismiss inner h id).bind_pure
  | dismissTransient =>
    exact Ends.bind_pure (Slot.ends_read_bind.mpr (ends_publish_reach inner h _))
  | clear => exact Ends.bind_pure (Slot.ends_read_bind.mpr (ends_publish_reach inner h _))
  | glance glance =>
    cases glance with
    | list => exact h
    | subscribe member => exact h.add member
    | unsubscribe member => exact h.remove member

theorem attentive_perform (around : ToastListeners τ ν (ToastCall ν)) :
    ∀ depth, Attentive (perform around depth) :=
  nesting_of_level (fun _ _ _ => keeps_exhausted) fun _ inner => attentive_operate inner

/-! ### Episodes -/

/-- A step after which those in reach still have the present list makes an episode. -/
theorem ends_noted {α : Type} {act : Act (ToastDelivery τ ν) α}
    (attentive : ∀ {reach start}, Follows reach start scene →
      act.Ends scene fun _ => Follows reach start)
    (h : Follows reach start scene) : (noted act).Ends scene fun _ => Follows reach start := by
  have begun : Follows (fun _ => True) scene.snapshot scene := .begin h.ordered h.delivered
  refine ends_get_bind.mpr (ends_followedBy_modify.mpr ?_)
  refine (ends_and (attentive h) (attentive begun)).mono ?_
  rintro result reached ⟨kept, since⟩
  refine ⟨kept.ordered, ?_, kept.issued, kept.current⟩
  intro episode hm
  obtain rfl | hm := List.mem_cons.mp hm
  · exact since.episode h.ordered
  · exact kept.delivered episode hm

/-- A timer fires, and its toast is taken off. -/
theorem ends_firing (inner : Attentive nested) (h : Follows reach start scene) (timer : Timer) :
    ((toasts around nested).firing timer).Ends scene fun _ => Follows reach start := by
  have fired : Follows reach start { scene with board := scene.board.fire timer } :=
    h.frame scene.host rfl
  exact ToastHost.ends_firing (ends_dismiss inner fired timer.subject)
    fun _ _ kept => kept.frame _ rfl

/-- Timers fire one after another, and each makes an episode. -/
theorem keeps_fireUntilWatched (around : ToastListeners τ ν (ToastCall ν)) (inner : Attentive nested)
    (limit : Number) :
    ∀ allowance, Keeps (Follows reach start)
      ((toasts around nested).fireUntilWatched noted limit allowance)
  | 0 => keeps_exhausted
  | allowance + 1 => by
    intro scene h
    refine Slot.ends_read_bind.mpr ?_
    split
    · exact h.frame scene.host rfl
    · rename_i timer _
      have fired : (noted ((toasts around nested).firing timer)).Ends scene
          fun _ => Follows reach start := ends_noted (fun h => ends_firing inner h timer) h
      have rest := keeps_fireUntilWatched around inner limit allowance
      exact fired.bind (fun _ reached kept => rest reached kept) fun _ _ kept => kept

/-- Whatever is done, the episodes it makes are as they should be. -/
theorem keeps_step (around : ToastListeners τ ν (ToastCall ν)) (depth : Nat)
    (operation : ToastOp ν) : Keeps (Follows reach start) (step around depth operation) := by
  intro scene h
  have inner := attentive_perform around depth
  cases operation with
  | call call => exact ends_noted (fun h => inner _ _ call scene h) h
  | wait ms =>
    refine ends_noted (fun h => ?_) h
    have passed := keeps_fireUntilWatched around inner (scene.board.clock.now.add ms)
      around.allowance scene h
    have waited : (wait around depth ms).Ends scene _ := Slot.ends_read_bind.mpr passed
    exact waited.bind_pure

end ToastDelivery

/-! ## Notes make no difference -/

namespace ToastDelivery

variable {around : ToastListeners τ ν (ToastCall ν)}
  {nested : ToastCall ν → Act (ToastDelivery τ ν) ToastAnswer}

/-- The same, but for what was noted. -/
def Unnoted (scene plain : ToastDelivery τ ν) : Prop := ∃ episodes, scene = { plain with episodes }

theorem alike_hostSlot : (hostSlot : Slot (ToastDelivery τ ν) τ).Alike Unnoted hostSlot where
  get := by rintro _ _ ⟨_, rfl⟩; rfl
  set := by rintro host _ _ ⟨episodes, rfl⟩; exact ⟨episodes, rfl⟩

theorem alike_boardSlot :
    (boardSlot : Slot (ToastDelivery τ ν) ToastBoard).Alike Unnoted boardSlot where
  get := by rintro _ _ ⟨_, rfl⟩; rfl
  set := by rintro board _ _ ⟨episodes, rfl⟩; exact ⟨episodes, rfl⟩

theorem alike_subscribersSlot :
    (subscribersSlot : Slot (ToastDelivery τ ν) (Subscribers ν)).Alike Unnoted subscribersSlot where
  get := by rintro _ _ ⟨_, rfl⟩; rfl
  set := by rintro subscribers _ _ ⟨episodes, rfl⟩; exact ⟨episodes, rfl⟩

theorem alike_deliver (delivery : Delivery ν) :
    Act.Alike Unnoted Eq (modify (deliver delivery) : Act (ToastDelivery τ ν) PUnit)
      (modify (deliver delivery)) :=
  alike_modify fun _ _ ⟨episodes, same⟩ => ⟨episodes, same ▸ rfl⟩

theorem alike_noted {α : Type} {act other : Act (ToastDelivery τ ν) α}
    (h : Act.Alike Unnoted Eq act other) : Act.Alike Unnoted Eq (noted act) other := by
  intro scene plain same
  have parts := h scene plain same
  simp only [noted, followedBy, run_bind, run_get, run_attempt]
  generalize act.run scene = one at parts ⊢
  generalize other.run plain = two at parts ⊢
  cases parts with
  | done value reached =>
    obtain ⟨episodes, rfl⟩ := reached
    exact .done value ⟨_, rfl⟩
  | failed reached =>
    obtain ⟨episodes, rfl⟩ := reached
    exact .failed ⟨_, rfl⟩
  | exhausted => exact .exhausted

/-- Operations that do the same whatever has been noted before. -/
def Oblivious (nested : ToastCall ν → Act (ToastDelivery τ ν) ToastAnswer) : Prop :=
  ∀ call, Act.Alike Unnoted Eq (nested call) (nested call)

theorem alike_toasts (inner : Oblivious nested) :
    (toasts around nested).Alike Unnoted (toasts around nested) where
  board := alike_boardSlot
  subscribers := alike_subscribersSlot
  call member toasts := by
    apply alike_bind_eq (alike_deliver _)
    intro _
    apply alike_bind_eq (alike_attempt (Routine.alike_run_self alike_hostSlot inner _))
    rintro (fault | _)
    · exact alike_bind_eq (alike_deliver _) fun _ => alike_fail fault
    · exact alike_pure rfl
  freshId := alike_bind_eq alike_hostSlot.read fun _ =>
    alike_bind_eq (alike_hostSlot.write _) fun _ => alike_pure rfl
  timerFailed fault := alike_hostSlot.update _
  allowance := rfl

variable [DecidableEq ν]

theorem oblivious_perform (around : ToastListeners τ ν (ToastCall ν)) :
    ∀ depth, Oblivious (perform around depth) :=
  nesting_of_level (fun _ => alike_exhausted) fun _ inner => (alike_toasts inner).operate

/-- Time passes as it does, but that it is noted. -/
theorem alike_wait (around : ToastListeners τ ν (ToastCall ν)) (depth : Nat) (ms : Number) :
    Act.Alike Unnoted Eq (wait around depth ms) ((toasts around (perform around depth)).advance ms) :=
  alike_bind_eq alike_boardSlot.read fun _ =>
    (alike_toasts (oblivious_perform around depth)).fireUntilWatched alike_noted _ _

theorem alike_step (around : ToastListeners τ ν (ToastCall ν)) (depth : Nat)
    (operation : ToastOp ν) :
    Act.Alike Unnoted Eq (step around depth operation) (plainly around depth operation) := by
  cases operation with
  | call call => exact alike_noted (oblivious_perform around depth call)
  | wait ms => exact alike_noted (alike_bind_eq (alike_wait around depth ms) fun _ => alike_pure rfl)

end ToastDelivery

/-- Whatever is done with the toasts and however time passes, with listeners that do anything with
them meanwhile and join and leave: after every operation and every timer that fired in which no
listener failed, whoever was subscribed all the time was last given the list there is then, if given
any, and was given one if the list is not the one before. Apart from what is noted of them, all
these operations and timers do what they do in any case. -/
theorem subscribers_end_up_current [DecidableEq ν] (around : ToastListeners τ ν (ToastCall ν))
    (depth : Nat) {α : Type} (code : Routine τ (ToastOp ν) ToastAnswer α) (host : τ) :
    ((code.run ToastDelivery.hostSlot (ToastDelivery.step around depth)).Ends { host }
      fun _ scene => ∀ episode ∈ scene.episodes, episode.Delivered) ∧
    Outcome.Alike ToastDelivery.Unnoted Eq
      ((code.run ToastDelivery.hostSlot (ToastDelivery.step around depth)).run { host })
      ((code.run ToastDelivery.hostSlot (ToastDelivery.plainly around depth)).run { host }) := by
  let scene : ToastDelivery τ ν := { host }
  have begun : ToastDelivery.Follows (fun _ => True) scene.snapshot scene :=
    .begin Subscribers.ordered_empty fun _ hm => nomatch hm
  have run : Keeps (ToastDelivery.Follows (fun _ => True) scene.snapshot)
      (code.run ToastDelivery.hostSlot (ToastDelivery.step around depth)) :=
    Routine.keeps_run (fun host _ h => h.frame host rfl) (ToastDelivery.keeps_step around depth) code
  have plain := Routine.alike_run_self ToastDelivery.alike_hostSlot
    (ToastDelivery.alike_step around depth) code
  exact ⟨(run scene begun).mono fun _ _ kept => kept.delivered, plain scene scene ⟨[], rfl⟩⟩

/-! A host where one of two listeners adds a toast to those it is given. -/

namespace Answered

/-- The first listener adds a persistent toast to a transient one that stands alone. -/
def call : Bool → List Toast → Routine Unit (ToastCall Bool) ToastAnswer Unit
  | true, [{ dismissal := .transient, .. }] =>
    .perform (.add "" { dismissal := .persistent }) fun _ => .done ()
  | _, _ => .done ()

def surroundings : ToastListeners Unit Bool (ToastCall Bool) where
  call := call
  freshId _ := ("", ())
  timerFailed _ host := host
  allowance := 5

def operations : List (ToastOp Bool) :=
  [.call (.glance (.subscribe true)), .call (.glance (.subscribe false)),
    .call (.add "" { id := some "first", timeout := .ofNat 100 }), .wait (.ofNat 100)]

/-- How many toasts each listener was given, the last time first. -/
def counts : Outcome (ToastDelivery Unit Bool) Unit → List (Bool × Nat)
  | .done () scene => scene.deliveries.filterMap fun
    | .given member toasts => some (member, toasts.length)
    | .failed => none
  | _ => []

/-- The other listener has both toasts before the round that brought the first one comes to it, and
then it is given both again. -/
example : counts (((Routine.inTurn operations).run ToastDelivery.hostSlot
    (ToastDelivery.step surroundings 3)).run { host := () }) =
      [(false, 1), (true, 1), (false, 2), (false, 2), (true, 2), (true, 1)] := by
  decide +kernel

end Answered

end KeyPrecedence
