import KeyPrecedence.Act

/-!
# Where a step may end

* `Act.Ends`: every end of a step from one state, a fault included, meets a condition;
* `Act.Keeps`: a condition on the state that holds before a step holds after it;
* `Act.Answers`: a step that does end, and with a value;
* `Act.Succeeds`: a step that may go on for ever, but does not fail;
* `Act.Leads`: one that does not fail either, and takes one condition on the state to another;
* `ends_bind`, `keeps_bind`: both are read off a step's parts, in order;
* `Act.seen?`: what is to be seen of one run, computed.

A step that uses up its allowance has no end, so the conditions say nothing of it.
-/

namespace KeyPrecedence.Act

variable {σ α β : Type}

def Ends (act : Act σ α) (state : σ) (post : Except Fault α → σ → Prop) : Prop :=
  match act.run state with
  | .done value reached => post (.ok value) reached
  | .failed fault reached => post (.error fault) reached
  | .exhausted => True

/-- What comes after a step: nothing when it failed. -/
def Then (next : α → Act σ β) (post : Except Fault β → σ → Prop) : Except Fault α → σ → Prop
  | .ok value, reached => (next value).Ends reached post
  | .error fault, reached => post (.error fault) reached

theorem Ends.mono {act : Act σ α} {state : σ} {post weaker : Except Fault α → σ → Prop}
    (h : act.Ends state post) (hw : ∀ result reached, post result reached → weaker result reached) :
    act.Ends state weaker := by
  unfold Ends at *
  split <;> simp_all

theorem ends_of_forall {act : Act σ α} {state : σ} {post : Except Fault α → σ → Prop}
    (h : ∀ result reached, post result reached) : act.Ends state post := by
  unfold Ends
  split
  · exact h _ _
  · exact h _ _
  · trivial

theorem ends_any {act : Act σ α} {state : σ} : act.Ends state fun _ _ => True :=
  ends_of_forall fun _ _ => trivial

theorem ends_imp {act : Act σ α} {state : σ} {p : Prop} {post : Except Fault α → σ → Prop}
    (h : p → act.Ends state post) : act.Ends state fun result reached => p → post result reached := by
  by_cases hp : p
  · exact (h hp).mono fun _ _ hr _ => hr
  · exact ends_of_forall fun _ _ hp' => absurd hp' hp

theorem ends_and {act : Act σ α} {state : σ} {p q : Except Fault α → σ → Prop}
    (hp : act.Ends state p) (hq : act.Ends state q) :
    act.Ends state fun result reached => p result reached ∧ q result reached := by
  unfold Ends at *
  split <;> simp_all

theorem ends_forall {ι : Type} {act : Act σ α} {state : σ} {post : ι → Except Fault α → σ → Prop}
    (h : ∀ i, act.Ends state (post i)) :
    act.Ends state fun result reached => ∀ i, post i result reached := by
  unfold Ends at *
  split <;> simp_all

theorem Ends.of_done {act : Act σ α} {state reached : σ} {value : α}
    {post : Except Fault α → σ → Prop} (h : act.Ends state post)
    (hr : act.run state = .done value reached) : post (.ok value) reached := by
  simpa only [Ends, hr] using h

theorem Ends.of_failed {act : Act σ α} {state reached : σ} {fault : Fault}
    {post : Except Fault α → σ → Prop} (h : act.Ends state post)
    (hr : act.run state = .failed fault reached) : post (.error fault) reached := by
  simpa only [Ends, hr] using h

@[simp]
theorem ends_pure {value : α} {state : σ} {post : Except Fault α → σ → Prop} :
    (pure value : Act σ α).Ends state post ↔ post (.ok value) state :=
  Iff.rfl

@[simp]
theorem ends_fail {fault : Fault} {state : σ} {post : Except Fault α → σ → Prop} :
    (fail fault : Act σ α).Ends state post ↔ post (.error fault) state :=
  Iff.rfl

@[simp]
theorem ends_exhausted {state : σ} {post : Except Fault α → σ → Prop} :
    (exhausted : Act σ α).Ends state post :=
  trivial

@[simp]
theorem ends_get {state : σ} {post : Except Fault σ → σ → Prop} :
    (get : Act σ σ).Ends state post ↔ post (.ok state) state :=
  Iff.rfl

@[simp]
theorem ends_modify {change : σ → σ} {state : σ} {post : Except Fault PUnit → σ → Prop} :
    (modify change : Act σ PUnit).Ends state post ↔ post (.ok ⟨⟩) (change state) :=
  Iff.rfl

@[simp]
theorem ends_modify_bind {change : σ → σ} {next : PUnit → Act σ α} {state : σ}
    {post : Except Fault α → σ → Prop} :
    (modify change >>= next).Ends state post ↔ (next ⟨⟩).Ends (change state) post :=
  Iff.rfl

@[simp]
theorem ends_get_bind {next : σ → Act σ α} {state : σ} {post : Except Fault α → σ → Prop} :
    (get >>= next).Ends state post ↔ (next state).Ends state post :=
  Iff.rfl

theorem ends_bind {act : Act σ α} {next : α → Act σ β} {state : σ}
    {post : Except Fault β → σ → Prop} :
    (act >>= next).Ends state post ↔ act.Ends state (Then next post) := by
  unfold Ends
  rw [run_bind]
  cases act.run state <;> rfl

theorem run_bind_of_done {act : Act σ α} {next : α → Act σ β} {state reached : σ} {value : α}
    (h : act.run state = .done value reached) :
    (act >>= next).run state = (next value).run reached := by
  rw [run_bind, h]

theorem ends_bind_of_done {act : Act σ α} {next : α → Act σ β} {state reached : σ} {value : α}
    {post : Except Fault β → σ → Prop} (h : act.run state = .done value reached) :
    (act >>= next).Ends state post ↔ (next value).Ends reached post := by
  unfold Ends
  rw [run_bind_of_done h]

theorem run_bind_eq_done {act : Act σ α} {next : α → Act σ β} {state reached : σ} {value : β} :
    (act >>= next).run state = .done value reached ↔
      ∃ first mid, act.run state = .done first mid ∧ (next first).run mid = .done value reached := by
  rw [run_bind]
  cases act.run state <;> simp [and_assoc]

theorem run_bind_eq_failed {act : Act σ α} {next : α → Act σ β} {state reached : σ} {fault : Fault} :
    (act >>= next).run state = .failed fault reached ↔
      act.run state = .failed fault reached ∨
        ∃ first mid, act.run state = .done first mid ∧
          (next first).run mid = .failed fault reached := by
  rw [run_bind]
  cases act.run state <;> simp [and_assoc]

theorem ends_attempt {act : Act σ α} {state : σ}
    {post : Except Fault (Except Fault α) → σ → Prop} :
    act.attempt.Ends state post ↔ act.Ends state fun result reached => post (.ok result) reached := by
  unfold Ends
  rw [run_attempt]
  cases act.run state <;> rfl

@[simp]
theorem ends_ofExcept {result : Except Fault α} {state : σ} {post : Except Fault α → σ → Prop} :
    (ofExcept result : Act σ α).Ends state post ↔ post result state := by
  cases result <;> rfl

theorem ends_ofExcept_bind {result : Except Fault α} {next : α → Act σ β} {state : σ}
    {post : Except Fault β → σ → Prop} :
    (ofExcept result >>= next).Ends state post ↔
      match result with
      | .ok value => (next value).Ends state post
      | .error fault => post (.error fault) state := by
  cases result <;> rfl

theorem Ends.bind {act : Act σ α} {next : α → Act σ β} {state : σ}
    {mid : Except Fault α → σ → Prop} {post : Except Fault β → σ → Prop}
    (h : act.Ends state mid)
    (ok : ∀ value reached, mid (.ok value) reached → (next value).Ends reached post)
    (err : ∀ fault reached, mid (.error fault) reached → post (.error fault) reached) :
    (act >>= next).Ends state post := by
  refine ends_bind.mpr (h.mono ?_)
  intro result reached hm
  cases result with
  | ok value => exact ok value reached hm
  | error fault => exact err fault reached hm

/-- What is made of a value does not matter to a condition on the state. -/
theorem Ends.bind_pure {act : Act σ α} {f : α → β} {state : σ} {inv : σ → Prop}
    (h : act.Ends state fun _ => inv) :
    (act >>= fun value => pure (f value)).Ends state fun _ => inv :=
  h.bind (fun _ _ kept => kept) fun _ _ kept => kept

theorem ends_attempt_bind {act : Act σ α} {next : Except Fault α → Act σ β} {state : σ}
    {post : Except Fault β → σ → Prop} :
    (act.attempt >>= next).Ends state post ↔
      act.Ends state fun result reached => (next result).Ends reached post := by
  unfold Ends
  rw [run_bind, run_attempt]
  cases act.run state <;> rfl

/-- A step whose faults go no further: nothing but a report can fail. -/
theorem ends_guarded {act : Act σ Unit} {report : Fault → Act σ Unit} {state : σ} {post : σ → Prop}
    (h : act.Ends state fun _ reached => post reached)
    (reported : ∀ fault reached, post reached →
      (report fault).Ends reached fun result reached => result = .ok () ∧ post reached) :
    (act.guarded report).Ends state fun result reached => result = .ok () ∧ post reached := by
  refine ends_attempt_bind.mpr (h.mono ?_)
  rintro (fault | _) reached hp
  · exact reported fault reached hp
  · exact ⟨rfl, hp⟩

theorem ends_followedBy_modify {act : Act σ α} {note : σ → σ} {state : σ}
    {post : Except Fault α → σ → Prop} :
    (act.followedBy (modify note)).Ends state post ↔
      act.Ends state fun result reached => post result (note reached) := by
  refine ends_attempt_bind.trans ⟨fun h => ?_, fun h => ?_⟩
  · exact h.mono fun _ _ => ends_ofExcept.mp
  · exact h.mono fun _ _ => ends_ofExcept.mpr

/-- A condition on the state that lasts through a step, also through one that fails. -/
def Keeps (inv : σ → Prop) (act : Act σ α) : Prop :=
  ∀ state, inv state → act.Ends state fun _ reached => inv reached

section
variable {inv : σ → Prop}

theorem keeps_pure (value : α) : Keeps inv (pure value) := fun _ h => h

theorem keeps_fail (fault : Fault) : Keeps inv (fail fault : Act σ α) := fun _ h => h

theorem keeps_exhausted : Keeps inv (exhausted : Act σ α) := fun _ _ => trivial

theorem keeps_modify {change : σ → σ} (h : ∀ state, inv state → inv (change state)) :
    Keeps inv (modify change : Act σ PUnit) := h

theorem keeps_bind {act : Act σ α} {next : α → Act σ β} (h : Keeps inv act)
    (hn : ∀ value, Keeps inv (next value)) : Keeps inv (act >>= next) :=
  fun state hs => (h state hs).bind (fun value reached hr => hn value reached hr) fun _ _ hr => hr

theorem keeps_attempt {act : Act σ α} (h : Keeps inv act) : Keeps inv act.attempt :=
  fun state hs => ends_attempt.mpr (h state hs)

theorem keeps_ofExcept (result : Except Fault α) : Keeps inv (ofExcept result) :=
  fun _ h => ends_ofExcept.mpr h

theorem keeps_guarded {act : Act σ Unit} {report : Fault → Act σ Unit} (h : Keeps inv act)
    (hr : ∀ fault, Keeps inv (report fault)) : Keeps inv (act.guarded report) :=
  keeps_bind (keeps_attempt h) fun
    | .ok () => keeps_pure ()
    | .error fault => hr fault

theorem keeps_followedBy {act : Act σ α} {after : Act σ Unit} (h : Keeps inv act)
    (ha : Keeps inv after) : Keeps inv (act.followedBy after) :=
  keeps_bind (keeps_attempt h) fun result => keeps_bind ha fun _ => keeps_ofExcept result

end

section
variable {Op : Type} {level : (Op → Act σ α) → Op → Act σ α}

/-- What holds of operations that never end, and passes from one level to the next. -/
theorem nesting_of_level {motive : (Op → Act σ α) → Prop} (never : motive fun _ => exhausted)
    (passes : ∀ perform, motive perform → motive (level perform)) :
    ∀ depth, motive (nesting level depth)
  | 0 => never
  | depth + 1 => passes _ (nesting_of_level never passes depth)

theorem keeps_nesting {inv : σ → Prop} (passes : ∀ perform,
    (∀ operation, Keeps inv (perform operation)) → ∀ operation, Keeps inv (level perform operation))
    (depth : Nat) : ∀ operation, Keeps inv (nesting level depth operation) :=
  nesting_of_level (motive := fun perform => ∀ operation, Keeps inv (perform operation))
    (fun _ => keeps_exhausted) passes depth

end

/-- A step that from good states gives a value of the kind wanted, and ends in a good state. -/
def Answers (inv : σ → Prop) (act : Act σ α) (good : α → Prop) : Prop :=
  ∀ state, inv state → ∃ value reached, act.run state = .done value reached ∧ inv reached ∧ good value

theorem answers_pure {inv : σ → Prop} {good : α → Prop} {value : α} (h : good value) :
    (pure value : Act σ α).Answers inv good := fun state hs => ⟨value, state, rfl, hs, h⟩

theorem Answers.mono {inv : σ → Prop} {good fine : α → Prop} {act : Act σ α}
    (h : act.Answers inv good) (weaker : ∀ value, good value → fine value) :
    act.Answers inv fine := by
  intro state hs
  obtain ⟨value, reached, hr, hi, hg⟩ := h state hs
  exact ⟨value, reached, hr, hi, weaker value hg⟩

theorem Answers.run_bind {inv : σ → Prop} {good : α → Prop} {act : Act σ α}
    (h : act.Answers inv good) {state : σ} (hs : inv state) (next : α → Act σ β) :
    ∃ value reached, inv reached ∧ good value ∧
      (act >>= next).run state = (next value).run reached := by
  obtain ⟨value, reached, hr, hi, hg⟩ := h state hs
  exact ⟨value, reached, hi, hg, by rw [Act.run_bind, hr]⟩

theorem Answers.bind {inv : σ → Prop} {good : α → Prop} {fine : β → Prop} {act : Act σ α}
    {next : α → Act σ β} (h : act.Answers inv good)
    (hn : ∀ value, good value → (next value).Answers inv fine) :
    (act >>= next).Answers inv fine := by
  intro state hs
  obtain ⟨value, reached, hi, hg, hr⟩ := h.run_bind hs next
  rw [hr]
  exact hn value hg reached hi

/-- A step that never fails, and gives values of the kind wanted. -/
def Succeeds (good : α → Prop) (act : Act σ α) : Prop :=
  ∀ state, act.Ends state fun result _ => ∃ value, result = .ok value ∧ good value

theorem succeeds_pure {good : α → Prop} {value : α} (h : good value) :
    (pure value : Act σ α).Succeeds good := fun _ => ⟨value, rfl, h⟩

theorem Succeeds.bind {good : α → Prop} {fine : β → Prop} {act : Act σ α} {next : α → Act σ β}
    (h : act.Succeeds good) (hn : ∀ value, good value → (next value).Succeeds fine) :
    (act >>= next).Succeeds fine := by
  intro state
  apply (h state).bind
  · rintro value reached ⟨_, ⟨⟩, hg⟩
    exact hn value hg reached
  · rintro _ _ ⟨_, ⟨⟩, -⟩

/-- A step that never fails, and takes a state where one condition holds to one where another
does. -/
def Leads (pre post : σ → Prop) (act : Act σ Unit) : Prop :=
  ∀ state, pre state → act.Ends state fun result reached => result = .ok () ∧ post reached

section
variable {pre mid post : σ → Prop}

theorem leads_pure : Leads pre pre (pure () : Act σ Unit) := fun _ h => ⟨rfl, h⟩

theorem leads_modify {change : σ → σ} (h : ∀ state, pre state → post (change state)) :
    Leads pre post (modify change : Act σ Unit) := fun state hs => ⟨rfl, h state hs⟩

theorem Leads.bind {act : Act σ Unit} {next : Unit → Act σ Unit} (h : Leads pre mid act)
    (hn : Leads mid post (next ())) : Leads pre post (act >>= next) := by
  intro state hs
  apply (h state hs).bind
  · rintro _ reached ⟨-, hm⟩
    exact hn reached hm
  · rintro _ _ ⟨⟨⟩, -⟩

theorem leads_guarded {act : Act σ Unit} {report : Fault → Act σ Unit}
    (h : ∀ state, pre state → act.Ends state fun _ reached => post reached)
    (reported : ∀ fault, Leads post post (report fault)) : Leads pre post (act.guarded report) :=
  fun state hs => ends_guarded (h state hs) fun fault reached hr => reported fault reached hr

end

/-- What is to be seen of the value that a step gives and of the state it leaves. -/
def seen? {γ : Type} (act : Act σ α) (state : σ) (see : α → σ → γ) : Option γ :=
  match act.run state with
  | .done value reached => some (see value reached)
  | _ => none

theorem seen?_eq_some {γ : Type} {act : Act σ α} {state : σ} {see : α → σ → γ} {seen : γ} :
    act.seen? state see = some seen ↔
      ∃ value reached, act.run state = .done value reached ∧ see value reached = seen := by
  unfold seen?
  cases act.run state <;> simp [and_assoc]

end KeyPrecedence.Act

namespace KeyPrecedence.Slot

variable {σ τ : Type} {slot : Slot σ τ}

@[simp]
theorem ends_read {state : σ} {post : Except Fault τ → σ → Prop} :
    slot.read.Ends state post ↔ post (.ok (slot.get state)) state :=
  Iff.rfl

@[simp]
theorem ends_write {value : τ} {state : σ} {post : Except Fault Unit → σ → Prop} :
    (slot.write value).Ends state post ↔ post (.ok ()) (slot.set value state) :=
  Iff.rfl

@[simp]
theorem ends_read_bind {α : Type} {next : τ → Act σ α} {state : σ}
    {post : Except Fault α → σ → Prop} :
    (slot.read >>= next).Ends state post ↔ (next (slot.get state)).Ends state post :=
  Iff.rfl

@[simp]
theorem ends_write_bind {α : Type} {value : τ} {next : Unit → Act σ α} {state : σ}
    {post : Except Fault α → σ → Prop} :
    (slot.write value >>= next).Ends state post ↔ (next ()).Ends (slot.set value state) post :=
  Iff.rfl

@[simp]
theorem ends_update_bind {α : Type} {change : τ → τ} {next : Unit → Act σ α} {state : σ}
    {post : Except Fault α → σ → Prop} :
    (slot.update change >>= next).Ends state post ↔
      (next ()).Ends (slot.set (change (slot.get state)) state) post :=
  Iff.rfl

theorem keeps_read {inv : σ → Prop} : Act.Keeps inv slot.read := fun _ h => h

theorem keeps_write {inv : σ → Prop} {value : τ}
    (h : ∀ state, inv state → inv (slot.set value state)) : Act.Keeps inv (slot.write value) := h

end KeyPrecedence.Slot
