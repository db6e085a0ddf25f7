import KeyPrecedence.Act

/-!
# Steps on two hosts that end alike

* `Outcome.Alike`: two ends of the same kind, with values and states that correspond;
* `Act.Alike`: from states that correspond, two steps end alike;
* `alike_bind`: read off the parts of the two steps, in order.

A fault corresponds to itself only, and a step without an end to a step without an end.
-/

namespace KeyPrecedence

variable {σ σ' α α' β β' τ τ' : Type} {states : σ → σ' → Prop}

inductive Outcome.Alike (states : σ → σ' → Prop) (values : α → α' → Prop) :
    Outcome σ α → Outcome σ' α' → Prop
  | done {value value' state state'} (same : values value value') (reached : states state state') :
      Alike states values (.done value state) (.done value' state')
  | failed {fault state state'} (reached : states state state') :
      Alike states values (.failed fault state) (.failed fault state')
  | exhausted : Alike states values .exhausted .exhausted

namespace Act

def Alike (states : σ → σ' → Prop) (values : α → α' → Prop) (act : Act σ α) (other : Act σ' α') :
    Prop :=
  ∀ state state', states state state' →
    Outcome.Alike states values (act.run state) (other.run state')

end Act

namespace Outcome.Alike

variable {values : α → α' → Prop} {results : β → β' → Prop}

theorem refl (outcome : Outcome σ α) : Alike Eq Eq outcome outcome := by
  cases outcome with
  | done value state => exact .done rfl rfl
  | failed fault state => exact .failed rfl
  | exhausted => exact .exhausted

theorem mono {related : σ → σ' → Prop} {similar : α → α' → Prop} {outcome : Outcome σ α}
    {other : Outcome σ' α'} (h : Alike states values outcome other)
    (hs : ∀ state state', states state state' → related state state')
    (hv : ∀ value value', values value value' → similar value value') :
    Alike related similar outcome other := by
  cases h with
  | done same reached => exact .done (hv _ _ same) (hs _ _ reached)
  | failed reached => exact .failed (hs _ _ reached)
  | exhausted => exact .exhausted

/-- Two steps that have ended alike go on alike. -/
theorem bind {act : Act σ α} {other : Act σ' α'} {next : α → Act σ β} {next' : α' → Act σ' β'}
    {state : σ} {state' : σ'} (h : Alike states values (act.run state) (other.run state'))
    (hn : ∀ value value', values value value' → Act.Alike states results (next value) (next' value')) :
    Alike states results ((act >>= next).run state) ((other >>= next').run state') := by
  rw [Act.run_bind, Act.run_bind]
  generalize act.run state = one at h ⊢
  generalize other.run state' = two at h ⊢
  cases h with
  | done same reached => exact hn _ _ same _ _ reached
  | failed reached => exact .failed reached
  | exhausted => exact .exhausted

end Outcome.Alike

/-- Results of the same kind, with values that correspond. -/
inductive Result.Alike (values : α → α' → Prop) : Except Fault α → Except Fault α' → Prop
  | ok {value value'} (same : values value value') : Alike values (.ok value) (.ok value')
  | error (fault : Fault) : Alike values (.error fault) (.error fault)

namespace Result.Alike

theorem eq {result other : Except Fault α} (h : Alike Eq result other) : result = other := by
  cases h with
  | ok same => rw [same]
  | error fault => rfl

theorem of_map_eq {f : α → β} {result other : Except Fault α} (h : result.map f = other.map f) :
    Alike (fun value value' => f value = f value') result other := by
  cases result with
  | error fault =>
    cases other with
    | error other => cases h; exact .error fault
    | ok value => nomatch h
  | ok value =>
    cases other with
    | error fault => nomatch h
    | ok value' => exact .ok (Except.ok.inj h)

end Result.Alike

namespace Act

variable {values : α → α' → Prop} {results : β → β' → Prop}

theorem alike_self (act : Act σ α) : Alike Eq Eq act act := by
  rintro state _ rfl
  exact .refl _

theorem alike_pure {value : α} {value' : α'} (h : values value value') :
    Alike states values (pure value) (pure value') := fun _ _ hs => .done h hs

theorem alike_modify {change : σ → σ} {change' : σ' → σ'}
    (h : ∀ state state', states state state' → states (change state) (change' state')) :
    Alike states Eq (modify change : Act σ PUnit) (modify change') :=
  fun state state' hs => .done rfl (h state state' hs)

theorem alike_fail (fault : Fault) : Alike states values (fail fault) (fail fault) :=
  fun _ _ hs => .failed hs

theorem alike_exhausted : Alike states values exhausted exhausted := fun _ _ _ => .exhausted

theorem alike_bind {act : Act σ α} {other : Act σ' α'} {next : α → Act σ β} {next' : α' → Act σ' β'}
    (h : Alike states values act other)
    (hn : ∀ value value', values value value' → Alike states results (next value) (next' value')) :
    Alike states results (act >>= next) (other >>= next') :=
  fun state state' hs => (h state state' hs).bind hn

theorem alike_map {act : Act σ α} {other : Act σ' α'} {f : α → β} {f' : α' → β'}
    (h : Alike states values act other)
    (hf : ∀ value value', values value value' → results (f value) (f' value')) :
    Alike states results (f <$> act) (f' <$> other) :=
  alike_bind h fun value value' hv => alike_pure (hf value value' hv)

/-- Steps with the same values may be followed by the same. -/
theorem alike_bind_eq {act : Act σ α} {other : Act σ' α} {next : α → Act σ β} {next' : α → Act σ' β'}
    (h : Alike states Eq act other) (hn : ∀ value, Alike states results (next value) (next' value)) :
    Alike states results (act >>= next) (other >>= next') :=
  alike_bind h fun value _ he => he ▸ hn value

theorem alike_mono {similar : α → α' → Prop} {act : Act σ α} {other : Act σ' α'}
    (h : Alike states values act other)
    (hv : ∀ value value', values value value' → similar value value') :
    Alike states similar act other :=
  fun state state' hs => (h state state' hs).mono (fun _ _ reached => reached) hv

/-- A step and its result, a fault included. -/
theorem alike_result {act : Act σ α} {other : Act σ' α'} (h : Alike states values act other) :
    Alike states (Result.Alike values) act.attempt other.attempt := by
  intro state state' hs
  have parts := h state state' hs
  rw [run_attempt, run_attempt]
  generalize act.run state = one at parts ⊢
  generalize other.run state' = two at parts ⊢
  cases parts with
  | done same reached => exact .done (.ok same) reached
  | failed reached => exact .done (.error _) reached
  | exhausted => exact .exhausted

theorem alike_attempt {act : Act σ α} {other : Act σ' α} (h : Alike states Eq act other) :
    Alike states Eq act.attempt other.attempt :=
  alike_mono (alike_result h) fun _ _ same => same.eq

theorem alike_guarded {act : Act σ Unit} {other : Act σ' Unit} {report : Fault → Act σ Unit}
    {report' : Fault → Act σ' Unit} (h : Alike states Eq act other)
    (hr : ∀ fault, Alike states Eq (report fault) (report' fault)) :
    Alike states Eq (act.guarded report) (other.guarded report') := by
  apply alike_bind_eq (alike_attempt h)
  rintro (fault | _)
  · exact hr fault
  · exact alike_pure rfl

theorem alike_ofExcept {result : Except Fault α} {other : Except Fault α'}
    (h : Result.Alike values result other) :
    Alike states values (ofExcept result) (ofExcept other) := by
  cases h with
  | ok same => exact alike_pure same
  | error fault => exact alike_fail fault

theorem alike_followedBy {act : Act σ α} {other : Act σ' α'} {after : Act σ Unit}
    {after' : Act σ' Unit} (h : Alike states values act other)
    (ha : Alike states Eq after after') :
    Alike states values (act.followedBy after) (other.followedBy after') :=
  alike_bind (alike_result h) fun _ _ results => alike_bind_eq ha fun _ => alike_ofExcept results

end Act

theorem rel_self {values : α → α → Prop} (h : ∀ value, values value value) (found : Option α) :
    Option.Rel values found found := by
  cases found with
  | none => exact .none
  | some value => exact .some (h value)

theorem rel_map_self {related : β → α → Prop} {f : α → β}
    (hf : ∀ value, related (f value) value) (found : Option α) :
    Option.Rel related (found.map f) found := by
  cases found with
  | none => exact .none
  | some value => exact .some (hf value)

/-- What two mapped results have in common. -/
theorem map_eq_iff_rel {f : α → β} {found found' : Option α} : found.map f = found'.map f ↔
    Option.Rel (fun value value' => f value = f value') found found' := by
  constructor
  · intro h
    cases found with
    | none =>
      cases found' with
      | none => exact .none
      | some value => nomatch h
    | some value =>
      cases found' with
      | none => nomatch h
      | some value' => exact .some (Option.some.inj h)
  · rintro (same | _)
    · exact congrArg some same
    · rfl

theorem rel_map {values : α → α' → Prop} {results : β → β' → Prop} {f : α → β} {f' : α' → β'}
    (hf : ∀ value value', values value value' → results (f value) (f' value'))
    {found : Option α} {found' : Option α'} (h : Option.Rel values found found') :
    Option.Rel results (found.map f) (found'.map f') := by
  cases h with
  | none => exact .none
  | some same => exact .some (hf _ _ same)

/-- Two places whose contents correspond, and go on doing so. -/
structure Slot.Akin (states : σ → σ' → Prop) (values : τ → τ' → Prop) (slot : Slot σ τ)
    (other : Slot σ' τ') : Prop where
  get : ∀ state state', states state state' → values (slot.get state) (other.get state')
  set : ∀ value value', values value value' → ∀ state state', states state state' →
    states (slot.set value state) (other.set value' state')

namespace Slot.Akin

variable {values : τ → τ' → Prop} {slot : Slot σ τ} {other : Slot σ' τ'}
  (akin : slot.Akin states values other)

include akin

theorem read : Act.Alike states values slot.read other.read :=
  fun state state' hs => .done (akin.get state state' hs) hs

theorem write {value : τ} {value' : τ'} (h : values value value') :
    Act.Alike states Eq (slot.write value) (other.write value') :=
  fun state state' hs => .done rfl (akin.set value value' h state state' hs)

end Slot.Akin

/-- Two places that hold the same, and go on doing so. -/
structure Slot.Alike (states : σ → σ' → Prop) (slot : Slot σ τ) (other : Slot σ' τ) : Prop where
  get : ∀ state state', states state state' → slot.get state = other.get state'
  set : ∀ value state state', states state state' →
    states (slot.set value state) (other.set value state')

namespace Slot.Alike

variable {slot : Slot σ τ} {other : Slot σ' τ} (alike : slot.Alike states other)

include alike

theorem read : Act.Alike states Eq slot.read other.read :=
  fun state state' hs => .done (alike.get state state' hs) hs

theorem write (value : τ) : Act.Alike states Eq (slot.write value) (other.write value) :=
  fun state state' hs => .done rfl (alike.set value state state' hs)

theorem update (change : τ → τ) :
    Act.Alike states Eq (slot.update change) (other.update change) := by
  intro state state' hs
  rw [Slot.run_update, Slot.run_update, alike.get state state' hs]
  exact .done rfl (alike.set _ state state' hs)

theorem akin : slot.Akin states Eq other where
  get := alike.get
  set := by
    rintro value _ rfl
    exact alike.set value

end Slot.Alike
end KeyPrecedence
