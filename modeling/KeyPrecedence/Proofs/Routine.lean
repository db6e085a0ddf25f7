import KeyPrecedence.Proofs.Alike
import KeyPrecedence.Proofs.Ends

/-!
# The code of a host

* `Routine`: any code on a state of its own, which calls operations, gets their answers and faults,
  and may fail itself or never end;
* `Routine.keeps_run`: what every operation keeps, and the state of the code has no part in, lasts
  through such code; `Routine.Idle.keeps_run`: no operation matters to code that calls none;
* `Routine.Akin`, `Routine.alike_run`: code that does the same, answered alike, ends alike.
-/

namespace KeyPrecedence

open Act

variable {σ τ Op Ans α : Type}

/-- Code on a host with state `τ` that calls operations `Op` with answers in `Ans`. -/
inductive Routine (τ Op Ans α : Type) where
  | done (value : α)
  | failed (fault : Fault)
  | endless
  | look (next : τ → Routine τ Op Ans α)
  | put (host : τ) (next : Routine τ Op Ans α)
  | perform (operation : Op) (next : Except Fault Ans → Routine τ Op Ans α)

namespace Routine

/-- Runs code where its state has its place, and `perform` is what the operations do. -/
def run (host : Slot σ τ) (perform : Op → Act σ Ans) : Routine τ Op Ans α → Act σ α
  | done value => pure value
  | failed fault => .fail fault
  | endless => .exhausted
  | look next => do run host perform (next (← host.read))
  | put value next => do
    host.write value
    run host perform next
  | .perform operation next => do run host perform (next (← (perform operation).attempt))

/-- Operations one after another, whether they fail or not. -/
def inTurn : List Op → Routine τ Op Ans Unit
  | [] => done ()
  | operation :: rest => .perform operation fun _ => inTurn rest

theorem keeps_run {inv : σ → Prop} {host : Slot σ τ} {perform : Op → Act σ Ans}
    (free : ∀ value state, inv state → inv (host.set value state))
    (keeps : ∀ operation, Keeps inv (perform operation)) (code : Routine τ Op Ans α) :
    Keeps inv (code.run host perform) := by
  induction code with
  | done value => exact keeps_pure value
  | failed fault => exact keeps_fail fault
  | endless => exact keeps_exhausted
  | look next ih => exact fun state h => ih (host.get state) state h
  | put value next ih => exact fun state h => ih _ (free value state h)
  | perform operation next ih =>
    exact keeps_bind (keeps_attempt (keeps operation)) fun result => ih result

/-- Code that calls no operation. -/
inductive Idle : Routine τ Op Ans α → Prop
  | done (value : α) : Idle (done value)
  | failed (fault : Fault) : Idle (failed fault)
  | endless : Idle endless
  | look {next} (idle : ∀ host, Idle (next host)) : Idle (look next)
  | put (host : τ) {next} (idle : Idle next) : Idle (put host next)

theorem Idle.keeps_run {inv : σ → Prop} {host : Slot σ τ} {perform : Op → Act σ Ans}
    (free : ∀ value state, inv state → inv (host.set value state)) {code : Routine τ Op Ans α}
    (idle : code.Idle) : Keeps inv (code.run host perform) := by
  induction idle with
  | done value => exact keeps_pure value
  | failed fault => exact keeps_fail fault
  | endless => exact keeps_exhausted
  | look _ ih => exact fun state h => ih (host.get state) state h
  | put value _ ih => exact fun state h => ih _ (free value state h)

/-- Code that calls operations that correspond, and goes on in the same way after answers that
correspond. -/
inductive Akin {α' : Type} (ops : Op → Op → Prop) (answers : Ans → Ans → Prop)
    (values : α → α' → Prop) : Routine τ Op Ans α → Routine τ Op Ans α' → Prop
  | done {value value'} (same : values value value') :
    Akin ops answers values (done value) (done value')
  | failed (fault : Fault) : Akin ops answers values (failed fault) (failed fault)
  | endless : Akin ops answers values endless endless
  | look {next next'} (same : ∀ host, Akin ops answers values (next host) (next' host)) :
    Akin ops answers values (look next) (look next')
  | put (host : τ) {next next'} (same : Akin ops answers values next next') :
    Akin ops answers values (put host next) (put host next')
  | perform {operation operation' next next'} (asked : ops operation operation')
      (same : ∀ result result', Result.Alike answers result result' →
        Akin ops answers values (next result) (next' result')) :
    Akin ops answers values (perform operation next) (perform operation' next')

theorem alike_run {σ' α' : Type} {states : σ → σ' → Prop} {ops : Op → Op → Prop}
    {answers : Ans → Ans → Prop} {values : α → α' → Prop} {host : Slot σ τ} {other : Slot σ' τ}
    {perform : Op → Act σ Ans} {perform' : Op → Act σ' Ans} (hosts : host.Alike states other)
    (performs : ∀ operation operation', ops operation operation' →
      Act.Alike states answers (perform operation) (perform' operation'))
    {code : Routine τ Op Ans α} {code' : Routine τ Op Ans α'}
    (akin : code.Akin ops answers values code') :
    Act.Alike states values (code.run host perform) (code'.run other perform') := by
  induction akin with
  | done same => exact alike_pure same
  | failed fault => exact alike_fail fault
  | endless => exact alike_exhausted
  | look same ih => exact alike_bind_eq hosts.read ih
  | put value same ih => exact alike_bind_eq (hosts.write value) fun _ => ih
  | perform asked same ih => exact alike_bind (alike_result (performs _ _ asked)) ih

theorem akin_self (code : Routine τ Op Ans α) : code.Akin Eq Eq Eq code := by
  induction code with
  | done value => exact .done rfl
  | failed fault => exact .failed fault
  | endless => exact .endless
  | look next ih => exact .look ih
  | put host next ih => exact .put host ih
  | perform operation next ih =>
    refine .perform rfl fun result result' same => ?_
    rw [same.eq]
    exact ih result'

/-- The same code, where its operations do alike. -/
theorem alike_run_self {σ' : Type} {states : σ → σ' → Prop} {host : Slot σ τ} {other : Slot σ' τ}
    {perform : Op → Act σ Ans} {perform' : Op → Act σ' Ans} (hosts : host.Alike states other)
    (performs : ∀ operation, Act.Alike states Eq (perform operation) (perform' operation))
    (code : Routine τ Op Ans α) :
    Act.Alike states Eq (code.run host perform) (code.run other perform') :=
  alike_run hosts (fun operation _ same => same ▸ performs operation) code.akin_self

end Routine

/-- A step of a part of the state. -/
def Slot.act (slot : Slot σ τ) (act : Act τ α) : Act σ α := fun state =>
  match act.run (slot.get state) with
  | .done value part => .done value (slot.set part state)
  | .failed fault part => .failed fault (slot.set part state)
  | .exhausted => .exhausted

theorem Slot.run_act (slot : Slot σ τ) (act : Act τ α) (state : σ) :
    (slot.act act).run state =
      match act.run (slot.get state) with
      | .done value part => .done value (slot.set part state)
      | .failed fault part => .failed fault (slot.set part state)
      | .exhausted => .exhausted :=
  rfl

theorem Slot.ends_act (slot : Slot σ τ) (act : Act τ α) (state : σ) :
    (slot.act act).Ends state fun _ reached => ∃ part, reached = slot.set part state := by
  unfold Ends
  rw [slot.run_act]
  cases act.run (slot.get state) with
  | done value part => exact ⟨part, rfl⟩
  | failed fault part => exact ⟨part, rfl⟩
  | exhausted => trivial

end KeyPrecedence
