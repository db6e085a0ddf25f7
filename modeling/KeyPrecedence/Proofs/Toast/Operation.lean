import KeyPrecedence.Toast.Operation
import KeyPrecedence.Proofs.Ends

/-!
# Where operations on toasts end

* `ToastHost.ends_add`, `ToastHost.ends_dismiss`: a toast is added or taken off by publishing the
  board without it or with it, if at all;
* `ToastHost.ends_fireUntil`: time passes timer by timer;
* `ToastHost.keeps_add`, `ToastHost.keeps_advance`: what lasts through all that is published and
  fired.
-/

namespace KeyPrecedence.ToastHost

open Act

variable {σ ν : Type} {host : ToastHost σ ν} {inv : σ → Prop} {state : σ}

section
variable {post : Except Fault String → σ → Prop}

/-- A toast is added under a given id: the board it is placed on is published, if there is room. -/
theorem ends_add_named {content id : String} {options : ToastOptions}
    (unplaced : (host.board.get state).place (options.toast id content) = none → post (.ok id) state)
    (placed : ∀ board, (host.board.get state).place (options.toast id content) = some board →
      (host.publish board).Ends state fun result reached => post (result.map fun _ => id) reached) :
    (host.add content { options with id := some id }).Ends state post := by
  unfold add
  dsimp only
  rw [pure_bind]
  refine Slot.ends_read_bind.mpr ?_
  split
  · rename_i room
    exact unplaced room
  · rename_i board room
    exact (placed board room).bind (fun _ _ h => h) fun _ _ h => h

/-- A toast is added under the id asked for, or else under one that the host comes up with. -/
theorem ends_add {content : String} {options : ToastOptions}
    (named : ∀ id, options.id = some id →
      (host.add content { options with id := some id }).Ends state post)
    (unnamed : options.id = none → host.freshId.Ends state fun result reached =>
      match result with
      | .ok id => (host.add content { options with id := some id }).Ends reached post
      | .error fault => post (.error fault) reached) :
    (host.add content options).Ends state post := by
  cases asked : options.id with
  | some id =>
    have same : options = { options with id := some id } := by rw [← asked]
    exact same ▸ named id asked
  | none =>
    have fresh : host.add content options =
        host.freshId >>= fun id => host.add content { options with id := some id } := by
      unfold add
      rw [asked]
      rfl
    rw [fresh]
    exact (unnamed asked).bind (fun _ _ h => h) fun _ _ h => h

end

section
variable {post : Except Fault Unit → σ → Prop}

/-- A toast that is shown is taken off, and the board published. Where none is, no more than a timer
is stopped, and nobody is told. -/
theorem ends_dismiss {id : String}
    (shown : (host.publish ((host.board.get state).remove id).1).Ends state post)
    (absent : (host.board.get state).has id = false →
      post (.ok ()) (host.board.set ((host.board.get state).remove id).1 state)) :
    (host.dismiss id).Ends state post := by
  refine Slot.ends_read_bind.mpr ?_
  show Ends (if (host.board.get state).has id then _ else _) _ _
  split
  · exact shown
  · rename_i off
    exact absent (by simpa using off)

theorem ends_firing {timer : Timer}
    (dismissed : (host.dismiss timer.subject).Ends
      (host.board.set ((host.board.get state).fire timer) state) fun _ => inv)
    (reported : ∀ fault, Keeps inv (host.timerFailed fault)) :
    (host.firing timer).Ends state fun _ => inv := by
  refine Slot.ends_update_bind.mpr (ends_attempt_bind.mpr (dismissed.mono ?_))
  rintro (fault | _) reached h
  · exact reported fault reached h
  · exact h

/-- Timers fire one after another, and then the clock is brought to the limit. -/
theorem ends_fireUntil (inv : σ → Prop) {limit : Number}
    (fires : ∀ state timer, inv state → (host.board.get state).clock.next limit = some timer →
      (host.firing timer).Ends state fun result reached =>
        match result with
        | .ok () => inv reached
        | .error fault => post (.error fault) reached)
    (settles : ∀ state, inv state → (host.board.get state).clock.next limit = none →
      post (.ok ()) (host.board.set ((host.board.get state).setTime limit) state)) :
    ∀ allowance state, inv state → (host.fireUntil limit allowance).Ends state post
  | 0, _, _ => trivial
  | allowance + 1, state, h => by
    refine Slot.ends_read_bind.mpr ?_
    split
    · rename_i next
      exact settles state h next
    · rename_i timer next
      refine (fires state timer h next).bind (fun _ reached kept => ?_) fun _ _ failed => failed
      exact ends_fireUntil inv fires settles allowance reached kept

end

/-- An addition keeps what naming the toast and publishing the board it is placed on keep. -/
theorem keeps_add (fresh : Keeps inv host.freshId)
    (publishes : ∀ {toast board state}, inv state →
      (host.board.get state).place toast = some board → (host.publish board).Ends state fun _ => inv)
    (content : String) (options : ToastOptions) : Keeps inv (host.add content options) := by
  have placed (id : String) : Keeps inv (host.add content { options with id := some id }) :=
    fun _ h => ends_add_named (fun _ => h) fun _ room => publishes h room
  intro state h
  refine ends_add (fun id _ => placed id state h) fun _ => (fresh state h).mono ?_
  rintro (fault | id) reached kept
  · exact kept
  · exact placed id reached kept

/-- Time that passes keeps what each timer that fires keeps, and the clock has no part in. -/
theorem keeps_advance
    (fires : ∀ state limit timer, inv state → (host.board.get state).clock.next limit = some timer →
      (host.firing timer).Ends state fun _ => inv)
    (settles : ∀ state now, inv state →
      inv (host.board.set ((host.board.get state).setTime now) state))
    (ms : Number) : Keeps inv (host.advance ms) := by
  intro state h
  refine Slot.ends_read_bind.mpr (ends_fireUntil inv ?_ ?_ host.allowance state h)
  · intro state timer h next
    refine (fires state _ timer h next).mono ?_
    rintro (fault | _) reached kept <;> exact kept
  · exact fun state h _ => settles state _ h

end KeyPrecedence.ToastHost
