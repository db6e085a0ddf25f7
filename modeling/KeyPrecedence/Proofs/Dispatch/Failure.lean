import KeyPrecedence.Proofs.Dispatch.Audit
import KeyPrecedence.Proofs.Dispatch.Handover
import KeyPrecedence.Proofs.Dispatch.Kin
import KeyPrecedence.Proofs.Dispatch.Passage

/-!
# A dispatch that fails

* `Dispatcher.Sound`: nobody called arms a command, and neither the gate, the focus source nor the
  log fails;
* `Dispatcher.Sound.ends_dispatch`: a dispatch fails as one of those it calls, or because of a
  precedence that there is no step for; either way nothing is armed and the dispatcher has consumed
  nothing;
* `Dispatcher.Sound.run_unknown_iff`: when it is the precedence;
* `failing_dispatch_leaves_idle`: both, with what the next dispatch makes of it.
-/

namespace KeyPrecedence

open Act Annotated

variable {σ τ κ α : Type}

namespace Audited

/-- The host as a step leaves it, with the fault if it failed. -/
def after : Except Fault α → σ → Audited σ
  | .ok _, host => ⟨host, {}⟩
  | .error fault, host => ⟨host, { thrown := [fault] }⟩

theorem run_asked_eq_done {act : Act σ α} {state : σ} {value : α} {reached : Audited σ} :
    (asked Findings.add act).run ⟨state, {}⟩ = .done value reached ↔
      ∃ host, act.run state = .done value host ∧ reached = ⟨host, {}⟩ := by
  rw [asked, run_step]
  cases act.run state <;> simp [and_assoc, eq_comm]

/-- Whoever fails leaves the fault. -/
theorem asked_not_clean {act : Act σ α} {state reached : σ} {fault : Fault} :
    (asked Findings.add act).run ⟨state, {}⟩ ≠ .failed fault ⟨reached, {}⟩ := by
  rw [asked, run_step]
  cases act.run state <;> simp [Findings.add]

theorem ends_asked {act : Act σ α} {state : σ} {post : Except Fault α → σ → Prop}
    (h : act.Ends state post) : (asked Findings.add act).Ends ⟨state, {}⟩ fun result reached =>
      ∃ host, reached = after result host ∧ post result host := by
  unfold Act.Ends at *
  rw [asked, run_step]
  cases hr : act.run state with
  | done value host =>
    rw [hr] at h
    exact ⟨host, rfl, h⟩
  | failed fault host =>
    rw [hr] at h
    exact ⟨host, rfl, h⟩
  | exhausted => trivial

end Audited

open Audited

namespace Dispatcher

/-- Nobody called arms a command, and neither the gate nor the focus source fails, nor does the
log. -/
structure Sound (dispatcher : Dispatcher σ κ) (event : KeyEvent) : Prop where
  silent : dispatcher.Silent
  arrival : (dispatcher.arrival event).Succeeds fun _ => True
  log : ∀ notice state, ∃ told, (dispatcher.log notice).run state = .done () told
  armed : ∀ value state, dispatcher.armed.get (dispatcher.armed.set value state) = value

/-- What a dispatch leaves that was begun in `start`. If it has failed, nothing is armed and the
dispatcher has consumed nothing; the fault is that of the one who failed, or of the precedence. What
is armed was armed before or has a known tier. -/
structure Settled (dispatcher : Dispatcher σ κ) (start : σ) (result : Except Fault Bool)
    (reached : Audited σ) : Prop where
  failed : ∀ fault, result = .error fault → dispatcher.armed.get reached.host = none ∧
    (reached = after result reached.host ∨ reached = ⟨reached.host, {}⟩ ∧
      ∃ id name, fault = .unknownPrecedence id name)
  known : ∀ armed, dispatcher.armed.get reached.host = some armed →
    dispatcher.armed.get start = some armed ∨ ∃ tier, armed.command.command.precedence = .tier tier

variable {dispatcher : Dispatcher σ κ} {event : KeyEvent}

namespace Sound

variable (sound : dispatcher.Sound event)

include sound

/-- The log is told, and what is armed stays. -/
theorem run_log (notice : Notice) (audited : Audited σ) {armed : Option (Armed (Bound κ))}
    (h : dispatcher.ArmedAtMost armed audited.host) :
    ∃ told, (dispatcher.audited.log notice).run audited = .done () { audited with host := told } ∧
      dispatcher.ArmedAtMost armed told := by
  obtain ⟨told, hl⟩ := sound.log notice audited.host
  exact ⟨told, run_asked_of_done hl, ((sound.silent armed).log notice _ h).of_done hl⟩

/-- What an armed command does not absorb finds nothing armed. The same goes for one that fails. -/
theorem ends_continues (destination : Option Widget) {before : Option (Armed (Bound κ))} {state : σ}
    (h : dispatcher.ArmedAtMost before state) :
    (dispatcher.audited.holder.continues event destination).Ends ⟨state, {}⟩
      fun result reached =>
        (result = .ok true → dispatcher.ArmedAtMost before reached.host) ∧
        (result ≠ .ok true → ∃ host, reached = after result host ∧
          dispatcher.armed.get host = none) := by
  refine Slot.ends_read_bind.mpr ?_
  cases ha : dispatcher.armed.get state with
  | none =>
    rw [show dispatcher.audited.holder.armed.get ⟨state, {}⟩ = none from ha]
    exact ⟨nofun, fun _ => ⟨state, rfl, ha⟩⟩
  | some armed =>
    rw [show dispatcher.audited.holder.armed.get ⟨state, {}⟩ = some armed from ha]
    dsimp only
    have idle : dispatcher.ArmedAtMost none (dispatcher.armed.set none state) :=
      .inl (sound.armed none state)
    cases armed.verdict event.phase destination with
    | absorb => exact ⟨fun _ => h, fun other => absurd rfl other⟩
    | forfeit =>
      refine Slot.ends_write_bind.mpr ?_
      obtain ⟨told, hl, ht⟩ := sound.run_log (.forfeited armed.command.command.id event.phase
        event.input.key (destination.map (·.id))) ⟨_, {}⟩ idle
      refine (ends_bind_of_done hl).mpr ⟨nofun, fun _ => ⟨told, rfl, ht.idle⟩⟩
    | execute =>
      refine Slot.ends_write_bind.mpr ?_
      obtain ⟨told, hl, ht⟩ := sound.run_log (.executing armed.command.command.id event.input.key)
        ⟨_, {}⟩ idle
      refine (ends_bind_of_done hl).mpr (ends_attempt_bind.mpr ?_)
      have ran := ends_asked ((sound.silent none).run armed.command.command.execute
        armed.command.context told ht)
      apply ran.mono
      rintro (fault | _) _ ⟨host, rfl, hh⟩
      · obtain ⟨told, hl, ht⟩ := sound.run_log (.executionFailed armed.command.command.id fault)
          (after (.error fault : Except Fault Unit) host) hh
        exact (ends_bind_of_done hl).mpr ⟨nofun, fun _ => ⟨told, rfl, ht.idle⟩⟩
      · exact ⟨fun _ => .inl hh.idle, fun other => absurd rfl other⟩

/-- The command that wins is armed, and nobody fails meanwhile. -/
theorem run_award (bound : Bound κ) (destination : Option Widget) {state : σ}
    (idle : dispatcher.armed.get state = none) :
    ∃ awarded, (dispatcher.audited.award bound event destination).run ⟨state, {}⟩ =
        .done () awarded ∧
      dispatcher.ArmedAtMost (some ⟨bound, destination⟩) awarded.host := by
  have written : dispatcher.ArmedAtMost (some ⟨bound, destination⟩)
      (dispatcher.armed.set (some ⟨bound, destination⟩) state) := .inr (sound.armed _ state)
  obtain ⟨told, hl, ht⟩ := sound.run_log (.armed bound.command.id) ⟨_, {}⟩ written
  have arms : (dispatcher.audited.holder.arm bound destination).run ⟨state, {}⟩ =
      .done true ⟨told, {}⟩ := by
    unfold Holder.arm
    rw [run_bind, Slot.run_read, show dispatcher.audited.holder.armed.get ⟨state, {}⟩ = none
      from idle]
    exact run_bind_of_done hl
  exact ⟨_, run_bind_of_done arms, (sound.silent _).consumed event true told ht⟩

/-- What is ruled is carried out with nothing armed before. It fails only in giving feedback, or if
there is no step for the precedence. -/
theorem ends_carryOut (destination : Option Widget) (ruling : Ruling κ) {state : σ}
    (idle : dispatcher.armed.get state = none) (tiered : ruling.Tiered) :
    (dispatcher.audited.carryOut event destination ruling).Ends ⟨state, {}⟩
      fun result reached =>
        (∀ armed, dispatcher.armed.get reached.host = some armed →
          ∃ tier, armed.command.command.precedence = .tier tier) ∧
        ∀ fault, result = .error fault → dispatcher.armed.get reached.host = none ∧
          (reached = after result reached.host ∨ reached = ⟨reached.host, {}⟩ ∧
            ∃ bound name, ruling = .unknown bound name ∧
              fault = .unknownPrecedence bound.command.id name) := by
  have nothing {state : σ} (h : dispatcher.ArmedAtMost none state) :
      ∀ armed, dispatcher.armed.get state = some armed →
        ∃ tier, armed.command.command.precedence = .tier tier := by
    intro armed ha
    cases h.eq_some ha
  cases ruling with
  | left => exact ⟨nothing (.inl idle), nofun⟩
  | taken => exact ⟨nothing (.inl idle), nofun⟩
  | refuse bound =>
    obtain ⟨told, hl, ht⟩ := sound.run_log (.notEnabled bound.command.id) ⟨state, {}⟩ (.inl idle)
    refine (ends_bind_of_done hl).mpr ?_
    rw [audited_giveFeedback]
    apply (ends_asked ((sound.silent none).giveFeedback bound told ht)).bind
    · rintro _ _ ⟨host, rfl, hh⟩
      exact ⟨nothing hh, nofun⟩
    · rintro fault _ ⟨host, rfl, hh⟩
      exact ⟨nothing hh, fun _ _ => ⟨hh.idle, .inl rfl⟩⟩
  | arm bound notice =>
    obtain ⟨awarded, hw, ha⟩ := sound.run_award bound destination idle
    obtain ⟨told, hl, ht⟩ := sound.run_log notice awarded ha
    refine (ends_bind_of_done hw).mpr ((ends_bind_of_done hl).mpr ⟨?_, nofun⟩)
    intro armed now
    cases ht.eq_some now
    exact tiered
  | unknown bound name =>
    obtain ⟨told, hl, ht⟩ := sound.run_log (.unhandled (.unknownPrecedence bound.command.id name))
      ⟨state, {}⟩ (.inl idle)
    refine (ends_bind_of_done hl).mpr ⟨nothing ht, ?_⟩
    rintro _ ⟨⟩
    exact ⟨ht.idle, .inr ⟨rfl, bound, name, rfl, rfl⟩⟩

/-- However a dispatch fails, it leaves nothing behind. -/
theorem ends_dispatch (state : σ) :
    (dispatcher.audited.dispatch event).Ends ⟨state, {}⟩ (dispatcher.Settled state) := by
  have kept {reached : σ} (h : dispatcher.ArmedAtMost (dispatcher.armed.get state) reached) :
      ∀ armed, dispatcher.armed.get reached = some armed →
        dispatcher.armed.get state = some armed ∨
          ∃ tier, armed.command.command.precedence = .tier tier := by
    intro armed ha
    exact .inl (h.eq_some ha)
  have nothing {reached : σ} (h : dispatcher.armed.get reached = none) :
      ∀ armed, dispatcher.armed.get reached = some armed →
        dispatcher.armed.get state = some armed ∨
          ∃ tier, armed.command.command.precedence = .tier tier := kept (.inl h)
  have arrives := ends_asked (ends_and
    ((sound.silent _).arrival event state (.inr rfl)) (sound.arrival state))
  unfold Dispatcher.dispatch
  rw [audited_arrival]
  apply arrives.bind
  · rintro (_ | destination) _ ⟨arrived, rfl, ha, -⟩
    case none => exact ⟨nofun, kept ha⟩
    apply (sound.ends_continues destination ha).bind
    · rintro (_ | _) _ ⟨absorbed, past⟩
      case true => exact ⟨nofun, kept (absorbed rfl)⟩
      obtain ⟨free, rfl, idle⟩ := past nofun
      rw [if_neg (by simp), dispatchFree_eq, audited_judge]
      apply (ends_asked ((sound.silent none).judge event destination free (.inl idle))).bind
      · rintro ruling _ ⟨judged, rfl, hj, tiered⟩
        apply (sound.ends_carryOut destination ruling hj.idle (tiered ruling rfl)).mono
        rintro result reached ⟨known, failed⟩
        refine ⟨fun fault he => ?_, fun armed ha => .inr (known armed ha)⟩
        obtain ⟨idle, own | ⟨unharmed, bound, name, -, unknown⟩⟩ := failed fault he
        · exact ⟨idle, .inl own⟩
        · exact ⟨idle, .inr ⟨unharmed, _, _, unknown⟩⟩
      · rintro fault _ ⟨judged, rfl, hj, -⟩
        have idle : dispatcher.armed.get judged = none := hj.idle
        exact ⟨fun _ _ => ⟨idle, .inl rfl⟩, nothing idle⟩
    · rintro fault _ ⟨-, past⟩
      obtain ⟨host, rfl, idle⟩ := past nofun
      exact ⟨fun _ _ => ⟨idle, .inl rfl⟩, nothing idle⟩
  · rintro fault _ ⟨-, -, -, headed, he, -⟩
    cases he

end Sound

/-! ## When there is no step for a precedence -/

namespace Sound

variable (sound : dispatcher.Sound event)

include sound

theorem ends_continues_past (destination : Option Widget) (arrived : σ) :
    (dispatcher.audited.holder.continues event destination).Ends ⟨arrived, {}⟩
      fun result reached => result ≠ .ok true →
        ∃ host, reached = after result host ∧ dispatcher.armed.get host = none :=
  (sound.ends_continues destination (.inr rfl)).mono fun _ _ h => h.2

/-- Nothing is put down when an event goes past the armed command. -/
theorem run_continues_past_iff {destination : Option Widget} {arrived : σ} {mid : Audited σ} :
    (dispatcher.audited.holder.continues event destination).run ⟨arrived, {}⟩ = .done false mid ↔
      ∃ free, (dispatcher.holder.continues event destination).run arrived = .done false free ∧
        mid = ⟨free, {}⟩ := by
  have alike := (dispatcher.annotated_alike .findings).continues event destination
  have clean {mid : Audited σ} (h : (dispatcher.audited.holder.continues event destination).run
      ⟨arrived, {}⟩ = .done false mid) : mid.record = {} := by
    obtain ⟨free, same, -⟩ := (sound.ends_continues_past destination arrived).of_done h nofun
    rw [same]
    rfl
  constructor
  · intro h
    refine ⟨mid.host, (run_host_eq_done alike).mpr ⟨mid.record, h⟩, ?_⟩
    rw [← clean h]
  · rintro ⟨free, h, rfl⟩
    have noted : (dispatcher.holder.continues event destination).run
        (⟨arrived, {}⟩ : Audited σ).host = .done false free := h
    obtain ⟨findings, hm⟩ := (run_host_eq_done alike).mp noted
    obtain rfl : findings = {} := clean hm
    exact hm

theorem idle_of_past {destination : Option Widget} {arrived free : σ}
    (h : (dispatcher.holder.continues event destination).run arrived = .done false free) :
    dispatcher.armed.get free = none := by
  have past := sound.run_continues_past_iff.mpr ⟨free, h, rfl⟩
  obtain ⟨host, same, idle⟩ := (sound.ends_continues_past destination arrived).of_done past nofun
  cases same
  exact idle

/-- Carrying out fails by itself only for want of a step. -/
theorem run_carryOut_unknown_iff {destination : Option Widget} {ruling : Ruling κ} {judged : σ}
    (idle : dispatcher.armed.get judged = none) (tiered : ruling.Tiered) {fault : Fault} :
    (∃ reached, (dispatcher.audited.carryOut event destination ruling).run ⟨judged, {}⟩ =
        .failed fault ⟨reached, {}⟩) ↔
      ∃ bound name, ruling = .unknown bound name ∧
        fault = .unknownPrecedence bound.command.id name := by
  constructor
  · rintro ⟨reached, h⟩
    obtain ⟨-, own | ⟨-, unknown⟩⟩ :=
      ((sound.ends_carryOut destination ruling idle tiered).of_failed h).2 fault rfl
    · exact absurd (congrArg (·.record.thrown) own) (by simp [after])
    · exact unknown
  · rintro ⟨bound, name, rfl, rfl⟩
    have still : dispatcher.ArmedAtMost none judged := .inl idle
    obtain ⟨told, hl, -⟩ := sound.run_log (.unhandled (.unknownPrecedence bound.command.id name))
      ⟨judged, {}⟩ still
    exact ⟨told, run_bind_of_done hl⟩

/-- With nothing armed it is the precedence exactly when nothing else has stopped the command. -/
theorem run_dispatchFree_unknown_iff {destination : Option Widget} {free : σ}
    (idle : dispatcher.armed.get free = none) {id name : String} :
    (∃ reached, (dispatcher.audited.dispatchFree event destination).run ⟨free, {}⟩ =
        .failed (.unknownPrecedence id name) ⟨reached, {}⟩) ↔
      ∃ bound found passed, dispatcher.Resolves event bound free found ∧ bound.command.id = id ∧
        bound.command.precedence = .unknown name ∧
        dispatcher.Passes event destination bound found passed := by
  have carried {ruling : Ruling κ} {judged : σ}
      (hj : (dispatcher.judge event destination).run free = .done ruling judged) {fault : Fault} :
      (∃ reached, (dispatcher.audited.carryOut event destination ruling).run ⟨judged, {}⟩ =
          .failed fault ⟨reached, {}⟩) ↔
        ∃ bound name, ruling = .unknown bound name ∧
          fault = .unknownPrecedence bound.command.id name := by
    obtain ⟨still, tiered⟩ :=
      ((sound.silent none).judge event destination free (.inl idle)).of_done hj
    exact sound.run_carryOut_unknown_iff still.idle (tiered ruling rfl)
  rw [dispatchFree_eq, audited_judge]
  constructor
  · rintro ⟨reached, h⟩
    rcases run_bind_eq_failed.mp h with hf | ⟨ruling, _, hq, h⟩
    · exact absurd hf asked_not_clean
    obtain ⟨judged, hj, rfl⟩ := run_asked_eq_done.mp hq
    obtain ⟨bound, known, rfl, same⟩ := (carried hj).mp ⟨reached, h⟩
    cases same
    obtain ⟨hp, found, resolves, passes⟩ := run_judge_unknown_iff.mp hj
    exact ⟨bound, found, judged, resolves, rfl, hp, passes⟩
  · rintro ⟨bound, found, passed, resolves, rfl, hp, passes⟩
    have hj := run_judge_unknown_iff.mpr ⟨hp, found, resolves, passes⟩
    obtain ⟨reached, hr⟩ := (carried hj).mpr ⟨bound, name, rfl, rfl⟩
    exact ⟨reached, (run_bind_of_done (run_asked_eq_done.mpr ⟨passed, hj, rfl⟩)).trans hr⟩

/-- A dispatch fails by itself exactly when the command that is found has a precedence without a
step, and nobody has taken the event before. -/
theorem run_unknown_iff {id name : String} {state : σ} :
    (∃ reached, (dispatcher.audited.dispatch event).run ⟨state, {}⟩ =
        .failed (.unknownPrecedence id name) ⟨reached, {}⟩) ↔
      ∃ destination bound found passed, dispatcher.Finds event destination bound state found ∧
        bound.command.id = id ∧ bound.command.precedence = .unknown name ∧
        dispatcher.Passes event destination bound found passed := by
  unfold Dispatcher.dispatch
  rw [audited_arrival]
  constructor
  · rintro ⟨reached, h⟩
    rcases run_bind_eq_failed.mp h with hf | ⟨headed, _, hq, h⟩
    · exact absurd hf asked_not_clean
    obtain ⟨arrived, ha, rfl⟩ := run_asked_eq_done.mp hq
    cases headed with
    | none => cases h
    | some destination =>
      rcases run_bind_eq_failed.mp h with hf | ⟨absorbed, _, hq, h⟩
      · obtain ⟨host, same, -⟩ := (sound.ends_continues_past destination arrived).of_failed hf nofun
        exact absurd (congrArg (·.record.thrown) same) (by simp [after])
      cases absorbed with
      | true => cases h
      | false =>
        obtain ⟨free, hc, rfl⟩ := sound.run_continues_past_iff.mp hq
        obtain ⟨bound, found, passed, resolves, named, hp, passes⟩ :=
          (sound.run_dispatchFree_unknown_iff (sound.idle_of_past hc)).mp ⟨reached, h⟩
        exact ⟨destination, bound, found, passed, ⟨arrived, free, ha, hc, resolves⟩, named, hp,
          passes⟩
  · rintro ⟨destination, bound, found, passed, ⟨arrived, free, ha, hc, resolves⟩, named, hp, passes⟩
    obtain ⟨reached, hr⟩ := (sound.run_dispatchFree_unknown_iff (sound.idle_of_past hc)).mpr
      ⟨bound, found, passed, resolves, named, hp, passes⟩
    refine ⟨reached, ?_⟩
    rw [run_bind_of_done (run_asked_eq_done.mpr ⟨arrived, ha, rfl⟩)]
    dsimp only
    rw [run_bind_of_done (sound.run_continues_past_iff.mpr ⟨free, hc, rfl⟩)]
    exact hr

end Sound
end Dispatcher

/-! ## In a scene where no callback dispatches -/

/-- Code that does not fail unless it dispatches an event, and whose values are good. -/
def Code.Succeeds (good : α → Prop) (code : Code τ κ α) : Prop :=
  (code.run fun _ => .exhausted).Succeeds good

/-- The gate's questions and those for the focus owner do not fail, and the log always works. -/
structure Surroundings.Dependable (around : Surroundings τ κ) : Prop where
  rootOf : ∀ widget, (around.toolkit.rootOf widget).Succeeds fun root =>
    ∀ isBusy, root = some isBusy → isBusy.Succeeds fun _ => True
  owner : around.focus.owner.Succeeds fun _ => True
  log : ∀ notice host, ∃ told, (around.log notice).run host = .done () told

/-- The same host with a new dispatcher. -/
def Scene.renewed (scene : Scene τ κ) : Scene τ κ := { host := scene.host, heard := scene.heard }

namespace Surroundings

variable (around : Surroundings τ κ)

/-- Dispatches an event, and gives what those who were called failed with and what the dispatcher
itself consumed. No callback dispatches an event in turn. -/
def audit (event : KeyEvent) : Act (Scene τ κ) (Observation Findings Bool) :=
  around.annotate .findings {} 0 event

/-- Where nothing can be dispatched, nobody called arms a command. -/
theorem silent (event : KeyEvent) : (around.dispatcher (around.dispatch 0) event).Silent := by
  intro armed
  have robust : Scene.Robust fun scene : Scene τ κ => scene.armed = none ∨ scene.armed = armed :=
    ⟨fun _ _ h => h, fun _ _ => .inl rfl⟩
  have inner (event : KeyEvent) :
      Keeps (fun scene : Scene τ κ => scene.armed = none ∨ scene.armed = armed)
        (around.dispatch 0 event) := keeps_exhausted
  exact
    { around.othersKeep robust inner event with
      owner := keeps_bind (robust.keeps_run inner _) fun _ => fun _ h => h
      window := keeps_bind (robust.keeps_run inner _) fun _ => fun _ h => h
      run := fun callback context => keeps_bind (keeps_modify fun _ h => h)
        fun _ => robust.keeps_run inner _ }

namespace Dependable

variable {around : Surroundings τ κ} (dependable : around.Dependable) (event : KeyEvent)

include dependable

theorem run_log (notice : Notice) (scene : Scene τ κ) :
    ∃ told, ((around.dispatcher (around.dispatch 0) event).log notice).run scene = .done () told := by
  obtain ⟨host, hl⟩ := dependable.log notice scene.host
  refine ⟨{ scene with host }, ?_⟩
  show (Scene.onHost (around.log notice)).run scene = _
  rw [Scene.run_onHost, hl]

theorem arrival_succeeds :
    ((around.dispatcher (around.dispatch 0) event).arrival event).Succeeds fun _ => True := by
  have tell (notice : Notice) : (do
      (around.dispatcher (around.dispatch 0) event).log notice
      return true : Act (Scene τ κ) Bool).Succeeds fun _ => True := by
    intro scene
    obtain ⟨told, hl⟩ := dependable.run_log event notice scene
    exact (ends_bind_of_done hl).mpr ⟨true, rfl, trivial⟩
  have blocked : ((around.dispatcher (around.dispatch 0) event).toolkit.isBlocked
      (around.dispatcher (around.dispatch 0) event).log event).Succeeds fun _ => True := by
    unfold Toolkit.isBlocked
    cases event.source with
    | none => exact succeeds_pure trivial
    | some source =>
      have asked : ((around.dispatcher (around.dispatch 0) event).toolkit.rootOf source).Succeeds
          fun root => ∀ isBusy, root = some isBusy → isBusy.Succeeds fun _ => True := by
        apply (dependable.rootOf source).bind
        intro root hb
        apply succeeds_pure
        intro isBusy he
        obtain ⟨code, hc, rfl⟩ := Option.map_eq_some_iff.mp he
        exact hb code hc
      apply asked.bind
      rintro (_ | isBusy) hb
      · exact tell _
      · apply (hb isBusy rfl).bind
        rintro (_ | _) -
        · exact succeeds_pure trivial
        · exact tell _
  have headed : ((around.dispatcher (around.dispatch 0) event).destinationOf event).Succeeds
      fun _ => True := by
    unfold Dispatcher.destinationOf
    cases event.source with
    | none => exact dependable.owner.bind fun owner _ scene => ⟨owner, rfl, trivial⟩
    | some source => exact succeeds_pure trivial
  apply blocked.bind
  rintro (_ | _) -
  · exact headed.bind fun _ _ => succeeds_pure trivial
  · exact succeeds_pure trivial

theorem sound : (around.dispatcher (around.dispatch 0) event).Sound event where
  silent := around.silent event
  arrival := dependable.arrival_succeeds event
  log := dependable.run_log event
  armed value scene := by cases value <;> rfl

end Dependable
end Surroundings

/-- If no callback dispatches an event, and neither the gate, the focus source nor the log fails,
then a dispatch that fails does so as the one of those called who has failed, and nobody else has;
or it fails because the command it has found is of a precedence that there is no step for. Either
way nothing is armed, the dispatcher itself has consumed nothing, and what is dispatched next goes
as it does with a new dispatcher. The precedence is the cause exactly when text routing, listeners,
bindings, validity and enablement have let the event pass to the command. No such command is ever
armed. -/
theorem failing_dispatch_leaves_idle (around : Surroundings τ κ) (dependable : around.Dependable)
    (event : KeyEvent) (scene : Scene τ κ) :
    let dispatcher := around.dispatcher (around.dispatch 0) event
    Observation.result <$> around.audit event = (around.dispatch 1 event).attempt ∧
    (∀ audit reached, (around.audit event).run scene = .done audit reached →
      (∀ fault, audit.result = .error fault →
        (audit.record.thrown = [fault] ∨
          audit.record.thrown = [] ∧ ∃ id name, fault = .unknownPrecedence id name) ∧
        reached.armed = none ∧ audit.record.marked = [] ∧
        ∀ depth next, Outcome.Alike (Scene.Kin Eq reached.history []) Eq
          ((around.observe depth next).run reached)
          ((around.observe depth next).run reached.renewed)) ∧
      ∀ armed, reached.armed = some armed →
        scene.armed = some armed ∨ ∃ tier, armed.command.command.precedence = .tier tier) ∧
    ∀ id name, (∃ reached, (around.audit event).run scene =
        .done ⟨.error (.unknownPrecedence id name), {}⟩ reached) ↔
      ∃ destination bound found passed,
        dispatcher.Finds event destination bound { scene with heard := {} } found ∧
        bound.command.id = id ∧ bound.command.precedence = .unknown name ∧
        dispatcher.Passes event destination bound found passed := by
  intro dispatcher
  refine ⟨around.result_annotate .findings {} 0 event, ?_, ?_⟩
  · intro audit reached hr
    have settled := (dependable.sound event).ends_dispatch { scene with heard := {} }
    rw [Surroundings.audit, Surroundings.run_annotate] at hr
    unfold Act.Ends at settled
    generalize Act.run _ _ = outcome at hr settled
    cases outcome with
    | exhausted => cases hr
    | done value audited =>
      cases hr
      exact ⟨nofun, settled.known⟩
    | failed fault audited =>
      cases hr
      refine ⟨?_, settled.known⟩
      rintro _ ⟨⟩
      obtain ⟨idle, cause⟩ := settled.failed fault rfl
      let last : Scene τ κ := { audited.host with heard := scene.heard }
      have kin : Scene.Kin Eq last.history [] last last.renewed :=
        ⟨rfl, idle, rfl, [], (List.append_nil _).symm, rfl⟩
      have again (depth : Nat) (next : KeyEvent) :=
        around.impartial_self.alike_observe depth next last last.renewed kin
      rcases cause with own | ⟨unharmed, unknown⟩
      · exact ⟨.inl (congrArg (·.record.thrown) own), idle, congrArg (·.record.marked) own, again⟩
      · exact ⟨.inr ⟨congrArg (·.record.thrown) unharmed, unknown⟩, idle,
          congrArg (·.record.marked) unharmed, again⟩
  · intro id name
    rw [← (dependable.sound event).run_unknown_iff]
    simp only [Surroundings.audit, Surroundings.run_annotate]
    constructor
    · rintro ⟨reached, h⟩
      generalize Act.run _ _ = outcome at h ⊢
      cases outcome with
      | exhausted => cases h
      | done value audited => cases h
      | failed fault audited =>
        obtain ⟨host, findings⟩ := audited
        cases h
        exact ⟨host, rfl⟩
    · rintro ⟨reached, h⟩
      rw [h]
      exact ⟨_, rfl⟩

namespace Bare

theorem dependable (registry : Registry Unit) : (Surroundings.bare registry).Dependable where
  rootOf _ scene := by
    refine ⟨_, rfl, ?_⟩
    rintro isBusy ⟨⟩ scene
    exact ⟨_, rfl, trivial⟩
  owner scene := ⟨_, rfl, trivial⟩
  log _ host := ⟨host, rfl⟩

/-- The help, with a precedence that came later. -/
def urgent : Command Unit := { help with id := "urgent", precedence := .unknown "urgent" }

/-- The command gets as far as its precedence. It is not armed then, and the key is not left to the
host as if there were no command for it. -/
theorem urgent_unhandled :
    let around := Surroundings.bare { commands := [urgent] }
    let dispatcher := around.dispatcher (around.dispatch 0) pressF1
    around.Dependable ∧
    ∃ reached, (around.audit pressF1).run { host := {} } =
        .done ⟨.error (.unknownPrecedence "urgent" "urgent"), {}⟩ reached ∧
      reached.armed = none ∧ reached.host.consumed = false ∧
      ∃ destination bound found passed,
        dispatcher.Finds pressF1 destination bound { host := {} } found ∧ bound.command.id = "urgent" ∧
        dispatcher.Passes pressF1 destination bound found passed := by
  intro around dispatcher
  obtain ⟨-, settled, unknown⟩ :=
    failing_dispatch_leaves_idle around (dependable _) pressF1 { host := {} }
  have ran : (around.audit pressF1).seen? { host := {} } (fun observation reached =>
      (observation.fault?, observation.record, reached.host.consumed)) =
        some (some (.unknownPrecedence "urgent" "urgent"), {}, false) := by
    decide +kernel
  obtain ⟨⟨result, findings⟩, reached, hr, seen⟩ := seen?_eq_some.mp ran
  obtain ⟨failed, rfl, consumed⟩ : _ ∧ findings = {} ∧ reached.host.consumed = false := by
    simpa using seen
  cases Observation.fault?_eq_some.mp failed
  obtain ⟨-, idle, -, -⟩ := (settled _ reached hr).1 _ rfl
  obtain ⟨destination, bound, found, passed, finds, named, -, passes⟩ :=
    (unknown "urgent" "urgent").mp ⟨reached, hr⟩
  exact ⟨dependable _, reached, hr, idle, consumed, destination, bound, found, passed, finds, named,
    passes⟩

end Bare

end KeyPrecedence
