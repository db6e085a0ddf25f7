import KeyPrecedence.Dispatch.Installation
import KeyPrecedence.Proofs.Dispatch.Ruling
import KeyPrecedence.Proofs.Dispatch.SystemTier

/-!
# Left to the host, or claimed by a command

* `Dispatcher.Reticent`: the event is consumed only by those who may take it;
* `Dispatcher.ends_dispatch`: an event is left to the host unconsumed and with nothing armed, and a
  command that is armed has consumed it;
* `Crew`: several dispatchers of one host, with a pipeline for them;
* `left_or_claimed`: the same of a delivery to all of them.
-/

namespace KeyPrecedence

open Act

variable {σ κ δ : Type}

/-- The toolkit as all are asked but the listeners. -/
def Toolkit.unheard (toolkit : Toolkit (Act σ)) : Toolkit (Act σ) :=
  { toolkit with listenersOf := fun _ => pure fun _ => pure none }

namespace Dispatcher

/-- Nothing is armed, unless it is this. -/
def ArmedAtMost (dispatcher : Dispatcher σ κ) (armed : Option (Armed (Bound κ))) (state : σ) : Prop :=
  dispatcher.armed.get state = none ∨ dispatcher.armed.get state = armed

theorem ArmedAtMost.idle {dispatcher : Dispatcher σ κ} {state : σ}
    (h : dispatcher.ArmedAtMost none state) : dispatcher.armed.get state = none :=
  h.elim id id

theorem ArmedAtMost.eq_some {dispatcher : Dispatcher σ κ} {before : Option (Armed (Bound κ))}
    {armed : Armed (Bound κ)} {state : σ} (h : dispatcher.ArmedAtMost before state)
    (now : dispatcher.armed.get state = some armed) : before = some armed := by
  rcases h with idle | same
  · rw [idle] at now
    cases now
  · exact same.symm.trans now

def Unconsumed (dispatcher : Dispatcher σ κ) (event : KeyEvent) (state : σ) : Prop :=
  (dispatcher.consumed event).get state = false

/-- Nobody called arms a command: for that an event has to be dispatched. -/
def Silent (dispatcher : Dispatcher σ κ) : Prop :=
  ∀ armed, dispatcher.AllKeep (dispatcher.ArmedAtMost armed)

/-- A command whose validity predicate does not consume the event when it says no. -/
def Discreet (dispatcher : Dispatcher σ κ) (event : KeyEvent) (command : Command κ) : Prop :=
  ∀ callback ∈ command.valid, ∀ context state, dispatcher.Unconsumed event state →
    (dispatcher.calls.decide callback context).Ends state
      fun result reached => result = .ok false → dispatcher.Unconsumed event reached

/-- Listeners may consume the event. So may whoever says that it is taken, and the predicates of a
command that is valid, for then the event is handled; nobody else does. -/
structure Reticent (dispatcher : Dispatcher σ κ) (event : KeyEvent) : Prop where
  toolkit : dispatcher.toolkit.unheard.Keeps (dispatcher.Unconsumed event)
  owner : Keeps (dispatcher.Unconsumed event) dispatcher.focus.owner
  window : Keeps (dispatcher.Unconsumed event) dispatcher.focus.window
  commandFor : ∀ keystroke window state, dispatcher.Unconsumed event state →
    (dispatcher.commandFor keystroke window).Ends state fun result reached =>
      dispatcher.Unconsumed event reached ∧
        ∀ command, result = .ok (some command) → dispatcher.Discreet event command
  menu : ∀ state, dispatcher.Unconsumed event state → (dispatcher.drivesMenu event).Ends state
    fun result reached => result = .ok false → dispatcher.Unconsumed event reached
  log : ∀ notice, Keeps (dispatcher.Unconsumed event) (dispatcher.log notice)
  armed : ∀ armed state, dispatcher.Unconsumed event state →
    dispatcher.Unconsumed event (dispatcher.armed.set armed state)

variable {dispatcher : Dispatcher σ κ} {event : KeyEvent}

/-- A command that is not valid has not consumed the event. -/
theorem Discreet.ends_isValid {bound : Bound κ} (discreet : dispatcher.Discreet event bound.command)
    {state : σ} (h : dispatcher.Unconsumed event state) :
    (bound.isValid dispatcher.calls).Ends state
      fun result reached => result = .ok false → dispatcher.Unconsumed event reached := by
  unfold Bound.isValid
  cases asked : bound.command.valid with
  | none => nofun
  | some callback => exact discreet callback asked bound.context state h

namespace Reticent

variable (reticent : dispatcher.Reticent event)

include reticent

theorem arrival : Keeps (dispatcher.Unconsumed event) (dispatcher.arrival event) := by
  have gate : Keeps (dispatcher.Unconsumed event)
      (dispatcher.toolkit.isBlocked dispatcher.log event) :=
    reticent.toolkit.isBlocked reticent.log event
  exact keeps_arrival gate reticent.owner

/-- Listeners may have consumed the event only if it is taken. -/
theorem ends_takenBefore (destination focusOwner : Option Widget) (keystroke : Keystroke) {state : σ}
    (h : dispatcher.Unconsumed event state) :
    (dispatcher.takenBefore event destination focusOwner keystroke).Ends state
      fun result reached => ∀ taken, result = .ok taken → taken ≠ some true →
        dispatcher.Unconsumed event reached := by
  have leave (notice : Notice) {state : σ} (h : dispatcher.Unconsumed event state) :
      (do dispatcher.log notice; return some false : Act σ (Option Bool)).Ends state
        fun result reached => ∀ taken, result = .ok taken → taken ≠ some true →
          dispatcher.Unconsumed event reached := by
    apply (reticent.log notice state h).bind
    · intro _ reached hr _ _ _
      exact hr
    · nofun
  have focused {state : σ} (h : dispatcher.Unconsumed event state) :
      (dispatcher.takenBefore event none focusOwner keystroke).Ends state
        fun result reached => ∀ taken, result = .ok taken → taken ≠ some true →
          dispatcher.Unconsumed event reached := by
    cases focusOwner with
    | none => exact fun _ _ _ => h
    | some widget =>
      -- The listeners do what they like: whether the event is consumed is read afterwards.
      have offered : (dispatcher.offerToListeners widget event).Ends state
          fun result reached => result = .ok false → dispatcher.Unconsumed event reached := by
        apply ends_any.bind _ fun _ _ _ => nofun
        intro listenerAt asked _
        apply ends_any.bind _ fun _ _ _ => nofun
        intro _ heard _
        refine Slot.ends_read.mpr ?_
        intro unconsumed
        exact Except.ok.inj unconsumed
      apply offered.bind _ fun _ _ _ _ => nofun
      intro consumed heard hh
      cases consumed with
      | true =>
        apply ends_any.bind _ fun _ _ _ _ => nofun
        intro _ told _ taken same other
        cases same
        exact absurd rfl other
      | false =>
        have usable : Keeps (dispatcher.Unconsumed event)
            (dispatcher.toolkit.hasUsableBinding widget keystroke) :=
          reticent.toolkit.hasUsableBinding widget keystroke
        apply (usable heard (hh rfl)).bind _ fun _ _ _ _ => nofun
        intro answer asked ha
        cases answer with
        | true => exact leave _ ha
        | false => exact fun _ _ _ => ha
  cases destination with
  | none => exact focused h
  | some widget =>
    have routed : Keeps (dispatcher.Unconsumed event)
        (dispatcher.toolkit.goesToText event widget keystroke) :=
      reticent.toolkit.goesToText event widget keystroke
    apply (routed state h).bind _ fun _ _ _ _ => nofun
    intro text asked ha
    cases text with
    | true => exact leave _ ha
    | false => exact focused ha

/-- What is left to the host is not consumed. -/
theorem ends_judge (destination : Option Widget) {state : σ} (h : dispatcher.Unconsumed event state) :
    (dispatcher.judge event destination).Ends state
      fun result reached => result = .ok .left → dispatcher.Unconsumed event reached := by
  have command (bound : Bound κ) (discreet : dispatcher.Discreet event bound.command)
      (keystroke : Keystroke) {state : σ} (h : dispatcher.Unconsumed event state) :
      (dispatcher.judgeCommand bound keystroke).Ends state
        fun result reached => result = .ok .left → dispatcher.Unconsumed event reached := by
    apply (discreet.ends_isValid h).bind _ fun _ _ _ => nofun
    intro valid asked ha
    cases valid with
    | false => exact fun _ => ha rfl
    | true =>
      apply ends_any.bind _ fun _ _ _ => nofun
      intro enabled weighed _
      cases enabled with
      | false => nofun
      | true => cases bound.command.precedence <;> nofun
  have found (bound : Bound κ) (discreet : dispatcher.Discreet event bound.command)
      (keystroke : Keystroke) {state : σ} (h : dispatcher.Unconsumed event state) :
      (dispatcher.judgeFound bound event destination keystroke).Ends state
        fun result reached => result = .ok .left → dispatcher.Unconsumed event reached := by
    have recorded : Keeps (dispatcher.Unconsumed event) (dispatcher.isRecording destination) := by
      cases destination with
      | none => exact keeps_pure _
      | some widget => exact reticent.toolkit.isKeyCapture widget
    apply (recorded state h).bind _ fun _ _ _ => nofun
    intro recording asked ha
    split
    · cases recording with
      | true => exact fun _ => ha
      | false => nofun
    · apply (reticent.ends_takenBefore destination _ keystroke ha).bind _ fun _ _ _ => nofun
      intro taken weighed hw
      cases taken with
      | none => exact command bound discreet keystroke (hw none rfl nofun)
      | some handled =>
        cases handled with
        | true => nofun
        | false => exact fun _ => hw (some false) rfl nofun
  apply (reticent.menu state h).bind _ fun _ _ _ => nofun
  intro takes asked ha
  cases takes with
  | true => nofun
  | false =>
    apply (reticent.window asked (ha rfl)).bind _ fun _ _ _ => nofun
    intro window opened ho
    cases window with
    | none => exact fun _ => ho
    | some window =>
      dsimp only
      split
      · exact fun _ => ho
      · apply (reticent.commandFor _ window opened ho).bind _ fun _ _ _ => nofun
        rintro command looked ⟨hl, discreet⟩
        cases command with
        | none => exact fun _ => hl
        | some command =>
          apply (reticent.owner looked hl).bind _ fun _ _ _ => nofun
          intro owner focused hf
          exact found _ (discreet command rfl) _ hf

end Reticent

/-- An event is left to the host only unconsumed and with nothing armed. A command that is newly
armed has consumed it, and the event is handled then. -/
def LeftOrClaimed (dispatcher : Dispatcher σ κ) (event : KeyEvent) (state : σ)
    (result : Except Fault Bool) (reached : σ) : Prop :=
  (result = .ok false →
    dispatcher.armed.get reached = none ∧ (dispatcher.consumed event).get reached = false) ∧
  ∀ armed, dispatcher.armed.get reached = some armed → dispatcher.armed.get state ≠ some armed →
    result = .ok true ∧ (dispatcher.consumed event).get reached = true

theorem LeftOrClaimed.of_atMost {state reached : σ} {result : Except Fault Bool}
    (h : dispatcher.ArmedAtMost (dispatcher.armed.get state) reached) (kept : result ≠ .ok false) :
    dispatcher.LeftOrClaimed event state result reached := by
  refine ⟨fun left => absurd left kept, ?_⟩
  intro armed now before
  exact absurd (h.eq_some now) before

/-- What is ruled is carried out with nothing armed before. -/
theorem ends_carryOut (silent : dispatcher.Silent) (tidy : dispatcher.Tidy event)
    (destination : Option Widget) (ruling : Ruling κ) (start : σ) {state : σ}
    (idle : dispatcher.armed.get state = none)
    (left : ruling = .left → dispatcher.Unconsumed event state) :
    (dispatcher.carryOut event destination ruling).Ends state
      (dispatcher.LeftOrClaimed event start) := by
  have nothing {reached : σ} (h : dispatcher.ArmedAtMost none reached) :
      dispatcher.ArmedAtMost (dispatcher.armed.get start) reached := .inl h.idle
  cases ruling with
  | left =>
    refine ⟨fun _ => ⟨idle, left rfl⟩, ?_⟩
    intro armed now
    rw [idle] at now
    cases now
  | taken => exact .of_atMost (.inl idle) nofun
  | refuse bound =>
    apply ((silent none).log _ state (.inl idle)).bind
    · intro _ told ht
      apply ((silent none).giveFeedback bound told ht).bind
      · intro _ reached hr
        exact .of_atMost (nothing hr) nofun
      · intro _ reached hr
        exact .of_atMost (nothing hr) nofun
    · intro _ told ht
      exact .of_atMost (nothing ht) nofun
  | arm bound notice =>
    obtain ⟨awarded, hw, armed, consumed⟩ := tidy.run_award bound destination idle
    obtain ⟨_, told, hl, ⟨-, hc⟩, -⟩ := tidy.log notice _ _ awarded ⟨armed, consumed⟩
    refine (ends_bind_of_done hw).mpr ((ends_bind_of_done hl).mpr ⟨nofun, ?_⟩)
    intro armed _ _
    exact ⟨rfl, hc⟩
  | unknown bound name =>
    apply ((silent none).log _ state (.inl idle)).bind
    · intro _ told ht
      exact .of_atMost (nothing ht) nofun
    · intro _ told ht
      exact .of_atMost (nothing ht) nofun

/-- What goes past an armed command finds nothing armed, and is not consumed by it. -/
theorem ends_continues (silent : dispatcher.Silent) (tidy : dispatcher.Tidy event)
    (reticent : dispatcher.Reticent event) (destination : Option Widget) {state : σ}
    (h : dispatcher.Unconsumed event state) :
    (dispatcher.holder.continues event destination).Ends state fun result reached =>
      result = .ok false →
        dispatcher.armed.get reached = none ∧ dispatcher.Unconsumed event reached := by
  refine Slot.ends_read_bind.mpr ?_
  cases ha : dispatcher.holder.armed.get state with
  | none => exact fun _ => ⟨ha, h⟩
  | some armed =>
    dsimp only
    cases armed.verdict event.phase destination with
    | absorb => nofun
    | forfeit =>
      have idle : dispatcher.ArmedAtMost none (dispatcher.armed.set none state) :=
        .inl (tidy.armed none state)
      have let_go := reticent.armed none state h
      refine Slot.ends_write_bind.mpr ?_
      apply (ends_and ((silent none).log _ _ idle) (reticent.log _ _ let_go)).bind
      · rintro _ told ⟨ht, hu⟩ _
        exact ⟨ht.idle, hu⟩
      · nofun
    | execute =>
      refine Slot.ends_write_bind.mpr ?_
      apply ends_any.bind _ fun _ _ _ => nofun
      intro _ told _
      apply ends_any.bind _ fun _ _ _ => nofun
      rintro (fault | _) reached _
      · apply ends_any.bind _ fun _ _ _ => nofun
        nofun
      · nofun

/-- However a dispatch ends, the event was left to the host or claimed, not both. -/
theorem ends_dispatch (silent : dispatcher.Silent) (tidy : dispatcher.Tidy event)
    (reticent : dispatcher.Reticent event) {state : σ} (h : dispatcher.Unconsumed event state) :
    (dispatcher.dispatch event).Ends state (dispatcher.LeftOrClaimed event state) := by
  have keep := silent (dispatcher.armed.get state)
  have clears (reached : σ) (_ : dispatcher.ArmedAtMost (dispatcher.armed.get state) reached) :
      dispatcher.ArmedAtMost (dispatcher.armed.get state) (dispatcher.armed.set none reached) :=
    .inl (tidy.armed none reached)
  apply (ends_and (keep.arrival event state (.inr rfl)) (reticent.arrival state h)).bind
  · rintro (_ | destination) arrived ⟨ha, hu⟩
    case none => exact .of_atMost ha nofun
    apply (ends_and (keep.continues event destination clears arrived ha)
      (ends_continues silent tidy reticent destination hu)).bind
    · rintro (_ | _) free ⟨hf, past⟩
      case true => exact .of_atMost hf nofun
      obtain ⟨idle, hu⟩ := past rfl
      rw [if_neg (by simp), dispatchFree_eq]
      apply (ends_and ((silent none).judge event destination |>.keeps free (.inl idle))
        (reticent.ends_judge destination hu)).bind
      · rintro ruling judged ⟨hj, left⟩
        apply ends_carryOut silent tidy destination ruling state hj.idle
        rintro rfl
        exact left rfl
      · rintro fault judged ⟨hj, -⟩
        exact .of_atMost (.inl hj.idle) nofun
    · rintro fault reached ⟨hr, -⟩
      exact .of_atMost hr nofun
  · rintro fault arrived ⟨ha, -⟩
    exact .of_atMost ha nofun

end Dispatcher

/-! ## Delivery to several dispatchers -/

/-- Dispatchers of one host and a pipeline for them, each with its own place for what is armed.
Nobody called arms a command in any of them. -/
structure Crew (dispatchers : δ → Dispatcher σ κ) (pipeline : Slot σ (Pipeline δ))
    (consumed : Slot σ Bool) (event : KeyEvent) : Prop where
  silent : ∀ d other armed, (dispatchers d).AllKeep ((dispatchers other).ArmedAtMost armed)
  tidy : ∀ d, (dispatchers d).Tidy event
  reticent : ∀ d, (dispatchers d).Reticent event
  shared : ∀ d, (dispatchers d).consumed event = consumed
  apart : ∀ d other, d ≠ other → ∀ value state,
    (dispatchers other).armed.get ((dispatchers d).armed.set value state) =
      (dispatchers other).armed.get state
  processed : ∀ d events, (dispatchers d).AllKeep fun state =>
    (pipeline.get state).hostProcessed = events
  undelivered : ∀ d value state,
    pipeline.get ((dispatchers d).armed.set value state) = pipeline.get state
  listed : ∀ value state, pipeline.get (pipeline.set value state) = value
  aside : ∀ d value state,
    (dispatchers d).armed.get (pipeline.set value state) = (dispatchers d).armed.get state
  unmarked : ∀ value state, consumed.get (pipeline.set value state) = consumed.get state

namespace Crew

variable {dispatchers : δ → Dispatcher σ κ} {pipeline : Slot σ (Pipeline δ)} {consumed : Slot σ Bool}
  {event : KeyEvent}

/-- Nobody called takes a dispatcher out of the pipeline. -/
def Stays (dispatchers : δ → Dispatcher σ κ) (pipeline : Slot σ (Pipeline δ)) : Prop :=
  ∀ d attached, (dispatchers d).AllKeep fun state => attached <+: (pipeline.get state).attached

/-- The state of a delivery that was begun in `start`, when the dispatchers before a position have
left the event to the others. -/
structure Offered (dispatchers : δ → Dispatcher σ κ) (pipeline : Slot σ (Pipeline δ))
    (consumed : Slot σ Bool) (start : σ) (position : Nat) (state : σ) : Prop where
  unclaimed : ∀ d, (dispatchers d).ArmedAtMost ((dispatchers d).armed.get start) state
  unconsumed : consumed.get state = false
  unprocessed : (pipeline.get state).hostProcessed = (pipeline.get start).hostProcessed
  idle : Stays dispatchers pipeline → ∀ d ∈ (pipeline.get state).attached.take position,
    (dispatchers d).armed.get state = none

/-- What a delivery comes to. -/
structure Delivered (dispatchers : δ → Dispatcher σ κ) (pipeline : Slot σ (Pipeline δ))
    (consumed : Slot σ Bool) (event : KeyEvent) (start : σ) (result : Except Fault Bool)
    (reached : σ) : Prop where
  claimed : ∀ d armed, (dispatchers d).armed.get reached = some armed →
    (dispatchers d).armed.get start ≠ some armed → result = .ok true
  taken : result ≠ .ok false →
    (pipeline.get reached).hostProcessed = (pipeline.get start).hostProcessed
  left : result = .ok false →
    (pipeline.get reached).hostProcessed = (pipeline.get start).hostProcessed ++ [event] ∧
    consumed.get reached = false ∧
    (Stays dispatchers pipeline → ∀ d ∈ (pipeline.get reached).attached,
      (dispatchers d).armed.get reached = none)

variable (crew : Crew dispatchers pipeline consumed event)

include crew

theorem keeps_others (d other : δ) (apart : d ≠ other) (armed : Option (Armed (Bound κ))) :
    Keeps ((dispatchers other).ArmedAtMost armed) ((dispatchers d).dispatch event) := by
  apply (crew.silent d other armed).dispatch
  intro value state h
  unfold Dispatcher.ArmedAtMost at h ⊢
  rwa [crew.apart d other apart]

theorem keeps_processed (d : δ) (events : List KeyEvent) :
    Keeps (fun state => (pipeline.get state).hostProcessed = events)
      ((dispatchers d).dispatch event) := by
  apply (crew.processed d events).dispatch
  intro value state h
  rwa [crew.undelivered]

theorem keeps_attached (stays : Stays dispatchers pipeline) (d : δ) (attached : List δ) :
    Keeps (fun state => attached <+: (pipeline.get state).attached)
      ((dispatchers d).dispatch event) := by
  apply (stays d attached).dispatch
  intro value state h
  rwa [crew.undelivered]

theorem ends_dispatch (d : δ) {state : σ} (h : consumed.get state = false) :
    ((dispatchers d).dispatch event).Ends state ((dispatchers d).LeftOrClaimed event state) := by
  apply Dispatcher.ends_dispatch (crew.silent d d) (crew.tidy d) (crew.reticent d)
  unfold Dispatcher.Unconsumed
  rwa [crew.shared]

/-- One dispatcher is offered the event: it is passed on, or the delivery is over. -/
theorem ends_offer {start state : σ} {position : Nat} {d : δ}
    (offered : Offered dispatchers pipeline consumed start position state)
    (next : (pipeline.get state).attached[position]? = some d) :
    ((dispatchers d).dispatch event).Ends state fun result reached =>
      (result = .ok false → Offered dispatchers pipeline consumed start (position + 1) reached) ∧
      (result ≠ .ok false → Delivered dispatchers pipeline consumed event start result reached) := by
  have own := crew.ends_dispatch d offered.unconsumed
  have others := ends_forall fun other => ends_imp fun apart : d ≠ other =>
    crew.keeps_others d other apart _ state (offered.unclaimed other)
  have idle := ends_forall fun other => ends_imp
    fun h : d ≠ other ∧ (dispatchers other).armed.get state = none =>
      crew.keeps_others d other h.1 none state (.inl h.2)
  have processed := crew.keeps_processed d _ state offered.unprocessed
  have attached := ends_imp fun stays : Stays dispatchers pipeline =>
    crew.keeps_attached stays d _ state (List.prefix_refl _)
  apply (ends_and own (ends_and others (ends_and idle (ends_and processed attached)))).mono
  rintro result reached ⟨own, others, idle, processed, attached⟩
  constructor
  · intro passed
    obtain ⟨let_go, unconsumed⟩ := own.1 passed
    rw [crew.shared] at unconsumed
    refine ⟨?_, unconsumed, processed, ?_⟩
    · intro other
      by_cases apart : d = other
      · exact .inl (apart ▸ let_go)
      · exact others other apart
    · intro stays other hm
      obtain ⟨inside, at_position⟩ := List.getElem?_eq_some_iff.mp next
      obtain ⟨more, grown⟩ := attached stays
      rw [← grown, List.take_append_of_le_length inside, List.take_add_one, next] at hm
      by_cases apart : d = other
      · exact apart ▸ let_go
      · have before : other ∈ (pipeline.get state).attached.take position := by
          simpa [Ne.symm apart] using hm
        exact (idle other ⟨apart, offered.idle stays other before⟩).idle
  · intro kept
    refine ⟨?_, fun _ => processed, fun left => absurd left kept⟩
    intro other armed now before
    by_cases apart : d = other
    · subst apart
      have newly : (dispatchers d).armed.get state ≠ some armed := fun was =>
        before ((offered.unclaimed d).eq_some was)
      exact (own.2 armed now newly).1
    · exact absurd ((others other apart).eq_some now) before

/-- Nobody is left to be offered the event: the host has it. -/
theorem delivered_of_end {start state : σ} {position : Nat}
    (offered : Offered dispatchers pipeline consumed start position state)
    (last : (pipeline.get state).attached[position]? = none) :
    Delivered dispatchers pipeline consumed event start (.ok false) (pipeline.set
      { pipeline.get state with hostProcessed := (pipeline.get state).hostProcessed ++ [event] }
      state) := by
  refine ⟨?_, fun kept => absurd rfl kept, fun _ => ⟨?_, ?_, ?_⟩⟩
  · intro d armed now before
    rw [crew.aside] at now
    exact absurd ((offered.unclaimed d).eq_some now) before
  · rw [crew.listed, offered.unprocessed]
  · rw [crew.unmarked, offered.unconsumed]
  · intro stays d hm
    rw [crew.listed] at hm
    rw [crew.aside]
    apply offered.idle stays d
    rwa [List.take_of_length_le (List.getElem?_eq_none_iff.mp last)]

/-- However many dispatchers there are, each is offered the event until one takes it. -/
theorem ends_offerFrom (allowance position : Nat) {start state : σ}
    (offered : Offered dispatchers pipeline consumed start position state) :
    (Pipeline.offerFrom pipeline (fun d => (dispatchers d).dispatch event) event allowance
      position).Ends state (Delivered dispatchers pipeline consumed event start) := by
  induction allowance generalizing position state with
  | zero => exact ends_exhausted
  | succ allowance ih =>
    refine Slot.ends_read_bind.mpr ?_
    cases next : (pipeline.get state).attached[position]? with
    | none => exact crew.delivered_of_end offered next
    | some d =>
      apply (crew.ends_offer offered next).bind
      · rintro (_ | _) reached ⟨passed, ended⟩
        · exact ih (position + 1) (passed rfl)
        · exact ended nofun
      · rintro fault reached ⟨-, ended⟩
        exact ended nofun

theorem ends_deliver (allowance : Nat) {state : σ} (h : consumed.get state = false) :
    (Pipeline.deliver pipeline allowance (fun d => (dispatchers d).dispatch event) event).Ends state
      (Delivered dispatchers pipeline consumed event state) := by
  apply crew.ends_offerFrom allowance 0
  refine ⟨fun _ => .inr rfl, h, rfl, ?_⟩
  intro _ d hm
  simp at hm

end Crew

/-- No event is both left to the host and claimed by a command, if nobody called arms a command and
the event is consumed only by those who may take it. A dispatcher that leaves the event has nothing
armed, and the event is not consumed; one that arms a command has handled the event and consumed it.
So a delivery that arms a command does not leave the event to the host. When it does leave it, all
the dispatchers of the pipeline have nothing armed, if nobody called takes one out of it
meanwhile. -/
theorem left_or_claimed {dispatchers : δ → Dispatcher σ κ} {pipeline : Slot σ (Pipeline δ)}
    {consumed : Slot σ Bool} {event : KeyEvent} (crew : Crew dispatchers pipeline consumed event)
    {state : σ} (h : consumed.get state = false) :
    (∀ d, ((dispatchers d).dispatch event).Ends state fun result reached =>
      (result = .ok false →
        (dispatchers d).armed.get reached = none ∧ consumed.get reached = false) ∧
      ∀ armed, (dispatchers d).armed.get reached = some armed →
        (dispatchers d).armed.get state ≠ some armed →
        result = .ok true ∧ consumed.get reached = true) ∧
    ∀ allowance, (Pipeline.deliver pipeline allowance (fun d => (dispatchers d).dispatch event)
        event).Ends state fun _ reached =>
      (∀ d armed, (dispatchers d).armed.get reached = some armed →
        (dispatchers d).armed.get state ≠ some armed →
        (pipeline.get reached).hostProcessed = (pipeline.get state).hostProcessed) ∧
      ((pipeline.get reached).hostProcessed = (pipeline.get state).hostProcessed ++ [event] →
        Crew.Stays dispatchers pipeline →
        ∀ d ∈ (pipeline.get reached).attached, (dispatchers d).armed.get reached = none) := by
  constructor
  · intro d
    have ends := crew.ends_dispatch d h
    unfold Dispatcher.LeftOrClaimed at ends
    rwa [crew.shared] at ends
  · intro allowance
    apply (crew.ends_deliver allowance h).mono
    intro result reached delivered
    constructor
    · intro d armed now before
      apply delivered.taken
      rw [delivered.claimed d armed now before]
      nofun
    · intro added stays
      by_cases left : result = .ok false
      · exact (delivered.left left).2.2 stays
      · rw [delivered.taken left] at added
        simp at added

/-! ## Two dispatchers whose command says no -/

/-- The state of a host with two dispatchers and a pipeline. -/
structure Duo where
  consumed : Bool := false
  armed : Bool → Option (Armed (Bound Unit)) := fun _ => none
  pipeline : Pipeline Bool := {}

namespace Duo

/-- The help as a command of the lowest tier, with a predicate of its own. -/
def peek : Command Unit :=
  { Bare.help with id := "peek", name := "Peek", precedence := .tier .toolDefault, valid := some () }

def consumedSlot : Slot Duo Bool := ⟨Duo.consumed, fun consumed duo => { duo with consumed }⟩

def pipelineSlot : Slot Duo (Pipeline Bool) :=
  ⟨Duo.pipeline, fun pipeline duo => { duo with pipeline }⟩

/-- Every keystroke stands for a command whose predicate does something and says no. -/
def dispatcher (does : Duo → Duo) (own : Bool) : Dispatcher Duo Unit where
  platform := .other
  toolkit :=
    { rootOf := fun _ => pure (some (pure false))
      isKeyCapture := fun _ => pure false
      isTextEditor := fun _ => pure false
      ancestorIsEditing := fun _ => pure false
      isEnabled := fun _ => pure true
      listenersOf := fun _ => pure fun _ => pure none
      bindingOf := fun _ _ => pure none }
  focus := { owner := pure none, window := pure (some Bare.main) }
  commandFor _ _ := pure (some peek)
  menu := none
  calls :=
    { decide := fun _ _ => do modify does; return false
      run := fun _ _ => pure ()
      report := fun _ _ => pure ()
      toast := fun _ _ => pure () }
  consumed _ := consumedSlot
  armed :=
    { get := fun duo => duo.armed own
      set := fun armed duo => { duo with armed := Function.update duo.armed own armed } }
  log _ := pure ()
  allowance := 1

theorem toolkit_keeps {inv : Duo → Prop} (does : Duo → Duo) (own : Bool) :
    (dispatcher does own).toolkit.Keeps inv where
  rootOf _ state h := ⟨h, by rintro _ ⟨⟩ _ ⟨⟩; exact keeps_pure _⟩
  isKeyCapture _ := keeps_pure _
  isTextEditor _ := keeps_pure _
  ancestorIsEditing _ := keeps_pure _
  isEnabled _ := keeps_pure _
  listenersOf _ state h := ⟨h, by rintro _ ⟨⟩ _ state h; exact ⟨h, by rintro _ ⟨⟩ _ ⟨⟩⟩⟩
  bindingOf _ _ state h := ⟨h, by rintro _ ⟨⟩ _ ⟨⟩⟩

theorem allKeep {inv : Duo → Prop} (does : Duo → Duo) (own : Bool)
    (done : ∀ duo, inv duo → inv (does duo))
    (marked : ∀ consumed duo, inv duo → inv { duo with consumed }) :
    (dispatcher does own).AllKeep inv where
  toolkit := toolkit_keeps does own
  commandFor _ _ := keeps_pure _
  menu := nofun
  decide _ _ := keeps_bind (keeps_modify done) fun _ => keeps_pure _
  report _ _ := keeps_pure _
  toast _ _ := keeps_pure _
  consumed _ := marked
  log _ := keeps_pure _
  owner := keeps_pure _
  window := keeps_pure _
  run _ _ := keeps_pure _

theorem tidy (does : Duo → Duo) (own : Bool) (event : KeyEvent) :
    (dispatcher does own).Tidy event where
  armed armed duo := by simp [dispatcher]
  consumed _ _ := rfl
  apart _ _ := rfl
  log _ _ _ := answers_pure trivial

theorem crew (event : KeyEvent) : Crew (dispatcher id) pipelineSlot consumedSlot event where
  silent d other armed := allKeep id d (fun _ h => h) fun _ _ h => h
  tidy d := tidy id d event
  reticent d :=
    { toolkit := toolkit_keeps id d
      owner := keeps_pure _
      window := keeps_pure _
      commandFor := fun _ _ _ h => ⟨h, fun _ _ _ _ _ _ hu _ => hu⟩
      menu := fun _ h _ => h
      log := fun _ => keeps_pure _
      armed := fun _ _ h => h }
  shared _ := rfl
  apart d other apart armed duo := by
    simp [dispatcher, Function.update_of_ne (Ne.symm apart)]
  processed d events := allKeep id d (fun _ h => h) fun _ _ h => h
  undelivered _ _ _ := rfl
  listed _ _ := rfl
  aside _ _ _ := rfl
  unmarked _ _ := rfl

/-- F1 is released in the field. -/
def releaseF1 : KeyEvent := ⟨⟨"F1", {}⟩, .released, some Bare.field, 0⟩

/-- Both dispatchers are in the pipeline, and the second has the help armed, but for no widget. -/
def waiting : Duo where
  armed second := if second then some ⟨⟨Bare.help, ⟨none, some Bare.main⟩⟩, none⟩ else none
  pipeline := { attached := [false, true] }

/-- The release is left to the host, and the help was given up. -/
theorem release_left_idle :
    Crew (dispatcher id) pipelineSlot consumedSlot releaseF1 ∧ waiting.consumed = false ∧
    Crew.Stays (dispatcher id) pipelineSlot ∧
    ∃ reached, (Pipeline.deliver pipelineSlot 3 (fun d => (dispatcher id d).dispatch releaseF1)
        releaseF1).run waiting = .done false reached ∧
      reached.pipeline.hostProcessed = [releaseF1] ∧
      ∀ d ∈ reached.pipeline.attached, reached.armed d = none := by
  have stays : Crew.Stays (dispatcher id) pipelineSlot := fun d attached =>
    allKeep id d (fun _ h => h) fun _ _ h => h
  refine ⟨crew releaseF1, rfl, stays, _, rfl, rfl, ?_⟩
  have unconsumed : consumedSlot.get waiting = false := rfl
  have delivered := ((left_or_claimed (crew releaseF1) unconsumed).2 3).of_done rfl
  exact delivered.2 rfl stays

/-- A predicate that consumes the event it is asked about. -/
def consume (duo : Duo) : Duo := { duo with consumed := true }

/-- A predicate that takes the first dispatcher out of the pipeline. -/
def withdraw (duo : Duo) : Duo := { duo with pipeline := duo.pipeline.detach false }

/-- F2 is pressed in the field. -/
def pressF2 : KeyEvent := ⟨⟨"F2", {}⟩, .pressed, some Bare.field, 1⟩

/-- An event is left to the host although it is consumed, when the predicate that says no consumes
it. And the host has an event while a dispatcher of the pipeline has a command armed, when the
dispatcher before it is taken out meanwhile: nobody offers the event to the one that has moved
up. -/
theorem left_consumed_or_unoffered :
    ((dispatcher consume false).Silent ∧ (dispatcher consume false).menu = none ∧
      ∃ reached, ((dispatcher consume false).dispatch pressF2).run {} = .done false reached ∧
        reached.consumed = true) ∧
    (∀ d, (dispatcher withdraw d).Silent) ∧ waiting.consumed = false ∧
    ∃ reached, (Pipeline.deliver pipelineSlot 3 (fun d => (dispatcher withdraw d).dispatch pressF2)
        pressF2).run waiting = .done false reached ∧
      reached.pipeline.hostProcessed = [pressF2] ∧
      true ∈ reached.pipeline.attached ∧ (reached.armed true).isSome := by
  have silent (does : Duo → Duo) (same : ∀ duo, (does duo).armed = duo.armed) (own : Bool) :
      (dispatcher does own).Silent := by
    intro armed
    apply allKeep does own
    · intro duo h
      unfold Dispatcher.ArmedAtMost at h ⊢
      simpa only [dispatcher, same] using h
    · exact fun _ _ h => h
  constructor
  · exact ⟨silent consume (fun _ => rfl) false, rfl, _, rfl, rfl⟩
  · refine ⟨silent withdraw fun _ => rfl, rfl, _, rfl, rfl, ?_, rfl⟩
    exact List.mem_singleton_self true

end Duo

end KeyPrecedence
