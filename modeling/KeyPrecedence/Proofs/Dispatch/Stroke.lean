import KeyPrecedence.Proofs.Dispatch.Execution

/-!
# Whole keystrokes, one after another

* `Surroundings.strike`: a press, what it types and the release, with an account of what happened;
* `Surroundings.ends_strike`: one keystroke, from whatever was armed before it;
* `executions_within_strokes`: what runs was armed on the press of its keystroke, or of an earlier
  one when every release since was lost.
-/

namespace KeyPrecedence

open Act

variable {τ κ : Type}

/-- An event of a keystroke, before which the host changes as it likes. -/
structure Beat (τ : Type) where
  change : τ → τ
  modifiers : Modifiers := {}
  serial : Nat

/-- A key that is pressed, types something or nothing, and is released, at one source. -/
structure Stroke (τ : Type) where
  key : String
  source : Option Widget
  down : Beat τ
  typed : List (Beat τ) := []
  up : Beat τ

namespace Stroke

variable (stroke : Stroke τ)

def event (phase : Phase) (beat : Beat τ) : KeyEvent where
  input := ⟨stroke.key, beat.modifiers⟩
  phase := phase
  source := stroke.source
  serial := beat.serial

def press : KeyEvent := stroke.event .pressed stroke.down

def release : KeyEvent := stroke.event .released stroke.up

end Stroke

/-- What happened during a keystroke, and what is armed at its end. The keystroke is lost when its
release did not get as far as the armed command. -/
structure Account (τ κ : Type) where
  stroke : Stroke τ
  lost : Bool
  history : List (Occurrence κ)
  left : Option (Armed (Bound κ))

namespace Surroundings

variable (around : Surroundings τ κ)

/-- Whether an event that arrives now is headed for anything: the gate lets it through, and the
focus source answers if it is asked. -/
def reaches (event : KeyEvent) (scene : Scene τ κ) : Bool :=
  match ((around.dispatcher (around.dispatch 0) event).arrival event).run
      { scene with heard := {} } with
  | .done (some _) _ => true
  | _ => false

def change (beat : Beat τ) : Act (Scene τ κ) Unit :=
  modify fun scene => { scene with host := beat.change scene.host }

/-- The host changes, and an event is dispatched. No callback dispatches. -/
def tap (stroke : Stroke τ) (phase : Phase) (beat : Beat τ) : Act (Scene τ κ) Unit := do
  change beat
  let _ ← (around.dispatch 1 (stroke.event phase beat)).attempt

def tapAll (stroke : Stroke τ) (phase : Phase) : List (Beat τ) → Act (Scene τ κ) Unit
  | [] => pure ()
  | beat :: beats => do
    around.tap stroke phase beat
    tapAll stroke phase beats

def strike (stroke : Stroke τ) : Act (Scene τ κ) (Account τ κ) := do
  let before := (← get).history.length
  around.tap stroke .pressed stroke.down
  around.tapAll stroke .typed stroke.typed
  change stroke.up
  let lost := !around.reaches stroke.release (← get)
  let _ ← (around.dispatch 1 stroke.release).attempt
  let scene ← get
  return ⟨stroke, lost, scene.history.drop before, scene.armed⟩

def strikeAll : List (Stroke τ) → Act (Scene τ κ) (List (Account τ κ))
  | [] => pure []
  | stroke :: strokes => do
    let account ← around.strike stroke
    return account :: (← strikeAll strokes)

end Surroundings

/-- Commands are armed on the press of the keystroke, and run on its release unless that is lost. -/
def Occurrence.During (stroke : Stroke τ) (lost : Bool) : Occurrence κ → Prop
  | armed during _ => during.event = stroke.press
  | cleared => True
  | executed during _ _ => during.event = stroke.release ∧ lost = false

namespace Surroundings

variable {around : Surroundings τ κ} {ok : Occurrence κ → Prop} {start : Scene τ κ}
  {event : KeyEvent}

theorem keeps_dispatch_one (backed : around.Backed) (permits : Permits ok (· = .pressed) event) :
    Keeps (start.Since ok) (around.dispatch 1 event) := by
  intro scene h
  have inner (heard : Heard) (event : KeyEvent) :
      Keeps (Scene.Recorded ok start heard) (around.dispatch 0 event) := keeps_exhausted
  exact (keeps_handle backed.binds permits inner scene ⟨rfl, h⟩).mono fun _ _ hr => hr.2

theorem ends_arrival_reaches (scene : Scene τ κ) :
    ((around.dispatcher (around.dispatch 0) event).arrival event).Ends { scene with heard := {} }
      fun result _ => (∃ destination, result = .ok (some destination)) ↔
        around.reaches event scene = true := by
  unfold Ends reaches
  cases ((around.dispatcher (around.dispatch 0) event).arrival event).run
      { scene with heard := {} } with
  | done value reached => cases value <;> simp
  | failed fault reached => simp
  | exhausted => trivial

/-- A lost event arms nothing and runs nothing. -/
theorem keeps_dispatch_lost {scene : Scene τ κ} (lost : around.reaches event scene = false)
    (h : start.Since ok scene) :
    (around.dispatch 1 event).Ends scene fun _ reached => start.Since ok reached := by
  have inner (event : KeyEvent) :
      Keeps (Scene.Recorded ok start {}) (around.dispatch 0 event) := keeps_exhausted
  have opening : Scene.Recorded ok start {} { scene with heard := {} } := ⟨rfl, h⟩
  refine around.ends_handle.mpr
    ((ends_and (ends_arrival inner opening) (ends_arrival_reaches scene)).bind ?_ ?_)
  · rintro (_ | destination) reached ⟨⟨hs, -⟩, hd⟩
    · exact hs
    · rw [lost] at hd
      cases hd.mp ⟨destination, rfl⟩
  · rintro fault reached ⟨⟨hs, -⟩, -⟩
    exact hs

theorem robust_idle : Scene.Robust fun scene : Scene τ κ => scene.armed = none where
  host _ _ h := h
  clear _ _ := rfl

/-- A release uses up what is armed, or lets it go. -/
theorem ends_continues_released {dispatch : KeyEvent → Act (Scene τ κ) Bool}
    (inner : ∀ event, Keeps (fun scene : Scene τ κ => scene.armed = none) (dispatch event))
    (released : event.phase = .released) {destination : Option Widget} {scene : Scene τ κ} :
    ((around.dispatcher dispatch event).holder.continues event destination).Ends scene
      fun _ reached => reached.armed = none := by
  have log (notice) := robust_idle.keeps_onHost (κ := κ) (around.log notice)
  refine Slot.ends_read_bind.mpr ?_
  cases ha : (around.dispatcher dispatch event).holder.armed.get scene with
  | none => exact ha
  | some armed =>
    dsimp only
    cases hv : armed.verdict event.phase destination with
    | absorb =>
      unfold Armed.verdict at hv
      split at hv
      · exact absurd released ‹_›
      · split at hv <;> cases hv
    | forfeit => exact keeps_bind (log _) (fun _ => keeps_pure false) scene.clear rfl
    | execute =>
      refine keeps_bind (log _) (fun _ => ?_) scene.clear rfl
      refine keeps_bind (keeps_attempt ?_) ?_
      · exact keeps_bind (keeps_modify fun _ h => h) fun _ => robust_idle.keeps_run inner _
      · rintro (fault | _)
        · exact keeps_bind (log _) fun _ => keeps_fail fault
        · exact keeps_pure true

/-- Nothing is armed behind a release that reached the dispatcher. -/
theorem ends_dispatch_reached (binds : around.Binds (· = .pressed)) {scene : Scene τ κ}
    (reached : around.reaches event scene = true) (released : event.phase = .released) :
    (around.dispatch 1 event).Ends scene fun _ reached => reached.armed = none := by
  have inner (event : KeyEvent) :
      Keeps (fun scene : Scene τ κ => scene.armed = none) (around.dispatch 0 event) :=
    keeps_exhausted
  refine around.ends_handle.mpr ((ends_arrival_reaches scene).bind ?_ ?_)
  · intro arrived here hd
    obtain ⟨destination, ⟨⟩⟩ := hd.mpr reached
    refine (ends_continues_released inner released).bind ?_ fun _ _ hr => hr
    rintro (_ | _) there idle
    case true => exact idle
    have free (heard : Heard) (event : KeyEvent) :
        Keeps (Scene.Recorded (fun o : Occurrence κ => o.isArming = false) there heard)
          (around.dispatch 0 event) := keeps_exhausted
    have permits : Permits (fun o : Occurrence κ => o.isArming = false) (· = .pressed) event :=
      ⟨fun _ _ hp => (by rw [released] at hp; cases hp), fun _ _ _ _ => rfl⟩
    refine (ends_dispatchFree binds permits free ⟨rfl, there.since_refl⟩).mono ?_
    rintro _ reached ⟨part, -, chronicle⟩
    rw [idle] at chronicle
    exact chronicle.idle fun _ _ => nofun
  · intro fault here hd
    obtain ⟨_, ⟨⟩⟩ := hd.mpr reached

/-! ## One keystroke -/

theorem ends_tap (backed : around.Backed) {stroke : Stroke τ} {phase : Phase} {beat : Beat τ}
    (permits : Permits ok (· = .pressed) (stroke.event phase beat)) {scene : Scene τ κ}
    (h : start.Since ok scene) :
    (around.tap stroke phase beat).Ends scene fun result reached =>
      result = .ok () ∧ start.Since ok reached := by
  have hb : start.Since ok { scene with host := beat.change scene.host } := h
  unfold tap change
  rw [ends_modify_bind, ends_bind, ends_attempt]
  exact (keeps_dispatch_one backed permits _ hb).mono fun _ _ hr => ⟨rfl, hr⟩

theorem ends_tapAll (backed : around.Backed) {stroke : Stroke τ} {phase : Phase}
    (permits : ∀ beat, Permits ok (· = .pressed) (stroke.event phase beat)) {scene : Scene τ κ}
    (beats : List (Beat τ)) (h : start.Since ok scene) :
    (around.tapAll stroke phase beats).Ends scene fun result reached =>
      result = .ok () ∧ start.Since ok reached := by
  induction beats generalizing scene with
  | nil => exact ⟨rfl, h⟩
  | cons beat beats ih =>
    refine (ends_tap backed (permits beat) h).bind ?_ (by rintro _ _ ⟨⟨⟩, -⟩)
    rintro _ reached ⟨-, hr⟩
    exact ih hr

theorem permits_press (stroke : Stroke τ) (lost : Bool) :
    Permits (Occurrence.During stroke lost : Occurrence κ → Prop) (· = .pressed) stroke.press where
  arming _ _ _ := rfl
  running _ _ _ h := by cases h

theorem permits_typed (stroke : Stroke τ) (lost : Bool) (beat : Beat τ) :
    Permits (Occurrence.During stroke lost : Occurrence κ → Prop) (· = .pressed)
      (stroke.event .typed beat) where
  arming _ _ h := by cases h
  running _ _ _ h := by cases h

theorem permits_release (stroke : Stroke τ) :
    Permits (Occurrence.During stroke false : Occurrence κ → Prop) (· = .pressed)
      stroke.release where
  arming _ _ h := by cases h
  running _ _ _ _ := ⟨rfl, rfl⟩

/-- A keystroke arms commands on its press only, runs them on its release only, and leaves nothing
armed unless its release is lost. -/
theorem ends_strike (backed : around.Backed) (stroke : Stroke τ) (scene : Scene τ κ) :
    (around.strike stroke).Ends scene fun result reached => ∃ account, result = .ok account ∧
      account.stroke = stroke ∧ account.left = reached.armed ∧
      reached.history = scene.history ++ account.history ∧
      Chronicle (Occurrence.During stroke account.lost) scene.armed account.history account.left ∧
      (account.lost = false → account.left = none) := by
  have held (lost : Bool) (here : Scene τ κ)
      (h : scene.Since (Occurrence.During stroke true) here) :
      scene.Since (Occurrence.During stroke lost) here := by
    obtain ⟨part, hp, hc⟩ := h
    refine ⟨part, hp, hc.mono ?_⟩
    rintro (_ | _ | _) ho
    · exact ho
    · exact ho
    · cases ho.2
  refine ends_get_bind.mpr
    ((ends_tap backed (permits_press stroke true) scene.since_refl).bind ?_ (by rintro _ _ ⟨⟨⟩, -⟩))
  rintro _ pressed ⟨-, hp⟩
  refine (ends_tapAll backed (permits_typed stroke true) stroke.typed hp).bind ?_
    (by rintro _ _ ⟨⟨⟩, -⟩)
  rintro _ typed ⟨-, ht⟩
  unfold change
  rw [ends_modify_bind, ends_get_bind, ends_bind, ends_attempt]
  have hr : scene.Since (Occurrence.During stroke true)
      { typed with host := stroke.up.change typed.host } := ht
  generalize { typed with host := stroke.up.change typed.host } = here at hr ⊢
  have close (reached : Scene τ κ) (lost : Bool)
      (hs : scene.Since (Occurrence.During stroke lost) reached)
      (idle : lost = false → reached.armed = none) :
      reached.history = scene.history ++ reached.history.drop scene.history.length ∧
      Chronicle (Occurrence.During stroke lost) scene.armed
        (reached.history.drop scene.history.length) reached.armed ∧
      (lost = false → reached.armed = none) := by
    obtain ⟨part, hp, hc⟩ := hs
    have hd : reached.history.drop scene.history.length = part := by simp [hp]
    rw [hd]
    exact ⟨hp, hc, idle⟩
  cases hl : around.reaches stroke.release here with
  | false =>
    refine (keeps_dispatch_lost hl hr).mono ?_
    intro _ reached hs
    exact ⟨_, rfl, rfl, rfl, close reached true hs nofun⟩
  | true =>
    refine (ends_and (keeps_dispatch_one backed (permits_release stroke) here (held false here hr))
      (ends_dispatch_reached backed.binds hl rfl)).mono ?_
    rintro _ reached ⟨hs, idle⟩
    exact ⟨_, rfl, rfl, rfl, close reached false hs fun _ => idle⟩

end Surroundings

/-- The command was armed on the press of a keystroke. -/
def Account.Arms (account : Account τ κ) (armed : Armed (Bound κ)) : Prop :=
  ∃ arming, arming.event = account.stroke.press ∧ .armed arming armed ∈ account.history

/-- The command was armed in one of the accounts, and every release since was lost. -/
def Account.HeldOver (accounts : List (Account τ κ)) (armed : Armed (Bound κ)) : Prop :=
  ∃ before first skipped, accounts = before ++ first :: skipped ∧ first.Arms armed ∧
    ∀ account ∈ first :: skipped, account.lost = true

theorem Account.HeldOver.snoc {accounts : List (Account τ κ)} {armed : Armed (Bound κ)}
    (h : HeldOver accounts armed) {account : Account τ κ} (lost : account.lost = true) :
    HeldOver (accounts ++ [account]) armed := by
  obtain ⟨before, first, skipped, rfl, ha, hs⟩ := h
  refine ⟨before, first, skipped ++ [account], by simp, ha, ?_⟩
  intro other hm
  rw [← List.cons_append, List.mem_append, List.mem_singleton] at hm
  obtain hm | rfl := hm
  · exact hs other hm
  · exact lost

/-- An account that is in order, after others: what ran was armed on its press or held over, and
nothing is left unless the release was lost. -/
structure Account.Orderly (earlier : List (Account τ κ)) (account : Account τ κ) : Prop where
  left : account.lost = false → account.left = none
  executed : ∀ during callback context, .executed during callback context ∈ account.history →
    account.lost = false ∧ during.event = account.stroke.release ∧ ∃ armed,
      callback = armed.command.command.execute ∧ context = armed.command.context ∧
      (account.Arms armed ∨ HeldOver earlier armed)

theorem Account.orderly_of_chronicle {earlier : List (Account τ κ)} {account : Account τ κ}
    {first : Option (Armed (Bound κ))}
    (h : Chronicle (Occurrence.During account.stroke account.lost) first account.history
      account.left)
    (idle : account.lost = false → account.left = none)
    (held : ∀ armed, first = some armed → HeldOver earlier armed) :
    account.Orderly earlier ∧
      ∀ armed, account.left = some armed → HeldOver (earlier ++ [account]) armed := by
  have arms {arming : Handling} {armed : Armed (Bound κ)}
      (hm : .armed arming armed ∈ account.history) : account.Arms armed :=
    ⟨arming, h.ok_of_mem hm nofun, hm⟩
  refine ⟨⟨idle, ?_⟩, ?_⟩
  · intro during callback context hm
    obtain ⟨he, hl⟩ := h.ok_of_mem hm nofun
    obtain ⟨armed, hr, hc, hf | ⟨arming, ha⟩⟩ := h.executed_cases hm
    · exact ⟨hl, he, armed, hr, hc, .inr (held armed hf)⟩
    · exact ⟨hl, he, armed, hr, hc, .inl (arms ha)⟩
  · intro armed hl
    have lost : account.lost = true := by
      by_contra hn
      rw [idle (by simpa using hn)] at hl
      cases hl
    rw [hl] at h
    obtain hf | ⟨arming, ha⟩ := h.armed_cases
    · exact (held armed hf).snoc lost
    · exact ⟨earlier, account, [], rfl, ⟨arming, h.ok_of_mem ha nofun, ha⟩, by simp [lost]⟩

/-! ## Keystrokes one after another -/

theorem Surroundings.ends_strikeAll {around : Surroundings τ κ} (backed : around.Backed)
    (strokes : List (Stroke τ)) (earlier : List (Account τ κ)) (scene : Scene τ κ)
    (held : ∀ armed, scene.armed = some armed → Account.HeldOver earlier armed) :
    (around.strikeAll strokes).Ends scene fun result reached => ∃ accounts, result = .ok accounts ∧
      accounts.map (·.stroke) = strokes ∧
      reached.history = scene.history ++ accounts.flatMap (·.history) ∧
      ∀ before account after, accounts = before ++ account :: after →
        account.Orderly (earlier ++ before) := by
  induction strokes generalizing earlier scene with
  | nil => exact ⟨[], rfl, rfl, by simp, by simp⟩
  | cons stroke strokes ih =>
    refine (ends_strike backed stroke scene).bind ?_ (by rintro _ _ ⟨_, ⟨⟩, -⟩)
    rintro account here ⟨_, ⟨⟩, rfl, hl, hh, chronicle, idle⟩
    obtain ⟨orderly, next⟩ := Account.orderly_of_chronicle chronicle idle held
    refine (ih (earlier ++ [account]) here (hl ▸ next)).bind ?_ (by rintro _ _ ⟨_, ⟨⟩, -⟩)
    rintro accounts reached ⟨_, ⟨⟩, hs, hr, rest⟩
    refine ⟨account :: accounts, rfl, by simp [hs], by simp [hr, hh], ?_⟩
    rintro (_ | ⟨first, before⟩) other after e
    · obtain ⟨rfl, -⟩ := List.cons.inj e
      simpa using orderly
    · obtain ⟨rfl, ht⟩ := List.cons.inj e
      simpa using rest before other after ht

/-- Keystrokes are struck one after another, the host changes between their events, and no callback
dispatches. Then a command runs only on a release that gets as far as what is armed, and it was
armed on the press of that keystroke, or of an earlier one when every release since was lost.
Behind a release that gets so far nothing is armed. -/
theorem executions_within_strokes (around : Surroundings τ κ) (backed : around.Backed)
    (strokes : List (Stroke τ)) (host : τ) :
    (around.strikeAll strokes).Ends { host } fun result scene => ∃ accounts, result = .ok accounts ∧
      accounts.map (·.stroke) = strokes ∧ scene.history = accounts.flatMap (·.history) ∧
      ∀ earlier account later, accounts = earlier ++ account :: later →
        account.Orderly earlier := by
  have idle (armed : Armed (Bound κ)) (h : ({ host } : Scene τ κ).armed = some armed) :
      Account.HeldOver ([] : List (Account τ κ)) armed := by cases h
  refine (Surroundings.ends_strikeAll backed strokes [] { host } idle).mono ?_
  rintro result scene ⟨accounts, hr, hs, hh, orderly⟩
  exact ⟨accounts, hr, hs, hh, orderly⟩

/-- An overlay covers the window when F1 is released, and is gone when A is struck. -/
def Bare.interrupted : List (Stroke Bare) :=
  [{ key := "F1", source := some Bare.field, down := ⟨id, {}, 0⟩
     up := ⟨fun host => { host with covered := true }, {}, 1⟩ },
   { key := "a", source := some Bare.field
     down := ⟨fun host => { host with covered := false }, {}, 2⟩, up := ⟨id, {}, 3⟩ }]

/-- The command of a lost keystroke is held over, and runs on the release of the next. -/
theorem interrupted_held_over :
    (Surroundings.bare { commands := [Bare.help] }).Backed ∧ ∃ first second scene,
      ((Surroundings.bare { commands := [Bare.help] }).strikeAll Bare.interrupted).run
        { host := {} } = .done [first, second] scene ∧
      first.lost = true ∧ second.Orderly [first] ∧
      second.history.any Occurrence.isExecution = true := by
  have backed := Surroundings.bare_backed { commands := [Bare.help] }
  refine ⟨backed, _, _, _, rfl, rfl, ?_, rfl⟩
  have ends := executions_within_strokes _ backed Bare.interrupted {}
  obtain ⟨accounts, ⟨⟩, -, -, orderly⟩ := ends.of_done rfl
  exact orderly [_] _ [] rfl

/-- So a command may stay armed behind its keystroke, and may run in one that armed nothing. -/
theorem interrupted_runs_later : ∃ accounts scene,
    ((Surroundings.bare { commands := [Bare.help] }).strikeAll Bare.interrupted).run
      { host := {} } = .done accounts scene ∧
    (∃ account ∈ accounts, account.left.isSome = true) ∧
    ∃ account ∈ accounts, account.history.any Occurrence.isExecution = true ∧
      account.history.any Occurrence.isArming = false :=
  ⟨_, _, rfl, ⟨_, .head _, rfl⟩, _, .tail _ (.head _), rfl, rfl⟩

end KeyPrecedence
