import KeyPrecedence.Proofs.Dispatch.Annotated

/-!
# The minutes of a dispatch

A list of calls does not tell what each of them was answered, and so not whether the next one was
due. Minutes do.

* `Minute`: a call with its answer;
* `Notes.minutes`: of each call such an entry is made; `Dispatcher.minuted`: the dispatcher of whose
  calls minutes are taken;
* `Minuted.Adds`: how a step ends, and what it adds to the minutes;
* `Minuted.adds_asked`, `Minuted.adds_called`: what is only asked adds nothing, and a call one
  entry.
-/

namespace KeyPrecedence

open Act Annotated

variable {σ κ α β : Type}

/-- A call and its answer: what a question was answered, whether a command was found, or whether the
event was consumed after a listener. One that failed has no answer. -/
structure Minute (κ : Type) where
  call : Call κ
  answer : Option Bool := none
  deriving DecidableEq, Repr

/-- Of each call there is an entry with its answer, and of nothing else. -/
def Notes.minutes : Notes κ (List (Minute κ)) where
  call call answer minutes := minutes ++ [⟨call, answer.toOption⟩]
  failure _ minutes := minutes
  consumed _ minutes := minutes

/-- A host of whose calls minutes are taken. -/
abbrev Minuted (σ κ : Type) := Annotated σ (List (Minute κ))

/-- The dispatcher on its host, with the minutes of its calls taken. -/
abbrev Dispatcher.minuted (dispatcher : Dispatcher σ κ) : Dispatcher (Minuted σ κ) κ :=
  dispatcher.annotated .minutes

/-! ## What a step adds to the minutes -/

namespace Minuted

/-- From this host the step ends with this result, and adds this to any minutes. -/
def Adds (act : Act (Minuted σ κ) α) (host : σ) (result : Except Fault α) (reached : σ)
    (said : List (Minute κ)) : Prop :=
  ∀ minutes, act.attempt.run ⟨host, minutes⟩ = .done result ⟨reached, minutes ++ said⟩

variable {host mid reached : σ} {said more : List (Minute κ)}

theorem adds_pure (value : α) : Adds (pure value : Act (Minuted σ κ) α) host (.ok value) host [] := by
  intro minutes
  simp

theorem adds_fail (fault : Fault) :
    Adds (.fail fault : Act (Minuted σ κ) α) host (.error fault) host [] := by
  intro minutes
  simp

theorem Adds.bind {act : Act (Minuted σ κ) α} {next : α → Act (Minuted σ κ) β} {value : α}
    {result : Except Fault β} (h : Adds act host (.ok value) mid said)
    (hn : Adds (next value) mid result reached more) :
    Adds (act >>= next) host result reached (said ++ more) := by
  intro minutes
  have first := h minutes
  have second := hn (minutes ++ said)
  rw [run_attempt] at first second ⊢
  rw [run_bind]
  cases hr : act.run ⟨host, minutes⟩ with
  | done given after =>
    rw [hr] at first
    cases first
    rw [← List.append_assoc]
    exact second
  | failed fault after =>
    rw [hr] at first
    cases first
  | exhausted =>
    rw [hr] at first
    cases first

/-- What comes last may add nothing. -/
theorem Adds.bind_quiet {act : Act (Minuted σ κ) α} {next : α → Act (Minuted σ κ) β} {value : α}
    {result : Except Fault β} (h : Adds act host (.ok value) mid said)
    (hn : Adds (next value) mid result reached []) :
    Adds (act >>= next) host result reached said := by
  have all := h.bind hn
  rwa [List.append_nil] at all

variable {act : Act σ α} {value : α}

theorem adds_called (call : Call κ) (answer : α → σ → Bool)
    (h : act.run host = .done value reached) :
    Adds (Notes.minutes.called call answer act) host (.ok value) reached
      [⟨call, answer value reached⟩] := by
  intro minutes
  rw [run_attempt, Notes.run_called, h]
  rfl

theorem adds_asked (h : act.run host = .done value reached) :
    Adds (κ := κ) (asked Notes.minutes.failure act) host (.ok value) reached [] := by
  intro minutes
  rw [run_attempt, run_asked_of_done h, List.append_nil]

/-- An answer of the host that is put another way. -/
theorem adds_map_asked (f : α → β) (h : act.run host = .done value reached) :
    Adds (κ := κ) (f <$> asked Notes.minutes.failure act) host (.ok (f value)) reached [] :=
  (adds_asked h).bind (adds_pure (f value))

end Minuted

/-- Arming a command calls nobody. -/
theorem Dispatcher.minuted_award (dispatcher : Dispatcher σ κ) (bound : Bound κ) (event : KeyEvent)
    (destination : Option Widget) :
    dispatcher.minuted.award bound event destination =
      asked Notes.minutes.failure (dispatcher.award bound event destination) := by
  unfold award
  rw [asked_bind, annotated_arm]
  rfl

end KeyPrecedence
