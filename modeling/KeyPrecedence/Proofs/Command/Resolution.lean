import KeyPrecedence.Command.Host
import KeyPrecedence.Proofs.Ends

/-!
# The command a keystroke stands for

* `Registry.ranking`: the commands that have a shortcut in a window, in the order in which they come
  into question;
* `Registry.resolve_command`: a press stands for the first of them;
* `ScopeTable.ends_commandFor`, `ScopeTable.answers_commandFor`: so does a lookup on a host.
-/

namespace KeyPrecedence

variable {σ κ : Type}

namespace Registry

variable {registry : Registry κ} {shortcut : String}

/-- The commands that have a shortcut, by scope and then in the order of registration. -/
def ranking (registry : Registry κ) (shortcut : String) (scopes : List String) : List (Command κ) :=
  scopes.flatMap fun scope => registry.candidates scope shortcut

theorem mem_ranking {scopes : List String} {command : Command κ} :
    command ∈ registry.ranking shortcut scopes ↔
      command ∈ registry.commands ∧ command.scope ∈ scopes ∧
        shortcut ∈ registry.effective command.id := by
  simp only [ranking, candidates, List.mem_flatMap, List.mem_filter, Bool.and_eq_true,
    decide_eq_true_eq, List.contains_iff_mem]
  constructor
  · rintro ⟨scope, hs, hm, rfl, he⟩
    exact ⟨hm, hs, he⟩
  · rintro ⟨hm, hs, he⟩
    exact ⟨_, hs, hm, rfl, he⟩

/-- The first scope with a candidate decides, which is to say the first candidate of all. -/
theorem resolveIn_command (scopes : List String) :
    (registry.resolveIn shortcut scopes).command =
      (registry.ranking shortcut scopes).head? := by
  induction scopes with
  | nil => rfl
  | cons scope scopes ih =>
    have hr : registry.ranking shortcut (scope :: scopes) =
        registry.candidates scope shortcut ++ registry.ranking shortcut scopes := by
      simp [ranking]
    rw [hr]
    unfold resolveIn
    cases registry.candidates scope shortcut with
    | nil => exact ih
    | cons command others => cases others <;> rfl

theorem resolve_command {table : ScopeTable} {fallback : String} {keystroke : Keystroke}
    {window : Window} (hp : keystroke.phase = .pressed) (hs : keystroke.shortcut ≠ "") :
    (registry.resolve table fallback keystroke window).command =
      (registry.ranking keystroke.shortcut
        (table.active (window.scopeIn table fallback))).head? := by
  unfold resolve
  rw [if_pos ⟨hp, hs⟩, resolveIn_command]

end Registry

theorem Registry.pressed_of_resolve {registry : Registry κ} {table : ScopeTable} {fallback : String}
    {keystroke : Keystroke} {window : Window} {command : Command κ}
    (h : (registry.resolve table fallback keystroke window).command = some command) :
    keystroke.phase = .pressed := by
  unfold Registry.resolve at h
  split at h
  · exact (‹_ ∧ _›).1
  · cases h

/-- A command is found by its own shortcuts only. -/
theorem Registry.bound_of_resolve {registry : Registry κ} {table : ScopeTable} {fallback : String}
    {keystroke : Keystroke} {window : Window} {command : Command κ}
    (h : (registry.resolve table fallback keystroke window).command = some command) :
    keystroke.shortcut ∈ registry.effective command.id := by
  unfold Registry.resolve at h
  split at h
  · rw [resolveIn_command] at h
    exact (mem_ranking.mp (List.mem_of_head? h)).2.2
  · cases h

/-- Looking a keystroke up gives what the registry gives at that moment. -/
theorem ScopeTable.ends_commandFor {table : ScopeTable} {fallback : String}
    {registry : Slot σ (Registry κ)} {log : Notice → Act σ Unit} {keystroke : Keystroke}
    {window : Window} {state : σ} :
    (table.commandFor fallback registry log keystroke window).Ends state fun result _ =>
      ∀ found, result = .ok found →
        ((registry.get state).resolve table fallback keystroke window).command = found := by
  refine Slot.ends_read_bind.mpr ?_
  dsimp only
  split
  · refine Act.ends_any.bind ?_ ?_
    · rintro _ _ - _ ⟨⟩
      rfl
    · rintro _ _ - _ ⟨⟩
  · rintro _ ⟨⟩
    rfl

theorem ScopeTable.answers_commandFor {inv : σ → Prop} {table : ScopeTable} {fallback : String}
    {registry : Slot σ (Registry κ)} {log : Notice → Act σ Unit} {held : Registry κ}
    (hr : ∀ state, inv state → registry.get state = held)
    (hl : ∀ notice, (log notice).Answers inv fun _ => True) (keystroke : Keystroke)
    (window : Window) :
    (table.commandFor fallback registry log keystroke window).Answers inv
      (· = (held.resolve table fallback keystroke window).command) := by
  intro state h
  unfold commandFor
  rw [Act.run_bind, Slot.run_read, hr state h]
  dsimp only
  split
  · obtain ⟨_, reached, hi, -, hd⟩ := (hl _).run_bind h _
    exact ⟨_, reached, hd, hi, rfl⟩
  · exact ⟨_, state, rfl, h, rfl⟩

end KeyPrecedence
