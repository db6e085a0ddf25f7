import KeyPrecedence.Proofs.Command.Dispute

/-!
# Surveying the uses of shortcuts

* `Registry.Survey.Covers`: a survey has one conflict for each contested shortcut it came across;
* `Registry.survey_covers`: the survey of a registry covers all uses;
* `Registry.find?_uses`: it comes across a shortcut at the first command in the dispute about it.
-/

namespace KeyPrecedence

namespace Registry

variable {κ : Type} {registry : Registry κ} {table : ScopeTable} {shortcut : String}

/-- The commands with their shortcuts, in the order in which a report looks at them. -/
def uses (registry : Registry κ) : List (Command κ × String) :=
  registry.commands.flatMap fun command =>
    ((registry.effective command.id).filter (· ≠ "")).map fun shortcut => (command, shortcut)

/-- Whether the use is one of the shortcut, and contested. -/
def contests (registry : Registry κ) (table : ScopeTable) (shortcut : String)
    (use : Command κ × String) : Bool :=
  use.2 = shortcut &&
    !(registry.conflictsFor table use.2 use.1.scope (some use.1.id)).isEmpty

/-- What a command that contests a shortcut says of it. -/
def view (registry : Registry κ) (table : ScopeTable) (command : Command κ) (shortcut : String) :
    List String :=
  command.id ::
    (registry.conflictsFor table shortcut command.scope (some command.id)).map (·.id)

/-- The survey has one conflict for each contested shortcut, as the first use of it has it. -/
structure Survey.Covers (registry : Registry κ) (table : ScopeTable)
    (uses : List (Command κ × String)) (survey : Survey) : Prop where
  seen : survey.seen = survey.conflicts.map (·.shortcut)
  once : (survey.conflicts.map (·.shortcut)).Nodup
  mem : ∀ conflict, conflict ∈ survey.conflicts ↔
    ∃ command, uses.find? (registry.contests table conflict.shortcut) =
        some (command, conflict.shortcut) ∧
      conflict.commandIds = registry.view table command conflict.shortcut

theorem find?_snoc {α : Type} {p : α → Bool} {l : List α} {a : α}
    (h : (l.find? p).isSome = true ∨ p a = false) : (l ++ [a]).find? p = l.find? p := by
  rw [List.find?_append]
  cases hf : l.find? p with
  | some b => rfl
  | none =>
    rw [hf] at h
    simpa using h

theorem contests_of_ne {command : Command κ} {other : String} (h : other ≠ shortcut) :
    registry.contests table other (command, shortcut) = false := by
  unfold contests
  rw [decide_eq_false (Ne.symm h), Bool.false_and]

namespace Survey.Covers

variable {uses : List (Command κ × String)} {survey : Survey}

theorem known (h : survey.Covers registry table uses) :
    survey.seen.contains shortcut = true ↔
      (uses.find? (registry.contests table shortcut)).isSome = true := by
  rw [List.contains_iff_mem, h.seen, List.mem_map]
  constructor
  · rintro ⟨conflict, hm, rfl⟩
    obtain ⟨command, hf, -⟩ := (h.mem conflict).mp hm
    rw [hf]
    rfl
  · intro hs
    obtain ⟨⟨command, used⟩, hf⟩ := Option.isSome_iff_exists.mp hs
    have hu : used = shortcut := by
      have hc := List.find?_some hf
      unfold contests at hc
      exact of_decide_eq_true (Bool.and_eq_true_iff.mp hc).1
    subst hu
    exact ⟨⟨used, registry.view table command used⟩, (h.mem _).mpr ⟨command, hf, rfl⟩, rfl⟩

/-- A use that says nothing new changes nothing. -/
theorem skip (h : survey.Covers registry table uses) {command : Command κ}
    (old : (uses.find? (registry.contests table shortcut)).isSome = true ∨
      registry.contests table shortcut (command, shortcut) = false) :
    survey.Covers registry table (uses ++ [(command, shortcut)]) := by
  refine ⟨h.seen, h.once, fun conflict => ?_⟩
  have same : (uses ++ [(command, shortcut)]).find? (registry.contests table conflict.shortcut) =
      uses.find? (registry.contests table conflict.shortcut) := by
    apply find?_snoc
    by_cases hs : conflict.shortcut = shortcut
    · rw [hs]
      exact old
    · exact .inr (contests_of_ne hs)
  rw [same]
  exact h.mem conflict

theorem add (h : survey.Covers registry table uses) {command : Command κ}
    (new : (uses.find? (registry.contests table shortcut)).isSome = false)
    (contested : registry.contests table shortcut (command, shortcut) = true) :
    Survey.Covers registry table (uses ++ [(command, shortcut)])
      { seen := survey.seen ++ [shortcut]
        conflicts := survey.conflicts ++ [⟨shortcut, registry.view table command shortcut⟩] } := by
  have unseen : shortcut ∉ survey.conflicts.map (·.shortcut) := by
    intro hm
    rw [← h.seen, ← List.contains_iff_mem, h.known, new] at hm
    cases hm
  refine ⟨by simp [h.seen], ?_, fun conflict => ?_⟩
  · rw [List.map_append]
    refine List.nodup_append.mpr ⟨h.once, List.nodup_singleton _, ?_⟩
    rintro _ hm _ hs rfl
    have he := List.mem_singleton.mp hs
    dsimp only at he
    exact unseen (he ▸ hm)
  rw [List.mem_append, List.mem_singleton]
  by_cases hs : conflict.shortcut = shortcut
  · subst hs
    have hf : (uses ++ [(command, conflict.shortcut)]).find?
        (registry.contests table conflict.shortcut) = some (command, conflict.shortcut) := by
      have none : uses.find? (registry.contests table conflict.shortcut) = none := by
        simpa using new
      rw [List.find?_append, none]
      simp [contested]
    rw [hf]
    constructor
    · rintro (hm | hm)
      · exact absurd (List.mem_map_of_mem hm) unseen
      · exact ⟨command, rfl, by rw [hm]⟩
    · rintro ⟨_, ⟨⟩, hi⟩
      exact .inr (by cases conflict; simp_all)
  · rw [find?_snoc (.inr (contests_of_ne hs)), h.mem]
    constructor
    · rintro (hm | rfl)
      · exact hm
      · exact absurd rfl hs
    · exact .inl

/-- Looking at one more use. -/
theorem visit (h : survey.Covers registry table uses) (command : Command κ) (shortcut : String) :
    (survey.visit registry table command shortcut).Covers registry table
      (uses ++ [(command, shortcut)]) := by
  unfold Survey.visit
  split
  · rename_i hs
    exact h.skip (.inl (h.known.mp hs))
  rename_i hs
  split
  · rename_i hc
    refine h.skip (.inr ?_)
    unfold contests
    rw [hc, Bool.not_true, Bool.and_false]
  · rename_i hc
    rw [Bool.not_eq_true] at hc
    have contested : registry.contests table shortcut (command, shortcut) = true := by
      unfold contests
      rw [hc, decide_eq_true rfl]
      rfl
    have new : (uses.find? (registry.contests table shortcut)).isSome = false := by
      rw [h.known, Bool.not_eq_true] at hs
      exact hs
    obtain ⟨other, hm⟩ := List.isEmpty_eq_false_iff_exists_mem.mp hc
    have ids : (registry.contestants table command shortcut).map (·.id) =
        registry.view table command shortcut := by
      rw [contestants_eq]
      unfold view
      cases hf : registry.conflictsFor table shortcut command.scope (some command.id) with
      | nil => rw [hf] at hm; cases hm
      | cons first others => rfl
    have several : 1 < (registry.view table command shortcut).length := by
      unfold view
      rw [List.length_cons, List.length_map]
      have := List.length_pos_of_mem hm
      omega
    dsimp only
    rw [ids, if_pos several]
    exact h.add new contested

theorem start : Survey.Covers registry table [] {} where
  seen := rfl
  once := List.nodup_nil
  mem conflict := by
    constructor
    · rintro ⟨⟩
    · rintro ⟨_, ⟨⟩, -⟩

theorem visitAll (more : List (Command κ × String)) {looked : List (Command κ × String)}
    {survey : Survey} (h : survey.Covers registry table looked) :
    (more.foldl (fun survey use => survey.visit registry table use.1 use.2) survey).Covers registry
      table (looked ++ more) := by
  induction more generalizing looked survey with
  | nil => rwa [List.append_nil]
  | cons use more ih =>
    have next := ih (h.visit use.1 use.2)
    rwa [List.append_assoc, List.singleton_append] at next

end Survey.Covers

theorem survey_covers (registry : Registry κ) (table : ScopeTable) :
    (registry.commands.foldl (Survey.visitCommand registry table) {}).Covers registry table
      registry.uses := by
  have flat : registry.commands.foldl (Survey.visitCommand registry table) {} =
      registry.uses.foldl (fun survey use => survey.visit registry table use.1 use.2) {} := by
    unfold uses
    rw [List.foldl_flatMap]
    simp only [List.foldl_map]
    rfl
  rw [flat]
  exact Survey.Covers.start.visitAll registry.uses

theorem contests_eq_true {command : Command κ} {used : String} :
    registry.contests table shortcut (command, used) = true ↔ used = shortcut ∧
      ∃ other, other ∈ registry.conflictsFor table shortcut command.scope (some command.id) := by
  unfold contests
  rw [Bool.and_eq_true, decide_eq_true_iff, Bool.not_eq_true', List.isEmpty_eq_false_iff_exists_mem]
  constructor
  · rintro ⟨rfl, h⟩
    exact ⟨rfl, h⟩
  · rintro ⟨rfl, h⟩
    exact ⟨rfl, h⟩

/-- A command has at most one contested use of a shortcut. -/
theorem find?_own (registry : Registry κ) (table : ScopeTable) (shortcut : String)
    (command : Command κ) :
    (((registry.effective command.id).filter (· ≠ "")).map fun used => (command, used)).find?
      (registry.contests table shortcut) =
    if registry.contested table shortcut command then some (command, shortcut) else none := by
  have own {use : Command κ × String}
      (hm : use ∈ ((registry.effective command.id).filter (· ≠ "")).map fun used => (command, used)) :
      use.1 = command ∧ use.2 ∈ registry.effective command.id := by
    obtain ⟨used, hu, rfl⟩ := List.mem_map.mp hm
    exact ⟨rfl, (List.mem_filter.mp hu).1⟩
  split
  · rename_i hp
    obtain ⟨he, other, ho⟩ := contested_iff.mp hp
    have hn := (mem_conflictsFor.mp ho).1
    cases hf : (((registry.effective command.id).filter (· ≠ "")).map fun used =>
        (command, used)).find? (registry.contests table shortcut) with
    | none =>
      have hm : (command, shortcut) ∈
          ((registry.effective command.id).filter (· ≠ "")).map fun used => (command, used) :=
        List.mem_map_of_mem (List.mem_filter.mpr ⟨he, decide_eq_true hn⟩)
      exact absurd (contests_eq_true.mpr ⟨rfl, other, ho⟩) (List.find?_eq_none.mp hf _ hm)
    | some use =>
      obtain ⟨hc, -⟩ := own (List.mem_of_find?_eq_some hf)
      obtain ⟨taken, used⟩ := use
      have hu := (contests_eq_true.mp (List.find?_some hf)).1
      rw [hu, show taken = command from hc]
  · rename_i hp
    refine List.find?_eq_none.mpr ?_
    rintro ⟨taken, used⟩ hm hc
    obtain ⟨ht, he⟩ := own hm
    obtain ⟨hu, hc⟩ := contests_eq_true.mp hc
    dsimp only at ht he
    subst ht hu
    exact hp (contested_iff.mpr ⟨he, hc⟩)

/-- The first contested use of a shortcut is that of the first command in the dispute. -/
theorem find?_uses (registry : Registry κ) (table : ScopeTable) (shortcut : String) :
    registry.uses.find? (registry.contests table shortcut) =
      (registry.disputed table shortcut).head?.map fun command => (command, shortcut) := by
  unfold uses disputed
  induction registry.commands with
  | nil => rfl
  | cons command commands ih =>
    rw [List.flatMap_cons, List.find?_append, find?_own, ih, List.filter_cons]
    split <;> rfl

end Registry
end KeyPrecedence
