import KeyPrecedence.Proofs.Command.Survey

/-!
# The reported conflicts

* `Registry.mem_conflicts`: a report tells of the first command in a dispute and of those it
  overlaps;
* `Registry.hasConflicts_iff`: the check of one command tells of all of them;
* `Registry.reports_agree_iff`: so the two agree when the first ones reach all the others.
-/

namespace KeyPrecedence

namespace Registry

variable {κ : Type} {registry : Registry κ} {table : ScopeTable} {shortcut : String}

/-- A conflict tells of the first in the dispute and of those it overlaps. -/
theorem mem_conflicts (distinct : registry.Distinct) {conflict : Conflict} :
    conflict ∈ registry.conflicts table ↔
      ∃ first others, registry.disputed table conflict.shortcut = first :: others ∧
        conflict.commandIds = first.id ::
          (others.filter fun other => table.overlap other.scope first.scope).map (·.id) := by
  unfold conflicts
  rw [(registry.survey_covers table).mem, find?_uses]
  unfold view
  constructor
  · rintro ⟨first, hf, hi⟩
    cases hd : registry.disputed table conflict.shortcut with
    | nil =>
      rw [hd] at hf
      cases hf
    | cons head others =>
      rw [hd] at hf
      cases hf
      rw [conflictsFor_first distinct hd] at hi
      exact ⟨_, others, rfl, hi⟩
  · rintro ⟨first, others, hd, hi⟩
    rw [← conflictsFor_first distinct hd] at hi
    exact ⟨first, by rw [hd]; rfl, hi⟩

theorem mem_addAll {ids seen : List String} {id : String} :
    id ∈ ids.foldl (fun seen id => if seen.contains id then seen else seen ++ [id]) seen ↔
      id ∈ seen ∨ id ∈ ids := by
  induction ids generalizing seen with
  | nil => simp
  | cons first ids ih =>
    rw [List.foldl_cons, ih, List.mem_cons]
    split
    · rename_i hs
      rw [List.contains_iff_mem] at hs
      constructor
      · rintro (h | h)
        · exact .inl h
        · exact .inr (.inr h)
      · rintro (h | rfl | h)
        · exact .inl h
        · exact .inl hs
        · exact .inr h
    · rw [List.mem_append, List.mem_singleton, or_assoc]

theorem mem_conflictIds {id : String} :
    id ∈ registry.conflictIds table ↔
      ∃ conflict ∈ registry.conflicts table, id ∈ conflict.commandIds := by
  unfold conflictIds
  rw [mem_addAll, List.mem_flatMap]
  simp

/-- The check of one command tells whether it is in any dispute. -/
theorem hasConflicts_iff (distinct : registry.Distinct) {id : String} :
    registry.hasConflicts table id = true ↔
      ∃ shortcut, ∃ command ∈ registry.disputed table shortcut, command.id = id := by
  unfold hasConflicts
  constructor
  · intro h
    cases hg : registry.get? id with
    | none =>
      rw [hg] at h
      cases h
    | some command =>
      rw [hg] at h
      obtain ⟨shortcut, hs, hc⟩ := List.any_eq_true.mp h
      have hi : command.id = id := by simpa using List.find?_some hg
      subst hi
      rw [Bool.not_eq_true', List.isEmpty_eq_false_iff_exists_mem] at hc
      exact ⟨shortcut, command, mem_disputed.mpr ⟨List.mem_of_find?_eq_some hg, hs, hc⟩, rfl⟩
  · rintro ⟨shortcut, command, hd, rfl⟩
    obtain ⟨hm, hs, hc⟩ := mem_disputed.mp hd
    rw [get?_of_mem distinct hm]
    refine List.any_eq_true.mpr ⟨shortcut, hs, ?_⟩
    rwa [Bool.not_eq_true', List.isEmpty_eq_false_iff_exists_mem]

/-- The command is the first in the dispute about a shortcut, or overlaps the first. -/
def Reached (registry : Registry κ) (table : ScopeTable) (shortcut : String)
    (command : Command κ) : Prop :=
  ∃ first others, registry.disputed table shortcut = first :: others ∧
    command ∈ first :: others ∧
    (command = first ∨ table.overlap command.scope first.scope = true)

/-- The commands reported to have conflicts are those the first ones reach. -/
theorem mem_conflictIds_iff (distinct : registry.Distinct) {id : String} :
    id ∈ registry.conflictIds table ↔
      ∃ shortcut command, registry.Reached table shortcut command ∧ command.id = id := by
  rw [mem_conflictIds]
  constructor
  · rintro ⟨conflict, hm, hi⟩
    obtain ⟨first, others, hd, he⟩ := (mem_conflicts distinct).mp hm
    rw [he, List.mem_cons] at hi
    obtain rfl | hi := hi
    · exact ⟨conflict.shortcut, first, ⟨first, others, hd, .head _, .inl rfl⟩, rfl⟩
    · obtain ⟨other, ho, rfl⟩ := List.mem_map.mp hi
      obtain ⟨ho, hv⟩ := List.mem_filter.mp ho
      exact ⟨conflict.shortcut, other, ⟨first, others, hd, .tail _ ho, .inr hv⟩, rfl⟩
  · rintro ⟨shortcut, command, ⟨first, others, hd, hm, hr⟩, rfl⟩
    refine ⟨⟨shortcut, _⟩, (mem_conflicts distinct).mpr ⟨first, others, hd, rfl⟩, ?_⟩
    obtain rfl | hm := List.mem_cons.mp hm
    · exact .head _
    obtain rfl | hv := hr
    · exact .head _
    · exact .tail _ (List.mem_map_of_mem (List.mem_filter.mpr ⟨hm, hv⟩))

theorem Reached.mem_disputed {command : Command κ}
    (h : registry.Reached table shortcut command) :
    command ∈ registry.disputed table shortcut := by
  obtain ⟨first, others, hd, hm, -⟩ := h
  rwa [hd]

/-- A conflict lists the whole dispute when its first command reaches all the others. -/
theorem commandIds_eq_iff (distinct : registry.Distinct) {conflict : Conflict}
    (h : conflict ∈ registry.conflicts table) :
    conflict.commandIds = (registry.disputed table conflict.shortcut).map (·.id) ↔
      ∀ command ∈ registry.disputed table conflict.shortcut,
        registry.Reached table conflict.shortcut command := by
  obtain ⟨first, others, hd, hi⟩ := (mem_conflicts distinct).mp h
  rw [hi, hd, List.map_cons, List.cons.injEq, eq_self, true_and]
  constructor
  · intro he command hm
    refine ⟨first, others, hd, hm, ?_⟩
    obtain rfl | hm := List.mem_cons.mp hm
    · exact .inl rfl
    have hl : (others.filter fun other => table.overlap other.scope first.scope).length =
        others.length := by
      have := congrArg List.length he
      rwa [List.length_map, List.length_map] at this
    exact .inr (List.length_filter_eq_length_iff.mp hl command hm)
  · intro hr
    have apart : first ∉ others := by
      have hn : ((registry.disputed table conflict.shortcut).map (·.id)).Nodup :=
        distinct.sublist (List.Sublist.map _ List.filter_sublist)
      rw [hd] at hn
      intro hm
      exact (List.nodup_cons.mp hn).1 (List.mem_map_of_mem hm)
    have all : ∀ other ∈ others, table.overlap other.scope first.scope = true := by
      intro other ho
      obtain ⟨head, rest, he, -, hv⟩ := hr other (.tail _ ho)
      rw [hd] at he
      obtain ⟨rfl, rfl⟩ := List.cons.inj he
      obtain rfl | hv := hv
      · exact absurd ho apart
      · exact hv
    rw [List.filter_eq_self.mpr all]

/-- A report of all conflicts has one entry for each shortcut that is in dispute. The entry lists
the whole dispute exactly when the first command in it reaches all the others. What is reported to
have conflicts has some, and the converse holds exactly when every command in a dispute is reached
in one. -/
theorem reports_agree_iff (reachable : registry.Reachable) (table : ScopeTable) :
    ((registry.conflicts table).map (·.shortcut)).Nodup ∧
    (∀ shortcut, (∃ conflict ∈ registry.conflicts table, conflict.shortcut = shortcut) ↔
      registry.disputed table shortcut ≠ []) ∧
    (∀ conflict ∈ registry.conflicts table,
      conflict.commandIds = (registry.disputed table conflict.shortcut).map (·.id) ↔
        ∀ command ∈ registry.disputed table conflict.shortcut,
          registry.Reached table conflict.shortcut command) ∧
    (∀ id ∈ registry.conflictIds table, registry.hasConflicts table id = true) ∧
    ((∀ id, id ∈ registry.conflictIds table ↔ registry.hasConflicts table id = true) ↔
      ∀ shortcut, ∀ command ∈ registry.disputed table shortcut,
        ∃ other, registry.Reached table other command) := by
  have distinct := reachable.distinct
  have reported : ∀ id ∈ registry.conflictIds table, registry.hasConflicts table id = true := by
    intro id hi
    obtain ⟨shortcut, command, hr, rfl⟩ := (mem_conflictIds_iff distinct).mp hi
    exact (hasConflicts_iff distinct).mpr ⟨shortcut, command, hr.mem_disputed, rfl⟩
  refine ⟨(registry.survey_covers table).once, ?_, fun _ => commandIds_eq_iff distinct, reported, ?_⟩
  · intro shortcut
    constructor
    · rintro ⟨conflict, hm, rfl⟩
      obtain ⟨first, others, hd, -⟩ := (mem_conflicts distinct).mp hm
      rw [hd]
      exact List.cons_ne_nil _ _
    · intro hd
      obtain ⟨first, others, hd⟩ := List.exists_cons_of_ne_nil hd
      exact ⟨⟨shortcut, _⟩, (mem_conflicts distinct).mpr ⟨first, others, hd, rfl⟩, rfl⟩
  · constructor
    · intro agree shortcut command hd
      have hi := (agree command.id).mpr ((hasConflicts_iff distinct).mpr ⟨_, command, hd, rfl⟩)
      obtain ⟨other, same, hr, he⟩ := (mem_conflictIds_iff distinct).mp hi
      have := eq_of_id_eq distinct (mem_disputed.mp hr.mem_disputed).1 (mem_disputed.mp hd).1 he
      exact ⟨other, this ▸ hr⟩
    · intro reach id
      refine ⟨reported id, fun h => ?_⟩
      obtain ⟨shortcut, command, hd, rfl⟩ := (hasConflicts_iff distinct).mp h
      obtain ⟨other, hr⟩ := reach shortcut command hd
      exact (mem_conflictIds_iff distinct).mpr ⟨other, command, hr, rfl⟩

/-! ## Two windows that both overlap the application, and not each other -/

def windows : ScopeTable :=
  .ofList [("Left", ["Left", "App"]), ("Right", ["Right", "App"]), ("App", ["App"])]

def reload (scope : String) : Definition Unit where
  id := scope
  name := scope
  execute := ()
  scope := some scope
  shortcuts := some ["F5"]

/-- One command on F5 for each scope. -/
def reloading (scopes : List String) : Registry Unit :=
  { commands := scopes.map fun scope => (reload scope).command }

theorem reachable_reloading (scopes : List String) (distinct : scopes.Nodup) :
    (reloading scopes).Reachable := by
  have ids : ((scopes.map reload).map (·.id)).Nodup := by
    rw [List.map_map]
    exact (List.map_id scopes).symm ▸ distinct
  have h := reachable_of_definitions (scopes.map reload) ids
  rwa [List.map_map] at h

/-- Two such commands are in one dispute, and the first reaches the other. -/
theorem left_app_agree : ["Left", "App"].Nodup ∧ (reloading ["Left", "App"]).Reachable ∧
    ∀ id, id ∈ (reloading ["Left", "App"]).conflictIds windows ↔
      (reloading ["Left", "App"]).hasConflicts windows id = true := by
  have distinct : ["Left", "App"].Nodup := by decide
  have reachable := reachable_reloading _ distinct
  refine ⟨distinct, reachable, ?_⟩
  obtain ⟨-, -, -, -, agree⟩ := reports_agree_iff reachable windows
  refine agree.mpr fun shortcut command hd => ⟨shortcut, ?_⟩
  obtain ⟨hm, hs, -⟩ := mem_disputed.mp hd
  cases hm with
  | head =>
    have hs : shortcut ∈ ["F5"] := hs
    rw [List.mem_singleton.mp hs]
    exact ⟨_, _, rfl, .head _, .inl rfl⟩
  | tail _ hm =>
    cases hm with
    | head =>
      have hs : shortcut ∈ ["F5"] := hs
      rw [List.mem_singleton.mp hs]
      exact ⟨_, _, rfl, .tail _ (.head _), .inr rfl⟩
    | tail _ hm => cases hm

/-- Of three, the last is left out of the report though it has a conflict. -/
theorem right_left_out : ["Left", "App", "Right"].Nodup ∧
    (reloading ["Left", "App", "Right"]).Reachable ∧
    (reloading ["Left", "App", "Right"]).conflicts windows = [⟨"F5", ["Left", "App"]⟩] ∧
    (reloading ["Left", "App", "Right"]).hasConflicts windows "Right" = true ∧
    "Right" ∉ (reloading ["Left", "App", "Right"]).conflictIds windows := by
  have distinct : ["Left", "App", "Right"].Nodup := by decide
  exact ⟨distinct, reachable_reloading _ distinct, rfl, rfl, by decide⟩

end Registry
end KeyPrecedence
