import KeyPrecedence.Proofs.Command.Conflict

/-!
# What the report of all conflicts says

* `Registry.Contested`: two commands whose scopes overlap have the same shortcut;
* `Registry.exists_conflict_iff`: the report has an entry for exactly the contested shortcuts;
* `Registry.Tells`: what an entry lists is its first command and others that overlap it;
* `Registry.conflicts_eq_nil_iff`: an empty report stands for no conflict at all;
* `Registry.report_exact`: all of this of every registry a host can come to have.
-/

namespace KeyPrecedence

namespace Registry

variable {κ : Type} {registry : Registry κ} {table : ScopeTable} {shortcut : String}

/-- Two different commands with overlapping scopes both have the shortcut. The empty shortcut is
never contested. -/
def Contested (registry : Registry κ) (table : ScopeTable) (shortcut : String) : Prop :=
  shortcut ≠ "" ∧ ∃ a ∈ registry.commands, ∃ b ∈ registry.commands, a ≠ b ∧
    table.overlap a.scope b.scope = true ∧
    shortcut ∈ registry.effective a.id ∧ shortcut ∈ registry.effective b.id

/-- An entry lists several registered commands that have its shortcut, each once and in the order of
registration, and all the others overlap the first. -/
def Tells (registry : Registry κ) (table : ScopeTable) (conflict : Conflict) : Prop :=
  ∃ first others, conflict.commandIds = (first :: others).map (·.id) ∧
    2 ≤ conflict.commandIds.length ∧ conflict.commandIds.Nodup ∧
    (first :: others).Sublist registry.commands ∧
    (∀ command ∈ first :: others, conflict.shortcut ∈ registry.effective command.id) ∧
    ∀ other ∈ others, table.overlap other.scope first.scope = true

theorem contested_iff_disputed (distinct : registry.Distinct) :
    registry.Contested table shortcut ↔ registry.disputed table shortcut ≠ [] := by
  constructor
  · rintro ⟨hn, a, ha, b, hb, apart, overlap, sa, sb⟩
    have other : b.id ≠ a.id := fun he => apart (eq_of_id_eq distinct ha hb he.symm)
    have conflict : b ∈ registry.conflictsFor table shortcut a.scope (some a.id) :=
      mem_conflictsFor.mpr ⟨hn, hb, other, sb, table.overlap_comm a.scope b.scope ▸ overlap⟩
    exact List.ne_nil_of_mem (mem_disputed.mpr ⟨ha, sa, b, conflict⟩)
  · intro hd
    obtain ⟨a, hm⟩ := List.exists_mem_of_ne_nil _ hd
    obtain ⟨ha, sa, b, conflict⟩ := mem_disputed.mp hm
    obtain ⟨hn, hb, other, sb, overlap⟩ := mem_conflictsFor.mp conflict
    have apart : a ≠ b := by
      rintro rfl
      exact other rfl
    exact ⟨hn, a, ha, b, hb, apart, table.overlap_comm b.scope a.scope ▸ overlap, sa, sb⟩

theorem exists_conflict_iff (distinct : registry.Distinct) :
    (∃ conflict ∈ registry.conflicts table, conflict.shortcut = shortcut) ↔
      registry.Contested table shortcut := by
  rw [contested_iff_disputed distinct]
  constructor
  · rintro ⟨conflict, hm, rfl⟩
    obtain ⟨first, others, hd, -⟩ := (mem_conflicts distinct).mp hm
    simp [hd]
  · intro hd
    obtain ⟨first, others, hd⟩ := List.exists_cons_of_ne_nil hd
    exact ⟨⟨shortcut, _⟩, (mem_conflicts distinct).mpr ⟨first, others, hd, rfl⟩, rfl⟩

/-- The first in a dispute overlaps another one in it. -/
theorem exists_overlap_first {first : Command κ} {others : List (Command κ)}
    (h : registry.disputed table shortcut = first :: others) :
    ∃ other ∈ others, table.overlap other.scope first.scope = true := by
  have hf : first ∈ registry.disputed table shortcut := by simp [h]
  obtain ⟨hm, hs, other, ho⟩ := mem_disputed.mp hf
  have hd := mem_disputed_of_mem_conflictsFor hm hs ho
  obtain ⟨-, -, apart, -, overlap⟩ := mem_conflictsFor.mp ho
  rw [h, List.mem_cons] at hd
  obtain rfl | hd := hd
  · exact absurd rfl apart
  · exact ⟨other, hd, overlap⟩

theorem tells_of_mem (distinct : registry.Distinct) {conflict : Conflict}
    (h : conflict ∈ registry.conflicts table) : registry.Tells table conflict := by
  obtain ⟨first, others, hd, hi⟩ := (mem_conflicts distinct).mp h
  let reached := others.filter fun other => table.overlap other.scope first.scope
  have listed : (first :: reached).Sublist (registry.disputed table conflict.shortcut) := by
    rw [hd]
    exact List.Sublist.cons_cons _ List.filter_sublist
  have registered : (first :: reached).Sublist registry.commands :=
    listed.trans List.filter_sublist
  have ids : conflict.commandIds = (first :: reached).map (·.id) := hi
  refine ⟨first, reached, ids, ?_, ?_, registered, ?_, ?_⟩
  · obtain ⟨other, ho, overlap⟩ := exists_overlap_first hd
    have hr : other ∈ reached := List.mem_filter.mpr ⟨ho, overlap⟩
    have := List.length_pos_of_mem hr
    rw [ids, List.length_map, List.length_cons]
    omega
  · rw [ids]
    exact distinct.sublist (registered.map _)
  · intro command hm
    exact (mem_disputed.mp (listed.subset hm)).2.1
  · intro other hm
    exact (List.mem_filter.mp hm).2

/-- The report is empty exactly when no command is in anybody's way. -/
theorem conflicts_eq_nil_iff (distinct : registry.Distinct) :
    registry.conflicts table = [] ↔
      ∀ command ∈ registry.commands, registry.hasConflicts table command.id = false := by
  constructor
  · intro empty command hm
    by_contra hc
    rw [Bool.not_eq_false, hasConflicts_iff distinct] at hc
    obtain ⟨shortcut, other, hd, -⟩ := hc
    have contested := (contested_iff_disputed distinct).mpr (List.ne_nil_of_mem hd)
    obtain ⟨conflict, entry, -⟩ := (exists_conflict_iff distinct).mpr contested
    simp [empty] at entry
  · intro free
    by_contra some
    obtain ⟨conflict, entry⟩ := List.exists_mem_of_ne_nil _ some
    obtain ⟨first, others, hd, -⟩ := (mem_conflicts distinct).mp entry
    have hf : first ∈ registry.disputed table conflict.shortcut := by simp [hd]
    have conflicts : registry.hasConflicts table first.id = true :=
      (hasConflicts_iff distinct).mpr ⟨conflict.shortcut, first, hf, rfl⟩
    have none := free first (mem_disputed.mp hf).1
    rw [conflicts] at none
    cases none

/-- The report names exactly the contested shortcuts, each in one entry, and an entry lists commands
that contest it. It is empty exactly when no command has conflicts. -/
theorem report_exact (reachable : registry.Reachable) (table : ScopeTable) :
    (∀ shortcut, (∃ conflict ∈ registry.conflicts table, conflict.shortcut = shortcut) ↔
      registry.Contested table shortcut) ∧
    ((registry.conflicts table).map (·.shortcut)).Nodup ∧
    (∀ conflict ∈ registry.conflicts table, registry.Tells table conflict) ∧
    (registry.conflicts table = [] ↔
      ∀ command ∈ registry.commands, registry.hasConflicts table command.id = false) := by
  have distinct := reachable.distinct
  have once := (registry.survey_covers table).once
  exact ⟨fun _ => exists_conflict_iff distinct, once, fun _ => tells_of_mem distinct,
    conflicts_eq_nil_iff distinct⟩

/-- Two windows contest F5 with the application, and not with each other: the report has an
entry. -/
theorem report_exact_windows : (reloading ["Left", "Right", "App"]).Reachable ∧
    ∃ conflict ∈ (reloading ["Left", "Right", "App"]).conflicts windows,
      conflict.shortcut = "F5" := by
  have reachable : (reloading ["Left", "Right", "App"]).Reachable :=
    reachable_reloading _ (by decide)
  obtain ⟨named, -⟩ := report_exact reachable windows
  refine ⟨reachable, (named "F5").mpr ⟨by decide, ?_⟩⟩
  refine ⟨(reload "Left").command, .head _, (reload "App").command, .tail _ (.tail _ (.head _)), ?_⟩
  decide

end Registry
end KeyPrecedence
