import KeyPrecedence.Command.Conflict
import KeyPrecedence.Proofs.Command.Registry

/-!
# Disputes about a shortcut

* `Registry.disputed`: the commands that have a shortcut and get in each other's way, each with
  another one;
* `Registry.contestants_eq`: what one of them sees of a dispute is itself and those it overlaps;
* `Registry.conflictsFor_first`: for the first of them, that is in the order of the dispute.
-/

namespace KeyPrecedence

theorem ScopeTable.overlap_comm (table : ScopeTable) (a b : String) :
    table.overlap a b = table.overlap b a := by
  unfold overlap
  dsimp only
  rw [Bool.and_comm (!(table.active a).isEmpty), Bool.or_comm]

namespace Registry

variable {κ : Type} {registry : Registry κ} {table : ScopeTable} {shortcut : String}

/-- Whether a command has a shortcut and another one gets in its way. -/
def contested (registry : Registry κ) (table : ScopeTable) (shortcut : String)
    (command : Command κ) : Bool :=
  (registry.effective command.id).contains shortcut &&
    !(registry.conflictsFor table shortcut command.scope (some command.id)).isEmpty

/-- The commands that have a shortcut while another one of an overlapping scope has it as well, in
the order of registration. -/
def disputed (registry : Registry κ) (table : ScopeTable) (shortcut : String) : List (Command κ) :=
  registry.commands.filter (registry.contested table shortcut)

theorem mem_conflictsFor {scope id : String} {other : Command κ} :
    other ∈ registry.conflictsFor table shortcut scope (some id) ↔
      shortcut ≠ "" ∧ other ∈ registry.commands ∧ other.id ≠ id ∧
        shortcut ∈ registry.effective other.id ∧ table.overlap other.scope scope = true := by
  unfold conflictsFor
  by_cases hs : shortcut = ""
  · simp [hs]
  · simp [hs, List.mem_filter, and_assoc]

/-- Whether two commands get in each other's way is the same from either side. -/
theorem mem_conflictsFor_comm {a b : Command κ} (ha : a ∈ registry.commands)
    (hs : shortcut ∈ registry.effective a.id)
    (h : b ∈ registry.conflictsFor table shortcut a.scope (some a.id)) :
    a ∈ registry.conflictsFor table shortcut b.scope (some b.id) := by
  obtain ⟨hn, -, hi, -, ho⟩ := mem_conflictsFor.mp h
  refine mem_conflictsFor.mpr ⟨hn, ha, hi.symm, hs, ?_⟩
  rw [table.overlap_comm]
  exact ho

theorem contested_iff {command : Command κ} :
    registry.contested table shortcut command = true ↔
      shortcut ∈ registry.effective command.id ∧
        ∃ other, other ∈ registry.conflictsFor table shortcut command.scope (some command.id) := by
  unfold contested
  rw [Bool.and_eq_true, List.contains_iff_mem, Bool.not_eq_true',
    List.isEmpty_eq_false_iff_exists_mem]

theorem mem_disputed {command : Command κ} :
    command ∈ registry.disputed table shortcut ↔
      command ∈ registry.commands ∧ shortcut ∈ registry.effective command.id ∧
        ∃ other, other ∈ registry.conflictsFor table shortcut command.scope (some command.id) := by
  unfold disputed
  rw [List.mem_filter, contested_iff]

theorem mem_disputed_of_mem_conflictsFor {a b : Command κ} (ha : a ∈ registry.commands)
    (hs : shortcut ∈ registry.effective a.id)
    (h : b ∈ registry.conflictsFor table shortcut a.scope (some a.id)) :
    b ∈ registry.disputed table shortcut := by
  obtain ⟨-, hb, -, he, -⟩ := mem_conflictsFor.mp h
  exact mem_disputed.mpr ⟨hb, he, a, mem_conflictsFor_comm ha hs h⟩

/-- The contestants a command sees are itself and all it conflicts with: they overlap it, and it
overlaps them. -/
theorem contestants_eq {command : Command κ} :
    registry.contestants table command shortcut =
      match registry.conflictsFor table shortcut command.scope (some command.id) with
      | [] => []
      | others => command :: others := by
  unfold contestants
  have sees {other : Command κ}
      (hm : other ∈ registry.conflictsFor table shortcut command.scope (some command.id)) :=
    mem_conflictsFor.mp hm
  cases hc : registry.conflictsFor table shortcut command.scope (some command.id) with
  | nil => rfl
  | cons first others =>
    rw [hc] at sees
    refine List.filter_eq_self.mpr ?_
    intro c hm
    refine List.any_eq_true.mpr ?_
    obtain rfl | hm := List.mem_cons.mp hm
    · obtain ⟨-, -, hi, -, ho⟩ := sees (.head _)
      refine ⟨first, .tail _ (.head _), ?_⟩
      rw [table.overlap_comm, ho]
      simpa using hi
    · obtain ⟨-, -, hi, -, ho⟩ := sees hm
      refine ⟨command, .head _, ?_⟩
      rw [ho]
      simpa using hi.symm

/-- The first in a dispute conflicts with those of the others that it overlaps. -/
theorem conflictsFor_first (distinct : registry.Distinct) {first : Command κ}
    {others : List (Command κ)} (h : registry.disputed table shortcut = first :: others) :
    registry.conflictsFor table shortcut first.scope (some first.id) =
      others.filter fun other => table.overlap other.scope first.scope := by
  have hf : first ∈ registry.disputed table shortcut := by
    rw [h]
    exact .head _
  obtain ⟨hm, hs, other, ho⟩ := mem_disputed.mp hf
  have hn := (mem_conflictsFor.mp ho).1
  obtain ⟨before, after, hl, free, -, rfl⟩ := List.filter_eq_cons_iff.mp h
  let rivals (command : Command κ) : Bool :=
    some command.id ≠ some first.id && (registry.effective command.id).contains shortcut &&
      table.overlap command.scope first.scope
  have all : registry.conflictsFor table shortcut first.scope (some first.id) =
      registry.commands.filter rivals := if_neg hn
  have contested {other : Command κ} (hc : other ∈ registry.commands) (hq : rivals other = true) :
      registry.contested table shortcut other = true := by
    have hd : other ∈ registry.disputed table shortcut := by
      apply mem_disputed_of_mem_conflictsFor hm hs
      rw [all]
      exact List.mem_filter.mpr ⟨hc, hq⟩
    exact (List.mem_filter.mp hd).2
  -- A rival before the first would have been the first itself.
  have unrivalled : before.filter rivals = [] := by
    refine List.filter_eq_nil_iff.mpr fun other ho hq => free other ho (contested ?_ hq)
    rw [hl]
    exact List.mem_append_left _ ho
  have apart : ∀ other ∈ after, other.id ≠ first.id := by
    intro other ho he
    unfold Distinct at distinct
    rw [hl, List.map_append, List.map_cons] at distinct
    have hd := (List.nodup_cons.mp (List.nodup_append.mp distinct).2.1).1
    exact hd (List.mem_map.mpr ⟨other, ho, he⟩)
  rw [List.filter_filter, all, hl, List.filter_append, unrivalled, List.nil_append,
    List.filter_cons_of_neg (by simp [rivals])]
  refine List.filter_congr fun other ho => ?_
  have hc : other ∈ registry.commands := by
    rw [hl]
    exact List.mem_append_right _ (.tail _ ho)
  rw [Bool.eq_iff_iff]
  constructor
  · intro hq
    rw [Bool.and_eq_true]
    exact ⟨(Bool.and_eq_true_iff.mp hq).2, contested hc hq⟩
  · intro hq
    obtain ⟨hv, hd⟩ := Bool.and_eq_true_iff.mp hq
    simpa [rivals, hv, apart other ho] using (contested_iff.mp hd).1

end Registry
end KeyPrecedence
