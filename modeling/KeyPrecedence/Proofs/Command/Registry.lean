import Mathlib.Data.List.Induction
import Mathlib.Data.List.Nodup
import KeyPrecedence.Command.Registry

/-!
# States of a registry

* `Registry.Reachable`: the registries a host can come to have;
* `Registry.Reachable.distinct`: no two commands of one have the same id;
* `Registry.get?_of_mem`: so a command is found by its id;
* `Registry.reachable_of_definitions`: any commands with ids of their own make up such a registry.
-/

namespace KeyPrecedence

namespace Registry

variable {κ : Type}

inductive Reachable : Registry κ → Prop
  | empty : Reachable {}
  | register {registry next : Registry κ} {definition : Definition κ} {command : Command κ}
      (before : Reachable registry) (h : registry.register definition = .ok (command, next)) :
      Reachable next
  | unregister {registry : Registry κ} (before : Reachable registry) (id : String) :
      Reachable (registry.unregister id).2
  | setShortcut {registry next : Registry κ} {id shortcut : String} {index : Number}
      (before : Reachable registry) (h : registry.setShortcut id index shortcut = .ok next) :
      Reachable next
  | addShortcut {registry next : Registry κ} {id shortcut : String}
      (before : Reachable registry) (h : registry.addShortcut id shortcut = .ok next) :
      Reachable next
  | removeShortcut {registry next : Registry κ} {id : String} {index : Number}
      (before : Reachable registry) (h : registry.removeShortcut id index = .ok next) :
      Reachable next
  | resetShortcut {registry next : Registry κ} {id : String}
      (before : Reachable registry) (h : registry.resetShortcut id = .ok (some next)) :
      Reachable next
  | resetAll {registry : Registry κ} (before : Reachable registry) : Reachable registry.resetAll.2

/-- No two commands have the same id. -/
def Distinct (registry : Registry κ) : Prop := (registry.commands.map (·.id)).Nodup

theorem commands_rebind (registry : Registry κ) (id : String) (shortcuts : List String) :
    (registry.rebind id shortcuts).commands = registry.commands := by
  unfold rebind
  split <;> rfl

/-- Changing shortcuts changes no command. -/
theorem commands_revise {registry next : Registry κ} {id : String}
    {change : List String → Except RegistryRefusal (List String)}
    (h : registry.revise id change = .ok next) : next.commands = registry.commands := by
  unfold revise at h
  split at h
  · split at h
    · cases h
      exact registry.commands_rebind id _
    · cases h
  · cases h

theorem commands_resetShortcut {registry next : Registry κ} {id : String}
    (h : registry.resetShortcut id = .ok (some next)) : next.commands = registry.commands := by
  unfold resetShortcut at h
  split at h
  · split at h
    · cases h
      rfl
    · cases h
  · cases h

theorem distinct_register {registry next : Registry κ} {definition : Definition κ}
    {command : Command κ} (h : registry.register definition = .ok (command, next))
    (distinct : registry.Distinct) : next.Distinct := by
  unfold register at h
  split at h
  · cases h
  · rename_i fresh
    cases h
    unfold Distinct
    rw [List.map_append, List.map_singleton]
    refine List.nodup_append.mpr ⟨distinct, List.nodup_singleton _, ?_⟩
    rintro _ hm _ hs rfl
    obtain ⟨other, ho, he⟩ := List.mem_map.mp hm
    apply fresh
    unfold contains get?
    rw [List.find?_isSome]
    exact ⟨other, ho, decide_eq_true (he.trans (List.mem_singleton.mp hs))⟩

theorem Distinct.unregister {registry : Registry κ} (distinct : registry.Distinct) (id : String) :
    (registry.unregister id).2.Distinct :=
  distinct.sublist (List.Sublist.map _ List.filter_sublist)

theorem Reachable.distinct {registry : Registry κ} (h : registry.Reachable) :
    registry.Distinct := by
  have same {registry next : Registry κ} (hd : registry.Distinct)
      (hc : next.commands = registry.commands) : next.Distinct := by
    unfold Distinct
    rw [hc]
    exact hd
  induction h with
  | empty => exact List.nodup_nil
  | register _ h ih => exact distinct_register h ih
  | unregister _ id ih => exact ih.unregister id
  | setShortcut _ h ih => exact same ih (commands_revise h)
  | addShortcut _ h ih => exact same ih (commands_revise h)
  | removeShortcut _ h ih => exact same ih (commands_revise h)
  | resetShortcut _ h ih => exact same ih (commands_resetShortcut h)
  | resetAll _ ih => exact ih

theorem eq_of_id_eq {registry : Registry κ} (distinct : registry.Distinct) {a b : Command κ}
    (ha : a ∈ registry.commands) (hb : b ∈ registry.commands) (h : a.id = b.id) : a = b :=
  List.inj_on_of_nodup_map distinct ha hb h

theorem get?_of_mem {registry : Registry κ} (distinct : registry.Distinct) {command : Command κ}
    (h : command ∈ registry.commands) : registry.get? command.id = some command := by
  cases hg : registry.get? command.id with
  | none => simpa using List.find?_eq_none.mp hg command h
  | some other =>
    have hi : other.id = command.id := by simpa using List.find?_some hg
    rw [eq_of_id_eq distinct (List.mem_of_find?_eq_some hg) h hi]

/-- Commands whose ids differ can be registered one after another. -/
theorem reachable_of_definitions (definitions : List (Definition κ))
    (distinct : (definitions.map (·.id)).Nodup) :
    Reachable ({ commands := definitions.map (·.command) } : Registry κ) := by
  induction definitions using List.reverseRecOn with
  | nil => exact .empty
  | append_singleton definitions definition ih =>
    rw [List.map_append, List.map_singleton] at distinct
    obtain ⟨before, -, apart⟩ := List.nodup_append.mp distinct
    let registered : Registry κ := { commands := definitions.map (·.command) }
    have fresh : registered.contains definition.id = false := by
      unfold contains get?
      rw [Option.isSome_eq_false_iff, Option.isNone_iff_eq_none, List.find?_eq_none]
      intro command hm hi
      obtain ⟨other, ho, rfl⟩ := List.mem_map.mp hm
      exact apart _ (List.mem_map_of_mem ho) _ (.head _) (of_decide_eq_true hi)
    have added : registered.register definition =
        .ok (definition.command, { commands := (definitions ++ [definition]).map (·.command) }) := by
      unfold register
      rw [fresh]
      simp [registered]
    exact .register (ih before) added

end Registry
end KeyPrecedence
