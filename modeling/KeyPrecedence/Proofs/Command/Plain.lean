import Mathlib.Data.List.Nodup
import KeyPrecedence.Proofs.Command.Edit
import KeyPrecedence.Proofs.Number.Order

/-!
# A registry without overrides

* `PlainRegistry`: the commands in the order of registration, each with its shortcuts as they are
  now;
* `PlainRegistry.step`: what an operation answers, and what it leaves;
* `Registry.Represents`: a registry stands for a plain one when its overrides are the lists that
  differ from the defaults;
* `Represents.register`, `Represents.unregister`, `Represents.amend`: it does so after every
  operation, and is refused what the plain one is refused.
-/

namespace KeyPrecedence

/-- What may be done with a registry and with its subscribers `ν`, at whole positions. -/
inductive RegistryOp (κ ν : Type)
  | register (definition : Definition κ)
  | unregister (id : String)
  | edit (edit : ShortcutEdit Int)
  | ask (query : RegistryQuery)
  | subscribe (member : ν)
  | unsubscribe (member : ν)
  deriving DecidableEq

variable {κ ν : Type}

/-- Whole positions are numbers. -/
def ShortcutEdit.numbered : ShortcutEdit Int → ShortcutEdit Number
  | .set id index shortcut => .set id (.finite index) shortcut
  | .add id shortcut => .add id shortcut
  | .remove id index => .remove id (.finite index)
  | .reset id => .reset id
  | .resetAll => .resetAll

/-! ## The plain registry -/

/-- A registered command, which has its default shortcuts, and the shortcuts it has now. -/
structure PlainEntry (κ : Type) where
  command : Command κ
  current : List String

namespace PlainEntry

def isModified (entry : PlainEntry κ) : Bool := entry.current ≠ entry.command.shortcuts

/-- What has to be kept besides the defaults. -/
def override (entry : PlainEntry κ) : Option (List String) :=
  if entry.current = entry.command.shortcuts then none else some entry.current

theorem isSome_override (entry : PlainEntry κ) : entry.override.isSome = entry.isModified := by
  by_cases h : entry.current = entry.command.shortcuts <;> simp [override, isModified, h]

end PlainEntry

/-- No two entries have the same id. -/
structure PlainRegistry (κ : Type) where
  entries : List (PlainEntry κ) := []
  distinct : (entries.map (·.command.id)).Nodup := by simp

namespace PlainRegistry

variable (plain : PlainRegistry κ)

def find? (id : String) : Option (PlainEntry κ) := plain.entries.find? (·.command.id = id)

def answer : RegistryQuery → RegistryAnswer κ
  | .list => .commands (plain.entries.map (·.command))
  | .get id => .found ((plain.find? id).map (·.command))
  | .effective id => .shortcuts (((plain.find? id).map (·.current)).getD [])
  | .defaults id => .shortcuts (((plain.find? id).map (·.command.shortcuts)).getD [])
  | .isModified id => .truth ((plain.find? id).any (·.isModified))

/-- Gives every command the shortcuts it is to have now. -/
def update (current : PlainEntry κ → List String) : PlainRegistry κ where
  entries := plain.entries.map fun entry => { entry with current := current entry }
  distinct := by simpa [Function.comp_def] using plain.distinct

/-- Gives one command its shortcuts. -/
def give (id : String) (shortcuts : List String) : PlainRegistry κ :=
  plain.update fun entry => if entry.command.id = id then shortcuts else entry.current

/-- Changes the shortcuts of a registered command. -/
def change (id : String) (shortcuts : PlainEntry κ → Except RegistryRefusal (List String)) :
    Except Fault (PlainRegistry κ) :=
  match plain.find? id with
  | none => .error (.registry id .notRegistered)
  | some entry =>
    match shortcuts entry with
    | .ok current => .ok (plain.give id current)
    | .error refusal => .error (.registry id refusal)

def edit : ShortcutEdit Int → Except Fault (PlainRegistry κ)
  | .set id index shortcut => plain.change id fun entry =>
    if 0 ≤ index ∧ index < entry.current.length then
      .ok (entry.current.set index.toNat shortcut)
    else if index = entry.current.length then .ok (entry.current ++ [shortcut])
    else .error (.indexOutOfRange (.finite index))
  | .add id shortcut => plain.change id fun entry => .ok (entry.current ++ [shortcut])
  | .remove id index => plain.change id fun entry =>
    if 0 ≤ index ∧ index < entry.current.length then .ok (entry.current.eraseIdx index.toNat)
    else .error (.indexOutOfRange (.finite index))
  | .reset id => plain.change id fun entry => .ok entry.command.shortcuts
  | .resetAll => .ok (plain.update (·.command.shortcuts))

/-- A command comes last, with its defaults. -/
def register (definition : Definition κ) : Except Fault (PlainRegistry κ) :=
  if taken : (plain.find? definition.id).isSome then
    .error (.registry definition.id .alreadyRegistered)
  else .ok {
    entries := plain.entries ++ [⟨definition.command, definition.command.shortcuts⟩]
    distinct := by
      have fresh : ∀ entry ∈ plain.entries, entry.command.id ≠ definition.id := by
        simpa [find?] using taken
      rw [List.map_append, List.nodup_append]
      refine ⟨plain.distinct, List.nodup_singleton _, ?_⟩
      rintro _ hm _ hs rfl
      obtain ⟨entry, he, hi⟩ := List.mem_map.mp hm
      exact fresh entry he (hi.trans (List.mem_singleton.mp hs)) }

/-- Forgets a command and its shortcuts. -/
def unregister (id : String) : PlainRegistry κ where
  entries := plain.entries.filter (·.command.id ≠ id)
  distinct := plain.distinct.sublist (List.filter_sublist.map _)

/-- A refused operation leaves all as it is. -/
def conclude (answer : RegistryAnswer κ) :
    Except Fault (PlainRegistry κ) → Except Fault (RegistryAnswer κ) × PlainRegistry κ
  | .ok after => (.ok answer, after)
  | .error fault => (.error fault, plain)

/-- What an operation answers, and what it leaves. -/
def step : RegistryOp κ ν → Except Fault (RegistryAnswer κ) × PlainRegistry κ
  | .register definition =>
    plain.conclude (.command definition.command) (plain.register definition)
  | .unregister id => (.ok (.truth (plain.find? id).isSome), plain.unregister id)
  | .edit edit => plain.conclude .nothing (plain.edit edit)
  | .ask query => (.ok (plain.answer query), plain)
  | .subscribe _ | .unsubscribe _ => (.ok .nothing, plain)

/-- What is left of no commands at all after some operations. -/
def after (operations : List (RegistryOp κ ν)) : PlainRegistry κ :=
  operations.foldl (fun plain operation => (plain.step operation).2) {}

theorem after_snoc (operations : List (RegistryOp κ ν)) (operation : RegistryOp κ ν) :
    after (operations ++ [operation]) = ((after operations).step operation).2 := by
  simp [after]

variable {plain}

@[ext]
theorem ext {a b : PlainRegistry κ} (h : a.entries = b.entries) : a = b := by
  cases a
  cases b
  simpa using h

theorem id_of_find? {id : String} {entry : PlainEntry κ} (h : plain.find? id = some entry) :
    entry.command.id = id := by
  simpa using List.find?_some h

theorem mem_of_find? {id : String} {entry : PlainEntry κ} (h : plain.find? id = some entry) :
    entry ∈ plain.entries :=
  List.mem_of_find?_eq_some h

theorem find?_update (current : PlainEntry κ → List String) (id : String) :
    (plain.update current).find? id =
      (plain.find? id).map fun entry => { entry with current := current entry } :=
  List.find?_map

theorem find?_give (id other : String) (shortcuts : List String) :
    (plain.give id shortcuts).find? other = (plain.find? other).map fun entry =>
      if id = other then { entry with current := shortcuts } else entry := by
  rw [give, find?_update]
  refine Option.map_congr fun entry hm => ?_
  have hi : entry.command.id = other := id_of_find? hm
  by_cases h : id = other
  · simp [hi, h]
  · simp [hi, h, Ne.symm h]

theorem commands_update (current : PlainEntry κ → List String) :
    (plain.update current).entries.map (·.command) = plain.entries.map (·.command) := by
  simp [update, Function.comp_def]

/-- Giving a command what it has changes nothing. -/
theorem give_current {id : String} {entry : PlainEntry κ} (h : plain.find? id = some entry) :
    plain.give id entry.current = plain := by
  ext1
  conv_rhs => rw [← List.map_id plain.entries]
  refine List.map_congr_left fun other hm => ?_
  by_cases hi : other.command.id = id
  · have same : other = entry :=
      List.inj_on_of_nodup_map plain.distinct hm (mem_of_find? h) (hi.trans (id_of_find? h).symm)
    simp [same, id_of_find? h]
  · simp [hi]

end PlainRegistry

/-! ## Standing for a plain registry -/

namespace Registry

/-- The commands are the same, and what is overridden is what differs from the defaults. -/
structure Represents (registry : Registry κ) (plain : PlainRegistry κ) : Prop where
  commands : registry.commands = plain.entries.map (·.command)
  overrides : ∀ id, registry.overrides.find? id = (plain.find? id).bind PlainEntry.override

theorem represents_empty : ({} : Registry κ).Represents {} := ⟨rfl, fun _ => rfl⟩

/-- Of two changes, one of a registry and one of the plain one it stands for: they are refused for
the same reason, or one result stands for the other. -/
inductive Agree : Except Fault (Registry κ) → Except Fault (PlainRegistry κ) → Prop
  | ok {registry : Registry κ} {plain : PlainRegistry κ} (h : registry.Represents plain) :
    Agree (.ok registry) (.ok plain)
  | error (fault : Fault) : Agree (.error fault) (.error fault)

namespace Represents

variable {registry : Registry κ} {plain : PlainRegistry κ}

theorem get? (h : registry.Represents plain) (id : String) :
    registry.get? id = (plain.find? id).map (·.command) := by
  rw [Registry.get?, h.commands]
  exact List.find?_map

theorem contains (h : registry.Represents plain) (id : String) :
    registry.contains id = (plain.find? id).isSome := by
  simp [Registry.contains, h.get?]

theorem defaults (h : registry.Represents plain) (id : String) :
    registry.defaults id = ((plain.find? id).map (·.command.shortcuts)).getD [] := by
  rw [Registry.defaults, h.get?]
  cases plain.find? id <;> rfl

theorem effective (h : registry.Represents plain) (id : String) :
    registry.effective id = ((plain.find? id).map (·.current)).getD [] := by
  rw [Registry.effective, h.overrides, h.defaults]
  cases plain.find? id with
  | none => rfl
  | some entry =>
    by_cases he : entry.current = entry.command.shortcuts <;> simp [PlainEntry.override, he]

theorem isModified (h : registry.Represents plain) (id : String) :
    registry.isModified id = (plain.find? id).any (·.isModified) := by
  rw [Registry.isModified, Table.contains, h.overrides]
  cases plain.find? id with
  | none => rfl
  | some entry => exact entry.isSome_override

/-- Every question has the same answer. -/
theorem answer (h : registry.Represents plain) (query : RegistryQuery) :
    registry.answer query = plain.answer query := by
  cases query with
  | list => rw [Registry.answer, h.commands, PlainRegistry.answer]
  | get id => rw [Registry.answer, h.get?, PlainRegistry.answer]
  | effective id => rw [Registry.answer, h.effective, PlainRegistry.answer]
  | defaults id => rw [Registry.answer, h.defaults, PlainRegistry.answer]
  | isModified id => rw [Registry.answer, h.isModified, PlainRegistry.answer]

/-- A command is given a list of shortcuts. That the list is kept only where it differs from the
defaults cannot be seen. -/
theorem rebind (h : registry.Represents plain) {id : String} {entry : PlainEntry κ}
    (found : plain.find? id = some entry) (shortcuts : List String) :
    (registry.rebind id shortcuts).Represents (plain.give id shortcuts) := by
  have known : registry.defaults id = entry.command.shortcuts := by rw [h.defaults, found]; rfl
  have commands : registry.commands = (plain.give id shortcuts).entries.map (·.command) :=
    h.commands.trans (PlainRegistry.commands_update _).symm
  unfold Registry.rebind
  split
  · rename_i default
    refine ⟨commands, fun other => ?_⟩
    rw [Table.find?_erase, h.overrides, PlainRegistry.find?_give]
    by_cases hi : id = other
    · subst hi
      simp [found, PlainEntry.override, default, known]
    · simp [hi]
  · rename_i changed
    refine ⟨commands, fun other => ?_⟩
    rw [Table.find?_insert, h.overrides, PlainRegistry.find?_give]
    by_cases hi : id = other
    · subst hi
      rw [known] at changed
      simp [found, PlainEntry.override, changed]
    · simp [hi]

theorem revise (h : registry.Represents plain) (id : String)
    {change : List String → Except RegistryRefusal (List String)}
    {shortcuts : PlainEntry κ → Except RegistryRefusal (List String)}
    (same : ∀ entry, shortcuts entry = change entry.current) :
    Agree (registry.revise id change) (plain.change id shortcuts) := by
  unfold Registry.revise PlainRegistry.change
  rw [h.contains, h.effective]
  cases found : plain.find? id with
  | none => exact .error _
  | some entry =>
    simp only [Option.isSome_some, if_true, Option.map_some, Option.getD_some, same]
    cases change entry.current with
    | ok current => exact .ok (h.rebind found current)
    | error refusal => exact .error _

/-- Back to the defaults. Where there is no override there is nothing to do. -/
theorem reset (h : registry.Represents plain) (id : String) :
    Agree ((registry.resetShortcut id).map fun next => next.getD registry)
      (plain.change id fun entry => .ok entry.command.shortcuts) := by
  unfold Registry.resetShortcut PlainRegistry.change
  rw [h.contains, h.isModified]
  cases found : plain.find? id with
  | none => exact .error _
  | some entry =>
    by_cases default : entry.current = entry.command.shortcuts
    · have unmodified : entry.isModified = false := by simp [PlainEntry.isModified, default]
      have given := PlainRegistry.give_current found
      rw [default] at given
      simp only [Option.isSome_some, if_true, Option.any_some, unmodified, given]
      exact .ok h
    · have modified : entry.isModified = true := by simp [PlainEntry.isModified, default]
      simp only [Option.isSome_some, if_true, Option.any_some, modified]
      have rebound := h.rebind found entry.command.shortcuts
      have known : registry.defaults id = entry.command.shortcuts := by rw [h.defaults, found]; rfl
      rw [Registry.rebind, if_pos known.symm] at rebound
      exact .ok rebound

theorem resetAll (h : registry.Represents plain) :
    registry.resetAll.2.Represents (plain.update (·.command.shortcuts)) where
  commands := h.commands.trans (PlainRegistry.commands_update _).symm
  overrides id := by
    rw [PlainRegistry.find?_update]
    cases plain.find? id with
    | none => rfl
    | some entry => simp [PlainEntry.override]; rfl

theorem register (h : registry.Represents plain) (definition : Definition κ) :
    Agree ((registry.register definition).map (·.2)) (plain.register definition) ∧
      ∀ added, registry.register definition = .ok added → added.1 = definition.command := by
  have last : (⟨definition.command, definition.command.shortcuts⟩ : PlainEntry κ).override = none :=
    if_pos rfl
  unfold Registry.register PlainRegistry.register
  rw [h.contains]
  by_cases taken : (plain.find? definition.id).isSome
  · simp only [taken, if_true, dite_true]
    exact ⟨.error _, nofun⟩
  · simp only [taken, if_false, dite_false, Bool.false_eq_true]
    refine ⟨.ok ⟨?_, fun id => ?_⟩, ?_⟩
    · rw [h.commands, List.map_append, List.map_singleton]
    · show registry.overrides.find? id = (List.find? _ (plain.entries ++ _)).bind _
      have before := h.overrides id
      unfold PlainRegistry.find? at before
      rw [before, List.find?_append]
      cases plain.entries.find? (·.command.id = id) with
      | some entry => rfl
      | none => by_cases hi : definition.command.id = id <;> simp [hi, last]
    · rintro _ ⟨⟩
      rfl

theorem unregister (h : registry.Represents plain) (id : String) :
    (registry.unregister id).2.Represents (plain.unregister id) where
  commands := by
    show registry.commands.filter _ = (plain.entries.filter _).map _
    rw [h.commands, List.filter_map]
    rfl
  overrides other := by
    show (registry.overrides.erase id).find? other =
      ((plain.entries.filter _).find? (·.command.id = other)).bind _
    rw [Table.find?_erase, h.overrides, List.find?_filter]
    unfold PlainRegistry.find?
    split
    · rename_i same
      rw [List.find?_eq_none.mpr]
      · rfl
      · simp [same]
    · rename_i apart
      congr 2
      funext entry
      by_cases hi : entry.command.id = other <;> simp [hi, Ne.symm apart]

end Represents

/-! ## Whole positions -/

section

variable (current : List String) (index : Int)

theorem setAt_whole (shortcut : String) : setAt current (.finite index) shortcut =
    if 0 ≤ index ∧ index < current.length then some (current.set index.toNat shortcut)
    else if index = current.length then some (current ++ [shortcut]) else none := by
  have least : ((0 : Nat) : Rat) ≤ index ↔ 0 ≤ index := by norm_cast
  have most : (index : Rat) < (current.length : Rat) ↔ index < current.length := by norm_cast
  have last : (index : Rat) = (current.length : Rat) ↔ index = current.length := by norm_cast
  unfold setAt
  simp only [Number.ofNat, Number.finite_le_finite, Number.finite_lt_finite, Number.finite.injEq,
    Bool.and_eq_true, decide_eq_true_eq, least, most, last]
  split
  · rename_i within
    simp [Number.toNat?, within.1]
  · rfl

theorem removeAt_whole : removeAt current (.finite index) =
    if 0 ≤ index ∧ index < current.length then some (current.eraseIdx index.toNat) else none := by
  have least : (index : Rat) < ((0 : Nat) : Rat) ↔ index < 0 := by norm_cast
  have most : (current.length : Rat) ≤ index ↔ (current.length : Int) ≤ index := by norm_cast
  unfold removeAt
  simp only [Number.ofNat, Number.finite_le_finite, Number.finite_lt_finite, Bool.or_eq_true,
    decide_eq_true_eq, least, most]
  by_cases within : 0 ≤ index ∧ index < current.length
  · have whole : (Number.finite index).truncate = index := by simp [Number.truncate]
    rw [if_neg (by omega), if_pos within, whole]
  · rw [if_pos (by omega), if_neg within]

end

/-- A change at a whole position is refused by both, or made in both. -/
theorem Represents.amend {registry : Registry κ} {plain : PlainRegistry κ}
    (h : registry.Represents plain) (edit : ShortcutEdit Int) :
    Agree ((registry.amend edit.numbered).map fun amended => (amended.map (·.1)).getD registry)
      (plain.edit edit) := by
  have revised {id : String} {change : List String → Except RegistryRefusal (List String)}
      {changed : Except Fault (PlainRegistry κ)} (agree : Agree (registry.revise id change) changed) :
      Agree (((registry.revise id change).map fun next => some (next, [id])).map fun amended =>
        (amended.map (·.1)).getD registry) changed := by
    cases hr : registry.revise id change <;> rw [hr] at agree <;> exact agree
  cases edit with
  | set id index shortcut =>
    refine revised (h.revise id fun entry => ?_)
    rw [setAt_whole]
    split
    · rfl
    · split <;> rfl
  | add id shortcut => exact revised (h.revise id fun _ => rfl)
  | remove id index =>
    refine revised (h.revise id fun entry => ?_)
    rw [removeAt_whole]
    split <;> rfl
  | reset id =>
    have agree := h.reset id
    show Agree (((registry.resetShortcut id).map _).map _) _
    rcases hr : registry.resetShortcut id with fault | _ | next <;> rw [hr] at agree <;> exact agree
  | resetAll => exact .ok h.resetAll

end Registry
end KeyPrecedence
