import KeyPrecedence.Command.Conflict
import KeyPrecedence.Proofs.Alike
import KeyPrecedence.Proofs.Command.Edit

/-!
# Commands on a level

* `Tier.levelled`, `Precedence.levelled`: the tiers below the system's made one, and a precedence
  that no tier goes by left as it is;
* `Precedence.levelled_eq_iff`: two precedences come to the same when they are the same or of tiers
  below the system's;
* `Registry.amend_levelled`, `Registry.answer_levelled`, `Registry.resolve_levelled`,
  `Registry.conflicts_levelled`: all that is done with a registry, and every answer it gives, is the
  same on the registry made level;
* `RegistryHost.Level`: two registries on two hosts, level with each other and asked alike.
-/

namespace KeyPrecedence

variable {κ : Type}

def Tier.levelled : Tier → Tier
  | system => system
  | _ => toolDefault

def Precedence.levelled : Precedence → Precedence
  | tier t => tier t.levelled
  | unknown name => unknown name

theorem Tier.levelled_eq_iff {one two : Tier} :
    one.levelled = two.levelled ↔ one = two ∨ one ≠ .system ∧ two ≠ .system := by
  cases one <;> cases two <;> decide

theorem Precedence.levelled_eq_iff {one two : Precedence} :
    one.levelled = two.levelled ↔ one = two ∨
      ∃ tier ≠ .system, ∃ other ≠ .system, one = .tier tier ∧ two = .tier other := by
  cases one with
  | unknown name => cases two <;> simp [levelled]
  | tier tier =>
    cases two with
    | unknown name => simp [levelled]
    | tier other => simp [levelled, Tier.levelled_eq_iff]

/-- The command without what tells the arbitrated tiers apart. -/
def Command.levelled (command : Command κ) : Command κ :=
  { command with precedence := command.precedence.levelled }

def Definition.levelled (definition : Definition κ) : Definition κ :=
  { definition with
    precedence := some (definition.precedence.getD (.tier .toolDefault)).levelled }

theorem Definition.command_levelled (definition : Definition κ) :
    definition.levelled.command = definition.command.levelled := rfl

def Registry.levelled (registry : Registry κ) : Registry κ :=
  { registry with commands := registry.commands.map Command.levelled }

def RegistryAnswer.levelled : RegistryAnswer κ → RegistryAnswer κ
  | .command added => .command added.levelled
  | .found one => .found (one.map Command.levelled)
  | .commands all => .commands (all.map Command.levelled)
  | answer => answer

def Resolution.levelled (resolution : Resolution κ) : Resolution κ :=
  { resolution with command := resolution.command.map Command.levelled }

/-- What is logged, without the names of the arbitrated tiers. -/
def Notice.levelled : Notice → Notice
  | .registered commandId precedence scope =>
    .registered commandId (Precedence.ofName precedence).levelled.name scope
  | .armedAt shortcut commandId tier => .armedAt shortcut commandId tier.levelled
  | notice => notice

/-! ## A registry made level -/

namespace Registry

variable (registry : Registry κ) (id : String)

theorem get?_levelled : registry.levelled.get? id = (registry.get? id).map Command.levelled := by
  rw [get?, levelled, List.find?_map]
  rfl

@[simp]
theorem contains_levelled : registry.levelled.contains id = registry.contains id := by
  rw [contains, get?_levelled, Option.isSome_map, contains]

@[simp]
theorem defaults_levelled : registry.levelled.defaults id = registry.defaults id := by
  unfold defaults
  rw [get?_levelled]
  cases registry.get? id <;> rfl

@[simp]
theorem effective_levelled : registry.levelled.effective id = registry.effective id := by
  unfold effective
  rw [defaults_levelled]
  rfl

theorem answer_levelled (query : RegistryQuery) :
    registry.levelled.answer query = (registry.answer query).levelled := by
  cases query with
  | list => rfl
  | get id => exact congrArg RegistryAnswer.found (registry.get?_levelled id)
  | effective id => exact congrArg RegistryAnswer.shortcuts (registry.effective_levelled id)
  | defaults id => exact congrArg RegistryAnswer.shortcuts (registry.defaults_levelled id)
  | isModified id => rfl

theorem register_levelled (definition : Definition κ) :
    registry.levelled.register definition.levelled =
      (registry.register definition).map (Prod.map Command.levelled levelled) := by
  have same : registry.levelled.contains definition.levelled.id = registry.contains definition.id :=
    registry.contains_levelled definition.id
  unfold register
  rw [same]
  split
  · rfl
  · simp [Except.map, levelled, Definition.command_levelled]

theorem unregister_levelled :
    registry.levelled.unregister id =
      ((registry.unregister id).1, (registry.unregister id).2.levelled) := by
  unfold unregister
  rw [contains_levelled, levelled, List.filter_map]
  rfl

theorem rebind_levelled (shortcuts : List String) :
    registry.levelled.rebind id shortcuts = (registry.rebind id shortcuts).levelled := by
  unfold rebind
  rw [defaults_levelled]
  split <;> rfl

theorem revise_levelled (change : List String → Except RegistryRefusal (List String)) :
    registry.levelled.revise id change = (registry.revise id change).map levelled := by
  unfold revise
  rw [contains_levelled, effective_levelled]
  split
  · cases change (registry.effective id) with
    | ok shortcuts => exact congrArg Except.ok (registry.rebind_levelled id shortcuts)
    | error refusal => rfl
  · rfl

theorem resetShortcut_levelled :
    registry.levelled.resetShortcut id = (registry.resetShortcut id).map (Option.map levelled) := by
  unfold resetShortcut
  rw [contains_levelled]
  split
  · show Except.ok (if registry.isModified id then _ else _) = _
    by_cases modified : registry.isModified id <;> simp [modified, Except.map, levelled]
  · rfl

/-- A change does the same to the registry made level. -/
theorem amend_levelled (edit : ShortcutEdit Number) :
    registry.levelled.amend edit =
      (registry.amend edit).map (Option.map fun (next, ids) => (next.levelled, ids)) := by
  cases edit with
  | set id index shortcut =>
    simp only [amend, setShortcut, revise_levelled]
    cases registry.revise id _ <;> rfl
  | add id shortcut =>
    simp only [amend, addShortcut, revise_levelled]
    cases registry.revise id _ <;> rfl
  | remove id index =>
    simp only [amend, removeShortcut, revise_levelled]
    cases registry.revise id _ <;> rfl
  | reset id =>
    simp only [amend, resetShortcut_levelled]
    obtain fault | _ | next := registry.resetShortcut id <;> rfl
  | resetAll => rfl

theorem candidates_levelled (scope shortcut : String) :
    registry.levelled.candidates scope shortcut =
      (registry.candidates scope shortcut).map Command.levelled := by
  unfold candidates
  simp only [effective_levelled]
  rw [levelled, List.filter_map]
  rfl

/-- The scopes are gone through alike. -/
theorem resolveIn_levelled (shortcut : String) (scopes : List String) :
    registry.levelled.resolveIn shortcut scopes = (registry.resolveIn shortcut scopes).levelled := by
  induction scopes with
  | nil => rfl
  | cons scope scopes ih =>
    unfold resolveIn
    rw [candidates_levelled]
    match registry.candidates scope shortcut with
    | [] => exact ih
    | [command] => rfl
    | command :: other :: others => simp [Resolution.levelled, Command.levelled]

theorem resolve_levelled (table : ScopeTable) (fallback : String) (keystroke : Keystroke)
    (window : Window) : registry.levelled.resolve table fallback keystroke window =
      (registry.resolve table fallback keystroke window).levelled := by
  unfold resolve
  split
  · exact registry.resolveIn_levelled _ _
  · rfl

theorem conflictsFor_levelled (table : ScopeTable) (shortcut scope : String)
    (exclude : Option String) : registry.levelled.conflictsFor table shortcut scope exclude =
      (registry.conflictsFor table shortcut scope exclude).map Command.levelled := by
  unfold conflictsFor
  split
  · rfl
  · simp only [effective_levelled]
    rw [levelled, List.filter_map]
    rfl

theorem others_levelled (table : ScopeTable) (command : Command κ) (shortcut : String) :
    registry.levelled.conflictsFor table shortcut command.levelled.scope (some command.levelled.id) =
      (registry.conflictsFor table shortcut command.scope (some command.id)).map Command.levelled :=
  registry.conflictsFor_levelled table shortcut command.scope (some command.id)

/-- The same commands contest a shortcut. -/
theorem contestants_levelled (table : ScopeTable) (command : Command κ) (shortcut : String) :
    registry.levelled.contestants table command.levelled shortcut =
      (registry.contestants table command shortcut).map Command.levelled := by
  unfold contestants
  rw [others_levelled]
  cases registry.conflictsFor table shortcut command.scope (some command.id) with
  | nil => rfl
  | cons other rest =>
    show ((command :: other :: rest).map Command.levelled).filter _ = _
    rw [List.filter_map]
    congr 2
    funext candidate
    simp only [Function.comp_apply, ← List.map_cons, List.any_map]
    rfl

theorem visit_levelled (table : ScopeTable) (command : Command κ) (survey : Survey)
    (shortcut : String) : survey.visit registry.levelled table command.levelled shortcut =
      survey.visit registry table command shortcut := by
  unfold Survey.visit
  rw [others_levelled, contestants_levelled, List.isEmpty_map, List.map_map]
  rfl

theorem hasConflicts_levelled (table : ScopeTable) :
    registry.levelled.hasConflicts table id = registry.hasConflicts table id := by
  unfold hasConflicts
  rw [get?_levelled, effective_levelled]
  cases registry.get? id with
  | none => rfl
  | some command =>
    simp only [Option.map_some, conflictsFor_levelled, List.isEmpty_map]
    rfl

/-- The report of conflicts is the same. -/
theorem conflicts_levelled (table : ScopeTable) :
    registry.levelled.conflicts table = registry.conflicts table := by
  have visits (command : Command κ) : Survey.visit registry.levelled table command.levelled =
      Survey.visit registry table command := by
    funext survey shortcut
    exact registry.visit_levelled table command survey shortcut
  have commands (survey : Survey) (command : Command κ) :
      survey.visitCommand registry.levelled table command.levelled =
        survey.visitCommand registry table command := by
    unfold Survey.visitCommand
    rw [visits, show command.levelled.id = command.id from rfl, effective_levelled]
  unfold conflicts
  rw [show registry.levelled.commands = registry.commands.map Command.levelled from rfl,
    List.foldl_map]
  simp only [commands]

end Registry

/-! ## On two hosts -/

def Command.Level (command other : Command κ) : Prop := command.levelled = other.levelled

def Definition.Level (definition other : Definition κ) : Prop :=
  definition.levelled = other.levelled

def Registry.Level (registry other : Registry κ) : Prop := registry.levelled = other.levelled

def Notice.Level (notice other : Notice) : Prop := notice.levelled = other.levelled

theorem Precedence.level_registered {one two : Precedence} (h : one.levelled = two.levelled)
    (id scope : String) :
    Notice.Level (.registered id one.name scope) (.registered id two.name scope) := by
  rcases levelled_eq_iff.mp h with rfl | ⟨tier, lower, other, lower', rfl, rfl⟩
  · rfl
  · cases tier <;> cases other <;> first | contradiction | rfl

theorem Command.Level.refl (command : Command κ) : command.Level command := rfl

/-- Commands on a level differ in their precedence at most. -/
theorem Command.level_iff {command other : Command κ} : command.Level other ↔
    ∃ precedence, command.precedence.levelled = precedence.levelled ∧
      other = { command with precedence } := by
  constructor
  · intro level
    have rest : { other.levelled with precedence := other.precedence } =
        { command.levelled with precedence := other.precedence } :=
      congrArg (fun common : Command κ => { common with precedence := other.precedence }) level.symm
    exact ⟨other.precedence, congrArg Command.precedence level, rest⟩
  · rintro ⟨precedence, same, rfl⟩
    unfold Level levelled
    rw [same]

theorem Definition.Level.command {definition other : Definition κ} (h : definition.Level other) :
    definition.command.Level other.command :=
  congrArg Definition.command h

namespace Registry.Level

variable {registry other : Registry κ} (level : registry.Level other)

include level

theorem contains (id : String) : registry.contains id = other.contains id := by
  rw [← contains_levelled, level, contains_levelled]

theorem answer (query : RegistryQuery) :
    (registry.answer query).levelled = (other.answer query).levelled := by
  rw [← answer_levelled, level, answer_levelled]

theorem register {definition definition' : Definition κ} (same : definition.Level definition') :
    Result.Alike (fun added added' => added.1.Level added'.1 ∧ added.2.Level added'.2)
      (registry.register definition) (other.register definition') := by
  have registered := registry.register_levelled definition
  rw [level, same, register_levelled] at registered
  generalize registry.register definition = one at registered ⊢
  generalize other.register definition' = two at registered ⊢
  cases Result.Alike.of_map_eq registered with
  | error fault => exact .error fault
  | ok same => exact .ok ⟨(congrArg Prod.fst same).symm, (congrArg Prod.snd same).symm⟩

theorem unregister (id : String) :
    (registry.unregister id).1 = (other.unregister id).1 ∧
      (registry.unregister id).2.Level (other.unregister id).2 := by
  have removed := registry.unregister_levelled id
  rw [level, unregister_levelled] at removed
  exact ⟨(congrArg Prod.fst removed).symm, (congrArg Prod.snd removed).symm⟩

theorem amend (edit : ShortcutEdit Number) :
    Result.Alike (Option.Rel fun next next' => next.1.Level next'.1 ∧ next.2 = next'.2)
      (registry.amend edit) (other.amend edit) := by
  have amended := registry.amend_levelled edit
  rw [level, amend_levelled] at amended
  generalize registry.amend edit = one at amended ⊢
  generalize other.amend edit = two at amended ⊢
  cases Result.Alike.of_map_eq amended with
  | error fault => exact .error fault
  | ok same =>
    apply Result.Alike.ok
    cases map_eq_iff_rel.mp same with
    | none => exact .none
    | some both => exact .some ⟨(congrArg Prod.fst both).symm, (congrArg Prod.snd both).symm⟩

theorem conflictsFor (table : ScopeTable) (shortcut scope : String) (exclude : Option String) :
    (registry.conflictsFor table shortcut scope exclude).map Command.levelled =
      (other.conflictsFor table shortcut scope exclude).map Command.levelled := by
  rw [← conflictsFor_levelled, level, conflictsFor_levelled]

theorem hasConflicts (table : ScopeTable) (id : String) :
    registry.hasConflicts table id = other.hasConflicts table id := by
  rw [← hasConflicts_levelled, level, hasConflicts_levelled]

theorem conflicts (table : ScopeTable) : registry.conflicts table = other.conflicts table := by
  rw [← conflicts_levelled, level, conflicts_levelled]

theorem resolve (table : ScopeTable) (fallback : String) (keystroke : Keystroke) (window : Window) :
    (registry.resolve table fallback keystroke window).levelled =
      (other.resolve table fallback keystroke window).levelled := by
  rw [← resolve_levelled, level, resolve_levelled]

end Registry.Level

section
variable {σ σ' ν : Type} {states : σ → σ' → Prop}

/-- Two registries on two hosts, on a level, whose subscribers and logs end alike. -/
structure RegistryHost.Level (states : σ → σ' → Prop) (host : RegistryHost σ κ ν)
    (other : RegistryHost σ' κ ν) : Prop where
  registry : host.registry.Akin states Registry.Level other.registry
  subscribers : host.subscribers.Alike states other.subscribers
  call : ∀ member id, Act.Alike states Eq (host.call member id) (other.call member id)
  log : ∀ notice notice', notice.Level notice' →
    Act.Alike states Eq (host.log notice) (other.log notice')
  allowance : host.allowance = other.allowance

namespace RegistryHost.Level

open Act

variable {host : RegistryHost σ κ ν} {other : RegistryHost σ' κ ν} (level : host.Level states other)

include level

theorem announceAll (ids : List String) :
    Act.Alike states Eq (host.announceAll ids) (other.announceAll ids) := by
  induction ids with
  | nil => exact alike_pure rfl
  | cons id ids ih =>
    have announced : Act.Alike states Eq (host.announce id) (other.announce id) := by
      unfold announce
      rw [level.allowance]
      apply Subscribers.alike_callAll level.subscribers
      exact fun member => alike_guarded (level.call member id) fun fault => level.log _ _ rfl
    exact alike_bind_eq announced fun _ => ih

theorem register {definition definition' : Definition κ} (same : definition.Level definition') :
    Act.Alike states Command.Level (host.register definition) (other.register definition') := by
  apply alike_bind level.registry.read
  intro registry registry' registries
  apply alike_bind (alike_ofExcept (registries.register same))
  rintro ⟨command, added⟩ ⟨command', added'⟩ ⟨commands, registries⟩
  obtain ⟨precedence, precedences, rfl⟩ := Command.level_iff.mp commands
  have logged : Notice.Level (.registered command.id command.precedence.name command.scope)
      (.registered command.id precedence.name command.scope) :=
    Precedence.level_registered precedences _ _
  exact alike_bind_eq (level.registry.write registries) fun _ =>
    alike_bind_eq (level.log _ _ logged) fun _ => alike_pure commands

theorem unregister (id : String) :
    Act.Alike states Eq (host.unregister id) (other.unregister id) := by
  apply alike_bind level.registry.read
  intro registry registry' registries
  obtain ⟨found, left⟩ := registries.unregister id
  exact alike_bind_eq (level.registry.write left) fun _ => alike_pure found

theorem settle {amended amended' : Option (Registry κ × List String)}
    (same : Option.Rel (fun next next' => next.1.Level next'.1 ∧ next.2 = next'.2)
      amended amended') : Act.Alike states Eq (host.settle amended) (other.settle amended') := by
  cases same with
  | none => exact alike_pure rfl
  | some same =>
    rename_i next next'
    obtain ⟨registry, ids⟩ := next
    obtain ⟨registry', _⟩ := next'
    obtain ⟨registries, rfl⟩ := same
    exact alike_bind_eq (level.registry.write registries) fun _ => level.announceAll ids

/-- Every change of shortcuts ends alike. -/
theorem edit (edit : ShortcutEdit Number) :
    Act.Alike states Eq (host.edit edit) (other.edit edit) := by
  rw [edit_eq, edit_eq]
  apply alike_bind level.registry.read
  intro registry registry' registries
  have mentioned : Act.Alike states Eq (host.mention registry edit)
      (other.mention registry' edit) := by
    unfold mention
    split
    · rw [registries.contains]
      split
      · exact level.log _ _ rfl
      · exact alike_pure rfl
    · exact alike_pure rfl
  apply alike_bind_eq mentioned
  intro _
  exact alike_bind (alike_ofExcept (registries.amend edit)) fun _ _ same => level.settle same

/-- A keystroke stands for commands on a level, and an ambiguous choice is logged alike. -/
theorem commandFor (table : ScopeTable) (fallback : String) (keystroke : Keystroke)
    (window : Window) : Act.Alike states (Option.Rel Command.Level)
      (table.commandFor fallback host.registry host.log keystroke window)
      (table.commandFor fallback other.registry other.log keystroke window) := by
  apply alike_bind level.registry.read
  intro registry registry' registries
  have same := registries.resolve table fallback keystroke window
  generalize registry.resolve table fallback keystroke window = one at same ⊢
  generalize registry'.resolve table fallback keystroke window = two at same ⊢
  obtain ⟨command, ambiguity⟩ := one
  obtain ⟨command', ambiguity'⟩ := two
  have commands : Option.Rel Command.Level command command' :=
    map_eq_iff_rel.mp (congrArg Resolution.command same)
  obtain rfl : ambiguity = ambiguity' := congrArg Resolution.ambiguity same
  cases ambiguity with
  | none => exact alike_pure commands
  | some ambiguity => exact alike_bind_eq (level.log _ _ rfl) fun _ => alike_pure commands

end RegistryHost.Level
end
end KeyPrecedence
