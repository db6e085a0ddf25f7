import KeyPrecedence.Proofs.Command.Conflict
import KeyPrecedence.Proofs.Command.Resolution

/-!
# What a report without conflicts guarantees

* `Registry.Eligible`: the commands a keystroke may stand for in a window;
* `Registry.apart_of_unreported`: two of them that no conflict tells of have scopes that do not
  overlap;
* `Registry.resolve_eq_of_rearranged`: where there is one at most, no order matters;
* `ScopeTable.coherent_iff_unambiguous`: so the guarantee is good for the windows whose active
  scopes overlap each other, and for no others.
-/

namespace KeyPrecedence

variable {κ : Type}

namespace ScopeTable

/-- The scopes active in a scope overlap, each one with every one, itself included. -/
def Coherent (table : ScopeTable) (scope : String) : Prop :=
  ∀ a ∈ table.active scope, ∀ b ∈ table.active scope, table.overlap a b = true

/-- The same scopes are active, in any order. -/
def Rearranges (order table : ScopeTable) : Prop :=
  (∀ scope, order.knows scope = table.knows scope) ∧
    ∀ scope a, a ∈ order.active scope ↔ a ∈ table.active scope

theorem Rearranges.scopeIn {order table : ScopeTable} (h : order.Rearranges table)
    (fallback : String) (window : Window) :
    window.scopeIn order fallback = window.scopeIn table fallback := by
  induction window with
  | free id scope => simp only [Window.scopeIn, h.1]
  | owned id scope owner ih => simp only [Window.scopeIn, h.1, ih]

end ScopeTable

theorem head?_eq_of_subsingleton {α : Type} {l m : List α} (same : ∀ a, a ∈ l ↔ a ∈ m)
    (one : ∀ a ∈ m, ∀ b ∈ m, a = b) : l.head? = m.head? := by
  cases l with
  | nil =>
    cases m with
    | nil => rfl
    | cons b m => cases (same b).mpr (.head _)
  | cons a l =>
    have ha := (same a).mp (.head _)
    cases m with
    | nil => cases ha
    | cons b m => rw [List.head?_cons, List.head?_cons, one a ha b (.head _)]

namespace Registry

/-- The command has the shortcut, and its scope is active in the window. -/
def Eligible (registry : Registry κ) (table : ScopeTable) (fallback : String) (window : Window)
    (shortcut : String) (command : Command κ) : Prop :=
  command ∈ registry.commands ∧ command.scope ∈ table.active (window.scopeIn table fallback) ∧
    shortcut ∈ registry.effective command.id

/-- The same commands with the same shortcuts, in any order. -/
def Rearranges (other registry : Registry κ) : Prop :=
  other.commands.Perm registry.commands ∧
    ∀ id, other.overrides.find? id = registry.overrides.find? id

/-- A shortcut stands for one command at most in the window, and which one it is depends neither on
the order of registration nor on that of the scopes. -/
def Unambiguous (registry : Registry κ) (table : ScopeTable) (fallback : String)
    (window : Window) : Prop :=
  (∀ shortcut, shortcut ≠ "" → ∀ a b, registry.Eligible table fallback window shortcut a →
    registry.Eligible table fallback window shortcut b → a = b) ∧
  ∀ (other : Registry κ) (order : ScopeTable) (keystroke : Keystroke), other.Rearranges registry →
    order.Rearranges table →
    (other.resolve order fallback keystroke window).command =
      (registry.resolve table fallback keystroke window).command

variable {registry other : Registry κ} {table order : ScopeTable} {fallback shortcut : String}
  {window : Window}

/-- Nothing reported is nothing in dispute. -/
theorem disputed_of_unreported (distinct : registry.Distinct)
    (unreported : registry.conflicts table = []) : registry.disputed table shortcut = [] := by
  cases hd : registry.disputed table shortcut with
  | nil => rfl
  | cons first others =>
    have hm : (⟨shortcut, _⟩ : Conflict) ∈ registry.conflicts table :=
      (mem_conflicts distinct).mpr ⟨first, others, hd, rfl⟩
    rw [unreported] at hm
    cases hm

theorem unreported_of_disputed (distinct : registry.Distinct)
    (h : ∀ shortcut, registry.disputed table shortcut = []) : registry.conflicts table = [] := by
  refine List.eq_nil_iff_forall_not_mem.mpr fun conflict hm => ?_
  obtain ⟨first, others, hd, -⟩ := (mem_conflicts distinct).mp hm
  rw [h] at hd
  cases hd

/-- Commands that have a shortcut in common and are not reported do not see each other. -/
theorem apart_of_unreported (distinct : registry.Distinct)
    (unreported : registry.conflicts table = []) (named : shortcut ≠ "") {a b : Command κ}
    (ha : registry.Eligible table fallback window shortcut a)
    (hb : registry.Eligible table fallback window shortcut b) (ne : a ≠ b) :
    table.overlap a.scope b.scope = false := by
  by_contra ho
  have hi : b.id ≠ a.id := fun he => ne (eq_of_id_eq distinct ha.1 hb.1 he.symm)
  have rival : b ∈ registry.conflictsFor table shortcut a.scope (some a.id) := by
    refine mem_conflictsFor.mpr ⟨named, hb.1, hi, hb.2.2, ?_⟩
    rw [table.overlap_comm]
    exact eq_true_of_ne_false ho
  have hd : a ∈ registry.disputed table shortcut := mem_disputed.mpr ⟨ha.1, ha.2.2, b, rival⟩
  rw [disputed_of_unreported distinct unreported] at hd
  cases hd

theorem Rearranges.effective (h : other.Rearranges registry) (distinct : registry.Distinct)
    (id : String) : other.effective id = registry.effective id := by
  have distinct' : other.Distinct := (h.1.map _).nodup_iff.mpr distinct
  have found : other.get? id = registry.get? id := by
    cases hg : registry.get? id with
    | some command =>
      have hi : command.id = id := by simpa using List.find?_some hg
      subst hi
      exact get?_of_mem distinct' (h.1.mem_iff.mpr (List.mem_of_find?_eq_some hg))
    | none =>
      refine List.find?_eq_none.mpr fun command hm => ?_
      exact List.find?_eq_none.mp hg command (h.1.mem_iff.mp hm)
  unfold Registry.effective defaults
  rw [h.2, found]

/-- With one command at most to choose from, the order in which they come does not matter. -/
theorem resolve_eq_of_rearranged (distinct : registry.Distinct)
    (rearranged : other.Rearranges registry)
    (reordered : order.Rearranges table) (keystroke : Keystroke)
    (one : keystroke.shortcut ≠ "" → ∀ a b,
      registry.Eligible table fallback window keystroke.shortcut a →
      registry.Eligible table fallback window keystroke.shortcut b → a = b) :
    (other.resolve order fallback keystroke window).command =
      (registry.resolve table fallback keystroke window).command := by
  by_cases h : keystroke.phase = .pressed ∧ keystroke.shortcut ≠ ""
  · rw [resolve_command h.1 h.2, resolve_command h.1 h.2, reordered.scopeIn]
    apply head?_eq_of_subsingleton
    · intro command
      rw [mem_ranking, mem_ranking, rearranged.effective distinct, rearranged.1.mem_iff,
        reordered.2]
    · intro a ha b hb
      exact one h.2 a b (mem_ranking.mp ha) (mem_ranking.mp hb)
  · unfold resolve
    rw [if_neg h, if_neg h]

/-! ## Two commands on one key -/

def onF5 [Inhabited κ] (id scope : String) : Definition κ where
  id := id
  name := id
  execute := default
  scope := some scope
  shortcuts := some ["F5"]

/-- A command on F5 in either scope. -/
def pair [Inhabited κ] (a b : String) : Registry κ :=
  { commands := [onF5 "first" a, onF5 "second" b].map (·.command) }

theorem reachable_pair [Inhabited κ] (a b : String) : (pair a b : Registry κ).Reachable :=
  reachable_of_definitions _ (by simp [onF5])

theorem unreported_pair [Inhabited κ] {a b : String} (apart : table.overlap a b = false) :
    (pair a b : Registry κ).conflicts table = [] := by
  refine unreported_of_disputed (reachable_pair a b).distinct fun shortcut => ?_
  refine List.eq_nil_iff_forall_not_mem.mpr fun command hd => ?_
  obtain ⟨hm, -, rival, hr⟩ := mem_disputed.mp hd
  obtain ⟨-, hm', hi, -, ho⟩ := mem_conflictsFor.mp hr
  simp only [pair, List.map_cons, List.map_nil, List.mem_cons, List.not_mem_nil, or_false] at hm hm'
  obtain rfl | rfl := hm <;> obtain rfl | rfl := hm'
  · exact hi rfl
  · rw [table.overlap_comm] at ho
    exact absurd ho (ne_true_of_eq_false apart)
  · exact absurd ho (ne_true_of_eq_false apart)
  · exact hi rfl

end Registry

/-- In a window whose active scopes overlap each other, a report without conflicts guarantees that
no keystroke is ambiguous. In any other window there are commands for which it does not. -/
theorem ScopeTable.coherent_iff_unambiguous [Inhabited κ] (table : ScopeTable) (fallback : String)
    (window : Window) :
    table.Coherent (window.scopeIn table fallback) ↔
      ∀ registry : Registry κ, registry.Reachable → registry.conflicts table = [] →
        registry.Unambiguous table fallback window := by
  constructor
  · intro coherent registry reachable unreported
    have one (shortcut : String) (named : shortcut ≠ "") (a b : Command κ)
        (ha : registry.Eligible table fallback window shortcut a)
        (hb : registry.Eligible table fallback window shortcut b) : a = b := by
      by_contra ne
      have := Registry.apart_of_unreported reachable.distinct unreported named ha hb ne
      rw [coherent _ ha.2.1 _ hb.2.1] at this
      cases this
    exact ⟨one, fun other order keystroke rearranged reordered =>
      Registry.resolve_eq_of_rearranged reachable.distinct rearranged reordered keystroke (one _)⟩
  · intro guaranteed a ha b hb
    by_contra apart
    obtain ⟨one, -⟩ := guaranteed (Registry.pair a b) (Registry.reachable_pair a b)
      (Registry.unreported_pair (eq_false_of_ne_true apart))
    have same := one "F5" (by decide) _ _ ⟨.head _, ha, .head _⟩ ⟨.tail _ (.head _), hb, .head _⟩
    have ids : "first" = "second" := congrArg Command.id same
    exact absurd ids (by decide)

namespace Registry

/-- The default scopes overlap in the main window, so two commands that no conflict tells of do not
share a key there. -/
theorem main_unambiguous :
    ScopeTable.default.Coherent "Main window" ∧
    (pair "Main window" "Elsewhere" : Registry Unit).Reachable ∧
    (pair "Main window" "Elsewhere" : Registry Unit).conflicts .default = [] ∧
    (pair "Main window" "Elsewhere" : Registry Unit).Unambiguous .default ScopeTable.appScope
      (.free "main" "Main window") := by
  have coherent : ScopeTable.default.Coherent "Main window" := by
    unfold ScopeTable.Coherent
    decide
  have reachable : (pair "Main window" "Elsewhere" : Registry Unit).Reachable := reachable_pair _ _
  have unreported : (pair "Main window" "Elsewhere" : Registry Unit).conflicts .default = [] :=
    unreported_pair rfl
  exact ⟨coherent, reachable, unreported,
    (ScopeTable.coherent_iff_unambiguous _ _ (.free "main" "Main window")).mp coherent _ reachable
      unreported⟩

/-! ## A window with two panes, and tools in a scope the table does not know -/

def panes : ScopeTable :=
  .ofList [("Main", ["Left", "Right", "Tools"]), ("Left", ["Left"]), ("Right", ["Right"])]

def mirroredPanes : ScopeTable :=
  .ofList [("Main", ["Tools", "Right", "Left"]), ("Left", ["Left"]), ("Right", ["Right"])]

def paneCommand (id scope shortcut : String) : Definition Unit where
  id := id
  name := id
  execute := ()
  scope := some scope
  shortcuts := some [shortcut]

def paneCommands : List (Definition Unit) :=
  [paneCommand "left" "Left" "F5", paneCommand "right" "Right" "F5",
    paneCommand "hammer" "Tools" "F6", paneCommand "saw" "Tools" "F6"]

def ofDefinitions (definitions : List (Definition Unit)) : Registry Unit :=
  { commands := definitions.map (·.command) }

theorem mirroredPanes_rearranges : mirroredPanes.Rearranges panes := by
  have mirrored : mirroredPanes.rows.entries =
      [("Main", ["Tools", "Right", "Left"]), ("Left", ["Left"]), ("Right", ["Right"])] := rfl
  have rows : panes.rows.entries =
      [("Main", ["Left", "Right", "Tools"]), ("Left", ["Left"]), ("Right", ["Right"])] := rfl
  refine ⟨fun scope => ?_, fun scope a => ?_⟩
  · unfold ScopeTable.knows Table.contains Table.find?
    rw [mirrored, rows, Option.isSome_map, Option.isSome_map, Bool.eq_iff_iff, List.find?_isSome,
      List.find?_isSome]
    simp
  by_cases h : scope = "Main"
  · subst h
    show a ∈ ["Tools", "Right", "Left"] ↔ a ∈ ["Left", "Right", "Tools"]
    rw [← List.mem_reverse]
    rfl
  · simp [ScopeTable.active, Table.find?, mirrored, rows, Ne.symm h]

/-- The id of the command a key stands for in the window. -/
def paneChoice (registry : Registry Unit) (table : ScopeTable) (shortcut : String) :
    Option String :=
  (registry.resolve table ScopeTable.appScope ⟨shortcut, .pressed⟩ (.free "main" "Main")).command.map
    (·.id)

/-- No conflict is reported. Still two commands are eligible on either key: which of them one key
stands for hangs on the order of the scopes, and the other on the order of registration. -/
theorem panes_ambiguous :
    (ofDefinitions paneCommands).Reachable ∧
    (ofDefinitions paneCommands).conflicts panes = [] ∧
    (∃ a b, a ≠ b ∧
      (ofDefinitions paneCommands).Eligible panes ScopeTable.appScope (.free "main" "Main") "F5" a ∧
      (ofDefinitions paneCommands).Eligible panes ScopeTable.appScope (.free "main" "Main") "F5" b) ∧
    mirroredPanes.Rearranges panes ∧
    (ofDefinitions paneCommands).paneChoice panes "F5" = some "left" ∧
    (ofDefinitions paneCommands).paneChoice mirroredPanes "F5" = some "right" ∧
    (ofDefinitions paneCommands.reverse).Rearranges (ofDefinitions paneCommands) ∧
    (ofDefinitions paneCommands).paneChoice panes "F6" = some "hammer" ∧
    (ofDefinitions paneCommands.reverse).paneChoice panes "F6" = some "saw" := by
  have reachable := reachable_of_definitions paneCommands (by decide)
  refine ⟨reachable, rfl, ?_, mirroredPanes_rearranges, rfl, rfl, ?_, rfl, rfl⟩
  · refine ⟨_, _, ?_, ⟨.head _, .head _, .head _⟩, ⟨.tail _ (.head _), .tail _ (.head _), .head _⟩⟩
    decide
  · exact ⟨(List.reverse_perm paneCommands).map _, fun _ => rfl⟩

end Registry
end KeyPrecedence
