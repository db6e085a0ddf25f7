import KeyPrecedence.Proofs.Command.Edit
import KeyPrecedence.Proofs.Command.Unambiguous

/-!
# Checking before a shortcut is given

* `Registry.Peaceful`: no two commands that see each other share a shortcut; nothing is reported
  exactly then;
* `Registry.admits`: the check made before a command is given a shortcut;
* `Peaceful.fewer`, `Peaceful.given`: what takes shortcuts away keeps the peace, and so does a
  shortcut that passed the check;
* `Registry.Calm`: the peace as every edit keeps it;
* `CheckedScene`: the registry of a host where shortcuts are given only after the check;
* `checked_stays_peaceful`: so nothing is reported after any call.
-/

namespace KeyPrecedence

variable {κ : Type}

namespace Registry

variable {registry next : Registry κ} {table : ScopeTable} {id shortcut : String}

/-- Commands that share a shortcut do not see each other. The empty shortcut does not count. -/
def Peaceful (registry : Registry κ) (table : ScopeTable) : Prop :=
  ∀ shortcut, shortcut ≠ "" → ∀ a ∈ registry.commands, ∀ b ∈ registry.commands, a.id ≠ b.id →
    shortcut ∈ registry.effective a.id → shortcut ∈ registry.effective b.id →
      table.overlap a.scope b.scope = false

theorem peaceful_iff (distinct : registry.Distinct) :
    registry.Peaceful table ↔ registry.conflicts table = [] := by
  constructor
  · intro peaceful
    apply unreported_of_disputed distinct
    intro shortcut
    apply List.eq_nil_iff_forall_not_mem.mpr
    intro command hd
    obtain ⟨hm, hs, rival, hr⟩ := mem_disputed.mp hd
    obtain ⟨named, hm', apart, hs', overlap⟩ := mem_conflictsFor.mp hr
    rw [peaceful shortcut named rival hm' command hm apart hs' hs] at overlap
    cases overlap
  · intro unreported shortcut named a ha b hb apart hsa hsb
    by_contra overlap
    have rival : a ∈ registry.conflictsFor table shortcut b.scope (some b.id) :=
      mem_conflictsFor.mpr ⟨named, ha, apart, hsa, eq_true_of_ne_false overlap⟩
    have disputed : b ∈ registry.disputed table shortcut := mem_disputed.mpr ⟨hb, hsb, a, rival⟩
    rw [disputed_of_unreported distinct unreported] at disputed
    cases disputed

/-- Whether nothing gets in the way of a shortcut for a command. An id without a command has no
scope to look from, and cannot be given a shortcut anyhow. -/
def admits (registry : Registry κ) (table : ScopeTable) (id shortcut : String) : Bool :=
  match registry.get? id with
  | some command => (registry.conflictsFor table shortcut command.scope (some id)).isEmpty
  | none => true

/-- A command that was checked sees nobody who has the shortcut. -/
theorem apart_of_admits (distinct : registry.Distinct) (checked : registry.admits table id shortcut)
    (named : shortcut ≠ "") {a b : Command κ} (ha : a ∈ registry.commands) (own : a.id = id)
    (hb : b ∈ registry.commands) (apart : a.id ≠ b.id) (hs : shortcut ∈ registry.effective b.id) :
    table.overlap a.scope b.scope = false := by
  subst own
  rw [admits, get?_of_mem distinct ha, List.isEmpty_iff] at checked
  by_contra overlap
  have rival : b ∈ registry.conflictsFor table shortcut a.scope (some a.id) := by
    rw [table.overlap_comm] at overlap
    exact mem_conflictsFor.mpr ⟨named, hb, apart.symm, hs, eq_true_of_ne_false overlap⟩
  rw [checked] at rival
  cases rival

/-- Fewer commands with fewer shortcuts. -/
theorem Peaceful.fewer (h : registry.Peaceful table)
    (commands : ∀ command ∈ next.commands, command ∈ registry.commands)
    (effective : ∀ command ∈ next.commands, ∀ shortcut ∈ next.effective command.id,
      shortcut ∈ registry.effective command.id) : next.Peaceful table := by
  intro shortcut named a ha b hb apart hsa hsb
  exact h shortcut named a (commands a ha) b (commands b hb) apart (effective a ha _ hsa)
    (effective b hb _ hsb)

/-- One command may have a shortcut more, if that passed the check. -/
theorem Peaceful.given (h : registry.Peaceful table) (distinct : registry.Distinct)
    (checked : registry.admits table id shortcut) (commands : next.commands = registry.commands)
    (others : ∀ other, other ≠ id → next.effective other = registry.effective other)
    (own : ∀ given ∈ next.effective id, given ∈ registry.effective id ∨ given = shortcut) :
    next.Peaceful table := by
  have one {given : String} (named : given ≠ "") {a b : Command κ} (ha : a ∈ registry.commands)
      (hb : b ∈ registry.commands) (apart : a.id ≠ b.id) (hi : a.id = id)
      (hsa : given ∈ next.effective a.id) (hsb : given ∈ next.effective b.id) :
      table.overlap a.scope b.scope = false := by
    rw [others b.id (hi ▸ apart.symm)] at hsb
    rw [hi] at hsa
    rcases own given hsa with old | rfl
    · exact h given named a ha b hb apart (hi ▸ old) hsb
    · exact apart_of_admits distinct checked named ha hi hb apart hsb
  intro given named a ha b hb apart hsa hsb
  rw [commands] at ha hb
  by_cases hi : a.id = id
  · exact one named ha hb apart hi hsa hsb
  by_cases hj : b.id = id
  · rw [table.overlap_comm]
    exact one named hb ha apart.symm hj hsb hsa
  · rw [others a.id hi] at hsa
    rw [others b.id hj] at hsb
    exact h given named a ha b hb apart hsa hsb

/-! ### The edits -/

theorem exists_of_revise {change : List String → Except RegistryRefusal (List String)}
    (h : registry.revise id change = .ok next) :
    ∃ shortcuts, change (registry.effective id) = .ok shortcuts ∧
      next.effective id = shortcuts := by
  unfold revise at h
  split at h
  · split at h
    · rename_i shortcuts changed
      cases h
      exact ⟨shortcuts, changed, by rw [effective_rebind, if_pos rfl]⟩
    · cases h
  · cases h

theorem mem_of_setAt {current shortcuts : List String} {index : Number}
    (h : setAt current index shortcut = some shortcuts) :
    ∀ given ∈ shortcuts, given ∈ current ∨ given = shortcut := by
  unfold setAt at h
  split at h
  · split at h
    · cases h
      intro given hm
      exact List.mem_or_eq_of_mem_set hm
    · cases h
      exact fun _ hm => .inl hm
  · split at h
    · cases h
      intro given hm
      simpa using hm
    · cases h

theorem mem_of_removeAt {current shortcuts : List String} {index : Number}
    (h : removeAt current index = some shortcuts) : ∀ given ∈ shortcuts, given ∈ current := by
  unfold removeAt at h
  split at h
  · cases h
  · cases h
    exact fun _ hm => List.mem_of_mem_eraseIdx hm

/-- What is kept by checking. -/
structure Calm (registry : Registry κ) (table : ScopeTable) : Prop where
  distinct : registry.Distinct
  peaceful : registry.Peaceful table

namespace Calm

theorem unreported (h : registry.Calm table) : registry.conflicts table = [] :=
  (peaceful_iff h.distinct).mp h.peaceful

theorem unregister (h : registry.Calm table) (id : String) :
    (registry.unregister id).2.Calm table := by
  have distinct : (registry.unregister id).2.Distinct := h.distinct.unregister id
  have mem {command : Command κ} (hm : command ∈ (registry.unregister id).2.commands) :
      command ∈ registry.commands ∧ command.id ≠ id := by
    simpa [Registry.unregister] using hm
  refine ⟨distinct, h.peaceful.fewer (fun command hm => (mem hm).1) ?_⟩
  intro command hm shortcut hs
  have defaults : (registry.unregister id).2.defaults command.id =
      registry.defaults command.id := by
    rw [Registry.defaults, Registry.defaults, get?_of_mem distinct hm,
      get?_of_mem h.distinct (mem hm).1]
  have override : (registry.unregister id).2.overrides.find? command.id =
      registry.overrides.find? command.id := by
    show (registry.overrides.erase id).find? command.id = _
    rw [Table.find?_erase, if_neg (mem hm).2.symm]
  rwa [effective, defaults, override] at hs

/-- A revision that leaves the command's shortcuts among those it had and one that was checked. -/
theorem revise (h : registry.Calm table)
    {change : List String → Except RegistryRefusal (List String)}
    (made : registry.revise id change = .ok next)
    (checked : registry.admits table id shortcut)
    (own : ∀ shortcuts, change (registry.effective id) = .ok shortcuts →
      ∀ given ∈ shortcuts, given ∈ registry.effective id ∨ given = shortcut) :
    next.Calm table := by
  have commands : next.commands = registry.commands := commands_revise made
  obtain ⟨shortcuts, changed, has⟩ := exists_of_revise made
  constructor
  · rw [Distinct, commands]
    exact h.distinct
  · apply h.peaceful.given h.distinct checked commands
    · exact fun other apart => effective_of_revise made apart
    · rw [has]
      exact own shortcuts changed

theorem setShortcut (h : registry.Calm table) {index : Number}
    (made : registry.setShortcut id index shortcut = .ok next)
    (checked : registry.admits table id shortcut) : next.Calm table := by
  apply h.revise made checked
  intro shortcuts changed
  split at changed
  · rename_i set
    cases changed
    exact mem_of_setAt set
  · cases changed

theorem addShortcut (h : registry.Calm table) (made : registry.addShortcut id shortcut = .ok next)
    (checked : registry.admits table id shortcut) : next.Calm table := by
  apply h.revise made checked
  intro shortcuts added given hm
  cases added
  simpa using hm

/-- Taking a shortcut away needs no check. -/
theorem removeShortcut (h : registry.Calm table) {index : Number}
    (made : registry.removeShortcut id index = .ok next) : next.Calm table := by
  have commands : next.commands = registry.commands := commands_revise made
  obtain ⟨shortcuts, changed, has⟩ := exists_of_revise made
  split at changed
  · rename_i removed
    cases changed
    constructor
    · rw [Distinct, commands]
      exact h.distinct
    · apply h.peaceful.fewer (fun command hm => commands ▸ hm)
      intro command _ given hs
      by_cases own : command.id = id
      · rw [own, has] at hs
        rw [own]
        exact mem_of_removeAt removed given hs
      · rwa [effective_of_revise made own] at hs
  · cases changed

end Calm

end Registry

/-! ## On a host -/

/-- What may be done with a registry where shortcuts are checked first, and with its subscribers
`ν`. -/
inductive CheckedOp (ν : Type)
  | set (id : String) (index : Number) (shortcut : String)
  | add (id shortcut : String)
  | remove (id : String) (index : Number)
  | unregister (id : String)
  | ask (query : RegistryQuery)
  | subscribe (member : ν)
  | unsubscribe (member : ν)

open Act

variable {τ ν : Type}

/-- The registry of a host with state `τ`, and what was reported after each call so far. -/
structure CheckedScene (τ κ ν : Type) where
  host : τ
  registry : Registry κ
  subscribers : Subscribers ν := {}
  reports : List (List Conflict) := []

namespace CheckedScene

def hostSlot : Slot (CheckedScene τ κ ν) τ where
  get := host
  set host scene := { scene with host }

def registrySlot : Slot (CheckedScene τ κ ν) (Registry κ) where
  get := registry
  set registry scene := { scene with registry }

def subscribersSlot : Slot (CheckedScene τ κ ν) (Subscribers ν) where
  get := subscribers
  set subscribers scene := { scene with subscribers }

/-- A call has come to its end, and all conflicts are reported. -/
def report (table : ScopeTable) (scene : CheckedScene τ κ ν) : CheckedScene τ κ ν :=
  { scene with reports := scene.reports ++ [scene.registry.conflicts table] }

section

variable (table : ScopeTable) (around : RegistrySurroundings τ ν (CheckedOp ν) (RegistryAnswer κ))
  (nested : CheckedOp ν → Act (CheckedScene τ κ ν) (RegistryAnswer κ))

/-- The registry where subscribers perform operations by `nested`. -/
def store : RegistryHost (CheckedScene τ κ ν) κ ν where
  registry := registrySlot
  subscribers := subscribersSlot
  call member id := (around.call member id).run hostSlot nested
  log notice := modify fun scene => { scene with host := around.log notice scene.host }
  allowance := around.allowance

def edit (edit : ShortcutEdit Number) : Act (CheckedScene τ κ ν) (RegistryAnswer κ) := do
  (store around nested).edit edit
  return .nothing

/-- An edit that gives a command a shortcut is made only where nothing gets in the way of it. -/
def give (id shortcut : String) (edit : ShortcutEdit Number) :
    Act (CheckedScene τ κ ν) (RegistryAnswer κ) := do
  if (← registrySlot.read).admits table id shortcut then
    CheckedScene.edit around nested edit
  else return .truth false

variable [DecidableEq ν]

def operate : CheckedOp ν → Act (CheckedScene τ κ ν) (RegistryAnswer κ)
  | .set id index shortcut => give table around nested id shortcut (.set id index shortcut)
  | .add id shortcut => give table around nested id shortcut (.add id shortcut)
  | .remove id index => edit around nested (.remove id index)
  | .unregister id => do return .truth (← (store around nested).unregister id)
  | .ask query => do return (← registrySlot.read).answer query
  | .subscribe member => do
    subscribersSlot.update (·.add member)
    return .nothing
  | .unsubscribe member => do
    subscribersSlot.update (·.remove member)
    return .nothing

/-- Performs an operation, where subscribers may perform further ones so many deep. -/
def perform : Nat → CheckedOp ν → Act (CheckedScene τ κ ν) (RegistryAnswer κ) :=
  Act.nesting fun nested operation =>
    (operate table around nested operation).followedBy (modify (report table))

end

/-! ### Every call leaves the peace -/

structure Good (table : ScopeTable) (scene : CheckedScene τ κ ν) : Prop where
  calm : scene.registry.Calm table
  reported : ∀ report ∈ scene.reports, report = []

variable {table : ScopeTable} {around : RegistrySurroundings τ ν (CheckedOp ν) (RegistryAnswer κ)}
  {nested : CheckedOp ν → Act (CheckedScene τ κ ν) (RegistryAnswer κ)}

theorem Good.report {scene : CheckedScene τ κ ν} (h : scene.Good table) :
    (scene.report table).Good table := by
  refine ⟨h.calm, fun last hm => ?_⟩
  rcases List.mem_append.mp hm with hm | hm
  · exact h.reported last hm
  · rw [List.mem_singleton.mp hm, h.calm.unreported]

theorem keeps_code (inner : ∀ operation, Keeps (Good table) (nested operation)) {α : Type}
    (code : Routine τ (CheckedOp ν) (RegistryAnswer κ) α) :
    Keeps (Good table) (code.run hostSlot nested) :=
  Routine.keeps_run (fun _ _ h => ⟨h.calm, h.reported⟩) inner code

theorem leads_announceAll (inner : ∀ operation, Keeps (Good table) (nested operation))
    (ids : List String) :
    Leads (Good table) (Good table) ((store around nested).announceAll ids) := by
  apply RegistryHost.leads_announceAll
  intro member id
  exact leads_guarded (keeps_code inner (around.call member id)) fun _ =>
    leads_modify fun _ h => ⟨h.calm, h.reported⟩

theorem keeps_edit (inner : ∀ operation, Keeps (Good table) (nested operation))
    {edit : ShortcutEdit Number} {scene : CheckedScene τ κ ν} (h : scene.Good table)
    (kept : ∀ next ids, scene.registry.amend edit = .ok (some (next, ids)) → next.Calm table) :
    (CheckedScene.edit around nested edit).Ends scene fun _ reached => reached.Good table := by
  let Logged (reached : CheckedScene τ κ ν) : Prop :=
    reached.registry = scene.registry ∧ reached.Good table
  have logged (notice : Notice) : Leads Logged Logged ((store around nested).log notice) :=
    leads_modify fun _ h => ⟨h.1, h.2.calm, h.2.reported⟩
  have begun : Logged scene := ⟨rfl, h⟩
  have ended : ((store around nested).edit edit).Ends scene fun _ reached =>
      reached.Good table := by
    apply RegistryHost.ends_edit _ begun logged
    · exact fun _ _ _ h => h.2
    rintro amended reached made ⟨same, h⟩
    cases amended with
    | none => exact h
    | some amended =>
      obtain ⟨next, ids⟩ := amended
      have changed : Good table { reached with registry := next } :=
        ⟨kept next ids made, h.reported⟩
      exact Slot.ends_write_bind.mpr
        ((leads_announceAll inner ids _ changed).mono fun _ _ h => h.2)
  exact ended.bind_pure

theorem keeps_give (inner : ∀ operation, Keeps (Good table) (nested operation))
    {id shortcut : String} {edit : ShortcutEdit Number} {scene : CheckedScene τ κ ν}
    (h : scene.Good table)
    (kept : ∀ next ids, scene.registry.admits table id shortcut →
      scene.registry.amend edit = .ok (some (next, ids)) → next.Calm table) :
    (give table around nested id shortcut edit).Ends scene fun _ reached => reached.Good table := by
  apply Slot.ends_read_bind.mpr
  split
  · rename_i checked
    exact keeps_edit inner h fun next ids => kept next ids checked
  · exact h

theorem keeps_operate [DecidableEq ν] (inner : ∀ operation, Keeps (Good table) (nested operation))
    (operation : CheckedOp ν) : Keeps (Good table) (operate table around nested operation) := by
  intro scene h
  cases operation with
  | set id index shortcut =>
    apply keeps_give inner h
    intro next ids checked made
    obtain ⟨changed, edited, same⟩ := exists_of_map_eq_ok made
    cases same
    exact h.calm.setShortcut edited checked
  | add id shortcut =>
    apply keeps_give inner h
    intro next ids checked made
    obtain ⟨changed, edited, same⟩ := exists_of_map_eq_ok made
    cases same
    exact h.calm.addShortcut edited checked
  | remove id index =>
    apply keeps_edit inner h
    intro next ids made
    obtain ⟨changed, edited, same⟩ := exists_of_map_eq_ok made
    cases same
    exact h.calm.removeShortcut edited
  | unregister id => exact ⟨h.calm.unregister id, h.reported⟩
  | ask query => exact h
  | subscribe member | unsubscribe member => exact ⟨h.calm, h.reported⟩

theorem keeps_perform [DecidableEq ν] (table : ScopeTable)
    (around : RegistrySurroundings τ ν (CheckedOp ν) (RegistryAnswer κ)) :
    ∀ depth operation, Keeps (Good table) (perform table around depth operation) :=
  keeps_nesting fun _ inner operation => keeps_followedBy (keeps_operate inner operation)
    (keeps_modify fun _ h => h.report)

end CheckedScene

/-- Where no conflict is reported, and shortcuts are given to commands only while nothing gets in
the way of them, taken away and commands removed at will: no conflict is reported after any call,
also one that fails and one that a subscriber makes in the middle of a notification. -/
theorem checked_stays_peaceful [DecidableEq ν] (table : ScopeTable)
    (around : RegistrySurroundings τ ν (CheckedOp ν) (RegistryAnswer κ)) (depth : Nat) {α : Type}
    (code : Routine τ (CheckedOp ν) (RegistryAnswer κ) α) (host : τ) (registry : Registry κ)
    (subscribers : Subscribers ν) (reachable : registry.Reachable)
    (unreported : registry.conflicts table = []) :
    (code.run CheckedScene.hostSlot (CheckedScene.perform table around depth)).Ends
      { host, registry, subscribers } fun _ scene =>
        (∀ report ∈ scene.reports, report = []) ∧ scene.registry.conflicts table = [] := by
  have distinct : registry.Distinct := reachable.distinct
  have started : CheckedScene.Good table { host, registry, subscribers } :=
    ⟨⟨distinct, (Registry.peaceful_iff distinct).mpr unreported⟩, by simp⟩
  have kept := CheckedScene.keeps_code (CheckedScene.keeps_perform table around depth) code
  exact (kept _ started).mono fun _ _ good => ⟨good.reported, good.calm.unreported⟩

/-- Nobody hears of anything. -/
def RegistrySurroundings.still :
    RegistrySurroundings Unit Unit (CheckedOp Unit) (RegistryAnswer Unit) where
  call _ _ := .done ()
  log _ host := host
  allowance := 1

/-- Two commands that see each other. -/
def Registry.neighbours : Registry Unit :=
  ofDefinitions [paneCommand "open" "App" "F5", paneCommand "close" "App" "F6"]

/-- A key changes hands. -/
def handover : Routine Unit (CheckedOp Unit) (RegistryAnswer Unit) Unit :=
  .inTurn [.add "close" "F5", .remove "open" (.ofNat 0), .add "close" "F5", .unregister "open"]

theorem handover_stays_peaceful :
    Registry.neighbours.Reachable ∧ Registry.neighbours.conflicts .default = [] ∧
    (handover.run CheckedScene.hostSlot (CheckedScene.perform .default .still 1)).Ends
      { host := (), registry := .neighbours } fun _ scene =>
        (∀ report ∈ scene.reports, report = []) ∧ scene.registry.conflicts .default = [] := by
  have reachable : Registry.neighbours.Reachable := Registry.reachable_of_definitions _ (by decide)
  have unreported : Registry.neighbours.conflicts .default = [] := rfl
  exact ⟨reachable, unreported,
    checked_stays_peaceful .default .still 1 handover () .neighbours {} reachable unreported⟩

/-- The key is refused first and given once it is free. -/
example :
    (match (handover.run CheckedScene.hostSlot (CheckedScene.perform .default .still 1)).run
        { host := (), registry := .neighbours } with
      | .done () scene => some (scene.registry.effective "close", scene.reports.length)
      | _ => none) = some (["F6", "F5"], 4) := by
  decide +kernel

end KeyPrecedence
