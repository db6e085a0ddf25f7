import KeyPrecedence.Command.Host
import KeyPrecedence.Proofs.Routine
import KeyPrecedence.Proofs.Subscribers

/-!
# Changes of shortcuts

* `ShortcutEdit`: a change, and `Registry.amend`: what becomes of a registry, and who hears of it;
* `Registry.effective_of_amend`: the commands that nobody hears of keep their shortcuts;
* `RegistryHost.edit_eq`, `RegistryHost.ends_edit`: every change is refused, is none, or is kept and
  announced;
* `RegistrySurroundings`: what a registry meets.
-/

namespace KeyPrecedence

/-- A change of shortcuts, at positions given as `ι`. -/
inductive ShortcutEdit (ι : Type)
  | set (id : String) (index : ι) (shortcut : String)
  | add (id shortcut : String)
  | remove (id : String) (index : ι)
  | reset (id : String)
  | resetAll
  deriving DecidableEq

/-- What may be asked of a registry. -/
inductive RegistryQuery
  | list
  | get (id : String)
  | effective (id : String)
  | defaults (id : String)
  | isModified (id : String)
  deriving DecidableEq

inductive RegistryAnswer (κ : Type)
  | nothing
  | command (command : Command κ)
  | found (command : Option (Command κ))
  | commands (commands : List (Command κ))
  | shortcuts (shortcuts : List String)
  | truth (holds : Bool)
  deriving DecidableEq

theorem exists_of_map_eq_ok {α β : Type} {f : α → β} {result : Except Fault α} {value : β}
    (h : result.map f = .ok value) : ∃ given, result = .ok given ∧ f given = value := by
  cases result with
  | error fault => nomatch h
  | ok given => exact ⟨given, rfl, Except.ok.inj h⟩

namespace Registry

variable {κ : Type} (registry : Registry κ)

def answer : RegistryQuery → RegistryAnswer κ
  | .list => .commands registry.commands
  | .get id => .found (registry.get? id)
  | .effective id => .shortcuts (registry.effective id)
  | .defaults id => .shortcuts (registry.defaults id)
  | .isModified id => .truth (registry.isModified id)

/-- The registry after a change, and the ids to be announced. There is nothing when a command that
has its defaults is to have them back. -/
def amend : ShortcutEdit Number → Except Fault (Option (Registry κ × List String))
  | .set id index shortcut =>
    (registry.setShortcut id index shortcut).map fun next => some (next, [id])
  | .add id shortcut => (registry.addShortcut id shortcut).map fun next => some (next, [id])
  | .remove id index => (registry.removeShortcut id index).map fun next => some (next, [id])
  | .reset id => (registry.resetShortcut id).map fun next => next.map fun next => (next, [id])
  | .resetAll => .ok (some (registry.resetAll.2, registry.resetAll.1))

theorem defaults_rebind (id other : String) (shortcuts : List String) :
    (registry.rebind id shortcuts).defaults other = registry.defaults other := by
  unfold rebind
  split <;> rfl

theorem effective_rebind (id other : String) (shortcuts : List String) :
    (registry.rebind id shortcuts).effective other =
      if id = other then shortcuts else registry.effective other := by
  unfold effective
  rw [defaults_rebind]
  unfold rebind
  split
  · rename_i default
    rw [Table.find?_erase]
    by_cases h : id = other
    · subst h
      simp [default]
    · simp [h]
  · rw [Table.find?_insert]
    by_cases h : id = other <;> simp [h]

variable {registry} {next : Registry κ} {id other : String}

theorem effective_of_revise {change : List String → Except RegistryRefusal (List String)}
    (h : registry.revise id change = .ok next) (apart : other ≠ id) :
    next.effective other = registry.effective other := by
  unfold revise at h
  split at h
  · split at h
    · cases h
      rw [effective_rebind, if_neg apart.symm]
    · cases h
  · cases h

theorem effective_of_reset (h : registry.resetShortcut id = .ok (some next)) (apart : other ≠ id) :
    next.effective other = registry.effective other := by
  unfold resetShortcut at h
  split at h
  · split at h
    · cases h
      show ((registry.overrides.erase id).find? other).getD _ = _
      rw [Table.find?_erase, if_neg apart.symm]
      rfl
    · cases h
  · cases h

/-- A command that has its defaults is not changed to have them. -/
theorem amend_reset_ne_some (unmodified : registry.isModified id = false)
    {changed : Registry κ × List String} : registry.amend (.reset id) ≠ .ok (some changed) := by
  intro made
  obtain ⟨reset, hr, some⟩ := exists_of_map_eq_ok made
  obtain ⟨next, rfl, -⟩ := Option.map_eq_some_iff.mp some
  unfold resetShortcut at hr
  split at hr
  · simp [unmodified] at hr
  · cases hr

/-- A command without an override is not among those that lose theirs. -/
theorem effective_of_resetAll (h : other ∉ registry.resetAll.1) :
    registry.resetAll.2.effective other = registry.effective other := by
  have none : registry.overrides.find? other = none := by
    rw [Table.find?, Option.map_eq_none_iff, List.find?_eq_none]
    intro entry hm same
    exact h (List.mem_map.mpr ⟨entry, hm, of_decide_eq_true same⟩)
  rw [effective, effective, none]
  rfl

/-- The commands that are not announced have the shortcuts they had. -/
theorem effective_of_amend {edit : ShortcutEdit Number} {ids : List String}
    (h : registry.amend edit = .ok (some (next, ids))) (unheard : other ∉ ids) :
    next.effective other = registry.effective other := by
  have revised {id : String} {change : List String → Except RegistryRefusal (List String)}
      (h : (registry.revise id change).map (fun next => some (next, [id])) =
        .ok (some (next, ids))) : next.effective other = registry.effective other := by
    obtain ⟨changed, hr, he⟩ := exists_of_map_eq_ok h
    cases he
    exact effective_of_revise hr (by simpa using unheard)
  cases edit with
  | set id index shortcut => exact revised h
  | add id shortcut => exact revised h
  | remove id index => exact revised h
  | reset id =>
    obtain ⟨changed, hr, he⟩ := exists_of_map_eq_ok h
    obtain ⟨changed, rfl, he⟩ := Option.map_eq_some_iff.mp he
    cases he
    exact effective_of_reset hr (by simpa using unheard)
  | resetAll =>
    cases h
    exact effective_of_resetAll unheard

end Registry

/-! ## On a host -/

namespace RegistryHost

variable {σ κ ν : Type} (host : RegistryHost σ κ ν)

def edit : ShortcutEdit Number → Act σ Unit
  | .set id index shortcut => host.setShortcut id index shortcut
  | .add id shortcut => host.addShortcut id shortcut
  | .remove id index => host.removeShortcut id index
  | .reset id => host.resetShortcut id
  | .resetAll => host.resetAll

/-- What is logged of a change before it is made. -/
def mention (registry : Registry κ) : ShortcutEdit Number → Act σ Unit
  | .set id index shortcut =>
    if registry.contains id then host.log (.settingShortcut id index shortcut) else pure ()
  | _ => pure ()

/-- A changed registry is kept, and then every id is announced. -/
def settle : Option (Registry κ × List String) → Act σ Unit
  | none => pure ()
  | some (registry, ids) => do
    host.registry.write registry
    host.announceAll ids

theorem announceAll_single (id : String) : host.announceAll [id] = host.announce id :=
  bind_pure_unit

/-- Every change is refused, is none, or is kept and announced. -/
theorem edit_eq (edit : ShortcutEdit Number) :
    host.edit edit = (do
      let registry ← host.registry.read
      host.mention registry edit
      host.settle (← .ofExcept (registry.amend edit))) := by
  have adopted (id : String) (changed : Except Fault (Registry κ)) :
      host.adopt id changed =
        (Act.ofExcept (changed.map fun next => some (next, [id])) >>= host.settle) := by
    cases changed with
    | error fault => rfl
    | ok next =>
      show (do host.registry.write next; host.announce id) =
        (do host.registry.write next; host.announceAll [id])
      rw [announceAll_single]
  cases edit with
  | set id index shortcut =>
    simp only [RegistryHost.edit, setShortcut, mention, Registry.amend, adopted]
    refine congrArg _ (funext fun registry => ?_)
    split <;> rfl
  | add id shortcut => simp only [RegistryHost.edit, addShortcut, adopted]; rfl
  | remove id index => simp only [RegistryHost.edit, removeShortcut, adopted]; rfl
  | reset id =>
    simp only [RegistryHost.edit, resetShortcut]
    refine congrArg _ (funext fun registry => ?_)
    show _ = Act.ofExcept _ >>= host.settle
    cases hr : registry.resetShortcut id with
    | error fault => simp only [Registry.amend, hr]; rfl
    | ok changed =>
      cases changed with
      | none => simp only [Registry.amend, hr]; rfl
      | some next =>
        show (do host.registry.write next; host.announce id) = _
        simp only [Registry.amend, hr]
        rw [← announceAll_single]
        rfl
  | resetAll => rfl

theorem leads_announce {inv : σ → Prop}
    (called : ∀ member id, Act.Leads inv inv ((host.call member id).guarded fun fault =>
      host.log (.shortcutListenerFailed fault))) (id : String) :
    Act.Leads inv inv (host.announce id) :=
  Subscribers.leads_callAll (fun member => called member id) _

/-- What each call keeps, all announcements keep. -/
theorem leads_announceAll {inv : σ → Prop}
    (called : ∀ member id, Act.Leads inv inv ((host.call member id).guarded fun fault =>
      host.log (.shortcutListenerFailed fault))) (ids : List String) :
    Act.Leads inv inv (host.announceAll ids) := by
  induction ids with
  | nil => exact Act.leads_pure
  | cons id ids ih => exact (host.leads_announce called id).bind ih

/-- A change is refused, or what it comes to is settled, after no more than a record was logged. -/
theorem ends_edit {inv : σ → Prop} {edit : ShortcutEdit Number} {state : σ}
    {post : Except Fault Unit → σ → Prop} (begin : inv state)
    (log : ∀ notice, Act.Leads inv inv (host.log notice))
    (refused : ∀ fault reached, (host.registry.get state).amend edit = .error fault → inv reached →
      post (.error fault) reached)
    (made : ∀ amended reached, (host.registry.get state).amend edit = .ok amended → inv reached →
      (host.settle amended).Ends reached post) : (host.edit edit).Ends state post := by
  have mentioned : Act.Leads inv inv (host.mention (host.registry.get state) edit) := by
    unfold mention
    split
    · split
      · exact log _
      · exact Act.leads_pure
    · exact Act.leads_pure
  rw [edit_eq]
  refine Slot.ends_read_bind.mpr ((mentioned state begin).bind ?_ nofun)
  rintro _ reached ⟨-, hr⟩
  refine Act.ends_ofExcept_bind.mpr ?_
  cases amended : (host.registry.get state).amend edit with
  | error fault => exact refused fault reached amended hr
  | ok amended' => exact made amended' reached amended hr

end RegistryHost

/-- What a registry meets: subscribers, which may do anything of `Op` with it and may fail, and a
log. -/
structure RegistrySurroundings (τ ν Op Ans : Type) where
  call : ν → String → Routine τ Op Ans Unit
  log : Notice → τ → τ
  allowance : Nat

end KeyPrecedence
