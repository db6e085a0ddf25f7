import KeyPrecedence.Proofs.Command.Mirror
import KeyPrecedence.Proofs.Command.Plain
import KeyPrecedence.Proofs.Command.Registry

/-!
# Positions between two shortcuts

A position need not be a whole number. What is refused is only what compares as too small or as too
large, and `nan` does neither.

* `Registry.Reachable.rebind_effective`: a command given the shortcuts it has is left as it is;
* `Registry.setShortcut_fraction`, `Registry.removeShortcut_eq`: what comes of a change at such a
  position;
* `MirrorScene.Refused`: a call that is refused, changes nothing and tells nobody;
* `fractions_refused_iff`: exactly when that is what comes of it, and what does otherwise.
-/

namespace KeyPrecedence

open Act

variable {τ κ ν : Type}

namespace Number

def IsWhole (index : Number) : Prop := ∃ whole : Int, index = .finite whole

theorem isWhole_finite_iff {value : Rat} : (finite value).IsWhole ↔ value.den = 1 := by
  constructor
  · rintro ⟨whole, same⟩
    rw [finite.inj same, Rat.den_intCast]
  · intro whole
    exact ⟨value.num, congrArg finite (Rat.coe_int_num_of_den_eq_one whole).symm⟩

instance : (index : Number) → Decidable index.IsWhole
  | finite _ => decidable_of_iff _ isWhole_finite_iff.symm
  | nan | infinite _ => isFalse nofun

/-- The number lies before the first of so many positions, or behind the last. -/
def isOutside (index : Number) (length : Nat) : Bool :=
  index.lt (.ofNat 0) || (ofNat length).le index

/-- What is written to needs a value besides. -/
theorem within_iff {index : Number} {length : Nat} :
    ((ofNat 0).le index && index.lt (.ofNat length)) = true ↔
      ¬ (index = nan ∨ index.isOutside length = true) := by
  unfold isOutside
  cases index with
  | finite value => simp [ofNat]
  | nan => simp [le, lt]
  | infinite negative => cases negative <;> simp [ofNat, le, lt]

theorem toNat?_of_not_whole {index : Number} (fraction : ¬ index.IsWhole) :
    index.toNat? = none := by
  cases index with
  | finite value =>
    have cut : value.den ≠ 1 := isWhole_finite_iff.not.mp fraction
    simp [toNat?, cut]
  | nan => rfl
  | infinite negative => rfl

end Number

/-! ## What comes of the registry -/

namespace Registry

/-- An override is kept only where it differs from the defaults, so there is nothing to write and
nothing to drop. -/
theorem Represents.rebind_effective {registry : Registry κ} {plain : PlainRegistry κ}
    (h : registry.Represents plain) (id : String) :
    registry.rebind id (registry.effective id) = registry := by
  unfold Registry.rebind
  split
  · rename_i default
    -- An override equal to the defaults would have been dropped.
    have unmodified : registry.overrides.find? id = none := by
      rw [h.effective, h.defaults] at default
      rw [h.overrides]
      cases found : plain.find? id with
      | none => rfl
      | some entry =>
        rw [found] at default
        exact if_pos default
    rw [Table.erase_of_find? unmodified]
  · rename_i differs
    have kept : registry.overrides.find? id = some (registry.effective id) := by
      cases held : registry.overrides.find? id with
      | none => simp [Registry.effective, held] at differs
      | some shortcuts => simp [Registry.effective, held]
    rw [Table.insert_of_find? kept]

theorem Agree.exists_of_ok {registry : Registry κ} {after : Except Fault (PlainRegistry κ)}
    (h : Agree (.ok registry) after) : ∃ plain, registry.Represents plain := by
  cases h with
  | ok represents => exact ⟨_, represents⟩

/-- Every registry of a host stands for one without overrides. -/
theorem Reachable.represents {registry : Registry κ} (h : registry.Reachable) :
    ∃ plain, registry.Represents plain := by
  have revised {registry next : Registry κ} {id : String}
      {change : List String → Except RegistryRefusal (List String)}
      (before : ∃ plain, registry.Represents plain) (made : registry.revise id change = .ok next) :
      ∃ plain, next.Represents plain := by
    obtain ⟨plain, represents⟩ := before
    have agree : Agree (registry.revise id change)
        (plain.change id fun entry => change entry.current) := represents.revise id fun _ => rfl
    rw [made] at agree
    exact agree.exists_of_ok
  induction h with
  | empty => exact ⟨_, represents_empty⟩
  | @register _ _ definition _ _ made ih =>
    obtain ⟨plain, represents⟩ := ih
    have agree := (represents.register definition).1
    rw [made] at agree
    exact agree.exists_of_ok
  | unregister _ id ih =>
    obtain ⟨plain, represents⟩ := ih
    exact ⟨_, represents.unregister id⟩
  | setShortcut _ made ih => exact revised ih made
  | addShortcut _ made ih => exact revised ih made
  | removeShortcut _ made ih => exact revised ih made
  | @resetShortcut _ _ id _ made ih =>
    obtain ⟨plain, represents⟩ := ih
    have agree := represents.reset id
    rw [made] at agree
    exact agree.exists_of_ok
  | resetAll _ ih =>
    obtain ⟨plain, represents⟩ := ih
    exact ⟨_, represents.resetAll⟩

theorem Reachable.rebind_effective {registry : Registry κ} (h : registry.Reachable) (id : String) :
    registry.rebind id (registry.effective id) = registry := by
  obtain ⟨plain, represents⟩ := h.represents
  exact represents.rebind_effective id

variable {registry : Registry κ} {id : String} {index : Number}

/-- Between two positions there is nothing to write to. -/
theorem setAt_fraction (fraction : ¬ index.IsWhole) (current : List String) (shortcut : String) :
    setAt current index shortcut =
      if index = .nan ∨ index.isOutside current.length = true then none else some current := by
  have behind : index ≠ .ofNat current.length := by
    rintro rfl
    exact fraction ⟨current.length, by simp [Number.ofNat]⟩
  unfold setAt
  simp only [Number.within_iff, Number.toNat?_of_not_whole fraction, if_neg behind, ite_not]

/-- A shortcut is set nowhere: the change is refused, or makes no difference. -/
theorem setShortcut_fraction (reachable : registry.Reachable)
    (registered : registry.contains id = true) (fraction : ¬ index.IsWhole) (shortcut : String) :
    registry.setShortcut id index shortcut =
      if index = .nan ∨ index.isOutside (registry.effective id).length = true then
        .error (.registry id (.indexOutOfRange index))
      else .ok registry := by
  unfold setShortcut revise
  simp only [registered, if_true, setAt_fraction fraction]
  by_cases refused : index = .nan ∨ index.isOutside (registry.effective id).length = true
  · simp only [if_pos refused]
  · simp only [if_neg refused, reachable.rebind_effective id]

theorem removeAt_eq (current : List String) (index : Number) :
    removeAt current index =
      if index.isOutside current.length then none
      else some (current.eraseIdx index.truncate.toNat) :=
  rfl

/-- The fraction of a position does not count when a shortcut is removed. -/
theorem removeShortcut_eq (registered : registry.contains id = true) (index : Number) :
    registry.removeShortcut id index =
      if index.isOutside (registry.effective id).length then
        .error (.registry id (.indexOutOfRange index))
      else .ok (registry.rebind id ((registry.effective id).eraseIdx index.truncate.toNat)) := by
  unfold removeShortcut revise
  simp only [registered, if_true, removeAt_eq]
  by_cases outside : index.isOutside (registry.effective id).length
  · simp only [if_pos outside]
  · simp only [if_neg outside]

end Registry

/-! ## What comes of a call -/

namespace MirrorScene

variable (around : RegistrySurroundings τ ν (ShortcutOp ν) (RegistryAnswer κ))
  (nested : ShortcutOp ν → Act (MirrorScene τ κ ν) (RegistryAnswer κ))

/-- A record is logged. -/
def logged (notice : Notice) (scene : MirrorScene τ κ ν) : MirrorScene τ κ ν :=
  { scene with host := around.log notice scene.host }

/-- A call that tells the subscribers of an id and does nothing else. -/
def announcing [DecidableEq ν] (id : String) : Act (MirrorScene τ κ ν) (RegistryAnswer κ) := do
  (store around nested).announce id
  return .nothing

/-- A changed registry is kept and announced, and a refusal is passed on. -/
def conclude [DecidableEq ν] (id : String) (scene : MirrorScene τ κ ν) :
    Except Fault (Registry κ) → Outcome (MirrorScene τ κ ν) (RegistryAnswer κ)
  | .ok registry => (announcing around nested id).run { scene with registry }
  | .error fault => .failed fault scene

/-- The call was refused for its position, no shortcuts have changed, and nobody was told of
anything. -/
def Refused (scene : MirrorScene τ κ ν) (id : String) (index : Number)
    (outcome : Outcome (MirrorScene τ κ ν) (RegistryAnswer κ)) : Prop :=
  ∃ reached, outcome = .failed (.registry id (.indexOutOfRange index)) reached ∧
    reached.registry = scene.registry ∧ reached.told = scene.told

variable [DecidableEq ν] {around nested} {scene : MirrorScene τ κ ν} {id : String} {index : Number}

theorem run_adopt (id : String) (changed : Except Fault (Registry κ)) :
    (do (store around nested).adopt id changed; return .nothing :
      Act (MirrorScene τ κ ν) (RegistryAnswer κ)).run scene =
      conclude around nested id scene changed := by
  cases changed <;> rfl

theorem run_set (registered : scene.registry.contains id = true) (depth : Nat) (index : Number)
    (shortcut : String) :
    (perform around (depth + 1) (.edit (.set id index shortcut))).run scene =
      conclude around (perform around depth) id
        (scene.logged around (.settingShortcut id index shortcut))
        (scene.registry.setShortcut id index shortcut) := by
  have known : ((store around (perform around depth)).registry.get scene).contains id = true :=
    registered
  have noted :
      ((store around (perform around depth)).setShortcut id index shortcut).run scene =
        ((store around (perform around depth)).adopt id
          (scene.registry.setShortcut id index shortcut)).run
          (scene.logged around (.settingShortcut id index shortcut)) := by
    unfold RegistryHost.setShortcut
    rw [run_bind, Slot.run_read]
    simp only [known, if_true]
    rfl
  rw [← run_adopt, run_bind, ← noted]
  rfl

theorem run_remove (id : String) (depth : Nat) (index : Number) :
    (perform around (depth + 1) (.edit (.remove id index))).run scene =
      conclude around (perform around depth) id scene
        (scene.registry.removeShortcut id index) := by
  rw [← run_adopt]
  rfl

/-- What is announced is not refused: those who are told cannot make the call fail. -/
theorem not_refused_announcing (begun : MirrorScene τ κ ν) :
    ¬ scene.Refused id index ((announcing around nested id).run begun) := by
  rintro ⟨reached, failed, -, -⟩
  have told : ((store around nested).announceAll [id]).Ends begun
      fun result _ => result = .ok () :=
    (leads_announceAll_any [id] begun trivial).mono fun _ _ h => h.1
  rw [RegistryHost.announceAll_single] at told
  unfold announcing at failed
  rcases run_bind_eq_failed.mp failed with announced | ⟨_, _, -, answered⟩
  · cases told.of_failed announced
  · cases answered

theorem refused_conclude_iff {refused : Prop} [Decidable refused] {begun : MirrorScene τ κ ν}
    {next : Registry κ} (kept : begun.registry = scene.registry)
    (untold : begun.told = scene.told) :
    scene.Refused id index (conclude around nested id begun
        (if refused then .error (.registry id (.indexOutOfRange index)) else .ok next)) ↔
      refused := by
  by_cases h : refused
  · rw [if_pos h]
    exact iff_of_true ⟨begun, rfl, kept, untold⟩ h
  · rw [if_neg h]
    exact iff_of_false (not_refused_announcing _) h

end MirrorScene

/-- A change at a position that is not a whole number, of the shortcuts of a registered command. It
is refused, with nothing changed and nobody told, when the position is outside; setting a shortcut
is also refused at `nan`, where removing one is not. Whatever else is set changes nothing, and yet
the subscribers are told of a change; and whatever else is removed is the shortcut at the position
without its fraction, the first one at `nan`. -/
theorem fractions_refused_iff [DecidableEq ν]
    (around : RegistrySurroundings τ ν (ShortcutOp ν) (RegistryAnswer κ)) (depth : Nat)
    {scene : MirrorScene τ κ ν} {id : String} {index : Number}
    (reachable : scene.registry.Reachable) (registered : scene.registry.contains id = true)
    (fraction : ¬ index.IsWhole) (shortcut : String) :
    let current := scene.registry.effective id
    let call edit := (MirrorScene.perform around (depth + 1) (.edit edit)).run scene
    let tell := MirrorScene.announcing around (MirrorScene.perform around depth) id
    (scene.Refused id index (call (.set id index shortcut)) ↔
      index = .nan ∨ index.isOutside current.length = true) ∧
    (scene.Refused id index (call (.remove id index)) ↔ index.isOutside current.length = true) ∧
    (¬ (index = .nan ∨ index.isOutside current.length = true) →
      call (.set id index shortcut) =
        tell.run (scene.logged around (.settingShortcut id index shortcut))) ∧
    (¬ index.isOutside current.length = true → ∃ next,
      call (.remove id index) = tell.run { scene with registry := next } ∧
        next.effective id = current.eraseIdx index.truncate.toNat ∧
        ∀ other, other ≠ id → next.effective other = scene.registry.effective other) := by
  intro current call tell
  have set : call (.set id index shortcut) = _ :=
    MirrorScene.run_set registered depth index shortcut
  have remove : call (.remove id index) = _ := MirrorScene.run_remove id depth index
  rw [Registry.setShortcut_fraction reachable registered fraction] at set
  rw [Registry.removeShortcut_eq registered] at remove
  refine ⟨?_, ?_, ?_, ?_⟩
  · rw [set]
    exact MirrorScene.refused_conclude_iff rfl rfl
  · rw [remove]
    exact MirrorScene.refused_conclude_iff rfl rfl
  · intro inside
    rw [set, if_neg inside]
    rfl
  · intro inside
    rw [if_neg inside] at remove
    refine ⟨_, remove, ?_, ?_⟩
    · rw [Registry.effective_rebind, if_pos rfl]
    · intro other apart
      rw [Registry.effective_rebind, if_neg apart.symm]

namespace Halves

/-- A command with one shortcut. -/
def help : Definition Unit :=
  { id := "help", name := "Help", shortcuts := some ["F1"], execute := () }

/-- The only subscriber, besides the one that keeps a copy, does nothing. -/
def quiet : RegistrySurroundings Unit Unit (ShortcutOp Unit) (RegistryAnswer Unit) where
  call _ _ := .done ()
  log _ host := host
  allowance := 3

def start : MirrorScene Unit Unit Unit := .start () { commands := [help.command] } [()]

/-- Half a position. -/
def half : Number := .finite (1 / 2)

/-- Far beyond the only shortcut. -/
def beyond : Number := .finite (5 / 2)

theorem reachable_start : start.registry.Reachable :=
  Registry.reachable_of_definitions [help] (by decide)

theorem beyond_refused :
    (start.registry.Reachable ∧ start.registry.contains "help" = true ∧ ¬ beyond.IsWhole) ∧
    start.Refused "help" beyond
      ((MirrorScene.perform quiet 1 (.edit (.set "help" beyond "F2"))).run start) ∧
    start.Refused "help" beyond
      ((MirrorScene.perform quiet 1 (.edit (.remove "help" beyond))).run start) := by
  have registered : start.registry.contains "help" = true := by decide
  have fraction : ¬ beyond.IsWhole := by decide +kernel
  have outside : beyond.isOutside (start.registry.effective "help").length = true := by
    decide +kernel
  obtain ⟨set, remove, -, -⟩ :=
    fractions_refused_iff quiet 0 reachable_start registered fraction "F2"
  exact ⟨⟨reachable_start, registered, fraction⟩, set.mpr (.inr outside), remove.mpr outside⟩

/-- The shortcuts a call leaves, and who was told of a change, when the call came through. -/
def outcome (edit : ShortcutEdit Number) :
    Option (List String × List (ShortcutReader Unit × String)) :=
  match (MirrorScene.perform quiet 1 (.edit edit)).run start with
  | .done _ scene => some (scene.registry.effective "help", scene.told)
  | _ => none

/-- At half a position, setting a shortcut changes nothing and is announced all the same, and
removing one takes away the only shortcut. -/
theorem half_removes_first :
    (start.registry.Reachable ∧ start.registry.contains "help" = true ∧ ¬ half.IsWhole) ∧
    outcome (.set "help" half "F2") =
      some (["F1"], [(.member (), "help"), (.mirror, "help")]) ∧
    outcome (.remove "help" half) = some ([], [(.member (), "help"), (.mirror, "help")]) := by
  refine ⟨⟨reachable_start, by decide, by decide +kernel⟩, ?_, ?_⟩
  · decide +kernel
  · decide +kernel

end Halves

end KeyPrecedence
