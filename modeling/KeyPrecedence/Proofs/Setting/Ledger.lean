import KeyPrecedence.Launch
import KeyPrecedence.Proofs.Routine
import KeyPrecedence.Proofs.Subscribers
import KeyPrecedence.Proofs.Setting.Validity

/-!
# Settings against what was accepted

* `Acceptance.current`: a setting as the changes accepted so far leave it;
* `LedgerScene`: the settings of a host, with these changes, who was told of them, and glimpses of
  what the settings read as;
* `LedgerSurroundings.perform`: an operation, whose listeners may perform further ones and fail;
* `LedgerSurroundings.ends_operate`: an operation is accepted, or nothing comes of it;
* `Launch.run_start_of_offends`: nothing comes of a start with settings that cannot be loaded;
* `settings_as_last_accepted`: any run.
-/

namespace KeyPrecedence

open Act

/-- A change that was accepted: settings were loaded as a whole, or one was set. -/
inductive Acceptance
  | loaded (entries : List (String × Value))
  | changed (id : SettingId) (value : Value)

namespace Acceptance

/-- What was last accepted for a setting, the last change first. What came before settings were
loaded counts no more. -/
def latest (id : SettingId) : List Acceptance → Option Value
  | [] => none
  | loaded entries :: _ => Settings.given id entries
  | changed other value :: earlier => if id = other then some value else latest id earlier

/-- A setting nothing was accepted for has its default. -/
def current (id : SettingId) (accepted : List Acceptance) : Value :=
  (latest id accepted).getD (SettingKey.defined id).default

/-- What accepting a change leaves of the settings. -/
def Leaves (before after : Settings) : Acceptance → Prop
  | loaded entries => ∀ id, after.valueOf id =
      (Settings.given id entries).getD (SettingKey.defined id).default
  | changed id value => ∀ other, after.valueOf other =
      if other = id then value else before.valueOf other

end Acceptance

/-- What may be done with the settings. -/
inductive LedgerOp (ν : Type)
  | load (entries : List (String × Value))
  | set (id : SettingId) (value : Value)
  | reset (id : SettingId)
  | get (id : SettingId)
  | subscribe (listener : ν)
  | unsubscribe (listener : ν)

/-- The change an operation asks for. A setting that is reset is set to its default. -/
def LedgerOp.asked? {ν : Type} : LedgerOp ν → Option Acceptance
  | load entries => some (.loaded entries)
  | set id value => some (.changed id value)
  | reset id => some (.changed id (SettingKey.defined id).default)
  | _ => none

inductive LedgerAnswer
  | nothing
  | value (value : Value)

/-- What every setting reads as, and the changes accepted until then, the last one first. -/
structure LedgerGlimpse where
  readings : List (SettingId × Value)
  accepted : List Acceptance

variable {τ ν : Type}

/-- The settings of a host with state `τ`. The changes that were accepted, the calls of listeners
and the glimpses, each with the last one first, are read by nobody. -/
structure LedgerScene (τ ν : Type) where
  host : τ
  settings : Settings := {}
  subscribers : Subscribers ν := {}
  accepted : List Acceptance := []
  told : List (ν × SettingKey × Value) := []
  glimpses : List LedgerGlimpse := []

namespace LedgerScene

def hostSlot : Slot (LedgerScene τ ν) τ where
  get := host
  set host scene := { scene with host }

def subscribersSlot : Slot (LedgerScene τ ν) (Subscribers ν) where
  get := subscribers
  set subscribers scene := { scene with subscribers }

def settingsSlot : Slot (LedgerScene τ ν) Settings where
  get := settings
  set settings scene := { scene with settings }

/-- The settings as a change is accepted. -/
def acceptSlot (acceptance : Acceptance) : Slot (LedgerScene τ ν) Settings where
  get := settings
  set settings scene := { scene with settings, accepted := acceptance :: scene.accepted }

end LedgerScene

/-- What the settings meet: listeners, which may do anything with the settings and may fail, and
records that are written. -/
structure LedgerSurroundings (τ ν : Type) where
  call : ν → SettingKey → Value → Routine τ (LedgerOp ν) LedgerAnswer Unit
  log : Notice → τ → τ
  allowance : Nat

namespace LedgerSurroundings

variable [DecidableEq ν] (around : LedgerSurroundings τ ν)
  (nested : LedgerOp ν → Act (LedgerScene τ ν) LedgerAnswer)

def write (notice : Notice) : Act (LedgerScene τ ν) Unit :=
  LedgerScene.hostSlot.update (around.log notice)

/-- The settings where listeners perform operations by `nested`. -/
def store (settings : Slot (LedgerScene τ ν) Settings) : SettingsHost (LedgerScene τ ν) ν where
  settings := settings
  subscribers := LedgerScene.subscribersSlot
  call listener key value := do
    modify fun scene => { scene with told := (listener, key, value) :: scene.told }
    (around.call listener key value).run LedgerScene.hostSlot nested
  log := around.write
  allowance := around.allowance

def operate : LedgerOp ν → Act (LedgerScene τ ν) LedgerAnswer
  | .load entries => do
    (around.store nested (LedgerScene.acceptSlot (.loaded entries))).load entries
    return .nothing
  | .set id value => do
    (around.store nested (LedgerScene.acceptSlot (.changed id value))).set id.name value
    return .nothing
  | .reset id => do
    let accepting := LedgerScene.acceptSlot (.changed id (SettingKey.defined id).default)
    (around.store nested accepting).reset id.name
    return .nothing
  | .get id => do return .value (← (around.store nested LedgerScene.settingsSlot).get id.name)
  | .subscribe listener => do
    LedgerScene.subscribersSlot.update (·.add listener)
    return .nothing
  | .unsubscribe listener => do
    LedgerScene.subscribersSlot.update (·.remove listener)
    return .nothing

/-- Every setting is read. -/
def survey : Act (LedgerScene τ ν) Unit := do
  let readings ← SettingId.all.mapM fun id => do
    return (id, ← (around.store nested LedgerScene.settingsSlot).get id.name)
  modify fun scene => { scene with glimpses := ⟨readings, scene.accepted⟩ :: scene.glimpses }

/-- Performs an operation, where listeners may perform further ones so many deep. The settings are
read after each, also when it failed. -/
def perform : Nat → LedgerOp ν → Act (LedgerScene τ ν) LedgerAnswer :=
  Act.nesting fun nested operation =>
    (around.operate nested operation).followedBy (around.survey nested)

theorem perform_succ (depth : Nat) (operation : LedgerOp ν) :
    around.perform (depth + 1) operation =
      (around.operate (around.perform depth) operation).followedBy
        (around.survey (around.perform depth)) :=
  rfl

end LedgerSurroundings

/-! ## The settings read as they should -/

/-- Every setting reads as what was last accepted for it, and that is valid. -/
def LedgerGlimpse.Truthful (glimpse : LedgerGlimpse) : Prop :=
  glimpse.readings = SettingId.all.map (fun id => (id, Acceptance.current id glimpse.accepted)) ∧
    ∀ reading ∈ glimpse.readings, validate (.defined reading.1) reading.2 = .ok ()

namespace LedgerScene

def glimpse (scene : LedgerScene τ ν) : LedgerGlimpse :=
  ⟨SettingId.all.map fun id => (id, scene.settings.valueOf id), scene.accepted⟩

structure Good (scene : LedgerScene τ ν) : Prop where
  current : ∀ id, scene.settings.valueOf id = Acceptance.current id scene.accepted
  truthful : ∀ glimpse ∈ scene.glimpses, glimpse.Truthful

theorem Good.glimpse {scene : LedgerScene τ ν} (h : scene.Good) : scene.glimpse.Truthful := by
  constructor
  · simp only [LedgerScene.glimpse, h.current]
  · intro reading hm
    obtain ⟨id, -, rfl⟩ := List.mem_map.mp hm
    exact validate_ok_iff.mpr (Settings.fits_valueOf scene.settings id)

/-- A condition that lasts, whatever is done with the settings. -/
structure Lasting (inv : LedgerScene τ ν → Prop) : Prop where
  frame : ∀ {scene}, inv scene → ∀ host subscribers told, inv { scene with host, subscribers, told }
  survey : ∀ {scene}, inv scene → inv { scene with glimpses := scene.glimpse :: scene.glimpses }
  accept : ∀ {scene acceptance settings}, inv scene → acceptance.Leaves scene.settings settings →
    inv ((acceptSlot acceptance).set settings scene)

theorem lasting_good : Lasting (Good : LedgerScene τ ν → Prop) where
  frame h _ _ _ := ⟨h.current, h.truthful⟩
  survey h := by
    refine ⟨h.current, fun glimpse hm => ?_⟩
    obtain rfl | hm := List.mem_cons.mp hm
    · exact h.glimpse
    · exact h.truthful glimpse hm
  accept {scene acceptance settings} h leaves := by
    refine ⟨fun id => ?_, h.truthful⟩
    cases acceptance with
    | loaded entries => exact leaves id
    | changed other value =>
      refine (leaves id).trans ?_
      by_cases own : id = other
      · simp [acceptSlot, Acceptance.current, Acceptance.latest, own]
      · simpa [acceptSlot, Acceptance.current, Acceptance.latest, own] using h.current id

/-- What was accepted stays on record. -/
theorem lasting_accepted (record : List Acceptance) :
    Lasting fun scene : LedgerScene τ ν => record <:+ scene.accepted where
  frame h _ _ _ := h
  survey h := h
  accept h _ := h.trans (List.suffix_cons _ _)

end LedgerScene

theorem SettingKey.named_name {σ : Type} (id : SettingId) :
    (SettingKey.named id.name : Act σ SettingKey) = pure (.defined id) := by
  cases id <;> rfl

namespace SettingsHost

variable {σ : Type} (host : SettingsHost σ ν) {entries : List (String × Value)}

theorem run_load_of_offends (offends : ∃ entry ∈ entries, Settings.Offends entry) (state : σ) :
    ∃ fault, Settings.FirstOffence entries fault ∧
      (host.load entries).run state = .failed fault state := by
  obtain ⟨fault, first, load⟩ := Settings.load_of_offends offends
  refine ⟨fault, first, ?_⟩
  unfold SettingsHost.load
  rw [load]
  rfl

end SettingsHost

namespace LedgerSurroundings

variable {around : LedgerSurroundings τ ν}
  {nested : LedgerOp ν → Act (LedgerScene τ ν) LedgerAnswer}
  {slot : Slot (LedgerScene τ ν) Settings} {scene : LedgerScene τ ν}
  {inv : LedgerScene τ ν → Prop}

/-! ### What an operation does -/

/-- Telling everybody of a change does not fail. -/
theorem leads_announce (lasting : LedgerScene.Lasting inv)
    (inner : ∀ operation, Keeps inv (nested operation)) (key : SettingKey) (value : Value) :
    Leads inv inv ((around.store nested slot).announce key value) := by
  apply Subscribers.leads_callAll
  intro listener
  apply leads_guarded
  · intro scene h
    have code : Keeps inv ((around.call listener key value).run LedgerScene.hostSlot nested) :=
      Routine.keeps_run (fun host scene h => lasting.frame h host _ _) inner _
    exact code _ (lasting.frame h _ _ _)
  · intro fault scene h
    exact ⟨rfl, lasting.frame h _ _ _⟩

theorem run_survey (scene : LedgerScene τ ν) :
    (around.survey nested).run scene =
      .done () { scene with glimpses := scene.glimpse :: scene.glimpses } :=
  rfl

theorem run_load_of_clean (around : LedgerSurroundings τ ν)
    (nested : LedgerOp ν → Act (LedgerScene τ ν) LedgerAnswer) {entries : List (String × Value)}
    (clean : ∀ entry ∈ entries, ¬ Settings.Offends entry) (scene : LedgerScene τ ν) :
    ∃ settings host, (Acceptance.loaded entries).Leaves scene.settings settings ∧
      ((around.store nested (LedgerScene.acceptSlot (.loaded entries))).load entries).run scene =
        .done () { (LedgerScene.acceptSlot (.loaded entries)).set settings scene with host } := by
  obtain ⟨⟨settings, count⟩, load, values⟩ := Settings.load_of_clean clean
  refine ⟨settings, around.log (.settingsLoaded count) scene.host, values, ?_⟩
  unfold SettingsHost.load
  rw [load]
  rfl

/-- A change came about, or nothing did. -/
def Settled (inv : LedgerScene τ ν → Prop) (scene : LedgerScene τ ν) {α : Type} :
    Except Fault α → LedgerScene τ ν → Prop
  | .ok _, reached => inv reached
  | .error _, reached => ∃ host, reached = { scene with host }

theorem ends_load (lasting : LedgerScene.Lasting inv) {entries : List (String × Value)}
    (accepts : ∀ settings, (Acceptance.loaded entries).Leaves scene.settings settings →
      inv ((LedgerScene.acceptSlot (.loaded entries)).set settings scene)) :
    ((around.store nested (LedgerScene.acceptSlot (.loaded entries))).load entries).Ends
      scene (Settled inv scene) := by
  unfold Ends
  by_cases offends : ∃ entry ∈ entries, Settings.Offends entry
  · obtain ⟨fault, -, run⟩ := SettingsHost.run_load_of_offends
      (around.store nested (LedgerScene.acceptSlot (.loaded entries))) offends scene
    rw [run]
    exact ⟨scene.host, rfl⟩
  · have clean : ∀ entry ∈ entries, ¬ Settings.Offends entry :=
      fun entry hm hf => offends ⟨entry, hm, hf⟩
    obtain ⟨settings, host, leaves, run⟩ := run_load_of_clean around nested clean scene
    rw [run]
    exact lasting.frame (accepts settings leaves) host _ _

/-- A setting is changed and everybody told, or its value is refused. -/
theorem ends_set (lasting : LedgerScene.Lasting inv)
    (inner : ∀ operation, Keeps inv (nested operation)) {id : SettingId} {value : Value}
    (accepts : ∀ settings, (Acceptance.changed id value).Leaves scene.settings settings →
      inv ((LedgerScene.acceptSlot (.changed id value)).set settings scene)) :
    ((around.store nested (LedgerScene.acceptSlot (.changed id value))).set id.name value).Ends
      scene (Settled inv scene) := by
  let slot : Slot (LedgerScene τ ν) Settings := LedgerScene.acceptSlot (.changed id value)
  -- Whether the value was logged makes a difference to the host only.
  have applied (host : τ) : (do
      let settings ← .ofExcept ((← slot.read).put (.defined id) value)
      slot.write settings
      (around.store nested slot).announce (.defined id) value : Act (LedgerScene τ ν) Unit).Ends
        { scene with host } (Settled inv scene) := by
    refine Slot.ends_read_bind.mpr ?_
    show Ends (.ofExcept (scene.settings.put (.defined id) value) >>= _) _ _
    by_cases fits : id.Fits value
    · obtain ⟨changed, put, values⟩ := Settings.put_of_fits scene.settings fits
      rw [put]
      refine ends_ofExcept_bind.mpr (Slot.ends_write_bind.mpr ?_)
      have accepted := lasting.frame (accepts changed values) host scene.subscribers scene.told
      refine (leads_announce lasting inner _ _ _ accepted).mono ?_
      rintro _ reached ⟨rfl, h⟩
      exact h
    · obtain ⟨refusal, put⟩ := Settings.put_of_not_fits fits
      rw [put]
      exact ⟨host, rfl⟩
  unfold SettingsHost.set
  rw [SettingKey.named_name]
  simp only [pure_bind]
  cases value.text? with
  | none => exact applied scene.host
  | some text => exact applied _

variable [DecidableEq ν]

/-- An operation that asks for a change. -/
theorem ends_operate (lasting : LedgerScene.Lasting inv)
    (inner : ∀ operation, Keeps inv (nested operation)) {operation : LedgerOp ν}
    {acceptance : Acceptance} (asked : operation.asked? = some acceptance)
    (accepts : ∀ settings, acceptance.Leaves scene.settings settings →
      inv ((LedgerScene.acceptSlot acceptance).set settings scene)) :
    (around.operate nested operation).Ends scene (Settled inv scene) := by
  have answered {act : Act (LedgerScene τ ν) Unit} (h : act.Ends scene (Settled inv scene)) :
      (do act; return LedgerAnswer.nothing : Act (LedgerScene τ ν) LedgerAnswer).Ends scene
        (Settled inv scene) :=
    h.bind (fun _ _ h => h) fun _ _ h => h
  cases operation with
  | load entries =>
    cases asked
    exact answered (ends_load lasting accepts)
  | set id value =>
    cases asked
    exact answered (ends_set lasting inner accepts)
  | reset id =>
    cases asked
    refine answered ?_
    unfold SettingsHost.reset
    rw [SettingKey.named_name, pure_bind]
    exact ends_set lasting inner accepts
  | get | subscribe | unsubscribe => nomatch asked

/-- Any other operation does not fail. -/
theorem ends_operate_unasked (lasting : LedgerScene.Lasting inv) {operation : LedgerOp ν}
    (unasked : operation.asked? = none) (h : inv scene) :
    (around.operate nested operation).Ends scene (Settled inv scene) := by
  cases operation with
  | load | set | reset => nomatch unasked
  | get id =>
    have run : (around.operate nested (.get id)).run scene =
        .done (.value (scene.settings.valueOf id)) scene := by
      cases id <;> rfl
    unfold Ends
    rw [run]
    exact h
  | subscribe listener => exact lasting.frame h _ _ _
  | unsubscribe listener => exact lasting.frame h _ _ _

theorem keeps_operate (lasting : LedgerScene.Lasting inv)
    (inner : ∀ operation, Keeps inv (nested operation)) (operation : LedgerOp ν) :
    Keeps inv (around.operate nested operation) := by
  intro scene h
  have settled : (around.operate nested operation).Ends scene (Settled inv scene) := by
    cases asked : operation.asked? with
    | some acceptance => exact ends_operate lasting inner asked fun _ => lasting.accept h
    | none => exact ends_operate_unasked lasting asked h
  refine settled.mono ?_
  rintro (fault | answer) reached settled
  · obtain ⟨host, rfl⟩ := settled
    exact lasting.frame h host _ _
  · exact settled

theorem keeps_perform (around : LedgerSurroundings τ ν) (lasting : LedgerScene.Lasting inv) :
    ∀ depth operation, Keeps inv (around.perform depth operation) :=
  keeps_nesting fun _ inner operation =>
    keeps_followedBy (keeps_operate lasting inner operation) fun _ h => lasting.survey h

/-- A change that is asked for goes on record, or the settings stay and nobody is told anything. -/
theorem ends_perform (around : LedgerSurroundings τ ν) (depth : Nat) (operation : LedgerOp ν)
    (scene : LedgerScene τ ν) :
    (around.perform depth operation).Ends scene fun result reached => match result with
      | .ok _ => operation.asked?.toList ++ scene.accepted <:+ reached.accepted
      | .error _ => reached.settings = scene.settings ∧ reached.told = scene.told ∧
          reached.accepted = scene.accepted := by
  cases depth with
  | zero => trivial
  | succ depth =>
    have lasting := LedgerScene.lasting_accepted (τ := τ) (ν := ν)
      (operation.asked?.toList ++ scene.accepted)
    have inner := keeps_perform around lasting depth
    have settled : (around.operate (around.perform depth) operation).Ends scene
        (Settled (fun reached => operation.asked?.toList ++ scene.accepted <:+ reached.accepted)
          scene) := by
      cases asked : operation.asked? with
      | some acceptance =>
        rw [asked] at lasting inner
        exact ends_operate lasting inner asked fun _ _ => List.suffix_rfl
      | none =>
        rw [asked] at lasting
        exact ends_operate_unasked lasting asked List.suffix_rfl
    refine ends_attempt_bind.mpr (settled.mono ?_)
    rintro (fault | answer) reached settled
    · obtain ⟨host, rfl⟩ := settled
      exact ⟨rfl, rfl, rfl⟩
    · exact settled

/-- Loading settings as a whole is refused for the first entry that offends, or goes through. -/
theorem run_perform_load (around : LedgerSurroundings τ ν) (depth : Nat)
    (entries : List (String × Value)) (scene : LedgerScene τ ν) :
    match (around.perform (depth + 1) (.load entries)).run scene with
    | .done _ _ => ∀ entry ∈ entries, ¬ Settings.Offends entry
    | .failed fault _ => Settings.FirstOffence entries fault
    | .exhausted => False := by
  by_cases offends : ∃ entry ∈ entries, Settings.Offends entry
  · obtain ⟨fault, first, run⟩ := SettingsHost.run_load_of_offends
      (around.store (around.perform depth) (LedgerScene.acceptSlot (.loaded entries))) offends scene
    simp only [perform_succ, followedBy, operate, run_bind, run_attempt, run, run_survey]
    exact first
  · have clean : ∀ entry ∈ entries, ¬ Settings.Offends entry :=
      fun entry hm hf => offends ⟨entry, hm, hf⟩
    obtain ⟨settings, host, -, run⟩ := run_load_of_clean around (around.perform depth) clean scene
    simp only [perform_succ, followedBy, operate, run_bind, run_attempt, run, run_survey]
    exact clean

end LedgerSurroundings

/-- A host is not started with settings that cannot be loaded, and stays as it was. -/
theorem Launch.run_start_of_offends {σ δ : Type} [DecidableEq ν] [DecidableEq δ]
    (launch : Launch σ ν δ) {entries : List (String × Value)} (make : Act σ δ) (pipeline : String)
    (offends : ∃ entry ∈ entries, Settings.Offends entry) (state : σ) :
    ∃ fault, Settings.FirstOffence entries fault ∧
      (launch.start entries make pipeline).run state = .failed fault state := by
  obtain ⟨fault, first, run⟩ := launch.settings.run_load_of_offends offends state
  refine ⟨fault, first, ?_⟩
  unfold Launch.start
  rw [run_bind, run]

/-- Whatever is done with the settings, with any values, whatever listeners do meanwhile and whether
they fail or not: after every call every setting reads as what was last accepted for it since
settings were last loaded as a whole, or as its default, and that is valid. A call that fails leaves
the settings as they were, tells nobody, and is not on record as accepted; one that does not is on
record. Loading settings as a whole fails exactly when an entry offends, and names the first that
does. With such entries a host is not started either, and nothing about it changes. -/
theorem settings_as_last_accepted [DecidableEq ν] (around : LedgerSurroundings τ ν) (depth : Nat) :
    (∀ {α : Type} (code : Routine τ (LedgerOp ν) LedgerAnswer α) (host : τ),
      (code.run LedgerScene.hostSlot (around.perform depth)).Ends { host } fun _ scene =>
        ∀ glimpse ∈ scene.glimpses, glimpse.Truthful) ∧
    (∀ (operation : LedgerOp ν) (scene : LedgerScene τ ν),
      (around.perform depth operation).Ends scene fun result reached => match result with
        | .ok _ => operation.asked?.toList ++ scene.accepted <:+ reached.accepted
        | .error _ => reached.settings = scene.settings ∧ reached.told = scene.told ∧
            reached.accepted = scene.accepted) ∧
    (∀ (entries : List (String × Value)) (scene : LedgerScene τ ν),
      match (around.perform (depth + 1) (.load entries)).run scene with
      | .done _ _ => ∀ entry ∈ entries, ¬ Settings.Offends entry
      | .failed fault _ => Settings.FirstOffence entries fault
      | .exhausted => False) ∧
    (∀ (σ μ δ : Type) [DecidableEq μ] [DecidableEq δ] (launch : Launch σ μ δ)
      (entries : List (String × Value)) (make : Act σ δ) (pipeline : String) (state : σ),
      (∃ entry ∈ entries, Settings.Offends entry) →
        ∃ fault, Settings.FirstOffence entries fault ∧
          (launch.start entries make pipeline).run state = .failed fault state) := by
  refine ⟨fun code host => ?_, fun operation scene => ?_, ?_, ?_⟩
  · have initial : LedgerScene.Good ({ host } : LedgerScene τ ν) := by
      refine ⟨fun id => rfl, fun _ hm => nomatch hm⟩
    have kept := LedgerSurroundings.keeps_perform around LedgerScene.lasting_good depth
    have run : Act.Keeps LedgerScene.Good (code.run LedgerScene.hostSlot (around.perform depth)) :=
      Routine.keeps_run (fun host scene h => LedgerScene.lasting_good.frame h host _ _) kept code
    exact (run _ initial).mono fun _ _ h => h.truthful
  · exact LedgerSurroundings.ends_perform around depth operation scene
  · exact LedgerSurroundings.run_perform_load around depth
  · intro σ μ δ _ _ launch entries make pipeline state offends
    exact launch.run_start_of_offends make pipeline offends state

/-! A host where a listener wants to hear of commands that are not available. -/

namespace Contrary

/-- Whoever switches this off meets with a failure and finds it on again. -/
def call : SettingKey → Value → Routine Unit (LedgerOp Unit) LedgerAnswer Unit
  | .defined .notEnabledFeedback, .bool false =>
    .perform (.reset .notEnabledFeedback) fun _ => .failed (.raised "")
  | _, _ => .done ()

def surroundings : LedgerSurroundings Unit Unit where
  call _ := call
  log _ host := host
  allowance := 5

/-- A name that is none of a setting comes after an entry that is fine. -/
def misnamed : List (String × Value) :=
  [(SettingId.verboseLogging.name, .bool true), (Value.textField, .missing), ("colour", .null)]

def operations : List (LedgerOp Unit) :=
  [.load [(SettingId.notEnabledToastDuration.name, .number (.finite 2000))], .subscribe (),
    .set .notEnabledFeedback (.bool false), .set .notEnabledToastDuration (.number .nan),
    .load misnamed]

/-- How often settings were read and somebody was told, and what the settings are in the end. -/
def seen : Outcome (LedgerScene Unit Unit) Unit → Option (Nat × Nat × Bool × Rat × Bool)
  | .done () { glimpses, told, settings, .. } =>
    some (glimpses.length, told.length, settings.notEnabledFeedback,
      settings.notEnabledToastDuration.ms, settings.verboseLogging)
  | _ => none

/-- The switch is overruled, and what cannot be accepted leaves no trace. -/
example : seen (((Routine.inTurn operations).run LedgerScene.hostSlot (surroundings.perform 3)).run
    { host := () }) = some (6, 2, true, 2000, false) := by
  decide +kernel

end Contrary
end KeyPrecedence
