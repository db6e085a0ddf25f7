import KeyPrecedence.Proofs.Setting.Round

/-!
# The logger in step with verbose logging

* `Settings.put_verboseLogging`, `Settings.verboseLogging_put`: what a changed setting means for it;
* `SettingsSurroundings.ends_announce`: announcing it brings the logger in step;
* `SettingsSurroundings.respectful_perform`: operations leave the logger in step, with all that
  listeners do meanwhile;
* `logger_follows_setting`: so it is after any run.
-/

namespace KeyPrecedence

open Act

/-! ## Changing a setting -/

namespace Settings

variable {settings changed : Settings} {value : Value}

theorem put_verboseLogging (h : settings.put (.defined .verboseLogging) value = .ok changed) :
    ∃ on, value = .bool on ∧ changed = { settings with verboseLogging := on } := by
  cases value with
  | bool on =>
    cases h
    exact ⟨on, rfl, rfl⟩
  | _ => nomatch h

theorem verboseLogging_put {key : SettingKey} (h : settings.put key value = .ok changed)
    (other : key ≠ .defined .verboseLogging) :
    changed.verboseLogging = settings.verboseLogging := by
  have accepted {α : Type} {read : Except SettingRefusal α} {use : α → Settings}
      (h : (read.map use).mapError (Fault.setting key.name) = .ok changed) :
      ∃ result, use result = changed := by
    cases read with
    | error refusal => nomatch h
    | ok result => exact ⟨result, Except.ok.inj h⟩
  cases key with
  | inherited name =>
    obtain ⟨ms, rfl⟩ := accepted h
    rfl
  | defined id =>
    cases id with
    | verboseLogging => exact absurd rfl other
    | notEnabledFeedback | notEnabledToastDuration =>
      obtain ⟨result, rfl⟩ := accepted h
      rfl

end Settings

variable {τ ν δ : Type}

/-! ## Operations -/

namespace SettingsSurroundings

open SettingsScene

variable {around : SettingsSurroundings τ ν δ}
  {nested : SettingsOp ν → Act (SettingsScene τ ν δ) (SettingsAnswer δ)}
  {slot : Slot (SettingsScene τ ν δ) Settings}

/-- Operations that keep all that lasts. -/
def Respectful (nested : SettingsOp ν → Act (SettingsScene τ ν δ) (SettingsAnswer δ)) : Prop :=
  ∀ facet operation, Keeps (Holds · facet) (nested operation)

theorem keeps_write (facet : Facet) (notice : Notice) :
    Keeps (Holds · facet) (around.write notice) :=
  keeps_modify fun _ h => h.frame _ _ rfl

theorem keeps_code (inner : Respectful nested) (facet : Facet) {α : Type}
    (code : Routine τ (SettingsOp ν) (SettingsAnswer δ) α) :
    Keeps (Holds · facet) (code.run hostSlot nested) :=
  Routine.keeps_run (fun _ _ h => h.frame _ _ rfl) (inner facet) code

/-- A part of the host that is not looked at here. -/
theorem keeps_host (facet : Facet) {α : Type} (act : Act τ α) :
    Keeps (Holds · facet) ((hostSlot : Slot (SettingsScene τ ν δ) τ).act act) := by
  intro scene h
  refine (Slot.ends_act _ _ scene).mono ?_
  rintro _ _ ⟨host, rfl⟩
  exact h.frame host _ rfl

/-- Installing a dispatcher tells nobody. -/
theorem keeps_install (facet : Facet) (pipeline : String) :
    Keeps (fun scene : SettingsScene τ ν δ => scene.Holds facet ∧ scene.Followed)
      (Installation.install installationSlot around.write (hostSlot.act around.make) pipeline) := by
  have write (notice : Notice) :
      Keeps (fun scene => scene.Holds facet ∧ scene.Followed) (around.write notice) :=
    keeps_modify fun _ h => ⟨h.1.frame _ _ rfl, h.2⟩
  refine keeps_bind Slot.keeps_read fun installation => ?_
  split
  · exact keeps_bind (write _) fun _ => keeps_pure _
  · refine keeps_bind (fun scene h => ?_) fun dispatcher => ?_
    · refine (Slot.ends_act _ _ scene).mono ?_
      rintro _ _ ⟨host, rfl⟩
      exact ⟨h.1.frame host _ rfl, h.2⟩
    · refine keeps_bind (fun scene h => ⟨h.1.frame _ _ rfl, h.2⟩) fun _ => ?_
      exact keeps_bind (write _) fun _ => keeps_pure _

theorem keeps_uninstall [DecidableEq δ] (facet : Facet) :
    Keeps (Holds · facet) (Installation.uninstall installationSlot around.write fun dispatcher =>
      hostSlot.act (around.reset dispatcher)) := by
  refine keeps_bind Slot.keeps_read fun installation => ?_
  split
  · exact keeps_pure _
  · refine keeps_bind (fun scene h => h.frame _ _ rfl) fun _ => ?_
    refine keeps_bind (keeps_host facet _) fun _ => ?_
    refine keeps_bind (fun scene h => h.frame _ _ rfl) fun _ => ?_
    exact keeps_write facet _

variable [DecidableEq ν]

/-- A reader that is told of a setting. Whether the logger is in step is another matter while it is
verbose logging that changes. -/
theorem keeps_call (inner : Respectful nested) (facet : Facet) (reader : SettingsReader ν)
    (key : SettingKey) (value : Value)
    (other : facet = .inStep → key ≠ .defined .verboseLogging) :
    Keeps (Holds · facet) ((around.store nested slot).call reader key value) := by
  cases reader with
  | follower =>
    have switched (on : Bool) (verbose : key = .defined .verboseLogging) :
        Keeps (Holds · facet) (around.verbosity.switch on) :=
      keeps_modify fun _ h => h.switch (fun he => other he verbose) on
    show Keeps _ (around.verbosity.heed key value)
    unfold Verbosity.heed
    cases value.text? with
    | none =>
      split
      · exact switched _ rfl
      · exact keeps_pure _
    | some text =>
      refine keeps_bind (keeps_write facet _) fun _ => ?_
      split
      · exact switched _ rfl
      · exact keeps_pure _
  | listener listener =>
    exact fun scene h => keeps_followedBy (keeps_code inner facet _)
      (keeps_modify fun _ h => h.told other) scene h

theorem keeps_announce (inner : Respectful nested) (facet : Facet) (key : SettingKey) (value : Value)
    (other : facet = .inStep → key ≠ .defined .verboseLogging) :
    Keeps (Holds · facet) ((around.store nested slot).announce key value) :=
  Subscribers.keeps_callAll (fun reader =>
    keeps_guarded (keeps_call inner facet reader key value other) fun _ => keeps_write facet _) _

/-! ### A change of verbose logging -/

/-- One turn of the round. -/
theorem ends_turn (inner : Respectful nested) {on : Bool}
    {last ticket : Nat} {reader : SettingsReader ν} {scene : SettingsScene τ ν δ}
    (round : scene.Round on last)
    (next : scene.subscribers.after last = some (ticket, reader)) :
    (((around.store nested slot).call reader (.defined .verboseLogging) (.bool on)).guarded
      fun fault => around.write (.settingListenerFailed fault)).Ends scene
        fun result reached => result = .ok () ∧ reached.Round on ticket := by
  refine ends_guarded ?_ fun _ _ round => ⟨rfl, round.write _⟩
  cases reader with
  | follower => exact (round.write _).switch next
  | listener listener =>
    have ticketed : scene.subscribers.ticketOf (.listener listener) = ticket :=
      round.sound.ordered.ticketOf_eq (Subscribers.mem_of_after next)
    -- The listener may do anything, so it is only known what all operations keep.
    have ran : ((around.call listener (.defined .verboseLogging) (.bool on)).run hostSlot
        nested).Ends scene fun _ reached =>
          reached.Holds (.due ticket) ∨ reached.Holds .inStep := by
      obtain due | step := round.due_or_inStep next
      · exact (keeps_code inner _ _ scene due).mono fun _ _ h => .inl h
      · exact (keeps_code inner _ _ scene step).mono fun _ _ h => .inr h
    refine ends_get_bind.mpr (ends_attempt_bind.mpr (ran.mono fun result reached h => ?_))
    refine ends_modify_bind.mpr (ends_ofExcept.mpr ?_)
    rw [ticketed]
    exact Round.told h

theorem ends_round (inner : Respectful nested) {on : Bool} :
    ∀ allowance {last : Nat} {scene : SettingsScene τ ν δ}, scene.Round on last →
      (Subscribers.callFrom subscribersSlot (fun reader =>
        ((around.store nested slot).call reader (.defined .verboseLogging) (.bool on)).guarded
          fun fault => around.write (.settingListenerFailed fault)) allowance last).Ends scene
        fun _ reached => reached.Holds .inStep
  | 0, _, _, _ => trivial
  | allowance + 1, last, scene, round => by
    refine Slot.ends_read_bind.mpr ?_
    split
    · rename_i ended
      exact round.inStep ended
    · rename_i next
      refine (ends_turn inner round next).bind (fun _ _ h => ends_round inner allowance h.2) ?_
      exact fun _ _ h => nomatch h.1

/-- Announcing verbose logging brings the logger in step, wherever it was. -/
theorem ends_announce (inner : Respectful nested)
    {on : Bool} {scene : SettingsScene τ ν δ} (sound : scene.Sound)
    (announced : scene.announced = on) :
    ((around.store nested slot).announce (.defined .verboseLogging) (.bool on)).Ends scene
      fun _ reached => reached.Holds .inStep :=
  ends_round inner _ (sound.round announced)

/-! ### Each operation -/

/-- A setting is changed under its name and announced. -/
theorem keeps_set (inner : Respectful nested)
    (facet : Facet) (name : String) (value : Value) :
    Keeps (Holds · facet) ((around.store nested (changeSlot name)).set name value) := by
  have applied : Keeps (Holds · facet) (do
      let key ← SettingKey.named name
      let settings ← .ofExcept ((← (changeSlot name).read).put key value)
      (changeSlot name).write settings
      (around.store nested (changeSlot name)).announce key value) := by
    intro scene h
    unfold SettingKey.named
    cases hk : SettingKey.ofName? name with
    | none => exact h
    | some key =>
      rw [pure_bind]
      refine Slot.ends_read_bind.mpr (ends_ofExcept_bind.mpr ?_)
      split
      · rename_i settings accepted
        refine Slot.ends_write_bind.mpr ?_
        by_cases verbose : key = .defined .verboseLogging
        · subst verbose
          obtain ⟨on, rfl, rfl⟩ := Settings.put_verboseLogging accepted
          rw [show (changeSlot name).set _ scene = announce { scene with settings := _ } from
            if_pos hk]
          have sound : Sound (announce { scene with
              settings := { scene.settings with verboseLogging := on } }) :=
            ⟨h.sound.ordered, h.sound.ready, h.sound.followed, fun _ => rfl⟩
          cases facet with
          | inStep => exact ends_announce inner sound rfl
          | sound => exact keeps_announce inner .sound _ _ nofun _ sound
          | inForce => exact keeps_announce inner .inForce _ _ nofun _ ⟨sound, h.2⟩
          | due ticket => exact keeps_announce inner (.due ticket) _ _ nofun _ ⟨sound, h.2⟩
        · rw [show (changeSlot name).set settings scene = { scene with settings } from
            if_neg (by rw [hk]; exact fun he => verbose (Option.some.inj he))]
          exact keeps_announce inner facet _ _ (fun _ => verbose) _
            (h.frame _ _ (Settings.verboseLogging_put accepted verbose))
      · exact h
  unfold SettingsHost.set
  cases value.text? with
  | none => exact applied
  | some text => exact keeps_bind (keeps_write facet _) fun _ => applied

theorem keeps_load (facet : Facet) (entries : List (String × Value)) :
    Keeps (Holds · facet) ((around.store nested loadSlot).load entries) := by
  intro scene h
  unfold SettingsHost.load
  cases Settings.load entries with
  | error fault => exact h
  | ok result => exact keeps_write facet _ _ (h.load result.1)

/-- The follower finds the logger as it may be, and brings it in step. -/
theorem ends_follow (facet : Facet) {scene : SettingsScene τ ν δ} (h : scene.Holds facet) :
    around.verbosity.follow.Ends scene fun _ reached => reached.Holds facet ∧ reached.Followed := by
  refine Slot.ends_read_bind.mpr ?_
  split
  · rename_i joined
    exact ⟨h, Subscribers.contains_iff.mp joined⟩
  · let switched := scene.switch scene.settings.verboseLogging
    let members := scene.subscribers.add .follower
    have joined : members.contains .follower := Subscribers.contains_add _ _
    show Holds (followSlot.set members switched) facet ∧ Followed (followSlot.set members switched)
    rw [show followSlot.set members switched = announce { switched with subscribers := members } from
      if_pos joined]
    exact ⟨h.follow, Subscribers.contains_iff.mp joined⟩

theorem ends_unfollow (facet : Facet) {scene : SettingsScene τ ν δ} (h : scene.Holds facet) :
    around.verbosity.unfollow.Ends { scene with following := false } fun _ reached =>
      reached.Holds facet := by
  show Holds (followSlot.set (scene.subscribers.remove .follower)
    { scene with following := false }) facet
  rw [show followSlot.set (scene.subscribers.remove .follower) { scene with following := false } =
      { scene with subscribers := scene.subscribers.remove .follower, following := false } from
    if_neg (by simp [Subscribers.contains_remove])]
  exact h.unfollow

variable [DecidableEq δ]

theorem ends_start (facet : Facet) (entries : List (String × Value)) (pipeline : String)
    {scene : SettingsScene τ ν δ} (h : scene.Holds facet) :
    ((around.launch nested).start entries (hostSlot.act around.make) pipeline).Ends scene
      fun result reached => reached.Holds facet ∧ ∀ dispatcher, result = .ok dispatcher →
        reached.Followed := by
  have started (on : Bool) : Keeps (Holds · facet) ((around.launch nested).startLogger on) := by
    intro scene h
    refine ends_get_bind.mpr ?_
    rw [h.sound.ready.start]
    exact h.nothing
  refine (keeps_load facet entries scene h).bind (fun _ scene h => ?_) fun _ _ h => ⟨h, nofun⟩
  refine Slot.ends_read_bind.mpr ?_
  refine (started _ scene h).bind (fun _ scene h => ?_) fun _ _ h => ⟨h, nofun⟩
  refine (ends_follow facet h).bind (fun _ scene h => ?_) fun _ _ h => ⟨h.1, nofun⟩
  exact (keeps_install facet pipeline scene h).mono fun _ _ h => ⟨h.1, fun _ _ => h.2⟩

theorem keeps_operate (inner : Respectful nested)
    (facet : Facet) (operation : SettingsOp ν) :
    Keeps (Holds · facet) (around.operate nested operation) := by
  have answering {act : Act (SettingsScene τ ν δ) Unit} (h : Keeps (Holds · facet) act) :
      Keeps (Holds · facet) (do act; return (.nothing : SettingsAnswer δ)) :=
    keeps_bind h fun _ => keeps_pure _
  have named {α : Type} {name : String} {next : SettingKey → Act (SettingsScene τ ν δ) α}
      (h : ∀ key, Keeps (Holds · facet) (next key)) :
      Keeps (Holds · facet) (SettingKey.named name >>= next) := by
    refine keeps_bind ?_ h
    unfold SettingKey.named
    split
    · exact keeps_pure _
    · exact keeps_fail _
  cases operation with
  | load entries => exact answering (keeps_load facet entries)
  | get name =>
    refine keeps_bind (named fun key => ?_) fun _ => keeps_pure _
    exact keeps_bind Slot.keeps_read fun _ => keeps_pure _
  | set name value => exact answering (keeps_set inner facet name value)
  | reset name => exact answering (named fun key => keeps_set inner facet name key.default)
  | follow =>
    exact fun scene h => (ends_follow facet h).bind (fun _ _ h => h.1.following h.2) fun _ _ h => h.1
  | unfollow =>
    exact fun scene h => ends_modify_bind.mpr (ends_unfollow facet h).bind_pure
  | start entries pipeline =>
    exact fun scene h => (ends_start facet entries pipeline h).bind
      (fun dispatcher _ h => h.1.following (h.2 dispatcher rfl)) fun _ _ h => h.1
  | uninstall => exact answering (keeps_uninstall facet)
  | subscribe listener => exact answering fun _ h => h.add listener
  | unsubscribe listener => exact answering fun _ h => h.remove listener
  | settle => exact answering fun _ h => h.settle

theorem respectful_perform (around : SettingsSurroundings τ ν δ) :
    ∀ depth, Respectful (around.perform depth) :=
  nesting_of_level (fun _ _ => keeps_exhausted) fun _ => keeps_operate

end SettingsSurroundings

/-- Whatever is done with the settings on a host whose logger is initialised and can be configured,
whatever listeners do meanwhile and whether they fail or not: once it was asked to follow verbose
logging, the follower is subscribed, until it is asked to end this. While it is subscribed, the
logger has the mode last announced, which is what was last put or reset or what the follower found,
and that is the setting as long as settings were not loaded as a whole since. A listener called
ahead of the follower may change verbose logging while it is told of a change; until the next change
the mode may then be the one before. The threshold that goes with the mode is in force once nothing
is left to be done, if it was to begin with. -/
theorem logger_follows_setting [DecidableEq ν] [DecidableEq δ] (around : SettingsSurroundings τ ν δ)
    (depth : Nat) {α : Type} (code : Routine τ (SettingsOp ν) (SettingsAnswer δ) α) (host : τ)
    (settings : Settings) (logger : Logger) (installation : Installation δ)
    (initialised : logger.isConfigured) (unobstructed : logger.obstacle = none) :
    (code.run SettingsScene.hostSlot (around.perform depth)).Ends
      { host, settings, logger, installation } fun _ scene =>
        (scene.following = true → scene.Followed) ∧
        (scene.Followed → scene.outdated = false →
          scene.logger.verbose = scene.announced ∧
          (scene.loaded = false →
            scene.settings.get (.defined .verboseLogging) = .bool scene.logger.verbose)) ∧
        (logger.threshold = some logger.wanted →
          scene.settle.logger.threshold = some scene.logger.wanted) := by
  let scene : SettingsScene τ ν δ := { host, settings, logger, installation }
  have sound : scene.Sound :=
    ⟨Subscribers.ordered_empty, ⟨initialised, unobstructed⟩, nofun, fun _ => rfl⟩
  have kept (facet : SettingsScene.Facet) (h : scene.Holds facet) :=
    SettingsSurroundings.keeps_code (around.respectful_perform depth) facet code scene h
  have inForce : logger.threshold = some logger.wanted →
      (code.run SettingsScene.hostSlot (around.perform depth)).Ends scene fun _ scene =>
        scene.settle.logger.threshold = some scene.logger.wanted :=
    fun inForce => (kept .inForce ⟨sound, inForce⟩).mono fun _ _ h => h.2
  refine (ends_and (kept .inStep ⟨sound, nofun⟩) (ends_imp inForce)).mono ?_
  rintro _ scene ⟨⟨sound, step⟩, inForce⟩
  refine ⟨sound.followed, fun followed current => ?_, inForce⟩
  have mode : scene.logger.verbose = scene.announced := step followed current
  refine ⟨mode, fun unloaded => ?_⟩
  rw [mode, ← sound.latest unloaded]
  rfl

/-! A host where a listener insists on verbose logging. -/

namespace Insistent

/-- Whoever switches verbose logging off is overruled. -/
def call : SettingKey → Value → Routine Unit (SettingsOp Unit) (SettingsAnswer Unit) Unit
  | .defined .verboseLogging, .bool false =>
    .perform (.set SettingId.verboseLogging.name (.bool true)) fun _ => .done ()
  | _, _ => .done ()

def surroundings : SettingsSurroundings Unit Unit Unit where
  call _ := call
  log _ _ host := host
  make := pure ()
  reset _ := pure ()
  allowance := 5

def logger : Logger := { threshold := some .info }

def after (operations : List (SettingsOp Unit)) : Outcome (SettingsScene Unit Unit Unit) Unit :=
  ((Routine.inTurn operations).run SettingsScene.hostSlot (surroundings.perform 3)).run
    { host := (), logger }

/-- The follower is told of the change and then, in the middle of the round, of the change back. -/
theorem overruled_in_step : logger.isConfigured ∧ logger.obstacle = none ∧ ∃ scene,
    after [.follow, .subscribe (), .set SettingId.verboseLogging.name (.bool false), .settle] =
      .done () scene ∧
    scene.following = true ∧ scene.outdated = false ∧ scene.loaded = false ∧
    scene.settings.get (.defined .verboseLogging) = .bool true ∧
    scene.settings.get (.defined .verboseLogging) = .bool scene.logger.verbose ∧
    scene.logger.threshold = some scene.logger.wanted := by
  have ends := logger_follows_setting surroundings 3
    (.inTurn [.follow, .subscribe (), .set SettingId.verboseLogging.name (.bool false), .settle])
    () {} logger {} rfl rfl
  refine ⟨rfl, rfl, _, rfl, rfl, rfl, rfl, rfl, ?_, ?_⟩
  · obtain ⟨followed, inStep, -⟩ := ends.of_done rfl
    exact (inStep (followed rfl) rfl).2 rfl
  · exact (ends.of_done rfl).2.2 rfl

/-- Settings that are loaded as a whole are not announced, and the logger stays as it was. -/
theorem load_unheard : ∃ scene,
    after [.follow, .load [(SettingId.verboseLogging.name, .bool true)]] = .done () scene ∧
    scene.following = true ∧ scene.settings.get (.defined .verboseLogging) = .bool true ∧
    scene.logger.verbose = false :=
  ⟨_, rfl, rfl, rfl, rfl⟩

end Insistent
end KeyPrecedence
