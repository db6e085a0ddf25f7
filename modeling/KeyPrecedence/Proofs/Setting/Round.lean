import KeyPrecedence.Proofs.Setting.Scene

/-!
# Rounds in which verbose logging is announced

* `SettingsScene.Sound`, `SettingsScene.InForce`: what is true of the settings and the logger at any
  time;
* `SettingsScene.InStep`: the logger has the mode that was last announced;
* `SettingsScene.Holds`: what lasts through an operation, with one lemma for each change of the
  scene;
* `SettingsScene.Round`: what is true in the middle of a round, for the turn of the follower
  (`Round.switch`) and of a listener (`Round.due_or_inStep`, `Round.told`).
-/

namespace KeyPrecedence

variable {τ ν δ : Type}

namespace SettingsScene

variable {scene : SettingsScene τ ν δ}

/-- The follower is subscribed. -/
def Followed (scene : SettingsScene τ ν δ) : Prop :=
  ∃ ticket, (ticket, SettingsReader.follower) ∈ scene.subscribers.members

structure Sound (scene : SettingsScene τ ν δ) : Prop where
  ordered : scene.subscribers.Ordered
  ready : scene.logger.Ready
  followed : scene.following = true → scene.Followed
  latest : scene.loaded = false → scene.settings.verboseLogging = scene.announced

def InStep (scene : SettingsScene τ ν δ) : Prop :=
  scene.Followed → scene.outdated = false → scene.logger.verbose = scene.announced

def InForce (scene : SettingsScene τ ν δ) : Prop := scene.logger.InForce scene.pending

/-- In a round that has come to a ticket, the follower is yet to be called. -/
def Due (ticket : Nat) (scene : SettingsScene τ ν δ) : Prop :=
  ticket ≤ scene.subscribers.issued ∧
    ∀ other, (other, SettingsReader.follower) ∈ scene.subscribers.members → ticket < other

/-- What lasts through an operation. A listener may be called before the logger is in step; then it
is enough that the follower is still due. -/
inductive Facet
  | sound
  | inForce
  | inStep
  | due (ticket : Nat)

def Holds (scene : SettingsScene τ ν δ) : Facet → Prop
  | .sound => scene.Sound
  | .inForce => scene.Sound ∧ scene.InForce
  | .inStep => scene.Sound ∧ scene.InStep
  | .due ticket => scene.Sound ∧ scene.Due ticket

namespace Holds

variable {facet : Facet}

theorem sound (h : scene.Holds facet) : scene.Sound := by
  cases facet with
  | sound => exact h
  | inForce | inStep | due => exact h.1

/-- It depends on few parts of a scene that is sound. -/
theorem of_sound (h : scene.Holds facet) {other : SettingsScene τ ν δ} (sound : other.Sound)
    (inForce : scene.InForce → other.InForce)
    (issued : scene.subscribers.issued ≤ other.subscribers.issued)
    (members : ∀ ticket, (ticket, SettingsReader.follower) ∈ other.subscribers.members →
      (ticket, SettingsReader.follower) ∈ scene.subscribers.members)
    (verbose : other.logger.verbose = scene.logger.verbose)
    (announced : other.announced = scene.announced) (outdated : other.outdated = scene.outdated) :
    other.Holds facet := by
  cases facet with
  | sound => exact sound
  | inForce => exact ⟨sound, inForce h.2⟩
  | inStep =>
    refine ⟨sound, fun ⟨ticket, hm⟩ current => ?_⟩
    rw [verbose, announced]
    exact h.2 ⟨ticket, members ticket hm⟩ (outdated ▸ current)
  | due ticket =>
    exact ⟨sound, Nat.le_trans h.2.1 issued, fun other hm => h.2.2 other (members other hm)⟩

theorem frame (h : scene.Holds facet) (host : τ) (installation : Installation δ)
    {settings : Settings} (same : settings.verboseLogging = scene.settings.verboseLogging) :
    Holds { scene with host, settings, installation } facet :=
  have sound : Sound { scene with host, settings, installation } :=
    ⟨h.sound.ordered, h.sound.ready, h.sound.followed, fun hl => same.trans (h.sound.latest hl)⟩
  h.of_sound sound id (Nat.le_refl _) (fun _ => id) rfl rfl rfl

theorem load (h : scene.Holds facet) (settings : Settings) :
    Holds (loadSlot.set settings scene) facet :=
  h.of_sound ⟨h.sound.ordered, h.sound.ready, h.sound.followed, nofun⟩ id (Nat.le_refl _)
    (fun _ => id) rfl rfl rfl

/-- Starting the logger again leaves nothing to be done. -/
theorem nothing (h : scene.Holds facet) :
    Holds { scene with pending := scene.pending ++ [.nothing] } facet :=
  h.of_sound ⟨h.sound.ordered, h.sound.ready, h.sound.followed, h.sound.latest⟩
    Logger.InForce.nothing (Nat.le_refl _) (fun _ => id) rfl rfl rfl

theorem settle (h : scene.Holds facet) : Holds scene.settle facet :=
  h.of_sound ⟨h.sound.ordered, h.sound.ready.settleAll _, h.sound.followed, h.sound.latest⟩
    Logger.InForce.settleAll (Nat.le_refl _) (fun _ => id) (Logger.verbose_settleAll _ _) rfl rfl

/-- Once the follower is subscribed, verbose logging may count as followed. -/
theorem following (h : scene.Holds facet) (followed : scene.Followed) :
    Holds { scene with following := true } facet :=
  h.of_sound ⟨h.sound.ordered, h.sound.ready, fun _ => followed, h.sound.latest⟩ id (Nat.le_refl _)
    (fun _ => id) rfl rfl rfl

/-- Switching the logger is what brings it in step, or out of step. -/
theorem switch (h : scene.Holds facet) (other : facet ≠ .inStep) (on : Bool) :
    Holds (scene.switch on) facet := by
  have sound : Sound (scene.switch on) :=
    ⟨h.sound.ordered, h.sound.ready.switch on, h.sound.followed, h.sound.latest⟩
  cases facet with
  | sound => exact sound
  | inForce => exact ⟨sound, h.2.switch h.1.ready on⟩
  | inStep => exact absurd rfl other
  | due => exact ⟨sound, h.2⟩

variable [DecidableEq ν]

theorem told (h : scene.Holds facet) {key : SettingKey} {value : Value} {ticket : Nat}
    (other : facet = .inStep → key ≠ .defined .verboseLogging) :
    Holds (scene.told ticket key value) facet := by
  unfold SettingsScene.told
  split
  · split
    · have sound (outdated : Bool) : Sound { scene with outdated } :=
        ⟨h.sound.ordered, h.sound.ready, h.sound.followed, h.sound.latest⟩
      cases facet with
      | sound => exact sound _
      | inStep => exact absurd rfl (other rfl)
      | inForce | due => exact ⟨sound _, h.2⟩
    · exact h
  · exact h

theorem add (h : scene.Holds facet) (listener : ν) :
    Holds { scene with subscribers := scene.subscribers.add (.listener listener) } facet := by
  have followed (on : scene.following = true) :
      Followed { scene with subscribers := scene.subscribers.add (.listener listener) } := by
    obtain ⟨ticket, hm⟩ := h.sound.followed on
    exact ⟨ticket, Subscribers.mem_add_of_mem hm _⟩
  exact h.of_sound ⟨h.sound.ordered.add _, h.sound.ready, followed, h.sound.latest⟩ id
    (Subscribers.issued_le_add _ _) (fun _ hm => (Subscribers.mem_add hm).resolve_right nofun)
    rfl rfl rfl

theorem remove (h : scene.Holds facet) (listener : ν) :
    Holds { scene with subscribers := scene.subscribers.remove (.listener listener) } facet := by
  have followed (on : scene.following = true) :
      Followed { scene with subscribers := scene.subscribers.remove (.listener listener) } := by
    obtain ⟨ticket, hm⟩ := h.sound.followed on
    exact ⟨ticket, Subscribers.mem_remove_of_mem hm nofun⟩
  exact h.of_sound ⟨h.sound.ordered.remove _, h.sound.ready, followed, h.sound.latest⟩ id
    (Nat.le_refl _) (fun _ => Subscribers.mem_remove) rfl rfl rfl

theorem unfollow (h : scene.Holds facet) :
    Holds { scene with
      subscribers := scene.subscribers.remove .follower, following := false } facet :=
  h.of_sound ⟨h.sound.ordered.remove _, h.sound.ready, nofun, h.sound.latest⟩ id (Nat.le_refl _)
    (fun _ => Subscribers.mem_remove) rfl rfl rfl

theorem follow (h : scene.Holds facet) :
    Holds (announce { scene.switch scene.settings.verboseLogging with
      subscribers := scene.subscribers.add .follower }) facet := by
  have sound : Sound (announce { scene.switch scene.settings.verboseLogging with
      subscribers := scene.subscribers.add .follower }) :=
    ⟨h.sound.ordered.add _, h.sound.ready.switch _, fun on => (h.sound.followed on).imp fun _ hm =>
      Subscribers.mem_add_of_mem hm _, fun _ => rfl⟩
  cases facet with
  | sound => exact sound
  | inForce => exact ⟨sound, h.2.switch h.1.ready _⟩
  | inStep => exact ⟨sound, fun _ _ => Logger.verbose_switch _ _⟩
  | due ticket =>
    refine ⟨sound, Nat.le_trans h.2.1 (Subscribers.issued_le_add _ _), fun other hm => ?_⟩
    obtain old | new := Subscribers.mem_add hm
    · exact h.2.2 other old
    · cases new
      exact Nat.lt_succ_of_le h.2.1

end Holds

/-- A change of verbose logging is being announced, and the round has come to a ticket. -/
structure Round (on : Bool) (last : Nat) (scene : SettingsScene τ ν δ) : Prop where
  sound : scene.Sound
  due : ∀ ticket, (ticket, SettingsReader.follower) ∈ scene.subscribers.members → last < ticket →
    scene.outdated = false → scene.announced = on
  past : ∀ ticket, (ticket, SettingsReader.follower) ∈ scene.subscribers.members → ticket ≤ last →
    scene.outdated = false → scene.logger.verbose = scene.announced

variable {on : Bool} {last ticket : Nat}

/-- A round begins with what has just been announced. -/
theorem Sound.round (h : scene.Sound) (announced : scene.announced = on) : scene.Round on 0 where
  sound := h
  due _ _ _ _ := announced
  past _ hm hle := absurd (h.ordered.within _ hm).1 (Nat.not_lt.mpr hle)

namespace Round

/-- A round that has come to its end leaves the logger in step. -/
theorem inStep (h : scene.Round on last) (ended : scene.subscribers.after last = none) :
    scene.Holds .inStep :=
  ⟨h.sound, fun ⟨ticket, hm⟩ => h.past ticket hm (Subscribers.le_of_after_none ended hm)⟩

theorem write (h : scene.Round on last) (host : τ) : Round on last { scene with host } :=
  ⟨⟨h.sound.ordered, h.sound.ready, h.sound.followed, h.sound.latest⟩, h.due, h.past⟩

/-- The follower's turn. -/
theorem switch (h : scene.Round on last)
    (next : scene.subscribers.after last = some (ticket, .follower)) :
    (scene.switch on).Round on ticket where
  sound := ⟨h.sound.ordered, h.sound.ready.switch on, h.sound.followed, h.sound.latest⟩
  due other hm later := h.due other hm (Nat.lt_trans (Subscribers.lt_of_after next) later)
  past _ _ _ current := by
    have announced : scene.announced = on :=
      h.due ticket (Subscribers.mem_of_after next) (Subscribers.lt_of_after next) current
    exact (Logger.verbose_switch _ on).trans announced.symm

variable {listener : ν}

/-- At a listener's turn the follower is still due, or the logger is in step again. -/
theorem due_or_inStep (h : scene.Round on last)
    (next : scene.subscribers.after last = some (ticket, .listener listener)) :
    scene.Holds (.due ticket) ∨ scene.Holds .inStep := by
  have mem := Subscribers.mem_of_after next
  by_cases called : ∃ other ≤ last, (other, SettingsReader.follower) ∈ scene.subscribers.members
  · obtain ⟨other, hle, hm⟩ := called
    refine .inr ⟨h.sound, fun _ => h.past other hm hle⟩
  · refine .inl ⟨h.sound, (h.sound.ordered.within _ mem).2, fun other hm => ?_⟩
    have later : last < other := Nat.lt_of_not_le fun hle => called ⟨other, hle, hm⟩
    have behind : ticket ≤ other := h.sound.ordered.le_of_after next hm later
    refine Nat.lt_of_le_of_ne behind ?_
    rintro rfl
    nomatch h.sound.ordered.member_unique mem hm

variable [DecidableEq ν]

theorem followerAfter_iff : scene.followerAfter ticket ↔
    ∃ other, (other, SettingsReader.follower) ∈ scene.subscribers.members ∧ ticket < other := by
  simp [followerAfter]

/-- After a listener's turn it shows whether what the follower will be told is still so. -/
theorem told (h : scene.Holds (.due ticket) ∨ scene.Holds .inStep) :
    (scene.told ticket (.defined .verboseLogging) (.bool on)).Round on ticket := by
  have sound : scene.Sound := h.elim (·.sound) (·.sound)
  show Round on ticket (if scene.followerAfter ticket then _ else _)
  split
  · rename_i later
    obtain ⟨behind, hb, hlt⟩ := followerAfter_iff.mp later
    refine ⟨⟨sound.ordered, sound.ready, sound.followed, sound.latest⟩, fun _ _ _ current => ?_, ?_⟩
    · exact (by simpa using current : on = scene.announced).symm
    · intro other hm hle
      rw [sound.ordered.ticket_unique hm hb] at hle
      exact absurd hlt (Nat.not_lt.mpr hle)
  · rename_i none
    refine ⟨sound, fun other hm hlt => absurd (followerAfter_iff.mpr ⟨other, hm, hlt⟩) none, ?_⟩
    intro other hm hle
    obtain due | step := h
    · exact absurd (due.2.2 other hm) (Nat.not_lt.mpr hle)
    · exact step.2 ⟨other, hm⟩

end Round
end SettingsScene
end KeyPrecedence
