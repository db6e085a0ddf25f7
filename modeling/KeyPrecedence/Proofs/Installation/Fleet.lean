import KeyPrecedence.Proofs.Installation.Scene

/-!
# What is installed is what is attached

* `Fleet.Sound`: nothing is attached to a pipeline but what is installed, and that once, where it
  was made for;
* `Fleet.add`, `Fleet.remove`: what an installation and its end do to a fleet;
* `ArmedSince`: a dispatcher has armed a command, and has not been uninstalled since;
* `SiteNote.Fits`: what was noted earlier allows for a note;
* `Site.Good`: a fleet that is sound, and notes that fit, and go with what is armed and installed.
-/

namespace KeyPrecedence

open Act

variable {τ κ ω φ : Type}

@[simp]
theorem Installation.pipeline_withPipeline {δ : Type} (installation : Installation δ)
    (name other : String) (pipeline : Pipeline δ) :
    (installation.withPipeline name pipeline).pipeline other =
      if name = other then pipeline else installation.pipeline other := by
  unfold Installation.pipeline Installation.withPipeline
  rw [Table.find?_insert]
  split <;> rfl

namespace Fleet

variable {fleet : Fleet κ ω φ} {dispatcher : Nat} {name : String}

/-- While nothing is installed, the pipelines are empty. What is installed is attached once, to the
pipeline named by the call that made it, and nothing else is attached anywhere. -/
def Sound (fleet : Fleet κ ω φ) : Prop :=
  match fleet.installed with
  | none => ∀ pipeline, fleet.attached pipeline = []
  | some (dispatcher, name) =>
    (∃ fitted, fleet.dispatchers[dispatcher]? = some fitted ∧ fitted.origin = name) ∧
      ∀ pipeline, fleet.attached pipeline = if pipeline = name then [dispatcher] else []

theorem sound_vacant (vacant : fleet.installed = none) :
    fleet.Sound ↔ ∀ pipeline, fleet.attached pipeline = [] := by
  simp only [Sound, vacant]

theorem sound_occupied (occupied : fleet.installed = some (dispatcher, name)) :
    fleet.Sound ↔
      (∃ fitted, fleet.dispatchers[dispatcher]? = some fitted ∧ fitted.origin = name) ∧
        ∀ pipeline, fleet.attached pipeline = if pipeline = name then [dispatcher] else [] := by
  simp only [Sound, occupied]

theorem sound_empty : ({} : Fleet κ ω φ).Sound := fun _ => rfl

/-- Only what is installed is offered events. -/
theorem Sound.installed_of_attached (h : fleet.Sound) (attached : dispatcher ∈ fleet.attached name) :
    fleet.installed = some (dispatcher, name) := by
  cases found : fleet.installed with
  | none =>
    rw [(sound_vacant found).mp h] at attached
    nomatch attached
  | some installed =>
    obtain ⟨other, pipeline⟩ := installed
    rw [((sound_occupied found).mp h).2] at attached
    by_cases same : name = pipeline
    · rw [if_pos same, List.mem_singleton] at attached
      rw [attached, same]
    · rw [if_neg same] at attached
      nomatch attached

/-- A change that leaves the pipelines and the origins. -/
theorem Sound.refit (h : fleet.Sound) (other : Fleet κ ω φ)
    (installed : other.installed = fleet.installed) (attached : other.attached = fleet.attached)
    (origins : ∀ (dispatcher : Nat) (fitted : Fitted κ ω φ),
      fleet.dispatchers[dispatcher]? = some fitted →
        ∃ own, other.dispatchers[dispatcher]? = some own ∧ own.origin = fitted.origin) :
    other.Sound := by
  cases found : fleet.installed with
  | none =>
    rw [sound_vacant (installed.trans found), attached]
    exact (sound_vacant found).mp h
  | some pair =>
    obtain ⟨dispatcher, name⟩ := pair
    obtain ⟨⟨fitted, known, origin⟩, own⟩ := (sound_occupied found).mp h
    obtain ⟨changed, kept, same⟩ := origins dispatcher fitted known
    rw [sound_occupied (installed.trans found), attached]
    exact ⟨⟨changed, kept, same.trans origin⟩, own⟩

/-! ## Changes to a dispatcher -/

section
variable (adjust : Fitted κ ω φ → Fitted κ ω φ)

theorem getElem?_change (fleet : Fleet κ ω φ) (changed dispatcher : Nat) :
    (fleet.change changed adjust).dispatchers[dispatcher]? =
      (fleet.dispatchers[dispatcher]?).map fun fitted =>
        if changed = dispatcher then adjust fitted else fitted := by
  simp only [Fleet.change, List.getElem?_modify]
  rfl

theorem Sound.change (h : fleet.Sound) (changed : Nat)
    (keeps : ∀ fitted, (adjust fitted).origin = fitted.origin) :
    (fleet.change changed adjust).Sound := by
  apply h.refit (fleet.change changed adjust) rfl rfl
  intro dispatcher fitted known
  rw [getElem?_change, known]
  refine ⟨_, rfl, ?_⟩
  split
  · exact keeps fitted
  · rfl

theorem armed_change_of_ne (fleet : Fleet κ ω φ) {changed : Nat} (other : changed ≠ dispatcher) :
    (fleet.change changed adjust).armed dispatcher = fleet.armed dispatcher := by
  unfold Fleet.armed
  rw [getElem?_change]
  simp only [other, if_false, Option.map_id']

theorem armed_change (fleet : Fleet κ ω φ) (changed : Nat)
    (keeps : ∀ fitted, (adjust fitted).armed = fitted.armed) :
    (fleet.change changed adjust).armed dispatcher = fleet.armed dispatcher := by
  unfold Fleet.armed
  rw [getElem?_change]
  cases fleet.dispatchers[dispatcher]? with
  | none => rfl
  | some fitted =>
    show (if changed = dispatcher then _ else fitted).armed = fitted.armed
    split
    · exact keeps fitted
    · rfl

end

theorem armed_setArmed (fleet : Fleet κ ω φ) (changed : Nat) (armed : Option (Armed (Bound κ))) :
    (fleet.setArmed changed armed).armed changed =
      (fleet.dispatchers[changed]?).bind fun _ => armed := by
  unfold Fleet.armed setArmed
  rw [getElem?_change]
  cases fleet.dispatchers[changed]? with
  | none => rfl
  | some fitted => simp only [Option.map_some, Option.bind_some, if_true]

theorem armed_setArmed_none (fleet : Fleet κ ω φ) (changed : Nat) :
    (fleet.setArmed changed none).armed changed = none := by
  rw [armed_setArmed]
  cases fleet.dispatchers[changed]? <;> rfl

/-! ## Changes to the pipelines -/

/-- A pipeline has left these events to the host. -/
def leave (fleet : Fleet κ ω φ) (name : String) (hostProcessed : List KeyEvent) : Fleet κ ω φ :=
  { fleet with
    installation := fleet.installation.withPipeline name
      { fleet.installation.pipeline name with hostProcessed } }

/-- A new dispatcher is made and installed. -/
def add (fleet : Fleet κ ω φ) (options : ω) (focus : φ) (name : String) : Fleet κ ω φ where
  installation :=
    { fleet.installation.attach name fleet.dispatchers.length with
      installed := some (fleet.dispatchers.length, name) }
  dispatchers := fleet.dispatchers ++ [{ options, focus, origin := name }]

/-- A dispatcher is taken out of a pipeline and reset, and nothing is installed. -/
def remove (fleet : Fleet κ ω φ) (dispatcher : Nat) (name : String) : Fleet κ ω φ :=
  { fleet.setArmed dispatcher none with
    installation := { fleet.installation.detach name dispatcher with installed := none } }

theorem armed_add (fleet : Fleet κ ω φ) (options : ω) (focus : φ) (name : String) :
    (fleet.add options focus name).armed dispatcher = fleet.armed dispatcher := by
  unfold Fleet.armed add
  rw [List.getElem?_append]
  split
  · rfl
  · next beyond =>
    rw [List.getElem?_eq_none (Nat.le_of_not_lt beyond), List.getElem?_singleton]
    split <;> rfl

/-- A pipeline has been put in place of another. -/
theorem attached_withPipeline (fleet : Fleet κ ω φ) (name pipeline : String)
    (placed : Pipeline Nat) (installed : Option (Nat × String))
    (dispatchers : List (Fitted κ ω φ)) :
    Fleet.attached
        { installation := { fleet.installation.withPipeline name placed with installed }
          dispatchers } pipeline =
      if name = pipeline then placed.attached else fleet.attached pipeline := by
  show ((fleet.installation.withPipeline name placed).pipeline pipeline).attached = _
  rw [Installation.pipeline_withPipeline]
  split <;> rfl

theorem attached_leave (fleet : Fleet κ ω φ) (name pipeline : String)
    (hostProcessed : List KeyEvent) :
    (fleet.leave name hostProcessed).attached pipeline = fleet.attached pipeline := by
  apply (fleet.attached_withPipeline name pipeline _ _ _).trans
  split
  · next same =>
    rw [← same]
    rfl
  · rfl

theorem attached_add (fleet : Fleet κ ω φ) (options : ω) (focus : φ) (name pipeline : String) :
    (fleet.add options focus name).attached pipeline =
      if name = pipeline then fleet.attached name ++ [fleet.dispatchers.length]
      else fleet.attached pipeline :=
  fleet.attached_withPipeline name pipeline _ _ _

theorem attached_remove (fleet : Fleet κ ω φ) (dispatcher : Nat) (name pipeline : String) :
    (fleet.remove dispatcher name).attached pipeline =
      if name = pipeline then (fleet.attached name).erase dispatcher
      else fleet.attached pipeline :=
  fleet.attached_withPipeline name pipeline _ _ _

theorem Sound.leave (h : fleet.Sound) (name : String) (hostProcessed : List KeyEvent) :
    (fleet.leave name hostProcessed).Sound := by
  apply h.refit (fleet.leave name hostProcessed) rfl
  · funext pipeline
    exact fleet.attached_leave name pipeline hostProcessed
  · intro _ fitted known
    exact ⟨fitted, known, rfl⟩

theorem Sound.add (h : fleet.Sound) (vacant : fleet.installed = none) (options : ω) (focus : φ)
    (name : String) : (fleet.add options focus name).Sound := by
  have empty := (sound_vacant vacant).mp h
  have occupied : (fleet.add options focus name).installed =
      some (fleet.dispatchers.length, name) := rfl
  apply (sound_occupied occupied).mpr
  constructor
  · exact ⟨_, List.getElem?_concat_length, rfl⟩
  · intro pipeline
    rw [attached_add, empty, empty]
    simp only [eq_comm, List.nil_append]

theorem Sound.remove (h : fleet.Sound) (occupied : fleet.installed = some (dispatcher, name)) :
    (fleet.remove dispatcher name).Sound := by
  obtain ⟨-, only⟩ := (sound_occupied occupied).mp h
  apply (sound_vacant rfl).mpr
  intro pipeline
  rw [attached_remove, only, only]
  by_cases same : name = pipeline
  · simp [same]
  · simp [same, Ne.symm same]

end Fleet

/-! ## The notes of a host -/

/-- A dispatcher has armed a command, and has not been uninstalled since. -/
def ArmedSince (notes : List (SiteNote κ ω φ)) (dispatcher : Nat) (bound : Bound κ) : Prop :=
  ∃ before since, notes = before ++ .armed dispatcher bound :: since ∧
    .uninstalled dispatcher ∉ since

theorem ArmedSince.note {notes : List (SiteNote κ ω φ)} {dispatcher : Nat} {bound : Bound κ}
    (h : ArmedSince notes dispatcher bound) {note : SiteNote κ ω φ}
    (other : note ≠ .uninstalled dispatcher) : ArmedSince (notes ++ [note]) dispatcher bound := by
  obtain ⟨before, since, rfl, spared⟩ := h
  refine ⟨before, since ++ [note], by simp, ?_⟩
  simpa [spared] using other.symm

theorem armedSince_now (notes : List (SiteNote κ ω φ)) (dispatcher : Nat) (bound : Bound κ) :
    ArmedSince (notes ++ [.armed dispatcher bound]) dispatcher bound :=
  ⟨notes, [], rfl, nofun⟩

/-- No pipeline offers an event to a dispatcher that has been uninstalled, and a dispatcher runs
only a command that it has armed and not been uninstalled since. After every operation the fleet is
sound. -/
def SiteNote.Fits (earlier : List (SiteNote κ ω φ)) : SiteNote κ ω φ → Prop
  | .offered dispatcher _ => .uninstalled dispatcher ∉ earlier
  | .ran dispatcher callback context => ∃ bound : Bound κ, ArmedSince earlier dispatcher bound ∧
      bound.command.execute = callback ∧ bound.context = context
  | .after fleet => fleet.Sound
  | .armed _ _ | .uninstalled _ => True

namespace Site

variable {site : Site τ κ ω φ} {dispatcher : Nat} {name : String}

structure Good (site : Site τ κ ω φ) : Prop where
  sound : site.fleet.Sound
  retired : ∀ dispatcher, .uninstalled dispatcher ∈ site.notes →
    dispatcher < site.fleet.dispatchers.length ∧
      ∀ name, site.fleet.installed ≠ some (dispatcher, name)
  armed : ∀ dispatcher armed, site.fleet.armed dispatcher = some armed →
    ArmedSince site.notes dispatcher armed.command
  fits : ∀ earlier note later, site.notes = earlier ++ note :: later → note.Fits earlier

theorem good_empty (host : τ) : Good ({ host } : Site τ κ ω φ) where
  sound := Fleet.sound_empty
  retired _ h := nomatch h
  armed _ _ h := nomatch h
  fits earlier _ _ h := by simp at h

namespace Good

variable (h : site.Good)

include h

theorem frame (host : τ) : Good { site with host } := ⟨h.sound, h.retired, h.armed, h.fits⟩

/-- A note that fits is added to notes that do. -/
theorem fits_concat {note : SiteNote κ ω φ} (fits : note.Fits site.notes) :
    ∀ earlier other later, site.notes ++ [note] = earlier ++ other :: later →
      other.Fits earlier := by
  intro earlier other later split
  obtain rfl | ⟨later, last, rfl⟩ := List.eq_nil_or_concat later
  · obtain ⟨rfl, ⟨⟩⟩ := List.append_inj' split rfl
    exact fits
  · have shorter : site.notes ++ [note] = (earlier ++ other :: later) ++ [last] := by
      rw [split, List.concat_eq_append, List.append_assoc, List.cons_append]
    exact h.fits earlier other later (List.append_inj' shorter rfl).1

theorem note {note : SiteNote κ ω φ} (fits : note.Fits site.notes)
    (stays : ∀ dispatcher, note ≠ .uninstalled dispatcher) : (site.note note).Good where
  sound := h.sound
  retired dispatcher hm := by
    obtain hm | hm := List.mem_append.mp hm
    · exact h.retired dispatcher hm
    · exact absurd (List.mem_singleton.mp hm).symm (stays dispatcher)
  armed dispatcher armed found := (h.armed dispatcher armed found).note (stays dispatcher)
  fits := h.fits_concat fits

theorem look : site.look.Good := h.note h.sound nofun

/-- A change of the fleet to one that is sound, where as much is installed and no more armed. -/
theorem refit (fleet : Fleet κ ω φ) (sound : fleet.Sound)
    (installed : fleet.installed = site.fleet.installed)
    (made : fleet.dispatchers.length = site.fleet.dispatchers.length)
    (armed : ∀ dispatcher armed, fleet.armed dispatcher = some armed →
      site.fleet.armed dispatcher = some armed) : Good { site with fleet } where
  sound := sound
  retired dispatcher hm := by
    dsimp only
    rw [installed, made]
    exact h.retired dispatcher hm
  armed dispatcher bound found := h.armed dispatcher bound (armed dispatcher bound found)
  fits := h.fits

theorem clear (dispatcher : Nat) : (site.setArmed dispatcher none).Good := by
  apply h.refit (site.fleet.setArmed dispatcher none) (h.sound.change _ dispatcher fun _ => rfl) rfl
    (List.length_modify _ _ _)
  intro other armed found
  by_cases same : dispatcher = other
  · subst same
    rw [Fleet.armed_setArmed_none] at found
    nomatch found
  · exact (Fleet.armed_change_of_ne _ _ same).symm.trans found

theorem setFocus (dispatcher : Nat) (focus : φ) :
    Good { site with
      fleet := site.fleet.change dispatcher fun fitted => { fitted with focus } } := by
  apply h.refit (site.fleet.change dispatcher fun fitted => { fitted with focus })
    (h.sound.change _ dispatcher fun _ => rfl) rfl (List.length_modify _ _ _)
  intro other armed found
  rwa [Fleet.armed_change (fun fitted => { fitted with focus }) _ _ fun _ => rfl] at found

/-- A dispatcher arms a command, which is noted. -/
theorem arm (dispatcher : Nat) (armed : Armed (Bound κ)) :
    ((site.setArmed dispatcher armed).note (.armed dispatcher armed.command)).Good where
  sound := h.sound.change _ dispatcher fun _ => rfl
  retired other hm := by
    obtain hm | hm := List.mem_append.mp hm
    · obtain ⟨known, free⟩ := h.retired other hm
      exact ⟨Nat.lt_of_lt_of_eq known (List.length_modify _ _ _).symm, free⟩
    · nomatch List.mem_singleton.mp hm
  armed other bound (found : (site.fleet.setArmed dispatcher armed).armed other = some bound) := by
    by_cases same : dispatcher = other
    · subst same
      rw [Fleet.armed_setArmed] at found
      obtain ⟨_, -, ⟨⟩⟩ := Option.bind_eq_some_iff.mp found
      exact armedSince_now _ _ _
    · have before := (Fleet.armed_change_of_ne _ _ same).symm.trans found
      exact (h.armed other bound before).note nofun
  fits := h.fits_concat trivial

theorem leave (name : String) (hostProcessed : List KeyEvent) :
    Good { site with fleet := site.fleet.leave name hostProcessed } := by
  apply h.refit _ (h.sound.leave name hostProcessed) rfl rfl
  intro _ _ found
  exact found

theorem add (vacant : site.fleet.installed = none) (options : ω) (focus : φ) (name : String) :
    Good { site with fleet := site.fleet.add options focus name } where
  sound := h.sound.add vacant options focus name
  retired dispatcher hm := by
    obtain ⟨known, -⟩ := h.retired dispatcher hm
    constructor
    · exact Nat.lt_of_lt_of_le known (List.sublist_append_left _ _).length_le
    · rintro _ ⟨⟩
      exact absurd known (Nat.lt_irrefl _)
  armed dispatcher armed found :=
    h.armed dispatcher armed ((Fleet.armed_add _ options focus name).symm.trans found)
  fits := h.fits

theorem remove (occupied : site.fleet.installed = some (dispatcher, name)) :
    Good { site with
      fleet := site.fleet.remove dispatcher name
      notes := site.notes ++ [.uninstalled dispatcher] } where
  sound := h.sound.remove occupied
  retired other hm := by
    have known : other < site.fleet.dispatchers.length := by
      obtain hm | hm := List.mem_append.mp hm
      · exact (h.retired other hm).1
      · obtain ⟨⟨fitted, found, -⟩, -⟩ := (Fleet.sound_occupied occupied).mp h.sound
        cases List.mem_singleton.mp hm
        exact (List.getElem?_eq_some_iff.mp found).1
    exact ⟨Nat.lt_of_lt_of_eq known (List.length_modify _ _ _).symm, nofun⟩
  armed other armed
      (found : (site.fleet.setArmed dispatcher none).armed other = some armed) := by
    by_cases same : dispatcher = other
    · subst same
      rw [Fleet.armed_setArmed_none] at found
      nomatch found
    · have before := (Fleet.armed_change_of_ne _ _ same).symm.trans found
      apply (h.armed other armed before).note
      rintro ⟨⟩
      exact same rfl
  fits := h.fits_concat trivial

end Good
end Site
end KeyPrecedence
