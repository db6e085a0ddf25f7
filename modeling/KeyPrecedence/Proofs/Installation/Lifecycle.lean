import KeyPrecedence.Proofs.Dispatch.Ruling
import KeyPrecedence.Proofs.Installation.Fleet
import KeyPrecedence.Proofs.Setting.Ledger

/-!
# One dispatcher at a time

* `SiteSurroundings.keeps_perform`: whatever is done with the dispatchers of a host, what is
  attached is what is installed, and the notes fit;
* `Launch.prepare`: what a start does before it comes to the dispatcher;
* `Site.Installs`, `Site.Retires`: what an installation and its end come to, on any host;
* `SiteSurroundings.Calls`: what the calls give;
* `installed_once`: all this, in every run.
-/

namespace KeyPrecedence

open Act

variable {τ κ ω φ ν α : Type}

/-! ## Whatever is done -/

namespace SiteSurroundings

variable {around : SiteSurroundings τ κ ω φ ν}
  {nested : SiteOp ω φ → Act (Site τ κ ω φ) (SiteAnswer κ)} {site : Site τ κ ω φ}

section
variable (inner : ∀ operation, Keeps Site.Good (nested operation))

include inner

theorem keeps_within (code : SiteCode τ κ ω φ α) : Keeps Site.Good (code.within nested) :=
  Routine.keeps_run (fun host _ h => h.frame host) inner code

theorem keeps_focusOf (dispatcher : Nat)
    (question : Focus (SiteCode τ κ ω φ) → SiteCode τ κ ω φ (Option α)) :
    Keeps Site.Good (around.focusOf nested dispatcher question) := by
  intro site h
  apply ends_get_bind.mpr
  cases site.fleet.dispatchers[dispatcher]? with
  | none => exact h
  | some fitted => exact keeps_within inner _ site h

theorem othersKeep (dispatcher : Nat) (options : ω) :
    (around.dispatcher nested dispatcher options).OthersKeep Site.Good where
  toolkit := Toolkit.keeps_map (fun code => keeps_within inner code) (around.toolkit options)
  commandFor _ _ := keeps_within inner _
  menu processes event hm := by
    obtain ⟨own, -, rfl⟩ := Option.map_eq_some_iff.mp hm
    exact keeps_within inner (own event)
  decide _ _ := keeps_within inner _
  report _ _ := keeps_within inner _
  toast _ _ := keeps_within inner _
  consumed _ _ _ h := h.frame _
  log _ _ h := h.frame _

/-- A command that runs has been armed, and its dispatcher has not been uninstalled since. -/
theorem keeps_continues (dispatcher : Nat) (options : ω) (event : KeyEvent)
    (destination : Option Widget) :
    Keeps Site.Good
      ((around.dispatcher nested dispatcher options).holder.continues event destination) := by
  apply Holder.keeps_continues fun bound site => ArmedSince site.notes dispatcher bound
  · intro armed site h found
    exact ⟨h.clear dispatcher, h.armed dispatcher armed found⟩
  · intro _ bound site h
    exact ⟨h.1.frame _, h.2⟩
  · intro _ site h
    exact h.frame _
  · intro bound site h armed
    apply ends_modify_bind.mpr
    exact keeps_within inner _ _ (h.note ⟨bound, armed, rfl, rfl⟩ nofun)

theorem keeps_dispatch (dispatcher : Nat) (event : KeyEvent) :
    Keeps Site.Good (around.dispatch nested dispatcher event) := by
  intro site h
  apply ends_get_bind.mpr
  cases site.fleet.dispatchers[dispatcher]? with
  | none => exact h
  | some fitted =>
    have others : (around.dispatcher nested dispatcher fitted.options).OthersKeep Site.Good :=
      othersKeep inner dispatcher fitted.options
    have dispatch : Keeps Site.Good
        ((around.dispatcher nested dispatcher fitted.options).dispatch event) := by
      apply others.keeps_dispatch
      · exact keeps_focusOf inner dispatcher _
      · exact keeps_focusOf inner dispatcher _
      · exact keeps_continues inner dispatcher fitted.options event
      · exact fun armed _ h => h.arm dispatcher armed
    exact dispatch site h

/-- Whoever is offered an event is installed then, and so has not been uninstalled. -/
theorem keeps_offerFrom (name : String) (event : KeyEvent) : ∀ allowance position,
    Keeps Site.Good (Pipeline.offerFrom (Site.pipelineSlot name) (around.offer nested event) event
      allowance position)
  | 0, _ => keeps_exhausted
  | allowance + 1, position => by
    intro site h
    apply Slot.ends_read_bind.mpr
    cases found : (site.fleet.attached name)[position]? with
    | none =>
      have read : ((Site.pipelineSlot name).get site).attached[position]? = none := found
      rw [read]
      exact h.leave name _
    | some dispatcher =>
      have read : ((Site.pipelineSlot name).get site).attached[position]? = some dispatcher := found
      rw [read]
      have installed := h.sound.installed_of_attached (List.mem_of_getElem? found)
      have fits : (SiteNote.offered dispatcher event).Fits site.notes := fun hm =>
        (h.retired dispatcher hm).2 name installed
      have offered : (around.offer nested event dispatcher).Ends site fun _ reached =>
          reached.Good :=
        ends_modify_bind.mpr (keeps_dispatch inner dispatcher event _ (h.note fits nofun))
      apply offered.bind _ fun _ _ hr => hr
      rintro (_ | _) reached hr
      · exact keeps_offerFrom name event allowance (position + 1) reached hr
      · exact hr

end

/-! ## Installing and uninstalling -/

section
variable (around : SiteSurroundings τ κ ω φ ν) (options : ω) (focus : φ) (name : String)
  {dispatcher : Nat} {pipeline : String}

theorem run_install_occupied (occupied : site.fleet.installed = some (dispatcher, pipeline)) :
    (around.install options focus name).run site =
      .done dispatcher { site with host := around.log .alreadyInstalled site.host } := by
  unfold SiteSurroundings.install Installation.install
  have read : (Site.installationSlot.get site).installed = _ := occupied
  simp only [run_bind, Slot.run_read, read]
  rfl

theorem run_install_vacant (vacant : site.fleet.installed = none) :
    (around.install options focus name).run site =
      .done site.fleet.dispatchers.length
        { site with
          host := around.log .installed site.host
          fleet := site.fleet.add options focus name } := by
  unfold SiteSurroundings.install Installation.install
  have read : (Site.installationSlot.get site).installed = _ := vacant
  simp only [run_bind, Slot.run_read, read]
  rfl

theorem run_uninstall_occupied (occupied : site.fleet.installed = some (dispatcher, pipeline)) :
    around.uninstall.run site =
      .done () {
        host := around.log .uninstalled site.host
        fleet := site.fleet.remove dispatcher pipeline
        notes := site.notes ++ [.uninstalled dispatcher] } := by
  unfold SiteSurroundings.uninstall Installation.uninstall
  have read : (Site.installationSlot.get site).installed = _ := occupied
  simp only [run_bind, Slot.run_read, read]
  rfl

theorem run_uninstall_vacant (vacant : site.fleet.installed = none) :
    around.uninstall.run site = .done () site := by
  unfold SiteSurroundings.uninstall Installation.uninstall
  have read : (Site.installationSlot.get site).installed = _ := vacant
  simp only [run_bind, Slot.run_read, read]
  rfl

theorem keeps_install : Keeps Site.Good (around.install options focus name) := by
  intro site h
  unfold Ends
  cases found : site.fleet.installed with
  | none =>
    rw [run_install_vacant around options focus name found]
    exact (h.add found options focus name).frame _
  | some installed =>
    rw [run_install_occupied around options focus name found]
    exact h.frame _

theorem keeps_uninstall : Keeps Site.Good around.uninstall := by
  intro site h
  unfold Ends
  cases found : site.fleet.installed with
  | none =>
    rw [run_uninstall_vacant around found]
    exact h
  | some installed =>
    rw [run_uninstall_occupied around found]
    exact (h.remove found).frame _

end
end SiteSurroundings

/-- What a start does before it comes to the dispatcher. -/
def Launch.prepare {σ δ : Type} [DecidableEq ν] (launch : Launch σ ν δ)
    (entries : List (String × Value)) : Act σ Unit := do
  launch.settings.load entries
  launch.startLogger (← launch.settings.settings.read).verboseLogging

theorem Launch.start_eq {σ δ : Type} [DecidableEq ν] [DecidableEq δ] (launch : Launch σ ν δ)
    (entries : List (String × Value)) (make : Act σ δ) (pipeline : String) :
    launch.start entries make pipeline = (do
      launch.prepare entries
      launch.verbosity.follow
      Installation.install launch.installation launch.settings.log make pipeline) := by
  simp only [Launch.start, Launch.prepare, bind_assoc]

namespace SiteSurroundings

variable {around : SiteSurroundings τ κ ω φ ν}
  {nested : SiteOp ω φ → Act (Site τ κ ω φ) (SiteAnswer κ)} {site : Site τ κ ω φ}
  [DecidableEq ν]

theorem run_follow (around : SiteSurroundings τ κ ω φ ν)
    (nested : SiteOp ω φ → Act (Site τ κ ω φ) (SiteAnswer κ)) (site : Site τ κ ω φ) :
    ∃ host, (around.launch nested).verbosity.follow.run site = .done () { site with host } := by
  unfold Verbosity.follow
  simp only [run_bind, Slot.run_read]
  split
  · exact ⟨site.host, rfl⟩
  · exact ⟨_, rfl⟩

/-- Settings and logging are the host's own. -/
theorem keeps_prepare {inv : Site τ κ ω φ → Prop}
    (frame : ∀ site host, inv site → inv { site with host })
    (logger : ∀ verbose, Keeps inv ((around.startLogger verbose).within nested))
    (entries : List (String × Value)) :
    Keeps inv ((around.launch nested).prepare entries) := by
  have load : Keeps inv ((around.launch nested).settings.load entries) := by
    apply keeps_bind (keeps_ofExcept _)
    intro loaded
    apply keeps_bind
    · exact Slot.keeps_write fun site h => frame site _ h
    · exact fun _ site h => frame site _ h
  apply keeps_bind load
  intro _
  exact keeps_bind Slot.keeps_read fun _ => logger _

theorem keeps_operate (inner : ∀ operation, Keeps Site.Good (nested operation))
    (operation : SiteOp ω φ) : Keeps Site.Good (around.operate nested operation) := by
  have answered {α : Type} {act : Act (Site τ κ ω φ) α} (answer : α → SiteAnswer κ)
      (h : Keeps Site.Good act) : Keeps Site.Good (do return answer (← act)) :=
    keeps_bind h fun _ => keeps_pure _
  cases operation with
  | install options focus name => exact answered _ (keeps_install around options focus name)
  | start entries options focus name =>
    apply answered
    rw [Launch.start_eq]
    apply keeps_bind (keeps_prepare (fun _ host h => h.frame host) (fun _ => keeps_within inner _) _)
    intro _
    apply keeps_bind _ fun _ => keeps_install around options focus name
    intro site h
    obtain ⟨host, run⟩ := around.run_follow nested site
    unfold Ends
    rw [run]
    exact h.frame host
  | uninstall => exact answered (fun _ => .nothing) (keeps_uninstall around)
  | installed =>
    exact answered (fun i : Installation Nat => .installed (i.installed.map (·.1))) Slot.keeps_read
  | deliver name event => exact answered _ (keeps_offerFrom inner name event _ 0)
  | dispatch dispatcher event => exact answered _ (keeps_dispatch inner dispatcher event)
  | reset dispatcher => exact fun _ h => h.clear dispatcher
  | setFocus dispatcher focus => exact fun _ h => h.setFocus dispatcher focus
  | armed dispatcher => exact answered _ Slot.keeps_read

theorem keeps_perform (around : SiteSurroundings τ κ ω φ ν) :
    ∀ depth operation, Keeps Site.Good (around.perform depth operation) :=
  keeps_nesting fun _ inner operation => keeps_followedBy (keeps_operate inner operation)
    (keeps_modify fun _ h => h.look)

end SiteSurroundings

/-! ## What the calls come to -/

namespace Site

/-- What an installation comes to. A dispatcher that is installed already is given, and neither it
nor anything else changes. Otherwise a new one with these options is attached to the pipeline. -/
def Installs (site : Site τ κ ω φ) (options : ω) (focus : φ) (name : String) (dispatcher : Nat)
    (reached : Site τ κ ω φ) : Prop :=
  reached.notes = site.notes ∧
    match site.fleet.installed with
    | some (installed, _) => dispatcher = installed ∧ reached.fleet = site.fleet
    | none =>
      dispatcher = site.fleet.dispatchers.length ∧
        reached.fleet.installed = some (dispatcher, name) ∧
        reached.fleet.dispatchers =
          site.fleet.dispatchers ++ [{ options, focus, origin := name }] ∧
        ∀ pipeline, reached.fleet.attached pipeline =
          if name = pipeline then site.fleet.attached name ++ [dispatcher]
          else site.fleet.attached pipeline

/-- What the end of an installation comes to. The dispatcher is detached and left idle, and the
others stay as they are. -/
def Retires (site reached : Site τ κ ω φ) : Prop :=
  match site.fleet.installed with
  | none => reached = site
  | some (dispatcher, name) =>
    reached.notes = site.notes ++ [.uninstalled dispatcher] ∧
      reached.fleet.installed = none ∧ reached.fleet.armed dispatcher = none ∧
      (∀ other, dispatcher ≠ other →
        reached.fleet.dispatchers[other]? = site.fleet.dispatchers[other]?) ∧
      ∀ pipeline, reached.fleet.attached pipeline =
        if name = pipeline then (site.fleet.attached name).erase dispatcher
        else site.fleet.attached pipeline

end Site

namespace SiteSurroundings

variable (around : SiteSurroundings τ κ ω φ ν)
  {nested : SiteOp ω φ → Act (Site τ κ ω φ) (SiteAnswer κ)} {site : Site τ κ ω φ}

theorem run_install (options : ω) (focus : φ) (name : String) (site : Site τ κ ω φ) :
    ∃ dispatcher reached, (around.install options focus name).run site = .done dispatcher reached ∧
      site.Installs options focus name dispatcher reached := by
  cases found : site.fleet.installed with
  | some installed =>
    refine ⟨_, _, run_install_occupied around options focus name found, rfl, ?_⟩
    rw [found]
    exact ⟨rfl, rfl⟩
  | none =>
    refine ⟨_, _, run_install_vacant around options focus name found, rfl, ?_⟩
    rw [found]
    exact ⟨rfl, rfl, rfl, site.fleet.attached_add options focus name⟩

theorem run_uninstall (site : Site τ κ ω φ) :
    ∃ reached, around.uninstall.run site = .done () reached ∧ site.Retires reached := by
  unfold Site.Retires
  cases found : site.fleet.installed with
  | none => exact ⟨site, run_uninstall_vacant around found, rfl⟩
  | some installed =>
    obtain ⟨dispatcher, name⟩ := installed
    refine ⟨_, run_uninstall_occupied around found, rfl, rfl, ?_, ?_, ?_⟩
    · exact site.fleet.armed_setArmed_none dispatcher
    · intro other different
      show (site.fleet.setArmed dispatcher none).dispatchers[other]? = _
      unfold Fleet.setArmed
      rw [Fleet.getElem?_change]
      simp only [different, if_false, Option.map_id']
    · exact site.fleet.attached_remove dispatcher name

variable [DecidableEq ν]

/-- What calls give, and what they leave behind. -/
structure Calls (depth : Nat) (site : Site τ κ ω φ) : Prop where
  install : ∀ options focus name, ∃ dispatcher reached,
    (around.perform (depth + 1) (.install options focus name)).run site =
      .done (.dispatcher dispatcher) reached.look ∧
    site.Installs options focus name dispatcher reached
  /-- A start installs a dispatcher on the host its preparations leave behind, if they do not
  fail. -/
  start : ∀ entries options focus name,
    match ((around.launch (around.perform depth)).prepare entries).run site with
    | .done () waited => ∃ dispatcher reached,
      (around.perform (depth + 1) (.start entries options focus name)).run site =
        .done (.dispatcher dispatcher) reached.look ∧
      waited.Installs options focus name dispatcher reached
    | .failed fault waited =>
      (around.perform (depth + 1) (.start entries options focus name)).run site =
        .failed fault waited.look
    | .exhausted =>
      (around.perform (depth + 1) (.start entries options focus name)).run site = .exhausted
  refused : ∀ entries, (∃ entry ∈ entries, Settings.Offends entry) →
    ∃ fault, Settings.FirstOffence entries fault ∧
      ((around.launch (around.perform depth)).prepare entries).run site = .failed fault site
  accepted : ∀ entries, (∀ entry ∈ entries, ¬ Settings.Offends entry) → ∃ verbose host,
    ((around.launch (around.perform depth)).prepare entries).run site =
      ((around.startLogger verbose).within (around.perform depth)).run { site with host }
  /-- Logging starts, or fails to, while nothing is done with the dispatchers. -/
  undisturbed : ∀ entries, (∀ verbose, (around.startLogger verbose).Idle) →
    ((around.launch (around.perform depth)).prepare entries).Ends site fun _ waited =>
      waited.fleet = site.fleet ∧ waited.notes = site.notes
  uninstall : ∃ reached,
    (around.perform (depth + 1) .uninstall).run site = .done .nothing reached.look ∧
    site.Retires reached
  installed : (around.perform (depth + 1) .installed).run site =
    .done (.installed (site.fleet.installed.map (·.1))) site.look

theorem run_perform (depth : Nat) (operation : SiteOp ω φ) (site : Site τ κ ω φ) :
    (around.perform (depth + 1) operation).run site =
      match (around.operate (around.perform depth) operation).run site with
      | .done answer reached => .done answer reached.look
      | .failed fault reached => .failed fault reached.look
      | .exhausted => .exhausted := by
  simp only [perform_succ, followedBy, run_bind, run_attempt]
  cases (around.operate (around.perform depth) operation).run site <;> rfl

theorem run_operate_start (nested : SiteOp ω φ → Act (Site τ κ ω φ) (SiteAnswer κ))
    (entries : List (String × Value)) (options : ω) (focus : φ) (name : String)
    (site : Site τ κ ω φ) :
    (around.operate nested (.start entries options focus name)).run site =
      ((around.launch nested).prepare entries >>= fun _ =>
        (around.launch nested).verbosity.follow >>= fun _ =>
          around.install options focus name >>= fun dispatcher =>
            pure (.dispatcher dispatcher)).run site := by
  simp only [operate, Launch.start_eq, bind_assoc]
  rfl

theorem meets_calls (depth : Nat) (site : Site τ κ ω φ) : around.Calls depth site where
  install options focus name := by
    obtain ⟨dispatcher, reached, run, installs⟩ := around.run_install options focus name site
    refine ⟨dispatcher, reached, ?_, installs⟩
    have operated : (around.operate (around.perform depth) (.install options focus name)).run site =
        .done (.dispatcher dispatcher) reached := run_bind_of_done run
    rw [run_perform, operated]
  start entries options focus name := by
    simp only [run_perform, run_operate_start]
    rw [run_bind]
    cases ((around.launch (around.perform depth)).prepare entries).run site with
    | done _ waited =>
      obtain ⟨host, follow⟩ := around.run_follow (around.perform depth) waited
      obtain ⟨dispatcher, reached, run, installs⟩ :=
        around.run_install options focus name { waited with host }
      refine ⟨dispatcher, reached, ?_, installs⟩
      simp only [run_bind_of_done follow, run_bind_of_done run, run_pure]
    | failed fault waited => rfl
    | exhausted => rfl
  refused entries offends := by
    obtain ⟨fault, first, run⟩ :=
      (around.launch (around.perform depth)).settings.run_load_of_offends offends site
    refine ⟨fault, first, ?_⟩
    unfold Launch.prepare
    rw [run_bind, run]
  accepted entries clean := by
    obtain ⟨⟨settings, count⟩, load, -⟩ := Settings.load_of_clean clean
    unfold Launch.prepare SettingsHost.load
    rw [load]
    exact ⟨_, _, rfl⟩
  undisturbed entries idle := by
    have keeps : Keeps (fun waited => waited.fleet = site.fleet ∧ waited.notes = site.notes)
        ((around.launch (around.perform depth)).prepare entries) := by
      apply keeps_prepare
      · exact fun _ _ h => h
      · exact fun verbose => (idle verbose).keeps_run fun _ _ h => h
    exact keeps site ⟨rfl, rfl⟩
  uninstall := by
    obtain ⟨reached, run, retires⟩ := around.run_uninstall site
    refine ⟨reached, ?_, retires⟩
    have operated : (around.operate (around.perform depth) .uninstall).run site =
        .done .nothing reached := run_bind_of_done run
    rw [run_perform, operated]
  installed := rfl

end SiteSurroundings

/-- Whatever is done with the dispatchers of a host, on any pipelines, also by callbacks in the
middle of a delivery: after every call the pipelines are empty and nothing is installed, or they
hold nothing but what is installed, once, where the call that made it said. Installing or starting
while something is installed gives just that and changes no dispatcher and no pipeline. A start only
comes to this if its settings are valid and logging starts; otherwise it fails and the dispatchers
stay as they were. What is uninstalled is idle. No pipeline offers it an event again, and what it
had armed is not run. -/
theorem installed_once [DecidableEq ν] (around : SiteSurroundings τ κ ω φ ν) (depth : Nat) :
    (∀ {α : Type} (code : SiteCode τ κ ω φ α) (host : τ),
      (around.play depth code).Ends { host } fun _ reached =>
        reached.fleet.Sound ∧
          ∀ earlier note later, reached.notes = earlier ++ note :: later → note.Fits earlier) ∧
      ∀ site, around.Calls depth site := by
  constructor
  · intro α code host
    have good : Keeps Site.Good (around.play depth code) :=
      SiteSurroundings.keeps_within (around.keeps_perform depth) code
    apply (good { host } (Site.good_empty host)).mono
    intro _ _ reached
    exact ⟨reached.sound, reached.fits⟩
  · exact around.meets_calls depth

/-! A host with settings, where nobody does anything. -/

structure Vacant where
  settings : Settings := {}
  readers : Subscribers Unit := {}

namespace Vacant

def surroundings : SiteSurroundings Vacant Unit Unit Unit Unit where
  platform _ := .other
  toolkit _ :=
    { rootOf := fun _ => .done none
      isKeyCapture := fun _ => .done false
      isTextEditor := fun _ => .done false
      ancestorIsEditing := fun _ => .done false
      isEnabled := fun _ => .done true
      listenersOf := fun _ => .done fun _ => .done none
      bindingOf := fun _ _ => .done none }
  commandFor _ _ _ := .done none
  menu _ := none
  focus _ := { owner := .done none, window := .done none }
  calls :=
    { decide := fun _ _ => .done true
      run := fun _ _ => .done ()
      report := fun _ _ => .done ()
      toast := fun _ _ => .done () }
  consumed _ := { get := fun _ => false, set := fun _ host => host }
  settings := { get := settings, set := fun settings host => { host with settings } }
  readers := { get := readers, set := fun readers host => { host with readers } }
  follower := ()
  told _ _ _ := .done ()
  startLogger _ := .done ()
  switch _ host := host
  log _ host := host
  allowance := 5

/-- The second call is given the first dispatcher; a new one is made after the end of its
installation. -/
example : ∃ reached : Site Vacant Unit Unit Unit,
    (surroundings.play 1 (Routine.inTurn [.install () () "main", .install () () "side",
      .uninstall, .install () () "side"])).run { host := {} } = .done () reached ∧
    reached.fleet.installed = some (1, "side") ∧ reached.fleet.attached "main" = [] ∧
    reached.fleet.attached "side" = [1] :=
  ⟨_, rfl, rfl, rfl, rfl⟩

/-- A toast would be too short. -/
def hasty : List (String × Value) :=
  [(SettingId.notEnabledToastDuration.name, .number (.finite 1))]

/-- A start with settings that are not valid does not give the dispatcher that is installed. -/
theorem hasty_start_fails : ∃ installed reached fault,
    (surroundings.perform 1 (.install () () "main")).run { host := {} } =
      .done (.dispatcher 0) installed ∧
    installed.fleet.installed = some (0, "main") ∧
    (surroundings.perform 1 (.start hasty () () "main")).run installed = .failed fault reached :=
  ⟨_, _, _, rfl, rfl, rfl⟩

end Vacant
end KeyPrecedence
