import KeyPrecedence.Launch
import KeyPrecedence.Proofs.Dispatch.Scene
import KeyPrecedence.Proofs.Routine

/-!
# Dispatchers that are installed and removed

* `Fleet`: the pipelines of a host, and all the dispatchers that were ever made for it;
* `Site`: a host with its fleet, and notes on what the dispatchers go through;
* `SiteOp`: what code of the host may do with them, also within a callback;
* `SiteSurroundings`: all that is called on such a host;
* `SiteSurroundings.perform`: an operation, with the callbacks' own operations in it.
-/

namespace KeyPrecedence

open Act

variable {τ κ ω φ ν α : Type}

/-- A dispatcher with its options `ω`, and with what it asks about the focus, `φ`. Its origin is the
pipeline named by the call that made it. -/
structure Fitted (κ ω φ : Type) where
  options : ω
  focus : φ
  armed : Option (Armed (Bound κ)) := none
  origin : String

/-- The pipelines, what is installed in them, and the dispatchers in the order in which they were
made. They go by their numbers. -/
structure Fleet (κ ω φ : Type) where
  installation : Installation Nat := {}
  dispatchers : List (Fitted κ ω φ) := []

namespace Fleet

def installed (fleet : Fleet κ ω φ) : Option (Nat × String) := fleet.installation.installed

def attached (fleet : Fleet κ ω φ) (pipeline : String) : List Nat :=
  (fleet.installation.pipeline pipeline).attached

def armed (fleet : Fleet κ ω φ) (dispatcher : Nat) : Option (Armed (Bound κ)) :=
  (fleet.dispatchers[dispatcher]?).bind (·.armed)

def make (fleet : Fleet κ ω φ) (options : ω) (focus : φ) (origin : String) : Fleet κ ω φ :=
  { fleet with dispatchers := fleet.dispatchers ++ [{ options, focus, origin }] }

def change (fleet : Fleet κ ω φ) (dispatcher : Nat) (change : Fitted κ ω φ → Fitted κ ω φ) :
    Fleet κ ω φ :=
  { fleet with dispatchers := fleet.dispatchers.modify dispatcher change }

def setArmed (fleet : Fleet κ ω φ) (dispatcher : Nat) (armed : Option (Armed (Bound κ))) :
    Fleet κ ω φ :=
  fleet.change dispatcher fun fitted => { fitted with armed }

end Fleet

/-- What may be done with the dispatchers of a host. -/
inductive SiteOp (ω φ : Type)
  | install (options : ω) (focus : φ) (pipeline : String)
  | start (entries : List (String × Value)) (options : ω) (focus : φ) (pipeline : String)
  | uninstall
  | installed
  | deliver (pipeline : String) (event : KeyEvent)
  | dispatch (dispatcher : Nat) (event : KeyEvent)
  | reset (dispatcher : Nat)
  | setFocus (dispatcher : Nat) (focus : φ)
  | armed (dispatcher : Nat)

inductive SiteAnswer (κ : Type)
  | nothing
  | dispatcher (dispatcher : Nat)
  | installed (dispatcher : Option Nat)
  | handled (handled : Bool)
  | armed (armed : Option (Armed (Bound κ)))

/-- Any code on a host with state `τ`. -/
abbrev SiteCode (τ κ ω φ α : Type) := Routine τ (SiteOp ω φ) (SiteAnswer κ) α

/-- What dispatchers go through: one is offered an event by a pipeline, arms a command, runs one, or
is uninstalled. The fleet is noted after every operation. -/
inductive SiteNote (κ ω φ : Type)
  | offered (dispatcher : Nat) (event : KeyEvent)
  | armed (dispatcher : Nat) (bound : Bound κ)
  | ran (dispatcher : Nat) (callback : κ) (context : Context)
  | uninstalled (dispatcher : Nat)
  | after (fleet : Fleet κ ω φ)

/-- A host with dispatchers. The notes only grow, and nobody reads them. -/
structure Site (τ κ ω φ : Type) where
  host : τ
  fleet : Fleet κ ω φ := {}
  notes : List (SiteNote κ ω φ) := []

namespace Site

def hostSlot : Slot (Site τ κ ω φ) τ where
  get := host
  set host site := { site with host }

/-- A part of the host's own state. -/
def part (slot : Slot τ α) : Slot (Site τ κ ω φ) α where
  get site := slot.get site.host
  set value site := { site with host := slot.set value site.host }

def installationSlot : Slot (Site τ κ ω φ) (Installation Nat) where
  get site := site.fleet.installation
  set installation site := { site with fleet := { site.fleet with installation } }

def pipelineSlot (name : String) : Slot (Site τ κ ω φ) (Pipeline Nat) where
  get site := site.fleet.installation.pipeline name
  set pipeline site := { site with
    fleet := { site.fleet with installation := site.fleet.installation.withPipeline name pipeline } }

def note (note : SiteNote κ ω φ) (site : Site τ κ ω φ) : Site τ κ ω φ :=
  { site with notes := site.notes ++ [note] }

def setArmed (dispatcher : Nat) (armed : Option (Armed (Bound κ))) (site : Site τ κ ω φ) :
    Site τ κ ω φ :=
  { site with fleet := site.fleet.setArmed dispatcher armed }

/-- The place of what a dispatcher has armed. -/
def armedSlot (dispatcher : Nat) : Slot (Site τ κ ω φ) (Option (Armed (Bound κ))) where
  get site := site.fleet.armed dispatcher
  set armed site :=
    match armed with
    | some armed => (site.setArmed dispatcher armed).note (.armed dispatcher armed.command)
    | none => site.setArmed dispatcher none

/-- Makes a dispatcher and gives its number. -/
def make (options : ω) (focus : φ) (origin : String) : Act (Site τ κ ω φ) Nat := fun site =>
  .done site.fleet.dispatchers.length { site with fleet := site.fleet.make options focus origin }

/-- A dispatcher is reset as it is uninstalled. -/
def retire (dispatcher : Nat) (site : Site τ κ ω φ) : Site τ κ ω φ :=
  (site.setArmed dispatcher none).note (.uninstalled dispatcher)

def look (site : Site τ κ ω φ) : Site τ κ ω φ := site.note (.after site.fleet)

end Site

/-- Runs code whose operations are performed by `nested`. -/
abbrev SiteCode.within (nested : SiteOp ω φ → Act (Site τ κ ω φ) (SiteAnswer κ))
    (code : SiteCode τ κ ω φ α) : Act (Site τ κ ω φ) α :=
  code.run Site.hostSlot nested

/-! ## The code around -/

/-- All that is called on a host: what the options and the focus sources of its dispatchers stand
for, the callbacks of commands, and what a start sets up first. Logging may take its time to start,
and anything may happen meanwhile. -/
structure SiteSurroundings (τ κ ω φ ν : Type) where
  platform : ω → Platform
  toolkit : ω → Toolkit (SiteCode τ κ ω φ)
  commandFor : ω → Keystroke → Window → SiteCode τ κ ω φ (Option (Command κ))
  menu : ω → Option (KeyEvent → SiteCode τ κ ω φ Bool)
  focus : φ → Focus (SiteCode τ κ ω φ)
  calls : Callbacks (SiteCode τ κ ω φ) κ
  consumed : KeyEvent → Slot τ Bool
  settings : Slot τ Settings
  readers : Slot τ (Subscribers ν)
  follower : ν
  told : ν → SettingKey → Value → SiteCode τ κ ω φ Unit
  startLogger : Bool → SiteCode τ κ ω φ Unit
  switch : Bool → τ → τ
  log : Notice → τ → τ
  allowance : Nat

namespace SiteSurroundings

variable (around : SiteSurroundings τ κ ω φ ν)
  (nested : SiteOp ω φ → Act (Site τ κ ω φ) (SiteAnswer κ))

def write (notice : Notice) : Act (Site τ κ ω φ) Unit :=
  modify fun site => { site with host := around.log notice site.host }

/-- The focus source of a dispatcher, as it is when it is asked. -/
def focusOf (dispatcher : Nat) (question : Focus (SiteCode τ κ ω φ) → SiteCode τ κ ω φ (Option α)) :
    Act (Site τ κ ω φ) (Option α) := do
  match (← get).fleet.dispatchers[dispatcher]? with
  | none => return none
  | some fitted => (question (around.focus fitted.focus)).within nested

def dispatcher (dispatcher : Nat) (options : ω) : Dispatcher (Site τ κ ω φ) κ where
  platform := around.platform options
  toolkit := (around.toolkit options).map (SiteCode.within nested)
  focus :=
    { owner := around.focusOf nested dispatcher (·.owner)
      window := around.focusOf nested dispatcher (·.window) }
  commandFor keystroke window := (around.commandFor options keystroke window).within nested
  menu := (around.menu options).map fun processes event => (processes event).within nested
  calls :=
    { decide := fun callback context => (around.calls.decide callback context).within nested
      run := fun callback context => do
        modify (Site.note (.ran dispatcher callback context))
        (around.calls.run callback context).within nested
      report := fun callback context => (around.calls.report callback context).within nested
      toast := fun name id => (around.calls.toast name id).within nested }
  consumed event := Site.part (around.consumed event)
  armed := Site.armedSlot dispatcher
  log := around.write
  allowance := around.allowance

def dispatch (dispatcher : Nat) (event : KeyEvent) : Act (Site τ κ ω φ) Bool := do
  match (← get).fleet.dispatchers[dispatcher]? with
  | none => return false
  | some fitted => (around.dispatcher nested dispatcher fitted.options).dispatch event

/-- A pipeline offers an event to a dispatcher. -/
def offer (event : KeyEvent) (dispatcher : Nat) : Act (Site τ κ ω φ) Bool := do
  modify (Site.note (.offered dispatcher event))
  around.dispatch nested dispatcher event

def launch : Launch (Site τ κ ω φ) ν Nat where
  settings :=
    { settings := Site.part around.settings
      subscribers := Site.part around.readers
      call := fun reader key value => (around.told reader key value).within nested
      log := around.write
      allowance := around.allowance }
  verbosity :=
    { settings := Site.part around.settings
      subscribers := Site.part around.readers
      follower := around.follower
      switch := fun on => modify fun site => { site with host := around.switch on site.host }
      log := around.write }
  startLogger on := (around.startLogger on).within nested
  installation := Site.installationSlot

/-- An installation on behalf of a call. -/
def install (options : ω) (focus : φ) (pipeline : String) : Act (Site τ κ ω φ) Nat :=
  Installation.install Site.installationSlot around.write (Site.make options focus pipeline) pipeline

def uninstall : Act (Site τ κ ω φ) Unit :=
  Installation.uninstall Site.installationSlot around.write fun dispatcher =>
    modify (Site.retire dispatcher)

variable [DecidableEq ν]

def operate : SiteOp ω φ → Act (Site τ κ ω φ) (SiteAnswer κ)
  | .install options focus pipeline => do
    return .dispatcher (← around.install options focus pipeline)
  | .start entries options focus pipeline => do
    return .dispatcher (← (around.launch nested).start entries
      (Site.make options focus pipeline) pipeline)
  | .uninstall => do
    around.uninstall
    return .nothing
  | .installed => do return .installed ((← Site.installationSlot.read).installed.map (·.1))
  | .deliver pipeline event => do
    return .handled (← Pipeline.deliver (Site.pipelineSlot pipeline) around.allowance
      (around.offer nested event) event)
  | .dispatch dispatcher event => do
    return .handled (← around.dispatch nested dispatcher event)
  | .reset dispatcher => do
    (Site.armedSlot dispatcher).write none
    return .nothing
  | .setFocus dispatcher focus => do
    modify fun site => { site with
      fleet := site.fleet.change dispatcher fun fitted => { fitted with focus } }
    return .nothing
  | .armed dispatcher => do return .armed (← (Site.armedSlot dispatcher).read)

/-- Performs an operation, where callbacks may perform further ones so many deep. The fleet is noted
after each, also when it failed. -/
def perform : Nat → SiteOp ω φ → Act (Site τ κ ω φ) (SiteAnswer κ) :=
  Act.nesting fun nested operation =>
    (around.operate nested operation).followedBy (modify Site.look)

theorem perform_succ (depth : Nat) (operation : SiteOp ω φ) :
    around.perform (depth + 1) operation =
      (around.operate (around.perform depth) operation).followedBy (modify Site.look) :=
  rfl

/-- Runs code of the host. -/
def play (depth : Nat) (code : SiteCode τ κ ω φ α) : Act (Site τ κ ω φ) α :=
  code.within (around.perform depth)

end SiteSurroundings
end KeyPrecedence
