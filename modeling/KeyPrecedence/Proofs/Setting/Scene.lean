import KeyPrecedence.Launch
import KeyPrecedence.Proofs.Routine
import KeyPrecedence.Proofs.Subscribers
import KeyPrecedence.Proofs.Logging.Logger

/-!
# Settings and the code around them

* `SettingsScene`: the settings and the logger of a host, with notes on the verbose logging setting;
* `SettingsSurroundings.perform`: an operation, whose listeners may perform further ones and fail.
-/

namespace KeyPrecedence

open Act

/-- Who hears of a changed setting: what follows verbose logging, or a listener. -/
inductive SettingsReader (ν : Type)
  | follower
  | listener (listener : ν)
  deriving DecidableEq

/-- What may be done with the settings and with what is started from them. `settle` is the moment
when configurations of the logger take effect. -/
inductive SettingsOp (ν : Type)
  | load (entries : List (String × Value))
  | get (name : String)
  | set (name : String) (value : Value)
  | reset (name : String)
  | follow
  | unfollow
  | start (entries : List (String × Value)) (pipeline : String)
  | uninstall
  | subscribe (listener : ν)
  | unsubscribe (listener : ν)
  | settle

inductive SettingsAnswer (δ : Type)
  | nothing
  | value (value : Value)
  | dispatcher (dispatcher : δ)

variable {τ ν δ : Type}

/-- The settings of a host with state `τ`. What is noted of verbose logging is read by nobody. -/
structure SettingsScene (τ ν δ : Type) where
  host : τ
  settings : Settings := {}
  subscribers : Subscribers (SettingsReader ν) := {}
  logger : Logger := {}
  pending : List Logger.Pending := []
  installation : Installation δ := {}
  /-- It was asked to follow verbose logging, directly or by a start, and not to end this since. -/
  following : Bool := false
  /-- Verbose logging as it was last changed on its own, or as the follower found it. -/
  announced : Bool := settings.verboseLogging
  /-- Settings were loaded as a whole since then. -/
  loaded : Bool := false
  /-- A listener called ahead of the follower has changed verbose logging meanwhile, and the
  follower is told of the change before. -/
  outdated : Bool := false

namespace SettingsScene

def hostSlot : Slot (SettingsScene τ ν δ) τ where
  get := host
  set host scene := { scene with host }

def subscribersSlot : Slot (SettingsScene τ ν δ) (Subscribers (SettingsReader ν)) where
  get := subscribers
  set subscribers scene := { scene with subscribers }

def installationSlot : Slot (SettingsScene τ ν δ) (Installation δ) where
  get := installation
  set installation scene := { scene with installation }

/-- Verbose logging is made known as it is now. -/
def announce (scene : SettingsScene τ ν δ) : SettingsScene τ ν δ :=
  { scene with announced := scene.settings.verboseLogging, loaded := false, outdated := false }

def settingsSlot : Slot (SettingsScene τ ν δ) Settings where
  get := settings
  set settings scene := { scene with settings }

/-- The settings as they are loaded. -/
def loadSlot : Slot (SettingsScene τ ν δ) Settings where
  get := settings
  set settings scene := { scene with settings, loaded := true }

/-- The settings as one of them is changed. -/
def changeSlot (name : String) : Slot (SettingsScene τ ν δ) Settings where
  get := settings
  set settings scene :=
    if SettingKey.ofName? name = some (.defined .verboseLogging) then announce { scene with settings }
    else { scene with settings }

def switch (on : Bool) (scene : SettingsScene τ ν δ) : SettingsScene τ ν δ :=
  let (logger, pending) := scene.logger.switch on
  { scene with logger, pending := scene.pending ++ [pending] }

def settle (scene : SettingsScene τ ν δ) : SettingsScene τ ν δ :=
  { scene with logger := scene.logger.settleAll scene.pending, pending := [] }

variable [DecidableEq ν]

/-- The subscribers as the follower joins or leaves. -/
def followSlot : Slot (SettingsScene τ ν δ) (Subscribers (SettingsReader ν)) where
  get := subscribers
  set subscribers scene :=
    if subscribers.contains .follower then announce { scene with subscribers }
    else { scene with subscribers }

def followerAfter (ticket : Nat) (scene : SettingsScene τ ν δ) : Bool :=
  scene.subscribers.members.any fun (other, reader) => reader = .follower ∧ ticket < other

/-- A listener with a ticket has been told of a setting. A follower that comes after it in this
round will be told the same. -/
def told (ticket : Nat) (key : SettingKey) (value : Value) (scene : SettingsScene τ ν δ) :
    SettingsScene τ ν δ :=
  match key, value with
  | .defined .verboseLogging, .bool on =>
    if scene.followerAfter ticket then { scene with outdated := on ≠ scene.announced } else scene
  | _, _ => scene

end SettingsScene

/-- What the settings meet: listeners, which may do anything with the settings and may fail, records
that are written as the logger has it, and dispatchers to be made and reset. -/
structure SettingsSurroundings (τ ν δ : Type) where
  call : ν → SettingKey → Value → Routine τ (SettingsOp ν) (SettingsAnswer δ) Unit
  log : Logger → Notice → τ → τ
  make : Act τ δ
  reset : δ → Act τ Unit
  allowance : Nat

namespace SettingsSurroundings

variable [DecidableEq ν] [DecidableEq δ] (around : SettingsSurroundings τ ν δ)
  (nested : SettingsOp ν → Act (SettingsScene τ ν δ) (SettingsAnswer δ))

def write (notice : Notice) : Act (SettingsScene τ ν δ) Unit :=
  modify fun scene => { scene with host := around.log scene.logger notice scene.host }

def verbosity : Verbosity (SettingsScene τ ν δ) (SettingsReader ν) where
  settings := SettingsScene.settingsSlot
  subscribers := SettingsScene.followSlot
  follower := .follower
  switch on := modify (SettingsScene.switch on)
  log := around.write

/-- The settings where listeners perform operations by `nested`. -/
def store (settings : Slot (SettingsScene τ ν δ) Settings) :
    SettingsHost (SettingsScene τ ν δ) (SettingsReader ν) where
  settings := settings
  subscribers := SettingsScene.subscribersSlot
  call reader key value :=
    match reader with
    | .follower => around.verbosity.heed key value
    | .listener listener => do
      let ticket := (← get).subscribers.ticketOf (.listener listener)
      ((around.call listener key value).run SettingsScene.hostSlot nested).followedBy
        (modify (SettingsScene.told ticket key value))
  log := around.write
  allowance := around.allowance

def launch : Launch (SettingsScene τ ν δ) (SettingsReader ν) δ where
  settings := around.store nested SettingsScene.loadSlot
  verbosity := around.verbosity
  startLogger on := do
    let (logger, pending) := (← get).logger.start (some on)
    modify fun scene => { scene with logger }
    match pending with
    | .failure text => .fail (.raised text)
    | pending => modify fun scene => { scene with pending := scene.pending ++ [pending] }
  installation := SettingsScene.installationSlot

def operate : SettingsOp ν → Act (SettingsScene τ ν δ) (SettingsAnswer δ)
  | .load entries => do
    (around.store nested SettingsScene.loadSlot).load entries
    return .nothing
  | .get name => do return .value (← (around.store nested SettingsScene.settingsSlot).get name)
  | .set name value => do
    (around.store nested (SettingsScene.changeSlot name)).set name value
    return .nothing
  | .reset name => do
    (around.store nested (SettingsScene.changeSlot name)).reset name
    return .nothing
  | .follow => do
    around.verbosity.follow
    modify fun scene => { scene with following := true }
    return .nothing
  | .unfollow => do
    modify fun scene => { scene with following := false }
    around.verbosity.unfollow
    return .nothing
  | .start entries pipeline => do
    let dispatcher ← (around.launch nested).start entries
      (SettingsScene.hostSlot.act around.make) pipeline
    modify fun scene => { scene with following := true }
    return .dispatcher dispatcher
  | .uninstall => do
    Installation.uninstall SettingsScene.installationSlot around.write fun dispatcher =>
      SettingsScene.hostSlot.act (around.reset dispatcher)
    return .nothing
  | .subscribe listener => do
    SettingsScene.subscribersSlot.update (·.add (.listener listener))
    return .nothing
  | .unsubscribe listener => do
    SettingsScene.subscribersSlot.update (·.remove (.listener listener))
    return .nothing
  | .settle => do
    modify SettingsScene.settle
    return .nothing

/-- Performs an operation, where listeners may perform further ones so many deep. -/
def perform : Nat → SettingsOp ν → Act (SettingsScene τ ν δ) (SettingsAnswer δ) :=
  Act.nesting around.operate

end SettingsSurroundings
end KeyPrecedence
