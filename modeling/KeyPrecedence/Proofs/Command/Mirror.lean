import KeyPrecedence.Proofs.Command.Edit

/-!
# Following the shortcuts from notifications

* `MirrorScene`: the registry of a host, and a subscriber that keeps a copy of all shortcuts and
  reads them again when it hears of a change;
* `MirrorScene.Holds`: it is subscribed all the time, and the copy of one id may be current;
* `MirrorScene.leads_announce`: an id that is announced is current, whatever it was before;
* `mirror_stays_current`: so the copy is current whenever no change is being made.
-/

namespace KeyPrecedence

open Act

variable {τ κ ν : Type}

/-- What may be done with the shortcuts and with the other subscribers `ν`. -/
inductive ShortcutOp (ν : Type)
  | edit (edit : ShortcutEdit Number)
  | ask (query : RegistryQuery)
  | subscribe (member : ν)
  | unsubscribe (member : ν)

/-- Who hears of a change: the one that keeps a copy, or another subscriber. -/
inductive ShortcutReader (ν : Type)
  | mirror
  | member (member : ν)
  deriving DecidableEq

/-- The registry of a host with state `τ`, the copy kept of its shortcuts, and who was told of which
id so far. -/
structure MirrorScene (τ κ ν : Type) where
  host : τ
  registry : Registry κ
  subscribers : Subscribers (ShortcutReader ν)
  copy : String → List String
  told : List (ShortcutReader ν × String) := []

namespace MirrorScene

def hostSlot : Slot (MirrorScene τ κ ν) τ where
  get := host
  set host scene := { scene with host }

def registrySlot : Slot (MirrorScene τ κ ν) (Registry κ) where
  get := registry
  set registry scene := { scene with registry }

def subscribersSlot : Slot (MirrorScene τ κ ν) (Subscribers (ShortcutReader ν)) where
  get := subscribers
  set subscribers scene := { scene with subscribers }

def tell (reader : ShortcutReader ν) (id : String) (scene : MirrorScene τ κ ν) :
    MirrorScene τ κ ν :=
  { scene with told := scene.told ++ [(reader, id)] }

/-- The shortcuts of one id are read again. -/
def reread (id : String) (scene : MirrorScene τ κ ν) : MirrorScene τ κ ν :=
  { scene with
    copy := fun other => if other = id then scene.registry.effective id else scene.copy other }

/-- The copy is taken as its keeper subscribes, after others. -/
def start [DecidableEq ν] (host : τ) (registry : Registry κ) (members : List ν) :
    MirrorScene τ κ ν where
  host := host
  registry := registry
  subscribers := (members.foldl (fun (subscribers : Subscribers (ShortcutReader ν)) member =>
    subscribers.add (.member member)) {}).add .mirror
  copy := registry.effective

variable (around : RegistrySurroundings τ ν (ShortcutOp ν) (RegistryAnswer κ))
  (nested : ShortcutOp ν → Act (MirrorScene τ κ ν) (RegistryAnswer κ))

/-- The registry where subscribers perform operations by `nested`. -/
def store : RegistryHost (MirrorScene τ κ ν) κ (ShortcutReader ν) where
  registry := registrySlot
  subscribers := subscribersSlot
  call reader id := do
    modify (tell reader id)
    match reader with
    | .mirror => modify (reread id)
    | .member member => (around.call member id).run hostSlot nested
  log notice := modify fun scene => { scene with host := around.log notice scene.host }
  allowance := around.allowance

variable [DecidableEq ν]

def operate : ShortcutOp ν → Act (MirrorScene τ κ ν) (RegistryAnswer κ)
  | .edit edit => do
    (store around nested).edit edit
    return .nothing
  | .ask query => do return (← registrySlot.read).answer query
  | .subscribe member => do
    subscribersSlot.update (·.add (.member member))
    return .nothing
  | .unsubscribe member => do
    subscribersSlot.update (·.remove (.member member))
    return .nothing

/-- Performs an operation, where subscribers may perform further ones so many deep. -/
def perform : Nat → ShortcutOp ν → Act (MirrorScene τ κ ν) (RegistryAnswer κ) :=
  Act.nesting fun nested => operate around nested

end MirrorScene

/-! ## The copy stays current -/

namespace MirrorScene

/-- The mirror is subscribed under a ticket, and the copy of the id that is watched, if one is, is
current. -/
structure Holds (ticket : Nat) (watched : Option String) (scene : MirrorScene τ κ ν) : Prop where
  ordered : scene.subscribers.Ordered
  subscribed : (ticket, .mirror) ∈ scene.subscribers.members
  current : ∀ id, watched = some id → scene.copy id = scene.registry.effective id

variable {around : RegistrySurroundings τ ν (ShortcutOp ν) (RegistryAnswer κ)}
  {nested : ShortcutOp ν → Act (MirrorScene τ κ ν) (RegistryAnswer κ)} {ticket : Nat}
  {watched : Option String}

/-- Operations that leave what is current so. -/
def Respectful (ticket : Nat)
    (nested : ShortcutOp ν → Act (MirrorScene τ κ ν) (RegistryAnswer κ)) : Prop :=
  ∀ watched operation, Keeps (Holds ticket watched) (nested operation)

theorem keeps_code (inner : Respectful ticket nested) (watched : Option String) {α : Type}
    (code : Routine τ (ShortcutOp ν) (RegistryAnswer κ) α) :
    Keeps (Holds ticket watched) (code.run hostSlot nested) :=
  Routine.keeps_run (fun _ _ h => ⟨h.ordered, h.subscribed, h.current⟩) (inner watched) code

theorem leads_log (notice : Notice) :
    Leads (Holds ticket watched) (Holds ticket watched) ((store around nested).log notice) :=
  leads_modify fun _ h => ⟨h.ordered, h.subscribed, h.current⟩

/-- Whoever is told of an id leaves what is current so, and the mirror makes this id current. -/
theorem ends_call (inner : Respectful ticket nested) (reader : ShortcutReader ν) (id : String)
    {scene : MirrorScene τ κ ν} (h : scene.Holds ticket watched) :
    ((store around nested).call reader id).Ends scene fun _ reached =>
      reached.Holds ticket watched ∧ (reader = .mirror → reached.Holds ticket (some id)) := by
  cases reader with
  | mirror =>
    have reread (other : String)
        (fresh : other ≠ id → scene.copy other = scene.registry.effective other) :
        (if other = id then scene.registry.effective id else scene.copy other) =
          scene.registry.effective other := by
      by_cases same : other = id
      · simp [same]
      · simp [same, fresh same]
    refine ⟨⟨h.ordered, h.subscribed, fun other ho => ?_⟩, fun _ => ⟨h.ordered, h.subscribed, ?_⟩⟩
    · exact reread other fun _ => h.current other ho
    · rintro _ ⟨⟩
      exact reread id fun apart => absurd rfl apart
  | member member =>
    have told : Holds ticket watched (tell (.member member) id scene) :=
      ⟨h.ordered, h.subscribed, h.current⟩
    have ran := keeps_code inner watched (around.call member id) _ told
    exact ends_modify_bind.mpr (ran.mono fun _ _ kept => ⟨kept, nofun⟩)

theorem leads_call (inner : Respectful ticket nested) (reader : ShortcutReader ν) (id : String) :
    Leads (Holds ticket watched) (Holds ticket watched)
      (((store around nested).call reader id).guarded fun fault =>
        (store around nested).log (.shortcutListenerFailed fault)) :=
  leads_guarded (fun _ h => (ends_call inner reader id h).mono fun _ _ kept => kept.1)
    fun _ => leads_log _

/-- What is current when an id is announced stays so. -/
theorem leads_announce_watched (inner : Respectful ticket nested) (watched : Option String)
    (id : String) :
    Leads (Holds ticket watched) (Holds ticket watched) ((store around nested).announce id) :=
  Subscribers.leads_callAll (fun reader => leads_call inner reader id) _

/-- An id is current once it has been announced: the mirror has its turn, and whoever comes after it
leaves the id current. -/
theorem leads_announce (inner : Respectful ticket nested) (id : String) :
    Leads (Holds ticket none) (Holds ticket (some id)) ((store around nested).announce id) := by
  have turn : Leads (Holds ticket none) (Holds ticket (some id))
      (((store around nested).call .mirror id).guarded fun fault =>
        (store around nested).log (.shortcutListenerFailed fault)) :=
    leads_guarded (fun _ h => (ends_call inner .mirror id h).mono fun _ _ kept => kept.2 rfl)
      fun _ => leads_log _
  exact Subscribers.leads_callAll_through (fun _ h => ⟨h.ordered, h.subscribed⟩)
    (fun reader => leads_call inner reader id) turn (fun reader => leads_call inner reader id) _

theorem leads_announceAll_watched (inner : Respectful ticket nested) (watched : Option String)
    (ids : List String) :
    Leads (Holds ticket watched) (Holds ticket watched)
      ((store around nested).announceAll ids) :=
  RegistryHost.leads_announceAll _ (leads_call inner) ids

/-- Of several ids that are announced each is current afterwards. -/
theorem leads_announceAll (inner : Respectful ticket nested) {ids : List String} {id : String}
    (heard : id ∈ ids) :
    Leads (Holds ticket none) (Holds ticket (some id))
      ((store around nested).announceAll ids) := by
  induction ids with
  | nil => cases heard
  | cons first ids ih =>
    by_cases own : id = first
    · subst own
      exact (leads_announce inner id).bind (leads_announceAll_watched inner (some id) ids)
    · have later : id ∈ ids := (List.mem_cons.mp heard).resolve_left own
      exact (leads_announce_watched inner none first).bind (ih later)

/-- A change leaves what is current so: what it may have changed is announced. -/
theorem ends_edit (inner : Respectful ticket nested) (edit : ShortcutEdit Number)
    {scene : MirrorScene τ κ ν} (h : scene.Holds ticket watched) :
    ((store around nested).edit edit).Ends scene fun _ reached => reached.Holds ticket watched := by
  let Logged (reached : MirrorScene τ κ ν) : Prop :=
    reached.registry = scene.registry ∧ reached.Holds ticket watched
  have logged (notice : Notice) : Leads Logged Logged ((store around nested).log notice) :=
    leads_modify fun _ h => ⟨h.1, h.2.ordered, h.2.subscribed, h.2.current⟩
  have begun : Logged scene := ⟨rfl, h⟩
  refine RegistryHost.ends_edit _ begun logged (fun _ _ _ h => h.2) ?_
  rintro amended reached made ⟨same, h⟩
  cases amended with
  | none => exact h
  | some amended =>
    obtain ⟨next, ids⟩ := amended
    refine Slot.ends_write_bind.mpr ?_
    have unwatched : Holds ticket none { reached with registry := next } :=
      ⟨h.ordered, h.subscribed, nofun⟩
    cases watched with
    | none => exact (leads_announceAll_watched inner none ids _ unwatched).mono fun _ _ h => h.2
    | some id =>
      by_cases heard : id ∈ ids
      · exact (leads_announceAll inner heard _ unwatched).mono fun _ _ h => h.2
      · have kept : next.effective id = reached.registry.effective id := by
          rw [same]
          exact Registry.effective_of_amend made heard
        have current : Holds ticket (some id) { reached with registry := next } := by
          refine ⟨h.ordered, h.subscribed, ?_⟩
          rintro _ ⟨⟩
          exact (h.current id rfl).trans kept.symm
        exact (leads_announceAll_watched inner (some id) ids _ current).mono fun _ _ h => h.2

/-! ## Nobody is told without a change -/

/-- Announcing never fails, whatever those who are told do. -/
theorem leads_announceAll_any (ids : List String) :
    Leads (fun _ => True) (fun _ => True) ((store around nested).announceAll ids) := by
  have told (reader : ShortcutReader ν) (id : String) : Leads (fun _ => True) (fun _ => True)
      (((store around nested).call reader id).guarded fun fault =>
        (store around nested).log (.shortcutListenerFailed fault)) :=
    leads_guarded (fun _ _ => ends_any) fun _ => leads_modify fun _ _ => trivial
  exact RegistryHost.leads_announceAll _ told ids

/-- A change that is refused, and one back to defaults that are in place, tells nobody. -/
theorem ends_edit_untold (around : RegistrySurroundings τ ν (ShortcutOp ν) (RegistryAnswer κ))
    (nested : ShortcutOp ν → Act (MirrorScene τ κ ν) (RegistryAnswer κ))
    (edit : ShortcutEdit Number) (scene : MirrorScene τ κ ν) :
    ((store around nested).edit edit).Ends scene fun result reached =>
      (∃ fault, result = .error fault) ∨
          (∃ id, edit = .reset id ∧ scene.registry.isModified id = false) →
        reached.told = scene.told ∧ reached.registry = scene.registry := by
  let Untold (reached : MirrorScene τ κ ν) : Prop :=
    reached.told = scene.told ∧ reached.registry = scene.registry
  have logged (notice : Notice) : Leads Untold Untold ((store around nested).log notice) :=
    leads_modify fun _ h => h
  have begun : Untold scene := ⟨rfl, rfl⟩
  refine RegistryHost.ends_edit _ begun logged (fun _ _ _ h _ => h) ?_
  intro amended reached made h
  cases amended with
  | none => exact fun _ => h
  | some amended =>
    refine Slot.ends_write_bind.mpr ((leads_announceAll_any amended.2 _ trivial).mono ?_)
    rintro _ _ ⟨rfl, -⟩ (⟨_, ⟨⟩⟩ | ⟨id, rfl, unmodified⟩)
    exact absurd made (Registry.amend_reset_ne_some unmodified)

/-! ## Whole runs -/

variable [DecidableEq ν]

theorem keeps_operate (inner : Respectful ticket nested) (watched : Option String)
    (operation : ShortcutOp ν) : Keeps (Holds ticket watched) (operate around nested operation) := by
  cases operation with
  | edit edit => exact fun _ h => (ends_edit inner edit h).bind_pure
  | ask query => exact fun _ h => h
  | subscribe member =>
    intro scene h
    exact ⟨h.ordered.add _, Subscribers.mem_add_of_mem h.subscribed _, h.current⟩
  | unsubscribe member =>
    intro scene h
    exact ⟨h.ordered.remove _, Subscribers.mem_remove_of_mem h.subscribed nofun, h.current⟩

theorem respectful_perform (around : RegistrySurroundings τ ν (ShortcutOp ν) (RegistryAnswer κ))
    (ticket : Nat) : ∀ depth, Respectful ticket (perform around depth) :=
  nesting_of_level (fun _ _ => keeps_exhausted) fun _ => keeps_operate

theorem holds_start (host : τ) (registry : Registry κ) (members : List ν) :
    ∃ ticket, ∀ watched, (start host registry members).Holds ticket watched := by
  have ordered (members : List ν) {subscribers : Subscribers (ShortcutReader ν)}
      (h : subscribers.Ordered) : (members.foldl (fun (subscribers : Subscribers (ShortcutReader ν))
        member => subscribers.add (.member member)) subscribers).Ordered := by
    induction members generalizing subscribers with
    | nil => exact h
    | cons member members ih => exact ih (h.add _)
  obtain ⟨ticket, subscribed⟩ := Subscribers.contains_iff.mp (Subscribers.contains_add
    (members.foldl (fun (subscribers : Subscribers (ShortcutReader ν)) member =>
      subscribers.add (.member member)) {}) .mirror)
  exact ⟨ticket, fun _ => ⟨(ordered members Subscribers.ordered_empty).add _, subscribed,
    fun _ _ => rfl⟩⟩

end MirrorScene

/-- A subscriber that keeps a copy of all shortcuts, and on every notification reads those of the id
it is told of again, has a current copy whenever no change is being made, whatever changes are made,
by other subscribers as well and while they are told of a change, whoever else subscribes, leaves or
fails. A call that fails, and one that resets a command that is not modified, tells nobody of
anything. -/
theorem mirror_stays_current [DecidableEq ν]
    (around : RegistrySurroundings τ ν (ShortcutOp ν) (RegistryAnswer κ)) (depth : Nat) {α : Type}
    (code : Routine τ (ShortcutOp ν) (RegistryAnswer κ) α) (host : τ) (registry : Registry κ)
    (members : List ν) :
    ((code.run MirrorScene.hostSlot (MirrorScene.perform around depth)).Ends
      (.start host registry members) fun _ scene =>
        ∀ id, scene.copy id = scene.registry.effective id) ∧
    ∀ (edit : ShortcutEdit Number) (scene : MirrorScene τ κ ν),
      (MirrorScene.perform around depth (.edit edit)).Ends scene fun result reached =>
        (∃ fault, result = .error fault) ∨
            (∃ id, edit = .reset id ∧ scene.registry.isModified id = false) →
          reached.told = scene.told ∧ reached.registry = scene.registry := by
  constructor
  · obtain ⟨ticket, begun⟩ := MirrorScene.holds_start host registry members
    have kept (id : String) := MirrorScene.keeps_code
      (MirrorScene.respectful_perform around ticket depth) (some id) code _ (begun (some id))
    exact (ends_forall kept).mono fun _ _ h id => (h id).current id rfl
  · intro edit scene
    cases depth with
    | zero => trivial
    | succ depth =>
      have untold := MirrorScene.ends_edit_untold around (MirrorScene.perform around depth) edit scene
      refine untold.bind (fun _ reached h => ?_) fun fault _ h _ => h (.inl ⟨fault, rfl⟩)
      rintro (⟨_, ⟨⟩⟩ | unmodified)
      exact h (.inr unmodified)

/-- A subscriber that is told first changes the shortcuts once more, and then fails: the copy has
both changes, and what the second one tells comes before the rest of the first. -/
example :
    (let save : Definition Unit := { id := "save", name := "Save", execute := () }
     let around : RegistrySurroundings Bool Unit (ShortcutOp Unit) (RegistryAnswer Unit) :=
      { call := fun _ id => .look fun done =>
          if done then .done ()
          else .put true (.perform (.edit (.add id "F2")) fun _ => .failed (.raised "busy"))
        log := fun _ done => done
        allowance := 5 }
     let edits := Routine.inTurn [.edit (.set "save" (.ofNat 0) "F1")]
     match (edits.run MirrorScene.hostSlot (MirrorScene.perform around 2)).run
        (.start false ⟨[save.command], {}⟩ [()]) with
      | .done () scene => some (scene.copy "save", scene.told)
      | _ => none) =
    some (["F1", "F2"],
      [(.member (), "save"), (.member (), "save"), (.mirror, "save"), (.mirror, "save")]) := by
  decide +kernel

end KeyPrecedence
