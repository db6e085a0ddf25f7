import KeyPrecedence.Proofs.Command.Plain

/-!
# A registry answers as if it kept no overrides

* `RegistryScene`: the registry of a host, with the calls made so far and what was answered;
* `RegistrySurroundings.perform`: an operation, whose subscribers may perform further ones and fail;
* `RegistrySurroundings.ends_operate`: one operation answers what the plain registry answers, and
  leaves what that leaves, before any subscriber is called;
* `registry_refines_plain`: so does every call of a run.
-/

namespace KeyPrecedence

open Act

variable {τ κ ν : Type}

/-- A call of an operation, made after some earlier ones, and what came of it. -/
structure RegistryReply (κ ν : Type) where
  earlier : List (RegistryOp κ ν)
  operation : RegistryOp κ ν
  result : Except Fault (RegistryAnswer κ)

/-- What came of the call is what the plain registry answers after the earlier calls. -/
def RegistryReply.Faithful (reply : RegistryReply κ ν) : Prop :=
  reply.result = ((PlainRegistry.after reply.earlier).step reply.operation).1

/-- The registry of a host with state `τ`. The calls, in the order in which they are made, and the
replies only grow, and nobody reads them. -/
structure RegistryScene (τ κ ν : Type) where
  host : τ
  registry : Registry κ := {}
  subscribers : Subscribers ν := {}
  calls : List (RegistryOp κ ν) := []
  replies : List (RegistryReply κ ν) := []

namespace RegistryScene

def hostSlot : Slot (RegistryScene τ κ ν) τ where
  get := host
  set host scene := { scene with host }

def registrySlot : Slot (RegistryScene τ κ ν) (Registry κ) where
  get := registry
  set registry scene := { scene with registry }

def subscribersSlot : Slot (RegistryScene τ κ ν) (Subscribers ν) where
  get := subscribers
  set subscribers scene := { scene with subscribers }

/-- An operation is called. -/
def note (operation : RegistryOp κ ν) (scene : RegistryScene τ κ ν) : RegistryScene τ κ ν :=
  { scene with calls := scene.calls ++ [operation] }

/-- An operation has come to its end. -/
def reply (reply : RegistryReply κ ν) (scene : RegistryScene τ κ ν) : RegistryScene τ κ ν :=
  { scene with replies := scene.replies ++ [reply] }

/-- The registry stands for what the calls so far leave, and all replies were as they should be. -/
def Good (scene : RegistryScene τ κ ν) : Prop :=
  scene.registry.Represents (.after scene.calls) ∧ ∀ reply ∈ scene.replies, reply.Faithful

/-- An operation has been called that leaves `after`, and the registry is as it was before. -/
structure Called (before after : PlainRegistry κ) (scene : RegistryScene τ κ ν) : Prop where
  before : scene.registry.Represents before
  after : PlainRegistry.after scene.calls = after
  replies : ∀ reply ∈ scene.replies, reply.Faithful

theorem Good.note {scene : RegistryScene τ κ ν} (h : scene.Good) (operation : RegistryOp κ ν) :
    (scene.note operation).Called (.after scene.calls)
      ((PlainRegistry.after scene.calls).step operation).2 :=
  ⟨h.1, PlainRegistry.after_snoc _ _, h.2⟩

theorem Good.reply {scene : RegistryScene τ κ ν} (h : scene.Good) {last : RegistryReply κ ν}
    (faithful : last.Faithful) : (scene.reply last).Good := by
  refine ⟨h.1, fun other hm => ?_⟩
  obtain hm | hm := List.mem_append.mp hm
  · exact h.2 other hm
  · rw [List.mem_singleton.mp hm]
    exact faithful

/-- The registry shows what the operation leaves. -/
theorem Called.good {scene : RegistryScene τ κ ν} {before after : PlainRegistry κ}
    (h : scene.Called before after) {registry : Registry κ}
    (represents : registry.Represents after) : Good { scene with registry } :=
  ⟨h.after ▸ represents, h.replies⟩

end RegistryScene

namespace RegistrySurroundings

open RegistryScene

variable (around : RegistrySurroundings τ ν (RegistryOp κ ν) (RegistryAnswer κ))
  (nested : RegistryOp κ ν → Act (RegistryScene τ κ ν) (RegistryAnswer κ))

/-- The registry where subscribers perform operations by `nested`. -/
def store : RegistryHost (RegistryScene τ κ ν) κ ν where
  registry := registrySlot
  subscribers := subscribersSlot
  call member id := (around.call member id).run hostSlot nested
  log notice := modify fun scene => { scene with host := around.log notice scene.host }
  allowance := around.allowance

variable [DecidableEq ν]

def operate : RegistryOp κ ν → Act (RegistryScene τ κ ν) (RegistryAnswer κ)
  | .register definition => do return .command (← (around.store nested).register definition)
  | .unregister id => do return .truth (← (around.store nested).unregister id)
  | .edit edit => do
    (around.store nested).edit edit.numbered
    return .nothing
  | .ask query => do return (← registrySlot.read).answer query
  | .subscribe member => do
    subscribersSlot.update (·.add member)
    return .nothing
  | .unsubscribe member => do
    subscribersSlot.update (·.remove member)
    return .nothing

/-- Performs an operation, where subscribers may perform further ones so many deep. -/
def perform : Nat → RegistryOp κ ν → Act (RegistryScene τ κ ν) (RegistryAnswer κ) :=
  Act.nesting fun nested operation => do
    let earlier := (← get).calls
    modify (note operation)
    let result ← (around.operate nested operation).attempt
    modify (reply ⟨earlier, operation, result⟩)
    .ofExcept result

end RegistrySurroundings

/-! ## Every call is faithful -/

namespace RegistrySurroundings

open RegistryScene

variable {around : RegistrySurroundings τ ν (RegistryOp κ ν) (RegistryAnswer κ)}
  {nested : RegistryOp κ ν → Act (RegistryScene τ κ ν) (RegistryAnswer κ)}
  {plain : PlainRegistry κ} {operation : RegistryOp κ ν} {scene : RegistryScene τ κ ν}

theorem get_registry (scene : RegistryScene τ κ ν) :
    (around.store nested).registry.get scene = scene.registry := rfl

theorem keeps_code (inner : ∀ operation, Keeps Good (nested operation)) {α : Type}
    (code : Routine τ (RegistryOp κ ν) (RegistryAnswer κ) α) :
    Keeps Good (code.run hostSlot nested) :=
  Routine.keeps_run (fun _ _ h => h) inner code

theorem leads_log (notice : Notice) : Leads Good Good ((around.store nested).log notice) :=
  leads_modify fun _ h => h

theorem leads_announceAll (inner : ∀ operation, Keeps Good (nested operation)) (ids : List String) :
    Leads Good Good ((around.store nested).announceAll ids) := by
  apply RegistryHost.leads_announceAll
  intro member id
  exact leads_guarded (keeps_code inner (around.call member id)) fun _ => leads_log _

theorem ends_register (definition : Definition κ)
    (h : scene.Called plain (plain.step (ν := ν) (.register definition)).2) :
    ((around.store nested).register definition).Ends scene fun result reached =>
      result.map RegistryAnswer.command = (plain.step (ν := ν) (.register definition)).1 ∧
        reached.Good := by
  obtain ⟨agree, added⟩ := h.before.register definition
  simp only [PlainRegistry.step] at h ⊢
  refine Slot.ends_read_bind.mpr (ends_ofExcept_bind.mpr ?_)
  rw [get_registry]
  cases made : scene.registry.register definition with
  | error fault =>
    rw [made] at agree
    generalize plain.register definition = after at agree h ⊢
    cases agree
    exact ⟨rfl, h.good h.before⟩
  | ok result =>
    obtain ⟨command, registry⟩ := result
    have same : command = definition.command := added _ made
    rw [made] at agree
    generalize plain.register definition = after at agree h ⊢
    cases agree with
    | ok represents => exact ⟨by rw [same]; rfl, h.good represents⟩

theorem ends_edit (inner : ∀ operation, Keeps Good (nested operation)) (edit : ShortcutEdit Int)
    (h : scene.Called plain (plain.step (ν := ν) (.edit edit)).2) :
    ((around.store nested).edit edit.numbered).Ends scene fun result reached =>
      result.map (fun _ => RegistryAnswer.nothing) = (plain.step (ν := ν) (.edit edit)).1 ∧
        reached.Good := by
  have agree := h.before.amend edit
  simp only [PlainRegistry.step] at h ⊢
  generalize plain.edit edit = after at agree h ⊢
  let Logged (reached : RegistryScene τ κ ν) : Prop :=
    reached.registry = scene.registry ∧ reached.Called plain (plain.conclude .nothing after).2
  have logged (notice : Notice) : Leads Logged Logged ((around.store nested).log notice) :=
    leads_modify fun _ h => ⟨h.1, h.2.before, h.2.after, h.2.replies⟩
  have begun : Logged scene := ⟨rfl, h⟩
  refine RegistryHost.ends_edit _ begun logged ?_ ?_
  · rintro fault reached refused ⟨-, h⟩
    rw [get_registry] at refused
    rw [refused] at agree
    cases agree
    exact ⟨rfl, h.good h.before⟩
  · rintro amended reached made ⟨same, h⟩
    rw [get_registry] at made
    rw [made] at agree
    cases agree with
    | ok represents =>
      cases amended with
      | none => exact ⟨rfl, h.good (same ▸ represents)⟩
      | some amended =>
        refine Slot.ends_write_bind.mpr ?_
        refine (leads_announceAll inner amended.2 _ (h.good represents)).mono ?_
        rintro _ reached ⟨rfl, good⟩
        exact ⟨rfl, good⟩

/-- An operation answers what the plain registry answers, and leaves what it leaves. -/
theorem ends_operate [DecidableEq ν]
    (around : RegistrySurroundings τ ν (RegistryOp κ ν) (RegistryAnswer κ))
    (inner : ∀ operation, Keeps Good (nested operation))
    (h : scene.Called plain (plain.step operation).2) :
    (around.operate nested operation).Ends scene fun result reached =>
      result = (plain.step operation).1 ∧ reached.Good := by
  cases operation with
  | register definition =>
    refine (ends_register definition h).bind ?_ ?_
    · rintro command reached ⟨answered, good⟩
      exact ⟨answered, good⟩
    · rintro fault reached ⟨answered, good⟩
      exact ⟨answered, good⟩
  | unregister id =>
    refine ⟨?_, h.good (h.before.unregister id)⟩
    show Except.ok (RegistryAnswer.truth (scene.registry.contains id)) = _
    rw [h.before.contains]
    rfl
  | edit edit =>
    refine (ends_edit inner edit h).bind ?_ ?_
    · rintro _ reached ⟨answered, good⟩
      exact ⟨answered, good⟩
    · rintro fault reached ⟨answered, good⟩
      exact ⟨answered, good⟩
  | ask query => exact ⟨congrArg Except.ok (h.before.answer query), h.good h.before⟩
  | subscribe member => exact ⟨rfl, h.good h.before⟩
  | unsubscribe member => exact ⟨rfl, h.good h.before⟩

theorem keeps_perform [DecidableEq ν]
    (around : RegistrySurroundings τ ν (RegistryOp κ ν) (RegistryAnswer κ)) :
    ∀ depth operation, Keeps Good (around.perform depth operation) := by
  refine keeps_nesting fun nested inner operation scene h => ?_
  have ended := ends_operate around inner (h.note operation)
  refine ends_get_bind.mpr (ends_modify_bind.mpr (ends_attempt_bind.mpr (ended.mono ?_)))
  rintro result reached ⟨answered, good⟩
  exact ends_modify_bind.mpr (ends_ofExcept.mpr (good.reply answered))

end RegistrySurroundings

/-- Whatever is done with a registry at whole positions, whatever its subscribers do meanwhile and
whether they fail or not: every call, also one a subscriber makes in the middle of a notification,
answers what a registry without overrides answers that has seen the calls made before it, or is
refused for the same reason; and so does every question at the end. -/
theorem registry_refines_plain [DecidableEq ν]
    (around : RegistrySurroundings τ ν (RegistryOp κ ν) (RegistryAnswer κ)) (depth : Nat) {α : Type}
    (code : Routine τ (RegistryOp κ ν) (RegistryAnswer κ) α) (host : τ) :
    (code.run RegistryScene.hostSlot (around.perform depth)).Ends { host } fun _ scene =>
      (∀ reply ∈ scene.replies, reply.Faithful) ∧
      ∀ query, scene.registry.answer query = (PlainRegistry.after scene.calls).answer query := by
  have started : RegistryScene.Good ({ host } : RegistryScene τ κ ν) :=
    ⟨Registry.represents_empty, by simp⟩
  have kept := RegistrySurroundings.keeps_code (around.keeps_perform depth) code _ started
  exact kept.mono fun _ _ good => ⟨good.2, good.1.answer⟩

end KeyPrecedence
