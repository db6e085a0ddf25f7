import KeyPrecedence.Logging.Logger

/-!
# The logger and what is left to be done

* `Logger.settleAll`: the logger once everything that was left has been done, in order;
* `Logger.Ready`: an initialised logger that nothing keeps from configuring;
* `Logger.InForce`: it has the threshold it wants as soon as nothing is left;
* `InForce.switch`, `InForce.nothing`, `InForce.settleAll`: it stays so.
-/

namespace KeyPrecedence.Logger

variable {logger : Logger} {pending : List Pending}

def settleAll (logger : Logger) (pending : List Pending) : Logger :=
  pending.foldl (fun logger pending => (logger.settle pending).1) logger

theorem settleAll_append (logger : Logger) (pending later : List Pending) :
    logger.settleAll (pending ++ later) = (logger.settleAll pending).settleAll later :=
  List.foldl_append

/-- Doing what is left changes nothing but the threshold. -/
theorem settleAll_eq (logger : Logger) (pending : List Pending) :
    logger.settleAll pending =
      { logger with threshold := (logger.settleAll pending).threshold } := by
  induction pending generalizing logger with
  | nil => rfl
  | cons first rest ih => cases first <;> exact ih _

/-- What is left to be done never undoes the first configuration. -/
theorem isConfigured_settleAll (h : logger.isConfigured) (pending : List Pending) :
    (logger.settleAll pending).isConfigured := by
  induction pending generalizing logger with
  | nil => exact h
  | cons first rest ih =>
    cases first with
    | nothing | failure => exact ih h
    | threshold => exact ih rfl

structure Ready (logger : Logger) : Prop where
  configured : logger.isConfigured
  unobstructed : logger.obstacle = none

def InForce (logger : Logger) (pending : List Pending) : Prop :=
  (logger.settleAll pending).threshold = some logger.wanted

theorem switch_same (logger : Logger) : logger.switch logger.verbose = (logger, .nothing) := by
  simp [switch]

namespace Ready

theorem switch_other (h : logger.Ready) {on : Bool} (other : on ≠ logger.verbose) :
    logger.switch on = ({ logger with verbose := on },
      .threshold (wanted { logger with verbose := on }) (some (.verboseSwitched on))) := by
  refine (if_pos ⟨other, h.configured⟩).trans ?_
  simp only [configure, h.unobstructed]

theorem switch (h : logger.Ready) (on : Bool) : (logger.switch on).1.Ready := by
  by_cases same : on = logger.verbose
  · rw [same, switch_same]
    exact h
  · rw [h.switch_other same]
    exact ⟨h.configured, h.unobstructed⟩

/-- Starting again leaves everything as it is. -/
theorem start (h : logger.Ready) (verbose : Option Bool) :
    logger.start verbose = (logger, .nothing) :=
  if_pos h.configured

theorem settleAll (h : logger.Ready) (pending : List Pending) : (logger.settleAll pending).Ready where
  configured := isConfigured_settleAll h.configured pending
  unobstructed := by rw [settleAll_eq]; exact h.unobstructed

end Ready

namespace InForce

theorem nothing (h : logger.InForce pending) : logger.InForce (pending ++ [.nothing]) := by
  unfold InForce
  rw [settleAll_append]
  exact h

theorem switch (h : logger.InForce pending) (ready : logger.Ready) (on : Bool) :
    (logger.switch on).1.InForce (pending ++ [(logger.switch on).2]) := by
  by_cases same : on = logger.verbose
  · rw [same, switch_same]
    exact h.nothing
  · rw [ready.switch_other same, InForce, settleAll_append]
    rfl

theorem settleAll (h : logger.InForce pending) : (logger.settleAll pending).InForce [] := by
  have wanted : (logger.settleAll pending).wanted = logger.wanted := by
    rw [settleAll_eq]
    rfl
  exact h.trans (congrArg some wanted.symm)

end InForce

theorem verbose_switch (logger : Logger) (on : Bool) : (logger.switch on).1.verbose = on := by
  simp only [switch]
  split <;> rfl

theorem verbose_settleAll (logger : Logger) (pending : List Pending) :
    (logger.settleAll pending).verbose = logger.verbose := by
  rw [settleAll_eq]

end KeyPrecedence.Logger
